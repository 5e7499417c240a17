import LendingClient.Proofs.Run.Scripted

/-!
# Runs that differ in the wish to cancel

A ledger that follows a script answers alike whether or not the caller will wish to cancel. So a
task that races nothing against that wish is carried out alike. A task that races all its calls, and
comes to one and the same end whenever the wish comes first, is only cut short: up to the wish its
calls are those that it would have made anyway.
-/

namespace LendingClient

/-- All calls are raced against the wish to cancel, and `stop` is what the task ends with when the
wish comes first. -/
def Task.Raced {α : Type} (stop : α) : Task α → Prop
  | .done _ | .abort _ => True
  | .ask .. => False
  | .race _ cancelled next => cancelled = .done stop ∧ ∀ answer, (next answer).Raced stop

namespace ScriptedLedger

/-- The ledger with another wish to cancel. -/
def wishing (ledger : ScriptedLedger) (cancel : Option Nat) : ScriptedLedger :=
  { ledger with cancelAt := cancel }

variable (ledger : ScriptedLedger) (cancel : Option Nat)

@[simp]
private theorem cancelAt_wishing : (ledger.wishing cancel).cancelAt = cancel :=
  rfl

@[simp]
private theorem now_wishing : (ledger.wishing cancel).now = ledger.now :=
  rfl

/-- Starts one read. -/
def startRead (query : Query) : RunningRead × ScriptedLedger :=
  let (answer, answers) := nextAnswer () ledger.script.accountReads
  let noted := ledger.note (.account query.address)
  let later := { noted with script := { noted.script with accountReads := answers } }
  let outcome := do
    let data ← later.readAnswer query.address answer
    query.accept data
    return data
  (⟨wakesFrom 0 answer.waits, outcome⟩, later)

/-- Reads are started one after the other, up to one that will not do and is there at once. -/
theorem startReads_cons (query : Query) (queries : List Query) :
    ledger.startReads (query :: queries) =
      if (ledger.startRead query).1.wakes.isEmpty && (ledger.startRead query).1.error?.isSome then
        ([(ledger.startRead query).1], (ledger.startRead query).2)
      else
        ((ledger.startRead query).1 :: ((ledger.startRead query).2.startReads queries).1,
          ((ledger.startRead query).2.startReads queries).2) :=
  rfl

private theorem startReads_wishing (queries : List Query) :
    (ledger.wishing cancel).startReads queries =
      ((ledger.startReads queries).1, (ledger.startReads queries).2.wishing cancel) := by
  induction queries generalizing ledger with
  | nil => rfl
  | cons query queries ih =>
    have hstart : (ledger.wishing cancel).startRead query =
        ((ledger.startRead query).1, (ledger.startRead query).2.wishing cancel) := rfl
    rw [startReads_cons, startReads_cons, hstart, ih]
    dsimp only
    split <;> rfl

private theorem afterSend_wishing (signature : Except Error Signature) :
    (ledger.wishing cancel).afterSend signature = (ledger.afterSend signature).wishing cancel := by
  cases signature <;> rfl

/-- What a call is answered, and when, does not depend on the wish to cancel. -/
theorem respond_wishing (call : Call) :
    (ledger.wishing cancel).respond call =
      ((ledger.respond call).1, (ledger.respond call).2.1,
        (ledger.respond call).2.2.wishing cancel) := by
  cases call with
  | accounts queries => rw [respond, respond, startReads_wishing]
  | send transaction =>
    let sent : ScriptedLedger :=
      { ledger.note (.send transaction) with
        script := { ledger.script with sends := (nextAnswer none ledger.script.sends).2 } }
    exact Prod.ext rfl (Prod.ext rfl (sent.afterSend_wishing cancel _))
  | _ => rfl

private theorem answer_wishing (call : Call) :
    (ledger.wishing cancel).answer call =
      ((ledger.answer call).1, (ledger.answer call).2.wishing cancel) := by
  rw [answer, respond_wishing]
  rfl

variable {α β : Type} {ledger} {cancel} {later : ScriptedLedger} {task : Task α}

/-- A task that goes on after another one is carried out where that one left the ledger. -/
theorem play_bind_ok {value : α} {f : α → Task β} (h : ledger.play task = (.ok value, later)) :
    ledger.play (task.bind f) = later.play (f value) := by
  induction task generalizing ledger with
  | done => cases h; rfl
  | abort => cases h
  | ask call next ih => exact ih _ h
  | race call cancelled next ihCancelled ih =>
    cases hanswer : ledger.answerRacing call with
    | mk answer middle =>
      rw [play_race hanswer] at h
      change ledger.play (.race call (cancelled.bind f) fun answer => (next answer).bind f) = _
      rw [play_race hanswer]
      cases answer with
      | none => exact ihCancelled h
      | some answer => exact ih answer h

/-- A task does not go on after one that broke off. -/
theorem play_bind_error {why : Abort} {f : α → Task β}
    (h : ledger.play task = (.error why, later)) :
    ledger.play (task.bind f) = (.error why, later) := by
  induction task generalizing ledger with
  | done => cases h
  | abort => cases h; rfl
  | ask call next ih => exact ih _ h
  | race call cancelled next ihCancelled ih =>
    cases hanswer : ledger.answerRacing call with
    | mk answer middle =>
      rw [play_race hanswer] at h
      change ledger.play (.race call (cancelled.bind f) fun answer => (next answer).bind f) = _
      rw [play_race hanswer]
      cases answer with
      | none => exact ihCancelled h
      | some answer => exact ih answer h

/-- To work something out from the end of a task asks nothing more. -/
theorem play_bind_done (task : Task α) (f : α → β) :
    ledger.play (task.bind fun value => .done (f value)) =
      ((ledger.play task).1.map f, (ledger.play task).2) := by
  cases hplay : ledger.play task with
  | mk result later =>
    cases result with
    | ok value =>
      rw [play_bind_ok hplay]
      rfl
    | error why =>
      rw [play_bind_error hplay]
      rfl

/-- To work something out from the value of an action asks nothing more. -/
theorem play_map {ε : Type} (action : ExceptT ε Task α) (f : α → β) :
    ledger.play (action >>= fun value => pure (f value)).run =
      ((ledger.play action.run).1.map (·.map f), (ledger.play action.run).2) := by
  rw [← play_bind_done]
  refine congrArg ledger.play (congrArg action.run.bind (funext fun result => ?_))
  cases result <;> rfl

/-- An action that goes on after a value is carried out where the first part left the ledger. -/
theorem play_action_ok {action : Action α} {value : α} {f : α → Action β}
    (h : ledger.play action.run = (.ok (.ok value), later)) :
    ledger.play (action >>= f).run = later.play (f value).run :=
  play_bind_ok h

/-- An action does not go on after one that ended in an error. -/
theorem play_action_error {action : Action α} {error : Error} {f : α → Action β}
    (h : ledger.play action.run = (.ok (.error error), later)) :
    ledger.play (action >>= f).run = (.ok (.error error), later) :=
  play_bind_ok h

/-- An action does not go on after one that stopped. -/
theorem play_action_stop {action : Action α} {f : α → Action β} {stop : Except Abort Error}
    (h : ledger.play action.run = (stop.map .error, later)) :
    ledger.play (action >>= f).run = (stop.map .error, later) := by
  cases stop with
  | error why => exact play_bind_error h
  | ok error => exact play_bind_ok h

/-- A task that races nothing is carried out alike, whatever the wish to cancel. -/
theorem play_wishing {allowed : Call → Prop} (htask : task.Asks allowed) :
    (ledger.wishing cancel).play task =
      ((ledger.play task).1, (ledger.play task).2.wishing cancel) := by
  induction task generalizing ledger with
  | done => rfl
  | abort => rfl
  | ask call next ih =>
    rw [play_ask, play_ask, answer_wishing]
    exact ih _ (htask.2 _)
  | race => exact htask.elim

/-- A ledger at a later time, with the calls noted that were made since. -/
structure Later (ledger later : ScriptedLedger) : Prop where
  cancelAt : later.cancelAt = ledger.cancelAt
  now_le : ledger.now ≤ later.now
  calls : ∃ noted, later.calls = noted ++ ledger.calls ∧ ∀ entry ∈ noted, ledger.now ≤ entry.1

/-- A ledger is as late as itself. -/
theorem Later.refl (ledger : ScriptedLedger) : Later ledger ledger :=
  ⟨rfl, Nat.le_refl _, [], rfl, by simp⟩

/-- What is later than something later is later. -/
theorem Later.trans {middle : ScriptedLedger} (first : Later ledger middle)
    (second : Later middle later) : Later ledger later := by
  obtain ⟨before, hbefore, hfirst⟩ := first.calls
  obtain ⟨after, hafter, hsecond⟩ := second.calls
  refine ⟨second.cancelAt.trans first.cancelAt, Nat.le_trans first.now_le second.now_le,
    after ++ before, by simp [hafter, hbefore], ?_⟩
  refine List.forall_mem_append.mpr ⟨fun entry hmem => ?_, hfirst⟩
  exact Nat.le_trans first.now_le (hsecond entry hmem)

/-- A call is noted when it is made. -/
theorem calls_respond (ledger : ScriptedLedger) (call : Call) :
    ∃ noted, (ledger.respond call).2.2.calls = noted ++ ledger.calls ∧
      ∀ entry ∈ noted, entry.1 = ledger.now := by
  obtain ⟨-, -, noted, -, hcalls⟩ := ledger.respond_spec call
  exact ⟨_, hcalls, by simp⟩

private theorem later_respond (ledger : ScriptedLedger) (call : Call) {now : Nat}
    (h : ledger.now ≤ now) : Later ledger { (ledger.respond call).2.2 with now := now } := by
  obtain ⟨noted, hcalls, hnoted⟩ := ledger.calls_respond call
  exact ⟨(ledger.respond_spec call).2.1, h, noted, hcalls,
    fun entry hmem => Nat.le_of_eq (hnoted entry hmem).symm⟩

/-- An answer leaves a later ledger behind. -/
private theorem later_answer (ledger : ScriptedLedger) (call : Call) :
    Later ledger (ledger.answer call).2 := by
  have hnow : ledger.now ≤ (ledger.answer call).2.now := by
    rw [now_answer]
    exact Nat.le_add_right _ _
  exact ledger.later_respond call hnow

/-- Whatever the ledger makes of a task, it is later then. -/
theorem later_play (task : Task α) (ledger : ScriptedLedger) :
    Later ledger (ledger.play task).2 := by
  induction task generalizing ledger with
  | done => exact .refl ledger
  | abort => exact .refl ledger
  | ask call next ih => exact (ledger.later_answer call).trans (ih _ _)
  | race call cancelled next ihCancelled ih =>
    by_cases hcut : ∃ wish ∈ ledger.cancelAt, wish ≤ ledger.now + (ledger.respond call).1
    · obtain ⟨wish, hwish, hdue⟩ := hcut
      rcases Nat.lt_or_ge ledger.now wish with hnow | hnow
      · rw [play_race_cut hwish hnow hdue]
        exact (ledger.later_respond call (Nat.le_of_lt hnow)).trans (ihCancelled _)
      · rw [play_race_spare hwish hnow]
        exact ihCancelled ledger
    · rw [play_race_heard fun wish hwish => Nat.lt_of_not_le fun hdue => hcut ⟨wish, hwish, hdue⟩]
      exact (ledger.later_answer call).trans (ih _ _)

variable {stop : α} {wish : Nat}

/-- On a ledger without a wish to cancel a race is decided by the answer. -/
theorem play_race_quiet {call : Call} {cancelled : Task α} {next : call.Answer → Task α}
    (hquiet : ledger.cancelAt = none) :
    ledger.play (.race call cancelled next) =
      (ledger.answer call).2.play (next (ledger.answer call).1) := by
  refine play_race_heard fun wish hwish => ?_
  rw [hquiet] at hwish
  cases hwish

/-- With a wish to cancel that comes after the answer, a race is decided by the answer as well. -/
theorem play_race_wishing {call : Call} {cancelled : Task α} {next : call.Answer → Task α}
    (hwish : (ledger.answer call).2.now < wish) :
    (ledger.wishing (some wish)).play (.race call cancelled next) =
      ((ledger.answer call).2.wishing (some wish)).play (next (ledger.answer call).1) := by
  rw [now_answer] at hwish
  rw [play_race_heard, answer_wishing]
  rw [respond_wishing, cancelAt_wishing, now_wishing]
  simpa using hwish

/-- A raced task that is over before the wish to cancel is carried out as if there was none. -/
theorem play_raced_of_lt (htask : task.Raced stop) (hquiet : ledger.cancelAt = none)
    (hwish : (ledger.play task).2.now < wish) :
    (ledger.wishing (some wish)).play task =
      ((ledger.play task).1, (ledger.play task).2.wishing (some wish)) := by
  induction task generalizing ledger with
  | done => rfl
  | abort => rfl
  | ask => exact htask.elim
  | race call cancelled next _ ih =>
    rw [play_race_quiet hquiet] at hwish ⊢
    have hnow := (later_play (next (ledger.answer call).1) (ledger.answer call).2).now_le
    rw [play_race_wishing (Nat.lt_of_le_of_lt hnow hwish)]
    exact ih _ (htask.2 _) ((ledger.later_answer call).cancelAt.trans hquiet) hwish

/-- How a task that was begun at a ledger is cut short by a wish to cancel: it ends with `stop` when
the wish comes, or at once, and it has made the calls that are made before the wish otherwise. -/
structure CutAt (wish : Nat) (stop : α) (ledger : ScriptedLedger)
    (quiet hasty : Except Abort α × ScriptedLedger) : Prop where
  result : hasty.1 = .ok stop
  now : hasty.2.now = max wish ledger.now
  calls : ∃ noted, quiet.2.calls = noted ++ ledger.calls ∧
    hasty.2.calls = (noted.filter fun entry => entry.1 < wish) ++ ledger.calls

/-- A raced task that is not over before the wish to cancel is cut short by it. It has to be there
already when the wish comes, or to make a call first. -/
theorem play_raced_of_le (htask : task.Raced stop) (hquiet : ledger.cancelAt = none)
    (hbegun : ledger.now < wish ∨ ∃ call cancelled next, task = .race call cancelled next)
    (hwish : wish ≤ (ledger.play task).2.now) :
    CutAt wish stop ledger (ledger.play task) ((ledger.wishing (some wish)).play task) := by
  induction task generalizing ledger with
  | done value =>
    rcases hbegun with hlt | ⟨_, _, _, h⟩
    · exact absurd hlt (Nat.not_lt_of_le hwish)
    · cases h
  | abort why =>
    rcases hbegun with hlt | ⟨_, _, _, h⟩
    · exact absurd hlt (Nat.not_lt_of_le hwish)
    · cases h
  | ask => exact htask.elim
  | race call cancelled next _ ih =>
    obtain ⟨rfl, hnext⟩ := htask
    rw [play_race_quiet hquiet] at hwish ⊢
    have hanswer : ledger.now ≤ (ledger.answer call).2.now := (ledger.later_answer call).now_le
    obtain ⟨first, hfirst, hmade⟩ := ledger.calls_respond call
    obtain ⟨since, hsince, hlater⟩ :=
      (later_play (next (ledger.answer call).1) (ledger.answer call).2).calls
    have hcalls : ((ledger.answer call).2.play (next (ledger.answer call).1)).2.calls =
        (since ++ first) ++ ledger.calls := by
      rw [hsince, List.append_assoc, ← hfirst]
      rfl
    have hkept (hnow : ledger.now < wish) : first.filter (fun entry => entry.1 < wish) = first :=
      List.filter_eq_self.mpr fun entry hmem => by
        rw [hmade entry hmem]
        exact decide_eq_true hnow
    -- the wish comes after the answer, or before the answer is due, or is there already
    rcases Nat.lt_or_ge (ledger.answer call).2.now wish with hheard | hdue
    · obtain ⟨hresult, hnow, noted, hquietCalls, hhasty⟩ :=
        ih _ (hnext _) ((ledger.later_answer call).cancelAt.trans hquiet) (.inl hheard) hwish
      obtain rfl : noted = since := List.append_cancel_right (hquietCalls.symm.trans hsince)
      rw [play_race_wishing hheard]
      refine ⟨hresult, by omega, _, hcalls, ?_⟩
      rw [hhasty, List.filter_append, hkept (Nat.lt_of_le_of_lt hanswer hheard), List.append_assoc,
        ← hfirst]
      rfl
    · have hdropped : since.filter (fun entry => entry.1 < wish) = [] :=
        List.filter_eq_nil_iff.mpr fun entry hmem => by
          have := hlater entry hmem
          simp
          omega
      rcases Nat.lt_or_ge (ledger.wishing (some wish)).now wish with hnow | hspare
      · have hwishing : wish ≤ (ledger.wishing (some wish)).now +
            ((ledger.wishing (some wish)).respond call).1 := by
          rw [respond_wishing, now_wishing, ← now_answer]
          exact hdue
        rw [play_race_cut rfl hnow hwishing, respond_wishing, play_done]
        refine ⟨rfl, (Nat.max_eq_left (Nat.le_of_lt hnow)).symm, _, hcalls, ?_⟩
        rw [List.filter_append, hdropped, hkept hnow, List.nil_append, ← hfirst]
        rfl
      · have hnone : first.filter (fun entry => entry.1 < wish) = [] :=
          List.filter_eq_nil_iff.mpr fun entry hmem => by
            rw [hmade entry hmem]
            simpa using hspare
        rw [play_race_spare rfl hspare, play_done]
        refine ⟨rfl, (Nat.max_eq_right hspare).symm, _, hcalls, ?_⟩
        rw [List.filter_append, hdropped, hnone]
        rfl

end ScriptedLedger

end LendingClient
