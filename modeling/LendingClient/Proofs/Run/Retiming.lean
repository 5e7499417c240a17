import LendingClient.Proofs.Run.Confined
import LendingClient.Proofs.Run.Reading

/-!
# Runs that differ in the delays of reads

Two ledgers that hold the same accounts and fail the same reads may still answer in different orders
and after different times. A read by itself does not show it. Of reads that are asked together the
first that will not do ends them all, and which one that is depends on the delays, and so does how
many of them are started. If all of them will do, nothing shows the delays: an action that opens with
such reads and goes on with single ones (`Opens`) comes to the same end by the same reads. If some
will not do, the action ends with the error of one of them.
-/

namespace LendingClient

/-- The error that a result is, if it is one. -/
def failure? {α : Type} : Except Error α → Option Error
  | .ok _ => none
  | .error error => some error

/-- A list of one element at most has no two of them. -/
theorem eq_of_mem_of_length_le_one {α : Type} {list : List α} {first second : α}
    (h : list.length ≤ 1) (hfirst : first ∈ list) (hsecond : second ∈ list) : first = second := by
  obtain ⟨only, rfl⟩ := List.length_eq_one_iff.mp
    (Nat.le_antisymm h (List.length_pos_iff.mpr (List.ne_nil_of_mem hfirst)))
  rw [List.mem_singleton.mp hfirst, List.mem_singleton.mp hsecond]

namespace ScriptedLedger

variable {α β : Type} {ledger other later : ScriptedLedger}

/-- The error that the ledger has in store for the read that comes after `n` others, if any. -/
def faultAt (ledger : ScriptedLedger) (n : Nat) : Option Error :=
  ledger.script.accountReads[n]?.bind (failure? ·.answer)

/-- Two ledgers hold the same accounts and fail the same reads with the same errors. They may differ
in how long every answer takes. -/
structure Retimed (ledger other : ScriptedLedger) : Prop where
  accounts : other.accounts = ledger.accounts
  faults : ∀ n, other.faultAt n = ledger.faultAt n

/-- A ledger that never fails to read an account has no error in store. -/
theorem Answers.faultAt_eq_none (h : ledger.Answers) (n : Nat) : ledger.faultAt n = none := by
  unfold faultAt
  cases hanswer : ledger.script.accountReads[n]? with
  | none => rfl
  | some answer =>
    change failure? answer.answer = none
    rw [h answer (List.mem_of_getElem? hanswer)]
    rfl

/-- Ledgers that hold the same accounts and never fail to read one differ in delays only. -/
theorem retimed_of_answers (haccounts : other.accounts = ledger.accounts) (h : ledger.Answers)
    (hother : other.Answers) : Retimed ledger other := by
  refine ⟨haccounts, fun n => ?_⟩
  rw [h.faultAt_eq_none, hother.faultAt_eq_none]

/-- The ledger with given waits before its reads, none of which fails. -/
def delayedBy (ledger : ScriptedLedger) (delays : List (List Nat)) : ScriptedLedger :=
  { ledger with
    script := { ledger.script with accountReads := delays.map fun waits => ⟨waits, .ok ()⟩ } }

/-- A ledger that is only delayed never fails. -/
theorem answers_delayedBy (ledger : ScriptedLedger) (delays : List (List Nat)) :
    (ledger.delayedBy delays).Answers := by
  intro answer hmem
  obtain ⟨waits, -, rfl⟩ := List.mem_map.mp hmem
  rfl

/-- The next answer is an error if one is in store. -/
theorem answer_nextAnswer (ledger : ScriptedLedger) :
    (nextAnswer () ledger.script.accountReads).1.answer =
      (ledger.faultAt 0).elim (.ok ()) .error := by
  unfold faultAt
  cases ledger.script.accountReads with
  | nil => rfl
  | cons answer answers =>
    change answer.answer = (failure? answer.answer).elim _ _
    cases answer.answer <;> rfl

/-- After a read the errors in store move up. -/
theorem faultAt_tail {reads : List (ScriptedAnswer Unit)}
    (hreads : later.script.accountReads = (nextAnswer () reads).2)
    (hledger : ledger.script.accountReads = reads) (n : Nat) :
    later.faultAt n = ledger.faultAt (n + 1) := by
  unfold faultAt
  rw [hreads, hledger]
  cases reads <;> rfl

/-- Two ledgers go on failing the same reads when each has answered one. -/
theorem Retimed.tail {otherLater : ScriptedLedger} (h : Retimed ledger other)
    (haccounts : otherLater.accounts = later.accounts)
    (hlater : later.script.accountReads = (nextAnswer () ledger.script.accountReads).2)
    (hother : otherLater.script.accountReads = (nextAnswer () other.script.accountReads).2) :
    Retimed later otherLater := by
  refine ⟨haccounts, fun n => ?_⟩
  rw [faultAt_tail hlater rfl, faultAt_tail hother rfl]
  exact h.faults (n + 1)

/-- A single read is answered alike whatever the delays. -/
theorem Retimed.answer_account (h : Retimed ledger other) (address : Key) :
    (other.answer (.account address)).1 = (ledger.answer (.account address)).1 ∧
      Retimed (ledger.answer (.account address)).2 (other.answer (.account address)).2 := by
  have hanswer (ledger : ScriptedLedger) : (ledger.answer (.account address)).1 =
      ((ledger.faultAt 0).elim (.ok ()) .error : Except Error Unit).map fun _ =>
        ledger.accounts.get? address := by
    rw [← answer_nextAnswer]
    rfl
  refine ⟨?_, h.tail h.accounts rfl rfl⟩
  rw [hanswer, hanswer, h.faults, h.accounts]

/-! ### Reads that are asked together -/

/-- What becomes of reads if all of them are started. -/
def outcomes (ledger : ScriptedLedger) : List Query → List (Except Error (Option Bytes))
  | [] => []
  | query :: queries =>
    (ledger.startRead query).1.outcome :: (ledger.startRead query).2.outcomes queries

/-- The errors of the reads that will not do. -/
def faults (ledger : ScriptedLedger) (queries : List Query) : List Error :=
  (ledger.outcomes queries).filterMap failure?

/-- A read that is started comes to the same whatever the delays. -/
theorem Retimed.startRead (h : Retimed ledger other) (query : Query) :
    (other.startRead query).1.outcome = (ledger.startRead query).1.outcome ∧
      Retimed (ledger.startRead query).2 (other.startRead query).2 := by
  have houtcome (ledger : ScriptedLedger) : (ledger.startRead query).1.outcome =
      (((ledger.faultAt 0).elim (.ok ()) .error : Except Error Unit).map fun _ =>
        ledger.accounts.get? query.address) >>= fun data =>
          query.accept data >>= fun _ => pure data := by
    rw [← answer_nextAnswer]
    rfl
  refine ⟨?_, h.tail h.accounts rfl rfl⟩
  rw [houtcome, houtcome, h.faults, h.accounts]

/-- Reads that are all started come to the same whatever the delays. -/
theorem Retimed.outcomes (h : Retimed ledger other) (queries : List Query) :
    other.outcomes queries = ledger.outcomes queries := by
  induction queries generalizing ledger other with
  | nil => rfl
  | cons query queries ih =>
    obtain ⟨houtcome, hrest⟩ := h.startRead query
    rw [ScriptedLedger.outcomes, ScriptedLedger.outcomes, houtcome, ih hrest]

/-- Whatever the delays, the same reads will not do. -/
theorem Retimed.faults_together (h : Retimed ledger other) (queries : List Query) :
    other.faults queries = ledger.faults queries := by
  unfold ScriptedLedger.faults
  rw [h.outcomes]

/-- The reads that are started are the first ones. -/
theorem outcome_startReads_prefix (ledger : ScriptedLedger) (queries : List Query) :
    (ledger.startReads queries).1.map (·.outcome) <+: ledger.outcomes queries := by
  induction queries generalizing ledger with
  | nil => exact List.nil_prefix
  | cons query queries ih =>
    rw [startReads_cons, outcomes]
    split
    · exact List.cons_prefix_cons.mpr ⟨rfl, List.nil_prefix⟩
    · exact List.cons_prefix_cons.mpr ⟨rfl, ih _⟩

private theorem error?_eq (read : RunningRead) : read.error? = failure? read.outcome := by
  unfold RunningRead.error?
  cases read.outcome <;> rfl

/-- The ledger after reads were started, all of them. -/
def started (ledger : ScriptedLedger) : List Query → ScriptedLedger
  | [] => ledger
  | query :: queries => (ledger.startRead query).2.started queries

/-- Reads are all started if all of them will do. -/
theorem startReads_of_faults_eq_nil {queries : List Query} (h : ledger.faults queries = []) :
    (ledger.startReads queries).1.map (·.outcome) = ledger.outcomes queries ∧
      (ledger.startReads queries).2 = ledger.started queries := by
  induction queries generalizing ledger with
  | nil => exact ⟨rfl, rfl⟩
  | cons query queries ih =>
    rw [faults, outcomes, List.filterMap_cons] at h
    cases hfirst : failure? (ledger.startRead query).1.outcome with
    | some error =>
      rw [hfirst] at h
      cases h
    | none =>
      rw [hfirst] at h
      obtain ⟨houtcomes, hlater⟩ := ih h
      rw [startReads_cons, error?_eq, hfirst]
      simp only [Option.isSome_none, Bool.and_false, Bool.false_eq_true, if_false, List.map_cons,
        houtcomes, hlater]
      exact ⟨rfl, rfl⟩

/-- Of reads of which some will not do, one that is started will not. -/
theorem exists_error_startReads {queries : List Query} (h : ledger.faults queries ≠ []) :
    ∃ read ∈ (ledger.startReads queries).1, ∃ error, read.error? = some error := by
  induction queries generalizing ledger with
  | nil => exact absurd rfl h
  | cons query queries ih =>
    rw [faults, outcomes, List.filterMap_cons, ← error?_eq] at h
    rw [startReads_cons]
    cases hfirst : (ledger.startRead query).1.error? with
    | some error =>
      refine ⟨(ledger.startRead query).1, ?_, error, hfirst⟩
      split <;> exact List.mem_cons_self
    | none =>
      rw [hfirst] at h
      obtain ⟨read, hmem, herror⟩ := ih h
      simp only [Option.isSome_none, Bool.and_false, Bool.false_eq_true, if_false]
      exact ⟨read, List.mem_cons_of_mem _ hmem, herror⟩

/-- Reads of which some will not do are answered with the error of one of those. -/
theorem exists_answer_accounts_eq_error {queries : List Query} (h : ledger.faults queries ≠ []) :
    ∃ error ∈ ledger.faults queries, (ledger.answer (.accounts queries)).1 = .error error := by
  have hanswer : (ledger.answer (.accounts queries)).1 =
      (together (ledger.startReads queries).1).2 := rfl
  obtain ⟨bad, hbad, error, herror⟩ := exists_error_startReads h
  cases htogether : (together (ledger.startReads queries).1).2 with
  | ok data =>
    have hnone := toOption_mapM_outcome hbad herror
    rw [← toOption_together, htogether] at hnone
    cases hnone
  | error error =>
    obtain ⟨read, hread, herror⟩ := exists_of_together_eq_error htogether
    refine ⟨error, List.mem_filterMap.mpr ⟨read.outcome, ?_, ?_⟩, hanswer.trans htogether⟩
    · exact (ledger.outcome_startReads_prefix queries).subset (List.mem_map_of_mem hread)
    · rw [← error?_eq, herror]

/-- Reads that will all do are answered with what becomes of them. -/
theorem answer_accounts_eq {queries : List Query} (h : ledger.faults queries = []) :
    (ledger.answer (.accounts queries)).1 =
      (ledger.outcomes queries).mapM fun outcome => outcome := by
  have hanswer : (ledger.answer (.accounts queries)).1 =
      (together (ledger.startReads queries).1).2 := rfl
  have hsame : (together (ledger.startReads queries).1).2.toOption =
      ((ledger.outcomes queries).mapM fun outcome => outcome).toOption := by
    rw [toOption_together, ← (startReads_of_faults_eq_nil h).1, List.mapM_map]
    rfl
  obtain ⟨data, hdata⟩ : ∃ data,
      ((ledger.outcomes queries).mapM fun outcome => outcome) = .ok data := by
    refine exists_mapM_eq_ok fun outcome hmem => ?_
    cases outcome with
    | ok data => exact ⟨data, rfl⟩
    | error error =>
      have herror : error ∈ ledger.faults queries := List.mem_filterMap.mpr ⟨_, hmem, rfl⟩
      rw [h] at herror
      cases herror
  rw [hdata] at hsame ⊢
  rw [hanswer]
  exact toOption_eq_some_iff.mp hsame

private theorem Retimed.started (h : Retimed ledger other) (queries : List Query) :
    Retimed (ledger.started queries) (other.started queries) := by
  induction queries generalizing ledger other with
  | nil => exact h
  | cons query queries ih => exact ih (h.startRead query).2

private theorem hasRead_started (ledger : ScriptedLedger) (queries : List Query) :
    HasRead ledger (ledger.started queries) (queries.map (·.address)) := by
  induction queries generalizing ledger with
  | nil => rfl
  | cons query queries ih =>
    have hfirst : HasRead ledger (ledger.startRead query).2 [query.address] := rfl
    exact hfirst.trans (ih _)

section Answered

variable {queries : List Query} (hnone : ledger.faults queries = [])
include hnone

/-- Reads that will all do are all noted. -/
private theorem hasRead_answer_accounts :
    HasRead ledger (ledger.answer (.accounts queries)).2 (queries.map (·.address)) := by
  have hread := ledger.hasRead_started queries
  rw [← (startReads_of_faults_eq_nil hnone).2] at hread
  exact hread

/-- Reads that will all do leave ledgers behind that differ in delays only. -/
private theorem Retimed.answer_accounts (h : Retimed ledger other)
    (hother : other.faults queries = []) :
    Retimed (ledger.answer (.accounts queries)).2 (other.answer (.accounts queries)).2 := by
  have hlater := h.started queries
  rw [← (startReads_of_faults_eq_nil hnone).2, ← (startReads_of_faults_eq_nil hother).2] at hlater
  exact ⟨hlater.accounts, hlater.faults⟩

end Answered

/-- Two runs of something come to the same end by the same reads, and leave ledgers behind that differ
in delays as those did on which they began. -/
structure SameRun (ledger other : ScriptedLedger) (run otherRun : Except Abort α × ScriptedLedger) :
    Prop where
  result : otherRun.1 = run.1
  reads : ∃ keys, HasRead ledger run.2 keys ∧ HasRead other otherRun.2 keys
  retimed : Retimed run.2 otherRun.2

/-- Two runs that end at once with one result are the same. -/
theorem SameRun.refl (h : Retimed ledger other) (result : Except Abort α) :
    SameRun ledger other (result, ledger) (result, other) :=
  ⟨rfl, ⟨[], rfl, rfl⟩, h⟩

/-- A run goes on as it began. -/
theorem SameRun.after {middle otherMiddle : ScriptedLedger}
    {run otherRun : Except Abort α × ScriptedLedger} {keys : List Key}
    (hread : HasRead ledger middle keys) (hother : HasRead other otherMiddle keys)
    (h : SameRun middle otherMiddle run otherRun) : SameRun ledger other run otherRun := by
  obtain ⟨more, hmore, hmoreOther⟩ := h.reads
  exact ⟨h.result, ⟨keys ++ more, hread.trans hmore, hother.trans hmoreOther⟩, h.retimed⟩

end ScriptedLedger

open ScriptedLedger

variable {α β : Type} {ledger other : ScriptedLedger} {queries : List Query}

/-- A call that reads one account. -/
def Call.IsRead : Call → Prop
  | .account _ => True
  | _ => False

/-- Single reads do not show delays. -/
theorem Task.play_retimed {task : Task α} (htask : task.Asks Call.IsRead)
    (h : Retimed ledger other) : SameRun ledger other (ledger.play task) (other.play task) := by
  induction task generalizing ledger other with
  | done value => exact .refl h _
  | abort why => exact .refl h _
  | ask call next ih =>
    obtain ⟨hcall, hnext⟩ := htask
    cases call with
    | account address =>
      obtain ⟨hsame, hlater⟩ := h.answer_account address
      have hread (ledger : ScriptedLedger) :
          HasRead ledger (ledger.answer (.account address)).2 [address] := rfl
      rw [play_ask, play_ask, hsame]
      exact .after (hread ledger) (hread other) (ih _ (hnext _) hlater)
    | _ => exact hcall.elim
  | race => exact htask.elim

namespace Action

/-- An action opens with reads that are asked together, and goes on with single reads. -/
def Opens (action : Action α) (queries : List Query) : Prop :=
  ∃ f : List (Option Bytes) → Action α, action = Action.accounts queries >>= f ∧
    ∀ data, (f data).run.Asks Call.IsRead

/-- An action that opens with some reads still does when single ones follow it. -/
theorem Opens.bind {action : Action α} {f : α → Action β} (haction : action.Opens queries)
    (hf : ∀ value, (f value).run.Asks Call.IsRead) : (action >>= f).Opens queries := by
  obtain ⟨next, rfl, hnext⟩ := haction
  exact ⟨fun data => next data >>= f, bind_assoc _ _ _, fun data => asks_bind (hnext data) hf⟩

variable {action : Action α}

/-- What opens with reads that will all do runs the same whatever the delays. -/
theorem Opens.sameRun (haction : action.Opens queries) (h : Retimed ledger other)
    (hnone : ledger.faults queries = []) :
    SameRun ledger other (ledger.play action.run) (other.play action.run) := by
  obtain ⟨f, rfl, hf⟩ := haction
  have hnoneOther : other.faults queries = [] := (h.faults_together queries).trans hnone
  have hsame : (other.answer (.accounts queries)).1 = (ledger.answer (.accounts queries)).1 := by
    rw [answer_accounts_eq hnone, answer_accounts_eq hnoneOther, h.outcomes]
  have hlater := h.answer_accounts hnone hnoneOther
  have hbegun (ledger : ScriptedLedger) : ledger.play (Action.accounts queries).run =
      (.ok (ledger.answer (.accounts queries)).1, (ledger.answer (.accounts queries)).2) := rfl
  have hfirst := hbegun ledger
  have hother := hbegun other
  rw [hsame] at hother
  refine .after (hasRead_answer_accounts hnone) (hasRead_answer_accounts hnoneOther) ?_
  cases hanswer : (ledger.answer (.accounts queries)).1 with
  | ok data =>
    rw [hanswer] at hfirst hother
    rw [play_action_ok hfirst, play_action_ok hother]
    exact Task.play_retimed (hf data) hlater
  | error error =>
    rw [hanswer] at hfirst hother
    rw [play_action_error hfirst, play_action_error hother]
    exact .refl hlater _

/-- What opens with reads of which some will not do ends with the error of one of them, and has read
the first of those accounts only. -/
theorem Opens.exists_error (haction : action.Opens queries) (h : ledger.faults queries ≠ []) :
    ∃ error ∈ ledger.faults queries, (ledger.play action.run).1 = .ok (.error error) ∧
      ∃ read, read <+: queries.map (·.address) ∧
        HasRead ledger (ledger.play action.run).2 read := by
  obtain ⟨f, rfl, -⟩ := haction
  obtain ⟨error, hmem, hanswer⟩ := exists_answer_accounts_eq_error h
  have hbegun : ledger.play (Action.accounts queries).run =
      (.ok (ledger.answer (.accounts queries)).1, (ledger.answer (.accounts queries)).2) := rfl
  rw [hanswer] at hbegun
  refine ⟨error, hmem, ?_⟩
  rw [play_action_error hbegun]
  exact ⟨rfl, ledger.exists_hasRead_accounts queries⟩

end Action

/-- Two runs on ledgers that differ in delays are alike, but for what reads that were asked together
may spoil, given the errors of those that will not do. A value is reached on both or on neither. With
one such error or none the results are the same, and with none the reads are too. Otherwise each run
ends with one of the errors, and has made only the first of the reads. -/
structure AlikeBut (bad : List Error) (asked : List Key) (ledger other : ScriptedLedger)
    (run otherRun : Except Abort (Except Error α) × ScriptedLedger) : Prop where
  value : ∀ value, otherRun.1 = .ok (.ok value) ↔ run.1 = .ok (.ok value)
  result : bad.length ≤ 1 → otherRun.1 = run.1
  reads : bad = [] → ∃ read, HasRead ledger run.2 read ∧ HasRead other otherRun.2 read
  choice : bad ≠ [] → otherRun.1 = run.1 ∨
    (∃ error ∈ bad, run.1 = .ok (.error error)) ∧ ∃ error ∈ bad, otherRun.1 = .ok (.error error)
  started : bad ≠ [] → (∃ read, read <+: asked ∧ HasRead ledger run.2 read) ∧
    ∃ read, read <+: asked ∧ HasRead other otherRun.2 read

/-- What ends before any read is alike. -/
theorem AlikeBut.refl {bad : List Error} {asked : List Key} (result : Except Abort (Except Error α)) :
    AlikeBut bad asked ledger other (result, ledger) (result, other) where
  value _ := Iff.rfl
  result _ := rfl
  reads _ := ⟨[], rfl, rfl⟩
  choice _ := .inl rfl
  started _ := ⟨⟨[], List.nil_prefix, rfl⟩, [], List.nil_prefix, rfl⟩

/-- Delays of reads that open an action show only in what reads that will not do may spoil. -/
theorem Action.Opens.alikeBut {action : Action α} (haction : action.Opens queries)
    (h : Retimed ledger other) :
    AlikeBut (ledger.faults queries) (queries.map (·.address)) ledger other
      (ledger.play action.run) (other.play action.run) := by
  by_cases hnone : ledger.faults queries = []
  · obtain ⟨hresult, hreads, -⟩ := haction.sameRun h hnone
    exact ⟨fun _ => by rw [hresult], fun _ => hresult, fun _ => hreads,
      fun hsome => absurd hnone hsome, fun hsome => absurd hnone hsome⟩
  · have hsame := h.faults_together queries
    obtain ⟨error, hmem, hrun, hread⟩ := haction.exists_error hnone
    obtain ⟨otherError, hother, hotherRun, hotherRead⟩ := haction.exists_error (hsame.trans_ne hnone)
    rw [hsame] at hother
    refine ⟨fun value => ?_, fun hone => ?_, fun hnil => absurd hnil hnone,
      fun _ => .inr ⟨⟨error, hmem, hrun⟩, otherError, hother, hotherRun⟩,
      fun _ => ⟨hread, hotherRead⟩⟩
    · rw [hrun, hotherRun]
      exact ⟨nofun, nofun⟩
    · rw [hrun, hotherRun, eq_of_mem_of_length_le_one hone hother hmem]

end LendingClient
