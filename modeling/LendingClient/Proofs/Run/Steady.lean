import LendingClient.Proofs.Run.Snapshot
import LendingClient.Proofs.Run.Wishes

/-!
# Actions that a ledger carries out alike, however slowly

A ledger that follows a script may answer the reads of an action in any order and after any delays,
or fail to read an account. An action is steady if none of that matters but a failure: it never
breaks off, it comes to the value that it has on the snapshot (`Action.valueOn`), and it leaves the
snapshot as it was. Reads that are asked together are steady, since the first one that will not do
ends them all, whichever it is.
-/

namespace LendingClient

namespace ScriptedLedger

variable {α β : Type} (ledger : ScriptedLedger)

/-- What an action finds on a ledger that follows a script. -/
def snapshot : Snapshot where
  accounts := ledger.accounts
  fresh := .ofSeed (ledger.freshSeed ledger.freshKeys)

/-- The ledger never fails to read an account. -/
def Answers : Prop :=
  ∀ answer ∈ ledger.script.accountReads, answer.answer = .ok ()

/-- A ledger without a script for its reads never fails. -/
theorem answers_of_eq_nil (h : ledger.script.accountReads = []) : ledger.Answers := by
  unfold Answers
  rw [h]
  exact List.forall_mem_nil _

/-- The ledger has an error in store for a read of an account. -/
def MayFail (error : Error) : Prop :=
  ∃ answer ∈ ledger.script.accountReads, answer.answer = .error error

/-- A ledger that never fails has no error in store. -/
theorem Answers.not_mayFail {ledger : ScriptedLedger} (h : ledger.Answers) (error : Error) :
    ¬ ledger.MayFail error := by
  rintro ⟨answer, hmem, herror⟩
  cases (h answer hmem).symm.trans herror

/-- Something came to what it should, or to an error that the ledger had in store. -/
def Truthful (result : Except Error α) (truth : Option α) : Prop :=
  result.toOption = truth ∨ ∃ error, result = .error error ∧ ledger.MayFail error

/-- A success is what something should come to. -/
theorem Truthful.eq_some {ledger : ScriptedLedger} {value : α} {truth : Option α}
    (h : ledger.Truthful (.ok value) truth) : truth = some value := by
  rcases h with hvalue | ⟨error, herror, -⟩
  · exact hvalue.symm
  · cases herror

/-- A ledger on which nothing was changed: an action finds what it found before, and fails by no
other errors. -/
structure Unmoved (ledger later : ScriptedLedger) : Prop where
  snapshot : later.snapshot = ledger.snapshot
  reads : later.script.accountReads ⊆ ledger.script.accountReads

/-- A ledger on which nothing was changed twice is one on which nothing was changed. -/
theorem Unmoved.trans {ledger middle later : ScriptedLedger} (first : Unmoved ledger middle)
    (second : Unmoved middle later) : Unmoved ledger later :=
  ⟨second.snapshot.trans first.snapshot, List.Subset.trans second.reads first.reads⟩

/-- A ledger that never fails does not fail later on. -/
theorem Unmoved.answers {ledger later : ScriptedLedger} (h : Unmoved ledger later)
    (hanswers : ledger.Answers) : later.Answers :=
  fun answer hmem => hanswers answer (h.reads hmem)

/-- An error that is in store later on was in store before. -/
theorem Unmoved.mayFail {ledger later : ScriptedLedger} {error : Error} (h : Unmoved ledger later) :
    later.MayFail error → ledger.MayFail error :=
  fun ⟨answer, hmem, herror⟩ => ⟨answer, h.reads hmem, herror⟩

/-- What is truthful on a ledger on which nothing was changed is truthful on the ledger before. -/
theorem Truthful.of_unmoved {ledger middle : ScriptedLedger} {result : Except Error α}
    {truth : Option α} (h : middle.Truthful result truth) (hmoved : Unmoved ledger middle) :
    ledger.Truthful result truth :=
  h.imp_right fun ⟨error, herror, hfails⟩ => ⟨error, herror, hmoved.mayFail hfails⟩

/-- What follows something truthful is truthful. -/
theorem Truthful.bind {ledger : ScriptedLedger} {result : Except Error α} {truth : Option α}
    {f : α → Except Error β} {g : α → Option β} (h : ledger.Truthful result truth)
    (hnext : ∀ value, result = .ok value → ledger.Truthful (f value) (g value)) :
    ledger.Truthful (result >>= f) (truth.bind g) := by
  cases result with
  | error error =>
    rcases h with rfl | ⟨other, hother, hfails⟩
    · exact .inl rfl
    · cases hother
      exact .inr ⟨error, rfl, hfails⟩
  | ok value =>
    rw [h.eq_some]
    exact hnext value rfl

/-- An answer that is an error was in store. -/
theorem nextAnswer_ok_or :
    (nextAnswer () ledger.script.accountReads).1.answer = .ok () ∨
      ∃ error, (nextAnswer () ledger.script.accountReads).1.answer = .error error ∧
        ledger.MayFail error := by
  unfold MayFail
  cases ledger.script.accountReads with
  | nil => exact .inl rfl
  | cons answer answers =>
    change answer.answer = .ok () ∨ ∃ error, answer.answer = .error error ∧ _
    cases hanswer : answer.answer with
    | ok => exact .inl rfl
    | error error => exact .inr ⟨error, rfl, answer, List.mem_cons_self, hanswer⟩

/-- The answers that are left after one were there before it. -/
theorem nextAnswer_subset :
    (nextAnswer () ledger.script.accountReads).2 ⊆ ledger.script.accountReads := by
  cases ledger.script.accountReads with
  | nil => exact List.Subset.refl _
  | cons answer answers => exact List.subset_cons_self _ _

/-- To start a read changes nothing. -/
theorem unmoved_startRead (query : Query) : Unmoved ledger (ledger.startRead query).2 :=
  ⟨rfl, ledger.nextAnswer_subset⟩

/-- A read will not do if it came to an error. -/
theorem error?_eq_some_iff {read : RunningRead} {error : Error} :
    read.error? = some error ↔ read.outcome = .error error := by
  unfold RunningRead.error?
  cases read.outcome with
  | ok data => exact ⟨nofun, nofun⟩
  | error other => rw [Option.some.injEq, Except.error.injEq]

/-- A read that is started finds the data of its account, if the data will do. -/
theorem truthful_startRead (query : Query) :
    ledger.Truthful (ledger.startRead query).1.outcome (ledger.accounts.ask? query) := by
  have houtcome : (ledger.startRead query).1.outcome =
      ((nextAnswer () ledger.script.accountReads).1.answer.map fun _ =>
        ledger.accounts.get? query.address) >>= fun data =>
          query.accept data >>= fun _ => pure data := rfl
  rw [houtcome]
  rcases ledger.nextAnswer_ok_or with hok | ⟨error, herror, hfails⟩
  · left
    rw [hok]
    change (query.accept (ledger.accounts.get? query.address) >>= fun _ => _).toOption = _
    dsimp only [Accounts.ask?]
    cases query.accept (ledger.accounts.get? query.address) with
    | ok => rfl
    | error error => rfl
  · right
    rw [herror]
    exact ⟨error, rfl, hfails⟩

/-- Reads that are started in a row leave everything as it is, and all of their data is found if all
of it will do. -/
theorem startReads_truthful (queries : List Query) :
    Unmoved ledger (ledger.startReads queries).2 ∧
      ledger.Truthful ((ledger.startReads queries).1.mapM (·.outcome))
        (queries.mapM ledger.accounts.ask?) := by
  induction queries generalizing ledger with
  | nil => exact ⟨⟨rfl, List.Subset.refl _⟩, .inl rfl⟩
  | cons query queries ih =>
    have hmoved := ledger.unmoved_startRead query
    have hread := ledger.truthful_startRead query
    obtain ⟨hrest, hothers⟩ := ih (ledger.startRead query).2
    have haccounts : (ledger.startRead query).2.accounts = ledger.accounts :=
      congrArg Snapshot.accounts hmoved.snapshot
    rw [haccounts] at hothers
    rw [startReads_cons, List.mapM_cons]
    split
    · rename_i hstop
      refine ⟨hmoved, ?_⟩
      rw [List.mapM_cons]
      -- what stops the rest is an error
      refine hread.bind fun data hdata => ?_
      simp [RunningRead.error?, hdata] at hstop
    · refine ⟨hmoved.trans hrest, ?_⟩
      rw [List.mapM_cons]
      exact hread.bind fun data _ => (hothers.of_unmoved hmoved).bind fun _ _ => .inl rfl

/-- An error of one of several reads that are started in a row was in store, or not all of their data
will do. -/
theorem mayFail_of_mem_startReads {queries : List Query} {read : RunningRead} {error : Error}
    (hmem : read ∈ (ledger.startReads queries).1) (herror : read.error? = some error) :
    queries.mapM ledger.accounts.ask? = none ∨ ledger.MayFail error := by
  induction queries generalizing ledger with
  | nil => cases hmem
  | cons query queries ih =>
    have hmoved := ledger.unmoved_startRead query
    have haccounts : (ledger.startRead query).2.accounts = ledger.accounts :=
      congrArg Snapshot.accounts hmoved.snapshot
    rw [List.mapM_cons]
    have hmem : read = (ledger.startRead query).1 ∨
        read ∈ ((ledger.startRead query).2.startReads queries).1 := by
      rw [startReads_cons] at hmem
      split at hmem
      · exact .inl (List.mem_singleton.mp hmem)
      · exact List.mem_cons.mp hmem
    rcases hmem with rfl | hmem
    · have hread := ledger.truthful_startRead query
      rw [error?_eq_some_iff.mp herror] at hread
      rcases hread with hnone | ⟨other, hother, hfails⟩
      · left
        rw [← hnone]
        rfl
      · cases hother
        exact .inr hfails
    · rcases ih _ hmem with hnone | hfails
      · left
        rw [haccounts] at hnone
        rw [hnone]
        cases ledger.accounts.ask? query <;> rfl
      · exact .inr (hmoved.mayFail hfails)

/-- The error that ends reads which are asked together is one of theirs. -/
theorem exists_of_firstError {reads : List RunningRead} {round : Nat} {instants : List Nat}
    {instant : Nat} {error : Error} (h : firstError reads round instants = some (instant, error)) :
    ∃ read ∈ reads, read.error? = some error := by
  induction instants generalizing round with
  | nil => cases h
  | cons first instants ih =>
    rw [firstError] at h
    cases hready : errorAt reads round first with
    | none =>
      rw [hready] at h
      exact ih h
    | some other =>
      rw [hready] at h
      cases h
      obtain ⟨read, hmem, herror⟩ := List.exists_of_findSome?_eq_some hready
      refine ⟨read, ?_, herror⟩
      split at hmem
      · exact (List.mem_filter.mp hmem).1
      · exact (List.mem_filter.mp (List.mem_reverse.mp hmem)).1

/-- When one of several reads has an error, there is no data of them all. -/
theorem toOption_mapM_outcome {reads : List RunningRead} {read : RunningRead} {error : Error}
    (hmem : read ∈ reads) (herror : read.error? = some error) :
    (reads.mapM RunningRead.outcome).toOption = none := by
  cases hreads : reads.mapM RunningRead.outcome with
  | error other => rfl
  | ok data =>
    obtain ⟨data, hdata, -⟩ := exists_mem_zip_of_mapM hreads hmem
    cases hdata.symm.trans (error?_eq_some_iff.mp herror)

/-- Reads that are asked together find all their data if all of it will do, whichever of them is
answered first. -/
theorem toOption_together (reads : List RunningRead) :
    (together reads).2.toOption = (reads.mapM RunningRead.outcome).toOption := by
  unfold together
  cases hfirst : firstError reads 0 (instants reads) with
  | none => rfl
  | some stop =>
    obtain ⟨read, hmem, herror⟩ := exists_of_firstError hfirst
    exact (toOption_mapM_outcome hmem herror).symm

/-- If reads that are asked together end with an error, it is the error of one of them. -/
theorem exists_of_together_eq_error {reads : List RunningRead} {error : Error}
    (h : (together reads).2 = .error error) : ∃ read ∈ reads, read.error? = some error := by
  unfold together at h
  cases hfirst : firstError reads 0 (instants reads) with
  | some stop =>
    rw [hfirst] at h
    cases h
    exact exists_of_firstError hfirst
  | none =>
    rw [hfirst] at h
    obtain ⟨read, hmem, houtcome⟩ := exists_of_mapM_eq_error h
    exact ⟨read, hmem, error?_eq_some_iff.mpr houtcome⟩

/-- Reads that are asked together find all their data, or end with an error that was in store, if all
of it will do. -/
theorem truthful_together (queries : List Query) :
    ledger.Truthful (together (ledger.startReads queries).1).2
      (queries.mapM ledger.accounts.ask?) := by
  obtain ⟨-, htruth⟩ := ledger.startReads_truthful queries
  have hsame := toOption_together (ledger.startReads queries).1
  cases hanswer : (together (ledger.startReads queries).1).2 with
  | ok data =>
    rw [hanswer] at hsame
    rcases htruth with htruth | ⟨error, herror, -⟩
    · exact .inl (hsame.trans htruth)
    · rw [herror] at hsame
      cases hsame
  | error error =>
    obtain ⟨read, hmem, herror⟩ := exists_of_together_eq_error hanswer
    rcases ledger.mayFail_of_mem_startReads hmem herror with hnone | hfails
    · exact .inl hnone.symm
    · exact .inr ⟨error, rfl, hfails⟩

section Plans

variable {ledger}

/-- A plan with a value goes on where it began. -/
theorem play_ofInput_ok {value : α} {f : α → Action β} {checked : Except InputFault α}
    (h : checked = .ok value) :
    ledger.play ((liftM (Plan.ofInput checked) : Action α) >>= f).run =
      ledger.play (f value).run := by
  subst h
  rfl

/-- What follows a check that fails is not begun. -/
theorem play_ofInput_error {fault : InputFault} {f : α → Action β}
    {checked : Except InputFault α} (h : checked = .error fault) :
    ledger.play ((liftM (Plan.ofInput checked) : Action α) >>= f).run =
      (.ok (.error (.input fault)), ledger) := by
  subst h
  rfl

/-- What was worked out ends where it began. -/
theorem play_plan (plan : Plan α) :
    ledger.play (liftM plan : Action α).run = (plan.run, ledger) := by
  change ledger.play (Task.ofAbort plan.run) = _
  cases plan.run <;> rfl

/-- What follows a plan goes on where the plan began, if the plan has a value, and else is not
begun. -/
theorem play_plan_bind (plan : Plan α) (f : α → Action β) :
    (∃ value, plan.value? = some value ∧
      ledger.play ((liftM plan : Action α) >>= f).run = ledger.play (f value).run) ∨
    plan.value? = none ∧ ∃ stop : Except Abort Error,
      plan.run = stop.map .error ∧
        ledger.play ((liftM plan : Action α) >>= f).run = (stop.map .error, ledger) := by
  have hplay := ledger.play_plan plan
  unfold Plan.value?
  cases hrun : plan.run with
  | error why =>
    rw [hrun] at hplay
    exact .inr ⟨rfl, .error why, rfl, play_action_stop hplay⟩
  | ok ending =>
    rw [hrun] at hplay
    cases ending with
    | error error => exact .inr ⟨rfl, .ok error, rfl, play_action_stop hplay⟩
    | ok value => exact .inl ⟨value, rfl, play_action_ok hplay⟩

/-- What follows a plan that breaks off is not begun. -/
theorem play_plan_abort {plan : Plan α} {why : Abort} {f : α → Action β}
    (h : plan.run = .error why) :
    ledger.play ((liftM plan : Action α) >>= f).run = (.error why, ledger) := by
  have hplan : ledger.play (liftM plan : Action α).run =
      (Except.map Except.error (.error why), ledger) := by
    rw [play_plan, h]
    rfl
  exact play_action_stop hplan

end Plans

/-- Asking for an account finds its data, and leaves everything as it is. -/
theorem answer_account_truthful (address : Key) :
    Unmoved ledger (ledger.answer (.account address)).2 ∧
      ledger.Truthful (ledger.answer (.account address)).1
        (some (ledger.accounts.get? address)) := by
  refine ⟨⟨rfl, ledger.nextAnswer_subset⟩, ?_⟩
  have hanswer : (ledger.answer (.account address)).1 =
      (nextAnswer () ledger.script.accountReads).1.answer.map fun _ =>
        ledger.accounts.get? address := rfl
  rw [hanswer]
  rcases ledger.nextAnswer_ok_or with hok | ⟨error, herror, hfails⟩
  · left
    rw [hok]
    rfl
  · right
    rw [herror]
    exact ⟨error, rfl, hfails⟩

/-- Asking for several accounts finds their data if all of it will do, and leaves everything as it
is. -/
theorem answer_accounts_truthful (queries : List Query) :
    Unmoved ledger (ledger.answer (.accounts queries)).2 ∧
      ledger.Truthful (ledger.answer (.accounts queries)).1
        (queries.mapM ledger.accounts.ask?) := by
  obtain ⟨⟨hsnapshot, hreads⟩, -⟩ := ledger.startReads_truthful queries
  exact ⟨⟨hsnapshot, hreads⟩, ledger.truthful_together queries⟩

end ScriptedLedger

open ScriptedLedger

variable {α β γ : Type} {snapshot : Snapshot}

namespace Action

/-- Every ledger with a snapshot carries an action to its end: to the value that it has on the
snapshot, or to an error if it has none or the ledger had that error in store. -/
structure Settles (snapshot : Snapshot) (action : Action α) : Prop where
  ends : ∀ ledger : ScriptedLedger, ledger.snapshot = snapshot → ∃ ending later,
    ledger.play action.run = (.ok ending, later) ∧
      ledger.Truthful ending (action.valueOn snapshot)

/-- An action settles and leaves everything as it is. -/
structure Steady (snapshot : Snapshot) (action : Action α) : Prop where
  ends : ∀ ledger : ScriptedLedger, ledger.snapshot = snapshot → ∃ ending later,
    ledger.play action.run = (.ok ending, later) ∧
      ledger.Truthful ending (action.valueOn snapshot) ∧ Unmoved ledger later

/-- A steady action settles. -/
theorem Steady.settles {action : Action α} (h : Steady snapshot action) :
    Settles snapshot action := by
  refine ⟨fun ledger hledger => ?_⟩
  obtain ⟨ending, later, hplay, htruth, -⟩ := h.ends ledger hledger
  exact ⟨ending, later, hplay, htruth⟩

namespace Settles

variable {action : Action α} {ledger : ScriptedLedger} {value : α}

/-- A value that an action that settles comes to is the one that it has on the snapshot. -/
theorem valueOn_eq (haction : Settles snapshot action) (hledger : ledger.snapshot = snapshot)
    (h : (ledger.play action.run).1 = .ok (.ok value)) :
    action.valueOn snapshot = some value := by
  obtain ⟨ending, later, hplay, htruth⟩ := haction.ends ledger hledger
  rw [hplay] at h
  cases h
  exact htruth.eq_some

/-- An action that settles comes to the value that it has on the snapshot, or else to an error that
the ledger had in store. -/
theorem play_eq_or (haction : Settles snapshot action) (hledger : ledger.snapshot = snapshot)
    (h : action.valueOn snapshot = some value) :
    (ledger.play action.run).1 = .ok (.ok value) ∨
      ∃ error, ledger.MayFail error ∧ (ledger.play action.run).1 = .ok (.error error) := by
  obtain ⟨ending, later, hplay, htruth⟩ := haction.ends ledger hledger
  rcases htruth with hvalue | ⟨error, rfl, hfails⟩
  · left
    rw [h] at hvalue
    rw [hplay, toOption_eq_some_iff.mp hvalue]
  · exact .inr ⟨error, hfails, by rw [hplay]⟩

/-- An action that settles comes to the value that it has on the snapshot, if the ledger never fails
to read an account. -/
theorem play_eq (haction : Settles snapshot action) (hledger : ledger.snapshot = snapshot)
    (hanswers : ledger.Answers) (h : action.valueOn snapshot = some value) :
    (ledger.play action.run).1 = .ok (.ok value) :=
  (haction.play_eq_or hledger h).resolve_right fun ⟨error, hfails, _⟩ =>
    hanswers.not_mayFail error hfails

end Settles

/-- Where an action leaves a ledger after a steady one. -/
theorem Steady.play_bind {action : Action α} {f : α → Action β} {ledger : ScriptedLedger}
    (haction : Steady snapshot action) (hledger : ledger.snapshot = snapshot) :
    (∃ error later, ledger.play (action >>= f).run = (.ok (.error error), later) ∧
      ledger.Truthful (.error error) (valueOn snapshot (action >>= f)) ∧ Unmoved ledger later) ∨
    ∃ value middle, valueOn snapshot action = some value ∧ Unmoved ledger middle ∧
      ledger.play (action >>= f).run = middle.play (f value).run := by
  obtain ⟨ending, middle, hplay, htruth, hmoved⟩ := haction.ends ledger hledger
  cases ending with
  | error error =>
    left
    refine ⟨error, middle, play_action_error hplay, ?_, hmoved⟩
    rw [valueOn_bind]
    exact htruth.bind (f := fun _ => .error error) fun _ h => nomatch h
  | ok value => exact .inr ⟨value, middle, htruth.eq_some, hmoved, play_action_ok hplay⟩

variable {action : Action α} {f : α → Action β}

/-- What settles after a steady action settles. Of the second that is needed only for the value of
the first one. -/
theorem Steady.bind_settles (haction : Steady snapshot action)
    (hf : ∀ value, valueOn snapshot action = some value → Settles snapshot (f value)) :
    Settles snapshot (action >>= f) := by
  refine ⟨fun ledger hledger => ?_⟩
  rcases haction.play_bind (f := f) hledger with
    ⟨error, later, hplay, htruth, -⟩ | ⟨value, middle, hvalue, hmoved, hplay⟩
  · exact ⟨.error error, later, hplay, htruth⟩
  · obtain ⟨ending, later, hrest, htruth⟩ :=
      (hf value hvalue).ends middle (hmoved.snapshot.trans hledger)
    refine ⟨ending, later, hplay.trans hrest, ?_⟩
    rw [valueOn_bind, hvalue]
    exact htruth.of_unmoved hmoved

namespace Steady

/-- One steady action after another is steady. Of the second that is needed only for the value of
the first one. -/
theorem bind_of_value (haction : Steady snapshot action)
    (hf : ∀ value, valueOn snapshot action = some value → Steady snapshot (f value)) :
    Steady snapshot (action >>= f) := by
  refine ⟨fun ledger hledger => ?_⟩
  rcases haction.play_bind (f := f) hledger with
    ⟨error, later, hplay, htruth, hmoved⟩ | ⟨value, middle, hvalue, hmoved, hplay⟩
  · exact ⟨.error error, later, hplay, htruth, hmoved⟩
  · obtain ⟨ending, later, hrest, htruth, hlater⟩ :=
      (hf value hvalue).ends middle (hmoved.snapshot.trans hledger)
    refine ⟨ending, later, hplay.trans hrest, ?_, hmoved.trans hlater⟩
    rw [valueOn_bind, hvalue]
    exact htruth.of_unmoved hmoved

/-- One steady action after another is steady. -/
theorem bind (haction : Steady snapshot action) (hf : ∀ value, Steady snapshot (f value)) :
    Steady snapshot (action >>= f) :=
  haction.bind_of_value fun value _ => hf value

/-- A value is steady. -/
theorem pure (value : α) : Steady snapshot (pure value : Action α) :=
  ⟨fun ledger _ => ⟨.ok value, ledger, rfl, .inl rfl, rfl, List.Subset.refl _⟩⟩

/-- An error is steady. -/
theorem throw (error : Error) : Steady snapshot (throw error : Action α) :=
  ⟨fun ledger _ => ⟨.error error, ledger, rfl, .inl rfl, rfl, List.Subset.refl _⟩⟩

/-- What can be worked out without a call is steady, unless it breaks off. -/
theorem plan {worked : Plan α} (hworked : worked.Whole) :
    Steady snapshot (liftM worked : Action α) := by
  refine ⟨fun ledger _ => ?_⟩
  cases hrun : worked.run with
  | error why => exact absurd hrun (hworked why)
  | ok ending =>
    refine ⟨ending, ledger, ?_, .inl ?_, rfl, List.Subset.refl _⟩
    · change ledger.play (Task.ofAbort worked.run) = _
      rw [hrun]
      rfl
    · rw [valueOn_plan, Plan.value?, hrun]
      cases ending <;> rfl

/-- To ask for an account is steady. -/
theorem account (address : Key) : Steady snapshot (Action.account address) := by
  refine ⟨?_⟩
  rintro ledger rfl
  obtain ⟨hmoved, htruth⟩ := ledger.answer_account_truthful address
  exact ⟨_, _, rfl, htruth, hmoved⟩

/-- To ask for several accounts at once is steady. -/
theorem accounts (queries : List Query) : Steady snapshot (Action.accounts queries) := by
  refine ⟨?_⟩
  rintro ledger rfl
  obtain ⟨hmoved, htruth⟩ := ledger.answer_accounts_truthful queries
  refine ⟨_, _, rfl, ?_, hmoved⟩
  rw [valueOn_accounts]
  exact htruth

end Steady

/-- Making a key settles, and so does what is worked out from it. -/
theorem settles_freshKey (f : KeyPair → α) :
    Settles snapshot (Action.freshKey >>= fun pair => pure (f pair)) := by
  refine ⟨?_⟩
  rintro ledger rfl
  exact ⟨.ok (f ledger.snapshot.fresh), _, rfl, .inl rfl⟩

end Action

namespace Read

open LendingClient.Action

variable (read : Read α) (a : Read α) (b : Read β) (c : Read γ)

/-- A read is steady. -/
theorem steady_perform : Steady snapshot read.perform :=
  (Steady.account _).bind fun _ => .plan (Plan.whole_ofExcept _)

/-- Two reads at once are steady. -/
theorem steady_both : Steady snapshot (both a b) := by
  refine (Steady.accounts _).bind fun data => ?_
  refine (Steady.plan (Plan.whole_ofExcept _)).bind fun first => ?_
  exact (Steady.plan (Plan.whole_ofExcept _)).bind fun second => .pure _

/-- Three reads at once are steady. -/
theorem steady_allThree : Steady snapshot (allThree a b c) := by
  refine (Steady.accounts _).bind fun data => ?_
  refine (Steady.plan (Plan.whole_ofExcept _)).bind fun first => ?_
  refine (Steady.plan (Plan.whole_ofExcept _)).bind fun second => ?_
  exact (Steady.plan (Plan.whole_ofExcept _)).bind fun third => .pure _

end Read

end LendingClient
