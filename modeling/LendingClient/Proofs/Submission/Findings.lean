import Mathlib.Data.List.DropRight
import LendingClient.Proofs.Run.Scripted
import LendingClient.Proofs.Submission.Poll

/-!
# Polling by what the polls find

When nobody wishes to cancel, the answers that a ledger has in store settle what becomes of
polling, however late they come. This file reads the findings off the script, poll by poll and
without running anything: the first poll that has a verdict, or that is one strike too many, is the
last one. It settles the outcome, and which calls were made. Polling against the ledger agrees with
that.
-/

namespace LendingClient

/-- What a poll finds. -/
inductive Finding where
  /-- A verdict. -/
  | settled (verdict : Verdict)
  /-- No verdict, and the block hash is still good. -/
  | good
  /-- No verdict, and the block hash is gone. -/
  | gone
  /-- No verdict, and no word on the block hash. -/
  | unread
deriving DecidableEq

/-- What a poll without a verdict finds, by what it was answered about the block hash. -/
def Finding.ofValidity : Except Error Bool → Finding
  | .ok true => .good
  | .ok false => .gone
  | .error _ => .unread

/-- How many strikes there are after a poll, by how many there were before it. -/
def Finding.strikesAfter (strikes : Nat) : Finding → Nat
  | .good => 0
  | .gone => strikes + 1
  | .settled _ | .unread => strikes

/-- The answer that is in store for a question after `earlier` others of its kind. Where the script
has run out there is a quiet answer. -/
def inStore {α : Type} (quiet : α) (answers : List (ScriptedAnswer α)) (earlier : Nat) :
    Except Error α :=
  (answers[earlier]?.getD ⟨[], .ok quiet⟩).answer

namespace Script

variable (script : Script)

/-- What the poll after `earlier` others finds. A status that could not be read counts as none. -/
def finding (earlier : Nat) : Finding :=
  match inStore none script.statuses earlier with
  | .ok (some verdict) => .settled verdict
  | .ok none | .error _ => .ofValidity (inStore true script.validity earlier)

/-- How many of the first polls found the block hash gone since it was last found good. -/
def strikes (polls : Nat) : Nat :=
  (((List.range polls).map script.finding).rtakeWhile (· ≠ .good)).count .gone

/-- Whether the poll after `earlier` others ends the polling. -/
def ends (threshold earlier : Nat) : Bool :=
  match script.finding earlier with
  | .settled _ => true
  | .gone => script.strikes (earlier + 1) = threshold
  | .good | .unread => false

/-- The poll that ends the polling, if one does, by how many come before it. -/
def last? (polling : Polling) : Option Nat :=
  (List.range polling.maxPolls).find? (script.ends polling.expiryStrikes)

/-- What becomes of polling, by the poll that ends it. -/
def outcome (signature : Signature) : Option Nat → Outcome
  | none => .expired signature .pollBudgetExhausted
  | some earlier =>
    match script.finding earlier with
    | .settled .landed => .confirmed signature (earlier + 1)
    | .settled (.refused why) =>
      .failed signature (.ofAnswer why (inStore {} script.simulations 0))
    | .good | .gone | .unread => .expired signature .blockhashExpired

/-- The calls of the poll after `earlier` others. -/
def pollCalls (signed : SignedBatch) (signature : Signature) (earlier : Nat) : List Call :=
  match script.finding earlier with
  | .settled .landed => [.status signature]
  | .settled (.refused _) => [.status signature, .simulate signed.transaction]
  | .good | .gone | .unread => [.status signature, .validity signed.blockhash]

/-- The calls of all polls, up to the one that ends the polling. -/
def calls (signed : SignedBatch) (polling : Polling) (signature : Signature) : List Call :=
  (List.range (((script.last? polling).map (· + 1)).getD polling.maxPolls)).flatMap
    (script.pollCalls signed signature)

/-- Without a verdict the finding is what was answered about the block hash. -/
theorem finding_of_open {earlier : Nat}
    (h : ∀ verdict, inStore none script.statuses earlier ≠ .ok (some verdict)) :
    script.finding earlier = .ofValidity (inStore true script.validity earlier) := by
  rw [finding]
  cases hstatus : inStore none script.statuses earlier with
  | error error => rfl
  | ok read =>
    cases read with
    | none => rfl
    | some verdict => exact absurd hstatus (h verdict)

/-- A poll without a verdict makes two calls. -/
theorem pollCalls_of_open (signed : SignedBatch) (signature : Signature) {earlier : Nat}
    (h : ∀ verdict, inStore none script.statuses earlier ≠ .ok (some verdict)) :
    script.pollCalls signed signature earlier =
      [.status signature, .validity signed.blockhash] := by
  rw [pollCalls, script.finding_of_open h]
  cases inStore true script.validity earlier with
  | error error => rfl
  | ok good => cases good <;> rfl

/-- One more poll makes a strike, or takes all strikes back, or changes nothing. -/
theorem strikes_succ (polls : Nat) :
    script.strikes (polls + 1) = (script.finding polls).strikesAfter (script.strikes polls) := by
  unfold strikes
  rw [List.range_succ, List.map_append, List.map_singleton, List.rtakeWhile_concat]
  cases script.finding polls <;> simp [Finding.strikesAfter]

end Script

/-- After some answers the next one in store is that of the next number. -/
private theorem nextAnswer_drop {α : Type} (quiet : α) (answers : List (ScriptedAnswer α))
    (earlier : Nat) :
    ScriptedLedger.nextAnswer quiet (answers.drop earlier) =
      (answers[earlier]?.getD ⟨[], .ok quiet⟩, answers.drop (earlier + 1)) := by
  rw [← List.tail_drop, ← List.head?_drop]
  cases answers.drop earlier <;> rfl

namespace ScriptedLedger

variable {script : Script} {ledger : ScriptedLedger} {number : Nat}

/-- A ledger follows a script, and so many polls were made against it. -/
structure Along (script : Script) (number : Nat) (ledger : ScriptedLedger) : Prop where
  statuses : ledger.script.statuses = script.statuses.drop number
  validity : ledger.script.validity = script.validity.drop number
  simulations : ledger.script.simulations = script.simulations
  /-- Nobody wishes to cancel. -/
  cancelAt : ledger.cancelAt = none

/-- Nothing is cut short when nobody wishes to cancel. -/
theorem play_race_of_cancelAt {call : Call} {cancelled : Task Outcome}
    {next : call.Answer → Task Outcome} (hcancel : ledger.cancelAt = none) :
    ledger.play (.race call cancelled next) =
      (ledger.answer call).2.play (next (ledger.answer call).1) :=
  play_race_heard (by simp [hcancel])

/-- A ledger that was asked something: so late it is then, this was noted, and this is left in
store. -/
def after (ledger : ScriptedLedger) (wait : Nat) (call : Call) (script : Script) : ScriptedLedger :=
  { ledger with now := ledger.now + wait, calls := (ledger.now, call) :: ledger.calls, script }

private theorem answer_status (signature : Signature)
    {statuses : List (ScriptedAnswer (Option Verdict))}
    (h : ledger.script.statuses = statuses.drop number) :
    ∃ duration, ledger.answer (.status signature) = (inStore none statuses number,
      ledger.after duration (.status signature)
        { ledger.script with statuses := statuses.drop (number + 1) }) := by
  refine ⟨wait (statuses[number]?.getD ⟨[], .ok none⟩), ?_⟩
  rw [answer, respond]
  simp only [note, h, nextAnswer_drop]
  rfl

private theorem answer_validity (blockhash : Blockhash) {validity : List (ScriptedAnswer Bool)}
    (h : ledger.script.validity = validity.drop number) :
    ∃ duration, ledger.answer (.validity blockhash) = (inStore true validity number,
      ledger.after duration (.validity blockhash)
        { ledger.script with validity := validity.drop (number + 1) }) := by
  refine ⟨wait (validity[number]?.getD ⟨[], .ok true⟩), ?_⟩
  rw [answer, respond]
  simp only [note, h, nextAnswer_drop]
  rfl

private theorem answer_simulate (ledger : ScriptedLedger) (transaction : Transaction) :
    ∃ duration, ledger.answer (.simulate transaction) =
      (inStore ({} : Simulation) ledger.script.simulations 0,
        ledger.after duration (.simulate transaction)
          { ledger.script with simulations := ledger.script.simulations.drop 1 }) := by
  refine ⟨wait (ledger.script.simulations[0]?.getD ⟨[], .ok ({} : Simulation)⟩), ?_⟩
  have hnext := nextAnswer_drop ({} : Simulation) ledger.script.simulations 0
  rw [List.drop_zero] at hnext
  rw [answer, respond]
  simp only [note, hnext]
  rfl

variable (signed : SignedBatch) (polling : Polling) (signature : Signature)

/-- A poll waits and reads the status that is next in store. -/
theorem play_status (left strikes : Nat) (along : Along script number ledger) :
    ∃ asked : ScriptedLedger,
      ledger.play (signed.pollOn polling signature (left + 1) number strikes) =
        asked.play (signed.afterStatus polling signature left (number + 1) strikes
          (inStore none script.statuses number)) ∧
      asked.calls.map Prod.snd = .status signature :: ledger.calls.map Prod.snd ∧
      asked.script = { ledger.script with statuses := script.statuses.drop (number + 1) } ∧
      asked.cancelAt = none := by
  let slept : ScriptedLedger := { ledger with now := ledger.now + polling.interval }
  have hslept : slept.cancelAt = none := along.cancelAt
  obtain ⟨duration, hanswer⟩ :
      ∃ duration, slept.answer (.status signature) = (inStore none script.statuses number,
        slept.after duration (.status signature)
          { slept.script with statuses := script.statuses.drop (number + 1) }) :=
    answer_status signature along.statuses
  refine ⟨slept.after duration (.status signature)
    { slept.script with statuses := script.statuses.drop (number + 1) }, ?_, rfl, rfl, hslept⟩
  rw [SignedBatch.pollOn_succ, play_race_of_cancelAt along.cancelAt]
  refine (play_race_of_cancelAt hslept).trans ?_
  rw [hanswer]

/-- A poll without a verdict asks after the block hash and goes on with the answer that is in
store. -/
theorem play_open (left strikes : Nat) (along : Along script number ledger)
    (hstatus : ∀ verdict, inStore none script.statuses number ≠ .ok (some verdict)) :
    ∃ later : ScriptedLedger, Along script (number + 1) later ∧
      ledger.play (signed.pollOn polling signature (left + 1) number strikes) =
        later.play (signed.goOn polling signature left (number + 1) strikes
          (inStore true script.validity number)) ∧
      later.calls.map Prod.snd =
        .validity signed.blockhash :: .status signature :: ledger.calls.map Prod.snd := by
  obtain ⟨asked, hplay, hcalls, hscript, hcancel⟩ :=
    play_status signed polling signature left strikes along
  have hvalidity : asked.script.validity = script.validity.drop number := by
    rw [hscript]
    exact along.validity
  obtain ⟨duration, hanswer⟩ := answer_validity signed.blockhash hvalidity
  let told := asked.after duration (.validity signed.blockhash)
    { asked.script with validity := script.validity.drop (number + 1) }
  refine ⟨told, ⟨congrArg Script.statuses hscript, rfl, ?_, hcancel⟩, ?_, ?_⟩
  · exact (congrArg Script.simulations hscript).trans along.simulations
  · rw [hplay]
    rcases signed.afterStatus_cases polling signature left (number + 1) strikes
        (inStore none script.statuses number) with ⟨hlanded, -⟩ | ⟨why, hrefused, -⟩ | ⟨-, hopen⟩
    · exact absurd hlanded (hstatus _)
    · exact absurd hrefused (hstatus _)
    · rw [hopen]
      refine (play_race_of_cancelAt hcancel).trans ?_
      rw [hanswer]
  · exact congrArg (Call.validity signed.blockhash :: ·) hcalls

/-- A refusal is looked into by one simulation, and reported with the answer that is in store. -/
theorem play_lookInto (why : Rejection) (hcancel : ledger.cancelAt = none) :
    ∃ later : ScriptedLedger,
      ledger.play (signed.lookInto signature why) =
        (.ok (.failed signature (.ofAnswer why (inStore {} ledger.script.simulations 0))), later) ∧
      later.calls.map Prod.snd = .simulate signed.transaction :: ledger.calls.map Prod.snd := by
  obtain ⟨duration, hanswer⟩ := ledger.answer_simulate signed.transaction
  refine ⟨ledger.after duration (.simulate signed.transaction)
    { ledger.script with simulations := ledger.script.simulations.drop 1 }, ?_, rfl⟩
  refine (play_race_of_cancelAt hcancel).trans ?_
  rw [hanswer]
  rfl

/-- A poll with a verdict ends the polling. -/
theorem play_settled (left strikes : Nat) {verdict : Verdict} (along : Along script number ledger)
    (hstatus : inStore none script.statuses number = .ok (some verdict)) :
    ∃ later : ScriptedLedger,
      ledger.play (signed.pollOn polling signature (left + 1) number strikes) =
        (.ok (script.outcome signature (some number)), later) ∧
      later.calls.map Prod.snd =
        (script.pollCalls signed signature number).reverse ++ ledger.calls.map Prod.snd := by
  obtain ⟨asked, hplay, hcalls, hscript, hcancel⟩ :=
    play_status signed polling signature left strikes along
  have hfinding : script.finding number = .settled verdict := by
    rw [Script.finding, hstatus]
  rw [hplay, hstatus, Script.outcome, Script.pollCalls, hfinding]
  cases verdict with
  | landed => exact ⟨asked, rfl, hcalls⟩
  | refused why =>
    have hsimulations : asked.script.simulations = script.simulations :=
      (congrArg Script.simulations hscript).trans along.simulations
    obtain ⟨later, hlook, hlater⟩ := play_lookInto signed signature why hcancel
    rw [hsimulations] at hlook
    refine ⟨later, hlook, ?_⟩
    rw [hlater, hcalls]
    rfl

/-- A poll without a verdict is one strike too many, or polling goes on with the strikes so far. -/
theorem goOn_open (left : Nat)
    (hopen : ∀ verdict, inStore none script.statuses number ≠ .ok (some verdict))
    (hstrikes : script.strikes number < polling.expiryStrikes) :
    (script.ends polling.expiryStrikes number = true ∧ script.finding number = .gone ∧
      signed.goOn polling signature left (number + 1) (script.strikes number)
        (inStore true script.validity number) = .done (.expired signature .blockhashExpired)) ∨
    (script.ends polling.expiryStrikes number = false ∧
      script.strikes (number + 1) < polling.expiryStrikes ∧
      signed.goOn polling signature left (number + 1) (script.strikes number)
        (inStore true script.validity number) =
          signed.pollOn polling signature left (number + 1) (script.strikes (number + 1))) := by
  have hofValidity := script.finding_of_open hopen
  have hsucc := script.strikes_succ number
  rw [Script.ends]
  cases hvalidity : inStore true script.validity number with
  | error error =>
    have hfinding : script.finding number = .unread := by rw [hofValidity, hvalidity]; rfl
    rw [hfinding] at hsucc ⊢
    rw [hsucc]
    exact .inr ⟨rfl, hstrikes, rfl⟩
  | ok good =>
    cases good with
    | true =>
      have hfinding : script.finding number = .good := by rw [hofValidity, hvalidity]; rfl
      rw [hfinding] at hsucc ⊢
      rw [hsucc]
      exact .inr ⟨rfl, Nat.zero_lt_of_lt hstrikes, rfl⟩
    | false =>
      have hfinding : script.finding number = .gone := by rw [hofValidity, hvalidity]; rfl
      rw [hfinding] at hsucc ⊢
      rw [hsucc, SignedBatch.goOn]
      rcases Nat.lt_or_ge (script.strikes number + 1) polling.expiryStrikes with hlt | hge
      · exact .inr ⟨decide_eq_false (Nat.ne_of_lt hlt), hlt, if_neg (Nat.not_le_of_lt hlt)⟩
      · exact .inl ⟨decide_eq_true (Nat.le_antisymm hstrikes hge), rfl, if_pos hge⟩

/-- The polls from one on, up to the last one or as many as are left. -/
def pollsFrom (number left : Nat) (last : Option Nat) : List Nat :=
  List.range' number ((last.map (· + 1)).getD (number + left) - number)

private theorem pollsFrom_succ (number left : Nat) (p : Nat → Bool) :
    pollsFrom number (left + 1) ((List.range' (number + 1) left).find? p) =
      number :: pollsFrom (number + 1) left ((List.range' (number + 1) left).find? p) := by
  have hle : number + 1 ≤
      (((List.range' (number + 1) left).find? p).map (· + 1)).getD (number + 1 + left) := by
    cases hfind : (List.range' (number + 1) left).find? p with
    | none => simp
    | some last =>
      have hmem := List.mem_of_find?_eq_some hfind
      simp only [List.mem_range'_1] at hmem
      simp only [Option.map_some, Option.getD_some]
      omega
  unfold pollsFrom
  rw [← List.range'_succ, show number + (left + 1) = number + 1 + left by omega]
  congr 1
  omega

/-- Polling from one poll on: the findings from there on settle what becomes of it, and the
calls. -/
theorem play_pollOn (left : Nat) (along : Along script number ledger)
    (hstrikes : script.strikes number < polling.expiryStrikes) :
    (ledger.play (signed.pollOn polling signature left number (script.strikes number))).1 =
        .ok (script.outcome signature
          ((List.range' number left).find? (script.ends polling.expiryStrikes))) ∧
      (ledger.play (signed.pollOn polling signature left number
        (script.strikes number))).2.calls.map Prod.snd =
        ((pollsFrom number left
          ((List.range' number left).find? (script.ends polling.expiryStrikes))).flatMap
            (script.pollCalls signed signature)).reverse ++ ledger.calls.map Prod.snd := by
  induction left generalizing number ledger with
  | zero =>
    refine ⟨rfl, ?_⟩
    have hpolls : pollsFrom number 0 none = [] := by simp [pollsFrom]
    rw [List.range'_zero, List.find?_nil, hpolls]
    rfl
  | succ left ih =>
    rw [List.range'_succ]
    by_cases hsettled : ∃ verdict, inStore none script.statuses number = .ok (some verdict)
    · obtain ⟨verdict, hstatus⟩ := hsettled
      have hends : script.ends polling.expiryStrikes number = true := by
        rw [Script.ends, Script.finding, hstatus]
      obtain ⟨later, hplay, hcalls⟩ :=
        play_settled signed polling signature left (script.strikes number) along hstatus
      rw [List.find?_cons_of_pos hends, hplay]
      refine ⟨rfl, ?_⟩
      rw [hcalls]
      simp [pollsFrom]
    · have hopen : ∀ verdict, inStore none script.statuses number ≠ .ok (some verdict) :=
        fun verdict hstatus => hsettled ⟨verdict, hstatus⟩
      have hpoll := script.pollCalls_of_open signed signature hopen
      obtain ⟨later, hlater, hplay, hcalls⟩ :=
        play_open signed polling signature left (script.strikes number) along hopen
      rcases goOn_open signed polling signature left hopen hstrikes with
        ⟨hends, hfinding, hgoOn⟩ | ⟨hends, hlt, hgoOn⟩
      · rw [List.find?_cons_of_pos hends, hplay, hgoOn, Script.outcome, hfinding]
        refine ⟨rfl, ?_⟩
        rw [play_done, hcalls]
        simp [pollsFrom, hpoll]
      · obtain ⟨houtcome, hrest⟩ := ih hlater hlt
        rw [List.find?_cons_of_neg (by simp [hends]), hplay, hgoOn, pollsFrom_succ]
        refine ⟨houtcome, ?_⟩
        rw [hrest, hcalls, List.flatMap_cons, hpoll]
        simp

/-- Polling against a ledger does what the findings in its script say. The first poll with a
verdict, or with one strike too many, is the last one and settles the outcome; each poll before it
reads the status once and asks after the block hash once; a refusal is simulated once; and no other
call is made. -/
theorem play_confirm (ledger : ScriptedLedger) (hcancel : ledger.cancelAt = none)
    (hstrikes : 1 ≤ polling.expiryStrikes) :
    (ledger.play (signed.confirm polling signature)).1 =
        .ok (ledger.script.outcome signature (ledger.script.last? polling)) ∧
      (ledger.play (signed.confirm polling signature)).2.calls.map Prod.snd =
        (ledger.script.calls signed polling signature).reverse ++ ledger.calls.map Prod.snd := by
  have along : Along ledger.script 0 ledger := ⟨rfl, rfl, rfl, hcancel⟩
  have hpolling := play_pollOn signed polling signature polling.maxPolls along
    (Nat.lt_of_lt_of_le Nat.zero_lt_one hstrikes)
  rw [← List.range_eq_range'] at hpolling
  have hpolls : pollsFrom 0 polling.maxPolls (ledger.script.last? polling) =
      List.range (((ledger.script.last? polling).map (· + 1)).getD polling.maxPolls) := by
    rw [pollsFrom, List.range_eq_range', Nat.zero_add, Nat.sub_zero]
  rw [Script.calls, ← hpolls]
  exact hpolling

/-- A ledger that finds the block hash gone, then good again, and then gone twice. One status and
one answer about the block hash are lost in between. -/
def waveringLedger : ScriptedLedger where
  script :=
    { statuses := [⟨[300], .ok none⟩, ⟨[], .error (.ledger "lost")⟩]
      validity := [⟨[], .ok false⟩, ⟨[40], .error (.ledger "lost")⟩, ⟨[], .ok true⟩,
        ⟨[], .ok false⟩, ⟨[], .ok false⟩] }

/-- There, the fifth poll is the last of at most seven, by the second strike in a row. -/
theorem play_confirm_wavering :
    (waveringLedger.play (SignedBatch.blank.confirm ⟨2000, 7, 2⟩ (Octets.filled 64 0))).1 =
        .ok (.expired (Octets.filled 64 0) .blockhashExpired) ∧
      (waveringLedger.play
        (SignedBatch.blank.confirm ⟨2000, 7, 2⟩ (Octets.filled 64 0))).2.calls.map Prod.snd =
        (List.replicate 5
          [.validity SignedBatch.blank.blockhash, .status (Octets.filled 64 0)]).flatten := by
  have hlaw := play_confirm SignedBatch.blank ⟨2000, 7, 2⟩ (Octets.filled 64 0) waveringLedger rfl
    (by decide)
  have hlast : waveringLedger.script.last? ⟨2000, 7, 2⟩ = some 4 := by decide +kernel
  rw [Script.calls, hlast] at hlaw
  refine ⟨hlaw.1.trans ?_, hlaw.2.trans ?_⟩ <;> rfl

end ScriptedLedger

end LendingClient
