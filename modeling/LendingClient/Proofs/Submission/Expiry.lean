import Mathlib.Data.List.DropRight
import LendingClient.Proofs.Submission.Poll

/-!
# Giving a transaction up

When polling ends because the block hash is gone, the caller goes on as if the transaction had never
been handed in. That is sound on an honest ledger. What makes it so is the order of the calls: a
status that is read after the hash was found gone is read after the last instant at which the
transaction could have landed, and such a read was answered without a verdict.
-/

namespace LendingClient

/-- What an exchange found out about a block hash: whether it is still good. -/
def Exchange.good? : Exchange → Option Bool
  | ⟨.validity _, _, answer, _⟩ => Except.toOption (ε := Error) answer
  | _ => none

/-- What an exchange found out about a signature: the verdict, if there is one. -/
def Exchange.status? : Exchange → Option (Option Verdict)
  | ⟨.status _, _, answer, _⟩ => Except.toOption (ε := Error) answer
  | _ => none

/-- What was done since the block hash was last found good. -/
def sinceGood (exchanges : List Exchange) : List Exchange :=
  exchanges.rtakeWhile (·.good? ≠ some true)

/-- What was done in the final streak: after the hash was first found gone since it was last found
good. -/
def finalStreak (exchanges : List Exchange) : List Exchange :=
  ((sinceGood exchanges).dropWhile (·.good? ≠ some false)).tail

private theorem sinceGood_append {earlier later : List Exchange}
    (hlater : ∀ exchange ∈ later, exchange.good? ≠ some true) :
    sinceGood (earlier ++ later) = sinceGood earlier ++ later := by
  unfold sinceGood List.rtakeWhile
  rw [List.reverse_append, List.takeWhile_append_of_pos (by simpa using hlater),
    List.reverse_append, List.reverse_reverse]

/-- What is done in a streak belongs to it. -/
theorem mem_finalStreak_append {earlier later : List Exchange}
    (hgone : ∃ exchange ∈ sinceGood earlier, exchange.good? = some false)
    (hlater : ∀ exchange ∈ later, exchange.good? ≠ some true) :
    ∀ exchange ∈ later, exchange ∈ finalStreak (earlier ++ later) := by
  intro exchange hmem
  obtain ⟨gone, hgoneMem, hgone⟩ := hgone
  rw [finalStreak, sinceGood_append hlater, List.dropWhile_append]
  cases hdrop : (sinceGood earlier).dropWhile (·.good? ≠ some false) with
  | nil =>
    have hnot := List.dropWhile_eq_nil_iff.mp hdrop gone hgoneMem
    simp [hgone] at hnot
  | cons first rest => simp [hmem]

/-- Before a streak the block hash was found gone. -/
theorem exists_gone_of_mem_finalStreak {exchanges : List Exchange} {exchange : Exchange}
    (hmem : exchange ∈ finalStreak exchanges) :
    ∃ before gone, exchanges = before ++ gone :: finalStreak exchanges ∧
      gone.good? = some false := by
  obtain ⟨before, hbefore⟩ := List.rtakeWhile_suffix (p := (·.good? ≠ some true)) (l := exchanges)
  obtain ⟨skipped, hskipped⟩ := List.dropWhile_suffix (l := sinceGood exchanges)
    (·.good? ≠ some false)
  have hhead := (sinceGood exchanges).head?_dropWhile_not (·.good? ≠ some false)
  unfold finalStreak at hmem ⊢
  cases hdrop : (sinceGood exchanges).dropWhile (·.good? ≠ some false) with
  | nil =>
    rw [hdrop] at hmem
    cases hmem
  | cons gone streak =>
    rw [hdrop] at hskipped hhead
    refine ⟨before ++ skipped, gone, ?_, by simpa using hhead⟩
    rw [List.tail_cons, List.append_assoc, hskipped]
    exact hbefore.symm

/-- A ledger that tells the truth about one transaction. Its block hash is good before an instant
and never again, and the transaction takes effect at an instant, or never. -/
structure Honest (expiry : Nat) (landing : Option Nat) (exchanges : List Exchange) : Prop where
  /-- The transaction takes effect only while its block hash is good. -/
  landing_lt : ∀ landed ∈ landing, landed < expiry
  /-- Whether the block hash is good is answered as it is at some instant from call to answer. -/
  good?_true : ∀ exchange ∈ exchanges, ∀ good ∈ exchange.good?,
    ∃ instant, exchange.asked ≤ instant ∧ instant ≤ exchange.due ∧ (good = true ↔ instant < expiry)
  /-- The status of a transaction that has taken effect is answered with a verdict. -/
  status?_true : ∀ landed ∈ landing, ∀ exchange ∈ exchanges, landed < exchange.asked →
    ∀ verdict ∈ exchange.status?, verdict.isSome

namespace SignedBatch

variable {signed : SignedBatch} {polling : Polling} {signature : Signature} {cancel : Option Nat}
  {left number strikes start finish : Nat} {exchanges : List Exchange}

/-- A poll of a run that will give up: the status has no verdict, and polling goes on with what was
answered about the block hash. -/
theorem reaches_blockhashExpired
    (run : (signed.pollOn polling signature (left + 1) number strikes).Reaches cancel start
      exchanges (.done (.expired signature .blockhashExpired)) finish) :
    ∃ (woke told due : Nat) (status : Except Error (Option Verdict)) (answer : Except Error Bool)
        (later : List Exchange),
      start ≤ woke ∧ woke ≤ told ∧ told ≤ due ∧ (∀ verdict, status ≠ .ok (some verdict)) ∧
      exchanges = ⟨.sleep polling.interval, start, (), woke⟩ ::
        ⟨.status signature, woke, status, told⟩ ::
        ⟨.validity signed.blockhash, told, answer, due⟩ :: later ∧
      (signed.goOn polling signature left (number + 1) strikes answer).Reaches cancel due later
        (.done (.expired signature .blockhashExpired)) finish := by
  rw [pollOn_succ] at run
  obtain ⟨-, woke, afterSleep, hwoke, -, rfl, hstatus⟩ := reaches_heard run (by simp)
  obtain ⟨status, told, afterTold, htold, -, rfl, hrest⟩ := reaches_heard hstatus (by simp)
  rcases signed.afterStatus_cases polling signature left (number + 1) strikes status with
    ⟨-, hlanded⟩ | ⟨why, -, hrefused⟩ | ⟨hnone, hopen⟩
  · rw [hlanded] at hrest
    obtain ⟨-, hdone, -⟩ := Task.Reaches.of_done hrest
    cases hdone
  · rw [hrefused] at hrest
    obtain ⟨answer, due, later, -, -, -, hreport⟩ := reaches_heard hrest (by simp)
    obtain ⟨-, hdone, -⟩ := Task.Reaches.of_done hreport
    cases hdone
  · rw [hopen] at hrest
    obtain ⟨answer, due, later, hdue, -, rfl, hlater⟩ := reaches_heard hrest (by simp)
    exact ⟨woke, told, due, status, answer, later, hwoke, htold, hdue, hnone, rfl, hlater⟩

/-- How a run that will give up goes on from a poll without a verdict: it gives up right there, or
polls on with the strikes that it has then. -/
theorem reaches_goOn {answer : Except Error Bool}
    (run : (signed.goOn polling signature left number strikes answer).Reaches cancel start exchanges
      (.done (.expired signature .blockhashExpired)) finish) :
    (answer = .ok false ∧ polling.expiryStrikes ≤ strikes + 1 ∧ exchanges = []) ∨
    ∃ strikes', (signed.pollOn polling signature left number strikes').Reaches cancel start
        exchanges (.done (.expired signature .blockhashExpired)) finish ∧
      (0 < strikes' → answer = .ok false ∨ answer ≠ .ok true ∧ 0 < strikes) := by
  rcases signed.goOn_cases polling signature left number strikes answer with
    ⟨hfalse, hstrikes, hgone⟩ | ⟨strikes', hon, hpositive⟩
  · rw [hgone] at run
    exact .inl ⟨hfalse, hstrikes, (Task.Reaches.of_done run).1⟩
  · rw [hon] at run
    exact .inr ⟨strikes', run, hpositive⟩

/-- In a run that gives up every answer was heard before the next call was made, and no status had a
verdict. -/
theorem heard_of_blockhashExpired
    (run : (signed.pollOn polling signature left number strikes).Reaches cancel start exchanges
      (.done (.expired signature .blockhashExpired)) finish) :
    (∀ exchange ∈ exchanges, start ≤ exchange.asked) ∧
      exchanges.Pairwise (fun before after => before.due ≤ after.asked) ∧
      ∀ exchange ∈ exchanges, ∀ verdict ∈ exchange.status?, verdict = none := by
  induction left generalizing number strikes start exchanges with
  | zero =>
    obtain ⟨-, hdone, -⟩ := Task.Reaches.of_done run
    cases hdone
  | succ left ih =>
    obtain ⟨woke, told, due, status, answer, later, hwoke, htold, hdue, hstatus, rfl, hrest⟩ :=
      reaches_blockhashExpired run
    have hlater : (∀ exchange ∈ later, due ≤ exchange.asked) ∧
        later.Pairwise (fun before after => before.due ≤ after.asked) ∧
        ∀ exchange ∈ later, ∀ verdict ∈ exchange.status?, verdict = none := by
      rcases reaches_goOn hrest with ⟨-, -, rfl⟩ | ⟨strikes', hrun, -⟩
      · simp
      · exact ih hrun
    obtain ⟨hasked, hpairwise, hverdict⟩ := hlater
    refine ⟨?_, ?_, ?_⟩
    · intro exchange hmem
      simp only [List.mem_cons] at hmem
      rcases hmem with rfl | rfl | rfl | hmem
      · exact Nat.le_refl _
      · exact hwoke
      · exact Nat.le_trans hwoke htold
      · have := hasked exchange hmem
        omega
    · have hafter (instant : Nat) (hinstant : instant ≤ due) :
          ∀ exchange ∈ later, instant ≤ exchange.asked :=
        fun exchange hmem => Nat.le_trans hinstant (hasked exchange hmem)
      simp only [List.pairwise_cons, List.forall_mem_cons]
      exact ⟨⟨Nat.le_refl _, htold, hafter woke (by omega)⟩,
        ⟨Nat.le_refl _, hafter told hdue⟩, hafter due (Nat.le_refl _), hpairwise⟩
    · intro exchange hmem verdict hverdict'
      simp only [List.mem_cons] at hmem
      rcases hmem with rfl | rfl | rfl | hmem
      · cases hverdict'
      · cases status with
        | error error => cases hverdict'
        | ok read =>
          cases read with
          | none => exact (Option.some.inj hverdict').symm
          | some verdict => exact absurd rfl (hstatus verdict)
      · cases hverdict'
      · exact hverdict exchange hmem verdict hverdict'

/-- A run that gives up ends with a poll that found the block hash gone. If it takes more than one
such poll, there was another one in the same streak. -/
theorem streak_of_blockhashExpired (earlier : List Exchange)
    (hstrikes : 2 ≤ polling.expiryStrikes)
    (hearlier : 0 < strikes → ∃ exchange ∈ sinceGood earlier, exchange.good? = some false)
    (run : (signed.pollOn polling signature left number strikes).Reaches cancel start exchanges
      (.done (.expired signature .blockhashExpired)) finish) :
    ∃ exchange ∈ finalStreak (earlier ++ exchanges), exchange.call = .status signature := by
  induction left generalizing number strikes start exchanges earlier with
  | zero =>
    obtain ⟨-, hdone, -⟩ := Task.Reaches.of_done run
    cases hdone
  | succ left ih =>
    obtain ⟨woke, told, due, status, answer, later, -, -, -, -, rfl, hrest⟩ :=
      reaches_blockhashExpired run
    rcases reaches_goOn hrest with ⟨rfl, hexpired, rfl⟩ | ⟨strikes', hrun, hstrikes'⟩
    · refine ⟨⟨.status signature, woke, status, told⟩, ?_, rfl⟩
      refine mem_finalStreak_append (hearlier (by omega)) ?_ _ (by simp)
      simp [Exchange.good?, Except.toOption]
    · have hpoll := ih (earlier ++ [⟨.sleep polling.interval, start, (), woke⟩,
        ⟨.status signature, woke, status, told⟩, ⟨.validity signed.blockhash, told, answer, due⟩])
        ?_ hrun
      · simpa using hpoll
      · intro hpos
        have hanswer : answer ≠ .ok true := by
          rcases hstrikes' hpos with rfl | ⟨hne, -⟩
          · simp
          · exact hne
        rw [sinceGood_append]
        · rcases hstrikes' hpos with rfl | ⟨-, hlt⟩
          · exact ⟨⟨.validity signed.blockhash, told, (.ok false : Except Error Bool), due⟩,
              by simp, rfl⟩
          · obtain ⟨gone, hmem, hgone⟩ := hearlier hlt
            exact ⟨gone, List.mem_append_left _ hmem, hgone⟩
        · have hgood : Except.toOption answer ≠ some true := by
            cases answer with
            | error error => simp [Except.toOption]
            | ok good => simpa [Except.toOption] using hanswer
          simpa [Exchange.good?] using hgood

/-- Giving up is sound. If polling of a transaction ends because its block hash is gone, its status
was asked for again after the hash was first found gone in the final streak. If one of those
questions was answered, the transaction has not taken effect and never will. -/
theorem not_landed_of_blockhashExpired {expiry : Nat} {landing : Option Nat}
    (honest : Honest expiry landing exchanges) (hstrikes : 2 ≤ polling.expiryStrikes)
    (run : (signed.confirm polling signature).Reaches cancel start exchanges
      (.done (.expired signature .blockhashExpired)) finish) :
    (∃ exchange ∈ finalStreak exchanges, exchange.call = .status signature) ∧
      ((∃ exchange ∈ finalStreak exchanges, exchange.status?.isSome) → landing = none) := by
  refine ⟨streak_of_blockhashExpired [] hstrikes (by simp) run, ?_⟩
  rintro ⟨status, hstatus, hanswered⟩
  obtain ⟨before, gone, hsplit, hgone⟩ := exists_gone_of_mem_finalStreak hstatus
  obtain ⟨-, hheard, hverdict⟩ := heard_of_blockhashExpired run
  have hstatusMem : status ∈ exchanges := by
    rw [hsplit]
    simp [hstatus]
  have hgoneMem : gone ∈ exchanges := by
    rw [hsplit]
    simp
  have hafter : gone.due ≤ status.asked := by
    rw [hsplit] at hheard
    exact (List.pairwise_cons.mp (List.pairwise_append.mp hheard).2.1).1 status hstatus
  obtain ⟨instant, -, hinstant, hexpired⟩ := honest.good?_true gone hgoneMem false hgone
  cases landing with
  | none => rfl
  | some landed =>
    obtain ⟨verdict, hread⟩ := Option.isSome_iff_exists.mp hanswered
    have hlanded : landed < expiry := honest.landing_lt landed rfl
    have hexpiry : expiry ≤ instant := Nat.le_of_not_lt fun hlt => by simpa using hexpired.mpr hlt
    have hsome := honest.status?_true landed rfl status hstatusMem (by omega) verdict hread
    rw [hverdict status hstatusMem verdict hread] at hsome
    cases hsome

/-- The exchanges of a run that gives up. The block hash is gone from the instant 2200 on. The
first and the last status are lost, and so is the second answer about the block hash. -/
def givenUp : List Exchange :=
  have noStatus : Except Error (Option Verdict) := .ok none
  have lostStatus : Except Error (Option Verdict) := .error (.ledger "lost")
  have gone : Except Error Bool := .ok false
  have lostGone : Except Error Bool := .error (.ledger "lost")
  [⟨.sleep 2000, 0, (), 2000⟩, ⟨.status (Octets.filled 64 0), 2000, lostStatus, 2100⟩,
    ⟨.validity blank.blockhash, 2100, gone, 2300⟩,
    ⟨.sleep 2000, 2300, (), 4300⟩, ⟨.status (Octets.filled 64 0), 4300, noStatus, 4400⟩,
    ⟨.validity blank.blockhash, 4400, lostGone, 4500⟩,
    ⟨.sleep 2000, 4500, (), 6500⟩, ⟨.status (Octets.filled 64 0), 6500, lostStatus, 6600⟩,
    ⟨.validity blank.blockhash, 6600, gone, 6700⟩]

/-- Polling by the defaults reaches its end by the sample exchanges: the block hash expired. -/
private theorem reaches_givenUp :
    (blank.confirm {} (Octets.filled 64 0)).Reaches none 0 givenUp
      (.done (.expired (Octets.filled 64 0) .blockhashExpired)) 6700 := by
  change (blank.pollOn {} (Octets.filled 64 0) (47 + 3) 0 0).Reaches _ _ _ _ _
  rw [pollOn_succ]
  refine .race (by decide) (by simp) (.race (by decide) (by simp) (.race (by decide) (by simp) ?_))
  change (blank.pollOn {} (Octets.filled 64 0) (47 + 2) 1 1).Reaches _ _ _ _ _
  rw [pollOn_succ]
  refine .race (by decide) (by simp) (.race (by decide) (by simp) (.race (by decide) (by simp) ?_))
  change (blank.pollOn {} (Octets.filled 64 0) (47 + 1) 2 1).Reaches _ _ _ _ _
  rw [pollOn_succ]
  refine .race (by decide) (by simp) (.race (by decide) (by simp) (.race (by decide) (by simp) ?_))
  exact .refl _ _

/-- The ledger of the sample exchanges tells nothing wrong. -/
private theorem honest_givenUp : Honest 2200 none givenUp where
  landing_lt := by simp
  good?_true := by
    have hinstants : (∃ instant, 2100 ≤ instant ∧ instant ≤ 2300 ∧ 2200 ≤ instant) ∧
        ∃ instant, 6600 ≤ instant ∧ instant ≤ 6700 ∧ 2200 ≤ instant :=
      ⟨⟨2200, by decide⟩, 6600, by decide⟩
    simpa [givenUp, Exchange.good?, Except.toOption] using hinstants
  status?_true := by simp

/-- At that run: the ledger may be honest, the status was asked for in the final streak, and
wherever the ledger is honest the transaction does not land. -/
theorem not_landed_givenUp :
    Honest 2200 none givenUp ∧
      (∃ exchange ∈ finalStreak givenUp, exchange.call = .status (Octets.filled 64 0)) ∧
      ∀ landing, Honest 2200 landing givenUp → landing = none := by
  have hasked := (not_landed_of_blockhashExpired honest_givenUp (by decide) reaches_givenUp).1
  refine ⟨honest_givenUp, hasked, fun landing honest => ?_⟩
  have hlaw := not_landed_of_blockhashExpired honest (by decide) reaches_givenUp
  refine hlaw.2 ⟨⟨.status (Octets.filled 64 0), 4300,
    (.ok none : Except Error (Option Verdict)), 4400⟩, ?_, rfl⟩
  simp [finalStreak, sinceGood, List.rtakeWhile, givenUp, Exchange.good?, Except.toOption]

end SignedBatch

end LendingClient
