import LendingClient.Proofs.CommandLine.Session
import LendingClient.Proofs.Ledger.Read
import LendingClient.Proofs.Record

/-!
# Reading the totals of a day

The account with the totals of a day is found by the text of the day, and any text may be named. The
text is a seed of the address as it stands. So a text of more than 32 bytes has no address, and
reading breaks off before anything is asked of the ledger. Every other text leads to one read, which
comes to the totals, to none or to an error, whatever the ledger answers. The command that shows the
totals hands the text on, and breaks off with it.
-/

namespace LendingClient

open ScriptedLedger

variable {program : Key} {day : String} {ledger : ScriptedLedger}

/-- Reading the totals of a day comes to an end if the text of the day fits a seed. -/
theorem exists_run_readDailyStats (program : Key) (ledger : ScriptedLedger)
    (h : day.utf8ByteSize ≤ Address.longestSeed) :
    ∃ ending, (ledger.run (readDailyStats program day)).1 = .ok ending := by
  rw [readDailyStats_eq (Address.dailyStats_of_length h)]
  exact ⟨_, run_perform _⟩

/-- On every ledger, reading the totals of a day breaks off if the text of the day is too long for a
seed. -/
theorem run_readDailyStats_breaksOff (h : Address.longestSeed < day.utf8ByteSize) :
    (ledger.run (readDailyStats program day)).1 = .error .seedTooLong := by
  change (ledger.play (readDailyStats program day).run).1 = _
  rw [run_readDailyStats_of_tooLong h]
  rfl

namespace Invocation

/-- For a day that is named, its totals are read first and its address is derived again afterwards. -/
theorem showBucket_some : showBucket program (some day) =
    readDailyStats program day >>= fun stats =>
      (liftM (Plan.ofAbort (Address.dailyStats program day)) : Action (Key × UInt8)) >>= fun found =>
        pure (Report.bucket day found.1 stats) :=
  rfl

/-- The totals of today are shown as those of any day. -/
theorem showBucket_none : showBucket program none =
    (Action.clock >>= dayOf) >>= fun day => showBucket program (some day) :=
  rfl

/-- Nothing is asked to show the totals of a day whose text is too long for a seed. -/
theorem run_showBucket_of_tooLong (h : Address.longestSeed < day.utf8ByteSize) :
    (showBucket program (some day)).run = .abort .seedTooLong := by
  rw [showBucket_some, ExceptT.run_bind, run_readDailyStats_of_tooLong h]
  rfl

/-- What is shown of a day is its account and the totals in it. -/
theorem showBucket_eq {found : Key × UInt8} (h : Address.dailyStats program day = .ok found) :
    showBucket program (some day) = readDailyStats program day >>= fun stats =>
      pure (Report.bucket day found.1 stats) := by
  rw [showBucket_some, h]
  rfl

/-- Showing the totals of a day comes to an end if the text of the day fits a seed. -/
theorem exists_run_showBucket (h : day.utf8ByteSize ≤ Address.longestSeed) :
    ∃ ending, (ledger.run (showBucket program (some day))).1 = .ok ending := by
  obtain ⟨ending, hending⟩ := exists_run_readDailyStats program ledger h
  change ∃ ending, (ledger.play (showBucket program (some day)).run).1 = .ok ending
  rw [showBucket_eq (Address.dailyStats_of_length h), play_map]
  exact ⟨_, congrArg (Except.map _) hending⟩

/-- Showing the totals of today comes to an end, since the text of a day in the calendar fits a
seed. -/
theorem exists_run_showBucket_none (program : Key) (ledger : ScriptedLedger) :
    ∃ ending, (ledger.run (showBucket program none)).1 = .ok ending := by
  have htoday : ledger.play (Action.clock >>= dayOf).run =
      (.ok (Calendar.dayText ledger.clock.toInt), ledger) := rfl
  change ∃ ending, (ledger.play (showBucket program none).run).1 = .ok ending
  rw [showBucket_none]
  -- only an instant outside the calendar has no text
  cases hday : Calendar.dayText ledger.clock.toInt with
  | error error =>
    rw [hday] at htoday
    rw [play_action_error htoday]
    exact ⟨_, rfl⟩
  | ok day =>
    rw [hday] at htoday
    rw [play_action_ok htoday]
    exact exists_run_showBucket ((Nat.le_of_eq (Calendar.length_dayText hday)).trans (by decide))

/-- What the user sees of the command that shows the totals of a day, of today unless another is
named. -/
def exitOfBucket (invocation : Invocation) (keys : Except CommandFault KeyPair)
    (ledger : ScriptedLedger) (day : Option String) : Exit :=
  .ofResult (ledger.play ({ invocation with command := .ofProgram (.bucket day) }.run keys).run).1

variable {invocation : Invocation} {keys : Except CommandFault KeyPair} {day? : Option String}

/-- With good settings the command does what showing the totals does. -/
theorem run_bucket {settings : Settings} (h : invocation.settings = .ok settings) :
    { invocation with command := .ofProgram (.bucket day?) }.run keys =
      Session.ofAction (showBucket settings.deployment.program day?) >>= fun report =>
        pure (shown report) := by
  have hsettings :
      ({ invocation with command := .ofProgram (.bucket day?) } : Invocation).settings =
        .ok settings := h
  unfold run
  rw [hsettings]
  rfl

/-- With settings that nothing can be done with, the command asks nothing. -/
theorem run_bucket_of_fault {fault : CommandFault} (h : invocation.settings = .error fault) :
    ({ invocation with command := .ofProgram (.bucket day?) }.run keys).run =
      .done (.error fault) := by
  have hsettings :
      ({ invocation with command := .ofProgram (.bucket day?) } : Invocation).settings =
        .error fault := h
  unfold run
  rw [hsettings]
  rfl

/-- The command breaks off exactly if its settings are good and showing the totals breaks off. -/
theorem status_exitOfBucket_iff :
    (invocation.exitOfBucket keys ledger day?).status = Exit.brokenOff ↔
      ∃ settings why, invocation.settings = .ok settings ∧
        (ledger.run (showBucket settings.deployment.program day?)).1 = .error why := by
  unfold exitOfBucket
  rw [Exit.status_eq_brokenOff_iff]
  cases hsettings : invocation.settings with
  | error fault =>
    rw [run_bucket_of_fault hsettings]
    exact ⟨nofun, nofun⟩
  | ok settings =>
    rw [run_bucket hsettings, play_map, Session.play_ofAction]
    simp only [map_eq_error_iff, Except.ok.injEq, exists_and_left, exists_eq_left']
    rfl

/-- The command breaks off on a day that is named exactly if its settings are good and the text of
the day is too long for a seed. -/
theorem status_exitOfBucket_some_iff :
    (invocation.exitOfBucket keys ledger (some day)).status = Exit.brokenOff ↔
      (∃ settings, invocation.settings = .ok settings) ∧
        Address.longestSeed < day.utf8ByteSize := by
  rw [status_exitOfBucket_iff]
  constructor
  · rintro ⟨settings, why, hsettings, hbroken⟩
    refine ⟨⟨settings, hsettings⟩, Nat.lt_of_not_le fun hfits => ?_⟩
    obtain ⟨ending, hending⟩ := exists_run_showBucket hfits
    rw [hending] at hbroken
    cases hbroken
  · rintro ⟨⟨settings, hsettings⟩, hlong⟩
    refine ⟨settings, .seedTooLong, hsettings, ?_⟩
    change (ledger.play (showBucket settings.deployment.program (some day)).run).1 = _
    rw [run_showBucket_of_tooLong hlong]
    rfl

/-- The command does not break off on today. -/
theorem status_exitOfBucket_none :
    (invocation.exitOfBucket keys ledger none).status ≠ Exit.brokenOff := by
  intro hbroken
  obtain ⟨settings, why, -, hwhy⟩ := status_exitOfBucket_iff.mp hbroken
  obtain ⟨ending, hending⟩ := exists_run_showBucket_none settings.deployment.program ledger
  rw [hending] at hwhy
  cases hwhy

end Invocation

/-- **Reading the totals of a day breaks off exactly if the text of the day is too long for a seed.**
What counts is how many bytes the text has, not how many characters. A text that is too long breaks
reading off in every world outside, before anything is asked. Any other text leads to the read of
one account, whose address is the first one off the curve if there is one at all, and which ends
whatever the ledger answers. The command line takes every text for a day, and the command that shows
the totals breaks off with the reading of them; for today it never does. -/
theorem readDailyStats_breaksOff_iff (program : Key) (day : String) :
    (∀ (ledger : ScriptedLedger) (why : Abort),
      (ledger.run (readDailyStats program day)).1 = .error why ↔
        why = .seedTooLong ∧ Address.longestSeed < day.utf8ByteSize) ∧
    (Address.longestSeed < day.utf8ByteSize →
      (readDailyStats program day).run = .abort .seedTooLong) ∧
    (day.utf8ByteSize ≤ Address.longestSeed → ∃ found,
      Address.First program [Text.utf8 "daily-stats", Text.utf8 day] found ∧
      Address.dailyStats program day = .ok found ∧
      readDailyStats program day = (Read.optional DailyStats found.1).perform) ∧
    (∀ environment, Command.read environment "bucket" ["--", day] =
      .ok (.ofProgram (.bucket (some day)))) ∧
    ∀ (invocation : Invocation) (keys : Except CommandFault KeyPair) (ledger : ScriptedLedger),
      ((invocation.exitOfBucket keys ledger (some day)).status = Exit.brokenOff ↔
        (∃ settings, invocation.settings = .ok settings) ∧
          Address.longestSeed < day.utf8ByteSize) ∧
      (invocation.exitOfBucket keys ledger none).status ≠ Exit.brokenOff := by
  refine ⟨fun ledger why => ?_, run_readDailyStats_of_tooLong, fun hfits => ?_, fun _ => rfl,
    fun invocation keys ledger =>
      ⟨Invocation.status_exitOfBucket_some_iff, Invocation.status_exitOfBucket_none⟩⟩
  · rcases Nat.lt_or_ge Address.longestSeed day.utf8ByteSize with hlong | hfits
    · have hbroken : (ledger.run (readDailyStats program day)).1 = .error .seedTooLong :=
        run_readDailyStats_breaksOff hlong
      rw [hbroken, Except.error.injEq, eq_comm, and_iff_left hlong]
    · obtain ⟨ending, hending⟩ := exists_run_readDailyStats program ledger hfits
      rw [hending]
      exact ⟨nofun, fun ⟨_, hlong⟩ => absurd hfits (Nat.not_le_of_lt hlong)⟩
  · have hfound : Address.dailyStats program day = .ok (Address.find program _) :=
      Address.dailyStats_of_length hfits
    exact ⟨_, Address.first_find program _, hfound, readDailyStats_eq hfound⟩

/-- A day in full-width digits has eleven characters and 33 bytes. -/
theorem readDailyStats_breaksOff_fullWidth :
    "２０２４年０３月０１日".length = 11 ∧
      (({} : ScriptedLedger).run
        (readDailyStats (Octets.filled 32 7) "２０２４年０３月０１日")).1 = .error .seedTooLong :=
  ⟨by decide, run_readDailyStats_breaksOff (by decide)⟩

end LendingClient
