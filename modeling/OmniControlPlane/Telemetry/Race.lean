import Mathlib.Data.List.Sort
import OmniControlPlane.Lib.Machine
import OmniControlPlane.Lib.OrderedMap

/-! # The race between the tunnel and the direct path

Clients report what a domain took on one or both paths. A row merges the two measurements with what it held, and
takes its winner from the last report alone. Times are in milliseconds.
-/

namespace OmniControlPlane.Telemetry.Race

open Lib Machine

def RACE_RETENTION_DAYS : ℤ := 7

def RACE_MIN_SAMPLES : ℕ := 2

structure RaceReportInput where
  domain : String
  directMs : Option ℕ
  tunnelMs : Option ℕ

inductive Winner where
  | direct
  | tunnel
  | tie
deriving DecidableEq, Repr

def raceWinner : Option ℕ → Option ℕ → Winner
  | some directMs, some tunnelMs =>
    if directMs = tunnelMs then .tie else if directMs < tunnelMs then .direct else .tunnel
  | _, _ => .tie

/-- A row of `race_reports`, under its domain. -/
structure RaceRow where
  direct_ms : Option ℕ
  tunnel_ms : Option ℕ
  winner : Winner
  samples : ℕ
  updated_at : ℤ
  expires_at : ℤ
deriving DecidableEq, Repr

abbrev Table := OrderedMap String RaceRow

/-- What the upsert makes of a row. -/
def merge (report : RaceReportInput) (now : ℤ) : Option RaceRow → RaceRow
  | none => {
    direct_ms := report.directMs
    tunnel_ms := report.tunnelMs
    winner := raceWinner report.directMs report.tunnelMs
    samples := 1
    updated_at := now
    expires_at := now + RACE_RETENTION_DAYS * 86400000 }
  | some row => {
    direct_ms := report.directMs.or row.direct_ms
    tunnel_ms := report.tunnelMs.or row.tunnel_ms
    winner := raceWinner report.directMs report.tunnelMs
    samples := row.samples + 1
    updated_at := now
    expires_at := now + RACE_RETENTION_DAYS * 86400000 }

def recordRaceReport (table : Table) (report : RaceReportInput) (now : ℤ) : Table :=
  table.alter report.domain (merge report now)

def purgeExpiredRaceReports (table : Table) (now : ℤ) : Table := table.filter fun _ row => now < row.expires_at

/-- More samples first, and the later update within as many. -/
def Before (left right : String × RaceRow) : Prop :=
  right.2.samples < left.2.samples ∨ left.2.samples = right.2.samples ∧ right.2.updated_at ≤ left.2.updated_at

instance : DecidableRel Before := fun left right => inferInstanceAs (Decidable
  (right.2.samples < left.2.samples ∨ left.2.samples = right.2.samples ∧ right.2.updated_at ≤ left.2.updated_at))

def listRaceWinners (table : Table) (now : ℤ) : List (String × RaceRow) :=
  ((table.entries.filter fun entry => now < entry.2.expires_at).insertionSort Before).take 50

def directRaceDomains (table : Table) (now : ℤ) : List String :=
  ((listRaceWinners table now).filter fun entry =>
    entry.1 ≠ "" && entry.2.winner = .direct && RACE_MIN_SAMPLES ≤ entry.2.samples).map (·.1)

inductive Event where
  | record (report : RaceReportInput) (now : ℤ)
  | purge (now : ℤ)

def machine : Machine Table Event where
  step?
    | table, .record report now => some (recordRaceReport table report now)
    | table, .purge now => some (purgeExpiredRaceReports table now)

/-! ## The winner of a row -/

/-- The winner of each row is the winner of its measurements. -/
def Honest (table : Table) : Prop :=
  ∀ domain row, table.get? domain = some row → row.winner = raceWinner row.direct_ms row.tunnel_ms

/-- A row whose winner is the direct path has both measurements, the direct one smaller. -/
def Backed (table : Table) : Prop :=
  ∀ domain row, table.get? domain = some row → row.winner = .direct →
    ∃ direct tunnel, row.direct_ms = some direct ∧ row.tunnel_ms = some tunnel ∧ direct < tunnel

/-- A report with both measurements, or one after which the row has only one measurement or the same twice. -/
def Whole (table : Table) (report : RaceReportInput) : Prop :=
  report.directMs.isSome ∧ report.tunnelMs.isSome ∨
    ∀ direct tunnel, report.directMs.or ((table.get? report.domain).bind (·.direct_ms)) = some direct →
      report.tunnelMs.or ((table.get? report.domain).bind (·.tunnel_ms)) = some tunnel → direct = tunnel

def WholeReports : Table → Event → Prop
  | table, .record report _ => Whole table report
  | _, .purge _ => True

theorem raceWinner_eq_tie_iff {directMs tunnelMs : Option ℕ} : raceWinner directMs tunnelMs = .tie ↔
    ∀ direct tunnel, directMs = some direct → tunnelMs = some tunnel → direct = tunnel := by
  cases directMs with
  | none => simp [raceWinner]
  | some direct =>
    cases tunnelMs with
    | none => simp [raceWinner]
    | some tunnel =>
      simp only [raceWinner, Option.some.injEq]
      by_cases same : direct = tunnel
      · simp [same]
      · by_cases less : direct < tunnel <;> simp [same, less]

theorem raceWinner_eq_direct_iff {directMs tunnelMs : Option ℕ} : raceWinner directMs tunnelMs = .direct ↔
    ∃ direct tunnel, directMs = some direct ∧ tunnelMs = some tunnel ∧ direct < tunnel := by
  cases directMs with
  | none => simp [raceWinner]
  | some direct =>
    cases tunnelMs with
    | none => simp [raceWinner]
    | some tunnel =>
      simp only [raceWinner, Option.some.injEq]
      by_cases same : direct = tunnel
      · simp [same]
      · by_cases less : direct < tunnel <;> simp [same, less]

/-- A report that lacks a measurement makes a tie. -/
theorem raceWinner_of_lacking {directMs tunnelMs : Option ℕ} (lacking : ¬ (directMs.isSome ∧ tunnelMs.isSome)) :
    raceWinner directMs tunnelMs = .tie := by
  rw [raceWinner_eq_tie_iff]
  rintro direct tunnel rfl rfl
  exact absurd ⟨rfl, rfl⟩ lacking

section

variable {table : Table} {report : RaceReportInput} {now : ℤ}

theorem merge_measurements (row : Option RaceRow) :
    (merge report now row).direct_ms = report.directMs.or (row.bind (·.direct_ms)) ∧
    (merge report now row).tunnel_ms = report.tunnelMs.or (row.bind (·.tunnel_ms)) ∧
    (merge report now row).winner = raceWinner report.directMs report.tunnelMs := by
  cases row with
  | none => exact ⟨Option.or_none.symm, Option.or_none.symm, rfl⟩
  | some row => exact ⟨rfl, rfl, rfl⟩

/-- The row that was written has the winner of its measurements exactly after a report that is whole. -/
theorem merge_honest_iff : (merge report now (table.get? report.domain)).winner =
      raceWinner (merge report now (table.get? report.domain)).direct_ms
        (merge report now (table.get? report.domain)).tunnel_ms ↔ Whole table report := by
  obtain ⟨direct, tunnel, winner⟩ := @merge_measurements report now (table.get? report.domain)
  rw [direct, tunnel, winner]
  by_cases both : report.directMs.isSome ∧ report.tunnelMs.isSome
  · obtain ⟨value, given⟩ := Option.isSome_iff_exists.mp both.1
    obtain ⟨value', given'⟩ := Option.isSome_iff_exists.mp both.2
    rw [given, given']
    exact iff_of_true rfl (.inl both)
  · rw [raceWinner_of_lacking both, eq_comm, raceWinner_eq_tie_iff]
    exact ⟨.inr, fun whole => whole.resolve_left both⟩

theorem honest_record_iff (honest : Honest table) :
    Honest (recordRaceReport table report now) ↔ Whole table report := by
  rw [← @merge_honest_iff table report now]
  constructor
  · intro written
    apply written report.domain
    rw [recordRaceReport, OrderedMap.get?_alter, if_pos rfl]
  · intro written domain row found
    rw [recordRaceReport, OrderedMap.get?_alter] at found
    split at found
    · obtain rfl := Option.some.inj found
      exact written
    · exact honest domain row found

theorem honest_purge (honest : Honest table) : Honest (purgeExpiredRaceReports table now) := by
  intro domain row found
  exact honest domain row (OrderedMap.get?_filter_eq_some_iff.mp found).1

theorem backed_record (backed : Backed table) : Backed (recordRaceReport table report now) := by
  intro domain row found won
  rw [recordRaceReport, OrderedMap.get?_alter] at found
  split at found
  · obtain rfl := Option.some.inj found
    obtain ⟨direct, tunnel, winner⟩ := @merge_measurements report now (table.get? report.domain)
    rw [winner, raceWinner_eq_direct_iff] at won
    obtain ⟨directMs, tunnelMs, given, given', less⟩ := won
    refine ⟨directMs, tunnelMs, ?_, ?_, less⟩
    · rw [direct, given]
      rfl
    · rw [tunnel, given']
      rfl
  · exact backed domain row found won

theorem backed_purge (backed : Backed table) : Backed (purgeExpiredRaceReports table now) := by
  intro domain row found won
  exact backed domain row (OrderedMap.get?_filter_eq_some_iff.mp found).1 won

end

theorem honest_empty : Honest .empty := by
  intro domain row found
  contradiction

/-! ## Runs -/

theorem backed_run {events : List Event} {table : Table} (run : machine.Run Free .empty events table) :
    Backed table := by
  apply run.preserves Backed
  · intro table event next backed _ stepped
    cases event with
    | record report now =>
      obtain rfl := Option.some.inj stepped
      exact backed_record backed
    | purge now =>
      obtain rfl := Option.some.inj stepped
      exact backed_purge backed
  · intro domain row found
    contradiction

theorem mem_directRaceDomains {table : Table} {now : ℤ} {domain : String}
    (listed : domain ∈ directRaceDomains table now) :
    ∃ row, table.get? domain = some row ∧ row.winner = .direct := by
  obtain ⟨⟨domain', row⟩, member, rfl⟩ := List.mem_map.mp listed
  obtain ⟨winners, usable⟩ := List.mem_filter.mp member
  have sorted := List.mem_of_mem_take winners
  rw [List.mem_insertionSort] at sorted
  refine ⟨row, OrderedMap.mem_entries_iff.mp (List.mem_filter.mp sorted).1, ?_⟩
  simp only [Bool.and_eq_true, decide_eq_true_eq] at usable
  exact usable.1.2

/-- The winners are those of the rows after every step exactly where every report is whole. A domain that is listed
as direct has both measurements, whatever was reported. -/
theorem winners_honest_iff {events : List Event} {table : Table} (run : machine.Run Free .empty events table) :
    ((∀ first rest mid, events = first ++ rest → machine.Run Free .empty first mid → Honest mid) ↔
      machine.Run WholeReports .empty events table) ∧
    ∀ now, ∀ domain ∈ directRaceDomains table now, ∃ row direct tunnel, table.get? domain = some row ∧
      row.direct_ms = some direct ∧ row.tunnel_ms = some tunnel ∧ direct < tunnel := by
  constructor
  · apply Run.always_iff WholeReports Honest Honest (fun _ honest => honest) _ run honest_empty
    intro table event next honest stepped
    cases event with
    | record report now =>
      obtain rfl := Option.some.inj stepped
      have exact := @honest_record_iff table report now honest
      exact ⟨exact, exact.mpr⟩
    | purge now =>
      obtain rfl := Option.some.inj stepped
      have kept := @honest_purge table now honest
      exact ⟨iff_of_true kept trivial, fun _ => kept⟩
  · intro now domain listed
    obtain ⟨row, found, won⟩ := mem_directRaceDomains listed
    obtain ⟨direct, tunnel, given, given', less⟩ := backed_run run domain row found won
    exact ⟨row, direct, tunnel, found, given, given', less⟩

namespace Sample

/-- A race that was measured whole, and then its tunnel alone -/
def events : List Event :=
  [.record ⟨"snapp.ir", some 40, some 400⟩ 0, .record ⟨"snapp.ir", none, some 20⟩ 1000]

def final : Table := ⟨[("snapp.ir", ⟨some 40, some 20, .tie, 2, 1000, 604801000⟩)], by decide⟩

end Sample

namespace Sample

/-- Two races that were measured whole, one of them twice, and a purge -/
def whole : List Event :=
  [.record ⟨"snapp.ir", some 40, some 400⟩ 0, .record ⟨"digikala.com", some 300, some 90⟩ 1000, .purge 2000,
    .record ⟨"snapp.ir", some 50, some 380⟩ 3000]

end Sample

/-- Every prefix is honest, and the one domain that is faster without the tunnel is listed. -/
theorem winners_honest_whole : ∃ table, machine.Run Free .empty Sample.whole table ∧
    (∀ first rest mid, Sample.whole = first ++ rest → machine.Run Free .empty first mid → Honest mid) ∧
    directRaceDomains table 4000 = ["snapp.ir"] ∧ ∃ row direct tunnel, table.get? "snapp.ir" = some row ∧
      row.direct_ms = some direct ∧ row.tunnel_ms = some tunnel ∧ direct < tunnel := by
  obtain ⟨table, run, wholeReports, listed⟩ : ∃ table, machine.Run Free .empty Sample.whole table ∧
      machine.Run WholeReports .empty Sample.whole table ∧ directRaceDomains table 4000 = ["snapp.ir"] :=
    ⟨_, .cons trivial rfl (.cons trivial rfl (.cons trivial rfl (.cons trivial rfl (.nil _)))),
      .cons (.inl ⟨rfl, rfl⟩) rfl (.cons (.inl ⟨rfl, rfl⟩) rfl (.cons trivial rfl
        (.cons (.inl ⟨rfl, rfl⟩) rfl (.nil _)))), by decide +kernel⟩
  obtain ⟨honest, direct⟩ := winners_honest_iff run
  exact ⟨table, run, honest.mpr wholeReports, listed, direct 4000 "snapp.ir" (listed ▸ List.mem_singleton_self _)⟩

/-- The tunnel is measured again and faster, and the row says a tie. -/
theorem partial_report_ties : machine.Run Free .empty Sample.events Sample.final ∧ ¬ Honest Sample.final := by
  constructor
  · exact .cons trivial rfl (.cons trivial rfl (.nil _))
  · intro honest
    have tied := honest "snapp.ir" ⟨some 40, some 20, .tie, 2, 1000, 604801000⟩ rfl
    contradiction

end OmniControlPlane.Telemetry.Race
