import Mathlib.Data.List.MinMax
import OmniControlPlane.Lib.Retention
import OmniControlPlane.Telemetry.CensorshipMap
import OmniControlPlane.Telemetry.Poison
import OmniControlPlane.Telemetry.Race

/-! # The purges of the feeds

The cron tick deletes what has expired from the tables of the reports. The map and the summary of the poisoning read
windows, and no purge can be seen in them. The races and the sizes of packets merge a report with the row of the one
before, and there a purge shows where a report comes for a row that it has deleted.
-/

namespace OmniControlPlane.Telemetry.Feeds

open Lib Retention JavaScript
open Portal (HttpError)
open CensorshipMap (MapReport aggregateMap knownText MAP_ISPS MAP_RETENTION_HOURS recordMapReport sanitizeCity)
open Poison (POISON_RETENTION_HOURS PoisonReportInput poisonSummary recordPoisonReport)
open Race (RaceReportInput RaceRow purgeExpiredRaceReports recordRaceReport)

/-! ## Sizes of packets -/

structure MtuReport where
  isp : String
  city : String
  mtu : ℕ
deriving DecidableEq, Repr

def parseMtuReport (input : Js) : Except HttpError MtuReport :=
  match input with
  | .object body =>
    match Fields.get body "mtu" with
    | some (.number (.finite mtu)) =>
      if mtu.isInt ∧ 512 ≤ mtu ∧ mtu ≤ 1400 then
        .ok ⟨knownText MAP_ISPS "سایر" (Fields.get body "isp"), sanitizeCity (Fields.get body "city"), mtu.num.toNat⟩
      else .error ⟨400, "invalid_input", "mtu must be an integer between 512 and 1400"⟩
    | _ => .error ⟨400, "invalid_input", "mtu must be an integer between 512 and 1400"⟩
  | _ => .error ⟨400, "invalid_input", "Expected a JSON object"⟩

/-- A row of `mtu_reports`, under its provider and city. -/
structure MtuRow where
  mtu : ℕ
  samples : ℕ
  updated_at : ℤ
  expires_at : ℤ
deriving DecidableEq, Repr

abbrev MtuTable := OrderedMap (String × String) MtuRow

/-- What the upsert makes of a row. -/
def mergeMtu (report : MtuReport) (now : ℤ) : Option MtuRow → MtuRow
  | none => ⟨report.mtu, 1, now, now + POISON_RETENTION_HOURS * 3600000⟩
  | some row => {
    mtu := if row.mtu < report.mtu then report.mtu else row.mtu
    samples := row.samples + 1
    updated_at := now
    expires_at := now + POISON_RETENTION_HOURS * 3600000 }

def recordMtuReport (table : MtuTable) (report : MtuReport) (now : ℤ) : MtuTable :=
  table.alter (report.isp, report.city) (mergeMtu report now)

def purgeExpiredMtuReports (table : MtuTable) (now : ℤ) : MtuTable := table.filter fun _ row => now < row.expires_at

/-- The row of a place, or else the one with the most samples. -/
def mtuSuggestion (table : MtuTable) (isp city : Option String) (now : ℤ) : Option ((String × String) × MtuRow) :=
  let entries := table.entries.filter (now < ·.2.expires_at)
  match isp.filter (· ≠ ""), city.filter (· ≠ "") with
  | some isp, some city => entries.find? (·.1 = (isp, city))
  | _, _ => entries.argmax (·.2.samples)

/-! ## The windows -/

section

variable {maps : List (Happening MapReport)} {poisons : List (Happening PoisonReportInput)} {now : ℤ}

def purgeExpiredMapReports (rows : List CensorshipMap.Row) (now : ℤ) : List CensorshipMap.Row :=
  rows.filter (now < ·.expires_at)

def purgeExpiredPoisonReports (rows : List Poison.Row) (now : ℤ) : List Poison.Row := rows.filter (now < ·.expires_at)

def mapStep (rows : List CensorshipMap.Row) : Happening MapReport → List CensorshipMap.Row
  | .record report now => recordMapReport rows report now
  | .purge now => purgeExpiredMapReports rows now

def mapTable (tape : List (Happening MapReport)) : List CensorshipMap.Row := tape.foldl mapStep []

def poisonStep (rows : List Poison.Row) : Happening PoisonReportInput → List Poison.Row
  | .record report now => recordPoisonReport rows report now
  | .purge now => purgeExpiredPoisonReports rows now

def poisonTable (tape : List (Happening PoisonReportInput)) : List Poison.Row := tape.foldl poisonStep []

def mapRow (report : MapReport) (now : ℤ) : CensorshipMap.Row := ⟨report, now, now + MAP_RETENTION_HOURS * 3600000⟩

def poisonRow (report : PoisonReportInput) (now : ℤ) : Poison.Row :=
  let verdict := Poison.evaluatePoisonTest report.entries
  ⟨report.isp, report.city, verdict.fake, verdict.total, now, now + POISON_RETENTION_HOURS * 3600000⟩

theorem mapTable_eq (tape : List (Happening MapReport)) : mapTable tape = log mapRow (·.expires_at) tape := by
  rw [mapTable, log]
  congr
  funext rows event
  cases event <;> rfl

theorem poisonTable_eq (tape : List (Happening PoisonReportInput)) :
    poisonTable tape = log poisonRow (·.expires_at) tape := by
  rw [poisonTable, log]
  congr
  funext rows event
  cases event <;> rfl

/-- What is in a window of at most a day has not expired. -/
theorem lasting_of_window {windowHours : ℚ} (day : windowHours ≤ 24) {created : ℤ}
    (inside : ⌊(now : ℚ) - windowHours * 3600000⌋ < created) : now < created + 24 * 3600000 := by
  have edge : now - 24 * 3600000 ≤ ⌊(now : ℚ) - windowHours * 3600000⌋ := by
    rw [Int.le_floor]
    push_cast
    linarith
  omega

/-- The reads of the windows are those of all reports that there have been, whatever has been purged. -/
theorem windows_purged {windowHours : ℚ} (day : windowHours ≤ 24) (past : ∀ time, .purge time ∈ maps → time ≤ now)
    (past' : ∀ time, .purge time ∈ poisons → time ≤ now) :
    aggregateMap (mapTable maps) windowHours now = aggregateMap (mapTable (unpurged maps)) windowHours now ∧
      poisonSummary (poisonTable poisons) windowHours now = poisonSummary (poisonTable (unpurged poisons)) windowHours now := by
  have mapWindow : CensorshipMap.inWindow (mapTable maps) windowHours now =
      CensorshipMap.inWindow (mapTable (unpurged maps)) windowHours now := by
    rw [mapTable_eq, mapTable_eq]
    have lasting {tape : List (Happening MapReport)} : ∀ row ∈ log mapRow (·.expires_at) tape,
        decide (⌊(now : ℚ) - windowHours * 3600000⌋ < row.created_at) = true → now < row.expires_at := by
      intro row member inside
      obtain ⟨report, time, rfl⟩ := mem_log member
      exact lasting_of_window day (of_decide_eq_true inside)
    exact (purged_log past).read lasting lasting
  have poisonWindow : Poison.inWindow (poisonTable poisons) windowHours now =
      Poison.inWindow (poisonTable (unpurged poisons)) windowHours now := by
    rw [poisonTable_eq, poisonTable_eq]
    have lasting {tape : List (Happening PoisonReportInput)} : ∀ row ∈ log poisonRow (·.expires_at) tape,
        decide (⌊(now : ℚ) - windowHours * 3600000⌋ < row.created_at) = true → now < row.expires_at := by
      intro row member inside
      obtain ⟨report, time, rfl⟩ := mem_log member
      exact lasting_of_window day (of_decide_eq_true inside)
    exact (purged_log past').read lasting lasting
  rw [aggregateMap, aggregateMap, poisonSummary, poisonSummary, mapWindow, poisonWindow]
  exact ⟨rfl, rfl⟩

theorem unmeasured : ∀ rtt ∈ (none : Option ℤ), -1 ≤ rtt ∧ rtt ≤ 10000 := fun rtt absent =>
  absurd absent (Option.not_mem_none rtt)

/-- A report of the map that the purge of the next day deletes. -/
def yesterday : List (Happening MapReport) :=
  [.record ⟨"سایر", "قم", "ech", none, true, unmeasured⟩ 0, .purge 86400000]

theorem yesterday_purged : aggregateMap (mapTable yesterday) 24 86400000 =
    aggregateMap (mapTable (unpurged yesterday)) 24 86400000 := by
  have past : ∀ time, .purge time ∈ yesterday → time ≤ 86400000 := by simp [yesterday]
  have none : ∀ time, .purge time ∈ ([] : List (Happening PoisonReportInput)) → time ≤ 86400000 :=
    fun time absent => by contradiction
  exact (windows_purged (le_refl 24) past none).1

end

/-! ## The merged rows -/

section

variable {races : List (Happening RaceReportInput)} {mtus : List (Happening MtuReport)} {now : ℤ}

def raceStep (table : Race.Table) : Happening RaceReportInput → Race.Table
  | .record report now => recordRaceReport table report now
  | .purge now => purgeExpiredRaceReports table now

def raceTable (tape : List (Happening RaceReportInput)) : Race.Table := tape.foldl raceStep .empty

def mtuStep (table : MtuTable) : Happening MtuReport → MtuTable
  | .record report now => recordMtuReport table report now
  | .purge now => purgeExpiredMtuReports table now

def mtuTable (tape : List (Happening MtuReport)) : MtuTable := tape.foldl mtuStep .empty

theorem raceTable_eq (tape : List (Happening RaceReportInput)) :
    raceTable tape = table (·.domain) Race.merge (·.expires_at) tape := by
  rw [raceTable, table]
  congr
  funext table event
  cases event <;> rfl

theorem mtuTable_eq (tape : List (Happening MtuReport)) :
    mtuTable tape = table (fun report => (report.isp, report.city)) mergeMtu (·.expires_at) tape := by
  rw [mtuTable, table]
  congr
  funext table event
  cases event <;> rfl

/-- What a purge would leave of the table is the same with and without the purges of the tape, at every moment from the
last event on. -/
def Unseen {ι κ ν : Type} (tableOf : List (Happening ι) → OrderedMap κ ν)
    (purge : OrderedMap κ ν → ℤ → OrderedMap κ ν) (tape : List (Happening ι)) : Prop :=
  ∀ before after, tape = before ++ after → ∀ now, (∀ event ∈ before, event.now ≤ now) →
    purge (tableOf before) now = purge (tableOf (unpurged before)) now

/-- A report comes for a row that a purge has deleted. -/
def Resumes {ι κ ν : Type} [DecidableEq κ] (tableOf : List (Happening ι) → OrderedMap κ ν) (name : ι → κ)
    (tape : List (Happening ι)) : Prop :=
  ∃ before report time after, tape = before ++ .record report time :: after ∧
    (tableOf before).get? (name report) = none ∧ ((tableOf (unpurged before)).get? (name report)).isSome

theorem counting_race : Counting Race.merge (·.samples) := ⟨fun _ _ => rfl, fun _ _ _ => rfl⟩

theorem counting_mtu : Counting mergeMtu (·.samples) := ⟨fun _ _ => rfl, fun _ _ _ => rfl⟩

theorem lasting_race (report : RaceReportInput) (time : ℤ) (row : Option RaceRow) :
    time < (Race.merge report time row).expires_at := by
  cases row <;> simp [Race.merge, Race.RACE_RETENTION_DAYS]

theorem lasting_mtu (report : MtuReport) (time : ℤ) (row : Option MtuRow) :
    time < (mergeMtu report time row).expires_at := by
  cases row <;> simp [mergeMtu, POISON_RETENTION_HOURS]

theorem resumes_iff {ι κ ν : Type} [DecidableEq κ] {tableOf : List (Happening ι) → OrderedMap κ ν} {name : ι → κ}
    {merge : ι → ℤ → Option ν → ν} {expires : ν → ℤ} (same : ∀ tape, tableOf tape = table name merge expires tape)
    {tape : List (Happening ι)} : ¬ Resumes tableOf name tape ↔
      ∀ before event after, tape = before ++ event :: after → ¬ Overtaken name merge expires before event := by
  constructor
  · intro calm before event after split overtaken
    cases event with
    | purge time => exact overtaken
    | record report time =>
      refine calm ⟨before, report, time, after, split, ?_⟩
      rw [same, same]
      exact overtaken
  · rintro calm ⟨before, report, time, after, split, missing⟩
    rw [same, same] at missing
    exact calm before _ after split missing

theorem listRaceWinners_purge (table : Race.Table) (now : ℤ) :
    Race.listRaceWinners (purgeExpiredRaceReports table now) now = Race.listRaceWinners table now := by
  rw [Race.listRaceWinners, Race.listRaceWinners, purgeExpiredRaceReports, OrderedMap.filter, List.filter_filter]
  simp only [Bool.and_self]

theorem mtuSuggestion_purge (table : MtuTable) (isp city : Option String) (now : ℤ) :
    mtuSuggestion (purgeExpiredMtuReports table now) isp city now = mtuSuggestion table isp city now := by
  rw [mtuSuggestion, mtuSuggestion, purgeExpiredMtuReports, OrderedMap.filter, List.filter_filter]
  simp only [Bool.and_self]

/-- What the races and the sizes of packets are read from does not depend on the purges, exactly where no report comes
for a row that has been deleted; the rows that have not expired are all that is read. -/
theorem merged_purged_iff (ordered : races.Pairwise (·.now ≤ ·.now)) (ordered' : mtus.Pairwise (·.now ≤ ·.now)) :
    (Unseen raceTable purgeExpiredRaceReports races ↔ ¬ Resumes raceTable (·.domain) races) ∧
      (Unseen mtuTable purgeExpiredMtuReports mtus ↔
        ¬ Resumes mtuTable (fun report => (report.isp, report.city)) mtus) ∧
      (∀ table now, Race.listRaceWinners (purgeExpiredRaceReports table now) now = Race.listRaceWinners table now) ∧
      ∀ table isp city now,
        mtuSuggestion (purgeExpiredMtuReports table now) isp city now = mtuSuggestion table isp city now := by
  refine ⟨?_, ?_, listRaceWinners_purge, mtuSuggestion_purge⟩
  · rw [resumes_iff raceTable_eq, ← living_iff counting_race lasting_race ordered]
    simp only [Unseen, raceTable_eq]
    exact Iff.rfl
  · rw [resumes_iff mtuTable_eq, ← living_iff counting_mtu lasting_mtu ordered']
    simp only [Unseen, mtuTable_eq]
    exact Iff.rfl

/-- A report after the purge of its row: the row starts again, with one sample. -/
def resumed : List (Happening RaceReportInput) :=
  [.record ⟨"snapp.ir", some 40, some 400⟩ 0, .purge 604800000, .record ⟨"snapp.ir", some 40, none⟩ 604800001]

theorem resumed_seen : ¬ Unseen raceTable purgeExpiredRaceReports resumed := by
  have none : ([] : List (Happening MtuReport)).Pairwise (·.now ≤ ·.now) := .nil
  have ordered : resumed.Pairwise (·.now ≤ ·.now) := by decide
  rw [(merged_purged_iff ordered none).1, not_not]
  exact ⟨resumed.take 2, _, _, [], rfl, by decide, by decide⟩

end

end OmniControlPlane.Telemetry.Feeds
