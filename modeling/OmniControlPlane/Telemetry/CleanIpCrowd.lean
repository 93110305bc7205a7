import OmniControlPlane.Telemetry.CleanIpReport

/-! # What the crowd reports of an IP

A row averages the reports of one IP from one operator and city. A latency of -1 stands for a client that could not
measure, and goes into the average as a number.
-/

namespace OmniControlPlane.Telemetry.CleanIp

open Lib
open WhiteHole (ReportRow)

/-- `ROUND(x)` of SQLite, which rounds halves away from zero. -/
def sqlRound (x : ℚ) : ℤ := if 0 ≤ x then ⌊x + 1 / 2⌋ else -⌊-x + 1 / 2⌋

/-- An IP, an operator and a city. -/
abbrev Cell := String × String × String

def CleanIpReport.cell (report : CleanIpReport) : Cell := (report.ip, report.operator, report.city)

/-- `clean_ip_reports`, under its primary key. -/
abbrev Table := OrderedMap Cell ReportRow

/-- What the upsert makes of a row. -/
def merge (report : CleanIpReport) (now : ℤ) : Option ReportRow → ReportRow
  | none => {
    ip := report.ip
    operator := report.operator
    city := report.city
    latency_ms := max (-1) report.latencyMs
    loss_pct := report.lossPct
    ok_count := if report.ok then 1 else 0
    report_count := 1
    updated_at := now }
  | some row => { row with
    latency_ms := sqlRound (row.latency_ms * (6 / 10) + (max (-1) report.latencyMs : ℤ) * (4 / 10))
    loss_pct := sqlRound ((row.loss_pct * (6 / 10) + report.lossPct * (4 / 10)) * 10) / 10
    ok_count := row.ok_count + if report.ok then 1 else 0
    report_count := row.report_count + 1
    updated_at := now }

def recordCleanIpReport (table : Table) (report : CleanIpReport) (now : ℤ) : Table :=
  table.alter report.cell (merge report now)

/-- The table after reports at their times. -/
def recorded (history : List (CleanIpReport × ℤ)) : Table :=
  history.foldl (fun table item => recordCleanIpReport table item.1 item.2) .empty

/-- The reports of a cell with their times. -/
def ofCell (history : List (CleanIpReport × ℤ)) (cell : Cell) : List (CleanIpReport × ℤ) :=
  history.filter (·.1.cell = cell)

def reportsOf (history : List (CleanIpReport × ℤ)) (cell : Cell) : List CleanIpReport := (ofCell history cell).map (·.1)

/-! ## Averages -/

theorem sqlRound_le {x : ℚ} {most : ℤ} (bound : x < most + 1 / 2) : sqlRound x ≤ most := by
  rw [sqlRound]
  split
  · apply Int.lt_add_one_iff.mp
    rw [Int.floor_lt]
    push_cast
    linarith
  · rw [neg_le, Int.le_floor]
    push_cast
    linarith

theorem le_sqlRound {x : ℚ} {least : ℤ} (bound : least ≤ x) : least ≤ sqlRound x := by
  rw [sqlRound]
  split
  · rw [Int.le_floor]
    linarith
  · rw [le_neg]
    apply Int.lt_add_one_iff.mp
    rw [Int.floor_lt]
    push_cast
    linarith

/-- What a stored and a reported number are averaged to. -/
def average (stored reported : ℤ) : ℤ := sqlRound (stored * (6 / 10) + reported * (4 / 10))

section

variable {stored reported : ℤ}

theorem average_le {most : ℤ} (old : stored ≤ most) (new : reported ≤ most) : average stored reported ≤ most := by
  have old' : (stored : ℚ) ≤ most := by exact_mod_cast old
  have new' : (reported : ℚ) ≤ most := by exact_mod_cast new
  apply sqlRound_le
  linarith

theorem le_average {least : ℤ} (old : least ≤ stored) (new : least ≤ reported) : least ≤ average stored reported := by
  have old' : (least : ℚ) ≤ stored := by exact_mod_cast old
  have new' : (least : ℚ) ≤ reported := by exact_mod_cast new
  apply le_sqlRound
  linarith

theorem average_tenths (stored reported : ℤ) :
    (sqlRound (((stored / 10 : ℚ) * (6 / 10) + (reported / 10 : ℚ) * (4 / 10)) * 10) / 10 : ℚ) =
      average stored reported / 10 := by
  rw [average]
  congr 3
  ring

end

/-! ## One cell -/

/-- The row after the reports of its cell. -/
def rowAfter (reports : List (CleanIpReport × ℤ)) : Option ReportRow :=
  reports.foldl (fun row item => some (merge item.1 item.2 row)) none

theorem get?_recorded (history : List (CleanIpReport × ℤ)) (cell : Cell) :
    (recorded history).get? cell = rowAfter (ofCell history cell) :=
  OrderedMap.get?_foldl_alter history (·.1.cell) (fun item => merge item.1 item.2) .empty cell

theorem rowAfter_append (reports : List (CleanIpReport × ℤ)) (item : CleanIpReport × ℤ) :
    rowAfter (reports ++ [item]) = some (merge item.1 item.2 (rowAfter reports)) := by
  rw [rowAfter, List.foldl_append]
  rfl

/-- An induction over the reports of a cell, with the row that each of them finds. -/
theorem rowAfter_induction {motive : List (CleanIpReport × ℤ) → ReportRow → Prop}
    (first : ∀ item, motive [item] (merge item.1 item.2 none))
    (next : ∀ reports row item, motive reports row → motive (reports ++ [item]) (merge item.1 item.2 (some row)))
    {reports : List (CleanIpReport × ℤ)} {row : ReportRow} (found : rowAfter reports = some row) : motive reports row := by
  induction reports using List.reverseRecOn generalizing row with
  | nil => contradiction
  | append_singleton reports item ih =>
    rw [rowAfter_append] at found
    obtain rfl := Option.some.inj found
    cases before : rowAfter reports with
    | none =>
      cases reports using List.reverseRecOn with
      | nil => exact first item
      | append_singleton reports last =>
        rw [rowAfter_append] at before
        contradiction
    | some row => exact next reports row item (ih before)

/-- A report with a latency. -/
def CleanIpReport.measured (report : CleanIpReport) : Bool := 0 ≤ report.latencyMs

/-- Some of the reports have a latency, and some have none. -/
def Mixed (reports : List CleanIpReport) : Prop :=
  (∃ report ∈ reports, report.measured = true) ∧ ∃ report ∈ reports, report.measured = false

/-- The latency of a row is -1 where none was measured, and otherwise among those that were. -/
def Unpolluted (reports : List CleanIpReport) (row : ReportRow) : Prop :=
  (row.latency_ms = -1 ↔ ∀ report ∈ reports, report.measured = false) ∧
  ((∃ report ∈ reports, report.measured = true) →
    (∃ low ∈ reports, low.measured = true ∧ low.latencyMs ≤ row.latency_ms) ∧
    ∃ high ∈ reports, high.measured = true ∧ row.latency_ms ≤ high.latencyMs)

section

variable {reports : List (CleanIpReport × ℤ)} {row : ReportRow}

/-- What a row averages stays between two of the numbers that were reported. -/
theorem held_between (held : ReportRow → ℤ → Prop) (brought : CleanIpReport → ℤ)
    (begins : ∀ item : CleanIpReport × ℤ, held (merge item.1 item.2 none) (brought item.1))
    (averages : ∀ (item : CleanIpReport × ℤ) row number, held row number →
      held (merge item.1 item.2 (some row)) (average number (brought item.1)))
    (found : rowAfter reports = some row) : ∃ number, held row number ∧
      ∃ low ∈ reports, ∃ high ∈ reports, brought low.1 ≤ number ∧ number ≤ brought high.1 := by
  refine rowAfter_induction (motive := fun reports row => ∃ number, held row number ∧
    ∃ low ∈ reports, ∃ high ∈ reports, brought low.1 ≤ number ∧ number ≤ brought high.1) ?_ ?_ found
  · intro item
    have here := List.mem_singleton.mpr (rfl : item = item)
    exact ⟨brought item.1, begins item, item, here, item, here, le_rfl, le_rfl⟩
  · rintro reports row item ⟨number, holds, low, lowMem, high, highMem, above, below⟩
    have last : item ∈ reports ++ [item] := List.mem_append_right _ (List.mem_singleton.mpr rfl)
    refine ⟨average number (brought item.1), averages item row number holds, ?_⟩
    have least : ∃ low ∈ reports ++ [item], brought low.1 ≤ average number (brought item.1) := by
      rcases Int.le_total (brought low.1) (brought item.1) with under | beyond
      · exact ⟨low, List.mem_append_left _ lowMem, le_average above under⟩
      · exact ⟨item, last, le_average (beyond.trans above) le_rfl⟩
    have most : ∃ high ∈ reports ++ [item], average number (brought item.1) ≤ brought high.1 := by
      rcases Int.le_total (brought item.1) (brought high.1) with under | beyond
      · exact ⟨high, List.mem_append_left _ highMem, average_le below under⟩
      · exact ⟨item, last, average_le (below.trans beyond) le_rfl⟩
    obtain ⟨low, lowMem, above⟩ := least
    obtain ⟨high, highMem, below⟩ := most
    exact ⟨low, lowMem, high, highMem, above, below⟩

theorem latency_between (found : rowAfter reports = some row) : ∃ low ∈ reports, ∃ high ∈ reports,
    max (-1) low.1.latencyMs ≤ row.latency_ms ∧ row.latency_ms ≤ max (-1) high.1.latencyMs := by
  obtain ⟨number, rfl, between⟩ := held_between (fun row number => row.latency_ms = number)
    (fun report => max (-1) report.latencyMs) (fun _ => rfl)
    (fun item row number holds => congrArg (average · (max (-1) item.1.latencyMs)) holds) found
  exact between

/-- The loss of a report in tenths. -/
def CleanIpReport.tenths (report : CleanIpReport) : ℤ := ⌊report.lossPct * 10⌋

theorem CleanIpReport.lossPct_eq (report : CleanIpReport) : report.lossPct = report.tenths / 10 := by
  obtain ⟨tenths, -, loss⟩ := report.loss_tenths
  have whole : report.tenths = tenths := by
    rw [CleanIpReport.tenths, loss, div_mul_cancel₀ _ (by norm_num)]
    exact Int.floor_natCast tenths
  rw [whole, loss, Int.cast_natCast]

theorem loss_between (found : rowAfter reports = some row) :
    ∃ low ∈ reports, ∃ high ∈ reports, low.1.lossPct ≤ row.loss_pct ∧ row.loss_pct ≤ high.1.lossPct := by
  obtain ⟨number, holds, low, lowMem, high, highMem, above, below⟩ := held_between
    (fun row number => row.loss_pct = number / 10) CleanIpReport.tenths (fun item => item.1.lossPct_eq)
    (fun item row number holds => by
      rw [← average_tenths, ← holds, ← item.1.lossPct_eq]
      rfl) found
  have above' : (low.1.tenths : ℚ) ≤ number := by exact_mod_cast above
  have below' : (number : ℚ) ≤ high.1.tenths := by exact_mod_cast below
  refine ⟨low, lowMem, high, highMem, ?_, ?_⟩
  · rw [low.1.lossPct_eq, holds]
    linarith
  · rw [high.1.lossPct_eq, holds]
    linarith

/-- Latencies of 1 ms with a report without one among them come to less, and stay there. -/
theorem latency_dragged (found : rowAfter reports = some row)
    (small : ∀ item ∈ reports, item.1.latencyMs = 1 ∨ item.1.latencyMs = -1) : row.latency_ms ≤ 1 ∧
      ((∃ item ∈ reports, item.1.latencyMs = -1) → row.latency_ms ≤ 0) := by
  refine rowAfter_induction (motive := fun reports row =>
    (∀ item ∈ reports, item.1.latencyMs = 1 ∨ item.1.latencyMs = -1) → row.latency_ms ≤ 1 ∧
      ((∃ item ∈ reports, item.1.latencyMs = -1) → row.latency_ms ≤ 0)) ?_ ?_ found small
  · intro item small
    have first : (merge item.1 item.2 none).latency_ms = max (-1) item.1.latencyMs := rfl
    rw [first]
    have here := small item (List.mem_singleton.mpr rfl)
    refine ⟨by omega, ?_⟩
    rintro ⟨other, member, unmeasured⟩
    obtain rfl := List.mem_singleton.mp member
    omega
  · intro reports row item ih small
    obtain ⟨most, dragged⟩ := ih fun other member => small other (List.mem_append_left _ member)
    have step : (merge item.1 item.2 (some row)).latency_ms = average row.latency_ms (max (-1) item.1.latencyMs) := rfl
    have most' : (row.latency_ms : ℚ) ≤ 1 := by exact_mod_cast most
    rw [step]
    rcases small item (List.mem_append_right _ (List.mem_singleton.mpr rfl)) with one | unmeasured
    · rw [one]
      refine ⟨average_le most le_rfl, ?_⟩
      rintro ⟨other, member, unmeasured⟩
      have before : row.latency_ms ≤ 0 := by
        rcases List.mem_append.mp member with earlier | last
        · exact dragged ⟨other, earlier, unmeasured⟩
        · obtain rfl := List.mem_singleton.mp last
          omega
      have before' : (row.latency_ms : ℚ) ≤ 0 := by exact_mod_cast before
      apply sqlRound_le
      norm_num
      linarith
    · rw [unmeasured]
      have pulled : average row.latency_ms (max (-1) (-1)) ≤ 0 := by
        apply sqlRound_le
        norm_num
        linarith
      exact ⟨by omega, fun _ => pulled⟩

theorem unpolluted_of_unmixed (found : rowAfter reports = some row) (unmixed : ¬ Mixed (reports.map (·.1))) :
    Unpolluted (reports.map (·.1)) row := by
  obtain ⟨low, lowMem, high, highMem, above, below⟩ := latency_between found
  have lowMem' : low.1 ∈ reports.map (·.1) := List.mem_map_of_mem lowMem
  have highMem' : high.1 ∈ reports.map (·.1) := List.mem_map_of_mem highMem
  by_cases measured : ∃ report ∈ reports.map (·.1), report.measured = true
  · have all : ∀ report ∈ reports.map (·.1), report.measured = true := by
      intro report member
      by_contra unmeasured
      exact unmixed ⟨measured, report, member, Bool.eq_false_of_not_eq_true unmeasured⟩
    have lowest : 0 ≤ low.1.latencyMs := of_decide_eq_true (all low.1 lowMem')
    have highest : 0 ≤ high.1.latencyMs := of_decide_eq_true (all high.1 highMem')
    constructor
    · apply iff_of_false
      · omega
      · intro unmeasured
        exact absurd (all low.1 lowMem') (by rw [unmeasured low.1 lowMem']; decide)
    · intro _
      exact ⟨⟨low.1, lowMem', all _ lowMem', by omega⟩, high.1, highMem', all _ highMem', by omega⟩
  · have none : ∀ report ∈ reports.map (·.1), report.measured = false := by
      intro report member
      exact Bool.eq_false_of_not_eq_true fun isMeasured => measured ⟨report, member, isMeasured⟩
    have lowest : ¬ 0 ≤ low.1.latencyMs := of_decide_eq_false (none low.1 lowMem')
    have highest : ¬ 0 ≤ high.1.latencyMs := of_decide_eq_false (none high.1 highMem')
    exact ⟨iff_of_true (by omega) none, fun some => absurd some measured⟩

end

/-! ## Histories -/

/-- The report with a latency of 1 ms in place of one that was measured. -/
def CleanIpReport.fast (report : CleanIpReport) : CleanIpReport :=
  { report with
    latencyMs := if report.measured then 1 else -1
    latency_range := by split <;> decide }

theorem CleanIpReport.fast_latency (report : CleanIpReport) :
    report.fast.latencyMs = if report.measured = true then 1 else -1 := rfl

theorem CleanIpReport.fast_measured (report : CleanIpReport) : report.fast.measured = report.measured := by
  rw [CleanIpReport.measured, CleanIpReport.fast_latency]
  cases report.measured <;> rfl

theorem mixed_iff {reports : List CleanIpReport} :
    Mixed reports ↔ true ∈ reports.map (·.measured) ∧ false ∈ reports.map (·.measured) := by
  rw [List.mem_map, List.mem_map]
  exact Iff.rfl

/-- Reports of both kinds, with latencies of 1 ms, are averaged to less. -/
theorem mixed_polluted {reports : List (CleanIpReport × ℤ)} (mixed : Mixed (reports.map (·.1))) :
    ∃ row, rowAfter (reports.map fun item => (item.1.fast, item.2)) = some row ∧
      ¬ Unpolluted ((reports.map (·.1)).map CleanIpReport.fast) row := by
  obtain ⟨⟨fastest, fastestMem, isMeasured⟩, lost, lostMem, unmeasured⟩ := mixed
  obtain ⟨lostItem, lostItemMem, rfl⟩ := List.mem_map.mp lostMem
  obtain ⟨row, found⟩ : ∃ row, rowAfter (reports.map fun item => (item.1.fast, item.2)) = some row := by
    rcases List.eq_nil_or_concat reports with rfl | ⟨front, last, rfl⟩
    · contradiction
    · rw [List.concat_eq_append, List.map_append]
      exact ⟨_, rowAfter_append _ _⟩
  refine ⟨row, found, fun unpolluted => ?_⟩
  have small : ∀ item ∈ reports.map fun item => (item.1.fast, item.2), item.1.latencyMs = 1 ∨ item.1.latencyMs = -1 := by
    intro item member
    obtain ⟨item, -, rfl⟩ := List.mem_map.mp member
    change item.1.fast.latencyMs = 1 ∨ item.1.fast.latencyMs = -1
    rw [item.1.fast_latency]
    split
    · exact .inl rfl
    · exact .inr rfl
  have dragged : row.latency_ms ≤ 0 := by
    apply (latency_dragged found small).2
    refine ⟨_, List.mem_map_of_mem lostItemMem, ?_⟩
    change lostItem.1.fast.latencyMs = -1
    rw [lostItem.1.fast_latency, unmeasured]
    rfl
  obtain ⟨low, lowMem, measured, above⟩ :=
    (unpolluted.2 ⟨fastest.fast, List.mem_map_of_mem fastestMem, fastest.fast_measured.trans isMeasured⟩).1
  obtain ⟨report, -, rfl⟩ := List.mem_map.mp lowMem
  rw [report.fast_measured] at measured
  rw [report.fast_latency, if_pos measured] at above
  omega

/-- A row is unpolluted exactly where all reports of its cell have a latency or none has: with both kinds in any order
there are latencies that it does not keep to. Its loss is among those that were reported in any case. -/
theorem crowd_unpolluted_iff {history : List (CleanIpReport × ℤ)} {cell : Cell} {row : ReportRow}
    (found : (recorded history).get? cell = some row) :
    ((∀ other row', (recorded other).get? cell = some row' →
        (reportsOf other cell).map (·.measured) = (reportsOf history cell).map (·.measured) →
        Unpolluted (reportsOf other cell) row') ↔ ¬ Mixed (reportsOf history cell)) ∧
    ∃ low ∈ reportsOf history cell, ∃ high ∈ reportsOf history cell,
      low.lossPct ≤ row.loss_pct ∧ row.loss_pct ≤ high.lossPct := by
  rw [get?_recorded] at found
  constructor
  · constructor
    · intro all mixed
      obtain ⟨row', found', polluted⟩ := mixed_polluted mixed
      let other := history.map fun item => (item.1.fast, item.2)
      have inCell : ofCell other cell = (ofCell history cell).map fun item => (item.1.fast, item.2) := List.filter_map
      have reports : reportsOf other cell = (reportsOf history cell).map CleanIpReport.fast := by
        rw [reportsOf, inCell, List.map_map, reportsOf, List.map_map]
        rfl
      apply polluted
      change Unpolluted ((reportsOf history cell).map CleanIpReport.fast) row'
      rw [← reports]
      apply all other row'
      · rw [get?_recorded, inCell]
        exact found'
      · rw [reports, List.map_map]
        exact List.map_congr_left fun report _ => report.fast_measured
    · intro unmixed other row' found' same
      rw [get?_recorded] at found'
      apply unpolluted_of_unmixed found'
      change ¬ Mixed (reportsOf other cell)
      rwa [mixed_iff, same, ← mixed_iff]
  · obtain ⟨low, lowMem, high, highMem, above, below⟩ := loss_between found
    exact ⟨low.1, List.mem_map_of_mem lowMem, high.1, List.mem_map_of_mem highMem, above, below⟩

namespace Sample

/-- A report of one IP -/
def report (latencyMs : ℤ) (range : -1 ≤ latencyMs ∧ latencyMs ≤ 10000) : CleanIpReport :=
  ⟨"185.143.232.1", "mci", "tehran", latencyMs, 0, true, range, 0, by decide, by norm_num⟩

def cell : Cell := ("185.143.232.1", "mci", "tehran")

end Sample

/-- Two measured reports of one cell, and between them one of each kind of another cell -/
def Sample.crowd : List (CleanIpReport × ℤ) :=
  [(Sample.report 100 (by decide), 0), ({ Sample.report 40 (by decide) with city := "shiraz" }, 1000),
    ({ Sample.report (-1) (by decide) with city := "shiraz" }, 2000), (Sample.report 240 (by decide), 3000)]

/-- The row of the first cell keeps to its reports, and reports like those of the other one can pollute its row. -/
theorem crowd_unpolluted_cells : ∃ row elsewhere, (recorded Sample.crowd).get? Sample.cell = some row ∧
    (recorded Sample.crowd).get? ("185.143.232.1", "mci", "shiraz") = some elsewhere ∧
    Unpolluted (reportsOf Sample.crowd Sample.cell) row ∧
    ∃ other row', (recorded other).get? ("185.143.232.1", "mci", "shiraz") = some row' ∧
      (reportsOf other ("185.143.232.1", "mci", "shiraz")).map (·.measured) = [true, false] ∧
      ¬ Unpolluted (reportsOf other ("185.143.232.1", "mci", "shiraz")) row' := by
  obtain ⟨row, elsewhere, found, found'⟩ : ∃ row elsewhere, (recorded Sample.crowd).get? Sample.cell = some row ∧
      (recorded Sample.crowd).get? ("185.143.232.1", "mci", "shiraz") = some elsewhere := ⟨_, _, rfl, rfl⟩
  have measured : (reportsOf Sample.crowd Sample.cell).map (·.measured) = [true, true] ∧
      (reportsOf Sample.crowd ("185.143.232.1", "mci", "shiraz")).map (·.measured) = [true, false] := ⟨rfl, rfl⟩
  have unmixed : ¬ Mixed (reportsOf Sample.crowd Sample.cell) := by
    rw [mixed_iff, measured.1]
    decide
  have mixed : Mixed (reportsOf Sample.crowd ("185.143.232.1", "mci", "shiraz")) := by
    rw [mixed_iff, measured.2]
    decide
  have polluted := mt (crowd_unpolluted_iff found').1.mp (not_not.mpr mixed)
  push Not at polluted
  obtain ⟨other, row', recorded', same, unlike⟩ := polluted
  exact ⟨row, elsewhere, found, found', (crowd_unpolluted_iff found).1.mpr unmixed Sample.crowd row found rfl,
    other, row', recorded', same.trans measured.2, unlike⟩

/-- A client that could not measure, and then one that measured 100 ms: the row says 39 ms. -/
theorem unmeasured_report_pollutes : ∃ row,
    (recorded [(Sample.report (-1) (by decide), 0), (Sample.report 100 (by decide), 1000)]).get? Sample.cell = some row ∧
    ¬ Unpolluted (reportsOf [(Sample.report (-1) (by decide), 0), (Sample.report 100 (by decide), 1000)] Sample.cell) row := by
  refine ⟨_, rfl, fun unpolluted => ?_⟩
  have reports : reportsOf [(Sample.report (-1) (by decide), 0), (Sample.report 100 (by decide), 1000)] Sample.cell =
      [Sample.report (-1) (by decide), Sample.report 100 (by decide)] := rfl
  rw [reports] at unpolluted
  have averaged : average (-1) 100 ≤ 39 := by
    apply sqlRound_le
    norm_num
  obtain ⟨low, lowMem, measured, above⟩ := (unpolluted.2 ⟨Sample.report 100 (by decide), by simp, rfl⟩).1
  simp only [List.mem_cons, List.not_mem_nil, or_false] at lowMem
  rcases lowMem with rfl | rfl
  · contradiction
  · have polluted : (100 : ℤ) ≤ average (-1) 100 := above
    omega

end OmniControlPlane.Telemetry.CleanIp
