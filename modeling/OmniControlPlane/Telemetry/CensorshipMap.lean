import Mathlib.Algebra.BigOperators.Group.Multiset.Basic
import Mathlib.Data.List.Sort
import Mathlib.Data.Rat.Floor
import Mathlib.Tactic.Linarith
import OmniControlPlane.Lib.JavaScript
import OmniControlPlane.Portal.Http

/-! # The censorship map

Clients report whether a transport reaches their provider and city. The query groups the reports of a window by
provider, city and transport, and the code puts the groups together again, by a key that is made of provider and city,
and by transport. Times are in milliseconds.
-/

namespace OmniControlPlane.Telemetry.CensorshipMap

open Lib JavaScript
open Portal (HttpError)

/-! ## Reports -/

def MAP_RETENTION_HOURS : ℤ := 24

def MAP_MIN_REPORTS : ℕ := 3

def MAP_ISPS : List String := [
  "همراه‌اول", "ایرانسل", "رایتل", "مخابرات", "شاتل", "های‌وب", "آسیاتک", "مبین‌نت", "زیتل", "پارس‌آنلاین", "سایر"]

def MAP_TRANSPORTS : List String := ["hysteria2", "vless-reality", "ech", "fragment", "dns-tunnel", "other"]

/-- A report with the range of latencies that all writers keep; one below zero was not measured. -/
structure MapReport where
  isp : String
  city : String
  transport : String
  rttMs : Option ℤ
  ok : Bool
  rtt_range : ∀ rtt ∈ rttMs, -1 ≤ rtt ∧ rtt ≤ 10000

/-- `text.slice(0, limit)`; half a character is stored as U+FFFD. -/
def sliceTo (limit : ℕ) (text : List Char) : List Char :=
  Json.decodeUtf16 ((utf16 (String.ofList text)).take limit)

/-- `replace(/<[^>]*>/gu, " ")`, behind as many characters as the last tag has. -/
def blankTags : ℕ → List Char → List Char
  | _, [] => []
  | skip + 1, _ :: rest => blankTags skip rest
  | 0, char :: rest =>
    match if char = '<' then rest.findIdx? (· = '>') else none with
    | some length => ' ' :: blankTags (length + 1) rest
    | none => char :: blankTags 0 rest

/-- `replace(/\s+/gu, " ")` -/
def squeezeSpaces : List Char → List Char
  | [] => []
  | char :: rest =>
    if isJsSpace char then if rest.head?.any isJsSpace then squeezeSpaces rest else ' ' :: squeezeSpaces rest
    else char :: squeezeSpaces rest

/-- The characters that are removed from the name of a city. -/
def isMarkup (char : Char) : Bool := char.toNat ∈ [0x3C, 0x3E, 0x26, 0x22, 0x27, 0x5C]

def sanitizeCity (value : Option Js) : String :=
  let raw := match value with
    | some (.string text) => sliceTo 60 text.toList
    | _ => []
  let cleaned := sliceTo 40 (trim (String.ofList (squeezeSpaces ((blankTags 0 raw).filter (!isMarkup ·)))))
  if cleaned = [] then "نامشخص" else String.ofList cleaned

/-- `Math.min(10_000, Math.max(-1, Math.round(raw)))` of a number that is finite. -/
def rttOf : Option Js → Option ℤ
  | some (.number (.finite raw)) => some (min 10000 (max (-1) ⌊raw + 1 / 2⌋))
  | _ => none

theorem rttOf_range (raw : Option Js) : ∀ rtt ∈ rttOf raw, -1 ≤ rtt ∧ rtt ≤ 10000 := by
  intro rtt given
  unfold rttOf at given
  split at given
  · obtain rfl := Option.some.inj given
    omega
  · contradiction

/-- A property that is a string among those that are known. -/
def knownText (known : List String) (other : String) : Option Js → String
  | some (.string text) => if text ∈ known then text else other
  | _ => other

def parseMapReport (input : Js) : Except HttpError MapReport :=
  match input with
  | .object body =>
    let transport := match Fields.get body "transport" with
      | some (.string text) => some (.string text)
      | _ => Fields.get body "tr"
    let rawRtt := match Fields.get body "rttMs" with
      | none | some .null => Fields.get body "rtt"
      | raw => raw
    .ok {
      isp := knownText MAP_ISPS "سایر" (Fields.get body "isp")
      city := sanitizeCity (Fields.get body "city")
      transport := knownText MAP_TRANSPORTS "other" transport
      rttMs := rttOf rawRtt
      ok := match Fields.get body "ok" with
        | none => (rttOf rawRtt).any (0 ≤ ·)
        | some (.bool value) => value
        | some (.number (.finite value)) => value = 1
        | some _ => false
      rtt_range := rttOf_range rawRtt }
  | _ => .error ⟨400, "invalid_input", "Expected a JSON object"⟩

/-- A row of `map_reports`. -/
structure Row where
  report : MapReport
  created_at : ℤ
  expires_at : ℤ

def recordMapReport (table : List Row) (report : MapReport) (now : ℤ) : List Row :=
  table ++ [⟨report, now, now + MAP_RETENTION_HOURS * 3600000⟩]

/-! ## The query -/

/-- What a row is grouped by: provider, city and transport. -/
def Row.group (row : Row) : String × String × String := (row.report.isp, row.report.city, row.report.transport)

/-- `CASE WHEN rtt_ms >= 0` -/
def Row.rtt? (row : Row) : Option ℕ := (row.report.rttMs.filter (0 ≤ ·)).map Int.toNat

structure Group where
  n : ℕ
  ok_count : ℕ
  rtts : List ℕ
deriving DecidableEq, Repr

def Group.add (row : Row) (group : Option Group) : Group :=
  let group := group.getD ⟨0, 0, []⟩
  ⟨group.n + 1, group.ok_count + row.report.ok.toNat, group.rtts ++ row.rtt?.toList⟩

def inWindow (table : List Row) (windowHours : ℚ) (now : ℤ) : List Row :=
  table.filter fun row => ⌊(now : ℚ) - windowHours * 3600000⌋ < row.created_at

/-- `GROUP BY isp, city, transport` -/
def grouped (rows : List Row) : OrderedMap (String × String × String) Group :=
  rows.foldl (fun groups row => groups.alter row.group (Group.add row)) .empty

/-- `GROUP_CONCAT` of numbers; it is null where there are none. -/
def groupConcat (values : List ℕ) : Option String :=
  if values = [] then none else some (String.ofList (List.intercalate [','] (values.map (Nat.toDigits 10))))

structure MapCellRow where
  isp : String
  city : String
  transport : String
  n : ℕ
  ok_count : ℕ
  rtts : Option String
deriving DecidableEq, Repr

def cellRow (entry : (String × String × String) × Group) : MapCellRow where
  isp := entry.1.1
  city := entry.1.2.1
  transport := entry.1.2.2
  n := entry.2.n
  ok_count := entry.2.ok_count
  rtts := groupConcat entry.2.rtts

/-! ## The aggregate -/

inductive MapVerdict where
  | up
  | degraded
  | down
  | nodata
deriving DecidableEq, Repr

/-- Counts of reports, all of them and the good ones. -/
structure Stat where
  reports : ℕ
  ok : ℕ
deriving DecidableEq, Repr

def Stat.add (row : MapCellRow) (previous : Option Stat) : Stat :=
  let previous := previous.getD ⟨0, 0⟩
  ⟨previous.reports + row.n, previous.ok + row.ok_count⟩

/-- A cell while it is put together; a transport is an own property of `transports`. -/
structure CellAccumulator where
  isp : String
  city : String
  reports : ℕ
  ok : ℕ
  rtts : List ℚ
  transports : OrderedMap String Stat

def finite? : JsNumber → Option ℚ
  | .finite value => some value
  | _ => none

/-- `(row.rtts ?? "").split(",").filter(Boolean).map(Number).filter(Number.isFinite)` -/
def readRtts (rtts : Option String) : List ℚ :=
  (((rtts.getD "").toList.splitOn ',').filter (· ≠ [])).filterMap fun text => finite? (numberOfString (String.ofList text))

def MapCellRow.key (row : MapCellRow) : String := row.isp ++ "|" ++ row.city

def CellAccumulator.add (row : MapCellRow) (cell : Option CellAccumulator) : CellAccumulator :=
  let cell := cell.getD ⟨row.isp, row.city, 0, 0, [], .empty⟩
  { cell with
    reports := cell.reports + row.n
    ok := cell.ok + row.ok_count
    rtts := cell.rtts ++ readRtts row.rtts
    transports := cell.transports.alter row.transport (Stat.add row) }

/-- The variables of the loop over the rows. -/
structure Accumulated where
  cells : OrderedMap String CellAccumulator
  transportTotals : OrderedMap String Stat
  totalReports : ℕ

def Accumulated.add (state : Accumulated) (row : MapCellRow) : Accumulated where
  cells := state.cells.alter row.key (CellAccumulator.add row)
  transportTotals := state.transportTotals.alter row.transport (Stat.add row)
  totalReports := state.totalReports + row.n

def accumulated (results : List MapCellRow) : Accumulated := results.foldl Accumulated.add ⟨.empty, .empty, 0⟩

structure MapTransportStat where
  transport : String
  reports : ℕ
  okRatio : ℚ
deriving DecidableEq, Repr

structure MapCell where
  isp : String
  city : String
  reports : ℕ
  okRatio : ℚ
  medianRtt : Option ℚ
  verdict : MapVerdict
  transports : List MapTransportStat
deriving DecidableEq, Repr

structure MapAggregate where
  updatedAt : ℤ
  windowHours : ℚ
  totalReports : ℕ
  cells : List MapCell
  transports : List MapTransportStat
deriving DecidableEq, Repr

def median (values : List ℚ) : Option ℚ := (values.insertionSort (· ≤ ·))[values.length / 2]?

def verdictFor (reports : ℕ) (okRatio : ℚ) : MapVerdict :=
  if reports < MAP_MIN_REPORTS then .nodata
  else if toDouble 0.8 ≤ okRatio then .up
  else if toDouble 0.4 ≤ okRatio then .degraded
  else .down

/-- `(part / whole) * 100` -/
def percents (share : ℚ) : ℚ := toDouble (toDouble share * 100)

/-- `Math.round((part / whole) * 100) / 100` -/
def ratio (part whole : ℕ) : ℚ := if 0 < whole then toDouble (⌊percents (part / whole) + 1 / 2⌋ / 100) else 0

def transportStat (entry : String × Stat) : MapTransportStat := ⟨entry.1, entry.2.reports, ratio entry.2.ok entry.2.reports⟩

def mapCell (cell : CellAccumulator) : MapCell where
  isp := cell.isp
  city := cell.city
  reports := cell.reports
  okRatio := ratio cell.ok cell.reports
  medianRtt := median cell.rtts
  verdict := verdictFor cell.reports (ratio cell.ok cell.reports)
  transports := cell.transports.entries.map transportStat

/-- `left.okRatio - right.okRatio || right.reports - left.reports` is not positive. -/
def Worse (left right : MapCell) : Prop :=
  left.okRatio < right.okRatio ∨ left.okRatio = right.okRatio ∧ right.reports ≤ left.reports

/-- `right.okRatio - left.okRatio || right.reports - left.reports` is not positive. -/
def Better (left right : MapTransportStat) : Prop :=
  right.okRatio < left.okRatio ∨ left.okRatio = right.okRatio ∧ right.reports ≤ left.reports

instance : DecidableRel Worse := fun left right =>
  inferInstanceAs (Decidable (left.okRatio < right.okRatio ∨ left.okRatio = right.okRatio ∧ right.reports ≤ left.reports))

instance : DecidableRel Better := fun left right =>
  inferInstanceAs (Decidable (right.okRatio < left.okRatio ∨ left.okRatio = right.okRatio ∧ right.reports ≤ left.reports))

def aggregateMap (table : List Row) (windowHours : ℚ) (now : ℤ) : MapAggregate :=
  let state := accumulated ((grouped (inWindow table windowHours now)).entries.map cellRow)
  { updatedAt := now
    windowHours
    totalReports := state.totalReports
    cells := (state.cells.entries.map fun entry => mapCell entry.2).insertionSort Worse
    transports := (state.transportTotals.entries.map transportStat).insertionSort Better }

/-! ## Numbers in texts -/

theorem finite?_numeral (value : ℕ) (small : value ≤ 10000) :
    finite? (numberOfString (String.ofList (Nat.toDigits 10 value))) = some (value : ℚ) := by
  have decimal : ∀ char ∈ Nat.toDigits 10 value, char.isDigit = true := fun char member =>
    Nat.isDigit_of_mem_toDigits (by decide) (by decide) member
  rw [numberOfString_digits Nat.toDigits_ne_nil decimal, Nat.ofDigitChars_ten_toDigits, double_natCast (by omega)]
  rfl

/-- The latencies of a group are read back. -/
theorem readRtts_groupConcat {values : List ℕ} (small : ∀ value ∈ values, value ≤ 10000) :
    readRtts (groupConcat values) = values.map (Nat.cast : ℕ → ℚ) := by
  by_cases empty : values = []
  · subst empty
    rfl
  · have texts : values.map (Nat.toDigits 10) ≠ [] := by simpa using empty
    have split : (List.intercalate [','] (values.map (Nat.toDigits 10))).splitOn ',' = values.map (Nat.toDigits 10) := by
      apply List.splitOn_intercalate ',' _ texts
      intro text member
      obtain ⟨value, -, rfl⟩ := List.mem_map.mp member
      exact not_mem_toDigits (by decide) value
    have kept : (values.map (Nat.toDigits 10)).filter (· ≠ []) = values.map (Nat.toDigits 10) := by
      rw [List.filter_eq_self]
      intro text member
      obtain ⟨value, -, rfl⟩ := List.mem_map.mp member
      exact decide_eq_true Nat.toDigits_ne_nil
    rw [readRtts, groupConcat, if_neg empty, Option.getD_some, String.toList_ofList, split, kept, List.filterMap_map,
      ← List.filterMap_eq_map]
    apply List.filterMap_congr
    intro value member
    exact finite?_numeral value (small value member)

theorem Row.rtt?_le {row : Row} {rtt : ℕ} (measured : row.rtt? = some rtt) : rtt ≤ 10000 := by
  obtain ⟨value, kept, rfl⟩ := Option.map_eq_some_iff.mp measured
  have range := row.report.rtt_range value (Option.filter_eq_some_iff.mp kept).1
  omega

/-! ## Groups -/

section

variable {rows : List Row}

/-- The groups have together what the rows have together. -/
theorem total_grouped {M : Type} [AddCommMonoid M] (rows : List Row) (measure : String × String × String → Group → M)
    (amount : Row → M) (first : ∀ row, measure row.group (Group.add row none) = amount row)
    (next : ∀ row group, measure row.group (Group.add row (some group)) = measure row.group group + amount row) :
    OrderedMap.total measure (grouped rows).entries = (rows.map amount).sum := by
  rw [grouped, OrderedMap.total_foldl_alter measure rows Row.group Group.add amount first next]
  exact zero_add _

/-- A group has a row, and only latencies of its rows. -/
theorem grouped_facts {key : String × String × String} {group : Group} (found : (grouped rows).get? key = some group) :
    (∃ row ∈ rows, row.group = key) ∧ ∀ rtt ∈ group.rtts, rtt ≤ 10000 := by
  rw [grouped, OrderedMap.get?_foldl_alter] at found
  have held : ∀ (later : List Row) (start : Option Group), (∀ group ∈ start, ∀ rtt ∈ group.rtts, rtt ≤ 10000) →
      ∀ group ∈ later.foldl (fun value row => some (Group.add row value)) start, ∀ rtt ∈ group.rtts, rtt ≤ 10000 := by
    intro later
    induction later with
    | nil => exact fun start before => before
    | cons row later ih =>
      intro start before
      rw [List.foldl_cons]
      apply ih
      intro group added rtt member
      obtain rfl := Option.some.inj added
      rcases List.mem_append.mp member with old | new
      · cases start with
        | none => contradiction
        | some group => exact before group rfl rtt old
      · exact Row.rtt?_le (Option.mem_toList.mp new)
  refine ⟨?_, held _ _ (fun _ absent => absurd absent (Option.not_mem_none _)) group found⟩
  by_contra none
  push Not at none
  have nothing : rows.filter (·.group = key) = [] := by
    rw [List.filter_eq_nil_iff]
    intro row member
    simpa using none row member
  rw [nothing, List.foldl_nil, OrderedMap.get?_empty] at found
  contradiction

theorem mem_grouped {row : Row} (member : row ∈ rows) : ∃ group, (grouped rows).get? row.group = some group := by
  have some_rows : rows.filter (·.group = row.group) ≠ [] :=
    List.ne_nil_of_mem (List.mem_filter.mpr ⟨member, decide_eq_true rfl⟩)
  have held : ∀ (later : List Row) (start : Group),
      ∃ group, later.foldl (fun value row => some (Group.add row value)) (some start) = some group := by
    intro later
    induction later with
    | nil => exact fun start => ⟨start, rfl⟩
    | cons row later ih => exact fun start => ih _
  rw [grouped, OrderedMap.get?_foldl_alter]
  obtain ⟨first, rest, shape⟩ := List.exists_cons_of_ne_nil some_rows
  rw [shape]
  exact held rest _

end

/-! ## Cells -/

def Row.place (row : Row) : String × String := (row.report.isp, row.report.city)

/-- The key under which the code puts a row. -/
def Row.key (row : Row) : String := row.report.isp ++ "|" ++ row.report.city

def ofKey (rows : List Row) (key : String) : List Row := rows.filter (·.key = key)

def ofPlace (rows : List Row) (place : String × String) : List Row := rows.filter (·.place = place)

/-- The latencies that were measured. -/
def rttsOf (rows : List Row) : List ℕ := rows.filterMap Row.rtt?

def goodReports (rows : List Row) : ℕ := rows.countP (·.report.ok)

/-- The rows that the query returns. -/
def queried (rows : List Row) : List MapCellRow := (grouped rows).entries.map cellRow

theorem sum_filter {ι M : Type} [AddCommMonoid M] (items : List ι) (p : ι → Bool) (f : ι → M) :
    ((items.filter p).map f).sum = (items.map fun item => if p item then f item else 0).sum := by
  induction items with
  | nil => rfl
  | cons item items ih =>
    rw [List.map_cons, List.sum_cons, ← ih]
    cases kept : p item with
    | true => rw [List.filter_cons_of_pos kept, List.map_cons, List.sum_cons, if_pos rfl]
    | false => rw [List.filter_cons_of_neg (by simp [kept]), if_neg Bool.false_ne_true, zero_add]

section

variable {rows : List Row} {key : String}

/-- What the groups of a key have together is what the rows of the key have together. -/
theorem sum_ofKey {M : Type} [AddCommMonoid M] (rows : List Row) (key : String) (part : MapCellRow → M)
    (measure : Group → M) (amount : Row → M)
    (reads : ∀ entry ∈ (grouped rows).entries, part (cellRow entry) = measure entry.2)
    (first : ∀ row, measure (Group.add row none) = amount row)
    (next : ∀ row group, measure (Group.add row (some group)) = measure group + amount row) :
    (((queried rows).filter (·.key = key)).map part).sum = ((ofKey rows key).map amount).sum := by
  have together := total_grouped rows (fun group value => if group.1 ++ "|" ++ group.2.1 = key then measure value else 0)
    (fun row => if row.key = key then amount row else 0)
    (by
      intro row
      rw [first]
      rfl)
    (by
      intro row group
      rw [next]
      change (if row.key = key then _ else _) = (if row.key = key then _ else _) + _
      split
      · rfl
      · rw [zero_add])
  rw [ofKey, sum_filter, sum_filter, queried, List.map_map]
  simp only [decide_eq_true_eq]
  refine Eq.trans (congrArg List.sum (List.map_congr_left fun entry member => ?_)) together
  rw [Function.comp_apply, reads entry member]
  rfl

theorem sum_queried (rows : List Row) : ((queried rows).map (·.n)).sum = rows.length := by
  have together := total_grouped rows (fun _ group => group.n) (fun _ => 1) (fun _ => rfl) fun _ _ => rfl
  rw [List.map_const', List.sum_replicate_nat, Nat.mul_one] at together
  rw [queried, List.map_map]
  exact together

theorem sum_ok (rows : List Row) : (rows.map fun row => row.report.ok.toNat).sum = goodReports rows := by
  induction rows with
  | nil => rfl
  | cons row rows ih =>
    rw [List.map_cons, List.sum_cons, ih, goodReports, goodReports, List.countP_cons, Nat.add_comm]
    cases row.report.ok <;> rfl

/-- A cell after some rows, of which the first has made it. -/
theorem foldl_cell (results : List MapCellRow) (start : CellAccumulator) :
    ∃ cell, results.foldl (fun value row => some (CellAccumulator.add row value)) (some start) = some cell ∧
      cell.isp = start.isp ∧ cell.city = start.city ∧ cell.reports = start.reports + (results.map (·.n)).sum ∧
      cell.ok = start.ok + (results.map (·.ok_count)).sum ∧
      cell.rtts = start.rtts ++ results.flatMap fun row => readRtts row.rtts := by
  induction results generalizing start with
  | nil => exact ⟨start, rfl, rfl, rfl, rfl, rfl, (List.append_nil _).symm⟩
  | cons row results ih =>
    obtain ⟨cell, folded, isp, city, reports, ok, rtts⟩ := ih (CellAccumulator.add row (some start))
    refine ⟨cell, folded, isp, city, ?_, ?_, ?_⟩
    · rw [reports, List.map_cons, List.sum_cons, ← Nat.add_assoc]
      rfl
    · rw [ok, List.map_cons, List.sum_cons, ← Nat.add_assoc]
      rfl
    · rw [rtts, List.flatMap_cons, ← List.append_assoc]
      rfl

/-- The three variables of the loop do not depend on each other. -/
theorem accumulated_eq (results : List MapCellRow) :
    accumulated results = {
      cells := results.foldl (fun cells row => cells.alter row.key (CellAccumulator.add row)) .empty
      transportTotals := results.foldl (fun totals row => totals.alter row.transport (Stat.add row)) .empty
      totalReports := (results.map (·.n)).sum } := by
  suffices run : ∀ state : Accumulated, results.foldl Accumulated.add state = {
      cells := results.foldl (fun cells row => cells.alter row.key (CellAccumulator.add row)) state.cells
      transportTotals := results.foldl (fun totals row => totals.alter row.transport (Stat.add row)) state.transportTotals
      totalReports := state.totalReports + (results.map (·.n)).sum } by
    rw [accumulated, run, Nat.zero_add]
  induction results with
  | nil => exact fun state => rfl
  | cons row results ih =>
    intro state
    rw [List.foldl_cons, ih, List.map_cons, List.sum_cons, ← Nat.add_assoc]
    rfl

theorem coe_flatMap {ι κ : Type} (items : List ι) (f : ι → List κ) :
    ((items.flatMap f : List κ) : Multiset κ) = (items.map fun item => (f item : Multiset κ)).sum := by
  induction items with
  | nil => rfl
  | cons item items ih => rw [List.flatMap_cons, ← Multiset.coe_add, ih, List.map_cons, List.sum_cons]

/-- What the code has put under a key comes from the rows of the key. -/
structure CellFacts (rows : List Row) (key : String) (cell : CellAccumulator) : Prop where
  reports : cell.reports = (ofKey rows key).length
  ok : cell.ok = goodReports (ofKey rows key)
  rtts : cell.rtts.Perm ((rttsOf (ofKey rows key)).map Nat.cast)
  place : ∃ row ∈ ofKey rows key, row.place = (cell.isp, cell.city)

theorem sum_rtts (rows : List Row) (key : String) :
    (((queried rows).filter (·.key = key)).flatMap fun row => readRtts row.rtts).Perm
      ((rttsOf (ofKey rows key)).map Nat.cast) := by
  apply Multiset.coe_eq_coe.mp
  have latencies : (rttsOf (ofKey rows key)).map (Nat.cast : ℕ → ℚ) =
      (ofKey rows key).flatMap fun row => row.rtt?.toList.map Nat.cast := by
    rw [rttsOf, List.filterMap_eq_flatMap_toList, List.map_flatMap]
  rw [latencies, coe_flatMap, coe_flatMap]
  apply sum_ofKey rows key (fun row => (readRtts row.rtts : Multiset ℚ))
    (fun group => (group.rtts.map Nat.cast : List ℚ)) fun row => (row.rtt?.toList.map Nat.cast : List ℚ)
  · intro entry member
    have small := (grouped_facts (OrderedMap.mem_entries_iff.mp member)).2
    exact congrArg _ (readRtts_groupConcat small)
  · exact fun row => rfl
  · intro row group
    rw [Group.add, Option.getD_some, List.map_append, Multiset.coe_add]

theorem cell_facts {cell : CellAccumulator} (found : (accumulated (queried rows)).cells.get? key = some cell) :
    CellFacts rows key cell := by
  rw [accumulated_eq] at found
  dsimp only at found
  rw [OrderedMap.get?_foldl_alter, OrderedMap.get?_empty] at found
  have reports := sum_ofKey rows key (·.n) (·.n) (fun _ => 1) (fun _ _ => rfl) (fun _ => rfl) fun _ _ => rfl
  have oks := sum_ofKey rows key (·.ok_count) (·.ok_count) (·.report.ok.toNat) (fun _ _ => rfl)
    (fun _ => Nat.zero_add _) fun _ _ => rfl
  have rtts := sum_rtts rows key
  have listed : ∀ result ∈ (queried rows).filter (·.key = key), result ∈ queried rows ∧ result.key = key :=
    fun result member => ⟨(List.mem_filter.mp member).1, of_decide_eq_true (List.mem_filter.mp member).2⟩
  generalize (queried rows).filter (·.key = key) = results at *
  cases results with
  | nil => contradiction
  | cons first results =>
    obtain ⟨other, folded, isp, city, reports', ok', rtts'⟩ := foldl_cell results (CellAccumulator.add first none)
    rw [List.foldl_cons, folded] at found
    obtain rfl := Option.some.inj found
    constructor
    case reports =>
      rw [List.map_const', List.sum_replicate_nat, Nat.mul_one, List.map_cons, List.sum_cons] at reports
      rw [reports', ← reports]
      exact congrArg (· + _) (Nat.zero_add _)
    case ok =>
      rw [sum_ok, List.map_cons, List.sum_cons] at oks
      rw [ok', ← oks]
      exact congrArg (· + _) (Nat.zero_add _)
    case rtts =>
      rw [rtts']
      exact rtts
    case place =>
      obtain ⟨member, same⟩ := listed first List.mem_cons_self
      obtain ⟨entry, inside, rfl⟩ := List.mem_map.mp member
      obtain ⟨row, rowMember, group⟩ := (grouped_facts (OrderedMap.mem_entries_iff.mp inside)).1
      refine ⟨row, List.mem_filter.mpr ⟨rowMember, decide_eq_true ?_⟩, ?_⟩
      · rw [← same, MapCellRow.key, cellRow, ← group]
        rfl
      · rw [isp, city, CellAccumulator.add, Option.getD_none, cellRow, ← group]
        rfl

/-- Every row is in the cell of its key. -/
theorem exists_cell {row : Row} (member : row ∈ rows) :
    ∃ cell, (accumulated (queried rows)).cells.get? row.key = some cell := by
  obtain ⟨group, found⟩ := mem_grouped member
  have inside : cellRow (row.group, group) ∈ (queried rows).filter (·.key = row.key) :=
    List.mem_filter.mpr ⟨List.mem_map_of_mem (OrderedMap.mem_entries_iff.mpr found), decide_eq_true rfl⟩
  rw [accumulated_eq]
  dsimp only
  rw [OrderedMap.get?_foldl_alter]
  obtain ⟨first, rest, shape⟩ := List.exists_cons_of_ne_nil (List.ne_nil_of_mem inside)
  obtain ⟨cell, folded, -⟩ := foldl_cell rest (CellAccumulator.add first none)
  exact ⟨cell, by rw [shape]; exact folded⟩

/-- No report of a group is lost on the way to the cells and to the transports. -/
theorem sum_accumulated (results : List MapCellRow) :
    ((accumulated results).cells.entries.map (·.2.reports)).sum = (results.map (·.n)).sum ∧
      ((accumulated results).transportTotals.entries.map (·.2.reports)).sum = (results.map (·.n)).sum := by
  rw [accumulated_eq]
  constructor
  · refine (OrderedMap.total_foldl_alter (fun _ cell => cell.reports) results MapCellRow.key CellAccumulator.add (·.n)
      (fun _ => Nat.zero_add _) (fun _ _ => rfl) .empty).trans ?_
    exact Nat.zero_add _
  · refine (OrderedMap.total_foldl_alter (fun _ stat => stat.reports) results (·.transport) Stat.add (·.n)
      (fun _ => Nat.zero_add _) (fun _ _ => rfl) .empty).trans ?_
    exact Nat.zero_add _

end

/-! ## Medians -/

/-- The value in the middle of an ascending list, the upper one of two: at most half of the values are below it, and
more than half are not above it. -/
def UpperMedian (values : List ℕ) : Option ℚ → Prop
  | none => values = []
  | some middle => ∃ value ∈ values, middle = value ∧ values.countP (· < value) ≤ values.length / 2 ∧
      values.length / 2 < values.countP (· ≤ value)

/-- In an ascending list what is below an item is before it, and what is before it is not above it. -/
theorem rank_of_sorted {α : Type} [LinearOrder α] {sorted : List α} (ascending : sorted.Pairwise (· ≤ ·)) {index : ℕ}
    {value : α} (found : sorted[index]? = some value) :
    sorted.countP (· < value) ≤ index ∧ index < sorted.countP (· ≤ value) := by
  obtain ⟨inside, same⟩ := List.getElem?_eq_some_iff.mp found
  have parts := List.take_append_drop index sorted
  have behind : sorted.drop index = value :: sorted.drop (index + 1) := by
    rw [← same, List.getElem_cons_drop]
  have split := ascending
  rw [← parts, List.pairwise_append, behind, List.pairwise_cons] at split
  obtain ⟨-, ⟨later, -⟩, before⟩ := split
  have length : (sorted.take index).length = index := List.length_take_of_le inside.le
  rw [← parts, List.countP_append, List.countP_append, behind]
  constructor
  · have none : (value :: sorted.drop (index + 1)).countP (· < value) = 0 := by
      rw [List.countP_eq_zero]
      intro item member
      rcases List.mem_cons.mp member with rfl | member
      · simp
      · simpa using later item member
    have most := List.countP_le_length (p := (· < value)) (l := sorted.take index)
    omega
  · have all : (sorted.take index).countP (· ≤ value) = (sorted.take index).length := by
      rw [List.countP_eq_length]
      intro item member
      simpa using before item member value List.mem_cons_self
    have self : 0 < (value :: sorted.drop (index + 1)).countP (· ≤ value) :=
      List.countP_pos_iff.mpr ⟨value, List.mem_cons_self, by simp⟩
    omega

theorem median_upper {values : List ℕ} {rtts : List ℚ} (same : rtts.Perm (values.map Nat.cast)) :
    UpperMedian values (median rtts) := by
  have perm : (rtts.insertionSort (· ≤ ·)).Perm (values.map Nat.cast) := (List.perm_insertionSort _ _).trans same
  have length : rtts.length = values.length := by rw [same.length_eq, List.length_map]
  rw [median, length]
  cases found : (rtts.insertionSort (· ≤ ·))[values.length / 2]? with
  | none =>
    have short := List.getElem?_eq_none_iff.mp found
    rw [perm.length_eq, List.length_map] at short
    exact List.length_eq_zero_iff.mp (by omega)
  | some middle =>
    obtain ⟨value, member, rfl⟩ := List.mem_map.mp (perm.mem_iff.mp (List.mem_of_getElem? found))
    obtain ⟨below, above⟩ := rank_of_sorted (List.pairwise_insertionSort _ _) found
    rw [perm.countP_eq, List.countP_map] at below above
    have less : values.countP (· < value) = values.countP ((· < (value : ℚ)) ∘ Nat.cast) := by
      simp [Function.comp_def]
    have atMost : values.countP (· ≤ value) = values.countP ((· ≤ (value : ℚ)) ∘ Nat.cast) := by
      simp [Function.comp_def]
    exact ⟨value, member, rfl, less.trans_le below, above.trans_eq atMost.symm⟩

/-! ## Verdicts -/

/-- The verdict by the exact ratio. -/
def exactVerdict (ok reports : ℕ) : MapVerdict :=
  if reports < MAP_MIN_REPORTS then .nodata
  else if 4 * reports ≤ 5 * ok then .up
  else if 2 * reports ≤ 5 * ok then .degraded
  else .down

/-- From 79.5 to 80 percent or from 39.5 to 40. -/
def RoundedUp (ok reports : ℕ) : Prop :=
  795 * reports ≤ 1000 * ok ∧ 5 * ok < 4 * reports ∨ 395 * reports ≤ 1000 * ok ∧ 5 * ok < 2 * reports

theorem percents_mono {share other : ℚ} (nonneg : 0 ≤ share) (below : share ≤ other) : percents share ≤ percents other := by
  apply toDouble_mono (mul_nonneg (toDouble_nonneg nonneg) (by norm_num))
  exact mul_le_mul_of_nonneg_right (toDouble_mono nonneg below) (by norm_num)

/-- The limits are met as doubles where they are met exactly: what is half a percent below one is not rounded, and a
ratio of counts below 2 ^ 32 that is less is so by more than rounding adds. -/
theorem le_percents_iff {limit : ℕ} (limits : limit = 80 ∨ limit = 40) (ok : ℕ) {reports : ℕ} (some_reports : 0 < reports)
    (few : reports < 2 ^ 32) :
    (limit - 1 / 2 : ℚ) ≤ percents (ok / reports) ↔ (10 * limit - 5 : ℤ) * reports ≤ 1000 * ok := by
  have positive : (0 : ℚ) < reports := by exact_mod_cast some_reports
  have exact : (limit - 1 / 2 : ℚ) ≤ percents ((limit - 1 / 2) / 100) := by
    rcases limits with rfl | rfl <;> decide +kernel
  have less : percents ((limit - 1 / 2) / 100 - 1 / 2 ^ 40) < (limit - 1 / 2 : ℚ) := by
    rcases limits with rfl | rfl <;> decide +kernel
  have large : (1 / 2 ^ 40 : ℚ) ≤ (limit - 1 / 2) / 100 := by
    rcases limits with rfl | rfl <;> norm_num
  constructor
  · intro met
    by_contra short
    have short : (1000 * ok + 5 : ℤ) ≤ (10 * limit - 5) * reports := by
      rcases limits with rfl | rfl <;> push_cast at short ⊢ <;> omega
    have short : (1000 * ok + 5 : ℚ) ≤ (10 * limit - 5) * reports := by exact_mod_cast short
    have few' : (reports : ℚ) ≤ 2 ^ 32 := by exact_mod_cast few.le
    have apart : (ok / reports : ℚ) ≤ (limit - 1 / 2) / 100 - 1 / 2 ^ 40 := by
      rw [div_le_iff₀ positive]
      have unit : 1 / 2 ^ 40 * (reports : ℚ) ≤ 5 / 1000 := by linarith
      linarith
    exact absurd ((percents_mono (by positivity) apart).trans_lt less) met.not_gt
  · intro met
    have met : ((10 * limit - 5 : ℤ) : ℚ) * reports ≤ 1000 * ok := by exact_mod_cast met
    push_cast at met
    refine exact.trans (percents_mono ((by norm_num : (0 : ℚ) ≤ 1 / 2 ^ 40).trans large) ?_)
    rw [le_div_iff₀ positive]
    linarith

theorem le_ratio_iff {limit : ℕ} (limits : limit = 80 ∨ limit = 40) (ok : ℕ) {reports : ℕ} (some_reports : 0 < reports)
    (few : reports < 2 ^ 32) :
    toDouble (limit / 100) ≤ ratio ok reports ↔ (10 * limit - 5 : ℤ) * reports ≤ 1000 * ok := by
  rw [← le_percents_iff limits ok some_reports few, ratio, if_pos some_reports]
  have nonneg : (0 : ℚ) ≤ percents (ok / reports) :=
    toDouble_nonneg (mul_nonneg (toDouble_nonneg (by positivity)) (by norm_num))
  have whole : (0 : ℤ) ≤ ⌊percents (ok / reports) + 1 / 2⌋ := Int.floor_nonneg.mpr (by linarith)
  have floor : (limit : ℤ) ≤ ⌊percents (ok / reports) + 1 / 2⌋ ↔ (limit - 1 / 2 : ℚ) ≤ percents (ok / reports) := by
    rw [Int.le_floor, Int.cast_natCast, sub_le_iff_le_add]
  rw [← floor]
  generalize ⌊percents (ok / reports) + 1 / 2⌋ = percent at whole
  constructor
  · intro met
    by_contra short
    have short : ((percent + 1 : ℤ) : ℚ) ≤ ((limit : ℤ) : ℚ) := by exact_mod_cast not_le.mp short
    push_cast at short
    have most : (limit : ℚ) ≤ 80 := by rcases limits with rfl | rfl <;> norm_num
    have whole' : (0 : ℚ) ≤ percent := by exact_mod_cast whole
    have below : toDouble (percent / 100) < toDouble (limit / 100) :=
      toDouble_lt_toDouble (by positivity) (by linarith) (by linarith)
    exact absurd met below.not_ge
  · intro met
    have met : ((limit : ℤ) : ℚ) ≤ percent := by exact_mod_cast met
    rw [Int.cast_natCast] at met
    exact toDouble_mono (by positivity) (div_le_div_of_nonneg_right met (by norm_num))

/-- The verdict is exact but where rounding carries the ratio over a limit. -/
theorem verdictFor_exact_iff {ok reports : ℕ} (some_reports : 0 < reports) (few : reports < 2 ^ 32) :
    verdictFor reports (ratio ok reports) = exactVerdict ok reports ↔
      (MAP_MIN_REPORTS ≤ reports → ¬ RoundedUp ok reports) := by
  have up := le_ratio_iff (.inl rfl) ok some_reports few
  have degraded := le_ratio_iff (.inr rfl) ok some_reports few
  have eighty : ((80 : ℕ) / 100 : ℚ) = 0.8 := by norm_num
  have forty : ((40 : ℕ) / 100 : ℚ) = 0.4 := by norm_num
  rw [eighty] at up
  rw [forty] at degraded
  unfold verdictFor exactVerdict RoundedUp
  simp only [up, degraded]
  split_ifs <;> simp <;> omega

/-! ## The map as an aggregate -/

def MapCell.place (cell : MapCell) : String × String := (cell.isp, cell.city)

/-- The cells divide the reports by provider and city, and nothing is lost or counted twice. -/
structure Faithful (rows : List Row) (aggregate : MapAggregate) : Prop where
  total : aggregate.totalReports = rows.length
  distinct : (aggregate.cells.map MapCell.place).Nodup
  covered : ∀ place, place ∈ aggregate.cells.map MapCell.place ↔ place ∈ rows.map Row.place
  reports : ∀ cell ∈ aggregate.cells, cell.reports = (ofPlace rows cell.place).length
  cell_sum : (aggregate.cells.map (·.reports)).sum = aggregate.totalReports
  transport_sum : (aggregate.transports.map (·.reports)).sum = aggregate.totalReports
  median : ∀ cell ∈ aggregate.cells, UpperMedian (rttsOf (ofPlace rows cell.place)) cell.medianRtt
  verdict : ∀ cell ∈ aggregate.cells,
    cell.verdict = exactVerdict (goodReports (ofPlace rows cell.place)) (ofPlace rows cell.place).length

/-- No two places share a key, and no ratio is rounded over a limit. -/
structure Exact (rows : List Row) : Prop where
  keys : ∀ row ∈ rows, ∀ other ∈ rows, row.key = other.key → row.place = other.place
  ratios : ∀ row ∈ rows, MAP_MIN_REPORTS ≤ (ofPlace rows row.place).length →
    ¬ RoundedUp (goodReports (ofPlace rows row.place)) (ofPlace rows row.place).length

section

variable {rows : List Row}

/-- A place makes a key. -/
theorem key_of_place {row other : Row} (same : row.place = other.place) : row.key = other.key := by
  obtain ⟨isp, city⟩ := Prod.mk.inj same
  rw [Row.key, Row.key, isp, city]

/-- The cells of a map are those of the loop. -/
theorem mem_cells {table : List Row} {windowHours : ℚ} {now : ℤ} {cell : MapCell} :
    cell ∈ (aggregateMap table windowHours now).cells ↔ ∃ key value,
      (accumulated (queried (inWindow table windowHours now))).cells.get? key = some value ∧ mapCell value = cell := by
  rw [aggregateMap, List.mem_insertionSort, List.mem_map]
  constructor
  · rintro ⟨⟨key, value⟩, member, rfl⟩
    exact ⟨key, value, OrderedMap.mem_entries_iff.mp member, rfl⟩
  · rintro ⟨key, value, found, rfl⟩
    exact ⟨(key, value), OrderedMap.mem_entries_iff.mpr found, rfl⟩

theorem aggregateMap_sums (table : List Row) (windowHours : ℚ) (now : ℤ) :
    (aggregateMap table windowHours now).totalReports = (inWindow table windowHours now).length ∧
    ((aggregateMap table windowHours now).cells.map (·.reports)).sum = (inWindow table windowHours now).length ∧
    ((aggregateMap table windowHours now).transports.map (·.reports)).sum = (inWindow table windowHours now).length := by
  obtain ⟨cells, transports⟩ := sum_accumulated (queried (inWindow table windowHours now))
  rw [sum_queried] at cells transports
  refine ⟨?_, ?_, ?_⟩
  · change (accumulated (queried _)).totalReports = _
    rw [accumulated_eq]
    exact sum_queried _
  · rw [← cells, aggregateMap, ((List.perm_insertionSort Worse _).map _).sum_eq, List.map_map]
    rfl
  · rw [← transports, aggregateMap, ((List.perm_insertionSort Better _).map _).sum_eq, List.map_map]
    rfl

/-- No place has two cells. -/
theorem cells_distinct (table : List Row) (windowHours : ℚ) (now : ℤ) :
    ((aggregateMap table windowHours now).cells.map MapCell.place).Nodup := by
  have permuted : ((aggregateMap table windowHours now).cells.map MapCell.place).Perm
      ((accumulated (queried (inWindow table windowHours now))).cells.entries.map fun entry => (mapCell entry.2).place) := by
    refine ((List.perm_insertionSort Worse _).map MapCell.place).trans ?_
    rw [List.map_map]
    exact .refl _
  apply permuted.nodup_iff.mpr
  apply List.Nodup.of_map fun place => place.1 ++ "|" ++ place.2
  rw [List.map_map]
  have keys : (accumulated (queried (inWindow table windowHours now))).cells.entries.map
      ((fun place : String × String => place.1 ++ "|" ++ place.2) ∘ fun entry => (mapCell entry.2).place) =
      (accumulated (queried (inWindow table windowHours now))).cells.entries.map (·.1) := by
    refine List.map_congr_left fun entry member => ?_
    obtain ⟨row, inKey, place⟩ := (cell_facts (OrderedMap.mem_entries_iff.mp member)).place
    change entry.2.isp ++ "|" ++ entry.2.city = entry.1
    rw [← of_decide_eq_true (List.mem_filter.mp inKey).2, Row.key, ← (Prod.mk.inj place).1, ← (Prod.mk.inj place).2]
  rw [keys]
  exact (accumulated (queried (inWindow table windowHours now))).cells.distinct

/-- Under a key of its own a place has all its rows. -/
theorem ofKey_of_exact (keys : ∀ row ∈ rows, ∀ other ∈ rows, row.key = other.key → row.place = other.place) {row : Row}
    (member : row ∈ rows) : ofKey rows row.key = ofPlace rows row.place := by
  apply List.filter_congr
  intro other otherMember
  rw [decide_eq_decide]
  exact ⟨keys other otherMember row member, key_of_place⟩

/-- A cell has what its place has. -/
structure PlaceFacts (rows : List Row) (place : String × String) (cell : CellAccumulator) : Prop where
  named : (cell.isp, cell.city) = place
  reports : cell.reports = (ofPlace rows place).length
  ok : cell.ok = goodReports (ofPlace rows place)
  rtts : cell.rtts.Perm ((rttsOf (ofPlace rows place)).map Nat.cast)

theorem place_facts (keys : ∀ row ∈ rows, ∀ other ∈ rows, row.key = other.key → row.place = other.place) {key : String}
    {cell : CellAccumulator} (found : (accumulated (queried rows)).cells.get? key = some cell) :
    ∃ row ∈ rows, row.key = key ∧ PlaceFacts rows row.place cell := by
  obtain ⟨reports, ok, rtts, row, inKey, place⟩ := cell_facts found
  obtain ⟨member, same⟩ := List.mem_filter.mp inKey
  obtain rfl := of_decide_eq_true same
  rw [ofKey_of_exact keys member] at reports ok rtts
  exact ⟨row, member, rfl, place.symm, reports, ok, rtts⟩

/-- A key of several places puts more reports into a cell than its place has. -/
theorem place_of_count {row other : Row} (member : row ∈ rows) (same : row.key = other.key)
    (count : (ofKey rows other.key).length = (ofPlace rows other.place).length) : row.place = other.place := by
  have sub : (ofPlace rows other.place).Sublist (ofKey rows other.key) := by
    apply List.monotone_filter_right
    intro third place
    exact decide_eq_true (key_of_place (of_decide_eq_true place))
  have whole : ofPlace rows other.place = ofKey rows other.key := sub.eq_of_length count.symm
  have inside : row ∈ ofPlace rows other.place := by
    rw [whole]
    exact List.mem_filter.mpr ⟨member, decide_eq_true same⟩
  exact of_decide_eq_true (List.mem_filter.mp inside).2

end

/-- The map is a faithful aggregate of its window just where the window is exact. -/
theorem aggregateMap_faithful_iff {table : List Row} {windowHours : ℚ} {now : ℤ}
    (few : (inWindow table windowHours now).length < 2 ^ 32) :
    Faithful (inWindow table windowHours now) (aggregateMap table windowHours now) ↔
      Exact (inWindow table windowHours now) := by
  obtain ⟨total, cell_sum, transport_sum⟩ := aggregateMap_sums table windowHours now
  have listed {cell : MapCell} := @mem_cells table windowHours now cell
  have few' (place : String × String) : (ofPlace (inWindow table windowHours now) place).length < 2 ^ 32 :=
    (List.length_filter_le _ _).trans_lt few
  constructor
  · intro faithful
    generalize inWindow table windowHours now = rows at *
    have keys : ∀ row ∈ rows, ∀ other ∈ rows, row.key = other.key → row.place = other.place := by
      intro row member other otherMember same
      obtain ⟨value, found⟩ := exists_cell member
      have facts := cell_facts found
      obtain ⟨chosen, inKey, place⟩ := facts.place
      obtain ⟨-, chosenKey⟩ := List.mem_filter.mp inKey
      have chosenKey := of_decide_eq_true chosenKey
      have count := faithful.reports (mapCell value) (listed.mpr ⟨_, value, found, rfl⟩)
      have count : (ofKey rows chosen.key).length = (ofPlace rows chosen.place).length := by
        rw [chosenKey, place, ← facts.reports]
        exact count
      rw [place_of_count member chosenKey.symm count, place_of_count otherMember (same.symm.trans chosenKey.symm) count]
    refine ⟨keys, fun row member => ?_⟩
    obtain ⟨value, found⟩ := exists_cell member
    obtain ⟨other, otherMember, sameKey, facts⟩ := place_facts keys found
    rw [keys other otherMember row member sameKey] at facts
    have verdict := faithful.verdict (mapCell value) (listed.mpr ⟨_, value, found, rfl⟩)
    have place : (mapCell value).place = row.place := facts.named
    have some_reports : 0 < (ofPlace rows row.place).length :=
      List.length_pos_of_mem (List.mem_filter.mpr ⟨member, decide_eq_true rfl⟩)
    rw [place] at verdict
    apply (verdictFor_exact_iff some_reports (few' _)).mp
    rw [← verdict, mapCell, facts.ok, facts.reports]
  · intro exact
    generalize inWindow table windowHours now = rows at *
    have made {cell : MapCell} (member : cell ∈ (aggregateMap table windowHours now).cells) :
        ∃ row ∈ rows, ∃ value, mapCell value = cell ∧ cell.place = row.place ∧ PlaceFacts rows row.place value := by
      obtain ⟨key, value, found, rfl⟩ := listed.mp member
      obtain ⟨row, rowMember, -, facts⟩ := place_facts exact.keys found
      exact ⟨row, rowMember, value, rfl, facts.named, facts⟩
    constructor
    case total => exact total
    case cell_sum => rw [cell_sum, total]
    case transport_sum => rw [transport_sum, total]
    case distinct => exact cells_distinct table windowHours now
    case covered =>
      intro place
      rw [List.mem_map, List.mem_map]
      constructor
      · rintro ⟨cell, member, rfl⟩
        obtain ⟨row, rowMember, -, -, place, -⟩ := made member
        exact ⟨row, rowMember, place.symm⟩
      · rintro ⟨row, member, rfl⟩
        obtain ⟨value, found⟩ := exists_cell member
        obtain ⟨other, otherMember, sameKey, facts⟩ := place_facts exact.keys found
        rw [exact.keys other otherMember row member sameKey] at facts
        exact ⟨mapCell value, listed.mpr ⟨_, value, found, rfl⟩, facts.named⟩
    case reports =>
      intro cell member
      obtain ⟨row, -, value, rfl, place, facts⟩ := made member
      rw [place, ← facts.reports]
      rfl
    case median =>
      intro cell member
      obtain ⟨row, -, value, rfl, place, facts⟩ := made member
      rw [place]
      exact median_upper facts.rtts
    case verdict =>
      intro cell member
      obtain ⟨row, rowMember, value, rfl, place, facts⟩ := made member
      have some_reports : 0 < (ofPlace rows row.place).length :=
        List.length_pos_of_mem (List.mem_filter.mpr ⟨rowMember, decide_eq_true rfl⟩)
      rw [place, mapCell, facts.ok, facts.reports]
      exact (verdictFor_exact_iff some_reports (few' _)).mpr (exact.ratios row rowMember)

/-! ## Keys of reports that are parsed -/

/-- The mark between provider and city is the first one of a key. -/
theorem place_of_key {row other : Row} (clear : '|' ∉ row.report.isp.toList) (clear' : '|' ∉ other.report.isp.toList)
    (same : row.key = other.key) : row.place = other.place := by
  have parts {isp : String} (absent : '|' ∉ isp.toList) (city : String) :
      (isp ++ "|" ++ city).toList.takeWhile (· ≠ '|') = isp.toList ∧
        (isp ++ "|" ++ city).toList.dropWhile (· ≠ '|') = '|' :: city.toList := by
    have before : ∀ char ∈ isp.toList, decide (char ≠ '|') = true := fun char member =>
      decide_eq_true fun mark => absent (mark ▸ member)
    rw [String.toList_append, String.toList_append, List.append_assoc, List.takeWhile_append_of_pos before,
      List.dropWhile_append_of_pos before]
    exact ⟨List.append_nil _, rfl⟩
  obtain ⟨isp, city⟩ := parts clear row.report.city
  obtain ⟨isp', city'⟩ := parts clear' other.report.city
  rw [Row.key, Row.key] at same
  rw [same] at isp city
  have sameIsp := isp.symm.trans isp'
  have sameCity := List.tail_eq_of_cons_eq (city.symm.trans city')
  rw [Row.place, Row.place, String.toList_injective sameIsp, String.toList_injective sameCity]

/-- Reports that are parsed have keys of their own. -/
theorem parseMapReport_isp {input : Js} {report : MapReport} (parsed : parseMapReport input = .ok report) :
    '|' ∉ report.isp.toList := by
  have known : ∀ isp ∈ "سایر" :: MAP_ISPS, '|' ∉ isp.toList := by decide +kernel
  unfold parseMapReport at parsed
  split at parsed
  · obtain rfl := Except.ok.inj parsed
    apply known
    unfold knownText
    split
    · split
      · next listed => exact List.mem_cons_of_mem _ listed
      · exact List.mem_cons_self
    · exact List.mem_cons_self
  · contradiction

/-- Of reports that are parsed only the ratios matter. -/
theorem exact_of_parsed {rows : List Row} (parsed : ∀ row ∈ rows, ∃ input, parseMapReport input = .ok row.report) :
    Exact rows ↔ ∀ row ∈ rows, MAP_MIN_REPORTS ≤ (ofPlace rows row.place).length →
      ¬ RoundedUp (goodReports (ofPlace rows row.place)) (ofPlace rows row.place).length := by
  have clear {row : Row} (member : row ∈ rows) : '|' ∉ row.report.isp.toList := by
    obtain ⟨input, ok⟩ := parsed row member
    exact parseMapReport_isp ok
  refine ⟨Exact.ratios, fun ratios => ⟨?_, ratios⟩⟩
  intro row member other otherMember same
  exact place_of_key (clear member) (clear otherMember) same

/-- A report without a latency. -/
def sampleReport (ok : Bool) : MapReport := ⟨"سایر", "قم", "ech", none, ok, nofun⟩

def sampleTable : List Row :=
  List.replicate 35 ⟨sampleReport true, 1, 1⟩ ++ List.replicate 9 ⟨sampleReport false, 1, 1⟩

/-- Five reports of one city, of which four are good, and three of another -/
def fewReports : List Row :=
  List.replicate 4 ⟨sampleReport true, 1, 1⟩ ++
    ⟨sampleReport false, 1, 1⟩ :: List.replicate 3 ⟨{ sampleReport false with city := "یزد" }, 1, 1⟩

theorem aggregateMap_faithful_few : Faithful (inWindow fewReports 0 0) (aggregateMap fewReports 0 0) := by
  refine (aggregateMap_faithful_iff (by decide +kernel)).mpr ⟨by decide +kernel, ?_⟩
  unfold RoundedUp
  decide +kernel

/-- Of 44 reports 35 are good, which are less than four fifths. -/
theorem rounded_up : (aggregateMap sampleTable 0 0).cells.map (fun cell => (cell.place, cell.verdict)) =
      [(("سایر", "قم"), .up)] ∧
    exactVerdict (goodReports sampleTable) sampleTable.length = .degraded ∧
    ¬ Faithful (inWindow sampleTable 0 0) (aggregateMap sampleTable 0 0) := by
  have cells : (aggregateMap sampleTable 0 0).cells.map (fun cell => (cell.place, cell.verdict)) =
      [(("سایر", "قم"), .up)] := by decide +kernel
  refine ⟨cells, by decide +kernel, fun faithful => ?_⟩
  have listed : (("سایر", "قم"), MapVerdict.up) ∈
      (aggregateMap sampleTable 0 0).cells.map (fun cell => (cell.place, cell.verdict)) := by
    rw [cells]
    exact List.mem_singleton_self _
  obtain ⟨cell, member, same⟩ := List.mem_map.mp listed
  obtain ⟨place, up⟩ := Prod.mk.inj same
  have verdict := faithful.verdict cell member
  rw [place, up] at verdict
  exact absurd verdict (by decide +kernel)

end OmniControlPlane.Telemetry.CensorshipMap
