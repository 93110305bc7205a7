import Mathlib.Algebra.Order.BigOperators.Group.List
import Mathlib.Data.List.Dedup
import Mathlib.Data.List.Sort
import Mathlib.Data.Rat.Floor
import OmniControlPlane.Lib.OrderedMap
import OmniControlPlane.Lib.Text

/-! # Poisoned answers of resolvers

Clients send what resolvers answered for names that must not be blocked. The answers are counted when they come, and
the summary adds up the five groups of rows that have the most fake ones. Times are in milliseconds.
-/

namespace OmniControlPlane.Telemetry.Poison

open Lib

/-! ## One report -/

def POISON_BLACKHOLE : List String := ["0.0.0.0", "10.10.34.34"]

/-- Lower case changes no character to a digit or a dot. -/
def isBlackholeAnswer (answer : String) : Bool :=
  let value := trim answer
  "127.".toList.isPrefixOf value || value ∈ POISON_BLACKHOLE.map String.toList

structure PoisonEntry where
  resolver : String
  canary : String
  answers : List String

structure Stat where
  total : ℕ
  fake : ℕ
deriving DecidableEq, Repr

namespace Stat

def zero : Stat := ⟨0, 0⟩

def count (stat : Stat) (answer : String) : Stat :=
  ⟨stat.total + 1, if isBlackholeAnswer answer then stat.fake + 1 else stat.fake⟩

end Stat

structure PoisonVerdict where
  total : ℕ
  fake : ℕ
  perResolver : OrderedMap String Stat

def evaluatePoisonTest (entries : List PoisonEntry) : PoisonVerdict :=
  entries.foldl (fun verdict entry =>
    let all := entry.answers.foldl Stat.count ⟨verdict.total, verdict.fake⟩
    { total := all.total
      fake := all.fake
      perResolver := verdict.perResolver.alter entry.resolver fun bucket =>
        entry.answers.foldl Stat.count (bucket.getD .zero) }) ⟨0, 0, .empty⟩

def POISON_RETENTION_HOURS : ℤ := 24

structure PoisonReportInput where
  isp : String
  city : String
  entries : List PoisonEntry

/-- A row of `dns_poison_reports`. -/
structure Row where
  isp : String
  city : String
  fake_count : ℕ
  total_count : ℕ
  created_at : ℤ
  expires_at : ℤ

/-- Both times are of one reading, since the clock of a Worker stands still while nothing is awaited. -/
def recordPoisonReport (table : List Row) (report : PoisonReportInput) (now : ℤ) : List Row :=
  let verdict := evaluatePoisonTest report.entries
  table ++ [⟨report.isp, report.city, verdict.fake, verdict.total, now, now + POISON_RETENTION_HOURS * 3600000⟩]

/-! ## The summary -/

def POISON_WINDOW_HOURS : ℚ := 6

/-- A group of rows: the sums of the two counts and the number of rows. -/
structure Sums where
  fake : ℕ
  total : ℕ
  n : ℕ
deriving DecidableEq, Repr

def Sums.add (row : Row) (sums : Option Sums) : Sums :=
  match sums with
  | none => ⟨row.fake_count, row.total_count, 1⟩
  | some sums => ⟨sums.fake + row.fake_count, sums.total + row.total_count, sums.n + 1⟩

def Row.cell (row : Row) : String × String := (row.isp, row.city)

def inWindow (table : List Row) (windowHours : ℚ) (now : ℤ) : List Row :=
  table.filter fun row => ⌊(now : ℚ) - windowHours * 3600000⌋ < row.created_at

/-- `GROUP BY isp, city` -/
def grouped (rows : List Row) : OrderedMap (String × String) Sums :=
  rows.foldl (fun groups row => groups.alter row.cell (Sums.add row)) .empty

structure Cell where
  isp : String
  city : String
  fake : ℕ
  total : ℕ
deriving DecidableEq, Repr

structure PoisonSummary where
  reports : ℕ
  fake : ℕ
  total : ℕ
  topCells : List Cell
deriving DecidableEq, Repr

/-- `ORDER BY fake DESC` -/
def More (left right : (String × String) × Sums) : Prop := right.2.fake ≤ left.2.fake

instance : DecidableRel More := fun left right => inferInstanceAs (Decidable (right.2.fake ≤ left.2.fake))

def cellOf (group : (String × String) × Sums) : Cell := ⟨group.1.1, group.1.2, group.2.fake, group.2.total⟩

def poisonSummary (table : List Row) (windowHours : ℚ := POISON_WINDOW_HOURS) (now : ℤ) : PoisonSummary :=
  let rows := ((grouped (inWindow table windowHours now)).entries.insertionSort More).take 5
  let cells := rows.map cellOf
  { reports := rows.length
    fake := cells.foldl (fun sum cell => sum + cell.fake) 0
    total := cells.foldl (fun sum cell => sum + cell.total) 0
    topCells := cells }

/-! ## Groups -/

/-- The rows of a cell. -/
def ofCell (rows : List Row) (cell : String × String) : List Row := rows.filter (·.cell = cell)

/-- The cell that stands for all rows of its provider and city. -/
def sumsOf (rows : List Row) (cell : String × String) : Cell where
  isp := cell.1
  city := cell.2
  fake := ((ofCell rows cell).map (·.fake_count)).sum
  total := ((ofCell rows cell).map (·.total_count)).sum

section

variable (rows : List Row)

theorem foldl_add (sums : Sums) : rows.foldl (fun sums row => some (Sums.add row sums)) (some sums) =
    some ⟨sums.fake + (rows.map (·.fake_count)).sum, sums.total + (rows.map (·.total_count)).sum,
      sums.n + rows.length⟩ := by
  induction rows generalizing sums with
  | nil => rfl
  | cons row rows ih =>
    rw [List.foldl_cons, Sums.add, ih]
    simp only [List.map_cons, List.sum_cons, List.length_cons, Nat.add_assoc, Nat.add_comm rows.length]

/-- A group has the sums of the rows of its cell. -/
theorem get?_grouped_iff {cell : String × String} {sums : Sums} : (grouped rows).get? cell = some sums ↔
    cell ∈ rows.map Row.cell ∧ cellOf (cell, sums) = sumsOf rows cell ∧ sums.n = (ofCell rows cell).length := by
  have member : cell ∈ rows.map Row.cell ↔ ofCell rows cell ≠ [] := by
    simp [ofCell, List.filter_eq_nil_iff]
  rw [grouped, OrderedMap.get?_foldl_alter, ← ofCell, member, sumsOf]
  cases ofCell rows cell with
  | nil => simp
  | cons row rest =>
    rw [List.foldl_cons, OrderedMap.get?_empty, Sums.add, foldl_add]
    obtain ⟨fake, total, n⟩ := sums
    simp [cellOf, Nat.add_comm 1, eq_comm, and_assoc]

theorem mem_grouped {cell : String × String} :
    cell ∈ (grouped rows).entries.map (·.1) ↔ cell ∈ rows.map Row.cell := by
  constructor
  · intro member
    obtain ⟨⟨cell, sums⟩, entry, rfl⟩ := List.mem_map.mp member
    exact ((get?_grouped_iff rows).mp (OrderedMap.mem_entries_iff.mp entry)).1
  · intro member
    have found := (get?_grouped_iff rows).mpr
      ⟨member, (rfl : cellOf (cell, ⟨(sumsOf rows cell).fake, (sumsOf rows cell).total, _⟩) = _), rfl⟩
    exact List.mem_map.mpr ⟨_, OrderedMap.mem_entries_iff.mpr found, rfl⟩

/-- There are as many groups as cells. -/
theorem grouped_length : (grouped rows).entries.length = (rows.map Row.cell).dedup.length := by
  have same : ((grouped rows).entries.map (·.1)).Perm (rows.map Row.cell).dedup := by
    apply (List.perm_ext_iff_of_nodup (grouped rows).distinct (List.nodup_dedup _)).mpr
    intro cell
    rw [mem_grouped, List.mem_dedup]
  rw [← same.length_eq, List.length_map]

theorem grouped_length_iff : (grouped rows).entries.length = rows.length ↔ (rows.map Row.cell).Nodup := by
  rw [grouped_length, ← List.dedup_eq_self]
  have cells : (rows.map Row.cell).length = rows.length := List.length_map _
  constructor
  · intro same
    exact (List.dedup_sublist _).eq_of_length (same.trans cells.symm)
  · intro same
    rw [same, cells]

theorem grouped_length_le : (grouped rows).entries.length ≤ rows.length := by
  rw [grouped_length]
  exact ((List.dedup_sublist _).length_le).trans (Nat.le_of_eq (List.length_map _))

/-- The groups have together what the rows have together. -/
theorem total_grouped (measure : Sums → ℕ) (count : Row → ℕ)
    (first : ∀ row, measure (Sums.add row none) = count row)
    (next : ∀ row sums, measure (Sums.add row (some sums)) = measure sums + count row) :
    OrderedMap.total (fun _ sums => measure sums) (grouped rows).entries = (rows.map count).sum := by
  rw [grouped, OrderedMap.total_foldl_alter _ rows Row.cell Sums.add count first next]
  exact Nat.zero_add _

end

/-! ## What the summary counts -/

/-- The three numbers of a summary are those of all rows of the window. -/
def Counts (table : List Row) (windowHours : ℚ) (now : ℤ) : Prop :=
  (poisonSummary table windowHours now).fake = ((inWindow table windowHours now).map (·.fake_count)).sum ∧
  (poisonSummary table windowHours now).total = ((inWindow table windowHours now).map (·.total_count)).sum ∧
  (poisonSummary table windowHours now).reports = (inWindow table windowHours now).length

/-- The cells of a summary are groups of the window with their sums, five of them if there are as many, in the order
of their fake answers, and no other group has more. -/
structure Top (rows : List Row) (cells : List Cell) : Prop where
  groups : ∀ cell ∈ cells, (cell.isp, cell.city) ∈ rows.map Row.cell ∧ cell = sumsOf rows (cell.isp, cell.city)
  distinct : cells.Nodup
  number : cells.length = min 5 (rows.map Row.cell).dedup.length
  ordered : cells.Pairwise fun left right => right.fake ≤ left.fake
  most : ∀ other ∈ rows.map Row.cell, sumsOf rows other ∉ cells → ∀ cell ∈ cells, (sumsOf rows other).fake ≤ cell.fake

section

variable (rows : List Row)

theorem sorted_groups : ((grouped rows).entries.insertionSort More).Pairwise More :=
  have : Std.Total More := ⟨fun left right => Nat.le_total right.2.fake left.2.fake⟩
  have : IsTrans _ More := ⟨fun _ _ _ first second => Nat.le_trans second first⟩
  List.pairwise_insertionSort More _

theorem top_take : Top rows ((((grouped rows).entries.insertionSort More).take 5).map cellOf) := by
  obtain ⟨sorted, isSorted⟩ : ∃ sorted, (grouped rows).entries.insertionSort More = sorted := ⟨_, rfl⟩
  have perm : sorted.Perm (grouped rows).entries := isSorted ▸ List.perm_insertionSort More _
  have ordered : sorted.Pairwise More := isSorted ▸ sorted_groups rows
  have group {entry : (String × String) × Sums} (member : entry ∈ sorted) :
      entry.1 ∈ rows.map Row.cell ∧ cellOf entry = sumsOf rows entry.1 := by
    obtain ⟨cell, sums⟩ := entry
    obtain ⟨listed, sum, -⟩ := (get?_grouped_iff rows).mp (OrderedMap.mem_entries_iff.mp (perm.mem_iff.mp member))
    exact ⟨listed, sum⟩
  have keys : (sorted.map (·.1)).Nodup := (perm.map _).nodup_iff.mpr (grouped rows).distinct
  rw [isSorted]
  constructor
  case groups =>
    intro cell member
    obtain ⟨entry, taken, rfl⟩ := List.mem_map.mp member
    exact group (List.mem_of_mem_take taken)
  case distinct =>
    have cells : ((sorted.take 5).map cellOf).map (fun cell => (cell.isp, cell.city)) = (sorted.take 5).map (·.1) := by
      rw [List.map_map]
      rfl
    apply List.Nodup.of_map (fun cell => (cell.isp, cell.city))
    rw [cells, List.map_take]
    exact keys.sublist (List.take_sublist _ _)
  case number =>
    rw [List.length_map, List.length_take, perm.length_eq, grouped_length]
  case ordered =>
    apply List.pairwise_map.mpr
    exact ordered.sublist (List.take_sublist _ _)
  case most =>
    intro other listed absent cell member
    obtain ⟨entry, taken, rfl⟩ := List.mem_map.mp member
    obtain ⟨⟨other, sums⟩, there, rfl⟩ := List.mem_map.mp ((mem_grouped rows).mpr listed)
    have found := perm.mem_iff.mpr there
    rw [← List.take_append_drop 5 sorted] at found ordered
    rw [← (group (perm.mem_iff.mpr there)).2] at absent ⊢
    rcases List.mem_append.mp found with front | back
    · exact absurd (List.mem_map_of_mem front) absent
    · exact (List.pairwise_append.mp ordered).2.2 entry taken _ back

end

theorem foldl_sum (measure : Cell → ℕ) (cells : List Cell) :
    cells.foldl (fun sum cell => sum + measure cell) 0 = (cells.map measure).sum := by
  rw [← List.foldl_map (f := measure) (g := (· + ·)), ← List.sum_eq_foldl]

/-- The summary counts every report of its window exactly where there are at most five, of which no two are of one
provider and city. The cells that it lists are those with the most fake answers in any case. -/
theorem poisonSummary_counts_iff (table : List Row) (windowHours : ℚ) (now : ℤ) :
    (Counts table windowHours now ↔ (inWindow table windowHours now).length ≤ 5 ∧
      ((inWindow table windowHours now).map Row.cell).Nodup) ∧
    Top (inWindow table windowHours now) (poisonSummary table windowHours now).topCells := by
  obtain ⟨rows, window⟩ : ∃ rows, inWindow table windowHours now = rows := ⟨_, rfl⟩
  refine ⟨?_, top_take _⟩
  have few := grouped_length_le rows
  have listed : (poisonSummary table windowHours now).reports = min 5 (grouped rows).entries.length := by
    rw [← window, poisonSummary, List.length_take, List.length_insertionSort]
  rw [Counts, window, listed, ← grouped_length_iff rows]
  constructor
  · rintro ⟨-, -, reports⟩
    omega
  · rintro ⟨five, distinct⟩
    have whole : ((grouped rows).entries.insertionSort More).take 5 = (grouped rows).entries.insertionSort More := by
      apply List.take_of_length_le
      rw [List.length_insertionSort]
      omega
    have sums (measure : Sums → ℕ) : (((grouped rows).entries.insertionSort More).map fun group => measure group.2).sum =
        OrderedMap.total (fun _ sums => measure sums) (grouped rows).entries :=
      ((List.perm_insertionSort More _).map _).sum_eq
    refine ⟨?_, ?_, by omega⟩
    · change (List.map cellOf _).foldl (fun sum cell => sum + cell.fake) 0 = _
      rw [foldl_sum, window, whole, List.map_map]
      exact (sums (·.fake)).trans (total_grouped rows (·.fake) (·.fake_count) (fun _ => rfl) fun _ _ => rfl)
    · change (List.map cellOf _).foldl (fun sum cell => sum + cell.total) 0 = _
      rw [foldl_sum, window, whole, List.map_map]
      exact (sums (·.total)).trans (total_grouped rows (·.total) (·.total_count) (fun _ => rfl) fun _ _ => rfl)

/-- Two reports of one cell -/
def Sample.twice : List Row := [⟨"mci", "tehran", 1, 3, 1, 86400001⟩, ⟨"mci", "tehran", 2, 3, 1, 86400001⟩]

/-- They count as one. -/
theorem poisonSummary_undercounts : ¬ Counts Sample.twice 0 0 := by
  rintro ⟨-, -, reports⟩
  have one : (poisonSummary Sample.twice 0 0).reports = 1 := by decide +kernel
  have two : (inWindow Sample.twice 0 0).length = 2 := by decide +kernel
  rw [one, two] at reports
  contradiction

/-! ## From the answers to the rows -/

theorem count_foldl (answers : List String) (stat : Stat) : answers.foldl Stat.count stat =
    ⟨stat.total + answers.length, stat.fake + answers.countP isBlackholeAnswer⟩ := by
  induction answers generalizing stat with
  | nil => rfl
  | cons answer answers ih =>
    rw [List.foldl_cons, ih, Stat.count, List.length_cons, List.countP_cons]
    cases isBlackholeAnswer answer <;> simp [Nat.add_assoc, Nat.add_comm 1]

/-- A verdict counts all answers once, and so do its resolvers together. -/
theorem evaluatePoisonTest_counts (entries : List PoisonEntry) :
    (evaluatePoisonTest entries).total = (entries.map (·.answers.length)).sum ∧
    (evaluatePoisonTest entries).fake = (entries.map (·.answers.countP isBlackholeAnswer)).sum ∧
    OrderedMap.total (fun _ stat => stat.total) (evaluatePoisonTest entries).perResolver.entries =
      (evaluatePoisonTest entries).total ∧
    OrderedMap.total (fun _ stat => stat.fake) (evaluatePoisonTest entries).perResolver.entries =
      (evaluatePoisonTest entries).fake := by
  induction entries using List.reverseRecOn with
  | nil => exact ⟨rfl, rfl, rfl, rfl⟩
  | append_singleton entries entry ih =>
    obtain ⟨total, fake, totals, fakes⟩ := ih
    rw [evaluatePoisonTest, List.foldl_append, ← evaluatePoisonTest, List.foldl_cons, List.foldl_nil]
    simp only [count_foldl, List.map_append, List.map_cons, List.map_nil, List.sum_append, List.sum_singleton]
    refine ⟨by rw [total], by rw [fake], ?_, ?_⟩
    · rw [OrderedMap.total_alter _ _ _ _ entry.answers.length (Nat.zero_add _) fun _ => rfl, totals]
    · rw [OrderedMap.total_alter _ _ _ _ (entry.answers.countP isBlackholeAnswer) (Nat.zero_add _) fun _ => rfl, fakes]

/-- The fake answers of a row are among its answers. -/
theorem fake_le_total {table : List Row} (counted : ∀ row ∈ table, row.fake_count ≤ row.total_count)
    (report : PoisonReportInput) (now : ℤ) :
    ∀ row ∈ recordPoisonReport table report now, row.fake_count ≤ row.total_count := by
  intro row member
  obtain ⟨total, fake, -, -⟩ := evaluatePoisonTest_counts report.entries
  rcases List.mem_append.mp member with old | new
  · exact counted row old
  · obtain rfl := List.mem_singleton.mp new
    change (evaluatePoisonTest report.entries).fake ≤ (evaluatePoisonTest report.entries).total
    rw [total, fake]
    exact List.sum_le_sum fun entry _ => List.countP_le_length

end OmniControlPlane.Telemetry.Poison
