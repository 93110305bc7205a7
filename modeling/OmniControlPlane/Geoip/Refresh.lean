import Mathlib.Data.Finset.Card
import Mathlib.Data.List.Sort
import Mathlib.Data.String.Basic
import OmniControlPlane.Geoip.Delegated
import OmniControlPlane.Lib.Machine

/-! # Daily refreshes of the national ranges

Once a day the registry is fetched, and one batch replaces the table of ranges and adds the snapshot of the day. A
refresh may fail at any call. Days are numbers; the batch is done whole or not at all, and its answer may be lost.
The ghosts of a world are the refreshes that succeeded, the last one first, and the last day.
-/

namespace OmniControlPlane.Geoip

open Lib
open Machine (Free)

def RIR_SNAPSHOT_RETENTION_DAYS : ℕ := 14

/-- A row of `geoip_ir_current`, under its CIDR. -/
structure CurrentRow where
  family : Family
  first_seen_day : ℕ
deriving DecidableEq, Repr

/-- A row of `rir_ir_snapshots`, under its day. -/
structure RirSnapshotRow where
  sha256 : String
  range_count : ℕ
  added : ℕ
  removed : ℕ
deriving DecidableEq, Repr

structure Db where
  current : OrderedMap String CurrentRow
  snapshots : OrderedMap ℕ RirSnapshotRow

structure RirRefreshResult where
  updated : Bool
  sha256 : Option String
  added : ℕ
  removed : ℕ
  rangeCount : ℕ
deriving DecidableEq, Repr

/-- The call that fails: the read of the snapshot of the day, the read after it, or the batch, which is then refused, or
done without an answer. -/
inductive Fault where
  | snapshot
  | ranges
  | refused
  | lost
deriving DecidableEq, Repr

structure Diff where
  added : List String
  removed : List String

def diffRanges (previous next : List String) : Diff where
  added := next.filter (· ∉ previous)
  removed := previous.filter (· ∉ next)

/-- `new Set(items)`, in the order of the first occurrences -/
def newSet (items : List String) : List String := items.reverse.dedup.reverse

def currentIrRanges (db : Db) : List String := (db.current.entries.map (·.1)).insertionSort (· ≤ ·)

/-- The batch. -/
def Db.replace (db : Db) (today : ℕ) (digest : String) (ranges : List IspRange) : Db :=
  let next := newSet (ranges.map (·.cidr))
  let diff := diffRanges (currentIrRanges db) next
  let familyOf : OrderedMap String Family :=
    ranges.foldl (fun map range => map.alter range.cidr fun _ => range.family) .empty
  { current := next.foldl (fun table cidr => table.alter cidr fun _ =>
      { family := if familyOf.get? cidr = some .ipv6 then .ipv6 else .ipv4
        first_seen_day := today }) .empty
    snapshots := db.snapshots.alter today fun _ => ⟨digest, next.length, diff.added.length, diff.removed.length⟩ }

section

variable (log2 : ℚ → ℚ) (sha256 : String → String)

/-- The database after a refresh, and its result where it does not throw. -/
def refreshGeoipIr (db : Db) (today : ℕ) (fetched : Option String) (fault : Option Fault) :
    Db × Option RirRefreshResult :=
  if fault = some .snapshot then (db, none)
  else
    match db.snapshots.get? today with
    | some existing =>
      if fault = some .ranges then (db, none)
      else (db, some ⟨false, some existing.sha256, 0, 0, db.current.entries.length⟩)
    | none =>
      match fetched with
      | none => (db, some ⟨false, none, 0, 0, 0⟩)
      | some text =>
        let digest := sha256 text
        let ranges := parseDelegatedIrnic log2 text
        if ranges.length = 0 then (db, some ⟨false, some digest, 0, 0, 0⟩)
        else if fault = some .ranges then (db, none)
        else
          let next := newSet (ranges.map (·.cidr))
          let diff := diffRanges (currentIrRanges db) next
          if fault = some .refused then (db, none)
          else if fault = some .lost then (db.replace today digest ranges, none)
          else (db.replace today digest ranges,
            some ⟨true, some digest, diff.added.length, diff.removed.length, next.length⟩)

def purgeOldRirSnapshots (db : Db) (today : ℕ) : Db :=
  { db with snapshots := db.snapshots.filter fun day _ => today - RIR_SNAPSHOT_RETENTION_DAYS ≤ day }

/-! ## Runs -/

structure World where
  db : Db
  /-- The days and ranges of the refreshes that succeeded, the last one first. -/
  history : List (ℕ × Finset String)
  clock : ℕ

inductive Event where
  | refresh (today : ℕ) (fetched : Option String) (fault : Option Fault)
  | purge (today : ℕ)

def Event.today : Event → ℕ
  | .refresh today _ _ => today
  | .purge today => today

/-- The text that a refresh stores, if it succeeds. -/
def stored? (db : Db) (today : ℕ) (fetched : Option String) (fault : Option Fault) : Option String :=
  if fault = none ∨ fault = some .lost then
    if (db.snapshots.get? today).isSome then none else fetched.filter fun text => parseDelegatedIrnic log2 text ≠ []
  else none

/-- The ranges of a text. -/
def rangesOf (text : String) : Finset String := ((parseDelegatedIrnic log2 text).map (·.cidr)).toFinset

def World.refreshed (world : World) (today : ℕ) (fetched : Option String) (fault : Option Fault) : World where
  db := (refreshGeoipIr log2 sha256 world.db today fetched fault).1
  history :=
    match stored? log2 world.db today fetched fault with
    | none => world.history
    | some text => (today, rangesOf log2 text) :: world.history
  clock := today

/-- Days do not go back. -/
def machine : Machine World Event where
  step? world event :=
    if event.today < world.clock then none
    else match event with
      | .refresh today fetched fault => some (world.refreshed log2 sha256 today fetched fault)
      | .purge today => some { world with db := purgeOldRirSnapshots world.db today, clock := today }

def start : World := ⟨⟨.empty, .empty⟩, [], 0⟩

/-! ## What the tables say -/

/-- The first day of the latest unbroken run of successful refreshes that had a range. -/
def firstSeen (history : List (ℕ × Finset String)) (cidr : String) : Option ℕ :=
  (history.takeWhile (cidr ∈ ·.2)).getLast?.map (·.1)

/-- The ranges of the last successful refresh. -/
def latest (history : List (ℕ × Finset String)) : Finset String := (history.head?.map (·.2)).getD ∅

/-- First days survive refreshes. -/
def Survives (world : World) : Prop :=
  ∀ cidr row, world.db.current.get? cidr = some row → firstSeen world.history cidr = some row.first_seen_day

/-- Every snapshot counts the differences to the successful refresh before it. -/
def Counted (world : World) : Prop :=
  ∀ day row, world.db.snapshots.get? day = some row → ∃ newer ranges older,
    world.history = newer ++ (day, ranges) :: older ∧
      row.added = (ranges \ latest older).card ∧ row.removed = (latest older \ ranges).card

/-- A refresh that succeeds has no range that the table has. -/
def Fresh (world : World) : Event → Prop
  | .refresh today fetched fault => ∀ text, stored? log2 world.db today fetched fault = some text →
    ∀ cidr ∈ rangesOf log2 text, world.db.current.get? cidr = none
  | .purge _ => True

/-! ## A refresh -/

theorem mem_newSet {items : List String} {item : String} : item ∈ newSet items ↔ item ∈ items := by
  rw [newSet, List.mem_reverse, List.mem_dedup, List.mem_reverse]

theorem newSet_nodup (items : List String) : (newSet items).Nodup := List.nodup_reverse.mpr (List.nodup_dedup _)

theorem newSet_toFinset (items : List String) : (newSet items).toFinset = items.toFinset := by
  ext item
  rw [List.mem_toFinset, List.mem_toFinset, mem_newSet]

/-- The table after the batch has the new ranges, all seen first today. -/
theorem current_replace (db : Db) (today : ℕ) (digest : String) (ranges : List IspRange) (cidr : String) :
    if cidr ∈ ranges.map (·.cidr) then ∃ row, (db.replace today digest ranges).current.get? cidr = some row ∧
      row.first_seen_day = today
    else (db.replace today digest ranges).current.get? cidr = none := by
  simp only [Db.replace, OrderedMap.get?_foldl_write, mem_newSet]
  split
  · exact ⟨_, rfl, rfl⟩
  · rfl

theorem card_filter_not_mem {items others : List String} (distinct : items.Nodup) :
    (items.filter (· ∉ others)).length = (items.toFinset \ others.toFinset).card := by
  rw [← List.toFinset_card_of_nodup (distinct.filter _)]
  congr 1
  ext item
  simp

theorem currentIrRanges_nodup (db : Db) : (currentIrRanges db).Nodup :=
  (List.perm_insertionSort _ _).nodup_iff.mpr db.current.distinct

theorem mem_currentIrRanges {db : Db} {cidr : String} :
    cidr ∈ currentIrRanges db ↔ ∃ row, db.current.get? cidr = some row := by
  rw [currentIrRanges, List.mem_insertionSort, List.mem_map]
  constructor
  · rintro ⟨⟨_, row⟩, listed, rfl⟩
    exact ⟨row, OrderedMap.mem_entries_iff.mp listed⟩
  · rintro ⟨row, found⟩
    exact ⟨(cidr, row), OrderedMap.mem_entries_iff.mpr found, rfl⟩

/-- The snapshot of the batch counts what the table gains and loses. -/
theorem snapshots_replace (db : Db) (today : ℕ) (digest : String) (ranges : List IspRange) (day : ℕ) :
    (db.replace today digest ranges).snapshots.get? day =
      if day = today then some ⟨digest, (newSet (ranges.map (·.cidr))).length,
        ((ranges.map (·.cidr)).toFinset \ (currentIrRanges db).toFinset).card,
        ((currentIrRanges db).toFinset \ (ranges.map (·.cidr)).toFinset).card⟩
      else db.snapshots.get? day := by
  simp only [Db.replace, OrderedMap.get?_alter, diffRanges, card_filter_not_mem (newSet_nodup _),
    card_filter_not_mem (currentIrRanges_nodup db), newSet_toFinset]

variable {log2 sha256} {db : Db} {today : ℕ} {fetched : Option String} {fault : Option Fault}

/-- A refresh does its batch, or nothing. -/
theorem refreshGeoipIr_db : (refreshGeoipIr log2 sha256 db today fetched fault).1 =
    match stored? log2 db today fetched fault with
    | none => db
    | some text => db.replace today (sha256 text) (parseDelegatedIrnic log2 text) := by
  unfold refreshGeoipIr stored?
  cases found : db.snapshots.get? today with
  | some existing =>
    simp only [Option.isSome_some, if_true, ite_self]
    split
    · rfl
    · split <;> rfl
  | none =>
    simp only [Option.isSome_none, Bool.false_eq_true, if_false]
    cases fetched with
    | none =>
      simp only [Option.filter_none, ite_self]
      split <;> rfl
    | some text =>
      by_cases empty : parseDelegatedIrnic log2 text = []
      · simp only [Option.filter_some, empty, List.length_nil, ne_eq, not_true_eq_false, decide_false,
          Bool.false_eq_true, if_false, if_true, ite_self]
        split <;> rfl
      · have filled : (parseDelegatedIrnic log2 text).length ≠ 0 := fun none => empty (List.length_eq_zero_iff.mp none)
        simp only [Option.filter_some, empty, filled, ne_eq, not_false_eq_true, decide_true, if_true, if_false]
        rcases fault with _ | fault
        · rfl
        · cases fault <;> rfl

theorem stored?_absent {text : String} (stored : stored? log2 db today fetched fault = some text) :
    db.snapshots.get? today = none := by
  rw [stored?] at stored
  split at stored
  · split at stored
    · contradiction
    · next absent => exact Option.not_isSome_iff_eq_none.mp absent
  · contradiction

/-! ## What every event keeps -/

/-- The table has the ranges of the last successful refresh; the successful refreshes are past, that of the last day
with its snapshot. -/
structure Inv (world : World) : Prop where
  ranges : (currentIrRanges world.db).toFinset = latest world.history
  past : ∀ entry ∈ world.history, entry.1 ≤ world.clock
  today : ∀ entry ∈ world.history, entry.1 = world.clock → ∃ row, world.db.snapshots.get? world.clock = some row
  counted : Counted world

theorem inv_start : Inv start := by
  constructor
  · rfl
  · exact fun entry member => absurd member List.not_mem_nil
  · exact fun entry member => absurd member List.not_mem_nil
  · exact fun day row found => nomatch found

variable {world : World}

/-- On a day without a snapshot every successful refresh is of a day before. -/
theorem Inv.before (inv : Inv world) (later : world.clock ≤ today) (absent : world.db.snapshots.get? today = none) :
    ∀ entry ∈ world.history, entry.1 < today := by
  intro entry member
  have most := inv.past entry member
  rcases Nat.lt_or_eq_of_le (most.trans later) with less | same
  · exact less
  · have last : entry.1 = world.clock := by omega
    obtain ⟨row, found⟩ := inv.today entry member last
    rw [← last, same, absent] at found
    contradiction

theorem ranges_replace (db : Db) (today : ℕ) (digest text : String) :
    (currentIrRanges (db.replace today digest (parseDelegatedIrnic log2 text))).toFinset = rangesOf log2 text := by
  ext cidr
  rw [List.mem_toFinset, mem_currentIrRanges, rangesOf, List.mem_toFinset]
  have written := current_replace db today digest (parseDelegatedIrnic log2 text) cidr
  split at written
  · next member =>
    obtain ⟨row, found, -⟩ := written
    exact iff_of_true ⟨row, found⟩ member
  · next absent =>
    refine iff_of_false ?_ absent
    rintro ⟨row, found⟩
    exact absurd (found.symm.trans written) (Option.some_ne_none row)

theorem Inv.refreshed (inv : Inv world) (later : world.clock ≤ today) :
    Inv (world.refreshed log2 sha256 today fetched fault) := by
  unfold World.refreshed
  rw [refreshGeoipIr_db]
  cases stored : stored? log2 world.db today fetched fault with
  | none =>
    refine ⟨inv.ranges, fun entry member => (inv.past entry member).trans later, ?_, inv.counted⟩
    intro entry member same
    have last : entry.1 = world.clock := by
      have most := inv.past entry member
      simp only at same
      omega
    have kept := inv.today entry member last
    rwa [← last, same] at kept
  | some text =>
    have before := inv.before later (stored?_absent stored)
    constructor
    case ranges => exact ranges_replace world.db today (sha256 text) text
    case past =>
      rintro entry (_ | ⟨_, member⟩)
      · exact Nat.le_refl today
      · exact (before entry member).le
    case today =>
      intro entry member _
      simp only [snapshots_replace, if_true]
      exact ⟨_, rfl⟩
    case counted =>
      intro day row found
      simp only [snapshots_replace] at found
      split at found
      · next same =>
        obtain rfl := Option.some.inj found
        refine ⟨[], rangesOf log2 text, world.history, congrArg (fun day => [] ++ (day, _) :: _) same.symm, ?_, ?_⟩
        · rw [← inv.ranges, rangesOf]
        · rw [← inv.ranges, rangesOf]
      · obtain ⟨newer, ranges, older, split, added, removed⟩ := inv.counted day row found
        refine ⟨(today, rangesOf log2 text) :: newer, ranges, older, ?_, added, removed⟩
        simp only [split, List.cons_append]

theorem Inv.purged (inv : Inv world) (later : world.clock ≤ today) :
    Inv { world with db := purgeOldRirSnapshots world.db today, clock := today } := by
  refine ⟨inv.ranges, fun entry member => (inv.past entry member).trans later, ?_, ?_⟩
  · intro entry member same
    have last : entry.1 = world.clock := by
      have most := inv.past entry member
      simp only at same
      omega
    obtain ⟨row, found⟩ := inv.today entry member last
    have young : today - RIR_SNAPSHOT_RETENTION_DAYS ≤ today := Nat.sub_le _ _
    refine ⟨row, OrderedMap.get?_filter_eq_some_iff.mpr ⟨?_, decide_eq_true young⟩⟩
    rw [← found, ← last, same]
  · intro day row found
    exact inv.counted day row (OrderedMap.get?_filter_eq_some_iff.mp found).1

theorem step_cases {event : Event} {next : World} (stepped : (machine log2 sha256).step? world event = some next) :
    (∃ today fetched fault, event = .refresh today fetched fault ∧ world.clock ≤ today ∧
      next = world.refreshed log2 sha256 today fetched fault) ∨
    ∃ today, event = .purge today ∧ world.clock ≤ today ∧
      next = { world with db := purgeOldRirSnapshots world.db today, clock := today } := by
  rw [machine] at stepped
  simp only at stepped
  split at stepped
  · contradiction
  · next later =>
    cases event with
    | refresh today fetched fault =>
      exact .inl ⟨today, fetched, fault, rfl, not_lt.mp later, (Option.some.inj stepped).symm⟩
    | purge today => exact .inr ⟨today, rfl, not_lt.mp later, (Option.some.inj stepped).symm⟩

theorem inv_step (world : World) (event : Event) (next : World) (inv : Inv world)
    (stepped : (machine log2 sha256).step? world event = some next) : Inv next := by
  rcases step_cases stepped with ⟨today, fetched, fault, -, later, rfl⟩ | ⟨today, -, later, rfl⟩
  · exact inv.refreshed later
  · exact inv.purged later

/-! ## First days -/

/-- What a successful refresh has was first seen that day, if the refresh before did not have it. -/
theorem firstSeen_cons {day : ℕ} {ranges : Finset String} {history : List (ℕ × Finset String)} {cidr : String}
    (member : cidr ∈ ranges) (absent : cidr ∉ latest history) : firstSeen ((day, ranges) :: history) cidr = some day := by
  rw [firstSeen, List.takeWhile_cons_of_pos (by simpa using member)]
  cases history with
  | nil => rfl
  | cons entry older =>
    rw [List.takeWhile_cons_of_neg (by simpa [latest] using absent)]
    rfl

/-- What the refresh before had as well was first seen on a day before. -/
theorem firstSeen_cons_of_mem {day : ℕ} {ranges : Finset String} {history : List (ℕ × Finset String)} {cidr : String}
    (member : cidr ∈ ranges) (present : cidr ∈ latest history) :
    ∃ entry ∈ history, firstSeen ((day, ranges) :: history) cidr = some entry.1 := by
  rw [firstSeen, List.takeWhile_cons_of_pos (by simpa using member)]
  cases history with
  | nil => exact absurd present (Finset.notMem_empty cidr)
  | cons entry older =>
    rw [List.takeWhile_cons_of_pos (by simpa [latest] using present), List.getLast?_cons_cons]
    obtain ⟨last, found⟩ : ∃ last, (entry :: older.takeWhile (cidr ∈ ·.2)).getLast? = some last :=
      ⟨_, List.getLast?_eq_some_getLast (List.cons_ne_nil _ _)⟩
    have listed : last ∈ entry :: older.takeWhile (cidr ∈ ·.2) := List.mem_of_getLast? found
    refine ⟨last, ?_, by rw [found]; rfl⟩
    rcases List.mem_cons.mp listed with rfl | later
    · exact List.mem_cons_self
    · exact List.mem_cons_of_mem _ (List.takeWhile_subset _ later)

/-- A refresh keeps the first days exactly where it has no range that the table has. -/
theorem survives_refreshed (inv : Inv world) (survives : Survives world) (later : world.clock ≤ today) :
    Survives (world.refreshed log2 sha256 today fetched fault) ↔ Fresh log2 world (.refresh today fetched fault) := by
  unfold World.refreshed Survives Fresh
  rw [refreshGeoipIr_db]
  cases stored : stored? log2 world.db today fetched fault with
  | none => exact iff_of_true survives fun text found => absurd (found.symm.trans stored) (Option.some_ne_none text)
  | some text =>
    have before := inv.before later (stored?_absent stored)
    have held (cidr : String) : cidr ∈ latest world.history ↔ ∃ row, world.db.current.get? cidr = some row := by
      rw [← inv.ranges, List.mem_toFinset, mem_currentIrRanges]
    constructor
    · rintro survives text' same cidr member
      obtain rfl : text = text' := Option.some.inj (stored.symm.trans same)
      cases found : world.db.current.get? cidr with
      | none => rfl
      | some old =>
        have written := current_replace world.db today (sha256 text) (parseDelegatedIrnic log2 text) cidr
        rw [if_pos (List.mem_toFinset.mp member)] at written
        obtain ⟨row, wrote, first⟩ := written
        obtain ⟨entry, listed, seen⟩ := @firstSeen_cons_of_mem today _ _ _ member ((held cidr).mpr ⟨old, found⟩)
        have same := Option.some.inj (seen.symm.trans (survives cidr row wrote))
        have earlier := before entry listed
        omega
    · intro fresh cidr row found
      have written := current_replace world.db today (sha256 text) (parseDelegatedIrnic log2 text) cidr
      split at written
      · next listed =>
        obtain ⟨row', wrote, first⟩ := written
        obtain rfl : row = row' := Option.some.inj (found.symm.trans wrote)
        have member : cidr ∈ rangesOf log2 text := List.mem_toFinset.mpr listed
        have absent : cidr ∉ latest world.history := by
          rw [held]
          rintro ⟨old, present⟩
          exact absurd (present.symm.trans (fresh text stored cidr member)) (Option.some_ne_none old)
        rw [firstSeen_cons member absent, first]
      · exact absurd (found.symm.trans written) (Option.some_ne_none row)

end

/-- First days survive all refreshes of a run exactly where no successful one has a range that the table has. Every
snapshot counts the differences between its refresh and the successful one before. -/
theorem first_days_survive_iff {log2 : ℚ → ℚ} {sha256 : String → String} {events : List Event} {world : World}
    (run : (machine log2 sha256).Run Free start events world) :
    ((∀ first rest mid, events = first ++ rest → (machine log2 sha256).Run Free start first mid → Survives mid) ↔
      (machine log2 sha256).Run (Fresh log2) start events world) ∧ Counted world := by
  constructor
  · apply run.always_iff (Fresh log2) (fun world => Inv world ∧ Survives world) Survives (fun _ inv => inv.2)
    · rintro before event after ⟨inv, survives⟩ stepped
      have next := inv_step before event after inv stepped
      rcases step_cases stepped with ⟨today, fetched, fault, rfl, later, rfl⟩ | ⟨today, rfl, later, rfl⟩
      · have exact := @survives_refreshed log2 sha256 today fetched fault _ inv survives later
        exact ⟨exact, fun fresh => ⟨next, exact.mpr fresh⟩⟩
      · exact ⟨iff_of_true survives trivial, fun _ => ⟨next, survives⟩⟩
    · exact ⟨inv_start, fun cidr row found => nomatch found⟩
  · have inv : Inv world := run.preserves Inv (fun s event t inv _ stepped => inv_step s event t inv stepped) inv_start
    exact inv.counted

namespace Sample

/-- The registry does not change between two days -/
def days : List Event := [.refresh 20000 (some text) none, .refresh 20001 (some text) none]

def second : World := (start.refreshed log2 id 20000 (some text) none).refreshed log2 id 20001 (some text) none

theorem days_run : (machine log2 id).Run Free start days second := .cons trivial rfl (.cons trivial rfl (.nil _))

end Sample

theorem first_days_survive_days : ((∀ first rest mid, Sample.days = first ++ rest →
    (machine Sample.log2 id).Run Free start first mid → Survives mid) ↔
      (machine Sample.log2 id).Run (Fresh Sample.log2) start Sample.days Sample.second) ∧ Counted Sample.second :=
  first_days_survive_iff Sample.days_run

/-- A range of both days is said to be seen first on the second. -/
theorem first_day_lost : (machine Sample.log2 id).Run Free start Sample.days Sample.second ∧ ¬ Survives Sample.second := by
  refine ⟨Sample.days_run, fun survives => ?_⟩
  obtain ⟨found, seen⟩ : Sample.second.db.current.get? "5.144.0.0/19" = some ⟨.ipv4, 20001⟩ ∧
      firstSeen Sample.second.history "5.144.0.0/19" = some 20000 := by decide +kernel
  have first := survives _ _ found
  rw [seen] at first
  contradiction

end OmniControlPlane.Geoip
