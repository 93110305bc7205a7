import Mathlib.Algebra.BigOperators.Group.List.Basic
import Mathlib.Data.List.Nodup
import Mathlib.Tactic.Common

/-! # Maps that remember the order of insertion

A finite map as the list of its entries, the oldest key first, without repeated keys. Writing to
a present key leaves its place. A measure of the entries changes by what the written entry
changes, and a measure that counts one key only is read off the value under that key.
-/

namespace OmniControlPlane.Lib

/-- A finite map whose entries stand in the order in which their keys were added. -/
structure OrderedMap (κ ν : Type) where
  entries : List (κ × ν)
  distinct : (entries.map (·.1)).Nodup

namespace OrderedMap

variable {κ ν : Type} [DecidableEq κ]

instance : Inhabited (OrderedMap κ ν) := ⟨⟨[], List.nodup_nil⟩⟩

def empty : OrderedMap κ ν := ⟨[], List.nodup_nil⟩

def get? (map : OrderedMap κ ν) (key : κ) : Option ν := map.entries.lookup key

/-- Write what `f` makes of the old value, if there is one. -/
def alterEntries (key : κ) (f : Option ν → ν) : List (κ × ν) → List (κ × ν)
  | [] => [(key, f none)]
  | entry :: rest =>
    if entry.1 = key then (key, f (some entry.2)) :: rest else entry :: alterEntries key f rest

theorem alterEntries_keys (key : κ) (f : Option ν → ν) (entries : List (κ × ν)) :
    (alterEntries key f entries).map (·.1) =
      if key ∈ entries.map (·.1) then entries.map (·.1) else entries.map (·.1) ++ [key] := by
  induction entries with
  | nil => rfl
  | cons entry rest ih =>
    rw [alterEntries]
    by_cases same : entry.1 = key
    · simp [same]
    · have other : key ≠ entry.1 := fun equal => same equal.symm
      rw [if_neg same, List.map_cons, ih]
      simp only [List.map_cons, List.mem_cons, other, false_or]
      split <;> rfl

def alter (map : OrderedMap κ ν) (key : κ) (f : Option ν → ν) : OrderedMap κ ν where
  entries := alterEntries key f map.entries
  distinct := by
    rw [alterEntries_keys]
    split
    · exact map.distinct
    · next absent =>
      exact List.nodup_append_comm.mp (List.nodup_cons.mpr ⟨absent, map.distinct⟩)

/-- Change the value under a key, if there is one. -/
def modify (map : OrderedMap κ ν) (key : κ) (f : ν → ν) : OrderedMap κ ν where
  entries := map.entries.map fun entry => if entry.1 = key then (entry.1, f entry.2) else entry
  distinct := by
    have keys : (map.entries.map fun entry => if entry.1 = key then (entry.1, f entry.2) else entry).map (·.1) =
        map.entries.map (·.1) := by
      rw [List.map_map]
      apply List.map_congr_left
      intro entry _
      simp only [Function.comp_apply]
      split <;> rfl
    rw [keys]
    exact map.distinct

/-- Keep the entries that pass a test. -/
def filter (map : OrderedMap κ ν) (keep : κ → ν → Bool) : OrderedMap κ ν where
  entries := map.entries.filter fun entry => keep entry.1 entry.2
  distinct := map.distinct.sublist ((List.filter_sublist).map _)

/-- Change every value. -/
def mapValues {ω : Type} (map : OrderedMap κ ν) (f : κ → ν → ω) : OrderedMap κ ω where
  entries := map.entries.map fun entry => (entry.1, f entry.1 entry.2)
  distinct := by
    rw [List.map_map]
    exact map.distinct

/-! ## Looking up -/

private theorem lookup_cons_ne {key first : κ} (different : key ≠ first) (value : ν) (rest : List (κ × ν)) :
    List.lookup key ((first, value) :: rest) = List.lookup key rest := by
  rw [List.lookup_cons, beq_eq_false_iff_ne.mpr different]

@[simp] theorem get?_empty (key : κ) : (empty : OrderedMap κ ν).get? key = none := rfl

theorem get?_alter (map : OrderedMap κ ν) (key other : κ) (f : Option ν → ν) :
    (map.alter key f).get? other = if other = key then some (f (map.get? key)) else map.get? other := by
  obtain ⟨entries, distinct⟩ := map
  simp only [get?, alter]
  clear distinct
  induction entries with
  | nil =>
    by_cases same : other = key <;> simp [alterEntries, same]
  | cons entry rest ih =>
    obtain ⟨first, value⟩ := entry
    by_cases there : first = key
    · subst there
      by_cases same : other = first
      · simp [alterEntries, same]
      · simp [alterEntries, same, lookup_cons_ne]
    · have elsewhere : key ≠ first := fun equal => there equal.symm
      by_cases found : other = first
      · subst found
        simp [alterEntries, there]
      · simp [alterEntries, there, lookup_cons_ne found, lookup_cons_ne elsewhere, ih]

/-- What is under a key after many writes is what the writes to that key make of it. -/
theorem get?_foldl_alter {ι : Type} (items : List ι) (name : ι → κ) (f : ι → Option ν → ν) (map : OrderedMap κ ν)
    (key : κ) : (items.foldl (fun map item => map.alter (name item) (f item)) map).get? key =
      (items.filter (name · = key)).foldl (fun value item => some (f item value)) (map.get? key) := by
  induction items generalizing map with
  | nil => rfl
  | cons item items ih =>
    rw [List.foldl_cons, ih, get?_alter]
    by_cases same : name item = key
    · rw [if_pos same.symm, List.filter_cons_of_pos (by simpa using same), List.foldl_cons, same]
    · rw [if_neg (Ne.symm same), List.filter_cons_of_neg (by simpa using same)]

/-- What is written for each of some keys. -/
theorem get?_foldl_write (items : List κ) (f : κ → ν) (map : OrderedMap κ ν) (key : κ) :
    (items.foldl (fun map item => map.alter item fun _ => f item) map).get? key =
      if key ∈ items then some (f key) else map.get? key := by
  induction items generalizing map with
  | nil => rfl
  | cons item items ih =>
    rw [List.foldl_cons, ih, get?_alter]
    by_cases later : key ∈ items
    · rw [if_pos later, if_pos (List.mem_cons_of_mem item later)]
    · by_cases same : key = item
      · rw [if_neg later, if_pos same, if_pos (same ▸ List.mem_cons_self), same]
      · rw [if_neg later, if_neg same, if_neg (List.not_mem_cons_of_ne_of_not_mem same later)]

theorem get?_modify (map : OrderedMap κ ν) (key other : κ) (f : ν → ν) :
    (map.modify key f).get? other = if other = key then (map.get? key).map f else map.get? other := by
  obtain ⟨entries, distinct⟩ := map
  simp only [get?, modify]
  clear distinct
  induction entries with
  | nil => simp
  | cons entry rest ih =>
    obtain ⟨first, value⟩ := entry
    by_cases found : other = first
    · subst found
      by_cases there : other = key <;> simp [there]
    · by_cases there : first = key
      · subst there
        simp [lookup_cons_ne found, found, ih]
      · have elsewhere : key ≠ first := fun equal => there equal.symm
        simp [lookup_cons_ne found, lookup_cons_ne elsewhere, there, ih]

/-- The entries are the keys with their values. -/
theorem mem_entries_iff {map : OrderedMap κ ν} {key : κ} {value : ν} :
    (key, value) ∈ map.entries ↔ map.get? key = some value := by
  constructor
  · intro member
    obtain ⟨entries, distinct⟩ := map
    simp only [get?] at member ⊢
    induction entries with
    | nil => contradiction
    | cons entry rest ih =>
      obtain ⟨first, old⟩ := entry
      obtain ⟨fresh, distinct⟩ := List.nodup_cons.mp distinct
      rcases List.mem_cons.mp member with here | later
      · cases here
        exact List.lookup_cons_self
      · have different : key ≠ first := by
          rintro rfl
          exact fresh (List.mem_map.mpr ⟨_, later, rfl⟩)
        rw [lookup_cons_ne different]
        exact ih distinct later
  · intro found
    obtain ⟨front, back, split, -⟩ := List.lookup_eq_some_iff.mp found
    rw [split]
    exact List.mem_append_right _ List.mem_cons_self

theorem get?_mapValues {ω : Type} (map : OrderedMap κ ν) (f : κ → ν → ω) (key : κ) :
    (map.mapValues f).get? key = (map.get? key).map (f key) := by
  obtain ⟨entries, distinct⟩ := map
  simp only [get?, mapValues]
  clear distinct
  induction entries with
  | nil => rfl
  | cons entry rest ih =>
    obtain ⟨first, value⟩ := entry
    by_cases found : key = first
    · subst found
      simp
    · rw [List.map_cons, lookup_cons_ne found, lookup_cons_ne found, ih]

theorem get?_filter (map : OrderedMap κ ν) (keep : κ → Bool) (key : κ) :
    (map.filter fun key _ => keep key).get? key = if keep key then map.get? key else none := by
  obtain ⟨entries, distinct⟩ := map
  simp only [get?, filter]
  clear distinct
  induction entries with
  | nil => simp
  | cons entry rest ih =>
    obtain ⟨first, value⟩ := entry
    by_cases found : key = first
    · subst found
      cases kept : keep key <;> simp [kept, ih]
    · cases kept : keep first <;> simp [kept, lookup_cons_ne found, ih]

/-- A new key stands at the end. -/
theorem alter_entries_of_absent {map : OrderedMap κ ν} {key : κ} (absent : map.get? key = none) (f : Option ν → ν) :
    (map.alter key f).entries = map.entries ++ [(key, f none)] := by
  obtain ⟨entries, distinct⟩ := map
  simp only [get?, alter] at absent ⊢
  clear distinct
  induction entries with
  | nil => rfl
  | cons entry rest ih =>
    obtain ⟨first, value⟩ := entry
    have different : key ≠ first := by
      rintro rfl
      simp at absent
    rw [lookup_cons_ne different] at absent
    rw [alterEntries, if_neg (Ne.symm different), ih absent, List.cons_append]

/-- Writing to a present key adds no entry. -/
theorem alter_length_of_present {map : OrderedMap κ ν} {key : κ} (present : (map.get? key).isSome)
    (f : Option ν → ν) : (map.alter key f).entries.length = map.entries.length := by
  obtain ⟨value, found⟩ := Option.isSome_iff_exists.mp present
  have listed : key ∈ map.entries.map (·.1) := List.mem_map.mpr ⟨_, mem_entries_iff.mpr found, rfl⟩
  have keys := congrArg List.length (alterEntries_keys key f map.entries)
  rw [if_pos listed] at keys
  simpa [alter] using keys

/-- The values that pass a test that may depend on them. -/
theorem get?_filter_eq_some_iff {map : OrderedMap κ ν} {keep : κ → ν → Bool} {key : κ} {value : ν} :
    (map.filter keep).get? key = some value ↔ map.get? key = some value ∧ keep key value = true := by
  rw [← mem_entries_iff, ← mem_entries_iff]
  exact List.mem_filter

omit [DecidableEq κ] in
theorem ext_entries {map other : OrderedMap κ ν} (entries : map.entries = other.entries) : map = other := by
  cases map
  cases other
  simpa using entries

/-- Maps with the same keys in the same order and the same values are equal. -/
theorem ext_get? {map other : OrderedMap κ ν} (keys : map.entries.map (·.1) = other.entries.map (·.1))
    (values : ∀ key, map.get? key = other.get? key) : map = other := by
  have lengths : map.entries.length = other.entries.length := by simpa using congrArg List.length keys
  have entries : map.entries = other.entries := by
    apply List.ext_getElem lengths
    intro index here there
    have key : map.entries[index].1 = other.entries[index].1 := by
      have at_index := congrArg (·[index]?) keys
      simpa [here, there] using at_index
    have left : map.get? map.entries[index].1 = some map.entries[index].2 :=
      mem_entries_iff.mp (List.getElem_mem here)
    have right : other.get? other.entries[index].1 = some other.entries[index].2 :=
      mem_entries_iff.mp (List.getElem_mem there)
    rw [values, key, right] at left
    exact Prod.ext key (Option.some.inj left).symm
  exact ext_entries entries

/-- A write that ignores the old value commutes with a change of every value. -/
theorem alter_mapValues {ω : Type} (map : OrderedMap κ ν) (f : κ → ν → ω) (key : κ) (value : ν) :
    (map.alter key fun _ => value).mapValues f = (map.mapValues f).alter key fun _ => f key value := by
  refine ext_get? ?_ fun other => ?_
  · simp only [mapValues, alter, List.map_map, Function.comp_def, alterEntries_keys]
  · rw [get?_mapValues, get?_alter, get?_alter, get?_mapValues]
    split
    · next same => rw [same, Option.map_some]
    · rfl

/-! ## Measuring -/

/-- The sum of a measure over the entries. -/
def total {M : Type} [AddCommMonoid M] (measure : κ → ν → M) (entries : List (κ × ν)) : M :=
  (entries.map fun entry => measure entry.1 entry.2).sum

section Total

variable {M : Type} [AddCommMonoid M] (measure : κ → ν → M)

omit [DecidableEq κ] in
@[simp] theorem total_nil : total measure [] = 0 := rfl

omit [DecidableEq κ] in
@[simp] theorem total_cons (entry : κ × ν) (rest : List (κ × ν)) :
    total measure (entry :: rest) = measure entry.1 entry.2 + total measure rest := rfl

/-- A write that adds to the entry adds as much to the total. -/
theorem total_alter (map : OrderedMap κ ν) (key : κ) (f : Option ν → ν) (amount : M)
    (absent : measure key (f none) = amount)
    (present : ∀ old, measure key (f (some old)) = measure key old + amount) :
    total measure (map.alter key f).entries = total measure map.entries + amount := by
  obtain ⟨entries, distinct⟩ := map
  simp only [alter]
  clear distinct
  induction entries with
  | nil => simp [alterEntries, absent]
  | cons entry rest ih =>
    obtain ⟨first, value⟩ := entry
    by_cases there : first = key
    · subst there
      simp only [alterEntries, if_true, total_cons, present]
      rw [add_assoc, add_comm amount, ← add_assoc]
    · simp only [alterEntries, there, if_false, total_cons, ih, add_assoc]

/-- Many writes add up. -/
theorem total_foldl_alter {ι : Type} (items : List ι) (name : ι → κ) (f : ι → Option ν → ν) (amount : ι → M)
    (absent : ∀ item, measure (name item) (f item none) = amount item)
    (present : ∀ item old, measure (name item) (f item (some old)) = measure (name item) old + amount item)
    (map : OrderedMap κ ν) :
    total measure (items.foldl (fun map item => map.alter (name item) (f item)) map).entries =
      total measure map.entries + (items.map amount).sum := by
  induction items generalizing map with
  | nil => exact (add_zero _).symm
  | cons item items ih =>
    rw [List.foldl_cons, ih, List.map_cons, List.sum_cons, ← add_assoc,
      total_alter measure map (name item) (f item) (amount item) (absent item) (present item)]

/-- A measure that counts one key only is the measure of the value under it. -/
theorem total_single (map : OrderedMap κ ν) (key : κ) (others : ∀ other value, other ≠ key → measure other value = 0) :
    total measure map.entries = ((map.get? key).map (measure key)).getD 0 := by
  obtain ⟨entries, distinct⟩ := map
  simp only [get?]
  induction entries with
  | nil => rfl
  | cons entry rest ih =>
    obtain ⟨first, value⟩ := entry
    obtain ⟨fresh, distinct⟩ := List.nodup_cons.mp distinct
    rw [total_cons, ih distinct, List.lookup_cons]
    by_cases same : key = first
    · subst same
      have absent : rest.lookup key = none := by
        apply List.lookup_eq_none_iff.mpr
        intro entry member
        refine bne_iff_ne.mpr fun equal => fresh ?_
        exact List.mem_map.mpr ⟨entry, member, equal.symm⟩
      simp [absent]
    · simp only [beq_eq_false_iff_ne.mpr same, others first value fun equal => same equal.symm, zero_add]

end Total

end OrderedMap

end OmniControlPlane.Lib
