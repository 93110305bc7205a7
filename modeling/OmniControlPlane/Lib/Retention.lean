import Mathlib.Data.List.Induction
import OmniControlPlane.Lib.OrderedMap

/-! # Tables that forget

A purge deletes the rows that have expired. The table with its purges stands beside the same table without them: what
reads only rows that have not expired cannot tell the two apart, as long as a row that is gone is not written again.
-/

namespace OmniControlPlane.Lib.Retention

/-- A report is recorded, or what has expired is deleted. -/
inductive Happening (ι : Type) where
  | record (item : ι) (now : ℤ)
  | purge (now : ℤ)

namespace Happening

variable {ι : Type}

def now : Happening ι → ℤ
  | .record _ now => now
  | .purge now => now

def isPurge : Happening ι → Bool
  | .record _ _ => false
  | .purge _ => true

end Happening

/-- The tape without its purges. -/
def unpurged {ι : Type} (tape : List (Happening ι)) : List (Happening ι) := tape.filter (!·.isPurge)

/-! ## Rows that are only added -/

section Log

variable {ρ : Type} {expires : ρ → ℤ} {early now : ℤ} {kept all : List ρ}

/-- The rows that have not expired. -/
def live (expires : ρ → ℤ) (now : ℤ) (rows : List ρ) : List ρ := rows.filter (now < expires ·)

/-- The two have the same rows, but for those that have expired. -/
def Purged (expires : ρ → ℤ) (now : ℤ) (kept all : List ρ) : Prop := live expires now kept = live expires now all

theorem Purged.append (purged : Purged expires now kept all) (row : ρ) :
    Purged expires now (kept ++ [row]) (all ++ [row]) := by
  have purged : kept.filter (now < expires ·) = all.filter (now < expires ·) := purged
  simp only [Purged, live, List.filter_append, purged]

theorem Purged.purge (purged : Purged expires now kept all) (before : early ≤ now) :
    Purged expires now (live expires early kept) all := by
  refine Eq.trans ?_ purged
  rw [live, live, live, List.filter_filter]
  apply List.filter_congr
  intro row _
  have still : now < expires row → early < expires row := fun lasts => by omega
  by_cases lasts : now < expires row <;> simp [lasts, still]

/-- A read of rows that have not expired. -/
theorem Purged.read (purged : Purged expires now kept all) {wanted : ρ → Bool}
    (keeps : ∀ row ∈ kept, wanted row = true → now < expires row)
    (holds : ∀ row ∈ all, wanted row = true → now < expires row) : kept.filter wanted = all.filter wanted := by
  have narrow {rows : List ρ} (lasts : ∀ row ∈ rows, wanted row = true → now < expires row) :
      (live expires now rows).filter wanted = rows.filter wanted := by
    rw [live, List.filter_filter]
    apply List.filter_congr
    intro row member
    cases asked : wanted row with
    | false => rfl
    | true => simpa using lasts row member asked
  rw [← narrow keeps, ← narrow holds]
  exact congrArg _ purged

variable {ι : Type} {row : ι → ℤ → ρ}

def logStep (row : ι → ℤ → ρ) (expires : ρ → ℤ) (rows : List ρ) : Happening ι → List ρ
  | .record item now => rows ++ [row item now]
  | .purge now => live expires now rows

def log (row : ι → ℤ → ρ) (expires : ρ → ℤ) (tape : List (Happening ι)) : List ρ := tape.foldl (logStep row expires) []

theorem purged_log {tape : List (Happening ι)} (past : ∀ time, .purge time ∈ tape → time ≤ now) :
    Purged expires now (log row expires tape) (log row expires (unpurged tape)) := by
  induction tape using List.reverseRecOn with
  | nil => rfl
  | append_singleton before event ih =>
    have ih := ih fun time member => past time (List.mem_append_left _ member)
    rw [unpurged, List.filter_append, log, log, List.foldl_append, List.foldl_append]
    cases event with
    | record item time => exact ih.append (row item time)
    | purge time => exact ih.purge (past time (by simp))

theorem mem_log {tape : List (Happening ι)} {entry : ρ} (member : entry ∈ log row expires tape) :
    ∃ item time, entry = row item time := by
  induction tape using List.reverseRecOn with
  | nil => contradiction
  | append_singleton before event ih =>
    rw [log, List.foldl_append] at member
    cases event with
    | record item time =>
      rcases List.mem_append.mp member with old | new
      · exact ih old
      · exact ⟨item, time, List.mem_singleton.mp new⟩
    | purge time => exact ih (List.mem_filter.mp member).1

end Log

/-! ## Rows that are merged -/

section Merged

variable {κ ν : Type} [DecidableEq κ] {expires : ν → ℤ} {early now : ℤ} {kept all : OrderedMap κ ν} {key : κ}

def livingRows (expires : ν → ℤ) (now : ℤ) (table : OrderedMap κ ν) : OrderedMap κ ν :=
  table.filter fun _ row => now < expires row

/-- `kept` has all rows but some that have expired. -/
structure Lacks (expires : ν → ℤ) (now : ℤ) (gone : κ → Bool) (kept all : OrderedMap κ ν) : Prop where
  rest : kept = all.filter fun key _ => !gone key
  expired : ∀ key, gone key = true → ∃ row, all.get? key = some row ∧ expires row ≤ now

/-- A row that would be merged is missing. -/
def Missing (kept all : OrderedMap κ ν) (key : κ) : Prop := kept.get? key = none ∧ (all.get? key).isSome

theorem alter_filter_key (table : OrderedMap κ ν) (keep : κ → Bool) (kept : keep key = true) (f : Option ν → ν) :
    (table.alter key f).filter (fun key _ => keep key) = (table.filter fun key _ => keep key).alter key f := by
  apply OrderedMap.ext_entries
  obtain ⟨entries, distinct⟩ := table
  simp only [OrderedMap.filter, OrderedMap.alter]
  clear distinct
  induction entries with
  | nil => simp [OrderedMap.alterEntries, kept]
  | cons entry rest ih =>
    by_cases here : entry.1 = key
    · have stays : keep entry.1 = true := here ▸ kept
      simp [OrderedMap.alterEntries, here, kept]
    · rw [OrderedMap.alterEntries, if_neg here]
      cases stays : keep entry.1 with
      | true => simp [stays, OrderedMap.alterEntries, here, ih]
      | false => simp [stays, ih]

variable {gone : κ → Bool}

theorem Lacks.empty : Lacks expires now (fun _ => false) (OrderedMap.empty : OrderedMap κ ν) .empty :=
  ⟨rfl, fun _ absent => by contradiction⟩

theorem Lacks.later (lacks : Lacks expires early gone kept all) (before : early ≤ now) :
    Lacks expires now gone kept all := by
  refine ⟨lacks.rest, fun key absent => ?_⟩
  obtain ⟨row, found, ended⟩ := lacks.expired key absent
  exact ⟨row, found, by omega⟩

theorem Lacks.missing_iff (lacks : Lacks expires now gone kept all) : Missing kept all key ↔ gone key = true := by
  rw [Missing, lacks.rest, OrderedMap.get?_filter]
  cases absent : gone key with
  | true =>
    obtain ⟨row, found, -⟩ := lacks.expired key absent
    simp [found]
  | false => simp

theorem Lacks.get? (lacks : Lacks expires now gone kept all) (stays : gone key = false) :
    kept.get? key = all.get? key := by
  rw [lacks.rest, OrderedMap.get?_filter, if_pos (by simp [stays])]

theorem Lacks.alter (lacks : Lacks expires now gone kept all) (stays : gone key = false) (f : Option ν → ν) :
    Lacks expires now gone (kept.alter key f) (all.alter key f) := by
  constructor
  · rw [lacks.rest, alter_filter_key _ _ (by simp [stays])]
  · intro other absent
    have apart : other ≠ key := by
      rintro rfl
      rw [stays] at absent
      contradiction
    rw [OrderedMap.get?_alter, if_neg apart]
    exact lacks.expired other absent

theorem Lacks.purge (lacks : Lacks expires now gone kept all) :
    Lacks expires now (fun key => gone key || (all.get? key).any (expires · ≤ now)) (livingRows expires now kept) all := by
  constructor
  · apply OrderedMap.ext_entries
    rw [livingRows, lacks.rest]
    simp only [OrderedMap.filter, List.filter_filter]
    apply List.filter_congr
    intro entry member
    have found : all.get? entry.1 = some entry.2 := OrderedMap.mem_entries_iff.mp member
    rw [found, Option.any_some, Bool.not_or, Bool.and_comm, ← decide_not]
    simp only [Int.not_le]
  · intro key absent
    rw [Bool.or_eq_true, Option.any_eq_true] at absent
    rcases absent with absent | ⟨row, found, ended⟩
    · exact lacks.expired key absent
    · exact ⟨row, found, of_decide_eq_true ended⟩

/-- What has not expired is the same in both. -/
theorem Lacks.livingRows_eq (lacks : Lacks expires now gone kept all) :
    livingRows expires now kept = livingRows expires now all := by
  apply OrderedMap.ext_entries
  rw [livingRows, lacks.rest]
  simp only [livingRows, OrderedMap.filter, List.filter_filter]
  apply List.filter_congr
  intro entry member
  have found : all.get? entry.1 = some entry.2 := OrderedMap.mem_entries_iff.mp member
  cases absent : gone entry.1 with
  | false => simp
  | true =>
    obtain ⟨row, same, ended⟩ := lacks.expired entry.1 absent
    obtain rfl := Option.some.inj (found.symm.trans same)
    simpa using ended

variable {ι : Type} {name : ι → κ} {merge : ι → ℤ → Option ν → ν} {tape before : List (Happening ι)}

def tableStep (name : ι → κ) (merge : ι → ℤ → Option ν → ν) (expires : ν → ℤ) (table : OrderedMap κ ν) :
    Happening ι → OrderedMap κ ν
  | .record item now => table.alter (name item) (merge item now)
  | .purge now => livingRows expires now table

def table (name : ι → κ) (merge : ι → ℤ → Option ν → ν) (expires : ν → ℤ) (tape : List (Happening ι)) :
    OrderedMap κ ν := tape.foldl (tableStep name merge expires) .empty

/-- A report comes for a row that has been deleted. -/
def Overtaken (name : ι → κ) (merge : ι → ℤ → Option ν → ν) (expires : ν → ℤ) (before : List (Happening ι)) :
    Happening ι → Prop
  | .record item _ => Missing (table name merge expires before) (table name merge expires (unpurged before)) (name item)
  | .purge _ => False

theorem table_record (item : ι) (time : ℤ) : table name merge expires (tape ++ [Happening.record item time]) =
    (table name merge expires tape).alter (name item) (merge item time) := by
  rw [table, List.foldl_append]
  rfl

theorem unpurged_record (item : ι) (time : ℤ) :
    unpurged (tape ++ [Happening.record item time]) = unpurged tape ++ [Happening.record item time] := by
  rw [unpurged, List.filter_append]
  rfl

theorem table_purge (time : ℤ) : table name merge expires (tape ++ [Happening.purge time]) =
    livingRows expires time (table name merge expires tape) := by
  rw [table, List.foldl_append]
  rfl

theorem unpurged_purge (time : ℤ) : unpurged (tape ++ [Happening.purge time]) = unpurged tape := by
  rw [unpurged, List.filter_append]
  exact List.append_nil _

theorem lacks_table (ordered : tape.Pairwise (·.now ≤ ·.now)) (past : ∀ event ∈ tape, event.now ≤ now)
    (kept : ∀ before event after, tape = before ++ event :: after → ¬ Overtaken name merge expires before event) :
    ∃ gone, Lacks expires now gone (table name merge expires tape) (table name merge expires (unpurged tape)) := by
  induction tape using List.reverseRecOn generalizing now with
  | nil => exact ⟨_, .empty⟩
  | append_singleton before event ih =>
    have last := kept before event [] rfl
    obtain ⟨early, -, order⟩ := List.pairwise_append.mp ordered
    obtain ⟨gone, lacks⟩ := ih early (fun other member => order other member event (by simp)) fun first other after same =>
      kept first other (after ++ [event]) (by simp [same])
    have until_now := past event (by simp)
    cases event with
    | record item time =>
      rw [unpurged_record, table_record, table_record]
      have stays : gone (name item) = false := Bool.eq_false_iff.mpr fun absent => last (lacks.missing_iff.mpr absent)
      exact ⟨gone, (lacks.alter stays _).later until_now⟩
    | purge time =>
      rw [unpurged_purge, table_purge]
      exact ⟨_, lacks.purge.later until_now⟩

/-- Each row counts its reports. -/
structure Counting (merge : ι → ℤ → Option ν → ν) (count : ν → ℕ) : Prop where
  first : ∀ item time, count (merge item time none) = 1
  next : ∀ item time row, count (merge item time (some row)) = count row + 1

theorem count_pos {count : ν → ℕ} (counting : Counting merge count) {row : ν}
    (found : (table name merge expires tape).get? key = some row) : 0 < count row := by
  induction tape using List.reverseRecOn generalizing row with
  | nil => contradiction
  | append_singleton before event ih =>
    cases event with
    | record item time =>
      rw [table_record, OrderedMap.get?_alter] at found
      split at found
      · obtain rfl := Option.some.inj found
        cases held : (table name merge expires before).get? (name item) with
        | none => rw [counting.first]; exact Nat.one_pos
        | some row => rw [counting.next]; exact Nat.succ_pos _
      · exact ih found
    | purge time =>
      rw [table_purge] at found
      exact ih (OrderedMap.get?_filter_eq_some_iff.mp found).1

/-- What has not expired is the same with and without the purges, at every moment, exactly where no report comes for a
row that has been deleted. -/
theorem living_iff {count : ν → ℕ} (counting : Counting merge count)
    (lasting : ∀ item time row, time < expires (merge item time row)) (ordered : tape.Pairwise (·.now ≤ ·.now)) :
    (∀ before after, tape = before ++ after → ∀ now, (∀ event ∈ before, event.now ≤ now) →
      livingRows expires now (table name merge expires before) =
        livingRows expires now (table name merge expires (unpurged before))) ↔
      ∀ before event after, tape = before ++ event :: after → ¬ Overtaken name merge expires before event := by
  constructor
  · intro same before event after split overtaken
    cases event with
    | purge time => exact overtaken
    | record item time =>
      obtain ⟨absent, present⟩ := overtaken
      obtain ⟨row, found⟩ := Option.isSome_iff_exists.mp present
      have past : ∀ event ∈ before ++ [Happening.record item time], event.now ≤ time := by
        rw [split, List.pairwise_append] at ordered
        intro event member
        rcases List.mem_append.mp member with old | new
        · exact ordered.2.2 event old (.record item time) List.mem_cons_self
        · obtain rfl := List.mem_singleton.mp new
          exact Int.le_refl _
      have agree := congrArg (OrderedMap.get? · (name item))
        (same (before ++ [Happening.record item time]) after (by simp [split]) time past)
      have kept : (livingRows expires time (table name merge expires (before ++ [Happening.record item time]))).get? (name item) =
          some (merge item time none) :=
        OrderedMap.get?_filter_eq_some_iff.mpr ⟨by rw [table_record, OrderedMap.get?_alter, if_pos rfl, absent],
          decide_eq_true (lasting item time none)⟩
      have all : (livingRows expires time (table name merge expires (unpurged (before ++ [Happening.record item time])))).get?
          (name item) = some (merge item time (some row)) :=
        OrderedMap.get?_filter_eq_some_iff.mpr ⟨by rw [unpurged_record, table_record, OrderedMap.get?_alter, if_pos rfl, found],
          decide_eq_true (lasting item time (some row))⟩
      have counts := congrArg count (Option.some.inj (kept.symm.trans (agree.trans all)))
      rw [counting.first, counting.next] at counts
      have some_reports := count_pos counting found
      omega
  · intro kept before after split now past
    rw [split] at ordered
    obtain ⟨gone, lacks⟩ := lacks_table (List.pairwise_append.mp ordered).1 past fun first event rest same =>
      kept first event (rest ++ after) (by simp [split, same])
    exact lacks.livingRows_eq

end Merged

end OmniControlPlane.Lib.Retention
