import OmniControlPlane.Lib.Json
import OmniControlPlane.Lib.Machine
import OmniControlPlane.Panel.Settings

/-! # The cache of the settings

One `Settings` object and the table behind it, with no other writer. A cache counts as read once it
is not empty, but `set` fills an empty cache with what it has written and nothing else. Every other
call keeps the cache either empty or equal to the table, and then every answer is the table's.
-/

namespace OmniControlPlane.Panel

open Lib

/-- The calls; a fallback is any value. An entry of `set` is its key with the text that is bound, or
without one where the value has none (`undefined`), and then `bind` throws. -/
inductive SettingsCall (φ : Type) where
  | all
  | get (key : String) (fallback : φ)
  | getJson (key : String) (fallback : φ)
  | set (entries : List (String × Option String)) (now : ℕ)

inductive SettingsReply (φ : Type) where
  | contents (map : OrderedMap String String)
  | text (value : String)
  | json (value : Json)
  | fallback (value : φ)
  | thrown

/-- The texts of the entries, if every entry has one. -/
def boundEntries (entries : List (String × Option String)) : Option (List (String × String)) :=
  entries.mapM fun entry => entry.2.map fun value => (entry.1, value)

variable {φ : Type}

/-- `getJson` on what `get` returned: nothing, an empty text or no JSON gives the fallback. -/
def jsonReply (raw : Option String) (fallback : φ) : SettingsReply φ :=
  match raw with
  | none => .fallback fallback
  | some raw =>
    if raw = "" then .fallback fallback
    else match Json.parse raw.toList with
      | some value => .json value
      | none => .fallback fallback

/-- One call on the object, and what it returns. -/
def SettingsCall.run (self : Settings) (table : SettingsTable) :
    SettingsCall φ → (Settings × SettingsTable) × SettingsReply φ
  | .all => (((self.all table).1, table), .contents (self.all table).2)
  | .get key fallback => (((self.get table key).1, table), ((self.get table key).2.map .text).getD (.fallback fallback))
  | .getJson key fallback => (((self.get table key).1, table), jsonReply (self.get table key).2 fallback)
  | .set entries now =>
    match boundEntries entries with
    | none => ((self, table), .thrown)
    | some bound =>
      let (cached, written, returned) := self.set table bound now
      ((cached, written), .contents returned)

/-- An object and its table, called again and again. -/
def settingsMachine (φ : Type) : Machine (Settings × SettingsTable) (SettingsCall φ) where
  step? state call := some (call.run state.1 state.2).1

/-- A map holds what the table holds, under every key. -/
def SettingsTable.SameAs (table : SettingsTable) (map : OrderedMap String String) : Prop :=
  ∀ key, map.get? key = (table.get? key).map (·.value)

/-- What a call has to return, from the table that it leaves behind. -/
def SettingsCall.Answers (table : SettingsTable) : SettingsCall φ → SettingsReply φ → Prop
  | .all, reply => ∃ map, reply = .contents map ∧ table.SameAs map
  | .get key fallback, reply => reply = ((table.get? key).map fun row => .text row.value).getD (.fallback fallback)
  | .getJson key fallback, reply => reply = jsonReply ((table.get? key).map (·.value)) fallback
  | .set entries _, reply =>
    if boundEntries entries = none then reply = .thrown else ∃ map, reply = .contents map ∧ table.SameAs map

/-- The call returns what the table holds at that moment. -/
def Coherent (state : Settings × SettingsTable) (call : SettingsCall φ) : Prop :=
  call.Answers (call.run state.1 state.2).1.2 (call.run state.1 state.2).2

/-- A `set` that writes finds a cache that was read, or writes every key of the table itself. -/
def Loaded (state : Settings × SettingsTable) : SettingsCall φ → Prop
  | .set entries _ => boundEntries entries = none ∨ state.1.cache.entries ≠ [] ∨
      ∀ key row, state.2.get? key = some row → key ∈ entries.map (·.1)
  | _ => True

/-- The cache was not read yet, or it is the table. -/
def CacheValid (state : Settings × SettingsTable) : Prop :=
  state.1.cache.entries = [] ∨ state.2.SameAs state.1.cache

/-! ## One call -/

theorem SettingsTable.sameAs_values (table : SettingsTable) : table.SameAs table.values :=
  fun _ => OrderedMap.get?_mapValues ..

namespace Settings

variable {self : Settings} {table : SettingsTable}

theorem all_same (valid : CacheValid (self, table)) : table.SameAs (self.all table).1.cache := by
  change table.SameAs (if self.cache.entries = [] then table.values else self.cache)
  split
  · exact table.sameAs_values
  · next read => exact valid.resolve_left read

theorem get_same (valid : CacheValid (self, table)) : table.SameAs (self.get table "").1.cache := by
  change table.SameAs (if self.cache.entries = [] then (self.all table).1 else self).cache
  split
  · exact all_same valid
  · next read => exact valid.resolve_left read

/-- What is read under one key does not depend on which one it is. -/
theorem get_eq (key : String) :
    self.get table key = ((self.get table "").1, (self.get table "").1.cache.get? key) := rfl

theorem get_answer (valid : CacheValid (self, table)) (key : String) :
    (self.get table key).2 = (table.get? key).map (·.value) := by
  rw [get_eq]
  exact get_same valid key

end Settings

/-- Entries written to a table and to a map, under the same keys, leave the same text under each of them. -/
theorem written_same (entries : List (String × String)) (now : ℕ) (table : SettingsTable)
    (map : OrderedMap String String) (key : String)
    (same : key ∈ entries.map (·.1) ∨ map.get? key = (table.get? key).map (·.value)) :
    (entries.foldl (fun map entry => map.alter entry.1 fun _ => entry.2) map).get? key =
      ((entries.foldl (fun table entry => table.alter entry.1 fun _ => ⟨entry.2, now⟩) table).get? key).map (·.value) := by
  induction entries generalizing table map with
  | nil => exact same.resolve_left List.not_mem_nil
  | cons entry rest ih =>
    apply ih
    rw [OrderedMap.get?_alter, OrderedMap.get?_alter]
    by_cases here : key = entry.1
    · right
      rw [if_pos here, if_pos here]
      rfl
    · rw [if_neg here, if_neg here]
      exact same.imp_left fun found => (List.mem_cons.mp found).resolve_left here

/-- A key that is not written keeps what it had. -/
theorem written_other (entries : List (String × String)) (now : ℕ) (table : SettingsTable)
    (map : OrderedMap String String) {key : String} (absent : key ∉ entries.map (·.1)) :
    (entries.foldl (fun map entry => map.alter entry.1 fun _ => entry.2) map).get? key = map.get? key ∧
      (entries.foldl (fun table entry => table.alter entry.1 fun _ => ⟨entry.2, now⟩) table).get? key =
        table.get? key := by
  induction entries generalizing table map with
  | nil => exact ⟨rfl, rfl⟩
  | cons entry rest ih =>
    rw [List.map_cons, List.mem_cons, not_or] at absent
    obtain ⟨cached, stored⟩ := ih (table.alter entry.1 fun _ => ⟨entry.2, now⟩) (map.alter entry.1 fun _ => entry.2) absent.2
    rw [List.foldl_cons, List.foldl_cons, cached, stored, OrderedMap.get?_alter, OrderedMap.get?_alter,
      if_neg absent.1, if_neg absent.1]
    exact ⟨rfl, rfl⟩

theorem boundEntries_keys {entries : List (String × Option String)} {bound : List (String × String)}
    (texts : boundEntries entries = some bound) : bound.map (·.1) = entries.map (·.1) := by
  induction entries generalizing bound with
  | nil =>
    obtain rfl : [] = bound := Option.some.inj texts
    rfl
  | cons entry rest ih =>
    rw [boundEntries, List.mapM_cons] at texts
    obtain ⟨first, text, texts⟩ := Option.bind_eq_some_iff.mp texts
    obtain ⟨others, more, texts⟩ := Option.bind_eq_some_iff.mp texts
    obtain ⟨value, -, rfl⟩ := Option.map_eq_some_iff.mp text
    obtain rfl := Option.some.inj texts
    rw [List.map_cons, List.map_cons, ih more]

/-- `set` returns the whole table exactly when the cache was read before, or every key is written. -/
theorem set_same_iff {self : Settings} {table : SettingsTable} (valid : CacheValid (self, table))
    (bound : List (String × String)) (now : ℕ) :
    (self.set table bound now).2.1.SameAs (self.set table bound now).2.2 ↔
      self.cache.entries ≠ [] ∨ ∀ key row, table.get? key = some row → key ∈ bound.map (·.1) := by
  constructor
  · intro same
    rw [or_iff_not_imp_left, not_not]
    intro unread key row stored
    by_contra absent
    obtain ⟨cached, kept⟩ := written_other bound now table self.cache absent
    have here := same key
    change OrderedMap.get? (bound.foldl _ self.cache) key = Option.map _ (OrderedMap.get? (bound.foldl _ table) key) at here
    rw [cached, kept, stored] at here
    rw [OrderedMap.get?, unread] at here
    contradiction
  · intro known key
    apply written_same
    by_cases found : key ∈ bound.map (·.1)
    · exact .inl found
    · right
      by_cases unread : self.cache.entries = []
      · have absent : table.get? key = none := by
          by_contra present
          obtain ⟨row, stored⟩ := Option.ne_none_iff_exists'.mp present
          exact found (known.resolve_left (not_not.mpr unread) key row stored)
        rw [absent, OrderedMap.get?, unread]
        rfl
      · exact valid.resolve_left unread key

/-! ## Runs -/

variable {state next : Settings × SettingsTable}

theorem coherent_iff (valid : CacheValid state) (call : SettingsCall φ) : Coherent state call ↔ Loaded state call := by
  obtain ⟨self, table⟩ := state
  cases call with
  | all => exact iff_of_true ⟨_, rfl, Settings.all_same valid⟩ trivial
  | get key fallback =>
    refine iff_of_true ?_ trivial
    change ((self.get table key).2.map SettingsReply.text).getD (.fallback fallback) = _
    rw [Settings.get_answer valid, Option.map_map]
    rfl
  | getJson key fallback =>
    refine iff_of_true ?_ trivial
    change jsonReply (self.get table key).2 fallback = _
    rw [Settings.get_answer valid]
    rfl
  | set entries now =>
    rw [Coherent, SettingsCall.Answers, SettingsCall.run, Loaded]
    cases texts : boundEntries entries with
    | none => simp
    | some bound =>
      rw [if_neg (Option.some_ne_none bound), ← boundEntries_keys texts]
      simp only [reduceCtorEq, false_or]
      rw [← set_same_iff valid bound now]
      constructor
      · rintro ⟨map, returned, same⟩
        obtain rfl := SettingsReply.contents.inj returned
        exact same
      · intro same
        exact ⟨_, rfl, same⟩

theorem cacheValid_step (valid : CacheValid state) (call : SettingsCall φ) (loaded : Loaded state call)
    (stepped : (settingsMachine φ).step? state call = some next) : CacheValid next := by
  obtain ⟨self, table⟩ := state
  obtain rfl := Option.some.inj stepped
  cases call with
  | all => exact .inr (Settings.all_same valid)
  | get key fallback => exact .inr (Settings.get_same valid)
  | getJson key fallback => exact .inr (Settings.get_same valid)
  | set entries now =>
    rw [SettingsCall.run]
    cases texts : boundEntries entries with
    | none => exact valid
    | some bound =>
      right
      rw [Loaded, texts, ← boundEntries_keys texts] at loaded
      exact (set_same_iff valid bound now).mpr (loaded.resolve_left (Option.some_ne_none bound))

/-- The calls on a new object return what the table holds, one after the other, exactly when no `set`
meets an unread cache while the table has a key that it does not write. -/
theorem settings_coherent_iff (table : SettingsTable) (calls : List (SettingsCall φ)) (final : Settings × SettingsTable) :
    (settingsMachine φ).Run Coherent ({}, table) calls final ↔
      (settingsMachine φ).Run Loaded ({}, table) calls final := by
  have steps (run : (settingsMachine φ).Run Machine.Free ({}, table) calls final) :
      (settingsMachine φ).Run Coherent ({}, table) calls final ↔ (settingsMachine φ).Run Loaded ({}, table) calls final :=
    Machine.Run.steps_iff CacheValid
      (fun _ call _ valid _ => coherent_iff valid call)
      (fun _ call _ valid loaded stepped => cacheValid_step valid call loaded stepped) run (.inl rfl)
  constructor
  · intro coherent
    exact (steps (coherent.mono fun _ _ _ => trivial)).mp coherent
  · intro loaded
    exact (steps (loaded.mono fun _ _ _ => trivial)).mpr loaded

theorem written_nonempty (entries : List (String × String)) (map : OrderedMap String String) (read : map.entries ≠ []) :
    (entries.foldl (fun map entry => map.alter entry.1 fun _ => entry.2) map).entries ≠ [] := by
  induction entries generalizing map with
  | nil => exact read
  | cons entry rest ih =>
    apply ih
    change OrderedMap.alterEntries entry.1 _ map.entries ≠ []
    cases map.entries with
    | nil => exact List.cons_ne_nil _ _
    | cons first others =>
      rw [OrderedMap.alterEntries]
      split
      all_goals exact List.cons_ne_nil _ _

/-- A cache that was read and is not empty stays so. -/
theorem cache_stays_read (read : state.1.cache.entries ≠ []) (call : SettingsCall φ)
    (stepped : (settingsMachine φ).step? state call = some next) : next.1.cache.entries ≠ [] := by
  obtain ⟨self, table⟩ := state
  obtain rfl := Option.some.inj stepped
  have kept : (self.all table).1 = self := by
    change (⟨if self.cache.entries = [] then table.values else self.cache⟩ : Settings) = self
    rw [if_neg read]
  have same (key : String) : (self.get table key).1 = self := by
    change (if self.cache.entries = [] then (self.all table).1 else self) = self
    rw [if_neg read]
  cases call with
  | all =>
    change (self.all table).1.cache.entries ≠ []
    rwa [kept]
  | get key fallback =>
    change (self.get table key).1.cache.entries ≠ []
    rwa [same]
  | getJson key fallback =>
    change (self.get table key).1.cache.entries ≠ []
    rwa [same]
  | set entries now =>
    rw [SettingsCall.run]
    cases boundEntries entries with
    | none => exact read
    | some bound => exact written_nonempty bound self.cache read

/-- Once the cache was read and is not empty, every sequence of calls is coherent. -/
theorem coherent_of_read (calls : List (SettingsCall φ)) {final : Settings × SettingsTable} (valid : CacheValid state)
    (read : state.1.cache.entries ≠ []) (run : (settingsMachine φ).Run Machine.Free state calls final) :
    (settingsMachine φ).Run Coherent state calls final := by
  refine (Machine.Run.steps_iff (fun state => CacheValid state ∧ state.1.cache.entries ≠ []) ?_ ?_ run ⟨valid, read⟩).mpr run
  · intro state call next held _
    rw [coherent_iff held.1]
    refine iff_of_true ?_ trivial
    cases call with
    | all | get | getJson => trivial
    | set => exact .inr (.inl held.2)
  · intro state call next held _ stepped
    refine ⟨cacheValid_step held.1 call ?_ stepped, cache_stays_read held.2 call stepped⟩
    cases call with
    | all | get | getJson => trivial
    | set => exact .inr (.inl held.2)

/-- A panel with a name and a language. -/
def twoSettings : SettingsTable :=
  ⟨[("brand", ⟨"omni", 0⟩), ("lang", ⟨"fa", 0⟩)], by decide⟩

/-- A new object that sets the language loses the name: `set` returns one key of two, and `get` gives the
fallback for a key that the table holds. -/
theorem set_first_incoherent :
    ¬ ∃ final, (settingsMachine String).Run Coherent ({}, twoSettings)
      [.set [("lang", some "en")] 1, .get "brand" "unnamed"] final := by
  rintro ⟨final, run⟩
  obtain ⟨coherent, -⟩ := Machine.Run.cons_iff.mp run
  obtain ⟨map, returned, same⟩ := coherent
  obtain rfl := SettingsReply.contents.inj returned
  have brand := same "brand"
  revert brand
  decide +kernel

end OmniControlPlane.Panel
