import OmniControlPlane.Lib.OrderedMap

/-! # The settings of a panel

The table `settings`, the class `Settings` that reads and writes it through a cache of its own, and
the keys that must not leave the Worker. A row keeps its place when it is written again.
-/

namespace OmniControlPlane.Panel

open Lib

structure SettingRow where
  value : String
  updated_at : ℕ
deriving DecidableEq, Repr

/-- Rows by `key`, the primary key. -/
abbrev SettingsTable := OrderedMap String SettingRow

/-- What `SELECT key, value FROM settings` returns. -/
def SettingsTable.values (table : SettingsTable) : OrderedMap String String :=
  table.mapValues fun _ row => row.value

/-- An object of the class `Settings`. -/
structure Settings where
  cache : OrderedMap String String := .empty

namespace Settings

/-- `all`; an empty cache is read from the table. -/
def all (self : Settings) (table : SettingsTable) : Settings × OrderedMap String String :=
  let loaded := if self.cache.entries = [] then table.values else self.cache
  (⟨loaded⟩, loaded)

/-- `get`, without the fallback for a missing key. -/
def get (self : Settings) (table : SettingsTable) (key : String) : Settings × Option String :=
  let loaded := if self.cache.entries = [] then (self.all table).1 else self
  (loaded, loaded.cache.get? key)

/-- `set`; what it returns is the cache, whether or not it was read before. -/
def set (self : Settings) (table : SettingsTable) (entries : List (String × String)) (now : ℕ) :
    Settings × SettingsTable × OrderedMap String String :=
  let written := entries.foldl (fun table entry => table.alter entry.1 fun _ => ⟨entry.2, now⟩) table
  let cached := entries.foldl (fun cache entry => cache.alter entry.1 fun _ => entry.2) self.cache
  (⟨cached⟩, written, cached)

/-- A new object has read the table after its first `get`. -/
theorem get_new (table : SettingsTable) (key : String) :
    get {} table key = (⟨table.values⟩, (table.get? key).map (·.value)) := by
  change ((⟨table.values⟩ : Settings), table.values.get? key) = _
  rw [SettingsTable.values, OrderedMap.get?_mapValues]

/-- Once the table was read, `get` returns its values and changes nothing. -/
theorem get_loaded (table : SettingsTable) (key : String) :
    get ⟨table.values⟩ table key = (⟨table.values⟩, (table.get? key).map (·.value)) := by
  have value : table.values.get? key = (table.get? key).map (·.value) := OrderedMap.get?_mapValues ..
  unfold get all
  by_cases empty : table.values.entries = []
  · simp [empty, value]
  · simp [empty, value]

end Settings

/-- Keys that must never leave the Worker, nor be settable through the API. -/
def REDACTED_KEYS : List String := ["admin_hash", "signing_key", "cf_api_token", "secret"]

def redactSettings (all : OrderedMap String String) : OrderedMap String String :=
  all.filter fun key _ => key ∉ REDACTED_KEYS

end OmniControlPlane.Panel
