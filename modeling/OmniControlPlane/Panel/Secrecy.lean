import OmniControlPlane.Panel.Api

/-! # What the API tells of the redacted settings

Two tables are alike if they differ in the values of redacted keys alone. The routes that read the
settings answer alike on them, except `exportBackup`, whose own filter knows one of the four keys,
and `whoami`, which tells whether there is an administrator.
-/

namespace OmniControlPlane.Panel

open Lib OrderedMap

/-- The table without the values of the redacted keys. -/
def SettingsTable.masked (table : SettingsTable) : SettingsTable :=
  table.mapValues fun key row => if key ∈ REDACTED_KEYS then { row with value := "" } else row

/-- The tables agree on everything but the values of redacted keys. -/
def Alike (table other : SettingsTable) : Prop := table.masked = other.masked

/-- Redacted keys that the filter of `exportBackup` lets pass. -/
def exportedSecrets : List String := REDACTED_KEYS.filter fun key => !likeHash key

/-- Both tables have an administrator's hash, or neither has. -/
def SettingsTable.installed (table : SettingsTable) : Bool :=
  ((table.get? "admin_hash").map (·.value)).getD "" != ""

section

variable {table other : SettingsTable}

namespace Alike

theorem row (alike : Alike table other) {key : String} (listed : key ∉ REDACTED_KEYS) :
    table.get? key = other.get? key := by
  have masked (table : SettingsTable) : table.masked.get? key = table.get? key := by
    rw [SettingsTable.masked, get?_mapValues]
    simp [listed]
  rw [← masked table, ← masked other, alike]

theorem keys (alike : Alike table other) : table.entries.map (·.1) = other.entries.map (·.1) := by
  have masked (table : SettingsTable) : table.masked.entries.map (·.1) = table.entries.map (·.1) := by
    simp [SettingsTable.masked, mapValues, Function.comp_def]
  rw [← masked table, ← masked other, alike]

/-- A write of the same row keeps tables alike. -/
theorem alter (alike : Alike table other) (key : String) (row : SettingRow) :
    Alike (table.alter key fun _ => row) (other.alter key fun _ => row) := by
  unfold Alike SettingsTable.masked
  rw [alter_mapValues, alter_mapValues]
  exact congrArg (fun map => OrderedMap.alter map key _) alike

theorem set (alike : Alike table other) (entries : List (String × String)) (now : ℕ) :
    Alike (Settings.set {} table entries now).2.1 (Settings.set {} other entries now).2.1 := by
  simp only [Settings.set]
  induction entries generalizing table other with
  | nil => exact alike
  | cons entry rest ih => exact ih (alike.alter entry.1 ⟨entry.2, now⟩)

end Alike

/-! ## One request -/

/-- A write by `putSettings` leaves the redacted rows alone. -/
theorem putSettings_row {Rest : Type} (context : Context Rest) (table : SettingsTable) (body : Body) {key : String}
    (redacted : key ∈ REDACTED_KEYS) : (putSettings context table body).1.get? key = table.get? key := by
  cases body with
  | none => rfl
  | some body =>
    have kept : ∀ entry ∈ settingsPatch body, key ≠ entry.1 := by
      rintro entry member rfl
      obtain ⟨old, listed, rfl⟩ := List.mem_map.mp member
      have allowed : old.1 ∈ ALLOWED_KEYS := by simpa using (List.mem_filter.mp listed).2
      have apart : ∀ key ∈ REDACTED_KEYS, key ∉ ALLOWED_KEYS := by decide
      exact apart old.1 redacted allowed
    change ((settingsPatch body).foldl (fun table entry => table.alter entry.1 fun _ => (⟨entry.2, context.now⟩ : SettingRow))
      table).get? key = table.get? key
    generalize settingsPatch body = patch at kept
    induction patch generalizing table with
    | nil => rfl
    | cons entry rest ih =>
      rw [List.foldl_cons, ih _ fun entry member => kept entry (List.mem_cons_of_mem _ member), get?_alter,
        if_neg (kept entry List.mem_cons_self)]

theorem getSettings_alike {Rest : Type} (alike : Alike table other) :
    (getSettings table : Response Rest) = getSettings other := by
  have same : redactSettings table.values = redactSettings other.values := by
    refine ext_get? ?_ fun key => ?_
    · have names (table : SettingsTable) : (redactSettings table.values).entries.map (·.1) =
          (table.entries.map (·.1)).filter (· ∉ REDACTED_KEYS) := by
        simp [redactSettings, OrderedMap.filter, SettingsTable.values, mapValues, List.filter_map, Function.comp_def]
      rw [names, names, alike.keys]
    · rw [redactSettings, redactSettings, get?_filter _ (fun key => decide (key ∉ REDACTED_KEYS)),
        get?_filter _ (fun key => decide (key ∉ REDACTED_KEYS))]
      by_cases redacted : key ∈ REDACTED_KEYS
      · simp [redacted]
      · simp [redacted, SettingsTable.values, get?_mapValues, alike.row redacted]
  exact congrArg (fun map => Response.settings map.entries) same

theorem overview_alike {Rest : Type} (config : Config) (context : Context Rest) (alike : Alike table other) :
    overview config context table = overview config context other := by
  have rows (key : String) (listed : key ∈ ALLOWED_KEYS) : table.get? key = other.get? key :=
    alike.row ((by decide : ∀ key ∈ ALLOWED_KEYS, key ∉ REDACTED_KEYS) key listed)
  simp only [overview, Settings.get_new, Settings.get_loaded, rows _ (by decide : "panel_name" ∈ ALLOWED_KEYS),
    rows _ (by decide : "public_host" ∈ ALLOWED_KEYS), rows _ (by decide : "port" ∈ ALLOWED_KEYS),
    rows _ (by decide : "fragment_preset" ∈ ALLOWED_KEYS), rows _ (by decide : "clean_ips" ∈ ALLOWED_KEYS),
    rows _ (by decide : "auto_rotate" ∈ ALLOWED_KEYS), rows _ (by decide : "rotate_minutes" ∈ ALLOWED_KEYS),
    rows _ (by decide : "mux_enabled" ∈ ALLOWED_KEYS), rows _ (by decide : "block_nsfw" ∈ ALLOWED_KEYS)]

theorem whoami_alike_iff {Rest : Type} (config : Config) (context : Context Rest) (alike : Alike table other) :
    whoami config context table = whoami config context other ↔ table.installed = other.installed := by
  have name := alike.row (by decide : "panel_name" ∉ REDACTED_KEYS)
  simp [whoami, Settings.get_new, Settings.get_loaded, name, SettingsTable.installed]

theorem exportBackup_alike_iff {Rest : Type} (context : Context Rest) (alike : Alike table other) :
    exportBackup context table = exportBackup context other ↔
      ∀ key ∈ exportedSecrets, table.get? key = other.get? key := by
  constructor
  · intro same key member
    have passes : (!likeHash key) = true := (List.mem_filter.mp member).2
    have entries : (table.filter fun key _ => !likeHash key) = other.filter fun key _ => !likeHash key := by
      apply ext_entries
      injection same
    have lookup := congrArg (fun map => OrderedMap.get? map key) entries
    simpa only [get?_filter _ (fun key => !likeHash key), passes, if_true] using lookup
  · intro same
    have entries : (table.filter fun key _ => !likeHash key) = other.filter fun key _ => !likeHash key := by
      refine ext_get? ?_ fun key => ?_
      · have names (table : SettingsTable) : (table.filter fun key _ => !likeHash key).entries.map (·.1) =
            (table.entries.map (·.1)).filter (!likeHash ·) := by
          simp [OrderedMap.filter, List.filter_map, Function.comp_def]
        rw [names, names, alike.keys]
      · simp only [get?_filter _ (fun key => !likeHash key)]
        split
        · next passes =>
          by_cases redacted : key ∈ REDACTED_KEYS
          · exact same key (List.mem_filter.mpr ⟨redacted, passes⟩)
          · exact alike.row redacted
        · rfl
    exact congrArg (fun map => Response.backup context.now context.rest map.entries) entries

end

/-! ## Sequences of requests -/

/-- What a sequence of requests tells of the redacted values: those that `exportBackup` lets pass,
and whether there is an administrator. -/
def Hidden {Rest : Type} (table other : SettingsTable) (requests : List (Context Rest × Request)) : Prop :=
  ∀ request ∈ requests, match request.2 with
    | .exportBackup => ∀ key ∈ exportedSecrets, table.get? key = other.get? key
    | .whoami => table.installed = other.installed
    | _ => True

/-- Only the redacted rows decide what is hidden. -/
theorem hidden_congr {Rest : Type} {table other table' other' : SettingsTable}
    (rows : ∀ key ∈ REDACTED_KEYS, table'.get? key = table.get? key)
    (otherRows : ∀ key ∈ REDACTED_KEYS, other'.get? key = other.get? key)
    (requests : List (Context Rest × Request)) : Hidden table' other' requests ↔ Hidden table other requests := by
  apply forall₂_congr
  intro request _
  cases request.2 with
  | exportBackup =>
    apply forall₂_congr
    intro key member
    have redacted : key ∈ REDACTED_KEYS := List.mem_of_mem_filter member
    rw [rows key redacted, otherRows key redacted]
  | whoami =>
    have listed : "admin_hash" ∈ REDACTED_KEYS := by decide
    simp only [SettingsTable.installed, rows _ listed, otherRows _ listed]
  | _ => rfl

/-- Alike tables give the same answers if and only if no request tells where they differ. -/
theorem responses_alike_iff {Rest : Type} (config : Config) {table other : SettingsTable}
    (alike : Alike table other) (requests : List (Context Rest × Request)) :
    serve config table requests = serve config other requests ↔ Hidden table other requests := by
  induction requests generalizing table other with
  | nil => exact ⟨fun _ _ => nofun, fun _ => rfl⟩
  | cons head rest ih =>
    obtain ⟨context, request⟩ := head
    rw [serve, serve, List.cons.injEq, Hidden, List.forall_mem_cons]
    cases request with
    | getSettings => exact and_congr (iff_true_intro (getSettings_alike alike)) (ih alike)
    | overview => exact and_congr (iff_true_intro (overview_alike config context alike)) (ih alike)
    | whoami => exact and_congr (whoami_alike_iff config context alike) (ih alike)
    | exportBackup => exact and_congr (exportBackup_alike_iff context alike) (ih alike)
    | putSettings body =>
      have answer : (putSettings context table body).2 = (putSettings context other body).2 := by
        cases body <;> rfl
      have alikeAfter : Alike (putSettings context table body).1 (putSettings context other body).1 := by
        cases body with
        | none => exact alike
        | some body => exact alike.set (settingsPatch body) context.now
      have hidden := hidden_congr (fun key redacted => putSettings_row context table body redacted)
        (fun key redacted => putSettings_row context other body redacted) rest
      exact and_congr (iff_true_intro answer) ((ih alikeAfter).trans hidden)

namespace Sample

def settings (signingKey : String) : SettingsTable where
  entries := [("admin_hash", ⟨"pbkdf2$100000$c2FsdA$aGFzaA", 1⟩), ("panel_name", ⟨"Kaveh", 1⟩),
    ("signing_key", ⟨signingKey, 2⟩)]
  distinct := (by decide : ["admin_hash", "panel_name", "signing_key"].Nodup)

def context : Context Unit := ⟨3, some ⟨"admin", "owner"⟩, ()⟩

end Sample

/-- The settings and the session tell nothing. -/
theorem responses_alike_iff_sample :
    serve {} (Sample.settings "Zr3nq0bT") [(Sample.context, .getSettings), (Sample.context, .whoami)] =
      serve {} (Sample.settings "pU3KGCUw") [(Sample.context, .getSettings), (Sample.context, .whoami)] := by
  have alike : Alike (Sample.settings "Zr3nq0bT") (Sample.settings "pU3KGCUw") := by
    apply ext_entries
    decide
  refine (responses_alike_iff {} alike _).mpr fun request member => ?_
  rcases List.mem_cons.mp member with rfl | member
  · trivial
  · rw [List.mem_singleton.mp member]
    decide

/-- A backup contains the signing key. -/
theorem signing_key_exported : Alike (Sample.settings "Zr3nq0bT") (Sample.settings "pU3KGCUw") ∧
    serve {} (Sample.settings "Zr3nq0bT") [(Sample.context, .exportBackup)] ≠
      serve {} (Sample.settings "pU3KGCUw") [(Sample.context, .exportBackup)] := by
  constructor
  · apply ext_entries
    decide
  · intro same
    have answers := (List.cons.inj same).1
    have exported := (Response.backup.inj answers).2.2
    exact absurd exported (by decide +kernel)

end OmniControlPlane.Panel
