import OmniControlPlane.Panel.Settings
import Mathlib.Data.List.Infix

/-! # The routes that read the settings

`getSettings`, `putSettings`, `overview`, `whoami` and `exportBackup`, for a request that was
authenticated before. What such a request finds outside the table `settings` is its context: the
clock, the session, and everything else that the answer depends on, the other tables and the
environment, of any type. An answer is kept as the values from which its body is written; the
numbers and the list in the settings of the overview are kept as the texts that are parsed.
-/

namespace OmniControlPlane.Panel

open Lib

structure Session where
  subject : String
  role : String
deriving DecidableEq, Repr

/-- What a request finds outside the settings. -/
structure Context (Rest : Type) where
  now : ℕ
  session : Option Session
  rest : Rest

/-- A value in the body of a request; all but a string are kept as `JSON.stringify` writes them. -/
inductive JsonValue where
  | string (text : String)
  | other (json : String)
deriving DecidableEq, Repr

def JsonValue.text : JsonValue → String
  | .string text => text
  | .other json => json

/-- What `Object.entries` finds in a body, or none where it or `readJson` throws. -/
abbrev Body := Option (OrderedMap String JsonValue)

inductive Request where
  | getSettings
  | putSettings (body : Body)
  | overview
  | whoami
  | exportBackup

/-- The settings of the overview. -/
structure OverviewSettings where
  panelName : String
  publicHost : Option String
  port : String
  fragmentPreset : String
  cleanIps : String
  autoRotate : Bool
  rotateMinutes : String
  muxEnabled : Bool
  blockNsfw : Bool
deriving DecidableEq, Repr

inductive Response (Rest : Type) where
  | settings (settings : List (String × String))
  | overview (rest : Rest) (settings : OverviewSettings)
  | whoami (username role : Option String) (panelName : String) (installed : Bool)
  | backup (exported_at : ℕ) (rest : Rest) (settings : List (String × SettingRow))
  | badRequest

/-- `E.config` -/
structure Config where
  panelName : String := "Kaveh"
  fragmentPreset : String := "mci"

/-- The keys that `putSettings` writes. -/
def ALLOWED_KEYS : List String :=
  ["panel_name", "public_host", "port", "fragment_preset", "fingerprint", "clean_ips", "auto_rotate",
    "rotate_minutes", "mux_enabled", "block_nsfw", "block_ads", "remark_prefix", "sub_prefix",
    "default_quota_gb", "default_expiry_days", "status_page_enabled", "maintenance"]

/-- `value || fallback` for a text that may be missing. -/
def orElse (value : Option String) (fallback : String) : String :=
  if value.getD "" = "" then fallback else value.getD ""

section

variable {Rest : Type} (config : Config) (context : Context Rest) (table : SettingsTable)

def getSettings : Response Rest :=
  .settings (redactSettings (Settings.all {} table).2).entries

/-- The part of the body that `putSettings` keeps. -/
def settingsPatch (body : OrderedMap String JsonValue) : List (String × String) :=
  (body.entries.filter (·.1 ∈ ALLOWED_KEYS)).map fun entry => (entry.1, entry.2.text)

def putSettings (body : Body) : SettingsTable × Response Rest :=
  match body with
  | none => (table, .badRequest)
  | some body =>
    let (_, written, settings) := Settings.set {} table (settingsPatch body) context.now
    (written, .settings settings.entries)

def overview : Response Rest :=
  let (S, panelName) := Settings.get {} table "panel_name"
  let (S, publicHost) := S.get table "public_host"
  let (S, port) := S.get table "port"
  let (S, fragmentPreset) := S.get table "fragment_preset"
  let (S, cleanIps) := S.get table "clean_ips"
  let (S, autoRotate) := S.get table "auto_rotate"
  let (S, rotateMinutes) := S.get table "rotate_minutes"
  let (S, muxEnabled) := S.get table "mux_enabled"
  let (_, blockNsfw) := S.get table "block_nsfw"
  .overview context.rest {
    panelName := panelName.getD config.panelName
    publicHost := publicHost
    port := orElse port "443"
    fragmentPreset := fragmentPreset.getD config.fragmentPreset
    cleanIps := orElse cleanIps "[]"
    autoRotate := autoRotate = some "1"
    rotateMinutes := orElse rotateMinutes "30"
    muxEnabled := muxEnabled = some "1"
    blockNsfw := blockNsfw = some "1" }

def whoami : Response Rest :=
  let (S, panelName) := Settings.get {} table "panel_name"
  let (_, adminHash) := S.get table "admin_hash"
  .whoami (context.session.map (·.subject)) (context.session.map (·.role))
    (panelName.getD config.panelName) (adminHash.getD "" != "")

/-- `key LIKE '%hash%'`; `LIKE` does not tell the case of ASCII letters. -/
def likeHash (key : String) : Bool := "hash".toList <:+: key.toList.map Char.toLower

def exportBackup : Response Rest :=
  .backup context.now context.rest (table.filter fun key _ => !likeHash key).entries

/-- One request. -/
def handle (request : Request) : SettingsTable × Response Rest :=
  match request with
  | .getSettings => (table, getSettings table)
  | .putSettings body => putSettings context table body
  | .overview => (table, overview config context table)
  | .whoami => (table, whoami config context table)
  | .exportBackup => (table, exportBackup context table)

end

/-- The answers to a sequence of requests. -/
def serve {Rest : Type} (config : Config) : SettingsTable → List (Context Rest × Request) → List (Response Rest)
  | _, [] => []
  | table, (context, request) :: rest =>
    let (table, response) := handle config context table request
    response :: serve config table rest

end OmniControlPlane.Panel
