import Mathlib.Data.Rat.Floor
import OmniControlPlane.Lib.JavaScript
import OmniControlPlane.Lib.Machine
import OmniControlPlane.Lib.OrderedMap

/-! # What the columns of a user can hold

The numeric columns of `users`, with the JSON of the requests that write them. Creation checks two of
them; an edit binds what the body has, and SQLite stores text that is no number as text. The numbers of
JavaScript are doubles, those of SQLite doubles and integers of 64 bits.
-/

namespace OmniControlPlane.Panel.Columns

open Lib JavaScript Machine

/-! ## Values -/

inductive Failure where
  | typeError
  | badRequest (message : String)
  | notFound
  | conflict
  | database (message : String)
deriving DecidableEq, Repr

/-- `Number(value)` -/
def number (value : Js) : Except Failure JsNumber := if throws value then .error .typeError else .ok (plainNumber value)

/-- A value that SQLite stores. -/
inductive Sql where
  | null
  | number (value : ℚ)
  | infinity (negative : Bool)
  | text (value : String)
  | blob (bytes : List UInt8)
deriving DecidableEq, Repr

/-- A byte of an array that D1 takes for a blob. -/
def byte? : Js → Option UInt8
  | .number (.finite value) => if 0 ≤ value ∧ value < 256 then some (UInt8.ofNat ⌊value⌋.toNat) else none
  | _ => none

/-- A bound number; D1 sends its parameters as JSON, in which `NaN` and `Infinity` are `null`. -/
def bindNumber : JsNumber → Sql
  | .finite value => .number value
  | _ => .null

/-- `bind` of D1 -/
def bind : Js → Except Failure Sql
  | .null => .ok .null
  | .bool value => .ok (.number (if value then 1 else 0))
  | .number value => .ok (bindNumber value)
  | .string text => .ok (.text text)
  | .array items =>
    match items.mapM byte? with
    | some bytes => .ok (.blob bytes)
    | none => .error .typeError
  | .object _ => .error .typeError

/-- A `REAL` of SQLite -/
def stored (value : ℚ) : Sql :=
  match double value with
  | .finite value => .number value
  | .infinity negative => .infinity negative
  | .nan => .null

/-- An `INTEGER` of SQLite -/
def isInt64 (value : ℚ) : Bool := value.den = 1 && -2 ^ 63 ≤ value && value < 2 ^ 63

/-- The white space of SQLite, which is that of ASCII -/
def isSqlSpace (char : Char) : Bool := char.toNat ∈ [9, 10, 11, 12, 13, 32]

/-- The value of a numeral: an integer, if it is written as one and is not too large. -/
def numeral (written : List Char) (value : ℚ) : Sql :=
  if written.all (fun char => char.isDigit || char = '-' || char = '+') && isInt64 value then .number value
  else stored value

/-- A numeric column stores text that is a number as that number, a `REAL` column as a double. -/
def affinity (real : Bool) : Sql → Sql
  | .text text =>
    let written := (text.toList.dropWhile isSqlSpace).rdropWhile isSqlSpace
    match readDecimal written with
    | some (value, []) => if real then stored value else numeral written value
    | _ => .text text
  | value => value

/-- The number that a text begins with -/
def leading (text : List Char) : Sql :=
  let text := text.dropWhile isSqlSpace
  match readDecimal text with
  | some (value, rest) => numeral (text.take (text.length - rest.length)) value
  | none => .number 0

/-- A value in a sum: of text and blobs it is the number that they begin with. -/
def operand : Sql → Sql
  | .text text => leading text.toList
  | .blob bytes => leading (decodeUtf8 bytes).toList
  | value => value

/-- Integers are added exactly while the sum is one, other numbers as doubles. -/
def addNumbers (a b : ℚ) : Sql :=
  if [a, b, a + b].all isInt64 then .number (a + b) else stored (toDouble a + toDouble b)

/-- `a + b` of SQLite -/
def Sql.add (a b : Sql) : Sql :=
  match operand a, operand b with
  | .number a, .number b => addNumbers a b
  | .infinity a, .infinity b => if a = b then .infinity a else .null
  | .infinity a, .number _ | .number _, .infinity a => .infinity a
  | _, _ => .null

/-! ## Rows and requests -/

/-- The numeric columns of `users`; `first_connect` and the columns of text have no part in them. -/
structure Row where
  quota_gb : Sql
  used_bytes : Sql
  expiry_days : Sql
  expires_at : Sql
  device_limit : Sql
  request_limit : Sql
  requests_used : Sql
  is_active : Bool
deriving DecidableEq, Repr

abbrev Table := OrderedMap String Row

/-- `E.config` -/
structure Config where
  defaultQuotaGb : JsNumber := .finite 50
  defaultExpiryDays : JsNumber := .finite 30

def DAY : ℚ := 86400000

/-- `days * 86400000` -/
def daysInMs : JsNumber → JsNumber
  | .finite days => double (days * DAY)
  | days => days

/-- `now + days * 86400000`, bound to a parameter. -/
def deadline (now : ℤ) (days : JsNumber) : Sql :=
  match daysInMs days with
  | .finite ms => bindNumber (double (now + ms))
  | _ => .null

/-- `Math.max(least, value)` -/
def atLeast (least : ℚ) : JsNumber → JsNumber
  | .nan => .nan
  | .infinity negative => if negative then .finite least else .infinity false
  | .finite value => .finite (max least value)

/-- `Number(raw.key || fallback)` -/
def numberOr (raw : Fields) (key : String) (fallback : ℚ) : Except Failure JsNumber :=
  if truthy (raw.get key) then number ((raw.get key).getD .null) else .ok (.finite fallback)

/-- `Number(raw.key ?? fallback)` -/
def numberOrDefault (raw : Fields) (key : String) (fallback : JsNumber) : Except Failure JsNumber :=
  match raw.get key with
  | none | some .null => .ok fallback
  | some value => number value

/-- `raw.key === false` -/
def isFalse (raw : Fields) (key : String) : Bool :=
  match raw.get key with
  | some (.bool false) => true
  | _ => false

def newUserInput (config : Config) (raw : Fields) (now : ℤ) : Except Failure Row := do
  let quota ← numberOrDefault raw "quota_gb" config.defaultQuotaGb
  let days ← numberOrDefault raw "expiry_days" config.defaultExpiryDays
  if !quota.positive then .error (.badRequest "حجم نامعتبر است")
  else if !days.positive then .error (.badRequest "مدت نامعتبر است")
  else do
    let used ← numberOr raw "used_bytes" 0
    let devices ← numberOr raw "device_limit" 3
    let requests ← numberOr raw "request_limit" 0
    .ok {
      quota_gb := bindNumber quota
      used_bytes := bindNumber used
      expiry_days := bindNumber days
      expires_at := if isFalse raw "first_connect" then deadline now days else .null
      device_limit := bindNumber (atLeast 1 devices)
      request_limit := bindNumber (atLeast 0 requests)
      requests_used := .number 0
      is_active := !isFalse raw "is_active" }

/-- The columns that are declared `NOT NULL`. -/
def Row.required (row : Row) : List Sql :=
  [row.quota_gb, row.used_bytes, row.expiry_days, row.device_limit, row.request_limit, row.requests_used]

def checkRow (row : Row) : Except Failure Row :=
  if .null ∈ row.required then .error (.database "NOT NULL constraint failed") else .ok row

def createUser (table : Table) (username : String) (input : Row) : Except Failure Table :=
  if (table.get? username).isSome then .error .conflict
  else (checkRow input).map fun row => table.alter username fun _ => row

def PATCHABLE : List String :=
  ["quota_gb", "expiry_days", "device_limit", "request_limit", "connection", "tls", "fragment", "fingerprint", "note",
    "is_active", "first_connect", "ips", "proxies", "block_list"]

/-- A column that an edit sets to the value of the body. -/
def Row.set (row : Row) (key : String) (value : Sql) : Row :=
  match key with
  | "quota_gb" => { row with quota_gb := affinity true value }
  | "expiry_days" => { row with expiry_days := affinity false value }
  | "device_limit" => { row with device_limit := affinity false value }
  | "request_limit" => { row with request_limit := affinity false value }
  | _ => row

/-- One entry of a patch; all columns that it binds as they are must not be null. -/
def patchColumn (row : Row) (entry : String × Js) : Except Failure Row :=
  if entry.1 ∉ PATCHABLE ∨ entry.1 ∈ ["ips", "proxies", "block_list"] then .ok row
  else if entry.1 = "is_active" then .ok { row with is_active := truthy (some entry.2) }
  else (bind entry.2).bind fun value =>
    if value = .null then .error (.database "NOT NULL constraint failed") else .ok (row.set entry.1 value)

def patchRow (row : Row) (patch : Fields) (now : ℤ) : Except Failure Row := do
  let patched ← patch.foldlM patchColumn row
  match patch.get "expiry_days" with
  | none | some .null => .ok patched
  | some value => (number value).map fun days => { patched with expires_at := deadline now days }

def updateUser (table : Table) (username : String) (patch : Fields) (now : ℤ) : Except Failure Table :=
  match table.get? username with
  | none => .error .notFound
  | some row => (patchRow row patch now).map fun patched => table.alter username fun _ => patched

/-- A statement that rewrites the rows of some users; it fails where it leaves a required column null. -/
def updateRows (table : Table) (usernames : List String) (change : Row → Row) : Except Failure Table :=
  let changed := table.mapValues fun username row => if username ∈ usernames then change row else row
  if changed.entries.all fun entry => .null ∉ entry.2.required then .ok changed
  else .error (.database "NOT NULL constraint failed")

/-- `COALESCE(value, fallback)` -/
def coalesce (value fallback : Sql) : Sql := if value = .null then fallback else value

def Row.extend (row : Row) (days : JsNumber) (now : ℤ) : Row :=
  { row with
    expires_at := (coalesce row.expires_at (.number now)).add (bindNumber (daysInMs days))
    expiry_days := row.expiry_days.add (bindNumber days) }

def bulk (table : Table) (usernames : List String) (op : String) (value : Js) (now : ℤ) : Except Failure Table :=
  if usernames = [] then .error (.badRequest "هیچ کاربری انتخاب نشده")
  else
    match op with
    | "enable" => updateRows table usernames fun row => { row with is_active := true }
    | "disable" => updateRows table usernames fun row => { row with is_active := false }
    | "delete" => .ok (table.filter fun username _ => !usernames.contains username)
    | "reset_traffic" => updateRows table usernames fun row => { row with used_bytes := .number 0 }
    | "reset_requests" => updateRows table usernames fun row => { row with requests_used := .number 0 }
    | "extend" => (number value).bind fun days => updateRows table usernames (·.extend days now)
    | _ => .error (.badRequest s!"عملیات ناشناخته: {op}")

/-- `body.days` where it is true. -/
def resetDays (body : Fields) : Except Failure (Option JsNumber) :=
  if truthy (body.get "days") then (number ((body.get "days").getD .null)).map some else .ok none

def reset (table : Table) (username : String) (body : Fields) (now : ℤ) : Except Failure Table :=
  (resetDays body).bind fun days =>
    updateRows table [username] fun row => { row with
      used_bytes := if isFalse body "traffic" then row.used_bytes else .number 0
      requests_used := if truthy (body.get "requests") then .number 0 else row.requests_used
      expires_at := match days with
        | some days => deadline now days
        | none => row.expires_at }

/-- What JavaScript reads in a column. -/
def Sql.js : Sql → Js
  | .null => .null
  | .number value => .number (.finite value)
  | .infinity negative => .number (.infinity negative)
  | .text value => .string value
  | .blob bytes => .array (bytes.map fun byte => .number (.finite byte.toNat))

/-- `expires_at < now`; text and blobs are above all numbers. -/
def Sql.before (now : ℤ) : Sql → Bool
  | .number value => value < now
  | .infinity negative => negative
  | _ => false

/-- The users whose deadline is past, with the days of their term. -/
def dueUsers (table : Table) (now : ℤ) : List (String × Sql) :=
  (table.entries.filter fun entry => entry.2.is_active && entry.2.expires_at.before now).map fun entry =>
    (entry.1, entry.2.expiry_days)

def expireUser (onExpiry : String) (now : ℤ) (table : Table) (due : String × Sql) : Table :=
  match onExpiry with
  | "renew" => table.modify due.1 fun row =>
      { row with expires_at := deadline now (plainNumber due.2.js), used_bytes := .number 0 }
  | "delete" => table.filter fun username _ => username != due.1
  | _ => table.modify due.1 fun row => { row with is_active := false }

/-- A pass of which the first batches have run, of a hundred statements each. -/
def runMaintenance (table : Table) (onExpiry : String) (batches : ℕ) (now : ℤ) : Table :=
  ((dueUsers table now).take (100 * batches)).foldl (expireUser onExpiry now) table

inductive Request where
  | create (username : String) (body : Js)
  | update (username : String) (body : Js)
  | bulk (usernames : List String) (op : String) (value : Js)
  | reset (username : String) (body : Js)
  | maintenance (onExpiry : String) (batches : ℕ)

/-- The body of a creation is spread, which makes `null` an empty object. -/
def perform (config : Config) (table : Table) (now : ℤ) : Request → Except Failure Table
  | .create username body => (newUserInput config (body.fields.getD []) now).bind (createUser table username)
  | .update username body =>
    match body.fields with
    | none => .error .typeError
    | some patch => updateUser table username patch now
  | .bulk usernames op value => bulk table usernames op value now
  | .reset username body =>
    match body.fields with
    | none => .error .typeError
    | some body => reset table username body now
  | .maintenance onExpiry batches => .ok (runMaintenance table onExpiry batches now)

/-- A request at its time. It may be refused before its statement, or the statement may fail. -/
structure Event where
  request : Request
  now : ℤ
  refused : Bool := false

def step? (config : Config) (table : Table) (event : Event) : Option Table :=
  if event.refused then some table
  else
    match perform config table event.now event.request with
    | .ok table => some table
    | .error _ => some table

def panel (config : Config) : Machine Table Event := ⟨step? config⟩

/-! ## What a row should hold -/

def Positive (value : Sql) : Prop := ∃ number, value = .number number ∧ 0 < number

def NotNegative (value : Sql) : Prop := ∃ number, value = .number number ∧ 0 ≤ number

def IntegerFrom (least : ℤ) (value : Sql) : Prop := ∃ number : ℤ, value = .number number ∧ least ≤ number

def NullOrNumber (value : Sql) : Prop := value = .null ∨ ∃ number, value = .number number

structure Row.Valid (row : Row) : Prop where
  quota_gb : Positive row.quota_gb
  expiry_days : Positive row.expiry_days
  device_limit : IntegerFrom 1 row.device_limit
  request_limit : IntegerFrom 0 row.request_limit
  used_bytes : NotNegative row.used_bytes
  requests_used : NotNegative row.requests_used
  expires_at : NullOrNumber row.expires_at

def AllValid (table : Table) : Prop := ∀ username row, table.get? username = some row → row.Valid

/-- What a column of the limits should hold. -/
def Fits (key : String) (value : Sql) : Prop :=
  match key with
  | "quota_gb" | "expiry_days" => Positive value
  | "device_limit" => IntegerFrom 1 value
  | "request_limit" => IntegerFrom 0 value
  | _ => True

/-- Above the least value that creation allows, a limit is a whole number. -/
def Whole (least : ℚ) (limit : Except Failure JsNumber) : Prop :=
  ∀ number, limit = .ok (.finite number) → least < number → ∃ whole : ℤ, number = whole

/-- Two numbers have a sum that is not too large for a double. -/
def Adds (a b : ℚ) : Prop := |toDouble a + toDouble b| < overflow

/-- Two numbers have a sum above zero, also as doubles, of which no two are nearer to each other. -/
def AddsPositive (a b : ℚ) : Prop := 0 < a + b ∧ 2 ^ (-1074 : ℤ) ≤ toDouble a + toDouble b ∧ Adds a b

/-- What a body asks for is nothing that a column should not hold, or it is refused: a new user has no
negative traffic and whole limits, an edit binds fitting values, and an extension leaves days in a range. -/
def Sensible (table : Table) (event : Event) : Prop :=
  match event.request with
  | .create _ body =>
    let raw := body.fields.getD []
    (∀ used, numberOr raw "used_bytes" 0 = .ok (.finite used) → 0 ≤ used) ∧
      Whole 1 (numberOr raw "device_limit" 3) ∧ Whole 0 (numberOr raw "request_limit" 0)
  | .update _ body =>
    ∀ entry ∈ body.fields.getD [], ∀ value, bind entry.2 = .ok value → value ≠ .null → Fits entry.1 (affinity (entry.1 = "quota_gb") value)
  | .bulk usernames "extend" value =>
    ∀ days, number value = .ok (.finite days) → ∀ username ∈ usernames, ∀ row, table.get? username = some row →
      (∀ held, row.expiry_days = .number held → AddsPositive held days) ∧
        ∀ due ms, coalesce row.expires_at (.number event.now) = .number due → daysInMs (.finite days) = .finite ms →
          Adds due ms
  | _ => True

/-! ## What the requests keep -/

section

variable {config : Config} {table after : Table} {username : String} {row input patched : Row} {now : ℤ}

theorem bind_ok {α β : Type} {first : Except Failure α} {second : α → Except Failure β} {result : β}
    (done : (first >>= second) = .ok result) : ∃ value, first = .ok value ∧ second value = .ok result := by
  cases first with
  | error failure => contradiction
  | ok value => exact ⟨value, rfl, done⟩

private theorem map_ok {α β : Type} {first : Except Failure α} {f : α → β} {result : β}
    (done : first.map f = .ok result) : ∃ value, first = .ok value ∧ f value = result := by
  cases first with
  | error failure => contradiction
  | ok value => exact ⟨value, rfl, Except.ok.inj done⟩

theorem deadline_cases (now : ℤ) (days : JsNumber) : NullOrNumber (deadline now days) := by
  unfold deadline
  cases daysInMs days with
  | finite ms =>
    dsimp only
    cases double (now + ms) with
    | finite value => exact .inr ⟨value, rfl⟩
    | nan => exact .inl rfl
    | infinity negative => exact .inl rfl
  | nan => exact .inl rfl
  | infinity negative => exact .inl rfl

private theorem positive_bound {number : JsNumber} (positive : number.positive = true) : Positive (bindNumber number) := by
  cases number with
  | finite value => exact ⟨value, rfl, of_decide_eq_true positive⟩
  | nan => contradiction
  | infinity negative => contradiction

/-- A limit that is stored is whole. -/
private theorem limit_bound (least : ℤ) {limit : JsNumber} (whole : Whole least (.ok limit))
    (filled : bindNumber (atLeast least limit) ≠ .null) : IntegerFrom least (bindNumber (atLeast least limit)) := by
  cases limit with
  | nan => exact absurd rfl filled
  | infinity negative =>
    cases negative with
    | true => exact ⟨least, rfl, le_refl _⟩
    | false => exact absurd rfl filled
  | finite value =>
    by_cases above : (least : ℚ) < value
    · obtain ⟨number, rfl⟩ := whole value rfl above
      refine ⟨number, ?_, by exact_mod_cast above.le⟩
      rw [atLeast, max_eq_right above.le, bindNumber]
    · refine ⟨least, ?_, le_refl _⟩
      rw [atLeast, max_eq_left (not_lt.mp above), bindNumber]

private theorem filled_of_check (checked : checkRow input = .ok row) : row = input ∧ .null ∉ input.required := by
  rw [checkRow] at checked
  split at checked
  · contradiction
  · next filled => exact ⟨(Except.ok.inj checked).symm, filled⟩

/-- A row that creation writes is valid if its traffic is not negative and its limits are whole. -/
theorem newUserInput_valid {raw : Fields} (created : newUserInput config raw now = .ok input)
    (filled : .null ∉ input.required)
    (traffic : ∀ used, numberOr raw "used_bytes" 0 = .ok (.finite used) → 0 ≤ used)
    (devices : Whole 1 (numberOr raw "device_limit" 3)) (requests : Whole 0 (numberOr raw "request_limit" 0)) :
    input.Valid := by
  rw [newUserInput] at created
  obtain ⟨quota, -, created⟩ := bind_ok created
  obtain ⟨days, -, created⟩ := bind_ok created
  split at created
  · contradiction
  · next quotaPositive =>
    split at created
    · contradiction
    · next daysPositive =>
      obtain ⟨used, usedIs, created⟩ := bind_ok created
      obtain ⟨limit, limitIs, created⟩ := bind_ok created
      obtain ⟨allowed, allowedIs, created⟩ := bind_ok created
      rw [limitIs] at devices
      rw [allowedIs] at requests
      have quotaPositive : quota.positive = true := by simpa using quotaPositive
      have daysPositive : days.positive = true := by simpa using daysPositive
      obtain rfl := Except.ok.inj created
      simp only [Row.required, List.mem_cons, List.not_mem_nil, or_false, not_or] at filled
      obtain ⟨-, usedFilled, -, devicesFilled, requestsFilled, -⟩ := filled
      refine ⟨positive_bound quotaPositive, positive_bound daysPositive, ?_, ?_, ?_, ⟨0, rfl, le_refl _⟩, ?_⟩
      · exact limit_bound 1 (by exact_mod_cast devices) (fun empty => devicesFilled (by exact_mod_cast empty.symm))
      · exact limit_bound 0 (by exact_mod_cast requests) (fun empty => requestsFilled (by exact_mod_cast empty.symm))
      · cases used with
        | finite used => exact ⟨used, rfl, traffic used usedIs⟩
        | nan => exact absurd rfl usedFilled
        | infinity negative => exact absurd rfl usedFilled
      · dsimp only
        split
        · exact deadline_cases now days
        · exact .inl rfl

theorem createUser_valid (valid : AllValid table) (created : createUser table username input = .ok after)
    (sound : .null ∉ input.required → input.Valid) : AllValid after := by
  rw [createUser] at created
  split at created
  · contradiction
  · obtain ⟨row, checked, rfl⟩ := map_ok created
    obtain ⟨rfl, filled⟩ := filled_of_check checked
    intro other held found
    rw [OrderedMap.get?_alter] at found
    split at found
    · exact Option.some.inj found ▸ sound filled
    · exact valid other held found

/-- One entry of a patch that fits keeps a row valid. -/
private theorem patchColumn_valid {entry : String × Js} (valid : row.Valid)
    (fits : ∀ value, bind entry.2 = .ok value → value ≠ .null → Fits entry.1 (affinity (entry.1 = "quota_gb") value))
    (patching : patchColumn row entry = .ok patched) : patched.Valid := by
  rw [patchColumn] at patching
  split at patching
  · exact Except.ok.inj patching ▸ valid
  · split at patching
    · rw [← Except.ok.inj patching]
      exact { valid with }
    · obtain ⟨value, bound, patching⟩ := bind_ok patching
      split at patching
      · contradiction
      · next filled =>
        have fitting := fits value bound filled
        rw [← Except.ok.inj patching, Row.set.eq_def]
        split
        · next key =>
          rw [key] at fitting
          exact { valid with quota_gb := fitting }
        · next key =>
          rw [key] at fitting
          exact { valid with expiry_days := fitting }
        · next key =>
          rw [key] at fitting
          exact { valid with device_limit := fitting }
        · next key =>
          rw [key] at fitting
          exact { valid with request_limit := fitting }
        · exact valid

private theorem patch_valid {patch : Fields} (valid : row.Valid)
    (fits : ∀ entry ∈ patch, ∀ value, bind entry.2 = .ok value → value ≠ .null → Fits entry.1 (affinity (entry.1 = "quota_gb") value))
    (patching : patch.foldlM patchColumn row = .ok patched) : patched.Valid := by
  induction patch generalizing row with
  | nil => exact Except.ok.inj patching ▸ valid
  | cons entry patch ih =>
    rw [List.foldlM_cons] at patching
    obtain ⟨next, first, rest⟩ := bind_ok patching
    exact ih (patchColumn_valid valid (fits entry List.mem_cons_self) first)
      (fun other found => fits other (List.mem_cons_of_mem _ found)) rest

theorem updateUser_valid {patch : Fields} (valid : AllValid table)
    (fits : ∀ entry ∈ patch, ∀ value, bind entry.2 = .ok value → value ≠ .null → Fits entry.1 (affinity (entry.1 = "quota_gb") value))
    (updated : updateUser table username patch now = .ok after) : AllValid after := by
  rw [updateUser] at updated
  split at updated
  · contradiction
  · next row found =>
    obtain ⟨patched, patching, rfl⟩ := map_ok updated
    rw [patchRow] at patching
    obtain ⟨middle, folded, patching⟩ := bind_ok patching
    have middleValid := patch_valid (valid username row found) fits folded
    have patchedValid : patched.Valid := by
      split at patching
      · exact Except.ok.inj patching ▸ middleValid
      · exact Except.ok.inj patching ▸ middleValid
      · obtain ⟨days, -, rfl⟩ := map_ok patching
        exact { middleValid with expires_at := deadline_cases now days }
    intro other held holds
    rw [OrderedMap.get?_alter] at holds
    split at holds
    · exact Option.some.inj holds ▸ patchedValid
    · exact valid other held holds

/-- A statement that rewrites rows keeps them valid if the rewritten rows with all required columns are. -/
theorem updateRows_valid {usernames : List String} {change : Row → Row} (valid : AllValid table)
    (sound : ∀ username ∈ usernames, ∀ row, table.get? username = some row → row.Valid →
      .null ∉ (change row).required → (change row).Valid)
    (updated : updateRows table usernames change = .ok after) : AllValid after := by
  rw [updateRows] at updated
  split at updated
  · next filled =>
    rw [← Except.ok.inj updated]
    intro username row found
    have required : .null ∉ row.required := by
      have listed := OrderedMap.mem_entries_iff.mpr found
      simpa using List.all_eq_true.mp filled _ listed
    rw [OrderedMap.get?_mapValues] at found
    obtain ⟨old, oldFound, rfl⟩ := Option.map_eq_some_iff.mp found
    by_cases named : username ∈ usernames
    · rw [if_pos named] at required ⊢
      exact sound username named old oldFound (valid username old oldFound) required
    · rw [if_neg named]
      exact valid username old oldFound
  · contradiction

/-- The sum of two numbers that is not too large. -/
private theorem add_number {left right : ℚ} (adds : Adds left right) :
    ∃ sum, (Sql.number left).add (.number right) = .number sum ∧ (AddsPositive left right → 0 < sum) := by
  change ∃ sum, addNumbers left right = .number sum ∧ _
  unfold addNumbers
  split
  · exact ⟨left + right, rfl, And.left⟩
  · refine ⟨toDouble (toDouble left + toDouble right), ?_, fun positive => toDouble_pos positive.2.1⟩
    delta stored
    rw [double_eq_finite_iff.mpr ⟨adds, rfl⟩]

/-- An extension in a range leaves a valid row; one that is no number is refused. -/
private theorem extend_valid {days : JsNumber} (valid : row.Valid) (filled : .null ∉ (row.extend days now).required)
    (range : ∀ amount, days = .finite amount →
      (∀ held, row.expiry_days = .number held → AddsPositive held amount) ∧
        ∀ due ms, coalesce row.expires_at (.number now) = .number due → daysInMs (.finite amount) = .finite ms →
          Adds due ms) :
    (row.extend days now).Valid := by
  obtain ⟨held, holds, -⟩ := valid.expiry_days
  -- a number that cannot be bound makes the days null
  have lost (empty : bindNumber days = .null) : False := by
    have unset : (row.extend days now).expiry_days = .null := by
      change row.expiry_days.add (bindNumber days) = .null
      rw [holds, empty]
      rfl
    exact filled (by simp [Row.required, unset])
  cases days with
  | nan => exact (lost rfl).elim
  | infinity negative => exact (lost rfl).elim
  | finite amount =>
    obtain ⟨daysRange, dueRange⟩ := range amount rfl
    have positive := daysRange held holds
    refine { valid with expiry_days := ?_, expires_at := ?_ }
    · obtain ⟨sum, added, above⟩ := add_number positive.2.2
      refine ⟨sum, ?_, above positive⟩
      change row.expiry_days.add (.number amount) = .number sum
      rw [holds, added]
    · have due : ∃ due, coalesce row.expires_at (.number now) = .number due := by
        rw [coalesce]
        split
        · exact ⟨_, rfl⟩
        · next held =>
          rcases valid.expires_at with absent | ⟨due, present⟩
          · exact absurd absent held
          · exact ⟨due, present⟩
      obtain ⟨due, isDue⟩ := due
      change NullOrNumber ((coalesce row.expires_at (.number now)).add (bindNumber (daysInMs (.finite amount))))
      rw [isDue]
      cases isMs : daysInMs (.finite amount) with
      | finite ms =>
        obtain ⟨sum, added, -⟩ := add_number (dueRange due ms isDue isMs)
        exact .inr ⟨sum, added⟩
      | nan => exact .inl rfl
      | infinity negative => exact .inl rfl

theorem bulk_valid {usernames : List String} {op : String} {value : Js} (valid : AllValid table)
    (sensible : op = "extend" → ∀ days, number value = .ok (.finite days) → ∀ username ∈ usernames, ∀ row,
      table.get? username = some row →
        (∀ held, row.expiry_days = .number held → AddsPositive held days) ∧
          ∀ due ms, coalesce row.expires_at (.number now) = .number due → daysInMs (.finite days) = .finite ms →
            Adds due ms)
    (done : bulk table usernames op value now = .ok after) : AllValid after := by
  rw [bulk.eq_def] at done
  split at done
  · contradiction
  · split at done
    · refine updateRows_valid valid ?_ done
      intro _ _ _ _ rowValid _
      exact { rowValid with }
    · refine updateRows_valid valid ?_ done
      intro _ _ _ _ rowValid _
      exact { rowValid with }
    · obtain rfl := Except.ok.inj done
      intro other row found
      exact valid other row (OrderedMap.get?_filter_eq_some_iff.mp found).1
    · refine updateRows_valid valid ?_ done
      intro _ _ _ _ rowValid _
      exact { rowValid with used_bytes := ⟨0, rfl, le_refl _⟩ }
    · refine updateRows_valid valid ?_ done
      intro _ _ _ _ rowValid _
      exact { rowValid with requests_used := ⟨0, rfl, le_refl _⟩ }
    · obtain ⟨days, isDays, done⟩ := bind_ok done
      refine updateRows_valid valid ?_ done
      intro username named row found rowValid filled
      apply extend_valid rowValid filled
      intro amount finite
      exact sensible rfl amount (by rw [isDays, finite]) username named row found
    · contradiction

theorem reset_valid {body : Fields} (valid : AllValid table) (done : reset table username body now = .ok after) :
    AllValid after := by
  rw [reset] at done
  obtain ⟨days, -, done⟩ := bind_ok done
  refine updateRows_valid valid ?_ done
  intro _ _ row _ rowValid _
  refine { rowValid with used_bytes := ?_, requests_used := ?_, expires_at := ?_ }
  · dsimp only
    split
    · exact rowValid.used_bytes
    · exact ⟨0, rfl, le_refl _⟩
  · dsimp only
    split
    · exact ⟨0, rfl, le_refl _⟩
    · exact rowValid.requests_used
  · cases days with
    | none => exact rowValid.expires_at
    | some days => exact deadline_cases now days

private theorem modify_valid {change : Row → Row} (valid : AllValid table) (keeps : ∀ row : Row, row.Valid → (change row).Valid) :
    AllValid (table.modify username change) := by
  intro other row found
  rw [OrderedMap.get?_modify] at found
  split at found
  · obtain ⟨old, oldFound, rfl⟩ := Option.map_eq_some_iff.mp found
    exact keeps old (valid _ old oldFound)
  · exact valid other row found

theorem expireUser_valid {onExpiry : String} (valid : AllValid table) (due : String × Sql) :
    AllValid (expireUser onExpiry now table due) := by
  rw [expireUser.eq_def]
  split
  · apply modify_valid valid
    intro row rowValid
    exact { rowValid with expires_at := deadline_cases now _, used_bytes := ⟨0, rfl, le_refl _⟩ }
  · intro other row found
    exact valid other row (OrderedMap.get?_filter_eq_some_iff.mp found).1
  · apply modify_valid valid
    intro row rowValid
    exact { rowValid with }

theorem runMaintenance_valid (valid : AllValid table) (onExpiry : String) (batches : ℕ) (now : ℤ) :
    AllValid (runMaintenance table onExpiry batches now) := by
  rw [runMaintenance]
  generalize (dueUsers table now).take (100 * batches) = due
  induction due generalizing table with
  | nil => exact valid
  | cons first rest ih =>
    rw [List.foldl_cons]
    exact ih (expireUser_valid valid first)

/-- A request whose body is sensible keeps every row valid. -/
theorem perform_valid {event : Event} (valid : AllValid table) (sensible : Sensible table event)
    (done : perform config table event.now event.request = .ok after) : AllValid after := by
  rw [Sensible] at sensible
  cases request : event.request with
  | create username body =>
    rw [request] at done sensible
    obtain ⟨traffic, devices, requests⟩ := sensible
    obtain ⟨input, made, created⟩ := bind_ok done
    exact createUser_valid valid created fun filled => newUserInput_valid made filled traffic devices requests
  | update username body =>
    rw [request] at done sensible
    rw [perform] at done
    split at done
    · contradiction
    · next patch fields =>
      dsimp only at sensible
      rw [fields] at sensible
      exact updateUser_valid valid sensible done
  | bulk usernames op value =>
    rw [request] at done sensible
    refine bulk_valid valid ?_ done
    rintro rfl
    exact sensible
  | reset username body =>
    rw [request] at done
    rw [perform] at done
    split at done
    · contradiction
    · exact reset_valid valid done
  | maintenance onExpiry batches =>
    rw [request] at done
    exact Except.ok.inj done ▸ runMaintenance_valid valid onExpiry batches event.now

end

/-- In a run of requests with sensible bodies every row is valid. -/
theorem rows_valid_of_sensible {config : Config} {table after : Table} {events : List Event} (valid : AllValid table)
    (run : (panel config).Run Sensible table events after) : AllValid after := by
  refine run.preserves AllValid ?_ valid
  intro before event next held sensible stepped
  change step? config before event = some next at stepped
  rw [step?] at stepped
  split at stepped
  · exact Option.some.inj stepped ▸ held
  · split at stepped
    · next done => exact Option.some.inj stepped ▸ perform_valid held sensible done
    · exact Option.some.inj stepped ▸ held

/-! ## A run -/

/-- A user is created with the defaults, then five devices are allowed. -/
def sensibleEvents : List Event :=
  [⟨.create "omni" (.object []), 0, false⟩,
    ⟨.update "omni" (.object [("device_limit", .number (.finite 5))]), 1, false⟩]

private theorem create_sensible (table : Table) : Sensible table ⟨.create "omni" (.object []), 0, false⟩ := by
  have used : numberOr [] "used_bytes" 0 = .ok (.finite 0) := rfl
  have devices : numberOr [] "device_limit" 3 = .ok (.finite 3) := rfl
  have requests : numberOr [] "request_limit" 0 = .ok (.finite 0) := rfl
  refine ⟨?_, ?_, ?_⟩
  · intro value isValue
    have zero : 0 = value := JsNumber.finite.inj (Except.ok.inj (used.symm.trans isValue))
    exact zero.le
  · intro value isValue _
    have three : 3 = value := JsNumber.finite.inj (Except.ok.inj (devices.symm.trans isValue))
    exact ⟨3, by rw [← three]; rfl⟩
  · intro value isValue _
    have zero : 0 = value := JsNumber.finite.inj (Except.ok.inj (requests.symm.trans isValue))
    exact ⟨0, by rw [← zero]; rfl⟩

private theorem update_sensible (table : Table) :
    Sensible table ⟨.update "omni" (.object [("device_limit", .number (.finite 5))]), 1, false⟩ := by
  intro entry found value bound _
  obtain rfl := List.mem_singleton.mp found
  obtain rfl : Sql.number 5 = value := Except.ok.inj bound
  exact ⟨5, rfl, by decide⟩

theorem sensible_events_valid : ∃ after, (panel {}).Run Sensible .empty sensibleEvents after ∧ AllValid after := by
  have moves (table : Table) (event : Event) : ∃ next, (panel {}).step? table event = some next := by
    change ∃ next, step? {} table event = some next
    rw [step?]
    split
    · exact ⟨_, rfl⟩
    · split <;> exact ⟨_, rfl⟩
  obtain ⟨created, first⟩ := moves .empty ⟨.create "omni" (.object []), 0, false⟩
  obtain ⟨after, second⟩ := moves created ⟨.update "omni" (.object [("device_limit", .number (.finite 5))]), 1, false⟩
  have run : (panel {}).Run Sensible .empty sensibleEvents after :=
    .cons (create_sensible _) first (.cons (update_sensible _) second (.nil after))
  exact ⟨after, run, rows_valid_of_sensible (fun _ _ found => by contradiction) run⟩

/-- An edit sets the quota to zero, and another one the limit of devices to a word. -/
theorem edited_row_invalid : ∃ after, (panel {}).Run Free .empty
    [⟨.create "omni" (.object []), 0, false⟩,
      ⟨.update "omni" (.object [("quota_gb", .number (.finite 0)), ("device_limit", .string "many")]), 1, false⟩] after ∧
    (after.get? "omni").map (fun row => (row.quota_gb, row.device_limit)) = some (.number 0, .text "many") ∧
    ¬ AllValid after := by
  have replayed : ((panel {}).replay? .empty [⟨.create "omni" (.object []), 0, false⟩,
      ⟨.update "omni" (.object [("quota_gb", .number (.finite 0)), ("device_limit", .string "many")]), 1, false⟩]).map
        (fun after => (after.get? "omni").map fun row => (row.quota_gb, row.device_limit)) =
          some (some (.number 0, .text "many")) := by decide +kernel
  obtain ⟨after, replayed, held⟩ := Option.map_eq_some_iff.mp replayed
  refine ⟨after, Run.free_iff_replay.mpr replayed, held, ?_⟩
  intro valid
  obtain ⟨row, found, columns⟩ := Option.map_eq_some_iff.mp held
  obtain ⟨quota, isQuota, positive⟩ := (valid "omni" row found).quota_gb
  rw [(Prod.mk.inj columns).1] at isQuota
  rw [← Sql.number.inj isQuota] at positive
  exact lt_irrefl _ positive

end OmniControlPlane.Panel.Columns
