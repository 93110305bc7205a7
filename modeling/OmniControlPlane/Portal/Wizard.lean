import OmniControlPlane.DataPlane.Profiles
import OmniControlPlane.Portal.Requests

/-! # The deployment wizard

The bot asks for the fields of a deployment one after the other. Text is checked at the step it answers;
the button for the default target of Reality is not, and can be pressed at any step. What the wizard
collected is sent to the handler that creates deployments, which checks all fields again.
-/

namespace OmniControlPlane.Portal.Wizard

open Lib
open DataPlane (isLowerAlphanumeric isLabel isValidHostname isValidWorkerName)
open Tenancy (CreateDeploymentInput)

/-! ## Checks of single values -/

/-- `toLowerCase`, which is the platform's. -/
structure LowerCase where
  toLowerCase : String → String
  idempotent : ∀ text, toLowerCase (toLowerCase text) = toLowerCase text
  lowered : ∀ text, (∀ char ∈ text.toList, isLowerAlphanumeric char = true ∨ char = '-' ∨ char = '.') →
    toLowerCase text = text
  numeric : ∀ text, (∀ char ∈ (toLowerCase text).toList, char.isDigit = true ∨ char = '.') → toLowerCase text = text

/-- `/^\d{1,3}$/u`, of a number up to 255 without leading zeros -/
def isOctet (part : List Char) : Bool :=
  1 ≤ part.length && part.length ≤ 3 && part.all (·.isDigit) && Nat.ofDigitChars 10 part 0 ≤ 255 &&
    Nat.toDigits 10 (Nat.ofDigitChars 10 part 0) = part

def isValidIpv4 (value : String) : Bool :=
  let parts := value.toList.splitOn '.'
  parts.length = 4 && parts.all isOctet

/-- The ranges that are not routed, by the first three numbers. -/
def isReserved (a b c : ℕ) : Bool :=
  a = 0 || a = 10 || a = 127 || 224 ≤ a || (a = 100 && 64 ≤ b && b ≤ 127) || (a = 169 && b = 254) ||
    (a = 172 && 16 ≤ b && b ≤ 31) || (a = 192 && b = 168) || (a = 198 && (b = 18 || b = 19)) ||
    (a = 192 && b = 0 && c = 0) || (a = 192 && b = 0 && c = 2) || (a = 198 && b = 51 && c = 100) ||
    (a = 203 && b = 0 && c = 113)

def isPublicIpv4 (value : String) : Bool :=
  isValidIpv4 value && match (value.toList.splitOn '.').map (Nat.ofDigitChars 10 · 0) with
    | a :: b :: c :: _ => !isReserved a b c
    | _ => false

/-- `/^[^\s@]+@[^\s@]+\.[^\s@]+$/u` -/
def isEmailText (text : List Char) : Bool :=
  text.all (fun char => !isJsSpace char) && match text.splitOn '@' with
    | [mailbox, domain] => mailbox ≠ [] && '.' ∈ domain.tail.dropLast
    | _ => false

def isValidEmail (value : String) : Bool := (utf16 value).length ≤ 254 && isEmailText value.toList

/-- `/^[a-f0-9]{32}$/u` -/
def isValidCloudflareId (value : String) : Bool :=
  value.toList.length = 32 && value.toList.all fun char => ('a' ≤ char && char ≤ 'f') || char.isDigit

/-- `/^[0-9a-f-]{36}$/u` -/
def isConnectionId (value : String) : Bool :=
  value.toList.length = 36 && value.toList.all fun char => ('a' ≤ char && char ≤ 'f') || char.isDigit || char = '-'

section

variable (lower : LowerCase)

/-- `value.trim().toLowerCase()` -/
def LowerCase.normalized (value : String) : String := lower.toLowerCase (String.ofList (trim value))

/-- `value.endsWith("." + zoneName.toLowerCase())` -/
def LowerCase.underZone (zoneName value : String) : Bool :=
  decide (("." ++ lower.toLowerCase zoneName).toList <:+ value.toList)

def validateWizardWorkerName (value : String) : Option String :=
  if isValidWorkerName (lower.normalized value) then none
  else some "نام Worker معتبر نیست؛ فقط حروف کوچک انگلیسی، عدد و خط‌تیره (مثل v13-my-node)."

def validateWizardSubdomain (value zoneName : String) (other : Option String) (label : String) : Option String :=
  if !isValidHostname (lower.normalized value) then some (label ++ " معتبر نیست.")
  else if !lower.underZone zoneName (lower.normalized value) then some (label ++ " باید زیردامنهٔ " ++ zoneName ++ " باشد.")
  else if other.getD "" ≠ "" ∧ lower.normalized value = other.getD "" then some "دو زیردامنه باید متفاوت باشند."
  else none

def validateWizardIpv4 (value : String) : Option String :=
  if isPublicIpv4 (String.ofList (trim value)) then none else some "فقط یک IPv4 عمومی و معتبر پذیرفته می‌شود."

def validateWizardEmail (value : String) : Option String :=
  if isValidEmail (lower.normalized value) then none else some "ایمیل معتبر نیست."

def validateWizardSni (value nodeHostname : String) : Option String :=
  if !isValidHostname (lower.normalized value) then some "مقصد Reality معتبر نیست."
  else if lower.normalized value = nodeHostname then some "مقصد Reality نباید خودِ همین نود باشد."
  else none

end

/-! ## The wizard -/

/-- A stored connection, with ids of the form that the API asks for. -/
structure BotConnectionBoundary where
  connectionId : String
  accountId : String
  zoneId : String
  zoneName : String
  connectionId_form : isConnectionId connectionId = true
  accountId_form : isValidCloudflareId accountId = true
  zoneId_form : isValidCloudflareId zoneId = true

inductive Step where
  | workerName
  | workerHostname
  | nodeHostname
  | vpsIpv4
  | acmeEmail
  | realitySNI
  | ufw
  | confirm
deriving DecidableEq, Repr

structure DeployWizardState extends BotConnectionBoundary where
  workerName : Option String := none
  workerHostname : Option String := none
  nodeHostname : Option String := none
  vpsIpv4 : Option String := none
  acmeEmail : Option String := none
  realityServerName : Option String := none
  enableUfw : Option Bool := none

structure ActiveWizard where
  step : Step
  state : DeployWizardState

def beginDeployWizard (boundary : BotConnectionBoundary) : ActiveWizard := ⟨.workerName, { boundary with }⟩

section

variable (lower : LowerCase)

/-- Free text at a step: the wizard it leaves, and the message when the text was rejected. -/
def processWizardText (wizard : ActiveWizard) (rawText : String) : ActiveWizard × Option String :=
  let state := wizard.state
  match wizard.step with
  | .workerName =>
    match validateWizardWorkerName lower rawText with
    | some error => (wizard, some error)
    | none => (⟨.workerHostname, { state with workerName := some (lower.normalized rawText) }⟩, none)
  | .workerHostname =>
    match validateWizardSubdomain lower rawText state.zoneName none "زیردامنهٔ اشتراک" with
    | some error => (wizard, some error)
    | none => (⟨.nodeHostname, { state with workerHostname := some (lower.normalized rawText) }⟩, none)
  | .nodeHostname =>
    match validateWizardSubdomain lower rawText state.zoneName state.workerHostname "زیردامنهٔ نود" with
    | some error => (wizard, some error)
    | none => (⟨.vpsIpv4, { state with nodeHostname := some (lower.normalized rawText) }⟩, none)
  | .vpsIpv4 =>
    match validateWizardIpv4 rawText with
    | some error => (wizard, some error)
    | none => (⟨.acmeEmail, { state with vpsIpv4 := some (String.ofList (trim rawText)) }⟩, none)
  | .acmeEmail =>
    match validateWizardEmail lower rawText with
    | some error => (wizard, some error)
    | none => (⟨.realitySNI, { state with acmeEmail := some (lower.normalized rawText) }⟩, none)
  | .realitySNI =>
    match validateWizardSni lower rawText (state.nodeHostname.getD "") with
    | some error => (wizard, some error)
    | none => (⟨.ufw, { state with realityServerName := some (lower.normalized rawText) }⟩, none)
  | .ufw => (wizard, none)
  | .confirm => (wizard, none)

def defaultTarget : String := "www.microsoft.com"

/-- The button for the default, which no handler ties to a step. -/
def applySniDefault (wizard : ActiveWizard) : ActiveWizard :=
  ⟨.ufw, { wizard.state with realityServerName := some defaultTarget }⟩

def applyUfwChoice (wizard : ActiveWizard) (enable : Bool) : ActiveWizard :=
  ⟨.confirm, { wizard.state with enableUfw := some enable }⟩

inductive Event where
  | text (rawText : String)
  | sniDefault
  | ufw (enable : Bool)
deriving DecidableEq

def play (wizard : ActiveWizard) : Event → ActiveWizard
  | .text rawText => (processWizardText lower wizard rawText).1
  | .sniDefault => applySniDefault wizard
  | .ufw enable => applyUfwChoice wizard enable

/-- The wizard after messages and presses. -/
def run (boundary : BotConnectionBoundary) (events : List Event) : ActiveWizard :=
  events.foldl (play lower) (beginDeployWizard boundary)

end

/-- What the confirm button sends, once all seven fields are set. -/
def DeployWizardState.body? (state : DeployWizardState) : Option Json := do
  let workerName ← state.workerName
  let workerHostname ← state.workerHostname
  let nodeHostname ← state.nodeHostname
  let vpsIpv4 ← state.vpsIpv4
  let acmeEmail ← state.acmeEmail
  let realityServerName ← state.realityServerName
  let enableUfw ← state.enableUfw
  return .object [("connectionId", .string state.connectionId), ("accountId", .string state.accountId),
    ("zoneId", .string state.zoneId), ("workerName", .string workerName), ("workerHostname", .string workerHostname),
    ("nodeHostname", .string nodeHostname), ("vpsIpv4", .string vpsIpv4), ("acmeEmail", .string acmeEmail),
    ("realityServerName", .string realityServerName), ("enableUfw", .bool enableUfw)]

/-! ## The API -/

def invalidInput (message : String) : HttpError := ⟨400, "invalid_input", message⟩

section

variable (lower : LowerCase)

def requiredString (value : Option Json) (field : String) (max : ℕ) : Except HttpError String :=
  match value with
  | some (.string text) =>
    if (utf16 text).length = 0 ∨ max < (utf16 text).length then .error (invalidInput (field ++ " is invalid"))
    else .ok (lower.normalized text)
  | _ => .error (invalidInput (field ++ " is invalid"))

/-- `first ?? second` -/
def nullish (first second : Option Json) : Option Json :=
  match first with
  | none | some .null => second
  | some value => some value

/-- `value === true` -/
def isTrue : Option Json → Bool
  | some (.bool value) => value
  | _ => false

def validateCreateDeployment (input : Json) : Except HttpError CreateDeploymentInput :=
  match input with
  | .object _ => do
    let connectionId ← requiredString lower (nullish (input.field? "connectionId") (input.field? "oauthConnectionId"))
      "connectionId" 36
    let accountId ← requiredString lower (input.field? "accountId") "accountId" 32
    let zoneId ← requiredString lower (input.field? "zoneId") "zoneId" 32
    let workerName ← requiredString lower (input.field? "workerName") "workerName" 64
    let workerHostname ← requiredString lower (input.field? "workerHostname") "workerHostname" 253
    let nodeHostname ← requiredString lower (input.field? "nodeHostname") "nodeHostname" 253
    let vpsIpv4 ← requiredString lower (input.field? "vpsIpv4") "vpsIpv4" 15
    let acmeEmail ← requiredString lower (input.field? "acmeEmail") "acmeEmail" 254
    let realityServerName ← requiredString lower (input.field? "realityServerName") "realityServerName" 253
    throwIf (isConnectionId connectionId = false) (invalidInput "connectionId is invalid")
    throwIf (isValidCloudflareId accountId = false ∨ isValidCloudflareId zoneId = false)
      (invalidInput "Cloudflare IDs are invalid")
    throwIf (isValidWorkerName workerName = false)
      (invalidInput "workerName must use lowercase letters, digits and hyphens")
    throwIf (isValidHostname workerHostname = false ∨ isValidHostname nodeHostname = false ∨
      isValidHostname realityServerName = false) (invalidInput "Hostnames are invalid")
    throwIf (workerHostname = nodeHostname) (invalidInput "Worker and node hostnames must differ")
    throwIf (isPublicIpv4 vpsIpv4 = false)
      (invalidInput "Only a globally routable public IPv4 address is accepted in this release")
    throwIf (isValidEmail acmeEmail = false) (invalidInput "ACME email is invalid")
    return { connectionId, accountId, zoneId, workerName, workerHostname, nodeHostname, vpsIpv4, acmeEmail,
             realityServerName, enableUfw := isTrue (input.field? "enableUfw") }
  | _ => .error (invalidInput "Expected an object")

/-- The checks of `createDeployment` on the names, in the zone it looked up. -/
def checkNames (zoneName : String) (input : CreateDeploymentInput) : Except HttpError Unit := do
  throwIf (lower.underZone zoneName input.workerHostname = false ∨ lower.underZone zoneName input.nodeHostname = false)
    ⟨400, "hostname_zone_mismatch", "Both hostnames must be subdomains of the selected zone"⟩
  throwIf (input.realityServerName = input.nodeHostname)
    ⟨400, "invalid_reality_target", "Reality handshake target must not point back to this VPS"⟩

/-- What the API makes of a request. -/
def createRequest (zoneName : String) (body : Json) : Except HttpError CreateDeploymentInput := do
  let input ← validateCreateDeployment lower body
  checkNames lower zoneName input
  return input

def Accepted (zoneName : String) (body : Json) : Prop := ∃ input, createRequest lower zoneName body = .ok input

end

/-! ## What the API accepts -/

theorem bind_ok_iff {α β : Type} {first : Except HttpError α} {next : α → Except HttpError β} {result : β} :
    (first >>= next) = .ok result ↔ ∃ value, first = .ok value ∧ next value = .ok result := by
  cases first with
  | error => exact ⟨nofun, fun ⟨_, given, _⟩ => nomatch given⟩
  | ok value =>
    constructor
    · exact fun given => ⟨value, rfl, given⟩
    · rintro ⟨_, given, later⟩
      cases given
      exact later

theorem throwIf_ok_iff {refused : Prop} [Decidable refused] {error : HttpError} {result : Unit} :
    throwIf refused error = .ok result ↔ ¬ refused := by
  by_cases given : refused <;> simp [throwIf, given]

section

variable {lower : LowerCase} {zoneName : String} {body : Json} {input : CreateDeploymentInput}

/-- All that the API asks of a request. -/
structure Passes (lower : LowerCase) (zoneName : String) (body : Json) (input : CreateDeploymentInput) : Prop where
  connectionId : requiredString lower (nullish (body.field? "connectionId") (body.field? "oauthConnectionId"))
    "connectionId" 36 = .ok input.connectionId
  accountId : requiredString lower (body.field? "accountId") "accountId" 32 = .ok input.accountId
  zoneId : requiredString lower (body.field? "zoneId") "zoneId" 32 = .ok input.zoneId
  workerName : requiredString lower (body.field? "workerName") "workerName" 64 = .ok input.workerName
  workerHostname : requiredString lower (body.field? "workerHostname") "workerHostname" 253 = .ok input.workerHostname
  nodeHostname : requiredString lower (body.field? "nodeHostname") "nodeHostname" 253 = .ok input.nodeHostname
  vpsIpv4 : requiredString lower (body.field? "vpsIpv4") "vpsIpv4" 15 = .ok input.vpsIpv4
  acmeEmail : requiredString lower (body.field? "acmeEmail") "acmeEmail" 254 = .ok input.acmeEmail
  realityServerName : requiredString lower (body.field? "realityServerName") "realityServerName" 253 =
    .ok input.realityServerName
  ids : isConnectionId input.connectionId = true ∧ isValidCloudflareId input.accountId = true ∧
    isValidCloudflareId input.zoneId = true
  worker : isValidWorkerName input.workerName = true
  hostnames : isValidHostname input.workerHostname = true ∧ isValidHostname input.nodeHostname = true ∧
    isValidHostname input.realityServerName = true
  distinct : input.workerHostname ≠ input.nodeHostname
  address : isPublicIpv4 input.vpsIpv4 = true
  email : isValidEmail input.acmeEmail = true
  zone : lower.underZone zoneName input.workerHostname = true ∧ lower.underZone zoneName input.nodeHostname = true
  target : input.realityServerName ≠ input.nodeHostname

theorem accepted_iff (fields : List (String × Json)) :
    Accepted lower zoneName (.object fields) ↔ ∃ input, Passes lower zoneName (.object fields) input := by
  constructor
  · rintro ⟨input, created⟩
    simp only [createRequest, validateCreateDeployment, checkNames, bind_ok_iff, throwIf_ok_iff, pure, Except.pure,
      Except.ok.injEq, exists_const, not_or, Bool.not_eq_false] at created
    obtain ⟨validated, ⟨connectionId, first, accountId, second, zoneId, third, workerName, fourth, workerHostname, fifth,
      nodeHostname, sixth, vpsIpv4, seventh, acmeEmail, eighth, realityServerName, ninth, checks⟩, ⟨zone, target⟩, same⟩ :=
      created
    obtain ⟨ids, accounts, worker, hostnames, distinct, address, email, filled⟩ := checks
    subst same
    subst filled
    refine ⟨⟨connectionId, accountId, zoneId, workerName, workerHostname, nodeHostname, vpsIpv4, acmeEmail,
      realityServerName, _⟩, first, second, third, fourth, fifth, sixth, seventh, eighth, ninth, ⟨ids, accounts⟩, worker,
      hostnames, distinct, address, email, zone, target⟩
  · rintro ⟨input, passes⟩
    refine ⟨{ input with enableUfw := isTrue ((Json.object fields).field? "enableUfw") }, bind_ok_iff.mpr ⟨_, ?_, bind_ok_iff.mpr ⟨(), ?_, rfl⟩⟩⟩
    · rw [validateCreateDeployment]
      refine bind_ok_iff.mpr ⟨_, passes.connectionId, bind_ok_iff.mpr ⟨_, passes.accountId, bind_ok_iff.mpr ⟨_,
        passes.zoneId, bind_ok_iff.mpr ⟨_, passes.workerName, bind_ok_iff.mpr ⟨_, passes.workerHostname,
        bind_ok_iff.mpr ⟨_, passes.nodeHostname, bind_ok_iff.mpr ⟨_, passes.vpsIpv4, bind_ok_iff.mpr ⟨_,
        passes.acmeEmail, bind_ok_iff.mpr ⟨_, passes.realityServerName, ?_⟩⟩⟩⟩⟩⟩⟩⟩⟩
      simp only [throwIf, passes.ids, passes.worker, passes.hostnames, passes.distinct, passes.address, passes.email,
        Bool.true_eq_false, or_self, if_false]
      rfl
    · simp only [checkNames, throwIf, passes.zone, passes.target, Bool.true_eq_false, or_self, if_false]
      rfl

theorem accepted_passes (accepted : Accepted lower zoneName body) : ∃ input, Passes lower zoneName body input := by
  cases body with
  | object fields => exact (accepted_iff fields).mp accepted
  | null | bool | number | decimal | string | array =>
    obtain ⟨input, created⟩ := accepted
    obtain ⟨_, validated, -⟩ := bind_ok_iff.mp created
    contradiction

theorem requiredString_ok {value : Option Json} {field : String} {max : ℕ} {result : String}
    (read : requiredString lower value field max = .ok result) :
    ∃ raw, value = some (.string raw) ∧ result = lower.normalized raw := by
  unfold requiredString at read
  split at read
  · next raw =>
    split at read
    · contradiction
    · exact ⟨raw, rfl, (Except.ok.inj read).symm⟩
  · contradiction

/-- A required field that holds a text is that text, trimmed and in lower case. -/
theorem requiredString_text {raw field result : String} {max : ℕ} {value : Option Json}
    (given : value = some (.string raw)) (read : requiredString lower value field max = .ok result) :
    result = lower.normalized raw := by
  obtain ⟨raw', given', rfl⟩ := requiredString_ok read
  obtain rfl := Json.string.inj (Option.some.inj (given.symm.trans given'))
  rfl

/-! ## Characters -/

def isPlain (char : Char) : Prop := isLowerAlphanumeric char = true ∨ char = '-' ∨ char = '.'

theorem isPlain_of_digit {char : Char} (digit : char.isDigit = true) : isPlain char := by
  simp only [Char.isDigit, Bool.and_eq_true, decide_eq_true_eq, ge_iff_le] at digit
  refine .inl ?_
  simp only [isLowerAlphanumeric, Bool.or_eq_true, Bool.and_eq_true, decide_eq_true_eq]
  exact .inr digit

theorem isPlain_ascii {char : Char} (plain : isPlain char) : char.toNat < 0x80 := by
  rcases plain with letter | rfl | rfl
  · simp only [isLowerAlphanumeric, Bool.or_eq_true, Bool.and_eq_true, decide_eq_true_eq, Char.le_def,
      UInt32.le_iff_toNat_le] at letter
    change _ ≤ char.toNat ∧ char.toNat ≤ 122 ∨ _ ≤ char.toNat ∧ char.toNat ≤ 57 at letter
    omega
  · decide
  · decide

theorem isPlain_printed {char : Char} (plain : isPlain char) : isJsSpace char = false := by
  have table : ∀ code < 0x80, isPlain (Char.ofNat code) → isJsSpace (Char.ofNat code) = false := by
    unfold isPlain
    decide
  have known := table char.toNat (isPlain_ascii plain)
  rw [Char.ofNat_toNat] at known
  exact known plain

/-- A text of plain characters has one code unit for each. -/
theorem utf16_length {text : String} (plain : ∀ char ∈ text.toList, isPlain char) :
    (utf16 text).length = text.toList.length :=
  Ascii.utf16_length fun char member => isPlain_ascii (plain char member)

theorem normalized_plain {text : String} (plain : ∀ char ∈ text.toList, isPlain char) : lower.normalized text = text := by
  rw [LowerCase.normalized, trim_of_no_space fun char member => isPlain_printed (plain char member),
    String.ofList_toList]
  exact lower.lowered text plain

theorem requiredString_plain {text field : String} {max : ℕ} (plain : ∀ char ∈ text.toList, isPlain char)
    (size : 0 < text.toList.length ∧ text.toList.length ≤ max) :
    requiredString lower (some (.string text)) field max = .ok text := by
  rw [requiredString, utf16_length plain, if_neg (by omega), normalized_plain plain]

theorem mem_intercalate {separator : Char} {parts : List (List Char)} {char : Char}
    (member : char ∈ List.intercalate [separator] parts) : char = separator ∨ ∃ part ∈ parts, char ∈ part := by
  induction parts with
  | nil => contradiction
  | cons part rest ih =>
    cases rest with
    | nil =>
      rw [List.intercalate_singleton] at member
      exact .inr ⟨part, List.mem_cons_self, member⟩
    | cons next rest =>
      rw [List.intercalate_cons_cons, List.append_assoc, List.mem_append, List.mem_append] at member
      rcases member with here | gap | later
      · exact .inr ⟨part, List.mem_cons_self, here⟩
      · exact .inl (List.mem_singleton.mp gap)
      · exact (ih later).imp id fun ⟨other, inRest, inPart⟩ => ⟨other, List.mem_cons_of_mem _ inRest, inPart⟩

theorem mem_splitOn (separator : Char) {char : Char} {text : List Char} (member : char ∈ text) :
    char = separator ∨ ∃ part ∈ text.splitOn separator, char ∈ part :=
  mem_intercalate (by rwa [List.intercalate_splitOn])

theorem hostname_plain {name : String} (valid : isValidHostname name = true) : ∀ char ∈ name.toList, isPlain char := by
  simp only [isValidHostname, Bool.and_eq_true, List.all_eq_true] at valid
  intro char member
  rcases mem_splitOn '.' member with dot | ⟨label, inSplit, inLabel⟩
  · exact .inr (.inr dot)
  · have letters := valid.2 label inSplit
    simp only [isLabel, Bool.and_eq_true, List.all_eq_true, Bool.or_eq_true, decide_eq_true_eq] at letters
    exact (letters.1.1.2 char inLabel).imp id .inl

theorem hostname_size {name : String} (valid : isValidHostname name = true) :
    0 < name.toList.length ∧ name.toList.length ≤ 253 := by
  have plain := hostname_plain valid
  simp only [isValidHostname, Bool.and_eq_true, decide_eq_true_eq, utf16_length plain] at valid
  exact ⟨List.length_pos_of_mem valid.1.2, valid.1.1⟩

theorem workerName_plain {name : String} (valid : isValidWorkerName name = true) :
    (∀ char ∈ name.toList, isPlain char) ∧ 0 < name.toList.length ∧ name.toList.length ≤ 64 := by
  simp only [isValidWorkerName, Bool.and_eq_true, List.all_eq_true, Bool.or_eq_true, decide_eq_true_eq] at valid
  exact ⟨fun char member => (valid.1.1.2 char member).imp id .inl, by omega, by omega⟩

theorem hexLetter_plain {char : Char} (letter : 'a' ≤ char ∧ char ≤ 'f') : isPlain char := by
  refine .inl ?_
  simp only [isLowerAlphanumeric, Bool.or_eq_true, Bool.and_eq_true, decide_eq_true_eq]
  exact .inl ⟨letter.1, Char.le_trans letter.2 (by decide)⟩

theorem connectionId_plain {id : String} (valid : isConnectionId id = true) :
    (∀ char ∈ id.toList, isPlain char) ∧ id.toList.length = 36 := by
  simp only [isConnectionId, Bool.and_eq_true, List.all_eq_true, Bool.or_eq_true, decide_eq_true_eq] at valid
  refine ⟨fun char member => ?_, valid.1⟩
  rcases valid.2 char member with (letter | digit) | dash
  · exact hexLetter_plain letter
  · exact isPlain_of_digit digit
  · exact .inr (.inl dash)

theorem cloudflareId_plain {id : String} (valid : isValidCloudflareId id = true) :
    (∀ char ∈ id.toList, isPlain char) ∧ id.toList.length = 32 := by
  simp only [isValidCloudflareId, Bool.and_eq_true, List.all_eq_true, Bool.or_eq_true, decide_eq_true_eq] at valid
  refine ⟨fun char member => ?_, valid.1⟩
  rcases valid.2 char member with letter | digit
  · exact hexLetter_plain letter
  · exact isPlain_of_digit digit

theorem ipv4_numeric {address : String} (valid : isValidIpv4 address = true) :
    ∀ char ∈ address.toList, char.isDigit = true ∨ char = '.' := by
  simp only [isValidIpv4, Bool.and_eq_true, List.all_eq_true] at valid
  intro char member
  rcases mem_splitOn '.' member with dot | ⟨part, inSplit, inPart⟩
  · exact .inr dot
  · have octet := valid.2 part inSplit
    simp only [isOctet, Bool.and_eq_true, List.all_eq_true] at octet
    exact .inl (octet.1.1.2 char inPart)

theorem ipv4_plain {address : String} (valid : isValidIpv4 address = true) : ∀ char ∈ address.toList, isPlain char :=
  fun char member => (ipv4_numeric valid char member).elim isPlain_of_digit fun dot => .inr (.inr dot)

theorem ipv4_size {address : String} (valid : isValidIpv4 address = true) :
    0 < address.toList.length ∧ address.toList.length ≤ 15 := by
  simp only [isValidIpv4, Bool.and_eq_true, List.all_eq_true, decide_eq_true_eq] at valid
  have joined : List.intercalate ['.'] (address.toList.splitOn '.') = address.toList := List.intercalate_splitOn '.'
  obtain ⟨a, b, c, d, split⟩ := List.length_eq_four.mp valid.1
  have short (part : List Char) (member : part ∈ [a, b, c, d]) : part.length ≤ 3 := by
    have octet := valid.2 part (split ▸ member)
    simp only [isOctet, Bool.and_eq_true, decide_eq_true_eq] at octet
    exact octet.1.1.1.2
  have first := short a (by simp)
  have second := short b (by simp)
  have third := short c (by simp)
  have fourth := short d (by simp)
  rw [split] at joined
  have length := congrArg List.length joined
  simp only [List.intercalate_cons_cons, List.intercalate_singleton, List.length_append, List.length_singleton] at length
  omega

/-- What is a public address in lower case was one before. -/
theorem isPublicIpv4_lower {text : String} (valid : isPublicIpv4 (lower.toLowerCase text) = true) :
    lower.toLowerCase text = text := by
  simp only [isPublicIpv4, Bool.and_eq_true] at valid
  exact lower.numeric text (ipv4_numeric valid.1)

theorem isValidEmail_printed {text : String} (valid : isValidEmail text = true) :
    0 < (utf16 text).length ∧ (utf16 text).length ≤ 254 ∧ ∀ char ∈ text.toList, isJsSpace char = false := by
  simp only [isValidEmail, isEmailText, Bool.and_eq_true, List.all_eq_true, decide_eq_true_eq] at valid
  refine ⟨?_, valid.1, fun char member => by simpa using valid.2.1 char member⟩
  cases given : text.toList with
  | nil =>
    have shape := valid.2.2
    rw [given] at shape
    contradiction
  | cons first rest =>
    have unit : 0 < (utf16Char first).length := by
      unfold utf16Char
      split <;> simp
    rw [utf16, given, List.flatMap_cons, List.length_append]
    omega

/-! ## What the wizard rejects -/

theorem worker_rejected {raw : String} (given : body.field? "workerName" = some (.string raw))
    (rejected : validateWizardWorkerName lower raw ≠ none) : ¬ Accepted lower zoneName body := by
  intro accepted
  obtain ⟨input, passes⟩ := accepted_passes accepted
  have worker := passes.worker
  rw [requiredString_text given passes.workerName] at worker
  exact rejected (if_pos worker)

theorem workerHostname_rejected {raw label : String} (given : body.field? "workerHostname" = some (.string raw))
    (rejected : validateWizardSubdomain lower raw zoneName none label ≠ none) : ¬ Accepted lower zoneName body := by
  intro accepted
  obtain ⟨input, passes⟩ := accepted_passes accepted
  have hostname := passes.hostnames.1
  have zone := passes.zone.1
  rw [requiredString_text given passes.workerHostname] at hostname zone
  apply rejected
  rw [validateWizardSubdomain, hostname, zone]
  rfl

theorem nodeHostname_rejected {raw other label : String} (given : body.field? "nodeHostname" = some (.string raw))
    (before : body.field? "workerHostname" = some (.string other))
    (rejected : validateWizardSubdomain lower raw zoneName (some (lower.normalized other)) label ≠ none) :
    ¬ Accepted lower zoneName body := by
  intro accepted
  obtain ⟨input, passes⟩ := accepted_passes accepted
  have hostname := passes.hostnames.2.1
  have zone := passes.zone.2
  have distinct := passes.distinct
  rw [requiredString_text given passes.nodeHostname] at hostname zone distinct
  rw [requiredString_text before passes.workerHostname] at distinct
  apply rejected
  rw [validateWizardSubdomain, hostname, zone]
  exact if_neg fun same : _ ∧ _ => distinct same.2.symm

theorem vpsIpv4_rejected {raw : String} (given : body.field? "vpsIpv4" = some (.string raw))
    (rejected : validateWizardIpv4 raw ≠ none) : ¬ Accepted lower zoneName body := by
  intro accepted
  obtain ⟨input, passes⟩ := accepted_passes accepted
  have address := passes.address
  rw [requiredString_text given passes.vpsIpv4, LowerCase.normalized] at address
  have same := isPublicIpv4_lower address
  rw [same] at address
  exact rejected (if_pos address)

theorem acmeEmail_rejected {raw : String} (given : body.field? "acmeEmail" = some (.string raw))
    (rejected : validateWizardEmail lower raw ≠ none) : ¬ Accepted lower zoneName body := by
  intro accepted
  obtain ⟨input, passes⟩ := accepted_passes accepted
  have email := passes.email
  rw [requiredString_text given passes.acmeEmail] at email
  exact rejected (if_pos email)

theorem sni_rejected {raw node : String} (given : body.field? "realityServerName" = some (.string raw))
    (before : body.field? "nodeHostname" = some (.string node))
    (rejected : validateWizardSni lower raw (lower.normalized node) ≠ none) : ¬ Accepted lower zoneName body := by
  intro accepted
  obtain ⟨input, passes⟩ := accepted_passes accepted
  have hostname := passes.hostnames.2.2
  have target := passes.target
  rw [requiredString_text given passes.realityServerName] at hostname target
  rw [requiredString_text before passes.nodeHostname] at target
  apply rejected
  rw [validateWizardSni, hostname]
  exact if_neg target

end

/-! ## Runs of the wizard -/

section

variable {lower : LowerCase} {boundary : BotConnectionBoundary} {wizard : ActiveWizard}

/-- The default target was chosen, and is the node itself. -/
def Clash (state : DeployWizardState) : Prop :=
  state.realityServerName = some defaultTarget ∧ state.nodeHostname = some defaultTarget

/-- What the wizard holds passed the check of its step; a target is only set behind the names. -/
structure Kept (lower : LowerCase) (boundary : BotConnectionBoundary) (wizard : ActiveWizard) : Prop where
  bound : wizard.state.toBotConnectionBoundary = boundary
  workerName : ∀ name ∈ wizard.state.workerName, isValidWorkerName name = true
  workerHostname : ∀ name ∈ wizard.state.workerHostname,
    isValidHostname name = true ∧ lower.underZone boundary.zoneName name = true
  nodeHostname : ∀ name ∈ wizard.state.nodeHostname,
    isValidHostname name = true ∧ lower.underZone boundary.zoneName name = true
  distinct : ∀ name ∈ wizard.state.nodeHostname, name ∉ wizard.state.workerHostname
  vpsIpv4 : ∀ address ∈ wizard.state.vpsIpv4, isPublicIpv4 address = true
  acmeEmail : ∀ email ∈ wizard.state.acmeEmail, isValidEmail email = true ∧ lower.toLowerCase email = email
  target : ∀ name ∈ wizard.state.realityServerName, isValidHostname name = true ∧
    (some name = wizard.state.nodeHostname → name = defaultTarget)
  noNode : wizard.step = .workerName ∨ wizard.step = .workerHostname ∨ wizard.step = .nodeHostname →
    wizard.state.nodeHostname = none
  noTarget : wizard.state.realityServerName ≠ none → wizard.step = .ufw ∨ wizard.step = .confirm

theorem subdomain_accepted {value zoneName label : String} {other : Option String}
    (accepted : validateWizardSubdomain lower value zoneName other label = none) :
    isValidHostname (lower.normalized value) = true ∧ lower.underZone zoneName (lower.normalized value) = true ∧
      (lower.normalized value ∉ other) := by
  unfold validateWizardSubdomain at accepted
  split at accepted
  · contradiction
  next valid =>
    split at accepted
    · contradiction
    next under =>
      split at accepted
      · contradiction
      next distinct =>
        simp only [Bool.not_eq_true', Bool.not_eq_false] at valid under
        refine ⟨valid, under, fun member => distinct ?_⟩
        rw [Option.mem_def] at member
        rw [member]
        refine ⟨fun empty => ?_, rfl⟩
        have size := (hostname_size valid).1
        rw [show lower.normalized value = "" from empty] at size
        contradiction

theorem sni_accepted {value node : String} (accepted : validateWizardSni lower value node = none) :
    isValidHostname (lower.normalized value) = true ∧ lower.normalized value ≠ node := by
  unfold validateWizardSni at accepted
  split at accepted
  · contradiction
  next valid =>
    split at accepted
    · contradiction
    next different => exact ⟨by simpa using valid, different⟩

theorem defaultTarget_valid : isValidHostname defaultTarget = true := by decide +kernel

theorem kept_begin : Kept lower boundary (beginDeployWizard boundary) := by
  constructor <;> simp [beginDeployWizard]

/-- Text keeps the fields valid, and never makes the node its own target. -/
theorem kept_text (kept : Kept lower boundary wizard) (rawText : String) :
    Kept lower boundary (processWizardText lower wizard rawText).1 ∧
      (Clash (processWizardText lower wizard rawText).1.state ↔ Clash wizard.state) := by
  obtain ⟨step, state⟩ := wizard
  have early (before : step ≠ .ufw ∧ step ≠ .confirm) : state.realityServerName = none := by
    by_contra set
    exact (kept.noTarget set).elim before.1 before.2
  cases step with
  | workerName =>
    have noTarget := early (by decide)
    cases checked : validateWizardWorkerName lower rawText with
    | some error => simpa [processWizardText, checked] using kept
    | none =>
      have valid : isValidWorkerName (lower.normalized rawText) = true := by
        by_contra invalid
        rw [validateWizardWorkerName, if_neg invalid] at checked
        contradiction
      simp only [processWizardText, checked]
      exact ⟨{ kept with workerName := by simpa using valid, noNode := fun _ => kept.noNode (.inl rfl),
                         noTarget := fun set => absurd noTarget set }, Iff.rfl⟩
  | workerHostname =>
    have noTarget := early (by decide)
    have noNode := kept.noNode (.inr (.inl rfl))
    cases checked : validateWizardSubdomain lower rawText state.zoneName none "زیردامنهٔ اشتراک" with
    | some error => simpa [processWizardText, checked] using kept
    | none =>
      obtain ⟨valid, under, -⟩ := subdomain_accepted checked
      simp only [processWizardText, checked]
      refine ⟨{ kept with workerHostname := ?_, distinct := ?_, noNode := fun _ => noNode,
                          noTarget := fun set => absurd noTarget set }, Iff.rfl⟩
      · intro name member
        obtain rfl := Option.some.inj member
        exact ⟨valid, kept.bound ▸ under⟩
      · intro name member
        rw [show state.nodeHostname = none from noNode] at member
        contradiction
  | nodeHostname =>
    have noTarget := early (by decide)
    cases checked : validateWizardSubdomain lower rawText state.zoneName state.workerHostname "زیردامنهٔ نود" with
    | some error => simpa [processWizardText, checked] using kept
    | none =>
      obtain ⟨valid, under, distinct⟩ := subdomain_accepted checked
      simp only [processWizardText, checked]
      refine ⟨{ kept with nodeHostname := ?_, distinct := ?_, target := ?_, noNode := by simp,
                          noTarget := fun set => absurd noTarget set }, ?_⟩
      · intro name member
        obtain rfl := Option.some.inj member
        exact ⟨valid, kept.bound ▸ under⟩
      · intro name member
        obtain rfl := Option.some.inj member
        exact distinct
      · intro name member
        rw [show state.realityServerName = none from noTarget] at member
        contradiction
      · simp [Clash, noTarget]
  | vpsIpv4 =>
    have noTarget := early (by decide)
    cases checked : validateWizardIpv4 rawText with
    | some error => simpa [processWizardText, checked] using kept
    | none =>
      have valid : isPublicIpv4 (String.ofList (trim rawText)) = true := by
        by_contra invalid
        rw [validateWizardIpv4, if_neg invalid] at checked
        contradiction
      simp only [processWizardText, checked]
      exact ⟨{ kept with vpsIpv4 := by simpa using valid, noNode := by simp,
                         noTarget := fun set => absurd noTarget set }, Iff.rfl⟩
  | acmeEmail =>
    have noTarget := early (by decide)
    cases checked : validateWizardEmail lower rawText with
    | some error => simpa [processWizardText, checked] using kept
    | none =>
      have valid : isValidEmail (lower.normalized rawText) = true := by
        by_contra invalid
        rw [validateWizardEmail, if_neg invalid] at checked
        contradiction
      simp only [processWizardText, checked]
      refine ⟨{ kept with acmeEmail := ?_, noNode := by simp, noTarget := fun set => absurd noTarget set }, Iff.rfl⟩
      intro email member
      obtain rfl := Option.some.inj member
      exact ⟨valid, lower.idempotent _⟩
  | realitySNI =>
    have noTarget := early (by decide)
    cases checked : validateWizardSni lower rawText (state.nodeHostname.getD "") with
    | some error => simpa [processWizardText, checked] using kept
    | none =>
      obtain ⟨valid, different⟩ := sni_accepted checked
      have elsewhere : some (lower.normalized rawText) ≠ state.nodeHostname := by
        intro same
        rw [← same] at different
        exact different rfl
      simp only [processWizardText, checked]
      refine ⟨{ kept with target := ?_, noNode := by simp, noTarget := fun _ => .inl rfl }, ?_⟩
      · intro name member
        obtain rfl := Option.some.inj member
        exact ⟨valid, fun same => absurd same elsewhere⟩
      · constructor
        · rintro ⟨target, node⟩
          exact absurd (target.trans node.symm) elsewhere
        · rintro ⟨target, -⟩
          rw [show state.realityServerName = none from noTarget] at target
          contradiction
  | ufw => exact ⟨kept, Iff.rfl⟩
  | confirm => exact ⟨kept, Iff.rfl⟩

/-- One message or press. -/
theorem kept_play (kept : Kept lower boundary wizard) (event : Event) :
    Kept lower boundary (play lower wizard event) ∧ (Clash (play lower wizard event).state ↔
      Clash wizard.state ∨ event = .sniDefault ∧ wizard.state.nodeHostname = some defaultTarget) := by
  cases event with
  | text rawText =>
    obtain ⟨kept', clash⟩ := kept_text kept rawText
    exact ⟨kept', by simpa [play] using clash⟩
  | sniDefault =>
    refine ⟨{ kept with target := ?_, noNode := by simp [play, applySniDefault], noTarget := fun _ => .inl rfl }, ?_⟩
    · intro name member
      obtain rfl := Option.some.inj member
      exact ⟨defaultTarget_valid, fun _ => rfl⟩
    · simp only [play, applySniDefault, Clash, true_and]
      exact ⟨.inr, fun clash => clash.elim (·.2) id⟩
  | ufw enable =>
    refine ⟨{ kept with noNode := by simp [play, applyUfwChoice], noTarget := fun _ => .inr rfl }, ?_⟩
    simp [play, applyUfwChoice, Clash]

/-- The button for the default is not pressed while the node has the name of the default target. -/
def DefaultAllowed (lower : LowerCase) (boundary : BotConnectionBoundary) (events : List Event) : Prop :=
  ∀ done rest, events = done ++ .sniDefault :: rest → (run lower boundary done).state.nodeHostname ≠ some defaultTarget

theorem kept_run (events : List Event) : Kept lower boundary (run lower boundary events) ∧
    (Clash (run lower boundary events).state ↔ ¬ DefaultAllowed lower boundary events) := by
  induction events using List.reverseRecOn with
  | nil =>
    refine ⟨kept_begin, ?_⟩
    simp [run, beginDeployWizard, Clash, DefaultAllowed]
  | append_singleton events event ih =>
    obtain ⟨kept, clash⟩ := ih
    obtain ⟨kept', clash'⟩ := kept_play kept event
    have last : run lower boundary (events ++ [event]) = play lower (run lower boundary events) event := by
      rw [run, List.foldl_append]
      rfl
    rw [last]
    have extended : DefaultAllowed lower boundary (events ++ [event]) ↔ DefaultAllowed lower boundary events ∧
        ¬ (event = .sniDefault ∧ (run lower boundary events).state.nodeHostname = some defaultTarget) := by
      constructor
      · intro allowed
        refine ⟨fun done rest split => allowed done (rest ++ [event]) (by rw [split]; simp), ?_⟩
        rintro ⟨rfl, node⟩
        exact allowed events [] rfl node
      · rintro ⟨allowed, now⟩ done rest split
        rcases List.eq_nil_or_concat rest with rfl | ⟨front, final, rfl⟩
        · obtain ⟨rfl, same⟩ := List.append_inj' split rfl
          exact fun node => now ⟨List.singleton_inj.mp same, node⟩
        · rw [List.concat_eq_append, ← List.cons_append, ← List.append_assoc] at split
          exact allowed done front (List.append_inj' split rfl).1
    rw [extended, not_and_or, not_not]
    exact ⟨kept', clash'.trans (or_congr clash Iff.rfl)⟩

/-- The API accepts what the wizard collected, unless the node is its own target. -/
theorem accepted_body (kept : Kept lower boundary wizard) {body : Json} (filled : wizard.state.body? = some body) :
    Accepted lower boundary.zoneName body ↔ ¬ Clash wizard.state := by
  obtain ⟨step, state⟩ := wizard
  have bound : state.toBotConnectionBoundary = boundary := kept.bound
  simp only [DeployWizardState.body?, Option.bind_eq_bind, Option.bind_eq_some_iff, Option.pure_def,
    Option.some.injEq] at filled
  obtain ⟨workerName, first, workerHostname, second, nodeHostname, third, vpsIpv4, fourth, acmeEmail, fifth,
    realityServerName, sixth, enableUfw, -, rfl⟩ := filled
  obtain ⟨nodeValid, nodeZone⟩ := kept.nodeHostname nodeHostname third
  obtain ⟨targetValid, targetDefault⟩ := kept.target realityServerName sixth
  constructor
  · rintro accepted ⟨target, node⟩
    obtain ⟨input, passes⟩ := accepted_passes accepted
    have sni := requiredString_text rfl passes.realityServerName
    have host := requiredString_text rfl passes.nodeHostname
    obtain rfl := Option.some.inj (sixth.symm.trans target)
    obtain rfl := Option.some.inj (third.symm.trans node)
    exact passes.target (sni.trans host.symm)
  · intro apart
    obtain ⟨hostValid, hostZone⟩ := kept.workerHostname workerHostname second
    obtain ⟨emailValid, emailLower⟩ := kept.acmeEmail acmeEmail fifth
    have address := kept.vpsIpv4 vpsIpv4 fourth
    have octets : isValidIpv4 vpsIpv4 = true := by
      rw [isPublicIpv4, Bool.and_eq_true] at address
      exact address.1
    obtain ⟨workerPlain, workerSize⟩ := workerName_plain (kept.workerName workerName first)
    obtain ⟨connectionPlain, connectionSize⟩ := connectionId_plain state.connectionId_form
    obtain ⟨accountPlain, accountSize⟩ := cloudflareId_plain state.accountId_form
    obtain ⟨zonePlain, zoneSize⟩ := cloudflareId_plain state.zoneId_form
    obtain ⟨emailLong, emailShort, printed⟩ := isValidEmail_printed emailValid
    have email : requiredString lower (some (.string acmeEmail)) "acmeEmail" 254 = .ok acmeEmail := by
      rw [requiredString, if_neg (by omega), LowerCase.normalized, trim_of_no_space printed, String.ofList_toList,
        emailLower]
    refine (accepted_iff _).mpr ⟨⟨state.connectionId, state.accountId, state.zoneId, workerName, workerHostname,
      nodeHostname, vpsIpv4, acmeEmail, realityServerName, enableUfw⟩, ?_⟩
    exact {
      connectionId := requiredString_plain connectionPlain (by omega)
      accountId := requiredString_plain accountPlain (by omega)
      zoneId := requiredString_plain zonePlain (by omega)
      workerName := requiredString_plain workerPlain workerSize
      workerHostname := requiredString_plain (hostname_plain hostValid) (hostname_size hostValid)
      nodeHostname := requiredString_plain (hostname_plain nodeValid) (hostname_size nodeValid)
      vpsIpv4 := requiredString_plain (ipv4_plain octets) (ipv4_size octets)
      acmeEmail := email
      realityServerName := requiredString_plain (hostname_plain targetValid) (hostname_size targetValid)
      ids := ⟨state.connectionId_form, state.accountId_form, state.zoneId_form⟩
      worker := kept.workerName workerName first
      hostnames := ⟨hostValid, nodeValid, targetValid⟩
      distinct := fun same => kept.distinct nodeHostname third (second.trans (congrArg some same))
      address := address
      email := emailValid
      zone := ⟨hostZone, nodeZone⟩
      target := fun same => by
        have node : some realityServerName = state.nodeHostname := (congrArg some same).trans third.symm
        have isDefault := targetDefault node
        exact apart ⟨sixth.trans (congrArg some isDefault), node.symm.trans (congrArg some isDefault)⟩ }

/-- What the wizard collected is accepted exactly when the default target was never chosen for the node of that
name. And whatever text the wizard rejects at a step, the API rejects in that field, with the fields of the steps
before. -/
theorem wizard_accepts_iff (lower : LowerCase) :
    (∀ boundary events body, (run lower boundary events).step = .confirm →
      (run lower boundary events).state.body? = some body →
      (Accepted lower boundary.zoneName body ↔ DefaultAllowed lower boundary events)) ∧
    ∀ zoneName body raw,
      (body.field? "workerName" = some (.string raw) → validateWizardWorkerName lower raw ≠ none →
        ¬ Accepted lower zoneName body) ∧
      (∀ label, body.field? "workerHostname" = some (.string raw) →
        validateWizardSubdomain lower raw zoneName none label ≠ none → ¬ Accepted lower zoneName body) ∧
      (∀ other label, body.field? "nodeHostname" = some (.string raw) → body.field? "workerHostname" = some (.string other) →
        validateWizardSubdomain lower raw zoneName (some (lower.normalized other)) label ≠ none →
        ¬ Accepted lower zoneName body) ∧
      (body.field? "vpsIpv4" = some (.string raw) → validateWizardIpv4 raw ≠ none → ¬ Accepted lower zoneName body) ∧
      (body.field? "acmeEmail" = some (.string raw) → validateWizardEmail lower raw ≠ none →
        ¬ Accepted lower zoneName body) ∧
      (∀ node, body.field? "realityServerName" = some (.string raw) → body.field? "nodeHostname" = some (.string node) →
        validateWizardSni lower raw (lower.normalized node) ≠ none → ¬ Accepted lower zoneName body) := by
  refine ⟨fun boundary events body _ filled => ?_, fun zoneName body raw => ⟨worker_rejected, fun _ =>
    workerHostname_rejected, fun _ _ => nodeHostname_rejected, vpsIpv4_rejected, acmeEmail_rejected, fun _ =>
    sni_rejected⟩⟩
  obtain ⟨kept, clash⟩ : Kept lower boundary (run lower boundary events) ∧ _ := kept_run events
  rw [accepted_body kept filled, clash, not_not]

end

/-! ## A node with the name of the default target -/

theorem toLower_plain {char : Char} (plain : isPlain char) : char.toLower = char := by
  have table : ∀ code < 0x80, isPlain (Char.ofNat code) → (Char.ofNat code).toLower = Char.ofNat code := by
    unfold isPlain
    decide
  have known := table char.toNat (isPlain_ascii plain)
  rw [Char.ofNat_toNat] at known
  exact known plain

theorem toLower_of_not_upper {char : Char} (other : char.isUpper = false) : char.toLower = char :=
  dif_neg (of_decide_eq_false other)

/-- The lower case of a capital letter is a small letter. -/
theorem toLower_of_upper {char : Char} (upper : char.isUpper = true) :
    char.toLower.isDigit = false ∧ char.toLower ≠ '.' ∧ char.toLower.isUpper = false := by
  have table : ∀ code < 0x80, (Char.ofNat code).isUpper = true → (Char.ofNat code).toLower.isDigit = false ∧
      (Char.ofNat code).toLower ≠ '.' ∧ (Char.ofNat code).toLower.isUpper = false := by decide
  have ascii : char.toNat < 0x80 := by
    have bounds := of_decide_eq_true upper
    rw [UInt32.le_iff_toNat_le] at bounds
    have last : char.toNat ≤ 90 := bounds.2
    omega
  have known := table char.toNat ascii
  rw [Char.ofNat_toNat] at known
  exact known upper

theorem toLower_numeric {char : Char} (numeric : char.toLower.isDigit = true ∨ char.toLower = '.') : char.toLower = char := by
  cases upper : char.isUpper with
  | false => exact toLower_of_not_upper upper
  | true =>
    obtain ⟨noDigit, noDot, -⟩ := toLower_of_upper upper
    rcases numeric with digit | dot
    · rw [noDigit] at digit
      contradiction
    · exact absurd dot noDot

theorem toLower_toLower (char : Char) : char.toLower.toLower = char.toLower := by
  cases upper : char.isUpper with
  | false => rw [toLower_of_not_upper upper, toLower_of_not_upper upper]
  | true => exact toLower_of_not_upper (toLower_of_upper upper).2.2

/-- Lower case for ASCII letters alone. -/
def asciiLower : LowerCase where
  toLowerCase text := String.ofList (text.toList.map Char.toLower)
  idempotent text := by
    rw [String.toList_ofList, List.map_map]
    exact congrArg String.ofList (List.map_congr_left fun char _ => toLower_toLower char)
  lowered text plain := by
    have same : text.toList.map Char.toLower = text.toList :=
      (List.map_congr_left fun char member => toLower_plain (plain char member)).trans (List.map_id _)
    rw [same, String.ofList_toList]
  numeric text numeric := by
    rw [String.toList_ofList] at numeric
    have same : text.toList.map Char.toLower = text.toList :=
      (List.map_congr_left fun char member => toLower_numeric (numeric _ (List.mem_map_of_mem member))).trans
        (List.map_id _)
    rw [same, String.ofList_toList]

def sampleBoundary : BotConnectionBoundary where
  connectionId := "0a1b2c3d-0000-4000-8000-0123456789ab"
  accountId := "0123456789abcdef0123456789abcdef"
  zoneId := "fedcba9876543210fedcba9876543210"
  zoneName := "microsoft.com"
  connectionId_form := by decide +kernel
  accountId_form := by decide +kernel
  zoneId_form := by decide +kernel

def sampleEvents (node : String) : List Event :=
  [.text "v13-my-node", .text "sub.microsoft.com", .text node, .text "9.9.9.9", .text "admin@example.com", .sniDefault,
    .ufw false]

/-- The owner of the zone names the node like the default target, and takes the default. All seven fields are set,
and the request is refused. -/
theorem default_target_refused :
    (run asciiLower sampleBoundary (sampleEvents "www.microsoft.com")).step = .confirm ∧
      (run asciiLower sampleBoundary (sampleEvents "www.microsoft.com")).state.body?.map
        (createRequest asciiLower sampleBoundary.zoneName) = some (.error ⟨400, "invalid_reality_target",
          "Reality handshake target must not point back to this VPS"⟩) := by
  decide +kernel

theorem wizard_accepts_iff_other_node :
    ∃ body, (run asciiLower sampleBoundary (sampleEvents "node.microsoft.com")).state.body? = some body ∧
      Accepted asciiLower sampleBoundary.zoneName body := by
  obtain ⟨body, filled⟩ := Option.isSome_iff_exists.mp
    (by decide +kernel : ((run asciiLower sampleBoundary (sampleEvents "node.microsoft.com")).state.body?).isSome = true)
  have other : ∀ count < 8, (run asciiLower sampleBoundary ((sampleEvents "node.microsoft.com").take count)).state.nodeHostname ≠
      some defaultTarget := by decide +kernel
  refine ⟨body, filled, ((wizard_accepts_iff asciiLower).1 _ _ body (by decide +kernel) filled).mpr ?_⟩
  intro done rest split
  have length := congrArg List.length split
  rw [List.length_append, List.length_cons] at length
  have whole : (sampleEvents "node.microsoft.com").length = 7 := rfl
  have front : (sampleEvents "node.microsoft.com").take done.length = done := by rw [split, List.take_left]
  have known := other done.length (by omega)
  rwa [front] at known

end OmniControlPlane.Portal.Wizard
