import OmniControlPlane.Lib.OrderedMap
import OmniControlPlane.Lib.Typestate
import OmniControlPlane.Portal.Http
import OmniControlPlane.Security.Envelope

/-! # Temporary Cloudflare tokens

A connection is a row of `oauth_connections` that holds an encrypted API token. Two requests verify a token
with Cloudflare, count the live connections of the tenant and insert one more. A disconnect scrubs a row, and
every cron pass and every further request erases the rows that have expired.

Each awaited call is one step, and so is each time the clock is read.
-/

namespace OmniControlPlane.Portal.ApiTokens

open Lib Machine Task
open Security (Drawn EnvelopeError encryptJson decryptJson)

/-! ## What is read -/

/-- `Number.parseInt(value, 10)` -/
def parseInt (value : String) : Option ℤ :=
  let text := value.toList.dropWhile isJsSpace
  let digits := (if text.head? = some '-' ∨ text.head? = some '+' then text.tail else text).takeWhile (·.isDigit)
  if digits = [] then none
  else some (if text.head? = some '-' then -Nat.ofDigitChars 10 digits 0 else Nat.ofDigitChars 10 digits 0)

def parsePositiveInt (value : String) (fallback max : ℕ) : ℕ :=
  match parseInt value with
  | some parsed => if 0 < parsed ∧ parsed ≤ max then parsed.toNat else fallback
  | none => fallback

structure Env where
  TOKEN_ENCRYPTION_KEY : String
  API_TOKEN_TTL_SECONDS : Option String := none

/-- The local lifetime in milliseconds. -/
def Env.ttl (env : Env) : ℕ := parsePositiveInt (env.API_TOKEN_TTL_SECONDS.getD "7200") 7200 86400 * 1000

/-- What Cloudflare says about a token. A date is there or not, and is a time or unreadable. -/
structure TokenVerification where
  id : Option String := none
  status : String
  expires_on : Option (Option ℕ) := none
  not_before : Option (Option ℕ) := none
deriving DecidableEq, Repr

structure TokenZone where
  id : String
  name : String
  status : String
  account : Option (String × String)
  permissions : Option (List String) := none
deriving DecidableEq, Repr

def isTokenChar (char : Char) : Bool :=
  ('A' ≤ char && char ≤ 'Z') || ('a' ≤ char && char ≤ 'z') || ('0' ≤ char && char ≤ '9') || char = '_' || char = '-'

def invalidApiToken (message : String) : HttpError := ⟨400, "invalid_api_token", message⟩

def validateApiToken (value : Option String) : Except HttpError String :=
  match value with
  | none => .error (invalidApiToken "Cloudflare API token is required")
  | some value =>
    let token := trim value
    if 20 ≤ token.length ∧ token.length ≤ 256 ∧ token.all isTokenChar = true then .ok (String.ofList token)
    else .error (invalidApiToken "Cloudflare API token format is invalid")

def expired : HttpError := ⟨401, "cloudflare_token_expired", "Cloudflare API token is expired"⟩

/-- `effectiveExpiry`, at the time it reads. -/
def expiryAt (env : Env) (now : ℕ) (remoteExpiry : Option (Option ℕ)) : Except HttpError ℕ :=
  match remoteExpiry with
  | none => .ok (now + env.ttl)
  | some none => .error expired
  | some (some remote) => if remote ≤ now then .error expired else .ok (min (now + env.ttl) remote)

/-- `/^[a-f0-9]{32}$/u` -/
def isCloudflareId (value : String) : Bool :=
  value.toList.length = 32 && value.toList.all fun char => ('a' ≤ char && char ≤ 'f') || char.isDigit

/-- What is stored of a zone must be in form. -/
def TokenZone.usable (zone : TokenZone) : Bool :=
  isCloudflareId zone.id && zone.name ≠ "" && (utf16 zone.name).length ≤ 253 &&
    zone.account.any fun account => isCloudflareId account.1 && account.2 ≠ "" && (utf16 account.2).length ≤ 200

/-! ## The table -/

/-- A row of `oauth_connections`. The last four are no columns: the token, the times when its request arrived and when
its lifetime was computed, and its own expiry. -/
structure ConnectionRow where
  tenant_id : String
  auth_type : String
  access_token_enc : String
  expires_at : Option ℕ
  scopes : String
  created_at : ℕ
  updated_at : ℕ
  revoked_at : Option ℕ := none
  token : String
  submitted : ℕ
  measured : ℕ
  remote : Option ℕ
deriving DecidableEq, Repr

/-- `clock` is the latest time that was read, and `inserted` the tenants of the rows that were ever inserted; no table has
them. -/
structure Store where
  oauth_connections : OrderedMap String ConnectionRow := .empty
  clock : ℕ := 0
  inserted : List String := []

/-- What a count answers. Beside it, how many rows of the tenant had been inserted by then. -/
structure Counted where
  count : ℕ
  seen : ℕ
deriving DecidableEq, Repr

/-- The calls. `receive`, `dateNow` and `measure` read the clock; an insert carries the count it rests on, which no statement
has. -/
inductive Command where
  | receive
  | dateNow
  | measure
  | rateLimit (key : String)
  | verifyToken (token : String)
  | listZones (token : String)
  | listAccounts (token : String)
  | probe (token path : String)
  | countLive (tenantId : String) (now : ℕ)
  | random
  | insertConnection (id : String) (row : ConnectionRow) (counted : Counted)
  | eraseExpired (erasedAt : ℕ)
  | countDeployments (connectionId excluding : String)
  | selectConnection (connectionId : String) (tenantId : Option String)
  | scrub (connectionId : String) (revokedAt : ℕ)
  | audit
deriving DecidableEq, Repr

abbrev Answer : Command → Type
  | .receive | .dateNow | .measure | .countDeployments .. => ℕ
  | .rateLimit _ => Bool
  | .verifyToken _ => TokenVerification
  | .listZones _ => List TokenZone
  | .listAccounts _ => List (String × String)
  | .countLive .. => Counted
  | .random => String × Drawn
  | .selectConnection .. => Option ConnectionRow
  | _ => Unit

/-- The outside choices of one step. -/
structure Choice where
  delivery : Delivery := .answered
  now : ℕ := 0
  allowed : Bool := true
  verification : TokenVerification := { status := "active" }
  zones : List TokenZone := []
  accounts : List (String × String) := []
  deployments : ℕ := 0
  id : String := ""
  drawn : Drawn

/-- A row that a tenant can use at a time. -/
def ConnectionRow.live (now : ℕ) (tenantId : String) (row : ConnectionRow) : Bool :=
  row.tenant_id = tenantId && row.auth_type = "api_token" && row.revoked_at.isNone && row.expires_at.any (now < ·)

def Store.live (store : Store) (now : ℕ) (tenantId : String) : ℕ :=
  store.oauth_connections.entries.countP fun entry => entry.2.live now tenantId

/-- Erase the token of a row. -/
def ConnectionRow.erase (marker : String) (now : ℕ) (row : ConnectionRow) : ConnectionRow :=
  { row with access_token_enc := marker, expires_at := none, revoked_at := some now, updated_at := now }

def effect (store : Store) : Command → Store
  | .insertConnection id row _ =>
    { store with
      oauth_connections := store.oauth_connections.alter id fun _ => row
      inserted := row.tenant_id :: store.inserted }
  | .eraseExpired erasedAt =>
    { store with oauth_connections := store.oauth_connections.mapValues fun _ row =>
        if row.auth_type = "api_token" ∧ row.revoked_at = none ∧ row.expires_at.any (· ≤ erasedAt) = true then
          row.erase "expired" erasedAt
        else row }
  | .scrub connectionId revokedAt =>
    { store with oauth_connections := store.oauth_connections.mapValues fun id row =>
        if id = connectionId ∧ row.revoked_at = none then row.erase "erased" revokedAt else row }
  | _ => store

/-- `SELECT * FROM oauth_connections WHERE id = ? AND tenant_id = ? AND revoked_at IS NULL`, or without the tenant -/
def Store.connection (store : Store) (connectionId : String) (tenantId : Option String) : Option ConnectionRow :=
  (store.oauth_connections.get? connectionId).filter fun row =>
    row.revoked_at.isNone && tenantId.all (row.tenant_id = ·)

def answer (choice : Choice) (store : Store) : (command : Command) → Answer command
  | .receive | .dateNow | .measure => choice.now
  | .rateLimit _ => choice.allowed
  | .verifyToken _ => choice.verification
  | .listZones _ => choice.zones
  | .listAccounts _ => choice.accounts
  | .countLive tenantId now => ⟨store.live now tenantId, store.inserted.count tenantId⟩
  | .random => (choice.id, choice.drawn)
  | .countDeployments .. => choice.deployments
  | .selectConnection connectionId tenantId => store.connection connectionId tenantId
  | .probe .. | .insertConnection .. | .eraseExpired _ | .scrub .. | .audit => ()

inductive Failure where
  | http (error : HttpError)
  | envelope (error : EnvelopeError)
  | other (message : String)
  | unique
  | remote
deriving DecidableEq, Repr

/-- The clock does not go back, and the id of a row is its primary key. -/
def exec (command : Command) (choice : Choice) (store : Store) : Option (Store × Except Failure (Answer command)) :=
  if choice.now < store.clock then none
  else
    let store := { store with clock := choice.now }
    match command with
    | .receive => some (store, .ok choice.now)
    | .dateNow => some (store, .ok choice.now)
    | .measure => some (store, .ok choice.now)
    | .random => some (store, .ok (choice.id, choice.drawn))
    | .insertConnection id row counted =>
      if (store.oauth_connections.get? id).isSome then some (store, .error .unique)
      else some (choice.delivery.deliver .remote store (effect store (.insertConnection id row counted)) ())
    | command => some (choice.delivery.deliver .remote store (effect store command) (answer choice store command))

abbrev Async := Task Failure Answer

/-- Await one command. -/
abbrev await (command : Command) : Async (Answer command) := perform command

/-! ## The operations -/

def refuse {α : Type} (error : HttpError) : Async α := throw (.http error)

/-- `try { ... } catch { throw error }` -/
def orElseRefuse {α : Type} (body : Async α) (error : HttpError) : Async α := tryCatch body fun _ => refuse error

def httpIf (refused : Prop) [Decidable refused] (error : HttpError) : Async Unit :=
  Task.throwIf refused (.http error)

section

variable (aead : Aead) (env : Env)

def eraseExpiredApiTokens : Async Unit := do
  let erasedAt ← await .dateNow
  await (.eraseExpired erasedAt)

def effectiveExpiry (remoteExpiry : Option (Option ℕ)) : Async (ℕ × ℕ) := do
  let now ← await .measure
  match expiryAt env now remoteExpiry with
  | .error error => refuse error
  | .ok expiresAt => return (now, expiresAt)

/-- `COUNT(*)` and the limit. -/
def countConnections (tenantId : String) : Async Counted := do
  let now ← await .dateNow
  let existing ← await (.countLive tenantId now)
  httpIf (3 ≤ existing.count)
    ⟨409, "too_many_connections", "Disconnect an older temporary Cloudflare connection first"⟩
  return existing

def tokenContext (id : String) : String := "cloudflare:" ++ id ++ ":api-token"

/-- Encrypt the token under the new id, and insert the row. -/
def storeConnection (tenantId token scopes : String) (verification : TokenVerification) (counted : Counted)
    (submitted : ℕ) (lifetime : Async (ℕ × ℕ)) : Async Unit := do
  let (id, drawn) ← await .random
  let now ← await .dateNow
  let (measured, expiresAt) ← lifetime
  match encryptJson aead (.string token) env.TOKEN_ENCRYPTION_KEY (tokenContext id) drawn with
  | .error error => throw (.envelope error)
  | .ok tokenEnc =>
    await (.insertConnection id
      { tenant_id := tenantId, auth_type := "api_token", access_token_enc := tokenEnc, expires_at := some expiresAt,
        scopes := scopes, created_at := now, updated_at := now, token := token, submitted := submitted,
        measured := measured, remote := verification.expires_on.join } counted)
    await .audit

/-- The one zone that the token can manage. -/
def selectZone (zones : List TokenZone) : Async TokenZone := do
  httpIf (zones = []) ⟨403, "cloudflare_zone_unavailable", "Token به هیچ Zone قابل‌استفاده‌ای دسترسی ندارد"⟩
  let manageableZones := if zones.any (·.permissions.isSome) then
      zones.filter fun item => item.permissions.any ("#dns_records:edit" ∈ ·)
    else zones
  match manageableZones with
  | [zone] => do
    httpIf (zone.status ≠ "active")
      ⟨403, "cloudflare_zone_inactive", "The token's single Cloudflare zone must be active"⟩
    httpIf (zone.usable = false) ⟨502, "cloudflare_resource_invalid", "Cloudflare returned invalid resource metadata"⟩
    return zone
  | _ => refuse ⟨403, "cloudflare_token_scope_too_broad",
      "Token هنوز به چند Zone دسترسی DNS Edit دارد؛ در Cloudflare فقط یک Specific zone انتخاب کنید"⟩

def verifyToken (token : String) : Async TokenVerification := do
  let verification ← orElseRefuse (await (.verifyToken token))
    ⟨401, "cloudflare_token_rejected", "Cloudflare rejected the API token"⟩
  httpIf (verification.status ≠ "active") ⟨401, "cloudflare_token_inactive", "Cloudflare API token is not active"⟩
  return verification

def readToken (apiToken : Option String) : Async String :=
  match validateApiToken apiToken with
  | .error error => refuse error
  | .ok token => pure token

def tooManyAttempts : HttpError :=
  ⟨429, "rate_limited", "Too many Cloudflare connection attempts; try again later"⟩

def createTemporaryApiTokenConnection (tenantId : String) (apiToken : Option String) : Async Unit := do
  let submitted ← await .receive
  let allowed ← await (.rateLimit ("api-token-connect:" ++ tenantId))
  httpIf (allowed = false) tooManyAttempts
  eraseExpiredApiTokens
  let token ← readToken apiToken
  let verification ← verifyToken token
  let now ← await .dateNow
  httpIf (verification.not_before.join.any (now < ·) = true)
    ⟨401, "cloudflare_token_not_active_yet", "Cloudflare API token is not active yet"⟩
  let lifetime ← effectiveExpiry env verification.expires_on
  let zones ← orElseRefuse (await (.listZones token))
    ⟨403, "cloudflare_zone_read_missing", "Token needs Zone:Zone:Read for one specific active zone"⟩
  let zone ← selectZone zones
  orElseRefuse (await (.probe token ("/zones/" ++ zone.id ++ "/dns_records?per_page=1")))
    ⟨403, "cloudflare_dns_permission_missing", "Token needs Zone:DNS:Edit for the selected zone"⟩
  orElseRefuse (await (.probe token ("/accounts/" ++ (zone.account.map (·.1)).getD "" ++ "/workers/scripts?per_page=1")))
    ⟨403, "cloudflare_workers_permission_missing",
      "Token needs Account:Workers Scripts:Edit for the selected account"⟩
  let counted ← countConnections tenantId
  storeConnection aead env tenantId token "scoped-api-token" verification counted submitted (pure lifetime)

/-- The account of the first zone, or the first account. -/
def findAccount (token : String) : Async String := do
  let zones ← tryCatch (await (.listZones token)) fun _ => pure []
  let missing : HttpError :=
    ⟨403, "cloudflare_scope_missing", "Token needs Zone Read (or Account Read) plus Workers Scripts Edit"⟩
  let accountId := ((zones.head?.bind (·.account)).map (·.1)).getD ""
  if accountId ≠ "" then return accountId
  let accounts ← orElseRefuse (await (.listAccounts token)) missing
  let accountId := (accounts.head?.map (·.1)).getD ""
  httpIf (accountId = "") missing
  return accountId

def connectPanelTokenFromChat (tenantId apiToken : String) : Async Unit := do
  let submitted ← await .receive
  let allowed ← await (.rateLimit ("panel-token-connect:" ++ tenantId))
  httpIf (allowed = false) tooManyAttempts
  eraseExpiredApiTokens
  let token ← readToken (some apiToken)
  let verification ← verifyToken token
  let accountId ← findAccount token
  orElseRefuse (await (.probe token ("/accounts/" ++ accountId ++ "/workers/scripts?per_page=1")))
    ⟨403, "cloudflare_workers_permission_missing",
      "Token needs Account:Workers Scripts:Edit (دکمهٔ «ساخت Token آمادهٔ پنل» همه را از قبل می‌چیند)"⟩
  let counted ← countConnections tenantId
  storeConnection aead env tenantId token "panel-api-token" verification counted submitted
    (effectiveExpiry env verification.expires_on)

def scrubConnection (connectionId : String) : Async Unit := do
  let revokedAt ← await .dateNow
  await (.scrub connectionId revokedAt)

def revokeConnectionGrant (connectionId : String) (connection : ConnectionRow) : Async Unit :=
  if connection.revoked_at.isSome then pure () else scrubConnection connectionId

def disconnectCloudflareConnection (tenantId connectionId : String) : Async Unit := do
  let active ← await (.countDeployments connectionId "")
  httpIf (0 < active)
    ⟨409, "cloudflare_connection_busy", "Cloudflare access is still required by an active deployment"⟩
  match ← await (.selectConnection connectionId (some tenantId)) with
  | none => refuse ⟨409, "cloudflare_reconnect_required", "Cloudflare connection not found"⟩
  | some connection => do
    revokeConnectionGrant connectionId connection
    await .audit

def disconnectConnectionIfIdle (connectionId excludingDeploymentId : String) : Async Unit := do
  let active ← await (.countDeployments connectionId excludingDeploymentId)
  if 0 < active then return
  match ← await (.selectConnection connectionId none) with
  | none => return
  | some connection => revokeConnectionGrant connectionId connection

inductive Operation where
  | createTemporaryApiTokenConnection (tenantId : String) (apiToken : Option String)
  | connectPanelTokenFromChat (tenantId apiToken : String)
  | disconnectCloudflareConnection (tenantId connectionId : String)
  | disconnectConnectionIfIdle (connectionId excludingDeploymentId : String)
  | eraseExpiredApiTokens
deriving DecidableEq, Repr

def program : Operation → Async Unit
  | .createTemporaryApiTokenConnection tenantId apiToken => createTemporaryApiTokenConnection aead env tenantId apiToken
  | .connectPanelTokenFromChat tenantId apiToken => connectPanelTokenFromChat aead env tenantId apiToken
  | .disconnectCloudflareConnection tenantId connectionId => disconnectCloudflareConnection tenantId connectionId
  | .disconnectConnectionIfIdle connectionId excludingDeploymentId =>
    disconnectConnectionIfIdle connectionId excludingDeploymentId
  | .eraseExpiredApiTokens => eraseExpiredApiTokens

def host : Host Failure Answer Unit Store Choice Operation where
  program := program aead env
  exec := exec
  spawns _ _ := []

/-- `getValidCloudflareAuth`, of a row that was read, at the time it is called. -/
def getValidCloudflareAuth (now : ℕ) (id : String) (connection : ConnectionRow) : Except Failure Json :=
  if connection.revoked_at.isSome then .error (.other "Cloudflare connection is revoked")
  else if connection.auth_type ≠ "api_token" then
    .error (.other "OAuth-based Cloudflare connections are no longer supported; reconnect with a scoped API token")
  else if connection.expires_at.any (· ≤ now) = true then
    .error (.other "Temporary Cloudflare API token expired; reconnect required")
  else
    match decryptJson aead connection.access_token_enc env.TOKEN_ENCRYPTION_KEY (tokenContext id) with
    | .error error => .error (.envelope error)
    | .ok token => .ok token

end

abbrev World := Lib.World Failure Answer Unit Store

abbrev Event := Lib.Event Operation Choice

/-! ## What a request does in turn -/

/-- What a task has read so far. -/
structure Phase where
  submitted : Option ℕ := none
  measured : Option ℕ := none
  read : Option ℕ := none
  counted : Option (String × Counted) := none

section

variable (aead : Aead) (env : Env)

/-- A row as it is inserted. -/
structure Issued (id : String) (row : ConnectionRow) : Prop where
  auth_type : row.auth_type = "api_token"
  revoked_at : row.revoked_at = none
  sealed : decryptJson aead row.access_token_enc env.TOKEN_ENCRYPTION_KEY (tokenContext id) = .ok (.string row.token)
  bounded : ∃ expiresAt, row.expires_at = some expiresAt ∧ expiresAt ≤ row.measured + env.ttl ∧
    ∀ remote ∈ row.remote, expiresAt ≤ remote

/-- The time is read in order, a count goes with the time that was read, and an insert with all of it. -/
def requests : Protocol Failure Answer Phase where
  allowed phase
    | .receive => phase.measured = none
    | .measure => phase.submitted.isSome
    | .countLive _ now => phase.read = some now
    | .insertConnection id row counted => phase.counted = some (row.tenant_id, counted) ∧ counted.count < 3 ∧
        phase.submitted = some row.submitted ∧ phase.measured = some row.measured ∧ Issued aead env id row
    | _ => True
  next phase command answer :=
    match command, answer with
    | .receive, .ok now => { phase with submitted := some now }
    | .dateNow, .ok now => { phase with read := some now }
    | .measure, .ok now => { phase with measured := some now }
    | .countLive tenantId _, .ok counted => { phase with counted := some (tenantId, counted) }
    | _, _ => phase

/-- From a phase on, a part of a program follows, and a value it ends with meets the assertion. -/
def Gives {α : Type} (post : Phase → α → Prop) (part : Async α) (phase : Phase) : Prop :=
  part.Follows (requests aead env) (fun after outcome => ∀ value, outcome = .ok value → post after value) phase

variable {aead env} {phase : Phase} {α β : Type} {post : Phase → α → Prop} {post' : Phase → β → Prop}

theorem Gives.bind {part : Async α} {rest : α → Async β} (first : Gives aead env post part phase)
    (second : ∀ after value, post after value → Gives aead env post' (rest value) after) :
    Gives aead env post' (part >>= rest) phase := by
  refine (follows_bind _ _).mpr (Follows.mono first ?_)
  intro after outcome given
  cases outcome with
  | ok value => exact second after value (given value rfl)
  | error => exact nofun

theorem Gives.call (command : Command) (post : Phase → Answer command → Prop)
    (called : (requests aead env).allowed phase command)
    (answered : ∀ value, post ((requests aead env).next phase command (.ok value)) value) :
    Gives aead env post (await command) phase := by
  refine (follows_perform command).mpr ⟨called, fun answer value given => ?_⟩
  subst given
  exact answered value

theorem Gives.pure {value : α} (given : post phase value) : Gives aead env post (pure value) phase := by
  intro other same
  cases same
  exact given

theorem Gives.refuse (error : HttpError) : Gives aead env post (refuse error) phase := nofun

theorem Gives.throw (error : Failure) : Gives aead env post (throw error) phase := nofun

theorem Gives.catching {part : Async α} {handler : Failure → Async α} (body : Gives aead env post part phase)
    (handles : ∀ after error, Gives aead env post (handler error) after) :
    Gives aead env post (tryCatch part handler) phase := by
  refine (follows_tryCatch _ _).mpr (Follows.mono body ?_)
  intro after outcome given
  cases outcome with
  | ok value => exact given
  | error error => exact handles after error

theorem Gives.orElseRefuse {part : Async α} (body : Gives aead env post part phase) (error : HttpError) :
    Gives aead env post (orElseRefuse part error) phase :=
  body.catching fun _ _ => .refuse error

theorem Gives.httpIf {refused : Prop} [Decidable refused] (post : Phase → Unit → Prop) (error : HttpError)
    (kept : ¬ refused → post phase ()) : Gives aead env post (httpIf refused error) phase := by
  rw [ApiTokens.httpIf, Task.throwIf]
  split
  · rintro _ ⟨⟩
  · next other => exact .pure (kept other)

/-- Nothing was read that an insert needs. -/
abbrev Same {α : Type} (phase after : Phase) (_ : α) : Prop :=
  after.submitted = phase.submitted ∧ after.measured = phase.measured

theorem gives_eraseExpiredApiTokens : Gives aead env (Same phase) eraseExpiredApiTokens phase :=
  .bind (.call _ (fun after _ => Same phase after ()) trivial fun _ => ⟨rfl, rfl⟩) fun _ _ same =>
    .call _ _ trivial fun _ => same

theorem gives_effectiveExpiry (submitted : phase.submitted.isSome) (remote : Option (Option ℕ)) :
    Gives aead env (fun after lifetime => after = { phase with measured := some lifetime.1 } ∧
      expiryAt env lifetime.1 remote = .ok lifetime.2) (effectiveExpiry env remote) phase := by
  refine .bind (.call _ (fun after now => after = { phase with measured := some now }) submitted fun _ => rfl) ?_
  rintro after now rfl
  split
  · exact .refuse _
  · next given => exact .pure ⟨rfl, given⟩

theorem gives_countConnections (tenantId : String) :
    Gives aead env (fun after counted => Same phase after () ∧ after.counted = some (tenantId, counted) ∧ counted.count < 3)
      (countConnections tenantId) phase := by
  refine .bind (.call _ (fun after now => after = { phase with read := some now }) trivial fun _ => rfl) ?_
  rintro _ now rfl
  refine .bind (.call (.countLive tenantId now) (fun after counted => Same phase after () ∧
    after.counted = some (tenantId, counted)) rfl fun _ => ⟨⟨rfl, rfl⟩, rfl⟩) ?_
  rintro after counted ⟨same, given⟩
  exact .bind (.httpIf (fun final _ => final = after ∧ counted.count < 3) _ fun other => ⟨rfl, by omega⟩)
    fun _ _ ⟨unchanged, few⟩ => .pure ⟨unchanged ▸ same, unchanged ▸ given, few⟩

/-- The lifetime is at most the local one, and no longer than the token's own. -/
theorem expiryAt_le {now expiresAt : ℕ} {remote : Option (Option ℕ)} (computed : expiryAt env now remote = .ok expiresAt) :
    expiresAt ≤ now + env.ttl ∧ ∀ own ∈ remote.join, expiresAt ≤ own := by
  unfold expiryAt at computed
  split at computed
  · cases computed
    exact ⟨Nat.le_refl _, nofun⟩
  · contradiction
  · split at computed
    · contradiction
    · cases computed
      refine ⟨Nat.min_le_left _ _, fun own given => ?_⟩
      rw [Option.join_some, Option.mem_some_iff] at given
      exact given ▸ Nat.min_le_right _ _

theorem gives_storeConnection (opens : ∀ sealing, Security.Opens aead sealing) {tenantId token scopes : String}
    {verification : TokenVerification} {counted : Counted} {submitted : ℕ} {lifetime : Async (ℕ × ℕ)}
    (given : phase.counted = some (tenantId, counted)) (few : counted.count < 3)
    (computes : ∀ before, before.counted = phase.counted → Same phase before () → Gives aead env (fun after lifetime =>
      after.counted = phase.counted ∧ after.submitted = some submitted ∧ after.measured = some lifetime.1 ∧
        expiryAt env lifetime.1 verification.expires_on = .ok lifetime.2) lifetime before) :
    Gives aead env (fun _ _ => True)
      (storeConnection aead env tenantId token scopes verification counted submitted lifetime) phase := by
  refine .bind (.call _ (fun after _ => after.counted = phase.counted ∧ Same phase after ()) trivial
    fun _ => ⟨rfl, rfl, rfl⟩) ?_
  rintro drew ⟨id, drawn⟩ ⟨kept, same⟩
  refine .bind (.call _ (fun after _ => after.counted = phase.counted ∧ Same phase after ()) trivial
    fun _ => ⟨kept, same⟩) ?_
  rintro timed now ⟨kept, same⟩
  refine .bind (computes timed kept same) ?_
  rintro after ⟨measured, expiresAt⟩ answered
  have stillCounted := answered.1
  have stillSubmitted := answered.2.1
  have nowMeasured := answered.2.2.1
  have computed := answered.2.2.2
  dsimp only
  split
  · exact .throw _
  · next tokenEnc encrypted =>
    have bounds := expiryAt_le computed
    refine .bind (.call _ (fun _ _ => True) ?_ fun _ => trivial) fun _ _ _ => .call _ _ trivial fun _ => trivial
    exact ⟨stillCounted.trans given, few, stillSubmitted, nowMeasured, rfl, rfl,
      Security.decryptJson_encryptJson opens (by trivial) encrypted, expiresAt, rfl, bounds⟩

theorem gives_verifyToken (token : String) : Gives aead env (Same phase) (verifyToken token) phase :=
  .bind (.orElseRefuse (.call (.verifyToken token) (Same phase) trivial fun _ => ⟨rfl, rfl⟩) _)
    fun _ _ same => .bind (.httpIf (Same phase) _ fun _ => same) fun _ _ same => .pure same

theorem gives_readToken (apiToken : Option String) : Gives aead env (Same phase) (readToken apiToken) phase := by
  rw [readToken]
  split
  · exact .refuse _
  · exact .pure ⟨rfl, rfl⟩

theorem gives_selectZone (zones : List TokenZone) : Gives aead env (Same phase) (selectZone zones) phase := by
  refine .bind (.httpIf (Same phase) _ fun _ => ⟨rfl, rfl⟩) fun after _ same => ?_
  dsimp only
  split
  · exact .bind (.httpIf (Same phase) _ fun _ => same) fun _ _ same =>
      .bind (.httpIf (Same phase) _ fun _ => same) fun _ _ same => .pure same
  · exact .refuse _

theorem gives_remote (command : Command) (called : ∀ phase, (requests aead env).allowed phase command)
    (unchanged : ∀ phase value, (requests aead env).next phase command (.ok value) = phase) :
    Gives aead env (Same phase) (await command) phase :=
  .call _ _ (called phase) fun value => by rw [unchanged]; exact ⟨rfl, rfl⟩

theorem gives_findAccount (token : String) : Gives aead env (Same phase) (findAccount token) phase := by
  have zones : Gives aead env (Same phase) (tryCatch (await (.listZones token)) fun _ => pure []) phase := by
    refine (follows_tryCatch _ _).mpr ((follows_perform _).mpr ⟨trivial, fun answer => ?_⟩)
    cases answer with
    | ok value => exact fun _ _ => ⟨rfl, rfl⟩
    | error => exact fun _ _ => ⟨rfl, rfl⟩
  refine .bind zones fun after _ same => ?_
  dsimp only
  split
  · exact .pure same
  · have accounts : Gives aead env (Same phase) (await (.listAccounts token)) after :=
      .call _ _ trivial fun _ => same
    exact .bind (accounts.orElseRefuse _) fun _ _ same =>
      .bind (.httpIf (Same phase) _ fun _ => same) fun _ _ same => .pure same

theorem gives_createTemporaryApiTokenConnection (opens : ∀ sealing, Security.Opens aead sealing) (tenantId : String)
    (apiToken : Option String) : Gives aead env (fun _ _ => True)
      (createTemporaryApiTokenConnection aead env tenantId apiToken) {} := by
  refine .bind (.call .receive (fun after now => after.submitted = some now ∧ after.measured = none) rfl
    fun _ => ⟨rfl, rfl⟩) fun after submitted ⟨arrived, unmeasured⟩ => ?_
  have begun : after.submitted = some submitted ∧ after.measured = none := ⟨arrived, unmeasured⟩
  clear arrived unmeasured
  have onward {before after : Phase} (same : Same before after ())
      (begun : before.submitted = some submitted ∧ before.measured = none) :
      after.submitted = some submitted ∧ after.measured = none := ⟨same.1.trans begun.1, same.2.trans begun.2⟩
  refine .bind (.call _ (Same after) trivial fun _ => ⟨rfl, rfl⟩) fun after allowed same => ?_
  replace begun := onward same begun
  refine .bind (.httpIf (Same after) _ fun _ => ⟨rfl, rfl⟩) fun after _ same => ?_
  replace begun := onward same begun
  refine .bind gives_eraseExpiredApiTokens fun after _ same => ?_
  replace begun := onward same begun
  refine .bind (gives_readToken apiToken) fun after token same => ?_
  replace begun := onward same begun
  refine .bind (gives_verifyToken token) fun after verification same => ?_
  replace begun := onward same begun
  refine .bind (.call _ (Same after) trivial fun _ => ⟨rfl, rfl⟩) fun after now same => ?_
  replace begun := onward same begun
  refine .bind (.httpIf (Same after) _ fun _ => ⟨rfl, rfl⟩) fun after _ same => ?_
  replace begun := onward same begun
  refine .bind (gives_effectiveExpiry (begun.1 ▸ rfl) _) fun timed lifetime ⟨shape, computed⟩ => ?_
  have measured : timed.submitted = some submitted ∧ timed.measured = some lifetime.1 := shape ▸ ⟨begun.1, rfl⟩
  clear shape
  have later {before after : Phase} (same : Same before after ())
      (measured : before.submitted = some submitted ∧ before.measured = some lifetime.1) :
      after.submitted = some submitted ∧ after.measured = some lifetime.1 :=
    ⟨same.1.trans measured.1, same.2.trans measured.2⟩
  have remote (command : Command) (called : ∀ phase, (requests aead env).allowed phase command)
      (unchanged : ∀ phase value, (requests aead env).next phase command (.ok value) = phase) (error : HttpError)
      (phase : Phase) : Gives aead env (Same phase) (orElseRefuse (await command) error) phase :=
    (gives_remote command called unchanged).orElseRefuse error
  refine .bind (remote (.listZones token) (fun _ => trivial) (fun _ _ => rfl) _ _) fun after zones same => ?_
  replace measured := later same measured
  refine .bind (gives_selectZone zones) fun after zone same => ?_
  replace measured := later same measured
  refine .bind (remote (.probe token _) (fun _ => trivial) (fun _ _ => rfl) _ _) fun after _ same => ?_
  replace measured := later same measured
  refine .bind (remote (.probe token _) (fun _ => trivial) (fun _ _ => rfl) _ _) fun after _ same => ?_
  replace measured := later same measured
  refine .bind (gives_countConnections tenantId) fun after counted ⟨same, given, few⟩ => ?_
  replace measured := later same measured
  refine gives_storeConnection opens given few fun before kept same => .pure ⟨kept, ?_, ?_, computed⟩
  · exact same.1.trans measured.1
  · exact same.2.trans measured.2

theorem gives_connectPanelTokenFromChat (opens : ∀ sealing, Security.Opens aead sealing) (tenantId apiToken : String) :
    Gives aead env (fun _ _ => True) (connectPanelTokenFromChat aead env tenantId apiToken) {} := by
  refine .bind (.call .receive (fun after now => after.submitted = some now ∧ after.measured = none) rfl
    fun _ => ⟨rfl, rfl⟩) fun after submitted ⟨arrived, _⟩ => ?_
  refine .bind (.call _ (Same after) trivial fun _ => ⟨rfl, rfl⟩) fun after allowed same => ?_
  replace arrived := same.1.trans arrived
  refine .bind (.httpIf (Same after) _ fun _ => ⟨rfl, rfl⟩) fun after _ same => ?_
  replace arrived := same.1.trans arrived
  refine .bind gives_eraseExpiredApiTokens fun after _ same => ?_
  replace arrived := same.1.trans arrived
  refine .bind (gives_readToken _) fun after token same => ?_
  replace arrived := same.1.trans arrived
  refine .bind (gives_verifyToken token) fun after verification same => ?_
  replace arrived := same.1.trans arrived
  refine .bind (gives_findAccount token) fun after accountId same => ?_
  replace arrived := same.1.trans arrived
  refine .bind ((gives_remote (.probe token _) (fun _ => trivial) fun _ _ => rfl).orElseRefuse _) fun after _ same => ?_
  replace arrived := same.1.trans arrived
  refine .bind (gives_countConnections tenantId) fun after counted ⟨same, given, few⟩ => ?_
  replace arrived := same.1.trans arrived
  apply gives_storeConnection opens given few
  intro before kept same
  have present : before.submitted = some submitted := same.1.trans arrived
  apply Follows.mono (gives_effectiveExpiry (present ▸ rfl) _)
  intro final outcome given value ended
  obtain ⟨shape, computed⟩ := given value ended
  rw [shape]
  exact ⟨kept, present, rfl, computed⟩

theorem gives_scrubConnection (connectionId : String) :
    Gives aead env (fun _ _ => True) (scrubConnection connectionId) phase :=
  .bind (.call _ (fun _ _ => True) trivial fun _ => trivial) fun _ _ _ => .call _ _ trivial fun _ => trivial

theorem gives_revokeConnectionGrant (connectionId : String) (connection : ConnectionRow) :
    Gives aead env (fun _ _ => True) (revokeConnectionGrant connectionId connection) phase := by
  rw [revokeConnectionGrant]
  split
  · exact .pure trivial
  · exact gives_scrubConnection connectionId

theorem gives_disconnect (tenantId connectionId : String) :
    Gives aead env (fun _ _ => True) (disconnectCloudflareConnection tenantId connectionId) phase := by
  refine .bind (.call _ (fun _ _ => True) trivial fun _ => trivial) fun _ _ _ => ?_
  refine .bind (.httpIf (fun _ _ => True) _ fun _ => trivial) fun _ _ _ => ?_
  refine .bind (.call _ (fun _ _ => True) trivial fun _ => trivial) fun _ connection _ => ?_
  split
  · exact .refuse _
  · exact .bind (gives_revokeConnectionGrant _ _) fun _ _ _ => .call _ _ trivial fun _ => trivial

theorem gives_disconnectIfIdle (connectionId excludingDeploymentId : String) :
    Gives aead env (fun _ _ => True) (disconnectConnectionIfIdle connectionId excludingDeploymentId) phase := by
  refine .bind (.call _ (fun _ _ => True) trivial fun _ => trivial) fun _ _ _ => ?_
  split
  · exact .pure trivial
  · refine .bind (.call _ (fun _ _ => True) trivial fun _ => trivial) fun _ connection _ => ?_
    split
    · exact .pure trivial
    · exact gives_revokeConnectionGrant _ _

/-- Every operation follows from the beginning of a request. -/
theorem plays (opens : ∀ sealing, Security.Opens aead sealing) :
    (host aead env).Plays (requests aead env) (fun _ _ => True) (fun _ => {}) (fun _ _ => []) where
  program operation := by
    have follows : Gives aead env (fun _ _ => True) (program aead env operation) {} := by
      cases operation with
      | createTemporaryApiTokenConnection => exact gives_createTemporaryApiTokenConnection opens _ _
      | connectPanelTokenFromChat => exact gives_connectPanelTokenFromChat opens _ _
      | disconnectCloudflareConnection => exact gives_disconnect _ _
      | disconnectConnectionIfIdle => exact gives_disconnectIfIdle _ _
      | eraseExpiredApiTokens => exact Follows.mono gives_eraseExpiredApiTokens fun _ _ _ _ _ => trivial
    exact Follows.mono follows fun _ _ _ => trivial
  spawns _ _ := .nil

end

/-! ## One statement -/

section

variable {aead : Aead} {env : Env} {store store' : Store} {command : Command} {choice : Choice}
  {reply : Except Failure (Answer command)} {phase : Phase}

/-- A step only moves the clock, or takes effect at the new time; a row is inserted under an id that is free. -/
theorem exec_cases (executed : exec command choice store = some (store', reply)) : store.clock ≤ choice.now ∧
    (store' = { store with clock := choice.now } ∨ choice.delivery ≠ .refused ∧
      store' = effect { store with clock := choice.now } command ∧
      ∀ id row counted, command = .insertConnection id row counted → store.oauth_connections.get? id = none) ∧
    ∀ value, reply = .ok value → value = answer choice { store with clock := choice.now } command := by
  rw [exec] at executed
  split at executed
  · contradiction
  next later =>
  refine ⟨Nat.not_lt.mp later, ?_⟩
  have delivered {command : Command} {store' : Store} {reply : Except Failure (Answer command)}
      {value : Answer command} (executed : some (choice.delivery.deliver .remote { store with clock := choice.now }
        (effect { store with clock := choice.now } command) value) = some (store', reply)) :
      (store' = { store with clock := choice.now } ∨ choice.delivery ≠ .refused ∧
        store' = effect { store with clock := choice.now } command) ∧ ∀ other, reply = .ok other → other = value := by
    cases delivery : choice.delivery with
    | answered =>
      rw [delivery] at executed
      obtain ⟨rfl, rfl⟩ := Prod.mk.inj (Option.some.inj executed)
      exact ⟨.inr ⟨nofun, rfl⟩, fun _ same => (Except.ok.inj same).symm⟩
    | lost =>
      rw [delivery] at executed
      obtain ⟨rfl, rfl⟩ := Prod.mk.inj (Option.some.inj executed)
      exact ⟨.inr ⟨nofun, rfl⟩, nofun⟩
    | refused =>
      rw [delivery] at executed
      obtain ⟨rfl, rfl⟩ := Prod.mk.inj (Option.some.inj executed)
      exact ⟨.inl rfl, nofun⟩
  cases command with
  | receive | dateNow | measure | random =>
    obtain ⟨rfl, rfl⟩ := Prod.mk.inj (Option.some.inj executed)
    exact ⟨.inl rfl, fun _ same => (Except.ok.inj same).symm⟩
  | insertConnection id row counted =>
    dsimp only at executed
    split at executed
    · obtain ⟨rfl, rfl⟩ := Prod.mk.inj (Option.some.inj executed)
      exact ⟨.inl rfl, nofun⟩
    next free =>
    obtain ⟨kept | ⟨effective, applied⟩, -⟩ := @delivered (.insertConnection id row counted) _ _ _ executed
    · exact ⟨.inl kept, fun _ _ => rfl⟩
    · refine ⟨.inr ⟨effective, applied, ?_⟩, fun _ _ => rfl⟩
      intro other row' counted' same
      cases same
      exact Option.not_isSome_iff_eq_none.mp free
  | _ =>
    obtain ⟨kept | ⟨effective, applied⟩, answered⟩ := delivered executed
    · exact ⟨.inl kept, answered⟩
    · exact ⟨.inr ⟨effective, applied, nofun⟩, answered⟩

/-- A row is live as it was inserted, or erased. -/
structure RowKept (aead : Aead) (env : Env) (clock : ℕ) (id : String) (row : ConnectionRow) : Prop where
  auth_type : row.auth_type = "api_token"
  measured : row.submitted ≤ row.measured ∧ row.measured ≤ clock
  state : Issued aead env id row ∨ row.revoked_at.isSome ∧ row.access_token_enc ∈ ["erased", "expired"] ∧
    row.expires_at = none

def RowsKept (aead : Aead) (env : Env) (store : Store) : Prop :=
  ∀ id row, store.oauth_connections.get? id = some row → RowKept aead env store.clock id row

/-- What a task has read is not later than the clock, and was read in order. -/
structure PhaseKept (clock : ℕ) (phase : Phase) : Prop where
  submitted : ∀ now ∈ phase.submitted, now ≤ clock
  measured : ∀ now ∈ phase.measured, now ≤ clock ∧ ∀ before ∈ phase.submitted, before ≤ now
  read : ∀ now ∈ phase.read, now ≤ clock

theorem RowKept.later {clock now : ℕ} {id : String} {row : ConnectionRow} (kept : RowKept aead env clock id row)
    (later : clock ≤ now) : RowKept aead env now id row :=
  ⟨kept.auth_type, ⟨kept.measured.1, Nat.le_trans kept.measured.2 later⟩, kept.state⟩

theorem PhaseKept.later {clock now : ℕ} (kept : PhaseKept clock phase) (later : clock ≤ now) : PhaseKept now phase :=
  ⟨fun time member => Nat.le_trans (kept.submitted time member) later,
    fun time member => ⟨Nat.le_trans (kept.measured time member).1 later, (kept.measured time member).2⟩,
    fun time member => Nat.le_trans (kept.read time member) later⟩

theorem RowKept.erase {clock : ℕ} {id marker : String} {row : ConnectionRow} (kept : RowKept aead env clock id row)
    (known : marker ∈ ["erased", "expired"]) (now : ℕ) : RowKept aead env clock id (row.erase marker now) :=
  ⟨kept.auth_type, kept.measured, .inr ⟨rfl, known, rfl⟩⟩

theorem rowsKept_effect (kept : RowsKept aead env store) (inserts : ∀ id row counted, command = .insertConnection id row counted →
    RowKept aead env store.clock id row) : RowsKept aead env (effect store command) := by
  cases command with
  | insertConnection id row counted =>
    intro other found present
    rw [effect, OrderedMap.get?_alter] at present
    split at present
    · next same =>
      cases present
      exact same ▸ inserts id _ counted rfl
    · exact kept other found present
  | eraseExpired erasedAt =>
    intro other found present
    rw [effect, OrderedMap.get?_mapValues] at present
    obtain ⟨row, before, rfl⟩ := Option.map_eq_some_iff.mp present
    split
    · exact (kept other row before).erase (by simp) erasedAt
    · exact kept other row before
  | scrub connectionId revokedAt =>
    intro other found present
    rw [effect, OrderedMap.get?_mapValues] at present
    obtain ⟨row, before, rfl⟩ := Option.map_eq_some_iff.mp present
    split
    · exact (kept other row before).erase (by simp) revokedAt
    · exact kept other row before
  | _ => exact kept

/-- A revoked row is left alone by every statement. -/
theorem frozen_effect {id : String} {row : ConnectionRow} (present : store.oauth_connections.get? id = some row)
    (revoked : row.revoked_at.isSome) (free : ∀ other row counted, command = .insertConnection other row counted →
      store.oauth_connections.get? other = none) : (effect store command).oauth_connections.get? id = some row := by
  have notNull : row.revoked_at ≠ none := Option.isSome_iff_ne_none.mp revoked
  cases command with
  | insertConnection other row' counted =>
    have different : id ≠ other := by
      rintro rfl
      rw [free id row' counted rfl] at present
      contradiction
    rw [effect, OrderedMap.get?_alter, if_neg different]
    exact present
  | eraseExpired erasedAt =>
    rw [effect, OrderedMap.get?_mapValues, present, Option.map_some, if_neg fun erased => notNull erased.2.1]
  | scrub connectionId revokedAt =>
    rw [effect, OrderedMap.get?_mapValues, present, Option.map_some, if_neg fun erased => notNull erased.2]
  | _ => exact present

/-- What a task reads next is in order. -/
theorem phaseKept_next {clock : ℕ} (kept : PhaseKept clock phase) (later : clock ≤ choice.now)
    (called : (requests aead env).allowed phase command)
    (answered : ∀ value, reply = .ok value → value = answer choice store command) :
    PhaseKept choice.now ((requests aead env).next phase command reply) := by
  have same := kept.later later
  cases reply with
  | error => cases command <;> exact same
  | ok value =>
    obtain rfl := answered value rfl
    cases command with
    | receive =>
      refine ⟨fun now member => ?_, fun now member => ?_, same.read⟩
      · cases member
        exact Nat.le_refl _
      · have member : now ∈ phase.measured := member
        rw [show phase.measured = none from called] at member
        contradiction
    | dateNow =>
      refine ⟨same.submitted, same.measured, fun now member => ?_⟩
      cases member
      exact Nat.le_refl _
    | measure =>
      refine ⟨same.submitted, fun now member => ?_, same.read⟩
      cases member
      exact ⟨Nat.le_refl _, same.submitted⟩
    | countLive tenantId now => exact ⟨same.submitted, same.measured, same.read⟩
    | _ => exact same

/-- The markers are no envelopes. -/
theorem marker_undecryptable {marker : String} (known : marker ∈ ["erased", "expired"]) (encodedKey aad : String)
    (value : Json) : decryptJson aead marker encodedKey aad ≠ .ok value := by
  intro decrypted
  have shape : Security.layout? (marker.toList.splitOn '.') = none := by
    rcases List.mem_pair.mp known with rfl | rfl <;> decide
  rw [decryptJson, shape] at decrypted
  cases imported : Security.importEncryptionKey encodedKey with
  | error => rw [imported] at decrypted; contradiction
  | ok key => rw [imported] at decrypted; contradiction

end

/-! ## Lifecycle -/

section

variable {aead : Aead} {env : Env}

theorem kept_run (opens : ∀ sealing, Security.Opens aead sealing) {events : List Event} {world : World}
    (run : (host aead env).machine.Run Free ⟨{}, []⟩ events world) : RowsKept aead env world.store := by
  have played : (host aead env).Plays (requests aead env) (fun _ _ => True) (fun _ => {}) (fun _ _ => []) := plays opens
  have kept := played.preserves
    (fun store held => RowsKept aead env store ∧ ∀ phase ∈ held, PhaseKept store.clock phase) ?_ ?_ run
    ⟨[], .nil, nofun, nofun⟩
  · obtain ⟨_, _, rows, -⟩ := kept
    exact rows
  · intro world held operation _ ⟨rows, phases⟩ _
    refine ⟨rows, fun phase member => ?_⟩
    rcases List.mem_append.mp member with old | new
    · exact phases phase old
    · rw [List.mem_singleton.mp new]
      exact ⟨nofun, nofun, nofun⟩
  · intro world held position choice task command store reply phase _ ⟨rows, phases⟩ _ _ _ inPhase called executed
    have executed : exec command choice world.store = some (store, reply) := executed
    obtain ⟨later, changed, answered⟩ := exec_cases executed
    have mine := phases phase (List.mem_of_getElem? inPhase)
    have ticked : RowsKept aead env { world.store with clock := choice.now } :=
      fun id row present => (rows id row present).later later
    have clock : store.clock = choice.now := by
      rcases changed with rfl | ⟨-, rfl, -⟩
      · rfl
      · cases command <;> rfl
    refine ⟨?_, fun other member => ?_⟩
    · rcases changed with rfl | ⟨-, rfl, -⟩
      · exact ticked
      · apply rowsKept_effect ticked
        intro id row counted same
        subst same
        obtain ⟨-, -, submitted, measured, issued⟩ := called
        have times := mine.measured row.measured measured
        exact ⟨issued.auth_type, ⟨times.2 row.submitted submitted, Nat.le_trans times.1 later⟩, .inl issued⟩
    · rw [clock]
      rcases Host.mem_set_append member with rfl | old | spawned
      · exact phaseKept_next mine later called answered
      · exact (phases other old).later later
      · contradiction

/-- A revoked row stays as it is. -/
theorem frozen_run {events : List Event} {world world' : World} (run : (host aead env).machine.Run Free world events world')
    {id : String} {row : ConnectionRow} (present : world.store.oauth_connections.get? id = some row)
    (revoked : row.revoked_at.isSome) : world'.store.oauth_connections.get? id = some row := by
  refine run.preserves (fun world => world.store.oauth_connections.get? id = some row) ?_ present
  intro before event after present _ stepped
  cases event with
  | start operation =>
    rw [Host.step?_start, Option.some.injEq] at stepped
    exact stepped ▸ present
  | act position choice =>
    obtain ⟨command, next, store, reply, -, executed, rfl⟩ := Host.step?_act_iff.mp stepped
    have executed : exec command choice before.store = some (store, reply) := executed
    obtain ⟨-, rfl | ⟨-, rfl, free⟩, -⟩ := exec_cases executed
    · exact present
    · exact frozen_effect present revoked free

/-- In every state that is reached, a row is live exactly when its token decrypts under its id, and bears a marker and no
expiry otherwise; a row that is read gives access only while it is live and unexpired; and a live row expires by the local
lifetime, counted from the time when it was computed after the request arrived, and by the time its token does. A revoked
row never changes. -/
theorem connections_lifecycle (opens : ∀ sealing, Security.Opens aead sealing) {events : List Event} {world : World}
    (run : (host aead env).machine.Run Free ⟨{}, []⟩ events world) :
    (∀ id row, world.store.oauth_connections.get? id = some row → row.auth_type = "api_token" →
      (row.revoked_at = none ↔ ∃ token,
        decryptJson aead row.access_token_enc env.TOKEN_ENCRYPTION_KEY (tokenContext id) = .ok token) ∧
      (row.revoked_at ≠ none → row.access_token_enc ∈ ["erased", "expired"] ∧ row.expires_at = none) ∧
      (∀ now auth, getValidCloudflareAuth aead env now id row = .ok auth →
        row.revoked_at = none ∧ ∃ expiresAt, row.expires_at = some expiresAt ∧ now < expiresAt) ∧
      (row.revoked_at = none → row.submitted ≤ row.measured ∧ row.measured ≤ world.store.clock ∧
        ∃ expiresAt, row.expires_at = some expiresAt ∧ expiresAt ≤ row.measured + env.ttl ∧
          ∀ remote ∈ row.remote, expiresAt ≤ remote)) ∧
    ∀ more world', (host aead env).machine.Run Free world more world' → ∀ id row,
      world.store.oauth_connections.get? id = some row → row.revoked_at ≠ none →
      world'.store.oauth_connections.get? id = some row := by
  refine ⟨fun id row present _ => ?_, fun more world' onward id row present revoked =>
    frozen_run onward present (Option.isSome_iff_ne_none.mpr revoked)⟩
  have kept := kept_run opens run id row present
  have access {now : ℕ} {auth : Json} (given : getValidCloudflareAuth aead env now id row = .ok auth) :
      row.revoked_at = none ∧ ¬ row.expires_at.any (· ≤ now) = true := by
    unfold getValidCloudflareAuth at given
    split at given
    · contradiction
    · next live =>
      split at given
      · contradiction
      · split at given
        · contradiction
        · next unexpired => exact ⟨Option.not_isSome_iff_eq_none.mp live, unexpired⟩
  rcases kept.state with issued | ⟨revoked, marker, erased⟩
  · obtain ⟨expiresAt, given, bounds⟩ := issued.bounded
    refine ⟨iff_of_true issued.revoked_at ⟨_, issued.sealed⟩, fun revoked => absurd issued.revoked_at revoked, ?_, ?_⟩
    · intro now auth granted
      refine ⟨issued.revoked_at, expiresAt, given, ?_⟩
      have unexpired := (access granted).2
      rw [given, Option.any_some, decide_eq_true_eq] at unexpired
      exact Nat.not_le.mp unexpired
    · exact fun _ => ⟨kept.measured.1, kept.measured.2, expiresAt, given, bounds⟩
  · have notNull : row.revoked_at ≠ none := Option.isSome_iff_ne_none.mp revoked
    exact ⟨iff_of_false notNull fun ⟨token, decrypted⟩ => marker_undecryptable marker _ _ token decrypted,
      fun _ => ⟨marker, erased⟩, fun now auth granted => absurd (access granted).1 notNull,
      fun live => absurd live notNull⟩

end

/-! ## At most three live connections -/

/-- The rows that a tenant's requests have inserted since one of them counted. -/
def Store.since (store : Store) (tenantId : String) (counted : Counted) : ℕ := store.inserted.count tenantId - counted.seen

/-- Between the count of a request and its insert, other requests of the tenant leave it the place that it counted on. -/
def InsertsInTurn (world : World) : Event → Prop :=
  Host.Acting (fun command choice store => ∀ id row counted, command = .insertConnection id row counted →
    choice.delivery ≠ .refused → counted.count < 3 → counted.count + store.since row.tenant_id counted < 3) world

section

variable {aead : Aead} {env : Env} {store store' : Store} {command : Command} {choice : Choice}
  {reply : Except Failure (Answer command)}

/-- Time only ends connections. -/
theorem live_antitone {earlier later : ℕ} (passed : earlier ≤ later) (tenantId : String) :
    store.live later tenantId ≤ store.live earlier tenantId := by
  apply List.countP_mono_left
  intro entry _ alive
  simp only [ConnectionRow.live, Bool.and_eq_true] at alive ⊢
  obtain ⟨others, unexpired⟩ := alive
  obtain ⟨expiresAt, given, after⟩ := (Option.any_eq_true _ _).mp unexpired
  refine ⟨others, (Option.any_eq_true _ _).mpr ⟨expiresAt, given, ?_⟩⟩
  rw [decide_eq_true_eq] at after ⊢
  omega

/-- Rows that are rewritten or erased are not more. -/
theorem live_mapValues {update : String → ConnectionRow → ConnectionRow} {now : ℕ} {tenantId : String}
    (keeps : ∀ id row, (update id row).live now tenantId = true → row.live now tenantId = true) :
    { store with oauth_connections := store.oauth_connections.mapValues update : Store }.live now tenantId ≤
      store.live now tenantId := by
  rw [Store.live, OrderedMap.mapValues, List.countP_map]
  exact List.countP_mono_left fun entry _ alive => keeps entry.1 entry.2 alive

theorem not_live_erase (marker : String) (at_ now : ℕ) (tenantId : String) (row : ConnectionRow) :
    (row.erase marker at_).live now tenantId = false := by
  simp [ConnectionRow.erase, ConnectionRow.live]

/-- A statement adds at most the row that it inserts. -/
theorem live_exec (executed : exec command choice store = some (store', reply)) (tenantId : String) :
    ∃ more, store'.inserted.count tenantId = store.inserted.count tenantId + more ∧
      (∀ now, store'.live now tenantId ≤ store.live now tenantId + more) ∧
      (more ≠ 0 → more = 1 ∧ choice.delivery ≠ .refused ∧
        ∃ id row counted, command = .insertConnection id row counted ∧ row.tenant_id = tenantId) := by
  obtain ⟨-, rfl | ⟨effective, rfl, free⟩, -⟩ := exec_cases executed
  · exact ⟨0, rfl, fun _ => Nat.le_refl _, fun some => absurd rfl some⟩
  cases command with
  | insertConnection id row counted =>
    have absent := free id row counted rfl
    have added (now : ℕ) : (effect { store with clock := choice.now } (.insertConnection id row counted)).live now tenantId =
        store.live now tenantId + if row.live now tenantId then 1 else 0 := by
      rw [Store.live, effect, OrderedMap.alter_entries_of_absent absent, List.countP_append, List.countP_singleton]
      rfl
    by_cases mine : row.tenant_id = tenantId
    · refine ⟨1, ?_, fun now => ?_, fun _ => ⟨rfl, effective, id, row, counted, rfl, mine⟩⟩
      · rw [effect, mine, List.count_cons_self]
      · rw [added]
        split <;> omega
    · refine ⟨0, ?_, fun now => ?_, fun some => absurd rfl some⟩
      · rw [effect, List.count_cons_of_ne mine]
        rfl
      · have dead : row.live now tenantId = false := by simp [ConnectionRow.live, mine]
        rw [added, dead]
        exact Nat.le_refl _
  | eraseExpired erasedAt =>
    refine ⟨0, rfl, fun now => live_mapValues fun id row alive => ?_, fun some => absurd rfl some⟩
    split at alive
    · rw [not_live_erase] at alive
      contradiction
    · exact alive
  | scrub connectionId revokedAt =>
    refine ⟨0, rfl, fun now => live_mapValues fun id row alive => ?_, fun some => absurd rfl some⟩
    split at alive
    · rw [not_live_erase] at alive
      contradiction
    · exact alive
  | _ => exact ⟨0, rfl, fun _ => Nat.le_refl _, fun some => absurd rfl some⟩

/-- Not more live rows than were counted and have been inserted since. -/
def Counts (store : Store) (tenantId : String) (counted : Counted) : Prop :=
  counted.seen ≤ store.inserted.count tenantId ∧
    store.live store.clock tenantId ≤ counted.count + store.since tenantId counted

structure Capped (store : Store) (held : List Phase) : Prop where
  live : ∀ tenantId, store.live store.clock tenantId ≤ 3
  read : ∀ phase ∈ held, ∀ now ∈ phase.read, now ≤ store.clock
  counts : ∀ phase ∈ held, ∀ tenantId counted, phase.counted = some (tenantId, counted) → Counts store tenantId counted

theorem exec_clock (executed : exec command choice store = some (store', reply)) :
    store.clock ≤ choice.now ∧ store'.clock = choice.now := by
  obtain ⟨later, rfl | ⟨-, rfl, -⟩, -⟩ := exec_cases executed
  · exact ⟨later, rfl⟩
  · exact ⟨later, by cases command <;> rfl⟩

theorem Counts.exec {tenantId : String} {counted : Counted} (counts : Counts store tenantId counted)
    (executed : exec command choice store = some (store', reply)) : Counts store' tenantId counted := by
  obtain ⟨later, clock⟩ := exec_clock executed
  obtain ⟨more, inserted, live, -⟩ := live_exec executed tenantId
  have passed : store.live choice.now tenantId ≤ store.live store.clock tenantId := live_antitone later tenantId
  have added := live choice.now
  obtain ⟨seen, before⟩ := counts
  rw [Store.since] at before
  rw [Counts, Store.since, inserted, clock]
  omega

theorem capped_exec {held : List Phase} {position : ℕ} {phase : Phase} (capped : Capped store held)
    (inPhase : held[position]? = some phase) (called : (requests aead env).allowed phase command)
    (inTurn : ∀ id row counted, command = .insertConnection id row counted → choice.delivery ≠ .refused →
      counted.count < 3 → counted.count + store.since row.tenant_id counted < 3)
    (executed : exec command choice store = some (store', reply)) :
    Capped store' (held.set position ((requests aead env).next phase command reply) ++ []) := by
  obtain ⟨later, clock⟩ := exec_clock executed
  have mine := List.mem_of_getElem? inPhase
  have read : ∀ now ∈ ((requests aead env).next phase command reply).read, now ≤ choice.now := by
    intro now member
    have kept (unchanged : now ∈ phase.read) : now ≤ choice.now := Nat.le_trans (capped.read phase mine now unchanged) later
    cases reply with
    | error => cases command <;> exact kept member
    | ok value =>
      have known := (exec_cases executed).2.2 value rfl
      cases command with
      | dateNow =>
        cases member
        rw [known]
        exact Nat.le_refl _
      | _ => exact kept member
  refine ⟨fun tenantId => ?_, fun other member => ?_, fun other member tenantId counted given => ?_⟩
  · obtain ⟨more, inserted, live, insert⟩ := live_exec executed tenantId
    have passed : store.live choice.now tenantId ≤ store.live store.clock tenantId := live_antitone later tenantId
    have few := capped.live tenantId
    have added := live choice.now
    rw [clock]
    by_cases none : more = 0
    · omega
    · obtain ⟨one, effective, id, row, counted, rfl, rfl⟩ := insert none
      -- the request has got past its own check
      obtain ⟨counts, checked, -⟩ := called
      have before := (capped.counts phase mine row.tenant_id counted counts).2
      have room := inTurn id row counted rfl effective checked
      omega
  · rw [clock]
    rcases Host.mem_set_append member with rfl | old | spawned
    · exact read
    · exact fun now inRead => Nat.le_trans (capped.read other old now inRead) later
    · contradiction
  · rcases Host.mem_set_append member with rfl | old | spawned
    · have kept (unchanged : phase.counted = some (tenantId, counted)) : Counts store' tenantId counted :=
        (capped.counts phase mine tenantId counted unchanged).exec executed
      cases reply with
      | error => cases command <;> exact kept given
      | ok value =>
        cases command with
        | countLive counting now =>
          -- what was counted at an earlier time is not less than what is live
          obtain ⟨rfl, rfl⟩ := Prod.mk.inj (Option.some.inj given)
          obtain ⟨-, changed, answered⟩ := exec_cases executed
          have known := answered _ rfl
          have same : store' = { store with clock := choice.now } := by
            rcases changed with same | ⟨-, same, -⟩ <;> exact same
          have early := Nat.le_trans (capped.read phase mine now called) later
          rw [same, known]
          refine ⟨Nat.le_refl _, ?_⟩
          change store.live choice.now counting ≤ store.live now counting + _
          exact Nat.le_add_right_of_le (live_antitone early counting)
        | _ => exact kept given
    · exact (capped.counts other old tenantId counted given).exec executed
    · contradiction

end

/-- A tenant never has more than three live connections, as long as no request loses the place that it counted on to others
of the tenant before its insert. -/
theorem at_most_three_live {aead : Aead} {env : Env} (opens : ∀ sealing, Security.Opens aead sealing) {events : List Event}
    {world : World} (run : (host aead env).machine.Run InsertsInTurn ⟨{}, []⟩ events world) (tenantId : String) (now : ℕ)
    (present : world.store.clock ≤ now) : world.store.live now tenantId ≤ 3 := by
  have played : (host aead env).Plays (requests aead env) (fun _ _ => True) (fun _ => {}) (fun _ _ => []) := plays opens
  have kept := played.preserves Capped ?_ ?_ run ⟨[], .nil, ?_⟩
  · obtain ⟨_, _, capped⟩ := kept
    exact Nat.le_trans (live_antitone present tenantId) (capped.live tenantId)
  · intro world held operation _ capped _
    have begun {phase : Phase} (member : phase ∈ held ++ [{}]) : phase ∈ held ∨ phase = {} :=
      (List.mem_append.mp member).imp id List.mem_singleton.mp
    refine ⟨capped.live, fun phase member => ?_, fun phase member => ?_⟩
    · rcases begun member with old | rfl
      · exact capped.read phase old
      · exact nofun
    · rcases begun member with old | rfl
      · exact capped.counts phase old
      · exact nofun
  · intro world held position choice task command store reply phase _ capped inTurn atPosition awaits inPhase called executed
    exact capped_exec capped inPhase called (inTurn.of_awaits atPosition awaits) executed
  · exact ⟨fun _ => Nat.zero_le _, nofun, nofun⟩

instance (world : World) (event : Event) : Decidable (InsertsInTurn world event) :=
  match event with
  | .start _ => .isTrue trivial
  | .act position choice =>
    match found : world.tasks[position]? with
    | some (.call command next) =>
      match known : command with
      | .insertConnection id row counted => decidable_of_iff (choice.delivery ≠ .refused → counted.count < 3 →
            counted.count + world.store.since row.tenant_id counted < 3) (by
          rw [InsertsInTurn, Host.acting_iff found]
          constructor
          · intro met id' row' counted' same
            cases same
            exact met
          · exact fun met => met id row counted rfl)
      | .receive | .dateNow | .measure | .rateLimit _ | .verifyToken _ | .listZones _ | .listAccounts _ | .probe ..
      | .countLive .. | .random | .eraseExpired _ | .countDeployments .. | .selectConnection .. | .scrub .. | .audit =>
        .isTrue (by
          rw [InsertsInTurn, Host.acting_iff found]
          exact nofun)
    | some (.done _) | some (.fail _) | none => .isTrue fun _ _ same => nomatch found.symm.trans same

namespace Sample

theorem padded_length (sealing : Sealing) :
    (sealing.plaintext ++ List.replicate 16 0).length = sealing.plaintext.length + 16 := by simp

theorem dataKey_length : (List.replicate 32 (1 : UInt8)).length = 32 := rfl

theorem wrapNonce_length : (List.replicate 12 (2 : UInt8)).length = 12 := rfl

theorem dataNonce_length : (List.replicate 12 (3 : UInt8)).length = 12 := rfl

/-- A cipher that hides nothing. -/
def aead : Aead where
  encrypt sealing := sealing.plaintext ++ List.replicate 16 0
  decrypt _ _ _ ciphertext := some (ciphertext.take (ciphertext.length - 16))
  encrypt_length := padded_length

theorem opens (sealing : Sealing) : Security.Opens aead sealing := by
  simp [Security.Opens, aead]

def env : Env where
  TOKEN_ENCRYPTION_KEY := String.ofList (List.replicate 43 'A')

def zone : TokenZone where
  id := "0123456789abcdef0123456789abcdef"
  name := "example.com"
  status := "active"
  account := some ("fedcba9876543210fedcba9876543210", "account")

/-- Everything is allowed and answered at this time, with this id. -/
def choice (now : ℕ) (id : String) : Choice where
  now := now
  zones := [zone]
  id := id
  drawn := ⟨List.replicate 32 1, List.replicate 12 2, List.replicate 12 3, dataKey_length, wrapNonce_length,
    dataNonce_length⟩

def submit : Event := .start (.createTemporaryApiTokenConnection "tenant" (some "0123456789abcdefghij"))

/-- The steps of the request at a position, at a time. -/
def acts (count position now : ℕ) (id : String) : List Event := List.replicate count (.act position (choice now id))

/-- Cloudflare takes half a second to verify the token. -/
def slowVerification : List Event := submit :: acts 4 0 0 "c1" ++ acts 12 0 500 "c1"

/-- Four requests, one after the other. -/
def inTurn : List Event := (submit :: acts 16 0 0 "c1") ++ (submit :: acts 16 1 0 "c2") ++ (submit :: acts 16 2 0 "c3") ++
  (submit :: acts 12 3 0 "c4")

/-- Two requests, one after the other, and two more at once: both count two connections before either inserts its own. -/
def atOnce : List Event := (submit :: acts 16 0 0 "c1") ++ (submit :: acts 16 1 0 "c2") ++ [submit, submit] ++
  acts 12 2 0 "c3" ++ acts 12 3 0 "c4" ++ acts 4 2 0 "c3" ++ acts 4 3 0 "c4"

end Sample

open Sample

theorem connections_lifecycle_slowVerification : ∃ world row,
    (host aead env).machine.Run Free ⟨{}, []⟩ slowVerification world ∧
      world.store.oauth_connections.get? "c1" = some row ∧ row.revoked_at = none ∧ ∃ token,
        decryptJson aead row.access_token_enc env.TOKEN_ENCRYPTION_KEY (tokenContext "c1") = .ok token := by
  have evaluated : ((host aead env).machine.replay? ⟨{}, []⟩ slowVerification).any (fun world =>
      (world.store.oauth_connections.get? "c1").any fun row => row.revoked_at = none ∧ row.auth_type = "api_token") = true := by
    decide +kernel
  obtain ⟨world, replayed, checked⟩ := (Option.any_eq_true _ _).mp evaluated
  obtain ⟨row, present, live⟩ := (Option.any_eq_true _ _).mp checked
  obtain ⟨notRevoked, isToken⟩ := of_decide_eq_true live
  have run := Run.free_iff_replay.mpr replayed
  exact ⟨world, row, run, present, notRevoked,
    ((connections_lifecycle opens run).1 "c1" row present isToken).1.mp notRevoked⟩

/-- The connection outlives the local lifetime counted from the arrival of its request. -/
theorem outlives_submission : ∃ world row, (host aead env).machine.Run Free ⟨{}, []⟩ slowVerification world ∧
    world.store.oauth_connections.get? "c1" = some row ∧ row.revoked_at = none ∧ row.remote = none ∧
      row.expires_at = some (row.submitted + env.ttl + 500) := by
  have evaluated : ((host aead env).machine.replay? ⟨{}, []⟩ slowVerification).any (fun world =>
      (world.store.oauth_connections.get? "c1").any fun row => row.revoked_at = none ∧ row.remote = none ∧
        row.expires_at = some (row.submitted + env.ttl + 500)) = true := by
    decide +kernel
  obtain ⟨world, replayed, checked⟩ := (Option.any_eq_true _ _).mp evaluated
  obtain ⟨row, present, facts⟩ := (Option.any_eq_true _ _).mp checked
  exact ⟨world, row, Run.free_iff_replay.mpr replayed, present, of_decide_eq_true facts⟩

/-- The fourth request is refused. -/
theorem at_most_three_live_inTurn : ∃ world, (host aead env).machine.Run InsertsInTurn ⟨{}, []⟩ inTurn world ∧
    world.store.inserted.length = 3 ∧ world.store.live world.store.clock "tenant" ≤ 3 := by
  have evaluated : ((host aead env).machine.checked? (fun world event => decide (InsertsInTurn world event)) ⟨{}, []⟩
      inTurn).any (fun world => decide (world.store.inserted.length = 3)) = true := by decide +kernel
  obtain ⟨world, replayed, three⟩ := (Option.any_eq_true _ _).mp evaluated
  have run : (host aead env).machine.Run InsertsInTurn ⟨{}, []⟩ inTurn world :=
    Run.of_checked (fun _ _ => of_decide_eq_true) replayed
  exact ⟨world, run, of_decide_eq_true three, at_most_three_live opens run "tenant" _ (Nat.le_refl _)⟩

/-- Both requests find room for one, and the tenant has four connections. -/
theorem four_live : ∃ world, (host aead env).machine.Run Free ⟨{}, []⟩ atOnce world ∧
    world.store.live world.store.clock "tenant" = 4 := by
  have evaluated : ((host aead env).machine.replay? ⟨{}, []⟩ atOnce).any
      (fun world => world.store.live world.store.clock "tenant" = 4) = true := by decide +kernel
  obtain ⟨world, replayed, four⟩ := (Option.any_eq_true _ _).mp evaluated
  exact ⟨world, Run.free_iff_replay.mpr replayed, of_decide_eq_true four⟩

end OmniControlPlane.Portal.ApiTokens
