import OmniControlPlane.Panel.Columns

/-! # The agent channel

The eight routes of `api/agent.js`, from the dispatch of the Worker to the answer that the control plane
reads. A handler that is refused returns what `guard` gives it: a response where no key is set, but an
`HttpError` where the key is wrong, which nobody throws.
-/

namespace OmniControlPlane.Panel.Agent

open Lib Machine
open JavaScript (Js Fields)

/-- What a handler throws. -/
inductive Failure where
  | http (status : ℕ) (message : String)
  | other

structure AuditRow where
  actor : String
  action : String
  target : Option String := none
deriving DecidableEq, Repr

/-- The tables that the routes write, and the setting `admin_hash`. -/
structure Db where
  users : Columns.Table := .empty
  sessions : List String := []
  adminHash : Option String := none
  audit : List AuditRow := []

inductive Route where
  | health | users | createUser | userConfigs (username : String) | userReset (username : String)
  | deleteUser (username : String) | adminReset | adminPassword
deriving DecidableEq, Repr

/-- A request that no subscription has the prefix of, with what its course depends on: whether `ensureSchema` and
`authenticate` succeed, which of the calls of its handler fails, what `readJson` gives, and what `String` and
`hashPassword` make of its body. -/
structure Request where
  route : Route
  upgrade : Option String := none
  agentKey : Option String := none
  provisioned : Bool := true
  authenticates : Bool := true
  body : Option Js := some (.object [])
  username : String := ""
  password : String := ""
  passwordHash : String := ""
  now : ℤ := 0
  fails : ℕ → Bool := fun _ => false
  auditFails : Bool := false

inductive Body where
  | json (ok : Bool) (error : Option String)
  | text (content : String)
  | empty
deriving DecidableEq, Repr

structure Response where
  status : ℕ
  body : Body
deriving DecidableEq, Repr

/-- What a handler returns: a response, or an error that it should have thrown. -/
inductive Returned where
  | response (response : Response)
  | httpError (status : ℕ) (message : String)

def ok : Returned := .response ⟨200, .json true none⟩

abbrev Outcome := Db × Except Failure Returned

/-! ## The handlers -/

/-- The errors of the functions on users, in the name of a user. -/
def failure (username : String) : Columns.Failure → Failure
  | .badRequest message => .http 400 message
  | .notFound => .http 404 "user not found"
  | .conflict => .http 409 s!"کاربر «{username}» از قبل وجود دارد"
  | .typeError | .database _ => .other

def guard (agentKey : Option String) (request : Request) : Option Returned :=
  let key := agentKey.getD ""
  if key = "" then some (.response ⟨503, .json false (some "AGENT_KEY تنظیم نشده است")⟩)
  else if request.agentKey.getD "" ≠ key then some (.httpError 403 "کلید عامل نامعتبر است")
  else none

/-- `audit`, which swallows the failure of its statement. -/
def audit (db : Db) (request : Request) (action : String) (target : Option String := none) : Db :=
  if request.auditFails then db else { db with audit := db.audit ++ [⟨"agent", action, target⟩] }

def isUsername (text : List Char) : Bool :=
  3 ≤ text.length && text.length ≤ 32 && text.all fun char => char.isAlphanum || char ∈ ['.', '_', '-']

/-- `create`: the insertion, the row again, the audit and the configurations. -/
def create (config : Columns.Config) (db : Db) (request : Request) : Outcome :=
  let username := String.ofList (trim request.username)
  match request.body with
  | none => (db, .error .other)
  | some body =>
    if !isUsername username.toList then (db, .error (.http 400 "نام کاربری باید ۳ تا ۳۲ حرف انگلیسی/عدد/._- باشد"))
    else
      match (Columns.newUserInput config (body.fields.getD []) request.now).bind
        (Columns.createUser db.users username) with
      | .error error => (db, .error (failure username error))
      | .ok users =>
        if request.fails 0 then (db, .error .other)
        else
          let db := { db with users := users }
          if request.fails 1 then (db, .error .other)
          else
            let db := audit db request "user.create" username
            if request.fails 2 then (db, .error .other) else (db, .ok ok)

/-- `getOne`, with the configurations -/
def getOne (db : Db) (request : Request) (username : String) : Outcome :=
  if request.fails 0 then (db, .error .other)
  else if (db.users.get? username).isNone then (db, .error (.http 404 "user not found"))
  else if request.fails 1 then (db, .error .other)
  else (db, .ok ok)

/-- `reset`, which looks for the user after its statement and its audit. -/
def reset (db : Db) (request : Request) (username : String) : Outcome :=
  match request.body.bind (·.fields) with
  | none => (db, .error .other)
  | some body =>
    match Columns.reset db.users username body request.now with
    | .error error => (db, .error (failure username error))
    | .ok users =>
      if request.fails 0 then (db, .error .other)
      else
        let db := audit { db with users := users } request "user.reset" username
        if request.fails 1 then (db, .error .other)
        else if (db.users.get? username).isNone then (db, .error (.http 404 "user not found"))
        else (db, .ok ok)

def remove (db : Db) (request : Request) (username : String) : Outcome :=
  if request.fails 0 then (db, .error .other)
  else if (db.users.get? username).isNone then (db, .error (.http 404 "user not found"))
  else
    (audit { db with users := db.users.filter fun other _ => other != username } request "user.delete" username, .ok ok)

/-- A handler that only reads. -/
def reads (db : Db) (request : Request) : Outcome :=
  if request.fails 0 ∨ request.fails 1 then (db, .error .other) else (db, .ok ok)

/-- The admin hash is wiped, then the sessions are deleted. -/
def adminReset (db : Db) (request : Request) : Outcome :=
  if request.fails 0 then (db, .error .other)
  else
    let db := { db with adminHash := some "" }
    if request.fails 1 then (db, .error .other) else ({ db with sessions := [] }, .ok ok)

def adminPassword (db : Db) (request : Request) : Outcome :=
  match request.body with
  | none => (db, .error .other)
  | some _ =>
    if (utf16 request.password).length < 10 then (db, .error (.http 400 "password must be at least 10 characters"))
    else if request.fails 0 then (db, .error .other)
    else
      let db := { db with adminHash := some request.passwordHash }
      if request.fails 1 then (db, .error .other)
      else (audit { db with sessions := [] } request "admin.password.set", .ok ok)

/-- The handler of a route behind its guard. -/
def allowed (config : Columns.Config) (db : Db) (request : Request) : Outcome :=
  match request.route with
  | .health | .users => reads db request
  | .createUser => create config db request
  | .userConfigs username => getOne db request username
  | .userReset username => reset db request username
  | .deleteUser username => remove db request username
  | .adminReset => adminReset db request
  | .adminPassword => adminPassword db request

def handler (config : Columns.Config) (agentKey : Option String) (db : Db) (request : Request) : Outcome :=
  match guard agentKey request with
  | some denied => (db, .ok denied)
  | none => allowed config db request

/-! ## The Worker and the control plane -/

/-- `new Response(res.body, { status: res.status })`; an error has a status and no body. -/
def withSecurity : Returned → Response
  | .response response => response
  | .httpError status _ => ⟨status, .empty⟩

def handleError : Failure → Response
  | .http status message => ⟨status, .json false (some message)⟩
  | .other => ⟨500, .json false (some "خطای داخلی سرور")⟩

/-- `(request.headers.get("upgrade") || "").toLowerCase() === "websocket"` -/
def Request.upgrades (request : Request) : Bool := (request.upgrade.getD "").toLower = "websocket"

/-- `handleVlessWebSocket`, where the path begins with `api`, which is no UUID in either form. -/
def handleVlessWebSocket : Response := ⟨400, .text "Bad Request"⟩

/-- `fetch`, for a request that a route of the agent matches. A schema that is there already, or is made, has no part
in the tables. -/
def fetch (config : Columns.Config) (agentKey : Option String) (db : Db) (request : Request) : Db × Response :=
  if !request.provisioned then (db, handleError .other)
  else if request.upgrades then (db, handleVlessWebSocket)
  else if !request.authenticates then (db, handleError .other)
  else
    match handler config agentKey db request with
    | (db, .ok returned) => (db, withSecurity returned)
    | (db, .error error) => (db, handleError error)

/-- `omniAgent`: the text of the error that it rejects with. -/
def omniAgent (response : Response) : Except String Unit :=
  match response.body with
  | .empty => .error "Unexpected end of JSON input"
  | .text content => .error ("Unexpected token '" ++ content.take 1 ++ "', \"" ++ content ++ "\" is not valid JSON")
  | .json ok error =>
    if response.status < 200 ∨ 300 ≤ response.status ∨ ok = false then
      .error (if error.getD "" = "" then s!"agent {response.status}" else error.getD "")
    else .ok ()

/-! ## The law of the channel -/

/-- The request has the key that is set. -/
def Request.CarriesKey (request : Request) (agentKey : Option String) : Prop :=
  agentKey.getD "" ≠ "" ∧ request.agentKey.getD "" = agentKey.getD ""

instance (request : Request) (agentKey : Option String) : Decidable (request.CarriesKey agentKey) := instDecidableAnd

/-- Users, sessions and the admin hash are as they were. -/
def Unchanged (before after : Db) : Prop :=
  after.users = before.users ∧ after.sessions = before.sessions ∧ after.adminHash = before.adminHash

/-- Without the key nothing changes, and the text of the refusal reaches the control plane. -/
def Refused (before after : Db) (response : Response) : Prop :=
  Unchanged before after ∧ (response.status = 403 ∨ response.status = 503) ∧
    ∃ text, response.body = .json false (some text) ∧ omniAgent response = .error text

/-- Where the insert succeeds, a change that is answered `ok: true` has a row of the agent. -/
def Audited (request : Request) (before after : Db) (response : Response) : Prop :=
  request.auditFails = false → ¬ Unchanged before after → (∃ error, response.body = .json true error) →
    ∃ added, after.audit = before.audit ++ added ∧ ∃ row ∈ added, row.actor = "agent"

/-- The law for one request. -/
def Law (config : Columns.Config) (agentKey : Option String) (db : Db) (request : Request) : Prop :=
  let (after, response) := fetch config agentKey db request
  (¬ request.CarriesKey agentKey → Refused db after response) ∧ Audited request db after response

/-- The request comes to the handler of its route. -/
def Request.Arrives (request : Request) : Prop :=
  request.provisioned = true ∧ request.upgrades = false ∧ request.authenticates = true

instance (request : Request) : Decidable request.Arrives := instDecidableAnd

/-- Without the key: no key is set, and the request comes to its handler. With it: the route is not `admin/reset`, or
the request does not come to its handler, or fails there, or there is nothing that it could change. -/
def Keeps (agentKey : Option String) (db : Db) (request : Request) : Prop :=
  if request.CarriesKey agentKey then
    request.route ≠ .adminReset ∨ ¬ request.Arrives ∨ request.fails 0 = true ∨ request.fails 1 = true ∨
      request.auditFails = true ∨ db.sessions = [] ∧ db.adminHash = some ""
  else agentKey.getD "" = "" ∧ request.Arrives

/-! ## What a handler leaves -/

section

variable {config : Columns.Config} {agentKey : Option String} {db after : Db} {request : Request} {returned : Returned}

theorem Unchanged.rfl : Unchanged db db := ⟨Eq.refl _, Eq.refl _, Eq.refl _⟩

/-- Nothing changed, or a row of the agent follows the trail. -/
def Trailed (before after : Db) : Prop :=
  Unchanged before after ∨
    ∃ action target, after.audit = before.audit ++ [({ actor := "agent", action, target } : AuditRow)]

theorem audit_audit (audits : request.auditFails = false) (action : String) (target : Option String) :
    (audit db request action target).audit = db.audit ++ [{ actor := "agent", action, target }] := by
  simp [audit, audits]

/-- A handler that ends with its audit leaves a trail. -/
theorem Trailed.of_answer {changed : Db} {action : String} {target : Option String}
    (audits : request.auditFails = false)
    (answered : (audit changed request action target, Except.ok ok) = (after, (.ok returned : Except Failure Returned)))
    (same : changed.audit = db.audit) : Trailed db after := by
  obtain ⟨rfl, -⟩ := Prod.mk.inj answered
  refine .inr ⟨action, target, ?_⟩
  rw [audit_audit audits, same]

theorem create_trailed (audits : request.auditFails = false)
    (created : create config db request = (after, .ok returned)) : Trailed db after := by
  simp only [create] at created
  split at created
  · simp at created
  · split at created
    · simp at created
    · split at created
      · simp at created
      · split_ifs at created with first second third
        · simp at created
        · simp at created
        · simp at created
        · exact .of_answer audits created rfl

theorem getOne_eq {username : String} (got : getOne db request username = (after, .ok returned)) : after = db := by
  unfold getOne at got
  split_ifs at got <;> simp_all

theorem reset_trailed {username : String} (audits : request.auditFails = false)
    (done : reset db request username = (after, .ok returned)) : Trailed db after := by
  unfold reset at done
  split at done
  · simp at done
  · split at done
    · simp at done
    · split_ifs at done with first second
      · simp at done
      · simp at done
      · dsimp only at done
        split at done
        · simp at done
        · exact .of_answer audits done rfl

theorem remove_trailed {username : String} (audits : request.auditFails = false)
    (removed : remove db request username = (after, .ok returned)) : Trailed db after := by
  unfold remove at removed
  split_ifs at removed with failed missing
  · simp at removed
  · simp at removed
  · exact .of_answer audits removed rfl

theorem reads_eq (read : reads db request = (after, .ok returned)) : after = db := by
  unfold reads at read
  split_ifs at read <;> simp_all

theorem adminPassword_trailed (audits : request.auditFails = false)
    (done : adminPassword db request = (after, .ok returned)) : Trailed db after := by
  unfold adminPassword at done
  split at done
  · simp at done
  · split_ifs at done with short first second
    · simp at done
    · simp at done
    · simp at done
    · exact .of_answer audits done rfl

/-- Every other route leaves a trail of its change. -/
theorem allowed_trailed (audits : request.auditFails = false) (other : request.route ≠ .adminReset)
    (answered : allowed config db request = (after, .ok returned)) : Trailed db after := by
  unfold allowed at answered
  cases route : request.route with
  | health | users =>
    rw [route] at answered
    rw [reads_eq answered]
    exact .inl .rfl
  | createUser => rw [route] at answered; exact create_trailed audits answered
  | userConfigs username =>
    rw [route] at answered
    rw [getOne_eq answered]
    exact .inl .rfl
  | userReset username => rw [route] at answered; exact reset_trailed audits answered
  | deleteUser username => rw [route] at answered; exact remove_trailed audits answered
  | adminReset => exact absurd route other
  | adminPassword => rw [route] at answered; exact adminPassword_trailed audits answered

/-! ## The answers -/

theorem guard_eq_none (carries : request.CarriesKey agentKey) : guard agentKey request = none := by
  simp [guard, carries.1, carries.2]

theorem guard_of_unset (unset : agentKey.getD "" = "") :
    guard agentKey request = some (.response ⟨503, .json false (some "AGENT_KEY تنظیم نشده است")⟩) := by
  simp [guard, unset]

theorem guard_of_wrong (set : agentKey.getD "" ≠ "") (wrong : request.agentKey.getD "" ≠ agentKey.getD "") :
    guard agentKey request = some (.httpError 403 "کلید عامل نامعتبر است") := by
  simp [guard, set, wrong]

/-- What is answered before a handler runs, which changes nothing: no refusal that the channel knows, and no success. -/
theorem fetch_early (stopped : ¬ request.Arrives) :
    (fetch config agentKey db request).1 = db ∧
      (fetch config agentKey db request).2 ∈ [handleError .other, handleVlessWebSocket] := by
  unfold fetch
  cases provisioned : request.provisioned with
  | false => exact ⟨rfl, List.mem_cons_self⟩
  | true =>
    cases upgrades : request.upgrades with
    | true => exact ⟨rfl, List.mem_cons_of_mem _ List.mem_cons_self⟩
    | false =>
      cases authenticates : request.authenticates with
      | false => exact ⟨rfl, List.mem_cons_self⟩
      | true => exact absurd ⟨provisioned, upgrades, authenticates⟩ stopped

theorem fetch_arrived (arrived : request.Arrives) :
    fetch config agentKey db request =
      match handler config agentKey db request with
      | (db, .ok returned) => (db, withSecurity returned)
      | (db, .error error) => (db, handleError error) := by
  obtain ⟨provisioned, upgrades, authenticates⟩ := arrived
  simp [fetch, provisioned, upgrades, authenticates]

/-- A request that the guard stops, or that is answered before, changes nothing. -/
theorem fetch_unchanged (lacks : ¬ request.CarriesKey agentKey) :
    (fetch config agentKey db request).1 = db := by
  by_cases arrived : request.Arrives
  · rw [fetch_arrived arrived, handler]
    by_cases unset : agentKey.getD "" = ""
    · rw [guard_of_unset unset]
    · rw [guard_of_wrong unset fun exact => lacks ⟨unset, exact⟩]
  · exact (fetch_early arrived).1

/-- The refusal is a text where no key is set and the request comes to its handler. -/
theorem refused_iff (config : Columns.Config) (db : Db) (lacks : ¬ request.CarriesKey agentKey) :
    Refused db (fetch config agentKey db request).1 (fetch config agentKey db request).2 ↔
      agentKey.getD "" = "" ∧ request.Arrives := by
  have unchanged : Unchanged db (fetch config agentKey db request).1 := by
    rw [fetch_unchanged lacks]
    exact .rfl
  constructor
  · rintro ⟨-, status, text, body, -⟩
    have arrived : request.Arrives := by
      by_contra stopped
      have early := (@fetch_early config agentKey db request stopped).2
      generalize (fetch config agentKey db request).2 = response at early status
      simp only [List.mem_cons, List.not_mem_nil, or_false] at early
      rcases early with rfl | rfl <;> simp [handleError, handleVlessWebSocket] at status
    refine ⟨?_, arrived⟩
    by_contra set
    rw [fetch_arrived arrived, handler, guard_of_wrong set fun exact => lacks ⟨set, exact⟩] at body
    simp [withSecurity] at body
  · rintro ⟨unset, arrived⟩
    refine ⟨unchanged, ?_, "AGENT_KEY تنظیم نشده است", ?_, ?_⟩
    all_goals simp [fetch_arrived arrived, handler, guard_of_unset unset, withSecurity, omniAgent]

theorem fetch_of_key (carries : request.CarriesKey agentKey) (arrived : request.Arrives) :
    fetch config agentKey db request =
      match allowed config db request with
      | (db, .ok returned) => (db, withSecurity returned)
      | (db, .error error) => (db, handleError error) := by
  rw [fetch_arrived arrived, handler, guard_eq_none carries]

/-- Only what a handler returns is answered `ok: true`. -/
theorem handleError_body (error : Failure) (text : Option String) : (handleError error).body ≠ .json true text := by
  cases error <;> simp [handleError]

theorem audited_of_trailed {response : Response} (trailed : request.auditFails = false → Trailed db after) :
    Audited request db after response := by
  intro audits changed _
  rcases trailed audits with same | ⟨action, target, added⟩
  · exact absurd same changed
  · exact ⟨_, added, _, List.mem_singleton.mpr rfl, rfl⟩

theorem audited_of_error (error : Failure) : Audited request db after (handleError error) := by
  rintro _ _ ⟨text, body⟩
  exact absurd body (handleError_body error text)

theorem unchanged_adminReset_iff :
    Unchanged db { db with adminHash := some "", sessions := [] } ↔ db.sessions = [] ∧ db.adminHash = some "" := by
  simp [Unchanged, eq_comm]

/-- With the key, the trail is missing just where `admin/reset` succeeds in a change. -/
theorem audited_iff (config : Columns.Config) (carries : request.CarriesKey agentKey) :
    Audited request db (fetch config agentKey db request).1 (fetch config agentKey db request).2 ↔
      request.route ≠ .adminReset ∨ ¬ request.Arrives ∨ request.fails 0 = true ∨ request.fails 1 = true ∨
        request.auditFails = true ∨ db.sessions = [] ∧ db.adminHash = some "" := by
  by_cases arrived : request.Arrives
  swap
  · refine iff_of_true ?_ (.inr (.inl arrived))
    apply audited_of_trailed
    intro _
    rw [(fetch_early arrived).1]
    exact .inl .rfl
  rw [fetch_of_key carries arrived]
  by_cases route : request.route = .adminReset
  · have answered : allowed config db request = adminReset db request := by rw [allowed, route]
    rw [answered]
    unfold adminReset
    split_ifs with first second
    · exact iff_of_true (audited_of_error _) (.inr (.inr (.inl first)))
    · exact iff_of_true (audited_of_error _) (.inr (.inr (.inr (.inl second))))
    · rw [← unchanged_adminReset_iff]
      constructor
      · intro audited
        by_contra bad
        have audits : request.auditFails = false := by
          by_contra fails
          exact bad (.inr (.inr (.inr (.inr (.inl (by simpa using fails))))))
        have changed : ¬ Unchanged db { db with adminHash := some "", sessions := [] } := fun same =>
          bad (.inr (.inr (.inr (.inr (.inr same)))))
        obtain ⟨added, eq, row, mem, -⟩ := audited audits changed ⟨none, rfl⟩
        have nothing : added = [] := by simpa using eq
        rw [nothing] at mem
        exact List.not_mem_nil mem
      · rintro (other | stopped | failed | failed | lost | same)
        · exact absurd route other
        · exact absurd arrived stopped
        · exact absurd failed first
        · exact absurd failed second
        · intro audits
          rw [lost] at audits
          exact absurd audits (by decide)
        · intro _ changed
          exact absurd same changed
  · refine iff_of_true ?_ (.inl route)
    rcases answered : allowed config db request with ⟨after, _ | returned⟩
    · exact audited_of_error _
    · exact audited_of_trailed fun audits => allowed_trailed audits route answered

/-! ## The law -/

theorem law_iff_keeps : Law config agentKey db request ↔ Keeps agentKey db request := by
  unfold Law Keeps
  by_cases carries : request.CarriesKey agentKey
  · rw [if_pos carries, ← audited_iff config carries]
    exact ⟨And.right, fun audited => ⟨absurd carries, audited⟩⟩
  · rw [if_neg carries, ← refused_iff config db carries]
    refine ⟨fun law => law.1 carries, fun refused => ⟨fun _ => refused, ?_⟩⟩
    intro _ changed
    exact absurd refused.1 changed

end

/-- The Worker, request after request. -/
def channel (config : Columns.Config) (agentKey : Option String) : Machine Db Request where
  step? db request := some (fetch config agentKey db request).1

/-- Over any sequence of requests the law holds of each of them just where each keeps to its condition. -/
theorem gate_and_trail_iff (config : Columns.Config) (agentKey : Option String) (db last : Db)
    (requests : List Request) :
    (channel config agentKey).Run (Law config agentKey) db requests last ↔
      (channel config agentKey).Run (Keeps agentKey) db requests last := by
  constructor
  · intro run
    exact run.mono fun _ _ => law_iff_keeps.mp
  · intro run
    exact run.mono fun _ _ => law_iff_keeps.mpr

/-- A wrong key is answered without a body, and a reset with the key leaves no row. -/
theorem wrong_key_unreadable :
    let guess : Request := { route := .health, agentKey := some "guess" }
    let reset : Request := { route := .adminReset, agentKey := some "key" }
    let installed : Db := { adminHash := some "hash" }
    (fetch {} (some "key") installed guess).2 = ⟨403, .empty⟩ ∧
    omniAgent ⟨403, .empty⟩ = .error "Unexpected end of JSON input" ∧
    (fetch {} (some "key") installed reset).1.audit = [] ∧
    ¬ (channel {} (some "key")).Run (Law {} (some "key")) installed [guess] installed ∧
    ¬ (channel {} (some "key")).Run (Law {} (some "key")) installed [reset] { adminHash := some "" } := by
  intro guess reset installed
  have arrived : reset.Arrives := by decide +kernel
  refine ⟨by decide +kernel, rfl, by decide +kernel, ?_, ?_⟩
  · rw [Run.cons_iff, law_iff_keeps]
    rintro ⟨keeps, -⟩
    simp [Keeps, Request.CarriesKey, guess] at keeps
  · rw [Run.cons_iff, law_iff_keeps]
    rintro ⟨keeps, -⟩
    simp [Keeps, Request.CarriesKey, arrived] at keeps
    simp [reset, installed] at keeps

end OmniControlPlane.Panel.Agent
