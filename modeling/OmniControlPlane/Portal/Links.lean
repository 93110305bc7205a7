import OmniControlPlane.Lib.Interleaving
import OmniControlPlane.Lib.OrderedMap
import OmniControlPlane.Lib.Text
import OmniControlPlane.Portal.Http

/-! # One-time links

Two routes take the tokens of `login_links`. `/login` looks the link up, marks it as consumed, and
only creates a session when the mark was its own. `/connect` looks the link up, verifies the API token
at Cloudflare, stores the connection, and then marks the link, whether the mark is its own or not.
Neither asks which function has minted the link.

The requests to Cloudflare touch no table of the two routes, so a verification and the statement that
stores its result are one step, with the answers of Cloudflare as the event has them.
-/

namespace OmniControlPlane.Portal

open Lib Machine

/-! ## Connections by API token -/

/-- `/user/tokens/verify`; a date that does not parse is `some none`. -/
structure TokenVerification where
  status : String
  expires_on : Option (Option ℕ) := none
  not_before : Option (Option ℕ) := none
deriving DecidableEq, Repr

structure TokenZone where
  id : String
  name : String
  status : String
  account_id : String
  account_name : String
  permissions : Option (List String) := none
deriving DecidableEq, Repr

/-- The rate limit, what Cloudflare answers (`none` for an error), and the connections counted. -/
structure ConnectAnswers where
  allowed : Bool := true
  verification : Option TokenVerification
  zones : Option (List TokenZone)
  dnsRecords : Bool := true
  workerScripts : Bool := true
  existing : ℕ := 0
deriving DecidableEq, Repr

/-- A row of `oauth_connections`. -/
structure Connection where
  tenant_id : String
  token : String
  expires_at : ℕ
  resource_account_id : String
  resource_zone_id : String
deriving DecidableEq, Repr

def validateApiToken (value : String) : Except HttpError String :=
  let token := trim value
  if 20 ≤ token.length ∧ token.length ≤ 256 ∧ token.all fun char => char.isAlphanum || char = '_' || char = '-' then
    .ok (String.ofList token)
  else .error ⟨400, "invalid_api_token", "Cloudflare API token format is invalid"⟩

/-- The earlier of the local and the remote expiry, in milliseconds. -/
def effectiveExpiry (ttl now : ℕ) (remoteExpiry : Option (Option ℕ)) : Except HttpError ℕ :=
  let localExpiry := now + ttl * 1000
  let expired : Except HttpError ℕ := .error ⟨401, "cloudflare_token_expired", "Cloudflare API token is expired"⟩
  match remoteExpiry with
  | none => .ok localExpiry
  | some none => expired
  | some (some parsedRemote) => if parsedRemote ≤ now then expired else .ok (min localExpiry parsedRemote)

/-- `/^[a-f0-9]{32}$/u` -/
def isResourceId (id : String) : Bool :=
  id.length = 32 && id.toList.all fun char => char.isDigit || ('a' ≤ char && char ≤ 'f')

def TokenZone.valid (zone : TokenZone) : Bool :=
  isResourceId zone.id && isResourceId zone.account_id && !zone.name.isEmpty && (utf16 zone.name).length ≤ 253 &&
    !zone.account_name.isEmpty && (utf16 zone.account_name).length ≤ 200

/-- The one zone that the token can manage. -/
def manageableZone (zones : List TokenZone) : Except HttpError TokenZone :=
  if zones = [] then
    .error ⟨403, "cloudflare_zone_unavailable", "Token به هیچ Zone قابل‌استفاده‌ای دسترسی ندارد"⟩
  else
    let hasPermissionMetadata := zones.any (·.permissions.isSome)
    let manageableZones :=
      if hasPermissionMetadata then zones.filter fun item => item.permissions.any ("#dns_records:edit" ∈ ·) else zones
    match manageableZones with
    | [zone] =>
      if zone.status ≠ "active" then
        .error ⟨403, "cloudflare_zone_inactive", "The token's single Cloudflare zone must be active"⟩
      else if !zone.valid then
        .error ⟨502, "cloudflare_resource_invalid", "Cloudflare returned invalid resource metadata"⟩
      else .ok zone
    | _ => .error ⟨403, "cloudflare_token_scope_too_broad",
        "Token هنوز به چند Zone دسترسی DNS Edit دارد؛ در Cloudflare فقط یک Specific zone انتخاب کنید"⟩

/-- The connection that `createTemporaryApiTokenConnection` stores. -/
def createTemporaryApiTokenConnection (ttl now : ℕ) (tenantId apiToken : String) (answers : ConnectAnswers) :
    Except HttpError Connection := do
  throwIf (!answers.allowed) ⟨429, "rate_limited", "Too many Cloudflare connection attempts; try again later"⟩
  throwIf (4096 < ((jsonObject [("apiToken", jsonString apiToken)]).flatMap String.utf8EncodeChar).length)
    ⟨413, "payload_too_large", "Request body is too large"⟩
  let token ← validateApiToken apiToken
  let some verification := answers.verification
    | throw ⟨401, "cloudflare_token_rejected", "Cloudflare rejected the API token"⟩
  throwIf (verification.status ≠ "active") ⟨401, "cloudflare_token_inactive", "Cloudflare API token is not active"⟩
  throwIf (verification.not_before.any fun instant => instant.any (now < ·))
    ⟨401, "cloudflare_token_not_active_yet", "Cloudflare API token is not active yet"⟩
  let expiresAt ← effectiveExpiry ttl now verification.expires_on
  let some zones := answers.zones
    | throw ⟨403, "cloudflare_zone_read_missing", "Token needs Zone:Zone:Read for one specific active zone"⟩
  let zone ← manageableZone zones
  throwIf (!answers.dnsRecords)
    ⟨403, "cloudflare_dns_permission_missing", "Token needs Zone:DNS:Edit for the selected zone"⟩
  throwIf (!answers.workerScripts) ⟨403, "cloudflare_workers_permission_missing",
    "Token needs Account:Workers Scripts:Edit for the selected account"⟩
  throwIf (3 ≤ answers.existing)
    ⟨409, "too_many_connections", "Disconnect an older temporary Cloudflare connection first"⟩
  return ⟨tenantId, token, expiresAt, zone.account_id, zone.id⟩

/-! ## The two routes -/

namespace Links

/-- Which function has minted a link; no column says so. -/
inductive Issuer where
  | login | connect
deriving DecidableEq, Repr

/-- A row of `login_links`. -/
structure Link where
  tenant_id : String
  expires_at : ℕ
  consumed_at : Option ℕ := none
  issuer : Issuer
deriving DecidableEq, Repr

/-- Not consumed, and not expired. -/
def Link.usable (link : Link) (now : ℕ) : Bool := link.consumed_at.isNone && now < link.expires_at

/-- The configuration, and what the platform provides. -/
structure Env where
  sha256 : String → String
  connectionTtl : ℕ

inductive Route where
  | login
  | connect (apiToken : String)
deriving DecidableEq, Repr

/-- What a request does next, for the tenant of its link. -/
inductive Phase where
  | select
  | create (tenantId : String)
  | mark (tenantId : String)
  | insertSession (tenantId : String)
  | done
deriving DecidableEq, Repr

/-- A request, and whether it has created a session or stored a connection. -/
structure Request where
  route : Route
  tokenHash : String
  phase : Phase
  granted : Bool := false
deriving DecidableEq, Repr

structure World where
  login_links : OrderedMap String Link := .empty
  sessions : List String := []
  oauth_connections : List Connection := []
  requests : List Request := []

inductive Event where
  | issue (issuer : Issuer) (token tenantId : String) (expiresAt : ℕ)
  | request (route : Route) (token : String)
  | select (index now : ℕ) (delivery : Delivery)
  | create (index now : ℕ) (answers : ConnectAnswers) (delivery : Delivery)
  | mark (index now : ℕ) (delivery : Delivery)
  | insertSession (index : ℕ) (delivery : Delivery)
deriving DecidableEq, Repr

/-- A request goes on, when its statement is answered. -/
def Request.goesOn (request : Request) (delivery : Delivery) (next : Phase) : Request :=
  { request with phase := match delivery with
      | .answered => next
      | .lost | .refused => .done }

/-- The `INSERT` of a request is applied. -/
def Request.grants (request : Request) (delivery : Delivery) : Request :=
  { request with granted := request.granted || delivery ≠ .refused }

namespace World

variable (env : Env) (world : World)

/-- `issueLoginLink` and `issueConnectLink`: the hash is the primary key. -/
def issue (issuer : Issuer) (token tenantId : String) (expiresAt : ℕ) : World :=
  if (world.login_links.get? (env.sha256 token)).isSome then world
  else { world with
    login_links := world.login_links.alter (env.sha256 token) fun _ =>
      { tenant_id := tenantId, expires_at := expiresAt, issuer := issuer } }

/-- A token of another length is turned away without a statement. -/
def arrive (route : Route) (token : String) : World :=
  let length := (utf16 token).length
  { world with requests := world.requests ++
      [⟨route, env.sha256 token, if length < 32 ∨ 128 < length then .done else .select, false⟩] }

def answer (index : ℕ) (request : Request) : World := { world with requests := world.requests.set index request }

/-- The check of `loginFromOneTimeLink`, and `peekLoginLink`. -/
def select (index : ℕ) (request : Request) (now : ℕ) (delivery : Delivery) : World :=
  let next := match (world.login_links.get? request.tokenHash).filter (·.usable now), request.route with
    | some link, .login => .mark link.tenant_id
    | some link, .connect _ => .create link.tenant_id
    | none, _ => .done
  world.answer index (request.goesOn delivery next)

/-- `createTemporaryApiTokenConnection` -/
def create (index : ℕ) (request : Request) (tenantId apiToken : String) (now : ℕ) (answers : ConnectAnswers)
    (delivery : Delivery) : World :=
  match createTemporaryApiTokenConnection env.connectionTtl now tenantId apiToken answers with
  | .error _ => world.answer index { request with phase := .done }
  | .ok connection =>
    { world.answer index ((request.goesOn delivery (.mark tenantId)).grants delivery) with
      oauth_connections := if delivery = .refused then world.oauth_connections
        else world.oauth_connections ++ [connection] }

/-- The conditional `UPDATE`; `/connect` ignores how many rows it has changed. -/
def mark (index : ℕ) (request : Request) (tenantId : String) (now : ℕ) (delivery : Delivery) : World :=
  let changes := (world.login_links.get? request.tokenHash).any (·.consumed_at.isNone)
  let next := match request.route with
    | .login => if changes then .insertSession tenantId else .done
    | .connect _ => .done
  { world.answer index (request.goesOn delivery next) with
    login_links := if delivery = .refused then world.login_links
      else world.login_links.modify request.tokenHash fun link =>
        { link with consumed_at := some (link.consumed_at.getD now) } }

def insertSession (index : ℕ) (request : Request) (tenantId : String) (delivery : Delivery) : World :=
  { world.answer index ((request.goesOn delivery .done).grants delivery) with
    sessions := if delivery = .refused then world.sessions else world.sessions ++ [tenantId] }

def step? (env : Env) (world : World) : Event → Option World
  | .issue issuer token tenantId expiresAt => some (world.issue env issuer token tenantId expiresAt)
  | .request route token => some (world.arrive env route token)
  | .select index now delivery =>
    match world.requests[index]? with
    | some request => if request.phase = .select then some (world.select index request now delivery) else none
    | none => none
  | .create index now answers delivery =>
    match world.requests[index]? with
    | some request =>
      match request.route, request.phase with
      | .connect apiToken, .create tenantId =>
        some (world.create env index request tenantId apiToken now answers delivery)
      | _, _ => none
    | none => none
  | .mark index now delivery =>
    match world.requests[index]? with
    | some request =>
      match request.phase with
      | .mark tenantId => some (world.mark index request tenantId now delivery)
      | _ => none
    | none => none
  | .insertSession index delivery =>
    match world.requests[index]? with
    | some request =>
      match request.route, request.phase with
      | .login, .insertSession tenantId => some (world.insertSession index request tenantId delivery)
      | _, _ => none
    | none => none

end World

def portal (env : Env) : Machine World Event := ⟨World.step? env⟩

/-- The request has passed its check, or its mark, and has not given up, or it has what it wanted. -/
def Request.holds (request : Request) : Bool :=
  request.granted || match request.route, request.phase with
    | .connect _, .create _ => true
    | .login, .insertSession _ => true
    | _, _ => false

/-- The requests with a token that hold its link. -/
def holders (requests : List Request) (tokenHash : String) : ℕ :=
  requests.countP fun request => request.tokenHash = tokenHash ∧ request.holds

/-- The requests with a token that have created a session or stored a connection. -/
def grants (requests : List Request) (tokenHash : String) : ℕ :=
  requests.countP fun request => request.tokenHash = tokenHash ∧ request.granted

/-- No request to `/connect` holds the link. -/
def World.Unheld (world : World) (tokenHash : String) : Prop :=
  ∀ request ∈ world.requests, request.tokenHash = tokenHash → request.route ≠ .login → request.holds = false

/-- As long as a request to `/connect` holds a link that is not marked, no other one checks it, and
`/login` does not mark it; and `/login` is not opened with a link of `issueConnectLink`. -/
def Exclusive (world : World) : Event → Prop
  | .select index now .answered => ∀ request ∈ world.requests[index]?, request.route ≠ .login →
      ∀ link ∈ world.login_links.get? request.tokenHash, link.usable now = true → world.Unheld request.tokenHash
  | .mark index _ .answered => ∀ request ∈ world.requests[index]?, request.route = .login →
      ∀ link ∈ world.login_links.get? request.tokenHash, link.consumed_at = none →
        world.Unheld request.tokenHash ∧ link.issuer = .login
  | _ => True

instance (world : World) (tokenHash : String) : Decidable (world.Unheld tokenHash) :=
  List.decidableBAll _ world.requests

instance (world : World) (event : Event) : Decidable (Exclusive world event) :=
  match event with
  | .select _ _ .answered | .mark _ _ .answered => Option.decidableForallMem _
  | .select _ _ .lost | .select _ _ .refused | .mark _ _ .lost | .mark _ _ .refused => .isTrue trivial
  | .issue _ _ _ _ | .request _ _ | .create _ _ _ _ | .insertSession _ _ => .isTrue trivial

/-! ## One step -/

section

variable {env : Env} {world world' : World} {index now : ℕ} {delivery : Delivery} {request : Request}

theorem select_cases (stepped : (portal env).step? world (.select index now delivery) = some world') :
    ∃ request, world.requests[index]? = some request ∧ request.phase = .select ∧
      world' = world.select index request now delivery := by
  simp only [portal, World.step?] at stepped
  split at stepped
  · next request found =>
    split at stepped
    · next awaits => exact ⟨request, found, awaits, (Option.some.inj stepped).symm⟩
    · contradiction
  · contradiction

theorem create_cases {answers : ConnectAnswers}
    (stepped : (portal env).step? world (.create index now answers delivery) = some world') :
    ∃ request apiToken tenantId, world.requests[index]? = some request ∧ request.route = .connect apiToken ∧
      request.phase = .create tenantId ∧
      world' = world.create env index request tenantId apiToken now answers delivery := by
  simp only [portal, World.step?] at stepped
  split at stepped
  · next request found =>
    split at stepped
    · next apiToken tenantId route phase =>
      exact ⟨request, apiToken, tenantId, found, route, phase, (Option.some.inj stepped).symm⟩
    · contradiction
  · contradiction

theorem mark_cases (stepped : (portal env).step? world (.mark index now delivery) = some world') :
    ∃ request tenantId, world.requests[index]? = some request ∧ request.phase = .mark tenantId ∧
      world' = world.mark index request tenantId now delivery := by
  simp only [portal, World.step?] at stepped
  split at stepped
  · next request found =>
    split at stepped
    · next tenantId phase => exact ⟨request, tenantId, found, phase, (Option.some.inj stepped).symm⟩
    · contradiction
  · contradiction

theorem insertSession_cases (stepped : (portal env).step? world (.insertSession index delivery) = some world') :
    ∃ request tenantId, world.requests[index]? = some request ∧ request.route = .login ∧
      request.phase = .insertSession tenantId ∧ world' = world.insertSession index request tenantId delivery := by
  simp only [portal, World.step?] at stepped
  split at stepped
  · next request found =>
    split at stepped
    · next tenantId route phase => exact ⟨request, tenantId, found, route, phase, (Option.some.inj stepped).symm⟩
    · contradiction
  · contradiction

end

/-! ## Runs -/

/-- The link was consumed, and minted for `/login`. -/
def Spent (links : OrderedMap String Link) (tokenHash : String) : Prop :=
  ∃ link, links.get? tokenHash = some link ∧ link.consumed_at.isSome ∧ link.issuer = .login

/-- One request at most holds a link, and one to `/login` only a link that it has consumed. -/
structure Sound (links : OrderedMap String Link) (requests : List Request) : Prop where
  single : ∀ tokenHash, holders requests tokenHash ≤ 1
  logins : ∀ request ∈ requests, request.route = .login → request.holds = true → Spent links request.tokenHash

section

variable {links after : OrderedMap String Link} {requests : List Request} {index : ℕ} {request next : Request}

/-- A link that nobody at `/connect` holds is free as long as it is not consumed. -/
theorem Sound.unheld {world : World} (sound : Sound world.login_links world.requests) {tokenHash : String} {link : Link}
    (found : world.login_links.get? tokenHash = some link) (unmarked : link.consumed_at = none)
    (unheld : world.Unheld tokenHash) : holders world.requests tokenHash = 0 := by
  apply List.countP_eq_zero.mpr
  intro request member holding
  obtain ⟨rfl, holds⟩ := of_decide_eq_true holding
  by_cases route : request.route = .login
  · obtain ⟨spent, same, consumed, -⟩ := sound.logins request member route holds
    cases found.symm.trans same
    rw [unmarked] at consumed
    contradiction
  · rw [unheld request member rfl route] at holds
    contradiction

/-- A request goes on: it holds its link already, or takes a link that nobody holds. -/
theorem Sound.answer (sound : Sound links requests) (atIndex : requests[index]? = some request)
    (route : next.route = request.route) (token : next.tokenHash = request.tokenHash)
    (kept : ∀ tokenHash, Spent links tokenHash → Spent after tokenHash)
    (takes : next.holds = true → request.holds = true ∨
      holders requests request.tokenHash = 0 ∧ (request.route = .login → Spent after request.tokenHash)) :
    Sound after (requests.set index next) where
  single tokenHash := by
    have moved := countP_set_add (fun request : Request => request.tokenHash = tokenHash ∧ request.holds = true)
      atIndex next
    have before := sound.single tokenHash
    simp only [token] at moved
    change holders (requests.set index next) tokenHash + _ = holders requests tokenHash + _ at moved
    by_cases takesIt : request.tokenHash = tokenHash ∧ next.holds = true
    · obtain ⟨rfl, holds⟩ := takesIt
      rcases takes holds with already | ⟨free, -⟩
      · simp only [already, holds, and_self, if_true] at moved
        omega
      · rw [free] at moved
        simp only [holds, and_self, if_true] at moved
        omega
    · rw [if_neg takesIt] at moved
      omega
  logins other member isLogin holds := by
    rcases List.mem_or_eq_of_mem_set member with old | rfl
    · exact kept _ (sound.logins other old isLogin holds)
    · rw [route] at isLogin
      rw [token]
      rcases takes holds with already | ⟨-, spent⟩
      · exact kept _ (sound.logins request (List.mem_of_getElem? atIndex) isLogin already)
      · exact spent isLogin

end

section

variable {env : Env} {world : World} {index now : ℕ} {delivery : Delivery} {request : Request}

/-- A link keeps its issuer, and stays consumed. -/
theorem Spent.marked {links : OrderedMap String Link} {tokenHash : String} (spent : Spent links tokenHash)
    (other : String) (now : ℕ) :
    Spent (links.modify other fun link => { link with consumed_at := some (link.consumed_at.getD now) })
      tokenHash := by
  obtain ⟨link, found, consumed, issuer⟩ := spent
  by_cases same : tokenHash = other
  · subst same
    refine ⟨{ link with consumed_at := some (link.consumed_at.getD now) }, ?_, rfl, issuer⟩
    rw [OrderedMap.get?_modify, if_pos rfl, found]
    rfl
  · exact ⟨link, by rw [OrderedMap.get?_modify, if_neg same, found], consumed, issuer⟩

theorem Sound.issue (sound : Sound world.login_links world.requests) (issuer : Issuer) (token tenantId : String)
    (expiresAt : ℕ) :
    Sound (world.issue env issuer token tenantId expiresAt).login_links
      (world.issue env issuer token tenantId expiresAt).requests := by
  rw [World.issue]
  split
  · exact sound
  · next absent =>
    refine ⟨sound.single, fun request member route holds => ?_⟩
    obtain ⟨link, found, spent⟩ := sound.logins request member route holds
    refine ⟨link, ?_, spent⟩
    rw [OrderedMap.get?_alter, if_neg, found]
    intro same
    rw [same] at found
    exact absent (found ▸ rfl)

theorem Sound.arrive (sound : Sound world.login_links world.requests) (route : Route) (token : String) :
    Sound (world.arrive env route token).login_links (world.arrive env route token).requests := by
  have waits : (⟨route, env.sha256 token, if (utf16 token).length < 32 ∨ 128 < (utf16 token).length then .done
      else .select, false⟩ : Request).holds = false := by
    rw [Request.holds]
    split_ifs <;> cases route <;> rfl
  constructor
  · intro tokenHash
    have before := sound.single tokenHash
    simp only [World.arrive, holders, List.countP_append, List.countP_singleton, waits] at before ⊢
    simpa using before
  · intro request member isLogin holds
    rcases List.mem_append.mp member with old | new
    · exact sound.logins request old isLogin holds
    · rw [List.mem_singleton.mp new, waits] at holds
      contradiction

/-- A request to `/connect` takes its link with the check, `/login` does not. -/
theorem Sound.select (sound : Sound world.login_links world.requests) (atIndex : world.requests[index]? = some request)
    (exclusive : Exclusive world (.select index now delivery)) :
    Sound (world.select index request now delivery).login_links
      (world.select index request now delivery).requests := by
  refine sound.answer atIndex rfl rfl (fun _ spent => spent) fun holds => ?_
  by_cases granted : request.granted = true
  · exact .inl (by rw [Request.holds, granted, Bool.true_or])
  · cases delivery with
    | lost | refused => simp [Request.goesOn, Request.holds, granted] at holds
    | answered =>
      cases found : (world.login_links.get? request.tokenHash).filter (·.usable now) with
      | none => simp [Request.goesOn, Request.holds, granted, found] at holds
      | some link =>
        obtain ⟨present, usable⟩ := Option.filter_eq_some_iff.mp found
        cases route : request.route with
        | login => simp [Request.goesOn, Request.holds, granted, found, route] at holds
        | connect apiToken =>
          have unmarked : link.consumed_at = none := by
            simp only [Link.usable, Bool.and_eq_true, Option.isNone_iff_eq_none] at usable
            exact usable.1
          have unheld := exclusive request atIndex (by rw [route]; nofun) link present usable
          exact .inr ⟨sound.unheld present unmarked unheld, nofun⟩

/-- A request that stores a connection has its link already. -/
theorem Sound.create (sound : Sound world.login_links world.requests) (atIndex : world.requests[index]? = some request)
    {apiToken tenantId : String} (route : request.route = .connect apiToken) (phase : request.phase = .create tenantId)
    (answers : ConnectAnswers) :
    Sound (world.create env index request tenantId apiToken now answers delivery).login_links
      (world.create env index request tenantId apiToken now answers delivery).requests := by
  have holds : request.holds = true := by rw [Request.holds, route, phase, Bool.or_true]
  rw [World.create]
  split
  · exact sound.answer atIndex rfl rfl (fun _ spent => spent) fun _ => .inl holds
  · exact sound.answer atIndex rfl rfl (fun _ spent => spent) fun _ => .inl holds

/-- `/login` takes its link with the mark, `/connect` gives it up. -/
theorem Sound.mark (sound : Sound world.login_links world.requests) (atIndex : world.requests[index]? = some request)
    {tenantId : String} (exclusive : Exclusive world (.mark index now delivery)) :
    Sound (world.mark index request tenantId now delivery).login_links
      (world.mark index request tenantId now delivery).requests := by
  refine sound.answer atIndex rfl rfl ?_ fun holds => ?_
  · intro tokenHash spent
    simp only [World.mark]
    split
    · exact spent
    · exact spent.marked request.tokenHash now
  · by_cases granted : request.granted = true
    · exact .inl (by rw [Request.holds, granted, Bool.true_or])
    · cases delivery with
      | lost | refused => simp [Request.goesOn, Request.holds, granted] at holds
      | answered =>
        cases route : request.route with
        | connect apiToken => simp [Request.goesOn, Request.holds, granted, route] at holds
        | login =>
          cases found : world.login_links.get? request.tokenHash with
          | none => simp [Request.goesOn, Request.holds, granted, route, found] at holds
          | some link =>
            have unmarked : link.consumed_at = none := by
              by_contra marked
              simp [Request.goesOn, Request.holds, granted, route, found, marked] at holds
            obtain ⟨unheld, minted⟩ := exclusive request atIndex route link found unmarked
            refine .inr ⟨sound.unheld found unmarked unheld, fun _ => ?_⟩
            refine ⟨{ link with consumed_at := some (link.consumed_at.getD now) }, ?_, rfl, minted⟩
            simp [World.mark, OrderedMap.get?_modify, found]

theorem Sound.insertSession (sound : Sound world.login_links world.requests)
    (atIndex : world.requests[index]? = some request) {tenantId : String} (route : request.route = .login)
    (phase : request.phase = .insertSession tenantId) :
    Sound (world.insertSession index request tenantId delivery).login_links
      (world.insertSession index request tenantId delivery).requests := by
  have holds : request.holds = true := by rw [Request.holds, route, phase, Bool.or_true]
  exact sound.answer atIndex rfl rfl (fun _ spent => spent) fun _ => .inl holds

end

theorem Sound.run {env : Env} {start finish : World} {events : List Event} (fresh : start.requests = [])
    (run : (portal env).Run Exclusive start events finish) : Sound finish.login_links finish.requests := by
  refine run.preserves (fun world => Sound world.login_links world.requests) ?_ ?_
  · intro world event world' sound exclusive stepped
    cases event with
    | issue issuer token tenantId expiresAt =>
      obtain rfl := Option.some.inj stepped
      exact sound.issue issuer token tenantId expiresAt
    | request route token =>
      obtain rfl := Option.some.inj stepped
      exact sound.arrive route token
    | select index now delivery =>
      obtain ⟨request, atIndex, -, rfl⟩ := select_cases stepped
      exact sound.select atIndex exclusive
    | create index now answers delivery =>
      obtain ⟨request, apiToken, tenantId, atIndex, route, phase, rfl⟩ := create_cases stepped
      exact sound.create atIndex route phase answers
    | mark index now delivery =>
      obtain ⟨request, tenantId, atIndex, -, rfl⟩ := mark_cases stepped
      exact sound.mark atIndex exclusive
    | insertSession index delivery =>
      obtain ⟨request, tenantId, atIndex, route, phase, rfl⟩ := insertSession_cases stepped
      exact sound.insertSession atIndex route phase
  · rw [fresh]
    exact ⟨fun _ => Nat.zero_le _, nofun⟩

/-- What a request has, it holds. -/
theorem grants_le_holders (requests : List Request) (tokenHash : String) :
    grants requests tokenHash ≤ holders requests tokenHash := by
  apply List.countP_mono_left
  intro request _ granted
  obtain ⟨token, holds⟩ := of_decide_eq_true granted
  exact decide_eq_true ⟨token, by rw [Request.holds, holds, Bool.true_or]⟩

/-- Where a link is not checked or marked while a request to `/connect` holds it, one request at most
gets something for it, and no session is created for a link of `issueConnectLink`. -/
theorem links_used_once {env : Env} {start finish : World} {events : List Event} (fresh : start.requests = [])
    (run : (portal env).Run Exclusive start events finish) :
    (∀ tokenHash, grants finish.requests tokenHash ≤ 1) ∧
      ∀ request ∈ finish.requests, request.route = .login → request.granted = true →
        ∀ link ∈ finish.login_links.get? request.tokenHash, link.issuer = .login := by
  have sound := Sound.run fresh run
  refine ⟨fun tokenHash => Nat.le_trans (grants_le_holders _ _) (sound.single tokenHash), ?_⟩
  intro request member route granted link found
  obtain ⟨spent, same, -, issuer⟩ := sound.logins request member route (by rw [Request.holds, granted, Bool.true_or])
  cases found.symm.trans same
  exact issuer

namespace Sample

def token : String := "q1W3e5R7t9Y2u4I6o8P0a1S3d5F7g9H2j4K6l8Z0x1C"

def hash : String := "_lNxhhlTVVm8SV3R0xiYhFh_Y4-5gVGDkYcyamwCQRs"

/-- `sha256` answers for the one token. -/
def env : Env := ⟨fun _ => hash, 3600⟩

def apiToken : String := "abcdefghijklmnopqrst"

def zone : TokenZone :=
  ⟨"0123456789abcdef0123456789abcdef", "example.com", "active", "fedcba9876543210fedcba9876543210", "Example", none⟩

def answers : ConnectAnswers := { verification := some ⟨"active", none, none⟩, zones := some [zone] }

/-- Two requests to `/login`, and one to `/connect` that comes too late. -/
def visits : List Event :=
  [.issue .login token "tenant" 1000, .request .login token, .request .login token, .request (.connect apiToken) token,
    .select 0 10 .answered, .select 1 11 .answered, .mark 1 12 .answered, .mark 0 13 .answered,
    .insertSession 1 .answered, .select 2 14 .answered]

/-- Two requests to `/connect` check a link before either has marked it. -/
def posts : List Event :=
  [.issue .connect token "tenant" 1000, .request (.connect apiToken) token, .request (.connect apiToken) token,
    .select 0 10 .answered, .select 1 11 .answered, .create 0 12 answers .answered, .create 1 13 answers .answered,
    .mark 0 14 .answered, .mark 1 15 .answered]

/-- `/login` is opened with a link of `issueConnectLink`. -/
def detour : List Event :=
  [.issue .connect token "tenant" 1000, .request .login token, .select 0 10 .answered, .mark 0 11 .answered,
    .insertSession 0 .answered]

end Sample

theorem links_used_once_visits : ∃ finish, (portal Sample.env).Run Exclusive {} Sample.visits finish ∧
    finish.sessions = ["tenant"] ∧ grants finish.requests Sample.hash ≤ 1 ∧
      ∀ request ∈ finish.requests, request.route = .login → request.granted = true →
        ∀ link ∈ finish.login_links.get? request.tokenHash, link.issuer = .login := by
  have evaluated : ((portal Sample.env).checked? (fun world event => Exclusive world event) {} Sample.visits).any
      (fun finish => finish.sessions == ["tenant"]) = true := by decide +kernel
  obtain ⟨finish, replayed, sessions⟩ := (Option.any_eq_true _ _).mp evaluated
  have run : (portal Sample.env).Run Exclusive {} Sample.visits finish :=
    Run.of_checked (fun world event passed => of_decide_eq_true passed) replayed
  obtain ⟨once, purpose⟩ := links_used_once rfl run
  exact ⟨finish, run, eq_of_beq sessions, once Sample.hash, purpose⟩

/-- Two overlapping requests to `/connect` both store a connection, and a link of `issueConnectLink`
creates a session. -/
theorem link_used_twice_and_beside :
    (∃ finish, (portal Sample.env).Run Free {} Sample.posts finish ∧ 1 < grants finish.requests Sample.hash) ∧
      ∃ finish, (portal Sample.env).Run Free {} Sample.detour finish ∧
        (finish.login_links.get? Sample.hash).map (·.issuer) = some .connect ∧ finish.sessions = ["tenant"] := by
  have twice : ((portal Sample.env).replay? {} Sample.posts).any
      (fun finish => 1 < grants finish.requests Sample.hash) = true := by decide +kernel
  have beside : ((portal Sample.env).replay? {} Sample.detour).any (fun finish =>
      (finish.login_links.get? Sample.hash).map (·.issuer) == some .connect && finish.sessions == ["tenant"]) =
        true := by decide +kernel
  obtain ⟨finish, replayed, exceeded⟩ := (Option.any_eq_true _ _).mp twice
  obtain ⟨finish', replayed', detoured⟩ := (Option.any_eq_true _ _).mp beside
  simp only [Bool.and_eq_true, beq_iff_eq] at detoured
  exact ⟨⟨finish, Run.free_iff_replay.mpr replayed, of_decide_eq_true exceeded⟩,
    finish', Run.free_iff_replay.mpr replayed', detoured⟩

end Links

end OmniControlPlane.Portal
