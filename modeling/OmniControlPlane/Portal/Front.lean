import OmniControlPlane.Lib.JavaScript
import OmniControlPlane.Portal.Requests
import OmniControlPlane.Portal.SessionCookie
import OmniControlPlane.Sleeper.Commands

/-! # The front of the control plane

`route` in `index.ts` is one chain of comparisons. Up to `authenticated` it names what anybody may ask for, behind it
what a tenant may; what changes something there comes with the origin of the portal. The work of a tenant has a path, a
method and what else it is asked with, and the chain is the table of these.
-/

namespace OmniControlPlane.Portal.Front

open Lib.JavaScript
open Sleeper (Role SleeperCommand)
open SessionCookie (SessionPrincipal)
open Tenancy (isConnectionId)

/-- What `route` reads of a request. -/
structure Request where
  method : String
  pathname : String
  searchParams : String → Option String
  origin : Option String
  secFetchSite : Option String
  -- the body under a limit of bytes
  readJson : ℕ → Except Thrown Js

/-- What anybody may ask for. -/
inductive Page where
  | healthz | logoSvg | handleTelegramWebhook | serveBootstrap | completeBootstrap | receiveAgentReport
  | submitCleanIpReport | cleanIpFeed | submitMapReport | mapFeed | phantomPackFeed | serveDnsttScript | whiteHoleReader
  | renderDnsTestScript | recordPoisonReport | recordMtuReport | currentIrRanges | recordRaceReport | directRaceDomains
  | dnsConnectGet | dnsConnectPost | handleScanTick | loginFromOneTimeLink | landingPage | omniPage | privacy | terms
deriving DecidableEq, Repr

/-- What a tenant may ask for. -/
inductive Work where
  | appPage
  | logout
  | listCloudflareConnections
  | createTemporaryApiTokenConnection
  | disconnectCloudflareConnection (connectionId : String)
  | listCloudflareAccounts (connectionId : String)
  | listCloudflareZones (connectionId accountId : String)
  | listDeployments
  | createDeployment
  | getDeployment (deploymentId : String)
  | rotateBootstrapToken (deploymentId : String)
  | rotateSubscriptionToken (deploymentId : String)
  | retryDeployment (deploymentId : String)
  | revokeDeployment (deploymentId : String)
  | enableDnsTunnel (deploymentId : String)
  | setDeploymentRole (deploymentId : String) (role : Role) (consent : Bool)
  | publishSleeperBeacon (deploymentId : String)
  | queueSleeperCommand (deploymentId : String) (command : SleeperCommand)
deriving DecidableEq, Repr

inductive Answer where
  | page (page : Page)
  | work (principal : SessionPrincipal) (work : Work)
  | methodNotAllowed (allowed : List String)
  | notFound
deriving DecidableEq, Repr

/-! ## Before the session -/

/-- A path that answers one method. -/
def only (method : String) (page : Page) (request : Request) : Answer :=
  if request.method = method then .page page else .methodNotAllowed [method]

/-- The chain up to `authenticated`, a path or several with what becomes of the request. -/
def publicRoutes : List (List String × (Request → Answer)) := [
  (["/healthz"], only "GET" .healthz),
  (["/logo.svg"], only "GET" .logoSvg),
  (["/telegram/webhook"], only "POST" .handleTelegramWebhook),
  (["/api/v1/agent/bootstrap"], only "GET" .serveBootstrap),
  (["/api/v1/agent/complete"], only "POST" .completeBootstrap),
  (["/api/v1/agent/report"], only "POST" .receiveAgentReport),
  (["/api/v1/telemetry/clean-ip"], only "POST" .submitCleanIpReport),
  (["/api/v1/clean-ip"], only "GET" .cleanIpFeed),
  (["/api/v1/telemetry/map"], only "POST" .submitMapReport),
  (["/api/v1/map"], only "GET" .mapFeed),
  (["/api/v1/pack"], only "GET" .phantomPackFeed),
  (["/api/v1/dnstt/server.sh"], only "GET" .serveDnsttScript),
  (["/api/v1/whitehole/fetch.sh"], only "GET" .whiteHoleReader),
  (["/api/v1/dns-test.sh"], only "GET" .renderDnsTestScript),
  (["/api/v1/telemetry/dns-poison"], only "POST" .recordPoisonReport),
  (["/api/v1/telemetry/mtu"], only "POST" .recordMtuReport),
  (["/api/v1/geoip-ir.json"], only "GET" .currentIrRanges),
  (["/api/v1/telemetry/race"], only "POST" .recordRaceReport),
  (["/api/v1/race-direct.json"], only "GET" .directRaceDomains),
  (["/connect", "/dns/connect"], fun request =>
    if request.method = "GET" then .page .dnsConnectGet
    else if request.method = "POST" then .page .dnsConnectPost
    else .methodNotAllowed ["GET", "POST"]),
  (["/internal/scan-tick"], only "POST" .handleScanTick),
  (["/login"], only "GET" .loginFromOneTimeLink),
  (["/"], only "GET" .landingPage),
  (["/omni"], only "GET" .omniPage),
  (["/setwebhook", "/sub", "/profile", "/panel", "/api/login", "/api/users"], fun _ => .notFound),
  (["/privacy", "/terms"], fun request =>
    only "GET" (if request.pathname = "/privacy" then .privacy else .terms) request),
  (["/oauth/cloudflare/start", "/oauth/cloudflare/callback"], fun _ => .notFound)]

def publicRoute (request : Request) : Option Answer :=
  (publicRoutes.find? fun route => request.pathname ∈ route.1).map fun route => route.2 request

/-! ## Behind the session -/

/-- The actions of a deployment's path. -/
inductive DeploymentAction where
  | bootstrapToken | subscriptionToken | retry | revoke | dnsTunnel | role | beacon | sleeperCommand
deriving DecidableEq, Repr

def DeploymentAction.text : DeploymentAction → String
  | .bootstrapToken => "bootstrap-token"
  | .subscriptionToken => "subscription-token"
  | .retry => "retry"
  | .revoke => "revoke"
  | .dnsTunnel => "dns-tunnel"
  | .role => "role"
  | .beacon => "beacon"
  | .sleeperCommand => "sleeper-command"

def DeploymentAction.all : List DeploymentAction :=
  [.bootstrapToken, .subscriptionToken, .retry, .revoke, .dnsTunnel, .role, .beacon, .sleeperCommand]

def connectionsPath : String := "/api/v1/cloudflare/connections/"

def deploymentsPath : String := "/api/v1/deployments/"

/-- `([0-9a-f-]{36})` behind a beginning, and the rest of the path. -/
def idAfter (start path : String) : Option (String × String) :=
  let rest := path.toList.drop start.length
  let id := String.ofList (rest.take 36)
  if start.toList <+: path.toList ∧ isConnectionId id then some (id, String.ofList (rest.drop 36)) else none

def disconnectMatch (path : String) : Option String := do
  let (id, rest) ← idAfter connectionsPath path
  if rest = "/disconnect" then some id else none

def deploymentMatch (path : String) : Option (String × Option DeploymentAction) := do
  let (id, rest) ← idAfter deploymentsPath path
  if rest = "" then some (id, none)
  else (DeploymentAction.all.find? fun action => rest = "/" ++ action.text).map fun action => (id, some action)

/-- `^[a-f0-9]{32}$` -/
def isAccountId (value : String) : Bool :=
  value.length = 32 && value.toList.all fun char => char.isDigit || ('a' ≤ char && char ≤ 'f')

def refused {α : Type} (status : ℕ) (code message : String) : Except Thrown α := .error (.http ⟨status, code, message⟩)

def refusedIf (bad : Prop) [Decidable bad] (status : ℕ) (code message : String) : Except Thrown Unit :=
  if bad then refused status code message else .ok ()

/-- A property of a body that is a text. -/
def word? (fields : Fields) (key : String) : Option String :=
  match fields.get key with
  | some (.string text) => some text
  | _ => none

/-- The body, where it has properties. -/
def bodyFields (request : Request) (maxBytes : ℕ) : Except Thrown Fields := do
  match (← request.readJson maxBytes).fields with
  | some fields => .ok fields
  | none => .error (.other "Cannot read properties of null")

def roleOf (fields : Fields) : Option Role :=
  if word? fields "role" = some "sleeper" then some .sleeper
  else if word? fields "role" = some "standard" then some .standard else none

/-- `body.consent === true` -/
def consentOf (fields : Fields) : Bool :=
  match fields.get "consent" with
  | some (.bool true) => true
  | _ => false

def commandOf (fields : Fields) : Option SleeperCommand :=
  if word? fields "command" = some "wake" then some .wake
  else if word? fields "command" = some "report-now" then some .reportNow else none

section

-- what `normalizeBaseUrl` makes of the configured address
variable (expected : Except Thrown String) (request : Request)

def requireSameOrigin : Except Thrown Unit := do
  let expected ← expected
  refusedIf (request.origin ≠ some expected) 403 "csrf_rejected" "Request origin was rejected"
  let fetchSite := request.secFetchSite.getD ""
  refusedIf (fetchSite ≠ "" ∧ fetchSite ≠ "same-origin") 403 "csrf_rejected" "Cross-site request was rejected"

/-- An action of a deployment, once its origin is known. -/
def actionWork (deploymentId : String) : DeploymentAction → Except Thrown Work
  | .bootstrapToken => .ok (.rotateBootstrapToken deploymentId)
  | .subscriptionToken => .ok (.rotateSubscriptionToken deploymentId)
  | .retry => .ok (.retryDeployment deploymentId)
  | .revoke => .ok (.revokeDeployment deploymentId)
  | .dnsTunnel => .ok (.enableDnsTunnel deploymentId)
  | .role => do
    let fields ← bodyFields request 2048
    match roleOf fields with
    | some role => .ok (.setDeploymentRole deploymentId role (consentOf fields))
    | none => refused 400 "invalid_input" "role must be standard or sleeper"
  | .beacon => .ok (.publishSleeperBeacon deploymentId)
  | .sleeperCommand => do
    let fields ← bodyFields request 1024
    match commandOf fields with
    | some command => .ok (.queueSleeperCommand deploymentId command)
    | none => refused 400 "invalid_input" "command must be report-now or wake"

def accountsWork : Except Thrown Work := do
  let connectionId := (request.searchParams "connectionId").getD ""
  refusedIf (isConnectionId connectionId = false) 400 "invalid_connection" "Connection ID is invalid"
  .ok (.listCloudflareAccounts connectionId)

def zonesWork : Except Thrown Work := do
  let connectionId := (request.searchParams "connectionId").getD ""
  let accountId := (request.searchParams "accountId").getD ""
  refusedIf (isConnectionId connectionId = false ∨ isAccountId accountId = false) 400 "invalid_cloudflare_resource"
    "Cloudflare resource ID is invalid"
  .ok (.listCloudflareZones connectionId accountId)

/-- `wrongMethod ?? …` for the methods of a path. -/
def among (methods : List String) (work : Except Thrown Work) (principal : SessionPrincipal) : Except Thrown Answer :=
  if request.method ∈ methods then work.map (.work principal) else .ok (.methodNotAllowed methods)

/-- What changes something. -/
def change (work : Except Thrown Work) : Except Thrown Work := do
  requireSameOrigin expected request
  work

/-- The chain behind `authenticated`. -/
def tenantRoute (principal : SessionPrincipal) : Except Thrown Answer :=
  let path := request.pathname
  if path = "/app" then among request ["GET"] (.ok .appPage) principal
  else if path = "/logout" then among request ["POST"] (change expected request (.ok .logout)) principal
  else if path = "/api/v1/cloudflare/connections" then among request ["GET"] (.ok .listCloudflareConnections) principal
  else if path = "/api/v1/cloudflare/api-token" then
    among request ["POST"] (change expected request (.ok .createTemporaryApiTokenConnection)) principal
  else
    match disconnectMatch path with
    | some id => among request ["POST"] (change expected request (.ok (.disconnectCloudflareConnection id))) principal
    | none =>
      if path = "/api/v1/cloudflare/accounts" then among request ["GET"] (accountsWork request) principal
      else if path = "/api/v1/cloudflare/zones" then among request ["GET"] (zonesWork request) principal
      else if path = "/api/v1/deployments" then
        among request ["GET", "POST"]
          (if request.method = "GET" then .ok .listDeployments else change expected request (.ok .createDeployment))
          principal
      else
        match deploymentMatch path with
        | some (id, none) => among request ["GET"] (.ok (.getDeployment id)) principal
        | some (id, some action) =>
          among request ["POST"] (change expected request (actionWork request id action)) principal
        | none => .ok .notFound

/-- `route`; the session is what `requireSession` finds. -/
def route (session : Except Thrown (Option SessionPrincipal)) : Except Thrown Answer :=
  match publicRoute request with
  | some answer => .ok answer
  | none => do
    match ← session with
    | some principal => tenantRoute expected request principal
    | none => refused 401 "authentication_required" "Open a fresh link from the Telegram bot"

/-! ## The table of the tenants -/

def deploymentPath (deploymentId : String) (action : DeploymentAction) : String :=
  deploymentsPath ++ deploymentId ++ ("/" ++ action.text)

def Work.path : Work → String
  | .appPage => "/app"
  | .logout => "/logout"
  | .listCloudflareConnections => "/api/v1/cloudflare/connections"
  | .createTemporaryApiTokenConnection => "/api/v1/cloudflare/api-token"
  | .disconnectCloudflareConnection id => connectionsPath ++ id ++ "/disconnect"
  | .listCloudflareAccounts _ => "/api/v1/cloudflare/accounts"
  | .listCloudflareZones _ _ => "/api/v1/cloudflare/zones"
  | .listDeployments | .createDeployment => "/api/v1/deployments"
  | .getDeployment id => deploymentsPath ++ id ++ ""
  | .rotateBootstrapToken id => deploymentPath id .bootstrapToken
  | .rotateSubscriptionToken id => deploymentPath id .subscriptionToken
  | .retryDeployment id => deploymentPath id .retry
  | .revokeDeployment id => deploymentPath id .revoke
  | .enableDnsTunnel id => deploymentPath id .dnsTunnel
  | .setDeploymentRole id _ _ => deploymentPath id .role
  | .publishSleeperBeacon id => deploymentPath id .beacon
  | .queueSleeperCommand id _ => deploymentPath id .sleeperCommand

/-- What changes nothing is read with GET. -/
def Work.method : Work → String
  | .appPage | .listCloudflareConnections | .listCloudflareAccounts _ | .listCloudflareZones _ _ | .listDeployments
  | .getDeployment _ => "GET"
  | _ => "POST"

/-- What a request says besides its path. -/
def Work.Named (request : Request) : Work → Prop
  | .appPage | .logout | .listCloudflareConnections | .createTemporaryApiTokenConnection | .listDeployments
  | .createDeployment => True
  | .disconnectCloudflareConnection id | .getDeployment id | .rotateBootstrapToken id | .rotateSubscriptionToken id
  | .retryDeployment id | .revokeDeployment id | .enableDnsTunnel id | .publishSleeperBeacon id => isConnectionId id = true
  | .listCloudflareAccounts id => isConnectionId id = true ∧ (request.searchParams "connectionId").getD "" = id
  | .listCloudflareZones id accountId => isConnectionId id = true ∧ isAccountId accountId = true ∧
      (request.searchParams "connectionId").getD "" = id ∧ (request.searchParams "accountId").getD "" = accountId
  | .setDeploymentRole id role consent => isConnectionId id = true ∧
      ∃ fields, bodyFields request 2048 = .ok fields ∧ roleOf fields = some role ∧ consentOf fields = consent
  | .queueSleeperCommand id command => isConnectionId id = true ∧
      ∃ fields, bodyFields request 1024 = .ok fields ∧ commandOf fields = some command

/-- A page of the portal sent it. -/
def SameOrigin : Prop :=
  ∃ base, expected = .ok base ∧ request.origin = some base ∧
    (request.secFetchSite.getD "" = "" ∨ request.secFetchSite.getD "" = "same-origin")

structure Asks (work : Work) : Prop where
  path : request.pathname = work.path
  method : request.method = work.method
  origin : work.method = "POST" → SameOrigin expected request
  named : work.Named request

end

/-! ## Paths -/

section

variable {start path id rest : String}

theorem isConnectionId_length (valid : isConnectionId id = true) : id.toList.length = 36 := by
  rw [isConnectionId, Bool.and_eq_true, decide_eq_true_eq] at valid
  rw [String.length_toList]
  exact valid.1

theorem idAfter_iff : idAfter start path = some (id, rest) ↔
    path = start ++ id ++ rest ∧ isConnectionId id = true := by
  rw [idAfter]
  constructor
  · intro found
    split at found
    · next opens =>
      obtain ⟨⟨tail, whole⟩, valid⟩ := opens
      have behind : path.toList.drop start.length = tail := by
        rw [← whole, ← String.length_toList, List.drop_left]
      rw [behind, Option.some.injEq, Prod.mk.injEq] at found
      obtain ⟨rfl, rfl⟩ := found
      refine ⟨?_, by rwa [behind] at valid⟩
      rw [← String.toList_inj, String.toList_append, String.toList_append, String.toList_ofList, String.toList_ofList,
        List.append_assoc, List.take_append_drop, whole]
    · contradiction
  · rintro ⟨rfl, valid⟩
    have long := isConnectionId_length valid
    have behind : (start ++ id ++ rest).toList.drop start.length = id.toList ++ rest.toList := by
      rw [String.toList_append, String.toList_append, List.append_assoc, ← String.length_toList, List.drop_left]
    have opens : start.toList <+: (start ++ id ++ rest).toList := by
      rw [String.toList_append, String.toList_append, List.append_assoc]
      exact List.prefix_append _ _
    rw [behind, ← long, List.take_left, List.drop_left, String.ofList_toList, String.ofList_toList,
      if_pos ⟨opens, valid⟩]

/-- What begins in one way is no text that begins in another. -/
theorem append_ne {literal : String} (other : ¬ start.toList <+: literal.toList) : start ++ id ++ rest ≠ literal := by
  rintro rfl
  rw [String.toList_append, String.toList_append, List.append_assoc] at other
  exact other (List.prefix_append _ _)

theorem disconnectMatch_iff : disconnectMatch path = some id ↔
    path = connectionsPath ++ id ++ "/disconnect" ∧ isConnectionId id = true := by
  rw [disconnectMatch]
  constructor
  · intro found
    cases read : idAfter connectionsPath path with
    | none =>
      rw [read] at found
      contradiction
    | some parts =>
      obtain ⟨named, rest⟩ := parts
      rw [read] at found
      simp only [Option.bind_eq_bind, Option.bind_some, Option.ite_none_right_eq_some, Option.some.injEq] at found
      obtain ⟨rfl, rfl⟩ := found
      exact idAfter_iff.mp read
  · intro named
    rw [idAfter_iff.mpr named]
    rfl

theorem find_action (action : DeploymentAction) :
    (DeploymentAction.all.find? fun other => "/" ++ action.text = "/" ++ other.text) = some action := by
  cases action <;> decide

/-- A path of deployments names one, and the action behind it. -/
theorem deploymentMatch_iff {action : Option DeploymentAction} : deploymentMatch path = some (id, action) ↔
    path = deploymentsPath ++ id ++ (action.elim "" fun action => "/" ++ action.text) ∧ isConnectionId id = true := by
  rw [deploymentMatch]
  constructor
  · intro found
    cases read : idAfter deploymentsPath path with
    | none =>
      rw [read] at found
      contradiction
    | some parts =>
      obtain ⟨named, rest⟩ := parts
      rw [read] at found
      simp only [Option.bind_eq_bind, Option.bind_some] at found
      obtain ⟨whole, valid⟩ := idAfter_iff.mp read
      split at found
      · next none =>
        simp only [Option.some.injEq, Prod.mk.injEq] at found
        obtain ⟨rfl, rfl⟩ := found
        exact ⟨none ▸ whole, valid⟩
      · obtain ⟨chosen, listed, same⟩ := Option.map_eq_some_iff.mp found
        obtain ⟨rfl, rfl⟩ := Prod.mk.inj same
        have written : rest = "/" ++ chosen.text := by simpa using List.find?_some listed
        rw [written] at whole
        exact ⟨whole, valid⟩
  · intro named
    rw [idAfter_iff.mpr named]
    cases action with
    | none => rfl
    | some action =>
      have written : ("/" ++ action.text) ≠ "" := by cases action <;> decide
      simp only [Option.bind_eq_bind, Option.bind_some, Option.elim_some]
      rw [if_neg written, find_action]
      rfl

end

/-! ## The chain is the table -/

section

variable {expected : Except Thrown String} {request : Request} {principal owner : SessionPrincipal} {work : Work}

theorem refusedIf_iff {bad : Prop} [Decidable bad] {status : ℕ} {code message : String} :
    refusedIf bad status code message = .ok () ↔ ¬ bad := by
  rw [refusedIf]
  split
  · next bad => simp [refused, bad]
  · next good => simp [good]

theorem bind_eq_ok {ε α β : Type} {first : Except ε α} {rest : α → Except ε β} {result : β} :
    (first >>= rest) = .ok result ↔ ∃ value, first = .ok value ∧ rest value = .ok result := by
  cases first with
  | error thrown =>
    constructor
    · intro passed
      contradiction
    · rintro ⟨value, passed, -⟩
      contradiction
  | ok value =>
    constructor
    · exact fun passed => ⟨value, rfl, passed⟩
    · rintro ⟨value', same, passed⟩
      obtain rfl := Except.ok.inj same
      exact passed

theorem requireSameOrigin_iff : requireSameOrigin expected request = .ok () ↔ SameOrigin expected request := by
  rw [requireSameOrigin, bind_eq_ok, SameOrigin]
  apply exists_congr
  intro base
  apply and_congr_right
  rintro -
  rw [bind_eq_ok]
  constructor
  · rintro ⟨⟨⟩, origin, site⟩
    rw [refusedIf_iff] at origin site
    exact ⟨not_not.mp origin, by tauto⟩
  · rintro ⟨origin, site⟩
    exact ⟨(), refusedIf_iff.mpr (not_not.mpr origin), refusedIf_iff.mpr (by tauto)⟩

theorem change_iff {asked : Except Thrown Work} :
    change expected request asked = .ok work ↔ SameOrigin expected request ∧ asked = .ok work := by
  rw [change, bind_eq_ok, ← requireSameOrigin_iff]
  constructor
  · rintro ⟨⟨⟩, origin, asked⟩
    exact ⟨origin, asked⟩
  · exact fun ⟨origin, asked⟩ => ⟨(), origin, asked⟩

theorem among_iff {methods : List String} {asked : Except Thrown Work} :
    among request methods asked owner = .ok (.work principal work) ↔
      request.method ∈ methods ∧ asked = .ok work ∧ owner = principal := by
  rw [among]
  split
  · next member =>
    rw [and_iff_right member]
    cases asked with
    | error thrown => simp [Except.map]
    | ok other =>
      simp only [Except.map, Except.ok.injEq, Answer.work.injEq]
      exact and_comm
  · next foreign => simp [foreign]

theorem accountsWork_iff : accountsWork request = .ok work ↔
    ∃ id, work = .listCloudflareAccounts id ∧ work.Named request := by
  rw [accountsWork, bind_eq_ok]
  constructor
  · rintro ⟨⟨⟩, valid, same⟩
    obtain rfl := Except.ok.inj same
    exact ⟨_, rfl, by simpa using refusedIf_iff.mp valid, rfl⟩
  · rintro ⟨id, rfl, valid, named⟩
    exact ⟨(), refusedIf_iff.mpr (by rw [named, valid]; decide), by rw [named]⟩

theorem zonesWork_iff : zonesWork request = .ok work ↔
    ∃ id accountId, work = .listCloudflareZones id accountId ∧ work.Named request := by
  rw [zonesWork, bind_eq_ok]
  constructor
  · rintro ⟨⟨⟩, valid, same⟩
    obtain rfl := Except.ok.inj same
    have valid := refusedIf_iff.mp valid
    simp only [not_or, Bool.not_eq_false] at valid
    exact ⟨_, _, rfl, valid.1, valid.2, rfl, rfl⟩
  · rintro ⟨id, accountId, rfl, valid, validAccount, named, namedAccount⟩
    refine ⟨(), refusedIf_iff.mpr ?_, by rw [named, namedAccount]⟩
    rw [named, namedAccount, valid, validAccount]
    decide

/-- The action that a work is. -/
def Work.action? : Work → Option (String × DeploymentAction)
  | .rotateBootstrapToken id => some (id, .bootstrapToken)
  | .rotateSubscriptionToken id => some (id, .subscriptionToken)
  | .retryDeployment id => some (id, .retry)
  | .revokeDeployment id => some (id, .revoke)
  | .enableDnsTunnel id => some (id, .dnsTunnel)
  | .setDeploymentRole id _ _ => some (id, .role)
  | .publishSleeperBeacon id => some (id, .beacon)
  | .queueSleeperCommand id _ => some (id, .sleeperCommand)
  | _ => none

theorem Work.action?_facts (request : Request) {id : String} {action : DeploymentAction} (acts : work.action? = some (id, action)) :
    work.path = deploymentPath id action ∧ work.method = "POST" ∧
      (work.Named request → isConnectionId id = true) := by
  cases work <;> simp only [Work.action?, reduceCtorEq, Option.some.injEq, Prod.mk.injEq] at acts
  all_goals obtain ⟨rfl, rfl⟩ := acts
  all_goals refine ⟨rfl, rfl, fun named => ?_⟩
  all_goals first | exact named | exact named.1

theorem actionWork_iff {id : String} {action : DeploymentAction} (valid : isConnectionId id = true) :
    actionWork request id action = .ok work ↔ work.action? = some (id, action) ∧ work.Named request := by
  constructor
  · intro acted
    cases action with
    | role =>
      obtain ⟨fields, read, chosen⟩ := bind_eq_ok.mp acted
      cases role : roleOf fields with
      | none =>
        rw [role] at chosen
        contradiction
      | some role =>
        simp only [role, Except.ok.injEq] at chosen
        obtain rfl := chosen
        exact ⟨rfl, valid, fields, read, ‹_›, rfl⟩
    | sleeperCommand =>
      obtain ⟨fields, read, chosen⟩ := bind_eq_ok.mp acted
      cases command : commandOf fields with
      | none =>
        rw [command] at chosen
        contradiction
      | some command =>
        simp only [command, Except.ok.injEq] at chosen
        obtain rfl := chosen
        exact ⟨rfl, valid, fields, read, ‹_›⟩
    | _ =>
      obtain rfl := Except.ok.inj acted
      exact ⟨rfl, valid⟩
  · rintro ⟨acts, named⟩
    cases work <;> simp only [Work.action?, reduceCtorEq, Option.some.injEq, Prod.mk.injEq] at acts
    case setDeploymentRole =>
      obtain ⟨rfl, rfl⟩ := acts
      obtain ⟨-, fields, read, role, rfl⟩ := named
      exact bind_eq_ok.mpr ⟨fields, read, by rw [role]⟩
    case queueSleeperCommand =>
      obtain ⟨rfl, rfl⟩ := acts
      obtain ⟨-, fields, read, command⟩ := named
      exact bind_eq_ok.mpr ⟨fields, read, by rw [command]⟩
    all_goals
      obtain ⟨rfl, rfl⟩ := acts
      rfl

/-- A path of deployments is not among the fixed ones, nor one of a connection. -/
theorem deployments_apart (id rest : String) : disconnectMatch (deploymentsPath ++ id ++ rest) = none ∧
    ∀ literal ∈ ["/app", "/logout", "/api/v1/cloudflare/connections", "/api/v1/cloudflare/api-token",
      "/api/v1/cloudflare/accounts", "/api/v1/cloudflare/zones", "/api/v1/deployments"],
      deploymentsPath ++ id ++ rest ≠ literal := by
  have apart : ∀ literal ∈ ["/app", "/logout", "/api/v1/cloudflare/connections", "/api/v1/cloudflare/api-token",
      "/api/v1/cloudflare/accounts", "/api/v1/cloudflare/zones", "/api/v1/deployments"],
      ¬ deploymentsPath.toList <+: literal.toList := by decide +kernel
  refine ⟨?_, fun literal member => append_ne (apart literal member)⟩
  cases read : disconnectMatch (deploymentsPath ++ id ++ rest) with
  | none => rfl
  | some connectionId =>
    obtain ⟨same, -⟩ := disconnectMatch_iff.mp read
    have first : deploymentsPath.toList <+: (deploymentsPath ++ id ++ rest).toList := by
      rw [String.toList_append, String.toList_append, List.append_assoc]
      exact List.prefix_append _ _
    have second : connectionsPath.toList <+: (deploymentsPath ++ id ++ rest).toList := by
      rw [same, String.toList_append, String.toList_append, List.append_assoc]
      exact List.prefix_append _ _
    exact absurd (List.prefix_or_prefix_of_prefix first second) (by decide)

/-- What is only read. -/
theorem asks_of_read {asked : Work} (routed : among request ["GET"] (.ok asked) owner = .ok (.work principal work))
    (path : request.pathname = asked.path) (method : asked.method = "GET") (named : asked.Named request) :
    owner = principal ∧ Asks expected request work := by
  obtain ⟨member, same, rfl⟩ := among_iff.mp routed
  obtain rfl := Except.ok.inj same
  have get : request.method = asked.method := (List.mem_singleton.mp member).trans method.symm
  exact ⟨rfl, path, get, fun post => absurd (method.symm.trans post) (by decide), named⟩

/-- What changes something. -/
theorem asks_of_change {asked : Work}
    (routed : among request ["POST"] (change expected request (.ok asked)) owner = .ok (.work principal work))
    (path : request.pathname = asked.path) (method : asked.method = "POST") (named : asked.Named request) :
    owner = principal ∧ Asks expected request work := by
  obtain ⟨member, changed, rfl⟩ := among_iff.mp routed
  obtain ⟨origin, same⟩ := change_iff.mp changed
  obtain rfl := Except.ok.inj same
  exact ⟨rfl, path, (List.mem_singleton.mp member).trans method.symm, fun _ => origin, named⟩

theorem asks_of_tenantRoute (routed : tenantRoute expected request owner = .ok (.work principal work)) :
    owner = principal ∧ Asks expected request work := by
  rw [tenantRoute] at routed
  split at routed
  · next path => exact asks_of_read routed path rfl trivial
  split at routed
  · next path => exact asks_of_change routed path rfl trivial
  split at routed
  · next path => exact asks_of_read routed path rfl trivial
  split at routed
  · next path => exact asks_of_change routed path rfl trivial
  split at routed
  · next id read =>
    obtain ⟨path, valid⟩ := disconnectMatch_iff.mp read
    exact asks_of_change routed path rfl valid
  split at routed
  · next path =>
    obtain ⟨method, asked, rfl⟩ := among_iff.mp routed
    obtain ⟨id, rfl, named⟩ := accountsWork_iff.mp asked
    exact ⟨rfl, path, List.mem_singleton.mp method, fun post => absurd post (by simp [Work.method]), named⟩
  split at routed
  · next path =>
    obtain ⟨method, asked, rfl⟩ := among_iff.mp routed
    obtain ⟨id, accountId, rfl, named⟩ := zonesWork_iff.mp asked
    exact ⟨rfl, path, List.mem_singleton.mp method, fun post => absurd post (by simp [Work.method]), named⟩
  split at routed
  · next path =>
    obtain ⟨method, asked, rfl⟩ := among_iff.mp routed
    split at asked
    · next get =>
      obtain rfl := Except.ok.inj asked
      exact ⟨rfl, path, get, fun post => absurd post (by decide), trivial⟩
    · next other =>
      obtain ⟨origin, same⟩ := change_iff.mp asked
      obtain rfl := Except.ok.inj same
      have post : request.method = "POST" := by simpa [other] using method
      exact ⟨rfl, path, post, fun _ => origin, trivial⟩
  split at routed
  · next id read =>
    obtain ⟨path, valid⟩ := deploymentMatch_iff.mp read
    exact asks_of_read routed path rfl valid
  · next id action read =>
    obtain ⟨path, valid⟩ := deploymentMatch_iff.mp read
    obtain ⟨method, changed, rfl⟩ := among_iff.mp routed
    obtain ⟨origin, asked⟩ := change_iff.mp changed
    obtain ⟨acts, named⟩ := (actionWork_iff valid).mp asked
    obtain ⟨own, post, -⟩ := Work.action?_facts request acts
    exact ⟨rfl, path.trans own.symm, (List.mem_singleton.mp method).trans post.symm, fun _ => origin, named⟩
  · cases routed

/-- The chain for a path of deployments. -/
theorem tenantRoute_deployment {id : String} (action : Option DeploymentAction)
    (path : request.pathname = deploymentsPath ++ id ++ (action.elim "" fun action => "/" ++ action.text))
    (valid : isConnectionId id = true) : tenantRoute expected request owner =
      action.elim (among request ["GET"] (.ok (.getDeployment id)) owner) fun action =>
        among request ["POST"] (change expected request (actionWork request id action)) owner := by
  obtain ⟨none, apart⟩ := deployments_apart id (action.elim "" fun action => "/" ++ action.text)
  rw [tenantRoute, path, if_neg (apart _ (by simp)), if_neg (apart _ (by simp)), if_neg (apart _ (by simp)),
    if_neg (apart _ (by simp)), none]
  rw [if_neg (apart _ (by simp)), if_neg (apart _ (by simp)), if_neg (apart _ (by simp)),
    deploymentMatch_iff.mpr ⟨rfl, valid⟩]
  cases action <;> rfl

/-- The chain for a connection that goes. -/
theorem tenantRoute_disconnect {id : String} (path : request.pathname = connectionsPath ++ id ++ "/disconnect")
    (valid : isConnectionId id = true) : tenantRoute expected request owner =
      among request ["POST"] (change expected request (.ok (.disconnectCloudflareConnection id))) owner := by
  have apart : ∀ literal ∈ ["/app", "/logout", "/api/v1/cloudflare/connections", "/api/v1/cloudflare/api-token"],
      ¬ connectionsPath.toList <+: literal.toList := by decide +kernel
  rw [tenantRoute, path, if_neg (append_ne (apart _ (by simp))), if_neg (append_ne (apart _ (by simp))),
    if_neg (append_ne (apart _ (by simp))), if_neg (append_ne (apart _ (by simp))), disconnectMatch_iff.mpr ⟨rfl, valid⟩]

theorem disconnectMatch_fixed : ∀ path ∈ ["/api/v1/cloudflare/accounts", "/api/v1/cloudflare/zones",
    "/api/v1/deployments"], disconnectMatch path = none := by
  decide +kernel

/-- The chain behind the session gives a work exactly where the request asks for it. -/
theorem tenantRoute_iff : tenantRoute expected request owner = .ok (.work principal work) ↔
    owner = principal ∧ Asks expected request work := by
  refine ⟨asks_of_tenantRoute, ?_⟩
  rintro ⟨rfl, path, method, origin, named⟩
  have read (own : work.method = "GET") :
      among request ["GET"] (.ok work) owner = .ok (.work owner work) :=
    among_iff.mpr ⟨List.mem_singleton.mpr (method.trans own), rfl, rfl⟩
  have change (own : work.method = "POST") {asked : Except Thrown Work} (same : asked = .ok work) :
      among request ["POST"] (change expected request asked) owner = .ok (.work owner work) :=
    among_iff.mpr ⟨List.mem_singleton.mpr (method.trans own), change_iff.mpr ⟨origin own, same⟩, rfl⟩
  cases acts : work.action? with
  | some parts =>
    obtain ⟨id, action⟩ := parts
    obtain ⟨own, post, valid⟩ := Work.action?_facts request acts
    rw [tenantRoute_deployment (some action) (path.trans own) (valid named)]
    exact change post ((actionWork_iff (valid named)).mpr ⟨acts, named⟩)
  | none =>
    cases work with
    | getDeployment id =>
      rw [tenantRoute_deployment none path named]
      exact read rfl
    | disconnectCloudflareConnection id =>
      rw [tenantRoute_disconnect path named]
      exact change rfl rfl
    | appPage =>
      rw [tenantRoute, path]
      exact read rfl
    | logout =>
      rw [tenantRoute, path]
      exact change rfl rfl
    | listCloudflareConnections =>
      rw [tenantRoute, path]
      exact read rfl
    | createTemporaryApiTokenConnection =>
      rw [tenantRoute, path]
      exact change rfl rfl
    | listCloudflareAccounts id =>
      have listed : among request ["GET"] (accountsWork request) owner = .ok (.work owner (.listCloudflareAccounts id)) :=
        among_iff.mpr ⟨List.mem_singleton.mpr method, accountsWork_iff.mpr ⟨id, rfl, named⟩, rfl⟩
      rw [tenantRoute, path, Work.path, disconnectMatch_fixed _ (by simp)]
      exact listed
    | listCloudflareZones id accountId =>
      have listed : among request ["GET"] (zonesWork request) owner = .ok (.work owner (.listCloudflareZones id accountId)) :=
        among_iff.mpr ⟨List.mem_singleton.mpr method, zonesWork_iff.mpr ⟨id, accountId, rfl, named⟩, rfl⟩
      rw [tenantRoute, path, Work.path, disconnectMatch_fixed _ (by simp)]
      exact listed
    | listDeployments =>
      rw [tenantRoute, path, Work.path, disconnectMatch_fixed _ (by simp)]
      exact among_iff.mpr ⟨by simp [method, Work.method], if_pos method, rfl⟩
    | createDeployment =>
      rw [tenantRoute, path, Work.path, disconnectMatch_fixed _ (by simp)]
      have other : request.method ≠ "GET" := by simp [method, Work.method]
      exact among_iff.mpr ⟨by simp [method, Work.method], (if_neg other).trans (change_iff.mpr ⟨origin rfl, rfl⟩), rfl⟩
    | _ => contradiction

/-! ## Before the session there is no work -/

theorem only_ne_work (method : String) (page : Page) : only method page request ≠ .work principal work := by
  rw [only]
  split <;> simp

theorem publicRoutes_ne_work : ∀ entry ∈ publicRoutes, entry.2 request ≠ .work principal work := by
  simp only [publicRoutes, List.forall_mem_cons, only_ne_work, ne_eq, not_false_eq_true, reduceCtorEq, true_and,
    List.not_mem_nil, IsEmpty.forall_iff, implies_true, and_true]
  split
  · simp
  · split <;> simp

def publicPaths : List String := publicRoutes.flatMap (·.1)

theorem publicRoute_eq_none (foreign : request.pathname ∉ publicPaths) : publicRoute request = none := by
  rw [publicRoute, Option.map_eq_none_iff, List.find?_eq_none]
  intro entry member named
  exact foreign (List.mem_flatMap.mpr ⟨entry, member, of_decide_eq_true named⟩)

/-- No path of a tenant is answered before the session. -/
theorem Work.path_private (work : Work) : work.path ∉ publicPaths := by
  have fixed : ∀ path ∈ ["/app", "/logout", "/api/v1/cloudflare/connections", "/api/v1/cloudflare/api-token",
      "/api/v1/cloudflare/accounts", "/api/v1/cloudflare/zones", "/api/v1/deployments"], path ∉ publicPaths := by
    decide +kernel
  have apart : ∀ path ∈ publicPaths, ¬ connectionsPath.toList <+: path.toList ∧ ¬ deploymentsPath.toList <+: path.toList := by
    decide +kernel
  have connections : ∀ path ∈ publicPaths, ¬ connectionsPath.toList <+: path.toList := fun path member => (apart path member).1
  have deployments : ∀ path ∈ publicPaths, ¬ deploymentsPath.toList <+: path.toList := fun path member => (apart path member).2
  cases work
  case disconnectCloudflareConnection id => exact fun member => append_ne (connections _ member) rfl
  case getDeployment id => exact fun member => append_ne (deployments _ member) rfl
  case appPage | logout | listCloudflareConnections | createTemporaryApiTokenConnection | listCloudflareAccounts
    | listCloudflareZones | listDeployments | createDeployment => exact fixed _ (by simp [Work.path])
  all_goals exact fun member => append_ne (deployments _ member) rfl

end

/-- A work is done exactly for the tenant of a session who asks for it, from a page of the portal where it changes
something. -/
theorem route_work_iff (expected : Except Thrown String) (request : Request)
    (session : Except Thrown (Option SessionPrincipal)) (principal : SessionPrincipal) (work : Work) :
    route expected request session = .ok (.work principal work) ↔
      session = .ok (some principal) ∧ Asks expected request work := by
  rw [route]
  cases first : publicRoute request with
  | some answer =>
    constructor
    · intro routed
      obtain ⟨entry, found, answered⟩ := Option.map_eq_some_iff.mp first
      have same : entry.2 request = .work principal work := answered.trans (Except.ok.inj routed)
      exact absurd same (publicRoutes_ne_work entry (List.mem_of_find?_eq_some found))
    · rintro ⟨-, asks⟩
      rw [publicRoute_eq_none (asks.path ▸ work.path_private)] at first
      contradiction
  | none =>
    rw [bind_eq_ok]
    constructor
    · rintro ⟨found, known, routed⟩
      cases found with
      | none => contradiction
      | some owner =>
        obtain ⟨rfl, asks⟩ := tenantRoute_iff.mp routed
        exact ⟨known, asks⟩
    · rintro ⟨known, asks⟩
      exact ⟨some principal, known, tenantRoute_iff.mpr ⟨rfl, asks⟩⟩

end OmniControlPlane.Portal.Front
