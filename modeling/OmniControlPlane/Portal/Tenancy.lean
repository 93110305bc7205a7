import OmniControlPlane.Portal.Requests

/-! # Noninterference of tenants

Two databases agree for a tenant when they have the same rows of that tenant. Every handler looks up the
connection or the deployment of its request among the rows of the tenant, and so it answers both databases
alike. `disconnectCloudflareConnection` counts deployments before that, those of other tenants included;
and `createDeployment` tells the status of the deployment that has the name, whoever owns it.
-/

namespace OmniControlPlane.Portal

open Lib Program

namespace Tenancy

open Deployment (Status)

/-- The same rows of one tenant. -/
structure Agrees (tenantId : String) (db db' : Db) : Prop where
  connections : db.oauth_connections.filter (·.tenant_id = tenantId) =
    db'.oauth_connections.filter (·.tenant_id = tenantId)
  deployments : db.deployments.filter (·.tenant_id = tenantId) = db'.deployments.filter (·.tenant_id = tenantId)
  secrets : ∀ row ∈ db.deployments, row.tenant_id = tenantId →
    db.deployment_secrets.get? row.id = db'.deployment_secrets.get? row.id

section

variable {tenantId : String} {db db' : Db}

theorem Agrees.connection (agrees : Agrees tenantId db db') (identified : tenantId ≠ "") (connectionId : String) :
    db.connection connectionId tenantId = db'.connection connectionId tenantId := by
  have within (db : Db) : (db.oauth_connections.filter (·.tenant_id = tenantId)).find? (fun row =>
      row.id = connectionId ∧ row.revoked_at = none) = db.connection connectionId tenantId := by
    rw [List.find?_filter, Db.connection]
    congr 1
    funext row
    simp only [identified, false_or, decide_eq_true_eq]
    exact decide_eq_decide.mpr ⟨fun ⟨owner, id, unrevoked⟩ => ⟨id, owner, unrevoked⟩,
      fun ⟨id, owner, unrevoked⟩ => ⟨owner, id, unrevoked⟩⟩
  rw [← within, ← within, agrees.connections]

theorem Agrees.owned (agrees : Agrees tenantId db db') (deploymentId : String) :
    db.owned deploymentId tenantId = db'.owned deploymentId tenantId := by
  have within (db : Db) : (db.deployments.filter (·.tenant_id = tenantId)).find? (fun row =>
      row.id = deploymentId) = db.owned deploymentId tenantId := by
    rw [List.find?_filter, Db.owned]
    congr 1
    funext row
    simp only [decide_eq_true_eq]
    exact decide_eq_decide.mpr and_comm
  rw [← within, ← within, agrees.deployments]

theorem Db.owned_spec {deploymentId : String} {row : DeploymentRow} (owned : db.owned deploymentId tenantId = some row) :
    row ∈ db.deployments ∧ row.id = deploymentId ∧ row.tenant_id = tenantId := by
  rw [Db.owned] at owned
  have named := List.find?_some owned
  exact ⟨List.mem_of_find?_eq_some owned, of_decide_eq_true named⟩

/-- The secrets of a deployment that the tenant owns are among what agrees. -/
theorem Agrees.secret (agrees : Agrees tenantId db db') {deploymentId : String} {row : DeploymentRow}
    (owned : db.owned deploymentId tenantId = some row) :
    db.deployment_secrets.get? row.id = db'.deployment_secrets.get? row.id :=
  agrees.secrets row (Db.owned_spec owned).1 (Db.owned_spec owned).2.2

/-- Rows are changed in place, and stay with their tenant. -/
theorem filter_map_owner {ρ : Type} {rows : List ρ} {owner : ρ → String} {update : ρ → ρ}
    (keeps : ∀ row, owner (update row) = owner row) :
    (rows.map update).filter (owner · = tenantId) = (rows.filter (owner · = tenantId)).map update := by
  rw [List.filter_map]
  congr 2
  funext row
  simp only [Function.comp, keeps]

theorem Agrees.update (agrees : Agrees tenantId db db') {update : DeploymentRow → DeploymentRow}
    (keeps : ∀ row, (update row).tenant_id = row.tenant_id ∧ (update row).id = row.id) :
    Agrees tenantId { db with deployments := db.deployments.map update }
      { db' with deployments := db'.deployments.map update } where
  connections := agrees.connections
  deployments := by
    rw [filter_map_owner fun row => (keeps row).1, filter_map_owner fun row => (keeps row).1, agrees.deployments]
  secrets row member owner := by
    obtain ⟨before, there, rfl⟩ := List.mem_map.mp member
    rw [(keeps before).1] at owner
    rw [(keeps before).2]
    exact agrees.secrets before there owner

/-! ## Statements -/

theorem refuse_secure {α : Type} (indist : Db → Db → Prop) (status : ℕ) (code message : String) :
    Secure indist (refuse status code message : Handler α) := Secure.throw _

theorem refuseIf_secure (indist : Db → Db → Prop) (refused : Prop) [Decidable refused] (status : ℕ)
    (code message : String) : Secure indist (refuseIf refused status code message) := by
  rw [refuseIf]
  split
  · exact Secure.throw _
  · exact Secure.pure ()

variable {env : Env} {principal : SessionPrincipal}

theorem updateDeployment_secure (deploymentId : String) {update : DeploymentRow → DeploymentRow}
    (keeps : ∀ row, (update row).tenant_id = row.tenant_id ∧ (update row).id = row.id) :
    Secure (Agrees tenantId) (updateDeployment deploymentId update) := by
  refine Secure.writes fun db db' agrees => agrees.update fun row => ?_
  split
  · exact keeps row
  · exact ⟨rfl, rfl⟩

theorem getConnection_secure (connectionId : String) :
    Secure (Agrees principal.tenantId) (getConnection connectionId principal.tenantId) := by
  refine (Secure.reads fun db db' agrees => agrees.connection principal.identified connectionId).bind ?_
  rintro (_ | connection)
  · exact refuse_secure _ _ _ _
  · exact Secure.pure connection

theorem ownedDeployment_eq (deploymentId : String) (db : Db) : ownedDeployment principal deploymentId db =
    (match db.owned deploymentId principal.tenantId with
      | some deployment => .ok deployment
      | none => .error (.http ⟨404, "deployment_not_found", "Deployment not found"⟩), db) := by
  change (match db.owned deploymentId principal.tenantId with
    | some deployment => (pure deployment : Handler DeploymentRow)
    | none => refuse 404 "deployment_not_found" "Deployment not found") db = _
  cases db.owned deploymentId principal.tenantId <;> rfl

theorem ownedDeployment_secure (deploymentId : String) :
    Secure (Agrees principal.tenantId) (ownedDeployment principal deploymentId) := by
  intro db db' agrees
  simp only [result, final, ownedDeployment_eq, agrees.owned deploymentId, true_and]
  exact agrees

/-- A deployment that was found is owned. -/
theorem ownedDeployment_found {deploymentId : String} {row : DeploymentRow}
    (found : (ownedDeployment principal deploymentId).result db = .ok row) :
    db.owned deploymentId principal.tenantId = some row := by
  rw [result, ownedDeployment_eq] at found
  cases owned : db.owned deploymentId principal.tenantId with
  | none => simp [owned] at found
  | some deployment => simpa [owned] using found

theorem failIf_secure (indist : Db → Db → Prop) (failed : Prop) [Decidable failed] (message : String) :
    Secure indist (failIf failed message) := by
  rw [failIf]
  split
  · exact Secure.throw _
  · exact Secure.pure ()

theorem getValidCloudflareAuth_secure (indist : Db → Db → Prop) (connection : ConnectionRow) :
    Secure indist (getValidCloudflareAuth env connection) :=
  (failIf_secure _ _ _).bind fun _ => (failIf_secure _ _ _).bind fun _ => (failIf_secure _ _ _).bind fun _ =>
    Secure.lift _

theorem assertConnectionResourceBoundary_secure (indist : Db → Db → Prop) (connection : ConnectionRow)
    (accountId zoneId : String) : Secure indist (assertConnectionResourceBoundary connection accountId zoneId) :=
  refuseIf_secure _ _ _ _ _

theorem startWorkflow_secure (action : Deployment.WorkflowAction) (deploymentId : String) :
    Secure (Agrees tenantId) (startWorkflow env action deploymentId) := by
  refine (Secure.lift _).bind fun instanceId => (updateDeployment_secure deploymentId ?_).bind fun _ => Secure.pure _
  exact fun _ => ⟨rfl, rfl⟩

theorem replaceConnection_secure (deployment : DeploymentRow) (replacementConnectionId : String) :
    Secure (Agrees principal.tenantId) (replaceConnection env principal deployment replacementConnectionId) := by
  refine ((getConnection_secure _).tryCatch fun _ => refuse_secure _ _ _ _).bind fun replacement => ?_
  refine (assertConnectionResourceBoundary_secure _ _ _ _).bind fun _ => ?_
  refine (getValidCloudflareAuth_secure _ _).bind fun auth => ?_
  refine (Secure.lift _).bind fun zone => ?_
  refine (refuseIf_secure _ _ _ _ _).bind fun _ => ?_
  refine Secure.writes fun db db' agrees => agrees.update fun row => ?_
  split <;> exact ⟨rfl, rfl⟩

theorem ensureActiveDeploymentConnection_secure (deployment : DeploymentRow) (replacementConnectionId : Option String) :
    Secure (Agrees principal.tenantId)
      (ensureActiveDeploymentConnection env principal deployment replacementConnectionId) := by
  refine (((getConnection_secure _).bind fun _ => Secure.pure true).tryCatch fun _ => Secure.pure false).bind ?_
  rintro (_ | _)
  · cases replacementConnectionId with
    | none => exact refuse_secure _ _ _ _
    | some connectionId => exact replaceConnection_secure deployment connectionId
  · exact Secure.pure ()

theorem bestEffort_succeeds {α : Type} (body : Handler α) (db : Db) : (bestEffort body).result db = .ok () := by
  change (Program.orElse (body >>= fun _ => pure ()) (fun _ => pure ()) db).1 = .ok ()
  rw [Program.orElse]
  rcases ((body >>= fun _ => pure ()) db) with ⟨_ | ⟨⟩, _⟩ <;> rfl

/-! ## Handlers -/

theorem listCloudflareZones_secure (connectionId accountId : String) :
    Secure (Agrees principal.tenantId) (listCloudflareZones principal connectionId accountId) := by
  refine (getConnection_secure _).bind fun connection => ?_
  refine (refuseIf_secure _ _ _ _ _).bind fun _ => ?_
  refine (refuseIf_secure _ _ _ _ _).bind fun _ => ?_
  exact (refuseIf_secure _ _ _ _ _).bind fun _ => Secure.pure _

theorem getDeployment_discreet (deploymentId : String) :
    Discreet (Agrees principal.tenantId) (getDeployment principal deploymentId) := by
  intro db db' agrees
  have results := (ownedDeployment_secure deploymentId db db' agrees).1
  rw [getDeployment, bind_result, bind_result, ← results]
  cases found : (ownedDeployment principal deploymentId).result db with
  | error error => rfl
  | ok deployment =>
    have secret := agrees.secret (ownedDeployment_found found)
    simp only [final, ownedDeployment_eq]
    split
    · rfl
    · exact congrArg (fun secrets => Except.ok (Response.deployment deployment
        (Option.map (fun bundle : Deployment.SecretBundle => bundle.subscriptionToken) secrets))) secret

theorem rotateBootstrapToken_secure (deploymentId : String) :
    Secure (Agrees principal.tenantId) (rotateBootstrapToken env principal deploymentId) := by
  refine (ownedDeployment_secure _).bind fun deployment => ?_
  refine (refuseIf_secure _ _ _ _ _).bind fun _ => ?_
  refine (Secure.writes fun db db' agrees => ?_).bind fun _ => (Secure.lift _).bind fun _ => Secure.pure _
  exact ⟨agrees.connections, agrees.deployments, agrees.secrets⟩

theorem retryDeployment_secure (deploymentId : String) (body : Except HttpError (Option Body)) :
    Secure (Agrees principal.tenantId) (retryDeployment env principal deploymentId body) := by
  refine (ownedDeployment_secure _).bind fun deployment => ?_
  refine (refuseIf_secure _ _ _ _ _).bind fun _ => ?_
  refine (Secure.lift _).bind fun replacement => ?_
  refine (ensureActiveDeploymentConnection_secure deployment replacement).bind fun _ => ?_
  refine (startWorkflow_secure _ _).bind fun instanceId => ?_
  exact (Secure.lift _).bind fun _ => Secure.pure _

theorem revokeDeployment_secure (deploymentId : String) (body : Except HttpError (Option Body)) :
    Secure (Agrees principal.tenantId) (revokeDeployment env principal deploymentId body) := by
  refine (ownedDeployment_secure _).bind fun deployment => ?_
  split
  · exact Secure.pure _
  refine (refuseIf_secure _ _ _ _ _).bind fun _ => ?_
  refine (Secure.lift _).bind fun replacement => ?_
  refine (ensureActiveDeploymentConnection_secure deployment replacement).bind fun _ => ?_
  refine (updateDeployment_secure deployment.id ?_).bind fun _ => ?_
  · exact fun _ => ⟨rfl, rfl⟩
  refine ((startWorkflow_secure _ _).tryCatch fun error => ?_).bind fun instanceId => ?_
  · refine (updateDeployment_secure deployment.id ?_).bind fun _ => Secure.throw _
    exact fun _ => ⟨rfl, rfl⟩
  · exact (Secure.lift _).bind fun _ => Secure.pure _

theorem deleteDeployment_secure (deploymentId : String) :
    Secure (Agrees principal.tenantId) (deleteDeployment env principal deploymentId) := by
  refine (ownedDeployment_secure _).bind fun deployment => ?_
  refine (refuseIf_secure _ _ _ _ _).bind fun _ => ?_
  refine (Secure.writes fun db db' agrees => ?_).bind fun _ => (Secure.lift _).bind fun _ => Secure.pure _
  refine ⟨agrees.connections, ?_, fun row member owner => ?_⟩
  · rw [List.filter_comm, agrees.deployments, List.filter_comm]
  · obtain ⟨there, stays⟩ := List.mem_filter.mp member
    have other : row.id ≠ deployment.id := fun same => of_decide_eq_true stays ⟨same, owner⟩
    rw [OrderedMap.get?_filter db.deployment_secrets, OrderedMap.get?_filter db'.deployment_secrets,
      agrees.secrets row there owner]

theorem rotateSubscriptionToken_discreet (deploymentId : String) (body : Except HttpError (Option Body)) :
    Discreet (Agrees principal.tenantId) (rotateSubscriptionToken env principal deploymentId body) := by
  apply Discreet.bind (ownedDeployment_secure _)
  intro deployment
  apply Discreet.bind (refuseIf_secure _ _ _ _ _)
  intro _
  apply Discreet.bind (Secure.lift _)
  intro replacement
  apply Discreet.bind (ensureActiveDeploymentConnection_secure deployment replacement)
  intro _
  refine Discreet.bind_reads (ownedDeployment_secure _) ?_ fun current secrets => ?_
  · intro db db' row agrees found
    simp only [final, ownedDeployment_eq]
    exact agrees.secret (ownedDeployment_found found)
  cases secrets with
  | none => exact (Secure.throw _).discreet
  | some secrets =>
    apply Discreet.bind (getConnection_secure _)
    intro connection
    apply Discreet.bind (getValidCloudflareAuth_secure _ connection)
    intro auth
    apply Discreet.bind (Secure.lift _)
    intro bundle
    apply Discreet.bind (Secure.lift _)
    intro _
    refine Discreet.bind (Secure.writes fun db db' agrees => ?_) fun _ => ?_
    · refine ⟨agrees.connections, agrees.deployments, fun row member owner => ?_⟩
      have same := agrees.secrets row member owner
      rw [OrderedMap.get?_modify, OrderedMap.get?_modify]
      split
      · next named => rw [← named, same]
      · exact same
    refine Discreet.bind (updateDeployment_secure current.id ?_) fun _ => ?_
    · exact fun _ => ⟨rfl, rfl⟩
    apply Discreet.bind (Secure.lift _)
    intro _
    exact Discreet.ignoring (fun db => ⟨(), bestEffort_succeeds _ db⟩) fun _ => rfl

/-! ## Requests with an id of somebody else -/

/-- What a tenant asks for with the id of a connection or a deployment. -/
inductive Request where
  | disconnectCloudflareConnection (connectionId : String)
  | listCloudflareZones (connectionId accountId : String)
  | getDeployment (deploymentId : String)
  | rotateBootstrapToken (deploymentId : String)
  | rotateSubscriptionToken (deploymentId : String) (body : Except HttpError (Option Body))
  | retryDeployment (deploymentId : String) (body : Except HttpError (Option Body))
  | revokeDeployment (deploymentId : String) (body : Except HttpError (Option Body))
  | deleteDeployment (deploymentId : String)

variable (env principal) in
def Request.handle : Request → Handler Response
  | .disconnectCloudflareConnection connectionId =>
    Tenancy.disconnectCloudflareConnection env principal connectionId
  | .listCloudflareZones connectionId accountId => Tenancy.listCloudflareZones principal connectionId accountId
  | .getDeployment deploymentId => Tenancy.getDeployment principal deploymentId
  | .rotateBootstrapToken deploymentId => Tenancy.rotateBootstrapToken env principal deploymentId
  | .rotateSubscriptionToken deploymentId body => Tenancy.rotateSubscriptionToken env principal deploymentId body
  | .retryDeployment deploymentId body => Tenancy.retryDeployment env principal deploymentId body
  | .revokeDeployment deploymentId body => Tenancy.revokeDeployment env principal deploymentId body
  | .deleteDeployment deploymentId => Tenancy.deleteDeployment env principal deploymentId

def Db.OwnsConnection (db : Db) (tenantId connectionId : String) : Prop :=
  ∃ row ∈ db.oauth_connections, row.id = connectionId ∧ row.tenant_id = tenantId

def Db.OwnsDeployment (db : Db) (tenantId deploymentId : String) : Prop :=
  ∃ row ∈ db.deployments, row.id = deploymentId ∧ row.tenant_id = tenantId

/-- The connection that a body asks for. -/
def replacement (body : Except HttpError (Option Body)) : Option String :=
  match requestedConnectionId body with
  | .ok connectionId => connectionId
  | .error _ => none

/-- The request names a connection or a deployment that the tenant does not own. -/
def Request.NamesForeign (db : Db) (tenantId : String) : Request → Prop
  | .disconnectCloudflareConnection connectionId | .listCloudflareZones connectionId _ =>
    ¬ db.OwnsConnection tenantId connectionId
  | .getDeployment deploymentId | .rotateBootstrapToken deploymentId | .deleteDeployment deploymentId =>
    ¬ db.OwnsDeployment tenantId deploymentId
  | .rotateSubscriptionToken deploymentId body | .retryDeployment deploymentId body
  | .revokeDeployment deploymentId body =>
    ¬ db.OwnsDeployment tenantId deploymentId ∨
      ∃ connectionId ∈ replacement body, ¬ db.OwnsConnection tenantId connectionId

/-- The status of a response, and the code of its error. -/
def statusAndCode : Except Thrown Response → ℕ × Option String
  | .error thrown => (thrown.response.status, some thrown.response.code)
  | .ok (.retried ..) | .ok (.revoking _) | .ok (.created ..) => (202, none)
  | .ok _ => (200, none)

/-- A connection that is disconnected has work on it in both databases, or in neither. -/
def SameWork (db db' : Db) : Request → Prop
  | .disconnectCloudflareConnection connectionId => 0 < db.required connectionId ↔ 0 < db'.required connectionId
  | _ => True

theorem handle_discreet {request : Request}
    (other : ∀ connectionId, request ≠ .disconnectCloudflareConnection connectionId) :
    Discreet (Agrees principal.tenantId) (request.handle env principal) := by
  cases request with
  | disconnectCloudflareConnection connectionId => exact absurd rfl (other connectionId)
  | listCloudflareZones connectionId accountId => exact (listCloudflareZones_secure connectionId accountId).discreet
  | getDeployment deploymentId => exact getDeployment_discreet deploymentId
  | rotateBootstrapToken deploymentId => exact (rotateBootstrapToken_secure deploymentId).discreet
  | rotateSubscriptionToken deploymentId body => exact rotateSubscriptionToken_discreet deploymentId body
  | retryDeployment deploymentId body => exact (retryDeployment_secure deploymentId body).discreet
  | revokeDeployment deploymentId body => exact (revokeDeployment_secure deploymentId body).discreet
  | deleteDeployment deploymentId => exact (deleteDeployment_secure deploymentId).discreet

/-- The answer for a connection that the tenant does not own tells whether there is work on it. -/
theorem disconnect_foreign {connectionId : String} (foreign : ¬ db.OwnsConnection principal.tenantId connectionId) :
    statusAndCode ((disconnectCloudflareConnection env principal connectionId).result db) =
      (409, some (if 0 < db.required connectionId then "cloudflare_connection_busy"
        else "cloudflare_reconnect_required")) := by
  have absent : db.connection connectionId principal.tenantId = none := by
    refine List.find?_eq_none.mpr fun row member named => ?_
    obtain ⟨id, owner, -⟩ := of_decide_eq_true named
    exact foreign ⟨row, member, id, owner.resolve_left principal.identified⟩
  have lookup : getConnection connectionId principal.tenantId db =
      (.error (.http ⟨409, "cloudflare_reconnect_required", "Cloudflare connection not found"⟩), db) := by
    have read (next : Option ConnectionRow → Handler ConnectionRow) :
        (reads (·.connection connectionId principal.tenantId) >>= next) db =
          next (db.connection connectionId principal.tenantId) db := rfl
    rw [getConnection, read, absent]
    rfl
  rw [disconnectCloudflareConnection, bind_result]
  change statusAndCode ((refuseIf (0 < db.required connectionId) 409 "cloudflare_connection_busy"
    "Cloudflare access is still required by an active deployment" >>= fun _ => _).result db) = _
  by_cases busy : 0 < db.required connectionId
  · rw [bind_result, refuseIf, if_pos busy, if_pos busy]
    rfl
  · rw [bind_result, refuseIf, if_neg busy, if_neg busy]
    change statusAndCode ((getConnection connectionId principal.tenantId >>= fun _ => _).result db) = _
    rw [bind_result, result, lookup]
    rfl

theorem disconnect_same_iff {connectionId : String}
    (foreign : ¬ db.OwnsConnection principal.tenantId connectionId)
    (foreign' : ¬ db'.OwnsConnection principal.tenantId connectionId) :
    statusAndCode ((disconnectCloudflareConnection env principal connectionId).result db) =
        statusAndCode ((disconnectCloudflareConnection env principal connectionId).result db') ↔
      (0 < db.required connectionId ↔ 0 < db'.required connectionId) := by
  rw [disconnect_foreign foreign, disconnect_foreign foreign']
  by_cases busy : 0 < db.required connectionId <;> by_cases busy' : 0 < db'.required connectionId <;>
    simp [busy, busy']

/-- What a tenant owns is the same in both databases. -/
theorem Agrees.ownsConnection (agrees : Agrees tenantId db db') {connectionId : String}
    (owns : db'.OwnsConnection tenantId connectionId) : db.OwnsConnection tenantId connectionId := by
  obtain ⟨row, member, id, owner⟩ := owns
  have kept : row ∈ db'.oauth_connections.filter (·.tenant_id = tenantId) :=
    List.mem_filter.mpr ⟨member, decide_eq_true owner⟩
  rw [← agrees.connections] at kept
  exact ⟨row, (List.mem_filter.mp kept).1, id, owner⟩

/-! ## Conflicts of names -/

/-- The same deployment, perhaps of another tenant and with another status. -/
def Restated (tenantId : String) (row row' : DeploymentRow) : Prop :=
  row' = { row with status := row'.status } ∧ (row.tenant_id = tenantId → row' = row)

/-- The databases differ in the status of deployments of other tenants. -/
structure SameButStatus (tenantId : String) (db db' : Db) : Prop where
  connections : db.oauth_connections = db'.oauth_connections
  secrets : db.deployment_secrets = db'.deployment_secrets
  deployments : List.Forall₂ (Restated tenantId) db.deployments db'.deployments

theorem filter_restated {rows rows' : List DeploymentRow} (restated : List.Forall₂ (Restated tenantId) rows rows') :
    rows.filter (·.tenant_id = tenantId) = rows'.filter (·.tenant_id = tenantId) := by
  induction restated with
  | nil => rfl
  | @cons row row' rows rows' alike _ ih =>
    obtain ⟨changed, kept⟩ := alike
    have owner : row'.tenant_id = row.tenant_id := by rw [changed]
    by_cases owned : row.tenant_id = tenantId
    · rw [kept owned]
      simp only [List.filter_cons, owned, decide_true, if_true, ih]
    · simp only [List.filter_cons, owner, owned, decide_false, Bool.false_eq_true, if_false, ih]

/-- A test that does not look at the status finds a row in both lists, or in neither. -/
theorem any_restated {rows rows' : List DeploymentRow} (restated : List.Forall₂ (Restated tenantId) rows rows')
    {test : DeploymentRow → Bool} (blind : ∀ row status, test { row with status := status } = test row) :
    rows.any test = rows'.any test := by
  induction restated with
  | nil => rfl
  | @cons row row' rows rows' alike _ ih =>
    have same : test row' = test row := by rw [alike.1, blind]
    rw [List.any_cons, List.any_cons, ih, same]

theorem SameButStatus.agrees (same : SameButStatus tenantId db db') : Agrees tenantId db db' where
  connections := by rw [same.connections]
  deployments := filter_restated same.deployments
  secrets _ _ _ := by rw [same.secrets]

/-- The query for a conflict finds a deployment in both databases, or in neither. -/
theorem SameButStatus.conflict (same : SameButStatus tenantId db db') (input : CreateDeploymentInput) :
    (db.conflict input).isSome = (db'.conflict input).isSome := by
  rw [Db.conflict, Db.conflict, List.isSome_find?, List.isSome_find?]
  exact any_restated same.deployments fun _ _ => rfl

theorem checkCreate_secure (input : CreateDeploymentInput) :
    Secure (Agrees principal.tenantId) (checkCreate env principal input) := by
  refine (getConnection_secure _).bind fun connection => ?_
  refine (assertConnectionResourceBoundary_secure _ _ _ _).bind fun _ => ?_
  refine (getValidCloudflareAuth_secure _ connection).bind fun auth => ?_
  refine (Secure.lift _).bind fun zone => ?_
  refine (refuseIf_secure _ _ _ _ _).bind fun _ => ?_
  refine (refuseIf_secure _ _ _ _ _).bind fun _ => ?_
  exact (refuseIf_secure _ _ _ _ _).bind fun _ => Secure.pure _

/-- The new rows belong to the tenant. -/
theorem insertDeployment_discreet (input : CreateDeploymentInput) (connection : ConnectionRow) :
    Discreet (Agrees principal.tenantId) (insertDeployment env principal input connection) := by
  refine Discreet.bind (Secure.writes fun db db' agrees => ?_) fun _ => ?_
  · refine ⟨agrees.connections, ?_, fun row member owner => ?_⟩
    · rw [List.filter_append, List.filter_append, agrees.deployments]
    · rw [OrderedMap.get?_alter, OrderedMap.get?_alter]
      rcases List.mem_append.mp member with old | new
      · rw [agrees.secrets row old owner]
      · rw [List.mem_singleton.mp new, if_pos rfl, if_pos rfl]
  · refine Discreet.bind_rethrowing (startWorkflow_secure _ _) (fun error db => ?_) fun instanceId => ?_
    · rw [bind_result]
      change (bestEffort (disconnectConnectionIfIdle env connection.id env.deploymentId) >>= fun _ => throw error).result
        _ = _
      rw [bind_result, bestEffort_succeeds]
      rfl
    · exact Discreet.bind (Secure.lift _) fun _ => (Secure.pure _).discreet

theorem refuseIf_readOnly (refused : Prop) [Decidable refused] (status : ℕ) (code message : String) :
    ReadOnly (refuseIf refused status code message) := by
  rw [refuseIf]
  split
  · exact ReadOnly.throw _
  · exact ReadOnly.pure ()

theorem failIf_readOnly (failed : Prop) [Decidable failed] (message : String) : ReadOnly (failIf failed message) := by
  rw [failIf]
  split
  · exact ReadOnly.throw _
  · exact ReadOnly.pure ()

theorem checkCreate_readOnly (input : CreateDeploymentInput) : ReadOnly (checkCreate env principal input) := by
  refine ReadOnly.bind ?_ fun connection => ?_
  · refine (ReadOnly.reads _).bind ?_
    rintro (_ | connection)
    · exact ReadOnly.throw _
    · exact ReadOnly.pure connection
  refine (refuseIf_readOnly _ _ _ _).bind fun _ => ?_
  refine ReadOnly.bind ?_ fun auth => ?_
  · exact (failIf_readOnly _ _).bind fun _ => (failIf_readOnly _ _).bind fun _ => (failIf_readOnly _ _).bind fun _ =>
      ReadOnly.lift _
  refine (ReadOnly.lift _).bind fun zone => ?_
  refine (refuseIf_readOnly _ _ _ _).bind fun _ => ?_
  refine (refuseIf_readOnly _ _ _ _).bind fun _ => ?_
  exact (refuseIf_readOnly _ _ _ _).bind fun _ => ReadOnly.pure _

theorem createDeployment_result (input : CreateDeploymentInput) : (createDeployment env principal input).result db =
    match (checkCreate env principal input).result db with
    | .error error => .error error
    | .ok connection =>
      match db.conflict input with
      | some conflict => .error (.http ⟨409, "deployment_resource_conflict", conflictMessage conflict.status⟩)
      | none => (insertDeployment env principal input connection).result db := by
  rw [createDeployment, bind_result, checkCreate_readOnly]
  cases (checkCreate env principal input).result db with
  | error error => rfl
  | ok connection =>
    change ((match db.conflict input with
      | some conflict => refuse 409 "deployment_resource_conflict" (conflictMessage conflict.status)
      | none => insertDeployment env principal input connection : Handler Response).result db) = _
    cases db.conflict input <;> rfl

theorem statusName_injective {status status' : Status} (same : statusName status = statusName status') :
    status = status' := by
  cases status <;> cases status' <;> first
    | rfl
    | simp [statusName] at same

theorem conflictMessage_injective {status status' : Status}
    (same : conflictMessage status = conflictMessage status') : status = status' := by
  unfold conflictMessage at same
  exact statusName_injective ((String.append_right_inj _).mp ((String.append_left_inj _).mp same))

/-- Where the earlier checks pass, the two answers are the same exactly when the conflicting deployment
has the same status. -/
theorem createDeployment_same_iff (same : SameButStatus principal.tenantId db db') (input : CreateDeploymentInput) :
    (createDeployment env principal input).result db = (createDeployment env principal input).result db' ↔
      ∀ connection, (checkCreate env principal input).result db = .ok connection →
        (db.conflict input).map (·.status) = (db'.conflict input).map (·.status) := by
  have checked : (checkCreate env principal input).result db = (checkCreate env principal input).result db' :=
    (checkCreate_secure input db db' same.agrees).1
  rw [createDeployment_result, createDeployment_result, ← checked]
  cases (checkCreate env principal input).result db with
  | error error => simp
  | ok connection =>
    have found := same.conflict input
    have inserted : (insertDeployment env principal input connection).result db = _ :=
      insertDeployment_discreet input connection db db' same.agrees
    cases conflict : db.conflict input <;> cases conflict' : db'.conflict input
    · simp [inserted]
    · simp [conflict, conflict'] at found
    · simp [conflict, conflict'] at found
    · simp only [Except.error.injEq, Thrown.http.injEq, HttpError.mk.injEq, true_and, Except.ok.injEq,
        Option.map_some, Option.some.injEq, forall_eq']
      exact ⟨conflictMessage_injective, congrArg conflictMessage⟩

/-- What a tenant is told does not depend on the rows of other tenants, but for the work on a connection
that it disconnects and for the status of a deployment that has a name it asks for. -/
theorem tenant_noninterference_iff :
    (∀ db db' : Db, Agrees principal.tenantId db db' → ∀ request : Request,
      request.NamesForeign db principal.tenantId →
        (statusAndCode ((request.handle env principal).result db) =
            statusAndCode ((request.handle env principal).result db') ↔ SameWork db db' request)) ∧
      ∀ db db' : Db, SameButStatus principal.tenantId db db' → ∀ input : CreateDeploymentInput,
        ((createDeployment env principal input).result db = (createDeployment env principal input).result db' ↔
          ∀ connection, (checkCreate env principal input).result db = .ok connection →
            (db.conflict input).map (·.status) = (db'.conflict input).map (·.status)) := by
  refine ⟨fun db db' agrees request foreign => ?_, fun db db' same input => createDeployment_same_iff same input⟩
  cases request with
  | disconnectCloudflareConnection connectionId =>
    exact disconnect_same_iff foreign fun owns => foreign (agrees.ownsConnection owns)
  | listCloudflareZones | getDeployment | rotateBootstrapToken | rotateSubscriptionToken | retryDeployment
  | revokeDeployment | deleteDeployment =>
    exact iff_of_true (congrArg statusAndCode (handle_discreet (fun _ => Request.noConfusion) db db' agrees)) trivial

end

namespace Sample

def principal : SessionPrincipal := ⟨"tenant-a", by decide⟩

/-- Cloudflare and the workflow engine accept everything. -/
def env : Env where
  now := 1000
  sha256 text := text
  toLowerCase text := text
  deploymentId := "deployment-new"
  subscriptionToken := "subscription"
  bootstrapToken := "bootstrap"
  decryptToken _ := .ok "token"
  zone _ _ := .ok ⟨"example.com", "active", "account"⟩
  uploadWorkerScript _ _ _ _ := .ok ()
  createWorkflow _ _ := .ok "instance"
  audit _ := .ok ()

def connection (id tenantId : String) : ConnectionRow :=
  ⟨id, tenantId, "api_token", "sealed", none, none, some "account", some "Account", some "zone", some "example.com"⟩

/-- The deployment of the other tenant. -/
def neighbour (status : Status) : DeploymentRow where
  id := "deployment-b"
  tenant_id := "tenant-b"
  oauth_connection_id := "connection-b"
  account_id := "account"
  zone_id := "zone"
  worker_name := "edge"
  worker_hostname := "edge.example.com"
  node_hostname := "node.example.com"
  vps_ipv4 := "203.0.113.7"
  acme_email := "b@example.com"
  reality_server_name := "www.example.org"
  enable_ufw := true
  status := status
  status_detail := none
  workflow_instance_id := none
  subscription_token_hash := ""
  agent_token_hash := none

def db (status : Status) : Db where
  oauth_connections := [connection "connection-a" "tenant-a", connection "connection-b" "tenant-b"]
  deployments := [neighbour status]

/-- The tenant asks for the name of the worker that its neighbour has. -/
def input : CreateDeploymentInput :=
  ⟨"connection-a", "account", "zone", "edge", "mine.example.com", "vps.example.com", "203.0.113.8", "a@example.com",
    "www.example.net", false⟩

theorem restated (status status' : Status) : SameButStatus "tenant-a" (db status) (db status') where
  connections := rfl
  secrets := rfl
  deployments := by
    refine .cons ⟨rfl, fun owner => ?_⟩ .nil
    have foreign : ("tenant-b" : String) ≠ "tenant-a" := by decide
    exact absurd owner foreign

end Sample
/-- The neighbour's deployment goes on, and the tenant is told the same. -/
theorem tenant_noninterference_iff_neighbour :
    (statusAndCode (((Request.disconnectCloudflareConnection "connection-b").handle Sample.env Sample.principal).result
        (Sample.db .queued)) =
      statusAndCode (((Request.disconnectCloudflareConnection "connection-b").handle Sample.env Sample.principal).result
        (Sample.db .preparing))) ∧
      (createDeployment Sample.env Sample.principal { Sample.input with workerName := "own" }).result
          (Sample.db .ready) =
        (createDeployment Sample.env Sample.principal { Sample.input with workerName := "own" }).result
          (Sample.db .failed) := by
  constructor
  · refine (tenant_noninterference_iff.1 _ _ (Sample.restated .queued .preparing).agrees
      (.disconnectCloudflareConnection "connection-b") ?_).mpr ?_
    · simp [Request.NamesForeign, Db.OwnsConnection, Sample.db, Sample.connection, Sample.principal]
    · simp [SameWork, Db.required, Sample.db, Sample.neighbour, busyStatuses]
  · refine (tenant_noninterference_iff.2 _ _ (Sample.restated .ready .failed) _).mpr fun _ _ => ?_
    have free (status : Status) : (Sample.db status).conflict { Sample.input with workerName := "own" } = none := by
      simp [Db.conflict, Sample.db, Sample.neighbour, Sample.input]
    rw [free, free]

/-- A tenant learns whether a connection that is not its own has work on it, and the status of its
neighbour's deployment. -/
theorem neighbour_told :
    (statusAndCode (((Request.disconnectCloudflareConnection "connection-b").handle Sample.env Sample.principal).result
        (Sample.db .queued)) ≠
      statusAndCode (((Request.disconnectCloudflareConnection "connection-b").handle Sample.env Sample.principal).result
        (Sample.db .ready))) ∧
      (createDeployment Sample.env Sample.principal Sample.input).result (Sample.db .ready) ≠
        (createDeployment Sample.env Sample.principal Sample.input).result (Sample.db .failed) := by
  constructor
  · decide +kernel
  · decide +kernel

end Tenancy

end OmniControlPlane.Portal
