import OmniControlPlane.Deployment.Store
import OmniControlPlane.Lib.Machine
import OmniControlPlane.Lib.OrderedMap
import OmniControlPlane.Portal.Http

/-! # The delegation of a DNS tunnel

A tunnel is a name of a zone that is delegated to a name server, and the name server has the address of a node. The name
depends on the zone only, and a zone may have many nodes. Requests that enable a tunnel interleave at each call of the API of
Cloudflare, and a request can be lost between any two of its calls. The records are those of tunnels; they are not written
from elsewhere.
-/

namespace OmniControlPlane.Deployment.DnsTunnel

open Lib Machine
open Portal (HttpError)

/-! ## Records of a zone -/

inductive RecordType where
  | a
  | ns
deriving DecidableEq, Repr

/-- The body of a request for a record, with the zone of its path. -/
structure Payload where
  zone : String
  type : RecordType
  name : String
  content : String
deriving DecidableEq, Repr

structure DnsRecord where
  id : String
  payload : Payload
deriving DecidableEq, Repr

/-- What a list of records is asked by. -/
def Payload.place (payload : Payload) : String × RecordType × String := (payload.zone, payload.type, payload.name)

def recordsAt (records : List DnsRecord) (place : String × RecordType × String) : List DnsRecord :=
  records.filter (·.payload.place = place)

/-- `PUT` where the list had a record, else `POST`, which gives the id `fresh`. -/
def writeRecord? (records : List DnsRecord) (existing : Option String) (fresh : String) (payload : Payload) :
    Option (List DnsRecord) :=
  match existing with
  | some id =>
    if records.any (·.id = id) then some (records.map fun record => if record.id = id then ⟨id, payload⟩ else record)
    else none
  | none => if records.any (·.id = fresh) then none else some (records ++ [⟨fresh, payload⟩])

/-! ## Requests -/

/-- The columns of a row of `deployments` that a tunnel depends on. -/
structure Row where
  tenant_id : String
  oauth_connection_id : String
  zone_id : String
  vps_ipv4 : String
  status : Status
  dns_tunnel_enabled : Bool := false
  tunnel_hostname : Option String := none
deriving DecidableEq, Repr

structure ConnectionRow where
  tenant_id : String
  revoked : Bool
  resource_zone_id : Option String
  resource_zone_name : Option String
deriving DecidableEq, Repr

def glueName (tunnel : String) : String := "ns1." ++ tunnel

/-- The two upserts, in their order. -/
inductive Which where
  | delegation
  | glue
deriving DecidableEq, Repr

/-- The call that a request waits for. -/
inductive Stage where
  | list (which : Which)
  | write (which : Which) (existing : Option String)
  | store
deriving DecidableEq, Repr

structure Request where
  deployment : String
  zone : String
  tunnel : String
  address : String
  stage : Stage
deriving DecidableEq, Repr

def Request.payload (request : Request) : Which → Payload
  | .delegation => ⟨request.zone, .ns, request.tunnel, glueName request.tunnel⟩
  | .glue => ⟨request.zone, .a, glueName request.tunnel, request.address⟩

/-- What comes after an upsert. -/
def Which.next : Which → Stage
  | .delegation => .list .glue
  | .glue => .store

structure World where
  deployments : OrderedMap String Row
  connections : OrderedMap String ConnectionRow
  records : List DnsRecord
  requests : OrderedMap String Request
  /-- The ids that have been given to deployments; no id is given twice. -/
  issued : List String

def World.empty : World := ⟨.empty, .empty, [], .empty, []⟩

section

variable (toLowerCase : String → String)

def tunnelHostnameFor (zoneName : String) : String := "t." ++ toLowerCase zoneName

/-- `enableDnsTunnel` up to its first call: the tunnel that there is, or the request for one. -/
def loadTunnel (world : World) (tenant id : String) : Except HttpError (String ⊕ Request) :=
  match world.deployments.get? id with
  | none => .error ⟨404, "deployment_not_found", "Deployment not found"⟩
  | some deployment =>
    if deployment.tenant_id ≠ tenant then .error ⟨404, "deployment_not_found", "Deployment not found"⟩
    else if deployment.status ≠ .ready then .error ⟨409, "invalid_deployment_state", "Deployment is not ready"⟩
    else
      match deployment.dns_tunnel_enabled, deployment.tunnel_hostname.filter (· ≠ "") with
      | true, some tunnel => .ok (.inl tunnel)
      | _, _ =>
        match (world.connections.get? deployment.oauth_connection_id).filter fun connection =>
          connection.tenant_id = tenant && !connection.revoked with
        | none => .error ⟨409, "cloudflare_reconnect_required", "Cloudflare connection not found"⟩
        | some connection =>
          match connection.resource_zone_name.filter (· ≠ "") with
          | some zoneName =>
            if connection.resource_zone_id = some deployment.zone_id then
              .ok (.inr ⟨id, deployment.zone_id, tunnelHostnameFor toLowerCase zoneName, deployment.vps_ipv4,
                .list .delegation⟩)
            else .error ⟨409, "cloudflare_reconnect_required",
              "Connection zone is missing; reconnect the Cloudflare connection"⟩
          | none => .error ⟨409, "cloudflare_reconnect_required",
            "Connection zone is missing; reconnect the Cloudflare connection"⟩

end

/-! ## Steps -/

inductive Event where
  | create (id : String) (row : Row)
  | move (id : String) (status : Status)
  | replace (id connection : String)
  | delete (id : String)
  | connect (id : String) (connection : ConnectionRow)
  | begin (request tenant id : String)
  | list (request : String) (existing : Option String)
  | write (request fresh : String)
  | store (request : String)
  /-- The request fails, or its Worker is gone. -/
  | lose (request : String)
deriving DecidableEq, Repr

namespace World

variable (world : World)

def create? (id : String) (row : Row) : Option World :=
  if id ∈ world.issued then none
  else some { world with
    deployments := world.deployments.alter id fun _ => { row with dns_tunnel_enabled := false, tunnel_hostname := none }
    issued := id :: world.issued }

/-- A request that comes in; one that is answered at once leaves nothing behind. -/
def begin? (toLowerCase : String → String) (name tenant id : String) : Option World :=
  match world.requests.get? name with
  | some _ => none
  | none =>
    match loadTunnel toLowerCase world tenant id with
    | .ok (.inr request) => some { world with requests := world.requests.alter name fun _ => request }
    | _ => some world

def list? (name : String) (existing : Option String) : Option World :=
  match world.requests.get? name with
  | some request =>
    match request.stage with
    | .list which =>
      -- which of several records comes first is up to Cloudflare
      let listed := recordsAt world.records (request.payload which).place
      if existing.elim listed.isEmpty (fun id => listed.any (·.id = id)) then
        some { world with requests := world.requests.modify name ({ · with stage := .write which existing }) }
      else none
    | _ => none
  | none => none

def write? (name fresh : String) : Option World :=
  match world.requests.get? name with
  | some request =>
    match request.stage with
    | .write which existing =>
      (writeRecord? world.records existing fresh (request.payload which)).map fun records => { world with
        records := records
        requests := world.requests.modify name ({ · with stage := which.next }) }
    | _ => none
  | none => none

def lose (name : String) : World := { world with requests := world.requests.filter fun key _ => key ≠ name }

def store? (name : String) : Option World :=
  match world.requests.get? name with
  | some request =>
    if request.stage = .store then
      some { world.lose name with
        deployments := world.deployments.modify request.deployment fun row =>
          { row with dns_tunnel_enabled := true, tunnel_hostname := some request.tunnel } }
    else none
  | none => none

def step? (toLowerCase : String → String) : Event → Option World
  | .create id row => world.create? id row
  | .move id status => some { world with deployments := world.deployments.modify id ({ · with status := status }) }
  | .replace id connection =>
    some { world with deployments := world.deployments.modify id ({ · with oauth_connection_id := connection }) }
  | .delete id =>
    if (world.deployments.get? id).any fun row => row.status = .failed || row.status = .revoked then
      some { world with deployments := world.deployments.filter fun key _ => key ≠ id }
    else none
  | .connect id connection => some { world with connections := world.connections.alter id fun _ => connection }
  | .begin request tenant id => world.begin? toLowerCase request tenant id
  | .list request existing => world.list? request existing
  | .write request fresh => world.write? request fresh
  | .store request => world.store? request
  | .lose request => some (world.lose request)

end World

def machine (toLowerCase : String → String) : Machine World Event := ⟨fun world => world.step? toLowerCase⟩

/-! ## What the tunnels were written for -/

/-- A write of the address behind a tunnel. -/
structure Claim where
  deployment : String
  zone : String
  tunnel : String
  address : String
deriving DecidableEq, Repr

def Request.claim (request : Request) : Claim := ⟨request.deployment, request.zone, request.tunnel, request.address⟩

def Claim.payload (claim : Claim) : Payload := ⟨claim.zone, .a, glueName claim.tunnel, claim.address⟩

def World.claim (world : World) : Event → List Claim
  | .write name _ =>
    match world.requests.get? name with
    | some request =>
      match request.stage with
      | .write .glue _ => [request.claim]
      | _ => []
    | none => []
  | _ => []

/-- The claims of a run. -/
def claims (toLowerCase : String → String) (world : World) (tape : List Event) : List Claim :=
  (machine toLowerCase).labels World.claim world tape

/-- The claims of one tunnel. -/
def claimsOf (zone tunnel : String) (log : List Claim) : List Claim :=
  log.filter fun claim => claim.zone = zone && claim.tunnel = tunnel

namespace World

/-- The name servers that a tunnel is delegated to. -/
def delegation (world : World) (zone tunnel : String) : List DnsRecord := recordsAt world.records (zone, .ns, tunnel)

/-- The addresses of its name server. -/
def glue (world : World) (zone tunnel : String) : List DnsRecord := recordsAt world.records (zone, .a, glueName tunnel)

end World

/-! ## Writes of records -/

theorem writeRecord?_cases {records next : List DnsRecord} {existing : Option String} {fresh : String} {payload : Payload}
    (written : writeRecord? records existing fresh payload = some next) :
    (∃ id, existing = some id ∧ next = records.map fun record => if record.id = id then ⟨id, payload⟩ else record) ∨
      existing = none ∧ (∀ record ∈ records, record.id ≠ fresh) ∧ next = records ++ [⟨fresh, payload⟩] := by
  cases existing with
  | some id =>
    rw [writeRecord?] at written
    obtain ⟨-, same⟩ := Option.ite_none_right_eq_some.mp written
    exact .inl ⟨id, rfl, (Option.some.inj same).symm⟩
  | none =>
    rw [writeRecord?] at written
    obtain ⟨absent, same⟩ := Option.ite_none_left_eq_some.mp written
    refine .inr ⟨rfl, fun record member taken => absent ?_, (Option.some.inj same).symm⟩
    exact List.any_eq_true.mpr ⟨record, member, decide_eq_true taken⟩

/-- The record that a list has answered is still on its place. -/
def Held (records : List DnsRecord) (existing : Option String) (place : String × RecordType × String) : Prop :=
  ∀ id ∈ existing, ∃ record ∈ records, record.id = id ∧ record.payload.place = place

theorem mem_recordsAt {records : List DnsRecord} {place : String × RecordType × String} {record : DnsRecord} :
    record ∈ recordsAt records place ↔ record ∈ records ∧ record.payload.place = place := by
  rw [recordsAt, List.mem_filter, decide_eq_true_eq]

/-- Every record is still there, on the same place. -/
def Grows (records next : List DnsRecord) : Prop :=
  ∀ record ∈ records, ∃ later ∈ next, later.id = record.id ∧ later.payload.place = record.payload.place

section

variable {records next : List DnsRecord} {existing : Option String} {fresh : String} {payload : Payload}
  (ids : (records.map (·.id)).Nodup) (held : Held records existing payload.place)
  (written : writeRecord? records existing fresh payload = some next)

include written

theorem mem_written {record : DnsRecord} (member : record ∈ next) : record ∈ records ∨ record.payload = payload := by
  rcases writeRecord?_cases written with ⟨id, -, rfl⟩ | ⟨-, -, rfl⟩
  · obtain ⟨old, listed, rfl⟩ := List.mem_map.mp member
    split
    · exact .inr rfl
    · exact .inl listed
  · rcases List.mem_append.mp member with old | new
    · exact .inl old
    · exact .inr (congrArg DnsRecord.payload (List.mem_singleton.mp new))

include held

theorem payload_written : ∃ record ∈ next, record.payload = payload := by
  rcases writeRecord?_cases written with ⟨id, rfl, rfl⟩ | ⟨-, -, rfl⟩
  · obtain ⟨record, member, same, -⟩ := held id rfl
    exact ⟨⟨id, payload⟩, List.mem_map.mpr ⟨record, member, if_pos same⟩, rfl⟩
  · exact ⟨⟨fresh, payload⟩, List.mem_append_right _ List.mem_cons_self, rfl⟩

include ids

omit written in
/-- The one record that a write replaces. -/
theorem place_of_id {id : String} (found : existing = some id) {record : DnsRecord} (member : record ∈ records)
    (same : record.id = id) : record.payload.place = payload.place := by
  obtain ⟨other, listed, sameId, place⟩ := held id found
  obtain rfl := List.inj_on_of_nodup_map ids member listed (same.trans sameId.symm)
  exact place

theorem grows_written : Grows records next := by
  intro record member
  rcases writeRecord?_cases written with ⟨id, found, rfl⟩ | ⟨-, -, rfl⟩
  · by_cases same : record.id = id
    · exact ⟨⟨id, payload⟩, List.mem_map.mpr ⟨record, member, if_pos same⟩, same.symm,
        (place_of_id ids held found member same).symm⟩
    · exact ⟨record, List.mem_map.mpr ⟨record, member, if_neg same⟩, rfl, rfl⟩
  · exact ⟨record, List.mem_append_left _ member, rfl, rfl⟩

omit held in
theorem ids_written : (next.map (·.id)).Nodup := by
  rcases writeRecord?_cases written with ⟨id, -, rfl⟩ | ⟨-, free, rfl⟩
  · rw [List.map_map]
    convert ids using 2
    funext record
    simp only [Function.comp_apply]
    split
    · next same => exact same.symm
    · rfl
  · rw [List.map_append, List.map_singleton]
    refine List.nodup_append_comm.mp (List.nodup_cons.mpr ⟨fun taken => ?_, ids⟩)
    obtain ⟨record, member, same⟩ := List.mem_map.mp taken
    exact free record member same

omit written in
/-- A record that is replaced is on the place of the new one. -/
theorem recordsAt_map {id : String} (found : existing = some id) (place : String × RecordType × String) :
    recordsAt (records.map fun record => if record.id = id then ⟨id, payload⟩ else record) place =
      (recordsAt records place).map fun record => if record.id = id then ⟨id, payload⟩ else record := by
  rw [recordsAt, recordsAt, List.filter_map]
  congr 1
  apply List.filter_congr
  intro record member
  rw [Function.comp_apply]
  split
  · next same => rw [place_of_id ids held found member same]
  · rfl

theorem recordsAt_written_apart {place : String × RecordType × String} (apart : place ≠ payload.place) :
    recordsAt next place = recordsAt records place := by
  rcases writeRecord?_cases written with ⟨id, found, rfl⟩ | ⟨-, -, rfl⟩
  · rw [recordsAt_map ids held found]
    refine (List.map_congr_left fun record member => ?_).trans (List.map_id _)
    obtain ⟨listed, here⟩ := mem_recordsAt.mp member
    exact if_neg fun same => apart (here.symm.trans (place_of_id ids held found listed same))
  · rw [recordsAt, List.filter_append, List.filter_cons_of_neg (by simpa using Ne.symm apart), List.filter_nil,
      List.append_nil]
    rfl

/-- A write to a place that has at most the record that was listed leaves one record there. -/
theorem recordsAt_written (single : (recordsAt records payload.place).length ≤ 1)
    (vacant : existing = none → recordsAt records payload.place = []) :
    (recordsAt next payload.place).map (·.payload) = [payload] := by
  rcases writeRecord?_cases written with ⟨id, found, rfl⟩ | ⟨absent, -, rfl⟩
  · obtain ⟨record, member, same, place⟩ := held id found
    obtain ⟨only, alone⟩ := List.length_eq_one_iff.mp
      (Nat.le_antisymm single (List.length_pos_of_mem (mem_recordsAt.mpr ⟨member, place⟩)))
    have here : record ∈ recordsAt records payload.place := mem_recordsAt.mpr ⟨member, place⟩
    rw [alone, List.mem_singleton] at here
    rw [recordsAt_map ids held found, alone, ← here]
    simp [same]
  · have empty := vacant absent
    rw [recordsAt] at empty ⊢
    rw [List.filter_append, empty, List.nil_append, List.filter_cons_of_pos (by simp), List.filter_nil, List.map_singleton]

end

/-! ## Steps by cases -/

theorem loadTunnel_request {toLowerCase : String → String} {world : World} {tenant id : String} {request : Request}
    (loaded : loadTunnel toLowerCase world tenant id = .ok (.inr request)) :
    ∃ row zoneName, world.deployments.get? id = some row ∧
      request = ⟨id, row.zone_id, tunnelHostnameFor toLowerCase zoneName, row.vps_ipv4, .list .delegation⟩ ∧
      ∀ tunnel, row.tunnel_hostname = some tunnel → tunnel ≠ "" → row.dns_tunnel_enabled = false := by
  rw [loadTunnel] at loaded
  cases found : world.deployments.get? id with
  | none => simp [found] at loaded
  | some row =>
    simp only [found] at loaded
    split at loaded
    · contradiction
    split at loaded
    · contradiction
    split at loaded
    · exact absurd (Except.ok.inj loaded) (by simp)
    next unset =>
    split at loaded
    · contradiction
    next connection _ =>
    split at loaded
    next zoneName _ =>
      split at loaded
      · refine ⟨row, zoneName, rfl, (Sum.inr.inj (Except.ok.inj loaded)).symm, fun tunnel named given => ?_⟩
        cases enabled : row.dns_tunnel_enabled with
        | false => rfl
        | true => exact absurd (by simp [named, given]) (unset tunnel enabled)
      · contradiction
    · contradiction

namespace World

variable {world next : World} {name : String}

theorem begin?_cases {toLowerCase : String → String} {tenant id : String}
    (stepped : world.begin? toLowerCase name tenant id = some next) :
    world.requests.get? name = none ∧ (next = world ∨ ∃ request,
      loadTunnel toLowerCase world tenant id = .ok (.inr request) ∧
        next = { world with requests := world.requests.alter name fun _ => request }) := by
  rw [begin?] at stepped
  split at stepped
  · contradiction
  next free =>
  refine ⟨free, ?_⟩
  split at stepped
  next request loaded => exact .inr ⟨request, loaded, (Option.some.inj stepped).symm⟩
  · exact .inl (Option.some.inj stepped).symm

theorem list?_cases {existing : Option String} (stepped : world.list? name existing = some next) :
    ∃ request which, world.requests.get? name = some request ∧ request.stage = .list which ∧
      Held world.records existing (request.payload which).place ∧
      (existing = none → recordsAt world.records (request.payload which).place = []) ∧
      next = { world with requests := world.requests.modify name ({ · with stage := .write which existing }) } := by
  rw [list?] at stepped
  split at stepped
  · next request found =>
    split at stepped
    · next which stage =>
      obtain ⟨listed, same⟩ := Option.ite_none_right_eq_some.mp stepped
      refine ⟨request, which, found, stage, fun id answered => ?_, fun absent => ?_, (Option.some.inj same).symm⟩
      · obtain rfl : existing = some id := answered
        obtain ⟨record, member, named⟩ := List.any_eq_true.mp listed
        obtain ⟨inRecords, place⟩ := mem_recordsAt.mp member
        exact ⟨record, inRecords, of_decide_eq_true named, place⟩
      · obtain rfl := absent
        exact List.isEmpty_iff.mp listed
    · contradiction
  · contradiction

theorem write?_cases {fresh : String} (stepped : world.write? name fresh = some next) :
    ∃ request which existing records, world.requests.get? name = some request ∧ request.stage = .write which existing ∧
      writeRecord? world.records existing fresh (request.payload which) = some records ∧
      next = { world with
        records := records
        requests := world.requests.modify name ({ · with stage := which.next }) } := by
  rw [write?] at stepped
  split at stepped
  · next request found =>
    split at stepped
    · next which existing stage =>
      obtain ⟨records, written, same⟩ := Option.map_eq_some_iff.mp stepped
      exact ⟨request, which, existing, records, found, stage, written, same.symm⟩
    · contradiction
  · contradiction

theorem store?_cases (stepped : world.store? name = some next) :
    ∃ request, world.requests.get? name = some request ∧ request.stage = .store ∧
      next = { world.lose name with
        deployments := world.deployments.modify request.deployment fun row =>
          { row with dns_tunnel_enabled := true, tunnel_hostname := some request.tunnel } } := by
  rw [store?] at stepped
  split at stepped
  · next request found =>
    obtain ⟨stage, same⟩ := Option.ite_none_right_eq_some.mp stepped
    exact ⟨request, found, stage, (Option.some.inj same).symm⟩
  · contradiction

end World

/-! ## Every interleaving -/

/-- Has the upsert been made? -/
def Stage.passed : Stage → Which → Bool
  | .list .glue, .delegation => true
  | .write .glue _, .delegation => true
  | .store, _ => true
  | _, _ => false

theorem Stage.passed_next {which other : Which} (existing : Option String) (passed : which.next.passed other = true) :
    other = which ∨ (Stage.write which existing).passed other = true := by
  cases which with
  | delegation =>
    cases other with
    | delegation => exact .inl rfl
    | glue => contradiction
  | glue =>
    cases other with
    | delegation => exact .inr rfl
    | glue => exact .inl rfl

/-- What holds of a request between its calls. -/
structure Sound (log : List Claim) (records : List DnsRecord) (request : Request) : Prop where
  named : request.tunnel ≠ ""
  passed : ∀ which, request.stage.passed which = true → recordsAt records (request.payload which).place ≠ []
  held : ∀ which existing, request.stage = .write which existing → Held records existing (request.payload which).place
  claimed : request.stage = .store → request.claim ∈ log

/-- The name of an enabled row is delegated and has been claimed for it. -/
def Leads (log : List Claim) (records : List DnsRecord) (id : String) (row : Row) : Prop :=
  ∃ tunnel, row.tunnel_hostname = some tunnel ∧ tunnel ≠ "" ∧ recordsAt records (row.zone_id, .ns, tunnel) ≠ [] ∧
    recordsAt records (row.zone_id, .a, glueName tunnel) ≠ [] ∧ ⟨id, row.zone_id, tunnel, row.vps_ipv4⟩ ∈ log

/-- A request still is one of its row. -/
def Matches (world : World) (request : Request) : Prop :=
  request.deployment ∈ world.issued ∧ ∀ row, world.deployments.get? request.deployment = some row →
    row.zone_id = request.zone ∧ row.vps_ipv4 = request.address

structure Kept (log : List Claim) (world : World) : Prop where
  ids : (world.records.map (·.id)).Nodup
  written : ∀ record ∈ world.records, (∃ request : Request, record.payload = request.payload .delegation) ∨
    ∃ claim ∈ log, record.payload = claim.payload
  sound : ∀ name request, world.requests.get? name = some request → Sound log world.records request
  matching : ∀ name request, world.requests.get? name = some request → Matches world request
  issued : ∀ id row, world.deployments.get? id = some row → id ∈ world.issued
  enabled : ∀ id row, world.deployments.get? id = some row → row.dns_tunnel_enabled = true →
    Leads log world.records id row

theorem Kept.empty : Kept [] .empty := by
  constructor <;> simp [World.empty]

section

variable {log : List Claim} {world : World}

theorem Grows.occupied {records next : List DnsRecord} (grows : Grows records next) {place : String × RecordType × String}
    (occupied : recordsAt records place ≠ []) : recordsAt next place ≠ [] := by
  obtain ⟨record, member⟩ := List.exists_mem_of_ne_nil _ occupied
  obtain ⟨listed, here⟩ := mem_recordsAt.mp member
  obtain ⟨later, inNext, -, same⟩ := grows record listed
  exact List.ne_nil_of_mem (mem_recordsAt.mpr ⟨inNext, same.trans here⟩)

theorem Sound.mono {records next : List DnsRecord} {request : Request} (sound : Sound log records request)
    (grows : Grows records next) (more : List Claim) : Sound (log ++ more) next request where
  named := sound.named
  passed which passed := grows.occupied (sound.passed which passed)
  held which existing stage id answered := by
    obtain ⟨record, member, same, place⟩ := sound.held which existing stage id answered
    obtain ⟨later, inNext, sameId, samePlace⟩ := grows record member
    exact ⟨later, inNext, sameId.trans same, samePlace.trans place⟩
  claimed stage := List.mem_append_left _ (sound.claimed stage)

theorem Leads.mono {records next : List DnsRecord} {id : String} {row : Row} (leads : Leads log records id row)
    (grows : Grows records next) (more : List Claim) : Leads (log ++ more) next id row := by
  obtain ⟨tunnel, named, given, delegation, glue, claimed⟩ := leads
  exact ⟨tunnel, named, given, grows.occupied delegation, grows.occupied glue, List.mem_append_left _ claimed⟩

/-- Writes of rows that leave zones and addresses alone and enable nothing. -/
theorem Kept.rows (kept : Kept log world) {deployments : OrderedMap String Row}
    (old : ∀ id row, deployments.get? id = some row → ∃ before, world.deployments.get? id = some before ∧
      row.zone_id = before.zone_id ∧ row.vps_ipv4 = before.vps_ipv4 ∧
      row.dns_tunnel_enabled = before.dns_tunnel_enabled ∧ row.tunnel_hostname = before.tunnel_hostname) :
    Kept log { world with deployments := deployments } where
  ids := kept.ids
  written := kept.written
  sound := kept.sound
  matching name request found := by
    obtain ⟨known, same⟩ := kept.matching name request found
    refine ⟨known, fun row stored => ?_⟩
    obtain ⟨before, there, zone, address, -⟩ := old _ row stored
    exact ⟨zone.trans (same before there).1, address.trans (same before there).2⟩
  issued id row stored := by
    obtain ⟨before, there, -⟩ := old id row stored
    exact kept.issued id before there
  enabled id row stored enabled := by
    obtain ⟨before, there, zone, address, flag, named⟩ := old id row stored
    rw [Leads, zone, address, named]
    exact kept.enabled id before there (flag.symm.trans enabled)

/-- Writes of requests that are sound and match their rows. -/
theorem Kept.withRequests (kept : Kept log world) {requests : OrderedMap String Request}
    (good : ∀ name request, requests.get? name = some request →
      Sound log world.records request ∧ Matches world request) :
    Kept log { world with requests := requests } where
  ids := kept.ids
  written := kept.written
  sound name request found := (good name request found).1
  matching name request found := (good name request found).2
  issued := kept.issued
  enabled := kept.enabled

theorem Kept.create (kept : Kept log world) {id : String} {row : Row} {next : World}
    (stepped : world.create? id row = some next) : Kept log next := by
  obtain ⟨free, same⟩ := Option.ite_none_left_eq_some.mp stepped
  obtain rfl := Option.some.inj same
  refine ⟨kept.ids, kept.written, kept.sound, fun name request found => ?_, fun other stored there => ?_,
    fun other stored there enabled => ?_⟩
  · obtain ⟨known, same⟩ := kept.matching name request found
    refine ⟨List.mem_cons_of_mem _ known, fun row there => ?_⟩
    have other : request.deployment ≠ id := by
      rintro rfl
      exact free known
    rw [OrderedMap.get?_alter, if_neg other] at there
    exact same row there
  · rw [OrderedMap.get?_alter] at there
    split at there
    · next here => exact here ▸ List.mem_cons_self
    · exact List.mem_cons_of_mem _ (kept.issued other stored there)
  · rw [OrderedMap.get?_alter] at there
    split at there
    · obtain rfl := Option.some.inj there
      contradiction
    · exact kept.enabled other stored there enabled

theorem Kept.lose (kept : Kept log world) (name : String) : Kept log (world.lose name) := by
  refine kept.withRequests fun other request found => ?_
  have there := (OrderedMap.get?_filter_eq_some_iff.mp found).1
  exact ⟨kept.sound other request there, kept.matching other request there⟩

theorem Kept.begin (kept : Kept log world) {toLowerCase : String → String} {name tenant id : String} {next : World}
    (stepped : world.begin? toLowerCase name tenant id = some next) : Kept log next := by
  obtain ⟨-, rfl | ⟨request, loaded, rfl⟩⟩ := World.begin?_cases stepped
  · exact kept
  obtain ⟨row, zoneName, stored, rfl, -⟩ := loadTunnel_request loaded
  refine kept.withRequests fun other request found => ?_
  rw [OrderedMap.get?_alter] at found
  split at found
  · obtain rfl := Option.some.inj found
    refine ⟨⟨?_, ?_, ?_, ?_⟩, kept.issued id row stored, fun other there => ?_⟩
    · exact fun empty => absurd (congrArg String.toList empty) (by simp [tunnelHostnameFor])
    · intro which passed
      cases which <;> contradiction
    · exact fun which existing stage => by contradiction
    · exact fun stage => by contradiction
    · obtain rfl := Option.some.inj (stored.symm.trans there)
      exact ⟨rfl, rfl⟩
  · exact ⟨kept.sound other request found, kept.matching other request found⟩

theorem Kept.list (kept : Kept log world) {name : String} {existing : Option String} {next : World}
    (stepped : world.list? name existing = some next) : Kept log next := by
  obtain ⟨request, which, found, stage, held, -, rfl⟩ := World.list?_cases stepped
  refine kept.withRequests fun other later there => ?_
  rw [OrderedMap.get?_modify] at there
  split at there
  · obtain ⟨before, same, rfl⟩ := Option.map_eq_some_iff.mp there
    obtain rfl := Option.some.inj (found.symm.trans same)
    have sound := kept.sound name request found
    refine ⟨⟨sound.named, fun other passed => ?_, fun other answer same => ?_, fun same => by contradiction⟩,
      kept.matching name request found⟩
    · refine sound.passed other ?_
      rw [stage]
      cases which <;> cases other <;> first | rfl | contradiction
    · obtain ⟨rfl, rfl⟩ := Stage.write.inj same
      exact held
  · exact ⟨kept.sound other later there, kept.matching other later there⟩

theorem Kept.write (kept : Kept log world) {name fresh : String} {next : World}
    (stepped : world.write? name fresh = some next) : Kept (log ++ world.claim (.write name fresh)) next := by
  obtain ⟨request, which, existing, records, found, stage, written, rfl⟩ := World.write?_cases stepped
  have sound := kept.sound name request found
  have held := sound.held which existing stage
  have grows := grows_written kept.ids held written
  have claimed : which = .glue → request.claim ∈ world.claim (.write name fresh) := by
    rintro rfl
    simp [World.claim, found, stage]
  refine ⟨ids_written kept.ids written, fun record member => ?_, fun other later there => ?_, fun other later there => ?_,
    kept.issued, fun id row stored enabled => (kept.enabled id row stored enabled).mono grows _⟩
  · rcases mem_written written member with old | new
    · rcases kept.written record old with delegation | ⟨claim, inLog, same⟩
      · exact .inl delegation
      · exact .inr ⟨claim, List.mem_append_left _ inLog, same⟩
    · cases which with
      | delegation => exact .inl ⟨request, new⟩
      | glue => exact .inr ⟨request.claim, List.mem_append_right _ (claimed rfl), new⟩
  · rw [OrderedMap.get?_modify] at there
    split at there
    · obtain ⟨before, same, rfl⟩ := Option.map_eq_some_iff.mp there
      obtain rfl := Option.some.inj (found.symm.trans same)
      refine ⟨sound.named, fun other passed => ?_, fun other answer same => ?_, fun same => ?_⟩
      · rcases Stage.passed_next existing passed with rfl | before
        · obtain ⟨record, member, here⟩ := payload_written held written
          exact List.ne_nil_of_mem (mem_recordsAt.mpr ⟨member, congrArg Payload.place here⟩)
        · exact grows.occupied (sound.passed other (stage ▸ before))
      · cases which <;> contradiction
      · refine List.mem_append_right _ (claimed ?_)
        cases which with
        | delegation => contradiction
        | glue => rfl
    · exact (kept.sound other later there).mono grows _
  · rw [OrderedMap.get?_modify] at there
    split at there
    · obtain ⟨before, same, rfl⟩ := Option.map_eq_some_iff.mp there
      obtain rfl := Option.some.inj (found.symm.trans same)
      exact kept.matching name request found
    · exact kept.matching other later there

theorem Kept.store (kept : Kept log world) {name : String} {next : World} (stepped : world.store? name = some next) :
    Kept log next := by
  obtain ⟨request, found, stage, rfl⟩ := World.store?_cases stepped
  have sound := kept.sound name request found
  have matching := kept.matching name request found
  have lost := kept.lose name
  refine ⟨lost.ids, lost.written, lost.sound, fun other later there => ?_, fun id row stored => ?_,
    fun id row stored enabled => ?_⟩
  · obtain ⟨known, same⟩ := lost.matching other later there
    refine ⟨known, fun row stored => ?_⟩
    rw [OrderedMap.get?_modify] at stored
    split at stored
    · next here =>
      obtain ⟨before, there, rfl⟩ := Option.map_eq_some_iff.mp stored
      exact same before (here ▸ there)
    · exact same row stored
  · rw [OrderedMap.get?_modify] at stored
    split at stored
    · next here =>
      obtain ⟨before, there, -⟩ := Option.map_eq_some_iff.mp stored
      exact kept.issued id before (here ▸ there)
    · exact kept.issued id row stored
  · rw [OrderedMap.get?_modify] at stored
    split at stored
    · next here =>
      obtain ⟨before, there, rfl⟩ := Option.map_eq_some_iff.mp stored
      obtain ⟨zone, address⟩ := matching.2 before there
      refine ⟨request.tunnel, rfl, sound.named, ?_, ?_, ?_⟩
      · rw [zone]
        exact sound.passed .delegation (by rw [stage]; rfl)
      · rw [zone]
        exact sound.passed .glue (by rw [stage]; rfl)
      · rw [here, zone, address]
        exact sound.claimed stage
    · exact kept.enabled id row stored enabled

theorem Kept.unclaimed (kept : Kept log world) {more : List Claim} (none : more = []) : Kept (log ++ more) world := by
  rwa [none, List.append_nil]

theorem Kept.modify (kept : Kept log world) (id : String) {change : Row → Row}
    (leaves : ∀ row, (change row).zone_id = row.zone_id ∧ (change row).vps_ipv4 = row.vps_ipv4 ∧
      (change row).dns_tunnel_enabled = row.dns_tunnel_enabled ∧ (change row).tunnel_hostname = row.tunnel_hostname) :
    Kept log { world with deployments := world.deployments.modify id change } := by
  refine kept.rows fun other row stored => ?_
  rw [OrderedMap.get?_modify] at stored
  split at stored
  · next here =>
    obtain ⟨before, there, rfl⟩ := Option.map_eq_some_iff.mp stored
    exact ⟨before, here ▸ there, leaves before⟩
  · exact ⟨row, stored, rfl, rfl, rfl, rfl⟩

theorem Kept.step {toLowerCase : String → String} {event : Event} {next : World} (kept : Kept log world)
    (stepped : world.step? toLowerCase event = some next) : Kept (log ++ world.claim event) next := by
  cases event with
  | create id row => exact (kept.create stepped).unclaimed rfl
  | move id status =>
    obtain rfl := Option.some.inj stepped
    refine Kept.unclaimed (kept.modify id ?_) rfl
    exact fun row => ⟨rfl, rfl, rfl, rfl⟩
  | replace id connection =>
    obtain rfl := Option.some.inj stepped
    refine Kept.unclaimed (kept.modify id ?_) rfl
    exact fun row => ⟨rfl, rfl, rfl, rfl⟩
  | delete id =>
    obtain ⟨-, same⟩ := Option.ite_none_right_eq_some.mp stepped
    obtain rfl := Option.some.inj same
    refine (kept.rows fun other row stored => ?_).unclaimed rfl
    exact ⟨row, (OrderedMap.get?_filter_eq_some_iff.mp stored).1, rfl, rfl, rfl, rfl⟩
  | connect id connection =>
    obtain rfl := Option.some.inj stepped
    have same : Kept log { world with connections := world.connections.alter id fun _ => connection } :=
      ⟨kept.ids, kept.written, kept.sound, kept.matching, kept.issued, kept.enabled⟩
    exact same.unclaimed rfl
  | begin name tenant id => exact (kept.begin stepped).unclaimed rfl
  | list name existing => exact (kept.list stepped).unclaimed rfl
  | write name fresh => exact kept.write stepped
  | store name => exact (kept.store stepped).unclaimed rfl
  | lose name =>
    obtain rfl := Option.some.inj stepped
    exact (kept.lose name).unclaimed rfl

end

theorem glueName_inj {tunnel other : String} (same : glueName tunnel = glueName other) : tunnel = other := by
  have lists := congrArg String.toList same
  rw [glueName, glueName, String.toList_append, String.toList_append, List.append_cancel_left_eq] at lists
  exact String.toList_inj.mp lists

theorem kept_run {toLowerCase : String → String} {cond : World → Event → Prop} {tape : List Event} {world : World}
    (run : (machine toLowerCase).Run cond .empty tape world) : Kept (claims toLowerCase .empty tape) world :=
  run.preserves_labels World.claim Kept (fun _ _ _ _ kept _ stepped => kept.step stepped) .empty

theorem Request.place_delegation (request : Request) :
    (request.payload .delegation).place = (request.zone, .ns, request.tunnel) := rfl

theorem Claim.place_payload (claim : Claim) : claim.payload.place = (claim.zone, .a, glueName claim.tunnel) := rfl

theorem glue_place_iff {zone tunnel zone' tunnel' : String} :
    (zone, RecordType.a, glueName tunnel) = (zone', RecordType.a, glueName tunnel') ↔
      zone = zone' ∧ tunnel = tunnel' := by
  constructor
  · intro same
    obtain ⟨zones, rest⟩ := Prod.mk.inj same
    exact ⟨zones, glueName_inj (Prod.mk.inj rest).2⟩
  · rintro ⟨rfl, rfl⟩
    rfl

theorem glue_ne_delegation {zone name zone' name' : String} :
    (zone, RecordType.a, name) ≠ (zone', RecordType.ns, name') := by simp

/-- In every interleaving the name of an enabled row is delegated to its name server and to no other, and every address of
the name server is one that the name was claimed for. -/
theorem tunnel_kept {toLowerCase : String → String} {tape : List Event} {world : World}
    (run : (machine toLowerCase).Run Free .empty tape world) {id : String} {row : Row}
    (found : world.deployments.get? id = some row) (enabled : row.dns_tunnel_enabled = true) :
    ∃ tunnel, row.tunnel_hostname = some tunnel ∧
      (world.delegation row.zone_id tunnel ≠ [] ∧
        ∀ record ∈ world.delegation row.zone_id tunnel, record.payload.content = glueName tunnel) ∧
      (world.glue row.zone_id tunnel ≠ [] ∧ ∀ record ∈ world.glue row.zone_id tunnel,
        ∃ claim ∈ claimsOf row.zone_id tunnel (claims toLowerCase .empty tape),
          record.payload.content = claim.address) ∧
      ⟨id, row.zone_id, tunnel, row.vps_ipv4⟩ ∈ claims toLowerCase .empty tape := by
  have kept := kept_run run
  obtain ⟨tunnel, named, -, delegation, glue, claimed⟩ := kept.enabled id row found enabled
  refine ⟨tunnel, named, ⟨delegation, fun record member => ?_⟩, ⟨glue, fun record member => ?_⟩, claimed⟩
  · obtain ⟨listed, here⟩ := mem_recordsAt.mp member
    rcases kept.written record listed with ⟨request, same⟩ | ⟨claim, -, same⟩
    · rw [same, Request.place_delegation] at here
      obtain rfl : request.tunnel = tunnel := (Prod.mk.inj (Prod.mk.inj here).2).2
      rw [same]
      rfl
    · rw [same, Claim.place_payload] at here
      exact absurd here glue_ne_delegation
  · obtain ⟨listed, here⟩ := mem_recordsAt.mp member
    rcases kept.written record listed with ⟨request, same⟩ | ⟨claim, inLog, same⟩
    · rw [same, Request.place_delegation] at here
      exact absurd here.symm glue_ne_delegation
    · rw [same, Claim.place_payload, glue_place_iff] at here
      exact ⟨claim, List.mem_filter.mpr ⟨inLog, by simp [here]⟩, congrArg Payload.content same⟩

/-! ## One request at a time -/

/-- No request comes in for a tunnel that another one is working on. -/
def Alone (toLowerCase : String → String) (world : World) : Event → Prop
  | .begin _ tenant id => ∀ request, loadTunnel toLowerCase world tenant id = .ok (.inr request) →
    ∀ name other, world.requests.get? name = some other → ¬ (other.zone = request.zone ∧ other.tunnel = request.tunnel)
  | _ => True

/-- The name server of each tunnel has the address that was claimed last. -/
structure Owned (log : List Claim) (world : World) : Prop where
  kept : Kept log world
  last : ∀ zone tunnel, (world.glue zone tunnel).map (·.payload.content) =
    ((claimsOf zone tunnel log).getLast?.map (·.address)).toList
  vacant : ∀ name request, world.requests.get? name = some request → request.stage = .write .glue none →
    world.glue request.zone request.tunnel = []
  apart : ∀ name other request rival, world.requests.get? name = some request → world.requests.get? other = some rival →
    request.zone = rival.zone → request.tunnel = rival.tunnel → name = other

theorem Owned.empty : Owned [] .empty := by
  refine ⟨.empty, ?_, ?_, ?_⟩ <;> simp [World.empty, World.glue, recordsAt, claimsOf]

section

variable {log : List Claim} {world : World}

/-- A step that writes no record. -/
theorem Owned.still (owned : Owned log world) {next : World} (kept : Kept log next) (same : next.records = world.records)
    (old : ∀ name request, next.requests.get? name = some request → ∃ before, world.requests.get? name = some before ∧
      request.zone = before.zone ∧ request.tunnel = before.tunnel ∧
      (request.stage = before.stage ∨ (request.stage = .write .glue none → world.glue before.zone before.tunnel = []))) :
    Owned log next := by
  refine ⟨kept, fun zone tunnel => ?_, fun name request found stage => ?_, fun name other request rival found there => ?_⟩
  · rw [World.glue, same]
    exact owned.last zone tunnel
  · obtain ⟨before, there, zone, tunnel, stages⟩ := old name request found
    rw [World.glue, same, zone, tunnel]
    rcases stages with unchanged | empty
    · exact owned.vacant name before there (unchanged ▸ stage)
    · exact empty stage
  · obtain ⟨before, found, zone, tunnel, -⟩ := old name request found
    obtain ⟨after, there, zone', tunnel', -⟩ := old other rival there
    rw [zone, zone', tunnel, tunnel']
    exact owned.apart name other before after found there

/-- A step that writes no record and no request. -/
theorem Owned.quiet (owned : Owned log world) {next : World} {more : List Claim} (kept : Kept (log ++ more) next)
    (none : more = []) (records : next.records = world.records) (requests : next.requests = world.requests) :
    Owned (log ++ more) next := by
  subst none
  rw [List.append_nil] at kept ⊢
  exact owned.still kept records fun name request found => ⟨request, requests ▸ found, rfl, rfl, .inl rfl⟩

theorem Owned.begin (owned : Owned log world) {toLowerCase : String → String} {name tenant id : String} {next : World}
    (alone : Alone toLowerCase world (.begin name tenant id))
    (stepped : world.begin? toLowerCase name tenant id = some next) : Owned log next := by
  have kept := owned.kept.begin stepped
  obtain ⟨-, rfl | ⟨request, loaded, rfl⟩⟩ := World.begin?_cases stepped
  · exact owned
  have free := alone request loaded
  obtain ⟨row, zoneName, -, made, -⟩ := loadTunnel_request loaded
  refine ⟨kept, owned.last, fun other later found stage => ?_, fun first second one two found there zone tunnel => ?_⟩
  · rw [OrderedMap.get?_alter] at found
    split at found
    · obtain rfl := Option.some.inj found
      rw [made] at stage
      contradiction
    · exact owned.vacant other later found stage
  · rw [OrderedMap.get?_alter] at found there
    split at found <;> split at there
    · next here here' => exact here.trans here'.symm
    · obtain rfl := Option.some.inj found
      exact absurd ⟨zone.symm, tunnel.symm⟩ (free second two there)
    · obtain rfl := Option.some.inj there
      exact absurd ⟨zone, tunnel⟩ (free first one found)
    · exact owned.apart first second one two found there zone tunnel

theorem Owned.list (owned : Owned log world) {name : String} {existing : Option String} {next : World}
    (stepped : world.list? name existing = some next) : Owned log next := by
  have kept := owned.kept.list stepped
  obtain ⟨request, which, found, stage, -, vacant, rfl⟩ := World.list?_cases stepped
  refine owned.still kept rfl fun other later there => ?_
  rw [OrderedMap.get?_modify] at there
  split at there
  · next here =>
    obtain ⟨before, same, rfl⟩ := Option.map_eq_some_iff.mp there
    obtain rfl := Option.some.inj (found.symm.trans same)
    refine ⟨request, here ▸ found, rfl, rfl, .inr fun stage => ?_⟩
    obtain ⟨rfl, absent⟩ := Stage.write.inj stage
    exact vacant absent
  · exact ⟨later, there, rfl, rfl, .inl rfl⟩

theorem claimsOf_append (zone tunnel : String) (claim : Claim) : claimsOf zone tunnel (log ++ [claim]) =
    if claim.zone = zone ∧ claim.tunnel = tunnel then claimsOf zone tunnel log ++ [claim]
    else claimsOf zone tunnel log := by
  rw [claimsOf, List.filter_append]
  by_cases same : claim.zone = zone ∧ claim.tunnel = tunnel
  · rw [if_pos same, List.filter_cons_of_pos (by simpa using same), List.filter_nil]
    rfl
  · rw [if_neg same, List.filter_cons_of_neg (by simpa using same), List.filter_nil, List.append_nil]
    rfl

theorem Owned.write (owned : Owned log world) {name fresh : String} {next : World}
    (stepped : world.write? name fresh = some next) : Owned (log ++ world.claim (.write name fresh)) next := by
  have kept := owned.kept.write stepped
  obtain ⟨request, which, existing, records, found, stage, written, rfl⟩ := World.write?_cases stepped
  have held := (owned.kept.sound name request found).held which existing stage
  have elsewhere {zone tunnel : String} (apart : (zone, .a, glueName tunnel) ≠ (request.payload which).place) :
      recordsAt records (zone, .a, glueName tunnel) = world.glue zone tunnel :=
    recordsAt_written_apart owned.kept.ids held written apart
  have others : ∀ other later, (world.requests.modify name ({ · with stage := which.next })).get? other = some later →
      ∃ before, world.requests.get? other = some before ∧ later.zone = before.zone ∧ later.tunnel = before.tunnel ∧
        (later.stage = before.stage ∧ other ≠ name ∨ later.stage = which.next) := by
    intro other later there
    rw [OrderedMap.get?_modify] at there
    split at there
    · next here =>
      obtain ⟨before, same, rfl⟩ := Option.map_eq_some_iff.mp there
      exact ⟨before, here ▸ same, rfl, rfl, .inr rfl⟩
    · next other => exact ⟨later, there, rfl, rfl, .inl ⟨rfl, other⟩⟩
  have apart : ∀ other later, (world.requests.modify name ({ · with stage := which.next })).get? other = some later →
      later.stage = .write .glue none → recordsAt records (later.zone, .a, glueName later.tunnel) = [] := by
    intro other later there waits
    obtain ⟨before, stored, zone, tunnel, ⟨unchanged, different⟩ | advanced⟩ := others other later there
    · rw [elsewhere, zone, tunnel]
      · exact owned.vacant other before stored (unchanged ▸ waits)
      · intro same
        cases which with
        | delegation => exact glue_ne_delegation same
        | glue =>
          obtain ⟨sameZone, sameTunnel⟩ := glue_place_iff.mp same
          exact different (owned.apart other name before request stored found (zone.symm.trans sameZone)
            (tunnel.symm.trans sameTunnel))
    · rw [advanced] at waits
      cases which <;> contradiction
  refine ⟨kept, fun zone tunnel => ?_, apart, fun first second one two found there => ?_⟩
  · rw [World.glue]
    cases which with
    | delegation =>
      have silent : world.claim (.write name fresh) = [] := by simp [World.claim, found, stage]
      rw [silent, List.append_nil, elsewhere glue_ne_delegation]
      exact owned.last zone tunnel
    | glue =>
      have claimed : world.claim (.write name fresh) = [request.claim] := by simp [World.claim, found, stage]
      rw [claimed, claimsOf_append]
      split
      · next same =>
        obtain ⟨rfl, rfl⟩ := same
        have single : (recordsAt world.records (request.payload .glue).place).length ≤ 1 := by
          have length := congrArg List.length (owned.last request.zone request.tunnel)
          rw [List.length_map] at length
          exact length.trans_le Option.length_toList_le
        have one := recordsAt_written owned.kept.ids held written single fun absent =>
          owned.vacant name request found (absent ▸ stage)
        have contents := congrArg (List.map Payload.content) one
        rw [List.map_map] at contents
        rw [List.getLast?_concat]
        exact contents
      · next different =>
        rw [elsewhere]
        · exact owned.last zone tunnel
        · intro same
          obtain ⟨sameZone, sameTunnel⟩ := glue_place_iff.mp same
          exact different ⟨sameZone.symm, sameTunnel.symm⟩
  · obtain ⟨before, stored, zone, tunnel, -⟩ := others first one found
    obtain ⟨after, stored', zone', tunnel', -⟩ := others second two there
    rw [zone, zone', tunnel, tunnel']
    exact owned.apart first second before after stored stored'

theorem Owned.unclaimed (owned : Owned log world) {more : List Claim} (none : more = []) : Owned (log ++ more) world := by
  rwa [none, List.append_nil]

theorem Owned.step {toLowerCase : String → String} {event : Event} {next : World} (owned : Owned log world)
    (alone : Alone toLowerCase world event) (stepped : world.step? toLowerCase event = some next) :
    Owned (log ++ world.claim event) next := by
  have kept := owned.kept.step stepped
  cases event with
  | create id row =>
    obtain ⟨-, same⟩ := Option.ite_none_left_eq_some.mp stepped
    obtain rfl := Option.some.inj same
    exact owned.quiet kept rfl rfl rfl
  | delete id =>
    obtain ⟨-, same⟩ := Option.ite_none_right_eq_some.mp stepped
    obtain rfl := Option.some.inj same
    exact owned.quiet kept rfl rfl rfl
  | begin name tenant id => exact (owned.begin alone stepped).unclaimed rfl
  | list name existing => exact (owned.list stepped).unclaimed rfl
  | write name fresh => exact owned.write stepped
  | store name =>
    obtain ⟨request, -, -, rfl⟩ := World.store?_cases stepped
    refine (owned.still (owned.kept.store stepped) rfl fun other later found => ?_).unclaimed rfl
    exact ⟨later, (OrderedMap.get?_filter_eq_some_iff.mp found).1, rfl, rfl, .inl rfl⟩
  | lose name =>
    obtain rfl := Option.some.inj stepped
    refine (owned.still (owned.kept.lose name) rfl fun other later found => ?_).unclaimed rfl
    exact ⟨later, (OrderedMap.get?_filter_eq_some_iff.mp found).1, rfl, rfl, .inl rfl⟩
  | move id status | replace id connection | connect id connection =>
    obtain rfl := Option.some.inj stepped
    exact owned.quiet kept rfl rfl rfl

end

/-- What a node that has its tunnel, and no request for it, stays out of. -/
structure Settled (id : String) (log : List Claim) (world : World) : Prop where
  issued : id ∈ world.issued
  enabled : ∀ row, world.deployments.get? id = some row →
    row.dns_tunnel_enabled = true ∧ ∃ tunnel, row.tunnel_hostname = some tunnel ∧ tunnel ≠ ""
  silent : ∀ name request, world.requests.get? name = some request → request.deployment ≠ id
  unclaimed : ∀ claim ∈ log, claim.deployment ≠ id

section

variable {id : String} {log : List Claim} {world : World}

theorem Settled.modify (settled : Settled id log world) (other : String) {change : Row → Row}
    (leaves : ∀ row, (change row).dns_tunnel_enabled = row.dns_tunnel_enabled ∧
      (change row).tunnel_hostname = row.tunnel_hostname) :
    Settled id log { world with deployments := world.deployments.modify other change } := by
  refine ⟨settled.issued, fun row stored => ?_, settled.silent, settled.unclaimed⟩
  rw [OrderedMap.get?_modify] at stored
  split at stored
  · next here =>
    obtain ⟨before, there, rfl⟩ := Option.map_eq_some_iff.mp stored
    rw [(leaves before).1, (leaves before).2]
    exact settled.enabled before (here ▸ there)
  · exact settled.enabled row stored

/-- The requests at hand may move on, and some may go. -/
theorem Settled.withRequests (settled : Settled id log world) {requests : OrderedMap String Request}
    {records : List DnsRecord} {more : List Claim} (others : ∀ claim ∈ more, claim.deployment ≠ id)
    (old : ∀ name request, requests.get? name = some request → request.deployment ≠ id) :
    Settled id (log ++ more) { world with records := records, requests := requests } := by
  refine ⟨settled.issued, settled.enabled, old, fun claim member => ?_⟩
  exact (List.mem_append.mp member).elim (settled.unclaimed claim) (others claim)

theorem Settled.advance (settled : Settled id log world) (name : String) (stage : Stage) :
    ∀ other request, (world.requests.modify name ({ · with stage := stage })).get? other = some request →
      request.deployment ≠ id := by
  intro other request found
  rw [OrderedMap.get?_modify] at found
  split at found
  · obtain ⟨before, there, rfl⟩ := Option.map_eq_some_iff.mp found
    exact settled.silent name before there
  · exact settled.silent other request found

theorem Settled.lose (settled : Settled id log world) (name : String) :
    Settled id log (world.lose name) :=
  ⟨settled.issued, settled.enabled,
    fun other request found => settled.silent other request (OrderedMap.get?_filter_eq_some_iff.mp found).1,
    settled.unclaimed⟩

theorem Settled.create (settled : Settled id log world) {other : String} {row : Row} {next : World}
    (stepped : world.create? other row = some next) : Settled id log next := by
  obtain ⟨free, same⟩ := Option.ite_none_left_eq_some.mp stepped
  obtain rfl := Option.some.inj same
  refine ⟨List.mem_cons_of_mem _ settled.issued, fun row stored => ?_, settled.silent, settled.unclaimed⟩
  have apart : id ≠ other := by
    rintro rfl
    exact free settled.issued
  rw [OrderedMap.get?_alter, if_neg apart] at stored
  exact settled.enabled row stored

theorem Settled.begin (settled : Settled id log world) {toLowerCase : String → String} {name tenant other : String}
    {next : World} (stepped : world.begin? toLowerCase name tenant other = some next) : Settled id log next := by
  obtain ⟨-, rfl | ⟨request, loaded, rfl⟩⟩ := World.begin?_cases stepped
  · exact settled
  obtain ⟨row, zoneName, stored, rfl, unset⟩ := loadTunnel_request loaded
  refine ⟨settled.issued, settled.enabled, fun key later found => ?_, settled.unclaimed⟩
  rw [OrderedMap.get?_alter] at found
  split at found
  · obtain rfl := Option.some.inj found
    rintro rfl
    obtain ⟨enabled, tunnel, named, given⟩ := settled.enabled row stored
    exact absurd enabled (by simp [unset tunnel named given])
  · exact settled.silent key later found

theorem Settled.write (settled : Settled id log world) {name fresh : String} {next : World}
    (stepped : world.write? name fresh = some next) : Settled id (log ++ world.claim (.write name fresh)) next := by
  obtain ⟨request, which, existing, records, found, stage, -, rfl⟩ := World.write?_cases stepped
  refine settled.withRequests (fun claim member => ?_) (settled.advance name which.next)
  cases which with
  | delegation => simp [World.claim, found, stage] at member
  | glue =>
    rw [World.claim, found] at member
    simp only [stage, List.mem_singleton] at member
    exact member ▸ settled.silent name request found

theorem Settled.store (settled : Settled id log world) {name : String} {next : World}
    (stepped : world.store? name = some next) : Settled id log next := by
  obtain ⟨request, found, -, rfl⟩ := World.store?_cases stepped
  have other := settled.silent name request found
  have lost := settled.lose name
  refine ⟨lost.issued, fun row stored => ?_, lost.silent, lost.unclaimed⟩
  rw [OrderedMap.get?_modify, if_neg (Ne.symm other)] at stored
  exact settled.enabled row stored

theorem Settled.unclaims (settled : Settled id log world) {more : List Claim} (none : more = []) :
    Settled id (log ++ more) world := by
  rwa [none, List.append_nil]

theorem Settled.step {toLowerCase : String → String} {event : Event} {next : World} (settled : Settled id log world)
    (stepped : world.step? toLowerCase event = some next) : Settled id (log ++ world.claim event) next := by
  cases event with
  | create other row => exact (settled.create stepped).unclaims rfl
  | move other status =>
    obtain rfl := Option.some.inj stepped
    refine Settled.unclaims (settled.modify other ?_) rfl
    exact fun row => ⟨rfl, rfl⟩
  | replace other connection =>
    obtain rfl := Option.some.inj stepped
    refine Settled.unclaims (settled.modify other ?_) rfl
    exact fun row => ⟨rfl, rfl⟩
  | delete other =>
    obtain ⟨-, same⟩ := Option.ite_none_right_eq_some.mp stepped
    obtain rfl := Option.some.inj same
    refine Settled.unclaims ?_ rfl
    exact ⟨settled.issued, fun row stored => settled.enabled row (OrderedMap.get?_filter_eq_some_iff.mp stored).1,
      settled.silent, settled.unclaimed⟩
  | connect other connection =>
    obtain rfl := Option.some.inj stepped
    refine Settled.unclaims ?_ rfl
    exact ⟨settled.issued, settled.enabled, settled.silent, settled.unclaimed⟩
  | begin name tenant other => exact (settled.begin stepped).unclaims rfl
  | list name existing =>
    obtain ⟨request, which, -, -, -, -, rfl⟩ := World.list?_cases stepped
    exact settled.withRequests (fun claim member => absurd member List.not_mem_nil) (settled.advance name _)
  | write name fresh => exact settled.write stepped
  | store name => exact (settled.store stepped).unclaims rfl
  | lose name =>
    obtain rfl := Option.some.inj stepped
    exact (settled.lose name).unclaims rfl

end

/-- While requests for one tunnel come one at a time, the name of an enabled row leads to its own node exactly when the last
claim of the name was of the node's address; and a node that is enabled never claims the name again. -/
theorem tunnel_owner {toLowerCase : String → String} {tape : List Event} {world : World}
    (run : (machine toLowerCase).Run (Alone toLowerCase) .empty tape world) {id tunnel : String} {row : Row}
    (found : world.deployments.get? id = some row) (enabled : row.dns_tunnel_enabled = true)
    (named : row.tunnel_hostname = some tunnel) :
    ((∀ record ∈ world.glue row.zone_id tunnel, record.payload.content = row.vps_ipv4) ↔
      (claimsOf row.zone_id tunnel (claims toLowerCase .empty tape)).getLast?.map (·.address) = some row.vps_ipv4) ∧
    ∀ later world', (machine toLowerCase).Run Free world later world' →
      (∀ name request, world.requests.get? name = some request → request.deployment ≠ id) →
      ∀ claim ∈ claims toLowerCase world later, claim.deployment ≠ id := by
  have owned : Owned (claims toLowerCase .empty tape) world :=
    run.preserves_labels World.claim Owned (fun _ _ _ _ owned alone stepped => owned.step alone stepped) .empty
  obtain ⟨name, same, given, -, glue, -⟩ := owned.kept.enabled id row found enabled
  obtain rfl : name = tunnel := Option.some.inj (same.symm.trans named)
  refine ⟨?_, fun later world' run silent => ?_⟩
  · have last := owned.last row.zone_id name
    cases final : (claimsOf row.zone_id name (claims toLowerCase .empty tape)).getLast? with
    | none =>
      rw [final] at last
      exact absurd (List.map_eq_nil_iff.mp last) glue
    | some claim =>
      rw [final] at last
      obtain ⟨record, only, content⟩ := List.map_eq_singleton_iff.mp last
      simp only [only, List.mem_singleton, forall_eq, content, Option.map_some, Option.some.injEq]
  · have settled : Settled id [] world :=
      ⟨owned.kept.issued id row found, fun other stored => ?_, silent, fun claim member => absurd member List.not_mem_nil⟩
    · exact (run.preserves_labels World.claim (Settled id) (fun _ _ _ _ settled _ stepped => settled.step stepped)
        settled).unclaimed
    · obtain rfl := Option.some.inj (found.symm.trans stored)
      exact ⟨enabled, name, named, given⟩

namespace Sample

def queued (address : String) : Row := ⟨"tenant", "connection", "zone", address, .queued, false, none⟩

/-- Two nodes of one zone, enabled one after the other. -/
def tape : List Event := [
  .connect "connection" ⟨"tenant", false, some "zone", some "Example.org"⟩,
  .create "first" (queued "192.0.2.1"), .create "second" (queued "192.0.2.2"), .move "first" .ready, .move "second" .ready,
  .begin "a" "tenant" "first", .list "a" none, .write "a" "ns", .list "a" none, .write "a" "glue", .store "a",
  .begin "b" "tenant" "second", .list "b" (some "ns"), .write "b" "", .list "b" (some "glue"), .write "b" "", .store "b"]

def isIdle (world : World) : Event → Bool
  | .begin .. => world.requests.entries.isEmpty
  | _ => true

def final : World := ((machine String.toLower).checked? isIdle .empty tape).getD .empty

/-- The first node as it stands in the end. -/
def first : Row := { queued "192.0.2.1" with
  status := .ready, dns_tunnel_enabled := true, tunnel_hostname := some "t.example.org" }

theorem run : (machine String.toLower).Run (Alone String.toLower) .empty tape final := by
  have complete : ((machine String.toLower).checked? isIdle .empty tape).isSome := by decide +kernel
  obtain ⟨world, replayed⟩ := Option.isSome_iff_exists.mp complete
  have same : final = world := by rw [final, replayed, Option.getD_some]
  rw [same]
  refine .of_checked (fun world event idle => ?_) replayed
  cases event with
  | begin name tenant id =>
    intro request _ other rival found
    have none : world.requests.get? other = none := by
      rw [OrderedMap.get?, List.isEmpty_iff.mp idle]
      rfl
    rw [none] at found
    contradiction
  | _ => trivial

theorem found : final.deployments.get? "first" = some first := by decide +kernel

end Sample

theorem tunnel_kept_sample : Sample.final.glue "zone" "t.example.org" ≠ [] := by
  have free : (machine String.toLower).Run Free .empty Sample.tape Sample.final := Sample.run.mono fun _ _ _ => trivial
  obtain ⟨tunnel, named, -, ⟨glue, -⟩, -⟩ := tunnel_kept free Sample.found rfl
  obtain rfl := Option.some.inj named
  exact glue

theorem tunnel_taken : ¬ ∀ record ∈ Sample.final.glue "zone" "t.example.org", record.payload.content = "192.0.2.1" := by
  rw [show "192.0.2.1" = Sample.first.vps_ipv4 from rfl, show "zone" = Sample.first.zone_id from rfl,
    (tunnel_owner Sample.run Sample.found rfl rfl).1]
  decide +kernel

end OmniControlPlane.Deployment.DnsTunnel
