import OmniControlPlane.Lib.Machine
import OmniControlPlane.Lib.OrderedMap

/-! # The nodes of a tenant

`createOmniNode` makes a database and a Worker and writes their row last; `deleteOmniNodeFlow` swallows what
the two deletions say and removes the row. `World` is the account as the flows have left it, with the rows
of `kaveh_nodes`: a database or a Worker that no row names can neither be reached nor be deleted.
-/

namespace OmniControlPlane.Deployment.Nodes

open Lib Machine

/-! ## Rows and what they name -/

structure OmniNodeRow where
  tenantId : String
  connectionId : String
  accountId : String
  workerName : String
  d1Id : String
  baseUrl : String
  agentKeyEnc : String
deriving DecidableEq, Repr

/-- The rows by their primary key. -/
abbrev Rows := OrderedMap String OmniNodeRow

/-- A Worker or a database, by its account and its name or identifier. -/
abbrev Resource := String × String

def OmniNodeRow.worker (row : OmniNodeRow) : Resource := (row.accountId, row.workerName)

def OmniNodeRow.database (row : OmniNodeRow) : Resource := (row.accountId, row.d1Id)

/-- The Workers and the databases that the flows made and that are still there. -/
structure World where
  nodes : Rows := .empty
  workers : List Resource := []
  databases : List Resource := []

/-- What a call comes to: it has its effect or not, and its answer says so or is lost. -/
inductive Outcome where
  | done | lost | refused
deriving DecidableEq, Repr

def Outcome.takes (outcome : Outcome) : Bool := outcome ≠ .refused

/-- What the creation of a database comes to. -/
inductive Creation where
  | refused
  | lost (id : String)
  | made (id : String)
deriving DecidableEq, Repr

def Creation.id? : Creation → Option String
  | .refused => none
  | .lost id | .made id => some id

structure Principal where
  tenantId : String

structure Connection where
  id : String
  resourceAccountId : Option String

/-! ## Creation -/

/-- The calls of `createOmniNode`, `none` where one throws, and what it draws at random. -/
structure CreateCalls where
  principal : Principal
  connection : Option Connection
  token : Option String
  suffix : String
  listing : Option (List (String × Option String))
  creation : Creation
  upload : Outcome
  enable : Outcome
  subdomain : Option String
  id : String
  agentKeyEnc : Option String
  insert : Outcome
  audit : Outcome
  seed : ℕ → Option (String × List String)

structure Vip where
  sub : String
  uri : String
deriving DecidableEq, Repr

structure OmniCreateResult where
  id : String
  node : OmniNodeRow
  baseUrl : String
  vip : Option Vip

/-- An identifier that is there. -/
def present (id : Option String) : Option String := id.filter (· ≠ "")

def findOrCreateD1 (world : World) (accountId name : String) (calls : CreateCalls) : World × Option String :=
  match calls.listing with
  | none => (world, none)
  | some existing =>
    match existing.find? (·.1 = name) with
    | some (_, id) => (world, present id)
    | none =>
      let made := calls.creation.id?.toList.map fun id => (accountId, id)
      let answer := match calls.creation with
        | .made id => present (some id)
        | _ => none
      ({ world with databases := world.databases ++ made }, answer)

def uploadKavehWorker (world : World) (accountId workerName : String) (upload : Outcome) : World :=
  if upload.takes then { world with workers := world.workers ++ [(accountId, workerName)] } else world

def enableWorkersDev (workerName : String) (calls : CreateCalls) : Option String :=
  if calls.enable = .done then calls.subdomain.map fun sub => s!"https://{workerName}.{sub}.workers.dev" else none

/-- The five attempts to seed a user. -/
def seedVip (baseUrl : String) (seed : ℕ → Option (String × List String)) : Option Vip :=
  (List.range 5).findSome? fun attempt =>
    (seed attempt).map fun (token, uris) => { sub := s!"{baseUrl}/s/{token}", uri := uris.head?.getD "" }

def workerNameOf (suffix : String) : String := "omni-" ++ suffix

/-- The connection and the account that its row names. -/
def boundary (calls : CreateCalls) : Option (Connection × String) :=
  match calls.connection, calls.token with
  | some connection, some _ => (present connection.resourceAccountId).map fun accountId => (connection, accountId)
  | _, _ => none

def rowOf (calls : CreateCalls) (connection : Connection) (accountId d1Id agentKeyEnc : String) : OmniNodeRow :=
  let workerName := workerNameOf calls.suffix
  { tenantId := calls.principal.tenantId, connectionId := connection.id, accountId, workerName, d1Id,
    baseUrl := (enableWorkersDev workerName calls).getD s!"https://{workerName}.workers.dev", agentKeyEnc }

/-- The insertion takes effect where the primary key is free. -/
def inserts (world : World) (calls : CreateCalls) : Bool := calls.insert.takes && (world.nodes.get? calls.id).isNone

def createOmniNode (world : World) (calls : CreateCalls) : World × Option OmniCreateResult :=
  match boundary calls with
  | none => (world, none)
  | some (connection, accountId) =>
    match findOrCreateD1 world accountId (workerNameOf calls.suffix) calls with
    | (world, none) => (world, none)
    | (world, some d1Id) =>
      let world := uploadKavehWorker world accountId (workerNameOf calls.suffix) calls.upload
      if calls.upload ≠ .done then (world, none)
      else
        match calls.agentKeyEnc with
        | none => (world, none)
        | some agentKeyEnc =>
          let node := rowOf calls connection accountId d1Id agentKeyEnc
          if inserts world calls = false then (world, none)
          else
            let world := { world with nodes := world.nodes.alter calls.id fun _ => node }
            if calls.insert ≠ .done ∨ calls.audit ≠ .done then (world, none)
            else (world, some { id := calls.id, node, baseUrl := node.baseUrl, vip := seedVip node.baseUrl calls.seed })

/-! ## Deletion -/

structure DeleteCalls where
  principal : Principal
  nodeId : String
  list : Bool
  connection : Bool
  token : Bool
  deleteWorker : Outcome
  deleteD1 : Outcome
  deleteRow : Outcome
  audit : Outcome

/-- `deleteOmniNode`, whose two calls may fail. -/
def deleteOmniNode (world : World) (row : OmniNodeRow) (calls : DeleteCalls) : World :=
  { world with
    workers := if calls.deleteWorker.takes then world.workers.filter (· ≠ row.worker) else world.workers
    databases := if calls.deleteD1.takes then world.databases.filter (· ≠ row.database) else world.databases }

/-- The row that the flow is about, where it comes to the deletions. -/
def deleting (world : World) (calls : DeleteCalls) : Option OmniNodeRow :=
  if calls.list ∧ calls.connection ∧ calls.token then
    (world.nodes.get? calls.nodeId).filter (·.tenantId = calls.principal.tenantId)
  else none

def deleteOmniNodeFlow (world : World) (calls : DeleteCalls) : World × Bool :=
  match deleting world calls with
  | none => (world, false)
  | some row =>
    let world := deleteOmniNode world row calls
    if calls.deleteRow.takes = false then (world, false)
    else
      let world := { world with nodes := world.nodes.filter fun id _ => id != calls.nodeId }
      (world, calls.deleteRow = .done ∧ calls.audit = .done)

/-! ## The flows -/

inductive Flow where
  | create (calls : CreateCalls)
  | delete (calls : DeleteCalls)

def after (world : World) : Flow → World
  | .create calls => (createOmniNode world calls).1
  | .delete calls => (deleteOmniNodeFlow world calls).1

/-- One flow after another, each with its own failures. -/
def flows : Machine World Flow where
  step? world flow := some (after world flow)

/-! ## What is recorded -/

/-- A row names the resource in a column. -/
def Names (column : OmniNodeRow → Resource) (nodes : Rows) (resource : Resource) : Prop :=
  ∃ id row, nodes.get? id = some row ∧ column row = resource

def Covered (column : OmniNodeRow → Resource) (nodes : Rows) (resources : List Resource) : Prop :=
  ∀ resource ∈ resources, Names column nodes resource

/-- Every Worker and every database is named by a row. -/
def Recorded (world : World) : Prop :=
  Covered OmniNodeRow.worker world.nodes world.workers ∧ Covered OmniNodeRow.database world.nodes world.databases

/-- The database that a creation makes. -/
def CreateCalls.makes (calls : CreateCalls) : Option String :=
  match calls.listing with
  | none => none
  | some existing =>
    match existing.find? (·.1 = workerNameOf calls.suffix) with
    | some _ => none
    | none => calls.creation.id?

/-- The database that a creation goes on with. -/
def CreateCalls.resolves (calls : CreateCalls) : Option String :=
  match calls.listing with
  | none => none
  | some existing =>
    match existing.find? (·.1 = workerNameOf calls.suffix) with
    | some (_, id) => present id
    | none =>
      match calls.creation with
      | .made id => present (some id)
      | _ => none

/-- A creation comes to its row. -/
def CreateCalls.Completes (calls : CreateCalls) (world : World) : Prop :=
  calls.resolves.isSome ∧ calls.upload = .done ∧ calls.agentKeyEnc.isSome ∧ inserts world calls

/-- All that a creation makes is named by a row that is there before. -/
def CreateCalls.Spared (calls : CreateCalls) (world : World) (accountId : String) : Prop :=
  (∀ id ∈ calls.makes, Names OmniNodeRow.database world.nodes (accountId, id)) ∧
    (calls.resolves.isSome → calls.upload.takes →
      Names OmniNodeRow.worker world.nodes (accountId, workerNameOf calls.suffix))

/-- A creation comes to its row, or a row is there already for all that it makes. A deletion that removes its
row has removed the Worker and the database, or another row names what is left of them. -/
def Keeps (world : World) : Flow → Prop
  | .create calls => ∀ connection accountId, boundary calls = some (connection, accountId) →
      calls.Completes world ∨ calls.Spared world accountId
  | .delete calls => ∀ row, deleting world calls = some row → calls.deleteRow.takes →
      let others := world.nodes.filter fun id _ => id != calls.nodeId
      (calls.deleteWorker.takes ∨ row.worker ∉ world.workers ∨ Names OmniNodeRow.worker others row.worker) ∧
        (calls.deleteD1.takes ∨ row.database ∉ world.databases ∨ Names OmniNodeRow.database others row.database)

section

variable {column : OmniNodeRow → Resource} {nodes : Rows} {resources more : List Resource} {resource : Resource}
  {world : World} {id : String} {row : OmniNodeRow}

theorem Covered.nil : Covered column nodes [] := nofun

theorem covered_append : Covered column nodes (resources ++ more) ↔
    Covered column nodes resources ∧ Covered column nodes more := List.forall_mem_append

theorem covered_singleton : Covered column nodes [resource] ↔ Names column nodes resource := List.forall_mem_singleton

/-- A new row names what it names, and the others go on naming theirs. -/
theorem names_alter (free : nodes.get? id = none) :
    Names column (nodes.alter id fun _ => row) resource ↔ column row = resource ∨ Names column nodes resource := by
  constructor
  · rintro ⟨other, found, there, named⟩
    rw [OrderedMap.get?_alter] at there
    split_ifs at there with same
    · obtain rfl := Option.some.inj there
      exact .inl named
    · exact .inr ⟨other, found, there, named⟩
  · rintro (named | ⟨other, found, there, named⟩)
    · refine ⟨id, row, ?_, named⟩
      rw [OrderedMap.get?_alter, if_pos rfl]
    · refine ⟨other, found, ?_, named⟩
      have different : other ≠ id := by
        rintro rfl
        rw [free] at there
        simp at there
      rw [OrderedMap.get?_alter, if_neg different, there]

/-- Without its row, a resource is named where another row names it. -/
theorem covered_filter_iff (covered : Covered column nodes resources) (there : nodes.get? id = some row) (gone : Bool) :
    Covered column (nodes.filter fun other _ => other != id)
        (if gone then resources.filter (· ≠ column row) else resources) ↔
      gone = true ∨ column row ∉ resources ∨ Names column (nodes.filter fun other _ => other != id) (column row) := by
  have others (resource : Resource) (member : resource ∈ resources) (different : resource ≠ column row) :
      Names column (nodes.filter fun other _ => other != id) resource := by
    obtain ⟨other, found, stored, named⟩ := covered resource member
    have distinct : other ≠ id := by
      rintro rfl
      obtain rfl : row = found := Option.some.inj (there.symm.trans stored)
      exact different named.symm
    exact ⟨other, found, OrderedMap.get?_filter_eq_some_iff.mpr ⟨stored, by simpa using distinct⟩, named⟩
  cases gone with
  | true =>
    refine iff_of_true ?_ (.inl rfl)
    intro resource member
    obtain ⟨member, different⟩ := List.mem_filter.mp member
    exact others resource member (by simpa using different)
  | false =>
    constructor
    · intro left
      by_cases member : column row ∈ resources
      · exact .inr (.inr (left _ member))
      · exact .inr (.inl member)
    · rintro (absent | absent | named) resource member
      · exact absurd absent (by decide)
      · exact others resource member fun same => absent (same ▸ member)
      · by_cases same : resource = column row
        · exact same ▸ named
        · exact others resource member same

/-! ## One flow -/

theorem findOrCreateD1_eq (world : World) (accountId : String) (calls : CreateCalls) :
    findOrCreateD1 world accountId (workerNameOf calls.suffix) calls =
      ({ world with databases := world.databases ++ calls.makes.toList.map fun id => (accountId, id) },
        calls.resolves) := by
  unfold findOrCreateD1 CreateCalls.makes CreateCalls.resolves
  cases calls.listing with
  | none => simp
  | some existing =>
    cases hit : existing.find? (·.1 = workerNameOf calls.suffix) with
    | some entry => simp [hit]
    | none => simp [hit]

/-- What a creation goes on with is what it made. -/
theorem CreateCalls.makes_eq {calls : CreateCalls} {made d1Id : String} (makes : calls.makes = some made)
    (resolves : calls.resolves = some d1Id) : made = d1Id := by
  unfold CreateCalls.makes at makes
  unfold CreateCalls.resolves at resolves
  cases listing : calls.listing with
  | none => simp [listing] at makes
  | some existing =>
    cases hit : existing.find? (·.1 = workerNameOf calls.suffix) with
    | some entry => simp [listing, hit] at makes
    | none =>
      cases creation : calls.creation with
      | refused => simp [listing, hit, creation, Creation.id?] at makes
      | lost id => simp [listing, hit, creation] at resolves
      | made id =>
        simp only [listing, hit, creation, Creation.id?, Option.some.injEq] at makes
        simp only [listing, hit, creation, present, Option.filter_eq_some_iff, Option.some.injEq] at resolves
        exact makes.symm.trans resolves.1

/-- The account with what a creation makes in it. -/
def provisioned (world : World) (calls : CreateCalls) (accountId : String) : World :=
  { world with
    databases := world.databases ++ calls.makes.toList.map fun id => (accountId, id)
    workers := world.workers ++
      if calls.resolves.isSome ∧ calls.upload.takes then [(accountId, workerNameOf calls.suffix)] else [] }

theorem uploaded_eq (world : World) (calls : CreateCalls) (accountId : String) (resolved : calls.resolves.isSome) :
    uploadKavehWorker
        { world with databases := world.databases ++ calls.makes.toList.map fun id => (accountId, id) }
        accountId (workerNameOf calls.suffix) calls.upload =
      provisioned world calls accountId := by
  unfold uploadKavehWorker provisioned
  by_cases takes : calls.upload.takes = true
  · simp [takes, resolved]
  · simp [takes]

/-- What a creation makes is left in any case; the row follows where it completes. -/
theorem createOmniNode_cases {calls : CreateCalls} {connection : Connection} {accountId : String} (world : World)
    (bounds : boundary calls = some (connection, accountId)) :
    (¬ calls.Completes world ∧ (createOmniNode world calls).1 = provisioned world calls accountId) ∨
    (calls.Completes world ∧ ∃ row d1Id, calls.resolves = some d1Id ∧
      row.worker = (accountId, workerNameOf calls.suffix) ∧ row.database = (accountId, d1Id) ∧
      (createOmniNode world calls).1 =
        { provisioned world calls accountId with nodes := world.nodes.alter calls.id fun _ => row }) := by
  simp only [createOmniNode, bounds, findOrCreateD1_eq]
  cases resolved : calls.resolves with
  | none =>
    refine .inl ⟨?_, by simp [provisioned, resolved]⟩
    rintro ⟨some, -⟩
    simp [resolved] at some
  | some d1Id =>
    have there : calls.resolves.isSome := by simp [resolved]
    have same : inserts (provisioned world calls accountId) calls = inserts world calls := rfl
    simp only [uploaded_eq world calls accountId there]
    by_cases answered : calls.upload = .done
    · rw [if_neg (not_not.mpr answered)]
      cases key : calls.agentKeyEnc with
      | none =>
        refine .inl ⟨?_, rfl⟩
        rintro ⟨-, -, some, -⟩
        simp [key] at some
      | some agentKeyEnc =>
        dsimp only
        split_ifs with refused lost
        · refine .inl ⟨?_, rfl⟩
          rintro ⟨-, -, -, inserted⟩
          rw [same, inserted] at refused
          exact absurd refused (by decide)
        all_goals
          have inserted : inserts world calls = true := by simpa [same] using refused
          refine .inr ⟨⟨there, answered, by simp [key], inserted⟩, ?_⟩
          exact ⟨rowOf calls connection accountId d1Id agentKeyEnc, d1Id, rfl, rfl, rfl, rfl⟩
    · rw [if_pos answered]
      refine .inl ⟨?_, rfl⟩
      rintro ⟨-, done, -⟩
      exact answered done

/-- What a creation makes is covered where each of it is. -/
theorem recorded_provisioned_iff {calls : CreateCalls} {accountId : String} (recorded : Recorded world) :
    Recorded (provisioned world calls accountId) ↔ calls.Spared world accountId := by
  simp only [CreateCalls.Spared, Recorded, provisioned, covered_append, recorded.1, recorded.2, true_and]
  rw [and_comm]
  apply and_congr
  · simp [Covered]
  · split_ifs with uploaded
    · rw [covered_singleton]
      exact ⟨fun named _ _ => named, fun named => named uploaded.1 uploaded.2⟩
    · exact iff_of_true .nil fun resolved takes => absurd ⟨resolved, takes⟩ uploaded

theorem recorded_completed {calls : CreateCalls} {accountId d1Id : String} (recorded : Recorded world)
    (free : world.nodes.get? calls.id = none) (resolved : calls.resolves = some d1Id)
    (worker : row.worker = (accountId, workerNameOf calls.suffix)) (database : row.database = (accountId, d1Id)) :
    Recorded { provisioned world calls accountId with nodes := world.nodes.alter calls.id fun _ => row } := by
  constructor
  · intro resource member
    rcases List.mem_append.mp member with old | new
    · exact (names_alter free).mpr (.inr (recorded.1 resource old))
    · split_ifs at new
      · obtain rfl := List.mem_singleton.mp new
        exact (names_alter free).mpr (.inl worker)
      · exact absurd new List.not_mem_nil
  · intro resource member
    rcases List.mem_append.mp member with old | new
    · exact (names_alter free).mpr (.inr (recorded.2 resource old))
    · obtain ⟨id, made, rfl⟩ := List.mem_map.mp new
      obtain rfl := CreateCalls.makes_eq (Option.mem_toList.mp made) resolved
      exact (names_alter free).mpr (.inl database)

theorem recorded_create_iff {calls : CreateCalls} (recorded : Recorded world) :
    Recorded (after world (.create calls)) ↔ Keeps world (.create calls) := by
  simp only [after, Keeps]
  cases bounds : boundary calls with
  | none => simp [createOmniNode, bounds, recorded]
  | some place =>
    obtain ⟨connection, accountId⟩ := place
    have keeps : (∀ other account, some (connection, accountId) = some (other, account) →
        calls.Completes world ∨ calls.Spared world account) ↔ calls.Completes world ∨ calls.Spared world accountId := by
      refine ⟨fun all => all connection accountId rfl, ?_⟩
      rintro holds _ _ ⟨⟩
      exact holds
    rw [keeps]
    rcases createOmniNode_cases world bounds with ⟨stops, ended⟩ | ⟨completes, row, d1Id, resolved, worker, database, ended⟩
    · rw [ended, recorded_provisioned_iff recorded]
      exact ⟨.inr, fun keeps => keeps.resolve_left stops⟩
    · rw [ended]
      refine iff_of_true ?_ (.inl completes)
      have free : world.nodes.get? calls.id = none := by
        have inserted := completes.2.2.2
        simp only [inserts, Bool.and_eq_true, Option.isNone_iff_eq_none] at inserted
        exact inserted.2
      exact recorded_completed recorded free resolved worker database

/-- Fewer resources over the same rows. -/
theorem Covered.filter (covered : Covered column nodes resources) (gone : Bool) :
    Covered column nodes (if gone then resources.filter (· ≠ resource) else resources) := by
  intro other member
  apply covered
  cases gone
  · exact member
  · exact List.mem_of_mem_filter member

theorem deleting_there {calls : DeleteCalls} (found : deleting world calls = some row) :
    world.nodes.get? calls.nodeId = some row := by
  unfold deleting at found
  split_ifs at found with answered
  exact (Option.filter_eq_some_iff.mp found).1

theorem recorded_delete_iff {calls : DeleteCalls} (recorded : Recorded world) :
    Recorded (after world (.delete calls)) ↔ Keeps world (.delete calls) := by
  simp only [after, Keeps, deleteOmniNodeFlow]
  cases found : deleting world calls with
  | none => simp [recorded]
  | some row =>
    have there := deleting_there found
    simp only [Option.some.injEq, forall_eq']
    by_cases removed : calls.deleteRow.takes = true
    · rw [if_neg (by simp [removed]), imp_iff_right removed]
      apply and_congr
      · exact covered_filter_iff recorded.1 there _
      · exact covered_filter_iff recorded.2 there _
    · rw [if_pos (by simpa using removed)]
      refine iff_of_true ⟨?_, ?_⟩ fun taken => absurd taken removed
      · exact recorded.1.filter _
      · exact recorded.2.filter _

end

/-- Over any sequence of flows, from rows that name all there is, every Worker and every database is named
after each of them just where each keeps to its condition. -/
theorem nodes_recorded_iff {source target : World} {events : List Flow} (run : flows.Run Free source events target)
    (initial : Recorded source) :
    (∀ first rest mid, events = first ++ rest → flows.Run Free source first mid → Recorded mid) ↔
      flows.Run Keeps source events target := by
  refine run.always_iff Keeps Recorded Recorded (fun _ recorded => recorded) ?_ initial
  intro world flow next recorded stepped
  obtain rfl : after world flow = next := Option.some.inj stepped
  have step : Recorded (after world flow) ↔ Keeps world flow := by
    cases flow with
    | create calls => exact recorded_create_iff recorded
    | delete calls => exact recorded_delete_iff recorded
  exact ⟨step, step.mpr⟩

/-- A creation in which no call fails. -/
def smooth : CreateCalls where
  principal := ⟨"tenant"⟩
  connection := some ⟨"connection", some "account"⟩
  token := some "token"
  suffix := "c0ffee"
  listing := some []
  creation := .made "database"
  upload := .done
  enable := .done
  subdomain := some "tenant"
  id := "node"
  agentKeyEnc := some "key"
  insert := .done
  audit := .done
  seed := fun _ => none

/-- A deletion in which no call fails. -/
def swift : DeleteCalls where
  principal := ⟨"tenant"⟩
  nodeId := "node"
  list := true
  connection := true
  token := true
  deleteWorker := .done
  deleteD1 := .done
  deleteRow := .done
  audit := .done

/-- A creation whose database is refused, one whose audit fails, and a deletion whose row stays and which is
asked for again. -/
def bumpy : List Flow :=
  [.create { smooth with creation := .refused }, .create { smooth with audit := .refused },
    .delete { swift with deleteWorker := .lost, deleteRow := .refused }, .delete swift]

theorem bumpy_flows_recorded : ∃ world, flows.Run Keeps {} bumpy world ∧
    (∀ first rest mid, bumpy = first ++ rest → flows.Run Free {} first mid → Recorded mid) ∧
    world.nodes.entries = [] ∧ world.workers = [] ∧ world.databases = [] := by
  have keeps : flows.Run Keeps {} bumpy _ :=
    .cons (fun _ _ _ => .inr ⟨nofun, nofun⟩) rfl
      (.cons (fun _ _ _ => .inl ⟨by decide, by decide, by decide, by decide⟩) rfl
        (.cons (fun _ _ taken => nomatch taken) rfl
          (.cons (fun _ _ _ => ⟨.inl (by decide), .inl (by decide)⟩) rfl (.nil _))))
  have run : flows.Run Free {} bumpy _ := keeps.mono fun _ _ _ => trivial
  exact ⟨_, keeps, (nodes_recorded_iff run ⟨.nil, .nil⟩).mpr keeps, by decide, by decide, by decide⟩

/-- A creation whose row is refused leaves a Worker and a database that no row names, and so does a deletion
whose two deletes are refused. -/
theorem nodes_unrecorded :
    let refused : Flow := .create { smooth with insert := .refused }
    let deletion : Flow := .delete
      { principal := ⟨"tenant"⟩, nodeId := "node", list := true, connection := true, token := true,
        deleteWorker := .refused, deleteD1 := .refused, deleteRow := .done, audit := .done }
    let created := after {} (.create smooth)
    (after {} refused).workers = [("account", "omni-c0ffee")] ∧ ¬ Recorded (after {} refused) ∧
    (after created deletion).databases = [("account", "database")] ∧ ¬ Recorded (after created deletion) := by
  intro refused deletion created
  have alone : (after {} refused).nodes.entries = [] := by decide
  have bare : (after created deletion).nodes.entries = [] := by decide
  refine ⟨by decide, ?_, by decide, ?_⟩
  · rintro ⟨workers, -⟩
    obtain ⟨id, row, there, -⟩ := workers ("account", "omni-c0ffee") (by decide)
    rw [OrderedMap.get?, alone] at there
    exact absurd there (by simp)
  · rintro ⟨workers, -⟩
    obtain ⟨id, row, there, -⟩ := workers ("account", "omni-c0ffee") (by decide)
    rw [OrderedMap.get?, bare] at there
    exact absurd there (by simp)

end OmniControlPlane.Deployment.Nodes
