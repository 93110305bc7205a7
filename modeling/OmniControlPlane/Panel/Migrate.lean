import Mathlib.Data.List.Nodup
import OmniControlPlane.Lib.Text
import OmniControlPlane.Lib.Typestate

/-! # Boot-time schema provisioning

An isolate that has not seen the schema complete lists the recorded versions and applies the migrations
that are missing, each in one batch that ends with the insert of its version. Two isolates that list the
versions before either applies one both apply it, and the insert of the second is refused.
-/

namespace OmniControlPlane.Panel.Migrate

open Lib Machine Task

structure Migration where
  v : ℕ
  name : String
  sql : String
deriving DecidableEq, Repr

/-- Numbered files, each with a number of its own. -/
structure Migrations where
  list : List Migration
  numbered : (list.map (·.v)).Nodup

def isComment (text : List Char) : Bool := "--".toList.isPrefixOf text

/-- Full-line comments are dropped, and what is left is cut at semicolons. -/
def splitStatements (sql : String) : List String :=
  let lines := (sql.toList.splitOn '\n').map fun line => if isComment (trim (String.ofList line)) then [] else line
  let statements := ((List.intercalate ['\n'] lines).splitOn ';').map fun text => trim (String.ofList text)
  (statements.filter fun statement => statement ≠ [] && !isComment statement).map String.ofList

/-- A row of `schema_meta`. -/
structure MetaRow where
  v : ℕ
  name : String
  applied_at : ℕ
deriving DecidableEq, Repr

/-- The database, and the isolates whose latch is set. `executed` are the statements of the migrations in the
order in which they took effect, and `applied` the migrations; no table has either. -/
structure Store where
  schema_meta : List MetaRow := []
  executed : List String := []
  applied : List Migration := []
  provisioned : List ℕ := []

def Store.versions (store : Store) : List ℕ := store.schema_meta.map (·.v)

/-- The recorded versions, and how many migrations had been applied when they were listed. No statement reads the latter. -/
structure Listed where
  versions : List ℕ
  seen : ℕ
deriving DecidableEq, Repr

inductive Command where
  | readLatch (isolate : ℕ)
  | createMeta
  | selectVersions
  | batch (migration : Migration) (seen : ℕ)
  | setLatch (isolate : ℕ)
deriving DecidableEq, Repr

abbrev Answer : Command → Type
  | .readLatch _ => Bool
  | .selectVersions => Listed
  | _ => Unit

inductive Failure where
  | uniqueConstraint
deriving DecidableEq, Repr

/-- One statement or one batch; `now` is what the isolate read. `v` is the primary key. -/
def exec (command : Command) (now : ℕ) (store : Store) : Option (Store × Except Failure (Answer command)) :=
  match command with
  | .readLatch isolate => some (store, .ok (decide (isolate ∈ store.provisioned)))
  | .createMeta => some (store, .ok ())
  | .selectVersions => some (store, .ok ⟨store.versions, store.applied.length⟩)
  | .batch migration _ =>
    if migration.v ∈ store.versions then some (store, .error .uniqueConstraint)
    else some ({ store with
      schema_meta := store.schema_meta ++ [⟨migration.v, migration.name, now⟩]
      executed := store.executed ++ splitStatements migration.sql
      applied := store.applied ++ [migration] }, .ok ())
  | .setLatch isolate => some ({ store with provisioned := isolate :: store.provisioned }, .ok ())

abbrev Async := Task Failure Answer

/-- Await one command. -/
abbrev await (command : Command) : Async (Answer command) := perform command

structure Outcome where
  applied : List ℕ
  skipped : Bool
deriving DecidableEq, Repr

/-- `for (const m of todo)` -/
def applyAll (seen : ℕ) : List Migration → Async Unit
  | [] => pure ()
  | m :: rest => do
    await (.batch m seen)
    applyAll seen rest

section

variable (migrations : Migrations)

def missing (recorded : List ℕ) : List Migration := migrations.list.filter fun m => m.v ∉ recorded

def ensureSchema (isolate : ℕ) : Async Outcome := do
  if ← await (.readLatch isolate) then return ⟨[], true⟩
  await .createMeta
  let listed ← await .selectVersions
  let todo := missing migrations listed.versions
  applyAll listed.seen todo
  await (.setLatch isolate)
  return ⟨todo.map (·.v), false⟩

/-- An operation is a call in an isolate. -/
def host : Host Failure Answer Outcome Store ℕ ℕ where
  program := ensureSchema migrations
  exec := exec
  spawns _ _ := []

abbrev World := Lib.World Failure Answer Outcome Store

abbrev Event := Lib.Event ℕ ℕ

/-! ## What must hold -/

/-- No call has begun, and every version is recorded once. -/
structure Cold (world : World) : Prop where
  tasks : world.tasks = []
  applied : world.store.applied = []
  latches : world.store.provisioned = []
  recorded : world.store.versions.Nodup

/-- From a database on, no call has failed, the missing migrations are applied once each and in their order, and they are all there
once a call has returned. -/
structure Provisioned (source : Store) (world : World) : Prop where
  noError : ∀ task ∈ world.tasks, task.failed = false
  inOrder : world.store.applied <+: missing migrations source.versions
  executed : world.store.executed = source.executed ++ world.store.applied.flatMap fun m => splitStatements m.sql
  complete : ∀ outcome, (Task.done outcome : Async Outcome) ∈ world.tasks →
    world.store.applied = missing migrations source.versions ∧ ∀ m ∈ migrations.list, world.store.versions.count m.v = 1

/-- No other call applies a migration between the moment a call lists the versions and its own batch of that migration. -/
def Unraced (world : World) : Event → Prop :=
  Host.Acting (fun command _ store => ∀ m seen, command = .batch m seen → m ∉ store.applied.drop seen) world

/-! ## The protocol -/

inductive Phase where
  | begun
  | applying (seen : ℕ) (todo : List Migration)
  | finished
  | failed
deriving DecidableEq, Repr

def Phase.allowed : Phase → Command → Prop
  | .begun, .readLatch _ | .begun, .createMeta | .begun, .selectVersions => True
  | .applying seen (m :: _), .batch migration since => migration = m ∧ since = seen
  | .applying _ [], .setLatch _ => True
  | _, _ => False

def Phase.next : Phase → (command : Command) → Except Failure (Answer command) → Phase
  | .begun, .readLatch _, .ok latched => if latched then .finished else .begun
  | .begun, .createMeta, .ok _ => .begun
  | .begun, .selectVersions, .ok listed => .applying listed.seen (missing migrations listed.versions)
  | .applying seen (_ :: rest), .batch .., .ok _ => .applying seen rest
  | .applying _ [], .setLatch _, .ok _ => .finished
  | _, _, _ => .failed

def provisioning : Protocol Failure Answer Phase := ⟨Phase.allowed, Phase.next migrations⟩

def Ends : Phase → Except Failure Outcome → Prop
  | .finished, .ok _ => True
  | .failed, .error _ => True
  | _, _ => False

theorem applyAll_follows (seen : ℕ) (todo : List Migration) : (applyAll seen todo).Follows (provisioning migrations) (fun
    | after, .ok _ => after = .applying seen []
    | after, .error _ => after = .failed) (.applying seen todo) := by
  induction todo with
  | nil => exact rfl
  | cons m todo ih => exact .after ⟨rfl, rfl⟩ (fun _ => ih) fun _ => rfl

theorem ensureSchema_follows (isolate : ℕ) :
    (ensureSchema migrations isolate).Follows (provisioning migrations) Ends .begun := by
  refine .after trivial (fun latched => ?_) fun _ => trivial
  cases latched with
  | true => exact trivial
  | false =>
    refine .after trivial (fun _ => .after trivial (fun listed => ?_) fun _ => trivial) fun _ => trivial
    refine (follows_bind _ _).mpr ((applyAll_follows migrations listed.seen (missing migrations listed.versions)).mono ?_)
    rintro _ (error | value) rfl
    · exact trivial
    · exact .after trivial (fun _ => trivial) fun _ => trivial

theorem host_plays : (host migrations).Plays (provisioning migrations) Ends (fun _ => .begun) fun _ _ => [] where
  program := ensureSchema_follows migrations
  spawns _ _ := .nil

end

/-! ## The invariant -/

section

variable {migrations : Migrations} {source store store' : Store} {held : List Phase} {command : Command} {now : ℕ}
  {phase : Phase} {reply : Except Failure (Answer command)}

/-- What a call in a phase knows: no migration that it still has to apply comes after one that it does not know applied, and
none was applied when it listed the versions. -/
def Knows (migrations : Migrations) (source store : Store) : Phase → Prop
  | .begun => True
  | .applying seen todo =>
    ∃ known, missing migrations source.versions = known ++ todo ∧ known <+: store.applied ∧ seen ≤ known.length
  | .finished => store.applied = missing migrations source.versions
  | .failed => False

structure Kept (migrations : Migrations) (source store : Store) (held : List Phase) : Prop where
  versions : store.versions = source.versions ++ store.applied.map (·.v)
  inOrder : store.applied <+: missing migrations source.versions
  executed : store.executed = source.executed ++ store.applied.flatMap fun m => splitStatements m.sql
  distinct : store.versions.Nodup
  latched : store.provisioned ≠ [] → store.applied = missing migrations source.versions
  knows : ∀ phase ∈ held, Knows migrations source store phase

theorem missing_numbered (recorded : List ℕ) : ((missing migrations recorded).map (·.v)).Nodup :=
  List.Nodup.sublist (List.filter_sublist.map _) migrations.numbered

/-- Where a part of the missing migrations is recorded, the rest is missing. -/
theorem missing_append {known rest : List Migration} {recorded : List ℕ}
    (parts : missing migrations recorded = known ++ rest) : missing migrations (recorded ++ known.map (·.v)) = rest := by
  have twice : missing migrations (recorded ++ known.map (·.v)) =
      (missing migrations recorded).filter fun m => m.v ∉ known.map (·.v) := by
    rw [missing, missing, List.filter_filter]
    apply List.filter_congr
    intro m _
    simp only [List.mem_append, not_or, Bool.decide_and, Bool.and_comm]
  have distinct : ((missing migrations recorded).map (·.v)).Nodup := missing_numbered recorded
  rw [parts, List.map_append, List.nodup_append] at distinct
  rw [twice, parts, List.filter_append]
  have first : known.filter (fun m => m.v ∉ known.map (·.v)) = [] :=
    List.filter_eq_nil_iff.mpr fun m member => by simpa using ⟨m, member, rfl⟩
  have second : rest.filter (fun m => m.v ∉ known.map (·.v)) = rest :=
    List.filter_eq_self.mpr fun m member => decide_eq_true fun recorded =>
      distinct.2.2 _ recorded _ (List.mem_map_of_mem member) rfl
  rw [first, second, List.nil_append]

/-- What a call knows stays true as more is applied. -/
theorem Knows.mono (knows : Knows migrations source store phase) (grows : store.applied <+: store'.applied)
    (inOrder : store'.applied <+: missing migrations source.versions) : Knows migrations source store' phase := by
  cases phase with
  | begun => trivial
  | applying seen todo =>
    obtain ⟨known, parts, applied, listed⟩ := knows
    exact ⟨known, parts, applied.trans grows, listed⟩
  | finished =>
    have all : store.applied = missing migrations source.versions := knows
    exact (inOrder.eq_of_length_le (all ▸ grows.length_le))
  | failed => exact knows.elim

theorem Kept.mem_versions {m : Migration} (kept : Kept migrations source store held) (applied : m ∈ store.applied) :
    m.v ∈ store.versions := by
  rw [kept.versions]
  exact List.mem_append_right _ (List.mem_map_of_mem applied)

/-- A migration that was missing when its call listed the versions is not recorded before it is applied. -/
theorem unrecorded_of_unraced {m : Migration} {seen : ℕ} {todo : List Migration} (kept : Kept migrations source store held)
    (knows : Knows migrations source store (.applying seen (m :: todo))) (unraced : m ∉ store.applied.drop seen) :
    m.v ∉ store.versions := by
  obtain ⟨known, parts, ⟨more, extended⟩, listed⟩ := knows
  have distinct : ((missing migrations source.versions).map (·.v)).Nodup := missing_numbered source.versions
  have mine : m ∈ missing migrations source.versions := parts ▸ List.mem_append_right _ List.mem_cons_self
  rw [kept.versions, List.mem_append]
  rintro (recorded | applied)
  · exact absurd recorded (of_decide_eq_true (List.mem_filter.mp mine).2)
  · obtain ⟨other, among, same⟩ := List.mem_map.mp applied
    obtain rfl : other = m := List.inj_on_of_nodup_map distinct (kept.inOrder.subset among) mine same
    rw [← List.take_append_drop seen store.applied, List.mem_append] at among
    refine among.elim (fun early => ?_) unraced
    -- what had been applied by the listing is not among what the call still has to apply
    rw [← extended, List.take_append_of_le_length listed] at early
    rw [parts, List.map_append, List.nodup_append] at distinct
    exact distinct.2.2 _ (List.mem_map_of_mem (List.mem_of_mem_take early)) _ (List.mem_map_of_mem List.mem_cons_self) rfl

/-- The migration that a call applies next is the next one of all, if it is not recorded. -/
theorem next_applied {m : Migration} {seen : ℕ} {todo : List Migration} (kept : Kept migrations source store held)
    (knows : Knows migrations source store (.applying seen (m :: todo))) (unrecorded : m.v ∉ store.versions) :
    missing migrations source.versions = store.applied ++ m :: todo := by
  obtain ⟨known, parts, applied, -⟩ := knows
  obtain ⟨rest, split⟩ := kept.inOrder
  obtain ⟨more, extended⟩ := applied
  rw [parts, ← extended, List.append_assoc, List.append_cancel_left_eq] at split
  cases more with
  | nil => rw [parts, ← extended, List.append_nil]
  | cons first more =>
    obtain ⟨rfl, -⟩ := List.cons.inj split
    exact absurd (kept.mem_versions (extended ▸ List.mem_append_right _ List.mem_cons_self)) unrecorded

/-- A step that leaves the tables alone keeps the invariant, if its call knows what its next phase says. -/
theorem Kept.quiet {position : ℕ} {after : Phase} (kept : Kept migrations source store held)
    (knows : Knows migrations source store after) : Kept migrations source store (held.set position after ++ []) :=
  { kept with
    knows := fun phase member => by
      rcases Host.mem_set_append member with rfl | old | none
      · exact knows
      · exact kept.knows phase old
      · exact absurd none List.not_mem_nil }

theorem kept_step {position : ℕ} (kept : Kept migrations source store held) (atHeld : held[position]? = some phase)
    (called : (provisioning migrations).allowed phase command)
    (unraced : ∀ m seen, command = .batch m seen → m ∉ store.applied.drop seen)
    (executed : exec command now store = some (store', reply)) :
    Kept migrations source store' (held.set position ((provisioning migrations).next phase command reply) ++ []) := by
  have knows := kept.knows phase (List.mem_of_getElem? atHeld)
  cases command with
  | readLatch isolate =>
    obtain ⟨rfl, rfl⟩ := Prod.mk.inj (Option.some.inj executed)
    cases phase with
    | begun =>
      apply kept.quiet
      by_cases latched : isolate ∈ store.provisioned
      · have next : (provisioning migrations).next .begun (.readLatch isolate) (.ok (decide (isolate ∈ store.provisioned))) =
            .finished := if_pos (decide_eq_true latched)
        rw [next]
        exact kept.latched (List.ne_nil_of_mem latched)
      · have next : (provisioning migrations).next .begun (.readLatch isolate) (.ok (decide (isolate ∈ store.provisioned))) =
            .begun := if_neg (by simpa using latched)
        rw [next]
        trivial
    | applying seen todo => cases todo <;> exact called.elim
    | _ => exact called.elim
  | createMeta =>
    obtain ⟨rfl, rfl⟩ := Prod.mk.inj (Option.some.inj executed)
    cases phase with
    | begun => exact kept.quiet trivial
    | applying seen todo => cases todo <;> exact called.elim
    | _ => exact called.elim
  | selectVersions =>
    obtain ⟨rfl, rfl⟩ := Prod.mk.inj (Option.some.inj executed)
    cases phase with
    | begun =>
      -- What is missing now is what is left of the missing migrations after those that were applied.
      obtain ⟨rest, parts⟩ := kept.inOrder
      have left : missing migrations store.versions = rest := by
        rw [kept.versions]
        exact missing_append parts.symm
      refine kept.quiet ⟨store.applied, ?_, List.prefix_rfl, Nat.le_refl _⟩
      rw [left, parts]
    | applying seen todo => cases todo <;> exact called.elim
    | _ => exact called.elim
  | batch m since =>
    cases phase with
    | applying seen todo =>
      cases todo with
      | nil => exact called.elim
      | cons first rest =>
        obtain ⟨rfl, rfl⟩ : m = first ∧ since = seen := called
        have unrecorded := unrecorded_of_unraced kept knows (unraced m since rfl)
        rw [exec, if_neg unrecorded] at executed
        obtain ⟨rfl, rfl⟩ := Prod.mk.inj (Option.some.inj executed)
        have next := next_applied kept knows unrecorded
        have prefixed : store.applied ++ [m] <+: missing migrations source.versions :=
          ⟨rest, by rw [next, List.append_assoc, List.singleton_append]⟩
        have grown : Store.versions { store with
            schema_meta := store.schema_meta ++ [⟨m.v, m.name, now⟩]
            executed := store.executed ++ splitStatements m.sql
            applied := store.applied ++ [m] } = store.versions ++ [m.v] := List.map_append
        refine ⟨?_, prefixed, ?_, ?_, fun latched => ?_, fun phase member => ?_⟩
        · rw [grown, List.map_append, ← List.append_assoc, ← kept.versions, List.map_singleton]
        · simp only [List.flatMap_append, List.flatMap_singleton, ← List.append_assoc, kept.executed]
        · rw [grown, List.nodup_append]
          refine ⟨kept.distinct, by simp, fun version old other new same => unrecorded ?_⟩
          rw [← List.mem_singleton.mp new, ← same]
          exact old
        · have all := kept.latched latched
          rw [all] at next
          exact absurd (List.self_eq_append_right.mp next) (List.cons_ne_nil m rest)
        · rcases Host.mem_set_append member with rfl | old | none
          · have bound : since ≤ (store.applied ++ [m]).length := by
              obtain ⟨known, -, applied, listed⟩ := knows
              exact (listed.trans applied.length_le).trans (List.prefix_append _ _).length_le
            exact ⟨store.applied ++ [m], by rw [next, List.append_assoc, List.singleton_append], List.prefix_rfl, bound⟩
          · exact (kept.knows phase old).mono (List.prefix_append _ _) prefixed
          · exact absurd none List.not_mem_nil
    | _ => exact called.elim
  | setLatch isolate =>
    cases phase with
    | applying seen todo =>
      cases todo with
      | nil =>
        obtain ⟨rfl, rfl⟩ := Prod.mk.inj (Option.some.inj executed)
        obtain ⟨known, parts, applied, -⟩ := knows
        rw [List.append_nil] at parts
        have all : store.applied = missing migrations source.versions :=
          kept.inOrder.eq_of_length_le (parts ▸ applied.length_le)
        have quiet : Kept migrations source store (held.set position .finished ++ []) := kept.quiet all
        exact ⟨quiet.versions, quiet.inOrder, quiet.executed, quiet.distinct, fun _ => all,
          fun phase member => (quiet.knows phase member).mono List.prefix_rfl quiet.inOrder⟩
      | cons m rest => exact called.elim
    | _ => exact called.elim

/-- The calls of a world, and what they know of it. -/
def Sound (migrations : Migrations) (source : Store) (world : World) : Prop :=
  ∃ held, Host.Held (provisioning migrations) Ends held world ∧ Kept migrations source world.store held

theorem sound_cold {world : World} (cold : Cold world) : Sound migrations world.store world := by
  refine ⟨[], ?_, ?_⟩
  · rw [Host.Held, cold.tasks]
    exact .nil
  · refine ⟨by simp [cold.applied], by simp [cold.applied], by simp [cold.applied], cold.recorded, fun latched => ?_, nofun⟩
    exact absurd cold.latches latched

/-- A run under the condition keeps what the calls know. -/
theorem sound_run {world world' : World} {events : List Event} (sound : Sound migrations source world)
    (run : (host migrations).machine.Run Unraced world events world') : Sound migrations source world' := by
  refine (host_plays migrations).preserves (Kept migrations source) ?_ ?_ run sound
  · intro world held operation _ kept _
    refine { kept with knows := fun phase member => ?_ }
    rcases List.mem_append.mp member with old | new
    · exact kept.knows phase old
    · rw [List.mem_singleton.mp new]
      trivial
  · intro world held position now task command store reply phase _ kept unraced atPosition awaited atHeld called executed
    refine kept_step kept atHeld called ?_ executed
    exact unraced.of_awaits atPosition awaited

theorem provisioned_of_sound {world : World} (sound : Sound migrations source world) : Provisioned migrations source world := by
  obtain ⟨held, holds, kept⟩ := sound
  refine ⟨fun task member => ?_, kept.inOrder, kept.executed, fun outcome member => ?_⟩
  · obtain ⟨position, atPosition⟩ := List.mem_iff_getElem?.mp member
    obtain ⟨phase, atHeld, follows⟩ := holds.at atPosition
    apply failed_eq_false
    rintro error rfl
    have knows := kept.knows phase (List.mem_of_getElem? atHeld)
    cases phase with
    | failed => exact knows
    | _ => exact follows
  · obtain ⟨position, atPosition⟩ := List.mem_iff_getElem?.mp member
    obtain ⟨phase, atHeld, follows⟩ := holds.at atPosition
    have knows := kept.knows phase (List.mem_of_getElem? atHeld)
    cases phase with
    | finished =>
      refine ⟨knows, fun m inList => ?_⟩
      have all : world.store.applied = missing migrations source.versions := knows
      rw [kept.distinct.count]
      apply if_pos
      rw [kept.versions, all, List.mem_append]
      by_cases recorded : m.v ∈ source.versions
      · exact .inl recorded
      · exact .inr (List.mem_map_of_mem (List.mem_filter.mpr ⟨inList, decide_eq_true recorded⟩))
    | _ => exact (show False from follows).elim

/-- A migration that another call has applied since the versions were listed fails. -/
theorem failed_of_raced {world world' : World} {event : Event} (sound : Sound migrations source world)
    (stepped : (host migrations).machine.step? world event = some world') (raced : ¬ Unraced world event) :
    ∃ task ∈ world'.tasks, task.failed = true := by
  obtain ⟨held, holds, kept⟩ := sound
  cases event with
  | start isolate => exact absurd trivial raced
  | act position now =>
    obtain ⟨command, next, store, reply, atPosition, executed, rfl⟩ := Host.step?_act_iff.mp stepped
    obtain ⟨phase, -, called, follows⟩ := holds.at atPosition
    have executed : exec command now world.store = some (store, reply) := executed
    rw [Unraced, Host.acting_iff atPosition] at raced
    obtain ⟨m, seen, rfl, applied⟩ : ∃ m seen, command = .batch m seen ∧ m ∈ world.store.applied.drop seen := by
      simpa using raced
    rw [exec, if_pos (kept.mem_versions (List.mem_of_mem_drop applied))] at executed
    obtain ⟨rfl, rfl⟩ := Prod.mk.inj (Option.some.inj executed)
    have ended := follows (.error .uniqueConstraint)
    have failed : (provisioning migrations).next phase (.batch m seen) (.error .uniqueConstraint) = .failed := by
      cases phase with
      | applying since todo => cases todo <;> rfl
      | _ => rfl
    rw [failed] at ended
    refine ⟨next (.error .uniqueConstraint), List.mem_of_getElem? (Host.getElem?_set_append_self atPosition _ _), ?_⟩
    cases resumed : next (.error .uniqueConstraint) with
    | fail error => rfl
    | done value =>
      rw [resumed] at ended
      exact ended.elim
    | call command rest =>
      rw [resumed] at ended
      exact ended.1.elim

/-- Provisioning works in every state of a run exactly when no call applies a migration that another one has applied since
it listed the versions. -/
theorem provisioned_iff {world world' : World} {events : List Event} (cold : Cold world)
    (run : (host migrations).machine.Run Free world events world') :
    (∀ first rest mid, events = first ++ rest → (host migrations).machine.Run Free world first mid →
      Provisioned migrations world.store mid) ↔ (host migrations).machine.Run Unraced world events world' := by
  refine Run.always_iff Unraced (Sound migrations world.store) (Provisioned migrations world.store)
    (fun _ => provisioned_of_sound) ?_ run (sound_cold cold)
  intro before event after sound stepped
  have keeps (unraced : Unraced before event) : Sound migrations world.store after :=
    sound_run sound (.cons unraced stepped (.nil after))
  refine ⟨⟨fun provisioned => ?_, fun unraced => provisioned_of_sound (keeps unraced)⟩, keeps⟩
  by_contra raced
  obtain ⟨task, member, failed⟩ := failed_of_raced sound stepped raced
  exact Bool.false_ne_true ((provisioned.noError task member).symm.trans failed)

end

namespace Sample

def migrations : Migrations where
  list := [⟨1, "0001_init", "-- the users\nCREATE TABLE IF NOT EXISTS users (id INTEGER);\nCREATE INDEX i ON users (id);\n"⟩]
  numbered := by decide

def cold : World := ⟨{}, []⟩

/-- Two isolates; the second begins when the first has ended. -/
def successive : List Event := .start 0 :: List.replicate 5 (.act 0 1000) ++ .start 1 :: List.replicate 4 (.act 1 2000)

/-- Two isolates that both list the versions first. -/
def concurrent : List Event := .start 0 :: .start 1 :: List.replicate 3 (.act 0 1000) ++ List.replicate 3 (.act 1 1000) ++
  ([.act 0 1000, .act 1 1000] : List Event)

end Sample

instance (world : World) (event : Event) : Decidable (Unraced world event) :=
  match event with
  | .start _ => .isTrue trivial
  | .act position _ =>
    match found : world.tasks[position]? with
    | some (.call (.batch m seen) next) => decidable_of_iff (m ∉ world.store.applied.drop seen) (by
        rw [Unraced, Host.acting_iff found]
        simp)
    | some (.call (.readLatch _) _) | some (.call .createMeta _) | some (.call .selectVersions _)
    | some (.call (.setLatch _) _) => .isTrue (by
        intro command next same
        cases found.symm.trans same
        exact nofun)
    | some (.done _) | some (.fail _) | none => .isTrue (by
        intro command next same
        exact nomatch found.symm.trans same)

/-- The second isolate finds nothing to do. -/
theorem provisioned_iff_successive : ∃ world, (host Sample.migrations).machine.Run Free Sample.cold Sample.successive world ∧
    world.store.versions = [1] ∧ Provisioned Sample.migrations Sample.cold.store world := by
  have evaluated : ((host Sample.migrations).machine.checked? (fun world event => decide (Unraced world event)) Sample.cold
      Sample.successive).any (fun world => world.store.versions = [1]) = true := by decide +kernel
  obtain ⟨world, replayed, recorded⟩ := (Option.any_eq_true _ _).mp evaluated
  have unraced : (host Sample.migrations).machine.Run Unraced Sample.cold Sample.successive world :=
    Run.of_checked (fun _ _ => of_decide_eq_true) replayed
  have run := unraced.mono fun _ _ _ => trivial
  have cold : Cold Sample.cold := ⟨rfl, rfl, rfl, List.nodup_nil⟩
  exact ⟨world, run, of_decide_eq_true recorded, (provisioned_iff cold run).mpr unraced _ [] world (List.append_nil _).symm run⟩

/-- The second isolate applies the migration again, and fails. -/
theorem provisioned_twice : ∃ world, (host Sample.migrations).machine.Run Free Sample.cold Sample.concurrent world ∧
    ¬ Provisioned Sample.migrations Sample.cold.store world := by
  have evaluated : ((host Sample.migrations).machine.replay? Sample.cold Sample.concurrent).any
      (fun world => world.tasks.any (·.failed)) = true := by decide +kernel
  obtain ⟨world, replayed, failed⟩ := (Option.any_eq_true _ _).mp evaluated
  obtain ⟨task, member, failed⟩ := List.any_eq_true.mp failed
  refine ⟨world, Run.free_iff_replay.mpr replayed, fun provisioned => ?_⟩
  exact Bool.false_ne_true ((provisioned.noError task member).symm.trans failed)

end OmniControlPlane.Panel.Migrate
