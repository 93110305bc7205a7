import OmniControlPlane.Lib.Typestate
import OmniControlPlane.Panel.Api
import OmniControlPlane.Panel.Sessions

/-! # The signing key without a secret

Where `SECRET` is not set, an isolate draws a key, stores it unless one is stored, and reads back the one that is.
Isolates do this in any order, several calls at once in each, while other requests write other settings.
-/

namespace OmniControlPlane.Panel.Auth.SigningKey

open Lib Machine Task

def KEY_ROW : String := "signing_key"

/-- The table, and what the isolates have cached. -/
structure Store where
  settings : SettingsTable := .empty
  cached : OrderedMap ℕ String := .empty

def Store.row (store : Store) : Option SettingRow := store.settings.get? KEY_ROW

/-- The writers of `settings` beside `signingKey`, and `importBackup`, which writes none of it. -/
inductive Writer where
  | putSettings (body : OrderedMap String JsonValue)
  | setup (hash username : String)
  | changePassword (hash : String)
  | recover (hash : String)
  | importBackup

/-- What a writer hands to `Settings.set`, once its checks have passed. -/
def Writer.entries (now : ℕ) : Writer → List (String × String)
  | .putSettings body => settingsPatch body
  | .setup hash username => [("admin_hash", hash), ("admin_user", username), ("installed_at", toString now),
      ("core_version", CORE_VERSION)]
  | .changePassword hash | .recover hash => [("admin_hash", hash)]
  | .importBackup => []

/-- The calls; what an isolate does to its cache is one, too. -/
inductive Command where
  | readCache (isolate : ℕ)
  | insertKey
  | selectKey
  | writeCache (isolate : ℕ) (key : String)
  | setSettings (writer : Writer)

abbrev Answer : Command → Type
  | .readCache _ => Option String
  | .selectKey => Option String
  | _ => Unit

inductive Failure where
  | error (message : String)
deriving DecidableEq, Repr

/-- The time that is read, and the key that `newKey` draws. -/
structure Choice where
  now : ℕ
  candidate : String
  nonempty : candidate ≠ ""

def effect (choice : Choice) (store : Store) : Command → Store
  | .insertKey =>
    { store with settings := store.settings.alter KEY_ROW fun old => old.getD ⟨choice.candidate, choice.now⟩ }
  | .writeCache isolate key => { store with cached := store.cached.alter isolate fun _ => key }
  | .setSettings writer => { store with settings := (Settings.set {} store.settings (writer.entries choice.now) choice.now).2.1 }
  | _ => store

def answer (store : Store) : (command : Command) → Answer command
  | .readCache isolate => store.cached.get? isolate
  | .selectKey => store.row.map (·.value)
  | .insertKey | .writeCache .. | .setSettings _ => ()

def exec (command : Command) (choice : Choice) (store : Store) : Option (Store × Except Failure (Answer command)) :=
  some (effect choice store command, .ok (answer store command))

abbrev Async := Task Failure Answer

/-- Await one command. -/
abbrev await (command : Command) : Async (Answer command) := perform command

def signingKey (isolate : ℕ) : Async String := do
  match ← await (.readCache isolate) with
  | some key => return key
  | none =>
    await .insertKey
    let row ← await .selectKey
    throwIf (row.getD "" = "") (.error "could not establish a session signing key")
    await (.writeCache isolate (row.getD ""))
    return row.getD ""

inductive Operation where
  | signingKey (isolate : ℕ)
  | write (writer : Writer)

/-- What an operation returns is the key, if it is asked for one. -/
def program : Operation → Async (Option String)
  | .signingKey isolate => do return some (← signingKey isolate)
  | .write writer => do
    await (.setSettings writer)
    return none

def host : Host Failure Answer (Option String) Store Choice Operation where
  program := program
  exec := exec
  spawns _ _ := []

abbrev World := Lib.World Failure Answer (Option String) Store

abbrev Event := Lib.Event Operation Choice

/-- A call of `signingKey` that has returned a key. -/
def World.Returned (world : World) (key : String) : Prop := (Task.done (some key) : Async (Option String)) ∈ world.tasks

/-! ## The protocol -/

inductive Phase where
  | asking
  | inserted
  | knows (key : String)
  | refused
  | writing
  | written
deriving DecidableEq, Repr

def Phase.allowed : Phase → Command → Prop
  | .asking, .readCache _ | .asking, .insertKey => True
  | .inserted, .selectKey => True
  | .knows key, .writeCache _ cached => cached = key
  | .writing, .setSettings _ => True
  | _, _ => False

def Phase.next : Phase → (command : Command) → Except Failure (Answer command) → Phase
  | .asking, .readCache _, .ok cached => cached.elim .asking .knows
  | .asking, .insertKey, .ok _ => .inserted
  | .inserted, .selectKey, .ok row => if row.getD "" = "" then .refused else .knows (row.getD "")
  | .knows key, .writeCache _ _, .ok _ => .knows key
  | .writing, .setSettings _, .ok _ => .written
  | _, _, _ => .refused

def converging : Protocol Failure Answer Phase := ⟨Phase.allowed, Phase.next⟩

def Ends : Phase → Except Failure (Option String) → Prop
  | .knows key, .ok returned => returned = some key
  | .written, .ok returned => returned = none
  | .refused, .error _ => True
  | _, _ => False

def begins : Operation → Phase
  | .signingKey _ => .asking
  | .write _ => .writing

theorem program_follows (operation : Operation) : (program operation).Follows converging Ends (begins operation) := by
  cases operation with
  | write writer => exact .after trivial (fun _ => rfl) fun _ => trivial
  | signingKey isolate =>
    refine (follows_bind _ _).mpr ?_
    refine .after trivial (fun cached => ?_) fun _ => trivial
    cases cached with
    | some key => exact rfl
    | none =>
      refine .after trivial (fun _ => .after trivial (fun row => ?_) fun _ => trivial) fun _ => trivial
      change Follows converging _ (if row.getD "" = "" then .refused else .knows (row.getD "")) _
      by_cases empty : row.getD "" = ""
      · rw [throwIf, if_pos empty, if_pos empty]
        exact trivial
      · rw [throwIf_kept empty, if_neg empty]
        exact .after rfl (fun _ => rfl) fun _ => trivial

theorem host_plays : host.Plays converging Ends begins fun _ _ => [] where
  program := program_follows
  spawns _ _ := .nil

/-! ## The row -/

section

variable {store store' : Store} {command : Command} {choice : Choice} {held : List Phase} {phase : Phase}
  {reply : Except Failure (Answer command)}

/-- No writer writes the key. -/
theorem ne_key_of_written {writer : Writer} {now : ℕ} {entry : String × String} (written : entry ∈ writer.entries now) :
    entry.1 ≠ KEY_ROW := by
  cases writer with
  | putSettings body =>
    obtain ⟨old, listed, rfl⟩ := List.mem_map.mp written
    have allowed : old.1 ∈ ALLOWED_KEYS := by simpa using (List.mem_filter.mp listed).2
    have apart : KEY_ROW ∉ ALLOWED_KEYS := by decide
    exact fun same => apart (same ▸ allowed)
  | importBackup => exact absurd written List.not_mem_nil
  | setup hash username =>
    simp only [Writer.entries, List.mem_cons, List.not_mem_nil, or_false] at written
    rcases written with rfl | rfl | rfl | rfl
    · exact (by decide : "admin_hash" ≠ KEY_ROW)
    · exact (by decide : "admin_user" ≠ KEY_ROW)
    · exact (by decide : "installed_at" ≠ KEY_ROW)
    · exact (by decide : "core_version" ≠ KEY_ROW)
  | changePassword hash | recover hash =>
    rw [List.mem_singleton.mp written]
    exact (by decide : "admin_hash" ≠ KEY_ROW)

theorem row_setSettings (writer : Writer) : (effect choice store (.setSettings writer)).row = store.row := by
  have others := fun entry written => @ne_key_of_written writer choice.now entry written
  change OrderedMap.get? (((writer.entries choice.now).foldl (fun table entry =>
    table.alter entry.1 fun _ => (⟨entry.2, choice.now⟩ : SettingRow)) store.settings)) KEY_ROW = _
  rw [Store.row]
  generalize writer.entries choice.now = entries at others
  generalize store.settings = settings
  induction entries generalizing settings with
  | nil => rfl
  | cons entry rest ih =>
    rw [List.foldl_cons, ih (fun entry member => others entry (List.mem_cons_of_mem _ member)), OrderedMap.get?_alter,
      if_neg fun same => others entry List.mem_cons_self same.symm]

theorem row_insertKey : (effect choice store .insertKey).row = some (store.row.getD ⟨choice.candidate, choice.now⟩) := by
  rw [Store.row, effect, OrderedMap.get?_alter, if_pos rfl]
  rfl

/-- A row that is there stays as it is. -/
theorem row_kept {row : SettingRow} (stored : store.row = some row) : (effect choice store command).row = some row := by
  cases command with
  | insertKey => rw [row_insertKey, stored, Option.getD_some]
  | setSettings writer => rw [row_setSettings, stored]
  | _ => exact stored

/-! ## The invariant -/

/-- What a call in a phase knows of the row. -/
def Knows (store : Store) : Phase → Prop
  | .inserted => store.row.isSome
  | .knows key => key ≠ "" ∧ store.row.map (·.value) = some key
  | .refused => store.row.map (·.value) = some ""
  | _ => True

structure Kept (store : Store) (held : List Phase) : Prop where
  cached : ∀ isolate key, store.cached.get? isolate = some key → Knows store (.knows key)
  knows : ∀ phase ∈ held, Knows store phase

theorem Knows.mono (knows : Knows store phase) (kept : ∀ row, store.row = some row → store'.row = some row) :
    Knows store' phase := by
  cases phase with
  | inserted =>
    obtain ⟨row, stored⟩ := Option.isSome_iff_exists.mp knows
    exact Option.isSome_iff_exists.mpr ⟨row, kept row stored⟩
  | knows key =>
    obtain ⟨row, stored, rfl⟩ := Option.map_eq_some_iff.mp knows.2
    refine ⟨knows.1, ?_⟩
    rw [kept row stored]
    rfl
  | refused =>
    obtain ⟨row, stored, empty⟩ := Option.map_eq_some_iff.mp (show store.row.map (·.value) = some "" from knows)
    change store'.row.map (·.value) = some ""
    rw [kept row stored, Option.map_some, empty]
  | _ => trivial

theorem kept_step {position : ℕ} (kept : Kept store held) (atHeld : held[position]? = some phase)
    (called : converging.allowed phase command) (executed : exec command choice store = some (store', reply)) :
    Kept store' (held.set position (converging.next phase command reply) ++ []) := by
  obtain ⟨rfl, rfl⟩ := Prod.mk.inj (Option.some.inj executed)
  have rows : ∀ row, store.row = some row → (effect choice store command).row = some row := fun _ => row_kept
  have moved (next : Knows (effect choice store command) (converging.next phase command (.ok (answer store command)))) :
      ∀ other ∈ held.set position (converging.next phase command (.ok (answer store command))) ++ [],
        Knows (effect choice store command) other := by
    intro other member
    rcases Host.mem_set_append member with rfl | old | none
    · exact next
    · exact (kept.knows other old).mono rows
    · exact absurd none List.not_mem_nil
  have caches (same : (effect choice store command).cached = store.cached) (isolate : ℕ) (key : String)
      (found : (effect choice store command).cached.get? isolate = some key) :
      Knows (effect choice store command) (.knows key) :=
    (kept.cached isolate key (same ▸ found)).mono rows
  have knows := kept.knows phase (List.mem_of_getElem? atHeld)
  cases command with
  | readCache isolate =>
    cases phase with
    | asking =>
      refine ⟨caches rfl, moved ?_⟩
      change Knows store ((store.cached.get? isolate).elim .asking .knows)
      cases found : store.cached.get? isolate with
      | none => trivial
      | some key => exact kept.cached isolate key found
    | _ => exact called.elim
  | insertKey =>
    cases phase with
    | asking =>
      refine ⟨caches rfl, moved ?_⟩
      change (effect choice store .insertKey).row.isSome
      rw [row_insertKey]
      rfl
    | _ => exact called.elim
  | selectKey =>
    cases phase with
    | inserted =>
      refine ⟨caches rfl, moved ?_⟩
      obtain ⟨row, stored⟩ := Option.isSome_iff_exists.mp knows
      have read : store.row.map (·.value) = some row.value := by rw [stored]; rfl
      change Knows store (if (store.row.map (·.value)).getD "" = "" then .refused else .knows ((store.row.map (·.value)).getD ""))
      rw [read, Option.getD_some]
      split
      · next empty =>
        rw [empty] at read
        exact read
      · next nonempty => exact ⟨nonempty, read⟩
    | _ => exact called.elim
  | writeCache isolate key =>
    cases phase with
    | knows known =>
      obtain rfl : key = known := called
      refine ⟨fun other cached found => ?_, moved knows⟩
      rw [effect, OrderedMap.get?_alter] at found
      split at found
      · obtain rfl := Option.some.inj found
        exact knows
      · exact kept.cached other cached found
    | _ => exact called.elim
  | setSettings writer =>
    cases phase with
    | writing => exact ⟨caches rfl, moved trivial⟩
    | _ => exact called.elim

end

/-- The calls of a world, and what they know. -/
def Sound (world : World) : Prop := ∃ held, Host.Held converging Ends held world ∧ Kept world.store held

theorem sound_run {world world' : World} {events : List Event} (sound : Sound world)
    (run : host.machine.Run Free world events world') : Sound world' := by
  refine host_plays.preserves Kept ?_ ?_ run sound
  · intro world held operation _ kept _
    refine { kept with knows := fun phase member => ?_ }
    rcases List.mem_append.mp member with old | new
    · exact kept.knows phase old
    · rw [List.mem_singleton.mp new]
      cases operation <;> trivial
  · intro world held position choice task command store reply phase _ kept _ _ _ atHeld called executed
    exact kept_step kept atHeld called executed

theorem row_run {world world' : World} {events : List Event} (run : host.machine.Run Free world events world')
    {row : SettingRow} (stored : world.store.row = some row) : world'.store.row = some row := by
  refine run.preserves (fun world => world.store.row = some row) ?_ stored
  intro world event world' stored _ stepped
  cases event with
  | start operation =>
    rw [Host.step?_start, Option.some.injEq] at stepped
    exact stepped ▸ stored
  | act position choice =>
    obtain ⟨command, next, store, reply, -, executed, rfl⟩ := Host.step?_act_iff.mp stepped
    obtain ⟨rfl, -⟩ := Prod.mk.inj (Option.some.inj executed)
    exact row_kept stored

/-! ## Convergence -/

/-- Every call returns the key that is stored, and one fails only where what is stored is no key. -/
structure Converged (world : World) : Prop where
  stored : ∀ key, World.Returned world key → world.store.row.map (·.value) = some key
  agree : ∀ one other, World.Returned world one → World.Returned world other → one = other
  failed : ∀ task ∈ world.tasks, task.failed = true → world.store.row.map (·.value) = some ""

theorem converged_of_sound {world : World} (sound : Sound world) : Converged world := by
  obtain ⟨held, holds, kept⟩ := sound
  have stored (key : String) (returned : World.Returned world key) : world.store.row.map (·.value) = some key := by
    obtain ⟨position, atPosition⟩ := List.mem_iff_getElem?.mp returned
    obtain ⟨phase, atHeld, follows⟩ := holds.at atPosition
    have knows := kept.knows phase (List.mem_of_getElem? atHeld)
    cases phase with
    | knows known =>
      obtain rfl : key = known := Option.some.inj follows
      exact knows.2
    | written => exact nomatch (show some key = none from follows)
    | _ => exact (show False from follows).elim
  refine ⟨stored, fun one other first second => ?_, fun task member failed => ?_⟩
  · exact Option.some.inj ((stored one first).symm.trans (stored other second))
  · obtain ⟨position, atPosition⟩ := List.mem_iff_getElem?.mp member
    obtain ⟨phase, atHeld, follows⟩ := holds.at atPosition
    have knows := kept.knows phase (List.mem_of_getElem? atHeld)
    cases task with
    | fail error =>
      cases phase with
      | refused => exact knows
      | _ => exact (show False from follows).elim
    | done value => contradiction
    | call command next => contradiction

/-- A platform that signs with a key. -/
def signsWith (platform : Platform) (key : String) : Platform := { platform with signingKey := key }

/-- In every run all calls return one key, the row stays as it is once it is there, and a cookie that is signed with what one
call returned is accepted with what another returned, as long as its session stands. -/
theorem signing_keys_converge (platform : Platform) {settings : SettingsTable} {events : List Event} {world : World}
    (run : host.machine.Run Free ⟨{ settings := settings }, []⟩ events world) : Converged world ∧
      (∀ first rest mid row, events = first ++ rest → host.machine.Run Free ⟨{ settings := settings }, []⟩ first mid →
        mid.store.row = some row → world.store.row = some row) ∧
      ∀ one other, World.Returned world one → World.Returned world other →
        ∀ (sessions : Sessions) (id : String) (session standing : SessionRow) (now : ℕ),
          sessions.get? id = some standing → now < standing.expires_at → 0 < session.expires_at → now ≤ session.expires_at →
          verifySession (signsWith platform other) sessions (cookieHeader ((signsWith platform one).token id session)) now =
            some ⟨id, some session.subject, some session.role⟩ := by
  have initial : Sound ⟨{ settings := settings }, []⟩ := ⟨[], .nil, nofun, nofun⟩
  have converged := converged_of_sound (sound_run initial run)
  refine ⟨converged, fun first rest mid row split reached stored => ?_, ?_⟩
  · rw [split] at run
    obtain ⟨mid', before, after⟩ := Run.append_iff.mp run
    obtain rfl : mid = mid' := Option.some.inj
      ((Run.free_iff_replay.mp reached).symm.trans (Run.free_iff_replay.mp before))
    exact row_run after stored
  · intro one other first second sessions id session standing now found unexpired positive current
    obtain rfl := converged.agree one other first second
    rw [verifySession_cookie, if_neg (by omega), found, Option.bind_some, if_pos unexpired]

namespace Sample

/-- The keys that two isolates draw. -/
def first : Choice := ⟨1000, "first", by decide⟩

def second : Choice := ⟨2000, "second", by decide⟩

/-- Both isolates find no cached key, and the second one stores its own before the first. -/
def race : List Event := [.start (.signingKey 0), .start (.signingKey 1), .act 0 first, .act 1 second, .act 1 second,
  .act 0 first, .act 0 first, .act 0 first, .act 1 second, .act 1 second]

end Sample

/-- The isolate that loses the race returns the key of the other one. -/
theorem signing_keys_converge_race : ∃ world, host.machine.Run Free ⟨{}, []⟩ Sample.race world ∧
    world.tasks.map Task.value? = [some (some "second"), some (some "second")] ∧ Converged world := by
  have evaluated : (host.machine.replay? ⟨{}, []⟩ Sample.race).any (fun world =>
      world.tasks.map Task.value? = [some (some "second"), some (some "second")]) = true := by decide +kernel
  obtain ⟨world, replayed, returned⟩ := (Option.any_eq_true _ _).mp evaluated
  have run := Run.free_iff_replay.mpr replayed
  exact ⟨world, run, of_decide_eq_true returned, (signing_keys_converge Auth.Sample.platform run).1⟩

end OmniControlPlane.Panel.Auth.SigningKey
