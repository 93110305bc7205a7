import OmniControlPlane.Lib.Typestate
import OmniControlPlane.Panel.Sessions

/-! # Changing the password while others log in

A login reads the stored hash, verifies the password against it, and inserts its session some calls later. A
change of the password stores the new hash and deletes all sessions, in two calls. Here each call is a step of
its own, and the signing key is the platform's.
-/

namespace OmniControlPlane.Panel.Auth.Password

open Lib Machine Task

structure AdminSettings where
  admin_hash : String
  admin_user : String
deriving DecidableEq, Repr

/-- A session for which a cookie was made, the password that was presented for it, and which of the hashes it was
verified against. -/
structure Issued where
  id : String
  row : SessionRow
  password : String
  generation : ℕ
deriving DecidableEq, Repr

/-- `written` are the hashes that were ever stored, the present one last, `changed` is the newest of them whose change has
deleted the sessions, and `issued` are the sessions that were ever inserted; no table has them. -/
structure Store where
  settings : AdminSettings
  sessions : Sessions := .empty
  written : List String
  changed : ℕ := 0
  issued : List Issued := []

/-- The calls. A deletion carries the number of the hash that was stored before it, and an insert the password and the number
of the hash it was verified against; no statement has them. -/
inductive Command where
  | selectSettings
  | hitGuard (key : String)
  | resetGuard (key : String)
  | random
  | dateNow
  | verifySession (cookie : List Char)
  | setHash (hash : String)
  | deleteSessions (generation : ℕ)
  | insertSession (row : SessionRow) (password : String) (generation : ℕ)
  | audit
deriving DecidableEq, Repr

abbrev Answer : Command → Type
  | .selectSettings => AdminSettings × ℕ
  | .hitGuard _ => Bool
  | .random | .insertSession .. => String
  | .dateNow | .setHash _ => ℕ
  | .verifySession _ => Option VerifiedSession
  | _ => Unit

/-- The outside choices of one step: how a call ends, the time, what the guard says, and the text drawn at random. -/
structure Choice where
  delivery : Delivery := .answered
  now : ℕ := 0
  allowed : Bool := true
  drawn : String := ""
deriving DecidableEq, Repr

inductive Failure where
  | http (error : HttpError)
  | remote
deriving DecidableEq, Repr

section

variable (platform : Platform)

def effect (choice : Choice) (store : Store) : Command → Store
  | .setHash hash =>
    { store with settings := { store.settings with admin_hash := hash }, written := store.written ++ [hash] }
  | .deleteSessions generation => { store with sessions := .empty, changed := max store.changed generation }
  | .insertSession row password generation =>
    { store with
      sessions := store.sessions.alter choice.drawn fun _ => row
      issued := store.issued ++ [⟨choice.drawn, row, password, generation⟩] }
  | _ => store

def answer (choice : Choice) (store : Store) : (command : Command) → Answer command
  | .selectSettings => (store.settings, store.written.length - 1)
  | .hitGuard _ => choice.allowed
  | .random | .insertSession .. => choice.drawn
  | .dateNow => choice.now
  | .setHash _ => store.written.length
  | .verifySession cookie => Auth.verifySession platform store.sessions cookie choice.now
  | .resetGuard _ | .deleteSessions _ | .audit => ()

def Command.inserts : Command → Bool
  | .insertSession .. => true
  | _ => false

/-- The id of a session is a new one. -/
def exec (command : Command) (choice : Choice) (store : Store) : Option (Store × Except Failure (Answer command)) :=
  if command.inserts = true ∧ (choice.drawn ∈ store.issued.map (·.id) ∨ (store.sessions.get? choice.drawn).isSome) then
    none
  else some (choice.delivery.deliver .remote store (effect choice store command) (answer platform choice store command))

end

abbrev Async := Task Failure Answer

/-- Await one command. -/
abbrev await (command : Command) : Async (Answer command) := perform command

/-! ## The requests -/

def refuseIf (refused : Prop) [Decidable refused] (error : HttpError) : Async Unit := throwIf refused (.http error)

section

variable (platform : Platform) (guarded : Bool)

/-- A login ends without a new hash. -/
def login (body : Credentials) (ip : String) : Async (Option ℕ) := do
  let (settings, generation) ← await .selectSettings
  refuseIf (settings.admin_hash = "") ⟨409, "not_installed", "پنل هنوز راه‌اندازی نشده"⟩
  let allowed ← if guarded then await (.hitGuard ip) else pure true
  refuseIf (allowed = false) tooMany
  let subject := if body.username ≠ "" then body.username
    else if settings.admin_user ≠ "" then settings.admin_user else "admin"
  if platform.verifyPassword body.password settings.admin_hash = false then
    await .audit
    throw (.http (unauthorized "رمز عبور اشتباه است"))
  else
    if guarded then await (.resetGuard ip)
    let now ← await .dateNow
    let _ ← await (.insertSession ⟨subject, "owner", now, now + platform.sessionTtlMs⟩ body.password generation)
    await .audit
    return none

/-- Store the hash of a new password, and delete the sessions. -/
def replacePassword (next : String) : Async (Option ℕ) := do
  let salt ← await .random
  let generation ← await (.setHash (platform.hashPassword next salt).text)
  await (.deleteSessions generation)
  await .audit
  return some generation

def changePassword (cookie : List Char) (current next : String) : Async (Option ℕ) := do
  let session ← await (.verifySession cookie)
  refuseIf (session = none) (unauthorized "وارد شوید")
  refuseIf ((utf16 next).length < 10) (badRequest "رمز جدید باید حداقل ۱۰ کاراکتر باشد")
  let (settings, _) ← await .selectSettings
  refuseIf (settings.admin_hash = "" ∨ platform.verifyPassword current settings.admin_hash = false)
    (unauthorized "رمز فعلی اشتباه است")
  replacePassword platform next

def recover (code password : String) : Async (Option ℕ) := do
  let disabled := forbidden ("بازیابی رمز غیرفعال است. " ++
    "متغیر RECOVERY_CODE را در wrangler.toml یا داشبورد کلودفلر تنظیم کنید.")
  refuseIf (platform.recoveryCode.getD "" = "") disabled
  if code ≠ platform.recoveryCode.getD "" then
    await .audit
    throw (.http (unauthorized "کد بازیابی اشتباه است"))
  else
    refuseIf ((utf16 password).length < 10) (badRequest "رمز جدید باید حداقل ۱۰ کاراکتر باشد")
    replacePassword platform password

inductive Operation where
  | login (body : Credentials) (ip : String)
  | changePassword (cookie : List Char) (current next : String)
  | recover (code password : String)
deriving DecidableEq, Repr

def program : Operation → Async (Option ℕ)
  | .login body ip => login platform guarded body ip
  | .changePassword cookie current next => changePassword platform cookie current next
  | .recover code password => recover platform code password

def host : Host Failure Answer (Option ℕ) Store Choice Operation where
  program := program platform guarded
  exec := exec platform
  spawns _ _ := []

end

abbrev World := Lib.World Failure Answer (Option ℕ) Store

abbrev Event := Lib.Event Operation Choice

/-- A panel that has just got its first password. -/
def installed (hash user : String) : World := ⟨{ settings := ⟨hash, user⟩, written := [hash] }, []⟩

/-- A session is inserted before the sessions are deleted for a hash newer than the one it was verified against. -/
def InsertsCurrent (world : World) : Event → Prop :=
  Host.Acting (fun command choice store => ∀ row password generation, command = .insertSession row password generation →
    choice.delivery ≠ .refused → store.changed ≤ generation) world

/-! ## What a request knows -/

structure Phase where
  read : Option (String × ℕ) := none
  wrote : Option ℕ := none
  deleted : Bool := false

section

variable (platform : Platform)

/-- A session rests on a hash that was read and that verifies the password, and a deletion on a hash that was stored. -/
def requests : Protocol Failure Answer Phase where
  allowed phase
    | .setHash _ => phase.deleted = false
    | .deleteSessions generation => phase.wrote = some generation
    | .insertSession _ password generation => ∃ hash, phase.read = some (hash, generation) ∧
        platform.verifyPassword password hash = true
    | _ => True
  next phase command answer :=
    match command, answer with
    | .selectSettings, .ok (settings, generation) => { phase with read := some (settings.admin_hash, generation) }
    | .setHash _, .ok generation => { phase with wrote := some generation }
    | .deleteSessions _, .ok () => { phase with deleted := true }
    | _, _ => phase

/-- A change that succeeds has stored a hash and deleted the sessions. -/
def Ends (phase : Phase) : Except Failure (Option ℕ) → Prop
  | .ok (some generation) => phase.wrote = some generation ∧ phase.deleted = true
  | _ => True

variable {platform} {guarded : Bool} {phase : Phase}

theorem follows_refuseIf {refused : Prop} [Decidable refused] {error : HttpError} {rest : Unit → Async (Option ℕ)}
    (kept : ¬ refused → (rest ()).Follows (requests platform) Ends phase) :
    (refuseIf refused error >>= rest).Follows (requests platform) Ends phase := by
  refine (follows_bind _ _).mpr ?_
  rw [refuseIf, Task.throwIf]
  split
  · trivial
  · next other => exact kept other

theorem follows_replacePassword (next : String) (fresh : phase.deleted = false) :
    (replacePassword platform next).Follows (requests platform) Ends phase :=
  .after trivial (fun _ => .after fresh (fun _ => .after rfl (fun _ => .after trivial (fun _ => ⟨rfl, rfl⟩)
    fun _ => trivial) fun _ => trivial) fun _ => trivial) fun _ => trivial

theorem follows_login (body : Credentials) (ip : String) :
    (login platform guarded body ip).Follows (requests platform) Ends {} := by
  refine .after trivial (fun read => ?_) fun _ => trivial
  obtain ⟨settings, generation⟩ := read
  apply follows_refuseIf
  intro _
  have rest (allowed : Bool) : (refuseIf (allowed = false) tooMany >>= fun _ => (do
      let subject := if body.username ≠ "" then body.username
        else if settings.admin_user ≠ "" then settings.admin_user else "admin"
      if platform.verifyPassword body.password settings.admin_hash = false then
        await .audit
        throw (.http (unauthorized "رمز عبور اشتباه است"))
      else
        if guarded then await (.resetGuard ip)
        let now ← await .dateNow
        let _ ← await (.insertSession ⟨subject, "owner", now, now + platform.sessionTtlMs⟩ body.password generation)
        await .audit
        return none : Async (Option ℕ))).Follows (requests platform) Ends
          { read := some (settings.admin_hash, generation) } := by
    apply follows_refuseIf
    intro _
    dsimp only
    split
    · exact .after trivial (fun _ => trivial) fun _ => trivial
    · next verified =>
      have valid : platform.verifyPassword body.password settings.admin_hash = true := by simpa using verified
      have inserts (subject : String) : (do
          let now ← await .dateNow
          let _ ← await (.insertSession ⟨subject, "owner", now, now + platform.sessionTtlMs⟩ body.password generation)
          await .audit
          return none : Async (Option ℕ)).Follows (requests platform) Ends
            { read := some (settings.admin_hash, generation) } :=
        .after trivial (fun _ => .after ⟨_, rfl, valid⟩ (fun _ => .after trivial (fun _ => trivial) fun _ => trivial)
          fun _ => trivial) fun _ => trivial
      cases guarded with
      | true => exact .after trivial (fun _ => inserts _) fun _ => trivial
      | false => exact inserts _
  cases guarded with
  | true => exact .after trivial rest fun _ => trivial
  | false => exact rest true

theorem follows_changePassword (cookie : List Char) (current next : String) :
    (changePassword platform cookie current next).Follows (requests platform) Ends {} :=
  .after trivial (fun _ => follows_refuseIf fun _ => follows_refuseIf fun _ => .after trivial (fun _ =>
    follows_refuseIf fun _ => follows_replacePassword next rfl) fun _ => trivial) fun _ => trivial

theorem follows_recover (code password : String) :
    (recover platform code password).Follows (requests platform) Ends {} := by
  apply follows_refuseIf
  intro _
  split
  · exact .after trivial (fun _ => trivial) fun _ => trivial
  · exact follows_refuseIf fun _ => follows_replacePassword password rfl

theorem plays : (host platform guarded).Plays (requests platform) Ends (fun _ => {}) (fun _ _ => []) where
  program operation := by
    cases operation with
    | login body ip => exact follows_login body ip
    | changePassword cookie current next => exact follows_changePassword cookie current next
    | recover code password => exact follows_recover code password
  spawns _ _ := .nil

end

/-! ## One call -/

section

variable {platform : Platform} {store store' : Store} {command : Command} {choice : Choice}
  {reply : Except Failure (Answer command)} {phase : Phase}

theorem exec_cases (executed : exec platform command choice store = some (store', reply)) :
    (∀ row password generation, command = .insertSession row password generation →
      choice.drawn ∉ store.issued.map (·.id)) ∧
    (store' = store ∧ (∃ error, reply = .error error) ∨ choice.delivery ≠ .refused ∧ store' = effect choice store command ∧
      ∀ value, reply = .ok value → value = answer platform choice store command) := by
  rw [exec] at executed
  split at executed
  · contradiction
  next new =>
  refine ⟨?_, ?_⟩
  · rintro row password generation rfl used
    exact new ⟨rfl, .inl used⟩
  cases delivery : choice.delivery with
  | answered =>
    rw [delivery] at executed
    obtain ⟨rfl, rfl⟩ := Prod.mk.inj (Option.some.inj executed)
    exact .inr ⟨nofun, rfl, fun _ same => (Except.ok.inj same).symm⟩
  | lost =>
    rw [delivery] at executed
    obtain ⟨rfl, rfl⟩ := Prod.mk.inj (Option.some.inj executed)
    exact .inr ⟨nofun, rfl, nofun⟩
  | refused =>
    rw [delivery] at executed
    obtain ⟨rfl, rfl⟩ := Prod.mk.inj (Option.some.inj executed)
    exact .inl ⟨rfl, _, rfl⟩

/-- A session stands on a hash that verified its password, and is gone when a newer one has deleted the sessions. -/
structure Kept (platform : Platform) (store : Store) (held : List Phase) : Prop where
  current : store.written[store.written.length - 1]? = some store.settings.admin_hash
  verified : ∀ entry ∈ store.issued, ∃ hash, store.written[entry.generation]? = some hash ∧
    platform.verifyPassword entry.password hash = true
  gone : ∀ entry ∈ store.issued, entry.generation < store.changed → store.sessions.get? entry.id = none
  read : ∀ phase ∈ held, ∀ hash generation, phase.read = some (hash, generation) → store.written[generation]? = some hash
  deleted : ∀ phase ∈ held, phase.deleted = true → ∀ generation, phase.wrote = some generation → generation ≤ store.changed

theorem getElem?_snoc {α : Type} {items : List α} {position : ℕ} {item : α} (found : items[position]? = some item) (last : α) :
    (items ++ [last])[position]? = some item := by
  rw [List.getElem?_append_left (List.getElem?_eq_some_iff.mp found).1, found]

/-- What is known stays true of all requests. -/
theorem Kept.effect {held : List Phase} (kept : Kept platform store held)
    (fresh : ∀ row password generation, command = .insertSession row password generation →
      choice.drawn ∉ store.issued.map (·.id))
    (inserts : ∀ row password generation, command = .insertSession row password generation →
      store.changed ≤ generation ∧ ∃ hash, store.written[generation]? = some hash ∧
        platform.verifyPassword password hash = true) :
    Kept platform (effect choice store command) held := by
  cases command with
  | setHash hash =>
    refine ⟨?_, fun entry member => ?_, kept.gone, fun phase member hash' generation read => ?_, kept.deleted⟩
    · simp only [Password.effect, List.length_append, List.length_singleton, Nat.add_sub_cancel]
      exact List.getElem?_concat_length
    · obtain ⟨hash', found, valid⟩ := kept.verified entry member
      exact ⟨hash', getElem?_snoc found hash, valid⟩
    · exact getElem?_snoc (kept.read phase member hash' generation read) hash
  | deleteSessions generation =>
    refine ⟨kept.current, kept.verified, fun _ _ _ => rfl, kept.read, fun phase member done generation' wrote => ?_⟩
    exact Nat.le_trans (kept.deleted phase member done generation' wrote) (Nat.le_max_left _ _)
  | insertSession row password generation =>
    obtain ⟨newer, hash, found, valid⟩ := inserts row password generation rfl
    have unused := fresh row password generation rfl
    refine ⟨kept.current, fun entry member => ?_, fun entry member older => ?_, kept.read, kept.deleted⟩
    · rcases List.mem_append.mp member with old | new
      · exact kept.verified entry old
      · rw [List.mem_singleton.mp new]
        exact ⟨hash, found, valid⟩
    · rcases List.mem_append.mp member with old | new
      · have different : entry.id ≠ choice.drawn := fun same => unused (same ▸ List.mem_map_of_mem old)
        rw [Password.effect, OrderedMap.get?_alter, if_neg different]
        exact kept.gone entry old older
      · rw [List.mem_singleton.mp new] at older
        exact absurd older (Nat.not_lt.mpr newer)
  | _ => exact kept

/-- What the request that moves knows then. -/
theorem kept_next (choice : Choice) {held : List Phase} {position : ℕ} (kept : Kept platform store' held) (inPhase : held[position]? = some phase)
    (called : (requests platform).allowed phase command)
    (answered : ∀ value, reply = .ok value → value = answer platform choice store command ∧ store' = effect choice store command)
    (current : store.written[store.written.length - 1]? = some store.settings.admin_hash) :
    Kept platform store' (held.set position ((requests platform).next phase command reply) ++ []) := by
  have mine := List.mem_of_getElem? inPhase
  have known : (∀ hash generation, ((requests platform).next phase command reply).read = some (hash, generation) →
      store'.written[generation]? = some hash) ∧ (((requests platform).next phase command reply).deleted = true →
        ∀ generation, ((requests platform).next phase command reply).wrote = some generation →
          generation ≤ store'.changed) := by
    cases reply with
    | error => cases command <;> exact ⟨kept.read phase mine, kept.deleted phase mine⟩
    | ok value =>
      obtain ⟨rfl, applied⟩ := answered value rfl
      cases command with
      | selectSettings =>
        refine ⟨fun hash generation read => ?_, kept.deleted phase mine⟩
        obtain ⟨rfl, rfl⟩ := Prod.mk.inj (Option.some.inj read)
        rw [applied]
        exact current
      | setHash hash =>
        refine ⟨kept.read phase mine, fun deleted => ?_⟩
        have fresh : phase.deleted = false := called
        exact absurd (show phase.deleted = true from deleted) (by simp [fresh])
      | deleteSessions generation =>
        refine ⟨kept.read phase mine, fun _ generation' wrote => ?_⟩
        have same : phase.wrote = some generation := called
        obtain rfl := Option.some.inj (same.symm.trans wrote)
        rw [applied]
        exact Nat.le_max_right _ _
      | _ => exact ⟨kept.read phase mine, kept.deleted phase mine⟩
  refine ⟨kept.current, kept.verified, kept.gone, fun other member => ?_, fun other member => ?_⟩
  · rcases Host.mem_set_append member with rfl | old | spawned
    · exact known.1
    · exact kept.read other old
    · contradiction
  · rcases Host.mem_set_append member with rfl | old | spawned
    · exact known.2
    · exact kept.deleted other old
    · contradiction

end

/-! ## Runs -/

section

variable {platform : Platform} {guarded : Bool}

theorem kept_run {hash user : String} {events : List Event} {world : World}
    (run : (host platform guarded).machine.Run InsertsCurrent (installed hash user) events world) :
    ∃ held, Host.Held (requests platform) Ends held world ∧ Kept platform world.store held := by
  have played : (host platform guarded).Plays (requests platform) Ends (fun _ => {}) (fun _ _ => []) := plays
  refine played.preserves (Kept platform) ?_ ?_ run ⟨[], .nil, ⟨rfl, nofun, nofun, nofun, nofun⟩⟩
  · intro world held operation _ kept _
    refine ⟨kept.current, kept.verified, kept.gone, fun phase member => ?_, fun phase member => ?_⟩
    · rcases List.mem_append.mp member with old | new
      · exact kept.read phase old
      · rw [List.mem_singleton.mp new]
        exact nofun
    · rcases List.mem_append.mp member with old | new
      · exact kept.deleted phase old
      · rw [List.mem_singleton.mp new]
        exact nofun
  · intro world held position choice task command store reply phase _ kept inserts atPosition awaits inPhase called executed
    have executed : exec platform command choice world.store = some (store, reply) := executed
    have inserts := inserts.of_awaits atPosition awaits
    obtain ⟨fresh, ⟨rfl, error, rfl⟩ | ⟨effective, rfl, answered⟩⟩ := exec_cases executed
    · exact kept_next choice kept inPhase called nofun kept.current
    · have applied := kept.effect fresh fun row password generation same => by
        subst same
        obtain ⟨hash, read, valid⟩ := called
        exact ⟨inserts row password generation rfl effective, hash,
          kept.read phase (List.mem_of_getElem? inPhase) hash generation read, valid⟩
      exact kept_next choice applied inPhase called (fun value given => ⟨answered value given, rfl⟩) kept.current

end

/-- Once a change or a recovery has returned, no cookie verifies that was made for a password which none of the hashes
verifies that were stored since, as long as no session is inserted behind the deletion of a newer hash. -/
theorem old_password_locked_out (platform : Platform) (guarded : Bool) {hash user : String} {events : List Event}
    {world : World} (run : (host platform guarded).machine.Run InsertsCurrent (installed hash user) events world)
    {position generation : ℕ} (returned : world.tasks[position]? = some (.done (some generation)))
    {entry : Issued} (issued : entry ∈ world.store.issued)
    (old : ∀ hash ∈ world.store.written.drop generation, platform.verifyPassword entry.password hash = false) (now : ℕ) :
    verifySession platform world.store.sessions (cookieHeader (platform.token entry.id entry.row)) now = none := by
  obtain ⟨held, holds, kept⟩ := kept_run run
  obtain ⟨phase, inPhase, wrote, deleted⟩ := holds.at returned
  have changed := kept.deleted phase (List.mem_of_getElem? inPhase) deleted generation wrote
  obtain ⟨verifying, found, valid⟩ := kept.verified entry issued
  have older : entry.generation < generation := by
    by_contra newer
    have since : verifying ∈ world.store.written.drop generation := by
      refine List.mem_iff_getElem?.mpr ⟨entry.generation - generation, ?_⟩
      rw [List.getElem?_drop, Nat.add_sub_cancel' (Nat.not_lt.mp newer), found]
    rw [old verifying since] at valid
    contradiction
  have gone := kept.gone entry issued (Nat.lt_of_lt_of_le older changed)
  rw [verifySession_cookie, gone]
  split <;> rfl

instance (world : World) (event : Event) : Decidable (InsertsCurrent world event) :=
  match event with
  | .start _ => .isTrue trivial
  | .act position choice =>
    match found : world.tasks[position]? with
    | some (.call command next) =>
      match known : command with
      | .insertSession row password generation =>
        decidable_of_iff (choice.delivery ≠ .refused → world.store.changed ≤ generation) (by
          rw [InsertsCurrent, Host.acting_iff found]
          constructor
          · intro met row' password' generation' same
            cases same
            exact met
          · exact fun met => met row password generation rfl)
      | .selectSettings | .hitGuard _ | .resetGuard _ | .random | .dateNow | .verifySession _ | .setHash _
      | .deleteSessions _ | .audit => .isTrue (by
          rw [InsertsCurrent, Host.acting_iff found]
          exact nofun)
    | some (.done _) | some (.fail _) | none => .isTrue fun _ _ same => nomatch found.symm.trans same

/-- The number of the hash that a finished change has stored. -/
def stored : Async (Option ℕ) → Option ℕ
  | .done generation => generation
  | _ => none

theorem eq_done_of_stored {task : Async (Option ℕ)} {generation : ℕ} (given : stored task = some generation) :
    task = .done (some generation) := by
  cases task with
  | done result => rw [show result = some generation from given]
  | _ => contradiction

namespace Straddle

def platform : Platform := { Auth.Sample.platform with recoveryCode := some "code" }

/-- A login with the old password, and a recovery. -/
def opening : List Event :=
  [.start (.login ⟨"correct horse", "admin"⟩ ""), .start (.recover "code" "battery staple")]

def acts (count position : ℕ) (drawn : String) : List Event :=
  List.replicate count (.act position { now := 1000, drawn := drawn })

/-- The recovery comes after the login. -/
def inTurn : List Event := opening ++ acts 4 0 "session" ++ acts 4 1 "salt"

/-- The login has read the old hash when the recovery begins, and inserts its session when it is over. -/
def straddling : List Event := opening ++ acts 2 0 "" ++ acts 4 1 "salt" ++ acts 2 0 "session"

def entry : Issued := ⟨"session", ⟨"admin", "owner", 1000, 43201000⟩, "correct horse", 0⟩

end Straddle

open Straddle

/-- The login was before the recovery, and its cookie is worth nothing after it. -/
theorem old_password_locked_out_inTurn : ∃ world, (host platform false).machine.Run InsertsCurrent
      (installed "pbkdf2$salt$correct horse" "admin") inTurn world ∧
    entry ∈ world.store.issued ∧
    verifySession platform world.store.sessions (cookieHeader (platform.token entry.id entry.row)) 2000 = none := by
  have evaluated : ((host platform false).machine.checked? (fun world event => decide (InsertsCurrent world event))
      (installed "pbkdf2$salt$correct horse" "admin") inTurn).any (fun world =>
        (world.tasks[1]?.bind stored) = some 1 ∧ entry ∈ world.store.issued ∧
          ∀ hash ∈ world.store.written.drop 1, platform.verifyPassword entry.password hash = false) = true := by
    decide +kernel
  obtain ⟨world, replayed, checked⟩ := (Option.any_eq_true _ _).mp evaluated
  obtain ⟨ended, issued, old⟩ := of_decide_eq_true checked
  obtain ⟨task, atPosition, result⟩ := Option.bind_eq_some_iff.mp ended
  have run : (host platform false).machine.Run InsertsCurrent (installed "pbkdf2$salt$correct horse" "admin") inTurn world :=
    Run.of_checked (fun _ _ => of_decide_eq_true) replayed
  exact ⟨world, run, issued, old_password_locked_out platform false run (eq_done_of_stored result ▸ atPosition) issued old 2000⟩

/-- The recovery has returned, and the session of the old password is accepted. -/
theorem old_password_accepted : ∃ world, (host platform false).machine.Run Free
      (installed "pbkdf2$salt$correct horse" "admin") straddling world ∧
    world.tasks[1]? = some (.done (some 1)) ∧ entry ∈ world.store.issued ∧
    (∀ hash ∈ world.store.written.drop 1, platform.verifyPassword entry.password hash = false) ∧
    verifySession platform world.store.sessions (cookieHeader (platform.token entry.id entry.row)) 2000 =
      some ⟨"session", some "admin", some "owner"⟩ := by
  have evaluated : ((host platform false).machine.replay? (installed "pbkdf2$salt$correct horse" "admin") straddling).any
      (fun world => (world.tasks[1]?.bind stored) = some 1 ∧ entry ∈ world.store.issued ∧
        (∀ hash ∈ world.store.written.drop 1, platform.verifyPassword entry.password hash = false) ∧
        world.store.sessions.get? "session" = some entry.row) = true := by
    decide +kernel
  obtain ⟨world, replayed, checked⟩ := (Option.any_eq_true _ _).mp evaluated
  obtain ⟨ended, issued, old, present⟩ := of_decide_eq_true checked
  obtain ⟨task, atPosition, result⟩ := Option.bind_eq_some_iff.mp ended
  refine ⟨world, Run.free_iff_replay.mpr replayed, eq_done_of_stored result ▸ atPosition, issued, old, ?_⟩
  rw [verifySession_cookie, if_neg (by decide), show entry.id = "session" from rfl, present, Option.bind_some,
    if_pos (by decide)]
  rfl

end OmniControlPlane.Panel.Auth.Password
