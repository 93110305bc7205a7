import OmniControlPlane.Lib.Typestate
import OmniControlPlane.Panel.Sessions

/-! # The first setup

A setup reads the settings, derives a hash, and only then writes it, with upserts. Two setups that read
before either writes both succeed, and the later one replaces the password of the earlier.

What a setup may do next is a protocol: it has not found the panel without a password yet, it has, or it
has stored its own.
-/

namespace OmniControlPlane.Panel.Auth

open Lib Machine Task

namespace Setup

structure Store where
  settings : SettingsTable := .empty
  sessions : Sessions := .empty

inductive Failure where
  | http (error : HttpError)
  | remote
  | error (message : String)
deriving DecidableEq, Repr

inductive Command where
  | selectSettings
  | hashPassword (password : String)
  | install (hash : PasswordHash) (username : String)
  | audit
  | insertSigningKey
  | selectSigningKey
  | insertSession (subject : String)
deriving DecidableEq, Repr

abbrev Answer : Command → Type
  | .selectSettings => OrderedMap String String
  | .hashPassword _ => PasswordHash
  | .selectSigningKey => Option String
  | _ => Unit

/-- The outside choices of one step; `random` is a salt, a key or an id. -/
structure Choice where
  delivery : Delivery := .answered
  now : ℕ := 0
  random : String := ""
deriving DecidableEq, Repr

def effect (platform : Platform) (choice : Choice) (store : Store) : Command → Store
  | .install hash username => { store with settings := (Settings.set {} store.settings
      [("admin_hash", hash.text), ("admin_user", username), ("installed_at", toString choice.now),
        ("core_version", CORE_VERSION)] choice.now).2.1 }
  | .insertSigningKey =>
    let written (old : Option SettingRow) : SettingRow := old.getD ⟨choice.random, choice.now⟩
    { store with settings := store.settings.alter "signing_key" written }
  | .insertSession subject =>
    let row : SessionRow := ⟨subject, "owner", choice.now, choice.now + platform.sessionTtlMs⟩
    { store with sessions := store.sessions.alter choice.random fun _ => row }
  | _ => store

def answer (platform : Platform) (choice : Choice) (store : Store) : (command : Command) → Answer command
  | .selectSettings => store.settings.values
  | .hashPassword password => platform.hashPassword password choice.random
  | .selectSigningKey => (store.settings.get? "signing_key").map (·.value)
  | .install .. | .audit | .insertSigningKey | .insertSession _ => ()

/-- A session id is a new one. Hashes are computed by the isolate itself, and `audit` never throws. -/
def exec (platform : Platform) (command : Command) (choice : Choice) (store : Store) :
    Option (Store × Except Failure (Answer command)) :=
  match command with
  | .hashPassword password => some (store, .ok (answer platform choice store (.hashPassword password)))
  | .audit => some (store, .ok ())
  | .insertSession subject =>
    if (store.sessions.get? choice.random).isSome then none
    else some (choice.delivery.deliver .remote store (effect platform choice store (.insertSession subject)) ())
  | command => some (choice.delivery.deliver .remote store (effect platform choice store command)
      (answer platform choice store command))

abbrev Async := Task Failure Answer

/-- Await one command. -/
abbrev await (command : Command) : Async (Answer command) := perform command

/-- What a setup that succeeds answers, and the hash that it has stored; the answer has the name only. -/
structure Installed where
  username : String
  hash : PasswordHash
deriving DecidableEq, Repr

/-- `signingKey`; `known` where `SECRET` is set or the isolate has read the key before. -/
def signingKey (known : Bool) : Async Unit :=
  if known then pure ()
  else do
    await .insertSigningKey
    let row ← await .selectSigningKey
    throwIf (row.getD "" = "") (.error "could not establish a session signing key")

def createSession (known : Bool) (subject : String) : Async Unit := do
  signingKey known
  await (.insertSession subject)

/-- A request; `body` is none where it is no JSON. -/
structure Operation where
  body : Option Credentials
  known : Bool := true
deriving DecidableEq, Repr

def setup (operation : Operation) : Async Installed := do
  let settings ← await .selectSettings
  throwIf ((settings.get? "admin_hash").getD "" ≠ "") (.http (forbidden "پنل قبلاً راه‌اندازی شده است"))
  match operation.body with
  | none => throw (.http (badRequest "بدنه‌ی درخواست JSON معتبر نیست"))
  | some body => do
    throwIf ((utf16 body.password).length < 10) (.http (badRequest "رمز عبور باید حداقل ۱۰ کاراکتر باشد"))
    let username := slice32 (if body.username = "" then "admin" else body.username)
    let hash ← await (.hashPassword body.password)
    await (.install hash username)
    await .audit
    createSession operation.known username
    pure ⟨username, hash⟩

def host (platform : Platform) : Host Failure Answer Installed Store Choice Operation where
  program := setup
  exec := exec platform
  spawns _ _ := []

abbrev World := Lib.World Failure Answer Installed Store

abbrev Event := Lib.Event Operation Choice

/-! ## What must hold -/

def Store.adminHash (store : Store) : String := ((store.settings.get? "admin_hash").map (·.value)).getD ""

def Store.adminUser (store : Store) : String := ((store.settings.get? "admin_user").map (·.value)).getD ""

/-- No setup has begun, and no password is stored. -/
def Fresh (world : World) : Prop := world.tasks = [] ∧ world.store.adminHash = ""

/-- At most one setup has succeeded, and what is stored is its own. -/
def SetUpOnce (world : World) : Prop :=
  (∀ (first second : ℕ) (one other : Installed), world.tasks[first]? = some (Task.done one : Async Installed) →
      world.tasks[second]? = some (Task.done other : Async Installed) → first = second) ∧
    ∀ installed : Installed, (Task.done installed : Async Installed) ∈ world.tasks →
      world.store.adminHash = installed.hash.text ∧ world.store.adminUser = installed.username

/-- The calls of a setup that has found the panel without a password and has not stored its own. -/
def Command.installs : Command → Bool
  | .hashPassword _ | .install .. => true
  | _ => false

/-- A setup finds the panel without a password only while no other one is about to store its own. -/
def OneAtATime (world : World) : Event → Prop
  | .start _ => True
  | .act position choice => ∀ task ∈ world.tasks[position]?, task.awaits = some .selectSettings →
      choice.delivery = .answered → world.store.adminHash = "" →
        ∀ other ∈ world.tasks, other.awaits.any Command.installs = false

instance (world : World) (event : Event) : Decidable (OneAtATime world event) :=
  match event with
  | .start _ => .isTrue trivial
  | .act _ _ => @Option.decidableForallMem _ _ (fun _ => @instDecidableForall _ _ _ (@instDecidableForall _ _ _
      (@instDecidableForall _ _ _ (List.decidableBAll _ _)))) _

/-! ## The protocol -/

/-- `idle true` is a setup whose body is in order and that has not found the panel without a password. -/
inductive Phase where
  | idle (valid : Bool)
  | checked
  | installed (username : String) (hash : PasswordHash)
deriving DecidableEq, Repr

namespace Phase

def allowed : Phase → Command → Prop
  | .idle _, .selectSettings => True
  | .checked, .hashPassword _ | .checked, .install .. => True
  | .installed .., .audit | .installed .., .insertSigningKey | .installed .., .selectSigningKey
  | .installed .., .insertSession _ => True
  | _, _ => False

def next : Phase → (command : Command) → Except Failure (Answer command) → Phase
  | .idle true, .selectSettings, .ok settings => if (settings.get? "admin_hash").getD "" = "" then .checked else .idle false
  | .checked, .hashPassword _, .ok _ => .checked
  | .checked, .install hash username, .ok _ => .installed username hash
  | .installed username hash, _, _ => .installed username hash
  | _, _, _ => .idle false

end Phase

def installing : Protocol Failure Answer Phase := ⟨Phase.allowed, Phase.next⟩

/-- A setup that succeeds has stored what it answers; one that fails is not about to store anything. -/
def Ends : Phase → Except Failure Installed → Prop
  | phase, .ok installed => phase = .installed installed.username installed.hash
  | phase, .error _ => phase ≠ .checked

/-- The body of a setup is in order. -/
def Operation.valid (operation : Operation) : Bool := operation.body.any fun body => 10 ≤ (utf16 body.password).length

section

variable {username : String} {hash : PasswordHash}

/-- Once its own password is stored, a setup goes on without touching the settings' two entries. -/
theorem createSession_follows (known : Bool) (subject : String) :
    Stays installing (.installed username hash) (createSession known subject) := by
  refine .seq ?_ fun _ => .performing trivial fun _ => rfl
  cases known with
  | true => rfl
  | false => exact .seq (.performing trivial fun _ => rfl) fun _ => .seq (.performing trivial fun _ => rfl) fun _ => .throwIf

/-- What a setup does once its password is stored. -/
theorem stored_follows (known : Bool) : Follows installing Ends (.installed username hash) (do
    await .audit
    createSession known username
    pure ⟨username, hash⟩ : Async Installed) := by
  refine .after trivial (fun _ => ?_) fun _ => nofun
  refine (follows_bind _ _).mpr ((createSession_follows known username).mono ?_)
  rintro _ (error | value) rfl
  · exact nofun
  · exact rfl

theorem setup_follows (operation : Operation) : (setup operation).Follows installing Ends (.idle operation.valid) := by
  obtain ⟨body, known⟩ := operation
  refine .after trivial (fun settings => ?_) fun _ => ?_
  · by_cases unset : (settings.get? "admin_hash").getD "" = ""
    · rw [throwIf_kept (not_not.mpr unset)]
      cases body with
      | none => rintro ⟨⟩
      | some body =>
        dsimp only
        by_cases short : (utf16 body.password).length < 10
        · have invalid : Operation.valid ⟨some body, known⟩ = false := decide_eq_false (Nat.not_le.mpr short)
          rw [throwIf, if_pos short, invalid]
          rintro ⟨⟩
        · have valid : Operation.valid ⟨some body, known⟩ = true := decide_eq_true (Nat.not_lt.mp short)
          have checked : Phase.next (.idle true) .selectSettings (.ok settings) = .checked := if_pos unset
          rw [throwIf_kept short, valid]
          change Follows installing Ends (Phase.next (.idle true) .selectSettings (.ok settings)) _
          rw [checked]
          refine .after trivial (fun hash => ?_) fun _ => by rintro ⟨⟩
          exact .after trivial (fun _ => stored_follows known) fun _ => by rintro ⟨⟩
    · rw [throwIf, if_pos unset]
      change Phase.next (.idle (Operation.valid ⟨body, known⟩)) .selectSettings (.ok settings) ≠ .checked
      cases Operation.valid ⟨body, known⟩ with
      | false => rintro ⟨⟩
      | true =>
        have refused : Phase.next (.idle true) .selectSettings (.ok settings) = .idle false := if_neg unset
        exact refused ▸ (by rintro ⟨⟩)
  · change Phase.next (.idle (Operation.valid ⟨body, known⟩)) .selectSettings (.error _) ≠ .checked
    cases Operation.valid ⟨body, known⟩ <;> rintro ⟨⟩

end

theorem host_plays (platform : Platform) :
    (host platform).Plays installing Ends (fun operation => .idle operation.valid) fun _ _ => [] where
  program := setup_follows
  spawns _ _ := .nil

/-! ## What a call changes -/

section

variable {platform : Platform} {command : Command} {choice : Choice} {store store' : Store}
  {reply : Except Failure (Answer command)}

/-- A call is refused or takes effect; an answer is the one computed from the store. -/
theorem exec_cases (executed : exec platform command choice store = some (store', reply)) :
    (store' = effect platform choice store command ∨ store' = store ∧ ∃ error, reply = .error error) ∧
      ∀ value, reply = .ok value → value = answer platform choice store command := by
  have delivered (command : Command) {store' : Store} {reply : Except Failure (Answer command)}
      (executed : some (choice.delivery.deliver .remote store (effect platform choice store command)
        (answer platform choice store command)) = some (store', reply)) :
      (store' = effect platform choice store command ∨ store' = store ∧ ∃ error, reply = .error error) ∧
        ∀ value, reply = .ok value → value = answer platform choice store command := by
    cases delivery : choice.delivery with
    | answered =>
      rw [delivery] at executed
      obtain ⟨rfl, rfl⟩ := Prod.mk.inj (Option.some.inj executed)
      exact ⟨.inl rfl, fun value same => (Except.ok.inj same).symm⟩
    | lost =>
      rw [delivery] at executed
      obtain ⟨rfl, rfl⟩ := Prod.mk.inj (Option.some.inj executed)
      exact ⟨.inl rfl, nofun⟩
    | refused =>
      rw [delivery] at executed
      obtain ⟨rfl, rfl⟩ := Prod.mk.inj (Option.some.inj executed)
      exact ⟨.inr ⟨rfl, _, rfl⟩, nofun⟩
  cases command with
  | hashPassword password =>
    obtain ⟨rfl, rfl⟩ := Prod.mk.inj (Option.some.inj executed)
    exact ⟨.inl rfl, fun value same => (Except.ok.inj same).symm⟩
  | audit =>
    obtain ⟨rfl, rfl⟩ := Prod.mk.inj (Option.some.inj executed)
    exact ⟨.inl rfl, fun _ _ => rfl⟩
  | insertSession subject =>
    rw [exec] at executed
    split at executed
    · contradiction
    · exact delivered _ executed
  | selectSettings => exact delivered .selectSettings executed
  | install hash username => exact delivered (.install hash username) executed
  | insertSigningKey => exact delivered .insertSigningKey executed
  | selectSigningKey => exact delivered .selectSigningKey executed

/-- Only the write of a setup changes the two entries. -/
theorem entries_kept (other : ∀ hash username, command ≠ .install hash username) :
    (effect platform choice store command).adminHash = store.adminHash ∧
      (effect platform choice store command).adminUser = store.adminUser := by
  cases command with
  | install hash username => exact absurd rfl (other hash username)
  | insertSigningKey =>
    constructor
    · simp only [Store.adminHash, effect, OrderedMap.get?_alter, reduceIte, String.reduceEq]
    · simp only [Store.adminUser, effect, OrderedMap.get?_alter, reduceIte, String.reduceEq]
  | _ => exact ⟨rfl, rfl⟩

theorem installed_entries (hash : PasswordHash) (username : String) :
    (effect platform choice store (.install hash username)).adminHash = hash.text ∧
      (effect platform choice store (.install hash username)).adminUser = username := by
  constructor
  · simp [Store.adminHash, effect, Settings.set, OrderedMap.get?_alter]
  · simp [Store.adminUser, effect, Settings.set, OrderedMap.get?_alter]

/-- A read that is answered tells what is stored. -/
theorem read_answered {settings : OrderedMap String String}
    (executed : exec platform .selectSettings choice store = some (store', .ok settings)) :
    store' = store ∧ choice.delivery = .answered ∧ (settings.get? "admin_hash").getD "" = store.adminHash := by
  have executed : some (choice.delivery.deliver Failure.remote store store store.settings.values) =
      some (store', .ok settings) := executed
  cases delivery : choice.delivery with
  | answered =>
    rw [delivery] at executed
    obtain ⟨rfl, read⟩ := Prod.mk.inj (Option.some.inj executed)
    obtain rfl := Except.ok.inj read
    exact ⟨rfl, rfl, congrArg (·.getD "") (OrderedMap.get?_mapValues ..)⟩
  | lost =>
    rw [delivery] at executed
    exact nomatch (Prod.mk.inj (Option.some.inj executed)).2
  | refused =>
    rw [delivery] at executed
    exact nomatch (Prod.mk.inj (Option.some.inj executed)).2

/-- What a step does to the two entries, and to the phase of the setup that takes it. -/
theorem step_cases {phase : Phase} (called : installing.allowed phase command)
    (executed : exec platform command choice store = some (store', reply)) :
    ((store'.adminHash = store.adminHash ∧ store'.adminUser = store.adminUser) ∧
        (installing.next phase command reply = phase ∨ ∃ valid, installing.next phase command reply = .idle valid)) ∨
      (command = .selectSettings ∧ store' = store ∧ choice.delivery = .answered ∧ store.adminHash = "" ∧
        installing.next phase command reply = .checked) ∨
      (phase = .checked ∧ ∃ hash username, store'.adminHash = PasswordHash.text hash ∧ store'.adminUser = username ∧
        (installing.next phase command reply = .installed username hash ∨
          installing.next phase command reply = .idle false)) := by
  obtain ⟨changed, answered⟩ := exec_cases executed
  have kept (other : ∀ hash username, command ≠ .install hash username) :
      store'.adminHash = store.adminHash ∧ store'.adminUser = store.adminUser := by
    rcases changed with rfl | ⟨rfl, -⟩
    · exact entries_kept other
    · exact ⟨rfl, rfl⟩
  cases phase with
  | idle valid =>
    cases command with
    | selectSettings =>
      cases reply with
      | error error => exact .inl ⟨kept nofun, .inr ⟨false, by cases valid <;> rfl⟩⟩
      | ok settings =>
        obtain ⟨rfl, delivered, read⟩ := read_answered executed
        cases valid with
        | false => exact .inl ⟨kept nofun, .inl rfl⟩
        | true =>
          by_cases unset : (settings.get? "admin_hash").getD "" = ""
          · exact .inr (.inl ⟨rfl, rfl, delivered, read ▸ unset, if_pos unset⟩)
          · exact .inl ⟨kept nofun, .inr ⟨false, if_neg unset⟩⟩
    | _ => exact called.elim
  | checked =>
    cases command with
    | hashPassword password =>
      refine .inl ⟨kept nofun, ?_⟩
      cases reply with
      | ok _ => exact .inl rfl
      | error _ => exact .inr ⟨false, rfl⟩
    | install hash username =>
      obtain ⟨hashed, named⟩ : (effect platform choice store (.install hash username)).adminHash = hash.text ∧
          (effect platform choice store (.install hash username)).adminUser = username := installed_entries hash username
      rcases changed with rfl | ⟨rfl, error, rfl⟩
      · refine .inr (.inr ⟨rfl, hash, username, hashed, named, ?_⟩)
        cases reply with
        | ok _ => exact .inl rfl
        | error _ => exact .inr rfl
      · exact .inl ⟨⟨rfl, rfl⟩, .inr ⟨false, rfl⟩⟩
    | _ => exact called.elim
  | installed username hash =>
    refine .inl ⟨kept ?_, .inl (by cases command <;> rfl)⟩
    rintro hash username rfl
    exact called.elim

end

/-! ## The invariant -/

/-- One setup at most is about to store its password, while none is stored; one at most has stored its
password, and it is the one that is stored. -/
structure Kept (store : Store) (held : List Phase) : Prop where
  alone : ∀ first second : ℕ, held[first]? = some Phase.checked → held[second]? = some Phase.checked → first = second
  unset : Phase.checked ∈ held → store.adminHash = ""
  once : ∀ (first second : ℕ) (username : String) (hash : PasswordHash) (username' : String) (hash' : PasswordHash),
    held[first]? = some (.installed username hash) → held[second]? = some (.installed username' hash') → first = second
  stored : ∀ username hash, Phase.installed username hash ∈ held → store.adminHash = hash.text ∧ store.adminUser = username

section

variable {platform : Platform} {store store' : Store} {held : List Phase} {position : ℕ} {phase : Phase}

/-- No setup has stored its password while another is about to. -/
theorem Kept.none_installed (kept : Kept store held) (checked : Phase.checked ∈ held) (username : String)
    (hash : PasswordHash) : Phase.installed username hash ∉ held :=
  fun installed => hash.nonempty ((kept.stored username hash installed).1.symm.trans (kept.unset checked))

/-- A step that leaves the entries alone and moves its setup no further keeps the invariant. -/
theorem Kept.quiet (kept : Kept store held) (atPosition : held[position]? = some phase) {after : Phase}
    (same : store'.adminHash = store.adminHash ∧ store'.adminUser = store.adminUser)
    (moved : after = phase ∨ ∃ valid, after = .idle valid) : Kept store' (held.set position after ++ []) := by
  have earlier {other : ℕ} {found : Phase} (atOther : (held.set position after ++ [])[other]? = some found)
      (busy : ∀ valid, found ≠ .idle valid) : held[other]? = some found := by
    rcases Host.getElem?_set_append atOther with ⟨rfl, rfl⟩ | ⟨-, old⟩ | ⟨-, none⟩
    · rcases moved with rfl | ⟨valid, rfl⟩
      · exact atPosition
      · exact absurd rfl (busy valid)
    · exact old
    · exact absurd none List.not_mem_nil
  constructor
  · exact fun first second one two => kept.alone first second (earlier one nofun) (earlier two nofun)
  · intro checked
    obtain ⟨other, atOther⟩ := List.mem_iff_getElem?.mp checked
    exact same.1.trans (kept.unset (List.mem_of_getElem? (earlier atOther nofun)))
  · exact fun first second _ _ _ _ one two => kept.once first second _ _ _ _ (earlier one nofun) (earlier two nofun)
  · intro username hash installed
    obtain ⟨other, atOther⟩ := List.mem_iff_getElem?.mp installed
    rw [same.1, same.2]
    exact kept.stored username hash (List.mem_of_getElem? (earlier atOther nofun))

/-- A setup that finds no password while no other one is about to store its own. -/
theorem Kept.checks (kept : Kept store held) (unset : store.adminHash = "") (free : Phase.checked ∉ held) :
    Kept store (held.set position Phase.checked ++ []) := by
  have absent (username : String) (hash : PasswordHash) : Phase.installed username hash ∉ held :=
    fun installed => hash.nonempty ((kept.stored username hash installed).1.symm.trans unset)
  have new {other : ℕ} (atOther : (held.set position Phase.checked ++ [])[other]? = some Phase.checked) : other = position := by
    rcases Host.getElem?_set_append atOther with ⟨same, -⟩ | ⟨-, old⟩ | ⟨-, none⟩
    · exact same
    · exact absurd (List.mem_of_getElem? old) free
    · exact absurd none List.not_mem_nil
  have gone (username : String) (hash : PasswordHash) :
      Phase.installed username hash ∉ held.set position Phase.checked ++ [] := by
    intro installed
    rcases Host.mem_set_append installed with same | old | none
    · contradiction
    · exact absent username hash old
    · exact absurd none List.not_mem_nil
  constructor
  · exact fun first second one two => (new one).trans (new two).symm
  · exact fun _ => unset
  · exact fun first second _ _ _ _ one _ => absurd (List.mem_of_getElem? one) (gone _ _)
  · exact fun username hash installed => absurd installed (gone username hash)

/-- The setup that was about to store its password has stored it. -/
theorem Kept.stores (kept : Kept store held) (atPosition : held[position]? = some Phase.checked) {after : Phase}
    {hash : PasswordHash} {username : String} (hashed : store'.adminHash = hash.text) (named : store'.adminUser = username)
    (moved : after = Phase.installed username hash ∨ after = .idle false) : Kept store' (held.set position after ++ []) := by
  have checked : Phase.checked ∈ held := List.mem_of_getElem? atPosition
  have gone : Phase.checked ∉ held.set position after ++ [] := by
    intro member
    obtain ⟨other, atOther⟩ := List.mem_iff_getElem?.mp member
    rcases Host.getElem?_set_append atOther with ⟨-, same⟩ | ⟨different, old⟩ | ⟨-, none⟩
    · rcases moved with rfl | rfl <;> contradiction
    · exact different (kept.alone other position old atPosition)
    · exact absurd none List.not_mem_nil
  have new {other : ℕ} {username' : String} {hash' : PasswordHash}
      (atOther : (held.set position after ++ [])[other]? = some (Phase.installed username' hash')) :
      other = position ∧ Phase.installed username' hash' = after := by
    rcases Host.getElem?_set_append atOther with same | ⟨-, old⟩ | ⟨-, none⟩
    · exact same
    · exact absurd (List.mem_of_getElem? old) (kept.none_installed checked username' hash')
    · exact absurd none List.not_mem_nil
  constructor
  · exact fun first second one _ => absurd (List.mem_of_getElem? one) gone
  · exact fun member => absurd member gone
  · exact fun first second _ _ _ _ one two => (new one).1.trans (new two).1.symm
  · intro username' hash' installed
    obtain ⟨other, atOther⟩ := List.mem_iff_getElem?.mp installed
    rcases moved with rfl | rfl
    · obtain ⟨rfl, rfl⟩ := Phase.installed.inj (new atOther).2
      exact ⟨hashed, named⟩
    · exact absurd (new atOther).2 nofun

end

theorem kept_run {platform : Platform} {events : List Event} {world world' : World} (fresh : Fresh world)
    (run : (host platform).machine.Run OneAtATime world events world') :
    ∃ held, Host.Held installing Ends held world' ∧ Kept world'.store held := by
  have initial : ∃ held, Host.Held installing Ends held world ∧ Kept world.store held := by
    refine ⟨[], ?_, ⟨nofun, nofun, nofun, nofun⟩⟩
    rw [Host.Held, fresh.1]
    exact .nil
  refine (host_plays platform).preserves Kept ?_ ?_ run initial
  · intro world held operation _ kept _
    have earlier {other : ℕ} {found : Phase} (atOther : (held ++ [Phase.idle operation.valid])[other]? = some found)
        (busy : ∀ valid, found ≠ .idle valid) : held[other]? = some found := by
      rw [List.getElem?_append] at atOther
      split at atOther
      · exact atOther
      · exact absurd (List.mem_singleton.mp (List.mem_of_getElem? atOther)) (busy _)
    have member {found : Phase} (listed : found ∈ held ++ [Phase.idle operation.valid]) (busy : ∀ valid, found ≠ .idle valid) :
        found ∈ held := by
      rcases List.mem_append.mp listed with old | new
      · exact old
      · exact absurd (List.mem_singleton.mp new) (busy _)
    constructor
    · exact fun first second one two => kept.alone first second (earlier one nofun) (earlier two nofun)
    · exact fun checked => kept.unset (member checked nofun)
    · exact fun first second _ _ _ _ one two => kept.once first second _ _ _ _ (earlier one nofun) (earlier two nofun)
    · exact fun username hash installed => kept.stored username hash (member installed nofun)
  · intro world held position choice task command store reply phase holds kept orderly atPosition awaited atHeld called
      executed
    rcases step_cases called executed with ⟨same, moved⟩ | ⟨rfl, rfl, delivered, unset, moved⟩ |
      ⟨rfl, hash, username, hashed, named, moved⟩
    · exact kept.quiet atHeld same moved
    · have free : Phase.checked ∉ held := by
        intro checked
        obtain ⟨other, atOther⟩ := List.mem_iff_getElem?.mp checked
        obtain ⟨found, awaitedCommand, atFound, awaits, allowed⟩ := holds.awaiting atOther (by
          rintro (error | value) ended
          · exact ended rfl
          · exact nomatch ended)
        have idle := orderly task atPosition awaited delivered unset found (List.mem_of_getElem? atFound)
        rw [awaits] at idle
        cases awaitedCommand with
        | hashPassword _ | install _ _ => contradiction
        | _ => exact allowed
      rw [moved]
      exact kept.checks unset free
    · exact kept.stores atHeld hashed named moved

/-- A setup succeeds once, where none finds the panel without a password while another is about to
store its own. -/
theorem set_up_once {platform : Platform} {events : List Event} {world world' : World} (fresh : Fresh world)
    (run : (host platform).machine.Run OneAtATime world events world') : SetUpOnce world' := by
  obtain ⟨held, holds, kept⟩ := kept_run fresh run
  have standing {position : ℕ} {installed : Installed}
      (atPosition : world'.tasks[position]? = some (Task.done installed : Async Installed)) :
      held[position]? = some (Phase.installed installed.username installed.hash) := by
    obtain ⟨phase, atHeld, ended⟩ := holds.at atPosition
    have ended : phase = Phase.installed installed.username installed.hash := ended
    exact ended ▸ atHeld
  constructor
  · exact fun first second one other atFirst atSecond =>
      kept.once first second _ _ _ _ (standing atFirst) (standing atSecond)
  · intro installed member
    obtain ⟨position, atPosition⟩ := List.mem_iff_getElem?.mp member
    exact kept.stored _ _ (List.mem_of_getElem? (standing atPosition))

namespace Sample

/-- A panel on which nothing has happened yet. -/
def initial : World := ⟨{}, []⟩

def admin : Event := .start { body := some ⟨"correct horse", "admin"⟩ }

def guest : Event := .start { body := some ⟨"battery staple", "guest"⟩ }

/-- From its read to its session, a setup goes on alone. -/
def completes (position : ℕ) (session : String) : List Event :=
  [.act position { random := "salt" }, .act position {}, .act position {}, .act position { random := session }]

/-- The second setup begins when the first has ended. -/
def successive : List Event := [admin, guest, .act 0 {}] ++ completes 0 "first" ++ ([.act 1 {}] : List Event)

/-- Both setups find no password. -/
def concurrent : List Event := [admin, guest, .act 0 {}, .act 1 {}] ++ completes 0 "first" ++ completes 1 "second"

/-- The names that the setups at the first two places answer, where they have succeeded. -/
def succeeded (world : World) : List (Option String) :=
  [0, 1].map fun position => (world.tasks[position]?.bind Task.value?).map (·.username)

end Sample

/-- The second setup is refused, and the password of the first stays. -/
theorem set_up_once_successive : ∃ world, (host Auth.Sample.platform).machine.Run OneAtATime Sample.initial Sample.successive world ∧
    Sample.succeeded world = [some "admin", none] ∧ world.store.adminUser = "admin" ∧ SetUpOnce world := by
  have evaluated : ((host Auth.Sample.platform).machine.checked? (fun world event => decide (OneAtATime world event))
      Sample.initial Sample.successive).any (fun world =>
        Sample.succeeded world = [some "admin", none] ∧ world.store.adminUser = "admin") = true := by
    decide +kernel
  obtain ⟨world, replayed, checked⟩ := (Option.any_eq_true _ _).mp evaluated
  obtain ⟨succeeded, stored⟩ := of_decide_eq_true checked
  have run := Run.of_checked (fun _ _ => of_decide_eq_true) replayed
  exact ⟨world, run, succeeded, stored, set_up_once ⟨rfl, rfl⟩ run⟩

/-- Both setups succeed, and the password of the second replaces that of the first. -/
theorem set_up_twice : ∃ world, (host Auth.Sample.platform).machine.Run Free Sample.initial Sample.concurrent world ∧
    Sample.succeeded world = [some "admin", some "guest"] ∧ world.store.adminUser = "guest" ∧ ¬ SetUpOnce world := by
  have evaluated : ((host Auth.Sample.platform).machine.replay? Sample.initial Sample.concurrent).any (fun world =>
      (Sample.succeeded world = [some "admin", some "guest"] ∧ world.store.adminUser = "guest") ∧
        ((world.tasks[0]?.bind Task.value?).isSome ∧ (world.tasks[1]?.bind Task.value?).isSome)) = true := by
    decide +kernel
  obtain ⟨world, replayed, checked⟩ := (Option.any_eq_true _ _).mp evaluated
  obtain ⟨⟨succeeded, stored⟩, first, second⟩ := of_decide_eq_true checked
  refine ⟨world, Run.free_iff_replay.mpr replayed, succeeded, stored, fun once => ?_⟩
  have ended {position : ℕ} (some : (world.tasks[position]?.bind Task.value?).isSome) :
      ∃ installed : Installed, world.tasks[position]? = .some (Task.done installed : Async Installed) := by
    obtain ⟨installed, found⟩ := Option.isSome_iff_exists.mp some
    obtain ⟨task, atPosition, value⟩ := Option.bind_eq_some_iff.mp found
    exact ⟨installed, Task.value?_eq_some.mp value ▸ atPosition⟩
  obtain ⟨one, atFirst⟩ := ended first
  obtain ⟨other, atSecond⟩ := ended second
  exact absurd (once.1 0 1 one other atFirst atSecond) nofun

end Setup

end OmniControlPlane.Panel.Auth
