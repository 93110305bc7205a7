import OmniControlPlane.Lib.Interleaving
import OmniControlPlane.Lib.OrderedMap
import OmniControlPlane.Lib.Text
import OmniControlPlane.Portal.Http

/-! # Donated keys

A donation is a row of `ai_donations` with its status, and a row of `ai_donation_secrets` with its key. Both are
inserted by one batch. The donor withdraws a donation that is not withdrawn yet; an admin approves or rejects the
donation of a card, whatever its status is by then.
-/

namespace OmniControlPlane.Portal.Donations

open Lib Machine Task

def DONATION_RETENTION_DAYS : ℕ := 30

def DONATION_MAX_PER_TENANT : ℕ := 5

inductive DonationStatus where
  | pending | approved | rejected | withdrawn
deriving DecidableEq, Repr

/-- A donation that is neither rejected nor withdrawn. -/
def DonationStatus.active : DonationStatus → Bool
  | .pending | .approved => true
  | .rejected | .withdrawn => false

def PROVIDER_PREFIXES : List (String × String) :=
  [("sk-ant-", "Anthropic Claude"), ("sk-proj-", "OpenAI (Project key)"), ("sk-or-", "OpenRouter"),
    ("sk-", "OpenAI / سازگار با OpenAI"), ("gsk_", "Groq"), ("AIza", "Google AI Studio"), ("deepseek-", "DeepSeek")]

def detectProvider (key : List Char) : String :=
  ((PROVIDER_PREFIXES.find? fun entry => entry.1.toList.isPrefixOf key).map (·.2)).getD "کلید عمومی / سازندهٔ نامشخص"

/-- Never returns anything that could rebuild the key. -/
def redactKey (key : List Char) : String := String.ofList (key.take 3 ++ '…' :: key.drop (key.length - 4))

def isKeyChar (char : Char) : Bool :=
  ('A' ≤ char && char ≤ 'Z') || ('a' ≤ char && char ≤ 'z') || ('0' ≤ char && char ≤ '9') || char ∈ ['_', '.', '-']

/-- `/^(replace|changeme|example|test)[-_]/iu`, for a key of such characters -/
def isPlaceholder (key : List Char) : Bool :=
  ["replace", "changeme", "example", "test"].any fun word =>
    word.toList.isPrefixOf (key.map (·.toLower)) && (key.drop word.length).head?.any (· ∈ ['-', '_'])

def invalidKey (message : String) : HttpError := ⟨400, "invalid_key", message⟩

def validateDonationKey (value : String) : Except HttpError (List Char) := do
  let key := trim value
  throwIf ((utf16 (String.ofList key)).length < 20 ∨ 256 < (utf16 (String.ofList key)).length)
    (invalidKey "طول کلید باید بین ۲۰ تا ۲۵۶ نویسه باشد")
  throwIf (!key.all isKeyChar) (invalidKey "کلید فقط می‌تواند حرف، عدد، خط‌تیره، زیرخط و نقطه داشته باشد")
  throwIf (isPlaceholder key) (invalidKey "این مقدار کلید واقعی به نظر نمی‌رسد")
  pure key

/-! ## The tables -/

/-- A row of `ai_donations`. -/
structure DonationRow where
  tenant_id : String
  donor_user_id : String
  provider : String
  key_fingerprint : String
  key_snippet : String
  status : DonationStatus
  created_at : ℕ
  updated_at : ℕ
  review_at : Option ℕ
  expires_at : ℕ
deriving DecidableEq, Repr

/-- `clock` is the latest time that was read, `issued` the ids that were ever drawn, and `closed` the ids of the donations
that were ever rejected or withdrawn; no table has them. Secrets are kept as the keys that they encrypt. -/
structure Store where
  ai_donations : OrderedMap String DonationRow := .empty
  ai_donation_secrets : OrderedMap String String := .empty
  clock : ℕ := 0
  issued : List String := []
  closed : List String := []

/-- The calls. A batch that rejects, withdraws or purges has two statements for each donation. -/
inductive Command where
  | rateLimit (key : String)
  | countActive (tenantId donorUserId : String)
  | insertDonation (tenantId donorUserId fingerprint : String) (key : List Char)
  | approve (donationId : String)
  | reject (donationId : String)
  | withdrawByAdmin (donationId : String)
  | selectDonation (donationId : String)
  | withdraw (donationId : String)
  | selectPurgeable
  | purge (donationIds : List String)
  | audit
deriving DecidableEq, Repr

abbrev Answer : Command → Type
  | .rateLimit _ => Bool
  | .countActive .. => ℕ
  | .selectDonation _ => Option DonationRow
  | .selectPurgeable => List String
  | _ => Unit

/-- The outside choices of one step: how a call ends, the time that is read, what the rate limit says, and the id drawn. -/
structure Choice where
  delivery : Delivery := .answered
  now : ℕ := 0
  allowed : Bool := true
  id : String := ""
deriving DecidableEq, Repr

def Store.setStatus (store : Store) (donationId : String) (update : DonationRow → DonationRow) : Store :=
  { store with ai_donations := store.ai_donations.modify donationId update }

/-- The batch that deletes the secret and sets the status. -/
def Store.retire (store : Store) (donationId : String) (update : DonationRow → DonationRow) : Store :=
  { store with
    ai_donations := store.ai_donations.modify donationId update
    ai_donation_secrets := store.ai_donation_secrets.filter fun id _ => id ≠ donationId
    closed := if (store.ai_donations.get? donationId).isSome then donationId :: store.closed else store.closed }

def effect (choice : Choice) (store : Store) : Command → Store
  | .insertDonation tenantId donorUserId fingerprint key =>
    { store with
      ai_donations := store.ai_donations.alter choice.id fun _ => {
        tenant_id := tenantId, donor_user_id := donorUserId, provider := detectProvider key, key_fingerprint := fingerprint,
        key_snippet := redactKey key, status := .pending, created_at := choice.now, updated_at := choice.now,
        review_at := none, expires_at := choice.now + DONATION_RETENTION_DAYS * 86400000 }
      ai_donation_secrets := store.ai_donation_secrets.alter choice.id fun _ => String.ofList key
      issued := choice.id :: store.issued }
  | .approve id => store.setStatus id fun row =>
      { row with status := .approved, updated_at := choice.now, review_at := some choice.now }
  | .reject id => store.retire id fun row =>
      { row with status := .rejected, updated_at := choice.now, review_at := some choice.now }
  | .withdrawByAdmin id => store.retire id fun row =>
      { row with status := .withdrawn, updated_at := choice.now, review_at := some choice.now }
  | .withdraw id => store.retire id fun row => { row with status := .withdrawn, updated_at := choice.now }
  | .purge ids => { store with
      ai_donations := store.ai_donations.filter fun id _ => id ∉ ids
      ai_donation_secrets := store.ai_donation_secrets.filter fun id _ => id ∉ ids }
  | _ => store

def answer (choice : Choice) (store : Store) : (command : Command) → Answer command
  | .rateLimit _ => choice.allowed
  | .countActive tenantId donorUserId => store.ai_donations.entries.countP fun entry =>
      entry.2.tenant_id = tenantId && entry.2.donor_user_id = donorUserId && entry.2.status.active &&
        decide (choice.now < entry.2.expires_at)
  | .selectDonation id => store.ai_donations.get? id
  | .selectPurgeable => (store.ai_donations.entries.filter fun entry =>
      decide (entry.2.expires_at ≤ choice.now) || entry.2.status = .rejected).map (·.1)
  | .insertDonation .. | .approve _ | .reject _ | .withdrawByAdmin _ | .withdraw _ | .purge _ | .audit => ()

inductive Failure where
  | http (error : HttpError)
  | unique
  | remote
deriving DecidableEq, Repr

/-- The clock does not go back, a drawn id is a new one, and a fingerprint is stored once. -/
def exec (command : Command) (choice : Choice) (store : Store) : Option (Store × Except Failure (Answer command)) :=
  if choice.now < store.clock then none
  else
    let store := { store with clock := choice.now }
    match command with
    | .insertDonation tenantId donorUserId fingerprint key =>
      if choice.id ∈ store.issued then none
      else if store.ai_donations.entries.any fun entry => entry.2.key_fingerprint = fingerprint then some (store, .error .unique)
      else some (choice.delivery.deliver .remote store
        (effect choice store (.insertDonation tenantId donorUserId fingerprint key)) ())
    | command => some (choice.delivery.deliver .remote store (effect choice store command) (answer choice store command))

abbrev Async := Task Failure Answer

/-- Await one command. -/
abbrev await (command : Command) : Async (Answer command) := perform command

/-! ## The operations -/

structure DonationInput where
  tenantId : String
  donorUserId : String
  key : String
deriving DecidableEq, Repr

section

variable (sha256 : String → String)

def createDonation (input : DonationInput) : Async Unit := do
  match validateDonationKey input.key with
  | .error error => throw (.http error)
  | .ok key =>
    let allowed ← await (.rateLimit ("ai-donate:" ++ input.donorUserId))
    Task.throwIf (allowed = false) (.http ⟨429, "rate_limited",
      "برای جلوگیری از شلوغ‌شدن صف، هر کاربر ساعتی ۳ کلید می‌تواند ثبت کند"⟩)
    let active ← await (.countActive input.tenantId input.donorUserId)
    Task.throwIf (DONATION_MAX_PER_TENANT ≤ active) (.http ⟨429, "too_many_donations",
      "حداکثر " ++ toString DONATION_MAX_PER_TENANT ++ " کلید فعال برای هر کاربر مجاز است"⟩)
    tryCatch (await (.insertDonation input.tenantId input.donorUserId (sha256 ("ai-donation:" ++ String.ofList key)) key))
      fun
        | .unique => throw (.http ⟨409, "duplicate_donation", "این کلید قبلاً ثبت شده است"⟩)
        | error => throw error

/-- A status that is set by hand. -/
inductive Reviewed where
  | approved | rejected | withdrawn
deriving DecidableEq, Repr

def setDonationStatus (donationId : String) (status : Reviewed) : Async (Option DonationRow) := do
  match status with
  | .withdrawn => await (.withdrawByAdmin donationId)
  | .rejected => await (.reject donationId)
  | .approved => await (.approve donationId)
  await (.selectDonation donationId)

def withdrawDonation (donationId donorUserId : String) : Async Bool := do
  let row ← await (.selectDonation donationId)
  if row.all fun row => row.donor_user_id ≠ donorUserId || row.status = .withdrawn then return false
  await (.withdraw donationId)
  return true

/-- Each batch has twenty statements, two for each donation. -/
def purgeExpiredDonations : Async ℕ := do
  let ids ← await .selectPurgeable
  (ids.toChunks 10).forM fun chunk => await (.purge chunk)
  return ids.length

inductive Operation where
  | createDonation (input : DonationInput)
  | review (donationId : String) (status : Reviewed)
  | withdrawDonation (donationId donorUserId : String)
  | purgeExpiredDonations
deriving DecidableEq, Repr

/-- `review` is the callback of a card: it sets the status and writes the audit log. -/
def program : Operation → Async Unit
  | .createDonation input => createDonation sha256 input
  | .review donationId status => do
    let _ ← setDonationStatus donationId status
    await .audit
  | .withdrawDonation donationId donorUserId => do
    let _ ← withdrawDonation donationId donorUserId
    pure ()
  | .purgeExpiredDonations => do
    let _ ← purgeExpiredDonations
    pure ()

def host : Host Failure Answer Unit Store Choice Operation where
  program := program sha256
  exec := exec
  spawns _ _ := []

end

abbrev World := Lib.World Failure Answer Unit Store

abbrev Event := Lib.Event Operation Choice

/-! ## What must hold -/

/-- The lifecycle of the donations that have not expired. -/
def Lifecycle (store : Store) : Prop :=
  ∀ id row, store.ai_donations.get? id = some row → store.clock < row.expires_at →
    ((store.ai_donation_secrets.get? id).isSome ↔ row.status.active = true) ∧ (id ∈ store.closed → row.status.active = false)

/-- An approval that takes effect finds a donation that is pending or approved, unless it has expired. -/
def ApprovesActive (world : World) : Event → Prop :=
  Host.Acting (fun command choice store => ∀ id, command = .approve id → choice.delivery ≠ .refused →
    ∀ row, store.ai_donations.get? id = some row → choice.now < row.expires_at → row.status.active = true) world

/-! ## One statement -/

section

variable {store store' : Store} {command : Command} {choice : Choice} {reply : Except Failure (Answer command)}

/-- A statement only moves the clock, or takes effect at the new time. -/
theorem exec_cases (executed : exec command choice store = some (store', reply)) : store.clock ≤ choice.now ∧
    (store' = { store with clock := choice.now } ∨ choice.delivery ≠ .refused ∧
      store' = effect choice { store with clock := choice.now } command ∧
      ∀ tenantId donorUserId fingerprint key, command = .insertDonation tenantId donorUserId fingerprint key →
        choice.id ∉ store.issued) := by
  rw [exec] at executed
  split at executed
  · contradiction
  next later =>
  refine ⟨Nat.not_lt.mp later, ?_⟩
  have delivered {command : Command} {store' : Store} {reply : Except Failure (Answer command)}
      (value : Answer command) (executed : some (choice.delivery.deliver .remote { store with clock := choice.now }
        (effect choice { store with clock := choice.now } command) value) = some (store', reply)) :
      store' = { store with clock := choice.now } ∨ choice.delivery ≠ .refused ∧
        store' = effect choice { store with clock := choice.now } command := by
    cases delivery : choice.delivery with
    | answered =>
      rw [delivery] at executed
      obtain ⟨rfl, -⟩ := Prod.mk.inj (Option.some.inj executed)
      exact .inr ⟨nofun, rfl⟩
    | lost =>
      rw [delivery] at executed
      obtain ⟨rfl, -⟩ := Prod.mk.inj (Option.some.inj executed)
      exact .inr ⟨nofun, rfl⟩
    | refused =>
      rw [delivery] at executed
      obtain ⟨rfl, -⟩ := Prod.mk.inj (Option.some.inj executed)
      exact .inl rfl
  cases command with
  | insertDonation tenantId donorUserId fingerprint key =>
    dsimp only at executed
    split at executed
    · contradiction
    next fresh =>
    split at executed
    · obtain ⟨rfl, -⟩ := Prod.mk.inj (Option.some.inj executed)
      exact .inl rfl
    · rcases @delivered (.insertDonation tenantId donorUserId fingerprint key) _ _ () executed with kept | ⟨effective, applied⟩
      · exact .inl kept
      · exact .inr ⟨effective, applied, fun _ _ _ _ _ => fresh⟩
  | _ =>
    rcases delivered _ executed with kept | ⟨effective, applied⟩
    · exact .inl kept
    · exact .inr ⟨effective, applied, nofun⟩

/-- The lifecycle, and where the ids come from. -/
structure Kept (store : Store) : Prop where
  lifecycle : Lifecycle store
  issued : ∀ id row, store.ai_donations.get? id = some row → id ∈ store.issued
  closed : ∀ id ∈ store.closed, id ∈ store.issued

/-- Time passes. -/
theorem Kept.tick (kept : Kept store) {now : ℕ} (later : store.clock ≤ now) : Kept { store with clock := now } :=
  ⟨fun id row found unexpired => kept.lifecycle id row found (Nat.lt_of_le_of_lt later unexpired), kept.issued, kept.closed⟩

theorem Kept.retire (kept : Kept store) (donationId : String) {update : DonationRow → DonationRow}
    (retires : ∀ row, (update row).status.active = false ∧ (update row).expires_at = row.expires_at) :
    Kept (store.retire donationId update) := by
  refine ⟨fun id row found unexpired => ?_, fun id row found => ?_, fun id member => ?_⟩
  · rw [Store.retire, OrderedMap.get?_modify] at found
    simp only [Store.retire, OrderedMap.get?_filter]
    by_cases same : id = donationId
    · rw [if_pos same] at found
      obtain ⟨old, -, rfl⟩ := Option.map_eq_some_iff.mp found
      simp [same, (retires old).1]
    · rw [if_neg same] at found
      obtain ⟨secret, open'⟩ := kept.lifecycle id row found unexpired
      refine ⟨by simpa [same] using secret, fun member => ?_⟩
      split at member
      · exact open' ((List.mem_cons.mp member).resolve_left same)
      · exact open' member
  · rw [Store.retire, OrderedMap.get?_modify] at found
    by_cases same : id = donationId
    · rw [if_pos same] at found
      obtain ⟨old, present, -⟩ := Option.map_eq_some_iff.mp found
      exact same ▸ kept.issued donationId old present
    · rw [if_neg same] at found
      exact kept.issued id row found
  · simp only [Store.retire] at member
    split at member
    · next present =>
      rcases List.mem_cons.mp member with rfl | old
      · obtain ⟨row, found⟩ := Option.isSome_iff_exists.mp present
        exact kept.issued _ row found
      · exact kept.closed id old
    · exact kept.closed id member

theorem Kept.approve (kept : Kept store) (id : String)
    (open' : ∀ row, store.ai_donations.get? id = some row → store.clock < row.expires_at → row.status.active = true) :
    Kept (effect choice store (.approve id)) := by
  refine ⟨fun other row found unexpired => ?_, fun other row found => ?_, kept.closed⟩
  · rw [effect, Store.setStatus, OrderedMap.get?_modify] at found
    by_cases same : other = id
    · rw [if_pos same] at found
      obtain ⟨old, present, rfl⟩ := Option.map_eq_some_iff.mp found
      obtain ⟨secret, shut⟩ := kept.lifecycle id old present unexpired
      have active := open' old present unexpired
      refine ⟨iff_of_true (same ▸ secret.mpr active) rfl, fun member => ?_⟩
      exact absurd (active.symm.trans (shut (same ▸ member))) (by decide)
    · rw [if_neg same] at found
      exact kept.lifecycle other row found unexpired
  · rw [effect, Store.setStatus, OrderedMap.get?_modify] at found
    by_cases same : other = id
    · rw [if_pos same] at found
      obtain ⟨old, present, -⟩ := Option.map_eq_some_iff.mp found
      exact same ▸ kept.issued id old present
    · rw [if_neg same] at found
      exact kept.issued other row found

theorem Kept.purge (kept : Kept store) (ids : List String) : Kept (effect choice store (.purge ids)) := by
  have listed {id : String} {row : DonationRow} (found : (effect choice store (.purge ids)).ai_donations.get? id = some row) :
      store.ai_donations.get? id = some row ∧ id ∉ ids := by
    rw [effect, OrderedMap.get?_filter] at found
    split at found
    · next outside => exact ⟨found, of_decide_eq_true outside⟩
    · contradiction
  refine ⟨fun id row found unexpired => ?_, fun id row found => kept.issued id row (listed found).1, kept.closed⟩
  obtain ⟨present, outside⟩ := listed found
  obtain ⟨secret, shut⟩ := kept.lifecycle id row present unexpired
  refine ⟨?_, shut⟩
  simp only [effect, OrderedMap.get?_filter, outside, not_false_eq_true, decide_true, if_true]
  exact secret

theorem Kept.insert (kept : Kept store) {tenantId donorUserId fingerprint : String} {key : List Char}
    (fresh : choice.id ∉ store.issued) : Kept (effect choice store (.insertDonation tenantId donorUserId fingerprint key)) := by
  refine ⟨fun id row found unexpired => ?_, fun id row found => ?_, fun id member => List.mem_cons_of_mem _ (kept.closed id member)⟩
  · rw [effect, OrderedMap.get?_alter] at found
    by_cases same : id = choice.id
    · rw [if_pos same] at found
      obtain rfl := Option.some.inj found
      refine ⟨iff_of_true ?_ rfl, fun member => absurd (same ▸ kept.closed id member) fresh⟩
      rw [effect, OrderedMap.get?_alter, if_pos same]
      rfl
    · rw [if_neg same] at found
      rw [effect, OrderedMap.get?_alter, if_neg same]
      exact kept.lifecycle id row found unexpired
  · rw [effect, OrderedMap.get?_alter] at found
    by_cases same : id = choice.id
    · exact same ▸ List.mem_cons_self
    · rw [if_neg same] at found
      exact List.mem_cons_of_mem _ (kept.issued id row found)

theorem kept_exec (kept : Kept store) (executed : exec command choice store = some (store', reply))
    (approves : ∀ id, command = .approve id → choice.delivery ≠ .refused → ∀ row, store.ai_donations.get? id = some row →
      choice.now < row.expires_at → row.status.active = true) : Kept store' := by
  obtain ⟨later, rfl | ⟨effective, rfl, fresh⟩⟩ := exec_cases executed
  · exact kept.tick later
  have ticked := kept.tick later
  cases command with
  | insertDonation tenantId donorUserId fingerprint key => exact ticked.insert (fresh _ _ _ _ rfl)
  | approve id => exact ticked.approve id (approves id rfl effective)
  | reject id => exact ticked.retire id fun row => ⟨rfl, rfl⟩
  | withdrawByAdmin id => exact ticked.retire id fun row => ⟨rfl, rfl⟩
  | withdraw id => exact ticked.retire id fun row => ⟨rfl, rfl⟩
  | purge ids => exact ticked.purge ids
  | _ => exact ticked

/-- An approval of a donation that is rejected or withdrawn breaks the lifecycle: it is approved, and has no secret. -/
theorem broken_of_approval (kept : Kept store) {id : String} {row : DonationRow} {reply : Except Failure Unit}
    (executed : exec (.approve id) choice store = some (store', reply)) (effective : choice.delivery ≠ .refused)
    (found : store.ai_donations.get? id = some row) (unexpired : choice.now < row.expires_at)
    (retired : row.status.active = false) : ¬ Lifecycle store' := by
  have applied : store' = effect choice { store with clock := choice.now } (.approve id) := by
    rw [exec] at executed
    split at executed
    · contradiction
    · cases delivery : choice.delivery with
      | refused => exact absurd delivery effective
      | answered =>
        rw [delivery] at executed
        exact (Prod.mk.inj (Option.some.inj executed)).1.symm
      | lost =>
        rw [delivery] at executed
        exact (Prod.mk.inj (Option.some.inj executed)).1.symm
  intro lifecycle
  have later := (exec_cases executed).1
  have approved : store'.ai_donations.get? id =
      some { row with status := .approved, updated_at := choice.now, review_at := some choice.now } := by
    rw [applied, effect, Store.setStatus, OrderedMap.get?_modify, if_pos rfl, found, Option.map_some]
  have clock : store'.clock = choice.now := applied ▸ rfl
  have secret := (lifecycle id _ approved (clock ▸ unexpired)).1.mpr rfl
  have none := (kept.lifecycle id row found (Nat.lt_of_le_of_lt later unexpired)).1.mp (by rw [applied] at secret; exact secret)
  exact Bool.false_ne_true (retired.symm.trans none)

end

/-! ## Runs -/

/-- The lifecycle holds in every state of a run exactly when every approval finds a donation that is still pending or
approved. -/
theorem lifecycle_iff (sha256 : String → String) {events : List Event} {world : World}
    (run : (host sha256).machine.Run Free ⟨{}, []⟩ events world) :
    (∀ first rest mid, events = first ++ rest → (host sha256).machine.Run Free ⟨{}, []⟩ first mid → Lifecycle mid.store) ↔
      (host sha256).machine.Run ApprovesActive ⟨{}, []⟩ events world := by
  refine Run.always_iff ApprovesActive (fun world => Kept world.store) (fun world => Lifecycle world.store)
    (fun _ kept => kept.lifecycle) ?_ run ⟨nofun, nofun, nofun⟩
  intro before event after kept stepped
  cases event with
  | start operation =>
    rw [Host.step?_start, Option.some.injEq] at stepped
    exact stepped ▸ ⟨iff_of_true kept.lifecycle trivial, fun _ => kept⟩
  | act position choice =>
    obtain ⟨command, next, store, reply, atPosition, executed, rfl⟩ := Host.step?_act_iff.mp stepped
    have executed : exec command choice before.store = some (store, reply) := executed
    rw [ApprovesActive, Host.acting_iff atPosition]
    have keeps (approves : ∀ id, command = .approve id → choice.delivery ≠ .refused →
        ∀ row, before.store.ai_donations.get? id = some row → choice.now < row.expires_at → row.status.active = true) :
        Kept store := kept_exec kept executed approves
    refine ⟨⟨fun lifecycle => ?_, fun approves => (keeps approves).lifecycle⟩, keeps⟩
    rintro id rfl effective row found unexpired
    cases active : row.status.active with
    | true => rfl
    | false => exact absurd lifecycle (broken_of_approval kept executed effective found unexpired active)

instance (world : World) (event : Event) : Decidable (ApprovesActive world event) :=
  match event with
  | .start _ => .isTrue trivial
  | .act position choice =>
    match found : world.tasks[position]? with
    | some (.call command next) =>
      match known : command with
      | .approve id => decidable_of_iff (choice.delivery ≠ .refused → ∀ row ∈ world.store.ai_donations.get? id,
            choice.now < row.expires_at → row.status.active = true) (by
          rw [ApprovesActive, Host.acting_iff found]
          exact ⟨fun met other same => Command.approve.inj same ▸ met, fun met => met id rfl⟩)
      | .rateLimit _ | .countActive .. | .insertDonation .. | .reject _ | .withdrawByAdmin _ | .selectDonation _
      | .withdraw _ | .selectPurgeable | .purge _ | .audit => .isTrue (by
          rw [ApprovesActive, Host.acting_iff found]
          exact nofun)
    | some (.done _) | some (.fail _) | none => .isTrue fun _ _ same => nomatch found.symm.trans same

namespace Sample

/-- A donation of `donor`, made alone. -/
def donated : List Event :=
  [.start (.createDonation ⟨"tenant", "donor", "sk-0123456789abcdefghij"⟩), .act 0 { now := 1000 }, .act 0 { now := 1000 },
    .act 0 { now := 1000, id := "donation" }]

/-- The donor withdraws, and the admin has approved before. -/
def approvedFirst : List Event := donated ++
  ([.start (.review "donation" .approved), .act 1 { now := 2000 }, .start (.withdrawDonation "donation" "donor"),
    .act 2 { now := 3000 }, .act 2 { now := 3000 }] : List Event)

/-- The admin approves from a card that is older than the withdrawal. -/
def withdrawnFirst : List Event := donated ++
  ([.start (.withdrawDonation "donation" "donor"), .act 1 { now := 2000 }, .act 1 { now := 2000 },
    .start (.review "donation" .approved), .act 2 { now := 3000 }] : List Event)

end Sample

/-- The approval comes before the withdrawal. -/
theorem lifecycle_iff_approvedFirst : ∃ world, (host id).machine.Run Free ⟨{}, []⟩ Sample.approvedFirst world ∧
    ((world.store.ai_donations.get? "donation").map (·.status)) = some .withdrawn ∧ Lifecycle world.store := by
  have evaluated : ((host id).machine.checked? (fun world event => decide (ApprovesActive world event)) ⟨{}, []⟩
      Sample.approvedFirst).any (fun world =>
        ((world.store.ai_donations.get? "donation").map (·.status)) = some .withdrawn) = true := by decide +kernel
  obtain ⟨world, replayed, status⟩ := (Option.any_eq_true _ _).mp evaluated
  have approves : (host id).machine.Run ApprovesActive ⟨{}, []⟩ Sample.approvedFirst world :=
    Run.of_checked (fun _ _ => of_decide_eq_true) replayed
  have run := approves.mono fun _ _ _ => trivial
  exact ⟨world, run, of_decide_eq_true status, (lifecycle_iff id run).mpr approves _ [] world (List.append_nil _).symm run⟩

/-- A withdrawn donation is approved, and its key is gone. -/
theorem approved_without_secret : ∃ world, (host id).machine.Run Free ⟨{}, []⟩ Sample.withdrawnFirst world ∧
    ((world.store.ai_donations.get? "donation").map (·.status)) = some .approved ∧
    (world.store.ai_donation_secrets.get? "donation") = none ∧ ¬ Lifecycle world.store := by
  have evaluated : ((host id).machine.replay? ⟨{}, []⟩ Sample.withdrawnFirst).any (fun world =>
      (((world.store.ai_donations.get? "donation").map fun row => (row.status, decide (world.store.clock < row.expires_at))) =
        some (.approved, true)) ∧ (world.store.ai_donation_secrets.get? "donation") = none) = true := by decide +kernel
  obtain ⟨world, replayed, checked⟩ := (Option.any_eq_true _ _).mp evaluated
  obtain ⟨status, gone⟩ := of_decide_eq_true checked
  obtain ⟨row, found, same⟩ := Option.map_eq_some_iff.mp status
  obtain ⟨approved, unexpired⟩ := Prod.mk.inj same
  refine ⟨world, Run.free_iff_replay.mpr replayed, by rw [found, Option.map_some, approved], gone, fun lifecycle => ?_⟩
  have secret := (lifecycle "donation" row found (of_decide_eq_true unexpired)).1.mpr (by rw [approved]; rfl)
  rw [gone] at secret
  exact absurd secret (by decide)

end OmniControlPlane.Portal.Donations
