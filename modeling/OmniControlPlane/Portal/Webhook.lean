import Mathlib.Algebra.Group.Nat.Defs
import OmniControlPlane.Lib.Interleaving
import OmniControlPlane.Portal.Telegram

/-! # Deliveries of the webhook

Telegram delivers an update again until it gets an answer without an error. `handleTelegramWebhook`
records the update first, acknowledges what is recorded already, and then handles the update. Nothing
takes a record back, so an update whose handling throws is acknowledged and dropped when it is
delivered again.
-/

namespace OmniControlPlane.Portal

open Lib Machine Telegram

namespace Webhook

structure WebhookRequest where
  secret : String
  /-- What `readJson` makes of the body. -/
  body : Except HttpError TelegramUpdate

def isSafeInteger (number : ℤ) : Prop := number.natAbs < 2 ^ 53

instance (number : ℤ) : Decidable (isSafeInteger number) := inferInstanceAs (Decidable (_ < _))

/-- The checks before the first write to `telegram_updates`. -/
def WebhookRequest.update (site : Site) (request : WebhookRequest) : Except HttpError TelegramUpdate := do
  throwIf (site.TELEGRAM_WEBHOOK_SECRET = "" ∨ request.secret ≠ site.TELEGRAM_WEBHOOK_SECRET)
    ⟨401, "invalid_webhook_secret", "Unauthorized"⟩
  let update ← request.body
  throwIf (¬ isSafeInteger update.update_id) ⟨400, "invalid_update", "Invalid Telegram update"⟩
  return update

/-- Where a delivery stands: before its `INSERT`, behind it, or with what is left of the handling. -/
inductive Phase where
  | insert
  | acknowledged
  | thrown
  | handling (rest : Async Response)

/-- A delivery that has passed the checks, and whether its `INSERT` has put the record there. -/
structure Attempt where
  update : TelegramUpdate
  phase : Phase := .insert
  recorded : Bool := false

structure World where
  telegram_updates : List ℤ := []
  attempts : List Attempt := []

inductive Event where
  | deliver (request : WebhookRequest)
  | insert (index : ℕ) (delivery : Delivery) (now : ℤ)
  | call (index : ℕ) (answer : (call : Call) → Except Thrown (Answer call))

/-- `INSERT OR IGNORE INTO telegram_updates`; `changes` is 0 when the record is there. -/
def World.insert (site : Site) (world : World) (index : ℕ) (attempt : Attempt) (delivery : Delivery) (now : ℤ) :
    World :=
  let isNew : Bool := attempt.update.update_id ∉ world.telegram_updates
  let applied := if isNew then attempt.update.update_id :: world.telegram_updates else world.telegram_updates
  match delivery with
  | .answered =>
    let next : Phase := if isNew then .handling (handleUpdate site now attempt.update) else .acknowledged
    ⟨applied, world.attempts.set index { attempt with phase := next, recorded := isNew }⟩
  | .lost => ⟨applied, world.attempts.set index { attempt with phase := .thrown, recorded := isNew }⟩
  | .refused => { world with attempts := world.attempts.set index { attempt with phase := .thrown } }

def World.step? (site : Site) (world : World) : Event → Option World
  | .deliver request =>
    match request.update site with
    | .error _ => some world
    | .ok update => some { world with attempts := world.attempts ++ [{ update := update }] }
  | .insert index delivery now =>
    match world.attempts[index]? with
    | some attempt =>
      match attempt.phase with
      | .insert => some (world.insert site index attempt delivery now)
      | _ => none
    | none => none
  | .call index answer =>
    match world.attempts[index]? with
    | some attempt =>
      match attempt.phase with
      | .handling (.call call next) =>
        some { world with attempts := world.attempts.set index { attempt with phase := .handling (next (answer call)) } }
      | _ => none
    | none => none

def webhook (site : Site) : Machine World Event := ⟨World.step? site⟩

/-- The update is handled to completion. -/
def Attempt.completed (attempt : Attempt) : Bool :=
  match attempt.phase with
  | .handling (.done _) => true
  | _ => false

/-- The delivery is answered with an error. -/
def Attempt.failed (attempt : Attempt) : Bool :=
  match attempt.phase with
  | .thrown => true
  | .handling rest => rest.failed
  | .insert | .acknowledged => false

/-- The delivery is answered without being handled. -/
def Attempt.dropped (attempt : Attempt) : Bool :=
  match attempt.phase with
  | .acknowledged => true
  | _ => false

/-- How often an update is handled to completion. -/
def completions (attempts : List Attempt) (update_id : ℤ) : ℕ :=
  attempts.countP fun attempt => attempt.update.update_id = update_id ∧ attempt.completed

/-- An update whose handling has ended in an error is not left recorded. -/
def World.Redeliverable (world : World) : Prop :=
  ∀ attempt ∈ world.attempts, attempt.recorded = true → attempt.failed = true →
    attempt.update.update_id ∉ world.telegram_updates

/-- The `INSERT` of a new update is answered, when it is applied, and no call outside every `try` of the handler fails. -/
def Answered (world : World) : Event → Prop
  | .deliver _ => True
  | .insert index delivery _ => delivery = .lost → ∀ attempt ∈ world.attempts[index]?,
      attempt.update.update_id ∈ world.telegram_updates
  | .call index answer => ∀ attempt ∈ world.attempts[index]?, ∀ call next,
      attempt.phase = .handling (.call call next) → attempt.update.exposes call = true → ∃ value, answer call = .ok value

/-! ## One step -/

section

variable {site : Site} {world world' : World} {index : ℕ}

theorem insert_cases {delivery : Delivery} {now : ℤ}
    (stepped : (webhook site).step? world (.insert index delivery now) = some world') :
    ∃ attempt, world.attempts[index]? = some attempt ∧ attempt.phase = .insert ∧
      world' = world.insert site index attempt delivery now := by
  simp only [webhook, World.step?] at stepped
  split at stepped
  · next attempt found =>
    split at stepped
    · next phase => exact ⟨attempt, found, phase, (Option.some.inj stepped).symm⟩
    · contradiction
  · contradiction

theorem call_cases {answer : (call : Call) → Except Thrown (Answer call)}
    (stepped : (webhook site).step? world (.call index answer) = some world') :
    ∃ attempt call next, world.attempts[index]? = some attempt ∧ attempt.phase = .handling (.call call next) ∧
      world' = { world with
        attempts := world.attempts.set index { attempt with phase := .handling (next (answer call)) } } := by
  simp only [webhook, World.step?] at stepped
  split at stepped
  · next attempt found =>
    split at stepped
    · next call next phase => exact ⟨attempt, call, next, found, phase, (Option.some.inj stepped).symm⟩
    · contradiction
  · contradiction

end

/-! ## Runs -/

/-- The deliveries of an update that have recorded it. -/
def records (attempts : List Attempt) (update_id : ℤ) : ℕ :=
  attempts.countP fun attempt => attempt.update.update_id = update_id ∧ attempt.recorded = true

/-- The deliveries that have recorded an update and are answered with an error. -/
def strandings (attempts : List Attempt) : ℕ :=
  attempts.countP fun attempt => attempt.recorded = true ∧ attempt.failed = true

/-- One delivery at most records an update, and only such a delivery handles it. -/
structure Sound (world : World) : Prop where
  once : ∀ update_id, records world.attempts update_id ≤ 1
  kept : ∀ attempt ∈ world.attempts, attempt.recorded = true → attempt.update.update_id ∈ world.telegram_updates
  waits : ∀ attempt ∈ world.attempts, attempt.phase = .insert → attempt.recorded = false
  handles : ∀ attempt ∈ world.attempts, ∀ rest, attempt.phase = .handling rest → attempt.recorded = true
  exact : ∀ attempt ∈ world.attempts, ∀ rest, attempt.phase = .handling rest → rest.failed = false →
    Exposed attempt.update rest

section

variable {site : Site} {world world' : World} {index : ℕ} {attempt next : Attempt}

/-- Nobody has recorded an update that is not in the table. -/
theorem Sound.records_eq_zero (sound : Sound world) {update_id : ℤ} (absent : update_id ∉ world.telegram_updates) :
    records world.attempts update_id = 0 := by
  apply List.countP_eq_zero.mpr
  intro attempt member counted
  obtain ⟨rfl, recorded⟩ := of_decide_eq_true counted
  exact absent (sound.kept attempt member recorded)

/-- A delivery goes on: it has the record already, or takes it where nobody has it. -/
theorem Sound.set (sound : Sound world) {updates : List ℤ} (atIndex : world.attempts[index]? = some attempt)
    (grows : world.telegram_updates ⊆ updates) (same : next.update = attempt.update)
    (takes : next.recorded = true → attempt.recorded = true ∨ attempt.update.update_id ∉ world.telegram_updates)
    (kept : next.recorded = true → attempt.update.update_id ∈ updates)
    (waits : next.phase = .insert → next.recorded = false)
    (handles : ∀ rest, next.phase = .handling rest → next.recorded = true)
    (exact : ∀ rest, next.phase = .handling rest → rest.failed = false → Exposed next.update rest) :
    Sound ⟨updates, world.attempts.set index next⟩ where
  once update_id := by
    have moved := countP_set_add (fun attempt : Attempt =>
      attempt.update.update_id = update_id ∧ attempt.recorded = true) atIndex next
    have before := sound.once update_id
    simp only [same] at moved
    change records (world.attempts.set index next) update_id + _ = records world.attempts update_id + _ at moved
    change records (world.attempts.set index next) update_id ≤ 1
    by_cases takesIt : attempt.update.update_id = update_id ∧ next.recorded = true
    · obtain ⟨rfl, recorded⟩ := takesIt
      rcases takes recorded with already | absent
      · simp only [already, recorded, and_self, if_true] at moved
        omega
      · rw [sound.records_eq_zero absent] at moved
        simp only [recorded, and_self, if_true] at moved
        omega
    · rw [if_neg takesIt] at moved
      omega
  kept other member recorded := by
    rcases List.mem_or_eq_of_mem_set member with old | rfl
    · exact grows (sound.kept other old recorded)
    · rw [same]
      exact kept recorded
  waits other member phase := by
    rcases List.mem_or_eq_of_mem_set member with old | rfl
    · exact sound.waits other old phase
    · exact waits phase
  handles other member rest phase := by
    rcases List.mem_or_eq_of_mem_set member with old | rfl
    · exact sound.handles other old rest phase
    · exact handles rest phase
  exact other member rest phase := by
    rcases List.mem_or_eq_of_mem_set member with old | rfl
    · exact sound.exact other old rest phase
    · exact exact rest phase

/-- A delivery that is not answered yet adds to the strandings with what it does next. -/
theorem strandings_set (atIndex : world.attempts[index]? = some attempt) (unanswered : attempt.failed = false) :
    strandings (world.attempts.set index next) =
      strandings world.attempts + if next.recorded = true ∧ next.failed = true then 1 else 0 := by
  have moved := countP_set_add (fun attempt : Attempt => attempt.recorded = true ∧ attempt.failed = true)
    atIndex next
  simpa only [strandings, unanswered, Bool.false_eq_true, and_false, if_false, Nat.add_zero] using moved

theorem Sound.insert (sound : Sound world) (atIndex : world.attempts[index]? = some attempt)
    (phase : attempt.phase = .insert) (delivery : Delivery) (now : ℤ) :
    Sound (world.insert site index attempt delivery now) := by
  have unrecorded := sound.waits attempt (List.mem_of_getElem? atIndex) phase
  have stays : world.telegram_updates ⊆ world.telegram_updates := fun _ member => member
  by_cases present : attempt.update.update_id ∈ world.telegram_updates
  · cases delivery with
    | refused => exact sound.set atIndex stays rfl .inl (fun _ => present) nofun nofun nofun
    | lost | answered =>
      simp only [World.insert, present, not_true, decide_false, Bool.false_eq_true, if_false]
      exact sound.set atIndex stays rfl nofun nofun nofun nofun nofun
  · cases delivery with
    | refused =>
      refine sound.set atIndex stays rfl .inl (fun recorded => ?_) nofun nofun nofun
      exact absurd recorded (unrecorded ▸ Bool.false_ne_true)
    | lost =>
      simp only [World.insert, present, not_false_eq_true, decide_true, if_true]
      exact sound.set atIndex (List.subset_cons_self _ _) rfl (fun _ => .inr present)
        (fun _ => List.mem_cons_self) nofun nofun nofun
    | answered =>
      simp only [World.insert, present, not_false_eq_true, decide_true, if_true]
      refine sound.set atIndex (List.subset_cons_self _ _) rfl (fun _ => .inr present)
        (fun _ => List.mem_cons_self) nofun (fun _ _ => rfl) fun rest same _ => ?_
      exact Phase.handling.inj same ▸ handleUpdate_exposed now attempt.update

/-- An `INSERT` strands its update when it is applied to a new one and not answered. -/
theorem strandings_insert (sound : Sound world) (atIndex : world.attempts[index]? = some attempt)
    (phase : attempt.phase = .insert) (delivery : Delivery) (now : ℤ) :
    strandings (world.insert site index attempt delivery now).attempts = strandings world.attempts +
      if delivery = .lost ∧ attempt.update.update_id ∉ world.telegram_updates then 1 else 0 := by
  have unrecorded := sound.waits attempt (List.mem_of_getElem? atIndex) phase
  have unanswered : attempt.failed = false := by rw [Attempt.failed, phase]
  by_cases present : attempt.update.update_id ∈ world.telegram_updates
  · cases delivery with
    | refused | lost | answered =>
      simp only [World.insert, present, not_true, decide_false, Bool.false_eq_true, if_false]
      rw [strandings_set atIndex unanswered]
      simp [unrecorded, Attempt.failed]
  · cases delivery with
    | refused | lost =>
      simp only [World.insert, present, not_false_eq_true, decide_true, if_true]
      rw [strandings_set atIndex unanswered]
      simp [unrecorded, Attempt.failed]
    | answered =>
      have begins : (Attempt.failed { attempt with
          phase := .handling (handleUpdate site now attempt.update), recorded := true }) = false :=
        (handleUpdate_exposed now attempt.update).failed
      simp only [World.insert, present, not_false_eq_true, decide_true, if_true]
      rw [strandings_set atIndex unanswered]
      simp [begins]

/-- An answer strands the update of a handler that throws on it. -/
theorem strandings_call (sound : Sound world) (atIndex : world.attempts[index]? = some attempt) {call : Call}
    {resume : Except Thrown (Answer call) → Async Response} (phase : attempt.phase = .handling (.call call resume))
    (rest : Async Response) :
    strandings (world.attempts.set index { attempt with phase := .handling rest }) =
      strandings world.attempts + if rest.failed = true then 1 else 0 := by
  have unanswered : attempt.failed = false := by
    rw [Attempt.failed, phase]
    rfl
  have recorded := sound.handles attempt (List.mem_of_getElem? atIndex) _ phase
  rw [strandings_set atIndex unanswered]
  simp [Attempt.failed, recorded]

/-- One step: the strandings never become fewer, and stay exactly where the step is answered. -/
theorem Sound.step {event : Event} (sound : Sound world) (stepped : (webhook site).step? world event = some world') :
    Sound world' ∧ strandings world.attempts ≤ strandings world'.attempts ∧
      (strandings world'.attempts = strandings world.attempts ↔ Answered world event) := by
  cases event with
  | deliver request =>
    simp only [webhook, World.step?] at stepped
    split at stepped
    · obtain rfl := Option.some.inj stepped
      exact ⟨sound, Nat.le_refl _, iff_of_true rfl trivial⟩
    · next update _ =>
      obtain rfl := Option.some.inj stepped
      have same : strandings (world.attempts ++ [{ update := update }]) = strandings world.attempts := by
        simp [strandings]
      refine ⟨⟨fun update_id => ?_, ?_, ?_, ?_, ?_⟩, Nat.le_of_eq same.symm, iff_of_true same trivial⟩
      · have before := sound.once update_id
        simpa [records] using before
      · intro attempt member recorded
        rcases List.mem_append.mp member with old | new
        · exact sound.kept attempt old recorded
        · rw [List.mem_singleton.mp new] at recorded
          contradiction
      · intro attempt member phase
        rcases List.mem_append.mp member with old | new
        · exact sound.waits attempt old phase
        · rw [List.mem_singleton.mp new]
      · intro attempt member rest phase
        rcases List.mem_append.mp member with old | new
        · exact sound.handles attempt old rest phase
        · rw [List.mem_singleton.mp new] at phase
          exact Phase.noConfusion phase
      · intro attempt member rest phase
        rcases List.mem_append.mp member with old | new
        · exact sound.exact attempt old rest phase
        · rw [List.mem_singleton.mp new] at phase
          exact Phase.noConfusion phase
  | insert index delivery now =>
    obtain ⟨attempt, atIndex, phase, rfl⟩ := insert_cases stepped
    have moved : strandings (world.insert site index attempt delivery now).attempts = _ :=
      strandings_insert sound atIndex phase delivery now
    refine ⟨sound.insert atIndex phase delivery now, moved ▸ Nat.le_add_right _ _, ?_⟩
    rw [moved]
    constructor
    · intro level lost other there
      cases atIndex.symm.trans there
      by_contra absent
      rw [if_pos ⟨lost, absent⟩] at level
      omega
    · intro answered
      rw [if_neg, Nat.add_zero]
      rintro ⟨lost, absent⟩
      exact absent (answered lost attempt atIndex)
  | call index answer =>
    obtain ⟨attempt, call, resume, atIndex, phase, rfl⟩ := call_cases stepped
    have member := List.mem_of_getElem? atIndex
    have recorded := sound.handles attempt member _ phase
    have moved := strandings_call sound atIndex phase (resume (answer call))
    obtain ⟨throws, onward⟩ := (sound.exact attempt member _ phase rfl).next (answer call)
    refine ⟨?_, moved ▸ Nat.le_add_right _ _, ?_⟩
    · exact sound.set atIndex (fun _ member => member) rfl (fun _ => .inl recorded)
        (fun _ => sound.kept attempt member recorded) nofun (fun _ _ => recorded) fun rest same =>
        Phase.handling.inj same ▸ onward
    · rw [moved, Nat.add_eq_left, ite_eq_right_iff, throws]
      constructor
      · intro level other there call' next phase' outside
        cases atIndex.symm.trans there
        cases phase.symm.trans phase'
        cases answered : answer call with
        | ok value => exact ⟨value, rfl⟩
        | error error => exact absurd (level ⟨outside, error, answered⟩) Nat.one_ne_zero
      · rintro answered ⟨outside, error, failed⟩
        obtain ⟨value, ok⟩ := answered attempt atIndex call resume phase outside
        rw [failed] at ok
        contradiction

theorem Sound.redeliverable_iff (sound : Sound world) : world.Redeliverable ↔ strandings world.attempts = 0 := by
  rw [strandings, List.countP_eq_zero]
  constructor
  · intro redeliverable attempt member stranded
    obtain ⟨recorded, failed⟩ := of_decide_eq_true stranded
    exact redeliverable attempt member recorded failed (sound.kept attempt member recorded)
  · intro none attempt member recorded failed
    exact absurd (decide_eq_true ⟨recorded, failed⟩) (none attempt member)

theorem Sound.completions_le_records (sound : Sound world) (update_id : ℤ) :
    completions world.attempts update_id ≤ records world.attempts update_id := by
  apply List.countP_mono_left
  intro attempt member counted
  obtain ⟨same, completed⟩ := of_decide_eq_true counted
  rw [Attempt.completed] at completed
  split at completed
  · next value phase => exact decide_eq_true ⟨same, sound.handles attempt member _ phase⟩
  · contradiction

theorem Sound.empty : Sound {} where
  once _ := Nat.zero_le _
  kept _ member := absurd member List.not_mem_nil
  waits _ member := absurd member List.not_mem_nil
  handles _ member := absurd member List.not_mem_nil
  exact _ member := absurd member List.not_mem_nil

theorem Sound.run {events : List Event} (run : (webhook site).Run Free {} events world) : Sound world := by
  exact run.preserves Sound (fun _ _ _ sound _ stepped => (sound.step stepped).1) Sound.empty

/-- In every run an update is handled to completion once at most, and none whose handling has ended in an
error is left recorded exactly where every step is answered. -/
theorem delivered_once_iff {events : List Event} (run : (webhook site).Run Free {} events world) :
    (∀ update_id, completions world.attempts update_id ≤ 1) ∧
      (world.Redeliverable ↔ (webhook site).Run Answered {} events world) := by
  have sound := Sound.run run
  constructor
  · intro update_id
    exact Nat.le_trans (sound.completions_le_records update_id) (sound.once update_id)
  · rw [sound.redeliverable_iff]
    exact (Run.level_iff Answered Sound (fun world => strandings world.attempts)
      (fun _ _ _ sound stepped => sound.step stepped) run Sound.empty).2

end

namespace Sample

/-- A bot without a fallback, whose conversations and buttons do nothing. -/
def site : Site where
  TELEGRAM_WEBHOOK_SECRET := "secret"
  BOT_USERNAME := "omni_bot"
  fallback := false
  isAdminUserId _ := false
  toLowerCase text := text
  conversation _ _ _ := pure .ok
  button _ _ := pure ()

def user : TelegramFrom := { id := 7, first_name := "Sara" }

/-- The user sends `/help`. -/
def request : WebhookRequest where
  secret := "secret"
  body := .ok {
    update_id := 4201
    message := some {
      message_id := 1
      chat := ⟨7, "private"⟩
      from_ := some user
      text := some "/help"
      date := some 1000 } }

/-- Every call is answered. -/
def answered : (call : Call) → Except Thrown (Answer call)
  | .rateLimit .. | .fetch _ => .ok true
  | .ensureTenant _ => .ok ⟨"tenant", "Sara"⟩
  | .loadWizard _ | .loadPanelFlow _ => .ok none
  | .processWizardText .. | .view .. | .other _ => .ok ""
  | .answerCallback .. | .clearWizard _ | .clearPanelFlow _ | .savePanelFlow .. => .ok ()

/-- An update that is delivered twice at the same time. -/
def twice : List Event :=
  [.deliver request, .deliver request, .insert 0 .answered 1000000, .insert 1 .answered 1000000, .call 0 answered,
    .call 0 answered]

/-- The database fails while the rate limit is read, and Telegram delivers the update again. -/
def again : List Event :=
  [.deliver request, .insert 0 .answered 1000000, .call 0 fun _ => .error (.other "D1_ERROR"), .deliver request,
    .insert 1 .answered 1001000]

end Sample
theorem delivered_once_iff_twice : ∃ finish, (webhook Sample.site).Run Free {} Sample.twice finish ∧
    completions finish.attempts 4201 = 1 ∧ (∀ update_id, completions finish.attempts update_id ≤ 1) ∧
      (finish.Redeliverable ↔ (webhook Sample.site).Run Answered {} Sample.twice finish) := by
  have evaluated : ((webhook Sample.site).replay? {} Sample.twice).any
      (fun finish => completions finish.attempts 4201 == 1) = true := by decide +kernel
  obtain ⟨finish, replayed, completed⟩ := (Option.any_eq_true _ _).mp evaluated
  have run := Run.free_iff_replay.mpr replayed
  exact ⟨finish, run, eq_of_beq completed, delivered_once_iff run⟩

/-- An update whose handling has thrown is acknowledged, without being handled, when it comes again. -/
theorem failed_update_dropped : ∃ finish, (webhook Sample.site).Run Free {} Sample.again finish ∧
    ¬ finish.Redeliverable ∧ completions finish.attempts 4201 = 0 ∧ finish.attempts.any (·.dropped) = true := by
  have evaluated : ((webhook Sample.site).replay? {} Sample.again).any (fun finish =>
      finish.attempts.any (fun attempt => attempt.recorded && attempt.failed &&
        attempt.update.update_id ∈ finish.telegram_updates) &&
          completions finish.attempts 4201 == 0 && finish.attempts.any (·.dropped)) = true := by decide +kernel
  obtain ⟨finish, replayed, found⟩ := (Option.any_eq_true _ _).mp evaluated
  simp only [Bool.and_eq_true, beq_iff_eq] at found
  obtain ⟨⟨stranded, uncompleted⟩, dropped⟩ := found
  refine ⟨finish, Run.free_iff_replay.mpr replayed, fun redeliverable => ?_, uncompleted, dropped⟩
  obtain ⟨attempt, member, left⟩ := List.any_eq_true.mp stranded
  simp only [Bool.and_eq_true, decide_eq_true_eq] at left
  exact redeliverable attempt member left.1.1 left.1.2 left.2

end Webhook

end OmniControlPlane.Portal
