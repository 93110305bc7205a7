import OmniControlPlane.Panel.Ledger

/-! # The device limit

A tunnel asks the ledger to admit its device before it opens, and reports the device when it ends.
Both record the device: `admit` before it counts, so that a refused device takes a place, and
`report` without counting. A place is free again five minutes after the last visit.
-/

namespace OmniControlPlane.Panel

open Lib Machine

namespace Devices

inductive Action where
  | admitDevice
  | report (up down : ℕ)
deriving DecidableEq, Repr

structure Request where
  user : String
  device : String
  action : Action
  clock : Clock
deriving DecidableEq, Repr

/-- A report may come without a device. -/
def Request.visits (request : Request) : Bool := request.action = .admitDevice || request.device ≠ ""

/-- The ledger, and what it was asked and answered, the latest first. -/
structure Register where
  ledger : Ledger := {}
  answered : List (Request × Ledger.Response) := []

variable (limit : String → ℕ)

/-- `fetch`, under the device limits of the users. -/
def fetch (ledger : Ledger) (request : Request) : Ledger × Ledger.Response :=
  match request.action with
  | .admitDevice => ledger.admitDevice request.user request.device (limit request.user) request.clock.now
  | .report up down => ledger.report request.user up down request.device request.clock

def register : Machine Register Request where
  step? before request :=
    let (ledger, response) := fetch limit before.ledger request
    some ⟨ledger, (request, response) :: before.answered⟩

/-- The devices of a user, with the time of their last visit. -/
def known (ledger : Ledger) (user : String) : OrderedMap String ℕ := (ledger.devices.get? user).getD .empty

/-- A visit at `seen` is less than five minutes ago, or just as long. -/
def Recent (now seen : ℕ) : Prop := now ≤ 5 * 60 * 1000 + seen

instance (now seen : ℕ) : Decidable (Recent now seen) := inferInstanceAs (Decidable (_ ≤ _))

def lastSeen (answered : List (Request × Ledger.Response)) (user device : String) : Option ℕ :=
  (answered.find? fun entry => entry.1.visits ∧ entry.1.user = user ∧ entry.1.device = device).map
    (·.1.clock.now)

/-- What was asked after the last visit of the device. -/
def since (answered : List (Request × Ledger.Response)) (user device : String) : List (Request × Ledger.Response) :=
  answered.takeWhile fun entry => !decide (entry.1.visits ∧ entry.1.user = user ∧ entry.1.device = device)

def Admitted (answered : List (Request × Ledger.Response)) (user device : String) : Prop :=
  ∃ entry ∈ answered, entry.1.action = .admitDevice ∧ entry.1.user = user ∧ entry.1.device = device ∧ entry.2.ok = true

instance (answered : List (Request × Ledger.Response)) (user device : String) :
    Decidable (Admitted answered user device) := inferInstanceAs (Decidable (∃ entry ∈ answered, _))

/-- An admitted device that was seen within five minutes. -/
def Present (answered : List (Request × Ledger.Response)) (now : ℕ) (user device : String) : Prop :=
  Admitted answered user device ∧ ∃ seen, lastSeen answered user device = some seen ∧ Recent now seen

/-- What the device limit promises for one request. -/
structure Kept (before : Register) (request : Request) (after : Register) : Prop where
  unrecorded : request.action = .admitDevice → (fetch limit before.ledger request).2.ok = false → ∀ device,
    ((known after.ledger request.user).get? device).isSome = ((known before.ledger request.user).get? device).isSome
  bounded : ∀ (user : String) (devices : List String), devices.Nodup →
    (∀ device ∈ devices, Present after.answered request.clock.now user device) → devices.length ≤ limit user
  readmitted : request.action = .admitDevice → Present before.answered request.clock.now request.user request.device →
    (fetch limit before.ledger request).2.ok = true

/-- A device that is not recorded comes only while fewer devices than the limit have been seen within
five minutes. -/
def Room (before : Register) (request : Request) : Prop :=
  request.visits = true → ((known before.ledger request.user).get? request.device).isSome ∨
    (known before.ledger request.user).entries.countP (fun entry => Recent request.clock.now entry.2) <
      limit request.user

/-- While an admitted device was seen within five minutes, no visit of its user since then has come more
than five minutes after it. -/
def Steady (before : Register) (request : Request) : Prop :=
  ∀ user device seen, Admitted before.answered user device → lastSeen before.answered user device = some seen →
    Recent request.clock.now seen → ∀ entry ∈ since before.answered user device,
      entry.1.visits = true → entry.1.user = user → Recent entry.1.clock.now seen

/-! ## The devices of one user -/

/-- What a visit makes of the devices of its user. -/
def touch (devices : OrderedMap String ℕ) (device : String) (now : ℕ) : OrderedMap String ℕ :=
  (devices.alter device fun _ => now).filter fun _ seen => !decide (5 * 60 * 1000 + seen < now)

section

variable {devices : OrderedMap String ℕ} {device other : String} {now seen : ℕ}

theorem keeps_recent (now seen : ℕ) : (!decide (5 * 60 * 1000 + seen < now)) = decide (Recent now seen) := by
  rw [← decide_not]
  exact decide_eq_decide.mpr Nat.not_lt

theorem get?_touch : (touch devices device now).get? other = some seen ↔
    if other = device then seen = now else devices.get? other = some seen ∧ Recent now seen := by
  rw [touch, OrderedMap.get?_filter_eq_some_iff, OrderedMap.get?_alter, keeps_recent, decide_eq_true_eq]
  split
  · simp only [Option.some.injEq, Recent]
    omega
  · rfl

theorem touch_records : ((touch devices device now).get? device).isSome := by
  have found : (touch devices device now).get? device = some now := get?_touch.mpr (by rw [if_pos rfl])
  rw [found]
  rfl

/-- A recorded device takes no further place. -/
theorem touch_length_of_recorded (recorded : (devices.get? device).isSome) :
    (touch devices device now).entries.length ≤ devices.entries.length := by
  have kept := List.length_filter_le (fun entry : String × ℕ => !decide (5 * 60 * 1000 + entry.2 < now))
    (devices.alter device fun _ => now).entries
  rw [OrderedMap.alter_length_of_present recorded] at kept
  exact kept

/-- A new device stands beside those seen within five minutes. -/
theorem touch_length_of_absent (absent : devices.get? device = none) :
    (touch devices device now).entries.length =
      devices.entries.countP (fun entry => Recent now entry.2) + 1 := by
  have itself : Recent now now := Nat.le_add_left now _
  simp only [touch, OrderedMap.filter, OrderedMap.alter_entries_of_absent absent, keeps_recent,
    List.filter_append, List.length_append, List.countP_eq_length_filter]
  rw [List.filter_cons_of_pos (by simpa using itself), List.filter_nil, List.length_singleton]

end

/-! ## One request -/

section

variable {ledger : Ledger} {user : String} {request : Request}

theorem known_touchDevice (name device : String) (now : ℕ) :
    known (ledger.touchDevice name device now) user =
      if user = name then touch (known ledger name) device now else known ledger user := by
  simp only [known, Ledger.touchDevice, OrderedMap.get?_alter]
  split <;> rfl

theorem scheduleFlush_devices (clock : Clock) : (ledger.scheduleFlush clock).devices = ledger.devices := by
  simp only [Ledger.scheduleFlush, Ledger.flush]
  repeat' split
  all_goals rfl

theorem deviceCount_eq (ledger : Ledger) (user : String) :
    ledger.deviceCount user = (known ledger user).entries.length := by
  simp only [Ledger.deviceCount, known]
  cases ledger.devices.get? user <;> rfl

/-- Every visit under a limit touches its device, and nothing else does. -/
theorem known_fetch (limited : request.visits = true → limit request.user ≠ 0) :
    known (fetch limit ledger request).1 user =
      if request.visits = true ∧ user = request.user then touch (known ledger user) request.device request.clock.now
      else known ledger user := by
  obtain ⟨name, device, action, clock⟩ := request
  cases action with
  | admitDevice =>
    have positive : limit name ≠ 0 := limited rfl
    simp only [fetch, Ledger.admitDevice, if_neg positive, known_touchDevice, Request.visits]
    split <;> simp_all
  | report up down =>
    have report : known (fetch limit ledger ⟨name, device, .report up down, clock⟩).1 user =
        known (if device = "" then ledger else ledger.touchDevice name device clock.now) user := by
      simp only [fetch, Ledger.report, known, scheduleFlush_devices]
      split <;> rfl
    rw [report]
    split
    · next empty => simp [Request.visits, empty]
    · next named =>
      rw [known_touchDevice]
      simp only [Request.visits]
      split <;> simp_all

/-- Under a limit a device is admitted when it finds a place. -/
theorem admit_ok (admits : request.action = .admitDevice) (limited : limit request.user ≠ 0) :
    (fetch limit ledger request).2.ok = decide
      ((touch (known ledger request.user) request.device request.clock.now).entries.length ≤ limit request.user) := by
  simp only [fetch, admits, Ledger.admitDevice, if_neg limited, deviceCount_eq, known_touchDevice, if_true]

end

theorem visits_of_admitting {request : Request} (admits : request.action = .admitDevice) : request.visits = true := by
  rw [Request.visits, admits]
  rfl

/-! ## Runs -/

/-- The ledger records the time of the last visit until a visit of the user comes too late for it, and no more
devices than the limit. -/
structure Sound (state : Register) : Prop where
  held : ∀ user device seen, (known state.ledger user).get? device = some seen →
    lastSeen state.answered user device = some seen
  recorded : ∀ user device seen, lastSeen state.answered user device = some seen →
    (∀ entry ∈ since state.answered user device, entry.1.visits = true → entry.1.user = user →
      Recent entry.1.clock.now seen) → (known state.ledger user).get? device = some seen
  fits : ∀ user, (known state.ledger user).entries.length ≤ limit user

variable {limit} {before after : Register} {request : Request} {user device : String} {now seen : ℕ}

theorem lastSeen_cons (response : Ledger.Response) (answered : List (Request × Ledger.Response)) :
    lastSeen ((request, response) :: answered) user device =
      if request.visits = true ∧ request.user = user ∧ request.device = device then some request.clock.now
      else lastSeen answered user device := by
  rw [lastSeen, List.find?_cons]
  split
  · next visit => rw [if_pos (of_decide_eq_true visit), Option.map_some]
  · next other =>
    rw [if_neg (of_decide_eq_false other)]
    rfl

theorem since_cons (response : Ledger.Response) (answered : List (Request × Ledger.Response))
    (other : ¬ (request.visits = true ∧ request.user = user ∧ request.device = device)) :
    since ((request, response) :: answered) user device = (request, response) :: since answered user device := by
  rw [since, List.takeWhile_cons, if_pos (by rw [decide_eq_false other]; rfl), since]

theorem mem_of_since {answered : List (Request × Ledger.Response)} {entry : Request × Ledger.Response}
    (member : entry ∈ since answered user device) : entry ∈ answered :=
  (List.takeWhile_sublist _).subset member

theorem step_cases (stepped : (register limit).step? before request = some after) :
    after.ledger = (fetch limit before.ledger request).1 ∧
      after.answered = (request, (fetch limit before.ledger request).2) :: before.answered := by
  obtain rfl := Option.some.inj stepped
  exact ⟨rfl, rfl⟩

/-- Where a recorded device visits, or a new one finds room, the limit is not zero. -/
theorem Room.limited (room : Room limit before request) (sound : Sound limit before)
    (visits : request.visits = true) : limit request.user ≠ 0 := by
  rcases room visits with recorded | below
  · obtain ⟨seen, found⟩ := Option.isSome_iff_exists.mp recorded
    have member := OrderedMap.mem_entries_iff.mpr found
    have fits := sound.fits request.user
    have some := List.length_pos_of_mem member
    omega
  · omega

/-- With room, the devices of the user still fit. -/
theorem Room.fits (room : Room limit before request) (sound : Sound limit before)
    (visits : request.visits = true) :
    (touch (known before.ledger request.user) request.device request.clock.now).entries.length ≤
      limit request.user := by
  rcases room visits with recorded | below
  · exact Nat.le_trans (touch_length_of_recorded recorded) (sound.fits request.user)
  · cases found : (known before.ledger request.user).get? request.device with
    | none =>
      rw [touch_length_of_absent found]
      exact below
    | some seen =>
      exact Nat.le_trans (touch_length_of_recorded (found ▸ rfl)) (sound.fits request.user)

theorem Sound.step (sound : Sound limit before) (room : Room limit before request)
    (stepped : (register limit).step? before request = some after) : Sound limit after := by
  obtain ⟨ledger, answered⟩ := step_cases stepped
  constructor
  · intro user device seen found
    rw [ledger, known_fetch limit (room.limited sound)] at found
    rw [answered, lastSeen_cons]
    split at found
    · next visit =>
      obtain ⟨visits, rfl⟩ := visit
      rw [get?_touch] at found
      split at found
      · next same => rw [if_pos ⟨visits, rfl, same.symm⟩, found]
      · next other =>
        rw [if_neg fun visit => other visit.2.2.symm]
        exact sound.held _ _ _ found.1
    · next elsewhere =>
      rw [if_neg fun visit => elsewhere ⟨visit.1, visit.2.1.symm⟩]
      exact sound.held _ _ _ found
  · intro user device seen latest within
    rw [ledger, known_fetch limit (room.limited sound)]
    rw [answered, lastSeen_cons] at latest
    split at latest
    · next visit =>
      obtain ⟨visits, rfl, rfl⟩ := visit
      rw [if_pos ⟨visits, rfl⟩, get?_touch, if_pos rfl]
      exact (Option.some.inj latest).symm
    · next other =>
      rw [answered, since_cons _ _ other, List.forall_mem_cons] at within
      have found := sound.recorded user device seen latest within.2
      split
      · next visit =>
        rw [get?_touch, if_neg fun same => other ⟨visit.1, visit.2.symm, same.symm⟩]
        exact ⟨found, within.1 visit.1 visit.2.symm⟩
      · exact found
  · intro user
    rw [ledger, known_fetch limit (room.limited sound)]
    split
    · next visit =>
      obtain ⟨visits, rfl⟩ := visit
      exact room.fits sound visits
    · exact sound.fits user

/-- After a step every device present at its time is recorded. -/
theorem Sound.present_recorded (sound : Sound limit before) (room : Room limit before request)
    (steady : Steady before request) (stepped : (register limit).step? before request = some after)
    (present : Present after.answered request.clock.now user device) :
    ((known after.ledger user).get? device).isSome := by
  obtain ⟨ledger, answered⟩ := step_cases stepped
  obtain ⟨admitted, seen, latest, recent⟩ := present
  rw [ledger, known_fetch limit (room.limited sound)]
  rw [answered, lastSeen_cons] at latest
  split at latest
  · next visit =>
    obtain ⟨visits, rfl, rfl⟩ := visit
    rw [if_pos ⟨visits, rfl⟩]
    exact touch_records
  · next other =>
    have earlier : Admitted before.answered user device := by
      obtain ⟨entry, member, admits, sameUser, sameDevice, ok⟩ := admitted
      rw [answered] at member
      rcases List.mem_cons.mp member with rfl | before
      · exact absurd ⟨visits_of_admitting admits, sameUser, sameDevice⟩ other
      · exact ⟨entry, before, admits, sameUser, sameDevice, ok⟩
    have found := sound.recorded user device seen latest (steady user device seen earlier latest recent)
    split
    · next visit =>
      have kept : (touch (known before.ledger user) request.device request.clock.now).get? device = some seen :=
        get?_touch.mpr (by
          rw [if_neg fun same => other ⟨visit.1, visit.2.symm, same.symm⟩]
          exact ⟨found, recent⟩)
      rw [kept]
      rfl
    · rw [found]
      rfl

/-- Present devices are recorded ones, and those fit. -/
theorem present_le_limit (sound : Sound limit after) {devices : List String} (distinct : devices.Nodup)
    (recorded : ∀ device ∈ devices, ((known after.ledger user).get? device).isSome) :
    devices.length ≤ limit user := by
  have listed : devices ⊆ (known after.ledger user).entries.map (·.1) := by
    intro device member
    obtain ⟨seen, found⟩ := Option.isSome_iff_exists.mp (recorded device member)
    exact List.mem_map.mpr ⟨_, OrderedMap.mem_entries_iff.mpr found, rfl⟩
  have fewer := (List.subperm_of_subset distinct listed).length_le
  rw [List.length_map] at fewer
  exact Nat.le_trans fewer (sound.fits user)

/-- With room, a device is admitted. -/
theorem admitted_of_room (sound : Sound limit before) (room : Room limit before request)
    (admits : request.action = .admitDevice) : (fetch limit before.ledger request).2.ok = true := by
  have visits := visits_of_admitting admits
  rw [admit_ok limit admits (room.limited sound visits)]
  exact decide_eq_true (room.fits sound visits)

theorem kept_of_room (sound : Sound limit before) (room : Room limit before request)
    (steady : Steady before request) (stepped : (register limit).step? before request = some after) :
    Kept limit before request after where
  unrecorded admits refused := by
    rw [admitted_of_room sound room admits] at refused
    contradiction
  bounded user devices distinct present := present_le_limit (sound.step room stepped) distinct
    fun device member => sound.present_recorded room steady stepped (present device member)
  readmitted admits _ := admitted_of_room sound room admits

/-- Without room, a new device is recorded and refused; without a limit, it is admitted. -/
theorem room_of_kept (admits : request.action = .admitDevice) (stepped : (register limit).step? before request = some after)
    (kept : Kept limit before request after) : Room limit before request := by
  intro visits
  by_contra crowded
  rw [not_or, Nat.not_lt, Bool.not_eq_true, Option.isSome_eq_false_iff, Option.isNone_iff_eq_none] at crowded
  obtain ⟨absent, full⟩ := crowded
  obtain ⟨ledger, answered⟩ := step_cases stepped
  by_cases limited : limit request.user = 0
  · have admitted : (fetch limit before.ledger request).2.ok = true := by
      simp only [fetch, admits, Ledger.admitDevice, if_pos limited]
    have present : Present after.answered request.clock.now request.user request.device := by
      rw [answered]
      refine ⟨⟨_, List.mem_cons_self, admits, rfl, rfl, admitted⟩, request.clock.now, ?_, Nat.le_add_left _ _⟩
      rw [lastSeen_cons, if_pos ⟨visits, rfl, rfl⟩]
    have one := kept.bounded request.user [request.device] (List.nodup_singleton _)
      fun device member => List.mem_singleton.mp member ▸ present
    rw [limited] at one
    contradiction
  · have refused : (fetch limit before.ledger request).2.ok = false := by
      rw [admit_ok limit admits limited, touch_length_of_absent absent]
      exact decide_eq_false (by omega)
    have same := kept.unrecorded admits refused request.device
    rw [ledger, known_fetch limit (fun _ => limited), if_pos ⟨visits, rfl⟩, touch_records, absent] at same
    contradiction

/-- The clock of a request is not behind that of an earlier one. -/
def Forward (before : Register) (request : Request) : Prop :=
  ∀ entry ∈ before.answered, entry.1.clock.now ≤ request.clock.now

instance (before : Register) (request : Request) : Decidable (Forward before request) :=
  inferInstanceAs (Decidable (∀ entry ∈ before.answered, _))

instance (before : Register) (request : Request) : Decidable (Room limit before request) :=
  inferInstanceAs (Decidable (_ → _))

/-- A clock that never goes back is steady: what is recent now was recent before. -/
theorem Forward.steady (forward : Forward before request) : Steady before request :=
  fun _ _ _ _ _ recent entry member _ _ => Nat.le_trans (forward entry (mem_of_since member)) recent

theorem sound_fresh {ledger : Ledger} (empty : ledger.devices = .empty) (limit : String → ℕ) :
    Sound limit ⟨ledger, []⟩ := by
  have none (user : String) : known ledger user = .empty := by
    rw [known, empty]
    rfl
  refine ⟨fun user device seen found => ?_, nofun, fun user => ?_⟩
  · rw [none] at found
    contradiction
  · rw [none]
    exact Nat.zero_le _

/-- As long as each new device finds room, the limit does what it promises; an `admit` without room
breaks it. -/
theorem device_limit_kept {ledger : Ledger} {requests : List Request} (empty : ledger.devices = .empty)
    (reached : (register limit).Run (fun state request => Steady state request ∧ Room limit state request) ⟨ledger, []⟩
      requests before)
    (stepped : (register limit).step? before request = some after) (steady : Steady before request) :
    (Room limit before request → Kept limit before request after) ∧
      (request.action = .admitDevice → Kept limit before request after → Room limit before request) := by
  have sound : Sound limit before := reached.preserves (Sound limit)
    (fun state request next sound met stepped => sound.step met.2 stepped) (sound_fresh empty limit)
  exact ⟨fun room => kept_of_room sound room steady stepped, fun admits kept => room_of_kept admits stepped kept⟩

namespace Sample

def admission (device : String) (now : ℕ) : Request := ⟨"user0", device, .admitDevice, ⟨now, "2026-09-12"⟩⟩

def report (device : String) (now : ℕ) : Request := ⟨"user0", device, .report 10 20, ⟨now, "2026-09-12"⟩⟩

/-- Two devices, one of which comes back after it was dropped. -/
def requests : List Request :=
  [admission "phone" 0, report "phone" 1000, admission "tablet" 2000, admission "tablet" 400000, admission "phone" 401000]

end Sample

theorem device_limit_kept_requests : ∃ before after,
    (register fun _ => 2).Run (fun state request => Steady state request ∧ Room (fun _ => 2) state request) {}
        Sample.requests before ∧
      (register fun _ => 2).step? before (Sample.report "phone" 402000) = some after ∧
        Kept (fun _ => 2) before (Sample.report "phone" 402000) after := by
  have evaluated : ((register fun _ => 2).checked? (fun state request =>
      Forward state request ∧ Room (fun _ => 2) state request) {} Sample.requests).any (fun before =>
        Forward before (Sample.report "phone" 402000) ∧ Room (fun _ => 2) before (Sample.report "phone" 402000)) =
      true := by decide +kernel
  obtain ⟨before, replayed, next⟩ := (Option.any_eq_true _ _).mp evaluated
  obtain ⟨forward, room⟩ := of_decide_eq_true next
  have run : (register fun _ => 2).Run (fun state request => Forward state request ∧ Room (fun _ => 2) state request)
      {} Sample.requests before := Run.of_checked (fun state request passed => of_decide_eq_true passed) replayed
  have reached := run.mono fun _ _ met => And.imp_left Forward.steady met
  exact ⟨before, _, reached, rfl, (device_limit_kept rfl reached rfl forward.steady).1 room⟩

/-- With one device allowed, a refused one takes the place of the admitted one. -/
theorem refused_device_shuts_out : ∃ before middle after,
    (register fun _ => 1).Run Free {} [Sample.admission "phone" 0] before ∧
      (register fun _ => 1).step? before (Sample.admission "tablet" 1000) = some middle ∧
      ¬ Kept (fun _ => 1) before (Sample.admission "tablet" 1000) middle ∧
      (register fun _ => 1).step? middle (Sample.admission "phone" 2000) = some after ∧
      ¬ Kept (fun _ => 1) middle (Sample.admission "phone" 2000) after := by
  obtain ⟨before, middle, after, first, second, third, refused, absent, recorded, shutOut, admitted, seen⟩ :
      ∃ before middle after, (register fun _ => 1).replay? {} [Sample.admission "phone" 0] = some before ∧
        (register fun _ => 1).step? before (Sample.admission "tablet" 1000) = some middle ∧
        (register fun _ => 1).step? middle (Sample.admission "phone" 2000) = some after ∧
        (fetch (fun _ => 1) before.ledger (Sample.admission "tablet" 1000)).2.ok = false ∧
        ((known before.ledger "user0").get? "tablet").isSome = false ∧
        ((known middle.ledger "user0").get? "tablet").isSome = true ∧
        (fetch (fun _ => 1) middle.ledger (Sample.admission "phone" 2000)).2.ok = false ∧
        Admitted middle.answered "user0" "phone" ∧ lastSeen middle.answered "user0" "phone" = some 0 :=
    ⟨_, _, _, rfl, rfl, rfl, by decide +kernel, by decide +kernel, by decide +kernel, by decide +kernel,
      by decide +kernel, by decide +kernel⟩
  refine ⟨before, middle, after, Run.free_iff_replay.mpr first, second, fun kept => ?_, third, fun kept => ?_⟩
  · have same := kept.unrecorded rfl refused "tablet"
    exact Bool.noConfusion (recorded.symm.trans (same.trans absent))
  · have ok := kept.readmitted rfl ⟨admitted, 0, seen, by decide⟩
    exact Bool.noConfusion (shutOut.symm.trans ok)

end Devices

end OmniControlPlane.Panel
