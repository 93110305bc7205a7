import OmniControlPlane.Panel.Connection

/-! # Admission control at the tunnel

The handler never calls the admission control that its module exports. A run goes through reports
and flushes of the ledger, whatever the rest of the panel writes into the users table, and
connections; a connection is one event, since the handler reads the row of its user once.
-/

namespace OmniControlPlane.Panel

open Lib Machine

/-- A request with what it meets: the answer of the ledger, the first message of the client, the
answer of the resolver, the index of the proxy, and the time. -/
structure Attempt where
  request : WebSocketRequest
  delivery : Delivery := .answered
  message : List UInt8 := []
  resolved : Except String String := .error ""
  pick : ℕ := 0
  clock : Clock

/-- The stream of a tunnel starts with the early data. -/
def Attempt.chunk (attempt : Attempt) : List UInt8 := attempt.request.firstChunk.getD attempt.message

/-- An upstream connection, with the user as the handler has read it and the time of the request. -/
structure Opened where
  user : User
  now : ℤ
  upstream : Upstream

inductive Stop where
  | refusal (refusal : Refusal)
  | failure (failure : Failure)
deriving DecidableEq, Repr

/-- A connection, up to its upstream. -/
def Attempt.connect (platform : Platform) (world : World) (attempt : Attempt) : World × Except Stop Opened :=
  let (world, accepted) := platform.handshake world attempt.request attempt.delivery attempt.clock.now
  match accepted with
  | .error refusal => (world, .error (.refusal refusal))
  | .ok (user, _) =>
    match platform.openTunnel user attempt.chunk attempt.resolved attempt.pick with
    | .error failure => (world, .error (.failure failure))
    | .ok upstream => (world, .ok ⟨user, attempt.clock.now, upstream⟩)

/-- The panel with every upstream connection it has opened. -/
structure Gateway where
  world : World
  tunnels : List Opened := []

inductive Visit where
  | ledger (event : Event)
  | users (users : Users)
  | connect (attempt : Attempt)

def Gateway.step? (platform : Platform) (gateway : Gateway) : Visit → Option Gateway
  | .ledger event => (gateway.world.step? event).map fun world => { gateway with world := world }
  | .users users => some { gateway with world := { gateway.world with db := { gateway.world.db with users := users } } }
  | .connect attempt =>
    let (world, opened) := attempt.connect platform gateway.world
    some ⟨world, gateway.tunnels ++ opened.toOption.toList⟩

def gateway (platform : Platform) : Machine Gateway Visit := ⟨Gateway.step? platform⟩

/-! ## What a connection has to pass -/

/-- The checks that stand between a request and its upstream. -/
structure Attempt.Passes (platform : Platform) (world : World) (attempt : Attempt) (user : User)
    (header : VlessHeader) : Prop where
  upgrade : toLowerAscii (attempt.request.upgrade.getD "").toList = "websocket"
  path : uuidFromRequest attempt.request.pathname = some user.uuid
  known : getUserByUuid world.db.users user.uuid attempt.clock.now = some user
  device : platform.DeviceAllowed world user (platform.deviceHash user.uuid attempt.request)
    attempt.delivery attempt.clock.now
  parsed : parseVlessHeader attempt.chunk = .ok header
  owner : header.uuid = user.uuid
  unblocked : user.block_list = [] ∨ matchesBlock platform.toLowerCase header.address user.block_list = false
  tcp : header.isUDP = false
  address : isIpv4 header.address = true ∨ isIpv6 header.address = true ∨
    ∃ address, attempt.resolved = .ok address

/-- Admission control accepts the user of a tunnel at the time of its request. -/
def Opened.Admitted (opened : Opened) : Prop := admitUser (some opened.user) opened.now = .ok opened.user

/-- A connection is stopped by one of the checks, or its user is within the limits. -/
def StoppedOrWithinLimits (platform : Platform) (gateway : Gateway) : Visit → Prop
  | .connect attempt => ∀ user header, attempt.Passes platform gateway.world user header →
      user.WithinLimits attempt.clock.now
  | _ => True

section

variable {platform : Platform} {world : World} {attempt : Attempt} {user : User} {header : VlessHeader}
  {opened : Opened} {start mid finish : Gateway} {visits : List Visit}

theorem connect_ok_iff_handshake : (attempt.connect platform world).2 = .ok opened ↔
    ∃ device, (platform.handshake world attempt.request attempt.delivery attempt.clock.now).2 =
        .ok (opened.user, device) ∧ opened.now = attempt.clock.now ∧
      platform.openTunnel opened.user attempt.chunk attempt.resolved attempt.pick = .ok opened.upstream := by
  unfold Attempt.connect
  generalize platform.handshake world attempt.request attempt.delivery attempt.clock.now = answer
  obtain ⟨world', accepted⟩ := answer
  cases accepted with
  | error refusal => simp
  | ok accepted =>
    obtain ⟨user, device⟩ := accepted
    dsimp only
    constructor
    · intro connected
      split at connected
      · contradiction
      · next upstream dialled =>
        obtain rfl := Except.ok.inj connected
        exact ⟨device, rfl, rfl, dialled⟩
    · rintro ⟨device', same, now, dialled⟩
      obtain ⟨rfl, rfl⟩ := Prod.mk.inj (Except.ok.inj same)
      rw [dialled]
      obtain ⟨user, openedAt, upstream⟩ := opened
      obtain rfl : openedAt = attempt.clock.now := now
      rfl

/-- A connection is opened exactly when it passes the checks. -/
theorem connect_ok_iff : (attempt.connect platform world).2 = .ok opened ↔
    ∃ header, attempt.Passes platform world opened.user header ∧ opened.now = attempt.clock.now ∧
      dial opened.user header attempt.resolved attempt.pick = .ok opened.upstream := by
  simp only [connect_ok_iff_handshake, handshake_ok_iff, openTunnel_ok_iff, readHeader_ok_iff]
  constructor
  · rintro ⟨device, ⟨upgrade, uuid, path, known, rfl, allowed⟩, now, header, payload, read, dialled⟩
    obtain ⟨parsed, owner, unblocked, tcp, rfl⟩ := read
    obtain rfl := getUserByUuid_uuid known
    have address := host_ok_iff.mp (dial_ok_iff.mp ⟨_, dialled⟩)
    exact ⟨header, ⟨upgrade, path, known, allowed, parsed, owner, unblocked, tcp, address⟩, now, dialled⟩
  · rintro ⟨header, passes, now, dialled⟩
    exact ⟨_, ⟨passes.upgrade, _, passes.path, passes.known, rfl, passes.device⟩, now, header, _,
      ⟨passes.parsed, passes.owner, passes.unblocked, passes.tcp, rfl⟩, dialled⟩

/-- What passes the checks is opened. -/
theorem Attempt.Passes.opens (passes : attempt.Passes platform world user header) : ∃ upstream,
    (attempt.connect platform world).2 = .ok ⟨user, attempt.clock.now, upstream⟩ := by
  obtain ⟨upstream, dialled⟩ := dial_ok_iff.mpr (host_ok_iff.mpr passes.address)
  exact ⟨upstream, connect_ok_iff.mpr ⟨header, passes, rfl, dialled⟩⟩

/-- An opened connection is admitted exactly when its attempt was stopped or within the limits. -/
theorem admitted_iff (connected : (attempt.connect platform mid.world).2 = .ok opened) :
    opened.Admitted ↔ StoppedOrWithinLimits platform mid (.connect attempt) := by
  obtain ⟨header, passes, now, _⟩ := connect_ok_iff.mp connected
  unfold Opened.Admitted
  rw [admitUser_accepts_iff, now]
  constructor
  · intro within user header' passes'
    obtain ⟨upstream, opens⟩ := passes'.opens
    have same : opened = ⟨user, attempt.clock.now, upstream⟩ := Except.ok.inj (connected.symm.trans opens)
    rw [same] at within
    exact within
  · intro limited
    exact limited _ header passes

/-- An attempt that opens nothing was stopped. -/
theorem stopped_of_error {stop : Stop} (failed : (attempt.connect platform mid.world).2 = .error stop) :
    StoppedOrWithinLimits platform mid (.connect attempt) := by
  intro user header passes
  obtain ⟨upstream, opens⟩ := passes.opens
  rw [failed] at opens
  contradiction

open Classical in
/-- The number of tunnels that admission control would have refused. -/
noncomputable def Gateway.unadmitted (gateway : Gateway) : ℕ :=
  gateway.tunnels.countP fun opened => ¬ opened.Admitted

theorem unadmitted_eq_zero_iff : finish.unadmitted = 0 ↔ ∀ opened ∈ finish.tunnels, opened.Admitted := by
  unfold Gateway.unadmitted
  simp [List.countP_eq_zero]

theorem step?_connect : (gateway platform).step? start (.connect attempt) =
    some ⟨(attempt.connect platform start.world).1,
      start.tunnels ++ (attempt.connect platform start.world).2.toOption.toList⟩ := rfl

/-- A step adds an unadmitted tunnel exactly when it breaks the condition. -/
theorem unadmitted_step {visit : Visit} (stepped : (gateway platform).step? start visit = some mid) :
    start.unadmitted ≤ mid.unadmitted ∧
      (mid.unadmitted = start.unadmitted ↔ StoppedOrWithinLimits platform start visit) := by
  cases visit with
  | ledger event =>
    obtain ⟨world, _, rfl⟩ := Option.map_eq_some_iff.mp stepped
    exact ⟨Nat.le_refl _, iff_of_true rfl trivial⟩
  | users users =>
    obtain rfl := Option.some.inj stepped
    exact ⟨Nat.le_refl _, iff_of_true rfl trivial⟩
  | connect attempt =>
    rw [step?_connect, Option.some.injEq] at stepped
    subst stepped
    unfold Gateway.unadmitted
    rw [List.countP_append]
    cases connected : (attempt.connect platform start.world).2 with
    | error stop =>
      have stopped : StoppedOrWithinLimits platform start (.connect attempt) := stopped_of_error connected
      simp [Except.toOption, stopped]
    | ok opened =>
      rw [← admitted_iff connected]
      by_cases admitted : opened.Admitted
      · simp [Except.toOption, admitted]
      · simp [Except.toOption, admitted]

/-- From a panel without tunnels, every tunnel of a run is of a user whom admission control accepts
at the request, exactly when each connection of the run is stopped by another check or is within the
limits of its user. -/
theorem only_admitted_iff (fresh : start.tunnels = []) (run : (gateway platform).Run Free start visits finish) :
    (∀ opened ∈ finish.tunnels, admitUser (some opened.user) opened.now = .ok opened.user) ↔
      (gateway platform).Run (StoppedOrWithinLimits platform) start visits finish := by
  have none : start.unadmitted = 0 := by
    rw [unadmitted_eq_zero_iff, fresh]
    exact fun _ => nofun
  have level := (run.level_iff (StoppedOrWithinLimits platform) (fun _ => True) Gateway.unadmitted
    (fun before visit after _ stepped => ⟨trivial, unadmitted_step stepped⟩) trivial).2
  rw [none, unadmitted_eq_zero_iff] at level
  exact level

end

namespace Sample

/-- One user with a quota of one gigabyte. -/
def gateway : Gateway where
  world := {
    db := {
      users := OrderedMap.empty.alter "user0" fun _ => { uuid := uuid, quota_gb := 1 }
      usage_daily := .empty } }

/-- An upgrade at `/uuid`, then the header. -/
def attempt : Attempt where
  request := { upgrade := some "websocket", pathname := "/" ++ uuid }
  message := header
  clock := ⟨2, "2026-09-12"⟩

/-- The user's usage reaches the table, then the user connects. -/
def visits (used : ℕ) : List Visit :=
  [.ledger (.report "user0" used 0 "" ⟨0, "2026-09-12"⟩), .ledger (.batch 0 .answered ⟨1, "2026-09-12"⟩),
    .connect attempt]

end Sample

/-- Below the quota. -/
theorem only_admitted_iff_sample : ∃ finish,
    (gateway Sample.platform).Run Free Sample.gateway (Sample.visits 1000) finish ∧ finish.tunnels.length = 1 ∧
      (gateway Sample.platform).Run (StoppedOrWithinLimits Sample.platform) Sample.gateway (Sample.visits 1000)
        finish := by
  have evaluated : ((gateway Sample.platform).replay? Sample.gateway (Sample.visits 1000)).any
      (fun finish => finish.tunnels.length == 1 && finish.tunnels.all fun opened =>
        decide (admitUser (some opened.user) opened.now = .ok opened.user)) = true := by decide +kernel
  obtain ⟨finish, replayed, checked⟩ := (Option.any_eq_true _ _).mp evaluated
  simp only [Bool.and_eq_true, beq_iff_eq, List.all_eq_true, decide_eq_true_eq] at checked
  have run := Run.free_iff_replay.mpr replayed
  exact ⟨finish, run, checked.1, (only_admitted_iff rfl run).mp checked.2⟩

/-- A user who has used up the quota obtains a tunnel. -/
theorem exhausted_user_connects : ∃ finish,
    (gateway Sample.platform).Run Free Sample.gateway (Sample.visits (1024 ^ 3)) finish ∧
      ∃ opened ∈ finish.tunnels, opened.upstream = .direct "93.184.216.34" 443 ∧
        admitUser (some opened.user) opened.now = .error (.forbidden "حجم تمام شده") := by
  have evaluated : ((gateway Sample.platform).replay? Sample.gateway (Sample.visits (1024 ^ 3))).any
      (fun finish => finish.tunnels.any fun opened =>
        decide (opened.upstream = .direct "93.184.216.34" 443 ∧
          admitUser (some opened.user) opened.now = .error (.forbidden "حجم تمام شده"))) = true := by decide +kernel
  obtain ⟨finish, replayed, checked⟩ := (Option.any_eq_true _ _).mp evaluated
  obtain ⟨opened, member, refused⟩ := List.any_eq_true.mp checked
  exact ⟨finish, Run.free_iff_replay.mpr replayed, opened, member, of_decide_eq_true refused⟩

end OmniControlPlane.Panel
