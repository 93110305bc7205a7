import OmniControlPlane.Panel.Ledger
import OmniControlPlane.Panel.Vless

/-! # From a WebSocket request to an upstream

The parts of `handleVlessWebSocket` and `openTunnel` in the order in which a connection goes through
them: what is checked before the WebSocket is accepted, what is read off the first chunk, and which
upstream is connected. The row of the user is read once, at the request.
-/

namespace OmniControlPlane.Panel

open Lib

/-- The functions of the platform, and whether the worker has a ledger. -/
structure Platform where
  sha256 : List UInt8 → List UInt8
  toLowerCase : String → String
  ledger : Bool := true

/-- What the handler reads of a request; a missing header is `none`. -/
structure WebSocketRequest where
  upgrade : Option String
  pathname : String
  connectingIp : Option String := none
  userAgent : Option String := none
  protocol : Option String := none
deriving DecidableEq, Repr

structure Refusal where
  status : ℕ
  text : String
deriving DecidableEq, Repr

namespace Platform

variable (platform : Platform)

def sha8 (text : String) : String :=
  String.ofList (((platform.sha256 (utf8 text)).take 8).flatMap hexByte)

/-- A missing header is the word `null` in the text that is hashed. -/
def deviceHash (uuid : String) (request : WebSocketRequest) : String :=
  let ip := request.connectingIp.getD "null"
  let agent := request.userAgent.getD "null"
  platform.sha8 s!"{uuid}|{ip}|{agent}"

/-- The device check, which an error of the ledger does not stop. -/
def checkDevice (world : World) (user : User) (device : String) (delivery : Delivery) (now : ℕ) :
    World × Except Refusal Unit :=
  if platform.ledger = true ∧ user.device_limit ≠ 0 then
    let (touched, response) := world.ledger.admitDevice user.username device user.device_limit now
    let (ledger, answer) := delivery.deliver () world.ledger touched response
    match answer with
    | .ok response =>
      ({ world with ledger := ledger }, if response.ok then .ok () else .error ⟨429, "Too Many Devices"⟩)
    | .error _ => ({ world with ledger := ledger }, .ok ())
  else (world, .ok ())

/-- The handler up to `ws.accept()`: the user and the device of an accepted WebSocket. -/
def handshake (world : World) (request : WebSocketRequest) (delivery : Delivery) (now : ℕ) :
    World × Except Refusal (User × String) :=
  if toLowerAscii (request.upgrade.getD "").toList ≠ "websocket" then
    (world, .error ⟨426, "Expected a WebSocket upgrade"⟩)
  else
    match uuidFromRequest request.pathname with
    | none => (world, .error ⟨400, "Bad Request"⟩)
    | some uuid =>
      match getUserByUuid world.db.users uuid now with
      | none => (world, .error ⟨403, "Forbidden"⟩)
      | some user =>
        let device := platform.deviceHash uuid request
        let (world, checked) := platform.checkDevice world user device delivery now
        (world, checked.map fun _ => (user, device))

/-- `openTunnel` up to its first await: the header and the payload behind it. `createUdpForwarder` is
not imported, so the command of UDP throws. -/
def readHeader (user : User) (chunk : List UInt8) : Except Failure (VlessHeader × List UInt8) :=
  match parseVlessHeader chunk with
  | .error failure => .error failure
  | .ok header =>
    if header.uuid ≠ user.uuid then .error (.forbidden "uuid mismatch")
    else if user.block_list ≠ [] ∧ matchesBlock platform.toLowerCase header.address user.block_list = true then
      .error (.forbidden "مقصد توسط مدیر مسدود شده است")
    else if header.isUDP then .error (.referenceError "createUdpForwarder is not defined")
    else .ok (header, chunk.drop header.payloadStart)

end Platform

def safeB64ToBytes (text : String) : Option (List UInt8) :=
  atob (text.toList.map fun char => if char = '-' then '+' else if char = '_' then '/' else char)

/-- Early data in the header `sec-websocket-protocol` is the first chunk. -/
def WebSocketRequest.firstChunk (request : WebSocketRequest) : Option (List UInt8) :=
  if request.protocol.getD "" = "" then none else safeB64ToBytes (request.protocol.getD "")

inductive Upstream where
  | direct (hostname : String) (port : ℕ)
  | proxy (spec destHost : String) (destPort : ℕ)
deriving DecidableEq, Repr

/-- `pick` is the number that `Math.random` makes an index of. -/
def pickProxy (user : User) (pick : ℕ) : Option String := user.proxies[pick % user.proxies.length]?

/-- The host of a header; `resolved` is the answer of `resolveOne`, which only a name needs. -/
def VlessHeader.host (header : VlessHeader) (resolved : Except String String) : Except Failure String :=
  if isIpv4 header.address ∨ isIpv6 header.address then .ok header.address
  else resolved.mapError .error

/-- The upstream that `openTunnel` connects, through a proxy of the user if there is one. -/
def dial (user : User) (header : VlessHeader) (resolved : Except String String) (pick : ℕ) :
    Except Failure Upstream :=
  (header.host resolved).map fun host =>
    match (pickProxy user pick).filter (· ≠ "") with
    | some spec => .proxy spec host header.port
    | none => .direct host header.port

/-- `openTunnel` up to the connection of the upstream. -/
def Platform.openTunnel (platform : Platform) (user : User) (chunk : List UInt8)
    (resolved : Except String String) (pick : ℕ) : Except Failure Upstream :=
  match platform.readHeader user chunk with
  | .error failure => .error failure
  | .ok (header, _) => dial user header resolved pick

section

variable {platform : Platform} {world : World} {user : User} {device : String} {delivery : Delivery} {now : ℕ}

/-- The user is refused only by an answer that counts too many devices. -/
def Platform.DeviceAllowed (platform : Platform) (world : World) (user : User) (device : String)
    (delivery : Delivery) (now : ℕ) : Prop :=
  platform.ledger = true → user.device_limit ≠ 0 → delivery = .answered →
    (world.ledger.touchDevice user.username device now).deviceCount user.username ≤ user.device_limit

theorem checkDevice_ok_iff : (platform.checkDevice world user device delivery now).2 = .ok () ↔
    platform.DeviceAllowed world user device delivery now := by
  unfold Platform.checkDevice Platform.DeviceAllowed
  by_cases limited : platform.ledger = true ∧ user.device_limit ≠ 0
  · rw [if_pos limited]
    simp only [Ledger.admitDevice, if_neg limited.2]
    cases delivery with
    | answered => simp [Delivery.deliver, limited]
    | lost => simp [Delivery.deliver]
    | refused => simp [Delivery.deliver]
  · rw [if_neg limited]
    simp only [true_iff]
    intro bound limit _
    exact absurd ⟨bound, limit⟩ limited

/-- A handshake accepts a known user on an allowed device, whatever the user's limits are. -/
theorem handshake_ok_iff {request : WebSocketRequest} :
    (platform.handshake world request delivery now).2 = .ok (user, device) ↔
      toLowerAscii (request.upgrade.getD "").toList = "websocket" ∧
      ∃ uuid, uuidFromRequest request.pathname = some uuid ∧
        getUserByUuid world.db.users uuid now = some user ∧ device = platform.deviceHash uuid request ∧
        platform.DeviceAllowed world user device delivery now := by
  unfold Platform.handshake
  by_cases upgrade : toLowerAscii (request.upgrade.getD "").toList = "websocket"
  · rw [if_neg (not_not.mpr upgrade)]
    simp only [upgrade, true_and]
    split
    · next missing => simp [missing]
    · next uuid found =>
      split
      · next unknown => simp [found, unknown]
      · next known row =>
        simp only [← checkDevice_ok_iff, found, Option.some.injEq, exists_eq_left', row]
        constructor
        · intro accepted
          cases checked : (platform.checkDevice world known (platform.deviceHash uuid request) delivery now).2 with
          | error refusal =>
            rw [checked] at accepted
            contradiction
          | ok _ =>
            rw [checked] at accepted
            obtain ⟨rfl, rfl⟩ := Prod.mk.inj (Except.ok.inj accepted)
            exact ⟨rfl, rfl, checked⟩
        · rintro ⟨rfl, rfl, checked⟩
          rw [checked]
          rfl
  · rw [if_pos upgrade]
    simp [upgrade]

/-- The header is the user's, its destination is not blocked, and it is not for UDP. -/
theorem readHeader_ok_iff {chunk payload : List UInt8} {header : VlessHeader} :
    platform.readHeader user chunk = .ok (header, payload) ↔
      parseVlessHeader chunk = .ok header ∧ header.uuid = user.uuid ∧
      (user.block_list = [] ∨ matchesBlock platform.toLowerCase header.address user.block_list = false) ∧
      header.isUDP = false ∧ payload = chunk.drop header.payloadStart := by
  unfold Platform.readHeader
  split
  · next failure malformed => simp [malformed]
  · next read parsed =>
    simp only [parsed, Except.ok.injEq]
    by_cases owner : read.uuid = user.uuid
    · rw [if_neg (not_not.mpr owner)]
      by_cases blocked : user.block_list ≠ [] ∧ matchesBlock platform.toLowerCase read.address user.block_list = true
      · rw [if_pos blocked]
        constructor
        · intro accepted
          contradiction
        · rintro ⟨rfl, _, unblocked, _⟩
          rcases unblocked with empty | unmatched
          · exact absurd empty blocked.1
          · exact absurd blocked.2 (Bool.eq_false_iff.mp unmatched)
      · have unblocked : user.block_list = [] ∨
            matchesBlock platform.toLowerCase read.address user.block_list = false := by
          by_cases empty : user.block_list = []
          · exact .inl empty
          · exact .inr (Bool.eq_false_iff.mpr fun matched => blocked ⟨empty, matched⟩)
        rw [if_neg blocked]
        by_cases udp : read.isUDP = true
        · rw [if_pos udp]
          constructor
          · intro accepted
            contradiction
          · rintro ⟨rfl, _, _, tcp, _⟩
            exact absurd udp (Bool.eq_false_iff.mp tcp)
        · rw [if_neg udp]
          constructor
          · intro accepted
            obtain ⟨rfl, rfl⟩ := Prod.mk.inj (Except.ok.inj accepted)
            exact ⟨rfl, owner, unblocked, Bool.eq_false_iff.mpr udp, rfl⟩
          · rintro ⟨rfl, _, _, _, rfl⟩
            rfl
    · rw [if_pos owner]
      constructor
      · intro accepted
        contradiction
      · rintro ⟨rfl, same, _⟩
        exact absurd same owner

/-- An address is dialled as it is, a name after it is resolved. -/
theorem host_ok_iff {header : VlessHeader} {resolved : Except String String} :
    (∃ host, header.host resolved = .ok host) ↔
      isIpv4 header.address = true ∨ isIpv6 header.address = true ∨ ∃ address, resolved = .ok address := by
  unfold VlessHeader.host
  by_cases literal : isIpv4 header.address = true ∨ isIpv6 header.address = true
  · rw [if_pos literal, ← or_assoc]
    exact iff_of_true ⟨_, rfl⟩ (.inl literal)
  · rw [if_neg literal, ← or_assoc]
    cases resolved with
    | ok address => exact iff_of_true ⟨_, rfl⟩ (.inr ⟨address, rfl⟩)
    | error message =>
      constructor
      · rintro ⟨host, answered⟩
        contradiction
      · rintro (address | ⟨address, answered⟩)
        · exact absurd address literal
        · contradiction

theorem dial_ok_iff {header : VlessHeader} {resolved : Except String String} {pick : ℕ} :
    (∃ upstream, dial user header resolved pick = .ok upstream) ↔ ∃ host, header.host resolved = .ok host := by
  unfold dial
  cases header.host resolved with
  | ok host => exact iff_of_true ⟨_, rfl⟩ ⟨host, rfl⟩
  | error failure => simp [Except.map]

theorem openTunnel_ok_iff {chunk : List UInt8} {resolved : Except String String} {pick : ℕ} {upstream : Upstream} :
    platform.openTunnel user chunk resolved pick = .ok upstream ↔
      ∃ header payload, platform.readHeader user chunk = .ok (header, payload) ∧
        dial user header resolved pick = .ok upstream := by
  unfold Platform.openTunnel
  split
  · next failure failed => simp [failed]
  · next header payload read => simp [read]

end

namespace Sample

def uuid : String := "11111111-1111-4111-8111-111111111111"

/-- `sha256` answers for the one device that connects. -/
def platform : Platform where
  sha256 _ := [75, 145, 28, 102, 91, 199, 131, 182, 63, 255, 180, 187, 218, 170, 243, 195,
    229, 50, 28, 240, 151, 95, 158, 205, 41, 41, 234, 177, 5, 82, 166, 153]
  toLowerCase text := toLowerAscii text.toList

/-- A header for 93.184.216.34:443. -/
def header : List UInt8 :=
  [0, 0x11, 0x11, 0x11, 0x11, 0x11, 0x11, 0x41, 0x11, 0x81, 0x11, 0x11, 0x11, 0x11, 0x11, 0x11, 0x11,
    0, 1, 0x01, 0xBB, 1, 93, 184, 216, 34]

end Sample

end OmniControlPlane.Panel
