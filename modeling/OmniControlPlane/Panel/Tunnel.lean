import OmniControlPlane.Lib.Machine
import OmniControlPlane.Panel.Connection

/-! # One VLESS tunnel

What runs after `ws.accept()`: the messages of the client go through `toBytes` into a stream, whose
sink writes them to the upstream, and a pump sends what the upstream answers. The sink takes the next
chunk only after it has settled the last one, and it closes or aborts only while it is idle. `finish`
is reached from the sink, from the pump and from a failure.

An event is a message of the client, an answer that the sink or the pump awaits, or a turn of the
stream. A socket that is closed takes no further bytes, but a write that it has taken may still settle.
-/

namespace OmniControlPlane.Panel

open Lib

abbrev Bytes := List UInt8

/-- What `write` of the sink awaits. -/
inductive Sink where
  | idle
  | resolving (header : VlessHeader) (payload : Bytes)
  | connecting (header : VlessHeader) (payload : Bytes) (upstream : Upstream)
  | opening (header : VlessHeader) (payload : Bytes)
  | payload (chunk : Bytes)
  | pending (chunk : Bytes)
  | chunk (chunk : Bytes)
  | ended
deriving DecidableEq, Repr

/-- The readable side of the stream. -/
inductive Source where
  | readable | closing | errored
deriving DecidableEq, Repr

inductive Pump where
  | waiting | reading | ended
deriving DecidableEq, Repr

/-- A message to the client. -/
inductive Frame where
  | version (version : ℕ)
  | data (value : Bytes)
deriving DecidableEq, Repr

/-- A request to the action `report` of the ledger. -/
structure Report where
  user : String
  up : ℕ
  down : ℕ
  device : String
deriving DecidableEq, Repr

/-- The state of a tunnel, with what it has written, sent and reported. -/
structure Tunnel where
  user : User
  device : String
  converting : List Bytes := []
  closed : Bool := false
  source : Source := .readable
  queue : List Bytes := []
  isOpen : Bool := true
  hungUp : Bool := false
  sink : Sink := .idle
  opening : Bool := false
  remoteSocket : Option Upstream := none
  socketClosed : Bool := false
  pendingChunks : List Bytes := []
  pump : Pump := .waiting
  finished : Bool := false
  up : ℕ := 0
  down : ℕ := 0
  written : List Bytes := []
  sent : List Frame := []
  reports : List Report := []

/-- An accepted WebSocket; the early data is in the stream already. -/
def Tunnel.accepted (user : User) (device : String) (request : WebSocketRequest) : Tunnel where
  user := user
  device := device
  queue := request.firstChunk.toList

namespace Tunnel

variable (platform : Platform)

def finish (tunnel : Tunnel) : Tunnel :=
  if tunnel.finished then tunnel
  else { tunnel with
    finished := true
    isOpen := false
    socketClosed := tunnel.socketClosed || tunnel.remoteSocket.isSome
    reports := if platform.ledger ∧ (tunnel.up ≠ 0 ∨ tunnel.down ≠ 0) then
        tunnel.reports ++ [⟨tunnel.user.username, tunnel.up, tunnel.down, tunnel.device⟩]
      else tunnel.reports }

/-- The `catch` of `write`: the error of the sink cancels the stream. -/
def fail (tunnel : Tunnel) : Tunnel :=
  { tunnel.finish platform with sink := .ended, closed := true, queue := [] }

/-- `writeToUpstream` up to its await. -/
def writeToUpstream (tunnel : Tunnel) (awaits : Sink) : Tunnel :=
  if tunnel.socketClosed then tunnel.fail platform else { tunnel with sink := awaits }

/-- `writeToUpstream` after its await. -/
def report (tunnel : Tunnel) (chunk : Bytes) : Tunnel :=
  { tunnel with up := tunnel.up + chunk.length, written := tunnel.written ++ [chunk] }

/-- `openTunnel` after the payload: the chunks that wait, then the pump. -/
def flushPending (tunnel : Tunnel) : Tunnel :=
  match tunnel.pendingChunks with
  | chunk :: rest => { tunnel with pendingChunks := rest }.writeToUpstream platform (.pending chunk)
  | [] => { tunnel with sink := .idle, pump := .reading }

/-- `write` of the sink. -/
def write (tunnel : Tunnel) (chunk : Bytes) : Tunnel :=
  if tunnel.remoteSocket.isSome then tunnel.writeToUpstream platform (.chunk chunk)
  else if tunnel.opening then { tunnel with pendingChunks := tunnel.pendingChunks ++ [chunk] }
  else
    match platform.readHeader tunnel.user chunk with
    | .error _ => { tunnel with opening := true }.fail platform
    | .ok (header, payload) => { tunnel with opening := true, sink := .resolving header payload }

/-- `openTunnel` after `remoteSocket.opened`. -/
def greet (tunnel : Tunnel) (header : VlessHeader) (payload : Bytes) : Tunnel :=
  let greeted := if tunnel.isOpen then { tunnel with sent := tunnel.sent ++ [Frame.version header.version] } else tunnel
  if payload = [] then greeted.flushPending platform else greeted.writeToUpstream platform (.payload payload)

/-- The connection of the upstream failed or timed out. -/
def unreachable (tunnel : Tunnel) : Tunnel :=
  { tunnel with socketClosed := true, isOpen := false }.fail platform

/-- `controller.enqueue`, which an errored stream refuses. -/
def enqueue (tunnel : Tunnel) (data : Bytes) : Tunnel :=
  if tunnel.closed ∨ tunnel.source ≠ .readable then tunnel else { tunnel with queue := tunnel.queue ++ [data] }

/-- `controller.error` -/
def errorSource (tunnel : Tunnel) : Tunnel :=
  if tunnel.closed ∨ tunnel.source ≠ .readable then tunnel else { tunnel with source := .errored, queue := [] }

/-- `controller.close` -/
def closeSource (tunnel : Tunnel) : Tunnel :=
  if tunnel.closed ∨ tunnel.source ≠ .readable then tunnel else { tunnel with source := .closing }

end Tunnel

/-- `opened` says whether `ws.send` throws, which it can after the client has hung up. -/
inductive TunnelEvent where
  | message (data : Bytes)
  | converted (index : ℕ)
  | unreadable (index : ℕ)
  | clientCloses
  | clientFails
  | pull
  | resolved (answer : Except String String) (pick : ℕ)
  | connected (ok : Bool)
  | opened (throws : Bool)
  | unreachable
  | written (ok : Bool)
  | streamEnds
  | received (value : Bytes)
  | upstreamEnds

def Tunnel.step? (platform : Platform) (tunnel : Tunnel) : TunnelEvent → Option Tunnel
  | .message data =>
    if tunnel.hungUp then none else some { tunnel with converting := tunnel.converting ++ [data] }
  | .converted index =>
    tunnel.converting[index]?.map fun data =>
      { tunnel with converting := tunnel.converting.eraseIdx index }.enqueue data
  | .unreadable index =>
    tunnel.converting[index]?.map fun _ => { tunnel with converting := tunnel.converting.eraseIdx index }.errorSource
  | .clientCloses =>
    if tunnel.hungUp then none
    else some { tunnel.closeSource with hungUp := true, isOpen := false, closed := true }
  | .clientFails =>
    if tunnel.hungUp then none
    else some { tunnel.errorSource with hungUp := true, isOpen := false, closed := true }
  | .pull =>
    match tunnel.sink, tunnel.queue with
    | .idle, chunk :: rest => some ({ tunnel with queue := rest }.write platform chunk)
    | _, _ => none
  | .resolved answer pick =>
    match tunnel.sink with
    | .resolving header payload =>
      match dial tunnel.user header answer pick with
      | .error _ => some (tunnel.fail platform)
      | .ok upstream => some { tunnel with sink := .connecting header payload upstream }
    | _ => none
  | .connected ok =>
    match tunnel.sink with
    | .connecting header payload upstream =>
      if ok then some { tunnel with remoteSocket := some upstream, sink := .opening header payload }
      else some (tunnel.fail platform)
    | _ => none
  | .opened throws =>
    match tunnel.sink with
    | .opening header payload =>
      if throws then if tunnel.isOpen then none else some (tunnel.fail platform)
      else some (tunnel.greet platform header payload)
    | _ => none
  | .unreachable =>
    match tunnel.sink with
    | .opening _ _ => some (tunnel.unreachable platform)
    | _ => none
  | .written ok =>
    match tunnel.sink with
    | .payload chunk | .pending chunk =>
      if ok then some ((tunnel.report chunk).flushPending platform) else some (tunnel.fail platform)
    | .chunk chunk =>
      if ok then some { tunnel.report chunk with sink := .idle } else some (tunnel.fail platform)
    | _ => none
  | .streamEnds =>
    if tunnel.sink = .idle ∧ tunnel.queue = [] ∧ tunnel.source ≠ .readable then
      some { tunnel.finish platform with sink := .ended }
    else none
  | .received value =>
    if tunnel.pump = .reading then some { tunnel with
      down := tunnel.down + value.length
      sent := if tunnel.isOpen then tunnel.sent ++ [Frame.data value] else tunnel.sent }
    else none
  | .upstreamEnds =>
    if tunnel.pump = .reading then some { tunnel.finish platform with pump := .ended } else none

def tunnel (platform : Platform) : Machine Tunnel TunnelEvent := ⟨Tunnel.step? platform⟩

/-! ## The upstream of a tunnel -/

/-- `openTunnel` gives this upstream for some chunk and some answer of the resolver. -/
def Opens (platform : Platform) (user : User) (upstream : Upstream) : Prop :=
  ∃ chunk resolved pick, platform.openTunnel user chunk resolved pick = .ok upstream

/-- What is known while the sink dials. -/
def Dials (platform : Platform) (user : User) : Sink → Prop
  | .resolving header payload => ∃ chunk, platform.readHeader user chunk = .ok (header, payload)
  | .connecting _ _ upstream => Opens platform user upstream
  | _ => True

namespace Tunnel

structure Dialled (platform : Platform) (user : User) (tunnel : Tunnel) : Prop where
  owner : tunnel.user = user
  sink : Dials platform user tunnel.sink
  connected : ∀ upstream, tunnel.remoteSocket = some upstream → Opens platform user upstream

/-- A step that does not dial: the sink stays where it is, or is past the connection. -/
structure Rests (before after : Tunnel) : Prop where
  owner : after.user = before.user
  remoteSocket : after.remoteSocket = before.remoteSocket
  sink : after.sink = before.sink ∨ ∀ platform user, Dials platform user after.sink

variable {platform : Platform} {user : User} {before mid after tunnel : Tunnel}

theorem Rests.trans (first : Rests before mid) (second : Rests mid after) : Rests before after where
  owner := second.owner.trans first.owner
  remoteSocket := second.remoteSocket.trans first.remoteSocket
  sink := by
    rcases second.sink with same | past
    · rw [same]
      exact first.sink
    · exact .inr past

theorem Dialled.rests (dialled : before.Dialled platform user) (rests : Rests before after) :
    after.Dialled platform user where
  owner := rests.owner.trans dialled.owner
  sink := by
    rcases rests.sink with same | past
    · rw [same]
      exact dialled.sink
    · exact past platform user
  connected := by
    rw [rests.remoteSocket]
    exact dialled.connected

theorem finish_rests : Rests tunnel (tunnel.finish platform) := by
  unfold finish
  split <;> exact ⟨rfl, rfl, .inl rfl⟩

theorem fail_rests : Rests tunnel (tunnel.fail platform) :=
  finish_rests.trans ⟨rfl, rfl, .inr fun _ _ => trivial⟩

theorem writeToUpstream_rests {awaits : Sink} (past : ∀ platform user, Dials platform user awaits) :
    Rests tunnel (tunnel.writeToUpstream platform awaits) := by
  unfold writeToUpstream
  split
  · exact fail_rests
  · exact ⟨rfl, rfl, .inr past⟩

theorem flushPending_rests : Rests tunnel (tunnel.flushPending platform) := by
  unfold flushPending
  split
  · next chunk rest _ =>
    have taken : Rests tunnel { tunnel with pendingChunks := rest } := ⟨rfl, rfl, .inl rfl⟩
    have past : ∀ platform user, Dials platform user (.pending chunk) := fun _ _ => trivial
    exact taken.trans (writeToUpstream_rests past)
  · exact ⟨rfl, rfl, .inr fun _ _ => trivial⟩

theorem greet_rests (header : VlessHeader) (payload : Bytes) : Rests tunnel (tunnel.greet platform header payload) := by
  have greeted : Rests tunnel
      (if tunnel.isOpen then { tunnel with sent := tunnel.sent ++ [Frame.version header.version] } else tunnel) := by
    split <;> exact ⟨rfl, rfl, .inl rfl⟩
  have past : ∀ platform user, Dials platform user (.payload payload) := fun _ _ => trivial
  unfold greet
  dsimp only
  split
  · exact greeted.trans flushPending_rests
  · exact greeted.trans (writeToUpstream_rests past)

theorem unreachable_rests : Rests tunnel (tunnel.unreachable platform) := by
  apply Rests.trans _ fail_rests
  exact ⟨rfl, rfl, .inl rfl⟩

theorem enqueue_rests (data : Bytes) : Rests tunnel (tunnel.enqueue data) := by
  unfold enqueue
  split <;> exact ⟨rfl, rfl, .inl rfl⟩

theorem errorSource_rests : Rests tunnel tunnel.errorSource := by
  unfold errorSource
  split <;> exact ⟨rfl, rfl, .inl rfl⟩

theorem closeSource_rests : Rests tunnel tunnel.closeSource := by
  unfold closeSource
  split <;> exact ⟨rfl, rfl, .inl rfl⟩

/-- The sink takes a chunk: a header starts to dial. -/
theorem Dialled.write (dialled : tunnel.Dialled platform user) (chunk : Bytes) :
    (tunnel.write platform chunk).Dialled platform user := by
  have past : ∀ platform user, Dials platform user (.chunk chunk) := fun _ _ => trivial
  unfold Tunnel.write
  split
  · exact dialled.rests (writeToUpstream_rests past)
  · split
    · exact dialled.rests ⟨rfl, rfl, .inl rfl⟩
    · split
      · apply dialled.rests
        apply Rests.trans _ fail_rests
        exact ⟨rfl, rfl, .inl rfl⟩
      · next read =>
        rw [dialled.owner] at read
        exact ⟨dialled.owner, ⟨chunk, read⟩, dialled.connected⟩

theorem Dialled.step {event : TunnelEvent} (dialled : before.Dialled platform user)
    (stepped : before.step? platform event = some after) : after.Dialled platform user := by
  cases event with
  | pull =>
    simp only [step?] at stepped
    split at stepped
    · next chunk rest _ _ =>
      obtain rfl := Option.some.inj stepped
      have taken : Rests before { before with queue := rest } := ⟨rfl, rfl, .inl rfl⟩
      exact (dialled.rests taken).write chunk
    · contradiction
  | resolved answer pick =>
    simp only [step?] at stepped
    split at stepped
    · next header payload resolving =>
      have known := dialled.sink
      rw [resolving] at known
      obtain ⟨chunk, read⟩ := known
      split at stepped
      · obtain rfl := Option.some.inj stepped
        exact dialled.rests fail_rests
      · next upstream opened =>
        obtain rfl := Option.some.inj stepped
        rw [dialled.owner] at opened
        have opens : Opens platform user upstream :=
          ⟨chunk, answer, pick, openTunnel_ok_iff.mpr ⟨header, payload, read, opened⟩⟩
        exact ⟨dialled.owner, opens, dialled.connected⟩
    · contradiction
  | connected ok =>
    simp only [step?] at stepped
    split at stepped
    · next header payload upstream connecting =>
      have known := dialled.sink
      rw [connecting] at known
      split at stepped
      · obtain rfl := Option.some.inj stepped
        exact ⟨dialled.owner, trivial, fun _ same => Option.some.inj same ▸ known⟩
      · obtain rfl := Option.some.inj stepped
        exact dialled.rests fail_rests
    · contradiction
  | message data =>
    simp only [step?] at stepped
    split at stepped
    · contradiction
    · obtain rfl := Option.some.inj stepped
      exact dialled.rests ⟨rfl, rfl, .inl rfl⟩
  | converted index =>
    obtain ⟨data, _, rfl⟩ := Option.map_eq_some_iff.mp stepped
    have erased : Rests before { before with converting := before.converting.eraseIdx index } := ⟨rfl, rfl, .inl rfl⟩
    exact dialled.rests (erased.trans (enqueue_rests data))
  | unreadable index =>
    obtain ⟨data, _, rfl⟩ := Option.map_eq_some_iff.mp stepped
    have erased : Rests before { before with converting := before.converting.eraseIdx index } := ⟨rfl, rfl, .inl rfl⟩
    exact dialled.rests (erased.trans errorSource_rests)
  | clientCloses =>
    simp only [step?] at stepped
    split at stepped
    · contradiction
    · obtain rfl := Option.some.inj stepped
      exact dialled.rests (closeSource_rests.trans ⟨rfl, rfl, .inl rfl⟩)
  | clientFails =>
    simp only [step?] at stepped
    split at stepped
    · contradiction
    · obtain rfl := Option.some.inj stepped
      exact dialled.rests (errorSource_rests.trans ⟨rfl, rfl, .inl rfl⟩)
  | opened throws =>
    simp only [step?] at stepped
    split at stepped
    · next header payload _ =>
      split at stepped
      · split at stepped
        · contradiction
        · obtain rfl := Option.some.inj stepped
          exact dialled.rests fail_rests
      · obtain rfl := Option.some.inj stepped
        exact dialled.rests (greet_rests header payload)
    · contradiction
  | unreachable =>
    simp only [step?] at stepped
    split at stepped
    · obtain rfl := Option.some.inj stepped
      exact dialled.rests unreachable_rests
    · contradiction
  | written ok =>
    have reported (chunk : Bytes) : Rests before (before.report chunk) := ⟨rfl, rfl, .inl rfl⟩
    simp only [step?] at stepped
    split at stepped
    · next chunk _ =>
      split at stepped
      · obtain rfl := Option.some.inj stepped
        exact dialled.rests ((reported chunk).trans flushPending_rests)
      · obtain rfl := Option.some.inj stepped
        exact dialled.rests fail_rests
    · next chunk _ =>
      split at stepped
      · obtain rfl := Option.some.inj stepped
        exact dialled.rests ((reported chunk).trans flushPending_rests)
      · obtain rfl := Option.some.inj stepped
        exact dialled.rests fail_rests
    · split at stepped
      · obtain rfl := Option.some.inj stepped
        exact dialled.rests ⟨rfl, rfl, .inr fun _ _ => trivial⟩
      · obtain rfl := Option.some.inj stepped
        exact dialled.rests fail_rests
    · contradiction
  | streamEnds =>
    simp only [step?] at stepped
    split at stepped
    · obtain rfl := Option.some.inj stepped
      exact dialled.rests (finish_rests.trans ⟨rfl, rfl, .inr fun _ _ => trivial⟩)
    · contradiction
  | received value =>
    simp only [step?] at stepped
    split at stepped
    · obtain rfl := Option.some.inj stepped
      exact dialled.rests ⟨rfl, rfl, .inl rfl⟩
    · contradiction
  | upstreamEnds =>
    simp only [step?] at stepped
    split at stepped
    · obtain rfl := Option.some.inj stepped
      exact dialled.rests (finish_rests.trans ⟨rfl, rfl, .inl rfl⟩)
    · contradiction

end Tunnel

/-- Whatever happens on the way, the upstream of a tunnel is one that `openTunnel` gives for the user
of its handshake. -/
theorem upstream_opened {platform : Platform} {user : User} {device : String} {request : WebSocketRequest}
    {cond : Tunnel → TunnelEvent → Prop} {events : List TunnelEvent} {reached : Tunnel} {upstream : Upstream}
    (run : (tunnel platform).Run cond (.accepted user device request) events reached)
    (connected : reached.remoteSocket = some upstream) : Opens platform user upstream :=
  (run.preserves (Tunnel.Dialled platform user) (fun _ _ _ dialled _ stepped => dialled.step stepped)
    ⟨rfl, trivial, nofun⟩).connected upstream connected

end OmniControlPlane.Panel
