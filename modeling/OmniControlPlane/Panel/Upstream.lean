import OmniControlPlane.Panel.Response

/-! # The bytes that reach the upstream

Every message of the client is converted in a promise of its own, and the event of the close ends the
stream at once. The order of the messages and the last of them are kept as long as the conversions end
in the order of the messages, and before the close.
-/

namespace OmniControlPlane.Panel

open Lib Machine

/-- The message of an event. -/
def TunnelEvent.chunk : TunnelEvent → List Bytes
  | .message data => [data]
  | _ => []

/-- The payload behind the header in the first chunk, and then the other chunks. -/
def carried (platform : Platform) (user : User) : List Bytes → Bytes
  | [] => []
  | first :: others =>
    let payload := match platform.readHeader user first with
      | .ok (_, payload) => payload
      | .error _ => []
    payload ++ others.flatten

/-- The first chunk is a header that is read. -/
def OpensWith (platform : Platform) (user : User) (chunks : List Bytes) : Prop :=
  ∀ first ∈ chunks.head?, ∃ header payload, platform.readHeader user first = .ok (header, payload)

namespace Tunnel

/-- Messages can be read, and the upstream is found, opens, stays and takes what is written to it. -/
def Undisturbed (tunnel : Tunnel) : TunnelEvent → Prop
  | .resolved answer pick => ∀ header payload, tunnel.sink = .resolving header payload →
    ∃ upstream, dial tunnel.user header answer pick = .ok upstream
  | .connected ok | .written ok => ok = true
  | .unreadable _ | .clientFails | .unreachable | .upstreamEnds => False
  | _ => True

/-- The conversion that ends is that of the oldest message, none is left when the client closes, and the
version byte can be sent. -/
def InOrder (tunnel : Tunnel) : TunnelEvent → Prop
  | .converted index => index = 0
  | .clientCloses => tunnel.converting = []
  | .opened throws => throws = false
  | _ => True

/-- Nothing is left to convert or to write. -/
structure AtRest (tunnel : Tunnel) : Prop where
  converted : tunnel.converting = []
  taken : tunnel.queue = []
  sink : tunnel.sink = .idle ∨ tunnel.sink = .ended

/-- What the sink has made of the chunks that it has taken. -/
def Passes (platform : Platform) (user : User) (taken : List Bytes) (tunnel : Tunnel) : Prop :=
  match tunnel.sink with
  | .idle => tunnel.written.flatten = carried platform user taken ∧
      (taken = [] ∧ tunnel.opening = false ∧ tunnel.remoteSocket = none ∨
        taken ≠ [] ∧ tunnel.remoteSocket.isSome = true)
  | .resolving header payload | .connecting header payload _ =>
    tunnel.written.flatten = [] ∧ ∃ first, taken = [first] ∧ platform.readHeader user first = .ok (header, payload)
  | .opening header payload => tunnel.remoteSocket.isSome = true ∧
    tunnel.written.flatten = [] ∧ ∃ first, taken = [first] ∧ platform.readHeader user first = .ok (header, payload)
  | .payload payload => tunnel.remoteSocket.isSome = true ∧
    tunnel.written.flatten = [] ∧ ∃ first header, taken = [first] ∧ platform.readHeader user first = .ok (header, payload)
  | .chunk chunk => tunnel.remoteSocket.isSome = true ∧
    ∃ before, before ≠ [] ∧ taken = before ++ [chunk] ∧ tunnel.written.flatten = carried platform user before
  | .pending _ => False
  | .ended => tunnel.written.flatten = carried platform user taken ∧ tunnel.queue = [] ∧ tunnel.hungUp = true

/-- Chunks are taken, wait in the queue, or are converted, in their order. -/
structure Ordered (platform : Platform) (user : User) (chunks : List Bytes) (tunnel : Tunnel) : Prop where
  owner : tunnel.user = user
  passes : ∃ taken, chunks = taken ++ (tunnel.queue ++ tunnel.converting) ∧ tunnel.Passes platform user taken
  pendingChunks : tunnel.pendingChunks = []
  socket : tunnel.sink ≠ .ended → tunnel.socketClosed = false
  readable : tunnel.hungUp = false → tunnel.closed = false ∧ tunnel.source = .readable
  converted : tunnel.hungUp = true → tunnel.converting = []

variable {platform : Platform} {user : User} {chunks : List Bytes} {before after tunnel : Tunnel}

theorem carried_append {taken : List Bytes} (begun : taken ≠ []) (chunk : Bytes) :
    carried platform user (taken ++ [chunk]) = carried platform user taken ++ chunk := by
  cases taken with
  | nil => contradiction
  | cons first others =>
    simp only [List.cons_append, carried, List.flatten_append, List.flatten_cons, List.flatten_nil, List.append_nil,
      List.append_assoc]

/-- What is written is a first part of what is due. -/
theorem Passes.written_prefix {taken : List Bytes} (passes : tunnel.Passes platform user taken) :
    tunnel.written.flatten <+: carried platform user taken := by
  rw [Passes] at passes
  split at passes
  · refine ⟨[], ?_⟩
    rw [passes.1, List.append_nil]
  · rw [passes.1]
    exact List.nil_prefix
  · rw [passes.1]
    exact List.nil_prefix
  · rw [passes.2.1]
    exact List.nil_prefix
  · rw [passes.2.1]
    exact List.nil_prefix
  · obtain ⟨-, before, begun, rfl, written⟩ := passes
    rw [written, carried_append begun]
    exact List.prefix_append _ _
  · contradiction
  · refine ⟨[], ?_⟩
    rw [passes.1, List.append_nil]

theorem carried_prefix (taken rest : List Bytes) :
    carried platform user taken <+: carried platform user (taken ++ rest) := by
  cases taken with
  | nil => exact List.nil_prefix
  | cons first others =>
    simp only [List.cons_append, carried, List.flatten_append]
    rw [← List.append_assoc]
    exact List.prefix_append _ _

/-- The sink and what it has written are as before. -/
private theorem Ordered.same_sink (ordered : before.Ordered platform user chunks) {chunks' : List Bytes}
    (waiting : ∀ taken, chunks = taken ++ (before.queue ++ before.converting) →
      chunks' = taken ++ (after.queue ++ after.converting))
    (owner : after.user = before.user) (sink : after.sink = before.sink) (written : after.written = before.written)
    (opening : after.opening = before.opening) (remoteSocket : after.remoteSocket = before.remoteSocket)
    (pendingChunks : after.pendingChunks = before.pendingChunks) (socketClosed : after.socketClosed = before.socketClosed)
    (gone : before.hungUp = true → after.hungUp = true ∧ after.queue = before.queue)
    (readable : after.hungUp = false → after.closed = false ∧ after.source = .readable)
    (converted : after.hungUp = true → after.converting = []) : after.Ordered platform user chunks' := by
  obtain ⟨taken, shape, passes⟩ := ordered.passes
  refine ⟨owner.trans ordered.owner, ⟨taken, waiting taken shape, ?_⟩, pendingChunks.trans ordered.pendingChunks, ?_,
    readable, converted⟩
  · rw [Passes] at passes ⊢
    rw [sink, written, opening, remoteSocket]
    split at passes
    all_goals try exact passes
    obtain ⟨done, drained, hungUp⟩ := passes
    exact ⟨done, (gone hungUp).2.trans drained, (gone hungUp).1⟩
  · rw [sink, socketClosed]
    exact ordered.socket

/-- Only the sink moves on. -/
private theorem Ordered.same_stream (ordered : before.Ordered platform user chunks)
    (taken : List Bytes) (shape : chunks = taken ++ (after.queue ++ after.converting))
    (passes : after.Passes platform user taken) (owner : after.user = before.user)
    (pendingChunks : after.pendingChunks = []) (socket : after.sink ≠ .ended → after.socketClosed = false)
    (converting : after.converting = before.converting) (hungUp : after.hungUp = before.hungUp)
    (closed : after.closed = before.closed) (source : after.source = before.source) :
    after.Ordered platform user chunks where
  owner := owner.trans ordered.owner
  passes := ⟨taken, shape, passes⟩
  pendingChunks := pendingChunks
  socket := socket
  readable := by
    rw [hungUp, closed, source]
    exact ordered.readable
  converted := by
    rw [hungUp, converting]
    exact ordered.converted

/-- The sink takes the next chunk. -/
private theorem Ordered.pull (ordered : before.Ordered platform user chunks) (valid : OpensWith platform user chunks)
    (waits : before.sink = .idle) {chunk : Bytes} {rest : List Bytes} (next : before.queue = chunk :: rest) :
    ({ before with queue := rest }.write platform chunk).Ordered platform user chunks := by
  obtain ⟨taken, shape, passes⟩ := ordered.passes
  rw [Passes, waits] at passes
  obtain ⟨done, fresh | flowing⟩ := passes
  · obtain ⟨rfl, unread, unconnected⟩ := fresh
    rw [next, List.nil_append, List.cons_append] at shape
    obtain ⟨header, payload, read⟩ := valid chunk (by rw [shape]; rfl)
    have alone : ¬ before.remoteSocket.isSome = true := by
      rw [unconnected]
      exact Bool.false_ne_true
    have first : ¬ before.opening = true := by
      rw [unread]
      exact Bool.false_ne_true
    rw [write, if_neg alone, if_neg first]
    dsimp only
    rw [ordered.owner, read]
    exact ordered.same_stream [chunk] shape ⟨done, chunk, rfl, read⟩ ordered.owner.symm ordered.pendingChunks
      (fun _ => ordered.socket (by rw [waits]; rintro ⟨⟩)) rfl rfl rfl rfl
  · obtain ⟨begun, connected⟩ := flowing
    have open' : before.socketClosed = false := ordered.socket (by rw [waits]; rintro ⟨⟩)
    rw [write, if_pos connected, writeToUpstream, if_neg (by rw [open']; exact Bool.false_ne_true)]
    refine ordered.same_stream (taken ++ [chunk]) ?_ ⟨connected, taken, begun, rfl, done⟩ rfl ordered.pendingChunks
      (fun _ => open') rfl rfl rfl rfl
    rw [shape, next, List.append_assoc]
    rfl

/-- Nothing waits in `pendingChunks`, so the sink is idle once its payload is written. -/
private theorem flushPending_none (nothing : tunnel.pendingChunks = []) :
    tunnel.flushPending platform = { tunnel with sink := .idle, pump := .reading } := by
  rw [flushPending, nothing]

/-- The upstream is open: the payload is written if there is one. -/
private theorem Ordered.greet (ordered : before.Ordered platform user chunks) {header : VlessHeader} {payload : Bytes}
    (opening : before.sink = .opening header payload) :
    (before.greet platform header payload).Ordered platform user chunks := by
  obtain ⟨taken, shape, passes⟩ := ordered.passes
  rw [Passes, opening] at passes
  obtain ⟨connected, empty, first, rfl, read⟩ := passes
  have open' : before.socketClosed = false := ordered.socket (by rw [opening]; nofun)
  have greeted : ∃ sent, (if before.isOpen then { before with sent := before.sent ++ [Frame.version header.version] }
      else before) = { before with sent := sent } := by
    split
    · exact ⟨_, rfl⟩
    · exact ⟨before.sent, rfl⟩
  obtain ⟨sent, greeted⟩ := greeted
  rw [Tunnel.greet, greeted]
  split
  · next bare =>
    subst bare
    have nothing : ({ before with sent := sent } : Tunnel).pendingChunks = [] := ordered.pendingChunks
    have due : before.written.flatten = carried platform user [first] := by
      rw [empty, carried, read]
      rfl
    rw [flushPending_none nothing]
    exact ordered.same_stream [first] shape ⟨due, .inr ⟨List.cons_ne_nil _ _, connected⟩⟩ rfl ordered.pendingChunks
      (fun _ => open') rfl rfl rfl rfl
  · rw [writeToUpstream, if_neg (by rw [open']; exact Bool.false_ne_true)]
    exact ordered.same_stream [first] shape ⟨connected, empty, first, header, rfl, read⟩ rfl ordered.pendingChunks
      (fun _ => open') rfl rfl rfl rfl

/-- A write has ended. -/
private theorem Ordered.written (ordered : before.Ordered platform user chunks)
    (stepped : before.step? platform (.written true) = some after) : after.Ordered platform user chunks := by
  obtain ⟨taken, shape, passes⟩ := ordered.passes
  simp only [step?] at stepped
  split at stepped
  · next payload writing =>
    rw [if_pos trivial] at stepped
    rw [Passes, writing] at passes
    obtain ⟨connected, empty, first, header, rfl, read⟩ := passes
    obtain rfl := Option.some.inj stepped
    have nothing : (before.report payload).pendingChunks = [] := ordered.pendingChunks
    have due : (before.written ++ [payload]).flatten = carried platform user [first] := by
      rw [List.flatten_append, empty, carried, read]
      simp
    rw [flushPending_none nothing]
    exact ordered.same_stream [first] shape ⟨due, .inr ⟨List.cons_ne_nil _ _, connected⟩⟩ rfl ordered.pendingChunks
      (fun _ => ordered.socket (by rw [writing]; rintro ⟨⟩)) rfl rfl rfl rfl
  · next writing =>
    rw [Passes, writing] at passes
    contradiction
  · next chunk writing =>
    rw [if_pos trivial] at stepped
    rw [Passes, writing] at passes
    obtain ⟨connected, earlier, begun, rfl, written⟩ := passes
    obtain rfl := Option.some.inj stepped
    have due : (before.written ++ [chunk]).flatten = carried platform user (earlier ++ [chunk]) := by
      rw [carried_append begun, ← written]
      simp
    exact ordered.same_stream (earlier ++ [chunk]) shape ⟨due, .inr ⟨by simp, connected⟩⟩ rfl ordered.pendingChunks
      (fun _ => ordered.socket (by rw [writing]; rintro ⟨⟩)) rfl rfl rfl rfl
  · contradiction

theorem Ordered.step {event : TunnelEvent} (ordered : before.Ordered platform user chunks)
    (valid : OpensWith platform user chunks) (undisturbed : before.Undisturbed event) (inOrder : before.InOrder event)
    (stepped : before.step? platform event = some after) : after.Ordered platform user (chunks ++ event.chunk) := by
  have unchanged : chunks ++ [] = chunks := List.append_nil chunks
  cases event with
  | message data =>
    simp only [step?] at stepped
    split at stepped
    · contradiction
    · next here =>
      obtain rfl := Option.some.inj stepped
      have there : before.hungUp = false := Bool.eq_false_iff.mpr here
      refine ordered.same_sink ?_ rfl rfl rfl rfl rfl rfl rfl ?_ ordered.readable ?_
      · intro taken shape
        rw [shape, List.append_assoc, List.append_assoc]
        rfl
      · intro gone
        exact ⟨gone, rfl⟩
      · intro gone
        rw [there] at gone
        contradiction
  | converted index =>
    change after.Ordered platform user (chunks ++ [])
    obtain rfl : index = 0 := inOrder
    obtain ⟨data, found, rfl⟩ := Option.map_eq_some_iff.mp stepped
    have there : before.hungUp = false := by
      rw [Bool.eq_false_iff]
      intro gone
      rw [ordered.converted gone] at found
      contradiction
    obtain ⟨unclosed, readable⟩ := ordered.readable there
    obtain ⟨rest, converting⟩ : ∃ rest, before.converting = data :: rest := by
      cases shape : before.converting with
      | nil =>
        rw [shape] at found
        contradiction
      | cons first rest =>
        rw [shape] at found
        exact ⟨rest, by rw [Option.some.inj found]⟩
    rw [unchanged, enqueue, if_neg (by rw [unclosed, readable]; simp)]
    refine ordered.same_sink ?_ rfl rfl rfl rfl rfl rfl rfl ?_ ordered.readable ?_
    · intro taken shape
      dsimp only
      rw [shape, converting, List.eraseIdx_cons_zero, List.append_assoc, List.singleton_append]
    · intro gone
      rw [there] at gone
      contradiction
    · intro gone
      rw [there] at gone
      contradiction
  | clientCloses =>
    change after.Ordered platform user (chunks ++ [])
    have empty : before.converting = [] := inOrder
    simp only [step?] at stepped
    split at stepped
    · contradiction
    · next here =>
      have there : before.hungUp = false := Bool.eq_false_iff.mpr here
      obtain ⟨unclosed, readable⟩ := ordered.readable there
      obtain rfl := Option.some.inj stepped
      rw [unchanged, closeSource, if_neg (by rw [unclosed, readable]; simp)]
      refine ordered.same_sink (fun _ shape => shape) rfl rfl rfl rfl rfl rfl rfl ?_ (by rintro ⟨⟩) fun _ => empty
      intro gone
      rw [there] at gone
      contradiction
  | pull =>
    change after.Ordered platform user (chunks ++ [])
    simp only [step?] at stepped
    split at stepped
    · next chunk rest waits next =>
      obtain rfl := Option.some.inj stepped
      rw [unchanged]
      exact ordered.pull valid waits next
    · contradiction
  | resolved answer pick =>
    change after.Ordered platform user (chunks ++ [])
    simp only [step?] at stepped
    split at stepped
    · next header payload resolving =>
      obtain ⟨upstream, dialled⟩ := undisturbed header payload resolving
      rw [dialled] at stepped
      obtain rfl := Option.some.inj stepped
      obtain ⟨taken, shape, passes⟩ := ordered.passes
      rw [Passes, resolving] at passes
      rw [unchanged]
      exact ordered.same_stream taken shape passes rfl ordered.pendingChunks
        (fun _ => ordered.socket (by rw [resolving]; rintro ⟨⟩)) rfl rfl rfl rfl
    · contradiction
  | connected ok =>
    change after.Ordered platform user (chunks ++ [])
    obtain rfl : ok = true := undisturbed
    simp only [step?] at stepped
    split at stepped
    · next header payload upstream connecting =>
      rw [if_pos trivial] at stepped
      obtain rfl := Option.some.inj stepped
      obtain ⟨taken, shape, passes⟩ := ordered.passes
      rw [Passes, connecting] at passes
      rw [unchanged]
      exact ordered.same_stream taken shape ⟨rfl, passes⟩ rfl ordered.pendingChunks
        (fun _ => ordered.socket (by rw [connecting]; rintro ⟨⟩)) rfl rfl rfl rfl
    · contradiction
  | opened throws =>
    change after.Ordered platform user (chunks ++ [])
    obtain rfl : throws = false := inOrder
    simp only [step?] at stepped
    split at stepped
    · next header payload opening =>
      rw [if_neg Bool.false_ne_true] at stepped
      obtain rfl := Option.some.inj stepped
      rw [unchanged]
      exact ordered.greet opening
    · contradiction
  | written ok =>
    change after.Ordered platform user (chunks ++ [])
    obtain rfl : ok = true := undisturbed
    rw [unchanged]
    exact ordered.written stepped
  | streamEnds =>
    change after.Ordered platform user (chunks ++ [])
    simp only [step?] at stepped
    split at stepped
    · next ends =>
      obtain ⟨waits, drained, unreadable⟩ := ends
      obtain rfl := Option.some.inj stepped
      obtain ⟨taken, shape, passes⟩ := ordered.passes
      rw [Passes, waits] at passes
      have gone : before.hungUp = true := by
        by_contra here
        exact unreadable (ordered.readable (Bool.eq_false_iff.mpr here)).2
      rw [unchanged, finish]
      split
      all_goals
        refine ordered.same_stream taken shape ⟨passes.1, drained, gone⟩ rfl ordered.pendingChunks ?_ rfl rfl rfl rfl
        intro still
        exact absurd rfl still
    · contradiction
  | received value =>
    change after.Ordered platform user (chunks ++ [])
    simp only [step?] at stepped
    split at stepped
    · obtain rfl := Option.some.inj stepped
      rw [unchanged]
      exact ordered.same_sink (fun _ shape => shape) rfl rfl rfl rfl rfl rfl rfl (fun gone => ⟨gone, rfl⟩)
        ordered.readable ordered.converted
    · contradiction
  | unreadable index => exact absurd undisturbed id
  | clientFails => exact absurd undisturbed id
  | unreachable => exact absurd undisturbed id
  | upstreamEnds => exact absurd undisturbed id

/-- The order holds over a whole run. -/
theorem ordered_run {events : List TunnelEvent}
    (run : (OmniControlPlane.Panel.tunnel platform).Run (fun tunnel event => tunnel.Undisturbed event ∧ tunnel.InOrder event)
      before events after)
    (valid : OpensWith platform user (chunks ++ events.flatMap TunnelEvent.chunk))
    (ordered : before.Ordered platform user chunks) :
    after.Ordered platform user (chunks ++ events.flatMap TunnelEvent.chunk) := by
  induction run generalizing chunks with
  | nil =>
    rw [List.flatMap_nil, List.append_nil]
    exact ordered
  | cons met stepped _ ih =>
    rw [List.flatMap_cons, ← List.append_assoc] at valid ⊢
    apply ih valid
    refine ordered.step ?_ met.1 met.2 stepped
    intro first found
    apply valid first
    rw [List.append_assoc, List.head?_append, found]
    rfl

theorem accepted_ordered {device : String} {request : WebSocketRequest} :
    (accepted user device request).Ordered platform user request.firstChunk.toList where
  owner := rfl
  passes := ⟨[], by simp [accepted], rfl, .inl ⟨rfl, rfl, rfl⟩⟩
  pendingChunks := rfl
  socket := fun _ => rfl
  readable := fun _ => ⟨rfl, rfl⟩
  converted := nofun

end Tunnel

/-- The chunks of a run: the early data, then the messages. -/
def received (request : WebSocketRequest) (events : List TunnelEvent) : List Bytes :=
  request.firstChunk.toList ++ events.flatMap TunnelEvent.chunk

/-- What is written is a first part of what the client has sent behind its header, and in the end all of it. -/
def Delivered (platform : Platform) (user : User) (chunks : List Bytes) (reached : Tunnel) : Prop :=
  reached.written.flatten <+: carried platform user chunks ∧
    (reached.AtRest → reached.written.flatten = carried platform user chunks)

/-- In a run in which the conversions end in order and before the close, the upstream gets every byte in
the order in which the client has sent them. -/
theorem upstream_bytes_in_order {platform : Platform} {user : User} {device : String} {request : WebSocketRequest}
    {events : List TunnelEvent} {reached : Tunnel}
    (run : (tunnel platform).Run (fun tunnel event => tunnel.Undisturbed event ∧ tunnel.InOrder event)
      (.accepted user device request) events reached)
    (valid : OpensWith platform user (received request events)) :
    Delivered platform user (received request events) reached := by
  have ordered := Tunnel.ordered_run run valid Tunnel.accepted_ordered
  obtain ⟨taken, shape, passes⟩ := ordered.passes
  constructor
  · apply passes.written_prefix.trans
    rw [received, shape]
    exact Tunnel.carried_prefix taken _
  · rintro ⟨converted, drained, sink⟩
    rw [received, shape, converted, drained, List.append_nil, List.append_nil]
    rw [Tunnel.Passes] at passes
    rcases sink with waits | ended
    · rw [waits] at passes
      exact passes.1
    · rw [ended] at passes
      exact passes.1

namespace Upstream

/-- `Undisturbed` as a check. -/
def calm (tunnel : Tunnel) : TunnelEvent → Bool
  | .resolved answer pick =>
    match tunnel.sink with
    | .resolving header _ => (dial tunnel.user header answer pick).toOption.isSome
    | _ => true
  | .connected ok | .written ok => ok
  | .unreadable _ | .clientFails | .unreachable | .upstreamEnds => false
  | _ => true

theorem undisturbed_of_calm (tunnel : Tunnel) (event : TunnelEvent) (passed : calm tunnel event = true) :
    tunnel.Undisturbed event := by
  cases event with
  | resolved answer pick =>
    intro header payload resolving
    rw [calm, resolving] at passed
    dsimp only at passed
    cases dialled : dial tunnel.user header answer pick with
    | error failure =>
      rw [dialled] at passed
      contradiction
    | ok upstream => exact ⟨upstream, rfl⟩
  | connected ok => exact passed
  | written ok => exact passed
  | unreadable index => contradiction
  | clientFails => contradiction
  | unreachable => contradiction
  | upstreamEnds => contradiction
  | message data => trivial
  | converted index => trivial
  | clientCloses => trivial
  | pull => trivial
  | opened throws => trivial
  | streamEnds => trivial
  | received value => trivial

/-- `InOrder` as a check. -/
def orderly (tunnel : Tunnel) : TunnelEvent → Bool
  | .converted index => index = 0
  | .clientCloses => tunnel.converting = []
  | .opened throws => !throws
  | _ => true

theorem inOrder_of_orderly (tunnel : Tunnel) (event : TunnelEvent) (passed : orderly tunnel event = true) :
    tunnel.InOrder event := by
  cases event with
  | converted index =>
    have first : index = 0 := of_decide_eq_true passed
    exact first
  | clientCloses =>
    have empty : tunnel.converting = [] := of_decide_eq_true passed
    exact empty
  | opened throws =>
    have sends : throws = false := by simpa [orderly] using passed
    exact sends
  | _ => trivial

/-- A header for TCP with one byte of payload. -/
def first : Bytes := (Wire.toResolver 1).bytes ++ [9]

def request : WebSocketRequest where
  upgrade := some "websocket"
  pathname := "/"

/-- The upstream opens and takes the payload. -/
def opening : List TunnelEvent :=
  [.message first, .converted 0, .pull, .resolved (.ok "") 0, .connected true, .opened false, .written true]

theorem opensWith (events : List TunnelEvent) (headed : (received request events).head? = some first) :
    OpensWith Response.platform Response.user (received request events) := by
  intro other found
  rw [headed] at found
  obtain rfl : first = other := Option.some.inj found
  exact ⟨_, _, readHeader_ok_iff.mpr ⟨parseVlessHeader_wire (Wire.toResolver 1) [9], rfl, .inl rfl, rfl, rfl⟩⟩

end Upstream

open Upstream in
theorem ordered_bytes_delivered : ∃ reached, Delivered Response.platform Response.user
    (received request (opening ++ [TunnelEvent.message [1], .message [2], .converted 0, .converted 0, .pull, .written true, .pull,
      .written true, .clientCloses, .streamEnds])) reached ∧ reached.written = [[9], [1], [2]] := by
  have replayed : ((tunnel Response.platform).checked? (fun tunnel event => calm tunnel event && orderly tunnel event)
      (.accepted Response.user "" request) (opening ++ [TunnelEvent.message [1], .message [2], .converted 0, .converted 0, .pull,
        .written true, .pull, .written true, .clientCloses, .streamEnds])).map (·.written) = some [[9], [1], [2]] := by
    decide +kernel
  obtain ⟨reached, replayed, written⟩ := Option.map_eq_some_iff.mp replayed
  have sound (tunnel : Tunnel) (event : TunnelEvent) (passed : (calm tunnel event && orderly tunnel event) = true) :
      Tunnel.Undisturbed tunnel event ∧ Tunnel.InOrder tunnel event := by
    rw [Bool.and_eq_true] at passed
    exact ⟨undisturbed_of_calm tunnel event passed.1, inOrder_of_orderly tunnel event passed.2⟩
  have run := Run.of_checked sound replayed
  exact ⟨reached, upstream_bytes_in_order run (opensWith _ rfl), written⟩

open Upstream in
/-- Two conversions that end the other way round change the order, and a conversion that ends after the
close is lost. -/
theorem upstream_bytes_disordered :
    (∃ events reached, (tunnel Response.platform).Run Tunnel.Undisturbed (.accepted Response.user "" request) events reached ∧
      OpensWith Response.platform Response.user (received request events) ∧
      reached.written = [[9], [2], [1]] ∧ ¬ Delivered Response.platform Response.user (received request events) reached) ∧
    ∃ events reached, (tunnel Response.platform).Run Tunnel.Undisturbed (.accepted Response.user "" request) events reached ∧
      OpensWith Response.platform Response.user (received request events) ∧
      reached.written = [[9]] ∧ ¬ Delivered Response.platform Response.user (received request events) reached := by
  constructor
  · have replayed : ((tunnel Response.platform).checked? calm (.accepted Response.user "" request) (opening ++
        [TunnelEvent.message [1], .message [2], .converted 1, .converted 0, .pull, .written true, .pull, .written true])).map
          (·.written) = some [[9], [2], [1]] := by decide +kernel
    obtain ⟨reached, replayed, written⟩ := Option.map_eq_some_iff.mp replayed
    refine ⟨_, reached, Run.of_checked undisturbed_of_calm replayed, opensWith _ rfl, written, ?_⟩
    rintro ⟨part, -⟩
    rw [written] at part
    revert part
    decide +kernel
  · have replayed : ((tunnel Response.platform).checked? calm (.accepted Response.user "" request) (opening ++
        [TunnelEvent.message [1], .clientCloses, .converted 0, .streamEnds])).map
          (fun reached => (reached.written, reached.converting, reached.queue, reached.sink)) =
            some ([[9]], [], [], .ended) := by decide +kernel
    obtain ⟨reached, replayed, state⟩ := Option.map_eq_some_iff.mp replayed
    simp only [Prod.mk.injEq] at state
    obtain ⟨written, converted, taken, ended⟩ := state
    refine ⟨_, reached, Run.of_checked undisturbed_of_calm replayed, opensWith _ rfl, written, ?_⟩
    rintro ⟨-, whole⟩
    have all := whole ⟨converted, taken, .inr ended⟩
    rw [written] at all
    revert all
    decide +kernel

end OmniControlPlane.Panel
