import OmniControlPlane.Panel.Connection

/-! # Datagrams in a tunnel

`createUdpForwarder`: every chunk is cut into frames of a two-byte length and a datagram. A chunk is
read on its own, so what is left at its end is not joined to the next one, and an empty frame ends it.
-/

namespace OmniControlPlane.Panel

open Lib

/-- The packets that `write` cuts off a chunk. -/
def packets : List UInt8 → List (List UInt8)
  | high :: low :: rest =>
    let len := high.toNat * 256 + low.toNat
    if len = 0 ∨ rest.length < len then [] else rest.take len :: packets (rest.drop len)
  | _ => []
termination_by buf => buf.length
decreasing_by simp only [List.length_drop, List.length_cons]; omega

/-- What the platform answers: `resolveOne` at each turn, and `globalThis.__cfSockets.connect`, if there
is one; it throws where it says `false`. -/
structure UdpNetwork where
  resolveOne : ℕ → Except String String
  connect : Option (String → ℕ → Bool)

/-- A datagram with the host and the port of the socket that it is handed to. -/
structure Datagram where
  host : String
  port : ℕ
  packet : List UInt8
deriving DecidableEq, Repr

/-- What a forwarder has sent, and how often it was asked to. -/
structure UdpForwarder where
  turn : ℕ := 0
  sent : List Datagram := []

namespace UdpNetwork

variable (network : UdpNetwork) (header : VlessHeader)

def connectUdp (host : String) (port : ℕ) : Bool := network.connect.any (· host port)

/-- The datagram that is handed to a socket; an error drops it. -/
def datagram (turn : ℕ) (packet : List UInt8) : Option Datagram :=
  let host :=
    if isIpv4 header.address ∨ ':' ∈ header.address.toList then .ok header.address else network.resolveOne turn
  match host with
  | .error _ => none
  | .ok host => if network.connectUdp host header.port then some ⟨host, header.port, packet⟩ else none

def sendDatagram (forwarder : UdpForwarder) (packet : List UInt8) : UdpForwarder where
  turn := forwarder.turn + 1
  sent := forwarder.sent ++ (network.datagram header forwarder.turn packet).toList

/-- `write`, which awaits every datagram. -/
def write (forwarder : UdpForwarder) (chunk : List UInt8) : UdpForwarder :=
  (packets chunk).foldl (network.sendDatagram header) forwarder

/-- The chunks of a tunnel, one after the other. -/
def forward (chunks : List (List UInt8)) : UdpForwarder := chunks.foldl (network.write header) {}

/-- Every question is answered, and every connection is made. -/
structure Reaches : Prop where
  resolved : ∀ turn, ∃ host, network.resolveOne turn = .ok host
  connects : ∃ connect, network.connect = some connect ∧ ∀ host, connect host header.port = true

variable {network header}

theorem datagram_packet (reaches : network.Reaches header) (turn : ℕ) (packet : List UInt8) :
    ∃ host, network.datagram header turn packet = some ⟨host, header.port, packet⟩ := by
  obtain ⟨connect, isConnect, accepts⟩ := reaches.connects
  obtain ⟨resolved, answer⟩ := reaches.resolved turn
  have connected (host : String) : network.connectUdp host header.port = true := by
    rw [connectUdp, isConnect]
    exact accepts host
  rw [datagram]
  split
  · next failure error =>
    split at error
    · contradiction
    · rw [answer] at error
      contradiction
  · next host _ => exact ⟨host, by rw [if_pos (connected host)]⟩

private theorem foldl_sent (reaches : network.Reaches header) (cut : List (List UInt8)) (forwarder : UdpForwarder) :
    (cut.foldl (network.sendDatagram header) forwarder).sent.map (·.packet) =
      forwarder.sent.map (·.packet) ++ cut := by
  induction cut generalizing forwarder with
  | nil => rw [List.foldl_nil, List.append_nil]
  | cons packet cut ih =>
    obtain ⟨host, handed⟩ := datagram_packet reaches forwarder.turn packet
    rw [List.foldl_cons, ih, sendDatagram, handed, Option.toList_some, List.map_append, List.append_assoc]
    rfl

/-- The sockets get the packets of every chunk. -/
theorem forward_packets (reaches : network.Reaches header) (chunks : List (List UInt8)) :
    (network.forward header chunks).sent.map (·.packet) = chunks.flatMap packets := by
  have sent (forwarder : UdpForwarder) : (chunks.foldl (network.write header) forwarder).sent.map (·.packet) =
      forwarder.sent.map (·.packet) ++ chunks.flatMap packets := by
    induction chunks generalizing forwarder with
    | nil => rw [List.foldl_nil, List.flatMap_nil, List.append_nil]
    | cons chunk chunks ih =>
      rw [List.foldl_cons, ih, write, foldl_sent reaches, List.flatMap_cons, List.append_assoc]
  exact sent {}

end UdpNetwork

/-! ## Frames -/

/-- A datagram behind its length. -/
def frame (packet : List UInt8) : List UInt8 :=
  UInt8.ofNat (packet.length / 256) :: UInt8.ofNat packet.length :: packet

/-- What fits into a frame and is not empty. -/
def Sendable (packet : List UInt8) : Prop := packet ≠ [] ∧ packet.length ≤ 65535

private theorem length_back {packet : List UInt8} (short : packet.length ≤ 65535) :
    (UInt8.ofNat (packet.length / 256)).toNat * 256 + (UInt8.ofNat packet.length).toNat = packet.length := by
  rw [UInt8.toNat_ofNat', UInt8.toNat_ofNat']
  omega

/-- A whole frame is cut off. -/
theorem packets_frame {packet : List UInt8} (sendable : Sendable packet) (rest : List UInt8) :
    packets (frame packet ++ rest) = packet :: packets rest := by
  have nonempty : packet.length ≠ 0 := fun zero => sendable.1 (List.eq_nil_of_length_eq_zero zero)
  rw [frame, List.cons_append, List.cons_append, packets, length_back sendable.2, if_neg, List.take_left,
    List.drop_left]
  rw [List.length_append]
  omega

theorem packets_frames {cut : List (List UInt8)} (sendable : ∀ packet ∈ cut, Sendable packet) (rest : List UInt8) :
    packets (cut.flatMap frame ++ rest) = cut ++ packets rest := by
  induction cut with
  | nil => rfl
  | cons packet cut ih =>
    have later := ih fun other found => sendable other (List.mem_cons_of_mem _ found)
    rw [List.flatMap_cons, List.append_assoc, packets_frame (sendable packet List.mem_cons_self), later]
    rfl

/-- Zeros are no packets. -/
theorem packets_zeros (size : ℕ) : packets (List.replicate size 0) = [] := by
  match size with
  | 0 =>
    rw [List.replicate_zero, packets]
    simp
  | 1 =>
    rw [List.replicate_succ, List.replicate_zero, packets]
    simp
  | size + 2 =>
    rw [List.replicate_succ, List.replicate_succ, packets, if_pos]
    exact .inl rfl

/-- A chunk is the frames that are cut off and a rest. -/
theorem packets_split (chunk : List UInt8) : ∃ rest, chunk = (packets chunk).flatMap frame ++ rest ∧
    ∀ packet ∈ packets chunk, Sendable packet := by
  induction chunk using packets.induct with
  | case1 high low rest len stops =>
    refine ⟨high :: low :: rest, ?_⟩
    rw [packets, if_pos stops]
    exact ⟨rfl, by simp⟩
  | case2 high low rest len goes ih =>
    obtain ⟨left, shape, sendable⟩ := ih
    rw [not_or] at goes
    have size : (rest.take len).length = len := List.length_take_of_le (by omega)
    have highBound := high.toNat_lt
    have lowBound := low.toNat_lt
    have whole : high :: low :: rest.take len = frame (rest.take len) := by
      rw [frame, size]
      congr 1
      · apply UInt8.toNat_inj.mp
        rw [UInt8.toNat_ofNat']
        omega
      · congr 1
        apply UInt8.toNat_inj.mp
        rw [UInt8.toNat_ofNat']
        omega
    refine ⟨left, ?_⟩
    rw [packets, if_neg (not_or.mpr goes), List.flatMap_cons]
    constructor
    · rw [← whole, List.append_assoc, ← shape, List.cons_append, List.cons_append, List.take_append_drop]
    · intro packet found
      rcases List.mem_cons.mp found with rfl | found
      · constructor
        · intro empty
          rw [empty] at size
          exact goes.1 size.symm
        · change (rest.take len).length ≤ 65535
          omega
      · exact sendable packet found
  | case3 chunk short =>
    refine ⟨chunk, ?_⟩
    rw [packets]
    · exact ⟨rfl, by simp⟩
    · exact short

/-! ## Frames with gaps -/

/-- Frames, each with what stands behind it. -/
def spaced (parts : List (List UInt8 × List UInt8)) : List UInt8 := parts.flatMap fun part => frame part.1 ++ part.2

theorem spaced_cons (packet gap : List UInt8) (parts : List (List UInt8 × List UInt8)) :
    spaced ((packet, gap) :: parts) = frame packet ++ (gap ++ spaced parts) := by
  rw [spaced, List.flatMap_cons, List.append_assoc]
  rfl

section Gaps

variable {meant read : List (List UInt8 × List UInt8)} {packet lead late : List UInt8}

private theorem frame_not_zero (sendable : Sendable packet) : ¬ ∀ byte ∈ frame packet, byte = 0 := by
  intro zeros
  have high := zeros (UInt8.ofNat (packet.length / 256)) (by simp [frame])
  have low := zeros (UInt8.ofNat packet.length) (by simp [frame])
  have length := length_back sendable.2
  rw [high, low] at length
  exact sendable.1 (List.eq_nil_of_length_eq_zero length.symm)

/-- A frame that is read again further on, over zeros only, would be zero itself. -/
private theorem zero_of_shift {bytes gap rest after : List UInt8} (gapZero : ∀ byte ∈ gap, byte = 0)
    (nonempty : late ≠ []) (caught : late.length ≤ gap.length)
    (equal : bytes ++ (gap ++ rest) = late ++ (bytes ++ after)) : ∀ byte ∈ bytes, byte = 0 := by
  have positive : 0 < late.length := List.length_pos_iff.mpr nonempty
  have zero (left index : ℕ) : bytes.length - index = left → ∀ byte, bytes[index]? = some byte → byte = 0 := by
    induction left using Nat.strong_induction_on generalizing index with
    | _ left ih =>
      intro isLeft byte found
      have inside : index < bytes.length := (List.getElem?_eq_some_iff.mp found).1
      have shifted : (bytes ++ (gap ++ rest))[late.length + index]? = (late ++ (bytes ++ after))[late.length + index]? := by
        rw [equal]
      have behind : (late ++ (bytes ++ after))[late.length + index]? = some byte := by
        rw [List.getElem?_append_right (Nat.le_add_right _ _), Nat.add_sub_cancel_left, List.getElem?_append_left inside,
          found]
      rw [behind] at shifted
      by_cases within : late.length + index < bytes.length
      · rw [List.getElem?_append_left within] at shifted
        exact ih (bytes.length - (late.length + index)) (by omega) _ rfl byte shifted
      · rw [List.getElem?_append_right (by omega), List.getElem?_append_left (by omega)] at shifted
        exact gapZero byte (List.mem_of_getElem? shifted)
  intro byte found
  obtain ⟨index, inside⟩ := List.mem_iff_getElem?.mp found
  exact zero _ index rfl byte inside

/-- Frames that stand before zeros only are not read later than they stand. -/
private theorem not_late (same : meant.map (·.1) = read.map (·.1)) (sendable : ∀ part ∈ meant, Sendable part.1)
    (zeros : ∀ part ∈ meant, ∀ byte ∈ part.2, byte = 0) (nonempty : late ≠ []) :
    spaced meant ≠ late ++ spaced read := by
  induction meant generalizing read late with
  | nil =>
    intro equal
    exact nonempty (List.append_eq_nil_iff.mp equal.symm).1
  | cons part meant ih =>
    cases read with
    | nil => contradiction
    | cons other read =>
      obtain ⟨first, others⟩ := List.cons.inj same
      obtain ⟨packet, gap⟩ := part
      obtain ⟨packet', behind⟩ := other
      obtain rfl : packet = packet' := first
      intro equal
      rw [spaced_cons, spaced_cons] at equal
      by_cases caught : late.length ≤ gap.length
      · have gapZero := zeros (packet, gap) List.mem_cons_self
        exact frame_not_zero (sendable (packet, gap) List.mem_cons_self) (zero_of_shift gapZero nonempty caught equal)
      · have stripped := congrArg (List.drop (frame packet ++ gap).length) equal
        rw [← List.append_assoc, List.drop_left, ← List.append_assoc (frame packet) behind, ← List.append_assoc late,
          List.drop_append_of_le_length (by simp only [List.length_append]; omega)] at stripped
        refine ih others (fun part found => sendable part (List.mem_cons_of_mem _ found))
          (fun part found => zeros part (List.mem_cons_of_mem _ found)) ?_ stripped
        intro empty
        have length := congrArg List.length empty
        simp only [List.length_drop, List.length_append, List.length_nil] at length
        omega

/-- Zeros in front of a frame are not read as its length. -/
private theorem not_early {packet : List UInt8} {rest after : List UInt8} (sendable : Sendable packet)
    (zeros : ∀ byte ∈ late, byte = 0) (nonempty : late ≠ []) : late ++ (frame packet ++ rest) ≠ frame packet ++ after := by
  intro equal
  apply sendable.1
  apply List.eq_nil_of_length_eq_zero
  have length := length_back sendable.2
  match late, nonempty with
  | [zero], _ =>
    have high : zero = UInt8.ofNat (packet.length / 256) := (List.cons.inj equal).1
    have low : UInt8.ofNat (packet.length / 256) = UInt8.ofNat packet.length :=
      (List.cons.inj (List.cons.inj equal).2).1
    rw [← low, ← high, zeros zero (by simp)] at length
    exact length.symm
  | zero :: next :: _, _ =>
    have high : zero = UInt8.ofNat (packet.length / 256) := (List.cons.inj equal).1
    have low : next = UInt8.ofNat packet.length := (List.cons.inj (List.cons.inj equal).2).1
    rw [← low, ← high, zeros zero (by simp), zeros next (by simp)] at length
    exact length.symm

/-- The same frames with only zeros between them are read where they stand. -/
theorem spaced_unique (same : meant.map (·.1) = read.map (·.1)) (sendable : ∀ part ∈ meant, Sendable part.1)
    (leadZero : ∀ byte ∈ lead, byte = 0) (zeros : ∀ part ∈ meant, ∀ byte ∈ part.2, byte = 0)
    (equal : lead ++ spaced meant = late ++ spaced read) : lead = late ∧ meant = read := by
  induction meant generalizing read lead late with
  | nil =>
    obtain rfl : read = [] := List.map_eq_nil_iff.mp same.symm
    exact ⟨List.append_cancel_right equal, rfl⟩
  | cons part meant ih =>
    cases read with
    | nil => contradiction
    | cons other read =>
      obtain ⟨first, others⟩ := List.cons.inj same
      obtain ⟨packet, gap⟩ := part
      obtain ⟨packet', gap'⟩ := other
      obtain rfl : packet = packet' := first
      by_cases together : lead = late
      · subst together
        have rests := List.append_cancel_left equal
        rw [spaced_cons, spaced_cons] at rests
        obtain ⟨rfl, rfl⟩ := ih others (fun part found => sendable part (List.mem_cons_of_mem _ found))
          (zeros (packet, gap) List.mem_cons_self) (fun part found => zeros part (List.mem_cons_of_mem _ found))
          (List.append_cancel_left rests)
        exact ⟨rfl, rfl⟩
      · rcases List.append_eq_append_iff.mp equal with ⟨more, shape, behind⟩ | ⟨more, shape, behind⟩
        · refine absurd behind (not_late same sendable zeros ?_)
          rintro rfl
          exact together (by rw [shape, List.append_nil])
        · have late : more ≠ [] := by
            rintro rfl
            exact together (by rw [shape, List.append_nil])
          have moreZero : ∀ byte ∈ more, byte = 0 := by
            intro byte found
            exact leadZero byte (by rw [shape]; exact List.mem_append_right _ found)
          rw [spaced_cons, spaced_cons] at behind
          exact absurd behind.symm (not_early (sendable (packet, gap) List.mem_cons_self) moreZero late)

end Gaps

/-! ## Segments of a stream -/

/-- All gaps of a stream hold zeros. -/
private def ZeroGaps (lead : List UInt8) (parts : List (List UInt8 × List UInt8)) : Prop :=
  (∀ byte ∈ lead, byte = 0) ∧ ∀ part ∈ parts, ∀ byte ∈ part.2, byte = 0

/-- The frames that carry something; the empty ones are gaps. -/
private theorem spaced_items (items : List (List UInt8)) : ∃ lead parts,
    items.flatMap frame = lead ++ spaced parts ∧ parts.map (·.1) = items.filter (· ≠ []) ∧ ZeroGaps lead parts := by
  induction items with
  | nil => exact ⟨[], [], rfl, rfl, by simp, by simp⟩
  | cons item items ih =>
    obtain ⟨lead, parts, stream, packets, leadZero, zeros⟩ := ih
    by_cases empty : item = []
    · subst empty
      refine ⟨[0, 0] ++ lead, parts, ?_, ?_, ?_, zeros⟩
      · rw [List.flatMap_cons, stream, List.append_assoc]
        rfl
      · rw [packets, List.filter_cons_of_neg (by simp)]
      · intro byte found
        rcases List.mem_append.mp found with found | found
        · rcases List.mem_pair.mp found with rfl | rfl <;> rfl
        · exact leadZero byte found
    · refine ⟨[], (item, lead) :: parts, ?_, ?_, by simp, ?_⟩
      · rw [List.flatMap_cons, stream, List.nil_append, spaced_cons]
      · rw [List.map_cons, packets, List.filter_cons_of_pos (by simpa using empty)]
      · intro part found
        rcases List.mem_cons.mp found with rfl | found
        · exact leadZero
        · exact zeros part found

/-- Frames followed by some bytes, before a stream with gaps. -/
private theorem spaced_frames (cut : List (List UInt8)) (gap lead : List UInt8)
    (parts : List (List UInt8 × List UInt8)) : ∃ lead' parts',
      cut.flatMap frame ++ (gap ++ (lead ++ spaced parts)) = lead' ++ spaced parts' ∧
        parts'.map (·.1) = cut ++ parts.map (·.1) ∧
        (ZeroGaps lead' parts' → (∀ byte ∈ gap, byte = 0) ∧ ZeroGaps lead parts) := by
  induction cut with
  | nil =>
    refine ⟨gap ++ lead, parts, by simp, rfl, ?_⟩
    rintro ⟨leadZero, zeros⟩
    exact ⟨fun byte found => leadZero byte (List.mem_append_left _ found),
      fun byte found => leadZero byte (List.mem_append_right _ found), zeros⟩
  | cons packet cut ih =>
    obtain ⟨lead', parts', stream, packets, inherited⟩ := ih
    refine ⟨[], (packet, lead') :: parts', ?_, ?_, ?_⟩
    · rw [List.flatMap_cons, List.append_assoc, stream, List.nil_append, spaced_cons]
    · rw [List.map_cons, packets, List.cons_append]
    · rintro ⟨-, zeros⟩
      exact inherited ⟨zeros (packet, lead') List.mem_cons_self, fun part found => zeros part (List.mem_cons_of_mem _ found)⟩

/-- What is cut off the chunks, with what is left of each in the gaps. -/
private theorem spaced_chunks (chunks : List (List UInt8)) : ∃ lead parts,
    chunks.flatten = lead ++ spaced parts ∧ parts.map (·.1) = chunks.flatMap packets ∧
      (ZeroGaps lead parts → ∀ chunk ∈ chunks, ∃ size,
        chunk = (packets chunk).flatMap frame ++ List.replicate size 0) := by
  induction chunks with
  | nil => exact ⟨[], [], rfl, rfl, by simp⟩
  | cons chunk chunks ih =>
    obtain ⟨lead, parts, stream, cut, ends⟩ := ih
    obtain ⟨rest, shape, -⟩ := packets_split chunk
    obtain ⟨lead', parts', stream', cut', inherited⟩ := spaced_frames (packets chunk) rest lead parts
    refine ⟨lead', parts', ?_, ?_, ?_⟩
    · rw [List.flatten_cons, stream, ← stream']
      conv_lhs => rw [shape]
      rw [List.append_assoc]
    · rw [cut', cut, List.flatMap_cons]
    · intro zeros other found
      obtain ⟨restZero, later⟩ := inherited zeros
      rcases List.mem_cons.mp found with rfl | found
      · refine ⟨rest.length, ?_⟩
        rw [← List.eq_replicate_of_mem restZero, ← shape]
      · exact ends later other found

/-- Every chunk is the whole frames of some datagrams and then bytes of empty frames only; together
these datagrams are those of the stream. -/
def WholeFrames (items chunks : List (List UInt8)) : Prop :=
  ∃ cut : List (List (List UInt8) × ℕ),
    chunks = cut.map (fun part => part.1.flatMap frame ++ List.replicate part.2 0) ∧
      cut.flatMap (·.1) = items.filter (· ≠ [])

/-- The datagrams of a stream that are not empty are handed to the sockets, in their order. -/
def UdpNetwork.Delivers (network : UdpNetwork) (header : VlessHeader) (items chunks : List (List UInt8)) : Prop :=
  (network.forward header chunks).sent.map (·.packet) = items.filter (· ≠ [])

/-- The segments of a stream of frames carry its datagrams exactly where each consists of whole frames,
with the bytes of empty frames only at its end. -/
theorem datagrams_delivered_iff {network : UdpNetwork} {header : VlessHeader} {items chunks : List (List UInt8)}
    (reaches : network.Reaches header) (short : ∀ item ∈ items, item.length ≤ 65535)
    (stream : chunks.flatten = items.flatMap frame) :
    network.Delivers header items chunks ↔ WholeFrames items chunks := by
  have sendable : ∀ item ∈ items.filter (· ≠ []), Sendable item := by
    intro item found
    obtain ⟨listed, nonempty⟩ := List.mem_filter.mp found
    exact ⟨by simpa using nonempty, short item listed⟩
  rw [UdpNetwork.Delivers, UdpNetwork.forward_packets reaches]
  constructor
  · intro delivered
    obtain ⟨lead, meant, itemsStream, itemsCut, leadZero, zeros⟩ := spaced_items items
    obtain ⟨late, read, chunksStream, chunksCut, ends⟩ := spaced_chunks chunks
    have equal : lead ++ spaced meant = late ++ spaced read := by
      rw [← itemsStream, ← chunksStream, stream]
    have same : meant.map (·.1) = read.map (·.1) := by
      rw [itemsCut, chunksCut, delivered]
    have meantSendable : ∀ part ∈ meant, Sendable part.1 := by
      intro part found
      apply sendable
      rw [← itemsCut]
      exact List.mem_map_of_mem found
    obtain ⟨rfl, rfl⟩ := spaced_unique same meantSendable leadZero zeros equal
    have shapes := ends ⟨leadZero, zeros⟩
    refine ⟨chunks.map fun chunk => (packets chunk, chunk.length - ((packets chunk).flatMap frame).length), ?_, ?_⟩
    · rw [List.map_map]
      conv_lhs => rw [← List.map_id chunks]
      apply List.map_congr_left
      intro chunk found
      obtain ⟨size, shape⟩ := shapes chunk found
      have length := congrArg List.length shape
      rw [List.length_append, List.length_replicate] at length
      change chunk = (packets chunk).flatMap frame ++ List.replicate (chunk.length - _) 0
      rw [length, Nat.add_sub_cancel_left]
      exact shape
    · rw [List.flatMap_map]
      exact delivered
  · rintro ⟨cut, rfl, whole⟩
    rw [List.flatMap_map, ← whole]
    have parts (part : List (List UInt8) × ℕ) (found : part ∈ cut) :
        packets (part.1.flatMap frame ++ List.replicate part.2 0) = part.1 := by
      rw [packets_frames, packets_zeros, List.append_nil]
      intro packet inside
      apply sendable
      rw [← whole]
      exact List.mem_flatMap.mpr ⟨part, found, inside⟩
    rw [List.flatMap_def, List.flatMap_def]
    congr 1
    exact List.map_congr_left parts

/-- A network that reaches everything. -/
def UdpNetwork.reachable : UdpNetwork where
  resolveOne := fun _ => .ok "192.0.2.1"
  connect := some fun _ _ => true

theorem UdpNetwork.reachable_reaches (header : VlessHeader) : UdpNetwork.reachable.Reaches header where
  resolved := fun _ => ⟨_, rfl⟩
  connects := ⟨_, rfl, fun _ => rfl⟩

/-- The header of a tunnel to a resolver. -/
def VlessHeader.resolver : VlessHeader where
  version := 0
  uuid := ""
  cmd := some 2
  isUDP := true
  port := 53
  addressType := 1
  address := "192.0.2.53"
  payloadStart := 26

theorem whole_frames_delivered : UdpNetwork.reachable.Delivers .resolver [[7], [], [8, 9]] [[0, 1, 7, 0], [0], [0, 2, 8, 9]] :=
  (datagrams_delivered_iff (UdpNetwork.reachable_reaches _) (by decide) (by decide)).mpr
    ⟨[([[7]], 1), ([], 1), ([[8, 9]], 0)], by decide, by decide⟩

/-- A frame in two chunks is lost, and so is the frame behind an empty one. -/
theorem datagrams_lost :
    [[0, 1], [7]].flatten = [[7]].flatMap frame ∧
      ¬ UdpNetwork.reachable.Delivers .resolver [[7]] [[0, 1], [7]] ∧
      [[0, 0, 0, 1, 7]].flatten = [[], [7]].flatMap frame ∧
      ¬ UdpNetwork.reachable.Delivers .resolver [[], [7]] [[0, 0, 0, 1, 7]] := by
  refine ⟨by decide, ?_, by decide, ?_⟩
  · rw [UdpNetwork.Delivers, UdpNetwork.forward_packets (UdpNetwork.reachable_reaches _)]
    simp [packets]
  · rw [UdpNetwork.Delivers, UdpNetwork.forward_packets (UdpNetwork.reachable_reaches _)]
    simp [packets]

end OmniControlPlane.Panel
