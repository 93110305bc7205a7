import OmniControlPlane.Panel.Proxy

/-! # SOCKS handshakes on a segmented stream

A dialog that reads fixed pieces returns with the tunnel untouched exactly where every piece ends at
the end of a chunk; every other segmentation ends in an overrun. A refusal throws in any case.
-/

namespace OmniControlPlane.Panel

open Lib

/-! ## Dialogs and their pieces -/

section

variable {α β : Type} {x : Dialog α} {f : α → Dialog β} {a : α} {b : β} {pieces more : List (List UInt8)}

/-- From a stream that begins with the pieces, the dialog takes them and returns a value where they are
aligned with the chunks, and throws where they are not. -/
def Reads (x : Dialog α) (pieces : List (List UInt8)) (a : α) : Prop :=
  ∀ socket tail, socket.readable.flatten = pieces.flatten ++ tail →
    (∃ left, x socket = (.ok a, left) ∧ left.readable.flatten = tail ∧
      ∀ more, Aligned (pieces ++ more) socket.readable ↔ Aligned more left.readable) ∨
    (∃ reason left, x socket = (.error reason, left)) ∧ ∀ more, ¬ Aligned (pieces ++ more) socket.readable

/-- From a stream that begins with the pieces the dialog throws, however the stream is cut. -/
def Refuses (x : Dialog α) (pieces : List (List UInt8)) : Prop :=
  ∀ socket tail, socket.readable.flatten = pieces.flatten ++ tail → ∃ reason left, x socket = (.error reason, left)

theorem dialog_ok {socket left : Relay} (run : x socket = (.ok a, left)) : (x >>= f) socket = f a left := by
  change ExceptT.bindCont f (x socket).1 (x socket).2 = _
  rw [run]
  rfl

theorem dialog_error {socket left : Relay} {reason : Failure} (run : x socket = (.error reason, left)) :
    (x >>= f) socket = (.error reason, left) := by
  change ExceptT.bindCont f (x socket).1 (x socket).2 = _
  rw [run]
  rfl

theorem Reads.pure (a : α) : Reads (Pure.pure a) [] a := by
  intro socket tail stream
  exact .inl ⟨socket, rfl, stream, fun _ => Iff.rfl⟩

theorem Reads.write (bytes : List UInt8) : Reads (Dialog.write bytes) [] () := by
  intro socket tail stream
  exact .inl ⟨_, rfl, stream, fun _ => Iff.rfl⟩

theorem Refuses.throw (reason : Failure) (pieces : List (List UInt8)) : Refuses (MonadExcept.throw reason : Dialog α) pieces :=
  fun socket _ _ => ⟨reason, socket, rfl⟩

theorem Reads.readExact (piece : List UInt8) : Reads (Dialog.readExact piece.length) [piece] piece := by
  intro socket tail stream
  rw [List.flatten_singleton] at stream
  cases read : Lib.readExact piece.length socket.readable with
  | ok found =>
    obtain ⟨items, rest⟩ := found
    obtain ⟨rfl, flat⟩ := readExact_eq stream read
    refine .inl ⟨{ socket with readable := rest }, by rw [Dialog.readExact, read], flat, fun more => ?_⟩
    rw [List.singleton_append, aligned_cons stream]
    constructor
    · rintro ⟨other, again, -, aligned⟩
      obtain ⟨-, rfl⟩ := Prod.mk.inj (Except.ok.inj (again.symm.trans read))
      exact aligned
    · intro aligned
      exact ⟨rest, read, flat, aligned⟩
  | error reason =>
    refine .inr ⟨⟨ReadError.failure reason, _, by rw [Dialog.readExact, read]⟩, fun more => ?_⟩
    rw [List.singleton_append, aligned_cons stream]
    rintro ⟨rest, again, -⟩
    rw [read] at again
    contradiction

theorem Reads.bind (first : Reads x pieces a) (second : Reads (f a) more b) : Reads (x >>= f) (pieces ++ more) b := by
  intro socket tail stream
  rw [List.flatten_append, List.append_assoc] at stream
  rcases first socket _ stream with ⟨left, run, flat, aligned⟩ | ⟨⟨reason, left, run⟩, unaligned⟩
  · rw [dialog_ok run]
    rcases second left tail flat with ⟨last, after, rest, later⟩ | ⟨fails, later⟩
    · refine .inl ⟨last, after, rest, fun further => ?_⟩
      rw [List.append_assoc, aligned, later]
    · refine .inr ⟨fails, fun further => ?_⟩
      rw [List.append_assoc, aligned]
      exact later further
  · refine .inr ⟨⟨reason, left, dialog_error run⟩, fun further => ?_⟩
    rw [List.append_assoc]
    exact unaligned (more ++ further)

theorem Reads.bind_refuses (first : Reads x pieces a) (second : Refuses (f a) more) :
    Refuses (x >>= f) (pieces ++ more) := by
  intro socket tail stream
  rw [List.flatten_append, List.append_assoc] at stream
  rcases first socket _ stream with ⟨left, run, flat, -⟩ | ⟨⟨reason, left, run⟩, -⟩
  · rw [dialog_ok run]
    exact second left tail flat
  · exact ⟨reason, left, dialog_error run⟩

theorem Refuses.bind (first : Refuses x pieces) : Refuses (x >>= f) pieces := by
  intro socket tail stream
  obtain ⟨reason, left, run⟩ := first socket tail stream
  exact ⟨reason, left, dialog_error run⟩

/-- The dialog returns, and the tunnel is what its socket will still deliver. -/
def Connected (outcome : Except Failure Unit × Relay) (tunnel : List UInt8) : Prop :=
  outcome.1 = .ok () ∧ outcome.2.readable.flatten = tunnel

def Throws (outcome : Except Failure Unit × Relay) : Prop := ∃ reason, outcome.1 = .error reason

theorem Reads.connected_iff {x : Dialog Unit} (reads : Reads x pieces ()) {socket : Relay} {tunnel : List UInt8}
    (stream : socket.readable.flatten = pieces.flatten ++ tunnel) :
    Connected (x socket) tunnel ↔ Aligned pieces socket.readable := by
  rw [← List.append_nil pieces]
  rcases reads socket tunnel stream with ⟨left, run, flat, aligned⟩ | ⟨⟨reason, left, run⟩, unaligned⟩
  · rw [run, aligned []]
    exact iff_of_true ⟨rfl, flat⟩ (aligned_nil _)
  · rw [run]
    refine iff_of_false ?_ (unaligned [])
    rintro ⟨returned, -⟩
    contradiction

theorem Refuses.throws {x : Dialog Unit} (refuses : Refuses x pieces) {socket : Relay} {tail : List UInt8}
    (stream : socket.readable.flatten = pieces.flatten ++ tail) : Throws (x socket) := by
  obtain ⟨reason, left, run⟩ := refuses socket tail stream
  exact ⟨reason, by rw [run]⟩

end

/-! ## What a server answers -/

/-- The address that a SOCKS5 reply reports as bound. -/
inductive BoundAddress where
  | ipv4 (bytes : List UInt8) (size : bytes.length = 4)
  | ipv6 (bytes : List UInt8) (size : bytes.length = 16)
  | domain (name : List UInt8) (size : name.length ≤ 255)

def BoundAddress.type : BoundAddress → UInt8
  | ipv4 .. => 1
  | domain .. => 3
  | ipv6 .. => 4

/-- The pieces in which the address and the port are read. -/
def BoundAddress.pieces (port : List UInt8) : BoundAddress → List (List UInt8)
  | ipv4 bytes _ => [bytes ++ port]
  | ipv6 bytes _ => [bytes ++ port]
  | domain name _ => [[UInt8.ofNat name.length], name ++ port]

/-- Two bytes. -/
structure PortBytes where
  bytes : List UInt8
  size : bytes.length = 2

inductive SocksAnswer where
  | unacceptable
  | rejected (status : UInt8) (refused : status ≠ 0)
  | replied (authenticated : Bool) (code : UInt8) (bound : BoundAddress) (port : PortBytes)
  | socks4 (code : UInt8) (rest : List UInt8) (size : rest.length = 6)

namespace SocksAnswer

/-- The answer in the pieces in which it is read, one message after the other. -/
def pieces : SocksAnswer → List (List UInt8)
  | unacceptable => [[0x05, 0xff]]
  | rejected status _ => [[0x05, 0x02], [0x01, status]]
  | replied authenticated code bound port =>
    (if authenticated then [[0x05, 0x02], [0x01, 0x00]] else [[0x05, 0x00]]) ++
      [0x05, code, 0x00, bound.type] :: bound.pieces port.bytes
  | socks4 code rest _ => [0x00 :: code :: rest]

/-- A server chooses only a method that it was offered. -/
def Valid (p : ProxySpec) : SocksAnswer → Prop
  | rejected .. => p.hasUser
  | replied authenticated .. => authenticated = true → p.hasUser
  | _ => True

def Succeeds : SocksAnswer → Prop
  | replied _ code _ _ => code = 0x00
  | socks4 code _ _ => code = 0x5a
  | _ => False

instance (answer : SocksAnswer) : Decidable answer.Succeeds :=
  match answer with
  | unacceptable | rejected .. => inferInstanceAs (Decidable False)
  | replied .. | socks4 .. => inferInstanceAs (Decidable (_ = _))

/-- The function that speaks the version of the answer. -/
def handshake (p : ProxySpec) (destHost : String) (destPort : ℕ) : SocksAnswer → Dialog Unit
  | socks4 .. => Panel.socks4 p destHost destPort
  | _ => Panel.socks5 p destHost destPort

end SocksAnswer

/-! ## The handshakes read the answers -/

variable (p : ProxySpec) (destHost : String) (destPort : ℕ)

theorem authenticate_none : Reads (authenticate p 0x00) [] () := Reads.pure ()

theorem authenticate_unacceptable : Refuses (authenticate p 0xff) [] := Refuses.throw _ _

variable {p}

theorem authenticate_accepted (user : p.hasUser) : Reads (authenticate p 0x02) [[0x01, 0x00]] () := by
  rw [authenticate, if_pos ⟨rfl, user⟩]
  exact (Reads.write _).bind ((Reads.readExact [0x01, 0x00]).bind (Reads.pure ()))

theorem authenticate_rejected (user : p.hasUser) {status : UInt8} (refused : status ≠ 0) :
    Refuses (authenticate p 0x02) [[0x01, status]] := by
  rw [authenticate, if_pos ⟨rfl, user⟩]
  refine (Reads.write _).bind_refuses ((Reads.readExact [0x01, status]).bind_refuses ?_)
  change Refuses (if status ≠ 0x00 then _ else _) []
  rw [if_pos refused]
  exact Refuses.throw _ _

theorem boundLength_reads (bound : BoundAddress) (port : PortBytes) :
    Reads (do let skip ← boundLength bound.type; let _ ← Dialog.readExact (skip + 2); pure ()) (bound.pieces port.bytes) () := by
  have last (address : List UInt8) : Reads (do let _ ← Dialog.readExact (address.length + 2); pure ())
      [address ++ port.bytes] () := by
    have read := Reads.readExact (address ++ port.bytes)
    rw [List.length_append, port.size] at read
    exact read.bind (Reads.pure ())
  cases bound with
  | ipv4 bytes size =>
    have after := last bytes
    rw [size] at after
    exact (Reads.pure 4).bind after
  | ipv6 bytes size =>
    have after := last bytes
    rw [size] at after
    exact (Reads.pure 16).bind after
  | domain name size =>
    have length : (UInt8.ofNat name.length).toNat = name.length :=
      UInt8.toNat_ofNat_of_lt' (by rw [UInt8.size]; omega)
    have sized : Reads (boundLength 3) [[UInt8.ofNat name.length]] (UInt8.ofNat name.length).toNat :=
      (Reads.readExact [UInt8.ofNat name.length]).bind (Reads.pure _)
    rw [length] at sized
    exact sized.bind (last name)

/-- What `socks5` reads behind the choice of a method. -/
theorem socks5_reads {method : UInt8} {chosen : List (List UInt8)} (agreed : Reads (authenticate p method) chosen ())
    (bound : BoundAddress) (port : PortBytes) : Reads (socks5 p destHost destPort)
      ([0x05, method] :: (chosen ++ [0x05, 0x00, 0x00, bound.type] :: bound.pieces port.bytes)) () := by
  refine (Reads.write _).bind ((Reads.readExact [0x05, method]).bind ?_)
  refine Reads.bind agreed ((Reads.write _).bind ((Reads.readExact [0x05, 0x00, 0x00, bound.type]).bind ?_))
  exact boundLength_reads bound port

theorem socks5_refuses {method code : UInt8} {chosen : List (List UInt8)} (agreed : Reads (authenticate p method) chosen ())
    (failed : code ≠ 0x00) (type : UInt8) (more : List (List UInt8)) : Refuses (socks5 p destHost destPort)
      ([0x05, method] :: (chosen ++ [0x05, code, 0x00, type] :: more)) := by
  refine (Reads.write _).bind_refuses ((Reads.readExact [0x05, method]).bind_refuses ?_)
  refine Reads.bind_refuses agreed ((Reads.write _).bind_refuses
    ((Reads.readExact [0x05, code, 0x00, type]).bind_refuses ?_))
  change Refuses (if code ≠ 0x00 then _ else _) more
  rw [if_pos failed]
  exact Refuses.throw _ _

theorem socks5_disagrees {method : UInt8} {chosen : List (List UInt8)} (refuses : Refuses (authenticate p method) chosen) :
    Refuses (socks5 p destHost destPort) ([0x05, method] :: chosen) := by
  refine (Reads.write _).bind_refuses ((Reads.readExact [0x05, method]).bind_refuses ?_)
  exact Refuses.bind refuses

theorem socks4_reads (rest : List UInt8) (size : rest.length = 6) :
    Reads (socks4 p destHost destPort) [0x00 :: 0x5a :: rest] () := by
  have read := Reads.readExact (0x00 :: 0x5a :: rest)
  rw [List.length_cons, List.length_cons, size] at read
  exact (Reads.write _).bind (read.bind (Reads.pure ()))

theorem socks4_refuses {code : UInt8} (failed : code ≠ 0x5a) (rest : List UInt8) (size : rest.length = 6) :
    Refuses (socks4 p destHost destPort) [0x00 :: code :: rest] := by
  have read := Reads.readExact (0x00 :: code :: rest)
  rw [List.length_cons, List.length_cons, size] at read
  refine (Reads.write _).bind_refuses (read.bind_refuses ?_)
  change Refuses (if code ≠ 0x5a then _ else _) []
  rw [if_pos failed]
  exact Refuses.throw _ _

/-- An answer that succeeds is read in its pieces. -/
theorem SocksAnswer.reads {answer : SocksAnswer} (valid : answer.Valid p) (succeeds : answer.Succeeds) :
    Reads (answer.handshake p destHost destPort) answer.pieces () := by
  cases answer with
  | unacceptable => contradiction
  | rejected => contradiction
  | replied authenticated code bound port =>
    obtain rfl : code = 0x00 := succeeds
    cases authenticated with
    | false => exact socks5_reads destHost destPort (authenticate_none p) bound port
    | true => exact socks5_reads destHost destPort (authenticate_accepted (valid rfl)) bound port
  | socks4 code rest size =>
    obtain rfl : code = 0x5a := succeeds
    exact socks4_reads destHost destPort rest size

theorem SocksAnswer.refuses {answer : SocksAnswer} (valid : answer.Valid p) (fails : ¬ answer.Succeeds) :
    Refuses (answer.handshake p destHost destPort) answer.pieces := by
  cases answer with
  | unacceptable => exact socks5_disagrees destHost destPort (authenticate_unacceptable p)
  | rejected status refused => exact socks5_disagrees destHost destPort (authenticate_rejected valid refused)
  | replied authenticated code bound port =>
    cases authenticated with
    | false => exact socks5_refuses destHost destPort (authenticate_none p) fails bound.type _
    | true => exact socks5_refuses destHost destPort (authenticate_accepted (valid rfl)) fails bound.type _
  | socks4 code rest size => exact socks4_refuses destHost destPort fails rest size

/-- What the segmentation must not decide: a success leaves the tunnel on the socket, a failure throws. -/
def Unsegmented (p : ProxySpec) (destHost : String) (destPort : ℕ) (answer : SocksAnswer) (tunnel : List UInt8)
    (socket : Relay) : Prop :=
  if answer.Succeeds then Connected (answer.handshake p destHost destPort socket) tunnel
  else Throws (answer.handshake p destHost destPort socket)

/-- The handshake does what the answer says exactly when the answer is a failure, or every piece of it
ends where a chunk ends. -/
theorem socks_segmentation_iff (p : ProxySpec) (destHost : String) (destPort : ℕ) (answer : SocksAnswer)
    (tunnel : List UInt8) (socket : Relay) (valid : answer.Valid p)
    (stream : socket.readable.flatten = answer.pieces.flatten ++ tunnel) :
    Unsegmented p destHost destPort answer tunnel socket ↔
      (answer.Succeeds → Aligned answer.pieces socket.readable) := by
  rw [Unsegmented]
  split
  · next succeeds =>
    rw [(SocksAnswer.reads destHost destPort valid succeeds).connected_iff stream]
    exact ⟨fun aligned _ => aligned, fun aligned => aligned succeeds⟩
  · next fails =>
    refine iff_of_true ?_ fun succeeds => absurd succeeds fails
    exact (SocksAnswer.refuses destHost destPort valid fails).throws stream

def ProxySpec.sample : ProxySpec where
  user := some "user"
  pass := "pass"
  host := "proxy.example.net"
  port := 1080

/-- A login is accepted, then the request, with an IPv4 address bound. -/
def SocksAnswer.sample : SocksAnswer := .replied true 0x00 (.ipv4 [10, 0, 0, 1] rfl) ⟨[0x1f, 0x90], rfl⟩

theorem socks_segmentation_iff_sample :
    SocksAnswer.sample.Valid .sample ∧
      ([[0x05, 0x02], [0x01, 0x00], [0x05, 0x00, 0x00, 0x01], [10, 0, 0, 1, 0x1f, 0x90], [7, 7]] : List (List UInt8)).flatten =
        SocksAnswer.sample.pieces.flatten ++ [7, 7] ∧
      (Unsegmented .sample "example.com" 443 .sample [7, 7]
          { readable := [[0x05, 0x02], [0x01, 0x00], [0x05, 0x00, 0x00, 0x01], [10, 0, 0, 1, 0x1f, 0x90], [7, 7]] } ↔
        (SocksAnswer.sample.Succeeds → Aligned SocksAnswer.sample.pieces
          [[0x05, 0x02], [0x01, 0x00], [0x05, 0x00, 0x00, 0x01], [10, 0, 0, 1, 0x1f, 0x90], [7, 7]])) :=
  ⟨fun _ => by decide, by decide, socks_segmentation_iff .sample "example.com" 443 .sample [7, 7]
    { readable := [[0x05, 0x02], [0x01, 0x00], [0x05, 0x00, 0x00, 0x01], [10, 0, 0, 1, 0x1f, 0x90], [7, 7]] }
    (fun _ => by decide) (by decide)⟩

/-- The same answer with the reply in one chunk of ten bytes, as servers send it. -/
theorem reply_in_one_chunk_overruns :
    SocksAnswer.sample.Valid .sample ∧ SocksAnswer.sample.Succeeds ∧
      ([[0x05, 0x02], [0x01, 0x00], [0x05, 0x00, 0x00, 0x01, 10, 0, 0, 1, 0x1f, 0x90]] : List (List UInt8)).flatten =
        SocksAnswer.sample.pieces.flatten ++ [] ∧
      (socks5 .sample "example.com" 443
        { readable := [[0x05, 0x02], [0x01, 0x00], [0x05, 0x00, 0x00, 0x01, 10, 0, 0, 1, 0x1f, 0x90]] }).1 =
        .error (.error "proxy handshake frame overrun") ∧
      ¬ Unsegmented .sample "example.com" 443 .sample []
        { readable := [[0x05, 0x02], [0x01, 0x00], [0x05, 0x00, 0x00, 0x01, 10, 0, 0, 1, 0x1f, 0x90]] } := by
  have overrun : (socks5 .sample "example.com" 443
      { readable := [[0x05, 0x02], [0x01, 0x00], [0x05, 0x00, 0x00, 0x01, 10, 0, 0, 1, 0x1f, 0x90]] }).1 =
      .error (.error "proxy handshake frame overrun") := by decide +kernel
  refine ⟨fun _ => by decide, by decide, by decide, overrun, ?_⟩
  rw [Unsegmented, if_pos (by decide)]
  rintro ⟨returned, -⟩
  exact nomatch overrun.symm.trans returned

end OmniControlPlane.Panel
