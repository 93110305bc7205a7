import OmniControlPlane.Panel.Handshake

/-! # What a SOCKS request asks for

The messages of `socks5` and `socks4`, read as a proxy reads them. A length that is no byte wraps
around, an address with `::` is written where its groups were typed, and SOCKS4 knows no names here:
all of these are requests for something else, and nothing throws.
-/

namespace OmniControlPlane.Panel

open Lib

/-! ## What a proxy reads -/

inductive SocksAddress where
  | ipv4 (octets : List ℕ)
  | ipv6 (groups : List ℕ)
  | domain (name : List UInt8)
deriving DecidableEq, Repr

/-- Numbers of two bytes. -/
def readGroups : List UInt8 → List ℕ
  | high :: low :: rest => (high.toNat * 256 + low.toNat) :: readGroups rest
  | _ => []

/-- An address of a known size, and the port behind it. -/
def readAddress (size : ℕ) (address : List UInt8 → SocksAddress) (rest : List UInt8) : Option (SocksAddress × ℕ) :=
  match rest.drop size with
  | [high, low] => some (address (rest.take size), high.toNat * 256 + low.toNat)
  | _ => none

/-- The login of RFC 1929; an empty password is taken for one. -/
def readLogin : List UInt8 → Option (List UInt8 × List UInt8)
  | 0x01 :: length :: rest =>
    match rest.drop length.toNat with
    | size :: pass => if pass.length = size.toNat then some (rest.take length.toNat, pass) else none
    | [] => none
  | _ => none

/-- A `CONNECT` of RFC 1928. -/
def readConnect : List UInt8 → Option (SocksAddress × ℕ)
  | 0x05 :: 0x01 :: 0x00 :: 0x01 :: rest => readAddress 4 (fun bytes => .ipv4 (bytes.map (·.toNat))) rest
  | 0x05 :: 0x01 :: 0x00 :: 0x04 :: rest => readAddress 16 (fun bytes => .ipv6 (readGroups bytes)) rest
  | 0x05 :: 0x01 :: 0x00 :: 0x03 :: length :: rest => readAddress length.toNat .domain rest
  | _ => none

/-- The user, the password, the destination and the port. -/
structure SocksRequest where
  user : List UInt8
  pass : List UInt8
  address : SocksAddress
  port : ℕ
deriving DecidableEq, Repr

/-- A `CONNECT` of SOCKS4, which has no password; with an address `0.0.0.x` it is one of SOCKS4a and a name
follows the user. -/
def readSocks4 : List UInt8 → Option SocksRequest
  | 0x04 :: 0x01 :: high :: low :: a :: b :: c :: d :: rest =>
    let port := high.toNat * 256 + low.toNat
    let user := rest.takeWhile (· ≠ 0)
    match rest.drop user.length with
    | [] => none
    | _ :: after =>
      if a = 0 ∧ b = 0 ∧ c = 0 ∧ d ≠ 0 then
        let name := after.takeWhile (· ≠ 0)
        if after.drop name.length = [0] then some ⟨user, [], .domain name, port⟩ else none
      else if after = [] then some ⟨user, [], .ipv4 [a.toNat, b.toNat, c.toNat, d.toNat], port⟩
      else none
  | _ => none

def Destination.socksAddress : Destination → SocksAddress
  | ipv4 quad => .ipv4 quad.octets
  | ipv6 form => .ipv6 form.groups
  | domain name .. => .domain (utf8 name)

/-! ## What is asked -/

inductive SocksVersion where
  | v4
  | v5
deriving DecidableEq, Repr

/-- The function of the version, from a socket to a proxy that will say the given chunks. -/
def SocksVersion.run (version : SocksVersion) (p : ProxySpec) (destination : Destination) (port : ℕ)
    (chunks : List (List UInt8)) : Except Failure Unit × Relay :=
  match version with
  | v4 => socks4 p destination.text port { readable := chunks }
  | v5 => socks5 p destination.text port { readable := chunks }

/-- A message asks for what was requested: in SOCKS5 it is the choice of a method, a login or a request, as
its place and its first byte say. -/
def AsksFor (p : ProxySpec) (destination : Destination) (port : ℕ) : SocksVersion → List (List UInt8) → Prop
  | .v4, written => ∀ message ∈ written,
      readSocks4 message = some ⟨utf8 (p.user.getD ""), utf8 p.pass, destination.socksAddress, port⟩
  | .v5, written => ∀ message ∈ written.tail,
      if message.head? = some 0x01 then readLogin message = some (utf8 (p.user.getD ""), utf8 p.pass)
      else readConnect message = some (destination.socksAddress, port)

/-- Whatever the proxy says, every message asks for what was requested, and without a request for the
destination nothing is opened. -/
def Faithful (version : SocksVersion) (p : ProxySpec) (destination : Destination) (port : ℕ) : Prop :=
  ∀ chunks, AsksFor p destination port version (version.run p destination port chunks).2.written ∧
    ((version.run p destination port chunks).1 = .ok () →
      ∃ message ∈ (version.run p destination port chunks).2.written,
        match version with
        | .v4 => (readSocks4 message).isSome
        | .v5 => (readConnect message).isSome)

/-- The groups behind `::` stand where they were typed, and there is room for all of them; a name is no
oversized quad. -/
def Destination.Encoded : Destination → Prop
  | ipv4 _ => True
  | ipv6 form =>
    ((∀ quad ∈ form.tail, ∀ octet ∈ quad.octets, octet = 0) ∧
      (form.start + form.ending.length = 8 ∨ ∀ group ∈ form.right.getD [], group.value = 0)) ∧ form.parts.length ≤ 8
  | domain name .. => isIpv4 name = false

/-- A login whose lengths are bytes, and such a destination; in SOCKS4 no password, a user that ends
at the zero, and an IPv4 address that is no sign of SOCKS4a. -/
def SocksVersion.CanAsk (p : ProxySpec) (destination : Destination) : SocksVersion → Prop
  | v4 => 0 ∉ utf8 (p.user.getD "") ∧ p.pass = "" ∧
      ∃ quad, destination = .ipv4 quad ∧ (quad.octets.take 3 = [0, 0, 0] → quad.octets.getD 3 0 = 0)
  | v5 => (utf8 (p.user.getD "")).length ≤ 255 ∧ (utf8 p.pass).length ≤ 255 ∧ destination.Encoded

/-! ## The messages of a dialog -/

section

variable {α β : Type} {x : Dialog α} {f : α → Dialog β} {may must others sure : List (List UInt8)}

/-- Only such messages are written, and a dialog that returns has written those that it must. -/
def Sends (x : Dialog α) (may must : List (List UInt8)) : Prop :=
  ∀ socket, ∃ sent, (x socket).2.written = socket.written ++ sent ∧ (∀ message ∈ sent, message ∈ may) ∧
    ∀ value, (x socket).1 = .ok value → ∀ message ∈ must, message ∈ sent

theorem Sends.pure (a : α) : Sends (Pure.pure a) [] [] := fun _ => ⟨[], (List.append_nil _).symm, nofun, nofun⟩

theorem Sends.throw (reason : Failure) (must : List (List UInt8)) :
    Sends (MonadExcept.throw reason : Dialog α) [] must :=
  fun _ => ⟨[], (List.append_nil _).symm, nofun, nofun⟩

theorem Sends.write (bytes : List UInt8) : Sends (Dialog.write bytes) [bytes] [bytes] :=
  fun _ => ⟨[bytes], rfl, fun _ => id, fun _ _ _ => id⟩

theorem Sends.readExact (n : ℕ) : Sends (Dialog.readExact n) [] [] := by
  intro socket
  refine ⟨[], ?_, nofun, nofun⟩
  rw [Dialog.readExact]
  cases Lib.readExact n socket.readable with
  | ok found => exact (List.append_nil _).symm
  | error reason => exact (List.append_nil _).symm

theorem Sends.bind (first : Sends x may must) (second : ∀ a, Sends (f a) others sure) :
    Sends (x >>= f) (may ++ others) (must ++ sure) := by
  intro socket
  obtain ⟨sent, written, allowed, needed⟩ := first socket
  cases run : x socket with
  | mk outcome left =>
    rw [run] at written needed
    cases outcome with
    | error reason =>
      rw [dialog_error run]
      exact ⟨sent, written, fun message member => List.mem_append_left _ (allowed message member), nofun⟩
    | ok a =>
      rw [dialog_ok run]
      obtain ⟨more, after, also, later⟩ := second a left
      refine ⟨sent ++ more, by rw [after, written, List.append_assoc], ?_, ?_⟩
      · intro message member
        rcases List.mem_append.mp member with here | there
        · exact List.mem_append_left _ (allowed message here)
        · exact List.mem_append_right _ (also message there)
      · intro value returned message member
        rcases List.mem_append.mp member with here | there
        · exact List.mem_append_left _ (needed a rfl message here)
        · exact List.mem_append_right _ (later value returned message there)

theorem Sends.bind_quiet (first : Sends x may must) (second : ∀ a, Sends (f a) [] []) : Sends (x >>= f) may must := by
  have both := first.bind second
  rwa [List.append_nil, List.append_nil] at both

theorem Sends.mono (sends : Sends x may must) (more : ∀ message ∈ may, message ∈ others)
    (fewer : ∀ message ∈ sure, message ∈ must) : Sends x others sure := by
  intro socket
  obtain ⟨sent, written, allowed, needed⟩ := sends socket
  exact ⟨sent, written, fun message member => more message (allowed message member),
    fun value returned message member => needed value returned message (fewer message member)⟩

end

/-! ## The messages of SOCKS5 -/

section

variable (p : ProxySpec) (destHost : String) (destPort : ℕ)

def socksMethods : List UInt8 := if p.hasUser then [0x00, 0x02] else [0x00]

def greeting : List UInt8 := 0x05 :: UInt8.ofNat (socksMethods p).length :: socksMethods p

def connectMessage : List UInt8 := 0x05 :: 0x01 :: 0x00 :: encodeAddress destHost destPort

theorem loginRequest_head : (loginRequest p).head? = some 0x01 := rfl

theorem connectMessage_head : (connectMessage destHost destPort).head? ≠ some 0x01 := by
  rw [connectMessage, List.head?_cons]
  decide

theorem authenticate_sends (method : UInt8) : Sends (authenticate p method) [loginRequest p] [] := by
  have refused (reason : Failure) : Sends (MonadExcept.throw reason : Dialog Unit) [] [] := Sends.throw reason []
  rw [authenticate]
  split
  · refine Sends.mono ((Sends.write _).bind_quiet fun _ => (Sends.readExact 2).bind_quiet fun ok => ?_) (fun _ => id)
      (fun _ member => absurd member List.not_mem_nil)
    split
    · exact refused _
    · exact Sends.pure ()
  · split
    · exact (refused _).mono (fun _ member => absurd member List.not_mem_nil)
        (fun _ member => absurd member List.not_mem_nil)
    · exact (Sends.pure ()).mono (fun _ member => absurd member List.not_mem_nil)
        (fun _ member => absurd member List.not_mem_nil)

theorem boundLength_sends (type : UInt8) : Sends (boundLength type) [] [] := by
  rw [boundLength]
  split
  · exact Sends.pure 4
  · split
    · exact Sends.pure 16
    · exact (Sends.readExact 1).bind fun _ => Sends.pure _

/-- The greeting comes first; a dialog that returns has sent a request. -/
theorem socks5_eq : ∃ rest : Dialog Unit, socks5 p destHost destPort = (Dialog.write (greeting p) >>= fun _ => rest) ∧
    Sends rest [loginRequest p, connectMessage destHost destPort] [connectMessage destHost destPort] := by
  refine ⟨_, rfl, ?_⟩
  refine (Sends.readExact 2).bind fun ver => ?_
  split
  · exact (Sends.throw _ _).mono nofun fun _ => id
  · apply Sends.bind (authenticate_sends p _)
    intro _
    refine (Sends.write _).bind_quiet fun _ => (Sends.readExact 4).bind_quiet fun head => ?_
    split
    · exact Sends.throw _ []
    · exact (boundLength_sends _).bind_quiet fun skip => (Sends.readExact _).bind_quiet fun _ => Sends.pure ()

theorem written_unauthenticated :
    (socks5 p destHost destPort { readable := [[0x05, 0x00]] }).2.written =
      [greeting p, connectMessage destHost destPort] := rfl

theorem written_authenticated (user : p.hasUser) :
    (socks5 p destHost destPort { readable := [[0x05, 0x02]] }).2.written = [greeting p, loginRequest p] := by
  have chosen : authenticate p 0x02 = (do
      Dialog.write (loginRequest p)
      let ok ← Dialog.readExact 2
      if ok.getD 1 0 ≠ 0x00 then throw (.error "socks5 auth rejected") else pure ()) := if_pos ⟨rfl, user⟩
  have stopped : authenticate p 0x02 { readable := [], written := [greeting p] } =
      (.error (.error "proxy closed handshake early"),
        { readable := [], written := [greeting p, loginRequest p] }) := by
    rw [chosen]
    rfl
  change ((authenticate p 0x02 >>= _) { readable := [], written := [greeting p] } : _ × Relay).2.written = _
  rw [dialog_error stopped]

end

/-! ## Reading the messages -/

private theorem toNat_ofNat_size {size : ℕ} (small : size ≤ 255) : (UInt8.ofNat size).toNat = size :=
  UInt8.toNat_ofNat_of_lt' (by rw [UInt8.size]; omega)

/-- A login is read back exactly where its lengths are bytes. -/
theorem readLogin_iff (user pass : List UInt8) :
    readLogin (0x01 :: UInt8.ofNat user.length :: (user ++ UInt8.ofNat pass.length :: pass)) = some (user, pass) ↔
      user.length ≤ 255 ∧ pass.length ≤ 255 := by
  rw [readLogin]
  constructor
  · intro read
    split at read
    · next size rest behind =>
      obtain ⟨whole, same⟩ := Option.ite_none_right_eq_some.mp read
      obtain ⟨own, others⟩ := Prod.mk.inj (Option.some.inj same)
      have lengths := congrArg List.length own
      have below := (UInt8.ofNat user.length).toNat_lt
      have bound := size.toNat_lt
      rw [List.length_take] at lengths
      rw [others] at whole
      omega
    · nomatch read
  · rintro ⟨short, shorter⟩
    rw [toNat_ofNat_size short, List.drop_left, List.take_left]
    dsimp only
    rw [toNat_ofNat_size shorter, if_pos rfl]

variable {port : ℕ}

theorem readAddress_portBytes (below : port < 65536) {bytes : List UInt8} {size : ℕ} (length : bytes.length = size)
    (address : List UInt8 → SocksAddress) :
    readAddress size address (bytes ++ portBytes port) = some (address bytes, port) := by
  have value : (UInt8.ofNat (port / 256)).toNat * 256 + (UInt8.ofNat port).toNat = port := by
    rw [UInt8.toNat_ofNat', UInt8.toNat_ofNat']
    omega
  rw [readAddress, List.drop_left' length, List.take_left' length, portBytes]
  dsimp only
  rw [value]

theorem readGroups_groupBytes {values : List ℕ} (below : ∀ value ∈ values, value < 65536) :
    readGroups (values.flatMap groupBytes) = values := by
  induction values with
  | nil => rfl
  | cons value values ih =>
    have small := below value List.mem_cons_self
    have here : (UInt8.ofNat (value / 256)).toNat * 256 + (UInt8.ofNat value).toNat = value := by
      rw [UInt8.toNat_ofNat', UInt8.toNat_ofNat']
      omega
    rw [List.flatMap_cons, groupBytes]
    change _ :: readGroups (values.flatMap groupBytes) = _
    rw [here, ih fun other member => below other (List.mem_cons_of_mem _ member)]

private theorem groupBytes_length (values : List ℕ) : (values.flatMap groupBytes).length = values.length * 2 := by
  induction values with
  | nil => rfl
  | cons value values ih =>
    rw [List.flatMap_cons, List.length_append, ih, List.length_cons, groupBytes]
    simp only [List.length_cons, List.length_nil]
    omega

private theorem quadBytes_length {host : String} (isQuad : isIpv4 host = true) : (quadBytes host).length = 4 := by
  rw [isIpv4, Bool.and_eq_true, decide_eq_true_eq] at isQuad
  rw [quadBytes, List.length_map, isQuad.1]

private theorem quadBytes_octets (quad : Quad) : (quadBytes quad.text).map (·.toNat) = quad.octets := by
  rw [quadBytes, quad.splitOn_text, List.map_map, Quad.octets]
  apply List.map_congr_left
  intro part member
  exact toNat_ofNat_size (quad.octet part member).2.2.2

/-- The groups that have room are written as `codeGroups` has them. -/
private theorem ipv6Bytes_eq {form : Ipv6Text} (room : form.parts.length ≤ 8) :
    ipv6Bytes form.text = (codeGroups form.parts).flatMap groupBytes := by
  have size : (form.parts.map groupValue ++ (List.replicate 8 0).drop form.parts.length).length = 8 := by
    rw [List.length_append, List.length_map, List.length_drop, List.length_replicate]
    omega
  simp only [ipv6Bytes, form.splitOn_text, List.length_map, codeGroups]
  rw [List.take_of_length_le size.le]

/-- The request is read back exactly for the destinations that are encoded. -/
theorem readConnect_iff (below : port < 65536) (destination : Destination) :
    readConnect (connectMessage destination.text port) = some (destination.socksAddress, port) ↔
      destination.Encoded := by
  cases destination with
  | ipv4 quad =>
    refine iff_of_true ?_ trivial
    have isQuad := isIpv4_quad quad
    rw [Destination.text, connectMessage, encodeAddress, if_pos isQuad, readConnect,
      readAddress_portBytes below (quadBytes_length isQuad), quadBytes_octets]
    rfl
  | ipv6 form =>
    have notQuad : ¬ isIpv4 form.text = true := by
      intro isQuad
      have colon := form.isIpv6_text
      rw [isIpv6, decide_eq_true_eq] at colon
      exact colonless_of_isIpv4 isQuad colon
    have colon := form.isIpv6_text
    rw [isIpv6, decide_eq_true_eq] at colon
    rw [Destination.text, connectMessage, encodeAddress, if_neg notQuad, if_pos colon, readConnect,
      Destination.Encoded, ← form.codeGroups_parts_iff]
    by_cases room : form.parts.length ≤ 8
    · have size : (ipv6Bytes form.text).length = 16 := by
        rw [ipv6Bytes_eq room, groupBytes_length, codeGroups_length]
      rw [readAddress_portBytes below size, ipv6Bytes_eq room, readGroups_groupBytes codeGroups_lt]
      simp [Destination.socksAddress, room]
    · refine iff_of_false ?_ fun encoded => room encoded.2
      have long : 18 ≤ (ipv6Bytes form.text).length := by
        simp only [ipv6Bytes, form.splitOn_text, groupBytes_length, List.length_append, List.length_map]
        omega
      intro read
      rw [readAddress] at read
      split at read
      · next high low behind =>
        have lengths := congrArg List.length behind
        rw [List.length_drop, List.length_append, portBytes] at lengths
        simp only [List.length_cons, List.length_nil] at lengths
        omega
      · nomatch read
  | domain name size not_quad colonless =>
    rw [Destination.text, connectMessage, encodeAddress, Destination.Encoded]
    split
    · next isQuad =>
      refine iff_of_false ?_ (by simp [isQuad])
      rw [readConnect, readAddress_portBytes below (quadBytes_length isQuad)]
      nofun
    · next notQuad =>
      refine iff_of_true ?_ (Bool.eq_false_iff.mpr notQuad)
      rw [readConnect, readAddress_portBytes below (toNat_ofNat_size size).symm]
      rfl

/-- A user that has the terminator inside ends there. -/
private theorem takeWhile_terminated (user : List UInt8) :
    (user ++ [0]).takeWhile (· ≠ 0) = user ↔ 0 ∉ user := by
  constructor
  · intro whole zero
    rw [← whole] at zero
    have passed := List.mem_takeWhile_imp zero
    contradiction
  · intro absent
    rw [List.takeWhile_append_of_pos]
    · simp
    · intro byte member
      rw [decide_eq_true_eq]
      rintro rfl
      exact absent member

/-- A request of SOCKS4 is read back exactly as one for an IPv4 address that is no sign of SOCKS4a. -/
theorem readSocks4_iff (below : port < 65536) (a b c d : UInt8) (user : List UInt8) (pass : List UInt8)
    (address : SocksAddress) :
    readSocks4 (0x04 :: 0x01 :: (portBytes port ++ [a, b, c, d] ++ user ++ [0x00])) = some ⟨user, pass, address, port⟩ ↔
      0 ∉ user ∧ pass = [] ∧ ¬ (a = 0 ∧ b = 0 ∧ c = 0 ∧ d ≠ 0) ∧
        address = .ipv4 [a.toNat, b.toNat, c.toNat, d.toNat] := by
  have value : (UInt8.ofNat (port / 256)).toNat * 256 + (UInt8.ofNat port).toNat = port := by
    rw [UInt8.toNat_ofNat', UInt8.toNat_ofNat']
    omega
  have shape : 0x04 :: 0x01 :: (portBytes port ++ [a, b, c, d] ++ user ++ [0x00]) =
      0x04 :: 0x01 :: UInt8.ofNat (port / 256) :: UInt8.ofNat port :: a :: b :: c :: d :: (user ++ [0x00]) := by
    simp [portBytes]
  rw [shape, readSocks4]
  dsimp only
  rw [value]
  by_cases ends : 0 ∉ user
  · rw [(takeWhile_terminated user).mpr ends, List.drop_left]
    dsimp only
    split
    · next marker => simp [marker]
    · next unmarked =>
      simp [ends, unmarked, eq_comm]
  · refine iff_of_false ?_ fun request => ends request.1
    intro read
    have own : (user ++ [0x00]).takeWhile (· ≠ 0) = user := by
      split at read
      · contradiction
      · split at read
        · obtain ⟨-, same⟩ := Option.ite_none_right_eq_some.mp read
          exact congrArg (·.user) (Option.some.inj same)
        · obtain ⟨-, same⟩ := Option.ite_none_right_eq_some.mp read
          exact congrArg (·.user) (Option.some.inj same)
    exact ends ((takeWhile_terminated user).mp own)

theorem utf8_eq_nil_iff {text : String} : utf8 text = [] ↔ text = "" := by
  rw [utf8, List.flatMap_eq_nil_iff, ← String.toList_eq_nil_iff]
  constructor
  · intro empty
    apply List.eq_nil_iff_forall_not_mem.mpr
    intro char member
    exact String.utf8EncodeChar_ne_nil (empty char member)
  · intro empty char member
    rw [empty] at member
    contradiction

theorem readSocks4_destination_iff (p : ProxySpec) (below : port < 65536) (destination : Destination) :
    readSocks4 (socks4Request p destination.text port) =
        some ⟨utf8 (p.user.getD ""), utf8 p.pass, destination.socksAddress, port⟩ ↔
      SocksVersion.CanAsk p destination .v4 := by
  rw [socks4Request, SocksVersion.CanAsk]
  have four : (if isIpv4 destination.text = true then quadBytes destination.text else [0, 0, 0, 1]).length = 4 := by
    split
    · next isQuad => exact quadBytes_length isQuad
    · rfl
  obtain ⟨a, b, c, d, ip⟩ := List.length_eq_four.mp four
  rw [ip, readSocks4_iff below, utf8_eq_nil_iff]
  cases destination with
  | ipv4 quad =>
    rw [Destination.text, if_pos (isIpv4_quad quad)] at ip
    have octets := quadBytes_octets quad
    rw [ip] at octets
    simp only [Destination.socksAddress, ← octets, Destination.ipv4.injEq, exists_eq_left']
    simp [← UInt8.toNat_inj]
  | ipv6 form => simp [Destination.socksAddress]
  | domain name size not_quad colonless => simp [Destination.socksAddress]

private theorem takeLogin_user {text rest user pass : List Char} (taken : takeLogin text = (some (user, pass), rest)) :
    user ≠ [] := by
  simp only [takeLogin] at taken
  split at taken
  · split at taken
    · split at taken
      · nomatch taken
      · next nonempty =>
        obtain ⟨same, -⟩ := Prod.mk.inj taken
        rw [← (Prod.mk.inj (Option.some.inj same)).1]
        exact nonempty
    · nomatch taken
  · nomatch taken

/-- A spec without a user has no password. -/
theorem parseProxy_login {text : String} {defaultPort : ℕ} {p : ProxySpec}
    (parsed : parseProxy text defaultPort = some p) : p.hasUser ∨ p.user.getD "" = "" ∧ p.pass = "" := by
  simp only [parseProxy, Option.bind_eq_bind] at parsed
  obtain ⟨port, -, parsed⟩ := Option.bind_eq_some_iff.mp parsed
  obtain ⟨-, same⟩ := Option.ite_none_left_eq_some.mp parsed
  obtain rfl := Option.some.inj same
  rw [ProxySpec.hasUser]
  cases login : takeLogin (takeScheme (trim text)).2 with
  | mk taken rest =>
    cases taken with
    | none => exact .inr ⟨rfl, rfl⟩
    | some pair =>
      have nonempty := takeLogin_user login
      exact .inl fun empty => nonempty (String.ofList_eq_empty_iff.mp empty)

/-! ## Whole handshakes -/

theorem faithful_v4_iff (p : ProxySpec) (destination : Destination) (below : port < 65536) :
    Faithful .v4 p destination port ↔ SocksVersion.CanAsk p destination .v4 := by
  rw [← readSocks4_destination_iff p below]
  constructor
  · intro faithful
    exact (faithful []).1 _ (List.mem_singleton.mpr rfl)
  · intro reads chunks
    have sends : Sends (socks4 p destination.text port) [socks4Request p destination.text port]
        [socks4Request p destination.text port] := by
      refine (Sends.write _).bind_quiet fun _ => (Sends.readExact 8).bind_quiet fun res => ?_
      split
      · exact Sends.throw _ []
      · exact Sends.pure ()
    obtain ⟨sent, written, allowed, needed⟩ := sends { readable := chunks }
    rw [List.nil_append] at written
    rw [SocksVersion.run, written]
    constructor
    · intro message member
      rw [List.mem_singleton.mp (allowed message member)]
      exact reads
    · intro returned
      refine ⟨_, needed () returned _ (List.mem_singleton.mpr rfl), ?_⟩
      dsimp only
      rw [reads]
      rfl

theorem faithful_v5_iff {text : String} {defaultPort : ℕ} {p : ProxySpec}
    (parsed : parseProxy text defaultPort = some p) (destination : Destination) (below : port < 65536) :
    Faithful .v5 p destination port ↔ SocksVersion.CanAsk p destination .v5 := by
  rw [SocksVersion.CanAsk, ← readConnect_iff below, ← and_assoc, ← readLogin_iff]
  constructor
  · intro faithful
    have requested := (faithful [[0x05, 0x00]]).1
    rw [SocksVersion.run, written_unauthenticated] at requested
    have connects := requested _ (List.mem_singleton.mpr rfl)
    rw [if_neg (connectMessage_head _ _)] at connects
    refine ⟨?_, connects⟩
    rcases parseProxy_login parsed with user | ⟨user, pass⟩
    · have offered := (faithful [[0x05, 0x02]]).1
      rw [SocksVersion.run, written_authenticated p destination.text port user] at offered
      have login := offered _ (List.mem_singleton.mpr rfl)
      rwa [if_pos (loginRequest_head p)] at login
    · rw [user, pass]
      rfl
  · rintro ⟨logs, connects⟩ chunks
    obtain ⟨rest, greets, sends⟩ := socks5_eq p destination.text port
    obtain ⟨sent, written, allowed, needed⟩ := sends { readable := chunks, written := [greeting p] }
    have run : SocksVersion.v5.run p destination port chunks = rest { readable := chunks, written := [greeting p] } := by
      rw [SocksVersion.run, greets]
      rfl
    rw [run, written]
    constructor
    · intro message member
      rcases List.mem_pair.mp (allowed message member) with rfl | rfl
      · rw [if_pos (loginRequest_head p)]
        exact logs
      · rw [if_neg (connectMessage_head _ _)]
        exact connects
    · intro returned
      refine ⟨_, List.mem_cons_of_mem _ (needed () returned _ (List.mem_singleton.mpr rfl)), ?_⟩
      dsimp only
      rw [connects]
      rfl

/-- The messages ask for the user, the password, the destination and the port of the spec and the request
exactly where the version can ask for them as it is written. -/
theorem socks_request_iff (text : String) (defaultPort : ℕ) (p : ProxySpec)
    (parsed : parseProxy text defaultPort = some p) (version : SocksVersion) (destination : Destination) (port : ℕ)
    (below : port ≤ 65535) :
    Faithful version p destination port ↔ version.CanAsk p destination := by
  cases version with
  | v4 => exact faithful_v4_iff p destination (by omega)
  | v5 => exact faithful_v5_iff parsed destination (by omega)

def Destination.sample : Destination :=
  .domain "example.com" (by decide +kernel)
    (fun quad same => absurd (isIpv4_quad quad) (by rw [same]; decide +kernel)) (by decide +kernel)

theorem socks_request_iff_sample :
    parseProxy "user:pass@proxy.example.net" 1080 = some .sample ∧ Faithful .v5 .sample .sample 443 := by
  have parsed : parseProxy "user:pass@proxy.example.net" 1080 = some .sample := by decide +kernel
  have asks := socks_request_iff "user:pass@proxy.example.net" 1080 .sample parsed .v5 .sample 443 (by decide)
  have name : isIpv4 "example.com" = false := by decide +kernel
  exact ⟨parsed, asks.mpr ⟨by decide +kernel, by decide +kernel, name⟩⟩

def ProxySpec.old : ProxySpec where
  proto := .socks4
  user := none
  pass := ""
  host := "proxy.example.net"
  port := 1080

/-- SOCKS4 asks for `0.0.0.1` and no name instead of `example.com`, and SOCKS5 for `0:0:1::` instead of `::1`. -/
theorem other_destination_requested :
    parseProxy "socks4://proxy.example.net:1080" 1080 = some .old ∧
      (SocksVersion.v4.run .old .sample 443 [[0, 0x5a, 0, 0, 0, 0, 0, 0]]).1 = .ok () ∧
      (SocksVersion.v4.run .old .sample 443 [[0, 0x5a, 0, 0, 0, 0, 0, 0]]).2.written =
        [[0x04, 0x01, 1, 187, 0, 0, 0, 1, 0]] ∧
      ¬ Faithful .v4 .old .sample 443 ∧
      parseProxy "user:pass@proxy.example.net" 1080 = some .sample ∧
      readConnect (connectMessage Ipv6Text.loopback.text 443) = some (.ipv6 [0, 0, 1, 0, 0, 0, 0, 0], 443) ∧
      ¬ Faithful .v5 .sample (.ipv6 .loopback) 443 := by
  have parsed : parseProxy "user:pass@proxy.example.net" 1080 = some .sample := by decide +kernel
  refine ⟨by decide +kernel, by decide +kernel, by decide +kernel, ?_, parsed, by decide +kernel, ?_⟩
  · rw [faithful_v4_iff ProxySpec.old Destination.sample (by decide)]
    rintro ⟨-, -, quad, same, -⟩
    nomatch same
  · rw [faithful_v5_iff parsed (.ipv6 .loopback) (by decide)]
    rintro ⟨-, -, ⟨-, placed⟩, -⟩
    revert placed
    decide +kernel

end OmniControlPlane.Panel
