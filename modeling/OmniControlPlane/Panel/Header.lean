import OmniControlPlane.Panel.Vless

/-! # Complete VLESS headers

A header as its layout has it, and what `parseVlessHeader` makes of one. The parser checks only that
18 bytes are there: every later field is read wherever its offset falls.
-/

namespace OmniControlPlane.Panel

open Lib

/-! ## The layout -/

/-- The address of a header, with as many bytes as its type calls for. -/
inductive WireAddress where
  | ipv4 (bytes : List UInt8) (size : bytes.length = 4)
  | domain (bytes : List UInt8) (size : bytes.length ≤ 255)
  | ipv6 (bytes : List UInt8) (size : bytes.length = 16)

namespace WireAddress

def type : WireAddress → UInt8
  | ipv4 .. => 1
  | domain .. => 2
  | ipv6 .. => 3

def bytes : WireAddress → List UInt8
  | ipv4 bytes _ => bytes
  | domain bytes _ => UInt8.ofNat bytes.length :: bytes
  | ipv6 bytes _ => bytes

/-- The text of the address: four numbers, a name, or eight groups of four digits. -/
def text : WireAddress → String
  | ipv4 bytes _ => ".".intercalate (bytes.map fun byte => toString byte.toNat)
  | domain bytes _ => decodeUtf8 bytes
  | ipv6 bytes _ => String.ofList (colonGroups (bytes.flatMap hexByte))

end WireAddress

structure Wire where
  uuid : List UInt8
  uuid_length : uuid.length = 16
  addons : List UInt8
  addons_length : addons.length ≤ 255
  cmd : UInt8
  portHigh : UInt8
  portLow : UInt8
  address : WireAddress

namespace Wire

/-- What stands before the address. -/
def front (wire : Wire) : List UInt8 :=
  0 :: (wire.uuid ++ UInt8.ofNat wire.addons.length ::
    (wire.addons ++ [wire.cmd, wire.portHigh, wire.portLow, wire.address.type]))

def bytes (wire : Wire) : List UInt8 := wire.front ++ wire.address.bytes

/-- What a header says, and where it ends. -/
def header (wire : Wire) : VlessHeader where
  version := 0
  uuid := bytesToUuid wire.uuid
  cmd := some wire.cmd.toNat
  isUDP := wire.cmd = 2
  port := wire.portHigh.toNat * 256 + wire.portLow.toNat
  addressType := wire.address.type.toNat
  address := wire.address.text
  payloadStart := wire.bytes.length

theorem front_length (wire : Wire) : wire.front.length = 22 + wire.addons.length := by
  have uuid := wire.uuid_length
  simp only [front, List.length_cons, List.length_append, List.length_nil]
  omega

end Wire

/-- A buffer that begins with a whole header. -/
def Complete (buf : List UInt8) (wire : Wire) : Prop := wire.bytes <+: buf

/-! ## Reading a whole header -/

private theorem toNat_ofNat_length {bytes : List UInt8} (size : bytes.length ≤ 255) :
    (UInt8.ofNat bytes.length).toNat = bytes.length := by
  rw [UInt8.toNat_ofNat']
  omega

theorem parseAddress_wire (address : WireAddress) (front payload : List UInt8) :
    parseAddress (front ++ (address.bytes ++ payload)) address.type.toNat front.length =
      some (address.text, front.length + address.bytes.length) := by
  cases address with
  | ipv4 bytes size =>
    have type : (WireAddress.ipv4 bytes size).type.toNat = 1 := rfl
    rw [type, parseAddress, List.drop_left, WireAddress.bytes, List.take_left' size, WireAddress.text, size]
  | ipv6 bytes size =>
    have type : (WireAddress.ipv6 bytes size).type.toNat = 3 := rfl
    rw [type, parseAddress, List.drop_left, WireAddress.bytes, List.take_left' size, WireAddress.text, size]
  | domain bytes size =>
    have type : (WireAddress.domain bytes size).type.toNat = 2 := rfl
    have len : (front ++ (UInt8.ofNat bytes.length :: bytes ++ payload))[front.length]? =
        some (UInt8.ofNat bytes.length) := by
      rw [List.getElem?_append_right (le_refl _), Nat.sub_self, List.cons_append, List.getElem?_cons_zero]
    have rest : (front ++ (UInt8.ofNat bytes.length :: bytes ++ payload)).drop (front.length + 1) =
        bytes ++ payload := by
      rw [← List.drop_drop, List.drop_left, List.cons_append, List.drop_succ_cons, List.drop_zero]
    rw [type, parseAddress, WireAddress.bytes, len]
    dsimp only
    rw [rest, toNat_ofNat_length size, List.take_left, WireAddress.text, List.length_cons]
    congr 2
    omega

/-- The bytes before the address, read at their offsets. -/
private theorem front_reads (wire : Wire) (rest : List UInt8) :
    (wire.front ++ rest)[0]? = some 0 ∧ (wire.front ++ rest)[17]? = some (UInt8.ofNat wire.addons.length) ∧
      ((wire.front ++ rest).drop 1).take 16 = wire.uuid ∧
      (wire.front ++ rest)[18 + wire.addons.length]? = some wire.cmd ∧
      (wire.front ++ rest)[18 + wire.addons.length + 1]? = some wire.portHigh ∧
      (wire.front ++ rest)[18 + wire.addons.length + 2]? = some wire.portLow ∧
      (wire.front ++ rest)[18 + wire.addons.length + 3]? = some wire.address.type := by
  have uuid := wire.uuid_length
  have past (index : ℕ) : (wire.front ++ rest)[18 + wire.addons.length + index]? =
      ([wire.cmd, wire.portHigh, wire.portLow, wire.address.type] ++ rest)[index]? := by
    rw [Wire.front, List.cons_append, show 18 + wire.addons.length + index =
      (17 + wire.addons.length + index) + 1 by omega, List.getElem?_cons_succ, List.append_assoc,
      List.getElem?_append_right (by omega), List.cons_append, uuid, show 17 + wire.addons.length + index - 16 =
      (wire.addons.length + index) + 1 by omega, List.getElem?_cons_succ, List.append_assoc,
      List.getElem?_append_right (by omega), Nat.add_sub_cancel_left]
  refine ⟨rfl, ?_, ?_, past 0, past 1, past 2, past 3⟩
  · rw [Wire.front, List.cons_append, List.getElem?_cons_succ, List.append_assoc,
      List.getElem?_append_right (by omega), uuid, Nat.sub_self, List.cons_append, List.getElem?_cons_zero]
  · rw [Wire.front, List.cons_append, List.drop_succ_cons, List.drop_zero, List.append_assoc, List.take_left' uuid]

/-- A whole header is read as what it says, whatever follows it. -/
theorem parseVlessHeader_wire (wire : Wire) (payload : List UInt8) :
    parseVlessHeader (wire.bytes ++ payload) = .ok wire.header := by
  have reads := front_reads wire (wire.address.bytes ++ payload)
  obtain ⟨version, addons, uuid, cmd, high, low, type⟩ := reads
  have long : ¬ (wire.front ++ (wire.address.bytes ++ payload)).length < 18 := by
    have := wire.front_length
    rw [List.length_append]
    omega
  have address := parseAddress_wire wire.address wire.front payload
  rw [wire.front_length, show 22 + wire.addons.length = 18 + wire.addons.length + 4 by omega] at address
  have total : wire.bytes.length = 18 + wire.addons.length + 4 + wire.address.bytes.length := by
    rw [Wire.bytes, List.length_append, wire.front_length]
    omega
  have second : (wire.cmd.toNat = 2) = (wire.cmd = 2) := by
    rw [← UInt8.toNat_inj]
    rfl
  rw [Wire.bytes, List.append_assoc, parseVlessHeader, if_neg long]
  simp only [version, addons, Option.map_some, Option.getD_some, toNat_ofNat_length wire.addons_length, cmd, high,
    low, type, address, uuid, UInt8.toNat_zero, ne_eq, not_true_eq_false, if_false, Wire.header, total,
    Option.some.injEq, second]

/-! ## Which buffers are accepted -/

/-- The bytes of the address that a type calls for lie inside a buffer. -/
def addressFits (buf : List UInt8) (atyp offset : ℕ) : Prop :=
  match atyp with
  | 1 => offset + 4 ≤ buf.length
  | 2 => ∃ len, buf[offset]? = some len ∧ offset + 1 + len.toNat ≤ buf.length
  | 3 => offset + 16 ≤ buf.length
  | _ => True

/-- A buffer that is too short or of another version, whose address type is missing or unknown, or
whose address lies inside it. -/
def HeaderFits (buf : List UInt8) : Prop :=
  18 ≤ buf.length → buf[0]? = some 0 → ∀ addons, buf[17]? = some addons →
    ∀ atyp, buf[18 + addons.toNat + 3]? = some atyp → addressFits buf atyp.toNat (18 + addons.toNat + 4)

/-- A buffer is rejected, or begins with a whole header whose bytes say what is returned; and a header
with bytes missing at its end is rejected. -/
def AcceptsComplete (buf : List UInt8) : Prop :=
  ((∃ failure, parseVlessHeader buf = .error failure) ∨
      ∃ wire, Complete buf wire ∧ parseVlessHeader buf = .ok wire.header ∧ wire.header.payloadStart ≤ buf.length) ∧
    ∀ wire : Wire, buf <+: wire.bytes → buf ≠ wire.bytes → ∃ failure, parseVlessHeader buf = .error failure

private theorem fits_of_complete {buf : List UInt8} {wire : Wire} (complete : Complete buf wire) : HeaderFits buf := by
  obtain ⟨payload, rfl⟩ := complete
  intro _ _ addons addonsAt atyp atypAt
  have front := wire.front_length
  obtain ⟨-, addonsRead, -, -, -, -, atypRead⟩ := front_reads wire (wire.address.bytes ++ payload)
  rw [Wire.bytes, List.append_assoc] at addonsAt atypAt ⊢
  obtain rfl : UInt8.ofNat wire.addons.length = addons := Option.some.inj (addonsRead.symm.trans addonsAt)
  rw [toNat_ofNat_length wire.addons_length] at atypAt ⊢
  obtain rfl : wire.address.type = atyp := Option.some.inj (atypRead.symm.trans atypAt)
  cases address : wire.address with
  | ipv4 bytes size =>
    change _ + 4 ≤ _
    rw [List.length_append, List.length_append, front, WireAddress.bytes, size]
    omega
  | ipv6 bytes size =>
    change _ + 16 ≤ _
    rw [List.length_append, List.length_append, front, WireAddress.bytes, size]
    omega
  | domain bytes size =>
    refine ⟨UInt8.ofNat bytes.length, ?_, ?_⟩
    · rw [List.getElem?_append_right (by omega), WireAddress.bytes, List.cons_append,
        show 18 + wire.addons.length + 4 - wire.front.length = 0 by omega, List.getElem?_cons_zero]
    · rw [toNat_ofNat_length size, List.length_append, List.length_append, front, WireAddress.bytes, List.length_cons]
      omega

private theorem split_at {bytes : List UInt8} {size : ℕ} (long : size ≤ bytes.length) :
    ∃ before after, bytes = before ++ after ∧ before.length = size :=
  ⟨bytes.take size, bytes.drop size, (List.take_append_drop size bytes).symm, List.length_take_of_le long⟩

/-- An address of a known type that fits stands at its offset. -/
private theorem exists_address {buf : List UInt8} {atyp offset : ℕ} (rest : List UInt8) (known : atyp = 1 ∨ atyp = 2 ∨ atyp = 3)
    (fits : addressFits buf atyp offset) (before : List UInt8) (shape : buf = before ++ rest)
    (length : before.length = offset) :
    ∃ address : WireAddress, address.type.toNat = atyp ∧ address.bytes <+: rest := by
  have total : buf.length = offset + rest.length := by
    rw [shape, List.length_append, length]
  rcases known with rfl | rfl | rfl
  · have long : offset + 4 ≤ buf.length := fits
    obtain ⟨bytes, after, rfl, size⟩ := split_at (show 4 ≤ rest.length by omega)
    exact ⟨.ipv4 bytes size, rfl, List.prefix_append _ _⟩
  · obtain ⟨len, lenAt, long⟩ := fits
    rw [shape, List.getElem?_append_right (by omega), length, Nat.sub_self] at lenAt
    cases rest with
    | nil => contradiction
    | cons first rest =>
      obtain rfl : first = len := Option.some.inj lenAt
      rw [List.length_cons] at total
      obtain ⟨bytes, after, rfl, size⟩ := split_at (show first.toNat ≤ rest.length by omega)
      have bound := first.toNat_lt
      refine ⟨.domain bytes (by omega), rfl, after, ?_⟩
      rw [WireAddress.bytes, size, UInt8.ofNat_toNat, List.cons_append]
  · have long : offset + 16 ≤ buf.length := fits
    obtain ⟨bytes, after, rfl, size⟩ := split_at (show 16 ≤ rest.length by omega)
    exact ⟨.ipv6 bytes size, rfl, List.prefix_append _ _⟩

/-- What is accepted where the address fits begins with a whole header. -/
private theorem complete_of_fits {buf : List UInt8} {header : VlessHeader} (fits : HeaderFits buf)
    (accepted : parseVlessHeader buf = .ok header) : ∃ wire, Complete buf wire := by
  by_cases short : buf.length < 18
  · rw [parseVlessHeader, if_pos short] at accepted
    contradiction
  obtain ⟨first, rest, rfl⟩ := List.exists_cons_of_length_pos (show 0 < buf.length by omega)
  have long : 17 ≤ rest.length := by
    rw [List.length_cons] at short
    omega
  obtain ⟨uuid, rest, rfl, uuidLength⟩ := split_at (show 16 ≤ rest.length by omega)
  rw [List.length_append] at long
  obtain ⟨addonLen, rest, rfl⟩ := List.exists_cons_of_length_pos (show 0 < rest.length by omega)
  have addonsAt : (first :: (uuid ++ addonLen :: rest))[17]? = some addonLen := by
    rw [List.getElem?_cons_succ, List.getElem?_append_right (by omega), uuidLength, Nat.sub_self,
      List.getElem?_cons_zero]
  by_cases version : first = 0
  · subst first
    rw [parseVlessHeader, if_neg short] at accepted
    simp only [List.getElem?_cons_zero, Option.map_some, Option.getD_some, UInt8.toNat_zero, ne_eq, not_true_eq_false,
      if_false, addonsAt] at accepted
    cases atypAt : (0 :: (uuid ++ addonLen :: rest))[18 + addonLen.toNat + 3]? with
    | none =>
      rw [atypAt] at accepted
      contradiction
    | some atyp =>
      have inside := (List.getElem?_eq_some_iff.mp atypAt).1
      rw [List.length_cons, List.length_append, List.length_cons] at inside
      obtain ⟨addons, rest, rfl, addonsLength⟩ := split_at (show addonLen.toNat ≤ rest.length by omega)
      rw [List.length_append] at inside
      obtain ⟨fixed, rest, rfl, fixedLength⟩ := split_at (show 4 ≤ rest.length by omega)
      obtain ⟨cmd, portHigh, portLow, type, rfl⟩ : ∃ a b c d, fixed = [a, b, c, d] := by
        match fixed, fixedLength with
        | [a, b, c, d], _ => exact ⟨a, b, c, d, rfl⟩
      have typeAt : type = atyp := by
        rw [show 18 + addonLen.toNat + 3 = (17 + addonLen.toNat + 3) + 1 by omega, List.getElem?_cons_succ,
          List.getElem?_append_right (by omega), uuidLength,
          show 17 + addonLen.toNat + 3 - 16 = (addonLen.toNat + 3) + 1 by omega, List.getElem?_cons_succ,
          List.getElem?_append_right (by omega), addonsLength, Nat.add_sub_cancel_left] at atypAt
        exact Option.some.inj atypAt
      subst typeAt
      have known : type.toNat = 1 ∨ type.toNat = 2 ∨ type.toNat = 3 := by
        rw [atypAt] at accepted
        simp only [Option.map_some] at accepted
        by_contra unknown
        simp only [not_or] at unknown
        rw [parseAddress] at accepted
        · simp only [reduceCtorEq] at accepted
        all_goals omega
      have fitsHere := fits (by omega) rfl addonLen addonsAt type atypAt
      obtain ⟨address, addressType, after, rfl⟩ := exists_address rest known fitsHere
        (0 :: (uuid ++ addonLen :: (addons ++ [cmd, portHigh, portLow, type]))) (by simp)
        (by simp only [List.length_cons, List.length_append, List.length_nil, uuidLength, addonsLength]; omega)
      have bound := addonLen.toNat_lt
      refine ⟨⟨uuid, uuidLength, addons, by omega, cmd, portHigh, portLow, address⟩, after, ?_⟩
      have sameType : address.type = type := UInt8.toNat_inj.mp addressType
      simp [Wire.bytes, Wire.front, addonsLength, sameType]
  · rw [parseVlessHeader, if_neg short] at accepted
    have other : first.toNat ≠ 0 := fun zero => version (UInt8.toNat_inj.mp zero)
    simp only [List.getElem?_cons_zero, Option.map_some, Option.getD_some, ne_eq, other, not_false_eq_true, if_true,
      reduceCtorEq] at accepted

private theorem known_of_outside {buf : List UInt8} {atyp offset : ℕ} (outside : ¬ addressFits buf atyp offset) :
    atyp = 1 ∨ atyp = 2 ∨ atyp = 3 := by
  by_contra unknown
  simp only [not_or] at unknown
  obtain ⟨one, two, three⟩ := unknown
  apply outside
  rw [addressFits]
  · trivial
  all_goals omega

private theorem parseAddress_known (buf : List UInt8) {atyp : ℕ} (known : atyp = 1 ∨ atyp = 2 ∨ atyp = 3)
    (offset : ℕ) : ∃ found, parseAddress buf atyp offset = some found := by
  rcases known with rfl | rfl | rfl
  · exact ⟨_, rfl⟩
  · rw [parseAddress]
    cases buf[offset]? with
    | none => exact ⟨_, rfl⟩
    | some len => exact ⟨_, rfl⟩
  · exact ⟨_, rfl⟩

/-- Where the address does not fit, the header is accepted all the same. -/
private theorem accepted_of_not_fits {buf : List UInt8} (truncated : ¬ HeaderFits buf) :
    ∃ header, parseVlessHeader buf = .ok header := by
  simp only [HeaderFits, Classical.not_forall] at truncated
  obtain ⟨long, version, addons, addonsAt, atyp, atypAt, outside⟩ := truncated
  rw [parseVlessHeader, if_neg (by omega)]
  simp only [version, Option.map_some, Option.getD_some, UInt8.toNat_zero, ne_eq, not_true_eq_false, if_false, addonsAt,
    atypAt]
  have read := parseAddress_known buf (known_of_outside outside) (18 + addons.toNat + 4)
  obtain ⟨⟨address, payloadStart⟩, read⟩ := read
  rw [read]
  exact ⟨_, rfl⟩

private theorem complete_bytes {long short : Wire} (inside : short.bytes <+: long.bytes) :
    short.bytes.length = long.bytes.length := by
  obtain ⟨payload, joined⟩ := inside
  have one := parseVlessHeader_wire short payload
  have other := parseVlessHeader_wire long []
  rw [joined, ← List.append_nil long.bytes, other] at one
  have headers : long.header = short.header := Except.ok.inj one
  exact (congrArg VlessHeader.payloadStart headers).symm

/-- Only complete headers are accepted exactly where the address that the type calls for fits. -/
theorem header_complete_iff (buf : List UInt8) : AcceptsComplete buf ↔ HeaderFits buf := by
  constructor
  · rintro ⟨outcome, -⟩
    by_contra truncated
    obtain ⟨header, accepted⟩ := accepted_of_not_fits truncated
    rcases outcome with ⟨failure, rejected⟩ | ⟨wire, complete, -, -⟩
    · rw [accepted] at rejected
      contradiction
    · exact truncated (fits_of_complete complete)
  · intro fits
    have outcome : (∃ failure, parseVlessHeader buf = .error failure) ∨ ∃ wire, Complete buf wire := by
      cases parsed : parseVlessHeader buf with
      | error failure => exact .inl ⟨failure, rfl⟩
      | ok header => exact .inr (complete_of_fits fits parsed)
    refine ⟨outcome.imp id ?_, ?_⟩
    · rintro ⟨wire, payload, rfl⟩
      refine ⟨wire, List.prefix_append _ _, parseVlessHeader_wire wire payload, ?_⟩
      change wire.bytes.length ≤ _
      rw [List.length_append]
      omega
    · intro wire inside strict
      apply outcome.resolve_right
      rintro ⟨shorter, complete⟩
      have same := complete_bytes (complete.trans inside)
      have within := complete.length_le
      exact strict (inside.eq_of_length_le (by omega))

/-- Cut off behind its address type, a header for port 80 is accepted with a payload that starts
four bytes past the end. -/
theorem truncated_header_accepted :
    ¬ AcceptsComplete ([0] ++ List.replicate 16 0x61 ++ [0, 1, 0, 80, 1]) ∧
      (parseVlessHeader ([0] ++ List.replicate 16 0x61 ++ [0, 1, 0, 80, 1])).toOption.map (·.payloadStart) =
        some 26 := by
  refine ⟨?_, by decide +kernel⟩
  rintro ⟨⟨failure, rejected⟩ | ⟨wire, -, parsed, within⟩, -⟩
  · have accepted : ∃ header, parseVlessHeader ([0] ++ List.replicate 16 0x61 ++ [0, 1, 0, 80, 1]) = .ok header :=
      ⟨_, rfl⟩
    obtain ⟨header, accepted⟩ := accepted
    rw [accepted] at rejected
    contradiction
  · have start : (parseVlessHeader ([0] ++ List.replicate 16 0x61 ++ [0, 1, 0, 80, 1])).toOption.map (·.payloadStart) =
        some 26 := by decide +kernel
    rw [parsed] at start
    have past : wire.header.payloadStart = 26 := Option.some.inj start
    rw [past] at within
    contradiction

end OmniControlPlane.Panel
