import OmniControlPlane.Lib.Json
import OmniControlPlane.Panel.Header

/-! # Building a VLESS header

`buildVlessHeader` against the parser. An IPv6 address is split at its colons and each part is written
at its own index, so the groups behind `::` land where they were typed and not where they belong.
-/

namespace OmniControlPlane.Panel

open Lib
open Json (hexDigit?)

/-! ## The builder -/

def hexValue (digits : List Char) : ℕ :=
  digits.foldl (fun value char => value * 16 + (hexDigit? char).getD 0) 0

/-- `parseInt(text, 16)`, exact also where a double rounds. -/
def parseHex (text : List Char) : Option ℤ :=
  let text := text.dropWhile isJsSpace
  let negative := text.head? = some '-'
  let text := if text.head? = some '-' ∨ text.head? = some '+' then text.tail else text
  let text := if "0x".toList <+: text ∨ "0X".toList <+: text then text.drop 2 else text
  let digits := text.takeWhile isHexDigit
  if digits = [] then none else some (if negative then -hexValue digits else hexValue digits)

/-- A number stored in a byte array; `NaN` is stored as zero. -/
def byteOf (number : ℤ) : UInt8 := UInt8.ofNat (number % 256).toNat

def uuidToBytes (uuid : String) : List UInt8 :=
  let hex := uuid.toList.filter (· ≠ '-')
  (List.range 16).map fun i => byteOf ((parseHex ((hex.drop (i * 2)).take 2)).getD 0)

/-- The sixteen bytes of an IPv6 address; what would be written past their end is lost. -/
def groupsToBytes (parts : List (List Char)) : List UInt8 :=
  parts.zipIdx.foldl (fun bytes (g, i) =>
    let n := (parseHex (if g = [] then ['0'] else g)).getD 0
    (bytes.set (i * 2) (byteOf (n / 256))).set (i * 2 + 1) (byteOf n)) (List.replicate 16 0)

structure VlessRequest where
  uuid : String
  cmd : ℕ := 1
  port : ℕ
  address : String

/-- The type of the address, then the address. -/
def buildAddress (address : String) : List UInt8 :=
  if isIpv4 address then
    1 :: (address.toList.splitOn '.').map fun part => UInt8.ofNat (Nat.ofDigitChars 10 part 0)
  else if isIpv6 address then 3 :: groupsToBytes (address.toList.splitOn ':')
  else
    let dom := utf8 address
    2 :: UInt8.ofNat dom.length :: dom

def buildVlessHeader (request : VlessRequest) : List UInt8 :=
  [0] ++ uuidToBytes request.uuid ++ [0] ++ [UInt8.ofNat request.cmd] ++
    [UInt8.ofNat (request.port / 256), UInt8.ofNat request.port] ++ buildAddress request.address

/-! ## What is asked for -/

/-- A UUID as text: 32 hexadecimal digits, dashed anywhere or not at all. -/
structure UuidText where
  text : String
  digits_length : (text.toList.filter (· ≠ '-')).length = 32
  digits_hex : ∀ char ∈ text.toList.filter (· ≠ '-'), isHexDigit char = true

/-- The UUID in lower case with its four dashes. -/
def UuidText.canonical (uuid : UuidText) : String :=
  let h := (uuid.text.toList.filter (· ≠ '-')).map Char.toLower
  String.ofList (h.take 8 ++ '-' :: (h.drop 8).take 4 ++ '-' :: (h.drop 12).take 4 ++
    '-' :: (h.drop 16).take 4 ++ '-' :: h.drop 20)

/-- Four decimal numbers of at most 255, leading zeros included. -/
structure Quad where
  parts : List (List Char)
  parts_length : parts.length = 4
  octet : ∀ part ∈ parts, part ≠ [] ∧ part.length ≤ 3 ∧ (∀ char ∈ part, char.isDigit = true) ∧
    Nat.ofDigitChars 10 part 0 ≤ 255

namespace Quad

def text (quad : Quad) : String := String.ofList (['.'].intercalate quad.parts)

def octets (quad : Quad) : List ℕ := quad.parts.map (Nat.ofDigitChars 10 · 0)

/-- The two groups that the quad stands for at the end of an IPv6 address. -/
def groups (quad : Quad) : List ℕ :=
  [quad.octets.getD 0 0 * 256 + quad.octets.getD 1 0, quad.octets.getD 2 0 * 256 + quad.octets.getD 3 0]

end Quad

structure HexGroup where
  digits : List Char
  nonempty : digits ≠ []
  size : digits.length ≤ 4
  hex : ∀ char ∈ digits, isHexDigit char = true

def HexGroup.value (group : HexGroup) : ℕ := hexValue group.digits

/-- An IPv6 address as text: groups, perhaps `::` and further groups, perhaps a dotted quad last. -/
structure Ipv6Text where
  left : List HexGroup
  right : Option (List HexGroup)
  tail : Option Quad
  fits : match right with
    | none => left.length + (tail.toList.flatMap Quad.groups).length = 8
    | some right => left.length + right.length + (tail.toList.flatMap Quad.groups).length ≤ 7

namespace Ipv6Text

/-- The groups and the quad that end the address. -/
def last (form : Ipv6Text) (groups : List HexGroup) : List (List Char) :=
  groups.map (·.digits) ++ form.tail.toList.map (·.text.toList)

/-- The address between its colons: `::` at an end leaves an empty part on either side of a colon. -/
def parts (form : Ipv6Text) : List (List Char) :=
  match form.right with
  | none => form.last form.left
  | some right =>
    (if form.left = [] then [[]] else form.left.map (·.digits)) ++ [] ::
      (if form.last right = [] then [[]] else form.last right)

def text (form : Ipv6Text) : String := String.ofList ([':'].intercalate form.parts)

/-- What stands behind `::`, or the quad of an address without it. -/
def ending (form : Ipv6Text) : List ℕ :=
  (form.right.getD []).map (·.value) ++ form.tail.toList.flatMap Quad.groups

/-- The eight groups that the address denotes. -/
def groups (form : Ipv6Text) : List ℕ :=
  form.left.map (·.value) ++ List.replicate (8 - form.ending.length - form.left.length) 0 ++ form.ending

/-- How many parts are written before those behind `::`. -/
def start (form : Ipv6Text) : ℕ :=
  match form.right with
  | none => form.left.length
  | some _ => max 1 form.left.length + 1

end Ipv6Text

inductive Destination where
  | ipv4 (quad : Quad)
  | ipv6 (form : Ipv6Text)
  | domain (name : String) (size : (utf8 name).length ≤ 255) (not_quad : ∀ quad : Quad, quad.text ≠ name)
      (colonless : ':' ∉ name.toList)

namespace Destination

def text : Destination → String
  | ipv4 quad => quad.text
  | ipv6 form => form.text
  | domain name .. => name

/-- Another text for the same octets, the same groups, or the same name. -/
def DenotedBy (address : String) : Destination → Prop
  | ipv4 quad => ∃ other : Quad, other.text = address ∧ other.octets = quad.octets
  | ipv6 form => ∃ other : Ipv6Text, other.text = address ∧ other.groups = form.groups
  | domain name .. => address = name

/-- An IPv6 address whose quad, if it has one, is `0.0.0.0`, and whose groups behind `::` were typed at
their own index or are all zero; a name that is no oversized quad and has no byte order mark. -/
def Carried : Destination → Prop
  | ipv4 _ => True
  | ipv6 form =>
    (∀ quad ∈ form.tail, ∀ octet ∈ quad.octets, octet = 0) ∧
      (form.start + form.ending.length = 8 ∨ ∀ group ∈ form.right.getD [], group.value = 0)
  | domain name .. => isIpv4 name = false ∧ ∀ char ∈ name.toList.head?, char.toNat ≠ 0xFEFF

end Destination

/-- The UUID, the command, the port, the destination and the payload come back. -/
def RoundTrips (uuid : UuidText) (cmd : UInt8) (port : UInt16) (destination : Destination) : Prop :=
  let built := buildVlessHeader
    { uuid := uuid.text, cmd := cmd.toNat, port := port.toNat, address := destination.text }
  ∀ payload, ∃ header, parseVlessHeader (built ++ payload) = .ok header ∧ header.uuid = uuid.canonical ∧
    header.cmd = some cmd.toNat ∧ header.port = port.toNat ∧ destination.DenotedBy header.address ∧
    (built ++ payload).drop header.payloadStart = payload ∧ header.payloadStart = built.length

/-! ## Hexadecimal digits -/

theorem hexDigit_mem {char : Char} (hex : isHexDigit char = true) :
    char ∈ "0123456789abcdefABCDEF".toList := by
  have code : 48 ≤ char.toNat ∧ char.toNat ≤ 57 ∨ 97 ≤ char.toNat ∧ char.toNat ≤ 102 ∨
      65 ≤ char.toNat ∧ char.toNat ≤ 70 := by
    simp only [isHexDigit, Char.isDigit, Bool.or_eq_true, Bool.and_eq_true, decide_eq_true_eq, Char.le_def,
      UInt32.le_iff_toNat_le] at hex
    simp only [Char.toNat]
    exact or_assoc.mp hex
  have self : Char.ofNat char.toNat = char := Char.ofNat_toNat char
  have listed : ∀ code < 128, (48 ≤ code ∧ code ≤ 57 ∨ 97 ≤ code ∧ code ≤ 102 ∨ 65 ≤ code ∧ code ≤ 70) →
      Char.ofNat code ∈ "0123456789abcdefABCDEF".toList := by decide
  rw [← self]
  exact listed char.toNat (by omega) code

private theorem hexDigit_facts {char : Char} (hex : isHexDigit char = true) :
    isJsSpace char = false ∧ char ≠ '-' ∧ char ≠ '+' ∧ char ≠ 'x' ∧ char ≠ 'X' ∧ char ≠ ':' ∧ char ≠ '.' ∧
      ∃ digit < 16, hexDigit? char = some digit ∧ Nat.digitChar digit = char.toLower := by
  have facts := List.all_eq_true.mp (by decide : ("0123456789abcdefABCDEF".toList.all fun char =>
    !isJsSpace char && char != '-' && char != '+' && char != 'x' && char != 'X' && char != ':' && char != '.' &&
      (List.range 16).any fun digit => hexDigit? char = some digit && Nat.digitChar digit = char.toLower) = true)
    char (hexDigit_mem hex)
  simp only [Bool.and_eq_true, Bool.not_eq_true', bne_iff_ne, ne_eq, List.any_eq_true, List.mem_range,
    decide_eq_true_eq] at facts
  obtain ⟨⟨⟨⟨⟨⟨⟨space, minus⟩, plus⟩, x⟩, bigX⟩, colon⟩, dot⟩, digit, below, value, char⟩ := facts
  exact ⟨space, minus, plus, x, bigX, colon, dot, digit, below, value, char⟩

private theorem takeWhile_all {digits rest : List Char} (hex : ∀ char ∈ digits, isHexDigit char = true)
    (stops : ∀ char ∈ rest.head?, isHexDigit char = false) : (digits ++ rest).takeWhile isHexDigit = digits := by
  rw [List.takeWhile_append_of_pos hex]
  cases rest with
  | nil => rw [List.takeWhile_nil, List.append_nil]
  | cons char rest =>
    rw [List.takeWhile_cons, stops char rfl, if_neg Bool.false_ne_true, List.append_nil]

/-- Hexadecimal digits are read up to the first other character. -/
theorem parseHex_digits {digits rest : List Char} (nonempty : digits ≠ [])
    (hex : ∀ char ∈ digits, isHexDigit char = true)
    (stops : ∀ char ∈ rest.head?, isHexDigit char = false ∧ char ≠ 'x' ∧ char ≠ 'X') :
    parseHex (digits ++ rest) = some (hexValue digits : ℤ) := by
  obtain ⟨first, others, rfl⟩ := List.exists_cons_of_ne_nil nonempty
  obtain ⟨space, minus, plus, -⟩ := hexDigit_facts (hex first List.mem_cons_self)
  have second : ∀ char ∈ (others ++ rest).head?, char ≠ 'x' ∧ char ≠ 'X' := by
    intro char found
    cases others with
    | nil => exact (stops char found).2
    | cons next others =>
      obtain rfl : next = char := Option.some.inj found
      obtain ⟨-, -, -, x, bigX, -⟩ := hexDigit_facts (hex next (by simp))
      exact ⟨x, bigX⟩
  have unprefixed (letter : Char) (isX : letter = 'x' ∨ letter = 'X') :
      ¬ ['0', letter] <+: first :: (others ++ rest) := by
    rintro ⟨after, shape⟩
    rw [List.cons_append, List.cons_append, List.nil_append] at shape
    obtain ⟨-, rest⟩ := List.cons.inj shape
    have := second letter (by rw [← rest]; rfl)
    rcases isX with rfl | rfl
    · exact this.1 rfl
    · exact this.2 rfl
  have taken : (first :: others ++ rest).takeWhile isHexDigit = first :: others :=
    takeWhile_all hex fun char found => (stops char found).1
  rw [List.cons_append] at taken
  have noMinus : ¬ (some first = some '-') := fun same => minus (Option.some.inj same)
  have noPlus : ¬ (some first = some '+') := fun same => plus (Option.some.inj same)
  have small : ¬ "0x".toList <+: first :: (others ++ rest) := unprefixed 'x' (.inl rfl)
  have big : ¬ "0X".toList <+: first :: (others ++ rest) := unprefixed 'X' (.inr rfl)
  rw [List.cons_append, parseHex]
  simp only [List.dropWhile_cons, space, Bool.false_eq_true, if_false, List.head?_cons, noMinus, noPlus, or_self, small,
    big, taken, reduceCtorEq]

/-! ## The UUID -/

private theorem byteOf_natCast (number : ℕ) : byteOf number = UInt8.ofNat number := by
  apply UInt8.toNat_inj.mp
  rw [byteOf, UInt8.toNat_ofNat', UInt8.toNat_ofNat']
  omega

private theorem hexByte_pair {a b : Char} (first : isHexDigit a = true) (second : isHexDigit b = true) :
    hexByte (byteOf ((parseHex [a, b]).getD 0)) = [a.toLower, b.toLower] := by
  have digits : ∀ char ∈ [a, b], isHexDigit char = true := by
    rintro char found
    rcases List.mem_pair.mp found with rfl | rfl <;> assumption
  have stops : ∀ char ∈ ([] : List Char).head?, isHexDigit char = false ∧ char ≠ 'x' ∧ char ≠ 'X' := by simp
  have read := parseHex_digits (List.cons_ne_nil a [b]) digits stops
  obtain ⟨-, -, -, -, -, -, -, high, highBelow, highValue, highChar⟩ := hexDigit_facts first
  obtain ⟨-, -, -, -, -, -, -, low, lowBelow, lowValue, lowChar⟩ := hexDigit_facts second
  have value : hexValue [a, b] = high * 16 + low := by
    rw [hexValue, List.foldl_cons, List.foldl_cons, List.foldl_nil, highValue, lowValue]
    simp
  rw [List.append_nil] at read
  rw [read, Option.getD_some, byteOf_natCast, value, hexByte, UInt8.toNat_ofNat',
    show (high * 16 + low) % 2 ^ 8 / 16 = high by omega, show (high * 16 + low) % 2 ^ 8 % 16 = low by omega, highChar,
    lowChar]

private theorem pairs_flatMap {hex : List Char} (size : ℕ) (length : hex.length = 2 * size)
    (digits : ∀ char ∈ hex, isHexDigit char = true) :
    ((List.range size).map fun i => byteOf ((parseHex ((hex.drop (i * 2)).take 2)).getD 0)).flatMap hexByte =
      hex.map Char.toLower := by
  induction size generalizing hex with
  | zero =>
    obtain rfl : hex = [] := List.eq_nil_of_length_eq_zero length
    rfl
  | succ size ih =>
    match hex, length with
    | a :: b :: rest, length =>
      have shorter : rest.length = 2 * size := by
        rw [List.length_cons, List.length_cons] at length
        omega
      have later := ih shorter fun char found => digits char (by simp [found])
      have shifted (i : ℕ) : (a :: b :: rest).drop (i.succ * 2) = rest.drop (i * 2) := by
        rw [Nat.succ_mul, List.drop_succ_cons, List.drop_succ_cons]
      rw [List.range_succ_eq_map, List.map_cons, List.flatMap_cons, List.map_map]
      simp only [Function.comp_def, shifted]
      rw [later]
      change hexByte (byteOf ((parseHex [a, b]).getD 0)) ++ _ = _
      rw [hexByte_pair (digits a (by simp)) (digits b (by simp))]
      rfl

theorem bytesToUuid_uuidToBytes (uuid : UuidText) : bytesToUuid (uuidToBytes uuid.text) = uuid.canonical := by
  have lower := pairs_flatMap 16 uuid.digits_length uuid.digits_hex
  simp only [bytesToUuid, uuidToBytes, lower, UuidText.canonical]

/-! ## The groups -/

/-- The group that a part is written as. -/
def groupValue (part : List Char) : ℕ := ((parseHex (if part = [] then ['0'] else part)).getD 0 % 65536).toNat

def groupBytes (value : ℕ) : List UInt8 := [UInt8.ofNat (value / 256), UInt8.ofNat value]

/-- The groups written for the parts of an address: eight, the later ones zero. -/
def codeGroups (parts : List (List Char)) : List ℕ :=
  (parts.map groupValue ++ (List.replicate 8 0).drop parts.length).take 8

private theorem byteOf_group (number : ℤ) :
    byteOf (number / 256) = UInt8.ofNat ((number % 65536).toNat / 256) ∧
      byteOf number = UInt8.ofNat (number % 65536).toNat := by
  constructor
  all_goals
    apply UInt8.toNat_inj.mp
    rw [byteOf, UInt8.toNat_ofNat', UInt8.toNat_ofNat']
    omega

private theorem foldl_past (parts : List (List Char)) (index : ℕ) (bytes : List UInt8) (past : bytes.length ≤ index * 2) :
    (parts.zipIdx index).foldl (fun bytes (g, i) =>
      let n := (parseHex (if g = [] then ['0'] else g)).getD 0
      (bytes.set (i * 2) (byteOf (n / 256))).set (i * 2 + 1) (byteOf n)) bytes = bytes := by
  induction parts generalizing index with
  | nil => rfl
  | cons part parts ih =>
    rw [List.zipIdx_cons, List.foldl_cons]
    dsimp only
    rw [List.set_eq_of_length_le past, List.set_eq_of_length_le (by omega)]
    exact ih (index + 1) (by omega)

/-- Every part that has room is written over two bytes. -/
private theorem foldl_groups (parts : List (List Char)) (index : ℕ) (before : List UInt8) (values : List ℕ)
    (length : before.length = index * 2) :
    (parts.zipIdx index).foldl (fun bytes (g, i) =>
      let n := (parseHex (if g = [] then ['0'] else g)).getD 0
      (bytes.set (i * 2) (byteOf (n / 256))).set (i * 2 + 1) (byteOf n)) (before ++ values.flatMap groupBytes) =
      before ++ ((parts.map groupValue ++ values.drop parts.length).take values.length).flatMap groupBytes := by
  induction parts generalizing index before values with
  | nil => simp
  | cons part parts ih =>
    cases values with
    | nil =>
      rw [List.flatMap_nil, List.append_nil, foldl_past _ _ _ length.le]
      simp
    | cons value values =>
      obtain ⟨high, low⟩ := byteOf_group ((parseHex (if part = [] then ['0'] else part)).getD 0)
      have written : ((before ++ (value :: values).flatMap groupBytes).set (index * 2)
          (byteOf ((parseHex (if part = [] then ['0'] else part)).getD 0 / 256))).set (index * 2 + 1)
          (byteOf ((parseHex (if part = [] then ['0'] else part)).getD 0)) =
          (before ++ groupBytes (groupValue part)) ++ values.flatMap groupBytes := by
        rw [List.flatMap_cons, groupBytes, List.set_append_right _ _ length.le, length, Nat.sub_self,
          List.set_append_right _ _ (by omega), length, Nat.add_sub_cancel_left, high, low, List.append_assoc]
        rfl
      rw [List.zipIdx_cons, List.foldl_cons]
      dsimp only
      rw [written, ih (index + 1) _ values (by rw [List.length_append, length, groupBytes]; simp; omega)]
      simp

theorem groupsToBytes_eq (parts : List (List Char)) :
    groupsToBytes parts = (codeGroups parts).flatMap groupBytes := by
  have written := foldl_groups parts 0 [] (List.replicate 8 0) rfl
  exact written

theorem codeGroups_length (parts : List (List Char)) : (codeGroups parts).length = 8 := by
  rw [codeGroups, List.length_take, List.length_append, List.length_map, List.length_drop, List.length_replicate]
  omega

private theorem groupsToBytes_length (parts : List (List Char)) : (groupsToBytes parts).length = 16 := by
  have pairs (values : List ℕ) : (values.flatMap groupBytes).length = values.length * 2 := by
    induction values with
    | nil => rfl
    | cons value values ih =>
      rw [List.flatMap_cons, List.length_append, ih, List.length_cons, groupBytes]
      simp only [List.length_cons, List.length_nil]
      omega
  rw [groupsToBytes_eq, pairs, codeGroups_length]

theorem codeGroups_getD {parts : List (List Char)} {index : ℕ} (below : index < 8) :
    (codeGroups parts).getD index 0 = (parts.map groupValue).getD index 0 := by
  rw [codeGroups, List.getD_eq_getElem?_getD, List.getD_eq_getElem?_getD, List.getElem?_take_of_lt below]
  by_cases inside : index < parts.length
  · rw [List.getElem?_append_left (by rwa [List.length_map])]
  · rw [List.getElem?_append_right (by rw [List.length_map]; omega), List.getElem?_eq_none (l := parts.map groupValue)
      (by rw [List.length_map]; omega), List.length_map, List.getElem?_drop, List.getElem?_replicate]
    split <;> rfl

/-- Four digits for a group. -/
def HexGroup.ofValue (value : ℕ) : HexGroup where
  digits := hexByte (UInt8.ofNat (value / 256)) ++ hexByte (UInt8.ofNat value)
  nonempty := by simp [hexByte]
  size := by simp [hexByte]
  hex := by
    have digit : ∀ digit < 16, isHexDigit (Nat.digitChar digit) = true := by decide
    have both (byte : UInt8) : ∀ char ∈ hexByte byte, isHexDigit char = true := by
      intro char found
      have bound := byte.toNat_lt
      rcases List.mem_pair.mp found with rfl | rfl
      · exact digit _ (by omega)
      · exact digit _ (by omega)
    intro char found
    rcases List.mem_append.mp found with found | found
    · exact both _ char found
    · exact both _ char found

theorem HexGroup.value_ofValue {value : ℕ} (below : value < 65536) : (HexGroup.ofValue value).value = value := by
  have digit : ∀ digit < 16, hexDigit? (Nat.digitChar digit) = some digit := by decide
  have bound : (UInt8.ofNat (value / 256)).toNat = value / 256 := by
    rw [UInt8.toNat_ofNat']
    omega
  have low : (UInt8.ofNat value).toNat = value % 256 := UInt8.toNat_ofNat'
  simp only [HexGroup.value, HexGroup.ofValue, hexByte, bound, low, List.cons_append, List.nil_append, hexValue,
    List.foldl_cons, List.foldl_nil, digit (value / 256 / 16) (by omega), digit (value / 256 % 16) (by omega),
    digit (value % 256 / 16) (by omega), digit (value % 256 % 16) (by omega), Option.getD_some]
  omega

private theorem groupValue_lt (part : List Char) : groupValue part < 65536 := by
  rw [groupValue]
  omega

theorem codeGroups_lt {parts : List (List Char)} : ∀ value ∈ codeGroups parts, value < 65536 := by
  intro value found
  rcases List.mem_append.mp (List.mem_of_mem_take found) with written | unwritten
  · obtain ⟨part, -, rfl⟩ := List.mem_map.mp written
    exact groupValue_lt part
  · rw [List.eq_of_mem_replicate (List.mem_of_mem_drop unwritten)]
    omega

/-- Eight groups written out. -/
def Ipv6Text.full (values : List ℕ) (length : values.length = 8) : Ipv6Text where
  left := values.map HexGroup.ofValue
  right := none
  tail := none
  fits := by simpa using length

private theorem colonGroups_values (values : List ℕ) :
    colonGroups ((values.flatMap groupBytes).flatMap hexByte) =
      [':'].intercalate (values.map fun value => (HexGroup.ofValue value).digits) := by
  induction values with
  | nil => rfl
  | cons value values ih =>
    cases values with
    | nil => rfl
    | cons next values =>
      rw [List.map_cons, List.map_cons, List.intercalate_cons_cons]
      change _ = _ ++ [':'] ++ [':'].intercalate ((next :: values).map fun value => (HexGroup.ofValue value).digits)
      rw [← ih]
      rfl

theorem full_text (values : List ℕ) (length : values.length = 8) :
    (Ipv6Text.full values length).text = String.ofList (colonGroups ((values.flatMap groupBytes).flatMap hexByte)) := by
  rw [Ipv6Text.text, colonGroups_values]
  simp [Ipv6Text.parts, Ipv6Text.full, Ipv6Text.last, Function.comp_def]

/-- Groups are the digits of their values. -/
theorem map_value_ofValue {values : List ℕ} (below : ∀ value ∈ values, value < 65536) :
    values.map (fun value => (HexGroup.ofValue value).value) = values := by
  conv_rhs => rw [← List.map_id values]
  apply List.map_congr_left
  intro value found
  rw [HexGroup.value_ofValue (below value found), id_eq]

theorem full_groups {values : List ℕ} (length : values.length = 8) (below : ∀ value ∈ values, value < 65536) :
    (Ipv6Text.full values length).groups = values := by
  have same := map_value_ofValue below
  simp [Ipv6Text.groups, Ipv6Text.full, Ipv6Text.ending, Function.comp_def, same, length]

/-! ## The header that is built -/

def wireOf (uuid : UuidText) (cmd : UInt8) (port : UInt16) (address : WireAddress) : Wire where
  uuid := uuidToBytes uuid.text
  uuid_length := by rw [uuidToBytes, List.length_map, List.length_range]
  addons := []
  addons_length := by simp
  cmd := cmd
  portHigh := UInt8.ofNat (port.toNat / 256)
  portLow := UInt8.ofNat port.toNat
  address := address

/-- Everything but the address comes back, so the round trip is the address's. -/
private theorem roundTrips_iff (uuid : UuidText) (cmd : UInt8) (port : UInt16) (destination : Destination)
    {address : WireAddress} (built : buildAddress destination.text = address.type :: address.bytes) :
    RoundTrips uuid cmd port destination ↔ destination.DenotedBy address.text := by
  have bytes : buildVlessHeader { uuid := uuid.text, cmd := cmd.toNat, port := port.toNat, address := destination.text } =
      (wireOf uuid cmd port address).bytes := by
    rw [buildVlessHeader, built, UInt8.ofNat_toNat, Wire.bytes, Wire.front]
    simp [wireOf]
  have bound := port.toNat_lt
  have portBack : (wireOf uuid cmd port address).header.port = port.toNat := by
    change (UInt8.ofNat (port.toNat / 256)).toNat * 256 + (UInt8.ofNat port.toNat).toNat = port.toNat
    rw [UInt8.toNat_ofNat', UInt8.toNat_ofNat']
    omega
  have uuidBack : (wireOf uuid cmd port address).header.uuid = uuid.canonical := bytesToUuid_uuidToBytes uuid
  simp only [RoundTrips, bytes]
  constructor
  · intro back
    obtain ⟨header, parsed, -, -, -, denoted, -⟩ := back []
    rw [parseVlessHeader_wire] at parsed
    obtain rfl : (wireOf uuid cmd port address).header = header := Except.ok.inj parsed
    exact denoted
  · intro denoted payload
    exact ⟨_, parseVlessHeader_wire _ payload, uuidBack, rfl, portBack, denoted, List.drop_left, rfl⟩

/-! ## IPv4 -/

private theorem toDigits_byte : ∀ number < 256, Nat.toDigits 10 number ≠ [] ∧ (Nat.toDigits 10 number).length ≤ 3 ∧
    ((Nat.toDigits 10 number).all (·.isDigit)) = true := by decide +kernel

/-- The four numbers of four bytes. -/
def Quad.ofBytes (bytes : List UInt8) (size : bytes.length = 4) : Quad where
  parts := bytes.map fun byte => Nat.toDigits 10 byte.toNat
  parts_length := by rw [List.length_map, size]
  octet := by
    intro part found
    obtain ⟨byte, -, rfl⟩ := List.mem_map.mp found
    have bound := byte.toNat_lt
    obtain ⟨nonempty, short, digits⟩ := toDigits_byte byte.toNat bound
    refine ⟨nonempty, short, List.all_eq_true.mp digits, ?_⟩
    rw [Nat.ofDigitChars_ten_toDigits]
    omega

private theorem ofBytes_text (bytes : List UInt8) (size : bytes.length = 4) :
    (Quad.ofBytes bytes size).text = (WireAddress.ipv4 bytes size).text := by
  apply String.toList_inj.mp
  rw [Quad.text, WireAddress.text, String.toList_intercalate, List.map_map, String.toList_ofList]
  congr 1
  apply List.map_congr_left
  intro byte _
  exact (Nat.toList_repr).symm

private theorem ofBytes_octets (bytes : List UInt8) (size : bytes.length = 4) :
    (Quad.ofBytes bytes size).octets = bytes.map (·.toNat) := by
  rw [Quad.octets, Quad.ofBytes, List.map_map]
  apply List.map_congr_left
  intro byte _
  exact Nat.ofDigitChars_ten_toDigits

theorem Quad.splitOn_text (quad : Quad) : quad.text.toList.splitOn '.' = quad.parts := by
  rw [Quad.text, String.toList_ofList]
  apply List.splitOn_intercalate
  · intro part found dot
    have digit := (quad.octet part found).2.2.1 '.' dot
    contradiction
  · intro empty
    have length := quad.parts_length
    rw [empty] at length
    contradiction

theorem isIpv4_quad (quad : Quad) : isIpv4 quad.text = true := by
  rw [isIpv4, quad.splitOn_text]
  simp only [quad.parts_length, decide_true, Bool.true_and, List.all_eq_true, Bool.and_eq_true, Bool.not_eq_true',
    List.isEmpty_eq_false_iff, decide_eq_true_eq]
  intro part found
  obtain ⟨nonempty, short, digits, -⟩ := quad.octet part found
  exact ⟨⟨nonempty, short⟩, digits⟩

private theorem buildAddress_ipv4 {address : String} (isQuad : isIpv4 address = true) :
    ∃ bytes size, buildAddress address = (WireAddress.ipv4 bytes size).type :: (WireAddress.ipv4 bytes size).bytes ∧
      bytes = (address.toList.splitOn '.').map fun part => UInt8.ofNat (Nat.ofDigitChars 10 part 0) := by
  have four : (address.toList.splitOn '.').length = 4 := by
    rw [isIpv4] at isQuad
    simp only [Bool.and_eq_true, decide_eq_true_eq] at isQuad
    exact isQuad.1
  refine ⟨_, by rw [List.length_map, four], ?_, rfl⟩
  rw [buildAddress, if_pos isQuad]
  rfl

private theorem mem_joined {separator char : Char} {parts : List (List Char)}
    (found : char ∈ [separator].intercalate parts) : char = separator ∨ ∃ part ∈ parts, char ∈ part := by
  induction parts with
  | nil => contradiction
  | cons part parts ih =>
    cases parts with
    | nil => exact .inr ⟨part, List.mem_cons_self, by rwa [List.intercalate_singleton] at found⟩
    | cons next parts =>
      rw [List.intercalate_cons_cons] at found
      rcases List.mem_append.mp found with found | found
      · rcases List.mem_append.mp found with found | found
        · exact .inr ⟨part, List.mem_cons_self, found⟩
        · exact .inl (List.mem_singleton.mp found)
      · rcases ih found with same | ⟨inside, listed, found⟩
        · exact .inl same
        · exact .inr ⟨inside, List.mem_cons_of_mem _ listed, found⟩

/-- Nothing that reads as four short numbers has a colon. -/
theorem colonless_of_isIpv4 {address : String} (isQuad : isIpv4 address = true) : ':' ∉ address.toList := by
  intro colon
  rw [isIpv4] at isQuad
  simp only [Bool.and_eq_true, List.all_eq_true] at isQuad
  have whole : ['.'].intercalate (address.toList.splitOn '.') = address.toList := List.intercalate_splitOn _
  rw [← whole] at colon
  rcases mem_joined colon with same | ⟨part, found, inside⟩
  · contradiction
  · have digit := (isQuad.2 part found).2 ':' inside
    contradiction

theorem roundTrips_ipv4 (uuid : UuidText) (cmd : UInt8) (port : UInt16) (quad : Quad) :
    RoundTrips uuid cmd port (.ipv4 quad) := by
  obtain ⟨bytes, size, built, shape⟩ := buildAddress_ipv4 (isIpv4_quad quad)
  rw [roundTrips_iff uuid cmd port (.ipv4 quad) built]
  refine ⟨Quad.ofBytes bytes size, ofBytes_text bytes size, ?_⟩
  rw [ofBytes_octets, shape, quad.splitOn_text, List.map_map, Quad.octets]
  apply List.map_congr_left
  intro part found
  have small := (quad.octet part found).2.2.2
  rw [Function.comp, UInt8.toNat_ofNat']
  omega

/-! ## Names -/

private theorem decodeUtf8_marked {name : String} (marked : ∃ char ∈ name.toList.head?, char.toNat = 0xFEFF) :
    decodeUtf8 (utf8 name) ≠ name := by
  obtain ⟨mark, first, isMark⟩ := marked
  have decoded (chars : List Char) : decodeUtf8From {} (chars.flatMap String.utf8EncodeChar) = chars := by
    induction chars with
    | nil => rfl
    | cons char rest ih => rw [List.flatMap_cons, decodeUtf8From_utf8EncodeChar, ih]
  intro same
  cases shape : name.toList with
  | nil =>
    rw [shape] at first
    contradiction
  | cons char rest =>
    rw [shape] at first
    obtain rfl : char = mark := Option.some.inj first
    rw [decodeUtf8, utf8, decoded, shape] at same
    dsimp only at same
    rw [if_pos isMark] at same
    have length := congrArg (·.toList.length) same
    simp only [String.toList_ofList, shape, List.length_cons] at length
    omega

theorem roundTrips_domain (uuid : UuidText) (cmd : UInt8) (port : UInt16) (name : String)
    (size : (utf8 name).length ≤ 255) (not_quad : ∀ quad : Quad, quad.text ≠ name) (colonless : ':' ∉ name.toList) :
    RoundTrips uuid cmd port (.domain name size not_quad colonless) ↔
      isIpv4 name = false ∧ ∀ char ∈ name.toList.head?, char.toNat ≠ 0xFEFF := by
  cases looks : isIpv4 name with
  | true =>
    obtain ⟨bytes, length, built, -⟩ := buildAddress_ipv4 looks
    rw [roundTrips_iff uuid cmd port (.domain name size not_quad colonless) built]
    constructor
    · intro same
      exact absurd ((ofBytes_text bytes length).trans same) (not_quad _)
    · rintro ⟨other, -⟩
      contradiction
  | false =>
    have built : buildAddress name = (WireAddress.domain (utf8 name) size).type :: (WireAddress.domain (utf8 name) size).bytes := by
      have noColon : isIpv6 name = false := by
        rw [isIpv6, decide_eq_false_iff_not]
        exact colonless
      rw [buildAddress, looks, noColon]
      rfl
    rw [roundTrips_iff uuid cmd port (.domain name size not_quad colonless) built]
    change decodeUtf8 (utf8 name) = name ↔ _
    constructor
    · intro same
      refine ⟨rfl, ?_⟩
      intro char first isMark
      exact decodeUtf8_marked ⟨char, first, isMark⟩ same
    · rintro ⟨-, unmarked⟩
      exact decodeUtf8_utf8 unmarked

/-! ## IPv6 -/

private theorem hexValue_lt {digits : List Char} (hex : ∀ char ∈ digits, isHexDigit char = true) :
    hexValue digits < 16 ^ digits.length := by
  have bound (start : ℕ) : digits.foldl (fun value char => value * 16 + (hexDigit? char).getD 0) start + 1 ≤
      (start + 1) * 16 ^ digits.length := by
    induction digits generalizing start with
    | nil => simp
    | cons char digits ih =>
      obtain ⟨-, -, -, -, -, -, -, digit, below, value, -⟩ := hexDigit_facts (hex char List.mem_cons_self)
      have later := ih (fun other found => hex other (List.mem_cons_of_mem _ found)) (start * 16 + digit)
      rw [List.foldl_cons, value, Option.getD_some, List.length_cons, Nat.pow_succ]
      calc _ ≤ (start * 16 + digit + 1) * 16 ^ digits.length := later
        _ ≤ ((start + 1) * 16) * 16 ^ digits.length := Nat.mul_le_mul_right _ (by omega)
        _ = (start + 1) * (16 ^ digits.length * 16) := by rw [Nat.mul_assoc, Nat.mul_comm 16]
  have whole := bound 0
  rw [hexValue]
  omega

private theorem HexGroup.value_lt (group : HexGroup) : group.value < 65536 := by
  have bound := hexValue_lt group.hex
  have size : 16 ^ group.digits.length ≤ 16 ^ 4 := Nat.pow_le_pow_right (by omega) group.size
  rw [HexGroup.value]
  omega

private theorem groupValue_digits {digits rest : List Char} (nonempty : digits ≠ []) (size : digits.length ≤ 4)
    (hex : ∀ char ∈ digits, isHexDigit char = true)
    (stops : ∀ char ∈ rest.head?, isHexDigit char = false ∧ char ≠ 'x' ∧ char ≠ 'X') :
    groupValue (digits ++ rest) = hexValue digits := by
  have bound := HexGroup.value_lt ⟨digits, nonempty, size, hex⟩
  have written : digits ++ rest ≠ [] := by simp [nonempty]
  rw [groupValue, if_neg written, parseHex_digits nonempty hex stops, Option.getD_some]
  change hexValue digits < _ at bound
  omega

private theorem groupValue_group (group : HexGroup) : groupValue group.digits = group.value := by
  have stops : ∀ char ∈ ([] : List Char).head?, isHexDigit char = false ∧ char ≠ 'x' ∧ char ≠ 'X' := by simp
  have written := groupValue_digits group.nonempty group.size group.hex stops
  rwa [List.append_nil] at written

private theorem groupValue_empty : groupValue [] = 0 := by decide +kernel

/-- The first number of the quad, taken for a hexadecimal one. -/
def Quad.misread (quad : Quad) : ℕ := hexValue (quad.parts.headD [])

private theorem isHexDigit_of_digit {char : Char} (digit : char.isDigit = true) : isHexDigit char = true := by
  rw [isHexDigit, digit]
  simp

private theorem groupValue_quad (quad : Quad) : groupValue quad.text.toList = quad.misread := by
  obtain ⟨a, b, c, d, parts⟩ := List.length_eq_four.mp quad.parts_length
  obtain ⟨nonempty, short, digits, -⟩ := quad.octet a (by simp [parts])
  rw [Quad.text, Quad.misread, String.toList_ofList, parts, List.intercalate_cons_cons, List.append_assoc]
  apply groupValue_digits nonempty (by omega) fun char found => isHexDigit_of_digit (digits char found)
  intro char found
  obtain rfl : '.' = char := Option.some.inj found
  decide

/-- Read as hexadecimal, a number of three digits is between its value and three times it. -/
private theorem hexValue_digits {digits : List Char} (size : digits.length ≤ 3)
    (decimal : ∀ char ∈ digits, char.isDigit = true) :
    Nat.ofDigitChars 10 digits 0 ≤ hexValue digits ∧ hexValue digits ≤ 3 * Nat.ofDigitChars 10 digits 0 := by
  have digit {char : Char} (isDigit : char.isDigit = true) :
      hexDigit? char = some (char.toNat - 48) ∧ char.toNat - 48 ≤ 9 := by
    simp only [Char.isDigit, Bool.and_eq_true, decide_eq_true_eq, UInt32.le_iff_toNat_le] at isDigit
    have low : '0' ≤ char := Char.le_def.mpr (UInt32.le_iff_toNat_le.mpr isDigit.1)
    have high : char ≤ '9' := Char.le_def.mpr (UInt32.le_iff_toNat_le.mpr isDigit.2)
    refine ⟨by rw [hexDigit?, if_pos ⟨low, high⟩], ?_⟩
    have last : char.toNat ≤ 57 := isDigit.2
    omega
  match digits, size with
  | [], _ => exact ⟨le_refl _, le_refl _⟩
  | [a], _ =>
    obtain ⟨value, bound⟩ := digit (decimal a (by simp))
    simp only [hexValue, List.foldl_cons, List.foldl_nil, value, Nat.ofDigitChars_cons, Nat.ofDigitChars_nil,
      Option.getD_some, show '0'.toNat = 48 from rfl]
    omega
  | [a, b], _ =>
    obtain ⟨value, bound⟩ := digit (decimal a (by simp))
    obtain ⟨second, secondBound⟩ := digit (decimal b (by simp))
    simp only [hexValue, List.foldl_cons, List.foldl_nil, value, second, Nat.ofDigitChars_cons, Nat.ofDigitChars_nil,
      Option.getD_some, show '0'.toNat = 48 from rfl]
    omega
  | [a, b, c], _ =>
    obtain ⟨value, bound⟩ := digit (decimal a (by simp))
    obtain ⟨second, secondBound⟩ := digit (decimal b (by simp))
    obtain ⟨third, thirdBound⟩ := digit (decimal c (by simp))
    simp only [hexValue, List.foldl_cons, List.foldl_nil, value, second, third, Nat.ofDigitChars_cons,
      Nat.ofDigitChars_nil, Option.getD_some, show '0'.toNat = 48 from rfl]
    omega

/-- The quad's two groups; the misread first number is neither of them unless it is zero. -/
private theorem quad_groups (quad : Quad) : ∃ first second, quad.groups = [first, second] ∧
    (first = quad.misread → first = 0) ∧ (first = 0 → quad.misread = 0) ∧
    ((∀ octet ∈ quad.octets, octet = 0) ↔ first = 0 ∧ second = 0) := by
  obtain ⟨a, b, c, d, parts⟩ := List.length_eq_four.mp quad.parts_length
  obtain ⟨-, short, digits, -⟩ := quad.octet a (by simp [parts])
  obtain ⟨low, high⟩ := hexValue_digits short digits
  rw [Quad.groups, Quad.misread, Quad.octets, parts]
  refine ⟨_, _, rfl, ?_, ?_, ?_⟩
  · simp only [List.headD_cons, List.map_cons, List.getD_cons_zero, List.getD_cons_succ]
    omega
  · simp only [List.headD_cons, List.map_cons, List.getD_cons_zero, List.getD_cons_succ]
    omega
  · simp only [List.map_cons, List.map_nil, List.mem_cons, List.not_mem_nil, or_false, forall_eq_or_imp, forall_eq,
      List.getD_cons_zero, List.getD_cons_succ]
    omega

/-! ## Where the groups are written -/

private theorem getD_joined (before after : List ℕ) (index : ℕ) : (before ++ after).getD index 0 =
    if index < before.length then before.getD index 0 else after.getD (index - before.length) 0 := by
  rw [List.getD_eq_getElem?_getD, List.getElem?_append]
  split <;> rw [List.getD_eq_getElem?_getD]

private theorem getD_zeros {values : List ℕ} (zeros : ∀ value ∈ values, value = 0) (index : ℕ) :
    values.getD index 0 = 0 := by
  rw [List.getD_eq_getElem?_getD]
  cases found : values[index]? with
  | none => rfl
  | some value => exact zeros value (List.mem_of_getElem? found)

section Placing

variable {typed written meant : List ℕ} {left start place : ℕ}

/-- The groups at `left` and later, typed from `start` on and meant from `place` on. -/
private def SameGroups (typed written meant : List ℕ) (left start place : ℕ) : Prop :=
  ∀ index, left ≤ index → index < 8 → (if index < start then 0 else (typed ++ written).getD (index - start) 0) =
    if index < place then 0 else (typed ++ meant).getD (index - place) 0

/-- Groups that stand elsewhere than where they belong are all zero. -/
private theorem zero_of_shifted (fits : place + (typed.length + meant.length) = 8) (leftStart : left ≤ start)
    (leftPlace : left ≤ place) (same : SameGroups typed written meant left start place) (shifted : start ≠ place) :
    ∀ value ∈ typed, value = 0 := by
  have zero (index : ℕ) : index < typed.length → typed.getD index 0 = 0 := by
    induction index using Nat.strong_induction_on with
    | _ index ih =>
      intro inside
      rcases Nat.lt_or_gt_of_ne shifted with early | late
      · have here := same (start + index) (by omega) (by omega)
        rw [if_neg (by omega), Nat.add_sub_cancel_left, getD_joined, if_pos inside] at here
        by_cases gap : start + index < place
        · rwa [if_pos gap] at here
        · rw [if_neg gap, getD_joined, if_pos (by omega)] at here
          rw [here]
          exact ih _ (by omega) (by omega)
      · have here := same (place + index) (by omega) (by omega)
        rw [if_neg (show ¬ place + index < place by omega), Nat.add_sub_cancel_left, getD_joined _ meant, if_pos inside]
          at here
        by_cases gap : place + index < start
        · rw [if_pos gap] at here
          exact here.symm
        · rw [if_neg gap, getD_joined, if_pos (by omega)] at here
          rw [← here]
          exact ih _ (by omega) (by omega)
  intro value found
  obtain ⟨index, inside, rfl⟩ := List.getElem_of_mem found
  have here := zero index inside
  rwa [List.getD_eq_getElem?_getD, List.getElem?_eq_getElem inside] at here

/-- The last two groups are a quad's, of which only the first number is written. -/
private theorem tail_zero {first second misread : ℕ} (fits : place + (typed.length + 2) = 8) (leftStart : left ≤ start)
    (leftPlace : left ≤ place) (same : SameGroups typed [misread] [first, second] left start place)
    (unlike : first = misread → first = 0) (unread : first = 0 → misread = 0) : first = 0 ∧ second = 0 := by
  have firstMeant : (if place + typed.length < place then 0 else
      (typed ++ [first, second]).getD (place + typed.length - place) 0) = first := by
    rw [if_neg (by omega), Nat.add_sub_cancel_left, getD_joined, if_neg (lt_irrefl _), Nat.sub_self,
      List.getD_cons_zero]
  have secondMeant : (if place + typed.length + 1 < place then 0 else
      (typed ++ [first, second]).getD (place + typed.length + 1 - place) 0) = second := by
    rw [if_neg (by omega), Nat.add_assoc, Nat.add_sub_cancel_left, getD_joined, if_neg (by omega),
      Nat.add_sub_cancel_left, List.getD_cons_succ, List.getD_cons_zero]
  have firstHere := (same (place + typed.length) (by omega) (by omega)).trans firstMeant
  have secondHere := (same (place + typed.length + 1) (by omega) (by omega)).trans secondMeant
  have past (index : ℕ) (far : typed.length + 1 ≤ index) : (typed ++ [misread]).getD index 0 = 0 := by
    rw [List.getD_eq_getElem?_getD, List.getElem?_eq_none (by rwa [List.length_append])]
    rfl
  rcases Nat.lt_trichotomy start place with early | rfl | late
  · rw [if_neg (by omega), past _ (by omega)] at firstHere secondHere
    exact ⟨firstHere.symm, secondHere.symm⟩
  · rw [if_neg (by omega), Nat.add_sub_cancel_left, getD_joined, if_neg (lt_irrefl _), Nat.sub_self,
      List.getD_cons_zero] at firstHere
    rw [if_neg (by omega), past _ (by omega)] at secondHere
    exact ⟨unlike firstHere.symm, secondHere.symm⟩
  · have zeros := zero_of_shifted (by simpa using fits) leftStart leftPlace same (by omega)
    have firstZero : first = 0 := by
      by_cases gap : place + typed.length < start
      · rw [if_pos gap] at firstHere
        exact firstHere.symm
      · rw [if_neg gap, getD_joined, if_pos (by omega), getD_zeros zeros] at firstHere
        exact firstHere.symm
    have written : ∀ value ∈ typed ++ [misread], value = 0 := by
      intro value found
      rcases List.mem_append.mp found with found | found
      · exact zeros value found
      · rw [List.mem_singleton.mp found, unread firstZero]
    refine ⟨firstZero, ?_⟩
    rw [getD_zeros written, ite_self] at secondHere
    exact secondHere.symm

private theorem same_of_placed (writtenZero : ∀ value ∈ written, value = 0) (meantZero : ∀ value ∈ meant, value = 0)
    (placed : start = place ∨ ∀ value ∈ typed, value = 0) : SameGroups typed written meant left start place := by
  intro index _ _
  rcases placed with rfl | zeros
  · rw [getD_joined, getD_joined, getD_zeros writtenZero, getD_zeros meantZero]
  · rw [getD_joined, getD_joined, getD_zeros writtenZero, getD_zeros meantZero, getD_zeros zeros, getD_zeros zeros]
    simp only [ite_self]

end Placing

namespace Ipv6Text

private def typed (form : Ipv6Text) : List ℕ := (form.right.getD []).map (·.value)

private def misread (form : Ipv6Text) : List ℕ := form.tail.toList.map Quad.misread

private def meant (form : Ipv6Text) : List ℕ := form.tail.toList.flatMap Quad.groups

private theorem length_le (form : Ipv6Text) : form.left.length + (form.typed.length + form.meant.length) ≤ 8 ∧
    form.left.length ≤ form.start ∧
      (form.right = none → form.left.length + form.meant.length = 8 ∧ form.start = form.left.length) := by
  have fits := form.fits
  rw [typed, List.length_map, start, meant]
  cases right : form.right with
  | none =>
    rw [right] at fits
    dsimp only at fits
    exact ⟨by simp only [Option.getD_none, List.length_nil]; omega, le_refl _, fun _ => ⟨fits, rfl⟩⟩
  | some right' =>
    rw [right] at fits
    dsimp only at fits
    refine ⟨by simp only [Option.getD_some]; omega, by dsimp only; omega, ?_⟩
    intro unbroken
    contradiction

private theorem map_last (form : Ipv6Text) (groups : List HexGroup) :
    (form.last groups).map groupValue = groups.map (·.value) ++ form.misread := by
  rw [last, misread, List.map_append, List.map_map, List.map_map]
  congr 1
  · apply List.map_congr_left
    intro group _
    rw [Function.comp_apply, groupValue_group]
  · apply List.map_congr_left
    intro quad _
    rw [Function.comp_apply, groupValue_quad]

/-- What is written at an index: the groups before `::`, zeros for the empty parts, then the others. -/
private theorem written_getD (form : Ipv6Text) (index : ℕ) : (form.parts.map groupValue).getD index 0 =
    if index < form.left.length then (form.left.map (·.value)).getD index 0
    else if index < form.start then 0 else (form.typed ++ form.misread).getD (index - form.start) 0 := by
  rw [parts, start, typed]
  cases form.right with
  | none =>
    dsimp only
    rw [map_last, getD_joined, List.length_map]
    by_cases inside : index < form.left.length
    · rw [if_pos inside, if_pos inside]
    · rw [if_neg inside, if_neg inside, if_neg inside]
      rfl
  | some right =>
    dsimp only
    have ends (offset : ℕ) : ((if form.last right = [] then [[]] else form.last right).map groupValue).getD offset 0 =
        (right.map (·.value) ++ form.misread).getD offset 0 := by
      rw [← map_last]
      split
      · next empty =>
        rw [empty]
        cases offset with
        | zero => exact groupValue_empty
        | succ offset => rfl
      · rfl
    generalize (if form.last right = [] then [[]] else form.last right) = behind at ends
    cases shape : form.left with
    | nil =>
      rw [if_pos rfl]
      cases index with
      | zero => exact groupValue_empty
      | succ index =>
        cases index with
        | zero => exact groupValue_empty
        | succ index =>
          have far : ¬ index + 1 + 1 < max 1 ([] : List HexGroup).length + 1 := by simp
          rw [if_neg (show ¬ index + 1 + 1 < ([] : List HexGroup).length from Nat.not_lt_zero _), if_neg far]
          exact ends index
    | cons first others =>
      rw [if_neg (List.cons_ne_nil _ _), ← shape, List.map_append, List.map_map, getD_joined, List.length_map]
      have same : form.left.map (groupValue ∘ fun group => group.digits) = form.left.map (·.value) :=
        List.map_congr_left fun group _ => groupValue_group group
      have positive : 1 ≤ form.left.length := by
        rw [shape, List.length_cons]
        omega
      by_cases inside : index < form.left.length
      · rw [if_pos inside, if_pos inside, same]
      · rw [if_neg inside, if_neg inside, List.map_cons, Nat.max_eq_right positive]
        by_cases here : index = form.left.length
        · rw [if_pos (by omega), here, Nat.sub_self, List.getD_cons_zero, groupValue_empty]
        · rw [if_neg (by omega), show index - form.left.length = (index - (form.left.length + 1)) + 1 by omega,
            List.getD_cons_succ, ends]
          rfl

private theorem groups_getD (form : Ipv6Text) (index : ℕ) : form.groups.getD index 0 =
    if index < form.left.length then (form.left.map (·.value)).getD index 0
    else if index < 8 - (form.typed.length + form.meant.length) then 0
    else (form.typed ++ form.meant).getD (index - (8 - (form.typed.length + form.meant.length))) 0 := by
  have size := form.length_le.1
  have ending : form.ending = form.typed ++ form.meant := rfl
  rw [groups, ending, List.append_assoc, getD_joined, List.length_map, List.length_append, getD_joined,
    List.length_replicate]
  by_cases inside : index < form.left.length
  · rw [if_pos inside, if_pos inside]
  · rw [if_neg inside, if_neg inside]
    by_cases gap : index < 8 - (form.typed.length + form.meant.length)
    · rw [if_pos gap, if_pos (by omega)]
      exact getD_zeros (fun value found => List.eq_of_mem_replicate found) _
    · rw [if_neg gap, if_neg (by omega)]
      congr 1
      omega

private theorem groups_length (form : Ipv6Text) : form.groups.length = 8 := by
  have size := form.length_le.1
  have ending : form.ending = form.typed ++ form.meant := rfl
  rw [groups, ending, List.length_append, List.length_append, List.length_map, List.length_replicate,
    List.length_append]
  omega

/-- The groups that are written are those that are meant exactly where each is typed at its place. -/
theorem codeGroups_parts_iff (form : Ipv6Text) : codeGroups form.parts = form.groups ↔
    (∀ quad ∈ form.tail, ∀ octet ∈ quad.octets, octet = 0) ∧
      (form.start + form.ending.length = 8 ∨ ∀ group ∈ form.right.getD [], group.value = 0) := by
  obtain ⟨size, leftStart, -⟩ := form.length_le
  have ending : form.ending.length = form.typed.length + form.meant.length := List.length_append
  have pointwise : codeGroups form.parts = form.groups ↔ SameGroups form.typed form.misread form.meant
      form.left.length form.start (8 - (form.typed.length + form.meant.length)) := by
    constructor
    · intro same index above below
      have here : (codeGroups form.parts).getD index 0 = form.groups.getD index 0 := by rw [same]
      have past : ¬ index < form.left.length := by omega
      rwa [codeGroups_getD below, written_getD, groups_getD, if_neg past, if_neg past] at here
    · intro same
      apply List.ext_getElem (by rw [codeGroups_length, form.groups_length])
      intro index below _
      rw [codeGroups_length] at below
      have here : (codeGroups form.parts).getD index 0 = form.groups.getD index 0 := by
        rw [codeGroups_getD below, written_getD, groups_getD]
        by_cases inside : index < form.left.length
        · rw [if_pos inside, if_pos inside]
        · rw [if_neg inside, if_neg inside]
          exact same index (by omega) below
      rwa [List.getD_eq_getElem?_getD, List.getD_eq_getElem?_getD,
        List.getElem?_eq_getElem (by rwa [codeGroups_length]),
        List.getElem?_eq_getElem (by rwa [form.groups_length])] at here
  have typedZero : (∀ group ∈ form.right.getD [], group.value = 0) ↔ ∀ value ∈ form.typed, value = 0 := by
    rw [typed, List.forall_mem_map]
  have placed : form.start + form.ending.length = 8 ↔ form.start = 8 - (form.typed.length + form.meant.length) := by
    omega
  rw [pointwise, typedZero, placed]
  constructor
  · intro same
    have shifted : form.start = 8 - (form.typed.length + form.meant.length) ∨ ∀ value ∈ form.typed, value = 0 := by
      by_cases here : form.start = 8 - (form.typed.length + form.meant.length)
      · exact .inl here
      · exact .inr (zero_of_shifted (by omega) leftStart (by omega) same here)
    refine ⟨?_, shifted⟩
    intro quad last
    obtain ⟨first, second, groups, unlike, unread, zero⟩ := quad_groups quad
    have meant : form.meant = [first, second] := by
      rw [Ipv6Text.meant, last, Option.toList_some, List.flatMap_cons, List.flatMap_nil, List.append_nil, groups]
    have misread : form.misread = [quad.misread] := by
      rw [Ipv6Text.misread, last]
      rfl
    rw [meant, misread] at same
    rw [meant] at size
    simp only [List.length_cons, List.length_nil] at size same
    exact zero.mpr (tail_zero (by omega) leftStart (by omega) same unlike unread)
  · rintro ⟨tail, placed⟩
    refine same_of_placed ?_ ?_ placed
    · intro value found
      obtain ⟨quad, last, rfl⟩ := List.mem_map.mp found
      obtain ⟨first, second, -, -, unread, zero⟩ := quad_groups quad
      exact unread (zero.mp (tail quad (Option.mem_toList.mp last))).1
    · intro value found
      obtain ⟨quad, last, listed⟩ := List.mem_flatMap.mp found
      obtain ⟨first, second, groups, -, -, zero⟩ := quad_groups quad
      obtain ⟨firstZero, secondZero⟩ := zero.mp (tail quad (Option.mem_toList.mp last))
      rw [groups] at listed
      rcases List.mem_pair.mp listed with rfl | rfl
      · exact firstZero
      · exact secondZero

/-! ### Reading the text again -/

private theorem colonless (form : Ipv6Text) : ∀ part ∈ form.parts, ':' ∉ part := by
  have group (group : HexGroup) : ':' ∉ group.digits := by
    intro colon
    have digit := group.hex ':' colon
    contradiction
  have last (groups : List HexGroup) : ∀ part ∈ form.last groups, ':' ∉ part := by
    intro part found
    rcases List.mem_append.mp found with found | found
    · obtain ⟨listed, -, rfl⟩ := List.mem_map.mp found
      exact group listed
    · obtain ⟨quad, -, rfl⟩ := List.mem_map.mp found
      exact colonless_of_isIpv4 (isIpv4_quad quad)
  intro part found
  rw [parts] at found
  split at found
  · exact last form.left part found
  · next right _ =>
    rcases List.mem_append.mp found with found | found
    · split at found
      · rw [List.mem_singleton.mp found]
        exact List.not_mem_nil
      · obtain ⟨listed, -, rfl⟩ := List.mem_map.mp found
        exact group listed
    · rcases List.mem_cons.mp found with rfl | found
      · exact List.not_mem_nil
      · split at found
        · rw [List.mem_singleton.mp found]
          exact List.not_mem_nil
        · exact last right part found

/-- An address has at least one colon. -/
private theorem parts_length (form : Ipv6Text) : 2 ≤ form.parts.length := by
  have fits := form.fits
  rw [parts]
  split
  · next unbroken =>
    rw [unbroken] at fits
    dsimp only at fits
    rw [last, List.length_append, List.length_map]
    cases tail : form.tail with
    | none =>
      rw [tail] at fits
      simp at fits ⊢
      omega
    | some quad =>
      rw [tail] at fits
      simp [Quad.groups] at fits ⊢
      omega
  · rw [List.length_append, List.length_cons]
    split
    all_goals
      split
      all_goals simp
      all_goals grind [List.length_pos_iff]

theorem splitOn_text (form : Ipv6Text) : form.text.toList.splitOn ':' = form.parts := by
  rw [text, String.toList_ofList]
  apply List.splitOn_intercalate ':' form.colonless
  intro empty
  have long := form.parts_length
  rw [empty] at long
  contradiction

theorem isIpv6_text (form : Ipv6Text) : isIpv6 form.text = true := by
  have long := form.parts_length
  rw [isIpv6, decide_eq_true_eq, text, String.toList_ofList]
  match form.parts, long with
  | first :: second :: rest, _ =>
    rw [List.intercalate_cons_cons]
    simp

/-- The text of eight groups is read as those groups and no others. -/
theorem groups_of_full {form : Ipv6Text} {values : List ℕ} (length : values.length = 8)
    (below : ∀ value ∈ values, value < 65536) (same : form.text = (full values length).text) :
    form.groups = values := by
  have parts : form.parts = values.map fun value => (HexGroup.ofValue value).digits := by
    rw [← form.splitOn_text, same, splitOn_text]
    simp [Ipv6Text.parts, full, last, Function.comp_def]
  have digits (part : List Char) (found : part ∈ form.parts) : part ≠ [] ∧ '.' ∉ part := by
    rw [parts] at found
    obtain ⟨value, -, rfl⟩ := List.mem_map.mp found
    refine ⟨(HexGroup.ofValue value).nonempty, ?_⟩
    intro dot
    have digit := (HexGroup.ofValue value).hex '.' dot
    contradiction
  have unbroken : form.right = none := by
    cases right : form.right with
    | none => rfl
    | some right' =>
      have empty : [] ∈ form.parts := by
        rw [Ipv6Text.parts, right]
        simp
      exact absurd rfl (digits [] empty).1
  have quadless : form.tail = none := by
    cases tail : form.tail with
    | none => rfl
    | some quad =>
      have inside : quad.text.toList ∈ form.parts := by
        rw [Ipv6Text.parts, unbroken]
        simp [last, tail]
      have dotted : '.' ∈ quad.text.toList := by
        obtain ⟨a, b, c, d, shape⟩ := List.length_eq_four.mp quad.parts_length
        rw [Quad.text, String.toList_ofList, shape, List.intercalate_cons_cons]
        simp
      exact absurd dotted (digits _ inside).2
  have groups : form.left.map (·.digits) = values.map fun value => (HexGroup.ofValue value).digits := by
    rw [← parts, Ipv6Text.parts, unbroken]
    simp [last, quadless]
  have read := congrArg (List.map hexValue) groups
  have value (group : HexGroup) : hexValue group.digits = group.value := rfl
  simp only [List.map_map, Function.comp_def, value] at read
  have left : form.left.map (·.value) = values := by
    rw [read, map_value_ofValue below]
  have size : form.left.length = 8 := by
    rw [← length, ← left, List.length_map]
  simp [Ipv6Text.groups, ending, unbroken, quadless, left, size]

end Ipv6Text

theorem roundTrips_ipv6 (uuid : UuidText) (cmd : UInt8) (port : UInt16) (form : Ipv6Text) :
    RoundTrips uuid cmd port (.ipv6 form) ↔
      (∀ quad ∈ form.tail, ∀ octet ∈ quad.octets, octet = 0) ∧
        (form.start + form.ending.length = 8 ∨ ∀ group ∈ form.right.getD [], group.value = 0) := by
  have notQuad : isIpv4 form.text = false := by
    rw [Bool.eq_false_iff]
    intro isQuad
    have colon := form.isIpv6_text
    rw [isIpv6, decide_eq_true_eq] at colon
    exact colonless_of_isIpv4 isQuad colon
  have built : buildAddress form.text = (WireAddress.ipv6 (groupsToBytes form.parts) (groupsToBytes_length _)).type ::
      (WireAddress.ipv6 (groupsToBytes form.parts) (groupsToBytes_length _)).bytes := by
    rw [buildAddress, notQuad, form.isIpv6_text, form.splitOn_text]
    rfl
  have text : (WireAddress.ipv6 (groupsToBytes form.parts) (groupsToBytes_length _)).text =
      (Ipv6Text.full (codeGroups form.parts) (codeGroups_length _)).text := by
    rw [full_text, WireAddress.text, groupsToBytes_eq]
  rw [roundTrips_iff uuid cmd port (.ipv6 form) built, text, ← form.codeGroups_parts_iff]
  constructor
  · rintro ⟨other, sameText, sameGroups⟩
    rw [← sameGroups]
    exact (Ipv6Text.groups_of_full (codeGroups_length _) codeGroups_lt sameText).symm
  · intro same
    exact ⟨_, rfl, (full_groups (codeGroups_length _) codeGroups_lt).trans same⟩

/-- A header that is built is read back exactly for the destinations that are carried. -/
theorem header_round_trip_iff (uuid : UuidText) (cmd : UInt8) (port : UInt16) (destination : Destination) :
    RoundTrips uuid cmd port destination ↔ destination.Carried := by
  cases destination with
  | ipv4 quad => exact iff_of_true (roundTrips_ipv4 uuid cmd port quad) trivial
  | ipv6 form => exact roundTrips_ipv6 uuid cmd port form
  | domain name size not_quad colonless => exact roundTrips_domain uuid cmd port name size not_quad colonless

/-- `::1` -/
def Ipv6Text.loopback : Ipv6Text where
  left := []
  right := some [⟨['1'], by decide, by decide, List.forall_mem_singleton.mpr (by decide)⟩]
  tail := none
  fits := by decide

def UuidText.sample : UuidText where
  text := "8f7e6d5c-4b3a-4918-8776-655443322110"
  digits_length := by decide +kernel
  digits_hex := List.all_eq_true.mp (by decide +kernel)

/-- `::1` is written as the address `0000:0000:0001:0000:0000:0000:0000:0000`. -/
theorem loopback_lost : Ipv6Text.loopback.text = "::1" ∧ ¬ RoundTrips .sample 1 443 (.ipv6 .loopback) ∧
    (parseVlessHeader (buildVlessHeader { uuid := UuidText.sample.text, cmd := 1, port := 443, address := "::1" })).toOption.map
      (·.address) = some "0000:0000:0001:0000:0000:0000:0000:0000" := by
  refine ⟨by decide +kernel, ?_, by decide +kernel⟩
  rw [roundTrips_ipv6]
  rintro ⟨-, placed⟩
  revert placed
  decide +kernel

end OmniControlPlane.Panel
