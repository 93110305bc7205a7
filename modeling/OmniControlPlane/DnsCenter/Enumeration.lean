import OmniControlPlane.DnsCenter.Cidr

/-! # The enumeration of a range

`parseCidr` computes with 32-bit integers: the base and the block are signed, an index is added as a number, and the
sum becomes unsigned again. What comes out is the block of the address, in ascending order.
-/

namespace OmniControlPlane.DnsCenter.Enumeration

open Lib

/-! ## The arithmetic of the source -/

structure Parsed where
  cidr : String
  ips : List String
deriving DecidableEq, Repr

/-- The groups of the pattern, as numbers. -/
def groups (input : String) : Option (List ℕ × ℕ) := do
  let (address, suffix) ← match (trim input).splitOn '/' with
    | [address] => some (address, none)
    | [address, suffix] => some (address, some suffix)
    | _ => none
  let [a, b, c, d] ← (address.splitOn '.').mapM (number? 3) | none
  let bits ← match suffix with
    | none => some 32
    | some text => number? 2 text
  some ([a, b, c, d], bits)

/-- `(a << 24) | (b << 16) | (c << 8) | d` -/
def packed (a b c d : ℕ) : BitVec 32 :=
  ((BitVec.ofNat 32 a <<< 24 ||| BitVec.ofNat 32 b <<< 16) ||| BitVec.ofNat 32 c <<< 8) ||| BitVec.ofNat 32 d

/-- `(base >>> (32 - prefix)) << (32 - prefix)` -/
def alignedBits (base : BitVec 32) (bits : ℕ) : BitVec 32 :=
  if bits = 0 then 0 else base >>> (32 - bits) <<< (32 - bits)

/-- `(aligned + index) >>> 0`, where `aligned` is signed. -/
def addressAt (aligned : BitVec 32) (index : ℕ) : BitVec 32 := BitVec.ofInt 32 (aligned.toInt + index)

/-- The four bytes of an address, with dots between them. -/
def dottedBits (value : BitVec 32) : String :=
  String.ofList (List.intercalate ['.'] ([value >>> 24 &&& 255, value >>> 16 &&& 255, value >>> 8 &&& 255,
    value &&& 255].map fun byte => Nat.toDigits 10 byte.toNat))

/-- The checks of the groups, and the addresses. -/
def enumerated : List ℕ → ℕ → Option Parsed
  | [a, b, c, d], bits =>
    if [a, b, c, d].any (255 < ·) then none
    else if bits < DNS_SCAN_MIN_PREFIX ∨ 32 < bits then none
    else
      let aligned := alignedBits (packed a b c d) bits
      let ips := (List.range (2 ^ (32 - bits))).map fun index => dottedBits (addressAt aligned index)
      some { cidr := String.ofList ((ips.headD "undefined").toList ++ '/' :: Nat.toDigits 10 bits), ips }
  | _, _ => none

def parseCidr (input : String) : Option Parsed := (groups input).bind fun (octets, bits) => enumerated octets bits

/-! ## Bits and numbers -/

section

variable {a b c d bits : ℕ}

/-- Numbers without common bits -/
theorem or_eq_add {high low : ℕ} (place : ℕ) (multiple : 2 ^ place ∣ high) (below : low < 2 ^ place) :
    high ||| low = high + low := by
  obtain ⟨count, rfl⟩ := multiple
  exact (Nat.two_pow_add_eq_or_of_lt below count).symm

theorem shifted_toNat {octet shift : ℕ} (fits : octet * 2 ^ shift < 2 ^ 32) :
    (BitVec.ofNat 32 octet <<< shift).toNat = octet * 2 ^ shift := by
  have bounded : octet < 2 ^ 32 := Nat.lt_of_le_of_lt (Nat.le_mul_of_pos_right _ (Nat.two_pow_pos _)) fits
  rw [BitVec.toNat_shiftLeft, BitVec.toNat_ofNat, Nat.mod_eq_of_lt bounded, Nat.shiftLeft_eq, Nat.mod_eq_of_lt fits]

theorem packed_toNat (small : ∀ octet ∈ [a, b, c, d], octet ≤ 255) :
    (packed a b c d).toNat = a * 2 ^ 24 + b * 2 ^ 16 + c * 2 ^ 8 + d := by
  simp only [List.forall_mem_cons, List.not_mem_nil, false_implies, implies_true, and_true] at small
  obtain ⟨smallA, smallB, smallC, smallD⟩ := small
  have last : d % 2 ^ 32 = d := Nat.mod_eq_of_lt (by omega)
  have first : a * 2 ^ 24 ||| b * 2 ^ 16 = a * 2 ^ 24 + b * 2 ^ 16 := or_eq_add 24 (by omega) (by omega)
  have second : a * 2 ^ 24 + b * 2 ^ 16 ||| c * 2 ^ 8 = a * 2 ^ 24 + b * 2 ^ 16 + c * 2 ^ 8 :=
    or_eq_add 16 (by omega) (by omega)
  rw [packed, BitVec.toNat_or, BitVec.toNat_or, BitVec.toNat_or, shifted_toNat (by omega), shifted_toNat (by omega),
    shifted_toNat (by omega), BitVec.toNat_ofNat, last, first, second]
  exact or_eq_add 8 (by omega) (by omega)

theorem alignedBits_toNat (base : BitVec 32) (narrow : DNS_SCAN_MIN_PREFIX ≤ bits ∧ bits ≤ 32) :
    (alignedBits base bits).toNat = base.toNat / 2 ^ (32 - bits) * 2 ^ (32 - bits) := by
  have positive : bits ≠ 0 := by
    rintro rfl
    exact absurd narrow.1 (by decide)
  rw [alignedBits, if_neg positive, BitVec.toNat_shiftLeft, BitVec.toNat_ushiftRight, Nat.shiftRight_eq_div_pow,
    Nat.shiftLeft_eq, Nat.mod_eq_of_lt]
  exact Nat.lt_of_le_of_lt (Nat.div_mul_le_self ..) base.isLt

theorem addressAt_toNat {aligned : BitVec 32} {index : ℕ} (fits : aligned.toNat + index < 2 ^ 32) :
    (addressAt aligned index).toNat = aligned.toNat + index := by
  rw [addressAt, BitVec.ofInt_add, BitVec.ofInt_toInt, BitVec.ofInt_natCast, BitVec.toNat_add, BitVec.toNat_ofNat,
    Nat.mod_eq_of_lt (by omega : index < 2 ^ 32), Nat.mod_eq_of_lt fits]

theorem dottedBits_eq (value : BitVec 32) : dottedBits value = dotted value.toNat := by
  have byte (bits : BitVec 32) : (bits &&& 255).toNat = bits.toNat % 256 := by
    rw [BitVec.toNat_and]
    exact Nat.and_two_pow_sub_one_eq_mod bits.toNat 8
  simp only [dottedBits, dotted, octets, List.map_cons, List.map_nil, byte, BitVec.toNat_ushiftRight,
    Nat.shiftRight_eq_div_pow]

theorem ips_alignedRange (small : ∀ octet ∈ [a, b, c, d], octet ≤ 255)
    (narrow : DNS_SCAN_MIN_PREFIX ≤ bits ∧ bits ≤ 32) :
    ((List.range (2 ^ (32 - bits))).map fun index => dottedBits (addressAt (alignedBits (packed a b c d) bits) index)) =
      (alignedRange (a * 2 ^ 24 + b * 2 ^ 16 + c * 2 ^ 8 + d) bits narrow (base_lt small)).ips := by
  have base : (alignedBits (packed a b c d) bits).toNat =
      (alignedRange (a * 2 ^ 24 + b * 2 ^ 16 + c * 2 ^ 8 + d) bits narrow (base_lt small)).base := by
    rw [alignedBits_toNat _ narrow, packed_toNat small, alignedRange]
  have last := (alignedRange (a * 2 ^ 24 + b * 2 ^ 16 + c * 2 ^ 8 + d) bits narrow (base_lt small)).last_le
  rw [ParsedRange.ips]
  refine List.map_congr_left fun index member => ?_
  have inside : index < 2 ^ (32 - bits) := List.mem_range.mp member
  change _ + 2 ^ (32 - bits) ≤ _ at last
  rw [dottedBits_eq, addressAt_toNat (by omega), base]

theorem ips_head (range : ParsedRange) : range.ips.head? = some (dotted range.base) := by
  rw [ParsedRange.ips, List.head?_map, List.head?_range, if_neg (Nat.two_pow_pos _).ne', Option.map_some, Nat.add_zero]

/-- The range in numbers, of the groups of the pattern. -/
def rangeOf (octets : List ℕ) (bits : ℕ) : Option ParsedRange :=
  match octets with
  | [a, b, c, d] =>
    if small : ∀ octet ∈ [a, b, c, d], octet ≤ 255 then
      if narrow : DNS_SCAN_MIN_PREFIX ≤ bits ∧ bits ≤ 32 then
        some (alignedRange (a * 2 ^ 24 + b * 2 ^ 16 + c * 2 ^ 8 + d) bits narrow (base_lt small))
      else none
    else none
  | _ => none

theorem parseCidr_of_groups (input : String) :
    DnsCenter.parseCidr input = (groups input).bind fun (octets, bits) => rangeOf octets bits := by
  have four (address : List Char) (bits : Option ℕ) :
      ((do
        let [a, b, c, d] ← (address.splitOn '.').mapM (number? 3) | none
        let bits ← bits
        some ([a, b, c, d], bits) : Option (List ℕ × ℕ)).bind fun (octets, bits) => rangeOf octets bits) = (do
        let [a, b, c, d] ← (address.splitOn '.').mapM (number? 3) | none
        let bits ← bits
        rangeOf [a, b, c, d] bits) := by
    cases (address.splitOn '.').mapM (number? 3) with
    | none => rfl
    | some octets =>
      simp only [Option.bind_eq_bind, Option.bind_some]
      split
      · cases bits with
        | none => rfl
        | some bits => rfl
      · rfl
  unfold DnsCenter.parseCidr groups
  rcases (trim input).splitOn '/' with _ | ⟨address, _ | ⟨suffix, _ | ⟨more, rest⟩⟩⟩
  · rfl
  · exact (four address (some 32)).symm
  · exact (four address (number? 2 suffix)).symm
  · rfl

theorem enumerated_eq (octets : List ℕ) (bits : ℕ) :
    enumerated octets bits = (rangeOf octets bits).map fun range => ⟨range.cidr, range.ips⟩ := by
  unfold enumerated rangeOf
  split
  · next a b c d =>
    dsimp only
    by_cases small : ∀ octet ∈ [a, b, c, d], octet ≤ 255
    · have none_large : ([a, b, c, d].any (255 < ·)) = false := by
        rw [List.any_eq_false]
        intro octet member
        simpa using small octet member
      rw [dif_pos small, none_large, if_neg Bool.false_ne_true]
      by_cases narrow : DNS_SCAN_MIN_PREFIX ≤ bits ∧ bits ≤ 32
      · rw [dif_pos narrow, if_neg (by omega), Option.map_some, ips_alignedRange small narrow, List.headD_eq_head?_getD,
          ips_head, Option.getD_some]
        rfl
      · rw [dif_neg narrow, if_pos (by omega), Option.map_none]
    · have some_large : ([a, b, c, d].any (255 < ·)) = true := by
        rw [List.any_eq_true]
        push Not at small
        obtain ⟨octet, member, large⟩ := small
        exact ⟨octet, member, decide_eq_true large⟩
      rw [dif_neg small, some_large, if_pos rfl, Option.map_none]
  · next other =>
    split
    · next a b c d => exact absurd rfl (other a b c d)
    · rfl

/-- The source computes the range of the number model. -/
theorem parseCidr_eq (input : String) :
    parseCidr input = (DnsCenter.parseCidr input).map fun range => ⟨range.cidr, range.ips⟩ := by
  rw [parseCidr_of_groups, parseCidr]
  cases groups input with
  | none => rfl
  | some found => exact enumerated_eq found.1 found.2

end

/-! ## The block of an address -/

/-- The addresses that share the network part of an address, in ascending order. -/
structure Block (address bits : ℕ) (values : List ℕ) : Prop where
  length : values.length = 2 ^ (32 - bits)
  ascending : values.Pairwise (· < ·)
  member : ∀ value, value ∈ values ↔ value < 2 ^ 32 ∧ value / 2 ^ (32 - bits) = address / 2 ^ (32 - bits)

theorem block_of_range (range : ParsedRange) {address : ℕ}
    (base : range.base = address / 2 ^ (32 - range.bits) * 2 ^ (32 - range.bits)) :
    Block address range.bits ((List.range (2 ^ (32 - range.bits))).map (range.base + ·)) := by
  have last := range.last_le
  have positive : 0 < 2 ^ (32 - range.bits) := Nat.two_pow_pos _
  constructor
  case length => rw [List.length_map, List.length_range]
  case ascending =>
    rw [List.pairwise_map]
    exact List.pairwise_lt_range.imp fun less => Nat.add_lt_add_left less _
  case member =>
    intro value
    rw [List.mem_map, base]
    generalize 2 ^ (32 - range.bits) = size at *
    constructor
    · rintro ⟨index, inside, rfl⟩
      have inside := List.mem_range.mp inside
      refine ⟨by omega, ?_⟩
      rw [Nat.mul_comm, Nat.mul_add_div positive, Nat.div_eq_of_lt inside, Nat.add_zero]
    · rintro ⟨bounded, same⟩
      refine ⟨value % size, List.mem_range.mpr (Nat.mod_lt _ positive), ?_⟩
      rw [← same, Nat.div_add_mod']

/-- What is accepted is enumerated as the block of its address, and read back from its normal form. -/
theorem parseCidr_block {input : String} {parsed : Parsed} (accepted : parseCidr input = some parsed) :
    ∃ a b c d bits values, groups input = some ([a, b, c, d], bits) ∧ (∀ octet ∈ [a, b, c, d], octet ≤ 255) ∧
      DNS_SCAN_MIN_PREFIX ≤ bits ∧ bits ≤ 32 ∧ Block (a * 2 ^ 24 + b * 2 ^ 16 + c * 2 ^ 8 + d) bits values ∧
      parsed.ips = values.map dotted ∧ parsed.ips.Nodup ∧
      (∃ first, parsed.ips.head? = some first ∧
        parsed.cidr = String.ofList (first.toList ++ '/' :: Nat.toDigits 10 bits)) ∧
      parseCidr parsed.cidr = some parsed := by
  rw [parseCidr_eq, parseCidr_of_groups] at accepted
  obtain ⟨range, found, rfl⟩ := Option.map_eq_some_iff.mp accepted
  obtain ⟨⟨octets, bits⟩, read, ranged⟩ := Option.bind_eq_some_iff.mp found
  dsimp only [rangeOf] at ranged
  split at ranged
  · next a b c d =>
    split at ranged
    · next small =>
      split at ranged
      · next narrow =>
        have same := Option.some.inj ranged
        have block := block_of_range (alignedRange _ bits narrow (base_lt small)) rfl
        refine ⟨a, b, c, d, bits, _, read, small, narrow.1, narrow.2, block, ?_, range.ips_nodup, ?_, ?_⟩
        · rw [← same, ParsedRange.ips, List.map_map]
          rfl
        · refine ⟨dotted range.base, ips_head range, ?_⟩
          rw [← same]
          rfl
        · rw [parseCidr_eq, DnsCenter.parseCidr_cidr, Option.map_some]
      · contradiction
    · contradiction
  · contradiction

/-- A block in the upper half of the addresses, where the base is negative. -/
theorem parseCidr_block_upper : ∃ parsed, parseCidr " 200.1.2.250/31 " = some parsed ∧
    parsed = ⟨"200.1.2.250/31", ["200.1.2.250", "200.1.2.251"]⟩ ∧
    ∃ a b c d bits values, groups " 200.1.2.250/31 " = some ([a, b, c, d], bits) ∧
      Block (a * 2 ^ 24 + b * 2 ^ 16 + c * 2 ^ 8 + d) bits values ∧ parsed.ips = values.map dotted := by
  have accepted : parseCidr " 200.1.2.250/31 " = some ⟨"200.1.2.250/31", ["200.1.2.250", "200.1.2.251"]⟩ := by
    decide +kernel
  obtain ⟨a, b, c, d, bits, values, read, -, -, -, block, ips, -⟩ := parseCidr_block accepted
  exact ⟨_, accepted, rfl, a, b, c, d, bits, values, read, block, ips⟩

end OmniControlPlane.DnsCenter.Enumeration
