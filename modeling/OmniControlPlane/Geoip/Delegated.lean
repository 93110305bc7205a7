import Mathlib.Data.Nat.Digits.Defs
import Mathlib.Data.Set.Operations
import OmniControlPlane.Lib.JavaScript
import OmniControlPlane.Panel.Destination

/-! # The ranges of a registry

A line of the registry is a first address and how many follow it, or an IPv6 prefix. Counts that are no power of two
are left out, and the first address is written before the length of the prefix as it stands, whether or not it is a
multiple of the count.
-/

namespace OmniControlPlane.Geoip

open Lib Lib.JavaScript
open Panel (Quad Ipv6Text)

inductive Family where
  | ipv4
  | ipv6
deriving DecidableEq, Repr

structure IspRange where
  cidr : String
  family : Family
deriving DecidableEq, Repr

def cidrText (start : List Char) (bits : ℕ) : String := String.ofList (start ++ '/' :: Nat.toDigits 10 bits)

section

-- `Math.log2`, whose results the language leaves to implementations
variable (log2 : ℚ → ℚ)

def ipv4Range (start lengthRaw : List Char) : Option IspRange :=
  match numberOfString (String.ofList lengthRaw) with
  | .finite hosts =>
    if hosts ≤ 0 ∨ toInt32 hosts &&& toInt32 (hosts - 1) ≠ 0 then none
    else
      let bits := 32 - log2 hosts
      if bits < 0 ∨ bits > 32 ∨ bits.den ≠ 1 then none else some ⟨cidrText start bits.num.toNat, .ipv4⟩
  | _ => none

def ipv6Range (start lengthRaw : List Char) : Option IspRange :=
  match numberOfString (String.ofList lengthRaw) with
  | .finite bits =>
    if bits.den ≠ 1 ∨ bits < 0 ∨ bits > 128 then none else some ⟨cidrText start bits.num.toNat, .ipv6⟩
  | _ => none

/-- What a line adds, if it is not skipped. -/
def parseLine (line : List Char) : Option IspRange :=
  if line.head? = some '#' ∨ trim (String.ofList line) = [] then none
  else
    match line.splitOn '|' with
    | _ :: cc :: type :: start :: lengthRaw :: _ =>
      if cc ≠ "IR".toList ∨ start = [] ∨ lengthRaw = [] then none
      else if type = "ipv4".toList then ipv4Range log2 start lengthRaw
      else if type = "ipv6".toList then ipv6Range start lengthRaw
      else none
    | _ => none

def parseDelegatedIrnic (text : String) : List IspRange := (text.toList.splitOn '\n').filterMap (parseLine log2)

end

/-! ## Blocks -/

structure Address where
  family : Family
  value : ℕ
deriving DecidableEq, Repr

def Family.width : Family → ℕ
  | .ipv4 => 32
  | .ipv6 => 128

/-- The text is that of an address. -/
def Reads (text : List Char) (address : Address) : Prop :=
  match address.family with
  | .ipv4 => ∃ quad : Quad, quad.text.toList = text ∧ address.value = Nat.ofDigits 256 quad.octets.reverse
  | .ipv6 => ∃ form : Ipv6Text, form.text.toList = text ∧ address.value = Nat.ofDigits 65536 form.groups.reverse

/-- The aligned block of so many addresses that an address is in. -/
def block (address : Address) (size : ℕ) : Set Address :=
  {other | other.family = address.family ∧ other.value / size = address.value / size}

/-- The addresses of a CIDR. -/
def denoted (cidr : String) : Set Address :=
  {other | ∃ start bits address, cidr = cidrText start bits ∧ Reads start address ∧ bits ≤ address.family.width ∧
    other ∈ block address (2 ^ (address.family.width - bits))}

/-- A line about an Iranian range, by its fields. -/
def IrLine (text : String) (type start length : List Char) : Prop :=
  ∃ line ∈ text.toList.splitOn '\n', line.head? ≠ some '#' ∧
    ∃ registry rest, line.splitOn '|' = registry :: "IR".toList :: type :: start :: length :: rest

/-- The blocks of the IPv4 lines whose counts are powers of two. -/
def ipv4Blocks (text : String) : Set Address :=
  {other | ∃ start length value exponent, IrLine text "ipv4".toList start length ∧ Reads start ⟨.ipv4, value⟩ ∧
    numberOfString (String.ofList length) = .finite (2 ^ exponent) ∧ exponent ≤ 32 ∧
    other ∈ block ⟨.ipv4, value⟩ (2 ^ exponent)}

/-- The prefixes of the IPv6 lines. -/
def ipv6Blocks (text : String) : Set Address :=
  {other | ∃ start length value, ∃ bits : ℕ, IrLine text "ipv6".toList start length ∧ Reads start ⟨.ipv6, value⟩ ∧
    numberOfString (String.ofList length) = .finite bits ∧ bits ≤ 128 ∧
    other ∈ block ⟨.ipv6, value⟩ (2 ^ (128 - bits))}

/-- What the returned ranges denote. -/
def covered (log2 : ℚ → ℚ) (text : String) : Set Address :=
  {other | ∃ range ∈ parseDelegatedIrnic log2 text, other ∈ denoted range.cidr}

/-- The addresses that the IPv4 lines count. -/
def counted (text : String) : Set Address :=
  {other | ∃ start length value, ∃ count : ℕ, IrLine text "ipv4".toList start length ∧ Reads start ⟨.ipv4, value⟩ ∧
    numberOfString (String.ofList length) = .finite count ∧ 0 < count ∧
    other.family = .ipv4 ∧ value ≤ other.value ∧ other.value < value + count}

/-- No address is missing or added, and every IPv4 range starts where its block does. -/
def Complete (log2 : ℚ → ℚ) (text : String) : Prop :=
  covered log2 text = counted text ∪ ipv6Blocks text ∧
    ∀ range ∈ parseDelegatedIrnic log2 text, range.family = .ipv4 → ∀ start bits value,
      range.cidr = cidrText start bits → Reads start ⟨.ipv4, value⟩ → 2 ^ (32 - bits) ∣ value

/-- Counts are whole where they are numbers, prefixes have a length, and no line has an address of the other family. -/
structure Regular (text : String) : Prop where
  counts : ∀ start length, IrLine text "ipv4".toList start length →
    ∀ value, numberOfString (String.ofList length) = .finite value → value.den = 1
  lengths : ∀ start length, IrLine text "ipv6".toList start length → trim (String.ofList length) ≠ []
  ipv4 : ∀ start length value, IrLine text "ipv4".toList start length → ¬ Reads start ⟨.ipv6, value⟩
  ipv6 : ∀ start length value, IrLine text "ipv6".toList start length → ¬ Reads start ⟨.ipv4, value⟩

/-! ## Lines -/

theorem cidrText_inj {start start' : List Char} {bits bits' : ℕ} (same : cidrText start bits = cidrText start' bits') :
    start = start' ∧ bits = bits' := by
  obtain ⟨rfl, digits⟩ := append_cons_inj (not_mem_toDigits (by decide) bits)
    (not_mem_toDigits (by decide) bits') (String.ofList_injective same)
  have value := congrArg (Nat.ofDigitChars 10 · 0) digits
  simp only [Nat.ofDigitChars_ten_toDigits] at value
  exact ⟨rfl, value⟩

theorem mem_denoted_iff {start : List Char} {bits : ℕ} {other : Address} : other ∈ denoted (cidrText start bits) ↔
    ∃ address, Reads start address ∧ bits ≤ address.family.width ∧
      other ∈ block address (2 ^ (address.family.width - bits)) := by
  constructor
  · rintro ⟨start', bits', address, same, reads, narrow, member⟩
    obtain ⟨rfl, rfl⟩ := cidrText_inj same
    exact ⟨address, reads, narrow, member⟩
  · rintro ⟨address, reads, narrow, member⟩
    exact ⟨start, bits, address, rfl, reads, narrow, member⟩

section

variable {log2 : ℚ → ℚ} {line : List Char} {range : IspRange}

/-- A line adds a range by its fields. -/
theorem parseLine_some_iff : parseLine log2 line = some range ↔ line.head? ≠ some '#' ∧
    ∃ registry type start length rest, line.splitOn '|' = registry :: "IR".toList :: type :: start :: length :: rest ∧
      start ≠ [] ∧ length ≠ [] ∧ (type = "ipv4".toList ∧ ipv4Range log2 start length = some range ∨
        type = "ipv6".toList ∧ ipv6Range start length = some range) := by
  constructor
  · intro parsed
    rw [parseLine] at parsed
    split at parsed
    · contradiction
    · next told =>
      rw [not_or] at told
      split at parsed
      · next registry cc type start length rest fields =>
        split at parsed
        · contradiction
        · next given =>
          simp only [not_or, not_not] at given
          obtain ⟨rfl, begins, counted⟩ := given
          refine ⟨told.1, registry, type, start, length, rest, fields, begins, counted, ?_⟩
          split at parsed
          · next same => exact .inl ⟨same, parsed⟩
          · split at parsed
            · next same => exact .inr ⟨same, parsed⟩
            · contradiction
      · contradiction
  · rintro ⟨told, registry, type, start, length, rest, fields, begins, counted, kind⟩
    have member : '|' ∈ line := by
      by_contra absent
      rw [List.splitOn_eq_singleton absent] at fields
      have sizes := congrArg List.length fields
      simp at sizes
    rw [parseLine, if_neg (not_or.mpr ⟨told, trim_ne_nil member (by decide)⟩), fields]
    simp only
    rw [if_neg (by simp [begins, counted])]
    rcases kind with ⟨rfl, parsed⟩ | ⟨rfl, parsed⟩
    · rw [if_pos rfl, parsed]
    · rw [if_neg (by decide +kernel), if_pos rfl, parsed]

theorem mem_parse_iff {text : String} : range ∈ parseDelegatedIrnic log2 text ↔
    ∃ start length, start ≠ [] ∧ length ≠ [] ∧
      (IrLine text "ipv4".toList start length ∧ ipv4Range log2 start length = some range ∨
        IrLine text "ipv6".toList start length ∧ ipv6Range start length = some range) := by
  rw [parseDelegatedIrnic, List.mem_filterMap]
  constructor
  · rintro ⟨line, listed, parsed⟩
    obtain ⟨told, registry, type, start, length, rest, fields, begins, counted, kind⟩ := parseLine_some_iff.mp parsed
    refine ⟨start, length, begins, counted, ?_⟩
    rcases kind with ⟨rfl, parsed⟩ | ⟨rfl, parsed⟩
    · exact .inl ⟨⟨line, listed, told, registry, rest, fields⟩, parsed⟩
    · exact .inr ⟨⟨line, listed, told, registry, rest, fields⟩, parsed⟩
  · rintro ⟨start, length, begins, counted, ⟨⟨line, listed, told, registry, rest, fields⟩, parsed⟩ |
      ⟨⟨line, listed, told, registry, rest, fields⟩, parsed⟩⟩
    · exact ⟨line, listed, parseLine_some_iff.mpr
        ⟨told, registry, _, start, length, rest, fields, begins, counted, .inl ⟨rfl, parsed⟩⟩⟩
    · exact ⟨line, listed, parseLine_some_iff.mpr
        ⟨told, registry, _, start, length, rest, fields, begins, counted, .inr ⟨rfl, parsed⟩⟩⟩

/-- A whole number that is not negative. -/
theorem exists_natCast {value : ℚ} (whole : value.den = 1) (low : 0 ≤ value) : ∃ count : ℕ, value = count := by
  have integral : (value.num : ℚ) = value := Rat.coe_int_num_of_den_eq_one whole
  refine ⟨value.num.toNat, ?_⟩
  have lifted : ((value.num.toNat : ℕ) : ℤ) = value.num := Int.toNat_of_nonneg (Rat.num_nonneg.mpr low)
  rw [← integral, ← lifted]
  exact Int.cast_natCast _

theorem ipv6Range_some_iff {start length : List Char} : ipv6Range start length = some range ↔
    ∃ bits : ℕ, bits ≤ 128 ∧ numberOfString (String.ofList length) = .finite bits ∧
      range = ⟨cidrText start bits, .ipv6⟩ := by
  rw [ipv6Range]
  split
  · next value read =>
    rw [read]
    constructor
    · intro parsed
      split at parsed
      · contradiction
      · next fits =>
        simp only [not_or, not_not, not_lt] at fits
        obtain ⟨whole, low, high⟩ := fits
        obtain ⟨bits, rfl⟩ := exists_natCast whole low
        rw [Rat.num_natCast, Int.toNat_natCast] at parsed
        refine ⟨bits, ?_, rfl, (Option.some.inj parsed).symm⟩
        exact_mod_cast high
    · rintro ⟨bits, narrow, same, rfl⟩
      obtain rfl : value = bits := JsNumber.finite.inj same
      have most : (bits : ℚ) ≤ 128 := by exact_mod_cast narrow
      rw [if_neg]
      · rw [Rat.num_natCast, Int.toNat_natCast]
      · simp only [Rat.den_natCast, not_or, not_not, not_lt]
        exact ⟨trivial, Nat.cast_nonneg bits, most⟩
  · next other =>
    constructor
    · exact fun parsed => nomatch parsed
    · rintro ⟨bits, -, read, -⟩
      exact absurd read (other _)

section

-- what is relied on of `Math.log2`
variable (powers : ∀ exponent : ℕ, exponent ≤ 32 → log2 (2 ^ exponent) = exponent)
  (above : ∀ count : ℕ, 2 ^ 32 < count → 32 < log2 count)

include powers above in
theorem ipv4Range_some_iff {start length : List Char}
    (whole : ∀ value, numberOfString (String.ofList length) = .finite value → value.den = 1) :
    ipv4Range log2 start length = some range ↔ ∃ exponent ≤ 32, numberOfString (String.ofList length) = .finite (2 ^ exponent) ∧
      range = ⟨cidrText start (32 - exponent), .ipv4⟩ := by
  rw [ipv4Range]
  split
  · next value read =>
    rw [read]
    simp only [JsNumber.finite.injEq]
    rcases le_or_gt value 0 with low | positive
    · rw [if_pos (.inl low)]
      refine iff_of_false nofun ?_
      rintro ⟨exponent, -, rfl, -⟩
      exact absurd low (not_le.mpr (by positivity))
    · obtain ⟨count, rfl⟩ := exists_natCast (whole value read) positive.le
      have counted : 0 < count := by exact_mod_cast positive
      have cast {exponent : ℕ} : (count : ℚ) = 2 ^ exponent ↔ count = 2 ^ exponent := by
        exact_mod_cast Iff.rfl
      simp only [cast]
      rcases le_or_gt count (2 ^ 32) with small | large
      · by_cases power : count.isPowerOfTwo
        · obtain ⟨exponent, rfl⟩ := power
          have narrow : exponent ≤ 32 := (Nat.pow_le_pow_iff_right (by decide)).mp small
          have bits : 32 - log2 ((2 ^ exponent : ℕ) : ℚ) = ((32 - exponent : ℕ) : ℚ) := by
            rw [Nat.cast_pow, Nat.cast_ofNat, powers exponent narrow, Nat.cast_sub narrow, Nat.cast_ofNat]
          have most : ((32 - exponent : ℕ) : ℚ) ≤ 32 := by exact_mod_cast Nat.sub_le 32 exponent
          rw [if_neg (by
            rw [not_or, not_le, not_not]
            exact ⟨positive, (toInt32_and_pred counted small).mpr ⟨exponent, rfl⟩⟩)]
          simp only [bits]
          rw [if_neg (by
            simp only [Rat.den_natCast, not_or, not_not, not_lt]
            exact ⟨Nat.cast_nonneg _, most, trivial⟩), Rat.num_natCast, Int.toNat_natCast]
          constructor
          · exact fun parsed => ⟨exponent, narrow, rfl, (Option.some.inj parsed).symm⟩
          · rintro ⟨other, -, same, rfl⟩
            obtain rfl : exponent = other := Nat.pow_right_injective (le_refl 2) same
            rfl
        · rw [if_pos (.inr fun bits => power ((toInt32_and_pred counted small).mp bits))]
          refine iff_of_false nofun ?_
          rintro ⟨exponent, -, same, -⟩
          exact power ⟨exponent, same⟩
      · refine iff_of_false ?_ ?_
        · have negative : 32 - log2 (count : ℚ) < 0 := sub_neg.mpr (above count large)
          split
          · exact nofun
          · rw [if_pos (.inl negative)]
            exact nofun
        · rintro ⟨exponent, narrow, rfl, -⟩
          exact absurd large (not_lt.mpr (Nat.pow_le_pow_right (by decide) narrow))
  · next other =>
    refine iff_of_false nofun ?_
    rintro ⟨exponent, -, read, -⟩
    exact absurd read (other _)

end

theorem reads_ne_nil {start : List Char} {address : Address} (reads : Reads start address) : start ≠ [] := by
  rintro rfl
  obtain ⟨family, value⟩ := address
  cases family with
  | ipv4 =>
    obtain ⟨quad, text, -⟩ := reads
    have parts := quad.parts_length
    rw [← quad.splitOn_text, text] at parts
    contradiction
  | ipv6 =>
    obtain ⟨form, text, -⟩ := reads
    have colon := Panel.Ipv6Text.isIpv6_text form
    rw [Panel.isIpv6, text] at colon
    contradiction

/-- The octets of a text are its own. -/
theorem reads_ipv4_unique {start : List Char} {value value' : ℕ} (reads : Reads start ⟨.ipv4, value⟩)
    (reads' : Reads start ⟨.ipv4, value'⟩) : value = value' := by
  obtain ⟨quad, text, rfl⟩ := reads
  obtain ⟨quad', text', rfl⟩ := reads'
  have parts : quad.parts = quad'.parts := by rw [← quad.splitOn_text, ← quad'.splitOn_text, text, text']
  rw [Quad.octets, Quad.octets, parts]

/-- The aligned block of an address is the run that starts with it exactly where it is the first of its block. -/
theorem block_eq_iff {value size : ℕ} (positive : 0 < size) : size ∣ value ↔ block ⟨.ipv4, value⟩ size =
    {other | other.family = .ipv4 ∧ value ≤ other.value ∧ other.value < value + size} := by
  constructor
  · rintro ⟨index, rfl⟩
    ext other
    simp only [block, Set.mem_ofPred_eq, Nat.mul_div_cancel_left index positive, Nat.div_eq_iff positive]
    apply and_congr_right
    intro _
    rw [Nat.mul_comm index size]
    omega
  · intro same
    have first : (⟨.ipv4, size * (value / size)⟩ : Address) ∈ block ⟨.ipv4, value⟩ size :=
      ⟨rfl, Nat.mul_div_cancel_left _ positive⟩
    rw [same] at first
    have least := first.2.1
    exact Dvd.intro _ (Nat.le_antisymm (Nat.mul_div_le value size) least)

section

variable {text : String} (regular : Regular text)

include regular in
/-- What is written before the length of an IPv4 prefix is an IPv4 address, if it is one at all. -/
theorem denoted_ipv4 {start length : List Char} {exponent : ℕ} (listed : IrLine text "ipv4".toList start length)
    (narrow : exponent ≤ 32) (other : Address) : other ∈ denoted (cidrText start (32 - exponent)) ↔
      ∃ value, Reads start ⟨.ipv4, value⟩ ∧ other ∈ block ⟨.ipv4, value⟩ (2 ^ exponent) := by
  rw [mem_denoted_iff]
  have back : 32 - (32 - exponent) = exponent := by omega
  constructor
  · rintro ⟨⟨family, value⟩, reads, -, member⟩
    cases family with
    | ipv4 =>
      simp only [Family.width, back] at member
      exact ⟨value, reads, member⟩
    | ipv6 => exact absurd reads (regular.ipv4 start length value listed)
  · rintro ⟨value, reads, member⟩
    refine ⟨⟨.ipv4, value⟩, reads, Nat.sub_le 32 exponent, ?_⟩
    simp only [Family.width, back]
    exact member

include regular in
theorem denoted_ipv6 {start length : List Char} {bits : ℕ} (listed : IrLine text "ipv6".toList start length)
    (narrow : bits ≤ 128) (other : Address) : other ∈ denoted (cidrText start bits) ↔
      ∃ value, Reads start ⟨.ipv6, value⟩ ∧ other ∈ block ⟨.ipv6, value⟩ (2 ^ (128 - bits)) := by
  rw [mem_denoted_iff]
  constructor
  · rintro ⟨⟨family, value⟩, reads, -, member⟩
    cases family with
    | ipv4 => exact absurd reads (regular.ipv6 start length value listed)
    | ipv6 => exact ⟨value, reads, member⟩
  · rintro ⟨value, reads, member⟩
    exact ⟨⟨.ipv6, value⟩, reads, narrow, member⟩

end

end

/-- The ranges are the aligned blocks of the IPv4 lines that count a power of two, and the IPv6 prefixes. The block of a
line is what it counts exactly where its first address is a multiple of the count. -/
theorem parseDelegatedIrnic_covers {log2 : ℚ → ℚ} (powers : ∀ exponent : ℕ, exponent ≤ 32 → log2 (2 ^ exponent) = exponent)
    (above : ∀ count : ℕ, 2 ^ 32 < count → 32 < log2 count) {text : String} (regular : Regular text) :
    covered log2 text = ipv4Blocks text ∪ ipv6Blocks text ∧
      ∀ range ∈ parseDelegatedIrnic log2 text, range.family = .ipv4 → ∃ start length, ∃ exponent ≤ 32,
        IrLine text "ipv4".toList start length ∧ numberOfString (String.ofList length) = .finite (2 ^ exponent) ∧
        range.cidr = cidrText start (32 - exponent) ∧ ∀ value, Reads start ⟨.ipv4, value⟩ →
          (2 ^ exponent ∣ value ↔ denoted range.cidr =
            {other | other.family = .ipv4 ∧ value ≤ other.value ∧ other.value < value + 2 ^ exponent}) := by
  have ipv4 {start length : List Char} {range : IspRange} (listed : IrLine text "ipv4".toList start length) :=
    @ipv4Range_some_iff log2 range powers above start length (regular.counts start length listed)
  constructor
  · ext other
    constructor
    · rintro ⟨range, parsed, member⟩
      obtain ⟨start, length, -, -, ⟨listed, made⟩ | ⟨listed, made⟩⟩ := mem_parse_iff.mp parsed
      · obtain ⟨exponent, narrow, read, rfl⟩ := (ipv4 listed).mp made
        obtain ⟨value, reads, inside⟩ := (denoted_ipv4 regular listed narrow other).mp member
        exact .inl ⟨start, length, value, exponent, listed, reads, read, narrow, inside⟩
      · obtain ⟨bits, narrow, read, rfl⟩ := ipv6Range_some_iff.mp made
        obtain ⟨value, reads, inside⟩ := (denoted_ipv6 regular listed narrow other).mp member
        exact .inr ⟨start, length, value, bits, listed, reads, read, narrow, inside⟩
    · rintro (⟨start, length, value, exponent, listed, reads, read, narrow, inside⟩ |
        ⟨start, length, value, bits, listed, reads, read, narrow, inside⟩)
      · have filled : length ≠ [] := by
          rintro rfl
          have zero : numberOfString (String.ofList []) = .finite 0 := by decide +kernel
          have power : (2 : ℚ) ^ exponent = 0 := JsNumber.finite.inj (read.symm.trans zero)
          exact absurd power (by positivity)
        refine ⟨⟨cidrText start (32 - exponent), .ipv4⟩, mem_parse_iff.mpr ⟨start, length, reads_ne_nil reads, filled,
          .inl ⟨listed, ?_⟩⟩, ?_⟩
        · exact (ipv4 listed).mpr ⟨exponent, narrow, read, rfl⟩
        · exact (denoted_ipv4 regular listed narrow other).mpr ⟨value, reads, inside⟩
      · have filled : length ≠ [] := by
          rintro rfl
          exact regular.lengths start [] listed rfl
        refine ⟨⟨cidrText start bits, .ipv6⟩, mem_parse_iff.mpr ⟨start, length, reads_ne_nil reads, filled,
          .inr ⟨listed, ?_⟩⟩, ?_⟩
        · exact ipv6Range_some_iff.mpr ⟨bits, narrow, read, rfl⟩
        · exact (denoted_ipv6 regular listed narrow other).mpr ⟨value, reads, inside⟩
  · intro range parsed family
    obtain ⟨start, length, -, -, ⟨listed, made⟩ | ⟨listed, made⟩⟩ := mem_parse_iff.mp parsed
    · obtain ⟨exponent, narrow, read, rfl⟩ := (ipv4 listed).mp made
      refine ⟨start, length, exponent, narrow, listed, read, rfl, fun value reads => ?_⟩
      have exact : denoted (cidrText start (32 - exponent)) = block ⟨.ipv4, value⟩ (2 ^ exponent) := by
        ext other
        rw [denoted_ipv4 regular listed narrow]
        constructor
        · rintro ⟨value', reads', member⟩
          exact reads_ipv4_unique reads reads' ▸ member
        · exact fun member => ⟨value, reads, member⟩
      rw [exact]
      exact block_eq_iff (Nat.two_pow_pos exponent)
    · obtain ⟨bits, -, -, rfl⟩ := ipv6Range_some_iff.mp made
      contradiction

namespace Sample

/-- A logarithm that is exact on powers of two, and between two of them elsewhere -/
def log2 (value : ℚ) : ℚ := Nat.log2 value.num.toNat + if value.num.toNat.isPowerOfTwo then 0 else 1 / 2

theorem log2_natCast (value : ℕ) : log2 value = Nat.log2 value + if value.isPowerOfTwo then 0 else 1 / 2 := by
  rw [log2, Rat.num_natCast, Int.toNat_natCast]

theorem log2_pow (exponent : ℕ) : log2 (2 ^ exponent) = exponent := by
  have power : ((2 : ℚ) ^ exponent) = ((2 ^ exponent : ℕ) : ℚ) := by rw [Nat.cast_pow, Nat.cast_ofNat]
  rw [power, log2_natCast, Nat.log2_two_pow, if_pos ⟨exponent, rfl⟩, add_zero]

theorem lt_log2 (count : ℕ) (large : 2 ^ 32 < count) : 32 < log2 count := by
  by_cases power : count.isPowerOfTwo
  · obtain ⟨exponent, rfl⟩ := power
    have more : 32 < exponent := (Nat.pow_lt_pow_iff_right (by decide)).mp large
    rw [Nat.cast_pow, Nat.cast_ofNat, log2_pow]
    exact_mod_cast more
  · have least : 32 ≤ Nat.log2 count := (Nat.le_log2 (by omega)).mpr large.le
    have cast : (32 : ℚ) ≤ Nat.log2 count := by exact_mod_cast least
    rw [log2_natCast, if_neg power]
    linarith

/-- An aligned range, one between two blocks, and an IPv6 prefix -/
def text : String :=
  "apnic|IR|ipv4|5.144.0.0|8192\napnic|IR|ipv4|10.0.1.0|512\nripencc|IR|ipv6|2a00:1d34::|32"

/-- A range of three blocks -/
def wide : String := "apnic|IR|ipv4|9.9.9.0|768|20140101|allocated"

/-- A range between two blocks -/
def straddling : String := "apnic|IR|ipv4|10.0.1.0|512|20140101|allocated"

theorem fields {type start length : List Char} (listed : IrLine text type start length) :
    (type = "ipv4".toList ∧ (start = "5.144.0.0".toList ∧ length = "8192".toList ∨
      start = "10.0.1.0".toList ∧ length = "512".toList)) ∨
    type = "ipv6".toList ∧ start = "2a00:1d34::".toList ∧ length = "32".toList := by
  obtain ⟨line, member, -, registry, rest, fields⟩ := listed
  have table : ((text.toList.splitOn '\n').map (·.splitOn '|')).filter (fun parts => parts[1]? = some "IR".toList) = [
      ["apnic".toList, "IR".toList, "ipv4".toList, "5.144.0.0".toList, "8192".toList],
      ["apnic".toList, "IR".toList, "ipv4".toList, "10.0.1.0".toList, "512".toList],
      ["ripencc".toList, "IR".toList, "ipv6".toList, "2a00:1d34::".toList, "32".toList]] := by decide +kernel
  have parsed : line.splitOn '|' ∈ ((text.toList.splitOn '\n').map (·.splitOn '|')).filter
      (fun parts => parts[1]? = some "IR".toList) :=
    List.mem_filter.mpr ⟨List.mem_map_of_mem member, by rw [fields]; exact decide_eq_true rfl⟩
  rw [table, fields] at parsed
  simp only [List.mem_cons, List.not_mem_nil, or_false, List.cons.injEq] at parsed
  rcases parsed with ⟨-, -, rfl, rfl, rfl, -⟩ | ⟨-, -, rfl, rfl, rfl, -⟩ | ⟨-, -, rfl, rfl, rfl, -⟩
  · exact .inl ⟨rfl, .inl ⟨rfl, rfl⟩⟩
  · exact .inl ⟨rfl, .inr ⟨rfl, rfl⟩⟩
  · exact .inr ⟨rfl, rfl, rfl⟩

theorem regular : Regular text := by
  have other : "ipv6".toList ≠ "ipv4".toList := by decide +kernel
  have ipv4 {start length : List Char} (listed : IrLine text "ipv4".toList start length) :=
    ((fields listed).resolve_right fun same => other same.1.symm).2
  have ipv6 {start length : List Char} (listed : IrLine text "ipv6".toList start length) :=
    ((fields listed).resolve_left fun same => other same.1).2
  constructor
  · intro start length listed value read
    have whole : numberOfString (String.ofList "8192".toList) = .finite 8192 ∧
        numberOfString (String.ofList "512".toList) = .finite 512 := by decide +kernel
    rcases ipv4 listed with ⟨-, rfl⟩ | ⟨-, rfl⟩
    · obtain rfl := JsNumber.finite.inj (whole.1.symm.trans read)
      rfl
    · obtain rfl := JsNumber.finite.inj (whole.2.symm.trans read)
      rfl
  · intro start length listed
    obtain ⟨-, rfl⟩ := ipv6 listed
    decide +kernel
  · rintro start length value listed ⟨form, same, -⟩
    have colon := Panel.Ipv6Text.isIpv6_text form
    rw [Panel.isIpv6, same] at colon
    rcases ipv4 listed with ⟨rfl, -⟩ | ⟨rfl, -⟩ <;> revert colon <;> decide +kernel
  · rintro start length value listed ⟨quad, same, -⟩
    have colonless := Panel.colonless_of_isIpv4 (Panel.isIpv4_quad quad)
    rw [same, (ipv6 listed).1] at colonless
    exact absurd (by decide +kernel) colonless

end Sample

theorem parseDelegatedIrnic_covers_lines : covered Sample.log2 Sample.text = ipv4Blocks Sample.text ∪ ipv6Blocks Sample.text :=
  (parseDelegatedIrnic_covers (fun exponent _ => Sample.log2_pow exponent) Sample.lt_log2 Sample.regular).1

/-- A count of 768 is left out, and 512 addresses from 10.0.1.0 on are read as those from 10.0.0.0 on. -/
theorem odd_counts_incomplete : ¬ Complete Sample.log2 Sample.wide ∧ ¬ Complete Sample.log2 Sample.straddling := by
  constructor
  · rintro ⟨all, -⟩
    have nothing : parseDelegatedIrnic Sample.log2 Sample.wide = [] := by decide +kernel
    have member : (⟨.ipv4, 151587072⟩ : Address) ∈ counted Sample.wide := by
      refine ⟨"9.9.9.0".toList, "768".toList, 151587072, 768, ?_, ?_, by decide +kernel, by decide, rfl, le_refl _, by decide⟩
      · exact ⟨Sample.wide.toList, by decide +kernel, by decide +kernel, "apnic".toList,
          ["20140101".toList, "allocated".toList], by decide +kernel⟩
      · exact ⟨.ofBytes [9, 9, 9, 0] rfl, by decide +kernel, by decide +kernel⟩
    have held : (⟨.ipv4, 151587072⟩ : Address) ∈ covered Sample.log2 Sample.wide := by
      rw [all]
      exact .inl member
    obtain ⟨range, parsed, -⟩ := held
    rw [nothing] at parsed
    contradiction
  · rintro ⟨-, aligned⟩
    have parsed : parseDelegatedIrnic Sample.log2 Sample.straddling = [⟨cidrText "10.0.1.0".toList 23, .ipv4⟩] := by
      decide +kernel
    have divides := aligned ⟨cidrText "10.0.1.0".toList 23, .ipv4⟩ (parsed ▸ List.mem_singleton_self _) rfl
      "10.0.1.0".toList 23 167772416 rfl
      ⟨.ofBytes [10, 0, 1, 0] rfl, by decide +kernel, by decide +kernel⟩
    revert divides
    decide

end OmniControlPlane.Geoip
