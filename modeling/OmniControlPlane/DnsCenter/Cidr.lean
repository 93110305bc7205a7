import Mathlib.Algebra.Order.Group.Nat
import Mathlib.Data.List.Nodup
import OmniControlPlane.Lib.Text

/-! # Scan ranges

A range is an aligned block of at most 256 IPv4 addresses. `parseCidr` reads it from the text of a
chat message, and reads the normal form that is stored back as the same range.
-/

namespace OmniControlPlane.DnsCenter

open Lib

/-- At most 256 addresses per range. -/
def DNS_SCAN_MIN_PREFIX : ℕ := 24

/-- An aligned block: its first address as a number, and the length of its network part. -/
structure ParsedRange where
  base : ℕ
  bits : ℕ
  narrow : DNS_SCAN_MIN_PREFIX ≤ bits ∧ bits ≤ 32
  aligned : 2 ^ (32 - bits) ∣ base
  bounded : base < 2 ^ 32
deriving DecidableEq, Repr

def octets (value : ℕ) : List ℕ := [value / 2 ^ 24 % 256, value / 2 ^ 16 % 256, value / 2 ^ 8 % 256, value % 256]

/-- The address in dotted form. -/
def dotted (value : ℕ) : String := String.ofList (List.intercalate ['.'] ((octets value).map (Nat.toDigits 10)))

namespace ParsedRange

variable (range : ParsedRange)

/-- The addresses in scanning order. -/
def ips : List String := (List.range (2 ^ (32 - range.bits))).map fun index => dotted (range.base + index)

/-- The normal form that is stored. -/
def cidr : String := String.ofList ((dotted range.base).toList ++ '/' :: Nat.toDigits 10 range.bits)

end ParsedRange

/-- `\d{1,most}` and its `Number`. -/
def number? (most : ℕ) (text : List Char) : Option ℕ :=
  if text ≠ [] ∧ text.length ≤ most ∧ text.all (·.isDigit) then some (Nat.ofDigitChars 10 text 0) else none

theorem base_lt {a b c d : ℕ} (small : ∀ octet ∈ [a, b, c, d], octet ≤ 255) :
    a * 2 ^ 24 + b * 2 ^ 16 + c * 2 ^ 8 + d < 2 ^ 32 := by
  simp only [List.forall_mem_cons, List.not_mem_nil, false_implies, implies_true, and_true] at small
  omega

/-- The block of an address. -/
def alignedRange (base bits : ℕ) (narrow : DNS_SCAN_MIN_PREFIX ≤ bits ∧ bits ≤ 32) (bounded : base < 2 ^ 32) :
    ParsedRange where
  base := base / 2 ^ (32 - bits) * 2 ^ (32 - bits)
  bits := bits
  narrow := narrow
  aligned := Nat.dvd_mul_left ..
  bounded := Nat.lt_of_le_of_lt (Nat.div_mul_le_self ..) bounded

/-- Accepts «a.b.c.d» or «a.b.c.d/24../32»; anything wider is rejected. -/
def parseCidr (input : String) : Option ParsedRange := do
  let (address, suffix) ← match (trim input).splitOn '/' with
    | [address] => some (address, none)
    | [address, suffix] => some (address, some suffix)
    | _ => none
  let [a, b, c, d] ← (address.splitOn '.').mapM (number? 3) | none
  let bits ← match suffix with
    | none => some 32
    | some text => number? 2 text
  if small : ∀ octet ∈ [a, b, c, d], octet ≤ 255 then
    if narrow : DNS_SCAN_MIN_PREFIX ≤ bits ∧ bits ≤ 32 then
      some (alignedRange (a * 2 ^ 24 + b * 2 ^ 16 + c * 2 ^ 8 + d) bits narrow (base_lt small))
    else none
  else none

/-! ## The normal form is read back -/

theorem number?_toDigits {most number : ℕ} (short : number < 10 ^ most) (positive : 0 < most) :
    number? most (Nat.toDigits 10 number) = some number := by
  rw [number?, if_pos, Nat.ofDigitChars_ten_toDigits]
  refine ⟨Nat.toDigits_ne_nil, ?_, ?_⟩
  · exact (Nat.length_toDigits_le_iff (by decide) positive).mpr short
  · exact List.all_eq_true.mpr fun char member => Nat.isDigit_of_mem_toDigits (by decide) (by decide) member

theorem splitOn_dotted (value : ℕ) : (dotted value).toList.splitOn '.' = (octets value).map (Nat.toDigits 10) := by
  rw [dotted, String.toList_ofList]
  refine List.splitOn_intercalate '.' (fun part member => ?_) (by simp [octets])
  obtain ⟨octet, -, rfl⟩ := List.mem_map.mp member
  exact not_mem_toDigits (by decide) octet

theorem mem_dotted {value : ℕ} {char : Char} (member : char ∈ (dotted value).toList) :
    char = '.' ∨ char.isDigit = true := by
  have digit {octet : ℕ} (member : char ∈ Nat.toDigits 10 octet) : char.isDigit = true :=
    Nat.isDigit_of_mem_toDigits (by decide) (by decide) member
  simp only [dotted, octets, String.toList_ofList, List.map_cons, List.map_nil, List.intercalate_cons_cons,
    List.intercalate_singleton, List.mem_append, List.mem_singleton] at member
  grind

theorem octets_lt (value : ℕ) : ∀ octet ∈ octets value, octet < 256 := by
  simp only [octets, List.forall_mem_cons, List.not_mem_nil, false_implies, implies_true, and_true]
  omega

theorem mapM_octets (value : ℕ) : ((octets value).map (Nat.toDigits 10)).mapM (number? 3) = some (octets value) := by
  have read {octet : ℕ} (member : octet ∈ octets value) : number? 3 (Nat.toDigits 10 octet) = some octet :=
    number?_toDigits (Nat.lt_trans (octets_lt value octet member) (by decide)) (by decide)
  simp only [octets, List.mem_cons] at read
  simp only [octets, List.map_cons, List.map_nil, List.mapM_cons, List.mapM_nil]
  rw [read (.inl rfl), read (.inr (.inl rfl)), read (.inr (.inr (.inl rfl))), read (.inr (.inr (.inr (.inl rfl))))]
  rfl

/-- An address is read off its dotted form. -/
theorem dotted_injective {first second : ℕ} (small : first < 2 ^ 32) (small' : second < 2 ^ 32)
    (same : dotted first = dotted second) : first = second := by
  have parts := congrArg (fun text : String => (text.toList.splitOn '.').mapM (number? 3)) same
  simp only [splitOn_dotted, mapM_octets, Option.some.injEq] at parts
  simp only [octets, List.cons.injEq, and_true] at parts
  omega

namespace ParsedRange

variable (range : ParsedRange)

@[simp] theorem ips_length : range.ips.length = 2 ^ (32 - range.bits) := by
  rw [ips, List.length_map, List.length_range]

/-- The block ends within the address space. -/
theorem last_le : range.base + 2 ^ (32 - range.bits) ≤ 2 ^ 32 := by
  obtain ⟨blocks, base⟩ := range.aligned
  have whole : 2 ^ 32 = 2 ^ (32 - range.bits) * 2 ^ range.bits := by
    rw [← Nat.pow_add, Nat.sub_add_cancel range.narrow.2]
  have before := range.bounded
  rw [base, whole] at before ⊢
  calc 2 ^ (32 - range.bits) * blocks + 2 ^ (32 - range.bits)
      = 2 ^ (32 - range.bits) * (blocks + 1) := (Nat.mul_succ ..).symm
    _ ≤ 2 ^ (32 - range.bits) * 2 ^ range.bits :=
      Nat.mul_le_mul_left _ (Nat.lt_of_mul_lt_mul_left before)

/-- No address stands twice in a range. -/
theorem ips_nodup : range.ips.Nodup := by
  refine List.Nodup.map_on ?_ List.nodup_range
  intro first inFirst second inSecond same
  have last := range.last_le
  have below := List.mem_range.mp inFirst
  have below' := List.mem_range.mp inSecond
  have := dotted_injective (by omega) (by omega) same
  omega

end ParsedRange

theorem not_isJsSpace {char : Char} (printed : char = '.' ∨ char = '/' ∨ char.isDigit = true) : isJsSpace char = false := by
  rcases printed with rfl | rfl | digit
  · decide
  · decide
  · simp only [Char.isDigit, UInt32.le_iff_toNat_le, Bool.and_eq_true, decide_eq_true_eq] at digit
    obtain ⟨low, high⟩ := digit
    have low : 48 ≤ char.toNat := low
    have high : char.toNat ≤ 57 := high
    simp only [isJsSpace, List.mem_cons, List.not_mem_nil, or_false, Bool.or_eq_false_iff, Bool.and_eq_false_iff,
      decide_eq_false_iff_not]
    omega

theorem base_of_octets {base : ℕ} (bounded : base < 2 ^ 32) :
    base / 2 ^ 24 % 256 * 2 ^ 24 + base / 2 ^ 16 % 256 * 2 ^ 16 + base / 2 ^ 8 % 256 * 2 ^ 8 + base % 256 = base := by
  omega

/-- What is stored is read back as the same range. -/
theorem parseCidr_cidr (range : ParsedRange) : parseCidr range.cidr = some range := by
  have characters : range.cidr.toList = (dotted range.base).toList ++ '/' :: Nat.toDigits 10 range.bits :=
    String.toList_ofList
  have trimmed : trim range.cidr = (dotted range.base).toList ++ '/' :: Nat.toDigits 10 range.bits := by
    rw [trim_of_no_space, characters]
    intro char member
    apply not_isJsSpace
    rw [characters] at member
    rcases List.mem_append.mp member with inAddress | inSuffix
    · exact (mem_dotted inAddress).imp_right .inr
    · rcases List.mem_cons.mp inSuffix with rfl | digit
      · exact .inr (.inl rfl)
      · exact .inr (.inr (Nat.isDigit_of_mem_toDigits (by decide) (by decide) digit))
  have noSlash : '/' ∉ (dotted range.base).toList := fun member => by simpa using mem_dotted member
  have split : (trim range.cidr).splitOn '/' = [(dotted range.base).toList, Nat.toDigits 10 range.bits] := by
    rw [trimmed, List.splitOn_append_cons_self_of_not_mem noSlash,
      List.splitOn_eq_singleton (not_mem_toDigits (by decide) _)]
  have suffix : number? 2 (Nat.toDigits 10 range.bits) = some range.bits :=
    number?_toDigits (by have := range.narrow.2; omega) (by decide)
  have small : ∀ octet ∈ octets range.base, octet ≤ 255 := fun octet member =>
    Nat.le_of_lt_succ (octets_lt range.base octet member)
  have blocks : range.base / 2 ^ (32 - range.bits) * 2 ^ (32 - range.bits) = range.base :=
    Nat.div_mul_cancel range.aligned
  simp only [parseCidr, split, splitOn_dotted, mapM_octets, suffix, Option.bind_eq_bind, Option.bind_some]
  simp only [octets] at small ⊢
  rw [dif_pos small, dif_pos range.narrow]
  simp only [alignedRange, base_of_octets range.bounded, blocks]

end OmniControlPlane.DnsCenter
