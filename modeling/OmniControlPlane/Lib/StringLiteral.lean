import OmniControlPlane.Lib.Json

/-! # String literals

The body of a JavaScript string literal in double quotes, in strict code: the code units it evaluates to, and the text
after its closing quote.
-/

namespace OmniControlPlane.Lib.StringLiteral

open Json

def units (text : List Char) : List UInt16 := text.flatMap utf16Char

/-- The code units of a code point. -/
def codeUnits (code : ℕ) : List UInt16 :=
  if code < 0x10000 then [UInt16.ofNat code]
  else [UInt16.ofNat (0xD800 + (code - 0x10000) / 0x400), UInt16.ofNat (0xDC00 + (code - 0x10000) % 0x400)]

def isHex (char : Char) : Bool := (hexDigit? char).isSome

def hexValue (digits : List Char) : ℕ := digits.foldl (fun value digit => value * 16 + (hexDigit? digit).getD 0) 0

/-- An escape with a letter. All other characters mean themselves. -/
def letterUnits (char : Char) : List UInt16 :=
  match char with
  | 'b' => [8]
  | 't' => [9]
  | 'n' => [10]
  | 'v' => [11]
  | 'f' => [12]
  | 'r' => [13]
  | _ => utf16Char char

/-- What follows the `u` of an escape: four digits, or a code point in braces. -/
def escapeUnicode (text : List Char) : Option (List UInt16 × ℕ) :=
  if text.head? = some openBrace then
    let digits := text.tail.takeWhile isHex
    if digits ≠ [] ∧ text.tail[digits.length]? = some closeBrace ∧ hexValue digits ≤ 0x10FFFF then
      some (codeUnits (hexValue digits), digits.length + 3)
    else none
  else match text with
    | a :: b :: c :: d :: _ => (hexUnit? a b c d).map fun unit => ([unit], 5)
    | _ => none

/-- The code units of an escape, and the number of its characters after the backslash. -/
def escape : List Char → Option (List UInt16 × ℕ)
  | [] => none
  | char :: rest =>
    if char = '\r' then some ([], if rest.head? = some '\n' then 2 else 1)
    else if char.toNat ∈ [0x0A, 0x2028, 0x2029] then some ([], 1)
    else if char = 'x' then
      match rest with
      | a :: b :: _ => (hexUnit? '0' '0' a b).map fun unit => ([unit], 3)
      | _ => none
    else if char = 'u' then escapeUnicode rest
    else if char = '0' ∧ rest.head?.any Char.isDigit = false then some ([0], 1)
    else if char.isDigit then none
    else some (letterUnits char, 1)

/-- A body up to its closing quote, after so many characters of an escape. -/
def readBody : ℕ → List Char → Option (List UInt16 × List Char)
  | _, [] => none
  | skip + 1, _ :: rest => readBody skip rest
  | 0, char :: rest =>
    if char = quote then some ([], rest)
    else if char.toNat = 92 then
      match escape rest with
      | none => none
      | some (value, length) => (readBody length rest).map fun read => (value ++ read.1, read.2)
    else if char = '\n' ∨ char = '\r' then none
    else (readBody 0 rest).map fun read => (utf16Char char ++ read.1, read.2)

/-- A whole literal. -/
def readLiteral : List Char → Option (List UInt16 × List Char)
  | [] => none
  | char :: rest => if char = quote then readBody 0 rest else none

/-- A character that stands for itself. -/
def Plain (char : Char) : Prop := char ≠ quote ∧ char.toNat ≠ 92 ∧ char ≠ '\n' ∧ char ≠ '\r'

instance (char : Char) : Decidable (Plain char) := inferInstanceAs (Decidable (_ ∧ _ ∧ _ ∧ _))

section

variable {char : Char} {text rest : List Char}

@[simp] theorem units_nil : units [] = [] := rfl

@[simp] theorem units_cons (char : Char) (rest : List Char) : units (char :: rest) = utf16Char char ++ units rest :=
  List.flatMap_cons

@[simp] theorem units_append (left right : List Char) : units (left ++ right) = units left ++ units right :=
  List.flatMap_append

theorem units_injective : Function.Injective units := by
  intro left right same
  have texts : utf16 (String.ofList left) = utf16 (String.ofList right) := by
    rw [utf16, utf16, String.toList_ofList, String.toList_ofList]
    exact same
  have back : String.ofList left = String.ofList right := by
    rw [← decodeUtf16_utf16 (String.ofList left), texts, decodeUtf16_utf16]
  exact String.ofList_injective back

/-- One code unit or a surrogate pair. -/
theorem codeUnits_shape (code : ℕ) (bound : code ≤ 0x10FFFF) :
    (codeUnits code).length = 1 ∨ ∃ high low, codeUnits code = [high, low] ∧ 0xD800 ≤ high.toNat ∧ 0xD800 ≤ low.toNat := by
  rw [codeUnits]
  split
  · exact .inl rfl
  · refine .inr ⟨_, _, rfl, ?_, ?_⟩
    · rw [UInt16.toNat_ofNat_of_lt' (by simp [UInt16.size]; omega)]
      omega
    · rw [UInt16.toNat_ofNat_of_lt' (by simp [UInt16.size]; omega)]
      omega

theorem utf16Char_eq_codeUnits (char : Char) : utf16Char char = codeUnits char.toNat := rfl

theorem toNat_le (char : Char) : char.toNat ≤ 0x10FFFF := by
  have valid : char.toNat < 0xD800 ∨ 0xDFFF < char.toNat ∧ char.toNat < 0x110000 := char.valid
  omega

theorem readBody_quote (rest : List Char) : readBody 0 (quote :: rest) = some ([], rest) := by
  rw [readBody, if_pos rfl]

theorem readBody_cons (plain : Plain char) (rest : List Char) :
    readBody 0 (char :: rest) = (readBody 0 rest).map fun read => (utf16Char char ++ read.1, read.2) := by
  rw [readBody, if_neg plain.1, if_neg plain.2.1, if_neg (not_or.mpr plain.2.2)]

theorem readBody_backslash (code : char.toNat = 92) (rest : List Char) :
    readBody 0 (char :: rest) = (escape rest).bind fun found =>
      (readBody found.2 rest).map fun read => (found.1 ++ read.1, read.2) := by
  have notQuote : char ≠ quote := by
    rintro rfl
    exact absurd code (by decide)
  rw [readBody, if_neg notQuote, if_pos code]
  cases escape rest <;> rfl

/-- Characters that stand for themselves are read as themselves. -/
theorem readBody_plain (plain : ∀ char ∈ text, Plain char) (rest : List Char) :
    readBody 0 (text ++ rest) = (readBody 0 rest).map fun read => (units text ++ read.1, read.2) := by
  induction text with
  | nil => simp
  | cons char text ih =>
    rw [List.cons_append, readBody_cons (plain char List.mem_cons_self),
      ih fun later member => plain later (List.mem_cons_of_mem _ member), Option.map_map]
    simp [Function.comp_def]

theorem readBody_escape {value : List UInt16} {escaped : List Char} (code : char.toNat = 92)
    (known : escape (escaped ++ rest) = some (value, escaped.length)) :
    readBody 0 (char :: (escaped ++ rest)) = (readBody 0 rest).map fun read => (value ++ read.1, read.2) := by
  have skipped (escaped : List Char) : readBody escaped.length (escaped ++ rest) = readBody 0 rest := by
    induction escaped with
    | nil => rfl
    | cons char escaped ih => exact ih
  rw [readBody_backslash code, known, Option.bind_some, skipped]

/-- A letter of an escape, a quote or a backslash. -/
theorem escape_letter {value : List UInt16} (letter : char.toNat ∈ [34, 92, 98, 102, 110, 114, 116])
    (known : letterUnits char = value) (rest : List Char) : escape (char :: rest) = some (value, 1) := by
  have facts : ∀ code ∈ [34, 92, 98, 102, 110, 114, 116], Char.ofNat code ≠ '\r' ∧
      (Char.ofNat code).toNat ∉ [0x0A, 0x2028, 0x2029] ∧ Char.ofNat code ≠ 'x' ∧ Char.ofNat code ≠ 'u' ∧
      Char.ofNat code ≠ '0' ∧ (Char.ofNat code).isDigit = false := by decide
  have fact := facts char.toNat letter
  rw [Char.ofNat_toNat] at fact
  obtain ⟨notReturn, notLine, notX, notU, notZero, notDigit⟩ := fact
  rw [escape.eq_def]
  dsimp only
  rw [if_neg notReturn, if_neg notLine, if_neg notX, if_neg notU, if_neg fun zero => notZero zero.1, notDigit,
    if_neg Bool.false_ne_true, known]

/-- The characters of the escapes that do not mean the character after the backslash. -/
def isEscapeChar (char : Char) : Bool :=
  isHex char || char ∈ ['\n', '\r', 't', 'n', 'v', 'r', 'x', 'u', openBrace, closeBrace] || char.toNat ∈ [0x2028, 0x2029]

theorem isHex_of_hexUnit? {a b c d : Char} {unit : UInt16} (known : hexUnit? a b c d = some unit) :
    ∀ char ∈ [a, b, c, d], isHex char = true := by
  simp only [hexUnit?, Option.bind_eq_bind, Option.bind_eq_some_iff] at known
  obtain ⟨_, first, _, second, _, third, _, fourth, -⟩ := known
  simp [isHex, first, second, third, fourth]

theorem escapeUnicode_chars {value : List UInt16} {length : ℕ} (found : escapeUnicode text = some (value, length)) :
    0 < length ∧ (∀ char ∈ text.take (length - 1), isEscapeChar char = true) ∧
      (value.length = 1 ∨ ∃ high low, value = [high, low] ∧ 0xD800 ≤ high.toNat ∧ 0xD800 ≤ low.toNat) := by
  have hex {char : Char} (digit : isHex char = true) : isEscapeChar char = true := by rw [isEscapeChar, digit]; rfl
  rw [escapeUnicode.eq_def] at found
  split at found
  · next brace =>
    dsimp only at found
    split at found
    · next inside =>
      obtain ⟨-, closes, bound⟩ := inside
      obtain ⟨rfl, rfl⟩ := Prod.mk.inj (Option.some.inj found)
      refine ⟨Nat.succ_pos _, fun char member => ?_, codeUnits_shape _ bound⟩
      obtain ⟨more, rfl⟩ := List.head?_eq_some_iff.mp brace
      rw [List.tail_cons] at closes member
      rw [Nat.add_sub_assoc (by decide), List.take_succ_cons, List.take_add_one, closes] at member
      have digits : more.take (more.takeWhile isHex).length = more.takeWhile isHex :=
        (List.prefix_iff_eq_take.mp (List.takeWhile_prefix _)).symm
      rw [digits] at member
      rcases List.mem_cons.mp member with rfl | member
      · decide
      rcases List.mem_append.mp member with digit | last
      · exact hex (List.mem_takeWhile_imp digit)
      · obtain rfl := List.mem_singleton.mp last
        decide
    · cases found
  · split at found
    · next a b c d rest =>
      obtain ⟨unit, known, same⟩ := Option.map_eq_some_iff.mp found
      obtain ⟨rfl, rfl⟩ := Prod.mk.inj same
      exact ⟨Nat.succ_pos _, fun char member => hex (isHex_of_hexUnit? known char member), .inl rfl⟩
    · cases found

/-- An escape means the character after the backslash, or is made of the characters of escapes. -/
theorem escape_cases {value : List UInt16} {length : ℕ} (found : escape text = some (value, length)) :
    (∃ char rest, text = char :: rest ∧ value = utf16Char char ∧ length = 1) ∨
      0 < length ∧ (∀ char ∈ text.take length, isEscapeChar char = true) ∧
        (value.length ≤ 1 ∨ ∃ high low, value = [high, low] ∧ 0xD800 ≤ high.toNat ∧ 0xD800 ≤ low.toNat) := by
  cases text with
  | nil => contradiction
  | cons char rest =>
    rw [escape.eq_def] at found
    dsimp only at found
    split at found
    · next carriage =>
      obtain ⟨rfl, rfl⟩ := Prod.mk.inj (Option.some.inj found)
      refine .inr ⟨by split <;> decide, fun later member => ?_, .inl (Nat.zero_le _)⟩
      subst carriage
      split at member
      · next newline =>
        obtain ⟨tail, rfl⟩ := List.head?_eq_some_iff.mp newline
        have either : later = '\r' ∨ later = '\n' := by simpa using member
        rcases either with rfl | rfl <;> decide
      · obtain rfl := List.mem_singleton.mp member
        decide
    split at found
    · next line =>
      obtain ⟨rfl, rfl⟩ := Prod.mk.inj (Option.some.inj found)
      refine .inr ⟨Nat.one_pos, fun later member => ?_, .inl (Nat.zero_le _)⟩
      obtain rfl := List.mem_singleton.mp member
      have codes : ∀ code ∈ [0x0A, 0x2028, 0x2029], isEscapeChar (Char.ofNat code) = true := by decide
      rw [← Char.ofNat_toNat later]
      exact codes _ line
    split at found
    · next letter =>
      subst letter
      split at found
      · next a b tail =>
        obtain ⟨unit, known, same⟩ := Option.map_eq_some_iff.mp found
        obtain ⟨rfl, rfl⟩ := Prod.mk.inj same
        refine .inr ⟨Nat.succ_pos _, fun later member => ?_, .inl le_rfl⟩
        have digits := isHex_of_hexUnit? known
        have cases : later = 'x' ∨ later = a ∨ later = b := by simpa using member
        rcases cases with rfl | rfl | rfl
        · decide
        · rw [isEscapeChar, digits _ (by simp)]
          rfl
        · rw [isEscapeChar, digits _ (by simp)]
          rfl
      · contradiction
    split at found
    · next letter =>
      subst letter
      obtain ⟨positive, chars, shape⟩ := escapeUnicode_chars found
      refine .inr ⟨positive, fun later member => ?_, shape.imp_left le_of_eq⟩
      obtain ⟨count, rfl⟩ := Nat.exists_eq_add_one.mpr positive
      rw [List.take_succ_cons] at member
      rcases List.mem_cons.mp member with rfl | member
      · decide
      · exact chars later member
    split at found
    · next zero =>
      obtain ⟨rfl, rfl⟩ := Prod.mk.inj (Option.some.inj found)
      refine .inr ⟨Nat.one_pos, fun later member => ?_, .inl le_rfl⟩
      obtain rfl := List.mem_singleton.mp member
      rw [zero.1]
      decide
    split at found
    · contradiction
    · obtain ⟨rfl, rfl⟩ := Prod.mk.inj (Option.some.inj found)
      rw [letterUnits.eq_def]
      split
      case h_7 => exact .inl ⟨char, rest, rfl, rfl, rfl⟩
      all_goals
        refine .inr ⟨Nat.one_pos, fun later member => ?_, .inl le_rfl⟩
        obtain rfl := List.mem_singleton.mp member
        decide

/-- `JSON.stringify` writes literals. -/
theorem readBody_jsonChar (char : Char) (rest : List Char) :
    readBody 0 (jsonChar char ++ rest) = (readBody 0 rest).map fun read => (utf16Char char ++ read.1, read.2) := by
  have unit (code : ℕ) (same : char.toNat = code) (small : code < 0x10000) : utf16Char char = [UInt16.ofNat code] := by
    rw [utf16Char, same, if_pos small]
  have itself (code : ℕ) (same : char.toNat = code) (mem : code ∈ [34, 92]) : letterUnits char = utf16Char char := by
    obtain rfl : char = Char.ofNat code := by rw [← same, Char.ofNat_toNat]
    rcases List.mem_cons.mp mem with rfl | mem
    · rfl
    · obtain rfl := List.mem_singleton.mp mem
      rfl
  unfold jsonChar
  split
  · next same => exact unit 8 same (by decide) ▸ readBody_escape rfl (escape_letter (by decide) rfl _)
  · next same => exact unit 9 same (by decide) ▸ readBody_escape rfl (escape_letter (by decide) rfl _)
  · next same => exact unit 10 same (by decide) ▸ readBody_escape rfl (escape_letter (by decide) rfl _)
  · next same => exact unit 12 same (by decide) ▸ readBody_escape rfl (escape_letter (by decide) rfl _)
  · next same => exact unit 13 same (by decide) ▸ readBody_escape rfl (escape_letter (by decide) rfl _)
  · next same =>
    exact readBody_escape rfl (escape_letter (by rw [same]; decide) (itself 34 same (by decide)) _)
  · next same =>
    exact readBody_escape rfl (escape_letter (by rw [same]; decide) (itself 92 same (by decide)) _)
  · next noReturn noQuote noBackslash =>
    split
    · next control =>
      rw [unit _ rfl (Nat.lt_trans control (by decide))]
      have known : escape (['u', '0', '0', Nat.digitChar (char.toNat / 16), Nat.digitChar (char.toNat % 16)] ++ rest) =
          some ([UInt16.ofNat char.toNat], 5) := by
        change escapeUnicode ('0' :: '0' :: _ :: _ :: rest) = _
        rw [escapeUnicode, if_neg (by rw [List.head?_cons]; decide)]
        exact congrArg (Option.map _) (hexUnit?_control _ control)
      exact readBody_escape rfl known
    · next printed =>
      have plain : Plain char := by
        refine ⟨?_, noBackslash, ?_, ?_⟩ <;> rintro rfl
        · exact noQuote rfl
        · exact printed (by decide)
        · exact printed (by decide)
      exact readBody_cons plain rest

/-- A written text is read as itself, whatever follows its quote. -/
theorem readBody_jsonString (text rest : List Char) :
    readBody 0 (text.flatMap jsonChar ++ quote :: rest) = some (units text, rest) := by
  induction text with
  | nil => exact readBody_quote rest
  | cons char text ih =>
    rw [List.flatMap_cons, List.append_assoc, readBody_jsonChar, ih, Option.map_some, units_cons]

end

end OmniControlPlane.Lib.StringLiteral
