import OmniControlPlane.Lib.OrderedMap
import OmniControlPlane.Lib.Text

/-! # JSON

Values, the texts that `JSON.stringify` writes with and without indentation, and what `JSON.parse`
reads. A style says how much white space is written; whatever the style, a text is read as the value it
was written from, with the rest of the text left over.

Whole numbers are integers. A number with a fraction or an exponent is only read, and stays a text.
-/

namespace OmniControlPlane.Lib

inductive Json where
  | null
  | bool (value : Bool)
  | number (value : ℤ)
  | decimal (text : List Char)
  | string (value : String)
  | array (items : List Json)
  | object (fields : List (String × Json))

namespace Json

/-- The value of an own property. -/
def field? (key : String) : Json → Option Json
  | object fields => fields.lookup key
  | _ => none

def isSpace (char : Char) : Bool := char.toNat ∈ [9, 10, 13, 32]

/-- The white space of a style: what stands before each item at a depth, and after each colon. -/
structure Style where
  gap : ℕ → List Char
  colon : List Char
  gap_blank : ∀ depth, ∀ char ∈ gap depth, isSpace char = true
  colon_blank : ∀ char ∈ colon, isSpace char = true

/-- `JSON.stringify(value)` -/
def compact : Style := ⟨fun _ => [], [], nofun, nofun⟩

/-- `JSON.stringify(value, null, 2)` -/
def indented : Style where
  gap depth := '\n' :: List.replicate (2 * depth) ' '
  colon := [' ']
  gap_blank depth char member := by
    rcases List.mem_cons.mp member with rfl | space
    · rfl
    · rw [List.eq_of_mem_replicate space]
      rfl
  colon_blank char member := by
    rw [List.mem_singleton.mp member]
    rfl

def quote : Char := Char.ofNat 34

def openBrace : Char := Char.ofNat 0x7B

def closeBrace : Char := Char.ofNat 0x7D

def integer : ℤ → List Char
  | .ofNat size => Nat.toDigits 10 size
  | .negSucc size => '-' :: Nat.toDigits 10 (size + 1)

mutual

/-- The text of a value at a depth. -/
def write (style : Style) (depth : ℕ) : Json → List Char
  | null => "null".toList
  | bool value => if value then "true".toList else "false".toList
  | number value => integer value
  | decimal text => text
  | string value => jsonString value
  | array items => '[' :: writeItems style depth items
  | object fields => openBrace :: writeFields style depth fields

/-- The items of an array and its bracket. -/
def writeItems (style : Style) (depth : ℕ) : List Json → List Char
  | [] => [']']
  | [item] => style.gap (depth + 1) ++ write style (depth + 1) item ++ style.gap depth ++ [']']
  | item :: rest => style.gap (depth + 1) ++ write style (depth + 1) item ++ ',' :: writeItems style depth rest

def writeFields (style : Style) (depth : ℕ) : List (String × Json) → List Char
  | [] => [closeBrace]
  | [(key, value)] => style.gap (depth + 1) ++ jsonString key ++ ':' :: style.colon ++ write style (depth + 1) value ++
      style.gap depth ++ [closeBrace]
  | (key, value) :: rest => style.gap (depth + 1) ++ jsonString key ++ ':' :: style.colon ++
      write style (depth + 1) value ++ ',' :: writeFields style depth rest

end

/-! ## Reading -/

def skip (text : List Char) : List Char := text.dropWhile isSpace

def hexDigit? (char : Char) : Option ℕ :=
  if '0' ≤ char ∧ char ≤ '9' then some (char.toNat - 48)
  else if 'a' ≤ char ∧ char ≤ 'f' then some (char.toNat - 87)
  else if 'A' ≤ char ∧ char ≤ 'F' then some (char.toNat - 55)
  else none

/-- The code unit of `\uXXXX`. -/
def hexUnit? (a b c d : Char) : Option UInt16 := do
  let a ← hexDigit? a
  let b ← hexDigit? b
  let c ← hexDigit? c
  let d ← hexDigit? d
  some (UInt16.ofNat (((a * 16 + b) * 16 + c) * 16 + d))

/-- The character of a one-letter escape. -/
def unescape? (char : Char) : Option UInt16 :=
  match char.toNat with
  | 34 => some 34
  | 47 => some 47
  | 92 => some 92
  | 98 => some 8
  | 102 => some 12
  | 110 => some 10
  | 114 => some 13
  | 116 => some 9
  | _ => none

/-- The code units of a string up to its closing quote. -/
def readUnits : List Char → Option (List UInt16 × List Char)
  | [] => none
  | char :: rest =>
    if char.toNat = 34 then some ([], rest)
    else if char.toNat = 92 then
      match rest with
      | 'u' :: a :: b :: c :: d :: rest =>
        match hexUnit? a b c d, readUnits rest with
        | some unit, some (units, rest) => some (unit :: units, rest)
        | _, _ => none
      | escape :: rest =>
        match unescape? escape, readUnits rest with
        | some unit, some (units, rest) => some (unit :: units, rest)
        | _, _ => none
      | [] => none
    else if char.toNat < 32 then none
    else match readUnits rest with
      | some (units, rest) => some (utf16Char char ++ units, rest)
      | none => none

/-- A code unit that stands alone. -/
def loneUnit (unit : UInt16) : Char :=
  if 0xD800 ≤ unit.toNat ∧ unit.toNat ≤ 0xDFFF then replacementChar else Char.ofNat unit.toNat

/-- The characters of code units; a surrogate without its partner is U+FFFD. -/
def decodeUtf16 : List UInt16 → List Char
  | [] => []
  | [unit] => [loneUnit unit]
  | high :: low :: rest =>
    if 0xD800 ≤ high.toNat ∧ high.toNat ≤ 0xDBFF ∧ 0xDC00 ≤ low.toNat ∧ low.toNat ≤ 0xDFFF then
      Char.ofNat (0x10000 + (high.toNat - 0xD800) * 0x400 + (low.toNat - 0xDC00)) :: decodeUtf16 rest
    else loneUnit high :: decodeUtf16 (low :: rest)

def readString (text : List Char) : Option (String × List Char) :=
  (readUnits text).map fun read => (String.ofList (decodeUtf16 read.1), read.2)

def isNumberChar (char : Char) : Bool := char.isDigit || char ∈ ['+', '-', '.', 'e', 'E']

/-- Digits without a leading zero. -/
def isWhole (digits : List Char) : Bool :=
  digits ≠ [] && digits.all (·.isDigit) && (digits.head? ≠ some '0' || digits.length = 1)

def isExponent : List Char → Bool
  | [] => true
  | letter :: rest =>
    let digits := if rest.head? = some '+' ∨ rest.head? = some '-' then rest.tail else rest
    (letter = 'e' || letter = 'E') && digits ≠ [] && digits.all (·.isDigit)

/-- A number with a fraction, an exponent or both. -/
def isDecimal (text : List Char) : Bool :=
  isWhole (text.takeWhile (·.isDigit)) && match text.dropWhile (·.isDigit) with
  | '.' :: rest => rest.takeWhile (·.isDigit) ≠ [] && isExponent (rest.dropWhile (·.isDigit))
  | rest => isExponent rest

def readNumber (token : List Char) : Option Json :=
  let (digits, negative) := if token.head? = some '-' then (token.tail, true) else (token, false)
  if isWhole digits then
    some (number (if negative then -Nat.ofDigitChars 10 digits 0 else Nat.ofDigitChars 10 digits 0))
  else if isDecimal digits then some (decimal token) else none

/-- A literal or a number. -/
def readScalar (text : List Char) : Option (Json × List Char) :=
  if "null".toList <+: text then some (null, text.drop 4)
  else if "true".toList <+: text then some (bool true, text.drop 4)
  else if "false".toList <+: text then some (bool false, text.drop 5)
  else (readNumber (text.takeWhile isNumberChar)).map fun read => (read, text.dropWhile isNumberChar)

/-- The properties of an object literal; the last one with a name counts. -/
def properties (fields : List (String × Json)) : List (String × Json) :=
  fields.foldl (fun found field => OrderedMap.alterEntries field.1 (fun _ => field.2) found) []

mutual

/-- A value, and the text after it. -/
def readValue : ℕ → List Char → Option (Json × List Char)
  | 0, _ => none
  | fuel + 1, text =>
    match skip text with
    | [] => none
    | char :: rest =>
      if char = quote then (readString rest).map fun read => (string read.1, read.2)
      else if char = '[' then
        if (skip rest).head? = some ']' then some (array [], (skip rest).tail)
        else (readItems fuel rest).map fun read => (array read.1, read.2)
      else if char = openBrace then
        if (skip rest).head? = some closeBrace then some (object [], (skip rest).tail)
        else (readFields fuel rest).map fun read => (object (properties read.1), read.2)
      else readScalar (char :: rest)

/-- The items of an array that has some. -/
def readItems : ℕ → List Char → Option (List Json × List Char)
  | 0, _ => none
  | fuel + 1, text =>
    match readValue fuel text with
    | none => none
    | some (item, rest) =>
      match skip rest with
      | [] => none
      | char :: rest =>
        if char = ',' then (readItems fuel rest).map fun read => (item :: read.1, read.2)
        else if char = ']' then some ([item], rest)
        else none

def readFields : ℕ → List Char → Option (List (String × Json) × List Char)
  | 0, _ => none
  | fuel + 1, text =>
    match skip text with
    | [] => none
    | char :: rest =>
      if char = quote then
        match readString rest with
        | none => none
        | some (key, rest) =>
          match skip rest with
          | [] => none
          | char :: rest =>
            if char = ':' then
              match readValue fuel rest with
              | none => none
              | some (value, rest) =>
                match skip rest with
                | [] => none
                | char :: rest =>
                  if char = ',' then (readFields fuel rest).map fun read => ((key, value) :: read.1, read.2)
                  else if char = closeBrace then some ([(key, value)], rest)
                  else none
            else none
      else none

end

/-- `JSON.parse` -/
def parse (text : List Char) : Option Json :=
  match readValue (2 * text.length + 2) text with
  | some (value, rest) => if skip rest = [] then some value else none
  | none => none

/-! ## Strings -/

theorem decodeUtf16_cons {unit : UInt16} (notHigh : ¬ (0xD800 ≤ unit.toNat ∧ unit.toNat ≤ 0xDBFF)) (rest : List UInt16) :
    decodeUtf16 (unit :: rest) = loneUnit unit :: decodeUtf16 rest := by
  cases rest with
  | nil => rfl
  | cons low rest => rw [decodeUtf16, if_neg fun pair => notHigh ⟨pair.1, pair.2.1⟩]

theorem decodeUtf16_utf16Char (char : Char) (rest : List UInt16) :
    decodeUtf16 (utf16Char char ++ rest) = char :: decodeUtf16 rest := by
  have valid : char.toNat < 0xD800 ∨ 0xDFFF < char.toNat ∧ char.toNat < 0x110000 := char.valid
  rw [utf16Char]
  split
  · next small =>
    have unit : (UInt16.ofNat char.toNat).toNat = char.toNat :=
      UInt16.toNat_ofNat_of_lt' (by simp [UInt16.size]; omega)
    rw [List.singleton_append, decodeUtf16_cons (by rw [unit]; omega), loneUnit, unit, if_neg (by omega),
      Char.ofNat_toNat]
  · next large =>
    have high : (UInt16.ofNat (0xD800 + (char.toNat - 0x10000) / 0x400)).toNat =
        0xD800 + (char.toNat - 0x10000) / 0x400 := UInt16.toNat_ofNat_of_lt' (by simp [UInt16.size]; omega)
    have low : (UInt16.ofNat (0xDC00 + (char.toNat - 0x10000) % 0x400)).toNat =
        0xDC00 + (char.toNat - 0x10000) % 0x400 := UInt16.toNat_ofNat_of_lt' (by simp [UInt16.size]; omega)
    have code : 0x10000 + (0xD800 + (char.toNat - 0x10000) / 0x400 - 0xD800) * 0x400 +
        (0xDC00 + (char.toNat - 0x10000) % 0x400 - 0xDC00) = char.toNat := by omega
    rw [List.cons_append, List.singleton_append, decodeUtf16, high, low, if_pos (by omega), code, Char.ofNat_toNat]

theorem decodeUtf16_utf16 (text : String) : String.ofList (decodeUtf16 (utf16 text)) = text := by
  have chars (chars : List Char) : decodeUtf16 (chars.flatMap utf16Char) = chars := by
    induction chars with
    | nil => rfl
    | cons char rest ih => rw [List.flatMap_cons, decodeUtf16_utf16Char, ih]
  rw [utf16, chars, String.ofList_toList]

/-- Control characters are read back from their four digits. -/
theorem hexUnit?_control : ∀ code < 32,
    hexUnit? '0' '0' (Nat.digitChar (code / 16)) (Nat.digitChar (code % 16)) = some (UInt16.ofNat code) := by
  decide

theorem readUnits_quote (rest : List Char) : readUnits (quote :: rest) = some ([], rest) := by
  rw [readUnits.eq_def]
  rfl

theorem readUnits_plain {char : Char} {units : List UInt16} {text rest : List Char} (notQuote : char.toNat ≠ 34)
    (notBackslash : char.toNat ≠ 92) (printed : ¬ char.toNat < 32) (read : readUnits text = some (units, rest)) :
    readUnits (char :: text) = some (utf16Char char ++ units, rest) := by
  rw [readUnits.eq_def]
  simp only [notQuote, notBackslash, printed, if_false, read]

theorem readUnits_escape {letter : Char} {unit : UInt16} {units : List UInt16} {text rest : List Char}
    (other : letter ≠ 'u') (known : unescape? letter = some unit) (read : readUnits text = some (units, rest)) :
    readUnits (Char.ofNat 92 :: letter :: text) = some (unit :: units, rest) := by
  rw [readUnits.eq_def]
  simp [known, read, other]

theorem readUnits_hex {a b c d : Char} {unit : UInt16} {units : List UInt16} {text rest : List Char}
    (known : hexUnit? a b c d = some unit) (read : readUnits text = some (units, rest)) :
    readUnits (Char.ofNat 92 :: 'u' :: a :: b :: c :: d :: text) = some (unit :: units, rest) := by
  rw [readUnits.eq_def]
  simp [known, read]

/-- One character of a string, however it is written. -/
theorem readUnits_jsonChar (char : Char) {units : List UInt16} {text rest : List Char}
    (read : readUnits text = some (units, rest)) :
    readUnits (jsonChar char ++ text) = some (utf16Char char ++ units, rest) := by
  have unit (code : ℕ) (same : char.toNat = code) (small : code < 0x10000) : utf16Char char = [UInt16.ofNat code] := by
    rw [utf16Char, same, if_pos small]
  have other (code : ℕ) (same : char.toNat = code) (different : code ≠ 117) : char ≠ 'u' := by
    rintro rfl
    exact different same.symm
  unfold jsonChar
  split
  · next same => exact unit 8 same (by decide) ▸ readUnits_escape (by decide) rfl read
  · next same => exact unit 9 same (by decide) ▸ readUnits_escape (by decide) rfl read
  · next same => exact unit 10 same (by decide) ▸ readUnits_escape (by decide) rfl read
  · next same => exact unit 12 same (by decide) ▸ readUnits_escape (by decide) rfl read
  · next same => exact unit 13 same (by decide) ▸ readUnits_escape (by decide) rfl read
  · next same =>
    exact unit 34 same (by decide) ▸ readUnits_escape (other 34 same (by decide)) (by rw [unescape?, same]; rfl) read
  · next same =>
    exact unit 92 same (by decide) ▸ readUnits_escape (other 92 same (by decide)) (by rw [unescape?, same]; rfl) read
  · next quoteCode slashCode =>
    split
    · next control =>
      rw [unit _ rfl (Nat.lt_trans control (by decide))]
      exact readUnits_hex (hexUnit?_control _ control) read
    · next plain => exact readUnits_plain quoteCode slashCode plain read

/-- A written string is read back, whatever follows it. -/
theorem readString_jsonString (text : String) (rest : List Char) :
    ∃ body, jsonString text = quote :: body ∧ readString (body ++ rest) = some (text, rest) := by
  have read (chars : List Char) :
      readUnits (chars.flatMap jsonChar ++ (quote :: rest)) = some (chars.flatMap utf16Char, rest) := by
    induction chars with
    | nil => exact readUnits_quote rest
    | cons char chars ih =>
      rw [List.flatMap_cons, List.append_assoc, readUnits_jsonChar char ih, List.flatMap_cons]
  refine ⟨_, rfl, ?_⟩
  rw [List.append_assoc, List.singleton_append, readString]
  change (readUnits (text.toList.flatMap jsonChar ++ quote :: rest)).map _ = _
  rw [read text.toList, Option.map_some]
  exact congrArg some (Prod.ext (decodeUtf16_utf16 text) rfl)

/-! ## Numbers -/

/-- The text after a number does not go on with it. -/
def Stops (rest : List Char) : Prop := ∀ char ∈ rest.head?, isNumberChar char = false

theorem takeWhile_stops {token rest : List Char} (number : ∀ char ∈ token, isNumberChar char = true) (stops : Stops rest) :
    (token ++ rest).takeWhile isNumberChar = token ∧ (token ++ rest).dropWhile isNumberChar = rest := by
  have none : rest.takeWhile isNumberChar = [] ∧ rest.dropWhile isNumberChar = rest := by
    cases rest with
    | nil => exact ⟨rfl, rfl⟩
    | cons char rest => simp [stops char rfl]
  constructor
  · rw [List.takeWhile_append_of_pos number, none.1, List.append_nil]
  · rw [List.dropWhile_append_of_pos number, none.2]

theorem head?_toDigits {size : ℕ} (positive : 0 < size) : (Nat.toDigits 10 size).head? ≠ some '0' := by
  induction size using Nat.strongRecOn with
  | ind size ih =>
    rw [Nat.toDigits_eq_if (by decide)]
    split
    · rw [List.head?_cons, ne_eq, Option.some.injEq, Nat.digitChar_eq_zero]
      omega
    · rw [List.head?_append_of_ne_nil _ Nat.toDigits_ne_nil]
      exact ih (size / 10) (by omega) (by omega)

theorem isWhole_toDigits (size : ℕ) : isWhole (Nat.toDigits 10 size) = true := by
  have digits : (Nat.toDigits 10 size).all (·.isDigit) = true :=
    List.all_eq_true.mpr fun char member => Nat.isDigit_of_mem_toDigits (by decide) (by decide) member
  have leading : (Nat.toDigits 10 size).head? ≠ some '0' ∨ (Nat.toDigits 10 size).length = 1 := by
    rcases Nat.eq_zero_or_pos size with rfl | positive
    · exact .inr rfl
    · exact .inl (head?_toDigits positive)
  simp only [isWhole, digits, Nat.toDigits_ne_nil, Bool.and_true, Bool.and_eq_true, Bool.or_eq_true, decide_eq_true_eq,
    ne_eq, not_false_eq_true, true_and]
  exact leading

theorem integer_chars (value : ℤ) : ∀ char ∈ integer value, isNumberChar char = true := by
  have digits (size : ℕ) : ∀ char ∈ Nat.toDigits 10 size, isNumberChar char = true := fun char member =>
    Bool.or_eq_true_iff.mpr (.inl (Nat.isDigit_of_mem_toDigits (by decide) (by decide) member))
  cases value with
  | ofNat size => exact digits size
  | negSucc size => exact List.forall_mem_cons.mpr ⟨rfl, digits (size + 1)⟩

/-- A number is no literal, and begins neither a string nor an array nor an object. -/
theorem integer_head (value : ℤ) : ∃ char rest, integer value = char :: rest ∧ (char = '-' ∨ char.isDigit = true) := by
  cases value with
  | ofNat size =>
    obtain ⟨char, rest, split⟩ := List.exists_cons_of_ne_nil (@Nat.toDigits_ne_nil size 10)
    refine ⟨char, rest, split, .inr (Nat.isDigit_of_mem_toDigits (b := 10) (n := size) (by decide) (by decide) ?_)⟩
    rw [split]
    exact List.mem_cons_self
  | negSucc size => exact ⟨_, _, rfl, .inl rfl⟩

theorem readNumber_integer (value : ℤ) : readNumber (integer value) = some (number value) := by
  cases value with
  | ofNat size =>
    have unsigned : (Nat.toDigits 10 size).head? ≠ some '-' := by
      intro signed
      have member := List.mem_of_mem_head? signed
      exact absurd (Nat.isDigit_of_mem_toDigits (by decide) (by decide) member) (by decide)
    simp only [readNumber, integer, unsigned, if_false, isWhole_toDigits, if_true, Nat.ofDigitChars_ten_toDigits,
      Bool.false_eq_true]
    rfl
  | negSucc size =>
    simp only [readNumber, integer, List.head?_cons, List.tail_cons, if_true, isWhole_toDigits,
      Nat.ofDigitChars_ten_toDigits]
    rfl

theorem readScalar_number {token : List Char} {value : Json}
    (head : ∃ char tail, token = char :: tail ∧ (char = '-' ∨ char.isDigit = true))
    (chars : ∀ char ∈ token, isNumberChar char = true) (read : readNumber token = some value) {rest : List Char}
    (stops : Stops rest) : readScalar (token ++ rest) = some (value, rest) := by
  obtain ⟨char, tail, split, first⟩ := head
  have literal {word : List Char} {letter : Char} {letters : List Char} (spelled : word = letter :: letters)
      (other : letter ≠ '-' ∧ letter.isDigit = false) : ¬ word <+: token ++ rest := by
    rw [spelled, split, List.cons_append, List.cons_prefix_cons]
    rintro ⟨rfl, -⟩
    rcases first with minus | digit
    · exact other.1 minus
    · rw [other.2] at digit
      contradiction
  obtain ⟨taken, left⟩ := takeWhile_stops chars stops
  have notNull : ¬ "null".toList <+: token ++ rest := literal rfl (by decide)
  have notTrue : ¬ "true".toList <+: token ++ rest := literal rfl (by decide)
  have notFalse : ¬ "false".toList <+: token ++ rest := literal rfl (by decide)
  rw [readScalar, if_neg notNull, if_neg notTrue, if_neg notFalse, taken, left, read, Option.map_some]

theorem readScalar_integer (value : ℤ) {rest : List Char} (stops : Stops rest) :
    readScalar (integer value ++ rest) = some (number value, rest) :=
  readScalar_number (integer_head value) (integer_chars value) (readNumber_integer value) stops

/-- A text that is read as a number with a fraction or an exponent. -/
def Decimal (text : List Char) : Prop :=
  (∀ char ∈ text, isNumberChar char = true) ∧ readNumber text = some (decimal text)

theorem whole_head {text : List Char} (whole : isWhole (text.takeWhile (·.isDigit)) = true) :
    ∃ char rest, text = char :: rest ∧ char.isDigit = true := by
  cases text with
  | nil => contradiction
  | cons char rest =>
    refine ⟨char, rest, rfl, ?_⟩
    by_contra other
    rw [List.takeWhile_cons, if_neg other] at whole
    contradiction

theorem Decimal.head {text : List Char} (decimal : Decimal text) :
    ∃ char rest, text = char :: rest ∧ (char = '-' ∨ char.isDigit = true) := by
  have read := decimal.2
  rw [readNumber] at read
  by_cases signed : text.head? = some '-'
  · exact ⟨'-', text.tail, (List.eq_cons_of_mem_head? signed), .inl rfl⟩
  · simp only [signed, if_false, Bool.false_eq_true] at read
    split at read
    · exact Json.noConfusion (Option.some.inj read)
    · split at read
      · next isDecimal =>
        obtain ⟨char, rest, split, digit⟩ := whole_head (Bool.and_eq_true_iff.mp isDecimal).1
        exact ⟨char, rest, split, .inr digit⟩
      · contradiction

/-! ## What is written is read back -/

mutual

/-- A value without decimals, no object of which has two properties of one name. -/
def Plain : Json → Prop
  | decimal _ => False
  | array items => PlainItems items
  | object fields => (fields.map (·.1)).Nodup ∧ PlainFields fields
  | _ => True

def PlainItems : List Json → Prop
  | [] => True
  | item :: rest => Plain item ∧ PlainItems rest

def PlainFields : List (String × Json) → Prop
  | [] => True
  | field :: rest => Plain field.2 ∧ PlainFields rest

end

mutual

/-- Like `Plain`, with decimals that are read back. -/
def Written : Json → Prop
  | decimal text => Decimal text
  | array items => WrittenItems items
  | object fields => (fields.map (·.1)).Nodup ∧ WrittenFields fields
  | _ => True

def WrittenItems : List Json → Prop
  | [] => True
  | item :: rest => Written item ∧ WrittenItems rest

def WrittenFields : List (String × Json) → Prop
  | [] => True
  | field :: rest => Written field.2 ∧ WrittenFields rest

end

mutual

theorem Plain.written : ∀ {value : Json}, Plain value → Written value
  | null, _ => trivial
  | bool _, _ => trivial
  | number _, _ => trivial
  | decimal _, plain => plain.elim
  | string _, _ => trivial
  | array items, plain => plain_items items plain
  | object fields, plain => ⟨plain.1, plain_fields fields plain.2⟩

theorem plain_items : ∀ items : List Json, PlainItems items → WrittenItems items
  | [], _ => trivial
  | _ :: rest, plain => ⟨plain.1.written, plain_items rest plain.2⟩

theorem plain_fields : ∀ fields : List (String × Json), PlainFields fields → WrittenFields fields
  | [], _ => trivial
  | _ :: rest, plain => ⟨plain.1.written, plain_fields rest plain.2⟩

end

section

variable {style : Style} {depth fuel : ℕ} {text rest : List Char}

theorem skip_blank {blank : List Char} (spaces : ∀ char ∈ blank, isSpace char = true) (text : List Char) :
    skip (blank ++ text) = skip text :=
  List.dropWhile_append_of_pos spaces

theorem skip_cons {char : Char} (printed : isSpace char = false) (rest : List Char) : skip (char :: rest) = char :: rest := by
  rw [skip, List.dropWhile_cons, printed]
  rfl

theorem skip_gap {char : Char} (printed : isSpace char = false) (rest : List Char) :
    skip (style.gap depth ++ char :: rest) = char :: rest := by
  rw [skip_blank (style.gap_blank depth), skip_cons printed]

theorem space_stops {char : Char} (space : isSpace char = true) : isNumberChar char = false := by
  have code : char.toNat ∈ [9, 10, 13, 32] := of_decide_eq_true space
  have char_eq : char = Char.ofNat char.toNat := (Char.ofNat_toNat char).symm
  simp only [List.mem_cons, List.not_mem_nil, or_false] at code
  rcases code with code | code | code | code <;>
    · rw [code] at char_eq
      rw [char_eq]
      decide

theorem stops_gap {char : Char} (stop : isNumberChar char = false) (rest : List Char) :
    Stops (style.gap depth ++ char :: rest) := by
  intro first head
  cases gap : style.gap depth with
  | nil =>
    rw [gap, List.nil_append, List.head?_cons, Option.mem_some_iff] at head
    exact head ▸ stop
  | cons blank blanks =>
    rw [gap, List.cons_append, List.head?_cons, Option.mem_some_iff] at head
    exact space_stops (style.gap_blank depth first (gap ▸ head ▸ List.mem_cons_self))

/-- White space before a value is skipped. -/
theorem readValue_blank {blank : List Char} (spaces : ∀ char ∈ blank, isSpace char = true) (fuel : ℕ) (text : List Char) :
    readValue fuel (blank ++ text) = readValue fuel text := by
  cases fuel with
  | zero => rw [readValue, readValue]
  | succ fuel => rw [readValue, readValue, skip_blank spaces]

theorem alterEntries_absent {key : String} {found : List (String × Json)} (absent : key ∉ found.map (·.1)) (value : Json) :
    OrderedMap.alterEntries key (fun _ => value) found = found ++ [(key, value)] := by
  induction found with
  | nil => rfl
  | cons entry rest ih =>
    rw [List.map_cons, List.mem_cons, not_or] at absent
    rw [OrderedMap.alterEntries, if_neg (Ne.symm absent.1), ih absent.2, List.cons_append]

/-- Properties with distinct names are kept as they are. -/
theorem properties_of_nodup {fields : List (String × Json)} (distinct : (fields.map (·.1)).Nodup) :
    properties fields = fields := by
  suffices extends_ : ∀ found, ((found ++ fields).map (·.1)).Nodup →
      fields.foldl (fun found field => OrderedMap.alterEntries field.1 (fun _ => field.2) found) found = found ++ fields from
    extends_ [] distinct
  clear distinct
  induction fields with
  | nil => exact fun found _ => (List.append_nil found).symm
  | cons field rest ih =>
    intro found distinct
    have absent : field.1 ∉ found.map (·.1) := by
      rw [List.map_append, List.map_cons] at distinct
      exact fun member => (List.nodup_append.mp distinct).2.2 _ member _ List.mem_cons_self rfl
    rw [List.foldl_cons, alterEntries_absent absent, ih _ (by simpa using distinct), List.append_assoc]
    rfl

theorem closeBrace_stops : isNumberChar closeBrace = false := by decide

theorem closeBrace_printed : isSpace closeBrace = false := by decide

/-- A literal is read. -/
theorem readValue_scalar {value : Json} {char : Char} {chars : List Char}
    (printed : isSpace char = false) (plain : char ≠ quote ∧ char ≠ '[' ∧ char ≠ openBrace)
    (read : readScalar (char :: chars) = some (value, rest)) : readValue (fuel + 1) (char :: chars) = some (value, rest) := by
  rw [readValue, skip_cons printed]
  dsimp only
  rw [if_neg plain.1, if_neg plain.2.1, if_neg plain.2.2, read]

/-- A number begins with neither white space nor a bracket nor a quote. -/
theorem number_plain {char : Char} (first : char = '-' ∨ char.isDigit = true) :
    isSpace char = false ∧ (char ≠ quote ∧ char ≠ '[' ∧ char ≠ openBrace) ∧ char ≠ ']' := by
  have other {bracket : Char} (mark : bracket ≠ '-' ∧ bracket.isDigit = false) : char ≠ bracket := by
    rintro rfl
    rcases first with minus | digit
    · exact mark.1 minus
    · rw [mark.2] at digit
      contradiction
  refine ⟨Bool.eq_false_iff.mpr fun space => ?_, ⟨other (by decide), other (by decide), other (by decide)⟩,
    other (by decide)⟩
  have number : isNumberChar char = true := by
    rcases first with rfl | digit
    · rfl
    · exact Bool.or_eq_true_iff.mpr (.inl digit)
  rw [space_stops space] at number
  contradiction

/-- No value begins with white space or with a closing bracket. -/
theorem write_head {value : Json} (plain : Written value) : ∃ char chars, write style depth value = char :: chars ∧
    isSpace char = false ∧ char ≠ ']' := by
  cases value with
  | null => exact ⟨'n', "ull".toList, by rw [write]; rfl, by decide, by decide⟩
  | bool value =>
    cases value with
    | false => exact ⟨'f', "alse".toList, by rw [write]; rfl, by decide, by decide⟩
    | true => exact ⟨'t', "rue".toList, by rw [write]; rfl, by decide, by decide⟩
  | number value =>
    obtain ⟨char, chars, split, first⟩ := integer_head value
    obtain ⟨printed, -, open_⟩ := number_plain first
    exact ⟨char, chars, by rw [write, split], printed, open_⟩
  | decimal text =>
    obtain ⟨char, chars, split, first⟩ := Decimal.head plain
    obtain ⟨printed, -, open_⟩ := number_plain first
    exact ⟨char, chars, by rw [write, split], printed, open_⟩
  | string value => exact ⟨quote, _, by rw [write]; rfl, by decide, by decide⟩
  | array items => exact ⟨'[', _, by rw [write], by decide, by decide⟩
  | object fields => exact ⟨openBrace, _, by rw [write], by decide, by decide⟩

/-- No text of a value begins with a byte order mark. -/
theorem write_unmarked {value : Json} (written : Written value) :
    ∀ char ∈ (write style depth value).head?, char.toNat ≠ 0xFEFF := by
  have ascii {first : Char} (numeral : first = '-' ∨ first.isDigit = true) : first.toNat ≠ 0xFEFF := by
    rintro marked
    rcases numeral with rfl | digit
    · exact absurd marked (by decide)
    · rw [← Char.ofNat_toNat first, marked] at digit
      exact absurd digit (by decide)
  intro char head
  cases value with
  | null => cases head; decide
  | bool value => cases value <;> · cases head; decide
  | number value =>
    obtain ⟨first, chars, split, numeral⟩ := integer_head value
    rw [write, split, List.head?_cons, Option.mem_some_iff] at head
    exact head ▸ ascii numeral
  | decimal text =>
    obtain ⟨first, chars, split, numeral⟩ := Decimal.head written
    rw [write, split, List.head?_cons, Option.mem_some_iff] at head
    exact head ▸ ascii numeral
  | string value => cases head; decide
  | array items =>
    rw [write, List.head?_cons, Option.mem_some_iff] at head
    exact head ▸ by decide
  | object fields =>
    rw [write, List.head?_cons, Option.mem_some_iff] at head
    exact head ▸ by decide

theorem writeItems_step (item next : Json) (items : List Json) : writeItems style depth (item :: next :: items) =
    style.gap (depth + 1) ++ write style (depth + 1) item ++ ',' :: writeItems style depth (next :: items) := by
  rw [writeItems]
  nofun

theorem writeFields_step (key : String) (value : Json) (next : String × Json) (fields : List (String × Json)) :
    writeFields style depth ((key, value) :: next :: fields) = style.gap (depth + 1) ++ jsonString key ++
      ':' :: style.colon ++ write style (depth + 1) value ++ ',' :: writeFields style depth (next :: fields) := by
  rw [writeFields]
  nofun

theorem writeItems_cons (item : Json) (items : List Json) : ∃ tail, writeItems style depth (item :: items) ++ rest =
    style.gap (depth + 1) ++ (write style (depth + 1) item ++ tail) := by
  cases items with
  | nil =>
    rw [writeItems, List.append_assoc, List.append_assoc, List.append_assoc]
    exact ⟨_, rfl⟩
  | cons next items =>
    rw [writeItems_step, List.append_assoc, List.append_assoc]
    exact ⟨_, rfl⟩

theorem writeFields_cons (field : String × Json) (fields : List (String × Json)) : ∃ tail,
    writeFields style depth (field :: fields) ++ rest = style.gap (depth + 1) ++ (jsonString field.1 ++ tail) := by
  obtain ⟨key, value⟩ := field
  cases fields with
  | nil =>
    simp only [writeFields, List.append_assoc]
    exact ⟨_, rfl⟩
  | cons next fields =>
    simp only [writeFields, List.append_assoc]
    exact ⟨_, rfl⟩

mutual

theorem readValue_write (style : Style) : ∀ (value : Json) (depth fuel : ℕ) (rest : List Char), Written value →
    Stops rest → 2 * (write style depth value).length ≤ fuel →
    readValue fuel (write style depth value ++ rest) = some (value, rest)
  | null, depth, fuel + 1, rest, _, _, _ => by
    rw [write]
    exact readValue_scalar (by decide) (by decide) rfl
  | bool true, depth, fuel + 1, rest, _, _, _ => by
    rw [write]
    exact readValue_scalar (by decide) (by decide) rfl
  | bool false, depth, fuel + 1, rest, _, _, _ => by
    rw [write]
    exact readValue_scalar (by decide) (by decide) rfl
  | number value, depth, fuel + 1, rest, _, stops, _ => by
    rw [write]
    have read := readScalar_integer value stops
    obtain ⟨char, chars, split, first⟩ := integer_head value
    rw [split] at read ⊢
    obtain ⟨printed, plain⟩ := number_plain first
    exact readValue_scalar printed plain.1 read
  | decimal text, depth, fuel + 1, rest, plain, stops, _ => by
    have decimal : Decimal text := plain
    have read := readScalar_number decimal.head decimal.1 decimal.2 stops
    obtain ⟨char, chars, split, first⟩ := decimal.head
    rw [write]
    rw [split] at read ⊢
    obtain ⟨printed, plain⟩ := number_plain first
    exact readValue_scalar printed plain.1 read
  | string value, depth, fuel + 1, rest, _, _, _ => by
    obtain ⟨body, written, read⟩ := readString_jsonString value rest
    rw [write, written, List.cons_append, readValue, skip_cons (by decide)]
    dsimp only
    rw [if_pos rfl, read, Option.map_some]
  | array [], depth, fuel + 1, rest, _, _, _ => by
    rw [write, writeItems, List.cons_append, readValue, skip_cons (by decide)]
    dsimp only
    rw [if_neg (by decide), if_pos rfl, List.singleton_append, skip_cons (by decide), List.head?_cons, if_pos rfl]
    rfl
  | array (item :: items), depth, fuel + 1, rest, plain, _, enough => by
    have plain : WrittenItems (item :: items) := plain
    rw [write, List.length_cons] at enough
    have read := readItems_write style item items depth fuel rest plain (by omega)
    obtain ⟨tail, shape⟩ := @writeItems_cons style depth rest item items
    obtain ⟨char, chars, split, printed, open_⟩ := @write_head style (depth + 1) _ plain.1
    rw [write, List.cons_append, readValue, skip_cons (by decide)]
    dsimp only
    rw [if_neg (by decide), if_pos rfl, read, Option.map_some, if_neg]
    rw [shape, split, List.cons_append, skip_gap printed]
    simpa using open_
  | object [], depth, fuel + 1, rest, _, _, _ => by
    rw [write, writeFields, List.cons_append, readValue, skip_cons (by decide)]
    dsimp only
    rw [if_neg (by decide), if_neg (by decide), if_pos rfl, List.singleton_append, skip_cons (by decide),
      List.head?_cons, if_pos rfl]
    rfl
  | object (field :: fields), depth, fuel + 1, rest, plain, _, enough => by
    have plain : ((field :: fields).map (·.1)).Nodup ∧ WrittenFields (field :: fields) := plain
    rw [write, List.length_cons] at enough
    have read := readFields_write style field fields depth fuel rest plain.2 (by omega)
    obtain ⟨tail, shape⟩ := @writeFields_cons style depth rest field fields
    rw [write, List.cons_append, readValue, skip_cons (by decide)]
    dsimp only
    rw [if_neg (by decide), if_neg (by decide), if_pos rfl, read, Option.map_some, properties_of_nodup plain.1, if_neg]
    rw [shape, jsonString, List.cons_append, skip_gap (by decide)]
    exact fun same => absurd (Option.some.inj same) (by decide)
  | value, depth, 0, rest, plain, _, enough => by
    obtain ⟨char, chars, split, -⟩ := @write_head style depth _ plain
    rw [split, List.length_cons] at enough
    omega

theorem readItems_write (style : Style) : ∀ (item : Json) (items : List Json) (depth fuel : ℕ) (rest : List Char),
    WrittenItems (item :: items) → 2 * (writeItems style depth (item :: items)).length + 1 ≤ fuel →
    readItems fuel (writeItems style depth (item :: items) ++ rest) = some (item :: items, rest)
  | item, [], depth, fuel + 1, rest, plain, enough => by
    rw [writeItems] at enough ⊢
    simp only [List.length_append] at enough
    simp only [List.append_assoc, List.singleton_append]
    rw [readItems, readValue_blank (style.gap_blank _),
      readValue_write style item (depth + 1) fuel _ plain.1 (stops_gap (by decide) rest) (by omega)]
    dsimp only
    rw [skip_gap (by decide)]
    dsimp only
    rw [if_neg (by decide), if_pos rfl]
  | item, next :: items, depth, fuel + 1, rest, plain, enough => by
    rw [writeItems_step] at enough ⊢
    simp only [List.length_append, List.length_cons] at enough
    simp only [List.append_assoc, List.cons_append]
    rw [readItems, readValue_blank (style.gap_blank _),
      readValue_write style item (depth + 1) fuel _ plain.1 (fun char head => by cases head; decide) (by omega)]
    dsimp only
    rw [skip_cons (by decide)]
    dsimp only
    rw [if_pos rfl, readItems_write style next items depth fuel rest plain.2 (by omega), Option.map_some]

theorem readFields_write (style : Style) : ∀ (field : String × Json) (fields : List (String × Json)) (depth fuel : ℕ)
    (rest : List Char), WrittenFields (field :: fields) →
    2 * (writeFields style depth (field :: fields)).length + 1 ≤ fuel →
    readFields fuel (writeFields style depth (field :: fields) ++ rest) = some (field :: fields, rest)
  | (key, value), [], depth, fuel + 1, rest, plain, enough => by
    obtain ⟨body, written, read⟩ := readString_jsonString key
      (':' :: (style.colon ++ (write style (depth + 1) value ++ (style.gap depth ++ closeBrace :: rest))))
    rw [writeFields] at enough ⊢
    simp only [List.length_append, List.length_cons] at enough
    simp only [List.append_assoc, List.cons_append, List.nil_append]
    rw [readFields, skip_blank (style.gap_blank _), written, List.cons_append, skip_cons (by decide)]
    dsimp only
    rw [if_pos rfl, read]
    dsimp only
    rw [skip_cons (by decide)]
    dsimp only
    rw [if_pos rfl, readValue_blank style.colon_blank,
      readValue_write style value (depth + 1) fuel _ plain.1 (stops_gap closeBrace_stops rest) (by omega)]
    dsimp only
    rw [skip_gap closeBrace_printed]
    dsimp only
    rw [if_neg (by decide), if_pos rfl]
  | (key, value), next :: fields, depth, fuel + 1, rest, plain, enough => by
    obtain ⟨body, written, read⟩ := readString_jsonString key
      (':' :: (style.colon ++ (write style (depth + 1) value ++ ',' :: (writeFields style depth (next :: fields) ++ rest))))
    rw [writeFields_step] at enough ⊢
    simp only [List.length_append, List.length_cons] at enough
    simp only [List.append_assoc, List.cons_append]
    rw [readFields, skip_blank (style.gap_blank _), written, List.cons_append, skip_cons (by decide)]
    dsimp only
    rw [if_pos rfl, read]
    dsimp only
    rw [skip_cons (by decide)]
    dsimp only
    rw [if_pos rfl, readValue_blank style.colon_blank,
      readValue_write style value (depth + 1) fuel _ plain.1 (fun char head => by cases head; decide) (by omega)]
    dsimp only
    rw [skip_cons (by decide)]
    dsimp only
    rw [if_pos rfl, readFields_write style next fields depth fuel rest plain.2 (by omega), Option.map_some]

end

/-- `JSON.parse` reads a written value, unless something is left over. -/
theorem parse_append {value : Json} (written : Written value) (stops : Stops rest) :
    parse (write style depth value ++ rest) = if skip rest = [] then some value else none := by
  have enough : 2 * (write style depth value).length ≤ 2 * (write style depth value ++ rest).length + 2 := by
    rw [List.length_append]
    omega
  rw [parse, readValue_write style value depth _ rest written stops enough]

theorem parse_written {value : Json} (written : Written value) : parse (write style depth value) = some value := by
  have ends : Stops [] := by
    intro char head
    contradiction
  rw [← List.append_nil (write style depth value), parse_append written ends]
  rfl

theorem parse_write_append {value : Json} (plain : Plain value) (stops : Stops rest) :
    parse (write style depth value ++ rest) = if skip rest = [] then some value else none :=
  parse_append plain.written stops

theorem parse_write {value : Json} (plain : Plain value) : parse (write style depth value) = some value :=
  parse_written plain.written

end

end Json

end OmniControlPlane.Lib
