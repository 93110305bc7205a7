import Mathlib.Data.List.Basic
import Mathlib.Data.List.DropRight
import Mathlib.Data.List.Infix
import Mathlib.Tactic.Common

/-! # Encodings of text

JavaScript sees a string as UTF-16 code units, Python encodes it to UTF-8 bytes. Both are the
character codes themselves exactly on ASCII text.
-/

namespace OmniControlPlane.Lib

instance instLawfulBEqChars : LawfulBEq (List Char) := inferInstance

/-- The UTF-16 code units of a character. -/
def utf16Char (char : Char) : List UInt16 :=
  if char.toNat < 0x10000 then [UInt16.ofNat char.toNat]
  else [UInt16.ofNat (0xD800 + (char.toNat - 0x10000) / 0x400),
        UInt16.ofNat (0xDC00 + (char.toNat - 0x10000) % 0x400)]

/-- What `charCodeAt` reads, from the first index to the last. -/
def utf16 (text : String) : List UInt16 := text.toList.flatMap utf16Char

/-- The bytes of `text.encode()`. -/
def utf8 (text : String) : List UInt8 := text.toList.flatMap String.utf8EncodeChar

def Ascii (text : String) : Prop := ∀ char ∈ text.toList, char.toNat < 0x80

instance (text : String) : Decidable (Ascii text) :=
  List.decidableBAll (fun char : Char => char.toNat < 0x80) text.toList

theorem Ascii.append {left right : String} (first : Ascii left) (second : Ascii right) :
    Ascii (left ++ right) := by
  intro char member
  rw [String.toList_append, List.mem_append] at member
  exact member.elim (first char) (second char)

theorem utf16Char_ascii {char : Char} (ascii : char.toNat < 0x80) :
    utf16Char char = [UInt16.ofNat char.toNat] := if_pos (by omega)

theorem Ascii.utf16_length {text : String} (ascii : Ascii text) : (utf16 text).length = text.toList.length := by
  have units : text.toList.map (fun char => (utf16Char char).length) = text.toList.map fun _ => 1 :=
    List.map_congr_left fun char member => by rw [utf16Char_ascii (ascii char member), List.length_singleton]
  rw [utf16, List.length_flatMap, units, List.map_const', List.sum_replicate_nat, Nat.mul_one]

theorem utf8EncodeChar_ascii {char : Char} (ascii : char.toNat < 0x80) :
    String.utf8EncodeChar char = [UInt8.ofNat char.toNat] := by
  have size : char.utf8Size = 1 := Char.utf8Size_eq_one_iff.mpr (by
    change char.toNat ≤ 127
    omega)
  exact String.utf8EncodeChar_eq_singleton size

/-- On ASCII text the code units and the bytes are the same numbers. -/
theorem utf16_eq_utf8 {text : String} (ascii : Ascii text) :
    (utf16 text).map UInt16.toNat = (utf8 text).map UInt8.toNat := by
  unfold utf16 utf8
  unfold Ascii at ascii
  generalize text.toList = chars at ascii
  induction chars with
  | nil => rfl
  | cons char rest ih =>
    have code : char.toNat < 0x80 := ascii char List.mem_cons_self
    have units : UInt16.toNat (UInt16.ofNat char.toNat) = char.toNat :=
      UInt16.toNat_ofNat_of_lt' (by simp [UInt16.size]; omega)
    have bytes : UInt8.toNat (UInt8.ofNat char.toNat) = char.toNat :=
      UInt8.toNat_ofNat_of_lt' (by simp [UInt8.size]; omega)
    rw [List.flatMap_cons, List.flatMap_cons, utf16Char_ascii code, utf8EncodeChar_ascii code,
      List.map_append, List.map_append, ih fun later member => ascii later (List.mem_cons_of_mem _ member),
      List.map_singleton, List.map_singleton, units, bytes]

/-- The text of `bytes.decode("latin-1")`: every byte is a code point. -/
def latin1 (bytes : List UInt8) : List Char := bytes.map fun byte => Char.ofNat byte.toNat

theorem latin1_append (left right : List UInt8) : latin1 (left ++ right) = latin1 left ++ latin1 right :=
  List.map_append

/-- ASCII text survives the way through UTF-8 bytes read as Latin-1. -/
theorem latin1_utf8 {text : String} (ascii : Ascii text) : latin1 (utf8 text) = text.toList := by
  unfold utf8
  unfold Ascii at ascii
  generalize text.toList = chars at ascii
  induction chars with
  | nil => rfl
  | cons char rest ih =>
    have code : char.toNat < 0x80 := ascii char List.mem_cons_self
    have byte : (UInt8.ofNat char.toNat).toNat = char.toNat :=
      UInt8.toNat_ofNat_of_lt' (by simp [UInt8.size]; omega)
    rw [List.flatMap_cons, utf8EncodeChar_ascii code, latin1_append,
      ih fun later member => ascii later (List.mem_cons_of_mem _ member)]
    simp only [latin1, List.map_singleton, byte, Char.ofNat_toNat, List.singleton_append]

/-! ## Decoding -/

/-- The state of a UTF-8 decoder: the bytes it still needs, the code point so far, and the bounds of
the next byte. -/
structure Utf8State where
  needed : ℕ := 0
  code : ℕ := 0
  lower : ℕ := 0x80
  upper : ℕ := 0xBF
deriving DecidableEq, Repr

def replacementChar : Char := Char.ofNat 0xFFFD

/-- The first byte of a character. -/
def utf8Lead (byte : ℕ) : List Char × Utf8State :=
  if byte ≤ 0x7F then ([Char.ofNat byte], {})
  else if 0xC2 ≤ byte ∧ byte ≤ 0xDF then ([], { needed := 1, code := byte % 0x20 })
  else if 0xE0 ≤ byte ∧ byte ≤ 0xEF then
    ([], { needed := 2, code := byte % 0x10, lower := if byte = 0xE0 then 0xA0 else 0x80
           upper := if byte = 0xED then 0x9F else 0xBF })
  else if 0xF0 ≤ byte ∧ byte ≤ 0xF4 then
    ([], { needed := 3, code := byte % 0x08, lower := if byte = 0xF0 then 0x90 else 0x80
           upper := if byte = 0xF4 then 0x8F else 0xBF })
  else ([replacementChar], {})

/-- A byte that does not continue a character is read again as the first one of the next. -/
def utf8Step (state : Utf8State) (byte : ℕ) : List Char × Utf8State :=
  match state.needed with
  | 0 => utf8Lead byte
  | needed + 1 =>
    if state.lower ≤ byte ∧ byte ≤ state.upper then
      let code := state.code * 0x40 + byte % 0x40
      if needed = 0 then ([Char.ofNat code], {}) else ([], { needed := needed, code := code })
    else
      let (chars, next) := utf8Lead byte
      (replacementChar :: chars, next)

def decodeUtf8From : Utf8State → List UInt8 → List Char
  | state, [] => if state.needed = 0 then [] else [replacementChar]
  | state, byte :: rest =>
    let (chars, next) := utf8Step state byte.toNat
    chars ++ decodeUtf8From next rest

/-- `new TextDecoder().decode(bytes)`, which drops a byte order mark. -/
def decodeUtf8 (bytes : List UInt8) : String :=
  match decodeUtf8From {} bytes with
  | [] => ""
  | first :: rest => String.ofList (if first.toNat = 0xFEFF then rest else first :: rest)

/-- A byte within its bounds ends a character or brings it one byte closer to its end. -/
theorem decodeUtf8From_continue {needed code lower upper : ℕ} {byte : UInt8} {rest : List UInt8}
    (bounds : lower ≤ byte.toNat ∧ byte.toNat ≤ upper) :
    decodeUtf8From ⟨needed + 1, code, lower, upper⟩ (byte :: rest) =
      if needed = 0 then Char.ofNat (code * 0x40 + byte.toNat % 0x40) :: decodeUtf8From {} rest
      else decodeUtf8From { needed := needed, code := code * 0x40 + byte.toNat % 0x40 } rest := by
  rw [decodeUtf8From, utf8Step]
  dsimp only
  rw [if_pos bounds]
  split <;> rfl

theorem decodeUtf8From_lead {lead : UInt8} {state : Utf8State} (leads : utf8Lead lead.toNat = ([], state))
    (rest : List UInt8) : decodeUtf8From {} (lead :: rest) = decodeUtf8From state rest := by
  change (utf8Lead lead.toNat).1 ++ decodeUtf8From (utf8Lead lead.toNat).2 rest = _
  rw [leads]
  rfl

/-- A character is read back from its bytes. -/
theorem decodeUtf8From_utf8EncodeChar (char : Char) (rest : List UInt8) :
    decodeUtf8From {} (String.utf8EncodeChar char ++ rest) = char :: decodeUtf8From {} rest := by
  have valid : char.toNat < 0xD800 ∨ 0xDFFF < char.toNat ∧ char.toNat < 0x110000 := char.valid
  have byte (number : ℕ) (small : number < 256) : (UInt8.ofNat number).toNat = number :=
    UInt8.toNat_ofNat_of_lt' (by simpa [UInt8.size] using small)
  unfold String.utf8EncodeChar
  rw [show char.val.toNat = char.toNat from rfl]
  dsimp only
  split
  · next one =>
    change (utf8Lead (UInt8.ofNat char.toNat).toNat).1 ++ decodeUtf8From (utf8Lead (UInt8.ofNat char.toNat).toNat).2 rest = _
    rw [byte _ (by omega), utf8Lead, if_pos one, Char.ofNat_toNat]
    rfl
  split
  · next one two =>
    have first := byte (char.toNat / 64 % 32 + 192) (by omega)
    have last := byte (char.toNat % 64 + 128) (by omega)
    rw [List.cons_append, List.cons_append, List.nil_append, decodeUtf8From_lead (by
      rw [first, utf8Lead, if_neg (by omega), if_pos (by omega)]), decodeUtf8From_continue (by rw [last]; omega), if_pos rfl,
      last, show (char.toNat / 64 % 32 + 192) % 32 * 64 + (char.toNat % 64 + 128) % 64 = char.toNat by omega,
      Char.ofNat_toNat]
  split
  · next one two three =>
    have first := byte (char.toNat / 4096 % 16 + 224) (by omega)
    have second := byte (char.toNat / 64 % 64 + 128) (by omega)
    have last := byte (char.toNat % 64 + 128) (by omega)
    rw [List.cons_append, List.cons_append, List.cons_append, List.nil_append, decodeUtf8From_lead (by
      rw [first, utf8Lead, if_neg (by omega), if_neg (by omega), if_pos (by omega)]),
      decodeUtf8From_continue (by rw [second]; constructor <;> split <;> omega), if_neg (by decide),
      decodeUtf8From_continue (by rw [last]; omega), if_pos rfl, second, last,
      show ((char.toNat / 4096 % 16 + 224) % 16 * 64 + (char.toNat / 64 % 64 + 128) % 64) * 64 +
        (char.toNat % 64 + 128) % 64 = char.toNat by omega, Char.ofNat_toNat]
  · next one two three =>
    have first := byte (char.toNat / 262144 % 8 + 240) (by omega)
    have second := byte (char.toNat / 4096 % 64 + 128) (by omega)
    have third := byte (char.toNat / 64 % 64 + 128) (by omega)
    have last := byte (char.toNat % 64 + 128) (by omega)
    rw [List.cons_append, List.cons_append, List.cons_append, List.cons_append, List.nil_append, decodeUtf8From_lead (by
      rw [first, utf8Lead, if_neg (by omega), if_neg (by omega), if_neg (by omega), if_pos (by omega)]),
      decodeUtf8From_continue (by rw [second]; constructor <;> split <;> omega), if_neg (by decide),
      decodeUtf8From_continue (by rw [third]; omega), if_neg (by decide),
      decodeUtf8From_continue (by rw [last]; omega), if_pos rfl, second, third, last,
      show (((char.toNat / 262144 % 8 + 240) % 8 * 64 + (char.toNat / 4096 % 64 + 128) % 64) * 64 +
        (char.toNat / 64 % 64 + 128) % 64) * 64 + (char.toNat % 64 + 128) % 64 = char.toNat by omega, Char.ofNat_toNat]

/-- The bytes of a text are read back, a mark at the beginning included. -/
theorem decodeUtf8From_utf8 (text : String) : decodeUtf8From {} (utf8 text) = text.toList := by
  rw [utf8]
  induction text.toList with
  | nil => rfl
  | cons char rest ih => rw [List.flatMap_cons, decodeUtf8From_utf8EncodeChar, ih]

theorem utf8_injective {left right : String} (same : utf8 left = utf8 right) : left = right := by
  rw [← String.toList_inj, ← decodeUtf8From_utf8 left, ← decodeUtf8From_utf8 right, same]

/-- Text without a leading byte order mark is read back from its bytes. -/
theorem decodeUtf8_utf8 {text : String} (unmarked : ∀ char ∈ text.toList.head?, char.toNat ≠ 0xFEFF) :
    decodeUtf8 (utf8 text) = text := by
  rw [decodeUtf8, decodeUtf8From_utf8]
  split
  · next empty => exact (String.toList_eq_nil_iff.mp empty).symm
  · next first rest split =>
    rw [if_neg (unmarked first (by rw [split]; rfl)), ← split, String.ofList_toList]

/-- A comparison that goes through all bytes, whatever it has met, finds no difference exactly between equals. -/
theorem foldl_mismatch_iff {first second : List UInt8} (lengths : first.length = second.length) (mismatch : UInt8) :
    (first.zip second).foldl (fun mismatch pair => mismatch ||| (pair.1 ^^^ pair.2)) mismatch = 0 ↔
      mismatch = 0 ∧ first = second := by
  induction first generalizing second mismatch with
  | nil =>
    obtain rfl := List.length_eq_zero_iff.mp lengths.symm
    exact (and_iff_left rfl).symm
  | cons byte rest ih =>
    cases second with
    | nil => contradiction
    | cons other more =>
      rw [List.zip_cons_cons, List.foldl_cons, ih (Nat.succ.inj lengths), UInt8.or_eq_zero_iff, UInt8.xor_eq_zero_iff,
        List.cons.injEq, and_assoc]

/-- The value of a letter of the base64 alphabet. -/
def base64Value (char : Char) : Option ℕ :=
  if 'A' ≤ char ∧ char ≤ 'Z' then some (char.toNat - 65)
  else if 'a' ≤ char ∧ char ≤ 'z' then some (char.toNat - 97 + 26)
  else if '0' ≤ char ∧ char ≤ '9' then some (char.toNat - 48 + 52)
  else if char = '+' then some 62
  else if char = '/' then some 63
  else none

/-- The bytes of groups of six bits; bits that fill no byte are dropped. -/
def base64Bytes : List ℕ → List UInt8
  | a :: b :: c :: d :: rest =>
    let bits := ((a * 64 + b) * 64 + c) * 64 + d
    UInt8.ofNat (bits / 65536) :: UInt8.ofNat (bits / 256 % 256) :: UInt8.ofNat (bits % 256) :: base64Bytes rest
  | [a, b, c] =>
    let bits := (a * 64 + b) * 64 + c
    [UInt8.ofNat (bits / 1024), UInt8.ofNat (bits / 4 % 256)]
  | [a, b] => [UInt8.ofNat ((a * 64 + b) / 16)]
  | _ => []

/-- `atob`, as bytes: white space and the padding are ignored. -/
def atob (text : List Char) : Option (List UInt8) :=
  let stripped := text.filter fun char => !(char.toNat ∈ [9, 10, 12, 13, 32])
  let padding := if stripped.length % 4 = 0 then ((stripped.reverse.take 2).takeWhile (· = '=')).length else 0
  let letters := stripped.take (stripped.length - padding)
  if letters.length % 4 = 1 then none else (letters.mapM base64Value).map base64Bytes

/-! ## JSON -/

/-- A character inside a JSON string. -/
def jsonChar (char : Char) : List Char :=
  let backslash := Char.ofNat 92
  match char.toNat with
  | 8 => [backslash, 'b']
  | 9 => [backslash, 't']
  | 10 => [backslash, 'n']
  | 12 => [backslash, 'f']
  | 13 => [backslash, 'r']
  | 34 => [backslash, char]
  | 92 => [backslash, char]
  | code =>
    if code < 32 then [backslash, 'u', '0', '0', Nat.digitChar (code / 16), Nat.digitChar (code % 16)] else [char]

def jsonString (text : String) : List Char :=
  Char.ofNat 34 :: (text.toList.flatMap jsonChar ++ [Char.ofNat 34])

def jsonNumber (number : ℕ) : List Char := (toString number).toList

def jsonArray (items : List (List Char)) : List Char := '[' :: (List.intercalate [','] items ++ [']'])

def jsonObject (fields : List (String × List Char)) : List Char :=
  Char.ofNat 0x7B :: (List.intercalate [','] (fields.map fun field => jsonString field.1 ++ ':' :: field.2) ++
    [Char.ofNat 0x7D])

/-! ## White space -/

/-- The white space that `trim` removes, and `\s` matches. -/
def isJsSpace (char : Char) : Bool :=
  let code := char.toNat
  (9 ≤ code && code ≤ 13) || (0x2000 ≤ code && code ≤ 0x200A) ||
    code ∈ [0x20, 0xA0, 0x1680, 0x2028, 0x2029, 0x202F, 0x205F, 0x3000, 0xFEFF]

def trim (text : String) : List Char := (text.toList.dropWhile isJsSpace).rdropWhile isJsSpace

theorem trim_of_no_space {text : String} (letters : ∀ char ∈ text.toList, isJsSpace char = false) :
    trim text = text.toList := by
  have front : text.toList.dropWhile isJsSpace = text.toList := by
    cases parts : text.toList with
    | nil => rfl
    | cons char rest =>
      rw [List.dropWhile_cons, letters char (by simp [parts])]
      rfl
  rw [trim, front, List.rdropWhile_eq_self_iff]
  intro nonempty spaced
  rw [letters _ (List.getLast_mem nonempty)] at spaced
  contradiction

/-! ## Splitting -/

section

variable {α : Type*}

/-- `text.split()`: the maximal runs of letters that are no spaces. -/
def words (space : α → Bool) (text : List α) : List (List α) :=
  (text.splitOnP space).filter (!·.isEmpty)

theorem words_append_cons {space : α → Bool} (left right : List α) {gap : α} (isSpace : space gap = true) :
    words space (left ++ gap :: right) = words space left ++ words space right := by
  rw [words, List.splitOnP_append_cons left right isSpace, List.filter_append, words, words]

theorem words_of_word {space : α → Bool} {word : List α} (letters : ∀ letter ∈ word, space letter = false)
    (nonempty : word ≠ []) : words space word = [word] := by
  simp [words, List.splitOnP_eq_singleton letters, nonempty]

theorem words_ne_nil {space : α → Bool} {letter : α} {text : List α} (member : letter ∈ text)
    (isLetter : space letter = false) : words space text ≠ [] := by
  induction text with
  | nil => contradiction
  | cons head rest ih =>
    rw [words, List.splitOnP_cons_eq_if_modifyHead]
    cases isSpace : space head with
    | true =>
      have later : letter ∈ rest := (List.mem_cons.mp member).resolve_left fun same => by
        rw [← same, isLetter] at isSpace
        contradiction
      simpa [words] using ih later
    | false =>
      obtain ⟨first, others, split⟩ := List.exists_cons_of_ne_nil (List.splitOnP_ne_nil space rest)
      simp [split]

/-- `slices`, for at most `fuel` of them. -/
def slicesFrom (size : ℕ) : ℕ → List α → List (List α)
  | 0, _ => []
  | _ + 1, [] => []
  | fuel + 1, item :: rest => (item :: rest).take size :: slicesFrom size fuel ((item :: rest).drop size)

/-- Slices of a fixed size, the last one shorter. -/
def slices (size : ℕ) (items : List α) : List (List α) := slicesFrom size items.length items

theorem slicesFrom_flatten {size : ℕ} (positive : 0 < size) {fuel : ℕ} {items : List α} (enough : items.length ≤ fuel) :
    (slicesFrom size fuel items).flatten = items := by
  induction fuel generalizing items with
  | zero => rw [List.length_eq_zero_iff.mp (Nat.le_zero.mp enough), slicesFrom, List.flatten_nil]
  | succ fuel ih =>
    cases items with
    | nil => rfl
    | cons item rest =>
      have shorter : ((item :: rest).drop size).length ≤ fuel := by
        rw [List.length_drop, List.length_cons]
        rw [List.length_cons] at enough
        omega
      rw [slicesFrom, List.flatten_cons, ih shorter, List.take_append_drop]

/-- The slices are the items. -/
@[simp] theorem slices_flatten {size : ℕ} (positive : 0 < size) (items : List α) : (slices size items).flatten = items :=
  slicesFrom_flatten positive (Nat.le_refl _)

variable [DecidableEq α]

/-- What stands before and after the first occurrence of a separator. -/
def splitOnce (separator : List α) : List α → Option (List α × List α)
  | [] => if separator = [] then some ([], []) else none
  | head :: rest =>
    if separator <+: head :: rest then some ([], (head :: rest).drop separator.length)
    else (splitOnce separator rest).map fun parts => (head :: parts.1, parts.2)

variable {separator text before after : List α}

theorem splitOnce_length (found : splitOnce separator text = some (before, after)) :
    separator.length ≤ text.length := by
  induction text generalizing before after with
  | nil =>
    simp only [splitOnce] at found
    split at found
    · next empty => simp [empty]
    · contradiction
  | cons head rest ih =>
    rw [splitOnce] at found
    split at found
    · next isPrefix => exact isPrefix.length_le
    · obtain ⟨parts, later, -⟩ := Option.map_eq_some_iff.mp found
      have := ih later
      simp only [List.length_cons]
      omega

/-- A separator does not occur where its first letter does not. -/
theorem splitOnce_eq_none {letter : α} {tail : List α} (absent : letter ∉ text) :
    splitOnce (letter :: tail) text = none := by
  induction text with
  | nil => rfl
  | cons head rest ih =>
    have notPrefix : ¬ letter :: tail <+: head :: rest := fun isPrefix =>
      absent ((List.cons_prefix_cons.mp isPrefix).1 ▸ List.mem_cons_self)
    rw [splitOnce, if_neg notPrefix, ih fun member => absent (List.mem_cons_of_mem _ member), Option.map_none]

/-- More text at the end does not move the first occurrence. -/
theorem splitOnce_append (found : splitOnce separator text = some (before, after)) (more : List α) :
    splitOnce separator (text ++ more) = some (before, after ++ more) := by
  induction text generalizing before after with
  | nil =>
    simp only [splitOnce] at found
    split at found
    · next empty =>
      cases found
      subst empty
      cases more <;> simp [splitOnce]
    · contradiction
  | cons head rest ih =>
    rw [splitOnce] at found
    rw [List.cons_append, splitOnce]
    split at found
    · next isPrefix =>
      cases found
      have longer : separator <+: head :: (rest ++ more) := isPrefix.trans (List.prefix_append (head :: rest) more)
      rw [if_pos longer, ← List.cons_append, List.drop_append_of_le_length isPrefix.length_le]
    · next notPrefix =>
      obtain ⟨⟨front, back⟩, later, same⟩ := Option.map_eq_some_iff.mp found
      cases same
      have fits : separator.length ≤ (head :: rest).length := by
        have := splitOnce_length later
        simp only [List.length_cons]
        omega
      have stillNot : ¬ separator <+: head :: (rest ++ more) := fun longer =>
        notPrefix (List.prefix_of_prefix_length_le longer (List.prefix_append (head :: rest) more) fits)
      rw [if_neg stillNot, ih later, Option.map_some]

/-- A separator whose first letter does not occur again in it is found where it is appended, unless it
occurs before. -/
theorem splitOnce_separator {letter : α} {tail : List α} (once : letter ∉ tail)
    (absent : splitOnce (letter :: tail) text = none) (more : List α) :
    splitOnce (letter :: tail) (text ++ letter :: (tail ++ more)) = some (text, more) := by
  induction text with
  | nil =>
    have found : letter :: tail <+: letter :: (tail ++ more) := List.prefix_append (letter :: tail) more
    rw [List.nil_append, splitOnce, if_pos found]
    simp
  | cons head rest ih =>
    rw [splitOnce] at absent
    split at absent
    · contradiction
    · next notPrefix =>
      have stillNot : ¬ letter :: tail <+: head :: (rest ++ letter :: (tail ++ more)) := by
        intro longer
        obtain ⟨rfl, tailPrefix⟩ := List.cons_prefix_cons.mp longer
        by_cases fits : tail.length ≤ rest.length
        · exact notPrefix (List.cons_prefix_cons.mpr ⟨rfl,
            List.prefix_of_prefix_length_le tailPrefix (List.prefix_append _ _) fits⟩)
        · have inside : rest.length < tail.length := by omega
          have recurs := tailPrefix.getElem inside
          rw [List.getElem_append_right (Nat.le_refl _)] at recurs
          simp only [Nat.sub_self, List.getElem_cons_zero] at recurs
          exact once (recurs ▸ List.getElem_mem inside)
      rw [List.cons_append, splitOnce, if_neg stillNot, ih (Option.map_eq_none_iff.mp absent), Option.map_some]

end

/-! ## Parts between separators -/

section

variable {α : Type*} [DecidableEq α] {separator : α} {text part : List α}

/-- A text is its first part, and what stands behind the separator after it. -/
theorem splitOn_cases (separator : α) (text : List α) :
    (separator ∉ text ∧ text.splitOn separator = [text]) ∨
      ∃ first rest, text = first ++ separator :: rest ∧ separator ∉ first ∧
        text.splitOn separator = first :: rest.splitOn separator := by
  by_cases member : separator ∈ text
  · obtain ⟨first, rest, split, absent⟩ := List.eq_append_cons_of_mem member
    exact .inr ⟨first, rest, split, absent, split ▸ List.splitOn_append_cons_self_of_not_mem absent rest⟩
  · exact .inl ⟨member, List.splitOn_eq_singleton member⟩

theorem mem_splitOn_facts (member : part ∈ text.splitOn separator) : separator ∉ part ∧ part <:+: text := by
  induction length : text.length using Nat.strong_induction_on generalizing text with
  | _ size ih =>
    rcases splitOn_cases separator text with ⟨absent, single⟩ | ⟨first, rest, rfl, absent, split⟩
    · obtain rfl := List.mem_singleton.mp (single ▸ member)
      exact ⟨absent, List.infix_rfl⟩
    · rcases List.mem_cons.mp (split ▸ member) with rfl | later
      · exact ⟨absent, (List.prefix_append _ _).isInfix⟩
      · have shorter : rest.length < size := by
          rw [← length, List.length_append, List.length_cons]
          omega
        obtain ⟨clear, inside⟩ := ih _ shorter later rfl
        exact ⟨clear, inside.trans ((List.suffix_cons _ _).trans (List.suffix_append _ _)).isInfix⟩

theorem splitOn_eq_pair_iff {first second : List α} : text.splitOn separator = [first, second] ↔
    text = first ++ separator :: second ∧ separator ∉ first ∧ separator ∉ second := by
  constructor
  · intro split
    have joined : [separator].intercalate (text.splitOn separator) = text := List.intercalate_splitOn separator
    rw [split, List.intercalate_cons_cons, List.intercalate_singleton, List.append_assoc, List.singleton_append] at joined
    have parts (part : List α) (member : part ∈ [first, second]) : separator ∉ part :=
      (mem_splitOn_facts (split ▸ member)).1
    exact ⟨joined.symm, parts first (by simp), parts second (by simp)⟩
  · rintro ⟨rfl, absent, absent'⟩
    rw [List.splitOn_append_cons_self_of_not_mem absent, List.splitOn_eq_singleton absent']

end

/-! ## Parts of a text -/

section

variable {α : Type*} {part left right text : List α} {separator : α}

/-- A part without the separator is on one side of it. -/
theorem infix_append_cons_iff (absent : separator ∉ part) :
    part <:+: left ++ separator :: right ↔ part <:+: left ∨ part <:+: separator :: right := by
  constructor
  · rintro ⟨before, after, split⟩
    rcases List.append_eq_append_iff.mp split with ⟨middle, rfl, -⟩ | ⟨middle, reached, behind⟩
    · exact .inl (List.infix_append before part middle)
    · cases middle with
      | nil => exact .inl ⟨before, [], reached.trans (List.append_nil left) ▸ List.append_nil _⟩
      | cons head middle =>
        obtain ⟨rfl, rfl⟩ := List.cons.inj behind
        rcases List.append_eq_append_iff.mp reached with ⟨cut, -, crossed⟩ | ⟨cut, -, crossed⟩
        · have member : separator ∈ part := by
            rw [crossed]
            exact List.mem_append_right cut List.mem_cons_self
          exact absurd member absent
        · exact .inr ⟨cut, after, congrArg (· ++ after) crossed.symm⟩
  · rintro (inside | inside)
    · exact List.infix_append_of_infix_left inside
    · exact List.infix_append_of_infix_right inside

/-- The last mark of two equal texts is one. -/
theorem append_cons_inj {mark : α} {first first' last last' : List α} (absent : mark ∉ last) (absent' : mark ∉ last')
    (same : first ++ mark :: last = first' ++ mark :: last') : first = first' ∧ last = last' := by
  rcases List.append_eq_append_iff.mp same with ⟨middle, rfl, split⟩ | ⟨middle, rfl, split⟩
  · cases middle with
    | nil =>
      obtain ⟨-, rfl⟩ := List.cons.inj split
      exact ⟨(List.append_nil _).symm, rfl⟩
    | cons head middle =>
      obtain ⟨-, rfl⟩ := List.cons.inj split
      exact absurd (List.mem_append_right middle List.mem_cons_self) absent
  · cases middle with
    | nil =>
      obtain ⟨-, rfl⟩ := List.cons.inj split
      exact ⟨List.append_nil _, rfl⟩
    | cons head middle =>
      obtain ⟨-, rfl⟩ := List.cons.inj split
      exact absurd (List.mem_append_right middle List.mem_cons_self) absent'

variable {p : α → Bool}

theorem infix_dropWhile_iff (clear : ∀ item ∈ part, p item = false) :
    part <:+: text.dropWhile p ↔ part <:+: text := by
  induction text with
  | nil => exact Iff.rfl
  | cons head rest ih =>
    rw [List.dropWhile_cons]
    split
    · next dropped =>
      rw [ih, List.infix_cons_iff]
      refine ⟨.inr, fun inside => inside.elim (fun start => ?_) id⟩
      cases part with
      | nil => exact List.nil_infix
      | cons item part =>
        obtain rfl := (List.cons_prefix_cons.mp start).1
        exact absurd (clear item List.mem_cons_self) (by rw [dropped]; exact Bool.noConfusion)
    · exact Iff.rfl

theorem infix_rdropWhile_iff (clear : ∀ item ∈ part, p item = false) :
    part <:+: text.rdropWhile p ↔ part <:+: text := by
  rw [List.rdropWhile, ← List.reverse_infix, List.reverse_reverse, infix_dropWhile_iff, List.reverse_infix]
  intro item member
  exact clear item (List.mem_reverse.mp member)

end

theorem not_mem_toDigits {char : Char} (other : char.isDigit = false) (number : ℕ) : char ∉ Nat.toDigits 10 number := by
  intro member
  have digit := Nat.isDigit_of_mem_toDigits (by decide) (by decide) member
  rw [other] at digit
  contradiction

/-- A text with anything to see in it is not blank. -/
theorem trim_ne_nil {line : List Char} {char : Char} (member : char ∈ line) (visible : isJsSpace char = false) :
    trim (String.ofList line) ≠ [] := by
  intro blank
  have inside : [char] <:+: line := by
    obtain ⟨front, back, rfl⟩ := List.append_of_mem member
    exact ⟨front, back, by simp⟩
  have clear : ∀ other ∈ [char], isJsSpace other = false := by simpa using visible
  have kept : [char] <:+: trim (String.ofList line) := by
    rw [trim, String.toList_ofList, infix_rdropWhile_iff clear, infix_dropWhile_iff clear]
    exact inside
  rw [blank, List.infix_nil] at kept
  contradiction

end OmniControlPlane.Lib
