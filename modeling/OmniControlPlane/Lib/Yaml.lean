import Mathlib.Data.List.Forall2
import OmniControlPlane.Lib.Json

/-! # YAML

A reader for documents of block mappings and block sequences, whose keys are plain and whose scalars and flow
sequences end on the line where they begin. A plain scalar is resolved by the core schema. A document that
needs more of YAML than this is not read.
-/

namespace OmniControlPlane.Lib

inductive Yaml where
  | null
  | bool (value : Bool)
  | int (value : ℤ)
  | float (text : List Char)
  | string (value : String)
  | seq (items : List Yaml)
  | map (fields : List (String × Yaml))

namespace Yaml

def field? (key : String) : Yaml → Option Yaml
  | map fields => fields.lookup key
  | _ => none

/-! ## The core schema -/

def dropSign : List Char → List Char
  | [] => []
  | first :: rest => if first = '-' ∨ first = '+' then rest else first :: rest

def isDigits (text : List Char) : Bool := text ≠ [] && text.all (·.isDigit)

/-- `([eE][-+]?[0-9]+)?` -/
def isExponent : List Char → Bool
  | [] => true
  | letter :: rest => (letter = 'e' || letter = 'E') && isDigits (dropSign rest)

/-- `(\.[0-9]+|[0-9]+(\.[0-9]*)?)([eE][-+]?[0-9]+)?` -/
def isUnsignedFloat (text : List Char) : Bool :=
  let whole := text.takeWhile (·.isDigit)
  match text.dropWhile (·.isDigit) with
  | [] => whole ≠ []
  | next :: rest =>
    if next = '.' then
      (whole ≠ [] || rest.takeWhile (·.isDigit) ≠ []) && isExponent (rest.dropWhile (·.isDigit))
    else whole ≠ [] && isExponent (next :: rest)

def isFloat (text : List Char) : Bool :=
  isUnsignedFloat (dropSign text) || dropSign text ∈ [".inf".toList, ".Inf".toList, ".INF".toList] ||
    text ∈ [".nan".toList, ".NaN".toList, ".NAN".toList]

/-- The number of the digits of a base. -/
def ofDigits (base : ℕ) (digits : List Char) : Option ℕ :=
  digits.foldlM (fun number digit => do
    let digit ← Json.hexDigit? digit
    if digit < base then some (number * base + digit) else none) 0

/-- `[-+]?[0-9]+`, `0o[0-7]+` or `0x[0-9a-fA-F]+` -/
def integer? (text : List Char) : Option ℤ :=
  if isDigits (dropSign text) then
    let size := Nat.ofDigitChars 10 (dropSign text) 0
    some (if text.head? = some '-' then -size else size)
  else if text.take 2 = ['0', 'o'] ∧ text.drop 2 ≠ [] then (ofDigits 8 (text.drop 2)).map Int.ofNat
  else if text.take 2 = ['0', 'x'] ∧ text.drop 2 ≠ [] then (ofDigits 16 (text.drop 2)).map Int.ofNat
  else none

def nullWords : List (List Char) := [[], "~".toList, "null".toList, "Null".toList, "NULL".toList]

def trueWords : List (List Char) := ["true".toList, "True".toList, "TRUE".toList]

def falseWords : List (List Char) := ["false".toList, "False".toList, "FALSE".toList]

/-- What a plain scalar stands for. -/
def resolve (text : List Char) : Yaml :=
  if text ∈ nullWords then null
  else if text ∈ trueWords then bool true
  else if text ∈ falseWords then bool false
  else
    match integer? text with
    | some value => int value
    | none => if isFloat text then float text else string (String.ofList text)

/-! ## Scalars -/

def isBlank (char : Char) : Bool := char.toNat ∈ [9, 32]

def isIndicator (char : Char) : Bool :=
  char.toNat ∈ [33, 34, 35, 37, 38, 39, 42, 44, 62, 64, 91, 93, 96, 123, 124, 125]

/-- A line is not left open, and says nothing more but a comment. -/
def isTrail (text : List Char) : Bool :=
  match text.dropWhile isBlank with
  | [] => true
  | first :: _ => first = '#' && text.head?.any isBlank

/-- No colon and no comment begins in the text. -/
def isPlainRest : List Char → Bool
  | [] => true
  | [last] => last ≠ ':' && 32 < last.toNat
  | first :: second :: rest =>
    !(first = ':' && isBlank second) && !(isBlank first && second = '#') && (32 ≤ first.toNat || isBlank first) &&
      isPlainRest (second :: rest)

/-- A text that can stand as a plain scalar. -/
def isPlain (text : List Char) : Bool :=
  match text with
  | [] => false
  | first :: rest =>
    !isBlank first && !isIndicator first &&
      (!(first = '-' || first = '?' || first = ':') || rest.head?.any fun next => !isBlank next) && isPlainRest text

/-- The character of a one-letter escape. -/
def unescape? (char : Char) : Option Char :=
  match char.toNat with
  | 48 => some (Char.ofNat 0)
  | 97 => some (Char.ofNat 7)
  | 98 => some (Char.ofNat 8)
  | 116 => some (Char.ofNat 9)
  | 9 => some (Char.ofNat 9)
  | 110 => some (Char.ofNat 10)
  | 118 => some (Char.ofNat 11)
  | 102 => some (Char.ofNat 12)
  | 114 => some (Char.ofNat 13)
  | 101 => some (Char.ofNat 27)
  | 32 => some ' '
  | 34 => some char
  | 47 => some char
  | 92 => some char
  | 78 => some (Char.ofNat 0x85)
  | 95 => some (Char.ofNat 0xA0)
  | 76 => some (Char.ofNat 0x2028)
  | 80 => some (Char.ofNat 0x2029)
  | _ => none

/-- How many hexadecimal digits an escape has. -/
def hexWidth (char : Char) : ℕ := if char = 'x' then 2 else if char = 'u' then 4 else if char = 'U' then 8 else 0

/-- The text of a double-quoted scalar after its opening quote, and what follows its closing one. -/
def readDouble : ℕ → List Char → Option (List Char × List Char)
  | 0, _ => none
  | _ + 1, [] => none
  | fuel + 1, char :: rest =>
    if char = Json.quote then some ([], rest)
    else if char.toNat = 92 then
      match rest with
      | [] => none
      | escape :: rest =>
        if hexWidth escape = 0 then do
          let char ← unescape? escape
          let (text, after) ← readDouble fuel rest
          some (char :: text, after)
        else if rest.length < hexWidth escape then none
        else do
          let code ← ofDigits 16 (rest.take (hexWidth escape))
          let (text, after) ← readDouble fuel (rest.drop (hexWidth escape))
          if code.isValidChar then some (Char.ofNat code :: text, after) else none
    else if char.toNat < 32 ∧ char.toNat ≠ 9 then none
    else do
      let (text, after) ← readDouble fuel rest
      some (char :: text, after)

/-- The text of a single-quoted scalar after its opening quote, and what follows its closing one. -/
def readSingle : ℕ → List Char → Option (List Char × List Char)
  | 0, _ => none
  | _ + 1, [] => none
  | fuel + 1, char :: rest =>
    if char.toNat = 39 then
      match rest with
      | [] => some ([], [])
      | next :: after =>
        if next.toNat = 39 then (readSingle fuel after).map fun read => (next :: read.1, read.2) else some ([], next :: after)
    else if char.toNat < 32 ∧ char.toNat ≠ 9 then none
    else (readSingle fuel rest).map fun read => (char :: read.1, read.2)

/-- An item of a flow sequence, and what follows it. -/
def readFlowItem (text : List Char) : Option (Yaml × List Char) :=
  match text with
  | [] => none
  | first :: rest =>
    if first = Json.quote then (readDouble text.length rest).map fun read => (string (String.ofList read.1), read.2)
    else if first.toNat = 39 then (readSingle text.length rest).map fun read => (string (String.ofList read.1), read.2)
    else
      let isWord := fun char => !(char = ',' || char = '[' || char = ']' || char.toNat = 123 || char.toNat = 125)
      let word := (text.takeWhile isWord).rdropWhile isBlank
      if isPlain word then some (resolve word, text.dropWhile isWord) else none

/-- The items of a flow sequence after its bracket, and what follows it. -/
def readFlow : ℕ → List Char → Option (List Yaml × List Char)
  | 0, _ => none
  | fuel + 1, text => do
    let (item, after) ← readFlowItem (text.dropWhile isBlank)
    match after.dropWhile isBlank with
    | [] => none
    | next :: rest =>
      if next = ']' then some ([item], rest)
      else if next = ',' then (readFlow fuel rest).map fun read => (item :: read.1, read.2)
      else none

/-- A value that stands on one line. -/
def readInline (text : List Char) : Option Yaml :=
  match text with
  | [] => none
  | first :: rest =>
    if first = Json.quote then do
      let (value, after) ← readDouble text.length rest
      if isTrail after then some (string (String.ofList value)) else none
    else if first.toNat = 39 then do
      let (value, after) ← readSingle text.length rest
      if isTrail after then some (string (String.ofList value)) else none
    else if first = '[' then do
      let (items, after) ← readFlow text.length rest
      if isTrail after then some (seq items) else none
    else if isPlain text then some (resolve text) else none

/-! ## Lines -/

/-- What stands on a line: the dash of an item, a key with its value if that is on the line, or a scalar. -/
inductive Token where
  | dash
  | entry (key : String) (value : Option Yaml)
  | scalar (value : Yaml)

/-- A key and what follows its colon. -/
def splitKey : List Char → Option (List Char × List Char)
  | [] => none
  | [last] => if last = ':' then some ([], []) else none
  | first :: second :: rest =>
    if first = ':' ∧ second = ' ' then some ([], rest)
    else (splitKey (second :: rest)).map fun parts => (first :: parts.1, parts.2)

def isQuoted (text : List Char) : Bool := text.head?.any fun first => first = Json.quote || first.toNat = 39

/-- The key of a line, or its scalar. -/
def readContent (text : List Char) : Option Token :=
  match if isQuoted text then none else splitKey text with
  | none => (readInline text).map .scalar
  | some (key, value) =>
    if isPlain key then
      let value := value.dropWhile isBlank
      if value = [] then some (.entry (String.ofList key) none)
      else (readInline value).map fun value => .entry (String.ofList key) (some value)
    else none

/-- The tokens of a line, each with its column. -/
def readTokens : ℕ → ℕ → List Char → Option (List (ℕ × Token))
  | 0, _, _ => none
  | fuel + 1, column, text =>
    match text with
    | [] => some []
    | first :: rest =>
      if first = ' ' then readTokens fuel (column + 1) rest
      else if first = '-' ∧ (rest = [] ∨ rest.head? = some ' ') then
        (readTokens fuel (column + 1) rest).map ((column, .dash) :: ·)
      else (readContent text).map fun token => [(column, token)]

def readLine (text : List Char) : Option (List (ℕ × Token)) := readTokens (text.length + 1) 0 text

/-! ## Blocks -/

mutual

/-- A value, and the tokens after it. -/
def readNode : ℕ → List (ℕ × Token) → Option (Yaml × List (ℕ × Token))
  | 0, _ => none
  | _ + 1, [] => none
  | fuel + 1, (column, token) :: rest =>
    match token with
    | .scalar value => some (value, rest)
    | .dash => (readItems fuel column ((column, token) :: rest)).map fun read => (seq read.1, read.2)
    | .entry _ _ => (readFields fuel column ((column, token) :: rest)).map fun read => (map read.1, read.2)

/-- The items of a sequence in a column. -/
def readItems : ℕ → ℕ → List (ℕ × Token) → Option (List Yaml × List (ℕ × Token))
  | 0, _, _ => none
  | _ + 1, _, [] => some ([], [])
  | fuel + 1, column, (inner, token) :: rest =>
    if column < inner then none
    else if inner < column then some ([], (inner, token) :: rest)
    else
      match token with
      | .dash => do
        let (item, rest) ← if rest.head?.any fun next => column < next.1 then readNode fuel rest else some (null, rest)
        let (items, rest) ← readItems fuel column rest
        some (item :: items, rest)
      | _ => some ([], (inner, token) :: rest)

/-- The fields of a mapping in a column; no key stands there twice. -/
def readFields : ℕ → ℕ → List (ℕ × Token) → Option (List (String × Yaml) × List (ℕ × Token))
  | 0, _, _ => none
  | _ + 1, _, [] => some ([], [])
  | fuel + 1, column, (inner, token) :: rest =>
    if column < inner then none
    else if inner < column then some ([], (inner, token) :: rest)
    else
      match token with
      | .entry key value => do
        let (value, rest) ←
          match value with
          | some value => some (value, rest)
          | none =>
            if rest.head?.any fun next => column < next.1 then readNode fuel rest
            else if rest.head?.any fun next => next.1 = column && (next.2 matches .dash) then
              (readItems fuel column rest).map fun read => (seq read.1, read.2)
            else some (null, rest)
        let (fields, rest) ← readFields fuel column rest
        if key ∈ fields.map (·.1) then none else some ((key, value) :: fields, rest)
      | _ => none

end

/-- The tokens of a text. -/
def tokens (text : List Char) : Option (List (ℕ × Token)) :=
  ((text.splitOn '\n').mapM readLine).map List.flatten

def readBlock (tokens : List (ℕ × Token)) : Option Yaml :=
  match readNode (2 * tokens.length + 1) tokens with
  | some (value, []) => some value
  | _ => none

def read (text : List Char) : Option Yaml := tokens text >>= readBlock

/-! ## Plain scalars -/

section

variable {text : List Char}

/-- A text that the core schema takes for a number. -/
def isNumber (text : List Char) : Bool := (integer? text).isSome || isFloat text

/-- The texts of the null and the booleans. -/
def words : List (List Char) := nullWords ++ trueWords ++ falseWords

def text? : Yaml → Option String
  | string text => some text
  | _ => none

def nat? : Yaml → Option ℕ
  | int (.ofNat value) => some value
  | _ => none

theorem resolve_of_not_mem (ordinary : text ∉ words) : resolve text =
    match integer? text with
    | some value => int value
    | none => if isFloat text then float text else string (String.ofList text) := by
  rw [words, List.mem_append, List.mem_append, not_or, not_or] at ordinary
  obtain ⟨⟨notNull, notTrue⟩, notFalse⟩ := ordinary
  rw [resolve, if_neg notNull, if_neg notTrue, if_neg notFalse]

/-- A plain scalar is the string that it looks like exactly when it is neither a word nor a number. -/
theorem text?_resolve (ordinary : text ∉ words) :
    (resolve text).text? = if isNumber text then none else some (String.ofList text) := by
  rw [resolve_of_not_mem ordinary, isNumber]
  cases integer? text with
  | some value => rfl
  | none =>
    cases isFloat text <;> rfl

/-- The characters that stand anywhere in a plain scalar. -/
def isWordChar (char : Char) : Bool := 32 < char.toNat && char ≠ ':'

theorem isPlainRest_of_word (letters : text.all isWordChar = true) : isPlainRest text = true := by
  have printed {char : Char} (letter : isWordChar char = true) :
      char ≠ ':' ∧ 32 < char.toNat ∧ isBlank char = false := by
    simp only [isWordChar, Bool.and_eq_true, decide_eq_true_eq] at letter
    refine ⟨letter.2, letter.1, ?_⟩
    simp only [isBlank, List.mem_cons, List.not_mem_nil, or_false, decide_eq_false_iff_not]
    omega
  induction text with
  | nil => rfl
  | cons first rest ih =>
    rw [List.all_cons, Bool.and_eq_true] at letters
    obtain ⟨colon, above, blank⟩ := printed letters.1
    cases rest with
    | nil => simp [isPlainRest, colon, above]
    | cons second rest =>
      rw [isPlainRest, ih letters.2]
      simp [colon, blank, above.le]

/-- A text that is plain whatever stands around it: it begins with no indicator, and not with a dash alone. -/
structure Word (text : List Char) : Prop where
  written : text ≠ []
  letters : text.all isWordChar = true
  plain : ∀ first ∈ text.head?, isIndicator first = false ∧ (first = '-' ∨ first = '?' → text.tail ≠ [])

theorem Word.split (word : Word text) : ∃ first rest, text = first :: rest ∧ isIndicator first = false ∧
    (first = '-' ∨ first = '?' → rest ≠ []) := by
  obtain ⟨first, rest, rfl⟩ := List.exists_cons_of_ne_nil word.written
  exact ⟨first, rest, rfl, word.plain first rfl⟩

theorem Word.filled (word : Word text) : ∀ first ∈ text.head?, isBlank first = false := by
  intro first head
  have letter := List.all_eq_true.mp word.letters first (List.mem_of_mem_head? head)
  simp only [isWordChar, Bool.and_eq_true, decide_eq_true_eq] at letter
  simp only [isBlank, List.mem_cons, List.not_mem_nil, or_false, decide_eq_false_iff_not]
  omega

theorem Word.colon (word : Word text) : ':' ∉ text := fun member =>
  absurd (List.all_eq_true.mp word.letters ':' member) (by decide)

theorem isPlain_of_word (word : Word text) : isPlain text = true := by
  obtain ⟨first, rest, rfl, plain, follows⟩ := word.split
  have above : ∀ char ∈ first :: rest, isBlank char = false ∧ char ≠ ':' := fun char member => by
    have letter := List.all_eq_true.mp word.letters char member
    simp only [isWordChar, Bool.and_eq_true, decide_eq_true_eq] at letter
    refine ⟨?_, letter.2⟩
    simp only [isBlank, List.mem_cons, List.not_mem_nil, or_false, decide_eq_false_iff_not]
    omega
  have opened : (!(first = '-' || first = '?' || first = ':') || rest.head?.any fun next => !isBlank next) = true := by
    by_cases dash : first = '-' ∨ first = '?'
    · obtain ⟨next, more, rfl⟩ := List.exists_cons_of_ne_nil (follows dash)
      simp [(above next (by simp)).1]
    · obtain ⟨minus, question⟩ := not_or.mp dash
      simp [minus, question, (above first (by simp)).2]
  rw [isPlain, isPlainRest_of_word word.letters, opened, plain, (above first List.mem_cons_self).1]
  rfl

theorem ne_quote_of_plain {first : Char} (plain : isIndicator first = false) :
    first ≠ Json.quote ∧ first.toNat ≠ 39 ∧ first ≠ '[' := by
  refine ⟨?_, ?_, ?_⟩
  · rintro rfl
    exact absurd plain (by decide)
  · intro same
    exact absurd plain (by rw [isIndicator, same]; decide)
  · rintro rfl
    exact absurd plain (by decide)

theorem readInline_word (word : Word text) : readInline text = some (resolve text) := by
  have isPlain := isPlain_of_word word
  obtain ⟨first, rest, rfl, plain, -⟩ := word.split
  obtain ⟨quote, single, bracket⟩ := ne_quote_of_plain plain
  rw [readInline, if_neg quote, if_neg single, if_neg bracket, if_pos isPlain]

/-- A single-quoted text without a quote is read up to the closing one. -/
theorem readSingle_append {fuel : ℕ} (unquoted : ∀ char ∈ text, char.toNat ≠ 39 ∧ 32 ≤ char.toNat) {next : Char}
    (ends : next.toNat ≠ 39) (rest : List Char) (enough : text.length < fuel) :
    readSingle fuel (text ++ Char.ofNat 39 :: next :: rest) = some (text, next :: rest) := by
  induction text generalizing fuel with
  | nil =>
    obtain ⟨fuel, rfl⟩ := Nat.exists_eq_add_one_of_ne_zero (Nat.ne_of_gt enough)
    rw [List.nil_append, readSingle, if_pos (by decide)]
    exact if_neg ends
  | cons char text ih =>
    obtain ⟨fuel, rfl⟩ := Nat.exists_eq_add_one_of_ne_zero (Nat.ne_of_gt (Nat.zero_lt_of_lt enough))
    obtain ⟨quote, printed⟩ := unquoted char List.mem_cons_self
    rw [List.length_cons] at enough
    rw [List.cons_append, readSingle.eq_def]
    simp only [quote, if_false]
    rw [if_neg (by omega), ih (fun char member => unquoted char (List.mem_cons_of_mem _ member)) (by omega), Option.map_some]

/-- A sequence of one quoted item. -/
theorem readInline_single (unquoted : ∀ char ∈ text, char.toNat ≠ 39 ∧ 32 ≤ char.toNat) :
    readInline ('[' :: Char.ofNat 39 :: (text ++ [Char.ofNat 39, ']'])) = some (seq [string (String.ofList text)]) := by
  have quoted (fuel : ℕ) (enough : text.length < fuel) : readSingle fuel (text ++ [Char.ofNat 39, ']']) = some (text, [']']) :=
    readSingle_append unquoted (by decide) [] enough
  have item : readFlowItem (Char.ofNat 39 :: (text ++ [Char.ofNat 39, ']'])) =
      some (string (String.ofList text), [']']) := by
    rw [readFlowItem, if_neg (by decide), if_pos (by decide), quoted _ (by rw [List.length_cons, List.length_append]; omega)]
    rfl
  have blank : (Char.ofNat 39 :: (text ++ [Char.ofNat 39, ']'])).dropWhile isBlank =
      Char.ofNat 39 :: (text ++ [Char.ofNat 39, ']']) := List.dropWhile_cons_of_neg (by decide)
  rw [readInline, if_neg (by decide), if_neg (by decide), if_pos rfl, List.length_cons, readFlow, blank, item]
  rfl

theorem splitKey_append {key : List Char} (colon : ':' ∉ key) (value : List Char) :
    splitKey (key ++ ':' :: ' ' :: value) = some (key, value) := by
  induction key with
  | nil => rfl
  | cons first rest ih =>
    obtain ⟨other, colon⟩ := List.ne_and_not_mem_of_not_mem_cons colon
    have later : ∃ second more, rest ++ ':' :: ' ' :: value = second :: more := by
      cases rest with
      | nil => exact ⟨_, _, rfl⟩
      | cons second rest => exact ⟨_, _, rfl⟩
    obtain ⟨second, more, split⟩ := later
    rw [List.cons_append, split, splitKey, if_neg fun same => other same.1.symm, ← split, ih colon, Option.map_some]

theorem splitKey_none (colon : ':' ∉ text) : splitKey text = none := by
  induction text with
  | nil => rfl
  | cons first rest ih =>
    obtain ⟨other, colon⟩ := List.ne_and_not_mem_of_not_mem_cons colon
    cases rest with
    | nil => rw [splitKey, if_neg other.symm]
    | cons second rest => rw [splitKey, if_neg fun same => other same.1.symm, ih colon, Option.map_none]

theorem readTokens_indent (fuel column indent : ℕ) (text : List Char) :
    readTokens (fuel + indent) column (List.replicate indent ' ' ++ text) = readTokens fuel (column + indent) text := by
  induction indent generalizing column with
  | zero => rfl
  | succ indent ih =>
    rw [List.replicate_succ, List.cons_append, ← Nat.add_assoc, readTokens.eq_3, if_pos rfl, ih, Nat.add_right_comm,
      Nat.add_assoc]

theorem readTokens_dash (fuel column : ℕ) (text : List Char) :
    readTokens (fuel + 2) column ('-' :: ' ' :: text) =
      (readTokens fuel (column + 2) text).map ((column, .dash) :: ·) := by
  rw [readTokens.eq_3, if_neg (by decide), if_pos ⟨rfl, .inr rfl⟩, readTokens.eq_3, if_pos rfl]

theorem readTokens_content (fuel column : ℕ) {first : Char} {rest : List Char} (space : first ≠ ' ') (dash : first ≠ '-') :
    readTokens (fuel + 1) column (first :: rest) = (readContent (first :: rest)).map fun token => [(column, token)] := by
  rw [readTokens.eq_3, if_neg space, if_neg fun same => dash same.1]

/-- A word that begins with no dash, as keys do. -/
structure Key (key : List Char) : Prop where
  word : Word key
  dash : key.head? ≠ some '-'

variable {key value : List Char}

theorem Key.of_letters {key : List Char} (letters : key.all isWordChar = true)
    (starts : (key.head?.any fun first => !isIndicator first && first ≠ '-' && first ≠ '?') = true) : Key key := by
  cases key with
  | nil => contradiction
  | cons first rest =>
    simp only [List.head?_cons, Option.any_some, Bool.and_eq_true, Bool.not_eq_true', decide_eq_true_eq] at starts
    refine ⟨⟨List.cons_ne_nil _ _, letters, fun head same => ?_⟩, fun same => ?_⟩
    · obtain rfl := Option.some.inj same
      exact ⟨starts.1.1, fun strange => absurd strange (not_or.mpr ⟨starts.1.2, starts.2⟩)⟩
    · exact starts.1.2 (Option.some.inj same)

theorem Key.split (keyed : Key key) : ∃ first rest, key = first :: rest ∧ isIndicator first = false ∧ first ≠ '-' ∧
    first ≠ ' ' := by
  obtain ⟨first, rest, rfl, plain, -⟩ := keyed.word.split
  refine ⟨first, rest, rfl, plain, fun dash => keyed.dash (congrArg some dash), ?_⟩
  rintro rfl
  exact absurd (List.all_eq_true.mp keyed.word.letters ' ' List.mem_cons_self) (by decide)

theorem isQuoted_of_plain {first : Char} (plain : isIndicator first = false) (rest : List Char) :
    isQuoted (first :: rest) = false := by
  obtain ⟨quote, single, -⟩ := ne_quote_of_plain plain
  simp [isQuoted, quote, single]

/-- A key and its value. -/
theorem readContent_entry (keyed : Key key) (filled : ∀ first ∈ value.head?, isBlank first = false) (written : value ≠ []) :
    readContent (key ++ ':' :: ' ' :: value) =
      (readInline value).map fun value => .entry (String.ofList key) (some value) := by
  have isKey := isPlain_of_word keyed.word
  have parts := splitKey_append keyed.word.colon value
  obtain ⟨first, rest, rfl, plain, -, -⟩ := keyed.split
  have trimmed : value.dropWhile isBlank = value := by
    obtain ⟨head, tail, rfl⟩ := List.exists_cons_of_ne_nil written
    rw [List.dropWhile_cons_of_neg (by rw [filled head rfl]; exact Bool.false_ne_true)]
  rw [List.cons_append] at parts ⊢
  rw [readContent, isQuoted_of_plain plain]
  simp only [Bool.false_eq_true, if_false, parts, isKey, if_true, trimmed, written]

/-- A word that is no key. -/
theorem readContent_word (word : Word text) : readContent text = some (.scalar (resolve text)) := by
  have inline := readInline_word word
  have noKey := splitKey_none word.colon
  obtain ⟨first, rest, rfl, plain, -⟩ := word.split
  rw [readContent, isQuoted_of_plain plain]
  simp only [Bool.false_eq_true, if_false, noKey, inline, Option.map_some]

theorem readLine_indent (indent : ℕ) (text : List Char) :
    readLine (List.replicate indent ' ' ++ text) = readTokens (text.length + 1) indent text := by
  have fuel : (List.replicate indent ' ' ++ text).length + 1 = text.length + 1 + indent := by
    rw [List.length_append, List.length_replicate]
    omega
  rw [readLine, fuel, readTokens_indent, Nat.zero_add]

theorem readLine_item (indent : ℕ) (text : List Char) : readLine (List.replicate indent ' ' ++ '-' :: ' ' :: text) =
    (readTokens (text.length + 1) (indent + 2) text).map ((indent, .dash) :: ·) := by
  rw [readLine_indent, List.length_cons, List.length_cons]
  exact readTokens_dash (text.length + 1) indent text

section

variable (keyed : Key key) (filled : ∀ first ∈ value.head?, isBlank first = false) (written : value ≠ [])

include keyed filled written

theorem readTokens_entry (column : ℕ) :
    readTokens ((key ++ ':' :: ' ' :: value).length + 1) column (key ++ ':' :: ' ' :: value) =
      (readInline value).map fun value => [(column, .entry (String.ofList key) (some value))] := by
  have content := readContent_entry keyed filled written
  obtain ⟨first, rest, split, -, dash, space⟩ := keyed.split
  rw [split, List.cons_append] at content ⊢
  rw [readTokens_content _ _ space dash, content, Option.map_map]
  rfl

theorem readLine_entry (indent : ℕ) : readLine (List.replicate indent ' ' ++ (key ++ ':' :: ' ' :: value)) =
    (readInline value).map fun value => [(indent, .entry (String.ofList key) (some value))] :=
  (readLine_indent ..).trans (readTokens_entry keyed filled written indent)

/-- The first key of an item, behind its dash. -/
theorem readLine_item_entry (indent : ℕ) :
    readLine (List.replicate indent ' ' ++ '-' :: ' ' :: (key ++ ':' :: ' ' :: value)) =
      (readInline value).map fun value => [(indent, .dash), (indent + 2, .entry (String.ofList key) (some value))] := by
  rw [readLine_item, readTokens_entry keyed filled written, Option.map_map]
  rfl

end

theorem readLine_item_word (indent : ℕ) (keyed : Key text) : readLine (List.replicate indent ' ' ++ '-' :: ' ' :: text) =
    some [(indent, .dash), (indent + 2, .scalar (resolve text))] := by
  have content := readContent_word keyed.word
  obtain ⟨first, rest, rfl, -, dash, space⟩ := keyed.split
  rw [readLine_item, readTokens_content _ _ space dash, content]
  rfl

end

/-! ## Texts -/

/-- A text of lines that are all read. -/
theorem tokens_lines {lines : List (List Char)} {read : List (List (ℕ × Token))} (written : lines ≠ [])
    (unbroken : ∀ line ∈ lines, '\n' ∉ line)
    (each : List.Forall₂ (fun line tokens => readLine line = some tokens) lines read) :
    tokens (List.intercalate ['\n'] lines) = some read.flatten := by
  have all : lines.mapM readLine = some read := by
    clear written unbroken
    induction each with
    | nil => rfl
    | cons line _ ih =>
      rw [List.mapM_cons, line, ih]
      rfl
  rw [tokens, List.splitOn_intercalate _ unbroken written, all, Option.map_some]

/-- A line break after the last line makes no difference. -/
theorem tokens_lines_break {lines : List (List Char)} {read : List (List (ℕ × Token))} (written : lines ≠ [])
    (unbroken : ∀ line ∈ lines, '\n' ∉ line)
    (each : List.Forall₂ (fun line tokens => readLine line = some tokens) lines read) :
    tokens (List.intercalate ['\n'] lines ++ ['\n']) = some read.flatten := by
  have last : List.intercalate ['\n'] lines ++ ['\n'] = List.intercalate ['\n'] (lines ++ [[]]) := by
    clear unbroken each
    induction lines with
    | nil => contradiction
    | cons line rest ih =>
      cases rest with
      | nil => simp
      | cons next rest =>
        rw [List.cons_append, List.cons_append, List.intercalate_cons_cons, List.intercalate_cons_cons,
          ← List.cons_append, ← ih (List.cons_ne_nil _ _)]
        simp
  have unbroken : ∀ line ∈ lines ++ [[]], '\n' ∉ line := by
    intro line member
    rcases List.mem_append.mp member with inside | empty
    · exact unbroken line inside
    · rw [List.mem_singleton.mp empty]
      exact List.not_mem_nil
  have each : List.Forall₂ (fun line tokens => readLine line = some tokens) (lines ++ [[]]) (read ++ [[]]) :=
    List.rel_append each (.cons rfl .nil)
  rw [last, tokens_lines (List.append_ne_nil_of_right_ne_nil _ (List.cons_ne_nil _ _)) unbroken each]
  simp

/-! ## Texts that are no numbers -/

section

variable {text : List Char}

theorem count_dash_dropSign (text : List Char) : text.count '-' ≤ (dropSign text).count '-' + 1 := by
  cases text with
  | nil => exact Nat.zero_le _
  | cons first rest =>
    rw [dropSign]
    split
    · rw [List.count_cons]
      split <;> omega
    · exact Nat.le_succ _

theorem dash_notMem_digits (digits : text.all (·.isDigit) = true) : '-' ∉ text := fun member =>
  absurd (List.all_eq_true.mp digits '-' member) (by decide)

theorem count_dash_digits (digits : isDigits text = true) : text.count '-' = 0 := by
  rw [isDigits, Bool.and_eq_true] at digits
  exact List.count_eq_zero_of_not_mem (dash_notMem_digits digits.2)

theorem count_dash_span (text : List Char) : text.count '-' = (text.dropWhile (·.isDigit)).count '-' := by
  have whole : '-' ∉ text.takeWhile (·.isDigit) := fun member => absurd (List.mem_takeWhile_imp member) (by decide)
  conv_lhs => rw [← List.takeWhile_append_dropWhile (p := (·.isDigit)) (l := text)]
  rw [List.count_append, List.count_eq_zero_of_not_mem whole, Nat.zero_add]

theorem count_dash_exponent (exponent : isExponent text = true) : text.count '-' ≤ 1 := by
  cases text with
  | nil => exact Nat.zero_le _
  | cons letter rest =>
    rw [isExponent, Bool.and_eq_true] at exponent
    have other : letter ≠ '-' := by
      rintro rfl
      exact absurd exponent.1 (by decide)
    have digits := count_dash_digits exponent.2
    have signed := count_dash_dropSign rest
    rw [List.count_cons_of_ne other]
    omega

theorem count_dash_unsignedFloat (float : isUnsignedFloat text = true) : text.count '-' ≤ 1 := by
  rw [count_dash_span]
  rw [isUnsignedFloat] at float
  split at float
  · next ended => rw [ended]; exact Nat.zero_le _
  · next next rest split =>
    rw [split]
    split at float
    · next dot =>
      rw [Bool.and_eq_true] at float
      rw [dot, List.count_cons_of_ne (by decide), count_dash_span]
      exact count_dash_exponent float.2
    · rw [Bool.and_eq_true] at float
      exact count_dash_exponent float.2

/-- A number has at most two dashes, unless it begins as an octal or a hexadecimal one. -/
theorem isNumber_eq_false (dashes : 2 < text.count '-') (octal : text.take 2 ≠ ['0', 'o']) (hex : text.take 2 ≠ ['0', 'x']) :
    isNumber text = false := by
  have signed := count_dash_dropSign text
  have whole : isDigits (dropSign text) = false := by
    by_contra digits
    have zero := count_dash_digits (by simpa using digits)
    omega
  have float : isUnsignedFloat (dropSign text) = false := by
    by_contra float
    have few := count_dash_unsignedFloat (by simpa using float)
    omega
  have named : ∀ word ∈ [".inf".toList, ".Inf".toList, ".INF".toList, ".nan".toList, ".NaN".toList, ".NAN".toList],
      word.count '-' = 0 := by decide
  have infinite : dropSign text ∉ [".inf".toList, ".Inf".toList, ".INF".toList] := fun member => by
    have zero := named _ (List.mem_append_left [".nan".toList, ".NaN".toList, ".NAN".toList] member)
    omega
  have nan : text ∉ [".nan".toList, ".NaN".toList, ".NAN".toList] := fun member => by
    have zero := named _ (List.mem_append_right [".inf".toList, ".Inf".toList, ".INF".toList] member)
    omega
  rw [isNumber, isFloat, integer?]
  simp only [whole, Bool.false_eq_true, if_false, octal, hex, false_and, float, infinite, nan, decide_false, Bool.or_false,
    Option.isSome_none]

end

/-! ## Quoted texts -/

section

variable {text : List Char}

/-- The text with its double quotes escaped. -/
def escapeQuotes (text : List Char) : List Char :=
  text.flatMap fun char => if char = Json.quote then [Char.ofNat 92, char] else [char]

/-- A character that needs no other escape than that. -/
def isPrinted (char : Char) : Bool := char.toNat ≠ 92 && (32 ≤ char.toNat || char.toNat = 9)

/-- A double-quoted text whose quotes are escaped is read up to the closing one. -/
theorem readDouble_append {fuel : ℕ} (printed : ∀ char ∈ text, isPrinted char = true) (rest : List Char)
    (enough : text.length < fuel) : readDouble fuel (escapeQuotes text ++ Json.quote :: rest) = some (text, rest) := by
  induction text generalizing fuel with
  | nil =>
    obtain ⟨fuel, rfl⟩ := Nat.exists_eq_add_one_of_ne_zero (Nat.ne_of_gt enough)
    rw [escapeQuotes, List.flatMap_nil, List.nil_append, readDouble.eq_def]
    exact if_pos rfl
  | cons char text ih =>
    obtain ⟨fuel, rfl⟩ := Nat.exists_eq_add_one_of_ne_zero (Nat.ne_of_gt (Nat.zero_lt_of_lt enough))
    rw [List.length_cons] at enough
    have later := ih (fun char member => printed char (List.mem_cons_of_mem _ member)) (by omega : text.length < fuel)
    have shown := printed char List.mem_cons_self
    simp only [isPrinted, Bool.and_eq_true, Bool.or_eq_true, decide_eq_true_eq] at shown
    rw [escapeQuotes, List.flatMap_cons]
    by_cases quote : char = Json.quote
    · subst quote
      rw [if_pos rfl, List.append_assoc]
      change readDouble (fuel + 1) (Char.ofNat 92 :: Json.quote :: (escapeQuotes text ++ Json.quote :: rest)) = _
      rw [readDouble.eq_def]
      dsimp only
      rw [if_neg (by decide), if_pos (by decide), if_pos (by decide), later]
      rfl
    · rw [if_neg quote, List.append_assoc]
      change readDouble (fuel + 1) (char :: (escapeQuotes text ++ Json.quote :: rest)) = _
      rw [readDouble.eq_def]
      dsimp only
      rw [if_neg quote, if_neg shown.1, if_neg (by omega), later]
      rfl

/-- A double-quoted value. -/
def double (text : List Char) : List Char := Json.quote :: (escapeQuotes text ++ [Json.quote])

theorem length_escapeQuotes (text : List Char) : text.length ≤ (escapeQuotes text).length := by
  induction text with
  | nil => exact Nat.zero_le _
  | cons char text ih =>
    rw [escapeQuotes, List.flatMap_cons, List.length_append, List.length_cons]
    rw [escapeQuotes] at ih
    split <;> simp only [List.length_cons, List.length_nil] <;> omega

theorem readInline_double (printed : ∀ char ∈ text, isPrinted char = true) :
    readInline (double text) = some (string (String.ofList text)) := by
  have enough : text.length < (escapeQuotes text ++ [Json.quote]).length + 1 := by
    have longer := length_escapeQuotes text
    rw [List.length_append, List.length_singleton]
    omega
  have read := readDouble_append printed [] enough
  rw [double, readInline, if_pos rfl, List.length_cons, read]
  rfl

end

end Yaml

end OmniControlPlane.Lib
