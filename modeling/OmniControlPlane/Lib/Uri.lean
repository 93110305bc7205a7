import OmniControlPlane.Lib.Json

/-! # Percent-encoding

What `encodeURIComponent` and `URLSearchParams` write, and what their readers make of a text. A reader
first collects bytes, and only then decodes them as UTF-8.
-/

namespace OmniControlPlane.Lib

open Json (hexDigit?)

def hexLetter (digit : ℕ) : Char := if digit < 10 then Char.ofNat (48 + digit) else Char.ofNat (55 + digit)

/-- `%XX` -/
def percentByte (byte : UInt8) : List Char := ['%', hexLetter (byte.toNat / 16), hexLetter (byte.toNat % 16)]

/-- The bytes of a percent-encoded text. -/
def percentBytes : List Char → Option (List UInt8)
  | [] => some []
  | char :: rest =>
    if char = '%' then
      match rest with
      | high :: low :: rest => do
        let high ← hexDigit? high
        let low ← hexDigit? low
        let bytes ← percentBytes rest
        some (UInt8.ofNat (high * 16 + low) :: bytes)
      | _ => none
    else (percentBytes rest).map (String.utf8EncodeChar char ++ ·)

/-- `decodeURIComponent`; `none` is a `URIError`. -/
def percentDecode (text : List Char) : Option String := do
  let bytes ← percentBytes text
  let chars ← bytes.toByteArray.utf8Decode?
  some (String.ofList chars.toList)

/-- A percent-encoded text, but for the characters that are kept. -/
def percentEncode (keep : Char → Bool) (text : String) : List Char :=
  text.toList.flatMap fun char => if keep char then [char] else (String.utf8EncodeChar char).flatMap percentByte

def isAlphanumeric (char : Char) : Bool :=
  ('a' ≤ char && char ≤ 'z') || ('A' ≤ char && char ≤ 'Z') || ('0' ≤ char && char ≤ '9')

/-- The characters that `encodeURIComponent` keeps. -/
def isUriLetter (char : Char) : Bool := isAlphanumeric char || char.toNat ∈ [45, 95, 46, 33, 126, 42, 39, 40, 41]

def encodeURIComponent (text : String) : List Char := percentEncode isUriLetter text

/-- The characters that `URLSearchParams` keeps. -/
def isFormLetter (char : Char) : Bool := isAlphanumeric char || char.toNat ∈ [42, 45, 46, 95]

def plusSpace (char : Char) : Char := if char = ' ' then '+' else char

def spacePlus (char : Char) : Char := if char = '+' then ' ' else char

/-- A name or a value of `URLSearchParams`, as `toString` writes it. -/
def formEncode (text : String) : List Char :=
  (percentEncode (fun char => isFormLetter char || char = ' ') text).map plusSpace

def formDecode (text : List Char) : Option String := percentDecode (text.map spacePlus)

/-! ## Bytes -/

section

variable {text rest : List Char}

theorem percentBytes_plain {char : Char} (plain : char ≠ '%') (rest : List Char) :
    percentBytes (char :: rest) = (percentBytes rest).map (String.utf8EncodeChar char ++ ·) := by
  rw [percentBytes.eq_def]
  exact if_neg plain

theorem hexDigit?_hexLetter : ∀ digit < 16, hexDigit? (hexLetter digit) = some digit := by decide

theorem percentBytes_percentByte (byte : UInt8) (rest : List Char) :
    percentBytes (percentByte byte ++ rest) = (percentBytes rest).map (byte :: ·) := by
  have small := byte.toNat_lt
  have high := hexDigit?_hexLetter (byte.toNat / 16) (by omega)
  have low := hexDigit?_hexLetter (byte.toNat % 16) (by omega)
  have whole : UInt8.ofNat (byte.toNat / 16 * 16 + byte.toNat % 16) = byte := by
    rw [Nat.div_add_mod', UInt8.ofNat_toNat]
  rw [percentByte, List.cons_append, percentBytes.eq_def]
  simp only [if_true, List.cons_append, List.nil_append, high, low, Option.bind_eq_bind, Option.bind_some, whole]
  cases percentBytes rest <;> rfl

theorem percentBytes_bytes (bytes : List UInt8) (rest : List Char) :
    percentBytes (bytes.flatMap percentByte ++ rest) = (percentBytes rest).map (bytes ++ ·) := by
  induction bytes with
  | nil => simp
  | cons byte bytes ih =>
    rw [List.flatMap_cons, List.append_assoc, percentBytes_percentByte, ih, Option.map_map]
    rfl

/-- An encoded text has the bytes of the text, if no `%` is kept. -/
theorem percentBytes_percentEncode {keep : Char → Bool} (escapes : keep '%' = false) (text : String) :
    percentBytes (percentEncode keep text) = some (utf8 text) := by
  unfold percentEncode utf8
  induction text.toList with
  | nil => rfl
  | cons char rest ih =>
    rw [List.flatMap_cons, List.flatMap_cons]
    split
    · next kept =>
      have plain : char ≠ '%' := fun equal => Bool.false_ne_true ((equal ▸ escapes).symm.trans kept)
      rw [List.singleton_append, percentBytes_plain plain, ih, Option.map_some]
    · rw [percentBytes_bytes, ih, Option.map_some]

/-- A text is decoded exactly from its own bytes. -/
theorem percentDecode_eq_some_iff {decoded : String} :
    percentDecode text = some decoded ↔ percentBytes text = some (utf8 decoded) := by
  unfold percentDecode
  constructor
  · intro read
    obtain ⟨bytes, found, read⟩ := Option.bind_eq_some_iff.mp read
    obtain ⟨chars, read, equal⟩ := Option.bind_eq_some_iff.mp read
    rw [found, ← Option.some.inj equal, utf8, String.toList_ofList]
    have valid : bytes.toByteArray.utf8Decode?.isSome = true := by rw [read, Option.isSome_some]
    have encoded := @ByteArray.utf8Encode_get_utf8Decode? bytes.toByteArray valid
    simp only [read, Option.get_some] at encoded
    have same := congrArg (fun bytes : ByteArray => bytes.data.toList) encoded
    simpa [List.utf8Encode] using same.symm
  · intro found
    rw [found]
    have read := @List.utf8Decode?_utf8Encode decoded.toList
    have bytes : (utf8 decoded).toByteArray = decoded.toList.utf8Encode := rfl
    simp only [Option.bind_eq_bind, Option.bind_some, bytes, read, String.ofList_toList]

/-- A text without a `%` stands for itself. -/
theorem percentDecode_plain {text : List Char} (plain : '%' ∉ text) : percentDecode text = some (String.ofList text) := by
  rw [percentDecode_eq_some_iff, utf8, String.toList_ofList]
  induction text with
  | nil => rfl
  | cons char rest ih =>
    obtain ⟨other, plain⟩ := List.ne_and_not_mem_of_not_mem_cons plain
    rw [percentBytes_plain other.symm, ih plain, Option.map_some, List.flatMap_cons]

@[simp] theorem percentDecode_encodeURIComponent (text : String) :
    percentDecode (encodeURIComponent text) = some text :=
  percentDecode_eq_some_iff.mpr (percentBytes_percentEncode (by decide) text)

theorem percentByte_ne_plus (byte : UInt8) : '+' ∉ percentByte byte := by
  have letter : ∀ digit < 16, hexLetter digit ≠ '+' := by decide
  have small := byte.toNat_lt
  simp only [percentByte, List.mem_cons, List.not_mem_nil, or_false, not_or]
  exact ⟨by decide, (letter _ (by omega)).symm, (letter _ (by omega)).symm⟩

theorem percentEncode_ne_plus {keep : Char → Bool} (escapes : keep '+' = false) (text : String) :
    '+' ∉ percentEncode keep text := by
  intro member
  obtain ⟨char, -, written⟩ := List.mem_flatMap.mp member
  split at written
  · next kept =>
    rw [← List.mem_singleton.mp written, escapes] at kept
    contradiction
  · obtain ⟨byte, -, written⟩ := List.mem_flatMap.mp written
    exact percentByte_ne_plus byte written

@[simp] theorem formDecode_formEncode (text : String) : formDecode (formEncode text) = some text := by
  have restored : ((percentEncode (fun char => isFormLetter char || char = ' ') text).map plusSpace).map spacePlus =
      percentEncode (fun char => isFormLetter char || char = ' ') text := by
    rw [List.map_map]
    refine (List.map_congr_left fun char member => ?_).trans (List.map_id _)
    have other : char ≠ '+' := fun equal => percentEncode_ne_plus (by decide) text (equal ▸ member)
    by_cases space : char = ' '
    · rw [space]
      decide
    · rw [Function.comp_apply, plusSpace, if_neg space, spacePlus, if_neg other, id]
  rw [formDecode, formEncode, restored]
  exact percentDecode_eq_some_iff.mpr (percentBytes_percentEncode (by decide) text)

end

/-! ## Queries -/

/-- `new URLSearchParams(params).toString()` -/
def urlSearchParams (params : List (String × String)) : List Char :=
  List.intercalate ['&'] (params.map fun param => formEncode param.1 ++ '=' :: formEncode param.2)

/-- What stands before the first occurrence of a character, and what after it. -/
def cut (separator : Char) (text : List Char) : List Char × Option (List Char) :=
  (text.takeWhile (· ≠ separator), (text.dropWhile (· ≠ separator)).tail?)

def readParam (text : List Char) : Option (String × String) :=
  match cut '=' text with
  | (name, value) => do some (← formDecode name, ← formDecode (value.getD []))

/-- The parameters of a query. -/
def readQuery (text : List Char) : Option (List (String × String)) :=
  if text = [] then some [] else (text.splitOn '&').mapM readParam

section

variable {separator : Char} {left right : List Char}

theorem cut_append (absent : separator ∉ left) (right : List Char) :
    cut separator (left ++ separator :: right) = (left, some right) := by
  have other : ∀ char ∈ left, decide (char ≠ separator) = true := fun char member =>
    decide_eq_true fun same => absent (same ▸ member)
  rw [cut, List.takeWhile_append_of_pos other, List.dropWhile_append_of_pos other,
    List.takeWhile_cons_of_neg (by simp), List.dropWhile_cons_of_neg (by simp), List.append_nil]
  rfl

theorem cut_absent (absent : separator ∉ left) : cut separator left = (left, none) := by
  have other : ∀ char ∈ left, decide (char ≠ separator) = true := fun char member =>
    decide_eq_true fun same => absent (same ▸ member)
  rw [cut, List.takeWhile_eq_self_iff.mpr other, List.dropWhile_eq_nil_iff.mpr other]
  rfl

/-- Letters and digits, percent signs and plus signs, and the other signs that `URLSearchParams` keeps. -/
theorem mem_formEncode {text : String} {char : Char} (member : char ∈ formEncode text) :
    isFormLetter char = true ∨ char = '+' ∨ char = '%' := by
  have letter : ∀ digit < 16, isFormLetter (hexLetter digit) = true := by decide
  obtain ⟨written, inside, rfl⟩ := List.mem_map.mp member
  obtain ⟨char, -, inside⟩ := List.mem_flatMap.mp inside
  split at inside
  · next kept =>
    obtain rfl := List.mem_singleton.mp inside
    by_cases space : written = ' '
    · rw [space]
      decide
    · rw [plusSpace, if_neg space]
      exact .inl ((Bool.or_eq_true_iff.mp kept).resolve_right (by simpa using space))
  · obtain ⟨byte, -, inside⟩ := List.mem_flatMap.mp inside
    have small := byte.toNat_lt
    have high := letter (byte.toNat / 16) (by omega)
    have low := letter (byte.toNat % 16) (by omega)
    have other {char : Char} (kept : isFormLetter char = true) : plusSpace char = char :=
      if_neg fun space => absurd (space ▸ kept) (by decide)
    simp only [percentByte, List.mem_cons, List.not_mem_nil, or_false] at inside
    rcases inside with rfl | rfl | rfl
    · exact .inr (.inr rfl)
    · rw [other high]
      exact .inl high
    · rw [other low]
      exact .inl low

/-- A sign that is not kept is not written. -/
theorem not_mem_formEncode {sign : Char} (escaped : isFormLetter sign = false ∧ sign ≠ '+' ∧ sign ≠ '%') (text : String) :
    sign ∉ formEncode text := by
  intro member
  rcases mem_formEncode member with kept | plus | percent
  · rw [escaped.1] at kept
    contradiction
  · exact escaped.2.1 plus
  · exact escaped.2.2 percent

@[simp] theorem readParam_formEncode (param : String × String) :
    readParam (formEncode param.1 ++ '=' :: formEncode param.2) = some param := by
  rw [readParam, cut_append (not_mem_formEncode (by decide) _)]
  simp

@[simp] theorem readQuery_urlSearchParams (params : List (String × String)) :
    readQuery (urlSearchParams params) = some params := by
  cases params with
  | nil => rfl
  | cons first rest =>
    have written : urlSearchParams (first :: rest) ≠ [] := by
      cases rest <;> simp [urlSearchParams, List.intercalate_cons_cons]
    have separated : ∀ text ∈ (first :: rest).map (fun param => formEncode param.1 ++ '=' :: formEncode param.2),
        '&' ∉ text := by
      intro text member
      obtain ⟨param, -, rfl⟩ := List.mem_map.mp member
      simp only [List.mem_append, List.mem_cons, not_or]
      exact ⟨not_mem_formEncode (by decide) _, by decide, not_mem_formEncode (by decide) _⟩
    have each (params : List (String × String)) :
        (params.map fun param => formEncode param.1 ++ '=' :: formEncode param.2).mapM readParam = some params := by
      induction params with
      | nil => rfl
      | cons param rest ih =>
        rw [List.map_cons, List.mapM_cons, readParam_formEncode, ih]
        rfl
    rw [readQuery, if_neg written, urlSearchParams, List.splitOn_intercalate _ separated (List.cons_ne_nil _ _), each]

theorem not_mem_urlSearchParams {sign : Char} (escaped : isFormLetter sign = false ∧ sign ≠ '+' ∧ sign ≠ '%')
    (other : sign ≠ '&' ∧ sign ≠ '=') (params : List (String × String)) : sign ∉ urlSearchParams params := by
  have each (param : String × String) : sign ∉ formEncode param.1 ++ '=' :: formEncode param.2 := by
    simp only [List.mem_append, List.mem_cons, not_or]
    exact ⟨not_mem_formEncode escaped _, other.2, not_mem_formEncode escaped _⟩
  unfold urlSearchParams
  induction params with
  | nil => exact List.not_mem_nil
  | cons param rest ih =>
    cases rest with
    | nil => simpa using each param
    | cons next rest =>
      rw [List.map_cons, List.map_cons, List.intercalate_cons_cons, List.mem_append, List.mem_append, not_or, not_or]
      exact ⟨⟨each param, by simpa using other.1⟩, ih⟩

end

/-! ## Whole URIs -/

structure Uri where
  scheme : String
  userinfo : Option String
  host : String
  port : Option ℕ
  path : List Char
  query : List (String × String)
  fragment : Option String

namespace Uri

/-- The characters that stand for themselves in a host name: letters, digits, and `-._~!$&'()*+,;=`. -/
def isHostLetter (char : Char) : Bool :=
  isAlphanumeric char || char.toNat ∈ [45, 46, 95, 126, 33, 36, 38, 39, 40, 41, 42, 43, 44, 59, 61]

/-- In the user information, a colon does too. -/
def isUserLetter (char : Char) : Bool := isHostLetter char || char = ':'

/-- A part of a URI: its letters, and percent-encoded bytes. -/
def component (letter : Char → Bool) (text : List Char) : Option String :=
  if text.all fun char => letter char || char = '%' then percentDecode text else none

/-- A part that may be missing. -/
def optional {α : Type} (read : List Char → Option α) : Option (List Char) → Option (Option α)
  | none => some none
  | some text => (read text).map some

def readPort (digits : List Char) : Option (Option ℕ) :=
  if digits.all (·.isDigit) then some (if digits = [] then none else some (Nat.ofDigitChars 10 digits 0)) else none

/-- A host and a port. An IPv6 address stands in brackets; no other host has a colon. -/
def readHost (text : List Char) : Option (String × Option ℕ) :=
  if text.head? = some '[' then
    match cut ']' text.tail with
    | (inside, some []) => some (String.ofList inside, none)
    | (inside, some (':' :: port)) => (readPort port).map (String.ofList inside, ·)
    | _ => none
  else
    match cut ':' text with
    | (host, port) => do some (← component isHostLetter host, ← readPort (port.getD []))

/-- The user information and what follows it. -/
def splitUser (authority : List Char) : Option (List Char) × List Char :=
  match cut '@' authority with
  | (user, some host) => (some user, host)
  | (host, none) => (none, host)

def read (text : List Char) : Option Uri := do
  let (scheme, rest) ← splitOnce "://".toList text
  let (rest, fragment) := cut '#' rest
  let (rest, query) := cut '?' rest
  let (authority, path) := cut '/' rest
  let (userinfo, host) := splitUser authority
  let userinfo ← optional (component isUserLetter) userinfo
  let (host, port) ← readHost host
  let query ← readQuery (query.getD [])
  let fragment ← optional percentDecode fragment
  some { scheme := String.ofList scheme, userinfo, host, port, path := path.elim [] ('/' :: ·), query, fragment }

/-- What the URIs of share links are made of, as they are written. -/
structure Parts where
  scheme : List Char
  user : List Char
  host : List Char
  port : ℕ
  path : List Char
  query : List (String × String)
  fragment : String

/-- The path of a share link: none, or a slash. -/
def Parts.write (parts : Parts) : List Char :=
  parts.scheme ++ "://".toList ++ parts.user ++ '@' :: parts.host ++ ':' :: Nat.toDigits 10 parts.port ++ parts.path ++
    '?' :: urlSearchParams parts.query ++ '#' :: encodeURIComponent parts.fragment

section

variable {letter : Char → Bool} {text : List Char}

theorem component_plain (letters : text.all letter = true) (percent : letter '%' = false) :
    component letter text = some (String.ofList text) := by
  have allowed : (text.all fun char => letter char || char = '%') = true :=
    List.all_eq_true.mpr fun char member => Bool.or_eq_true_iff.mpr (.inl (List.all_eq_true.mp letters char member))
  have plain : '%' ∉ text := fun member => by
    rw [List.all_eq_true.mp letters '%' member] at percent
    contradiction
  rw [component, if_pos allowed, percentDecode_plain plain]

theorem component_letters {part : String} (found : component letter text = some part) {char : Char} (member : char ∈ text) :
    letter char = true ∨ char = '%' := by
  unfold component at found
  split at found
  · next letters => simpa using List.all_eq_true.mp letters char member
  · contradiction

theorem isDigit_toDigits {port : ℕ} {char : Char} (member : char ∈ Nat.toDigits 10 port) : char.isDigit = true :=
  Nat.isDigit_of_mem_toDigits (by decide) (by decide) member

theorem readPort_toDigits (port : ℕ) : readPort (Nat.toDigits 10 port) = some (some port) := by
  rw [readPort, if_pos (List.all_eq_true.mpr fun char member => isDigit_toDigits member),
    if_neg Nat.toDigits_ne_nil, Nat.ofDigitChars_ten_toDigits]

theorem readHost_plain {host : List Char} (letters : host.all isHostLetter = true) (port : ℕ) :
    readHost (host ++ ':' :: Nat.toDigits 10 port) = some (String.ofList host, some port) := by
  have bracket : (host ++ ':' :: Nat.toDigits 10 port).head? ≠ some '[' := by
    cases host with
    | nil =>
      rw [List.nil_append, List.head?_cons]
      decide
    | cons first rest =>
      intro opened
      rw [List.cons_append, List.head?_cons, Option.some.injEq] at opened
      exact absurd (List.all_eq_true.mp letters first List.mem_cons_self) (by rw [opened]; decide)
  have colon : ':' ∉ host := fun member => absurd (List.all_eq_true.mp letters ':' member) (by decide)
  rw [readHost, if_neg bracket, cut_append colon]
  simp only [component_plain letters (by decide), Option.getD_some, readPort_toDigits]
  rfl

/-- A share link whose host has only letters is read back, with its user information decoded. -/
theorem read_write {parts : Parts} {user : String} (scheme : ':' ∉ parts.scheme)
    (decoded : component isUserLetter parts.user = some user) (host : parts.host.all isHostLetter = true)
    (path : parts.path = [] ∨ parts.path = ['/']) :
    read parts.write = some {
      scheme := String.ofList parts.scheme, userinfo := some user, host := String.ofList parts.host,
      port := some parts.port, path := parts.path, query := parts.query, fragment := some parts.fragment } := by
  obtain ⟨scheme', user', host', port, path', query, fragment⟩ := parts
  dsimp only [Parts.write] at *
  have noUser (sign : Char) (strange : isUserLetter sign = false ∧ sign ≠ '%') : sign ∉ user' := fun member => by
    rcases component_letters decoded member with letter | percent
    · rw [strange.1] at letter
      contradiction
    · exact strange.2 percent
  have noHost (sign : Char) (strange : isHostLetter sign = false) : sign ∉ host' := fun member => by
    rw [List.all_eq_true.mp host sign member] at strange
    contradiction
  have noPort (sign : Char) (strange : sign.isDigit = false) : sign ∉ Nat.toDigits 10 port := fun member => by
    rw [isDigit_toDigits member] at strange
    contradiction
  have noPath (sign : Char) (strange : sign ≠ '/') : sign ∉ path' := by
    rcases path with rfl | rfl
    · exact List.not_mem_nil
    · simpa using strange
  have split : splitOnce "://".toList (scheme' ++ "://".toList ++ user' ++ '@' :: host' ++ ':' :: Nat.toDigits 10 port ++
      path' ++ '?' :: urlSearchParams query ++ '#' :: encodeURIComponent fragment) = some (scheme',
        (((user' ++ '@' :: (host' ++ ':' :: Nat.toDigits 10 port)) ++ path') ++ '?' :: urlSearchParams query) ++
          '#' :: encodeURIComponent fragment) := by
    have once := splitOnce_separator (by decide : ':' ∉ ['/', '/']) (splitOnce_eq_none scheme)
      ((((user' ++ '@' :: (host' ++ ':' :: Nat.toDigits 10 port)) ++ path') ++ '?' :: urlSearchParams query) ++
          '#' :: encodeURIComponent fragment)
    simpa using once
  have authority (sign : Char) (strange : isUserLetter sign = false ∧ sign ≠ '%' ∧ sign ≠ '@' ∧ sign ≠ ':' ∧
      isHostLetter sign = false ∧ sign.isDigit = false) : sign ∉ user' ++ '@' :: (host' ++ ':' :: Nat.toDigits 10 port) := by
    obtain ⟨user, percent, at', colon, host, digit⟩ := strange
    simp only [List.mem_append, List.mem_cons, not_or]
    exact ⟨noUser sign ⟨user, percent⟩, at', noHost sign host, colon, noPort sign digit⟩
  have hash : '#' ∉ ((user' ++ '@' :: (host' ++ ':' :: Nat.toDigits 10 port)) ++ path') ++ '?' :: urlSearchParams query := by
    rw [List.mem_append, List.mem_append, List.mem_cons, not_or, not_or, not_or]
    exact ⟨⟨authority '#' (by decide), noPath '#' (by decide)⟩, by decide, not_mem_urlSearchParams (by decide) (by decide) _⟩
  have question : '?' ∉ (user' ++ '@' :: (host' ++ ':' :: Nat.toDigits 10 port)) ++ path' := by
    rw [List.mem_append, not_or]
    exact ⟨authority '?' (by decide), noPath '?' (by decide)⟩
  have slash : cut '/' ((user' ++ '@' :: (host' ++ ':' :: Nat.toDigits 10 port)) ++ path') =
      (user' ++ '@' :: (host' ++ ':' :: Nat.toDigits 10 port), path'.tail?) := by
    rcases path with rfl | rfl
    · rw [List.append_nil, cut_absent (authority '/' (by decide))]
      rfl
    · rw [cut_append (authority '/' (by decide))]
      rfl
  have back : path'.tail?.elim [] ('/' :: ·) = path' := by
    rcases path with rfl | rfl <;> rfl
  have parted : splitUser (user' ++ '@' :: (host' ++ ':' :: Nat.toDigits 10 port)) =
      (some user', host' ++ ':' :: Nat.toDigits 10 port) := by
    rw [splitUser, cut_append (noUser '@' (by decide))]
  rw [read, split]
  simp only [Option.bind_eq_bind, Option.bind_some, cut_append hash, cut_append question, slash, parted, optional,
    decoded, Option.map_some, readHost_plain host, Option.getD_some, readQuery_urlSearchParams,
    percentDecode_encodeURIComponent, back]

end

end Uri

end OmniControlPlane.Lib
