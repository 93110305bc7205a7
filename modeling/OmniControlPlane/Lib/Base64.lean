import OmniControlPlane.Lib.Text

/-! # Base64

`btoa` cuts bytes into groups of six bits. A group of three bytes fills four letters, and a rest of
one or two bytes fills two or three, so no encoding leaves a single letter over. What `atob` makes of
letters depends on their number alone: one letter over is an error, and otherwise every four letters
are three bytes.
-/

namespace OmniControlPlane.Lib

/-- The letter of a value below 64. -/
def base64Letter (value : ℕ) : Char :=
  if value < 26 then Char.ofNat (65 + value)
  else if value < 52 then Char.ofNat (71 + value)
  else if value < 62 then Char.ofNat (value - 4)
  else if value = 62 then '+'
  else '/'

/-- The groups of six bits of bytes, the last one filled up with zeros. -/
def sextets : List UInt8 → List ℕ
  | a :: b :: c :: rest =>
    let bits := (a.toNat * 256 + b.toNat) * 256 + c.toNat
    bits / 262144 :: bits / 4096 % 64 :: bits / 64 % 64 :: bits % 64 :: sextets rest
  | [a, b] =>
    let bits := a.toNat * 256 + b.toNat
    [bits / 1024, bits / 16 % 64, bits % 16 * 4]
  | [a] => [a.toNat / 4, a.toNat % 4 * 16]
  | [] => []

/-- Fill up with `=` to a multiple of four letters. -/
def base64Pad (text : List Char) : List Char := text ++ List.replicate ((4 - text.length % 4) % 4) '='

/-- `btoa`, of bytes. -/
def btoa (bytes : List UInt8) : List Char := base64Pad ((sextets bytes).map base64Letter)

/-! ## Groups of six bits -/

theorem sextets_lt (bytes : List UInt8) : ∀ value ∈ sextets bytes, value < 64 := by
  induction bytes using sextets.induct with
  | case1 a b c rest ih =>
    have first := a.toNat_lt
    have second := b.toNat_lt
    have third := c.toNat_lt
    intro value member
    simp only [sextets, List.mem_cons] at member
    rcases member with rfl | rfl | rfl | rfl | later
    · omega
    · omega
    · omega
    · omega
    · exact ih value later
  | case2 a b =>
    have first := a.toNat_lt
    have second := b.toNat_lt
    intro value member
    simp only [sextets, List.mem_cons, List.not_mem_nil, or_false] at member
    omega
  | case3 a =>
    have first := a.toNat_lt
    intro value member
    simp only [sextets, List.mem_cons, List.not_mem_nil, or_false] at member
    omega
  | case4 => nofun

theorem sextets_length (bytes : List UInt8) : (sextets bytes).length = (bytes.length * 4 + 2) / 3 := by
  induction bytes using sextets.induct with
  | case1 a b c rest ih =>
    simp only [sextets, List.length_cons, ih]
    omega
  | case2 a b => simp [sextets]
  | case3 a => simp [sextets]
  | case4 => simp [sextets]

theorem base64Bytes_sextets (bytes : List UInt8) : base64Bytes (sextets bytes) = bytes := by
  induction bytes using sextets.induct with
  | case1 a b c rest ih =>
    obtain ⟨bits, given⟩ : ∃ bits, (a.toNat * 256 + b.toNat) * 256 + c.toNat = bits := ⟨_, rfl⟩
    have second := b.toNat_lt
    have third := c.toNat_lt
    have whole : ((bits / 262144 * 64 + bits / 4096 % 64) * 64 + bits / 64 % 64) * 64 + bits % 64 = bits := by omega
    have high : bits / 65536 = a.toNat := by omega
    have middle : bits / 256 % 256 = b.toNat := by omega
    have low : bits % 256 = c.toNat := by omega
    simp only [sextets, base64Bytes, ih, given, whole, high, middle, low, UInt8.ofNat_toNat]
  | case2 a b =>
    obtain ⟨bits, given⟩ : ∃ bits, a.toNat * 256 + b.toNat = bits := ⟨_, rfl⟩
    have second := b.toNat_lt
    have whole : (bits / 1024 * 64 + bits / 16 % 64) * 64 + bits % 16 * 4 = bits * 4 := by omega
    have high : bits * 4 / 1024 = a.toNat := by omega
    have low : bits * 4 / 4 % 256 = b.toNat := by omega
    simp only [sextets, base64Bytes, given, whole, high, low, UInt8.ofNat_toNat]
  | case3 a =>
    have whole : (a.toNat / 4 * 64 + a.toNat % 4 * 16) / 16 = a.toNat := by omega
    simp only [sextets, base64Bytes, whole, UInt8.ofNat_toNat]
  | case4 => rfl

theorem base64Bytes_length (values : List ℕ) : (base64Bytes values).length = values.length * 3 / 4 := by
  induction values using base64Bytes.induct with
  | case1 a b c d rest ih =>
    simp only [base64Bytes, List.length_cons, ih]
    omega
  | case2 a b c => simp [base64Bytes]
  | case3 a b => simp [base64Bytes]
  | case4 values notFour notThree notTwo =>
    match values with
    | [] => simp [base64Bytes]
    | [a] => simp [base64Bytes]
    | [a, b] => exact (notTwo a b rfl).elim
    | [a, b, c] => exact (notThree a b c rfl).elim
    | a :: b :: c :: d :: rest => exact (notFour a b c d rest rfl).elim

private theorem mapM_length {α β : Type} {f : α → Option β} {items : List α} {values : List β}
    (read : items.mapM f = some values) : values.length = items.length := by
  induction items generalizing values with
  | nil =>
    obtain rfl : [] = values := Option.some.inj read
    rfl
  | cons item items ih =>
    rw [List.mapM_cons] at read
    obtain ⟨value, -, read⟩ := Option.bind_eq_some_iff.mp read
    obtain ⟨others, rest, same⟩ := Option.bind_eq_some_iff.mp read
    obtain rfl : value :: others = values := Option.some.inj same
    rw [List.length_cons, List.length_cons, ih rest]

/-- Four characters hold at most three bytes. -/
theorem atob_length_le {text : List Char} {bytes : List UInt8} (decoded : atob text = some bytes) :
    bytes.length ≤ text.length * 3 / 4 := by
  simp only [atob, Option.ite_none_left_eq_some, Option.map_eq_some_iff] at decoded
  obtain ⟨-, values, read, rfl⟩ := decoded
  rw [base64Bytes_length, mapM_length read]
  apply Nat.div_le_div_right
  apply Nat.mul_le_mul_right
  exact (List.length_take_le' ..).trans (List.length_filter_le ..)

/-- Two more groups of six bits are at least one more byte. -/
theorem base64Bytes_append_ne (bytes : List UInt8) {more : List ℕ} (two : 2 ≤ more.length) :
    base64Bytes (sextets bytes ++ more) ≠ bytes := by
  intro same
  have longer := congrArg List.length same
  rw [base64Bytes_length, List.length_append, sextets_length] at longer
  omega

/-- No letter is left over. -/
theorem sextets_complete (bytes : List UInt8) : ¬ (sextets bytes).length % 4 = 1 := by
  rw [sextets_length]
  omega

theorem sextets_ne_nil {bytes : List UInt8} (nonempty : bytes ≠ []) : sextets bytes ≠ [] := by
  have some := List.length_pos_of_ne_nil nonempty
  apply List.ne_nil_of_length_pos
  rw [sextets_length]
  omega

/-! ## Letters -/

theorem base64Value_letter : ∀ value < 64, base64Value (base64Letter value) = some value := by decide

/-- A letter is neither white space nor padding. -/
theorem base64Letter_plain : ∀ value < 64,
    (base64Letter value).toNat ∉ [9, 10, 12, 13, 32] ∧ base64Letter value ≠ '=' := by decide

/-- At most two signs at the end count as padding. -/
theorem padding_length {text : List Char} (plain : ∀ char ∈ text, char ≠ '=') (count : ℕ) :
    (((text ++ List.replicate count '=').reverse.take 2).takeWhile (· = '=')).length = min count 2 := by
  have front : ∀ rest : List Char, (∀ char ∈ rest, char ≠ '=') → rest.takeWhile (· = '=') = [] := by
    intro rest others
    cases rest with
    | nil => rfl
    | cons head tail => simp [others head List.mem_cons_self]
  have others (number : ℕ) : ∀ char ∈ text.reverse.take number, char ≠ '=' :=
    fun char member => plain char (List.mem_reverse.mp (List.mem_of_mem_take member))
  rw [List.reverse_append, List.reverse_replicate, List.take_append, List.take_replicate]
  rw [List.takeWhile_append_of_pos (by simp), front _ (others _), List.append_nil, List.length_replicate]
  omega

theorem mapM_letters {values : List ℕ} (small : ∀ value ∈ values, value < 64) :
    (values.map base64Letter).mapM base64Value = some values := by
  induction values with
  | nil => rfl
  | cons value rest ih =>
    rw [List.map_cons, List.mapM_cons, base64Value_letter value (small value List.mem_cons_self),
      ih fun later member => small later (List.mem_cons_of_mem _ member)]
    rfl

/-- `atob` of padded letters: an error when one letter is left over. -/
theorem atob_pad_letters {values : List ℕ} (small : ∀ value ∈ values, value < 64) :
    atob (base64Pad (values.map base64Letter)) =
      if values.length % 4 = 1 then none else some (base64Bytes values) := by
  obtain ⟨count, counted⟩ : ∃ count, (4 - values.length % 4) % 4 = count := ⟨_, rfl⟩
  have letters : ∀ char ∈ values.map base64Letter, char.toNat ∉ [9, 10, 12, 13, 32] ∧ char ≠ '=' := by
    intro char member
    obtain ⟨value, given, rfl⟩ := List.mem_map.mp member
    exact base64Letter_plain value (small value given)
  have stripped : (base64Pad (values.map base64Letter)).filter (fun char => !(char.toNat ∈ [9, 10, 12, 13, 32])) =
      values.map base64Letter ++ List.replicate count '=' := by
    rw [base64Pad, List.length_map, counted]
    apply List.filter_eq_self.mpr
    intro char member
    rcases List.mem_append.mp member with letter | padding
    · simpa using (letters char letter).1
    · rw [List.eq_of_mem_replicate padding]
      rfl
  have multiple : (values.map base64Letter ++ List.replicate count '=').length % 4 = 0 := by
    rw [List.length_append, List.length_map, List.length_replicate]
    omega
  have kept : (values.map base64Letter ++ List.replicate count '=').take
      ((values.map base64Letter ++ List.replicate count '=').length - min count 2) =
      values.map base64Letter ++ List.replicate (count - 2) '=' := by
    rw [List.take_append, List.take_of_length_le (by simp; omega), List.take_replicate]
    congr 2
    simp
    omega
  unfold atob
  dsimp only
  rw [stripped, if_pos multiple, padding_length (fun char member => (letters char member).2), kept]
  by_cases single : values.length % 4 = 1
  · have sign : count - 2 = 1 := by omega
    have notSingle : ¬ (values.map base64Letter ++ List.replicate 1 '=').length % 4 = 1 := by
      rw [List.length_append, List.length_map, List.length_replicate]
      omega
    rw [sign, if_neg notSingle, if_pos single, List.mapM_append, mapM_letters small]
    rfl
  · have noSign : count - 2 = 0 := by omega
    rw [noSign, List.replicate_zero, List.append_nil, List.length_map, if_neg single, if_neg single,
      mapM_letters small, Option.map_some]

/-- What was encoded is decoded. -/
theorem atob_btoa (bytes : List UInt8) : atob (btoa bytes) = some bytes := by
  rw [btoa, atob_pad_letters (sextets_lt bytes), if_neg (sextets_complete bytes), base64Bytes_sextets]

/-! ## The alphabet for URLs -/

/-- `replaceAll("+", "-").replaceAll("/", "_")` -/
def urlLetter (char : Char) : Char := if char = '+' then '-' else if char = '/' then '_' else char

/-- `replaceAll("-", "+").replaceAll("_", "/")` -/
def plainLetter (char : Char) : Char := if char = '-' then '+' else if char = '_' then '/' else char

/-- Base64 with the alphabet for URLs, without the padding. -/
def base64Url (bytes : List UInt8) : List Char := ((btoa bytes).map urlLetter).rdropWhile (· = '=')

/-- The way back; the padding is restored from the length. -/
def base64UrlBytes (text : List Char) : Option (List UInt8) := atob (base64Pad (text.map plainLetter))

theorem urlLetter_base64Letter : ∀ value < 64, plainLetter (urlLetter (base64Letter value)) = base64Letter value ∧
    urlLetter (base64Letter value) ∉ ['=', '.', ';'] ∧ isJsSpace (urlLetter (base64Letter value)) = false := by
  decide

theorem base64Url_eq (bytes : List UInt8) :
    base64Url bytes = (sextets bytes).map fun value => urlLetter (base64Letter value) := by
  have padded (letters : List Char) (count : ℕ) :
      (letters ++ List.replicate count '=').rdropWhile (· = '=') = letters.rdropWhile (· = '=') := by
    induction count with
    | zero => rw [List.replicate_zero, List.append_nil]
    | succ count ih =>
      rw [List.replicate_succ', ← List.append_assoc, List.rdropWhile_concat_pos _ _ _ (by decide), ih]
  have sign : urlLetter '=' = '=' := by decide
  rw [base64Url, btoa, base64Pad, List.map_append, List.map_replicate, sign, padded, List.map_map]
  apply List.rdropWhile_eq_self_iff.mpr
  intro nonempty
  obtain ⟨value, member, letter⟩ := List.mem_map.mp (List.getLast_mem nonempty)
  rw [← letter]
  have other := (urlLetter_base64Letter value (sextets_lt bytes value member)).2.1
  simp only [List.mem_cons, not_or] at other
  simpa using other.1

/-- No letter is a sign that separates tokens or cookies. -/
theorem mem_base64Url {bytes : List UInt8} {char : Char} (member : char ∈ base64Url bytes) :
    char ∉ ['=', '.', ';'] ∧ isJsSpace char = false := by
  rw [base64Url_eq] at member
  obtain ⟨value, inList, rfl⟩ := List.mem_map.mp member
  exact (urlLetter_base64Letter value (sextets_lt bytes value inList)).2

theorem base64Url_ne_nil {bytes : List UInt8} (nonempty : bytes ≠ []) : base64Url bytes ≠ [] := by
  rw [base64Url_eq, ne_eq, List.map_eq_nil_iff]
  exact sextets_ne_nil nonempty

theorem base64UrlBytes_base64Url (bytes : List UInt8) : base64UrlBytes (base64Url bytes) = some bytes := by
  have letters : (base64Url bytes).map plainLetter = (sextets bytes).map base64Letter := by
    rw [base64Url_eq, List.map_map]
    exact List.map_congr_left fun value member => (urlLetter_base64Letter value (sextets_lt bytes value member)).1
  rw [base64UrlBytes, letters]
  exact atob_btoa bytes

theorem base64Url_injective {left right : List UInt8} (same : base64Url left = base64Url right) : left = right := by
  have decoded := base64UrlBytes_base64Url left
  rw [same, base64UrlBytes_base64Url] at decoded
  exact (Option.some.inj decoded).symm

/-- Letters of the alphabet for URLs are decoded, unless one is left over. -/
theorem base64UrlBytes_letters {text : List Char} (whole : text.length % 4 ≠ 1)
    (letters : ∀ char ∈ text, ∃ value < 64, char = urlLetter (base64Letter value)) :
    ∃ bytes, base64UrlBytes text = some bytes := by
  have values : ∃ values : List ℕ, (∀ value ∈ values, value < 64) ∧ values.length = text.length ∧
      text.map plainLetter = values.map base64Letter := by
    clear whole
    induction text with
    | nil => exact ⟨[], nofun, rfl, rfl⟩
    | cons head tail ih =>
      obtain ⟨values, small, length, mapped⟩ := ih fun char member => letters char (List.mem_cons_of_mem _ member)
      obtain ⟨value, bound, rfl⟩ := letters head List.mem_cons_self
      refine ⟨value :: values, List.forall_mem_cons.mpr ⟨bound, small⟩, congrArg (· + 1) length, ?_⟩
      rw [List.map_cons, List.map_cons, mapped, (urlLetter_base64Letter value bound).1]
  obtain ⟨values, small, length, mapped⟩ := values
  rw [base64UrlBytes, mapped, atob_pad_letters small, length, if_neg whole]
  exact ⟨_, rfl⟩

/-! ## What is rejected -/

theorem mapM_eq_none {α β : Type} {read : α → Option β} {items : List α} {item : α} (member : item ∈ items)
    (fails : read item = none) : items.mapM read = none := by
  induction items with
  | nil => contradiction
  | cons head tail ih =>
    rw [List.mapM_cons]
    rcases List.mem_cons.mp member with rfl | later
    · rw [fails]
      rfl
    · rw [ih later]
      cases read head <;> rfl

/-- The end of a text that counts as padding is nothing but signs. -/
theorem eq_of_mem_padding {text : List Char} {count : ℕ}
    (bound : count ≤ ((text.reverse.take 2).takeWhile (· = '=')).length) {char : Char}
    (member : char ∈ text.drop (text.length - count)) : char = '=' := by
  rw [← List.mem_reverse, ← List.take_reverse] at member
  have front : (text.reverse.take 2).takeWhile (· = '=') <+: text.reverse :=
    (List.takeWhile_prefix _).trans (List.take_prefix _ _)
  obtain ⟨rest, split⟩ := front
  rw [← split, List.take_append_of_le_length bound] at member
  simpa using List.mem_takeWhile_imp (List.mem_of_mem_take member)

/-- `atob` rejects a text with a character that is no letter, white space or padding. -/
theorem atob_eq_none {text : List Char} {char : Char} (member : char ∈ text) (foreign : base64Value char = none)
    (noSpace : char.toNat ∉ [9, 10, 12, 13, 32]) (noSign : char ≠ '=') : atob text = none := by
  have kept : char ∈ text.filter fun char => !(char.toNat ∈ [9, 10, 12, 13, 32]) :=
    List.mem_filter.mpr ⟨member, by simpa using noSpace⟩
  unfold atob
  generalize text.filter (fun char => !(char.toNat ∈ [9, 10, 12, 13, 32])) = stripped at kept
  dsimp only
  generalize size : (if stripped.length % 4 = 0 then ((stripped.reverse.take 2).takeWhile (· = '=')).length else 0) = padding
  have bound : padding ≤ ((stripped.reverse.take 2).takeWhile (· = '=')).length := by
    rw [← size]
    split
    · exact le_rfl
    · exact Nat.zero_le _
  have letter : char ∈ stripped.take (stripped.length - padding) := by
    rw [← List.take_append_drop (stripped.length - padding) stripped, List.mem_append] at kept
    exact kept.resolve_right fun sign => noSign (eq_of_mem_padding bound sign)
  rw [mapM_eq_none letter foreign, Option.map_none, ite_self]

theorem base64Value_wide {char : Char} (wide : 0x80 ≤ char.toNat) : base64Value char = none := by
  have beyond (letter : Char) (ascii : letter.toNat < 0x80) : ¬ char ≤ letter ∧ char ≠ letter := by
    constructor
    · intro below
      have order : char.toNat ≤ letter.toNat := below
      omega
    · rintro rfl
      omega
  unfold base64Value
  rw [if_neg fun range => (beyond 'Z' (by decide)).1 range.2, if_neg fun range => (beyond 'z' (by decide)).1 range.2,
    if_neg fun range => (beyond '9' (by decide)).1 range.2, if_neg (beyond '+' (by decide)).2,
    if_neg (beyond '/' (by decide)).2]

/-- Padding that is counted in code units is the padding that counts: only letters take one unit each, and a
character that takes two is rejected. -/
theorem base64UrlBytes_units (text : String) :
    atob (text.toList.map plainLetter ++ List.replicate ((4 - (utf16 text).length % 4) % 4) '=') =
      base64UrlBytes text.toList := by
  by_cases narrow : ∀ char ∈ text.toList, char.toNat < 0x10000
  · have units : (utf16 text).length = text.toList.length := by
      unfold utf16
      generalize text.toList = chars at narrow
      induction chars with
      | nil => rfl
      | cons head tail ih =>
        rw [List.flatMap_cons, List.length_append, ih fun char member => narrow char (List.mem_cons_of_mem _ member),
          utf16Char, if_pos (narrow head List.mem_cons_self), List.length_singleton, List.length_cons, Nat.add_comm]
    rw [base64UrlBytes, base64Pad, List.length_map, units]
  · push Not at narrow
    obtain ⟨char, member, wide⟩ := narrow
    have same : plainLetter char = char := by
      unfold plainLetter
      rw [if_neg (by rintro rfl; revert wide; decide), if_neg (by rintro rfl; revert wide; decide)]
    have mapped : char ∈ text.toList.map plainLetter := List.mem_map.mpr ⟨char, member, same⟩
    have rejected (rest : List Char) : atob (text.toList.map plainLetter ++ rest) = none := by
      refine atob_eq_none (List.mem_append_left _ mapped) ?_ ?_ ?_
      · exact base64Value_wide (by omega)
      · simp only [List.mem_cons, List.not_mem_nil, or_false]
        omega
      · rintro rfl
        revert wide
        decide
    rw [rejected, base64UrlBytes, base64Pad, rejected]

end OmniControlPlane.Lib
