import OmniControlPlane.Deployment.PanelInput
import OmniControlPlane.Lib.StringLiteral

/-! # The password in the source of a panel

The places of a source where the password and the domain are put in, and when the rewritten source has them there as
string literals with exactly these values.
-/

namespace OmniControlPlane.Deployment.Panels

open Lib Lib.StringLiteral
open Lib.Json (quote)

/-! ## Places -/

/-- A character of a source, or what a rewriting of it replaces. -/
inductive Place where
  | kept (char : Char)
  | masterKey
  | token
  | domain
deriving DecidableEq

/-- The characters up to the first replaced place. -/
def keptText : List Place → List Char
  | .kept char :: rest => char :: keptText rest
  | _ => []

/-- The matches of a global pattern become places. -/
def mark (pattern : List Char → ℕ) (place : Place) : ℕ → List Place → List Place
  | _, [] => []
  | skip + 1, _ :: rest => mark pattern place skip rest
  | 0, first :: rest =>
    match pattern (keptText (first :: rest)) with
    | 0 => first :: mark pattern place 0 rest
    | length + 1 => place :: mark pattern place length rest

/-- The places of a source. -/
def placeholders (panelKey source : String) : List Place :=
  let text := source.toList.map .kept
  if panelKey = "nahan" then mark masterKey .masterKey 0 text
  else if panelKey = "spider" then
    mark (literal "__PANEL_DOMAIN__".toList) .domain 0 (mark (literal "__PANEL_TOKEN__".toList) .token 0 text)
  else text

/-- The text after a string literal with this value. -/
def readValue (value : String) (text : List Char) : Option (List Char) :=
  (readLiteral text).bind fun read => if read.1 = utf16 value then some read.2 else none

/-- The text after one place: the same character, or a literal with the value given. -/
def readPlace (password domain : String) : Place → List Char → Option (List Char)
  | .kept char, text => if text.head? = some char then some text.tail else none
  | .masterKey, text => if "masterKey: ".toList.isPrefixOf text then readValue password (text.drop 11) else none
  | .token, text => readValue password text
  | .domain, text => readValue domain text

def readPlaces (password domain : String) : List Place → List Char → Option (List Char)
  | [], text => some text
  | place :: rest, text => (readPlace password domain place text).bind (readPlaces password domain rest)

/-- Each placeholder became a literal with exactly the value given, and nothing else of the source changed. -/
def Injected (panelKey source password domain : String) : Prop :=
  readPlaces password domain (placeholders panelKey source)
    (transformPanelSource panelKey source password domain).1.toList = some []

instance (panelKey source password domain : String) : Decidable (Injected panelKey source password domain) :=
  inferInstanceAs (Decidable (_ = _))

/-! ## Templates of replacements -/

/-- A character that a replacement takes as a code after `$`. -/
def isCode (char : Char) : Bool := char = '$' || char = '&' || char.toNat = 96 || char.toNat = 39

/-- The codes of a template. -/
def codes : List Char → List Char
  | [] => []
  | [_] => []
  | char :: code :: rest => if char = '$' ∧ isCode code = true then code :: codes rest else codes (code :: rest)

/-- No code puts in the text around a match. -/
def Contextless (template : List Char) : Prop := ∀ code ∈ codes template, code = '$' ∨ code = '&'

/-- The texts that a place takes as they are. -/
def Fits (password domain : String) : Place → Prop
  | .kept _ => True
  | .masterKey => (∀ char ∈ password.toList, Plain char) ∧ codes password.toList = []
  | .token => codes password.toList = [] ∧ ¬ "__PANEL_DOMAIN__".toList <:+: password.toList
  | .domain => codes domain.toList = []

def Safe (panelKey source password domain : String) : Prop :=
  ∀ place ∈ placeholders panelKey source, Fits password domain place

/-- What a place takes does not depend on the text around it. -/
def Settled (password domain : String) : Place → Prop
  | .kept _ => True
  | .masterKey | .token => Contextless password.toList
  | .domain => Contextless domain.toList

def put (before matched after : List Char) (code : Char) : List Char :=
  if code = '$' then ['$'] else if code = '&' then matched else if code.toNat = 96 then before else after

/-- The character is no `$` before a code. -/
def Keeps (char : Char) (rest : List Char) : Prop := char = '$' → ∀ code ∈ rest.head?, isCode code = false

section

variable {before matched after template rest : List Char} {char code : Char}

theorem template_induction {motive : List Char → Prop} (nil : motive [])
    (keep : ∀ char rest, Keeps char rest → motive rest → motive (char :: rest))
    (code : ∀ code rest, isCode code = true → motive rest → motive ('$' :: code :: rest)) (template : List Char) :
    motive template := by
  induction template using codes.induct with
  | case1 => exact nil
  | case2 char => exact keep char [] (fun _ code member => absurd member (Option.not_mem_none code)) nil
  | case3 char next rest both ih =>
    obtain ⟨rfl, known⟩ := both
    exact code next rest known ih
  | case4 char next rest other ih =>
    refine keep char (next :: rest) (fun dollar code member => ?_) ih
    obtain rfl := Option.mem_some.mp member
    exact Bool.eq_false_iff.mpr fun known => other ⟨dollar, known⟩

theorem expand_keep (keeps : Keeps char rest) :
    expand before matched after (char :: rest) = char :: expand before matched after rest := by
  cases rest with
  | nil => rw [expand, expand]
  | cons code rest =>
    rw [expand]
    split
    · rfl
    · next dollar =>
      have other : isCode code = false := keeps (not_not.mp dollar) code rfl
      simp only [isCode, Bool.or_eq_false_iff, decide_eq_false_iff_not] at other
      rw [if_neg other.1.1.1, if_neg other.1.1.2, if_neg other.1.2, if_neg other.2]

theorem expand_code (known : isCode code = true) :
    expand before matched after ('$' :: code :: rest) = put before matched after code ++ expand before matched after rest := by
  rw [expand, if_neg (not_not.mpr rfl), put]
  split
  · rfl
  split
  · rfl
  split
  · rfl
  · next noDollar noMatch noBefore =>
    have quoteCode : code.toNat = 39 := by simpa [isCode, noDollar, noMatch, noBefore] using known
    rw [if_pos quoteCode]

theorem codes_keep (keeps : Keeps char rest) : codes (char :: rest) = codes rest := by
  cases rest with
  | nil => rfl
  | cons code rest =>
    rw [codes, if_neg]
    rintro ⟨dollar, known⟩
    rw [keeps dollar code rfl] at known
    contradiction

theorem codes_code (known : isCode code = true) : codes ('$' :: code :: rest) = code :: codes rest := by
  rw [codes, if_pos ⟨rfl, known⟩]

theorem expand_of_contextless (contextless : Contextless template) :
    expand before matched after template = expand [] matched [] template := by
  induction template using template_induction with
  | nil => rw [expand, expand]
  | keep char rest keeps ih =>
    rw [Contextless, codes_keep keeps] at contextless
    rw [expand_keep keeps, expand_keep keeps, ih contextless]
  | code code rest known ih =>
    rw [Contextless, codes_code known] at contextless
    rw [expand_code known, expand_code known, ih fun later member => contextless later (List.mem_cons_of_mem _ member)]
    rcases contextless code List.mem_cons_self with rfl | rfl <;> rfl

theorem expand_of_codes (plain : codes template = []) : expand before matched after template = template := by
  induction template using template_induction with
  | nil => rw [expand]
  | keep char rest keeps ih => rw [expand_keep keeps, ih (codes_keep keeps ▸ plain)]
  | code code rest known ih =>
    rw [codes_code known] at plain
    contradiction

theorem contextless_of_codes (plain : codes template = []) : Contextless template := by
  intro code member
  rw [plain] at member
  exact absurd member List.not_mem_nil

theorem expand_append_of_no_dollar {text : List Char} (free : '$' ∉ text) (template : List Char) :
    expand before matched after (text ++ template) = text ++ expand before matched after template := by
  induction text with
  | nil => rfl
  | cons char text ih =>
    have keeps : Keeps char (text ++ template) := fun dollar => absurd (dollar ▸ List.mem_cons_self) free
    rw [List.cons_append, expand_keep keeps, ih fun member => free (List.mem_cons_of_mem _ member), List.cons_append]

theorem codes_append_of_no_dollar {text : List Char} (free : '$' ∉ text) (template : List Char) :
    codes (text ++ template) = codes template := by
  induction text with
  | nil => rfl
  | cons char text ih =>
    have keeps : Keeps char (text ++ template) := fun dollar => absurd (dollar ▸ List.mem_cons_self) free
    rw [List.cons_append, codes_keep keeps, ih fun member => free (List.mem_cons_of_mem _ member)]

end

/-! ## A password inside quotes -/

/-- Neither the start of the matched text nor the closing quote. -/
def Free (char : Char) : Prop := char ≠ 'm' ∧ char ≠ quote

instance (char : Char) : Decidable (Free char) := inferInstanceAs (Decidable (_ ∧ _))

def Held (pending : List UInt16) : Prop := ∀ unit ∈ pending, unit ≠ 109 ∧ unit ≠ 34

instance (pending : List UInt16) : Decidable (Held pending) := List.decidableBAll _ pending

/-- Reading lags behind the password: what is read is never the units that are still due and the rest. -/
def Behind (text : List Char) (rest : List UInt16) : Prop :=
  ∀ (skip : ℕ) (pending value : List UInt16) (left : List Char), readBody skip text = some (value, left) →
    pending ≠ [] ∨ 0 < skip → Held pending → (∀ char ∈ text.take skip, Free char) → value ≠ pending ++ rest

section

variable {text : List Char} {char : Char} {rest : List UInt16}

theorem Held.append {left right : List UInt16} (first : Held left) (second : Held right) : Held (left ++ right) :=
  fun unit member => (List.mem_append.mp member).elim (first unit) (second unit)

theorem held_utf16Char (free : Free char) : Held (utf16Char char) := by
  intro unit member
  rcases codeUnits_shape char.toNat (toNat_le char) with single | ⟨high, low, pair, large, larger⟩
  · rw [utf16Char] at member
    split at member
    · next small =>
      obtain rfl := List.mem_singleton.mp member
      have code (value : ℕ) (bound : value < 0x10000) (same : UInt16.ofNat char.toNat = UInt16.ofNat value) :
          char = Char.ofNat value := by
        have values := congrArg UInt16.toNat same
        rw [UInt16.toNat_ofNat_of_lt' (by simpa [UInt16.size] using small),
          UInt16.toNat_ofNat_of_lt' (by simpa [UInt16.size] using bound)] at values
        rw [← values, Char.ofNat_toNat]
      exact ⟨fun same => free.1 (code 109 (by decide) same), fun same => free.2 (code 34 (by decide) same)⟩
    · next large =>
      rw [codeUnits, if_neg large] at single
      exact absurd single (by simp)
  · rw [utf16Char_eq_codeUnits, pair] at member
    have bound : 0xD800 ≤ unit.toNat := by
      rcases List.mem_cons.mp member with rfl | last
      · exact large
      · exact List.mem_singleton.mp last ▸ larger
    constructor <;> rintro rfl <;> exact absurd bound (by decide)

/-- The units that are due after some of them are read. -/
theorem split_pending (pending own : List UInt16) {emitted value rest : List UInt16}
    (same : emitted ++ value = pending ++ own ++ rest) (short : emitted.length ≤ (pending ++ own).length) :
    ∃ due, pending ++ own = emitted ++ due ∧ value = due ++ rest := by
  obtain ⟨due, first, second⟩ | ⟨due, first, second⟩ := List.append_eq_append_iff.mp same
  · exact ⟨due, first, second⟩
  · have nothing : due = [] := by
      have lengths := congrArg List.length first
      rw [List.length_append] at lengths
      exact List.eq_nil_of_length_eq_zero (by omega)
    subst nothing
    exact ⟨[], by simpa using first.symm, by simpa using second.symm⟩

theorem length_utf16Char (char : Char) : 0 < (utf16Char char).length ∧ (utf16Char char).length ≤ 2 := by
  rw [utf16Char]
  split <;> simp

/-- What the escape after a backslash reads, when the units due do not begin with the start of a match or a quote. -/
theorem escape_free {value : List UInt16} {length : ℕ} (found : escape text = some (value, length))
    (head : ∀ unit ∈ value.head?, unit ≠ 109 ∧ unit ≠ 34) :
    0 < length ∧ (∀ char ∈ text.take length, Free char) ∧ value.length ≤ 2 := by
  rcases escape_cases found with ⟨char, tail, rfl, rfl, rfl⟩ | ⟨positive, chars, shape⟩
  · refine ⟨Nat.one_pos, fun later member => ?_, (length_utf16Char char).2⟩
    obtain rfl := List.mem_singleton.mp member
    constructor <;> rintro rfl
    · exact (head 109 rfl).1 rfl
    · exact (head 34 rfl).2 rfl
  · refine ⟨positive, fun later member => ?_, ?_⟩
    · have letter := chars later member
      constructor <;> rintro rfl <;> exact absurd letter (by decide)
    · rcases shape with small | ⟨high, low, rfl, -⟩
      · exact small.trans (by decide)
      · exact le_rfl

theorem Behind.quote (after : List Char) : Behind (Json.quote :: after) [] := by
  intro skip pending value left read due held free
  cases skip with
  | zero =>
    rw [readBody_quote] at read
    obtain ⟨rfl, -⟩ := Prod.mk.inj (Option.some.inj read)
    rw [List.append_nil]
    exact (due.resolve_right (Nat.lt_irrefl 0)).symm
  | succ skip => exact absurd rfl (free Json.quote List.mem_cons_self).2

theorem Behind.stop (text : List Char) (rest : List UInt16) : Behind ('m' :: text) rest := by
  intro skip pending value left read due held free same
  cases skip with
  | zero =>
    have some := due.resolve_right (Nat.lt_irrefl 0)
    rw [readBody_cons (by decide)] at read
    obtain ⟨⟨more, _⟩, -, whole⟩ := Option.map_eq_some_iff.mp read
    obtain ⟨rfl, -⟩ := Prod.mk.inj whole
    cases pending with
    | nil => exact some rfl
    | cons unit pending =>
      obtain rfl : 109 = unit := (List.cons.inj same).1
      exact (held 109 List.mem_cons_self).1 rfl
  | succ skip => exact (free 'm' List.mem_cons_self).1 rfl

/-- A code that puts in nothing. -/
theorem Behind.wait (behind : Behind text rest) {own : List UInt16} (holds : Held own) (some : own ≠ []) :
    Behind text (own ++ rest) := by
  intro skip pending value left read due held free
  rw [← List.append_assoc]
  exact behind skip (pending ++ own) value left read (.inl (by simp [some])) (held.append holds) free

/-- A character, and units of the password that it does not bring. -/
theorem Behind.cons (behind : Behind text rest) (char : Char) {extra : List UInt16} (holds : Held extra) :
    Behind (char :: text) (utf16Char char ++ extra ++ rest) := by
  intro skip pending value left read due held free same
  rw [List.append_assoc, ← List.append_assoc pending, ← List.append_assoc] at same
  cases skip with
  | succ skip =>
    -- Inside an escape: all units of the character become due.
    refine behind skip (pending ++ utf16Char char ++ extra) value left read (.inl ?_) ?_
      (fun later member => free later (List.mem_cons_of_mem _ member)) same
    · have nonempty := List.ne_nil_of_length_pos (length_utf16Char char).1
      simp [nonempty]
    · exact (held.append (held_utf16Char (free char List.mem_cons_self))).append holds
  | zero =>
    have some := due.resolve_right (Nat.lt_irrefl 0)
    obtain ⟨unit, pending, rfl⟩ := List.exists_cons_of_ne_nil some
    have first := held unit List.mem_cons_self
    by_cases closes : char = Json.quote
    · subst closes
      rw [readBody_quote] at read
      obtain ⟨rfl, -⟩ := Prod.mk.inj (Option.some.inj read)
      contradiction
    by_cases backslash : char.toNat = 92
    · obtain rfl : char = Char.ofNat 92 := by rw [← backslash, Char.ofNat_toNat]
      rw [readBody_backslash rfl] at read
      obtain ⟨⟨emitted, length⟩, found, read⟩ := Option.bind_eq_some_iff.mp read
      obtain ⟨⟨more, _⟩, later, whole⟩ := Option.map_eq_some_iff.mp read
      obtain ⟨rfl, rfl⟩ := Prod.mk.inj whole
      have head : ∀ front ∈ emitted.head?, front ≠ 109 ∧ front ≠ 34 := by
        intro front member
        obtain ⟨tail, rfl⟩ := List.head?_eq_some_iff.mp member
        obtain rfl : front = unit := (List.cons.inj same).1
        exact first
      obtain ⟨positive, freed, short⟩ := escape_free found head
      obtain ⟨left, parts, rfl⟩ := split_pending (unit :: pending) (utf16Char (Char.ofNat 92) ++ extra)
        (by simpa [List.append_assoc] using same) (by
          have backslashUnit : (utf16Char (Char.ofNat 92)).length = 1 := rfl
          simp only [List.length_append, List.length_cons]
          omega)
      have whole : Held (emitted ++ left) := by
        rw [← parts]
        exact held.append ((held_utf16Char (by decide)).append holds)
      exact behind length left _ _ later (.inr positive) (fun unit member => whole unit (List.mem_append_right _ member))
        freed rfl
    by_cases line : char = '\n' ∨ char = '\r'
    · rw [readBody, if_neg closes, if_neg backslash, if_pos line] at read
      contradiction
    · have plain : Plain char := ⟨closes, backslash, not_or.mp line⟩
      rw [readBody_cons plain] at read
      obtain ⟨⟨more, _⟩, later, whole⟩ := Option.map_eq_some_iff.mp read
      obtain ⟨rfl, rfl⟩ := Prod.mk.inj whole
      have notStop : char ≠ 'm' := by
        rintro rfl
        obtain rfl : 109 = unit := (List.cons.inj same).1
        exact first.1 rfl
      obtain ⟨left, parts, rfl⟩ := split_pending (unit :: pending) (utf16Char char ++ extra)
        (by simpa [List.append_assoc] using same) (by
          simp only [List.length_append]
          omega)
      have whole : Held (utf16Char char ++ left) := by
        rw [← parts]
        exact held.append ((held_utf16Char ⟨notStop, closes⟩).append holds)
      refine behind 0 left _ _ later (.inl ?_) (fun unit member => whole unit (List.mem_append_right _ member))
        (fun later member => absurd member List.not_mem_nil) rfl
      rintro rfl
      have lengths := congrArg List.length parts
      simp only [List.length_append, List.length_cons, List.length_nil] at lengths
      omega

theorem held_code {code : Char} (known : isCode code = true) : Held (utf16Char code) := by
  apply held_utf16Char
  constructor <;> rintro rfl <;> exact absurd known (by decide)

theorem behind_expand (matched after template : List Char) :
    Behind (expand [] ('m' :: matched) [] template ++ Json.quote :: after) (units template) := by
  induction template using template_induction with
  | nil =>
    rw [expand]
    exact Behind.quote after
  | keep char rest keeps ih =>
    rw [expand_keep keeps, List.cons_append, units_cons]
    simpa using ih.cons char (fun unit member => absurd member List.not_mem_nil : Held [])
  | code code rest known ih =>
    rw [expand_code known, List.append_assoc, units_cons, units_cons, ← List.append_assoc, put]
    split
    · exact ih.cons '$' (held_code known)
    split
    · exact Behind.stop _ _
    · rw [ite_self, List.nil_append]
      have held : Held (utf16Char '$' ++ utf16Char code) := Held.append (by decide) (held_code known)
      exact ih.wait held (List.cons_ne_nil _ _)

/-- A password put between quotes is read as itself only if it has no character that a literal or a replacement
changes. -/
theorem plain_of_readBody {matched after template left : List Char}
    (read : readBody 0 (expand [] ('m' :: matched) [] template ++ Json.quote :: after) = some (units template, left)) :
    (∀ char ∈ template, Plain char) ∧ codes template = [] := by
  induction template using template_induction with
  | nil => exact ⟨fun char member => absurd member List.not_mem_nil, rfl⟩
  | keep char rest keeps ih =>
    have behind := behind_expand matched after rest
    rw [expand_keep keeps, List.cons_append, units_cons] at read
    by_cases closes : char = Json.quote
    · subst closes
      rw [readBody_quote] at read
      cases read
    by_cases backslash : char.toNat = 92
    · obtain rfl : char = Char.ofNat 92 := by rw [← backslash, Char.ofNat_toNat]
      rw [readBody_backslash rfl] at read
      obtain ⟨⟨emitted, length⟩, found, read⟩ := Option.bind_eq_some_iff.mp read
      obtain ⟨⟨value, _⟩, later, whole⟩ := Option.map_eq_some_iff.mp read
      obtain ⟨same, rfl⟩ := Prod.mk.inj whole
      change emitted ++ value = 92 :: units rest at same
      have head : ∀ front ∈ emitted.head?, front = 92 := by
        intro front member
        obtain ⟨tail, rfl⟩ := List.head?_eq_some_iff.mp member
        exact (List.cons.inj same).1
      obtain ⟨positive, freed, -⟩ := escape_free found fun front member => head front member ▸ (by decide)
      -- No escape reads a pair that starts with a backslash.
      have short : emitted.length ≤ 1 := by
        rcases escape_cases found with ⟨char, _, -, rfl, -⟩ | ⟨-, -, single | ⟨high, low, rfl, large, -⟩⟩
        · rcases codeUnits_shape char.toNat (toNat_le char) with single | ⟨high, low, pair, large, -⟩
          · exact le_of_eq single
          · rw [utf16Char_eq_codeUnits, pair] at head
            rw [head high rfl] at large
            exact absurd large (by decide)
        · exact single
        · rw [head high rfl] at large
          exact absurd large (by decide)
      cases emitted with
      | nil => exact absurd same (behind length [92] value _ later (.inr positive) (by decide) freed)
      | cons front tail =>
        obtain rfl : tail = [] := List.eq_nil_of_length_eq_zero (by simpa using short)
        exact absurd (List.cons.inj same).2
          (behind length [] value _ later (.inr positive) (fun unit member => absurd member List.not_mem_nil) freed)
    by_cases line : char = '\n' ∨ char = '\r'
    · rw [readBody, if_neg closes, if_neg backslash, if_pos line] at read
      contradiction
    · have plain : Plain char := ⟨closes, backslash, not_or.mp line⟩
      rw [readBody_cons plain] at read
      obtain ⟨⟨value, _⟩, later, whole⟩ := Option.map_eq_some_iff.mp read
      obtain ⟨same, rfl⟩ := Prod.mk.inj whole
      obtain rfl := List.append_cancel_left same
      obtain ⟨others, free⟩ := ih later
      refine ⟨fun found member => ?_, (codes_keep keeps).trans free⟩
      rcases List.mem_cons.mp member with rfl | member
      · exact plain
      · exact others found member
  | code code rest known ih =>
    exfalso
    have behind := behind_expand matched after rest
    have held := held_code known
    rw [expand_code known, List.append_assoc, units_cons, units_cons, put] at read
    have due : utf16Char '$' ++ utf16Char code ≠ [] := List.cons_ne_nil _ _
    have free : ∀ text : List Char, ∀ char ∈ text.take 0, Free char := fun _ char member => absurd member List.not_mem_nil
    split at read
    · rw [List.singleton_append, readBody_cons (by decide)] at read
      obtain ⟨⟨value, _⟩, later, whole⟩ := Option.map_eq_some_iff.mp read
      obtain ⟨same, rfl⟩ := Prod.mk.inj whole
      have codeDue : utf16Char code ≠ [] := List.ne_nil_of_length_pos (length_utf16Char code).1
      exact behind 0 (utf16Char code) value _ later (.inl codeDue) held (free _) (List.append_cancel_left same)
    split at read
    · rw [List.cons_append, readBody_cons (by decide)] at read
      obtain ⟨⟨value, _⟩, later, whole⟩ := Option.map_eq_some_iff.mp read
      exact absurd (List.cons.inj (Prod.mk.inj whole).1).1 (by decide)
    · rw [ite_self, List.nil_append, ← List.append_assoc] at read
      exact behind 0 _ _ _ read (.inl due) (Held.append (by decide) held) (free _) rfl

end

/-! ## A password that is quoted -/

section

variable {template word matched : List Char}

theorem ne_of_isCode {stop code : Char} (noCode : isCode stop = false) (known : isCode code = true) : stop ≠ code := by
  rintro rfl
  rw [noCode] at known
  contradiction

/-- Two characters for one: what a replacement puts in lags behind its template. -/
theorem not_pending_expand (stop : Char) (noCode : isCode stop = false) (matched template : List Char) :
    ∀ pending : List Char, pending ≠ [] → stop ∉ pending → ¬ pending ++ template <+: expand [] (stop :: matched) [] template := by
  induction template using template_induction with
  | nil =>
    intro pending due _ front
    rw [expand, List.append_nil] at front
    exact due (List.prefix_nil.mp front)
  | keep char rest keeps ih =>
    intro pending due held front
    obtain ⟨first, pending, rfl⟩ := List.exists_cons_of_ne_nil due
    rw [expand_keep keeps, List.cons_append, List.cons_prefix_cons] at front
    obtain ⟨rfl, front⟩ := front
    refine ih (pending ++ [first]) (by simp) (fun member => held ?_) (by simpa using front)
    rcases List.mem_append.mp member with old | new
    · exact List.mem_cons_of_mem _ old
    · exact List.mem_singleton.mp new ▸ List.mem_cons_self
  | code code rest known ih =>
    intro pending due held front
    have both : stop ∉ pending ++ ['$', code] := by
      intro member
      rcases List.mem_append.mp member with old | new
      · exact held old
      · rcases List.mem_cons.mp new with dollar | new
        · exact ne_of_isCode noCode rfl dollar
        · exact ne_of_isCode noCode known (List.mem_singleton.mp new)
    rw [expand_code known, put] at front
    split at front
    · obtain ⟨first, pending, rfl⟩ := List.exists_cons_of_ne_nil due
      rw [List.cons_append, List.singleton_append, List.cons_prefix_cons] at front
      refine ih (pending ++ ['$', code]) (by simp) (fun member => both (List.mem_cons_of_mem _ member)) ?_
      simpa using front.2
    split at front
    · obtain ⟨first, pending, rfl⟩ := List.exists_cons_of_ne_nil due
      rw [List.cons_append, List.cons_append, List.cons_prefix_cons] at front
      exact held (front.1 ▸ List.mem_cons_self)
    · rw [ite_self, List.nil_append] at front
      exact ih (pending ++ ['$', code]) (by simp) both (by simpa using front)

theorem codes_of_prefix_expand {stop : Char} (noCode : isCode stop = false)
    (front : template <+: expand [] (stop :: matched) [] template) : codes template = [] := by
  induction template using template_induction with
  | nil => rfl
  | keep char rest keeps ih =>
    rw [expand_keep keeps, List.cons_prefix_cons] at front
    rw [codes_keep keeps, ih front.2]
  | code code rest known ih =>
    exfalso
    rw [expand_code known, put] at front
    split at front
    · rw [List.singleton_append, List.cons_prefix_cons] at front
      exact not_pending_expand stop noCode matched rest [code] (by simp)
        (fun member => ne_of_isCode noCode known (List.mem_singleton.mp member)) front.2
    split at front
    · rw [List.cons_append, List.cons_prefix_cons] at front
      exact ne_of_isCode noCode (rfl : isCode '$' = true) front.1.symm
    · rw [ite_self, List.nil_append] at front
      refine not_pending_expand stop noCode matched rest ['$', code] (by simp) (fun member => ?_) front
      rcases List.mem_cons.mp member with dollar | last
      · exact ne_of_isCode noCode (rfl : isCode '$' = true) dollar
      · exact ne_of_isCode noCode known (List.mem_singleton.mp last)

/-! ### Replacements in written strings -/

theorem jsonChar_cases (char : Char) :
    (jsonChar char = [char] ∧ char ≠ Json.quote ∧ char.toNat ≠ 92) ∨
      ∃ more, jsonChar char = Char.ofNat 92 :: more ∧ ∀ later ∈ more, later ≠ '$' ∧ later ≠ '_' := by
  have digits : ∀ code < 32, Nat.digitChar (code / 16) ≠ '$' ∧ Nat.digitChar (code / 16) ≠ '_' ∧
      Nat.digitChar (code % 16) ≠ '$' ∧ Nat.digitChar (code % 16) ≠ '_' := by decide
  have itself (code : ℕ) (same : char.toNat = code) (mem : code ∈ [34, 92]) : ∀ later ∈ [char], later ≠ '$' ∧ later ≠ '_' := by
    intro later member
    obtain rfl := List.mem_singleton.mp member
    obtain rfl : later = Char.ofNat code := by rw [← same, Char.ofNat_toNat]
    rcases List.mem_cons.mp mem with rfl | mem
    · decide
    · obtain rfl := List.mem_singleton.mp mem
      decide
  unfold jsonChar
  split
  · exact .inr ⟨_, rfl, by simp⟩
  · exact .inr ⟨_, rfl, by simp⟩
  · exact .inr ⟨_, rfl, by simp⟩
  · exact .inr ⟨_, rfl, by simp⟩
  · exact .inr ⟨_, rfl, by simp⟩
  · next same => exact .inr ⟨_, rfl, itself 34 same (by decide)⟩
  · next same => exact .inr ⟨_, rfl, itself 92 same (by decide)⟩
  · next noQuote noBackslash =>
    split
    · next control =>
      refine .inr ⟨_, rfl, fun later member => ?_⟩
      obtain ⟨high, high', low, low'⟩ := digits char.toNat control
      simp only [List.mem_cons, List.not_mem_nil, or_false] at member
      rcases member with rfl | rfl | rfl | rfl | rfl
      · decide
      · decide
      · decide
      · exact ⟨high, high'⟩
      · exact ⟨low, low'⟩
    · refine .inl ⟨rfl, ?_, noBackslash⟩
      rintro rfl
      exact noQuote rfl

end

/-! ## The rewriting of each panel -/

section

variable {password domain : String} {pattern : List Char → ℕ} {template before rest : List Char} {char : Char}

theorem replaceAll_keep (none : pattern (char :: rest) = 0) :
    replaceAll pattern template before 0 (char :: rest) =
      char :: replaceAll pattern template (before ++ [char]) 0 rest := by
  rw [replaceAll, none]

theorem replaceAll_match {length : ℕ} (found : pattern (char :: rest) = length + 1) :
    replaceAll pattern template before 0 (char :: rest) =
      expand before ((char :: rest).take (length + 1)) (rest.drop length) template ++
        replaceAll pattern template (before ++ [char]) length rest := by
  rw [replaceAll, found]

theorem keptText_map (text : List Char) : keptText (text.map .kept) = text := by
  induction text with
  | nil => rfl
  | cons char text ih => rw [List.map_cons, keptText, ih]

theorem readPlace_kept (text : List Char) : readPlace password domain (.kept char) (char :: text) = some text := if_pos rfl

/-- A literal is read with the value given, and then the text after it. -/
theorem readValue_bind_iff {value : String} {text : List Char} {next : List Char → Option (List Char)} :
    (readValue value (Json.quote :: text)).bind next = some [] ↔
      ∃ left, readBody 0 text = some (units value.toList, left) ∧ next left = some [] := by
  change ((readBody 0 text).bind _).bind next = some [] ↔ _
  constructor
  · intro read
    obtain ⟨left, matched, after⟩ := Option.bind_eq_some_iff.mp read
    obtain ⟨⟨value', left'⟩, body, same⟩ := Option.bind_eq_some_iff.mp matched
    dsimp only at same
    split at same
    · next equal =>
      obtain rfl := Option.some.inj same
      rw [equal] at body
      exact ⟨left', body, after⟩
    · contradiction
  · rintro ⟨left, body, after⟩
    have same : units value.toList = utf16 value := rfl
    rw [body, Option.bind_some]
    dsimp only
    rw [if_pos same, Option.bind_some, after]

theorem expand_concat_quote (matched after template : List Char) :
    expand before matched after (template ++ [Json.quote]) = expand before matched after template ++ [Json.quote] := by
  induction template using template_induction with
  | nil => rfl
  | keep char rest keeps ih =>
    have keeps' : Keeps char (rest ++ [Json.quote]) := by
      intro dollar code member
      cases rest with
      | nil =>
        obtain rfl := Option.mem_some.mp member
        rfl
      | cons next rest => exact keeps dollar code member
    rw [List.cons_append, expand_keep keeps', expand_keep keeps, ih, List.cons_append]
  | code code rest known ih =>
    rw [List.cons_append, List.cons_append, expand_code known, expand_code known, ih, List.append_assoc]

theorem masterKey_head {length : ℕ} (found : masterKey (char :: rest) = length + 1) : char = 'm' := by
  have word : "masterKey:".toList = 'm' :: "asterKey:".toList := rfl
  rw [masterKey] at found
  dsimp only at found
  split at found
  · next front =>
    rw [word] at front
    exact (by simpa using front : 'm' = char ∧ _).1.symm
  · contradiction

theorem expand_masterKey (matched after : List Char) :
    expand before matched after ("masterKey: \"" ++ password ++ "\"").toList =
      "masterKey: ".toList ++ Json.quote :: (expand before matched after password.toList ++ [Json.quote]) := by
  have parts : ("masterKey: \"" ++ password ++ "\"").toList =
      ("masterKey: ".toList ++ [Json.quote]) ++ (password.toList ++ [Json.quote]) := by
    have lead : "masterKey: \"".toList = "masterKey: ".toList ++ [Json.quote] := rfl
    rw [String.toList_append, String.toList_append, lead, List.append_assoc]
    rfl
  have noDollar : '$' ∉ "masterKey: ".toList ++ [Json.quote] := by decide
  rw [parts, expand_append_of_no_dollar noDollar, expand_concat_quote, List.append_assoc, List.singleton_append]

theorem readPlace_masterKey_iff (matched text : List Char) {next : List Char → Option (List Char)} :
    (readPlace password domain .masterKey ("masterKey: ".toList ++
        Json.quote :: (expand [] ('m' :: matched) [] password.toList ++ [Json.quote]) ++ text)).bind next = some [] ↔
      Fits password domain .masterKey ∧ next text = some [] := by
  have size : "masterKey: ".toList.length = 11 := rfl
  have shape : readPlace password domain .masterKey ("masterKey: ".toList ++
      Json.quote :: (expand [] ('m' :: matched) [] password.toList ++ [Json.quote]) ++ text) =
      readValue password (Json.quote :: (expand [] ('m' :: matched) [] password.toList ++ Json.quote :: text)) := by
    rw [List.append_assoc, readPlace, if_pos (List.isPrefixOf_iff_prefix.mpr (List.prefix_append _ _)), ← size,
      List.drop_left, List.cons_append, List.append_assoc, List.singleton_append]
  rw [shape, readValue_bind_iff]
  constructor
  · rintro ⟨left, body, after⟩
    obtain ⟨plain, free⟩ := plain_of_readBody body
    rw [expand_of_codes free, readBody_plain plain, readBody_quote, Option.map_some] at body
    obtain ⟨-, rfl⟩ := Prod.mk.inj (Option.some.inj body)
    exact ⟨⟨plain, free⟩, after⟩
  · rintro ⟨⟨plain, free⟩, after⟩
    refine ⟨text, ?_, after⟩
    rw [expand_of_codes free, readBody_plain plain, readBody_quote, Option.map_some, List.append_nil]

/-- The rewriting of `nahan`, from any point of a source. -/
theorem readPlaces_nahan_iff (text : List Char) : ∀ (before : List Char) (skip : ℕ),
    (∀ place ∈ mark masterKey .masterKey skip (text.map .kept), Settled password domain place) →
    (readPlaces password domain (mark masterKey .masterKey skip (text.map .kept))
        (replaceAll masterKey ("masterKey: \"" ++ password ++ "\"").toList before skip text) = some [] ↔
      ∀ place ∈ mark masterKey .masterKey skip (text.map .kept), Fits password domain place) := by
  induction text with
  | nil =>
    intro before skip settled
    have nothing : mark masterKey .masterKey skip ([].map Place.kept) = [] := by rw [List.map_nil, mark]
    rw [nothing, replaceAll, readPlaces]
    simp
  | cons char text ih =>
    intro before skip settled
    cases skip with
    | succ skip => exact ih (before ++ [char]) skip settled
    | zero =>
      rw [List.map_cons, mark, ← List.map_cons, keptText_map] at settled ⊢
      cases found : masterKey (char :: text) with
      | zero =>
        rw [found] at settled
        rw [replaceAll_keep found]
        dsimp only at settled ⊢
        rw [readPlaces, readPlace_kept, Option.bind_some,
          ih (before ++ [char]) 0 fun place member => settled place (List.mem_cons_of_mem _ member), List.forall_mem_cons]
        exact (and_iff_right trivial).symm
      | succ length =>
        rw [found] at settled
        obtain rfl := masterKey_head found
        rw [replaceAll_match found, List.take_succ_cons]
        dsimp only at settled ⊢
        have context : Contextless password.toList := settled .masterKey List.mem_cons_self
        rw [expand_masterKey, expand_of_contextless context, readPlaces, readPlace_masterKey_iff, List.forall_mem_cons,
          ih _ length fun place member => settled place (List.mem_cons_of_mem _ member)]

end

/-! ### Written strings in a second replacement -/

/-- Characters that `JSON.stringify` writes as they are. -/
def Solid (word : List Char) : Prop := ∀ char ∈ word, jsonChar char = [char] ∧ char ≠ Json.quote ∧ char.toNat ≠ 92

instance (word : List Char) : Decidable (Solid word) := List.decidableBAll _ word

/-- A text up to the first occurrence of a word. -/
def upTo (word : List Char) : List Char → List Char
  | [] => []
  | char :: rest => if word.isPrefixOf (char :: rest) then [] else char :: upTo word rest

section

variable {word more matched template before rest text : List Char}

theorem upTo_prefix (word text : List Char) : upTo word text <+: text := by
  induction text with
  | nil => exact List.nil_prefix
  | cons char rest ih =>
    rw [upTo]
    split
    · exact List.nil_prefix
    · exact List.cons_prefix_cons.mpr ⟨rfl, ih⟩

theorem upTo_eq_iff (some : word ≠ []) : upTo word text = text ↔ ¬ word <:+: text := by
  induction text with
  | nil => simp [upTo, some]
  | cons char rest ih =>
    rw [upTo, List.infix_cons_iff, ← List.isPrefixOf_iff_prefix]
    split
    · next found => simp [found]
    · next other => simp [other, ih]

theorem Solid.flatMap (solid : Solid word) : word.flatMap jsonChar = word := by
  induction word with
  | nil => rfl
  | cons char word ih =>
    rw [List.flatMap_cons, (solid char List.mem_cons_self).1,
      ih fun later member => solid later (List.mem_cons_of_mem _ member), List.singleton_append]

/-- A word of such characters is found in a written string where the string has it. -/
theorem Solid.isPrefixOf (solid : Solid word) (text after : List Char) :
    word.isPrefixOf (text.flatMap jsonChar ++ Json.quote :: after) = word.isPrefixOf text := by
  induction word generalizing text with
  | nil => simp
  | cons letter word ih =>
    obtain ⟨same, notQuote, notBackslash⟩ := solid letter List.mem_cons_self
    have later := ih fun later member => solid later (List.mem_cons_of_mem _ member)
    cases text with
    | nil => simp [List.isPrefixOf, notQuote]
    | cons char text =>
      rw [List.flatMap_cons, List.append_assoc]
      rcases jsonChar_cases char with ⟨single, -⟩ | ⟨more, written, -⟩
      · rw [single, List.singleton_append, List.isPrefixOf, List.isPrefixOf, later]
      · have notSlash : letter ≠ Char.ofNat 92 := by
          rintro rfl
          exact notBackslash rfl
        have other : letter ≠ char := by
          rintro rfl
          rw [same] at written
          exact notSlash (List.cons.inj written).1
        rw [written, List.cons_append, List.isPrefixOf, List.isPrefixOf, beq_false_of_ne notSlash, beq_false_of_ne other,
          Bool.false_and, Bool.false_and]

theorem literal_eq_zero_iff (some : word ≠ []) : literal word text = 0 ↔ word.isPrefixOf text = false := by
  have length : word.length ≠ 0 := fun none => some (List.eq_nil_of_length_eq_zero none)
  rw [literal]
  split
  · next found => simp [found, length]
  · next other => simp [other]

theorem literal_match {length : ℕ} (found : literal word text = length + 1) :
    word <+: text ∧ word.length = length + 1 := by
  rw [literal] at found
  split at found
  · next front => exact ⟨List.isPrefixOf_iff_prefix.mp front, found⟩
  · contradiction

/-- A text without the first letter of the word is kept. -/
theorem replaceAll_append {letter : Char} (free : letter ∉ text) (before rest : List Char) :
    replaceAll (literal (letter :: more)) template before 0 (text ++ rest) =
      text ++ replaceAll (literal (letter :: more)) template (before ++ text) 0 rest := by
  induction text generalizing before with
  | nil => simp
  | cons char text ih =>
    have other : letter ≠ char := fun same => free (same ▸ List.mem_cons_self)
    have none : literal (letter :: more) (char :: (text ++ rest)) = 0 := by
      rw [literal_eq_zero_iff (List.cons_ne_nil _ _), List.isPrefixOf, beq_false_of_ne other, Bool.false_and]
    rw [List.cons_append, replaceAll_keep none, ih fun member => free (List.mem_cons_of_mem _ member), List.cons_append,
      List.append_assoc, List.singleton_append]

/-- A written string after a replacement of a word by another string ends where the word was. -/
theorem readBody_replaceAll (solid : Solid ('_' :: more)) (text template rest : List Char) : ∀ before : List Char,
    ∃ left, readBody 0 (replaceAll (literal ('_' :: more)) (Json.quote :: template) before 0
        (text.flatMap jsonChar ++ Json.quote :: rest)) = some (units (upTo ('_' :: more) text), left) ∧
      (¬ ('_' :: more) <:+: text → left = replaceAll (literal ('_' :: more)) (Json.quote :: template)
        (before ++ text.flatMap jsonChar ++ [Json.quote]) 0 rest) := by
  induction text with
  | nil =>
    intro before
    have none : literal ('_' :: more) (Json.quote :: rest) = 0 := by
      rw [literal_eq_zero_iff (List.cons_ne_nil _ _)]
      exact solid.isPrefixOf [] rest
    rw [List.flatMap_nil, List.nil_append, replaceAll_keep none, readBody_quote]
    exact ⟨_, rfl, fun _ => by rw [List.append_nil]⟩
  | cons char text ih =>
    intro before
    have found := solid.isPrefixOf (char :: text) rest
    rw [upTo]
    split
    · next front =>
      rw [front] at found
      obtain rfl : '_' = char := (List.cons_prefix_cons.mp (List.isPrefixOf_iff_prefix.mp front)).1
      have size : literal ('_' :: more) ('_' :: (text.flatMap jsonChar ++ Json.quote :: rest)) = more.length + 1 := by
        rw [literal]
        exact if_pos found
      have keeps : Keeps Json.quote template := fun dollar => absurd dollar (by decide)
      change ∃ left, readBody 0 (replaceAll _ _ before 0 ('_' :: (text.flatMap jsonChar ++ Json.quote :: rest))) = _ ∧ _
      rw [replaceAll_match size, expand_keep keeps, List.cons_append, readBody_quote]
      exact ⟨_, rfl, fun none => absurd (List.isPrefixOf_iff_prefix.mp front).isInfix none⟩
    · next other =>
      have step : replaceAll (literal ('_' :: more)) (Json.quote :: template) before 0
          (jsonChar char ++ (text.flatMap jsonChar ++ Json.quote :: rest)) =
          jsonChar char ++ replaceAll (literal ('_' :: more)) (Json.quote :: template) (before ++ jsonChar char) 0
            (text.flatMap jsonChar ++ Json.quote :: rest) := by
        rcases jsonChar_cases char with ⟨single, -⟩ | ⟨tail, written, chars⟩
        · rw [List.flatMap_cons, single, List.append_assoc, List.singleton_append] at found
          have none : literal ('_' :: more) (char :: (text.flatMap jsonChar ++ Json.quote :: rest)) = 0 := by
            rw [literal_eq_zero_iff (List.cons_ne_nil _ _), found]
            exact Bool.eq_false_iff.mpr other
          rw [single, List.singleton_append, replaceAll_keep none, List.singleton_append]
        · apply replaceAll_append
          rw [written]
          intro member
          rcases List.mem_cons.mp member with slash | member
          · exact absurd slash (by decide)
          · exact (chars _ member).2 rfl
      obtain ⟨left, read, after⟩ := ih (before ++ jsonChar char)
      rw [List.flatMap_cons, List.append_assoc, step, readBody_jsonChar, read, Option.map_some]
      refine ⟨left, rfl, fun none => ?_⟩
      rw [after fun inside => none (List.infix_cons inside)]
      simp only [List.append_assoc]

end

/-! ### The codes of a written string -/

section

variable {before matched after text rest : List Char} {char code : Char}

theorem noDollar_jsonChar (other : char ≠ '$') : '$' ∉ jsonChar char := by
  intro member
  rcases jsonChar_cases char with ⟨single, -⟩ | ⟨more, written, chars⟩
  · rw [single] at member
    exact other (List.mem_singleton.mp member).symm
  · rw [written] at member
    rcases List.mem_cons.mp member with slash | member
    · exact absurd slash (by decide)
    · exact (chars _ member).1 rfl

theorem jsonChar_code (known : isCode code = true) : jsonChar code = [code] := by
  have codes : ∀ value ∈ [36, 38, 96, 39], jsonChar (Char.ofNat value) = [Char.ofNat value] := by decide
  have dollar : code = '$' ↔ code.toNat = 36 := ⟨fun same => same ▸ rfl, fun same => by rw [← Char.ofNat_toNat code, same]⟩
  have ampersand : code = '&' ↔ code.toNat = 38 := ⟨fun same => same ▸ rfl, fun same => by rw [← Char.ofNat_toNat code, same]⟩
  have listed : code.toNat ∈ [36, 38, 96, 39] := by
    simpa [isCode, dollar, ampersand, or_assoc] using known
  rw [← Char.ofNat_toNat code]
  exact codes _ listed

theorem Keeps.json (keeps : Keeps '$' rest) : Keeps '$' (rest.flatMap jsonChar ++ [Json.quote]) := by
  intro _ code member
  cases rest with
  | nil =>
    obtain rfl := Option.mem_some.mp member
    rfl
  | cons next rest =>
    rw [List.flatMap_cons] at member
    rcases jsonChar_cases next with ⟨single, -⟩ | ⟨more, written, -⟩
    · rw [single] at member
      exact keeps rfl code member
    · rw [written] at member
      obtain rfl := Option.mem_some.mp member
      rfl

theorem codes_json (text : List Char) : codes (text.flatMap jsonChar ++ [Json.quote]) = codes text := by
  induction text using template_induction with
  | nil => rfl
  | keep char rest keeps ih =>
    rw [codes_keep keeps, ← ih, List.flatMap_cons, List.append_assoc]
    by_cases dollar : char = '$'
    · subst dollar
      exact codes_keep keeps.json
    · exact codes_append_of_no_dollar (noDollar_jsonChar dollar) _
  | code code rest known ih =>
    rw [List.flatMap_cons, List.flatMap_cons, jsonChar_code known, codes_code known, ← ih]
    exact codes_code known

theorem expand_json (solid : Solid matched) (text : List Char) :
    expand [] matched [] (text.flatMap jsonChar ++ [Json.quote]) =
      (expand [] matched [] text).flatMap jsonChar ++ [Json.quote] := by
  induction text using template_induction with
  | nil => rfl
  | keep char rest keeps ih =>
    rw [expand_keep keeps, List.flatMap_cons, List.append_assoc, List.flatMap_cons, List.append_assoc, ← ih]
    by_cases dollar : char = '$'
    · subst dollar
      exact expand_keep keeps.json
    · exact expand_append_of_no_dollar (noDollar_jsonChar dollar) _
  | code code rest known ih =>
    have same : (put [] matched [] code).flatMap jsonChar = put [] matched [] code := by
      rw [put]
      split
      · rfl
      split
      · exact solid.flatMap
      · rw [ite_self, List.flatMap_nil]
    rw [List.flatMap_cons, List.flatMap_cons, jsonChar_code known, expand_code known, List.flatMap_append, same,
      List.append_assoc (put [] matched [] code), ← ih]
    exact expand_code known

/-- What is put in for a match of a word. -/
def written (word : List Char) (value : String) : List Char :=
  Json.quote :: ((expand [] word [] value.toList).flatMap jsonChar ++ [Json.quote])

theorem expand_jsonString_nil (solid : Solid matched) (value : String) :
    expand [] matched [] (jsonString value) = written matched value := by
  have keeps : Keeps Json.quote (value.toList.flatMap jsonChar ++ [Json.quote]) := fun dollar => absurd dollar (by decide)
  exact (expand_keep keeps).trans (congrArg _ (expand_json solid value.toList))

theorem expand_jsonString (solid : Solid matched) {value : String} (context : Contextless value.toList) :
    expand before matched after (jsonString value) = written matched value := by
  have keeps : Keeps Json.quote (value.toList.flatMap jsonChar ++ [Json.quote]) := fun dollar => absurd dollar (by decide)
  have contextless : Contextless (jsonString value) := by
    change Contextless (Json.quote :: (value.toList.flatMap jsonChar ++ [Json.quote]))
    rw [Contextless, codes_keep keeps, codes_json]
    exact context
  rw [expand_of_contextless contextless, expand_jsonString_nil solid]

end

/-! ### The placeholders of `spider` -/

/-- A text where the same literal stands for every placeholder. -/
def shown (literal : List Char) : Place → List Char
  | .kept char => [char]
  | _ => literal

section

variable {password domain : String} {word text : List Char}

theorem mem_mark {pattern : List Char → ℕ} {hole place : Place} (places : List Place) : ∀ skip : ℕ,
    place ∈ mark pattern hole skip places → place = hole ∨ place ∈ places := by
  induction places with
  | nil =>
    intro skip member
    rw [mark] at member
    exact absurd member List.not_mem_nil
  | cons first places ih =>
    intro skip member
    cases skip with
    | succ skip => exact (ih skip member).imp_right (List.mem_cons_of_mem _)
    | zero =>
      rw [mark] at member
      split at member
      all_goals
        rcases List.mem_cons.mp member with rfl | member
        · simp
        · exact (ih _ member).imp_right (List.mem_cons_of_mem _)

theorem replaceAll_literal (template literal' text : List Char) : ∀ (before : List Char) (skip : ℕ),
    (.token ∈ mark (literal word) .token skip (text.map .kept) →
      ∀ before after, expand before word after template = literal') →
    replaceAll (literal word) template before skip text =
      (mark (literal word) .token skip (text.map .kept)).flatMap (shown literal') := by
  induction text with
  | nil =>
    intro before skip _
    have nothing : mark (literal word) .token skip ([].map Place.kept) = [] := by rw [List.map_nil, mark]
    rw [nothing, replaceAll, List.flatMap_nil]
  | cons char text ih =>
    intro before skip expands
    cases skip with
    | succ skip => exact ih (before ++ [char]) skip expands
    | zero =>
      rw [List.map_cons, mark, ← List.map_cons, keptText_map] at expands ⊢
      cases found : literal word (char :: text) with
      | zero =>
        rw [found] at expands
        rw [replaceAll_keep found]
        dsimp only at expands ⊢
        rw [ih (before ++ [char]) 0 fun member => expands (List.mem_cons_of_mem _ member), List.flatMap_cons, shown,
          List.singleton_append]
      | succ length =>
        rw [found] at expands
        obtain ⟨front, size⟩ := literal_match found
        have matched : (char :: text).take (length + 1) = word := by
          rw [← size]
          exact (List.prefix_iff_eq_take.mp front).symm
        rw [replaceAll_match found, matched]
        dsimp only at expands ⊢
        rw [expands List.mem_cons_self, ih _ length fun member => expands (List.mem_cons_of_mem _ member), List.flatMap_cons,
          shown]
        exact nofun

theorem isPrefixOf_append_quote (noQuote : Json.quote ∉ word) (text after : List Char) :
    word.isPrefixOf (text ++ Json.quote :: after) = word.isPrefixOf text := by
  induction word generalizing text with
  | nil => simp
  | cons letter word ih =>
    cases text with
    | nil =>
      have other : letter ≠ Json.quote := fun same => noQuote (same ▸ List.mem_cons_self)
      simp [List.isPrefixOf, other]
    | cons char text =>
      rw [List.cons_append, List.isPrefixOf, List.isPrefixOf, ih fun member => noQuote (List.mem_cons_of_mem _ member)]

/-- No occurrence of a word runs into a literal that was put in. -/
theorem literal_shown (noQuote : Json.quote ∉ word) (rest : List Char) (places : List Place) :
    literal word (places.flatMap (shown (Json.quote :: rest))) = literal word (keptText places) := by
  have parts : places.flatMap (shown (Json.quote :: rest)) = keptText places ∨
      ∃ after, places.flatMap (shown (Json.quote :: rest)) = keptText places ++ Json.quote :: after := by
    induction places with
    | nil => exact .inl rfl
    | cons place places ih =>
      cases place with
      | kept char =>
        rw [List.flatMap_cons, shown, keptText, List.singleton_append]
        exact ih.imp (congrArg _) fun ⟨after, same⟩ => ⟨after, congrArg _ same⟩
      | masterKey | token | domain => exact .inr ⟨_, rfl⟩
  obtain same | ⟨after, same⟩ := parts
  · rw [same]
  · rw [same, literal, literal, isPrefixOf_append_quote noQuote]

theorem readValue_written_iff {more text : List Char} {value : String} {next : List Char → Option (List Char)} :
    (readValue value (written ('_' :: more) value ++ text)).bind next = some [] ↔
      codes value.toList = [] ∧ next text = some [] := by
  rw [written, List.cons_append, readValue_bind_iff, List.append_assoc, List.singleton_append, readBody_jsonString]
  constructor
  · rintro ⟨left, same, after⟩
    obtain ⟨values, rfl⟩ := Prod.mk.inj (Option.some.inj same)
    have front : value.toList <+: expand [] ('_' :: more) [] value.toList :=
      ⟨[], by rw [List.append_nil, units_injective values]⟩
    exact ⟨codes_of_prefix_expand rfl front, after⟩
  · rintro ⟨free, after⟩
    exact ⟨text, by rw [expand_of_codes free], after⟩

theorem tokenWord : "__PANEL_TOKEN__".toList = '_' :: "_PANEL_TOKEN__".toList := rfl

theorem domainWord : "__PANEL_DOMAIN__".toList = '_' :: "_PANEL_DOMAIN__".toList := rfl

theorem solid_tokenWord : Solid "__PANEL_TOKEN__".toList := by decide

theorem solid_domainWord : Solid "__PANEL_DOMAIN__".toList := by decide

/-- The password after both replacements: the second one finds its word in it, too. -/
theorem readPlace_token_iff (before text : List Char) {next : List Char → Option (List Char)} :
    (readPlace password domain .token (replaceAll (literal "__PANEL_DOMAIN__".toList) (jsonString domain) before 0
        (written "__PANEL_TOKEN__".toList password ++ text))).bind next = some [] ↔
      Fits password domain .token ∧ next (replaceAll (literal "__PANEL_DOMAIN__".toList) (jsonString domain)
        (before ++ written "__PANEL_TOKEN__".toList password) 0 text) = some [] := by
  have quoted : jsonString domain = Json.quote :: (domain.toList.flatMap jsonChar ++ [Json.quote]) := rfl
  obtain ⟨body, expanded⟩ : ∃ body, expand [] "__PANEL_TOKEN__".toList [] password.toList = body := ⟨_, rfl⟩
  have outside : literal "__PANEL_DOMAIN__".toList
      (Json.quote :: (body.flatMap jsonChar ++ [Json.quote] ++ text)) = 0 := by
    rw [domainWord, literal_eq_zero_iff (List.cons_ne_nil _ _), List.isPrefixOf, beq_false_of_ne (by decide), Bool.false_and]
  have word : "__PANEL_DOMAIN__".toList ≠ [] := by
    rw [domainWord]
    exact List.cons_ne_nil _ _
  have solid := solid_domainWord
  obtain ⟨left, read, after⟩ : ∃ left, readBody 0 (replaceAll (literal "__PANEL_DOMAIN__".toList) (jsonString domain)
      (before ++ [Json.quote]) 0 (body.flatMap jsonChar ++ Json.quote :: text)) =
        some (units (upTo "__PANEL_DOMAIN__".toList body), left) ∧
      (¬ "__PANEL_DOMAIN__".toList <:+: body → left = replaceAll (literal "__PANEL_DOMAIN__".toList) (jsonString domain)
        (before ++ [Json.quote] ++ body.flatMap jsonChar ++ [Json.quote]) 0 text) := by
    rw [domainWord] at solid ⊢
    rw [quoted]
    exact readBody_replaceAll solid body _ text _
  rw [written, expanded, List.cons_append, replaceAll_keep outside, readPlace, readValue_bind_iff, List.append_assoc,
    List.singleton_append, read, Fits]
  have context : before ++ [Json.quote] ++ body.flatMap jsonChar ++ [Json.quote] =
      before ++ Json.quote :: (body.flatMap jsonChar ++ [Json.quote]) := by simp
  rw [context] at after
  constructor
  · rintro ⟨_, same, ends⟩
    obtain ⟨values, rfl⟩ := Prod.mk.inj (Option.some.inj same)
    have cut : upTo "__PANEL_DOMAIN__".toList body = password.toList := units_injective values
    have free : codes password.toList = [] := by
      have front : password.toList <+: body := cut ▸ upTo_prefix _ body
      rw [← expanded, tokenWord] at front
      exact codes_of_prefix_expand rfl front
    rw [expand_of_codes free] at expanded
    subst expanded
    have absent := (upTo_eq_iff word).mp cut
    rw [← after absent]
    exact ⟨⟨free, absent⟩, ends⟩
  · rintro ⟨⟨free, absent⟩, ends⟩
    rw [expand_of_codes free] at expanded
    subst expanded
    rw [← after absent] at ends
    exact ⟨left, by rw [(upTo_eq_iff word).mpr absent], ends⟩

/-- The second replacement of `spider`, from any point of what the first one left. -/
theorem readPlaces_spider_iff (places : List Place) : ∀ (before : List Char) (skip : ℕ),
    skip ≤ (keptText places).length → (∀ place ∈ places, place = .token ∨ ∃ char, place = .kept char) →
    (∀ place ∈ mark (literal "__PANEL_DOMAIN__".toList) .domain skip places, Settled password domain place) →
    (readPlaces password domain (mark (literal "__PANEL_DOMAIN__".toList) .domain skip places)
        (replaceAll (literal "__PANEL_DOMAIN__".toList) (jsonString domain) before skip
          (places.flatMap (shown (written "__PANEL_TOKEN__".toList password)))) = some [] ↔
      ∀ place ∈ mark (literal "__PANEL_DOMAIN__".toList) .domain skip places, Fits password domain place) := by
  induction places with
  | nil =>
    intro before skip _ _ _
    rw [mark, List.flatMap_nil, replaceAll, readPlaces]
    simp
  | cons place places ih =>
    intro before skip short kinds settled
    have others : ∀ place ∈ places, place = .token ∨ ∃ char, place = .kept char :=
      fun later member => kinds later (List.mem_cons_of_mem _ member)
    have noQuote : Json.quote ∉ "__PANEL_DOMAIN__".toList := by decide
    have same : literal "__PANEL_DOMAIN__".toList
        ((place :: places).flatMap (shown (written "__PANEL_TOKEN__".toList password))) =
        literal "__PANEL_DOMAIN__".toList (keptText (place :: places)) := literal_shown noQuote _ _
    rcases kinds place List.mem_cons_self with rfl | ⟨char, rfl⟩
    · obtain rfl : skip = 0 := Nat.le_zero.mp short
      have none : literal "__PANEL_DOMAIN__".toList (keptText (.token :: places)) = 0 := by
        rw [keptText]
        · rfl
        · exact nofun
      rw [mark, none] at settled ⊢
      dsimp only at settled ⊢
      rw [readPlaces, List.flatMap_cons, shown, readPlace_token_iff, List.forall_mem_cons,
        ih _ 0 (Nat.zero_le _) others fun place member => settled place (List.mem_cons_of_mem _ member)]
      exact nofun
    · rw [List.flatMap_cons, shown, List.singleton_append]
      cases skip with
      | succ skip => exact ih _ skip (Nat.le_of_succ_le_succ short) others settled
      | zero =>
        rw [List.flatMap_cons, shown, List.singleton_append] at same
        rw [mark] at settled ⊢
        cases found : literal "__PANEL_DOMAIN__".toList (keptText (.kept char :: places)) with
        | zero =>
          rw [found] at settled same
          rw [replaceAll_keep same]
          dsimp only at settled ⊢
          rw [readPlaces, readPlace_kept, Option.bind_some, List.forall_mem_cons,
            ih _ 0 (Nat.zero_le _) others fun place member => settled place (List.mem_cons_of_mem _ member)]
          exact (and_iff_right trivial).symm
        | succ length =>
          rw [found] at settled same
          obtain ⟨front, size⟩ := literal_match same
          obtain ⟨front', size'⟩ := literal_match found
          have fits : length ≤ (keptText places).length := by
            have bound := front'.length_le
            rw [size', keptText, List.length_cons] at bound
            omega
          rw [replaceAll_match same]
          dsimp only at settled ⊢
          have context : Contextless domain.toList := settled .domain List.mem_cons_self
          have matched {rest : List Char} (front : "__PANEL_DOMAIN__".toList <+: char :: rest) :
              (char :: rest).take (length + 1) = "__PANEL_DOMAIN__".toList := by
            rw [← size]
            exact (List.prefix_iff_eq_take.mp front).symm
          rw [matched front, expand_jsonString solid_domainWord context, readPlaces, readPlace, domainWord,
            readValue_written_iff, ← domainWord, List.forall_mem_cons,
            ih _ length fits others fun place member => settled place (List.mem_cons_of_mem _ member), Fits]

theorem token_mem_mark (places : List Place) : ∀ skip : ℕ, skip ≤ (keptText places).length → .token ∈ places →
    .token ∈ mark (literal "__PANEL_DOMAIN__".toList) .domain skip places := by
  induction places with
  | nil => exact fun _ _ member => absurd member List.not_mem_nil
  | cons place places ih =>
    intro skip short member
    cases place with
    | kept char =>
      have later : .token ∈ places := (List.mem_cons.mp member).resolve_left nofun
      cases skip with
      | succ skip => exact ih skip (Nat.le_of_succ_le_succ short) later
      | zero =>
        rw [mark]
        split
        · exact List.mem_cons_of_mem _ (ih 0 (Nat.zero_le _) later)
        · next length found =>
          obtain ⟨front, size⟩ := literal_match found
          have bound := front.length_le
          rw [size, keptText, List.length_cons] at bound
          exact List.mem_cons_of_mem _ (ih length (Nat.le_of_succ_le_succ bound) later)
    | masterKey | token | domain =>
      obtain rfl : skip = 0 := Nat.le_zero.mp short
      have none : literal "__PANEL_DOMAIN__".toList [] = 0 := rfl
      rw [mark, keptText, none]
      · dsimp only
        rcases List.mem_cons.mp member with same | later
        · rw [← same]
          exact List.mem_cons_self
        · exact List.mem_cons_of_mem _ (ih 0 (Nat.zero_le _) later)
      · exact nofun

theorem readPlaces_map_kept (text : List Char) : readPlaces password domain (text.map .kept) text = some [] := by
  induction text with
  | nil => rw [List.map_nil, readPlaces]
  | cons char text ih => rw [List.map_cons, readPlaces, readPlace_kept, Option.bind_some, ih]

theorem token_not_mem_map (text : List Char) : .token ∉ text.map Place.kept := by
  intro member
  obtain ⟨char, -, same⟩ := List.mem_map.mp member
  cases same

theorem flatMap_shown_map (literal text : List Char) : (text.map .kept).flatMap (shown literal) = text := by
  induction text with
  | nil => rfl
  | cons char text ih => rw [List.map_cons, List.flatMap_cons, shown, ih, List.singleton_append]

end

/-! ## The values injected -/

section

variable {panelKey source password domain : String}

theorem Safe.settled (safe : Safe panelKey source password domain) :
    ∀ place ∈ placeholders panelKey source, Settled password domain place := by
  intro place member
  have fits := safe place member
  cases place with
  | kept char => trivial
  | masterKey => exact contextless_of_codes fits.2
  | token => exact contextless_of_codes fits.1
  | domain => exact contextless_of_codes fits

theorem placeholders_nahan : placeholders "nahan" source = mark masterKey .masterKey 0 (source.toList.map .kept) := by
  rw [placeholders, if_pos rfl]

theorem transformPanelSource_nahan : (transformPanelSource "nahan" source password domain).1.toList =
    replaceAll masterKey ("masterKey: \"" ++ password ++ "\"").toList [] 0 source.toList := by
  rw [transformPanelSource, if_pos rfl]
  exact String.toList_ofList

theorem placeholders_spider : placeholders "spider" source = mark (literal "__PANEL_DOMAIN__".toList) .domain 0
    (mark (literal "__PANEL_TOKEN__".toList) .token 0 (source.toList.map .kept)) := by
  rw [placeholders, if_neg (by decide), if_pos rfl]

theorem transformPanelSource_spider : (transformPanelSource "spider" source password domain).1.toList =
    replaceAll (literal "__PANEL_DOMAIN__".toList) (jsonString domain) [] 0
      (replaceAll (literal "__PANEL_TOKEN__".toList) (jsonString password) [] 0 source.toList) := by
  have texts (pattern : List Char → ℕ) (template text : String) :
      (replace pattern template text).toList = replaceAll pattern template.toList [] 0 text.toList := String.toList_ofList
  have quoted (value : String) : (String.ofList (jsonString value)).toList = jsonString value := String.toList_ofList
  rw [transformPanelSource, if_neg (by decide), if_pos rfl]
  dsimp only
  rw [texts, texts, quoted, quoted]

theorem injected_iff_of_settled (settled : ∀ place ∈ placeholders panelKey source, Settled password domain place) :
    Injected panelKey source password domain ↔ Safe panelKey source password domain := by
  unfold Injected Safe
  by_cases nahan : panelKey = "nahan"
  · subst nahan
    rw [placeholders_nahan] at settled ⊢
    rw [transformPanelSource_nahan]
    exact readPlaces_nahan_iff source.toList [] 0 settled
  by_cases spider : panelKey = "spider"
  · subst spider
    rw [placeholders_spider] at settled ⊢
    have context : .token ∈ mark (literal "__PANEL_TOKEN__".toList) .token 0 (source.toList.map .kept) →
        ∀ before after, expand before "__PANEL_TOKEN__".toList after (jsonString password) =
          written "__PANEL_TOKEN__".toList password := fun member before after =>
      expand_jsonString solid_tokenWord (settled .token (token_mem_mark _ 0 (Nat.zero_le _) member))
    have kinds : ∀ place ∈ mark (literal "__PANEL_TOKEN__".toList) .token 0 (source.toList.map .kept),
        place = .token ∨ ∃ char, place = .kept char := by
      intro place member
      refine (mem_mark _ 0 member).imp_right fun member => ?_
      obtain ⟨char, -, rfl⟩ := List.mem_map.mp member
      exact ⟨char, rfl⟩
    rw [transformPanelSource_spider, replaceAll_literal _ _ source.toList [] 0 context]
    exact readPlaces_spider_iff _ [] 0 (Nat.zero_le _) kinds settled
  · have places : placeholders panelKey source = source.toList.map .kept := by
      rw [placeholders, if_neg nahan, if_neg spider]
    have same : (transformPanelSource panelKey source password domain).1 = source := by
      rw [transformPanelSource, if_neg nahan, if_neg spider]
      split <;> rfl
    rw [places, same, readPlaces_map_kept]
    refine iff_of_true rfl fun place member => ?_
    obtain ⟨char, -, rfl⟩ := List.mem_map.mp member
    exact trivial

/-- A source that is one match of a pattern. -/
theorem replaceAll_whole {pattern : List Char → ℕ} {char : Char} {rest template : List Char}
    (whole : pattern (char :: rest) = rest.length + 1) :
    replaceAll pattern template [] 0 (char :: rest) = expand [] (char :: rest) [] template := by
  have nothing (text before : List Char) : replaceAll pattern template before text.length text = [] := by
    induction text generalizing before with
    | nil => rw [replaceAll]
    | cons char text ih => exact ih (before ++ [char])
  rw [replaceAll_match whole, nothing, List.drop_length, List.append_nil, ← List.length_cons, List.take_length]

theorem mark_whole {pattern : List Char → ℕ} {place : Place} {char : Char} {rest : List Char}
    (whole : pattern (char :: rest) = rest.length + 1) : mark pattern place 0 ((char :: rest).map .kept) = [place] := by
  have nothing (text : List Char) : mark pattern place text.length (text.map .kept) = [] := by
    induction text with
    | nil => rw [List.map_nil, mark]
    | cons char text ih => exact ih
  rw [List.map_cons, mark, ← List.map_cons, keptText_map, whole]
  exact congrArg _ (nothing rest)

theorem fits_of_injected_masterKey (injected : Injected "nahan" "masterKey: \"admin\"" password domain) :
    Fits password domain .masterKey := by
  have text : "masterKey: \"admin\"".toList = 'm' :: "asterKey: \"admin\"".toList := rfl
  have whole : masterKey ('m' :: "asterKey: \"admin\"".toList) = "asterKey: \"admin\"".toList.length + 1 := by
    decide
  rw [Injected, placeholders_nahan, transformPanelSource_nahan, text, mark_whole whole, replaceAll_whole whole,
    expand_masterKey, readPlaces, ← List.append_nil (_ ++ _ :: _), readPlace_masterKey_iff] at injected
  exact injected.1

theorem fits_of_injected_token (injected : Injected "spider" "__PANEL_TOKEN__" password domain) :
    Fits password domain .token := by
  have whole : literal ('_' :: "_PANEL_TOKEN__".toList) ('_' :: "_PANEL_TOKEN__".toList) =
      "_PANEL_TOKEN__".toList.length + 1 := by decide
  have places : mark (literal "__PANEL_DOMAIN__".toList) .domain 0 [.token] = [.token] := by decide
  rw [Injected, placeholders_spider, transformPanelSource_spider, tokenWord, mark_whole whole, replaceAll_whole whole,
    ← tokenWord, expand_jsonString_nil solid_tokenWord, places, readPlaces,
    ← List.append_nil (written "__PANEL_TOKEN__".toList password), readPlace_token_iff] at injected
  exact injected.1

theorem fits_of_injected_domain (injected : Injected "spider" "__PANEL_DOMAIN__" password domain) :
    Fits password domain .domain := by
  have whole : literal ('_' :: "_PANEL_DOMAIN__".toList) ('_' :: "_PANEL_DOMAIN__".toList) =
      "_PANEL_DOMAIN__".toList.length + 1 := by decide
  have places : mark (literal "__PANEL_TOKEN__".toList) .token 0 ("__PANEL_DOMAIN__".toList.map .kept) =
      "__PANEL_DOMAIN__".toList.map .kept := by decide
  have kept : replaceAll (literal "__PANEL_TOKEN__".toList) (jsonString password) [] 0 "__PANEL_DOMAIN__".toList =
      "__PANEL_DOMAIN__".toList := by
    rw [replaceAll_literal (jsonString password) [] "__PANEL_DOMAIN__".toList [] 0, places, flatMap_shown_map]
    rw [places]
    exact fun member => absurd member (token_not_mem_map _)
  rw [Injected, placeholders_spider, transformPanelSource_spider, kept, places, domainWord, mark_whole whole,
    replaceAll_whole whole, ← domainWord, expand_jsonString_nil solid_domainWord, readPlaces,
    ← List.append_nil (written "__PANEL_DOMAIN__".toList domain), readPlace, domainWord, readValue_written_iff] at injected
  exact injected.1

/-- Each placeholder becomes a literal with exactly the value given, and nothing else changes, for the texts that the
places take as they are. For all other texts it does not, unless a code puts in the text around a match; and then there is
a source where it does not. -/
theorem injected_iff_safe (panelKey source password domain : String) :
    (Safe panelKey source password domain → Injected panelKey source password domain) ∧
      ((∀ place ∈ placeholders panelKey source, Settled password domain place) →
        (Injected panelKey source password domain ↔ Safe panelKey source password domain)) ∧
      ((∀ source, Injected panelKey source password domain) ↔ ∀ source, Safe panelKey source password domain) := by
  refine ⟨fun safe => (injected_iff_of_settled safe.settled).mpr safe, injected_iff_of_settled, fun injected => ?_,
    fun safe source => (injected_iff_of_settled (safe source).settled).mpr (safe source)⟩
  intro source place member
  by_cases nahan : panelKey = "nahan"
  · subst nahan
    have fits := fits_of_injected_masterKey (injected "masterKey: \"admin\"")
    rw [placeholders_nahan] at member
    rcases mem_mark _ 0 member with rfl | kept
    · exact fits
    · obtain ⟨char, -, rfl⟩ := List.mem_map.mp kept
      exact trivial
  by_cases spider : panelKey = "spider"
  · subst spider
    rw [placeholders_spider] at member
    rcases mem_mark _ 0 member with rfl | member
    · exact fits_of_injected_domain (injected "__PANEL_DOMAIN__")
    rcases mem_mark _ 0 member with rfl | kept
    · exact fits_of_injected_token (injected "__PANEL_TOKEN__")
    · obtain ⟨char, -, rfl⟩ := List.mem_map.mp kept
      exact trivial
  · rw [placeholders, if_neg nahan, if_neg spider] at member
    obtain ⟨char, -, rfl⟩ := List.mem_map.mp member
    exact trivial

/-- The text after a match can spell the code that put it in. -/
example : Injected "nahan" "masterKey: \"admin\"$'" "ab$'" "" ∧ codes "ab$'".toList ≠ [] := by
  rw [Injected, placeholders_nahan, transformPanelSource_nahan]
  decide

/-- A quote of an accepted password closes the literal of `nahan`; of two dollar signs `spider` keeps one. -/
theorem password_changed :
    sanitizePanelPassword "ab\"cd" = some "ab\"cd" ∧
      ¬ Injected "nahan" "export default \x7b masterKey: \"admin\" \x7d;" "ab\"cd" "my-nahan.omni.workers.dev" ∧
      sanitizePanelPassword "a$$b" = some "a$$b" ∧
      ¬ Injected "spider" "const token = __PANEL_TOKEN__;" "a$$b" "my-spider.omni.workers.dev" := by
  refine ⟨by decide, ?_, by decide, ?_⟩
  · rw [Injected, placeholders_nahan, transformPanelSource_nahan]
    decide
  · rw [Injected, placeholders_spider, transformPanelSource_spider]
    decide

end

end OmniControlPlane.Deployment.Panels
