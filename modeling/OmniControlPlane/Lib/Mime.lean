import OmniControlPlane.Lib.Text

/-! # Media types

A `Content-Type` value is a type and a subtype, and parameters after a semicolon. Its essence is the type and the
subtype in lower case. Parameters are skipped where they are malformed, so that any text may follow the semicolon.
-/

namespace OmniControlPlane.Lib.Mime

def whitespace (char : Char) : Bool := char ∈ ['\n', '\r', '\t', ' ']

def tokenChar (char : Char) : Bool := char.isAlphanum || char ∈ "!#$%&'*+-.^_`|~".toList

def token (text : List Char) : Bool := !text.isEmpty && text.all tokenChar

/-- What stands before the first semicolon, without the white space around it. -/
def mediaType (value : List Char) : List Char := ((value.takeWhile (· ≠ ';')).dropWhile whitespace).rdropWhile whitespace

/-- The first semicolon and what follows. -/
def parameters (value : List Char) : List Char := value.dropWhile (· ≠ ';')

/-- The type and the subtype in lower case, where both are tokens. -/
def essence? (value : List Char) : Option (List Char) :=
  match (mediaType value).dropWhile (· ≠ '/') with
  | [] => none
  | _ :: subtype =>
    if token ((mediaType value).takeWhile (· ≠ '/')) && token subtype then some ((mediaType value).map Char.toLower)
    else none

variable {value essence part : List Char}

theorem essence?_some (read : essence? value = some essence) : essence = (mediaType value).map Char.toLower := by
  rw [essence?] at read
  split at read
  · contradiction
  · split at read
    · exact (Option.some.inj read).symm
    · contradiction

/-- A text without blanks and semicolons that stands in a value stands in the media type or in the parameters. -/
theorem infix_value_iff (clear : ∀ char ∈ part, whitespace char = false) (absent : ';' ∉ part) :
    part <:+: value ↔ part <:+: mediaType value ∨ part <:+: parameters value := by
  rw [mediaType, infix_rdropWhile_iff clear, infix_dropWhile_iff clear]
  by_cases member : ';' ∈ value
  · obtain ⟨first, rest, rfl, before⟩ := List.eq_append_cons_of_mem member
    have kept : ∀ char ∈ first, decide (char ≠ ';') = true := fun char listed =>
      decide_eq_true fun same => before (same ▸ listed)
    rw [parameters, List.takeWhile_append_of_pos kept, List.dropWhile_append_of_pos kept, List.takeWhile_cons_of_neg,
      List.dropWhile_cons_of_neg, List.append_nil]
    · exact infix_append_cons_iff absent
    · simp
    · simp
  · have kept : ∀ char ∈ value, decide (char ≠ ';') = true := fun char listed =>
      decide_eq_true fun same => member (same ▸ listed)
    rw [parameters, List.takeWhile_eq_self_iff.mpr kept, List.dropWhile_eq_nil_iff.mpr kept, List.infix_nil]
    exact ⟨.inl, fun inside => inside.elim id fun empty => empty ▸ List.nil_infix⟩

/-- A value whose essence is a given text has the text before its parameters exactly where it is written in lower
case. -/
theorem infix_mediaType_iff (read : essence? value = some part) : part <:+: mediaType value ↔ mediaType value = part := by
  have length : part.length = (mediaType value).length := by rw [essence?_some read, List.length_map]
  exact ⟨fun inside => (inside.eq_of_length length).symm, fun same => same ▸ List.infix_rfl⟩

/-- A text in lower case before the parameters is in the essence as well. -/
theorem infix_essence (read : essence? value = some essence) (lower : part.map Char.toLower = part)
    (inside : part <:+: mediaType value) : part <:+: essence := by
  rw [essence?_some read, ← lower]
  exact inside.map Char.toLower

end OmniControlPlane.Lib.Mime
