import OmniControlPlane.Panel.Vless

/-! # The block list and DNS names

`matchesBlock` compares the ends of two texts where DNS compares labels, and knows nothing of the dot
that ends a fully qualified name. Raw texts agree with their labels, so the root dot alone makes the
difference: an entry covers an address only when both are spelled with it or both without.
-/

namespace OmniControlPlane.Panel

open Lib

/-! ## Ends of texts and ends of label lists -/

section

variable {α : Type*} [DecidableEq α]

theorem intercalate_append_splitOn (sep : α) (front : List (List α)) (tail : List α) (nonempty : front ≠ []) :
    [sep].intercalate (front ++ tail.splitOn sep) = [sep].intercalate front ++ sep :: tail := by
  induction front with
  | nil => exact absurd rfl nonempty
  | cons first rest ih =>
    cases rest with
    | nil =>
      rw [List.singleton_append, List.intercalate_cons_of_ne_nil (List.splitOn_ne_nil sep tail),
        List.intercalate_splitOn, List.intercalate_singleton, List.append_assoc]
      rfl
    | cons second others =>
      rw [List.cons_append, List.cons_append, List.intercalate_cons_cons, ← List.cons_append, ih (List.cons_ne_nil _ _),
        List.intercalate_cons_cons, List.append_assoc, List.append_assoc, List.append_assoc]

/-- A text is another one, or ends in it after a separator, exactly when its parts end in the other's. -/
theorem splitOn_suffix_iff (sep : α) (text tail : List α) :
    tail.splitOn sep <:+ text.splitOn sep ↔ text = tail ∨ sep :: tail <:+ text := by
  constructor
  · rintro ⟨front, parts⟩
    have whole : [sep].intercalate (text.splitOn sep) = text := List.intercalate_splitOn sep
    rw [← parts] at whole
    by_cases empty : front = []
    · left
      rw [empty, List.nil_append, List.intercalate_splitOn] at whole
      exact whole.symm
    · right
      rw [intercalate_append_splitOn sep front tail empty] at whole
      exact ⟨_, whole⟩
  · rintro (rfl | ⟨front, rfl⟩)
    · exact List.suffix_refl _
    · rw [List.splitOn_append_cons_self]
      exact List.suffix_append _ _

end

/-! ## Hosts -/

/-- A name that is spelled with the root dot. -/
def Rooted (name : List Char) : Prop := name.getLast? = some '.'

instance (name : List Char) : Decidable (Rooted name) := inferInstanceAs (Decidable (_ = _))

/-- A name without its root dot. -/
def rootless (name : List Char) : List Char := if Rooted name then name.dropLast else name

/-- The labels of a host, whichever way its name ends. -/
def labels (name : List Char) : List (List Char) := (rootless name).splitOn '.'

theorem labels_of_rooted {name : List Char} (rooted : Rooted name) : name.splitOn '.' = labels name ++ [[]] := by
  have split := List.dropLast_append_getLast? '.' rooted
  rw [labels, rootless, if_pos rooted]
  conv_lhs => rw [← split]
  rw [List.splitOn_append_cons_self]
  rfl

theorem labels_of_not_rooted {name : List Char} (unrooted : ¬ Rooted name) : labels name = name.splitOn '.' := by
  rw [labels, rootless, if_neg unrooted]

/-- The last part of a name is empty for an empty name, or one that is spelled with the root dot. -/
theorem getLast?_splitOn (name : List Char) :
    (name.splitOn '.').getLast? = some [] ↔ name = [] ∨ Rooted name := by
  have suffix : (name.splitOn '.').getLast? = some [] ↔ ([] : List Char).splitOn '.' <:+ name.splitOn '.' := by
    rw [List.splitOn_nil, List.singleton_suffix_iff_getLast?_eq_some]
  rw [suffix, splitOn_suffix_iff, List.singleton_suffix_iff_getLast?_eq_some]
  rfl

variable (toLowerCase : String → String)

/-- What an entry of the list names: `toLowerCase` and the removal of a leading `*.`. -/
def blockedName (entry : String) : List Char :=
  let lower := (toLowerCase entry).toList
  if "*.".toList <+: lower then lower.drop 2 else lower

/-- Two addresses that name one host: they differ in case and in a root dot at most. -/
def SameHost (address address' : String) : Prop :=
  labels (toLowerCase address).toList = labels (toLowerCase address').toList

instance (address address' : String) : Decidable (SameHost toLowerCase address address') :=
  inferInstanceAs (Decidable (_ = _))

/-- An entry names the host of an address or a domain above it. -/
def Covers (entry address : String) : Prop :=
  labels (blockedName toLowerCase entry) <:+ labels (toLowerCase address).toList

/-- The host of an address is listed. -/
def Listed (address : String) (list : List String) : Prop := ∃ entry ∈ list, Covers toLowerCase entry address

/-- An entry without a name in a list that is asked for an address with a root dot. -/
def Vacuous (address : String) (list : List String) : Prop :=
  Rooted (toLowerCase address).toList ∧ ∃ entry ∈ list, blockedName toLowerCase entry = []

/-- An entry that covers an address is spelled like it: both with the root dot or both without. -/
def SpelledAlike (entry address : String) : Prop :=
  Rooted (blockedName toLowerCase entry) ↔ Rooted (toLowerCase address).toList

theorem matchesBlock_iff (address : String) (list : List String) : matchesBlock toLowerCase address list = true ↔
    ∃ entry ∈ list, (blockedName toLowerCase entry).splitOn '.' <:+ (toLowerCase address).toList.splitOn '.' := by
  rw [matchesBlock, List.any_eq_true]
  apply exists_congr
  intro entry
  rw [splitOn_suffix_iff, Bool.or_eq_true, beq_iff_eq, List.isSuffixOf_iff_suffix]
  rfl

/-- An entry covers what its text matches, apart from the root dot that only one of the two may have. -/
theorem matches_entry_iff (entry address : String) :
    (blockedName toLowerCase entry).splitOn '.' <:+ (toLowerCase address).toList.splitOn '.' ↔
      Covers toLowerCase entry address ∧ SpelledAlike toLowerCase entry address ∨
        Rooted (toLowerCase address).toList ∧ blockedName toLowerCase entry = [] := by
  rw [Covers, SpelledAlike]
  generalize blockedName toLowerCase entry = blocked
  generalize (toLowerCase address).toList = name
  by_cases ends : Rooted name
  · rw [labels_of_rooted ends]
    by_cases dotted : Rooted blocked
    · have named : blocked ≠ [] := by
        rintro rfl
        contradiction
      have same : labels blocked ++ [[]] <:+ labels name ++ [[]] ↔ labels blocked <:+ labels name := by
        constructor
        · rintro ⟨front, parts⟩
          rw [← List.append_assoc] at parts
          exact ⟨front, List.append_cancel_right parts⟩
        · rintro ⟨front, parts⟩
          exact ⟨front, by rw [← parts, List.append_assoc]⟩
      rw [labels_of_rooted dotted, same]
      simp only [ends, dotted, named, and_true, and_false, or_false]
    · simp only [ends, dotted, iff_true, and_false, true_and, false_or]
      constructor
      · intro suffix
        have last : (blocked.splitOn '.').getLast? = some [] := by
          obtain ⟨front, parts⟩ := suffix
          have whole := congrArg List.getLast? parts
          rw [List.getLast?_append_of_ne_nil _ (List.splitOn_ne_nil '.' blocked), List.getLast?_concat] at whole
          exact whole
        exact ((getLast?_splitOn blocked).mp last).resolve_right dotted
      · rintro rfl
        rw [List.splitOn_nil]
        exact List.suffix_append _ _
  · rw [labels_of_not_rooted ends]
    by_cases dotted : Rooted blocked
    · simp only [ends, dotted, iff_false, not_true_eq_false, and_false, false_and, or_false, iff_false]
      intro suffix
      have last : (name.splitOn '.').getLast? = some [] := by
        obtain ⟨front, parts⟩ := suffix
        rw [← parts, labels_of_rooted dotted, ← List.append_assoc, List.getLast?_concat]
      obtain rfl | ended := (getLast?_splitOn name).mp last
      · rw [labels_of_rooted dotted] at suffix
        have size := suffix.length_le
        have positive := List.length_pos_iff.mpr (List.splitOn_ne_nil '.' (rootless blocked))
        rw [List.splitOn_nil, List.length_append, List.length_singleton] at size
        exact absurd (show 0 < (labels blocked).length from positive) (by omega)
      · exact ends ended
    · simp only [labels_of_not_rooted dotted, ends, dotted, and_true, false_and, or_false]

theorem matchesBlock_eq_true_iff (address : String) (list : List String) :
    matchesBlock toLowerCase address list = true ↔
      (∃ entry ∈ list, Covers toLowerCase entry address ∧ SpelledAlike toLowerCase entry address) ∨
        Vacuous toLowerCase address list := by
  rw [matchesBlock_iff, Vacuous]
  constructor
  · rintro ⟨entry, listed, suffix⟩
    rcases (matches_entry_iff toLowerCase entry address).mp suffix with covered | ⟨ends, nameless⟩
    · exact .inl ⟨entry, listed, covered⟩
    · exact .inr ⟨ends, entry, listed, nameless⟩
  · rintro (⟨entry, listed, covered⟩ | ⟨ends, entry, listed, nameless⟩)
    · exact ⟨entry, listed, (matches_entry_iff toLowerCase entry address).mpr (.inl covered)⟩
    · exact ⟨entry, listed, (matches_entry_iff toLowerCase entry address).mpr (.inr ⟨ends, nameless⟩)⟩

/-- The list decides about an address as it is meant to: where entries cover its host, one of them is
spelled like the address, and an entry without a name meets no address with a root dot that is not listed. -/
def Spelled (address : String) (list : List String) : Prop :=
  (Vacuous toLowerCase address list → Listed toLowerCase address list) ∧
    (Listed toLowerCase address list → Vacuous toLowerCase address list ∨
      ∃ entry ∈ list, Covers toLowerCase entry address ∧ SpelledAlike toLowerCase entry address)

theorem matchesBlock_listed_iff (address : String) (list : List String) :
    (matchesBlock toLowerCase address list = true ↔ Listed toLowerCase address list) ↔
      Spelled toLowerCase address list := by
  have covered : (∃ entry ∈ list, Covers toLowerCase entry address ∧ SpelledAlike toLowerCase entry address) →
      Listed toLowerCase address list := by
    rintro ⟨entry, listed, covers, -⟩
    exact ⟨entry, listed, covers⟩
  rw [matchesBlock_eq_true_iff, Spelled]
  constructor
  · intro same
    exact ⟨fun vacuous => same.mp (.inr vacuous), fun listed => (same.mpr listed).symm⟩
  · rintro ⟨harmless, spelled⟩
    constructor
    · rintro (found | vacuous)
      · exact covered found
      · exact harmless vacuous
    · intro listed
      exact (spelled listed).symm

theorem listed_sameHost {address address' : String} (same : SameHost toLowerCase address address')
    (list : List String) : Listed toLowerCase address list ↔ Listed toLowerCase address' list := by
  simp only [Listed, Covers]
  rw [same]

/-- What the list says of a host cannot be changed by how the host is spelled. -/
def Unevadable (address address' : String) (list : List String) : Prop :=
  matchesBlock toLowerCase address list = matchesBlock toLowerCase address' list ∧
    (matchesBlock toLowerCase address list = true ↔ Listed toLowerCase address list)

/-- Two spellings of a host get the answer that the list gives for the host exactly when each of them is
spelled like an entry that covers it. -/
theorem block_list_unevadable_iff (address address' : String) (list : List String)
    (same : SameHost toLowerCase address address') :
    Unevadable toLowerCase address address' list ↔
      Spelled toLowerCase address list ∧ Spelled toLowerCase address' list := by
  rw [Unevadable, ← matchesBlock_listed_iff, ← matchesBlock_listed_iff, ← listed_sameHost toLowerCase same]
  constructor
  · rintro ⟨agree, listed⟩
    exact ⟨listed, by rw [← agree, listed]⟩
  · rintro ⟨first, second⟩
    refine ⟨?_, first⟩
    rw [Bool.eq_iff_iff, first, second]

/-- Where neither the address nor any entry is spelled with the root dot, labels decide. -/
theorem matchesBlock_rootless (address : String) (list : List String) (name : ¬ Rooted (toLowerCase address).toList)
    (entries : ∀ entry ∈ list, ¬ Rooted (blockedName toLowerCase entry)) :
    matchesBlock toLowerCase address list = true ↔ Listed toLowerCase address list := by
  rw [matchesBlock_listed_iff]
  constructor
  · intro vacuous
    exact absurd vacuous.1 name
  · rintro ⟨entry, listed, covers⟩
    exact .inr ⟨entry, listed, covers, iff_of_false (entries entry listed) name⟩

/-- `toLowerCase` on ASCII text. -/
def lowerAscii (text : String) : String := toLowerAscii text.toList

theorem block_list_unevadable_iff_www :
    SameHost lowerAscii "WWW.example.com" "www.Example.com" ∧
      (Unevadable lowerAscii "WWW.example.com" "www.Example.com" ["*.example.com"] ↔
        Spelled lowerAscii "WWW.example.com" ["*.example.com"] ∧ Spelled lowerAscii "www.Example.com" ["*.example.com"]) :=
  ⟨by decide +kernel, block_list_unevadable_iff lowerAscii "WWW.example.com" "www.Example.com" ["*.example.com"] (by decide +kernel)⟩

/-- The root dot takes an address past the entry for its own host. -/
theorem root_dot_evades : SameHost lowerAscii "example.com" "example.com." ∧
    matchesBlock lowerAscii "example.com" ["example.com"] = true ∧
    matchesBlock lowerAscii "example.com." ["example.com"] = false ∧
    ¬ Unevadable lowerAscii "example.com" "example.com." ["example.com"] := by
  refine ⟨by decide +kernel, by decide +kernel, by decide +kernel, ?_⟩
  rintro ⟨agree, -⟩
  revert agree
  decide +kernel

end OmniControlPlane.Panel
