import Mathlib.Data.List.Chain
import OmniControlPlane.Deployment.Panels

/-! # What the chat asks for a panel

The name of the worker and the password, as they are made from messages. The deployment checks the name again, by a
pattern of its own.
-/

namespace OmniControlPlane.Deployment.Panels

open Lib

/-! ## The texts of the chat -/

/-- One dash for each run of dashes. -/
def collapseDashes : List Char → List Char
  | [] => []
  | char :: rest =>
    if char = '-' ∧ rest.head? = some '-' then collapseDashes rest else char :: collapseDashes rest

/-- Without a dash at the front and one at the end. -/
def stripDashes (name : List Char) : List Char :=
  let name := if name.head? = some '-' then name.tail else name
  if name.getLast? = some '-' then name.dropLast else name

/-- `replace(/[^a-z0-9-]/gu, "-")` -/
def dashOthers (name : List Char) : List Char := name.map fun char => if isNameChar char || char = '-' then char else '-'

/-- Lower case is the platform's. -/
def sanitizeWorkerName (toLowerCase : String → String) (text : String) : Option String :=
  let lower := toLowerCase (String.ofList (trim text))
  let cleaned := String.ofList (stripDashes (collapseDashes (dashOthers lower.toList)))
  if (utf16 cleaned).length < 3 ∨ 64 < (utf16 cleaned).length then none else some cleaned

def sanitizePanelPassword (text : String) : Option String :=
  let value := String.ofList (trim text)
  if (utf16 value).length < 4 ∨ 64 < (utf16 value).length then none else some value

/-! ## Names -/

/-- What the cleaning leaves: letters, digits and single dashes, none of them at an end. -/
structure Clean (name : List Char) : Prop where
  letters : ∀ char ∈ name, isNameChar char = true ∨ char = '-'
  single : name.IsChain fun char next => ¬ (char = '-' ∧ next = '-')
  head : name.head? ≠ some '-'
  last : name.getLast? ≠ some '-'

section

variable {name : List Char}

theorem collapseDashes_head? (name : List Char) : (collapseDashes name).head? = name.head? := by
  induction name with
  | nil => rfl
  | cons char rest ih =>
    rw [collapseDashes]
    split
    · next double => rw [ih, double.1, double.2, List.head?_cons]
    · rfl

theorem collapseDashes_single (name : List Char) :
    (collapseDashes name).IsChain fun char next => ¬ (char = '-' ∧ next = '-') := by
  induction name with
  | nil => exact List.isChain_nil
  | cons char rest ih =>
    rw [collapseDashes]
    split
    · exact ih
    · next alone =>
      refine List.isChain_cons.mpr ⟨fun next first both => ?_, ih⟩
      rw [collapseDashes_head?] at first
      exact alone ⟨both.1, first.trans (congrArg some both.2)⟩

theorem mem_of_mem_collapseDashes {char : Char} (member : char ∈ collapseDashes name) : char ∈ name := by
  induction name with
  | nil => exact member
  | cons first rest ih =>
    rw [collapseDashes] at member
    split at member
    · exact List.mem_cons_of_mem _ (ih member)
    · rcases List.mem_cons.mp member with rfl | later
      · exact List.mem_cons_self
      · exact List.mem_cons_of_mem _ (ih later)

theorem collapseDashes_of_single (single : name.IsChain fun char next => ¬ (char = '-' ∧ next = '-')) :
    collapseDashes name = name := by
  induction name with
  | nil => rfl
  | cons char rest ih =>
    obtain ⟨first, others⟩ := List.isChain_cons.mp single
    rw [collapseDashes, if_neg, ih others]
    rintro ⟨dash, double⟩
    exact first '-' double ⟨dash, rfl⟩

theorem mem_dashOthers {char : Char} (member : char ∈ dashOthers name) : isNameChar char = true ∨ char = '-' := by
  obtain ⟨before, -, rfl⟩ := List.mem_map.mp member
  split
  · next known => simpa using known
  · exact .inr rfl

theorem dashOthers_of_letters (letters : ∀ char ∈ name, isNameChar char = true ∨ char = '-') : dashOthers name = name := by
  have same : ∀ char ∈ name, (if isNameChar char || char = '-' then char else '-') = id char := fun char member =>
    if_pos (by simpa using letters char member)
  rw [dashOthers, List.map_congr_left same, List.map_id]

/-- Where no dashes stand side by side, one dash at each end is all there is. -/
theorem stripDashes_clean (letters : ∀ char ∈ name, isNameChar char = true ∨ char = '-')
    (single : name.IsChain fun char next => ¬ (char = '-' ∧ next = '-')) : Clean (stripDashes name) := by
  -- The dash at the front first: what follows it is no dash.
  obtain ⟨front, shape, letters, single, head⟩ : ∃ front, (if name.head? = some '-' then name.tail else name) = front ∧
      (∀ char ∈ front, isNameChar char = true ∨ char = '-') ∧
      (front.IsChain fun char next => ¬ (char = '-' ∧ next = '-')) ∧ front.head? ≠ some '-' := by
    cases name with
    | nil => exact ⟨[], rfl, letters, single, by simp⟩
    | cons char rest =>
      obtain ⟨first, others⟩ := List.isChain_cons.mp single
      rw [List.head?_cons, List.tail_cons]
      split
      · next dash =>
        refine ⟨rest, rfl, fun later member => letters later (List.mem_cons_of_mem _ member), others, fun double => ?_⟩
        exact first '-' double ⟨Option.some.inj dash, rfl⟩
      · next other => exact ⟨char :: rest, rfl, letters, single, other⟩
  rw [stripDashes, shape]
  split
  · next last =>
    obtain ⟨kept, rfl⟩ := List.getLast?_eq_some_iff.mp last
    obtain ⟨chain, -, ends⟩ := List.isChain_append.mp single
    rw [List.dropLast_concat]
    constructor
    case letters => exact fun char member => letters char (List.mem_append_left _ member)
    case single => exact chain
    case head =>
      intro dash
      apply head
      rw [List.head?_append, dash, Option.some_or]
    case last => exact fun dash => ends '-' dash '-' rfl ⟨rfl, rfl⟩
  · next last => exact ⟨letters, single, head, last⟩

theorem stripDashes_of_clean (clean : Clean name) : stripDashes name = name := by
  rw [stripDashes, if_neg clean.head]
  exact if_neg clean.last

/-- The pattern of the deployment is what the cleaning leaves. -/
theorem Clean.isWorkerName (clean : Clean name) (short : 3 ≤ name.length) (long : name.length ≤ 64) :
    isWorkerName name = true := by
  have letter {char : Char} (member : char ∈ name) (other : char ≠ '-') : isNameChar char = true :=
    (clean.letters char member).resolve_right other
  have nonempty : name ≠ [] := by
    rintro rfl
    exact absurd short (by decide)
  obtain ⟨first, firstIs⟩ := Option.ne_none_iff_exists'.mp (mt List.head?_eq_none_iff.mp nonempty)
  obtain ⟨last, lastIs⟩ := Option.ne_none_iff_exists'.mp (mt List.getLast?_eq_none_iff.mp nonempty)
  have begins : isNameChar first = true :=
    letter (List.mem_of_head? firstIs) fun dash => clean.head (dash ▸ firstIs)
  have ends : isNameChar last = true :=
    letter (List.mem_of_getLast? lastIs) fun dash => clean.last (dash ▸ lastIs)
  have all : (name.all fun char => isNameChar char || char = '-') = true := by
    rw [List.all_eq_true]
    intro char member
    simpa using clean.letters char member
  simp [Panels.isWorkerName, short, long, all, firstIs, lastIs, begins, ends]

theorem isNameChar_code {char : Char} (letter : isNameChar char = true ∨ char = '-') :
    char.toNat < 0x80 ∧ isJsSpace char = false := by
  have codes : ∀ code < 128, isNameChar (Char.ofNat code) = true ∨ Char.ofNat code = '-' →
      isJsSpace (Char.ofNat code) = false := by decide
  have small : char.toNat < 0x80 := by
    rcases letter with name | rfl
    · have lower : char.isLower = (char.val ≥ 'a'.val && char.val ≤ 'z'.val) := rfl
      simp only [isNameChar, lower, Char.isDigit, UInt32.le_iff_toNat_le, Bool.or_eq_true, Bool.and_eq_true,
        decide_eq_true_eq] at name
      change _ ∧ char.toNat ≤ 122 ∨ _ ∧ char.toNat ≤ 57 at name
      omega
    · decide
  refine ⟨small, ?_⟩
  have known := codes char.toNat small
  rw [Char.ofNat_toNat] at known
  exact known letter

end

/-- A name that the chat takes passes the pattern of the deployment, and is taken as it is. -/
theorem sanitizeWorkerName_deployable {toLowerCase : String → String}
    (lowered : ∀ text : String, (∀ char ∈ text.toList, isNameChar char = true ∨ char = '-') → toLowerCase text = text)
    {text name : String} (taken : sanitizeWorkerName toLowerCase text = some name) :
    isWorkerName name.toList = true ∧ sanitizeWorkerName toLowerCase name = some name := by
  unfold sanitizeWorkerName at taken
  dsimp only at taken
  split at taken
  · contradiction
  · next fits =>
    obtain rfl := Option.some.inj taken
    generalize others : dashOthers (toLowerCase (String.ofList (trim text))).toList = before at *
    have letters : ∀ char ∈ collapseDashes before, isNameChar char = true ∨ char = '-' := fun char member =>
      mem_dashOthers (others ▸ mem_of_mem_collapseDashes member)
    have clean : Clean (stripDashes (collapseDashes before)) := stripDashes_clean letters (collapseDashes_single before)
    generalize stripDashes (collapseDashes before) = cleaned at clean fits
    have ascii : Ascii (String.ofList cleaned) := fun char member =>
      (isNameChar_code (clean.letters char (by rwa [String.toList_ofList] at member))).1
    have same : trim (String.ofList cleaned) = cleaned := by
      rw [trim_of_no_space, String.toList_ofList]
      intro char member
      rw [String.toList_ofList] at member
      exact (isNameChar_code (clean.letters char member)).2
    have kept : toLowerCase (String.ofList cleaned) = String.ofList cleaned := by
      apply lowered
      rw [String.toList_ofList]
      exact clean.letters
    have again : stripDashes (collapseDashes (dashOthers cleaned)) = cleaned := by
      rw [dashOthers_of_letters clean.letters, collapseDashes_of_single clean.single, stripDashes_of_clean clean]
    constructor
    · rw [ascii.utf16_length, String.toList_ofList] at fits
      rw [String.toList_ofList]
      exact clean.isWorkerName (by omega) (by omega)
    · simp only [sanitizeWorkerName, same, kept, String.toList_ofList, again]
      rw [if_neg fits]

def lowerText (text : String) : String := String.ofList (text.toList.map Char.toLower)

theorem lowerText_of_letters (text : String) (letters : ∀ char ∈ text.toList, isNameChar char = true ∨ char = '-') :
    lowerText text = text := by
  have codes : ∀ code < 128, isNameChar (Char.ofNat code) = true ∨ Char.ofNat code = '-' →
      (Char.ofNat code).toLower = Char.ofNat code := by decide
  have same : ∀ char ∈ text.toList, char.toLower = id char := by
    intro char member
    have known := codes char.toNat (isNameChar_code (letters char member)).1
    rw [Char.ofNat_toNat] at known
    exact known (letters char member)
  rw [lowerText, List.map_congr_left same, List.map_id, String.ofList_toList]

/-- Capitals, signs and spaces of a message become a name. -/
theorem sanitizeWorkerName_my_bpb : sanitizeWorkerName lowerText " --My_BPB! " = some "my-bpb" ∧
    isWorkerName "my-bpb".toList = true ∧ sanitizeWorkerName lowerText "my-bpb" = some "my-bpb" := by
  have taken : sanitizeWorkerName lowerText " --My_BPB! " = some "my-bpb" := by decide +kernel
  exact ⟨taken, sanitizeWorkerName_deployable lowerText_of_letters taken⟩

end OmniControlPlane.Deployment.Panels
