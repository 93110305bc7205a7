import OmniControlPlane.Sleeper.Window

/-! # The beacon record and its decoder

`beaconContent` writes a marker and three words, the last one the command. The agent script reads
the raw bytes of the DNS answer as Latin-1, splits at the first marker and takes the fourth word
after it, so it hardly ever finds the command.
-/

namespace OmniControlPlane.Sleeper

open Lib

inductive SleeperCommand where
  | reportNow | wake
deriving DecidableEq, Repr

def SleeperCommand.text : SleeperCommand → String
  | .reportNow => "report-now"
  | .wake => "wake"

/-- `pending ?? "none"` -/
def commandText (pending : Option SleeperCommand) : String := (pending.map (·.text)).getD "none"

def beaconContent (window : SleeperWindow) (command : String) : String :=
  "v13b1 " ++ toString window.startMinute ++ " " ++ toString window.endMinute ++ " " ++ command

namespace Agent

def marker : List Char := "v13b1".toList

/-- The code points below 256 at which `str.split()` splits. -/
def isSpace (char : Char) : Bool :=
  char.toNat ∈ [9, 10, 11, 12, 13, 28, 29, 30, 31, 32, 0x85, 0xA0]

/-- `cmd`, from the bytes that `recv` returned. -/
def beaconCommand (data : List UInt8) : String :=
  match splitOnce marker (latin1 (data.drop 12)) with
  | some (_, after) =>
    let parts := words isSpace after
    if parts.length > 3 then String.ofList (parts.getD 3 []) else "none"
  | none => "none"

end Agent

/-! ## The words of the content -/

/-- A number in decimal consists of digits, with a sign where it is negative. -/
theorem toString_chars (number : ℤ) : (toString number).toList ≠ [] ∧
    ∀ char ∈ (toString number).toList, char.isDigit ∨ char = '-' := by
  have digits (n : ℕ) : n.repr.toList ≠ [] ∧ ∀ char ∈ n.repr.toList, char.isDigit := by
    rw [Nat.repr_eq_ofList_toDigits, String.toList_ofList]
    exact ⟨Nat.toDigits_ne_nil, fun char member => Nat.isDigit_of_mem_toDigits (by decide) (by decide) member⟩
  rw [Int.toString_eq_repr, Int.repr_eq_if]
  split
  · exact ⟨(digits _).1, fun char member => .inl ((digits _).2 char member)⟩
  · rw [String.toList_append]
    refine ⟨by simp, fun char member => ?_⟩
    rcases List.mem_append.mp member with sign | digit
    · exact .inr (by simpa using sign)
    · exact .inl ((digits _).2 char digit)

theorem digit_code {char : Char} (digit : char.isDigit ∨ char = '-') :
    45 ≤ char.toNat ∧ char.toNat ≤ 57 := by
  rcases digit with digit | rfl
  · have : 48 ≤ char.toNat ∧ char.toNat ≤ 57 := by
      simpa [Char.isDigit, UInt32.le_iff_toNat_le] using digit
    omega
  · decide

theorem words_toString (number : ℤ) :
    words Agent.isSpace (toString number).toList = [(toString number).toList] := by
  obtain ⟨nonempty, chars⟩ := toString_chars number
  refine words_of_word (fun char member => ?_) nonempty
  have := digit_code (chars char member)
  simp [Agent.isSpace]
  omega

theorem commandText_word (pending : Option SleeperCommand) :
    words Agent.isSpace (commandText pending).toList = [(commandText pending).toList] := by
  cases pending with
  | none => decide
  | some command => cases command <;> decide

/-- What the content has after its marker. -/
def contentTail (window : SleeperWindow) (pending : Option SleeperCommand) : List Char :=
  (toString window.startMinute).toList ++ ' ' :: ((toString window.endMinute).toList ++
    ' ' :: (commandText pending).toList)

theorem content_toList (window : SleeperWindow) (pending : Option SleeperCommand) :
    (beaconContent window (commandText pending)).toList = Agent.marker ++ ' ' :: contentTail window pending := by
  simp [beaconContent, Agent.marker, contentTail]

/-- Whatever stands before the gap, the last words are the two numbers and the command. -/
theorem words_contentTail (front : List Char) (window : SleeperWindow) (pending : Option SleeperCommand) :
    words Agent.isSpace (front ++ ' ' :: contentTail window pending) =
      words Agent.isSpace front ++ [(toString window.startMinute).toList,
        (toString window.endMinute).toList, (commandText pending).toList] := by
  have gap : Agent.isSpace ' ' = true := by decide
  rw [contentTail, words_append_cons _ _ gap, words_append_cons _ _ gap, words_append_cons _ _ gap,
    words_toString, words_toString, commandText_word]
  rfl

theorem ascii_content (window : SleeperWindow) (pending : Option SleeperCommand) :
    Ascii (beaconContent window (commandText pending)) := by
  have number (n : ℤ) : Ascii (toString n) := fun char member => by
    have := digit_code ((toString_chars n).2 char member)
    omega
  have command : Ascii (commandText pending) := by
    cases pending with
    | none => decide
    | some command => cases command <;> decide
  exact (((((show Ascii "v13b1 " by decide).append (number _)).append (by decide)).append
    (number _)).append (by decide)).append command

/-- No command is spelled like a number. -/
theorem commandText_ne_toString (pending : Option SleeperCommand) (number : ℤ) :
    (toString number).toList ≠ (commandText pending).toList := by
  intro same
  obtain ⟨letter, spelled, later⟩ : ∃ letter, letter ∈ (commandText pending).toList ∧ 57 < letter.toNat := by
    cases pending with
    | none => exact ⟨'n', by decide, by decide⟩
    | some command =>
      cases command with
      | reportNow => exact ⟨'r', by decide, by decide⟩
      | wake => exact ⟨'w', by decide, by decide⟩
  have := digit_code ((toString_chars number).2 letter (same ▸ spelled))
  omega

/-- What precedes the record text lets the agent find the command: no marker, where the command is
`none`; or an earlier marker that is followed by one word up to the end of the text's own marker, or
by words of which the fourth happens to be the command. -/
def Readable (before : List UInt8) (command : String) : Prop :=
  match splitOnce Agent.marker (latin1 before) with
  | none => command = "none"
  | some (_, rest) =>
    (words Agent.isSpace (rest ++ Agent.marker)).length = 1 ∨
      (words Agent.isSpace (rest ++ Agent.marker))[3]? = some command.toList

/-- The fourth of some words that end in the two numbers and the command is the command, if only one
word precedes these or if four do and the last of the four is the command. -/
theorem fourth_word_iff (window : SleeperWindow) (pending : Option SleeperCommand) {front : List (List Char)}
    (nonempty : front ≠ []) :
    (front ++ [(toString window.startMinute).toList, (toString window.endMinute).toList,
      (commandText pending).toList]).getD 3 [] = (commandText pending).toList ↔
    front.length = 1 ∨ front[3]? = some (commandText pending).toList := by
  rcases front with _ | ⟨first, _ | ⟨second, _ | ⟨third, _ | ⟨fourth, rest⟩⟩⟩⟩
  · contradiction
  · simp
  · simpa using commandText_ne_toString pending window.endMinute
  · simpa using commandText_ne_toString pending window.startMinute
  · simp

/-- The agent extracts the published command if and only if what precedes the text lets it. -/
theorem beacon_decoded_iff (window : SleeperWindow) (pending : Option SleeperCommand)
    (header before : List UInt8) (twelve : header.length = 12) :
    Agent.beaconCommand (header ++ before ++ utf8 (beaconContent window (commandText pending))) =
      commandText pending ↔ Readable before (commandText pending) := by
  have text : latin1 ((header ++ before ++ utf8 (beaconContent window (commandText pending))).drop 12) =
      latin1 before ++ (Agent.marker ++ ' ' :: contentTail window pending) := by
    rw [List.append_assoc, List.drop_left' twelve, latin1_append, latin1_utf8 (ascii_content window pending),
      content_toList]
  rw [Agent.beaconCommand, text, Readable]
  cases found : splitOnce Agent.marker (latin1 before) with
  | none =>
    have once : 'v' ∉ "13b1".toList := by decide
    have split : splitOnce Agent.marker (latin1 before ++ (Agent.marker ++ ' ' :: contentTail window pending)) =
        some (latin1 before, ' ' :: contentTail window pending) :=
      splitOnce_separator once found _
    have three := words_contentTail [] window pending
    rw [List.nil_append] at three
    simp only [split, three]
    exact eq_comm
  | some parts =>
    obtain ⟨front, rest⟩ := parts
    have marked : 'v' ∈ rest ++ Agent.marker := List.mem_append_right _ (by decide)
    have nonempty : words Agent.isSpace (rest ++ Agent.marker) ≠ [] := words_ne_nil marked (by decide)
    have split : splitOnce Agent.marker (latin1 before ++ (Agent.marker ++ ' ' :: contentTail window pending)) =
        some (front, rest ++ Agent.marker ++ ' ' :: contentTail window pending) := by
      rw [splitOnce_append found, List.append_assoc]
    have longer : (words Agent.isSpace (rest ++ Agent.marker) ++ [(toString window.startMinute).toList,
        (toString window.endMinute).toList, (commandText pending).toList]).length > 3 := by
      have := List.length_pos_of_ne_nil nonempty
      simp only [List.length_append, List.length_cons, List.length_nil]
      omega
    simp only [split, words_contentTail, if_pos longer]
    rw [← fourth_word_iff window pending nonempty, ← String.toList_inj, String.toList_ofList]

namespace Sample

def header : List UInt8 := [0x12, 0x34, 0x81, 0x80, 0, 1, 0, 1, 0, 0, 0, 0]

/-- The question for `_v13beacon.vpn.example.org`, and the answer up to the text of its record. -/
def before (text : String) : List UInt8 :=
  10 :: utf8 "_v13beacon" ++ 3 :: utf8 "vpn" ++ 7 :: utf8 "example" ++ 3 :: utf8 "org" ++
    [0, 0, 16, 0, 1, 0xC0, 0x0C, 0, 16, 0, 1, 0, 0, 0, 120, 0, UInt8.ofNat (text.length + 1),
      UInt8.ofNat text.length]

end Sample

/-- Without a command the agent finds none. -/
theorem beacon_decoded_iff_sample : Agent.beaconCommand
    (Sample.header ++ Sample.before (beaconContent ⟨185, 245, 5⟩ "none") ++
      utf8 (beaconContent ⟨185, 245, 5⟩ (commandText none))) = commandText none := by
  have unmarked : splitOnce Agent.marker
      (latin1 (Sample.before (beaconContent ⟨185, 245, 5⟩ "none"))) = none := by decide +kernel
  refine (beacon_decoded_iff ⟨185, 245, 5⟩ none Sample.header _ rfl).mpr ?_
  rw [Readable, unmarked]
  rfl

/-- A published command is not found in an ordinary answer. -/
theorem command_not_found : Agent.beaconCommand
    (Sample.header ++ Sample.before (beaconContent ⟨185, 245, 5⟩ "report-now") ++
      utf8 (beaconContent ⟨185, 245, 5⟩ (commandText (some .reportNow)))) ≠ commandText (some .reportNow) := by
  decide +kernel

end OmniControlPlane.Sleeper
