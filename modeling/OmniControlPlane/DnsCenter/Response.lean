import OmniControlPlane.DnsCenter.Scan
import OmniControlPlane.Lib.Dns

/-! # The answers of a resolver

`parseDnsResponse` goes through a message by an offset. It skips the names of questions as they are compressed, and
takes the name of a record for a pointer or for labels, but not for labels before a pointer.
-/

namespace OmniControlPlane.DnsCenter

open Lib Lib.Dns

/-! ## The code -/

/-- How the parser could fail: a read outside the buffer, or a loop that does not end. -/
inductive ParseFailure where
  | rangeError
  | endless
deriving DecidableEq, Repr

structure DnsResponse where
  rcode : ℕ
  answers : List String
deriving DecidableEq, Repr

section

variable (buf : Wire)

/-- `buf[offset] ?? 0` -/
def octet (offset : ℕ) : ℕ := (buf.getD offset 0).toNat

def getUint8 (offset : ℕ) : Except ParseFailure ℕ :=
  if offset < buf.length then .ok (octet buf offset) else .error .rangeError

def getUint16 (offset : ℕ) : Except ParseFailure ℕ :=
  if offset + 1 < buf.length then .ok (word buf offset) else .error .rangeError

/-- The offset behind the name of a question. -/
def skipQuestionName : ℕ → ℕ → Except ParseFailure ℕ
  | 0, _ => .error .endless
  | fuel + 1, offset =>
    if offset < buf.length then
      let length := octet buf offset
      if length = 0 then .ok (offset + 1)
      else if length &&& 0xc0 = 0xc0 then .ok (offset + 2)
      else skipQuestionName fuel (offset + 1 + length)
    else .ok offset

/-- Each round of a loop over a name begins at a later offset in the buffer. -/
def rounds : ℕ := buf.length + 1

def skipQuestions : ℕ → ℕ → Except ParseFailure ℕ
  | 0, offset => .ok offset
  | questions + 1, offset => do
    let offset ← skipQuestionName buf (rounds buf) offset
    skipQuestions questions (offset + 4)

/-- The offset behind labels. -/
def skipLabels : ℕ → ℕ → Except ParseFailure ℕ
  | 0, _ => .error .endless
  | fuel + 1, offset =>
    if offset < buf.length then
      let length := octet buf offset
      if length = 0 then .ok (offset + 1) else skipLabels fuel (offset + 1 + length)
    else .ok offset

/-- The offset behind the name of a record: pointer or labels. -/
def skipOwner (offset : ℕ) : Except ParseFailure ℕ :=
  if octet buf offset &&& 0xc0 ≠ 0 then .ok (offset + 2) else skipLabels buf (rounds buf) offset

/-- The four bytes at an offset, as an address. -/
def address (offset : ℕ) : String :=
  toString (octet buf offset) ++ "." ++ toString (octet buf (offset + 1)) ++ "." ++ toString (octet buf (offset + 2)) ++
    "." ++ toString (octet buf (offset + 3))

def readAnswers : ℕ → ℕ → List String → Except ParseFailure (List String)
  | 0, _, answers => .ok answers
  | left + 1, offset, answers =>
    if offset + 12 ≤ buf.length then do
      let offset ← skipOwner buf offset
      if buf.length < offset + 10 then .ok answers
      else
        let rtype ← getUint16 buf offset
        let rdlength ← getUint16 buf (offset + 8)
        let offset := offset + 10
        let answers := if rtype = 1 ∧ rdlength = 4 ∧ offset + 4 ≤ buf.length then answers ++ [address buf offset] else answers
        readAnswers left (offset + rdlength) answers
    else .ok answers

def parseDnsResponse : Except ParseFailure DnsResponse :=
  if buf.length < 12 then .ok ⟨99, []⟩
  else do
    let flags ← getUint8 buf 3
    let ancount ← getUint16 buf 6
    let qdcount ← getUint16 buf 4
    let offset ← skipQuestions buf qdcount 12
    let answers ← readAnswers buf ancount offset []
    .ok ⟨flags &&& 0x0f, answers⟩

end

def BLACKHOLE : List String := ["127.0.0.1", "0.0.0.0", "10.10.34.34", "10.202.10.202"]

def classifyAnswers (answers expected : List String) : DnsVerdict :=
  if answers.any (BLACKHOLE.contains ·) then .fake
  else if answers.any (expected.contains ·) then .healthy
  else if answers ≠ [] then .wrong
  else .unreachable

/-! ## What a message says -/

/-- The addresses of the records of type A among so many. -/
def addresses (message : Wire) : ℕ → Wire → List String
  | 0, _ => []
  | count + 1, rest =>
    match readName message message.length rest with
    | none => []
    | some fixed =>
      let data := fixed.drop 10
      (if word fixed 0 = 1 ∧ word fixed 8 = 4 then [address data 0] else []) ++
        addresses message count (data.drop (word fixed 8))

/-- What stands behind the questions of a message. -/
def answerSection (message : Wire) : Option Wire := readMany (readQuestion message) (questions message) (message.drop 12)

/-- The name is labels to the end. -/
def labelsOnly : ℕ → Wire → Bool
  | 0, _ => false
  | _ + 1, [] => false
  | fuel + 1, first :: rest =>
    if first = 0 then true else if first.toNat < 64 then labelsOnly fuel (rest.drop first.toNat) else false

/-- The name is a pointer, or labels to the end: it is not labels before a pointer. -/
def Direct (rest : Wire) : Prop := 192 ≤ octet rest 0 ∨ labelsOnly (rest.length + 1) rest = true

/-- The names of so many records are direct. -/
def DirectOwners (message : Wire) : ℕ → Wire → Prop
  | 0, _ => True
  | count + 1, rest => Direct rest ∧ ∀ after, readRecord message rest = some after → DirectOwners message count after

/-- The result is what the message says. -/
def ReadRight (message : Wire) : Prop :=
  ∃ answers, answerSection message = some answers ∧
    parseDnsResponse message = .ok ⟨octet message 3 % 16, addresses message (word message 6) answers⟩

/-- No name in the answer section is labels before a pointer. -/
def DirectAnswers (message : Wire) : Prop :=
  ∀ answers, answerSection message = some answers → DirectOwners message (word message 6) answers

/-! ## No buffer makes it fail -/

section

variable {buf : Wire}

theorem skipQuestionName_ok {fuel offset : ℕ} (enough : buf.length - offset < fuel) :
    ∃ after, skipQuestionName buf fuel offset = .ok after := by
  induction fuel generalizing offset with
  | zero => omega
  | succ fuel ih =>
    unfold skipQuestionName
    dsimp only
    split
    · split
      · exact ⟨_, rfl⟩
      split
      · exact ⟨_, rfl⟩
      · exact ih (by omega)
    · exact ⟨_, rfl⟩

theorem skipQuestions_ok {count offset : ℕ} : ∃ after, skipQuestions buf count offset = .ok after := by
  induction count generalizing offset with
  | zero => exact ⟨_, rfl⟩
  | succ count ih =>
    obtain ⟨after, skipped⟩ := @skipQuestionName_ok buf (rounds buf) offset (by unfold rounds; omega)
    rw [skipQuestions, skipped]
    exact ih

theorem skipLabels_ok {fuel offset : ℕ} (enough : buf.length - offset < fuel) :
    ∃ after, skipLabels buf fuel offset = .ok after := by
  induction fuel generalizing offset with
  | zero => omega
  | succ fuel ih =>
    unfold skipLabels
    dsimp only
    split
    · split
      · exact ⟨_, rfl⟩
      · exact ih (by omega)
    · exact ⟨_, rfl⟩

theorem skipOwner_ok {offset : ℕ} : ∃ after, skipOwner buf offset = .ok after := by
  unfold skipOwner
  split
  · exact ⟨_, rfl⟩
  · exact skipLabels_ok (by unfold rounds; omega)

theorem getUint16_ok {offset : ℕ} (inside : offset + 1 < buf.length) : getUint16 buf offset = .ok (word buf offset) :=
  if_pos inside

/-- One round of the loop over the records. -/
theorem readAnswers_step {left offset after : ℕ} {answers : List String} (inside : offset + 12 ≤ buf.length)
    (skipped : skipOwner buf offset = .ok after) : readAnswers buf (left + 1) offset answers =
      if buf.length < after + 10 then .ok answers
      else readAnswers buf left (after + 10 + word buf (after + 8))
        (if word buf after = 1 ∧ word buf (after + 8) = 4 ∧ after + 10 + 4 ≤ buf.length then
          answers ++ [address buf (after + 10)] else answers) := by
  rw [readAnswers, if_pos inside, skipped]
  simp only [bind, Except.bind]
  split
  · rfl
  · rw [getUint16_ok (by omega), getUint16_ok (by omega)]

theorem readAnswers_ok {left offset : ℕ} {answers : List String} : ∃ read, readAnswers buf left offset answers = .ok read := by
  induction left generalizing offset answers with
  | zero => exact ⟨_, rfl⟩
  | succ left ih =>
    by_cases inside : offset + 12 ≤ buf.length
    · obtain ⟨after, skipped⟩ := @skipOwner_ok buf offset
      rw [readAnswers_step inside skipped]
      split
      · exact ⟨_, rfl⟩
      · exact ih
    · exact ⟨_, if_neg inside⟩

/-- What the parser makes of a buffer that has a header. -/
theorem parseDnsResponse_eq {offset : ℕ} (header : 12 ≤ buf.length)
    (skipped : skipQuestions buf (word buf 4) 12 = .ok offset) : parseDnsResponse buf =
      (readAnswers buf (word buf 6) offset []).map fun answers => ⟨octet buf 3 &&& 0x0f, answers⟩ := by
  have flags : getUint8 buf 3 = .ok (octet buf 3) := if_pos (by omega)
  rw [parseDnsResponse, if_neg (by omega), flags, getUint16_ok (by omega), getUint16_ok (by omega)]
  simp only [bind, Except.bind]
  rw [skipped]
  dsimp only
  cases readAnswers buf (word buf 6) offset [] <;> rfl

/-- Every buffer is read to an end, and never outside. -/
theorem parseDnsResponse_ok : ∃ response, parseDnsResponse buf = .ok response := by
  by_cases header : 12 ≤ buf.length
  · obtain ⟨offset, skipped⟩ := @skipQuestions_ok buf (word buf 4) 12
    obtain ⟨answers, read⟩ := @readAnswers_ok buf (word buf 6) offset []
    rw [parseDnsResponse_eq header skipped, read]
    exact ⟨_, rfl⟩
  · exact ⟨_, if_pos (by omega)⟩

end

/-! ## What is well formed is read -/

section

variable {buf after rest : Wire} {offset fuel : ℕ}

theorem drop_cons {first : UInt8} (split : buf.drop offset = first :: rest) :
    offset < buf.length ∧ octet buf offset = first.toNat ∧ buf.drop (offset + 1) = rest := by
  have inside : offset < buf.length := by
    by_contra outside
    rw [List.drop_eq_nil_of_le (by omega)] at split
    contradiction
  rw [List.drop_eq_getElem_cons inside] at split
  obtain ⟨rfl, rfl⟩ := List.cons.inj split
  refine ⟨inside, ?_, rfl⟩
  rw [octet, List.getD_eq_getElem?_getD, List.getElem?_eq_getElem inside, Option.getD_some]

theorem pointer_iff : ∀ length < 256, (length &&& 0xc0 = 0xc0 ↔ 192 ≤ length) ∧ (length < 64 → length &&& 0xc0 = 0) := by
  decide +kernel

/-- How a name is read: it ends, or goes on behind a label, or is a pointer. -/
theorem readName_cases {message : Wire} {first : UInt8} (read : readName message (fuel + 1) (first :: rest) = some after) :
    (first = 0 ∧ after = rest) ∨
      (first.toNat ≠ 0 ∧ first.toNat < 64 ∧ readName message fuel (rest.drop first.toNat) = some after) ∨
      (192 ≤ first.toNat ∧ after = rest.drop 1) := by
  rw [readName.eq_def] at read
  dsimp only at read
  split at read
  · next ends => exact .inl ⟨ends, (Option.some.inj read).symm⟩
  next label =>
    have positive : first.toNat ≠ 0 := fun zero => label (UInt8.toNat_inj.mp zero)
    split at read
    · next short =>
      split at read
      · contradiction
      · exact .inr (.inl ⟨positive, short, read⟩)
    split at read
    · contradiction
    · next pointer =>
      split at read
      · contradiction
      · split at read
        · exact .inr (.inr ⟨by omega, (Option.some.inj read).symm⟩)
        · contradiction

/-- The name of a question is skipped as it is read. -/
theorem skipQuestionName_of_readName {message : Wire} {bound : ℕ} (read : readName message fuel (buf.drop offset) = some after)
    (enough : buf.length - offset < bound) : ∃ size, 0 < size ∧ skipQuestionName buf bound offset = .ok (offset + size) ∧
      after = buf.drop (offset + size) := by
  induction fuel generalizing offset bound with
  | zero => contradiction
  | succ fuel ih =>
    cases split : buf.drop offset with
    | nil =>
      rw [split] at read
      contradiction
    | cons first rest =>
      obtain ⟨inside, byte, rfl⟩ := drop_cons split
      obtain ⟨bound, rfl⟩ := Nat.exists_eq_succ_of_ne_zero (Nat.ne_of_gt (Nat.zero_lt_of_lt enough))
      have signs := pointer_iff first.toNat first.toNat_lt
      rw [split] at read
      unfold skipQuestionName
      dsimp only
      rw [if_pos inside, byte]
      rcases readName_cases read with ⟨rfl, rfl⟩ | ⟨positive, short, later⟩ | ⟨pointer, rfl⟩
      · exact ⟨1, Nat.one_pos, if_pos rfl, rfl⟩
      · rw [List.drop_drop] at later
        obtain ⟨size, _, skipped, rfl⟩ := @ih (offset + 1 + first.toNat) bound later (by omega)
        rw [if_neg positive, if_neg (by rw [signs.1]; omega), skipped]
        exact ⟨1 + first.toNat + size, by omega, by congr 1; omega, by congr 1; omega⟩
      · rw [if_neg (by omega), if_pos (signs.1.mpr pointer), List.drop_drop]
        exact ⟨2, Nat.two_pos, rfl, rfl⟩

/-- Labels to the end are skipped as they are read. -/
theorem skipLabels_of_readName {message : Wire} {bound fuel' : ℕ}
    (read : readName message fuel (buf.drop offset) = some after) (labels : labelsOnly fuel' (buf.drop offset) = true)
    (enough : buf.length - offset < bound) : ∃ size, 0 < size ∧ skipLabels buf bound offset = .ok (offset + size) ∧
      after = buf.drop (offset + size) := by
  induction fuel generalizing offset bound fuel' with
  | zero => contradiction
  | succ fuel ih =>
    cases split : buf.drop offset with
    | nil =>
      rw [split] at read
      contradiction
    | cons first rest =>
      obtain ⟨inside, byte, rfl⟩ := drop_cons split
      obtain ⟨bound, rfl⟩ := Nat.exists_eq_succ_of_ne_zero (Nat.ne_of_gt (Nat.zero_lt_of_lt enough))
      rw [split] at read labels
      cases fuel' with
      | zero => contradiction
      | succ fuel' =>
      rw [labelsOnly] at labels
      unfold skipLabels
      dsimp only
      rw [if_pos inside, byte]
      rcases readName_cases read with ⟨rfl, rfl⟩ | ⟨positive, short, later⟩ | ⟨pointer, rfl⟩
      · exact ⟨1, Nat.one_pos, if_pos rfl, rfl⟩
      · rw [List.drop_drop] at later
        rw [if_neg fun zero => positive (by rw [zero]; rfl), if_pos short, List.drop_drop] at labels
        obtain ⟨size, _, skipped, rfl⟩ := @ih (offset + 1 + first.toNat) bound fuel' later labels (by omega)
        rw [if_neg positive, skipped]
        exact ⟨1 + first.toNat + size, by omega, by congr 1; omega, by congr 1; omega⟩
      · rw [if_neg (by rintro rfl; exact absurd pointer (by decide)), if_neg (by omega)] at labels
        contradiction

/-- A direct name of a record is skipped as it is read. -/
theorem skipOwner_of_readName {message : Wire} (read : readName message fuel (buf.drop offset) = some after)
    (direct : Direct (buf.drop offset)) :
    ∃ size, 0 < size ∧ skipOwner buf offset = .ok (offset + size) ∧ after = buf.drop (offset + size) := by
  have here : octet (buf.drop offset) 0 = octet buf offset := by
    rw [octet, octet, List.getD_eq_getElem?_getD, List.getD_eq_getElem?_getD, List.getElem?_drop, Nat.add_zero]
  have byte : octet buf offset < 256 := UInt8.toNat_lt _
  unfold skipOwner
  cases fuel with
  | zero => contradiction
  | succ fuel =>
    cases split : buf.drop offset with
    | nil =>
      rw [split] at read
      contradiction
    | cons first rest =>
      obtain ⟨inside, first_eq, rfl⟩ := drop_cons split
      have signs := pointer_iff _ byte
      rcases direct with pointer | labels
      · rw [here] at pointer
        have pointed : octet buf offset &&& 0xc0 ≠ 0 := by
          rw [signs.1.mpr pointer]
          decide
        rw [split] at read
        rw [if_pos pointed]
        rcases readName_cases read with ⟨rfl, -⟩ | ⟨-, short, -⟩ | ⟨-, rfl⟩
        · rw [first_eq] at pointer
          exact absurd pointer (by decide)
        · omega
        · rw [List.drop_drop]
          exact ⟨2, Nat.two_pos, rfl, rfl⟩
      · have short : octet buf offset < 64 := by
          rw [split, labelsOnly] at labels
          split at labels
          · next zero =>
            rw [first_eq, zero]
            decide
          · split at labels
            · omega
            · contradiction
        rw [if_neg (not_not.mpr (signs.2 short))]
        exact skipLabels_of_readName read labels (by unfold rounds; omega)

theorem word_drop (start index : ℕ) : word (buf.drop start) index = word buf (start + index) := by
  simp only [word, List.getD_eq_getElem?_getD, List.getElem?_drop, Nat.add_assoc]

theorem octet_drop (start index : ℕ) : octet (buf.drop start) index = octet buf (start + index) := by
  simp only [octet, List.getD_eq_getElem?_getD, List.getElem?_drop]

theorem address_drop (start : ℕ) : address (buf.drop start) 0 = address buf start := by
  simp only [address, octet_drop, Nat.add_zero, Nat.zero_add]

theorem addresses_nil (message : Wire) (count : ℕ) : addresses message count [] = [] := by
  cases count with
  | zero => rfl
  | succ count => rw [addresses, readName_nil]

/-- A record is a name, ten bytes, and as much data as the last two of them say. -/
theorem readRecord_cases {message : Wire} (read : readRecord message rest = some after) :
    ∃ fixed, readName message message.length rest = some fixed ∧ 10 ≤ fixed.length ∧
      10 + word fixed 8 ≤ fixed.length ∧ after = fixed.drop (10 + word fixed 8) := by
  obtain ⟨fixed, name, data⟩ := Option.bind_eq_some_iff.mp read
  split at data
  · contradiction
  · unfold dropExactly at data
    split at data
    · contradiction
    · next whole =>
      rw [List.length_drop] at whole
      refine ⟨fixed, name, by omega, by omega, ?_⟩
      rw [← Option.some.inj data, List.drop_drop]

/-- Records with direct names are read to the addresses that they say. -/
theorem readAnswers_of_readMany {count : ℕ} {answers : List String}
    (read : readMany (readRecord buf) count (buf.drop offset) = some rest)
    (direct : DirectOwners buf count (buf.drop offset)) :
    readAnswers buf count offset answers = .ok (answers ++ addresses buf count (buf.drop offset)) := by
  induction count generalizing offset answers with
  | zero =>
    rw [addresses, List.append_nil]
    rfl
  | succ count ih =>
    obtain ⟨owner, others⟩ := direct
    obtain ⟨after, record, later⟩ := Option.bind_eq_some_iff.mp read
    have next := others after record
    obtain ⟨fixed, name, long, whole, rfl⟩ := readRecord_cases record
    obtain ⟨size, positive, skipped, rfl⟩ := skipOwner_of_readName name owner
    rw [List.drop_drop] at later next
    rw [List.length_drop] at long whole
    simp only [addresses, name, List.drop_drop, word_drop, address_drop, Nat.add_zero] at later next whole ⊢
    by_cases inside : offset + 12 ≤ buf.length
    · rw [readAnswers_step inside skipped, if_neg (by omega)]
      have same : offset + size + 10 + word buf (offset + size + 8) = offset + size + (10 + word buf (offset + size + 8)) := by
        omega
      rw [same, ih later next]
      by_cases kind : word buf (offset + size) = 1 ∧ word buf (offset + size + 8) = 4
      · rw [if_pos ⟨kind.1, kind.2, by omega⟩, if_pos kind, List.append_assoc]
      · rw [if_neg fun both => kind ⟨both.1, both.2.1⟩, if_neg kind, List.nil_append]
    · -- the last record: a name of one byte, and no data
      have empty : word buf (offset + size + 8) = 0 := by omega
      rw [empty, List.drop_eq_nil_of_le (by omega), addresses_nil, if_neg (by omega), List.append_nil, List.append_nil]
      exact if_neg inside

theorem skipQuestions_of_readMany {count : ℕ} (read : readMany (readQuestion buf) count (buf.drop offset) = some rest) :
    ∃ size, skipQuestions buf count offset = .ok (offset + size) ∧ rest = buf.drop (offset + size) := by
  induction count generalizing offset with
  | zero => exact ⟨0, rfl, (Option.some.inj read).symm⟩
  | succ count ih =>
    obtain ⟨after, question, later⟩ := Option.bind_eq_some_iff.mp read
    obtain ⟨named, name, data⟩ := Option.bind_eq_some_iff.mp question
    obtain ⟨size, -, skipped, rfl⟩ := @skipQuestionName_of_readName buf named offset _ buf (rounds buf) name
      (by unfold rounds; omega)
    unfold dropExactly at data
    split at data
    · contradiction
    · obtain rfl := Option.some.inj data
      rw [List.drop_drop] at later
      obtain ⟨more, skipped', rfl⟩ := ih later
      refine ⟨size + 4 + more, ?_, by congr 1; omega⟩
      have total : offset + (size + 4 + more) = offset + size + 4 + more := by omega
      rw [skipQuestions, skipped, total]
      exact skipped'

theorem readMany_add (read : Wire → Option Wire) (first second : ℕ) (rest : Wire) :
    readMany read (first + second) rest = (readMany read first rest).bind (readMany read second) := by
  induction first generalizing rest with
  | zero =>
    rw [Nat.zero_add]
    rfl
  | succ first ih =>
    rw [Nat.add_right_comm, readMany, readMany, Option.bind_eq_bind, Option.bind_assoc]
    congr 1
    funext rest
    exact ih rest

/-- A well-formed message whose answers have direct names is read right. -/
theorem readRight_of_direct (wellFormed : WellFormed buf) (direct : DirectAnswers buf) : ReadRight buf := by
  obtain ⟨header, whole⟩ := wellFormed
  obtain ⟨answers, section', records⟩ := Option.bind_eq_some_iff.mp whole
  have own := direct answers section'
  obtain ⟨size, skipped, rfl⟩ := skipQuestions_of_readMany section'
  have counted : Dns.records buf = word buf 6 + (word buf 8 + word buf 10) := Nat.add_assoc _ _ _
  rw [counted, readMany_add] at records
  obtain ⟨rest, first, -⟩ := Option.bind_eq_some_iff.mp records
  refine ⟨_, section', ?_⟩
  rw [parseDnsResponse_eq header skipped, readAnswers_of_readMany first own, List.nil_append]
  have low : octet buf 3 &&& 0x0f = octet buf 3 % 16 := Nat.and_two_pow_sub_one_eq_mod _ 4
  rw [low]
  rfl

end

/-- Every buffer is read to an end and never outside, and a well-formed message is read right unless a name in its
answer section is labels before a pointer. -/
theorem parseDnsResponse_reads (buf : Wire) : (∃ response, parseDnsResponse buf = .ok response) ∧
    (WellFormed buf → DirectAnswers buf → ReadRight buf) :=
  ⟨parseDnsResponse_ok, readRight_of_direct⟩

namespace Sample

/-- An answer for `a`, whose one record is of `a`, by a pointer. -/
def pointed : Wire :=
  [0x13, 0x56, 0x81, 0x80, 0, 1, 0, 1, 0, 0, 0, 0, 1, 97, 0, 0, 1, 0, 1, 0xC0, 12, 0, 1, 0, 1, 0, 0, 0, 60, 0, 4, 1, 2, 3, 4]

/-- The same for the name `b.a`, which is a label before a pointer. -/
def mixed : Wire :=
  [0x13, 0x56, 0x81, 0x80, 0, 1, 0, 1, 0, 0, 0, 0, 1, 97, 0, 0, 1, 0, 1, 1, 98, 0xC0, 12, 0, 1, 0, 1, 0, 0, 0, 60, 0, 4, 1, 2,
    3, 4]

end Sample

theorem parseDnsResponse_reads_pointed : ReadRight Sample.pointed := by
  apply (parseDnsResponse_reads Sample.pointed).2 (by decide)
  intro answers section'
  have whole : answerSection Sample.pointed = some (Sample.pointed.drop 19) := by decide
  obtain rfl := Option.some.inj (whole.symm.trans section')
  exact ⟨.inl (by decide), fun _ _ => trivial⟩

/-- A record of a name that is a label before a pointer is not found. -/
theorem mixed_name_misread : WellFormed Sample.mixed ∧ ¬ ReadRight Sample.mixed := by
  have whole : answerSection Sample.mixed = some (Sample.mixed.drop 19) := by decide
  have said : addresses Sample.mixed 1 (Sample.mixed.drop 19) = ["1.2.3.4"] := by decide +kernel
  have parsed : parseDnsResponse Sample.mixed = .ok ⟨0, []⟩ := by decide +kernel
  refine ⟨by decide, ?_⟩
  rintro ⟨answers, section', read⟩
  obtain rfl := Option.some.inj (whole.symm.trans section')
  have same := (DnsResponse.mk.inj (Except.ok.inj (parsed.symm.trans read))).2
  have one : word Sample.mixed 6 = 1 := by decide
  rw [one, said] at same
  exact nomatch same

end OmniControlPlane.DnsCenter
