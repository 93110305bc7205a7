import OmniControlPlane.DnsCenter.Response

/-! # The probe of a resolver

A response over TCP comes behind its length, in chunks of any sizes. One of the two clients puts the chunks together
until the length is reached; the probe takes the first chunk for the whole of it.
-/

namespace OmniControlPlane.DnsCenter

open Lib Lib.Dns

/-! ## The two clients -/

structure Canary where
  name : String
  expected : List String
deriving DecidableEq, Repr

/-- Canary names and their globally-correct A answers. -/
def DNS_CANARIES : List Canary :=
  [⟨"cloudflare-dns.com", ["1.1.1.1", "1.0.0.1"]⟩, ⟨"dns.google", ["8.8.8.8", "8.8.4.4"]⟩]

def canary : Canary := DNS_CANARIES.head?.getD ⟨"cloudflare-dns.com", ["1.1.1.1", "1.0.0.1"]⟩

/-- What is taken for the message: as much of a chunk as its length says, if there is so much. -/
def bodyOf (header : Wire) : Wire :=
  if 2 ≤ header.length then
    let length := word header 0
    if length ≤ header.length - 2 then (header.drop 2).take length else header.drop 2
  else []

/-- What a message says of the resolver; where the parser throws, that it was not reached. -/
def verdictOf (body : Wire) : DnsVerdict :=
  match parseDnsResponse body with
  | .error _ => .unreachable
  | .ok response => if response.rcode ≠ 0 then .wrong else classifyAnswers response.answers canary.expected

/-- What `connect` gives: whether there are streams by the names `output` and `input`, and the chunks that come in. -/
structure ScanSocket where
  output : Bool
  input : Bool
  chunks : List Wire

/-- The names that a socket of the platform has for its streams are `writable` and `readable`. -/
def ScanSocket.ofPlatform (chunks : List Wire) : ScanSocket := ⟨false, false, chunks⟩

/-- `getWriter` or `getReader` of what is not there throws, and what is thrown is caught. -/
def probeResolver (rttMs : ℕ) (socket : ScanSocket) : ProbeResult :=
  if socket.output = false ∨ socket.input = false then ⟨.unreachable, none⟩
  else
    match socket.chunks.head? with
    | none => ⟨.unreachable, none⟩
    | some header => ⟨verdictOf (bodyOf header), some rttMs⟩

/-- The loop of `tcpDnsQuery`; no message, where the stream ends early. -/
def tcpDnsQuery : Wire → List Wire → Option Wire
  | _, [] => none
  | buffer, chunk :: chunks =>
    let merged := buffer ++ chunk
    if 2 ≤ merged.length ∧ word merged 0 + 2 ≤ merged.length then some ((merged.drop 2).take (word merged 0))
    else tcpDnsQuery merged chunks

/-- A message behind its length. -/
def frame (message : Wire) : Wire := UInt8.ofNat (message.length / 256) :: UInt8.ofNat message.length :: message

/-- The verdict is that of the message that the other client puts together. -/
def SameVerdict (socket : ScanSocket) : Prop :=
  ∀ message, tcpDnsQuery [] socket.chunks = some message →
    ∀ rttMs, (probeResolver rttMs socket).verdict = verdictOf message

/-! ## Segments -/

section

variable {message tail : Wire} {chunks : List Wire}

theorem word_frame (short : message.length < 65536) (tail : Wire) : word (frame message ++ tail) 0 = message.length := by
  have high : (UInt8.ofNat (message.length / 256)).toNat = message.length / 256 := by
    rw [UInt8.toNat_ofNat', Nat.mod_eq_of_lt (by omega)]
  have low : (UInt8.ofNat message.length).toNat = message.length % 256 := UInt8.toNat_ofNat'
  rw [word, frame, List.cons_append, List.cons_append, List.getD_cons_zero, List.getD_cons_succ, List.getD_cons_zero, high,
    low]
  omega

theorem word_of_front {front whole : Wire} (first : front <+: whole) (two : 2 ≤ front.length) : word front 0 = word whole 0 := by
  obtain ⟨rest, rfl⟩ := first
  simp only [word, List.getD_eq_getElem?_getD]
  rw [List.getElem?_append_left (by omega), List.getElem?_append_left (by omega)]

/-- What a prefix of a framed stream has of the message. -/
theorem message_of_front {front : Wire} (first : front <+: frame message ++ tail) :
    (front.drop 2).take message.length = message.take (front.length - 2) := by
  obtain ⟨rest, whole⟩ := first
  have dropped := congrArg (List.drop 2) whole
  have message' : List.drop 2 (frame message ++ tail) = message ++ tail := rfl
  rw [message', List.drop_append] at dropped
  have front' := congrArg (List.take (front.length - 2)) dropped
  rw [List.take_left' (by rw [List.length_drop])] at front'
  rw [front', List.take_take, Nat.min_comm, ← List.take_take, List.take_left]

/-- However a framed stream is cut, the message is put together. -/
theorem tcpDnsQuery_frame (short : message.length < 65536) {buffer : Wire}
    (missing : buffer.length < message.length + 2) (stream : buffer ++ chunks.flatten = frame message ++ tail) :
    tcpDnsQuery buffer chunks = some message := by
  induction chunks generalizing buffer with
  | nil =>
    have lengths := congrArg List.length stream
    simp only [List.flatten_nil, List.append_nil, List.length_append, frame, List.length_cons] at lengths
    omega
  | cons chunk chunks ih =>
    rw [List.flatten_cons, ← List.append_assoc] at stream
    have first : buffer ++ chunk <+: frame message ++ tail := ⟨chunks.flatten, stream⟩
    rw [tcpDnsQuery]
    by_cases whole : message.length + 2 ≤ (buffer ++ chunk).length
    · have length : word (buffer ++ chunk) 0 = message.length := by
        rw [word_of_front first (by omega), word_frame short]
      rw [length, if_pos ⟨by omega, whole⟩, message_of_front first, List.take_of_length_le (by omega)]
    · rw [if_neg, ih (by omega) stream]
      rintro ⟨two, enough⟩
      rw [word_of_front first two, word_frame short] at enough
      exact whole enough

/-- What the probe takes for the message is as much of it as there is in the chunk. -/
theorem bodyOf_front (short : message.length < 65536) {front : Wire} (first : front <+: frame message ++ tail) :
    bodyOf front = message.take (front.length - 2) := by
  unfold bodyOf
  by_cases two : 2 ≤ front.length
  · have length : word front 0 = message.length := by rw [word_of_front first two, word_frame short]
    rw [if_pos two, length]
    dsimp only
    split
    · exact message_of_front first
    · rw [← message_of_front first, List.take_of_length_le]
      rw [List.length_drop]
      omega
  · rw [if_neg two, Nat.sub_eq_zero_of_le (by omega), List.take_zero]

end

/-! ## Short messages -/

section

variable {buf : Wire}

theorem skipLabels_le {fuel offset after : ℕ} (skipped : skipLabels buf fuel offset = .ok after) : offset ≤ after := by
  induction fuel generalizing offset with
  | zero => contradiction
  | succ fuel ih =>
    unfold skipLabels at skipped
    dsimp only at skipped
    split at skipped
    · split at skipped
      · have same := Except.ok.inj skipped
        omega
      · have later := ih skipped
        omega
    · exact Nat.le_of_eq (Except.ok.inj skipped)

theorem skipLabels_later {fuel offset after : ℕ} (inside : offset < buf.length)
    (skipped : skipLabels buf fuel offset = .ok after) : offset < after := by
  cases fuel with
  | zero => contradiction
  | succ fuel =>
    unfold skipLabels at skipped
    dsimp only at skipped
    rw [if_pos inside] at skipped
    split at skipped
    · have same := Except.ok.inj skipped
      omega
    · have later := skipLabels_le skipped
      omega

theorem skipOwner_later {offset after : ℕ} (inside : offset < buf.length) (skipped : skipOwner buf offset = .ok after) :
    offset < after := by
  unfold skipOwner at skipped
  split at skipped
  · have same := Except.ok.inj skipped
    omega
  · exact skipLabels_later inside skipped

/-- In fewer than 27 bytes there is no room for an address. -/
theorem readAnswers_short (short : buf.length < 27) {left offset : ℕ} (behind : 12 ≤ offset) {answers : List String} :
    readAnswers buf left offset answers = .ok answers := by
  induction left generalizing offset answers with
  | zero => rfl
  | succ left ih =>
    by_cases inside : offset + 12 ≤ buf.length
    · obtain ⟨after, skipped⟩ := @skipOwner_ok buf offset
      have later := skipOwner_later (by omega) skipped
      rw [readAnswers_step inside skipped]
      split
      · rfl
      · rw [if_neg (by omega), ih (by omega)]
    · exact if_neg inside

theorem skipQuestionName_le {fuel offset after : ℕ} (skipped : skipQuestionName buf fuel offset = .ok after) :
    offset ≤ after := by
  induction fuel generalizing offset with
  | zero => contradiction
  | succ fuel ih =>
    unfold skipQuestionName at skipped
    dsimp only at skipped
    split at skipped
    · split at skipped
      · have same := Except.ok.inj skipped
        omega
      split at skipped
      · have same := Except.ok.inj skipped
        omega
      · have later := ih skipped
        omega
    · exact Nat.le_of_eq (Except.ok.inj skipped)

theorem skipQuestions_le {count offset after : ℕ} (skipped : skipQuestions buf count offset = .ok after) :
    offset ≤ after := by
  induction count generalizing offset with
  | zero => exact Nat.le_of_eq (Except.ok.inj skipped)
  | succ count ih =>
    obtain ⟨next, first⟩ := @skipQuestionName_ok buf (rounds buf) offset (by unfold rounds; omega)
    rw [skipQuestions, first] at skipped
    have later := ih skipped
    have earlier := skipQuestionName_le first
    omega

theorem verdictOf_headless (missing : buf.length < 12) : verdictOf buf = .wrong := by
  have parsed : parseDnsResponse buf = .ok ⟨99, []⟩ := if_pos missing
  rw [verdictOf, parsed]
  rfl

theorem verdictOf_short (header : 12 ≤ buf.length) (short : buf.length < 27) :
    verdictOf buf = if octet buf 3 &&& 0x0f ≠ 0 then .wrong else .unreachable := by
  obtain ⟨offset, skipped⟩ := @skipQuestions_ok buf (word buf 4) 12
  rw [verdictOf, parseDnsResponse_eq header skipped, readAnswers_short short (skipQuestions_le skipped)]
  rfl

end

/-! ## A message that ends with its address -/

/-- A name of so many bytes and one. -/
def ownerOf : ℕ → Wire
  | 0 => [0]
  | 1 => [0xC0, 12]
  | 2 => [1, 97, 0]
  | 3 => [2, 97, 97, 0]
  | size + 4 => 1 :: 97 :: ownerOf (size + 2)

/-- The header of a response with one record. -/
def oneAnswer : Wire := [0, 0, 0x80, 0, 0, 0, 0, 1, 0, 0, 0, 0]

/-- A record of type A, behind its name. -/
def healthyRecord : Wire := [0, 1, 0, 1, 0, 0, 0, 0, 0, 4, 1, 1, 1, 1]

/-- A healthy response of any length from 27 on. -/
def healthyResponse (size : ℕ) : Wire := oneAnswer ++ ownerOf size ++ healthyRecord

theorem ownerOf_length (size : ℕ) : (ownerOf size).length = size + 1 := by
  induction size using ownerOf.induct with
  | case1 => rfl
  | case2 => rfl
  | case3 => rfl
  | case4 => rfl
  | case5 size ih => rw [ownerOf, List.length_cons, List.length_cons, ih]

theorem healthyResponse_length (size : ℕ) : (healthyResponse size).length = 27 + size := by
  rw [healthyResponse, List.length_append, List.length_append, ownerOf_length]
  change 12 + (size + 1) + 14 = 27 + size
  omega

section

variable {buf tail : Wire} {offset : ℕ}

/-- The loop over labels, one label further. -/
theorem skipLabels_label {fuel : ℕ} {first : UInt8} {label : Wire} (split : buf.drop offset = first :: (label ++ tail))
    (size : first.toNat = label.length) (nonempty : label ≠ []) :
    skipLabels buf (fuel + 1) offset = skipLabels buf fuel (offset + 1 + label.length) ∧
      buf.drop (offset + 1 + label.length) = tail := by
  obtain ⟨inside, byte, rest⟩ := drop_cons split
  have positive := List.length_pos_iff.mpr nonempty
  constructor
  · rw [skipLabels, if_pos inside, byte, size]
    exact if_neg (by omega)
  · rw [← List.drop_drop, rest, List.drop_left]

theorem skipLabels_end {fuel : ℕ} (split : buf.drop offset = 0 :: tail) :
    skipLabels buf (fuel + 1) offset = .ok (offset + 1) := by
  obtain ⟨inside, byte, -⟩ := drop_cons split
  rw [skipLabels, if_pos inside, byte]
  rfl

theorem skipLabels_owner {size fuel : ℕ} (labels : size ≠ 1) (split : buf.drop offset = ownerOf size ++ tail)
    (enough : size < fuel) : skipLabels buf fuel offset = .ok (offset + (size + 1)) := by
  induction size using ownerOf.induct generalizing offset fuel with
  | case1 =>
    obtain ⟨fuel, rfl⟩ := Nat.exists_eq_succ_of_ne_zero (Nat.ne_of_gt enough)
    exact skipLabels_end split
  | case2 => exact absurd rfl labels
  | case3 =>
    obtain ⟨fuel, rfl⟩ := Nat.exists_eq_add_of_lt enough
    obtain ⟨step, after⟩ := @skipLabels_label buf (0 :: tail) offset (fuel + 2) 1 [97] split rfl (by decide)
    rw [show 2 + fuel + 1 = fuel + 2 + 1 by omega, step]
    exact skipLabels_end after
  | case4 =>
    obtain ⟨fuel, rfl⟩ := Nat.exists_eq_add_of_lt enough
    obtain ⟨step, after⟩ := @skipLabels_label buf (0 :: tail) offset (fuel + 3) 2 [97, 97] split rfl (by decide)
    rw [show 3 + fuel + 1 = fuel + 3 + 1 by omega, step]
    exact skipLabels_end after
  | case5 size ih =>
    obtain ⟨fuel, rfl⟩ := Nat.exists_eq_add_of_lt enough
    obtain ⟨step, after⟩ := @skipLabels_label buf (ownerOf (size + 2) ++ tail) offset (size + 4 + fuel) 1 [97] split rfl
      (by decide)
    rw [step, ih (by omega) after (by omega)]
    exact congrArg Except.ok (by rw [List.length_singleton]; omega)

theorem octet_take {size : ℕ} (inside : offset < size) : octet (buf.take size) offset = octet buf offset := by
  rw [octet, octet, List.getD_eq_getElem?_getD, List.getD_eq_getElem?_getD, List.getElem?_take_of_lt inside]

/-- In a buffer that is cut off, the loop ends at the same offset or behind the end. -/
theorem skipLabels_take {fuel fuel' size after after' : ℕ} (inside : size ≤ buf.length)
    (skipped : skipLabels buf fuel offset = .ok after) (skipped' : skipLabels (buf.take size) fuel' offset = .ok after') :
    after' = after ∨ size ≤ after' := by
  induction fuel generalizing offset fuel' with
  | zero => contradiction
  | succ fuel ih =>
    cases fuel' with
    | zero => contradiction
    | succ fuel' =>
    unfold skipLabels at skipped skipped'
    dsimp only at skipped skipped'
    rw [List.length_take, Nat.min_eq_left inside] at skipped'
    by_cases within : offset < size
    · rw [if_pos within, octet_take within] at skipped'
      rw [if_pos (Nat.lt_of_lt_of_le within inside)] at skipped
      split at skipped
      · next zero =>
        rw [if_pos zero] at skipped'
        exact .inl ((Except.ok.inj skipped').symm.trans (Except.ok.inj skipped))
      · next label =>
        rw [if_neg label] at skipped'
        exact ih skipped skipped'
    · rw [if_neg within] at skipped'
      have same := Except.ok.inj skipped'
      exact .inr (by omega)

theorem skipOwner_take {size after after' : ℕ} (inside : size ≤ buf.length) (here : offset < size)
    (skipped : skipOwner buf offset = .ok after) (skipped' : skipOwner (buf.take size) offset = .ok after') :
    after' = after ∨ size ≤ after' := by
  unfold skipOwner at skipped skipped'
  rw [octet_take here] at skipped'
  split at skipped
  · next pointer =>
    rw [if_pos pointer] at skipped'
    exact .inl ((Except.ok.inj skipped').symm.trans (Except.ok.inj skipped))
  · next labels =>
    rw [if_neg labels] at skipped'
    exact skipLabels_take inside skipped skipped'

end

section

variable (size : ℕ)

theorem healthyResponse_drop : (healthyResponse size).drop 12 = ownerOf size ++ healthyRecord := rfl

theorem healthyRecord_drop : (healthyResponse size).drop (13 + size) = healthyRecord :=
  List.drop_left' (by
    rw [List.length_append, ownerOf_length]
    change 12 + (size + 1) = 13 + size
    omega)

theorem skipOwner_healthyResponse : skipOwner (healthyResponse size) 12 = .ok (13 + size) := by
  have whole := healthyResponse_length size
  have after : 12 + (size + 1) = 13 + size := by omega
  by_cases labels : size = 1
  · subst labels
    decide
  · have short : octet (healthyResponse size) 12 &&& 0xc0 = 0 := by
      have first : octet (healthyResponse size) 12 = octet (ownerOf size ++ healthyRecord) 0 := by
        rw [← healthyResponse_drop, octet_drop]
      rw [first]
      unfold ownerOf
      split
      · rfl
      · exact absurd rfl labels
      · rfl
      · rfl
      · rw [octet, List.cons_append, List.getD_cons_zero]
        rfl
    rw [skipOwner, if_neg (not_not.mpr short), ← after]
    exact skipLabels_owner labels (healthyResponse_drop size) (by unfold rounds; omega)

theorem header_take {front : ℕ} (header : 12 ≤ front) {offset : ℕ} (inside : offset < 12) :
    octet ((healthyResponse size).take front) offset = octet oneAnswer offset := by
  rw [octet_take (by omega), octet, octet, List.getD_eq_getElem?_getD, List.getD_eq_getElem?_getD, healthyResponse,
    List.append_assoc, List.getElem?_append_left inside]

theorem parse_healthyResponse {front : ℕ} (header : 12 ≤ front) (inside : front ≤ 27 + size) :
    parseDnsResponse ((healthyResponse size).take front) =
      (readAnswers ((healthyResponse size).take front) 1 12 []).map fun answers => ⟨0, answers⟩ := by
  have whole := healthyResponse_length size
  have long : 12 ≤ ((healthyResponse size).take front).length := by
    rw [List.length_take]
    omega
  have words (offset : ℕ) (inside : offset < 11) :
      word ((healthyResponse size).take front) offset = octet oneAnswer offset * 256 + octet oneAnswer (offset + 1) := by
    rw [← header_take size header (by omega), ← header_take size header (by omega)]
    rfl
  have questions : word ((healthyResponse size).take front) 4 = 0 := words 4 (by omega)
  have answers : word ((healthyResponse size).take front) 6 = 1 := words 6 (by omega)
  rw [parseDnsResponse_eq long (by rw [questions]; rfl), answers, header_take size header (by omega)]
  rfl

theorem verdictOf_healthyResponse : verdictOf (healthyResponse size) = .healthy := by
  have whole := healthyResponse_length size
  have read : readAnswers (healthyResponse size) 1 12 [] = .ok ["1.1.1.1"] := by
    have words (offset : ℕ) : word (healthyResponse size) (13 + size + offset) = word healthyRecord offset := by
      rw [← healthyRecord_drop size, word_drop]
    have found : address (healthyResponse size) (13 + size + 10) = "1.1.1.1" := by
      have octets (offset : ℕ) : octet (healthyResponse size) (13 + size + 10 + offset) = octet healthyRecord (10 + offset) := by
        rw [← healthyRecord_drop size, octet_drop, Nat.add_assoc, Nat.add_assoc]
      have first := octets 0
      rw [Nat.add_zero] at first
      rw [address, first, octets, octets, octets]
      decide
    have kind : word (healthyResponse size) (13 + size) = 1 := words 0
    have length : word (healthyResponse size) (13 + size + 8) = 4 := words 8
    rw [readAnswers_step (by omega) (skipOwner_healthyResponse size), if_neg (by omega), kind, length,
      if_pos ⟨rfl, rfl, by omega⟩, found]
    rfl
  have parsed := parse_healthyResponse size (show 12 ≤ 27 + size by omega) le_rfl
  rw [List.take_of_length_le (by omega)] at parsed
  rw [verdictOf, parsed, read]
  decide +kernel

/-- The response without its end has no address. -/
theorem verdictOf_healthyResponse_take {front : ℕ} (header : 12 ≤ front) (inside : front < 27 + size) :
    verdictOf ((healthyResponse size).take front) = .unreachable := by
  have whole := healthyResponse_length size
  have length : ((healthyResponse size).take front).length = front := by
    rw [List.length_take]
    omega
  have read : readAnswers ((healthyResponse size).take front) 1 12 [] = .ok [] := by
    by_cases room : 12 + 12 ≤ front
    · obtain ⟨after, skipped⟩ := @skipOwner_ok ((healthyResponse size).take front) 12
      have ends := skipOwner_take (by omega) (by omega) (skipOwner_healthyResponse size) skipped
      rw [readAnswers_step (by omega) skipped, length]
      split
      · rfl
      · rw [if_neg (by omega)]
        rfl
    · exact if_neg (by omega)
  rw [verdictOf, parse_healthyResponse size header (by omega), read]
  rfl

end

/-- A header of zeros is that of a response without records. -/
theorem verdictOf_zeros {length : ℕ} (header : 12 ≤ length) : verdictOf (List.replicate length 0) = .unreachable := by
  have zero (offset : ℕ) : (List.replicate length (0 : UInt8)).getD offset 0 = 0 := by
    rw [List.getD_eq_getElem?_getD, List.getElem?_replicate]
    split <;> rfl
  have words (offset : ℕ) : word (List.replicate length 0) offset = 0 := by
    rw [word, zero, zero]
    rfl
  have flags : octet (List.replicate length 0) 3 = 0 := by
    rw [octet, zero]
    rfl
  rw [verdictOf, parseDnsResponse_eq (by rwa [List.length_replicate]) (by rw [words]; rfl), words, flags]
  rfl

/-- A response of a resolver that fails, of any length from 12 on -/
def failedResponse (size : ℕ) : Wire := [0, 0, 0x80, 2, 0, 0, 0, 0, 0, 0, 0, 0] ++ List.replicate size 0

theorem verdictOf_failedResponse (size : ℕ) : verdictOf (failedResponse size) = .wrong := by
  have header (offset : ℕ) (inside : offset < 12) :
      (failedResponse size).getD offset 0 = [0, 0, 0x80, 2, 0, 0, 0, 0, 0, 0, 0, 0].getD offset (0 : UInt8) := by
    rw [List.getD_eq_getElem?_getD, List.getD_eq_getElem?_getD, failedResponse, List.getElem?_append_left inside]
  have questions : word (failedResponse size) 4 = 0 := by
    rw [word, header 4 (by decide), header 5 (by decide)]
    rfl
  have answers : word (failedResponse size) 6 = 0 := by
    rw [word, header 6 (by decide), header 7 (by decide)]
    rfl
  have flags : octet (failedResponse size) 3 = 2 := by
    rw [octet, header 3 (by decide)]
    rfl
  rw [verdictOf, parseDnsResponse_eq (by simp [failedResponse]) (by rw [questions]; rfl), answers, flags]
  rfl

/-! ## When the first chunk is enough -/

section

variable {message tail chunk : Wire} {chunks : List Wire} {socket : ScanSocket}

/-- The verdict of the probe: of what the first chunk has of the message, if the streams are there. -/
theorem verdict_probeResolver (rttMs : ℕ) (short : message.length < 65536) (incoming : socket.chunks = chunk :: chunks)
    (stream : (chunk :: chunks).flatten = frame message ++ tail) : (probeResolver rttMs socket).verdict =
      if socket.output = true ∧ socket.input = true then verdictOf (message.take (chunk.length - 2)) else .unreachable := by
  have body : bodyOf chunk = message.take (chunk.length - 2) := bodyOf_front short ⟨chunks.flatten, stream⟩
  unfold probeResolver
  rw [incoming]
  by_cases named : socket.output = true ∧ socket.input = true
  · rw [if_pos named, if_neg (by simp [named]), ← body]
    rfl
  · have missing : socket.output = false ∨ socket.input = false := by
      rwa [not_and_or, Bool.not_eq_true, Bool.not_eq_true] at named
    rw [if_neg named, if_pos missing]

/-- One message decides whether the two clients see the same. -/
theorem sameVerdict_iff (short : message.length < 65536) (incoming : socket.chunks = chunk :: chunks)
    (stream : (chunk :: chunks).flatten = frame message ++ tail) : SameVerdict socket ↔
      (if socket.output = true ∧ socket.input = true then verdictOf (message.take (chunk.length - 2)) else .unreachable) =
        verdictOf message := by
  have together : tcpDnsQuery [] socket.chunks = some message := by
    rw [incoming]
    exact tcpDnsQuery_frame short (by simp) stream
  constructor
  · intro same
    rw [← verdict_probeResolver 0 short incoming stream]
    exact same message together 0
  · intro same message' found rttMs
    obtain rfl := Option.some.inj (found.symm.trans together)
    rw [verdict_probeResolver rttMs short incoming stream, same]

end

/-- On a socket with or without streams by these names, the probe gives the verdict of the message, for each message of
so many bytes in a stream whose first chunk has so many. -/
def ProbesRight (output input : Bool) (length first : ℕ) : Prop :=
  ∀ message tail chunk chunks, message.length = length → chunk.length = first →
    (chunk :: chunks).flatten = frame message ++ tail → SameVerdict ⟨output, input, chunk :: chunks⟩

/-- A stream that begins with a message, cut once -/
theorem ProbesRight.cut {output input : Bool} {length first : ℕ} (right : ProbesRight output input length first)
    (short : length < 65536) {message : Wire} (size : message.length = length) :
    (if output = true ∧ input = true then verdictOf (message.take (first - 2)) else .unreachable) =
      verdictOf message := by
  let whole := frame message ++ List.replicate first 0
  have chunk : (whole.take first).length = first := by
    rw [List.length_take, List.length_append, List.length_replicate]
    omega
  have stream : (whole.take first :: [whole.drop first]).flatten = frame message ++ List.replicate first 0 := by
    rw [List.flatten_cons, List.flatten_cons, List.flatten_nil, List.append_nil, List.take_append_drop]
  have same := (sameVerdict_iff (by omega) rfl stream).mp (right message _ _ _ size chunk stream)
  rwa [chunk] at same

/-- A message of any length that the probe cannot take for one of a resolver that is not there -/
theorem exists_reachable (length : ℕ) : ∃ message : Wire, message.length = length ∧ verdictOf message ≠ .unreachable := by
  by_cases headless : length < 12
  · refine ⟨List.replicate length 0, List.length_replicate, ?_⟩
    rw [verdictOf_headless (by rwa [List.length_replicate])]
    exact nofun
  · refine ⟨failedResponse (length - 12), ?_, ?_⟩
    · rw [failedResponse, List.length_append, List.length_replicate]
      change 12 + (length - 12) = length
      omega
    · rw [verdictOf_failedResponse]
      exact nofun

/-- Messages of a length that TCP can carry are put together from any chunks. Without the streams, the probe is right
only of a message that says that the resolver was not reached; with them, it gives the verdict exactly where messages
of the length have no header, or no room for an address and the header is in the first chunk, or the first chunk has
them whole. -/
theorem probe_iff (output input : Bool) (length first : ℕ) :
    (∀ message tail chunks, message.length < 65536 → chunks.flatten = frame message ++ tail →
      tcpDnsQuery [] chunks = some message) ∧
    (∀ message tail chunk chunks, message.length < 65536 → (chunk :: chunks).flatten = frame message ++ tail →
      ¬ (output = true ∧ input = true) →
        (SameVerdict ⟨output, input, chunk :: chunks⟩ ↔ verdictOf message = .unreachable)) ∧
    (length < 65536 → (ProbesRight output input length first ↔
      (output = true ∧ input = true) ∧ (length < 12 ∨ (length < 27 ∧ 14 ≤ first) ∨ length + 2 ≤ first))) := by
  refine ⟨?_, ?_, fun short => ⟨fun right => ?_, ?_⟩⟩
  · intro message tail chunks short stream
    exact tcpDnsQuery_frame short (by simp) stream
  · intro message tail chunk chunks short stream unnamed
    rw [sameVerdict_iff short rfl stream, if_neg unnamed]
    exact eq_comm
  · by_cases named : output = true ∧ input = true
    · refine ⟨named, ?_⟩
      by_contra wrong
      have cut {message : Wire} (size : message.length = length) :
          verdictOf (message.take (first - 2)) = verdictOf message := by
        have same := right.cut short size
        rwa [if_pos named] at same
      by_cases late : 14 ≤ first
      · have healthy := cut (show (healthyResponse (length - 27)).length = length by rw [healthyResponse_length]; omega)
        rw [verdictOf_healthyResponse, verdictOf_healthyResponse_take _ (by omega) (by omega)] at healthy
        contradiction
      · have empty := cut (show (List.replicate length (0 : UInt8)).length = length from List.length_replicate)
        rw [verdictOf_zeros (by omega), verdictOf_headless (by rw [List.length_take]; omega)] at empty
        contradiction
    · exfalso
      obtain ⟨message, size, reachable⟩ := exists_reachable length
      have same := right.cut short size
      rw [if_neg named] at same
      exact reachable same.symm
  · rintro ⟨named, enough⟩ message tail chunk chunks size rfl stream
    rw [sameVerdict_iff (by omega) rfl stream, if_pos named]
    have taken : (message.take (chunk.length - 2)).length = min (chunk.length - 2) message.length := List.length_take
    rcases enough with headless | ⟨small, header⟩ | whole
    · rw [verdictOf_headless (by omega), verdictOf_headless (by omega)]
    · by_cases headless : message.length < 12
      · rw [verdictOf_headless (by omega), verdictOf_headless headless]
      · rw [verdictOf_short (by omega) (by omega), verdictOf_short (by omega) (by omega), octet_take (by omega)]
    · rw [List.take_of_length_le (by omega)]

/-- The first answer for `a`, by a pointer, behind its length -/
def Sample.stream : Wire := frame Sample.pointed

theorem probe_first_chunk : tcpDnsQuery [] [Sample.stream.take 1, Sample.stream.drop 1] = some Sample.pointed ∧
    ProbesRight true true 35 37 ∧ ¬ ProbesRight false false 35 37 ∧
    (SameVerdict (.ofPlatform [Sample.stream]) ↔ verdictOf Sample.pointed = .unreachable) := by
  refine ⟨(probe_iff true true 35 37).1 Sample.pointed [] _ (by decide) rfl, ?_, ?_, ?_⟩
  · exact ((probe_iff true true 35 37).2.2 (by decide)).mpr (by decide)
  · exact fun right => absurd ((probe_iff false false 35 37).2.2 (by decide) |>.mp right).1 (by decide)
  · exact (probe_iff false false 35 37).2.1 Sample.pointed [] Sample.stream [] (by decide) rfl (by decide)

/-- On a socket of the platform, no resolver is reached, whatever it answers. Where the streams are there, a length
that comes alone makes a resolver wrong, though the message says otherwise. -/
theorem split_length_misjudged : ¬ SameVerdict (.ofPlatform [frame (healthyResponse 0)]) ∧
    ¬ SameVerdict ⟨true, true, [(frame (healthyResponse 0)).take 2, (frame (healthyResponse 0)).drop 2]⟩ := by
  have whole : tcpDnsQuery [] [frame (healthyResponse 0)] = some (healthyResponse 0) := by decide
  have together : tcpDnsQuery [] [(frame (healthyResponse 0)).take 2, (frame (healthyResponse 0)).drop 2] =
      some (healthyResponse 0) := by
    decide
  have probed : (probeResolver 0
      ⟨true, true, [(frame (healthyResponse 0)).take 2, (frame (healthyResponse 0)).drop 2]⟩).verdict = .wrong := by
    decide +kernel
  constructor
  · intro same
    have verdict := same (healthyResponse 0) whole 0
    rw [verdictOf_healthyResponse] at verdict
    cases verdict
  · intro same
    have verdict := (same _ together 0).symm.trans probed
    rw [verdictOf_healthyResponse] at verdict
    contradiction

end OmniControlPlane.DnsCenter
