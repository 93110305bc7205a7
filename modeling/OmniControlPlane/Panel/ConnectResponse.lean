import OmniControlPlane.Lib.Utf8
import OmniControlPlane.Panel.Handshake

/-! # The response to CONNECT

`httpConnect` reads whole chunks until the decoded text has an empty line. The chunk that completes the
head is consumed with everything behind the head, so the tunnel is whole exactly when the head ends at
the end of a chunk. The status is read from the text, and the tunnel's bytes cannot change it.
-/

namespace OmniControlPlane.Panel

open Lib JavaScript

/-! ## Heads -/

/-- The bytes of an empty line behind another one. -/
def blank : List UInt8 := [13, 10, 13, 10]

theorem latin1_blank : latin1 blank = crlf ++ crlf := by decide +kernel

theorem includes_blank_iff (bytes : List UInt8) : crlf ++ crlf <:+: (decodeUtf8 bytes).toList ↔ blank <:+: bytes := by
  rw [← latin1_blank]
  exact latin1_infix_decodeUtf8 (by decide) (by decide) bytes

/-- A response head: the version, a status of three digits, and what follows up to the first empty line. -/
structure ResponseHead where
  version : String
  version_ascii : Ascii version
  version_word : ' ' ∉ version.toList
  status : ℕ
  status_digits : 100 ≤ status ∧ status ≤ 999
  rest : List UInt8
  ends : blank <:+ utf8 (version ++ " " ++ toString status ++ " ") ++ rest
  first : ¬ blank <:+: (utf8 (version ++ " " ++ toString status ++ " ") ++ rest).dropLast

namespace ResponseHead

def line (head : ResponseHead) : String := head.version ++ " " ++ toString head.status ++ " "

def bytes (head : ResponseHead) : List UInt8 := utf8 head.line ++ head.rest

theorem bytes_nonempty (head : ResponseHead) : 0 < head.bytes.length := by
  obtain ⟨front, whole⟩ := head.ends
  have size := congrArg List.length whole
  rw [List.length_append] at size
  change front.length + 4 = head.bytes.length at size
  omega

/-- No shorter part of the head has the empty line. -/
theorem blank_absent (head : ResponseHead) {buf more : List UInt8} (split : head.bytes = buf ++ more) (left : more ≠ []) :
    ¬ blank <:+: buf := by
  intro found
  apply head.first
  change blank <:+: head.bytes.dropLast
  rw [split, List.dropLast_append_of_ne_nil left]
  exact found.trans (List.prefix_append _ _).isInfix

theorem decode_line (text : String) (rest : List UInt8) :
    decodeUtf8From {} (utf8 text ++ rest) = text.toList ++ decodeUtf8From {} rest := by
  rw [utf8]
  induction text.toList with
  | nil => rfl
  | cons char chars ih => rw [List.flatMap_cons, List.append_assoc, decodeUtf8From_utf8EncodeChar, ih, List.cons_append]

/-- The status is read from the head, whatever follows it in the same chunk. -/
theorem statusOf_head (head : ResponseHead) (extra : List UInt8) :
    statusOf (decodeUtf8 (head.bytes ++ extra)) = .finite head.status := by
  have digits : (toString head.status).toList = Nat.toDigits 10 head.status := by
    rw [Nat.toString_eq_ofList_toDigits, String.toList_ofList]
  have decimal : ∀ char ∈ (toString head.status).toList, char.isDigit = true := by
    intro char found
    rw [digits] at found
    exact Nat.isDigit_of_mem_toDigits (by decide) (by decide) found
  have written : (toString head.status).toList ≠ [] := by
    rw [digits]
    exact Nat.toDigits_ne_nil
  have line : head.line.toList = head.version.toList ++ ' ' :: ((toString head.status).toList ++ [' ']) := by
    simp [ResponseHead.line]
  have decoded : decodeUtf8From {} (head.bytes ++ extra) =
      head.version.toList ++ ' ' :: ((toString head.status).toList ++ ' ' :: decodeUtf8From {} (head.rest ++ extra)) := by
    rw [bytes, List.append_assoc, decode_line, line]
    simp
  have unmarked : ∀ char ∈ (decodeUtf8From {} (head.bytes ++ extra)).head?, char.toNat ≠ 0xFEFF := by
    intro char found mark
    rw [decoded] at found
    cases letters : head.version.toList with
    | nil =>
      rw [letters] at found
      obtain rfl : ' ' = char := Option.some.inj found
      exact absurd mark (by decide)
    | cons letter letters' =>
      rw [letters] at found
      obtain rfl : letter = char := Option.some.inj found
      have ascii := head.version_ascii letter (by rw [letters]; exact List.mem_cons_self)
      omega
  have text : (decodeUtf8 (head.bytes ++ extra)).toList = decodeUtf8From {} (head.bytes ++ extra) := by
    rw [decodeUtf8]
    split
    · next empty =>
      rw [empty]
      rfl
    · next first rest shape =>
      rw [if_neg (unmarked first (by rw [shape]; rfl)), String.toList_ofList, shape]
  have spaceless : ' ' ∉ (toString head.status).toList := by
    intro found
    exact (digit_facts (decimal ' ' found)).2 ' ' (by simp) rfl
  have value : numberOfString (toString head.status) = .finite head.status := by
    have number := numberOfString_digits written decimal
    rw [String.ofList_toList] at number
    have small := head.status_digits.2
    rw [number, digits, Nat.ofDigitChars_ten_toDigits, double_natCast (by omega)]
  rw [statusOf, text, decoded, List.splitOn_append_cons_self_of_not_mem head.version_word,
    List.splitOn_append_cons_self_of_not_mem spaceless]
  change numberOfString (String.ofList (toString head.status).toList) = _
  rw [String.ofList_toList, value]

end ResponseHead

/-! ## The loop -/

theorem boundary_behind {value : List UInt8} {chunks : List (List UInt8)} {position : ℕ} (later : value.length ≤ position) :
    Boundary (value :: chunks) position ↔ Boundary chunks (position - value.length) := by
  have shifted : Boundary ([value] ++ chunks) ([value].flatten.length + (position - value.length)) ↔
    Boundary chunks (position - value.length) := boundary_append
  rwa [List.flatten_singleton, List.singleton_append, Nat.add_sub_cancel' later] at shifted

theorem readHead_of_included {buf : List UInt8} (found : blank <:+: buf) (chunks : List (List UInt8)) :
    readHead buf chunks = some (buf, chunks) := by
  rw [readHead.eq_def, if_pos ((includes_blank_iff buf).mpr found)]

/-- The loop ends with the head and what its last chunk has behind it, which is nothing exactly when the
head ends at the end of a chunk. -/
theorem readHead_finds (head : ResponseHead) (tunnel : List UInt8) (chunks : List (List UInt8)) (buf : List UInt8)
    (stream : buf ++ chunks.flatten = head.bytes ++ tunnel) (short : buf.length < head.bytes.length) :
    ∃ extra rest, readHead buf chunks = some (head.bytes ++ extra, rest) ∧ tunnel = extra ++ rest.flatten ∧
      (extra = [] ↔ Boundary chunks (head.bytes.length - buf.length)) := by
  induction chunks generalizing buf with
  | nil =>
    have size := congrArg List.length stream
    rw [List.flatten_nil, List.append_nil, List.length_append] at size
    omega
  | cons value chunks ih =>
    have begun : ∃ more, head.bytes = buf ++ more := by
      have front := List.append_eq_append_iff.mp stream
      rcases front with ⟨more, whole, -⟩ | ⟨more, whole, -⟩
      · exact ⟨more, whole⟩
      · have size := congrArg List.length whole
        rw [List.length_append] at size
        omega
    obtain ⟨more, split⟩ := begun
    have left : more ≠ [] := by
      rintro rfl
      rw [split, List.append_nil] at short
      omega
    have waits : readHead buf (value :: chunks) = readHead (buf ++ value) chunks := by
      rw [readHead.eq_def, if_neg fun found => head.blank_absent split left ((includes_blank_iff buf).mp found)]
    rw [List.flatten_cons, ← List.append_assoc] at stream
    rw [waits]
    by_cases again : (buf ++ value).length < head.bytes.length
    · obtain ⟨extra, rest, found, tail, ends⟩ := ih (buf ++ value) stream again
      rw [List.length_append] at again ends
      refine ⟨extra, rest, found, tail, ?_⟩
      rw [ends, boundary_behind (by omega), Nat.sub_sub]
    · obtain ⟨extra, whole⟩ : ∃ extra, buf ++ value = head.bytes ++ extra := by
        rcases List.append_eq_append_iff.mp stream with ⟨extra, whole, -⟩ | ⟨extra, whole, -⟩
        · have size := congrArg List.length whole
          rw [List.length_append] at size
          obtain rfl : extra = [] := List.eq_nil_of_length_eq_zero (by omega)
          exact ⟨[], by rw [whole, List.append_nil, List.append_nil]⟩
        · exact ⟨extra, whole⟩
      have found : blank <:+: head.bytes ++ extra := head.ends.isInfix.trans (List.prefix_append _ _).isInfix
      rw [whole, List.append_assoc] at stream
      refine ⟨extra, chunks, ?_, (List.append_cancel_left stream).symm, ?_⟩
      · rw [whole, readHead_of_included found]
      · have size := congrArg List.length whole
        rw [List.length_append, List.length_append] at size
        rw [List.length_append] at again
        constructor
        · rintro rfl
          rw [List.length_nil] at size
          exact ⟨[value], chunks, rfl, by rw [List.flatten_singleton]; omega⟩
        · intro ends
          obtain ⟨fits, -⟩ := boundary_cons ends (by omega)
          exact List.eq_nil_of_length_eq_zero (by omega)

/-! ## The handshake -/

/-- The login can be written: no user, or no character of the user and the password above a byte. -/
def LoginSendable (p : ProxySpec) : Prop :=
  p.hasUser → ∀ char ∈ ((p.user.getD "") ++ ":" ++ p.pass).toList, char.toNat < 256

instance (p : ProxySpec) : Decidable (LoginSendable p) := inferInstanceAs (Decidable (_ → _))

theorem proxyAuthorization_run (p : ProxySpec) (socket : Relay) :
    if LoginSendable p then ∃ auth, proxyAuthorization p socket = (.ok auth, socket)
    else ∃ reason, proxyAuthorization p socket = (.error reason, socket) := by
  have bytes : (((p.user.getD "") ++ ":" ++ p.pass).toList.all (·.toNat < 256)) = true ↔
      ∀ char ∈ ((p.user.getD "") ++ ":" ++ p.pass).toList, char.toNat < 256 := by
    simp only [List.all_eq_true, decide_eq_true_eq]
  rw [proxyAuthorization]
  by_cases user : p.hasUser
  · rw [if_pos user]
    by_cases small : ∀ char ∈ ((p.user.getD "") ++ ":" ++ p.pass).toList, char.toNat < 256
    · have sendable : LoginSendable p := fun _ => small
      rw [if_pos sendable, btoaText, if_pos (bytes.mpr small)]
      exact ⟨_, rfl⟩
    · have unsendable : ¬ LoginSendable p := fun all => small (all user)
      rw [if_neg unsendable, btoaText, if_neg fun all => small (bytes.mp all)]
      exact ⟨_, rfl⟩
  · have sendable : LoginSendable p := fun named => absurd named user
    rw [if_neg user, if_pos sendable]
    exact ⟨_, rfl⟩

/-- A response with status 200 leaves exactly the bytes behind its head; any other one is an error. -/
def Lossless (p : ProxySpec) (destHost : String) (destPort : ℕ) (head : ResponseHead) (tunnel : List UInt8)
    (socket : Relay) : Prop :=
  if head.status = 200 then Connected (httpConnect p destHost destPort socket) tunnel
  else Throws (httpConnect p destHost destPort socket)

theorem httpConnect_lossless_iff (p : ProxySpec) (destHost : String) (destPort : ℕ) (head : ResponseHead)
    (tunnel : List UInt8) (socket : Relay) (stream : socket.readable.flatten = head.bytes ++ tunnel) :
    Lossless p destHost destPort head tunnel socket ↔
      (head.status = 200 → LoginSendable p ∧ Boundary socket.readable head.bytes.length) := by
  have login := proxyAuthorization_run p socket
  rw [Lossless]
  by_cases sendable : LoginSendable p
  · rw [if_pos sendable] at login
    obtain ⟨auth, login⟩ := login
    obtain ⟨extra, rest, read, tail, ends⟩ := readHead_finds head tunnel socket.readable [] stream head.bytes_nonempty
    have found : Dialog.readHead { socket with written := socket.written ++ [utf8 (connectRequest destHost destPort auth)] } =
        (.ok (head.bytes ++ extra), ⟨rest, socket.written ++ [utf8 (connectRequest destHost destPort auth)]⟩) := by
      rw [Dialog.readHead, read]
    have run : httpConnect p destHost destPort socket =
        (if head.status = 200 then .ok () else .error (.error ("http CONNECT failed: " ++ statusText (.finite head.status))),
          ⟨rest, socket.written ++ [utf8 (connectRequest destHost destPort auth)]⟩) := by
      have same : JsNumber.finite (head.status : ℚ) ≠ .finite 200 ↔ ¬ head.status = 200 := by
        rw [not_iff_not, JsNumber.finite.injEq]
        norm_cast
      rw [httpConnect, dialog_ok login, dialog_ok (x := Dialog.write _) rfl, dialog_ok found, head.statusOf_head]
      by_cases success : head.status = 200
      · rw [if_neg (same.not.mpr (not_not.mpr success)), if_pos success]
        rfl
      · rw [if_pos (same.mpr success), if_neg success]
        rfl
    rw [List.length_nil, Nat.sub_zero] at ends
    rw [run]
    split
    · next success =>
      rw [← ends, Connected, tail]
      constructor
      · rintro ⟨-, kept⟩
        change rest.flatten = extra ++ rest.flatten at kept
        have size := congrArg List.length kept
        rw [List.length_append] at size
        exact fun _ => ⟨sendable, List.eq_nil_of_length_eq_zero (by omega)⟩
      · intro whole
        rw [(whole success).2]
        exact ⟨rfl, rfl⟩
    · next failure =>
      exact iff_of_true ⟨_, rfl⟩ fun success => absurd success failure
  · rw [if_neg sendable] at login
    obtain ⟨reason, login⟩ := login
    rw [httpConnect, dialog_error login]
    split
    · next success =>
      refine iff_of_false ?_ fun whole => sendable (whole success).1
      rintro ⟨returned, -⟩
      contradiction
    · next failure =>
      exact iff_of_true ⟨reason, rfl⟩ fun success => absurd success failure

/-- `HTTP/1.1 200 OK` and no header. -/
def ResponseHead.sample : ResponseHead where
  version := "HTTP/1.1"
  version_ascii := by decide
  version_word := by decide
  status := 200
  status_digits := by decide
  rest := [79, 75, 13, 10, 13, 10]
  ends := by decide +kernel
  first := by decide +kernel

theorem httpConnect_lossless_iff_sample :
    ([ResponseHead.sample.bytes, [22, 3, 3]] : List (List UInt8)).flatten = ResponseHead.sample.bytes ++ [22, 3, 3] ∧
      (Lossless .sample "example.com" 443 .sample [22, 3, 3] { readable := [ResponseHead.sample.bytes, [22, 3, 3]] } ↔
        (ResponseHead.sample.status = 200 → LoginSendable .sample ∧
          Boundary [ResponseHead.sample.bytes, [22, 3, 3]] ResponseHead.sample.bytes.length)) :=
  ⟨rfl, httpConnect_lossless_iff .sample "example.com" 443 .sample [22, 3, 3]
    { readable := [ResponseHead.sample.bytes, [22, 3, 3]] } rfl⟩

/-- A first tunnel byte in the chunk of the head is lost. -/
theorem tunnel_byte_lost :
    ([ResponseHead.sample.bytes ++ [22], [3, 3]] : List (List UInt8)).flatten = ResponseHead.sample.bytes ++ [22, 3, 3] ∧
      (httpConnect .sample "example.com" 443 { readable := [ResponseHead.sample.bytes ++ [22], [3, 3]] }).1 = .ok () ∧
      (httpConnect .sample "example.com" 443 { readable := [ResponseHead.sample.bytes ++ [22], [3, 3]] }).2.readable =
        [[3, 3]] ∧
      ¬ Lossless .sample "example.com" 443 .sample [22, 3, 3]
        { readable := [ResponseHead.sample.bytes ++ [22], [3, 3]] } := by
  have left : (httpConnect .sample "example.com" 443 { readable := [ResponseHead.sample.bytes ++ [22], [3, 3]] }).2.readable =
      [[3, 3]] := by decide +kernel
  refine ⟨by decide +kernel, by decide +kernel, left, ?_⟩
  rw [Lossless, if_pos (show ResponseHead.sample.status = 200 from rfl)]
  rintro ⟨-, kept⟩
  rw [left] at kept
  exact absurd kept (by decide)

end OmniControlPlane.Panel
