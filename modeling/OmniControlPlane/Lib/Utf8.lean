import OmniControlPlane.Lib.Text

/-! # ASCII bytes in a UTF-8 decoder

An ASCII byte always decodes to its own character, whatever stands around it, and a decoder has nothing
pending behind it. So ASCII text is found in decoded text exactly where its bytes are found.
-/

namespace OmniControlPlane.Lib

namespace Utf8State

/-- The bounds of the next byte keep it from being ASCII, and the code point from ending below `0x80`. -/
def Sound (state : Utf8State) : Prop :=
  0x80 ≤ state.lower ∧ state.upper ≤ 0xBF ∧ match state.needed with
    | 0 => True
    | 1 => 2 ≤ state.code
    | 2 => 1 ≤ state.code ∨ 0xA0 ≤ state.lower
    | 3 => 1 ≤ state.code ∨ 0x90 ≤ state.lower
    | _ => False

theorem sound_initial : Sound {} := by
  refine ⟨?_, ?_, trivial⟩
  all_goals decide

end Utf8State

open Utf8State

/-- A decoder's output for a byte that is no ASCII character. -/
def Foreign (char : Char) : Prop := char.toNat = 0 ∨ 0x80 ≤ char.toNat

theorem foreign_replacementChar : Foreign replacementChar := .inr (by decide)

theorem foreign_ofNat {code : ℕ} (large : 0x80 ≤ code) : Foreign (Char.ofNat code) := by
  by_cases valid : code.isValidChar
  · right
    rw [Char.ofNat, dif_pos valid]
    exact large
  · left
    rw [Char.ofNat, dif_neg valid]
    rfl

theorem utf8Lead_ascii {byte : ℕ} (ascii : byte < 0x80) : utf8Lead byte = ([Char.ofNat byte], {}) :=
  if_pos (by omega)

/-- A first byte that is not ASCII gives a replacement character, or begins a sequence. -/
theorem utf8Lead_foreign {byte : ℕ} (foreign : 0x80 ≤ byte) :
    (utf8Lead byte).2.Sound ∧ (∀ char ∈ (utf8Lead byte).1, Foreign char) ∧
      ((utf8Lead byte).1 = [] → (utf8Lead byte).2.needed ≠ 0) := by
  rw [utf8Lead, if_neg (by omega)]
  split
  · refine ⟨⟨Nat.le_refl _, Nat.le_refl _, ?_⟩, by simp, by simp⟩
    change 2 ≤ byte % 0x20
    omega
  split
  · refine ⟨⟨?_, ?_, ?_⟩, by simp, by simp⟩
    · change 0x80 ≤ if byte = 0xE0 then 0xA0 else 0x80
      split <;> omega
    · change (if byte = 0xED then 0x9F else 0xBF) ≤ 0xBF
      split <;> omega
    · change 1 ≤ byte % 0x10 ∨ 0xA0 ≤ if byte = 0xE0 then 0xA0 else 0x80
      split <;> omega
  split
  · refine ⟨⟨?_, ?_, ?_⟩, by simp, by simp⟩
    · change 0x80 ≤ if byte = 0xF0 then 0x90 else 0x80
      split <;> omega
    · change (if byte = 0xF4 then 0x8F else 0xBF) ≤ 0xBF
      split <;> omega
    · change 1 ≤ byte % 0x08 ∨ 0x90 ≤ if byte = 0xF0 then 0x90 else 0x80
      split <;> omega
  · exact ⟨sound_initial, List.forall_mem_singleton.mpr foreign_replacementChar, by simp⟩

/-- An ASCII byte ends what is pending and stands for itself. -/
theorem utf8Step_ascii {state : Utf8State} (sound : state.Sound) {byte : ℕ} (ascii : byte < 0x80) :
    utf8Step state byte = ((if state.needed = 0 then [] else [replacementChar]) ++ [Char.ofNat byte], {}) := by
  obtain ⟨lower, -, -⟩ := sound
  rw [utf8Step]
  cases state.needed with
  | zero => exact utf8Lead_ascii ascii
  | succ needed =>
    dsimp only
    rw [if_neg (by omega), utf8Lead_ascii ascii]
    rfl

theorem utf8Step_foreign {state : Utf8State} (sound : state.Sound) {byte : ℕ} (foreign : 0x80 ≤ byte) :
    (utf8Step state byte).2.Sound ∧ (∀ char ∈ (utf8Step state byte).1, Foreign char) ∧
      ((utf8Step state byte).1 = [] → (utf8Step state byte).2.needed ≠ 0) := by
  obtain ⟨needed, code, lower, upper⟩ := state
  obtain ⟨low, high, pending⟩ := sound
  rw [utf8Step]
  cases needed with
  | zero => exact utf8Lead_foreign foreign
  | succ needed =>
    dsimp only at low high pending ⊢
    split
    · next bounds =>
      have digit : byte % 0x40 = byte - 0x80 := by omega
      split
      · next last =>
        subst last
        refine ⟨sound_initial, List.forall_mem_singleton.mpr (foreign_ofNat ?_), by simp⟩
        change 2 ≤ code at pending
        omega
      · next more =>
        refine ⟨⟨Nat.le_refl _, Nat.le_refl _, ?_⟩, by simp, fun _ => more⟩
        obtain _ | _ | _ | needed := needed
        · exact absurd rfl more
        · change 2 ≤ code * 0x40 + byte % 0x40
          change 1 ≤ code ∨ 0xA0 ≤ lower at pending
          omega
        · change 1 ≤ code * 0x40 + byte % 0x40 ∨ 0xA0 ≤ 0x80
          change 1 ≤ code ∨ 0x90 ≤ lower at pending
          omega
        · exact pending.elim
    · obtain ⟨sound, outputs, -⟩ := utf8Lead_foreign foreign
      exact ⟨sound, List.forall_mem_cons.mpr ⟨foreign_replacementChar, outputs⟩, by simp⟩

/-- An ASCII byte cuts the text in two. -/
theorem decodeUtf8From_ascii {state : Utf8State} (sound : state.Sound) (left : List UInt8) {byte : UInt8}
    (ascii : byte.toNat < 0x80) (right : List UInt8) : decodeUtf8From state (left ++ byte :: right) =
      decodeUtf8From state left ++ Char.ofNat byte.toNat :: decodeUtf8From {} right := by
  induction left generalizing state with
  | nil =>
    rw [List.nil_append]
    change (utf8Step state byte.toNat).1 ++ decodeUtf8From (utf8Step state byte.toNat).2 right = _
    rw [utf8Step_ascii sound ascii, List.append_assoc]
    rfl
  | cons first left ih =>
    rw [List.cons_append, decodeUtf8From, decodeUtf8From]
    dsimp only
    rw [List.append_assoc]
    congr 1
    by_cases single : first.toNat < 0x80
    · rw [utf8Step_ascii sound single]
      exact ih sound_initial
    · exact ih (utf8Step_foreign sound (by omega)).1

private theorem split_behind {out tail before after : List Char} {char : Char} (absent : char ∉ out)
    (same : out ++ tail = before ++ char :: after) : ∃ more, before = out ++ more ∧ tail = more ++ char :: after := by
  rcases List.append_eq_append_iff.mp same with ⟨more, front, back⟩ | ⟨more, front, back⟩
  · exact ⟨more, front, back⟩
  · cases more with
    | nil => exact ⟨[], by rw [front, List.append_nil, List.append_nil], back.symm⟩
    | cons head more =>
      obtain ⟨rfl, -⟩ := List.cons.inj back
      exact absurd (by rw [front]; simp) absent

/-- Every ASCII character but `NUL` comes from its byte. -/
theorem decodeUtf8From_split {state : Utf8State} (sound : state.Sound) {bytes : List UInt8} {before after : List Char}
    {char : Char} (native : ¬ Foreign char) (decoded : decodeUtf8From state bytes = before ++ char :: after) :
    ∃ left byte right, bytes = left ++ byte :: right ∧ byte.toNat = char.toNat ∧
      decodeUtf8From state left = before ∧ decodeUtf8From {} right = after := by
  have pending (state : Utf8State) : char ∉ (if state.needed = 0 then [] else [replacementChar]) := by
    intro inside
    split at inside
    · contradiction
    · exact native (List.mem_singleton.mp inside ▸ foreign_replacementChar)
  induction bytes generalizing state before with
  | nil =>
    rw [decodeUtf8From] at decoded
    exact absurd (by rw [decoded]; simp) (pending state)
  | cons first rest ih =>
    change (utf8Step state first.toNat).1 ++ decodeUtf8From (utf8Step state first.toNat).2 rest = _ at decoded
    by_cases ascii : first.toNat < 0x80
    · rw [utf8Step_ascii sound ascii, List.append_assoc] at decoded
      obtain ⟨more, rfl, own⟩ := split_behind (pending state) decoded
      cases more with
      | nil =>
        obtain ⟨rfl, rfl⟩ := List.cons.inj own
        have valid : first.toNat.isValidChar := .inl (by omega)
        refine ⟨[], first, rest, rfl, ?_, (List.append_nil _).symm, rfl⟩
        rw [Char.ofNat, dif_pos valid]
        rfl
      | cons head more =>
        obtain ⟨rfl, later⟩ := List.cons.inj own
        obtain ⟨left, byte, right, rfl, code, outputs, after⟩ := ih sound_initial later
        refine ⟨first :: left, byte, right, rfl, code, ?_, after⟩
        change (utf8Step state first.toNat).1 ++ decodeUtf8From (utf8Step state first.toNat).2 left = _
        rw [utf8Step_ascii sound ascii, outputs, List.append_assoc]
        rfl
    · obtain ⟨next, outputs, -⟩ := utf8Step_foreign sound (show 0x80 ≤ first.toNat by omega)
      obtain ⟨more, rfl, own⟩ := split_behind (fun inside => native (outputs _ inside)) decoded
      obtain ⟨left, byte, right, rfl, code, later, after⟩ := ih next own
      refine ⟨first :: left, byte, right, rfl, code, ?_, after⟩
      change (utf8Step state first.toNat).1 ++ decodeUtf8From (utf8Step state first.toNat).2 left = _
      rw [later]

/-- Only no bytes decode to no text. -/
theorem decodeUtf8From_eq_nil {state : Utf8State} (sound : state.Sound) {bytes : List UInt8}
    (empty : decodeUtf8From state bytes = []) : state.needed = 0 ∧ bytes = [] := by
  induction bytes generalizing state with
  | nil =>
    rw [decodeUtf8From] at empty
    split at empty
    · next idle => exact ⟨idle, rfl⟩
    · contradiction
  | cons first rest ih =>
    change (utf8Step state first.toNat).1 ++ decodeUtf8From (utf8Step state first.toNat).2 rest = _ at empty
    obtain ⟨output, later⟩ := List.append_eq_nil_iff.mp empty
    by_cases ascii : first.toNat < 0x80
    · rw [utf8Step_ascii sound ascii] at output
      simp at output
    · obtain ⟨next, -, waits⟩ := utf8Step_foreign sound (show 0x80 ≤ first.toNat by omega)
      exact absurd (ih next later).1 (waits output)

/-! ## ASCII text -/

/-- Bytes of ASCII characters without `NUL`. -/
def Native (bytes : List UInt8) : Prop := ∀ byte ∈ bytes, 0 < byte.toNat ∧ byte.toNat < 0x80

instance (bytes : List UInt8) : Decidable (Native bytes) :=
  List.decidableBAll (fun byte : UInt8 => 0 < byte.toNat ∧ byte.toNat < 0x80) bytes

theorem toNat_ofNat_ascii {code : ℕ} (ascii : code < 0x80) : (Char.ofNat code).toNat = code := by
  have valid : code.isValidChar := .inl (by omega)
  rw [Char.ofNat, dif_pos valid]
  rfl

private theorem native_char {byte : UInt8} (native : 0 < byte.toNat ∧ byte.toNat < 0x80) :
    ¬ Foreign (Char.ofNat byte.toNat) := by
  rw [Foreign, toNat_ofNat_ascii native.2]
  omega

theorem decodeUtf8From_latin1 {part : List UInt8} (native : Native part) (rest : List UInt8) :
    decodeUtf8From {} (part ++ rest) = latin1 part ++ decodeUtf8From {} rest := by
  induction part with
  | nil => rfl
  | cons byte part ih =>
    have cut := decodeUtf8From_ascii sound_initial [] (native byte List.mem_cons_self).2 (part ++ rest)
    rw [List.nil_append] at cut
    rw [List.cons_append, cut, ih fun later found => native later (List.mem_cons_of_mem _ found)]
    rfl

theorem decodeUtf8From_starts {part : List UInt8} (native : Native part) {bytes : List UInt8} {after : List Char}
    (decoded : decodeUtf8From {} bytes = latin1 part ++ after) : ∃ rest, bytes = part ++ rest := by
  induction part generalizing bytes with
  | nil => exact ⟨bytes, rfl⟩
  | cons byte part ih =>
    have own := native byte List.mem_cons_self
    have decoded : decodeUtf8From {} bytes = [] ++ Char.ofNat byte.toNat :: (latin1 part ++ after) := decoded
    obtain ⟨left, first, right, rfl, code, before, later⟩ := decodeUtf8From_split sound_initial (native_char own) decoded
    obtain ⟨-, rfl⟩ := decodeUtf8From_eq_nil sound_initial before
    rw [toNat_ofNat_ascii own.2] at code
    obtain rfl : first = byte := UInt8.toNat_inj.mp code
    obtain ⟨rest, rfl⟩ := ih (fun later found => native later (List.mem_cons_of_mem _ found)) later
    exact ⟨rest, rfl⟩

/-- ASCII text is part of decoded text exactly where its bytes are part of the bytes. -/
theorem latin1_infix_iff {part : List UInt8} (native : Native part) (nonempty : part ≠ []) (bytes : List UInt8) :
    latin1 part <:+: decodeUtf8From {} bytes ↔ part <:+: bytes := by
  obtain ⟨first, others, rfl⟩ := List.exists_cons_of_ne_nil nonempty
  have own := native first List.mem_cons_self
  have rest : Native others := fun later found => native later (List.mem_cons_of_mem _ found)
  constructor
  · rintro ⟨before, after, decoded⟩
    rw [List.append_assoc] at decoded
    have decoded : decodeUtf8From {} bytes = before ++ Char.ofNat first.toNat :: (latin1 others ++ after) := decoded.symm
    obtain ⟨left, byte, right, rfl, code, -, later⟩ := decodeUtf8From_split sound_initial (native_char own) decoded
    rw [toNat_ofNat_ascii own.2] at code
    obtain rfl : byte = first := UInt8.toNat_inj.mp code
    obtain ⟨tail, rfl⟩ := decodeUtf8From_starts rest later
    exact ⟨left, tail, by rw [List.append_assoc]; rfl⟩
  · rintro ⟨left, right, rfl⟩
    rw [List.append_assoc, List.cons_append, decodeUtf8From_ascii sound_initial left own.2, decodeUtf8From_latin1 rest]
    exact ⟨decodeUtf8From {} left, decodeUtf8From {} right, by rw [List.append_assoc]; rfl⟩

/-- The same for a decoder that drops a byte order mark. -/
theorem latin1_infix_decodeUtf8 {part : List UInt8} (native : Native part) (nonempty : part ≠ []) (bytes : List UInt8) :
    latin1 part <:+: (decodeUtf8 bytes).toList ↔ part <:+: bytes := by
  rw [← latin1_infix_iff native nonempty bytes, decodeUtf8]
  split
  · next empty =>
    rw [empty]
    rfl
  · next first rest decoded =>
    rw [decoded, String.toList_ofList]
    split
    · next mark =>
      rw [List.infix_cons_iff]
      refine (or_iff_right ?_).symm
      obtain ⟨byte, others, rfl⟩ := List.exists_cons_of_ne_nil nonempty
      rintro ⟨after, shape⟩
      obtain ⟨rfl, -⟩ := List.cons.inj shape
      have own := (native byte List.mem_cons_self).2
      rw [toNat_ofNat_ascii own] at mark
      omega
    · rfl

end OmniControlPlane.Lib
