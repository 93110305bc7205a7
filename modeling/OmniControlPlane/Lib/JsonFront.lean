import OmniControlPlane.Lib.Json

/-! # The front of a JSON text

What has been read of a text is read in the same way when more text follows, unless it is a number that goes on. No
object's text goes on behind its brace.
-/

namespace OmniControlPlane.Lib.Json

section

variable {text rest : List Char} {char : Char}

theorem skip_append (found : skip text = char :: rest) (more : List Char) : skip (text ++ more) = char :: (rest ++ more) := by
  rw [skip] at found ⊢
  rw [List.dropWhile_append, found]
  rfl

theorem eq_ofNat {char : Char} {code : ℕ} (same : char.toNat = code) : char = Char.ofNat code := by
  rw [← same, Char.ofNat_toNat]

theorem readUnits_append {units : List UInt16} (read : readUnits text = some (units, rest)) (more : List Char) :
    readUnits (text ++ more) = some (units, rest ++ more) := by
  induction text using readUnits.induct generalizing units rest with
  | case1 => cases read
  | case2 char after quoted =>
    obtain rfl := eq_ofNat quoted
    change readUnits (quote :: after) = _ at read
    rw [readUnits_quote after] at read
    obtain ⟨rfl, rfl⟩ := Prod.mk.inj (Option.some.inj read)
    exact readUnits_quote _
  | case3 char noQuote slash a b c d after unit units' rest' later known ih =>
    obtain rfl := eq_ofNat slash
    rw [readUnits_hex known later] at read
    obtain ⟨rfl, rfl⟩ := Prod.mk.inj (Option.some.inj read)
    exact readUnits_hex known (ih later)
  | case4 char noQuote slash a b c d after unread ih =>
    obtain rfl := eq_ofNat slash
    rw [readUnits.eq_def] at read
    cases known : hexUnit? a b c d with
    | none => simp [known] at read
    | some unit =>
      cases later : readUnits after with
      | none => simp [known, later] at read
      | some found => exact (unread unit found.1 found.2 known later).elim
  | case5 char noQuote slash escape after noHex unit units' rest' later known ih =>
    obtain rfl := eq_ofNat slash
    have other : escape ≠ 'u' := by
      rintro rfl
      cases known
    rw [readUnits_escape other known later] at read
    obtain ⟨rfl, rfl⟩ := Prod.mk.inj (Option.some.inj read)
    exact readUnits_escape other known (ih later)
  | case6 char noQuote slash escape after noHex unread ih =>
    rw [readUnits.eq_def] at read
    dsimp only at read
    rw [if_neg noQuote, if_pos slash] at read
    split at read
    · next a b c d after' same =>
      obtain ⟨rfl, rfl⟩ := List.cons.inj same
      exact (noHex _ _ _ _ _ rfl rfl).elim
    · next escape' after' _ same =>
      obtain ⟨rfl, rfl⟩ := List.cons.inj same
      split at read
      · next unit units' rest' known later => exact (unread _ _ _ known later).elim
      · cases read
    · contradiction
  | case7 char noQuote slash =>
    rw [readUnits.eq_def] at read
    dsimp only at read
    rw [if_neg noQuote, if_pos slash] at read
    cases read
  | case8 char after noQuote noSlash control =>
    rw [readUnits.eq_def] at read
    dsimp only at read
    rw [if_neg noQuote, if_neg noSlash, if_pos control] at read
    cases read
  | case9 char after noQuote noSlash printed units' rest' later ih =>
    rw [readUnits_plain noQuote noSlash printed later] at read
    obtain ⟨rfl, rfl⟩ := Prod.mk.inj (Option.some.inj read)
    exact readUnits_plain noQuote noSlash printed (ih later)
  | case10 char after noQuote noSlash printed unread ih =>
    rw [readUnits.eq_def] at read
    dsimp only at read
    rw [if_neg noQuote, if_neg noSlash, if_neg printed, unread] at read
    cases read

theorem readString_append {value : String} (read : readString text = some (value, rest)) (more : List Char) :
    readString (text ++ more) = some (value, rest ++ more) := by
  obtain ⟨⟨units, after⟩, found, made⟩ := Option.map_eq_some_iff.mp read
  obtain ⟨rfl, rfl⟩ := Prod.mk.inj made
  rw [readString, readUnits_append found]
  rfl

theorem number_head {token : List Char} {value : Json} (read : readNumber token = some value) :
    ∃ char tail, token = char :: tail ∧ (char = '-' ∨ char.isDigit = true) := by
  rw [readNumber] at read
  by_cases signed : token.head? = some '-'
  · exact ⟨'-', token.tail, List.eq_cons_of_mem_head? signed, .inl rfl⟩
  · simp only [signed, if_false, Bool.false_eq_true] at read
    split at read
    · next whole =>
      obtain ⟨char, tail, rfl⟩ := List.exists_cons_of_ne_nil (show token ≠ [] by rintro rfl; contradiction)
      rw [isWhole, Bool.and_eq_true, Bool.and_eq_true, List.all_cons, Bool.and_eq_true] at whole
      exact ⟨char, tail, rfl, .inr whole.1.2.1⟩
    · split at read
      · next isDecimal =>
        obtain ⟨char, rest, split, digit⟩ := whole_head (Bool.and_eq_true_iff.mp isDecimal).1
        exact ⟨char, rest, split, .inr digit⟩
      · contradiction

/-- A number is read in the same way only if it does not go on. -/
theorem readScalar_append {value : Json} (read : readScalar text = some (value, rest)) (goesOn : rest ≠ [])
    (more : List Char) : readScalar (text ++ more) = some (value, rest ++ more) := by
  have word {word : List Char} (found : word <+: text) : word <+: text ++ more := found.trans (List.prefix_append _ _)
  have other {left right : List Char} (found : right <+: text) (apart : ¬ left <+: right ∧ ¬ right <+: left) :
      ¬ left <+: text ++ more := fun front =>
    (List.prefix_or_prefix_of_prefix front (word found)).elim apart.1 apart.2
  have drop {word : List Char} (found : word <+: text) : (text ++ more).drop word.length = text.drop word.length ++ more :=
    List.drop_append_of_le_length found.length_le
  rw [readScalar] at read ⊢
  split at read
  · next found =>
    obtain ⟨rfl, rfl⟩ := Prod.mk.inj (Option.some.inj read)
    rw [if_pos (word found), show (text ++ more).drop 4 = text.drop 4 ++ more from drop found]
  split at read
  · next noNull found =>
    obtain ⟨rfl, rfl⟩ := Prod.mk.inj (Option.some.inj read)
    rw [if_neg (other found (by decide)), if_pos (word found), show (text ++ more).drop 4 = text.drop 4 ++ more from drop found]
  split at read
  · next noNull noTrue found =>
    obtain ⟨rfl, rfl⟩ := Prod.mk.inj (Option.some.inj read)
    rw [if_neg (other found (by decide)), if_neg (other found (by decide)), if_pos (word found),
      show (text ++ more).drop 5 = text.drop 5 ++ more from drop found]
  · obtain ⟨number, token, made⟩ := Option.map_eq_some_iff.mp read
    obtain ⟨rfl, rfl⟩ := Prod.mk.inj made
    obtain ⟨next, after, ends⟩ := List.exists_cons_of_ne_nil goesOn
    have stops : Stops (text.dropWhile isNumberChar ++ more) := by
      intro char head
      have stop := List.head?_dropWhile_not isNumberChar text
      rw [ends] at head stop
      obtain rfl := Option.some.inj head
      exact stop
    have whole : text ++ more = text.takeWhile isNumberChar ++ (text.dropWhile isNumberChar ++ more) := by
      rw [← List.append_assoc, List.takeWhile_append_dropWhile]
    have number' : ∀ char ∈ text.takeWhile isNumberChar, isNumberChar char = true :=
      fun char member => List.mem_takeWhile_imp member
    have scalar := readScalar_number (number_head token) number' token stops
    rw [← whole, readScalar] at scalar
    exact scalar

theorem readScalar_ne_object {fields : List (String × Json)} : readScalar text ≠ some (object fields, rest) := by
  intro read
  rw [readScalar] at read
  split at read
  · cases read
  split at read
  · cases read
  split at read
  · cases read
  · obtain ⟨number, token, made⟩ := Option.map_eq_some_iff.mp read
    obtain ⟨rfl, -⟩ := Prod.mk.inj made
    have shape : ∀ (digits : List Char) (negative : Bool), (if isWhole digits then
        some (number (if negative then -Nat.ofDigitChars 10 digits 0 else Nat.ofDigitChars 10 digits 0))
        else if isDecimal digits then some (decimal (text.takeWhile isNumberChar)) else none) ≠ some (object fields) := by
      intro digits negative token
      split at token
      · exact Json.noConfusion (Option.some.inj token)
      · split at token
        · exact Json.noConfusion (Option.some.inj token)
        · contradiction
    exact shape _ _ token

theorem readValue_empty (blank : skip text = []) (fuel : ℕ) : readValue fuel text = none := by
  cases fuel with
  | zero => rfl
  | succ fuel =>
    rw [readValue.eq_def]
    dsimp only
    rw [blank]

theorem readItems_empty (blank : skip text = []) (fuel : ℕ) : readItems fuel text = none := by
  cases fuel with
  | zero => rfl
  | succ fuel => rw [readItems, readValue_empty blank]

theorem readFields_empty (blank : skip text = []) (fuel : ℕ) : readFields fuel text = none := by
  cases fuel with
  | zero => rfl
  | succ fuel => rw [readFields, blank]

/-- More fuel and more text make no difference for what has been read. -/
theorem read_append (fuel : ℕ) :
    (∀ text value rest, readValue fuel text = some (value, rest) → (rest ≠ [] ∨ ∃ fields, value = object fields) →
      ∀ more fuel', fuel ≤ fuel' → readValue fuel' (text ++ more) = some (value, rest ++ more)) ∧
    (∀ text items rest, readItems fuel text = some (items, rest) →
      ∀ more fuel', fuel ≤ fuel' → readItems fuel' (text ++ more) = some (items, rest ++ more)) ∧
    ∀ text fields rest, readFields fuel text = some (fields, rest) →
      ∀ more fuel', fuel ≤ fuel' → readFields fuel' (text ++ more) = some (fields, rest ++ more) := by
  induction fuel with
  | zero =>
    refine ⟨?_, ?_, ?_⟩
    · intro text value rest read
      cases read
    · intro text items rest read
      cases read
    · intro text fields rest read
      cases read
  | succ fuel ih =>
    obtain ⟨values, items, fields⟩ := ih
    refine ⟨?_, ?_, ?_⟩
    · intro text value rest read ends more fuel' enough
      obtain ⟨fuel', rfl⟩ := Nat.exists_eq_add_one_of_ne_zero (by omega : fuel' ≠ 0)
      rw [readValue.eq_def] at read ⊢
      dsimp only at read ⊢
      cases found : skip text with
      | nil => rw [found] at read; cases read
      | cons char after =>
        rw [skip_append found]
        rw [found] at read
        dsimp only at read ⊢
        by_cases quoted : char = quote
        · rw [if_pos quoted] at read ⊢
          obtain ⟨⟨string, rest'⟩, later, made⟩ := Option.map_eq_some_iff.mp read
          obtain ⟨rfl, rfl⟩ := Prod.mk.inj made
          rw [readString_append later]
          rfl
        rw [if_neg quoted] at read ⊢
        by_cases bracket : char = '['
        · rw [if_pos bracket] at read ⊢
          cases inner : skip after with
          | nil =>
            simp only [inner, List.head?_nil, reduceCtorEq, if_false] at read
            rw [readItems_empty inner] at read
            cases read
          | cons next after' =>
            rw [skip_append inner]
            rw [inner] at read
            dsimp only [List.head?_cons, List.tail_cons] at read ⊢
            by_cases closed : next = ']'
            · have ends' : some next = some ']' := congrArg some closed
              simp only [ends', if_true] at read ⊢
              obtain ⟨rfl, rfl⟩ := Prod.mk.inj (Option.some.inj read)
              rfl
            · have goes : some next ≠ some ']' := fun same => closed (Option.some.inj same)
              simp only [goes, if_false] at read ⊢
              obtain ⟨⟨inside, rest'⟩, later, made⟩ := Option.map_eq_some_iff.mp read
              obtain ⟨rfl, rfl⟩ := Prod.mk.inj made
              rw [items _ _ _ later more fuel' (by omega)]
              rfl
        rw [if_neg bracket] at read ⊢
        by_cases brace : char = openBrace
        · rw [if_pos brace] at read ⊢
          cases inner : skip after with
          | nil =>
            simp only [inner, List.head?_nil, reduceCtorEq, if_false] at read
            rw [readFields_empty inner] at read
            cases read
          | cons next after' =>
            rw [skip_append inner]
            rw [inner] at read
            dsimp only [List.head?_cons, List.tail_cons] at read ⊢
            by_cases closed : next = closeBrace
            · have ends' : some next = some closeBrace := congrArg some closed
              simp only [ends', if_true] at read ⊢
              obtain ⟨rfl, rfl⟩ := Prod.mk.inj (Option.some.inj read)
              rfl
            · have goes : some next ≠ some closeBrace := fun same => closed (Option.some.inj same)
              simp only [goes, if_false] at read ⊢
              obtain ⟨⟨inside, rest'⟩, later, made⟩ := Option.map_eq_some_iff.mp read
              obtain ⟨rfl, rfl⟩ := Prod.mk.inj made
              rw [fields _ _ _ later more fuel' (by omega)]
              rfl
        rw [if_neg brace] at read ⊢
        rcases ends with goesOn | ⟨fields', rfl⟩
        · exact readScalar_append read goesOn more
        · exact absurd read readScalar_ne_object
    · intro text items' rest read more fuel' enough
      obtain ⟨fuel', rfl⟩ := Nat.exists_eq_add_one_of_ne_zero (by omega : fuel' ≠ 0)
      rw [readItems] at read ⊢
      split at read
      · cases read
      · next item after later =>
        split at read
        · cases read
        · next char after' found =>
          have goesOn : after ≠ [] := by
            rintro rfl
            cases found
          rw [values _ _ _ later (.inl goesOn) more fuel' (by omega)]
          dsimp only
          rw [skip_append found]
          dsimp only
          split at read
          · next comma =>
            obtain ⟨⟨items'', rest'⟩, others, made⟩ := Option.map_eq_some_iff.mp read
            obtain ⟨rfl, rfl⟩ := Prod.mk.inj made
            rw [if_pos comma, items _ _ _ others more fuel' (by omega)]
            rfl
          · next noComma =>
            rw [if_neg noComma]
            split at read
            · next closed =>
              obtain ⟨rfl, rfl⟩ := Prod.mk.inj (Option.some.inj read)
              rw [if_pos closed]
            · cases read
    · intro text fields' rest read more fuel' enough
      obtain ⟨fuel', rfl⟩ := Nat.exists_eq_add_one_of_ne_zero (by omega : fuel' ≠ 0)
      rw [readFields] at read ⊢
      split at read
      · cases read
      · next char after found =>
        rw [skip_append found]
        dsimp only
        split at read
        · next quoted =>
          rw [if_pos quoted]
          split at read
          · cases read
          · next key after₁ named =>
            rw [readString_append named]
            dsimp only
            split at read
            · cases read
            · next char₂ after₂ found₂ =>
              rw [skip_append found₂]
              dsimp only
              split at read
              · next colon =>
                rw [if_pos colon]
                split at read
                · cases read
                · next value after₃ later =>
                  split at read
                  · cases read
                  · next char₄ after₄ found₄ =>
                    have goesOn : after₃ ≠ [] := by
                      rintro rfl
                      cases found₄
                    rw [values _ _ _ later (.inl goesOn) more fuel' (by omega)]
                    dsimp only
                    rw [skip_append found₄]
                    dsimp only
                    split at read
                    · next comma =>
                      obtain ⟨⟨fields'', rest'⟩, others, made⟩ := Option.map_eq_some_iff.mp read
                      obtain ⟨rfl, rfl⟩ := Prod.mk.inj made
                      rw [if_pos comma, fields _ _ _ others more fuel' (by omega)]
                      rfl
                    · next noComma =>
                      rw [if_neg noComma]
                      split at read
                      · next closed =>
                        obtain ⟨rfl, rfl⟩ := Prod.mk.inj (Option.some.inj read)
                        rw [if_pos closed]
                      · cases read
              · cases read
        · cases read

/-- The text of an object is read as another one only with white space behind it. -/
theorem parse_front {fields : List (String × Json)} {value : Json} {more : List Char}
    (front : parse text = some (object fields)) (whole : parse (text ++ more) = some value) : skip more = [] := by
  rw [parse] at front whole
  split at front
  · next value' rest read =>
    split at front
    · next blank =>
      obtain rfl := Option.some.inj front
      have enough : 2 * text.length + 2 ≤ 2 * (text ++ more).length + 2 := by
        rw [List.length_append]
        omega
      rw [(read_append _).1 _ _ _ read (.inr ⟨fields, rfl⟩) more _ enough] at whole
      dsimp only at whole
      split at whole
      · next blanks =>
        rw [skip, List.dropWhile_eq_nil_iff] at blanks ⊢
        exact fun char member => blanks char (List.mem_append_right _ member)
      · cases whole
    · cases front
  · cases front

end

end OmniControlPlane.Lib.Json
