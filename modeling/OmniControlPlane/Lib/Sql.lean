import OmniControlPlane.Lib.Text

/-! # SQL text

A scanner that tells the code of a SQL text from its literals and its comments, and the statements between the
semicolons of the code. Statements are compared by their words, so that comments and the white space between words
make no difference.
-/

namespace OmniControlPlane.Lib.Sql

inductive Kind where
  | code
  | literal
  | comment
deriving DecidableEq, Repr

abbrev Mark := Char × Kind

inductive State where
  | code
  | literal (quote : Char)
  | comment
deriving DecidableEq, Repr

/-- The kind of a character and the state after it; a comment begins with two dashes. -/
def State.step (state : State) (char : Char) (next : Option Char) : Kind × State :=
  match state with
  | .code =>
    if char = '-' ∧ next = some '-' then (.comment, .comment)
    else if char.toNat = 34 ∨ char.toNat = 39 then (.literal, .literal char)
    else (.code, .code)
  | .literal quote => (.literal, if char = quote then .code else .literal quote)
  | .comment => if char = '\n' then (.code, .code) else (.comment, .comment)

def mark : State → List Char → List Mark
  | _, [] => []
  | state, char :: rest => (char, (state.step char rest.head?).1) :: mark (state.step char rest.head?).2 rest

/-- The state at the end of a text. -/
def after : State → List Char → State
  | state, [] => state
  | state, char :: rest => after (state.step char rest.head?).2 rest

def letters (marks : List Mark) : List Char := marks.map (·.1)

def isEnd (mark : Mark) : Bool := mark.1 = ';' && mark.2 = .code

def isGap (mark : Mark) : Bool := isJsSpace mark.1 && mark.2 = .code

/-- The words of a statement without its comments; white space in a literal is part of a word. -/
def statementWords (marks : List Mark) : List (List Mark) := words isGap (marks.filter fun mark => mark.2 ≠ .comment)

def pieces (marks : List Mark) : List (List Mark) := marks.splitOnP isEnd

/-- The statements of a text that have words, as their words. -/
def statements (text : List Char) : List (List (List Mark)) :=
  ((pieces (mark .code text)).map statementWords).filter (· ≠ [])

/-! ## Scanning -/

section

variable {state : State} {text first second : List Char}

theorem letters_mark (state : State) (text : List Char) : letters (mark state text) = text := by
  induction text generalizing state with
  | nil => rfl
  | cons char rest ih =>
    rw [mark, letters, List.map_cons]
    exact congrArg (char :: ·) (ih _)

/-- Only a dash makes a difference behind a character. -/
theorem step_next {char : Char} {next other : Option Char} (noDash : next ≠ some '-') (noOther : other ≠ some '-') :
    state.step char next = state.step char other := by
  cases state with
  | code => simp only [State.step, noDash, noOther, and_false, if_false]
  | literal quote => rfl
  | comment => rfl

theorem mark_append (noDash : second.head? ≠ some '-') :
    mark state (first ++ second) = mark state first ++ mark (after state first) second ∧
    after state (first ++ second) = after (after state first) second := by
  induction first generalizing state with
  | nil => exact ⟨rfl, rfl⟩
  | cons char rest ih =>
    have same : state.step char (rest ++ second).head? = state.step char rest.head? := by
      cases rest with
      | nil => exact step_next noDash nofun
      | cons next rest => rfl
    rw [List.cons_append, mark, mark, after, after, same]
    exact ⟨congrArg (_ :: ·) ih.1, ih.2⟩

theorem mark_line (line rest : List Char) : mark state (line ++ '\n' :: rest) =
      mark state (line ++ ['\n']) ++ mark (after state (line ++ ['\n'])) rest ∧
    after state (line ++ '\n' :: rest) = after (after state (line ++ ['\n'])) rest := by
  have own (state : State) : state.step '\n' rest.head? = state.step '\n' none := by
    cases state with
    | code => rfl
    | literal quote => rfl
    | comment => rfl
  induction line generalizing state with
  | nil =>
    rw [List.nil_append, List.nil_append, mark, mark, after, after, own]
    exact ⟨rfl, rfl⟩
  | cons char line ih =>
    have same : (line ++ '\n' :: rest).head? = (line ++ ['\n']).head? := by
      cases line <;> rfl
    rw [List.cons_append, List.cons_append, mark, mark, after, after, same]
    exact ⟨congrArg (_ :: ·) ih.1, ih.2⟩

end

/-! ## Neutral marks -/

/-- A mark that belongs to no word. -/
def Neutral (marks : List Mark) : Prop := ∀ mark ∈ marks, mark.2 = .comment ∨ isGap mark = true

section

variable {marks first second : List Mark}

theorem not_isEnd_of_neutral (neutral : Neutral marks) : ∀ mark ∈ marks, isEnd mark = false := by
  intro mark member
  rw [isEnd, Bool.and_eq_false_iff]
  rcases neutral mark member with comment | gap
  · right
    rw [comment]
    rfl
  · left
    rw [isGap, Bool.and_eq_true] at gap
    rw [decide_eq_false_iff_not]
    intro same
    rw [same] at gap
    exact absurd gap.1 (by decide)

theorem statementWords_append_neutral (neutral : Neutral second) : statementWords (first ++ second) = statementWords first := by
  induction second generalizing first with
  | nil => rw [List.append_nil]
  | cons mark second ih =>
    obtain ⟨here, later⟩ := List.forall_mem_cons.mp neutral
    rw [← List.singleton_append, ← List.append_assoc, ih later, statementWords, statementWords, List.filter_append]
    by_cases comment : mark.2 = .comment
    · simp [comment]
    · have gap := here.resolve_left comment
      rw [List.filter_cons_of_pos (by simpa using comment), List.filter_nil, words_append_cons _ _ gap]
      simp [words]

/-- White space after neutral marks says no more than the white space alone. -/
theorem statementWords_neutral_gap {gap : Mark} (spaced : isGap gap = true) (neutral : Neutral marks) :
    statementWords (first ++ (marks ++ gap :: second)) = statementWords (first ++ gap :: second) := by
  have shown : gap.2 ≠ .comment := by
    rw [isGap, Bool.and_eq_true, decide_eq_true_eq] at spaced
    rw [spaced.2]
    decide
  have split (front : List Mark) : statementWords (front ++ gap :: second) = statementWords front ++ statementWords second := by
    rw [statementWords, List.filter_append, List.filter_cons_of_pos (by simpa using shown), words_append_cons _ _ spaced]
    rfl
  rw [← List.append_assoc, split, split, statementWords_append_neutral neutral]

theorem statementWords_neutral (neutral : Neutral first) : statementWords (first ++ second) = statementWords second := by
  induction first with
  | nil => rfl
  | cons mark first ih =>
    obtain ⟨here, later⟩ := List.forall_mem_cons.mp neutral
    rw [List.cons_append, ← ih later, statementWords, statementWords]
    by_cases comment : mark.2 = .comment
    · rw [List.filter_cons_of_neg (by simpa using comment)]
    · have gap := here.resolve_left comment
      rw [List.filter_cons_of_pos (by simpa using comment), ← List.nil_append (mark :: _), words_append_cons _ _ gap]
      simp [words]

/-- What has no words is neutral. -/
theorem statementWords_ne_nil {mark : Mark} (member : mark ∈ marks) (shown : mark.2 ≠ .comment) (inWord : isGap mark = false) :
    statementWords marks ≠ [] :=
  words_ne_nil (List.mem_filter.mpr ⟨member, by simpa using shown⟩) inWord

end

/-! ## Pieces -/

section

variable {state : State}

/-- Marks between two parts of a text that end no statement stand in one piece. -/
theorem pieces_context (first second : List Mark) : ∃ before front back behind, (second = [] → back = []) ∧
    ∀ marks : List Mark, (∀ mark ∈ marks, isEnd mark = false) →
      pieces (first ++ (marks ++ second)) = before ++ (front ++ (marks ++ back)) :: behind := by
  obtain ⟨back, behind, split⟩ := List.exists_cons_of_ne_nil (List.splitOnP_ne_nil isEnd second)
  have inner (marks : List Mark) (inside : ∀ mark ∈ marks, isEnd mark = false) :
      pieces (marks ++ second) = (marks ++ back) :: behind := by
    induction marks with
    | nil => exact split
    | cons mark marks ih =>
      obtain ⟨here, later⟩ := List.forall_mem_cons.mp inside
      have rest := ih later
      rw [pieces] at rest ⊢
      rw [List.cons_append, List.splitOnP_cons_eq_if_modifyHead, if_neg (by rw [here]; exact Bool.false_ne_true), rest]
      rfl
  have last (empty : second = []) : back = [] := by
    subst empty
    exact (List.cons.inj split).1.symm
  induction first with
  | nil => exact ⟨[], [], back, behind, last, fun marks inside => inner marks inside⟩
  | cons mark first ih =>
    obtain ⟨before, front, back', behind', last', parts⟩ := ih
    cases ends : isEnd mark with
    | true =>
      refine ⟨[] :: before, front, back', behind', last', fun marks inside => ?_⟩
      have rest := parts marks inside
      rw [pieces] at rest ⊢
      rw [List.cons_append, List.splitOnP_cons_eq_if_modifyHead, if_pos ends, rest]
      rfl
    | false =>
      cases before with
      | nil =>
        refine ⟨[], mark :: front, back', behind', last', fun marks inside => ?_⟩
        have rest := parts marks inside
        rw [pieces] at rest ⊢
        rw [List.cons_append, List.splitOnP_cons_eq_if_modifyHead, if_neg (by rw [ends]; exact Bool.false_ne_true), rest]
        rfl
      | cons piece before =>
        refine ⟨(mark :: piece) :: before, front, back', behind', last', fun marks inside => ?_⟩
        have rest := parts marks inside
        rw [pieces] at rest ⊢
        rw [List.cons_append, List.splitOnP_cons_eq_if_modifyHead, if_neg (by rw [ends]; exact Bool.false_ne_true), rest]
        rfl

/-- Where every semicolon is code, a text is cut where its statements end. -/
theorem letters_pieces {marks : List Mark} (code : ∀ mark ∈ marks, mark.1 = ';' → mark.2 = .code) :
    (letters marks).splitOn ';' = (pieces marks).map letters := by
  induction marks with
  | nil => rfl
  | cons mark marks ih =>
    obtain ⟨here, later⟩ := List.forall_mem_cons.mp code
    have rest := ih later
    rw [pieces] at rest ⊢
    have opened : letters (mark :: marks) = mark.1 :: letters marks := rfl
    have ends : (mark.1 == ';') = isEnd mark := by
      rw [isEnd]
      by_cases semicolon : mark.1 = ';'
      · simp [semicolon, here semicolon]
      · simp [semicolon]
    obtain ⟨piece, others, split⟩ := List.exists_cons_of_ne_nil (List.splitOnP_ne_nil isEnd marks)
    rw [List.splitOn_eq_splitOnP] at rest ⊢
    rw [opened, List.splitOnP_cons_eq_if_modifyHead, List.splitOnP_cons_eq_if_modifyHead, rest, ends, split]
    cases isEnd mark <;> rfl

/-- Every piece is scanned again as it stands in its text, and only the last one can end within a literal. -/
theorem pieces_mark (text : List Char) : ∃ first others, pieces (mark state text) = first :: others ∧
    ((letters first).head? = text.head? ∨ (letters first).head? = none ∧ text.head? ≠ some '-') ∧
    mark state (letters first) = first ∧ (∀ piece ∈ others, mark .code (letters piece) = piece) ∧
    ((∀ quote, after state text ≠ .literal quote) → (∀ quote, after state (letters first) ≠ .literal quote) ∧
      ∀ piece ∈ others, ∀ quote, after .code (letters piece) ≠ .literal quote) := by
  induction text generalizing state with
  | nil =>
    refine ⟨[], [], rfl, .inl rfl, rfl, nofun, fun closed => ⟨closed, nofun⟩⟩
  | cons char rest ih =>
    obtain ⟨first, others, split, head, own, rescanned, ends⟩ := @ih (state.step char rest.head?).2
    cases semicolon : isEnd (char, (state.step char rest.head?).1) with
    | true =>
      have parts : pieces (mark state (char :: rest)) = [] :: first :: others := by
        rw [pieces] at split ⊢
        rw [mark, List.splitOnP_cons_eq_if_modifyHead, if_pos semicolon, split]
      rw [isEnd, Bool.and_eq_true, decide_eq_true_eq, decide_eq_true_eq] at semicolon
      obtain ⟨rfl, code⟩ := semicolon
      have begun : state = .code := by
        cases state with
        | code => rfl
        | literal quote => exact absurd code (by rw [State.step]; exact nofun)
        | comment => exact absurd code (by rw [State.step]; exact nofun)
      subst begun
      refine ⟨[], first :: others, parts, .inr ⟨rfl, fun same => absurd (Option.some.inj same) (by decide)⟩, rfl, ?_, ?_⟩
      · exact List.forall_mem_cons.mpr ⟨own, rescanned⟩
      · intro closed
        obtain ⟨closedFirst, closedOthers⟩ := ends closed
        exact ⟨fun quote => nofun, List.forall_mem_cons.mpr ⟨closedFirst, closedOthers⟩⟩
    | false =>
      have parts : pieces (mark state (char :: rest)) = ((char, (state.step char rest.head?).1) :: first) :: others := by
        rw [pieces] at split ⊢
        rw [mark, List.splitOnP_cons_eq_if_modifyHead, if_neg (by rw [semicolon]; exact Bool.false_ne_true), split]
        rfl
      have same : state.step char (letters first).head? = state.step char rest.head? := by
        rcases head with same | ⟨nothing, noDash⟩
        · rw [same]
        · exact step_next (by rw [nothing]; exact nofun) noDash
      refine ⟨_, others, parts, .inl rfl, ?_, rescanned, ?_⟩
      · change mark state (char :: letters first) = _
        rw [mark, same, own]
      · intro closed
        have closedFirst := (ends closed).1
        refine ⟨?_, (ends closed).2⟩
        change ∀ quote, after state (char :: letters first) ≠ _
        rw [after, same]
        exact closedFirst

end

/-! ## Trimming -/

section

variable {text blanks : List Char}

theorem step_blank {char : Char} (blank : isJsSpace char = true) (next : Option Char) :
    State.code.step char next = (.code, .code) := by
  have dash : char ≠ '-' := by
    rintro rfl
    exact absurd blank (by decide)
  have quote : ¬ (char.toNat = 34 ∨ char.toNat = 39) := by
    rintro (same | same) <;> rw [isJsSpace, same] at blank <;> exact absurd blank (by decide)
  simp only [State.step, dash, quote, false_and, if_false]

/-- White space outside a literal is neutral. -/
theorem neutral_blanks (spaced : ∀ char ∈ blanks, isJsSpace char = true) {state : State} (open' : ∀ quote, state ≠ .literal quote) :
    Neutral (mark state blanks) ∧ ∀ quote, after state blanks ≠ .literal quote := by
  induction blanks generalizing state with
  | nil => exact ⟨nofun, open'⟩
  | cons char blanks ih =>
    obtain ⟨blank, others⟩ := List.forall_mem_cons.mp spaced
    cases state with
    | literal quote => exact absurd rfl (open' quote)
    | code =>
      have later := @ih others .code (fun quote => nofun)
      rw [mark, after, step_blank blank]
      exact ⟨List.forall_mem_cons.mpr ⟨.inr (by rw [isGap, blank]; rfl), later.1⟩, later.2⟩
    | comment =>
      rw [mark, after]
      by_cases broken : char = '\n'
      · subst broken
        have later := @ih others .code (fun quote => nofun)
        exact ⟨List.forall_mem_cons.mpr ⟨.inr rfl, later.1⟩, later.2⟩
      · have later := @ih others .comment (fun quote => nofun)
        have step : State.comment.step char blanks.head? = (.comment, .comment) := by
          rw [State.step, if_neg broken]
        rw [step]
        exact ⟨List.forall_mem_cons.mpr ⟨.inl rfl, later.1⟩, later.2⟩

theorem literal_blanks (spaced : ∀ char ∈ blanks, isJsSpace char = true) {quote : Char} (isQuote : isJsSpace quote = false) :
    after (.literal quote) blanks = .literal quote := by
  induction blanks with
  | nil => rfl
  | cons char blanks ih =>
    obtain ⟨blank, spaced⟩ := List.forall_mem_cons.mp spaced
    have other : char ≠ quote := by
      rintro rfl
      rw [isQuote] at blank
      contradiction
    rw [after, State.step, if_neg other]
    exact ih spaced

theorem quote_printed {state : State} (printed : ∀ quote, state = .literal quote → isJsSpace quote = false) {quote : Char}
    (ends : after state text = .literal quote) : isJsSpace quote = false := by
  induction text generalizing state with
  | nil => exact printed quote ends
  | cons char rest ih =>
    refine ih (fun quote same => ?_) ends
    cases state with
    | code =>
      rw [State.step] at same
      split at same
      · exact nomatch same
      · split at same
        · next quotes =>
          obtain rfl := State.literal.inj same
          rw [isJsSpace]
          rcases quotes with same | same <;> rw [same] <;> decide
        · exact nomatch same
    | literal opened =>
      rw [State.step] at same
      split at same
      · exact nomatch same
      · exact printed quote same
    | comment =>
      rw [State.step] at same
      split at same <;> exact nomatch same

theorem mark_blanks (spaced : ∀ char ∈ blanks, isJsSpace char = true) (rest : List Char) :
    mark .code (blanks ++ rest) = mark .code blanks ++ mark .code rest ∧
      after .code (blanks ++ rest) = after .code rest := by
  induction blanks with
  | nil => exact ⟨rfl, rfl⟩
  | cons char blanks ih =>
    obtain ⟨blank, others⟩ := List.forall_mem_cons.mp spaced
    rw [List.cons_append, mark, mark, after, step_blank blank, step_blank blank]
    exact ⟨congrArg (_ :: ·) (ih others).1, (ih others).2⟩

/-- Trimming a text that ends outside a literal takes no word from it. -/
theorem statementWords_trim (closed : ∀ quote, after .code text ≠ .literal quote) :
    statementWords (mark .code (trim (String.ofList text))) = statementWords (mark .code text) := by
  obtain ⟨lead, led⟩ : ∃ lead, text.takeWhile isJsSpace = lead := ⟨_, rfl⟩
  obtain ⟨body, rest⟩ : ∃ body, text.dropWhile isJsSpace = body := ⟨_, rfl⟩
  have parts : text = lead ++ (body.rdropWhile isJsSpace ++ body.rtakeWhile isJsSpace) := by
    rw [List.rdropWhile_append_rtakeWhile, ← led, ← rest, List.takeWhile_append_dropWhile]
  have front : ∀ char ∈ lead, isJsSpace char = true := by
    rw [← led]
    exact fun char member => List.mem_takeWhile_imp member
  have back : ∀ char ∈ body.rtakeWhile isJsSpace, isJsSpace char = true :=
    fun char member => List.mem_rtakeWhile_imp member
  have noDash : (body.rtakeWhile isJsSpace).head? ≠ some '-' := by
    intro dash
    exact absurd (back '-' (List.mem_of_mem_head? dash)) (by decide)
  have trimmed : trim (String.ofList text) = body.rdropWhile isJsSpace := by
    rw [trim, String.toList_ofList, rest]
  have whole := @mark_append .code (body.rdropWhile isJsSpace) _ noDash
  have outside : ∀ quote, State.code ≠ .literal quote := fun quote => by rintro ⟨⟩
  have open' : ∀ quote, after .code (body.rdropWhile isJsSpace) ≠ .literal quote := by
    intro quote literal
    have printed := quote_printed (fun quote same => absurd same (outside quote)) literal
    refine closed quote ?_
    rw [parts, (mark_blanks front _).2, whole.2, literal, literal_blanks back printed]
  rw [trimmed]
  conv_rhs => rw [parts, (mark_blanks front _).1, whole.1]
  rw [statementWords_neutral (neutral_blanks front outside).1,
    statementWords_append_neutral (neutral_blanks back open').1]

/-- A text that begins with a printed character and no comment has a word. -/
theorem statementWords_of_printed {char : Char} {rest : List Char} (printed : isJsSpace char = false)
    (noComment : ¬ ['-', '-'] <+: char :: rest) : statementWords (mark .code (char :: rest)) ≠ [] := by
  refine statementWords_ne_nil List.mem_cons_self ?_ ?_
  · rw [State.step]
    split
    · next dashes =>
      obtain ⟨rfl, next⟩ := dashes
      obtain ⟨tail, rfl⟩ := List.head?_eq_some_iff.mp next
      exact absurd (List.prefix_append ['-', '-'] tail) noComment
    · split <;> exact nofun
  · rw [isGap, printed]
    rfl

end

end OmniControlPlane.Lib.Sql
