import OmniControlPlane.Lib.Sql
import OmniControlPlane.Panel.Migrate

/-! # The statements of a migration file

`splitStatements` takes the lines away that begin with a comment, cuts what is left at every semicolon, and drops the
parts that are empty or begin with a comment. A comment behind code is still there when the text is cut, so that a
semicolon in it ends a statement, and a statement behind a comment is taken for a part of it.
-/

namespace OmniControlPlane.Panel.Migrate

open Lib

/-! ## What must hold -/

/-- The documented restrictions: comments are line comments, and no literal has a semicolon or is left open. -/
structure Documented (text : List Char) : Prop where
  noSemicolon : ∀ mark ∈ Sql.mark .code text, mark.1 = ';' → mark.2 ≠ .literal
  closed : ∀ quote, Sql.after .code text ≠ .literal quote

/-- The words of the statements that are returned. -/
def returned (sql : String) : List (List (List Sql.Mark)) :=
  (splitStatements sql).map fun statement => Sql.statementWords (Sql.mark .code statement.toList)

/-- Every statement is returned once and in its place, with all its words and no others. -/
def Exact (sql : String) : Prop := returned sql = Sql.statements sql.toList

/-! ## Comments on their own lines -/

def isCommentLine (line : List Char) : Bool := isComment (trim (String.ofList line))

def bare (line : List Char) : List Char := if isCommentLine line then [] else line

/-- The text without the lines that begin with a comment. -/
def withoutCommentLines (text : List Char) : List Char := List.intercalate ['\n'] ((text.splitOn '\n').map bare)

/-- No line within a literal looks like a comment. -/
def Unmistaken : Sql.State → List (List Char) → Prop
  | _, [] => True
  | state, line :: lines =>
    (isCommentLine line = true → state = .code) ∧ Unmistaken (Sql.after state (line ++ ['\n'])) lines

/-- A line that begins with a comment is white space and a comment. -/
theorem neutral_commentLine {line : List Char} (comment : isCommentLine line = true) (unbroken : '\n' ∉ line) :
    Sql.Neutral (Sql.mark .code line) ∧ (∀ quote, Sql.after .code line ≠ .literal quote) ∧
      Sql.mark .code (line ++ ['\n']) = Sql.mark .code line ++ [('\n', .code)] ∧
      Sql.after .code (line ++ ['\n']) = .code := by
  have inside : ∀ {text : List Char}, '\n' ∉ text →
      Sql.Neutral (Sql.mark .comment text) ∧ Sql.after .comment text = .comment := by
    intro text unbroken
    induction text with
    | nil => exact ⟨fun _ member => absurd member List.not_mem_nil, rfl⟩
    | cons char text ih =>
      obtain ⟨other, unbroken⟩ := List.ne_and_not_mem_of_not_mem_cons unbroken
      have step : Sql.State.comment.step char text.head? = (.comment, .comment) := by
        rw [Sql.State.step, if_neg other.symm]
      rw [Sql.mark, Sql.after, step]
      exact ⟨List.forall_mem_cons.mpr ⟨.inl rfl, (ih unbroken).1⟩, (ih unbroken).2⟩
  have parts : ∃ blanks tail, (∀ char ∈ blanks, isJsSpace char = true) ∧ line = blanks ++ '-' :: '-' :: tail := by
    have found := List.isPrefixOf_iff_prefix.mp comment
    rw [trim, String.toList_ofList] at found
    obtain ⟨tail, whole⟩ := found.trans (List.rdropWhile_prefix _ _)
    refine ⟨line.takeWhile isJsSpace, tail, fun char member => List.mem_takeWhile_imp member, ?_⟩
    have rest : '-' :: '-' :: tail = line.dropWhile isJsSpace := by
      rw [String.toList_ofList] at whole
      exact whole
    rw [rest, List.takeWhile_append_dropWhile]
  obtain ⟨blanks, tail, spaced, rfl⟩ := parts
  have noBreak : '\n' ∉ tail := fun member =>
    unbroken (List.mem_append_right _ (List.mem_cons_of_mem _ (List.mem_cons_of_mem _ member)))
  have outside : ∀ quote, Sql.State.code ≠ .literal quote := fun quote => by rintro ⟨⟩
  have begun : Sql.mark .code ('-' :: '-' :: tail) = ('-', .comment) :: ('-', .comment) :: Sql.mark .comment tail := rfl
  have ended : Sql.after .code ('-' :: '-' :: tail) = Sql.after .comment tail := rfl
  have marks := (Sql.mark_blanks spaced ('-' :: '-' :: tail)).1
  have state := (Sql.mark_blanks spaced ('-' :: '-' :: tail)).2
  rw [begun] at marks
  rw [ended, (inside noBreak).2] at state
  have break' : ((['\n'] : List Char).head?) ≠ some '-' := by decide
  have whole := @Sql.mark_append .code (blanks ++ '-' :: '-' :: tail) ['\n'] break'
  refine ⟨?_, ?_, ?_, ?_⟩
  · rw [marks]
    intro mark member
    rcases List.mem_append.mp member with front | back
    · exact (Sql.neutral_blanks spaced outside).1 mark front
    · rcases List.mem_cons.mp back with rfl | back
      · exact .inl rfl
      · rcases List.mem_cons.mp back with rfl | back
        · exact .inl rfl
        · exact (inside noBreak).1 mark back
  · intro quote
    rw [state]
    rintro ⟨⟩
  · rw [whole.1, state]
    rfl
  · rw [whole.2, state]
    rfl

/-- Two texts of which, behind any marks, the same statements are read. -/
def Alike (first second : List Sql.Mark) : Prop := ∀ front,
  (Sql.pieces (front ++ first)).map Sql.statementWords = (Sql.pieces (front ++ second)).map Sql.statementWords

theorem alike_refl (marks : List Sql.Mark) : Alike marks marks := fun _ => rfl

theorem alike_append {first second : List Sql.Mark} (alike : Alike first second) (marks : List Sql.Mark) :
    Alike (marks ++ first) (marks ++ second) := by
  intro front
  rw [← List.append_assoc, ← List.append_assoc]
  exact alike (front ++ marks)

/-- A neutral line before a line break makes no difference. -/
theorem alike_neutral_line {marks first second : List Sql.Mark} (neutral : Sql.Neutral marks) (alike : Alike first second) :
    Alike (marks ++ [('\n', .code)] ++ first) (('\n', .code) :: second) := by
  intro front
  have later := alike (front ++ [('\n', .code)])
  rw [List.append_assoc, List.append_assoc] at later
  refine Eq.trans ?_ later
  obtain ⟨before, inner, back, behind, -, split⟩ := Sql.pieces_context front first
  have gap : Sql.isGap ('\n', .code) = true := by decide
  have free : ∀ mark ∈ marks ++ [('\n', .code)], Sql.isEnd mark = false := by
    intro mark member
    rcases List.mem_append.mp member with inside | last
    · exact Sql.not_isEnd_of_neutral neutral mark inside
    · rw [List.mem_singleton.mp last]
      decide
  have same := @Sql.statementWords_neutral_gap marks inner back _ gap neutral
  rw [split _ free, split [('\n', .code)] fun mark member => by rw [List.mem_singleton.mp member]; decide]
  rw [List.map_append, List.map_append, List.map_cons, List.map_cons, List.append_assoc]
  exact congrArg (fun words => before.map Sql.statementWords ++ words :: behind.map Sql.statementWords) same

theorem alike_neutral {marks : List Sql.Mark} (neutral : Sql.Neutral marks) : Alike marks [] := by
  intro front
  obtain ⟨before, inner, back, behind, last, split⟩ := Sql.pieces_context front []
  obtain rfl := last rfl
  have given := split marks (Sql.not_isEnd_of_neutral neutral)
  have without := split [] nofun
  rw [List.append_nil] at given without
  rw [given, without, List.map_append, List.map_append, List.map_cons, List.map_cons, List.append_nil,
    Sql.statementWords_append_neutral neutral]

/-- What a text keeps without its comment lines. -/
structure Stripped (state : Sql.State) (text rest : List Char) : Prop where
  alike : Alike (Sql.mark state text) (Sql.mark state rest)
  marks : (Sql.mark state rest).Sublist (Sql.mark state text)
  closed : (∀ quote, Sql.after state text ≠ .literal quote) → ∀ quote, Sql.after state rest ≠ .literal quote

theorem kept_lines {lines : List (List Char)} (given : lines ≠ []) (unbroken : ∀ line ∈ lines, '\n' ∉ line)
    {state : Sql.State} (unmistaken : Unmistaken state lines) :
    Stripped state (List.intercalate ['\n'] lines) (List.intercalate ['\n'] (lines.map bare)) := by
  induction lines generalizing state with
  | nil => contradiction
  | cons line lines ih =>
    obtain ⟨plain, unbroken⟩ := List.forall_mem_cons.mp unbroken
    obtain ⟨outside, unmistaken⟩ := unmistaken
    cases comment : isCommentLine line with
    | false =>
      have same : bare line = line := by rw [bare, comment]; rfl
      cases lines with
      | nil =>
        rw [List.map_cons, List.map_nil, same]
        exact ⟨alike_refl _, List.Sublist.refl _, id⟩
      | cons next lines =>
        obtain ⟨alike, marks, closed⟩ := ih (List.cons_ne_nil _ _) unbroken unmistaken
        rw [List.map_cons] at alike marks closed
        rw [List.map_cons, List.map_cons, List.intercalate_cons_cons, List.intercalate_cons_cons, same, List.append_assoc,
          List.append_assoc, List.singleton_append, List.singleton_append]
        have whole := @Sql.mark_line state line (List.intercalate ['\n'] (next :: lines))
        have rest := @Sql.mark_line state line (List.intercalate ['\n'] (bare next :: lines.map bare))
        constructor
        · rw [whole.1, rest.1]
          exact alike_append alike _
        · rw [whole.1, rest.1]
          exact List.Sublist.append (List.Sublist.refl _) marks
        · rw [whole.2, rest.2]
          exact closed
    | true =>
      obtain rfl := outside comment
      obtain ⟨neutral, open', marked, state⟩ := neutral_commentLine comment plain
      have gone : bare line = [] := by rw [bare, comment]; rfl
      cases lines with
      | nil =>
        rw [List.map_cons, List.map_nil, gone, List.intercalate_singleton, List.intercalate_singleton]
        exact ⟨alike_neutral neutral, List.nil_sublist _, fun _ quote => nofun⟩
      | cons next lines =>
        rw [state] at unmistaken
        obtain ⟨alike, marks, closed⟩ := ih (List.cons_ne_nil _ _) unbroken unmistaken
        rw [List.map_cons] at alike marks closed
        rw [List.map_cons, List.map_cons, List.intercalate_cons_cons, List.intercalate_cons_cons, gone, List.append_assoc,
          List.append_assoc, List.singleton_append, List.singleton_append]
        have whole := @Sql.mark_line .code line (List.intercalate ['\n'] (next :: lines))
        have rest := @Sql.mark_line .code [] (List.intercalate ['\n'] (bare next :: lines.map bare))
        rw [marked, state] at whole
        constructor
        · rw [whole.1]
          exact rest.1 ▸ alike_neutral_line neutral alike
        · rw [whole.1]
          exact rest.1 ▸ List.Sublist.append (List.sublist_append_right _ _) marks
        · rw [whole.2]
          exact rest.2 ▸ closed

theorem stripped {text : List Char} (unmistaken : Unmistaken .code (text.splitOn '\n')) :
    Stripped .code text (withoutCommentLines text) := by
  have unbroken : ∀ line ∈ text.splitOn '\n', '\n' ∉ line := fun line member => (mem_splitOn_facts member).1
  have kept := kept_lines (List.splitOn_ne_nil '\n' text) unbroken unmistaken
  rw [List.intercalate_splitOn] at kept
  exact kept

/-! ## The condition -/

/-- A comment behind code has no semicolon. -/
def Whole (text : List Char) : Prop := (';', .comment) ∉ Sql.mark .code (withoutCommentLines text)

/-- No statement begins with a comment: none stands between the end of one and the next on its line. -/
def Uncovered (text : List Char) : Prop := ∀ piece ∈ Sql.pieces (Sql.mark .code (withoutCommentLines text)),
  Sql.statementWords piece ≠ [] → isComment (trim (String.ofList (Sql.letters piece))) = false

/-- What `filter` leaves. -/
def returns (piece : List Sql.Mark) : Bool :=
  trim (String.ofList (Sql.letters piece)) ≠ [] && !isComment (trim (String.ofList (Sql.letters piece)))

section

variable {text : List Char}

theorem head_trim {text : String} {char : Char} {rest : List Char} (trimmed : trim text = char :: rest) :
    isJsSpace char = false := by
  have front : char :: rest <+: text.toList.dropWhile isJsSpace := by
    rw [← trimmed, trim]
    exact List.rdropWhile_prefix _ _
  obtain ⟨tail, whole⟩ := front
  have head := List.head?_dropWhile_not isJsSpace text.toList
  rw [← whole] at head
  exact head

theorem statementWords_letters {piece : List Sql.Mark} (own : Sql.mark .code (Sql.letters piece) = piece)
    (closed : ∀ quote, Sql.after .code (Sql.letters piece) ≠ .literal quote) :
    Sql.statementWords (Sql.mark .code (trim (String.ofList (Sql.letters piece)))) = Sql.statementWords piece := by
  rw [Sql.statementWords_trim closed, own]

/-- What is returned has words, and what has words is returned unless it begins with a comment. -/
theorem returns_iff {piece : List Sql.Mark} (own : Sql.mark .code (Sql.letters piece) = piece)
    (closed : ∀ quote, Sql.after .code (Sql.letters piece) ≠ .literal quote) : returns piece = true ↔
      Sql.statementWords piece ≠ [] ∧ isComment (trim (String.ofList (Sql.letters piece))) = false := by
  have words := statementWords_letters own closed
  rw [returns, Bool.and_eq_true, decide_eq_true_eq, Bool.not_eq_true']
  refine and_congr_left fun noComment => ?_
  rw [← words]
  cases trimmed : trim (String.ofList (Sql.letters piece)) with
  | nil => exact iff_of_false (fun given => given rfl) (fun given => given rfl)
  | cons char rest =>
    have printed := head_trim trimmed
    rw [trimmed] at noComment
    have noPrefix : ¬ ['-', '-'] <+: char :: rest := fun dashes => by
      have comment : isComment (char :: rest) = true := List.isPrefixOf_iff_prefix.mpr dashes
      rw [comment] at noComment
      contradiction
    exact iff_of_true (List.cons_ne_nil _ _) (Sql.statementWords_of_printed printed noPrefix)

end

/-- Of a text that keeps to the restrictions, with no line in a literal that looks like a comment and no semicolon in a
comment behind code, the statements are returned exactly when none of them begins with a comment. -/
theorem splitStatements_iff {sql : String} (documented : Documented sql.toList)
    (unmistaken : Unmistaken .code (sql.toList.splitOn '\n')) (whole : Whole sql.toList) :
    Exact sql ↔ Uncovered sql.toList := by
  obtain ⟨alike, marks, closed⟩ := stripped unmistaken
  have ended := closed documented.closed
  obtain ⟨marked, same⟩ : ∃ marked, Sql.mark .code (withoutCommentLines sql.toList) = marked := ⟨_, rfl⟩
  have code : ∀ mark ∈ marked, mark.1 = ';' → mark.2 = .code := by
    intro mark member semicolon
    rw [← same] at member
    have noLiteral := documented.noSemicolon mark (marks.subset member) semicolon
    have noComment : mark.2 ≠ .comment := by
      intro comment
      refine whole ?_
      rw [← semicolon, ← comment]
      exact member
    match kind : mark.2 with
    | .code => rfl
    | .literal => exact absurd kind noLiteral
    | .comment => exact absurd kind noComment
  have rescanned : ∀ piece ∈ Sql.pieces marked, Sql.mark .code (Sql.letters piece) = piece ∧
      ∀ quote, Sql.after .code (Sql.letters piece) ≠ .literal quote := by
    obtain ⟨first, others, split, -, own, rest, ends⟩ := @Sql.pieces_mark .code (withoutCommentLines sql.toList)
    obtain ⟨firstEnd, otherEnds⟩ := ends ended
    rw [← same, split]
    exact List.forall_mem_cons.mpr ⟨⟨own, firstEnd⟩, fun piece member => ⟨rest piece member, otherEnds piece member⟩⟩
  have cut : (withoutCommentLines sql.toList).splitOn ';' = (Sql.pieces marked).map Sql.letters := by
    rw [← Sql.letters_pieces code, ← same, Sql.letters_mark]
  have left : returned sql = ((Sql.pieces marked).filter returns).map Sql.statementWords := by
    have code : splitStatements sql = ((((withoutCommentLines sql.toList).splitOn ';').map fun text =>
        trim (String.ofList text)).filter fun statement => statement ≠ [] && !isComment statement).map String.ofList := rfl
    rw [returned, code, cut, List.map_map, List.filter_map, List.filter_map, List.map_map, List.map_map]
    apply List.map_congr_left
    intro piece member
    obtain ⟨own, ends⟩ := rescanned piece (List.mem_of_mem_filter member)
    simp only [Function.comp_apply, String.toList_ofList]
    exact statementWords_letters own ends
  have right : Sql.statements sql.toList =
      ((Sql.pieces marked).filter fun piece => Sql.statementWords piece ≠ []).map Sql.statementWords := by
    have words := alike []
    rw [List.nil_append, List.nil_append, same] at words
    rw [Sql.statements, words, List.filter_map]
    rfl
  have behind : (Sql.pieces marked).filter returns = ((Sql.pieces marked).filter fun piece =>
      Sql.statementWords piece ≠ []).filter fun piece => !isComment (trim (String.ofList (Sql.letters piece))) := by
    rw [List.filter_filter]
    apply List.filter_congr
    intro piece member
    obtain ⟨own, ends⟩ := rescanned piece member
    rw [Bool.eq_iff_iff, returns_iff own ends, Bool.and_eq_true, decide_eq_true_eq, Bool.not_eq_true', and_comm]
  rw [Exact, left, right, behind, Uncovered, same]
  constructor
  · intro equal piece member words
    have lengths := congrArg List.length equal
    rw [List.length_map, List.length_map, List.length_filter_eq_length_iff] at lengths
    have shown := lengths piece (List.mem_filter.mpr ⟨member, decide_eq_true words⟩)
    rw [Bool.not_eq_true'] at shown
    exact shown
  · intro uncovered
    rw [List.filter_eq_self.mpr]
    intro piece member
    obtain ⟨inside, words⟩ := List.mem_filter.mp member
    rw [uncovered piece inside (of_decide_eq_true words)]
    rfl

namespace Sample

/-- A comment on its own line, and one behind code. -/
def commented : List Char := "DROP TABLE a;\n-- old\nDROP TABLE b; -- '".toList

/-- A comment behind the end of a statement. -/
def covered : List Char := "DROP TABLE a; -- old\nDROP TABLE b;".toList

end Sample

theorem documented_of_all {text : List Char} (code : (Sql.mark .code text).all (fun mark => mark ≠ (';', .literal)) = true)
    (closed : Sql.after .code text = .code ∨ Sql.after .code text = .comment) : Documented text where
  noSemicolon mark member semicolon literal := by
    have other := of_decide_eq_true (List.all_eq_true.mp code mark member)
    exact other (Prod.ext semicolon literal)
  closed quote literal := by
    rw [literal] at closed
    rcases closed with same | same <;> exact nomatch same

theorem splitStatements_iff_commented : Exact (String.ofList Sample.commented) := by
  have text : (String.ofList Sample.commented).toList = Sample.commented := String.toList_ofList
  refine (splitStatements_iff ?_ ?_ ?_).mpr ?_
  · rw [text]
    exact documented_of_all (by decide +kernel) (.inr (by decide +kernel))
  · rw [text]
    have lines : Sample.commented.splitOn '\n' =
        ["DROP TABLE a;".toList, "-- old".toList, "DROP TABLE b; -- '".toList] := by decide +kernel
    rw [lines]
    exact ⟨fun _ => rfl, fun _ => by decide +kernel, fun _ => by decide +kernel, trivial⟩
  · rw [text, Whole]
    decide +kernel
  · rw [text]
    have all : (Sql.pieces (Sql.mark .code (withoutCommentLines Sample.commented))).all (fun piece =>
        Sql.statementWords piece = [] || !isComment (trim (String.ofList (Sql.letters piece)))) = true := by decide +kernel
    intro piece member words
    have shown := List.all_eq_true.mp all piece member
    rw [decide_eq_false words, Bool.false_or, Bool.not_eq_true'] at shown
    exact shown

/-- The statement behind the comment is not returned. -/
theorem covered_statement_dropped : Documented Sample.covered ∧ ¬ Exact (String.ofList Sample.covered) := by
  refine ⟨documented_of_all (by decide +kernel) (.inl (by decide +kernel)), fun exact' => ?_⟩
  have one : (splitStatements (String.ofList Sample.covered)).length = 1 := by decide +kernel
  have two : (Sql.statements Sample.covered).length = 2 := by decide +kernel
  have same := congrArg List.length exact'
  rw [returned, List.length_map, one, String.toList_ofList, two] at same
  exact absurd same (by decide)

end OmniControlPlane.Panel.Migrate
