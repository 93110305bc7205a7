import OmniControlPlane.Lib.Yaml

/-! # Blocks of YAML

Rules for reading block sequences and block mappings token by token. A node has the scalars and keys of the tokens
that it is read from, in their order, so that a document tells what stood on each line of its text.
-/

namespace OmniControlPlane.Lib.Yaml

/-! ## Rules -/

section

variable {fuel column : ℕ} {rest middle after : List (ℕ × Token)} {item value : Yaml} {items : List Yaml} {key : String}
  {fields : List (String × Yaml)}

theorem readNode_items (sequence : readItems fuel column ((column, .dash) :: rest) = some (items, after)) :
    readNode (fuel + 1) ((column, .dash) :: rest) = some (seq items, after) := by
  rw [readNode, sequence, Option.map_some]

theorem readNode_fields {inline : Option Yaml}
    (mapping : readFields fuel column ((column, .entry key inline) :: rest) = some (fields, after)) :
    readNode (fuel + 1) ((column, .entry key inline) :: rest) = some (map fields, after) := by
  rw [readNode, mapping, Option.map_some]

/-- An item that is not empty, and the items after it. -/
theorem readItems_item (deeper : (rest.head?.any fun next => column < next.1) = true)
    (node : readNode fuel rest = some (item, middle)) (later : readItems fuel column middle = some (items, after)) :
    readItems (fuel + 1) column ((column, .dash) :: rest) = some (item :: items, after) := by
  rw [readItems, if_neg (Nat.lt_irrefl _), if_neg (Nat.lt_irrefl _)]
  simp only [deeper, if_true, node, Option.bind_eq_bind, Option.bind_some, later]

/-- A key whose value stands on its line, and the keys after it. -/
theorem readFields_value (later : readFields fuel column rest = some (fields, after)) (fresh : key ∉ fields.map (·.1)) :
    readFields (fuel + 1) column ((column, .entry key (some value)) :: rest) = some ((key, value) :: fields, after) := by
  rw [readFields, if_neg (Nat.lt_irrefl _), if_neg (Nat.lt_irrefl _)]
  simp only [Option.bind_eq_bind, Option.bind_some, later, fresh, if_false]

/-- A key whose value stands on deeper lines. -/
theorem readFields_block (deeper : (rest.head?.any fun next => column < next.1) = true)
    (node : readNode fuel rest = some (value, middle)) (later : readFields fuel column middle = some (fields, after))
    (fresh : key ∉ fields.map (·.1)) :
    readFields (fuel + 1) column ((column, .entry key none) :: rest) = some ((key, value) :: fields, after) := by
  rw [readFields, if_neg (Nat.lt_irrefl _), if_neg (Nat.lt_irrefl _)]
  simp only [deeper, if_true, node, Option.bind_eq_bind, Option.bind_some, later, fresh, if_false]

end

/-! ## Leaves -/

/-- A key, or a scalar that is not null. -/
inductive Leaf where
  | key (name : String)
  | scalar (value : Yaml)

mutual

def leaves : Yaml → List Leaf
  | null => []
  | seq items => leavesOfItems items
  | map fields => leavesOfFields fields
  | value => [.scalar value]

def leavesOfItems : List Yaml → List Leaf
  | [] => []
  | item :: items => leaves item ++ leavesOfItems items

def leavesOfFields : List (String × Yaml) → List Leaf
  | [] => []
  | field :: fields => .key field.1 :: (leaves field.2 ++ leavesOfFields fields)

end

def Token.leaves : Token → List Leaf
  | dash => []
  | entry key none => [.key key]
  | entry key (some value) => .key key :: value.leaves
  | scalar value => value.leaves

def leavesOf (tokens : List (ℕ × Token)) : List Leaf := tokens.flatMap fun token => token.2.leaves

/-- What has been read of tokens, and what is left of them. -/
def Splits (tokens : List (ℕ × Token)) (read : List Leaf) (after : List (ℕ × Token)) : Prop :=
  leavesOf tokens = read ++ leavesOf after

theorem read_leaves (fuel : ℕ) :
    (∀ tokens value after, readNode fuel tokens = some (value, after) → Splits tokens value.leaves after) ∧
    (∀ column tokens items after, readItems fuel column tokens = some (items, after) →
      Splits tokens (leavesOfItems items) after) ∧
    ∀ column tokens fields after, readFields fuel column tokens = some (fields, after) →
      Splits tokens (leavesOfFields fields) after := by
  induction fuel with
  | zero =>
    refine ⟨?_, ?_, ?_⟩
    · intro tokens value after read
      exact nomatch read
    · intro column tokens items after read
      exact nomatch read
    · intro column tokens fields after read
      exact nomatch read
  | succ fuel ih =>
    obtain ⟨node, sequence, mapping⟩ := ih
    refine ⟨?_, ?_, ?_⟩
    · intro tokens value after read
      rcases tokens with _ | ⟨⟨column, token⟩, rest⟩
      · exact nomatch read
      · cases token with
        | scalar value' =>
          obtain ⟨rfl, rfl⟩ := Prod.mk.inj (Option.some.inj read)
          rfl
        | dash =>
          obtain ⟨⟨items, after'⟩, found, made⟩ := Option.map_eq_some_iff.mp read
          obtain ⟨rfl, rfl⟩ := Prod.mk.inj made
          exact sequence _ _ _ _ found
        | entry key inline =>
          obtain ⟨⟨fields, after'⟩, found, made⟩ := Option.map_eq_some_iff.mp read
          obtain ⟨rfl, rfl⟩ := Prod.mk.inj made
          exact mapping _ _ _ _ found
    · intro column tokens items after read
      rcases tokens with _ | ⟨⟨inner, token⟩, rest⟩
      · obtain ⟨rfl, rfl⟩ := Prod.mk.inj (Option.some.inj read)
        rfl
      · rw [readItems.eq_def] at read
        dsimp only at read
        split at read
        · exact nomatch read
        split at read
        · obtain ⟨rfl, rfl⟩ := Prod.mk.inj (Option.some.inj read)
          rfl
        split at read
        · have first : ∃ item middle, Splits rest item.leaves middle ∧
              ((readItems fuel column middle).bind fun read => some (item :: read.1, read.2)) = some (items, after) := by
            split at read
            · obtain ⟨⟨item, middle⟩, found, read⟩ := Option.bind_eq_some_iff.mp read
              exact ⟨item, middle, node _ _ _ found, read⟩
            · exact ⟨null, rest, rfl, read⟩
          obtain ⟨item, middle, inside, read⟩ := first
          obtain ⟨⟨items', after'⟩, later, made⟩ := Option.bind_eq_some_iff.mp read
          obtain ⟨rfl, rfl⟩ := Prod.mk.inj (Option.some.inj made)
          have behind := sequence _ _ _ _ later
          rw [Splits] at inside behind ⊢
          rw [leavesOfItems, List.append_assoc, ← behind, ← inside]
          rfl
        · obtain ⟨rfl, rfl⟩ := Prod.mk.inj (Option.some.inj read)
          rfl
    · intro column tokens fields after read
      rcases tokens with _ | ⟨⟨inner, token⟩, rest⟩
      · obtain ⟨rfl, rfl⟩ := Prod.mk.inj (Option.some.inj read)
        rfl
      · rw [readFields.eq_def] at read
        dsimp only at read
        split at read
        · exact nomatch read
        split at read
        · obtain ⟨rfl, rfl⟩ := Prod.mk.inj (Option.some.inj read)
          rfl
        split at read
        · next key inline =>
          have first : ∃ value middle,
              leavesOf ((inner, .entry key inline) :: rest) = .key key :: (value.leaves ++ leavesOf middle) ∧
              ((readFields fuel column middle).bind fun read =>
                if key ∈ read.1.map (·.1) then none else some ((key, value) :: read.1, read.2)) = some (fields, after) := by
            split at read
            · next value => exact ⟨value, rest, rfl, read⟩
            have given {value : Yaml} {middle : List (ℕ × Token)} (split : Splits rest value.leaves middle) :
                leavesOf ((inner, .entry key .none) :: rest) = .key key :: (value.leaves ++ leavesOf middle) :=
              congrArg (Leaf.key key :: ·) split
            split at read
            · obtain ⟨⟨value, middle⟩, found, read⟩ := Option.bind_eq_some_iff.mp read
              exact ⟨value, middle, given (node _ _ _ found), read⟩
            split at read
            · obtain ⟨⟨value, middle⟩, found, read⟩ := Option.bind_eq_some_iff.mp read
              obtain ⟨⟨items, rest'⟩, listed, made⟩ := Option.map_eq_some_iff.mp found
              obtain ⟨rfl, rfl⟩ := Prod.mk.inj made
              exact ⟨seq items, rest', given (sequence _ _ _ _ listed), read⟩
            · exact ⟨null, rest, rfl, read⟩
          obtain ⟨value, middle, inside, read⟩ := first
          obtain ⟨⟨fields', after'⟩, later, made⟩ := Option.bind_eq_some_iff.mp read
          have behind := mapping _ _ _ _ later
          split at made
          · exact nomatch made
          obtain ⟨rfl, rfl⟩ := Prod.mk.inj (Option.some.inj made)
          rw [Splits] at behind ⊢
          rw [inside, leavesOfFields, behind]
          simp
        · exact nomatch read

theorem leavesOf_append (first second : List (ℕ × Token)) : leavesOf (first ++ second) = leavesOf first ++ leavesOf second :=
  List.flatMap_append

theorem leaves_readBlock {tokens : List (ℕ × Token)} {value : Yaml} (block : readBlock tokens = some value) :
    leavesOf tokens = value.leaves := by
  rw [readBlock] at block
  split at block
  · next node =>
    obtain rfl := Option.some.inj block
    have split := (read_leaves _).1 _ _ _ node
    rw [Splits] at split
    rw [split]
    exact List.append_nil _
  · exact nomatch block

/-- A document has the leaves of its lines. -/
theorem leaves_read {text : List Char} {value : Yaml} (document : read text = some value) :
    ∃ lines, (text.splitOn '\n').mapM readLine = some lines ∧ leavesOf lines.flatten = value.leaves := by
  obtain ⟨found, lines, block⟩ := Option.bind_eq_some_iff.mp document
  obtain ⟨lines', all, rfl⟩ := Option.map_eq_some_iff.mp lines
  exact ⟨lines', all, leaves_readBlock block⟩

/-! ## Quoted texts that are read back -/

section

variable {text tail value after : List Char}

theorem hexDigit_of_ofDigits {digits : List Char} {base code : ℕ} (number : ofDigits base digits = some code) :
    ∀ digit ∈ digits, digit ≠ Json.quote ∧ digit.toNat ≠ 92 := by
  have each (start : ℕ) (number : (digits.foldlM (fun number digit => do
      let digit ← Json.hexDigit? digit
      if digit < base then some (number * base + digit) else none) start) = some code) :
      ∀ digit ∈ digits, (Json.hexDigit? digit).isSome = true := by
    clear * - number
    induction digits generalizing start with
    | nil => exact fun digit member => absurd member List.not_mem_nil
    | cons first digits ih =>
      rw [List.foldlM_cons] at number
      obtain ⟨next, step, later⟩ := Option.bind_eq_some_iff.mp number
      obtain ⟨size, known, -⟩ := Option.bind_eq_some_iff.mp step
      intro digit member
      rcases List.mem_cons.mp member with rfl | member
      · rw [known]
        rfl
      · exact ih next later digit member
  intro digit member
  have hex := each 0 number digit member
  refine ⟨?_, ?_⟩
  · rintro rfl
    exact absurd hex (by decide)
  · intro slash
    have same : digit = Char.ofNat 92 := by rw [← slash, Char.ofNat_toNat]
    subst same
    exact absurd hex (by decide)

theorem escapeQuotes_cons (char : Char) (text : List Char) : escapeQuotes (char :: text) =
    (if char = Json.quote then [Char.ofNat 92, char] else [char]) ++ escapeQuotes text := List.flatMap_cons ..

/-- Hexadecimal digits are no part of an escaped quote. -/
theorem drop_escapeQuotes (ends : tail = [] ∨ tail = [Json.quote]) (width : ℕ)
    (enough : width ≤ (escapeQuotes text ++ tail).length)
    (digits : ∀ digit ∈ (escapeQuotes text ++ tail).take width, digit ≠ Json.quote ∧ digit.toNat ≠ 92) :
    (escapeQuotes text ++ tail).drop width = escapeQuotes (text.drop width) ++ tail := by
  induction width generalizing text with
  | zero => rfl
  | succ width ih =>
    cases text with
    | nil =>
      rcases ends with rfl | rfl
      · exact absurd enough (by simp [escapeQuotes])
      · exact absurd rfl (digits Json.quote List.mem_cons_self).1
    | cons char text =>
      rw [escapeQuotes_cons] at enough digits ⊢
      by_cases quote : char = Json.quote
      · rw [if_pos quote] at digits
        exact absurd (by decide) (digits (Char.ofNat 92) List.mem_cons_self).2
      · rw [if_neg quote] at enough digits ⊢
        exact ih (Nat.le_of_succ_le_succ enough) fun digit member => digits digit (List.mem_cons_of_mem _ member)

/-- A text is read no longer than it is, and shorter where it has a character that needs another escape. -/
theorem readDouble_length (ends : tail = [] ∨ tail = [Json.quote]) (fuel : ℕ)
    (read : readDouble fuel (escapeQuotes text ++ tail) = some (value, after)) :
    value.length ≤ text.length ∧ (value.length = text.length → ∀ char ∈ text, isPrinted char = true) := by
  induction fuel generalizing text value after with
  | zero => exact nomatch read
  | succ fuel ih =>
    have shorter {value : List Char} (less : value.length < text.length) :
        value.length ≤ text.length ∧ (value.length = text.length → ∀ char ∈ text, isPrinted char = true) :=
      ⟨less.le, fun same => absurd same less.ne⟩
    have ended : ∀ {value after : List Char} {fuel : ℕ}, readDouble fuel [] ≠ some (value, after) := by
      intro value after fuel read
      cases fuel <;> exact nomatch read
    cases text with
    | nil =>
      rcases ends with rfl | rfl
      · exact absurd read ended
      · rw [escapeQuotes, List.flatMap_nil, List.nil_append, readDouble, if_pos rfl] at read
        obtain ⟨rfl, -⟩ := Prod.mk.inj (Option.some.inj read)
        exact ⟨le_rfl, fun _ char member => absurd member List.not_mem_nil⟩
    | cons char text =>
      rw [escapeQuotes_cons] at read
      by_cases quote : char = Json.quote
      · -- an escaped quote stands for itself
        subst quote
        rw [if_pos rfl] at read
        change readDouble (fuel + 1) (Char.ofNat 92 :: Json.quote :: (escapeQuotes text ++ tail)) = _ at read
        rw [readDouble, if_neg (by decide), if_pos (by decide)] at read
        obtain ⟨⟨rest, after'⟩, later, made⟩ := Option.bind_eq_some_iff.mp read
        obtain ⟨rfl, -⟩ := Prod.mk.inj (Option.some.inj made)
        obtain ⟨most, printed⟩ := ih later
        refine ⟨Nat.succ_le_succ most, fun same => List.forall_mem_cons.mpr ⟨by decide, printed (Nat.succ.inj same)⟩⟩
      · rw [if_neg quote] at read
        change readDouble (fuel + 1) (char :: (escapeQuotes text ++ tail)) = _ at read
        by_cases slash : char.toNat = 92
        · -- a backslash takes what follows it, and both are at most one character
          cases text with
          | nil =>
            rcases ends with rfl | rfl
            · rw [readDouble.eq_def] at read
              dsimp only [escapeQuotes, List.flatMap_nil, List.append_nil] at read
              rw [if_neg quote, if_pos slash] at read
              exact nomatch read
            · change readDouble (fuel + 1) [char, Json.quote] = _ at read
              rw [readDouble.eq_def] at read
              dsimp only at read
              rw [if_neg quote, if_pos slash] at read
              obtain ⟨⟨rest, after'⟩, later, -⟩ := Option.bind_eq_some_iff.mp read
              exact absurd later ended
          | cons next text =>
            rw [escapeQuotes_cons] at read
            by_cases closes : next = Json.quote
            · subst closes
              rw [if_pos rfl] at read
              change readDouble (fuel + 1) (char :: Char.ofNat 92 :: Json.quote :: (escapeQuotes text ++ tail)) = _ at read
              rw [readDouble.eq_def] at read
              dsimp only at read
              rw [if_neg quote, if_pos slash] at read
              obtain ⟨⟨rest, after'⟩, later, made⟩ := Option.bind_eq_some_iff.mp read
              obtain ⟨rfl, -⟩ := Prod.mk.inj (Option.some.inj made)
              obtain _ | fuel := fuel
              · exact nomatch later
              · change readDouble (fuel + 1) (Json.quote :: (escapeQuotes text ++ tail)) = _ at later
                rw [readDouble.eq_def] at later
                dsimp only at later
                rw [if_pos rfl] at later
                obtain ⟨rfl, -⟩ := Prod.mk.inj (Option.some.inj later)
                refine shorter ?_
                simp only [List.length_cons, List.length_nil]
                omega
            · rw [if_neg closes] at read
              change readDouble (fuel + 1) (char :: next :: (escapeQuotes text ++ tail)) = _ at read
              rw [readDouble.eq_def] at read
              dsimp only at read
              rw [if_neg quote, if_pos slash] at read
              split at read
              · obtain ⟨letter, -, read⟩ := Option.bind_eq_some_iff.mp read
                obtain ⟨⟨rest, after'⟩, later, made⟩ := Option.bind_eq_some_iff.mp read
                obtain ⟨rfl, -⟩ := Prod.mk.inj (Option.some.inj made)
                have most := (ih later).1
                refine shorter ?_
                simp only [List.length_cons]
                omega
              · split at read
                · exact nomatch read
                · next enough =>
                  obtain ⟨code, number, read⟩ := Option.bind_eq_some_iff.mp read
                  obtain ⟨⟨rest, after'⟩, later, made⟩ := Option.bind_eq_some_iff.mp read
                  rw [drop_escapeQuotes ends _ (Nat.le_of_not_lt enough) (hexDigit_of_ofDigits number)] at later
                  have most := (ih later).1
                  rw [List.length_drop] at most
                  split at made
                  · obtain ⟨rfl, -⟩ := Prod.mk.inj (Option.some.inj made)
                    refine shorter ?_
                    simp only [List.length_cons]
                    omega
                  · exact nomatch made
        · rw [readDouble.eq_def] at read
          dsimp only at read
          rw [if_neg quote, if_neg slash] at read
          split at read
          · exact nomatch read
          · next shown =>
            obtain ⟨⟨rest, after'⟩, later, made⟩ := Option.bind_eq_some_iff.mp read
            obtain ⟨rfl, -⟩ := Prod.mk.inj (Option.some.inj made)
            obtain ⟨most, printed⟩ := ih later
            have plain : isPrinted char = true := by
              simp only [isPrinted, Bool.and_eq_true, Bool.or_eq_true, decide_eq_true_eq]
              omega
            exact ⟨Nat.succ_le_succ most, fun same => List.forall_mem_cons.mpr ⟨plain, printed (Nat.succ.inj same)⟩⟩

/-- What a line makes of a text in quotes, or of as much of it as stands on the line. -/
theorem readInline_length (ends : tail = [] ∨ tail = [Json.quote]) {result : Yaml}
    (read : readInline (Json.quote :: (escapeQuotes text ++ tail)) = some result) :
    ∃ value, result = string (String.ofList value) ∧ value.length ≤ text.length ∧
      (value.length = text.length → ∀ char ∈ text, isPrinted char = true) := by
  rw [readInline, if_pos rfl] at read
  obtain ⟨⟨value, after⟩, found, made⟩ := Option.bind_eq_some_iff.mp read
  dsimp only at made
  split at made
  · exact ⟨value, (Option.some.inj made).symm, readDouble_length ends _ found⟩
  · cases made

end

end OmniControlPlane.Lib.Yaml
