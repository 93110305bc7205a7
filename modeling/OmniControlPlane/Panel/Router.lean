import Mathlib.Data.List.Perm.Basic
import OmniControlPlane.Lib.OrderedMap
import OmniControlPlane.Lib.Uri

/-! # The router

A route is a method and a path that is compiled to a regular expression. `match` goes over the routes in the order of
their registration, and ends at the first that has the path and the method. What the expressions match is the platform's.
-/

namespace OmniControlPlane.Panel.Router

open Lib

/-! ## Routes -/

def isNameStart (char : Char) : Bool := char.isAlpha || char = '_'

def isNamePart (char : Char) : Bool := char.isAlphanum || char = '_'

/-- The name behind the colon of a parameter, empty where there is none. -/
def paramName : List Char → List Char
  | [] => []
  | first :: rest => if isNameStart first then first :: rest.takeWhile isNamePart else []

/-- A piece of a path. -/
inductive Piece where
  | literal (char : Char)
  | param (name : List Char)
deriving DecidableEq, Repr

/-- The matches of `PARAM_RE` and the characters between them, behind as many characters as the last match has. -/
def pieces : ℕ → List Char → List Piece
  | _, [] => []
  | skip + 1, _ :: rest => pieces skip rest
  | 0, char :: rest =>
    if char = ':' ∧ paramName rest ≠ [] then .param (paramName rest) :: pieces (paramName rest).length rest
    else .literal char :: pieces 0 rest

/-- `([^/]+)` -/
def group : List Char := ['(', '[', '^', '/', ']', '+', ')']

def Piece.pattern : Piece → List Char
  | .literal char => [char]
  | .param _ => group

def Piece.key? : Piece → Option String
  | .literal _ => none
  | .param name => some (String.ofList name)

/-- A route, with what was given for its handler. -/
structure Route (α : Type) where
  method : String
  path : String
  re : String
  keys : List String
  opts : α

/-- `add`, with `compile` -/
def route {α : Type} (method path : String) (opts : α) : Route α where
  method := method
  path := path
  re := String.ofList ('^' :: ((pieces 0 path.toList).flatMap Piece.pattern ++ ['$']))
  keys := (pieces 0 path.toList).filterMap Piece.key?
  opts := opts

/-! ## Matching -/

inductive Hit (α : Type) where
  | null
  | wrongMethod (allowed : List String)
  | found (route : Route α) (params : OrderedMap String String)

def safeDecode (text : String) : String := (percentDecode text.toList).getD text

/-- `params[k] = safeDecode(m[i + 1])`; a group without a match is `undefined`. -/
def setParam (captures : List (Option String)) (params : OrderedMap String String) (key : String × ℕ) :
    OrderedMap String String :=
  let value := safeDecode ((captures[key.2]?.getD none).getD "undefined")
  if key.1 = "__proto__" then params else params.alter key.1 fun _ => value

def paramsOf (keys : List String) (captures : List (Option String)) : OrderedMap String String :=
  keys.zipIdx.foldl (setParam captures) .empty

/-- A response that is thrown. -/
structure HttpError where
  status : ℕ
  code : String
  message : String
  allow : Option String
deriving DecidableEq, Repr

section

variable {α : Type} (exec : String → String → Option (List (Option String)))

/-- The loop of `match`; `exec` are the groups of a match of an expression, `none` where there is no match. -/
def scan (method pathname : String) : List (Route α) → List String → Hit α
  | [], allowed => if allowed = [] then .null else .wrongMethod allowed
  | route :: routes, allowed =>
    match exec route.re pathname with
    | none => scan method pathname routes allowed
    | some captures =>
      if route.method ≠ method then scan method pathname routes (allowed ++ [route.method])
      else .found route (paramsOf route.keys captures)

/-- `Router.match` -/
def matchRoute (routes : List (Route α)) (method pathname : String) : Hit α := scan exec method pathname routes []

def requireMatch (hit : Hit α) (method pathname : String) : Except HttpError (Route α × OrderedMap String String) :=
  match hit with
  | .null => .error ⟨404, "not_found", pathname ++ " not found", none⟩
  | .wrongMethod allowed =>
    .error ⟨405, "method_not_allowed", method ++ " is not allowed here", some (", ".intercalate allowed)⟩
  | .found route params => .ok (route, params)

/-! ## One scan -/

def Matches (pathname : String) (route : Route α) : Prop := (exec route.re pathname).isSome

instance (pathname : String) (route : Route α) : Decidable (Matches exec pathname route) :=
  inferInstanceAs (Decidable ((exec route.re pathname).isSome = true))

/-- The route that a request gets. -/
def Hit.route? : Hit α → Option (Route α)
  | .found route _ => some route
  | _ => none

/-- The routes that a path has. -/
def onPath (pathname : String) (routes : List (Route α)) : List (Route α) :=
  routes.filter fun route => Matches exec pathname route

variable {exec} {routes : List (Route α)} {method pathname : String}

/-- The scan ends at the first route of the path and the method, and collects the methods before it. -/
theorem scan_cases (exec : String → String → Option (List (Option String))) (method pathname : String)
    (routes : List (Route α)) (allowed : List String) :
    (∃ before chosen after params, routes = before ++ chosen :: after ∧
      (∀ other ∈ before, Matches exec pathname other → other.method ≠ method) ∧
      Matches exec pathname chosen ∧ chosen.method = method ∧
      scan exec method pathname routes allowed = .found chosen params) ∨
    (∀ other ∈ routes, Matches exec pathname other → other.method ≠ method) ∧
      scan exec method pathname routes allowed =
        if allowed ++ (onPath exec pathname routes).map (·.method) = [] then .null
        else .wrongMethod (allowed ++ (onPath exec pathname routes).map (·.method)) := by
  induction routes generalizing allowed with
  | nil => exact .inr ⟨nofun, by rw [scan, onPath, List.filter_nil, List.map_nil, List.append_nil]⟩
  | cons route routes ih =>
    rw [scan]
    cases matched : exec route.re pathname with
    | none =>
      have passed : ¬ Matches exec pathname route := by simp [Matches, matched]
      rcases ih allowed with ⟨before, chosen, after, params, rfl, skipped, fits, own, ends⟩ | ⟨others, ends⟩
      · refine .inl ⟨route :: before, chosen, after, params, rfl, ?_, fits, own, ends⟩
        exact List.forall_mem_cons.mpr ⟨fun absurdly => absurd absurdly passed, skipped⟩
      · refine .inr ⟨List.forall_mem_cons.mpr ⟨fun absurdly => absurd absurdly passed, others⟩, ?_⟩
        rw [ends, onPath, onPath, List.filter_cons_of_neg (by simpa using passed)]
    | some captures =>
      have fits : Matches exec pathname route := by simp [Matches, matched]
      dsimp only
      split
      · next other =>
        rcases ih (allowed ++ [route.method]) with
          ⟨before, chosen, after, params, rfl, skipped, fits', own, ends⟩ | ⟨others, ends⟩
        · refine .inl ⟨route :: before, chosen, after, params, rfl, ?_, fits', own, ends⟩
          exact List.forall_mem_cons.mpr ⟨fun _ => other, skipped⟩
        · refine .inr ⟨List.forall_mem_cons.mpr ⟨fun _ => other, others⟩, ?_⟩
          rw [ends, onPath, onPath, List.filter_cons_of_pos (by simpa using fits), List.map_cons, List.append_assoc,
            List.singleton_append]
      · next own =>
        exact .inl ⟨[], route, routes, _, rfl, nofun, fits, not_not.mp own, rfl⟩

theorem matchRoute_sound {chosen : Route α} (hit : (matchRoute exec routes method pathname).route? = some chosen) :
    chosen ∈ routes ∧ Matches exec pathname chosen ∧ chosen.method = method := by
  rcases scan_cases exec method pathname routes [] with
    ⟨before, first, after, params, rfl, -, fits, own, ends⟩ | ⟨-, ends⟩
  · rw [matchRoute, ends] at hit
    obtain rfl := Option.some.inj hit
    exact ⟨List.mem_append_right _ List.mem_cons_self, fits, own⟩
  · rw [matchRoute, ends] at hit
    split at hit <;> contradiction

theorem matchRoute_complete {wanted : Route α} (member : wanted ∈ routes) (fits : Matches exec pathname wanted)
    (own : wanted.method = method) : ∃ chosen, (matchRoute exec routes method pathname).route? = some chosen := by
  rcases scan_cases exec method pathname routes [] with ⟨before, first, after, params, -, -, -, -, ends⟩ | ⟨others, -⟩
  · exact ⟨first, by rw [matchRoute, ends, Hit.route?]⟩
  · exact absurd own (others wanted member fits)

/-- A hit without a route: none on the path, or none of the method. -/
theorem matchRoute_reports (exec : String → String → Option (List (Option String))) (routes : List (Route α))
    (method pathname : String) :
    (matchRoute exec routes method pathname = .null ↔ onPath exec pathname routes = []) ∧
    (∀ allowed, matchRoute exec routes method pathname = .wrongMethod allowed ↔
      onPath exec pathname routes ≠ [] ∧ (∀ route ∈ onPath exec pathname routes, route.method ≠ method) ∧
        allowed = (onPath exec pathname routes).map (·.method)) := by
  have onPath_iff (other : Route α) : other ∈ onPath exec pathname routes ↔
      other ∈ routes ∧ Matches exec pathname other := by simp [onPath]
  rcases scan_cases exec method pathname routes [] with
    ⟨before, first, after, params, rfl, -, fits, own, ends⟩ | ⟨others, ends⟩
  · have inside : first ∈ onPath exec pathname (before ++ first :: after) :=
      (onPath_iff first).mpr ⟨List.mem_append_right _ List.mem_cons_self, fits⟩
    rw [matchRoute, ends]
    refine ⟨iff_of_false nofun (List.ne_nil_of_mem inside), fun allowed => iff_of_false nofun ?_⟩
    exact fun reported => reported.2.1 first inside own
  · have foreign : ∀ route ∈ onPath exec pathname routes, route.method ≠ method := fun other member =>
      others other ((onPath_iff other).mp member).1 ((onPath_iff other).mp member).2
    rw [matchRoute, ends, List.nil_append]
    simp only [List.map_eq_nil_iff]
    split
    · next none => exact ⟨iff_of_true rfl none, fun allowed => iff_of_false nofun fun reported => reported.1 none⟩
    · next some =>
      refine ⟨iff_of_false nofun some, fun allowed => ?_⟩
      rw [Hit.wrongMethod.injEq]
      exact ⟨fun same => ⟨some, foreign, same.symm⟩, fun reported => reported.2.2.symm⟩

/-- A request gets a route of its method, or an error that says what there is on its path. -/
theorem requireMatch_cases (exec : String → String → Option (List (Option String))) (routes : List (Route α))
    (method pathname : String) :
    (∃ chosen params, requireMatch (matchRoute exec routes method pathname) method pathname = .ok (chosen, params) ∧
      chosen ∈ onPath exec pathname routes ∧ chosen.method = method) ∨
    requireMatch (matchRoute exec routes method pathname) method pathname =
      .error ⟨404, "not_found", pathname ++ " not found", none⟩ ∧ onPath exec pathname routes = [] ∨
    requireMatch (matchRoute exec routes method pathname) method pathname =
      .error ⟨405, "method_not_allowed", method ++ " is not allowed here",
        some (", ".intercalate ((onPath exec pathname routes).map (·.method)))⟩ ∧ onPath exec pathname routes ≠ [] := by
  obtain ⟨null, wrongMethod⟩ := matchRoute_reports exec routes method pathname
  cases hit : matchRoute exec routes method pathname with
  | null => exact .inr (.inl ⟨rfl, null.mp hit⟩)
  | wrongMethod allowed =>
    obtain ⟨some, -, rfl⟩ := (wrongMethod allowed).mp hit
    exact .inr (.inr ⟨rfl, some⟩)
  | found chosen params =>
    have selected : (matchRoute exec routes method pathname).route? = some chosen := by rw [hit, Hit.route?]
    obtain ⟨member, fits, own⟩ := matchRoute_sound selected
    exact .inl ⟨chosen, params, rfl, by simpa [onPath] using ⟨member, fits⟩, own⟩

/-! ## Any order -/

/-- Whatever the order of the registrations: one route is selected, a literal path before all others, and a hit
without a route says what there is on the path. -/
structure Lawful (exec : String → String → Option (List (Option String))) (routes : List (Route α))
    (method pathname : String) : Prop where
  same : ∀ order order', order.Perm routes → order'.Perm routes →
    (matchRoute exec order method pathname).route? = (matchRoute exec order' method pathname).route?
  literal : ∀ order, order.Perm routes → ∀ route ∈ routes, route.method = method → route.path = pathname →
    (matchRoute exec order method pathname).route? = some route
  null : ∀ order, order.Perm routes →
    (matchRoute exec order method pathname = .null ↔ ∀ route ∈ routes, ¬ Matches exec pathname route)
  wrongMethod : ∀ order, order.Perm routes →
    ((∃ allowed, matchRoute exec order method pathname = .wrongMethod allowed) ↔
      (∃ route ∈ routes, Matches exec pathname route) ∧
        ∀ route ∈ routes, Matches exec pathname route → route.method ≠ method)
  allowed : ∀ order, order.Perm routes → ∀ allowed, matchRoute exec order method pathname = .wrongMethod allowed →
    allowed.Perm ((onPath exec pathname routes).map (·.method))

/-- At most one route of the method has the path, and one that is written like the path has it. -/
structure Unambiguous (exec : String → String → Option (List (Option String))) (routes : List (Route α))
    (method pathname : String) : Prop where
  single : ∀ route ∈ routes, ∀ other ∈ routes, route.method = method → other.method = method →
    Matches exec pathname route → Matches exec pathname other → route = other
  literal : ∀ route ∈ routes, route.method = method → route.path = pathname → Matches exec pathname route

/-- The first route of an order is selected where it fits. -/
theorem matchRoute_first {first : Route α} (fits : Matches exec pathname first) (own : first.method = method)
    (rest : List (Route α)) : (matchRoute exec (first :: rest) method pathname).route? = some first := by
  obtain ⟨captures, matched⟩ := Option.isSome_iff_exists.mp fits
  simp only [matchRoute, scan, matched, own, ne_eq, not_true_eq_false, ↓reduceIte, Hit.route?]

theorem exists_first {first : Route α} (member : first ∈ routes) : ∃ rest, (first :: rest).Perm routes := by
  obtain ⟨before, after, rfl⟩ := List.append_of_mem member
  exact ⟨before ++ after, List.perm_middle.symm⟩

theorem Unambiguous.selects (unambiguous : Unambiguous exec routes method pathname) {order : List (Route α)}
    (permuted : order.Perm routes) {wanted : Route α} (member : wanted ∈ routes) (own : wanted.method = method)
    (fits : Matches exec pathname wanted) : (matchRoute exec order method pathname).route? = some wanted := by
  obtain ⟨chosen, hit⟩ := matchRoute_complete (permuted.mem_iff.mpr member) fits own
  obtain ⟨chosenMember, chosenFits, chosenOwn⟩ := matchRoute_sound hit
  rw [hit, unambiguous.single chosen (permuted.mem_iff.mp chosenMember) wanted member chosenOwn own chosenFits fits]

theorem Lawful.unambiguous (lawful : Lawful exec routes method pathname) : Unambiguous exec routes method pathname := by
  constructor
  case single =>
    intro route member other otherMember own otherOwn fits otherFits
    obtain ⟨rest, permuted⟩ := exists_first member
    obtain ⟨rest', permuted'⟩ := exists_first otherMember
    have same := lawful.same _ _ permuted permuted'
    rw [matchRoute_first fits own, matchRoute_first otherFits otherOwn] at same
    exact Option.some.inj same
  case literal =>
    intro route member own written
    exact (matchRoute_sound (lawful.literal routes (.refl _) route member own written)).2.1

theorem Unambiguous.lawful (unambiguous : Unambiguous exec routes method pathname) :
    Lawful exec routes method pathname := by
  have onPath_iff {order : List (Route α)} (permuted : order.Perm routes) (other : Route α) :
      other ∈ onPath exec pathname order ↔ other ∈ routes ∧ Matches exec pathname other := by
    simp [onPath, permuted.mem_iff]
  constructor
  case same =>
    intro order order' permuted permuted'
    cases selected : (matchRoute exec order' method pathname).route? with
    | some chosen =>
      obtain ⟨member, fits, own⟩ := matchRoute_sound selected
      exact unambiguous.selects permuted (permuted'.mem_iff.mp member) own fits
    | none =>
      apply Option.eq_none_iff_forall_not_mem.mpr
      intro chosen hit
      obtain ⟨member, fits, own⟩ := matchRoute_sound hit
      have selected' := unambiguous.selects permuted' (permuted.mem_iff.mp member) own fits
      rw [selected] at selected'
      contradiction
  case literal =>
    intro order permuted route member own written
    exact unambiguous.selects permuted member own (unambiguous.literal route member own written)
  case null =>
    intro order permuted
    rw [(matchRoute_reports exec order method pathname).1, List.eq_nil_iff_forall_not_mem]
    simp only [onPath_iff permuted, not_and]
  case wrongMethod =>
    intro order permuted
    simp only [(matchRoute_reports exec order method pathname).2, onPath_iff permuted, ne_eq,
      List.eq_nil_iff_forall_not_mem, not_forall, not_not, and_imp]
    constructor
    · rintro ⟨_, ⟨other, member⟩, foreign, -⟩
      exact ⟨⟨other, member⟩, foreign⟩
    · rintro ⟨⟨other, member⟩, foreign⟩
      exact ⟨_, ⟨other, member⟩, foreign, rfl⟩
  case allowed =>
    intro order permuted allowed hit
    obtain ⟨-, -, rfl⟩ := ((matchRoute_reports exec order method pathname).2 allowed).mp hit
    exact (permuted.filter _).map _

/-- The order makes no difference just where the routes are unambiguous. -/
theorem matchRoute_lawful_iff (exec : String → String → Option (List (Option String))) (routes : List (Route α))
    (method pathname : String) :
    Lawful exec routes method pathname ↔ Unambiguous exec routes method pathname :=
  ⟨Lawful.unambiguous, Unambiguous.lawful⟩

end

/-! ## Paths without signs of expressions -/

/-- An item of an expression in which nothing but the groups of parameters is special. -/
inductive Item where
  | char (char : Char)
  | segment
deriving DecidableEq, Repr

def Piece.item : Piece → Item
  | .literal char => .char char
  | .param _ => .segment

/-- What a piece was in the path. -/
def Piece.source : Piece → List Char
  | .literal char => [char]
  | .param name => ':' :: name

/-- The items of an expression, behind as many characters as the last group has. -/
def items : ℕ → List Char → List Item
  | _, [] => []
  | skip + 1, _ :: rest => items skip rest
  | 0, char :: rest =>
    if group.isPrefixOf (char :: rest) then .segment :: items 6 rest else .char char :: items 0 rest

/-- The groups of the first match, where longer groups are tried first. -/
def runItems : List Item → List Char → Option (List (List Char))
  | [], [] => some []
  | [], _ :: _ => none
  | .char _ :: _, [] => none
  | .char char :: items, first :: rest => if first = char then runItems items rest else none
  | .segment :: items, text =>
    (List.range (text.takeWhile (· ≠ '/')).length).reverse.findSome? fun before =>
      (runItems items (text.drop (before + 1))).map (text.take (before + 1) :: ·)

/-- `exec` of such an expression. -/
def execPlain (re pathname : String) : Option (List (Option String)) :=
  (runItems (items 0 re.toList.tail.dropLast) pathname.toList).map (·.map fun group => some (String.ofList group))

def specials : List Char := ['^', '$', '.', '*', '+', '?', '(', ')', '[', ']', Char.ofNat 0x7B, Char.ofNat 0x7D, '|',
  Char.ofNat 92]

section

variable {text name rest : List Char} {path : List Piece}

theorem paramName_facts (rest : List Char) : paramName rest <+: rest ∧ '/' ∉ paramName rest := by
  cases rest with
  | nil => exact ⟨List.prefix_refl [], List.not_mem_nil⟩
  | cons first rest =>
    rw [paramName]
    split
    · next start =>
      refine ⟨(List.prefix_cons_inj first).mpr (List.takeWhile_prefix _), fun member => ?_⟩
      rcases List.mem_cons.mp member with rfl | later
      · exact absurd start (by decide)
      · exact absurd (List.mem_takeWhile_imp later) (by decide)
    · exact ⟨List.nil_prefix, List.not_mem_nil⟩

/-- The pieces are the path. -/
theorem pieces_source (skip : ℕ) (text : List Char) : (pieces skip text).flatMap Piece.source = text.drop skip := by
  induction text generalizing skip with
  | nil => cases skip <;> rfl
  | cons char rest ih =>
    cases skip with
    | succ skip => exact ih skip
    | zero =>
      rw [pieces]
      split
      · next param =>
        rw [List.flatMap_cons, ih, Piece.source, param.1, List.cons_append,
          List.prefix_iff_eq_append.mp (paramName_facts rest).1, List.drop_zero]
      · rw [List.flatMap_cons, ih, Piece.source, List.drop_zero, List.singleton_append, List.drop_zero]

theorem mem_pieces {skip : ℕ} {piece : Piece} (member : piece ∈ pieces skip text) :
    (∃ char ∈ text, piece = .literal char) ∨ ∃ name, piece = .param name ∧ '/' ∉ name := by
  induction text generalizing skip with
  | nil => cases skip <;> contradiction
  | cons char rest ih =>
    have later {skip : ℕ} (member : piece ∈ pieces skip rest) :
        (∃ other ∈ char :: rest, piece = .literal other) ∨ ∃ name, piece = .param name ∧ '/' ∉ name :=
      (ih member).imp_left fun ⟨other, inside, same⟩ => ⟨other, List.mem_cons_of_mem _ inside, same⟩
    cases skip with
    | succ skip => exact later member
    | zero =>
      rw [pieces] at member
      split at member
      · rcases List.mem_cons.mp member with rfl | member
        · exact .inr ⟨_, rfl, (paramName_facts rest).2⟩
        · exact later member
      · rcases List.mem_cons.mp member with rfl | member
        · exact .inl ⟨char, List.mem_cons_self, rfl⟩
        · exact later member

/-- The expression of a path has the items of its pieces. -/
theorem items_pattern (plain : ∀ char, Piece.literal char ∈ path → char ≠ '(') :
    items 0 (path.flatMap Piece.pattern) = path.map Piece.item := by
  induction path with
  | nil => rfl
  | cons piece path ih =>
    have ih := ih fun char member => plain char (List.mem_cons_of_mem _ member)
    cases piece with
    | literal char =>
      have other : (group.isPrefixOf (char :: path.flatMap Piece.pattern)) = false := by
        apply Bool.eq_false_iff.mpr
        intro opens
        have first := List.isPrefixOf_iff_prefix.mp opens
        exact plain char List.mem_cons_self (List.cons_prefix_cons.mp first).1.symm
      rw [List.flatMap_cons, Piece.pattern, List.singleton_append, items, other, if_neg Bool.false_ne_true, ih]
      rfl
    | param name =>
      have opens : group.isPrefixOf (group ++ path.flatMap Piece.pattern) = true :=
        List.isPrefixOf_iff_prefix.mpr (List.prefix_append _ _)
      have behind : items 0 (group ++ path.flatMap Piece.pattern) =
          .segment :: items 0 (path.flatMap Piece.pattern) := by
        change (if group.isPrefixOf (group ++ path.flatMap Piece.pattern) then _ else _) = _
        rw [if_pos opens]
        rfl
      rw [List.flatMap_cons, Piece.pattern, behind, ih]
      rfl

/-- A path has itself. -/
theorem runItems_source (named : ∀ name, Piece.param name ∈ path → '/' ∉ name) :
    (runItems (path.map Piece.item) (path.flatMap Piece.source)).isSome = true := by
  induction path with
  | nil => rfl
  | cons piece path ih =>
    have ih := ih fun name member => named name (List.mem_cons_of_mem _ member)
    cases piece with
    | literal char =>
      change (if char = char then runItems _ (path.flatMap Piece.source) else none).isSome = true
      rw [if_pos rfl]
      exact ih
    | param name =>
      have clear : ∀ char ∈ ':' :: name, decide (char ≠ '/') = true := by
        intro char member
        rcases List.mem_cons.mp member with rfl | inside
        · decide
        · exact decide_eq_true fun slash => named name List.mem_cons_self (slash ▸ inside)
      have long : name.length < (((':' :: name) ++ path.flatMap Piece.source).takeWhile (· ≠ '/')).length := by
        rw [List.takeWhile_append_of_pos clear, List.length_append, List.length_cons]
        omega
      rw [List.map_cons, List.flatMap_cons, Piece.item, Piece.source, runItems, List.findSome?_isSome_iff]
      refine ⟨name.length, List.mem_reverse.mpr (List.mem_range.mpr long), ?_⟩
      rw [List.cons_append, List.drop_succ_cons, List.drop_left, Option.isSome_map]
      exact ih

/-- A route without signs of expressions has its own path. -/
theorem matches_own_path {α : Type} (method path : String) (opts : α)
    (plain : ∀ char ∈ path.toList, char ∉ specials) : Matches execPlain path (route method path opts) := by
  have literals : ∀ char, Piece.literal char ∈ pieces 0 path.toList → char ≠ '(' := by
    intro char member
    rcases mem_pieces member with ⟨other, inside, same⟩ | ⟨name, same, -⟩
    · obtain rfl := Piece.literal.inj same
      rintro rfl
      exact plain '(' inside (by decide)
    · contradiction
  have names : ∀ name, Piece.param name ∈ pieces 0 path.toList → '/' ∉ name := by
    intro name member
    rcases mem_pieces member with ⟨other, -, same⟩ | ⟨other, same, clear⟩
    · contradiction
    · obtain rfl := Piece.param.inj same
      exact clear
  have own := runItems_source names
  rw [pieces_source, List.drop_zero, ← items_pattern literals] at own
  simpa [Matches, execPlain, route, List.dropLast_concat] using own

end

/-- For paths without signs of expressions the order makes no difference just where one route of the method fits. -/
theorem matchRoute_lawful_plain_iff {α : Type} {routes : List (Route α)} (method pathname : String)
    (plain : ∀ other ∈ routes, ∃ path opts, other = route other.method path opts ∧ ∀ char ∈ path.toList, char ∉ specials) :
    Lawful execPlain routes method pathname ↔
      ∀ one ∈ routes, ∀ other ∈ routes, one.method = method → other.method = method →
        Matches execPlain pathname one → Matches execPlain pathname other → one = other := by
  refine ⟨fun lawful => lawful.unambiguous.single, fun single => Unambiguous.lawful ⟨single, ?_⟩⟩
  intro other member own written
  obtain ⟨path, opts, made, clear⟩ := plain other member
  have same : path = pathname := by
    rw [made] at written
    exact written
  rw [made, ← same]
  exact matches_own_path _ path opts clear

/-- The route of a parameter that comes first takes the path of a literal route. -/
theorem param_before_literal :
    let one := route "GET" "/api/users/:username" "one"
    let bulk := route "GET" "/api/users/bulk" "bulk"
    one.re ≠ bulk.re ∧ (matchRoute execPlain [one, bulk] "GET" "/api/users/bulk").route?.map (·.opts) = some "one" ∧
      (matchRoute execPlain [bulk, one] "GET" "/api/users/bulk").route?.map (·.opts) = some "bulk" ∧
      ¬ Lawful execPlain [one, bulk] "GET" "/api/users/bulk" := by
  intro one bulk
  have first : (matchRoute execPlain [one, bulk] "GET" "/api/users/bulk").route?.map (·.opts) = some "one" := by
    decide +kernel
  refine ⟨by decide +kernel, first, by decide +kernel, fun lawful => ?_⟩
  have wins := lawful.literal [one, bulk] (.refl _) bulk (by simp) rfl rfl
  rw [wins] at first
  exact absurd first (by decide)

end OmniControlPlane.Panel.Router
