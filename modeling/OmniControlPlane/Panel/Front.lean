import Mathlib.Data.List.Pairwise
import OmniControlPlane.Panel.CsrfGate
import OmniControlPlane.Panel.Router
import OmniControlPlane.Panel.Vless

/-! # The front of the panel

`fetch` gives a request to the tunnel, to a subscription, to the API or to the assets, in this order. The routes of the
API stand in one table. No two of a method have a path in common, so their order makes no difference, and a handler that
is not open to everybody runs for a session, and for the panel's own pages where it changes something.
-/

namespace OmniControlPlane.Panel.Front

open Lib Router
open Auth.Cookie (Backend authenticate dispatch)
open PasswordRecord (Thrown)

inductive Handler where
  | setup | login | recover | whoami | logout | changePassword | listSessions | revokeSession
  | overview | userUsage | getSettings | putSettings | exportBackup | importBackup
  | list | create | bulkOp | getOne | update | remove | reset | rotateToken | rotateUuid
  | cfUsage | probeNode | rankIps | ping | recentAudit | fragments | maintenance | unban
  | agentHealth | agentUsers | agentCreateUser | agentUserConfigs | agentUserReset | agentDeleteUser | agentAdminReset
  | agentAdminPassword
deriving DecidableEq, Repr

structure Opts where
  handler : Handler
  needsAuth : Bool
deriving DecidableEq, Repr

/-- Without options. -/
def admin (handler : Handler) : Opts := ⟨handler, true⟩

/-- `auth: "none"` -/
def guest (handler : Handler) : Opts := ⟨handler, false⟩

/-- The table at the top of `index.js`. -/
def routes : List (Route Opts) := [
  route "POST" "/api/setup" (guest .setup),
  route "POST" "/api/login" (guest .login),
  route "POST" "/api/recover" (guest .recover),
  route "GET" "/api/whoami" (guest .whoami),
  route "POST" "/api/logout" (admin .logout),
  route "POST" "/api/password" (admin .changePassword),
  route "GET" "/api/sessions" (admin .listSessions),
  route "POST" "/api/sessions/revoke" (admin .revokeSession),
  route "GET" "/api/overview" (admin .overview),
  route "GET" "/api/stats/usage" (admin .userUsage),
  route "GET" "/api/settings" (admin .getSettings),
  route "PUT" "/api/settings" (admin .putSettings),
  route "GET" "/api/backup" (admin .exportBackup),
  route "POST" "/api/backup" (admin .importBackup),
  route "GET" "/api/users" (admin .list),
  route "POST" "/api/users" (admin .create),
  route "POST" "/api/users/bulk" (admin .bulkOp),
  route "GET" "/api/users/:username" (admin .getOne),
  route "PATCH" "/api/users/:username" (admin .update),
  route "DELETE" "/api/users/:username" (admin .remove),
  route "POST" "/api/users/:username/reset" (admin .reset),
  route "POST" "/api/users/:username/rotate-token" (admin .rotateToken),
  route "POST" "/api/users/:username/rotate-uuid" (admin .rotateUuid),
  route "GET" "/api/diag/cf-usage" (admin .cfUsage),
  route "POST" "/api/diag/probe-node" (admin .probeNode),
  route "POST" "/api/diag/rank-ips" (admin .rankIps),
  route "GET" "/api/diag/ping" (admin .ping),
  route "GET" "/api/diag/logs" (admin .recentAudit),
  route "GET" "/api/fragments" (admin .fragments),
  route "POST" "/api/diag/maintenance" (admin .maintenance),
  route "POST" "/api/diag/unban" (admin .unban),
  route "GET" "/api/agent/health" (guest .agentHealth),
  route "GET" "/api/agent/users" (guest .agentUsers),
  route "POST" "/api/agent/users" (guest .agentCreateUser),
  route "GET" "/api/agent/users/:username" (guest .agentUserConfigs),
  route "POST" "/api/agent/users/:username/reset" (guest .agentUserReset),
  route "DELETE" "/api/agent/users/:username" (guest .agentDeleteUser),
  route "POST" "/api/agent/admin/reset" (guest .agentAdminReset),
  route "POST" "/api/agent/admin/password" (guest .agentAdminPassword)]

structure Request extends CsrfGate.Request where
  pathname : String

/-- Where a request ends. -/
inductive Answer where
  | tunnel
  | subscription (rest : String)
  | statusPage (rest : String)
  | refused (error : HttpError)
  | unauthorized
  | csrf
  | handled (handler : Handler) (params : OrderedMap String String) (session : Option Auth.Cookie.Session)
  | notFound
  | asset (path : String)

def mapAssetPath (pathname : String) : String :=
  if pathname = "/" ∨ pathname = "/panel" ∨ pathname = "/login" then "/"
  else if pathname = "/manifest.json" then "/manifest.webmanifest"
  else pathname

/-- What is behind a beginning. -/
def after? (start text : String) : Option String :=
  if start.toList <+: text.toList then some (String.ofList (text.toList.drop start.length)) else none

section

variable (backend : Backend) (sessions : Auth.Sessions) (now : ℕ) (request : Request)

/-- `(request.headers.get("upgrade") || "").toLowerCase() === "websocket"` -/
def Request.upgrades : Bool := ((request.get "upgrade").getD "").toLower = "websocket"

def Request.cookie : Option (List Char) := (request.get "cookie").map String.toList

/-- The routes of the API. -/
def api (routes : List (Route Opts)) : Except Thrown Answer :=
  match requireMatch (matchRoute execPlain routes request.method request.pathname) request.method request.pathname with
  | .error error => .ok (.refused error)
  | .ok (route, params) =>
    dispatch backend sessions route.opts.needsAuth (request.method = "GET" || CsrfGate.csrfOk request.toRequest)
      .unauthorized .csrf (fun session => .ok (.handled route.opts.handler params session)) request.cookie now

/-- `fetch`, once the bindings and the schema are there; `assets` is whether the build has them. -/
def fetch (routes : List (Route Opts)) (subPrefix : String) (assets : Bool) : Except Thrown Answer :=
  if request.upgrades then .ok .tunnel
  else
    match after? ("/" ++ subPrefix ++ "/") request.pathname with
    | some rest => .ok (.subscription rest)
    | none =>
      match after? "/status/" request.pathname with
      | some rest => .ok (.statusPage rest)
      | none =>
        if "/api/".toList <+: request.pathname.toList then api backend sessions now request routes
        else if (uuidFromRequest request.pathname).isSome then .ok .notFound
        else if assets then .ok (.asset (mapAssetPath request.pathname)) else .ok .notFound

end

/-! ## Paths that have nothing in common -/

/-- A path between its slashes. -/
def segments : List Char → List (List Char)
  | [] => [[]]
  | char :: rest =>
    if char = '/' then [] :: segments rest
    else (char :: (segments rest).headD []) :: (segments rest).tail

/-- The segments that a list of items leaves, nothing for what a parameter stands in. -/
def itemSegments : List Item → List (Option (List Char))
  | [] => [some []]
  | .char char :: rest =>
    if char = '/' then some [] :: itemSegments rest
    else ((itemSegments rest).headD none).map (char :: ·) :: (itemSegments rest).tail
  | .segment :: rest => none :: (itemSegments rest).tail

/-- A text could have both. -/
def Overlap (one other : List (Option (List Char))) : Prop :=
  List.Forall₂ (fun first second => first = none ∨ second = none ∨ first = second) one other

theorem segments_ne_nil (text : List Char) : segments text ≠ [] := by
  cases text with
  | nil => simp [segments]
  | cons char rest =>
    rw [segments]
    split <;> simp

/-- A text without a slash joins the segment behind it. -/
theorem segments_append {group : List Char} (clear : '/' ∉ group) (rest : List Char) :
    segments (group ++ rest) = (group ++ (segments rest).headD []) :: (segments rest).tail := by
  induction group with
  | nil =>
    obtain ⟨first, others, shape⟩ := List.exists_cons_of_ne_nil (segments_ne_nil rest)
    simp [shape]
  | cons char group ih =>
    have own : char ≠ '/' := fun slash => clear (slash ▸ List.mem_cons_self)
    have ih := ih fun inside => clear (List.mem_cons_of_mem _ inside)
    rw [List.cons_append, segments, if_neg own, ih]
    rfl

theorem itemSegments_ne_nil (items : List Item) : itemSegments items ≠ [] := by
  cases items with
  | nil => simp [itemSegments]
  | cons item items =>
    cases item with
    | char char =>
      rw [itemSegments]
      split <;> simp
    | segment => simp [itemSegments]

/-- A segment that is written is the text's. -/
abbrev Agrees (written : Option (List Char)) (part : List Char) : Prop := ∀ text, written = some text → part = text

/-- What items match has their segments. -/
theorem agrees_of_runItems {items : List Item} {text : List Char} {groups : List (List Char)}
    (ran : runItems items text = some groups) : List.Forall₂ Agrees (itemSegments items) (segments text) := by
  induction items generalizing text groups with
  | nil =>
    cases text with
    | nil => exact .cons (fun text same => Option.some.inj same) .nil
    | cons char rest => contradiction
  | cons item items ih =>
    obtain ⟨written, others, shape⟩ := List.exists_cons_of_ne_nil (itemSegments_ne_nil items)
    cases item with
    | char char =>
      cases text with
      | nil => contradiction
      | cons first rest =>
        rw [runItems, Option.ite_none_right_eq_some] at ran
        obtain ⟨rfl, ran⟩ := ran
        obtain ⟨part, parts, cut⟩ := List.exists_cons_of_ne_nil (segments_ne_nil rest)
        have behind := ih ran
        rw [itemSegments, segments]
        split
        · exact .cons (fun text same => Option.some.inj same) behind
        · rw [shape, cut] at behind ⊢
          obtain ⟨head, tail⟩ := List.forall₂_cons.mp behind
          refine .cons (fun text same => ?_) tail
          obtain ⟨text', found, rfl⟩ := Option.map_eq_some_iff.mp same
          exact congrArg (first :: ·) (head text' found)
    | segment =>
      rw [runItems] at ran
      obtain ⟨before, listed, found⟩ := List.exists_of_findSome?_eq_some ran
      obtain ⟨rest, ran, -⟩ := Option.map_eq_some_iff.mp found
      have inside : before < (text.takeWhile (· ≠ '/')).length := List.mem_range.mp (List.mem_reverse.mp listed)
      have clear : '/' ∉ text.take (before + 1) := by
        intro slash
        have early : text.take (before + 1) <+: text.takeWhile (· ≠ '/') :=
          List.prefix_of_prefix_length_le (List.take_prefix _ _) (List.takeWhile_prefix _) (by
            rw [List.length_take]
            omega)
        exact absurd (List.mem_takeWhile_imp (early.subset slash)) (by simp)
      have behind := ih ran
      rw [← List.take_append_drop (before + 1) text, segments_append clear, itemSegments]
      refine .cons (fun text same => by contradiction) ?_
      obtain ⟨part, parts, cut⟩ := List.exists_cons_of_ne_nil (segments_ne_nil (text.drop (before + 1)))
      rw [shape, cut] at behind ⊢
      exact (List.forall₂_cons.mp behind).2

/-- Two lists of items that match one text overlap. -/
theorem overlap_of_agrees {one other : List (Option (List Char))} {parts : List (List Char)}
    (first : List.Forall₂ Agrees one parts) (second : List.Forall₂ Agrees other parts) : Overlap one other := by
  induction first generalizing other with
  | nil =>
    cases second
    exact .nil
  | cons head tail ih =>
    cases second with
    | cons head' tail' =>
      refine .cons ?_ (ih tail')
      rename_i written part _ _ written' _
      cases written with
      | none => exact .inl rfl
      | some text =>
        cases written' with
        | none => exact .inr (.inl rfl)
        | some text' => exact .inr (.inr (by rw [← head text rfl, ← head' text' rfl]))

instance (one other : List (Option (List Char))) : Decidable (Overlap one other) :=
  inferInstanceAs (Decidable (List.Forall₂ _ one other))

/-- The segments of a route's path. -/
def pathSegments (path : List Char) : List (Option (List Char)) := itemSegments ((pieces 0 path).map Piece.item)

def isPlain (char : Char) : Bool := char.isAlphanum || char = '/' || char = ':' || char = '-'

theorem not_mem_specials {char : Char} (plain : isPlain char = true) : char ∉ specials := by
  have apart : specials.all (!isPlain ·) = true := by decide
  intro special
  have signs := List.all_eq_true.mp apart char special
  rw [plain] at signs
  contradiction

/-- The paths have no sign of an expression, and two of a method have no text in common. -/
theorem paths_facts : let paths := routes.map fun one => (one.method, one.path.toList)
    (∀ path ∈ paths, path.2.all isPlain = true) ∧ paths.Pairwise fun one other =>
      one.1 = other.1 → ¬ Overlap (pathSegments one.2) (pathSegments other.2) := by
  decide +kernel

theorem plain_routes : ∀ one ∈ routes, ∀ char ∈ one.path.toList, char ∉ specials := by
  intro one member char inside
  have plain := paths_facts.1 _ (List.mem_map_of_mem member)
  exact not_mem_specials (List.all_eq_true.mp plain char inside)

/-- Routes of one method have no text in common. -/
def Apart (one other : Route Opts) : Prop :=
  one.method = other.method → ¬ Overlap (pathSegments one.path.toList) (pathSegments other.path.toList)

instance : Std.Symm Apart where
  symm _ _ apart same overlap := by
    refine apart same.symm (overlap.flip.imp fun first second common => ?_)
    rcases common with none | none | same
    · exact .inr (.inl none)
    · exact .inl none
    · exact .inr (.inr same.symm)

theorem routes_apart : routes.Pairwise Apart := by
  have apart := paths_facts.2
  rwa [List.pairwise_map] at apart

/-- A route is what `add` makes. -/
def Made (one : Route Opts) : Prop := one = route one.method one.path one.opts

theorem made_route (method path : String) (opts : Opts) : Made (route method path opts) := rfl

theorem made_routes : ∀ one ∈ routes, Made one := by
  simp only [routes, List.forall_mem_cons, made_route, List.not_mem_nil, IsEmpty.forall_iff, implies_true, and_self]

/-- What a route matches has its segments. -/
theorem agrees_of_matches {one : Route Opts} (member : one ∈ routes) {pathname : String}
    (fits : Matches execPlain pathname one) :
    List.Forall₂ Agrees (pathSegments one.path.toList) (segments pathname.toList) := by
  have literals : ∀ char, Piece.literal char ∈ pieces 0 one.path.toList → char ≠ '(' := by
    intro char inside
    rcases mem_pieces inside with ⟨other, listed, same⟩ | ⟨name, same, -⟩
    · obtain rfl := Piece.literal.inj same
      rintro rfl
      exact plain_routes one member '(' listed (by decide)
    · contradiction
  rw [made_routes one member, Matches, route] at fits
  simp only [execPlain, String.toList_ofList, List.tail_cons, List.dropLast_concat, Option.isSome_map] at fits
  rw [items_pattern literals] at fits
  obtain ⟨groups, ran⟩ := Option.isSome_iff_exists.mp fits
  exact agrees_of_runItems ran

/-- A request fits one route of its method. -/
theorem routes_single {method pathname : String} {one other : Route Opts} (member : one ∈ routes)
    (member' : other ∈ routes) (own : one.method = method) (own' : other.method = method)
    (fits : Matches execPlain pathname one) (fits' : Matches execPlain pathname other) : one = other := by
  by_contra different
  have overlap := overlap_of_agrees (agrees_of_matches member fits) (agrees_of_matches member' fits')
  exact routes_apart.forall member member' different (own.trans own'.symm) overlap

/-- Whatever the order in which the panel's routes are registered, a request gets the same one. -/
theorem routes_lawful (method pathname : String) : Lawful execPlain routes method pathname := by
  refine (matchRoute_lawful_plain_iff method pathname ?_).mpr ?_
  · intro one member
    exact ⟨one.path, one.opts, made_routes one member, plain_routes one member⟩
  · intro one member other member' own own' fits fits'
    exact routes_single member member' own own' fits fits'

/-! ## The gate -/

section

variable {backend : Backend} {sessions : Auth.Sessions} {now : ℕ} {request : Request} {handler : Handler}
  {session : Option Auth.Cookie.Session}

/-- A request that comes to the API. -/
structure ForApi (request : Request) (subPrefix : String) : Prop where
  plain : request.upgrades = false
  subscription : after? ("/" ++ subPrefix ++ "/") request.pathname = none
  statusPage : after? "/status/" request.pathname = none
  api : "/api/".toList <+: request.pathname.toList

/-- A session where one is needed, and the panel's own page where something changes. -/
def Allowed (request : Request) (session : Option Auth.Cookie.Session) (needsAuth : Bool) : Prop :=
  needsAuth = true → session.isSome = true ∧ (request.method = "GET" ∨ CsrfGate.csrfOk request.toRequest = true)

/-- What `dispatch` hands to a handler. -/
theorem dispatch_handled {needsAuth csrfOk : Bool} {chosen : Handler} {params params' : OrderedMap String String}
    {cookie : Option (List Char)} :
    dispatch backend sessions needsAuth csrfOk Answer.unauthorized .csrf
        (fun session => .ok (.handled chosen params session)) cookie now = .ok (.handled handler params' session) ↔
      chosen = handler ∧ params = params' ∧ authenticate backend sessions cookie now = .ok session ∧
        (needsAuth = true → session.isSome = true ∧ csrfOk = true) := by
  rw [dispatch]
  cases authenticate backend sessions cookie now with
  | error thrown => simp [bind, Except.bind]
  | ok found =>
    change (if needsAuth && found.isNone then Except.ok Answer.unauthorized
      else if needsAuth && !csrfOk then .ok .csrf else .ok (.handled chosen params found)) = _ ↔ _
    cases needsAuth with
    | false => simp
    | true =>
      cases found with
      | none =>
        simp only [Option.isNone_none, Bool.and_self, if_true]
        constructor
        · intro refused
          cases refused
        · rintro ⟨-, -, same, allowed⟩
          obtain rfl := Except.ok.inj same
          exact absurd (allowed trivial).1 (by decide)
      | some found =>
        cases csrfOk with
        | false =>
          constructor
          · intro refused
            cases refused
          · rintro ⟨-, -, -, allowed⟩
            exact absurd (allowed rfl).2 (by decide)
        | true =>
          simp only [Option.isNone_some, Bool.and_false, Bool.not_true, Bool.false_eq_true, if_false, Except.ok.injEq,
            Answer.handled.injEq, and_congr_right_iff]
          rintro - -
          constructor
          · rintro rfl
            exact ⟨rfl, fun _ => ⟨rfl, trivial⟩⟩
          · exact fun passed => passed.1

theorem found_of_route? {α : Type} {hit : Hit α} {chosen : Route α} (selected : hit.route? = some chosen) :
    ∃ params, hit = .found chosen params := by
  cases hit with
  | found route params =>
    obtain rfl := Option.some.inj selected
    exact ⟨params, rfl⟩
  | null => contradiction
  | wrongMethod allowed => contradiction

/-- What the API hands to a handler. -/
theorem api_handled : (∃ params, api backend sessions now request routes = .ok (.handled handler params session)) ↔
    ∃ one ∈ routes, Matches execPlain request.pathname one ∧ one.method = request.method ∧ one.opts.handler = handler ∧
      authenticate backend sessions request.cookie now = .ok session ∧ Allowed request session one.opts.needsAuth := by
  rw [api]
  constructor
  · rintro ⟨params, handled⟩
    rcases requireMatch_cases execPlain routes request.method request.pathname with
      ⟨chosen, params', hit, member, own⟩ | ⟨missed, -⟩ | ⟨missed, -⟩
    · rw [hit] at handled
      obtain ⟨same, -, known, allowed⟩ := dispatch_handled.mp handled
      obtain ⟨listed, fits⟩ := List.mem_filter.mp member
      refine ⟨chosen, listed, of_decide_eq_true fits, own, same, known, fun needed => ?_⟩
      exact (allowed needed).imp_right fun passed => by simpa using passed
    · rw [missed] at handled
      cases handled
    · rw [missed] at handled
      cases handled
  · rintro ⟨one, member, fits, own, rfl, known, allowed⟩
    obtain ⟨chosen, hit⟩ := matchRoute_complete member fits own
    obtain ⟨member', fits', own'⟩ := matchRoute_sound hit
    obtain rfl := routes_single member' member own' own fits' fits
    obtain ⟨params, found⟩ := found_of_route? hit
    refine ⟨params, ?_⟩
    rw [found, requireMatch]
    exact dispatch_handled.mpr ⟨rfl, rfl, known, fun needed => (allowed needed).imp_right fun passed => by simpa using passed⟩

/-- What `fetch` hands to a handler of the API: the one whose route a request has, where it is allowed. -/
theorem fetch_handled_iff (backend : Backend) (sessions : Auth.Sessions) (now : ℕ) (request : Request)
    (handler : Handler) (session : Option Auth.Cookie.Session) (subPrefix : String) (assets : Bool) :
    (∃ params, fetch backend sessions now request routes subPrefix assets = .ok (.handled handler params session)) ↔
      ForApi request subPrefix ∧ ∃ one ∈ routes, Matches execPlain request.pathname one ∧
        one.method = request.method ∧ one.opts.handler = handler ∧
        authenticate backend sessions request.cookie now = .ok session ∧ Allowed request session one.opts.needsAuth := by
  rw [← api_handled]
  constructor
  · rintro ⟨params, handled⟩
    rw [fetch] at handled
    split at handled
    · cases handled
    · rename_i plain
      split at handled
      · cases handled
      · rename_i subscription
        split at handled
        · cases handled
        · rename_i statusPage
          split at handled
          · rename_i ours
            exact ⟨⟨Bool.eq_false_of_not_eq_true plain, subscription, statusPage, ours⟩, params, handled⟩
          · split at handled
            · cases handled
            · split at handled <;> cases handled
  · rintro ⟨⟨plain, subscription, statusPage, ours⟩, params, handled⟩
    refine ⟨params, ?_⟩
    rw [fetch, plain, if_neg Bool.false_ne_true, subscription, statusPage]
    exact (if_pos ours).trans handled

end

end OmniControlPlane.Panel.Front
