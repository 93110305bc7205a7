import OmniControlPlane.Panel.PasswordRecord
import OmniControlPlane.Panel.Sessions

/-! # The cookie of a session

How `verifySession` reads a `Cookie` header, with what throws on the way: a part that is no base64, a value that has
no number, an id that the database does not take. It runs before every route of the panel, the login among them.
-/

namespace OmniControlPlane.Panel.Auth.Cookie

open Lib JavaScript Columns PasswordRecord
open Machine (Free)

/-! ## Values -/

mutual

/-- A JSON text as the value it stands for. -/
def js : Json → Js
  | .null => .null
  | .bool value => .bool value
  | .number value => .number (double value)
  | .decimal text => .number (numberOfString (String.ofList text))
  | .string text => .string text
  | .array items => .array (jsItems items)
  | .object fields => .object (jsFields fields)

def jsItems : List Json → List Js
  | [] => []
  | item :: items => js item :: jsItems items

def jsFields : List (String × Json) → Fields
  | [] => []
  | (key, value) :: fields => (key, js value) :: jsFields fields

end

/-- `value < now` of two numbers -/
def before (now : ℕ) : JsNumber → Bool
  | .nan => false
  | .infinity negative => negative
  | .finite value => value < toDouble now

/-- `value < now` -/
def less (value : Option Js) (now : ℕ) : Except Thrown Bool :=
  match value with
  | none => .ok false
  | some value =>
    match number value with
    | .ok number => .ok (before now number)
    | .error _ => .error .typeError

/-! ## The check of a cookie -/

/-- The session that a payload names. -/
structure Session where
  id : Option Js
  subject : Option Js
  role : Option Js

def timingSafeEqual (a b : List UInt8) : Bool := equalBytes a b

/-- `JSON.parse(new TextDecoder().decode(b64u.decode(body)))`, where it does not throw -/
def payload? (body : List Char) : Option Js :=
  (base64UrlBytes body).bind fun bytes => (Json.parse (decodeUtf8 bytes).toList).map js

/-- The panel, with the text that SQLite compares a number as with a column of text. -/
structure Backend where
  platform : Platform
  numberText : ℚ → String

section

variable (backend : Backend) (sessions : Sessions)

/-- `SELECT id FROM sessions WHERE id = ? AND expires_at > ?` -/
def select (id : Option Js) (now : ℕ) : Except Thrown (Option SessionRow) :=
  let standing (id : String) := (sessions.get? id).filter fun row => now < row.expires_at
  match id.map Columns.bind with
  | none | some (.error _) => .error .typeError
  | some (.ok (.text id)) => .ok (standing id)
  | some (.ok (.number id)) => .ok (standing (backend.numberText id))
  | some (.ok _) => .ok none

/-- What is done with a payload whose signature is right; `null` has no `exp`. -/
def checkPayload (payload : Js) (now : ℕ) : Except Thrown (Option Session) :=
  match payload.fields with
  | none => .ok none
  | some fields =>
    if truthy (fields.get "exp") = false then .ok none
    else do
      if ← less (fields.get "exp") now then .ok none
      else
        match ← select backend sessions (fields.get "id") now with
        | none => .ok none
        | some _ => .ok (some ⟨fields.get "id", fields.get "sub", fields.get "role"⟩)

def verifyToken (body signature : List Char) (now : ℕ) : Except Thrown (Option Session) := do
  let expect := b64u.encode (backend.platform.hmac backend.platform.signingKey body)
  if timingSafeEqual (← b64u.decode expect) (← b64u.decode signature) = false then .ok none
  else
    match payload? body with
    | none => .ok none
    | some payload => checkPayload backend sessions payload now

def verifySession (cookieHeader : List Char) (now : ℕ) : Except Thrown (Option Session) :=
  match tokenOf cookieHeader with
  | none => .ok none
  | some token =>
    match token.splitOn '.' with
    | body :: signature :: _ =>
      if body = [] ∨ signature = [] then .ok none else verifyToken backend sessions body signature now
    | _ => .ok none

def authenticate (cookie : Option (List Char)) (now : ℕ) : Except Thrown (Option Session) :=
  match cookie with
  | none => .ok none
  | some cookie => if SESSION_COOKIE.toList <:+: cookie then verifySession backend sessions cookie now else .ok none

/-- An API route, from the match on; one that needs no session is handled without. -/
def dispatch {α : Type} (needsAuth csrfOk : Bool) (unauthorized csrf : α) (handler : Option Session → Except Thrown α)
    (cookie : Option (List Char)) (now : ℕ) : Except Thrown α := do
  let session ← authenticate backend sessions cookie now
  if needsAuth && session.isNone then .ok unauthorized
  else if needsAuth && !csrfOk then .ok csrf
  else handler session

/-! ## What a cookie says -/

/-- There is a time in the future, as JavaScript compares it. -/
def Unexpired (fields : Fields) (now : ℕ) : Prop :=
  truthy (fields.get "exp") = true ∧ less (fields.get "exp") now = .ok false

/-- The id is that of a row that has not expired. -/
def Live (fields : Fields) (now : ℕ) : Prop := ∃ row, select backend sessions (fields.get "id") now = .ok (some row)

/-- The first cookie of the name is a body and its signature, and the body names a session that stands. -/
def Verifies (cookieHeader : List Char) (now : ℕ) (session : Session) : Prop :=
  ∃ body signature payload fields, tokenOf cookieHeader = some (body ++ '.' :: signature) ∧ '.' ∉ body ∧ '.' ∉ signature ∧
    body ≠ [] ∧ base64UrlBytes signature = some (backend.platform.hmac backend.platform.signingKey body) ∧
    payload? body = some payload ∧ payload.fields = some fields ∧ Unexpired fields now ∧ Live backend sessions fields now ∧
    session = ⟨fields.get "id", fields.get "sub", fields.get "role"⟩

def Answers (cookieHeader : List Char) (now : ℕ) : Prop :=
  ∃ answer, verifySession backend sessions cookieHeader now = .ok answer ∧
    ∀ session, answer = some session ↔ Verifies backend sessions cookieHeader now session

/-- The signature of the first cookie of the name is base64. If it is that of the body, the expiry can be compared;
the id can be looked up, if there is an expiry in the future; and if it is found, no third part follows. -/
def Orderly (cookieHeader : List Char) (now : ℕ) : Prop :=
  ∀ token body signature rest, tokenOf cookieHeader = some token → token.splitOn '.' = body :: signature :: rest →
    body ≠ [] → signature ≠ [] → ∃ bytes, base64UrlBytes signature = some bytes ∧
      (bytes = backend.platform.hmac backend.platform.signingKey body →
        ∀ payload fields, payload? body = some payload → payload.fields = some fields →
          truthy (fields.get "exp") = true → ∃ past, less (fields.get "exp") now = .ok past ∧
            (past = false → ∃ found, select backend sessions (fields.get "id") now = .ok found ∧
              (found.isSome = true → rest = [])))

end

section

variable {backend : Backend} {sessions : Sessions} {cookieHeader : List Char} {now : ℕ}

/-- What the payload of a right signature is answered with: the checks, in their order. -/
theorem checkPayload_eq {payload : Js} {fields : Fields} (object : payload.fields = some fields) :
    checkPayload backend sessions payload now =
      if truthy (fields.get "exp") = false then .ok none
      else
        match less (fields.get "exp") now with
        | .error thrown => .error thrown
        | .ok true => .ok none
        | .ok false =>
          (select backend sessions (fields.get "id") now).map (Option.map fun _ =>
            ⟨fields.get "id", fields.get "sub", fields.get "role"⟩) := by
  unfold checkPayload
  rw [object]
  dsimp only
  split
  · rfl
  cases less (fields.get "exp") now with
  | error thrown => rfl
  | ok past =>
    cases past with
    | true => rfl
    | false =>
      cases select backend sessions (fields.get "id") now with
      | error thrown => rfl
      | ok found => cases found <;> rfl

theorem verifyToken_eq (body signature : List Char) : verifyToken backend sessions body signature now =
    match base64UrlBytes signature with
    | none => .error .invalidCharacter
    | some bytes =>
      if bytes = backend.platform.hmac backend.platform.signingKey body then
        match payload? body with
        | none => .ok none
        | some payload => checkPayload backend sessions payload now
      else .ok none := by
  unfold verifyToken
  simp only [Bind.bind, Except.bind, b64u.encode, b64u.decode_eq, base64UrlBytes_base64Url, Option.elim]
  cases base64UrlBytes signature with
  | none => rfl
  | some bytes =>
    dsimp only
    by_cases right : bytes = backend.platform.hmac backend.platform.signingKey body
    · rw [if_pos right, if_neg]
      rw [timingSafeEqual, equalBytes_iff.mpr right.symm]
      decide
    · rw [if_neg right, if_pos]
      apply eq_false_of_ne_true
      exact fun equal => right (equalBytes_iff.mp equal).symm

/-- A header without a token that has two parts with something in them is that of no session. -/
theorem verifySession_other (other : ∀ token body signature rest, tokenOf cookieHeader = some token →
    token.splitOn '.' = body :: signature :: rest → ¬ (body ≠ [] ∧ signature ≠ [])) :
    verifySession backend sessions cookieHeader now = .ok none ∧
      ∀ session, ¬ Verifies backend sessions cookieHeader now session := by
  constructor
  · unfold verifySession
    split
    · rfl
    next token given =>
      split
      · next body signature rest parts =>
        rw [if_pos]
        have missing := other token body signature rest given parts
        tauto
      · rfl
  · rintro session ⟨body, signature, payload, fields, given, noDot, noDot', nonempty, right, -⟩
    refine other _ body signature [] given (splitOn_eq_pair_iff.mpr ⟨rfl, noDot, noDot'⟩) ⟨nonempty, ?_⟩
    rintro rfl
    have size := backend.platform.hmac_size backend.platform.signingKey body
    rw [← Option.some.inj right] at size
    exact absurd size (by decide)

/-- What a token of at least two parts says is what its body says, if there is no third. -/
theorem verifies_parts {token body signature : List Char} {rest : List (List Char)} {session : Session}
    (given : tokenOf cookieHeader = some token) (parts : token.splitOn '.' = body :: signature :: rest)
    (nonempty : body ≠ []) : Verifies backend sessions cookieHeader now session ↔
      rest = [] ∧ base64UrlBytes signature = some (backend.platform.hmac backend.platform.signingKey body) ∧
        ∃ payload fields, payload? body = some payload ∧ payload.fields = some fields ∧ Unexpired fields now ∧
          Live backend sessions fields now ∧ session = ⟨fields.get "id", fields.get "sub", fields.get "role"⟩ := by
  constructor
  · rintro ⟨body', signature', payload, fields, given', noDot, noDot', -, right, rest'⟩
    have pair : token.splitOn '.' = [body', signature'] :=
      splitOn_eq_pair_iff.mpr ⟨Option.some.inj (given.symm.trans given'), noDot, noDot'⟩
    obtain ⟨rfl, rfl, rfl⟩ : body = body' ∧ signature = signature' ∧ rest = [] := by
      simpa using parts.symm.trans pair
    exact ⟨rfl, right, payload, fields, rest'⟩
  · rintro ⟨rfl, right, payload, fields, said⟩
    obtain ⟨rfl, noDot, noDot'⟩ := splitOn_eq_pair_iff.mp parts
    exact ⟨body, signature, payload, fields, given, noDot, noDot', nonempty, right, said⟩

theorem exists_fields_iff {payload : Js} {fields : Fields} (object : payload.fields = some fields) {said : Fields → Prop} :
    (∃ payload' fields', some payload = some payload' ∧ payload'.fields = some fields' ∧ said fields') ↔ said fields := by
  constructor
  · rintro ⟨payload', fields', same, object', holds⟩
    obtain rfl := Option.some.inj same
    exact Option.some.inj (object.symm.trans object') ▸ holds
  · intro holds
    exact ⟨payload, fields, rfl, object, holds⟩

theorem forall_fields_iff {payload : Js} {fields : Fields} (object : payload.fields = some fields) {said : Fields → Prop} :
    (∀ payload' fields', some payload = some payload' → payload'.fields = some fields' → said fields') ↔ said fields := by
  constructor
  · intro all
    exact all payload fields rfl object
  · intro holds payload' fields' same object'
    obtain rfl := Option.some.inj same
    exact Option.some.inj (object.symm.trans object') ▸ holds

/-- What is asked of a token of at least two parts. -/
theorem answers_parts {token body signature : List Char} {rest : List (List Char)}
    (given : tokenOf cookieHeader = some token) (parts : token.splitOn '.' = body :: signature :: rest)
    (nonempty : body ≠ []) (nonempty' : signature ≠ []) :
    Answers backend sessions cookieHeader now ↔ ∃ bytes, base64UrlBytes signature = some bytes ∧
      (bytes = backend.platform.hmac backend.platform.signingKey body →
        ∀ payload fields, payload? body = some payload → payload.fields = some fields →
          truthy (fields.get "exp") = true → ∃ past, less (fields.get "exp") now = .ok past ∧
            (past = false → ∃ found, select backend sessions (fields.get "id") now = .ok found ∧
              (found.isSome = true → rest = []))) := by
  have verified : verifySession backend sessions cookieHeader now = verifyToken backend sessions body signature now := by
    unfold verifySession
    rw [given]
    dsimp only
    rw [parts]
    dsimp only
    rw [if_neg (by tauto)]
  unfold Answers
  simp only [verified, verifyToken_eq, verifies_parts given parts nonempty]
  cases base64UrlBytes signature with
  | none => simp
  | some bytes =>
    by_cases right : bytes = backend.platform.hmac backend.platform.signingKey body
    swap
    · simp [right]
    subst right
    cases payload? body with
    | none => simp
    | some payload =>
      cases object : payload.fields with
      | none =>
        refine iff_of_true ⟨none, by simp [checkPayload, object], fun session => iff_of_false nofun ?_⟩ ?_
        · rintro ⟨-, -, payload', fields, same, object', -⟩
          rw [← Option.some.inj same, object] at object'
          contradiction
        · refine ⟨_, rfl, fun _ payload' fields same object' => ?_⟩
          rw [← Option.some.inj same, object] at object'
          contradiction
      | some fields =>
        simp only [exists_fields_iff object, forall_fields_iff object, checkPayload_eq object, Unexpired, Live]
        simp only [if_true, Option.some.injEq, exists_eq_left', true_and, forall_const]
        cases truthy (fields.get "exp") with
        | false => simp
        | true =>
          cases less (fields.get "exp") now with
          | error thrown => simp
          | ok past =>
            cases past with
            | true => simp
            | false =>
              cases select backend sessions (fields.get "id") now with
              | error thrown => simp [Except.map]
              | ok found =>
                cases found with
                | none => simp [Except.map]
                | some row =>
                  simp only [Except.map, Option.map_some, Bool.true_eq_false, if_false, Except.ok.injEq, exists_eq_left',
                    Option.some.injEq, forall_const, Option.isSome_some, and_self, exists_eq', true_and]
                  constructor
                  · intro all
                    exact ((all _).mp rfl).1
                  · intro alone session
                    rw [alone]
                    exact ⟨fun same => ⟨rfl, same.symm⟩, fun same => same.2.symm⟩

/-- The name of the cookie is in every header that has a token. -/
theorem infix_of_tokenOf {token : List Char} (given : tokenOf cookieHeader = some token) :
    SESSION_COOKIE.toList <:+: cookieHeader := by
  obtain ⟨part, found, -⟩ := Option.map_eq_some_iff.mp given
  obtain ⟨raw, member, rfl⟩ := List.mem_map.mp (List.mem_of_find?_eq_some found)
  have named := List.isPrefixOf_iff_prefix.mp (List.find?_some found)
  have trimmed : trim (String.ofList raw) <:+: raw := by
    rw [trim, String.toList_ofList]
    exact (List.rdropWhile_prefix _ _).isInfix.trans (List.dropWhile_suffix _).isInfix
  exact ((List.prefix_append _ _).trans named).isInfix.trans (trimmed.trans (mem_splitOn_facts member).2)

theorem authenticate_eq (cookie : Option (List Char)) : authenticate backend sessions cookie now =
    cookie.elim (.ok none) fun cookie => verifySession backend sessions cookie now := by
  cases cookie with
  | none => rfl
  | some cookie =>
    unfold authenticate
    dsimp only [Option.elim]
    split
    · rfl
    · next missing =>
      cases given : tokenOf cookie with
      | none => rw [verifySession, given]
      | some token => exact absurd (infix_of_tokenOf given) missing

end

/-! ## The tokens of the panel -/

section

variable {backend : Backend} {world : World} {history : List Event} {id : String} {row : SessionRow}

/-- No id is issued twice. -/
theorem issued_run {platform : Platform} (run : (machine platform).Run Free {} history world) :
    (world.issued.map (·.1)).Nodup := by
  refine run.preserves (fun world => (world.issued.map (·.1)).Nodup) ?_ List.nodup_nil
  intro world event world' distinct _ stepped
  obtain ⟨-, -, shrinks | ⟨created, fresh, new, -, issued⟩⟩ := step_cases stepped
  · rwa [shrinks.issued]
  · rw [issued, List.map_append, List.map_singleton]
    exact List.nodup_append.mpr ⟨distinct, List.nodup_singleton _, by
      rintro other member _ drawn rfl
      obtain rfl := List.mem_singleton.mp drawn
      exact fresh member⟩

/-- The payload of a session, as the check reads it. -/
theorem payload?_encoded : ∃ fields : Fields, payload? (encodedPayload id row) = some (.object fields) ∧
    Fields.get fields "id" = some (.string id) ∧ Fields.get fields "sub" = some (.string row.subject) ∧
    Fields.get fields "role" = some (.string row.role) ∧
    Fields.get fields "exp" = some (.number (double (row.expires_at : ℤ))) := by
  obtain ⟨bytes, decoded, parsed⟩ := @parse_encodedPayload id row
  refine ⟨[("id", .string id), ("sub", .string row.subject), ("role", .string row.role),
    ("exp", .number (double (row.expires_at : ℤ))), ("iat", .number (double (row.created_at : ℤ)))], ?_, ?_, ?_, ?_, ?_⟩
  · rw [payload?, decoded, Option.bind_some, parsed]
    rfl
  all_goals simp [Fields.get, List.lookup_cons]

theorem less_number (value : JsNumber) (now : ℕ) : less (some (.number value)) now = .ok (before now value) := by
  simp only [less, number, throws, plainNumber, Bool.false_eq_true, if_false]

/-- A time that is still to come is truthy, and not before now. -/
theorem exp_future {expires now : ℕ} (future : now < expires) :
    truthy (some (.number (double (expires : ℤ)))) = true ∧ before now (double (expires : ℤ)) = false := by
  have positive : 0 < toDouble expires := by
    apply toDouble_pos
    have some_time : (1 : ℚ) ≤ expires := by exact_mod_cast Nat.one_le_of_lt future
    exact (zpow_le_one_of_nonpos₀ one_le_two (by decide)).trans some_time
  have later : ¬ toDouble expires < toDouble now :=
    not_lt.mpr (toDouble_mono (Nat.cast_nonneg now) (Nat.cast_le.mpr future.le))
  have natural : ¬ (expires : ℚ) < 0 := not_lt.mpr (Nat.cast_nonneg expires)
  rw [Int.cast_natCast]
  generalize (expires : ℚ) = value at positive later natural
  unfold double
  dsimp only
  split
  · constructor
    · unfold truthy
      have nonzero := positive.ne'
      split <;> simp_all
    · simp [before, later]
  · exact ⟨rfl, by simp [before, natural]⟩

/-- A token of the panel verifies while its row stands and has not expired. -/
theorem verifySession_token {sessions : Sessions} {cookieHeader : List Char} {now : ℕ}
    (own : ∀ standing, sessions.get? id = some standing → standing = row)
    (given : tokenOf cookieHeader = some (backend.platform.token id row)) :
    verifySession backend sessions cookieHeader now =
      .ok (if (sessions.get? id).isSome ∧ now < row.expires_at then
        some ⟨some (.string id), some (.string row.subject), some (.string row.role)⟩ else none) := by
  obtain ⟨parts, body, signature⟩ := @splitOn_token backend.platform id row
  obtain ⟨fields, payload, ids, sub, role, exp⟩ := @payload?_encoded id row
  have selected : select backend sessions (some (.string id)) now =
      .ok ((sessions.get? id).filter fun row => now < row.expires_at) := rfl
  unfold verifySession
  rw [given]
  dsimp only
  rw [parts]
  dsimp only
  rw [if_neg fun empty => empty.elim body signature, verifyToken_eq, base64UrlBytes_base64Url]
  dsimp only
  rw [if_pos rfl, payload]
  dsimp only
  rw [checkPayload_eq rfl, ids, sub, role, exp, selected, less_number]
  by_cases future : now < row.expires_at
  · obtain ⟨present, late⟩ := exp_future future
    rw [present, late, if_neg (by decide)]
    dsimp only
    cases found : sessions.get? id with
    | none => rfl
    | some standing =>
      obtain rfl := own standing found
      rw [Option.filter_some, if_pos (decide_eq_true future), if_pos ⟨rfl, future⟩]
      rfl
  · have expired : (sessions.get? id).filter (fun row => now < row.expires_at) = none := by
      rw [Option.filter_eq_none_iff]
      intro standing found
      rw [own standing found]
      simpa using future
    have refused : ¬ ((sessions.get? id).isSome = true ∧ now < row.expires_at) := fun both => future both.2
    rw [expired, if_neg refused]
    by_cases absent : truthy (some (.number (double (row.expires_at : ℤ)))) = false
    · rw [if_pos absent]
    · rw [if_neg absent]
      cases before now (double (row.expires_at : ℤ)) <;> rfl

end

/-- A header is answered as its first cookie of the name says exactly when it is orderly, and the check before every
route does nothing else. A token that was issued verifies until its row is deleted or it expires. -/
theorem answers_iff_orderly (backend : Backend) :
    (∀ sessions header now, Answers backend sessions header now ↔ Orderly backend sessions header now) ∧
    (∀ sessions cookie now, authenticate backend sessions cookie now =
      cookie.elim (.ok none) fun cookie => verifySession backend sessions cookie now) ∧
    ∀ history world, (machine backend.platform).Run Free {} history world → ∀ id row, (id, row) ∈ world.issued →
      ∀ header now, tokenOf header = some (backend.platform.token id row) →
        verifySession backend world.sessions header now =
          .ok (if (world.sessions.get? id).isSome ∧ now < row.expires_at then
            some ⟨some (.string id), some (.string row.subject), some (.string row.role)⟩ else none) := by
  refine ⟨?_, fun sessions cookie now => authenticate_eq cookie, ?_⟩
  · intro sessions header now
    by_cases two : ∃ token body signature rest, tokenOf header = some token ∧
        token.splitOn '.' = body :: signature :: rest ∧ body ≠ [] ∧ signature ≠ []
    · obtain ⟨token, body, signature, rest, given, parts, nonempty, nonempty'⟩ := two
      rw [answers_parts given parts nonempty nonempty']
      constructor
      · intro sane token' body' signature' rest' given' parts' _ _
        obtain rfl := Option.some.inj (given.symm.trans given')
        obtain ⟨rfl, rfl, rfl⟩ : body = body' ∧ signature = signature' ∧ rest = rest' := by
          simpa using parts.symm.trans parts'
        exact sane
      · intro orderly
        exact orderly token body signature rest given parts nonempty nonempty'
    · have other : ∀ token body signature rest, tokenOf header = some token →
          token.splitOn '.' = body :: signature :: rest → ¬ (body ≠ [] ∧ signature ≠ []) :=
        fun token body signature rest given parts both => two ⟨token, body, signature, rest, given, parts, both⟩
      obtain ⟨answered, never⟩ := @verifySession_other backend sessions header now other
      apply iff_of_true
      · exact ⟨none, answered, fun session => iff_of_false nofun (never session)⟩
      · intro token body signature rest given parts nonempty nonempty'
        exact absurd ⟨nonempty, nonempty'⟩ (other token body signature rest given parts)
  · intro history world run id row issued header now given
    apply verifySession_token _ given
    intro standing found
    have recorded := recorded_run run id standing found
    exact Prod.mk.inj (List.inj_on_of_nodup_map (issued_run run) recorded issued rfl) |>.2

namespace Sample

def backend : Backend := ⟨Auth.Sample.platform, fun _ => ""⟩

/-- A cookie whose signature is no base64. -/
def header : List Char := cookieHeader ['a', '.', '!']

end Sample

theorem answers_iff_orderly_issued : ∃ world, (machine Sample.backend.platform).Run Free {} (Auth.Sample.loggedIn "admin") world ∧
    ∀ header now, tokenOf header = some (Sample.backend.platform.token "second" ⟨"admin", "owner", 2000, 43202000⟩) →
      verifySession Sample.backend world.sessions header now =
        .ok (if (world.sessions.get? "second").isSome ∧ now < 43202000 then
          some ⟨some (.string "second"), some (.string "admin"), some (.string "owner")⟩ else none) := by
  obtain ⟨world, -, -, run, -, issued, -⟩ := @Auth.Sample.loggedIn_run "admin" (by decide +kernel)
  refine ⟨world, run, fun header now given => ?_⟩
  have member : ("second", ⟨"admin", "owner", 2000, 43202000⟩) ∈ world.issued :=
    issued ▸ List.mem_cons_of_mem _ List.mem_cons_self
  exact (answers_iff_orderly Sample.backend).2.2 _ world run _ _ member header now given

/-- A signature that is no base64 is answered with an error, also on a route that needs no session, as the login is. -/
theorem cookie_throws : ¬ Answers Sample.backend .empty Sample.header 0 ∧
    dispatch Sample.backend .empty false true 401 403 (fun _ => .ok 200) (some Sample.header) 0 = .error .invalidCharacter := by
  have thrown : verifySession Sample.backend .empty Sample.header 0 = .error .invalidCharacter := by
    have token : tokenOf Sample.header = some ['a', '.', '!'] := by
      apply tokenOf_cookieHeader
      intro char member
      simp only [List.mem_cons, List.not_mem_nil, or_false] at member
      rcases member with rfl | rfl | rfl <;> decide
    have parts : ['a', '.', '!'].splitOn '.' = [['a'], ['!']] := by decide
    have undecodable : base64UrlBytes ['!'] = none := by decide
    rw [verifySession, token]
    dsimp only
    rw [parts]
    dsimp only
    rw [if_neg (by decide), verifyToken_eq, undecodable]
  constructor
  · rintro ⟨answer, verified, -⟩
    exact nomatch thrown.symm.trans verified
  · rw [dispatch, authenticate_eq, Option.elim, thrown]
    rfl

end OmniControlPlane.Panel.Auth.Cookie
