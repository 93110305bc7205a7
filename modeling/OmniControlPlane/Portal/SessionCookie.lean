import OmniControlPlane.Lib.OrderedMap
import OmniControlPlane.Lib.Text
import OmniControlPlane.Lib.Uri

/-! # The session of a tenant

`requireSession` looks for one cookie with a regular expression, takes the first match that is not empty, and decodes
it before any check. A header may have several cookies of the name.
-/

namespace OmniControlPlane.Portal.SessionCookie

open Lib

inductive Thrown where
  | uriError
  | httpError (status : ℕ) (code message : String)
deriving DecidableEq, Repr

/-! ## The code -/

/-- A row of `sessions`; the text of `expires_at` as the time that it says. -/
structure SessionRow where
  tenant_id : String
  expires_at : ℕ
  last_seen_at : ℕ
deriving DecidableEq, Repr

/-- A row of `tenants` -/
structure Tenant where
  telegram_user_id : String
  display_name : String
  status : String
deriving DecidableEq, Repr

structure Db where
  sessions : OrderedMap String SessionRow
  tenants : OrderedMap String Tenant

structure SessionPrincipal where
  tenantId : String
  telegramUserId : String
  displayName : String
  isAdmin : Bool
  sessionHash : String
deriving DecidableEq, Repr

/-- `v13_session=` -/
def COOKIE : List Char := "v13_session=".toList

/-- `v13_session=([^;]+)`, at the beginning of a text -/
def matchValue (text : List Char) : Option (List Char) :=
  if COOKIE.isPrefixOf text then
    let value := (text.drop COOKIE.length).takeWhile (· ≠ ';')
    if value = [] then none else some value
  else none

/-- `;\s*v13_session=([^;]+)`; as the name begins with no white space, all of it is skipped. -/
def matchSeparated : List Char → Option (List Char)
  | ';' :: rest => matchValue (rest.dropWhile isJsSpace)
  | _ => none

/-- `(?:^|;\s*)v13_session=([^;]+)`, at a place of a text -/
def matchHere (start : Bool) (text : List Char) : Option (List Char) :=
  (if start then matchValue text else none).or (matchSeparated text)

/-- The group of the first match. -/
def exec : Bool → List Char → Option (List Char)
  | start, [] => matchHere start []
  | start, char :: rest => (matchHere start (char :: rest)).or (exec false rest)

section

variable (sha256 : String → String) (admins : String) (db : Db) (now : ℕ)

/-- `SELECT … FROM sessions s JOIN tenants t ON t.id = s.tenant_id WHERE s.session_hash = ?` -/
def select (sessionHash : String) : Option (SessionRow × Tenant) := do
  let row ← db.sessions.get? sessionHash
  let tenant ← db.tenants.get? row.tenant_id
  some (row, tenant)

/-- `new Set(env.ADMIN_TELEGRAM_IDS.split(",").map(trim).filter(Boolean))` -/
def adminIds : List String :=
  ((admins.toList.splitOn ',').map fun value => String.ofList (trim (String.ofList value))).filter (· ≠ "")

/-- What is read of a session, once its token is known. -/
def principal? (raw : String) : Option SessionPrincipal :=
  if (utf16 raw).length < 32 ∨ 128 < (utf16 raw).length then none
  else
    match select db (sha256 raw) with
    | none => none
    | some (row, tenant) =>
      if tenant.status ≠ "active" ∨ row.expires_at ≤ now then none
      else
        some ⟨row.tenant_id, tenant.telegram_user_id, tenant.display_name,
          (adminIds admins).contains tenant.telegram_user_id, sha256 raw⟩

/-- The database after the session was seen. -/
def seen (sessionHash : String) : Db :=
  { db with sessions := db.sessions.modify sessionHash fun row => { row with last_seen_at := now } }

def requireSession (header : Option String) : Except Thrown (Db × Option SessionPrincipal) :=
  let cookie := (header.getD "").toList
  match exec true cookie with
  | none => .ok (db, none)
  | some value =>
    match percentDecode value with
    | none => .error .uriError
    | some raw =>
      match principal? sha256 admins db now raw with
      | none => .ok (db, none)
      | some principal => .ok (seen db now principal.sessionHash, some principal)

def authenticated (header : Option String) : Except Thrown (Db × SessionPrincipal) := do
  match ← requireSession sha256 admins db now header with
  | (_, none) => .error (.httpError 401 "authentication_required" "Open a fresh link from the Telegram bot")
  | (db, some principal) => .ok (db, principal)

end

/-! ## The cookies of a header -/

/-- The value of a cookie, if it has the name. -/
def valueOf (cookie : List Char) : Option (List Char) :=
  if COOKIE.isPrefixOf cookie then some (cookie.drop COOKIE.length) else none

/-- The cookies of a header, without the white space before each but the first. -/
def cookies (header : List Char) : List (List Char) :=
  match header.splitOn ';' with
  | [] => []
  | first :: rest => first :: rest.map (List.dropWhile isJsSpace)

/-- The values of the cookies with the name, in order. -/
def cookieValues (header : List Char) : List (List Char) := (cookies header).filterMap valueOf

section

variable (sha256 : String → String) (admins : String) (db : Db) (now : ℕ)

/-- A value that is the token of a session of an active tenant, which has not expired. -/
def Names (value : List Char) (principal : SessionPrincipal) : Prop :=
  ∃ raw row tenant, percentDecode value = some raw ∧ 32 ≤ (utf16 raw).length ∧ (utf16 raw).length ≤ 128 ∧
    db.sessions.get? (sha256 raw) = some row ∧ db.tenants.get? row.tenant_id = some tenant ∧
    tenant.status = "active" ∧ now < row.expires_at ∧
    principal = ⟨row.tenant_id, tenant.telegram_user_id, tenant.display_name,
      (adminIds admins).contains tenant.telegram_user_id, sha256 raw⟩

/-- The answer is a principal exactly when a cookie names one, and it is one that a cookie names. -/
def Answers (header : Option String) : Prop :=
  ∃ db' answer, requireSession sha256 admins db now header = .ok (db', answer) ∧
    (answer.isSome = true ↔ ∃ value ∈ cookieValues (header.getD "").toList, ∃ principal,
      Names sha256 admins db now value principal) ∧
    ∀ principal, answer = some principal → ∃ value ∈ cookieValues (header.getD "").toList,
      Names sha256 admins db now value principal

/-- The first value that is not empty can be decoded, and names a session if any value does. -/
def Orderly (header : Option String) : Prop :=
  ∀ first, (cookieValues (header.getD "").toList).find? (· ≠ []) = some first → percentDecode first ≠ none ∧
    ∀ value ∈ cookieValues (header.getD "").toList, ∀ principal, Names sha256 admins db now value principal →
      ∃ principal, Names sha256 admins db now first principal

end

/-! ## The match -/

section

variable {text : List Char}

theorem takeWhile_dropWhile_space : (text.dropWhile isJsSpace).takeWhile (· ≠ ';') =
    (text.takeWhile (· ≠ ';')).dropWhile isJsSpace := by
  have separator : isJsSpace ';' = false := by decide
  induction text with
  | nil => rfl
  | cons char rest ih =>
    by_cases space : isJsSpace char = true
    · have other : char ≠ ';' := by
        rintro rfl
        rw [separator] at space
        contradiction
      rw [List.dropWhile_cons_of_pos space, List.takeWhile_cons_of_pos (by simpa using other),
        List.dropWhile_cons_of_pos space, ih]
    · rw [List.dropWhile_cons_of_neg space]
      by_cases other : char = ';'
      · rw [List.takeWhile_cons_of_neg (by simpa using other)]
        rfl
      · rw [List.takeWhile_cons_of_pos (by simpa using other), List.dropWhile_cons_of_neg space]

/-- What matches is the value of the cookie that begins there, if it is not empty. -/
theorem matchValue_eq (text : List Char) :
    matchValue text = (valueOf (text.takeWhile (· ≠ ';'))).filter (· ≠ []) := by
  have name : ∀ char ∈ COOKIE, decide (char ≠ ';') = true := List.all_eq_true.mp (by decide +kernel)
  by_cases named : COOKIE <+: text
  · obtain ⟨value, rfl⟩ := named
    rw [matchValue, if_pos (List.isPrefixOf_iff_prefix.mpr (List.prefix_append _ _)), List.takeWhile_append_of_pos name,
      valueOf, if_pos (List.isPrefixOf_iff_prefix.mpr (List.prefix_append _ _)), List.drop_left, List.drop_left]
    dsimp only
    by_cases empty : value.takeWhile (· ≠ ';') = []
    · rw [if_pos empty, Option.filter_some, if_neg (by simpa using empty)]
    · rw [if_neg empty, Option.filter_some, if_pos (by simpa using empty)]
  · have other : ¬ COOKIE <+: text.takeWhile (· ≠ ';') := fun front => named (front.trans (List.takeWhile_prefix _))
    rw [matchValue, if_neg fun found => named (List.isPrefixOf_iff_prefix.mp found), valueOf,
      if_neg fun found => other (List.isPrefixOf_iff_prefix.mp found), Option.filter_none]

theorem takeWhile_of_splitOn {first : List Char} {rest : List (List Char)} (split : text.splitOn ';' = first :: rest) :
    text.takeWhile (· ≠ ';') = first := by
  rcases splitOn_cases ';' text with ⟨absent, single⟩ | ⟨front, behind, rfl, absent, split'⟩
  · obtain ⟨rfl, -⟩ := List.cons.inj (single.symm.trans split)
    exact List.takeWhile_eq_self_iff.mpr fun char member => by
      simpa using fun same : char = ';' => absent (same ▸ member)
  · obtain ⟨rfl, -⟩ := List.cons.inj (split'.symm.trans split)
    rw [List.takeWhile_append_of_pos, List.takeWhile_cons_of_neg (by simp), List.append_nil]
    exact fun char member => by simpa using fun same : char = ';' => absent (same ▸ member)

theorem find?_filterMap_cons (cookie : List Char) (rest : List (List Char)) :
    ((cookie :: rest).filterMap valueOf).find? (· ≠ []) =
      ((valueOf cookie).filter (· ≠ [])).or ((rest.filterMap valueOf).find? (· ≠ [])) := by
  rw [List.filterMap_cons]
  cases valueOf cookie with
  | none => rfl
  | some value =>
    by_cases empty : value = []
    · rw [List.find?_cons_of_neg (by simpa using empty), Option.filter_some, if_neg (by simpa using empty), Option.none_or]
    · rw [List.find?_cons_of_pos (by simpa using empty), Option.filter_some, if_pos (by simpa using empty), Option.some_or]

theorem exec_false_eq {first : List Char} {rest : List (List Char)} (split : text.splitOn ';' = first :: rest) :
    exec false text = ((rest.map (List.dropWhile isJsSpace)).filterMap valueOf).find? (· ≠ []) := by
  induction text generalizing first rest with
  | nil =>
    obtain ⟨-, rfl⟩ := List.cons.inj (split.symm.trans (List.splitOn_nil ';'))
    rfl
  | cons char tail ih =>
    obtain ⟨next, more, split'⟩ := List.exists_cons_of_ne_nil (List.splitOn_ne_nil ';' tail)
    rw [exec, ih split', matchHere, if_neg (by decide), Option.none_or]
    by_cases separator : char = ';'
    · subst separator
      have whole : (';' :: tail).splitOn ';' = [] :: tail.splitOn ';' := List.splitOn_append_cons_self [] tail
      obtain ⟨-, rfl⟩ := List.cons.inj (split.symm.trans whole)
      rw [split', List.map_cons, find?_filterMap_cons, matchSeparated, matchValue_eq, takeWhile_dropWhile_space,
        takeWhile_of_splitOn split']
    · have whole : (char :: tail).splitOn ';' = (char :: next) :: more := by
        rw [List.splitOn_cons_eq_if_modifyHead, if_neg (by simpa using separator), split']
        rfl
      obtain ⟨-, rfl⟩ := List.cons.inj (split.symm.trans whole)
      have other : matchSeparated (char :: tail) = none := by
        unfold matchSeparated
        split
        · next same => exact absurd (List.cons.inj same).1 separator
        · rfl
      rw [other, Option.none_or]

/-- The regular expression finds the first value that is not empty. -/
theorem exec_eq (header : List Char) : exec true header = (cookieValues header).find? (· ≠ []) := by
  obtain ⟨first, rest, split⟩ := List.exists_cons_of_ne_nil (List.splitOn_ne_nil ';' header)
  have start : exec true header = (matchValue header).or (exec false header) := by
    cases header with
    | nil => rfl
    | cons char tail => rw [exec, exec, matchHere, matchHere, if_pos rfl, if_neg (by decide), Option.none_or, Option.or_assoc]
  rw [start, exec_false_eq split, matchValue_eq, takeWhile_of_splitOn split, cookieValues, cookies, split]
  exact (find?_filterMap_cons first _).symm

end

/-! ## What is answered -/

section

variable {sha256 : String → String} {admins : String} {db : Db} {now : ℕ} {header : Option String}

theorem principal?_eq_some_iff {value : List Char} {raw : String} (decoded : percentDecode value = some raw)
    (principal : SessionPrincipal) :
    principal? sha256 admins db now raw = some principal ↔ Names sha256 admins db now value principal := by
  unfold principal? select Names
  constructor
  · intro found
    split at found
    · contradiction
    split at found
    · contradiction
    next length _ row tenant selected =>
      obtain ⟨row', session, selected⟩ := Option.bind_eq_some_iff.mp selected
      obtain ⟨tenant', owner, same⟩ := Option.bind_eq_some_iff.mp selected
      obtain ⟨rfl, rfl⟩ := Prod.mk.inj (Option.some.inj same)
      split at found
      · contradiction
      · next standing =>
        simp only [not_or, not_not, not_le] at standing length
        exact ⟨raw, row', tenant', decoded, by omega, by omega, session, owner, standing.1, standing.2,
          (Option.some.inj found).symm⟩
  · rintro ⟨raw', row, tenant, decoded', least, most, session, owner, active, unexpired, rfl⟩
    obtain rfl := Option.some.inj (decoded.symm.trans decoded')
    rw [if_neg (by omega), session, Option.bind_eq_bind, Option.bind_some, owner]
    simp [active, unexpired]

/-- An empty value names no session. -/
theorem not_names_nil (principal : SessionPrincipal) : ¬ Names sha256 admins db now [] principal := by
  rintro ⟨raw, row, tenant, decoded, least, -⟩
  rw [percentDecode_plain (by simp)] at decoded
  obtain rfl := Option.some.inj decoded
  exact absurd least (by decide)

/-- A header is answered as its cookies say exactly when it is orderly. -/
theorem session_answers_iff :
    Answers sha256 admins db now header ↔ Orderly sha256 admins db now header := by
  unfold Answers Orderly requireSession
  dsimp only
  rw [exec_eq]
  generalize cookieValues (header.getD "").toList = values
  cases found : values.find? (· ≠ []) with
  | none =>
    have empty : ∀ value ∈ values, value = [] := by
      simpa using found
    refine iff_of_true ⟨db, none, rfl, iff_of_false Bool.false_ne_true ?_, nofun⟩ nofun
    rintro ⟨value, member, principal, names⟩
    rw [empty value member] at names
    exact not_names_nil principal names
  | some first =>
    have member := List.mem_of_find?_eq_some found
    dsimp only
    cases decoded : percentDecode first with
    | none =>
      refine iff_of_false ?_ fun orderly => (orderly first rfl).1 decoded
      rintro ⟨db', answer, thrown, -⟩
      contradiction
    | some raw =>
      have named (principal : SessionPrincipal) :=
        @principal?_eq_some_iff sha256 admins db now first raw decoded principal
      dsimp only
      cases checked : principal? sha256 admins db now raw with
      | none =>
        have nobody (principal' : SessionPrincipal) : ¬ Names sha256 admins db now first principal' := by
          rw [← named, checked]
          exact nofun
        constructor
        · rintro ⟨db', answer, answered, exact, -⟩
          obtain ⟨rfl, rfl⟩ := Prod.mk.inj (Except.ok.inj answered)
          rintro first' same
          refine ⟨?_, fun value member' principal' names => ?_⟩
          · rw [← Option.some.inj same, decoded]
            exact nofun
          · exact absurd (exact.mpr ⟨value, member', principal', names⟩) Bool.false_ne_true
        · intro orderly
          refine ⟨db, none, rfl, iff_of_false Bool.false_ne_true ?_, nofun⟩
          rintro ⟨value, member', principal', names⟩
          obtain ⟨principal'', names'⟩ := (orderly first rfl).2 value member' principal' names
          exact nobody principal'' names'
      | some principal =>
        have names := (named principal).mp checked
        apply iff_of_true
        · refine ⟨_, _, rfl, iff_of_true rfl ⟨first, member, principal, names⟩, fun principal' same => ?_⟩
          exact ⟨first, member, Option.some.inj same ▸ names⟩
        · rintro first' same
          obtain rfl := Option.some.inj same
          refine ⟨?_, fun value member' principal' names' => ⟨principal, names⟩⟩
          rw [decoded]
          exact nofun

end

/-- A cookie with a malformed escape throws, where the answer should be that there is no session. -/
theorem malformed_cookie_throws : ¬ Answers (fun raw => raw) "" ⟨.empty, .empty⟩ 0 (some "v13_session=%") ∧
    authenticated (fun raw => raw) "" ⟨.empty, .empty⟩ 0 (some "v13_session=%") = .error .uriError := by
  have thrown : requireSession (fun raw => raw) "" ⟨.empty, .empty⟩ 0 (some "v13_session=%") = .error .uriError := by
    have value : exec true "v13_session=%".toList = some ['%'] := by decide +kernel
    have malformed : percentDecode ['%'] = none := rfl
    unfold requireSession
    rw [Option.getD_some]
    simp only [value, malformed]
  constructor
  · rintro ⟨db', answer, answered, -⟩
    exact nomatch thrown.symm.trans answered
  · simp only [authenticated, thrown]
    rfl

end OmniControlPlane.Portal.SessionCookie
