import OmniControlPlane.Lib.Base64
import OmniControlPlane.Lib.Json
import OmniControlPlane.Lib.Machine
import OmniControlPlane.Panel.Settings

/-! # The sessions of the admins

A session is a row of `sessions` and a signed cookie that names it. Both are made by `createSession`, and
`verifySession` accepts a cookie as long as its row stands and neither has expired. The subject of a
session is what the body of a login says; no code compares it with anything.

WebCrypto and the password hashes are parameters. A request is one step here, at one reading of the clock.
-/

namespace OmniControlPlane.Panel.Auth

open Lib Machine

structure HttpError where
  status : ℕ
  code : String
  message : String
deriving DecidableEq, Repr

def badRequest (message : String) : HttpError := ⟨400, "bad_request", message⟩

def unauthorized (message : String) : HttpError := ⟨401, "unauthorized", message⟩

def forbidden (message : String) : HttpError := ⟨403, "forbidden", message⟩

def tooMany : HttpError := ⟨429, "rate_limited", "too many requests"⟩

/-- What `hashPassword` returns; it begins with the name of the scheme. -/
structure PasswordHash where
  text : String
  nonempty : text ≠ ""
deriving DecidableEq, Repr

/-- What the panel gets from its environment and from WebCrypto. -/
structure Platform where
  signingKey : String
  hmac : String → List Char → List UInt8
  hmac_size : ∀ key data, (hmac key data).length = 32
  hashPassword : String → String → PasswordHash
  verifyPassword : String → String → Bool
  sessionTtlMs : ℕ
  recoveryCode : Option String

/-- A row of `sessions`. -/
structure SessionRow where
  subject : String
  role : String
  created_at : ℕ
  expires_at : ℕ
deriving DecidableEq, Repr

/-- Rows by `id`. -/
abbrev Sessions := OrderedMap String SessionRow

def SESSION_COOKIE : String := "kaveh_session"

/-! ## Cookies -/

/-- The payload of a session's cookie. -/
def payload (id : String) (row : SessionRow) : Json :=
  .object [("id", .string id), ("sub", .string row.subject), ("role", .string row.role),
    ("exp", .number row.expires_at), ("iat", .number row.created_at)]

def encodedPayload (id : String) (row : SessionRow) : List Char :=
  base64Url (utf8 (String.ofList (Json.write Json.compact 0 (payload id row))))

/-- The token of a session. -/
def Platform.token (platform : Platform) (id : String) (row : SessionRow) : List Char :=
  encodedPayload id row ++ '.' :: base64Url (platform.hmac platform.signingKey (encodedPayload id row))

/-- The `Cookie` header of a browser that has a token. -/
def cookieHeader (token : List Char) : List Char := SESSION_COOKIE.toList ++ '=' :: token

structure VerifiedSession where
  id : String
  subject : Option String
  role : Option String
deriving DecidableEq, Repr

def text? : Option Json → Option String
  | some (.string text) => some text
  | _ => none

/-- The token in a `Cookie` header. -/
def tokenOf (header : List Char) : Option (List Char) :=
  (((header.splitOn ';').map fun part => trim (String.ofList part)).find? fun part =>
    (SESSION_COOKIE.toList ++ ['=']).isPrefixOf part).map (·.drop (SESSION_COOKIE.length + 1))

/-- What an authentic body says, if it has not expired. -/
def readPayload (body : List Char) (now : ℕ) : Option (String × VerifiedSession) := do
  let bytes ← base64UrlBytes body
  let payload ← Json.parse (decodeUtf8 bytes).toList
  let .number expires ← payload.field? "exp" | none
  if expires = 0 ∨ expires < now then none
  else
    let id ← text? (payload.field? "id")
    some (id, ⟨id, text? (payload.field? "sub"), text? (payload.field? "role")⟩)

def verifySession (platform : Platform) (sessions : Sessions) (header : List Char) (now : ℕ) : Option VerifiedSession := do
  let token ← tokenOf header
  match token.splitOn '.' with
  | body :: signature :: _ =>
    if body = [] ∨ signature = [] then none
    else if base64UrlBytes signature ≠ some (platform.hmac platform.signingKey body) then none
    else
      let (id, session) ← readPayload body now
      let row ← sessions.get? id
      if now < row.expires_at then some session else none
  | _ => none

/-! ## The requests -/

/-- The panel. `issued` are the sessions for which a cookie was ever made; no table has them. -/
structure World where
  settings : SettingsTable := .empty
  sessions : Sessions := .empty
  clock : ℕ := 0
  issued : List (String × SessionRow) := []

/-- A body's `password` and `username`, each as `String(value || "")`. -/
structure Credentials where
  password : String
  username : String
deriving DecidableEq, Repr

inductive Request where
  | setup (body : Credentials) (salt id : String)
  | login (body : Credentials) (allowed : Bool) (id : String)
  | logout (cookie : List Char)
  | changePassword (cookie : List Char) (current next salt : String)
  | recover (code password salt : String)
  | revokeSession (cookie : List Char) (all : Bool) (id : String)
  | purgeExpiredSessions
deriving DecidableEq, Repr

inductive Reply where
  | session (username : String) (token : List Char)
  | ok

section

variable (platform : Platform) (world : World) (now : ℕ)

def setting (key : String) : String := ((world.settings.get? key).map (·.value)).getD ""

def createSession (id subject role : String) : World × List Char :=
  let row : SessionRow := ⟨subject, role, now, now + platform.sessionTtlMs⟩
  ({ world with sessions := world.sessions.alter id fun _ => row, issued := world.issued ++ [(id, row)] },
    platform.token id row)

def destroySession (id : String) : World := { world with sessions := world.sessions.filter fun other _ => other ≠ id }

/-- `destroyAllSessions`; without a subject it deletes every row. -/
def destroyAllSessions (subject : Option String) : World :=
  { world with sessions := world.sessions.filter fun _ row =>
      !(subject.getD "" = "" || row.subject = subject.getD "") }

def purgeExpiredSessions : World :=
  { world with sessions := world.sessions.filter fun _ row => !(row.expires_at < now) }

def setSettings (entries : List (String × String)) : World :=
  { world with settings := (Settings.set {} world.settings entries now).2.1 }

/-- `text.slice(0, 32)` -/
def slice32 (text : String) : String := String.ofList (Json.decodeUtf16 ((utf16 text).take 32))

def CORE_VERSION : String := "0.1.0"

def setup (body : Credentials) (salt id : String) : World × Except HttpError Reply :=
  if setting world "admin_hash" ≠ "" then (world, .error (forbidden "پنل قبلاً راه‌اندازی شده است"))
  else if (utf16 body.password).length < 10 then
    (world, .error (badRequest "رمز عبور باید حداقل ۱۰ کاراکتر باشد"))
  else
    let username := slice32 (if body.username = "" then "admin" else body.username)
    let hash := (platform.hashPassword body.password salt).text
    let world := setSettings world now [("admin_hash", hash), ("admin_user", username), ("installed_at", toString now),
      ("core_version", CORE_VERSION)]
    let (world, token) := createSession platform world now id username "owner"
    (world, .ok (.session username token))

def login (body : Credentials) (allowed : Bool) (id : String) : World × Except HttpError Reply :=
  let stored := setting world "admin_hash"
  if stored = "" then (world, .error ⟨409, "not_installed", "پنل هنوز راه‌اندازی نشده"⟩)
  else if !allowed then (world, .error tooMany)
  else
    let subject := if body.username ≠ "" then body.username
      else if setting world "admin_user" ≠ "" then setting world "admin_user" else "admin"
    if !platform.verifyPassword body.password stored then (world, .error (unauthorized "رمز عبور اشتباه است"))
    else
      let (world, token) := createSession platform world now id subject "owner"
      (world, .ok (.session subject token))

def changePassword (current next salt : String) : World × Except HttpError Reply :=
  if (utf16 next).length < 10 then (world, .error (badRequest "رمز جدید باید حداقل ۱۰ کاراکتر باشد"))
  else if setting world "admin_hash" = "" ∨ !platform.verifyPassword current (setting world "admin_hash") then
    (world, .error (unauthorized "رمز فعلی اشتباه است"))
  else
    (destroyAllSessions (setSettings world now [("admin_hash", (platform.hashPassword next salt).text)]) none, .ok .ok)

def recover (code password salt : String) : World × Except HttpError Reply :=
  match platform.recoveryCode with
  | none => (world, .error (forbidden ("بازیابی رمز غیرفعال است. " ++
      "متغیر RECOVERY_CODE را در wrangler.toml یا داشبورد کلودفلر تنظیم کنید.")))
  | some expected =>
    if expected = "" then (world, .error (forbidden ("بازیابی رمز غیرفعال است. " ++
      "متغیر RECOVERY_CODE را در wrangler.toml یا داشبورد کلودفلر تنظیم کنید.")))
    else if code ≠ expected then (world, .error (unauthorized "کد بازیابی اشتباه است"))
    else if (utf16 password).length < 10 then (world, .error (badRequest "رمز جدید باید حداقل ۱۰ کاراکتر باشد"))
    else
      (destroyAllSessions (setSettings world now [("admin_hash", (platform.hashPassword password salt).text)]) none, .ok .ok)

def revokeSession (session : VerifiedSession) (all : Bool) (id : String) : World × Except HttpError Reply :=
  if all then (purgeExpiredSessions (destroyAllSessions world session.subject) now, .ok .ok)
  else (destroySession world id, .ok .ok)

/-- The check before a route that needs a session. -/
def authenticated (cookie : List Char) (route : VerifiedSession → World × Except HttpError Reply) :
    World × Except HttpError Reply :=
  match verifySession platform world.sessions cookie now with
  | none => (world, .error (unauthorized "وارد شوید"))
  | some session => route session

def handle : Request → World × Except HttpError Reply
  | .setup body salt id => setup platform world now body salt id
  | .login body allowed id => login platform world now body allowed id
  | .logout cookie => authenticated platform world now cookie fun session => (destroySession world session.id, .ok .ok)
  | .changePassword cookie current next salt =>
    authenticated platform world now cookie fun _ => changePassword platform world now current next salt
  | .recover code password salt => recover platform world now code password salt
  | .revokeSession cookie all id => authenticated platform world now cookie fun session => revokeSession world now session all id
  | .purgeExpiredSessions => (purgeExpiredSessions world now, .ok .ok)

end

/-- The id that `crypto.randomUUID` draws for a request. -/
def Request.draws : Request → Option String
  | .setup _ _ id | .login _ _ id => some id
  | _ => none

structure Event where
  now : ℕ
  request : Request
deriving DecidableEq, Repr

/-- The clock does not go back, and a drawn id is a new one. -/
def step? (platform : Platform) (world : World) (event : Event) : Option World :=
  if world.clock ≤ event.now ∧ ∀ id ∈ event.request.draws, id ∉ world.issued.map (·.1) then
    some { (handle platform world event.now event.request).1 with clock := event.now }
  else none

def machine (platform : Platform) : Machine World Event := ⟨step? platform⟩

/-! ## An issued cookie is read back -/

section

variable {platform : Platform} {id : String} {row : SessionRow} {now : ℕ}

/-- The body of a token is decoded and parsed to its payload. -/
theorem parse_encodedPayload : ∃ bytes, base64UrlBytes (encodedPayload id row) = some bytes ∧
    Json.parse (decodeUtf8 bytes).toList = some (payload id row) := by
  have plain : (payload id row).Plain := ⟨by simp, trivial, trivial, trivial, trivial, trivial, trivial⟩
  have unmarked : ∀ char ∈ (String.ofList (Json.write Json.compact 0 (payload id row))).toList.head?,
      char.toNat ≠ 0xFEFF := by
    intro char head
    rw [String.toList_ofList, payload, Json.write, List.head?_cons, Option.mem_some_iff] at head
    rw [← head]
    decide
  refine ⟨_, base64UrlBytes_base64Url _, ?_⟩
  rw [decodeUtf8_utf8 unmarked, String.toList_ofList, Json.parse_write plain]

theorem readPayload_encodedPayload : readPayload (encodedPayload id row) now =
    if row.expires_at = 0 ∨ row.expires_at < now then none
    else some (id, ⟨id, some row.subject, some row.role⟩) := by
  obtain ⟨bytes, decoded, parsed⟩ := @parse_encodedPayload id row
  rw [readPayload, decoded]
  simp only [Option.bind_eq_bind, Option.bind_some, parsed]
  have zero : ((row.expires_at : ℤ) = 0) = (row.expires_at = 0) := propext Int.natCast_eq_zero
  have less : ((row.expires_at : ℤ) < now) = (row.expires_at < now) := propext Int.ofNat_lt
  simp only [payload, Json.field?, List.lookup_cons, show ("exp" == "id") = false by decide,
    show ("exp" == "sub") = false by decide, show ("exp" == "role") = false by decide, beq_self_eq_true,
    show ("sub" == "id") = false by decide, show ("role" == "id") = false by decide,
    show ("role" == "sub") = false by decide, Option.bind_some, text?, zero, less]

theorem mem_token {char : Char} (member : char ∈ platform.token id row) : char ∉ ['=', ';'] ∧ isJsSpace char = false := by
  rcases List.mem_append.mp member with body | rest
  · exact ⟨fun sign => (mem_base64Url body).1 (by grind), (mem_base64Url body).2⟩
  · rcases List.mem_cons.mp rest with rfl | signature
    · decide
    · exact ⟨fun sign => (mem_base64Url signature).1 (by grind), (mem_base64Url signature).2⟩

theorem tokenOf_cookieHeader {token : List Char} (plain : ∀ char ∈ token, char ≠ ';' ∧ isJsSpace char = false) :
    tokenOf (cookieHeader token) = some token := by
  have letters : (SESSION_COOKIE.toList ++ ['=']).all (fun char => char ≠ ';' ∧ isJsSpace char = false) = true := by
    decide +kernel
  have name : ∀ char ∈ SESSION_COOKIE.toList ++ ['='], char ≠ ';' ∧ isJsSpace char = false :=
    fun char member => of_decide_eq_true (List.all_eq_true.mp letters char member)
  have shape : cookieHeader token = SESSION_COOKIE.toList ++ ['='] ++ token := by
    rw [cookieHeader, List.append_assoc, List.singleton_append]
  have all : ∀ char ∈ cookieHeader token, char ≠ ';' ∧ isJsSpace char = false := by
    rw [shape]
    intro char member
    exact (List.mem_append.mp member).elim (name char) (plain char)
  rw [tokenOf, List.splitOn_eq_singleton fun member => (all _ member).1 rfl, List.map_singleton,
    trim_of_no_space (by
      rw [String.toList_ofList]
      exact fun char member => (all char member).2), String.toList_ofList, shape, List.find?_cons_of_pos (by simp)]
  simp only [Option.map_some]
  exact congrArg some (List.drop_left' rfl)

/-- A token has two parts, and both say something. -/
theorem splitOn_token : (platform.token id row).splitOn '.' =
      [encodedPayload id row, base64Url (platform.hmac platform.signingKey (encodedPayload id row))] ∧
    encodedPayload id row ≠ [] ∧ base64Url (platform.hmac platform.signingKey (encodedPayload id row)) ≠ [] := by
  have noDot {bytes : List UInt8} : '.' ∉ base64Url bytes := by
    intro member
    have other := (mem_base64Url member).1
    simp at other
  refine ⟨?_, ?_, ?_⟩
  · rw [Platform.token, encodedPayload, List.splitOn_append_cons_self_of_not_mem noDot, List.splitOn_eq_singleton noDot]
  · apply base64Url_ne_nil
    intro empty
    rw [utf8, String.toList_ofList, payload, Json.write, List.flatMap_cons, List.append_eq_nil_iff] at empty
    exact String.utf8EncodeChar_ne_nil empty.1
  · apply base64Url_ne_nil
    rw [← List.length_pos_iff, platform.hmac_size]
    decide

/-- A cookie of the panel is accepted while its session stands. -/
theorem verifySession_cookie {sessions : Sessions} :
    verifySession platform sessions (cookieHeader (platform.token id row)) now =
      if row.expires_at = 0 ∨ row.expires_at < now then none
      else (sessions.get? id).bind fun standing =>
        if now < standing.expires_at then some ⟨id, some row.subject, some row.role⟩ else none := by
  have plain : ∀ char ∈ platform.token id row, char ≠ ';' ∧ isJsSpace char = false := by
    intro char member
    obtain ⟨other, printed⟩ := mem_token member
    simp only [List.mem_cons, List.not_mem_nil, or_false, not_or] at other
    exact ⟨other.2, printed⟩
  obtain ⟨split, body, signature⟩ := @splitOn_token platform id row
  rw [verifySession, tokenOf_cookieHeader plain]
  simp only [Option.bind_eq_bind, Option.bind_some, split, body, signature, or_self, if_false,
    base64UrlBytes_base64Url, ne_eq, not_true_eq_false, readPayload_encodedPayload]
  split
  · rfl
  · rfl

end

/-! ## What a request does to the sessions -/

section

variable {platform : Platform} {world world' : World} {event : Event} {now : ℕ}

/-- No session of `world'` is one that `world` does not have. -/
structure Shrinks (world world' : World) : Prop where
  issued : world'.issued = world.issued
  sessions : ∀ id row, world'.sessions.get? id = some row → world.sessions.get? id = some row

theorem Shrinks.refl (world : World) : Shrinks world world := ⟨rfl, fun _ _ found => found⟩

theorem Shrinks.filter {keep : String → SessionRow → Bool} :
    Shrinks world { world with sessions := world.sessions.filter keep } :=
  ⟨rfl, fun _ _ found => (OrderedMap.get?_filter_eq_some_iff.mp found).1⟩

theorem Shrinks.trans {middle : World} (first : Shrinks world middle) (second : Shrinks middle world') :
    Shrinks world world' :=
  ⟨second.issued.trans first.issued, fun id row found => first.sessions id row (second.sessions id row found)⟩

theorem Shrinks.setSettings {entries : List (String × String)} : Shrinks world (setSettings world now entries) :=
  ⟨rfl, fun _ _ found => found⟩

/-- The world has one session more, of a drawn id. -/
def Creates (world world' : World) (id : String) : Prop :=
  ∃ row, world'.sessions = world.sessions.alter id (fun _ => row) ∧ world'.issued = world.issued ++ [(id, row)]

/-- A request drops sessions, or creates the one it has drawn the id of. -/
theorem handle_cases (request : Request) : Shrinks world (handle platform world now request).1 ∨
    ∃ id, request.draws = some id ∧ Creates world (handle platform world now request).1 id := by
  have guarded (cookie : List Char) {route : VerifiedSession → World × Except HttpError Reply}
      (shrinks : ∀ session, Shrinks world (route session).1) :
      Shrinks world (authenticated platform world now cookie route).1 := by
    rw [authenticated]
    split
    · exact .refl world
    · exact shrinks _
  cases request with
  | setup body salt id =>
    simp only [handle, setup]
    split
    · exact .inl (.refl world)
    split
    · exact .inl (.refl world)
    · exact .inr ⟨id, rfl, _, rfl, rfl⟩
  | login body allowed id =>
    simp only [handle, login]
    split
    · exact .inl (.refl world)
    split
    · exact .inl (.refl world)
    split
    · exact .inl (.refl world)
    · exact .inr ⟨id, rfl, _, rfl, rfl⟩
  | logout cookie => exact .inl (guarded cookie fun _ => .filter)
  | changePassword cookie current next salt =>
    refine .inl (guarded cookie fun _ => ?_)
    rw [changePassword]
    split
    · exact .refl world
    split
    · exact .refl world
    · exact Shrinks.setSettings.trans .filter
  | recover code password salt =>
    simp only [handle, recover]
    split
    · exact .inl (.refl world)
    split
    · exact .inl (.refl world)
    split
    · exact .inl (.refl world)
    split
    · exact .inl (.refl world)
    · exact .inl (Shrinks.setSettings.trans .filter)
  | revokeSession cookie all id =>
    refine .inl (guarded cookie fun _ => ?_)
    rw [revokeSession]
    split
    · exact Shrinks.filter.trans .filter
    · exact .filter
  | purgeExpiredSessions => exact .inl .filter

theorem step_cases (stepped : (machine platform).step? world event = some world') :
    world.clock ≤ event.now ∧ world'.clock = event.now ∧ (Shrinks world world' ∨
      ∃ id, id ∉ world.issued.map (·.1) ∧ Creates world world' id) := by
  change step? platform world event = some world' at stepped
  rw [step?] at stepped
  split at stepped
  · next possible =>
    obtain rfl := Option.some.inj stepped
    refine ⟨possible.1, rfl, ?_⟩
    rcases handle_cases event.request with shrinks | ⟨id, drawn, creates⟩
    · exact .inl ⟨shrinks.issued, shrinks.sessions⟩
    · exact .inr ⟨id, possible.2 id drawn, creates⟩
  · contradiction

/-- Every row has a cookie. -/
def Recorded (world : World) : Prop := ∀ id row, world.sessions.get? id = some row → (id, row) ∈ world.issued

theorem recorded_run {history : List Event} (run : (machine platform).Run Free {} history world) : Recorded world := by
  refine run.preserves Recorded ?_ nofun
  intro world event world' recorded _ stepped id row found
  obtain ⟨-, -, shrinks | ⟨created, -, new, sessions, issued⟩⟩ := step_cases stepped
  · exact shrinks.issued ▸ recorded id row (shrinks.sessions id row found)
  · rw [sessions, OrderedMap.get?_alter] at found
    rw [issued]
    split at found
    · next same =>
      rw [same, ← Option.some.inj found]
      exact List.mem_append_right _ List.mem_cons_self
    · exact List.mem_append_left _ (recorded id row found)

/-- The sessions of the ids have expired, and no id is drawn again. -/
structure Gone (ids : List String) (since : ℕ) (world : World) : Prop where
  clock : since ≤ world.clock
  drawn : ∀ id ∈ ids, id ∈ world.issued.map (·.1)
  expired : ∀ id ∈ ids, ∀ row, world.sessions.get? id = some row → row.expires_at ≤ since

theorem gone_run {ids : List String} {since : ℕ} {events : List Event} (gone : Gone ids since world)
    (run : (machine platform).Run Free world events world') : Gone ids since world' := by
  refine run.preserves (Gone ids since) ?_ gone
  rintro world event world' ⟨clock, drawn, expired⟩ - stepped
  obtain ⟨later, time, shrinks | ⟨created, fresh, new, sessions, issued⟩⟩ := step_cases stepped
  · refine ⟨by omega, fun id member => shrinks.issued ▸ drawn id member, fun id member row found => ?_⟩
    exact expired id member row (shrinks.sessions id row found)
  · refine ⟨by omega, fun id member => ?_, fun id member row found => ?_⟩
    · rw [issued, List.map_append]
      exact List.mem_append_left _ (drawn id member)
    · rw [sessions, OrderedMap.get?_alter, if_neg fun same : id = created => fresh (same ▸ drawn id member)] at found
      exact expired id member row found

/-! ## Logout everywhere -/

/-- No cookie issued before verifies at a later time. -/
def LoggedOut (platform : Platform) (world world' : World) : Prop :=
  ∀ events after later, (machine platform).Run Free world' events after → after.clock ≤ later →
    ∀ entry ∈ world.issued,
      verifySession platform after.sessions (cookieHeader (platform.token entry.1 entry.2)) later = none

/-- The rows that a revocation with `all` is meant for: those of the caller's subject. -/
def Mine (session : VerifiedSession) (row : SessionRow) : Prop :=
  session.subject.getD "" = "" ∨ row.subject = session.subject.getD ""

theorem revokeSession_get? {session : VerifiedSession} {id : String} {row : SessionRow} (unused : String) :
    (revokeSession world now session true unused).1.sessions.get? id = some row ↔
      world.sessions.get? id = some row ∧ ¬ Mine session row ∧ now ≤ row.expires_at := by
  simp [revokeSession, purgeExpiredSessions, destroyAllSessions, OrderedMap.get?_filter_eq_some_iff, Mine, and_assoc]

theorem revoked_step {cookie : List Char} {session : VerifiedSession} {id : String}
    (admin : verifySession platform world.sessions cookie now = some session)
    (stepped : (machine platform).step? world ⟨now, .revokeSession cookie true id⟩ = some world') :
    world' = { (revokeSession world now session true id).1 with clock := now } := by
  change step? platform world _ = some world' at stepped
  rw [step?] at stepped
  split at stepped
  · rw [← Option.some.inj stepped]
    simp only [handle, authenticated, admin]
  · contradiction

/-- A session that has not expired and is not of the caller's subject outlives the revocation. -/
theorem cookie_survives {cookie : List Char} {session : VerifiedSession} {id other : String} {row : SessionRow}
    (admin : verifySession platform world.sessions cookie now = some session)
    (stepped : (machine platform).step? world ⟨now, .revokeSession cookie true id⟩ = some world')
    (found : world.sessions.get? other = some row) (unexpired : now < row.expires_at) (notMine : ¬ Mine session row) :
    verifySession platform world'.sessions (cookieHeader (platform.token other row)) now =
      some ⟨other, some row.subject, some row.role⟩ := by
  have left : world'.sessions.get? other = some row := by
    rw [revoked_step admin stepped]
    exact (revokeSession_get? id).mpr ⟨found, notMine, Nat.le_of_lt unexpired⟩
  have current : ¬ (row.expires_at = 0 ∨ row.expires_at < now) := by omega
  rw [verifySession_cookie, if_neg current, left, Option.bind_some, if_pos unexpired]

/-- Revoking with `all` logs everyone out exactly when every session that has not expired has the
subject of the caller's. -/
theorem logged_out_iff {history : List Event} (run : (machine platform).Run Free {} history world)
    {cookie : List Char} {session : VerifiedSession} (admin : verifySession platform world.sessions cookie now = some session)
    {unused : String} (stepped : (machine platform).step? world ⟨now, .revokeSession cookie true unused⟩ = some world') :
    LoggedOut platform world world' ↔
      ∀ id row, world.sessions.get? id = some row → now < row.expires_at → Mine session row := by
  have issued : world'.issued = world.issued := by
    rw [revoked_step admin stepped]
    rfl
  have standing (id : String) (row : SessionRow) : world'.sessions.get? id = some row ↔
      world.sessions.get? id = some row ∧ ¬ Mine session row ∧ now ≤ row.expires_at := by
    rw [revoked_step admin stepped]
    exact revokeSession_get? unused
  have clock : world'.clock = now := by rw [revoked_step admin stepped]
  constructor
  · intro loggedOut id row found unexpired
    by_contra notMine
    have refused := loggedOut [] world' now (.nil world') (Nat.le_of_eq clock) (id, row) (recorded_run run id row found)
    rw [cookie_survives admin stepped found unexpired notMine] at refused
    contradiction
  · intro mine events after later rest time entry member
    have gone : Gone (world.issued.map (·.1)) now world' := by
      refine ⟨Nat.le_of_eq clock.symm, fun id listed => issued ▸ listed, fun id _ row found => ?_⟩
      obtain ⟨before, notMine, -⟩ := (standing id row).mp found
      exact Nat.le_of_not_lt fun unexpired => notMine (mine id row before unexpired)
    obtain ⟨since, -, expired⟩ := gone_run gone rest
    rw [verifySession_cookie]
    split
    · rfl
    · cases found : after.sessions.get? entry.1 with
      | none => rfl
      | some row =>
        have past := expired entry.1 (List.mem_map_of_mem member) row found
        rw [Option.bind_some, if_neg (by omega)]

end

namespace Sample

/-- A panel whose checks are plain comparisons. -/
def platform : Platform where
  signingKey := "key"
  hmac _ data := List.replicate 32 (UInt8.ofNat data.length)
  hmac_size _ _ := List.length_replicate
  hashPassword password salt := ⟨"pbkdf2$" ++ salt ++ "$" ++ password, by simp [← String.toList_inj]⟩
  verifyPassword password stored := stored == "pbkdf2$salt$" ++ password
  sessionTtlMs := 43200000
  recoveryCode := none

/-- The panel is set up by `admin`, and someone logs in with the password under a name. -/
def loggedIn (name : String) : List Event :=
  [⟨1000, .setup ⟨"correct horse", "admin"⟩ "salt" "first"⟩, ⟨2000, .login ⟨"correct horse", name⟩ true "second"⟩]

/-- The two sessions. -/
def rows (name : String) : List (String × SessionRow) :=
  [("first", ⟨"admin", "owner", 1000, 43201000⟩), ("second", ⟨name, "owner", 2000, 43202000⟩)]

/-- The cookie of the setup. -/
def cookie : List Char := cookieHeader (platform.token "first" ⟨"admin", "owner", 1000, 43201000⟩)

theorem loggedIn_run {name : String} (evaluated : ((machine platform).replay? {} (loggedIn name)).any (fun world =>
    world.sessions.entries = rows name ∧ world.issued = rows name ∧ world.clock = 2000) = true) :
    ∃ world world' session, (machine platform).Run Free {} (loggedIn name) world ∧ world.sessions.entries = rows name ∧
      world.issued = rows name ∧ session.subject = some "admin" ∧
      verifySession platform world.sessions cookie 3000 = some session ∧
      (machine platform).step? world ⟨3000, .revokeSession cookie true ""⟩ = some world' := by
  obtain ⟨world, replayed, checked⟩ := (Option.any_eq_true _ _).mp evaluated
  obtain ⟨entries, issued, clock⟩ := of_decide_eq_true checked
  have first : world.sessions.get? "first" = some ⟨"admin", "owner", 1000, 43201000⟩ :=
    OrderedMap.mem_entries_iff.mp (entries ▸ List.mem_cons_self)
  have admin : verifySession platform world.sessions cookie 3000 = some ⟨"first", some "admin", some "owner"⟩ := by
    rw [cookie, verifySession_cookie, if_neg (by decide), first, Option.bind_some, if_pos (by decide)]
  obtain ⟨world', stepped⟩ : ∃ world', (machine platform).step? world ⟨3000, .revokeSession cookie true ""⟩ = some world' :=
    ⟨_, if_pos ⟨by rw [clock]; decide, nofun⟩⟩
  exact ⟨world, world', _, Run.free_iff_replay.mpr replayed, entries, issued, rfl, admin, stepped⟩

end Sample

/-- Both sessions are the owner's, and both end. -/
theorem logged_out_iff_owner : ∃ world world', (machine Sample.platform).Run Free {} (Sample.loggedIn "admin") world ∧
    (machine Sample.platform).step? world ⟨3000, .revokeSession Sample.cookie true ""⟩ = some world' ∧
    world.issued = Sample.rows "admin" ∧ LoggedOut Sample.platform world world' := by
  obtain ⟨world, world', session, run, entries, issued, subject, admin, stepped⟩ :=
    @Sample.loggedIn_run "admin" (by decide +kernel)
  refine ⟨world, world', run, stepped, issued, (logged_out_iff run admin stepped).mpr fun id row found _ => .inr ?_⟩
  have listed : (id, row) ∈ Sample.rows "admin" := entries ▸ OrderedMap.mem_entries_iff.mpr found
  rw [subject]
  simp only [Sample.rows, List.mem_cons, List.not_mem_nil, or_false, Prod.mk.injEq] at listed
  rcases listed with ⟨-, rfl⟩ | ⟨-, rfl⟩ <;> rfl

/-- The session of a login under another name is accepted after the revocation. -/
theorem other_name_stays_logged_in : ∃ world world', (machine Sample.platform).Run Free {} (Sample.loggedIn "guest") world ∧
    (machine Sample.platform).step? world ⟨3000, .revokeSession Sample.cookie true ""⟩ = some world' ∧
    ¬ LoggedOut Sample.platform world world' := by
  obtain ⟨world, world', session, run, entries, issued, subject, admin, stepped⟩ :=
    @Sample.loggedIn_run "guest" (by decide +kernel)
  refine ⟨world, world', run, stepped, fun loggedOut => ?_⟩
  have second : world.sessions.get? "second" = some ⟨"guest", "owner", 2000, 43202000⟩ :=
    OrderedMap.mem_entries_iff.mp (entries ▸ List.mem_cons_of_mem _ List.mem_cons_self)
  have clock : world'.clock = 3000 := by rw [revoked_step admin stepped]
  have before : ("second", ⟨"guest", "owner", 2000, 43202000⟩) ∈ world.issued :=
    issued ▸ List.mem_cons_of_mem _ List.mem_cons_self
  have refused := loggedOut [] world' 3000 (.nil world') (Nat.le_of_eq clock) _ before
  have notMine : ¬ Mine session ⟨"guest", "owner", 2000, 43202000⟩ := by
    rw [Mine, subject]
    decide
  rw [cookie_survives admin stepped second (by decide) notMine] at refused
  exact Option.some_ne_none _ refused

end OmniControlPlane.Panel.Auth
