import Mathlib.Data.Rat.Floor
import OmniControlPlane.Panel.Sessions

/-! # The term of a user

The columns of a row of `users` that its term depends on, and the statements that write them: an admin
creates a user, edits it, extends it with others or resets it, the first fetch of its subscription
starts its clock, and the maintenance pass acts on it when the term is over.

Days may be fractions; a deadline is an instant in milliseconds. A statement is its effect on the table,
with the values that were bound when it was built.
-/

namespace OmniControlPlane.Panel.Term

open Lib Auth

def DAY : ℚ := 86400000

structure Row where
  quota_gb : ℚ := 50
  used_bytes : ℤ := 0
  expiry_days : ℚ := 30
  first_connect : Bool := true
  activated_at : Option ℤ := none
  expires_at : Option ℚ := none
  requests_used : ℕ := 0
  is_active : Bool := true
deriving DecidableEq, Repr

/-- Rows by username. -/
abbrev Table := OrderedMap String Row

/-- The deadline of a row is past, as `hydrate` sees it. -/
def Row.expired (row : Row) (now : ℤ) : Bool := row.expires_at.any (· ≤ (now : ℚ))

/-- The deadline of a row is in the future. -/
def Row.running (row : Row) (now : ℤ) : Bool := row.expires_at.any ((now : ℚ) < ·)

/-- The keys of the body of an edit that concern the term; `others` says whether there are more. -/
structure Patch where
  quota_gb : Option ℚ := none
  expiry_days : Option ℚ := none
  first_connect : Option Bool := none
  is_active : Option Bool := none
  others : Bool := false
deriving DecidableEq, Repr

/-- The body of a reset; `days` is zero where it has none. -/
structure Reset where
  traffic : Bool := true
  requests : Bool := false
  days : ℚ := 0
deriving DecidableEq, Repr

/-- A statement that writes rows of `users`. -/
inductive Statement where
  | insert (username : String) (row : Row)
  | update (username : String) (patch : Patch) (now : ℤ)
  | enable (usernames : List String)
  | disable (usernames : List String)
  | delete (usernames : List String)
  | resetTraffic (usernames : List String)
  | resetRequests (usernames : List String)
  | extend (usernames : List String) (days : ℚ) (now : ℤ)
  | reset (username : String) (reset : Reset) (now : ℤ)
  | activate (username : String) (now : ℤ) (expires : ℚ)
  | renew (username : String) (expires : ℚ)
deriving DecidableEq, Repr

namespace Statement

def usernames : Statement → List String
  | insert username _ | update username _ _ | reset username _ _ | activate username _ _ | renew username _ => [username]
  | enable usernames | disable usernames | delete usernames | resetTraffic usernames | resetRequests usernames
  | extend usernames _ _ => usernames

/-- What a statement makes of a row that it names. -/
def write (row : Row) : Statement → Row
  | insert _ _ | delete _ => row
  | update _ patch now =>
    { row with
      quota_gb := patch.quota_gb.getD row.quota_gb
      expiry_days := patch.expiry_days.getD row.expiry_days
      first_connect := patch.first_connect.getD row.first_connect
      is_active := patch.is_active.getD row.is_active
      expires_at := (patch.expiry_days.map (now + · * DAY)).or row.expires_at }
  | enable _ => { row with is_active := true }
  | disable _ => { row with is_active := false }
  | resetTraffic _ => { row with used_bytes := 0 }
  | resetRequests _ => { row with requests_used := 0 }
  | extend _ days now =>
    { row with expires_at := some (row.expires_at.getD now + days * DAY), expiry_days := row.expiry_days + days }
  | reset _ body now =>
    { row with
      used_bytes := if body.traffic then 0 else row.used_bytes
      requests_used := if body.requests then 0 else row.requests_used
      expires_at := if body.days = 0 then row.expires_at else some (now + body.days * DAY) }
  | activate _ now expires =>
    if row.activated_at = none then { row with activated_at := some now, expires_at := some expires } else row
  | renew _ expires => { row with expires_at := some expires, used_bytes := 0 }

/-- The effect of a statement on the table. -/
def run (table : Table) : Statement → Table
  | insert username row => if (table.get? username).isSome then table else table.alter username fun _ => row
  | delete usernames => table.filter fun username _ => !usernames.contains username
  | statement => table.mapValues fun username row =>
      if username ∈ statement.usernames then statement.write row else row

/-- An `UPDATE`. -/
def updates : Statement → Bool
  | insert _ _ | delete _ => false
  | _ => true

/-- An update rewrites the rows that it names. -/
theorem run_update {statement : Statement} (updates : statement.updates = true) (table : Table) (username : String) :
    (statement.run table).get? username =
      (table.get? username).map fun row => if username ∈ statement.usernames then statement.write row else row := by
  cases statement with
  | insert _ _ | delete _ => contradiction
  | _ => exact OrderedMap.get?_mapValues table _ username

/-- A statement leaves alone every user that it does not name. -/
theorem run_other {statement : Statement} {username : String} (other : username ∉ statement.usernames) (table : Table) :
    (statement.run table).get? username = table.get? username := by
  cases statement with
  | insert inserted row =>
    rw [run]
    split
    · rfl
    · rw [OrderedMap.get?_alter, if_neg fun same => other (List.mem_singleton.mpr same)]
  | delete deleted =>
    have kept : (!deleted.contains username) = true := by simpa [usernames] using other
    rw [run, OrderedMap.get?_filter, if_pos kept]
  | _ =>
    rw [run_update rfl]
    simp only [if_neg other, Option.map_id']

end Statement

/-- The statements of a batch run one after the other. -/
def runBatch (table : Table) (statements : List Statement) : Table := statements.foldl (fun table statement => statement.run table) table

theorem runBatch_other {statements : List Statement} {username : String}
    (other : ∀ statement ∈ statements, username ∉ statement.usernames) (table : Table) :
    (runBatch table statements).get? username = table.get? username := by
  induction statements generalizing table with
  | nil => rfl
  | cons first rest ih =>
    rw [runBatch, List.foldl_cons, ← runBatch, ih fun statement member => other statement (List.mem_cons_of_mem first member)]
    exact Statement.run_other (other first List.mem_cons_self) table

/-! ## The expiry pass -/

/-- What the pass selects of a user whose term is over. -/
structure Due where
  username : String
  expiry_days : ℚ
deriving DecidableEq, Repr

def dueUsers (table : Table) (bound : ℤ) : List Due :=
  (table.entries.filter fun entry => entry.2.is_active && entry.2.expires_at.any (· < (bound : ℚ))).map fun entry =>
    ⟨entry.1, entry.2.expiry_days⟩

/-- The statement of the pass for a user, by the policy `on_expiry`. -/
def Due.statement (policy : String) (now : ℤ) (due : Due) : Statement :=
  if policy = "renew" then .renew due.username (now + due.expiry_days * DAY)
  else if policy = "delete" then .delete [due.username]
  else .disable [due.username]

theorem Due.statement_usernames (policy : String) (now : ℤ) (due : Due) :
    (due.statement policy now).usernames = [due.username] := by
  unfold Due.statement
  split
  · rfl
  · split <;> rfl

/-- A user is selected once, and its deadline is past. -/
theorem dueUsers_nodup (table : Table) (bound : ℤ) : ((dueUsers table bound).map (·.username)).Nodup := by
  rw [dueUsers, List.map_map]
  exact table.distinct.sublist (List.filter_sublist.map _)

theorem dueUsers_expired {table : Table} {bound : ℤ} {username : String}
    (selected : username ∈ (dueUsers table bound).map (·.username)) :
    ∃ row expires, table.get? username = some row ∧ row.expires_at = some expires ∧ expires < (bound : ℚ) := by
  rw [dueUsers, List.map_map] at selected
  obtain ⟨⟨name, row⟩, member, rfl⟩ := List.mem_map.mp selected
  obtain ⟨listed, past⟩ := List.mem_filter.mp member
  obtain ⟨expires, found, before⟩ := (Option.any_eq_true _ _).mp ((Bool.and_eq_true _ _).mp past).2
  exact ⟨row, expires, OrderedMap.mem_entries_iff.mp listed, found, of_decide_eq_true before⟩

/-! ## The requests -/

inductive BulkOp where
  | enable | disable | delete | reset_traffic | reset_requests
  | extend (value : ℚ)
  | unknown (op : String)
deriving DecidableEq, Repr

def BulkOp.statement (usernames : List String) (now : ℤ) : BulkOp → Except HttpError Statement
  | .enable => .ok (.enable usernames)
  | .disable => .ok (.disable usernames)
  | .delete => .ok (.delete usernames)
  | .reset_traffic => .ok (.resetTraffic usernames)
  | .reset_requests => .ok (.resetRequests usernames)
  | .extend value => .ok (.extend usernames value now)
  | .unknown op => .error (badRequest ("عملیات ناشناخته: " ++ op))

/-- "Start the clock on first connect". -/
def activateIfNeeded (username : String) (row : Row) (now : ℤ) : Option Statement :=
  if row.first_connect = false ∨ row.activated_at.getD 0 ≠ 0 then none
  else some (.activate username now (now + row.expiry_days * DAY))

/-- The body of a new user, as far as its term is concerned. -/
structure NewUser where
  username : String
  quota_gb : ℚ
  expiry_days : ℚ
  used_bytes : ℤ := 0
  first_connect : Bool := true
  is_active : Bool := true
deriving DecidableEq, Repr

/-- `USERNAME_RE` -/
def validUsername (username : List Char) : Bool :=
  3 ≤ username.length && username.length ≤ 32 && username.all fun char =>
    char.isAlphanum || char = '.' || char = '_' || char = '-'

def newUserInput (raw : NewUser) (now : ℤ) : Except HttpError (String × Row) :=
  let username := trim raw.username
  if !validUsername username then
    .error (badRequest "نام کاربری باید ۳ تا ۳۲ حرف انگلیسی/عدد/._- باشد")
  else if raw.quota_gb ≤ 0 then .error (badRequest "حجم نامعتبر است")
  else if raw.expiry_days ≤ 0 then .error (badRequest "مدت نامعتبر است")
  else .ok (String.ofList username, {
    quota_gb := raw.quota_gb
    used_bytes := raw.used_bytes
    expiry_days := raw.expiry_days
    first_connect := raw.first_connect
    expires_at := if raw.first_connect then none else some (now + raw.expiry_days * DAY)
    is_active := raw.is_active })

theorem newUserInput_row {raw : NewUser} {now : ℤ} {username : String} {row : Row}
    (accepted : newUserInput raw now = .ok (username, row)) :
    row.activated_at = none ∧ (row.first_connect = true → row.expires_at = none) := by
  dsimp only [newUserInput] at accepted
  split at accepted
  · contradiction
  · split at accepted
    · contradiction
    · split at accepted
      · contradiction
      · obtain ⟨-, rfl⟩ := Prod.mk.inj (Except.ok.inj accepted)
        exact ⟨rfl, fun on => if_pos on⟩

end OmniControlPlane.Panel.Term
