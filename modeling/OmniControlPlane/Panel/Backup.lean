import Mathlib.Data.Rat.Floor
import OmniControlPlane.Lib.Interleaving
import OmniControlPlane.Lib.Text
import OmniControlPlane.Panel.Api

/-! # Backups

`exportBackup` dumps four tables, and `importBackup` writes one of them back with a list of columns of
its own: first a batch that deletes the old rows, then batches of at most a hundred upserts.

What SQLite makes of a value that it stores in a column, and whether D1 binds an object of named
parameters, are parameters. A table of users has the constraints of its schema as fields.
-/

namespace OmniControlPlane.Panel.Backup

open Lib

/-- The columns of `users`, but for `username`, by which the rows are kept. -/
inductive Column where
  | id | uuid | sub_token | quota_gb | used_bytes | expiry_days | first_connect | activated_at | expires_at
  | device_limit | request_limit | requests_used | ips | proxies | connection | tls | fragment | fingerprint
  | block_list | is_active | created_by | note | created_at | updated_at
deriving DecidableEq, Repr

open Column

/-- The columns that an import inserts. -/
def insertedColumns : List Column :=
  [uuid, sub_token, quota_gb, used_bytes, expiry_days, first_connect, activated_at, expires_at, device_limit,
    request_limit, requests_used, ips, proxies, connection, tls, fragment, fingerprint, block_list, is_active, note,
    created_at, updated_at]

/-- The columns that its conflict clause updates. -/
def updatedColumns : List Column :=
  [uuid, sub_token, quota_gb, used_bytes, expiry_days, expires_at, is_active]

def notNullColumns : List Column :=
  [uuid, sub_token, quota_gb, used_bytes, expiry_days, first_connect, device_limit, request_limit, requests_used, ips,
    proxies, connection, tls, fragment, fingerprint, block_list, is_active, note, created_at, updated_at]

def uniqueColumns : List Column := [uuid, sub_token]

/-- A value that SQLite stores. -/
inductive Value where
  | null
  | number (number : ℚ)
  | text (text : String)
deriving DecidableEq, Repr

abbrev Row := Column → Value

/-- What SQLite does with a value that it stores in a column, and whether an upsert that updates uses up an id. -/
structure Sqlite where
  affinity : Column → Value → Value
  affinity_affinity : ∀ column value, affinity column (affinity column value) = affinity column value
  affinity_null : ∀ column value, affinity column value = .null ↔ value = .null
  affinity_id : ∀ number : ℕ, affinity .id (.number number) = .number number
  textAffinity : Value → Value
  textAffinity_textAffinity : ∀ value, textAffinity (textAffinity value) = textAffinity value
  skips : Bool

/-- The constraints that SQLite checks; those of the keys, `username` and `id`, hold by construction. -/
def Constraints (rows : OrderedMap Value Row) : Prop :=
  (∀ entry ∈ rows.entries, entry.1 ≠ .null ∧ ∀ column ∈ notNullColumns, entry.2 column ≠ .null) ∧
    ∀ column ∈ uniqueColumns, (rows.entries.map (·.2 column)).Nodup

instance (rows : OrderedMap Value Row) : Decidable (Constraints rows) :=
  @instDecidableAnd _ _ (List.decidableBAll _ _) (List.decidableBAll _ _)

/-- The table `users`; `sequence` is the largest id that was ever given. -/
structure Users (sqlite : Sqlite) where
  rows : OrderedMap Value Row
  sequence : ℕ
  constraints : Constraints rows
  ids : ∀ entry ∈ rows.entries, ∃ number : ℕ, number ≤ sequence ∧ entry.2 .id = .number number
  stored : ∀ entry ∈ rows.entries, sqlite.textAffinity entry.1 = entry.1 ∧
    ∀ column, sqlite.affinity column (entry.2 column) = entry.2 column

/-- The values that a statement of an import is bound to. -/
structure Bound where
  username : Value
  values : Row

namespace Users

variable {sqlite : Sqlite}

/-- The row that a statement inserts. -/
def newRow (sqlite : Sqlite) (sequence : ℕ) (bound : Bound) : Row := fun column =>
  sqlite.affinity column <|
    if column = .id then .number (sequence + 1 : ℕ)
    else if column ∈ insertedColumns then bound.values column else .null

/-- What the conflict clause makes of an old row. -/
def conflict (old new : Row) : Row := fun column => if column ∈ updatedColumns then new column else old column

/-- The rows after a statement, if no constraint is violated. -/
def upsertRows (users : Users sqlite) (bound : Bound) : OrderedMap Value Row :=
  users.rows.alter (sqlite.textAffinity bound.username) fun old =>
    old.elim (newRow sqlite users.sequence bound) (conflict · (newRow sqlite users.sequence bound))

/-- The largest id after a statement. -/
def upsertSequence (users : Users sqlite) (bound : Bound) : ℕ :=
  if (users.rows.get? (sqlite.textAffinity bound.username)).isSome ∧ sqlite.skips = false then users.sequence
  else users.sequence + 1

theorem newRow_id (sequence : ℕ) (bound : Bound) : newRow sqlite sequence bound .id = .number (sequence + 1 : ℕ) :=
  sqlite.affinity_id (sequence + 1)

theorem sequence_le_upsertSequence (users : Users sqlite) (bound : Bound) : users.sequence ≤ users.upsertSequence bound := by
  unfold upsertSequence
  split
  · exact Nat.le_refl _
  · exact Nat.le_succ _

/-- A row after a statement is an old row, the inserted one, or an old row updated. -/
theorem upsertRows_cases {users : Users sqlite} {bound : Bound} {entry : Value × Row}
    (member : entry ∈ (users.upsertRows bound).entries) :
    entry ∈ users.rows.entries ∨ entry.1 = sqlite.textAffinity bound.username ∧
      (users.rows.get? entry.1 = none ∧ entry.2 = newRow sqlite users.sequence bound ∨
        ∃ old, (entry.1, old) ∈ users.rows.entries ∧ entry.2 = conflict old (newRow sqlite users.sequence bound)) := by
  obtain ⟨name, row⟩ := entry
  have found := OrderedMap.mem_entries_iff.mp member
  rw [upsertRows, OrderedMap.get?_alter] at found
  split at found
  · next same =>
    subst same
    refine .inr ⟨rfl, ?_⟩
    cases old : users.rows.get? (sqlite.textAffinity bound.username) with
    | none =>
      rw [old] at found
      exact .inl ⟨rfl, (Option.some.inj found).symm⟩
    | some old' =>
      rw [old] at found
      exact .inr ⟨old', OrderedMap.mem_entries_iff.mpr old, (Option.some.inj found).symm⟩
  · exact .inl (OrderedMap.mem_entries_iff.mpr found)

theorem upsert_ids (users : Users sqlite) (bound : Bound) (entry : Value × Row)
    (member : entry ∈ (users.upsertRows bound).entries) :
    ∃ number : ℕ, number ≤ users.upsertSequence bound ∧ entry.2 .id = .number number := by
  have grows := sequence_le_upsertSequence users bound
  rcases upsertRows_cases member with old | ⟨named, ⟨absent, row⟩ | ⟨old, present, row⟩⟩
  · obtain ⟨number, below, given⟩ := users.ids entry old
    exact ⟨number, below.trans grows, given⟩
  · refine ⟨users.sequence + 1, ?_, row ▸ newRow_id ..⟩
    rw [upsertSequence, ← named, absent]
    simp
  · obtain ⟨number, below, given⟩ := users.ids _ present
    exact ⟨number, below.trans grows, row ▸ given⟩

theorem upsert_stored (users : Users sqlite) (bound : Bound) (entry : Value × Row)
    (member : entry ∈ (users.upsertRows bound).entries) : sqlite.textAffinity entry.1 = entry.1 ∧
      ∀ column, sqlite.affinity column (entry.2 column) = entry.2 column := by
  rcases upsertRows_cases member with old | ⟨named, ⟨-, row⟩ | ⟨old, present, row⟩⟩
  · exact users.stored entry old
  · refine ⟨by rw [named, sqlite.textAffinity_textAffinity], fun column => ?_⟩
    rw [row]
    exact sqlite.affinity_affinity ..
  · refine ⟨by rw [named, sqlite.textAffinity_textAffinity], fun column => ?_⟩
    rw [row, conflict]
    split
    · exact sqlite.affinity_affinity ..
    · exact (users.stored _ present).2 column

/-- `INSERT … ON CONFLICT(username) DO UPDATE SET …`; nothing is written where a constraint is violated. -/
def upsert (users : Users sqlite) (bound : Bound) : Option (Users sqlite) :=
  if valid : Constraints (users.upsertRows bound) then
    some ⟨users.upsertRows bound, users.upsertSequence bound, valid, users.upsert_ids bound, users.upsert_stored bound⟩
  else none

/-- `DELETE FROM users`; ids are not given again. -/
def emptied (users : Users sqlite) : Users sqlite where
  rows := .empty
  sequence := users.sequence
  constraints := ⟨nofun, fun _ _ => List.nodup_nil⟩
  ids := nofun
  stored := nofun

end Users

/-! ## The requests -/

structure Usage where
  day : String
  username : String
  up_bytes : ℕ
  down_bytes : ℕ
  conns : ℕ
deriving DecidableEq, Repr

structure Plan where
  id : ℕ
  name : String
  quota_gb : ℚ
  expiry_days : ℚ
  device_limit : ℚ
  price_toman : ℚ
  is_public : ℚ
  created_at : ℚ
deriving DecidableEq, Repr

structure Node where
  id : ℕ
  label : String
  host : String
  port : ℚ
  kind : String
  priority : ℚ
  healthy : ℚ
  last_check : Option ℚ
  latency_ms : Option ℚ
  created_at : ℚ
deriving DecidableEq, Repr

structure Database (sqlite : Sqlite) where
  users : Users sqlite
  usage_daily : List Usage
  settings : SettingsTable
  plans : List Plan
  nodes : List Node

/-- A value in a body; lists and objects are not told apart. -/
inductive Field where
  | null
  | number (number : ℚ)
  | text (text : String)
  | bool (bool : Bool)
  | nested
deriving DecidableEq, Repr

/-- An entry of `users` in a body; a missing field is `undefined`. -/
structure Entry where
  username : Option Field
  fields : Column → Option Field

structure Body where
  format : String
  mode : Option String := none
  users : List Entry
  settings : List (String × SettingRow) := []
  plans : List Plan := []
  nodes : List Node := []

def Value.field : Value → Field
  | .null => .null
  | .number value => .number value
  | .text value => .text value

/-- What `bind` makes of a value; it throws for `undefined`, a list or an object. -/
def Field.value? : Option Field → Option Value
  | some .null => some .null
  | some (.number value) => some (.number value)
  | some (.text value) => some (.text value)
  | some (.bool value) => some (.number (if value then 1 else 0))
  | some .nested | none => none

/-- `field ?? fallback` -/
def orDefault (field : Option Field) (fallback : Field) : Option Field :=
  match field with
  | none | some .null => some fallback
  | some field => some field

section

variable {sqlite : Sqlite}

def exportBackup (db : Database sqlite) : Body where
  format := "kaveh-backup"
  users := db.users.rows.entries.map fun entry => ⟨some entry.1.field, fun column => some (entry.2 column).field⟩
  settings := (db.settings.filter fun key _ => !likeHash key).entries
  plans := db.plans
  nodes := db.nodes

/-- The named parameters of a statement; `fresh` is a new token. -/
def parameters (entry : Entry) (fresh : String) (now : ℤ) : Column → Option Field
  | uuid => entry.fields uuid
  | sub_token => orDefault (entry.fields sub_token) (.text fresh)
  | quota_gb => orDefault (entry.fields quota_gb) (.number 50)
  | used_bytes => orDefault (entry.fields used_bytes) (.number 0)
  | expiry_days => orDefault (entry.fields expiry_days) (.number 30)
  | first_connect => orDefault (entry.fields first_connect) (.number 1)
  | activated_at => orDefault (entry.fields activated_at) .null
  | expires_at => orDefault (entry.fields expires_at) .null
  | device_limit => orDefault (entry.fields device_limit) (.number 3)
  | request_limit => orDefault (entry.fields request_limit) (.number 0)
  | requests_used => orDefault (entry.fields requests_used) (.number 0)
  | ips => orDefault (entry.fields ips) (.text "[]")
  | proxies => orDefault (entry.fields proxies) (.text "[]")
  | connection => orDefault (entry.fields connection) (.text "ws")
  | tls => orDefault (entry.fields tls) (.text "on")
  | fragment => orDefault (entry.fields fragment) (.text "")
  | fingerprint => orDefault (entry.fields fingerprint) (.text "")
  | block_list => orDefault (entry.fields block_list) (.text "[]")
  | is_active => orDefault (entry.fields is_active) (.number 1)
  | note => orDefault (entry.fields note) (.text "")
  | created_at => orDefault (entry.fields created_at) (.number now)
  | updated_at => some (.number now)
  | .id | created_by => none

/-- `bind`, if D1 takes an object of named parameters at all. -/
def bind (named : Bool) (entry : Entry) (fresh : String) (now : ℤ) : Option Bound :=
  if named = true ∧ (insertedColumns.all fun column => (Field.value? (parameters entry fresh now column)).isSome) = true then
    (Field.value? entry.username).map fun username =>
      ⟨username, fun column => (Field.value? (parameters entry fresh now column)).getD .null⟩
  else none

inductive Failure where
  | format | remote | unbindable | constraint
deriving DecidableEq, Repr

/-- One batch; its statements are all executed, or none is. -/
def runBatch (users : Users sqlite) (batch : List Bound) : Option (Users sqlite) := batch.foldlM Users.upsert users

/-- The batches of an import, each with its delivery. -/
def runBatches (users : Users sqlite) (delivery : ℕ → Delivery) : List (List Bound) → Users sqlite × Except Failure Unit
  | [] => (users, .ok ())
  | batch :: rest =>
    match runBatch users batch with
    | none => (users, .error .constraint)
    | some after =>
      match delivery 0 with
      | .answered => runBatches after (delivery ∘ (· + 1)) rest
      | .lost => (after, .error .remote)
      | .refused => (users, .error .remote)

/-- What is outside of an import: whether D1 takes named parameters, the tokens it draws, the time, and the
delivery of each batch, the one that deletes first. -/
structure Setting where
  named : Bool
  fresh : ℕ → String
  now : ℤ
  delivery : ℕ → Delivery

/-- The statements of an import, built before any of them runs. -/
def statements (setting : Setting) (entries : List Entry) : Option (List Bound) :=
  entries.zipIdx.mapM fun entry => bind setting.named entry.1 (setting.fresh entry.2) setting.now

def insertUsers (setting : Setting) (db : Database sqlite) (entries : List Entry) : Database sqlite × Except Failure ℕ :=
  match statements setting entries with
  | none => (db, .error .unbindable)
  | some bounds =>
    let (users, answer) := runBatches db.users (setting.delivery ∘ (· + 1)) (slices 100 bounds)
    ({ db with users := users }, answer.map fun _ => bounds.length)

def importBackup (setting : Setting) (db : Database sqlite) (body : Body) : Database sqlite × Except Failure ℕ :=
  if body.format ≠ "kaveh-backup" then (db, .error .format)
  else if body.mode = some "merge" then insertUsers setting db body.users
  else
    let deleted := { db with users := db.users.emptied, usage_daily := [] }
    match setting.delivery 0 with
    | .answered => insertUsers setting deleted body.users
    | .lost => (deleted, .error .remote)
    | .refused => (db, .error .remote)

end

/-! ## What must hold of a replacement -/

section

variable {sqlite : Sqlite} (setting : Setting) (db : Database sqlite) (body : Body)

/-- The rows are as they were before, unless the import answers success. -/
def Atomic : Prop :=
  (∀ imported, (importBackup setting db body).2 ≠ .ok imported) →
    (importBackup setting db body).1.users = db.users ∧ (importBackup setting db body).1.usage_daily = db.usage_daily

/-- Every batch is executed and answered, every value can be bound, and the entries violate no constraint. -/
structure Completes : Prop where
  deleted : setting.delivery 0 = .answered
  inserted : ∃ bounds, statements setting body.users = some bounds ∧
    (∀ batch < (slices 100 bounds).length, setting.delivery (batch + 1) = .answered) ∧
      (runBatch db.users.emptied bounds).isSome = true

/-- The import stops before its first batch of inserts has taken effect. -/
def InsertsNone : Prop :=
  setting.delivery 0 = .lost ∨ ∀ bounds, statements setting body.users = some bounds →
    ∃ batch ∈ (slices 100 bounds).head?, setting.delivery 1 = .refused ∨ runBatch db.users.emptied batch = none

/-- The deletion is not executed, or the whole import is, or there was nothing to delete and nothing is inserted. -/
def Safe : Prop :=
  setting.delivery 0 = .refused ∨ Completes setting db body ∨
    db.users.rows.entries = [] ∧ db.usage_daily = [] ∧ InsertsNone setting db body

end

/-! ## Batches -/

section

variable {sqlite : Sqlite} {users after : Users sqlite} {bound : Bound} {batch : List Bound} {batches : List (List Bound)}
  {delivery : ℕ → Delivery}

theorem upsert_sequence (written : users.upsert bound = some after) :
    users.sequence ≤ after.sequence ∧ (users.rows.entries = [] → users.sequence < after.sequence) := by
  unfold Users.upsert at written
  split at written
  · rw [← Option.some.inj written]
    refine ⟨users.sequence_le_upsertSequence bound, fun none => ?_⟩
    have absent : users.rows.get? (sqlite.textAffinity bound.username) = .none := by
      rw [OrderedMap.get?, none]
      rfl
    change users.sequence < users.upsertSequence bound
    rw [Users.upsertSequence, absent]
    exact Nat.lt_succ_self _
  · contradiction

theorem runBatch_sequence (run : runBatch users batch = some after) : users.sequence ≤ after.sequence := by
  induction batch generalizing users with
  | nil => exact Nat.le_of_eq (congrArg Users.sequence (Option.some.inj run))
  | cons first rest ih =>
    obtain ⟨middle, written, rest⟩ := Option.bind_eq_some_iff.mp ((List.foldlM_cons ..).symm.trans run)
    exact (upsert_sequence written).1.trans (ih rest)

/-- A batch that inserts into an empty table gives an id. -/
theorem runBatch_grows (none : users.rows.entries = []) (run : runBatch users (bound :: batch) = some after) :
    users.sequence < after.sequence := by
  obtain ⟨middle, written, rest⟩ := Option.bind_eq_some_iff.mp ((List.foldlM_cons ..).symm.trans run)
  exact Nat.lt_of_lt_of_le ((upsert_sequence written).2 none) (runBatch_sequence rest)

theorem runBatches_sequence : users.sequence ≤ (runBatches users delivery batches).1.sequence := by
  induction batches generalizing users delivery with
  | nil => exact Nat.le_refl _
  | cons batch rest ih =>
    rw [runBatches]
    cases run : runBatch users batch with
    | none => exact Nat.le_refl _
    | some after =>
      have grows := runBatch_sequence run
      cases delivery 0 with
      | answered => exact grows.trans ih
      | lost => exact grows
      | refused => exact Nat.le_refl _

/-- Batches that start from an empty table give an id, unless the first one takes no effect. -/
theorem runBatches_grows (none : users.rows.entries = []) (batches : List (List Bound)) :
    let first := bound :: batch
    ((delivery 0 = .refused ∨ runBatch users first = .none) ∧ (runBatches users delivery (first :: batches)).1 = users) ∨
      ¬ (delivery 0 = .refused ∨ runBatch users first = .none) ∧
        users.sequence < (runBatches users delivery (first :: batches)).1.sequence := by
  dsimp only
  rw [runBatches]
  cases run : runBatch users (bound :: batch) with
  | none => exact .inl ⟨.inr rfl, rfl⟩
  | some after =>
    have grows := runBatch_grows none run
    cases delivered : delivery 0 with
    | answered => exact .inr ⟨by simp, Nat.lt_of_lt_of_le grows runBatches_sequence⟩
    | lost => exact .inr ⟨by simp, grows⟩
    | refused => exact .inl ⟨.inl rfl, rfl⟩

/-- The batches succeed exactly when each is answered and all statements, one after the other, can run. -/
theorem runBatches_ok_iff : (runBatches users delivery batches).2 = .ok () ↔
    (∀ batch < batches.length, delivery batch = .answered) ∧ (runBatch users batches.flatten).isSome = true := by
  induction batches generalizing users delivery with
  | nil => exact iff_of_true rfl ⟨nofun, rfl⟩
  | cons batch rest ih =>
    have split : runBatch users (batch :: rest).flatten = (runBatch users batch).bind (runBatch · rest.flatten) := by
      rw [List.flatten_cons]
      exact List.foldlM_append
    rw [runBatches, split]
    cases run : runBatch users batch with
    | none => simp
    | some after =>
      cases first : delivery 0 with
      | answered =>
        refine ih.trans (and_congr_left fun _ => ?_)
        constructor
        · rintro others (_ | batch) below
          · exact first
          · exact others batch (Nat.lt_of_succ_lt_succ below)
        · exact fun all batch below => all (batch + 1) (Nat.succ_lt_succ below)
      | lost =>
        apply iff_of_false nofun
        intro all
        have answered := all.1 0 (Nat.succ_pos _)
        rw [first] at answered
        contradiction
      | refused =>
        apply iff_of_false nofun
        intro all
        have answered := all.1 0 (Nat.succ_pos _)
        rw [first] at answered
        contradiction

end

/-! ## A replacement is atomic -/

section

variable {sqlite : Sqlite} {setting : Setting} {db : Database sqlite} {body : Body}

theorem emptied_eq_iff {users : Users sqlite} : users.emptied = users ↔ users.rows.entries = [] := by
  constructor
  · intro same
    rw [← same]
    rfl
  · intro none
    obtain ⟨rows, sequence, _, _, _⟩ := users
    obtain rfl : rows = .empty := OrderedMap.ext_entries none
    rfl

/-- The database once the deletion is executed. -/
def Database.deleted (db : Database sqlite) : Database sqlite := { db with users := db.users.emptied, usage_daily := [] }

/-- An import that stops right after the deletion leaves what there was exactly when there was nothing. -/
theorem deleted_same_iff : (db.deleted.users = db.users ∧ db.deleted.usage_daily = db.usage_daily) ↔
    db.users.rows.entries = [] ∧ db.usage_daily = [] :=
  and_congr emptied_eq_iff eq_comm

theorem importBackup_replace (accepted : body.format = "kaveh-backup") (replaces : body.mode ≠ some "merge") :
    importBackup setting db body = match setting.delivery 0 with
      | .answered => insertUsers setting db.deleted body.users
      | .lost => (db.deleted, .error .remote)
      | .refused => (db, .error .remote) := by
  rw [importBackup, if_neg (not_not.mpr accepted), if_neg replaces]
  rfl

/-- Once the rows are deleted, the inserts keep what there was exactly when they succeed, or insert
nothing where there was nothing. -/
theorem inserts_atomic_iff (deleted : setting.delivery 0 = .answered) :
    ((∀ imported, (insertUsers setting db.deleted body.users).2 ≠ .ok imported) →
      (insertUsers setting db.deleted body.users).1.users = db.users ∧
        (insertUsers setting db.deleted body.users).1.usage_daily = db.usage_daily) ↔
      Completes setting db body ∨ db.users.rows.entries = [] ∧ db.usage_daily = [] ∧ InsertsNone setting db body := by
  have answered : ¬ setting.delivery 0 = .lost := by simp [deleted]
  cases built : statements setting body.users with
  | none =>
    have stopped : insertUsers setting db.deleted body.users = (db.deleted, .error .unbindable) := by
      rw [insertUsers, built]
    have nothing : InsertsNone setting db body := .inr fun bounds some => absurd (built.symm.trans some) nofun
    have incomplete : ¬ Completes setting db body := by
      rintro ⟨-, bounds, some, -⟩
      exact absurd (built.symm.trans some) nofun
    rw [stopped, forall_prop_of_true nofun, deleted_same_iff]
    simp [incomplete, nothing]
  | some bounds =>
    have ran : insertUsers setting db.deleted body.users =
        ({ db.deleted with users := (runBatches db.deleted.users (setting.delivery ∘ (· + 1)) (slices 100 bounds)).1 },
          (runBatches db.deleted.users (setting.delivery ∘ (· + 1)) (slices 100 bounds)).2.map fun _ => bounds.length) := by
      rw [insertUsers, built]
    have succeeds := @runBatches_ok_iff _ db.deleted.users (slices 100 bounds) (setting.delivery ∘ (· + 1))
    rw [slices_flatten (by decide)] at succeeds
    have complete : Completes setting db body ↔
        (runBatches db.deleted.users (setting.delivery ∘ (· + 1)) (slices 100 bounds)).2 = .ok () := by
      constructor
      · rintro ⟨-, bounds', some, rest⟩
        obtain rfl := Option.some.inj (built.symm.trans some)
        exact succeeds.mpr rest
      · exact fun ok => ⟨deleted, bounds, built, succeeds.mp ok⟩
    rw [ran, complete]
    cases outcome : (runBatches db.deleted.users (setting.delivery ∘ (· + 1)) (slices 100 bounds)).2 with
    | ok done => exact iff_of_true (fun failed => absurd rfl (failed bounds.length)) (.inl rfl)
    | error failure =>
      rw [forall_prop_of_true nofun]
      cases bounds with
      | nil => contradiction
      | cons bound rest =>
        have slicing : slices 100 (bound :: rest) = (bound :: rest.take 99) :: slicesFrom 100 rest.length (rest.drop 99) := rfl
        have batch : InsertsNone setting db body ↔
            setting.delivery 1 = .refused ∨ runBatch db.users.emptied (bound :: rest.take 99) = none := by
          constructor
          · rintro (lost | stops)
            · exact absurd lost answered
            · obtain ⟨first, head, nothing⟩ := stops _ built
              rw [slicing, List.head?_cons, Option.mem_def] at head
              exact Option.some.inj head ▸ nothing
          · refine fun nothing => .inr fun bounds' some => ⟨bound :: rest.take 99, ?_, nothing⟩
            rw [← Option.some.inj (built.symm.trans some), slicing, List.head?_cons, Option.mem_def]
        rw [batch, slicing]
        have empty : db.deleted.users.rows.entries = [] := rfl
        rcases runBatches_grows empty (slicesFrom 100 rest.length (rest.drop 99)) with ⟨nothing, same⟩ | ⟨something, grows⟩
        · rw [same]
          apply deleted_same_iff.trans
          simp [show setting.delivery 1 = .refused ∨ runBatch db.users.emptied (bound :: rest.take 99) = none from nothing]
        · refine iff_of_false (fun same => ?_) ?_
          · have level := congrArg Users.sequence same.1
            exact absurd level (Nat.ne_of_gt grows)
          · rintro (done | ⟨-, -, nothing⟩)
            · contradiction
            · exact something nothing

/-- An import that replaces leaves the rows as they were, unless it succeeds, exactly when its deletion is
not executed, or everything is, or there was nothing to delete and nothing is inserted. -/
theorem replace_atomic_iff (accepted : body.format = "kaveh-backup") (replaces : body.mode ≠ some "merge") :
    Atomic setting db body ↔ Safe setting db body := by
  rw [Atomic, Safe, importBackup_replace accepted replaces]
  cases first : setting.delivery 0 with
  | answered => simpa using inserts_atomic_iff first
  | lost =>
    have incomplete : ¬ Completes setting db body := fun complete => absurd (first.symm.trans complete.deleted) nofun
    have nothing : InsertsNone setting db body := .inl first
    dsimp only
    rw [forall_prop_of_true nofun, deleted_same_iff]
    simp [incomplete, nothing]
  | refused => exact iff_of_true (fun _ => ⟨rfl, rfl⟩) (.inl rfl)

end

namespace Sample

/-- Values of the type of their column are stored as they are. -/
def sqlite : Sqlite where
  affinity _ value := value
  affinity_affinity _ _ := rfl
  affinity_null _ _ := Iff.rfl
  affinity_id _ := rfl
  textAffinity value := value
  textAffinity_textAffinity _ := rfl
  skips := false

/-- An import at time 1000, each batch of which is executed and answered. -/
def setting (named : Bool) : Setting := ⟨named, fun position => "token" ++ toString position, 1000, fun _ => .answered⟩

/-- An entry with a name and a `uuid` only. -/
def entry (username uuid : String) : Entry where
  username := some (.text username)
  fields column := if column = .uuid then some (.text uuid) else none

/-- A panel without users. -/
def empty : Database sqlite where
  users := ⟨.empty, 0, ⟨nofun, fun _ _ => List.nodup_nil⟩, nofun, nofun⟩
  usage_daily := []
  settings := .empty
  plans := []
  nodes := []

/-- A panel with one user. -/
def panel : Database sqlite := (insertUsers (setting true) empty [entry "user0" "uuid0"]).1

/-- Two users with one `uuid`. -/
def duplicated : Body := ⟨"kaveh-backup", none, [entry "user1" "uuid1", entry "user2" "uuid1"], [], [], []⟩

def single : Body := ⟨"kaveh-backup", none, [entry "user1" "uuid1"], [], [], []⟩

end Sample

/-- A replacement by one user succeeds. -/
theorem replace_atomic_iff_single : Completes (Sample.setting true) Sample.panel Sample.single ∧
    (Atomic (Sample.setting true) Sample.panel Sample.single ↔ Safe (Sample.setting true) Sample.panel Sample.single) := by
  have evaluated : (statements (Sample.setting true) Sample.single.users).any (fun bounds =>
      (runBatch Sample.panel.users.emptied bounds).isSome) = true := by
    decide +kernel
  obtain ⟨bounds, built, inserted⟩ := (Option.any_eq_true _ _).mp evaluated
  exact ⟨⟨rfl, bounds, built, fun _ _ => rfl, inserted⟩, replace_atomic_iff rfl nofun⟩

/-- A replacement by two users with one `uuid` fails once the old user is deleted, whether or not named
parameters are taken. -/
theorem duplicate_deletes_users :
    ¬ Atomic (Sample.setting true) Sample.panel Sample.duplicated ∧
      ¬ Atomic (Sample.setting false) Sample.panel Sample.duplicated := by
  have before : Sample.panel.users.rows.entries.length = 1 := by decide +kernel
  have fails (named : Bool) : (importBackup (Sample.setting named) Sample.panel Sample.duplicated).2.toOption = none ∧
      (importBackup (Sample.setting named) Sample.panel Sample.duplicated).1.users.rows.entries.length = 0 := by
    cases named <;> decide +kernel
  have lost (named : Bool) : ¬ Atomic (Sample.setting named) Sample.panel Sample.duplicated := by
    intro atomic
    obtain ⟨failed, emptied⟩ := fails named
    have same := (atomic fun imported answered => by rw [answered] at failed; contradiction).1
    rw [same, before] at emptied
    contradiction
  exact ⟨lost true, lost false⟩

end OmniControlPlane.Panel.Backup
