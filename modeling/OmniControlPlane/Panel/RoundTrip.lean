import Mathlib.Data.List.Forall2
import OmniControlPlane.Panel.Backup

/-! # Restoring a backup

What `importBackup` makes of what `exportBackup` has written, when D1 executes and answers every batch.
-/

namespace OmniControlPlane.Panel.Backup

open Lib

/-- Every batch is executed and answered. -/
def Setting.working (setting : Setting) : Setting := { setting with delivery := fun _ => .answered }

section

variable {sqlite : Sqlite} (setting : Setting) (source target : Database sqlite)

/-- The import of a backup of the source into the target. -/
def restore (mode : Option String) : Database sqlite × Except Failure ℕ :=
  importBackup setting.working target { exportBackup source with mode := mode }

/-- The user is there with all of its columns, but for `updated_at`. -/
def Users.Has (users : Users sqlite) (entry : Value × Row) : Prop :=
  ∃ row, users.rows.get? entry.1 = some row ∧ ∀ column, column ≠ .updated_at → row column = entry.2 column

/-- A backup that replaces restores everything that was exported. -/
structure Restores : Prop where
  succeeds : ∃ imported, (restore setting source target none).2 = .ok imported
  users : ∀ entry ∈ source.users.rows.entries, (restore setting source target none).1.users.Has entry
  settings : ∀ entry ∈ (exportBackup source).settings,
    (restore setting source target none).1.settings.get? entry.1 = some entry.2
  plans : ∀ plan ∈ source.plans, plan ∈ (restore setting source target none).1.plans
  nodes : ∀ node ∈ source.nodes, node ∈ (restore setting source target none).1.nodes

/-- A backup that is merged makes its users what they were, and leaves the others alone. -/
structure Merges : Prop where
  succeeds : ∃ imported, (restore setting source target (some "merge")).2 = .ok imported
  users : ∀ entry ∈ source.users.rows.entries, (restore setting source target (some "merge")).1.users.Has entry
  others : ∀ name, source.users.rows.get? name = none →
    (restore setting source target (some "merge")).1.users.rows.get? name = target.users.rows.get? name

/-- The values that the statement for an exported user is bound to. -/
def exportedBound (now : ℤ) (entry : Value × Row) : Bound where
  username := entry.1
  values := fun
    | .id | .created_by => .null
    | .updated_at => .number now
    | column => entry.2 column

/-- How many ids the statements for these users use up. -/
def idsUsed (users : Users sqlite) (entries : List (Value × Row)) : ℕ :=
  entries.countP fun entry => sqlite.skips || (users.rows.get? entry.1).isNone

/-- Nobody has created the user, as far as its row says, and its id is the next one. -/
def Fresh (users : Users sqlite) (before : List (Value × Row)) (row : Row) : Prop :=
  row .created_by = .null ∧ row .id = .number (users.sequence + idsUsed users before + 1 : ℕ)

/-- No other user has the `uuid` or the `sub_token`, except for those who are updated before. -/
def Free (users : Users sqlite) (before : List (Value × Row)) (entry : Value × Row) : Prop :=
  ∀ other ∈ users.rows.entries, other.1 ∉ before.map (·.1) → other.1 ≠ entry.1 →
    ∀ column ∈ uniqueColumns, other.2 column ≠ entry.2 column

/-- A user who is there already differs in the updated columns only; another one gets what its row says. -/
def Fits (users : Users sqlite) (before : List (Value × Row)) (entry : Value × Row) : Prop :=
  match users.rows.get? entry.1 with
  | some old => ∀ column, column ∉ updatedColumns → column ≠ .updated_at → old column = entry.2 column
  | none => Fresh users before entry.2

/-- Named parameters are taken if there are users, whose ids are the next ones and whom nobody has created;
and everything else that is exported is there already. -/
structure Restorable : Prop where
  users : source.users.rows.entries = [] ∨ setting.named = true ∧
    ∀ before entry after, source.users.rows.entries = before ++ entry :: after →
      Fresh target.users.emptied before entry.2
  settings : ∀ entry ∈ (exportBackup source).settings, target.settings.get? entry.1 = some entry.2
  plans : ∀ plan ∈ source.plans, plan ∈ target.plans
  nodes : ∀ node ∈ source.nodes, node ∈ target.nodes

/-- Named parameters are taken if there are users, each of whom finds its `uuid` and its `sub_token` free and fits. -/
def Mergeable : Prop :=
  source.users.rows.entries = [] ∨ setting.named = true ∧
    ∀ before entry after, source.users.rows.entries = before ++ entry :: after →
      Free target.users before entry ∧ Fits target.users before entry

end

/-! ## The statements of an exported backup -/

section

variable {sqlite : Sqlite} {users after : Users sqlite} {entry : Value × Row} {now : ℤ}

theorem value?_field (value : Value) : Field.value? (some value.field) = some value := by
  cases value <;> rfl

theorem orDefault_field {value : Value} (known : value ≠ .null) (fallback : Field) :
    orDefault (some value.field) fallback = some value.field := by
  cases value with
  | null => contradiction
  | number _ | text _ => rfl

/-- An exported user, as it stands in the body of the import. -/
def exported (entry : Value × Row) : Entry := ⟨some entry.1.field, fun column => some (entry.2 column).field⟩

/-- An exported value stays what it is, a missing one included where the column may be null. -/
theorem parameters_exported (member : entry ∈ users.rows.entries) (fresh : String) {column : Column}
    (listed : column ∈ insertedColumns) :
    Field.value? (parameters (exported entry) fresh now column) = some ((exportedBound now entry).values column) := by
  have known (column : Column) (listed : column ∈ notNullColumns) : entry.2 column ≠ .null :=
    (users.constraints.1 entry member).2 column listed
  have nullable (value : Value) : orDefault (some value.field) .null = some value.field := by cases value <;> rfl
  cases column with
  | id | created_by => exact absurd listed (by decide)
  | updated_at => rfl
  | uuid => exact value?_field _
  | activated_at | expires_at =>
    simp only [parameters, exported, nullable, value?_field, exportedBound]
  | _ =>
    simp only [parameters, exported, exportedBound]
    rw [orDefault_field (known _ (by decide)), value?_field]

theorem bind_exported (member : entry ∈ users.rows.entries) (fresh : String) :
    bind true (exported entry) fresh now = some (exportedBound now entry) := by
  have bindable : (insertedColumns.all fun column =>
      (Field.value? (parameters (exported entry) fresh now column)).isSome) = true := by
    apply List.all_eq_true.mpr
    intro column listed
    rw [parameters_exported member fresh listed, Option.isSome_some]
  rw [bind, if_pos ⟨rfl, bindable⟩]
  simp only [exported, value?_field, Option.map_some, Option.some.injEq, exportedBound, Bound.mk.injEq, true_and]
  funext column
  by_cases listed : column ∈ insertedColumns
  · exact congrArg (·.getD .null) (parameters_exported member fresh listed)
  · cases column with
    | id | created_by => rfl
    | _ => exact absurd (by decide) listed

/-- The statements for an exported backup. -/
theorem statements_exported (setting : Setting) (named : setting.named = true) (users : Users sqlite) :
    statements setting (users.rows.entries.map exported) =
      some (users.rows.entries.map (exportedBound setting.now)) := by
  have each (entries : List (Value × Row)) (listed : ∀ entry ∈ entries, entry ∈ users.rows.entries) (start : ℕ) :
      ((entries.map exported).zipIdx start).mapM (fun entry =>
        bind setting.named entry.1 (setting.fresh entry.2) setting.now) = some (entries.map (exportedBound setting.now)) := by
    induction entries generalizing start with
    | nil => rfl
    | cons first rest ih =>
      have bound := @bind_exported sqlite users first setting.now (listed first List.mem_cons_self) (setting.fresh start)
      rw [List.map_cons, List.zipIdx_cons, List.mapM_cons, named, bound]
      rw [named] at ih
      rw [ih (fun entry member => listed entry (List.mem_cons_of_mem first member)) (start + 1)]
      rfl
  exact each users.rows.entries (fun _ member => member) 0

/-- Without named parameters, there is no statement that could be built. -/
theorem statements_unnamed (setting : Setting) (unnamed : setting.named = false) {entries : List Entry}
    (some : entries ≠ []) : statements setting entries = none := by
  obtain ⟨first, rest, rfl⟩ := List.exists_cons_of_ne_nil some
  rw [statements, List.zipIdx_cons, List.mapM_cons, unnamed]
  rfl

/-! ## What the statements write -/

theorem runBatches_answered {bounds : List Bound} (run : runBatch users bounds = some after) :
    runBatches users (fun _ => .answered) (slices 100 bounds) = (after, .ok ()) := by
  have each (batches : List (List Bound)) {users : Users sqlite} (run : runBatch users batches.flatten = some after) :
      runBatches users (fun _ => .answered) batches = (after, .ok ()) := by
    induction batches generalizing users with
    | nil => exact congrArg (·, _) (Option.some.inj run)
    | cons batch rest ih =>
      rw [List.flatten_cons, runBatch, List.foldlM_append] at run
      obtain ⟨middle, first, others⟩ := Option.bind_eq_some_iff.mp run
      have first : runBatch users batch = some middle := first
      rw [runBatches, first]
      exact ih others
  have all : (slices 100 bounds).flatten = bounds := slices_flatten (by decide) bounds
  exact each _ (all.symm ▸ run)

theorem upsert_get? {bound : Bound} (written : users.upsert bound = some after) (name : Value) :
    after.sequence = users.upsertSequence bound ∧ after.rows.get? name =
      if name = sqlite.textAffinity bound.username then
        some ((users.rows.get? name).elim (Users.newRow sqlite users.sequence bound)
          (Users.conflict · (Users.newRow sqlite users.sequence bound)))
      else users.rows.get? name := by
  unfold Users.upsert at written
  split at written
  · rw [← Option.some.inj written]
    refine ⟨rfl, (OrderedMap.get?_alter ..).trans ?_⟩
    split
    · next same => rw [same]
    · rfl
  · contradiction

variable {entries : List (Value × Row)}

/-- What statements for distinct users leave alone, and how many ids they use up. -/
theorem run_exported (distinct : (entries.map (·.1)).Nodup)
    (stored : ∀ entry ∈ entries, sqlite.textAffinity entry.1 = entry.1)
    (run : runBatch users (entries.map (exportedBound now)) = some after) :
    after.sequence = users.sequence + idsUsed users entries ∧
      ∀ name ∉ entries.map (·.1), after.rows.get? name = users.rows.get? name := by
  induction entries generalizing users with
  | nil =>
    obtain rfl := Option.some.inj run
    exact ⟨rfl, fun _ _ => rfl⟩
  | cons first rest ih =>
    obtain ⟨middle, written, rest'⟩ := Option.bind_eq_some_iff.mp ((List.foldlM_cons ..).symm.trans run)
    obtain ⟨fresh, distinct⟩ := List.nodup_cons.mp distinct
    obtain ⟨counted, others⟩ := ih distinct (fun entry member => stored entry (List.mem_cons_of_mem first member)) rest'
    have named : sqlite.textAffinity (exportedBound now first).username = first.1 := stored first List.mem_cons_self
    have elsewhere (name : Value) (different : name ≠ first.1) : middle.rows.get? name = users.rows.get? name := by
      rw [(upsert_get? written name).2, named, if_neg different]
    have same : idsUsed middle rest = idsUsed users rest := by
      apply List.countP_congr
      intro entry member
      rw [elsewhere entry.1 fun equal => fresh (List.mem_map.mpr ⟨entry, member, equal⟩)]
    constructor
    · rw [counted, (upsert_get? written first.1).1, same, Users.upsertSequence, named]
      simp only [idsUsed, List.countP_cons]
      cases users.rows.get? first.1 <;> cases sqlite.skips <;> simp <;> omega
    · intro name absent
      rw [others name fun later => absent (List.mem_cons_of_mem _ later)]
      exact elsewhere name fun equal => absent (equal ▸ List.mem_cons_self)

/-- The row that the statement for a user leaves. -/
theorem run_exported_row {before rest : List (Value × Row)} (distinct : ((before ++ entry :: rest).map (·.1)).Nodup)
    (stored : ∀ other ∈ before ++ entry :: rest, sqlite.textAffinity other.1 = other.1)
    (run : runBatch users ((before ++ entry :: rest).map (exportedBound now)) = some after) :
    after.rows.get? entry.1 = some ((users.rows.get? entry.1).elim
      (Users.newRow sqlite (users.sequence + idsUsed users before) (exportedBound now entry))
      (Users.conflict · (Users.newRow sqlite (users.sequence + idsUsed users before) (exportedBound now entry)))) := by
  rw [List.map_append, runBatch, List.foldlM_append] at run
  obtain ⟨middle, first, others⟩ := Option.bind_eq_some_iff.mp run
  obtain ⟨next, written, last⟩ := Option.bind_eq_some_iff.mp ((List.foldlM_cons ..).symm.trans others)
  rw [List.map_append, List.map_cons] at distinct
  obtain ⟨distinctBefore, distinctAfter, apart⟩ := List.nodup_append.mp distinct
  obtain ⟨notLater, distinctLater⟩ := List.nodup_cons.mp distinctAfter
  have notBefore : entry.1 ∉ before.map (·.1) := fun earlier => apart _ earlier _ List.mem_cons_self rfl
  obtain ⟨counted, kept⟩ := run_exported distinctBefore (fun other member =>
    stored other (List.mem_append_left _ member)) first
  obtain ⟨-, keptLater⟩ := run_exported distinctLater (fun other member =>
    stored other (List.mem_append_right _ (List.mem_cons_of_mem _ member))) last
  have named : sqlite.textAffinity (exportedBound now entry).username = entry.1 :=
    stored entry (List.mem_append_right _ List.mem_cons_self)
  rw [keptLater _ notLater, (upsert_get? written entry.1).2, named, if_pos rfl, counted, kept _ notBefore]

theorem newRow_written (listed : entry ∈ users.rows.entries) (sequence : ℕ) {column : Column}
    (inserted : column ∈ insertedColumns) (other : column ≠ .updated_at) :
    Users.newRow sqlite sequence (exportedBound now entry) column = entry.2 column := by
  have stored := (users.stored entry listed).2
  cases column with
  | id | created_by => exact absurd inserted (by decide)
  | updated_at => contradiction
  | _ => exact stored _

/-- An inserted row is the exported one, but for `updated_at`, exactly when nobody has created it and it gets
the id it had. -/
theorem newRow_iff (listed : entry ∈ users.rows.entries) (sequence : ℕ) :
    (∀ column, column ≠ .updated_at → Users.newRow sqlite sequence (exportedBound now entry) column = entry.2 column) ↔
      entry.2 .created_by = .null ∧ entry.2 .id = .number (sequence + 1 : ℕ) := by
  have stored := (users.stored entry listed).2
  constructor
  · intro same
    refine ⟨?_, ((Users.newRow_id ..).symm.trans (same .id nofun)).symm⟩
    exact (same .created_by nofun).symm.trans ((sqlite.affinity_null ..).mpr rfl)
  · rintro ⟨nobody, given⟩ column other
    cases column with
    | id => exact (Users.newRow_id ..).trans given.symm
    | created_by => exact ((sqlite.affinity_null ..).mpr rfl).trans nobody.symm
    | updated_at => contradiction
    | _ => exact stored _

/-- An updated row is the exported one, but for `updated_at`, exactly when the columns that are not updated were. -/
theorem conflict_iff (listed : entry ∈ users.rows.entries) (sequence : ℕ) (old : Row) :
    (∀ column, column ≠ .updated_at →
        Users.conflict old (Users.newRow sqlite sequence (exportedBound now entry)) column = entry.2 column) ↔
      ∀ column, column ∉ updatedColumns → column ≠ .updated_at → old column = entry.2 column := by
  have stored := (users.stored entry listed).2
  constructor
  · intro same column kept other
    exact (if_neg kept).symm.trans (same column other)
  · intro same column other
    by_cases updated : column ∈ updatedColumns
    · rw [Users.conflict, if_pos updated]
      cases column with
      | uuid | sub_token | quota_gb | used_bytes | expiry_days | expires_at | is_active => exact stored _
      | _ => exact absurd updated (by decide)
    · exact (if_neg updated).trans (same column updated other)

theorem notNull_inserted : notNullColumns ⊆ insertedColumns := by decide

theorem unique_columns {column : Column} (unique : column ∈ uniqueColumns) :
    column ∈ insertedColumns ∧ column ∈ updatedColumns ∧ column ≠ .updated_at := by
  simp only [uniqueColumns, List.mem_cons, List.not_mem_nil, or_false] at unique
  rcases unique with rfl | rfl <;> decide

section

variable {source : Users sqlite} (listed : entry ∈ source.rows.entries)

include listed

/-- A row that the statement for a user leaves has the unique columns of the exported one. -/
theorem upsertRows_unique {row : Row} (found : (users.upsertRows (exportedBound now entry)).get? entry.1 = some row)
    {column : Column} (unique : column ∈ uniqueColumns) : row column = entry.2 column := by
  obtain ⟨inserted, updated, other⟩ := unique_columns unique
  rw [Users.upsertRows, OrderedMap.get?_alter, show sqlite.textAffinity (exportedBound now entry).username = entry.1 from
    (source.stored entry listed).1, if_pos rfl, Option.some.injEq] at found
  rw [← found, ← newRow_written listed users.sequence inserted other]
  cases users.rows.get? entry.1 with
  | none => rfl
  | some old => exact if_pos updated

theorem upsertRows_other {name : Value} (other : name ≠ entry.1) :
    (users.upsertRows (exportedBound now entry)).get? name = users.rows.get? name := by
  rw [Users.upsertRows, OrderedMap.get?_alter, show sqlite.textAffinity (exportedBound now entry).username = entry.1 from
    (source.stored entry listed).1, if_neg other]

/-- No column of a row that the statement for a user leaves is missing. -/
theorem upsertRows_filled {written : Value × Row}
    (member : written ∈ (users.upsertRows (exportedBound now entry)).entries) :
    written.1 ≠ .null ∧ ∀ column ∈ notNullColumns, written.2 column ≠ .null := by
  obtain ⟨known, filled⟩ := source.constraints.1 entry listed
  have named : sqlite.textAffinity (exportedBound now entry).username = entry.1 := (source.stored entry listed).1
  have new (column : Column) (required : column ∈ notNullColumns) :
      Users.newRow sqlite users.sequence (exportedBound now entry) column ≠ .null := by
    by_cases touched : column = .updated_at
    · subst touched
      exact fun missing => Value.noConfusion ((sqlite.affinity_null ..).mp missing)
    · rw [newRow_written listed _ (notNull_inserted required) touched]
      exact filled column required
  rcases Users.upsertRows_cases member with old | ⟨same, ⟨-, row⟩ | ⟨old, present, row⟩⟩
  · exact users.constraints.1 _ old
  · exact ⟨same.trans named ▸ known, row ▸ new⟩
  · refine ⟨same.trans named ▸ known, fun column required => ?_⟩
    rw [row, Users.conflict]
    split
    · exact new column required
    · exact (users.constraints.1 _ present).2 column required

/-- The statement for a user violates a constraint exactly when another user has its `uuid` or its `sub_token`. -/
theorem constraints_upsertRows_iff : Constraints (users.upsertRows (exportedBound now entry)) ↔
    ∀ other ∈ users.rows.entries, other.1 ≠ entry.1 → ∀ column ∈ uniqueColumns, other.2 column ≠ entry.2 column := by
  obtain ⟨row, found⟩ : ∃ row, (users.upsertRows (exportedBound now entry)).get? entry.1 = some row := by
    refine ⟨_, (OrderedMap.get?_alter ..).trans (if_pos ?_)⟩
    exact (source.stored entry listed).1.symm
  constructor
  · rintro ⟨-, distinct⟩ ⟨name, row'⟩ member other column unique same
    have kept : (users.upsertRows (exportedBound now entry)).get? name = some row' :=
      (upsertRows_other listed other).trans (OrderedMap.mem_entries_iff.mp member)
    have equal := List.inj_on_of_nodup_map (distinct column unique) (OrderedMap.mem_entries_iff.mpr kept)
      (OrderedMap.mem_entries_iff.mpr found) (same.trans (upsertRows_unique listed found unique).symm)
    exact other (Prod.mk.inj equal).1
  · intro free
    refine ⟨fun written member => upsertRows_filled listed member, fun column unique => ?_⟩
    refine List.Nodup.map_on ?_ ((users.upsertRows (exportedBound now entry)).distinct.of_map _)
    have others {name : Value} {row : Row} (other : name ≠ entry.1)
        (member : (name, row) ∈ (users.upsertRows (exportedBound now entry)).entries) : (name, row) ∈ users.rows.entries :=
      OrderedMap.mem_entries_iff.mpr ((upsertRows_other listed other).symm.trans (OrderedMap.mem_entries_iff.mp member))
    rintro ⟨name, row⟩ member ⟨name', row'⟩ member' same
    have found := OrderedMap.mem_entries_iff.mp member
    have found' := OrderedMap.mem_entries_iff.mp member'
    by_cases first : name = entry.1 <;> by_cases second : name' = entry.1
    · subst first second
      rw [Option.some.inj (found.symm.trans found')]
    · subst first
      exact absurd (same.symm.trans (upsertRows_unique listed found unique)) (free _ (others second member') second column unique)
    · subst second
      exact absurd (same.trans (upsertRows_unique listed found' unique)) (free _ (others first member) first column unique)
    · exact List.inj_on_of_nodup_map (users.constraints.2 column unique) (others first member) (others second member') same

/-- After the statement for a user, those who find their values free are those who did before, without that user. -/
theorem free_upsert_iff {first : Value × Row} (listedFirst : first ∈ source.rows.entries)
    (written : users.upsert (exportedBound now first) = some after) (before : List (Value × Row)) :
    Free after before entry ↔ Free users (first :: before) entry := by
  have rows : after.rows = users.upsertRows (exportedBound now first) := by
    unfold Users.upsert at written
    split at written
    · rw [← Option.some.inj written]
    · contradiction
  constructor
  · rintro free ⟨name, row⟩ member absent other column unique
    obtain ⟨notFirst, absent⟩ := List.ne_and_not_mem_of_not_mem_cons absent
    refine free (name, row) (OrderedMap.mem_entries_iff.mpr ?_) absent other column unique
    rw [rows, upsertRows_other listedFirst notFirst]
    exact OrderedMap.mem_entries_iff.mp member
  · rintro free ⟨name, row⟩ member absent other column unique
    have found := OrderedMap.mem_entries_iff.mp member
    rw [rows] at found
    by_cases same : name = first.1
    · subst same
      intro equal
      have given := (upsertRows_unique listedFirst found unique).symm.trans equal
      have same := List.inj_on_of_nodup_map (source.constraints.2 column unique) listedFirst listed given
      exact other (Prod.ext_iff.mp same).1
    · rw [upsertRows_other listedFirst same] at found
      exact free (name, row) (OrderedMap.mem_entries_iff.mpr found) (List.not_mem_cons_of_ne_of_not_mem same absent) other column unique

end

/-- The statements for exported users violate no constraint exactly when each finds its `uuid` and its
`sub_token` free. -/
theorem run_exported_isSome_iff {source : Users sqlite} :
    (runBatch users (source.rows.entries.map (exportedBound now))).isSome = true ↔
      ∀ before entry after, source.rows.entries = before ++ entry :: after → Free users before entry := by
  have each (rest : List (Value × Row)) (listed : ∀ entry ∈ rest, entry ∈ source.rows.entries) {users : Users sqlite} :
      (runBatch users (rest.map (exportedBound now))).isSome = true ↔
        ∀ before entry after, rest = before ++ entry :: after → Free users before entry := by
    induction rest generalizing users with
    | nil => exact iff_of_true rfl fun before entry after split => by simp at split
    | cons first rest ih =>
      have member := listed first List.mem_cons_self
      have later (entry : Value × Row) (inRest : entry ∈ rest) := listed entry (List.mem_cons_of_mem first inRest)
      rw [List.map_cons, runBatch, List.foldlM_cons]
      cases written : users.upsert (exportedBound now first) with
      | none =>
        apply iff_of_false nofun
        intro all
        have free := all [] first rest rfl
        have valid : Constraints (users.upsertRows (exportedBound now first)) :=
          (constraints_upsertRows_iff member).mpr fun other present => free other present nofun
        rw [Users.upsert, dif_pos valid] at written
        contradiction
      | some middle =>
        have valid : Constraints (users.upsertRows (exportedBound now first)) := by
          by_contra invalid
          rw [Users.upsert, dif_neg invalid] at written
          contradiction
        apply Iff.trans (ih later)
        constructor
        · intro all before entry after split
          cases before with
          | nil =>
            obtain ⟨rfl, rfl⟩ := List.cons.inj split
            exact fun other present _ => (constraints_upsertRows_iff member).mp valid other present
          | cons other before =>
            obtain ⟨rfl, rfl⟩ := List.cons.inj split
            refine (free_upsert_iff (later entry ?_) member written before).mp (all before entry after rfl)
            exact List.mem_append_right _ List.mem_cons_self
        · rintro all before entry after rfl
          refine (free_upsert_iff (later entry ?_) member written before).mpr (all (first :: before) entry after rfl)
          exact List.mem_append_right _ List.mem_cons_self
  exact each source.rows.entries fun _ member => member

/-- All exported users fit into an empty table. -/
theorem run_emptied (source target : Users sqlite) :
    (runBatch target.emptied (source.rows.entries.map (exportedBound now))).isSome = true :=
  run_exported_isSome_iff.mpr fun _ _ _ _ => nofun

end

/-! ## The two imports -/

section

variable {sqlite : Sqlite} {setting : Setting} {source target : Database sqlite} {mode : Option String}

theorem insertUsers_none (none : source.users.rows.entries = []) (db : Database sqlite) :
    insertUsers setting.working db (exportBackup source).users = (db, .ok 0) := by
  have entries : (exportBackup source).users = source.users.rows.entries.map exported := rfl
  rw [entries, none]
  rfl

theorem insertUsers_unnamed (some : source.users.rows.entries ≠ []) (unnamed : setting.named = false)
    (db : Database sqlite) : insertUsers setting.working db (exportBackup source).users = (db, .error .unbindable) := by
  have entries : (exportBackup source).users ≠ [] := fun none => some (List.map_eq_nil_iff.mp none)
  rw [insertUsers, statements_unnamed setting.working unnamed entries]

/-- What an import inserts, once its statements are built. -/
theorem insertUsers_named (named : setting.named = true) (db : Database sqlite) :
    insertUsers setting.working db (exportBackup source).users =
      ({ db with users := (runBatches db.users (fun _ => .answered)
          (slices 100 (source.users.rows.entries.map (exportedBound setting.now)))).1 },
        (runBatches db.users (fun _ => .answered)
          (slices 100 (source.users.rows.entries.map (exportedBound setting.now)))).2.map fun _ =>
            (source.users.rows.entries.map (exportedBound setting.now)).length) := by
  have built : statements setting.working (exportBackup source).users =
      some (source.users.rows.entries.map (exportedBound setting.now)) := statements_exported setting.working named source.users
  rw [insertUsers, built]
  rfl

/-- An import that works inserts all exported users exactly as they were when each has no other columns
than those written, or had the others before. -/
theorem inserted_iff (db : Database sqlite) :
    ((∃ imported, (insertUsers setting.working db (exportBackup source).users).2 = .ok imported) ∧
      ∀ entry ∈ source.users.rows.entries, (insertUsers setting.working db (exportBackup source).users).1.users.Has entry) ↔
      source.users.rows.entries = [] ∨ setting.named = true ∧
        (runBatch db.users (source.users.rows.entries.map (exportedBound setting.now))).isSome = true ∧
          ∀ before entry after, source.users.rows.entries = before ++ entry :: after → Fits db.users before entry := by
  by_cases nobody : source.users.rows.entries = []
  · rw [insertUsers_none nobody]
    refine iff_of_true ⟨⟨0, rfl⟩, fun entry member => ?_⟩ (.inl nobody)
    rw [nobody] at member
    contradiction
  · cases named : setting.named with
    | false =>
      rw [insertUsers_unnamed nobody named]
      exact iff_of_false (fun all => absurd all.1 nofun) (by simp [nobody])
    | true =>
      rw [insertUsers_named named]
      have succeeds := @runBatches_ok_iff _ db.users (slices 100 (source.users.rows.entries.map (exportedBound setting.now)))
        (fun _ => .answered)
      rw [slices_flatten (by decide)] at succeeds
      cases run : runBatch db.users (source.users.rows.entries.map (exportedBound setting.now)) with
      | none =>
        refine iff_of_false ?_ (by simp [nobody])
        rintro ⟨⟨imported, answered⟩, -⟩
        have failed := mt succeeds.mp (by simp [run])
        cases outcome : (runBatches db.users (fun _ => .answered)
          (slices 100 (source.users.rows.entries.map (exportedBound setting.now)))).2 with
        | ok done => exact failed outcome
        | error failure =>
          rw [outcome] at answered
          contradiction
      | some after =>
        rw [runBatches_answered run]
        have distinct := source.users.rows.distinct
        have stored (entry : Value × Row) (member : entry ∈ source.users.rows.entries) :
            sqlite.textAffinity entry.1 = entry.1 := (source.users.stored entry member).1
        have has {before rest : List (Value × Row)} {entry : Value × Row}
            (split : source.users.rows.entries = before ++ entry :: rest) : after.Has entry ↔ Fits db.users before entry := by
          have listed : entry ∈ source.users.rows.entries := split ▸ List.mem_append_right _ List.mem_cons_self
          rw [split] at distinct stored run
          have row := run_exported_row distinct stored run
          rw [Users.Has, Fits, row]
          simp only [Option.some.injEq, exists_eq_left']
          cases db.users.rows.get? entry.1 with
          | none => exact newRow_iff listed _
          | some old => exact conflict_iff listed _ old
        constructor
        · rintro ⟨-, all⟩
          refine .inr ⟨rfl, rfl, fun before entry rest split => (has split).mp (all entry ?_)⟩
          exact split ▸ List.mem_append_right _ List.mem_cons_self
        · rintro (empty | ⟨-, -, each⟩)
          · exact absurd empty nobody
          · refine ⟨⟨_, rfl⟩, fun entry member => ?_⟩
            obtain ⟨before, rest, split⟩ := List.append_of_mem member
            exact (has split).mpr (each before entry rest split)

theorem insertUsers_tables (setting : Setting) (db : Database sqlite) (entries : List Entry) :
    (insertUsers setting db entries).1.settings = db.settings ∧ (insertUsers setting db entries).1.plans = db.plans ∧
      (insertUsers setting db entries).1.nodes = db.nodes := by
  unfold insertUsers
  split <;> exact ⟨rfl, rfl, rfl⟩

/-- Users who were not exported stay as they are. -/
theorem insertUsers_others (db : Database sqlite) {name : Value} (absent : source.users.rows.get? name = none)
    (done : ∃ imported, (insertUsers setting.working db (exportBackup source).users).2 = .ok imported) :
    (insertUsers setting.working db (exportBackup source).users).1.users.rows.get? name = db.users.rows.get? name := by
  by_cases nobody : source.users.rows.entries = []
  · rw [insertUsers_none nobody]
  · cases named : setting.named with
    | false =>
      rw [insertUsers_unnamed nobody named] at done
      exact absurd done nofun
    | true =>
      rw [insertUsers_named named] at done ⊢
      have succeeds := @runBatches_ok_iff _ db.users (slices 100 (source.users.rows.entries.map (exportedBound setting.now)))
        (fun _ => .answered)
      rw [slices_flatten (by decide)] at succeeds
      cases outcome : (runBatches db.users (fun _ => .answered)
          (slices 100 (source.users.rows.entries.map (exportedBound setting.now)))).2 with
      | error failure =>
        rw [outcome] at done
        exact absurd done nofun
      | ok done =>
        obtain ⟨after, run⟩ := Option.isSome_iff_exists.mp (succeeds.mp outcome).2
        rw [runBatches_answered run]
        refine (run_exported source.users.rows.distinct (fun entry member => (source.users.stored entry member).1) run).2
          name fun listed => ?_
        obtain ⟨⟨other, row⟩, member, rfl⟩ := List.mem_map.mp listed
        exact Option.some_ne_none row ((OrderedMap.mem_entries_iff.mp member).symm.trans absent)

theorem restore_replace : restore setting source target none =
    insertUsers setting.working target.deleted (exportBackup source).users := by
  rw [restore, importBackup_replace rfl fun same => Option.some_ne_none _ same.symm]
  rfl

theorem importBackup_merge {body : Body} (accepted : body.format = "kaveh-backup") (merges : body.mode = some "merge")
    (setting : Setting) (db : Database sqlite) : importBackup setting db body = insertUsers setting db body.users := by
  rw [importBackup, if_neg (not_not.mpr accepted), if_pos merges]

theorem restore_merge : restore setting source target (some "merge") =
    insertUsers setting.working target (exportBackup source).users :=
  importBackup_merge rfl rfl setting.working target

theorem restores_iff : Restores setting source target ↔ Restorable setting source target := by
  have inserted := @inserted_iff sqlite setting source target.deleted
  obtain ⟨settings, plans, nodes⟩ := insertUsers_tables setting.working target.deleted (exportBackup source).users
  rw [show target.deleted.users = target.users.emptied from rfl] at inserted
  simp only [run_emptied source.users target.users, true_and] at inserted
  constructor
  · intro restores
    obtain ⟨succeeds, users, settings', plans', nodes'⟩ := restores
    rw [restore_replace] at succeeds users settings' plans' nodes'
    exact ⟨inserted.mp ⟨succeeds, users⟩, settings ▸ settings', plans ▸ plans', nodes ▸ nodes'⟩
  · intro restorable
    obtain ⟨succeeds, users⟩ := inserted.mpr restorable.users
    refine ⟨?_, ?_, ?_, ?_, ?_⟩ <;> rw [restore_replace]
    · exact succeeds
    · exact users
    · exact settings ▸ restorable.settings
    · exact plans ▸ restorable.plans
    · exact nodes ▸ restorable.nodes

theorem merges_iff : Merges setting source target ↔ Mergeable setting source target := by
  have inserted := @inserted_iff sqlite setting source target
  simp only [run_exported_isSome_iff, ← forall_and] at inserted
  refine Iff.trans ?_ inserted
  constructor
  · intro merges
    have succeeds := merges.succeeds
    have users := merges.users
    rw [restore_merge] at succeeds users
    exact ⟨succeeds, users⟩
  · rintro ⟨succeeds, users⟩
    refine ⟨?_, ?_, fun name absent => ?_⟩ <;> rw [restore_merge]
    · exact succeeds
    · exact users
    · exact insertUsers_others target absent succeeds

/-- A backup of one panel restores another one, or is merged into it, exactly under these conditions. -/
theorem round_trip_iff : (Restores setting source target ↔ Restorable setting source target) ∧
    (Merges setting source target ↔ Mergeable setting source target) :=
  ⟨restores_iff, merges_iff⟩

end

namespace Sample

/-- A panel with a name, and one user with a note. -/
def annotated : Database sqlite where
  users := (insertUsers (setting true) empty
    [{ entry "user0" "uuid0" with fields := fun column =>
        if column = .note then some (.text "vip") else (entry "user0" "uuid0").fields column }]).1.users
  usage_daily := []
  settings := OrderedMap.empty.alter "panel_name" fun _ => ⟨"Kaveh", 1000⟩
  plans := []
  nodes := []

end Sample

theorem lost_both (named : Bool) : ¬ Restores (Sample.setting named) Sample.annotated Sample.empty ∧
    ¬ Merges (Sample.setting named) Sample.annotated Sample.panel := by
  have unnamed : (restore (Sample.setting named) Sample.annotated Sample.empty none).1.settings.entries = [] := by
    cases named <;> decide +kernel
  have note : ((restore (Sample.setting named) Sample.annotated Sample.panel (some "merge")).1.users.rows.get?
      (.text "user0")).map (· .note) = some (.text "") := by
    cases named <;> decide +kernel
  have before : (Sample.annotated.users.rows.get? (.text "user0")).map (· .note) = some (.text "vip") := by
    decide +kernel
  constructor
  · intro restores
    have kept := restores.settings ("panel_name", ⟨"Kaveh", 1000⟩) (by decide +kernel)
    rw [OrderedMap.get?, unnamed] at kept
    contradiction
  · intro merges
    obtain ⟨row, found, noted⟩ := Option.map_eq_some_iff.mp before
    obtain ⟨row', found', same⟩ := merges.users (.text "user0", row) (OrderedMap.mem_entries_iff.mpr found)
    rw [found', Option.map_some, same .note (by rintro ⟨⟩)] at note
    exact absurd ((Option.some.inj note).symm.trans noted) (by decide)

/-- Whether or not named parameters are taken, a panel loses its name when its backup is restored elsewhere,
and a user keeps its note when a backup with another one is merged. -/
theorem name_and_note_lost :
    (¬ Restores (Sample.setting true) Sample.annotated Sample.empty ∧
      ¬ Merges (Sample.setting true) Sample.annotated Sample.panel) ∧
    ¬ Restores (Sample.setting false) Sample.annotated Sample.empty ∧
      ¬ Merges (Sample.setting false) Sample.annotated Sample.panel :=
  ⟨lost_both true, lost_both false⟩

end OmniControlPlane.Panel.Backup
