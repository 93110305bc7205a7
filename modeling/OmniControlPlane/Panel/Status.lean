import OmniControlPlane.Panel.Vless

/-! # Active and expired users

Five places decide which users are active and which have expired: `hydrate`, `admit`, the filters of
`listUsers`, the counters of `userStats`, and the expiry pass of `runMaintenance`. The first two read
all of the row; the queries read one column, and not all of them agree on the instant of expiry.
-/

namespace OmniControlPlane.Panel

open Lib

/-- What the filter of `listUsers` adds to the `WHERE` clause. -/
def UserRow.selected (row : UserRow) (status : String) (now : ℤ) : Bool :=
  if status = "active" then row.is_active
  else if status = "disabled" then !row.is_active
  else if status = "expired" then row.expires_at.any (· ≤ now)
  else true

/-- The users of a list before it is sorted and cut into pages; `search` are the `LIKE` conditions. -/
def listUsers (users : Users) (search : String → UserRow → Bool) (status : String) (now : ℤ) : List User :=
  (users.entries.filter fun entry => search entry.1 entry.2 && entry.2.selected status now).map fun entry =>
    hydrate entry.1 entry.2 now

structure UserStats where
  total : ℕ
  active : ℕ
  expired : ℕ
  used_bytes : ℤ
  requests : ℕ
deriving DecidableEq, Repr

/-- Aggregate counters of the dashboard. -/
def userStats (users : Users) (now : ℤ) : UserStats where
  total := users.entries.length
  active := (users.entries.map fun entry => if entry.2.is_active then 1 else 0).sum
  expired := (users.entries.map fun entry => if entry.2.expires_at.any (· ≤ now) then 1 else 0).sum
  used_bytes := (users.entries.map (·.2.used_bytes)).sum
  requests := (users.entries.map (·.2.requests_used)).sum

/-- The users on which the expiry pass of `runMaintenance` acts. -/
def dueUsers (users : Users) (now : ℤ) : List String :=
  (users.entries.filter fun entry => entry.2.is_active && entry.2.expires_at.any (· < now)).map (·.1)

/-- The row without a request limit. -/
def UserRow.unlimited (row : UserRow) : UserRow := { row with request_limit := 0 }

/-- Every place goes by the status that `hydrate` gives, the request limit aside. -/
structure OneNotion (users : Users) (now : ℤ) : Prop where
  admits : ∀ entry ∈ users.entries,
    admitUser (some (hydrate entry.1 entry.2.unlimited now)) now = .ok (hydrate entry.1 entry.2.unlimited now) ↔
      (hydrate entry.1 entry.2 now).status = .active
  lists : ∀ search, ∀ filter ∈ [("active", UserStatus.active), ("expired", .expired), ("disabled", .disabled)],
    listUsers users search filter.1 now =
      (listUsers users search "all" now).filter fun user => user.status = filter.2
  active : (userStats users now).active =
    users.entries.countP fun entry => (hydrate entry.1 entry.2 now).status = .active
  expired : (userStats users now).expired =
    users.entries.countP fun entry => (hydrate entry.1 entry.2 now).status = .expired
  due : ∀ entry ∈ users.entries, entry.1 ∈ dueUsers users now ↔
    entry.2.is_active = true ∧ (hydrate entry.1 entry.2 now).status = .expired

/-- The row has not expired, and uses less than its quota unless it is disabled. -/
def UserRow.InTerm (row : UserRow) (now : ℤ) : Prop :=
  (∀ expires, row.expires_at = some expires → now < expires) ∧
    (row.is_active = true → row.used_bytes < round (row.quota_gb * 1024 ^ 3))

/-! ## The status of a row -/

section

variable {username : String} {row : UserRow} {now : ℤ}

theorem any_le_eq_false_iff {expires : Option ℤ} :
    expires.any (· ≤ now) = false ↔ ∀ instant, expires = some instant → now < instant := by
  cases expires <;> simp

theorem hydrate_disabled_iff : (hydrate username row now).status = .disabled ↔ row.is_active = false := by
  simp only [hydrate]
  cases row.is_active with
  | false => simp
  | true =>
    simp only [Bool.not_true, Bool.false_eq_true, if_false]
    split
    · simp
    · split <;> simp

theorem hydrate_expired_iff : (hydrate username row now).status = .expired ↔
    row.is_active = true ∧ row.expires_at.any (· ≤ now) = true := by
  simp only [hydrate]
  cases row.is_active with
  | false => simp
  | true =>
    simp only [Bool.not_true, Bool.false_eq_true, if_false, true_and]
    split
    · next expired => simp [expired]
    · next timely => split <;> simp [timely]

theorem hydrate_active_iff : (hydrate username row now).status = .active ↔
    row.is_active = true ∧ row.expires_at.any (· ≤ now) = false ∧
      row.used_bytes < round (row.quota_gb * 1024 ^ 3) := by
  simp only [hydrate]
  cases row.is_active with
  | false => simp
  | true =>
    simp only [Bool.not_true, Bool.false_eq_true, if_false, true_and]
    split
    · next expired => simp [expired]
    · next timely =>
      split
      · next full => simp; omega
      · next below => simp [timely]; omega

/-- In its term, an enabled row is active. -/
theorem UserRow.InTerm.active (inTerm : row.InTerm now) (enabled : row.is_active = true) :
    (hydrate username row now).status = .active :=
  hydrate_active_iff.mpr ⟨enabled, any_le_eq_false_iff.mpr inTerm.1, inTerm.2 enabled⟩

theorem UserRow.InTerm.active_iff (inTerm : row.InTerm now) :
    (hydrate username row now).status = .active ↔ row.is_active = true :=
  ⟨fun active => (hydrate_active_iff.mp active).1, inTerm.active⟩

theorem UserRow.InTerm.not_expired (inTerm : row.InTerm now) : (hydrate username row now).status ≠ .expired := by
  intro expired
  have late := (hydrate_expired_iff.mp expired).2
  rw [any_le_eq_false_iff.mpr inTerm.1] at late
  contradiction

/-- Without its request limit, a row is accepted when it is enabled, not past its expiry, and below
its quota. -/
theorem admits_row_iff :
    admitUser (some (hydrate username row.unlimited now)) now = .ok (hydrate username row.unlimited now) ↔
      row.is_active = true ∧ (∀ expires, row.expires_at = some expires → expires = 0 ∨ now ≤ expires) ∧
        row.used_bytes < round (row.quota_gb * 1024 ^ 3) := by
  rw [admitUser_accepts_iff]
  simp [User.WithinLimits, hydrate, UserRow.unlimited]

end

/-! ## Tables -/

section

variable {users : Users} {now : ℤ}

theorem mem_listUsers {search : String → UserRow → Bool} {status : String} {user : User} :
    user ∈ listUsers users search status now ↔ ∃ entry ∈ users.entries, search entry.1 entry.2 = true ∧
      entry.2.selected status now = true ∧ hydrate entry.1 entry.2 now = user := by
  simp only [listUsers, List.mem_map, List.mem_filter, Bool.and_eq_true, and_assoc]

/-- A filter that goes by the hydrated status. -/
theorem listUsers_eq_filter (search : String → UserRow → Bool) {name : String} {status : UserStatus}
    (agrees : ∀ entry ∈ users.entries,
      (entry.2.selected name now = true ↔ (hydrate entry.1 entry.2 now).status = status)) :
    listUsers users search name now =
      (listUsers users search "all" now).filter fun user => user.status = status := by
  rw [listUsers, listUsers, List.filter_map, List.filter_filter]
  refine congrArg _ (List.filter_congr fun entry member => ?_)
  have all : entry.2.selected "all" now = true := rfl
  have same : decide ((hydrate entry.1 entry.2 now).status = status) = entry.2.selected name now :=
    Bool.eq_iff_iff.mpr (decide_eq_true_iff.trans (agrees entry member).symm)
  rw [Function.comp_apply, same, all, Bool.and_true, Bool.and_comm]

theorem sum_eq_countP (counts : String × UserRow → Bool) :
    (users.entries.map fun entry => if counts entry then 1 else 0).sum = users.entries.countP counts := by
  induction users.entries with
  | nil => rfl
  | cons entry rest ih =>
    rw [List.map_cons, List.sum_cons, List.countP_cons, ih]
    omega

/-- The five places agree on every row of a table exactly when each row is in its term. -/
theorem one_notion_iff (users : Users) (now : ℤ) :
    OneNotion users now ↔ ∀ entry ∈ users.entries, entry.2.InTerm now := by
  constructor
  · intro agrees entry member
    have listed (name : String) (status : UserStatus) (filter : (name, status) ∈
        [("active", UserStatus.active), ("expired", .expired), ("disabled", .disabled)])
        (selected : entry.2.selected name now = true) : (hydrate entry.1 entry.2 now).status = status := by
      have inList : hydrate entry.1 entry.2 now ∈ listUsers users (fun _ _ => true) name now :=
        mem_listUsers.mpr ⟨entry, member, rfl, selected, rfl⟩
      rw [agrees.lists (fun _ _ => true) _ filter] at inList
      exact of_decide_eq_true (List.mem_filter.mp inList).2
    have active := listed "active" .active (by simp)
    have expired := listed "expired" .expired (by simp)
    cases enabled : entry.2.is_active with
    | true =>
      obtain ⟨-, timely, below⟩ := hydrate_active_iff.mp (active enabled)
      exact ⟨any_le_eq_false_iff.mp timely, fun _ => below⟩
    | false =>
      refine ⟨any_le_eq_false_iff.mp (Bool.eq_false_iff.mpr fun late => ?_), fun on => ?_⟩
      · have on := (hydrate_expired_iff.mp (expired late)).1
        exact Bool.noConfusion (enabled.symm.trans on)
      · exact Bool.noConfusion (enabled.symm.trans on)
  · intro inTerm
    constructor
    · intro entry member
      rw [admits_row_iff, (inTerm entry member).active_iff]
      refine ⟨fun accepted => accepted.1, fun enabled => ⟨enabled, fun expires found => ?_, ?_⟩⟩
      · have later := (inTerm entry member).1 expires found
        omega
      · exact (inTerm entry member).2 enabled
    · intro search filter listed
      apply listUsers_eq_filter search
      intro entry member
      have row := inTerm entry member
      simp only [List.mem_cons, List.not_mem_nil, or_false] at listed
      rcases listed with rfl | rfl | rfl
      · exact row.active_iff.symm
      · have timely : entry.2.selected "expired" now = false := any_le_eq_false_iff.mpr row.1
        simp [timely, row.not_expired]
      · rw [hydrate_disabled_iff]
        exact Bool.not_eq_true' _ ▸ Iff.rfl
    · rw [userStats, sum_eq_countP fun entry => entry.2.is_active]
      apply List.countP_congr
      intro entry member
      rw [decide_eq_true_eq, (inTerm entry member).active_iff]
    · rw [userStats, sum_eq_countP fun entry => entry.2.expires_at.any (· ≤ now)]
      apply List.countP_congr
      intro entry member
      have timely := any_le_eq_false_iff.mpr (inTerm entry member).1
      simp [timely, (inTerm entry member).not_expired]
    · intro entry member
      refine iff_of_false (fun due => ?_) fun expired => (inTerm entry member).not_expired expired.2
      obtain ⟨other, listed, -⟩ := List.mem_map.mp due
      obtain ⟨present, late⟩ := List.mem_filter.mp listed
      obtain ⟨expires, found, before⟩ := (Option.any_eq_true _ _).mp ((Bool.and_eq_true _ _).mp late).2
      have later := (inTerm other present).1 expires found
      exact absurd (of_decide_eq_true before) (by omega)

/-- At the instant of its expiry a row is expired, and admitted. -/
theorem admitted_at_expiry :
    ¬ OneNotion (OrderedMap.empty.alter "user0" fun _ => { uuid := "", expires_at := some 1000 }) 1000 := by
  intro agrees
  have status := (agrees.admits ("user0", { uuid := "", expires_at := some 1000 }) List.mem_cons_self).mp
    (by decide +kernel)
  exact UserStatus.noConfusion (status.symm.trans (by decide +kernel : _ = UserStatus.expired))

end

end OmniControlPlane.Panel
