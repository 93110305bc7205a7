import Mathlib.Data.Rat.Floor
import OmniControlPlane.Lib.OrderedMap

/-! # The users of a panel

The rows of the `users` table and what `hydrate` makes of one. The lists that a column holds as
JSON text are kept parsed. `quota_gb` is a `REAL` column; a stored double is a rational number, and
its product with a power of two is exact.
-/

namespace OmniControlPlane.Panel

open Lib

structure UserRow where
  uuid : String
  quota_gb : ℚ := 50
  used_bytes : ℤ := 0
  expires_at : Option ℤ := none
  device_limit : ℕ := 3
  request_limit : ℕ := 0
  requests_used : ℕ := 0
  proxies : List String := []
  block_list : List String := []
  is_active : Bool := true
deriving DecidableEq, Repr

/-- Rows by username. -/
abbrev Users := OrderedMap String UserRow

inductive UserStatus where
  | disabled | expired | exhausted | active
deriving DecidableEq, Repr

/-- A row with what `hydrate` adds to it. -/
structure User extends UserRow where
  username : String
  quota_bytes : ℤ
  status : UserStatus
deriving DecidableEq, Repr

/-- `Math.round` rounds a half up. -/
def round (value : ℚ) : ℤ := ⌊value + 1 / 2⌋

def hydrate (username : String) (row : UserRow) (now : ℤ) : User :=
  let quotaBytes := round (row.quota_gb * 1024 ^ 3)
  let expired := row.expires_at.any (· ≤ now)
  let overQuota := quotaBytes ≤ row.used_bytes
  { row with
    username := username
    quota_bytes := quotaBytes
    status := if !row.is_active then .disabled else if expired then .expired else
      if overQuota then .exhausted else .active }

/-- `uuid` is a unique column. -/
def getUserByUuid (users : Users) (uuid : String) (now : ℤ) : Option User :=
  (users.entries.find? (·.2.uuid = uuid)).map fun entry => hydrate entry.1 entry.2 now

theorem getUserByUuid_uuid {users : Users} {uuid : String} {now : ℤ} {user : User}
    (found : getUserByUuid users uuid now = some user) : user.uuid = uuid := by
  obtain ⟨entry, first, rfl⟩ := Option.map_eq_some_iff.mp found
  have same := List.find?_some first
  exact of_decide_eq_true same

end OmniControlPlane.Panel
