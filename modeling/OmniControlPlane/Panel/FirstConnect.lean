import OmniControlPlane.Lib.Interleaving
import OmniControlPlane.Panel.Term

/-! # Starting the clock on first connect

A user who is created with `first_connect` on has no deadline. The first fetch of its subscription sets
one; a tunnel does not, and an admin may set one before. A request is one step here, at one reading of
the clock. The write of a fetch is nobody's to wait for, and may be lost.
-/

namespace OmniControlPlane.Panel.Term

open Lib Machine

namespace FirstConnect

/-- What is to be remembered of a user who was created with `first_connect` on: when it was first used,
and whether an admin has set a deadline. No table has it. -/
structure Note where
  firstUse : Option ℤ := none
  dated : Bool := false
deriving DecidableEq, Repr

structure State where
  users : Table := .empty
  notes : OrderedMap String Note := .empty
  clock : ℤ := 0

/-- A `tunnel` is one that the handler accepts for a user who is found; of the statements of a pass, the
first `executed` ones are executed. -/
inductive Request where
  | create (raw : NewUser)
  | fetch (username : String) (delivery : Delivery)
  | tunnel (username : String)
  | maintenance (policy : String) (executed : ℕ)
  | update (username : String) (patch : Patch)
  | bulk (usernames : List String) (op : BulkOp)
  | reset (username : String) (body : Reset)
  | look
deriving DecidableEq, Repr

structure Event where
  now : ℤ
  request : Request
deriving DecidableEq, Repr

/-- The statement of an edit by an admin. -/
def Request.edit (now : ℤ) : Request → Option Statement
  | .update username patch => if patch = {} then none else some (.update username patch now)
  | .bulk usernames op => (op.statement usernames now).toOption
  | .reset username body => some (.reset username body now)
  | _ => none

/-- The edit sets a deadline. -/
def dates : Statement → Bool
  | .update _ patch _ => patch.expiry_days.isSome
  | .extend _ _ _ => true
  | .reset _ body _ => body.days ≠ 0
  | _ => false

section

variable (state : State) (now : ℤ)

/-- The user has been used. -/
def State.used (username : String) : State :=
  { state with notes := state.notes.modify username fun note => { note with firstUse := note.firstUse.or (some now) } }

def create (raw : NewUser) : State :=
  match newUserInput raw now with
  | .error _ => state
  | .ok (username, row) =>
    if (state.users.get? username).isSome then state
    else
      { state with
        users := (Statement.insert username row).run state.users
        notes := if row.first_connect then state.notes.alter username fun _ => {}
          else state.notes.filter fun other _ => other ≠ username }

def subscription (username : String) (delivery : Delivery) : State :=
  match state.users.get? username with
  | none => state
  | some row =>
    if row.is_active = false then state
    else
      match activateIfNeeded username row now with
      | none => state.used now username
      | some statement =>
        { state.used now username with
          users := if delivery = .refused then state.users else statement.run state.users }

/-- The handler reads the row of its user, and writes nothing to it. -/
def handleVlessWebSocket (username : String) : State :=
  if (state.users.get? username).isSome then state.used now username else state

def runMaintenance (policy : String) (executed : ℕ) : State :=
  { state with
    users := runBatch state.users (((dueUsers state.users now).map (Due.statement policy now)).take executed) }

def write (statement : Statement) : State :=
  { state with
    users := statement.run state.users
    notes := state.notes.mapValues fun username note =>
      if dates statement ∧ username ∈ statement.usernames then { note with dated := true } else note }

def handle : Request → State
  | .create raw => create state now raw
  | .fetch username delivery => subscription state now username delivery
  | .tunnel username => handleVlessWebSocket state now username
  | .maintenance policy executed => runMaintenance state now policy executed
  | .look => state
  | request => (request.edit now).elim state (write state)

end

/-- Time does not go back. -/
def machine : Machine State Event where
  step? state event :=
    if event.now < state.clock then none
    else some { handle state event.now event.request with clock := event.now }

/-! ## What must hold -/

/-- The request is a fetch that is answered, or a tunnel, of the user. -/
def Uses (username : String) (row : Row) : Request → Prop
  | .fetch name _ => name = username ∧ row.is_active = true
  | .tunnel name => name = username
  | _ => False

instance (username : String) (row : Row) (request : Request) : Decidable (Uses username row request) := by
  cases request <;> unfold Uses <;> infer_instance

/-- What a step may do to a user who was created with `first_connect` on. -/
def Treated (username : String) (note : Note) (row : Row) (event : Event) (after : Option Row) : Prop :=
  match note.firstUse with
  | none => row.expired event.now = false ∧
      if Uses username row event.request then
        ∃ row' ∈ after, row'.activated_at = some event.now ∧
          row'.expires_at = if note.dated then row.expires_at else some (event.now + row.expiry_days * DAY)
      else ∀ row' ∈ after, row'.expired event.now = false
  | some _ => Uses username row event.request →
      ∃ row' ∈ after, row'.activated_at = row.activated_at ∧ row'.expires_at = row.expires_at

/-- The first use of the user is a fetch whose write is not lost, while `first_connect` is still on. Before
it no deadline passes, and at it no other one stands that an admin has set. -/
def Ordered (username : String) (note : Note) (row : Row) (event : Event) : Prop :=
  note.firstUse = none → row.expired event.now = false ∧
    match event.request with
    | .fetch name delivery => name = username → row.is_active = true → delivery ≠ .refused ∧
        row.first_connect = true ∧ (note.dated = true → row.expires_at = some (event.now + row.expiry_days * DAY))
    | .tunnel name => name ≠ username
    | request => ∀ statement ∈ request.edit event.now, username ∈ statement.usernames →
        (statement.write row).expired event.now = false

/-- The step treats every such user as it must. -/
def Clocked (state : State) (event : Event) : Prop :=
  ∀ after, machine.step? state event = some after → ∀ entry ∈ state.notes.entries,
    ∀ row ∈ state.users.get? entry.1, Treated entry.1 entry.2 row event (after.users.get? entry.1)

def InOrder (state : State) (event : Event) : Prop :=
  ∀ entry ∈ state.notes.entries, ∀ row ∈ state.users.get? entry.1, Ordered entry.1 entry.2 row event

instance (username : String) (note : Note) (row : Row) (event : Event) : Decidable (Ordered username note row event) := by
  unfold Ordered
  have edits (request : Request) : Decidable (∀ statement ∈ request.edit event.now, username ∈ statement.usernames →
      (statement.write row).expired event.now = false) := Option.decidableForallMem _
  cases event.request <;> infer_instance

instance (state : State) (event : Event) : Decidable (InOrder state event) :=
  @List.decidableBAll _ _ (fun _ => Option.decidableForallMem _) _

/-- A user who was never used has no activation, and no deadline but an admin's; one who was has an activation. -/
def Consistent (note : Note) (row : Row) : Prop :=
  match note.firstUse with
  | none => row.activated_at = none ∧ (note.dated = false → row.expires_at = none)
  | some _ => row.activated_at ≠ none

/-! ## What a request does to a user -/

section

variable {state : State} {now : ℤ} {username name : String} {row : Row}

theorem create_row (found : state.users.get? username = some row) (raw : NewUser) :
    (create state now raw).users.get? username = some row := by
  unfold create
  split
  · exact found
  · next inserted new _ =>
    split
    · exact found
    · next absent =>
      have different : username ≠ inserted := by
        rintro rfl
        exact absent (found ▸ rfl)
      exact (Statement.run_other (by simpa [Statement.usernames] using different) _).trans found

/-- What the first fetch makes of a row. -/
def activated (row : Row) (now : ℤ) : Row :=
  { row with activated_at := some now, expires_at := some (now + row.expiry_days * DAY) }

theorem subscription_other (different : name ≠ username) (delivery : Delivery) :
    (subscription state now name delivery).users.get? username = state.users.get? username := by
  unfold subscription
  split
  · rfl
  · split
    · rfl
    · split
      · rfl
      · next statement wanted =>
        dsimp only
        split
        · rfl
        · refine Statement.run_other ?_ _
          unfold activateIfNeeded at wanted
          split at wanted
          · contradiction
          · rw [← Option.some.inj wanted]
            exact fun named => different (List.mem_singleton.mp named).symm

/-- A fetch that is answered activates a user who is not yet, unless its write is lost. -/
theorem subscription_row (found : state.users.get? username = some row) (active : row.is_active = true)
    (delivery : Delivery) : (subscription state now username delivery).users.get? username =
      some (if row.first_connect = true ∧ row.activated_at = none ∧ delivery ≠ .refused then activated row now else row) := by
  have enabled : ¬ row.is_active = false := by simp [active]
  unfold subscription
  simp only [found, if_neg enabled]
  unfold activateIfNeeded
  by_cases off : row.first_connect = false
  · rw [if_pos (.inl off), if_neg (by simp [off])]
    exact found
  · have on : row.first_connect = true := by simpa using off
    by_cases again : row.activated_at.getD 0 ≠ 0
    · have standing : row.activated_at ≠ none := fun none => again (by rw [none]; rfl)
      rw [if_pos (.inr again), if_neg fun all => standing all.2.1]
      exact found
    · rw [if_neg (not_or.mpr ⟨off, again⟩)]
      dsimp only
      by_cases lost : delivery = .refused
      · rw [if_pos lost, if_neg fun all => all.2.2 lost]
        exact found
      · have named : username ∈ (Statement.activate username now (now + row.expiry_days * DAY)).usernames :=
          List.mem_singleton.mpr rfl
        rw [if_neg lost, Statement.run_update rfl, found, Option.map_some, if_pos named]
        by_cases fresh : row.activated_at = none
        · rw [if_pos ⟨on, fresh, lost⟩, Statement.write, if_pos fresh, activated]
        · rw [if_neg fun all => fresh all.2.1, Statement.write, if_neg fresh]

theorem subscription_inactive (found : state.users.get? username = some row) (inactive : row.is_active = false)
    (delivery : Delivery) : subscription state now username delivery = state := by
  unfold subscription
  simp only [found, if_pos inactive]

theorem handleVlessWebSocket_users : (handleVlessWebSocket state now name).users = state.users := by
  unfold handleVlessWebSocket
  split <;> rfl

/-- A pass leaves a user alone whose deadline is not past. -/
theorem runMaintenance_row (found : state.users.get? username = some row) (timely : row.expired now = false)
    (policy : String) (executed : ℕ) : (runMaintenance state now policy executed).users.get? username = some row := by
  refine (runBatch_other (fun statement inBatch named => ?_) _).trans found
  obtain ⟨due, selected, rfl⟩ := List.mem_map.mp (List.mem_of_mem_take inBatch)
  rw [Due.statement_usernames, List.mem_singleton] at named
  obtain ⟨row', expires, found', deadline, before⟩ := dueUsers_expired (List.mem_map_of_mem selected)
  obtain rfl := Option.some.inj (found.symm.trans (named ▸ found'))
  rw [Row.expired, deadline, Option.any_some, decide_eq_false_iff_not] at timely
  exact timely (le_of_lt before)

/-- An edit deletes a user that it names, or writes its row. -/
theorem write_row (found : state.users.get? username = some row) {statement : Statement}
    (edits : ∀ inserted new, statement ≠ .insert inserted new) :
    (write state statement).users.get? username =
        some (if username ∈ statement.usernames then statement.write row else row) ∨
      (write state statement).users.get? username = none ∧ statement.write row = row := by
  cases statement with
  | insert inserted new => exact absurd rfl (edits inserted new)
  | delete deleted =>
    by_cases named : username ∈ deleted
    · refine .inr ⟨?_, rfl⟩
      exact (OrderedMap.get?_filter ..).trans (if_neg (by simp [named]))
    · refine .inl ((Statement.run_other named _).trans (found.trans ?_))
      rw [if_neg (by exact named)]
  | _ => exact .inl ((Statement.run_update rfl _ _).trans (by rw [found, Option.map_some]))

theorem edit_not_insert {request : Request} {statement : Statement} (edits : request.edit now = some statement)
    (inserted : String) (new : Row) : statement ≠ .insert inserted new := by
  cases request with
  | update updated patch =>
    rw [Request.edit] at edits
    split at edits
    · contradiction
    · exact Option.some.inj edits ▸ nofun
  | bulk usernames op =>
    cases op with
    | unknown op => contradiction
    | _ => exact Option.some.inj edits ▸ nofun
  | reset reset body => exact Option.some.inj edits ▸ nofun
  | _ => contradiction

end

/-! ## The condition is exact -/

section

variable {state : State} {username : String} {note : Note} {row : Row} {event : Event}

/-- What a request other than a use makes of a user whose deadline is not past. -/
theorem edited_row (found : state.users.get? username = some row) (timely : row.expired event.now = false)
    (idle : ¬ Uses username row event.request) :
    (∀ row' ∈ (handle state event.now event.request).users.get? username, row'.expired event.now = false) ↔
      ∀ statement ∈ event.request.edit event.now, username ∈ statement.usernames →
        (statement.write row).expired event.now = false := by
  obtain ⟨now, request⟩ := event
  have unchanged (same : (handle state now request).users.get? username = some row) (none : request.edit now = none) :
      (∀ row' ∈ (handle state now request).users.get? username, row'.expired now = false) ↔
        ∀ statement ∈ request.edit now, username ∈ statement.usernames → (statement.write row).expired now = false := by
    rw [same, none]
    exact iff_of_true (fun row' same => Option.some.inj same ▸ timely) fun _ absent => absurd absent (Option.not_mem_none _)
  have edited (statement : Statement) (edits : request.edit now = some statement)
      (handled : handle state now request = write state statement) :
      (∀ row' ∈ (handle state now request).users.get? username, row'.expired now = false) ↔
        ∀ statement ∈ request.edit now, username ∈ statement.usernames → (statement.write row).expired now = false := by
    rw [handled, edits]
    rcases write_row found (edit_not_insert edits) with written | ⟨gone, same⟩
    · rw [written]
      by_cases named : username ∈ statement.usernames
      · simp [named]
      · simp [named, timely]
    · rw [gone]
      apply iff_of_true (fun _ absent => absurd absent (Option.not_mem_none _))
      intro other same' _
      rw [← Option.some.inj same', same]
      exact timely
  have editing (handled : handle state now request = (request.edit now).elim state (write state)) :
      (∀ row' ∈ (handle state now request).users.get? username, row'.expired now = false) ↔
        ∀ statement ∈ request.edit now, username ∈ statement.usernames → (statement.write row).expired now = false := by
    cases edits : request.edit now with
    | none => exact edits ▸ unchanged (by rw [handled, edits]; exact found) edits
    | some statement => exact edits ▸ edited statement edits (by rw [handled, edits]; rfl)
  cases request with
  | create raw => exact unchanged (create_row found raw) rfl
  | look => exact unchanged found rfl
  | maintenance policy executed => exact unchanged (runMaintenance_row found timely policy executed) rfl
  | tunnel name =>
    exact unchanged ((congrArg (·.get? username) handleVlessWebSocket_users).trans found) rfl
  | fetch name delivery =>
    by_cases same : name = username
    · subst same
      have inactive : row.is_active = false := by simpa [Uses] using idle
      exact unchanged (by rw [handle, subscription_inactive found inactive]; exact found) rfl
    · exact unchanged ((subscription_other same delivery).trans found) rfl
  | update updated patch => exact editing rfl
  | bulk usernames op => exact editing rfl
  | reset reset body => exact editing rfl

/-- A step treats a user as it must exactly when its request is in order. -/
theorem treated_iff (found : state.users.get? username = some row) (consistent : Consistent note row) :
    Treated username note row event ((handle state event.now event.request).users.get? username) ↔
      Ordered username note row event := by
  obtain ⟨now, request⟩ := event
  unfold Treated Ordered
  unfold Consistent at consistent
  cases used : note.firstUse with
  | some first =>
    rw [used] at consistent
    refine iff_of_true (fun uses => ⟨row, ?_, rfl, rfl⟩) nofun
    cases request with
    | fetch name delivery =>
      obtain ⟨rfl, active⟩ := uses
      exact (subscription_row found active delivery).trans (by rw [if_neg fun all => consistent all.2.1])
    | tunnel name => exact (congrArg (·.get? username) handleVlessWebSocket_users).trans found
    | _ => exact uses.elim
  | none =>
    rw [used] at consistent
    obtain ⟨fresh, undated⟩ := consistent
    rw [forall_prop_of_true rfl]
    apply and_congr_right
    intro timely
    by_cases uses : Uses username row request
    · rw [if_pos uses]
      cases request with
      | fetch name delivery =>
        obtain ⟨rfl, active⟩ := uses
        rw [handle, subscription_row found active]
        by_cases works : row.first_connect = true ∧ delivery ≠ .refused
        · rw [if_pos ⟨works.1, fresh, works.2⟩]
          cases dated : note.dated with
          | true => simp [activated, works, active, eq_comm]
          | false => simp [activated, works, active]
        · rw [if_neg fun all => works ⟨all.1, all.2.2⟩]
          refine iff_of_false ?_ fun all => works ⟨(all rfl active).2.1, (all rfl active).1⟩
          rintro ⟨row', same, activation, -⟩
          obtain rfl := Option.some.inj same
          exact Option.some_ne_none _ (activation.symm.trans fresh)
      | tunnel name =>
        obtain rfl : name = username := uses
        refine iff_of_false ?_ fun other => other rfl
        rintro ⟨row', same, activation, -⟩
        rw [handle, handleVlessWebSocket_users, found] at same
        obtain rfl := Option.some.inj same
        exact Option.some_ne_none _ (activation.symm.trans fresh)
      | _ => exact uses.elim
    · rw [if_neg uses]
      have edited := @edited_row state username row ⟨now, request⟩ found timely uses
      cases request with
      | fetch name delivery =>
        refine iff_of_true (edited.mpr ?_) fun same active => absurd ⟨same, active⟩ uses
        exact fun _ absent => absurd absent (Option.not_mem_none _)
      | tunnel name =>
        refine iff_of_true (edited.mpr ?_) uses
        exact fun _ absent => absurd absent (Option.not_mem_none _)
      | _ => exact edited

end

/-! ## What is consistent stays so -/

section

variable {state : State} {now : ℤ} {username : String} {note : Note} {row : Row}

/-- What is remembered of every user fits its row. -/
def Sound (state : State) : Prop :=
  ∀ username note row, state.notes.get? username = some note → state.users.get? username = some row → Consistent note row

/-- A pass writes no activation. -/
theorem runMaintenance_activated_at (policy : String) (executed : ℕ)
    (found : (runMaintenance state now policy executed).users.get? username = some row) :
    ∃ before, state.users.get? username = some before ∧ row.activated_at = before.activated_at := by
  have batch (statements : List Statement) (table : Table)
      (dues : ∀ statement ∈ statements, ∃ due, statement = Due.statement policy now due) {row : Row}
      (found : (runBatch table statements).get? username = some row) :
      ∃ before, table.get? username = some before ∧ row.activated_at = before.activated_at := by
    induction statements generalizing table with
    | nil => exact ⟨row, found, rfl⟩
    | cons first rest ih =>
      obtain ⟨middle, between, same⟩ := ih (first.run table) (fun statement member =>
        dues statement (List.mem_cons_of_mem first member)) found
      obtain ⟨due, rfl⟩ := dues first List.mem_cons_self
      unfold Due.statement at between
      split at between
      · obtain ⟨before, present, rfl⟩ := Option.map_eq_some_iff.mp ((Statement.run_update rfl ..).symm.trans between)
        exact ⟨before, present, same.trans (by split <;> rfl)⟩
      · split at between
        · exact ⟨middle, (OrderedMap.get?_filter_eq_some_iff.mp between).1, same⟩
        · obtain ⟨before, present, rfl⟩ := Option.map_eq_some_iff.mp ((Statement.run_update rfl ..).symm.trans between)
          exact ⟨before, present, same.trans (by split <;> rfl)⟩
  refine batch _ state.users (fun statement member => ?_) found
  obtain ⟨due, -, rfl⟩ := List.mem_map.mp (List.mem_of_mem_take member)
  exact ⟨due, rfl⟩

/-- An edit by an admin writes no activation, and a deadline only where it sets one. -/
theorem edit_write {request : Request} {statement : Statement} (edits : request.edit now = some statement) (row : Row) :
    (statement.write row).activated_at = row.activated_at ∧
      (dates statement = false → (statement.write row).expires_at = row.expires_at) := by
  cases request with
  | update updated patch =>
    rw [Request.edit] at edits
    split at edits
    · contradiction
    · obtain rfl := Option.some.inj edits
      refine ⟨rfl, fun undated => ?_⟩
      have kept : patch.expiry_days = none := by simpa [dates] using undated
      simp [Statement.write, kept]
  | bulk usernames op =>
    cases op with
    | unknown op => contradiction
    | extend value => exact Option.some.inj edits ▸ ⟨rfl, nofun⟩
    | _ => exact Option.some.inj edits ▸ ⟨rfl, fun _ => rfl⟩
  | reset reset body =>
    obtain rfl := Option.some.inj edits
    refine ⟨rfl, fun undated => if_pos ?_⟩
    simpa [dates] using undated
  | _ => contradiction

theorem Sound.create (sound : Sound state) (raw : NewUser) : Sound (create state now raw) := by
  unfold FirstConnect.create
  split
  · exact sound
  · next name new accepted =>
    split
    · exact sound
    · next absent =>
      obtain ⟨fresh, undated⟩ := newUserInput_row accepted
      have inserted : (Statement.insert name new).run state.users = state.users.alter name fun _ => new := if_neg absent
      intro username note row noted found
      change ((Statement.insert name new).run state.users).get? username = some row at found
      rw [inserted, OrderedMap.get?_alter] at found
      by_cases same : username = name
      · rw [if_pos same] at found
        obtain rfl := Option.some.inj found
        change (if new.first_connect then state.notes.alter name fun _ => {}
          else state.notes.filter fun other _ => other ≠ name).get? username = some note at noted
        cases on : new.first_connect with
        | true =>
          rw [on, if_pos rfl, OrderedMap.get?_alter, if_pos same] at noted
          obtain rfl := Option.some.inj noted
          exact ⟨fresh, fun _ => undated on⟩
        | false =>
          rw [on, if_neg Bool.false_ne_true] at noted
          have other := (OrderedMap.get?_filter_eq_some_iff.mp noted).2
          exact absurd same (of_decide_eq_true other)
      · rw [if_neg same] at found
        refine sound username note row ?_ found
        change (if new.first_connect then state.notes.alter name fun _ => {}
          else state.notes.filter fun other _ => other ≠ name).get? username = some note at noted
        split at noted
        · rw [OrderedMap.get?_alter, if_neg same] at noted
          exact noted
        · exact (OrderedMap.get?_filter_eq_some_iff.mp noted).1

/-- A use is remembered, and only it. -/
theorem used_note {name : String} (noted : (state.used now name).notes.get? username = some note) :
    ∃ before, state.notes.get? username = some before ∧
      note = if username = name then { before with firstUse := before.firstUse.or (some now) } else before := by
  rw [State.used, OrderedMap.get?_modify] at noted
  split at noted
  · next same =>
    obtain ⟨before, present, rfl⟩ := Option.map_eq_some_iff.mp noted
    exact ⟨before, same ▸ present, (if_pos same).symm⟩
  · next different => exact ⟨note, noted, (if_neg different).symm⟩

/-- What is remembered of a user who has just been used fits a row that has an activation. -/
theorem consistent_used {before : Note} (standing : row.activated_at ≠ none) :
    Consistent { before with firstUse := before.firstUse.or (some now) } row := by
  unfold Consistent
  cases before.firstUse with
  | none => exact standing
  | some _ => exact standing

theorem Sound.fetch (sound : Sound state) {name : String} {delivery : Delivery}
    (inOrder : InOrder state ⟨now, .fetch name delivery⟩) : Sound (subscription state now name delivery) := by
  by_cases answered : ∃ row, state.users.get? name = some row ∧ row.is_active = true
  · obtain ⟨old, present, active⟩ := answered
    intro username note row noted found
    have notes : (subscription state now name delivery).notes = (state.used now name).notes := by
      have enabled : ¬ old.is_active = false := by simp [active]
      unfold subscription
      simp only [present, if_neg enabled]
      split <;> rfl
    rw [notes] at noted
    obtain ⟨before, remembered, rfl⟩ := used_note noted
    by_cases same : username = name
    · subst same
      rw [subscription_row present active] at found
      rw [if_pos rfl]
      apply consistent_used
      have consistent := sound username before old remembered present
      split at found
      · exact Option.some.inj found ▸ Option.some_ne_none now
      · next idle =>
        obtain rfl := Option.some.inj found
        intro none
        have unused : before.firstUse = .none := by
          unfold Consistent at consistent
          cases used : before.firstUse with
          | none => rfl
          | some first =>
            rw [used] at consistent
            exact absurd none consistent
        have order := inOrder (username, before) (OrderedMap.mem_entries_iff.mpr remembered) old present unused
        obtain ⟨sent, on, -⟩ := order.2 rfl active
        exact idle ⟨on, none, sent⟩
    · rw [subscription_other fun equal => same equal.symm] at found
      rw [if_neg same]
      exact sound username before row remembered found
  · have unchanged : subscription state now name delivery = state := by
      cases present : state.users.get? name with
      | none => simp only [subscription, present]
      | some old =>
        refine subscription_inactive present ?_ delivery
        exact Bool.eq_false_iff.mpr fun active => answered ⟨old, present, active⟩
    rw [unchanged]
    exact sound

theorem Sound.tunnel (sound : Sound state) {name : String} (inOrder : InOrder state ⟨now, .tunnel name⟩) :
    Sound (handleVlessWebSocket state now name) := by
  unfold handleVlessWebSocket
  split
  · intro username note row noted found
    obtain ⟨before, remembered, rfl⟩ := used_note noted
    have consistent := sound username before row remembered found
    split
    · next same =>
      apply consistent_used
      unfold Consistent at consistent
      cases used : before.firstUse with
      | none =>
        have order := inOrder (username, before) (OrderedMap.mem_entries_iff.mpr remembered) row found used
        exact absurd same.symm order.2
      | some first =>
        rw [used] at consistent
        exact consistent
    · exact consistent
  · exact sound

theorem Sound.maintenance (sound : Sound state) {policy : String} {executed : ℕ}
    (inOrder : InOrder state ⟨now, .maintenance policy executed⟩) : Sound (runMaintenance state now policy executed) := by
  intro username note row noted found
  have noted : state.notes.get? username = some note := noted
  obtain ⟨before, present, activation⟩ := runMaintenance_activated_at policy executed found
  have consistent := sound username note before noted present
  cases used : note.firstUse with
  | none =>
    have order := inOrder (username, note) (OrderedMap.mem_entries_iff.mpr noted) before present used
    rw [runMaintenance_row present order.1] at found
    exact Option.some.inj found ▸ consistent
  | some first =>
    unfold Consistent at consistent ⊢
    rw [used] at consistent ⊢
    exact activation ▸ consistent

/-- A row that an edit leaves is a row of before, written where it is named. -/
theorem write_found {statement : Statement} (edits : ∀ inserted new, statement ≠ .insert inserted new)
    (found : (write state statement).users.get? username = some row) : ∃ old, state.users.get? username = some old ∧
      row = if username ∈ statement.usernames then statement.write old else old := by
  cases present : state.users.get? username with
  | some old =>
    rcases write_row present edits with written | ⟨gone, -⟩
    · exact ⟨old, rfl, Option.some.inj (found.symm.trans written)⟩
    · exact absurd (found.symm.trans gone) (Option.some_ne_none row)
  | none =>
    cases statement with
    | insert inserted new => exact absurd rfl (edits inserted new)
    | delete deleted =>
      have before := (OrderedMap.get?_filter_eq_some_iff.mp found).1
      exact absurd (before.symm.trans present) (Option.some_ne_none row)
    | _ =>
      obtain ⟨old, before, -⟩ := Option.map_eq_some_iff.mp ((Statement.run_update rfl ..).symm.trans found)
      exact absurd (before.symm.trans present) (Option.some_ne_none old)

theorem Sound.write (sound : Sound state) {request : Request} {statement : Statement}
    (edits : request.edit now = some statement) : Sound (write state statement) := by
  intro username note row noted found
  obtain ⟨before, remembered, rfl⟩ := Option.map_eq_some_iff.mp
    ((OrderedMap.get?_mapValues ..).symm.trans (show (state.notes.mapValues _).get? username = some note from noted))
  obtain ⟨old, present, rfl⟩ := write_found (edit_not_insert edits) found
  obtain ⟨activation, undated⟩ := edit_write edits old
  have consistent := sound username before old remembered present
  by_cases named : username ∈ statement.usernames
  · rw [if_pos named]
    unfold Consistent at consistent ⊢
    by_cases dated : dates statement = true
    · rw [if_pos ⟨dated, named⟩]
      cases used : before.firstUse with
      | none =>
        rw [used] at consistent
        exact ⟨activation.trans consistent.1, nofun⟩
      | some first =>
        rw [used] at consistent
        exact activation ▸ consistent
    · rw [if_neg fun both => dated both.1]
      cases used : before.firstUse with
      | none =>
        rw [used] at consistent
        refine ⟨activation.trans consistent.1, fun none => ?_⟩
        exact (undated (Bool.eq_false_iff.mpr dated)).trans (consistent.2 none)
      | some first =>
        rw [used] at consistent
        exact activation ▸ consistent
  · rw [if_neg named, if_neg fun both => named both.2]
    exact consistent

theorem Sound.handle (sound : Sound state) {request : Request} (inOrder : InOrder state ⟨now, request⟩) :
    Sound (handle state now request) := by
  have editing (handled : FirstConnect.handle state now request = (request.edit now).elim state (FirstConnect.write state)) :
      Sound (FirstConnect.handle state now request) := by
    rw [handled]
    cases edits : request.edit now with
    | none => exact sound
    | some statement => exact sound.write edits
  cases request with
  | create raw => exact sound.create raw
  | fetch name delivery => exact sound.fetch inOrder
  | tunnel name => exact sound.tunnel inOrder
  | maintenance policy executed => exact sound.maintenance inOrder
  | look => exact sound
  | update updated patch => exact editing rfl
  | bulk usernames op => exact editing rfl
  | reset reset body => exact editing rfl

end

/-- Every step of a run treats the users who were created with `first_connect` on as it must exactly when
every request of the run is in order. -/
theorem first_connect_iff {state state' : State} {history : List Event} (fresh : state.notes = .empty)
    (run : machine.Run Free state history state') :
    machine.Run Clocked state history state' ↔ machine.Run InOrder state history state' := by
  have stepped {state after : State} {event : Event} (step : machine.step? state event = some after) :
      after = { handle state event.now event.request with clock := event.now } := by
    have step : (if event.now < state.clock then none
      else some { handle state event.now event.request with clock := event.now }) = some after := step
    split at step
    · contradiction
    · exact (Option.some.inj step).symm
  refine run.steps_iff Sound ?_ ?_ ?_
  · intro state event after sound step
    have exact (entry : String × Note) (member : entry ∈ state.notes.entries) (row : Row)
        (found : row ∈ state.users.get? entry.1) : Treated entry.1 entry.2 row event (after.users.get? entry.1) ↔
          Ordered entry.1 entry.2 row event := by
      rw [stepped step]
      exact treated_iff found (sound entry.1 entry.2 row (OrderedMap.mem_entries_iff.mp member) found)
    constructor
    · intro clocked entry member row found
      exact (exact entry member row found).mp (clocked after step entry member row found)
    · intro inOrder after' step' entry member row found
      obtain rfl : after = after' := Option.some.inj (step.symm.trans step')
      exact (exact entry member row found).mpr (inOrder entry member row found)
  · intro state event after sound inOrder step
    rw [stepped step]
    exact sound.handle inOrder
  · intro username note row noted
    rw [fresh] at noted
    contradiction

/-! ## A fetch and a tunnel -/

namespace Sample

/-- A user is created, its subscription is fetched, and it opens a tunnel. -/
def fetched : List Event :=
  [⟨1000, .create ⟨"user0", 50, 30, 0, true, true⟩⟩, ⟨2000, .fetch "user0" .answered⟩, ⟨3000, .tunnel "user0"⟩]

/-- A user is created and opens a tunnel. -/
def tunnelled : List Event := [⟨1000, .create ⟨"user0", 50, 30, 0, true, true⟩⟩, ⟨2000, .tunnel "user0"⟩]

end Sample

/-- The fetch starts the clock, and the tunnel leaves it alone. -/
theorem first_connect_iff_fetched : ∃ state, machine.Run Free {} Sample.fetched state ∧
    (state.users.get? "user0").map (·.activated_at) = some (some 2000) ∧
      (machine.Run Clocked {} Sample.fetched state ↔ machine.Run InOrder {} Sample.fetched state) ∧
        machine.Run Clocked {} Sample.fetched state := by
  have evaluated : (machine.checked? (fun state event => decide (InOrder state event)) {} Sample.fetched).any (fun state =>
      (state.users.get? "user0").map (·.activated_at) = some (some 2000)) = true := by
    decide +kernel
  obtain ⟨state, replayed, checked⟩ := (Option.any_eq_true _ _).mp evaluated
  have inOrder := Run.of_checked (fun _ _ => of_decide_eq_true) replayed
  have run := inOrder.mono fun _ _ _ => trivial
  have exact := first_connect_iff rfl run
  exact ⟨state, run, of_decide_eq_true checked, exact, exact.mpr inOrder⟩

/-- The tunnel is the first use, and starts no clock. -/
theorem tunnel_starts_no_clock : ∃ state, machine.Run Free {} Sample.tunnelled state ∧
    (state.users.get? "user0").map (·.activated_at) = some none ∧ ¬ machine.Run Clocked {} Sample.tunnelled state := by
  have evaluated : (machine.replay? {} (Sample.tunnelled.take 1)).any (fun state =>
      state.notes.entries = [("user0", {})] ∧ (state.users.get? "user0").isSome ∧
        (machine.step? state ⟨2000, .tunnel "user0"⟩).any fun after =>
          (after.users.get? "user0").map (·.activated_at) = some none) = true := by
    decide +kernel
  obtain ⟨created, replayed, checked⟩ := (Option.any_eq_true _ _).mp evaluated
  obtain ⟨noted, present, opening⟩ := of_decide_eq_true checked
  obtain ⟨row, found⟩ := Option.isSome_iff_exists.mp present
  obtain ⟨after, opened, unset⟩ := (Option.any_eq_true _ _).mp opening
  have unset := of_decide_eq_true unset
  have first := Run.free_iff_replay.mpr replayed
  refine ⟨after, first.snoc trivial opened, unset, fun run => ?_⟩
  have run : machine.Run Clocked {} (Sample.tunnelled.take 1 ++ Sample.tunnelled.drop 1) after := run
  obtain ⟨created', reached, rest⟩ := Run.append_iff.mp run
  have replayed' := Run.free_iff_replay.mp (reached.mono fun _ _ _ => trivial)
  obtain rfl : created = created' := Option.some.inj (replayed.symm.trans replayed')
  have treated := (Run.cons_iff.mp rest).1 after opened ("user0", {}) (noted ▸ List.mem_cons_self) row found
  obtain ⟨-, used⟩ : row.expired 2000 = false ∧ if Uses "user0" row (.tunnel "user0") then _ else _ := treated
  rw [if_pos (by rfl)] at used
  obtain ⟨row', after', activation, -⟩ := used
  have after' : after.users.get? "user0" = some row' := after'
  rw [after', Option.map_some, activation] at unset
  exact Option.some_ne_none _ (Option.some.inj unset)

end FirstConnect

end OmniControlPlane.Panel.Term
