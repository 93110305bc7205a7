import OmniControlPlane.DnsCenter.Scan

/-! # What the cron selects

Every five minutes the cron selects the ranges that are due and the live ranges that are stalled. A
range whose last pass is older than the interval, or that has never completed one and has not been
scanned for longer than the stall limit, is overdue. The two queries do not cover a live range that
has finished, nor one whose cursor stands at its end: neither of them selects it again.
-/

namespace OmniControlPlane.DnsCenter

open Lib Machine Portal

/-- `staleMs` -/
def staleMs : ℕ := 120000

namespace RangeRow

/-- The last completed pass is too old, or there is none and nothing was scanned for too long. -/
def Overdue (now : ℕ) (row : RangeRow) : Prop :=
  match row.finished_at with
  | some finished => finished + scanInterval < now
  | none => row.active_at + staleMs < now

instance (now : ℕ) (row : RangeRow) : Decidable (row.Overdue now) := by
  unfold Overdue
  split <;> infer_instance

/-- One of the two queries selects the range. -/
def Selected (now : ℕ) (row : RangeRow) : Prop := row.due now = true ∨ row.stalled staleMs now = true

instance (now : ℕ) (row : RangeRow) : Decidable (row.Selected now) := inferInstanceAs (Decidable (_ ∨ _))

/-- Whenever the next cron tick comes, it selects the range if it is overdue. -/
def Covered (clock : ℕ) (row : RangeRow) : Prop := ∀ now, clock ≤ now → row.Overdue now → row.Selected now

end RangeRow

def Covered (store : Store) : Prop := ∀ id row, store.ranges.get? id = some row → row.Covered store.clock

/-- What a statement on this row must meet.

A card is bound only to a range without a completed pass, and no live range is advanced to its end or
finished. The last scan of a finished range is not later than its pass. -/
def RangeRow.Keeps (choice : Choice) (row : RangeRow) : Command → Prop
  | .bindCard _ message => message.isSome → row.finished_at = none ∧ row.cursor < row.ips_total
  | .advanceCursor _ cursor =>
    if row.live_message_id.isSome then cursor < row.ips_total else ∀ finished ∈ row.finished_at, choice.now ≤ finished
  | .finishRound _ => row.live_message_id = none ∧ choice.elapsed = 0
  | .moveCursor _ cursor => row.live_message_id.isSome → cursor < row.ips_total
  | .completePass _ => row.live_message_id = none
  | _ => True

instance (choice : Choice) (row : RangeRow) : (command : Command) → Decidable (row.Keeps choice command)
  | .bindCard .. => inferInstanceAs (Decidable (_ → _ ∧ _))
  | .advanceCursor _ cursor => inferInstanceAs (Decidable (if row.live_message_id.isSome then cursor < row.ips_total
      else ∀ finished ∈ row.finished_at, choice.now ≤ finished))
  | .finishRound _ => inferInstanceAs (Decidable (_ ∧ _))
  | .moveCursor .. => inferInstanceAs (Decidable (_ → _))
  | .completePass _ => inferInstanceAs (Decidable (_ = _))
  | .listRanges _ | .removeResults _ | .removeRange _ | .insertRange .. | .sendCard _ | .scanTickFetch _
  | .selectRange _ | .clearResults _ | .countResults _ | .storeWave .. | .selectResults _ | .selectDue
  | .insertResult .. | .purgeResults | .selectStalled .. | .waitUntil _ => .isTrue trivial

/-- An `UPDATE` that takes effect meets the condition on its row. -/
def Keeps (command : Command) (choice : Choice) (store : Store) : Prop :=
  choice.delivery ≠ .refused → ∀ update ∈ command.update choice, ∀ row ∈ store.ranges.get? update.1,
    row.Keeps choice command

instance (command : Command) (choice : Choice) (store : Store) : Decidable (Keeps command choice store) :=
  inferInstanceAs (Decidable (_ → ∀ update ∈ command.update choice, ∀ row ∈ store.ranges.get? update.1, _))

/-! ## One row -/

namespace RangeRow

variable {row : RangeRow} {clock now : ℕ} {choice : Choice}

theorem due_iff : row.due now = true ↔ row.live_message_id = none ∧
    (row.finished_at = none ∨ row.last_scan_at = none ∨ ∃ last ∈ row.last_scan_at, last + scanInterval < now) := by
  simp only [due, Bool.and_eq_true, Bool.or_eq_true, Option.isNone_iff_eq_none, Option.any_eq_true, decide_eq_true_eq,
    or_assoc, Option.mem_def]

theorem stalled_iff {stale : ℕ} : row.stalled stale now = true ↔ row.live_message_id.isSome ∧ row.finished_at = none ∧
    row.cursor < row.ips_total ∧ row.last_scan_at.getD row.created_at + stale < now := by
  simp only [stalled, Bool.and_eq_true, Option.isNone_iff_eq_none, decide_eq_true_eq, and_assoc]

/-- What is known of every stored range as long as all of them are covered. -/
structure Sound (clock : ℕ) (row : RangeRow) : Prop where
  active : row.active_at ≤ clock
  scanned : row.last_scan_at.getD row.created_at ≤ row.active_at
  finished : ∀ finished ∈ row.finished_at, ∃ last ∈ row.last_scan_at, last ≤ finished
  live : row.live_message_id.isSome → row.finished_at = none ∧ row.cursor < row.ips_total

theorem Sound.mono (sound : row.Sound clock) (later : clock ≤ now) : row.Sound now :=
  { sound with active := Nat.le_trans sound.active later }

theorem Covered.mono (covered : row.Covered clock) (later : clock ≤ now) : row.Covered now :=
  fun next after => covered next (Nat.le_trans later after)

theorem Sound.covered (sound : row.Sound clock) : row.Covered clock := by
  intro now _ overdue
  by_cases live : row.live_message_id.isSome
  · obtain ⟨passed, before⟩ := sound.live live
    simp only [Overdue, passed] at overdue
    have scanned := sound.scanned
    exact .inr (stalled_iff.mpr ⟨live, passed, before, by omega⟩)
  · have chat := Option.not_isSome_iff_eq_none.mp live
    cases passed : row.finished_at with
    | none => exact .inl (due_iff.mpr ⟨chat, .inl passed⟩)
    | some finished =>
      obtain ⟨last, scanned, order⟩ := sound.finished finished passed
      simp only [Overdue, passed] at overdue
      exact .inl (due_iff.mpr ⟨chat, .inr (.inr ⟨last, scanned, by omega⟩)⟩)

/-- Neither query selects a live range that has finished or stands at its end. -/
theorem Covered.of_live (covered : row.Covered clock) (live : row.live_message_id.isSome) :
    row.finished_at = none ∧ row.cursor < row.ips_total := by
  have chosen := covered (clock + row.active_at + row.finished_at.getD 0 + scanInterval + staleMs + 1) (by omega)
  have overdue : row.Overdue (clock + row.active_at + row.finished_at.getD 0 + scanInterval + staleMs + 1) := by
    cases passed : row.finished_at with
    | some finished =>
      simp only [Overdue, passed, Option.getD_some]
      omega
    | none =>
      simp only [Overdue, passed]
      omega
  rcases chosen overdue with due | stalled
  · rw [(due_iff.mp due).1] at live
    contradiction
  · obtain ⟨-, unfinished, before, -⟩ := stalled_iff.mp stalled
    exact ⟨unfinished, before⟩

/-- A range that was scanned again after its pass is overdue before the first query selects it. -/
theorem Covered.scan_le {finished last : ℕ} (covered : row.Covered clock)
    (passed : row.finished_at = some finished) (scanned : row.last_scan_at = some last) (recent : clock ≤ last) :
    last ≤ finished := by
  by_contra later
  have overdue : row.Overdue (last + scanInterval) := by
    simp only [Overdue, passed]
    omega
  rcases covered (last + scanInterval) (by omega) overdue with due | stalled
  · obtain ⟨-, unfinished | unscanned | ⟨last', same, old⟩⟩ := due_iff.mp due
    · rw [passed] at unfinished
      contradiction
    · rw [scanned] at unscanned
      contradiction
    · obtain rfl := Option.some.inj (scanned.symm.trans same)
      omega
  · rw [(stalled_iff.mp stalled).2.1] at passed
    contradiction

/-- An update leaves the row covered only under its condition, and sound under it. -/
theorem Sound.update_keeps {command : Command} {update : String × (RangeRow → RangeRow)} (sound : row.Sound clock)
    (updates : command.update choice = some update) (later : clock ≤ choice.now) :
    ((update.2 row).Covered (choice.clock command) → row.Keeps choice command) ∧
      (row.Keeps choice command → (update.2 row).Sound (choice.clock command)) := by
  have active := sound.active
  have scanned := sound.scanned
  cases command with
  | bindCard rangeId message =>
    obtain rfl := Option.some.inj updates
    refine ⟨fun covered live => covered.of_live live, fun kept => ⟨?_, scanned, sound.finished, kept⟩⟩
    exact Nat.le_trans active later
  | advanceCursor rangeId cursor =>
    obtain rfl := Option.some.inj updates
    constructor
    · intro covered
      rw [Keeps]
      split
      · next live => exact (covered.of_live live).2
      · intro finished passed
        exact covered.scan_le passed rfl (Nat.le_refl _)
    · intro kept
      rw [Keeps] at kept
      refine ⟨Nat.le_refl _, Nat.le_refl _, fun finished passed => ⟨choice.now, rfl, ?_⟩, fun live => ⟨?_, ?_⟩⟩
      · split at kept
        · next live => rw [(sound.live live).1] at passed; contradiction
        · exact kept finished passed
      · exact (sound.live live).1
      · rw [if_pos live] at kept
        exact kept
  | finishRound rangeId =>
    obtain rfl := Option.some.inj updates
    constructor
    · intro covered
      have chat : row.live_message_id = none := by
        rw [← Option.not_isSome_iff_eq_none]
        intro live
        have := (covered.of_live live).1
        contradiction
      have := covered.scan_le rfl rfl (Nat.le_refl _)
      refine ⟨chat, ?_⟩
      rw [Choice.later] at this
      omega
    · rintro ⟨chat, instant⟩
      refine ⟨Nat.le_refl _, Nat.le_refl _, fun finished passed => ⟨choice.later, rfl, ?_⟩, fun live => ?_⟩
      · obtain rfl := Option.some.inj passed
        rw [Choice.later, instant]
        exact Nat.le_refl _
      · rw [show row.live_message_id = none from chat] at live
        contradiction
  | moveCursor rangeId cursor =>
    obtain rfl := Option.some.inj updates
    refine ⟨fun covered live => (covered.of_live live).2, fun kept => ?_⟩
    refine ⟨Nat.le_refl _, ?_, sound.finished, fun live => ⟨(sound.live live).1, kept live⟩⟩
    exact Nat.le_trans scanned (Nat.le_trans active later)
  | completePass rangeId =>
    obtain rfl := Option.some.inj updates
    constructor
    · intro covered
      rw [Keeps, ← Option.not_isSome_iff_eq_none]
      intro live
      have := (covered.of_live live).1
      contradiction
    · intro chat
      refine ⟨Nat.le_refl _, Nat.le_add_right .., fun finished passed => ⟨choice.now, rfl, ?_⟩, fun live => ?_⟩
      · obtain rfl := Option.some.inj passed
        exact Nat.le_add_right ..
      · rw [show row.live_message_id = none from chat] at live
        contradiction
  | _ => contradiction

theorem create_sound (tenantId : String) (parsed : ParsedRange) : (create tenantId parsed now).Sound now :=
  ⟨Nat.le_refl _, Nat.le_refl _, nofun, nofun⟩

end RangeRow

/-! ## One statement -/

section

variable {command : Command} {choice : Choice} {store store' : Store}

/-- What is known of the stored ranges. -/
def Sound (store : Store) : Prop := ∀ id row, store.ranges.get? id = some row → row.Sound store.clock

/-- A statement leaves every range covered exactly when it meets its condition. -/
theorem exec_keeps {reply : Except Thrown (Answer command)} (sound : Sound store)
    (executed : exec command choice store = some (store', reply)) :
    (Covered store' ↔ Keeps command choice store) ∧ (Keeps command choice store → Sound store') := by
  obtain ⟨later, -, ⟨rfl, -, delivered, -⟩ | ⟨rfl, -, failed⟩⟩ := exec_cases executed
  · have grows : store.clock ≤ choice.clock command := Nat.le_trans later choice.now_le_clock
    cases updates : command.update choice with
    | none =>
      have kept : Sound (effect choice { store with clock := choice.clock command } command) := by
        intro id row found
        rw [effect_clock]
        rcases ranges_of_no_update updates found with old | ⟨tenantId, parsed, -, -, rfl⟩
        · exact (sound id row old).mono grows
        · exact (RangeRow.create_sound tenantId parsed).mono choice.now_le_clock
      have keeps : Keeps command choice store := by
        intro _ update member
        rw [updates] at member
        contradiction
      exact ⟨iff_of_true (fun id row found => (kept id row found).covered) keeps, fun _ => kept⟩
    | some update =>
      have remote : command.remote := by
        cases command <;> first | rfl | contradiction
      have untouched {id : String} {row : RangeRow} (other : id ≠ update.1)
          (found : (store.ranges.modify update.1 update.2).get? id = some row) : store.ranges.get? id = some row := by
        rw [OrderedMap.get?_modify, if_neg other] at found
        exact found
      have touched {row : RangeRow} (found : store.ranges.get? update.1 = some row) :
          (store.ranges.modify update.1 update.2).get? update.1 = some (update.2 row) := by
        rw [OrderedMap.get?_modify, if_pos rfl, found, Option.map_some]
      have kept (keeps : Keeps command choice store) :
          Sound (effect choice { store with clock := choice.clock command } command) := by
        intro id row found
        rw [effect_clock]
        rw [effect_ranges_of_update updates] at found
        by_cases same : id = update.1
        · subst same
          rw [OrderedMap.get?_modify, if_pos rfl] at found
          obtain ⟨old, member, rfl⟩ := Option.map_eq_some_iff.mp found
          exact ((sound _ old member).update_keeps updates later).2 (keeps (delivered remote) update updates old member)
        · exact (sound id row (untouched same found)).mono grows
      refine ⟨⟨fun covered => ?_, fun keeps id row found => (kept keeps id row found).covered⟩, kept⟩
      intro _ update' updates' row found
      obtain rfl := Option.some.inj (updates.symm.trans updates')
      refine ((sound _ row found).update_keeps updates later).1 ?_
      have after := covered update.1 (update.2 row)
      rw [effect_clock, effect_ranges_of_update updates] at after
      exact after (touched found)
  · have kept : Sound { store with clock := choice.clock command } := fun id row found =>
      (sound id row found).mono (Nat.le_trans later choice.now_le_clock)
    have keeps : Keeps command choice store := by
      intro delivered update updates
      rcases failed with refused | refused
      · exact absurd refused delivered
      · cases command <;> first | exact refused.elim | contradiction
    exact ⟨iff_of_true (fun id row found => (kept id row found).covered) keeps, fun _ => kept⟩

end

theorem initial_sound : Sound initial.store := by
  intro id row found
  have absent : initial.store.ranges.get? id = none := OrderedMap.get?_empty id
  rw [absent] at found
  contradiction

/-- Every overdue range is selected in every state of a run exactly when all of its statements meet the
condition. -/
theorem overdue_selected_iff {events : List Event} {world : World} (run : host.machine.Run Free initial events world) :
    (∀ first rest mid, events = first ++ rest → host.machine.Run Free initial first mid → Covered mid.store) ↔
      host.machine.Run (Host.Acting Keeps) initial events world := by
  refine run.always_iff (Host.Acting Keeps) (fun world => Sound world.store) (fun world => Covered world.store) ?_ ?_
    initial_sound
  · exact fun world sound id row found => (sound id row found).covered
  · intro world event world' sound stepped
    cases event with
    | start operation =>
      rw [Host.step?_start, Option.some.injEq] at stepped
      subst stepped
      exact ⟨iff_of_true (fun id row found => (sound id row found).covered) trivial, fun _ => sound⟩
    | act position choice =>
      obtain ⟨command, next, store, reply, atPosition, executed, rfl⟩ := Host.step?_act_iff.mp stepped
      obtain ⟨exact, keeps⟩ := exec_keeps sound executed
      exact ⟨exact.trans (Host.acting_iff atPosition).symm, fun met => keeps ((Host.acting_iff atPosition).mp met)⟩

namespace Sample

/-- An hour later the range is overdue, and neither query selects it. -/
theorem finished_run : ∃ world row, host.machine.Run Free initial finished world ∧
    world.store.ranges.get? "range" = some row ∧ world.store.clock ≤ 3600000 ∧ row.Overdue 3600000 ∧
      ¬ row.Selected 3600000 := by
  have evaluated : (host.machine.replay? initial finished).any (fun world =>
      (world.store.ranges.get? "range").any fun row => world.store.clock ≤ 3600000 ∧ row.Overdue 3600000 ∧
        ¬ row.Selected 3600000) = true := by
    decide +kernel
  obtain ⟨world, replayed, checked⟩ := (Option.any_eq_true _ _).mp evaluated
  obtain ⟨row, found, checked⟩ := (Option.any_eq_true _ _).mp checked
  exact ⟨world, row, Run.free_iff_replay.mpr replayed, found, of_decide_eq_true checked⟩

end Sample

/-- The chain breaks before its first tick: the range is overdue and selected. Finished, it is not. -/
theorem overdue_selected_iff_finished :
    (∃ world row, host.machine.Run (Host.Acting Keeps) initial Sample.created world ∧
      world.store.ranges.get? "range" = some row ∧ row.Overdue 3600000 ∧ row.Selected 3600000) ∧
    ∃ world, host.machine.Run Free initial Sample.finished world ∧
      ¬ host.machine.Run (Host.Acting Keeps) initial Sample.finished world := by
  constructor
  · have evaluated : (host.machine.checked? (fun world event => decide (Host.Acting Keeps world event)) initial
        Sample.created).any (fun world => (world.store.ranges.get? "range").any fun row =>
          world.store.clock ≤ 3600000 ∧ row.Overdue 3600000) = true := by
      decide +kernel
    obtain ⟨world, replayed, checked⟩ := (Option.any_eq_true _ _).mp evaluated
    obtain ⟨row, found, checked⟩ := (Option.any_eq_true _ _).mp checked
    obtain ⟨later, overdue⟩ := of_decide_eq_true checked
    have kept := Run.of_checked (fun _ _ => of_decide_eq_true) replayed
    have run := kept.mono fun _ _ _ => trivial
    have covered := (overdue_selected_iff run).mpr kept Sample.created [] world (List.append_nil _).symm run
    exact ⟨world, row, kept, found, overdue, covered "range" row found 3600000 later overdue⟩
  · obtain ⟨world, row, run, found, later, overdue, unselected⟩ := Sample.finished_run
    refine ⟨world, run, fun kept => unselected ?_⟩
    have covered := (overdue_selected_iff run).mpr kept Sample.finished [] world (List.append_nil _).symm run
    exact covered "range" row found 3600000 later overdue

/-- A live range finishes and is never selected again. -/
theorem finished_live_range_dropped : ∃ world, host.machine.Run Free initial Sample.finished world ∧
    ¬ Covered world.store := by
  obtain ⟨world, row, run, found, later, overdue, unselected⟩ := Sample.finished_run
  exact ⟨world, run, fun covered => unselected (covered "range" row found 3600000 later overdue)⟩

end OmniControlPlane.DnsCenter
