import OmniControlPlane.DnsCenter.Scan

/-! # One row for each address

A tick writes a wave and its cursor in two statements, and a tick that reads the cursor 0 deletes the
stored results first. Nothing stops two ticks of one range from running side by side, a tick from
starting after the round has finished, a tick from dying between its two statements, or the purge from
deleting the first waves of a round that was resumed a day later; each of them leaves a finished range
with addresses that have two rows or none.

What a task may do next is a protocol: it holds nothing, the card of a new range, ranges whose tick it
may start, ranges of a pass of the cron, or a tick with its cursor.
-/

namespace OmniControlPlane.DnsCenter

open Lib Machine Task Portal

/-! ## What a finished round must hold -/

/-- The addresses of a stored range. -/
def RangeRow.ips (row : RangeRow) : List String := ((parseCidr row.cidr).map ParsedRange.ips).getD []

/-- The addresses that have a result, one for each row. -/
def Store.stored (store : Store) (rangeId : String) : List String := (store.of rangeId).map (·.ip)

/-- Every address of the range has exactly one row, and no other address has any. -/
def ScannedOnce (store : Store) (rangeId : String) (row : RangeRow) : Prop :=
  ∀ ip, (store.stored rangeId).count ip = if ip ∈ row.ips then 1 else 0

/-- Live ranges that have finished are scanned once, until they are replaced or their results expire. -/
def FinishedOnce (store : Store) : Prop :=
  ∀ rangeId row, store.ranges.get? rangeId = some row → row.live_message_id.isSome → row.finished_at.isSome →
    rangeId ∉ store.withdrawn → ScannedOnce store rangeId row

/-! ## The condition on a step -/

/-- The range on which a tick is between two of its statements; the chain is armed right after the last. -/
def Command.scans : Command → Option String
  | .clearResults rangeId | .countResults rangeId | .storeWave rangeId _ | .advanceCursor rangeId _
  | .finishRound rangeId | .waitUntil (.chainNextTick rangeId) => some rangeId
  | _ => none

/-- The new range whose card is not bound yet. -/
def Command.binds : Command → Option String
  | .sendCard rangeId | .bindCard rangeId _ => some rangeId
  | _ => none

/-- A tick of a live range begins only while the round is unfinished and no other tick of the range is
in progress. No statement fails between a wave and its cursor, except after the first wave. The cron
takes no range whose card is on its way, and the results of an unfinished round have not expired when
it purges, unless the next tick starts the round again. -/
def Undisturbed (world : World) : Event → Prop
  | .start _ => True
  | .act position choice => ∀ task ∈ world.tasks[position]?, ∀ command ∈ task.awaits, match command with
    | .selectRange rangeId => choice.delivery = .answered → ∀ row ∈ world.store.ranges.get? rangeId,
        row.live_message_id.isSome → row.finished_at = none ∧
          ∀ other ∈ world.tasks, other.awaits.bind Command.scans ≠ some rangeId
    | .storeWave rangeId _ => choice.delivery = .lost → ∀ row ∈ world.store.ranges.get? rangeId, row.cursor = 0
    | .advanceCursor rangeId _ => choice.delivery = .refused → ∀ row ∈ world.store.ranges.get? rangeId, row.cursor = 0
    | .selectDue => ∀ range ∈ world.store.oldest (·.due choice.now) DNS_SCAN_MAX_RANGES_PER_TICK,
        ∀ other ∈ world.tasks, other.awaits.bind Command.binds ≠ some range.1
    | .purgeResults => choice.delivery ≠ .refused → ∀ result ∈ world.store.results, result.expired choice.now →
        ∀ row ∈ world.store.ranges.get? result.range_id, row.live_message_id.isSome → row.finished_at = none →
          row.cursor = 0 ∧ ∀ other ∈ world.tasks, other.awaits.bind Command.scans ≠ some result.range_id
    | _ => True

instance (world : World) (event : Event) : Decidable (Undisturbed world event) :=
  match event with
  | .start _ => .isTrue trivial
  | .act _ _ => @Option.decidableForallMem _ _ (fun _ => @Option.decidableForallMem _ _ (fun command =>
      match command with
      | .selectRange _ | .storeWave _ _ | .advanceCursor _ _ => @instDecidableForall _ _ _ (Option.decidableForallMem _)
      | .selectDue => List.decidableBAll _ _
      | .purgeResults => @instDecidableForall _ _ _ (@List.decidableBAll _ _ (fun _ =>
          @instDecidableForall _ _ _ (Option.decidableForallMem _)) _)
      | .listRanges _ | .removeResults _ | .removeRange _ | .insertRange .. | .sendCard _ | .bindCard .. |
        .scanTickFetch _ | .clearResults _ | .countResults _ | .finishRound _ | .selectResults _ | .insertResult .. |
        .moveCursor .. | .completePass _ | .selectStalled .. | .waitUntil _ => .isTrue trivial) _) _

/-! ## The protocol -/

/-- Where a tick stands: the cursor is read, the results before it are the stored ones, or one more wave
is stored. -/
inductive Stage where
  | read | ready | stored
deriving DecidableEq, Repr

inductive Holding where
  | nothing
  | card (rangeId : String)
  | armed (rangeIds : List String)
  | pass (rangeIds : List String)
  | tick (rangeId : String) (ips : List String) (cursor : ℕ) (stage : Stage)
deriving DecidableEq, Repr

def Job.rangeId : Job → String
  | .chainNextTick rangeId | .advanceLiveScan rangeId => rangeId

/-- The addresses that a tick probes next. -/
def nextWave (ips : List String) (cursor : ℕ) : List String := (ips.drop cursor).take 16

namespace Holding

def allowed : Holding → Command → Prop
  | .nothing, .listRanges _ | .nothing, .removeResults _ | .nothing, .removeRange _ | .nothing, .insertRange ..
  | .nothing, .selectResults _ | .nothing, .selectDue | .nothing, .selectStalled .. => True
  | .card rangeId, .sendCard called | .card rangeId, .bindCard called _ => called = rangeId
  | .armed rangeIds, .scanTickFetch called | .armed rangeIds, .selectRange called => called ∈ rangeIds
  | .armed rangeIds, .waitUntil job => job.rangeId ∈ rangeIds
  | .pass rangeIds, .insertResult called _ | .pass rangeIds, .moveCursor called _
  | .pass rangeIds, .completePass called => called ∈ rangeIds
  | .pass _, .purgeResults => True
  | .tick rangeId _ cursor .read, .clearResults called => called = rangeId ∧ cursor = 0
  | .tick rangeId _ cursor .read, .countResults called => called = rangeId ∧ cursor ≠ 0
  | .tick rangeId _ _ .ready, .countResults called => called = rangeId
  | .tick rangeId ips cursor .ready, .storeWave called wave => called = rangeId ∧ wave = nextWave ips cursor
  | .tick rangeId ips cursor .ready, .finishRound called => called = rangeId ∧ ips.length ≤ cursor
  | .tick rangeId _ _ .ready, .waitUntil job => job = .chainNextTick rangeId
  | .tick rangeId ips cursor .stored, .advanceCursor called next =>
    called = rangeId ∧ next = cursor + (nextWave ips cursor).length
  | _, _ => False

def next : Holding → (command : Command) → Except Thrown (Answer command) → Holding
  | .nothing, .insertRange .., .ok rangeId => .card rangeId
  | .nothing, .selectDue, .ok due => .pass (due.map (·.1))
  | .nothing, .selectStalled .., .ok rangeIds => .armed rangeIds
  | .card rangeId, .sendCard _, .ok _ => .card rangeId
  | .card rangeId, .bindCard .., .ok _ => .armed [rangeId]
  | .armed _, .selectRange rangeId, .ok (some row) =>
    match parseCidr row.cidr with
    | some parsed => .tick rangeId parsed.ips row.cursor .read
    | none => .nothing
  | .armed rangeIds, .scanTickFetch _, _ | .armed rangeIds, .waitUntil _, _ => .armed rangeIds
  | .pass rangeIds, _, _ => .pass rangeIds
  | .tick rangeId ips cursor .read, _, .ok _ => .tick rangeId ips cursor .ready
  | .tick rangeId ips cursor .ready, .countResults _, .ok _ => .tick rangeId ips cursor .ready
  | .tick rangeId ips cursor .ready, .storeWave .., .ok _ => .tick rangeId ips cursor .stored
  | .tick rangeId ips _ .stored, .advanceCursor _ cursor, .ok _ => .tick rangeId ips cursor .ready
  | _, _, _ => .nothing

/-- The range of a tick in progress. -/
def ticks : Holding → Option String
  | .tick rangeId _ _ _ => some rangeId
  | _ => none

/-- A task that has ended holds neither a tick nor a card. -/
def ended (holding : Holding) : Prop :=
  match holding with
  | .tick .. | .card _ => False
  | _ => True

end Holding

def scanning : Protocol Thrown Answer Holding := ⟨Holding.allowed, Holding.next⟩

abbrev Ends (α : Type) : Holding → Except Thrown α → Prop := fun holding _ => holding.ended

/-! ## The programs follow it -/

section

variable {rangeId : String} {rangeIds : List String}

theorem replaceScanRange_follows (tenantId cidr : String) :
    (replaceScanRange tenantId cidr).Follows scanning (fun
      | holding, .ok (_, rangeId) => holding = .card rangeId
      | holding, .error _ => holding = .nothing) .nothing := by
  rw [replaceScanRange]
  split
  · next parsed _ =>
    refine .after trivial (fun old => ?_) fun _ => rfl
    have removed (ids : List String) : (ids.forM fun id => do
        await (.removeResults id)
        await (.removeRange id) : Async PUnit).Follows scanning (fun holding _ => holding = .nothing) .nothing := by
      refine .forM (fun id _ => ?_) rfl
      refine .after trivial (fun _ => (follows_perform _).mpr ⟨trivial, ?_⟩) fun _ => rfl
      rintro (_ | _) <;> rfl
    refine (follows_bind _ _).mpr ((removed old).mono ?_)
    rintro _ (_ | _) rfl
    · rfl
    · exact .after trivial (fun _ => rfl) fun _ => rfl
  · rfl

theorem scanWaves_follows {ips : List String} {budgetMs started fuel cursor now : ℕ} {progress : ScanProgress} :
    (scanWaves rangeId ips budgetMs started fuel cursor now progress).Follows scanning (fun
      | holding, .ok (cursor, _) => holding = .tick rangeId ips cursor .ready
      | holding, .error _ => holding = .nothing) (.tick rangeId ips cursor .ready) := by
  induction fuel generalizing cursor now progress with
  | zero => rfl
  | succ fuel ih =>
    rw [scanWaves]
    split
    · refine .after ⟨rfl, rfl⟩ (fun results => ?_) fun _ => rfl
      exact .after ⟨rfl, rfl⟩ (fun now => ih) fun _ => rfl
    · rfl

/-- How a tick ends: with the round done, or ready for the next wave. -/
def TickEnds (rangeId : String) : Holding → Except Thrown (Bool × ScanProgress) → Prop
  | holding, .ok (finished, _) => if finished then holding = .nothing else ∃ ips cursor, holding = .tick rangeId ips cursor .ready
  | holding, .error _ => holding = .nothing

theorem scanFrom_follows {ips : List String} {budgetMs cursor : ℕ} {stage : Stage}
    (counts : scanning.allowed (.tick rangeId ips cursor stage) (.countResults rangeId)) :
    (scanFrom rangeId ips budgetMs cursor).Follows scanning (TickEnds rangeId) (.tick rangeId ips cursor stage) := by
  refine .after counts (fun counted => ?_) fun _ => by cases stage <;> rfl
  have ready : scanning.next (.tick rangeId ips cursor stage) (.countResults rangeId) (.ok counted) =
      .tick rangeId ips cursor .ready := by
    cases stage with
    | read | ready => rfl
    | stored => exact counts.elim
  rw [ready]
  refine (follows_bind _ _).mpr (scanWaves_follows.mono ?_)
  rintro _ (error | ⟨after, progress⟩) rfl
  · rfl
  · change Follows scanning (TickEnds rangeId) _ (if ips.length ≤ after then _ else _)
    split
    · next last => exact .after ⟨rfl, last⟩ (fun _ => rfl) fun _ => rfl
    · exact ⟨ips, after, rfl⟩

theorem runScanTick_follows (budgetMs : ℕ) (armed : rangeId ∈ rangeIds) :
    (runScanTick rangeId budgetMs).Follows scanning (TickEnds rangeId) (.armed rangeIds) := by
  refine .after armed (fun row => ?_) fun _ => rfl
  cases row with
  | none => rfl
  | some row =>
    cases parsed : parseCidr row.cidr with
    | none =>
      simp only [scanning, Holding.next, parsed]
      rfl
    | some range =>
      have selected : scanning.next (.armed rangeIds) (.selectRange rangeId) (.ok (some row)) =
          .tick rangeId range.ips row.cursor .read := by
        simp only [scanning, Holding.next, parsed]
      simp only [selected, parsed]
      split
      · next first => exact .after ⟨rfl, first⟩ (fun _ => scanFrom_follows rfl) fun _ => rfl
      · next later => exact scanFrom_follows ⟨rfl, later⟩

theorem advanceLiveScan_follows (armed : rangeId ∈ rangeIds) :
    (advanceLiveScan rangeId).Follows scanning (Ends Unit) (.armed rangeIds) := by
  refine (follows_tryCatch _ _).mpr ((follows_bind _ _).mpr ((runScanTick_follows 8000 armed).mono ?_))
  rintro holding (error | ⟨_ | _, progress⟩) outcome
  · rw [show holding = .nothing from outcome]
    trivial
  · obtain ⟨ips, cursor, rfl⟩ := outcome
    refine (follows_perform _).mpr ⟨rfl, ?_⟩
    rintro (_ | _) <;> trivial
  · rw [show holding = .nothing from outcome]
    refine (follows_bind _ _).mpr ((follows_bind _ _).mpr ((follows_perform _).mpr ⟨trivial, ?_⟩))
    rintro (_ | _) <;> trivial

theorem chainNextTick_follows (armed : rangeId ∈ rangeIds) :
    (chainNextTick rangeId).Follows scanning (Ends Unit) (.armed rangeIds) := by
  refine .after armed (fun ok => ?_) fun _ => trivial
  cases ok with
  | false => exact advanceLiveScan_follows armed
  | true => trivial

theorem dnsrange_follows (tenantId text : String) :
    (dnsrange tenantId text).Follows scanning (Ends Unit) .nothing := by
  refine (follows_tryCatch _ _).mpr ((follows_bind _ _).mpr ((replaceScanRange_follows tenantId text).mono ?_))
  rintro holding (error | ⟨parsed, rangeId⟩) outcome
  · rw [show holding = .nothing from outcome]
    trivial
  · rw [show holding = .card rangeId from outcome]
    refine .after rfl (fun message => .after rfl (fun _ => ?_) fun _ => trivial) fun _ => trivial
    refine (follows_perform _).mpr ⟨List.mem_singleton_self rangeId, ?_⟩
    rintro (_ | _) <;> trivial

theorem scanDueRange_follows {range : String × RangeRow} (inHand : range.1 ∈ rangeIds) :
    (scanDueRange range).Follows scanning (fun holding _ => holding = .pass rangeIds) (.pass rangeIds) := by
  have called {command : Command} (called : scanning.allowed (.pass rangeIds) command) :
      (await command).Follows scanning (fun holding _ => holding = .pass rangeIds) (.pass rangeIds) :=
    (follows_perform command).mpr ⟨called, fun _ => rfl⟩
  rw [scanDueRange]
  split
  · rfl
  · next parsed _ =>
    have stored (ips : List String) : (ips.forM fun ip => await (.insertResult range.1 ip)).Follows scanning
        (fun holding _ => holding = .pass rangeIds) (.pass rangeIds) := by
      have inserted (ip : String) : scanning.allowed (.pass rangeIds) (.insertResult range.1 ip) := inHand
      refine .forM (fun ip _ => (called (inserted ip)).mono ?_) rfl
      rintro holding (_ | _) outcome <;> exact outcome
    refine (follows_bind _ _).mpr ((stored _).mono ?_)
    rintro _ (_ | _) rfl
    · rfl
    · dsimp only
      split
      · exact called inHand
      · exact called inHand

theorem dnsScan_follows : dnsScan.Follows scanning (Ends Unit) .nothing := by
  refine (follows_bind _ _).mpr (.after trivial (fun due => ?_) fun _ => trivial)
  have purged : purgeOldDnsScans.Follows scanning (Ends Unit) (.pass (due.map (·.1))) :=
    (follows_perform _).mpr ⟨trivial, fun _ => trivial⟩
  change Follows scanning _ (.pass (due.map (·.1))) _
  refine .forM (fun range member => (scanDueRange_follows (List.mem_map_of_mem member)).mono ?_) purged
  rintro _ (_ | _) rfl
  · trivial
  · rfl

theorem liveScans_follows : liveScans.Follows scanning (Ends Unit) .nothing := by
  refine .after trivial (fun stalled => ?_) fun _ => trivial
  change Follows scanning (Ends Unit) (.armed stalled) _
  refine .forM (fun rangeId member => (follows_perform _).mpr ⟨member, ?_⟩) trivial
  rintro (_ | _)
  · trivial
  · rfl

end

/-- What a spawned task holds. -/
def spawnedHoldings (command : Command) (choice : Choice) : List Holding :=
  match command with
  | .waitUntil job => [.armed [job.rangeId]]
  | .scanTickFetch rangeId => if choice.delivery = .refused then [] else [.armed [rangeId]]
  | _ => []

theorem host_plays : host.Plays scanning (Ends Unit) (fun _ => .nothing) spawnedHoldings where
  program operation := by
    cases operation with
    | dnsrange tenantId text => exact dnsrange_follows tenantId text
    | dnsScan => exact dnsScan_follows
    | liveScans => exact liveScans_follows
  spawns command choice := by
    have armed (rangeId : String) : rangeId ∈ [rangeId] := List.mem_singleton_self rangeId
    cases command with
    | waitUntil job =>
      cases job with
      | chainNextTick rangeId => exact .cons (chainNextTick_follows (armed rangeId)) .nil
      | advanceLiveScan rangeId => exact .cons (advanceLiveScan_follows (armed rangeId)) .nil
    | scanTickFetch rangeId =>
      simp only [spawnedHoldings, host, spawns]
      split
      · exact .nil
      · exact .cons (advanceLiveScan_follows (armed rangeId)) .nil
    | _ => exact .nil

/-! ## The results of one range -/

/-- While no tick is in progress, the results are complete, or those before the cursor, or the next tick
deletes them. -/
def Resting (row : RangeRow) (stored : List String) : Prop :=
  match row.finished_at with
  | some _ => stored = row.ips
  | none => row.cursor = 0 ∨ stored = row.ips.take row.cursor

/-- What a tick knows of its range. -/
structure Agrees (row : RangeRow) (stored ips : List String) (cursor : ℕ) (stage : Stage) : Prop where
  addresses : ips = row.ips
  position : row.cursor = cursor
  unfinished : row.finished_at = none
  results : match stage with
    | .read => cursor = 0 ∨ stored = ips.take cursor
    | .ready => stored = ips.take cursor
    | .stored => stored = ips.take (cursor + (nextWave ips cursor).length)

/-- What the task in charge of a range vouches for. -/
def Holding.Vouches (row : RangeRow) (stored : List String) : Holding → Prop
  | .tick _ ips cursor stage => Agrees row stored ips cursor stage
  | _ => Resting row stored

section

variable {row : RangeRow} {stored ips : List String} {cursor : ℕ} {stage : Stage}

theorem Agrees.rests (agrees : Agrees row stored ips cursor stage) (between : stage = .stored → row.cursor = 0) :
    Resting row stored := by
  rw [Resting, agrees.unfinished]
  obtain ⟨rfl, rfl, -, results⟩ := agrees
  cases stage with
  | read => exact results
  | ready => exact .inr results
  | stored => exact .inl (between rfl)

theorem take_nextWave (ips : List String) (cursor : ℕ) :
    ips.take (cursor + (nextWave ips cursor).length) = ips.take cursor ++ nextWave ips cursor := by
  rw [List.take_add, nextWave, List.length_take, ← List.take_eq_take_min]

end

/-! ## One call and the results -/

section

variable {command : Command} {choice : Choice} {store store' : Store} {rangeId : String}

/-- The range whose row or results a command changes. -/
def Command.target (choice : Choice) : Command → Option String
  | .removeResults rangeId | .removeRange rangeId | .bindCard rangeId _ | .clearResults rangeId
  | .storeWave rangeId _ | .advanceCursor rangeId _ | .finishRound rangeId | .insertResult rangeId _
  | .moveCursor rangeId _ | .completePass rangeId => some rangeId
  | .insertRange .. => some choice.rangeId
  | _ => none

theorem stored_filter_other {other : String} (different : other ≠ rangeId) (results : List ScanResult) :
    ((results.filter (·.range_id ≠ other)).filter (·.range_id = rangeId)).map (·.ip) =
      (results.filter (·.range_id = rangeId)).map (·.ip) := by
  rw [List.filter_filter]
  congr 2
  funext result
  by_cases same : result.range_id = rangeId
  · simp [same, Ne.symm different]
  · simp [same]

theorem stored_append (results : List ScanResult) (other : String) (wave : List String)
    (probe : String → ProbeResult) (now : ℕ) :
    ((results ++ wave.map fun ip => ScanResult.mk other ip (probe ip) now).filter (·.range_id = rangeId)).map (·.ip) =
      (results.filter (·.range_id = rangeId)).map (·.ip) ++ if other = rangeId then wave else [] := by
  rw [List.filter_append, List.map_append, List.filter_map, List.map_map]
  split
  · next same => simp [Function.comp_def, same]
  · next different => simp [Function.comp_def, different]

/-- No row of the range has expired. -/
def Store.Fresh (store : Store) (rangeId : String) (now : ℕ) : Prop :=
  ∀ result ∈ store.results, result.range_id = rangeId → result.expired now = false

theorem exists_expired {now : ℕ} (stale : ¬ store.Fresh rangeId now) :
    ∃ result ∈ store.results, result.range_id = rangeId ∧ result.expired now = true := by
  simpa [Store.Fresh] using stale

theorem stored_purge {now : ℕ} (fresh : store.Fresh rangeId now) :
    ((store.results.filter (!·.expired now)).filter (·.range_id = rangeId)).map (·.ip) = store.stored rangeId := by
  rw [Store.stored, Store.of, List.filter_filter]
  congr 1
  refine List.filter_congr fun result member => ?_
  by_cases same : result.range_id = rangeId
  · rw [fresh result member same, Bool.not_false, Bool.and_true]
  · rw [decide_eq_false same, Bool.false_and]

/-- Every other range keeps its row and its results, as long as they do not expire. -/
theorem effect_untouched (other : command.target choice ≠ some rangeId)
    (fresh : command = .purgeResults → store.Fresh rangeId choice.now) :
    (effect choice store command).ranges.get? rangeId = store.ranges.get? rangeId ∧
      (effect choice store command).stored rangeId = store.stored rangeId := by
  cases command with
  | removeResults target | clearResults target =>
    have different : target ≠ rangeId := fun same => other (congrArg some same)
    exact ⟨rfl, stored_filter_other different store.results⟩
  | removeRange target =>
    have different : target ≠ rangeId := fun same => other (congrArg some same)
    refine ⟨?_, stored_filter_other different store.results⟩
    exact (store.ranges.get?_filter (fun id => decide (id ≠ target)) rangeId).trans
      (if_pos (decide_eq_true (Ne.symm different)))
  | insertRange tenantId parsed =>
    have different : choice.rangeId ≠ rangeId := fun same => other (congrArg some same)
    refine ⟨?_, rfl⟩
    rw [effect, OrderedMap.get?_alter, if_neg (Ne.symm different)]
  | bindCard target _ | advanceCursor target _ | finishRound target | moveCursor target _ | completePass target =>
    have different : target ≠ rangeId := fun same => other (congrArg some same)
    refine ⟨?_, rfl⟩
    rw [effect, OrderedMap.get?_modify, if_neg (Ne.symm different)]
  | storeWave target wave =>
    have different : target ≠ rangeId := fun same => other (congrArg some same)
    refine ⟨rfl, ?_⟩
    exact (stored_append store.results target wave choice.probe choice.now).trans
      (by rw [if_neg different, List.append_nil]; rfl)
  | insertResult target ip =>
    have different : target ≠ rangeId := fun same => other (congrArg some same)
    refine ⟨rfl, ?_⟩
    exact (stored_append store.results target [ip] choice.probe choice.now).trans
      (by rw [if_neg different, List.append_nil]; rfl)
  | purgeResults => exact ⟨rfl, stored_purge (fresh rfl)⟩
  | _ => exact ⟨rfl, rfl⟩

theorem stored_clear (results : List ScanResult) :
    ((results.filter (·.range_id ≠ rangeId)).filter (·.range_id = rangeId)).map (·.ip) = [] := by
  rw [List.filter_filter, List.map_eq_nil_iff, List.filter_eq_nil_iff]
  intro result _
  simp

/-- A call about another range, or one without effect, leaves the row and the results. -/
theorem exec_untouched {reply : Except Thrown (Answer command)}
    (executed : exec command choice store = some (store', reply)) (other : command.target choice ≠ some rangeId)
    (fresh : command = .purgeResults → store.Fresh rangeId choice.now) :
    store'.ranges.get? rangeId = store.ranges.get? rangeId ∧ store'.stored rangeId = store.stored rangeId := by
  obtain ⟨-, -, ⟨rfl, -⟩ | ⟨rfl, -⟩⟩ := exec_cases executed
  · exact effect_untouched other fresh
  · exact ⟨rfl, rfl⟩

/-- The calls of a tick that may fail only while the cursor is 0. -/
def Recoverable (row : RangeRow) (choice : Choice) : Command → Prop
  | .storeWave .. => choice.delivery = .lost → row.cursor = 0
  | .advanceCursor .. => choice.delivery = .refused → row.cursor = 0
  | _ => True

/-- A tick alone keeps the results in step with its cursor, from its `DELETE` to its end. -/
theorem tick_keeps {row row' : RangeRow} {ips : List String} {cursor : ℕ} {stage : Stage}
    {reply : Except Thrown (Answer command)} (found : store.ranges.get? rangeId = some row)
    (agrees : Agrees row (store.stored rangeId) ips cursor stage)
    (called : scanning.allowed (.tick rangeId ips cursor stage) command) (recoverable : Recoverable row choice command)
    (executed : exec command choice store = some (store', reply))
    (found' : store'.ranges.get? rangeId = some row') :
    (scanning.next (.tick rangeId ips cursor stage) command reply).Vouches row' (store'.stored rangeId) ∧
      ((scanning.next (.tick rangeId ips cursor stage) command reply).ticks = some rangeId ∨
        (scanning.next (.tick rangeId ips cursor stage) command reply) = .nothing) := by
  have rests (between : stage ≠ .stored) : Resting row (store.stored rangeId) :=
    agrees.rests fun same => absurd same between
  have failed (between : stage = .stored → row.cursor = 0) :
      store' = { store with clock := choice.clock command } → Resting row' (store'.stored rangeId) := by
    rintro rfl
    obtain rfl : row = row' := Option.some.inj (found.symm.trans found')
    exact agrees.rests between
  have same (untouched : command.target choice = none) (tick : command ≠ .purgeResults) :
      row = row' ∧ store'.stored rangeId = store.stored rangeId := by
    have other : command.target choice ≠ some rangeId := by
      rw [untouched]
      nofun
    obtain ⟨rows, results⟩ := exec_untouched executed other fun purges => absurd purges tick
    exact ⟨Option.some.inj (found.symm.trans (rows ▸ found')), results⟩
  obtain ⟨-, -, outcome⟩ := exec_cases executed
  obtain ⟨rfl, rfl, unfinished, results⟩ := agrees
  cases stage with
  | read =>
    cases command with
    | clearResults target =>
      obtain ⟨rfl, first⟩ := called
      rcases outcome with ⟨rfl, -, -, rfl | ⟨-, error, rfl⟩⟩ | ⟨same, ⟨error, rfl⟩, -⟩
      · obtain rfl : row = row' := Option.some.inj (found.symm.trans found')
        refine ⟨⟨rfl, rfl, unfinished, ?_⟩, .inl rfl⟩
        rw [first]
        exact stored_clear store.results
      · obtain rfl : row = row' := Option.some.inj (found.symm.trans found')
        refine ⟨?_, .inr rfl⟩
        change Resting row _
        rw [Resting, unfinished]
        exact .inl first
      · exact ⟨failed nofun same, .inr rfl⟩
    | countResults target =>
      obtain ⟨rfl, later⟩ := called
      obtain ⟨rfl, kept⟩ := same rfl (by simp)
      rw [kept]
      cases reply with
      | error error => exact ⟨rests nofun, .inr rfl⟩
      | ok counted => exact ⟨⟨rfl, rfl, unfinished, results.resolve_left later⟩, .inl rfl⟩
    | _ => exact called.elim
  | ready =>
    cases command with
    | countResults target =>
      obtain ⟨rfl, kept⟩ := same rfl (by simp)
      rw [kept]
      cases reply with
      | error error => exact ⟨rests nofun, .inr rfl⟩
      | ok counted => exact ⟨⟨rfl, rfl, unfinished, results⟩, .inl rfl⟩
    | storeWave target wave =>
      obtain ⟨rfl, rfl⟩ := called
      rcases outcome with ⟨rfl, -, -, rfl | ⟨lost, error, rfl⟩⟩ | ⟨same, ⟨error, rfl⟩, -⟩
      · obtain rfl : row = row' := Option.some.inj (found.symm.trans found')
        refine ⟨⟨rfl, rfl, unfinished, ?_⟩, .inl rfl⟩
        rw [take_nextWave, ← results]
        exact (stored_append store.results target _ choice.probe choice.now).trans (by rw [if_pos rfl]; rfl)
      · obtain rfl : row = row' := Option.some.inj (found.symm.trans found')
        refine ⟨?_, .inr rfl⟩
        change Resting row _
        rw [Resting, unfinished]
        exact .inl (recoverable lost)
      · exact ⟨failed nofun same, .inr rfl⟩
    | finishRound target =>
      obtain ⟨rfl, last⟩ := called
      have next (reply : Except Thrown Unit) :
          scanning.next (.tick target row.ips row.cursor .ready) (.finishRound target) reply = .nothing := by
        cases reply <;> rfl
      rw [next]
      refine ⟨?_, .inr rfl⟩
      rcases outcome with ⟨rfl, -⟩ | ⟨same, -⟩
      · rw [effect, OrderedMap.get?_modify, if_pos rfl, found, Option.map_some, Option.some.injEq] at found'
        subst found'
        exact results.trans (List.take_of_length_le last)
      · exact failed nofun same
    | waitUntil job =>
      obtain ⟨rfl, kept⟩ := same rfl (by simp)
      rw [kept]
      have next : scanning.next (.tick rangeId row.ips row.cursor .ready) (.waitUntil job) reply = .nothing := by
        cases reply <;> rfl
      rw [next]
      exact ⟨rests nofun, .inr rfl⟩
    | _ => exact called.elim
  | stored =>
    cases command with
    | advanceCursor target cursor =>
      obtain ⟨rfl, rfl⟩ := called
      rcases outcome with ⟨rfl, -, -, replied⟩ | ⟨same, ⟨error, rfl⟩, refused⟩
      · rw [effect, OrderedMap.get?_modify, if_pos rfl, found, Option.map_some, Option.some.injEq] at found'
        subst found'
        rcases replied with rfl | ⟨-, error, rfl⟩
        · exact ⟨⟨rfl, rfl, unfinished, results⟩, .inl rfl⟩
        · refine ⟨?_, .inr rfl⟩
          change Resting _ _
          rw [Resting]
          simp only [unfinished]
          exact .inr results
      · exact ⟨failed (fun _ => recoverable (refused.resolve_right id)) same, .inr rfl⟩
    | _ => exact called.elim

end

/-! ## Who is in charge of a range -/

/-- The ranges that a task may still touch. -/
def Holding.mentions : Holding → List String
  | .armed rangeIds | .pass rangeIds => rangeIds
  | .tick rangeId _ _ _ => [rangeId]
  | .nothing | .card _ => []

/-- One tick is in charge of the range, or none is and the results rest. -/
def Round (held : List Holding) (rangeId : String) (row : RangeRow) (stored : List String) : Prop :=
  (∃ (position : ℕ) (holding : Holding), held[position]? = some holding ∧ holding.ticks = some rangeId ∧
      holding.Vouches row stored ∧ ∀ (other : ℕ) (holding : Holding), held[other]? = some holding →
        holding.ticks = some rangeId → other = position) ∨
    (∀ holding ∈ held, holding.ticks ≠ some rangeId) ∧ Resting row stored

section

variable {held added : List Holding} {rangeId : String} {row : RangeRow} {stored : List String} {position : ℕ}
  {holding next : Holding}

/-- A task that is and stays off the range changes nobody's charge. -/
theorem Round.frame (round : Round held rangeId row stored) (atPosition : held[position]? = some holding)
    (off : holding.ticks ≠ some rangeId) (off' : next.ticks ≠ some rangeId) (idle : ∀ spawned ∈ added, spawned.ticks = none) :
    Round (held.set position next ++ added) rangeId row stored := by
  rcases round with ⟨owner, charged, atOwner, ticking, vouched, only⟩ | ⟨none, rests⟩
  · have different : owner ≠ position := by
      rintro rfl
      rw [Option.some.inj (atOwner.symm.trans atPosition)] at ticking
      exact off ticking
    refine .inl ⟨owner, charged, ?_, ticking, vouched, fun other found atOther tick => ?_⟩
    · have bound := (List.getElem?_eq_some_iff.mp atOwner).1
      rw [List.getElem?_append_left (by simpa using bound), List.getElem?_set_ne (Ne.symm different)]
      exact atOwner
    · rcases Host.getElem?_set_append atOther with ⟨-, rfl⟩ | ⟨-, old⟩ | ⟨-, new⟩
      · exact absurd tick off'
      · exact only other found old tick
      · rw [idle found new] at tick
        contradiction
  · refine .inr ⟨fun found member tick => ?_, rests⟩
    rcases Host.mem_set_append member with rfl | old | new
    · exact off' tick
    · exact none found old tick
    · rw [idle found new] at tick
      contradiction

theorem Round.vouched (round : Round held rangeId row stored) (atPosition : held[position]? = some holding)
    (ticking : holding.ticks = some rangeId) : holding.Vouches row stored := by
  rcases round with ⟨owner, charged, atOwner, -, vouched, only⟩ | ⟨free, -⟩
  · obtain rfl := only position holding atPosition ticking
    rwa [Option.some.inj (atPosition.symm.trans atOwner)]
  · exact absurd ticking (free holding (List.mem_of_getElem? atPosition))

theorem Round.rests (round : Round held rangeId row stored) (free : ∀ holding ∈ held, holding.ticks ≠ some rangeId) :
    Resting row stored := by
  rcases round with ⟨owner, charged, atOwner, ticking, -⟩ | ⟨-, rests⟩
  · exact absurd ticking (free charged (List.mem_of_getElem? atOwner))
  · exact rests

/-- The task in charge moves on, or hands the range back. -/
theorem Round.move {row' : RangeRow} {stored' : List String} (round : Round held rangeId row stored)
    (atPosition : held[position]? = some holding) (ticking : holding.ticks = some rangeId)
    (vouched : next.Vouches row' stored') (kept : next.ticks = some rangeId ∨ next = .nothing)
    (idle : ∀ spawned ∈ added, spawned.ticks = none) : Round (held.set position next ++ added) rangeId row' stored' := by
  have only (other : ℕ) (found : Holding) (atOther : held[other]? = some found) (tick : found.ticks = some rangeId) :
      other = position := by
    rcases round with ⟨owner, charged, atOwner, -, -, only⟩ | ⟨none, -⟩
    · exact (only other found atOther tick).trans (only position holding atPosition ticking).symm
    · exact absurd ticking (none holding (List.mem_of_getElem? atPosition))
  have only' (other : ℕ) (found : Holding) (atOther : (held.set position next ++ added)[other]? = some found)
      (tick : found.ticks = some rangeId) : other = position := by
    rcases Host.getElem?_set_append atOther with ⟨same, -⟩ | ⟨-, old⟩ | ⟨-, new⟩
    · exact same
    · exact only other found old tick
    · rw [idle found new] at tick
      contradiction
  have moved := Host.getElem?_set_append_self atPosition added next
  rcases kept with tick | rfl
  · exact .inl ⟨position, next, moved, tick, vouched, only'⟩
  · refine .inr ⟨fun found member tick => ?_, vouched⟩
    obtain ⟨other, atOther⟩ := List.mem_iff_getElem?.mp member
    obtain rfl := only' other found atOther tick
    obtain rfl := Option.some.inj (moved.symm.trans atOther)
    contradiction

/-- A task takes charge of a range that is at rest. -/
theorem Round.begin (free : ∀ holding ∈ held, holding.ticks ≠ some rangeId) (atPosition : held[position]? = some holding)
    (ticking : next.ticks = some rangeId) (vouched : next.Vouches row stored)
    (idle : ∀ spawned ∈ added, spawned.ticks = none) : Round (held.set position next ++ added) rangeId row stored := by
  refine .inl ⟨position, next, Host.getElem?_set_append_self atPosition added next, ticking, vouched, ?_⟩
  intro other found atOther tick
  rcases Host.getElem?_set_append atOther with ⟨same, -⟩ | ⟨-, old⟩ | ⟨-, new⟩
  · exact same
  · exact absurd tick (free found (List.mem_of_getElem? old))
  · rw [idle found new] at tick
    contradiction

end

/-! ## What the protocol lets a task do -/

section

variable {holding : Holding} {command : Command} {choice : Choice} {rangeId : String}
  {reply : Except Thrown (Answer command)}

theorem scans_of_ticks (called : scanning.allowed holding command) (ticking : holding.ticks = some rangeId) :
    command.scans = some rangeId := by
  cases holding with
  | tick id ips cursor stage =>
    obtain rfl := Option.some.inj ticking
    cases stage with
    | read =>
      cases command with
      | clearResults _ | countResults _ => exact congrArg some called.1
      | _ => exact called.elim
    | ready =>
      cases command with
      | countResults _ => exact congrArg some called
      | storeWave _ _ | finishRound _ => exact congrArg some called.1
      | waitUntil job =>
        obtain rfl : job = .chainNextTick id := called
        rfl
      | _ => exact called.elim
    | stored =>
      cases command with
      | advanceCursor _ _ => exact congrArg some called.1
      | _ => exact called.elim
  | _ => contradiction

theorem binds_of_card (called : scanning.allowed (.card rangeId) command) : command.binds = some rangeId := by
  cases command with
  | sendCard _ | bindCard _ _ => exact congrArg some called
  | _ => exact called.elim

/-- A row is updated by the task that has its card, which makes the range live, or by one that mentions
it. -/
theorem update_by {f : RangeRow → RangeRow} (called : scanning.allowed holding command)
    (updates : command.update choice = some (rangeId, f)) :
    (holding = .card rangeId ∧ ∃ message, command = .bindCard rangeId message) ∨
      rangeId ∈ holding.mentions ∧ ∀ row, (f row).live_message_id = row.live_message_id := by
  cases command with
  | bindCard target message =>
    obtain ⟨rfl, rfl⟩ := Prod.mk.inj (Option.some.inj updates)
    cases holding with
    | card id =>
      obtain rfl : target = id := called
      exact .inl ⟨rfl, message, rfl⟩
    | tick _ _ _ stage => cases stage <;> exact called.elim
    | _ => exact called.elim
  | advanceCursor target cursor =>
    obtain ⟨rfl, rfl⟩ := Prod.mk.inj (Option.some.inj updates)
    refine .inr ⟨?_, fun _ => rfl⟩
    cases holding with
    | tick id ips cursor stage =>
      have scans := scans_of_ticks called rfl
      exact List.mem_singleton.mpr (Option.some.inj scans)
    | _ => exact called.elim
  | finishRound target =>
    obtain ⟨rfl, rfl⟩ := Prod.mk.inj (Option.some.inj updates)
    refine .inr ⟨?_, fun _ => rfl⟩
    cases holding with
    | tick id ips cursor stage =>
      have scans := scans_of_ticks called rfl
      exact List.mem_singleton.mpr (Option.some.inj scans)
    | _ => exact called.elim
  | moveCursor target cursor | completePass target =>
    obtain ⟨rfl, rfl⟩ := Prod.mk.inj (Option.some.inj updates)
    refine .inr ⟨?_, fun _ => rfl⟩
    cases holding with
    | pass ids => exact called
    | tick _ _ _ stage => cases stage <;> exact called.elim
    | _ => exact called.elim
  | _ => contradiction

/-- A tick begins with the query for its range. -/
theorem ticks_of_next (called : scanning.allowed holding command)
    (ticking : (scanning.next holding command reply).ticks = some rangeId) :
    holding.ticks = some rangeId ∨ ∃ rangeIds, holding = .armed rangeIds ∧ command = .selectRange rangeId := by
  cases holding with
  | nothing => cases command <;> first | exact called.elim | (cases reply <;> contradiction)
  | card id => cases command <;> first | exact called.elim | (cases reply <;> contradiction)
  | pass ids => contradiction
  | armed ids =>
    cases command with
    | selectRange target =>
      rcases reply with error | _ | row
      · contradiction
      · contradiction
      · simp only [scanning, Holding.next] at ticking
        split at ticking
        · exact .inr ⟨ids, rfl, congrArg Command.selectRange (Option.some.inj ticking)⟩
        · contradiction
    | scanTickFetch _ | waitUntil _ => contradiction
    | _ => exact called.elim
  | tick id ips cursor stage =>
    left
    cases stage <;> cases command <;>
      first | exact called.elim | (cases reply <;> first | contradiction | exact ticking)

/-- A new card is that of the range just created. -/
theorem card_of_next (called : scanning.allowed holding command)
    (next : scanning.next holding command reply = .card rangeId) :
    holding = .card rangeId ∧ command = .sendCard rangeId ∨ holding = .nothing ∧ ∃ tenantId parsed,
      command = .insertRange tenantId parsed := by
  cases holding with
  | nothing =>
    cases command with
    | insertRange tenantId parsed => exact .inr ⟨rfl, tenantId, parsed, rfl⟩
    | _ => first | exact called.elim | (cases reply <;> contradiction)
  | card id =>
    cases command with
    | sendCard target =>
      cases reply with
      | ok message =>
        obtain rfl := Holding.card.inj next
        exact .inl ⟨rfl, congrArg Command.sendCard called⟩
      | error error => contradiction
    | bindCard target message => cases reply <;> contradiction
    | _ => exact called.elim
  | pass ids => contradiction
  | armed ids =>
    cases command with
    | selectRange target =>
      rcases reply with error | _ | row
      · contradiction
      · contradiction
      · simp only [scanning, Holding.next] at next
        split at next <;> contradiction
    | scanTickFetch _ | waitUntil _ => contradiction
    | _ => exact called.elim
  | tick id ips cursor stage =>
    cases stage <;> cases command <;> first | exact called.elim | (cases reply <;> contradiction)

/-- A pass of the cron begins with its query. -/
theorem pass_of_next {rangeIds : List String} (called : scanning.allowed holding command)
    (next : scanning.next holding command reply = .pass rangeIds) :
    holding = .pass rangeIds ∨ holding = .nothing ∧ command = .selectDue := by
  cases holding with
  | nothing => cases command <;> first | exact .inr ⟨rfl, rfl⟩ | exact called.elim | (cases reply <;> contradiction)
  | card id => cases command <;> first | exact called.elim | (cases reply <;> contradiction)
  | pass ids => exact .inl next
  | armed ids =>
    cases command with
    | selectRange target =>
      rcases reply with error | _ | row
      · contradiction
      · contradiction
      · simp only [scanning, Holding.next] at next
        split at next <;> contradiction
    | scanTickFetch _ | waitUntil _ => contradiction
    | _ => exact called.elim
  | tick id ips cursor stage =>
    cases stage <;> cases command <;> first | exact called.elim | (cases reply <;> contradiction)

theorem mem_oldest {store : Store} {selected : RangeRow → Bool} {limit : ℕ} {entry : String × RangeRow}
    (member : entry ∈ store.oldest selected limit) :
    store.ranges.get? entry.1 = some entry.2 ∧ selected entry.2 = true := by
  have filtered := List.mem_mergeSort.mp (List.mem_of_mem_take member)
  obtain ⟨stored, chosen⟩ := List.mem_filter.mp filtered
  exact ⟨OrderedMap.mem_entries_iff.mp stored, chosen⟩

/-- A range that a task comes to mention was its card, or was selected: as live and stalled, or as due. -/
theorem mentions_of_next {store store' : Store} (called : scanning.allowed holding command)
    (executed : exec command choice store = some (store', reply))
    (mentioned : rangeId ∈ (scanning.next holding command reply).mentions) :
    rangeId ∈ holding.mentions ∨ holding = .card rangeId ∨
      ∃ row, store.ranges.get? rangeId = some row ∧ (row.live_message_id.isSome ∨ command = .selectDue ∧
        (rangeId, row) ∈ store.oldest (·.due choice.now) DNS_SCAN_MAX_RANGES_PER_TICK) := by
  obtain ⟨-, -, outcome⟩ := exec_cases executed
  cases holding with
  | nothing =>
    cases reply with
    | error error => cases command <;> contradiction
    | ok answered =>
      have answers : answered = answer choice { store with clock := choice.clock command } command := by
        rcases outcome with ⟨-, -, -, answers | ⟨-, error, lost⟩⟩ | ⟨-, ⟨error, failed⟩, -⟩
        · exact Except.ok.inj answers
        · contradiction
        · contradiction
      cases command with
      | selectDue =>
        obtain ⟨⟨id, row⟩, member, rfl⟩ := List.mem_map.mp mentioned
        rw [answers] at member
        exact .inr (.inr ⟨row, (mem_oldest member).1, .inr ⟨rfl, member⟩⟩)
      | selectStalled stale limit =>
        change rangeId ∈ answered at mentioned
        rw [answers] at mentioned
        obtain ⟨⟨id, row⟩, member, rfl⟩ := List.mem_map.mp mentioned
        obtain ⟨found, stalled⟩ := mem_oldest member
        have live : row.live_message_id.isSome = true := by
          simp only [RangeRow.stalled, Bool.and_eq_true] at stalled
          exact stalled.1.1.1
        exact .inr (.inr ⟨row, found, .inl live⟩)
      | _ => contradiction
  | card id =>
    cases command with
    | bindCard target message =>
      cases reply with
      | ok _ => exact .inr (.inl (congrArg Holding.card (List.mem_singleton.mp mentioned).symm))
      | error error => contradiction
    | sendCard target => cases reply <;> contradiction
    | _ => exact called.elim
  | pass ids => exact .inl mentioned
  | armed ids =>
    cases command with
    | selectRange target =>
      rcases reply with error | _ | row
      · contradiction
      · contradiction
      · simp only [scanning, Holding.next] at mentioned
        split at mentioned
        · exact .inl ((List.mem_singleton.mp mentioned).symm ▸ called)
        · contradiction
    | scanTickFetch _ | waitUntil _ => exact .inl mentioned
    | _ => exact called.elim
  | tick id ips cursor stage =>
    left
    cases stage <;> cases command <;>
      first | exact called.elim | (cases reply <;> first | contradiction | exact mentioned)

/-- A spawned task may start a tick of a range that its parent mentions. -/
theorem spawned_armed {spawned : Holding} (called : scanning.allowed holding command)
    (member : spawned ∈ spawnedHoldings command choice) : ∃ id ∈ holding.mentions, spawned = .armed [id] := by
  cases command with
  | waitUntil job =>
    obtain rfl := List.mem_singleton.mp member
    refine ⟨job.rangeId, ?_, rfl⟩
    cases holding with
    | armed ids => exact called
    | tick id ips cursor stage =>
      cases stage with
      | ready =>
        obtain rfl : job = .chainNextTick id := called
        exact List.mem_singleton_self id
      | _ => exact called.elim
    | _ => exact called.elim
  | scanTickFetch target =>
    rw [spawnedHoldings] at member
    split at member
    · contradiction
    · obtain rfl := List.mem_singleton.mp member
      refine ⟨target, ?_, rfl⟩
      cases holding with
      | armed ids => exact called
      | tick _ _ _ stage => cases stage <;> exact called.elim
      | _ => exact called.elim
  | _ => contradiction

end

/-! ## The invariant -/

/-- A range whose card is on its way is untouched and belongs to one task; a pass has no live range in
hand; and every live range is in the charge of one tick, or at rest. -/
structure Kept (store : Store) (held : List Holding) : Prop where
  rounds : ∀ rangeId row, store.ranges.get? rangeId = some row → row.live_message_id.isSome →
    rangeId ∉ store.withdrawn → Round held rangeId row (store.stored rangeId)
  dormant : ∀ (position : ℕ) rangeId, held[position]? = some (.card rangeId) → ∀ row,
    store.ranges.get? rangeId = some row → row.live_message_id = none ∧ row.cursor = 0 ∧ row.finished_at = none
  unmentioned : ∀ (position : ℕ) rangeId, held[position]? = some (.card rangeId) → ∀ holding ∈ held,
    rangeId ∉ holding.mentions
  alone : ∀ (first second : ℕ) rangeId, held[first]? = some (.card rangeId) → held[second]? = some (.card rangeId) →
    first = second
  passes : ∀ rangeIds, Holding.pass rangeIds ∈ held → ∀ rangeId ∈ rangeIds, ∀ row,
    store.ranges.get? rangeId = some row → row.live_message_id = none
  mentioned : ∀ holding ∈ held, ∀ rangeId ∈ holding.mentions, rangeId ∈ store.issued
  carded : ∀ (position : ℕ) rangeId, held[position]? = some (.card rangeId) → rangeId ∈ store.issued
  rows : ∀ rangeId row, store.ranges.get? rangeId = some row → rangeId ∈ store.issued

section

variable {store store' : Store} {held : List Holding} {position : ℕ} {holding : Holding} {command : Command}
  {choice : Choice} {reply : Except Thrown (Answer command)} {rangeId : String}

theorem issued_grows (executed : exec command choice store = some (store', reply)) (issued : rangeId ∈ store.issued) :
    rangeId ∈ store'.issued := by
  obtain ⟨-, -, ⟨rfl, -⟩ | ⟨rfl, -⟩⟩ := exec_cases executed
  · cases command <;> first | exact issued | exact List.mem_cons_of_mem _ issued
  · exact issued

theorem withdrawn_grows (executed : exec command choice store = some (store', reply))
    (standing : rangeId ∉ store'.withdrawn) : rangeId ∉ store.withdrawn := by
  obtain ⟨-, -, ⟨rfl, -⟩ | ⟨rfl, -⟩⟩ := exec_cases executed
  · intro withdrawn
    apply standing
    cases command <;> first | exact withdrawn | exact List.mem_cons_of_mem _ withdrawn
                            | exact List.mem_append_right _ withdrawn
  · exact standing

/-- A new range has a new id. -/
theorem Kept.fresh (kept : Kept store held) {tenantId : String} {parsed : ParsedRange}
    {reply : Except Thrown (Answer (.insertRange tenantId parsed))}
    (executed : exec (.insertRange tenantId parsed) choice store = some (store', reply)) :
    choice.rangeId ∉ store.issued ∧ store.ranges.get? choice.rangeId = none := by
  obtain ⟨-, new, -⟩ := exec_cases executed
  refine ⟨new, ?_⟩
  cases found : store.ranges.get? choice.rangeId with
  | none => rfl
  | some row => exact absurd (kept.rows _ row found) new

/-- The list of the holdings after a call. -/
def moved (held : List Holding) (position : ℕ) (holding : Holding) (command : Command) (choice : Choice)
    (reply : Except Thrown (Answer command)) : List Holding :=
  held.set position (scanning.next holding command reply) ++ spawnedHoldings command choice

/-- Nobody comes to mention a range that is not live, not due, and not the card just bound. -/
theorem unmentioned_moved (atPosition : held[position]? = some holding)
    (called : scanning.allowed holding command) (executed : exec command choice store = some (store', reply))
    (absent : ∀ other ∈ held, rangeId ∉ other.mentions)
    (dormant : ∀ row, store.ranges.get? rangeId = some row → row.live_message_id = none)
    (due : command = .selectDue → ∀ row,
      (rangeId, row) ∉ store.oldest (·.due choice.now) DNS_SCAN_MAX_RANGES_PER_TICK)
    (unbound : holding = .card rangeId → command = .sendCard rangeId) :
    ∀ other ∈ moved held position holding command choice reply, rangeId ∉ other.mentions := by
  intro other member mentions
  have mine := absent holding (List.mem_of_getElem? atPosition)
  rcases Host.mem_set_append member with rfl | old | new
  · rcases mentions_of_next called executed mentions with before | card | ⟨row, found, live | ⟨selects, member⟩⟩
    · exact mine before
    · obtain rfl := unbound card
      subst card
      cases reply <;> contradiction
    · rw [dormant row found] at live
      contradiction
    · exact due selects row member
  · exact absent other old mentions
  · obtain ⟨id, mentioned, rfl⟩ := spawned_armed called new
    exact mine (List.mem_singleton.mp mentions ▸ mentioned)

/-- What is mentioned has been issued. -/
theorem Kept.mentioned_moved (kept : Kept store held) (atPosition : held[position]? = some holding)
    (called : scanning.allowed holding command) (executed : exec command choice store = some (store', reply)) :
    ∀ other ∈ moved held position holding command choice reply, ∀ id ∈ other.mentions, id ∈ store'.issued := by
  intro other member id mentions
  have mine := kept.mentioned holding (List.mem_of_getElem? atPosition)
  apply issued_grows executed
  rcases Host.mem_set_append member with rfl | old | new
  · rcases mentions_of_next called executed mentions with before | rfl | ⟨row, found, -⟩
    · exact mine id before
    · exact kept.carded position id atPosition
    · exact kept.rows id row found
  · exact kept.mentioned other old id mentions
  · obtain ⟨id', mentioned, rfl⟩ := spawned_armed called new
    exact mine id (List.mem_singleton.mp mentions ▸ mentioned)

theorem Kept.rows_moved (kept : Kept store held) (executed : exec command choice store = some (store', reply)) :
    ∀ id row, store'.ranges.get? id = some row → id ∈ store'.issued := by
  intro id row found
  rcases row_cases executed found with old | ⟨f, before, -, old, -⟩ | ⟨tenantId, parsed, rfl, rfl, -⟩
  · exact issued_grows executed (kept.rows id row old)
  · exact issued_grows executed (kept.rows id before old)
  · obtain ⟨-, -, ⟨rfl, -⟩ | ⟨rfl, -⟩⟩ := exec_cases executed
    · exact List.mem_cons_self
    · exact kept.rows _ row found

/-- A card is an old one, one that has just been sent, or that of a range just created. -/
theorem card_moved (atPosition : held[position]? = some holding) (called : scanning.allowed holding command)
    (executed : exec command choice store = some (store', reply)) {other : ℕ}
    (atOther : (moved held position holding command choice reply)[other]? = some (.card rangeId)) :
    (other ≠ position ∧ held[other]? = some (.card rangeId)) ∨ other = position ∧
      (holding = .card rangeId ∧ command = .sendCard rangeId ∨ holding = .nothing ∧ rangeId = choice.rangeId ∧
        rangeId ∈ store'.issued ∧ ∃ tenantId parsed, command = .insertRange tenantId parsed) := by
  rcases Host.getElem?_set_append atOther with ⟨rfl, same⟩ | old | ⟨-, new⟩
  · refine .inr ⟨rfl, ?_⟩
    rcases card_of_next called same.symm with sent | ⟨rfl, tenantId, parsed, rfl⟩
    · exact .inl sent
    · obtain ⟨-, -, ⟨rfl, -, -, rfl | ⟨-, error, rfl⟩⟩ | ⟨-, ⟨error, rfl⟩, -⟩⟩ := exec_cases executed
      · obtain rfl := Holding.card.inj same
        exact .inr ⟨rfl, rfl, List.mem_cons_self, tenantId, parsed, rfl⟩
      · contradiction
      · contradiction
  · exact .inl old
  · obtain ⟨id, -, armed⟩ := spawned_armed called new
    contradiction

theorem Kept.dormant_moved (kept : Kept store held) (atPosition : held[position]? = some holding)
    (called : scanning.allowed holding command) (executed : exec command choice store = some (store', reply))
    {other : ℕ} (atOther : (moved held position holding command choice reply)[other]? = some (.card rangeId))
    {row : RangeRow} (found : store'.ranges.get? rangeId = some row) :
    row.live_message_id = none ∧ row.cursor = 0 ∧ row.finished_at = none := by
  rcases card_moved atPosition called executed atOther with ⟨different, card⟩ | ⟨-, ⟨rfl, rfl⟩ | ⟨rfl, rfl, -, tenantId, parsed, rfl⟩⟩
  · rcases row_cases executed found with old | ⟨f, before, updates, -, -⟩ | ⟨tenantId, parsed, rfl, rfl, -⟩
    · exact kept.dormant other rangeId card row old
    · rcases update_by called updates with ⟨rfl, -⟩ | ⟨mentions, -⟩
      · exact absurd (kept.alone other position rangeId card atPosition) different
      · exact absurd mentions (kept.unmentioned other rangeId card holding (List.mem_of_getElem? atPosition))
    · exact absurd (kept.carded other _ card) (kept.fresh executed).1
  · rw [(exec_untouched executed nofun nofun).1] at found
    exact kept.dormant position rangeId atPosition row found
  · rcases row_cases executed found with old | ⟨f, before, updates, -, -⟩ | ⟨tenantId, parsed, -, -, rfl⟩
    · rw [(kept.fresh executed).2] at old
      contradiction
    · contradiction
    · exact ⟨rfl, rfl, rfl⟩

theorem Kept.cards_unmentioned (kept : Kept store held) (atPosition : held[position]? = some holding)
    (called : scanning.allowed holding command) (executed : exec command choice store = some (store', reply))
    (due : command = .selectDue → ∀ id row, (id, row) ∈ store.oldest (·.due choice.now) DNS_SCAN_MAX_RANGES_PER_TICK →
      .card id ∉ held)
    {other : ℕ} (atOther : (moved held position holding command choice reply)[other]? = some (.card rangeId)) :
    ∀ other ∈ moved held position holding command choice reply, rangeId ∉ other.mentions := by
  rcases card_moved atPosition called executed atOther with ⟨different, card⟩ | ⟨-, ⟨rfl, rfl⟩ | ⟨rfl, rfl, -, tenantId, parsed, rfl⟩⟩
  · refine unmentioned_moved atPosition called executed (kept.unmentioned other rangeId card)
      (fun row found => (kept.dormant other rangeId card row found).1) (fun selects row member => ?_) ?_
    · exact due selects rangeId row member (List.mem_of_getElem? card)
    · rintro rfl
      exact absurd (kept.alone other position rangeId card atPosition) different
  · refine unmentioned_moved atPosition called executed (kept.unmentioned position rangeId atPosition)
      (fun row found => (kept.dormant position rangeId atPosition row found).1) nofun fun _ => rfl
  · obtain ⟨new, absent⟩ := kept.fresh executed
    refine unmentioned_moved atPosition called executed
      (fun other member mentions => new (kept.mentioned other member _ mentions)) (fun row found => ?_) nofun nofun
    rw [absent] at found
    contradiction

theorem Kept.alone_moved (kept : Kept store held) (atPosition : held[position]? = some holding)
    (called : scanning.allowed holding command) (executed : exec command choice store = some (store', reply))
    {first second : ℕ} (atFirst : (moved held position holding command choice reply)[first]? = some (.card rangeId))
    (atSecond : (moved held position holding command choice reply)[second]? = some (.card rangeId)) :
    first = second := by
  have apart {other : ℕ} (different : other ≠ position) (card : held[other]? = some (.card rangeId))
      (new : holding = .card rangeId ∧ command = .sendCard rangeId ∨ holding = .nothing ∧ rangeId = choice.rangeId ∧
        rangeId ∈ store'.issued ∧ ∃ tenantId parsed, command = .insertRange tenantId parsed) : False := by
    rcases new with ⟨rfl, -⟩ | ⟨-, rfl, -, tenantId, parsed, rfl⟩
    · exact different (kept.alone other position rangeId card atPosition)
    · exact (kept.fresh executed).1 (kept.carded other _ card)
  rcases card_moved atPosition called executed atFirst with ⟨different, card⟩ | ⟨rfl, new⟩ <;>
    rcases card_moved atPosition called executed atSecond with ⟨different', card'⟩ | ⟨rfl, new'⟩
  · exact kept.alone first second rangeId card card'
  · exact (apart different card new').elim
  · exact (apart different' card' new).elim
  · rfl

theorem Kept.carded_moved (kept : Kept store held) (atPosition : held[position]? = some holding)
    (called : scanning.allowed holding command) (executed : exec command choice store = some (store', reply))
    {other : ℕ} (atOther : (moved held position holding command choice reply)[other]? = some (.card rangeId)) :
    rangeId ∈ store'.issued := by
  rcases card_moved atPosition called executed atOther with ⟨-, card⟩ | ⟨-, ⟨rfl, -⟩ | ⟨-, -, issued, -⟩⟩
  · exact issued_grows executed (kept.carded other rangeId card)
  · exact issued_grows executed (kept.carded position rangeId atPosition)
  · exact issued

theorem Kept.passes_moved (kept : Kept store held) (atPosition : held[position]? = some holding)
    (called : scanning.allowed holding command) (executed : exec command choice store = some (store', reply))
    {rangeIds : List String} (member : .pass rangeIds ∈ moved held position holding command choice reply)
    (inHand : rangeId ∈ rangeIds) {row : RangeRow} (found : store'.ranges.get? rangeId = some row) :
    row.live_message_id = none := by
  have passing (listed : .pass rangeIds ∈ held) : row.live_message_id = none := by
    rcases row_cases executed found with old | ⟨f, before, updates, old, rfl⟩ | ⟨tenantId, parsed, rfl, rfl, -⟩
    · exact kept.passes rangeIds listed rangeId inHand row old
    · rcases update_by called updates with ⟨rfl, -⟩ | ⟨-, same⟩
      · exact absurd inHand (kept.unmentioned position rangeId atPosition (.pass rangeIds) listed)
      · rw [same]
        exact kept.passes rangeIds listed rangeId inHand before old
    · exact absurd (kept.mentioned (.pass rangeIds) listed _ inHand) (kept.fresh executed).1
  rcases Host.mem_set_append member with same | old | new
  · rcases pass_of_next called same.symm with rfl | ⟨rfl, rfl⟩
    · exact passing (List.mem_of_getElem? atPosition)
    · rw [(exec_untouched executed nofun nofun).1] at found
      obtain ⟨-, -, ⟨-, -, -, rfl | ⟨-, error, rfl⟩⟩ | ⟨-, ⟨error, rfl⟩, -⟩⟩ := exec_cases executed
      · obtain rfl := Holding.pass.inj same
        obtain ⟨⟨id, selected⟩, chosen, rfl⟩ := List.mem_map.mp inHand
        obtain ⟨stored, due⟩ := mem_oldest chosen
        obtain rfl : selected = row := Option.some.inj (stored.symm.trans found)
        simp only [RangeRow.due, Bool.and_eq_true, Option.isNone_iff_eq_none] at due
        exact due.1
      · contradiction
      · contradiction
  · exact passing old
  · obtain ⟨id, -, armed⟩ := spawned_armed called new
    contradiction

theorem Kept.rounds_moved (kept : Kept store held) (atPosition : held[position]? = some holding)
    (called : scanning.allowed holding command) (executed : exec command choice store = some (store', reply))
    (begins : command = .selectRange rangeId → choice.delivery = .answered → ∀ row,
      store.ranges.get? rangeId = some row → row.live_message_id.isSome →
        row.finished_at = none ∧ ∀ other ∈ held, other.ticks ≠ some rangeId)
    (recoverable : holding.ticks = some rangeId → ∀ row, store.ranges.get? rangeId = some row →
      Recoverable row choice command)
    (expires : command = .purgeResults → choice.delivery ≠ .refused → ¬ store.Fresh rangeId choice.now → ∀ row,
      store.ranges.get? rangeId = some row → row.live_message_id.isSome → row.finished_at = none →
        row.cursor = 0 ∧ ∀ other ∈ held, other.ticks ≠ some rangeId)
    {row : RangeRow} (found : store'.ranges.get? rangeId = some row) (live : row.live_message_id.isSome)
    (standing : rangeId ∉ store'.withdrawn) :
    Round (moved held position holding command choice reply) rangeId row (store'.stored rangeId) := by
  have stood := withdrawn_grows executed standing
  have idle : ∀ spawned ∈ spawnedHoldings command choice, spawned.ticks = none := by
    intro spawned member
    obtain ⟨id, -, rfl⟩ := spawned_armed called member
    rfl
  by_cases ticking : holding.ticks = some rangeId
  · -- the task in charge moves
    obtain ⟨before, old, live⟩ : ∃ before, store.ranges.get? rangeId = some before ∧ before.live_message_id.isSome := by
      rcases row_cases executed found with old | ⟨f, before, updates, old, rfl⟩ | ⟨tenantId, parsed, -, -, rfl⟩
      · exact ⟨row, old, live⟩
      · rcases update_by called updates with ⟨rfl, -⟩ | ⟨-, same⟩
        · contradiction
        · exact ⟨before, old, same before ▸ live⟩
      · contradiction
    have round := kept.rounds rangeId before old live stood
    have vouched := round.vouched atPosition ticking
    cases holding with
    | tick id ips cursor stage =>
      obtain rfl := Option.some.inj ticking
      obtain ⟨vouched', kept'⟩ := tick_keeps old vouched called (recoverable rfl before old) executed found
      exact round.move atPosition rfl vouched' kept' idle
    | _ => contradiction
  by_cases unchanged : store'.ranges.get? rangeId = store.ranges.get? rangeId ∧
      store'.stored rangeId = store.stored rangeId
  · -- another task moves, and at most takes charge
    rw [unchanged.1] at found
    rw [unchanged.2]
    have round := kept.rounds rangeId row found live stood
    by_cases next : (scanning.next holding command reply).ticks = some rangeId
    · rcases ticks_of_next called next with before | ⟨rangeIds, rfl, rfl⟩
      · exact absurd before ticking
      · rcases reply with error | _ | selected
        · contradiction
        · contradiction
        · obtain ⟨unfinished, free⟩ := begins rfl (answered_of_ok executed rfl) row found live
          refine Round.begin free atPosition next ?_ idle
          have read : selected = row := by
            obtain ⟨-, -, ⟨-, -, -, replied | ⟨-, error, failed⟩⟩ | ⟨-, ⟨error, failed⟩, -⟩⟩ := exec_cases executed
            · exact Option.some.inj ((Except.ok.inj replied).trans found)
            · contradiction
            · contradiction
          subst read
          simp only [scanning, Holding.next] at next ⊢
          split
          · next parsed parses =>
            have rests := round.rests free
            rw [Resting, unfinished] at rests
            have addresses : parsed.ips = selected.ips := by
              rw [RangeRow.ips, parses]
              rfl
            exact ⟨addresses, rfl, unfinished, addresses ▸ rests⟩
          · exact round.rests free
    · exact round.frame atPosition ticking next idle
  obtain ⟨applied, delivered⟩ : store' = effect choice { store with clock := choice.clock command } command ∧
      (command.remote → choice.delivery ≠ .refused) := by
    obtain ⟨-, -, ⟨applied, -, delivered, -⟩ | ⟨rfl, -⟩⟩ := exec_cases executed
    · exact ⟨applied, delivered⟩
    · exact absurd ⟨rfl, rfl⟩ unchanged
  by_cases purges : command = .purgeResults
  · -- results of an unfinished round expire, and the next tick starts it again
    subst purges
    subst applied
    have stale : ¬ store.Fresh rangeId choice.now := fun fresh => unchanged ⟨rfl, stored_purge fresh⟩
    have unfinished : row.finished_at = none := by
      by_contra finished
      obtain ⟨result, member, same, expired⟩ := exists_expired stale
      refine standing (List.mem_append_left _ (List.mem_filter.mpr ⟨?_, ?_⟩))
      · exact List.mem_map.mpr ⟨result, List.mem_filter.mpr ⟨member, expired⟩, same⟩
      · have found : store.ranges.get? rangeId = some row := found
        rw [found, Option.any_some]
        exact Option.isSome_iff_ne_none.mpr finished
    obtain ⟨start, free⟩ := expires rfl (delivered rfl) stale row found live unfinished
    have rests (stored : List String) : Resting row stored := by
      rw [Resting, unfinished]
      exact .inl start
    refine Round.frame (.inr ⟨free, rests _⟩) atPosition ticking (fun next => ?_) idle
    rcases ticks_of_next called next with before | ⟨-, -, selects⟩
    · exact ticking before
    · contradiction
  · -- the card is bound
    have target : command.target choice = some rangeId := by
      by_contra other
      exact unchanged (exec_untouched executed other fun same => absurd same purges)
    cases holding with
    | nothing =>
      cases command with
      | removeResults id =>
        obtain rfl := Option.some.inj target
        subst applied
        exact absurd List.mem_cons_self standing
      | removeRange id =>
        obtain rfl := Option.some.inj target
        subst applied
        have kept := (OrderedMap.get?_filter_eq_some_iff.mp found).2
        simp at kept
      | insertRange tenantId parsed =>
        obtain rfl := Option.some.inj target
        subst applied
        rw [effect, OrderedMap.get?_alter, if_pos rfl, Option.some.injEq] at found
        subst found
        contradiction
      | _ => contradiction
    | card id =>
      cases command with
      | bindCard bound message =>
        obtain rfl := Option.some.inj target
        obtain rfl : bound = id := called
        have unmentioned := kept.unmentioned position bound atPosition
        refine .inr ⟨fun other member ticks => ?_, ?_⟩
        · rcases Host.mem_set_append member with rfl | old | new
          · cases reply <;> contradiction
          · cases other with
            | tick id ips cursor stage => exact unmentioned _ old (List.mem_singleton.mpr (Option.some.inj ticks).symm)
            | _ => contradiction
          · rw [idle other new] at ticks
            contradiction
        · subst applied
          rw [effect, OrderedMap.get?_modify, if_pos rfl] at found
          obtain ⟨before, old, rfl⟩ := Option.map_eq_some_iff.mp found
          obtain ⟨-, start, unfinished⟩ := kept.dormant position bound atPosition before old
          rw [Resting]
          simp only [unfinished]
          exact .inl start
      | sendCard id => contradiction
      | _ => exact called.elim
    | armed ids =>
      cases command with
      | scanTickFetch _ | selectRange _ | waitUntil _ => contradiction
      | _ => exact called.elim
    | pass ids =>
      have inHand : rangeId ∈ ids := by
        cases command with
        | insertResult _ _ | moveCursor _ _ | completePass _ => exact Option.some.inj target ▸ called
        | purgeResults => contradiction
        | _ => exact called.elim
      have passing : Holding.pass ids ∈ moved held position (.pass ids) command choice reply :=
        List.mem_of_getElem? (Host.getElem?_set_append_self atPosition _ _)
      rw [kept.passes_moved atPosition called executed passing inHand found] at live
      contradiction
    | tick id ips cursor stage =>
      have scans := scans_of_ticks called rfl
      cases command <;> first | contradiction | exact absurd (scans.symm.trans target) ticking

end

/-! ## Every run -/

theorem row_ips_nodup (row : RangeRow) : row.ips.Nodup := by
  rw [RangeRow.ips]
  cases parseCidr row.cidr with
  | none => exact List.nodup_nil
  | some parsed => exact parsed.ips_nodup

theorem Kept.finishedOnce {store : Store} {held : List Holding} (kept : Kept store held) : FinishedOnce store := by
  intro rangeId row found live finished standing ip
  obtain ⟨at_, passed⟩ := Option.isSome_iff_exists.mp finished
  have complete : store.stored rangeId = row.ips := by
    rcases kept.rounds rangeId row found live standing with ⟨-, holding, -, ticking, vouched, -⟩ | ⟨-, rests⟩
    · cases holding with
      | tick id ips cursor stage =>
        have unfinished := vouched.unfinished
        rw [passed] at unfinished
        contradiction
      | _ => contradiction
    · rwa [Resting, passed] at rests
  rw [complete]
  exact (row_ips_nodup row).count

theorem initial_kept : Kept initial.store [] := by
  have absent (rangeId : String) : initial.store.ranges.get? rangeId = none := OrderedMap.get?_empty rangeId
  constructor
  · intro rangeId row found
    rw [absent] at found
    contradiction
  · intro position rangeId card
    contradiction
  · intro position rangeId card
    contradiction
  · intro first second rangeId card
    contradiction
  · intro rangeIds member
    contradiction
  · intro holding member
    contradiction
  · intro position rangeId card
    contradiction
  · intro rangeId row found
    rw [absent] at found
    contradiction

/-- A task that begins holds nothing. -/
theorem Kept.started {store : Store} {held : List Holding} (kept : Kept store held) :
    Kept store (held ++ [Holding.nothing]) := by
  have before {position : ℕ} {holding : Holding} (other : holding ≠ .nothing)
      (atPosition : (held ++ [Holding.nothing])[position]? = some holding) : held[position]? = some holding := by
    rw [List.getElem?_append] at atPosition
    split at atPosition
    · exact atPosition
    · exact absurd (List.mem_singleton.mp (List.mem_of_getElem? atPosition)) other
  have member {holding : Holding} (other : holding ≠ .nothing) (member : holding ∈ held ++ [Holding.nothing]) : holding ∈ held := by
    rcases List.mem_append.mp member with old | new
    · exact old
    · exact absurd (List.mem_singleton.mp new) other
  refine ⟨?_, ?_, ?_, ?_, ?_, ?_, ?_, kept.rows⟩
  · intro rangeId row found live standing
    rcases kept.rounds rangeId row found live standing with ⟨owner, charged, atOwner, ticking, vouched, only⟩ | ⟨free, rests⟩
    · refine .inl ⟨owner, charged, ?_, ticking, vouched, fun other holding atOther ticks => ?_⟩
      · rw [List.getElem?_append_left (List.getElem?_eq_some_iff.mp atOwner).1]
        exact atOwner
      · refine only other holding (before ?_ atOther) ticks
        rintro rfl
        contradiction
    · refine .inr ⟨fun holding listed ticks => ?_, rests⟩
      refine free holding (member ?_ listed) ticks
      rintro rfl
      contradiction
  · exact fun position rangeId card => kept.dormant position rangeId (before nofun card)
  · intro position rangeId card holding listed mentions
    refine kept.unmentioned position rangeId (before nofun card) holding (member ?_ listed) mentions
    rintro rfl
    contradiction
  · exact fun first second rangeId card card' => kept.alone first second rangeId (before nofun card) (before nofun card')
  · exact fun rangeIds listed => kept.passes rangeIds (member nofun listed)
  · intro holding listed rangeId mentions
    refine kept.mentioned holding (member ?_ listed) rangeId mentions
    rintro rfl
    contradiction
  · exact fun position rangeId card => kept.carded position rangeId (before nofun card)

/-- A tick in charge of a range has not ended: its task awaits a call on the range. -/
theorem scanning_of_ticks {world : World} {held : List Holding} (holds : Host.Held scanning (Ends Unit) held world)
    {rangeId : String} {holding : Holding} (member : holding ∈ held) (ticking : holding.ticks = some rangeId) :
    ∃ task ∈ world.tasks, task.awaits.bind Command.scans = some rangeId := by
  obtain ⟨position, atPosition⟩ := List.mem_iff_getElem?.mp member
  have busy (outcome : Except Thrown Unit) : ¬ Ends Unit holding outcome := by
    cases holding with
    | tick _ _ _ _ => exact id
    | _ => contradiction
  obtain ⟨task, command, atTask, awaits, called⟩ := holds.awaiting atPosition busy
  refine ⟨task, List.mem_of_getElem? atTask, ?_⟩
  rw [awaits, Option.bind_some]
  exact scans_of_ticks called ticking

/-- A task that holds a card awaits a call about it. -/
theorem binding_of_card {world : World} {held : List Holding} (holds : Host.Held scanning (Ends Unit) held world)
    {rangeId : String} (member : .card rangeId ∈ held) :
    ∃ task ∈ world.tasks, task.awaits.bind Command.binds = some rangeId := by
  obtain ⟨position, atPosition⟩ := List.mem_iff_getElem?.mp member
  obtain ⟨task, command, atTask, awaits, called⟩ := holds.awaiting atPosition fun _ => id
  refine ⟨task, List.mem_of_getElem? atTask, ?_⟩
  rw [awaits, Option.bind_some]
  exact binds_of_card called

/-- In every run whose steps meet the condition, a finished live range has one row for each address. -/
theorem scanned_once {events : List Event} {world : World} (run : host.machine.Run Undisturbed initial events world) :
    FinishedOnce world.store := by
  have reached : ∃ held, Host.Held scanning (Ends Unit) held world ∧ Kept world.store held := by
    refine host_plays.preserves Kept ?_ ?_ run ⟨[], .nil, initial_kept⟩
    · intro world held operation _ kept _
      exact kept.started
    · intro world held position choice task command store reply holding holds kept met atPosition awaits atHeld called
        executed
      have met := met task atPosition command awaits
      have due (selects : command = .selectDue) (id : String) (row : RangeRow)
          (selected : (id, row) ∈ world.store.oldest (·.due choice.now) DNS_SCAN_MAX_RANGES_PER_TICK) :
          .card id ∉ held := by
        subst selects
        intro member
        obtain ⟨other, listed, binds⟩ := binding_of_card holds member
        exact met (id, row) selected other listed binds
      refine ⟨?_, ?_, ?_, ?_, ?_, ?_, ?_, ?_⟩
      · intro rangeId row found live standing
        have free (idle : ∀ other ∈ world.tasks, other.awaits.bind Command.scans ≠ some rangeId) :
            ∀ other ∈ held, other.ticks ≠ some rangeId := by
          intro other member ticks
          obtain ⟨task, listed, scans⟩ := scanning_of_ticks holds member ticks
          exact idle task listed scans
        refine kept.rounds_moved atHeld called executed ?_ ?_ ?_ found live standing
        · rintro rfl delivered row found live
          exact (met delivered row found live).imp_right free
        · intro ticks row found
          have scans := scans_of_ticks called ticks
          cases command with
          | storeWave id wave => exact fun lost => met lost row (Option.some.inj scans ▸ found)
          | advanceCursor id cursor => exact fun refused => met refused row (Option.some.inj scans ▸ found)
          | _ => trivial
        · rintro rfl delivered stale row found live unfinished
          obtain ⟨result, member, rfl, expired⟩ := exists_expired stale
          exact (met delivered result member expired row found live unfinished).imp_right free
      · exact fun other rangeId card row found => kept.dormant_moved atHeld called executed card found
      · exact fun other rangeId card => kept.cards_unmentioned atHeld called executed due card
      · exact fun first second rangeId card card' => kept.alone_moved atHeld called executed card card'
      · exact fun rangeIds member rangeId inHand row found => kept.passes_moved atHeld called executed member inHand found
      · exact kept.mentioned_moved atHeld called executed
      · exact fun other rangeId card => kept.carded_moved atHeld called executed card
      · exact kept.rows_moved executed
  obtain ⟨held, -, kept⟩ := reached
  exact kept.finishedOnce

namespace Sample

/-- The two ticks run side by side. -/
def sideBySide : List Event :=
  armedTwice ++ ([.act 1 { now := 2500 }, .act 2 { now := 2500 }, .act 1 { now := 2500 }, .act 2 { now := 2500 },
    .act 1 { now := 2500 }, .act 2 { now := 2500 }, .act 1 { now := 2600 }, .act 2 { now := 2600 },
    .act 1 { now := 2600 }, .act 1 { now := 2600 }] : List Event)

/-- The first tick finishes the round before the second begins. -/
def oneAfterTheOther : List Event :=
  armedTwice ++ ([.act 1 { now := 2500 }, .act 1 { now := 2500 }, .act 1 { now := 2500 }, .act 1 { now := 2600 },
    .act 1 { now := 2600 }, .act 1 { now := 2600 }, .act 2 { now := 2700 }, .act 2 { now := 2700 }] : List Event)

/-- The first tick dies after its first wave, and the cron resumes the round a day later, after its purge. -/
def resumed : List Event :=
  [.start (.dnsrange "tenant" "10.0.0.0/27"),
   .act 0 { now := 1000 }, .act 0 { now := 1000, rangeId := "range" }, .act 0 { now := 1000, message := some 7 },
   .act 0 { now := 1000 }, .act 0 { now := 1000 },
   .act 1 { now := 1000, delivery := .refused, ok := false }, .act 1 { now := 2500 }, .act 1 { now := 2500 },
   .act 1 { now := 2500 }, .act 1 { now := 2600 }, .act 1 { now := 2600 }, .act 1 { now := 2700, delivery := .refused },
   .start .dnsScan, .act 2 { now := 90000000 }, .act 2 { now := 90000000 },
   .start .liveScans, .act 3 { now := 90000100 }, .act 3 { now := 90000100 },
   .act 4 { now := 90000200 }, .act 4 { now := 90000200 }, .act 4 { now := 90000300 }, .act 4 { now := 90000300 },
   .act 4 { now := 90000400 }]

/-- The cron passes within the day. -/
def passed : List Event := finished ++ ([.start .dnsScan, .act 2 { now := 86000000 }, .act 2 { now := 86000000 }] : List Event)

/-- The live range has finished, and its first address has so many rows. -/
def rows (count : ℕ) (world : World) : Bool :=
  (world.store.ranges.get? "range").any fun row => row.live_message_id.isSome ∧ row.finished_at.isSome ∧
    "range" ∉ world.store.withdrawn ∧ "10.0.0.1" ∈ row.ips ∧ (world.store.stored "range").count "10.0.0.1" = count

theorem not_finishedOnce {count : ℕ} {world : World} (other : count ≠ 1) (counted : rows count world = true) :
    ¬ FinishedOnce world.store := by
  intro once
  obtain ⟨row, found, checked⟩ := (Option.any_eq_true _ _).mp counted
  obtain ⟨live, finished, standing, address, counts⟩ := of_decide_eq_true checked
  have one := once "range" row found live finished standing "10.0.0.1"
  rw [if_pos address] at one
  exact other (counts.symm.trans one)

end Sample

theorem scanned_once_finished : ∃ world, host.machine.Run Undisturbed initial Sample.passed world ∧
    Sample.rows 1 world = true ∧ FinishedOnce world.store := by
  have evaluated : (host.machine.checked? (fun world event => decide (Undisturbed world event)) initial
      Sample.passed).any (Sample.rows 1) = true := by
    decide +kernel
  obtain ⟨world, replayed, counted⟩ := (Option.any_eq_true _ _).mp evaluated
  have run := Run.of_checked (fun _ _ => of_decide_eq_true) replayed
  exact ⟨world, run, counted, scanned_once run⟩

/-- Two ticks side by side store the address twice; a tick that begins after the round deletes it, and so
does the purge before a round is resumed. -/
theorem scanned_twice_or_never :
    (∃ world, host.machine.Run Free initial Sample.sideBySide world ∧ ¬ FinishedOnce world.store) ∧
      (∃ world, host.machine.Run Free initial Sample.oneAfterTheOther world ∧ ¬ FinishedOnce world.store) ∧
      ∃ world, host.machine.Run Free initial Sample.resumed world ∧ ¬ FinishedOnce world.store := by
  have twice : (host.machine.replay? initial Sample.sideBySide).any (Sample.rows 2) = true := by decide +kernel
  have never : (host.machine.replay? initial Sample.oneAfterTheOther).any (Sample.rows 0) = true := by decide +kernel
  have purged : (host.machine.replay? initial Sample.resumed).any (Sample.rows 0) = true := by decide +kernel
  have missed {events : List Event} {count : ℕ} (other : count ≠ 1)
      (counted : (host.machine.replay? initial events).any (Sample.rows count) = true) :
      ∃ world, host.machine.Run Free initial events world ∧ ¬ FinishedOnce world.store := by
    obtain ⟨world, replayed, counted⟩ := (Option.any_eq_true _ _).mp counted
    exact ⟨world, Run.free_iff_replay.mpr replayed, Sample.not_finishedOnce other counted⟩
  exact ⟨missed (by decide) twice, missed (by decide) never, missed (by decide) purged⟩

end OmniControlPlane.DnsCenter
