import OmniControlPlane.DnsCenter.Cidr
import OmniControlPlane.Lib.OrderedMap
import OmniControlPlane.Lib.Typestate
import OmniControlPlane.Portal.Http

/-! # Scanning a range

A range that a chat has asked for is live: its tick scans some waves of 16 addresses, writes the
cursor after each, and arms the next tick through a request of the worker to itself. The cron scans
the ranges that are not live, deletes the results of more than a day ago, and resumes the live ones
that have gone quiet.

A tick is a task, so it can stand between any two of its statements while other ticks move. A statement
that throws ends its task, as a killed worker does. The card in the chat is edited between
statements and holds no state.
-/

namespace OmniControlPlane.DnsCenter

open Lib Task Portal

/-- Addresses probed per cron tick per range. -/
def DNS_SCAN_CHUNK : ℕ := 128
def DNS_SCAN_INTERVAL_MINUTES : ℕ := 30
def DNS_SCAN_RETENTION_HOURS : ℕ := 24
def DNS_SCAN_MAX_RANGES_PER_TICK : ℕ := 4

/-- The interval between two passes, in milliseconds. -/
def scanInterval : ℕ := DNS_SCAN_INTERVAL_MINUTES * 60000

/-! ## The tables -/

inductive DnsVerdict where
  | healthy | fake | wrong | unreachable
deriving DecidableEq, Repr

structure ProbeResult where
  verdict : DnsVerdict
  rttMs : Option ℕ
deriving DecidableEq, Repr

/-- A row of `dns_scan_ranges`. Only `replaceScanRange` writes `cidr` and `ips_total`. -/
structure RangeRow where
  tenant_id : String
  cidr : String
  ips_total : ℕ
  cursor : ℕ := 0
  created_at : ℕ
  last_scan_at : Option ℕ := none
  finished_at : Option ℕ := none
  live_message_id : Option ℤ := none
  /-- No column: when the range was created or last scanned. -/
  active_at : ℕ
  normal : ∃ parsed : ParsedRange, cidr = parsed.cidr ∧ ips_total = parsed.ips.length
deriving DecidableEq, Repr

def RangeRow.create (tenantId : String) (parsed : ParsedRange) (now : ℕ) : RangeRow where
  tenant_id := tenantId
  cidr := parsed.cidr
  ips_total := parsed.ips.length
  created_at := now
  active_at := now
  normal := ⟨parsed, rfl, rfl⟩

/-- A row of `dns_scan_results`. -/
structure ScanResult where
  range_id : String
  ip : String
  result : ProbeResult
  checked_at : ℕ
deriving DecidableEq, Repr

/-- `WHERE checked_at < ?`, a day before the purge -/
def ScanResult.expired (now : ℕ) (row : ScanResult) : Bool :=
  row.checked_at + DNS_SCAN_RETENTION_HOURS * 3600000 < now

structure Store where
  clock : ℕ := 0
  ranges : OrderedMap String RangeRow := .empty
  results : List ScanResult := []
  /-- Every id that `randomUUID` has drawn. -/
  issued : List String := []
  /-- No table: the ranges whose results `replaceScanRange` has deleted, and the finished ones some of
  whose results have expired. -/
  withdrawn : List String := []

/-- `WHERE live_message_id IS NULL AND (finished_at IS NULL OR last_scan_at IS NULL OR last_scan_at < ?)` -/
def RangeRow.due (now : ℕ) (row : RangeRow) : Bool :=
  row.live_message_id.isNone && (row.finished_at.isNone || row.last_scan_at.isNone ||
    row.last_scan_at.any (· + scanInterval < now))

/-- `WHERE live_message_id IS NOT NULL AND finished_at IS NULL AND cursor < ips_total AND
COALESCE(last_scan_at, created_at) < ?` -/
def RangeRow.stalled (staleMs now : ℕ) (row : RangeRow) : Bool :=
  row.live_message_id.isSome && row.finished_at.isNone && row.cursor < row.ips_total &&
    row.last_scan_at.getD row.created_at + staleMs < now

/-- `ORDER BY created_at ASC LIMIT ?` -/
def Store.oldest (store : Store) (selected : RangeRow → Bool) (limit : ℕ) : List (String × RangeRow) :=
  ((store.ranges.entries.filter (selected ·.2)).mergeSort fun first second =>
    first.2.created_at ≤ second.2.created_at).take limit

/-- The finished ranges that have results of more than a day ago. -/
def Store.expired (store : Store) (now : ℕ) : List String :=
  ((store.results.filter (·.expired now)).map (·.range_id)).filter fun rangeId =>
    (store.ranges.get? rangeId).any (·.finished_at.isSome)

/-- The results of one range. -/
def Store.of (store : Store) (rangeId : String) : List ScanResult :=
  store.results.filter (·.range_id = rangeId)

/-! ## The calls -/

/-- What `waitUntil` keeps running after a response. -/
inductive Job where
  | chainNextTick (rangeId : String)
  | advanceLiveScan (rangeId : String)
deriving DecidableEq, Repr

inductive Command where
  | listRanges (tenantId : String)
  | removeResults (rangeId : String)
  | removeRange (rangeId : String)
  | insertRange (tenantId : String) (parsed : ParsedRange)
  | sendCard (rangeId : String)
  | bindCard (rangeId : String) (message : Option ℤ)
  | scanTickFetch (rangeId : String)
  | selectRange (rangeId : String)
  | clearResults (rangeId : String)
  | countResults (rangeId : String)
  | storeWave (rangeId : String) (wave : List String)
  | advanceCursor (rangeId : String) (cursor : ℕ)
  | finishRound (rangeId : String)
  | selectResults (rangeId : String)
  | selectDue
  | insertResult (rangeId ip : String)
  | moveCursor (rangeId : String) (cursor : ℕ)
  | completePass (rangeId : String)
  | purgeResults
  | selectStalled (staleMs limit : ℕ)
  | waitUntil (job : Job)
deriving DecidableEq, Repr

/-- The type of a command's answer; a clock that the code reads next comes with it. -/
abbrev Answer : Command → Type
  | .listRanges _ | .selectStalled .. => List String
  | .insertRange .. => String
  | .sendCard _ => Option ℤ
  | .scanTickFetch _ => Bool
  | .selectRange _ => Option RangeRow
  | .countResults _ => List DnsVerdict × ℕ
  | .storeWave .. => List ProbeResult
  | .advanceCursor .. => ℕ
  | .selectResults _ => List ScanResult
  | .selectDue => List (String × RangeRow)
  | _ => Unit

/-- The outside choices of one step: the delivery, two readings of the clock, the id drawn, what
Telegram and the resolvers answer, and whether the self-fetch is answered with success. -/
structure Choice where
  delivery : Delivery := .answered
  now : ℕ := 0
  elapsed : ℕ := 0
  rangeId : String := ""
  message : Option ℤ := none
  probe : String → ProbeResult := fun _ => ⟨.unreachable, none⟩
  ok : Bool := true

def Choice.later (choice : Choice) : ℕ := choice.now + choice.elapsed

/-- The last reading of the clock. -/
def Choice.clock (choice : Choice) : Command → ℕ
  | .finishRound _ | .completePass _ => choice.later
  | _ => choice.now

theorem Choice.now_le_clock (choice : Choice) {command : Command} : choice.now ≤ choice.clock command := by
  cases command <;> first | exact Nat.le_refl _ | exact Nat.le_add_right ..

/-- The effect of a command on the tables. Deleting a range deletes its results with it. -/
def effect (choice : Choice) (store : Store) : Command → Store
  | .removeResults rangeId =>
    { store with results := store.results.filter (·.range_id ≠ rangeId), withdrawn := rangeId :: store.withdrawn }
  | .removeRange rangeId =>
    { store with ranges := store.ranges.filter fun id _ => id ≠ rangeId
                 results := store.results.filter (·.range_id ≠ rangeId) }
  | .insertRange tenantId parsed =>
    { store with ranges := store.ranges.alter choice.rangeId fun _ => .create tenantId parsed choice.now
                 issued := choice.rangeId :: store.issued }
  | .bindCard rangeId message =>
    { store with ranges := store.ranges.modify rangeId fun row => { row with live_message_id := message } }
  | .clearResults rangeId => { store with results := store.results.filter (·.range_id ≠ rangeId) }
  | .storeWave rangeId wave =>
    { store with results := store.results ++ wave.map fun ip => ⟨rangeId, ip, choice.probe ip, choice.now⟩ }
  | .advanceCursor rangeId cursor =>
    { store with ranges := store.ranges.modify rangeId fun row =>
        { row with cursor := cursor, last_scan_at := some choice.now, active_at := choice.now } }
  | .finishRound rangeId =>
    { store with ranges := store.ranges.modify rangeId fun row =>
        { row with cursor := 0, finished_at := some choice.now, last_scan_at := some choice.later
                   active_at := choice.later } }
  | .insertResult rangeId ip =>
    { store with results := store.results ++ [⟨rangeId, ip, choice.probe ip, choice.now⟩] }
  | .moveCursor rangeId cursor =>
    { store with ranges := store.ranges.modify rangeId fun row =>
        { row with cursor := cursor, active_at := choice.now } }
  | .completePass rangeId =>
    { store with ranges := store.ranges.modify rangeId fun row =>
        { row with cursor := 0, last_scan_at := some choice.now, finished_at := some choice.later
                   active_at := choice.later } }
  | .purgeResults =>
    { store with results := store.results.filter (!·.expired choice.now)
                 withdrawn := store.expired choice.now ++ store.withdrawn }
  | _ => store

/-- The answer of a command, read from the store before its effect. -/
def answer (choice : Choice) (store : Store) : (command : Command) → Answer command
  | .listRanges tenantId => (store.ranges.entries.filter (·.2.tenant_id = tenantId)).map (·.1)
  | .insertRange .. => choice.rangeId
  | .sendCard _ => choice.message
  | .scanTickFetch _ => choice.ok
  | .selectRange rangeId => store.ranges.get? rangeId
  | .countResults rangeId => ((store.of rangeId).map (·.result.verdict), choice.now)
  | .storeWave _ wave => wave.map choice.probe
  | .advanceCursor .. => choice.now
  | .selectResults rangeId => store.of rangeId
  | .selectDue => store.oldest (·.due choice.now) DNS_SCAN_MAX_RANGES_PER_TICK
  | .selectStalled staleMs limit => (store.oldest (·.stalled staleMs choice.now) limit).map (·.1)
  | .removeResults _ | .removeRange _ | .bindCard .. | .clearResults _ | .finishRound _ | .insertResult ..
  | .moveCursor .. | .completePass _ | .purgeResults | .waitUntil _ => ()

/-- The reference of a result to its range. -/
def refuses (store : Store) : Command → Prop
  | .storeWave rangeId _ | .insertResult rangeId _ => store.ranges.get? rangeId = none
  | _ => False

instance (store : Store) (command : Command) : Decidable (refuses store command) := by
  cases command <;> unfold refuses <;> infer_instance

/-- A drawn id is a new one. -/
def drawsUsed (choice : Choice) (store : Store) : Command → Prop
  | .insertRange .. => choice.rangeId ∈ store.issued
  | _ => False

instance (choice : Choice) (store : Store) (command : Command) : Decidable (drawsUsed choice store command) := by
  cases command <;> unfold drawsUsed <;> infer_instance

/-- `scanTickFetch` catches its errors, and `waitUntil` is local; every other call is remote. -/
def Command.remote : Command → Bool
  | .scanTickFetch _ | .waitUntil _ => false
  | _ => true

def exec (command : Command) (choice : Choice) (store : Store) : Option (Store × Except Thrown (Answer command)) :=
  if choice.now < store.clock ∨ drawsUsed choice store command then none
  else
    let timed := { store with clock := choice.clock command }
    let error : Thrown := .other "D1_ERROR"
    if command.remote = false then some (timed, .ok (answer choice timed command))
    else if refuses store command then some (timed, .error error)
    else some (choice.delivery.deliver error timed (effect choice timed command) (answer choice timed command))

/-! ## The programs -/

abbrev Async := Task Thrown Answer

/-- Await one command. -/
abbrev await (command : Command) : Async (Answer command) := perform command

def replaceScanRange (tenantId cidr : String) : Async (ParsedRange × String) := do
  let some parsed := parseCidr cidr
    | throw (.http ⟨400, "invalid_input", "Range must be an IPv4 or /24../32 CIDR"⟩)
  let old ← await (.listRanges tenantId)
  old.forM fun id => do
    await (.removeResults id)
    await (.removeRange id)
  let rangeId ← await (.insertRange tenantId parsed)
  return (parsed, rangeId)

structure ScanProgress where
  scanned : ℕ
  total : ℕ
  healthy : ℕ := 0
  fake : ℕ := 0
  wrong : ℕ := 0
  unreachable : ℕ := 0
deriving DecidableEq, Repr

def ScanProgress.count (progress : ScanProgress) : DnsVerdict → ScanProgress
  | .healthy => { progress with healthy := progress.healthy + 1 }
  | .fake => { progress with fake := progress.fake + 1 }
  | .wrong => { progress with wrong := progress.wrong + 1 }
  | .unreachable => { progress with unreachable := progress.unreachable + 1 }

/-- A stored probe is counted, and the address as scanned. -/
def ScanProgress.probed (progress : ScanProgress) (result : ProbeResult) : ScanProgress :=
  let counted := progress.count result.verdict
  { counted with scanned := counted.scanned + 1 }

/-- The `while` of `runScanTick`; the fuel bounds the waves. -/
def scanWaves (rangeId : String) (ips : List String) (budgetMs started : ℕ) :
    ℕ → ℕ → ℕ → ScanProgress → Async (ℕ × ScanProgress)
  | 0, cursor, _, progress => pure (cursor, progress)
  | fuel + 1, cursor, now, progress =>
    if cursor < ips.length ∧ now - started < budgetMs then do
      let wave := (ips.drop cursor).take 16
      let results ← await (.storeWave rangeId wave)
      let now ← await (.advanceCursor rangeId (cursor + wave.length))
      scanWaves rangeId ips budgetMs started fuel (cursor + wave.length) now (results.foldl .probed progress)
    else pure (cursor, progress)

/-- `runScanTick` from its second query on. -/
def scanFrom (rangeId : String) (ips : List String) (budgetMs cursor : ℕ) : Async (Bool × ScanProgress) := do
  let (before, started) ← await (.countResults rangeId)
  let progress := before.foldl .count { scanned := cursor, total := ips.length }
  let (cursor, progress) ← scanWaves rangeId ips budgetMs started ips.length cursor started progress
  if ips.length ≤ cursor then
    await (.finishRound rangeId)
    return (true, progress)
  else return (false, progress)

def runScanTick (rangeId : String) (budgetMs : ℕ) : Async (Bool × ScanProgress) := do
  let some row ← await (.selectRange rangeId)
    | throw (.http ⟨404, "not_found", "Scan range is gone"⟩)
  let some parsed := parseCidr row.cidr
    | throw (.http ⟨400, "invalid_input", "Stored range is invalid"⟩)
  if row.cursor = 0 then await (.clearResults rangeId)
  scanFrom rangeId parsed.ips budgetMs row.cursor

structure RangeScanSummary where
  total : ℕ
  healthy : ℕ
  fake : ℕ
  wrong : ℕ
  unreachable : ℕ
  top : List (String × Option ℕ)
deriving DecidableEq, Repr

def rangeRoundSummary (rangeId : String) : Async RangeScanSummary := do
  let stored ← await (.selectResults rangeId)
  let counted (verdict : DnsVerdict) := stored.countP (·.result.verdict = verdict)
  let healthy := (stored.filter (·.result.verdict = .healthy)).map fun item => (item.ip, item.result.rttMs)
  return {
    total := stored.length
    healthy := counted .healthy
    fake := counted .fake
    wrong := counted .wrong
    unreachable := counted .unreachable
    top := (healthy.mergeSort fun first second => first.2.getD 9999 ≤ second.2.getD 9999).take 8 }

/-- The ticks of the chain are kept running by `waitUntil`. -/
def advanceLiveScan (rangeId : String) : Async Unit :=
  tryCatch (do
    let tick ← runScanTick rangeId 8000
    if tick.1 then discard (rangeRoundSummary rangeId) else await (.waitUntil (.chainNextTick rangeId)))
    fun _ => pure ()

/-- The self-fetch, and the tick itself where the fetch fails. -/
def chainNextTick (rangeId : String) : Async Unit := do
  if ← await (.scanTickFetch rangeId) then pure () else advanceLiveScan rangeId

/-- The chat flow that creates a live range. -/
def dnsrange (tenantId text : String) : Async Unit :=
  tryCatch (do
    let (_, rangeId) ← replaceScanRange tenantId text
    let message ← await (.sendCard rangeId)
    await (.bindCard rangeId message)
    await (.waitUntil (.chainNextTick rangeId)))
    fun _ => pure ()

/-- One range of a pass of the cron. -/
def scanDueRange (range : String × RangeRow) : Async Unit :=
  match parseCidr range.2.cidr with
  | none => pure ()
  | some parsed => do
    let slice := (parsed.ips.drop range.2.cursor).take DNS_SCAN_CHUNK
    slice.forM fun ip => await (.insertResult range.1 ip)
    let nextCursor := range.2.cursor + slice.length
    if range.2.ips_total ≤ nextCursor then await (.completePass range.1)
    else await (.moveCursor range.1 nextCursor)

def scanDueRanges : Async Unit := do
  let due ← await .selectDue
  due.forM scanDueRange

def purgeOldDnsScans : Async Unit := await .purgeResults

/-- The `dns_scan` stage of the cron. -/
def dnsScan : Async Unit := do
  scanDueRanges
  purgeOldDnsScans

/-- The `live_scans` stage of the cron. -/
def liveScans : Async Unit := do
  let stalled ← await (.selectStalled 120000 3)
  stalled.forM fun rangeId => await (.waitUntil (.advanceLiveScan rangeId))

/-- What may start at any time. -/
inductive Operation where
  | dnsrange (tenantId text : String)
  | dnsScan
  | liveScans
deriving DecidableEq, Repr

def program : Operation → Async Unit
  | .dnsrange tenantId text => dnsrange tenantId text
  | .dnsScan => dnsScan
  | .liveScans => liveScans

def Job.program : Job → Async Unit
  | .chainNextTick rangeId => DnsCenter.chainNextTick rangeId
  | .advanceLiveScan rangeId => DnsCenter.advanceLiveScan rangeId

/-- `waitUntil` starts its job; a self-fetch that arrives is answered by `handleScanTick`, which starts
a tick. -/
def spawns (command : Command) (choice : Choice) : List (Async Unit) :=
  match command with
  | .waitUntil job => [job.program]
  | .scanTickFetch rangeId => if choice.delivery = .refused then [] else [advanceLiveScan rangeId]
  | _ => []

def host : Host Thrown Answer Unit Store Choice Operation where
  program := program
  exec := exec
  spawns := spawns

abbrev World := Lib.World Thrown Answer Unit Store

abbrev Event := Lib.Event Operation Choice

def initial : World := ⟨{}, []⟩

/-! ## One call -/

@[simp] theorem effect_clock {choice : Choice} {store : Store} {command : Command} :
    (effect choice store command).clock = store.clock := by
  cases command <;> rfl

/-- A call takes effect, with its answer lost or not, or it fails and only the clock has moved. -/
theorem exec_cases {command : Command} {choice : Choice} {store store' : Store} {reply : Except Thrown (Answer command)}
    (executed : exec command choice store = some (store', reply)) :
    store.clock ≤ choice.now ∧ ¬ drawsUsed choice store command ∧
      ((store' = effect choice { store with clock := choice.clock command } command ∧ ¬ refuses store command ∧
          (command.remote → choice.delivery ≠ .refused) ∧
          (reply = .ok (answer choice { store with clock := choice.clock command } command) ∨
            choice.delivery = .lost ∧ ∃ error, reply = .error error)) ∨
        store' = { store with clock := choice.clock command } ∧ (∃ error, reply = .error error) ∧
          (choice.delivery = .refused ∨ refuses store command)) := by
  rw [exec] at executed
  split at executed
  · contradiction
  · next possible =>
    rw [not_or, Nat.not_lt] at possible
    refine ⟨possible.1, possible.2, ?_⟩
    dsimp only at executed
    split at executed
    · next isLocal =>
      obtain ⟨rfl, rfl⟩ := Prod.mk.inj (Option.some.inj executed)
      refine .inl ⟨?_, ?_, fun remote => ?_, .inl rfl⟩
      · cases command <;> first | rfl | contradiction
      · cases command <;> first | exact id | contradiction
      · rw [isLocal] at remote
        contradiction
    · split at executed
      · next refused =>
        obtain ⟨rfl, rfl⟩ := Prod.mk.inj (Option.some.inj executed)
        exact .inr ⟨rfl, ⟨_, rfl⟩, .inr refused⟩
      · next kept =>
        cases delivery : choice.delivery with
        | answered =>
          rw [delivery] at executed
          obtain ⟨rfl, rfl⟩ := Prod.mk.inj (Option.some.inj executed)
          exact .inl ⟨rfl, kept, nofun, .inl rfl⟩
        | lost =>
          rw [delivery] at executed
          obtain ⟨rfl, rfl⟩ := Prod.mk.inj (Option.some.inj executed)
          exact .inl ⟨rfl, kept, nofun, .inr ⟨rfl, _, rfl⟩⟩
        | refused =>
          rw [delivery] at executed
          obtain ⟨rfl, rfl⟩ := Prod.mk.inj (Option.some.inj executed)
          exact .inr ⟨rfl, ⟨_, rfl⟩, .inl rfl⟩

/-- A remote call that hands a value back was answered. -/
theorem answered_of_ok {command : Command} {choice : Choice} {store store' : Store} {value : Answer command}
    (executed : exec command choice store = some (store', .ok value)) (remote : command.remote) :
    choice.delivery = .answered := by
  rw [exec] at executed
  split at executed
  · contradiction
  · dsimp only at executed
    rw [if_neg (by simpa using remote)] at executed
    split at executed
    · cases (Prod.mk.inj (Option.some.inj executed)).2
    · cases delivery : choice.delivery with
      | answered => rfl
      | lost | refused =>
        rw [delivery] at executed
        cases (Prod.mk.inj (Option.some.inj executed)).2

/-- The range that a statement updates, and how. -/
def Command.update (choice : Choice) : Command → Option (String × (RangeRow → RangeRow))
  | .bindCard rangeId message => some (rangeId, fun row => { row with live_message_id := message })
  | .advanceCursor rangeId cursor => some (rangeId, fun row =>
      { row with cursor := cursor, last_scan_at := some choice.now, active_at := choice.now })
  | .finishRound rangeId => some (rangeId, fun row =>
      { row with cursor := 0, finished_at := some choice.now, last_scan_at := some choice.later
                 active_at := choice.later })
  | .moveCursor rangeId cursor => some (rangeId, fun row => { row with cursor := cursor, active_at := choice.now })
  | .completePass rangeId => some (rangeId, fun row =>
      { row with cursor := 0, last_scan_at := some choice.now, finished_at := some choice.later
                 active_at := choice.later })
  | _ => none

section

variable {command : Command} {choice : Choice} {store store' : Store} {rangeId : String} {row' : RangeRow}

theorem effect_ranges_of_update {update : String × (RangeRow → RangeRow)}
    (updates : command.update choice = some update) :
    (effect choice store command).ranges = store.ranges.modify update.1 update.2 := by
  cases command <;> first | (obtain rfl := Option.some.inj updates; rfl) | contradiction

/-- Without an `UPDATE`, a stored range is an old one or a new one. -/
theorem ranges_of_no_update (noUpdate : command.update choice = none)
    (found : (effect choice store command).ranges.get? rangeId = some row') :
    store.ranges.get? rangeId = some row' ∨
      ∃ tenantId parsed, command = .insertRange tenantId parsed ∧ rangeId = choice.rangeId ∧
        row' = .create tenantId parsed choice.now := by
  cases command with
  | removeRange rangeId => exact .inl (OrderedMap.get?_filter_eq_some_iff.mp found).1
  | insertRange tenantId parsed =>
    simp only [effect, OrderedMap.get?_alter] at found
    split at found
    · next same => exact .inr ⟨tenantId, parsed, rfl, same, (Option.some.inj found).symm⟩
    · exact .inl found
  | bindCard _ _ | advanceCursor _ _ | finishRound _ | moveCursor _ _ | completePass _ => contradiction
  | _ => exact .inl found

/-- A stored range is an old one, an updated one or a new one. -/
theorem row_cases {reply : Except Thrown (Answer command)}
    (executed : exec command choice store = some (store', reply))
    (found : store'.ranges.get? rangeId = some row') :
    store.ranges.get? rangeId = some row' ∨
      (∃ f row, command.update choice = some (rangeId, f) ∧ store.ranges.get? rangeId = some row ∧ row' = f row) ∨
      ∃ tenantId parsed, command = .insertRange tenantId parsed ∧ rangeId = choice.rangeId ∧
        row' = .create tenantId parsed choice.now := by
  obtain ⟨-, -, ⟨rfl, -⟩ | ⟨rfl, -⟩⟩ := exec_cases executed
  · cases updates : command.update choice with
    | none =>
      rcases ranges_of_no_update updates found with old | new
      · exact .inl old
      · exact .inr (.inr new)
    | some update =>
      rw [effect_ranges_of_update updates, OrderedMap.get?_modify] at found
      split at found
      · next same =>
        obtain ⟨row, old, rfl⟩ := Option.map_eq_some_iff.mp found
        exact .inr (.inl ⟨update.2, row, same ▸ rfl, same ▸ old, rfl⟩)
      · exact .inl found
  · exact .inl found

end

/-! ## The loop of a tick -/

/-- Every wave moves the cursor, so as much fuel as there are addresses left never runs out. -/
theorem scanWaves_fuel {rangeId : String} {ips : List String} {budgetMs started fuel cursor now : ℕ}
    {progress : ScanProgress} (enough : ips.length - cursor ≤ fuel) :
    scanWaves rangeId ips budgetMs started (fuel + 1) cursor now progress =
      scanWaves rangeId ips budgetMs started fuel cursor now progress := by
  induction fuel generalizing cursor now progress with
  | zero =>
    have finished : ¬ (cursor < ips.length ∧ now - started < budgetMs) := by omega
    rw [scanWaves, scanWaves, if_neg finished]
  | succ fuel ih =>
    rw [scanWaves, scanWaves]
    split
    · next more =>
      have moved : 0 < ((ips.drop cursor).take 16).length := by
        rw [List.length_take, List.length_drop]
        omega
      have fewer : ips.length - (cursor + ((ips.drop cursor).take 16).length) ≤ fuel := by omega
      simp only [ih fewer]
    · rfl

namespace Sample

/-- A chat asks at 1000 for one address, and the chain is armed. -/
def created : List Event :=
  [.start (.dnsrange "tenant" "10.0.0.1"),
   .act 0 { now := 1000 }, .act 0 { now := 1000, rangeId := "range" }, .act 0 { now := 1000, message := some 7 },
   .act 0 { now := 1000 }, .act 0 { now := 1000 }]

/-- The self-fetch is refused, and the tick runs directly. -/
def finished : List Event :=
  created ++ ([.act 1 { now := 1000, delivery := .refused, ok := false }, .act 1 { now := 2500 },
    .act 1 { now := 2500 }, .act 1 { now := 2500 }, .act 1 { now := 2600 }, .act 1 { now := 2600 },
    .act 1 { now := 2600 }, .act 1 { now := 2600 }] : List Event)

/-- The self-fetch arrives and its answer is lost: a second tick is armed, and the first runs directly. -/
def armedTwice : List Event := created ++ ([.act 1 { now := 1000, delivery := .lost, ok := false }] : List Event)

end Sample

end OmniControlPlane.DnsCenter
