import OmniControlPlane.Lib.Meter
import OmniControlPlane.Panel.Tunnel

/-! # What a tunnel reports

A tunnel is a meter: every step writes a chunk, receives one, or settles. It reports in `finish`,
which the pump may call while a write is still under way, and it counts what the pump reads also when
the client is no longer there to take it.
-/

namespace OmniControlPlane.Panel

open Lib Machine

/-- The upstream bytes of a message to the client. -/
def Frame.bytes : Frame → Bytes
  | .version _ => []
  | .data value => value

/-- The chunk that a write has under way. -/
def Sink.bytes : Sink → Bytes
  | .payload bytes | .pending bytes | .chunk bytes => bytes
  | _ => []

namespace Tunnel

def writtenBytes (tunnel : Tunnel) : ℕ := (tunnel.written.map (·.length)).sum

def sentBytes (tunnel : Tunnel) : ℕ := (tunnel.sent.map (·.bytes.length)).sum

/-- The reports for the user of the tunnel. -/
def userReports (tunnel : Tunnel) : List Report := tunnel.reports.filter (·.user = tunnel.user.username)

def reportedUp (tunnel : Tunnel) : ℕ := (tunnel.userReports.map (·.up)).sum

def reportedDown (tunnel : Tunnel) : ℕ := (tunnel.userReports.map (·.down)).sum

/-- What was reported is what was written and what was sent. -/
def Billed (tunnel : Tunnel) : Prop :=
  tunnel.reportedUp = tunnel.writtenBytes ∧ tunnel.reportedDown = tunnel.sentBytes

/-- The tunnel has finished, its sink has ended, and its pump has ended or was never started. -/
structure Stopped (tunnel : Tunnel) : Prop where
  finished : tunnel.finished = true
  sink : tunnel.sink = .ended
  pump : tunnel.pump ≠ .reading

def meter (tunnel : Tunnel) : Meter where
  isOpen := tunnel.isOpen
  finished := tunnel.finished
  up := tunnel.up
  down := tunnel.down
  written := tunnel.writtenBytes
  sent := tunnel.sentBytes
  reportedUp := tunnel.reportedUp
  reportedDown := tunnel.reportedDown

/-- Nothing is reported before the tunnel finishes, and one report then. -/
structure ReportsOnce (tunnel : Tunnel) : Prop where
  unfinished : tunnel.finished = false → tunnel.reports = []
  once : tunnel.reports.length ≤ 1

/-- A step that moves no byte. -/
def Settled (ledger : Bool) (before after : Tunnel) : Prop :=
  before.ReportsOnce → after.ReportsOnce ∧ before.meter.Settles ledger after.meter

variable {platform : Platform} {ledger : Bool} {before mid after tunnel : Tunnel}

theorem Settled.trans (first : Settled ledger before mid) (second : Settled ledger mid after) :
    Settled ledger before after := by
  intro once
  obtain ⟨midOnce, midSettles⟩ := first once
  obtain ⟨afterOnce, afterSettles⟩ := second midOnce
  exact ⟨afterOnce, midSettles.trans afterSettles⟩

theorem ReportsOnce.of_same (finished : after.finished = before.finished) (reports : after.reports = before.reports)
    (once : before.ReportsOnce) : after.ReportsOnce := by
  constructor
  · rw [finished, reports]
    exact once.unfinished
  · rw [reports]
    exact once.once

/-- What a meter does not see. -/
theorem Settled.of_same (meter : after.meter = before.meter) (reports : after.reports = before.reports) :
    Settled ledger before after := by
  intro once
  have finished : after.finished = before.finished := congrArg Meter.finished meter
  exact ⟨once.of_same finished reports, meter ▸ .same⟩

/-- The counts of the report, or zero when there is nothing to report. -/
theorem meter_finish (once : tunnel.ReportsOnce) :
    (tunnel.finish platform).meter = tunnel.meter.finish platform.ledger := by
  cases ended : tunnel.finished with
  | true => simp [finish, Meter.finish, meter, ended]
  | false =>
    have none := once.unfinished ended
    cases bound : platform.ledger with
    | false => simp [finish, Meter.finish, meter, writtenBytes, sentBytes, userReports, reportedUp, reportedDown,
        ended, none, bound]
    | true =>
      by_cases idle : tunnel.up = 0 ∧ tunnel.down = 0
      · simp [finish, Meter.finish, meter, writtenBytes, sentBytes, userReports, reportedUp, reportedDown,
          ended, none, bound, idle]
      · have some : tunnel.up ≠ 0 ∨ tunnel.down ≠ 0 := by omega
        simp [finish, Meter.finish, meter, writtenBytes, sentBytes, userReports, reportedUp, reportedDown,
          ended, none, bound, some]

theorem ReportsOnce.finish (once : tunnel.ReportsOnce) : (tunnel.finish platform).ReportsOnce := by
  unfold Tunnel.finish
  cases ended : tunnel.finished with
  | true => exact once
  | false =>
    constructor
    · nofun
    · simp only [Bool.false_eq_true, if_false, once.unfinished ended]
      split <;> simp

theorem finish_settled : Settled platform.ledger tunnel (tunnel.finish platform) := by
  intro once
  rw [meter_finish once]
  exact ⟨once.finish, .finish .same⟩

theorem fail_settled : Settled platform.ledger tunnel (tunnel.fail platform) :=
  finish_settled.trans (.of_same rfl rfl)

theorem writeToUpstream_settled (awaits : Sink) :
    Settled platform.ledger tunnel (tunnel.writeToUpstream platform awaits) := by
  unfold writeToUpstream
  split
  · exact fail_settled
  · exact .of_same rfl rfl

theorem flushPending_settled : Settled platform.ledger tunnel (tunnel.flushPending platform) := by
  unfold flushPending
  split
  · apply Settled.trans _ (writeToUpstream_settled _)
    exact .of_same rfl rfl
  · exact .of_same rfl rfl

theorem write_settled (chunk : Bytes) : Settled platform.ledger tunnel (tunnel.write platform chunk) := by
  unfold Tunnel.write
  split
  · exact writeToUpstream_settled _
  · split
    · exact .of_same rfl rfl
    · split
      · apply Settled.trans _ fail_settled
        exact .of_same rfl rfl
      · exact .of_same rfl rfl

/-- The version of the header is no byte of the upstream. -/
theorem greet_settled (header : VlessHeader) (payload : Bytes) :
    Settled platform.ledger tunnel (tunnel.greet platform header payload) := by
  have greeted : Settled platform.ledger tunnel
      (if tunnel.isOpen then { tunnel with sent := tunnel.sent ++ [Frame.version header.version] } else tunnel) := by
    split
    · apply Settled.of_same
      · simp [meter, writtenBytes, sentBytes, userReports, reportedUp, reportedDown, Frame.bytes]
      · rfl
    · exact .of_same rfl rfl
  unfold greet
  dsimp only
  split
  · exact greeted.trans flushPending_settled
  · exact greeted.trans (writeToUpstream_settled _)

/-- The WebSocket closes. -/
theorem close_settled (meter : after.meter = before.meter.close) (reports : after.reports = before.reports) :
    Settled ledger before after := by
  intro once
  have finished : after.finished = before.finished := congrArg Meter.finished meter
  exact ⟨once.of_same finished reports, meter ▸ .close .same⟩

theorem unreachable_settled : Settled platform.ledger tunnel (tunnel.unreachable platform) := by
  apply Settled.trans _ fail_settled
  exact close_settled rfl rfl

theorem enqueue_settled (data : Bytes) : Settled ledger tunnel (tunnel.enqueue data) := by
  unfold enqueue
  split <;> exact .of_same rfl rfl

theorem errorSource_settled : Settled ledger tunnel tunnel.errorSource := by
  unfold errorSource
  split <;> exact .of_same rfl rfl

theorem closeSource_settled : Settled ledger tunnel tunnel.closeSource := by
  unfold closeSource
  split <;> exact .of_same rfl rfl

/-- The meter after the bytes that an event moves. -/
def metered (tunnel : Tunnel) : TunnelEvent → Meter
  | .written true => tunnel.meter.write tunnel.sink.bytes.length
  | .received value => tunnel.meter.receive value.length
  | _ => tunnel.meter

theorem meter_report (chunk : Bytes) : (tunnel.report chunk).meter = tunnel.meter.write chunk.length := by
  have written : (tunnel.report chunk).writtenBytes = tunnel.writtenBytes + chunk.length := by
    simp [report, writtenBytes]
  unfold meter Meter.write
  rw [written]
  rfl

theorem meter_received (value : Bytes) :
    meter { tunnel with
      down := tunnel.down + value.length
      sent := if tunnel.isOpen then tunnel.sent ++ [Frame.data value] else tunnel.sent } =
      tunnel.meter.receive value.length := by
  cases isOpen : tunnel.isOpen with
  | true =>
    have sent : sentBytes { tunnel with sent := tunnel.sent ++ [Frame.data value] } =
        tunnel.sentBytes + value.length := by simp [sentBytes, Frame.bytes]
    simp only [meter, Meter.receive, isOpen, if_true]
    rw [← sent]
    rfl
  | false =>
    simp only [meter, Meter.receive, isOpen, Bool.false_eq_true, if_false]
    rfl

/-- A step of the sink that awaits a write. -/
theorem meter_written {ok : Bool} (once : before.ReportsOnce)
    (stepped : before.step? platform (.written ok) = some after) :
    after.ReportsOnce ∧ (before.metered (.written ok)).Settles platform.ledger after.meter := by
  cases ok with
  | false =>
    simp only [step?, Bool.false_eq_true, if_false] at stepped
    split at stepped
    · obtain rfl := Option.some.inj stepped
      exact fail_settled once
    · obtain rfl := Option.some.inj stepped
      exact fail_settled once
    · obtain rfl := Option.some.inj stepped
      exact fail_settled once
    · contradiction
  | true =>
    have reported (chunk : Bytes) (awaits : before.sink.bytes = chunk) :
        before.metered (.written true) = (before.report chunk).meter := by
      rw [meter_report, metered, awaits]
    have once' (chunk : Bytes) : (before.report chunk).ReportsOnce := ⟨once.unfinished, once.once⟩
    simp only [step?, if_true] at stepped
    split at stepped
    · next chunk sink =>
      obtain rfl := Option.some.inj stepped
      rw [reported chunk (congrArg Sink.bytes sink)]
      exact flushPending_settled (once' chunk)
    · next chunk sink =>
      obtain rfl := Option.some.inj stepped
      rw [reported chunk (congrArg Sink.bytes sink)]
      exact flushPending_settled (once' chunk)
    · next chunk sink =>
      obtain rfl := Option.some.inj stepped
      rw [reported chunk (congrArg Sink.bytes sink)]
      exact Settled.of_same rfl rfl (once' chunk)
    · contradiction

/-- What one event does to the meter: it moves its bytes, then the tunnel may settle. -/
theorem meter_step {event : TunnelEvent} (once : before.ReportsOnce)
    (stepped : before.step? platform event = some after) :
    after.ReportsOnce ∧ (before.metered event).Settles platform.ledger after.meter := by
  cases event with
  | written ok => exact meter_written once stepped
  | received value =>
    simp only [step?] at stepped
    split at stepped
    · obtain rfl := Option.some.inj stepped
      constructor
      · exact ⟨once.unfinished, once.once⟩
      · rw [meter_received value]
        exact .same
    · contradiction
  | message data =>
    simp only [step?] at stepped
    split at stepped
    · contradiction
    · obtain rfl := Option.some.inj stepped
      exact Settled.of_same rfl rfl once
  | converted index =>
    obtain ⟨data, _, rfl⟩ := Option.map_eq_some_iff.mp stepped
    have erased : Settled platform.ledger before { before with converting := before.converting.eraseIdx index } :=
      .of_same rfl rfl
    exact erased.trans (enqueue_settled data) once
  | unreadable index =>
    obtain ⟨data, _, rfl⟩ := Option.map_eq_some_iff.mp stepped
    have erased : Settled platform.ledger before { before with converting := before.converting.eraseIdx index } :=
      .of_same rfl rfl
    exact erased.trans errorSource_settled once
  | clientCloses =>
    simp only [step?] at stepped
    split at stepped
    · contradiction
    · obtain rfl := Option.some.inj stepped
      exact closeSource_settled.trans (close_settled rfl rfl) once
  | clientFails =>
    simp only [step?] at stepped
    split at stepped
    · contradiction
    · obtain rfl := Option.some.inj stepped
      exact errorSource_settled.trans (close_settled rfl rfl) once
  | pull =>
    simp only [step?] at stepped
    split at stepped
    · next chunk rest _ _ =>
      obtain rfl := Option.some.inj stepped
      have taken : Settled platform.ledger before { before with queue := rest } := .of_same rfl rfl
      exact taken.trans (write_settled chunk) once
    · contradiction
  | resolved answer pick =>
    simp only [step?] at stepped
    split at stepped
    · split at stepped
      · obtain rfl := Option.some.inj stepped
        exact fail_settled once
      · obtain rfl := Option.some.inj stepped
        exact Settled.of_same rfl rfl once
    · contradiction
  | connected ok =>
    simp only [step?] at stepped
    split at stepped
    · split at stepped
      · obtain rfl := Option.some.inj stepped
        exact Settled.of_same rfl rfl once
      · obtain rfl := Option.some.inj stepped
        exact fail_settled once
    · contradiction
  | opened throws =>
    simp only [step?] at stepped
    split at stepped
    · next header payload _ =>
      split at stepped
      · split at stepped
        · contradiction
        · obtain rfl := Option.some.inj stepped
          exact fail_settled once
      · obtain rfl := Option.some.inj stepped
        exact greet_settled header payload once
    · contradiction
  | unreachable =>
    simp only [step?] at stepped
    split at stepped
    · obtain rfl := Option.some.inj stepped
      exact unreachable_settled once
    · contradiction
  | streamEnds =>
    simp only [step?] at stepped
    split at stepped
    · obtain rfl := Option.some.inj stepped
      exact finish_settled.trans (.of_same rfl rfl) once
    · contradiction
  | upstreamEnds =>
    simp only [step?] at stepped
    split at stepped
    · obtain rfl := Option.some.inj stepped
      exact finish_settled.trans (.of_same rfl rfl) once
    · contradiction

/-- The bytes that an event moves are in the report of `finish`: a write completes before it, and a
chunk is read while the client takes it, or after it. Without a ledger no bytes may move at all. -/
def Counted (platform : Platform) (tunnel : Tunnel) : TunnelEvent → Prop
  | .written true => tunnel.sink.bytes = [] ∨ platform.ledger = true ∧ tunnel.finished = false
  | .received value => value = [] ∨
      if platform.ledger then tunnel.finished = true ∨ tunnel.isOpen = true else tunnel.isOpen = false
  | _ => True

/-- The invariant of a tunnel that is metered. -/
structure Accounted (platform : Platform) (tunnel : Tunnel) : Prop where
  once : tunnel.ReportsOnce
  sound : tunnel.meter.Sound platform.ledger

theorem accounted_new {user : User} {device : String} {request : WebSocketRequest} :
    (accepted user device request).Accounted platform where
  once := ⟨fun _ => rfl, Nat.zero_le _⟩
  sound := Meter.sound_new

/-- The gap grows exactly over an event that is not counted. -/
theorem Accounted.step {event : TunnelEvent} (accounted : before.Accounted platform)
    (stepped : before.step? platform event = some after) :
    after.Accounted platform ∧ before.meter.gap platform.ledger ≤ after.meter.gap platform.ledger ∧
      (after.meter.gap platform.ledger = before.meter.gap platform.ledger ↔ Counted platform before event) := by
  obtain ⟨once, settles⟩ := meter_step accounted.once stepped
  have quiet (same : before.metered event = before.meter) (counted : Counted platform before event) :
      after.Accounted platform ∧ before.meter.gap platform.ledger ≤ after.meter.gap platform.ledger ∧
        (after.meter.gap platform.ledger = before.meter.gap platform.ledger ↔ Counted platform before event) := by
    rw [same] at settles
    obtain ⟨sound, level⟩ := accounted.sound.settles settles
    exact ⟨⟨once, sound⟩, level.ge, iff_of_true level counted⟩
  cases event with
  | written ok =>
    cases ok with
    | false => exact quiet rfl trivial
    | true =>
      obtain ⟨sound, level⟩ := (accounted.sound.write before.sink.bytes.length).settles settles
      obtain ⟨grows, same⟩ := Meter.gap_write accounted.sound before.sink.bytes.length
      rw [List.length_eq_zero_iff] at same
      rw [level]
      exact ⟨⟨once, sound⟩, grows, same⟩
  | received value =>
    obtain ⟨sound, level⟩ := (accounted.sound.receive value.length).settles settles
    obtain ⟨grows, same⟩ := Meter.gap_receive accounted.sound value.length
    rw [List.length_eq_zero_iff] at same
    rw [level]
    exact ⟨⟨once, sound⟩, grows, same⟩
  | message | converted | unreadable | clientCloses | clientFails | pull | resolved | connected | opened
    | unreachable | streamEnds | upstreamEnds => exact quiet rfl trivial

end Tunnel

section

variable {platform : Platform} {user : User} {device : String} {request : WebSocketRequest} {events : List TunnelEvent}
  {stopped : Tunnel}

theorem accounted_of_run (run : (tunnel platform).Run Free (.accepted user device request) events stopped) :
    stopped.Accounted platform :=
  run.preserves (Tunnel.Accounted platform) (fun _ _ _ accounted _ stepped => (accounted.step stepped).1)
    Tunnel.accounted_new

/-- A tunnel reports at most once. -/
theorem reported_once (run : (tunnel platform).Run Free (.accepted user device request) events stopped) :
    stopped.reports.length ≤ 1 := (accounted_of_run run).once.once

/-- A stopped tunnel has reported what it has forwarded exactly when every event of its run was
counted. -/
theorem billed_iff (run : (tunnel platform).Run Free (.accepted user device request) events stopped)
    (stops : stopped.Stopped) :
    stopped.Billed ↔
      (tunnel platform).Run (Tunnel.Counted platform) (.accepted user device request) events stopped := by
  have new : (Tunnel.accepted user device request).meter.gap platform.ledger = 0 := by
    change Meter.gap platform.ledger {} = 0
    cases platform.ledger <;> rfl
  have level := (run.level_iff (Tunnel.Counted platform) (Tunnel.Accounted platform)
    (fun tunnel => tunnel.meter.gap platform.ledger) (fun _ _ _ accounted stepped => accounted.step stepped)
    Tunnel.accounted_new).2
  rw [new] at level
  exact (Meter.exact_iff (accounted_of_run run).sound stops.finished).trans level

end

namespace Sample

def user : User := hydrate "user0" { uuid := uuid, quota_gb := 1 } 0

/-- An upgrade without early data. -/
def request : WebSocketRequest := { upgrade := some "websocket", pathname := "/" ++ uuid }

/-- The tunnel opens and writes the two bytes behind the header. -/
def openingEvents : List TunnelEvent :=
  [.message (header ++ [1, 2]), .converted 0, .pull, .resolved (.error "") 0, .connected true, .opened false,
    .written true]

/-- The client sends a chunk, the upstream answers, and the upstream ends. -/
def answeredEvents : List TunnelEvent :=
  openingEvents ++ [TunnelEvent.message [3, 4, 5], .converted 0, .pull, .written true, .received [6, 7], .upstreamEnds,
    .clientCloses, .streamEnds]

/-- The upstream ends while the chunk is under way, and the write then completes. -/
def overtakenEvents : List TunnelEvent :=
  openingEvents ++ [TunnelEvent.message [3, 4, 5], .converted 0, .pull, .upstreamEnds, .written true, .clientCloses, .streamEnds]

end Sample

instance (tunnel : Tunnel) : Decidable tunnel.Stopped :=
  decidable_of_iff (tunnel.finished = true ∧ tunnel.sink = .ended ∧ tunnel.pump ≠ .reading)
    ⟨fun ⟨finished, sink, pump⟩ => ⟨finished, sink, pump⟩, fun stopped => ⟨stopped.finished, stopped.sink, stopped.pump⟩⟩

/-- Five bytes up and two down. -/
theorem billed_iff_sample : ∃ stopped, (tunnel Sample.platform).Run (Tunnel.Counted Sample.platform)
    (.accepted Sample.user "device" Sample.request) Sample.answeredEvents stopped ∧ stopped.Stopped ∧
      stopped.reports = [⟨"user0", 5, 2, "device"⟩] := by
  have evaluated : ((tunnel Sample.platform).replay? (.accepted Sample.user "device" Sample.request)
      Sample.answeredEvents).any (fun stopped => decide (stopped.Stopped ∧
        (stopped.reportedUp = stopped.writtenBytes ∧ stopped.reportedDown = stopped.sentBytes) ∧
        stopped.reports = [⟨"user0", 5, 2, "device"⟩])) = true := by decide +kernel
  obtain ⟨stopped, replayed, checked⟩ := (Option.any_eq_true _ _).mp evaluated
  obtain ⟨stops, billed, reports⟩ := of_decide_eq_true checked
  exact ⟨stopped, (billed_iff (Run.free_iff_replay.mpr replayed) stops).mp billed, stops, reports⟩

/-- Five bytes are written, two of them before the report. -/
theorem late_write_unreported : ∃ stopped, (tunnel Sample.platform).Run Free
    (.accepted Sample.user "device" Sample.request) Sample.overtakenEvents stopped ∧ stopped.Stopped ∧
      stopped.reports = [⟨"user0", 2, 0, "device"⟩] ∧ stopped.writtenBytes = 5 ∧ ¬ stopped.Billed := by
  have evaluated : ((tunnel Sample.platform).replay? (.accepted Sample.user "device" Sample.request)
      Sample.overtakenEvents).any (fun stopped => decide (stopped.Stopped ∧
        stopped.reports = [⟨"user0", 2, 0, "device"⟩] ∧ stopped.writtenBytes = 5 ∧
        stopped.reportedUp ≠ stopped.writtenBytes)) = true := by decide +kernel
  obtain ⟨stopped, replayed, checked⟩ := (Option.any_eq_true _ _).mp evaluated
  obtain ⟨stops, reports, written, unbilled⟩ := of_decide_eq_true checked
  exact ⟨stopped, Run.free_iff_replay.mpr replayed, stops, reports, written, fun billed => unbilled billed.1⟩

end OmniControlPlane.Panel
