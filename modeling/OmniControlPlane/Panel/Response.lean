import OmniControlPlane.Panel.Header
import OmniControlPlane.Panel.Tunnel

/-! # What a tunnel answers its client

The version byte goes out once, when the upstream is open, and what the upstream sends follows it. A
header with the command of UDP never gets so far: its forwarder is not imported.
-/

namespace OmniControlPlane.Panel

open Lib Machine

/-- What the upstream sends at an event. -/
def TunnelEvent.value : TunnelEvent → List Bytes
  | .received value => [value]
  | _ => []

/-- Nothing, or the version byte and then a first part of what the upstream has sent. -/
def Answer (values : List Bytes) (sent : List Frame) : Prop :=
  sent = [] ∨ ∃ datas, datas <+: values ∧ sent = .version 0 :: datas.map .data

/-- Only version 0 is read. -/
theorem parseVlessHeader_version {buf : List UInt8} {header : VlessHeader}
    (parsed : parseVlessHeader buf = .ok header) : header.version = 0 := by
  rw [parseVlessHeader] at parsed
  dsimp only at parsed
  split at parsed
  · contradiction
  · split at parsed
    · contradiction
    · next version =>
      split at parsed
      · contradiction
      · split at parsed
        · contradiction
        · rw [← Except.ok.inj parsed]
          exact not_not.mp version

/-! ## The phases of a tunnel -/

/-- The sink dials; nothing is sent before that is over. -/
def Dialing : Sink → Prop
  | .resolving .. | .connecting .. | .opening .. => True
  | _ => False

namespace Tunnel

/-- Before the upstream is open: the sink waits for the header, dials, or has ended. -/
def Hears (tunnel : Tunnel) : Prop :=
  match tunnel.sink with
  | .idle => tunnel.remoteSocket = none
  | .resolving header _ | .connecting header _ _ => header.version = 0 ∧ tunnel.opening = true
  | .opening header _ => header.version = 0 ∧ tunnel.opening = true ∧ tunnel.remoteSocket.isSome = true
  | .ended => True
  | _ => False

/-- Nothing is sent yet. -/
structure Silent (values : List Bytes) (tunnel : Tunnel) : Prop where
  sent : tunnel.sent = []
  values : values = []
  pump : tunnel.pump = .waiting
  hears : tunnel.Hears

/-- The upstream is open: all that it has sent is passed on, unless the client is gone. -/
structure Greeted (values : List Bytes) (tunnel : Tunnel) : Prop where
  answer : Answer values tunnel.sent
  complete : tunnel.isOpen = true → tunnel.sent = .version 0 :: values.map .data
  connected : tunnel.remoteSocket.isSome = true
  begun : tunnel.opening = true
  past : ¬ Dialing tunnel.sink

/-- A step that sends nothing. The sink stays, ends, or writes to an open upstream. -/
structure Mute (before after : Tunnel) : Prop where
  sent : after.sent = before.sent
  isOpen : after.isOpen = true → before.isOpen = true
  remoteSocket : after.remoteSocket = before.remoteSocket
  opening : after.opening = before.opening
  past : ¬ Dialing before.sink → ¬ Dialing after.sink

/-- A mute step whose sink stays or ends, and whose pump does not start. -/
structure Idle (before after : Tunnel) : Prop extends Mute before after where
  pump : before.pump = .waiting → after.pump = .waiting
  sink : after.sink = before.sink ∨ after.sink = .ended

variable {platform : Platform} {user : User} {values : List Bytes} {before mid after tunnel : Tunnel}

theorem Mute.trans (first : Mute before mid) (second : Mute mid after) : Mute before after where
  sent := second.sent.trans first.sent
  isOpen := first.isOpen ∘ second.isOpen
  remoteSocket := second.remoteSocket.trans first.remoteSocket
  opening := second.opening.trans first.opening
  past := second.past ∘ first.past

theorem Idle.trans (first : Idle before mid) (second : Idle mid after) : Idle before after where
  toMute := first.toMute.trans second.toMute
  pump := second.pump ∘ first.pump
  sink := by
    rcases second.sink with same | ended
    · rw [same]
      exact first.sink
    · exact .inr ended

theorem Greeted.mute (greeted : before.Greeted values) (mute : Mute before after) : after.Greeted values where
  answer := by
    rw [mute.sent]
    exact greeted.answer
  complete := by
    intro still
    rw [mute.sent]
    exact greeted.complete (mute.isOpen still)
  connected := by
    rw [mute.remoteSocket]
    exact greeted.connected
  begun := by
    rw [mute.opening]
    exact greeted.begun
  past := mute.past greeted.past

theorem Silent.idle (silent : before.Silent values) (idle : Idle before after) : after.Silent values where
  sent := idle.sent.trans silent.sent
  values := silent.values
  pump := idle.pump silent.pump
  hears := by
    have hears := silent.hears
    rcases idle.sink with same | ended
    · rw [Hears] at hears ⊢
      rw [same, idle.remoteSocket, idle.opening]
      exact hears
    · rw [Hears, ended]
      trivial

/-! ### Mute steps -/

theorem idle_of_same (sent : after.sent = before.sent) (isOpen : after.isOpen = true → before.isOpen = true)
    (remoteSocket : after.remoteSocket = before.remoteSocket) (opening : after.opening = before.opening)
    (pump : after.pump = before.pump) (sink : after.sink = before.sink) : Idle before after where
  sent := sent
  isOpen := isOpen
  remoteSocket := remoteSocket
  opening := opening
  past := by
    rw [sink]
    exact id
  pump := fun waits => pump.trans waits
  sink := .inl sink

theorem finish_idle : Idle tunnel (tunnel.finish platform) := by
  unfold finish
  split
  · exact idle_of_same rfl id rfl rfl rfl rfl
  · exact idle_of_same rfl nofun rfl rfl rfl rfl

theorem fail_idle : Idle tunnel (tunnel.fail platform) := by
  apply finish_idle.trans
  exact ⟨⟨rfl, id, rfl, rfl, fun _ => id⟩, id, .inr rfl⟩

theorem unreachable_idle : Idle tunnel (tunnel.unreachable platform) := by
  apply Idle.trans _ fail_idle
  exact idle_of_same rfl nofun rfl rfl rfl rfl

theorem enqueue_idle (data : Bytes) : Idle tunnel (tunnel.enqueue data) := by
  unfold enqueue
  split <;> exact idle_of_same rfl id rfl rfl rfl rfl

theorem errorSource_idle : Idle tunnel tunnel.errorSource := by
  unfold errorSource
  split <;> exact idle_of_same rfl id rfl rfl rfl rfl

theorem closeSource_idle : Idle tunnel tunnel.closeSource := by
  unfold closeSource
  split <;> exact idle_of_same rfl id rfl rfl rfl rfl

theorem writeToUpstream_mute {awaits : Sink} (past : ¬ Dialing awaits) :
    Mute tunnel (tunnel.writeToUpstream platform awaits) := by
  unfold writeToUpstream
  split
  · exact fail_idle.toMute
  · exact ⟨rfl, id, rfl, rfl, fun _ => past⟩

theorem flushPending_mute : Mute tunnel (tunnel.flushPending platform) := by
  unfold flushPending
  split
  · next chunk rest _ =>
    have taken : Mute tunnel { tunnel with pendingChunks := rest } := ⟨rfl, id, rfl, rfl, id⟩
    exact taken.trans (writeToUpstream_mute id)
  · exact ⟨rfl, id, rfl, rfl, fun _ => id⟩

theorem report_mute (chunk : Bytes) : Mute tunnel (tunnel.report chunk) := ⟨rfl, id, rfl, rfl, id⟩

theorem fail_past : ¬ Dialing (tunnel.fail platform).sink := id

theorem writeToUpstream_past {awaits : Sink} (past : ¬ Dialing awaits) :
    ¬ Dialing (tunnel.writeToUpstream platform awaits).sink := by
  unfold writeToUpstream
  split
  · exact fail_past
  · exact past

theorem flushPending_past : ¬ Dialing (tunnel.flushPending platform).sink := by
  unfold flushPending
  split
  · exact writeToUpstream_past id
  · exact id

/-! ### Steps -/

/-- What is known of a greeted client, before the sink moves on. -/
private theorem greeted_of_mute (mute : Mute mid after) (past : ¬ Dialing after.sink) (answer : Answer values mid.sent)
    (complete : mid.isOpen = true → mid.sent = .version 0 :: values.map .data)
    (connected : mid.remoteSocket.isSome = true) (begun : mid.opening = true) : after.Greeted values where
  answer := by
    rw [mute.sent]
    exact answer
  complete := by
    intro still
    rw [mute.sent]
    exact complete (mute.isOpen still)
  connected := by
    rw [mute.remoteSocket]
    exact connected
  begun := by
    rw [mute.opening]
    exact begun
  past := past

/-- The upstream is open: the version byte goes to a client that is still there. -/
theorem Silent.greet (silent : tunnel.Silent values) {header : VlessHeader} (version : header.version = 0)
    (begun : tunnel.opening = true) (connected : tunnel.remoteSocket.isSome = true) (payload : Bytes) :
    (tunnel.greet platform header payload).Greeted values ∧
      (tunnel.isOpen = true → (tunnel.greet platform header payload).sent = [.version 0]) := by
  obtain rfl : values = [] := silent.values
  unfold Tunnel.greet
  dsimp only
  by_cases open' : tunnel.isOpen = true
  · have sent : tunnel.sent ++ [Frame.version header.version] = [.version 0] := by
      rw [silent.sent, version]
      rfl
    rw [if_pos open']
    split
    · refine ⟨greeted_of_mute flushPending_mute flushPending_past (.inr ⟨[], List.prefix_refl _, sent⟩)
        (fun _ => sent) connected begun, fun _ => ?_⟩
      exact flushPending_mute.sent.trans sent
    · refine ⟨greeted_of_mute (writeToUpstream_mute id) (writeToUpstream_past id)
        (.inr ⟨[], List.prefix_refl _, sent⟩) (fun _ => sent) connected begun, fun _ => ?_⟩
      have past : ¬ Dialing (.payload payload) := id
      exact (writeToUpstream_mute past).sent.trans sent
  · rw [if_neg open']
    have gone {mid : Tunnel} (still : tunnel.isOpen = true) : mid.sent = [.version 0] := absurd still open'
    split
    · exact ⟨greeted_of_mute flushPending_mute flushPending_past (.inl silent.sent)
        (fun still => absurd still open') connected begun, gone⟩
    · exact ⟨greeted_of_mute (writeToUpstream_mute id) (writeToUpstream_past id) (.inl silent.sent)
        (fun still => absurd still open') connected begun, gone⟩

/-- The sink takes a chunk before the upstream is open. -/
theorem Silent.write (silent : tunnel.Silent values) (waits : tunnel.sink = .idle) (chunk : Bytes) :
    (tunnel.write platform chunk).Silent values := by
  have unconnected : tunnel.remoteSocket = none := by
    have hears := silent.hears
    rwa [Hears, waits] at hears
  have alone : ¬ tunnel.remoteSocket.isSome = true := by
    rw [unconnected]
    exact Bool.false_ne_true
  rw [Tunnel.write, if_neg alone]
  split
  · exact silent.idle (idle_of_same rfl id rfl rfl rfl rfl)
  · split
    · apply Silent.idle _ fail_idle
      refine ⟨silent.sent, silent.values, silent.pump, ?_⟩
      rw [Hears]
      simp only [waits, unconnected]
    · next header payload read =>
      refine ⟨silent.sent, silent.values, silent.pump, ?_, rfl⟩
      exact parseVlessHeader_version (readHeader_ok_iff.mp read).1

/-- With an open upstream, whatever happens but an answer of the upstream sends nothing. -/
theorem Greeted.step {event : TunnelEvent} (greeted : before.Greeted values)
    (stepped : before.step? platform event = some after) : after.Greeted (values ++ event.value) := by
  have past := greeted.past
  cases event with
  | received value =>
    simp only [step?] at stepped
    split at stepped
    · obtain rfl := Option.some.inj stepped
      refine ⟨?_, ?_, greeted.connected, greeted.begun, past⟩
      · by_cases still : before.isOpen = true
        · refine .inr ⟨values ++ [value], List.prefix_refl _, ?_⟩
          dsimp only
          rw [if_pos still, greeted.complete still, List.map_append, List.cons_append]
          rfl
        · dsimp only
          rw [if_neg still]
          rcases greeted.answer with silent | ⟨datas, first, sent⟩
          · exact .inl silent
          · exact .inr ⟨datas, first.trans (List.prefix_append _ _), sent⟩
      · intro still
        have still : before.isOpen = true := still
        dsimp only
        rw [if_pos still, greeted.complete still, List.map_append, List.cons_append]
        rfl
    · contradiction
  | pull =>
    change after.Greeted (values ++ [])
    rw [List.append_nil]
    simp only [step?] at stepped
    split at stepped
    · next chunk rest _ _ =>
      obtain rfl := Option.some.inj stepped
      have connected : ({ before with queue := rest } : Tunnel).remoteSocket.isSome = true := greeted.connected
      have taken : Mute before { before with queue := rest } := ⟨rfl, id, rfl, rfl, id⟩
      rw [Tunnel.write, if_pos connected]
      exact greeted.mute (taken.trans (writeToUpstream_mute id))
    · contradiction
  | resolved answer pick =>
    simp only [step?] at stepped
    split at stepped
    · next resolving =>
      rw [resolving] at past
      exact absurd trivial past
    · contradiction
  | connected ok =>
    simp only [step?] at stepped
    split at stepped
    · next connecting =>
      rw [connecting] at past
      exact absurd trivial past
    · contradiction
  | opened throws =>
    simp only [step?] at stepped
    split at stepped
    · next opening =>
      rw [opening] at past
      exact absurd trivial past
    · contradiction
  | unreachable =>
    simp only [step?] at stepped
    split at stepped
    · next opening =>
      rw [opening] at past
      exact absurd trivial past
    · contradiction
  | message data =>
    change after.Greeted (values ++ [])
    rw [List.append_nil]
    simp only [step?] at stepped
    split at stepped
    · contradiction
    · obtain rfl := Option.some.inj stepped
      exact greeted.mute ⟨rfl, id, rfl, rfl, id⟩
  | converted index =>
    change after.Greeted (values ++ [])
    rw [List.append_nil]
    obtain ⟨data, _, rfl⟩ := Option.map_eq_some_iff.mp stepped
    have erased : Mute before { before with converting := before.converting.eraseIdx index } := ⟨rfl, id, rfl, rfl, id⟩
    exact greeted.mute (erased.trans (enqueue_idle data).toMute)
  | unreadable index =>
    change after.Greeted (values ++ [])
    rw [List.append_nil]
    obtain ⟨data, _, rfl⟩ := Option.map_eq_some_iff.mp stepped
    have erased : Mute before { before with converting := before.converting.eraseIdx index } := ⟨rfl, id, rfl, rfl, id⟩
    exact greeted.mute (erased.trans errorSource_idle.toMute)
  | clientCloses =>
    change after.Greeted (values ++ [])
    rw [List.append_nil]
    simp only [step?] at stepped
    split at stepped
    · contradiction
    · obtain rfl := Option.some.inj stepped
      exact greeted.mute (closeSource_idle.toMute.trans ⟨rfl, (by rintro ⟨⟩), rfl, rfl, id⟩)
  | clientFails =>
    change after.Greeted (values ++ [])
    rw [List.append_nil]
    simp only [step?] at stepped
    split at stepped
    · contradiction
    · obtain rfl := Option.some.inj stepped
      exact greeted.mute (errorSource_idle.toMute.trans ⟨rfl, (by rintro ⟨⟩), rfl, rfl, id⟩)
  | written ok =>
    change after.Greeted (values ++ [])
    rw [List.append_nil]
    have failed : (before.fail platform).Greeted values := greeted.mute fail_idle.toMute
    simp only [step?] at stepped
    split at stepped
    · next chunk _ =>
      split at stepped
      · obtain rfl := Option.some.inj stepped
        exact greeted.mute ((report_mute chunk).trans flushPending_mute)
      · exact Option.some.inj stepped ▸ failed
    · next chunk _ =>
      split at stepped
      · obtain rfl := Option.some.inj stepped
        exact greeted.mute ((report_mute chunk).trans flushPending_mute)
      · exact Option.some.inj stepped ▸ failed
    · next chunk _ =>
      split at stepped
      · obtain rfl := Option.some.inj stepped
        exact greeted.mute ((report_mute chunk).trans ⟨rfl, id, rfl, rfl, fun _ => id⟩)
      · exact Option.some.inj stepped ▸ failed
    · contradiction
  | streamEnds =>
    change after.Greeted (values ++ [])
    rw [List.append_nil]
    simp only [step?] at stepped
    split at stepped
    · obtain rfl := Option.some.inj stepped
      exact greeted.mute (finish_idle.toMute.trans ⟨rfl, id, rfl, rfl, fun _ => id⟩)
    · contradiction
  | upstreamEnds =>
    change after.Greeted (values ++ [])
    rw [List.append_nil]
    simp only [step?] at stepped
    split at stepped
    · obtain rfl := Option.some.inj stepped
      exact greeted.mute (finish_idle.toMute.trans ⟨rfl, id, rfl, rfl, id⟩)
    · contradiction

/-- Before that the client hears nothing, up to the step at which the upstream opens. -/
theorem Silent.step {event : TunnelEvent} (silent : before.Silent values)
    (stepped : before.step? platform event = some after) :
    after.Silent (values ++ event.value) ∨ after.Greeted (values ++ event.value) := by
  have hears := silent.hears
  have failed : (before.fail platform).Silent values := silent.idle fail_idle
  cases event with
  | received value =>
    simp only [step?, silent.pump, reduceCtorEq, if_false] at stepped
  | upstreamEnds =>
    simp only [step?, silent.pump, reduceCtorEq, if_false] at stepped
  | opened throws =>
    change after.Silent (values ++ []) ∨ after.Greeted (values ++ [])
    rw [List.append_nil]
    simp only [step?] at stepped
    split at stepped
    · next header payload opening =>
      rw [Hears, opening] at hears
      obtain ⟨version, begun, connected⟩ := hears
      split at stepped
      · split at stepped
        · contradiction
        · exact .inl (Option.some.inj stepped ▸ failed)
      · exact .inr (Option.some.inj stepped ▸ (silent.greet version begun connected payload).1)
    · contradiction
  | pull =>
    change after.Silent (values ++ []) ∨ after.Greeted (values ++ [])
    rw [List.append_nil]
    simp only [step?] at stepped
    split at stepped
    · next chunk rest waits _ =>
      obtain rfl := Option.some.inj stepped
      have taken : Idle before { before with queue := rest } := idle_of_same rfl id rfl rfl rfl rfl
      exact .inl ((silent.idle taken).write waits chunk)
    · contradiction
  | resolved answer pick =>
    change after.Silent (values ++ []) ∨ after.Greeted (values ++ [])
    rw [List.append_nil]
    simp only [step?] at stepped
    split at stepped
    · next resolving =>
      rw [Hears, resolving] at hears
      split at stepped
      · exact .inl (Option.some.inj stepped ▸ failed)
      · obtain rfl := Option.some.inj stepped
        exact .inl ⟨silent.sent, silent.values, silent.pump, hears⟩
    · contradiction
  | connected ok =>
    change after.Silent (values ++ []) ∨ after.Greeted (values ++ [])
    rw [List.append_nil]
    simp only [step?] at stepped
    split at stepped
    · next connecting =>
      rw [Hears, connecting] at hears
      split at stepped
      · obtain rfl := Option.some.inj stepped
        exact .inl ⟨silent.sent, silent.values, silent.pump, hears.1, hears.2, rfl⟩
      · exact .inl (Option.some.inj stepped ▸ failed)
    · contradiction
  | unreachable =>
    change after.Silent (values ++ []) ∨ after.Greeted (values ++ [])
    rw [List.append_nil]
    simp only [step?] at stepped
    split at stepped
    · obtain rfl := Option.some.inj stepped
      exact .inl (silent.idle unreachable_idle)
    · contradiction
  | message data =>
    change after.Silent (values ++ []) ∨ after.Greeted (values ++ [])
    rw [List.append_nil]
    simp only [step?] at stepped
    split at stepped
    · contradiction
    · obtain rfl := Option.some.inj stepped
      exact .inl (silent.idle (idle_of_same rfl id rfl rfl rfl rfl))
  | converted index =>
    change after.Silent (values ++ []) ∨ after.Greeted (values ++ [])
    rw [List.append_nil]
    obtain ⟨data, _, rfl⟩ := Option.map_eq_some_iff.mp stepped
    have erased : Idle before { before with converting := before.converting.eraseIdx index } :=
      idle_of_same rfl id rfl rfl rfl rfl
    exact .inl (silent.idle (erased.trans (enqueue_idle data)))
  | unreadable index =>
    change after.Silent (values ++ []) ∨ after.Greeted (values ++ [])
    rw [List.append_nil]
    obtain ⟨data, _, rfl⟩ := Option.map_eq_some_iff.mp stepped
    have erased : Idle before { before with converting := before.converting.eraseIdx index } :=
      idle_of_same rfl id rfl rfl rfl rfl
    exact .inl (silent.idle (erased.trans errorSource_idle))
  | clientCloses =>
    change after.Silent (values ++ []) ∨ after.Greeted (values ++ [])
    rw [List.append_nil]
    simp only [step?] at stepped
    split at stepped
    · contradiction
    · obtain rfl := Option.some.inj stepped
      exact .inl (silent.idle (closeSource_idle.trans (idle_of_same rfl (by rintro ⟨⟩) rfl rfl rfl rfl)))
  | clientFails =>
    change after.Silent (values ++ []) ∨ after.Greeted (values ++ [])
    rw [List.append_nil]
    simp only [step?] at stepped
    split at stepped
    · contradiction
    · obtain rfl := Option.some.inj stepped
      exact .inl (silent.idle (errorSource_idle.trans (idle_of_same rfl (by rintro ⟨⟩) rfl rfl rfl rfl)))
  | written ok =>
    simp only [step?] at stepped
    rw [Hears] at hears
    split at stepped
    · next writing =>
      rw [writing] at hears
      contradiction
    · next writing =>
      rw [writing] at hears
      contradiction
    · next writing =>
      rw [writing] at hears
      contradiction
    · contradiction
  | streamEnds =>
    change after.Silent (values ++ []) ∨ after.Greeted (values ++ [])
    rw [List.append_nil]
    simp only [step?] at stepped
    split at stepped
    · obtain rfl := Option.some.inj stepped
      exact .inl (silent.idle (finish_idle.trans ⟨⟨rfl, id, rfl, rfl, fun _ => id⟩, id, .inr rfl⟩))
    · contradiction

end Tunnel

/-- A header for port 53 of a resolver. -/
def Wire.toResolver (cmd : UInt8) : Wire where
  uuid := List.replicate 16 0x61
  uuid_length := rfl
  addons := []
  addons_length := by decide
  cmd := cmd
  portHigh := 0
  portLow := 53
  address := .ipv4 [192, 0, 2, 53] rfl

namespace Response

def platform : Platform where
  sha256 := fun _ => []
  toLowerCase := id

def user : User := hydrate "omni" { uuid := bytesToUuid (List.replicate 16 0x61) } 0

end Response

end OmniControlPlane.Panel
