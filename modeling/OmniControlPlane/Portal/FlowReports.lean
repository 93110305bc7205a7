import OmniControlPlane.Portal.Flows

/-! # The reports of the chat

What a user has said before a text decides what the text records: an IP and its latency before a loss, or a city behind
other buttons of the map before a latency. The rows of the flows hold that and nothing else, so that after any tape of any
users the tables have the reports of the conversations that came to their end.
-/

namespace OmniControlPlane.Portal.Flows

open Lib
open Lib.Lapse (Held Reaction Desk)
open Phantom (sanitizePackDomain)
open Dnstt (isValidVpsIpv4 normalizeDnsttDomain)
open Telemetry.CleanIp (CleanIpReport)
open Telemetry.CensorshipMap (MapReport)

/-! ## What has been said -/

/-- What is no answer at a step that asks for a number or for a button. -/
def Refused (step : FlowStep) (text : String) : Prop :=
  match step with
  | .rumPing | .mapRtt => parseNumberOrDash text 10000 = none
  | .rumLoss => parseNumberOrDash text 100 = none
  | _ => True

/-- What leaves a flow at a step: the events of others, buttons that show something, and texts that come in time and are
no answer. -/
def Quiet (user : String) (step : FlowStep) (deadline : ℤ) (event : Event) : Prop :=
  event.user = user →
    match event with
    | .press _ data _ => readPress data = .view
    | .text _ text _ now => now < deadline ∧ Refused step text
    | .turn _ answer _ => answer = .keep

/-- The user has picked an IP, and said nothing else since. -/
def Picked (tape : List Event) (user : String) (pick : Pick) (deadline : ℤ) : Prop :=
  ∃ before data now quiet, tape = before ++ .press user data now :: quiet ∧ readPress data = .pick pick ∧
    deadline = now + ttl ∧ ∀ event ∈ quiet, Quiet user .rumPing deadline event

/-- The user has picked an IP and then said its latency in time, and nothing else since. -/
def Pinged (tape : List Event) (user : String) (pick : Pick) (latency : Option (Tenths 10000)) (deadline : ℤ) : Prop :=
  ∃ before text outside now quiet lapses, tape = before ++ .text user text outside now :: quiet ∧
    Picked before user pick lapses ∧ now < lapses ∧ parseNumberOrDash text 10000 = some latency ∧
    deadline = now + ttl ∧ ∀ event ∈ quiet, Quiet user .rumLoss deadline event

/-- The text is the loss of an IP that its user has picked and told the latency of. -/
def RadarReported (tape : List Event) (event : Event) (report : CleanIpReport) : Prop :=
  ∃ user text outside now pick latency deadline loss, event = .text user text outside now ∧
    Pinged tape user pick latency deadline ∧ now < deadline ∧ parseNumberOrDash text 100 = some loss ∧
    report = cleanIpReport pick.ip { pick.data with latencyMs := some latency } loss

/-- The step that a button of the map leads to. -/
def Press.step? : Press → Option FlowStep
  | .report => some .mapIsp
  | .isp _ => some .mapTransport
  | .transport _ => some .mapVerdict
  | .verdict _ => some .mapCity
  | .city _ => some .mapRtt
  | .pick _ | .start _ | .cancel | .view => none

/-- The buttons of the map that keep the answers before them. -/
def Press.goesOn : Press → Bool
  | .transport _ | .verdict _ | .city _ => true
  | .report | .isp _ | .pick _ | .start _ | .cancel | .view => false

def Press.isp? : Press → Option String
  | .isp value => some value
  | _ => none

def Press.transport? : Press → Option String
  | .transport value => some value
  | _ => none

def Press.ok? : Press → Option Bool
  | .verdict value => some value
  | _ => none

/-- The last buttons that a user has pressed for the map, each one in time, with nothing of use said between them or
since. -/
inductive Talk (user : String) : List Event → List Press → ℤ → Prop where
  | start {before quiet : List Event} {data : String} {now : ℤ} {press : Press} {step : FlowStep}
      (pushed : readPress data = press) (asks : press.step? = some step)
      (silent : ∀ event ∈ quiet, Quiet user step (now + ttl) event) :
      Talk user (before ++ .press user data now :: quiet) [press] (now + ttl)
  | next {before quiet : List Event} {presses : List Press} {deadline : ℤ} {data : String} {now : ℤ} {press : Press}
      {step : FlowStep} (talk : Talk user before presses deadline) (fresh : now < deadline)
      (pushed : readPress data = press) (goes : press.goesOn = true) (asks : press.step? = some step)
      (silent : ∀ event ∈ quiet, Quiet user step (now + ttl) event) :
      Talk user (before ++ .press user data now :: quiet) (presses ++ [press]) (now + ttl)

def lastOf {α : Type} (kind : Press → Option α) (presses : List Press) : Option α := presses.reverse.findSome? kind

/-- The last of the user's buttons of a kind, with no more than buttons of other kinds since. -/
def Told {α : Type} (tape : List Event) (user : String) (kind : Press → Option α) (value : α) : Prop :=
  ∃ presses deadline, Talk user tape presses deadline ∧ lastOf kind presses = some value

/-- The answers are the last buttons of their kinds. -/
structure Answered (tape : List Event) (user : String) (data : FlowData) : Prop where
  isp : ∀ isp, data.isp = some isp ↔ Told tape user Press.isp? isp
  transport : ∀ transport, data.transport = some transport ↔ Told tape user Press.transport? transport
  ok : ∀ ok, data.ok = some ok ↔ Told tape user Press.ok? ok

/-- The text is the latency behind a city that its user has pressed last. -/
def MapReported (tape : List Event) (event : Event) (report : MapReport) : Prop :=
  ∃ user text outside now presses city deadline data rtt, event = .text user text outside now ∧
    Talk user tape presses deadline ∧ presses.getLast? = some (.city city) ∧ now < deadline ∧
    parseNumberOrDash text 10000 = some rtt ∧ Answered tape user data ∧ data.city = some city ∧
    report = mapReport data rtt

section

variable {toLowerCase : List Char → List Char} {tape : List Event} {user : String} {deadline : ℤ}

theorem spares_iff {event : Event} {step : FlowStep} {data : FlowData} (here : event.user = user)
    (ends : step.flow = .rum ∨ step.flow = .map) :
    (desk toLowerCase).Spares event ⟨⟨step, data⟩, deadline⟩ ↔ Quiet user step deadline event := by
  unfold Quiet
  rw [forall_prop_of_true here]
  cases event with
  | press sender button now =>
    dsimp only [Desk.Spares, desk]
    cases readPress button <;> simp [pressed, goOn]
  | text sender text outside now =>
    dsimp only [Desk.Spares, desk, Event.now, Option.elim_some]
    refine and_congr_right fun _ => ?_
    unfold textReaction Refused
    cases step with
    | rumPing | mapRtt => cases parseNumberOrDash text 10000 <;> simp
    | rumLoss => cases parseNumberOrDash text 100 <;> simp
    | mapIsp | mapTransport | mapVerdict | mapCity => simp
    | _ => simp [FlowStep.flow] at ends
  | turn sender answer now =>
    dsimp only [Desk.Spares, desk]
    cases answer <;> simp [Answer.reaction]

/-- What is held has been written, and it has been quiet since. -/
theorem held_iff {step : FlowStep} {data : FlowData} (ends : step.flow = .rum ∨ step.flow = .map) :
    ((desk toLowerCase).run tape).get? user = some ⟨⟨step, data⟩, deadline⟩ ↔
      ∃ before event quiet, tape = before ++ event :: quiet ∧ event.user = user ∧
        (desk toLowerCase).Writes ((desk toLowerCase).run before) event ⟨step, data⟩ ∧ deadline = event.now + ttl ∧
        ∀ later ∈ quiet, Quiet user step deadline later := by
  rw [Desk.held_iff]
  constructor
  · rintro ⟨before, event, rest, value, cut, here, written, same, spares⟩
    obtain ⟨rfl, rfl⟩ := Held.mk.inj same
    exact ⟨before, event, rest, cut, here, written, rfl, fun later among here =>
      (spares_iff here ends).mp (spares later among here) here⟩
  · rintro ⟨before, event, quiet, cut, here, written, rfl, silent⟩
    exact ⟨before, event, quiet, _, cut, here, written, rfl, fun later among here =>
      (spares_iff here ends).mpr (silent later among)⟩

theorem OtherFlow.ne {other : OtherFlow} {step : FlowStep} {data : FlowData} (ends : step.flow = .rum ∨ step.flow = .map) :
    other.toPanelFlow ≠ ⟨step, data⟩ := by
  intro same
  have apart := other.apart
  rw [same] at apart
  exact ends.elim apart.1 apart.2

theorem Answer.ne {answer : Answer} {step : FlowStep} {data : FlowData} (ends : step.flow = .rum ∨ step.flow = .map) :
    answer.reaction ≠ .hold ⟨step, data⟩ := by
  cases answer with
  | keep => simp [reaction]
  | clear => simp [reaction]
  | save other => simpa [reaction] using OtherFlow.ne ends

def Unanswered (data : FlowData) : Prop := data.isp = none ∧ data.transport = none ∧ data.ok = none

/-- A text that goes on tells a latency, or goes to a step outside of the radar and the map. -/
theorem textReaction_cases {text : String} {outside : Outside} {flow next : PanelFlow}
    (going : textReaction toLowerCase text outside flow = .hold next) :
    (flow.step = .rumPing ∧ ∃ latency, parseNumberOrDash text 10000 = some latency ∧
      next = ⟨.rumLoss, { flow.data with latencyMs := some latency }⟩) ∨
    (∃ other : OtherFlow, next = other.toPanelFlow) ∨
    (next.flow ≠ .rum ∧ next.flow ≠ .map ∧ flow.flow ≠ .map ∧ (Unanswered flow.data → Unanswered next.data)) := by
  obtain ⟨step, data⟩ := flow
  unfold textReaction at going
  cases step with
  | rumPing =>
    cases given : parseNumberOrDash text 10000 with
    | none => simp [given] at going
    | some latency =>
      rw [given] at going
      exact .inl ⟨rfl, latency, rfl, (Reaction.hold.inj going).symm⟩
  | packDomain =>
    cases given : sanitizePackDomain text with
    | none => simp [given] at going
    | some domain =>
      rw [given] at going
      rw [← Reaction.hold.inj going]
      refine .inr (.inr ⟨?_, ?_, ?_, id⟩) <;> simp [PanelFlow.flow, FlowStep.flow]
  | dnsttVps =>
    cases valid : isValidVpsIpv4 (String.ofList (trim text)) with
    | false => simp [valid] at going
    | true =>
      rw [valid] at going
      rw [← Reaction.hold.inj going]
      refine .inr (.inr ⟨?_, ?_, ?_, id⟩) <;> simp [PanelFlow.flow, FlowStep.flow]
  | rumLoss => cases given : parseNumberOrDash text 100 <;> simp [given] at going
  | mapRtt => cases given : parseNumberOrDash text 10000 <;> simp [given] at going
  | mapIsp | mapTransport | mapVerdict | mapCity | packUuid => simp at going
  | donateKey => rcases stored : outside.donation with (_ | _) | _ <;> simp [stored] at going
  | dnsttDomain =>
    cases known : isValidVpsIpv4 (data.vps.getD "") <;> cases given : normalizeDnsttDomain toLowerCase text <;>
      simp [known, given] at going
  | panelToken | panelName | panelPass | omniToken | dnsRange | whiteDomains | slipcfgLine =>
    dsimp only at going
    cases answered : outside.answer with
    | save other =>
      rw [answered] at going
      exact .inr (.inl ⟨other, (Reaction.hold.inj going).symm⟩)
    | _ => simp [answered, Answer.reaction] at going

/-- The only text that goes on towards a report is the one that tells a latency. -/
theorem textReaction_eq_hold {text : String} {outside : Outside} {flow : PanelFlow} {step : FlowStep} {data : FlowData}
    (ends : step.flow = .rum ∨ step.flow = .map) :
    textReaction toLowerCase text outside flow = .hold ⟨step, data⟩ ↔ flow.step = .rumPing ∧ step = .rumLoss ∧
      ∃ latency, parseNumberOrDash text 10000 = some latency ∧ data = { flow.data with latencyMs := some latency } := by
  constructor
  · intro going
    rcases textReaction_cases going with ⟨asked, latency, given, same⟩ | ⟨other, same⟩ | ⟨not_rum, not_map, -⟩
    · obtain ⟨rfl, rfl⟩ := PanelFlow.mk.inj same
      exact ⟨asked, rfl, latency, given, rfl⟩
    · exact absurd same.symm (OtherFlow.ne ends)
    · exact absurd ends (not_or.mpr ⟨not_rum, not_map⟩)
  · rintro ⟨asked, rfl, latency, given, rfl⟩
    simp only [textReaction, asked, given, Option.elim_some]

theorem writes_text_iff {flows : FlowTable} {text : String} {outside : Outside} {now : ℤ} {next : PanelFlow} :
    (desk toLowerCase).Writes flows (.text user text outside now) next ↔
      ∃ flow, (Lapse.load flows user now).2 = some flow ∧ textReaction toLowerCase text outside flow = .hold next := by
  change (Lapse.load flows user now).2.elim .keep (textReaction toLowerCase text outside) = .hold next ↔ _
  cases (Lapse.load flows user now).2 <;> simp

/-- What writes a flow that ends in a report: a button, or a latency. -/
theorem writes_iff {flows : FlowTable} {event : Event} {step : FlowStep} {data : FlowData}
    (ends : step.flow = .rum ∨ step.flow = .map) : (desk toLowerCase).Writes flows event ⟨step, data⟩ ↔
      (∃ sender button now, event = .press sender button now ∧ (desk toLowerCase).Writes flows event ⟨step, data⟩) ∨
        ∃ sender text outside now flow latency, event = .text sender text outside now ∧
          (Lapse.load flows sender now).2 = some flow ∧ flow.step = .rumPing ∧ step = .rumLoss ∧
          parseNumberOrDash text 10000 = some latency ∧ data = { flow.data with latencyMs := some latency } := by
  cases event with
  | press sender button now => simp
  | text sender text outside now =>
    simp [writes_text_iff, textReaction_eq_hold ends]
  | turn sender answer now => simpa [Desk.Writes, desk] using Answer.ne ends

theorem Press.step?_flow {press : Press} {step : FlowStep} (asks : press.step? = some step) : step.flow = .map := by
  cases press with
  | pick | start | cancel | view => contradiction
  | _ =>
    obtain rfl := Option.some.inj asks
    rfl

/-- The buttons that write a flow pick an IP, are of the map or start one that ends in no report. -/
theorem press_cases {flows : FlowTable} {button : String} {now : ℤ} {next : PanelFlow}
    (writes : (desk toLowerCase).Writes flows (.press user button now) next) :
    (∃ pick, readPress button = .pick pick ∧ next = ⟨.rumPing, pick.data⟩) ∨
    (readPress button).step? = some next.step ∨
    (∃ other : OtherFlow, next = other.toPanelFlow) := by
  dsimp only [Desk.Writes, desk] at writes
  cases pushed : readPress button with
  | pick pick =>
    rw [pushed] at writes
    exact .inl ⟨pick, rfl, (Reaction.hold.inj writes).symm⟩
  | start other =>
    rw [pushed] at writes
    exact .inr (.inr ⟨other, (Reaction.hold.inj writes).symm⟩)
  | cancel => simp [pushed, pressed] at writes
  | view => simp [pushed, pressed] at writes
  | _ =>
    rw [pushed] at writes
    rw [← Reaction.hold.inj writes]
    exact .inr (.inl rfl)

theorem press_writes {flows : FlowTable} {button : String} {now : ℤ} {step : FlowStep} {data : FlowData}
    (ends : step.flow = .rum ∨ step.flow = .map)
    (writes : (desk toLowerCase).Writes flows (.press user button now) ⟨step, data⟩) :
    (∃ pick, readPress button = .pick pick ∧ step = .rumPing ∧ data = pick.data) ∨
      (readPress button).step? = some step := by
  rcases press_cases writes with ⟨pick, pushed, same⟩ | asks | ⟨other, same⟩
  · obtain ⟨rfl, rfl⟩ := PanelFlow.mk.inj same
    exact .inl ⟨pick, pushed, rfl, rfl⟩
  · exact .inr asks
  · exact absurd same.symm (OtherFlow.ne ends)

theorem picked_iff {data : FlowData} : ((desk toLowerCase).run tape).get? user = some ⟨⟨.rumPing, data⟩, deadline⟩ ↔
    ∃ pick, Picked tape user pick deadline ∧ data = pick.data := by
  rw [held_iff (.inl rfl)]
  constructor
  · rintro ⟨before, event, quiet, cut, here, written, lapses, silent⟩
    rcases (writes_iff (.inl rfl)).mp written with ⟨sender, button, now, rfl, -⟩ | ⟨_, _, _, _, _, _, _, _, _, other, _⟩
    · obtain rfl : sender = user := here
      rcases press_writes (.inl rfl) written with ⟨pick, pushed, -, rfl⟩ | asks
      · exact ⟨pick, ⟨before, button, now, quiet, cut, pushed, lapses, silent⟩, rfl⟩
      · exact absurd (Press.step?_flow asks) (by decide)
    · contradiction
  · rintro ⟨pick, ⟨before, button, now, quiet, cut, pushed, lapses, silent⟩, rfl⟩
    refine ⟨before, .press user button now, quiet, cut, rfl, ?_, lapses, silent⟩
    simp [Desk.Writes, desk, pushed, pressed]

theorem pinged_iff {data : FlowData} : ((desk toLowerCase).run tape).get? user = some ⟨⟨.rumLoss, data⟩, deadline⟩ ↔
    ∃ pick latency, Pinged tape user pick latency deadline ∧ data = { pick.data with latencyMs := some latency } := by
  rw [held_iff (.inl rfl)]
  constructor
  · rintro ⟨before, event, quiet, cut, here, written, lapses, silent⟩
    rcases (writes_iff (.inl rfl)).mp written with
      ⟨sender, button, now, rfl, -⟩ | ⟨sender, text, outside, now, flow, latency, rfl, found, asked, -, given, rfl⟩
    · rcases press_writes (.inl rfl) written with ⟨_, _, other, _⟩ | asks
      · contradiction
      · exact absurd (Press.step?_flow asks) (by decide)
    · obtain rfl : sender = user := here
      obtain ⟨step, answers⟩ := flow
      obtain rfl : step = .rumPing := asked
      obtain ⟨first, there, fresh⟩ := Lapse.load_eq_some.mp found
      obtain ⟨pick, picked, rfl⟩ := picked_iff.mp there
      exact ⟨pick, latency, ⟨before, text, outside, now, quiet, first, cut, picked, fresh, given, lapses, silent⟩, rfl⟩
  · rintro ⟨pick, latency, ⟨before, text, outside, now, quiet, first, cut, picked, fresh, given, lapses, silent⟩, rfl⟩
    have there := (@picked_iff toLowerCase _ _ _ _).mpr ⟨pick, picked, rfl⟩
    have found := Lapse.load_eq_some.mpr ⟨first, there, fresh⟩
    refine ⟨before, .text user text outside now, quiet, cut, rfl, ?_, lapses, silent⟩
    exact (writes_iff (.inl rfl)).mpr (.inr ⟨user, text, outside, now, _, latency, rfl, found, rfl, rfl, given, rfl⟩)

/-- The text of a loss records a report of the radar, and nothing else does. -/
theorem radar_recordOf_iff {event : Event} {report : CleanIpReport} :
    recordOf? radarOf? (after toLowerCase tape).flows event = some report ↔ RadarReported tape event report := by
  rw [flows_after]
  constructor
  · intro recorded
    cases event with
    | press sender button now => contradiction
    | turn sender answer now => contradiction
    | text user text outside now =>
      obtain ⟨⟨step, data⟩, found, ended⟩ := Option.bind_eq_some_iff.mp recorded
      obtain ⟨⟨last, -⟩, told⟩ := Option.ite_none_right_eq_some.mp ended
      obtain rfl : step = .rumLoss := last
      obtain ⟨loss, given, rfl⟩ := Option.map_eq_some_iff.mp told
      obtain ⟨deadline, there, fresh⟩ := Lapse.load_eq_some.mp found
      obtain ⟨pick, latency, pinged, rfl⟩ := pinged_iff.mp there
      exact ⟨user, text, outside, now, pick, latency, deadline, loss, rfl, pinged, fresh, given, rfl⟩
  · rintro ⟨user, text, outside, now, pick, latency, deadline, loss, rfl, pinged, fresh, given, rfl⟩
    have there := (@pinged_iff toLowerCase _ _ _ _).mpr ⟨pick, latency, pinged, rfl⟩
    refine Option.bind_eq_some_iff.mpr ⟨_, Lapse.load_eq_some.mpr ⟨deadline, there, fresh⟩, ?_⟩
    rw [radarOf?, if_pos ⟨rfl, pick.named⟩, given]
    rfl

/-- Outside of the map there are no answers for it. -/
theorem unanswered {held : Held PanelFlow} (there : ((desk toLowerCase).run tape).get? user = some held) :
    held.value.flow ≠ .map → Unanswered held.value.data := by
  refine Desk.held_induction (P := fun _ _ held => held.value.flow ≠ .map → Unanswered held.value.data) ?_ there
  intro before event rest value writes earlier _ apart
  cases event with
  | press sender button now =>
    rcases press_cases writes with ⟨pick, -, rfl⟩ | asks | ⟨other, rfl⟩
    · exact ⟨rfl, rfl, rfl⟩
    · exact absurd (Press.step?_flow asks) apart
    · exact other.unanswered
  | text sender text outside now =>
    obtain ⟨flow, found, going⟩ := writes_text_iff.mp writes
    obtain ⟨lapses, there, -⟩ := Lapse.load_eq_some.mp found
    rcases textReaction_cases going with ⟨asked, latency, -, rfl⟩ | ⟨other, rfl⟩ | ⟨-, -, outer, kept⟩
    · have outer : flow.flow ≠ .map := by
        rw [PanelFlow.flow, asked]
        decide
      have still : Unanswered flow.data := earlier _ there outer
      exact still
    · exact other.unanswered
    · exact kept (earlier _ there outer)
  | turn sender answer now =>
    cases answer with
    | save other =>
      rw [← Reaction.hold.inj writes]
      exact other.unanswered
    | _ => simp [Desk.Writes, desk, Answer.reaction] at writes

/-- The answers after a button of the map. -/
def Press.write (base : FlowData) : Press → FlowData
  | .report => {}
  | .isp value => { isp := some value }
  | .transport value => { base with transport := some value }
  | .verdict value => { base with ok := some value }
  | .city value => { base with city := some value }
  | .pick _ | .start _ | .cancel | .view => base

theorem writes_press_iff {flows : FlowTable} {data : String} {now : ℤ} {press : Press} {step : FlowStep} {next : PanelFlow}
    (pushed : readPress data = press) (asks : press.step? = some step) :
    (desk toLowerCase).Writes flows (.press user data now) next ↔
      next = ⟨step, press.write (((Lapse.load flows user now).2.map (·.data)).getD {})⟩ := by
  dsimp only [Desk.Writes, desk]
  rw [pushed]
  cases press with
  | pick | start | cancel | view => contradiction
  | _ =>
    obtain rfl := Option.some.inj asks
    exact Reaction.hold.injEq _ _ ▸ eq_comm

/-- The last buttons of each kind are in the row. -/
structure Matches (presses : List Press) (data : FlowData) : Prop where
  isp : lastOf Press.isp? presses = data.isp
  transport : lastOf Press.transport? presses = data.transport
  ok : lastOf Press.ok? presses = data.ok

@[simp] theorem lastOf_concat {α : Type} (kind : Press → Option α) (presses : List Press) (press : Press) :
    lastOf kind (presses ++ [press]) = (kind press).or (lastOf kind presses) := by
  rw [lastOf, List.reverse_append, List.reverse_singleton, List.singleton_append, List.findSome?_cons]
  cases kind press <;> rfl

@[simp] theorem lastOf_singleton {α : Type} (kind : Press → Option α) (press : Press) :
    lastOf kind [press] = kind press :=
  (lastOf_concat kind [] press).trans (Option.or_none)

theorem Matches.start {base : FlowData} (unanswered : Unanswered base) {press : Press} {step : FlowStep}
    (asks : press.step? = some step) : Matches [press] (press.write base) := by
  obtain ⟨isp, transport, ok⟩ := unanswered
  cases press with
  | pick | start | cancel | view => contradiction
  | _ => constructor <;> simp [Press.write, Press.isp?, Press.transport?, Press.ok?, isp, transport, ok]

theorem Matches.next {base : FlowData} {presses : List Press} (before : Matches presses base) {press : Press}
    (goes : press.goesOn = true) : Matches (presses ++ [press]) (press.write base) := by
  obtain ⟨isp, transport, ok⟩ := before
  cases press with
  | transport | verdict | city =>
    constructor <;> simp [Press.write, Press.isp?, Press.transport?, Press.ok?, isp, transport, ok]
  | _ => contradiction

/-- The other buttons of the map forget the answers before them. -/
theorem Matches.restart (base : FlowData) {press : Press} {step : FlowStep} (asks : press.step? = some step)
    (stops : press.goesOn = false) : Matches [press] (press.write base) := by
  have first : Matches [press] (press.write {}) := .start ⟨rfl, rfl, rfl⟩ asks
  cases press with
  | report => exact first
  | isp => exact first
  | _ => contradiction

/-- A row of the map has come about by buttons of the map. -/
theorem talk_of_held {held : Held PanelFlow} (there : ((desk toLowerCase).run tape).get? user = some held)
    (map : held.value.flow = .map) : ∃ presses, Talk user tape presses held.expires_at ∧
      presses.getLast?.bind Press.step? = some held.value.step ∧ Matches presses held.value.data := by
  revert map
  refine Desk.held_induction (P := fun tape user held => held.value.flow = .map → ∃ presses,
    Talk user tape presses held.expires_at ∧ presses.getLast?.bind Press.step? = some held.value.step ∧
      Matches presses held.value.data) ?_ there
  intro before event rest ⟨step, data⟩ writes earlier spares map
  have silent : ∀ later ∈ rest, Quiet event.user step (event.now + ttl) later := fun later among here =>
    (spares_iff here (.inr map)).mp (spares later among here) here
  rcases (writes_iff (.inr map)).mp writes with ⟨sender, button, now, rfl, -⟩ | ⟨_, _, _, _, _, _, _, _, _, rfl, _⟩
  · have asks : (readPress button).step? = some step := by
      rcases press_writes (.inr map) writes with ⟨_, _, rfl, _⟩ | asks
      · contradiction
      · exact asks
    obtain ⟨-, rfl⟩ := PanelFlow.mk.inj ((writes_press_iff rfl asks).mp writes)
    cases found : (Lapse.load ((desk toLowerCase).run before) sender now).2 with
    | none => exact ⟨_, .start rfl asks silent, asks, .start ⟨rfl, rfl, rfl⟩ asks⟩
    | some flow =>
      obtain ⟨lapses, stored, fresh⟩ := Lapse.load_eq_some.mp found
      by_cases open_map : flow.flow = .map
      · cases goes : (readPress button).goesOn with
        | false => exact ⟨_, .start rfl asks silent, asks, .restart _ asks goes⟩
        | true =>
          obtain ⟨presses, talk, -, matching⟩ := earlier _ stored open_map
          exact ⟨_, .next talk fresh rfl goes asks silent, by rw [List.getLast?_concat]; exact asks, matching.next goes⟩
      · exact ⟨_, .start rfl asks silent, asks, .start (unanswered stored open_map) asks⟩
  · contradiction

/-- The last button of each kind that was pressed is in the row, and a city that was pressed last. -/
structure Keeps (presses : List Press) (data : FlowData) : Prop where
  isp : ∀ isp, lastOf Press.isp? presses = some isp → data.isp = some isp
  transport : ∀ transport, lastOf Press.transport? presses = some transport → data.transport = some transport
  ok : ∀ ok, lastOf Press.ok? presses = some ok → data.ok = some ok
  city : ∀ city, presses.getLast? = some (.city city) → data.city = some city

theorem Keeps.start (base : FlowData) (press : Press) : Keeps [press] (press.write base) := by
  cases press <;> constructor <;> simp [Press.write, Press.isp?, Press.transport?, Press.ok?]

theorem Keeps.next {base : FlowData} {presses : List Press} (before : Keeps presses base) {press : Press}
    (goes : press.goesOn = true) : Keeps (presses ++ [press]) (press.write base) := by
  obtain ⟨isp, transport, ok, -⟩ := before
  cases press with
  | transport =>
    exact ⟨by simpa [Press.write, Press.isp?] using isp, by simp [Press.write, Press.transport?],
      by simpa [Press.write, Press.ok?] using ok, by simp⟩
  | verdict =>
    exact ⟨by simpa [Press.write, Press.isp?] using isp, by simpa [Press.write, Press.transport?] using transport,
      by simp [Press.write, Press.ok?], by simp⟩
  | city =>
    exact ⟨by simpa [Press.write, Press.isp?] using isp, by simpa [Press.write, Press.transport?] using transport,
      by simpa [Press.write, Press.ok?] using ok, by simp [Press.write]⟩
  | _ => contradiction

/-- What has been pressed for the map is in the row. -/
theorem Talk.held {presses : List Press} (talk : Talk user tape presses deadline) :
    ∃ step data, ((desk toLowerCase).run tape).get? user = some ⟨⟨step, data⟩, deadline⟩ ∧
      presses.getLast?.bind Press.step? = some step ∧ Keeps presses data := by
  induction talk with
  | @start before quiet button now press step pushed asks silent =>
    obtain ⟨base, written⟩ : ∃ base, (desk toLowerCase).Writes ((desk toLowerCase).run before) (.press user button now)
        ⟨step, press.write base⟩ := ⟨_, (writes_press_iff pushed asks).mpr rfl⟩
    exact ⟨step, press.write base, (held_iff (.inr (Press.step?_flow asks))).mpr
      ⟨before, .press user button now, quiet, rfl, rfl, written, rfl, silent⟩, asks, .start base press⟩
  | @next before quiet presses deadline button now press step talk fresh pushed goes asks silent ih =>
    obtain ⟨earlier, data, there, -, keeps⟩ := ih
    have found := Lapse.load_eq_some.mpr ⟨deadline, there, fresh⟩
    have written : (desk toLowerCase).Writes ((desk toLowerCase).run before) (.press user button now)
        ⟨step, press.write data⟩ := by
      rw [writes_press_iff pushed asks, found]
      rfl
    refine ⟨step, press.write data, (held_iff (.inr (Press.step?_flow asks))).mpr
      ⟨before, .press user button now, quiet, rfl, rfl, written, rfl, silent⟩, ?_, keeps.next goes⟩
    rw [List.getLast?_concat]
    exact asks

/-- The answers in a row of the map are the last buttons of their kinds. -/
theorem answered_of_held {held : Held PanelFlow} (there : ((desk toLowerCase).run tape).get? user = some held)
    (map : held.value.flow = .map) : Answered tape user held.value.data := by
  obtain ⟨presses, talk, -, matching⟩ := talk_of_held there map
  have kept {α : Type} {kind : Press → Option α} {answer : FlowData → Option α}
      (match_kind : lastOf kind presses = answer held.value.data)
      (keep_kind : ∀ presses data, Keeps presses data → ∀ value, lastOf kind presses = some value → answer data = some value)
      (value : α) : answer held.value.data = some value ↔ Told tape user kind value := by
    constructor
    · intro given
      exact ⟨presses, _, talk, match_kind.trans given⟩
    · rintro ⟨others, deadline, talk, last⟩
      obtain ⟨step, data, there', -, keeps⟩ := @Talk.held toLowerCase _ _ _ _ talk
      obtain rfl := Option.some.inj (there.symm.trans there')
      exact keep_kind others data keeps value last
  exact ⟨kept matching.isp fun _ _ keeps => keeps.isp, kept matching.transport fun _ _ keeps => keeps.transport,
    kept matching.ok fun _ _ keeps => keeps.ok⟩

theorem Answered.same {data other : FlowData} (answered : Answered tape user data) (answered' : Answered tape user other)
    (city : data.city = other.city) (rtt : Option (Tenths 10000)) : mapReport data rtt = mapReport other rtt := by
  have isp : data.isp = other.isp := Option.ext fun value => (answered.isp value).trans (answered'.isp value).symm
  have transport : data.transport = other.transport :=
    Option.ext fun value => (answered.transport value).trans (answered'.transport value).symm
  have ok : data.ok = other.ok := Option.ext fun value => (answered.ok value).trans (answered'.ok value).symm
  simp only [mapReport, isp, city, transport, ok]

/-- The text behind the button of a city records a report of the map, and nothing else does. -/
theorem map_recordOf_iff {event : Event} {report : MapReport} :
    recordOf? mapOf? (after toLowerCase tape).flows event = some report ↔ MapReported tape event report := by
  rw [flows_after]
  constructor
  · intro recorded
    cases event with
    | press sender button now => contradiction
    | turn sender answer now => contradiction
    | text user text outside now =>
      obtain ⟨⟨step, data⟩, found, ended⟩ := Option.bind_eq_some_iff.mp recorded
      obtain ⟨last, told⟩ := Option.ite_none_right_eq_some.mp ended
      obtain rfl : step = .mapRtt := last
      obtain ⟨rtt, given, rfl⟩ := Option.map_eq_some_iff.mp told
      obtain ⟨deadline, there, fresh⟩ := Lapse.load_eq_some.mp found
      obtain ⟨presses, talk, asked, -⟩ := talk_of_held there rfl
      obtain ⟨press, last, asks⟩ := Option.bind_eq_some_iff.mp asked
      obtain ⟨_, _, there', -, keeps⟩ := @Talk.held toLowerCase _ _ _ _ talk
      obtain ⟨-, rfl⟩ := PanelFlow.mk.inj (congrArg Held.value (Option.some.inj (there.symm.trans there')))
      cases press with
      | city city =>
        exact ⟨user, text, outside, now, presses, city, deadline, data, rtt, rfl, talk, last, fresh, given,
          answered_of_held there rfl, keeps.city city last, rfl⟩
      | _ => simp [Press.step?] at asks
  · rintro ⟨user, text, outside, now, presses, city, deadline, data, rtt, rfl, talk, last, fresh, given, answered, at_city,
      rfl⟩
    obtain ⟨step, held, there, asked, keeps⟩ := @Talk.held toLowerCase _ _ _ _ talk
    rw [last] at asked
    obtain rfl : .mapRtt = step := Option.some.inj asked
    refine Option.bind_eq_some_iff.mpr ⟨_, Lapse.load_eq_some.mpr ⟨deadline, there, fresh⟩, ?_⟩
    rw [mapOf?, if_pos rfl, given, Option.map_some]
    exact congrArg some ((answered_of_held there rfl).same answered ((keeps.city city last).trans at_city.symm) rtt)

end

/-! ## Whole tapes -/

/-- The reports of a tape with their times, one for each event that ends a conversation. -/
inductive History {ρ : Type} (Reported : List Event → Event → ρ → Prop) : List Event → List (ρ × ℤ) → Prop where
  | empty : History Reported [] []
  | report {tape : List Event} {history : List (ρ × ℤ)} {event : Event} {report : ρ} (before : History Reported tape history)
      (reported : Reported tape event report) : History Reported (tape ++ [event]) (history ++ [(report, event.now)])
  | silent {tape : List Event} {history : List (ρ × ℤ)} {event : Event} (before : History Reported tape history)
      (silent : ∀ report, ¬ Reported tape event report) : History Reported (tape ++ [event]) history

theorem history_of_recordOf {ρ : Type} {ends : String → PanelFlow → Option ρ} {Reported : List Event → Event → ρ → Prop}
    {toLowerCase : List Char → List Char} {τ : Type} {table : World → τ} {record : τ → ρ → ℤ → τ}
    (recorded_iff : ∀ tape event report,
      recordOf? ends (after toLowerCase tape).flows event = some report ↔ Reported tape event report)
    (step : ∀ world event, table (world.step toLowerCase event) =
      (recordOf? ends world.flows event).elim (table world) (record (table world) · event.now)) (tape : List Event) :
    ∃ history, History Reported tape history ∧ table (after toLowerCase tape) =
      history.foldl (fun table item => record table item.1 item.2) (table (after toLowerCase [])) := by
  induction tape using List.reverseRecOn with
  | nil => exact ⟨[], .empty, rfl⟩
  | append_singleton tape event ih =>
    obtain ⟨history, told, same⟩ := ih
    rw [after_append, step, same]
    cases recorded : recordOf? ends (after toLowerCase tape).flows event with
    | none =>
      refine ⟨history, .silent told fun report reported => ?_, rfl⟩
      rw [(recorded_iff tape event report).mpr reported] at recorded
      contradiction
    | some report =>
      refine ⟨_, .report told ((recorded_iff tape event report).mp recorded), ?_⟩
      rw [List.foldl_append]
      rfl

/-- After any tape the radar has the reports of the conversations that came to their end: a button for an IP, a latency and
a loss, each within a quarter of an hour after the one before, with nothing of use of the same user between them. -/
theorem radar_history (toLowerCase : List Char → List Char) (tape : List Event) :
    ∃ history, History RadarReported tape history ∧
      (after toLowerCase tape).clean_ip_reports = Telemetry.CleanIp.recorded history :=
  history_of_recordOf (fun _ _ _ => radar_recordOf_iff) (fun world event => by rw [step_eq]) tape

/-- After any tape the map has the reports of its conversations: what they say of the provider, the transport and the
connection is the last button of its kind, and what was not pressed is the default. -/
theorem map_history (toLowerCase : List Char → List Char) (tape : List Event) :
    ∃ history, History MapReported tape history ∧ (after toLowerCase tape).map_reports =
      history.foldl (fun table item => Telemetry.CensorshipMap.recordMapReport table item.1 item.2) [] :=
  history_of_recordOf (fun _ _ _ => map_recordOf_iff) (fun world event => by rw [step_eq]) tape

/-- A city alone reports a connection as broken. -/
example : ((after id [.press "7" "v13:map:city:Qom" 0, .text "7" "-" ⟨.keep, .ok (), ""⟩ 1]).map_reports.map fun row =>
    (row.report.isp, row.report.city, row.report.ok)) = [("سایر", "Qom", false)] := by decide +kernel

end OmniControlPlane.Portal.Flows
