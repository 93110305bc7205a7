import OmniControlPlane.Lib.Lapse
import OmniControlPlane.Lib.Uri
import OmniControlPlane.Portal.Dnstt
import OmniControlPlane.Telemetry.CensorshipMap
import OmniControlPlane.Telemetry.CleanIpCrowd

/-! # The flows of the chat

The sections of the bot ask for one thing after the other, by buttons and by texts. What a user has answered so far is a
row of `telegram_flows`, which lapses after a quarter of an hour. Two flows end in a report: that of a clean IP is a
button and two texts, and that of the censorship map is a text behind buttons that may be pressed in any order.
-/

namespace OmniControlPlane.Portal.Flows

open Lib JavaScript
open Lib.Lapse (Held Reaction Act Desk)
open Phantom (sanitizePackDomain buildPhantomPack)
open Dnstt (isValidVpsIpv4 normalizeDnsttDomain)
open Telemetry.CleanIp (CleanIpReport)
open Telemetry.CensorshipMap (MapReport)

/-! ## Rows -/

def PANEL_FLOW_TTL_SECONDS : ℤ := 900

inductive PanelFlowKind where
  | rum | map | donate | pack | panel | dnsrange | white | slipcfg | dnstt | omni
deriving DecidableEq, Repr

inductive FlowStep where
  | rumPing | rumLoss
  | mapIsp | mapTransport | mapVerdict | mapCity | mapRtt
  | donateKey
  | packDomain | packUuid
  | panelToken | panelName | panelPass
  | omniToken
  | dnsttVps | dnsttDomain
  | dnsRange
  | whiteDomains
  | slipcfgLine
deriving DecidableEq, Repr

/-- The flow that a step is part of, which the rows keep beside it. -/
def FlowStep.flow : FlowStep → PanelFlowKind
  | .rumPing | .rumLoss => .rum
  | .mapIsp | .mapTransport | .mapVerdict | .mapCity | .mapRtt => .map
  | .donateKey => .donate
  | .packDomain | .packUuid => .pack
  | .panelToken | .panelName | .panelPass => .panel
  | .omniToken => .omni
  | .dnsttVps | .dnsttDomain => .dnstt
  | .dnsRange => .dnsrange
  | .whiteDomains => .white
  | .slipcfgLine => .slipcfg

/-- The answer is a button, not a text. -/
def BUTTON_ONLY_STEPS : List FlowStep := [.mapIsp, .mapTransport, .mapVerdict, .mapCity]

/-- A number up to a bound with one digit after the point, in tenths. -/
abbrev Tenths (max : ℕ) := {tenths : ℕ // tenths ≤ 10 * max}

/-- The answers, but for those that only the handlers of other sections read. A latency is written as its decimal
numeral, and as the empty text where it was not measured. -/
structure FlowData where
  ip : Option String := none
  operator : Option String := none
  city : Option String := none
  latencyMs : Option (Option (Tenths 10000)) := none
  isp : Option String := none
  transport : Option String := none
  ok : Option Bool := none
  domain : Option String := none
  vps : Option String := none
deriving DecidableEq

structure PanelFlow where
  step : FlowStep
  data : FlowData
deriving DecidableEq

def PanelFlow.flow (flow : PanelFlow) : PanelFlowKind := flow.step.flow

/-- `telegram_flows`, under its primary key. -/
abbrev FlowTable := Lapse.Table String PanelFlow

def ttl : ℤ := PANEL_FLOW_TTL_SECONDS * 1000

def loadPanelFlow (flows : FlowTable) (telegramUserId : String) (now : ℤ) : FlowTable × Option PanelFlow :=
  Lapse.load flows telegramUserId now

def savePanelFlow (flows : FlowTable) (telegramUserId : String) (flow : PanelFlow) (now : ℤ) : FlowTable :=
  Lapse.hold ttl flows telegramUserId flow now

def clearPanelFlow (flows : FlowTable) (telegramUserId : String) : FlowTable := Lapse.drop flows telegramUserId

/-! ## Numbers -/

theorem latency_small : 10000 ≤ 10000 := Nat.le_refl _

theorem loss_small : 100 ≤ 10000 := by decide

/-- A dash is `some none`, and what is invalid is `none`. Only the digits and points of a text count. -/
def parseNumberOrDash (text : String) (max : ℕ)
    (small : max ≤ 10000 := by first | exact latency_small | exact loss_small) : Option (Option (Tenths max)) :=
  let value := trim text
  if value ∈ ["-", "−", "none", "نامشخص"].map String.toList then some none
  else
    let normalized := value.filter fun char => char.isDigit || char = '.'
    if normalized = [] then none
    else
      match numberOfString (String.ofList normalized) with
      | .finite parsed =>
        if range : parsed < 0 ∨ max < parsed then none
        else
          some (some ⟨⌊toDouble (parsed * 10) + 1 / 2⌋₊,
            tenths_le small (not_lt.mp (not_or.mp range).1) (not_lt.mp (not_or.mp range).2)⟩)
      | _ => none

example : parseNumberOrDash "-12,5 ms" 10000 = some (some ⟨1250, by decide⟩) := by decide +kernel

/-! ## Reports -/

/-- `Number(flow.data["latencyMs"] ?? "")` -/
def FlowData.latency (data : FlowData) : Tenths 10000 := data.latencyMs.join.getD ⟨0, by decide⟩

/-- The report of the last step; `Math.round` of tenths is the quotient of five more. -/
def cleanIpReport (ip : String) (data : FlowData) (loss : Option (Tenths 100)) : CleanIpReport where
  ip
  operator := data.operator.getD "mci"
  city := data.city.getD "tehran"
  latencyMs := if 0 < data.latency.val then ((data.latency.val + 5) / 10 : ℕ) else -1
  lossPct := loss.elim 0 (·.val / 10)
  ok := loss.elim (0 < data.latency.val) (·.val < 1000)
  latency_range := by
    have := data.latency.property
    split <;> omega
  loss_tenths := by
    cases loss with
    | none => exact ⟨0, by decide, by norm_num⟩
    | some loss => exact ⟨loss.val, loss.property, rfl⟩

def mapReport (data : FlowData) (rtt : Option (Tenths 10000)) : MapReport where
  isp := data.isp.getD "سایر"
  city := data.city.getD "نامشخص"
  transport := data.transport.getD "other"
  rttMs := rtt.map fun rtt => ((rtt.val + 5) / 10 : ℕ)
  ok := data.ok.getD false
  rtt_range := by
    intro rtt given
    obtain ⟨tenths, -, rfl⟩ := Option.map_eq_some_iff.mp given
    have := tenths.property
    omega

/-! ## Buttons -/

/-- A flow that ends in no report. None of its steps sets an answer of the map. -/
structure OtherFlow extends PanelFlow where
  apart : toPanelFlow.flow ≠ .rum ∧ toPanelFlow.flow ≠ .map
  unanswered : data.isp = none ∧ data.transport = none ∧ data.ok = none

def OtherFlow.start (step : FlowStep) (apart : step.flow ≠ .rum ∧ step.flow ≠ .map := by decide) : OtherFlow where
  step
  data := {}
  apart
  unanswered := ⟨rfl, rfl, rfl⟩

/-- An IP of the radar, with the operator and the city of its list. -/
structure Pick where
  ip : String
  operator : String
  city : String
  named : ip ≠ ""

/-- What a button of a panel section asks for. -/
inductive Press where
  | pick (pick : Pick)
  | report
  | isp (isp : String)
  | transport (transport : String)
  | verdict (ok : Bool)
  | city (city : String)
  | start (other : OtherFlow)
  | cancel
  | view

/-- `text.startsWith(front)`, and what is behind it. -/
def behind (front : String) (text : String) : Option (List Char) :=
  if front.toList <+: text.toList then some (text.toList.drop front.toList.length) else none

/-- The last button shows something, as does one whose `decodeURIComponent` throws. -/
def readPress (data : String) : Press :=
  let parts := (data.toList.splitOn ':').map String.ofList
  if (behind "v13:ip:pick:" data).isSome then
    if named : parts.getD 3 "" = "" then .view
    else .pick ⟨parts.getD 3 "", parts.getD 4 "mci", parts.getD 5 "tehran", named⟩
  else if data = "v13:pack" then .start (.start .packDomain)
  else if data = "v13:map:report" then .report
  else if let some isp := behind "v13:map:isp:" data then (percentDecode isp).elim .view .isp
  else if let some transport := behind "v13:map:tr:" data then (percentDecode transport).elim .view .transport
  else if data = "v13:map:ok:1" then .verdict true
  else if data = "v13:map:ok:0" then .verdict false
  else if let some city := behind "v13:map:city:" data then (percentDecode city).elim .view .city
  else if data = "v13:donate:agree" then .start (.start .donateKey)
  else if data = "v13:dnstt" then .start (.start .dnsttVps)
  else if data = "v13:flow:cancel" then .cancel
  else if data = "v13:dns:scan:new" then .start (.start .dnsRange)
  else if (behind "v13:dnsb:" data).isSome then
    match parts.getD 2 "", parts.getD 4 "" with
    | "slip", "dom" => .start (.start .slipcfgLine)
    | "white", "dom" => .start (.start .whiteDomains)
    | _, _ => .view
  else .view

def Pick.data (pick : Pick) : FlowData where
  ip := some pick.ip
  operator := some pick.operator
  city := some pick.city

/-- What the panel callbacks do to the flow of their user. -/
def handlePanelCallback (flows : FlowTable) (telegramUserId data : String) (now : ℤ) : FlowTable :=
  let goOn (step : FlowStep) (answer : FlowData → FlowData) :=
    let (flows, found) := loadPanelFlow flows telegramUserId now
    savePanelFlow flows telegramUserId ⟨step, answer ((found.map (·.data)).getD {})⟩ now
  match readPress data with
  | .pick pick => savePanelFlow flows telegramUserId ⟨.rumPing, pick.data⟩ now
  | .report => savePanelFlow flows telegramUserId ⟨.mapIsp, {}⟩ now
  | .isp isp => savePanelFlow flows telegramUserId ⟨.mapTransport, { isp := some isp }⟩ now
  | .transport transport => goOn .mapVerdict ({ · with transport := some transport })
  | .verdict ok => goOn .mapCity ({ · with ok := some ok })
  | .city city => goOn .mapRtt ({ · with city := some city })
  | .start other => savePanelFlow flows telegramUserId other.toPanelFlow now
  | .cancel => clearPanelFlow flows telegramUserId
  | .view => flows

/-! ## Texts -/

structure World where
  flows : FlowTable
  clean_ip_reports : Telemetry.CleanIp.Table
  map_reports : List Telemetry.CensorshipMap.Row

inductive FollowUp where
  | cleanIp | map | donations
deriving DecidableEq, Repr

inductive ReplyKind where
  | prompt | done
deriving DecidableEq, Repr

/-- The answer of a text, without the message. -/
structure FlowTextResult where
  kind : ReplyKind
  followUp : Option FollowUp := none
  saved : Bool := false
deriving DecidableEq, Repr

/-- What a section outside of the reports makes of the flow of a user. -/
inductive Answer where
  | keep
  | clear
  | save (other : OtherFlow)

def Answer.apply (flows : FlowTable) (telegramUserId : String) (now : ℤ) : Answer → FlowTable
  | .keep => flows
  | .clear => clearPanelFlow flows telegramUserId
  | .save other => savePanelFlow flows telegramUserId other.toPanelFlow now

/-- What other code makes of a text: the handlers of the sections that have their own, `createDonation`, and
`crypto.randomUUID`. -/
structure Outside where
  answer : Answer
  donation : Except Thrown Unit
  minted : String

section

variable (toLowerCase : List Char → List Char)

def processPanelFlowText (world : World) (telegramUserId : String) (flow : PanelFlow) (text : String)
    (outside : Outside) (now : ℤ) : Except Thrown (World × FlowTextResult) :=
  let cleared := { world with flows := clearPanelFlow world.flows telegramUserId }
  let saved (next : PanelFlow) := { world with flows := savePanelFlow world.flows telegramUserId next now }
  if flow.step ∈ BUTTON_ONLY_STEPS then .ok (world, { kind := .prompt })
  else
    match flow.step with
    | .rumPing =>
      match parseNumberOrDash text 10000 with
      | none => .ok (world, { kind := .prompt })
      | some latency => .ok (saved ⟨.rumLoss, { flow.data with latencyMs := some latency }⟩, { kind := .prompt })
    | .rumLoss =>
      match parseNumberOrDash text 100 with
      | none => .ok (world, { kind := .prompt })
      | some loss =>
        let ip := flow.data.ip.getD ""
        if ip = "" then .ok (cleared, { kind := .done })
        else
          let report := cleanIpReport ip flow.data loss
          .ok ({ cleared with
              clean_ip_reports := Telemetry.CleanIp.recordCleanIpReport world.clean_ip_reports report now },
            { kind := .done, followUp := some .cleanIp, saved := true })
    | .packDomain =>
      match sanitizePackDomain text with
      | none => .ok (world, { kind := .prompt })
      | some domain => .ok (saved ⟨.packUuid, { flow.data with domain := some domain }⟩, { kind := .prompt })
    | .packUuid =>
      match sanitizePackDomain (flow.data.domain.getD "") with
      | none => .ok (cleared, { kind := .done })
      | some domain =>
        match buildPhantomPack outside.minted domain (some text) with
        | .error message => .error (.other message)
        | .ok _ => .ok (cleared, { kind := .done })
    | .mapRtt =>
      match parseNumberOrDash text 10000 with
      | none => .ok (world, { kind := .prompt })
      | some rtt =>
        let report := mapReport flow.data rtt
        .ok ({ cleared with map_reports := Telemetry.CensorshipMap.recordMapReport world.map_reports report now },
          { kind := .done, followUp := some .map, saved := true })
    | .donateKey =>
      match outside.donation with
      | .ok () => .ok (cleared, { kind := .done, followUp := some .donations, saved := true })
      | .error (.http _) => .ok (world, { kind := .done, followUp := some .donations })
      | .error thrown => .error thrown
    | .dnsttVps =>
      let vps := String.ofList (trim text)
      if !isValidVpsIpv4 vps then .ok (world, { kind := .prompt })
      else .ok (saved ⟨.dnsttDomain, { flow.data with vps := some vps }⟩, { kind := .prompt })
    | .dnsttDomain =>
      if !isValidVpsIpv4 (flow.data.vps.getD "") then .ok (cleared, { kind := .done })
      else
        match normalizeDnsttDomain toLowerCase text with
        | none => .ok (world, { kind := .prompt })
        | some _ => .ok (cleared, { kind := .done, saved := true })
    | _ => .ok (cleared, { kind := .done })

/-- The sections that take the texts of their flows themselves. -/
def OWN_TEXTS : List PanelFlowKind := [.omni, .panel, .dnsrange, .white, .slipcfg]

/-- What the caller makes of an error. -/
def settle (world : World) (telegramUserId : String) : Except Thrown (World × FlowTextResult) → World
  | .ok (world, _) => world
  | .error _ => { world with flows := clearPanelFlow world.flows telegramUserId }

/-- A text that is no command and no entry of the menu, and that no wizard takes. -/
def handleFlowText (world : World) (telegramUserId text : String) (outside : Outside) (now : ℤ) : World :=
  let (flows, found) := loadPanelFlow world.flows telegramUserId now
  let world := { world with flows }
  match found with
  | none => world
  | some flow =>
    if flow.flow ∈ OWN_TEXTS then { world with flows := outside.answer.apply flows telegramUserId now }
    else settle world telegramUserId (processPanelFlowText toLowerCase world telegramUserId flow text outside now)

/-! ## Tapes -/

/-- A button of the panel sections, a text, and what a command or a button of another section does to the flow. -/
inductive Event where
  | press (user data : String) (now : ℤ)
  | text (user text : String) (outside : Outside) (now : ℤ)
  | turn (user : String) (answer : Answer) (now : ℤ)

namespace Event

def user : Event → String
  | .press user _ _ => user
  | .text user _ _ _ => user
  | .turn user _ _ => user

def now : Event → ℤ
  | .press _ _ now => now
  | .text _ _ _ now => now
  | .turn _ _ now => now

end Event

def World.step (world : World) : Event → World
  | .press user data now => { world with flows := handlePanelCallback world.flows user data now }
  | .text user text outside now => handleFlowText toLowerCase world user text outside now
  | .turn user answer now => { world with flows := answer.apply world.flows user now }

/-- The tables after the events. -/
def after (tape : List Event) : World := tape.foldl (World.step toLowerCase) ⟨.empty, .empty, []⟩

@[simp] theorem after_append (tape : List Event) (event : Event) :
    after toLowerCase (tape ++ [event]) = (after toLowerCase tape).step toLowerCase event := by
  rw [after, List.foldl_append]
  rfl

/-! ## What the events do -/

def Answer.reaction : Answer → Reaction PanelFlow
  | .keep => .keep
  | .clear => .drop
  | .save other => .hold other.toPanelFlow

theorem Answer.apply_eq (answer : Answer) (flows : FlowTable) (user : String) (now : ℤ) :
    answer.apply flows user now = answer.reaction.apply ttl flows user now := by
  cases answer <;> rfl

/-- What a text makes of the flow it answers. -/
def textReaction (text : String) (outside : Outside) (flow : PanelFlow) : Reaction PanelFlow :=
  match flow.step with
  | .rumPing => (parseNumberOrDash text 10000).elim .keep fun latency =>
      .hold ⟨.rumLoss, { flow.data with latencyMs := some latency }⟩
  | .rumLoss => (parseNumberOrDash text 100).elim .keep fun _ => .drop
  | .mapIsp | .mapTransport | .mapVerdict | .mapCity => .keep
  | .mapRtt => (parseNumberOrDash text 10000).elim .keep fun _ => .drop
  | .donateKey =>
    match outside.donation with
    | .error (.http _) => .keep
    | _ => .drop
  | .packDomain => (sanitizePackDomain text).elim .keep fun domain =>
      .hold ⟨.packUuid, { flow.data with domain := some domain }⟩
  | .packUuid => .drop
  | .dnsttVps =>
    if isValidVpsIpv4 (String.ofList (trim text)) then
      .hold ⟨.dnsttDomain, { flow.data with vps := some (String.ofList (trim text)) }⟩
    else .keep
  | .dnsttDomain =>
    if isValidVpsIpv4 (flow.data.vps.getD "") then (normalizeDnsttDomain toLowerCase text).elim .keep fun _ => .drop
    else .drop
  | .panelToken | .panelName | .panelPass | .omniToken | .dnsRange | .whiteDomains | .slipcfgLine =>
    outside.answer.reaction

/-- The next step, with the answers so far if they have not lapsed. -/
def goOn (step : FlowStep) (answer : FlowData → FlowData) : Act PanelFlow :=
  .look fun found => .hold ⟨step, answer ((found.map (·.data)).getD {})⟩

def pressed : Press → Act PanelFlow
  | .pick pick => .blind (.hold ⟨.rumPing, pick.data⟩)
  | .report => .blind (.hold ⟨.mapIsp, {}⟩)
  | .isp isp => .blind (.hold ⟨.mapTransport, { isp := some isp }⟩)
  | .transport transport => goOn .mapVerdict ({ · with transport := some transport })
  | .verdict ok => goOn .mapCity ({ · with ok := some ok })
  | .city city => goOn .mapRtt ({ · with city := some city })
  | .start other => .blind (.hold other.toPanelFlow)
  | .cancel => .blind .drop
  | .view => .blind .keep

def desk : Desk String PanelFlow Event where
  ttl
  key := Event.user
  time := Event.now
  act
    | .press _ data _ => pressed (readPress data)
    | .text _ text outside _ => .look fun found => found.elim .keep (textReaction toLowerCase text outside)
    | .turn _ answer _ => .blind answer.reaction

def radarOf? (text : String) (flow : PanelFlow) : Option CleanIpReport :=
  if flow.step = .rumLoss ∧ flow.data.ip.getD "" ≠ "" then
    (parseNumberOrDash text 100).map (cleanIpReport (flow.data.ip.getD "") flow.data)
  else none

def mapOf? (text : String) (flow : PanelFlow) : Option MapReport :=
  if flow.step = .mapRtt then (parseNumberOrDash text 10000).map (mapReport flow.data) else none

/-- What an event records of the flow that it finds. -/
def recordOf? {ρ : Type} (ends : String → PanelFlow → Option ρ) (flows : FlowTable) : Event → Option ρ
  | .text user text _ now => (loadPanelFlow flows user now).2.bind (ends text)
  | .press _ _ _ | .turn _ _ _ => none

variable {toLowerCase}

theorem settle_eq {world : World} {user text : String} {flow : PanelFlow} {outside : Outside} {now : ℤ}
    (taken : flow.flow ∉ OWN_TEXTS) :
    settle world user (processPanelFlowText toLowerCase world user flow text outside now) = {
      flows := (textReaction toLowerCase text outside flow).apply ttl world.flows user now
      clean_ip_reports := (radarOf? text flow).elim world.clean_ip_reports
        (Telemetry.CleanIp.recordCleanIpReport world.clean_ip_reports · now)
      map_reports := (mapOf? text flow).elim world.map_reports
        (Telemetry.CensorshipMap.recordMapReport world.map_reports · now) } := by
  obtain ⟨step, data⟩ := flow
  unfold processPanelFlowText textReaction radarOf? mapOf?
  cases step with
  | rumPing => cases parseNumberOrDash text 10000 <;> simp [BUTTON_ONLY_STEPS, settle, savePanelFlow]
  | rumLoss =>
    cases parseNumberOrDash text 100 with
    | none => simp [BUTTON_ONLY_STEPS, settle]
    | some loss => by_cases unnamed : data.ip.getD "" = "" <;> simp [BUTTON_ONLY_STEPS, settle, unnamed, clearPanelFlow]
  | mapIsp | mapTransport | mapVerdict | mapCity => simp [BUTTON_ONLY_STEPS, settle]
  | mapRtt => cases parseNumberOrDash text 10000 <;> simp [BUTTON_ONLY_STEPS, settle, clearPanelFlow]
  | donateKey => rcases outside.donation with (_ | _) | _ <;> simp [BUTTON_ONLY_STEPS, settle, clearPanelFlow]
  | packDomain => cases sanitizePackDomain text <;> simp [BUTTON_ONLY_STEPS, settle, savePanelFlow]
  | packUuid =>
    cases sanitizePackDomain (data.domain.getD "") with
    | none => simp [BUTTON_ONLY_STEPS, settle, clearPanelFlow]
    | some domain =>
      cases built : buildPhantomPack outside.minted domain (some text) <;>
        simp [BUTTON_ONLY_STEPS, settle, built, clearPanelFlow]
  | dnsttVps =>
    cases valid : isValidVpsIpv4 (String.ofList (trim text)) <;> simp [BUTTON_ONLY_STEPS, settle, valid, savePanelFlow]
  | dnsttDomain =>
    cases isValidVpsIpv4 (data.vps.getD "") <;> cases normalizeDnsttDomain toLowerCase text <;>
      simp [BUTTON_ONLY_STEPS, settle, clearPanelFlow]
  | panelToken | panelName | panelPass | omniToken | dnsRange | whiteDomains | slipcfgLine =>
    simp [PanelFlow.flow, FlowStep.flow, OWN_TEXTS] at taken

theorem own_texts {text : String} {outside : Outside} {flow : PanelFlow} (own : flow.flow ∈ OWN_TEXTS) :
    textReaction toLowerCase text outside flow = outside.answer.reaction ∧ radarOf? text flow = none ∧
      mapOf? text flow = none := by
  obtain ⟨step, data⟩ := flow
  cases step with
  | panelToken | panelName | panelPass | omniToken | dnsRange | whiteDomains | slipcfgLine =>
    simp [textReaction, radarOf?, mapOf?]
  | _ => simp [PanelFlow.flow, FlowStep.flow, OWN_TEXTS] at own

theorem step_eq (world : World) (event : Event) : world.step toLowerCase event = {
    flows := (desk toLowerCase).step world.flows event
    clean_ip_reports := (recordOf? radarOf? world.flows event).elim world.clean_ip_reports
      (Telemetry.CleanIp.recordCleanIpReport world.clean_ip_reports · event.now)
    map_reports := (recordOf? mapOf? world.flows event).elim world.map_reports
      (Telemetry.CensorshipMap.recordMapReport world.map_reports · event.now) } := by
  cases event with
  | press user data now =>
    have flows : handlePanelCallback world.flows user data now =
        (desk toLowerCase).step world.flows (.press user data now) := by
      unfold handlePanelCallback Desk.step desk
      dsimp only
      cases readPress data <;> rfl
    rw [World.step, flows]
    rfl
  | text user text outside now =>
    rw [World.step, handleFlowText, Desk.step, recordOf?, recordOf?]
    simp only [loadPanelFlow, desk, Event.user, Event.now]
    rcases Lapse.load world.flows user now with ⟨flows, found⟩
    cases found with
    | none => rfl
    | some flow =>
      dsimp only
      by_cases own : flow.flow ∈ OWN_TEXTS
      · obtain ⟨reaction, radar, map⟩ := @own_texts toLowerCase text outside flow own
        rw [if_pos own, Option.bind_some, Option.bind_some, radar, map, Option.elim_some, reaction, Answer.apply_eq]
        rfl
      · rw [if_neg own, settle_eq own]
        rfl
  | turn user answer now => cases answer <;> rfl

theorem flows_after (tape : List Event) : (after toLowerCase tape).flows = (desk toLowerCase).run tape := by
  induction tape using List.reverseRecOn with
  | nil => rfl
  | append_singleton tape event ih => rw [after_append, step_eq, Desk.run_append, ih]

end

end OmniControlPlane.Portal.Flows
