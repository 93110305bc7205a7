import Mathlib.Data.List.MinMax
import OmniControlPlane.Deployment.Store
import OmniControlPlane.Lib.Double
import OmniControlPlane.Lib.Machine
import OmniControlPlane.Lib.Retention
import OmniControlPlane.Lib.Text
import OmniControlPlane.Telemetry.CensorshipMap

/-! # The mode of the network

The Worker probes a node from the edge, and the agent of the node reports from inside. The two tables are classified
into one mode. Over any run the mode is the one that the probes and reports of the tape stand for, whatever has been
purged meanwhile. Times are in milliseconds.
-/

namespace OmniControlPlane.Telemetry.Network

open Lib JavaScript Machine Retention
open Deployment (Status)
open Portal (HttpError Thrown)

/-! ## Classification -/

inductive NetMode where
  | «open»
  | throttled
  | nationalOnly
  | blackout
  | nodata
deriving DecidableEq, Repr

def EDGE_PROBE_RETENTION_HOURS : ℤ := 24

def EDGE_WINDOW_HOURS : ℤ := 6

def EDGE_OK_RATIO : ℚ := toDouble 0.8

def EDGE_DEGRADED_RATIO : ℚ := toDouble 0.4

def EDGE_SLOW_MS : ℤ := 900

structure EdgeStats where
  samples : ℕ
  okRatio : ℚ
  medianLatencyMs : Option ℤ
deriving DecidableEq, Repr

structure InnerStats where
  alive : Bool
  degraded : Bool
deriving DecidableEq, Repr

def classifyNetMode (edge : Option EdgeStats) (inner : Option InnerStats) : NetMode :=
  match edge, inner with
  | some edge, some inner =>
    if edge.samples = 0 then .nodata
    else
      let edgeOk := EDGE_OK_RATIO ≤ edge.okRatio && edge.medianLatencyMs.all (· ≤ EDGE_SLOW_MS)
      let edgeDead : Bool := edge.okRatio < EDGE_DEGRADED_RATIO
      if inner.alive then
        if edgeDead then .nationalOnly
        else if !edgeOk || inner.degraded then .throttled
        else .open
      else if edgeDead then .blackout else .throttled
  | _, _ => .nodata

/-! ## The edge -/

structure EdgeProbeOutcome where
  deploymentId : String
  ok : Bool
  httpStatus : Option ℕ
  latencyMs : Option ℤ

/-- A row of `edge_probes`. -/
structure EdgeProbe where
  deployment_id : String
  ok : Bool
  http_status : Option ℕ
  latency_ms : Option ℤ
  probed_at : ℤ
  expires_at : ℤ
  retained : expires_at = probed_at + EDGE_PROBE_RETENTION_HOURS * 3600000

def edgeProbe (outcome : EdgeProbeOutcome) (now : ℤ) : EdgeProbe where
  deployment_id := outcome.deploymentId
  ok := outcome.ok
  http_status := outcome.httpStatus
  latency_ms := outcome.latencyMs
  probed_at := now
  expires_at := now + EDGE_PROBE_RETENTION_HOURS * 3600000
  retained := rfl

def recordEdgeProbe (edge_probes : List EdgeProbe) (outcome : EdgeProbeOutcome) (now : ℤ) : List EdgeProbe :=
  edge_probes ++ [edgeProbe outcome now]

def purgeExpiredEdgeProbes (edge_probes : List EdgeProbe) (now : ℤ) : List EdgeProbe :=
  live (·.expires_at) now edge_probes

/-- `ORDER BY probed_at DESC` -/
def Later (left right : EdgeProbe) : Prop := right.probed_at ≤ left.probed_at

instance : DecidableRel Later := fun left right => inferInstanceAs (Decidable (right.probed_at ≤ left.probed_at))

def probedSince (deploymentId : String) (since : ℤ) (probe : EdgeProbe) : Bool :=
  probe.deployment_id = deploymentId && since < probe.probed_at

def statsOf (results : List EdgeProbe) : Option EdgeStats :=
  if results.length = 0 then none
  else
    let okCount := (results.filter (·.ok)).length
    let latencies := (results.filterMap (·.latency_ms)).insertionSort (· ≤ ·)
    some {
      samples := results.length
      okRatio := toDouble (okCount / results.length)
      medianLatencyMs := latencies[latencies.length / 2]? }

def edgeStats (edge_probes : List EdgeProbe) (deploymentId : String) (now : ℤ) : Option EdgeStats :=
  let since := now - EDGE_WINDOW_HOURS * 3600000
  statsOf ((edge_probes.filter (probedSince deploymentId since)).insertionSort Later)

/-! ## The agent -/

inductive AgentStatus where
  | healthy
  | degraded
  | failed
deriving DecidableEq, Repr

def AgentStatus.read? (text : String) : Option AgentStatus :=
  if text = "healthy" then some .healthy
  else if text = "degraded" then some .degraded
  else if text = "failed" then some .failed
  else none

/-- A row of `agent_reports`. -/
structure AgentReport where
  deployment_id : String
  status : AgentStatus
  reported_at : ℤ
deriving DecidableEq, Repr

structure DeploymentRow where
  status : Status
  agent_token_hash : Option String
  last_seen_at : Option ℤ

structure Tables where
  deployments : OrderedMap String DeploymentRow
  agent_reports : List AgentReport
  edge_probes : List EdgeProbe

def isLowerHex (char : Char) : Bool := char.isDigit || 'a' ≤ char && char ≤ 'f'

/-- The deployment and the status of a report that is valid. -/
def readReport (body : Fields) : Option (String × AgentStatus) :=
  match body.get "deploymentId", body.get "status", body.get "serviceActive", body.get "singBoxVersion",
    body.get "configSha256" with
  | some (.string deploymentId), some (.string status), some (.bool _), some (.string singBoxVersion),
    some (.string configSha256) =>
    if deploymentId.length = 36 ∧ (deploymentId.toList.all fun char => isLowerHex char || char = '-') ∧
        (utf16 singBoxVersion).length ≤ 32 ∧ configSha256.length = 64 ∧ configSha256.toList.all isLowerHex then
      (AgentStatus.read? status).map (deploymentId, ·)
    else none
  | _, _, _, _, _ => none

section

variable (sha256 : String → String)

/-- `allowed` is what the rate limit of the deployment says. -/
def receiveAgentReport (tables : Tables) (token : Option String) (body : Js) (allowed : Bool) (now : ℤ) :
    Except Thrown Tables :=
  let rawToken := token.getD ""
  let unauthorized := Except.error (.http ⟨401, "invalid_agent_token", "Unauthorized"⟩)
  if (utf16 rawToken).length < 43 ∨ 128 < (utf16 rawToken).length then unauthorized
  else
    match body.fields with
    | none => .error (.other "Cannot read properties of null")
    | some fields =>
      match readReport fields with
      | none => .error (.http ⟨400, "invalid_report", "Health report is invalid"⟩)
      | some (deploymentId, status) =>
        match tables.deployments.get? deploymentId with
        | none => unauthorized
        | some deployment =>
          if deployment.agent_token_hash.getD "" = "" ∨ deployment.agent_token_hash ≠ some (sha256 rawToken) then
            unauthorized
          else if !allowed then .error (.http ⟨429, "rate_limited", "Too many reports"⟩)
          else .ok { tables with
            agent_reports := tables.agent_reports ++ [⟨deploymentId, status, now⟩]
            deployments := tables.deployments.modify deploymentId ({ · with last_seen_at := some now }) }

/-- The latest report, the first that came of two at one time, as the index has them. -/
def latest (reports : List AgentReport) : Option AgentReport :=
  reports.foldl (List.argAux fun report newest => newest.reported_at < report.reported_at) none

theorem latest_eq_none {reports : List AgentReport} : latest reports = none ↔ reports = [] := by
  rw [latest, List.foldl_argAux_eq_none, and_iff_left rfl]

def latestReport (agent_reports : List AgentReport) (deploymentId : String) : Option AgentReport :=
  latest (agent_reports.filter (·.deployment_id = deploymentId))

/-- The default of the parameter, which no caller gives. -/
def freshHours : ℤ := 6

def isFresh (now seen : ℤ) : Bool := now - freshHours * 3600000 ≤ seen

def innerStats (tables : Tables) (deploymentId : String) (now : ℤ) : Option InnerStats :=
  (tables.deployments.get? deploymentId).bind fun row =>
    if row.status ≠ .ready then none
    else
      let agent := latestReport tables.agent_reports deploymentId
      let seen := (agent.map (·.reported_at)).or row.last_seen_at
      let fresh := seen.any (isFresh now)
      some {
        alive := fresh && agent.map (·.status) ≠ some .failed
        degraded := agent.map (·.status) = some .degraded }

def netModeForDeployment (tables : Tables) (deploymentId : String) (now : ℤ) : NetMode :=
  classifyNetMode (edgeStats tables.edge_probes deploymentId now) (innerStats tables deploymentId now)

/-! ## Runs -/

/-- What happens to the tables; a report that is refused changes nothing, `move` is what the other handlers and the
workflow write, and a deletion may take the probes along. -/
inductive Event where
  | report (token : Option String) (body : Js) (now : ℤ)
  | probe (outcome : EdgeProbeOutcome) (now : ℤ)
  | purge (now : ℤ)
  | create (id : String)
  | move (id : String) (status : Status) (agentTokenHash : Option String)
  | delete (id : String) (cascades : Bool)

def step? (tables : Tables) : Event → Option Tables
  | .report token body now => (receiveAgentReport sha256 tables token body true now).toOption
  | .probe outcome now => some { tables with edge_probes := recordEdgeProbe tables.edge_probes outcome now }
  | .purge now => some { tables with edge_probes := purgeExpiredEdgeProbes tables.edge_probes now }
  | .create id =>
    if (tables.deployments.get? id).isSome then none
    else some { tables with deployments := tables.deployments.alter id fun _ => ⟨.queued, none, none⟩ }
  | .move id status agentTokenHash =>
    some { tables with
      deployments := tables.deployments.modify id fun row => ⟨status, agentTokenHash, row.last_seen_at⟩ }
  | .delete id cascades =>
    if (tables.deployments.get? id).any (·.status ∈ [Status.failed, .revoked]) then some {
      deployments := tables.deployments.filter fun other _ => other ≠ id
      agent_reports := tables.agent_reports.filter (·.deployment_id ≠ id)
      edge_probes := if cascades then tables.edge_probes.filter (·.deployment_id ≠ id) else tables.edge_probes }
    else none

def machine : Machine Tables Event := ⟨step? sha256⟩

end

/-! ## What the tape stands for -/

def Event.probe? : Event → Option EdgeProbe
  | .probe outcome now => some (edgeProbe outcome now)
  | _ => none

def Event.report? : Event → Option AgentReport
  | .report _ body now => (body.fields.bind readReport).map fun (deploymentId, status) => ⟨deploymentId, status, now⟩
  | _ => none

def Event.purge? : Event → Option ℤ
  | .purge now => some now
  | _ => none

def Event.creates (id : String) : Event → Bool
  | .create other => other = id
  | _ => false

/-- The probes of the last six hours in counts, and the latest report. -/
structure Evidence where
  samples : ℕ
  ok : ℕ
  measured : ℕ
  slow : ℕ
  latest : Option AgentReport

def Evidence.of (probes : List EdgeProbe) (latest : Option AgentReport) : Evidence :=
  let latencies := probes.filterMap (·.latency_ms)
  { samples := probes.length
    ok := probes.countP (·.ok)
    measured := latencies.length
    slow := latencies.countP (EDGE_SLOW_MS < ·)
    latest }

def probesOf (tape : List Event) (id : String) : List EdgeProbe :=
  (tape.filterMap Event.probe?).filter (·.deployment_id = id)

def reportsOf (tape : List Event) (id : String) : List AgentReport :=
  (tape.filterMap Event.report?).filter (·.deployment_id = id)

def recentProbes (tape : List Event) (id : String) (now : ℤ) : List EdgeProbe :=
  (probesOf tape id).filter (now - EDGE_WINDOW_HOURS * 3600000 < ·.probed_at)

def evidenceOf (tape : List Event) (id : String) (now : ℤ) : Evidence :=
  .of (recentProbes tape id now) (latest (reportsOf tape id))

/-- What the agent has said within six hours. -/
def Evidence.heard (evidence : Evidence) (now : ℤ) : Option AgentStatus :=
  (evidence.latest.filter (isFresh now ·.reported_at)).map (·.status)

/-- Less than two fifths of the probes are answered. -/
def Evidence.Dead (evidence : Evidence) : Prop := 5 * evidence.ok < 2 * evidence.samples

/-- At least four fifths of the probes are answered, and less than half of the measured ones are slow. -/
def Evidence.Fine (evidence : Evidence) : Prop :=
  4 * evidence.samples ≤ 5 * evidence.ok ∧ (evidence.measured = 0 ∨ 2 * evidence.slow < evidence.measured)

instance (evidence : Evidence) : Decidable evidence.Dead :=
  inferInstanceAs (Decidable (5 * evidence.ok < 2 * evidence.samples))

instance (evidence : Evidence) : Decidable evidence.Fine :=
  inferInstanceAs (Decidable (_ ∧ (_ ∨ _)))

/-- The mode of a node that is ready. -/
def Evidence.mode (evidence : Evidence) (now : ℤ) : NetMode :=
  if evidence.samples = 0 then .nodata
  else if evidence.Dead then
    match evidence.heard now with
    | some .healthy | some .degraded => .nationalOnly
    | some .failed | none => .blackout
  else if evidence.Fine ∧ evidence.heard now = some .healthy then .open
  else .throttled

/-! ## The edge by its counts -/

/-- The middle of an ascending list is not above a bound where less than half of the list is. -/
theorem median_le_iff {values : List ℤ} (bound : ℤ) :
    ((values.insertionSort (· ≤ ·))[(values.insertionSort (· ≤ ·)).length / 2]?.all (· ≤ bound) = true) ↔
      values.length = 0 ∨ 2 * values.countP (bound < ·) < values.length := by
  have perm := List.perm_insertionSort (· ≤ ·) values
  rw [perm.length_eq]
  have split : values.countP (· ≤ bound) + values.countP (bound < ·) = values.length := by
    have parts := List.length_eq_countP_add_countP (· ≤ bound) (l := values)
    simpa using parts.symm
  cases found : (values.insertionSort (· ≤ ·))[values.length / 2]? with
  | none =>
    have short := List.getElem?_eq_none_iff.mp found
    rw [perm.length_eq] at short
    simp [show values.length = 0 by omega]
  | some middle =>
    obtain ⟨below, above⟩ := CensorshipMap.rank_of_sorted (List.pairwise_insertionSort _ _) found
    rw [perm.countP_eq] at below above
    have inside := (List.getElem?_eq_some_iff.mp found).1
    rw [perm.length_eq] at inside
    simp only [Option.all_some, decide_eq_true_eq, show values.length ≠ 0 by omega, false_or]
    constructor
    · intro low
      have rank : values.countP (· ≤ middle) ≤ values.countP (· ≤ bound) :=
        List.countP_mono_left fun value _ small => by simp at small ⊢; omega
      omega
    · intro few
      by_contra high
      have rank : values.countP (· ≤ bound) ≤ values.countP (· < middle) :=
        List.countP_mono_left fun value _ small => by simp at small ⊢; omega
      omega

/-- The share of the good ones, compared as the code compares it. -/
theorem okRatio_lt_iff {good total fifths : ℕ} (some_total : 0 < total) (inside : good ≤ total) (few : total < 2 ^ 32)
    (inside' : fifths ≤ 5) {ratio : ℚ} (written : ratio = fifths / (5 : ℕ)) :
    toDouble (good / total) < toDouble ratio ↔ good * 5 < fifths * total := by
  rw [written]
  exact toDouble_ratio_lt_iff some_total (by decide) inside inside' (by omega)

/-- What the statistics of the edge say, in counts. -/
structure Counts (stats : EdgeStats) (probes : List EdgeProbe) : Prop where
  samples : stats.samples = probes.length
  dead : stats.okRatio < EDGE_DEGRADED_RATIO ↔ 5 * probes.countP (·.ok) < 2 * probes.length
  fine : EDGE_OK_RATIO ≤ stats.okRatio ↔ 4 * probes.length ≤ 5 * probes.countP (·.ok)
  fast : stats.medianLatencyMs.all (· ≤ EDGE_SLOW_MS) = true ↔ (probes.filterMap (·.latency_ms)).length = 0 ∨
    2 * (probes.filterMap (·.latency_ms)).countP (EDGE_SLOW_MS < ·) < (probes.filterMap (·.latency_ms)).length

theorem statsOf_counts {results : List EdgeProbe} (heard : results ≠ []) (few : results.length < 2 ^ 32) :
    ∃ stats, statsOf results = some stats ∧ Counts stats results := by
  have some_results : 0 < results.length := List.length_pos_iff.mpr heard
  have inside : results.countP (·.ok) ≤ results.length := List.countP_le_length
  refine ⟨_, if_neg (by omega), ?_⟩
  constructor
  case samples => rfl
  case dead =>
    simp only [ EDGE_DEGRADED_RATIO, ← List.countP_eq_length_filter]
    have written : (0.4 : ℚ) = (2 : ℕ) / (5 : ℕ) := by norm_num
    rw [okRatio_lt_iff some_results inside few (by decide) written]
    omega
  case fine =>
    simp only [ EDGE_OK_RATIO, ← List.countP_eq_length_filter]
    have written : (0.8 : ℚ) = (4 : ℕ) / (5 : ℕ) := by norm_num
    rw [← not_lt, okRatio_lt_iff some_results inside few (by decide) written]
    omega
  case fast => exact median_le_iff EDGE_SLOW_MS

theorem Counts.perm {stats : EdgeStats} {results probes : List EdgeProbe} (counts : Counts stats results)
    (perm : results.Perm probes) : Counts stats probes := by
  have latencies := perm.filterMap (·.latency_ms)
  obtain ⟨samples, dead, fine, fast⟩ := counts
  rw [perm.length_eq, perm.countP_eq] at dead fine
  rw [latencies.length_eq, latencies.countP_eq] at fast
  exact ⟨samples.trans perm.length_eq, dead, fine, fast⟩

theorem classify_mode {stats : EdgeStats} {probes : List EdgeProbe} (counts : Counts stats probes) (some_probes : probes ≠ [])
    {inner : InnerStats} {latest : Option AgentReport} {now : ℤ}
    (alive : inner.alive = ((Evidence.of probes latest).heard now).any (· ≠ .failed))
    (degraded : inner.alive = true → inner.degraded = decide ((Evidence.of probes latest).heard now = some .degraded)) :
    classifyNetMode (some stats) (some inner) = (Evidence.of probes latest).mode now := by
  obtain ⟨samples, dead, fine, fast⟩ := counts
  have none_zero : probes.length ≠ 0 := fun empty => some_probes (List.length_eq_zero_iff.mp empty)
  have isDead : decide (stats.okRatio < EDGE_DEGRADED_RATIO) = decide (Evidence.of probes latest).Dead :=
    decide_eq_decide.mpr dead
  have isFine : (decide ( EDGE_OK_RATIO ≤ stats.okRatio) && stats.medianLatencyMs.all (· ≤ EDGE_SLOW_MS)) =
      decide (Evidence.of probes latest).Fine := by
    rw [Bool.eq_iff_iff, Bool.and_eq_true, decide_eq_true_eq, decide_eq_true_eq, fine, fast]
    rfl
  simp only [classifyNetMode, Evidence.mode, samples, isDead, isFine, alive]
  rw [if_neg none_zero, if_neg (show (Evidence.of probes latest).samples ≠ 0 from none_zero)]
  cases said : (Evidence.of probes latest).heard now with
  | none =>
    by_cases gone : (Evidence.of probes latest).Dead <;> simp [gone]
  | some status =>
    rw [said] at alive degraded
    cases status with
    | healthy =>
      have well : inner.degraded = false := degraded alive
      by_cases gone : (Evidence.of probes latest).Dead <;> simp [gone, well]
    | degraded =>
      have ill : inner.degraded = true := degraded alive
      by_cases gone : (Evidence.of probes latest).Dead <;> simp [gone, ill]
    | failed => by_cases gone : (Evidence.of probes latest).Dead <;> simp [gone]

theorem innerStats_heard {tables : Tables} {id : String} {row : DeploymentRow} (found : tables.deployments.get? id = some row)
    (ready : row.status = .ready) {reports : List AgentReport}
    (reported : tables.agent_reports.filter (·.deployment_id = id) = reports)
    (unseen : reports = [] → row.last_seen_at = none) (probes : List EdgeProbe) (now : ℤ) :
    ∃ inner, innerStats tables id now = some inner ∧
      inner.alive = ((Evidence.of probes (latest reports)).heard now).any (· ≠ .failed) ∧
      (inner.alive = true → inner.degraded =
        decide ((Evidence.of probes (latest reports)).heard now = some .degraded)) := by
  refine ⟨_, by rw [innerStats, found, Option.bind_some, if_neg (not_not.mpr ready)], ?_⟩
  rw [latestReport, reported]
  cases newest : latest reports with
  | none =>
    rw [unseen (latest_eq_none.mp newest)]
    simp [Evidence.heard, Evidence.of]
  | some report =>
    cases fresh : isFresh now report.reported_at <;> simp [Evidence.heard, Evidence.of, Option.filter, fresh]

/-! ## The tables after a run -/

theorem receiveAgentReport_ok {sha256 : String → String} {tables after : Tables} {token : Option String} {body : Js}
    {allowed : Bool} {now : ℤ} (taken : receiveAgentReport sha256 tables token body allowed now = .ok after) :
    ∃ id status, body.fields.bind readReport = some (id, status) ∧ (tables.deployments.get? id).isSome ∧
      after = { tables with
        agent_reports := tables.agent_reports ++ [⟨id, status, now⟩]
        deployments := tables.deployments.modify id ({ · with last_seen_at := some now }) } := by
  unfold receiveAgentReport at taken
  dsimp only at taken
  split at taken
  · contradiction
  · split at taken
    · contradiction
    · next fields read =>
      split at taken
      · contradiction
      · next id status valid =>
        split at taken
        · contradiction
        · next deployment found =>
          split at taken
          · contradiction
          · split at taken
            · contradiction
            · refine ⟨id, status, ?_, by rw [found, Option.isSome_some], (Except.ok.inj taken).symm⟩
              rw [read, Option.bind_some, valid]

/-- What the tables have of a deployment is what the tape has of it. -/
structure Follows (id : String) (now : ℤ) (tape : List Event) (tables : Tables) : Prop where
  unborn : tape.countP (Event.creates id) = 0 → tables.deployments.get? id = none ∧ reportsOf tape id = []
  probes : tape.countP (Event.creates id) = 0 ∨ (tables.deployments.get? id).isSome →
    Purged (·.expires_at) now (tables.edge_probes.filter (·.deployment_id = id)) (probesOf tape id)
  reports : tape.countP (Event.creates id) = 0 ∨ (tables.deployments.get? id).isSome →
    tables.agent_reports.filter (·.deployment_id = id) = reportsOf tape id
  unseen : ∀ row, tables.deployments.get? id = some row → reportsOf tape id = [] → row.last_seen_at = none

section

variable {sha256 : String → String} {id : String} {now : ℤ} {tape : List Event} {tables after : Tables}

theorem reportsOf_append (event : Event) :
    reportsOf (tape ++ [event]) id = reportsOf tape id ++ (event.report?.toList.filter (·.deployment_id = id)) := by
  cases reported : event.report? <;> simp [reportsOf, List.filterMap_append, List.filter_append, reported]

theorem probesOf_append (event : Event) :
    probesOf (tape ++ [event]) id = probesOf tape id ++ (event.probe?.toList.filter (·.deployment_id = id)) := by
  cases probed : event.probe? <;> simp [probesOf, List.filterMap_append, List.filter_append, probed]

/-- An event of another kind. -/
theorem Follows.quiet {event : Event} (follows : Follows id now tape tables) (silent : event.report? = none)
    (unprobed : event.probe? = none) (other : event.creates id = false) : Follows id now (tape ++ [event]) tables := by
  have reports : reportsOf (tape ++ [event]) id = reportsOf tape id := by simp [reportsOf_append, silent]
  have probes : probesOf (tape ++ [event]) id = probesOf tape id := by simp [probesOf_append, unprobed]
  have count : (tape ++ [event]).countP (Event.creates id) = tape.countP (Event.creates id) := by
    simp [other]
  obtain ⟨unborn, probed, reported, unseen⟩ := follows
  constructor
  · rwa [count, reports]
  · rwa [count, probes]
  · rwa [count, reports]
  · rwa [reports]

theorem Follows.report {token : Option String} {body : Js} {time : ℤ} (follows : Follows id now tape tables)
    (taken : receiveAgentReport sha256 tables token body true time = .ok after) :
    Follows id now (tape ++ [Event.report token body time]) after := by
  obtain ⟨other, status, read, known, rfl⟩ := receiveAgentReport_ok taken
  have row : (Event.report token body time).report? = some ⟨other, status, time⟩ := by
    simp [Event.report?, read]
  have count : (tape ++ [Event.report token body time]).countP (Event.creates id) = tape.countP (Event.creates id) := by
    simp [Event.creates]
  have present : ((tables.deployments.modify other ({ · with last_seen_at := some time })).get? id).isSome =
      (tables.deployments.get? id).isSome := by
    rw [OrderedMap.get?_modify]
    split
    · next same => rw [same, Option.isSome_map]
    · rfl
  obtain ⟨unborn, probes, reports, unseen⟩ := follows
  constructor
  case unborn =>
    intro none
    rw [count] at none
    obtain ⟨absent, silent⟩ := unborn none
    have apart : id ≠ other := by
      rintro rfl
      rw [absent] at known
      contradiction
    constructor
    · rw [OrderedMap.get?_modify, if_neg apart, absent]
    · simp [reportsOf_append, silent, row, Ne.symm apart]
  case probes =>
    rw [count, present]
    simpa [probesOf_append, Event.probe?] using probes
  case reports =>
    rw [count, present]
    intro born
    rw [List.filter_append, reports born, reportsOf_append, row]
    rfl
  case unseen =>
    intro deployment found silent
    rw [reportsOf_append, row, List.append_eq_nil_iff] at silent
    have apart : id ≠ other := by
      rintro rfl
      simp at silent
    rw [OrderedMap.get?_modify, if_neg apart] at found
    exact unseen deployment found silent.1

theorem Follows.probe (follows : Follows id now tape tables) (outcome : EdgeProbeOutcome) (time : ℤ) :
    Follows id now (tape ++ [Event.probe outcome time])
      { tables with edge_probes := recordEdgeProbe tables.edge_probes outcome time } := by
  have reports : reportsOf (tape ++ [Event.probe outcome time]) id = reportsOf tape id := by
    simp [reportsOf_append, Event.report?]
  have count : (tape ++ [Event.probe outcome time]).countP (Event.creates id) = tape.countP (Event.creates id) := by
    simp [Event.creates]
  obtain ⟨unborn, probes, reported, unseen⟩ := follows
  constructor
  · rwa [count, reports]
  · intro born
    rw [count] at born
    rw [recordEdgeProbe, List.filter_append, probesOf_append]
    by_cases own : outcome.deploymentId = id
    · simpa [Event.probe?, edgeProbe, own] using (probes born).append (edgeProbe outcome time)
    · simpa [Event.probe?, edgeProbe, own] using probes born
  · rwa [count, reports]
  · rwa [reports]

theorem Follows.purge (follows : Follows id now tape tables) {time : ℤ} (past : time ≤ now) :
    Follows id now tape { tables with edge_probes := purgeExpiredEdgeProbes tables.edge_probes time } := by
  refine { follows with probes := fun born => ?_ }
  have purged := (follows.probes born).purge past
  rw [live, List.filter_filter] at purged
  rw [purgeExpiredEdgeProbes, live, List.filter_filter]
  simpa only [Bool.and_comm] using purged

theorem Follows.move (follows : Follows id now tape tables) (other : String) (status : Status)
    (agentTokenHash : Option String) : Follows id now tape { tables with
      deployments := tables.deployments.modify other fun row => ⟨status, agentTokenHash, row.last_seen_at⟩ } := by
  have present : ((tables.deployments.modify other fun row => ⟨status, agentTokenHash, row.last_seen_at⟩).get? id).isSome =
      (tables.deployments.get? id).isSome := by
    rw [OrderedMap.get?_modify]
    split
    · next same => rw [same, Option.isSome_map]
    · rfl
  obtain ⟨unborn, probes, reports, unseen⟩ := follows
  constructor
  case unborn =>
    intro none
    obtain ⟨absent, silent⟩ := unborn none
    rw [absent, Option.isSome_none, Option.isSome_eq_false_iff, Option.isNone_iff_eq_none] at present
    exact ⟨present, silent⟩
  case probes => rwa [present]
  case reports => rwa [present]
  case unseen =>
    intro row found silent
    rw [OrderedMap.get?_modify] at found
    split at found
    · next same =>
      obtain ⟨before, held, rfl⟩ := Option.map_eq_some_iff.mp found
      exact unseen before (same ▸ held) silent
    · exact unseen row found silent

theorem Follows.create_other (follows : Follows id now tape tables) {other : String} (apart : id ≠ other) :
    Follows id now tape { tables with deployments := tables.deployments.alter other fun _ => ⟨.queued, none, none⟩ } := by
  have same : (tables.deployments.alter other fun _ => ⟨.queued, none, none⟩).get? id = tables.deployments.get? id := by
    rw [OrderedMap.get?_alter, if_neg apart]
  obtain ⟨unborn, probes, reports, unseen⟩ := follows
  constructor
  · rwa [same]
  · rwa [same]
  · rwa [same]
  · rwa [same]

theorem Follows.create (follows : Follows id now tape tables) (fresh : tape.countP (Event.creates id) = 0) :
    Follows id now (tape ++ [Event.create id])
      { tables with deployments := tables.deployments.alter id fun _ => ⟨.queued, none, none⟩ } := by
  have reports : reportsOf (tape ++ [Event.create id]) id = reportsOf tape id := by simp [reportsOf_append, Event.report?]
  have probes : probesOf (tape ++ [Event.create id]) id = probesOf tape id := by simp [probesOf_append, Event.probe?]
  constructor
  case unborn => simp [Event.creates]
  case probes => exact fun _ => probes ▸ follows.probes (.inl fresh)
  case reports => exact fun _ => reports ▸ follows.reports (.inl fresh)
  case unseen =>
    intro row found silent
    rw [OrderedMap.get?_alter, if_pos rfl] at found
    exact (Option.some.inj found) ▸ rfl

theorem Follows.delete (follows : Follows id now tape tables) {other : String}
    (known : (tables.deployments.get? other).isSome) (cascades : Bool) : Follows id now tape {
      deployments := tables.deployments.filter fun key _ => key ≠ other
      agent_reports := tables.agent_reports.filter (·.deployment_id ≠ other)
      edge_probes := if cascades then tables.edge_probes.filter (·.deployment_id ≠ other) else tables.edge_probes } := by
  by_cases apart : id = other
  · subst apart
    have gone : (tables.deployments.filter fun key _ => key ≠ id).get? id = none := by simp [OrderedMap.get?_filter]
    have born : tape.countP (Event.creates id) ≠ 0 := by
      intro none
      rw [(follows.unborn none).1] at known
      contradiction
    constructor
    case unborn => exact fun none => absurd none born
    case probes =>
      rw [gone]
      exact fun either => absurd either (by simp [born])
    case reports =>
      rw [gone]
      exact fun either => absurd either (by simp [born])
    case unseen =>
      rw [gone]
      exact fun row found => by contradiction
  · have same : (tables.deployments.filter fun key _ => key ≠ other).get? id = tables.deployments.get? id := by
      simp [OrderedMap.get?_filter, apart]
    have own {ι : Type} (rows : List ι) (name : ι → String) :
        (rows.filter (name · ≠ other)).filter (name · = id) = rows.filter (name · = id) := by
      rw [List.filter_filter]
      apply List.filter_congr
      intro row _
      by_cases here : name row = id <;> simp [here, apart]
    obtain ⟨unborn, probes, reports, unseen⟩ := follows
    constructor
    case unborn => rwa [same]
    case probes =>
      rw [same]
      cases cascades with
      | false => exact probes
      | true => simpa only [if_true, own tables.edge_probes (·.deployment_id)] using probes
    case reports => simpa only [same, own tables.agent_reports (·.deployment_id)] using reports
    case unseen => rwa [same]

/-- No table holds anything. -/
def Tables.empty : Tables := ⟨.empty, [], []⟩

/-- The condition on the clocks of the purges. -/
def PurgedBy (now : ℤ) (_ : Tables) (event : Event) : Prop := ∀ time, event.purge? = some time → time ≤ now

theorem ok_of_toOption {ε α : Type} {tried : Except ε α} {value : α} (kept : tried.toOption = some value) :
    tried = .ok value := by
  cases tried with
  | error error => contradiction
  | ok found => exact congrArg _ (Option.some.inj kept)

theorem follows_run (run : (machine sha256).Run (PurgedBy now) .empty tape tables)
    (once : tape.countP (Event.creates id) ≤ 1) : Follows id now tape tables := by
  refine run.preserves_tape (fun tape tables => tape.countP (Event.creates id) ≤ 1 → Follows id now tape tables)
    ?_ ?_ once
  · intro before tables event after follows past stepped once
    rw [List.countP_append] at once
    have follows := follows (by omega)
    cases event with
    | report token body time =>
      exact follows.report (ok_of_toOption stepped)
    | probe outcome time =>
      obtain rfl := Option.some.inj stepped
      exact follows.probe outcome time
    | purge time =>
      obtain rfl := Option.some.inj stepped
      exact (follows.purge (past time rfl)).quiet rfl rfl rfl
    | create other =>
      obtain ⟨-, stepped⟩ := Option.ite_none_left_eq_some.mp stepped
      obtain rfl := Option.some.inj stepped
      by_cases own : other = id
      · subst own
        have fresh : before.countP (Event.creates other) = 0 := by
          rw [List.countP_singleton, Event.creates, if_pos (by simp)] at once
          omega
        exact follows.create fresh
      · exact (follows.create_other (Ne.symm own)).quiet rfl rfl (by simp [Event.creates, own])
    | move other status agentTokenHash =>
      obtain rfl := Option.some.inj stepped
      exact (follows.move other status agentTokenHash).quiet rfl rfl rfl
    | delete other cascades =>
      obtain ⟨deletable, stepped⟩ := Option.ite_none_right_eq_some.mp stepped
      obtain rfl := Option.some.inj stepped
      obtain ⟨row, found, -⟩ := (Option.any_eq_true _ _).mp deletable
      exact (follows.delete (by rw [found, Option.isSome_some]) cascades).quiet rfl rfl rfl
  · intro _
    exact ⟨fun _ => ⟨rfl, rfl⟩, fun _ => rfl, fun _ => rfl, fun _ _ _ => by contradiction⟩

def isReady (tables : Tables) (id : String) : Bool := (tables.deployments.get? id).any (·.status = .ready)

/-- The probes that the verdict counts; a purge takes none of them. -/
theorem Follows.counted (follows : Follows id now tape tables) (born : (tables.deployments.get? id).isSome) :
    tables.edge_probes.filter (probedSince id (now - EDGE_WINDOW_HOURS * 3600000)) = recentProbes tape id now := by
  have lasting : ∀ probe : EdgeProbe, decide (now - EDGE_WINDOW_HOURS * 3600000 < probe.probed_at) = true →
      now < probe.expires_at := by
    intro probe recent
    have recent := of_decide_eq_true recent
    rw [probe.retained]
    simp only [EDGE_WINDOW_HOURS, EDGE_PROBE_RETENTION_HOURS] at recent ⊢
    omega
  rw [recentProbes, ← (follows.probes (.inr born)).read (fun probe _ => lasting probe) (fun probe _ => lasting probe),
    List.filter_filter]
  apply List.filter_congr
  intro probe _
  exact Bool.and_comm _ _

/-- After any run the mode of a node that is ready is the one of its probes of the last six hours and of its latest
report; an id is given once, and an array has less than 2^32 elements. -/
theorem netMode_run (run : (machine sha256).Run (PurgedBy now) .empty tape tables)
    (once : tape.countP (Event.creates id) ≤ 1) (few : (evidenceOf tape id now).samples < 2 ^ 32) :
    netModeForDeployment tables id now =
      if isReady tables id then (evidenceOf tape id now).mode now else .nodata := by
  have follows := follows_run run once
  rw [netModeForDeployment, isReady]
  cases found : tables.deployments.get? id with
  | none => simp [innerStats, found, classifyNetMode]
  | some row =>
    by_cases ready : row.status = .ready
    · have born : (tables.deployments.get? id).isSome := by rw [found, Option.isSome_some]
      obtain ⟨inner, read, alive, degraded⟩ := innerStats_heard found ready (follows.reports (.inr born))
        (follows.unseen row found) (recentProbes tape id now) now
      have perm := List.perm_insertionSort Later (recentProbes tape id now)
      rw [edgeStats, follows.counted born, read, Option.any_some, if_pos (decide_eq_true ready)]
      by_cases silent : recentProbes tape id now = []
      · simp [silent, statsOf, classifyNetMode, Evidence.mode, evidenceOf, Evidence.of]
      · have heard : (recentProbes tape id now).insertionSort Later ≠ [] :=
          fun empty => silent (List.perm_nil.mp (empty ▸ perm.symm))
        obtain ⟨stats, counted, counts⟩ := statsOf_counts heard (perm.length_eq.trans_lt few)
        rw [counted]
        exact classify_mode (counts.perm perm) silent alive degraded
    · simp [innerStats, found, ready, classifyNetMode]

end

namespace Sample

def node : String := "0a1b2c3d-0000-4000-8000-000000000001"

/-- The digest of the one token. -/
def digest : String := "ZtNPunH49FD35FWYhT5Tv8I7vRKQJ8uxMaL0_9eHjNA"

def sha256 (_ : String) : String := digest

def body : Js := .object [("deploymentId", .string node), ("status", .string "healthy"), ("serviceActive", .bool true),
  ("singBoxVersion", .string "1.12.0"), ("configSha256", .string (String.ofList (List.replicate 64 '0')))]

/-- A node that is created, made ready, probed twice and heard once; a purge takes the first probe. -/
def tape : List Event := [.create node, .probe ⟨node, false, none, none⟩ 0, .move node .ready (some digest),
  .probe ⟨node, true, some 200, some 120⟩ 86400000,
  .report (some (String.ofList (List.replicate 43 'a'))) body 86400001, .purge 86400002]

def isPast (_ : Tables) (event : Event) : Bool := event.purge?.all (· ≤ 86400003)

def final : Tables := ((machine sha256).checked? isPast .empty tape).getD .empty

end Sample

theorem netMode_sample : netModeForDeployment Sample.final Sample.node 86400003 = .open := by
  have complete : ((machine Sample.sha256).checked? Sample.isPast .empty Sample.tape).isSome := by decide +kernel
  obtain ⟨tables, replayed⟩ := Option.isSome_iff_exists.mp complete
  have same : Sample.final = tables := by rw [Sample.final, replayed, Option.getD_some]
  have run : (machine Sample.sha256).Run (PurgedBy 86400003) .empty Sample.tape Sample.final := by
    rw [same]
    refine .of_checked (fun _ event past time purged => ?_) replayed
    rw [Sample.isPast, purged] at past
    exact of_decide_eq_true past
  rw [netMode_run run (by decide +kernel) (by decide +kernel)]
  decide +kernel

end OmniControlPlane.Telemetry.Network
