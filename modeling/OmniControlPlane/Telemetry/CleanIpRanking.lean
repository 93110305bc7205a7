import OmniControlPlane.Lib.Machine
import OmniControlPlane.Telemetry.CleanIpCrowd

/-! # The honesty of the ranking

Rows with a fresh report and rows without share one score. What reports can leave in the table bounds the score of
the former below that of the latter.
-/

namespace OmniControlPlane.Telemetry.CleanIp

open Lib Machine JavaScript
open WhiteHole

/-! ## The table -/

def CLEAN_IP_RETENTION_SECONDS : ℤ := 7 * 86400

/-- A report expires as long after it was recorded as all others do: the clock of a Worker stands still between the two
readings. -/
def purgeExpiredCleanIpReports (table : Table) (now : ℤ) : Table :=
  table.filter fun _ row => now < row.updated_at + CLEAN_IP_RETENTION_SECONDS * 1000

inductive Event where
  | record (report : CleanIpReport) (now : ℤ)
  | purge (now : ℤ)

def machine : Machine Table Event where
  step?
    | table, .record report now => some (recordCleanIpReport table report now)
    | table, .purge now => some (purgeExpiredCleanIpReports table now)

/-- A row that reports can leave. -/
structure Recorded (row : ReportRow) : Prop where
  latency : -1 ≤ row.latency_ms ∧ row.latency_ms ≤ 10000
  loss : 0 ≤ row.loss_pct ∧ row.loss_pct ≤ 100
  reported : 0 < row.report_count

section

variable {report : CleanIpReport} {now : ℤ}

theorem CleanIpReport.loss_range (report : CleanIpReport) : 0 ≤ report.lossPct ∧ report.lossPct ≤ 100 := by
  obtain ⟨tenths, most, loss⟩ := report.loss_tenths
  have most' : (tenths : ℚ) ≤ 1000 := by exact_mod_cast most
  rw [loss]
  constructor
  · positivity
  · linarith

theorem recorded_first : Recorded (merge report now none) := by
  obtain ⟨least, most⟩ := report.latency_range
  exact ⟨⟨le_max_left _ _, max_le (by decide) most⟩, report.loss_range, Nat.one_pos⟩

theorem recorded_next {row : ReportRow} (old : Recorded row) : Recorded (merge report now (some row)) := by
  obtain ⟨least, most⟩ := report.latency_range
  obtain ⟨none, all⟩ := report.loss_range
  have rounded : 0 ≤ sqlRound ((row.loss_pct * (6 / 10) + report.lossPct * (4 / 10)) * 10) ∧
      sqlRound ((row.loss_pct * (6 / 10) + report.lossPct * (4 / 10)) * 10) ≤ 1000 := by
    obtain ⟨none', all'⟩ := old.loss
    constructor
    · apply le_sqlRound
      push_cast
      linarith
    · apply sqlRound_le
      push_cast
      linarith
  constructor
  case latency =>
    exact ⟨le_average old.latency.1 (le_max_left _ _), average_le old.latency.2 (max_le (by decide) most)⟩
  case loss =>
    obtain ⟨low, high⟩ := rounded
    have low' : (0 : ℚ) ≤ sqlRound ((row.loss_pct * (6 / 10) + report.lossPct * (4 / 10)) * 10) := by exact_mod_cast low
    have high' : (sqlRound ((row.loss_pct * (6 / 10) + report.lossPct * (4 / 10)) * 10) : ℚ) ≤ 1000 := by
      exact_mod_cast high
    change 0 ≤ (sqlRound _ / 10 : ℚ) ∧ (sqlRound _ / 10 : ℚ) ≤ 100
    constructor
    · linarith
    · linarith
  case reported => exact Nat.succ_pos _

end

theorem recorded_run {events : List Event} {table : Table} (run : machine.Run Free .empty events table) :
    ∀ cell row, table.get? cell = some row → Recorded row := by
  apply run.preserves fun table => ∀ cell row, table.get? cell = some row → Recorded row
  · intro table event next held _ stepped cell row found
    cases event with
    | record report now =>
      obtain rfl := Option.some.inj stepped
      rw [recordCleanIpReport, OrderedMap.get?_alter] at found
      split at found
      · obtain rfl := Option.some.inj found
        cases before : table.get? report.cell with
        | none => exact recorded_first
        | some old => exact recorded_next (held _ old before)
      · exact held cell row found
    | purge now =>
      obtain rfl := Option.some.inj stepped
      exact held cell row (OrderedMap.get?_filter_eq_some_iff.mp found).1
  · intro cell row found
    contradiction

/-! ## The ranking -/

structure CleanIpRanking where
  rows : List RankedRow
  measured : ℕ
  poolSize : ℕ

/-- `Math.min(CLEAN_IP_MAX_ROWS, Math.max(1, limit ?? 10))`, as `slice` takes it. -/
def sliceEnd : Option JsNumber → ℕ
  | none => 10
  | some .nan => 0
  | some (.infinity negative) => if negative then 1 else CLEAN_IP_MAX_ROWS
  | some (.finite limit) => ⌊min (CLEAN_IP_MAX_ROWS : ℚ) (max 1 limit)⌋₊

/-- The rows are `stored` in the order in which the database gives them. -/
def rankCleanIps (stored : List ReportRow) (operator city : Option String) (limit : Option JsNumber) (now : ℤ) :
    CleanIpRanking :=
  let rows := rankedRows stored operator city now
  { rows := rows.take (sliceEnd limit)
    measured := rows.countP (·.measured)
    poolSize := (poolOf (segmentOf stored operator city)).length }

/-- A report of the last day for an IP, in the segment. -/
def Fresh (segment : List ReportRow) (now : ℤ) (ip : String) : Prop :=
  ∃ row ∈ segment, row.ip = ip ∧ now - CLEAN_IP_FRESHNESS_HOURS * 3600000 < row.updated_at

instance (segment : List ReportRow) (now : ℤ) : DecidablePred (Fresh segment now) := fun ip =>
  inferInstanceAs (Decidable (∃ row ∈ segment, row.ip = ip ∧ now - CLEAN_IP_FRESHNESS_HOURS * 3600000 < row.updated_at))

/-! ## The latest reports -/

section

variable {segment : List ReportRow} {ip : String}

/-- What `latest` keeps of a row and what it has. -/
def newer (row : ReportRow) : Option ReportRow → ReportRow
  | none => row
  | some existing => if existing.updated_at < row.updated_at then row else existing

theorem get?_latest (segment : List ReportRow) (ip : String) : (latest segment).get? ip =
    (segment.filter (·.ip = ip)).foldl (fun existing row => some (newer row existing)) none := by
  rw [latest, ← OrderedMap.get?_empty ip, ← OrderedMap.get?_foldl_alter]
  rfl

/-- The latest of the rows of an IP, where there is one. -/
theorem latest_cases (segment : List ReportRow) (ip : String) :
    ((latest segment).get? ip = none ∧ ∀ other ∈ segment, other.ip ≠ ip) ∨
    ∃ row, (latest segment).get? ip = some row ∧ row ∈ segment ∧ row.ip = ip ∧
      ∀ other ∈ segment, other.ip = ip → other.updated_at ≤ row.updated_at := by
  suffices kept : ∀ rows : List ReportRow,
      let last := rows.foldl (fun existing row => some (newer row existing)) none
      (last = none ∧ rows = []) ∨ ∃ row, last = some row ∧ row ∈ rows ∧ ∀ other ∈ rows, other.updated_at ≤ row.updated_at by
    rw [get?_latest]
    rcases kept (segment.filter (·.ip = ip)) with ⟨absent, nothing⟩ | ⟨row, found, member, last⟩
    · refine .inl ⟨absent, fun other listed same => ?_⟩
      have there : other ∈ segment.filter (·.ip = ip) := List.mem_filter.mpr ⟨listed, by simpa using same⟩
      rw [nothing] at there
      contradiction
    · obtain ⟨listed, same⟩ := List.mem_filter.mp member
      refine .inr ⟨row, found, listed, of_decide_eq_true same, fun other listed same => ?_⟩
      exact last other (List.mem_filter.mpr ⟨listed, by simpa using same⟩)
  intro rows
  induction rows using List.reverseRecOn with
  | nil => exact .inl ⟨rfl, rfl⟩
  | append_singleton rows row ih =>
    right
    rw [List.foldl_append, List.foldl_cons, List.foldl_nil]
    have here : row ∈ rows ++ [row] := List.mem_append_right _ (List.mem_singleton.mpr rfl)
    rcases ih with ⟨absent, rfl⟩ | ⟨old, found, member, last⟩
    · refine ⟨row, rfl, here, fun other listed => ?_⟩
      obtain rfl := List.mem_singleton.mp listed
      exact le_rfl
    · rw [found, newer]
      split
      · next later =>
        refine ⟨row, rfl, here, fun other listed => ?_⟩
        rcases List.mem_append.mp listed with earlier | same
        · exact (last other earlier).trans later.le
        · rw [List.mem_singleton.mp same]
      · next earlier =>
        refine ⟨old, rfl, List.mem_append_left _ member, fun other listed => ?_⟩
        rcases List.mem_append.mp listed with listed | same
        · exact last other listed
        · rw [List.mem_singleton.mp same]
          exact not_lt.mp earlier

end

/-! ## The rows -/

theorem roundScore_le {score : ℚ} {most : ℕ} (small : most < 2 ^ 40) (below : score ≤ most) :
    roundScore score ≤ most := by
  have tenfold : toDouble (score * 10) ≤ (most * 10 : ℕ) := by
    apply toDouble_le_natCast (by omega)
    push_cast
    linarith
  have whole : ⌊toDouble (score * 10) + 1 / 2⌋ < ((most * 10 : ℕ) : ℤ) + 1 := by
    rw [Int.floor_lt]
    push_cast at tenfold ⊢
    linarith
  have whole' : (⌊toDouble (score * 10) + 1 / 2⌋ : ℚ) ≤ most * 10 := by exact_mod_cast Int.lt_add_one_iff.mp whole
  exact toDouble_le_natCast (by omega) (by linarith)

theorem le_roundScore {score : ℚ} {least : ℕ} (small : least < 2 ^ 40) (above : least ≤ score) :
    least ≤ roundScore score := by
  have tenfold : (least * 10 : ℕ) ≤ toDouble (score * 10) := by
    apply natCast_le_toDouble (by omega)
    push_cast
    linarith
  have whole : ((least * 10 : ℕ) : ℤ) ≤ ⌊toDouble (score * 10) + 1 / 2⌋ := by
    rw [Int.le_floor]
    push_cast at tenfold ⊢
    linarith
  have whole' : (least * 10 : ℚ) ≤ ⌊toDouble (score * 10) + 1 / 2⌋ := by exact_mod_cast whole
  exact natCast_le_toDouble (by omega) (by linarith)

section

variable (operator : CleanIpOperator) {byIp : OrderedMap String ReportRow} {now : ℤ} {entry : String × CleanIpTier}

/-- A row without data. -/
structure NoData (row : RankedRow) : Prop where
  measured : row.measured = false
  status : row.status = "nodata"
  latencyMs : row.latencyMs = none
  lossPct : row.lossPct = none
  score : 1000000 ≤ row.score

theorem score_unmeasured (ip : String) : 1000000 ≤ roundScore (1000000 + ipOctetSum ip) := by
  have least : (1000000 : ℕ) ≤ roundScore (1000000 + ipOctetSum ip) := by
    apply le_roundScore (by decide)
    push_cast
    linarith [@Nat.cast_nonneg ℚ _ _ _ (ipOctetSum ip)]
  exact_mod_cast least

theorem rowOf_unreported (absent : byIp.get? entry.1 = none) : NoData (rowOf operator byIp now entry) := by
  have score : (rowOf operator byIp now entry).score = roundScore (1000000 + ipOctetSum entry.1) := by
    simp [rowOf, absent]
  constructor
  case score =>
    rw [score]
    exact score_unmeasured entry.1
  all_goals simp [rowOf, absent]

variable {report : ReportRow} (found : byIp.get? entry.1 = some report)

include found in
theorem rowOf_stale (stale : ¬ now - CLEAN_IP_FRESHNESS_HOURS * 3600000 < report.updated_at) :
    NoData (rowOf operator byIp now entry) := by
  have score : (rowOf operator byIp now entry).score = roundScore (1000000 + ipOctetSum entry.1) := by
    simp [rowOf, found, stale]
  constructor
  case score =>
    rw [score]
    exact score_unmeasured entry.1
  all_goals simp [rowOf, found, stale]

include found in
theorem rowOf_fresh (recorded : Recorded report)
    (fresh : now - CLEAN_IP_FRESHNESS_HOURS * 3600000 < report.updated_at) :
    (rowOf operator byIp now entry).measured = true ∧ (rowOf operator byIp now entry).score < 1000000 := by
  have measured : (rowOf operator byIp now entry).measured = true := by
    simp [rowOf, found, fresh, recorded.reported]
  refine ⟨measured, ?_⟩
  have score : (rowOf operator byIp now entry).score = roundScore (toDouble (
      toDouble ((if 0 ≤ report.latency_ms then (report.latency_ms : ℚ) / 2 else 60) +
        toDouble (toDouble report.loss_pct * 25)) +
      max 0 (toDouble (((now - report.updated_at : ℤ) : ℚ) / 3600000)) * 2)) := by
    by_cases latent : 0 ≤ report.latency_ms
    · simp [rowOf, found, fresh, recorded.reported, latent, Option.filter_some]
    · simp [rowOf, found, fresh, recorded.reported, latent, Option.filter_some]
  have lost : toDouble (toDouble report.loss_pct * 25) ≤ (2500 : ℕ) := by
    have loss : toDouble report.loss_pct ≤ (100 : ℕ) :=
      toDouble_le_natCast (by decide) (by exact_mod_cast recorded.loss.2)
    apply toDouble_le_natCast (by decide)
    push_cast at loss ⊢
    linarith
  have latency : (if 0 ≤ report.latency_ms then (report.latency_ms : ℚ) / 2 else 60) ≤ 5000 := by
    have most : (report.latency_ms : ℚ) ≤ 10000 := by exact_mod_cast recorded.latency.2
    split
    · linarith
    · norm_num
  have age : max 0 (toDouble (((now - report.updated_at : ℤ) : ℚ) / 3600000)) ≤ (24 : ℕ) := by
    have young : now - report.updated_at ≤ 24 * 3600000 := by
      unfold CLEAN_IP_FRESHNESS_HOURS at fresh
      omega
    have young' : ((now - report.updated_at : ℤ) : ℚ) ≤ 24 * 3600000 := by exact_mod_cast young
    refine max_le (Nat.cast_nonneg 24) (toDouble_le_natCast (by decide) ?_)
    rw [div_le_iff₀ (by norm_num)]
    exact_mod_cast young'
  have speed : toDouble ((if 0 ≤ report.latency_ms then (report.latency_ms : ℚ) / 2 else 60) +
      toDouble (toDouble report.loss_pct * 25)) ≤ (7500 : ℕ) := by
    apply toDouble_le_natCast (by decide)
    push_cast at lost ⊢
    linarith
  have total : toDouble (toDouble ((if 0 ≤ report.latency_ms then (report.latency_ms : ℚ) / 2 else 60) +
        toDouble (toDouble report.loss_pct * 25)) +
      max 0 (toDouble (((now - report.updated_at : ℤ) : ℚ) / 3600000)) * 2) ≤ (7548 : ℕ) := by
    apply toDouble_le_natCast (by decide)
    push_cast at speed age ⊢
    linarith
  have bound := roundScore_le (by decide) total
  rw [score]
  exact bound.trans_lt (by norm_num)

end

/-- A row has no data, or a fresh report and a score below those of all rows without data. -/
theorem rowOf_cases {segment : List ReportRow} (recorded : ∀ row ∈ segment, Recorded row) (operator : CleanIpOperator)
    (now : ℤ) (entry : String × CleanIpTier) :
    (¬ Fresh segment now entry.1 ∧ NoData (rowOf operator (latest segment) now entry)) ∨
    (Fresh segment now entry.1 ∧ (rowOf operator (latest segment) now entry).measured = true ∧
      (rowOf operator (latest segment) now entry).score < 1000000) := by
  rcases latest_cases segment entry.1 with ⟨absent, others⟩ | ⟨report, found, listed, same, last⟩
  · left
    refine ⟨?_, rowOf_unreported operator absent⟩
    rintro ⟨row, listed, same, -⟩
    exact others row listed same
  · by_cases fresh : now - CLEAN_IP_FRESHNESS_HOURS * 3600000 < report.updated_at
    · right
      exact ⟨⟨report, listed, same, fresh⟩, rowOf_fresh operator found (recorded report listed) fresh⟩
    · left
      refine ⟨?_, rowOf_stale operator found fresh⟩
      rintro ⟨row, listed', same', fresh'⟩
      exact fresh (fresh'.trans_le (last row listed' same'))

/-! ## The whole ranking -/

theorem pool_distinct (segment : List ReportRow) : ((poolOf segment).map (·.1)).Nodup := by
  rw [poolOf, List.map_append, List.map_map]
  apply List.nodup_append.mpr
  refine ⟨by decide +kernel, ?_, ?_⟩
  · have reported : ∀ ips : List String, ips.map ((·.1) ∘ fun ip => (ip, CleanIpTier.cloudflare)) = ips := fun ips =>
      List.map_id ips
    rw [reported]
    exact (latest segment).distinct.filter _
  · rintro ip pooled other reported rfl
    obtain ⟨ip, absent, rfl⟩ := List.mem_map.mp reported
    exact of_decide_eq_true (List.mem_filter.mp absent).2 pooled

theorem rows_sorted (stored : List ReportRow) (operator city : Option String) (now : ℤ) :
    (rankedRows stored operator city now).Pairwise Ranks := by
  have total : Std.Total Ranks := ⟨by
    intro left right
    rcases lt_trichotomy left.score right.score with less | same | more
    · exact .inl (.inl less)
    · rcases le_total left.ip.toList right.ip.toList with under | beyond
      · exact .inl (.inr ⟨same, under⟩)
      · exact .inr (.inr ⟨same.symm, beyond⟩)
    · exact .inr (.inl more)⟩
  have trans : IsTrans RankedRow Ranks := ⟨by
    rintro first second third (less | ⟨same, under⟩) (less' | ⟨same', under'⟩)
    · exact .inl (less.trans less')
    · exact .inl (same' ▸ less)
    · exact .inl (same ▸ less')
    · exact .inr ⟨same.trans same', under.trans under'⟩⟩
  exact List.pairwise_insertionSort Ranks _

section

variable {stored : List ReportRow} {operator city : Option String} (now : ℤ)
  (recorded : ∀ row ∈ segmentOf stored operator city, Recorded row)

theorem rows_perm (stored : List ReportRow) (operator city : Option String) :
    (rankedRows stored operator city now).Perm ((poolOf (segmentOf stored operator city)).map
      (rowOf (findOperator (operator.getD "")) (latest (segmentOf stored operator city)) now)) :=
  List.perm_insertionSort Ranks _

theorem rows_distinct : ((rankedRows stored operator city now).map (·.ip)).Nodup := by
  apply ((rows_perm now stored operator city).map _).nodup_iff.mpr
  rw [List.map_map]
  exact pool_distinct _

include recorded in
theorem rows_cases {row : RankedRow} (listed : row ∈ rankedRows stored operator city now) :
    NoData row ∨ row.measured = true ∧ row.score < 1000000 := by
  obtain ⟨entry, -, rfl⟩ := List.mem_map.mp ((rows_perm now stored operator city).mem_iff.mp listed)
  rcases rowOf_cases recorded (findOperator (operator.getD "")) now entry with ⟨-, nodata⟩ | ⟨-, measured⟩
  · exact .inl nodata
  · exact .inr measured

include recorded in
theorem rows_measured : (rankedRows stored operator city now).countP (·.measured) =
    ((poolOf (segmentOf stored operator city)).map (·.1)).countP (Fresh (segmentOf stored operator city) now ·) := by
  rw [(rows_perm now stored operator city).countP_eq, List.countP_map, List.countP_map]
  apply List.countP_congr
  intro entry _
  rw [Function.comp_apply, Function.comp_apply, decide_eq_true_eq]
  rcases rowOf_cases recorded (findOperator (operator.getD "")) now entry with ⟨stale, nodata⟩ | ⟨fresh, measured, -⟩
  · rw [nodata.measured]
    exact iff_of_false Bool.false_ne_true stale
  · exact iff_of_true measured fresh

end

/-- Measured rows come first, each IP comes once, rows without a measurement say so, the rows are in the order of their
scores, and as many are measured as there are IPs of the pool with a fresh report. -/
structure HonestRanking (segment : List ReportRow) (now : ℤ) (ranking : CleanIpRanking) : Prop where
  measured_first : ranking.rows.Pairwise fun before after => after.measured = true → before.measured = true
  once : (ranking.rows.map (·.ip)).Nodup
  nodata : ∀ row ∈ ranking.rows, row.measured = false →
    row.status = "nodata" ∧ row.latencyMs = none ∧ row.lossPct = none
  ordered : ranking.rows.Pairwise fun before after => before.score ≤ after.score
  counted : ranking.measured = ((poolOf segment).map (·.1)).countP (Fresh segment now ·)

/-- The ranking is honest, whatever clients reported and in whichever order the database gives the rows. -/
theorem ranking_honest {events : List Event} {table : Table} (run : machine.Run Free .empty events table)
    {stored : List ReportRow} (listed : stored.Perm (table.entries.map (·.2))) (operator city : Option String)
    (limit : Option JsNumber) (now : ℤ) :
    HonestRanking (segmentOf stored operator city) now (rankCleanIps stored operator city limit now) := by
  have recorded : ∀ row ∈ segmentOf stored operator city, Recorded row := by
    intro row member
    obtain ⟨⟨cell, row⟩, entry, rfl⟩ := List.mem_map.mp (listed.mem_iff.mp (List.mem_filter.mp member).1)
    exact recorded_run run cell row (OrderedMap.mem_entries_iff.mp entry)
  have cut : (rankCleanIps stored operator city limit now).rows =
      (rankedRows stored operator city now).take (sliceEnd limit) := rfl
  have cases {row : RankedRow} (listed : row ∈ (rankCleanIps stored operator city limit now).rows) :
      NoData row ∨ row.measured = true ∧ row.score < 1000000 :=
    rows_cases now recorded (List.mem_of_mem_take (cut ▸ listed))
  have ordered : (rankCleanIps stored operator city limit now).rows.Pairwise fun before after =>
      before.score ≤ after.score := by
    rw [cut]
    apply List.Pairwise.sublist (List.take_sublist _ _)
    exact (rows_sorted _ operator city now).imp fun ranks => ranks.elim le_of_lt fun same => same.1.le
  constructor
  case measured_first =>
    apply ordered.imp_of_mem
    intro before after listed listed' less measured
    rcases cases listed with nodata | ⟨already, -⟩
    · rcases cases listed' with nodata' | ⟨-, low⟩
      · exact absurd (nodata'.measured.symm.trans measured) Bool.false_ne_true
      · exact absurd (nodata.score.trans less) (not_le.mpr low)
    · exact already
  case once =>
    rw [cut]
    exact (rows_distinct now).sublist ((List.take_sublist _ _).map _)
  case nodata =>
    intro row listed unmeasured
    rcases cases listed with nodata | ⟨measured, -⟩
    · exact ⟨nodata.status, nodata.latencyMs, nodata.lossPct⟩
    · exact absurd (unmeasured.symm.trans measured) Bool.false_ne_true
  case ordered => exact ordered
  case counted =>
    simp only [rankCleanIps]
    exact rows_measured now recorded

theorem Sample.hundred : (-1 : ℤ) ≤ 100 ∧ (100 : ℤ) ≤ 10000 := by decide

/-- An IP that was reported and measured again an hour later, and measured elsewhere at that moment -/
def Sample.events : List Event := [
  .record (Sample.report 100 Sample.hundred) 0,
  .record (Sample.report 60 (by decide)) 3600000,
  .record { Sample.report 250 (by decide) with city := "shiraz" } 3600000]

/-- The rows of both cities, the later one first -/
theorem ranking_honest_reported : ∃ table, machine.Run Free .empty Sample.events table ∧
    HonestRanking (segmentOf (table.entries.map (·.2)).reverse (some "mci") none) 7200000
      (rankCleanIps (table.entries.map (·.2)).reverse (some "mci") none none 7200000) := by
  obtain ⟨table, run⟩ : ∃ table, machine.Run Free .empty Sample.events table :=
    ⟨_, .cons trivial rfl (.cons trivial rfl (.cons trivial rfl (.nil _)))⟩
  exact ⟨table, run, ranking_honest run (List.reverse_perm _) (some "mci") none none 7200000⟩

end OmniControlPlane.Telemetry.CleanIp
