import Mathlib.Algebra.Order.Floor.Semiring
import Mathlib.Tactic.Linarith
import OmniControlPlane.Lib.JavaScript
import OmniControlPlane.Phantom.Pack
import OmniControlPlane.Portal.Wizard
import OmniControlPlane.WhiteHole.Ranking

/-! # Reports of clean IPs

What a client may send of an IP, and what is kept of it. Two names for each measurement go through `Number`, which
takes values for numbers that are none.
-/

namespace OmniControlPlane.Telemetry.CleanIp

open Lib JavaScript
open Phantom (lowerChar)
open Portal (HttpError Thrown)
open Portal.Wizard (isPublicIpv4)
open WhiteHole (CLEAN_IP_OPERATORS CLEAN_IP_CITIES)

/-! ## The report -/

/-- A report with the ranges that all writers keep: a latency below zero was not measured, and a loss is what its double
prints as, with one digit after the point. -/
structure CleanIpReport where
  ip : String
  operator : String
  city : String
  latencyMs : ℤ
  lossPct : ℚ
  ok : Bool
  latency_range : -1 ≤ latencyMs ∧ latencyMs ≤ 10000
  loss_tenths : ∃ tenths : ℕ, tenths ≤ 1000 ∧ lossPct = tenths / 10

def OPERATOR_ASNS : List (String × String) := [
  ("AS197207", "mci"), ("AS49100", "irancell"), ("AS57218", "rightel"), ("AS31549", "shatel"),
  ("AS39501", "mokhaberat"), ("AS43754", "asiatech")]

/-- `toLowerCase`, as far as the keys can see. -/
def lowered (text : List Char) : List Char := text.map lowerChar

def operatorByAsn (asn : String) : Option String :=
  (OPERATOR_ASNS.find? fun item => lowered item.1.toList = lowered asn.toList).map (·.2)

/-- A property that is a string, trimmed; otherwise the empty text. -/
def trimmed (body : Fields) (key : String) : List Char :=
  match body.get key with
  | some (.string text) => trim text
  | _ => []

/-- `typeof body[name] === "number" ? body[name] : Number(body[short])` -/
def measurement (body : Fields) (name short : String) : Except Thrown JsNumber :=
  match body.get name with
  | some (.number value) => .ok value
  | _ =>
    match body.get short with
    | none => .ok .nan
    | some value =>
      if throws value then .error (.other "Cannot convert object to primitive value") else .ok (plainNumber value)

/-- `Number.isFinite(raw) ? Math.round(raw) : -1` -/
def latencyOf : JsNumber → ℤ
  | .finite raw => ⌊raw + 1 / 2⌋
  | _ => -1

/-- `Math.round(Math.min(100, Math.max(0, raw)) * 10)`, of a number that is finite. -/
def tenthsOf : JsNumber → ℕ
  | .finite raw => ⌊toDouble (min 100 (max 0 raw) * 10) + 1 / 2⌋₊
  | _ => 0

theorem tenthsOf_le (raw : JsNumber) : tenthsOf raw ≤ 1000 := by
  cases raw with
  | finite raw =>
    exact @tenths_le _ 100 (by decide) (le_min (by norm_num) (le_max_left _ _)) (by exact_mod_cast min_le_left 100 (max 0 raw))
  | nan => exact Nat.zero_le _
  | infinity negative => exact Nat.zero_le _

/-- `ok`, or whether there is a latency. -/
def okOf (body : Fields) (latencyMs : ℤ) : Bool :=
  match body.get "ok" with
  | none => 0 ≤ latencyMs
  | some (.bool false) => false
  | some (.number (.finite value)) => value ≠ 0
  | some _ => true

def operatorOf (body : Fields) : String :=
  let key := String.ofList (lowered (trimmed body "operator"))
  if key ∈ CLEAN_IP_OPERATORS.map (·.key) then key
  else
    match body.get "asn" with
    | some (.string asn) => (operatorByAsn asn).getD "mci"
    | _ => "mci"

def cityOf (body : Fields) : String :=
  let key := String.ofList (lowered (trimmed body "city"))
  if key ∈ CLEAN_IP_CITIES then key else "other"

def parseCleanIpReport (input : Js) : Except Thrown CleanIpReport :=
  match input with
  | .object body =>
    let ip := String.ofList (trimmed body "ip")
    if !isPublicIpv4 ip then .error (.http ⟨400, "invalid_ip", "Only a public IPv4 address is accepted"⟩)
    else do
      let rawLatency ← measurement body "latencyMs" "t"
      let latencyMs := latencyOf rawLatency
      if range : latencyMs ≤ 10000 then
        let rawLoss ← measurement body "lossPct" "loss"
        .ok {
          ip
          operator := operatorOf body
          city := cityOf body
          latencyMs := max (-1) latencyMs
          lossPct := tenthsOf rawLoss / 10
          ok := okOf body latencyMs
          latency_range := ⟨le_max_left _ _, max_le (by decide) range⟩
          loss_tenths := ⟨tenthsOf rawLoss, tenthsOf_le rawLoss, rfl⟩ }
      else .error (.http ⟨400, "invalid_latency", "latencyMs is out of range"⟩)
  | _ => .error (.http ⟨400, "invalid_input", "Expected a JSON object"⟩)

/-! ## What is no measurement -/

/-- `/^\s*[-+]?(\d+\.?\d*|\.\d+)([eE][-+]?\d+)?\s*$/` -/
def isDecimal (text : String) : Bool :=
  match readDecimal (trim text) with
  | some (_, []) => true
  | _ => false

/-- A finite number, or text that is a decimal number. -/
def Measurement : Js → Prop
  | .number (.finite _) => True
  | .string text => isDecimal text = true
  | _ => False

/-- The body supplies a measurement of the latency. -/
def Supplied (body : Fields) : Prop :=
  ∃ key ∈ ["latencyMs", "t"], ∃ value, body.get key = some value ∧ Measurement value

/-- What `Number` takes for a latency though it is none: `null`, a boolean, blank text, a numeral with another base,
and an array with such an item or a number. -/
def Coerced : Js → Prop
  | .null | .bool _ => True
  | .string text => trim text = [] ∨ ∃ value : ℕ, readRadix (trim text) = some value ∧ (value : ℚ) < overflow
  | .array items => ∃ value, plainNumber (.array items) = .finite value ∧ -1 / 2 ≤ value
  | _ => False

/-- No latency without a measurement, and no `ok` by default. -/
def Honest (body : Fields) (report : CleanIpReport) : Prop :=
  (0 ≤ report.latencyMs → Supplied body) ∧ (body.get "ok" = none → report.ok = true → Supplied body)

theorem readDecimal_marker {letter : Char} (listed : letter ∈ ['x', 'X', 'o', 'O', 'b', 'B']) (rest : List Char) :
    readDecimal ('0' :: letter :: rest) = some (0, letter :: rest) := by
  simp only [List.mem_cons, List.not_mem_nil, or_false] at listed
  rcases listed with rfl | rfl | rfl | rfl | rfl | rfl
  all_goals simp [readDecimal, Nat.ofDigitChars]

/-- A numeral with another base begins with its marker. -/
theorem marker_of_radix {text : List Char} {value : ℕ} (radix : readRadix text = some value) :
    ∃ letter ∈ ['x', 'X', 'o', 'O', 'b', 'B'], ∃ rest, text = '0' :: letter :: rest := by
  unfold readRadix at radix
  split at radix
  case h_7 =>
    simp only [Option.ite_none_right_eq_some] at radix
    obtain ⟨⟨nonempty, digits⟩, -⟩ := radix
    obtain ⟨first, rest, parts⟩ := List.exists_cons_of_ne_nil nonempty
    rw [parts, List.all_cons] at digits
    simp at digits
  all_goals exact ⟨_, by simp, _, rfl⟩

theorem not_isDecimal_of_radix {text : String} {value : ℕ} (radix : readRadix (trim text) = some value) :
    isDecimal text = false := by
  obtain ⟨letter, listed, rest, parts⟩ := marker_of_radix radix
  rw [isDecimal, parts, readDecimal_marker listed]

/-- Text that is a number for `Number` is decimal, blank or has another base. -/
theorem coerced_text_iff {text : String} :
    (trim text = [] ∨ ∃ value : ℕ, readRadix (trim text) = some value ∧ (value : ℚ) < overflow) ↔
      ¬ isDecimal text = true ∧ ∃ number, numberOfString text = .finite number ∧ -1 / 2 ≤ number := by
  by_cases blank : trim text = []
  · have zero : numberOfString text = .finite 0 := if_pos blank
    have plain : isDecimal text = false := by
      rw [isDecimal, blank]
      rfl
    exact iff_of_true (.inl blank) ⟨by simp [plain], 0, zero, by norm_num⟩
  cases radix : readRadix (trim text) with
  | some value =>
    obtain ⟨letter, -, rest, parts⟩ := marker_of_radix radix
    have taken : numberOfString text = double value := by
      rw [numberOfString, radix, parts]
      simp
    rw [taken, not_isDecimal_of_radix radix]
    simp only [blank, false_or, Option.some.injEq, exists_eq_left', Bool.false_eq_true, not_false_iff, true_and,
      double_eq_finite_iff, Nat.abs_cast]
    constructor
    · intro small
      refine ⟨_, ⟨small, rfl⟩, ?_⟩
      linarith [toDouble_nonneg (@Nat.cast_nonneg ℚ _ _ _ value)]
    · rintro ⟨number, ⟨small, -⟩, -⟩
      exact small
  | none =>
    simp only [blank, false_or, reduceCtorEq, false_and, exists_false, false_iff]
    rintro ⟨undecimal, number, taken, -⟩
    rw [numberOfString, radix] at taken
    dsimp only at taken
    rw [if_neg blank] at taken
    split at taken
    · contradiction
    split at taken
    · contradiction
    split at taken
    · next value read =>
      rw [isDecimal, read] at undecimal
      exact undecimal rfl
    · contradiction

/-- What is taken for a latency is a measurement or of one of the kinds that are none. -/
theorem coerced_iff {value : Js} : Coerced value ↔
    ¬ Measurement value ∧ ∃ number, plainNumber value = .finite number ∧ -1 / 2 ≤ number := by
  cases value with
  | null => exact iff_of_true trivial ⟨id, 0, rfl, by norm_num⟩
  | bool value =>
    refine iff_of_true trivial ⟨id, _, rfl, ?_⟩
    split <;> norm_num
  | number value => cases value <;> simp [Coerced, Measurement, plainNumber]
  | string text => exact coerced_text_iff
  | array items => exact ⟨fun coerced => ⟨id, coerced⟩, fun coerced => coerced.2⟩
  | object fields => simp [Coerced, plainNumber]

theorem latencyOf_nonneg_iff {raw : JsNumber} : 0 ≤ latencyOf raw ↔ ∃ number, raw = .finite number ∧ -1 / 2 ≤ number := by
  cases raw with
  | finite number =>
    rw [latencyOf, Int.floor_nonneg]
    simp only [JsNumber.finite.injEq, exists_eq_left']
    constructor
    · intro above
      linarith
    · intro above
      linarith
  | nan => simp [latencyOf]
  | infinity negative => simp [latencyOf]

/-! ## What an accepted report says -/

section

variable {input : Js} {report : CleanIpReport}

theorem parseCleanIpReport_ok (accepted : parseCleanIpReport input = .ok report) :
    ∃ body raw, input = .object body ∧ measurement body "latencyMs" "t" = .ok raw ∧
      report.latencyMs = max (-1) (latencyOf raw) ∧ report.ok = okOf body (latencyOf raw) := by
  unfold parseCleanIpReport at accepted
  split at accepted
  · next body =>
    dsimp only at accepted
    split at accepted
    · contradiction
    cases read : measurement body "latencyMs" "t" with
    | error error =>
      rw [read] at accepted
      contradiction
    | ok raw =>
      rw [read] at accepted
      dsimp only [bind, Except.bind] at accepted
      split at accepted
      · cases loss : measurement body "lossPct" "loss" with
        | error error =>
          rw [loss] at accepted
          contradiction
        | ok rawLoss =>
          rw [loss] at accepted
          obtain rfl := Except.ok.inj accepted
          exact ⟨body, raw, rfl, read, rfl, rfl⟩
      · contradiction
  · contradiction

/-- The latency is in its number or in decimal text, or the short name has nothing that is taken for one. -/
def Plain (body : Fields) : Prop :=
  (∃ value, body.get "latencyMs" = some value ∧ ((∃ number, value = .number number) ∨ Measurement value)) ∨
    ∀ value, body.get "t" = some value → ¬ Coerced value

theorem supplied_iff_plain {body : Fields} {raw : JsNumber} (read : measurement body "latencyMs" "t" = .ok raw) :
    (0 ≤ latencyOf raw → Supplied body) ↔ Plain body := by
  rw [latencyOf_nonneg_iff]
  by_cases named : ∃ number, body.get "latencyMs" = some (.number number)
  · obtain ⟨number, found⟩ := named
    refine iff_of_true ?_ (.inl ⟨_, found, .inl ⟨number, rfl⟩⟩)
    rintro ⟨value, finite, -⟩
    rw [measurement, found] at read
    obtain rfl := Except.ok.inj read
    refine ⟨"latencyMs", by decide, _, found, ?_⟩
    rw [finite]
    trivial
  · have short : (match body.get "t" with
        | none => .ok .nan
        | some value =>
          if throws value then .error (.other "Cannot convert object to primitive value") else .ok (plainNumber value)) =
        (.ok raw : Except Thrown JsNumber) := by
      unfold measurement at read
      split at read
      · next number found => exact absurd ⟨number, found⟩ named
      · exact read
    cases given : body.get "t" with
    | none =>
      rw [given] at short
      obtain rfl := Except.ok.inj short
      refine iff_of_true ?_ (.inr fun value found => ?_)
      · rintro ⟨number, finite, -⟩
        contradiction
      · rw [given] at found
        contradiction
    | some value =>
      rw [given] at short
      dsimp only at short
      split at short
      · contradiction
      obtain rfl := Except.ok.inj short
      constructor
      · intro supplied
        by_contra bare
        obtain ⟨absent, coerced⟩ := not_or.mp bare
        obtain ⟨value', found, coerced⟩ := not_forall₂.mp coerced
        obtain rfl := Option.some.inj (given.symm.trans found)
        obtain ⟨unmeasured, number⟩ := coerced_iff.mp (not_not.mp coerced)
        obtain ⟨key, listed, value', found, measured⟩ := supplied number
        simp only [List.mem_cons, List.not_mem_nil, or_false] at listed
        rcases listed with rfl | rfl
        · exact absent ⟨value', found, .inr measured⟩
        · obtain rfl := Option.some.inj (given.symm.trans found)
          exact unmeasured measured
      · rintro plain number
        by_cases measured : Measurement value
        · exact ⟨"t", by decide, value, given, measured⟩
        · rcases plain with ⟨value', found, ⟨number, rfl⟩ | measured⟩ | uncoerced
          · exact absurd ⟨number, found⟩ named
          · exact ⟨"latencyMs", by decide, value', found, measured⟩
          · exact absurd (coerced_iff.mpr ⟨measured, number⟩) (uncoerced value given)

/-- An accepted report is in its ranges. It has no latency and no `ok` that was not measured exactly where its body
has no other kind of value that is taken for a latency. -/
theorem report_honest_iff (accepted : parseCleanIpReport input = .ok report) :
    (-1 ≤ report.latencyMs ∧ report.latencyMs ≤ 10000 ∧ 0 ≤ report.lossPct ∧ report.lossPct ≤ 100) ∧
    ∃ body, input = .object body ∧ (Honest body report ↔ Plain body) := by
  obtain ⟨tenths, most, loss⟩ := report.loss_tenths
  constructor
  · refine ⟨report.latency_range.1, report.latency_range.2, ?_, ?_⟩
    · rw [loss]
      positivity
    · have bound : (tenths : ℚ) ≤ 1000 := by exact_mod_cast most
      rw [loss]
      linarith
  · obtain ⟨body, raw, rfl, read, latency, ok⟩ := parseCleanIpReport_ok accepted
    refine ⟨body, rfl, ?_⟩
    rw [← supplied_iff_plain read]
    have measured : 0 ≤ report.latencyMs ↔ 0 ≤ latencyOf raw := by
      rw [latency]
      omega
    constructor
    · intro honest latent
      exact honest.1 (measured.mpr latent)
    · intro supplied
      refine ⟨fun latent => supplied (measured.mp latent), fun absent isOk => ?_⟩
      rw [ok, okOf, absent] at isOk
      exact supplied (of_decide_eq_true isOk)

end

namespace Sample

/-- A report whose latency has its short name -/
def body (latency : Js) : Fields := [("ip", .string "185.143.232.1"), ("t", latency)]

theorem accepted {latency : Js} (taken : (parseCleanIpReport (.object (body latency))).isOk = true) :
    ∃ report, parseCleanIpReport (.object (body latency)) = .ok report := by
  cases parsed : parseCleanIpReport (.object (body latency)) with
  | error error =>
    rw [parsed] at taken
    contradiction
  | ok report => exact ⟨report, rfl⟩

end Sample

theorem report_honest_measured : ∃ report, parseCleanIpReport (.object (Sample.body (.number (.finite 40)))) = .ok report ∧
    ∃ body, Js.object (Sample.body (.number (.finite 40))) = .object body ∧ (Honest body report ↔ Plain body) := by
  obtain ⟨report, parsed⟩ := @Sample.accepted (.number (.finite 40)) (by decide +kernel)
  exact ⟨report, parsed, (report_honest_iff parsed).2⟩

/-- `null` is kept as a latency of 0 ms, and the IP as one that works. -/
theorem null_latency_invented : ∃ report, parseCleanIpReport (.object (Sample.body .null)) = .ok report ∧
    ¬ Honest (Sample.body .null) report := by
  obtain ⟨report, parsed⟩ := @Sample.accepted .null (by decide +kernel)
  refine ⟨report, parsed, fun honest => ?_⟩
  obtain ⟨body, raw, same, read, latency, -⟩ := parseCleanIpReport_ok parsed
  obtain rfl := Js.object.inj same
  obtain rfl : JsNumber.finite 0 = raw := Except.ok.inj read
  have zero : (0 : ℤ) ≤ report.latencyMs := by
    rw [latency]
    exact le_max_of_le_right (latencyOf_nonneg_iff.mpr ⟨0, rfl, by norm_num⟩)
  obtain ⟨key, listed, value, found, measured⟩ := honest.1 zero
  simp only [List.mem_cons, List.not_mem_nil, or_false] at listed
  rcases listed with rfl | rfl
  · contradiction
  · obtain rfl : Js.null = value := Option.some.inj found
    exact measured

end OmniControlPlane.Telemetry.CleanIp
