import Mathlib.Data.Char
import Mathlib.Data.List.Lex
import Mathlib.Data.List.Sort
import Mathlib.Data.Rat.Floor
import OmniControlPlane.Lib.Double
import OmniControlPlane.Lib.OrderedMap
import OmniControlPlane.WhiteHole.DeadDrop

/-! # The ranking of clean IPs

The pool and the IPs that clients have reported, ranked for an operator and a city by what was reported of them in
the last day. Times are in milliseconds. Losses are stored in tenths; what is computed from them and from the times is
rounded to doubles, where it is not exact.
-/

namespace OmniControlPlane.WhiteHole

open Lib

def CLEAN_IP_FRESHNESS_HOURS : ℕ := 24

def CLEAN_IP_MAX_ROWS : ℕ := 48

inductive CleanIpTier where
  | arvan
  | cloudflare
  | warp
deriving DecidableEq, Repr

def ARVAN_CLEAN_IPS : List String := [
  "185.143.232.1", "185.143.232.13", "185.143.232.36", "185.143.233.9", "185.143.233.14",
  "185.143.234.18", "185.143.234.22", "185.143.232.100", "185.143.232.20", "185.143.232.42",
  "185.143.233.48", "185.143.234.12", "37.32.20.15", "37.32.16.11", "37.255.81.1",
  "94.182.182.10", "94.182.182.22"]

def CLOUDFLARE_CLEAN_IPS : List String := [
  "104.16.132.229", "104.17.209.9", "172.67.73.161", "104.21.32.115", "104.26.12.188",
  "172.67.182.201", "162.159.140.38", "104.16.18.15", "104.17.24.15", "172.67.12.188",
  "162.159.36.1", "104.21.64.1", "172.67.73.88", "104.26.10.12", "104.18.32.115",
  "188.114.97.7"]

def WARP_CLEAN_IPS : List String := [
  "188.114.96.1", "188.114.97.1", "162.159.192.1", "162.159.193.1", "162.159.193.10", "188.114.96.10"]

def CLEAN_IP_SNIS : List String := [
  "snapp.ir", "digikala.com", "aparat.com", "divar.ir", "myket.ir", "cafebazaar.ir", "bmi.ir", "telewebion.com",
  "cdn.mediad.ir"]

structure CleanIpOperator where
  key : String
  ports : List ℕ

def CLEAN_IP_OPERATORS : List CleanIpOperator := [
  ⟨"mci", [443, 8443, 2096]⟩, ⟨"irancell", [443, 2053, 2087]⟩, ⟨"rightel", [443, 8443]⟩, ⟨"shatel", [443, 2087]⟩,
  ⟨"mokhaberat", [443, 8443, 2053]⟩, ⟨"asiatech", [443, 2096]⟩]

def CLEAN_IP_CITIES : List String := ["tehran", "karaj", "isfahan", "mashhad", "shiraz", "tabriz", "qom"]

/-- The first operator stands for an unknown one. -/
def findOperator (key : String) : CleanIpOperator :=
  (CLEAN_IP_OPERATORS.find? (·.key = key)).getD ⟨"mci", [443, 8443, 2096]⟩

def findCity (key : String) : String := (CLEAN_IP_CITIES.find? (· = key)).getD "tehran"

def cleanIpPool : List (String × CleanIpTier) :=
  ARVAN_CLEAN_IPS.map (·, .arvan) ++ CLOUDFLARE_CLEAN_IPS.map (·, .cloudflare) ++ WARP_CLEAN_IPS.map (·, .warp)

/-- `Number(part) || 0`, where the parts of an IPv4 address are digits. -/
def octet (part : List Char) : ℕ := if part.all (·.isDigit) then Nat.ofDigitChars 10 part 0 else 0

def ipOctetSum (ip : String) : ℕ := ((ip.toList.splitOn '.').map octet).sum

/-- The SNI of `ipHints`, which edge IPs have none of. -/
def ipSni (ip : String) (tier : CleanIpTier) : String :=
  if tier = .cloudflare ∨ tier = .warp then ""
  else (CLEAN_IP_SNIS[ipOctetSum ip % CLEAN_IP_SNIS.length]?).getD ""

/-- A row of `clean_ip_reports`; a latency below zero was not measured. -/
structure ReportRow where
  ip : String
  operator : String
  city : String
  latency_ms : ℤ
  loss_pct : ℚ
  ok_count : ℕ
  report_count : ℕ
  updated_at : ℤ

structure RankedRow extends CleanIpRow where
  latencyMs : Option ℤ
  lossPct : Option ℚ
  reports : ℕ
  score : ℚ

/-- The latest report of every IP. -/
def latest (segment : List ReportRow) : OrderedMap String ReportRow :=
  segment.foldl (fun byIp row => byIp.alter row.ip fun existing =>
    match existing with
    | none => row
    | some existing => if existing.updated_at < row.updated_at then row else existing) .empty

/-- `Math.round(score * 10) / 10` -/
def roundScore (score : ℚ) : ℚ := toDouble ((⌊toDouble (score * 10) + 1 / 2⌋ : ℤ) / 10)

def rowOf (operator : CleanIpOperator) (byIp : OrderedMap String ReportRow) (now : ℤ) (entry : String × CleanIpTier) :
    RankedRow :=
  let report := byIp.get? entry.1
  let fresh := report.any fun report => now - CLEAN_IP_FRESHNESS_HOURS * 3600000 < report.updated_at
  let ageHours : ℚ := (report.map fun report => max 0 (toDouble (((now - report.updated_at : ℤ) : ℚ) / 3600000))).getD 0
  let latencyMs := (report.filter fun report => fresh && 0 ≤ report.latency_ms).map (·.latency_ms)
  let lossPct := (report.filter fun _ => fresh).map (toDouble ·.loss_pct)
  let okRatio := (report.filter fun report => 0 < report.report_count).map fun report =>
    toDouble ((report.ok_count : ℚ) / report.report_count)
  let measured := fresh && (latencyMs.isSome || report.any fun report => 0 < report.report_count)
  let status :=
    if !measured then "nodata"
    else if okRatio.any fun okRatio => okRatio < 1 / 2 then "risky"
    else if 5 < lossPct.getD 0 then "risky"
    else if 1 < lossPct.getD 0 ∨ 150 < latencyMs.getD 0 then "degraded"
    else "verified"
  let score : ℚ :=
    if measured then
      let speed := toDouble ((latencyMs.map fun latency => (latency : ℚ) / 2).getD 60 + toDouble (lossPct.getD 0 * 25))
      toDouble (speed + ageHours * 2)
    else 1000000 + ipOctetSum entry.1
  { ip := entry.1
    port := operator.ports.head?.getD 443
    sni := if ipSni entry.1 entry.2 ≠ "" then ipSni entry.1 entry.2 else entry.1
    status
    measured
    latencyMs
    lossPct
    reports := (report.map (·.report_count)).getD 0
    score := roundScore score }

/-- Lower scores first, and addresses in order within a score. -/
def Ranks (left right : RankedRow) : Prop :=
  left.score < right.score ∨ left.score = right.score ∧ left.ip.toList ≤ right.ip.toList

instance : DecidableRel Ranks := fun left right =>
  inferInstanceAs (Decidable (left.score < right.score ∨ left.score = right.score ∧ left.ip.toList ≤ right.ip.toList))

/-- The rows of an operator and a city; all cities, where none is given. -/
def segmentOf (table : List ReportRow) (operator city : Option String) : List ReportRow :=
  let city := (city.filter (· ≠ "")).elim "all" findCity
  table.filter fun row => row.operator = (findOperator (operator.getD "")).key && (city = "all" || row.city = city)

/-- The pool, and what was reported besides. -/
def poolOf (segment : List ReportRow) : List (String × CleanIpTier) :=
  let reported := ((latest segment).entries.map (·.1)).filter fun ip => ip ∉ cleanIpPool.map (·.1)
  cleanIpPool ++ reported.map (·, .cloudflare)

/-- All rows of the ranking, sorted. -/
def rankedRows (table : List ReportRow) (operator city : Option String) (now : ℤ) : List RankedRow :=
  let segment := segmentOf table operator city
  ((poolOf segment).map (rowOf (findOperator (operator.getD "")) (latest segment) now)).insertionSort Ranks

/-- What of the ranking is published: the rows that are left after sorting and cutting. -/
def rankCleanIps (table : List ReportRow) (operator city : Option String) (limit : Option ℕ) (now : ℤ) :
    List CleanIpRow :=
  ((rankedRows table operator city now).take (min CLEAN_IP_MAX_ROWS (max 1 (limit.getD 10)))).map (·.toCleanIpRow)

end OmniControlPlane.WhiteHole
