import Mathlib.Data.Int.Notation
import OmniControlPlane.Lib.Machine
import OmniControlPlane.Lib.Sliding

/-! # The guard's window

`hit` counts calls in a window that begins over with the first call after its end, so the calls at the
end of one window and at the beginning of the next are never counted together. The clocks of the calls
alone say where that breaks the limit over some interval.
-/

namespace OmniControlPlane.Panel

open Lib

namespace Guard

/-! ## The object -/

/-- The value under `rl:key`. -/
structure Window where
  count : ℕ
  start : ℕ
deriving DecidableEq, Repr

/-- What the storage holds for one key, under `rl:key`, `strike:key` and `ban:key`. No call on another
key touches it. -/
structure Record where
  window : Option Window := none
  strikes : Option ℕ := none
  ban : Option ℕ := none
deriving DecidableEq, Repr

structure Answer where
  allowed : Bool
  remaining : ℕ
  resetIn : ℤ
  banned : Bool
deriving DecidableEq, Repr

/-- `isBanned`; a ban that has ended is deleted. -/
def isBanned (record : Record) (now : ℕ) : Record × Bool :=
  match record.ban with
  | none => (record, false)
  | some ends =>
    if ends = 0 then (record, false)
    else if ends < now then ({ record with ban := none }, false)
    else (record, true)

/-- The window of a call, before the call is counted. -/
def currentWindow (window : Option Window) (windowSec now : ℕ) : Window :=
  let win := window.getD ⟨0, now⟩
  if win.start + windowSec * 1000 < now then ⟨0, now⟩ else win

/-- Fifteen minutes. -/
def BAN_MS : ℕ := 15 * 60 * 1000

/-- `Math.ceil(ms / 1000)` -/
def ceilSeconds (ms : ℤ) : ℤ := -(-ms / 1000)

/-- A call over the limit: a strike, and from the third one on a ban. -/
def strike (record : Record) (now : ℕ) (answer : Answer) : Record × Answer :=
  let strikes := record.strikes.getD 0 + 1
  if 3 ≤ strikes then
    ({ record with ban := some (now + BAN_MS), strikes := none }, { answer with remaining := 0, resetIn := 900, banned := true })
  else ({ record with strikes := some strikes }, answer)

/-- The answer of a window to the call that it counted last. -/
def Window.answer (win : Window) (limit windowSec now : ℕ) : Answer where
  allowed := win.count ≤ limit
  remaining := limit - win.count
  resetIn := ceilSeconds (win.start + windowSec * 1000 - now)
  banned := false

def hit (record : Record) (limit windowSec now : ℕ) : Record × Answer :=
  let (record, banned) := isBanned record now
  if banned then (record, ⟨false, 0, 0, true⟩)
  else
    let win := currentWindow record.window windowSec now
    let win := { win with count := win.count + 1 }
    let record := { record with window := some win }
    if win.count ≤ limit then ({ record with strikes := none }, win.answer limit windowSec now)
    else strike record now (win.answer limit windowSec now)

/-! ## What a call does -/

variable {record : Record} {limit windowSec now : ℕ}

/-- A ban holds at a time. -/
def Record.Banned (record : Record) (now : ℕ) : Prop := ∃ ends, record.ban = some ends ∧ ends ≠ 0 ∧ now ≤ ends

theorem isBanned_iff : (isBanned record now).2 = true ↔ record.Banned now := by
  rw [isBanned, Record.Banned]
  cases record.ban with
  | none => simp
  | some ends =>
    dsimp only
    split
    · simp_all
    split
    · simp
      omega
    · simp
      omega

theorem isBanned_banned (banned : record.Banned now) : isBanned record now = (record, true) := by
  obtain ⟨ends, held, nonzero, later⟩ := banned
  rw [isBanned, held]
  dsimp only
  rw [if_neg nonzero, if_neg (by omega)]

/-- The call is counted and within the limit. -/
def Record.Admits (record : Record) (limit windowSec now : ℕ) : Prop :=
  ¬ record.Banned now ∧ (currentWindow record.window windowSec now).count < limit

theorem hit_banned (banned : record.Banned now) : hit record limit windowSec now = (record, ⟨false, 0, 0, true⟩) := by
  rw [hit, isBanned_banned banned]
  rfl

/-- A record that is not banned keeps no ban. -/
theorem isBanned_free (free : ¬ record.Banned now) :
    ∃ ban : Option ℕ, ban.getD 0 = 0 ∧ isBanned record now = ({ record with ban := ban }, false) := by
  obtain ⟨window, strikes, ban⟩ := record
  cases ban with
  | none => exact ⟨none, rfl, rfl⟩
  | some ends =>
    by_cases zero : ends = 0
    · exact ⟨some ends, zero, if_pos zero⟩
    · by_cases ended : ends < now
      · exact ⟨none, rfl, (if_neg zero).trans (if_pos ended)⟩
      · exact absurd ⟨ends, rfl, zero, Nat.le_of_not_lt ended⟩ free

theorem not_banned_of_ban (zero : record.ban.getD 0 = 0) : ¬ record.Banned now := by
  rintro ⟨ends, stored, nonzero, -⟩
  rw [stored] at zero
  exact nonzero zero

/-- The window of a record after a call that was counted. -/
def counted (record : Record) (windowSec now : ℕ) : Window :=
  { currentWindow record.window windowSec now with count := (currentWindow record.window windowSec now).count + 1 }

/-- A call within the limit clears the strikes. -/
theorem hit_admitted (admits : record.Admits limit windowSec now) : ∃ ban : Option ℕ, ban.getD 0 = 0 ∧
    hit record limit windowSec now =
      (⟨some (counted record windowSec now), none, ban⟩, (counted record windowSec now).answer limit windowSec now) := by
  obtain ⟨free, room⟩ := admits
  obtain ⟨ban, ended, unbanned⟩ := isBanned_free free
  have fits : (currentWindow record.window windowSec now).count + 1 ≤ limit := room
  refine ⟨ban, ended, ?_⟩
  rw [hit, unbanned]
  dsimp only
  rw [if_neg Bool.false_ne_true, if_pos fits]
  rfl

/-- A call over the limit is a strike. -/
theorem hit_over (free : ¬ record.Banned now) (beyond : limit ≤ (currentWindow record.window windowSec now).count) :
    ∃ ban : Option ℕ, ban.getD 0 = 0 ∧
      hit record limit windowSec now = strike ⟨some (counted record windowSec now), record.strikes, ban⟩ now
        ((counted record windowSec now).answer limit windowSec now) := by
  obtain ⟨ban, ended, unbanned⟩ := isBanned_free free
  have exceeds : ¬ (currentWindow record.window windowSec now).count + 1 ≤ limit := by omega
  refine ⟨ban, ended, ?_⟩
  rw [hit, unbanned]
  dsimp only
  rw [if_neg Bool.false_ne_true, if_neg exceeds]
  rfl

theorem strike_window (answer : Answer) : (strike record now answer).1.window = record.window ∧
    (strike record now answer).2.allowed = answer.allowed := by
  rw [strike]
  split
  all_goals exact ⟨rfl, rfl⟩

/-- A call is allowed exactly when it is admitted. -/
theorem hit_allowed_iff (record : Record) : (hit record limit windowSec now).2.allowed = true ↔ record.Admits limit windowSec now := by
  constructor
  · intro allowed
    by_contra refused
    by_cases banned : record.Banned now
    · rw [hit_banned banned] at allowed
      contradiction
    · have beyond : limit ≤ (currentWindow record.window windowSec now).count := by
        by_contra room
        exact refused ⟨banned, by omega⟩
      obtain ⟨ban, -, result⟩ := hit_over banned beyond
      rw [result, (strike_window _).2, Window.answer, decide_eq_true_eq, counted] at allowed
      dsimp only at allowed
      omega
  · intro admits
    obtain ⟨ban, -, result⟩ := hit_admitted admits
    rw [result, Window.answer, decide_eq_true_eq]
    exact admits.2

/-! ## A log of the admitted calls -/

/-- A record with the admitted calls, the latest first, and the clock of the last call. -/
structure Trace where
  record : Record := {}
  admitted : List ℕ := []
  now : ℕ

/-- A call at a clock that is not before the last one. -/
def Trace.step? (limit windowSec : ℕ) (trace : Trace) (now : ℕ) : Option Trace :=
  if trace.now ≤ now then
    let (record, answer) := hit trace.record limit windowSec now
    some ⟨record, if answer.allowed then now :: trace.admitted else trace.admitted, now⟩
  else none

def calls (limit windowSec : ℕ) : Machine Trace ℕ := ⟨Trace.step? limit windowSec⟩

/-- No half-open interval of `windowSec` seconds has more than `limit` admitted calls. -/
def Trace.Slides (limit windowSec : ℕ) (trace : Trace) : Prop :=
  Sliding.Keeps limit (windowSec * 1000) trace.admitted

variable {trace next : Trace}

/-- A call is refused and logged nowhere, or admitted and logged. -/
theorem step_cases (stepped : (calls limit windowSec).step? trace now = some next) : trace.now ≤ now ∧
    (¬ trace.record.Admits limit windowSec now ∧ next = ⟨(hit trace.record limit windowSec now).1, trace.admitted, now⟩ ∨
      trace.record.Admits limit windowSec now ∧ ∃ ban : Option ℕ, ban.getD 0 = 0 ∧
        next = ⟨⟨some (counted trace.record windowSec now), none, ban⟩, now :: trace.admitted, now⟩) := by
  simp only [calls, Trace.step?] at stepped
  split at stepped
  · next later =>
    refine ⟨later, ?_⟩
    obtain rfl := Option.some.inj stepped
    by_cases admits : trace.record.Admits limit windowSec now
    · obtain ⟨ban, ended, result⟩ := hit_admitted admits
      refine .inr ⟨admits, ban, ended, ?_⟩
      rw [if_pos ((hit_allowed_iff trace.record).mpr admits), result]
    · exact .inl ⟨admits, by rw [if_neg fun allowed => admits ((hit_allowed_iff trace.record).mp allowed)]⟩
  · contradiction

/-! ## The clocks of the calls -/

/-- Calls from a clock on, the oldest first. -/
structure Stretch where
  start : ℕ
  calls : List ℕ

/-- What calls over a limit come to: strikes, and the first clock that no ban covers. -/
structure Standing where
  strikes : ℕ := 0
  free : ℕ := 0

/-- The third call over the limit bans for fifteen minutes, and calls under a ban do not count. -/
def Standing.over (standing : Standing) (now : ℕ) : Standing :=
  if now < standing.free then standing
  else if 2 ≤ standing.strikes then ⟨0, now + BAN_MS + 1⟩
  else ⟨standing.strikes + 1, standing.free⟩

/-- What the calls of a stretch behind its first `limit` ones come to. -/
def Stretch.standing (limit : ℕ) (stretch : Stretch) : Standing := (stretch.calls.drop limit).foldl .over {}

/-- A call belongs to the last stretch if it comes within `span` of its start; else it begins the next one, unless a ban
covers it. -/
def extend (limit span : ℕ) (stretches : List Stretch) (now : ℕ) : List Stretch :=
  match stretches with
  | [] => [⟨now, [now]⟩]
  | last :: before =>
    if now ≤ last.start + span then ⟨last.start, last.calls ++ [now]⟩ :: before
    else if now < (last.standing limit).free then stretches
    else ⟨now, [now]⟩ :: stretches

/-- The stretches that clocks make up, the latest first. -/
def stretches (limit span : ℕ) (times : List ℕ) : List Stretch := times.foldl (extend limit span) []

/-- Each of the first `limit` calls of a stretch comes when fewer than `limit` are less than `span` old, of the first
`limit` ones of the stretch before and of its own. -/
def Apart (limit span : ℕ) (later earlier : Stretch) : Prop :=
  ∀ index < limit, ∀ now, later.calls[index]? = some now →
    Sliding.recent span now (earlier.calls.take limit) + Sliding.recent span now (later.calls.take index) < limit

/-- No stretch begins so soon after the calls of the one before that both together exceed the limit. -/
def Spaced (limit windowSec : ℕ) (times : List ℕ) : Prop :=
  (stretches limit (windowSec * 1000) times).IsChain (Apart limit (windowSec * 1000))

section

variable {span : ℕ} {all before : List Stretch} {last earlier : Stretch}

/-- Where the calls of stretches lie. -/
structure Ordered (span now : ℕ) (all : List Stretch) : Prop where
  past : ∀ stretch ∈ all, ∀ time ∈ stretch.calls, time ≤ now
  begun : ∀ last before, all = last :: before →
    last.start ≤ now ∧ ∀ stretch ∈ before, ∀ time ∈ stretch.calls, time ≤ last.start
  settled : ∀ last earlier before, all = last :: earlier :: before →
    ∀ stretch ∈ before, ∀ time ∈ stretch.calls, time + span < last.start

/-- The calls that stretches let in, the latest first. -/
def letIn (limit : ℕ) (all : List Stretch) : List ℕ := all.flatMap fun stretch => (stretch.calls.take limit).reverse

theorem letIn_cons (last : Stretch) (before : List Stretch) :
    letIn limit (last :: before) = (last.calls.take limit).reverse ++ letIn limit before := List.flatMap_cons

theorem mem_letIn {time : ℕ} (found : time ∈ letIn limit all) : ∃ stretch ∈ all, time ∈ stretch.calls := by
  obtain ⟨stretch, among, found⟩ := List.mem_flatMap.mp found
  exact ⟨stretch, among, List.mem_of_mem_take (List.mem_reverse.mp found)⟩

theorem recent_cons (last : Stretch) (before : List Stretch) : Sliding.recent span now (letIn limit (last :: before)) =
    Sliding.recent span now (last.calls.take limit) + Sliding.recent span now (letIn limit before) := by
  rw [letIn_cons, Sliding.recent_append, Sliding.recent, List.countP_reverse]
  rfl

theorem recent_eq_zero (old : ∀ stretch ∈ all, ∀ time ∈ stretch.calls, time + span ≤ now) :
    Sliding.recent span now (letIn limit all) = 0 := by
  rw [Sliding.recent, List.countP_eq_zero]
  intro time found near
  obtain ⟨stretch, among, inside⟩ := mem_letIn found
  have early := old stretch among time inside
  rw [decide_eq_true_eq] at near
  omega

/-- In the last stretch only its own calls and those of the one before are recent. -/
theorem recent_within (ordered : Ordered span now (last :: earlier :: before)) {time : ℕ} (later : now ≤ time) :
    Sliding.recent span time (letIn limit (last :: earlier :: before)) =
      Sliding.recent span time (last.calls.take limit) + Sliding.recent span time (earlier.calls.take limit) := by
  have begun := (ordered.begun last _ rfl).1
  rw [recent_cons, recent_cons, recent_eq_zero, Nat.add_zero]
  intro stretch among call inside
  have settled := ordered.settled last earlier before rfl stretch among call inside
  omega

/-- Behind the last stretch only its calls are recent. -/
theorem recent_behind (ordered : Ordered span now (last :: before)) {time : ℕ} (behind : last.start + span < time) :
    Sliding.recent span time (letIn limit (last :: before)) = Sliding.recent span time (last.calls.take limit) := by
  rw [recent_cons, recent_eq_zero, Nat.add_zero]
  intro stretch among call inside
  have begun := (ordered.begun last before rfl).2 stretch among call inside
  omega

theorem Ordered.later (ordered : Ordered span now all) {time : ℕ} (later : now ≤ time) : Ordered span time all where
  past stretch among call inside := Nat.le_trans (ordered.past stretch among call inside) later
  begun last before same := ⟨Nat.le_trans (ordered.begun last before same).1 later, (ordered.begun last before same).2⟩
  settled := ordered.settled

theorem ordered_extend (ordered : Ordered span now all) {time : ℕ} (later : now ≤ time) :
    Ordered span time (extend limit span all time) := by
  cases all with
  | nil =>
    rw [extend]
    constructor <;> simp
  | cons last before =>
    obtain ⟨past, begun, settled⟩ := ordered.later later
    rw [extend]
    split
    · refine ⟨?_, ?_, ?_⟩
      · intro stretch among call inside
        rcases List.mem_cons.mp among with rfl | among
        · rcases List.mem_append.mp inside with inside | inside
          · exact past last List.mem_cons_self call inside
          · exact Nat.le_of_eq (List.mem_singleton.mp inside)
        · exact past stretch (List.mem_cons_of_mem _ among) call inside
      · rintro _ _ ⟨⟩
        exact begun last before rfl
      · rintro _ earlier rest ⟨⟩
        exact settled last earlier rest rfl
    · next behind =>
      split
      · exact ⟨past, begun, settled⟩
      · refine ⟨?_, ?_, ?_⟩
        · intro stretch among call inside
          rcases List.mem_cons.mp among with rfl | among
          · exact Nat.le_of_eq (List.mem_singleton.mp inside)
          · exact past stretch among call inside
        · rintro _ _ ⟨⟩
          exact ⟨Nat.le_refl _, past⟩
        · rintro _ _ _ ⟨⟩ stretch among call inside
          have early := (begun last before rfl).2 stretch among call inside
          change call + span < time
          omega

/-- One more call of a stretch is apart from the one before like the others, if it is among the first. -/
theorem apart_concat (start time : ℕ) (inside : List ℕ) : Apart limit span ⟨start, inside ++ [time]⟩ earlier ↔
    Apart limit span ⟨start, inside⟩ earlier ∧ (inside.length < limit →
      Sliding.recent span time (earlier.calls.take limit) + Sliding.recent span time inside < limit) := by
  constructor
  · intro apart
    refine ⟨fun index small now found => ?_, fun few => ?_⟩
    · have bound := (List.getElem?_eq_some_iff.mp found).1
      have room := apart index small now ((List.getElem?_append_left bound).trans found)
      rwa [List.take_append_of_le_length (Nat.le_of_lt bound)] at room
    · have room := apart inside.length few time List.getElem?_concat_length
      rwa [List.take_left' rfl] at room
  · rintro ⟨apart, last⟩ index small now found
    rcases Nat.lt_trichotomy index inside.length with within | rfl | beyond
    · dsimp only at found
      rw [List.getElem?_append_left within] at found
      dsimp only
      rw [List.take_append_of_le_length (Nat.le_of_lt within)]
      exact apart index small now found
    · dsimp only at found
      rw [List.getElem?_concat_length] at found
      obtain rfl := Option.some.inj found
      dsimp only
      rw [List.take_left' rfl]
      exact last small
    · have bound := (List.getElem?_eq_some_iff.mp found).1
      rw [List.length_append, List.length_singleton] at bound
      omega

theorem standing_eq_of_length_le {stretch : Stretch} (few : stretch.calls.length ≤ limit) : stretch.standing limit = {} := by
  rw [Stretch.standing, List.drop_of_length_le few]
  rfl

theorem standing_concat {stretch : Stretch} (many : limit ≤ stretch.calls.length) (time : ℕ) :
    Stretch.standing limit ⟨stretch.start, stretch.calls ++ [time]⟩ = (stretch.standing limit).over time := by
  rw [Stretch.standing, List.drop_append_of_le_length many, List.foldl_append]
  rfl

/-- The next call is among the first of its stretch. -/
def LetsIn (limit span : ℕ) (all : List Stretch) (now : ℕ) : Prop :=
  ∀ last before, all = last :: before →
    if now ≤ last.start + span then last.calls.length < limit else (last.standing limit).free ≤ now

/-- What a call does to the stretches: it begins one, goes into the last one, among its first calls or behind them, or is under
a ban. -/
theorem extend_cases (limit span : ℕ) (all : List Stretch) (now : ℕ) :
    LetsIn limit span all now ∧ extend limit span all now = ⟨now, [now]⟩ :: all ∧
      (∀ last before, all = last :: before → last.start + span < now ∧ (last.standing limit).free ≤ now) ∨
    ∃ last before, all = last :: before ∧
      (now ≤ last.start + span ∧ extend limit span all now = ⟨last.start, last.calls ++ [now]⟩ :: before ∧
          (LetsIn limit span all now ∧ last.calls.length < limit ∨ ¬ LetsIn limit span all now ∧ limit ≤ last.calls.length) ∨
        ¬ LetsIn limit span all now ∧ last.start + span < now ∧ now < (last.standing limit).free ∧
          extend limit span all now = all) := by
  cases all with
  | nil => exact .inl ⟨nofun, rfl, nofun⟩
  | cons last before =>
    have letsIn : LetsIn limit span (last :: before) now ↔
        if now ≤ last.start + span then last.calls.length < limit else (last.standing limit).free ≤ now := by
      refine ⟨fun lets => lets last before rfl, ?_⟩
      rintro lets _ _ ⟨⟩
      exact lets
    rw [letsIn, extend]
    by_cases within : now ≤ last.start + span
    · rw [if_pos within, if_pos within]
      refine .inr ⟨last, before, rfl, .inl ⟨within, rfl, ?_⟩⟩
      rcases Nat.lt_or_ge last.calls.length limit with few | many
      · exact .inl ⟨few, few⟩
      · exact .inr ⟨Nat.not_lt.mpr many, many⟩
    · rw [if_neg within, if_neg within]
      have behind := Nat.lt_of_not_le within
      by_cases covered : now < (last.standing limit).free
      · rw [if_pos covered]
        exact .inr ⟨last, before, rfl, .inr ⟨Nat.not_le.mpr covered, behind, covered, rfl⟩⟩
      · rw [if_neg covered]
        refine .inl ⟨Nat.le_of_not_lt covered, rfl, ?_⟩
        rintro _ _ ⟨⟩
        exact ⟨behind, Nat.le_of_not_lt covered⟩

/-- The calls that are let in are logged. -/
theorem letIn_extend (positive : 0 < limit) (all : List Stretch) (now : ℕ) :
    (LetsIn limit span all now → letIn limit (extend limit span all now) = now :: letIn limit all) ∧
      (¬ LetsIn limit span all now → letIn limit (extend limit span all now) = letIn limit all) := by
  rcases extend_cases limit span all now with ⟨lets, extended, -⟩ |
    ⟨last, before, rfl, ⟨-, extended, ⟨lets, few⟩ | ⟨refuses, many⟩⟩ | ⟨refuses, -, -, extended⟩⟩
  · refine ⟨fun _ => ?_, fun refuses => absurd lets refuses⟩
    rw [extended, letIn_cons, List.take_of_length_le (by simpa using Nat.succ_le_of_lt positive)]
    rfl
  · refine ⟨fun _ => ?_, fun refuses => absurd lets refuses⟩
    rw [extended, letIn_cons, letIn_cons, List.take_of_length_le (by simpa using Nat.succ_le_of_lt few),
      List.take_of_length_le (Nat.le_of_lt few), List.reverse_append]
    rfl
  · refine ⟨fun lets => absurd lets refuses, fun _ => ?_⟩
    rw [extended, letIn_cons, letIn_cons, List.take_append_of_le_length many]
  · exact ⟨fun lets => absurd lets refuses, fun _ => by rw [extended]⟩

theorem apart_singleton (positive : 0 < limit) :
    Apart limit span ⟨now, [now]⟩ last ↔ Sliding.recent span now (last.calls.take limit) < limit := by
  refine (apart_concat now now []).trans ⟨fun apart => apart.2 positive, fun room => ⟨?_, fun _ => room⟩⟩
  intro index _ time found
  contradiction

/-- The stretches stay apart exactly when a call that is let in has room. -/
theorem apart_extend (positive : 0 < limit) (ordered : Ordered span now all) {time : ℕ} (later : now ≤ time) :
    (extend limit span all time).IsChain (Apart limit span) ↔ all.IsChain (Apart limit span) ∧
      (LetsIn limit span all time → Sliding.recent span time (letIn limit all) < limit) := by
  rcases extend_cases limit span all time with ⟨lets, extended, behind⟩ |
    ⟨last, before, rfl, ⟨-, extended, within⟩ | ⟨refuses, -, -, extended⟩⟩
  · rw [extended]
    cases all with
    | nil => exact iff_of_true (.singleton _) ⟨.nil, fun _ => positive⟩
    | cons last before =>
      rw [List.isChain_cons_cons, apart_singleton positive, recent_behind ordered (behind last before rfl).1, and_comm]
      exact and_congr_right fun _ => ⟨fun room _ => room, fun room => room lets⟩
  · rw [extended]
    have lets : LetsIn limit span (last :: before) time ↔ last.calls.length < limit := by
      rcases within with ⟨lets, few⟩ | ⟨refuses, many⟩
      · exact iff_of_true lets few
      · exact iff_of_false refuses (Nat.not_lt.mpr many)
    rw [lets]
    cases before with
    | nil =>
      refine iff_of_true (.singleton _) ⟨.singleton _, fun few => ?_⟩
      rw [recent_cons, List.take_of_length_le (Nat.le_of_lt few)]
      exact Nat.lt_of_le_of_lt List.countP_le_length few
    | cons earlier before =>
      rw [List.isChain_cons_cons, List.isChain_cons_cons, apart_concat, and_right_comm]
      refine and_congr_right fun _ => forall_congr' fun few => ?_
      rw [recent_within ordered later, List.take_of_length_le (Nat.le_of_lt few), Nat.add_comm]
  · rw [extended]
    exact ⟨fun apart => ⟨apart, fun lets => absurd lets refuses⟩, fun apart => apart.1⟩

end

/-! ## The windows are the stretches -/

/-- The record is that of the last stretch. -/
structure Reflects (limit windowSec : ℕ) (all : List Stretch) (trace : Trace) : Prop where
  ordered : Ordered (windowSec * 1000) trace.now all
  admitted : trace.admitted = letIn limit all
  fresh : all = [] → trace.record = {}
  window : ∀ last before, all = last :: before → ∃ count, trace.record.window = some ⟨count, last.start⟩ ∧
    (last.calls.length < limit → count = last.calls.length) ∧ (limit ≤ last.calls.length → limit ≤ count)
  strikes : ∀ last before, all = last :: before → trace.record.strikes.getD 0 = (last.standing limit).strikes
  banned : ∀ last before, all = last :: before → ∀ time, trace.now ≤ time →
    (trace.record.Banned time ↔ time < (last.standing limit).free)

section

variable {all : List Stretch}

theorem currentWindow_within {count start : ℕ} (stored : record.window = some ⟨count, start⟩)
    (within : now ≤ start + windowSec * 1000) : currentWindow record.window windowSec now = ⟨count, start⟩ := by
  rw [stored, currentWindow, Option.getD_some, if_neg (Nat.not_lt.mpr within)]

theorem currentWindow_behind {count start : ℕ} (stored : record.window = some ⟨count, start⟩)
    (behind : start + windowSec * 1000 < now) : currentWindow record.window windowSec now = ⟨0, now⟩ := by
  rw [stored, currentWindow, Option.getD_some, if_pos behind]

theorem currentWindow_none (stored : record.window = none) : currentWindow record.window windowSec now = ⟨0, now⟩ := by
  rw [stored, currentWindow]
  split <;> rfl

/-- A call is admitted exactly when it is among the first of its stretch. -/
theorem admits_iff (positive : 0 < limit) (reflects : Reflects limit windowSec all trace) (later : trace.now ≤ now) :
    trace.record.Admits limit windowSec now ↔ LetsIn limit (windowSec * 1000) all now := by
  rw [Record.Admits]
  rcases extend_cases limit (windowSec * 1000) all now with ⟨lets, -, behind⟩ |
    ⟨last, before, rfl, ⟨within, -, ⟨lets, few⟩ | ⟨refuses, many⟩⟩ | ⟨refuses, -, covered, -⟩⟩
  · refine iff_of_true ?_ lets
    cases all with
    | nil =>
      rw [reflects.fresh rfl, currentWindow_none rfl]
      exact ⟨not_banned_of_ban rfl, positive⟩
    | cons last before =>
      obtain ⟨count, stored, -⟩ := reflects.window last before rfl
      obtain ⟨past, free⟩ := behind last before rfl
      rw [reflects.banned last before rfl now later, currentWindow_behind stored past]
      exact ⟨Nat.not_lt.mpr free, positive⟩
  · obtain ⟨count, stored, exact, -⟩ := reflects.window last before rfl
    rw [reflects.banned last before rfl now later, currentWindow_within stored within,
      standing_eq_of_length_le (Nat.le_of_lt few)]
    exact iff_of_true ⟨Nat.not_lt_zero _, exact few ▸ few⟩ lets
  · obtain ⟨count, stored, -, full⟩ := reflects.window last before rfl
    rw [currentWindow_within stored within]
    exact iff_of_false (fun admits => Nat.not_lt.mpr (full many) admits.2) refuses
  · exact iff_of_false (fun admits => admits.1 ((reflects.banned last before rfl now later).mpr covered)) refuses

/-- A record without strikes and without a ban is that of a stretch with no call over the limit. -/
theorem reflects_admitted {start : ℕ} {inside : List ℕ} {before : List Stretch} {ban : Option ℕ} {admitted : List ℕ}
    (ordered : Ordered (windowSec * 1000) now (⟨start, inside⟩ :: before)) (few : inside.length ≤ limit)
    (logged : admitted = letIn limit (⟨start, inside⟩ :: before)) (ended : ban.getD 0 = 0) :
    Reflects limit windowSec (⟨start, inside⟩ :: before) ⟨⟨some ⟨inside.length, start⟩, none, ban⟩, admitted, now⟩ := by
  have standing : Stretch.standing limit ⟨start, inside⟩ = {} := standing_eq_of_length_le few
  refine ⟨ordered, logged, nofun, ?_, ?_, ?_⟩
  · rintro _ _ ⟨⟩
    exact ⟨inside.length, rfl, fun _ => rfl, id⟩
  · rintro _ _ ⟨⟩
    rw [standing]
    rfl
  · rintro _ _ ⟨⟩ time -
    rw [standing]
    exact iff_of_false (not_banned_of_ban ended) (Nat.not_lt_zero _)

/-- A call over the limit is a strike or under a ban, like the standing says. -/
theorem reflects_over {last : Stretch} {before : List Stretch} (reflects : Reflects limit windowSec (last :: before) trace)
    (later : trace.now ≤ now) (within : now ≤ last.start + windowSec * 1000) (many : limit ≤ last.calls.length)
    (ordered : Ordered (windowSec * 1000) now (⟨last.start, last.calls ++ [now]⟩ :: before)) :
    Reflects limit windowSec (⟨last.start, last.calls ++ [now]⟩ :: before)
      ⟨(hit trace.record limit windowSec now).1, trace.admitted, now⟩ := by
  obtain ⟨count, stored, -, full⟩ := reflects.window last before rfl
  have strikes := reflects.strikes last before rfl
  have banned := reflects.banned last before rfl
  have logged : trace.admitted = letIn limit (⟨last.start, last.calls ++ [now]⟩ :: before) := by
    rw [reflects.admitted, letIn_cons, letIn_cons, List.take_append_of_le_length many]
  have longer : limit ≤ (last.calls ++ [now]).length := by
    rw [List.length_append]
    omega
  by_cases covered : trace.record.Banned now
  · have under := (banned now later).mp covered
    rw [hit_banned covered]
    refine ⟨ordered, logged, nofun, ?_, ?_, ?_⟩
    · rintro _ _ ⟨⟩
      exact ⟨count, stored, fun short => absurd longer (Nat.not_le.mpr short), fun _ => full many⟩
    · rintro _ _ ⟨⟩
      rw [standing_concat many, Standing.over, if_pos under]
      exact strikes
    · rintro _ _ ⟨⟩ time after
      rw [standing_concat many, Standing.over, if_pos under]
      exact banned time (Nat.le_trans later after)
  · have free : ¬ now < (last.standing limit).free := fun under => covered ((banned now later).mpr under)
    have current := currentWindow_within stored within
    have beyond : limit ≤ (currentWindow trace.record.window windowSec now).count := current ▸ full many
    obtain ⟨ban, ended, result⟩ := hit_over covered beyond
    have window : (counted trace.record windowSec now) = ⟨count + 1, last.start⟩ := by rw [counted, current]
    rw [result, window]
    have more : limit ≤ count + 1 := Nat.le_succ_of_le (full many)
    by_cases third : 2 ≤ (last.standing limit).strikes
    · rw [strike, if_pos (by dsimp only; omega)]
      refine ⟨ordered, logged, nofun, ?_, ?_, ?_⟩
      · rintro _ _ ⟨⟩
        exact ⟨count + 1, rfl, fun short => absurd longer (Nat.not_le.mpr short), fun _ => more⟩
      · rintro _ _ ⟨⟩
        rw [standing_concat many, Standing.over, if_neg free, if_pos third]
        rfl
      · rintro _ _ ⟨⟩ time after
        rw [standing_concat many, Standing.over, if_neg free, if_pos third, Nat.lt_succ_iff]
        refine ⟨?_, fun soon => ⟨now + BAN_MS, rfl, by rw [BAN_MS]; omega, soon⟩⟩
        rintro ⟨ends, same, -, soon⟩
        obtain rfl := Option.some.inj same
        exact soon
    · rw [strike, if_neg (by dsimp only; omega)]
      refine ⟨ordered, logged, nofun, ?_, ?_, ?_⟩
      · rintro _ _ ⟨⟩
        exact ⟨count + 1, rfl, fun short => absurd longer (Nat.not_le.mpr short), fun _ => more⟩
      · rintro _ _ ⟨⟩
        rw [standing_concat many, Standing.over, if_neg free, if_neg third, ← strikes]
        rfl
      · rintro _ _ ⟨⟩ time after
        rw [standing_concat many, Standing.over, if_neg free, if_neg third]
        exact iff_of_false (not_banned_of_ban ended) (Nat.not_lt.mpr (Nat.le_trans (Nat.le_of_not_lt free) after))

theorem reflects_step (positive : 0 < limit) (reflects : Reflects limit windowSec all trace)
    (stepped : (calls limit windowSec).step? trace now = some next) :
    Reflects limit windowSec (extend limit (windowSec * 1000) all now) next ∧
      (LetsIn limit (windowSec * 1000) all now → next.admitted = now :: trace.admitted) ∧
      (¬ LetsIn limit (windowSec * 1000) all now → next.admitted = trace.admitted) := by
  obtain ⟨later, moved⟩ := step_cases stepped
  have ordered : Ordered (windowSec * 1000) now (extend limit (windowSec * 1000) all now) :=
    ordered_extend reflects.ordered later
  obtain ⟨adds, keeps⟩ := @letIn_extend limit (windowSec * 1000) positive all now
  rw [admits_iff positive reflects later] at moved
  rcases extend_cases limit (windowSec * 1000) all now with ⟨lets, extended, behind⟩ |
    ⟨last, before, rfl, ⟨within, extended, ⟨lets, few⟩ | ⟨refuses, many⟩⟩ | ⟨refuses, -, covered, extended⟩⟩
  · obtain ⟨ban, ended, rfl⟩ := (moved.resolve_left fun moved => moved.1 lets).2
    refine ⟨?_, fun _ => rfl, fun refuses => absurd lets refuses⟩
    have fresh : currentWindow trace.record.window windowSec now = ⟨0, now⟩ := by
      cases all with
      | nil => exact currentWindow_none (by rw [reflects.fresh rfl])
      | cons last before =>
        obtain ⟨count, stored, -⟩ := reflects.window last before rfl
        exact currentWindow_behind stored (behind last before rfl).1
    rw [counted, fresh, extended]
    rw [extended] at ordered
    exact reflects_admitted ordered positive (by rw [← extended, adds lets, reflects.admitted]) ended
  · obtain ⟨ban, ended, rfl⟩ := (moved.resolve_left fun moved => moved.1 lets).2
    refine ⟨?_, fun _ => rfl, fun refuses => absurd lets refuses⟩
    obtain ⟨count, stored, exact, -⟩ := reflects.window last before rfl
    obtain rfl := exact few
    have more : last.calls.length + 1 = (last.calls ++ [now]).length := by rw [List.length_append, List.length_singleton]
    rw [counted, currentWindow_within stored within, extended, more]
    rw [extended] at ordered
    exact reflects_admitted ordered (more ▸ few) (by rw [← extended, adds lets, reflects.admitted]) ended
  · obtain rfl := (moved.resolve_right fun moved => refuses moved.1).2
    refine ⟨?_, fun lets => absurd lets refuses, fun _ => rfl⟩
    rw [extended]
    rw [extended] at ordered
    exact reflects_over reflects later within many ordered
  · obtain rfl := (moved.resolve_right fun moved => refuses moved.1).2
    refine ⟨?_, fun lets => absurd lets refuses, fun _ => rfl⟩
    rw [hit_banned ((reflects.banned last before rfl now later).mpr covered), extended]
    exact { reflects with
      ordered := reflects.ordered.later later
      banned := fun other rest same time after => reflects.banned other rest same time (Nat.le_trans later after) }

theorem keeps_of_cons {length : ℕ} {log : List ℕ} (keeps : Sliding.Keeps limit length (now :: log)) :
    Sliding.Keeps limit length log := by
  intro start
  have more := keeps start
  rw [Sliding.inside_cons] at more
  omega

/-- One call keeps the limit exactly when it keeps the stretches apart. -/
theorem slides_step (positive : 0 < limit) (reflects : Reflects limit windowSec all trace)
    (stepped : (calls limit windowSec).step? trace now = some next)
    (same : trace.Slides limit windowSec ↔ all.IsChain (Apart limit (windowSec * 1000))) :
    next.Slides limit windowSec ↔
      (extend limit (windowSec * 1000) all now).IsChain (Apart limit (windowSec * 1000)) := by
  have later := (step_cases stepped).1
  obtain ⟨-, adds, keeps⟩ := reflects_step positive reflects stepped
  rw [apart_extend positive reflects.ordered later, ← same, ← reflects.admitted, Trace.Slides, Trace.Slides]
  by_cases lets : LetsIn limit (windowSec * 1000) all now
  · have past : ∀ time ∈ trace.admitted, time ≤ now := by
      intro time found
      rw [reflects.admitted] at found
      obtain ⟨stretch, among, inside⟩ := mem_letIn found
      exact Nat.le_trans (reflects.ordered.past stretch among time inside) later
    rw [adds lets]
    constructor
    · intro slides
      have before : Sliding.Keeps limit (windowSec * 1000) trace.admitted := keeps_of_cons slides
      exact ⟨before, fun _ => (Sliding.keeps_cons_iff past before positive).mp slides⟩
    · rintro ⟨before, room⟩
      exact (Sliding.keeps_cons_iff past before positive).mpr (room lets)
  · rw [keeps lets]
    exact ⟨fun slides => ⟨slides, fun another => absurd another lets⟩, fun slides => slides.1⟩

end

/-! ## Runs -/

variable {start : ℕ} {times : List ℕ}

/-- The limit holds over all calls of a run exactly when their clocks keep the stretches apart. -/
theorem slides_run (positive : 0 < limit) (run : (calls limit windowSec).Run Machine.Free { now := start } times trace) :
    trace.Slides limit windowSec ↔ Spaced limit windowSec times := by
  refine (run.preserves_tape (fun times trace => Reflects limit windowSec (stretches limit (windowSec * 1000) times) trace ∧
    (trace.Slides limit windowSec ↔ Spaced limit windowSec times)) ?_ ?_).2
  · rintro times trace now next ⟨reflects, same⟩ - stepped
    have grown : stretches limit (windowSec * 1000) (times ++ [now]) =
        extend limit (windowSec * 1000) (stretches limit (windowSec * 1000) times) now := List.foldl_concat _ _ _ _
    rw [Spaced, grown]
    exact ⟨(reflects_step positive reflects stepped).1, slides_step positive reflects stepped same⟩
  · refine ⟨⟨⟨nofun, nofun, nofun⟩, rfl, fun _ => rfl, nofun, nofun, nofun⟩, iff_of_true Sliding.keeps_nil .nil⟩

/-- Without a limit nothing is admitted. -/
theorem admitted_eq_nil (run : (calls 0 windowSec).Run Machine.Free { now := start } times trace) : trace.admitted = [] := by
  refine run.preserves (fun trace => trace.admitted = []) ?_ rfl
  intro trace now next nothing _ stepped
  obtain ⟨-, ⟨-, rfl⟩ | ⟨admits, -⟩⟩ := step_cases stepped
  · exact nothing
  · exact absurd admits.2 (Nat.not_lt_zero _)

theorem spaced_zero (windowSec : ℕ) (times : List ℕ) : Spaced 0 windowSec times :=
  List.Pairwise.isChain (List.pairwise_of_forall fun _ _ _ small => absurd small (Nat.not_lt_zero _))

/-- A limit that is broken stays broken. -/
theorem slides_of_run {mid : Trace} (run : (calls limit windowSec).Run Machine.Free mid times trace)
    (slides : trace.Slides limit windowSec) : mid.Slides limit windowSec := by
  by_contra broken
  refine run.preserves (fun trace => ¬ trace.Slides limit windowSec) ?_ broken slides
  intro trace now next broken _ stepped slides
  obtain ⟨-, ⟨-, rfl⟩ | ⟨-, ban, -, rfl⟩⟩ := step_cases stepped
  · exact broken slides
  · exact broken (keeps_of_cons slides)

/-- Over all calls on a new key the limit holds in every interval exactly when the first calls of each stretch of clocks leave
room for the first ones of the next. -/
theorem sliding_window_iff (limit windowSec start : ℕ) (times : List ℕ) (trace : Trace)
    (run : (calls limit windowSec).Run Machine.Free { now := start } times trace) :
    (∀ first rest mid, times = first ++ rest → (calls limit windowSec).Run Machine.Free { now := start } first mid →
      mid.Slides limit windowSec) ↔ Spaced limit windowSec times := by
  have exact : trace.Slides limit windowSec ↔ Spaced limit windowSec times := by
    rcases Nat.eq_zero_or_pos limit with rfl | positive
    · refine iff_of_true ?_ (spaced_zero windowSec times)
      rw [Trace.Slides, admitted_eq_nil run]
      exact Sliding.keeps_nil
    · exact slides_run positive run
  rw [← exact]
  constructor
  · intro always
    exact always times [] trace (List.append_nil times).symm run
  · intro slides first rest mid cut reached
    rw [cut] at run
    obtain ⟨mid', reached', onward⟩ := Machine.Run.append_iff.mp run
    obtain rfl : mid = mid' :=
      Option.some.inj ((Machine.Run.free_iff_replay.mp reached).symm.trans (Machine.Run.free_iff_replay.mp reached'))
    exact slides_of_run onward slides

instance (limit span : ℕ) (later earlier : Stretch) : Decidable (Apart limit span later earlier) :=
  decidable_of_iff (∀ index < limit, ∀ now ∈ later.calls[index]?,
    Sliding.recent span now (earlier.calls.take limit) + Sliding.recent span now (later.calls.take index) < limit) Iff.rfl

instance (limit windowSec : ℕ) (times : List ℕ) : Decidable (Spaced limit windowSec times) :=
  inferInstanceAs (Decidable (List.IsChain _ _))

/-- Two calls a minute, in the first half of each. -/
def early : List ℕ := [0, 10000, 70000, 80000, 81000]

/-- Two calls a minute, at the end of one window and the beginning of the next. -/
def straddling : List ℕ := [0, 60000, 60001, 60002]

/-- The fifth call is refused, and the third begins a window after the second one is old. -/
theorem sliding_window_iff_early : ∃ trace, (calls 2 60).Run Machine.Free { now := 0 } early trace ∧
    trace.admitted = [80000, 70000, 10000, 0] ∧
    ∀ first rest mid, early = first ++ rest → (calls 2 60).Run Machine.Free { now := 0 } first mid → mid.Slides 2 60 := by
  obtain ⟨trace, replayed, admitted⟩ : ∃ trace, (calls 2 60).replay? { now := 0 } early = some trace ∧
      trace.admitted = [80000, 70000, 10000, 0] := ⟨_, rfl, rfl⟩
  have run := Machine.Run.free_iff_replay.mpr replayed
  exact ⟨trace, run, admitted, (sliding_window_iff 2 60 0 early trace run).mpr (by decide)⟩

/-- Three calls are admitted within three milliseconds. -/
theorem two_a_minute_straddled : ∃ trace, (calls 2 60).Run Machine.Free { now := 0 } straddling trace ∧
    trace.admitted = [60002, 60001, 60000, 0] ∧ ¬ trace.Slides 2 60 := by
  obtain ⟨trace, replayed, admitted⟩ : ∃ trace, (calls 2 60).replay? { now := 0 } straddling = some trace ∧
      trace.admitted = [60002, 60001, 60000, 0] := ⟨_, rfl, rfl⟩
  refine ⟨trace, Machine.Run.free_iff_replay.mpr replayed, admitted, fun slides => ?_⟩
  have three := slides 60000
  rw [admitted] at three
  revert three
  decide

end Guard

end OmniControlPlane.Panel
