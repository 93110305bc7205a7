import Mathlib.Data.List.Perm.Basic
import OmniControlPlane.Lib.Double
import OmniControlPlane.Lib.JavaScript

/-! # The pick of clean IPs

Addresses are drawn from a copy of the pool, which shrinks by one with each draw. The index of a draw comes from a
xorshift over 32 bits, as a double between zero and one.
-/

namespace OmniControlPlane.Panel.CleanIps

open Lib JavaScript

def FALLBACK : List String := ["104.16.0.0", "104.17.0.0", "104.18.0.0", "172.66.0.0", "188.114.96.0"]

/-- The bits of a seed. -/
def seedBits : JsNumber → BitVec 32
  | .finite value => toInt32 value
  | _ => 0

/-- `s ^= s << 13; s ^= s >>> 17; s ^= s << 5` -/
def xorshift (s : BitVec 32) : BitVec 32 :=
  let s := s ^^^ (s <<< 13)
  let s := s ^^^ (s >>> 17)
  s ^^^ (s <<< 5)

/-- `Math.abs(s % 1e9) / 1e9` -/
def rnd (s : BitVec 32) : ℚ := toDouble ((s.toInt.tmod 1000000000).natAbs / 1000000000)

/-- `Math.floor(rnd() * copy.length)` -/
def indexOf (s : BitVec 32) (length : ℕ) : ℤ := ⌊toDouble (rnd s * length)⌋

/-- Where `splice` starts in an array. -/
def spliceStart (length : ℕ) (start : ℤ) : ℕ := if start < 0 then (length + start).toNat else min start.toNat length

/-- The arrays of a call; an entry of the result that is `none` is `undefined`. -/
structure Arrays where
  pool : List String
  fallback : List String
  copy : List String
  out : List (Option String)
deriving DecidableEq, Repr

/-- `out.push(copy.splice(index, 1)[0])` -/
def Arrays.draw (arrays : Arrays) (index : ℤ) : Arrays :=
  let start := spliceStart arrays.copy.length index
  { arrays with copy := arrays.copy.eraseIdx start, out := arrays.out ++ [arrays.copy[start]?] }

/-- The loop, with the draws that are left. -/
def pickFrom : ℕ → BitVec 32 → Arrays → Arrays
  | 0, _, arrays => arrays
  | left + 1, s, arrays =>
    if arrays.copy = [] then arrays
    else pickFrom left (xorshift s) (arrays.draw (indexOf (xorshift s) arrays.copy.length))

/-- What the addresses are drawn from. -/
def source (pool : List String) : List String := if pool = [] then FALLBACK else pool

def pickCleanIps (pool : List String) (count : ℕ) (seed : JsNumber) : Arrays :=
  pickFrom count (seedBits seed) { pool, fallback := FALLBACK, copy := source pool, out := [] }

/-! ## The index -/

theorem rnd_bounds (s : BitVec 32) : 0 ≤ rnd s ∧ rnd s ≤ 1 - 1 / 2 ^ 30 := by
  have small : (s.toInt.tmod 1000000000).natAbs ≤ 999999999 := by
    rw [Int.natAbs_tmod]
    exact Nat.le_of_lt_succ (Nat.mod_lt _ (by decide))
  have most : ((s.toInt.tmod 1000000000).natAbs : ℚ) ≤ 999999999 := by exact_mod_cast small
  have nonneg : (0 : ℚ) ≤ (s.toInt.tmod 1000000000).natAbs / 1000000000 := by positivity
  refine ⟨toDouble_nonneg nonneg, ?_⟩
  have below : ((s.toInt.tmod 1000000000).natAbs / 1000000000 : ℚ) ≤ 1 := by linarith
  have rounded := toDouble_le nonneg below (zpow_le_one_of_nonpos₀ one_le_two (by decide))
  rw [rnd]
  linarith

/-- Rounding does not carry the index out of the list. -/
theorem indexOf_bounds (s : BitVec 32) {length : ℕ} (positive : 0 < length) :
    0 ≤ indexOf s length ∧ indexOf s length < length := by
  obtain ⟨least, most⟩ := rnd_bounds s
  have whole : (1 : ℚ) ≤ length := by exact_mod_cast positive
  have nonneg : 0 ≤ rnd s * length := mul_nonneg least (by linarith)
  constructor
  · exact Int.floor_nonneg.mpr (toDouble_nonneg nonneg)
  · have product : rnd s * length ≤ length - length / 2 ^ 30 := by
      calc rnd s * length ≤ (1 - 1 / 2 ^ 30) * length := mul_le_mul_of_nonneg_right most (by linarith)
        _ = length - length / 2 ^ 30 := by ring
    have below : rnd s * length ≤ length := by linarith
    have tiny : (2 : ℚ) ^ (-1022 : ℤ) ≤ length :=
      (zpow_le_one_of_nonpos₀ one_le_two (by decide)).trans whole
    have rounded := toDouble_le nonneg below tiny
    apply Int.floor_lt.mpr
    push_cast
    linarith

/-! ## The draws -/

/-- The positions of the source that are left and those that are drawn. -/
structure Sampled (pool : List String) (arrays : Arrays) (left drawn : List ℕ) : Prop where
  positions : (left ++ drawn).Perm (List.range (source pool).length)
  copy : arrays.copy.map some = left.map ((source pool)[·]?)
  out : arrays.out = drawn.map ((source pool)[·]?)
  caller : arrays.pool = pool
  fallback : arrays.fallback = FALLBACK

section

variable {pool : List String} {arrays : Arrays} {left drawn : List ℕ}

theorem Sampled.length (sampled : Sampled pool arrays left drawn) : arrays.copy.length = left.length := by
  simpa using congrArg List.length sampled.copy

/-- A draw moves one position. -/
theorem Sampled.draw (sampled : Sampled pool arrays left drawn) {index : ℤ} (nonneg : 0 ≤ index)
    (inside : index < arrays.copy.length) :
    ∃ position, Sampled pool (arrays.draw index) (left.eraseIdx index.toNat) (drawn ++ [position]) := by
  have start : spliceStart arrays.copy.length index = index.toNat := by
    rw [spliceStart, if_neg (by omega)]
    omega
  have within : index.toNat < left.length := by
    have := sampled.length
    omega
  refine ⟨left[index.toNat], ?_, ?_, ?_, sampled.caller, sampled.fallback⟩
  · have moved : (left.eraseIdx index.toNat ++ (drawn ++ [left[index.toNat]])).Perm (left ++ drawn) := by
      rw [← List.append_assoc]
      apply (List.perm_append_singleton _ _).trans
      exact (List.getElem_cons_eraseIdx_perm within).append_right drawn
    exact moved.trans sampled.positions
  · change (arrays.copy.eraseIdx (spliceStart arrays.copy.length index)).map some = _
    rw [start, ← List.eraseIdx_map, sampled.copy, List.eraseIdx_map]
  · change arrays.out ++ [arrays.copy[spliceStart arrays.copy.length index]?] = _
    have item := congrArg (fun items => items[index.toNat]?) sampled.copy
    rw [List.getElem?_map, List.getElem?_map, List.getElem?_eq_getElem within] at item
    obtain ⟨address, found, same⟩ := Option.map_eq_some_iff.mp item
    rw [start, found, same, sampled.out, List.map_append, List.map_singleton]

/-- The draws move as many positions as are asked for, or all of them. -/
theorem Sampled.pickFrom (sampled : Sampled pool arrays left drawn) (draws : ℕ) (s : BitVec 32) :
    ∃ left' drawn', Sampled pool (pickFrom draws s arrays) left' drawn' ∧
      drawn'.length = min (drawn.length + draws) (source pool).length := by
  induction draws generalizing arrays left drawn s with
  | zero =>
    refine ⟨left, drawn, sampled, ?_⟩
    have whole := sampled.positions.length_eq
    rw [List.length_append, List.length_range] at whole
    omega
  | succ draws ih =>
    rw [CleanIps.pickFrom]
    have whole := sampled.positions.length_eq
    rw [List.length_append, List.length_range] at whole
    split
    · next empty =>
      have none : left.length = 0 := by rw [← sampled.length, empty, List.length_nil]
      exact ⟨left, drawn, sampled, by omega⟩
    · next nonempty =>
      obtain ⟨nonneg, inside⟩ := indexOf_bounds (xorshift s) (List.length_pos_iff.mpr nonempty)
      obtain ⟨position, next⟩ := sampled.draw nonneg inside
      obtain ⟨left', drawn', done, count⟩ := ih next (xorshift s)
      refine ⟨left', drawn', done, ?_⟩
      rw [count, List.length_append, List.length_singleton]
      omega

end

/-- As many different positions as are asked for, or all of them, and an address at each. -/
theorem pickCleanIps_samples (pool : List String) (count : ℕ) (seed : JsNumber) :
    ∃ positions : List ℕ, positions.Nodup ∧ (∀ position ∈ positions, position < (source pool).length) ∧
      positions.length = min count (source pool).length ∧
      (pickCleanIps pool count seed).out = positions.map ((source pool)[·]?) ∧
      none ∉ (pickCleanIps pool count seed).out ∧ (pickCleanIps pool count seed).pool = pool ∧
      (pickCleanIps pool count seed).fallback = FALLBACK := by
  have begins : Sampled pool { pool, fallback := FALLBACK, copy := source pool, out := [] }
      (List.range (source pool).length) [] := by
    constructor
    case positions => rw [List.append_nil]
    case copy =>
      apply List.ext_getElem
      · simp
      · intro index inside _
        simp
    case out => rfl
    case caller => rfl
    case fallback => rfl
  obtain ⟨left, drawn, sampled, length⟩ := begins.pickFrom count (seedBits seed)
  have inside : ∀ position ∈ drawn, position < (source pool).length := fun position member =>
    List.mem_range.mp (sampled.positions.subset (List.mem_append_right left member))
  refine ⟨drawn, ?_, inside, ?_, sampled.out, ?_, sampled.caller, sampled.fallback⟩
  · have once : (left ++ drawn).Nodup := sampled.positions.nodup_iff.mpr List.nodup_range
    exact once.of_append_right
  · rw [length, List.length_nil, Nat.zero_add]
  · intro undefined
    have listed : none ∈ drawn.map ((source pool)[·]?) := sampled.out ▸ undefined
    obtain ⟨position, member, absent⟩ := List.mem_map.mp listed
    exact absurd (List.getElem?_eq_none_iff.mp absent) (Nat.not_le.mpr (inside position member))

end OmniControlPlane.Panel.CleanIps
