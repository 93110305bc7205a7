import Mathlib.Algebra.Order.Ring.Int
import Mathlib.Logic.Function.Basic
import OmniControlPlane.Lib.Machine
import OmniControlPlane.Lib.OrderedMap

/-! # The cache of resolved names

Recency is the order of a map: a hit takes its key out and puts it back at the end, and a full cache drops the first
key of the map before it takes another. Writing to a key that the map has leaves it in its place. The ghosts of a world
remember what was last set for a key, whether the cache dropped it since, and the calls that used and placed it.
-/

namespace OmniControlPlane.Panel.DnsCache

open Lib
open Machine (Free)

def MAX_ENTRIES : ℕ := 2048

structure Entry (ν : Type) where
  value : ν
  exp : ℤ
deriving DecidableEq, Repr

abbrev Cache (κ ν : Type) := OrderedMap κ (Entry ν)

section

variable {κ ν : Type} [DecidableEq κ]

/-- The keys in the order of the map. -/
def keys (cache : Cache κ ν) : List κ := cache.entries.map (·.1)

def delete (cache : Cache κ ν) (key : κ) : Cache κ ν := cache.filter fun other _ => other ≠ key

def put (cache : Cache κ ν) (key : κ) (entry : Entry ν) : Cache κ ν := cache.alter key fun _ => entry

def get (cache : Cache κ ν) (key : κ) (now : ℤ) : Cache κ ν × Option ν :=
  match cache.get? key with
  | none => (cache, none)
  | some hit =>
    if hit.exp < now then (delete cache key, none)
    else (put (delete cache key) key hit, some hit.value)

/-- What a full cache does first. -/
def room (cache : Cache κ ν) : Cache κ ν :=
  if cache.entries.length ≥ MAX_ENTRIES then
    match (keys cache).head? with
    | none => cache
    | some oldest => delete cache oldest
  else cache

def set (cache : Cache κ ν) (key : κ) (value : ν) (ttl now : ℤ) : Cache κ ν := put (room cache) key ⟨value, now + ttl⟩

/-! ## Calls -/

/-- The cache, and what its calls have been. -/
structure World (κ ν : Type) where
  cache : Cache κ ν
  clock : ℤ
  calls : ℕ
  /-- What was last set for a key. -/
  latest : κ → Option (Entry ν)
  /-- The cache dropped the key since, to make room. -/
  evicted : κ → Bool
  /-- The call that last got or set a key. -/
  used : κ → ℕ
  /-- The call that last got a key, or set it while the map did not have it. -/
  placed : κ → ℕ

inductive Event (κ ν : Type) where
  | get (key : κ) (now : ℤ)
  | set (key : κ) (value : ν) (ttl now : ℤ)

def Event.now : Event κ ν → ℤ
  | .get _ now => now
  | .set _ _ _ now => now

def start (clock : ℤ) : World κ ν := ⟨.empty, clock, 0, fun _ => none, fun _ => false, fun _ => 0, fun _ => 0⟩

def World.got (world : World κ ν) (key : κ) (now : ℤ) : World κ ν :=
  { world with
    cache := (get world.cache key now).1
    clock := now
    calls := world.calls + 1
    used := Function.update world.used key (world.calls + 1)
    placed := Function.update world.placed key (world.calls + 1) }

def World.wrote (world : World κ ν) (key : κ) (value : ν) (ttl now : ℤ) : World κ ν :=
  { cache := set world.cache key value ttl now
    clock := now
    calls := world.calls + 1
    latest := Function.update world.latest key (some ⟨value, now + ttl⟩)
    evicted := fun other => other ≠ key &&
      (world.evicted other || (other ∈ keys world.cache && other ∉ keys (set world.cache key value ttl now)))
    used := Function.update world.used key (world.calls + 1)
    placed :=
      if key ∈ keys (room world.cache) then world.placed else Function.update world.placed key (world.calls + 1) }

/-- Clocks do not go back. -/
def machine : Machine (World κ ν) (Event κ ν) where
  step? world event :=
    if event.now < world.clock then none
    else match event with
      | .get key now => some (world.got key now)
      | .set key value ttl now => some (world.wrote key value ttl now)

/-! ## What a cache is for -/

/-- What was last set, unless it has expired or was dropped. -/
def World.answer (world : World κ ν) (key : κ) (now : ℤ) : Option ν :=
  match world.latest key with
  | none => none
  | some entry => if world.evicted key || entry.exp < now then none else some entry.value

def Answers (world : World κ ν) : Event κ ν → Prop
  | .get key now => (get world.cache key now).2 = world.answer key now
  | .set .. => True

/-- A key that is set is taken in. Nothing goes for it where it has a place or the cache has one, and else only the key
that was used least recently. -/
def Evicts (world : World κ ν) : Event κ ν → Prop
  | .get .. => True
  | .set key value ttl now =>
    if key ∈ keys world.cache ∨ world.cache.entries.length < MAX_ENTRIES then
      ∀ other, other ∈ keys (set world.cache key value ttl now) ↔ other = key ∨ other ∈ keys world.cache
    else ∃ victim ∈ keys world.cache,
      (∀ other ∈ keys world.cache, other ≠ victim → world.used victim < world.used other) ∧
        ∀ other, other ∈ keys (set world.cache key value ttl now) ↔
          other = key ∨ other ∈ keys world.cache ∧ other ≠ victim

/-- What is set in a full cache is its first key, or a key that it does not have, while its first key was not set again
since it was placed. -/
def Settled (world : World κ ν) : Event κ ν → Prop
  | .get .. => True
  | .set key _ _ _ => world.cache.entries.length < MAX_ENTRIES ∨
    ∃ oldest, (keys world.cache).head? = some oldest ∧
      (key = oldest ∨ key ∉ keys world.cache ∧ world.used oldest = world.placed oldest)

/-! ## Keys -/

variable {cache : Cache κ ν} {key other : κ} {entry : Entry ν} {value : ν} {ttl now : ℤ}

theorem mem_keys_iff : key ∈ keys cache ↔ ∃ entry, cache.get? key = some entry := by
  rw [keys, List.mem_map]
  constructor
  · rintro ⟨⟨_, entry⟩, listed, rfl⟩
    exact ⟨entry, OrderedMap.mem_entries_iff.mp listed⟩
  · rintro ⟨entry, found⟩
    exact ⟨(key, entry), OrderedMap.mem_entries_iff.mpr found, rfl⟩

theorem keys_delete (cache : Cache κ ν) (key : κ) : keys (delete cache key) = (keys cache).filter (· ≠ key) := by
  rw [keys, keys, List.filter_map]
  rfl

theorem get?_delete (cache : Cache κ ν) (key other : κ) :
    (delete cache key).get? other = if other = key then none else cache.get? other := by
  rw [delete, OrderedMap.get?_filter]
  by_cases same : other = key
  · simp [same]
  · simp [same]

theorem keys_put (cache : Cache κ ν) (key : κ) (entry : Entry ν) :
    keys (put cache key entry) = if key ∈ keys cache then keys cache else keys cache ++ [key] :=
  OrderedMap.alterEntries_keys key _ cache.entries

theorem get?_put (cache : Cache κ ν) (key other : κ) (entry : Entry ν) :
    (put cache key entry).get? other = if other = key then some entry else cache.get? other :=
  OrderedMap.get?_alter cache key other _

theorem mem_keys_put : other ∈ keys (put cache key entry) ↔ other = key ∨ other ∈ keys cache := by
  rw [keys_put]
  split
  · next present =>
    constructor
    · exact .inr
    · rintro (rfl | listed)
      · exact present
      · exact listed
  · rw [List.mem_append, List.mem_singleton, or_comm]

theorem get_cases (cache : Cache κ ν) (key : κ) (now : ℤ) :
    (cache.get? key = none ∧ get cache key now = (cache, none)) ∨
      (∃ hit, cache.get? key = some hit ∧ hit.exp < now ∧ get cache key now = (delete cache key, none)) ∨
      ∃ hit, cache.get? key = some hit ∧ ¬ hit.exp < now ∧
        get cache key now = (put (delete cache key) key hit, some hit.value) := by
  rw [get]
  cases found : cache.get? key with
  | none => exact .inl ⟨rfl, rfl⟩
  | some hit =>
    by_cases expired : hit.exp < now
    · exact .inr (.inl ⟨hit, rfl, expired, if_pos expired⟩)
    · exact .inr (.inr ⟨hit, rfl, expired, if_neg expired⟩)

/-- Room is there, or is made by the first key. -/
theorem room_cases (cache : Cache κ ν) : (cache.entries.length < MAX_ENTRIES ∧ room cache = cache) ∨
    ∃ oldest rest, ¬ cache.entries.length < MAX_ENTRIES ∧ keys cache = oldest :: rest ∧ oldest ∉ rest ∧
      room cache = delete cache oldest ∧ keys (room cache) = rest := by
  rw [room]
  split
  · next full =>
    cases listed : keys cache with
    | nil =>
      have empty : cache.entries.length = 0 := by rw [← List.length_map (·.1), ← keys, listed, List.length_nil]
      have room : 0 < MAX_ENTRIES := by decide
      omega
    | cons oldest rest =>
      obtain ⟨fresh, -⟩ := List.nodup_cons.mp (listed ▸ cache.distinct : (oldest :: rest).Nodup)
      refine .inr ⟨oldest, rest, Nat.not_lt.mpr full, rfl, fresh, rfl, ?_⟩
      rw [List.head?_cons]
      simp only [keys_delete, listed]
      rw [List.filter_cons_of_neg (by simp), List.filter_eq_self]
      intro other member
      exact decide_eq_true fun same => fresh (same ▸ member)
  · next free => exact .inl ⟨Nat.not_le.mp free, rfl⟩

theorem get?_room {entry : Entry ν} (found : (room cache).get? key = some entry) : cache.get? key = some entry := by
  rcases room_cases cache with ⟨-, same⟩ | ⟨oldest, rest, -, -, -, dropped, -⟩
  · exact same ▸ found
  · rw [dropped, get?_delete] at found
    split at found
    · contradiction
    · exact found

theorem keys_room_sublist (cache : Cache κ ν) : (keys (room cache)).Sublist (keys cache) := by
  rcases room_cases cache with ⟨-, same⟩ | ⟨oldest, rest, -, listed, -, -, left⟩
  · rw [same]
  · rw [left, listed]
    exact List.sublist_cons_self oldest rest

theorem length_room (most : cache.entries.length ≤ MAX_ENTRIES) : (keys (room cache)).length < MAX_ENTRIES := by
  rcases room_cases cache with ⟨free, same⟩ | ⟨oldest, rest, -, listed, -, -, left⟩
  · rw [same, keys, List.length_map]
    exact free
  · have length := congrArg List.length listed
    rw [keys, List.length_map, List.length_cons] at length
    rw [left]
    omega

/-! ## The order of the map -/

section

variable {listed left : List κ} {placed used : κ → ℕ} {calls : ℕ}

/-- The keys stand in the order in which they were placed, and were used since. -/
structure Stamped (listed : List κ) (placed used : κ → ℕ) (calls : ℕ) : Prop where
  ordered : listed.Pairwise fun before after => placed before < placed after
  used : ∀ key ∈ listed, placed key ≤ used key ∧ used key ≤ calls

omit [DecidableEq κ] in
/-- Keys may go. -/
theorem Stamped.sublist (stamped : Stamped listed placed used calls) (fewer : left.Sublist listed) :
    Stamped left placed used calls :=
  ⟨stamped.ordered.sublist fewer, fun key member => stamped.used key (fewer.subset member)⟩

/-- A key that is used where it stands keeps its place. -/
theorem Stamped.use (stamped : Stamped listed placed used calls) (key : κ) :
    Stamped listed placed (Function.update used key (calls + 1)) (calls + 1) := by
  refine ⟨stamped.ordered, fun other member => ?_⟩
  obtain ⟨since, most⟩ := stamped.used other member
  rw [Function.update_apply]
  split
  · omega
  · omega

/-- A key that is placed goes to the end. -/
theorem Stamped.place (stamped : Stamped listed placed used calls) (key : κ) :
    Stamped (listed.filter (· ≠ key) ++ [key]) (Function.update placed key (calls + 1))
      (Function.update used key (calls + 1)) (calls + 1) := by
  have others : ∀ other ∈ listed.filter (· ≠ key), other ∈ listed ∧ other ≠ key := fun other member =>
    ⟨List.mem_of_mem_filter member, of_decide_eq_true (List.mem_filter.mp member).2⟩
  constructor
  · rw [List.pairwise_append]
    refine ⟨?_, List.pairwise_singleton _ _, ?_⟩
    · apply (stamped.ordered.sublist List.filter_sublist).imp_of_mem
      intro before after first second less
      rwa [Function.update_of_ne (others before first).2, Function.update_of_ne (others after second).2]
    · intro before first after last
      obtain rfl := List.mem_singleton.mp last
      obtain ⟨since, most⟩ := stamped.used before (others before first).1
      rw [Function.update_of_ne (others before first).2, Function.update_self]
      omega
  · intro other member
    rcases List.mem_append.mp member with stays | last
    · obtain ⟨listed, different⟩ := others other stays
      obtain ⟨since, most⟩ := stamped.used other listed
      rw [Function.update_of_ne different, Function.update_of_ne different]
      omega
    · obtain rfl := List.mem_singleton.mp last
      rw [Function.update_self, Function.update_self]
      omega

omit [DecidableEq κ] in
/-- A first key that was not used again since it was placed was used before all others. -/
theorem Stamped.least {oldest : κ} {rest : List κ} (stamped : Stamped (oldest :: rest) placed used calls)
    (settled : used oldest = placed oldest) : ∀ other ∈ oldest :: rest, other ≠ oldest → used oldest < used other := by
  intro other member different
  have behind : other ∈ rest := (List.mem_cons.mp member).resolve_left different
  have before := (List.pairwise_cons.mp stamped.ordered).1 other behind
  obtain ⟨since, -⟩ := stamped.used other member
  omega

end

/-! ## Runs -/

/-- What every call keeps. -/
structure Inv (world : World κ ν) : Prop where
  size : world.cache.entries.length ≤ MAX_ENTRIES
  held : ∀ key entry, world.cache.get? key = some entry → world.latest key = some entry ∧ world.evicted key = false
  kept : ∀ key entry, world.latest key = some entry → world.evicted key = false → world.cache.get? key = none →
    entry.exp < world.clock
  stamped : Stamped (keys world.cache) world.placed world.used world.calls

theorem inv_start (clock : ℤ) : Inv (start clock : World κ ν) := by
  constructor
  · exact Nat.zero_le _
  · exact fun key entry found => absurd found (Option.some_ne_none entry).symm
  · exact fun key entry latest => absurd latest (Option.some_ne_none entry).symm
  · exact ⟨List.Pairwise.nil, fun key member => absurd member List.not_mem_nil⟩

variable {world : World κ ν}

theorem not_mem_keys (absent : cache.get? key = none) : key ∉ keys cache := by
  intro member
  obtain ⟨entry, found⟩ := mem_keys_iff.mp member
  exact absurd (found.symm.trans absent) (Option.some_ne_none entry)

theorem filter_keys (absent : key ∉ keys cache) : (keys cache).filter (· ≠ key) = keys cache := by
  rw [List.filter_eq_self]
  intro other member
  exact decide_eq_true fun same => absent (same ▸ member)

/-- A key goes where it is found expired, and to the end where it is hit. -/
theorem keys_get (cache : Cache κ ν) (key : κ) (now : ℤ) :
    keys (get cache key now).1 = (keys cache).filter (· ≠ key) ∨
      key ∈ keys cache ∧ keys (get cache key now).1 = (keys cache).filter (· ≠ key) ++ [key] := by
  rcases get_cases cache key now with ⟨absent, got⟩ | ⟨hit, found, -, got⟩ | ⟨hit, found, -, got⟩
  · rw [got]
    exact .inl (filter_keys (not_mem_keys absent)).symm
  · rw [got]
    exact .inl (keys_delete cache key)
  · rw [got]
    refine .inr ⟨mem_keys_iff.mpr ⟨hit, found⟩, ?_⟩
    rw [keys_put, if_neg, keys_delete]
    rw [keys_delete, List.mem_filter]
    exact fun member => absurd rfl (of_decide_eq_true member.2)

/-- A call of `get` changes no entry, and takes out only what has expired. -/
theorem get?_get (cache : Cache κ ν) (key other : κ) (now : ℤ) : (get cache key now).1.get? other = cache.get? other ∨
    (get cache key now).1.get? other = none ∧ ∃ hit, cache.get? other = some hit ∧ hit.exp < now := by
  rcases get_cases cache key now with ⟨absent, got⟩ | ⟨hit, found, expired, got⟩ | ⟨hit, found, -, got⟩
  · rw [got]
    exact .inl rfl
  · rw [got, get?_delete]
    split
    · next same => exact .inr ⟨rfl, hit, same ▸ found, expired⟩
    · exact .inl rfl
  · rw [got, get?_put, get?_delete]
    split
    · next same => exact .inl (same ▸ found.symm)
    · exact .inl rfl

theorem size_get (most : cache.entries.length ≤ MAX_ENTRIES) (key : κ) (now : ℤ) :
    (get cache key now).1.entries.length ≤ MAX_ENTRIES := by
  have length : ∀ cache : Cache κ ν, cache.entries.length = (keys cache).length := fun cache => (List.length_map _).symm
  rw [length] at most ⊢
  rcases keys_get cache key now with same | ⟨member, same⟩
  · rw [same]
    exact (List.length_filter_le _ _).trans most
  · have fewer : ((keys cache).filter (· ≠ key)).length < (keys cache).length :=
      List.length_filter_lt_length_iff_exists.mpr ⟨key, member, by simp⟩
    rw [same, List.length_append, List.length_singleton]
    omega

theorem Inv.got (inv : Inv world) (later : world.clock ≤ now) : Inv (world.got key now) := by
  constructor
  case size => exact size_get inv.size key now
  case held =>
    intro other entry found
    rcases get?_get world.cache key other now with same | ⟨gone, -⟩
    · exact inv.held other entry (same ▸ found)
    · exact absurd (found.symm.trans gone) (Option.some_ne_none entry)
  case kept =>
    intro other entry latest safe absent
    rcases get?_get world.cache key other now with same | ⟨-, hit, found, expired⟩
    · exact (inv.kept other entry latest safe (same ▸ absent)).trans_le later
    · obtain rfl : hit = entry := Option.some.inj ((inv.held other hit found).1.symm.trans latest)
      exact expired
  case stamped =>
    apply (inv.stamped.place key).sublist
    rcases keys_get world.cache key now with same | ⟨-, same⟩
    · exact same ▸ List.sublist_append_left _ _
    · exact same ▸ List.Sublist.refl _

theorem size_set (most : cache.entries.length ≤ MAX_ENTRIES) (key : κ) (value : ν) (ttl now : ℤ) :
    (set cache key value ttl now).entries.length ≤ MAX_ENTRIES := by
  have less := length_room most
  have length : (set cache key value ttl now).entries.length = (keys (set cache key value ttl now)).length :=
    (List.length_map _).symm
  rw [length, set, keys_put]
  split
  · exact less.le
  · rw [List.length_append, List.length_singleton]
    exact less

theorem Inv.wrote (inv : Inv world) (later : world.clock ≤ now) : Inv (world.wrote key value ttl now) := by
  have read (other : κ) : (set world.cache key value ttl now).get? other =
      if other = key then some ⟨value, now + ttl⟩ else (room world.cache).get? other := get?_put _ key other _
  constructor
  case size => exact size_set inv.size key value ttl now
  case held =>
    intro other entry found
    have present : other ∈ keys (set world.cache key value ttl now) := mem_keys_iff.mpr ⟨entry, found⟩
    simp only [World.wrote, read] at found ⊢
    by_cases same : other = key
    · rw [if_pos same] at found
      rw [same, Function.update_self, found]
      exact ⟨rfl, by simp⟩
    · rw [if_neg same] at found
      obtain ⟨latest, safe⟩ := inv.held other entry (get?_room found)
      rw [Function.update_of_ne same]
      exact ⟨latest, by simp [safe, present]⟩
  case kept =>
    intro other entry latest safe absent
    have gone := not_mem_keys absent
    simp only [World.wrote, read] at latest safe absent gone ⊢
    by_cases same : other = key
    · rw [if_pos same] at absent
      contradiction
    · rw [Function.update_of_ne same] at latest
      simp only [same, ne_eq, not_false_eq_true, decide_true, Bool.true_and, Bool.or_eq_false_iff, gone,
        Bool.and_true, decide_eq_false_iff_not] at safe
      apply (inv.kept other entry latest safe.1 _).trans_le later
      cases found : world.cache.get? other with
      | none => rfl
      | some hit => exact absurd (mem_keys_iff.mpr ⟨hit, found⟩) safe.2
  case stamped =>
    have few := keys_room_sublist world.cache
    by_cases present : key ∈ keys (room world.cache)
    · simp only [World.wrote, set, keys_put, if_pos present]
      exact (inv.stamped.sublist few).use key
    · simp only [World.wrote, set, keys_put, if_neg present]
      have placed := (inv.stamped.sublist few).place key
      rwa [filter_keys present] at placed

theorem step_cases {event : Event κ ν} {next : World κ ν} (stepped : machine.step? world event = some next) :
    (∃ key now, event = .get key now ∧ world.clock ≤ now ∧ next = world.got key now) ∨
      ∃ key value ttl now, event = .set key value ttl now ∧ world.clock ≤ now ∧
        next = world.wrote key value ttl now := by
  rw [machine] at stepped
  simp only at stepped
  split at stepped
  · contradiction
  · next later =>
    cases event with
    | get key now => exact .inl ⟨key, now, rfl, not_lt.mp later, (Option.some.inj stepped).symm⟩
    | set key value ttl now =>
      exact .inr ⟨key, value, ttl, now, rfl, not_lt.mp later, (Option.some.inj stepped).symm⟩

theorem inv_step (world : World κ ν) (event : Event κ ν) (next : World κ ν) (inv : Inv world)
    (stepped : machine.step? world event = some next) : Inv next := by
  rcases step_cases stepped with ⟨key, now, -, later, rfl⟩ | ⟨key, value, ttl, now, -, later, rfl⟩
  · exact inv.got later
  · exact inv.wrote later

/-- A call of `get` answers what was last set. -/
theorem Inv.answers (inv : Inv world) {event : Event κ ν} {next : World κ ν}
    (stepped : machine.step? world event = some next) : Answers world event := by
  rcases step_cases stepped with ⟨key, now, rfl, later, -⟩ | ⟨key, value, ttl, now, rfl, -, -⟩
  case inr => trivial
  case inl =>
    rw [Answers, World.answer]
    rcases get_cases world.cache key now with ⟨absent, got⟩ | ⟨hit, found, expired, got⟩ | ⟨hit, found, live, got⟩
    · rw [got]
      cases latest : world.latest key with
      | none => rfl
      | some entry =>
        cases safe : world.evicted key with
        | true => simp
        | false =>
          have expired := (inv.kept key entry latest safe absent).trans_le later
          simp [expired]
    · rw [got, (inv.held key hit found).1]
      simp [expired]
    · rw [got, (inv.held key hit found).1]
      simp [live, (inv.held key hit found).2]

/-- Where the first key of a full cache is not behind its use, a set drops the key that was used least recently. -/
theorem Inv.evicts (inv : Inv world) {event : Event κ ν} (settled : Settled world event) : Evicts world event := by
  cases event with
  | get => trivial
  | set key value ttl now =>
    have member (other : κ) : other ∈ keys (set world.cache key value ttl now) ↔
        other = key ∨ other ∈ keys (room world.cache) := mem_keys_put
    rcases room_cases world.cache with ⟨free, same⟩ | ⟨oldest, rest, full, listed, fresh, -, left⟩
    · rw [Evicts, if_pos (.inr free)]
      intro other
      rw [member, same]
    · obtain ⟨first, begins, kind⟩ := settled.resolve_left full
      obtain rfl : oldest = first := Option.some.inj ((congrArg List.head? listed).symm.trans begins)
      rcases kind with rfl | ⟨absent, since⟩
      · rw [Evicts, if_pos (.inl (listed ▸ List.mem_cons_self))]
        intro other
        rw [member, left, listed, List.mem_cons]
        tauto
      · rw [Evicts, if_neg (by tauto)]
        refine ⟨oldest, listed ▸ List.mem_cons_self, ?_, ?_⟩
        · have stamped := inv.stamped
          rw [listed] at stamped ⊢
          exact stamped.least since
        · intro other
          rw [member, left, listed, List.mem_cons]
          constructor
          · rintro (same | behind)
            · exact .inl same
            · exact .inr ⟨.inr behind, fun same => fresh (same ▸ behind)⟩
          · rintro (same | ⟨same | behind, different⟩)
            · exact .inl same
            · exact absurd same different
            · exact .inr behind

end

/-- The cache holds no more than its most, and answers what was last set and neither expired nor was dropped. Where what
is set in a full cache is its first key, or a new one while the first was not set again since it was placed, nothing is
dropped but the key that was used least recently, for a key that has no place. -/
theorem dnsCache_lru {κ ν : Type} [DecidableEq κ] {clock : ℤ} {events : List (Event κ ν)} {world : World κ ν}
    (run : machine.Run Free (start clock) events world) :
    world.cache.entries.length ≤ MAX_ENTRIES ∧ machine.Run Answers (start clock) events world ∧
      (machine.Run Settled (start clock) events world → machine.Run Evicts (start clock) events world) := by
  refine ⟨?_, ?_, fun settled => ?_⟩
  · have inv : Inv world := run.preserves Inv (fun s event t inv _ stepped => inv_step s event t inv stepped) (inv_start clock)
    exact inv.size
  · apply (run.steps_iff Inv _ _ (inv_start clock)).mpr run
    · exact fun s event t inv stepped => iff_of_true (inv.answers stepped) trivial
    · exact fun s event t inv _ stepped => inv_step s event t inv stepped
  · apply (settled.steps_iff_given Inv _ _ (inv_start clock)).mpr run
    · exact fun s event t inv met _ => iff_of_true (inv.evicts met) trivial
    · exact fun s event t inv _ _ stepped => inv_step s event t inv stepped

namespace Sample

/-- As many names as there is room for, or fewer -/
def fill (count : ℕ) : List (Event ℕ ℕ) := (List.range count).map fun key => .set key 0 300000 0

theorem fill_run {count : ℕ} (few : count ≤ MAX_ENTRIES) : ∃ world, machine.Run Settled (start 0) (fill count) world ∧
    world.clock = 0 ∧ keys world.cache = List.range count ∧ ∀ key < count, world.used key = world.placed key := by
  induction count with
  | zero => exact ⟨_, .nil _, rfl, rfl, nofun⟩
  | succ count ih =>
    obtain ⟨world, run, clock, listed, unset⟩ := ih (Nat.le_of_succ_le few)
    have free : world.cache.entries.length < MAX_ENTRIES := by
      rw [← List.length_map (·.1), ← keys, listed, List.length_range]
      exact few
    have stepped : machine.step? world (.set count 0 300000 0) = some (world.wrote count 0 300000 0) := by
      rw [machine]
      exact if_neg (by rw [clock]; exact lt_irrefl _)
    have settled : Settled world (.set count 0 300000 0) := .inl free
    rcases room_cases world.cache with ⟨-, same⟩ | ⟨_, _, full, -⟩
    · have absent : count ∉ keys (room world.cache) := by simp [same, listed]
      refine ⟨world.wrote count 0 300000 0, ?_, rfl, ?_, fun key below => ?_⟩
      · rw [fill, List.range_succ, List.map_append]
        exact run.snoc settled stepped
      · simp only [World.wrote, set, same, keys_put, listed, List.mem_range, lt_self_iff_false, if_false]
        exact List.range_succ.symm
      · simp only [World.wrote, if_neg absent]
        rcases Nat.lt_succ_iff_lt_or_eq.mp below with earlier | rfl
        · rw [Function.update_of_ne earlier.ne, Function.update_of_ne earlier.ne]
          exact unset key earlier
        · rw [Function.update_self, Function.update_self]
    · exact absurd free full

/-- One name more than there is room for. -/
def crowded : List (Event ℕ ℕ) := fill MAX_ENTRIES ++ [Event.set MAX_ENTRIES 0 300000 0]

theorem crowded_run : ∃ world, machine.Run Settled (start 0) crowded world := by
  obtain ⟨world, run, clock, listed, unset⟩ := fill_run (Nat.le_refl MAX_ENTRIES)
  have settled : Settled world (.set MAX_ENTRIES 0 300000 0) := by
    refine .inr ⟨0, by rw [listed, List.head?_range, if_neg (by decide)], .inr ⟨?_, unset 0 (by decide)⟩⟩
    rw [listed, List.mem_range]
    exact lt_irrefl _
  have stepped : machine.step? world (.set MAX_ENTRIES 0 300000 0) = some (world.wrote MAX_ENTRIES 0 300000 0) := by
    rw [machine]
    exact if_neg (by rw [clock]; exact lt_irrefl _)
  exact ⟨_, run.snoc settled stepped⟩

end Sample

/-- A cache is filled, and a set of a new name drops the one used least recently. -/
theorem dnsCache_lru_crowded : ∃ world, machine.Run Free (start 0) Sample.crowded world ∧
    world.cache.entries.length ≤ MAX_ENTRIES ∧ machine.Run Answers (start 0) Sample.crowded world ∧
      machine.Run Evicts (start 0) Sample.crowded world := by
  obtain ⟨world, settled⟩ := Sample.crowded_run
  have run : machine.Run Free (start 0) Sample.crowded world := settled.mono fun _ _ _ => trivial
  obtain ⟨size, answers, evicts⟩ := dnsCache_lru run
  exact ⟨world, run, size, answers, evicts settled⟩

/-- The last name of a full cache is set again, and the first is dropped. -/
theorem reset_evicts : ∃ world next, machine.Run Free (start 0) (Sample.fill MAX_ENTRIES) world ∧
    machine.step? world (.set 2047 1 300000 0) = some next ∧ ¬ Evicts world (.set 2047 1 300000 0) := by
  obtain ⟨world, settled, clock, listed, -⟩ := Sample.fill_run (Nat.le_refl MAX_ENTRIES)
  have run : machine.Run Free (start 0) (Sample.fill MAX_ENTRIES) world := settled.mono fun _ _ _ => trivial
  have present : 2047 ∈ keys world.cache := by
    rw [listed, List.mem_range]
    decide
  refine ⟨world, world.wrote 2047 1 300000 0, run, ?_, ?_⟩
  · rw [machine]
    exact if_neg (by rw [clock]; exact lt_irrefl _)
  · rw [Evicts, if_pos (.inl present)]
    intro takes
    rcases room_cases world.cache with ⟨free, -⟩ | ⟨oldest, rest, -, order, fresh, -, left⟩
    · rw [← List.length_map (·.1), ← keys, listed, List.length_range] at free
      exact absurd free (lt_irrefl _)
    · obtain rfl : oldest = 0 := by
        have first := congrArg List.head? (order.symm.trans listed)
        rw [List.head?_range] at first
        exact Option.some.inj first
      have held : 0 ∈ keys (set world.cache 2047 1 300000 0) := (takes 0).mpr (.inr (order ▸ List.mem_cons_self))
      rw [set, mem_keys_put, left] at held
      exact held.elim (by decide) fresh

end OmniControlPlane.Panel.DnsCache
