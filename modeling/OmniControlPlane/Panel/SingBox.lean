import Mathlib.Logic.Relation
import OmniControlPlane.Panel.Generator

/-! # The sing-box document

A client loads a document whose outbounds have different tags, whose references have a target, and whose groups do
not contain themselves. The generated outbounds share their tags with five that are built in.
-/

namespace OmniControlPlane.Panel.SingBox

open Lib Generator

/-! ## The document -/

def singBoxConfig (items : List Item) (remoteDns directDns : String) : Json :=
  let outbounds := singBoxOutbounds items
  let tags := outbounds.map fun outbound => (outbound.field? "tag").getD .null
  .object [
    ("log", .object [("level", .string "warn"), ("timestamp", .bool true)]),
    ("dns", .object [
      ("servers", .array [
        .object [("tag", .string "remote"), ("address", .string remoteDns), ("detour", .string "select")],
        .object [("tag", .string "direct"), ("address", .string directDns), ("detour", .string "direct")],
        .object [("tag", .string "block"), ("address", .string "rcode://success")]]),
      ("rules", .array [.object [("outbound", .string "any"), ("server", .string "direct")]]),
      ("final", .string "remote")]),
    ("inbounds", .array [.object [
      ("type", .string "tun"), ("tag", .string "tun-in"), ("inet4_address", .string "172.19.0.1/30"),
      ("auto_route", .bool true), ("strict_route", .bool true), ("stack", .string "system")]]),
    ("outbounds", .array ([
      .object [("type", .string "selector"), ("tag", .string "select"), ("outbounds", .array (.string "auto" :: tags))],
      .object [("type", .string "urltest"), ("tag", .string "auto"), ("outbounds", .array tags),
        ("url", .string "https://cp.cloudflare.com"), ("interval", .string "3m")],
      .object [("type", .string "direct"), ("tag", .string "direct")],
      .object [("type", .string "block"), ("tag", .string "block")],
      .object [("type", .string "dns"), ("tag", .string "dns-out")]] ++ outbounds)),
    ("route", .object [
      ("rules", .array [
        .object [("protocol", .string "dns"), ("outbound", .string "dns-out")],
        .object [("ip_is_private", .bool true), ("outbound", .string "direct")],
        .object [("domain_suffix", .array [.string ".ir", .string ".melli"]), ("outbound", .string "direct")]]),
      ("final", .string "select"),
      ("auto_detect_interface", .bool true)])]

/-! ## What a client checks -/

/-- An outbound with the tags that it groups, none where it is no group. -/
structure Outbound where
  tag : String
  members : List String
deriving DecidableEq, Repr

def Contains (outbounds : List Outbound) (tag member : String) : Prop :=
  ∃ outbound ∈ outbounds, outbound.tag = tag ∧ member ∈ outbound.members

/-- Outbounds that a client loads, with what the rest of the document refers to. -/
structure Loadable (outbounds : List Outbound) (references : List String) : Prop where
  distinct : (outbounds.map (·.tag)).Nodup
  closed : ∀ outbound ∈ outbounds, ∀ member ∈ outbound.members, member ∈ outbounds.map (·.tag)
  referenced : ∀ reference ∈ references, reference ∈ outbounds.map (·.tag)
  acyclic : ∀ tag, ¬ Relation.TransGen (Contains outbounds) tag tag

def itemsAt (key : String) (json : Json) : Option (List Json) :=
  match json.field? key with
  | some (.array items) => some items
  | none => some []
  | _ => none

def text? : Json → Option String
  | .string text => some text
  | _ => none

def outbound? (json : Json) : Option Outbound := do
  let tag ← stringOf json "tag"
  let members ← (← itemsAt "outbounds" json).mapM text?
  some ⟨tag, members⟩

def outboundsOf (document : Json) : Option (List Outbound) := do
  (← itemsAt "outbounds" document).mapM outbound?

/-- The detours of the DNS servers, and where the routes go. -/
def referencesOf (document : Json) : Option (List String) := do
  let servers ← itemsAt "servers" (← document.field? "dns")
  let route ← document.field? "route"
  let rules ← itemsAt "rules" route
  let final ← stringOf route "final"
  some (servers.filterMap (stringOf · "detour") ++ rules.filterMap (stringOf · "outbound") ++ [final])

def Loads (document : Json) : Prop :=
  ∃ outbounds references, outboundsOf document = some outbounds ∧ referencesOf document = some references ∧
    Loadable outbounds references

/-! ## Tags -/

def RESERVED : List String := ["select", "auto", "direct", "block", "dns-out"]

def tagOf (index : ℕ) (item : Item) : String := Generator.orElse item.remark ("node-" ++ toString index)

/-- The outbounds of the document as a client reads them. -/
def shape (tags : List String) : List Outbound :=
  [⟨"select", "auto" :: tags⟩, ⟨"auto", tags⟩, ⟨"direct", []⟩, ⟨"block", []⟩, ⟨"dns-out", []⟩] ++
    tags.map fun tag => ⟨tag, []⟩

section

variable {tags : List String}

theorem shape_tags : (shape tags).map (·.tag) = RESERVED ++ tags := by
  rw [shape, List.map_append, List.map_map]
  exact congrArg (RESERVED ++ ·) (List.map_id tags)

/-- Only the selector and the test contain anything. -/
theorem contains_shape {tag member : String} (contained : Contains (shape tags) tag member) :
    tag = "select" ∧ (member = "auto" ∨ member ∈ tags) ∨ tag = "auto" ∧ member ∈ tags := by
  obtain ⟨outbound, listed, rfl, member⟩ := contained
  rcases List.mem_append.mp listed with builtIn | generated
  · simp only [List.mem_cons, List.not_mem_nil, or_false] at builtIn
    rcases builtIn with rfl | rfl | rfl | rfl | rfl
    · exact .inl ⟨rfl, List.mem_cons.mp member⟩
    · exact .inr ⟨rfl, member⟩
    all_goals contradiction
  · obtain ⟨tag, -, rfl⟩ := List.mem_map.mp generated
    contradiction

/-- What is above what: the selector above the test, and both above the generated outbounds. -/
def rank (tag : String) : ℕ := if tag = "select" then 2 else if tag = "auto" then 1 else 0

theorem rank_lower (apart : ∀ tag ∈ tags, tag ∉ RESERVED) {tag member : String}
    (contained : Contains (shape tags) tag member) : rank member < rank tag := by
  have bottom {member : String} (listed : member ∈ tags) : rank member = 0 := by
    have absent := apart member listed
    rw [rank, if_neg, if_neg]
    · rintro rfl
      exact absent (by decide)
    · rintro rfl
      exact absent (by decide)
  rcases contains_shape contained with ⟨rfl, rfl | listed⟩ | ⟨rfl, listed⟩
  · decide
  · rw [bottom listed]
    decide
  · rw [bottom listed]
    decide

theorem rank_path (apart : ∀ tag ∈ tags, tag ∉ RESERVED) {tag member : String}
    (path : Relation.TransGen (Contains (shape tags)) tag member) : rank member < rank tag := by
  induction path with
  | single edge => exact rank_lower apart edge
  | tail _ edge below => exact Nat.lt_trans (rank_lower apart edge) below

/-- The groups contain nothing but tags of the document. -/
theorem shape_closed : ∀ outbound ∈ shape tags, ∀ member ∈ outbound.members, member ∈ (shape tags).map (·.tag) := by
  intro outbound listed member contained
  rw [shape_tags]
  rcases contains_shape ⟨outbound, listed, rfl, contained⟩ with ⟨-, rfl | generated⟩ | ⟨-, generated⟩
  · exact List.mem_append_left _ (by decide)
  · exact List.mem_append_right _ generated
  · exact List.mem_append_right _ generated

theorem loadable_shape_iff {references : List String} (builtIn : ∀ reference ∈ references, reference ∈ RESERVED) :
    Loadable (shape tags) references ↔ tags.Nodup ∧ ∀ tag ∈ tags, tag ∉ RESERVED := by
  constructor
  · intro loadable
    have distinct := loadable.distinct
    rw [shape_tags] at distinct
    obtain ⟨-, generated, apart⟩ := List.nodup_append.mp distinct
    exact ⟨generated, fun tag listed reserved => apart tag reserved tag listed rfl⟩
  · rintro ⟨generated, apart⟩
    constructor
    case distinct =>
      rw [shape_tags]
      apply List.nodup_append.mpr
      refine ⟨by decide, generated, ?_⟩
      rintro tag reserved _ listed rfl
      exact apart tag listed reserved
    case closed => exact shape_closed
    case referenced =>
      intro reference member
      rw [shape_tags]
      exact List.mem_append_left _ (builtIn reference member)
    case acyclic =>
      intro tag cycle
      exact Nat.lt_irrefl _ (rank_path apart cycle)

end

/-! ## Reading the document -/

section

variable (items : List Item) (remoteDns directDns : String)

theorem mapM_some {α β : Type} {f : α → Option β} {g : α → β} (all : ∀ item, f item = some (g item)) (list : List α) :
    list.mapM f = some (list.map g) := by
  induction list with
  | nil => rfl
  | cons head rest ih =>
    rw [List.mapM_cons, all, ih]
    rfl

theorem mapM_text (texts : List String) : (texts.map Json.string).mapM text? = some texts := by
  have kept : ∀ text, (text? ∘ Json.string) text = some (id text) := fun _ => rfl
  rw [List.mapM_map, mapM_some kept texts, List.map_id]

theorem outbound?_eq {json : Json} {tag : String} {members : List String} (tagged : stringOf json "tag" = some tag)
    (listed : itemsAt "outbounds" json = some (members.map .string)) : outbound? json = some ⟨tag, members⟩ := by
  rw [outbound?, tagged, listed, Option.bind_eq_bind, Option.bind_some, Option.bind_eq_bind, Option.bind_some, mapM_text]
  rfl

theorem outboundsOf_singBoxConfig :
    outboundsOf (singBoxConfig items remoteDns directDns) = some (shape (items.mapIdx tagOf)) := by
  have tags : (singBoxOutbounds items).map (fun outbound => (outbound.field? "tag").getD .null) =
      (items.mapIdx tagOf).map .string := by
    rw [singBoxOutbounds, List.mapIdx_eq_zipIdx_map, List.mapIdx_eq_zipIdx_map, List.map_map, List.map_map]
    rfl
  have generated : (singBoxOutbounds items).mapM outbound? =
      some ((items.mapIdx tagOf).map fun tag => ⟨tag, []⟩) := by
    rw [singBoxOutbounds, List.mapIdx_eq_zipIdx_map, List.mapIdx_eq_zipIdx_map, List.mapM_map, List.map_map]
    exact mapM_some (fun _ => rfl) _
  have listed : itemsAt "outbounds" (singBoxConfig items remoteDns directDns) = some ([
      .object [("type", .string "selector"), ("tag", .string "select"),
        ("outbounds", .array ((items.mapIdx tagOf).cons "auto" |>.map .string))],
      .object [("type", .string "urltest"), ("tag", .string "auto"),
        ("outbounds", .array ((items.mapIdx tagOf).map .string)),
        ("url", .string "https://cp.cloudflare.com"), ("interval", .string "3m")],
      .object [("type", .string "direct"), ("tag", .string "direct")],
      .object [("type", .string "block"), ("tag", .string "block")],
      .object [("type", .string "dns"), ("tag", .string "dns-out")]] ++ singBoxOutbounds items) := by
    rw [List.map_cons, ← tags]
    rfl
  rw [outboundsOf, listed, Option.bind_eq_bind, Option.bind_some, List.mapM_append, generated, List.mapM_cons,
    @outbound?_eq _ "select" ("auto" :: items.mapIdx tagOf) rfl rfl, List.mapM_cons,
    @outbound?_eq _ "auto" (items.mapIdx tagOf) rfl rfl]
  rfl

theorem referencesOf_singBoxConfig : referencesOf (singBoxConfig items remoteDns directDns) =
    some ["select", "direct", "dns-out", "direct", "direct", "select"] := rfl

/-- The document is loaded exactly where its items have different tags, none of them built in. -/
theorem loads_iff : Loads (singBoxConfig items remoteDns directDns) ↔
    (items.mapIdx tagOf).Nodup ∧ ∀ tag ∈ items.mapIdx tagOf, tag ∉ RESERVED := by
  have builtIn : ∀ reference ∈ ["select", "direct", "dns-out", "direct", "direct", "select"], reference ∈ RESERVED := by
    decide
  rw [← loadable_shape_iff builtIn]
  constructor
  · rintro ⟨outbounds, references, read, read', loadable⟩
    rw [outboundsOf_singBoxConfig, Option.some.injEq] at read
    rw [referencesOf_singBoxConfig, Option.some.injEq] at read'
    rwa [read, read']
  · intro loadable
    exact ⟨_, _, outboundsOf_singBoxConfig items remoteDns directDns, referencesOf_singBoxConfig items remoteDns directDns,
      loadable⟩

end

/-! ## The tags of a user's items -/

section

variable {site : Site} {user : User}

theorem numbered_inj {base : String} {first second : ℕ}
    (same : base ++ "#" ++ toString first = base ++ "#" ++ toString second) : first = second := by
  have digits := congrArg String.toList ((String.append_right_inj _).mp same)
  have printed (number : ℕ) : (toString number).toList = Nat.toDigits 10 number := by
    rw [Nat.toString_eq_repr, Nat.repr_eq_ofList_toDigits, String.toList_ofList]
  rw [printed, printed] at digits
  rw [← @Nat.ofDigitChars_ten_toDigits first, digits, Nat.ofDigitChars_ten_toDigits]

theorem numbered_unreserved (base : String) (number : ℕ) : base ++ "#" ++ toString number ∉ RESERVED := by
  intro reserved
  have hash : '#' ∈ (base ++ "#" ++ toString number).toList := by
    rw [String.toList_append, String.toList_append]
    exact List.mem_append_left _ (List.mem_append_right _ (List.mem_singleton.mpr rfl))
  have plain : ∀ tag ∈ RESERVED, '#' ∉ tag.toList := by decide
  exact plain _ reserved hash

theorem tags_several {ips : List String} (several : 1 < ips.length) : (itemsOf site user ips).mapIdx tagOf =
    (List.range (min 8 ips.length)).map fun index => site.remarkBase ++ "#" ++ toString (index + 1) := by
  have given : ips ≠ [] := List.ne_nil_of_length_pos (Nat.lt_trans Nat.zero_lt_one several)
  have nonempty (index : ℕ) : site.remarkBase ++ "#" ++ toString (index + 1) ≠ "" := by
    intro empty
    have reserved := congrArg String.toList empty
    rw [String.toList_append, String.toList_append] at reserved
    simp at reserved
  rw [itemsOf, if_pos given, List.mapIdx_mapIdx]
  apply List.ext_getElem
  · rw [List.length_mapIdx, List.length_take, List.length_map, List.length_range]
  · intro index _ _
    rw [List.getElem_mapIdx, List.getElem_map, List.getElem_range]
    simp only [Function.comp_apply, tagOf, if_pos several]
    exact orElse_of_ne (nonempty index) _

theorem tags_alone {ips : List String} (alone : ¬ 1 < ips.length) :
    (itemsOf site user ips).mapIdx tagOf = [Generator.orElse site.remarkBase "node-0"] := by
  obtain ⟨address, only⟩ : ∃ address, ((if ips ≠ [] then ips else [site.panelHost]).take 8) = [address] := by
    match ips with
    | [] => exact ⟨_, rfl⟩
    | [address] => exact ⟨address, rfl⟩
    | _ :: _ :: _ => exact absurd (Nat.lt_add_left _ Nat.one_lt_two) alone
  rw [itemsOf, only, List.mapIdx_singleton, List.mapIdx_singleton, tagOf, if_neg alone]
  rfl

end

/-- What `buildConfigs` makes is loaded exactly where it has several addresses, or where the name of its one item is
none of the built-in tags. -/
theorem singBox_loads_iff {site : Site} {user : User} {configs : Configs} (built : buildConfigs site user = some configs)
    (remoteDns directDns : String) : Loads (singBoxConfig configs.items remoteDns directDns) ↔
      (∃ ips, site.ips user = some ips ∧ 1 < ips.length) ∨ site.remarkBase ∉ RESERVED := by
  obtain ⟨ips, found, made⟩ := Option.bind_eq_some_iff.mp built
  obtain rfl := Option.some.inj made
  rw [loads_iff]
  by_cases several : 1 < ips.length
  · refine iff_of_true ?_ (.inl ⟨ips, found, several⟩)
    change (List.mapIdx tagOf (itemsOf site user ips)).Nodup ∧ ∀ tag ∈ List.mapIdx tagOf (itemsOf site user ips), _
    rw [tags_several several]
    constructor
    · apply List.Nodup.map_on _ List.nodup_range
      intro first _ second _ same
      exact Nat.succ.inj (numbered_inj same)
    · intro tag listed
      obtain ⟨index, -, rfl⟩ := List.mem_map.mp listed
      exact numbered_unreserved _ _
  · have named : Generator.orElse site.remarkBase "node-0" ∉ RESERVED ↔ site.remarkBase ∉ RESERVED := by
      by_cases empty : site.remarkBase = ""
      · rw [empty]
        decide
      · rw [orElse_of_ne empty]
    change (List.mapIdx tagOf (itemsOf site user ips)).Nodup ∧
      (∀ tag ∈ List.mapIdx tagOf (itemsOf site user ips), tag ∉ RESERVED) ↔ _
    rw [tags_alone several, List.forall_mem_singleton, named]
    constructor
    · exact fun loads => .inr loads.2
    · rintro (⟨ips', found', several'⟩ | free)
      · obtain rfl := Option.some.inj (found.symm.trans found')
        exact absurd several' several
      · exact ⟨List.nodup_singleton _, free⟩

/-- One clean address, under the name of the host. -/
theorem singBox_loads_alone : ∃ configs, buildConfigs Generator.Sample.site (Generator.Sample.user ["104.16.0.0"]) =
    some configs ∧ Loads (singBoxConfig configs.items "https://8.8.8.8/dns-query" "https://cloudflare-dns.com/dns-query") := by
  obtain ⟨configs, built⟩ : ∃ configs,
      buildConfigs Generator.Sample.site (Generator.Sample.user ["104.16.0.0"]) = some configs := ⟨_, rfl⟩
  exact ⟨configs, built, (singBox_loads_iff built _ _).mpr (.inr (by decide))⟩

/-- A panel whose item is named as the test is -/
def Sample.site : Site :=
  { Generator.Sample.site with setting := fun key => if key = "remark_prefix" then some "auto" else none }

/-- With one address there are two outbounds of that name, and the test contains itself. -/
theorem reserved_remark_breaks : ∃ configs, buildConfigs Sample.site (Generator.Sample.user ["104.16.0.0"]) = some configs ∧
    ¬ Loads (singBoxConfig configs.items "https://8.8.8.8/dns-query" "https://cloudflare-dns.com/dns-query") := by
  refine ⟨_, rfl, fun loads => ?_⟩
  have named : (itemsOf Sample.site (Generator.Sample.user ["104.16.0.0"]) ["104.16.0.0"]).mapIdx tagOf = ["auto"] := by
    rw [tags_alone (by decide)]
    decide
  have free := ((loads_iff _ _ _).mp loads).2 "auto"
  refine free ?_ (by decide)
  exact named ▸ List.mem_singleton.mpr rfl

end OmniControlPlane.Panel.SingBox
