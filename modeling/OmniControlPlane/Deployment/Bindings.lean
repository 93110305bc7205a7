import OmniControlPlane.Deployment.Panels
import OmniControlPlane.Lib.JavaScript

/-! # The repair of bindings

After an upload the settings of the script are read back. Where a namespace of the panel is missing the bindings are
patched: those that are kept and those that were missing take the place of all that were there.
-/

namespace OmniControlPlane.Deployment.Panels

open Lib.JavaScript

/-! ## The patch -/

/-- `b?.[key]` -/
def property (key : String) : Js → Option Js
  | .object fields => Fields.get fields key
  | _ => none

/-- `b?.type === "kv_namespace"` -/
def isNamespace (b : Js) : Bool :=
  match property "type" b with
  | some (.string type) => type = "kv_namespace"
  | _ => false

/-- `b?.name === name` -/
def hasName (name : String) (b : Js) : Bool :=
  match property "name" b with
  | some (.string own) => own = name
  | _ => false

/-- `names.includes(b?.name ?? "")` -/
def nameIn (names : List String) (b : Js) : Bool :=
  match property "name" b with
  | some (.string own) => names.contains own
  | none | some .null => names.contains ""
  | some _ => false

def namespaceBinding (kvId name : String) : Js :=
  .object [("type", .string "kv_namespace"), ("name", .string name), ("namespace_id", .string kvId)]

def missingNames (names : List String) (current : List Js) : List String :=
  names.filter fun name => !current.any fun b => isNamespace b && hasName name b

def keptBindings (names : List String) (current : List Js) : List Js :=
  current.filter fun b => !(isNamespace b && nameIn names b)

/-- What `repairKvBindings` sends. The settings are `none` where they cannot be read. -/
def patchedBindings (names : List String) (kvId : String) (settings : Option (Option (List Js))) : Option (List Js) :=
  match settings with
  | none => none
  | some bindings =>
    let current := bindings.getD []
    if missingNames names current = [] then none
    else some (keptBindings names current ++ (missingNames names current).map (namespaceBinding kvId))

/-! ## What is lost -/

/-- What was reported stays, each name is there once, and nothing is sent where nothing is missing. -/
structure OnlyAdds (names : List String) (settings : Option (Option (List Js))) (patch : Option (List Js)) : Prop where
  kept : ∀ sent bindings, patch = some sent → settings = some bindings → ∀ b ∈ bindings.getD [], b ∈ sent
  complete : ∀ sent, patch = some sent → ∀ name ∈ names, (sent.filter fun b => isNamespace b && hasName name b).length = 1
  silent : ∀ bindings, settings = some bindings → missingNames names (bindings.getD []) = [] → patch = none

/-- Every name is there, or none is and no name is listed twice. -/
def AllOrNone (names : List String) (current : List Js) : Prop :=
  (∀ name ∈ names, ∃ b ∈ current, isNamespace b = true ∧ hasName name b = true) ∨
    (∀ b ∈ current, isNamespace b = true → nameIn names b = false) ∧ names.Nodup

section

variable {names : List String} {current : List Js} {kvId name : String} {b : Js}

theorem isNamespace_namespaceBinding (kvId name : String) : isNamespace (namespaceBinding kvId name) = true := by
  simp [isNamespace, property, namespaceBinding, Fields.get]

theorem hasName_namespaceBinding (kvId name other : String) :
    hasName other (namespaceBinding kvId name) = decide (name = other) := by
  simp [hasName, property, namespaceBinding, Fields.get, List.lookup_cons]

/-- The two filters meet where a binding has a name. -/
theorem nameIn_of_hasName (has : hasName name b = true) : nameIn names b = names.contains name := by
  unfold hasName at has
  unfold nameIn
  split at has
  · next own found => simp [found, of_decide_eq_true has]
  · contradiction

theorem mem_missingNames : name ∈ missingNames names current ↔
    name ∈ names ∧ ∀ b ∈ current, isNamespace b = true → hasName name b = false := by
  simp [missingNames]

theorem missingNames_eq_nil : missingNames names current = [] ↔
    ∀ name ∈ names, ∃ b ∈ current, isNamespace b = true ∧ hasName name b = true := by
  simp [missingNames, List.filter_eq_nil_iff]

/-- Without a namespace of the panel nothing is dropped, and every name is missing. -/
theorem of_none_named (foreign : ∀ b ∈ current, isNamespace b = true → nameIn names b = false) :
    keptBindings names current = current ∧ missingNames names current = names := by
  constructor
  · rw [keptBindings, List.filter_eq_self]
    intro b member
    cases kind : isNamespace b with
    | false => rfl
    | true => simp [foreign b member kind]
  · rw [missingNames, List.filter_eq_self]
    intro name listed
    rw [Bool.not_eq_true', List.any_eq_false]
    intro b member
    rw [Bool.and_eq_true, not_and]
    intro kind has
    have inside := foreign b member kind
    rw [nameIn_of_hasName has] at inside
    exact absurd listed (by simpa using inside)

theorem filter_added (names : List String) (name : String) :
    ((names.map (namespaceBinding kvId)).filter fun b => isNamespace b && hasName name b).length = names.count name := by
  rw [List.filter_map, List.length_map, List.count_eq_length_filter]
  refine congrArg List.length (List.filter_congr fun other _ => ?_)
  simp [isNamespace_namespaceBinding, hasName_namespaceBinding, beq_eq_decide]

theorem onlyAdds_of_nothing {settings : Option (Option (List Js))} : OnlyAdds names settings none :=
  ⟨nofun, nofun, fun _ _ _ => rfl⟩

/-- A namespace of the panel that was there is not in a patch. -/
theorem not_mem_patch (member : b ∈ current) (kind : isNamespace b = true) (named : nameIn names b = true) :
    b ∉ keptBindings names current ++ (missingNames names current).map (namespaceBinding kvId) := by
  rw [List.mem_append, not_or]
  constructor
  · intro kept
    have stays := (List.mem_filter.mp kept).2
    rw [kind, named] at stays
    contradiction
  · intro added
    obtain ⟨name, missing, rfl⟩ := List.mem_map.mp added
    have absent := (mem_missingNames.mp missing).2 _ member kind
    rw [hasName_namespaceBinding] at absent
    exact of_decide_eq_false absent rfl

theorem patch_onlyAdds_iff {bindings : Option (List Js)} (some_missing : missingNames names (bindings.getD []) ≠ []) :
    OnlyAdds names (some bindings) (some (keptBindings names (bindings.getD []) ++
      (missingNames names (bindings.getD [])).map (namespaceBinding kvId))) ↔
      (∀ b ∈ bindings.getD [], isNamespace b = true → nameIn names b = false) ∧ names.Nodup := by
  constructor
  · intro adds
    have foreign : ∀ b ∈ bindings.getD [], isNamespace b = true → nameIn names b = false := by
      intro b member kind
      apply Bool.eq_false_iff.mpr
      intro named
      exact not_mem_patch member kind named (adds.kept _ bindings rfl rfl b member)
    refine ⟨foreign, List.nodup_iff_count_le_one.mpr fun name => ?_⟩
    by_cases listed : name ∈ names
    · have once := adds.complete _ rfl name listed
      obtain ⟨kept, missing⟩ := of_none_named foreign
      rw [kept, missing, List.filter_append, List.length_append, filter_added] at once
      omega
    · rw [List.count_eq_zero_of_not_mem listed]
      exact Nat.zero_le 1
  · rintro ⟨foreign, distinct⟩
    obtain ⟨kept, missing⟩ := of_none_named foreign
    rw [kept, missing]
    constructor
    case kept =>
      intro sent bindings' patch settings b member
      obtain rfl := Option.some.inj patch
      obtain rfl := Option.some.inj settings
      exact List.mem_append_left _ member
    case complete =>
      intro sent patch name listed
      obtain rfl := Option.some.inj patch
      have none : (bindings.getD []).filter (fun b => isNamespace b && hasName name b) = [] := by
        rw [List.filter_eq_nil_iff]
        intro b member both
        rw [Bool.and_eq_true] at both
        have inside := foreign b member both.1
        rw [nameIn_of_hasName both.2] at inside
        exact absurd listed (by simpa using inside)
      rw [List.filter_append, none, List.nil_append, filter_added]
      exact List.count_eq_one_of_mem distinct listed
    case silent =>
      intro bindings' settings nothing
      obtain rfl := Option.some.inj settings
      exact absurd nothing some_missing

end

/-- The repair only adds just where all names are there or none is. -/
theorem patchedBindings_onlyAdds_iff (panel : PanelSpec) (kvId : String) (settings : Option (Option (List Js))) :
    OnlyAdds panel.kvNames settings (patchedBindings panel.kvNames kvId settings) ↔
      ∀ bindings, settings = some bindings → AllOrNone panel.kvNames (bindings.getD []) := by
  cases settings with
  | none => exact iff_of_true onlyAdds_of_nothing nofun
  | some bindings =>
    rw [patchedBindings]
    split
    · next nothing =>
      refine iff_of_true onlyAdds_of_nothing fun bindings' settings => ?_
      obtain rfl := Option.some.inj settings
      exact .inl (missingNames_eq_nil.mp nothing)
    · next missing =>
      rw [patch_onlyAdds_iff missing]
      constructor
      · intro foreign bindings' settings
        obtain rfl := Option.some.inj settings
        exact .inr foreign
      · intro held
        exact (held bindings rfl).resolve_left (mt missingNames_eq_nil.mpr missing)

/-! ## The run of a deployment -/

/-- A binding as the settings report it. -/
def reported (binding : Binding) : Js :=
  let key := if binding.type = "kv_namespace" then "namespace_id" else if binding.type = "d1" then "id" else "text"
  .object [("type", .string binding.type), ("name", .string binding.name), (key, .string binding.value)]

section

variable {panel : PanelSpec} {calls : Calls} {kvId : String} {current bindings : List Binding}

theorem reported_filters (binding : Binding) (name : String) (names : List String) :
    isNamespace (reported binding) = decide (binding.type = "kv_namespace") ∧
      hasName name (reported binding) = decide (binding.name = name) ∧
      nameIn names (reported binding) = names.contains binding.name := by
  simp [isNamespace, hasName, nameIn, property, reported, Fields.get, List.lookup_cons]

theorem missingNames_reported : missingNames panel.kvNames (current.map reported) =
    panel.kvNames.filter fun name => !current.any fun b => b.type = "kv_namespace" && b.name = name := by
  apply List.filter_congr
  intro name _
  rw [List.any_map]
  refine congrArg (!·) (congrArg current.any (funext fun b => ?_))
  obtain ⟨kind, has, -⟩ := reported_filters b name []
  rw [Function.comp_apply, kind, has]

theorem keptBindings_reported : keptBindings panel.kvNames (current.map reported) =
    (current.filter fun b => !(b.type = "kv_namespace" && panel.kvNames.contains b.name)).map reported := by
  rw [keptBindings, List.filter_map]
  refine congrArg (List.map reported) (List.filter_congr fun b _ => ?_)
  obtain ⟨kind, -, named⟩ := reported_filters b "" panel.kvNames
  rw [Function.comp_apply, kind, named]

/-- A deployment goes on with what was sent, where the patch succeeds. -/
theorem repairKvBindings_eq (read : calls.settings = some current) :
    match patchedBindings panel.kvNames kvId (some (some (current.map reported))) with
    | none => repairKvBindings panel calls kvId bindings = bindings
    | some sent => if calls.repair then (repairKvBindings panel calls kvId bindings).map reported = sent
        else repairKvBindings panel calls kvId bindings = bindings := by
  have added (names : List String) : (names.map fun name => (⟨"kv_namespace", name, kvId⟩ : Binding)).map reported =
      names.map (namespaceBinding kvId) := by
    rw [List.map_map]
    exact List.map_congr_left fun name _ => rfl
  simp only [patchedBindings, repairKvBindings, read, Option.getD_some, missingNames_reported, keptBindings_reported]
  generalize (panel.kvNames.filter _) = missing
  cases missing with
  | nil => simp
  | cons name missing =>
    cases calls.repair with
    | true => simp only [reduceCtorEq, ↓reduceIte, Bool.true_eq_false, or_self, List.map_append, added]
    | false => simp

/-- Where the upload has kept its bindings nothing is patched. -/
theorem patchedBindings_panelBindings (platform : Platform) (input : PanelDeployInput) (accountId token : String)
    {namespaceId d1Id : Option String} (there : truthy namespaceId = true) :
    patchedBindings panel.kvNames (namespaceId.getD "") (some (some
      ((panelBindings platform panel input accountId token namespaceId d1Id).map reported))) = none := by
  rw [patchedBindings, Option.getD_some, if_pos]
  apply missingNames_eq_nil.mpr
  intro name listed
  refine ⟨reported ⟨"kv_namespace", name, namespaceId.getD ""⟩, List.mem_map_of_mem ?_, by rfl, ?_⟩
  · simp only [panelBindings, there, ↓reduceIte, List.mem_append, List.mem_map]
    exact .inl (.inl (.inl ⟨name, listed, rfl⟩))
  · rw [(reported_filters _ name []).2.1, decide_eq_true rfl]

/-- A deployment whose bindings are reported as they were sent goes on with them. -/
theorem repairKvBindings_sent (platform : Platform) (input : PanelDeployInput) (accountId token : String)
    {namespaceId d1Id : Option String} (there : truthy namespaceId = true)
    (read : calls.settings = some (panelBindings platform panel input accountId token namespaceId d1Id)) :
    repairKvBindings panel calls (namespaceId.getD "") bindings = bindings := by
  have repaired := @repairKvBindings_eq panel calls (namespaceId.getD "") _ bindings read
  rw [patchedBindings_panelBindings platform input accountId token there] at repaired
  exact repaired

end

/-- A namespace that is still there is lost where another one is put back. -/
theorem namespace_lost :
    let panel : PanelSpec :=
      { key := "nova", name := "🌌 Nova", path := "/sub", db := .kv,
        sourceUrl := "https://raw.githubusercontent.com/cmliu/edgetunnel/main/_worker.js", kvNames := ["KV", "kv"],
        d1Names := [] }
    let bindings : List Js := [namespaceBinding "1" "KV"]
    ∃ sent, patchedBindings panel.kvNames "1" (some (some bindings)) = some sent ∧ sent = [namespaceBinding "1" "kv"] ∧
      ¬ OnlyAdds panel.kvNames (some (some bindings)) (some sent) := by
  intro panel bindings
  refine ⟨_, rfl, rfl, fun adds => ?_⟩
  have stays := adds.kept _ _ rfl rfl (namespaceBinding "1" "KV") List.mem_cons_self
  exact not_mem_patch List.mem_cons_self (isNamespace_namespaceBinding "1" "KV") (by decide) stays

end OmniControlPlane.Deployment.Panels
