import OmniControlPlane.DataPlane.Profiles
import OmniControlPlane.Lib.Base64

/-! # The data plane

The program that `DATA_PLANE_SOURCE` holds, and what it answers to a subscription request. The program is
text inside a raw template: its literals are those of the template, and the escapes in them are undone when
the program is evaluated.
-/

namespace OmniControlPlane.DataPlane

open Lib

/-! ## The literals of the program -/

def backslash : Char := Char.ofNat 92

/-- A one-letter escape of a string literal; other characters stand for themselves. -/
def unescape (char : Char) : Char :=
  if char = 'n' then '\n' else if char = 't' then '\t' else if char = 'r' then '\r'
  else if char = 'b' then Char.ofNat 8 else if char = 'f' then Char.ofNat 12 else if char = 'v' then Char.ofNat 11
  else char

/-- The value of a string literal, from what stands between its quotes. -/
def literal : List Char → List Char
  | [] => []
  | first :: rest =>
    if first = backslash then
      match rest with
      | [] => []
      | char :: rest => unescape char :: literal rest
    else first :: literal rest

/-- `"\n"`, after the URIs -/
def newline : List Char := literal [backslash, 'n']

/-- `"\\n"`, after a sing-box profile -/
def profileEnd : List Char := literal [backslash, backslash, 'n']

/-! ## Values -/

inductive Thrown where
  | typeError
  | uriError
deriving DecidableEq, Repr

/-- A value that the program computes with; of functions, only that they are there matters. -/
inductive Js where
  | undefined
  | value (value : Json)
  | function

/-- The methods that every object has from `Object.prototype`. -/
def objectMethods : List String :=
  ["constructor", "__defineGetter__", "__defineSetter__", "hasOwnProperty", "__lookupGetter__", "__lookupSetter__",
    "isPrototypeOf", "propertyIsEnumerable", "toString", "valueOf", "toLocaleString"]

/-- The names that an object has without having a property of that name; `__proto__` is `Object.prototype`,
which has no property that could be enumerated. -/
def inherited (key : String) : Js :=
  if key ∈ objectMethods then .function else if key = "__proto__" then .value (.object []) else .undefined

namespace Js

/-- `value[key]`. A bundle is an object, and so are the values that are indexed in it. -/
def member (key : String) : Js → Except Thrown Js
  | undefined | value .null => .error .typeError
  | value (.object fields) => .ok ((fields.lookup key).elim (inherited key) value)
  | _ => .ok undefined

def truthy : Js → Bool
  | undefined | value .null => false
  | value (.bool flag) => flag
  | value (.number number) => number ≠ 0
  | value (.decimal text) => (text.takeWhile fun char => char.toLower ≠ 'e').any fun char => '1' ≤ char ∧ char ≤ '9'
  | value (.string text) => text ≠ ""
  | _ => true

/-- `left || right` -/
def orElse (left right : Js) : Js := if left.truthy then left else right

/-- An item of an array that is joined; the URIs are strings. -/
def itemText : Json → List Char
  | .null => []
  | .string text => text.toList
  | item => Json.write Json.compact 0 item

/-- `value.join(separator)` -/
def join (separator : List Char) : Js → Except Thrown (List Char)
  | value (.array items) => .ok (List.intercalate separator (items.map itemText))
  | _ => .error .typeError

/-- The text of `JSON.stringify(value, null, 2)`; what is not written is `undefined`, also in text. -/
def stringify : Js → List Char
  | value json => Json.write Json.indented 0 json
  | _ => "undefined".toList

/-- `new Response(value)` -/
def text : Js → List Char
  | undefined => []
  | value json => itemText json
  | function => "function".toList

end Js

/-- `value || fallback` of a parameter -/
def orDefault (value : Option String) (fallback : String) : String :=
  match value with
  | some text => if text = "" then fallback else text
  | none => fallback

/-! ## The program -/

structure Request where
  method : String
  pathname : String
  searchParams : List (String × String)

structure Response where
  status : ℕ
  headers : List (String × String)
  body : List Char

structure Env where
  SUB_TOKEN_HASH : String
  CONFIG_BUNDLE : List Char

def headers (contentType : String) : List (String × String) := [
  ("Content-Type", contentType),
  ("Cache-Control", "no-store"),
  ("Content-Security-Policy", "default-src 'none'; frame-ancestors 'none'; base-uri 'none'"),
  ("Cross-Origin-Resource-Policy", "same-origin"),
  ("Referrer-Policy", "no-referrer"),
  ("Strict-Transport-Security", "max-age=63072000; includeSubDomains; preload"),
  ("X-Content-Type-Options", "nosniff"),
  ("X-Frame-Options", "DENY")]

def textResponse (status : ℕ) (body : List Char) : Response := ⟨status, headers "text/plain; charset=utf-8", body⟩

def jsonResponse (status : ℕ) (json : Json) : Response :=
  ⟨status, headers "application/json; charset=utf-8", Json.write Json.compact 0 json⟩

def isTokenChar (char : Char) : Bool := isAlphanumeric char || char = '_' || char = '-'

/-- `/^\/sub\/([A-Za-z0-9_-]{43,128})$/u` -/
def subscriptionPath (pathname : String) : Option String :=
  let rest := pathname.toList.drop 5
  if pathname.toList.take 5 = "/sub/".toList ∧ 43 ≤ rest.length ∧ rest.length ≤ 128 ∧ rest.all isTokenChar then
    some (String.ofList rest)
  else none

/-- The bytes are compared without stopping at the first that differs. -/
def equalHash (left right : String) : Bool :=
  let a := utf8 left
  let b := utf8 right
  if a.length ≠ b.length then false
  else (a.zip b).foldl (fun mismatch pair => mismatch ||| (pair.1 ^^^ pair.2)) 0 = 0

/-- The branch of the format `sing-box`. -/
def singBox (bundle : Js) (request : Request) : Except Thrown Response := do
  let some profile := percentDecode (orDefault (request.searchParams.lookup "profile") "vless").toList
    | .error .uriError
  let variants := Js.orElse (← bundle.member "profileVariants") (.value (.object []))
  let source := Js.orElse (← (← bundle.member "profiles").member profile) (← variants.member profile)
  if source.truthy = false then
    .ok (jsonResponse 400 (.object [("error", .string "invalid_profile")]))
  else
    .ok ⟨200, headers "application/json; charset=utf-8", source.stringify ++ profileEnd⟩

/-- What a bundle that is there is answered with. -/
def subscription (bundle : Js) (request : Request) : Except Thrown Response := do
  let format := orDefault (request.searchParams.lookup "format") "uri"
  if format = "uri" then
    let uris ← (← bundle.member "uris").join newline
    .ok (textResponse 200 (uris ++ newline))
  else if format = "clash" then
    let clashYaml ← bundle.member "clashYaml"
    if clashYaml.truthy = false then .ok (jsonResponse 400 (.object [("error", .string "invalid_format")]))
    else .ok ⟨200, headers "text/yaml; charset=utf-8", clashYaml.text⟩
  else if format = "sing-box" then singBox bundle request
  else .ok (jsonResponse 400 (.object [("error", .string "invalid_format")]))

section

variable (sha256 : String → List UInt8)

/-- The digest of a text, as the program writes it. -/
def hash (text : String) : String := String.ofList (base64Url (sha256 text))

/-- The handler; what it hands over to `handleDoh` is a parameter. -/
def fetch (handleDoh : Request → Except Thrown Response) (env : Env) (request : Request) : Except Thrown Response :=
  if request.pathname = "/dns-query" then handleDoh request
  else if request.method ≠ "GET" then
    .ok (jsonResponse 405 (.object [("error", .string "method_not_allowed")]))
  else if request.pathname = "/healthz" then
    .ok (jsonResponse 200 (.object [("ok", .bool true), ("service", .string "v13-data-plane")]))
  else
    match subscriptionPath request.pathname with
    | none => .ok (textResponse 404 "Not found".toList)
    | some token =>
      if equalHash (hash sha256 token) env.SUB_TOKEN_HASH = false then .ok (textResponse 404 "Not found".toList)
      else
        match Json.parse env.CONFIG_BUNDLE with
        | none => .ok (textResponse 503 "Configuration unavailable".toList)
        | some bundle => do
          match ← (Js.value bundle).member "status" with
          | .value (.string "ready") => subscription (.value bundle) request
          | _ => .ok (textResponse 503 "Provisioning is still in progress".toList)

/-- The variables of the Worker of a deployment. -/
def workerEnv (subscriptionToken : String) (bundle : DataPlaneBundle) : Env where
  SUB_TOKEN_HASH := hash sha256 subscriptionToken
  CONFIG_BUNDLE := Json.write Json.compact 0 bundle.json

end

/-! ## What is asked of it -/

/-- A subscription request with the right token. -/
structure Subscription (sha256 : String → List UInt8) (subscriptionToken : String) where
  request : Request
  method : request.method = "GET"
  token : String
  path : subscriptionPath request.pathname = some token
  right : hash sha256 token = hash sha256 subscriptionToken

/-- An answer that says that the format or the profile is none. -/
def Refused (answer : Except Thrown Response) : Prop := ∃ response, answer = .ok response ∧ response.status = 400

def Answered (answer : Except Thrown Response) (body : List Char) : Prop :=
  ∃ response, answer = .ok response ∧ response.status = 200 ∧ response.body = body

/-- The profile of a name: its value if it is a key of `profiles` or `profileVariants`. -/
def DataPlaneBundle.profile? (bundle : DataPlaneBundle) (name : String) : Option Json :=
  (bundle.profiles.lookup name).or (bundle.profileVariants.lookup name)

/-- The answer is the part of the bundle that was asked for; an empty parameter is none. -/
def Serves (bundle : DataPlaneBundle) (request : Request) (answer : Except Thrown Response) : Prop :=
  match orDefault (request.searchParams.lookup "format") "uri" with
  | "uri" => Answered answer (bundle.uris.flatMap fun uri => uri.toList ++ ['\n'])
  | "clash" => ∃ yaml, bundle.clashYaml = some yaml ∧ Answered answer yaml.toList
  | "sing-box" =>
    match bundle.profile? (orDefault (request.searchParams.lookup "profile") "vless") with
    | some profile => ∃ response, answer = .ok response ∧ response.status = 200 ∧ Json.parse response.body = some profile
    | none => Refused answer
  | _ => Refused answer

/-- Another format than `sing-box` is asked for; or a profile whose name can be decoded once more, to a name that
no object has. -/
def ServedFor (bundle : DataPlaneBundle) (request : Request) : Prop :=
  orDefault (request.searchParams.lookup "format") "uri" = "sing-box" →
    ∃ name, percentDecode (orDefault (request.searchParams.lookup "profile") "vless").toList = some name ∧
      bundle.profile? name = none ∧ name ∉ objectMethods ∧ name ≠ "__proto__"

/-! ## The bundle -/

section

variable {deployment : DeploymentRow} {secrets : SecretBundle} {options : ProfileOptions} {now : String}
  {bundle : DataPlaneBundle}

theorem plain_baseClientConfig (outbound : Json) (plain : outbound.Plain) (sniff fakedns : Bool) :
    (baseClientConfig deployment outbound options sniff fakedns).Plain := by
  cases fakedns <;>
    simp [baseClientConfig, DnsSection.json, dnsSection, routeSection, Json.Plain, Json.PlainItems, Json.PlainFields, plain]

/-- What a ready bundle is made of. -/
theorem buildReadyBundle_eq (built : buildReadyBundle deployment secrets options now = some bundle) :
    ∃ credentials, secrets.complete = some credentials ∧
      bundle = readyBundle deployment secrets credentials options now := by
  obtain ⟨credentials, complete, equal⟩ := Option.bind_eq_some_iff.mp built
  exact ⟨credentials, complete, (Option.some.inj equal).symm⟩

theorem plain_vlessOutbound (credentials : Credentials) : (vlessOutbound deployment credentials).Plain := by
  simp [vlessOutbound, Json.Plain, Json.PlainFields]

theorem plain_hysteria2Outbound (credentials : Credentials) : (hysteria2Outbound deployment credentials).Plain := by
  simp [hysteria2Outbound, Json.Plain, Json.PlainFields, Json.PlainItems]

theorem plain_json (built : buildReadyBundle deployment secrets options now = some bundle) : bundle.json.Plain := by
  obtain ⟨credentials, -, rfl⟩ := buildReadyBundle_eq built
  have profile (outbound : Json) (plain : outbound.Plain) (sniff fakedns : Bool) :=
    @plain_baseClientConfig deployment options outbound plain sniff fakedns
  simp [DataPlaneBundle.json, readyBundle, Json.Plain, Json.PlainFields, Json.PlainItems, profile,
    plain_vlessOutbound, plain_hysteria2Outbound]

/-- The names of the profiles. -/
def profileNames : List String :=
  ["vless", "hysteria2", "vless · sniff خاموش", "vless · fakedns روشن", "hysteria2 · sniff خاموش", "hysteria2 · fakedns روشن"]

/-- A profile has one of the names, and is an object that can be read back. -/
theorem profile?_cases (built : buildReadyBundle deployment secrets options now = some bundle) {name : String}
    {profile : Json} (found : bundle.profile? name = some profile) :
    name ∈ profileNames ∧ profile.Plain ∧ ∃ fields, profile = .object fields := by
  obtain ⟨credentials, -, rfl⟩ := buildReadyBundle_eq built
  have listed : (name, profile) ∈ (readyBundle deployment secrets credentials options now).profiles ++
      (readyBundle deployment secrets credentials options now).profileVariants := by
    rw [List.mem_append]
    rcases Option.or_eq_some_iff.mp found with first | ⟨-, second⟩
    · obtain ⟨before, after, split, -⟩ := List.lookup_eq_some_iff.mp first
      exact .inl (split ▸ List.mem_append_right _ List.mem_cons_self)
    · obtain ⟨before, after, split, -⟩ := List.lookup_eq_some_iff.mp second
      exact .inr (split ▸ List.mem_append_right _ List.mem_cons_self)
  have vless := @plain_vlessOutbound deployment credentials
  have hysteria2 := @plain_hysteria2Outbound deployment credentials
  simp only [readyBundle, List.flatMap_cons, List.flatMap_nil, List.append_nil, List.cons_append, List.nil_append,
    List.mem_cons, List.not_mem_nil, or_false, Prod.mk.injEq] at listed
  rcases listed with ⟨rfl, rfl⟩ | ⟨rfl, rfl⟩ | ⟨rfl, rfl⟩ | ⟨rfl, rfl⟩ | ⟨rfl, rfl⟩ | ⟨rfl, rfl⟩
  · exact ⟨by decide, plain_baseClientConfig _ vless .., _, rfl⟩
  · exact ⟨by decide, plain_baseClientConfig _ hysteria2 .., _, rfl⟩
  · exact ⟨by decide, plain_baseClientConfig _ vless .., _, rfl⟩
  · exact ⟨by decide, plain_baseClientConfig _ vless .., _, rfl⟩
  · exact ⟨by decide, plain_baseClientConfig _ hysteria2 .., _, rfl⟩
  · exact ⟨by decide, plain_baseClientConfig _ hysteria2 .., _, rfl⟩

/-- A profile's name is decoded to itself, and no object has it from elsewhere. -/
theorem profileNames_plain : ∀ name ∈ profileNames, '%' ∉ name.toList ∧ name ∉ objectMethods ∧ name ≠ "__proto__" := by
  decide

theorem percentDecode_profileName {name : String} (listed : name ∈ profileNames) :
    percentDecode name.toList = some name := by
  rw [percentDecode_plain (profileNames_plain name listed).1, String.ofList_toList]

theorem inherited_eq_undefined {name : String} (noMethod : name ∉ objectMethods) (noPrototype : name ≠ "__proto__") :
    inherited name = .undefined := by
  rw [inherited, if_neg noMethod, if_neg noPrototype]

theorem inherited_truthy {name : String} (method : name ∈ objectMethods ∨ name = "__proto__") :
    (inherited name).truthy = true := by
  unfold inherited
  split
  · rfl
  · next noMethod =>
    rw [if_pos (method.resolve_left noMethod)]
    rfl

/-- What the program finds under a name, in the profiles or the variants. -/
def DataPlaneBundle.source (bundle : DataPlaneBundle) (name : String) : Js :=
  .orElse ((bundle.profiles.lookup name).elim (inherited name) .value)
    ((bundle.profileVariants.lookup name).elim (inherited name) .value)

theorem source_profile (built : buildReadyBundle deployment secrets options now = some bundle) {name : String}
    {profile : Json} (found : bundle.profile? name = some profile) : bundle.source name = .value profile := by
  obtain ⟨listed, -, fields, rfl⟩ := profile?_cases built found
  obtain ⟨-, noMethod, noPrototype⟩ := profileNames_plain name listed
  unfold DataPlaneBundle.source
  rcases Option.or_eq_some_iff.mp found with first | ⟨absent, second⟩
  · rw [first]
    rfl
  · rw [absent, second, Option.elim_none, inherited_eq_undefined noMethod noPrototype]
    rfl

theorem source_inherited {name : String} (absent : bundle.profile? name = none) :
    bundle.source name = inherited name := by
  obtain ⟨first, second⟩ := Option.or_eq_none_iff.mp absent
  rw [DataPlaneBundle.source, first, second, Option.elim_none, Js.orElse, ite_self]

end

/-! ## The answers -/

section

variable {sha256 : String → List UInt8} {handleDoh : Request → Except Thrown Response} {subscriptionToken : String}
  {deployment : DeploymentRow} {secrets : SecretBundle} {options : ProfileOptions} {now : String}
  {bundle : DataPlaneBundle}

theorem equalHash_self (text : String) : equalHash text text = true := by
  have same (bytes : List UInt8) :
      (bytes.zip bytes).foldl (fun mismatch pair => mismatch ||| (pair.1 ^^^ pair.2)) 0 = 0 := by
    induction bytes with
    | nil => rfl
    | cons byte rest ih => simpa using ih
  simp [equalHash, same]

/-- A subscription request gets as far as the bundle. -/
theorem fetch_subscription (built : buildReadyBundle deployment secrets options now = some bundle)
    (asked : Subscription sha256 subscriptionToken) :
    fetch sha256 handleDoh (workerEnv sha256 subscriptionToken bundle) asked.request =
      subscription (.value bundle.json) asked.request := by
  have ready : bundle.status = "ready" := by
    obtain ⟨credentials, -, rfl⟩ := buildReadyBundle_eq built
    rfl
  have elsewhere (pathname : String) (other : subscriptionPath pathname = none) : asked.request.pathname ≠ pathname := by
    rintro rfl
    exact Option.some_ne_none _ (asked.path.symm.trans other)
  have status : (Js.value bundle.json).member "status" = .ok (.value (.string bundle.status)) := rfl
  unfold fetch
  rw [if_neg (elsewhere _ (by decide)), if_neg (not_not.mpr asked.method), if_neg (elsewhere _ (by decide)), asked.path]
  simp only [workerEnv, asked.right, equalHash_self, Bool.true_eq_false, if_false, Json.parse_write (plain_json built),
    status, ready]
  rfl

theorem intercalate_append_self {separator : List Char} {items : List (List Char)} (some : items ≠ []) :
    List.intercalate separator items ++ separator = items.flatMap (· ++ separator) := by
  induction items with
  | nil => contradiction
  | cons item rest ih =>
    cases rest with
    | nil => simp
    | cons next rest =>
      rw [List.flatMap_cons, ← ih (List.cons_ne_nil _ _), List.intercalate_cons_cons]
      simp

theorem subscription_uri (built : buildReadyBundle deployment secrets options now = some bundle) (request : Request)
    (format : orDefault (request.searchParams.lookup "format") "uri" = "uri") :
    Answered (subscription (.value bundle.json) request) (bundle.uris.flatMap fun uri => uri.toList ++ ['\n']) := by
  have uris : (Js.value bundle.json).member "uris" = .ok (.value (.array (bundle.uris.map .string))) := rfl
  have lines : ((bundle.uris.map Json.string).map Js.itemText) = bundle.uris.map String.toList := by
    rw [List.map_map]
    rfl
  have some : bundle.uris.map String.toList ≠ [] := by
    obtain ⟨credentials, -, rfl⟩ := buildReadyBundle_eq built
    exact List.cons_ne_nil _ _
  refine ⟨textResponse 200 (bundle.uris.flatMap fun uri => uri.toList ++ ['\n']), ?_, rfl, rfl⟩
  have joined := @intercalate_append_self newline _ some
  rw [List.flatMap_map] at joined
  simp only [subscription, format, if_true, uris, bind, Except.bind, Js.join, lines, joined]
  rfl

theorem clashYaml_written (built : buildReadyBundle deployment secrets options now = some bundle) :
    ∃ yaml, bundle.clashYaml = some yaml ∧ yaml ≠ "" := by
  obtain ⟨credentials, -, rfl⟩ := buildReadyBundle_eq built
  refine ⟨_, rfl, fun empty => ?_⟩
  rw [String.ofList_eq_empty_iff] at empty
  exact absurd empty (List.append_ne_nil_of_right_ne_nil _ (List.cons_ne_nil _ _))

theorem subscription_clash (built : buildReadyBundle deployment secrets options now = some bundle) (request : Request)
    (format : orDefault (request.searchParams.lookup "format") "uri" = "clash") :
    ∃ yaml, bundle.clashYaml = some yaml ∧ Answered (subscription (.value bundle.json) request) yaml.toList := by
  obtain ⟨yaml, there, written⟩ := clashYaml_written built
  have clashYaml : (Js.value bundle.json).member "clashYaml" = .ok (.value (bundle.clashYaml.elim .null .string)) := rfl
  refine ⟨yaml, there, ⟨200, headers "text/yaml; charset=utf-8", yaml.toList⟩, ?_, rfl, rfl⟩
  have truthy : (Js.value (.string yaml)).truthy = true := decide_eq_true written
  rw [there] at clashYaml
  unfold subscription
  simp only [format]
  rw [if_neg (by decide), if_pos trivial, clashYaml]
  exact if_neg fun falsy => Bool.false_ne_true (falsy.symm.trans truthy)

theorem singBox_eq (request : Request) : singBox (.value bundle.json) request =
    match percentDecode (orDefault (request.searchParams.lookup "profile") "vless").toList with
    | none => .error .uriError
    | some name =>
      if (bundle.source name).truthy = false then .ok (jsonResponse 400 (.object [("error", .string "invalid_profile")]))
      else .ok ⟨200, headers "application/json; charset=utf-8", (bundle.source name).stringify ++ profileEnd⟩ := by
  unfold singBox
  cases percentDecode (orDefault (request.searchParams.lookup "profile") "vless").toList <;> rfl

/-- The two characters after a profile are no white space, so that the answer is no JSON text. -/
theorem parse_profile (built : buildReadyBundle deployment secrets options now = some bundle) {name : String}
    {profile : Json} (found : bundle.profile? name = some profile) :
    Json.parse ((Js.value profile).stringify ++ profileEnd) = none := by
  have plain := (profile?_cases built found).2.1
  have stops : Json.Stops profileEnd := by
    intro char head
    rw [← Option.some.inj head]
    decide
  rw [Js.stringify, Json.parse_write_append plain stops, if_neg (by decide)]

/-- A profile is served exactly when it is none, and no object has it. -/
theorem singBox_iff (built : buildReadyBundle deployment secrets options now = some bundle) (request : Request)
    (format : orDefault (request.searchParams.lookup "format") "uri" = "sing-box") :
    Serves bundle request (singBox (.value bundle.json) request) ↔ ServedFor bundle request := by
  rw [singBox_eq]
  unfold Serves ServedFor
  rw [format]
  generalize orDefault (request.searchParams.lookup "profile") "vless" = asked
  have itself {profile : Json} (found : bundle.profile? asked = some profile) :
      percentDecode asked.toList = some asked := percentDecode_profileName (profile?_cases built found).1
  simp only [true_implies]
  cases decoded : percentDecode asked.toList with
  | none =>
    cases found : bundle.profile? asked with
    | none => exact iff_of_false (fun ⟨_, thrown, _⟩ => by contradiction) (fun ⟨_, read, _⟩ => by contradiction)
    | some profile => exact absurd ((itself found).symm.trans decoded) nofun
  | some name =>
    simp only [Option.some.injEq, exists_eq_left']
    cases found : bundle.profile? name with
    | some profile =>
      have truthy : (bundle.source name).truthy = true := by
        obtain ⟨-, -, fields, rfl⟩ := profile?_cases built found
        rw [source_profile built found]
        rfl
      rw [if_neg fun falsy => Bool.false_ne_true (falsy.symm.trans truthy), source_profile built found]
      refine iff_of_false ?_ fun ⟨absent, _⟩ => nomatch absent
      cases own : bundle.profile? asked with
      | none =>
        rintro ⟨response, answered, refused⟩
        rw [← Except.ok.inj answered] at refused
        exact absurd refused (by decide : (200 : ℕ) ≠ 400)
      | some other =>
        rintro ⟨response, answered, -, read⟩
        rw [← Except.ok.inj answered, parse_profile built found] at read
        contradiction
    | none =>
      have foreign : bundle.profile? asked = none := by
        by_contra present
        obtain ⟨profile, own⟩ := Option.ne_none_iff_exists'.mp present
        obtain rfl := Option.some.inj ((itself own).symm.trans decoded)
        exact present found
      rw [foreign, source_inherited found]
      by_cases object : name ∈ objectMethods ∨ name = "__proto__"
      · rw [if_neg fun falsy => Bool.false_ne_true (falsy.symm.trans (inherited_truthy object))]
        refine iff_of_false ?_ (by tauto)
        rintro ⟨response, answered, refused⟩
        rw [← Except.ok.inj answered] at refused
        exact absurd refused (by decide : (200 : ℕ) ≠ 400)
      · obtain ⟨noMethod, noPrototype⟩ := not_or.mp object
        have missing : Js.undefined.truthy = false := rfl
        rw [inherited_eq_undefined noMethod noPrototype, if_pos missing]
        exact iff_of_true ⟨_, rfl, rfl⟩ ⟨rfl, noMethod, noPrototype⟩

theorem fetch_singBox_iff (built : buildReadyBundle deployment secrets options now = some bundle)
    (asked : Subscription sha256 subscriptionToken)
    (format : orDefault (asked.request.searchParams.lookup "format") "uri" = "sing-box") :
    Serves bundle asked.request (fetch sha256 handleDoh (workerEnv sha256 subscriptionToken bundle) asked.request) ↔
      ServedFor bundle asked.request := by
  rw [fetch_subscription built asked, subscription, if_neg (by rw [format]; decide), if_neg (by rw [format]; decide),
    if_pos format]
  exact singBox_iff built asked.request format

/-- A subscription request is answered with the part of the bundle that it asks for exactly under this condition. -/
theorem serves_iff (built : buildReadyBundle deployment secrets options now = some bundle)
    (asked : Subscription sha256 subscriptionToken) :
    Serves bundle asked.request (fetch sha256 handleDoh (workerEnv sha256 subscriptionToken bundle) asked.request) ↔
      ServedFor bundle asked.request := by
  by_cases singBox : orDefault (asked.request.searchParams.lookup "format") "uri" = "sing-box"
  · exact fetch_singBox_iff built asked singBox
  refine iff_of_true ?_ fun other => absurd other singBox
  rw [fetch_subscription built asked]
  by_cases uri : orDefault (asked.request.searchParams.lookup "format") "uri" = "uri"
  · rw [Serves, uri]
    exact subscription_uri built asked.request uri
  by_cases clash : orDefault (asked.request.searchParams.lookup "format") "uri" = "clash"
  · rw [Serves, clash]
    exact subscription_clash built asked.request clash
  rw [subscription, if_neg uri, if_neg clash, if_neg singBox]
  unfold Serves
  split
  · contradiction
  · contradiction
  · contradiction
  · exact ⟨_, rfl, rfl⟩

end

namespace Sample

def deployment : DeploymentRow where
  worker_name := ⟨"worker", by decide⟩
  worker_hostname := ⟨"worker.example.com", by decide⟩
  node_hostname := ⟨"node.example.com", by decide⟩
  reality_server_name := ⟨"www.example.com", by decide⟩

def credentials : Credentials where
  vlessPort := 443
  vlessUuid := "00000000-0000-4000-8000-000000000000"
  realityPublicKey := "AAAAAAAAAAAAAAAAAAAAAAAAAAAAAAAAAAAAAAAAAAA"
  realityShortId := "0123456789abcdef"
  hysteria2Password := "AAAAAAAAAAAAAAAAAAAAAAAAAAAAAAAA"
  hysteria2CertSha256 := "0000000000000000000000000000000000000000000000000000000000000000"
  hysteria2SpkiSha256 := "AAAAAAAAAAAAAAAAAAAAAAAAAAAAAAAAAAAAAAAAAAA="

def secrets : SecretBundle where
  vlessPort := some credentials.vlessPort
  vlessUuid := credentials.vlessUuid
  realityPublicKey := credentials.realityPublicKey
  realityShortId := credentials.realityShortId
  hysteria2Password := credentials.hysteria2Password
  hysteria2CertSha256 := credentials.hysteria2CertSha256
  hysteria2SpkiSha256 := credentials.hysteria2SpkiSha256

def subscriptionToken : String := "BBBBBBBBBBBBBBBBBBBBBBBBBBBBBBBBBBBBBBBBBBB"

def options : ProfileOptions := ⟨some subscriptionToken, some "https://panel.example.com"⟩

def now : String := "2025-01-01T00:00:00.000Z"

def bundle : DataPlaneBundle := readyBundle deployment secrets credentials options now

theorem built : buildReadyBundle deployment secrets options now = some bundle := rfl

theorem path : subscriptionPath ("/sub/" ++ subscriptionToken) = some subscriptionToken := by decide +kernel

def asked (searchParams : List (String × String)) : Subscription utf8 subscriptionToken where
  request := ⟨"GET", "/sub/" ++ subscriptionToken, searchParams⟩
  method := rfl
  token := subscriptionToken
  path := path
  right := rfl

def answer (searchParams : List (String × String)) : Except Thrown Response :=
  fetch utf8 (fun _ => .error .typeError) (workerEnv utf8 subscriptionToken bundle) (asked searchParams).request

end Sample

theorem serves_iff_uris : Serves Sample.bundle (Sample.asked []).request (Sample.answer []) ↔
    ServedFor Sample.bundle (Sample.asked []).request :=
  serves_iff Sample.built (Sample.asked [])

/-- A profile that there is comes with two characters more than its JSON text, a method that every object has
comes instead of a refusal, and a percent sign throws. -/
theorem profiles_not_served :
    ¬ Serves Sample.bundle (Sample.asked [("format", "sing-box"), ("profile", "vless")]).request
      (Sample.answer [("format", "sing-box"), ("profile", "vless")]) ∧
    ¬ Serves Sample.bundle (Sample.asked [("format", "sing-box"), ("profile", "constructor")]).request
      (Sample.answer [("format", "sing-box"), ("profile", "constructor")]) ∧
    ¬ Serves Sample.bundle (Sample.asked [("format", "sing-box"), ("profile", "%")]).request
      (Sample.answer [("format", "sing-box"), ("profile", "%")]) := by
  have unserved (profile : String)
      (condition : ¬ ServedFor Sample.bundle (Sample.asked [("format", "sing-box"), ("profile", profile)]).request) :
      ¬ Serves Sample.bundle (Sample.asked [("format", "sing-box"), ("profile", profile)]).request
        (Sample.answer [("format", "sing-box"), ("profile", profile)]) :=
    mt (fetch_singBox_iff Sample.built (Sample.asked [("format", "sing-box"), ("profile", profile)]) rfl).mp condition
  refine ⟨unserved _ fun served => ?_, unserved _ fun served => ?_, unserved _ fun served => ?_⟩
  · obtain ⟨name, decoded, absent, -⟩ := served rfl
    have plain : percentDecode "vless".toList = some "vless" := percentDecode_profileName (by decide)
    obtain rfl := Option.some.inj (plain.symm.trans decoded)
    exact Option.some_ne_none _ absent
  · obtain ⟨name, decoded, -, noMethod, -⟩ := served rfl
    have plain : percentDecode "constructor".toList = some "constructor" := by
      rw [percentDecode_plain (by decide), String.ofList_toList]
    obtain rfl := Option.some.inj (plain.symm.trans decoded)
    exact noMethod (by decide)
  · obtain ⟨name, decoded, -⟩ := served rfl
    have malformed : percentDecode "%".toList = none := rfl
    exact Option.some_ne_none _ (decoded.symm.trans malformed)

end OmniControlPlane.DataPlane
