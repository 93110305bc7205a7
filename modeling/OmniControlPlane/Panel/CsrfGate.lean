import OmniControlPlane.Lib.Mime
import OmniControlPlane.Panel.SessionCookie

/-! # The CSRF gate

A request that a page of another site can send without asking the panel first has a content type of three, and no
header of its own. The gate looks for the panel's header, or for the text of the JSON type anywhere in the content
type, its parameters included.
-/

namespace OmniControlPlane.Panel.CsrfGate

open Lib Lib.Mime
open Lib.JavaScript (includes)
open Auth.Cookie (Backend authenticate dispatch)
open PasswordRecord (Thrown)

structure Request where
  method : String
  headers : List (String × String)

/-- The values of a header, whose name may be written in any case. -/
def Request.values (request : Request) (name : String) : List String :=
  (request.headers.filter (·.1.toLower = name)).map (·.2)

/-- `request.headers.has(name)` -/
def Request.has (request : Request) (name : String) : Bool := !(request.values name).isEmpty

/-- `request.headers.get(name)` -/
def Request.get (request : Request) (name : String) : Option String :=
  if request.has name then some (", ".intercalate (request.values name)) else none

def csrfOk (request : Request) : Bool :=
  if request.has "x-kaveh-csrf" then true
  else includes "application/json" ((request.get "content-type").getD "")

/-! ## What the gate is for -/

def jsonType : List Char := "application/json".toList

/-- The types that a page may send anywhere. -/
def safelisted : List (List Char) :=
  ["text/plain".toList, "multipart/form-data".toList, "application/x-www-form-urlencoded".toList]

def Safelisted (contentType : Option String) : Prop :=
  ∀ value, contentType = some value → ∃ essence ∈ safelisted, essence? value.toList = some essence

/-- The essence is that of JSON. -/
def JsonTyped (request : Request) : Prop :=
  ∃ value, request.get "content-type" = some value ∧ essence? value.toList = some jsonType

/-- The text of the JSON type is among the parameters. -/
def Carried (request : Request) : Prop :=
  ∃ value, request.get "content-type" = some value ∧ jsonType <:+: parameters value.toList

/-- The media type is written in lower case. -/
def Written (request : Request) : Prop :=
  ∃ value, request.get "content-type" = some value ∧ mediaType value.toList = jsonType

section

-- the names of headers, in lower case, that a page of another site sets only after it was allowed to
variable (custom : String → Bool)

/-- A request that changes something, and that any page may send. -/
def Sendable (request : Request) : Prop :=
  request.method ≠ "GET" ∧ (∀ header ∈ request.headers, custom header.1.toLower = false) ∧
    Safelisted (request.get "content-type")

/-- The gate refuses what any page may send, and admits what says that it is the panel's. -/
def Guards (request : Request) : Prop :=
  (Sendable custom request → csrfOk request = false) ∧
    (request.has "x-kaveh-csrf" = true ∨ JsonTyped request → csrfOk request = true)

/-- Safelisted values keep the text of the JSON type out of their parameters, and JSON is written as the gate looks
for it. -/
def Plain (request : Request) : Prop :=
  (Sendable custom request → ¬ Carried request) ∧
    (request.has "x-kaveh-csrf" = false → JsonTyped request → Written request ∨ Carried request)

variable {custom} {request : Request}

theorem jsonType_ne_nil : jsonType ≠ [] := by
  decide +kernel

theorem csrfOk_eq_false_iff : csrfOk request = false ↔ request.has "x-kaveh-csrf" = false ∧
    ¬ ∃ value, request.get "content-type" = some value ∧ jsonType <:+: value.toList := by
  rw [csrfOk]
  split
  · next present =>
    rw [present]
    exact iff_of_false Bool.noConfusion fun refused => Bool.noConfusion refused.1
  · next absent =>
    rw [and_iff_right (Bool.eq_false_iff.mpr absent), includes, decide_eq_false_iff_not]
    apply not_congr
    cases read : request.get "content-type" with
    | none =>
      constructor
      · intro inside
        exact absurd (List.infix_nil.mp inside) jsonType_ne_nil
      · rintro ⟨value, found, -⟩
        contradiction
    | some value =>
      constructor
      · exact fun inside => ⟨value, rfl, inside⟩
      · rintro ⟨value, found, inside⟩
        exact Option.some.inj found ▸ inside

theorem unnamed (known : custom "x-kaveh-csrf" = true) (sendable : Sendable custom request) :
    request.has "x-kaveh-csrf" = false := by
  rw [Request.has, Request.values, Bool.not_eq_false', List.isEmpty_iff, List.map_eq_nil_iff, List.filter_eq_nil_iff]
  intro header listed named
  have free := sendable.2.1 header listed
  rw [of_decide_eq_true named, known] at free
  contradiction

/-- The text of the JSON type stands in a value before the parameters or among them. -/
theorem json_infix_iff (value : List Char) : jsonType <:+: value ↔
    jsonType <:+: mediaType value ∨ jsonType <:+: parameters value := by
  apply infix_value_iff
  · have printed : jsonType.all (!whitespace ·) = true := by decide +kernel
    intro char member
    exact Bool.not_eq_true' _ ▸ List.all_eq_true.mp printed char member
  · decide +kernel

theorem safelisted_clear {value essence : List Char} (listed : essence ∈ safelisted)
    (read : essence? value = some essence) : ¬ jsonType <:+: mediaType value := by
  intro inside
  have within := infix_essence read (by decide +kernel) inside
  have clear : ∀ essence ∈ safelisted, ¬ jsonType <:+: essence := by decide +kernel
  exact clear essence listed within

/-- A request of any page passes exactly where its parameters have the text. -/
theorem csrfOk_sendable (known : custom "x-kaveh-csrf" = true) (sendable : Sendable custom request) :
    csrfOk request = false ↔ ¬ Carried request := by
  rw [csrfOk_eq_false_iff, and_iff_right (unnamed known sendable)]
  apply not_congr
  constructor
  · rintro ⟨value, read, inside⟩
    obtain ⟨essence, listed, parsed⟩ := sendable.2.2 value read
    exact ⟨value, read, ((json_infix_iff _).mp inside).resolve_left (safelisted_clear listed parsed)⟩
  · rintro ⟨value, read, inside⟩
    exact ⟨value, read, (json_infix_iff _).mpr (.inr inside)⟩

/-- A request of the JSON type passes where the type is written in lower case, or the parameters have its text. -/
theorem csrfOk_json (absent : request.has "x-kaveh-csrf" = false) (typed : JsonTyped request) :
    csrfOk request = true ↔ Written request ∨ Carried request := by
  obtain ⟨value, read, essence⟩ := typed
  have passes : csrfOk request = true ↔ jsonType <:+: value.toList := by
    rw [← not_iff_not, Bool.not_eq_true, csrfOk_eq_false_iff, and_iff_right absent, read]
    simp only [Option.some.injEq, exists_eq_left']
  rw [passes, json_infix_iff, infix_mediaType_iff essence, Written, Carried, read]
  simp only [Option.some.injEq, exists_eq_left']

end

/-- The gate tells the panel's requests from those of any page exactly where the parameters of the one and the
spelling of the other leave it a choice. -/
theorem csrfOk_guards_iff {custom : String → Bool} (known : custom "x-kaveh-csrf" = true) (request : Request) :
    Guards custom request ↔ Plain custom request := by
  apply and_congr
  · exact forall_congr' fun sendable => csrfOk_sendable known sendable
  · constructor
    · intro admits absent typed
      exact (csrfOk_json absent typed).mp (admits (.inr typed))
    · rintro written (named | typed)
      · rw [csrfOk, if_pos named]
      · cases named : request.has "x-kaveh-csrf" with
        | true => rw [csrfOk, if_pos named]
        | false => exact (csrfOk_json named typed).mpr (written named typed)

/-- A request of any page that keeps the text out of its parameters does not reach a handler that needs a session. -/
theorem dispatch_sendable {custom : String → Bool} {request : Request} (known : custom "x-kaveh-csrf" = true)
    (sendable : Sendable custom request) (plain : ¬ Carried request) {α : Type} (backend : Backend)
    (sessions : Auth.Sessions) (unauthorized csrf : α) (handler : Option Auth.Cookie.Session → Except Thrown α)
    (cookie : Option (List Char)) (now : ℕ) :
    dispatch backend sessions true (request.method = "GET" || csrfOk request) unauthorized csrf handler cookie now =
      (authenticate backend sessions cookie now).map fun session => if session.isNone then unauthorized else csrf := by
  rw [dispatch, (csrfOk_sendable known sendable).mpr plain, decide_eq_false sendable.1]
  cases authenticate backend sessions cookie now with
  | error thrown => rfl
  | ok session => cases session <;> rfl

namespace Sample

def custom (name : String) : Bool := name = "x-kaveh-csrf"

def request (contentType : String) : Request := ⟨"POST", [("Content-Type", contentType)]⟩

end Sample

theorem csrfOk_guards_json : Guards Sample.custom (Sample.request "application/json; charset=utf-8") ↔
    Plain Sample.custom (Sample.request "application/json; charset=utf-8") :=
  csrfOk_guards_iff (by decide +kernel) _

/-- A text with a parameter passes, and JSON in capitals does not. -/
theorem csrfOk_misled : ¬ Guards Sample.custom (Sample.request "text/plain; x=application/json") ∧
    ¬ Guards Sample.custom (Sample.request "Application/JSON") := by
  constructor
  · rintro ⟨refuses, -⟩
    have sendable : Sendable Sample.custom (Sample.request "text/plain; x=application/json") := by
      refine ⟨by decide +kernel, by decide +kernel, ?_⟩
      rintro value read
      obtain rfl : "text/plain; x=application/json" = value := by
        have found : (Sample.request "text/plain; x=application/json").get "content-type" =
            some "text/plain; x=application/json" := by decide +kernel
        exact Option.some.inj (found.symm.trans read)
      exact ⟨"text/plain".toList, by decide +kernel, by decide +kernel⟩
    have passes : csrfOk (Sample.request "text/plain; x=application/json") = true := by decide +kernel
    exact Bool.noConfusion (passes.symm.trans (refuses sendable))
  · rintro ⟨-, admits⟩
    have refused : csrfOk (Sample.request "Application/JSON") = false := by decide +kernel
    have passes := admits (.inr ⟨"Application/JSON", by decide +kernel, by decide +kernel⟩)
    exact Bool.noConfusion (refused.symm.trans passes)

end OmniControlPlane.Panel.CsrfGate
