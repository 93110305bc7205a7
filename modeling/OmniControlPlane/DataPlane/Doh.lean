import OmniControlPlane.DataPlane.Worker
import OmniControlPlane.Lib.Dns
import OmniControlPlane.Lib.JavaScript
import OmniControlPlane.Lib.Machine
import OmniControlPlane.Lib.OrderedMap

/-! # DNS over HTTPS

`handleDoh`, request after request, with the cache that the requests share. What is outside of it belongs to
an exchange: the time, which entries the cache still has and which it stores, and what the resolver answers.
-/

namespace OmniControlPlane.DataPlane.Doh

open Lib Lib.Dns
open Lib.JavaScript (includes)

/-! ## Queries -/

def DOH_ALLOWED_QTYPES : List ℕ := [1, 28, 16]

def DOH_DOMESTIC_SUFFIXES : List String := [".ir", ".aparat.com", ".digikala.com", ".snapp.", ".bale.ai", ".namava.ir"]

def DOH_NATIONAL_UPSTREAM : String := "178.22.122.100"

def DOH_CLEAN_UPSTREAM : String := "1.1.1.1"

def DOH_HOURLY_CAP : ℕ := 5000

structure Question where
  name : List Char
  qtype : ℕ
deriving DecidableEq, Repr

/-- `toLowerCase`, of a character that one byte stands for -/
def toLowerLatin1 (char : Char) : Char :=
  let code := char.toNat
  if (65 ≤ code ∧ code ≤ 90) ∨ (0xC0 ≤ code ∧ code ≤ 0xDE ∧ code ≠ 0xD7) then Char.ofNat (code + 32) else char

/-- The labels of a name, and what follows them from the zero byte on; each step of the fuel is a label. -/
def readLabels : ℕ → Wire → Option (List (List Char) × Wire)
  | 0, rest => some ([], rest)
  | _ + 1, [] => some ([], [])
  | fuel + 1, length :: rest =>
    if length = 0 then some ([], length :: rest)
    else if 63 < length.toNat ∨ rest.length < length.toNat then none
    else (readLabels fuel (rest.drop length.toNat)).map fun (labels, after) =>
      (latin1 (rest.take length.toNat) :: labels, after)

def parseQuestion (wire : Wire) : Option Question := do
  let (labels, rest) ← readLabels wire.length (wire.drop 12)
  if rest.length < 5 then none
  else some ⟨(List.intercalate ['.'] labels).map toLowerLatin1, word rest 1⟩

def refusedResponse (wire : Wire) : Wire := ((wire.take 12).set 2 0x81).set 3 0x05

/-! ## Requests -/

structure DohRequest where
  method : String
  searchParams : List (String × String)
  contentType : Option String
  body : Wire

structure DohResponse where
  status : ℕ
  headers : List (String × String)
  body : List UInt8
deriving DecidableEq

def plain (status : ℕ) (text : String) : DohResponse := ⟨status, headers "text/plain; charset=utf-8", utf8 text⟩

def message (body : Wire) : DohResponse := ⟨200, headers "application/dns-message", body⟩

/-- An answer of the resolver may be kept for five minutes. -/
def fresh (body : Wire) : DohResponse :=
  ⟨200, (headers "application/dns-message").map fun header =>
    if header.1 = "Cache-Control" then (header.1, "max-age=300") else header, body⟩

/-- A resolver, which answers with the identifier of the query, if at all. -/
structure Upstream where
  answer? : String → Wire → Option Wire
  echoes : ∀ host wire answer, answer? host wire = some answer → ident answer = ident wire

/-- What the cache keeps of an answer. -/
structure Stored where
  /-- The query that was answered, which the cache does not keep. -/
  asked : Wire
  body : Wire

structure Cache where
  answers : OrderedMap String Stored
  counts : OrderedMap String ℕ

def Cache.empty : Cache := ⟨.empty, .empty⟩

/-- A request, and what is outside of it. -/
structure Exchange where
  request : DohRequest
  now : ℕ
  kept : String → Bool
  stored : String → Bool
  upstream : Upstream

/-- `cache.match(key)`; an entry that the cache has dropped is not found, nor where it fails. -/
def Exchange.lookup {ν : Type} (exchange : Exchange) (entries : OrderedMap String ν) (key : String) : Option ν :=
  if exchange.kept key then entries.get? key else none

/-- `cache.put(key, value)`, which may fail -/
def Exchange.put {ν : Type} (exchange : Exchange) (entries : OrderedMap String ν) (key : String) (value : ν) :
    OrderedMap String ν :=
  if exchange.stored key then entries.alter key fun _ => value else entries

inductive Malformed where
  | invalidCharacter
deriving DecidableEq, Repr

def b64url (bytes : List UInt8) : List Char := base64Url bytes

/-- `replaceAll("-", "+").replaceAll("/", "_")`; the second sign is replaced as `b64url` replaces it, not back. -/
def translated (char : Char) : Char := if char = '-' then '+' else if char = '/' then '_' else char

/-- The padding is what is left of three signs. -/
def b64urlDecode (value : String) : Option (List UInt8) :=
  atob (value.toList.map translated ++ "===".toList.drop (((utf16 value).length + 3) % 4))

/-- The query that a request carries: none where the parameter is missing; `atob` throws where it is malformed. -/
def queryWire (request : DohRequest) : Except Malformed (Option Wire) :=
  if request.method = "GET" then
    match request.searchParams.lookup "dns" with
    | none => .ok none
    | some param =>
      if param = "" then .ok none
      else
        match b64urlDecode param with
        | none => .error .invalidCharacter
        | some wire => .ok (some wire)
  else .ok (some request.body)

/-- A request that is rejected, one whose parameter makes `atob` throw, or a query. -/
inductive Query where
  | rejected (response : DohResponse)
  | malformed
  | accepted (key : String) (wire : Wire) (question : Question)
deriving DecidableEq

section

variable (sha256 : String → List UInt8)

def cacheKey (key : String) (question : Question) : String :=
  "https://doh.internal/" ++
    hash sha256 (key ++ "|" ++ String.ofList question.name ++ "|" ++ toString question.qtype)

def capKey (key : String) (now : ℕ) : String :=
  "https://doh.internal/cap-" ++ hash sha256 key ++ "-" ++ toString (now / 3600000)

def domestic (question : Question) : Bool :=
  DOH_DOMESTIC_SUFFIXES.any fun suffix => question.name = suffix.toList.drop 1 || suffix.toList.isSuffixOf question.name

def upstreamHost (question : Question) : String :=
  if domestic question then DOH_NATIONAL_UPSTREAM else DOH_CLEAN_UPSTREAM

/-- What a query that is read and allowed is answered with. -/
def resolve (cache : Cache) (exchange : Exchange) (key : String) (wire : Wire) (question : Question) :
    Cache × DohResponse :=
  if question.qtype ∉ DOH_ALLOWED_QTYPES then (cache, message (refusedResponse wire))
  else
    match exchange.lookup cache.answers (cacheKey sha256 key question) with
    | some cached => (cache, message cached.body)
    | none =>
      let capKey := capKey sha256 key exchange.now
      let capCount := (exchange.lookup cache.counts capKey).getD 0
      if DOH_HOURLY_CAP ≤ capCount then (cache, message (refusedResponse wire))
      else
        let cache := { cache with counts := exchange.put cache.counts capKey (capCount + 1) }
        match exchange.upstream.answer? (upstreamHost question) wire with
        | none => (cache, message (refusedResponse wire))
        | some answer =>
          ({ cache with answers := exchange.put cache.answers (cacheKey sha256 key question) ⟨wire, answer⟩ }, fresh answer)

/-- The key of a request, or what a request is answered with that has no right to ask. -/
def authorize (env : Env) (request : DohRequest) : Except DohResponse String :=
  if request.method ≠ "GET" ∧ request.method ≠ "POST" then .error (plain 405 "method_not_allowed")
  else
    let key := (request.searchParams.lookup "k").getD ""
    if (utf16 key).length < 43 ∨ 128 < (utf16 key).length then .error (plain 401 "unauthorized")
    else if equalHash (hash sha256 key) env.SUB_TOKEN_HASH = false then .error (plain 401 "unauthorized")
    else if request.method = "POST" ∧ includes "application/dns-message" (request.contentType.getD "") = false then
      .error (plain 415 "bad_content_type")
    else .ok key

/-- What `handleDoh` reads of a request before it looks into the cache. -/
def readQuery (env : Env) (request : DohRequest) : Query :=
  match authorize sha256 env request with
  | .error response => .rejected response
  | .ok key =>
    match queryWire request with
    | .error _ => .malformed
    | .ok none => .rejected (plain 400 "bad_query")
    | .ok (some wire) =>
      if wire.length < 12 ∨ 1200 < wire.length then .rejected (plain 400 "bad_query")
      else
        match parseQuestion wire with
        | none => .rejected (plain 400 "bad_query")
        | some question => .accepted key wire question

/-- The handler; no response where it throws. -/
def handleDoh (env : Env) (cache : Cache) (exchange : Exchange) : Cache × Option DohResponse :=
  match readQuery sha256 env exchange.request with
  | .rejected response => (cache, some response)
  | .malformed => (cache, none)
  | .accepted key wire question =>
    let (cache, response) := resolve sha256 cache exchange key wire question
    (cache, some response)

def machine (env : Env) : Machine Cache Exchange where
  step? cache exchange := some (handleDoh sha256 env cache exchange).1

end

/-! ## What an answer owes its query -/

section

variable (sha256 : String → List UInt8) (env : Env) (cache : Cache) (exchange : Exchange)

/-- A response of the media type of DNS messages is one, with the identifier of the query. -/
def Matching : Prop :=
  ∀ response wire, (handleDoh sha256 env cache exchange).2 = some response →
    response.headers.lookup "Content-Type" = some "application/dns-message" →
    queryWire exchange.request = .ok (some wire) → WellFormed response.body ∧ ident response.body = ident wire

/-- The header of a query counts nothing. -/
def Countless (wire : Wire) : Prop := questions wire = 0 ∧ records wire = 0

/-- A query that is refused counts nothing, one that is answered from the cache has the identifier of the
query that was answered first, and what the resolver answers is a message. -/
def Clean : Prop :=
  match readQuery sha256 env exchange.request with
  | .rejected _ | .malformed => True
  | .accepted key wire question =>
    if question.qtype ∉ DOH_ALLOWED_QTYPES then Countless wire
    else
      match exchange.lookup cache.answers (cacheKey sha256 key question) with
      | some cached => ident cached.asked = ident wire
      | none =>
        if DOH_HOURLY_CAP ≤ (exchange.lookup cache.counts (capKey sha256 key exchange.now)).getD 0 then Countless wire
        else
          match exchange.upstream.answer? (upstreamHost question) wire with
          | none => Countless wire
          | some answer => WellFormed answer

end

/-- The cache holds messages, with the identifiers of the queries that they were asked for. -/
def Cache.Sound (cache : Cache) : Prop :=
  ∀ key stored, cache.answers.get? key = some stored → WellFormed stored.body ∧ ident stored.body = ident stored.asked

theorem Cache.sound_empty : Cache.empty.Sound := fun _ _ found => nomatch found

/-! ## Refusals -/

section

variable {wire : Wire}

theorem refusedResponse_length (header : 12 ≤ wire.length) : (refusedResponse wire).length = 12 := by
  simp [refusedResponse, header]

/-- A refusal has the bytes of its query's header, but for the flags. -/
theorem refusedResponse_getElem? {offset : ℕ} (flags : offset ≠ 2 ∧ offset ≠ 3) (header : offset < 12) :
    (refusedResponse wire)[offset]? = wire[offset]? := by
  rw [refusedResponse, List.getElem?_set_ne flags.2.symm, List.getElem?_set_ne flags.1.symm, List.getElem?_take_of_lt header]

theorem word_refusedResponse {offset : ℕ} (counts : 4 ≤ offset ∧ offset < 11) :
    word (refusedResponse wire) offset = word wire offset := by
  simp only [word, List.getD_eq_getElem?_getD]
  rw [refusedResponse_getElem? (by omega) (by omega), refusedResponse_getElem? (by omega) (by omega)]

theorem ident_refusedResponse : ident (refusedResponse wire) = ident wire := by
  refine List.ext_getElem? fun offset => ?_
  by_cases inside : offset < 2
  · rw [ident, ident, List.getElem?_take_of_lt inside, List.getElem?_take_of_lt inside,
      refusedResponse_getElem? (by omega) (by omega)]
  · rw [ident, ident, List.getElem?_take, List.getElem?_take, if_neg inside, if_neg inside]

/-- A refusal is a message exactly when the query counts nothing: there is no question in it. -/
theorem wellFormed_refusedResponse_iff (header : 12 ≤ wire.length) :
    WellFormed (refusedResponse wire) ↔ Countless wire := by
  rw [wellFormed_header_iff (refusedResponse_length header), questions, records, word_refusedResponse (by omega),
    word_refusedResponse (by omega), word_refusedResponse (by omega), word_refusedResponse (by omega)]
  rfl

end

/-! ## One exchange -/

section

variable {sha256 : String → List UInt8} {env : Env} {cache : Cache} {exchange : Exchange} {key : String} {wire : Wire}
  {question : Question}

theorem readQuery_accepted (accepted : readQuery sha256 env exchange.request = .accepted key wire question) :
    queryWire exchange.request = .ok (some wire) ∧ 12 ≤ wire.length := by
  unfold readQuery at accepted
  split at accepted
  · contradiction
  split at accepted
  · contradiction
  · contradiction
  · next wire' read =>
    split at accepted
    · contradiction
    · next sizes =>
      split at accepted
      · contradiction
      · obtain ⟨-, rfl, -⟩ := Query.accepted.inj accepted
        exact ⟨read, by omega⟩

theorem readQuery_eq_accepted {request : DohRequest} (granted : authorize sha256 env request = .ok key)
    (carried : queryWire request = .ok (some wire)) (sizes : ¬ (wire.length < 12 ∨ 1200 < wire.length))
    (parsed : parseQuestion wire = some question) : readQuery sha256 env request = .accepted key wire question := by
  simp only [readQuery, granted, carried, if_neg sizes, parsed]

theorem authorize_error {response : DohResponse} (refused : authorize sha256 env exchange.request = .error response) :
    ∃ status text, response = plain status text := by
  unfold authorize at refused
  by_cases method : exchange.request.method ≠ "GET" ∧ exchange.request.method ≠ "POST"
  · rw [if_pos method] at refused
    exact ⟨_, _, (Except.error.inj refused).symm⟩
  rw [if_neg method] at refused
  generalize (exchange.request.searchParams.lookup "k").getD "" = key at refused
  by_cases length : (utf16 key).length < 43 ∨ 128 < (utf16 key).length
  · rw [if_pos length] at refused
    exact ⟨_, _, (Except.error.inj refused).symm⟩
  rw [if_neg length] at refused
  by_cases wrong : equalHash (hash sha256 key) env.SUB_TOKEN_HASH = false
  · rw [if_pos wrong] at refused
    exact ⟨_, _, (Except.error.inj refused).symm⟩
  rw [if_neg wrong] at refused
  by_cases typed : exchange.request.method = "POST" ∧
      includes "application/dns-message" (exchange.request.contentType.getD "") = false
  · rw [if_pos typed] at refused
    exact ⟨_, _, (Except.error.inj refused).symm⟩
  · rw [if_neg typed] at refused
    contradiction

/-- What is rejected is no DNS message. -/
theorem readQuery_rejected {response : DohResponse} (rejected : readQuery sha256 env exchange.request = .rejected response) :
    ∃ status text, response = plain status text := by
  unfold readQuery at rejected
  split at rejected
  · next refused => exact Query.rejected.inj rejected ▸ authorize_error refused
  split at rejected
  · contradiction
  · exact ⟨_, _, (Query.rejected.inj rejected).symm⟩
  · split at rejected
    · exact ⟨_, _, (Query.rejected.inj rejected).symm⟩
    · split at rejected
      · exact ⟨_, _, (Query.rejected.inj rejected).symm⟩
      · contradiction

theorem plain_contentType (status : ℕ) (text : String) :
    (plain status text).headers.lookup "Content-Type" = some "text/plain; charset=utf-8" := by
  simp [plain, headers]

/-- What the resolver answers is kept, and the request is counted. -/
theorem resolve_fresh {answer : Wire} (allowed : question.qtype ∈ DOH_ALLOWED_QTYPES)
    (miss : exchange.lookup cache.answers (cacheKey sha256 key question) = none)
    (room : (exchange.lookup cache.counts (capKey sha256 key exchange.now)).getD 0 < DOH_HOURLY_CAP)
    (answered : exchange.upstream.answer? (upstreamHost question) wire = some answer) :
    resolve sha256 cache exchange key wire question =
      (⟨exchange.put cache.answers (cacheKey sha256 key question) ⟨wire, answer⟩,
        exchange.put cache.counts (capKey sha256 key exchange.now)
          ((exchange.lookup cache.counts (capKey sha256 key exchange.now)).getD 0 + 1)⟩, fresh answer) := by
  simp only [resolve, not_not.mpr allowed, if_false, miss, if_neg (not_le.mpr room), answered]

theorem resolve_hit {stored : Stored} (allowed : question.qtype ∈ DOH_ALLOWED_QTYPES)
    (hit : exchange.lookup cache.answers (cacheKey sha256 key question) = some stored) :
    resolve sha256 cache exchange key wire question = (cache, message stored.body) := by
  simp only [resolve, not_not.mpr allowed, if_false, hit]

theorem handleDoh_accepted (accepted : readQuery sha256 env exchange.request = .accepted key wire question) :
    handleDoh sha256 env cache exchange = ((resolve sha256 cache exchange key wire question).1,
      some (resolve sha256 cache exchange key wire question).2) := by
  simp only [handleDoh, accepted]

theorem clean_hit_iff {stored : Stored} (accepted : readQuery sha256 env exchange.request = .accepted key wire question)
    (allowed : question.qtype ∈ DOH_ALLOWED_QTYPES)
    (hit : exchange.lookup cache.answers (cacheKey sha256 key question) = some stored) :
    Clean sha256 env cache exchange ↔ ident stored.asked = ident wire := by
  simp only [Clean, accepted, not_not.mpr allowed, if_false, hit]

/-- Whatever a query is answered with is sent as a DNS message. -/
theorem resolve_contentType :
    (resolve sha256 cache exchange key wire question).2.headers.lookup "Content-Type" = some "application/dns-message" := by
  unfold resolve
  split
  · rfl
  split
  · rfl
  dsimp only
  split
  · rfl
  split
  · rfl
  · rfl

theorem matching_accepted_iff (accepted : readQuery sha256 env exchange.request = .accepted key wire question) :
    Matching sha256 env cache exchange ↔
      WellFormed (resolve sha256 cache exchange key wire question).2.body ∧
        ident (resolve sha256 cache exchange key wire question).2.body = ident wire := by
  have answered : handleDoh sha256 env cache exchange = ((resolve sha256 cache exchange key wire question).1,
      some (resolve sha256 cache exchange key wire question).2) := by
    rw [handleDoh, accepted]
  obtain ⟨read, -⟩ := readQuery_accepted accepted
  unfold Matching
  rw [answered, read]
  constructor
  · intro all
    exact all _ _ rfl resolve_contentType rfl
  · rintro proper response wire' same - carried
    obtain rfl := Option.some.inj (Except.ok.inj carried)
    exact Option.some.inj same ▸ proper

/-- Over a sound cache, an answer matches its query exactly when the exchange is clean. -/
theorem matching_iff (sound : cache.Sound) : Matching sha256 env cache exchange ↔ Clean sha256 env cache exchange := by
  unfold Clean
  cases read : readQuery sha256 env exchange.request with
  | rejected response =>
    refine iff_of_true (fun response' wire answered dns => ?_) trivial
    obtain ⟨status, text, rfl⟩ := readQuery_rejected read
    rw [handleDoh, read] at answered
    rw [← Option.some.inj answered, plain_contentType] at dns
    exact absurd (Option.some.inj dns) (by decide)
  | malformed =>
    refine iff_of_true (fun response' wire answered => ?_) trivial
    rw [handleDoh, read] at answered
    contradiction
  | accepted key wire question =>
    obtain ⟨-, header⟩ := readQuery_accepted read
    have refusal : WellFormed (refusedResponse wire) ∧ ident (refusedResponse wire) = ident wire ↔ Countless wire := by
      rw [wellFormed_refusedResponse_iff header]
      exact and_iff_left ident_refusedResponse
    rw [matching_accepted_iff read]
    unfold resolve
    dsimp only
    split
    · exact refusal
    split
    · next cached found =>
      have there : cache.answers.get? (cacheKey sha256 key question) = some cached := by
        unfold Exchange.lookup at found
        split at found
        · exact found
        · contradiction
      obtain ⟨wellFormed, echoed⟩ := sound _ _ there
      rw [← echoed]
      exact and_iff_right wellFormed
    split
    · exact refusal
    split
    · exact refusal
    · next answer answered =>
      exact and_iff_left (exchange.upstream.echoes _ _ _ answered)

theorem sound_put {answers : OrderedMap String Stored} {stored : Stored}
    (sound : ∀ key stored, answers.get? key = some stored → WellFormed stored.body ∧ ident stored.body = ident stored.asked)
    (new : WellFormed stored.body ∧ ident stored.body = ident stored.asked) (put : String) :
    ∀ key stored', (exchange.put answers put stored).get? key = some stored' →
      WellFormed stored'.body ∧ ident stored'.body = ident stored'.asked := by
  intro key stored' found
  unfold Exchange.put at found
  split at found
  · rw [OrderedMap.get?_alter] at found
    split at found
    · exact Option.some.inj found ▸ new
    · exact sound key stored' found
  · exact sound key stored' found

/-- A clean exchange keeps the cache sound. -/
theorem sound_handleDoh (sound : cache.Sound) (clean : Clean sha256 env cache exchange) :
    (handleDoh sha256 env cache exchange).1.Sound := by
  unfold handleDoh Clean at *
  cases read : readQuery sha256 env exchange.request with
  | rejected response => exact sound
  | malformed => exact sound
  | accepted key wire question =>
    rw [read] at clean
    dsimp only at clean ⊢
    unfold resolve
    split
    · exact sound
    · next listed =>
      rw [if_neg listed] at clean
      split
      · exact sound
      · next missed =>
        rw [missed] at clean
        dsimp only at clean ⊢
        split
        · exact sound
        · next below =>
          rw [if_neg below] at clean
          split
          · exact sound
          · next answer answered =>
            rw [answered] at clean
            exact sound_put sound ⟨clean, exchange.upstream.echoes _ _ _ answered⟩ _

/-- Over a run from an empty cache, all answers match their queries exactly when all exchanges are clean. -/
theorem answers_match_iff {exchanges : List Exchange} (run : (machine sha256 env).Run Machine.Free .empty exchanges cache) :
    (machine sha256 env).Run (Matching sha256 env) .empty exchanges cache ↔
      (machine sha256 env).Run (Clean sha256 env) .empty exchanges cache := by
  refine run.steps_iff Cache.Sound ?_ ?_ Cache.sound_empty
  · intro cache exchange next sound _
    exact matching_iff sound
  · intro cache exchange next sound clean stepped
    exact Option.some.inj stepped ▸ sound_handleDoh sound clean

end

namespace Sample

def key : String := "BBBBBBBBBBBBBBBBBBBBBBBBBBBBBBBBBBBBBBBBBBB"

def env : Env := ⟨hash utf8 key, []⟩

/-- A query for `a.ir`. -/
def query (identifier qtype : UInt8) : Wire :=
  [0, identifier, 1, 0, 0, 1, 0, 0, 0, 0, 0, 0, 1, 97, 2, 105, 114, 0, 0, qtype, 0, 1]

/-- The flags, the counts, the question, and one record, of an answer to a query for the address of `a.ir`. -/
def answered : Wire :=
  [0x81, 0x80, 0, 1, 0, 1, 0, 0, 0, 0, 1, 97, 2, 105, 114, 0, 0, 1, 0, 1, 0xC0, 12, 0, 1, 0, 1, 0, 0, 0, 60, 0, 4, 1, 2, 3, 4]

def upstream : Upstream where
  answer? _ wire := if 2 ≤ wire.length then some (wire.take 2 ++ answered) else none
  echoes _ wire answer found := by
    split at found
    · next long =>
      rw [← Option.some.inj found, ident, ident, List.take_append_of_le_length (by simp [long]), List.take_take,
        Nat.min_self]
    · contradiction

def exchange (wire : Wire) : Exchange where
  request := ⟨"POST", [("k", key)], some "application/dns-message", wire⟩
  now := 0
  kept _ := true
  stored _ := true
  upstream := upstream

/-- The cache after the first query. -/
def cache : Cache := (handleDoh utf8 env .empty (exchange (query 1 1))).1

/-- An answer, as far as it concerns the query. -/
def sent (cache : Cache) (wire : Wire) : Option (Option String × Wire × ℕ × ℕ) :=
  (handleDoh utf8 env cache (exchange wire)).2.map fun response =>
    (response.headers.lookup "Content-Type", ident response.body, response.body.length, questions response.body)

/-- What the queries for the address of `a.ir` ask. -/
def air : Question := ⟨['a', '.', 'i', 'r'], 1⟩

/-- What the cache keeps of the first answer. -/
def first : Stored := ⟨query 1 1, [0, 1] ++ answered⟩

theorem authorize_key {request : DohRequest} (own : request.searchParams.lookup "k" = some key)
    (asks : request.method = "GET" ∨
      request.method = "POST" ∧ request.contentType = some "application/dns-message") :
    authorize utf8 env request = .ok key := by
  have length : (utf16 key).length = 43 := by decide +kernel
  have typed : includes "application/dns-message" "application/dns-message" = true := by decide +kernel
  have equal : equalHash (hash utf8 key) env.SUB_TOKEN_HASH = true := equalHash_self (hash utf8 key)
  rcases asks with method | ⟨method, type⟩
  · simp [authorize, own, method, length, equal]
  · simp [authorize, own, method, type, length, typed, equal]

theorem readQuery_exchange {wire : Wire} {question : Question} (sizes : ¬ (wire.length < 12 ∨ 1200 < wire.length))
    (parsed : parseQuestion wire = some question) :
    readQuery utf8 env (exchange wire).request = .accepted key wire question :=
  readQuery_eq_accepted (authorize_key rfl (.inr ⟨rfl, rfl⟩)) rfl sizes parsed

theorem get?_cache : cache.answers.get? (cacheKey utf8 key air) = some first := by
  have read : readQuery utf8 env (exchange (query 1 1)).request = .accepted key (query 1 1) air :=
    readQuery_exchange (by decide) (by decide)
  have answer : (exchange (query 1 1)).upstream.answer? (upstreamHost air) (query 1 1) = some first.body := rfl
  rw [cache, handleDoh_accepted read, resolve_fresh (by decide) rfl (by decide) answer]
  exact (OrderedMap.get?_alter _ _ _ _).trans (if_pos rfl)

theorem lookup_cache (wire : Wire) : (exchange wire).lookup cache.answers (cacheKey utf8 key air) = some first := get?_cache

/-- A query for the address of `a.ir` is answered from the cache. -/
theorem handleDoh_cache {wire : Wire} (sizes : ¬ (wire.length < 12 ∨ 1200 < wire.length))
    (parsed : parseQuestion wire = some air) :
    handleDoh utf8 env cache (exchange wire) = (cache, some (message first.body)) := by
  rw [handleDoh_accepted (readQuery_exchange sizes parsed), resolve_hit (by decide) (lookup_cache wire)]

end Sample

/-- An answer of the resolver, and the same query once more, which is answered from the cache. -/
theorem answers_match_iff_first :
    Sample.cache.answers.get? (cacheKey utf8 Sample.key ⟨['a', '.', 'i', 'r'], 1⟩) ≠ none ∧
    (machine utf8 Sample.env).Run (Matching utf8 Sample.env) .empty
      [Sample.exchange (Sample.query 1 1), Sample.exchange (Sample.query 1 1)]
      (handleDoh utf8 Sample.env Sample.cache (Sample.exchange (Sample.query 1 1))).1 := by
  have read : readQuery utf8 Sample.env (Sample.exchange (Sample.query 1 1)).request =
      .accepted Sample.key (Sample.query 1 1) Sample.air :=
    Sample.readQuery_exchange (by decide) (by decide)
  have there : Sample.cache.answers.get? (cacheKey utf8 Sample.key ⟨['a', '.', 'i', 'r'], 1⟩) = some Sample.first :=
    Sample.get?_cache
  refine ⟨there ▸ Option.some_ne_none Sample.first, (answers_match_iff (.cons trivial rfl (.cons trivial rfl (.nil _)))).mpr ?_⟩
  refine .cons ?_ rfl (.cons ?_ rfl (.nil _))
  · rw [Clean, read]
    exact (by decide : WellFormed ([0, 1] ++ Sample.answered))
  · change Clean utf8 Sample.env Sample.cache (Sample.exchange (Sample.query 1 1))
    rw [clean_hit_iff read (by decide) (Sample.lookup_cache (Sample.query 1 1))]
    rfl

/-- A second query for the same name is answered with the identifier of the first, and the refusal of a query
for another type is a header that counts a question. -/
theorem second_answer_mismatched :
    (¬ ∃ cache, (machine utf8 Sample.env).Run (Matching utf8 Sample.env) .empty
      [Sample.exchange (Sample.query 1 1), Sample.exchange (Sample.query 2 1)] cache) ∧
    ¬ ∃ cache, (machine utf8 Sample.env).Run (Matching utf8 Sample.env) .empty
      [Sample.exchange (Sample.query 1 15)] cache := by
  have cached : Sample.sent Sample.cache (Sample.query 2 1) = some (some "application/dns-message", [0, 1], 38, 1) := by
    rw [Sample.sent, Sample.handleDoh_cache (by decide) (by decide)]
    decide
  have refused : Sample.sent .empty (Sample.query 1 15) = some (some "application/dns-message", [0, 1], 12, 1) := by
    have read : readQuery utf8 Sample.env (Sample.exchange (Sample.query 1 15)).request =
        .accepted Sample.key (Sample.query 1 15) { Sample.air with qtype := 15 } :=
      Sample.readQuery_exchange (by decide) (by decide)
    rw [Sample.sent, handleDoh_accepted read, resolve, if_pos (by decide)]
    decide
  constructor
  · rintro ⟨cache, run⟩
    obtain ⟨-, middle, stepped, run⟩ := Machine.Run.cons_iff.mp run
    obtain rfl := Option.some.inj stepped
    obtain ⟨matching, -⟩ := Machine.Run.cons_iff.mp run
    obtain ⟨response, answered, same⟩ := Option.map_eq_some_iff.mp cached
    simp only [Prod.mk.injEq] at same
    obtain ⟨dns, identifier, -, -⟩ := same
    have own := (matching response (Sample.query 2 1) answered dns rfl).2
    exact absurd (identifier.symm.trans own) (by decide)
  · rintro ⟨cache, run⟩
    obtain ⟨matching, -⟩ := Machine.Run.cons_iff.mp run
    obtain ⟨response, answered, same⟩ := Option.map_eq_some_iff.mp refused
    simp only [Prod.mk.injEq] at same
    obtain ⟨dns, -, length, asked⟩ := same
    have message := (matching response (Sample.query 1 15) answered dns rfl).1
    exact absurd (((wellFormed_header_iff length).mp message).1.symm.trans asked) (by decide)

end OmniControlPlane.DataPlane.Doh
