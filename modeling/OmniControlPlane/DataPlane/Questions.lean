import OmniControlPlane.DataPlane.Doh
import Mathlib.Data.Set.Operations

/-! # The questions of DNS over HTTPS

A query comes in the path or in the body, and is the same query. An entry of the cache is found again by the
text of the name in lower case and the type, which is less than the question that it answers.
-/

namespace OmniControlPlane.DataPlane.Doh

open Lib Lib.Dns
open Lib.JavaScript (includes)

/-! ## The two forms of a request -/

/-- Where neither of the two signs occurs that are replaced the wrong way, the decoder is the one of the alphabet. -/
theorem b64urlDecode_eq {value : String} (plain : ∀ char ∈ value.toList, char ≠ '/' ∧ char ≠ '_') :
    b64urlDecode value = base64UrlBytes value.toList := by
  have padding (length : ℕ) : "===".toList.drop ((length + 3) % 4) = List.replicate ((4 - length % 4) % 4) '=' := by
    have signs : "===".toList = List.replicate 3 '=' := by decide
    rw [signs, List.drop_replicate]
    congr 1
    omega
  have letters : value.toList.map translated = value.toList.map plainLetter := by
    refine List.map_congr_left fun char member => ?_
    rw [translated, plainLetter, if_neg (plain char member).1, if_neg (plain char member).2]
  rw [b64urlDecode, padding, letters, base64UrlBytes_units]

/-- `atob` does not know the underscore, which is left as it is. -/
theorem b64urlDecode_underscore {value : String} (member : '_' ∈ value.toList) : b64urlDecode value = none := by
  have kept : '_' ∈ value.toList.map translated := List.mem_map.mpr ⟨'_', member, by decide⟩
  exact atob_eq_none (List.mem_append_left _ kept) (by decide) (by decide) (by decide)

theorem base64Url_letter {bytes : List UInt8} {char : Char} (member : char ∈ b64url bytes) :
    ∃ value < 64, char = urlLetter (base64Letter value) := by
  rw [b64url, base64Url_eq] at member
  obtain ⟨value, inside, rfl⟩ := List.mem_map.mp member
  exact ⟨value, sextets_lt bytes value inside, rfl⟩

/-- There is no slash in the alphabet for URLs. -/
theorem urlLetter_ne_slash : ∀ value < 64, urlLetter (base64Letter value) ≠ '/' := by decide

theorem slash_notMem_b64url (bytes : List UInt8) : '/' ∉ b64url bytes := by
  intro member
  obtain ⟨value, inside, letter⟩ := base64Url_letter member
  exact urlLetter_ne_slash value inside letter.symm

theorem b64urlDecode_b64url (bytes : List UInt8) :
    b64urlDecode (String.ofList (b64url bytes)) = if '_' ∈ b64url bytes then none else some bytes := by
  split
  · next member => exact b64urlDecode_underscore (by rwa [String.toList_ofList])
  · next absent =>
    rw [b64urlDecode_eq, String.toList_ofList, b64url, base64UrlBytes_base64Url]
    rw [String.toList_ofList]
    intro char member
    constructor
    · rintro rfl
      exact slash_notMem_b64url bytes member
    · rintro rfl
      exact absent member

/-- The query of a request is what the source's own decoder makes of its parameter. -/
theorem queryWire_get {request : DohRequest} {param : String} (get : request.method = "GET")
    (given : request.searchParams.lookup "dns" = some param) (nonempty : param ≠ "") :
    queryWire request = (b64urlDecode param).elim (.error .invalidCharacter) fun wire => .ok (some wire) := by
  rw [queryWire, if_pos get, given]
  dsimp only
  rw [if_neg nonempty]
  cases b64urlDecode param <;> rfl

/-- The two requests that carry one query: in the path, encoded, and in the body, with the media type of it. -/
structure Forms (wire : Wire) (get post : DohRequest) : Prop where
  get_method : get.method = "GET"
  get_dns : get.searchParams.lookup "dns" = some (String.ofList (b64url wire))
  post_method : post.method = "POST"
  post_type : includes "application/dns-message" (post.contentType.getD "") = true
  post_body : post.body = wire
  key : get.searchParams.lookup "k" = post.searchParams.lookup "k"

/-- A parameter of letters of the alphabet for URLs, of which none is left over. -/
def WellFormedParam (param : String) : Prop :=
  param.toList.length % 4 ≠ 1 ∧ ∀ char ∈ param.toList, ∃ value < 64, char = urlLetter (base64Letter value)

section

variable {wire : Wire} {get post : DohRequest}

theorem Forms.queryWire_get (forms : Forms wire get post) (nonempty : wire ≠ []) :
    queryWire get = if '_' ∈ b64url wire then .error .invalidCharacter else .ok (some wire) := by
  have given : String.ofList (b64url wire) ≠ "" := by
    intro empty
    have letters := congrArg String.toList empty
    rw [String.toList_ofList] at letters
    exact base64Url_ne_nil nonempty letters
  rw [Doh.queryWire_get forms.get_method forms.get_dns given, b64urlDecode_b64url]
  split <;> rfl

theorem Forms.queryWire_post (forms : Forms wire get post) : queryWire post = .ok (some wire) := by
  rw [queryWire, if_neg (by rw [forms.post_method]; decide), forms.post_body]

theorem Forms.authorize (sha256 : String → List UInt8) (env : Env) (forms : Forms wire get post) :
    Doh.authorize sha256 env get = Doh.authorize sha256 env post := by
  unfold Doh.authorize
  rw [forms.get_method, forms.post_method, forms.post_type, forms.key]
  simp

end

/-- A request throws exactly when it is let in, and its parameter cannot be decoded. -/
theorem handleDoh_eq_none_iff {sha256 : String → List UInt8} {env : Env} {cache : Cache} {exchange : Exchange} :
    (handleDoh sha256 env cache exchange).2 = none ↔
      (∃ key, authorize sha256 env exchange.request = .ok key) ∧ queryWire exchange.request = .error .invalidCharacter := by
  unfold handleDoh readQuery
  cases authorize sha256 env exchange.request with
  | error response => simp
  | ok key =>
    cases queryWire exchange.request with
    | error thrown =>
      cases thrown
      simp
    | ok carried =>
      cases carried with
      | none => simp
      | some wire =>
        by_cases size : wire.length < 12 ∨ 1200 < wire.length
        · simp [size]
        · cases parsed : parseQuestion wire <;> simp [size, parsed]

/-- The first form throws where the text of the message has an underscore; elsewhere both forms carry the message. -/
theorem Forms.handleDoh_iff {sha256 : String → List UInt8} {env : Env} {cache : Cache} {exchange : Exchange}
    {wire : Wire} {get post : DohRequest} (forms : Forms wire get post) (nonempty : wire ≠ []) :
    (readQuery sha256 env get = readQuery sha256 env post ∧
      handleDoh sha256 env cache { exchange with request := get } =
        handleDoh sha256 env cache { exchange with request := post }) ↔
    ('_' ∈ b64url wire → ∃ response, Doh.authorize sha256 env get = .error response) := by
  have handled (read : readQuery sha256 env get = readQuery sha256 env post) :
      handleDoh sha256 env cache { exchange with request := get } =
        handleDoh sha256 env cache { exchange with request := post } := by
    unfold handleDoh
    dsimp only
    rw [read]
    rfl
  constructor
  · rintro ⟨-, same⟩ underscore
    cases granted : Doh.authorize sha256 env get with
    | error response => exact ⟨response, rfl⟩
    | ok key =>
      exfalso
      have thrown : (handleDoh sha256 env cache { exchange with request := get }).2 = none := by
        refine handleDoh_eq_none_iff.mpr ⟨⟨key, granted⟩, ?_⟩
        rw [forms.queryWire_get nonempty, if_pos underscore]
      rw [same] at thrown
      obtain ⟨-, failed⟩ := handleDoh_eq_none_iff.mp thrown
      rw [forms.queryWire_post] at failed
      cases failed
  · intro refused
    have read : readQuery sha256 env get = readQuery sha256 env post := by
      rw [readQuery, readQuery, ← forms.authorize sha256 env]
      by_cases underscore : '_' ∈ b64url wire
      · obtain ⟨response, error⟩ := refused underscore
        rw [error]
      · rw [forms.queryWire_get nonempty, if_neg underscore, forms.queryWire_post]
    exact ⟨read, handled read⟩

/-- What was encoded is decoded, both forms of a request carry the same bytes and, if they are let in, lead to the same
question, cache and answer, and a parameter of the alphabet does not make the handler throw, in each case exactly when
there is no underscore in the text. -/
theorem forms_equivalent_iff (sha256 : String → List UInt8) (env : Env) (cache : Cache) (exchange : Exchange) :
    (∀ bytes, b64urlDecode (String.ofList (b64url bytes)) = some bytes ↔ '_' ∉ b64url bytes) ∧
    (∀ wire get post, 12 ≤ wire.length → wire.length ≤ 1200 → Forms wire get post →
      queryWire post = .ok (some wire) ∧ (queryWire get = .ok (some wire) ↔ '_' ∉ b64url wire) ∧
        ((readQuery sha256 env get = readQuery sha256 env post ∧
          handleDoh sha256 env cache { exchange with request := get } =
            handleDoh sha256 env cache { exchange with request := post }) ↔
        ('_' ∈ b64url wire → ∃ response, authorize sha256 env get = .error response))) ∧
    ∀ param key, exchange.request.method = "GET" → exchange.request.searchParams.lookup "dns" = some param →
      authorize sha256 env exchange.request = .ok key → WellFormedParam param →
      ((handleDoh sha256 env cache exchange).2 ≠ none ↔ '_' ∉ param.toList) := by
  refine ⟨fun bytes => ?_, ?_, ?_⟩
  · rw [b64urlDecode_b64url]
    split <;> simp [*]
  · intro wire get post header _ forms
    have nonempty : wire ≠ [] := by
      rintro rfl
      exact absurd header (by decide)
    refine ⟨forms.queryWire_post, ?_, forms.handleDoh_iff nonempty⟩
    rw [forms.queryWire_get nonempty]
    split <;> simp [*]
  · intro param key get given granted wellFormed
    rw [ne_eq, handleDoh_eq_none_iff, and_iff_right ⟨key, granted⟩, not_iff_not]
    by_cases underscore : '_' ∈ param.toList
    · have nonempty : param ≠ "" := by
        rintro rfl
        exact absurd underscore (by decide)
      rw [queryWire_get get given nonempty, b64urlDecode_underscore underscore]
      exact iff_of_true rfl underscore
    · refine iff_of_false ?_ underscore
      by_cases nonempty : param = ""
      · rw [queryWire, if_pos get, given]
        dsimp only
        rw [if_pos nonempty]
        exact nofun
      · obtain ⟨bytes, decoded⟩ := base64UrlBytes_letters wellFormed.1 wellFormed.2
        rw [queryWire_get get given nonempty, b64urlDecode_eq, decoded]
        · exact nofun
        intro char member
        constructor
        · obtain ⟨value, inside, rfl⟩ := wellFormed.2 char member
          exact urlLetter_ne_slash value inside
        · rintro rfl
          exact underscore member

/-! ## What the cache takes for one question -/

/-- A question, in the words of the wire. -/
structure Asked where
  labels : List (List Char)
  qtype : ℕ
  qclass : ℕ
deriving DecidableEq, Repr

/-- The question of a query that is read; `parseQuestion` leaves out where a label ends, and the class. -/
def asked (wire : Wire) : Option Asked := do
  let (labels, rest) ← readLabels wire.length (wire.drop 12)
  if rest.length < 5 then none else some ⟨labels, word rest 1, word rest 3⟩

/-- Without the case of ASCII letters -/
def toLowerAscii (char : Char) : Char :=
  if 65 ≤ char.toNat ∧ char.toNat ≤ 90 then Char.ofNat (char.toNat + 32) else char

/-- A capital letter of Latin-1 outside ASCII -/
def accented (char : Char) : Bool := 0xC0 ≤ char.toNat ∧ char.toNat ≤ 0xDE ∧ char.toNat ≠ 0xD7

def SameQuestion (first second : Asked) : Prop :=
  first.labels.map (List.map toLowerAscii) = second.labels.map (List.map toLowerAscii) ∧
    first.qtype = second.qtype ∧ first.qclass = second.qclass

/-- The classes are the same, the labels end at the same places, and the same letters are accented capitals. -/
def Apart (first second : Asked) : Prop :=
  first.qclass = second.qclass ∧ first.labels.map List.length = second.labels.map List.length ∧
    first.labels.flatten.map accented = second.labels.flatten.map accented

instance (first second : Asked) : Decidable (SameQuestion first second) := inferInstanceAs (Decidable (_ ∧ _))

instance (first second : Asked) : Decidable (Apart first second) := inferInstanceAs (Decidable (_ ∧ _))

/-- A question of the class of the Internet, with no dot and no accented capital in a label. -/
def Plain (question : Asked) : Prop :=
  question.qclass = 1 ∧ ∀ label ∈ question.labels, ∀ char ∈ label, char ≠ '.' ∧ accented char = false

/-- The name and the type that the code keeps of a question. -/
def Asked.question (asked : Asked) : Question :=
  ⟨(List.intercalate ['.'] asked.labels).map toLowerLatin1, asked.qtype⟩

theorem parseQuestion_eq (wire : Wire) : parseQuestion wire = (asked wire).map Asked.question := by
  unfold parseQuestion asked
  cases readLabels wire.length (wire.drop 12) with
  | none => rfl
  | some read =>
    simp only [Option.bind_eq_bind, Option.bind_some]
    split <;> rfl

/-- A label is not empty. -/
theorem readLabels_nonempty {fuel : ℕ} {rest after : Wire} {labels : List (List Char)}
    (read : readLabels fuel rest = some (labels, after)) :
    ∀ label ∈ labels, label ≠ [] := by
  induction fuel, rest using readLabels.induct generalizing labels after with
  | case1 rest =>
    obtain ⟨rfl, -⟩ := Prod.mk.inj (Option.some.inj read)
    exact nofun
  | case2 fuel =>
    obtain ⟨rfl, -⟩ := Prod.mk.inj (Option.some.inj read)
    exact nofun
  | case3 fuel rest =>
    rw [readLabels, if_pos rfl] at read
    obtain ⟨rfl, -⟩ := Prod.mk.inj (Option.some.inj read)
    exact nofun
  | case4 fuel length rest positive long =>
    rw [readLabels, if_neg positive, if_pos long] at read
    contradiction
  | case5 fuel length rest positive inside ih =>
    rw [readLabels, if_neg positive, if_neg inside] at read
    obtain ⟨⟨others, end'⟩, found, same⟩ := Option.map_eq_some_iff.mp read
    obtain ⟨rfl, rfl⟩ := Prod.mk.inj same
    have size : length.toNat ≠ 0 := fun zero => positive (UInt8.toNat_inj.mp zero)
    intro label member
    rcases List.mem_cons.mp member with rfl | later
    · intro empty
      have sizes := congrArg List.length empty
      rw [latin1, List.length_map, List.length_take, List.length_nil] at sizes
      omega
    · exact ih found label later

theorem asked_nonempty {wire : Wire} {question : Asked} (read : asked wire = some question) :
    ∀ label ∈ question.labels, label ≠ [] := by
  obtain ⟨⟨labels, rest⟩, found, whole⟩ := Option.bind_eq_some_iff.mp read
  dsimp only at whole
  split at whole
  · contradiction
  · obtain rfl := Option.some.inj whole
    exact readLabels_nonempty found

/-! ### Letters -/

section

variable {char other : Char}

theorem toNat_small {code : ℕ} (small : code < 0x200) : (Char.ofNat code).toNat = code := by
  have valid : code.isValidChar := .inl (by omega)
  rw [Char.ofNat, dif_pos valid]
  rfl

theorem toNat_toLowerAscii : (toLowerAscii char).toNat =
    if 65 ≤ char.toNat ∧ char.toNat ≤ 90 then char.toNat + 32 else char.toNat := by
  unfold toLowerAscii
  split
  · exact toNat_small (by omega)
  · rfl

theorem toNat_toLowerLatin1 : (toLowerLatin1 char).toNat =
    if (65 ≤ char.toNat ∧ char.toNat ≤ 90) ∨ (0xC0 ≤ char.toNat ∧ char.toNat ≤ 0xDE ∧ char.toNat ≠ 0xD7)
      then char.toNat + 32 else char.toNat := by
  unfold toLowerLatin1
  dsimp only
  split
  · exact toNat_small (by omega)
  · rfl

theorem accented_iff : accented char = true ↔ 0xC0 ≤ char.toNat ∧ char.toNat ≤ 0xDE ∧ char.toNat ≠ 0xD7 := by
  simp [accented]

/-- Two letters that the code takes for one are one in ASCII exactly when both are accented capitals, or none is. -/
theorem toLowerAscii_iff (folded : toLowerLatin1 char = toLowerLatin1 other) :
    toLowerAscii char = toLowerAscii other ↔ accented char = accented other := by
  have codes := congrArg Char.toNat folded
  rw [toNat_toLowerLatin1, toNat_toLowerLatin1] at codes
  rw [← Char.toNat_inj, toNat_toLowerAscii, toNat_toLowerAscii, Bool.eq_iff_iff, accented_iff, accented_iff]
  split_ifs at codes ⊢ <;> omega

theorem toLowerLatin1_eq_dot : toLowerLatin1 char = '.' ↔ char = '.' := by
  have dot : '.'.toNat = 46 := rfl
  rw [← Char.toNat_inj, ← Char.toNat_inj, toNat_toLowerLatin1, dot]
  split_ifs <;> omega

end

/-! ### Names -/

section

variable {labels others : List (List Char)}

theorem map_joined (labels : List (List Char)) : (List.intercalate ['.'] labels).map toLowerLatin1 =
    List.intercalate ['.'] (labels.map (List.map toLowerLatin1)) := by
  have dot : toLowerLatin1 '.' = '.' := by decide
  induction labels with
  | nil => rfl
  | cons label rest ih =>
    cases rest with
    | nil => rw [List.intercalate_singleton, List.map_singleton, List.intercalate_singleton]
    | cons next rest =>
      rw [List.map_cons] at ih ⊢
      rw [List.map_cons, List.intercalate_cons_cons, List.intercalate_cons_cons, List.map_append, List.map_append, ih,
        List.map_singleton, dot]

/-- A joined name whose parts have the same lengths has the same parts. -/
theorem eq_of_joined (lengths : labels.map List.length = others.map List.length)
    (joined : List.intercalate ['.'] labels = List.intercalate ['.'] others) : labels = others := by
  induction labels generalizing others with
  | nil => exact (List.map_eq_nil_iff.mp lengths.symm).symm
  | cons label rest ih =>
    obtain ⟨other, more, rfl, length, tails⟩ := List.map_eq_cons_iff.mp lengths.symm
    cases rest with
    | nil =>
      obtain rfl := List.map_eq_nil_iff.mp tails
      rw [List.intercalate_singleton, List.intercalate_singleton] at joined
      rw [joined]
    | cons next rest =>
      obtain ⟨nextOther, last, rfl, -⟩ := List.map_eq_cons_iff.mp tails
      rw [List.intercalate_cons_cons, List.intercalate_cons_cons, List.append_assoc, List.append_assoc] at joined
      obtain ⟨rfl, behind⟩ := List.append_inj joined length.symm
      rw [ih tails.symm (List.append_cancel_left behind)]

/-- A joined name whose parts have no dots and are not empty has its own parts. -/
theorem eq_of_plain (nonempty : ∀ label ∈ labels ++ others, label ≠ [])
    (plain : ∀ label ∈ labels ++ others, '.' ∉ label)
    (joined : List.intercalate ['.'] labels = List.intercalate ['.'] others) : labels = others := by
  have empty {first : List Char} {rest : List (List Char)} (filled : first ≠ []) :
      List.intercalate ['.'] (first :: rest) ≠ [] := by
    cases rest with
    | nil => rwa [List.intercalate_singleton]
    | cons next rest =>
      rw [List.intercalate_cons_cons, List.append_assoc]
      exact fun nothing => filled (List.append_eq_nil_iff.mp nothing).1
  cases labels with
  | nil =>
    cases others with
    | nil => rfl
    | cons other more => exact absurd joined.symm (empty (nonempty other (by simp)))
  | cons label rest =>
    cases others with
    | nil => exact absurd joined (empty (nonempty label (by simp)))
    | cons other more =>
      have parts := congrArg (List.splitOn '.') joined
      rw [List.splitOn_intercalate '.' (fun part member => plain part (List.mem_append_left _ member)) (by simp),
        List.splitOn_intercalate '.' (fun part member => plain part (List.mem_append_right _ member)) (by simp)] at parts
      exact parts

/-- Letters that the code takes for the same are the same in ASCII exactly when the same ones are accented. -/
theorem map_toLowerAscii_iff {letters more : List Char}
    (folded : letters.map toLowerLatin1 = more.map toLowerLatin1) :
    letters.map toLowerAscii = more.map toLowerAscii ↔ letters.map accented = more.map accented := by
  induction letters generalizing more with
  | nil =>
    obtain rfl := List.map_eq_nil_iff.mp folded.symm
    exact iff_of_true rfl rfl
  | cons letter rest ih =>
    obtain ⟨other, rest', rfl, first, tails⟩ := List.map_eq_cons_iff.mp folded.symm
    rw [List.map_cons, List.map_cons, List.map_cons, List.map_cons, List.cons.injEq, List.cons.injEq,
      ih tails.symm, toLowerAscii_iff first.symm]

end

section

variable {first second : Asked}

theorem sameQuestion_labels : first.labels.map (List.map toLowerAscii) = second.labels.map (List.map toLowerAscii) ↔
    first.labels.flatten.map toLowerAscii = second.labels.flatten.map toLowerAscii ∧
      first.labels.map List.length = second.labels.map List.length := by
  have lengths (labels : List (List Char)) :
      (labels.map (List.map toLowerAscii)).map List.length = labels.map List.length := by
    rw [List.map_map]
    exact List.map_congr_left fun label _ => List.length_map _
  rw [List.eq_iff_flatten_eq, ← List.map_flatten, ← List.map_flatten, lengths, lengths]

/-- What two questions with one name and type in the code must agree in to be the same. -/
theorem sameQuestion_iff (same : first.question = second.question) : SameQuestion first second ↔ Apart first second := by
  obtain ⟨joined, qtype⟩ := Question.mk.inj same
  rw [map_joined, map_joined] at joined
  have folded (lengths : first.labels.map List.length = second.labels.map List.length) :
      first.labels.flatten.map toLowerLatin1 = second.labels.flatten.map toLowerLatin1 := by
    have parts := eq_of_joined (by simpa [List.map_map, Function.comp_def] using lengths) joined
    rw [List.map_flatten, List.map_flatten, parts]
  rw [SameQuestion, Apart, sameQuestion_labels]
  constructor
  · rintro ⟨⟨letters, lengths⟩, -, qclass⟩
    exact ⟨qclass, lengths, (map_toLowerAscii_iff (folded lengths)).mp letters⟩
  · rintro ⟨qclass, lengths, capitals⟩
    exact ⟨⟨(map_toLowerAscii_iff (folded lengths)).mpr capitals, lengths⟩, qtype, qclass⟩

/-- Plain questions with one name and type in the code agree in all that makes them the same. -/
theorem apart_of_plain (nonempty : ∀ label ∈ first.labels ++ second.labels, label ≠ []) (plain : Plain first)
    (plain' : Plain second) (same : first.question = second.question) : Apart first second := by
  have joined := (Question.mk.inj same).1
  rw [map_joined, map_joined] at joined
  have both : ∀ label ∈ first.labels ++ second.labels, ∀ char ∈ label, char ≠ '.' ∧ accented char = false := by
    intro label member
    exact (List.mem_append.mp member).elim (plain.2 label) (plain'.2 label)
  have parts : first.labels.map (List.map toLowerLatin1) = second.labels.map (List.map toLowerLatin1) := by
    apply eq_of_plain _ _ joined
    · intro part member
      rw [← List.map_append] at member
      obtain ⟨label, inside, rfl⟩ := List.mem_map.mp member
      exact fun empty => nonempty label inside (List.map_eq_nil_iff.mp empty)
    · intro part member dot
      rw [← List.map_append] at member
      obtain ⟨label, inside, rfl⟩ := List.mem_map.mp member
      obtain ⟨char, letter, lower⟩ := List.mem_map.mp dot
      exact (both label inside char letter).1 (toLowerLatin1_eq_dot.mp lower)
  have lengths := congrArg (List.map List.length) parts
  have letters := congrArg (List.length ∘ List.flatten) parts
  have unaccented (labels : List (List Char)) (all : ∀ label ∈ labels, ∀ char ∈ label, char ≠ '.' ∧ accented char = false) :
      labels.flatten.map accented = List.replicate labels.flatten.length false := by
    apply List.eq_replicate_iff.mpr
    refine ⟨List.length_map _, fun capital member => ?_⟩
    obtain ⟨char, letter, rfl⟩ := List.mem_map.mp member
    obtain ⟨label, inside, letter⟩ := List.mem_flatten.mp letter
    exact (all label inside char letter).2
  refine ⟨plain.1.trans plain'.1.symm, by simpa [List.map_map, Function.comp_def] using lengths, ?_⟩
  rw [unaccented _ plain.2, unaccented _ plain'.2]
  congr 1
  simpa [← List.map_flatten] using letters

end

/-! ### Keys -/

/-- The text whose digest an entry is found by. -/
def cacheText (key : String) (question : Question) : String :=
  key ++ "|" ++ String.ofList question.name ++ "|" ++ toString question.qtype

theorem hash_inj {sha256 : String → List UInt8} {left right : String} (same : hash sha256 left = hash sha256 right) :
    sha256 left = sha256 right :=
  base64Url_injective (String.ofList_injective same)

/-- What stands behind the last bar can be told from what stands before it. -/
theorem eq_of_bars {left left' right right' : List Char} (bars : '|' ∉ right) (bars' : '|' ∉ right')
    (same : left ++ '|' :: right = left' ++ '|' :: right') : left = left' ∧ right = right' := by
  have reversed := congrArg List.reverse same
  simp only [List.reverse_append, List.reverse_cons, List.append_assoc, List.singleton_append] at reversed
  have first {front back : List Char} (none' : '|' ∉ front) :
      (front.reverse ++ '|' :: back).takeWhile (· ≠ '|') = front.reverse := by
    rw [List.takeWhile_append_of_pos, List.takeWhile_cons_of_neg (by simp), List.append_nil]
    intro char member
    simpa using fun same : char = '|' => none' (same ▸ List.mem_reverse.mp member)
  have ends := congrArg (List.takeWhile (· ≠ '|')) reversed
  rw [first bars, first bars', List.reverse_inj] at ends
  subst ends
  exact ⟨List.append_cancel_right same, rfl⟩

theorem cacheText_inj {key : String} {first second : Question} (same : cacheText key first = cacheText key second) :
    first = second := by
  have letters := congrArg String.toList same
  simp only [cacheText, String.toList_append, String.toList_ofList, List.append_assoc] at letters
  have behind := List.append_cancel_left (List.append_cancel_left letters)
  have bar : "|".toList = ['|'] := by decide
  have decimal (number : ℕ) : (toString number).toList = Nat.toDigits 10 number := by
    rw [Nat.toString_eq_repr, Nat.repr, String.toList_ofList]
  have unbarred (number : ℕ) : '|' ∉ Nat.toDigits 10 number :=
    fun member => absurd (Nat.isDigit_of_mem_toDigits (by decide) (by decide) member) (by decide)
  rw [bar, List.singleton_append, List.singleton_append, decimal, decimal] at behind
  obtain ⟨name, number⟩ := eq_of_bars (unbarred _) (unbarred _) behind
  have qtype : first.qtype = second.qtype := by
    rw [← Nat.ofDigitChars_ten_toDigits (n := first.qtype), number, Nat.ofDigitChars_ten_toDigits]
  cases first
  cases second
  congr

/-! ### Runs -/

section

variable (sha256 : String → List UInt8) (env : Env)

/-- The texts that an exchange digests are among these. -/
def Within (texts : Set String) (_ : Cache) (exchange : Exchange) : Prop :=
  ∀ key wire question, readQuery sha256 env exchange.request = .accepted key wire question →
    key ∈ texts ∧ cacheText key question ∈ texts

/-- The entry that an exchange is answered from, and its own query. -/
def cachedFor (cache : Cache) (exchange : Exchange) : Option (Stored × Wire) :=
  match readQuery sha256 env exchange.request with
  | .rejected _ | .malformed => none
  | .accepted key wire question =>
    if question.qtype ∉ DOH_ALLOWED_QTYPES then none
    else (exchange.lookup cache.answers (cacheKey sha256 key question)).map fun stored => (stored, wire)

/-- Two queries that are read, with questions in a relation. -/
def Asking (relation : Asked → Asked → Prop) (first second : Wire) : Prop :=
  ∃ question question', asked first = some question ∧ asked second = some question' ∧ relation question question'

/-- What is answered from the cache was stored for a query in a relation to the one that is answered. -/
def FromCache (relation : Asked → Asked → Prop) (cache : Cache) (exchange : Exchange) : Prop :=
  ∀ stored wire, cachedFor sha256 env cache exchange = some (stored, wire) → Asking relation stored.asked wire

/-- The query of an exchange, if it is accepted, is plain. -/
def PlainQuery (exchange : Exchange) : Prop :=
  ∀ key wire question, readQuery sha256 env exchange.request = .accepted key wire question →
    ∃ question, asked wire = some question ∧ Plain question

/-- Each entry is kept under the digest for the query that it was stored for, which met the condition. -/
def Entries (texts : Set String) (cond : Asked → Prop) (cache : Cache) : Prop :=
  ∀ text stored, cache.answers.get? text = some stored →
    ∃ key question, asked stored.asked = some question ∧ cond question ∧ text = cacheKey sha256 key question.question ∧
      equalHash (hash sha256 key) env.SUB_TOKEN_HASH = true ∧ key ∈ texts ∧ cacheText key question.question ∈ texts

end

section

variable {sha256 : String → List UInt8} {env : Env} {cache : Cache} {exchange : Exchange} {key : String} {wire : Wire}
  {question : Question} {texts : Set String} {cond : Asked → Prop}

theorem authorize_ok {request : DohRequest} (authorized : authorize sha256 env request = .ok key) :
    equalHash (hash sha256 key) env.SUB_TOKEN_HASH = true := by
  unfold authorize at authorized
  dsimp only at authorized
  split_ifs at authorized with method length wrong typed
  obtain rfl := Except.ok.inj authorized
  exact eq_true_of_ne_false wrong

/-- What an accepted query says: its question, and a key that may ask. -/
theorem readQuery_question (accepted : readQuery sha256 env exchange.request = .accepted key wire question) :
    (∃ whole, asked wire = some whole ∧ whole.question = question) ∧
      equalHash (hash sha256 key) env.SUB_TOKEN_HASH = true := by
  unfold readQuery at accepted
  split at accepted
  · contradiction
  next authorized =>
    split at accepted
    · contradiction
    · contradiction
    split at accepted
    · contradiction
    split at accepted
    · contradiction
    · next parsed =>
      obtain ⟨rfl, rfl, rfl⟩ := Query.accepted.inj accepted
      rw [parseQuestion_eq] at parsed
      exact ⟨Option.map_eq_some_iff.mp parsed, authorize_ok authorized⟩

/-- What the comparison takes for equal has the same bytes. -/
theorem utf8_eq_of_equalHash {left right : String} (equal : equalHash left right = true) : utf8 left = utf8 right := by
  unfold equalHash at equal
  dsimp only at equal
  split at equal
  · contradiction
  · next lengths => exact ((foldl_mismatch_iff (not_not.mp lengths) 0).mp (of_decide_eq_true equal)).2

theorem ascii_hash (text : String) : Ascii (hash sha256 text) := by
  intro char member
  rw [hash, String.toList_ofList, base64Url_eq] at member
  obtain ⟨value, inside, rfl⟩ := List.mem_map.mp member
  have letters : ∀ value < 64, (urlLetter (base64Letter value)).toNat < 0x80 := by decide
  exact letters value (sextets_lt _ value inside)

/-- Two keys that are let in are one. -/
theorem key_unique (distinct : Set.InjOn sha256 texts) {other : String} (member : key ∈ texts) (member' : other ∈ texts)
    (right : equalHash (hash sha256 key) env.SUB_TOKEN_HASH = true)
    (right' : equalHash (hash sha256 other) env.SUB_TOKEN_HASH = true) : key = other := by
  have bytes := (utf8_eq_of_equalHash right).trans (utf8_eq_of_equalHash right').symm
  have letters := congrArg latin1 bytes
  rw [latin1_utf8 (ascii_hash key), latin1_utf8 (ascii_hash other)] at letters
  exact distinct member member' (hash_inj (String.toList_injective letters))

theorem cachedFor_hit {stored : Stored} (accepted : readQuery sha256 env exchange.request = .accepted key wire question)
    (allowed : question.qtype ∈ DOH_ALLOWED_QTYPES)
    (hit : exchange.lookup cache.answers (cacheKey sha256 key question) = some stored) :
    cachedFor sha256 env cache exchange = some (stored, wire) := by
  simp only [cachedFor, accepted, not_not.mpr allowed, if_false, hit, Option.map_some]

/-- What is answered from the cache was stored under the key, for a question with the same name and type. -/
theorem entries_cachedFor (distinct : Set.InjOn sha256 texts) (entries : Entries sha256 env texts cond cache)
    (within : Within sha256 env texts cache exchange) {stored : Stored}
    (cached : cachedFor sha256 env cache exchange = some (stored, wire)) :
    ∃ first second, asked stored.asked = some first ∧ asked wire = some second ∧ cond first ∧
      first.question = second.question ∧ ∃ key, readQuery sha256 env exchange.request = .accepted key wire second.question := by
  unfold cachedFor at cached
  split at cached
  · contradiction
  · contradiction
  next key wire' question read =>
    split at cached
    · contradiction
    obtain ⟨found, lookup, same⟩ := Option.map_eq_some_iff.mp cached
    obtain ⟨rfl, rfl⟩ := Prod.mk.inj same
    have there : cache.answers.get? (cacheKey sha256 key question) = some found := by
      unfold Exchange.lookup at lookup
      split at lookup
      · exact lookup
      · contradiction
    obtain ⟨⟨whole, own, rfl⟩, right⟩ := readQuery_question read
    obtain ⟨member, digested⟩ := within key wire' _ read
    obtain ⟨other, first, before, met, text, right', member', digested'⟩ := entries _ _ there
    obtain rfl := key_unique distinct member member' right right'
    have texts' : cacheText key whole.question = cacheText key first.question :=
      distinct digested digested' (hash_inj (String.append_right_inj _ |>.mp text))
    exact ⟨first, whole, before, own, met, (cacheText_inj texts').symm, key, read⟩

/-- An exchange keeps the entries in order. -/
theorem entries_handleDoh (entries : Entries sha256 env texts cond cache) (within : Within sha256 env texts cache exchange)
    (meets : ∀ key wire question, readQuery sha256 env exchange.request = .accepted key wire question →
      ∃ question, asked wire = some question ∧ cond question) :
    Entries sha256 env texts cond (handleDoh sha256 env cache exchange).1 := by
  unfold handleDoh
  cases read : readQuery sha256 env exchange.request with
  | rejected response => exact entries
  | malformed => exact entries
  | accepted key wire question =>
    dsimp only
    unfold resolve
    split
    · exact entries
    split
    · exact entries
    dsimp only
    split
    · exact entries
    split
    · exact entries
    · next answer answered =>
      obtain ⟨⟨whole, own, rfl⟩, right⟩ := readQuery_question read
      obtain ⟨whole', own', met⟩ := meets _ _ _ read
      obtain rfl := Option.some.inj (own.symm.trans own')
      intro text stored found
      unfold Exchange.put at found
      split at found
      · rw [OrderedMap.get?_alter] at found
        split at found
        · next same =>
          obtain rfl := Option.some.inj found
          exact ⟨key, whole, own, met, same, right, within _ _ _ read⟩
        · exact entries text stored found
      · exact entries text stored found

theorem asking_iff {relation : Asked → Asked → Prop} {wire other : Wire} {first second : Asked}
    (before : asked wire = some first) (own : asked other = some second) :
    Asking relation wire other ↔ relation first second := by
  constructor
  · rintro ⟨question, question', before', own', related⟩
    obtain rfl := Option.some.inj (before.symm.trans before')
    obtain rfl := Option.some.inj (own.symm.trans own')
    exact related
  · intro related
    exact ⟨first, second, before, own, related⟩

/-- Nothing is answered from an empty cache. -/
theorem fromCache_empty (relation : Asked → Asked → Prop) : FromCache sha256 env relation .empty exchange := by
  intro stored wire cached
  unfold cachedFor at cached
  split at cached
  · contradiction
  · contradiction
  · split at cached
    · contradiction
    · obtain ⟨found, lookup, -⟩ := Option.map_eq_some_iff.mp cached
      unfold Exchange.lookup at lookup
      split at lookup <;> contradiction

theorem entries_empty : Entries sha256 env texts cond .empty := fun _ _ found => nomatch found

end

/-- Over a run from an empty cache in which no two texts have one digest, the cache mixes no questions exactly when
no answer is found for a question of another class, with other ends of labels, or with other accented capitals. It
mixes none where all queries are plain. -/
theorem cache_unmixed_iff {sha256 : String → List UInt8} {env : Env} {texts : Set String}
    (distinct : Set.InjOn sha256 texts) {exchanges : List Exchange} {cache : Cache}
    (run : (machine sha256 env).Run (Within sha256 env texts) .empty exchanges cache) :
    ((machine sha256 env).Run (FromCache sha256 env SameQuestion) .empty exchanges cache ↔
      (machine sha256 env).Run (FromCache sha256 env Apart) .empty exchanges cache) ∧
    ((machine sha256 env).Run (fun _ exchange => PlainQuery sha256 env exchange) .empty exchanges cache →
      (machine sha256 env).Run (FromCache sha256 env SameQuestion) .empty exchanges cache) := by
  constructor
  · apply run.steps_iff_given (Entries sha256 env texts fun _ => True) _ _ entries_empty
    · intro cache exchange next entries within _
      refine forall₂_congr fun stored wire => forall_congr' fun cached => ?_
      obtain ⟨first, second, before, own, -, same, -⟩ := entries_cachedFor distinct entries within cached
      rw [asking_iff before own, asking_iff before own, sameQuestion_iff same]
    · intro cache exchange next entries within _ stepped
      refine Option.some.inj stepped ▸ entries_handleDoh entries within fun key wire question read => ?_
      obtain ⟨⟨whole, own, -⟩, -⟩ := readQuery_question read
      exact ⟨whole, own, trivial⟩
  · intro plain
    apply ((run.both plain).steps_iff_given (Entries sha256 env texts Plain) _ _ entries_empty).mpr run
    · intro cache exchange next entries given _
      refine iff_of_true ?_ given.1
      intro stored wire cached
      obtain ⟨first, second, before, own, met, same, key, read⟩ := entries_cachedFor distinct entries given.1 cached
      obtain ⟨second', own', met'⟩ := given.2 _ _ _ read
      obtain rfl := Option.some.inj (own.symm.trans own')
      rw [asking_iff before own, sameQuestion_iff same]
      apply apart_of_plain _ met met' same
      intro label member
      exact (List.mem_append.mp member).elim (asked_nonempty before label) (asked_nonempty own label)
    · intro cache exchange next entries given _ stepped
      exact Option.some.inj stepped ▸ entries_handleDoh entries given.1 given.2

namespace Sample

def get (wire : Wire) : DohRequest := ⟨"GET", [("k", key), ("dns", String.ofList (b64url wire))], none, []⟩

/-- The question for `a.ir`, of another class. -/
def chaos : Wire := [0, 2, 1, 0, 0, 1, 0, 0, 0, 0, 0, 0, 1, 97, 2, 105, 114, 0, 0, 1, 0, 3]

/-- The question for `A.IR`. -/
def capital : Wire := [0, 2, 1, 0, 0, 1, 0, 0, 0, 0, 0, 0, 1, 65, 2, 73, 82, 0, 0, 1, 0, 1]

/-- The question for a name of one label, in which there is a dot. -/
def dotted : Wire := [0, 2, 1, 0, 0, 1, 0, 0, 0, 0, 0, 0, 4, 97, 46, 105, 114, 0, 0, 1, 0, 1]

/-- The question for `a.ir`, with an identifier that begins with the byte FF. -/
def marked : Wire := 0xFF :: (query 1 1).drop 1

/-- What an exchange is answered from after the first query -/
def mixed (wire : Wire) : Option (Option Asked × Option Asked) :=
  (cachedFor utf8 env cache (exchange wire)).map fun (stored, wire) => (asked stored.asked, asked wire)

/-- Whatever asks for the address of `a.ir` is answered from what was stored for the first query. -/
theorem mixed_eq {wire : Wire} (sizes : ¬ (wire.length < 12 ∨ 1200 < wire.length))
    (parsed : parseQuestion wire = some air) : mixed wire = some (asked (query 1 1), asked wire) := by
  rw [mixed, cachedFor_hit (readQuery_exchange sizes parsed) (by decide) (lookup_cache wire), Option.map_some, first]

theorem fromCache {wire : Wire} {first second : Asked} {relation : Asked → Asked → Prop}
    (found : mixed wire = some (some first, some second)) (related : relation first second) :
    FromCache utf8 env relation cache (exchange wire) := by
  intro stored wire' cached
  obtain ⟨⟨stored', wire''⟩, cached', same⟩ := Option.map_eq_some_iff.mp found
  obtain ⟨rfl, rfl⟩ := Prod.mk.inj (Option.some.inj (cached'.symm.trans cached))
  obtain ⟨before, own⟩ := Prod.mk.inj same
  exact (asking_iff before own).mpr related

theorem not_unmixed {wire : Wire} {first second : Asked} (found : mixed wire = some (some first, some second))
    (different : ¬ SameQuestion first second) : ¬ ∃ final, (machine utf8 env).Run (FromCache utf8 env SameQuestion) .empty
      [exchange (query 1 1), exchange wire] final := by
  rintro ⟨final, run⟩
  obtain ⟨-, middle, stepped, run⟩ := Machine.Run.cons_iff.mp run
  obtain rfl := Option.some.inj stepped
  obtain ⟨unmixed, -⟩ := Machine.Run.cons_iff.mp run
  obtain ⟨⟨stored, wire'⟩, cached, same⟩ := Option.map_eq_some_iff.mp found
  obtain ⟨before, own⟩ := Prod.mk.inj same
  exact different ((asking_iff before own).mp (unmixed stored wire' cached))

end Sample

/-- A query without an underscore in its text, and a parameter with none. -/
theorem forms_equivalent_iff_first :
    handleDoh utf8 Sample.env .empty { Sample.exchange (Sample.query 1 1) with request := Sample.get (Sample.query 1 1) } =
      handleDoh utf8 Sample.env .empty (Sample.exchange (Sample.query 1 1)) ∧
    (handleDoh utf8 Sample.env .empty
      { Sample.exchange (Sample.query 1 1) with request := Sample.get (Sample.query 1 1) }).2 ≠ none := by
  have absent : '_' ∉ b64url (Sample.query 1 1) := by decide
  constructor
  · exact (((forms_equivalent_iff utf8 Sample.env .empty (Sample.exchange (Sample.query 1 1))).2.1 (Sample.query 1 1)
      (Sample.get (Sample.query 1 1)) (Sample.exchange (Sample.query 1 1)).request (by decide) (by decide)
      ⟨rfl, rfl, rfl, by decide, rfl, rfl⟩).2.2.mpr fun member => absurd member absent).2
  · refine ((forms_equivalent_iff utf8 Sample.env .empty
      { Sample.exchange (Sample.query 1 1) with request := Sample.get (Sample.query 1 1) }).2.2
      (String.ofList (b64url (Sample.query 1 1))) Sample.key rfl rfl (Sample.authorize_key rfl (.inl rfl)) ?_).mpr ?_
    · rw [WellFormedParam, String.toList_ofList]
      exact ⟨by decide, fun char member => base64Url_letter member⟩
    · rwa [String.toList_ofList]

/-- A query that begins with the byte FF is answered in a body, and throws in the path. -/
theorem marked_forms_differ :
    Forms Sample.marked (Sample.get Sample.marked) (Sample.exchange Sample.marked).request ∧
    12 ≤ Sample.marked.length ∧ Sample.marked.length ≤ 1200 ∧
    b64urlDecode (String.ofList (b64url Sample.marked)) ≠ some Sample.marked ∧
    (handleDoh utf8 Sample.env .empty
      { Sample.exchange Sample.marked with request := Sample.get Sample.marked }).2 = none ∧
    Sample.sent .empty Sample.marked = some (some "application/dns-message", [0xFF, 1], 38, 1) := by
  have forms : Forms Sample.marked (Sample.get Sample.marked) (Sample.exchange Sample.marked).request :=
    ⟨rfl, rfl, rfl, by decide, rfl, rfl⟩
  have underscore : '_' ∈ b64url Sample.marked := by decide
  have granted : authorize utf8 Sample.env (Sample.get Sample.marked) = .ok Sample.key :=
    Sample.authorize_key rfl (.inl rfl)
  refine ⟨forms, by decide, by decide, ?_, ?_, ?_⟩
  · rw [b64urlDecode_b64url, if_pos underscore]
    exact nofun
  · refine handleDoh_eq_none_iff.mpr ⟨⟨Sample.key, granted⟩, ?_⟩
    rw [forms.queryWire_get (by decide), if_pos underscore]
  · have answer : (Sample.exchange Sample.marked).upstream.answer? (upstreamHost Sample.air) Sample.marked =
        some ([0xFF, 1] ++ Sample.answered) := rfl
    have read : readQuery utf8 Sample.env (Sample.exchange Sample.marked).request =
        .accepted Sample.key Sample.marked Sample.air :=
      Sample.readQuery_exchange (by decide) (by decide)
    rw [Sample.sent, handleDoh_accepted read, resolve_fresh (by decide) rfl (by decide) answer]
    decide

/-- A query for `a.ir`, and one for `A.IR`, which is answered from the cache. -/
theorem cache_unmixed_first :
    Sample.mixed Sample.capital = some (some ⟨[['a'], ['i', 'r']], 1, 1⟩, some ⟨[['A'], ['I', 'R']], 1, 1⟩) ∧
    (machine utf8 Sample.env).Run (FromCache utf8 Sample.env SameQuestion) .empty
      [Sample.exchange (Sample.query 1 1), Sample.exchange Sample.capital]
      (handleDoh utf8 Sample.env Sample.cache (Sample.exchange Sample.capital)).1 := by
  have hit : Sample.mixed Sample.capital =
      some (some ⟨[['a'], ['i', 'r']], 1, 1⟩, some ⟨[['A'], ['I', 'R']], 1, 1⟩) :=
    (Sample.mixed_eq (by decide) (by decide)).trans (by decide)
  have run : (machine utf8 Sample.env).Run (Within utf8 Sample.env Set.univ) .empty
      [Sample.exchange (Sample.query 1 1), Sample.exchange Sample.capital]
      (handleDoh utf8 Sample.env Sample.cache (Sample.exchange Sample.capital)).1 :=
    .cons (fun _ _ _ _ => ⟨trivial, trivial⟩) rfl (.cons (fun _ _ _ _ => ⟨trivial, trivial⟩) rfl (.nil _))
  have distinct : Set.InjOn utf8 Set.univ := fun _ _ _ _ same => utf8_injective same
  refine ⟨hit, (cache_unmixed_iff distinct run).1.mpr ?_⟩
  exact .cons (fromCache_empty _) rfl (.cons (Sample.fromCache hit (by decide)) rfl (.nil _))

/-- After a query for `a.ir`, one of another class and one for a single label with a dot in it are answered from what
was stored for it, though no two texts have one digest. -/
theorem cache_mixes : Function.Injective utf8 ∧
    (¬ ∃ final, (machine utf8 Sample.env).Run (FromCache utf8 Sample.env SameQuestion) .empty
      [Sample.exchange (Sample.query 1 1), Sample.exchange Sample.chaos] final) ∧
    ¬ ∃ final, (machine utf8 Sample.env).Run (FromCache utf8 Sample.env SameQuestion) .empty
      [Sample.exchange (Sample.query 1 1), Sample.exchange Sample.dotted] final := by
  have chaos : Sample.mixed Sample.chaos =
      some (some ⟨[['a'], ['i', 'r']], 1, 1⟩, some ⟨[['a'], ['i', 'r']], 1, 3⟩) :=
    (Sample.mixed_eq (by decide) (by decide)).trans (by decide)
  have dotted : Sample.mixed Sample.dotted =
      some (some ⟨[['a'], ['i', 'r']], 1, 1⟩, some ⟨[['a', '.', 'i', 'r']], 1, 1⟩) :=
    (Sample.mixed_eq (by decide) (by decide)).trans (by decide)
  exact ⟨fun _ _ => utf8_injective, Sample.not_unmixed chaos (by decide), Sample.not_unmixed dotted (by decide)⟩

end OmniControlPlane.DataPlane.Doh
