import Mathlib.Data.List.Pairwise
import OmniControlPlane.Lib.Aead
import OmniControlPlane.Lib.Base64
import OmniControlPlane.Lib.Json

/-! # Encrypted envelopes

`encryptJson` wraps a fresh data key under the encryption key and encrypts the value under the data key.
Both layers carry the context as associated data, with a suffix of their own. `decryptJson` also reads
the envelopes of the first version, which have one layer and no suffix.

Under an ideal cipher with fresh keys and nonces, what is assembled from parts of envelopes is accepted
only if it is an envelope, under its own key and context.
-/

namespace OmniControlPlane.Security

open OmniControlPlane.Lib

inductive EnvelopeError where
  | invalidCharacter
  | keyLength
  | dataKeyLength
  | operation
  | unsupported
  | notJson
deriving DecidableEq, Repr

def importEncryptionKey (encodedKey : String) : Except EnvelopeError (List UInt8) :=
  match base64UrlBytes encodedKey.toList with
  | none => .error .invalidCharacter
  | some raw => if raw.length = 32 then .ok raw else .error .keyLength

/-- `JSON.stringify(value)`, as bytes. -/
def encode (value : Json) : List UInt8 := utf8 (String.ofList (Json.write Json.compact 0 value))

def wrapContext (aad : String) : List UInt8 := utf8 (aad ++ "|dek")

def dataContext (aad : String) : List UInt8 := utf8 (aad ++ "|data")

/-- `parts.join(".")` -/
def joinParts (parts : List (List Char)) : String := String.ofList (List.intercalate ['.'] parts)

/-- What a call of `encryptJson` draws at random. -/
structure Drawn where
  dataKey : List UInt8
  wrapNonce : List UInt8
  dataNonce : List UInt8
  dataKey_length : dataKey.length = 32
  wrapNonce_length : wrapNonce.length = 12
  dataNonce_length : dataNonce.length = 12

section

variable (aead : Aead)

def encryptJson (value : Json) (encodedKey aad : String) (drawn : Drawn) : Except EnvelopeError String := do
  let keyEncryptionKey ← importEncryptionKey encodedKey
  let wrappedDataKey := aead.encrypt ⟨keyEncryptionKey, drawn.wrapNonce, wrapContext aad, drawn.dataKey⟩
  let ciphertext := aead.encrypt ⟨drawn.dataKey, drawn.dataNonce, dataContext aad, encode value⟩
  return joinParts ["v2".toList, base64Url drawn.wrapNonce, base64Url wrappedDataKey, base64Url drawn.dataNonce,
    base64Url ciphertext]

def bytes (part : List Char) : Except EnvelopeError (List UInt8) :=
  match base64UrlBytes part with
  | none => .error .invalidCharacter
  | some bytes => .ok bytes

/-- `crypto.subtle.decrypt`, of encoded parts. -/
def decryptParts (key : List UInt8) (iv : List Char) (context : List UInt8) (ciphertext : List Char) :
    Except EnvelopeError (List UInt8) := do
  let iv ← bytes iv
  let ciphertext ← bytes ciphertext
  match aead.decrypt key iv context ciphertext with
  | none => .error .operation
  | some plaintext => .ok plaintext

/-- `JSON.parse(decoder.decode(plaintext))` -/
def parseJson (plaintext : List UInt8) : Except EnvelopeError Json :=
  match Json.parse (decodeUtf8 plaintext).toList with
  | none => .error .notJson
  | some value => .ok value

/-- The parts of an envelope, by its version. -/
inductive Layout where
  | v1 (iv ciphertext : List Char)
  | v2 (wrapNonce wrappedDataKey dataNonce ciphertext : List Char)
deriving DecidableEq

def layout? : List (List Char) → Option Layout
  | [version, iv, ciphertext] =>
    if version = "v1".toList ∧ iv ≠ [] ∧ ciphertext ≠ [] then some (.v1 iv ciphertext) else none
  | [version, wrapNonce, wrappedDataKey, dataNonce, ciphertext] =>
    if version = "v2".toList ∧ wrapNonce ≠ [] ∧ wrappedDataKey ≠ [] ∧ dataNonce ≠ [] ∧ ciphertext ≠ [] then
      some (.v2 wrapNonce wrappedDataKey dataNonce ciphertext)
    else none
  | _ => none

def decryptV1 (key : List UInt8) (aad : String) (iv ciphertext : List Char) : Except EnvelopeError Json := do
  let plaintext ← decryptParts aead key iv (utf8 aad) ciphertext
  parseJson plaintext

def decryptV2 (key : List UInt8) (aad : String) (wrapNonce wrappedDataKey dataNonce ciphertext : List Char) :
    Except EnvelopeError Json := do
  let dataKey ← decryptParts aead key wrapNonce (wrapContext aad) wrappedDataKey
  if dataKey.length ∉ [16, 24, 32] then
    throw .dataKeyLength
  let plaintext ← decryptParts aead dataKey dataNonce (dataContext aad) ciphertext
  parseJson plaintext

def decryptJson (envelope encodedKey aad : String) : Except EnvelopeError Json := do
  let keyEncryptionKey ← importEncryptionKey encodedKey
  match layout? (envelope.toList.splitOn '.') with
  | some (.v1 iv ciphertext) => decryptV1 aead keyEncryptionKey aad iv ciphertext
  | some (.v2 wrapNonce wrappedDataKey dataNonce ciphertext) =>
    decryptV2 aead keyEncryptionKey aad wrapNonce wrappedDataKey dataNonce ciphertext
  | none => throw .unsupported

end

/-! ## Envelopes -/

/-- What an envelope holds, and what it is bound to. -/
structure Content where
  key : List UInt8
  aad : String
  value : Json
  key_length : key.length = 32
  written : value.Written

/-- An envelope that was made, with what was drawn for it. -/
inductive Envelope where
  | v1 (content : Content) (iv : List UInt8) (iv_length : iv.length = 12)
  | v2 (content : Content) (drawn : Drawn)

namespace Envelope

def content : Envelope → Content
  | v1 content _ _ => content
  | v2 content _ => content

/-- The calls of the cipher that made it. -/
def sealings : Envelope → List Sealing
  | v1 content iv _ => [⟨content.key, iv, utf8 content.aad, encode content.value⟩]
  | v2 content drawn => [⟨content.key, drawn.wrapNonce, wrapContext content.aad, drawn.dataKey⟩,
      ⟨drawn.dataKey, drawn.dataNonce, dataContext content.aad, encode content.value⟩]

def dataKeys : Envelope → List (List UInt8)
  | v1 .. => []
  | v2 _ drawn => [drawn.dataKey]

def version : Envelope → List Char
  | v1 .. => "v1".toList
  | v2 .. => "v2".toList

variable (aead : Aead)

/-- What the parts after the version encode. -/
def fields (envelope : Envelope) : List (List UInt8) :=
  envelope.sealings.flatMap fun sealing => [sealing.nonce, aead.encrypt sealing]

def parts (envelope : Envelope) : List (List Char) := envelope.version :: (envelope.fields aead).map base64Url

def text (envelope : Envelope) : String := joinParts (envelope.parts aead)

end Envelope

/-- All nonces and data keys are new; no key is the data key of another envelope, or the text of a value. -/
structure Fresh (made : List Envelope) : Prop where
  nonces : ((made.flatMap Envelope.sealings).map (·.nonce)).Nodup
  dataKeys : (made.flatMap Envelope.dataKeys).Nodup
  keys : ∀ key ∈ made.map (·.content.key), key ∉ made.flatMap Envelope.dataKeys
  texts : ∀ text ∈ made.map (fun envelope => encode envelope.content.value),
    text ∉ made.map (·.content.key) ∧ text ∉ made.flatMap Envelope.dataKeys

/-- The cipher is ideal, and all it sealed are the layers of envelopes. -/
abbrev Sealed (aead : Aead) (made : List Envelope) : Prop :=
  aead.Ideal (· ∈ made.flatMap Envelope.sealings)

/-! ## Contexts -/

theorem wrapContext_injective {left right : String} (same : wrapContext left = wrapContext right) : left = right := by
  have joined := congrArg String.toList (utf8_injective same)
  rw [String.toList_append, String.toList_append] at joined
  exact String.toList_inj.mp (List.append_cancel_right joined)

/-- The two suffixes keep the layers apart, whatever the contexts are. -/
theorem wrapContext_ne_dataContext (left right : String) : wrapContext left ≠ dataContext right := by
  intro same
  have joined := congrArg String.toList (utf8_injective same)
  rw [String.toList_append, String.toList_append] at joined
  have last := congrArg List.getLast? joined
  rw [List.getLast?_append_of_ne_nil _ (by decide), List.getLast?_append_of_ne_nil _ (by decide)] at last
  exact absurd last (by decide)

/-! ## What the cipher opens -/

section

variable {aead : Aead} {made : List Envelope} {envelope other : Envelope} {key context plaintext : List UInt8}
  {aad : String} {value : Json}

theorem ok_bind {α β : Type} (a : α) (next : α → Except EnvelopeError β) : (Except.ok a >>= next) = next a := rfl

theorem owner_eq {α β : Type*} {items : α → List β} {owners : List α} (distinct : (owners.flatMap items).Nodup)
    {first second : α} (one : first ∈ owners) (two : second ∈ owners) {item : β} (inFirst : item ∈ items first)
    (inSecond : item ∈ items second) : first = second := by
  by_contra different
  have : Std.Symm (Function.onFun List.Disjoint items) := ⟨fun _ _ apart _ one two => apart two one⟩
  exact (List.nodup_flatMap.mp distinct).2.forall one two different inFirst inSecond

/-- A nonce belongs to one layer of one envelope. -/
theorem Fresh.owner (fresh : Fresh made) (one : envelope ∈ made) (two : other ∈ made) {sealing sealing' : Sealing}
    (first : sealing ∈ envelope.sealings) (second : sealing' ∈ other.sealings) (nonce : sealing.nonce = sealing'.nonce) :
    envelope = other := by
  have same : sealing = sealing' := List.inj_on_of_nodup_map fresh.nonces (List.mem_flatMap.mpr ⟨_, one, first⟩)
    (List.mem_flatMap.mpr ⟨_, two, second⟩) nonce
  exact owner_eq fresh.nonces.of_map one two first (same ▸ second)

theorem mem_sealings {nonce : List UInt8} (member : ⟨key, nonce, context, plaintext⟩ ∈ made.flatMap Envelope.sealings) :
    (∃ content iv iv_length, .v1 content iv iv_length ∈ made ∧ key = content.key ∧ nonce = iv ∧
      context = utf8 content.aad ∧ plaintext = encode content.value) ∨
    (∃ content drawn, .v2 content drawn ∈ made ∧ key = content.key ∧ nonce = drawn.wrapNonce ∧
      context = wrapContext content.aad ∧ plaintext = drawn.dataKey) ∨
    ∃ content drawn, .v2 content drawn ∈ made ∧ key = drawn.dataKey ∧ nonce = drawn.dataNonce ∧
      context = dataContext content.aad ∧ plaintext = encode content.value := by
  obtain ⟨envelope, inMade, layer⟩ := List.mem_flatMap.mp member
  cases envelope with
  | v1 content iv iv_length =>
    obtain ⟨rfl, rfl, rfl, rfl⟩ := Sealing.mk.inj (List.mem_singleton.mp layer)
    exact .inl ⟨content, _, iv_length, inMade, rfl, rfl, rfl, rfl⟩
  | v2 content drawn =>
    rcases List.mem_pair.mp layer with wrap | data
    · obtain ⟨rfl, rfl, rfl, rfl⟩ := Sealing.mk.inj wrap
      exact .inr (.inl ⟨content, drawn, inMade, rfl, rfl, rfl, rfl⟩)
    · obtain ⟨rfl, rfl, rfl, rfl⟩ := Sealing.mk.inj data
      exact .inr (.inr ⟨content, drawn, inMade, rfl, rfl, rfl, rfl⟩)

theorem decryptParts_ok {iv ciphertext : List Char} (opened : decryptParts aead key iv context ciphertext = .ok plaintext) :
    ∃ nonce sealed, base64UrlBytes iv = some nonce ∧ base64UrlBytes ciphertext = some sealed ∧
      aead.decrypt key nonce context sealed = some plaintext := by
  unfold decryptParts bytes at opened
  cases first : base64UrlBytes iv with
  | none =>
    rw [first] at opened
    contradiction
  | some nonce =>
    cases second : base64UrlBytes ciphertext with
    | none =>
      rw [first, second] at opened
      contradiction
    | some sealed =>
      rw [first, second] at opened
      change (match aead.decrypt key nonce context sealed with | none => _ | some plaintext => _) = _ at opened
      split at opened
      · contradiction
      · next given =>
        cases opened
        exact ⟨nonce, sealed, rfl, rfl, given⟩

/-- Parts that are opened encode a nonce and what was sealed with it. -/
theorem decrypted (sealed : Sealed aead made) {iv ciphertext : List Char}
    (opened : decryptParts aead key iv context ciphertext = .ok plaintext) :
    ∃ nonce, base64UrlBytes iv = some nonce ∧ ⟨key, nonce, context, plaintext⟩ ∈ made.flatMap Envelope.sealings ∧
      base64UrlBytes ciphertext = some (aead.encrypt ⟨key, nonce, context, plaintext⟩) := by
  obtain ⟨nonce, ciphertext', first, second, decrypted⟩ := decryptParts_ok opened
  obtain ⟨member, rfl⟩ := sealed.forges decrypted
  exact ⟨nonce, first, member, second⟩

/-- A value is read back from its text. -/
theorem parseJson_encode (written : value.Written) : parseJson (encode value) = .ok value := by
  have unmarked : ∀ char ∈ (String.ofList (Json.write Json.compact 0 value)).toList.head?, char.toNat ≠ 0xFEFF := by
    rw [String.toList_ofList]
    exact Json.write_unmarked written
  rw [parseJson, encode, decodeUtf8_utf8 unmarked, String.toList_ofList, Json.parse_written written]

/-- The branch of the second version accepts the four parts of an envelope, under its key and context. -/
theorem decryptV2_accepts (fresh : Fresh made) (sealed : Sealed aead made) {p q r s : List Char}
    (accepted : decryptV2 aead key aad p q r s = .ok value) :
    ∃ content drawn, .v2 content drawn ∈ made ∧ content.key = key ∧ content.aad = aad ∧ content.value = value ∧
      [p, q, r, s].map base64UrlBytes = ((Envelope.v2 content drawn).fields aead).map some := by
  unfold decryptV2 at accepted
  cases wrap : decryptParts aead key p (wrapContext aad) q with
  | error => rw [wrap] at accepted; contradiction
  | ok dataKey =>
    cases data : decryptParts aead dataKey r (dataContext aad) s with
    | error =>
      rw [wrap, ok_bind, data] at accepted
      split at accepted <;> contradiction
    | ok plaintext =>
      rw [wrap, ok_bind, data] at accepted
      have parsed : parseJson plaintext = .ok value := by
        split at accepted
        · contradiction
        · exact accepted
      obtain ⟨nonce, first, layer, second⟩ := decrypted sealed wrap
      obtain ⟨nonce', third, layer', fourth⟩ := decrypted sealed data
      rcases mem_sealings layer' with ⟨holder, iv, iv_length, inMade', rfl, rfl, suffix, rfl⟩ |
        ⟨holder, drawn', inMade', rfl, rfl, suffix, rfl⟩ | ⟨content', drawn', inMade', rfl, rfl, suffix, rfl⟩
      · -- the data key would be an encryption key
        exfalso
        have isKey : holder.key ∈ made.map (·.content.key) := List.mem_map.mpr ⟨_, inMade', rfl⟩
        rcases mem_sealings layer with ⟨_, _, _, inMade, -, -, -, same⟩ | ⟨_, _, inMade, -, -, -, same⟩ |
          ⟨_, _, inMade, -, -, context, -⟩
        · exact (fresh.texts _ (List.mem_map.mpr ⟨_, inMade, rfl⟩)).1 (same ▸ isKey)
        · exact fresh.keys _ isKey (List.mem_flatMap.mpr ⟨_, inMade, List.mem_singleton.mpr same⟩)
        · exact wrapContext_ne_dataContext _ _ context
      · exact absurd suffix.symm (wrapContext_ne_dataContext _ _)
      · have isDataKey : drawn'.dataKey ∈ (Envelope.v2 content' drawn').dataKeys := List.mem_singleton.mpr rfl
        rcases mem_sealings layer with ⟨_, _, _, inMade, -, -, -, same⟩ | ⟨content, drawn, inMade, rfl, rfl, context, same⟩ |
          ⟨_, _, inMade, -, -, context, -⟩
        · exact ((fresh.texts _ (List.mem_map.mpr ⟨_, inMade, rfl⟩)).2
            (List.mem_flatMap.mpr ⟨_, inMade', List.mem_singleton.mpr same.symm⟩)).elim
        · obtain ⟨rfl, rfl⟩ := Envelope.v2.inj (owner_eq fresh.dataKeys inMade inMade'
            (List.mem_singleton.mpr same) isDataKey)
          refine ⟨content, drawn, inMade, rfl, (wrapContext_injective context).symm, ?_, ?_⟩
          · rw [parseJson_encode content.written] at parsed
            exact Except.ok.inj parsed
          · obtain rfl := wrapContext_injective context
            simp only [List.map_cons, List.map_nil, first, second, third, fourth]
            rfl
        · exact absurd context (wrapContext_ne_dataContext _ _)

/-- The branch of the first version accepts the parts of an envelope of its own, under its key and context.
What else it opens are the layers of the second version: a data key, or a value under a data key. -/
theorem decryptV1_accepts (sealed : Sealed aead made) {iv ciphertext : List Char}
    (accepted : decryptV1 aead key aad iv ciphertext = .ok value) :
    (∃ content nonce iv_length, .v1 content nonce iv_length ∈ made ∧ content.key = key ∧ content.aad = aad ∧
      content.value = value ∧
      [iv, ciphertext].map base64UrlBytes = ((Envelope.v1 content nonce iv_length).fields aead).map some) ∨
    (∃ dataKey ∈ made.flatMap Envelope.dataKeys, parseJson dataKey = .ok value) ∨
    key ∈ made.flatMap Envelope.dataKeys := by
  unfold decryptV1 at accepted
  cases opened : decryptParts aead key iv (utf8 aad) ciphertext with
  | error => rw [opened] at accepted; contradiction
  | ok plaintext =>
    rw [opened, ok_bind] at accepted
    obtain ⟨nonce, first, layer, second⟩ := decrypted sealed opened
    rcases mem_sealings layer with ⟨content, nonce, iv_length, inMade, rfl, rfl, context, rfl⟩ |
      ⟨content, drawn, inMade, -, -, -, rfl⟩ | ⟨content, drawn, inMade, rfl, -⟩
    · obtain rfl := utf8_injective context
      refine .inl ⟨content, _, iv_length, inMade, rfl, rfl, ?_, ?_⟩
      · rw [parseJson_encode content.written] at accepted
        exact Except.ok.inj accepted
      · simp only [List.map_cons, List.map_nil, first, second]
        rfl
    · exact .inr (.inl ⟨_, List.mem_flatMap.mpr ⟨_, inMade, List.mem_singleton.mpr rfl⟩, accepted⟩)
    · exact .inr (.inr (List.mem_flatMap.mpr ⟨_, inMade, List.mem_singleton.mpr rfl⟩))

/-! ## Parts -/

theorem layout?_v1 {parts : List (List Char)} {iv ciphertext : List Char} (read : layout? parts = some (.v1 iv ciphertext)) :
    parts = ["v1".toList, iv, ciphertext] := by
  unfold layout? at read
  split at read
  · split at read
    · next given =>
      cases read
      rw [given.1]
    · contradiction
  · split at read
    · cases read
    · contradiction
  · contradiction

theorem layout?_v2 {parts : List (List Char)} {p q r s : List Char} (read : layout? parts = some (.v2 p q r s)) :
    parts = ["v2".toList, p, q, r, s] := by
  unfold layout? at read
  split at read
  · split at read
    · cases read
    · contradiction
  · split at read
    · next given =>
      cases read
      rw [given.1]
    · contradiction
  · contradiction

/-- A nonce has twelve bytes, and a ciphertext at least its tag. -/
theorem fields_long {field : List UInt8} (member : field ∈ envelope.fields aead) : 12 ≤ field.length := by
  cases envelope with
  | v1 content iv iv_length =>
    simp only [Envelope.fields, Envelope.sealings, List.flatMap_cons, List.flatMap_nil, List.append_nil, List.mem_cons,
      List.not_mem_nil, or_false] at member
    rcases member with rfl | rfl
    · omega
    · rw [aead.encrypt_length]
      omega
  | v2 content drawn =>
    simp only [Envelope.fields, Envelope.sealings, List.flatMap_cons, List.flatMap_nil, List.append_nil, List.mem_cons,
      List.not_mem_nil, or_false, List.cons_append, List.nil_append] at member
    rcases member with rfl | rfl | rfl | rfl
    · rw [drawn.wrapNonce_length]
    · rw [aead.encrypt_length]
      omega
    · rw [drawn.dataNonce_length]
    · rw [aead.encrypt_length]
      omega

theorem version_short (envelope : Envelope) : ∃ field, base64UrlBytes envelope.version = some field ∧ field.length = 1 := by
  cases envelope with
  | v1 => exact ⟨[191], (by decide : base64UrlBytes "v1".toList = some [191]), rfl⟩
  | v2 => exact ⟨[191], (by decide : base64UrlBytes "v2".toList = some [191]), rfl⟩

/-- A part that encodes twelve bytes or more is how they are encoded. -/
theorem canonical {part : List Char} (member : part ∈ envelope.parts aead) {field : List UInt8}
    (read : base64UrlBytes part = some field) (long : 12 ≤ field.length) :
    part = base64Url field ∧ field ∈ envelope.fields aead := by
  rcases List.mem_cons.mp member with rfl | inFields
  · obtain ⟨short, given, length⟩ := version_short envelope
    obtain rfl := Option.some.inj (read.symm.trans given)
    omega
  · obtain ⟨given, holds, rfl⟩ := List.mem_map.mp inFields
    rw [base64UrlBytes_base64Url] at read
    obtain rfl := Option.some.inj read
    exact ⟨rfl, holds⟩

theorem part_plain {part : List Char} (member : part ∈ envelope.parts aead) : '.' ∉ part := by
  rcases List.mem_cons.mp member with rfl | inFields
  · cases envelope with
    | v1 => exact (by decide : '.' ∉ "v1".toList)
    | v2 => exact (by decide : '.' ∉ "v2".toList)
  · obtain ⟨field, -, rfl⟩ := List.mem_map.mp inFields
    exact fun dot => absurd (mem_base64Url dot).1 (by decide)

/-- Every part is one of an envelope that was made. -/
def Assembled (aead : Aead) (made : List Envelope) (parts : List (List Char)) : Prop :=
  ∀ part ∈ parts, ∃ envelope ∈ made, part ∈ envelope.parts aead

theorem split_joinParts {parts : List (List Char)} (assembled : Assembled aead made parts) (nonempty : parts ≠ []) :
    (joinParts parts).toList.splitOn '.' = parts := by
  rw [joinParts, String.toList_ofList]
  refine List.splitOn_intercalate '.' ?_ nonempty
  intro part member
  obtain ⟨envelope, -, inParts⟩ := assembled part member
  exact part_plain inParts

theorem decryptJson_joinParts {parts : List (List Char)} (assembled : Assembled aead made parts) (nonempty : parts ≠ [])
    {encodedKey : String} (accepted : decryptJson aead (joinParts parts) encodedKey aad = .ok value) :
    ∃ key, importEncryptionKey encodedKey = .ok key ∧
      ((∃ iv ciphertext, parts = ["v1".toList, iv, ciphertext] ∧ decryptV1 aead key aad iv ciphertext = .ok value) ∨
        ∃ p q r s, parts = ["v2".toList, p, q, r, s] ∧ decryptV2 aead key aad p q r s = .ok value) := by
  rw [decryptJson, split_joinParts assembled nonempty] at accepted
  cases given : importEncryptionKey encodedKey with
  | error =>
    rw [given] at accepted
    nomatch accepted
  | ok key =>
    rw [given, ok_bind] at accepted
    refine ⟨key, rfl, ?_⟩
    split at accepted
    · next read => exact .inl ⟨_, _, layout?_v1 read, accepted⟩
    · next read => exact .inr ⟨_, _, _, _, layout?_v2 read, accepted⟩
    · nomatch accepted

/-- Parts that encode the fields of an envelope are its parts. -/
theorem parts_of_fields {parts : List (List Char)} (assembled : Assembled aead made parts)
    (read : parts.map base64UrlBytes = (envelope.fields aead).map some) : parts = (envelope.fields aead).map base64Url := by
  have each (fields : List (List UInt8)) (long : ∀ field ∈ fields, 12 ≤ field.length) :
      parts.map base64UrlBytes = fields.map some → parts = fields.map base64Url := by
    clear read
    induction parts generalizing fields with
    | nil =>
      intro read
      rw [List.map_nil, eq_comm, List.map_eq_nil_iff] at read
      rw [read, List.map_nil]
    | cons part rest ih =>
      intro read
      cases fields with
      | nil => contradiction
      | cons field others =>
        rw [List.map_cons, List.map_cons, List.cons.injEq] at read
        obtain ⟨holder, -, inParts⟩ := assembled part List.mem_cons_self
        rw [List.map_cons, ← ih (fun part member => assembled part (List.mem_cons_of_mem _ member)) others
          (fun field member => long field (List.mem_cons_of_mem _ member)) read.2,
          ← (canonical inParts read.1 (long field List.mem_cons_self)).1]
  exact each _ (fun _ => fields_long) read

theorem assembled_parts (inMade : envelope ∈ made) : Assembled aead made (envelope.parts aead) :=
  fun _ member => ⟨envelope, inMade, member⟩

theorem Assembled.tail {part : List Char} {parts : List (List Char)} (assembled : Assembled aead made (part :: parts)) :
    Assembled aead made parts := fun part member => assembled part (List.mem_cons_of_mem _ member)

/-- What the branch of the second version accepts is an envelope. -/
theorem assembled_v2 (fresh : Fresh made) (sealed : Sealed aead made) {p q r s : List Char}
    (assembled : Assembled aead made ["v2".toList, p, q, r, s]) (accepted : decryptV2 aead key aad p q r s = .ok value) :
    ∃ content drawn, .v2 content drawn ∈ made ∧ content.key = key ∧ content.aad = aad ∧ content.value = value ∧
      ["v2".toList, p, q, r, s] = (Envelope.v2 content drawn).parts aead := by
  obtain ⟨content, drawn, inMade, sameKey, sameAad, sameValue, read⟩ := decryptV2_accepts fresh sealed accepted
  refine ⟨content, drawn, inMade, sameKey, sameAad, sameValue, ?_⟩
  rw [Envelope.parts, ← parts_of_fields assembled.tail read]
  rfl

/-- Both nonces of an envelope of the second version tell which one it is. -/
theorem owner_of_field (fresh : Fresh made) {content : Content} {drawn : Drawn} (inMade : .v2 content drawn ∈ made)
    (two : other ∈ made) {field : List UInt8} (nonce : field = drawn.wrapNonce ∨ field = drawn.dataNonce)
    (nonce' : field ∈ other.sealings.map (·.nonce)) : Envelope.v2 content drawn = other := by
  obtain ⟨sealing, inSealings, rfl⟩ := List.mem_map.mp nonce'
  rcases nonce with wrap | data
  · exact fresh.owner inMade two (List.mem_cons_self (l := [_])) inSealings wrap.symm
  · exact fresh.owner inMade two (List.mem_cons_of_mem _ List.mem_cons_self) inSealings data.symm

/-- A field of twelve bytes is a nonce. -/
theorem nonce_of_length {field : List UInt8} (member : field ∈ envelope.fields aead) (length : field.length = 12) :
    field ∈ envelope.sealings.map (·.nonce) := by
  obtain ⟨sealing, inSealings, inPair⟩ := List.mem_flatMap.mp member
  rcases List.mem_pair.mp inPair with rfl | rfl
  · exact List.mem_map_of_mem inSealings
  · rw [aead.encrypt_length] at length
    omega

theorem base64Url_injective {left right : List UInt8} (same : base64Url left = base64Url right) : left = right := by
  have read := base64UrlBytes_base64Url left
  rw [same, base64UrlBytes_base64Url] at read
  exact (Option.some.inj read).symm

end

/-- One part is replaced by a part of an envelope, or parts are reordered and dropped. -/
inductive Tampered (aead : Aead) (made : List Envelope) (original : List (List Char)) : List (List Char) → Prop where
  | replaced (position : ℕ) (other : Envelope) (inMade : other ∈ made) (part : List Char) (inParts : part ∈ other.parts aead) :
      Tampered aead made original (original.set position part)
  | rearranged (parts : List (List Char)) (some_of : parts.Subperm original) : Tampered aead made original parts

section

variable {aead : Aead} {made : List Envelope} {content : Content} {drawn : Drawn} {value : Json} {aad encodedKey : String}

theorem Tampered.assembled {envelope : Envelope} (inMade : envelope ∈ made) {parts : List (List Char)}
    (tampered : Tampered aead made (envelope.parts aead) parts) : Assembled aead made parts := by
  cases tampered with
  | replaced position other inMade' part inParts =>
    intro part' member
    rcases List.mem_or_eq_of_mem_set member with kept | rfl
    · exact ⟨envelope, inMade, kept⟩
    · exact ⟨other, inMade', inParts⟩
  | rearranged parts some_of => exact fun part member => ⟨envelope, inMade, some_of.subset member⟩

theorem parts_v2_length : ((Envelope.v2 content drawn).parts aead).length = 5 := rfl

theorem parts_v2_wrapNonce : ((Envelope.v2 content drawn).parts aead)[1]? = some (base64Url drawn.wrapNonce) := rfl

theorem parts_v2_dataNonce : ((Envelope.v2 content drawn).parts aead)[3]? = some (base64Url drawn.dataNonce) := rfl

theorem encryptJson_eq (imported : importEncryptionKey encodedKey = .ok content.key) :
    encryptJson aead content.value encodedKey content.aad drawn = .ok ((Envelope.v2 content drawn).text aead) := by
  rw [encryptJson, imported]
  rfl

theorem layout?_parts_v2 : layout? ((Envelope.v2 content drawn).parts aead) =
    some (.v2 (base64Url drawn.wrapNonce)
      (base64Url (aead.encrypt ⟨content.key, drawn.wrapNonce, wrapContext content.aad, drawn.dataKey⟩))
      (base64Url drawn.dataNonce)
      (base64Url (aead.encrypt ⟨drawn.dataKey, drawn.dataNonce, dataContext content.aad, encode content.value⟩))) := by
  have written {field : List UInt8} (inFields : field ∈ (Envelope.v2 content drawn).fields aead) : base64Url field ≠ [] :=
    base64Url_ne_nil (List.ne_nil_of_length_pos (Nat.lt_of_lt_of_le (by decide) (fields_long inFields)))
  refine if_pos ⟨rfl, written ?_, written ?_, written ?_, written ?_⟩
  all_goals simp [Envelope.fields, Envelope.sealings]

theorem layout?_parts_v1 {iv : List UInt8} (iv_length : iv.length = 12) :
    layout? ((Envelope.v1 content iv iv_length).parts aead) =
      some (.v1 (base64Url iv) (base64Url (aead.encrypt ⟨content.key, iv, utf8 content.aad, encode content.value⟩))) := by
  have written {field : List UInt8} (inFields : field ∈ (Envelope.v1 content iv iv_length).fields aead) :
      base64Url field ≠ [] :=
    base64Url_ne_nil (List.ne_nil_of_length_pos (Nat.lt_of_lt_of_le (by decide) (fields_long inFields)))
  refine if_pos ⟨rfl, written ?_, written ?_⟩
  all_goals simp [Envelope.fields, Envelope.sealings]

/-- The cipher opens what it sealed. -/
abbrev Opens (aead : Aead) (sealing : Sealing) : Prop :=
  aead.decrypt sealing.key sealing.nonce sealing.aad (aead.encrypt sealing) = some sealing.plaintext

theorem decryptParts_sealed {sealing : Sealing} (opens : Opens aead sealing) :
    decryptParts aead sealing.key (base64Url sealing.nonce) sealing.aad (base64Url (aead.encrypt sealing)) =
      .ok sealing.plaintext := by
  rw [decryptParts, bytes, bytes, base64UrlBytes_base64Url, base64UrlBytes_base64Url, ok_bind, ok_bind, opens]

/-- What is encrypted is decrypted. -/
theorem decryptJson_v2 (opens : ∀ sealing ∈ (Envelope.v2 content drawn).sealings, Opens aead sealing)
    (imported : importEncryptionKey encodedKey = .ok content.key) :
    decryptJson aead ((Envelope.v2 content drawn).text aead) encodedKey content.aad = .ok content.value := by
  have wrap := decryptParts_sealed (opens _ List.mem_cons_self)
  have data := decryptParts_sealed (opens _ (List.mem_cons_of_mem _ List.mem_cons_self))
  dsimp only at wrap data
  have assembled : Assembled aead [.v2 content drawn] ((Envelope.v2 content drawn).parts aead) :=
    assembled_parts List.mem_cons_self
  rw [decryptJson, imported, ok_bind, Envelope.text, split_joinParts assembled (List.cons_ne_nil _ _), layout?_parts_v2]
  dsimp only
  rw [decryptV2, wrap, ok_bind, drawn.dataKey_length, if_neg (by decide), data, ok_bind]
  exact parseJson_encode content.written

theorem decryptJson_made_v2 (sealed : Sealed aead made) (inMade : .v2 content drawn ∈ made)
    (imported : importEncryptionKey encodedKey = .ok content.key) :
    decryptJson aead ((Envelope.v2 content drawn).text aead) encodedKey content.aad = .ok content.value :=
  decryptJson_v2 (fun sealing member => sealed.opens sealing (List.mem_flatMap.mpr ⟨_, inMade, member⟩)) imported

theorem importEncryptionKey_length {key : List UInt8} (imported : importEncryptionKey encodedKey = .ok key) :
    key.length = 32 := by
  unfold importEncryptionKey at imported
  split at imported
  · nomatch imported
  · split at imported
    · next length =>
      obtain rfl := Except.ok.inj imported
      exact length
    · nomatch imported

/-- The round trip, with a cipher that opens whatever it sealed. -/
theorem decryptJson_encryptJson (opens : ∀ sealing, Opens aead sealing) (written : value.Written) {text : String}
    (encrypted : encryptJson aead value encodedKey aad drawn = .ok text) :
    decryptJson aead text encodedKey aad = .ok value := by
  cases imported : importEncryptionKey encodedKey with
  | error =>
    rw [encryptJson, imported] at encrypted
    contradiction
  | ok key =>
    let content : Content := ⟨key, aad, value, importEncryptionKey_length imported, written⟩
    have given : importEncryptionKey encodedKey = .ok content.key := imported
    have made : encryptJson aead content.value encodedKey content.aad drawn = .ok ((Envelope.v2 content drawn).text aead) :=
      encryptJson_eq given
    obtain rfl := Except.ok.inj (encrypted.symm.trans made)
    exact decryptJson_v2 (fun sealing _ => opens sealing) given

theorem decryptJson_made_v1 (sealed : Sealed aead made) {iv : List UInt8} {iv_length : iv.length = 12}
    (inMade : .v1 content iv iv_length ∈ made) (imported : importEncryptionKey encodedKey = .ok content.key) :
    decryptJson aead ((Envelope.v1 content iv iv_length).text aead) encodedKey content.aad = .ok content.value := by
  have opened := decryptParts_sealed (sealed.opens _ (List.mem_flatMap.mpr ⟨_, inMade, List.mem_cons_self⟩))
  dsimp only at opened
  rw [decryptJson, imported, ok_bind, Envelope.text, split_joinParts (assembled_parts inMade) (List.cons_ne_nil _ _),
    layout?_parts_v1]
  dsimp only
  rw [decryptV1, opened, ok_bind]
  exact parseJson_encode content.written

/-- No text without parts is accepted. -/
theorem decryptJson_nil : decryptJson aead (joinParts []) encodedKey aad ≠ .ok value := by
  have empty : layout? ((joinParts []).toList.splitOn '.') = none := by decide
  intro accepted
  rw [decryptJson, empty] at accepted
  cases given : importEncryptionKey encodedKey with
  | error => rw [given] at accepted; contradiction
  | ok key => rw [given] at accepted; contradiction

/-- An envelope is only accepted under its key and in its context, as its value. -/
theorem decryptJson_text (fresh : Fresh made) (sealed : Sealed aead made) (inMade : .v2 content drawn ∈ made)
    (accepted : decryptJson aead ((Envelope.v2 content drawn).text aead) encodedKey aad = .ok value) :
    importEncryptionKey encodedKey = .ok content.key ∧ aad = content.aad ∧ value = content.value := by
  have assembled : Assembled aead made ((Envelope.v2 content drawn).parts aead) := assembled_parts inMade
  obtain ⟨key, imported, ⟨iv, ciphertext, shape, -⟩ | ⟨p, q, r, s, shape, accepted⟩⟩ :=
    decryptJson_joinParts assembled (List.cons_ne_nil _ _) accepted
  · have length := congrArg List.length shape
    rw [parts_v2_length] at length
    exact absurd length (by simp)
  · obtain ⟨content', drawn', inMade', rfl, rfl, rfl, shape'⟩ := assembled_v2 fresh sealed (shape ▸ assembled) accepted
    have second := congrArg (·[1]?) (shape.trans shape')
    simp only [parts_v2_wrapNonce, Option.some.injEq] at second
    obtain ⟨rfl, rfl⟩ := Envelope.v2.inj (owner_of_field fresh inMade inMade' (.inl (base64Url_injective second).symm)
      List.mem_cons_self)
    exact ⟨imported, rfl, rfl⟩

/-- One replaced part leaves a nonce, and rearranged parts have the nonces of no other envelope. -/
theorem tampered_parts (fresh : Fresh made) (sealed : Sealed aead made) (inMade : .v2 content drawn ∈ made)
    {parts : List (List Char)} (tampered : Tampered aead made ((Envelope.v2 content drawn).parts aead) parts)
    (accepted : decryptJson aead (joinParts parts) encodedKey aad = .ok value) :
    parts = (Envelope.v2 content drawn).parts aead := by
  have assembled := tampered.assembled inMade
  have nonempty : parts ≠ [] := by
    rintro rfl
    exact decryptJson_nil accepted
  obtain ⟨key, -, ⟨iv, ciphertext, rfl, -⟩ | ⟨p, q, r, s, rfl, opened⟩⟩ :=
    decryptJson_joinParts assembled nonempty accepted
  · -- too few parts are left, or none is the version
    generalize given : ["v1".toList, iv, ciphertext] = parts at tampered
    cases tampered with
    | replaced position other inMade' part inParts =>
      have length := congrArg List.length given
      rw [List.length_set, parts_v2_length] at length
      exact absurd length (by simp)
    | rearranged _ some_of =>
      subst given
      rcases List.mem_cons.mp (some_of.subset List.mem_cons_self) with same | inFields
      · exact absurd same (by decide : "v1".toList ≠ "v2".toList)
      · obtain ⟨field, inFields, same⟩ := List.mem_map.mp inFields
        have long := fields_long inFields
        have read := base64UrlBytes_base64Url field
        rw [same, (by decide : base64UrlBytes "v1".toList = some [191])] at read
        rw [← Option.some.inj read] at long
        exact absurd long (by decide)
  · obtain ⟨content', drawn', inMade', -, -, -, shape⟩ := assembled_v2 fresh sealed assembled opened
    suffices same : Envelope.v2 content drawn = Envelope.v2 content' drawn' from
      shape.trans (congrArg (Envelope.parts aead) same.symm)
    rw [shape] at tampered
    generalize given : (Envelope.v2 content' drawn').parts aead = parts at tampered
    cases tampered with
    | replaced position other inMade'' part inParts =>
      have first := congrArg (·[1]?) given
      have second := congrArg (·[3]?) given
      by_cases position = 1
      · have kept : position ≠ 3 := by omega
        simp only [List.getElem?_set_ne kept, parts_v2_dataNonce, Option.some.injEq] at second
        exact owner_of_field fresh inMade inMade' (.inr (base64Url_injective second))
          (List.mem_cons_of_mem _ List.mem_cons_self)
      · have kept : position ≠ 1 := by omega
        simp only [List.getElem?_set_ne kept, parts_v2_wrapNonce, Option.some.injEq] at first
        exact owner_of_field fresh inMade inMade' (.inl (base64Url_injective first)) List.mem_cons_self
    | rearranged _ some_of =>
      subst given
      have member : base64Url drawn'.wrapNonce ∈ (Envelope.v2 content drawn).parts aead :=
        some_of.subset (List.mem_cons_of_mem _ List.mem_cons_self)
      have long : 12 ≤ drawn'.wrapNonce.length := Nat.le_of_eq drawn'.wrapNonce_length.symm
      obtain ⟨-, inFields⟩ := canonical member (base64UrlBytes_base64Url _) long
      have nonce := nonce_of_length inFields drawn'.wrapNonce_length
      exact (owner_of_field fresh inMade' inMade (.inl rfl) nonce).symm

/-- Whatever is assembled from parts of envelopes and accepted is an envelope, unless a data key serves as the
key or happens to be JSON. -/
theorem assembled_parts_accepted (fresh : Fresh made) (sealed : Sealed aead made)
    (opaqueKeys : ∀ dataKey ∈ made.flatMap Envelope.dataKeys, ∀ value, parseJson dataKey ≠ .ok value)
    {parts : List (List Char)} (assembled : Assembled aead made parts) {key : List UInt8}
    (imported : importEncryptionKey encodedKey = .ok key) (secret : key ∉ made.flatMap Envelope.dataKeys)
    (accepted : decryptJson aead (joinParts parts) encodedKey aad = .ok value) :
    ∃ envelope ∈ made, parts = envelope.parts aead ∧ envelope.content.key = key ∧ envelope.content.aad = aad ∧
      envelope.content.value = value := by
  have nonempty : parts ≠ [] := by
    rintro rfl
    exact decryptJson_nil accepted
  obtain ⟨key', given, ⟨iv, ciphertext, rfl, accepted⟩ | ⟨p, q, r, s, rfl, accepted⟩⟩ :=
    decryptJson_joinParts assembled nonempty accepted
  all_goals obtain rfl := Except.ok.inj (imported.symm.trans given)
  · rcases decryptV1_accepts sealed accepted with ⟨content, nonce, iv_length, inMade, sameKey, sameAad, sameValue, read⟩ |
      ⟨dataKey, member, parsed⟩ | dataKey
    · refine ⟨_, inMade, ?_, sameKey, sameAad, sameValue⟩
      rw [Envelope.parts, ← parts_of_fields assembled.tail read]
      rfl
    · exact absurd parsed (opaqueKeys dataKey member value)
    · exact absurd dataKey secret
  · obtain ⟨content, drawn, inMade, sameKey, sameAad, sameValue, shape⟩ := assembled_v2 fresh sealed assembled accepted
    exact ⟨_, inMade, shape, sameKey, sameAad, sameValue⟩

/-- Envelopes are bound to their key and their context. Each is read back, under no other key and in no other
context, and by the branch of its own version only. What one changed part makes of an envelope of the second
version, or what is left of it reordered, is accepted only if it is the envelope still. And text assembled from
parts of envelopes in any way is one of them, as long as no data key is JSON or serves as an encryption key. -/
theorem envelopes_bound (fresh : Fresh made) (sealed : Sealed aead made) :
    (∀ content drawn, .v2 content drawn ∈ made →
      (∀ encodedKey, importEncryptionKey encodedKey = .ok content.key →
        ∃ text, encryptJson aead content.value encodedKey content.aad drawn = .ok text ∧
          decryptJson aead text encodedKey content.aad = .ok content.value ∧
          (∀ otherKey aad, importEncryptionKey otherKey ≠ .ok content.key ∨ aad ≠ content.aad →
            ∀ value, decryptJson aead text otherKey aad ≠ .ok value) ∧
          (∀ iv ciphertext, layout? (text.toList.splitOn '.') ≠ some (.v1 iv ciphertext)) ∧
          ∀ parts, Tampered aead made (text.toList.splitOn '.') parts → parts ≠ text.toList.splitOn '.' →
            ∀ encodedKey aad value, decryptJson aead (joinParts parts) encodedKey aad ≠ .ok value)) ∧
    (∀ content iv iv_length, .v1 content iv iv_length ∈ made →
      (∀ encodedKey, importEncryptionKey encodedKey = .ok content.key →
        decryptJson aead ((Envelope.v1 content iv iv_length).text aead) encodedKey content.aad = .ok content.value) ∧
      ∀ p q r s, layout? (((Envelope.v1 content iv iv_length).text aead).toList.splitOn '.') ≠ some (.v2 p q r s)) ∧
    ((∀ dataKey ∈ made.flatMap Envelope.dataKeys, ∀ value, parseJson dataKey ≠ .ok value) →
      ∀ parts, Assembled aead made parts → ∀ encodedKey key aad value, importEncryptionKey encodedKey = .ok key →
        key ∉ made.flatMap Envelope.dataKeys → decryptJson aead (joinParts parts) encodedKey aad = .ok value →
        ∃ envelope ∈ made, parts = envelope.parts aead ∧ envelope.content.key = key ∧ envelope.content.aad = aad ∧
          envelope.content.value = value) := by
  refine ⟨fun content drawn inMade encodedKey imported => ?_, fun content iv iv_length inMade => ⟨?_, ?_⟩, ?_⟩
  · have split : ((Envelope.v2 content drawn).text aead).toList.splitOn '.' = (Envelope.v2 content drawn).parts aead :=
      split_joinParts (assembled_parts inMade) (List.cons_ne_nil _ _)
    refine ⟨_, encryptJson_eq imported, decryptJson_made_v2 sealed inMade imported, ?_, ?_, ?_⟩
    · intro otherKey aad other value accepted
      obtain ⟨sameKey, sameAad, -⟩ := decryptJson_text fresh sealed inMade accepted
      exact other.elim (fun different => different sameKey) fun different => different sameAad
    · intro iv ciphertext read
      rw [split, layout?_parts_v2] at read
      exact Layout.noConfusion (Option.some.inj read)
    · intro parts tampered changed encodedKey aad value accepted
      rw [split] at tampered changed
      exact changed (tampered_parts fresh sealed inMade tampered accepted)
  · exact fun encodedKey imported => decryptJson_made_v1 sealed inMade imported
  · intro p q r s read
    rw [Envelope.text, split_joinParts (assembled_parts inMade) (List.cons_ne_nil _ _), layout?_parts_v1] at read
    exact Layout.noConfusion (Option.some.inj read)
  · intro opaqueKeys parts assembled encodedKey key aad value imported secret accepted
    exact assembled_parts_accepted fresh sealed opaqueKeys assembled imported secret accepted

end

/-- Two envelopes with one key, the context of one of which ends like the wrapping context of the other. -/
def sampleEnvelopes : List Envelope :=
  let key : List UInt8 := List.replicate 32 1
  [.v2 ⟨key, "cf", .object [("access", .string "t")], rfl, ⟨by simp, trivial, trivial⟩⟩
      ⟨List.replicate 32 2, List.replicate 12 3, List.replicate 12 4, rfl, rfl, rfl⟩,
    .v1 ⟨key, "cf|dek", .number 7, rfl, trivial⟩ (List.replicate 12 5) rfl]

theorem sampleEnvelopes_fresh : Fresh sampleEnvelopes where
  nonces := by decide +kernel
  dataKeys := by decide +kernel
  keys := by decide +kernel
  texts := by decide +kernel

theorem envelopes_bound_sample :
    Fresh sampleEnvelopes ∧ Sealed (Aead.recorded (sampleEnvelopes.flatMap Envelope.sealings)) sampleEnvelopes ∧
      ∃ text, decryptJson (Aead.recorded (sampleEnvelopes.flatMap Envelope.sealings)) text
        (String.ofList (base64Url (List.replicate 32 1))) "cf" = .ok (.object [("access", .string "t")]) := by
  have sealed : Sealed (Aead.recorded (sampleEnvelopes.flatMap Envelope.sealings)) sampleEnvelopes :=
    Aead.recorded_ideal _
  have imported : importEncryptionKey (String.ofList (base64Url (List.replicate 32 1))) = .ok (List.replicate 32 1) := by
    decide +kernel
  obtain ⟨text, -, read, -⟩ :=
    (envelopes_bound sampleEnvelopes_fresh sealed).1 _ _ List.mem_cons_self _ imported
  exact ⟨sampleEnvelopes_fresh, sealed, text, read⟩

end OmniControlPlane.Security
