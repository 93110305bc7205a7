import Mathlib.Data.List.DropRight
import OmniControlPlane.Lib.Base64
import OmniControlPlane.Lib.Slots

/-! # The WhiteHole dead-drop

A tenant publishes routing hints as base64url shards in the TXT records `ghost1` to `ghost8` of a
zone, and a shell script puts the shards together again. The records of a zone are kept by the number
in their names, counted from zero. A publication writes one record for each of its shards and deletes
none; the script reads the total that every record states, but goes on until a record is missing.
-/

namespace OmniControlPlane.WhiteHole

open Lib

/-! ## The payload -/

/-- What is published of a ranked IP. -/
structure WhiteHoleIp where
  ip : String
  port : ℕ
  sni : String
  status : String
deriving DecidableEq, Repr

structure CleanIpRow extends WhiteHoleIp where
  measured : Bool
deriving DecidableEq, Repr

structure WhiteHolePayload where
  v : ℕ := 13
  ts : ℕ
  zone : String
  ips : List WhiteHoleIp
  dns : List String := ["178.22.122.100", "185.51.200.2", "10.202.10.10", "10.202.10.11"]
  sni : List String := ["snapp.ir", "digikala.com", "aparat.com", "divar.ir", "myket.ir"]
deriving DecidableEq, Repr

/-- Measured rows come first. -/
def buildWhiteHolePayload (rows : List CleanIpRow) (zone : String) (limit now : ℕ) : WhiteHolePayload where
  ts := now
  zone := zone
  ips := ((rows.filter (·.measured) ++ rows.filter (!·.measured)).take limit).map (·.toWhiteHoleIp)

def WhiteHolePayload.json (payload : WhiteHolePayload) : List Char := jsonObject
  [("v", jsonNumber payload.v), ("ts", jsonNumber payload.ts), ("zone", jsonString payload.zone),
    ("ips", jsonArray (payload.ips.map fun row => jsonObject
      [("ip", jsonString row.ip), ("port", jsonNumber row.port), ("sni", jsonString row.sni),
        ("status", jsonString row.status)])),
    ("dns", jsonArray (payload.dns.map jsonString)), ("sni", jsonArray (payload.sni.map jsonString))]

/-- `JSON.stringify(payload)` -/
def WhiteHolePayload.stringify (payload : WhiteHolePayload) : String := String.ofList payload.json

theorem utf8_stringify (payload : WhiteHolePayload) :
    utf8 payload.stringify = payload.json.flatMap String.utf8EncodeChar := by
  rw [utf8, WhiteHolePayload.stringify, String.toList_ofList]

/-! ## The records -/

def WHITEHOLE_MAX_SHARDS : ℕ := 8
def WHITEHOLE_SHARD_CHARS : ℕ := 180

/-- A letter of base64 in the alphabet for addresses. -/
def urlSafe (char : Char) : Char := if char = '+' then '-' else if char = '/' then '_' else char

def base64UrlSafe (value : String) : List Char := ((btoa (utf8 value)).map urlSafe).rdropWhile (· = '=')

def chunkString (value : List Char) (size : ℕ) : List (List Char) :=
  (List.range ((value.length + size - 1) / size)).map fun index => (value.drop (index * size)).take size

structure WhiteHoleDrop where
  payload : WhiteHolePayload
  shards : List (List Char)
  checksum : ℕ
deriving DecidableEq, Repr

def assembleWhiteHoleDrop (payload : WhiteHolePayload) : WhiteHoleDrop :=
  let encoded := base64UrlSafe payload.stringify
  { payload := payload
    shards := (chunkString encoded WHITEHOLE_SHARD_CHARS).take WHITEHOLE_MAX_SHARDS
    checksum := encoded.length % 97 }

def whiteHoleRecordValue (index total checksum : ℕ) (shard : List Char) : List Char :=
  "v13;p".toList ++ ((toString (index + 1)).toList ++ '=' :: (shard ++
    (";n=".toList ++ ((toString total).toList ++ (";c=".toList ++ (toString checksum).toList)))))

theorem whiteHoleRecordValue_eq (index total checksum : ℕ) (shard : List Char) :
    whiteHoleRecordValue index total checksum shard =
      "v13;p".toList ++ ((toString (index + 1)).toList ++ '=' :: (shard ++
        (";n=".toList ++ ((toString total).toList ++ (";c=".toList ++ (toString checksum).toList))))) := rfl

/-- The TXT records by the number in their name. -/
abbrev TxtRecords := Slots (List Char)

/-- The record of this name is replaced, or created. -/
def upsertTxtRecord (records : TxtRecords) (index : ℕ) (value : List Char) : TxtRecords :=
  records.set index (some (value.take 4500))

def deleteTxtRecords (records : TxtRecords) (index : ℕ) : TxtRecords := records.set index none

/-- The loop of `publishWhiteHoleDrop`. -/
def publishWhiteHoleDrop (records : TxtRecords) (drop : WhiteHoleDrop) : TxtRecords :=
  drop.shards.zipIdx.foldl (fun records entry => upsertTxtRecord records entry.2
    (whiteHoleRecordValue entry.2 drop.shards.length drop.checksum entry.1)) records

/-- The loop of `clearWhiteHoleDrop`. -/
def clearWhiteHoleDrop (records : TxtRecords) : TxtRecords :=
  (List.range WHITEHOLE_MAX_SHARDS).foldl deleteTxtRecords records

inductive Operation where
  | publish (rows : List CleanIpRow) (now : ℕ)
  | clear
deriving DecidableEq, Repr

/-- What is published from a ranking. -/
def whiteHoleDrop (zone : String) (rows : List CleanIpRow) (now : ℕ) : WhiteHoleDrop :=
  assembleWhiteHoleDrop (buildWhiteHolePayload rows zone 10 now)

def Operation.apply (zone : String) (records : TxtRecords) : Operation → TxtRecords
  | .publish rows now => publishWhiteHoleDrop records (whiteHoleDrop zone rows now)
  | .clear => clearWhiteHoleDrop records

/-- The records that successful operations leave. -/
def records (zone : String) (history : List Operation) : TxtRecords :=
  history.foldl (Operation.apply zone) fun _ => none

/-! ## The reader -/

/-- `s/^v13;p[0-9]*=//` -/
def stripHead (text : List Char) : List Char :=
  if "v13;p".toList <+: text then
    match (text.drop 5).dropWhile Char.isDigit with
    | '=' :: rest => rest
    | _ => text
  else text

/-- `s/;n=.*$//` -/
def stripTotal (text : List Char) : List Char :=
  match splitOnce ";n=".toList text with
  | some (before, _) => before
  | none => text

def part (text : List Char) : List Char := stripTotal (stripHead text)

/-- `tr '_-' '/+'` -/
def translate (char : Char) : Char := if char = '_' then '/' else if char = '-' then '+' else char

inductive Reading where
  | noShards
  | decoded (bytes : List UInt8)
  | failed
deriving DecidableEq, Repr

/-- The script, where each resolver returns the text of a record as it is. The total `n` of a record
only reaches a message. -/
def fetchScript (records : TxtRecords) : Reading :=
  let texts := Slots.readRun (fun index => (records index).filter (· ≠ [])) 8 0
  let b64 := texts.flatMap part
  if b64 = [] then .noShards
  else
    match atob ((base64Pad b64).map translate) with
    | some bytes => .decoded bytes
    | none => .failed

/-! ## Encoding -/

section

variable {values : List ℕ} {value : String}

/-- The letter of a value in the alphabet for addresses. -/
def urlLetter (value : ℕ) : Char := urlSafe (base64Letter value)

theorem translate_urlLetter : ∀ value < 64, translate (urlLetter value) = base64Letter value := by decide

theorem urlLetter_plain : ∀ value < 64, urlLetter value ≠ '=' ∧ urlLetter value ≠ ';' := by decide

theorem translate_pad (small : ∀ value ∈ values, value < 64) :
    (base64Pad (values.map urlLetter)).map translate = base64Pad (values.map base64Letter) := by
  have sign : translate '=' = '=' := rfl
  simp only [base64Pad, List.map_append, List.map_map, List.map_replicate, List.length_map, sign]
  refine congrArg (· ++ _) (List.map_congr_left fun value member => ?_)
  exact translate_urlLetter value (small value member)

/-- Stripping the signs at the end leaves the letters. -/
theorem strip_signs {text : List Char} (letters : ∀ char ∈ text, char ≠ '=') (count : ℕ) :
    (text ++ List.replicate count '=').rdropWhile (· = '=') = text := by
  induction count with
  | zero =>
    rw [List.replicate_zero, List.append_nil, List.rdropWhile_eq_self_iff]
    intro nonempty
    simpa using letters _ (List.getLast_mem nonempty)
  | succ count ih =>
    rw [List.replicate_succ', ← List.append_assoc, List.rdropWhile_concat_pos _ _ _ rfl, ih]

theorem base64UrlSafe_eq (value : String) : base64UrlSafe value = (sextets (utf8 value)).map urlLetter := by
  have letters : ∀ char ∈ (sextets (utf8 value)).map urlLetter, char ≠ '=' := by
    intro char member
    obtain ⟨number, given, rfl⟩ := List.mem_map.mp member
    exact (urlLetter_plain number (sextets_lt _ number given)).1
  have sign : urlSafe '=' = '=' := rfl
  have mapped : ((sextets (utf8 value)).map base64Letter).map urlSafe = (sextets (utf8 value)).map urlLetter := by
    rw [List.map_map]
    rfl
  rw [base64UrlSafe, btoa, base64Pad, List.map_append, List.map_replicate, sign, mapped, strip_signs letters]

/-- What the script makes of letters: one letter over is an error. -/
theorem atob_urlLetters (small : ∀ value ∈ values, value < 64) :
    atob ((base64Pad (values.map urlLetter)).map translate) =
      if values.length % 4 = 1 then none else some (base64Bytes values) := by
  rw [translate_pad small, atob_pad_letters small]

theorem chunkString_flatten (text : List Char) (size count : ℕ) :
    ((List.range count).map fun index => (text.drop (index * size)).take size).flatten = text.take (count * size) := by
  induction count with
  | zero => simp
  | succ count ih =>
    rw [List.range_succ, List.map_append, List.flatten_append, ih, Nat.succ_mul, List.take_add]
    simp

end

/-! ## Shards -/

/-- A shard holds at least two letters. -/
def Shard (shard : List Char) : Prop :=
  ∃ values : List ℕ, (∀ value ∈ values, value < 64) ∧ 2 ≤ values.length ∧ values.length ≤ WHITEHOLE_SHARD_CHARS ∧
    shard = values.map urlLetter

theorem shard_of_mem {payload : WhiteHolePayload} {shard : List Char}
    (member : shard ∈ (assembleWhiteHoleDrop payload).shards) : Shard shard := by
  obtain ⟨index, inRange, rfl⟩ := List.mem_map.mp (List.mem_of_mem_take member)
  rw [base64UrlSafe_eq, List.mem_range, List.length_map] at inRange
  have length := sextets_length (utf8 payload.stringify)
  refine ⟨((sextets (utf8 payload.stringify)).drop (index * 180)).take 180, fun value member => ?_, ?_, ?_, ?_⟩
  · exact sextets_lt _ value (List.mem_of_mem_drop (List.mem_of_mem_take member))
  · rw [List.length_take, List.length_drop]
    simp only [WHITEHOLE_SHARD_CHARS] at inRange
    omega
  · exact List.length_take_le _ _
  · rw [base64UrlSafe_eq, List.map_take, List.map_drop]
    rfl

theorem shards_length_le (payload : WhiteHolePayload) :
    (assembleWhiteHoleDrop payload).shards.length ≤ WHITEHOLE_MAX_SHARDS := List.length_take_le _ _

/-- Where all shards are published, they are the whole encoding. -/
theorem shards_flatten {payload : WhiteHolePayload}
    (fits : (base64UrlSafe payload.stringify).length ≤ WHITEHOLE_MAX_SHARDS * WHITEHOLE_SHARD_CHARS) :
    (assembleWhiteHoleDrop payload).shards.flatten = base64UrlSafe payload.stringify := by
  simp only [WHITEHOLE_MAX_SHARDS, WHITEHOLE_SHARD_CHARS] at fits
  have all : ((base64UrlSafe payload.stringify).length + 180 - 1) / 180 ≤ 8 := by omega
  have covers : (base64UrlSafe payload.stringify).length ≤ ((base64UrlSafe payload.stringify).length + 180 - 1) / 180 * 180 := by
    omega
  simp only [assembleWhiteHoleDrop, chunkString, WHITEHOLE_SHARD_CHARS, WHITEHOLE_MAX_SHARDS]
  rw [List.take_of_length_le (by simpa using all), chunkString_flatten, List.take_of_length_le covers]

/-! ## Records -/

theorem number_digits (number : ℕ) : ∀ char ∈ (toString number).toList, char.isDigit = true := by
  intro char member
  rw [Nat.toString_eq_repr, Nat.toList_repr] at member
  exact Nat.isDigit_of_mem_toDigits (by decide) (by decide) member

theorem stripHead_record {digits : List Char} (areDigits : ∀ char ∈ digits, char.isDigit = true) (rest : List Char) :
    stripHead ("v13;p".toList ++ (digits ++ '=' :: rest)) = rest := by
  have dropped : (("v13;p".toList ++ (digits ++ '=' :: rest)).drop 5).dropWhile Char.isDigit = '=' :: rest := by
    change (digits ++ '=' :: rest).dropWhile Char.isDigit = '=' :: rest
    rw [List.dropWhile_append_of_pos areDigits]
    rfl
  rw [stripHead, if_pos (List.prefix_append _ _), dropped]
  rfl

theorem stripTotal_record {shard : List Char} (noSemicolon : ';' ∉ shard) (more : List Char) :
    stripTotal (shard ++ (";n=".toList ++ more)) = shard := by
  have found : splitOnce ";n=".toList (shard ++ (";n=".toList ++ more)) = some (shard, more) :=
    splitOnce_separator (by decide) (splitOnce_eq_none noSemicolon) more
  rw [stripTotal, found]

/-- The script finds the shard in a record. -/
theorem part_recordValue (index total checksum : ℕ) {shard : List Char}
    (isShard : Shard shard) : part (whiteHoleRecordValue index total checksum shard) = shard := by
  obtain ⟨values, small, -, -, rfl⟩ := isShard
  have noSemicolon : ';' ∉ values.map urlLetter := by
    intro member
    obtain ⟨value, given, same⟩ := List.mem_map.mp member
    exact (urlLetter_plain value (small value given)).2 same
  rw [part, whiteHoleRecordValue_eq, stripHead_record (number_digits _),
    stripTotal_record noSemicolon]

/-- The records that a drop writes. -/
def WhiteHoleDrop.values (drop : WhiteHoleDrop) : List (List Char) :=
  drop.shards.mapIdx fun index shard =>
    (whiteHoleRecordValue index drop.shards.length drop.checksum shard).take 4500

theorem values_length (drop : WhiteHoleDrop) : drop.values.length = drop.shards.length := List.length_mapIdx

/-- The loop of a publication writes the first records and leaves the others. -/
theorem publishWhiteHoleDrop_eq (records : TxtRecords) (drop : WhiteHoleDrop) :
    publishWhiteHoleDrop records drop = records.overlay drop.values :=
  Slots.foldl_update_overlay _ (fun index shard =>
    (whiteHoleRecordValue index drop.shards.length drop.checksum shard).take 4500) _

theorem clearWhiteHoleDrop_eq (records : TxtRecords) :
    clearWhiteHoleDrop records = records.clear WHITEHOLE_MAX_SHARDS :=
  Slots.foldl_update_clear _ _

/-- The text of a record as a publication writes it. -/
def Genuine (text : List Char) : Prop := ∃ index < WHITEHOLE_MAX_SHARDS, ∃ total checksum shard,
  Shard shard ∧ text = whiteHoleRecordValue index total checksum shard

theorem Genuine.shard {text : List Char} (genuine : Genuine text) : Shard (part text) := by
  obtain ⟨index, -, total, checksum, shard, isShard, rfl⟩ := genuine
  rw [part_recordValue index total checksum isShard]
  exact isShard

theorem Genuine.ne_nil {text : List Char} (genuine : Genuine text) : text ≠ [] := by
  obtain ⟨index, number, total, checksum, shard, isShard, rfl⟩ := genuine
  exact nofun

theorem number_length (number : ℕ) (small : number < 97) : (toString number).toList.length ≤ 2 := by
  rw [Nat.toString_eq_repr, Nat.toList_repr, Nat.length_toDigits_le_iff (by decide) (by decide)]
  omega

/-- No record is cut off. -/
theorem recordValue_take {index total checksum : ℕ} (number : index < WHITEHOLE_MAX_SHARDS)
    (few : total ≤ WHITEHOLE_MAX_SHARDS) (small : checksum < 97) {shard : List Char} (isShard : Shard shard) :
    (whiteHoleRecordValue index total checksum shard).take 4500 = whiteHoleRecordValue index total checksum shard := by
  obtain ⟨values, -, -, short, rfl⟩ := isShard
  simp only [WHITEHOLE_MAX_SHARDS, WHITEHOLE_SHARD_CHARS] at number few short
  have first := number_length (index + 1) (by omega)
  have second := number_length total (by omega)
  have third := number_length checksum small
  apply List.take_of_length_le
  have opening : "v13;p".toList.length = 5 := rfl
  have middle : ";n=".toList.length = 3 := rfl
  have closing : ";c=".toList.length = 3 := rfl
  simp only [whiteHoleRecordValue_eq, List.length_append, List.length_cons, List.length_map]
  omega

section

variable (payload : WhiteHolePayload)

theorem values_eq : (assembleWhiteHoleDrop payload).values = (assembleWhiteHoleDrop payload).shards.mapIdx fun index shard =>
    whiteHoleRecordValue index (assembleWhiteHoleDrop payload).shards.length (assembleWhiteHoleDrop payload).checksum
      shard := by
  apply List.ext_getElem (by simp [WhiteHoleDrop.values])
  intro index inside _
  simp only [WhiteHoleDrop.values, List.length_mapIdx] at inside
  simp only [WhiteHoleDrop.values, List.getElem_mapIdx]
  exact recordValue_take (Nat.lt_of_lt_of_le inside (shards_length_le payload)) (shards_length_le payload)
    (Nat.mod_lt _ (by decide)) (shard_of_mem (List.getElem_mem inside))

theorem genuine_of_mem {text : List Char} (member : text ∈ (assembleWhiteHoleDrop payload).values) : Genuine text := by
  rw [values_eq] at member
  obtain ⟨index, inside, rfl⟩ := List.mem_mapIdx.mp member
  exact ⟨index, Nat.lt_of_lt_of_le inside (shards_length_le payload), _, _, _,
    shard_of_mem (List.getElem_mem inside), rfl⟩

theorem parts_values : (assembleWhiteHoleDrop payload).values.flatMap part =
    (assembleWhiteHoleDrop payload).shards.flatten := by
  rw [List.flatMap_def, values_eq]
  refine congrArg _ (List.ext_getElem (by simp) fun index inside within => ?_)
  simp only [List.getElem_map, List.getElem_mapIdx]
  exact part_recordValue index _ _ (shard_of_mem (List.getElem_mem within))

end

/-! ## Histories -/

section

variable (zone : String)

/-- An operation as a change of the numbered records. -/
def Operation.write : Operation → Slots.Write (List Char)
  | .publish rows now => .publish (whiteHoleDrop zone rows now).values
  | .clear => .clear

/-- The drops published since the records were cleared, the latest first. -/
def standingDrops (history : List Operation) : List WhiteHoleDrop :=
  history.foldl (fun standing operation =>
    match operation with
    | .publish rows now => whiteHoleDrop zone rows now :: standing
    | .clear => []) []

theorem records_eq (history : List Operation) :
    records zone history = Slots.after WHITEHOLE_MAX_SHARDS (history.map (Operation.write zone)) := by
  rw [records, Slots.after, List.foldl_map]
  refine congrArg (fun step => List.foldl step _ history) (funext fun before => funext fun operation => ?_)
  cases operation with
  | publish rows now => exact publishWhiteHoleDrop_eq before _
  | clear => exact clearWhiteHoleDrop_eq before

theorem standing_write (history : List Operation) :
    Slots.standing (history.map (Operation.write zone)) = (standingDrops zone history).map WhiteHoleDrop.values := by
  induction history using List.reverseRecOn with
  | nil => rfl
  | append_singleton earlier operation ih =>
    rw [Slots.standing, standingDrops, List.map_append, List.foldl_append, List.foldl_append]
    cases operation with
    | publish rows now => exact congrArg ((whiteHoleDrop zone rows now).values :: ·) ih
    | clear => rfl

theorem fits_write (history : List Operation) :
    Slots.Fits WHITEHOLE_MAX_SHARDS (history.map (Operation.write zone)) := by
  intro values member
  obtain ⟨operation, -, same⟩ := List.mem_map.mp member
  cases operation with
  | publish rows now =>
    obtain rfl := Slots.Write.publish.inj same
    exact values_length _ ▸ shards_length_le _
  | clear => simp [Operation.write] at same

theorem genuine_record {history : List Operation} {index : ℕ} {text : List Char}
    (held : records zone history index = some text) : Genuine text := by
  rw [records_eq] at held
  obtain ⟨values, member, listed⟩ := Slots.published_of_after held
  obtain ⟨operation, -, same⟩ := List.mem_map.mp member
  cases operation with
  | publish rows now =>
    obtain rfl := Slots.Write.publish.inj same
    exact genuine_of_mem _ listed
  | clear => simp [Operation.write] at same

/-- No record is empty. -/
theorem filter_records (history : List Operation) :
    (fun index => (records zone history index).filter (· ≠ [])) = records zone history := by
  funext index
  cases held : records zone history index with
  | none => rfl
  | some text => simp [(genuine_record zone held).ne_nil]

/-- The letters behind a publication. -/
theorem stale_letters {texts : List (List Char)} (genuine : ∀ text ∈ texts, Genuine text) :
    ∃ values : List ℕ, (∀ value ∈ values, value < 64) ∧ texts.flatMap part = values.map urlLetter ∧
      2 * texts.length ≤ values.length := by
  induction texts with
  | nil => exact ⟨[], nofun, rfl, Nat.le_refl _⟩
  | cons text rest ih =>
    obtain ⟨later, smallLater, spelled, many⟩ := ih fun other member => genuine other (List.mem_cons_of_mem _ member)
    obtain ⟨values, small, two, -, same⟩ := (genuine text List.mem_cons_self).shard
    refine ⟨values ++ later, fun value member => ?_, ?_, ?_⟩
    · exact (List.mem_append.mp member).elim (small value) (smallLater value)
    · rw [List.flatMap_cons, same, spelled, List.map_append]
    · simp only [List.length_cons, List.length_append]
      omega

/-- What the script makes of a publication and of what stands behind it. -/
theorem fetchScript_publish (history : List Operation) (rows : List CleanIpRow) (now : ℕ) :
    ∃ stale, (∀ text ∈ stale, Genuine text) ∧
      (stale = [] ↔ ∀ earlier ∈ standingDrops zone history,
        earlier.shards.length ≤ (whiteHoleDrop zone rows now).shards.length) ∧
      (Slots.readRun (fun index => (records zone (history ++ [Operation.publish rows now]) index).filter (· ≠ [])) 8 0).flatMap
        part = (whiteHoleDrop zone rows now).shards.flatten ++ stale.flatMap part := by
  have fits : (whiteHoleDrop zone rows now).values.length ≤ WHITEHOLE_MAX_SHARDS :=
    values_length _ ▸ shards_length_le _
  refine ⟨(records zone history).readRun (WHITEHOLE_MAX_SHARDS - (whiteHoleDrop zone rows now).values.length)
    (whiteHoleDrop zone rows now).values.length, fun text member => ?_, ?_, ?_⟩
  · obtain ⟨index, held⟩ := Slots.mem_readRun member
    exact genuine_record zone held
  · rw [records_eq, Slots.nothing_behind_iff (fits_write zone history), standing_write]
    simp only [List.forall_mem_map, values_length]
  · have parts : (whiteHoleDrop zone rows now).values.flatMap part = (whiteHoleDrop zone rows now).shards.flatten :=
      parts_values _
    rw [filter_records, records_eq, records_eq, List.map_append, List.map_singleton, Operation.write, ← parts,
      ← List.flatMap_append]
    exact congrArg (List.flatMap part) (Slots.readRun_publish fits)

theorem stringify_ne_nil (payload : WhiteHolePayload) : utf8 payload.stringify ≠ [] := by
  have brace : String.utf8EncodeChar (Char.ofNat 0x7B) = [0x7B] := utf8EncodeChar_ascii (by decide)
  simp [utf8_stringify, WhiteHolePayload.json, jsonObject, brace]

/-- What the script prints of the letters it has put together. -/
theorem fetchScript_letters {records : TxtRecords} {values : List ℕ} (small : ∀ value ∈ values, value < 64)
    (read : (Slots.readRun (fun index => (records index).filter (· ≠ [])) 8 0).flatMap part = values.map urlLetter)
    (nonempty : values ≠ []) :
    fetchScript records = if values.length % 4 = 1 then .failed else .decoded (base64Bytes values) := by
  have letters : values.map urlLetter ≠ [] := by simpa using nonempty
  rw [fetchScript]
  simp only [read, if_neg letters, atob_urlLetters small]
  by_cases single : values.length % 4 = 1
  · rw [if_pos single, if_pos single]
  · rw [if_neg single, if_neg single]

/-- The script prints the bytes of an encoding unless it goes on into other letters. -/
theorem fetchScript_eq_decoded_iff {records : TxtRecords} {bytes : List UInt8} (nonempty : bytes ≠ [])
    {stale : List (List Char)} (genuine : ∀ text ∈ stale, Genuine text)
    (read : (Slots.readRun (fun index => (records index).filter (· ≠ [])) 8 0).flatMap part =
      (sextets bytes).map urlLetter ++ stale.flatMap part) : fetchScript records = .decoded bytes ↔ stale = [] := by
  obtain ⟨later, smallLater, spelled, many⟩ := stale_letters genuine
  have small : ∀ value ∈ sextets bytes ++ later, value < 64 := fun value member =>
    (List.mem_append.mp member).elim (sextets_lt bytes value) (smallLater value)
  rw [spelled, ← List.map_append] at read
  rw [fetchScript_letters small read (List.append_ne_nil_of_left_ne_nil (sextets_ne_nil nonempty) _)]
  constructor
  · intro decoded
    by_contra behind
    have tail : 2 ≤ later.length := by
      have one := List.length_pos_of_ne_nil behind
      omega
    split at decoded
    · exact Reading.noConfusion decoded
    · exact base64Bytes_append_ne bytes tail (Reading.decoded.inj decoded)
  · rintro rfl
    obtain rfl : later = [] := by simpa using spelled.symm
    rw [List.append_nil, if_neg (sextets_complete bytes), base64Bytes_sextets]

theorem fetchScript_publish_iff (history : List Operation) (rows : List CleanIpRow) (now : ℕ)
    (fits : (base64UrlSafe (whiteHoleDrop zone rows now).payload.stringify).length ≤
      WHITEHOLE_MAX_SHARDS * WHITEHOLE_SHARD_CHARS) :
    fetchScript (records zone (history ++ [Operation.publish rows now])) =
        .decoded (utf8 (whiteHoleDrop zone rows now).payload.stringify) ↔
      ∀ earlier ∈ standingDrops zone history,
        earlier.shards.length ≤ (whiteHoleDrop zone rows now).shards.length := by
  obtain ⟨stale, genuine, nothing, read⟩ := fetchScript_publish zone history rows now
  have whole : (whiteHoleDrop zone rows now).shards.flatten =
      (sextets (utf8 (whiteHoleDrop zone rows now).payload.stringify)).map urlLetter := by
    rw [← base64UrlSafe_eq]
    exact shards_flatten fits
  rw [whole] at read
  rw [fetchScript_eq_decoded_iff (stringify_ne_nil _) genuine read, nothing]

theorem fetchScript_clear (history : List Operation) :
    fetchScript (records zone (history ++ [Operation.clear])) = .noShards := by
  have found : (records zone (history ++ [Operation.clear])).readRun 8 0 = [] := by
    rw [records_eq, List.map_append, List.map_singleton, Operation.write]
    exact Slots.readRun_clear
  simp only [fetchScript, filter_records, found, List.flatMap_nil, if_true]

/-- After a publication the script reads it exactly when no longer one precedes it since the records
were cleared, and it reads nothing after they were. -/
theorem reads_last_publication_iff (history : List Operation) (rows : List CleanIpRow) (now : ℕ)
    (fits : (base64UrlSafe (whiteHoleDrop zone rows now).payload.stringify).length ≤
      WHITEHOLE_MAX_SHARDS * WHITEHOLE_SHARD_CHARS) :
    (fetchScript (records zone (history ++ [Operation.publish rows now])) =
        .decoded (utf8 (whiteHoleDrop zone rows now).payload.stringify) ↔
      ∀ earlier ∈ standingDrops zone history,
        earlier.shards.length ≤ (whiteHoleDrop zone rows now).shards.length) ∧
      fetchScript (records zone (history ++ [Operation.clear])) = .noShards :=
  ⟨fetchScript_publish_iff zone history rows now fits, fetchScript_clear zone history⟩

end

namespace Sample

/-- A ranking of measured IPs. -/
def ranking (count : ℕ) : List CleanIpRow :=
  List.replicate count { ip := "203.0.113.7", port := 443, sni := "snapp.ir", status := "verified", measured := true }

end Sample

theorem empty_ranking_fits :
    (base64UrlSafe (whiteHoleDrop "example.com" (Sample.ranking 0) 2).payload.stringify).length ≤
      WHITEHOLE_MAX_SHARDS * WHITEHOLE_SHARD_CHARS := by
  rw [base64UrlSafe, utf8_stringify]
  decide +kernel

/-- A longer publication, a clearing, and a shorter one. -/
theorem reads_last_publication_cleared :
    fetchScript (records "example.com" [.publish (Sample.ranking 3) 1, .clear, .publish (Sample.ranking 0) 2]) =
      .decoded (utf8 (whiteHoleDrop "example.com" (Sample.ranking 0) 2).payload.stringify) :=
  (reads_last_publication_iff "example.com" [.publish (Sample.ranking 3) 1, .clear] (Sample.ranking 0) 2
    empty_ranking_fits).1.mpr nofun

/-- The end of a longer publication is read after a shorter one. -/
theorem stale_shards_read :
    fetchScript (records "example.com" [.publish (Sample.ranking 3) 2, .publish (Sample.ranking 0) 2]) ≠
      .decoded (utf8 (whiteHoleDrop "example.com" (Sample.ranking 0) 2).payload.stringify) := by
  intro decoded
  have bounded := (fetchScript_publish_iff "example.com" [.publish (Sample.ranking 3) 2] (Sample.ranking 0) 2
    empty_ranking_fits).mp decoded (whiteHoleDrop "example.com" (Sample.ranking 3) 2) List.mem_cons_self
  simp only [whiteHoleDrop, assembleWhiteHoleDrop, base64UrlSafe, utf8_stringify] at bounded
  exact absurd bounded (by decide +kernel)

end OmniControlPlane.WhiteHole
