import OmniControlPlane.Lib.JsonFront
import OmniControlPlane.WhiteHole.Ranking

/-! # What a drop holds

Eight shards of 180 letters hold the base64 of 1080 bytes, and what is over that is cut off. The records are always
read back as their shards, and the shards as the payload as long as its JSON text is no longer than they hold.
-/

namespace OmniControlPlane.WhiteHole

open Lib

/-! ## The payload as a value -/

theorem writeItems_compact (depth : ℕ) (items : List Json) : Json.writeItems Json.compact depth items =
    List.intercalate [','] (items.map (Json.write Json.compact (depth + 1))) ++ [']'] := by
  induction items with
  | nil => rfl
  | cons item items ih =>
    cases items with
    | nil =>
      rw [Json.writeItems]
      simp [Json.compact]
    | cons next items =>
      rw [Json.writeItems_step, ih]
      simp [Json.compact, List.intercalate_cons_cons]

theorem writeFields_compact (depth : ℕ) (fields : List (String × Json)) : Json.writeFields Json.compact depth fields =
    List.intercalate [','] (fields.map fun field => jsonString field.1 ++ ':' :: Json.write Json.compact (depth + 1) field.2) ++
      [Json.closeBrace] := by
  induction fields with
  | nil => rfl
  | cons field fields ih =>
    cases fields with
    | nil =>
      rw [Json.writeFields]
      simp [Json.compact]
    | cons next fields =>
      rw [Json.writeFields_step, ih]
      simp [Json.compact, List.intercalate_cons_cons]

theorem write_array (depth : ℕ) (items : List Json) : Json.write Json.compact depth (.array items) =
    jsonArray (items.map (Json.write Json.compact (depth + 1))) := by
  rw [Json.write, writeItems_compact, jsonArray]

theorem write_object (depth : ℕ) (fields : List (String × Json)) : Json.write Json.compact depth (.object fields) =
    jsonObject (fields.map fun field => (field.1, Json.write Json.compact (depth + 1) field.2)) := by
  rw [Json.write, writeFields_compact, jsonObject, List.map_map]
  rfl

theorem write_number (depth size : ℕ) : Json.write Json.compact depth (.number size) = jsonNumber size := by
  rw [jsonNumber, Nat.toString_eq_repr, Nat.toList_repr]
  rfl

def WhiteHoleIp.value (row : WhiteHoleIp) : Json := .object
  [("ip", .string row.ip), ("port", .number row.port), ("sni", .string row.sni), ("status", .string row.status)]

/-- The payload that `JSON.parse` is to give back. -/
def WhiteHolePayload.value (payload : WhiteHolePayload) : Json := .object
  [("v", .number payload.v), ("ts", .number payload.ts), ("zone", .string payload.zone),
    ("ips", .array (payload.ips.map (·.value))), ("dns", .array (payload.dns.map .string)),
    ("sni", .array (payload.sni.map .string))]

theorem json_eq_write (payload : WhiteHolePayload) : payload.json = Json.write Json.compact 0 payload.value := by
  have row (row : WhiteHoleIp) : Json.write Json.compact 2 row.value = jsonObject
      [("ip", jsonString row.ip), ("port", jsonNumber row.port), ("sni", jsonString row.sni),
        ("status", jsonString row.status)] := by
    rw [WhiteHoleIp.value, write_object]
    simp only [List.map_cons, List.map_nil, write_number]
    rfl
  rw [WhiteHolePayload.value, write_object]
  simp only [List.map_cons, List.map_nil, write_number, write_array, List.map_map]
  rw [WhiteHolePayload.json]
  have rows : payload.ips.map (Json.write Json.compact (0 + 1 + 1) ∘ WhiteHoleIp.value) = payload.ips.map fun row =>
      jsonObject [("ip", jsonString row.ip), ("port", jsonNumber row.port), ("sni", jsonString row.sni),
        ("status", jsonString row.status)] := List.map_congr_left fun entry _ => row entry
  rw [rows]
  rfl

theorem value_plain (payload : WhiteHolePayload) : payload.value.Plain := by
  have rows : ∀ rows : List WhiteHoleIp, Json.PlainItems (rows.map (·.value)) := by
    intro rows
    induction rows with
    | nil => trivial
    | cons row rows ih => exact ⟨⟨by simp +decide, trivial, trivial, trivial, trivial, trivial⟩, ih⟩
  have texts : ∀ texts : List String, Json.PlainItems (texts.map .string) := by
    intro texts
    induction texts with
    | nil => trivial
    | cons text texts ih => exact ⟨trivial, ih⟩
  exact ⟨by simp +decide, trivial, trivial, trivial, rows _, texts _, texts _, trivial⟩

/-! ## Joining the shards -/

/-- What the letters of the shards say together. -/
def joined (shards : List (List Char)) : Option (List UInt8) := atob ((base64Pad shards.flatten).map translate)

/-- `JSON.parse` of what the shards say. -/
def readDrop (shards : List (List Char)) : Option Json :=
  joined shards >>= fun bytes => Json.parse (decodeUtf8 bytes).toList

/-- The shards are the encoding as far as they hold it. -/
theorem shards_eq_take (payload : WhiteHolePayload) : (assembleWhiteHoleDrop payload).shards.flatten =
    ((sextets (utf8 payload.stringify)).take 1440).map urlLetter := by
  simp only [assembleWhiteHoleDrop, chunkString, WHITEHOLE_SHARD_CHARS, WHITEHOLE_MAX_SHARDS]
  rw [← List.map_take, List.take_range, chunkString_flatten, base64UrlSafe_eq, ← List.map_take, List.length_map]
  refine congrArg (List.map urlLetter) ?_
  have bound := Nat.le_refl (sextets (utf8 payload.stringify)).length
  by_cases fits : (sextets (utf8 payload.stringify)).length ≤ 1440
  · rw [List.take_of_length_le fits, List.take_of_length_le (by omega)]
  · exact congrArg (fun count => (sextets (utf8 payload.stringify)).take count) (by omega)

/-- Whole groups of six bits say whole groups of bytes. -/
theorem sextets_take (bytes : List UInt8) (count : ℕ) : (sextets bytes).take (4 * count) = sextets (bytes.take (3 * count)) := by
  induction count generalizing bytes with
  | zero => rfl
  | succ count ih =>
    rw [Nat.mul_succ, Nat.mul_succ]
    match bytes with
    | [] => rfl
    | [a] => rfl
    | [a, b] => rfl
    | a :: b :: c :: rest =>
      simp only [sextets, List.take_succ_cons]
      rw [ih]

theorem joined_shards (payload : WhiteHolePayload) : joined (assembleWhiteHoleDrop payload).shards =
    some ((utf8 payload.stringify).take 1080) := by
  have taken := sextets_take (utf8 payload.stringify) 360
  have small := sextets_lt ((utf8 payload.stringify).take 1080)
  rw [joined, shards_eq_take, taken, atob_urlLetters small, if_neg (sextets_complete _), base64Bytes_sextets]

/-- The shards say the whole text exactly when it fits into them. -/
theorem joined_iff (payload : WhiteHolePayload) : joined (assembleWhiteHoleDrop payload).shards =
    some (utf8 payload.stringify) ↔ (utf8 payload.stringify).length ≤ 1080 := by
  rw [joined_shards, Option.some_inj, List.take_eq_self_iff]

theorem decodeUtf8_stringify (payload : WhiteHolePayload) : (decodeUtf8 (utf8 payload.stringify)).toList = payload.json := by
  have unmarked : ∀ char ∈ payload.stringify.toList.head?, char.toNat ≠ 0xFEFF := by
    intro char head
    rw [WhiteHolePayload.stringify, String.toList_ofList, WhiteHolePayload.json, jsonObject, List.head?_cons,
      Option.mem_some_iff] at head
    rw [← head]
    decide
  rw [decodeUtf8_utf8 unmarked, WhiteHolePayload.stringify, String.toList_ofList]

theorem readDrop_of_fits {payload : WhiteHolePayload} (fits : (utf8 payload.stringify).length ≤ 1080) :
    readDrop (assembleWhiteHoleDrop payload).shards = some payload.value := by
  rw [readDrop, (joined_iff payload).mpr fits, Option.bind_eq_bind, Option.bind_some, decodeUtf8_stringify, json_eq_write]
  exact Json.parse_write (value_plain payload)

theorem recordValue_length {index total checksum : ℕ} (number : index < WHITEHOLE_MAX_SHARDS)
    (few : total ≤ WHITEHOLE_MAX_SHARDS) (small : checksum < 97) {shard : List Char} (isShard : Shard shard) :
    (whiteHoleRecordValue index total checksum shard).length ≤ 255 := by
  obtain ⟨values, -, -, short, rfl⟩ := isShard
  simp only [WHITEHOLE_MAX_SHARDS, WHITEHOLE_SHARD_CHARS] at number few short
  have first := number_length (index + 1) (by omega)
  have second := number_length total (by omega)
  have third := number_length checksum small
  have opening : "v13;p".toList.length = 5 := rfl
  have middle : ";n=".toList.length = 3 := rfl
  have closing : ";c=".toList.length = 3 := rfl
  simp only [whiteHoleRecordValue_eq, List.length_append, List.length_cons, List.length_map]
  omega

/-! ## The size of a payload -/

/-- How many bytes a text has. -/
def byteSize (text : List Char) : ℕ := (text.flatMap String.utf8EncodeChar).length

theorem byteSize_append (first second : List Char) : byteSize (first ++ second) = byteSize first + byteSize second := by
  rw [byteSize, List.flatMap_append, List.length_append, byteSize, byteSize]

theorem byteSize_cons (char : Char) (text : List Char) : byteSize (char :: text) = byteSize [char] + byteSize text :=
  byteSize_append [char] text

theorem byteSize_intercalate (parts : List (List Char)) :
    byteSize (List.intercalate [','] parts) = (parts.map byteSize).sum + (parts.length - 1) := by
  have comma : byteSize [','] = 1 := by decide
  induction parts with
  | nil => rfl
  | cons part parts ih =>
    cases parts with
    | nil => simp
    | cons next parts =>
      rw [List.intercalate_cons_cons, byteSize_append, byteSize_append, ih, comma]
      simp only [List.map_cons, List.sum_cons, List.length_cons]
      omega

theorem byteSize_jsonArray (items : List (List Char)) :
    byteSize (jsonArray items) = (items.map byteSize).sum + (items.length - 1) + 2 := by
  have open' : byteSize ['['] = 1 := by decide
  have close : byteSize [']'] = 1 := by decide
  rw [jsonArray, byteSize_cons, byteSize_append, byteSize_intercalate, open', close]
  omega

theorem byteSize_jsonObject (fields : List (String × List Char)) : byteSize (jsonObject fields) =
    (fields.map fun field => byteSize (jsonString field.1) + 1 + byteSize field.2).sum + (fields.length - 1) + 2 := by
  have open' : byteSize [Char.ofNat 0x7B] = 1 := by decide
  have close : byteSize [Char.ofNat 0x7D] = 1 := by decide
  have colon : byteSize [':'] = 1 := by decide
  have field (field : String × List Char) : byteSize (jsonString field.1 ++ ':' :: field.2) =
      byteSize (jsonString field.1) + 1 + byteSize field.2 := by
    rw [byteSize_append, byteSize_cons, colon]
    omega
  rw [jsonObject, byteSize_cons, byteSize_append, byteSize_intercalate, open', close, List.map_map, List.length_map]
  simp only [Function.comp_def, field]
  omega

/-- The bytes of a row: its strings in quotes, its port in digits, and what is the same in every row. -/
def rowSize (row : WhiteHoleIp) : ℕ :=
  byteSize (jsonString row.ip) + byteSize (jsonNumber row.port) + byteSize (jsonString row.sni) +
    byteSize (jsonString row.status) + 32

/-- The bytes of a payload: its time in digits, its zone in quotes, its rows with the commas between them, and what
is the same in every payload. -/
def payloadSize (payload : WhiteHolePayload) : ℕ :=
  byteSize (jsonNumber payload.ts) + byteSize (jsonString payload.zone) + (payload.ips.map rowSize).sum +
    (payload.ips.length - 1) + 170

theorem length_stringify (rows : List CleanIpRow) (zone : String) (limit now : ℕ) :
    (utf8 (buildWhiteHolePayload rows zone limit now).stringify).length =
      payloadSize (buildWhiteHolePayload rows zone limit now) := by
  have row (row : WhiteHoleIp) : byteSize (jsonObject [("ip", jsonString row.ip), ("port", jsonNumber row.port),
      ("sni", jsonString row.sni), ("status", jsonString row.status)]) = rowSize row := by
    have ip : byteSize (jsonString "ip") = 4 := by decide
    have port : byteSize (jsonString "port") = 6 := by decide
    have sni : byteSize (jsonString "sni") = 5 := by decide
    have status : byteSize (jsonString "status") = 8 := by decide
    rw [byteSize_jsonObject, rowSize]
    simp only [List.map_cons, List.map_nil, List.sum_cons, List.sum_nil, List.length_cons, List.length_nil, ip, port, sni,
      status]
    omega
  have rowsSize : byteSize (jsonArray ((buildWhiteHolePayload rows zone limit now).ips.map fun row => jsonObject
      [("ip", jsonString row.ip), ("port", jsonNumber row.port), ("sni", jsonString row.sni),
        ("status", jsonString row.status)])) = ((buildWhiteHolePayload rows zone limit now).ips.map rowSize).sum +
      ((buildWhiteHolePayload rows zone limit now).ips.length - 1) + 2 := by
    rw [byteSize_jsonArray, List.map_map, List.length_map]
    simp only [Function.comp_def, row]
  have version : byteSize (jsonNumber 13) = 2 := by decide
  have dns : byteSize (jsonArray ((buildWhiteHolePayload rows zone limit now).dns.map jsonString)) = 63 := by
    change byteSize (jsonArray (["178.22.122.100", "185.51.200.2", "10.202.10.10", "10.202.10.11"].map jsonString)) = 63
    decide +kernel
  have sni : byteSize (jsonArray ((buildWhiteHolePayload rows zone limit now).sni.map jsonString)) = 62 := by
    change byteSize (jsonArray (["snapp.ir", "digikala.com", "aparat.com", "divar.ir", "myket.ir"].map jsonString)) = 62
    decide +kernel
  have keys : byteSize (jsonString "v") = 3 ∧ byteSize (jsonString "ts") = 4 ∧ byteSize (jsonString "zone") = 6 ∧
      byteSize (jsonString "ips") = 5 ∧ byteSize (jsonString "dns") = 5 ∧ byteSize (jsonString "sni") = 5 := by
    decide +kernel
  obtain ⟨v, ts, zone', ips, dns', sni'⟩ := keys
  rw [utf8_stringify]
  change byteSize (WhiteHolePayload.json _) = _
  rw [WhiteHolePayload.json, byteSize_jsonObject, payloadSize]
  simp only [List.map_cons, List.map_nil, List.sum_cons, List.sum_nil, List.length_cons, List.length_nil, rowsSize, dns, sni,
    v, ts, zone', ips, dns', sni']
  change 3 + 1 + byteSize (jsonNumber 13) + _ + _ + _ = _
  rw [version]
  omega

/-! ## Plain text -/

theorem utf8EncodeChars_ascii {text : List Char} (ascii : ∀ char ∈ text, char.toNat < 0x80) (count : ℕ) :
    (text.flatMap String.utf8EncodeChar).take count = (text.take count).flatMap String.utf8EncodeChar := by
  induction text generalizing count with
  | nil => simp
  | cons char text ih =>
    obtain ⟨first, ascii⟩ := List.forall_mem_cons.mp ascii
    cases count with
    | zero => rfl
    | succ count =>
      rw [List.flatMap_cons, utf8EncodeChar_ascii first, List.take_succ_cons, List.flatMap_cons, utf8EncodeChar_ascii first,
        List.singleton_append, List.take_succ_cons, ih ascii]
      rfl

/-- What is read of a drop whose text is plain ASCII. -/
theorem readDrop_ascii {payload : WhiteHolePayload} (ascii : ∀ char ∈ payload.json, char.toNat < 0x80) :
    readDrop (assembleWhiteHoleDrop payload).shards = Json.parse (payload.json.take 1080) := by
  have cut : (utf8 payload.stringify).take 1080 = utf8 (String.ofList (payload.json.take 1080)) := by
    rw [utf8_stringify, utf8EncodeChars_ascii ascii, utf8, String.toList_ofList]
  have unmarked : ∀ char ∈ (String.ofList (payload.json.take 1080)).toList.head?, char.toNat ≠ 0xFEFF := by
    intro char head
    rw [String.toList_ofList] at head
    have bound := ascii char (List.mem_of_mem_take (List.mem_of_mem_head? head))
    omega
  rw [readDrop, joined_shards, cut, Option.bind_eq_bind, Option.bind_some, decodeUtf8_utf8 unmarked, String.toList_ofList]

theorem length_ascii {text : List Char} (ascii : ∀ char ∈ text, char.toNat < 0x80) :
    (text.flatMap String.utf8EncodeChar).length = text.length := by
  induction text with
  | nil => rfl
  | cons char text ih =>
    obtain ⟨first, ascii⟩ := List.forall_mem_cons.mp ascii
    rw [List.flatMap_cons, utf8EncodeChar_ascii first, List.length_append, ih ascii, List.length_singleton, List.length_cons,
      Nat.add_comm]

/-- No front of the text is parsed as the payload. -/
theorem fits_of_readDrop {payload : WhiteHolePayload} (ascii : ∀ char ∈ payload.json, char.toNat < 0x80)
    (read : readDrop (assembleWhiteHoleDrop payload).shards = some payload.value) :
    (utf8 payload.stringify).length ≤ 1080 := by
  rw [utf8_stringify, length_ascii ascii]
  rw [readDrop_ascii ascii] at read
  by_contra long
  have whole : Json.parse (payload.json.take 1080 ++ payload.json.drop 1080) = some payload.value := by
    rw [List.take_append_drop, json_eq_write]
    exact Json.parse_write (value_plain payload)
  have blank := Json.parse_front read whole
  obtain ⟨body, ends⟩ : ∃ body, payload.json = body ++ [Char.ofNat 0x7D] :=
    ⟨Char.ofNat 0x7B :: _, by rw [WhiteHolePayload.json, jsonObject]; rfl⟩
  have room : 1080 ≤ body.length := by
    rw [ends, List.length_append, List.length_singleton] at long
    omega
  rw [ends, List.drop_append_of_le_length room, Json.skip, List.dropWhile_eq_nil_iff] at blank
  exact absurd (blank _ (List.mem_append_right _ (List.mem_singleton_self _))) (by decide)

/-! ## What a drop holds -/

/-- The shards of a drop say its JSON text exactly when its size is at most 1080 bytes. Then they are parsed back to the
payload, and a drop of plain ASCII is parsed back only then. Every record is within the limit of one string, and the
reader finds its shard in it. -/
theorem drop_whole_iff (rows : List CleanIpRow) (zone : String) (now : ℕ) :
    (joined (whiteHoleDrop zone rows now).shards = some (utf8 (whiteHoleDrop zone rows now).payload.stringify) ↔
      payloadSize (buildWhiteHolePayload rows zone 10 now) ≤ 1080) ∧
    (payloadSize (buildWhiteHolePayload rows zone 10 now) ≤ 1080 →
      readDrop (whiteHoleDrop zone rows now).shards = some (whiteHoleDrop zone rows now).payload.value) ∧
    ((∀ char ∈ (buildWhiteHolePayload rows zone 10 now).json, char.toNat < 0x80) →
      readDrop (whiteHoleDrop zone rows now).shards = some (whiteHoleDrop zone rows now).payload.value →
      payloadSize (buildWhiteHolePayload rows zone 10 now) ≤ 1080) ∧
    ∀ index shard, (whiteHoleDrop zone rows now).shards[index]? = some shard →
      (whiteHoleRecordValue index (whiteHoleDrop zone rows now).shards.length (whiteHoleDrop zone rows now).checksum
        shard).length ≤ 255 ∧
      part (whiteHoleRecordValue index (whiteHoleDrop zone rows now).shards.length (whiteHoleDrop zone rows now).checksum
        shard) = shard := by
  have size := length_stringify rows zone 10 now
  refine ⟨?_, ?_, ?_, ?_⟩
  · rw [← size]
    exact joined_iff _
  · intro fits
    rw [← size] at fits
    exact readDrop_of_fits fits
  · intro ascii read
    rw [← size]
    exact fits_of_readDrop ascii read
  · intro index shard found
    have inside := (List.getElem?_eq_some_iff.mp found).1
    have isShard := shard_of_mem (List.mem_of_getElem? found)
    refine ⟨?_, part_recordValue _ _ _ isShard⟩
    exact recordValue_length (Nat.lt_of_lt_of_le inside (shards_length_le _)) (shards_length_le _)
      (Nat.mod_lt _ (by decide)) isShard

namespace Sample

/-- A zone name of four labels and 253 characters. -/
def longZone : List Char :=
  List.replicate 63 'a' ++ '.' :: (List.replicate 63 'b' ++ '.' :: (List.replicate 63 'c' ++ '.' :: List.replicate 61 'd'))

end Sample

namespace Sample

/-- What is published of the ranking of an operator of whom nothing has been reported. -/
def unreported : List WhiteHoleIp := [
  ⟨"37.32.16.11", 443, "bmi.ir", "nodata"⟩, ⟨"37.32.20.15", 443, "cafebazaar.ir", "nodata"⟩,
  ⟨"104.26.10.12", 443, "104.26.10.12", "nodata"⟩, ⟨"104.16.18.15", 443, "104.16.18.15", "nodata"⟩,
  ⟨"104.17.24.15", 443, "104.17.24.15", "nodata"⟩, ⟨"104.21.64.1", 443, "104.21.64.1", "nodata"⟩,
  ⟨"104.18.32.115", 443, "104.18.32.115", "nodata"⟩, ⟨"104.21.32.115", 443, "104.21.32.115", "nodata"⟩,
  ⟨"104.26.12.188", 443, "104.26.12.188", "nodata"⟩, ⟨"104.17.209.9", 443, "104.17.209.9", "nodata"⟩]

def longPayload : WhiteHolePayload := ⟨13, 1763540000000, String.ofList longZone, unreported,
  ["178.22.122.100", "185.51.200.2", "10.202.10.10", "10.202.10.11"],
  ["snapp.ir", "digikala.com", "aparat.com", "divar.ir", "myket.ir"]⟩

def longJson : List Char := jsonObject
  [("v", jsonNumber 13), ("ts", jsonNumber 1763540000000),
    ("zone", Char.ofNat 34 :: (longZone.flatMap jsonChar ++ [Char.ofNat 34])),
    ("ips", jsonArray (unreported.map fun row => jsonObject
      [("ip", jsonString row.ip), ("port", jsonNumber row.port), ("sni", jsonString row.sni),
        ("status", jsonString row.status)])),
    ("dns", jsonArray (["178.22.122.100", "185.51.200.2", "10.202.10.10", "10.202.10.11"].map jsonString)),
    ("sni", jsonArray (["snapp.ir", "digikala.com", "aparat.com", "divar.ir", "myket.ir"].map jsonString))]

end Sample

theorem build_unreported : buildWhiteHolePayload (rankCleanIps [] none none none 1763540000000)
    (String.ofList Sample.longZone) 10 1763540000000 = Sample.longPayload := by
  have ips : (((rankCleanIps [] none none none 1763540000000).filter (·.measured) ++
      (rankCleanIps [] none none none 1763540000000).filter (!·.measured)).take 10).map (·.toWhiteHoleIp) =
      Sample.unreported := by decide +kernel
  rw [buildWhiteHolePayload, ips]
  rfl

theorem json_longPayload : Sample.longPayload.json = Sample.longJson := by
  rw [WhiteHolePayload.json, Sample.longPayload, jsonString, String.toList_ofList]
  rfl

/-- The ranking of an operator of whom nothing has been reported is too long for a zone of this length. -/
theorem long_drop_truncated : Sample.longZone.length = 253 ∧
    readDrop (whiteHoleDrop (String.ofList Sample.longZone) (rankCleanIps [] none none none 1763540000000)
      1763540000000).shards ≠ some (whiteHoleDrop (String.ofList Sample.longZone)
        (rankCleanIps [] none none none 1763540000000) 1763540000000).payload.value := by
  have ascii : ∀ char ∈ Sample.longPayload.json, char.toNat < 0x80 := by
    rw [json_longPayload]
    have all : Sample.longJson.all (fun char => decide (char.toNat < 0x80)) = true := by decide +kernel
    exact fun char member => of_decide_eq_true (List.all_eq_true.mp all char member)
  have cut : (Json.parse (Sample.longJson.take 1080)).isNone = true := by decide +kernel
  refine ⟨by decide +kernel, fun read => ?_⟩
  rw [whiteHoleDrop, build_unreported, readDrop_ascii ascii, json_longPayload] at read
  rw [read] at cut
  exact absurd cut (by decide)

end OmniControlPlane.WhiteHole
