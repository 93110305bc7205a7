import OmniControlPlane.Lib.Base64
import OmniControlPlane.Panel.Columns
import OmniControlPlane.Panel.Destination

/-! # A stored user can connect

The uuid of a user is what the request had, with no check. A connection finds the user by the path,
in lower case, and compares with the bytes of the header as `bytesToUuid` writes them: any other
spelling is stored and never found again.
-/

namespace OmniControlPlane.Panel

open Lib
open JavaScript (Js Fields truthy)
open Columns (Sql bind)

/-! ## The table -/

/-- A value in a column of text that is not null: every number is stored as its text. -/
inductive TextCell where
  | text (value : String)
  | blob (bytes : List UInt8)
deriving DecidableEq, Repr

/-- The column of a bound value; `numeral` is SQLite's text of a number. -/
def TextCell.ofSql (numeral : ℚ → String) : Sql → Except Columns.Failure TextCell
  | .null => .error (.database "NOT NULL constraint failed")
  | .number value => .ok (.text (numeral value))
  | .infinity negative => .ok (.text (if negative then "-Inf" else "Inf"))
  | .text value => .ok (.text value)
  | .blob bytes => .ok (.blob bytes)

/-- The value in a template string; a blob comes back as an array of its bytes. -/
def TextCell.inTemplate : TextCell → String
  | .text value => value
  | .blob bytes => ",".intercalate (bytes.map fun byte => toString byte.toNat)

/-- The numeric columns of `users` and the two that are unique besides the name. -/
structure Account where
  columns : Columns.Row
  uuid : TextCell
  sub_token : TextCell

structure Accounts where
  rows : OrderedMap String Account
  uuids : (rows.entries.map (·.2.uuid)).Nodup
  sub_tokens : (rows.entries.map (·.2.sub_token)).Nodup

/-- What a creation binds; the other columns of text have no part in it. -/
structure UserInput where
  columns : Columns.Row
  uuid : Js
  sub_token : Js

/-- The two calls of `crypto.randomUUID`. -/
structure Draws where
  uuid : String
  sub_token : String

/-- `raw.key || drawn` -/
def givenOr (raw : Fields) (key drawn : String) : Js :=
  if truthy (raw.get key) then (raw.get key).getD .null else .string drawn

def newUserInput (config : Columns.Config) (raw : Fields) (now : ℤ) (draws : Draws) :
    Except Columns.Failure UserInput :=
  (Columns.newUserInput config raw now).map fun columns =>
    { columns := columns
      uuid := givenOr raw "uuid" draws.uuid
      sub_token := givenOr raw "sub_token" (String.ofList (draws.sub_token.toList.filter (· ≠ '-'))) }

namespace Accounts

def empty : Accounts := ⟨.empty, List.nodup_nil, List.nodup_nil⟩

private theorem nodup_inserted {entries : List (String × Account)} {username : String} {account : Account}
    (column : Account → TextCell) (distinct : (entries.map fun entry => column entry.2).Nodup)
    (fresh : ∀ entry ∈ entries, column entry.2 ≠ column account) :
    ((entries ++ [(username, account)]).map fun entry => column entry.2).Nodup := by
  rw [List.map_append, List.nodup_append]
  refine ⟨distinct, List.nodup_singleton _, ?_⟩
  intro listed found last here
  obtain ⟨entry, member, rfl⟩ := List.mem_map.mp found
  rw [List.mem_singleton.mp here]
  exact fresh entry member

/-- `INSERT`, which a value that another row has in a unique column makes fail. -/
def insert (accounts : Accounts) (username : String) (account : Account) : Except Columns.Failure Accounts :=
  match absent : accounts.rows.get? username with
  | some _ => .error .conflict
  | none =>
    if fresh : ∀ entry ∈ accounts.rows.entries,
        entry.2.uuid ≠ account.uuid ∧ entry.2.sub_token ≠ account.sub_token then
      .ok {
        rows := accounts.rows.alter username fun _ => account
        uuids := by
          rw [OrderedMap.alter_entries_of_absent absent]
          exact nodup_inserted (·.uuid) accounts.uuids fun entry member => (fresh entry member).1
        sub_tokens := by
          rw [OrderedMap.alter_entries_of_absent absent]
          exact nodup_inserted (·.sub_token) accounts.sub_tokens fun entry member => (fresh entry member).2 }
    else .error .conflict

def createUser (numeral : ℚ → String) (accounts : Accounts) (username : String) (input : UserInput) :
    Except Columns.Failure Accounts := do
  let columns ← Columns.checkRow input.columns
  let uuid ← bind input.uuid
  let sub_token ← bind input.sub_token
  let uuid ← TextCell.ofSql numeral uuid
  let sub_token ← TextCell.ofSql numeral sub_token
  accounts.insert username { columns := columns, uuid := uuid, sub_token := sub_token }

/-- The row with a uuid, and its username. -/
def getUserByUuid (accounts : Accounts) (uuid : String) : Option (String × Account) :=
  accounts.rows.entries.find? fun entry => entry.2.uuid = .text uuid

/-- The path of the user is resolved to the user, and a header with the bytes of the uuid is the
user's; `pathname` is what `URL` makes of a path. -/
def Connects (pathname : String → String) (accounts : Accounts) (username : String) (account : Account) : Prop :=
  (∃ uuid, uuidFromRequest (pathname ("/" ++ account.uuid.inTemplate)) = some uuid ∧
    accounts.getUserByUuid uuid = some (username, account)) ∧
  ∀ buf header, (buf.drop 1).take 16 = uuidToBytes account.uuid.inTemplate → parseVlessHeader buf = .ok header →
    TextCell.text header.uuid = account.uuid

end Accounts

/-- 32 hexadecimal digits in lower case with the four dashes of a UUID. -/
def LowerUuid (text : String) : Prop := isDashedUuid text.toList = true ∧ toLowerAscii text.toList = text

instance (text : String) : Decidable (LowerUuid text) := inferInstanceAs (Decidable (_ ∧ _))

/-! ## The text of a uuid -/

/-- A hexadecimal digit or a dash. -/
def isUuidLetter (char : Char) : Bool := isHexDigit char || char = '-'

theorem isDashedUuid_groups {text : List Char} (dashed : isDashedUuid text = true) :
    ∃ a b c d e : List Char, text = a ++ '-' :: (b ++ '-' :: (c ++ '-' :: (d ++ '-' :: e))) ∧
      [a, b, c, d, e].map (·.length) = [8, 4, 4, 4, 12] ∧
      ∀ group ∈ [a, b, c, d, e], ∀ char ∈ group, isHexDigit char = true := by
  obtain ⟨sizes, digits⟩ := (Bool.and_eq_true ..).mp dashed
  have joined : ['-'].intercalate (text.splitOn '-') = text := List.intercalate_splitOn '-'
  generalize text.splitOn '-' = groups at sizes digits joined
  have sizes := of_decide_eq_true sizes
  have five : groups.length = 5 := by simpa using congrArg List.length sizes
  match groups, five with
  | [a, b, c, d, e], _ =>
    refine ⟨a, b, c, d, e, ?_, sizes, ?_⟩
    · rw [← joined]
      simp [List.intercalate]
    · intro group listed
      exact List.all_eq_true.mp (List.all_eq_true.mp digits group listed)

private theorem letter_of_dashed {text : List Char} (dashed : isDashedUuid text = true) :
    ∀ char ∈ text, isUuidLetter char = true := by
  obtain ⟨a, b, c, d, e, rfl, -, digits⟩ := isDashedUuid_groups dashed
  simp only [List.forall_mem_cons, List.not_mem_nil, false_imp_iff, implies_true, and_true] at digits
  intro char member
  simp only [List.mem_append, List.mem_cons] at member
  rw [isUuidLetter, Bool.or_eq_true, decide_eq_true_eq]
  grind

private theorem lower_letter {text : List Char} (letters : ∀ char ∈ text, isUuidLetter char = true) :
    ∀ char ∈ (toLowerAscii text).toList, isUuidLetter char = true := by
  rw [toLowerAscii, String.toList_ofList]
  intro char member
  obtain ⟨letter, listed, rfl⟩ := List.mem_map.mp member
  rcases (Bool.or_eq_true ..).mp (letters letter listed) with digit | dash
  · have facts : ∀ digit ∈ "0123456789abcdefABCDEF".toList, isUuidLetter digit.toLower = true :=
      List.all_eq_true.mp (by decide +kernel)
    exact facts letter (hexDigit_mem digit)
  · rw [of_decide_eq_true dash]
    decide

/-- What the path is resolved to consists of such letters. -/
private theorem letter_of_request {path uuid : String} (resolved : uuidFromRequest path = some uuid) :
    ∀ char ∈ uuid.toList, isUuidLetter char = true := by
  simp only [uuidFromRequest] at resolved
  split at resolved
  · next dashed =>
    obtain rfl := Option.some.inj resolved
    exact lower_letter (letter_of_dashed dashed)
  · obtain ⟨bytes, -, read⟩ := Option.bind_eq_some_iff.mp resolved
    obtain ⟨shape, same⟩ := Option.ite_none_right_eq_some.mp read
    obtain rfl := Option.some.inj same
    exact lower_letter (List.all_eq_true.mp shape.2)

/-- The path of a text of such letters has the text as its first segment. -/
private theorem uuidFromRequest_letters {text : String} (letters : ∀ char ∈ text.toList, isUuidLetter char = true) :
    uuidFromRequest ("/" ++ text) = if isDashedUuid text.toList then some (toLowerAscii text.toList) else
      (atob (text.toList.map fun char => if char = '-' then '+' else if char = '_' then '/' else char)).bind
        fun bytes => if (latin1 bytes).length = 36 ∧ (latin1 bytes).all fun char => isHexDigit char || char = '-' then
          some (toLowerAscii (latin1 bytes)) else none := by
  have slashless : '/' ∉ text.toList := by
    intro slash
    have letter := letters '/' slash
    contradiction
  have segment : ((((("/" ++ text).toList).splitOn '/').filter (!·.isEmpty)).head?).getD [] = text.toList := by
    rw [String.toList_append, show "/".toList ++ text.toList = [] ++ '/' :: text.toList from rfl,
      List.splitOn_append_cons_self_of_not_mem List.not_mem_nil, List.splitOn_eq_singleton slashless]
    cases text.toList with
    | nil => rfl
    | cons char rest => rfl
  rw [uuidFromRequest, segment]

/-- A user's path leads to the user's own uuid exactly where this is a UUID in lower case: the letters of a
UUID are read as base64 too, but they are too few for another one. -/
theorem uuidFromRequest_self_iff {text : String} (letters : ∀ char ∈ text.toList, isUuidLetter char = true) :
    uuidFromRequest ("/" ++ text) = some text ↔ LowerUuid text := by
  rw [uuidFromRequest_letters letters, LowerUuid]
  split
  · next dashed => simp [dashed]
  · next undashed =>
    refine iff_of_false ?_ fun lower => undashed lower.1
    intro resolved
    obtain ⟨bytes, decoded, read⟩ := Option.bind_eq_some_iff.mp resolved
    obtain ⟨⟨size, -⟩, same⟩ := Option.ite_none_right_eq_some.mp read
    have short := atob_length_le decoded
    have lengths := congrArg (·.toList.length) (Option.some.inj same)
    simp only [toLowerAscii, String.toList_ofList, List.length_map, latin1] at size lengths short
    omega

/-! ## The bytes of a uuid -/

private theorem dashes_dropped {group : List Char} (digits : ∀ char ∈ group, isHexDigit char = true) :
    group.filter (· ≠ '-') = group := by
  apply List.filter_eq_self.mpr
  intro char member
  rw [decide_eq_true_eq]
  rintro rfl
  have digit := digits '-' member
  contradiction

private theorem regrouped {a b c d e : List Char} (eight : a.length = 8) (second : b.length = 4) (third : c.length = 4)
    (fourth : d.length = 4) :
    (a ++ b ++ c ++ d ++ e).take 8 ++ '-' :: ((a ++ b ++ c ++ d ++ e).drop 8).take 4 ++
        '-' :: ((a ++ b ++ c ++ d ++ e).drop 12).take 4 ++ '-' :: ((a ++ b ++ c ++ d ++ e).drop 16).take 4 ++
        '-' :: (a ++ b ++ c ++ d ++ e).drop 20 =
      a ++ '-' :: (b ++ '-' :: (c ++ '-' :: (d ++ '-' :: e))) := by
  have gone (group : List Char) (size : ℕ) (bound : group.length ≤ size) : group.drop size = [] :=
    List.drop_eq_nil_of_le bound
  simp [List.drop_append, eight, second, third, fourth, gone a 12 (by omega), gone a 16 (by omega),
    gone a 20 (by omega), gone b 8 (by omega), gone b 12 (by omega), gone c 8 (by omega)]

/-- The bytes of a UUID in lower case are written as the same UUID. -/
theorem LowerUuid.bytes {text : String} (lower : LowerUuid text) : bytesToUuid (uuidToBytes text) = text := by
  obtain ⟨dashed, lowered⟩ := lower
  obtain ⟨a, b, c, d, e, shape, sizes, digits⟩ := isDashedUuid_groups dashed
  simp only [List.forall_mem_cons, List.not_mem_nil, false_imp_iff, implies_true, and_true] at digits
  obtain ⟨first, second, third, fourth, fifth⟩ := digits
  have hex : text.toList.filter (· ≠ '-') = a ++ b ++ c ++ d ++ e := by
    rw [shape]
    simp only [List.filter_append, List.filter_cons, dashes_dropped first, dashes_dropped second, dashes_dropped third,
      dashes_dropped fourth, dashes_dropped fifth]
    simp
  simp only [List.map_cons, List.map_nil, List.cons.injEq, and_true] at sizes
  obtain ⟨eight, four, four', four'', twelve⟩ := sizes
  let uuid : UuidText := {
    text := text
    digits_length := by
      rw [hex]
      simp only [List.length_append]
      omega
    digits_hex := by
      rw [hex]
      intro char member
      simp only [List.mem_append] at member
      grind }
  have written := bytesToUuid_uuidToBytes uuid
  have canonical : uuid.canonical = toLowerAscii text.toList := by
    simp only [UuidText.canonical, uuid, hex, toLowerAscii]
    rw [shape]
    congr 1
    simp only [List.map_append, List.map_cons, show Char.toLower '-' = '-' from rfl]
    exact regrouped (by rwa [List.length_map]) (by rwa [List.length_map]) (by rwa [List.length_map])
      (by rwa [List.length_map])
  rw [written, canonical, lowered]

/-- The uuid of a header is that of its second to seventeenth byte. -/
theorem parseVlessHeader_uuid {buf : List UInt8} {header : VlessHeader} (parsed : parseVlessHeader buf = .ok header) :
    header.uuid = bytesToUuid ((buf.drop 1).take 16) := by
  simp only [parseVlessHeader] at parsed
  split at parsed
  · contradiction
  · split at parsed
    · contradiction
    · split at parsed
      · contradiction
      · split at parsed
        · contradiction
        · rw [← Except.ok.inj parsed]

namespace Accounts

/-! ## Finding a user -/

theorem getUserByUuid_eq_some_iff {accounts : Accounts} {uuid username : String} {account : Account} :
    accounts.getUserByUuid uuid = some (username, account) ↔
      accounts.rows.get? username = some account ∧ account.uuid = .text uuid := by
  rw [getUserByUuid, ← OrderedMap.mem_entries_iff]
  constructor
  · intro found
    have own := List.find?_some found
    exact ⟨List.mem_of_find?_eq_some found, of_decide_eq_true own⟩
  · rintro ⟨listed, own⟩
    have present : (accounts.rows.entries.find? fun entry => entry.2.uuid = .text uuid).isSome := by
      rw [List.find?_isSome]
      exact ⟨_, listed, decide_eq_true own⟩
    obtain ⟨entry, found⟩ := Option.isSome_iff_exists.mp present
    have same := List.find?_some found
    have same : entry.2.uuid = .text uuid := of_decide_eq_true same
    rw [found, List.inj_on_of_nodup_map accounts.uuids (List.mem_of_find?_eq_some found) listed (same.trans own.symm)]

/-- A user connects exactly with a uuid in lower case. -/
theorem connects_iff {pathname : String → String}
    (plain : ∀ text, (∀ char ∈ text.toList, isUuidLetter char = true) → pathname ("/" ++ text) = "/" ++ text)
    {accounts : Accounts} {username : String} {account : Account} (stored : accounts.rows.get? username = some account) :
    accounts.Connects pathname username account ↔ ∃ text, account.uuid = .text text ∧ LowerUuid text := by
  constructor
  · rintro ⟨⟨uuid, resolved, found⟩, -⟩
    obtain ⟨-, own⟩ := getUserByUuid_eq_some_iff.mp found
    have letters := letter_of_request resolved
    rw [own, TextCell.inTemplate, plain uuid letters] at resolved
    exact ⟨uuid, own, (uuidFromRequest_self_iff letters).mp resolved⟩
  · rintro ⟨text, own, lower⟩
    have letters := letter_of_dashed lower.1
    rw [Connects, own]
    constructor
    · refine ⟨text, ?_, getUserByUuid_eq_some_iff.mpr ⟨stored, own⟩⟩
      rw [TextCell.inTemplate, plain text letters]
      exact (uuidFromRequest_self_iff letters).mpr lower
    · intro buf header bytes parsed
      rw [parseVlessHeader_uuid parsed, bytes, TextCell.inTemplate, lower.bytes]

/-- A created user has the uuid that was bound. -/
theorem createUser_uuid {numeral : ℚ → String} {accounts created : Accounts} {username : String} {input : UserInput}
    (made : accounts.createUser numeral username input = .ok created) :
    ∃ bound account, bind input.uuid = .ok bound ∧ created.rows.get? username = some account ∧
      TextCell.ofSql numeral bound = .ok account.uuid := by
  obtain ⟨columns, -, made⟩ := Columns.bind_ok made
  obtain ⟨bound, own, made⟩ := Columns.bind_ok made
  obtain ⟨token, -, made⟩ := Columns.bind_ok made
  obtain ⟨cell, text, made⟩ := Columns.bind_ok made
  obtain ⟨tokenCell, -, inserted⟩ := Columns.bind_ok made
  refine ⟨bound, ⟨columns, cell, tokenCell⟩, own, ?_, text⟩
  simp only [insert] at inserted
  split at inserted
  · contradiction
  · split at inserted
    · rw [← Except.ok.inj inserted, OrderedMap.get?_alter, if_pos rfl]
    · contradiction

end Accounts

/-! ## Which uuids connect -/

theorem LowerUuid.length {text : String} (lower : LowerUuid text) : text.length = 36 := by
  obtain ⟨a, b, c, d, e, shape, sizes, -⟩ := isDashedUuid_groups lower.1
  simp only [List.map_cons, List.map_nil, List.cons.injEq, and_true] at sizes
  have count := congrArg List.length shape
  simp only [List.length_append, List.length_cons, String.length_toList] at count
  omega

/-- Only text is stored as a UUID: the text of a number is too short. -/
theorem ofSql_lowerUuid_iff {numeral : ℚ → String} (short : ∀ value, (numeral value).length < 36) {value : Js}
    {bound : Sql} {cell : TextCell} (binds : bind value = .ok bound) (stored : TextCell.ofSql numeral bound = .ok cell) :
    (∃ text, cell = .text text ∧ LowerUuid text) ↔ ∃ text, value = .string text ∧ LowerUuid text := by
  have ofNumber (number : ℚ) (numeralCell : TextCell.ofSql numeral (.number number) = .ok cell) :
      ¬ ∃ text, cell = .text text ∧ LowerUuid text := by
    rintro ⟨text, same, lower⟩
    obtain rfl := Except.ok.inj numeralCell
    obtain rfl := TextCell.text.inj same
    have := short number
    have := lower.length
    omega
  cases value with
  | null =>
    obtain rfl := Except.ok.inj binds
    contradiction
  | bool value =>
    obtain rfl := Except.ok.inj binds
    exact iff_of_false (ofNumber _ stored) nofun
  | number value =>
    obtain rfl := Except.ok.inj binds
    cases value with
    | nan => contradiction
    | infinity negative => contradiction
    | finite value => exact iff_of_false (ofNumber value stored) nofun
  | string text =>
    obtain rfl := Except.ok.inj binds
    obtain rfl := Except.ok.inj stored
    simp
  | array items =>
    simp only [Columns.bind] at binds
    split at binds
    · obtain rfl := Except.ok.inj binds
      obtain rfl := Except.ok.inj stored
      exact iff_of_false nofun nofun
    · contradiction
  | object fields => contradiction

theorem givenOr_lowerUuid_iff (raw : Fields) {key drawn : String} (lower : LowerUuid drawn) :
    (∃ text, givenOr raw key drawn = .string text ∧ LowerUuid text) ↔
      truthy (raw.get key) = false ∨ ∃ text, raw.get key = some (.string text) ∧ LowerUuid text := by
  rw [givenOr]
  split
  · next given =>
    cases value : raw.get key with
    | none =>
      rw [value] at given
      contradiction
    | some value' =>
      rw [value] at given
      simp [given]
  · next missing =>
    have falsy : truthy (raw.get key) = false := Bool.eq_false_iff.mpr missing
    exact iff_of_true ⟨drawn, rfl, lower⟩ (.inl falsy)

/-- A created user connects, whatever has happened to the others, exactly where the request had no uuid or a
UUID in lower case with its dashes. -/
theorem stored_user_connects_iff (config : Columns.Config) (raw : Fields) (now : ℤ) (draws : Draws)
    (drawn : LowerUuid draws.uuid) (numeral : ℚ → String) (short : ∀ value, (numeral value).length < 36)
    (pathname : String → String)
    (plain : ∀ text, (∀ char ∈ text.toList, isUuidLetter char = true) → pathname ("/" ++ text) = "/" ++ text)
    {accounts created later : Accounts} {username : String} {input : UserInput} {made account : Account}
    (asked : newUserInput config raw now draws = .ok input)
    (inserted : accounts.createUser numeral username input = .ok created)
    (found : created.rows.get? username = some made) (present : later.rows.get? username = some account)
    (kept : account.uuid = made.uuid) :
    later.Connects pathname username account ↔
      truthy (raw.get "uuid") = false ∨ ∃ text, raw.get "uuid" = some (.string text) ∧ LowerUuid text := by
  obtain ⟨bound, row, binds, here, stored⟩ := Accounts.createUser_uuid inserted
  obtain rfl : made = row := Option.some.inj (found.symm.trans here)
  have given : input.uuid = givenOr raw "uuid" draws.uuid := by
    rw [newUserInput] at asked
    cases columns : Columns.newUserInput config raw now with
    | error failure =>
      rw [columns] at asked
      contradiction
    | ok columns' =>
      rw [columns] at asked
      rw [← Except.ok.inj asked]
  rw [Accounts.connects_iff plain present, kept, ofSql_lowerUuid_iff short binds stored, given,
    givenOr_lowerUuid_iff raw drawn]

/-- A request for a user with a uuid, and what is made of it. -/
def uuidRequest (uuid : String) : Fields := [("username", .string "alice"), ("uuid", .string uuid)]

def sampleDraws : Draws := ⟨"8f7e6d5c-4b3a-4918-8776-655443322110", "0a1b2c3d-4e5f-4a6b-8c7d-8e9f00112233"⟩

def sampleInput (uuid : String) : UserInput where
  columns := ⟨.number 50, .number 0, .number 30, .null, .number 3, .number 0, .number 0, true⟩
  uuid := .string uuid
  sub_token := .string "0a1b2c3d4e5f4a6b8c7d8e9f00112233"

private theorem exists_created (uuid : String) : ∃ created account,
    Accounts.empty.createUser (fun _ => "1.0") "alice" (sampleInput uuid) = .ok created ∧
      created.rows.get? "alice" = some account ∧ account.uuid = .text uuid :=
  ⟨_, ⟨_, _, .text "0a1b2c3d4e5f4a6b8c7d8e9f00112233"⟩, rfl, rfl, rfl⟩

theorem stored_user_connects_sample : ∃ created account,
    Accounts.empty.createUser (fun _ => "1.0") "alice" (sampleInput sampleDraws.uuid) = .ok created ∧
      created.rows.get? "alice" = some account ∧ created.Connects id "alice" account := by
  obtain ⟨created, account, inserted, found, -⟩ := exists_created sampleDraws.uuid
  have lower : LowerUuid sampleDraws.uuid := by decide +kernel
  have asked : newUserInput {} (uuidRequest sampleDraws.uuid) 0 sampleDraws = .ok (sampleInput sampleDraws.uuid) := rfl
  have connects := stored_user_connects_iff {} (uuidRequest sampleDraws.uuid) 0 sampleDraws lower
    (fun _ => "1.0") (fun _ => by decide) id (fun _ _ => rfl) asked inserted found found rfl
  exact ⟨created, account, inserted, found, connects.mpr (.inr ⟨_, rfl, lower⟩)⟩

/-- The same UUID in upper case is accepted and stored, and its user is never found. -/
theorem upper_uuid_stranded : ∃ input created account,
    newUserInput {} (uuidRequest "8F7E6D5C-4B3A-4918-8776-655443322110") 0 sampleDraws = .ok input ∧
      Accounts.empty.createUser (fun _ => "1.0") "alice" input = .ok created ∧
      created.rows.get? "alice" = some account ∧ account.uuid = .text "8F7E6D5C-4B3A-4918-8776-655443322110" ∧
      ¬ created.Connects id "alice" account := by
  obtain ⟨created, account, inserted, found, own⟩ := exists_created "8F7E6D5C-4B3A-4918-8776-655443322110"
  refine ⟨_, created, account, rfl, inserted, found, own, ?_⟩
  rw [Accounts.connects_iff (fun _ _ => rfl) found]
  rintro ⟨text, same, lower⟩
  obtain rfl := TextCell.text.inj (own.symm.trans same)
  revert lower
  decide +kernel

end OmniControlPlane.Panel
