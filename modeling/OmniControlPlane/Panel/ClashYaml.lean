import OmniControlPlane.Lib.YamlBlocks
import OmniControlPlane.Panel.Generator

/-! # Reading the Clash file back

The generator puts its texts between double quotes and escapes nothing in them but a quote. A reader finds in the
file what was meant as long as no text has a backslash, a line break or another control character than a tab.
-/

namespace OmniControlPlane.Panel.Generator

open Lib

/-! ## The document that is meant -/

/-- A block sequence without items is not there at all. -/
def block (items : List Yaml) : Yaml := if items = [] then .null else .seq items

def proxyNode (item : Item) : Yaml := .map [
  ("name", .string (nameOf item)),
  ("type", .string "vless"),
  ("server", .string (orElse item.address item.host)),
  ("port", Yaml.resolve item.port.text),
  ("uuid", .string item.uuid),
  ("tls", .bool true),
  ("servername", .string item.host),
  ("client-fingerprint", .string (orElse item.fingerprint "chrome")),
  ("network", .string "ws"),
  ("ws-opts", .map [
    ("path", .string (orElse item.path ("/" ++ item.uuid))),
    ("max-early-data", .int 2048),
    ("early-data-header-name", .string "Sec-WebSocket-Protocol"),
    ("headers", .map [("Host", .string item.host)])])]

/-- Every key of the file and its value. -/
def document (items : List Item) : Yaml := .map [
  ("mixed-port", .int 7890),
  ("allow-lan", .bool false),
  ("mode", .string "rule"),
  ("log-level", .string "warning"),
  ("proxies", block (items.map proxyNode)),
  ("proxy-groups", .seq [.map [
    ("name", .string "SELECT"),
    ("type", .string "select"),
    ("proxies", block (items.map fun item => .string (nameOf item)))]]),
  ("rules", .seq [.string "DOMAIN-SUFFIX,ir,DIRECT", .string "GEOIP,IR,DIRECT", .string "MATCH,SELECT"])]

/-- A number is printed as a word. -/
def Port.Plain : Port → Prop
  | .nat _ => True
  | .other text _ => Yaml.Word text

/-! ## The lines -/

/-- A line of the file: one without quotes, or an opening and a text in quotes. -/
inductive Line where
  | bare (text : List Char) (meaning : List (ℕ × Yaml.Token))
  | quoted (opening text : String) (meaning : Yaml → List (ℕ × Yaml.Token))

namespace Line

def written : Line → List Char
  | bare text _ => text
  | quoted opening text _ => opening.toList ++ esc text

def meaning : Line → List (ℕ × Yaml.Token)
  | bare _ meaning => meaning
  | quoted _ text meaning => meaning (.string text)

def Clean : Line → Prop
  | bare _ _ => True
  | quoted _ text _ => Printed text

/-- A line without quotes is read as it is meant, and one with quotes as its value is. -/
def Sound : Line → Prop
  | bare text meaning => '\n' ∉ text ∧ Yaml.readLine text = some meaning
  | quoted opening _ meaning => '\n' ∉ opening.toList ∧ ∀ value,
      Yaml.readLine (opening.toList ++ Json.quote :: value) = (Yaml.readInline (Json.quote :: value)).map meaning

def field (opening name : String) (indent : ℕ) (text : String) : Line :=
  quoted opening text fun value => [(indent, .entry name (some value))]

def name (text : String) : Line := quoted "  - name: " text fun value => [(2, .dash), (4, .entry "name" (some value))]

def member (text : String) : Line := quoted "      - " text fun value => [(6, .dash), (8, .scalar value)]

end Line

def proxyLayout (item : Item) : List Line := [
  .name (nameOf item),
  .bare "    type: vless".toList [(4, .entry "type" (some (.string "vless")))],
  .field "    server: " "server" 4 (orElse item.address item.host),
  .bare ("    port: ".toList ++ item.port.text) [(4, .entry "port" (some (Yaml.resolve item.port.text)))],
  .field "    uuid: " "uuid" 4 item.uuid,
  .bare "    tls: true".toList [(4, .entry "tls" (some (.bool true)))],
  .field "    servername: " "servername" 4 item.host,
  .field "    client-fingerprint: " "client-fingerprint" 4 (orElse item.fingerprint "chrome"),
  .bare "    network: ws".toList [(4, .entry "network" (some (.string "ws")))],
  .bare "    ws-opts:".toList [(4, .entry "ws-opts" none)],
  .field "      path: " "path" 6 (orElse item.path ("/" ++ item.uuid)),
  .bare "      max-early-data: 2048".toList [(6, .entry "max-early-data" (some (.int 2048)))],
  .bare "      early-data-header-name: Sec-WebSocket-Protocol".toList
    [(6, .entry "early-data-header-name" (some (.string "Sec-WebSocket-Protocol")))],
  .bare "      headers:".toList [(6, .entry "headers" none)],
  .field "        Host: " "Host" 8 item.host]

def opening : List Line := [
  .bare "mixed-port: 7890".toList [(0, .entry "mixed-port" (some (.int 7890)))],
  .bare "allow-lan: false".toList [(0, .entry "allow-lan" (some (.bool false)))],
  .bare "mode: rule".toList [(0, .entry "mode" (some (.string "rule")))],
  .bare "log-level: warning".toList [(0, .entry "log-level" (some (.string "warning")))],
  .bare "proxies:".toList [(0, .entry "proxies" none)]]

def group : List Line := [
  .bare "proxy-groups:".toList [(0, .entry "proxy-groups" none)],
  .name "SELECT",
  .bare "    type: select".toList [(4, .entry "type" (some (.string "select")))],
  .bare "    proxies:".toList [(4, .entry "proxies" none)]]

def rules : List Line := [
  .bare "rules:".toList [(0, .entry "rules" none)],
  .bare "  - DOMAIN-SUFFIX,ir,DIRECT".toList [(2, .dash), (4, .scalar (.string "DOMAIN-SUFFIX,ir,DIRECT"))],
  .bare "  - GEOIP,IR,DIRECT".toList [(2, .dash), (4, .scalar (.string "GEOIP,IR,DIRECT"))],
  .bare "  - MATCH,SELECT".toList [(2, .dash), (4, .scalar (.string "MATCH,SELECT"))]]

def layout (items : List Item) : List Line :=
  opening ++ items.flatMap proxyLayout ++ group ++ items.map (fun item => .member (nameOf item)) ++ rules

theorem written_layout (items : List Item) : (layout items).map Line.written = clashLines items := by
  have proxies : (items.flatMap proxyLayout).map Line.written = items.flatMap proxyLines := by
    rw [List.map_flatMap]
    rfl
  have members : (items.map fun item => Line.member (nameOf item)).map Line.written =
      items.map fun item => "      - ".toList ++ esc (nameOf item) := by
    rw [List.map_map]
    rfl
  rw [layout, List.map_append, List.map_append, List.map_append, List.map_append, proxies, members]
  rfl

section

variable {P : Line → Prop}

/-- What holds of all lines of a file. -/
theorem forall_layout_iff (items : List Item) : (∀ line ∈ layout items, P line) ↔
    (∀ line ∈ opening, P line) ∧ (∀ item ∈ items, ∀ line ∈ proxyLayout item, P line) ∧ (∀ line ∈ group, P line) ∧
      (∀ item ∈ items, P (.member (nameOf item))) ∧ ∀ line ∈ rules, P line := by
  constructor
  · intro each
    refine ⟨?_, ?_, ?_, ?_, ?_⟩
    · exact fun line inside => each line (by simp [layout, inside])
    · intro item listed line inside
      refine each line ?_
      simp only [layout, List.mem_append, List.mem_flatMap]
      exact .inl (.inl (.inl (.inr ⟨item, listed, inside⟩)))
    · exact fun line inside => each line (by simp [layout, inside])
    · intro item listed
      refine each _ ?_
      simp only [layout, List.mem_append, List.mem_map]
      exact .inl (.inr ⟨item, listed, rfl⟩)
    · exact fun line inside => each line (by simp [layout, inside])
  · rintro ⟨first, proxies, second, members, last⟩ line member
    simp only [layout, List.mem_append, List.mem_flatMap, List.mem_map] at member
    rcases member with (((inside | ⟨item, listed, inside⟩) | inside) | ⟨item, listed, rfl⟩) | inside
    · exact first line inside
    · exact proxies item listed line inside
    · exact second line inside
    · exact members item listed
    · exact last line inside

end

/-! ## Lines that are read as they are meant -/

section

variable {text : String}

theorem sound_field {opening name : String} {indent : ℕ} (unbroken : '\n' ∉ opening.toList) (keyed : Yaml.Key name.toList)
    (split : opening.toList = List.replicate indent ' ' ++ (name.toList ++ [':', ' '])) :
    (Line.field opening name indent text).Sound := by
  refine ⟨unbroken, fun value => ?_⟩
  have line : opening.toList ++ Json.quote :: value =
      List.replicate indent ' ' ++ (name.toList ++ ':' :: ' ' :: Json.quote :: value) := by
    rw [split]
    simp
  have filled : ∀ first ∈ (Json.quote :: value).head?, Yaml.isBlank first = false := by
    intro first head
    obtain rfl := Option.some.inj head
    decide
  rw [line, Yaml.readLine_entry keyed filled (List.cons_ne_nil _ _), String.ofList_toList]

theorem sound_name : (Line.name text).Sound := by
  refine ⟨by decide, fun value => ?_⟩
  have keyed : Yaml.Key "name".toList := .of_letters (by decide) (by decide)
  have line : "  - name: ".toList ++ Json.quote :: value =
      List.replicate 2 ' ' ++ '-' :: ' ' :: ("name".toList ++ ':' :: ' ' :: Json.quote :: value) := rfl
  have filled : ∀ first ∈ (Json.quote :: value).head?, Yaml.isBlank first = false := by
    intro first head
    obtain rfl := Option.some.inj head
    decide
  rw [line, Yaml.readLine_item_entry keyed filled (List.cons_ne_nil _ _), String.ofList_toList]

theorem sound_member : (Line.member text).Sound := by
  refine ⟨by decide, fun value => ?_⟩
  have line : "      - ".toList ++ Json.quote :: value = List.replicate 6 ' ' ++ '-' :: ' ' :: Json.quote :: value := rfl
  have content : Yaml.readContent (Json.quote :: value) = (Yaml.readInline (Json.quote :: value)).map .scalar := by
    rw [Yaml.readContent, show Yaml.isQuoted (Json.quote :: value) = true from rfl, if_pos rfl]
  rw [line, Yaml.readLine_item, Yaml.readTokens_content _ _ (by decide) (by decide), content, Option.map_map, Option.map_map]
  rfl

/-- A digit can begin a word and stand anywhere in it. -/
theorem digit_word {char : Char} (digit : char.isDigit = true) :
    Yaml.isWordChar char = true ∧ Yaml.isIndicator char = false ∧ ¬ (char = '-' ∨ char = '?') := by
  simp only [Char.isDigit, Bool.and_eq_true, decide_eq_true_eq] at digit
  have above : 48 ≤ char.toNat := digit.1
  have below : char.toNat ≤ 57 := digit.2
  have colon : char ≠ ':' := by
    rintro rfl
    exact absurd below (by decide)
  refine ⟨?_, ?_, ?_⟩
  · rw [Yaml.isWordChar, Bool.and_eq_true]
    exact ⟨decide_eq_true (by omega), decide_eq_true colon⟩
  · simp only [Yaml.isIndicator, List.mem_cons, List.not_mem_nil, or_false, decide_eq_false_iff_not]
    omega
  · rintro (rfl | rfl)
    · exact absurd above (by decide)
    · exact absurd below (by decide)

theorem Port.Plain.word : ∀ {port : Port}, port.Plain → Yaml.Word port.text
  | .other _ _, plain => plain
  | .nat value, _ => by
    have digits (char : Char) (member : char ∈ Nat.toDigits 10 value) : char.isDigit = true :=
      Nat.isDigit_of_mem_toDigits (by decide) (by decide) member
    refine ⟨?_, ?_, ?_⟩
    · exact List.ne_nil_of_length_pos Nat.length_toDigits_pos
    · exact List.all_eq_true.mpr fun char member => (digit_word (digits char member)).1
    · intro first head
      have digit := digit_word (digits first (List.mem_of_mem_head? head))
      exact ⟨digit.2.1, fun strange => absurd strange digit.2.2⟩

theorem Port.Plain.unbroken {port : Port} (plain : port.Plain) : '\n' ∉ port.text := fun member =>
  absurd (List.all_eq_true.mp plain.word.letters '\n' member) (by decide)

theorem sound_port {item : Item} (plain : item.port.Plain) :
    (Line.bare ("    port: ".toList ++ item.port.text) [(4, .entry "port" (some (Yaml.resolve item.port.text)))]).Sound := by
  have keyed : Yaml.Key "port".toList := .of_letters (by decide) (by decide)
  have line : "    port: ".toList ++ item.port.text =
      List.replicate 4 ' ' ++ ("port".toList ++ ':' :: ' ' :: item.port.text) := rfl
  refine ⟨?_, ?_⟩
  · rw [List.mem_append, not_or]
    exact ⟨by decide, plain.unbroken⟩
  · rw [line, Yaml.readLine_entry keyed plain.word.filled plain.word.written, Yaml.readInline_word plain.word,
      Option.map_some, String.ofList_toList]

end

theorem sound_proxyLayout {item : Item} (plain : item.port.Plain) : ∀ line ∈ proxyLayout item, line.Sound := by
  have key (name : String) (letters : name.toList.all Yaml.isWordChar = true) (starts : (name.toList.head?.any fun first =>
      !Yaml.isIndicator first && first ≠ '-' && first ≠ '?') = true) : Yaml.Key name.toList := .of_letters letters starts
  rw [proxyLayout]
  simp only [List.forall_mem_cons, List.not_mem_nil, false_imp_iff, implies_true, and_true]
  refine ⟨sound_name, ⟨by decide, rfl⟩, ?_, sound_port plain, ?_, ⟨by decide, rfl⟩, ?_, ?_, ⟨by decide, rfl⟩,
    ⟨by decide, rfl⟩, ?_, ⟨by decide, rfl⟩, ⟨by decide, rfl⟩, ⟨by decide, rfl⟩, ?_⟩
  all_goals exact sound_field (by decide) (key _ (by decide) (by decide)) rfl

theorem sound_layout {items : List Item} (plain : ∀ item ∈ items, item.port.Plain) :
    ∀ line ∈ layout items, line.Sound := by
  have first : ∀ line ∈ opening, line.Sound := by
    rw [opening]
    simp only [List.forall_mem_cons, List.not_mem_nil, false_imp_iff, implies_true, and_true]
    exact ⟨⟨by decide, rfl⟩, ⟨by decide, rfl⟩, ⟨by decide, rfl⟩, ⟨by decide, rfl⟩, ⟨by decide, rfl⟩⟩
  have second : ∀ line ∈ group, line.Sound := by
    rw [group]
    simp only [List.forall_mem_cons, List.not_mem_nil, false_imp_iff, implies_true, and_true]
    exact ⟨⟨by decide, rfl⟩, sound_name, ⟨by decide, rfl⟩, ⟨by decide, rfl⟩⟩
  have last : ∀ line ∈ rules, line.Sound := by
    rw [rules]
    simp only [List.forall_mem_cons, List.not_mem_nil, false_imp_iff, implies_true, and_true]
    exact ⟨⟨by decide, rfl⟩, ⟨by decide, rfl⟩, ⟨by decide, rfl⟩, ⟨by decide, rfl⟩⟩
  rw [forall_layout_iff]
  exact ⟨first, fun item listed => sound_proxyLayout (plain item listed), second, fun _ _ => sound_member, last⟩

/-- A line with a printed text is read as it is meant. -/
theorem Line.Sound.reads {line : Line} (sound : line.Sound) (clean : line.Clean) :
    '\n' ∉ line.written ∧ Yaml.readLine line.written = some line.meaning := by
  cases line with
  | bare text meaning => exact sound
  | quoted opening text meaning =>
    refine ⟨?_, ?_⟩
    · rw [Line.written, List.mem_append, not_or]
      exact ⟨sound.1, unbroken_esc (Printed.unbroken clean)⟩
    · have value := readInline_esc clean
      rw [esc, Yaml.double] at value
      rw [Line.written, esc, Yaml.double, sound.2, value]
      rfl

/-- The texts of an item that the file has in quotes. -/
structure PrintedItem (item : Item) : Prop where
  name : Printed (nameOf item)
  server : Printed (orElse item.address item.host)
  uuid : Printed item.uuid
  host : Printed item.host
  fingerprint : Printed (orElse item.fingerprint "chrome")
  path : Printed (orElse item.path ("/" ++ item.uuid))

theorem clean_proxyLayout_iff (item : Item) : (∀ line ∈ proxyLayout item, line.Clean) ↔ PrintedItem item := by
  rw [proxyLayout]
  simp only [List.forall_mem_cons, List.not_mem_nil, false_imp_iff, implies_true, and_true]
  constructor
  · rintro ⟨name, -, server, -, uuid, -, host, fingerprint, -, -, path, -⟩
    exact ⟨name, server, uuid, host, fingerprint, path⟩
  · rintro ⟨name, server, uuid, host, fingerprint, path⟩
    exact ⟨name, trivial, server, trivial, uuid, trivial, host, fingerprint, trivial, trivial, path, trivial, trivial,
      trivial, host⟩

/-- The quoted texts of the file are those of its items. -/
theorem clean_layout_iff (items : List Item) :
    (∀ line ∈ layout items, line.Clean) ↔ ∀ item ∈ items, PrintedItem item := by
  rw [forall_layout_iff]
  simp only [clean_proxyLayout_iff, opening, group, rules, List.forall_mem_cons, List.not_mem_nil, false_imp_iff,
    implies_true, and_true]
  constructor
  · rintro ⟨-, printed, -⟩
    exact printed
  · intro printed
    have select : Printed "SELECT" := List.all_eq_true.mp (by decide : "SELECT".toList.all Yaml.isPrinted = true)
    exact ⟨⟨trivial, trivial, trivial, trivial, trivial⟩, printed, ⟨trivial, select, trivial, trivial⟩,
      fun item listed => (printed item listed).name, trivial, trivial, trivial, trivial⟩

theorem tokens_clashYaml {items : List Item} (plain : ∀ item ∈ items, item.port.Plain)
    (clean : ∀ line ∈ layout items, line.Clean) :
    Yaml.tokens (clashYaml items) = some ((layout items).map Line.meaning).flatten := by
  have reads (line : Line) (member : line ∈ layout items) := (sound_layout plain line member).reads (clean line member)
  rw [clashYaml, ← written_layout]
  refine Yaml.tokens_lines ?_ ?_ ?_
  · exact List.cons_ne_nil _ _
  · rintro _ written
    obtain ⟨line, member, rfl⟩ := List.mem_map.mp written
    exact (reads line member).1
  · rw [List.forall₂_map_left_iff, List.forall₂_map_right_iff, List.forall₂_same]
    exact fun line member => (reads line member).2

/-! ## The blocks -/

def proxyTokens (item : Item) : List (ℕ × Yaml.Token) := (proxyLayout item).flatMap Line.meaning

/-- A proxy ends where the next item or the next key begins. -/
theorem readNode_proxy (item : Item) (fuel : ℕ) {column : ℕ} (token : Yaml.Token) (rest : List (ℕ × Yaml.Token))
    (outer : column = 0 ∨ column = 2) :
    Yaml.readNode (fuel + 22) ((proxyTokens item).tail ++ (column, token) :: rest) =
      some (proxyNode item, (column, token) :: rest) := by
  rcases outer with rfl | rfl <;> rfl

section

variable (items : List Item) (token : Yaml.Token) (rest : List (ℕ × Yaml.Token))

theorem readItems_proxies {fuel : ℕ} (enough : items.length + 23 ≤ fuel) :
    Yaml.readItems fuel 2 (items.flatMap proxyTokens ++ (0, token) :: rest) =
      some (items.map proxyNode, (0, token) :: rest) := by
  obtain ⟨extra, rfl⟩ := Nat.exists_eq_add_of_le' enough
  clear enough
  induction items with
  | nil => rfl
  | cons item items ih =>
    have next : ∃ column token' rest', (column = 0 ∨ column = 2) ∧
        items.flatMap proxyTokens ++ (0, token) :: rest = (column, token') :: rest' := by
      cases items with
      | nil => exact ⟨_, _, _, .inl rfl, rfl⟩
      | cons item items => exact ⟨_, _, _, .inr rfl, rfl⟩
    obtain ⟨column, token', rest', outer, split⟩ := next
    rw [split] at ih
    have node := readNode_proxy item (extra + items.length + 1) token' rest' outer
    have opened : proxyTokens item = (2, .dash) :: (proxyTokens item).tail := rfl
    rw [List.flatMap_cons, List.append_assoc, split, opened, List.cons_append, List.map_cons, List.length_cons,
      Nat.add_right_comm, ← Nat.add_assoc]
    exact Yaml.readItems_item rfl node ih

def memberTokens (item : Item) : List (ℕ × Yaml.Token) := [(6, .dash), (8, .scalar (.string (nameOf item)))]

theorem readItems_members {fuel : ℕ} (enough : items.length + 3 ≤ fuel) :
    Yaml.readItems fuel 6 (items.flatMap memberTokens ++ (0, token) :: rest) =
      some (items.map fun item => .string (nameOf item), (0, token) :: rest) := by
  obtain ⟨extra, rfl⟩ := Nat.exists_eq_add_of_le' enough
  clear enough
  induction items with
  | nil => rfl
  | cons item items ih =>
    rw [List.flatMap_cons, List.append_assoc, List.map_cons, List.length_cons, Nat.add_right_comm, ← Nat.add_assoc]
    exact Yaml.readItems_item rfl rfl ih

end

theorem length_proxies (items : List Item) : items.length ≤ (items.flatMap proxyTokens).length := by
  induction items with
  | nil => exact Nat.zero_le _
  | cons item items ih =>
    have proxy : (proxyTokens item).length = 16 := rfl
    rw [List.flatMap_cons, List.length_append, List.length_cons]
    omega

/-- The tokens of a file. -/
def fileTokens (items : List Item) : List (ℕ × Yaml.Token) :=
  (opening.map Line.meaning).flatten ++ (items.flatMap proxyTokens ++ ((group.map Line.meaning).flatten ++
    (items.flatMap memberTokens ++ (rules.map Line.meaning).flatten)))

theorem flatten_layout (items : List Item) : ((layout items).map Line.meaning).flatten = fileTokens items := by
  have proxies : ((items.flatMap proxyLayout).map Line.meaning).flatten = items.flatMap proxyTokens := by
    rw [← List.flatMap_def, List.flatMap_assoc]
    rfl
  have members : ((items.map fun item => Line.member (nameOf item)).map Line.meaning).flatten =
      items.flatMap memberTokens := by
    rw [List.map_map, ← List.flatMap_def]
    rfl
  simp only [layout, fileTokens, List.map_append, List.flatten_append, proxies, members, List.append_assoc]

theorem length_fileTokens (items : List Item) : items.length + 17 ≤ (fileTokens items).length := by
  have proxies := length_proxies items
  have first : (opening.map Line.meaning).flatten.length = 5 := rfl
  have second : (group.map Line.meaning).flatten.length = 5 := rfl
  have last : (rules.map Line.meaning).flatten.length = 7 := rfl
  simp only [fileTokens, List.length_append]
  omega

section

variable (item : Item) (items : List Item) {fuel : ℕ}

theorem readNode_members (enough : (item :: items).length ≤ fuel) :
    Yaml.readNode (fuel + 4) ((item :: items).flatMap memberTokens ++ (rules.map Line.meaning).flatten) =
      some (.seq ((item :: items).map fun item => .string (nameOf item)), (rules.map Line.meaning).flatten) := by
  apply Yaml.readNode_items
  exact readItems_members (item :: items) _ _ (by omega : (item :: items).length + 3 ≤ fuel + 3)

theorem readNode_group (enough : (item :: items).length ≤ fuel) :
    Yaml.readNode (fuel + 10) ((group.map Line.meaning).flatten.tail ++
        ((item :: items).flatMap memberTokens ++ (rules.map Line.meaning).flatten)) =
      some (.seq [.map [("name", .string "SELECT"), ("type", .string "select"),
        ("proxies", .seq ((item :: items).map fun item => .string (nameOf item)))]], (rules.map Line.meaning).flatten) := by
  have members := readNode_members item items enough
  have fields : Yaml.readFields (fuel + 7) 4 ((group.map Line.meaning).flatten.tail.tail ++
        ((item :: items).flatMap memberTokens ++ (rules.map Line.meaning).flatten)) =
      some ([("name", .string "SELECT"), ("type", .string "select"),
        ("proxies", .seq ((item :: items).map fun item => .string (nameOf item)))], (rules.map Line.meaning).flatten) := by
    apply Yaml.readFields_value
    · apply Yaml.readFields_value
      · exact Yaml.readFields_block rfl members rfl (by decide)
      · simp +decide
    · simp +decide
  apply Yaml.readNode_items
  apply Yaml.readItems_item rfl
  · exact Yaml.readNode_fields fields
  · rfl

theorem readNode_proxies (enough : (item :: items).length ≤ fuel) :
    Yaml.readNode (fuel + 29) ((item :: items).flatMap proxyTokens ++ ((group.map Line.meaning).flatten ++
        ((item :: items).flatMap memberTokens ++ (rules.map Line.meaning).flatten))) =
      some (.seq ((item :: items).map proxyNode), (group.map Line.meaning).flatten ++
        ((item :: items).flatMap memberTokens ++ (rules.map Line.meaning).flatten)) := by
  apply Yaml.readNode_items
  exact readItems_proxies (item :: items) _ _ (by omega : (item :: items).length + 23 ≤ fuel + 28)

theorem readNode_file (enough : (item :: items).length ≤ fuel) :
    Yaml.readNode (fuel + 35) (fileTokens (item :: items)) = some (document (item :: items), []) := by
  have list := readNode_proxies item items enough
  have select : Yaml.readNode (fuel + 28) _ = _ := readNode_group item items (by omega : _ ≤ fuel + 18)
  have fields : Yaml.readFields (fuel + 34) 0 (fileTokens (item :: items)) = some ([
      ("mixed-port", .int 7890),
      ("allow-lan", .bool false),
      ("mode", .string "rule"),
      ("log-level", .string "warning"),
      ("proxies", .seq ((item :: items).map proxyNode)),
      ("proxy-groups", .seq [.map [
        ("name", .string "SELECT"),
        ("type", .string "select"),
        ("proxies", .seq ((item :: items).map fun item => .string (nameOf item)))]]),
      ("rules", .seq [.string "DOMAIN-SUFFIX,ir,DIRECT", .string "GEOIP,IR,DIRECT", .string "MATCH,SELECT"])], []) := by
    apply Yaml.readFields_value
    · apply Yaml.readFields_value
      · apply Yaml.readFields_value
        · apply Yaml.readFields_value
          · apply Yaml.readFields_block rfl list
            · exact Yaml.readFields_block rfl select rfl (by decide)
            · simp +decide
          · simp +decide
        · simp +decide
      · simp +decide
    · simp +decide
  exact Yaml.readNode_fields fields

end

/-- The lines say what the document says, whatever stands in quotes. -/
theorem readBlock_layout (items : List Item) :
    Yaml.readBlock ((layout items).map Line.meaning).flatten = some (document items) := by
  rw [flatten_layout]
  cases items with
  | nil => rfl
  | cons item items =>
    have long := length_fileTokens (item :: items)
    have positive : 0 < (item :: items).length := Nat.succ_pos _
    obtain ⟨fuel, amount⟩ := Nat.exists_eq_add_of_le' (by omega : 35 ≤ 2 * (fileTokens (item :: items)).length + 1)
    rw [Yaml.readBlock, amount, readNode_file item items (by omega)]

/-! ## What is read back -/

/-- The leaves of a line in quotes end with those of its value. -/
def Line.Leafy : Line → Prop
  | bare _ _ => True
  | quoted _ _ meaning => ∃ keys, ∀ value, Yaml.leavesOf (meaning value) = keys ++ value.leaves

theorem leafy_layout (items : List Item) : ∀ line ∈ layout items, line.Leafy := by
  have field (opening name text : String) (indent : ℕ) : (Line.field opening name indent text).Leafy :=
    ⟨[.key name], fun value => List.append_nil _⟩
  have name (text : String) : (Line.name text).Leafy := ⟨[.key "name"], fun value => List.append_nil _⟩
  have member (text : String) : (Line.member text).Leafy := ⟨[], fun value => List.append_nil _⟩
  rw [forall_layout_iff]
  simp only [proxyLayout, opening, group, rules, List.forall_mem_cons, List.not_mem_nil, false_imp_iff, implies_true, and_true]
  refine ⟨⟨trivial, trivial, trivial, trivial, trivial⟩, fun item _ => ?_, ⟨trivial, name _, trivial, trivial⟩,
    fun item _ => member _, trivial, trivial, trivial, trivial⟩
  exact ⟨name _, trivial, field .., trivial, field .., trivial, field .., field .., trivial, trivial, field .., trivial,
    trivial, trivial, field ..⟩

/-- What stands in quotes on the first line of a text is the whole text only if the text is printed. -/
theorem printed_of_first {opening text : String} {meaning : Yaml → List (ℕ × Yaml.Token)}
    (sound : (Line.quoted opening text meaning).Sound) {first : List (ℕ × Yaml.Token)} {lines : List (List Char)}
    {line : List Char} (split : (Line.quoted opening text meaning).written.splitOn '\n' = line :: lines)
    (read : Yaml.readLine line = some first) :
    ∃ value, first = meaning (.string value) ∧ (value = text → Printed text) := by
  have cut : ∃ shown tail, (tail = [] ∨ tail = [Json.quote]) ∧
      line = opening.toList ++ Json.quote :: (Yaml.escapeQuotes shown ++ tail) ∧ shown.length ≤ text.toList.length ∧
      (shown.length = text.toList.length → shown = text.toList) := by
    by_cases broken : '\n' ∈ text.toList
    · -- the line ends within the quotes
      obtain ⟨front, back, parts, unbroken⟩ := List.eq_append_cons_of_mem broken
      have written : (Line.quoted opening text meaning).written =
          (opening.toList ++ Json.quote :: Yaml.escapeQuotes front) ++ '\n' :: (Yaml.escapeQuotes back ++ [Json.quote]) := by
        rw [Line.written, esc, parts, Yaml.double, Yaml.escapeQuotes, List.flatMap_append, List.flatMap_cons,
          if_neg (by decide)]
        simp [Yaml.escapeQuotes]
      have plain : '\n' ∉ opening.toList ++ Json.quote :: Yaml.escapeQuotes front := by
        rw [List.mem_append, List.mem_cons, not_or, not_or]
        exact ⟨sound.1, by decide, unbroken_escapeQuotes unbroken⟩
      rw [written, List.splitOn_append_cons_self_of_not_mem plain] at split
      refine ⟨front, [], .inl rfl, ?_, ?_, ?_⟩
      · rw [List.append_nil]
        exact (List.cons.inj split).1.symm
      · rw [parts, List.length_append]
        exact Nat.le_add_right _ _
      · intro same
        rw [parts, List.length_append, List.length_cons] at same
        omega
    · have unbroken : '\n' ∉ (Line.quoted opening text meaning).written := by
        rw [Line.written, esc, Yaml.double, List.mem_append, List.mem_cons, List.mem_append, List.mem_singleton, not_or,
          not_or, not_or]
        exact ⟨sound.1, by decide, unbroken_escapeQuotes broken, by decide⟩
      rw [List.splitOn_eq_singleton unbroken] at split
      exact ⟨text.toList, [Json.quote], .inr rfl, (List.cons.inj split).1.symm, le_rfl, fun _ => rfl⟩
  obtain ⟨shown, tail, ends, rfl, most, whole⟩ := cut
  rw [sound.2] at read
  obtain ⟨result, found, rfl⟩ := Option.map_eq_some_iff.mp read
  obtain ⟨value, rfl, bound, printed⟩ := Yaml.readInline_length ends found
  refine ⟨_, rfl, fun same => ?_⟩
  have length : value.length = text.toList.length := by rw [← same, String.toList_ofList]
  have full : shown.length = text.toList.length := by omega
  rw [Printed, ← whole full]
  exact printed (by omega)

/-- Where the lines have the leaves that they are meant to have, every text in quotes is printed. -/
theorem clean_of_leaves {lines : List Line} (sound : ∀ line ∈ lines, line.Sound) (leafy : ∀ line ∈ lines, line.Leafy)
    {read : List (List (ℕ × Yaml.Token))}
    (all : (lines.flatMap fun line => line.written.splitOn '\n').mapM Yaml.readLine = some read)
    (same : Yaml.leavesOf read.flatten = Yaml.leavesOf (lines.map Line.meaning).flatten) : ∀ line ∈ lines, line.Clean := by
  induction lines generalizing read with
  | nil => exact fun line member => absurd member List.not_mem_nil
  | cons line lines ih =>
    obtain ⟨soundLine, sound⟩ := List.forall_mem_cons.mp sound
    obtain ⟨leafyLine, leafy⟩ := List.forall_mem_cons.mp leafy
    rw [List.flatMap_cons, List.mapM_append] at all
    obtain ⟨first, here, all⟩ := Option.bind_eq_some_iff.mp all
    obtain ⟨later, behind, made⟩ := Option.bind_eq_some_iff.mp all
    obtain rfl := Option.some.inj made
    rw [List.flatten_append, List.map_cons, List.flatten_cons, Yaml.leavesOf_append, Yaml.leavesOf_append] at same
    have clean : line.Clean := by
      cases line with
      | bare text meaning => trivial
      | quoted opening text meaning =>
        obtain ⟨keys, ends⟩ := leafyLine
        obtain ⟨start, others, split⟩ := List.exists_cons_of_ne_nil
          (List.splitOn_ne_nil '\n' (Line.quoted opening text meaning).written)
        rw [split, List.mapM_cons] at here
        obtain ⟨tokens, startRead, here⟩ := Option.bind_eq_some_iff.mp here
        obtain ⟨more, -, made⟩ := Option.bind_eq_some_iff.mp here
        obtain rfl := Option.some.inj made
        obtain ⟨value, rfl, printed⟩ := printed_of_first soundLine split startRead
        rw [List.flatten_cons, Yaml.leavesOf_append, Line.meaning, ends, ends, List.append_assoc, List.append_assoc,
          List.append_assoc, List.append_cancel_left_eq] at same
        have leaf := (List.cons.inj same).1
        exact printed (Yaml.string.inj (Yaml.Leaf.scalar.inj leaf))
    refine List.forall_mem_cons.mpr ⟨clean, ih sound leafy behind ?_⟩
    obtain ⟨unbroken, meant⟩ := soundLine.reads clean
    rw [List.splitOn_eq_singleton unbroken, List.mapM_cons, meant] at here
    obtain rfl : [line.meaning] = first := Option.some.inj here
    rw [List.flatten_cons, List.flatten_nil, List.append_nil] at same
    exact List.append_cancel_left same

/-- The file is cut at the line breaks in its lines too. -/
theorem splitOn_written (lines : List Line) (given : lines ≠ []) :
    (List.intercalate ['\n'] (lines.map Line.written)).splitOn '\n' =
      lines.flatMap fun line => line.written.splitOn '\n' := by
  induction lines with
  | nil => exact absurd rfl given
  | cons line lines ih =>
    cases lines with
    | nil => simp
    | cons next lines =>
      rw [List.map_cons, List.map_cons, List.intercalate_cons_cons, ← List.map_cons, List.append_assoc, List.singleton_append,
        List.splitOn_append_cons_self, ih (List.cons_ne_nil _ _)]
      rfl

section

variable {items : List Item} (plain : ∀ item ∈ items, item.port.Plain)

include plain

theorem read_of_printed (printed : ∀ item ∈ items, PrintedItem item) :
    Yaml.read (clashYaml items) = some (document items) := by
  rw [Yaml.read, tokens_clashYaml plain ((clean_layout_iff items).mpr printed)]
  exact readBlock_layout items

theorem printed_of_read (read : Yaml.read (clashYaml items) = some (document items)) :
    ∀ item ∈ items, PrintedItem item := by
  obtain ⟨lines, all, same⟩ := Yaml.leaves_read read
  rw [clashYaml, ← written_layout, splitOn_written _ (by exact List.cons_ne_nil _ _)] at all
  refine (clean_layout_iff items).mp (clean_of_leaves (sound_layout plain) (leafy_layout items) all ?_)
  rw [same, Yaml.leaves_readBlock (readBlock_layout items)]

/-- The file is read as the document that is meant exactly when every text in it has no backslash, no line break and no
other control character but a tab. -/
theorem read_clashYaml_iff : Yaml.read (clashYaml items) = some (document items) ↔ ∀ item ∈ items, PrintedItem item :=
  ⟨printed_of_read plain, read_of_printed plain⟩

end

namespace Sample

def item (remark : String) : Item where
  uuid := "0b6f2c1e-8a4d-4f7b-9c3e-2d1a0f9b8c7d"
  host := "panel.example.workers.dev"
  address := "104.16.0.0"
  port := .nat 443
  path := "/0b6f2c1e-8a4d-4f7b-9c3e-2d1a0f9b8c7d"
  fingerprint := ""
  remark := remark

end Sample

theorem read_clashYaml_quoted :
    Yaml.read (clashYaml [Sample.item "Home: \"new\" #1"]) = some (document [Sample.item "Home: \"new\" #1"]) := by
  have printed (text : String) (letters : text.toList.all Yaml.isPrinted = true) : Printed text :=
    List.all_eq_true.mp letters
  refine (read_clashYaml_iff ?_).mpr ?_
  · intro item member
    obtain rfl := List.mem_singleton.mp member
    trivial
  · intro item member
    obtain rfl := List.mem_singleton.mp member
    exact ⟨printed _ (by decide +kernel), printed _ (by decide +kernel), printed _ (by decide +kernel),
      printed _ (by decide +kernel), printed _ (by decide +kernel), printed _ (by decide +kernel)⟩

/-- A backslash and the letter behind it are read as another character. -/
theorem backslash_misread :
    Yaml.read (clashYaml [Sample.item "Home\\new"]) ≠ some (document [Sample.item "Home\\new"]) := by
  intro read
  have plain : ∀ item ∈ [Sample.item "Home\\new"], item.port.Plain := by
    intro item member
    obtain rfl := List.mem_singleton.mp member
    trivial
  have printed := (printed_of_read plain read _ (List.mem_singleton_self _)).name
  exact absurd (printed (Char.ofNat 92) (by decide +kernel)) (by decide)

end OmniControlPlane.Panel.Generator
