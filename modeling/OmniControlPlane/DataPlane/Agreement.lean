import OmniControlPlane.DataPlane.Formats

/-! # What the three forms agree on

The share links and the sing-box profiles of a ready bundle always give back the credentials. The Clash file
writes them as plain scalars, and gives them back unless one of them looks like a number.
-/

namespace OmniControlPlane.DataPlane.Formats

open Lib

/-- What `buildReadyBundle` is given beside the row and the secrets. -/
def optionsOf (subscriptionToken : Matching (isTokenOf 43 43)) (controlOrigin : Option String) : ProfileOptions :=
  ⟨some subscriptionToken.val, controlOrigin⟩

/-! ## Plain texts -/

/-- The characters of names, tokens and identifiers. -/
def isNameChar (char : Char) : Bool := isTokenChar char || char = '.'

theorem isNameChar_small {char : Char} (letter : isNameChar char = true) : char.toNat < 128 := by
  simp only [isNameChar, isTokenChar, isAlphanumeric, Bool.or_eq_true, Bool.and_eq_true, decide_eq_true_eq] at letter
  rcases letter with ((((lower | upper) | digit) | rfl) | rfl) | rfl
  · exact Nat.lt_of_le_of_lt (Char.le_def.mp lower.2) (by decide : 'z'.toNat < 128)
  · exact Nat.lt_of_le_of_lt (Char.le_def.mp upper.2) (by decide : 'Z'.toNat < 128)
  · exact Nat.lt_of_le_of_lt (Char.le_def.mp digit.2) (by decide : '9'.toNat < 128)
  · decide
  · decide
  · decide

/-- A name begins no other scalar than a plain one. -/
theorem isNameChar_plain {char : Char} (letter : isNameChar char = true) :
    Yaml.isWordChar char = true ∧ Yaml.isIndicator char = false ∧ char ≠ '?' := by
  have table : ∀ code < 128, isNameChar (Char.ofNat code) = true → Yaml.isWordChar (Char.ofNat code) = true ∧
      Yaml.isIndicator (Char.ofNat code) = false ∧ Char.ofNat code ≠ '?' := by decide
  have entry := table char.toNat (isNameChar_small letter)
  rw [Char.ofNat_toNat] at entry
  exact entry letter

section

variable {text : List Char}

theorem word_of_name (letters : ∀ char ∈ text, isNameChar char = true) (size : 2 ≤ text.length) : Yaml.Word text where
  written := by
    rintro rfl
    exact absurd size (by decide)
  letters := List.all_eq_true.mpr fun char member => (isNameChar_plain (letters char member)).1
  plain first head := by
    obtain ⟨next, rest, rfl⟩ := List.exists_cons_of_ne_nil (List.ne_nil_of_mem (List.mem_of_mem_head? head))
    obtain rfl := Option.some.inj head
    refine ⟨(isNameChar_plain (letters next List.mem_cons_self)).2.1, fun _ ended => ?_⟩
    rw [show rest = [] from ended, List.length_singleton] at size
    omega

theorem isNameChar_of_hex {char : Char} (hex : isHex char = true) : isNameChar char = true := by
  simp only [isHex, Bool.or_eq_true, Bool.and_eq_true, decide_eq_true_eq] at hex
  simp only [isNameChar, isTokenChar, isAlphanumeric, Bool.or_eq_true, Bool.and_eq_true, decide_eq_true_eq]
  rcases hex with digit | letter
  · exact .inl (.inl (.inl (.inr digit)))
  · exact .inl (.inl (.inl (.inl (.inl ⟨letter.1, Char.le_trans letter.2 (by decide : 'f' ≤ 'z')⟩))))

theorem isNameChar_of_lower {char : Char} (lower : isLowerAlphanumeric char = true) : isNameChar char = true := by
  simp only [isLowerAlphanumeric, Bool.or_eq_true, Bool.and_eq_true, decide_eq_true_eq] at lower
  simp only [isNameChar, isTokenChar, isAlphanumeric, Bool.or_eq_true, Bool.and_eq_true, decide_eq_true_eq]
  rcases lower with letter | digit
  · exact .inl (.inl (.inl (.inl (.inl letter))))
  · exact .inl (.inl (.inl (.inr digit)))

theorem not_word {texts : List Char} (size : 5 < texts.length) : texts ∉ Yaml.words := fun member => by
  have short : ∀ word ∈ Yaml.words, word.length ≤ 5 := by decide
  have bound := short texts member
  omega

end

/-- What a name of a host is made of: lower-case letters, digits, dashes and at least one dot, and its first is no dash. -/
theorem hostname_letters (host : Hostname) : (∀ char ∈ host.val.toList, isNameChar char = true) ∧
    '.' ∈ host.val.toList ∧ (∀ first ∈ host.val.toList.head?, isLowerAlphanumeric first = true) := by
  obtain ⟨text, valid⟩ := host
  simp only [isValidHostname, Bool.and_eq_true, List.all_eq_true, decide_eq_true_eq] at valid
  obtain ⟨⟨-, dotted⟩, labels⟩ := valid
  have whole : List.intercalate ['.'] (text.toList.splitOn '.') = text.toList := List.intercalate_splitOn _
  have letters {label : List Char} (member : label ∈ text.toList.splitOn '.') :
      (∀ char ∈ label, isNameChar char = true) ∧ label.head?.any isLowerAlphanumeric = true := by
    have valid := labels label member
    simp only [isLabel, Bool.and_eq_true, List.all_eq_true, Bool.or_eq_true, decide_eq_true_eq] at valid
    refine ⟨fun char inLabel => ?_, valid.1.2⟩
    rcases valid.1.1.2 char inLabel with lower | rfl
    · exact isNameChar_of_lower lower
    · decide
  refine ⟨fun char member => ?_, dotted, fun first head => ?_⟩
  · rw [← whole] at member
    generalize text.toList.splitOn '.' = parts at member letters
    induction parts with
    | nil => contradiction
    | cons label rest ih =>
      cases rest with
      | nil =>
        rw [List.intercalate_singleton] at member
        exact (letters List.mem_cons_self).1 char member
      | cons next rest =>
        rw [List.intercalate_cons_cons, List.append_assoc, List.mem_append, List.mem_append] at member
        rcases member with here | gap | later
        · exact (letters List.mem_cons_self).1 char here
        · rw [List.mem_singleton.mp gap]
          decide
        · exact ih later fun inRest => letters (List.mem_cons_of_mem _ inRest)
  · cases split : text.toList.splitOn '.' with
    | nil =>
      rw [split] at whole
      rw [← whole] at dotted
      contradiction
    | cons label rest =>
      have starts := (letters (split ▸ List.mem_cons_self)).2
      cases label with
      | nil => contradiction
      | cons letter tail =>
        have opening : text.toList.head? = some letter := by
          rw [← whole, split]
          cases rest with
          | nil => rfl
          | cons next rest => rfl
        obtain rfl := Option.some.inj (opening.symm.trans head)
        simpa using starts

/-! ## The credentials as plain scalars -/

section

variable (deployment : DeploymentRow) (payload : AgentCompletePayload)

theorem token_letters {least most : ℕ} (token : Matching (isTokenOf least most)) :
    (∀ char ∈ token.val.toList, isNameChar char = true) ∧ least ≤ token.val.toList.length := by
  have valid := token.property
  simp only [isTokenOf, Bool.and_eq_true, List.all_eq_true, decide_eq_true_eq] at valid
  exact ⟨fun char member => by rw [isNameChar, valid.2 char member, Bool.true_or], valid.1.1⟩

theorem hex_letters {size : ℕ} {text : List Char} (valid : isHexOf size text = true) :
    (∀ char ∈ text, isNameChar char = true) ∧ text.length = size := by
  simp only [isHexOf, Bool.and_eq_true, List.all_eq_true, decide_eq_true_eq] at valid
  exact ⟨fun char member => isNameChar_of_hex (valid.2 char member), valid.1⟩

/-- The five groups of an identifier. -/
theorem uuid_groups (uuid : Matching isUuid) : ∃ a b c d e,
    uuid.val.toList = a ++ '-' :: (b ++ '-' :: (c ++ '-' :: (d ++ '-' :: e))) ∧
    isHexOf 8 a = true ∧ isHexOf 4 b = true ∧ isHexOf 4 c = true ∧ isHexOf 4 d = true ∧ isHexOf 12 e = true := by
  obtain ⟨text, valid⟩ := uuid
  have whole : List.intercalate ['-'] (text.toList.splitOn '-') = text.toList := List.intercalate_splitOn _
  rw [isUuid] at valid
  split at valid
  · next a b c d e split =>
    rw [split] at whole
    simp only [Bool.and_eq_true] at valid
    obtain ⟨⟨⟨⟨⟨⟨first, second⟩, third⟩, -⟩, fourth⟩, -⟩, fifth⟩ := valid
    exact ⟨a, b, c, d, e, by rw [← whole]; simp [List.intercalate_cons_cons], first, second, third, fourth, fifth⟩
  · contradiction

theorem uuid_letters (uuid : Matching isUuid) :
    (∀ char ∈ uuid.val.toList, isNameChar char = true) ∧ uuid.val.toList.length = 36 := by
  obtain ⟨a, b, c, d, e, split, first, second, third, fourth, fifth⟩ := uuid_groups uuid
  have dash : isNameChar '-' = true := by decide
  rw [split]
  refine ⟨fun char member => ?_, ?_⟩
  · simp only [List.mem_append, List.mem_cons] at member
    rcases member with inA | rfl | inB | rfl | inC | rfl | inD | rfl | inE
    · exact (hex_letters first).1 char inA
    · exact dash
    · exact (hex_letters second).1 char inB
    · exact dash
    · exact (hex_letters third).1 char inC
    · exact dash
    · exact (hex_letters fourth).1 char inD
    · exact dash
    · exact (hex_letters fifth).1 char inE
  · simp only [List.length_append, List.length_cons, (hex_letters first).2, (hex_letters second).2, (hex_letters third).2,
      (hex_letters fourth).2, (hex_letters fifth).2]

/-- An identifier has four dashes, and is no number. -/
theorem uuid_no_number (uuid : Matching isUuid) : Yaml.isNumber uuid.val.toList = false := by
  obtain ⟨a, b, c, d, e, split, first, -⟩ := uuid_groups uuid
  have size := (hex_letters first).2
  rw [isHexOf, Bool.and_eq_true, List.all_eq_true] at first
  match a, size with
  | one :: two :: rest, _ =>
    have second : isHex two = true := first.2 two (by simp)
    rw [split]
    refine Yaml.isNumber_eq_false ?_ ?_ ?_
    · simp only [List.count_append, List.count_cons_self]
      omega
    · intro same
      simp only [List.cons_append, List.take_succ_cons, List.take_zero, List.cons.injEq] at same
      exact absurd (same.2.1 ▸ second) (by decide)
    · intro same
      simp only [List.cons_append, List.take_succ_cons, List.take_zero, List.cons.injEq] at same
      exact absurd (same.2.1 ▸ second) (by decide)

theorem hostname_ordinary (host : Hostname) : host.val.toList ∉ Yaml.words := fun member => by
  have undotted : ∀ word ∈ Yaml.words, '.' ∉ word := by decide
  exact undotted _ member (hostname_letters host).2.1

theorem hostname_word (host : Hostname) : Yaml.Word host.val.toList := by
  obtain ⟨letters, dotted, starts⟩ := hostname_letters host
  apply word_of_name letters
  match split : host.val.toList with
  | [] =>
    rw [split] at dotted
    contradiction
  | [first] =>
    rw [split] at dotted starts
    obtain rfl := List.mem_singleton.mp dotted
    exact absurd (starts '.' rfl) (by decide)
  | _ :: _ :: _ => simp

theorem hostname_key (host : Hostname) : Yaml.Key host.val.toList where
  word := hostname_word host
  dash head := absurd ((hostname_letters host).2.2 '-' head) (by decide)

/-- What a client reads of a plain scalar that stands for a credential. -/
theorem text?_scalar {text : String} (ordinary : text.toList ∉ Yaml.words) :
    (Yaml.resolve text.toList).text? = if Yaml.isNumber text.toList then none else some text := by
  rw [Yaml.text?_resolve ordinary, String.ofList_toList]

end

/-! ## The lines of the Clash file -/

section

variable (deployment : DeploymentRow) (payload : AgentCompletePayload) (subscriptionToken : Matching (isTokenOf 43 43))

/-- A plain scalar. -/
abbrev scalar (text : String) : Option Yaml := some (Yaml.resolve text.toList)

def resolverOf : String :=
  "https://" ++ deployment.worker_hostname.val ++ "/dns-query?k=" ++ subscriptionToken.val ++ "#PROXY"

def realityTokens : List (List (ℕ × Yaml.Token)) := [
  [(2, .dash), (4, .entry "name" (scalar (deployment.worker_name.val ++ "-reality")))],
  [(4, .entry "type" (some (.string "vless")))],
  [(4, .entry "server" (scalar deployment.node_hostname.val))],
  [(4, .entry "port" (some (.int payload.vlessPort.val)))],
  [(4, .entry "uuid" (scalar payload.vlessUuid.val))],
  [(4, .entry "flow" (some (.string "xtls-rprx-vision")))],
  [(4, .entry "tls" (some (.bool true)))],
  [(4, .entry "servername" (scalar deployment.reality_server_name.val))],
  [(4, .entry "client-fingerprint" (some (.string "chrome")))],
  [(4, .entry "reality-opts" none)],
  [(6, .entry "public-key" (scalar payload.realityPublicKey.val))],
  [(6, .entry "short-id" (scalar payload.realityShortId.val))]]

def hysteria2Tokens : List (List (ℕ × Yaml.Token)) := [
  [(2, .dash), (4, .entry "name" (scalar (deployment.worker_name.val ++ "-hy2")))],
  [(4, .entry "type" (some (.string "hysteria2")))],
  [(4, .entry "server" (scalar deployment.node_hostname.val))],
  [(4, .entry "port" (some (.int 443)))],
  [(4, .entry "password" (scalar payload.hysteria2Password.val))],
  [(4, .entry "sni" (scalar deployment.node_hostname.val))],
  [(4, .entry "skip-cert-verify" (some (.bool true)))]]

def headTokens : List (List (ℕ × Yaml.Token)) := [
  [(0, .entry "mixed-port" (some (.int 2080)))],
  [(0, .entry "allow-lan" (some (.bool false)))],
  [(0, .entry "mode" (some (.string "rule")))],
  [(0, .entry "hosts" none)],
  [(2, .entry deployment.worker_hostname.val (scalar CF_EDGE_PIN_IPV4))],
  [(0, .entry "dns" none)],
  [(2, .entry "enable" (some (.bool true)))],
  [(2, .entry "default-nameserver" (some (.seq [.string "1.1.1.1"])))],
  [(2, .entry "nameserver" (some (.seq [.string (resolverOf deployment subscriptionToken)])))],
  [(0, .entry "proxies" none)]]

def groupTokens : List (List (ℕ × Yaml.Token)) := [
  [(0, .entry "proxy-groups" none)],
  [(2, .dash), (4, .entry "name" (some (.string "PROXY")))],
  [(4, .entry "type" (some (.string "select")))],
  [(4, .entry "proxies" none)],
  [(6, .dash), (8, .scalar (Yaml.resolve (deployment.worker_name.val ++ "-reality").toList))],
  [(6, .dash), (8, .scalar (Yaml.resolve (deployment.worker_name.val ++ "-hy2").toList))],
  [(0, .entry "rules" none)],
  [(2, .dash), (4, .scalar (Yaml.resolve ("DOMAIN," ++ deployment.worker_hostname.val ++ ",DIRECT").toList))],
  [(2, .dash), (4, .scalar (.string "DOMAIN-SUFFIX,ir,DIRECT"))],
  [(2, .dash), (4, .scalar (.string "GEOIP,IR,DIRECT"))],
  [(2, .dash), (4, .scalar (.string "MATCH,PROXY"))]]

/-- What stands on the lines. -/
def clashTokens : List (List (ℕ × Yaml.Token)) :=
  headTokens deployment subscriptionToken ++ realityTokens deployment payload ++ hysteria2Tokens deployment payload ++
    groupTokens deployment

def realityProxy : Yaml := .map [
  ("name", Yaml.resolve (deployment.worker_name.val ++ "-reality").toList),
  ("type", .string "vless"),
  ("server", Yaml.resolve deployment.node_hostname.val.toList),
  ("port", .int payload.vlessPort.val),
  ("uuid", Yaml.resolve payload.vlessUuid.val.toList),
  ("flow", .string "xtls-rprx-vision"),
  ("tls", .bool true),
  ("servername", Yaml.resolve deployment.reality_server_name.val.toList),
  ("client-fingerprint", .string "chrome"),
  ("reality-opts", .map [
    ("public-key", Yaml.resolve payload.realityPublicKey.val.toList),
    ("short-id", Yaml.resolve payload.realityShortId.val.toList)])]

def hysteria2Proxy : Yaml := .map [
  ("name", Yaml.resolve (deployment.worker_name.val ++ "-hy2").toList),
  ("type", .string "hysteria2"),
  ("server", Yaml.resolve deployment.node_hostname.val.toList),
  ("port", .int 443),
  ("password", Yaml.resolve payload.hysteria2Password.val.toList),
  ("sni", Yaml.resolve deployment.node_hostname.val.toList),
  ("skip-cert-verify", .bool true)]

/-- The proxies that a reader of the lines finds. -/
theorem readBlock_clashTokens : (Yaml.readBlock (clashTokens deployment payload subscriptionToken).flatten).bind
    (Yaml.field? "proxies") = some (.seq [realityProxy deployment payload, hysteria2Proxy deployment payload]) := by
  rfl

end

/-! ## Reading the Clash file -/

section

variable {line : String} {indent : ℕ} {key value : List Char}

theorem readLine_scalar (keyed : Yaml.Key key) (word : Yaml.Word value)
    (split : line.toList = List.replicate indent ' ' ++ (key ++ ':' :: ' ' :: value)) :
    Yaml.readLine line.toList = some [(indent, .entry (String.ofList key) (some (Yaml.resolve value)))] := by
  rw [split, Yaml.readLine_entry keyed word.filled word.written, Yaml.readInline_word word, Option.map_some]

theorem readLine_item_scalar (keyed : Yaml.Key key) (word : Yaml.Word value)
    (split : line.toList = List.replicate indent ' ' ++ '-' :: ' ' :: (key ++ ':' :: ' ' :: value)) :
    Yaml.readLine line.toList =
      some [(indent, .dash), (indent + 2, .entry (String.ofList key) (some (Yaml.resolve value)))] := by
  rw [split, Yaml.readLine_item_entry keyed word.filled word.written, Yaml.readInline_word word, Option.map_some]

end

section

variable (deployment : DeploymentRow) (payload : AgentCompletePayload) (subscriptionToken : Matching (isTokenOf 43 43))
  (controlOrigin : Option String)

theorem workerName_word (name : WorkerName) {suffix : String} (letters : suffix.toList.all isNameChar = true) :
    Yaml.Word (name.val ++ suffix).toList := by
  have valid := name.property
  simp only [isValidWorkerName, Bool.and_eq_true, List.all_eq_true, Bool.or_eq_true, decide_eq_true_eq] at valid
  obtain ⟨⟨⟨⟨long, -⟩, named⟩, -⟩, -⟩ := valid
  rw [String.toList_append]
  refine word_of_name (fun char member => ?_) (by rw [List.length_append]; omega)
  rcases List.mem_append.mp member with inside | after
  · rcases named char inside with lower | rfl
    · exact isNameChar_of_lower lower
    · decide
  · exact List.all_eq_true.mp letters char after

/-- A name of a Worker begins with a letter. -/
theorem workerName_key (name : WorkerName) {suffix : String} (letters : suffix.toList.all isNameChar = true) :
    Yaml.Key (name.val ++ suffix).toList := by
  refine ⟨workerName_word name letters, ?_⟩
  have valid := name.property
  simp only [isValidWorkerName, Bool.and_eq_true, decide_eq_true_eq] at valid
  obtain ⟨⟨⟨⟨long, -⟩, -⟩, starts⟩, -⟩ := valid
  rw [String.toList_append]
  cases split : name.val.toList with
  | nil =>
    rw [split] at long
    contradiction
  | cons first rest =>
    rw [split] at starts
    rintro same
    obtain rfl := Option.some.inj same
    rw [List.head?_cons] at starts
    exact absurd starts (by decide)

theorem token_word {least most : ℕ} (token : Matching (isTokenOf least most)) (size : 2 ≤ least) :
    Yaml.Word token.val.toList :=
  word_of_name (token_letters token).1 (size.trans (token_letters token).2)

theorem shortId_word : Yaml.Word payload.realityShortId.val.toList := by
  obtain ⟨letters, size⟩ := hex_letters payload.realityShortId.property
  exact word_of_name letters (by omega)

theorem uuid_word : Yaml.Word payload.vlessUuid.val.toList := by
  obtain ⟨letters, size⟩ := uuid_letters payload.vlessUuid
  exact word_of_name letters (by omega)

theorem isNameChar_unquoted {char : Char} (letter : isNameChar char = true) : char.toNat ≠ 39 ∧ 32 ≤ char.toNat := by
  obtain ⟨word, plain, -⟩ := isNameChar_plain letter
  simp only [Yaml.isWordChar, Bool.and_eq_true, decide_eq_true_eq] at word
  refine ⟨fun quote => ?_, word.1.le⟩
  rw [Yaml.isIndicator, quote] at plain
  contradiction

theorem unquoted_of_all {text : List Char} (all : text.all (fun char => decide (char.toNat ≠ 39 ∧ 32 ≤ char.toNat)) = true)
    {char : Char} (member : char ∈ text) : char.toNat ≠ 39 ∧ 32 ≤ char.toNat :=
  of_decide_eq_true (List.all_eq_true.mp all char member)

/-- The line of the resolver is a quoted text in a flow sequence. -/
theorem readLine_resolver : Yaml.readLine ("  nameserver: ['" ++ ("https://" ++ deployment.worker_hostname.val ++
      "/dns-query?k=" ++ subscriptionToken.val) ++ "#PROXY']").toList =
    some [(2, .entry "nameserver" (some (.seq [.string (resolverOf deployment subscriptionToken)])))] := by
  have unquoted : ∀ char ∈ (resolverOf deployment subscriptionToken).toList, char.toNat ≠ 39 ∧ 32 ≤ char.toNat := by
    intro char member
    simp only [resolverOf, String.toList_append, List.mem_append] at member
    rcases member with (((scheme | host) | path) | token) | proxy
    · exact unquoted_of_all (by decide) scheme
    · exact isNameChar_unquoted ((hostname_letters deployment.worker_hostname).1 char host)
    · exact unquoted_of_all (by decide) path
    · exact isNameChar_unquoted ((token_letters subscriptionToken).1 char token)
    · exact unquoted_of_all (by decide) proxy
  have split : ("  nameserver: ['" ++ ("https://" ++ deployment.worker_hostname.val ++ "/dns-query?k=" ++
      subscriptionToken.val) ++ "#PROXY']").toList = List.replicate 2 ' ' ++ ("nameserver".toList ++ ':' :: ' ' ::
        ('[' :: Char.ofNat 39 :: ((resolverOf deployment subscriptionToken).toList ++ [Char.ofNat 39, ']']))) := by
    simp only [resolverOf, String.toList_append, List.append_assoc]
    rfl
  have keyed : Yaml.Key "nameserver".toList := Yaml.Key.of_letters (by decide) (by decide)
  rw [split, Yaml.readLine_entry keyed (by rintro first head; obtain rfl := Option.some.inj head; decide)
    (List.cons_ne_nil _ _), Yaml.readInline_single unquoted, Option.map_some, String.ofList_toList, String.ofList_toList]

theorem rule_word : Yaml.Key ("DOMAIN," ++ deployment.worker_hostname.val ++ ",DIRECT").toList := by
  refine Yaml.Key.of_letters (List.all_eq_true.mpr fun char member => ?_) (by simp only [String.toList_append]; rfl)
  simp only [String.toList_append, List.mem_append] at member
  rcases member with (rule | host) | policy
  · exact List.all_eq_true.mp (by decide : "DOMAIN,".toList.all Yaml.isWordChar = true) char rule
  · exact (isNameChar_plain ((hostname_letters deployment.worker_hostname).1 char host)).1
  · exact List.all_eq_true.mp (by decide : ",DIRECT".toList.all Yaml.isWordChar = true) char policy

/-- A field whose value is a plain scalar. -/
theorem readLine_field {text : String} (opening name : String) (indent : ℕ) (word : Yaml.Word text.toList)
    (letters : name.toList.all Yaml.isWordChar = true)
    (starts : (name.toList.head?.any fun first => !Yaml.isIndicator first && first ≠ '-' && first ≠ '?') = true)
    (split : opening.toList = List.replicate indent ' ' ++ (name.toList ++ [':', ' '])) :
    Yaml.readLine (opening ++ text).toList = some [(indent, .entry name (scalar text))] := by
  have entry := readLine_scalar (Yaml.Key.of_letters letters starts) word
    (show (opening ++ text).toList = List.replicate indent ' ' ++ (name.toList ++ ':' :: ' ' :: text.toList) by
      rw [String.toList_append, split]; simp)
  rwa [String.ofList_toList] at entry

theorem readLine_host :
    Yaml.readLine ("  " ++ deployment.worker_hostname.val ++ ": " ++ CF_EDGE_PIN_IPV4).toList =
      some [(2, .entry deployment.worker_hostname.val (scalar CF_EDGE_PIN_IPV4))] := by
  have pin : Yaml.Word CF_EDGE_PIN_IPV4.toList := word_of_name
    (List.all_eq_true.mp (by decide : CF_EDGE_PIN_IPV4.toList.all isNameChar = true)) (by decide)
  have entry := readLine_scalar (hostname_key deployment.worker_hostname) pin
    (show ("  " ++ deployment.worker_hostname.val ++ ": " ++ CF_EDGE_PIN_IPV4).toList = List.replicate 2 ' ' ++ _ by
      simp only [String.toList_append, List.append_assoc]; rfl)
  rwa [String.ofList_toList] at entry

theorem readLine_port : Yaml.readLine ("    port: " ++ toString payload.vlessPort.val).toList =
    some [(4, .entry "port" (some (.int payload.vlessPort.val)))] := by
  obtain ⟨port, rfl | rfl⟩ := payload.vlessPort <;> rfl

/-- The first line of a proxy. -/
theorem readLine_name (suffix : String) (word : Yaml.Key (deployment.worker_name.val ++ suffix).toList) :
    Yaml.readLine ("  - name: " ++ deployment.worker_name.val ++ suffix).toList =
      some [(2, .dash), (4, .entry "name" (scalar (deployment.worker_name.val ++ suffix)))] := by
  have keyed : Yaml.Key "name".toList := Yaml.Key.of_letters (by decide) (by decide)
  have entry := readLine_item_scalar keyed word.word
    (show ("  - name: " ++ deployment.worker_name.val ++ suffix).toList = List.replicate 2 ' ' ++ '-' :: ' ' :: _ by
      simp only [String.toList_append, List.append_assoc]; rfl)
  rwa [String.ofList_toList] at entry

theorem readLine_item {line text : String} (indent : ℕ) (word : Yaml.Key text.toList)
    (split : line.toList = List.replicate indent ' ' ++ '-' :: ' ' :: text.toList) :
    Yaml.readLine line.toList = some [(indent, .dash), (indent + 2, .scalar (Yaml.resolve text.toList))] := by
  rw [split]
  exact Yaml.readLine_item_word indent word

/-- Every line is read as the tokens that stand on it. -/
theorem readLine_clashLines : List.Forall₂ (fun line tokens => Yaml.readLine line = some tokens)
    ((clashLines deployment payload.secrets (optionsOf subscriptionToken controlOrigin)).map String.toList)
    (clashTokens deployment payload subscriptionToken) := by
  have node := hostname_word deployment.node_hostname
  have realityName := workerName_key deployment.worker_name (by decide : "-reality".toList.all isNameChar = true)
  have hy2Name := workerName_key deployment.worker_name (by decide : "-hy2".toList.all isNameChar = true)
  have realityMember : Yaml.readLine ("      - " ++ deployment.worker_name.val ++ "-reality").toList =
      some [(6, .dash), (8, .scalar (Yaml.resolve (deployment.worker_name.val ++ "-reality").toList))] :=
    readLine_item 6 realityName (by simp only [String.toList_append, List.append_assoc]; rfl)
  have hy2Member : Yaml.readLine ("      - " ++ deployment.worker_name.val ++ "-hy2").toList =
      some [(6, .dash), (8, .scalar (Yaml.resolve (deployment.worker_name.val ++ "-hy2").toList))] :=
    readLine_item 6 hy2Name (by simp only [String.toList_append, List.append_assoc]; rfl)
  have rule : Yaml.readLine ("  - DOMAIN," ++ deployment.worker_hostname.val ++ ",DIRECT").toList =
      some [(2, .dash), (4, .scalar (Yaml.resolve ("DOMAIN," ++ deployment.worker_hostname.val ++ ",DIRECT").toList))] :=
    readLine_item 2 (rule_word deployment) (by simp only [String.toList_append, List.append_assoc]; rfl)
  have uuid := readLine_field "    uuid: " "uuid" 4 (uuid_word payload) (by decide) (by decide) rfl
  have server := readLine_field "    server: " "server" 4 node (by decide) (by decide) rfl
  have servername := readLine_field "    servername: " "servername" 4 (hostname_word deployment.reality_server_name)
    (by decide) (by decide) rfl
  have publicKey := readLine_field "      public-key: " "public-key" 6 (token_word payload.realityPublicKey (by decide))
    (by decide) (by decide) rfl
  have shortId := readLine_field "      short-id: " "short-id" 6 (shortId_word payload) (by decide) (by decide) rfl
  have password := readLine_field "    password: " "password" 4 (token_word payload.hysteria2Password (by decide))
    (by decide) (by decide) rfl
  have sni := readLine_field "    sni: " "sni" 4 node (by decide) (by decide) rfl
  refine .cons rfl (.cons rfl (.cons rfl (.cons rfl (.cons (readLine_host deployment) (.cons rfl (.cons rfl (.cons rfl
    (.cons (readLine_resolver deployment subscriptionToken) (.cons rfl ?_)))))))))
  refine .cons (readLine_name deployment "-reality" realityName) (.cons rfl (.cons server (.cons (readLine_port payload)
    (.cons uuid (.cons rfl (.cons rfl (.cons servername (.cons rfl (.cons rfl (.cons publicKey (.cons shortId ?_)))))))))))
  refine .cons (readLine_name deployment "-hy2" hy2Name) (.cons rfl (.cons server (.cons rfl (.cons password (.cons sni
    (.cons rfl ?_))))))
  exact .cons rfl (.cons rfl (.cons rfl (.cons rfl (.cons realityMember (.cons hy2Member (.cons rfl (.cons rule
    (.cons rfl (.cons rfl (.cons rfl .nil))))))))))

theorem unbroken_of_letters {text : List Char} (letters : ∀ char ∈ text, isNameChar char = true) : '\n' ∉ text :=
  fun member => absurd (letters _ member) (by decide)

theorem unbroken_clashLines : ∀ line ∈
    (clashLines deployment payload.secrets (optionsOf subscriptionToken controlOrigin)).map String.toList, '\n' ∉ line := by
  have host := unbroken_of_letters (hostname_letters deployment.worker_hostname).1
  have node := unbroken_of_letters (hostname_letters deployment.node_hostname).1
  have sni := unbroken_of_letters (hostname_letters deployment.reality_server_name).1
  have name : '\n' ∉ deployment.worker_name.val.toList := by
    have word := workerName_word deployment.worker_name (by decide : "".toList.all isNameChar = true)
    rw [String.append_empty] at word
    exact fun member => absurd (List.all_eq_true.mp word.letters '\n' member) (by decide)
  have uuid := unbroken_of_letters (uuid_letters payload.vlessUuid).1
  have publicKey := unbroken_of_letters (token_letters payload.realityPublicKey).1
  have shortId := unbroken_of_letters (hex_letters payload.realityShortId.property).1
  have password := unbroken_of_letters (token_letters payload.hysteria2Password).1
  have token := unbroken_of_letters (token_letters subscriptionToken).1
  have port : '\n' ∉ (toString payload.vlessPort.val).toList := by
    obtain ⟨port, rfl | rfl⟩ := payload.vlessPort <;> decide
  simp +decide only [clashLines, List.map_cons, List.map_nil, List.forall_mem_cons, AgentCompletePayload.secrets, optionsOf,
    Option.getD_some, String.toList_append, List.mem_append, host, node, sni, name, uuid, publicKey, shortId, password,
    token, port, or_self, not_false_iff, true_and]

theorem read_clash : (Yaml.read (buildClashYaml deployment payload.secrets (optionsOf subscriptionToken controlOrigin))).bind
    (Yaml.field? "proxies") = some (.seq [realityProxy deployment payload, hysteria2Proxy deployment payload]) := by
  have read := Yaml.tokens_lines_break (by exact List.cons_ne_nil _ _)
    (unbroken_clashLines deployment payload subscriptionToken controlOrigin)
    (readLine_clashLines deployment payload subscriptionToken controlOrigin)
  rw [Yaml.read, buildClashYaml, read]
  exact readBlock_clashTokens deployment payload subscriptionToken

/-- What a client makes of the proxies. -/
theorem nodesOfClash_eq :
    nodesOfClash (buildClashYaml deployment payload.secrets (optionsOf subscriptionToken controlOrigin)) =
      [realityProxy deployment payload, hysteria2Proxy deployment payload].mapM nodeOfProxy := by
  have proxies := read_clash deployment payload subscriptionToken controlOrigin
  obtain ⟨document, read, found⟩ := Option.bind_eq_some_iff.mp proxies
  rw [nodesOfClash, read]
  change (Yaml.field? "proxies" document >>= _) = _
  rw [found]
  rfl

theorem nodeOfProxy_reality : nodeOfProxy (realityProxy deployment payload) = (do
    let server ← (Yaml.resolve deployment.node_hostname.val.toList).text?
    let uuid ← (Yaml.resolve payload.vlessUuid.val.toList).text?
    let sni ← (Yaml.resolve deployment.reality_server_name.val.toList).text?
    let publicKey ← (Yaml.resolve payload.realityPublicKey.val.toList).text?
    let shortId ← (Yaml.resolve payload.realityShortId.val.toList).text?
    some (.reality { server, port := payload.vlessPort.val, uuid, publicKey, shortId, sni })) := rfl

theorem nodeOfProxy_hysteria2 : nodeOfProxy (hysteria2Proxy deployment payload) = (do
    let server ← (Yaml.resolve deployment.node_hostname.val.toList).text?
    let password ← (Yaml.resolve payload.hysteria2Password.val.toList).text?
    let sni ← (Yaml.resolve deployment.node_hostname.val.toList).text?
    some (.hysteria2 { server, port := 443, password, sni })) := rfl

/-- The Clash file gives the credentials back exactly when none of them looks like a number. -/
theorem clash_iff : nodesOfClash (buildClashYaml deployment payload.secrets (optionsOf subscriptionToken controlOrigin)) =
    some [.reality (realityNode deployment payload), .hysteria2 (hysteria2Node deployment payload)] ↔
      NoNumber deployment payload := by
  have server := text?_scalar (hostname_ordinary deployment.node_hostname)
  have sni := text?_scalar (hostname_ordinary deployment.reality_server_name)
  have uuid := text?_scalar (not_word (by rw [(uuid_letters payload.vlessUuid).2]; decide))
  have publicKey := text?_scalar (not_word ((by decide : 5 < 43).trans_le (token_letters payload.realityPublicKey).2))
  have shortId := text?_scalar (not_word (by rw [(hex_letters payload.realityShortId.property).2]; decide))
  have password := text?_scalar (not_word ((by decide : 5 < 32).trans_le (token_letters payload.hysteria2Password).2))
  rw [uuid_no_number] at uuid
  rw [nodesOfClash_eq, List.mapM_cons, List.mapM_cons, List.mapM_nil, nodeOfProxy_reality, nodeOfProxy_hysteria2, server, sni,
    uuid, publicKey, shortId, password]
  constructor
  · intro read
    cases number : Yaml.isNumber deployment.node_hostname.val.toList with
    | true => simp [number] at read
    | false =>
      cases sniNumber : Yaml.isNumber deployment.reality_server_name.val.toList with
      | true => simp [number, sniNumber] at read
      | false =>
        cases keyNumber : Yaml.isNumber payload.realityPublicKey.val.toList with
        | true => simp [number, sniNumber, keyNumber] at read
        | false =>
          cases idNumber : Yaml.isNumber payload.realityShortId.val.toList with
          | true => simp [number, sniNumber, keyNumber, idNumber] at read
          | false =>
            cases passwordNumber : Yaml.isNumber payload.hysteria2Password.val.toList with
            | true => simp [number, sniNumber, keyNumber, idNumber, passwordNumber] at read
            | false => exact ⟨number, sniNumber, keyNumber, idNumber, passwordNumber⟩
  · intro plain
    rw [plain.server, plain.sni, plain.publicKey, plain.shortId, plain.password]
    rfl

end

/-! ## The share links and the profiles -/

theorem isNameChar_host {char : Char} (letter : isNameChar char = true) : Uri.isHostLetter char = true := by
  have table : ∀ code < 128, isNameChar (Char.ofNat code) = true → Uri.isHostLetter (Char.ofNat code) = true := by decide
  have entry := table char.toNat (isNameChar_small letter)
  rw [Char.ofNat_toNat] at entry
  exact entry letter

theorem isNameChar_uri {char : Char} (letter : isNameChar char = true) : isUriLetter char = true := by
  have table : ∀ code < 128, isNameChar (Char.ofNat code) = true → isUriLetter (Char.ofNat code) = true := by decide
  have entry := table char.toNat (isNameChar_small letter)
  rw [Char.ofNat_toNat] at entry
  exact entry letter

theorem user_of_letters {text : String} (letters : ∀ char ∈ text.toList, isNameChar char = true) :
    Uri.component Uri.isUserLetter text.toList = some text := by
  have all : text.toList.all Uri.isUserLetter = true := List.all_eq_true.mpr fun char member => by
    rw [Uri.isUserLetter, isNameChar_host (letters char member), Bool.true_or]
  rw [Uri.component_plain all (by decide), String.ofList_toList]

/-- A name is written as it is. -/
theorem encodeURIComponent_letters {text : String} (letters : ∀ char ∈ text.toList, isNameChar char = true) :
    encodeURIComponent text = text.toList := by
  rw [encodeURIComponent, percentEncode]
  generalize text.toList = chars at letters
  induction chars with
  | nil => rfl
  | cons char rest ih =>
    rw [List.flatMap_cons, if_pos (isNameChar_uri (letters char List.mem_cons_self)),
      ih fun other member => letters other (List.mem_cons_of_mem _ member)]
    rfl

section

variable (deployment : DeploymentRow) (payload : AgentCompletePayload)

/-- The credentials of a payload. -/
def credentialsOf : Credentials where
  vlessPort := payload.vlessPort.val
  vlessUuid := payload.vlessUuid.val
  realityPublicKey := payload.realityPublicKey.val
  realityShortId := payload.realityShortId.val
  hysteria2Password := payload.hysteria2Password.val
  hysteria2CertSha256 := payload.hysteria2CertSha256.val
  hysteria2SpkiSha256 := payload.hysteria2SpkiSha256.val

theorem filled_of_length {text : String} (size : 0 < text.toList.length) : filled (some text) = some text := by
  refine Option.filter_some_pos (decide_eq_true ?_)
  rintro rfl
  exact absurd size (by decide)

theorem complete_secrets : payload.secrets.complete = some (credentialsOf payload) := by
  have uuid := filled_of_length (show 0 < payload.vlessUuid.val.toList.length by rw [(uuid_letters payload.vlessUuid).2]; decide)
  have publicKey := filled_of_length ((by decide : 0 < 43).trans_le (token_letters payload.realityPublicKey).2)
  have shortId := filled_of_length (show 0 < payload.realityShortId.val.toList.length by
    rw [(hex_letters payload.realityShortId.property).2]; decide)
  have password := filled_of_length ((by decide : 0 < 32).trans_le (token_letters payload.hysteria2Password).2)
  have certificate := filled_of_length (show 0 < payload.hysteria2CertSha256.val.toList.length by
    rw [(hex_letters payload.hysteria2CertSha256.property).2]; decide)
  have spki := filled_of_length (show 0 < payload.hysteria2SpkiSha256.val.toList.length by
    have valid := payload.hysteria2SpkiSha256.property
    simp only [isSpki, Bool.and_eq_true, decide_eq_true_eq] at valid
    omega)
  simp only [SecretBundle.complete, AgentCompletePayload.secrets, uuid, publicKey, shortId, password, certificate, spki]
  rfl

def vlessParts : Uri.Parts where
  scheme := "vless".toList
  user := payload.vlessUuid.val.toList
  host := deployment.node_hostname.val.toList
  port := payload.vlessPort.val
  path := []
  query := [("encryption", "none"), ("flow", "xtls-rprx-vision"), ("security", "reality"),
    ("sni", deployment.reality_server_name.val), ("fp", "chrome"), ("pbk", payload.realityPublicKey.val),
    ("sid", payload.realityShortId.val), ("type", "tcp")]
  fragment := deployment.worker_name.val ++ "-reality"

theorem vlessUri_eq : vlessUri deployment (credentialsOf payload) = (vlessParts deployment payload).write := by
  have digits : (toString payload.vlessPort.val).toList = Nat.toDigits 10 payload.vlessPort.val := by
    rw [Nat.toString_eq_repr, Nat.toList_repr]
  have scheme : "vless://".toList = "vless".toList ++ "://".toList := by decide
  unfold vlessUri vlessParts Uri.Parts.write credentialsOf
  dsimp only
  rw [digits, scheme, List.append_nil]

def hy2Parts : Uri.Parts where
  scheme := "hysteria2".toList
  user := payload.hysteria2Password.val.toList
  host := deployment.node_hostname.val.toList
  port := 443
  path := ['/']
  query := [("sni", deployment.node_hostname.val), ("insecure", "1"), ("pinSHA256", payload.hysteria2CertSha256.val)]
  fragment := deployment.worker_name.val ++ "-hy2"

theorem hy2Uri_eq : hy2Uri deployment (credentialsOf payload) = (hy2Parts deployment payload).write := by
  have password := encodeURIComponent_letters (token_letters payload.hysteria2Password).1
  have scheme : "hysteria2://".toList = "hysteria2".toList ++ "://".toList := by decide
  have port : ":443/?".toList = ':' :: Nat.toDigits 10 443 ++ ['/'] ++ ['?'] := by decide
  unfold hy2Uri hy2Parts Uri.Parts.write credentialsOf
  dsimp only
  rw [password, scheme, port]
  simp only [List.append_assoc, List.cons_append, List.nil_append]

theorem nodeOfUri_vless : nodeOfUri (vlessUri deployment (credentialsOf payload)) =
    some (.reality (realityNode deployment payload)) := by
  have letters := (hostname_letters deployment.node_hostname).1
  have read := Uri.read_write (show ':' ∉ (vlessParts deployment payload).scheme from (by decide : ':' ∉ "vless".toList))
    (user_of_letters (uuid_letters payload.vlessUuid).1)
    (List.all_eq_true.mpr fun char member => isNameChar_host (letters char member)) (.inl rfl)
  rw [nodeOfUri, vlessUri_eq, read]
  unfold vlessParts
  dsimp only
  rw [String.ofList_toList, String.ofList_toList]
  rfl

theorem nodeOfUri_hysteria2 : nodeOfUri (hy2Uri deployment (credentialsOf payload)) =
    some (.hysteria2 (hysteria2Node deployment payload)) := by
  have letters := (hostname_letters deployment.node_hostname).1
  have read := Uri.read_write (show ':' ∉ (hy2Parts deployment payload).scheme from (by decide : ':' ∉ "hysteria2".toList))
    (user_of_letters (token_letters payload.hysteria2Password).1)
    (List.all_eq_true.mpr fun char member => isNameChar_host (letters char member)) (.inr rfl)
  rw [nodeOfUri, hy2Uri_eq, read]
  unfold hy2Parts
  dsimp only
  rw [String.ofList_toList, String.ofList_toList]
  rfl

theorem nodeOfProfile_vless (options : ProfileOptions) (sniff fakedns : Bool) :
    nodeOfProfile (Json.write Json.indented 0
      (baseClientConfig deployment (vlessOutbound deployment (credentialsOf payload)) options sniff fakedns)) =
      some (.reality (realityNode deployment payload)) := by
  rw [nodeOfProfile, Json.parse_write (plain_baseClientConfig _ (plain_vlessOutbound _) _ _)]
  cases fakedns <;> rfl

theorem nodeOfProfile_hysteria2 (options : ProfileOptions) (sniff fakedns : Bool) :
    nodeOfProfile (Json.write Json.indented 0
      (baseClientConfig deployment (hysteria2Outbound deployment (credentialsOf payload)) options sniff fakedns)) =
      some (.hysteria2 (hysteria2Node deployment payload)) := by
  rw [nodeOfProfile, Json.parse_write (plain_baseClientConfig _ (plain_hysteria2Outbound _) _ _)]
  cases fakedns <;> rfl

theorem carries_bundle (subscriptionToken : Matching (isTokenOf 43 43)) (controlOrigin : Option String) (now : String) :
    Carries deployment payload (readyBundle deployment payload.secrets (credentialsOf payload)
        (optionsOf subscriptionToken controlOrigin) now) ↔
      NoNumber deployment payload := by
  have clash := clash_iff deployment payload subscriptionToken controlOrigin
  constructor
  · intro carries
    obtain ⟨yaml, written, read⟩ := carries.clash
    obtain rfl := Option.some.inj written
    rw [String.toList_ofList] at read
    exact clash.mp read
  · intro plain
    refine ⟨?_, ?_, ?_, ⟨_, rfl, ?_⟩⟩
    · simp only [readyBundle, List.map_cons, List.map_nil, String.toList_ofList, nodeOfUri_vless, nodeOfUri_hysteria2]
    · simp only [readyBundle, List.map_cons, List.map_nil, nodeOfProfile_vless, nodeOfProfile_hysteria2]
    · simp only [readyBundle, List.flatMap_cons, List.flatMap_nil, List.append_nil, List.cons_append, List.nil_append,
        List.map_cons, List.map_nil, nodeOfProfile_vless, nodeOfProfile_hysteria2]
    · rw [String.toList_ofList]
      exact clash.mpr plain

end

/-- A ready bundle is built for every payload that is accepted, and its three forms carry the same credentials exactly when no
name and no credential that the Clash file leaves unquoted looks like a number. -/
theorem forms_agree_iff (deployment : DeploymentRow) (payload : AgentCompletePayload)
    (subscriptionToken : Matching (isTokenOf 43 43)) (controlOrigin : Option String) (now : String) :
    assertAgentCompletePayload payload.json = .ok payload ∧
    ∃ bundle, buildReadyBundle deployment payload.secrets (optionsOf subscriptionToken controlOrigin) now = some bundle ∧
      (Carries deployment payload bundle ↔ NoNumber deployment payload) := by
  refine ⟨assertAgentCompletePayload_json payload, _, ?_, carries_bundle deployment payload subscriptionToken controlOrigin now⟩
  rw [buildReadyBundle, complete_secrets]
  rfl

namespace Digits

theorem node_valid : isValidHostname "node.example.com" = true := by decide +kernel

theorem www_valid : isValidHostname "www.example.com" = true := by decide +kernel

theorem port_valid : (443 : ℕ) = 443 ∨ (443 : ℕ) = 8443 := .inl rfl

def deployment : DeploymentRow where
  worker_name := ⟨"omni-edge", by decide⟩
  worker_hostname := ⟨"edge.example.com", by decide +kernel⟩
  node_hostname := ⟨"node.example.com", node_valid⟩
  reality_server_name := ⟨"www.example.com", www_valid⟩

/-- An agent that has drawn a short id of digits only. -/
def payload : AgentCompletePayload where
  deploymentId := ⟨"5f1c2f8e-3d4b-4c6a-9e0f-7a8b9c0d1e2f", by decide +kernel⟩
  agentToken := ⟨"VeXNjkbcjtS3wnZNKlpNdncG-F2GkAJK1r2jQBvpyMs", by decide +kernel⟩
  singBoxVersion := ⟨"1.14.0", by decide⟩
  vlessUuid := ⟨"0b6f2c1e-8a4d-4f7b-9c3e-2d1a0f9b8c7d", by decide +kernel⟩
  realityPublicKey := ⟨"Zr3nq0bT5xw1kCYvS8mJ2uHdLe7gPfA9oRiXtQ4BN6E", by decide +kernel⟩
  realityShortId := ⟨"1234567890123456", by decide +kernel⟩
  hysteria2Password := ⟨"q7Vd2nXk9TzLw4RbYc6HfJm8PsGa1Ue3", by decide +kernel⟩
  hysteria2CertSha256 := ⟨"9f86d081884c7d659a2feaa0c55ad015a3bf4f1b2b0b822cd15d6c15b0f00a08", by decide +kernel⟩
  hysteria2SpkiSha256 := ⟨"n4bQgYhMfWWaL+qgxVrQFaO/TxsrC4Is0V1sFbDwCgg=", by decide +kernel⟩
  configSha256 := ⟨"2c26b46b68ffc68ff99b453c1d30413413422d706483bfa0f98a5e886266e7ae", by decide +kernel⟩
  vlessPort := ⟨443, port_valid⟩
  dnsttPublicKey := none
  slipstreamSpkiSha256 := none

def subscriptionToken : Matching (isTokenOf 43 43) := ⟨"pU3KGCUwux1tEyze1iN7LtkeP3IfyxlxF0SU1kk8nVw", by decide +kernel⟩

end Digits

open Digits

/-- The short id is read as a number in the Clash file. -/
theorem shortId_is_number : ∃ bundle, buildReadyBundle deployment payload.secrets (optionsOf subscriptionToken none) "" =
    some bundle ∧ ¬ Carries deployment payload bundle := by
  refine ⟨readyBundle deployment payload.secrets (credentialsOf payload) (optionsOf subscriptionToken none) "", ?_, ?_⟩
  · rw [buildReadyBundle, complete_secrets]
    rfl
  · rw [carries_bundle]
    intro plain
    have number : Yaml.isNumber payload.realityShortId.val.toList = true := by decide +kernel
    rw [plain.shortId] at number
    contradiction

end OmniControlPlane.DataPlane.Formats
