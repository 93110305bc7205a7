import OmniControlPlane.Lib.Uri
import OmniControlPlane.Lib.Yaml

/-! # The configurations of a user

The share links, the sing-box outbounds and the Clash proxies that `buildConfigs` makes of one list of items, and
what a client reads of each. A setting that is a number in another form than decimal digits is kept as its text.
-/

namespace OmniControlPlane.Panel.Generator

open Lib

/-- What `Number` makes of a text: a natural number that is printed in digits, or something else. -/
inductive Port where
  | nat (value : ℕ)
  | other (text : List Char) (json : Json)

namespace Port

def text : Port → List Char
  | nat value => Nat.toDigits 10 value
  | other text _ => text

def json : Port → Json
  | nat value => .number value
  | other _ json => json

end Port

def TLS_PORTS : List ℕ := [443, 8443, 2053, 2083, 2087, 2096]

def Port.isTls : Port → Bool
  | .nat value => value ∈ TLS_PORTS
  | .other _ _ => false

/-- `text || other` -/
def orElse (text other : String) : String := if text ≠ "" then text else other

structure Fragment where
  size : String
  interval : String
  packets : String
deriving DecidableEq, Repr

structure Opts where
  fragment : Option Fragment := none
  fingerprint : String := ""
  mux : ℕ := 0
  pbk : String := ""
  sid : String := ""
  spx : String := ""
  fm : String := ""
  cs : String := ""
  mask : Option (String × String) := none
  remark : String := ""
deriving DecidableEq, Repr

structure Item where
  uuid : String
  host : String
  address : String
  port : Port
  path : String
  fingerprint : String
  remark : String

/-! ## The generators -/

abbrev Query := List (String × String)

/-- `URLSearchParams.set` -/
def Query.set (query : Query) (name value : String) : Query :=
  if query.any (·.1 = name) then query.map fun param => if param.1 = name then (name, value) else param
  else query ++ [(name, value)]

def Query.setIf (query : Query) (given : Prop) [Decidable given] (params : Query) : Query :=
  if given then params.foldl (fun query param => query.set param.1 param.2) query else query

def queryOf (item : Item) (opts : Opts) : Query :=
  let q : Query := [
    ("encryption", "none"),
    ("security", if item.port.isTls then "tls" else ""),
    ("type", "ws"),
    ("host", item.host),
    ("sni", item.host),
    ("alpn", "http/1.1"),
    ("path", orElse item.path ("/" ++ item.uuid))]
  let q := q.setIf (opts.fingerprint ≠ "") [("fp", opts.fingerprint)]
  let q := q.setIf (opts.mux ≠ 0) [("mux", toString opts.mux), ("xmux", "maxStreams=8")]
  let q := q.setIf (opts.pbk ≠ "")
    [("pbk", opts.pbk), ("sid", opts.sid), ("spx", orElse opts.spx "/"), ("security", "reality")]
  let q := match opts.fragment with
    | none => q
    | some fragment => (q.setIf True [("fragment", orElse fragment.size "100-200"),
        ("fragmentPackets", orElse fragment.packets "tlshello")]).setIf (fragment.interval ≠ "")
          [("fragmentInterval", fragment.interval)]
  let q := q.setIf (opts.fm ≠ "") [("fm", opts.fm)]
  let q := q.setIf (opts.cs ≠ "") [("cs", opts.cs)]
  match opts.mask with
  | none => q
  | some (host, sni) => q.setIf True [("mask", orElse host item.host), ("maskSni", orElse sni item.host)]

def vlessUri (item : Item) (opts : Opts) : List Char :=
  let addr := orElse item.address item.host
  "vless://".toList ++ item.uuid.toList ++ '@' :: addr.toList ++ ':' :: item.port.text ++
    '?' :: urlSearchParams (queryOf item opts) ++ '#' :: encodeURIComponent (orElse opts.remark item.host)

/-- An item has no `mux`. -/
def outboundOf (index : ℕ) (item : Item) : Json :=
  .object [
    ("type", .string "vless"),
    ("tag", .string (orElse item.remark ("node-" ++ toString index))),
    ("server", .string (orElse item.address item.host)),
    ("server_port", item.port.json),
    ("uuid", .string item.uuid),
    ("tls", .object ([("enabled", .bool true), ("server_name", .string item.host)] ++
      (if item.fingerprint ≠ "" then
        [("utls", Json.object [("enabled", .bool true), ("fingerprint", .string item.fingerprint)])]
      else []) ++ [("insecure", .bool false)])),
    ("transport", .object [
      ("type", .string "ws"),
      ("path", .string (orElse item.path ("/" ++ item.uuid))),
      ("headers", .object [("Host", .string item.host)]),
      ("max_early_data", .number 2048),
      ("early_data_header_name", .string "Sec-WebSocket-Protocol")])]

/-- The generated outbounds of `singBoxConfig`. -/
def singBoxOutbounds (items : List Item) : List Json := items.mapIdx outboundOf

/-- A text in double quotes. -/
def esc (text : String) : List Char := Yaml.double text.toList

def nameOf (item : Item) : String :=
  orElse item.remark (item.host ++ "-" ++ String.ofList item.port.text)

def proxyLines (item : Item) : List (List Char) := [
  "  - name: ".toList ++ esc (nameOf item),
  "    type: vless".toList,
  "    server: ".toList ++ esc (orElse item.address item.host),
  "    port: ".toList ++ item.port.text,
  "    uuid: ".toList ++ esc item.uuid,
  "    tls: true".toList,
  "    servername: ".toList ++ esc item.host,
  "    client-fingerprint: ".toList ++ esc (orElse item.fingerprint "chrome"),
  "    network: ws".toList,
  "    ws-opts:".toList,
  "      path: ".toList ++ esc (orElse item.path ("/" ++ item.uuid)),
  "      max-early-data: 2048".toList,
  "      early-data-header-name: Sec-WebSocket-Protocol".toList,
  "      headers:".toList,
  "        Host: ".toList ++ esc item.host]

def clashLines (items : List Item) : List (List Char) :=
  ["mixed-port: 7890".toList, "allow-lan: false".toList, "mode: rule".toList, "log-level: warning".toList,
    "proxies:".toList] ++ items.flatMap proxyLines ++
  ["proxy-groups:".toList, "  - name: ".toList ++ esc "SELECT", "    type: select".toList, "    proxies:".toList] ++
  items.map (fun item => "      - ".toList ++ esc (nameOf item)) ++
  ["rules:".toList, "  - DOMAIN-SUFFIX,ir,DIRECT".toList, "  - GEOIP,IR,DIRECT".toList, "  - MATCH,SELECT".toList]

def clashYaml (items : List Item) : List Char := List.intercalate ['\n'] (clashLines items)

/-! ## Building them -/

/-- The presets that set a fragment. -/
def PRESETS : List (String × Fragment) := [
  ("mci", ⟨"100-200", "1-1", "tlshello"⟩),
  ("irancell", ⟨"1-3", "1-1", "tlshello"⟩),
  ("rightel", ⟨"100-200", "5-10", "tlshello"⟩),
  ("tci", ⟨"1-1", "1-1", "tlshello,sniext"⟩),
  ("aggressive", ⟨"1-100", "1-5", "tlshello,sniext,clienthello"⟩)]

def preset (name : String) : Option Fragment := PRESETS.lookup name

structure User where
  uuid : String
  ips : List String
  fingerprint : String
  fragment : String

/-- The settings of a panel and what surrounds them. -/
structure Site where
  setting : String → Option String
  hostname : String
  fragmentPreset : String
  number : String → Port
  parseList : String → Option (List String)

namespace Site

variable (site : Site)

/-- `(await S.get(key)) || other` -/
def get (key other : String) : String := orElse ((site.setting key).getD "") other

def panelHost : String := site.get "public_host" site.hostname

def remarkBase : String := site.get "remark_prefix" site.panelHost

def port : Port :=
  if (site.setting "port").getD "" = "" then .nat 443 else site.number ((site.setting "port").getD "")

/-- The addresses of a user; `none` where the setting is no list. -/
def ips (user : User) : Option (List String) :=
  if user.ips ≠ [] then some user.ips else site.parseList (site.get "clean_ips" "[]")

def fingerprint (user : User) : String := orElse user.fingerprint (site.get "fingerprint" "")

end Site

structure Configs where
  items : List Item
  uris : List (List Char)
  outbounds : List Json
  clash : List Char

section

variable (site : Site) (user : User)

def itemsOf (ips : List String) : List Item :=
  ((if ips ≠ [] then ips else [site.panelHost]).take 8).mapIdx fun index ip => {
    uuid := user.uuid
    host := site.panelHost
    address := ip
    port := site.port
    path := "/" ++ user.uuid
    fingerprint := site.fingerprint user
    remark := if 1 < ips.length then site.remarkBase ++ "#" ++ toString (index + 1) else site.remarkBase }

def optsOf : Opts where
  fragment := preset (orElse user.fragment (site.get "fragment_preset" site.fragmentPreset))
  fingerprint := site.fingerprint user
  mux := if site.setting "mux_enabled" = some "1" then 8 else 0

def buildConfigs : Option Configs := do
  let ips ← site.ips user
  let items := itemsOf site user ips
  some {
    items
    uris := items.map fun item => vlessUri item (optsOf site user)
    outbounds := singBoxOutbounds items
    clash := clashYaml items }

end

/-! ## What a client reads -/

structure Endpoint where
  server : String
  port : ℕ
  tls : Bool
  uuid : String
  sni : String
  host : String
  path : String
  name : String
deriving DecidableEq, Repr

def endpointOfUri (text : List Char) : Option Endpoint := do
  let uri ← Uri.read text
  let port ← uri.port
  let uuid ← uri.userinfo
  let security ← uri.query.lookup "security"
  let sni ← uri.query.lookup "sni"
  let host ← uri.query.lookup "host"
  let path ← uri.query.lookup "path"
  let name ← uri.fragment
  some { server := uri.host, port, tls := security = "tls", uuid, sni, host, path, name }

def stringOf (json : Json) (key : String) : Option String :=
  match json.field? key with
  | some (.string text) => some text
  | _ => none

def endpointOfOutbound (outbound : Json) : Option Endpoint := do
  let server ← stringOf outbound "server"
  let .number (.ofNat port) ← outbound.field? "server_port" | none
  let tls ← outbound.field? "tls"
  let .bool enabled ← tls.field? "enabled" | none
  let uuid ← stringOf outbound "uuid"
  let sni ← stringOf tls "server_name"
  let transport ← outbound.field? "transport"
  let headers ← transport.field? "headers"
  let host ← stringOf headers "Host"
  let path ← stringOf transport "path"
  let name ← stringOf outbound "tag"
  some { server, port, tls := enabled, uuid, sni, host, path, name }

def textOf (yaml : Yaml) (key : String) : Option String := yaml.field? key >>= Yaml.text?

def endpointOfProxy (proxy : Yaml) : Option Endpoint := do
  let server ← textOf proxy "server"
  let port ← proxy.field? "port" >>= Yaml.nat?
  let .bool tls ← proxy.field? "tls" | none
  let uuid ← textOf proxy "uuid"
  let sni ← textOf proxy "servername"
  let options ← proxy.field? "ws-opts"
  let headers ← options.field? "headers"
  let host ← textOf headers "Host"
  let path ← textOf options "path"
  let name ← textOf proxy "name"
  some { server, port, tls, uuid, sni, host, path, name }

/-- The proxies of a Clash file. -/
def proxiesOf (text : List Char) : List Yaml :=
  match Yaml.read text >>= Yaml.field? "proxies" with
  | some (.seq proxies) => proxies
  | _ => []

/-- The three forms describe the same endpoints. -/
def Agree (configs : Configs) : Prop :=
  ∀ index < configs.items.length, ∃ endpoint,
    configs.uris[index]?.bind endpointOfUri = some endpoint ∧
    configs.outbounds[index]?.bind endpointOfOutbound = some endpoint ∧
    (proxiesOf configs.clash)[index]?.bind endpointOfProxy = some endpoint

/-- A text that the quoting of the Clash file gives back. -/
def Printed (text : String) : Prop := ∀ char ∈ text.toList, Yaml.isPrinted char = true

/-- A text that can be read in the quoting of the Clash file, as this text or as another one. -/
def Legible (text : String) : Prop :=
  '\n' ∉ text.toList ∧ ∃ read, Yaml.readInline (esc text) = some (.string read)

/-- One address that can stand in a share link, no name but the host's, and a port with TLS. -/
structure Uniform (site : Site) (user : User) : Prop where
  alone : ∀ ips, site.ips user = some ips → ips.length ≤ 1
  name : site.remarkBase = site.panelHost
  port : ∃ value ∈ TLS_PORTS, site.port = .nat value
  address : ∀ ips, site.ips user = some ips → ∀ address ∈ (if ips ≠ [] then ips else [site.panelHost]),
    (orElse address site.panelHost).toList.all Uri.isHostLetter = true
  uuid : user.uuid.toList.all Uri.isUserLetter = true
  named : site.panelHost ≠ ""
  host : Printed site.panelHost
  fingerprint : Legible (site.fingerprint user)

/-! ## The share links -/

theorem orElse_of_ne {text : String} (given : text ≠ "") (other : String) : orElse text other = text := if_pos given

section

variable {query params : Query} {key name value : String}

theorem lookup_set (other : key ≠ name) : (query.set name value).lookup key = query.lookup key := by
  have differs : (key == name) = false := beq_false_of_ne other
  rw [Query.set]
  split
  · clear * - differs
    induction query with
    | nil => rfl
    | cons param rest ih =>
      obtain ⟨field, written⟩ := param
      rw [List.map_cons]
      by_cases same : field = name
      · subst same
        rw [if_pos rfl, List.lookup_cons, List.lookup_cons, differs, ih]
      · rw [if_neg same, List.lookup_cons, List.lookup_cons, ih]
  · rw [List.lookup_append, List.lookup_cons, differs]
    exact Option.or_none

theorem setIf_neg {given : Prop} [Decidable given] (not : ¬ given) : query.setIf given params = query := if_neg not

theorem lookup_setIf {given : Prop} [Decidable given] (absent : key ∉ params.map (·.1)) :
    (query.setIf given params).lookup key = query.lookup key := by
  rw [Query.setIf]
  split
  · induction params generalizing query with
    | nil => rfl
    | cons param rest ih =>
      rw [List.map_cons, List.mem_cons, not_or] at absent
      rw [List.foldl_cons, ih absent.2, lookup_set absent.1]
  · rfl

end

section

variable (site : Site) (user : User) (item : Item)

/-- The options of a panel leave the fields alone that name the endpoint. -/
theorem lookup_queryOf {key : String} (names : key ∈ ["security", "sni", "host", "path"]) :
    (queryOf item (optsOf site user)).lookup key = [
      ("encryption", "none"), ("security", if item.port.isTls then "tls" else ""), ("type", "ws"), ("host", item.host),
      ("sni", item.host), ("alpn", "http/1.1"), ("path", orElse item.path ("/" ++ item.uuid))].lookup key := by
  have absent : ∀ key ∈ ["security", "sni", "host", "path"],
      key ∉ ["fp", "mux", "xmux", "fragment", "fragmentPackets", "fragmentInterval", "fm", "cs"] := by decide
  have missing := absent key names
  simp only [List.mem_cons, List.not_mem_nil, or_false, not_or] at missing
  obtain ⟨fp, mux, xmux, size, packets, interval, fm, cs⟩ := missing
  unfold queryOf optsOf
  generalize preset (orElse user.fragment (site.get "fragment_preset" site.fragmentPreset)) = chosen
  cases chosen <;>
    simp (disch := simp [fp, mux, xmux, size, packets, interval, fm, cs]) only [setIf_neg, lookup_setIf]

def partsOf (port : ℕ) : Uri.Parts where
  scheme := "vless".toList
  user := item.uuid.toList
  host := (orElse item.address item.host).toList
  port := port
  path := []
  query := queryOf item (optsOf site user)
  fragment := item.host

theorem vlessUri_eq {port : ℕ} (numbered : item.port = .nat port) :
    vlessUri item (optsOf site user) = (partsOf site user item port).write := by
  have scheme : "vless://".toList = "vless".toList ++ "://".toList := by decide
  have name : orElse (optsOf site user).remark item.host = item.host := rfl
  unfold vlessUri partsOf Uri.Parts.write
  dsimp only
  rw [numbered, name, scheme, List.append_nil]
  rfl

/-- What a client reads of a share link whose user and address have only letters. -/
theorem endpointOfUri_vlessUri {port : ℕ} (numbered : item.port = .nat port)
    (uuid : item.uuid.toList.all Uri.isUserLetter = true)
    (address : (orElse item.address item.host).toList.all Uri.isHostLetter = true) :
    endpointOfUri (vlessUri item (optsOf site user)) = some {
      server := orElse item.address item.host, port, tls := item.port.isTls, uuid := item.uuid, sni := item.host,
      host := item.host, path := orElse item.path ("/" ++ item.uuid), name := item.host } := by
  have decoded : Uri.component Uri.isUserLetter item.uuid.toList = some item.uuid := by
    rw [Uri.component_plain uuid (by decide), String.ofList_toList]
  have read := Uri.read_write
    (show ':' ∉ (partsOf site user item port).scheme from (by decide : ':' ∉ "vless".toList)) decoded address (.inl rfl)
  have security := lookup_queryOf site user item (by decide : "security" ∈ ["security", "sni", "host", "path"])
  have sni := lookup_queryOf site user item (by decide : "sni" ∈ ["security", "sni", "host", "path"])
  have host := lookup_queryOf site user item (by decide : "host" ∈ ["security", "sni", "host", "path"])
  have path := lookup_queryOf site user item (by decide : "path" ∈ ["security", "sni", "host", "path"])
  have tls : decide ((if item.port.isTls = true then "tls" else "") = "tls") = item.port.isTls := by
    cases item.port.isTls <;> rfl
  rw [endpointOfUri, vlessUri_eq site user item numbered, read]
  unfold partsOf
  simp only [Option.bind_eq_bind, Option.bind_some, security, sni, host, path, String.ofList_toList]
  change some ({ tls := decide ((if item.port.isTls = true then "tls" else "") = "tls"), .. } : Endpoint) = _
  rw [tls]

/-! ## The outbounds -/

theorem endpointOfOutbound_outboundOf {port : ℕ} (index : ℕ) (numbered : item.port = .nat port) :
    endpointOfOutbound (outboundOf index item) = some {
      server := orElse item.address item.host, port, tls := true, uuid := item.uuid, sni := item.host, host := item.host,
      path := orElse item.path ("/" ++ item.uuid), name := orElse item.remark ("node-" ++ toString index) } := by
  unfold outboundOf
  rw [numbered]
  split <;> rfl

end

/-! ## The Clash file -/

theorem printed_append {first second : String} (left : Printed first) (right : Printed second) :
    Printed (first ++ second) := by
  intro char member
  rw [String.toList_append, List.mem_append] at member
  exact member.elim (left char) (right char)

/-- Letters of hosts and users need no escape. -/
theorem isPrinted_of_letter {char : Char} (letter : Uri.isUserLetter char = true) : Yaml.isPrinted char = true := by
  by_contra hidden
  have table : ∀ code < 128, Yaml.isPrinted (Char.ofNat code) = false → Uri.isUserLetter (Char.ofNat code) = false := by
    decide
  have small : char.toNat < 128 := by
    simp only [Yaml.isPrinted, Bool.not_eq_true, Bool.and_eq_false_iff, Bool.or_eq_false_iff, decide_eq_false_iff_not,
      not_not] at hidden
    omega
  have entry := table char.toNat small
  rw [Char.ofNat_toNat, letter] at entry
  exact Bool.noConfusion (entry (by simpa using hidden))

theorem printed_of_letters {text : String} (letters : text.toList.all Uri.isUserLetter = true) : Printed text :=
  fun char member => isPrinted_of_letter (List.all_eq_true.mp letters char member)

theorem unbroken_escapeQuotes {text : List Char} (unbroken : '\n' ∉ text) : '\n' ∉ Yaml.escapeQuotes text := by
  intro member
  obtain ⟨char, inside, written⟩ := List.mem_flatMap.mp member
  split at written
  · rcases List.mem_cons.mp written with slash | rest
    · exact absurd slash (by decide)
    · exact unbroken (List.mem_singleton.mp rest ▸ inside)
  · exact unbroken (List.mem_singleton.mp written ▸ inside)

theorem unbroken_esc {text : String} (plain : '\n' ∉ text.toList) : '\n' ∉ esc text := by
  rw [esc, Yaml.double, List.mem_cons, List.mem_append, List.mem_singleton, not_or, not_or]
  exact ⟨by decide, unbroken_escapeQuotes plain, by decide⟩

theorem Printed.unbroken {text : String} (printed : Printed text) : '\n' ∉ text.toList :=
  fun member => absurd (printed '\n' member) (by decide)

section

variable {text : String}

theorem readInline_esc (printed : Printed text) : Yaml.readInline (esc text) = some (.string text) := by
  rw [esc, Yaml.readInline_double printed, String.ofList_toList]

theorem Printed.legible (printed : Printed text) : Legible text := ⟨printed.unbroken, text, readInline_esc printed⟩

theorem filled_esc (text : String) : (∀ first ∈ (esc text).head?, Yaml.isBlank first = false) ∧ esc text ≠ [] := by
  refine ⟨fun first head => ?_, List.cons_ne_nil _ _⟩
  obtain rfl := Option.some.inj head
  decide

/-- A field whose value is in quotes. -/
theorem readLine_quoted {read : String} (legible : Yaml.readInline (esc text) = some (.string read))
    (opening name : String) (indent : ℕ) (keyed : Yaml.Key name.toList)
    (split : opening.toList = List.replicate indent ' ' ++ (name.toList ++ [':', ' '])) :
    Yaml.readLine (opening.toList ++ esc text) = some [(indent, .entry name (some (.string read)))] := by
  have line : opening.toList ++ esc text = List.replicate indent ' ' ++ (name.toList ++ ':' :: ' ' :: esc text) := by
    rw [split]
    simp
  rw [line, Yaml.readLine_entry keyed (filled_esc text).1 (filled_esc text).2, legible, Option.map_some,
    String.ofList_toList]

theorem readLine_quoted_name (printed : Printed text) :
    Yaml.readLine ("  - name: ".toList ++ esc text) = some [(2, .dash), (4, .entry "name" (some (.string text)))] := by
  have keyed : Yaml.Key "name".toList := Yaml.Key.of_letters (by decide) (by decide)
  have line : "  - name: ".toList ++ esc text =
      List.replicate 2 ' ' ++ '-' :: ' ' :: ("name".toList ++ ':' :: ' ' :: esc text) := rfl
  rw [line, Yaml.readLine_item_entry keyed (filled_esc text).1 (filled_esc text).2, readInline_esc printed, Option.map_some,
    String.ofList_toList]

theorem readLine_quoted_item (printed : Printed text) :
    Yaml.readLine ("      - ".toList ++ esc text) = some [(6, .dash), (8, .scalar (.string text))] := by
  have line : "      - ".toList ++ esc text = List.replicate 6 ' ' ++ '-' :: ' ' :: esc text := rfl
  have content : Yaml.readContent (esc text) = some (.scalar (.string text)) := by
    rw [Yaml.readContent, show Yaml.isQuoted (esc text) = true from rfl, if_pos rfl, readInline_esc printed, Option.map_some]
  rw [line, Yaml.readLine_item]
  change (Yaml.readTokens _ _ (Json.quote :: _)).map _ = _
  rw [Yaml.readTokens_content _ _ (by decide) (by decide)]
  change ((Yaml.readContent (esc text)).map _).map _ = _
  rw [content]
  rfl

end

section

variable (item : Item) (fingerprint : String)

/-- What stands on the lines of a file of one proxy, whose fingerprint is read so. -/
def clashTokens (port : ℕ) : List (List (ℕ × Yaml.Token)) := [
  [(0, .entry "mixed-port" (some (.int 7890)))],
  [(0, .entry "allow-lan" (some (.bool false)))],
  [(0, .entry "mode" (some (.string "rule")))],
  [(0, .entry "log-level" (some (.string "warning")))],
  [(0, .entry "proxies" none)],
  [(2, .dash), (4, .entry "name" (some (.string (nameOf item))))],
  [(4, .entry "type" (some (.string "vless")))],
  [(4, .entry "server" (some (.string (orElse item.address item.host))))],
  [(4, .entry "port" (some (.int port)))],
  [(4, .entry "uuid" (some (.string item.uuid)))],
  [(4, .entry "tls" (some (.bool true)))],
  [(4, .entry "servername" (some (.string item.host)))],
  [(4, .entry "client-fingerprint" (some (.string fingerprint)))],
  [(4, .entry "network" (some (.string "ws")))],
  [(4, .entry "ws-opts" none)],
  [(6, .entry "path" (some (.string (orElse item.path ("/" ++ item.uuid)))))],
  [(6, .entry "max-early-data" (some (.int 2048)))],
  [(6, .entry "early-data-header-name" (some (.string "Sec-WebSocket-Protocol")))],
  [(6, .entry "headers" none)],
  [(8, .entry "Host" (some (.string item.host)))],
  [(0, .entry "proxy-groups" none)],
  [(2, .dash), (4, .entry "name" (some (.string "SELECT")))],
  [(4, .entry "type" (some (.string "select")))],
  [(4, .entry "proxies" none)],
  [(6, .dash), (8, .scalar (.string (nameOf item)))],
  [(0, .entry "rules" none)],
  [(2, .dash), (4, .scalar (.string "DOMAIN-SUFFIX,ir,DIRECT"))],
  [(2, .dash), (4, .scalar (.string "GEOIP,IR,DIRECT"))],
  [(2, .dash), (4, .scalar (.string "MATCH,SELECT"))]]

/-- The texts of an item that the file has in quotes can be read back, the fingerprint as this text. -/
structure LegibleItem : Prop where
  name : Printed (nameOf item)
  server : Printed (orElse item.address item.host)
  uuid : Printed item.uuid
  host : Printed item.host
  path : Printed (orElse item.path ("/" ++ item.uuid))
  unbroken : '\n' ∉ (orElse item.fingerprint "chrome").toList
  fingerprint : Yaml.readInline (esc (orElse item.fingerprint "chrome")) = some (.string fingerprint)

variable {item} {fingerprint}

theorem readLine_port {port : ℕ} (tls : port ∈ TLS_PORTS) :
    Yaml.readLine ("    port: ".toList ++ Nat.toDigits 10 port) = some [(4, .entry "port" (some (.int port)))] := by
  simp only [TLS_PORTS, List.mem_cons, List.not_mem_nil, or_false] at tls
  rcases tls with rfl | rfl | rfl | rfl | rfl | rfl <;> rfl

theorem readLine_clashLines (legible : LegibleItem item fingerprint) {port : ℕ} (numbered : item.port = .nat port)
    (tls : port ∈ TLS_PORTS) : List.Forall₂ (fun line tokens => Yaml.readLine line = some tokens) (clashLines [item])
      (clashTokens item fingerprint port) := by
  have number : Yaml.readLine ("    port: ".toList ++ item.port.text) = some [(4, .entry "port" (some (.int port)))] := by
    rw [numbered]
    exact readLine_port tls
  have select : Printed "SELECT" := List.all_eq_true.mp (by decide : "SELECT".toList.all Yaml.isPrinted = true)
  have key (name : String) (letters : name.toList.all Yaml.isWordChar = true) (starts : (name.toList.head?.any fun first =>
      !Yaml.isIndicator first && first ≠ '-' && first ≠ '?') = true) : Yaml.Key name.toList := .of_letters letters starts
  have server := readLine_quoted (readInline_esc legible.server) "    server: " "server" 4 (key _ (by decide) (by decide)) rfl
  have uuid := readLine_quoted (readInline_esc legible.uuid) "    uuid: " "uuid" 4 (key _ (by decide) (by decide)) rfl
  have servername := readLine_quoted (readInline_esc legible.host) "    servername: " "servername" 4 (key _ (by decide) (by decide)) rfl
  have fingerprint := readLine_quoted legible.fingerprint "    client-fingerprint: " "client-fingerprint" 4
    (key _ (by decide) (by decide)) rfl
  have path := readLine_quoted (readInline_esc legible.path) "      path: " "path" 6 (key _ (by decide) (by decide)) rfl
  have host := readLine_quoted (readInline_esc legible.host) "        Host: " "Host" 8 (key _ (by decide) (by decide)) rfl
  refine .cons rfl (.cons rfl (.cons rfl (.cons rfl (.cons rfl ?_))))
  refine .cons (readLine_quoted_name legible.name) (.cons rfl (.cons server (.cons number (.cons uuid (.cons rfl
    (.cons servername (.cons fingerprint (.cons rfl (.cons rfl (.cons path (.cons rfl (.cons rfl (.cons rfl
      (.cons host ?_))))))))))))))
  refine .cons rfl (.cons (readLine_quoted_name select) (.cons rfl (.cons rfl (.cons (readLine_quoted_item legible.name) ?_))))
  exact .cons rfl (.cons rfl (.cons rfl (.cons rfl .nil)))

end

section

variable {item : Item} {fingerprint : String}

theorem unbroken_clashLines (legible : LegibleItem item fingerprint) {port : ℕ} (numbered : item.port = .nat port)
    (tls : port ∈ TLS_PORTS) : ∀ line ∈ clashLines [item], '\n' ∉ line := by
  have name := unbroken_esc legible.name.unbroken
  have server := unbroken_esc legible.server.unbroken
  have uuid := unbroken_esc legible.uuid.unbroken
  have host := unbroken_esc legible.host.unbroken
  have fingerprint := unbroken_esc legible.unbroken
  have path := unbroken_esc legible.path.unbroken
  have number : '\n' ∉ item.port.text := by
    rw [numbered]
    simp only [TLS_PORTS, List.mem_cons, List.not_mem_nil, or_false] at tls
    rcases tls with rfl | rfl | rfl | rfl | rfl | rfl <;> decide
  simp +decide only [clashLines, List.flatMap_cons, List.flatMap_nil, proxyLines, List.map_cons, List.map_nil,
    List.append_nil, List.cons_append, List.nil_append, List.forall_mem_cons, List.mem_append, name, server, uuid, host,
    fingerprint, path, number, or_self, not_false_iff, true_and]

def proxyOf (item : Item) (fingerprint : String) (port : ℕ) : Yaml := .map [
  ("name", .string (nameOf item)),
  ("type", .string "vless"),
  ("server", .string (orElse item.address item.host)),
  ("port", .int port),
  ("uuid", .string item.uuid),
  ("tls", .bool true),
  ("servername", .string item.host),
  ("client-fingerprint", .string fingerprint),
  ("network", .string "ws"),
  ("ws-opts", .map [
    ("path", .string (orElse item.path ("/" ++ item.uuid))),
    ("max-early-data", .int 2048),
    ("early-data-header-name", .string "Sec-WebSocket-Protocol"),
    ("headers", .map [("Host", .string item.host)])])]

theorem readBlock_clashTokens (item : Item) (fingerprint : String) (port : ℕ) :
    (Yaml.readBlock (clashTokens item fingerprint port).flatten).bind (Yaml.field? "proxies") =
      some (.seq [proxyOf item fingerprint port]) := rfl

theorem proxiesOf_clashYaml (legible : LegibleItem item fingerprint) {port : ℕ} (numbered : item.port = .nat port)
    (tls : port ∈ TLS_PORTS) : proxiesOf (clashYaml [item]) = [proxyOf item fingerprint port] := by
  have read := Yaml.tokens_lines (by exact List.cons_ne_nil _ _) (unbroken_clashLines legible numbered tls)
    (readLine_clashLines legible numbered tls)
  have found : Yaml.read (clashYaml [item]) >>= Yaml.field? "proxies" =
      some (.seq [proxyOf item fingerprint port]) := by
    rw [Yaml.read, clashYaml, read]
    exact readBlock_clashTokens item fingerprint port
  rw [proxiesOf, found]

theorem endpointOfProxy_proxyOf (item : Item) (fingerprint : String) (port : ℕ) :
    endpointOfProxy (proxyOf item fingerprint port) = some {
    server := orElse item.address item.host, port, tls := true, uuid := item.uuid, sni := item.host, host := item.host,
    path := orElse item.path ("/" ++ item.uuid), name := nameOf item } := rfl

end

/-! ## The three forms -/

section

variable {site : Site} {user : User} {configs : Configs}

theorem buildConfigs_eq (built : buildConfigs site user = some configs) : ∃ ips, site.ips user = some ips ∧
    configs.items = itemsOf site user ips ∧
    configs.uris = (itemsOf site user ips).map (fun item => vlessUri item (optsOf site user)) ∧
    configs.outbounds = singBoxOutbounds (itemsOf site user ips) ∧ configs.clash = clashYaml (itemsOf site user ips) := by
  obtain ⟨ips, found, made⟩ := Option.bind_eq_some_iff.mp built
  obtain rfl := Option.some.inj made
  exact ⟨ips, found, rfl, rfl, rfl, rfl⟩

theorem getElem?_item (site : Site) (user : User) (ips : List String) {index : ℕ} (bound : index < (itemsOf site user ips).length) :
    ∃ item, (itemsOf site user ips)[index]? = some item ∧ item.uuid = user.uuid ∧ item.host = site.panelHost ∧
      item.port = site.port ∧ item.address ∈ (if ips ≠ [] then ips else [site.panelHost]) ∧
      item.remark = if 1 < ips.length then site.remarkBase ++ "#" ++ toString (index + 1) else site.remarkBase := by
  rw [itemsOf, List.length_mapIdx] at bound
  refine ⟨_, by rw [itemsOf, List.getElem?_mapIdx, List.getElem?_eq_getElem bound]; rfl, rfl, rfl, rfl, ?_, rfl⟩
  exact List.mem_of_mem_take (List.getElem_mem bound)

theorem legible_fingerprint (uniform : Uniform site user) : Legible (orElse (site.fingerprint user) "chrome") := by
  have chrome : Printed "chrome" := List.all_eq_true.mp (by decide : "chrome".toList.all Yaml.isPrinted = true)
  rw [orElse]
  split
  · exact uniform.fingerprint
  · exact chrome.legible

theorem legible_item (uniform : Uniform site user) {address fingerprint : String}
    (letters : (orElse address site.panelHost).toList.all Uri.isHostLetter = true)
    (read : Yaml.readInline (esc (orElse (site.fingerprint user) "chrome")) = some (.string fingerprint)) :
    LegibleItem ⟨user.uuid, site.panelHost, address, site.port, "/" ++ user.uuid, site.fingerprint user,
      site.panelHost⟩ fingerprint where
  name := by
    rw [nameOf, orElse_of_ne uniform.named]
    exact uniform.host
  server := printed_of_letters (List.all_eq_true.mpr fun char member => by
    rw [Uri.isUserLetter, List.all_eq_true.mp letters char member, Bool.true_or])
  uuid := printed_of_letters uniform.uuid
  host := uniform.host
  path := by
    have slash : Printed "/" := List.all_eq_true.mp (by decide : "/".toList.all Yaml.isPrinted = true)
    have path := printed_append slash (printed_of_letters uniform.uuid)
    rw [orElse]
    split <;> exact path
  unbroken := (legible_fingerprint uniform).1
  fingerprint := read

/-- Under the condition there is one item, and all forms of it are read as the same endpoint. -/
theorem agree_of_uniform (built : buildConfigs site user = some configs) (uniform : Uniform site user) :
    Agree configs := by
  obtain ⟨ips, found, items, uris, outbounds, clash⟩ := buildConfigs_eq built
  have single := uniform.alone ips found
  obtain ⟨port, tls, numbered⟩ := uniform.port
  obtain ⟨address, sole⟩ : ∃ address, (if ips ≠ [] then ips else [site.panelHost]) = [address] := by
    match ips, single with
    | [], _ => exact ⟨_, rfl⟩
    | [address], _ => exact ⟨_, rfl⟩
  have letters := uniform.address ips found address (by rw [sole]; exact List.mem_singleton_self _)
  have one : itemsOf site user ips = [⟨user.uuid, site.panelHost, address, site.port, "/" ++ user.uuid,
      site.fingerprint user, site.panelHost⟩] := by
    rw [itemsOf, sole]
    simp only [List.take_succ_cons, List.take_nil, List.mapIdx_cons, List.mapIdx_nil, if_neg (Nat.not_lt.mpr single),
      uniform.name]
  obtain ⟨fingerprint, read⟩ := (legible_fingerprint uniform).2
  have legible := legible_item uniform letters read
  have link := endpointOfUri_vlessUri site user (⟨user.uuid, site.panelHost, address, site.port, "/" ++ user.uuid,
    site.fingerprint user, site.panelHost⟩ : Item) numbered uniform.uuid letters
  rw [one] at items uris outbounds clash
  intro index bound
  rw [items, List.length_singleton, Nat.lt_one_iff] at bound
  subst bound
  have named : orElse site.panelHost ("node-" ++ toString 0) = site.panelHost := orElse_of_ne uniform.named _
  have secure : site.port.isTls = true := by
    rw [numbered]
    exact decide_eq_true tls
  refine ⟨⟨orElse address site.panelHost, port, true, user.uuid, site.panelHost, site.panelHost,
    orElse ("/" ++ user.uuid) ("/" ++ user.uuid), site.panelHost⟩, ?_, ?_, ?_⟩
  · rw [uris]
    rw [List.map_singleton, List.getElem?_cons_zero, Option.bind_some, link, secure]
  · rw [outbounds]
    refine (endpointOfOutbound_outboundOf _ 0 numbered).trans ?_
    rw [named]
  · rw [clash, proxiesOf_clashYaml legible numbered tls]
    refine (endpointOfProxy_proxyOf _ fingerprint port).trans ?_
    rw [nameOf, orElse_of_ne uniform.named]

/-- An item on which the share link and the outbound agree is named after the host, and its port has TLS. -/
theorem named_of_agree (built : buildConfigs site user = some configs)
    (uuid : user.uuid.toList.all Uri.isUserLetter = true) {ips : List String} (found : site.ips user = some ips)
    (letters : ∀ address ∈ (if ips ≠ [] then ips else [site.panelHost]),
      (orElse address site.panelHost).toList.all Uri.isHostLetter = true)
    {port : ℕ} (numbered : site.port = .nat port) (agree : Agree configs) {index : ℕ}
    (bound : index < (itemsOf site user ips).length) :
    site.port.isTls = true ∧ site.panelHost = orElse (if 1 < ips.length then
      site.remarkBase ++ "#" ++ toString (index + 1) else site.remarkBase) ("node-" ++ toString index) := by
  obtain ⟨ips', found', items, uris, outbounds, -⟩ := buildConfigs_eq built
  obtain rfl := Option.some.inj (found.symm.trans found')
  obtain ⟨item, atIndex, ofUser, hosted, ported, member, remark⟩ := getElem?_item site user ips bound
  obtain ⟨endpoint, uri, outbound, -⟩ := agree index (items ▸ bound)
  rw [uris, List.getElem?_map, atIndex, Option.map_some, Option.bind_some] at uri
  rw [outbounds, singBoxOutbounds, List.getElem?_mapIdx, atIndex, Option.map_some, Option.bind_some] at outbound
  have known : item.uuid.toList.all Uri.isUserLetter = true := by
    rw [ofUser]
    exact uuid
  have reached : (orElse item.address item.host).toList.all Uri.isHostLetter = true := by
    rw [hosted]
    exact letters item.address member
  have link := endpointOfUri_vlessUri site user item (ported.trans numbered) known reached
  have client := endpointOfOutbound_outboundOf item index (ported.trans numbered)
  have same := Option.some.inj ((link.symm.trans uri).trans (outbound.symm.trans client))
  have tls := congrArg Endpoint.tls same
  have name := congrArg Endpoint.name same
  dsimp only at tls name
  rw [ported] at tls
  rw [hosted, remark] at name
  exact ⟨tls, name⟩

/-- Where the user and the addresses have only letters and the port is a number, the forms agree on no other names and ports. -/
theorem uniform_of_agree (built : buildConfigs site user = some configs)
    (uuid : user.uuid.toList.all Uri.isUserLetter = true) {ips : List String} (found : site.ips user = some ips)
    (letters : ∀ address ∈ (if ips ≠ [] then ips else [site.panelHost]),
      (orElse address site.panelHost).toList.all Uri.isHostLetter = true)
    {port : ℕ} (numbered : site.port = .nat port) (agree : Agree configs) :
    ips.length ≤ 1 ∧ site.remarkBase = site.panelHost ∧ port ∈ TLS_PORTS := by
  have size : (itemsOf site user ips).length = min 8 (if ips ≠ [] then ips else [site.panelHost]).length := by
    rw [itemsOf, List.length_mapIdx, List.length_take]
  have nonempty : 0 < (itemsOf site user ips).length := by
    rw [size]
    split
    · next written => exact Nat.lt_min.mpr ⟨by decide, List.length_pos_of_ne_nil written⟩
    · rw [List.length_singleton]
      decide
  have first := named_of_agree built uuid found letters numbered agree nonempty
  have tls : port ∈ TLS_PORTS := by
    rw [numbered] at first
    exact of_decide_eq_true first.1
  have alone : ips.length ≤ 1 := by
    by_contra many
    have several : 1 < ips.length := Nat.lt_of_not_le many
    have written : ips ≠ [] := List.ne_nil_of_length_pos (Nat.lt_trans Nat.zero_lt_one several)
    have bound : 1 < (itemsOf site user ips).length := by
      rw [size, if_pos written]
      exact Nat.lt_min.mpr ⟨by decide, several⟩
    have second := named_of_agree built uuid found letters numbered agree bound
    have given (number : ℕ) : site.remarkBase ++ "#" ++ toString number ≠ "" := by
      intro empty
      have lengths := congrArg String.length empty
      rw [String.length_append, String.length_append] at lengths
      have hash : "#".length = 1 := rfl
      have nothing : "".length = 0 := rfl
      omega
    have names := first.2.symm.trans second.2
    rw [if_pos several, if_pos several, orElse_of_ne (given _), orElse_of_ne (given _), String.append_right_inj] at names
    exact absurd names (by decide)
  have name := first.2
  rw [if_neg (Nat.not_lt.mpr alone)] at name
  refine ⟨alone, ?_, tls⟩
  by_cases empty : site.remarkBase = ""
  · have host : site.panelHost = "" := by
      by_contra given
      rw [Site.remarkBase, Site.get, orElse] at empty
      split at empty
      · contradiction
      · exact given empty
    rw [empty, host]
  · rw [orElse_of_ne empty] at name
    exact name.symm

end

/-- Under the condition the three forms agree. Where the user, the addresses and the port can stand in a share link, they
agree only on one address at most, no name but the host's, and a port with TLS. -/
theorem formats_agree {site : Site} {user : User} {configs : Configs} (built : buildConfigs site user = some configs) :
    (Uniform site user → Agree configs) ∧
    ∀ ips port, site.ips user = some ips → site.port = .nat port → user.uuid.toList.all Uri.isUserLetter = true →
      (∀ address ∈ (if ips ≠ [] then ips else [site.panelHost]),
        (orElse address site.panelHost).toList.all Uri.isHostLetter = true) →
      Agree configs → ips.length ≤ 1 ∧ site.remarkBase = site.panelHost ∧ port ∈ TLS_PORTS :=
  ⟨agree_of_uniform built, fun _ _ found numbered uuid letters => uniform_of_agree built uuid found letters numbered⟩

namespace Sample

/-- A panel without settings. -/
def site : Site where
  setting _ := none
  hostname := "panel.example.workers.dev"
  fragmentPreset := "mci"
  number text := .nat (Nat.ofDigitChars 10 text.toList 0)
  parseList _ := some []

def user (ips : List String) : User := ⟨"0b6f2c1e-8a4d-4f7b-9c3e-2d1a0f9b8c7d", ips, "chrome", ""⟩

end Sample

/-- One clean address. -/
theorem formats_agree_alone : ∃ configs, buildConfigs Sample.site (Sample.user ["104.16.0.0"]) = some configs ∧
    Agree configs := by
  have uniform : Uniform Sample.site (Sample.user ["104.16.0.0"]) := {
    alone := by
      rintro ips found
      obtain rfl := Option.some.inj found
      decide
    name := rfl
    port := ⟨443, by decide, rfl⟩
    address := by
      rintro ips found address member
      obtain rfl := Option.some.inj found
      obtain rfl := List.mem_singleton.mp member
      decide
    uuid := by decide
    named := by decide
    host := List.all_eq_true.mp (by decide : "panel.example.workers.dev".toList.all Yaml.isPrinted = true)
    fingerprint := Printed.legible (List.all_eq_true.mp (by decide : "chrome".toList.all Yaml.isPrinted = true)) }
  exact ⟨_, rfl, (formats_agree rfl).1 uniform⟩

/-- With two addresses the outbounds and the proxies are numbered, and the share links are not. -/
theorem numbered_names_differ : ∃ configs,
    buildConfigs Sample.site (Sample.user ["104.16.0.0", "104.17.0.0"]) = some configs ∧ ¬ Agree configs := by
  obtain ⟨configs, built⟩ : ∃ configs,
      buildConfigs Sample.site (Sample.user ["104.16.0.0", "104.17.0.0"]) = some configs := ⟨_, rfl⟩
  refine ⟨configs, built, fun agree => ?_⟩
  have letters : ∀ address ∈ ["104.16.0.0", "104.17.0.0"],
      (orElse address Sample.site.panelHost).toList.all Uri.isHostLetter = true := by decide
  have alone := (uniform_of_agree built (by decide) rfl letters rfl agree).1
  exact absurd alone (by decide)

end OmniControlPlane.Panel.Generator
