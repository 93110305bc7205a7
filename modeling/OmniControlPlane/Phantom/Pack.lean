import OmniControlPlane.DataPlane.Formats
import OmniControlPlane.Lib.Uri

/-! # The PHANTOM pack

Twenty client configurations for a domain and an identifier, in three forms. The links are written when the
pack is built; the Clash file and the sing-box profile are written from its entries, by rules of their own.
-/

namespace OmniControlPlane.Phantom

open Lib
open DataPlane.Formats (stringOf natOf textOf)

/-! ## The input -/

def isLowerAlphanumeric (char : Char) : Bool := ('a' ≤ char && char ≤ 'z') || ('0' ≤ char && char ≤ '9')

/-- `toLowerCase`, as far as the patterns below can see: the Kelvin sign becomes a letter. -/
def lowerChar (char : Char) : Char := if char.toNat = 0x212A then 'k' else char.toLower

/-- `input.trim().toLowerCase()` -/
def normalized (input : String) : List Char := (trim input).map lowerChar

/-- `text.split(separator)[0]` -/
def upTo (separator : Char) (text : List Char) : List Char := text.takeWhile (· ≠ separator)

def sanitizePackDomain (input : String) : Option String :=
  let raw := normalized input
  let withoutScheme := ((splitOnce "://".toList raw).map (·.2)).getD raw
  let host := upTo ':' (upTo '/' withoutScheme)
  let parts := host.splitOn '.'
  if host.length < 4 ∨ 253 < host.length ∨ '.' ∉ host ∨ ' ' ∈ host then none
  else if host.all (fun char => isLowerAlphanumeric char || char = '.' || char = '-') = false then none
  else if parts.any (fun part => part.length = 0 || 63 < part.length) then none
  else if (parts.getLast?.any fun last => 2 ≤ last.length && last.all fun char => 'a' ≤ char && char ≤ 'z') = false then none
  else some (String.ofList host)

/-- `UUID_PATTERN` -/
def isUuid (text : List Char) : Bool :=
  match text.splitOn '-' with
  | [a, b, c, d, e] =>
    DataPlane.Formats.isHexOf 8 a && DataPlane.Formats.isHexOf 4 b && DataPlane.Formats.isHexOf 4 c &&
      DataPlane.Formats.isHexOf 4 d && DataPlane.Formats.isHexOf 12 e
  | _ => false

/-- The identifier, or the one that `crypto.randomUUID` mints. -/
def normalizePackUuid (minted : String) (input : Option String) : String :=
  let value := normalized (input.getD "")
  if value = [] ∨ value = "new".toList ∨ value = "uuid".toList then minted
  else if isUuid value then String.ofList value
  else if 8 ≤ value.length ∧ value.length ≤ 64 ∧ value.all fun char => isLowerAlphanumeric char || char = '-' then
    String.ofList value
  else minted

/-! ## The links -/

def PACK_SIZE : ℕ := 20

def PACK_PORTS : List ℕ := [443, 8443, 2053, 2083, 2087, 2096]

def PACK_FINGERPRINTS : List String := ["chrome", "firefox", "safari", "edge", "ios", "android"]

def SS_METHODS : List String :=
  ["chacha20-ietf-poly1305", "aes-256-gcm", "2022-blake3-aes-128-gcm", "2022-blake3-chacha20-poly1305"]

def HY_PORTS : List ℕ := [8443, 443, 2087, 2053, 50000]

inductive PackKind where
  | vless | ss | hysteria2
deriving DecidableEq, Repr

structure PackEntry where
  label : String
  kind : PackKind
  port : ℕ
  link : String
deriving DecidableEq, Repr

structure PhantomPack where
  domain : String
  uuid : String
  entries : List PackEntry
deriving DecidableEq, Repr

/-- How often a kind occurs, as the pack counts it. -/
def PhantomPack.counts (pack : PhantomPack) (kind : PackKind) : ℕ := pack.entries.countP (·.kind = kind)

def toBase64 (text : String) : List Char := btoa (utf8 text)

def toBase64Url (text : String) : List Char := base64Url (utf8 text)

/-- `value@domain:port?params#fragment` after a scheme. -/
def link (scheme : String) (user : List Char) (domain : String) (port : ℕ) (params : List (String × String))
    (fragment : List Char) : String :=
  String.ofList (scheme.toList ++ "://".toList ++ user ++ '@' :: domain.toList ++ ':' :: Nat.toDigits 10 port ++
    '?' :: urlSearchParams params ++ '#' :: fragment)

def vlessPath (domain : String) : String := "/vless?ed=2048&security=tls&sni=" ++ domain

def vlessLink (domain uuid : String) (port : ℕ) (fingerprint label : String) (index : ℕ) : String :=
  link "vless" uuid.toList domain port
    [("type", "ws"), ("security", "tls"), ("sni", domain), ("fp", fingerprint), ("alpn", "h2"), ("host", domain),
      ("path", vlessPath domain), ("seed", "null")]
    (encodeURIComponent label ++ '-' :: Nat.toDigits 10 (index + 1))

def ssLink (domain uuid : String) (port : ℕ) (method label : String) : String :=
  let key :=
    if method.startsWith "2022" then
      String.ofList ((toBase64 (String.ofList (uuid.toList.filter (· ≠ '-')))).take 16)
    else uuid
  link "ss" (toBase64Url (method ++ ":" ++ key)) domain port
    [("plugin", "obfs-local;obfs=http;obfs-host=" ++ domain), ("obfsParam", domain)] (encodeURIComponent label)

def hysteria2Link (domain uuid : String) (port : ℕ) (label : String) : String :=
  link "hy2" uuid.toList domain port
    [("sni", domain), ("obfs", "salamander"), ("obfs-password", String.ofList (uuid.toList.take 8))]
    (encodeURIComponent label)

def vlessEntry (domain uuid : String) (i : ℕ) : PackEntry :=
  let port := (PACK_PORTS[i % PACK_PORTS.length]?).getD 443
  let fingerprint := (PACK_FINGERPRINTS[i % PACK_FINGERPRINTS.length]?).getD "chrome"
  { label := s!"VL-{port}-{fingerprint}", kind := .vless, port,
    link := vlessLink domain uuid port fingerprint s!"VL{port}" i }

def ssEntry (domain uuid : String) (i : ℕ) : PackEntry :=
  let port := (PACK_PORTS[i % PACK_PORTS.length]?).getD 443
  let method := (SS_METHODS[i]?).getD "aes-256-gcm"
  { label := "SS-" ++ method, kind := .ss, port, link := ssLink domain uuid port method s!"SS{port}" }

def hysteria2Entry (domain uuid : String) (index : ℕ) : PackEntry :=
  let port := (HY_PORTS[index % HY_PORTS.length]?).getD 443
  { label := s!"HY2-{port}", kind := .hysteria2, port, link := hysteria2Link domain uuid port s!"HY2-{index + 1}" }

/-- The entries of a pack: the slots that the first two kinds leave are of the third. -/
def packEntries (domain uuid : String) : List PackEntry :=
  let entries := (List.range 12).map (vlessEntry domain uuid) ++ (List.range SS_METHODS.length).map (ssEntry domain uuid)
  entries ++ (List.range (PACK_SIZE - entries.length)).map (hysteria2Entry domain uuid)

def buildPhantomPack (minted domainInput : String) (uuidInput : Option String) : Except String PhantomPack :=
  match sanitizePackDomain domainInput with
  | none => .error "invalid_pack_domain"
  | some domain =>
    let uuid := normalizePackUuid minted uuidInput
    .ok { domain, uuid, entries := packEntries domain uuid }

/-! ## The forms -/

/-- Lines, as `join` makes them one text. -/
def joined (lines : List String) : List Char := List.intercalate ['\n'] (lines.map String.toList)

def packToSubscription (pack : PhantomPack) : List Char :=
  toBase64 (String.ofList (joined (pack.entries.map (·.link))))

/-- `label.replace("SS-", "")` -/
def methodOf (label : String) : String :=
  match splitOnce "SS-".toList label.toList with
  | some (before, after) => String.ofList (before ++ after)
  | none => label

def proxyLines (pack : PhantomPack) (entry : PackEntry) : List String :=
  match entry.kind with
  | .vless => [
      "  - name: \"" ++ entry.label ++ "\"",
      "    type: vless",
      "    server: " ++ pack.domain,
      "    port: " ++ toString entry.port,
      "    uuid: " ++ pack.uuid,
      "    tls: true",
      "    network: ws",
      "    servername: " ++ pack.domain,
      "    udp: true",
      "    client-fingerprint: chrome",
      "    ws-opts:",
      "      path: \"" ++ vlessPath pack.domain ++ "\"",
      "      headers:",
      "        Host: " ++ pack.domain]
  | .ss => [
      "  - name: \"" ++ entry.label ++ "\"",
      "    type: shadowsocks",
      "    server: " ++ pack.domain,
      "    port: " ++ toString entry.port,
      "    cipher: " ++ methodOf entry.label,
      "    password: " ++ pack.uuid]
  | .hysteria2 => [
      "  - name: \"" ++ entry.label ++ "\",",
      "    type: hysteria2",
      "    server: " ++ pack.domain,
      "    port: " ++ toString entry.port,
      "    password: " ++ pack.uuid,
      "    sni: " ++ pack.domain]

def clashLines (pack : PhantomPack) : List String :=
  "proxies:" :: pack.entries.flatMap (proxyLines pack) ++ [
    "proxy-groups:",
    "  - name: PHANTOM",
    "    type: url-test",
    "    proxies: [" ++ ", ".intercalate (pack.entries.map fun entry => "\"" ++ entry.label ++ "\"") ++ "]",
    "    url: https://www.gstatic.com/generate_204",
    "    interval: 30"]

def packToClashYaml (pack : PhantomPack) : List Char := joined (clashLines pack)

def outbound (pack : PhantomPack) (entry : PackEntry) : Json :=
  match entry.kind with
  | .vless => .object [
      ("tag", .string entry.label), ("type", .string "vless"), ("server", .string pack.domain),
      ("server_port", .number entry.port), ("uuid", .string pack.uuid),
      ("tls", .object [("enabled", .bool true), ("server_name", .string pack.domain),
        ("utls", .object [("enabled", .bool true), ("fingerprint", .string "chrome")])]),
      ("transport", .object [("type", .string "ws"), ("path", .string (vlessPath pack.domain)),
        ("headers", .object [("Host", .string pack.domain)])])]
  | .ss => .object [
      ("tag", .string entry.label), ("type", .string "shadowsocks"), ("server", .string pack.domain),
      ("server_port", .number entry.port), ("method", .string (methodOf entry.label)), ("password", .string pack.uuid)]
  | .hysteria2 => .object [
      ("tag", .string entry.label), ("type", .string "hysteria2"), ("server", .string pack.domain),
      ("server_port", .number entry.port), ("password", .string pack.uuid),
      ("tls", .object [("enabled", .bool true), ("server_name", .string pack.domain), ("insecure", .bool true)])]

def singBoxProfile (pack : PhantomPack) : Json :=
  .object [("log", .object [("level", .string "info")]),
    ("outbounds", .array (.object [("type", .string "selector"), ("tag", .string "PHANTOM"),
      ("outbounds", .array (pack.entries.map fun entry => .string entry.label))] :: pack.entries.map (outbound pack)))]

def packToSingBox (pack : PhantomPack) : List Char := Json.write Json.indented 0 (singBoxProfile pack)

/-! ## What a client reads -/

/-- What a configuration says, whatever its form. -/
structure Profile where
  name : String
  protocol : PackKind
  server : String
  port : ℕ
  cipher : Option String := none
  fingerprint : Option String := none
  path : Option String := none
  secret : String
  obfsPassword : Option String := none
deriving DecidableEq, Repr

/-- A share link; the user information of Shadowsocks is a method and a key. -/
def profileOfUri (text : List Char) : Option Profile := do
  let uri ← Uri.read text
  let server := uri.host
  let port ← uri.port
  let user ← uri.userinfo
  let name := uri.fragment.getD ""
  if uri.scheme = "vless" then
    some { name, protocol := .vless, server, port, fingerprint := uri.query.lookup "fp", path := uri.query.lookup "path",
           secret := user }
  else if uri.scheme = "ss" then
    let bytes ← base64UrlBytes user.toList
    let (method, key) := cut ':' (decodeUtf8 bytes).toList
    let key ← key
    some { name, protocol := .ss, server, port, cipher := some (String.ofList method), secret := String.ofList key }
  else if uri.scheme = "hy2" ∨ uri.scheme = "hysteria2" then
    some { name, protocol := .hysteria2, server, port, secret := user, obfsPassword := uri.query.lookup "obfs-password" }
  else none

def profilesOfSubscription (text : List Char) : Option (List Profile) := do
  let bytes ← atob text
  ((decodeUtf8 bytes).toList.splitOn '\n').mapM profileOfUri

/-- A proxy of a Clash file -/
def profileOfProxy (proxy : Yaml) : Option Profile := do
  let name ← textOf proxy "name"
  let type ← textOf proxy "type"
  let server ← textOf proxy "server"
  let port ← proxy.field? "port" >>= Yaml.nat?
  if type = "vless" then
    let secret ← textOf proxy "uuid"
    let path := proxy.field? "ws-opts" >>= fun options => textOf options "path"
    some { name, protocol := .vless, server, port, fingerprint := textOf proxy "client-fingerprint", path, secret }
  else if type = "ss" ∨ type = "shadowsocks" then
    let secret ← textOf proxy "password"
    some { name, protocol := .ss, server, port, cipher := textOf proxy "cipher", secret }
  else if type = "hysteria2" then
    let secret ← textOf proxy "password"
    some { name, protocol := .hysteria2, server, port, secret, obfsPassword := textOf proxy "obfs-password" }
  else none

def profilesOfClash (text : List Char) : Option (List Profile) := do
  let document ← Yaml.read text
  let .seq proxies ← document.field? "proxies" | none
  proxies.mapM profileOfProxy

/-- An outbound of sing-box -/
def profileOfOutbound (outbound : Json) : Option Profile := do
  let name ← stringOf outbound "tag"
  let type ← stringOf outbound "type"
  let server ← stringOf outbound "server"
  let port ← natOf outbound "server_port"
  if type = "vless" then
    let secret ← stringOf outbound "uuid"
    let fingerprint := do stringOf (← (← outbound.field? "tls").field? "utls") "fingerprint"
    let path := do stringOf (← outbound.field? "transport") "path"
    some { name, protocol := .vless, server, port, fingerprint, path, secret }
  else if type = "shadowsocks" then
    let secret ← stringOf outbound "password"
    some { name, protocol := .ss, server, port, cipher := stringOf outbound "method", secret }
  else if type = "hysteria2" then
    let secret ← stringOf outbound "password"
    let obfsPassword := do stringOf (← outbound.field? "obfs") "password"
    some { name, protocol := .hysteria2, server, port, secret, obfsPassword }
  else none

/-- The outbounds behind the selector. -/
def profilesOfSingBox (text : List Char) : Option (List Profile) := do
  let profile ← Json.parse text
  let .array outbounds ← profile.field? "outbounds" | none
  (outbounds.filter fun outbound => stringOf outbound "type" ≠ some "selector").mapM profileOfOutbound

/-- The entries have a name each. -/
def Named (profiles : List Profile) : Prop := (profiles.map (·.name)).Nodup

/-- What the forms are to agree on. -/
def Profile.content (profile : Profile) : Profile := { profile with name := "" }

/-- The three forms of a pack can be read, name their entries, and agree on them. -/
def Agree (pack : PhantomPack) : Prop :=
  ∃ links proxies outbounds,
    profilesOfSubscription (packToSubscription pack) = some links ∧
    profilesOfClash (packToClashYaml pack) = some proxies ∧
    profilesOfSingBox (packToSingBox pack) = some outbounds ∧
    Named links ∧ Named proxies ∧ Named outbounds ∧
    links.map Profile.content = proxies.map Profile.content ∧
    proxies.map Profile.content = outbounds.map Profile.content

/-! ## The Clash file -/

section

variable {lines : List String} {line : String}

/-- A line of its own is one of the lines again. -/
theorem mem_splitOn_joined (member : line ∈ lines) (unbroken : '\n' ∉ line.toList) :
    line.toList ∈ (joined lines).splitOn '\n' := by
  have single : line.toList.splitOn '\n' = [line.toList] := by
    apply List.splitOnP_eq_singleton
    intro char inside
    simp only [beq_eq_false_iff_ne, ne_eq]
    rintro rfl
    exact unbroken inside
  unfold joined
  induction lines with
  | nil => exact absurd member List.not_mem_nil
  | cons first rest ih =>
    cases rest with
    | nil =>
      obtain rfl := List.mem_singleton.mp member
      rw [List.map_singleton, List.intercalate_singleton, single]
      exact List.mem_singleton.mpr rfl
    | cons second rest =>
      rw [List.map_cons, List.map_cons, List.intercalate_cons_cons, List.append_assoc, List.singleton_append,
        List.splitOn, List.splitOnP_append_cons _ _ (by simp), List.mem_append]
      rcases List.mem_cons.mp member with rfl | later
      · left
        change line.toList ∈ line.toList.splitOn '\n'
        rw [single]
        exact List.mem_singleton.mpr rfl
      · right
        exact ih later

/-- A document with a line that cannot be read is not read. -/
theorem read_eq_none {text line : List Char} (member : line ∈ text.splitOn '\n') (broken : Yaml.readLine line = none) :
    Yaml.read text = none := by
  have tokens : Yaml.tokens text = none := by
    rw [Yaml.tokens, Option.map_eq_none_iff]
    generalize text.splitOn '\n' = lines at member
    induction lines with
    | nil => exact absurd member List.not_mem_nil
    | cons first rest ih =>
      rw [List.mapM_cons]
      rcases List.mem_cons.mp member with rfl | later
      · rw [broken]
        rfl
      · rw [ih later]
        cases Yaml.readLine first <;> rfl
  rw [Yaml.read, tokens]
  rfl

end

/-- The name of a Hysteria2 proxy, with a comma behind its closing quote. -/
theorem readLine_comma : Yaml.readLine "  - name: \"HY2-8443\",".toList = none := by decide

theorem label_hysteria2Entry (domain uuid : String) : (hysteria2Entry domain uuid 0).label = "HY2-8443" := by
  show s!"HY2-{8443}" = "HY2-8443"
  decide

theorem comma_mem (domain uuid : String) :
    "  - name: \"HY2-8443\"," ∈ clashLines { domain, uuid, entries := packEntries domain uuid } := by
  have entry : hysteria2Entry domain uuid 0 ∈ packEntries domain uuid := by
    refine List.mem_append_right _ (List.mem_map.mpr ⟨0, ?_, rfl⟩)
    simp [PACK_SIZE, SS_METHODS]
  unfold clashLines
  refine List.mem_append_left _ (List.mem_cons_of_mem _ (List.mem_flatMap.mpr ⟨_, entry, ?_⟩))
  have kind : (hysteria2Entry domain uuid 0).kind = .hysteria2 := rfl
  rw [proxyLines, kind, label_hysteria2Entry]
  exact List.mem_cons_self

/-- No Clash file of a pack can be read. -/
theorem profilesOfClash_eq_none (domain uuid : String) :
    profilesOfClash (packToClashYaml { domain, uuid, entries := packEntries domain uuid }) = none := by
  have unbroken : '\n' ∉ "  - name: \"HY2-8443\",".toList := by decide
  rw [profilesOfClash, packToClashYaml, read_eq_none (mem_splitOn_joined (comma_mem domain uuid) unbroken) readLine_comma]
  rfl

/-! ## The sing-box profile -/

section

variable {pack : PhantomPack} {entry : PackEntry}

theorem plain_outbound (pack : PhantomPack) (entry : PackEntry) : Json.Plain (outbound pack entry) := by
  unfold outbound
  split <;> simp [Json.Plain, Json.PlainFields]

theorem plain_map {α : Type} {items : List α} {write : α → Json} (each : ∀ item, Json.Plain (write item)) :
    Json.PlainItems (items.map write) := by
  induction items with
  | nil => trivial
  | cons item rest ih => exact ⟨each item, ih⟩

theorem plain_singBoxProfile (pack : PhantomPack) : Json.Plain (singBoxProfile pack) := by
  have tags : Json.PlainItems (pack.entries.map fun entry => .string entry.label) := plain_map fun _ => trivial
  have outbounds : Json.PlainItems (pack.entries.map (outbound pack)) := plain_map (plain_outbound pack)
  simp [singBoxProfile, Json.Plain, Json.PlainFields, Json.PlainItems, tags, outbounds]

/-- What a client reads of an outbound: the fingerprint is that of Chrome, and there is no obfuscation. -/
def profileOfEntry (pack : PhantomPack) (entry : PackEntry) : Profile :=
  match entry.kind with
  | .vless =>
    { name := entry.label, protocol := .vless, server := pack.domain, port := entry.port, fingerprint := some "chrome",
      path := some (vlessPath pack.domain), secret := pack.uuid }
  | .ss =>
    { name := entry.label, protocol := .ss, server := pack.domain, port := entry.port,
      cipher := some (methodOf entry.label), secret := pack.uuid }
  | .hysteria2 =>
    { name := entry.label, protocol := .hysteria2, server := pack.domain, port := entry.port, secret := pack.uuid }

theorem profileOfOutbound_outbound (pack : PhantomPack) (entry : PackEntry) :
    profileOfOutbound (outbound pack entry) = some (profileOfEntry pack entry) := by
  unfold outbound profileOfEntry
  cases entry.kind <;> rfl

theorem profileOfEntry_name (pack : PhantomPack) (entry : PackEntry) : (profileOfEntry pack entry).name = entry.label := by
  unfold profileOfEntry
  split <;> rfl

theorem outbound_selected (pack : PhantomPack) (entry : PackEntry) :
    stringOf (outbound pack entry) "type" ≠ some "selector" := by
  have type : ∃ type ∈ ["vless", "shadowsocks", "hysteria2"], stringOf (outbound pack entry) "type" = some type := by
    unfold outbound
    cases entry.kind with
    | vless => exact ⟨"vless", by decide, rfl⟩
    | ss => exact ⟨"shadowsocks", by decide, rfl⟩
    | hysteria2 => exact ⟨"hysteria2", by decide, rfl⟩
  obtain ⟨type, known, read⟩ := type
  intro selector
  obtain rfl : type = "selector" := Option.some.inj (read.symm.trans selector)
  exact absurd known (by decide)

/-- A profile is read back, an outbound for each entry. -/
theorem profilesOfSingBox_eq (pack : PhantomPack) :
    profilesOfSingBox (packToSingBox pack) = some (pack.entries.map (profileOfEntry pack)) := by
  have kept : (pack.entries.map (outbound pack)).filter (fun outbound => stringOf outbound "type" ≠ some "selector") =
      pack.entries.map (outbound pack) := by
    rw [List.filter_eq_self]
    intro written member
    obtain ⟨entry, -, rfl⟩ := List.mem_map.mp member
    simpa using outbound_selected pack entry
  have read : (pack.entries.map (outbound pack)).mapM profileOfOutbound = some (pack.entries.map (profileOfEntry pack)) := by
    induction pack.entries with
    | nil => rfl
    | cons entry rest ih =>
      rw [List.map_cons, List.mapM_cons, profileOfOutbound_outbound, ih]
      rfl
  have selector (outbounds : List Json) :
      (Json.object [("type", .string "selector"), ("tag", .string "PHANTOM"),
        ("outbounds", .array (pack.entries.map fun entry => .string entry.label))] :: outbounds).filter
          (fun outbound => stringOf outbound "type" ≠ some "selector") =
        outbounds.filter fun outbound => stringOf outbound "type" ≠ some "selector" := rfl
  rw [profilesOfSingBox, packToSingBox, Json.parse_write (plain_singBoxProfile pack)]
  change List.mapM profileOfOutbound (List.filter _ (_ :: pack.entries.map (outbound pack))) = _
  rw [selector, kept, read]

end

/-- The labels of the first and of the seventh entry are the same. -/
theorem labels_not_nodup (domain uuid : String) : ¬ ((packEntries domain uuid).map (·.label)).Nodup := by
  intro distinct
  have vless : ((List.range 12).map fun i => (vlessEntry domain uuid i).label).Nodup := by
    refine distinct.sublist ?_
    rw [packEntries, List.map_append, List.map_append, List.map_map]
    exact (List.sublist_append_left _ _).trans (List.sublist_append_left _ _)
  have same : (vlessEntry domain uuid 0).label = (vlessEntry domain uuid 6).label := by
    simp [vlessEntry, PACK_PORTS, PACK_FINGERPRINTS]
  have first : 0 ∈ List.range 12 := by decide
  have seventh : 6 ∈ List.range 12 := by decide
  exact absurd (List.inj_on_of_nodup_map vless first seventh same) (by decide)

/-- The outbounds of a pack are read, but two of them have one name. -/
theorem profilesOfSingBox_not_named (domain uuid : String) :
    ∃ outbounds, profilesOfSingBox (packToSingBox { domain, uuid, entries := packEntries domain uuid }) = some outbounds ∧
      ¬ Named outbounds := by
  refine ⟨_, profilesOfSingBox_eq _, ?_⟩
  rw [Named, List.map_map]
  have names : Profile.name ∘ profileOfEntry { domain, uuid, entries := packEntries domain uuid } = PackEntry.label :=
    funext fun entry => profileOfEntry_name _ entry
  rw [names]
  exact labels_not_nodup domain uuid

theorem buildPhantomPack_eq {minted domainInput : String} {uuidInput : Option String} {pack : PhantomPack}
    (built : buildPhantomPack minted domainInput uuidInput = .ok pack) :
    ∃ domain uuid, pack = { domain, uuid, entries := packEntries domain uuid } := by
  unfold buildPhantomPack at built
  split at built
  · simp at built
  · exact ⟨_, _, (Except.ok.inj built).symm⟩

theorem not_agree (domain uuid : String) : ¬ Agree { domain, uuid, entries := packEntries domain uuid } := by
  rintro ⟨links, proxies, outbounds, -, read, -⟩
  rw [profilesOfClash_eq_none] at read
  exact absurd read (by simp)

/-- No pack has three forms that agree: its Clash file cannot be read, and two outbounds of its sing-box
profile have one name. -/
theorem forms_disagree (minted domainInput : String) (uuidInput : Option String) (pack : PhantomPack)
    (built : buildPhantomPack minted domainInput uuidInput = .ok pack) :
    ¬ Agree pack ∧ profilesOfClash (packToClashYaml pack) = none ∧
      ∃ outbounds, profilesOfSingBox (packToSingBox pack) = some outbounds ∧ ¬ Named outbounds := by
  obtain ⟨domain, uuid, rfl⟩ := buildPhantomPack_eq built
  refine ⟨not_agree domain uuid, ?_, ?_⟩
  · exact profilesOfClash_eq_none domain uuid
  · exact profilesOfSingBox_not_named domain uuid

def sample : PhantomPack where
  domain := "example.com"
  uuid := "short-id"
  entries := packEntries "example.com" "short-id"

theorem buildPhantomPack_sample :
    buildPhantomPack "minted" " https://Example.com:443/x" (some "Short-Id") = .ok sample := by
  have domain : sanitizePackDomain " https://Example.com:443/x" = some "example.com" := by decide
  have uuid : normalizePackUuid "minted" (some "Short-Id") = "short-id" := by decide
  rw [buildPhantomPack, domain, uuid]
  rfl

theorem sample_forms_disagree :
    ¬ Agree sample ∧ profilesOfClash (packToClashYaml sample) = none ∧
      ∃ outbounds, profilesOfSingBox (packToSingBox sample) = some outbounds ∧ ¬ Named outbounds :=
  forms_disagree "minted" " https://Example.com:443/x" (some "Short-Id") sample buildPhantomPack_sample

/-- A domain and an identifier that are accepted, and a line of their Clash file that is malformed. -/
theorem sample_malformed :
    buildPhantomPack "minted" " https://Example.com:443/x" (some "Short-Id") = .ok sample ∧
    "  - name: \"HY2-8443\"," ∈ clashLines sample ∧ Yaml.readLine "  - name: \"HY2-8443\",".toList = none ∧
    ¬ Agree sample := by
  refine ⟨buildPhantomPack_sample, ?_, readLine_comma, ?_⟩
  · exact comma_mem "example.com" "short-id"
  · exact not_agree "example.com" "short-id"

end OmniControlPlane.Phantom
