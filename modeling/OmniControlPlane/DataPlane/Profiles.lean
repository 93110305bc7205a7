import OmniControlPlane.Lib.Uri

/-! # Client profiles

The ready bundle of a deployment: its share links, its sing-box profiles and its Clash file. The names of a
deployment are those that the validation of its request lets through.
-/

namespace OmniControlPlane.DataPlane

open Lib

def isLowerAlphanumeric (char : Char) : Bool := ('a' ≤ char && char ≤ 'z') || ('0' ≤ char && char ≤ '9')

/-- `/^[a-z0-9](?:[a-z0-9-]*[a-z0-9])?$/u`, of at most 63 characters -/
def isLabel (label : List Char) : Bool :=
  label.length ≤ 63 && label.all (fun char => isLowerAlphanumeric char || char = '-') &&
    label.head?.any isLowerAlphanumeric && label.getLast?.any isLowerAlphanumeric

def isValidHostname (value : String) : Bool :=
  (utf16 value).length ≤ 253 && '.' ∈ value.toList && (value.toList.splitOn '.').all isLabel

/-- `/^[a-z][a-z0-9-]{1,62}[a-z0-9]$/u` -/
def isValidWorkerName (value : String) : Bool :=
  3 ≤ value.toList.length && value.toList.length ≤ 64 &&
    value.toList.all (fun char => isLowerAlphanumeric char || char = '-') &&
    value.toList.head?.any (fun char => 'a' ≤ char && char ≤ 'z') && value.toList.getLast?.any isLowerAlphanumeric

abbrev Hostname := { text : String // isValidHostname text = true }

abbrev WorkerName := { text : String // isValidWorkerName text = true }

structure DeploymentRow where
  worker_name : WorkerName
  worker_hostname : Hostname
  node_hostname : Hostname
  reality_server_name : Hostname

structure SecretBundle where
  vlessPort : Option ℕ
  vlessUuid : Option String
  realityPublicKey : Option String
  realityShortId : Option String
  hysteria2Password : Option String
  hysteria2CertSha256 : Option String
  hysteria2SpkiSha256 : Option String

structure ProfileOptions where
  subscriptionToken : Option String
  controlOrigin : Option String

def CF_EDGE_PIN_IPV4 : String := "104.16.0.1"

def NATIONAL_RESOLVER_IPV4 : String := "178.22.122.100"

/-! ## sing-box -/

structure DnsSection where
  servers : List Json
  rules : List Json
  final : String

def DnsSection.json (dns : DnsSection) : Json :=
  .object [("servers", .array dns.servers), ("rules", .array dns.rules), ("final", .string dns.final)]

def dnsSection (deployment : DeploymentRow) (subscriptionToken : String) : DnsSection :=
  let dohAddress := "https://" ++ deployment.worker_hostname.val ++ "/dns-query?k=" ++ subscriptionToken
  { servers := [
      .object [("tag", .string "doh-own"), ("address", .string dohAddress), ("address_resolver", .string "clean-pin"),
        ("detour", .string "proxy")],
      .object [("tag", .string "clean-pin"), ("address", .string "tcp://1.1.1.1"), ("detour", .string "direct")],
      .object [("tag", .string "ir-direct"), ("address", .string ("tcp://" ++ NATIONAL_RESOLVER_IPV4)),
        ("detour", .string "direct")]]
    rules := [
      .object [("rule_set", .string "geoip-ir"), ("server", .string "ir-direct")],
      .object [("domain_suffix", .string ".ir"), ("server", .string "ir-direct")],
      .object [("domain", .string deployment.worker_hostname.val), ("server", .string "clean-pin")],
      .object [("outbound", .string "any"), ("server", .string "ir-direct")]]
    final := "doh-own" }

/-- The fields of `routeSection`. -/
def routeSection (deployment : DeploymentRow) (controlOrigin : String) : List (String × Json) :=
  [("rules", .array [
      .object [("ip_is_private", .bool true), ("outbound", .string "direct")],
      .object [("rule_set", .string "geoip-ir"), ("outbound", .string "direct")],
      .object [("rule_set", .string "race-direct"), ("outbound", .string "direct")],
      .object [("domain_suffix", .string ".ir"), ("outbound", .string "direct")],
      .object [("domain", .string deployment.worker_hostname.val), ("action", .string "route"),
        ("override_address", .string CF_EDGE_PIN_IPV4), ("override_port", .number 443), ("outbound", .string "direct")]]),
   ("rule_set", .array [
      .object [("tag", .string "geoip-ir"), ("type", .string "remote"),
        ("url", .string (controlOrigin ++ "/api/v1/geoip-ir.json")), ("download_detour", .string "proxy")],
      .object [("tag", .string "race-direct"), ("type", .string "remote"),
        ("url", .string (controlOrigin ++ "/api/v1/race-direct.json")), ("download_detour", .string "proxy")]]),
   ("final", .string "proxy")]

def baseClientConfig (deployment : DeploymentRow) (outbound : Json) (options : ProfileOptions) (sniff fakedns : Bool) :
    Json :=
  let dns := dnsSection deployment (options.subscriptionToken.getD "")
  let dns := if fakedns then
      { dns with
        servers := dns.servers ++ [Json.object [("tag", .string "fakeip"), ("address", .string "fakeip")]]
        rules := .object [("query_type", .array [.string "A", .string "AAAA"]), ("server", .string "fakeip")] :: dns.rules }
    else dns
  .object [
    ("log", .object [("level", .string "warn"), ("timestamp", .bool true)]),
    ("inbounds", .array [.object [("type", .string "mixed"), ("tag", .string "mixed-in"),
      ("listen", .string "127.0.0.1"), ("listen_port", .number 2080)]]),
    ("dns", dns.json),
    ("outbounds", .array [outbound, .object [("type", .string "direct"), ("tag", .string "direct")]]),
    ("route", .object (routeSection deployment (options.controlOrigin.getD "") ++ [("sniff", .bool sniff)]))]

/-! ## Clash -/

/-- The lines of `buildClashYaml`. -/
def clashLines (deployment : DeploymentRow) (secrets : SecretBundle) (options : ProfileOptions) : List String :=
  let vlessPort := secrets.vlessPort.getD 443
  let doh := "https://" ++ deployment.worker_hostname.val ++ "/dns-query?k=" ++ options.subscriptionToken.getD ""
  [
    "mixed-port: 2080",
    "allow-lan: false",
    "mode: rule",
    "hosts:",
    "  " ++ deployment.worker_hostname.val ++ ": " ++ CF_EDGE_PIN_IPV4,
    "dns:",
    "  enable: true",
    "  default-nameserver: [1.1.1.1]",
    "  nameserver: ['" ++ doh ++ "#PROXY']",
    "proxies:",
    "  - name: " ++ deployment.worker_name.val ++ "-reality",
    "    type: vless",
    "    server: " ++ deployment.node_hostname.val,
    "    port: " ++ toString vlessPort,
    "    uuid: " ++ secrets.vlessUuid.getD "",
    "    flow: xtls-rprx-vision",
    "    tls: true",
    "    servername: " ++ deployment.reality_server_name.val,
    "    client-fingerprint: chrome",
    "    reality-opts:",
    "      public-key: " ++ secrets.realityPublicKey.getD "",
    "      short-id: " ++ secrets.realityShortId.getD "",
    "  - name: " ++ deployment.worker_name.val ++ "-hy2",
    "    type: hysteria2",
    "    server: " ++ deployment.node_hostname.val,
    "    port: 443",
    "    password: " ++ secrets.hysteria2Password.getD "",
    "    sni: " ++ deployment.node_hostname.val,
    "    skip-cert-verify: true",
    "proxy-groups:",
    "  - name: PROXY",
    "    type: select",
    "    proxies:",
    "      - " ++ deployment.worker_name.val ++ "-reality",
    "      - " ++ deployment.worker_name.val ++ "-hy2",
    "rules:",
    "  - DOMAIN," ++ deployment.worker_hostname.val ++ ",DIRECT",
    "  - DOMAIN-SUFFIX,ir,DIRECT",
    "  - GEOIP,IR,DIRECT",
    "  - MATCH,PROXY"]

/-- Minimal Clash Meta YAML with the same honest routing policy. -/
def buildClashYaml (deployment : DeploymentRow) (secrets : SecretBundle) (options : ProfileOptions) : List Char :=
  List.intercalate ['\n'] ((clashLines deployment secrets options).map String.toList) ++ ['\n']

/-! ## The bundle -/

structure DataPlaneBundle where
  status : String
  label : String
  uris : List String
  profiles : List (String × Json)
  profileVariants : List (String × Json)
  clashYaml : Option String
  generatedAt : String

/-- What `JSON.stringify` is given. -/
def DataPlaneBundle.json (bundle : DataPlaneBundle) : Json :=
  .object [
    ("schemaVersion", .number 1),
    ("status", .string bundle.status),
    ("label", .string bundle.label),
    ("uris", .array (bundle.uris.map .string)),
    ("profiles", .object bundle.profiles),
    ("profileVariants", .object bundle.profileVariants),
    ("clashYaml", bundle.clashYaml.elim .null .string),
    ("generatedAt", .string bundle.generatedAt),
    ("singBoxVersion", .string "1.14.0")]

/-- The credentials, once all are there. -/
structure Credentials where
  vlessPort : ℕ
  vlessUuid : String
  realityPublicKey : String
  realityShortId : String
  hysteria2Password : String
  hysteria2CertSha256 : String
  hysteria2SpkiSha256 : String

/-- A string that is missing or empty is none. -/
def filled (text : Option String) : Option String := text.filter (· ≠ "")

def SecretBundle.complete (secrets : SecretBundle) : Option Credentials := do
  let vlessUuid ← filled secrets.vlessUuid
  let realityPublicKey ← filled secrets.realityPublicKey
  let realityShortId ← filled secrets.realityShortId
  let hysteria2Password ← filled secrets.hysteria2Password
  let hysteria2CertSha256 ← filled secrets.hysteria2CertSha256
  let hysteria2SpkiSha256 ← filled secrets.hysteria2SpkiSha256
  some {
    vlessPort := secrets.vlessPort.getD 443
    vlessUuid, realityPublicKey, realityShortId, hysteria2Password, hysteria2CertSha256, hysteria2SpkiSha256 }

def vlessUri (deployment : DeploymentRow) (secrets : Credentials) : List Char :=
  let vlessQuery := urlSearchParams [
    ("encryption", "none"),
    ("flow", "xtls-rprx-vision"),
    ("security", "reality"),
    ("sni", deployment.reality_server_name.val),
    ("fp", "chrome"),
    ("pbk", secrets.realityPublicKey),
    ("sid", secrets.realityShortId),
    ("type", "tcp")]
  "vless://".toList ++ secrets.vlessUuid.toList ++ '@' :: deployment.node_hostname.val.toList ++
    ':' :: (toString secrets.vlessPort).toList ++ '?' :: vlessQuery ++
    '#' :: encodeURIComponent (deployment.worker_name.val ++ "-reality")

def hy2Uri (deployment : DeploymentRow) (secrets : Credentials) : List Char :=
  let hy2Query := urlSearchParams [
    ("sni", deployment.node_hostname.val),
    ("insecure", "1"),
    ("pinSHA256", secrets.hysteria2CertSha256)]
  "hysteria2://".toList ++ encodeURIComponent secrets.hysteria2Password ++ '@' :: deployment.node_hostname.val.toList ++
    ":443/?".toList ++ hy2Query ++ '#' :: encodeURIComponent (deployment.worker_name.val ++ "-hy2")

def vlessOutbound (deployment : DeploymentRow) (secrets : Credentials) : Json :=
  .object [
    ("type", .string "vless"),
    ("tag", .string "proxy"),
    ("server", .string deployment.node_hostname.val),
    ("server_port", .number secrets.vlessPort),
    ("uuid", .string secrets.vlessUuid),
    ("flow", .string "xtls-rprx-vision"),
    ("network", .string "tcp"),
    ("tls", .object [
      ("enabled", .bool true),
      ("server_name", .string deployment.reality_server_name.val),
      ("utls", .object [("enabled", .bool true), ("fingerprint", .string "chrome")]),
      ("reality", .object [
        ("enabled", .bool true),
        ("public_key", .string secrets.realityPublicKey),
        ("short_id", .string secrets.realityShortId)])])]

def hysteria2Outbound (deployment : DeploymentRow) (secrets : Credentials) : Json :=
  .object [
    ("type", .string "hysteria2"),
    ("tag", .string "proxy"),
    ("server", .string deployment.node_hostname.val),
    ("server_port", .number 443),
    ("password", .string secrets.hysteria2Password),
    ("tls", .object [
      ("enabled", .bool true),
      ("server_name", .string deployment.node_hostname.val),
      ("insecure", .bool true),
      ("certificate_public_key_sha256", .array [.string secrets.hysteria2SpkiSha256])]),
    ("bbr_profile", .string "standard")]

/-- The ready bundle, once all credentials are there. -/
def readyBundle (deployment : DeploymentRow) (secrets : SecretBundle) (credentials : Credentials)
    (options : ProfileOptions) (now : String) : DataPlaneBundle :=
  let vlessOutbound := vlessOutbound deployment credentials
  let hysteria2Outbound := hysteria2Outbound deployment credentials
  { status := "ready"
    label := deployment.worker_name.val
    uris := [String.ofList (vlessUri deployment credentials), String.ofList (hy2Uri deployment credentials)]
    profiles := [
      ("vless", baseClientConfig deployment vlessOutbound options true false),
      ("hysteria2", baseClientConfig deployment hysteria2Outbound options true false)]
    profileVariants := [("vless", vlessOutbound), ("hysteria2", hysteria2Outbound)].flatMap fun (protocol, outbound) => [
      (protocol ++ " · sniff خاموش", baseClientConfig deployment outbound options false false),
      (protocol ++ " · fakedns روشن", baseClientConfig deployment outbound options true true)]
    clashYaml := some (String.ofList (buildClashYaml deployment secrets options))
    generatedAt := now }

/-- The ready bundle; `none` where a credential is missing, which throws. -/
def buildReadyBundle (deployment : DeploymentRow) (secrets : SecretBundle) (options : ProfileOptions)
    (now : String) : Option DataPlaneBundle := do
  let credentials ← secrets.complete
  some (readyBundle deployment secrets credentials options now)

end OmniControlPlane.DataPlane
