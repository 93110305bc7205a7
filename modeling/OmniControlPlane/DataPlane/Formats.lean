import OmniControlPlane.DataPlane.Worker
import OmniControlPlane.Lib.Yaml

/-! # The three forms of a bundle

The credentials that an agent reports, and what a client reads of them in the share links, in the sing-box
profiles and in the Clash file, each by the rules of its own format.
-/

namespace OmniControlPlane.DataPlane.Formats

open Lib

/-! ## The payload of an agent -/

structure HttpError where
  status : ℕ
  code : String
  message : String
deriving DecidableEq, Repr

def isHex (char : Char) : Bool := ('0' ≤ char && char ≤ '9') || ('a' ≤ char && char ≤ 'f')

/-- `/^[0-9a-f]{size}$/u` -/
def isHexOf (size : ℕ) (text : List Char) : Bool := text.length = size && text.all isHex

/-- `/^[0-9a-f-]{36}$/u` -/
def isDeploymentId (text : List Char) : Bool := text.length = 36 && text.all fun char => isHex char || char = '-'

/-- `/^[A-Za-z0-9_-]{least,most}$/u` -/
def isTokenOf (least most : ℕ) (text : List Char) : Bool :=
  least ≤ text.length && text.length ≤ most && text.all isTokenChar

/-- `/^1\.14\.0$/u` -/
def isSingBoxVersion (text : List Char) : Bool := text = "1.14.0".toList

/-- `/^[0-9a-f]{8}-[0-9a-f]{4}-[1-5][0-9a-f]{3}-[89ab][0-9a-f]{3}-[0-9a-f]{12}$/u` -/
def isUuid (text : List Char) : Bool :=
  match text.splitOn '-' with
  | [a, b, c, d, e] =>
    isHexOf 8 a && isHexOf 4 b && isHexOf 4 c && c.head?.any (fun char => '1' ≤ char && char ≤ '5') && isHexOf 4 d &&
      d.head?.any (fun char => char ∈ ['8', '9', 'a', 'b']) && isHexOf 12 e
  | _ => false

/-- `/^[A-Za-z0-9+/]{43}=$/u` -/
def isSpki (text : List Char) : Bool :=
  text.length = 44 && (text.take 43).all (fun char => isAlphanumeric char || char = '+' || char = '/') &&
    text.getLast? = some '='

/-- A string that a pattern matches. -/
abbrev Matching (pattern : List Char → Bool) := { text : String // pattern text.toList = true }

structure AgentCompletePayload where
  deploymentId : Matching isDeploymentId
  agentToken : Matching (isTokenOf 43 128)
  singBoxVersion : Matching isSingBoxVersion
  vlessUuid : Matching isUuid
  realityPublicKey : Matching (isTokenOf 43 43)
  realityShortId : Matching (isHexOf 16)
  hysteria2Password : Matching (isTokenOf 32 128)
  hysteria2CertSha256 : Matching (isHexOf 64)
  hysteria2SpkiSha256 : Matching isSpki
  configSha256 : Matching (isHexOf 64)
  vlessPort : { port : ℕ // port = 443 ∨ port = 8443 }
  dnsttPublicKey : Option (Matching (isHexOf 64))
  slipstreamSpkiSha256 : Option (Matching isSpki)

def invalid (field : String) : HttpError := ⟨400, "invalid_input", field ++ " is invalid"⟩

/-- A field that must be there, and match its pattern. -/
def stringField (body : Json) (field : String) (pattern : List Char → Bool) : Except HttpError (Matching pattern) :=
  match body.field? field with
  | some (.string text) => if matched : pattern text.toList = true then .ok ⟨text, matched⟩ else .error (invalid field)
  | _ => .error (invalid field)

/-- A field that may be missing, but else must match its pattern. -/
def optionalField (body : Json) (field : String) (pattern : List Char → Bool) :
    Except HttpError (Option (Matching pattern)) :=
  match body.field? field with
  | none => .ok none
  | some _ => (stringField body field pattern).map some

/-- A number is an integer here if its value is one. -/
def portField (body : Json) : Except HttpError { port : ℕ // port = 443 ∨ port = 8443 } :=
  match body.field? "vlessPort" with
  | some (.number value) =>
    if value = 443 then .ok ⟨443, .inl rfl⟩ else if value = 8443 then .ok ⟨8443, .inr rfl⟩
    else .error (invalid "vlessPort")
  | _ => .error (invalid "vlessPort")

def assertAgentCompletePayload (input : Json) : Except HttpError AgentCompletePayload := do
  let .object _ := input | .error ⟨400, "invalid_input", "Expected an object"⟩
  let deploymentId ← stringField input "deploymentId" isDeploymentId
  let agentToken ← stringField input "agentToken" (isTokenOf 43 128)
  let singBoxVersion ← stringField input "singBoxVersion" isSingBoxVersion
  let vlessUuid ← stringField input "vlessUuid" isUuid
  let realityPublicKey ← stringField input "realityPublicKey" (isTokenOf 43 43)
  let realityShortId ← stringField input "realityShortId" (isHexOf 16)
  let hysteria2Password ← stringField input "hysteria2Password" (isTokenOf 32 128)
  let hysteria2CertSha256 ← stringField input "hysteria2CertSha256" (isHexOf 64)
  let hysteria2SpkiSha256 ← stringField input "hysteria2SpkiSha256" isSpki
  let configSha256 ← stringField input "configSha256" (isHexOf 64)
  let vlessPort ← portField input
  let dnsttPublicKey ← optionalField input "dnsttPublicKey" (isHexOf 64)
  let slipstreamSpkiSha256 ← optionalField input "slipstreamSpkiSha256" isSpki
  .ok {
    deploymentId, agentToken, singBoxVersion, vlessUuid, realityPublicKey, realityShortId, hysteria2Password,
    hysteria2CertSha256, hysteria2SpkiSha256, configSha256, vlessPort, dnsttPublicKey, slipstreamSpkiSha256 }

/-- What a payload says, as an object. -/
def AgentCompletePayload.json (payload : AgentCompletePayload) : Json :=
  .object ([
    ("deploymentId", .string payload.deploymentId.val),
    ("agentToken", .string payload.agentToken.val),
    ("singBoxVersion", .string payload.singBoxVersion.val),
    ("vlessPort", .number payload.vlessPort.val),
    ("vlessUuid", .string payload.vlessUuid.val),
    ("realityPublicKey", .string payload.realityPublicKey.val),
    ("realityShortId", .string payload.realityShortId.val),
    ("hysteria2Password", .string payload.hysteria2Password.val),
    ("hysteria2CertSha256", .string payload.hysteria2CertSha256.val),
    ("hysteria2SpkiSha256", .string payload.hysteria2SpkiSha256.val),
    ("configSha256", .string payload.configSha256.val)] ++
    (payload.dnsttPublicKey.map fun key => ("dnsttPublicKey", Json.string key.val)).toList ++
    (payload.slipstreamSpkiSha256.map fun spki => ("slipstreamSpkiSha256", Json.string spki.val)).toList)

theorem stringField_ok {body : Json} {field : String} {pattern : List Char → Bool} (text : Matching pattern)
    (found : body.field? field = some (.string text.val)) : stringField body field pattern = .ok text := by
  rw [stringField, found]
  exact dif_pos text.property

theorem optionalField_ok {body : Json} {field : String} {pattern : List Char → Bool} (text : Option (Matching pattern))
    (found : body.field? field = text.map fun text => .string text.val) : optionalField body field pattern = .ok text := by
  rw [optionalField, found]
  cases text with
  | none => rfl
  | some text =>
    rw [Option.map_some] at found
    rw [stringField_ok text found]
    rfl

/-- Every payload of this type is accepted. -/
theorem assertAgentCompletePayload_json (payload : AgentCompletePayload) :
    assertAgentCompletePayload payload.json = .ok payload := by
  have deploymentId : stringField payload.json "deploymentId" isDeploymentId = .ok payload.deploymentId :=
    stringField_ok _ rfl
  have agentToken : stringField payload.json "agentToken" (isTokenOf 43 128) = .ok payload.agentToken :=
    stringField_ok _ rfl
  have singBoxVersion : stringField payload.json "singBoxVersion" isSingBoxVersion = .ok payload.singBoxVersion :=
    stringField_ok _ rfl
  have vlessUuid : stringField payload.json "vlessUuid" isUuid = .ok payload.vlessUuid := stringField_ok _ rfl
  have realityPublicKey : stringField payload.json "realityPublicKey" (isTokenOf 43 43) = .ok payload.realityPublicKey :=
    stringField_ok _ rfl
  have realityShortId : stringField payload.json "realityShortId" (isHexOf 16) = .ok payload.realityShortId :=
    stringField_ok _ rfl
  have hysteria2Password : stringField payload.json "hysteria2Password" (isTokenOf 32 128) = .ok payload.hysteria2Password :=
    stringField_ok _ rfl
  have hysteria2CertSha256 : stringField payload.json "hysteria2CertSha256" (isHexOf 64) = .ok payload.hysteria2CertSha256 :=
    stringField_ok _ rfl
  have hysteria2SpkiSha256 : stringField payload.json "hysteria2SpkiSha256" isSpki = .ok payload.hysteria2SpkiSha256 :=
    stringField_ok _ rfl
  have configSha256 : stringField payload.json "configSha256" (isHexOf 64) = .ok payload.configSha256 :=
    stringField_ok _ rfl
  have port : portField payload.json = .ok payload.vlessPort := by
    have found : payload.json.field? "vlessPort" = some (.number payload.vlessPort.val) := rfl
    rw [portField, found]
    obtain ⟨value, valid⟩ := payload.vlessPort
    rcases valid with rfl | rfl <;> rfl
  have dnsttPublicKey : optionalField payload.json "dnsttPublicKey" (isHexOf 64) = .ok payload.dnsttPublicKey := by
    apply optionalField_ok _
    unfold AgentCompletePayload.json
    cases payload.dnsttPublicKey <;> cases payload.slipstreamSpkiSha256 <;> rfl
  have slipstreamSpkiSha256 :
      optionalField payload.json "slipstreamSpkiSha256" isSpki = .ok payload.slipstreamSpkiSha256 := by
    apply optionalField_ok _
    unfold AgentCompletePayload.json
    cases payload.dnsttPublicKey <;> cases payload.slipstreamSpkiSha256 <;> rfl
  obtain ⟨fields, object⟩ : ∃ fields, payload.json = .object fields := ⟨_, rfl⟩
  generalize payload.json = input at *
  subst object
  simp only [assertAgentCompletePayload, deploymentId, agentToken, singBoxVersion, vlessUuid, realityPublicKey,
    realityShortId, hysteria2Password, hysteria2CertSha256, hysteria2SpkiSha256, configSha256, port, dnsttPublicKey,
    slipstreamSpkiSha256, bind, Except.bind]

/-- What the merged secrets hold of a payload. -/
def AgentCompletePayload.secrets (payload : AgentCompletePayload) : SecretBundle where
  vlessPort := some payload.vlessPort.val
  vlessUuid := payload.vlessUuid.val
  realityPublicKey := payload.realityPublicKey.val
  realityShortId := payload.realityShortId.val
  hysteria2Password := payload.hysteria2Password.val
  hysteria2CertSha256 := payload.hysteria2CertSha256.val
  hysteria2SpkiSha256 := payload.hysteria2SpkiSha256.val

/-! ## What a client reads -/

structure RealityNode where
  server : String
  port : ℕ
  uuid : String
  publicKey : String
  shortId : String
  sni : String
deriving DecidableEq, Repr

structure Hysteria2Node where
  server : String
  port : ℕ
  password : String
  sni : String
deriving DecidableEq, Repr

inductive Node where
  | reality (node : RealityNode)
  | hysteria2 (node : Hysteria2Node)
deriving DecidableEq, Repr

/-- A share link. -/
def nodeOfUri (text : List Char) : Option Node := do
  let uri ← Uri.read text
  let server := uri.host
  let port ← uri.port
  let user ← uri.userinfo
  let sni ← uri.query.lookup "sni"
  if uri.scheme = "vless" then
    let publicKey ← uri.query.lookup "pbk"
    let shortId ← uri.query.lookup "sid"
    some (.reality { server, port, uuid := user, publicKey, shortId, sni })
  else if uri.scheme = "hysteria2" then some (.hysteria2 { server, port, password := user, sni })
  else none

def stringOf (json : Json) (key : String) : Option String :=
  match json.field? key with
  | some (.string text) => some text
  | _ => none

def natOf (json : Json) (key : String) : Option ℕ :=
  match json.field? key with
  | some (.number (.ofNat value)) => some value
  | _ => none

/-- The first outbound of a sing-box profile. -/
def nodeOfProfile (text : List Char) : Option Node := do
  let profile ← Json.parse text
  let .array (outbound :: _) ← profile.field? "outbounds" | none
  let type ← stringOf outbound "type"
  let server ← stringOf outbound "server"
  let port ← natOf outbound "server_port"
  let tls ← outbound.field? "tls"
  let sni ← stringOf tls "server_name"
  if type = "vless" then
    let uuid ← stringOf outbound "uuid"
    let reality ← tls.field? "reality"
    let publicKey ← stringOf reality "public_key"
    let shortId ← stringOf reality "short_id"
    some (.reality { server, port, uuid, publicKey, shortId, sni })
  else if type = "hysteria2" then
    let password ← stringOf outbound "password"
    some (.hysteria2 { server, port, password, sni })
  else none

def textOf (yaml : Yaml) (key : String) : Option String := yaml.field? key >>= Yaml.text?

/-- A proxy of a Clash file. -/
def nodeOfProxy (proxy : Yaml) : Option Node := do
  let type ← textOf proxy "type"
  let server ← textOf proxy "server"
  let port ← proxy.field? "port" >>= Yaml.nat?
  if type = "vless" then
    let uuid ← textOf proxy "uuid"
    let sni ← textOf proxy "servername"
    let reality ← proxy.field? "reality-opts"
    let publicKey ← textOf reality "public-key"
    let shortId ← textOf reality "short-id"
    some (.reality { server, port, uuid, publicKey, shortId, sni })
  else if type = "hysteria2" then
    let password ← textOf proxy "password"
    let sni ← textOf proxy "sni"
    some (.hysteria2 { server, port, password, sni })
  else none

def nodesOfClash (text : List Char) : Option (List Node) := do
  let document ← Yaml.read text
  let .seq proxies ← document.field? "proxies" | none
  proxies.mapM nodeOfProxy

section

variable (deployment : DeploymentRow) (payload : AgentCompletePayload)

def realityNode : RealityNode where
  server := deployment.node_hostname.val
  port := payload.vlessPort.val
  uuid := payload.vlessUuid.val
  publicKey := payload.realityPublicKey.val
  shortId := payload.realityShortId.val
  sni := deployment.reality_server_name.val

def hysteria2Node : Hysteria2Node where
  server := deployment.node_hostname.val
  port := 443
  password := payload.hysteria2Password.val
  sni := deployment.node_hostname.val

/-- All three forms of a bundle carry the nodes of the deployment. -/
structure Carries (bundle : DataPlaneBundle) : Prop where
  uris : bundle.uris.map (fun uri => nodeOfUri uri.toList) =
    [some (.reality (realityNode deployment payload)), some (.hysteria2 (hysteria2Node deployment payload))]
  profiles : bundle.profiles.map (fun entry => nodeOfProfile (Json.write Json.indented 0 entry.2)) =
    [some (.reality (realityNode deployment payload)), some (.hysteria2 (hysteria2Node deployment payload))]
  profileVariants : bundle.profileVariants.map (fun entry => nodeOfProfile (Json.write Json.indented 0 entry.2)) =
    [some (.reality (realityNode deployment payload)), some (.reality (realityNode deployment payload)),
      some (.hysteria2 (hysteria2Node deployment payload)), some (.hysteria2 (hysteria2Node deployment payload))]
  clash : ∃ yaml, bundle.clashYaml = some yaml ∧ nodesOfClash yaml.toList =
    some [.reality (realityNode deployment payload), .hysteria2 (hysteria2Node deployment payload)]

/-- No name and no credential looks like a number. -/
structure NoNumber : Prop where
  server : Yaml.isNumber deployment.node_hostname.val.toList = false
  sni : Yaml.isNumber deployment.reality_server_name.val.toList = false
  publicKey : Yaml.isNumber payload.realityPublicKey.val.toList = false
  shortId : Yaml.isNumber payload.realityShortId.val.toList = false
  password : Yaml.isNumber payload.hysteria2Password.val.toList = false

end

end OmniControlPlane.DataPlane.Formats
