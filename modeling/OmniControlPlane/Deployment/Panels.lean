import OmniControlPlane.Lib.Base64
import OmniControlPlane.Lib.Interleaving

/-! # Deploying a panel

`deployPanel` writes a row, creates what the panel needs, uploads its script, and patches the row with what
the patch names: the status, the path, the address and the detail, and nothing of the source. Every later
failure ends in the same `failed`, whether the script is already up or not.
-/

namespace OmniControlPlane.Deployment.Panels

open Lib

/-! ## The catalog -/

inductive PanelDbKind where
  | none | kv | d1
deriving DecidableEq, Repr

structure PanelSpec where
  key : String
  name : String
  path : String
  db : PanelDbKind
  sourceUrl : String
  kvNames : List String
  d1Names : List String
deriving DecidableEq, Repr

def PANEL_SOURCE_HOSTS : List String := ["github.com", "raw.githubusercontent.com", "cdn.jsdelivr.net"]

def PANEL_CATALOG : List PanelSpec := [
  { key := "bpb", name := "🅱️ BPB Panel (Stable Latest)", path := "/panel", db := .kv,
    sourceUrl := "https://github.com/bia-pain-bache/BPB-Worker-Panel/releases/download/v4.2.3/worker.js",
    kvNames := ["kv"], d1Names := [] },
  { key := "nahan", name := "🎩 ناهان v2.5+", path := "/sync/dash", db := .d1,
    sourceUrl := "https://raw.githubusercontent.com/itsyebekhe/nahan/main/_worker.js",
    kvNames := [], d1Names := ["IOT_DB", "DB"] },
  { key := "zeus", name := "⚡ Zeus", path := "/panel", db := .d1,
    sourceUrl := "https://raw.githubusercontent.com/panel-zeus/Z-E-U-S/main/Source.js",
    kvNames := [], d1Names := ["DB"] },
  { key := "spider", name := "🕷️ Spider", path := "/", db := .kv,
    sourceUrl := "https://raw.githubusercontent.com/amirh00sain/SpiderPanel/main/_worker.js",
    kvNames := ["SPIDER_KV"], d1Names := [] },
  { key := "nova", name := "🌌 Nova", path := "/sub", db := .kv,
    sourceUrl := "https://raw.githubusercontent.com/cmliu/edgetunnel/main/_worker.js",
    kvNames := ["KV", "kv"], d1Names := [] },
  { key := "edgetunnel", name := "🌐 EdgeTunnel", path := "/sub", db := .kv,
    sourceUrl := "https://raw.githubusercontent.com/cmliu/edgetunnel/main/_worker.js",
    kvNames := ["KV", "kv"], d1Names := [] },
  { key := "vless_core", name := "🌀 VLESS-Core", path := "/sub", db := .none,
    sourceUrl := "https://raw.githubusercontent.com/zizifn/edgetunnel/main/src/worker-vless.js",
    kvNames := [], d1Names := [] },
  { key := "omni_pro", name := "👑 OMNI PRO (اختصاصی)", path := "/", db := .kv, sourceUrl := "",
    kvNames := ["kv", "KV"], d1Names := [] }]

def findPanel (key : String) : Option PanelSpec := PANEL_CATALOG.find? (·.key = key)

/-! ## The source of a panel -/

/-- What is thrown; all of it is an `Error` for `redactError`. -/
structure Failure where
  message : String
  name : String := "Error"
deriving DecidableEq, Repr

def redactError (failure : Failure) : String := failure.name

/-- The host of an `https` address, as it stands in the catalog. -/
def hostname (url : String) : Option String :=
  if url.startsWith "https://" then some (String.ofList ((url.toList.drop 8).takeWhile (· ≠ '/'))) else none

def isAllowedPanelSourceUrl (url : String) : Option String :=
  (hostname url).filter fun host =>
    PANEL_SOURCE_HOSTS.any fun entry => host = entry || host.endsWith ("." ++ entry)

/-- The answer to a download: its status, the length of its body, and the body as text. -/
structure Download where
  status : ℕ
  byteLength : ℕ
  source : String

def PANEL_SOURCE_MAX_BYTES : ℕ := 2 * 1024 * 1024
def PANEL_SOURCE_MIN_CHARS : ℕ := 50

/-- `fetchPanelSource`: the text and the host it comes from. -/
def fetchPanelSource (url : String) (download : Option Download) : Except Failure (Download × String) :=
  match isAllowedPanelSourceUrl url with
  | none => .error ⟨"آدرس سورس پنل مجاز نیست. فقط https و فقط از: " ++ ", ".intercalate PANEL_SOURCE_HOSTS, "Error"⟩
  | some host =>
    match download with
    | none => .error ⟨"دانلود سورس پنل انجام نشد (خطای شبکه).", "Error"⟩
    | some download =>
      if download.status < 200 ∨ 300 ≤ download.status then
        .error ⟨s!"سورس پنل با کد {download.status} برگشت.", "Error"⟩
      else if PANEL_SOURCE_MAX_BYTES < download.byteLength then
        .error ⟨"سورس پنل از حد مجاز ۲ مگابایت بزرگ‌تر است.", "Error"⟩
      else if (utf16 download.source).length < PANEL_SOURCE_MIN_CHARS then
        .error ⟨"سورس پنل خالی یا خیلی کوتاه است.", "Error"⟩
      else .ok (download, host)

/-- What `replace` puts in for a match: `$$`, `$&`, and the text before and after the match. -/
def expand (before matched after : List Char) : List Char → List Char
  | [] => []
  | [char] => [char]
  | char :: code :: rest =>
    if char ≠ '$' then char :: expand before matched after (code :: rest)
    else if code = '$' then '$' :: expand before matched after rest
    else if code = '&' then matched ++ expand before matched after rest
    else if code.toNat = 96 then before ++ expand before matched after rest
    else if code.toNat = 39 then after ++ expand before matched after rest
    else char :: expand before matched after (code :: rest)

/-- `replace` with a global pattern, which matches so many characters of a text. -/
def replaceAll (pattern : List Char → ℕ) (template before : List Char) : ℕ → List Char → List Char
  | _, [] => []
  | skip + 1, char :: rest => replaceAll pattern template (before ++ [char]) skip rest
  | 0, char :: rest =>
    match pattern (char :: rest) with
    | 0 => char :: replaceAll pattern template (before ++ [char]) 0 rest
    | length + 1 =>
      expand before ((char :: rest).take (length + 1)) (rest.drop length) template ++
        replaceAll pattern template (before ++ [char]) length rest

def replace (pattern : List Char → ℕ) (template text : String) : String :=
  String.ofList (replaceAll pattern template.toList [] 0 text.toList)

/-- A literal pattern -/
def literal (word text : List Char) : ℕ := if word.isPrefixOf text then word.length else 0

/-- `/masterKey:\s*"admin"/` -/
def masterKey (text : List Char) : ℕ :=
  let word := "masterKey:".toList
  let value := "\"admin\"".toList
  if word.isPrefixOf text then
    let rest := text.drop word.length
    let spaces := (rest.takeWhile isJsSpace).length
    if value.isPrefixOf (rest.drop spaces) then word.length + spaces + value.length else 0
  else 0

/-- `transformPanelSource`: the rewritten source and the note on it. -/
def transformPanelSource (panelKey source password domain : String) : String × String :=
  if panelKey = "nahan" then
    let next := replace masterKey ("masterKey: \"" ++ password ++ "\"") source
    (next, if next = source then "masterKey در سورس پیدا نشد؛ همان پیش‌فرض می‌ماند" else "masterKey با رمز شما جایگزین شد")
  else if panelKey = "spider" then
    let tokens := replace (literal "__PANEL_TOKEN__".toList) (String.ofList (jsonString password)) source
    (replace (literal "__PANEL_DOMAIN__".toList) (String.ofList (jsonString domain)) tokens,
      "توکن و دامنهٔ پنل در سورس جای‌گذاری شد")
  else if panelKey = "bpb" then (source, "رمز پنل از طریق KV (کلید pwd) ست می‌شود، نه با دست‌کاری سورس")
  else (source, "سورس بدون تغییر منتقل شد")

/-- A digest of SHA-256. -/
structure Digest where
  bytes : List UInt8
  length_eq : bytes.length = 32

def Digest.text (digest : Digest) : String := String.ofList (base64Url digest.bytes)

structure ResolvedSource where
  source : String
  sha256 : String
  host : String
  note : String
  uuid : String
  subKey : String
deriving DecidableEq, Repr

/-- What the platform gives: the digest, the program of the repository, and the texts drawn at random. -/
structure Platform where
  sha256 : String → Digest
  dataPlaneSource : String
  id : String
  uuid : String
  subKey : String
  suffix : String

structure PanelDeployInput where
  panelKey : String
  workerName : String
  password : String

def resolvePanelSource (platform : Platform) (panel : PanelSpec) (input : PanelDeployInput)
    (download : Option Download) : Except Failure ResolvedSource :=
  if panel.sourceUrl = "" then
    .ok { source := platform.dataPlaneSource, sha256 := (platform.sha256 platform.dataPlaneSource).text, host := "repo",
          note := "سورس از ریپو برداشته شد", uuid := platform.uuid, subKey := platform.subKey }
  else
    (fetchPanelSource panel.sourceUrl download).map fun (download, host) =>
      let (source, note) := transformPanelSource panel.key download.source input.password host
      { source, sha256 := (platform.sha256 source).text, host, note := s!"{note} · {download.byteLength} بایت",
        uuid := platform.uuid, subKey := platform.subKey }

def panelFinalPath (panel : PanelSpec) (uuid subKey : String) : String :=
  if panel.key = "nova" ∨ panel.key = "edgetunnel" then "/" ++ subKey
  else if panel.key = "vless_core" then "/" ++ uuid
  else panel.path

/-! ## The calls of a run -/

structure Connection where
  id : String
  resourceAccountId : Option String

structure Binding where
  type : String
  name : String
  value : String
deriving DecidableEq, Repr

/-- What the upload comes to: whether Cloudflare keeps the script, and the answer, with the `success` and the
first error of its body where it has them. -/
structure Upload where
  stored : Bool
  response : Option (Bool × Option Bool × Option String)

/-- What every remote call and every statement of a run comes to; `none` where it throws. A statement that
writes the row may be carried out and its answer lost. -/
structure Calls where
  connection : Option Connection
  token : Option String
  account : Option (Option String)
  subdomain : Option (Option String)
  newSubdomain : Option (Option String)
  insert : Delivery
  newNamespace : Option (Option String)
  namespaces : Option (Option String)
  newDatabase : Option (Option String)
  databases : Option (Option String)
  download : Option Download
  upload : Upload
  settings : Option (List Binding)
  repair : Bool
  probe : ℕ → Option ℕ
  update : Delivery
  audit : Bool
  read : Bool
  updateFailed : Delivery
  auditFailed : Bool

/-- `pickConnection` to `accountId` -/
def pickAccount (calls : Calls) : Except Failure (Connection × String × String) :=
  match calls.connection, calls.token with
  | some connection, some token =>
    match connection.resourceAccountId.or (calls.account.getD none) with
    | some accountId =>
      if accountId = "" then .error ⟨"حساب Cloudflare این اتصال مشخص نیست؛ از «🔌 اتصال Cloudflare» دوباره وصل کنید.", "Error"⟩
      else .ok (connection, token, accountId)
    | none => .error ⟨"حساب Cloudflare این اتصال مشخص نیست؛ از «🔌 اتصال Cloudflare» دوباره وصل کنید.", "Error"⟩
  | _, _ => .error ⟨"اتصال Cloudflare ندارید. اول «🔌 اتصال Cloudflare» را کامل کنید.", "Error"⟩

def isNameChar (char : Char) : Bool := char.isLower || char.isDigit

/-- `/^[a-z0-9][a-z0-9-]{1,62}[a-z0-9]$/u` -/
def isWorkerName (name : List Char) : Bool :=
  3 ≤ name.length && name.length ≤ 64 && name.all (fun char => isNameChar char || char = '-') &&
    name.head?.any isNameChar && name.getLast?.any isNameChar

/-- `workerName-suffix`, made a name that Cloudflare accepts. -/
def wantedSubdomain (workerName suffix : String) : String :=
  String.ofList (((workerName ++ "-" ++ suffix).toList.map fun char =>
    if isNameChar char.toLower || char = '-' then char.toLower else '-').take 32)

def ensureWorkersSubdomain (platform : Platform) (calls : Calls) (workerName : String) : String :=
  let created := match calls.newSubdomain with
    | some subdomain => subdomain.getD (wantedSubdomain workerName platform.suffix)
    | none => ""
  match calls.subdomain with
  | some (some subdomain) => if subdomain = "" then created else subdomain
  | _ => created

/-- A resource that is created, or else looked for by its name. -/
def ensure (created found : Option (Option String)) : Option String :=
  match created.getD none with
  | some id => if id = "" then found.getD none else some id
  | none => found.getD none

/-- An identifier that is there. -/
def truthy (id : Option String) : Bool := id.getD "" ≠ ""

def panelBindings (platform : Platform) (panel : PanelSpec) (input : PanelDeployInput) (accountId token : String)
    (kvId d1Id : Option String) : List Binding :=
  let namespaces := if truthy kvId then panel.kvNames.map fun name => ⟨"kv_namespace", name, kvId.getD ""⟩ else []
  let databases := if truthy d1Id then panel.d1Names.map fun name => ⟨"d1", name, d1Id.getD ""⟩ else []
  let vars :=
    if panel.key = "bpb" then [("UUID", platform.uuid), ("TR_PASS", platform.subKey)]
    else if panel.key = "nova" ∨ panel.key = "edgetunnel" then
      [("UUID", platform.uuid), ("PASSWORD", input.password), ("KEY", platform.subKey), ("PROXYIP", "cdn-all.xn--b6gac.eu.org")]
    else if panel.key = "vless_core" then [("UUID", platform.uuid), ("PROXYIP", "cdn-all.xn--b6gac.eu.org")]
    else if panel.key = "omni_pro" then [("PASSWORD", input.password), ("PANEL_NAME", panel.name)]
    else if panel.key = "zeus" then [("CF_ACCOUNT_ID", accountId), ("WORKER_NAME", panel.key)]
    else []
  namespaces ++ databases ++ vars.map (fun (name, text) => ⟨"plain_text", name, text⟩) ++
    if panel.key = "zeus" then [⟨"secret_text", "CF_API_TOKEN", token⟩] else []

/-! ## The row and the script -/

inductive PanelDeployStatus where
  | provisioning | live | verifying | failed
deriving DecidableEq, Repr

structure PanelDeploymentRow where
  id : String
  connectionId : String
  accountId : String
  workerName : String
  workerDomain : String
  panelKey : String
  panelName : String
  panelPath : String
  panelUrl : String
  sourceHost : String
  sourceSha256 : String
  status : PanelDeployStatus
  detail : String
deriving DecidableEq, Repr

/-- A script that Cloudflare keeps, with the host its source is from. -/
structure Script where
  source : String
  host : String
  bindings : List Binding
deriving DecidableEq, Repr

/-- The row of the run and the script that the run has left under its name. -/
structure World where
  row : Option PanelDeploymentRow := none
  script : Option Script := none
deriving DecidableEq, Repr

/-- What a statement leaves of two worlds. -/
def leaves (delivery : Delivery) (before after : World) : World := if delivery = .refused then before else after

def World.keep (world : World) (upload : Upload) (script : Script) : World :=
  if upload.stored then { world with script := some script } else world

/-- `updatePanelDeployment`, which sets what the patch has. -/
def World.update (world : World) (status : PanelDeployStatus) (detail : String) (panelPath panelUrl : Option String) : World :=
  { world with row := world.row.map fun row =>
      { row with panelPath := panelPath.getD row.panelPath, panelUrl := panelUrl.getD row.panelUrl, status, detail } }

/-- A row and what its script needs, before anything is uploaded. -/
structure Prepared where
  bundle : ResolvedSource
  kvId : Option String
  bindings : List Binding

/-- The steps before the upload. A password that cannot be seeded stops nothing. -/
def prepare (platform : Platform) (panel : PanelSpec) (input : PanelDeployInput) (calls : Calls)
    (accountId token : String) : Except Failure Prepared :=
  let kvId := if panel.db = .kv then ensure calls.newNamespace calls.namespaces else none
  let d1Id := if panel.db = .d1 then ensure calls.newDatabase calls.databases else none
  if panel.db = .kv ∧ truthy kvId = false then
    .error ⟨"ساخت فضای KV نشد. توکن باید دسترسی «Account → Workers KV Storage → Edit» روی All accounts داشته باشد.", "Error"⟩
  else if panel.db = .d1 ∧ truthy d1Id = false then
    .error ⟨"ساخت D1 نشد؛ توکن باید دسترسی D1 → Edit داشته باشد.", "Error"⟩
  else
    (resolvePanelSource platform panel input calls.download).map fun bundle =>
      { bundle, kvId, bindings := panelBindings platform panel input accountId token kvId d1Id }

/-- `uploadPanelScript`: what its answer says. -/
def uploadPanelScript (upload : Upload) : Except Failure Unit :=
  match upload.response with
  | none => .error ⟨"fetch failed", "TypeError"⟩
  | some (ok, success, message) =>
    if ok = false then .error ⟨"آپلود ورکر پنل ناموفق بود.", "Error"⟩
    else if success = some false then
      .error ⟨(message.filter (· ≠ "")).elim "آپلود ورکر پنل ناموفق بود." ("کلادفلر: " ++ ·), "Error"⟩
    else .ok ()

/-- `repairKvBindings`: the bindings after it. -/
def repairKvBindings (panel : PanelSpec) (calls : Calls) (kvId : String) (bindings : List Binding) : List Binding :=
  match calls.settings with
  | none => bindings
  | some current =>
    let missing := panel.kvNames.filter fun name => !current.any fun b => b.type = "kv_namespace" && b.name = name
    let keep := current.filter fun b => !(b.type = "kv_namespace" && panel.kvNames.contains b.name)
    if missing = [] ∨ calls.repair = false then bindings
    else keep ++ missing.map fun name => ⟨"kv_namespace", name, kvId⟩

def PANEL_PROBE_ATTEMPTS : ℕ := 3

/-- `probePanel`, over the answers of its attempts. -/
def probePanel : List (Option ℕ) → Option ℕ → Bool × Option ℕ
  | [], lastStatus => (false, lastStatus)
  | some status :: rest, _ =>
    if 200 ≤ status ∧ status < 300 ∨ status = 302 then (true, some status) else probePanel rest (some status)
  | none :: rest, _ => probePanel rest none

/-- The status and the detail of a panel that is up. -/
def verdict (probe : Option (Bool × Option ℕ)) (note : String) : PanelDeployStatus × String :=
  match probe with
  | none => (.verifying, note)
  | some (true, status) => (.live, s!"تست لینک: سالم ({status.getD 0}). {note}")
  | some (false, status) =>
    let answer := match status with
      | none => "جوابی نگرفتم"
      | some code => s!"کد {code}"
    (.verifying, s!"تست لینک: {answer} — تازه دیپلوی شده، چند ثانیه دیگر دوباره باز کنید. {note}")

/-- The `try` block from the upload on. -/
def publish (panel : PanelSpec) (probes : Bool) (calls : Calls) (domain : String) (prepared : Prepared)
    (world : World) : World × Except Failure PanelDeploymentRow :=
  let { bundle, kvId, bindings } := prepared
  let script : Script := { source := bundle.source, host := bundle.host, bindings }
  let world := world.keep calls.upload script
  match uploadPanelScript calls.upload with
  | .error error => (world, .error error)
  | .ok _ =>
    let repaired := if truthy kvId then repairKvBindings panel calls (kvId.getD "") bindings else bindings
    let world := { world with script := world.script.map fun script => { script with bindings := repaired } }
    let finalPath := panelFinalPath panel bundle.uuid bundle.subKey
    let probe := if probes then some (probePanel ((List.range PANEL_PROBE_ATTEMPTS).map calls.probe) none) else none
    let (status, detail) := verdict probe bundle.note
    let world := leaves calls.update world
      (world.update status detail (some finalPath) (some ("https://" ++ domain ++ finalPath)))
    if calls.update ≠ .answered ∨ calls.audit = false ∨ calls.read = false then (world, .error ⟨"D1_ERROR", "Error"⟩)
    else
      match world.row with
      | none => (world, .error ⟨"رکورد استقرار نوشته شد اما خوانده نشد.", "Error"⟩)
      | some row => (world, .ok row)

/-- The `catch` block -/
def recover (calls : Calls) (world : World) (error : Failure) : World × Except Failure PanelDeploymentRow :=
  let detail := redactError error
  let world := leaves calls.updateFailed world (world.update .failed detail none none)
  if calls.updateFailed ≠ .answered ∨ calls.auditFailed = false then (world, .error ⟨"D1_ERROR", "Error"⟩)
  else (world, .error ⟨detail, "Error"⟩)

/-- What a run has found out when it writes its row. -/
structure Target where
  panel : PanelSpec
  token : String
  row : PanelDeploymentRow

/-- The steps before the row is written. -/
def target (platform : Platform) (input : PanelDeployInput) (calls : Calls) : Except Failure Target :=
  match findPanel input.panelKey with
  | none => .error ⟨"چنین پنلی در کاتالوگ نداریم.", "Error"⟩
  | some panel =>
    match pickAccount calls with
    | .error error => .error error
    | .ok (connection, token, accountId) =>
      if isWorkerName input.workerName.toList = false then
        .error ⟨"نام Worker فقط حرف کوچک انگلیسی، عدد و خط‌تیره؛ حداقل ۳ نویسه.", "Error"⟩
      else
        let subdomain := ensureWorkersSubdomain platform calls input.workerName
        if subdomain = "" then
          .error ⟨"ساب‌دامینهٔ Workers در این حساب فعال نیست. یک بار در dash.cloudflare.com نام آن را تأیید کنید و دوباره تلاش کنید.", "Error"⟩
        else
          let workerDomain := s!"{input.workerName}.{subdomain}.workers.dev"
          .ok { panel, token, row :=
            { id := platform.id, connectionId := connection.id, accountId, workerName := input.workerName, workerDomain,
              panelKey := panel.key, panelName := panel.name, panelPath := panel.path,
              panelUrl := "https://" ++ workerDomain ++ panel.path, sourceHost := "", sourceSha256 := "",
              status := .provisioning, detail := "در حال ساخت منابع و آپلود ورکر…" } }

def deployPanel (platform : Platform) (input : PanelDeployInput) (probes : Bool) (calls : Calls) :
    World × Except Failure PanelDeploymentRow :=
  match target platform input calls with
  | .error error => ({}, .error error)
  | .ok { panel, token, row } =>
    let world := leaves calls.insert {} { row := some row }
    if calls.insert ≠ .answered then (world, .error ⟨"D1_ERROR", "Error"⟩)
    else
      match prepare platform panel input calls row.accountId token with
      | .error error => recover calls world error
      | .ok prepared =>
        match publish panel probes calls row.workerDomain prepared world with
        | (world, .ok row) => (world, .ok row)
        | (world, .error error) => recover calls world error

/-- `deletePanelDeployment`, where its statements are carried out. -/
def deletePanelDeployment (world : World) (id : String) : World × Option String :=
  match world.row.filter (·.id = id) with
  | none => (world, some "not-found")
  | some row =>
    if row.status ≠ .failed then (world, some "deletable-only-failed") else ({ world with row := none }, none)

/-! ## What the row says -/

/-- A row that says the panel is up has the digest and the host of the script, and a row that can be deleted
is above no script. -/
def World.Truthful (platform : Platform) (world : World) : Prop :=
  ∀ row, world.row = some row →
    (row.status = .live ∨ row.status = .verifying →
      ∃ script, world.script = some script ∧ row.sourceSha256 = (platform.sha256 script.source).text ∧
        row.sourceHost = script.host) ∧
    (row.status = .failed → world.script = none)

/-- The run comes to its upload. -/
def Uploads (platform : Platform) (input : PanelDeployInput) (calls : Calls) : Prop :=
  ∃ found prepared, target platform input calls = .ok found ∧ calls.insert = .answered ∧
    prepare platform found.panel input calls found.row.accountId found.token = .ok prepared

/-- The run stops before its upload. Else, where a script is kept: the upload fails or the patch is not written,
and neither is the status `failed`. Where none is kept: the upload fails or the patch is not written, or its
answer or a later step fails and the status `failed` is written. -/
def Calls.Keeps (platform : Platform) (input : PanelDeployInput) (calls : Calls) : Prop :=
  Uploads platform input calls →
    if calls.upload.stored then
      (uploadPanelScript calls.upload ≠ .ok () ∨ calls.update = .refused) ∧ calls.updateFailed = .refused
    else
      uploadPanelScript calls.upload ≠ .ok () ∨ calls.update = .refused ∨
        (calls.update = .lost ∨ calls.audit = false ∨ calls.read = false) ∧ calls.updateFailed ≠ .refused

section

variable {platform : Platform} {panel : PanelSpec} {input : PanelDeployInput} {probes : Bool} {calls : Calls}
  {domain : String} {prepared : Prepared} {world : World} {row : PanelDeploymentRow} {error : Failure}

/-- Only a `failed` row can be deleted. -/
theorem deletePanelDeployment_iff (there : world.row = some row) :
    (deletePanelDeployment world row.id).2 = none ↔ row.status = .failed := by
  unfold deletePanelDeployment
  rw [there, Option.filter_some, if_pos (by simp)]
  by_cases failed : row.status = .failed
  · simp [failed]
  · simp [failed]

/-- Where the row tells the truth and can be deleted, there is no script that it was for. -/
theorem World.Truthful.of_deletable (truthful : world.Truthful platform) (there : world.row = some row)
    (deletable : (deletePanelDeployment world row.id).2 = none) : world.script = none :=
  (truthful row there).2 ((deletePanelDeployment_iff there).mp deletable)

theorem Digest.text_ne_empty (digest : Digest) : digest.text ≠ "" := by
  have nonempty : digest.bytes ≠ [] := by
    intro none
    have length := digest.length_eq
    rw [none] at length
    exact absurd length (by decide)
  intro empty
  apply base64Url_ne_nil nonempty
  simpa [Digest.text] using congrArg String.toList empty

/-- The status of a panel that is up. -/
theorem verdict_status (probe : Option (Bool × Option ℕ)) (note : String) :
    (verdict probe note).1 = .live ∨ (verdict probe note).1 = .verifying := by
  unfold verdict
  split
  · exact .inr rfl
  · exact .inl rfl
  · exact .inr rfl

theorem World.keep_row (upload : Upload) (script : Script) : (world.keep upload script).row = world.row := by
  unfold keep
  split_ifs <;> rfl

theorem World.keep_script (bare : world.script = none) (upload : Upload) (script : Script) :
    (world.keep upload script).script = none ↔ upload.stored = false := by
  unfold keep
  split_ifs with stored
  · simp [stored]
  · simp [bare, stored]

/-- Up to the patch the row is as it was, and only a script that is kept is there. -/
theorem publish_of_failure (panel : PanelSpec) (probes : Bool) (domain : String) (prepared : Prepared)
    (bare : world.script = none)
    (fails : uploadPanelScript calls.upload ≠ .ok () ∨ calls.update = .refused) :
    ∃ after error, publish panel probes calls domain prepared world = (after, .error error) ∧ after.row = world.row ∧
      (after.script = none ↔ calls.upload.stored = false) := by
  rcases published : publish panel probes calls domain prepared world with ⟨after, result⟩
  rcases answered : uploadPanelScript calls.upload with error | done
  · simp only [publish, answered] at published
    obtain ⟨rfl, rfl⟩ := Prod.mk.inj published
    exact ⟨_, _, rfl, World.keep_row _ _, World.keep_script bare _ _⟩
  · have unpatched : calls.update = .refused := fails.resolve_left fun wrong => wrong answered
    simp only [publish, answered, unpatched, leaves, ↓reduceIte] at published
    rw [if_pos (.inl (by decide))] at published
    obtain ⟨rfl, rfl⟩ := Prod.mk.inj published
    refine ⟨_, _, rfl, World.keep_row _ _, ?_⟩
    rw [Option.map_eq_none_iff]
    exact World.keep_script bare _ _

/-- From the patch on the row says that the panel is up, and has the digest it had. -/
theorem publish_of_patch (panel : PanelSpec) (probes : Bool) (domain : String) (prepared : Prepared)
    (bare : world.script = none) (there : world.row = some row)
    (uploaded : uploadPanelScript calls.upload = .ok ()) (patched : calls.update ≠ .refused) :
    ∃ after shown result, publish panel probes calls domain prepared world = (after, result) ∧
      after.row = some shown ∧ (shown.status = .live ∨ shown.status = .verifying) ∧
      shown.sourceSha256 = row.sourceSha256 ∧ (after.script = none ↔ calls.upload.stored = false) ∧
      ((∃ error, result = .error error) ↔ calls.update ≠ .answered ∨ calls.audit = false ∨ calls.read = false) := by
  rcases published : publish panel probes calls domain prepared world with ⟨after, result⟩
  simp only [publish, uploaded, leaves, if_neg patched, World.update, World.keep_row, there, Option.map_some] at published
  have script (bindings : List Binding) :
      Option.map (fun script => { script with bindings }) (world.keep calls.upload
        { source := prepared.bundle.source, host := prepared.bundle.host, bindings := prepared.bindings }).script = none ↔
        calls.upload.stored = false := by
    rw [Option.map_eq_none_iff]
    exact World.keep_script bare _ _
  by_cases failed : calls.update ≠ .answered ∨ calls.audit = false ∨ calls.read = false
  · rw [if_pos failed] at published
    obtain ⟨rfl, rfl⟩ := Prod.mk.inj published
    exact ⟨_, _, _, rfl, rfl, verdict_status _ _, rfl, script _, iff_of_true ⟨_, rfl⟩ failed⟩
  · rw [if_neg failed] at published
    obtain ⟨rfl, rfl⟩ := Prod.mk.inj published
    exact ⟨_, _, _, rfl, rfl, verdict_status _ _, rfl, script _, iff_of_false (by simp) failed⟩

/-! ## The end of a run -/

/-- A row that is neither shown as up nor as failed says nothing. -/
theorem World.Truthful.of_provisioning (there : world.row = some row) (status : row.status = .provisioning) :
    world.Truthful platform := by
  intro other found
  obtain rfl : row = other := Option.some.inj (there.symm.trans found)
  simp [status]

/-- A row without a digest cannot say that a panel is up. -/
theorem World.not_truthful_of_shown (there : world.row = some row) (shown : row.status = .live ∨ row.status = .verifying)
    (empty : row.sourceSha256 = "") : ¬ world.Truthful platform := by
  intro truthful
  obtain ⟨script, -, digest, -⟩ := (truthful row there).1 shown
  exact Digest.text_ne_empty _ (digest.symm.trans empty)

theorem World.truthful_update_failed_iff (there : world.row = some row) (detail : String) (path url : Option String) :
    (world.update .failed detail path url).Truthful platform ↔ world.script = none := by
  simp [Truthful, update, there]

theorem recover_world (calls : Calls) (world : World) (error : Failure) :
    (recover calls world error).1 =
      leaves calls.updateFailed world (world.update .failed (redactError error) none none) := by
  unfold recover
  dsimp only
  split_ifs <;> rfl

/-- What a target has written in its row. -/
theorem target_row {found : Target} (ok : target platform input calls = .ok found) :
    found.row.status = .provisioning ∧ found.row.sourceSha256 = "" := by
  unfold target at ok
  split at ok
  · simp at ok
  · split at ok
    · simp at ok
    · dsimp only at ok
      split_ifs at ok with invalid absent
      obtain rfl := Except.ok.inj ok
      exact ⟨rfl, rfl⟩

/-- The end of the `catch` block, over a row that was not patched. -/
theorem truthful_recover_iff (there : world.row = some row) (status : row.status = .provisioning) :
    (recover calls world error).1.Truthful platform ↔ world.script = none ∨ calls.updateFailed = .refused := by
  rw [recover_world, leaves]
  split_ifs with unwritten
  · exact iff_of_true (.of_provisioning there status) (.inr unwritten)
  · rw [World.truthful_update_failed_iff there]
    simp [unwritten]

theorem truthful_deployPanel_of_failure {found : Target} (aim : target platform input calls = .ok found)
    (inserted : calls.insert = .answered)
    (prepares : prepare platform found.panel input calls found.row.accountId found.token = .ok prepared)
    (fails : uploadPanelScript calls.upload ≠ .ok () ∨ calls.update = .refused) :
    (deployPanel platform input probes calls).1.Truthful platform ↔
      calls.upload.stored = false ∨ calls.updateFailed = .refused := by
  obtain ⟨status, -⟩ := target_row aim
  obtain ⟨after, error, published, same, script⟩ := publish_of_failure found.panel probes found.row.workerDomain
    prepared (rfl : (⟨some found.row, none⟩ : World).script = none) fails
  have ended : (deployPanel platform input probes calls).1 = (recover calls after error).1 := by
    simp only [deployPanel, aim, inserted, leaves, ne_eq, not_true_eq_false, reduceCtorEq, ↓reduceIte, prepares, published]
  rw [ended, truthful_recover_iff same status, script]

theorem truthful_deployPanel_of_patch {found : Target} (aim : target platform input calls = .ok found)
    (inserted : calls.insert = .answered)
    (prepares : prepare platform found.panel input calls found.row.accountId found.token = .ok prepared)
    (uploaded : uploadPanelScript calls.upload = .ok ()) (patched : calls.update ≠ .refused) :
    (deployPanel platform input probes calls).1.Truthful platform ↔
      (calls.update ≠ .answered ∨ calls.audit = false ∨ calls.read = false) ∧ calls.updateFailed ≠ .refused ∧
        calls.upload.stored = false := by
  obtain ⟨-, empty⟩ := target_row aim
  obtain ⟨after, shown, result, published, there, status, digest, script, failed⟩ :=
    publish_of_patch found.panel probes found.row.workerDomain prepared
      (rfl : (⟨some found.row, none⟩ : World).script = none) rfl uploaded patched
  have hidden : ¬ after.Truthful platform := World.not_truthful_of_shown there status (digest.trans empty)
  rw [← failed]
  cases result with
  | ok row =>
    have ended : (deployPanel platform input probes calls).1 = after := by
      simp only [deployPanel, aim, inserted, leaves, ne_eq, not_true_eq_false, reduceCtorEq, ↓reduceIte, prepares, published]
    rw [ended]
    exact iff_of_false hidden (by simp)
  | error error =>
    have ended : (deployPanel platform input probes calls).1 = (recover calls after error).1 := by
      simp only [deployPanel, aim, inserted, leaves, ne_eq, not_true_eq_false, reduceCtorEq, ↓reduceIte, prepares, published]
    rw [ended, recover_world, leaves]
    split_ifs with unwritten
    · exact iff_of_false hidden fun all => all.2.1 unwritten
    · rw [World.truthful_update_failed_iff there, script]
      simp [unwritten]

/-- A run that does not come to its upload leaves no script and no row that is up. -/
theorem truthful_deployPanel_of_not_uploads (stops : ¬ Uploads platform input calls) :
    (deployPanel platform input probes calls).1.Truthful platform := by
  have nothing : ({} : World).Truthful platform := nofun
  unfold deployPanel
  split
  · exact nothing
  · rename_i panel token row aim
    have fresh : ({ row := some row } : World).Truthful platform := .of_provisioning rfl (target_row aim).1
    dsimp only
    split_ifs with unanswered
    · unfold leaves
      split_ifs
      · exact nothing
      · exact fresh
    · have inserted := not_not.mp unanswered
      rw [inserted, leaves, if_neg (by decide)]
      split
      · rename_i error prepares
        have there : ({ row := some row } : World).row = some row := rfl
        exact (truthful_recover_iff there (target_row aim).1).mpr (.inl rfl)
      · rename_i prepared prepares
        exact absurd ⟨_, _, aim, inserted, prepares⟩ stops

end

/-- A run of `deployPanel` ends with a row that tells the truth just where it keeps to its condition. -/
theorem row_truthful_iff (platform : Platform) (input : PanelDeployInput) (probes : Bool) (calls : Calls) :
    (deployPanel platform input probes calls).1.Truthful platform ↔ calls.Keeps platform input := by
  by_cases uploads : Uploads platform input calls
  · have taken := uploads
    obtain ⟨found, prepared, aim, inserted, prepares⟩ := uploads
    unfold Calls.Keeps
    rw [imp_iff_right taken]
    by_cases fails : uploadPanelScript calls.upload ≠ .ok () ∨ calls.update = .refused
    · rw [truthful_deployPanel_of_failure aim inserted prepares fails]
      split_ifs with stored
      · simp [stored, fails]
      · apply iff_of_true (.inl (by simpa using stored))
        exact fails.imp id .inl
    · obtain ⟨uploaded, patched⟩ := not_or.mp fails
      rw [truthful_deployPanel_of_patch aim inserted prepares (not_not.mp uploaded) patched]
      have lost : calls.update ≠ .answered ↔ calls.update = .lost := by
        cases delivered : calls.update with
        | refused => exact absurd delivered patched
        | answered | lost => simp
      split_ifs with stored
      · simp [stored, fails]
      · have bare : calls.upload.stored = false := by simpa using stored
        simp [bare, uploaded, patched, lost]
  · exact iff_of_true (truthful_deployPanel_of_not_uploads uploads) fun reached => absurd reached uploads

/-- A run in which nothing fails ends in a row without a digest; one whose audit fails, in a `failed` row
above a script that is up. -/
theorem shown_without_digest :
    let platform : Platform :=
      { sha256 := fun _ => ⟨List.replicate 32 0, by decide⟩, dataPlaneSource := "export default {}", id := "1",
        uuid := "2", subKey := "3", suffix := "4" }
    let input : PanelDeployInput := { panelKey := "omni_pro", workerName := "panel", password := "secret" }
    let calls : Calls :=
      { connection := some ⟨"5", some "6"⟩, token := some "7", account := some none, subdomain := some (some "tenant"),
        newSubdomain := none, insert := .answered, newNamespace := some (some "8"), namespaces := none,
        newDatabase := none, databases := none, download := none, upload := ⟨true, some (true, some true, none)⟩,
        settings := none, repair := true, probe := fun _ => some 200, update := .answered, audit := true, read := true,
        updateFailed := .answered, auditFailed := true }
    let run := (deployPanel platform input true calls).1
    let failed := (deployPanel platform input true { calls with audit := false }).1
    run.row.map (fun row => (row.status, row.sourceSha256)) = some (.live, "") ∧ ¬ run.Truthful platform ∧
    failed.row.map (·.status) = some .failed ∧ failed.script.map (·.source) = some "export default {}" ∧
    ¬ failed.Truthful platform := by
  intro platform input calls run failed
  have live : run.row.map (fun row => (row.status, row.sourceSha256)) = some (.live, "") := by decide +kernel
  have dead : failed.row.map (·.status) = some .failed := by decide +kernel
  have up : failed.script.map (·.source) = some "export default {}" := by decide +kernel
  refine ⟨live, ?_, dead, up, ?_⟩
  · obtain ⟨row, there, eq⟩ := Option.map_eq_some_iff.mp live
    obtain ⟨status, empty⟩ := Prod.mk.inj eq
    exact World.not_truthful_of_shown there (.inl status) empty
  · obtain ⟨row, there, status⟩ := Option.map_eq_some_iff.mp dead
    intro truthful
    rw [(truthful row there).2 status] at up
    exact absurd up (by decide)

end OmniControlPlane.Deployment.Panels
