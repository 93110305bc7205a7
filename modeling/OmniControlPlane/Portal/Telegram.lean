import OmniControlPlane.Lib.Task
import OmniControlPlane.Lib.Text
import OmniControlPlane.Portal.Http

/-! # What the bot does with an update

`handleMessageUpdate` and `handleCallbackUpdate`, as the calls that they await, one after the other. A
call is a function of the control plane that asks the database, Telegram or another worker, and may
fail; none of them touches `telegram_updates`. What a conversation does with a text, and what a button
does, stands inside a `try` as a whole, and is a parameter whose calls are named by their functions.
-/

namespace OmniControlPlane.Portal

open Lib Task

namespace Telegram

structure TelegramFrom where
  id : ℤ
  is_bot : Bool := false
  first_name : String
  last_name : Option String := none
  username : Option String := none
  language_code : Option String := none
deriving DecidableEq, Repr

structure TelegramChat where
  id : ℤ
  type : String
deriving DecidableEq, Repr

structure TelegramMessage where
  message_id : ℕ
  chat : TelegramChat
  from_ : Option TelegramFrom
  text : Option String := none
  date : Option ℤ
deriving DecidableEq, Repr

structure TelegramCallbackQuery where
  id : String
  from_ : TelegramFrom
  chat : Option TelegramChat
  message_id : Option ℕ
  data : Option String := none
deriving DecidableEq, Repr

structure TelegramUpdate where
  update_id : ℤ
  message : Option TelegramMessage := none
  callback_query : Option TelegramCallbackQuery := none
deriving DecidableEq, Repr

structure Tenant where
  id : String
  displayName : String
deriving DecidableEq, Repr

structure PanelFlow where
  flow : String
  step : String
  data : List (String × String) := []
deriving DecidableEq, Repr

structure ActiveWizard where
  step : String
  state_json : String
deriving DecidableEq, Repr

/-- The functions that read what a card shows. -/
inductive View where
  | loginLink (telegramUserId : String) | status | cleanIp (operator city : String) | map | whiteHole
  | health (telegramUserId : String) | usage (telegramUserId : String) | deps (displayName telegramUserId : String)
  | conns (displayName telegramUserId : String) | connectPrompt (telegramUserId note : String) | radarCheck
deriving DecidableEq, Repr

inductive Call where
  | rateLimit (key : String) (limit windowSeconds : ℕ)
  | ensureTenant (user : TelegramFrom)
  | fetch (update : TelegramUpdate)
  | answerCallback (queryId text : String)
  | clearWizard (telegramUserId : String)
  | loadWizard (telegramUserId : String)
  | processWizardText (telegramUserId : String) (wizard : ActiveWizard) (text : String)
  | clearPanelFlow (telegramUserId : String)
  | savePanelFlow (telegramUserId : String) (flow : PanelFlow)
  | loadPanelFlow (telegramUserId : String)
  | view (tenantId : String) (view : View)
  | other (function : String)
deriving DecidableEq, Repr

abbrev Answer : Call → Type
  | .rateLimit .. | .fetch _ => Bool
  | .ensureTenant _ => Tenant
  | .loadWizard _ => Option ActiveWizard
  | .loadPanelFlow _ => Option PanelFlow
  | .processWizardText .. | .view .. | .other _ => String
  | .answerCallback .. | .clearWizard _ | .clearPanelFlow _ | .savePanelFlow .. => Unit

abbrev Async := Task Thrown Answer

abbrev await (call : Call) : Async (Answer call) := Task.perform call

/-- What stands inside a `try` as a whole. -/
abbrev Inside := Task Thrown (fun _ : String => String)

def inside {α : Type} : Inside α → Async α
  | .done value => .done value
  | .fail error => .fail error
  | .call function next => .call (.other function) fun answer => inside (next answer)

/-- The texts that need no call. -/
inductive Page where
  | omniWelcomeText | helpIndexText | donationIntro (isAdmin : Bool) | flowPrompt (flow : PanelFlow)
  | dnsttIntroText | omniUnknownCommandText | omniFreeTextReply
deriving DecidableEq, Repr

/-- `{ ok: true }`, or a `sendMessage` in the response. -/
inductive Response where
  | ok
  | sendText (chatId : ℤ) (text : String)
  | sendPage (chatId : ℤ) (page : Page)
deriving DecidableEq, Repr

/-- The configuration, and what is left open. -/
structure Site where
  TELEGRAM_WEBHOOK_SECRET : String
  BOT_USERNAME : String
  /-- `OMNI_FALLBACK_URL` is an address of https. -/
  fallback : Bool
  isAdminUserId : String → Bool
  toLowerCase : String → String
  conversation : Tenant → TelegramMessage → PanelFlow → Inside Response
  button : Tenant → TelegramCallbackQuery → Inside Unit

def V13_DEEP_LINK_ARGS : List String := ["v13", "panel", "app", "omni"]

/-- `null` where the caller shows how to connect again. -/
def faErrorMessage : Thrown → Option String
  | .other _ => some "خطای موقت؛ کمی بعد دوباره تلاش کنید."
  | .http error =>
    match error.code with
    | "deployment_resource_conflict" => some "این نام Worker یا دامنه قبلاً استفاده شده است؛ یکی دیگر انتخاب کنید."
    | "cloudflare_reconnect_required" => none
    | "invalid_deployment_state" => some "این عملیات در وضعیت فعلی استقرار مجاز نیست."
    | "invalid_connection" => some "اتصال Cloudflare معتبر نیست یا منقضی شده است."
    | "zone_mismatch" => some "Zone در حساب انتخاب‌شده فعال نیست."
    | "hostname_zone_mismatch" => some "هر دو زیردامنه باید متعلق به همان Zone باشند."
    | "invalid_reality_target" => some "مقصد Reality نباید خودِ همین نود باشد."
    | "cloudflare_resource_mismatch" => some "منبع انتخاب‌شده خارج از محدودهٔ این اتصال است."
    | "cloudflare_connection_busy" =>
      some "این اتصال هنوز توسط یک استقرار فعال لازم است؛ اول آن را تمام یا باطل کنید."
    | "deployment_not_found" => some "استقرار پیدا نشد."
    | "deployment_not_deletable" =>
      some "فقط استقرار ناموفق یا باطل‌شده حذف می‌شود؛ برای نود زنده اول «🛑 ابطال» را بزنید."
    | "invalid_input" => some "ورودی معتبر نیست؛ دوباره بررسی کنید."
    | "cloudflare_api_error" => some ("کلادفلر این عملیات را رد کرد: " ++ error.message)
    | _ => some "خطای موقت؛ کمی بعد دوباره تلاش کنید."

variable (site : Site)

/-- The command of a text that starts with a slash, and its arguments. -/
def parseBotCommand (text : String) : Option (String × List String) :=
  match words isJsSpace (trim text) with
  | [] => none
  | head :: args =>
    let command := site.toLowerCase (String.ofList ((head.takeWhile (· ≠ '@')).drop 1))
    let mention := String.ofList ((head.dropWhile (· ≠ '@')).drop 1)
    if head.head? ≠ some '/' ∨ command = "" then none
    else if mention ≠ "" ∧ site.toLowerCase mention ≠ site.toLowerCase site.BOT_USERNAME then none
    else some (command, args.map String.ofList)

def forwardToOmni (update : TelegramUpdate) : Async Bool :=
  if site.fallback then
    try await (.fetch update) catch _ => pure false
  else pure false

/-- A notice whose failure is ignored. -/
def notice (queryId text : String) : Async Unit := do
  try await (.answerCallback queryId text) catch _ => pure ()

def rateLimit (user : TelegramFrom) : Async Bool := await (.rateLimit ("telegram:" ++ toString user.id) 12 60)

/-! ## Messages -/

section

variable (update : TelegramUpdate) (message : TelegramMessage) (tenant : Tenant) (telegramUserId : String)

def sendView (view : View) : Async Response := do return .sendText message.chat.id (← await (.view tenant.id view))

def handleErrorView (error : Thrown) : Async Response :=
  match faErrorMessage error with
  | some text => pure (.sendText message.chat.id text)
  | none => sendView message tenant
      (.connectPrompt telegramUserId "🔌 اتصال Cloudflare منقضی شده؛ اول دوباره وصل شوید.")

/-- A list, behind a conversation that ends. -/
def sendList (view : View) : Async Response := do
  await (.clearWizard telegramUserId)
  try sendView message tenant view catch error => handleErrorView message tenant telegramUserId error

def forwardOr (page : Page) : Async Response := do
  if ← forwardToOmni site update then return .ok
  return .sendPage message.chat.id page

def handleCommand (command : String) (args : List String) : Async Response :=
  let argument (index : ℕ) (absent : String) := site.toLowerCase ((args[index]?).getD absent)
  match command with
  | "start" =>
    let arg := argument 0 ""
    if V13_DEEP_LINK_ARGS.contains arg then sendView message tenant (.loginLink telegramUserId)
    else if arg ≠ "" then forwardOr site update message .omniWelcomeText
    else pure (.sendPage message.chat.id .omniWelcomeText)
  | "panel" => sendView message tenant (.loginLink telegramUserId)
  | "status" => sendView message tenant .status
  | "help" => pure (.sendPage message.chat.id .helpIndexText)
  | "cancel" => do
    await (.clearWizard telegramUserId)
    await (.clearPanelFlow telegramUserId)
    return .sendText message.chat.id "فرایند نیمه‌کاره لغو شد."
  | "cleanip" => sendView message tenant (.cleanIp (argument 0 "mci") (argument 1 "tehran"))
  | "map" => sendView message tenant .map
  | "whitehole" => sendView message tenant .whiteHole
  | "donate" => pure (.sendPage message.chat.id (.donationIntro (site.isAdminUserId telegramUserId)))
  | "health" => sendView message tenant (.health telegramUserId)
  | "usage" => sendView message tenant (.usage telegramUserId)
  | "pack" => do
    let flow : PanelFlow := { flow := "pack", step := "pack:domain" }
    await (.savePanelFlow telegramUserId flow)
    return .sendPage message.chat.id (.flowPrompt flow)
  | "dnstt" => do
    await (.savePanelFlow telegramUserId { flow := "dnstt", step := "dnstt:vps" })
    return .sendPage message.chat.id .dnsttIntroText
  | _ => forwardOr site update message .omniUnknownCommandText

/-- A text that is neither a command nor on the menu goes to what the user has begun. -/
def handleFreeText (text : String) : Async Response := do
  match ← await (.loadWizard telegramUserId) with
  | some wizard => return .sendText message.chat.id (← await (.processWizardText telegramUserId wizard text))
  | none =>
    match ← await (.loadPanelFlow telegramUserId) with
    | some flow =>
      tryCatch (inside (site.conversation tenant message flow)) fun error => do
        await (.clearPanelFlow telegramUserId)
        let reason := (faErrorMessage error).getD "فرایند لغو شد؛ دوباره شروع کنید."
        pure (.sendText message.chat.id ("⚠️ " ++ reason))
    | none => forwardOr site update message .omniFreeTextReply

def handleText (text : String) : Async Response :=
  match text with
  | "🛰️ محیط اختصاصی V13" => sendView message tenant (.loginLink telegramUserId)
  | "📦 استقرارها" => sendList message tenant telegramUserId (.deps tenant.displayName telegramUserId)
  | "🔌 اتصال Cloudflare" => sendList message tenant telegramUserId (.conns tenant.displayName telegramUserId)
  | "📊 وضعیت استقرارها" => sendView message tenant .status
  | "❓ راهنما" => pure (.sendPage message.chat.id .helpIndexText)
  | "🔍 هلث چک" => sendView message tenant .radarCheck
  | "💎 آی‌پی تمیز" => sendView message tenant (.cleanIp "mci" "tehran")
  | "🗺 نت ملی" => sendView message tenant .map
  | "🌪️ WhiteHole" => sendView message tenant .whiteHole
  | "🎁 اهدای AI" => pure (.sendPage message.chat.id (.donationIntro (site.isAdminUserId telegramUserId)))
  | "🩺 سلامت نودها" => sendView message tenant (.health telegramUserId)
  | "📈 مصرف" => sendView message tenant (.usage telegramUserId)
  | "🏠 منوی اصلی" => do
    await (.clearWizard telegramUserId)
    return .sendPage message.chat.id .omniWelcomeText
  | text => handleFreeText site update message tenant telegramUserId text

/-- `now` is in milliseconds, the date of a message in seconds. -/
def stale (now : ℤ) : Bool := message.date.any fun date => 600 * 1000 < (now - date * 1000).natAbs

def handleMessageUpdate (now : ℤ) : Async Response :=
  match message.from_ with
  | none => pure .ok
  | some user =>
    if user.is_bot ∨ message.chat.type ≠ "private" ∨ message.chat.id ≠ user.id then pure .ok
    else if stale message now then pure .ok
    else do
      if !(← rateLimit user) then
        return .sendText message.chat.id "درخواست‌ها خیلی سریع ارسال شدند. لطفاً یک دقیقه بعد دوباره تلاش کنید."
      let tenant ← await (.ensureTenant user)
      let text := String.ofList (trim (message.text.getD ""))
      match parseBotCommand site text with
      | some (command, args) => handleCommand site update message tenant (toString user.id) command args
      | none => handleText site update message tenant (toString user.id) text

end

/-! ## Buttons -/

/-- The part of `handleCallbackUpdate` inside its `try`. -/
def handleButton (query : TelegramCallbackQuery) : Async Response :=
  tryCatch (do
    let tenant ← await (.ensureTenant query.from_)
    inside (site.button tenant query)
    pure .ok) fun _ => do
      notice query.id "خطای موقت؛ دوباره تلاش کنید."
      pure .ok

def handleCallbackUpdate (update : TelegramUpdate) (query : TelegramCallbackQuery) : Async Response :=
  match query.chat with
  | none => pure .ok
  | some chat =>
    if query.from_.is_bot ∨ chat.id = 0 ∨ chat.type ≠ "private" ∨ chat.id ≠ query.from_.id then pure .ok
    else do
      if !(← rateLimit query.from_) then
        notice query.id "درخواست‌ها خیلی سریع است؛ یک دقیقه بعد تلاش کنید."
        return .ok
      let data := query.data.getD ""
      if !(data.startsWith "v13:" || data.startsWith "omni:" || data.startsWith "wiz:") then
        if ← forwardToOmni site update then return .ok
        notice query.id "این دکمه متعلق به بخش دیگری است."
        return .ok
      handleButton site query

/-- What follows the record of an update. -/
def handleUpdate (now : ℤ) (update : TelegramUpdate) : Async Response :=
  match update.callback_query, update.message with
  | some query, _ => handleCallbackUpdate site update query
  | none, some message => handleMessageUpdate site update message now
  | none, none => do
    discard (forwardToOmni site update)
    return .ok

/-! ## What ends in an error -/

/-- The calls outside every `try`: of a button only its rate limit, of a message all but the fallback, the notices, the two
lists and what a conversation does. -/
def TelegramUpdate.exposes (update : TelegramUpdate) : Call → Bool
  | .rateLimit .. => true
  | .view _ (.deps ..) | .view _ (.conns ..) | .fetch _ | .answerCallback .. | .other _ => false
  | .ensureTenant _ | .clearWizard _ | .loadWizard _ | .processWizardText .. | .clearPanelFlow _ | .savePanelFlow ..
  | .loadPanelFlow _ | .view .. => update.callback_query.isNone

section

variable {site : Site} {update : TelegramUpdate}

/-- The handling of an update ends in an error exactly where a call outside every `try` fails. -/
abbrev Exposed {α : Type} (update : TelegramUpdate) (task : Async α) : Prop := task.Exposes (update.exposes · = true)

/-- All calls of a task stand inside a `try`. -/
abbrev Caught {α : Type} (update : TelegramUpdate) (task : Async α) : Prop :=
  task.Obeys AnyAnswer (¬ update.exposes · = true) AnyOutcome

theorem inside_caught {α : Type} (task : Inside α) : Caught update (inside task) := by
  induction task with
  | done value => trivial
  | fail error => trivial
  | call function next ih => exact ⟨Bool.false_ne_true, fun answer _ => ih answer⟩

theorem caught {call : Call} (covered : update.exposes call = false) : Caught update (await call) :=
  .performing (by simp [covered])

theorem outside {call : Call} (open_call : update.exposes call = true) : Exposed update (await call) :=
  .performing open_call

theorem forwardToOmni_exposed (forwarded : TelegramUpdate) : Exposed update (forwardToOmni site forwarded) := by
  rw [forwardToOmni]
  split
  · exact .catching (caught rfl) fun _ => trivial
  · trivial

theorem notice_exposed (queryId text : String) : Exposed update (notice queryId text) :=
  .catching (caught rfl) fun _ => trivial

theorem rateLimit_exposed (user : TelegramFrom) : Exposed update (rateLimit user) := outside rfl

/-! ### Messages -/

section

variable (message : TelegramMessage) (tenant : Tenant) (telegramUserId : String) (plain : update.callback_query.isNone = true)
include plain

omit plain in
theorem sendView_exposed {view : View} (single : update.exposes (.view tenant.id view) = true) :
    Exposed update (sendView message tenant view) :=
  .seq (outside single) fun _ => trivial

theorem handleErrorView_exposed (error : Thrown) :
    Exposed update (handleErrorView message tenant telegramUserId error) := by
  rw [handleErrorView]
  split
  · trivial
  · exact sendView_exposed message tenant plain

theorem sendList_exposed {view : View} (listed : update.exposes (.view tenant.id view) = false) :
    Exposed update (sendList message tenant telegramUserId view) :=
  .seq (outside plain) fun _ => .catching (.seq (caught listed) fun _ => trivial) fun error =>
    handleErrorView_exposed message tenant telegramUserId plain error

omit plain in
theorem forwardOr_exposed (forwarded : TelegramUpdate) (page : Page) :
    Exposed update (forwardOr site forwarded message page) := by
  refine .seq (forwardToOmni_exposed forwarded) fun accepted => ?_
  cases accepted <;> trivial

theorem handleCommand_exposed (forwarded : TelegramUpdate) (command : String) (args : List String) :
    Exposed update (handleCommand site forwarded message tenant telegramUserId command args) := by
  unfold handleCommand
  dsimp only
  split
  · split
    · exact sendView_exposed message tenant plain
    · split
      · exact forwardOr_exposed message forwarded _
      · trivial
  all_goals first
    | exact sendView_exposed message tenant plain
    | trivial
    | exact .seq (outside plain) fun _ => .seq (outside plain) fun _ => trivial
    | exact .seq (outside plain) fun _ => trivial
    | exact forwardOr_exposed message forwarded _

theorem handleFreeText_exposed (forwarded : TelegramUpdate) (text : String) :
    Exposed update (handleFreeText site forwarded message tenant telegramUserId text) := by
  refine .seq (outside plain) fun wizard => ?_
  cases wizard with
  | some wizard => exact .seq (outside plain) fun _ => trivial
  | none =>
    refine .seq (outside plain) fun flow => ?_
    cases flow with
    | some flow => exact .catching (inside_caught _) fun error => .seq (outside plain) fun _ => trivial
    | none => exact forwardOr_exposed message forwarded _

theorem handleText_exposed (forwarded : TelegramUpdate) (text : String) :
    Exposed update (handleText site forwarded message tenant telegramUserId text) := by
  unfold handleText
  split
  all_goals first
    | exact sendView_exposed message tenant plain
    | exact sendList_exposed message tenant telegramUserId plain rfl
    | trivial
    | exact .seq (outside plain) fun _ => trivial
    | exact handleFreeText_exposed message tenant telegramUserId plain forwarded _

theorem handleMessageUpdate_exposed (forwarded : TelegramUpdate) (now : ℤ) :
    Exposed update (handleMessageUpdate site forwarded message now) := by
  rw [handleMessageUpdate]
  split
  · trivial
  · split
    · trivial
    · split
      · trivial
      · refine .seq (rateLimit_exposed _) fun allowed => ?_
        cases allowed with
        | false => trivial
        | true =>
          refine .seq (outside plain) fun tenant => ?_
          dsimp only
          split
          · exact handleCommand_exposed message tenant _ plain forwarded _ _
          · exact handleText_exposed message tenant _ plain forwarded _

end

/-! ### Buttons -/

theorem handleButton_exposed (query : TelegramCallbackQuery) (pushed : update.callback_query.isNone = false) :
    Exposed update (handleButton site query) :=
  .catching (.seq (caught pushed) fun _ => .seq (inside_caught _) fun _ => trivial) fun _ =>
    .seq (notice_exposed _ _) fun _ => trivial

theorem handleCallbackUpdate_exposed (forwarded : TelegramUpdate) (query : TelegramCallbackQuery)
    (pushed : update.callback_query.isNone = false) : Exposed update (handleCallbackUpdate site forwarded query) := by
  rw [handleCallbackUpdate]
  split
  · trivial
  · split
    · trivial
    · refine .seq (rateLimit_exposed _) fun allowed => ?_
      cases allowed with
      | false => exact .seq (notice_exposed _ _) fun _ => trivial
      | true =>
        dsimp only
        split
        · contradiction
        · split
          · refine .seq (forwardToOmni_exposed forwarded) fun accepted => ?_
            cases accepted with
            | true => trivial
            | false => exact .seq (notice_exposed _ _) fun _ => trivial
          · exact handleButton_exposed query pushed

theorem handleUpdate_exposed (now : ℤ) (update : TelegramUpdate) : Exposed update (handleUpdate site now update) := by
  rw [handleUpdate]
  split
  · next query pushed => exact handleCallbackUpdate_exposed update query (by rw [pushed]; rfl)
  · next message plain _ => exact handleMessageUpdate_exposed message (by rw [plain]; rfl) update now
  · exact .seq (.seq (forwardToOmni_exposed update) fun _ => trivial) fun _ => trivial

end

end Telegram

end OmniControlPlane.Portal
