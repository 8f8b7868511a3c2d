import ResellerBot.Database.Settings
import Mathlib.Logic.Function.Basic

/-!
# ResellerBot.Handlers.Settings — what the owner sets

The command `/setting`, the dialogue `settings_value` and the switches of
`app/bot/handlers/common.py`, with the normalization of `app/bot/settings.py`.
-/

open Interact

namespace ResellerBot

/-- Python's Unicode tables, which are not in the repository. -/
structure CharTables where
  isalnum : Char → Bool
  isdigit : Char → Bool

/-- The table of settings, and the keys for which the owners are asked: the data of
`OwnerSettingState.value`. -/
structure SettingsPage where
  settings : List (String × SettingValue)
  editing : ℤ → Option String

/-! ## Values -/

section Values

variable (tables : CharTables)

/-- `normalize_card_number` -/
def normalizeCardNumber (value : String) : Except Err String :=
  let normalized := value.toList.filter fun c => c ≠ ' ' && c ≠ '-'
  if normalized ≠ [] ∧ normalized.all tables.isdigit ∧ normalized.length = 16 then
    .ok (String.ofList normalized)
  else .error (valueError "شماره کارت باید ۱۶ رقم باشد.")

/-- `normalize_support_username` -/
def normalizeSupportUsername (value : String) : Except Err String :=
  let normalized := lstrip (· = '@') (strip isSpace value.toList)
  let letters := normalized.filter (· ≠ '_')
  if letters ≠ [] ∧ letters.all tables.isalnum then .ok ("@" ++ String.ofList normalized)
  else .error (valueError "نام کاربری پشتیبانی معتبر نیست.")

/-- `parse_service_ids` -/
def parseServiceIds (value : String) : Except Err (List ℤ) :=
  match (((splitText ',' value).map stripped).filter (· ≠ "")).mapM parseInt with
  | .error _ =>
    .error (valueError "شناسه سرویس‌ها باید عدد صحیح و با ویرگول جدا شود.")
  | .ok items =>
    let result := items.dedup.insertionSort (· ≤ ·)
    if result = [] ∨ result.any (· < 0) then
      .error (valueError "حداقل یک شناسه سرویس معتبر وارد کنید.")
    else .ok result

def SettingValue.numbers (ns : List ℤ) : SettingValue := .list (ns.map .int)

def startsWith (text : String) (start : String) : Bool := start.toList.isPrefixOf text.toList

def endsWith (text : String) (tail : String) : Bool := tail.toList.isSuffixOf text.toList

/-- The keys that `/setting` takes. -/
def commandKeys : List String :=
  ["trial_enabled", "trial_service_ids", "card_number", "card_holder", "card_bank",
    "card_instructions", "support_username", "plisio_toman_per_source", "user_delete_grace_hours",
    "time_warning_thresholds", "traffic_warning_thresholds"]

/-- What `/setting` stores under an allowed key. -/
def commandValue (key value : String) : Except Err SettingValue :=
  if key = "card_number" then (normalizeCardNumber tables value).map .text
  else if key = "support_username" then (normalizeSupportUsername tables value).map .text
  else if key = "trial_service_ids" then (parseServiceIds value).map .numbers
  else if endsWith key "_ids" ∨ endsWith key "thresholds" then (parseInts value).map .numbers
  else if endsWith key "enabled" then
    .ok (.bool (String.ofList (lower value.toList) ∈ ["1", "true", "on"]))
  else .ok (.text value)

/-- The keys that `settings_edit` opens. -/
def dialogueKeys : List String :=
  ["card_number", "card_holder", "card_bank", "card_instructions", "support_username",
    "trial_service_ids", "trial_traffic_gb", "trial_duration_hours", "customer_panel_url"]

/-- What `settings_value` stores for the text of a message. -/
def dialogueText (key text : String) : Except Err SettingValue :=
  if key = "card_number" then (normalizeCardNumber tables text).map .text
  else if key = "support_username" then (normalizeSupportUsername tables text).map .text
  else if key = "trial_service_ids" then (parseServiceIds text).map .numbers
  else if key = "trial_traffic_gb" ∨ key = "trial_duration_hours" then do
    let value ← parseInt text
    if value ≤ 0 then .error (valueError "مقدار باید مثبت باشد.") else .ok (.int value)
  else if key = "customer_panel_url" then
    let value := stripped text
    if startsWith value "https://" ∨ startsWith value "http://" then .ok (.text value)
    else .error (valueError "لینک باید با https:// یا http:// شروع شود.")
  else
    let value := stripped text
    if value = "" then .error (valueError "مقدار خالی مجاز نیست.") else .ok (.text value)

/-- A message without a text has none of the methods of a `str`. -/
def dialogueValue (key : String) : Option String → Except Err SettingValue
  | some text => dialogueText tables key text
  | none =>
    if key = "trial_traffic_gb" ∨ key = "trial_duration_hours" then
      .error (typeError "int() argument must be a string, not 'NoneType'")
    else .error ⟨.attributeError, "'NoneType' object has no attribute"⟩

end Values

/-! ## The handlers -/

section Handlers

variable (tables : CharTables) (ownerIds : List ℤ) (owner : ℤ) (page : SettingsPage)

def SettingsPage.put (key : String) (value : SettingValue) : SettingsPage :=
  { page with settings := putSetting page.settings key value }

/-- `state.clear()` -/
def SettingsPage.leave : SettingsPage :=
  { page with editing := Function.update page.editing owner none }

/-- The key and the value that `/setting key value` names. -/
def settingArguments (text : String) : Option (String × String) :=
  match splitWords 2 text.toList with
  | [_, key, value] => some (key, value)
  | _ => none

/-- `setting_set`: only the texts of the first three kinds have their error answered. -/
def settingSet (text : String) : SettingsPage × Answer :=
  if owner ∉ ownerIds then (page, .ok none)
  else match settingArguments text with
    | none => (page, .ok (some "فرمت: /setting key value"))
    | some (key, value) =>
      if key ∉ commandKeys then (page, .ok (some "این تنظیم از تلگرام قابل تغییر نیست."))
      else match commandValue tables key value with
        | .ok v => (page.put key v, .ok (some "✅ تنظیم ذخیره شد."))
        | .error e =>
          (page, if key ∈ ["card_number", "support_username", "trial_service_ids"] then
            .ok (some e.msg) else .error e)

/-- The callback `settings:edit:KEY`. -/
def settingsEdit (key : String) : SettingsPage × Answer :=
  if owner ∉ ownerIds ∨ key ∉ dialogueKeys then (page, .ok (some "غیرمجاز"))
  else ({ page with editing := Function.update page.editing owner (some key) },
    .ok (some "مقدار جدید را ارسال کنید."))

/-- `settings_value`: the panel is shown again once the value is stored, and only then does the
dialogue end. -/
def settingsValue (panel : Except Err Unit) (text : Option String) : SettingsPage × Answer :=
  if owner ∉ ownerIds then (page.leave owner, .ok none)
  else match page.editing owner with
    | none => (page, .ok none)
    | some key => match dialogueValue tables key text with
      | .error e => (page, if e.kind = .valueError then .ok (some e.msg) else .error e)
      | .ok v => match panel with
        | .ok () => ((page.put key v).leave owner, .ok (some "✅ ذخیره شد."))
        | .error e => (page.put key v, .error e)

/-- `settings_trial_toggle` -/
def trialToggle : SettingsPage × Answer :=
  if owner ∉ ownerIds then (page, .ok none)
  else
    let current := ((lookupSetting page.settings "trial_enabled").map (·.truthy)).getD true
    (page.put "trial_enabled" (.bool !current), .ok none)

/-- `mode_change` -/
def modeChange (live : Bool) : SettingsPage × Answer :=
  if owner ∉ ownerIds then (page, .ok none)
  else (page.put "operations_mode" (.text (if live then "live" else "dry_run")),
    .ok (some "حالت عملیات تغییر کرد"))

end Handlers

/-! ## The machine -/

/-- What the owners send; `leave` is everything else that ends a dialogue of this kind. -/
inductive SettingsEvent
  | setting (owner : ℤ) (text : String)
  | edit (owner : ℤ) (key : String)
  | value (owner : ℤ) (panel : Except Err Unit) (text : Option String)
  | trialToggle (owner : ℤ)
  | mode (owner : ℤ) (live : Bool)
  | leave (owner : ℤ)

/-- One step of the settings. -/
def SettingsPage.step (tables : CharTables) (ownerIds : List ℤ) (page : SettingsPage) :
    SettingsEvent → SettingsPage
  | .setting owner text => (settingSet tables ownerIds owner page text).1
  | .edit owner key => (settingsEdit ownerIds owner page key).1
  | .value owner panel text => (settingsValue tables ownerIds owner page panel text).1
  | .trialToggle owner => (ResellerBot.trialToggle ownerIds owner page).1
  | .mode owner live => (modeChange ownerIds owner page live).1
  | .leave owner => page.leave owner

end ResellerBot
