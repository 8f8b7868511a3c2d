import ResellerBot.Database.Settings
import ResellerBot.Users.Lifecycle

/-!
# ResellerBot.Handlers.Customer — what customers can ask for (`app/bot/handlers/common.py`)
-/

open Interact

namespace ResellerBot

def noneTypeError (name : String) : Err :=
  ⟨.attributeError, "'NoneType' object has no attribute '" ++ name ++ "'"⟩

/-- The row of a customer who has never been here; the database gives it its key. -/
def newReseller (telegramId : ℤ) (telegramUsername : Option String) : Reseller where
  id := 0
  telegramId := telegramId
  telegramUsername := telegramUsername
  rebeccaAdminUsername := none
  status := .PROVISIONING
  productId := none
  expiresAt := none
  purchasedTrafficBytes := 0
  lastKnownDataLimit := 0
  lastKnownUsage := 0
  lastKnownRemaining := 0
  trial := false
  trialUsed := false
  suspendedReason := none
  lastSyncAt := none
  automationHold := false

/-- `/start` by a customer: an account on the first visit, the current name on a later one. -/
def startCustomer (telegramId : ℤ) (telegramUsername : Option String) : Bot Unit :=
  inTransaction do
    match ← Slot.reseller.load (query (.resellerByTelegram telegramId)) with
    | none => add (.insertReseller (newReseller telegramId telegramUsername))
    | some _ => Slot.reseller.assign fun r => { r with telegramUsername := telegramUsername }

def start (cfg : Settings) (telegramId : ℤ) (telegramUsername : Option String) : Bot Unit :=
  if telegramId ∈ cfg.ownerIds then do
    let _ ← inSession (RuntimeSettings.operationsMode cfg)
    sendMessage telegramId
  else do
    startCustomer telegramId telegramUsername
    sendMessage telegramId

/-! ## Receipts -/

def getOrder (id : ℕ) : Bot (Option Order) :=
  Slot.order.getByKey Order.id id (query (.order id))

def getReseller (id : ℕ) : Bot (Option Reseller) :=
  Slot.reseller.getByKey Reseller.id id (query (.reseller id))

def getProduct (id : ℕ) : Bot (Option Product) :=
  Slot.product.getByKey Product.id id (query (.product id))

/-- `none`: no longer accepted; else whether the rows the caption needs were found. -/
def acceptReceipt (chat : ℤ) (fileId : String) (order : Order) (payment : Option Payment) :
    Bot (Option Bool) :=
  if order.status ≠ .PENDING then do
    sendMessage chat
    pure none
  else do
    Slot.order.assign fun o => { o with status := .WAITING_RECEIPT }
    if payment.isNone then Act.raise (noneTypeError "telegram_file_id")
    else do
      Slot.payment.assign fun p =>
        { p with telegramFileId := some fileId, status := "WAITING_OWNER_APPROVAL" }
      let reseller ← getReseller order.resellerId
      let product ← getProduct order.productId
      pure (some (reseller.isSome && product.isSome))

def receiptTransaction (chat : ℤ) (orderId : ℕ) (fileId : String) : Bot (Option Bool) := do
  match ← getOrder orderId with
  | none => Act.raise (noneTypeError "id")
  | some order => do
    let payment ← Slot.payment.load (query (.payment order.id))
    acceptReceipt chat fileId order payment

def receipt (cfg : Settings) (chat : ℤ) (orderId : ℕ) (fileId : String) : Bot Unit := do
  match ← inTransaction (receiptTransaction chat orderId fileId) with
  | none => pure ()
  | some false => Act.raise (noneTypeError "telegram_id")
  | some true => do
    Act.forEach sendMessage cfg.ownerIds
    sendMessage chat

/-! ## The customer's users -/

def PAGE_SIZE : ℕ := 6

/-- The users whose lines `users_panel` shows on a page. -/
def usersPanel (users : List User) (page : ℤ) : List User :=
  (users.drop (page.toNat * PAGE_SIZE)).take PAGE_SIZE

/-- `show_my_users`: the users shown, if the list was. -/
def showMyUsers (telegramId : ℤ) (page : ℤ) : Bot (List User) := do
  match ← inSession (query (.resellerByTelegram telegramId)) with
  | none => do
    sendMessage telegramId
    pure []
  | some (reseller : Reseller) => do
    match ← Act.attempt (listAdminUsers reseller.rebeccaAdminUsername) with
    | .error _ => do
      sendMessage telegramId
      pure []
    | .ok users => do
      sendMessage telegramId
      pure (usersPanel users page)

/-- `my_users_callback` with the page in the callback data. -/
def myUsersCallback (telegramId : ℤ) (page : Option String) : Bot (List User) :=
  match page with
  | none => showMyUsers telegramId 0
  | some text => do
    let page ← Act.outcome (parseInt text)
    showMyUsers telegramId page

/-- `users[int(user_index)] if int(user_index) < len(users) else None`: a negative index counts
from the end. -/
def userAt (users : List User) (index : ℤ) : Except Err (Option User) :=
  if index < users.length then
    if 0 ≤ index then .ok users[index.toNat]?
    else if 0 ≤ index + users.length then .ok users[(index + users.length).toNat]?
    else .error ⟨.indexError, "list index out of range"⟩
  else .ok none

/-- The panel with the details of a user. -/
def showUser (telegramId : ℤ) (page : String) : Option User → Bot (Option User)
  | none => do
    sendMessage telegramId
    pure none
  | some user => do
    let _ ← Act.outcome (parseInt page)
    sendMessage telegramId
    pure (some user)

/-- `my_user_detail` with the index and the page in the callback data: the user shown, if one
was. -/
def myUserDetail (telegramId : ℤ) (userIndex page : String) : Bot (Option User) := do
  match ← inSession (query (.resellerByTelegram telegramId)) with
  | none => do
    sendMessage telegramId
    pure none
  | some (reseller : Reseller) => do
    let users ← listAdminUsers reseller.rebeccaAdminUsername
    let index ← Act.outcome (parseInt userIndex)
    let user ← Act.outcome (userAt users index)
    showUser telegramId page user

end ResellerBot
