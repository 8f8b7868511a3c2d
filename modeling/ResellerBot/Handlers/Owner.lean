import ResellerBot.Handlers.Customer

/-!
# ResellerBot.Handlers.Owner — what owners can do

The card decisions, the suspension commands and the confirmed deletion of a user of
`app/bot/handlers/common.py`, and the order and reseller pages of
`app/bot/handlers/owner/console.py`.
-/

open Interact

namespace ResellerBot

variable (cfg : Settings) (userId : ℤ)

/-- A button: everybody else is told off. -/
def ifOwner (m : Bot Unit) : Bot Unit :=
  if userId ∈ cfg.ownerIds then m else sendMessage userId

/-- A command: nobody else gets an answer. -/
def ownerCommand (m : Bot Unit) : Bot Unit := Act.when (userId ∈ cfg.ownerIds) m

/-! ## Receipts and orders -/

/-- The message to the customer. -/
def tellCustomer : Option Reseller → Bot Unit
  | none => Act.raise (noneTypeError "telegram_id")
  | some reseller => sendMessage reseller.telegramId

/-- What an approval tells the customer, and in dry-run mode the owners, and what it starts. -/
def announceApproval (reseller : Option Reseller) (dryRun : Bool) : Bot Unit := do
  tellCustomer reseller
  Act.when dryRun (Act.forEach sendMessage cfg.ownerIds)
  Act.when (!dryRun) (ask .createTask)

/-- The order and its reseller, for the messages about a decision. -/
def decided (orderId : ℕ) : Bot (Option Reseller) := do
  match ← getOrder orderId with
  | none => Act.raise (noneTypeError "reseller_id")
  | some order => getReseller order.resellerId

/-- The guarded UPDATE of an approval, with what is read after it. -/
def approveTransaction (orderId : ℕ) : Bot (Bool × Option Reseller × Bool) := do
  let now ← now
  let claimed ← execute (.claimOrder orderId .PAID (some now))
  let reseller ← decided orderId
  let dryRun ← RuntimeSettings.isDryRun cfg
  pure (claimed = 1, reseller, dryRun)

def approve (orderId : ℕ) : Bot Unit := do
  let (changed, reseller, dryRun) ← inTransaction (approveTransaction cfg orderId)
  Act.when changed (announceApproval cfg reseller dryRun)
  sendMessage userId

def cardApprove (orderId : ℕ) : Bot Unit := ifOwner cfg userId (approve cfg userId orderId)

def orderApprove (orderId : ℕ) : Bot Unit := ifOwner cfg userId (approve cfg userId orderId)

/-- The read, the test and the assignment of `card_reject`: no guarded UPDATE. -/
def cardRejectTransaction (orderId : ℕ) : Bot (Option (Option Reseller)) := do
  match ← getOrder orderId with
  | none => Act.raise (noneTypeError "status")
  | some order =>
    if order.status ≠ .WAITING_RECEIPT then do
      sendMessage userId
      pure none
    else do
      Slot.order.assign fun o => { o with status := .REJECTED }
      let reseller ← getReseller order.resellerId
      pure (some reseller)

def cardReject (orderId : ℕ) : Bot Unit := ifOwner cfg userId do
  match ← inTransaction (cardRejectTransaction userId orderId) with
  | none => pure ()
  | some reseller => do
    sendMessage userId
    tellCustomer reseller

def orderRejectTransaction (orderId : ℕ) : Bot (Bool × Option Reseller) := do
  let claimed ← execute (.claimOrder orderId .REJECTED none)
  let reseller ← decided orderId
  let _ ← query (.setting "support_username")
  pure (claimed = 1, reseller)

def orderReject (orderId : ℕ) : Bot Unit := ifOwner cfg userId do
  let (changed, reseller) ← inTransaction (orderRejectTransaction orderId)
  Act.when changed (tellCustomer reseller)
  sendMessage userId

/-- A failed order that was paid goes back to `PAID`; whether there is anything to process. -/
def orderRetryTransaction (orderId : ℕ) : Bot Bool := do
  match ← getOrder orderId with
  | none => Act.raise (noneTypeError "status")
  | some order =>
    if order.status = .FAILED ∧ order.paidAt.isSome then do
      Slot.order.assign fun o => { o with status := .PAID }
      Slot.order.assign fun o => { o with applyError := none }
      pure true
    else pure (order.status = .PAID || order.status = .APPLYING)

def orderRetry (orderId : ℕ) : Bot Unit := ifOwner cfg userId do
  let eligible ← inTransaction (orderRetryTransaction orderId)
  Act.when eligible (ask .createTask)
  sendMessage userId

/-! ## Suspension -/

def suspended (r : Reseller) : Reseller :=
  { r with status := .SUSPENDED, suspendedReason := some "manual owner action" }

def resumed (r : Reseller) : Reseller := { r with status := .ACTIVE, suspendedReason := none }

/-- The calls of a suspension, if the settings of the environment allow them. -/
def disableReseller (row : Reseller) (username : String) : Bot Unit :=
  if cfg.dryRun ∨ ¬cfg.allowDisableActions then audit "WOULD_DISABLE_RESELLER" "DRY_RUN" none
  else do
    call (.owner row.id) (.disableAdmin username)
    call (.owner row.id) (.disableAdminUsers username)

/-- An answer that ends the handler early. -/
def answered : Bot Bool := do
  sendMessage userId
  pure false

def resellerDisableTransaction (resellerId : ℕ) : Bot Bool := do
  match ← getReseller resellerId with
  | none => answered userId
  | some row =>
    if ¬truthy row.rebeccaAdminUsername then answered userId
    else do
      Slot.reseller.assign suspended
      disableReseller cfg row (pathText row.rebeccaAdminUsername)
      pure true

/-- `/reseller_disable`. -/
def resellerDisable (resellerId : ℕ) : Bot Unit := ownerCommand cfg userId do
  let done ← inTransaction (resellerDisableTransaction cfg userId resellerId)
  Act.when done (sendMessage userId)

/-- The enable of an admin; the row follows once a read has verified it. -/
def enableReseller (row : Reseller) : Bot Bool := do
  call (.owner row.id) (.enableAdmin (pathText row.rebeccaAdminUsername))
  let live ← getAdmin row.rebeccaAdminUsername
  if (live.map (isActive ·.status)).getD false then do
    Slot.reseller.assign resumed
    pure true
  else answered userId

def resellerEnableTransaction (resellerId : ℕ) : Bot Bool := do
  match ← getReseller resellerId with
  | none => answered userId
  | some row =>
    if row.status ≠ .SUSPENDED then answered userId
    else if cfg.dryRun ∨ ¬cfg.allowDisableActions then answered userId
    else enableReseller userId row

/-- `/reseller_enable`. -/
def resellerEnable (resellerId : ℕ) : Bot Unit := ownerCommand cfg userId do
  let done ← inTransaction (resellerEnableTransaction cfg userId resellerId)
  Act.when done (sendMessage userId)

/-- The disable button of the console: the row follows once a read has verified the disable. -/
def consoleDisable (row : Reseller) : Bot Bool := do
  call (.owner row.id) (.disableAdmin (pathText row.rebeccaAdminUsername))
  let live ← getAdmin row.rebeccaAdminUsername
  if (live.map (isDisabled ·.status)).getD false then do
    Slot.reseller.assign suspended
    pure true
  else answered userId

/-- The safety switches of the console, and the action behind them. -/
def stateChangeTransaction (resellerId : ℕ) (action : Reseller → Bot Bool) : Bot Bool := do
  let row ← getReseller resellerId
  let dryRun ← RuntimeSettings.isDryRun cfg
  if dryRun ∨ ¬cfg.allowDisableActions then answered userId
  else
    match row with
    | none => Act.raise (noneTypeError "rebecca_admin_username")
    | some row => if ¬truthy row.rebeccaAdminUsername then answered userId else action row

/-- `reseller_state_change` with the action `disable`. -/
def resellerStateDisable (resellerId : ℕ) : Bot Unit := ifOwner cfg userId do
  let done ← inTransaction (stateChangeTransaction cfg userId resellerId (consoleDisable userId))
  Act.when done (sendMessage userId)

/-- `reseller_state_change` with the action `enable`. -/
def resellerStateEnable (resellerId : ℕ) : Bot Unit := ifOwner cfg userId do
  let done ← inTransaction (stateChangeTransaction cfg userId resellerId (enableReseller userId))
  Act.when done (sendMessage userId)

def holdTransaction (resellerId : ℕ) : Bot Unit := do
  match ← getReseller resellerId with
  | some _ => Slot.reseller.assign fun r => { r with automationHold := !r.automationHold }
  | none => pure ()

/-- `/reseller_hold`. -/
def resellerHold (resellerId : ℕ) : Bot Unit := ownerCommand cfg userId do
  inTransaction (holdTransaction resellerId)
  sendMessage userId

/-! ## Users -/

/-- The switches, the live read of the owner, and the deletion with its verification. -/
def deleteConfirmed (owner username : String) : Bot Unit :=
  if cfg.dryRun ∨ ¬cfg.destructiveActions ∨ ¬cfg.allowDeleteActions then sendMessage userId
  else do
    match ← call .user (.getUser username) with
    | none => sendMessage userId
    | some live =>
      if live.adminUsername ≠ some owner then sendMessage userId
      else do
        call .user (.deleteUser username)
        let _ ← call .user (.getUser username)
        sendMessage userId

/-- `user_delete_confirm` with the owner and the username in the callback data. -/
def userDeleteConfirm (owner username : String) : Bot Unit :=
  ifOwner cfg userId (deleteConfirmed cfg userId owner username)

end ResellerBot
