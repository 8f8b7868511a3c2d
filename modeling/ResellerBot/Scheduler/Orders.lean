import ResellerBot.Database.Locks
import ResellerBot.Database.Settings
import ResellerBot.Notifications
import ResellerBot.Payments.Service
import ResellerBot.Reseller.Service
import ResellerBot.Unicode

/-!
# ResellerBot.Scheduler.Orders — reconciliation of paid orders (`app/scheduler/jobs.py`)
-/

open Interact

namespace ResellerBot

variable (cfg : Settings) (batchSize : ℕ)

/-! ## Provisioning -/

def tryCandidate (telegramUsername : Option String) : Bot (Option String) := do
  let candidate ← drawCandidate telegramUsername
  let taken : Bool ← query (.resellerByAdmin candidate)
  if taken then pure none
  else
    match ← getAdmin (some candidate) with
    | none => pure (some candidate)
    | some _ => pure none

/-- `_available_username`. -/
def availableUsername (telegramUsername : Option String) : Bot String := do
  match ← Act.searchFor (tryCandidate telegramUsername) 100 with
  | some username => pure username
  | none => Act.raise ⟨.runtime, "unable to reserve a unique reseller username"⟩

def reserved (username : String) (r : Reseller) : Reseller :=
  { r with rebeccaAdminUsername := some username, status := .PROVISIONING }

def provisioningTarget (username : String) (expire : Datetime) (product : Product) : Snapshot where
  username := some username
  dataLimit := some (gib product.trafficGb)
  expire := some expire
  services := product.serviceIds
  usersLimit := product.usersLimit
  role := none
  status := none

/-- Username and entitlement are durable before Rebecca sees a create request. -/
def reserveUsername : Bot Unit := do
  let reseller ← Slot.reseller.read
  let username ← availableUsername reseller.telegramUsername
  Slot.reseller.assign (reserved username)
  Slot.order.assign fun o => { o with status := .APPLYING }
  let now ← now
  let product ← Slot.product.read
  let expire ← Act.outcome (addDays now product.durationDays)
  Slot.order.assign fun o =>
    { o with afterSnapshot := some (.target (provisioningTarget username expire product)) }
  commit

def activated (product : Product) (r : Reseller) : Reseller :=
  { r with status := .ACTIVE, productId := some product.id }

/-- After the delivery of the credentials. -/
def finishProvisioning (username : String) : Bot Unit := do
  let product ← Slot.product.read
  Slot.reseller.assign (activated product)
  Slot.order.assign fun o => { o with status := .APPLIED }
  let now ← now
  Slot.order.assign (applied now)
  match ← getAdmin (some username) with
  | none => Act.raise ⟨.attributeError, "'NoneType' object has no attribute 'model_dump'"⟩
  | some live => do
    let order ← Slot.order.read
    Slot.order.assign fun o => { o with afterSnapshot := some (.dump live) }
    audit "RESELLER_CREATED" "OK" (some order.id)

/-- The password is never stored: a failed delivery leaves `PROVISIONING`, and the next attempt
resets it. -/
def deliverCredentials (telegramId : ℤ) (username : String) : Bot Unit := do
  Slot.order.assign (failed "CREDENTIAL_DELIVERY_PENDING")
  commit
  let _ ← RuntimeSettings.customerPanelUrl
  if ← notify telegramId then finishProvisioning username
  else Act.raise ⟨.runtime, "credential delivery failed"⟩

def provisionTarget (order : Order) (reseller : Reseller) (target : Snapshot) : Bot Unit := do
  let username := reseller.rebeccaAdminUsername.getD ""
  let password ← generatePassword [cfg.rebeccaBearerToken, cfg.botToken, cfg.plisioSecretKey]
  if target.expire = none then
    Act.raise ⟨.typeError, "fromisoformat: argument must be str"⟩
  else do
    let _ ← provision (.provisioning order reseller) (some username) password target.entitlement
      (some reseller.telegramId)
    deliverCredentials reseller.telegramId username

def provisionOrder : Bot Unit := do
  let order ← Slot.order.read
  let reseller ← Slot.reseller.read
  match order.afterSnapshot with
  | none => Act.raise ⟨.typeError, "'NoneType' object is not subscriptable"⟩
  | some (.dump _) => Act.raise ⟨.keyError, "'target'"⟩
  | some (.target target) => provisionTarget cfg order reseller target

/-! ## One order -/

/-- The `try` block: `none` after a provisioning, else what `apply_order` returns. -/
def applyPaid : Bot (Option Bool) := do
  let reseller ← Slot.reseller.read
  Act.when (¬truthy reseller.rebeccaAdminUsername) reserveUsername
  let reseller ← Slot.reseller.read
  if reseller.status = .PROVISIONING then do
    provisionOrder cfg
    pure none
  else do
    let now ← now
    let changed ← applyOrder now commit
    pure (some changed)

/-- The `except` and `else` blocks. -/
def reportPaid : Except Err (Option Bool) → Bot Unit
  | .error _ => do
    let order ← Slot.order.read
    audit "ORDER_APPLY_FAILED" "ERROR" (some order.id)
    notifyOwners cfg.ownerIds
  | .ok (some true) => do
    let order ← Slot.order.read
    let reseller ← Slot.reseller.read
    audit "RESELLER_RENEWED" "OK" (some order.id)
    let _ ← notify reseller.telegramId
  | .ok _ => pure ()

def reconcileOrder : Bot Unit := do
  let order ← Slot.order.read
  let reseller ← Slot.reseller.getByKey Reseller.id order.resellerId
    (query (.reseller order.resellerId))
  let product ← Slot.product.getByKey Product.id order.productId (query (.product order.productId))
  if reseller.isNone ∨ product.isNone then audit "ORDER_APPLY_FAILED" "ERROR" (some order.id)
  else
    if ← RuntimeSettings.isDryRun cfg then audit "WOULD_APPLY_ORDER" "DRY_RUN" (some order.id)
    else do
      let outcome ← Act.attempt (applyPaid cfg)
      reportPaid cfg outcome

def lockAndReconcile (ep : ℕ) (row : Order) : Bot Unit := do
  Slot.order.holdLoaded ep row
  locked ("order:" ++ toString row.id) 300 fun won => Act.when won (reconcileOrder cfg)

/-! ## The jobs -/

def reconcileOrdersLocked : Bot Unit := do
  Slot.reseller.forget
  Slot.product.forget
  let rows : List Order ← query (.openOrders batchSize)
  let ep ← epoch
  Act.forEach (lockAndReconcile cfg ep) rows

def reconcileOrders : Bot Unit :=
  locked "orders:reconcile" 300 fun won => Act.when won (reconcileOrdersLocked cfg batchSize)

def reconcilePaidOrders : Bot Unit :=
  inSession do
    reconcileOrders cfg batchSize
    commit

/-! ## Plisio -/

/-- The amounts are compared if all the rest agrees. -/
def operationValid (order : Order) (txn : String) (remote : Operation) : Except Err Bool :=
  if remote.orderNumber = order.orderNumber ∧ remote.id = txn ∧
      remote.sourceCurrency = upper order.currency then
    remote.sourceAmount.eq order.amount
  else .ok false

def settlePlisio (order : Order) (remote : Operation) : Bot Unit := do
  Slot.payment.assign fun p => { p with status := remote.status }
  if remote.status = "completed" then do
    Slot.order.assign fun o => { o with status := .PAID }
    let now ← now
    Slot.order.assign fun o => { o with paidAt := some now }
    audit "PLISIO_RECONCILED" "PAID" (some order.id)
  else pure ()

def reconcilePlisioOrder (ep : ℕ) (row : Order × Payment) : Bot Unit := do
  Slot.order.holdLoaded ep row.1
  Slot.payment.holdLoaded ep row.2
  match row.2.plisioTxnId with
  | none => pure ()
  | some "" => pure ()
  | some txn => do
    let remote : Except Err Operation ← ask (.transaction txn)
    match remote with
    | .error _ => audit "PLISIO_RECONCILE_FAILED" "ERROR" (some row.1.id)
    | .ok remote => do
      let valid ← Act.outcome (operationValid row.1 txn remote)
      if valid then settlePlisio row.1 remote
      else audit "PLISIO_RECONCILE_REJECTED" "REJECTED" (some row.1.id)

def reconcilePlisio : Bot Unit :=
  if ¬cfg.plisioEnabled ∨ cfg.plisioSecretKey = "" then pure ()
  else do
    let rows : List (Order × Payment) ← query (.waitingPlisio batchSize)
    let ep ← epoch
    Act.forEach (reconcilePlisioOrder ep) rows

end ResellerBot
