import ResellerBot.Store
import ResellerBot.Rebecca.Models

/-!
# ResellerBot.Database.Models — the rows of the database (`app/database/models.py`)

A row has the columns that the modelled functions read or write.  `TrialRecord` and `Payment` rows
are addressed by the unique column the code looks them up with instead of their surrogate key.
-/

open Interact

namespace ResellerBot

inductive ResellerStatus
  | PROVISIONING | TRIAL | ACTIVE | LOW_QUOTA | EXPIRED | SUSPENDED | DISABLED | ERROR
  deriving DecidableEq, Repr

inductive OrderStatus
  | PENDING | WAITING_RECEIPT | WAITING_PAYMENT | PAID | APPLYING | APPLIED | REJECTED | EXPIRED
  | CANCELLED | FAILED
  deriving DecidableEq, Repr

inductive TrialStatus
  | RESERVED | PROVISIONING | PROVISIONED_PENDING_DELIVERY | FAILED | ACTIVE
  deriving DecidableEq, Repr

inductive LocalStatus
  | ACTIVE | EXPIRED | DELETED
  deriving DecidableEq, Repr

inductive PaymentMethod
  | card | plisio
  deriving DecidableEq, Repr

structure Reseller where
  id : ℕ
  telegramId : ℤ
  telegramUsername : Option String
  rebeccaAdminUsername : Option String
  status : ResellerStatus
  productId : Option ℕ
  expiresAt : Option Datetime
  purchasedTrafficBytes : ℤ
  lastKnownDataLimit : ℤ
  lastKnownUsage : ℤ
  lastKnownRemaining : ℤ
  trial : Bool
  trialUsed : Bool
  suspendedReason : Option String
  lastSyncAt : Option Datetime
  automationHold : Bool
  deriving DecidableEq, Repr

structure Product where
  id : ℕ
  name : String
  serviceIds : List ServiceId
  durationDays : ℤ
  trafficGb : ℤ
  usersLimit : Option ℤ
  deriving DecidableEq, Repr

/-- An entitlement dict as it is stored in the JSON columns of an order.  A provisioning target has
the key `username` and neither `role` nor `status`; the other snapshots are the other way round. -/
structure Snapshot where
  username : Option String
  dataLimit : Option ℤ
  expire : Option Datetime
  services : List ServiceId
  usersLimit : Option ℤ
  role : Option String
  status : Option String
  deriving DecidableEq, Repr

/-- `after_snapshot`: `{"target": …}` from the start of the application on; a finished provisioning
replaces it by `model_dump` of the live admin, which has no key `target`. -/
inductive AfterSnapshot
  | target (t : Snapshot)
  | dump (live : Admin)
  deriving DecidableEq, Repr

structure Order where
  id : ℕ
  orderNumber : String
  resellerId : ℕ
  productId : ℕ
  amount : Rat
  currency : String
  status : OrderStatus
  paymentMethod : PaymentMethod
  paidAt : Option Datetime
  appliedAt : Option Datetime
  beforeSnapshot : Option Snapshot
  afterSnapshot : Option AfterSnapshot
  applyError : Option String
  deriving DecidableEq, Repr

/-- `(order.after_snapshot or {}).get("target")`. -/
def Order.target (o : Order) : Option Snapshot :=
  match o.afterSnapshot with
  | some (.target t) => some t
  | _ => none

structure Payment where
  orderId : ℕ
  method : PaymentMethod
  status : String
  telegramFileId : Option String
  plisioTxnId : Option String
  deriving DecidableEq, Repr

structure TrialRecord where
  telegramId : ℤ
  adminUsername : Option String
  expiresAt : Option Datetime
  status : TrialStatus
  deriving DecidableEq, Repr

structure ResellerUserCache where
  id : ℕ
  resellerId : ℕ
  username : String
  rebeccaAdminUsername : String
  status : String
  expire : Option Datetime
  dataLimit : Option ℤ
  usedTraffic : ℤ
  lastSeenAt : Option Datetime
  localStatus : LocalStatus
  expiredDetectedAt : Option Datetime
  deleteAfter : Option Datetime
  warningSentAt : Option Datetime
  deletionHold : Bool
  disabledByParentReseller : Bool
  disabledByOwnExpiry : Bool
  deriving DecidableEq, Repr

structure LifecycleLock where
  key : String
  expiresAt : Datetime
  deriving DecidableEq, Repr

structure WarningEvent where
  targetType : String
  targetIdentifier : String
  kind : String
  entitlementKey : String
  deriving DecidableEq, Repr

structure AuditLog where
  action : String
  result : String
  orderId : Option ℕ
  deriving DecidableEq, Repr

/-- A JSON value of the table `settings`, as far as the owner dialogues can store one. -/
inductive SettingValue
  | bool (b : Bool)
  | int (n : ℤ)
  | text (s : String)
  | list (xs : List ServiceId)
  deriving DecidableEq, Repr

structure Tables where
  resellers : List Reseller
  products : List Product
  orders : List Order
  payments : List Payment
  trials : List TrialRecord
  users : List ResellerUserCache
  locks : List LifecycleLock
  warnings : List WarningEvent
  settings : List (String × SettingValue)
  channels : List String
  audits : List AuditLog

/-! ## Queries -/

inductive Query
  | order (id : ℕ)
  | orderByNumber (number : String)
  | openOrders (limit : ℕ)
  | reseller (id : ℕ)
  | resellerByTelegram (telegramId : ℤ)
  | resellerByAdmin (username : String)
  | resellers (limit : ℕ)
  | resellersNotSuspended (limit : ℕ)
  | product (id : ℕ)
  | payment (orderId : ℕ)
  | waitingPlisio (limit : ℕ)
  | trial (telegramId : ℤ)
  | trialByAdmin (username : String)
  | user (resellerId : ℕ) (username : String)
  | usersDue (until_ : Datetime) (limit : ℕ)
  | usersDisabledByParent (resellerId : ℕ)
  | warning (w : WarningEvent)
  | setting (key : String)
  | channels

abbrev Query.Result : Query → Type
  | .order _ | .orderByNumber _ => Option Order
  | .openOrders _ => List Order
  | .reseller _ | .resellerByTelegram _ => Option Reseller
  | .resellerByAdmin _ | .trialByAdmin _ | .warning _ => Bool
  | .resellers _ | .resellersNotSuspended _ => List Reseller
  | .product _ => Option Product
  | .payment _ => Option Payment
  | .waitingPlisio _ => List (Order × Payment)
  | .trial _ => Option TrialRecord
  | .user _ _ => Option ResellerUserCache
  | .usersDue _ _ | .usersDisabledByParent _ => List ResellerUserCache
  | .setting _ => Option SettingValue
  | .channels => List String

/-- The rows a SELECT returns; without an ORDER BY they come in the order of the primary key. -/
def Query.run (T : Tables) : (q : Query) → q.Result
  | .order id => Rows.get Order.id T.orders id
  | .orderByNumber number => T.orders.find? (·.orderNumber = number)
  | .openOrders limit =>
    (T.orders.filter fun o => o.status = .PAID || o.status = .APPLYING).take limit
  | .reseller id => Rows.get Reseller.id T.resellers id
  | .resellerByTelegram telegramId => T.resellers.find? (·.telegramId = telegramId)
  | .resellerByAdmin username => T.resellers.any (·.rebeccaAdminUsername = some username)
  | .resellers limit => T.resellers.take limit
  | .resellersNotSuspended limit => (T.resellers.filter (·.status ≠ .SUSPENDED)).take limit
  | .product id => Rows.get Product.id T.products id
  | .payment orderId => T.payments.find? (·.orderId = orderId)
  | .waitingPlisio limit =>
    (T.orders.flatMap fun o =>
      if o.status = .WAITING_PAYMENT then
        (T.payments.filter fun p => p.orderId = o.id && p.method = .plisio).map (o, ·)
      else []).take limit
  | .trial telegramId => T.trials.find? (·.telegramId = telegramId)
  | .trialByAdmin username => T.trials.any (·.adminUsername = some username)
  | .user resellerId username =>
    T.users.find? fun u => u.resellerId = resellerId && u.username = username
  | .usersDue until_ limit =>
    (T.users.filter fun u => match u.deleteAfter with
      | some d => decide (d ≤ until_)
      | none => false).take limit
  | .usersDisabledByParent resellerId =>
    T.users.filter fun u => u.resellerId = resellerId && u.disabledByParentReseller
  | .warning w => T.warnings.any (· = w)
  | .setting key => (T.settings.find? (·.1 = key)).map (·.2)
  | .channels => T.channels

end ResellerBot
