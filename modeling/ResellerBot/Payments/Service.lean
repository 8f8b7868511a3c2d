import ResellerBot.Database.Session
import ResellerBot.Reseller.Quota
import Mathlib.Data.String.Basic

/-!
# ResellerBot.Payments.Service — applying a paid order (`app/payments/service.py`)

`applyOrder` works on the objects in the variables `order`, `reseller` and `product` of the session.
-/

open Interact

namespace ResellerBot

def sortedTexts (services : List ServiceId) : List ServiceId :=
  ((services.map ServiceId.text).insertionSort (· ≤ ·)).map .str

def entitlementSnapshot (admin : Admin) : Snapshot where
  username := none
  dataLimit := admin.dataLimit
  expire := admin.expire
  services := sortedTexts admin.services
  usersLimit := admin.usersLimit
  role := some admin.role
  status := some (normalizeStatus admin.status)

def targetSnapshot (admin : Admin) (product : Product) (now : Datetime) : Except Err Snapshot := do
  let expire ← renewalExpiry admin.expire now product.durationDays
  pure {
    username := none
    dataLimit :=
      some (renewalDataLimit admin.dataLimit admin.usedTraffic (gib product.trafficGb))
    expire := some expire
    services := product.serviceIds
    usersLimit := product.usersLimit
    role := some "reseller"
    status := some "active" }

/-- The dict a snapshot is compared as. -/
def Snapshot.expected (s : Snapshot) : Snapshot :=
  { s with
    services := sortedTexts s.services
    status := some (normalizeStatus (s.status.getD "")) }

/-- `_matches`. -/
def snapshotMatches (live : Admin) (snapshot : Snapshot) : Bool :=
  entitlementSnapshot live = snapshot.expected

theorem sortedTexts_sortedTexts (services : List ServiceId) :
    sortedTexts (sortedTexts services) = sortedTexts services := by
  have h : (sortedTexts services).map ServiceId.text =
      (services.map ServiceId.text).insertionSort (· ≤ ·) := by
    simp [sortedTexts, Function.comp_def, ServiceId.text]
  have hs := List.pairwise_insertionSort (· ≤ ·) (services.map ServiceId.text)
  rw [sortedTexts, h, hs.insertionSort_eq]
  rfl

theorem normalizeStatus_active : normalizeStatus "active" = "active" := by decide

/-- An admin is as its own snapshot says. -/
theorem matches_entitlementSnapshot (a : Admin) :
    snapshotMatches a (entitlementSnapshot a) = true := by
  simp [snapshotMatches, Snapshot.expected, entitlementSnapshot, sortedTexts_sortedTexts,
    normalizeStatus_normalizeStatus]

def Snapshot.entitlement (s : Snapshot) : Entitlement :=
  ⟨s.expire, s.dataLimit, s.services, s.usersLimit⟩

/-- The body of the update of a renewal. -/
def renewalPayload (target : Snapshot) : AdminPayload :=
  ⟨target.entitlement, none, none, none, none, none⟩

def ambiguousError (msg : String) : Err := ⟨.ambiguous, msg⟩

/-- A renewal ends a pause that the end of the entitlement or an outage has caused. -/
def ResellerStatus.reactivated : ResellerStatus → ResellerStatus
  | .EXPIRED | .DISABLED => .ACTIVE
  | s => s

def ResellerStatus.paused (s : ResellerStatus) : Bool := s = .EXPIRED || s = .DISABLED

def reactivate (r : Reseller) : Reseller := { r with status := r.status.reactivated }

def applied (now : Datetime) (o : Order) : Order :=
  { o with status := .APPLIED, appliedAt := some now, applyError := none }

def failed (msg : String) (o : Order) : Order := { o with applyError := some msg }

/-- Both snapshots and the claim of the order, before the first mutation. -/
def applying (before target : Snapshot) (o : Order) : Order :=
  { o with
    beforeSnapshot := some before
    afterSnapshot := some (.target target)
    status := .APPLYING
    applyError := none }

/-- Record what went wrong on the order and raise it. -/
def failOrder {α : Type} (e : Err) : Bot α := do
  Slot.order.assign (failed e.msg)
  Act.raise e

/-- The mutating calls of a renewal: the update, and the enable of a paused reseller. -/
def writeTarget (why : Cause) (username : String) (target : Snapshot) (paused : Bool) :
    Bot Unit := do
  call why (.updateAdmin username (renewalPayload target))
  Act.when paused (call why (.enableAdmin username))

/-- The read that decides whether the order is applied. -/
def verifyTarget (live : Admin) (target : Snapshot) (now : Datetime) : Bot Bool := do
  let verified ← getAdmin (some live.username)
  if (verified.map (snapshotMatches · target)).getD false then do
    Slot.reseller.assign reactivate
    let product ← Slot.product.read
    Slot.reseller.assign fun r => { r with productId := some product.id }
    Slot.order.assign (applied now)
    pure true
  else failOrder ⟨.verification, "post-update entitlement mismatch"⟩

/-- From the write of the target on: perform, verify, and mark the order. -/
def performTarget (live : Admin) (target : Snapshot) (now : Datetime) : Bot Bool := do
  let order ← Slot.order.read
  let reseller ← Slot.reseller.read
  if target.expire = none then
    Act.raise ⟨.typeError, "fromisoformat: argument must be str"⟩
  else do
    let why := Cause.renewal order reseller live
    match ← Act.attempt (writeTarget why live.username target reseller.status.paused) with
    | .error e => failOrder e
    | .ok () => verifyTarget live target now

/-- A first attempt: the snapshots become durable before the first external mutation. -/
def beginTarget (live : Admin) (now : Datetime) (persistTarget : Bot Unit) : Bot Bool := do
  let product ← Slot.product.read
  let target ← Act.outcome (targetSnapshot live product now)
  Slot.order.assign (applying (entitlementSnapshot live) target)
  persistTarget
  performTarget live target now

/-- A retry: a target that is there already is done, still to do, or ambiguous. -/
def resumeTarget (live : Admin) (before : Option Snapshot) (target : Snapshot) (now : Datetime) :
    Bot Bool :=
  match before with
  | none => failOrder (ambiguousError "missing immutable before snapshot")
  | some before =>
    if snapshotMatches live target then do
      Slot.order.assign (applied now)
      Slot.reseller.assign reactivate
      pure true
    else if snapshotMatches live before then performTarget live target now
    else failOrder (ambiguousError "live Rebecca entitlement is partial or ambiguous")

/-- From the live read on: the target is computed exactly once. -/
def applyLive (order : Order) (live : Admin) (now : Datetime) (persistTarget : Bot Unit) :
    Bot Bool :=
  match order.target with
  | none => beginTarget live now persistTarget
  | some target => resumeTarget live order.beforeSnapshot target now

/-- `apply_order` inside the lock of the order. -/
def applyOrderLocked (now : Datetime) (persistTarget : Bot Unit) : Bot Bool := do
  let order ← Slot.order.read
  if order.status = .APPLIED then pure false
  else do
    let reseller ← Slot.reseller.read
    if reseller.status = .SUSPENDED then pure false
    else
      match ← getAdmin reseller.rebeccaAdminUsername with
      | none => Act.raise ⟨.verification, "reseller missing"⟩
      | some live => applyLive order live now persistTarget

/-- `async with _locks.setdefault(order.id, asyncio.Lock())`. -/
def withOrderLock {α : Type} (orderId : ℕ) (m : Bot α) : Bot α := do
  ask (.lock orderId)
  let r ← Act.attempt m
  ask (.unlock orderId)
  Act.outcome r

def applyOrder (now : Datetime) (persistTarget : Bot Unit) : Bot Bool := do
  let order ← Slot.order.read
  withOrderLock order.id (applyOrderLocked now persistTarget)

end ResellerBot
