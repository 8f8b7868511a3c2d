import ResellerBot.Contract.View

/-!
# ResellerBot.Contract.Spec — what the bot may ask for

The contract of a worker: from what it knows, which statements it may flush and which calls it may
make.  Each change of a row and each call is one constructor, with what the code has checked before.
The order worker is shown to keep the contract once (`ResellerBot.Contract.Tasks`); the results about
its runs use nothing else about its code.
-/

open Interact

namespace ResellerBot

/-- Whose work a task is, as far as the contract depends on it. -/
inductive Role
  | orders
  | trial (telegramId : ℤ)
  | scheduler
  | desk
  | suspend
  | resume
  deriving DecidableEq

/-- The tasks whose flushes say what the rows were last known to be. -/
def Role.Tracked : Role → Prop
  | .orders | .trial _ => True
  | _ => False

variable (k : Role) (sells : Product → Prop) (v : View)

/-- `name` has been looked up in the table of resellers and in Rebecca, and was in neither. -/
structure Available (name : String) : Prop where
  ne : name ≠ ""
  reseller : name ∈ v.freeReseller
  admin : (name, none) ∈ v.answers

/-! ## Orders -/

/-- Which orders a change keeps to. -/
structure Order.SameKeys (old new : Order) : Prop where
  id : new.id = old.id
  resellerId : new.resellerId = old.resellerId
  productId : new.productId = old.productId

/-- What a flush may have done to an order. -/
inductive OrderChange (old new : Order) : Prop
  /-- Nothing that matters. -/
  | keep (status : new.status = old.status) (before : new.beforeSnapshot = old.beforeSnapshot)
      (after : new.afterSnapshot = old.afterSnapshot)
  /-- The snapshots of a renewal are recorded. -/
  | begin (r : Reseller) (name : String) (live : Admin) (product : Product) (now : Datetime)
      (target : Snapshot)
      (phase : v.phase ≠ .closed) (opens : old.Open) (fresh : old.target = none)
      (reseller : v.resellers r.id = some r) (owner : r.id = old.resellerId)
      (admin : r.rebeccaAdminUsername = some name) (named : name ≠ "")
      (suspended : r.status ≠ .SUSPENDED) (provisioned : r.status ≠ .PROVISIONING)
      (answer : (name, some live) ∈ v.answers)
      (sold : sells product) (of : product.id = old.productId)
      (compute : targetSnapshot live product now = .ok target)
      (status : new.status = .APPLYING)
      (before : new.beforeSnapshot = some (entitlementSnapshot live))
      (after : new.afterSnapshot = some (.target target))
  /-- A provisioning is claimed, with its target unless that could not be computed. -/
  | reserve (r : Reseller) (name : String)
      (phase : v.phase ≠ .closed) (opens : old.Open)
      (reseller : v.resellers r.id = some r) (owner : r.id = old.resellerId)
      (unnamed : ¬truthy r.rebeccaAdminUsername) (available : Available v name)
      (status : new.status = .APPLYING) (before : new.beforeSnapshot = old.beforeSnapshot)
      (after : new.afterSnapshot = old.afterSnapshot ∨
        ∃ expire product, sells product ∧
          new.afterSnapshot = some (.target (provisioningTarget name expire product)))
  /-- A renewal is done: the live admin matches its target. -/
  | finish (r : Reseller) (name : String) (live : Admin) (target : Snapshot)
      (phase : v.phase ≠ .closed) (opens : old.Open) (recorded : old.target = some target)
      (reseller : v.resellers r.id = some r) (owner : r.id = old.resellerId)
      (holder : r.rebeccaAdminUsername = some name)
      (answer : (name, some live) ∈ v.answers) (admin : live.username = name)
      (matches_ : snapshotMatches live target)
      (status : new.status = .APPLIED) (before : new.beforeSnapshot = old.beforeSnapshot)
      (after : new.afterSnapshot = old.afterSnapshot)
  /-- A provisioning is done: the admin has been verified, and its state is stored unless it could
  not be read again. -/
  | provisioned (r : Reseller) (name : String) (live : Admin) (target : Snapshot)
      (phase : v.phase ≠ .closed) (opens : old.Open) (recorded : old.target = some target)
      (reseller : v.resellers r.id = some r) (owner : r.id = old.resellerId)
      (admin : r.rebeccaAdminUsername = some name) (provisioning : r.status = .PROVISIONING)
      (answer : (name, some live) ∈ v.answers)
      (verified : verifyEntitlement (some live) (some name) target.entitlement = .ok live)
      (status : new.status = .APPLIED) (before : new.beforeSnapshot = old.beforeSnapshot)
      (after : new.afterSnapshot = old.afterSnapshot ∨
        ∃ a, (name, some a) ∈ v.answers ∧ new.afterSnapshot = some (.dump a))
  /-- A receipt is accepted or rejected, in a transaction that does nothing else to orders. -/
  | decide (phase : v.phase = .clean)
      (status : (old.status = .PENDING ∧ new.status = .WAITING_RECEIPT) ∨
        (old.status = .WAITING_RECEIPT ∧ new.status = .REJECTED))
      (role : k = .desk)
  /-- A payment is found, or a failed order is tried again. -/
  | pay (status : old.status = .WAITING_PAYMENT ∨ old.status = .FAILED)
      (paid : new.status = .PAID) (role : k = .desk ∨ k = .scheduler)

/-! ## Resellers -/

structure Reseller.SameKeys (old new : Reseller) : Prop where
  id : new.id = old.id
  telegramId : new.telegramId = old.telegramId

/-- What a flush may have done to a reseller. -/
inductive ResellerChange (old new : Reseller) : Prop
  | keep (status : new.status = old.status)
      (admin : new.rebeccaAdminUsername = old.rebeccaAdminUsername)
  | reserve (name : String) (unnamed : ¬truthy old.rebeccaAdminUsername)
      (available : Available v name) (admin : new.rebeccaAdminUsername = some name)
      (status : new.status = .PROVISIONING)
  /-- A provisioning is done. -/
  | activate (was : old.status = .PROVISIONING) (status : new.status = .ACTIVE)
      (admin : new.rebeccaAdminUsername = old.rebeccaAdminUsername)
  /-- A renewal ends a pause. -/
  | reactivate (was : old.status.paused) (status : new.status = .ACTIVE)
      (admin : new.rebeccaAdminUsername = old.rebeccaAdminUsername)
  | trial (record : TrialRecord) (role : k = .trial old.telegramId)
      (known : v.trials old.telegramId = some record) (named : truthy record.adminUsername)
      (admin : new.rebeccaAdminUsername = record.adminUsername) (status : new.status = .TRIAL)
  | expire (role : k = .scheduler)
      (was : old.status = .ACTIVE ∨ old.status = .TRIAL ∨ old.status = .LOW_QUOTA)
      (status : new.status = .EXPIRED)
      (admin : new.rebeccaAdminUsername = old.rebeccaAdminUsername)
  | suspend (role : k = .suspend) (named : truthy old.rebeccaAdminUsername)
      (status : new.status = .SUSPENDED)
      (admin : new.rebeccaAdminUsername = old.rebeccaAdminUsername)
  | resume (role : k = .resume) (status : new.status = .ACTIVE)
      (admin : new.rebeccaAdminUsername = old.rebeccaAdminUsername)

/-! ## Statements -/

/-- A statement that may stand in a flush. -/
def StmtOk : Stmt → Prop
  | .updateOrder old new =>
    old.SameKeys new ∧ (k.Tracked → v.orders old.id = some old) ∧ OrderChange k sells v old new
  | .updateReseller old new =>
    old.SameKeys new ∧ (k.Tracked → v.resellers old.id = some old) ∧ ResellerChange k v old new
  | .updateTrial old new =>
    (k.Tracked → v.trials old.telegramId = some old) ∧ new = { old with status := new.status }
  | .insertTrial row =>
    k = .trial row.telegramId ∧
      ∃ name, row.adminUsername = some name ∧ Available v name ∧ name ∈ v.freeTrial
  | .insertReseller row => row.rebeccaAdminUsername = none ∧ row.status = .PROVISIONING
  | .claimOrder _ _ _ | .deleteExpiredLock _ _ | .deleteLock _ | .markDisabledByParent _ => False
  | _ => True

/-- The statements of a flush, each judged after those before it. -/
def FlushOk (v : View) : List Stmt → Prop
  | [] => True
  | st :: sts => StmtOk k sells v st ∧ FlushOk (v.wrote st) sts

/-- A statement that is executed by itself. -/
def ExecuteOk : Stmt → Prop
  | .claimOrder _ status _ => k = .desk ∧ v.phase = .clean ∧ (status = .PAID ∨ status = .REJECTED)
  | .deleteExpiredLock _ _ | .deleteLock _ | .markDisabledByParent _ => True
  | _ => False

/-! ## Calls -/

/-- Calls that change admins. -/
def Call.writesAdmin : Call → Bool
  | .createResellerAdmin _ _ | .updateAdmin _ _ | .enableAdmin _ | .disableAdmin _ => true
  | _ => false

/-- What the code knows when it calls for an order: the rows as last read or flushed, and a target
that is not waiting for its commit. -/
structure Backed (o : Order) (r : Reseller) (target : Snapshot) (name : String) : Prop where
  order : v.orders o.id = some o
  reseller : v.resellers r.id = some r
  owner : r.id = o.resellerId
  opens : o.Open
  saved : o.id ∉ v.unsaved
  target : o.target = some target
  admin : r.rebeccaAdminUsername = some name
  named : name ≠ ""

/-- The calls that change admins. -/
inductive CallOk : Cause → Call → Prop
  | create {o : Order} {r : Reseller} {target : Snapshot} {name password : String}
      (backed : Backed v o r target name) (status : r.status = .PROVISIONING)
      (answer : (name, none) ∈ v.answers) :
      CallOk (.provisioning o r) (.createResellerAdmin (some name)
        (provisionPayload password target.entitlement (some r.telegramId)))
  | recover {o : Order} {r : Reseller} {target : Snapshot} {name password : String} {live : Admin}
      (backed : Backed v o r target name) (status : r.status = .PROVISIONING)
      (answer : (name, some live) ∈ v.answers) :
      CallOk (.provisioning o r) (.updateAdmin name
        (provisionPayload password target.entitlement (some r.telegramId)))
  | renew {o : Order} {r : Reseller} {target before : Snapshot} {name : String} {live : Admin}
      (backed : Backed v o r target name) (suspended : r.status ≠ .SUSPENDED)
      (provisioned : r.status ≠ .PROVISIONING)
      (answer : (name, some live) ∈ v.answers) (admin : live.username = name)
      (recorded : o.beforeSnapshot = some before) (untouched : snapshotMatches live before) :
      CallOk (.renewal o r live) (.updateAdmin name (renewalPayload target))
  | reenable {o : Order} {r : Reseller} {target before : Snapshot} {name : String} {live : Admin}
      (backed : Backed v o r target name) (paused : r.status.paused)
      (admin : live.username = name)
      (recorded : o.beforeSnapshot = some before) (untouched : snapshotMatches live before) :
      CallOk (.renewal o r live) (.enableAdmin name)
  | createTrial {tg : ℤ} {record : TrialRecord} {name password : String} {want : Entitlement}
      (role : k = .trial tg) (known : v.trials tg = some record)
      (admin : record.adminUsername = some name) (named : name ≠ "")
      (answer : (name, none) ∈ v.answers) :
      CallOk (.trial tg) (.createResellerAdmin (some name) (provisionPayload password want (some tg)))
  | recoverTrial {tg : ℤ} {record : TrialRecord} {name password : String} {want : Entitlement}
      {live : Admin}
      (role : k = .trial tg) (known : v.trials tg = some record)
      (admin : record.adminUsername = some name) (named : name ≠ "")
      (answer : (name, some live) ∈ v.answers) :
      CallOk (.trial tg) (.updateAdmin name (provisionPayload password want (some tg)))
  | disable {why : Cause} {name : String} : CallOk why (.disableAdmin name)
  | enable {rid : ℕ} {name : String} (role : k = .resume) :
      CallOk (.owner rid) (.enableAdmin name)

/-- The contract on a request. -/
def Allowed : Ev → Prop
  | .flush sts => FlushOk k sells v sts
  | .execute st => ExecuteOk k v st
  | .call why c => c.writesAdmin → CallOk k v why c
  | _ => True

/-- **The contract** of the tasks with a role. -/
def contract : Spec Ev Resp View where
  pre v e := Allowed k sells v e
  next v e r v' := v' = v.after e r ∧ Answered sells e r

/-- The role of each task. -/
def Task.role : Task → Role
  | .run => .scheduler
  | .reconcilePaidOrders => .orders
  | .runTrial userId _ => .trial userId
  | .resellerDisable _ _ | .resellerStateDisable _ _ => .suspend
  | .resellerEnable _ _ | .resellerStateEnable _ _ => .resume
  | _ => .desk

end ResellerBot
