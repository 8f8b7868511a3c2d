import ResellerBot.Database.Models

/-!
# ResellerBot.Database.Statements — what a flush writes

An ORM update names the row as the session last knew it and as the code has left it: the UPDATE
sets the columns in which the two differ, in the row with that primary key, whatever the other
columns of the row have become since.
-/

open Interact

namespace ResellerBot

/-- One column of an ORM update: written if it was changed, else left as it is in the row. -/
def col {α : Type} [DecidableEq α] (old new row : α) : α := if new = old then row else new

section Col

variable {α : Type} [DecidableEq α] {old new row : α}

@[simp] theorem col_same : col old old row = row := if_pos rfl

/-- On a row that is as the session knew it, an update leaves what the code has set. -/
@[simp] theorem col_row : col old new old = new := by
  unfold col; split_ifs with h <;> simp [h]

theorem col_of_ne (h : new ≠ old) : col old new row = new := if_neg h

end Col

def Reseller.update (old new row : Reseller) : Reseller :=
  { row with
    telegramUsername := col old.telegramUsername new.telegramUsername row.telegramUsername
    rebeccaAdminUsername :=
      col old.rebeccaAdminUsername new.rebeccaAdminUsername row.rebeccaAdminUsername
    status := col old.status new.status row.status
    productId := col old.productId new.productId row.productId
    expiresAt := col old.expiresAt new.expiresAt row.expiresAt
    purchasedTrafficBytes :=
      col old.purchasedTrafficBytes new.purchasedTrafficBytes row.purchasedTrafficBytes
    lastKnownDataLimit := col old.lastKnownDataLimit new.lastKnownDataLimit row.lastKnownDataLimit
    lastKnownUsage := col old.lastKnownUsage new.lastKnownUsage row.lastKnownUsage
    lastKnownRemaining := col old.lastKnownRemaining new.lastKnownRemaining row.lastKnownRemaining
    trial := col old.trial new.trial row.trial
    trialUsed := col old.trialUsed new.trialUsed row.trialUsed
    suspendedReason := col old.suspendedReason new.suspendedReason row.suspendedReason
    lastSyncAt := col old.lastSyncAt new.lastSyncAt row.lastSyncAt
    automationHold := col old.automationHold new.automationHold row.automationHold }

def Order.update (old new row : Order) : Order :=
  { row with
    status := col old.status new.status row.status
    paidAt := col old.paidAt new.paidAt row.paidAt
    appliedAt := col old.appliedAt new.appliedAt row.appliedAt
    beforeSnapshot := col old.beforeSnapshot new.beforeSnapshot row.beforeSnapshot
    afterSnapshot := col old.afterSnapshot new.afterSnapshot row.afterSnapshot
    applyError := col old.applyError new.applyError row.applyError }

def Payment.update (old new row : Payment) : Payment :=
  { row with
    status := col old.status new.status row.status
    telegramFileId := col old.telegramFileId new.telegramFileId row.telegramFileId
    plisioTxnId := col old.plisioTxnId new.plisioTxnId row.plisioTxnId }

def TrialRecord.update (old new row : TrialRecord) : TrialRecord :=
  { row with status := col old.status new.status row.status }

def ResellerUserCache.update (old new row : ResellerUserCache) : ResellerUserCache :=
  { row with
    status := col old.status new.status row.status
    expire := col old.expire new.expire row.expire
    dataLimit := col old.dataLimit new.dataLimit row.dataLimit
    usedTraffic := col old.usedTraffic new.usedTraffic row.usedTraffic
    lastSeenAt := col old.lastSeenAt new.lastSeenAt row.lastSeenAt
    localStatus := col old.localStatus new.localStatus row.localStatus
    expiredDetectedAt := col old.expiredDetectedAt new.expiredDetectedAt row.expiredDetectedAt
    deleteAfter := col old.deleteAfter new.deleteAfter row.deleteAfter
    warningSentAt := col old.warningSentAt new.warningSentAt row.warningSentAt
    disabledByParentReseller :=
      col old.disabledByParentReseller new.disabledByParentReseller row.disabledByParentReseller
    disabledByOwnExpiry :=
      col old.disabledByOwnExpiry new.disabledByOwnExpiry row.disabledByOwnExpiry }

/-! ## Statements -/

inductive Stmt
  | updateReseller (old new : Reseller)
  | updateOrder (old new : Order)
  | updatePayment (old new : Payment)
  | updateTrial (old new : TrialRecord)
  | updateUser (old new : ResellerUserCache)
  | insertReseller (row : Reseller)
  | insertTrial (row : TrialRecord)
  | insertUser (row : ResellerUserCache)
  | insertLock (row : LifecycleLock)
  | insertWarning (row : WarningEvent)
  | insertAudit (row : AuditLog)
  /-- `UPDATE orders SET status, paid_at WHERE id AND status = 'WAITING_RECEIPT'` -/
  | claimOrder (id : ℕ) (status : OrderStatus) (paidAt : Option Datetime)
  | deleteExpiredLock (key : String) (now : Datetime)
  | deleteLock (key : String)
  /-- `UPDATE reseller_users SET disabled_by_parent_reseller WHERE reseller_id AND local_status` -/
  | markDisabledByParent (resellerId : ℕ)

def integrityError (what : String) : Err := ⟨.integrity, what⟩

def staleDataError : Err := ⟨.staleData, "UPDATE statement matched no row"⟩

/-- The unique username of Rebecca admins in `resellers`; NULLs are distinct. -/
def usernameTaken (rows : List Reseller) (id : ℕ) : Option String → Bool
  | none => false
  | some u => rows.any fun r => r.id ≠ id && r.rebeccaAdminUsername = some u

/-- The tables after a statement and its row count, or the error of a violated constraint.  An
insert leaves an empty `data_limit` to its default, an update writes the NULL. -/
def Stmt.exec (T : Tables) : Stmt → Except Err (Tables × ℕ)
  | .updateReseller old new =>
    if old.rebeccaAdminUsername ≠ new.rebeccaAdminUsername ∧
        usernameTaken T.resellers old.id new.rebeccaAdminUsername then
      .error (integrityError "resellers.rebecca_admin_username")
    else if T.resellers.any (·.id = old.id) then
      .ok ({ T with resellers := Rows.set Reseller.id T.resellers old.id (old.update new) }, 1)
    else .error staleDataError
  | .updateOrder old new =>
    if T.orders.any (·.id = old.id) then
      .ok ({ T with orders := Rows.set Order.id T.orders old.id (old.update new) }, 1)
    else .error staleDataError
  | .updatePayment old new =>
    if T.payments.any (·.orderId = old.orderId) then
      .ok ({ T with
        payments := Rows.set Payment.orderId T.payments old.orderId (old.update new) }, 1)
    else .error staleDataError
  | .updateTrial old new =>
    if T.trials.any (·.telegramId = old.telegramId) then
      .ok ({ T with
        trials := T.trials.map fun r => if r.telegramId = old.telegramId then old.update new r
          else r }, 1)
    else .error staleDataError
  | .updateUser old new =>
    if old.dataLimit ≠ new.dataLimit ∧ new.dataLimit = none then
      .error (integrityError "reseller_users.data_limit")
    else if T.users.any (·.id = old.id) then
      .ok ({ T with users := Rows.set ResellerUserCache.id T.users old.id (old.update new) }, 1)
    else .error staleDataError
  | .insertReseller row =>
    if T.resellers.any (·.telegramId = row.telegramId) then
      .error (integrityError "resellers.telegram_id")
    else .ok ({ T with
      resellers := T.resellers ++ [{ row with id := Rows.next Reseller.id T.resellers }] }, 1)
  | .insertTrial row =>
    if T.trials.any (·.telegramId = row.telegramId) then
      .error (integrityError "trial_records.telegram_id")
    else if T.trials.any fun r => r.adminUsername.isSome && r.adminUsername = row.adminUsername then
      .error (integrityError "trial_records.admin_username")
    else .ok ({ T with trials := T.trials ++ [row] }, 1)
  | .insertUser row =>
    if T.users.any fun u => u.rebeccaAdminUsername = row.rebeccaAdminUsername &&
        u.username = row.username then
      .error (integrityError "reseller_users.rebecca_admin_username, reseller_users.username")
    else .ok ({ T with
      users := T.users ++ [{ row with
        id := Rows.next ResellerUserCache.id T.users
        dataLimit := some (row.dataLimit.getD 0) }] }, 1)
  | .insertLock row =>
    if T.locks.any (·.key = row.key) then .error (integrityError "lifecycle_locks.key")
    else .ok ({ T with locks := T.locks ++ [row] }, 1)
  | .insertWarning row =>
    if T.warnings.any (· = row) then .error (integrityError "warning_events")
    else .ok ({ T with warnings := T.warnings ++ [row] }, 1)
  | .insertAudit row => .ok ({ T with audits := T.audits ++ [row] }, 1)
  | .claimOrder id status paidAt =>
    .ok ({ T with orders := T.orders.map fun o =>
        if o.id = id ∧ o.status = .WAITING_RECEIPT then
          { o with status := status, paidAt := paidAt.or o.paidAt }
        else o },
      (T.orders.filter fun o => o.id = id && o.status = .WAITING_RECEIPT).length)
  | .deleteExpiredLock key now =>
    .ok ({ T with locks := T.locks.filter fun l => ¬(l.key = key ∧ l.expiresAt ≤ now) },
      (T.locks.filter fun l => l.key = key && decide (l.expiresAt ≤ now)).length)
  | .deleteLock key =>
    .ok ({ T with locks := T.locks.filter fun l => l.key ≠ key },
      (T.locks.filter fun l => l.key = key).length)
  | .markDisabledByParent resellerId =>
    .ok ({ T with users := T.users.map fun u =>
        if u.resellerId = resellerId ∧ u.localStatus = .ACTIVE then
          { u with disabledByParentReseller := true }
        else u },
      (T.users.filter fun u => u.resellerId = resellerId && u.localStatus = .ACTIVE).length)

/-- The statements of one flush, in order. -/
def Stmt.execAll (T : Tables) : List Stmt → Except Err Tables
  | [] => .ok T
  | st :: sts => do
    let (T', _) ← st.exec T
    execAll T' sts

theorem Stmt.execAll_append {T T' : Tables} {xs ys : List Stmt} (h : execAll T xs = .ok T') :
    execAll T (xs ++ ys) = execAll T' ys := by
  induction xs generalizing T with
  | nil =>
    cases h
    rfl
  | cons st xs ih =>
    rw [List.cons_append, execAll]
    rw [execAll] at h
    cases hst : st.exec T with
    | error e =>
      rw [hst] at h
      cases h
    | ok r =>
      rw [hst] at h
      exact ih h

end ResellerBot
