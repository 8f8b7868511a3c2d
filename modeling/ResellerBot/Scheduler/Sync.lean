import ResellerBot.Database.Settings
import ResellerBot.Notifications
import ResellerBot.Users.Lifecycle

/-!
# ResellerBot.Scheduler.Sync — resellers, their users and due deletions (`app/scheduler/jobs.py`)
-/

open Interact

namespace ResellerBot

variable (cfg : Settings) (batchSize : ℕ)

/-! ## Resellers -/

/-- `str` of a number or of `None`. -/
def numberText : Option ℤ → String
  | some n => toString n
  | none => "None"

/-- Determines `f"{live.expire}:{live.data_limit}"` and is determined by it. -/
def entitlementKey (live : Admin) : String :=
  numberText live.expire ++ ":" ++ numberText live.dataLimit

/-- `(live.expire - now).total_seconds() / 86400`, two divisions of doubles. -/
def daysLeft (expire now : Datetime) : ℚ :=
  Rounding.digits 2 53 (Rounding.digits 2 53 ((expire - now : ℤ) / second) / 86400)

/-- `max(0, live.data_limit - live.used_traffic) * 100 / live.data_limit`. -/
def percentLeft (limit used : ℤ) : ℚ :=
  Rounding.digits 2 53 ((max 0 (limit - used) * 100 : ℤ) / limit)

/-- `0 < days_left <= threshold`. -/
def timeWarning (expire now : Datetime) (threshold : ℤ) : Bool :=
  0 < daysLeft expire now && daysLeft expire now ≤ threshold

/-- `0 < percent <= threshold`. -/
def trafficWarning (limit used threshold : ℤ) : Bool :=
  0 < percentLeft limit used && percentLeft limit used ≤ threshold

def warnReseller (chat : ℤ) (live : Admin) (kind : String) (threshold : Option ℤ) : Bot Unit :=
  match threshold with
  | some t => notifyOnce chat ⟨"reseller", live.username, kind ++ toString t, entitlementKey live⟩
  | none => pure ()

/-- At most one warning about the time and one about the traffic that is left. -/
def warnAboutEntitlement (chat : ℤ) (live : Admin) (now : Datetime) (times traffics : List ℤ) :
    Bot Unit := do
  warnReseller chat live "TIME_" (live.expire.bind fun e => times.find? (timeWarning e now))
  warnReseller chat live "TRAFFIC_" (live.dataLimit.bind fun l =>
    if 0 < l then traffics.find? (trafficWarning l live.usedTraffic) else none)

def observed (live : Admin) (now : Datetime) (r : Reseller) : Reseller :=
  { r with
    lastKnownDataLimit := live.dataLimit.getD 0
    lastKnownUsage := live.usedTraffic
    lastKnownRemaining := live.dataLimit.getD 0 - live.usedTraffic
    expiresAt := live.expire
    lastSyncAt := some now }

/-- A child that the end of its parent has disabled comes back. -/
def reenableChild (live : Admin) (now : Datetime) (ep : ℕ) (cached : ResellerUserCache) :
    Bot Unit := do
  Slot.user.holdLoaded ep cached
  match ← call .user (.getUser cached.username) with
  | none => pure ()
  | some child =>
    if verifiedOwner child (some live.username) ∧
        ¬exhausted child.expire child.dataLimit child.usedTraffic now then do
      call .user (.enableUser child.username)
      Slot.user.assign fun u => { u with disabledByParentReseller := false }
    else pure ()

def reenableChildren (live : Admin) (now : Datetime) (reseller : Reseller) : Bot Unit :=
  if reseller.status = .ACTIVE ∧ ¬cfg.dryRun then do
    let rows : List ResellerUserCache ← query (.usersDisabledByParent reseller.id)
    let ep ← epoch
    Act.forEach (reenableChild live now ep) rows
  else pure ()

def disableChildren (live : Admin) (reseller : Reseller) : Bot Unit := do
  call (.sync reseller) (.disableAdminUsers live.username)
  let _ ← execute (.markDisabledByParent reseller.id)

/-- The transition at the end of an entitlement, made once. -/
def expireReseller (live : Admin) (reseller : Reseller) : Bot Unit :=
  if reseller.status ≠ .ACTIVE ∧ reseller.status ≠ .TRIAL ∧ reseller.status ≠ .LOW_QUOTA then
    pure ()
  else if cfg.dryRun ∨ ¬cfg.allowDisableActions then
    audit "WOULD_DISABLE_RESELLER" "DRY_RUN" none
  else do
    call (.sync reseller) (.disableAdmin live.username)
    let usersToo : Bool ← call .lookup .detectCapabilities
    Act.when usersToo (disableChildren live reseller)
    let verified ← getAdmin (some live.username)
    if (verified.map (isDisabled ·.status)).getD false then do
      Slot.reseller.assign fun r => { r with status := .EXPIRED }
      audit "RESELLER_DISABLED" "OK" none
      let _ ← notify reseller.telegramId
    else audit "RESELLER_DISABLE_VERIFY_FAILED" "ERROR" none

def syncReseller (now : Datetime) (times traffics : List ℤ) (ep : ℕ) (row : Reseller) :
    Bot Unit := do
  Slot.reseller.holdLoaded ep row
  if row.automationHold ∨ ¬truthy row.rebeccaAdminUsername then pure ()
  else
    match ← Act.attempt (getAdmin row.rebeccaAdminUsername) with
    | .error _ => audit "REBECCA_UNAVAILABLE" "ERROR" none
    | .ok none => pure ()
    | .ok (some live) => do
      Slot.reseller.assign (observed live now)
      warnAboutEntitlement row.telegramId live now times traffics
      let reseller ← Slot.reseller.read
      if ¬exhausted live.expire live.dataLimit live.usedTraffic now then
        reenableChildren cfg live now reseller
      else expireReseller cfg live reseller

def syncResellers : Bot Unit := do
  let rows : List Reseller ← query (.resellersNotSuspended batchSize)
  let ep ← epoch
  let now ← now
  let times ← RuntimeSettings.timeThresholds cfg
  let traffics ← RuntimeSettings.trafficThresholds cfg
  Act.forEach (syncReseller cfg now times traffics ep) rows

/-! ## Users -/

/-- A cache row before its first flush. -/
def newUser (reseller : Reseller) (live : User) : ResellerUserCache where
  id := 0
  resellerId := reseller.id
  username := live.username
  rebeccaAdminUsername := reseller.rebeccaAdminUsername.getD ""
  status := live.status
  expire := none
  dataLimit := none
  usedTraffic := 0
  lastSeenAt := none
  localStatus := .ACTIVE
  expiredDetectedAt := none
  deleteAfter := none
  warningSentAt := none
  deletionHold := false
  disabledByParentReseller := false
  disabledByOwnExpiry := false

def seen (live : User) (now : Datetime) (u : ResellerUserCache) : ResellerUserCache :=
  { u with
    status := live.status
    expire := live.expire
    dataLimit := live.dataLimit
    usedTraffic := live.usedTraffic
    lastSeenAt := some now }

/-- The disable of an expired user, and whether a read has verified it. -/
def disableVerified (username : String) : Bot Bool := do
  call .user (.disableUser username)
  let disabled ← call .user (.getUser username)
  pure ((disabled.map (isDisabled ·.status)).getD false)

def enableVerified (username : String) : Bot Bool := do
  call .user (.enableUser username)
  let enabled ← call .user (.getUser username)
  pure ((enabled.map (isActive ·.status)).getD false)

def announceDeletion (chat : ℤ) : Bot Unit := do
  audit "USER_DELETE_SCHEDULED" "OK" none
  let _ ← notify chat

/-- A detection sets the deadline. -/
def scheduleDeletion (reseller : Reseller) (live : User) (now : Datetime) (graceHours : ℤ) :
    Bot Unit := do
  Slot.user.assign fun u => { u with expiredDetectedAt := some now }
  let deadline ← Act.outcome (deletionTime now graceHours)
  Slot.user.assign fun u => { u with deleteAfter := some deadline, localStatus := .EXPIRED }
  if ¬cfg.dryRun ∧ cfg.allowDisableActions then
    if ← disableVerified live.username then do
      Slot.user.assign fun u => { u with disabledByOwnExpiry := true }
      announceDeletion reseller.telegramId
    else audit "USER_DISABLE_VERIFY_FAILED" "ERROR" none
  else announceDeletion reseller.telegramId

def clearDeletion : Bot Unit := do
  Slot.user.assign fun u => { u with
    expiredDetectedAt := none
    deleteAfter := none
    warningSentAt := none
    disabledByOwnExpiry := false
    localStatus := .ACTIVE }
  audit "USER_DELETE_CANCELLED" "RENEWED" none

/-- A renewal clears the deadline, unless the user cannot be enabled again. -/
def cancelDeletion (reseller : Reseller) (live : User) (cached : ResellerUserCache) : Bot Unit :=
  if cached.disabledByOwnExpiry ∧ reseller.status = .ACTIVE ∧ ¬cfg.dryRun then do
    if ← enableVerified live.username then clearDeletion
    else audit "USER_RENEW_ENABLE_VERIFY_FAILED" "ERROR" none
  else clearDeletion

/-- The cache row of a user, a new one if there is none. -/
def loadCached (reseller : Reseller) (live : User) : Bot Unit := do
  match ← Slot.user.load (query (.user reseller.id live.username)) with
  | some _ => pure ()
  | none => Slot.user.hold ⟨none, newUser reseller live⟩

def syncUser (reseller : Reseller) (now : Datetime) (graceHours : ℤ) (live : User) : Bot Unit :=
  if ¬verifiedOwner live reseller.rebeccaAdminUsername then pure ()
  else do
    loadCached reseller live
    Slot.user.assign (seen live now)
    let cached ← Slot.user.read
    if exhausted live.expire live.dataLimit live.usedTraffic now then
      Act.when cached.expiredDetectedAt.isNone
        (scheduleDeletion cfg reseller live now graceHours)
    else
      Act.when cached.deleteAfter.isSome (cancelDeletion cfg reseller live cached)

def syncUsersOf (now : Datetime) (graceHours : ℤ) (ep : ℕ) (row : Reseller) : Bot Unit := do
  Slot.reseller.holdLoaded ep row
  if row.automationHold ∨ ¬truthy row.rebeccaAdminUsername then pure ()
  else
    match ← Act.attempt (listAdminUsers row.rebeccaAdminUsername) with
    | .error _ => pure ()
    | .ok users => Act.forEach (syncUser cfg row now graceHours) (List.take batchSize users)

def syncUsers : Bot Unit := do
  let rows : List Reseller ← query (.resellers batchSize)
  let ep ← epoch
  let now ← now
  let graceHours ← RuntimeSettings.graceHours cfg
  Act.forEach (syncUsersOf cfg batchSize now graceHours ep) rows

/-! ## Deletions -/

/-- The warning on the last day before a deletion. -/
def warnDue (reseller : Reseller) (cached : ResellerUserCache) (deadline : Stamp)
    (now : Datetime) : Bot Unit := do
  let left ← Act.outcome (deadline.sub (.aware now))
  if 0 < left ∧ left ≤ 24 * hour ∧ cached.warningSentAt = none then do
    if ← notify reseller.telegramId then
      Slot.user.assign fun u => { u with warningSentAt := some now }
    else pure ()
  else pure ()

def finishDeletion (reseller : Reseller) : DeleteResult → Bot Unit
  | .DELETED => do
    Slot.user.assign fun u => { u with localStatus := .DELETED, deleteAfter := none }
    let _ ← notify reseller.telegramId
  | _ => pure ()

/-- `zoned` says whether the driver keeps the time zone of a stored deadline. -/
def dueDeletion (zoned : Bool) (now : Datetime) (ep : ℕ) (row : ResellerUserCache) : Bot Unit := do
  Slot.user.holdLoaded ep row
  match ← Slot.reseller.getByKey Reseller.id row.resellerId (query (.reseller row.resellerId)) with
  | none => pure ()
  | some reseller =>
    match row.deleteAfter with
    | none => Act.raise ⟨.typeError, "unsupported operand type(s) for -: 'NoneType'"⟩
    | some deadline => do
      warnDue reseller row (readBack zoned deadline) now
      let result ← safeDelete row.username row.rebeccaAdminUsername (readBack zoned deadline) now
        ⟨cfg.dryRun, cfg.destructiveActions, cfg.allowDeleteActions⟩
        (row.deletionHold || reseller.automationHold) false
      audit result.text result.text none
      finishDeletion reseller result

def dueDeletions (zoned : Bool) : Bot Unit := do
  Slot.reseller.forget
  let now ← now
  let until_ ← Act.outcome (addHours now 24)
  let rows : List ResellerUserCache ← query (.usersDue until_ batchSize)
  let ep ← epoch
  Act.forEach (dueDeletion cfg zoned now ep) rows

end ResellerBot
