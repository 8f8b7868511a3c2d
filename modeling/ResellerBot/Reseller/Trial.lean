import ResellerBot.Database.Settings
import ResellerBot.Notifications
import ResellerBot.Reseller.Quota
import ResellerBot.Reseller.Service

/-!
# ResellerBot.Reseller.Trial — the free trial

`reserve_trial` and `failure_status` (`app/reseller/trial.py`) and `run_trial`
(`app/bot/handlers/common.py`).
-/

open Interact

namespace ResellerBot

variable (cfg : Settings)

/-- `reserve_trial`: whether the record could be inserted; it is then in the variable. -/
def reserveTrial (telegramId : ℤ) (username : String) (hours : ℤ) : Bot Bool := do
  let now ← now
  let expire ← Act.outcome (addHours now hours)
  Slot.trial.hold ⟨none, ⟨telegramId, some username, some expire, .PROVISIONING⟩⟩
  match ← Act.attempt flush with
  | .ok () => pure true
  | .error e =>
    if e.kind = .integrity then do
      rollback
      pure false
    else Act.raise e

/-- Only an unsafe or invalid live state consumes a trial terminally. -/
def failureStatus (e : Err) : TrialStatus := if e.isVerification then .FAILED else .PROVISIONING

def recordDryRunRequest : Bot Unit := do
  add (.insertAudit ⟨"WOULD_PROVISION_TRIAL", "DRY_RUN", none⟩)
  flush

/-- `is_member`: a failing lookup counts as not joined. -/
def isMember (userId : ℤ) : List String → Bot Bool
  | [] => pure true
  | channel :: channels => do
    let status : Except Err String ← ask (.chatMember channel userId)
    match status with
    | .error _ => pure false
    | .ok s => if s = "left" ∨ s = "kicked" then pure false else isMember userId channels

def tryTrialCandidate (telegramUsername : Option String) : Bot (Option String) := do
  let candidate ← drawCandidate telegramUsername
  let localTrial : Bool ← query (.trialByAdmin candidate)
  let localReseller : Bool ← query (.resellerByAdmin candidate)
  if localTrial ∨ localReseller then pure none
  else
    match ← getAdmin (some candidate) with
    | none => pure (some candidate)
    | some _ => pure none

/-- A name that neither table nor Rebecca knows, reserved durably before the Rebecca mutation. -/
def reserveTrialName (userId : ℤ) (telegramUsername : Option String) : Bot Bool := do
  match ← Act.searchFor (tryTrialCandidate telegramUsername) 100 with
  | none => Act.raise ⟨.runtime, "unable to reserve unique trial username"⟩
  | some username => do
    let hours ← RuntimeSettings.trialDurationHours cfg
    let done ← reserveTrial userId username hours
    commit
    pure done

/-- The service ids of the trial: an absent value, like an empty one, means none. -/
def trialServices : Option SettingValue → List ServiceId
  | some (.list xs) => xs
  | _ => []

def trialReseller (record : TrialRecord) (trafficGb : ℤ) (r : Reseller) : Reseller :=
  { r with
    rebeccaAdminUsername := record.adminUsername
    status := .TRIAL
    trial := true
    trialUsed := true
    expiresAt := record.expiresAt
    purchasedTrafficBytes := gib trafficGb }

def trialStatus (status : TrialStatus) (t : TrialRecord) : TrialRecord := { t with status := status }

/-- The reseller of the customer, if there is one, is put on the trial. -/
def assignTrialReseller (userId : ℤ) (record : TrialRecord) (trafficGb : ℤ) : Bot Unit := do
  match ← Slot.reseller.load (query (.resellerByTelegram userId)) with
  | some _ => Slot.reseller.assign (trialReseller record trafficGb)
  | none => pure ()

/-- The `try` block. -/
def provisionTrial (userId : ℤ) (record : TrialRecord) (password : String)
    (services : List ServiceId) (trafficGb : ℤ) : Bot Unit := do
  let _ ← provision (.trial userId) record.adminUsername password
    ⟨record.expiresAt, some (gib trafficGb), services, none⟩ (some userId)
  assignTrialReseller userId record trafficGb
  Slot.trial.assign (trialStatus .PROVISIONED_PENDING_DELIVERY)
  commit

/-- The `except` blocks. -/
def failTrial (userId : ℤ) (e : Err) : Bot Unit := do
  Slot.trial.assign (trialStatus (failureStatus e))
  commit
  Act.when e.isVerification (Act.forEach sendMessage cfg.ownerIds)
  sendMessage userId

/-- Provision the record; whether the credentials are to be delivered. -/
def deliverableTrial (userId : ℤ) (services : List ServiceId) (trafficGb : ℤ) : Bot Bool := do
  let record ← Slot.trial.read
  let password ← generatePassword [cfg.rebeccaBearerToken, cfg.botToken, cfg.plisioSecretKey]
  match ← Act.attempt (provisionTrial userId record password services trafficGb) with
  | .ok () => pure true
  | .error e => do
    failTrial cfg userId e
    pure false

/-- From the record on, which `reserve_trial` may have failed to make. -/
def continueTrial (userId : ℤ) (reserved : Bool) : Bot Bool := do
  let services : Option SettingValue ← query (.setting "trial_service_ids")
  let trafficGb ← RuntimeSettings.trialTrafficGb cfg
  if reserved then deliverableTrial cfg userId (trialServices services) trafficGb
  else Act.raise ⟨.attributeError, "'NoneType' object has no attribute 'admin_username'"⟩

/-- A request in dry-run mode is only recorded. -/
def dryRunTrial (userId : ℤ) : Bot Bool := do
  recordDryRunRequest
  commit
  Act.forEach sendMessage cfg.ownerIds
  sendMessage userId
  pure false

/-- A first request reserves, an unfinished one goes on, any other is refused. -/
def startTrial (userId : ℤ) (telegramUsername : Option String) : Bot Bool := do
  match ← Slot.trial.load (query (.trial userId)) with
  | none => do
    let reserved ← reserveTrialName cfg userId telegramUsername
    continueTrial cfg userId reserved
  | some record =>
    if record.status = .PROVISIONING ∨ record.status = .PROVISIONED_PENDING_DELIVERY then
      continueTrial cfg userId true
    else do
      sendMessage userId
      pure false

def refuse (chat : ℤ) : Bot Bool := do
  sendMessage chat
  pure false

def trialSession (userId : ℤ) (telegramUsername : Option String) : Bot Bool := do
  let channels : List String ← query .channels
  let joined ← isMember userId channels
  let enabled : Option SettingValue ← query (.setting "trial_enabled")
  if ¬joined then refuse userId
  else if enabled = some (.bool false) then refuse userId
  else
    if ← RuntimeSettings.isDryRun cfg then dryRunTrial cfg userId
    else startTrial cfg userId telegramUsername

def finishTrial (userId : ℤ) : Bot Unit :=
  inTransaction do
    match ← Slot.trial.load (query (.trial userId)) with
    | some _ => Slot.trial.assign (trialStatus .ACTIVE)
    | none => pure ()

/-- `run_trial`: a delivery that fails leaves the record as it is. -/
def runTrial (userId : ℤ) (telegramUsername : Option String) : Bot Unit := do
  if ← inSession (trialSession cfg userId telegramUsername) then
    match ← Act.attempt (sendMessage userId) with
    | .ok () => finishTrial userId
    | .error _ => pure ()
  else pure ()

end ResellerBot
