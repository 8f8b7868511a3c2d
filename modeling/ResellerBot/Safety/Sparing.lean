import ResellerBot.Safety.Handlers

/-!
# ResellerBot.Safety.Sparing — the code that deletes nobody

A specification may restrict the deletions of users and allow every other request.  All jobs and
handlers are safe under it, but for the two that delete.
-/

open Interact

namespace ResellerBot

open Act (Safe SafeWith)

def Call.deletes : Call → Bool
  | .deleteUser _ => true
  | _ => false

/-- A specification that is about deletions only. -/
class DeleteSpec {V : Type} (S : Spec Ev Resp V) : Prop extends CallSpec S where
  other : ∀ v why {c : Call}, c.deletes = false → S.pre v (.call why c)

namespace Sparing

export Calm (ask flush query execute commit rollback add inSession inTransaction now epoch audit
  sendMessage read assign hold forget holdLoaded load getByKey acquire locked notify notifyOwners
  notifyOnce value positive graceHours timeThresholds trafficThresholds customerPanelUrl isDryRun
  warnAboutEntitlement clearDeletion loadCached warnDue finishDeletion reconcilePlisio getReseller
  isMember refuse dryRunTrial finishTrial ifOwner ownerCommand answered lockAndReconcile)

variable {V : Type} {S : Spec Ev Resp V} [DeleteSpec S] {cfg : Settings} {batchSize : ℕ}

theorem call (why : Cause) {c : Call} (h : c.deletes = false) : Safe S (call why c) :=
  Calm.call why fun v => DeleteSpec.other v why h

theorem getAdmin (username : Option String) : Safe S (getAdmin username) := call _ rfl

theorem listAdminUsers (username : Option String) : Safe S (listAdminUsers username) := call _ rfl

/-! ## Resellers -/

theorem reenableChild (live : Admin) (now : Datetime) (ep : ℕ) (cached : ResellerUserCache) :
    Safe S (reenableChild live now ep cached) := by
  refine (holdLoaded Slot.user ep cached).bind fun _ => (call _ rfl).bind fun child => ?_
  cases child with
  | none => exact Safe.pure ()
  | some child =>
    exact Safe.ite ((call _ rfl).bind fun _ => assign Slot.user _) (Safe.pure ())

theorem reenableChildren (live : Admin) (now : Datetime) (reseller : Reseller) :
    Safe S (reenableChildren cfg live now reseller) :=
  Safe.ite ((query _).bind fun rows => epoch.bind fun ep =>
    Safe.forEach (reenableChild live now ep) rows) (Safe.pure ())

theorem disableChildren (live : Admin) (reseller : Reseller) :
    Safe S (disableChildren live reseller) :=
  (call _ rfl).bind fun _ => (execute _).bind fun _ => Safe.pure ()

theorem expireReseller (live : Admin) (reseller : Reseller) :
    Safe S (expireReseller cfg live reseller) := by
  refine Safe.ite (Safe.pure ()) (Safe.ite (audit _ _ _) ?_)
  refine (call _ rfl).bind fun _ => (call _ rfl).bind fun usersToo => ?_
  refine (Safe.when fun _ => disableChildren live reseller).bind fun _ => ?_
  refine (getAdmin _).bind fun verified => Safe.ite ?_ (audit _ _ _)
  exact (assign Slot.reseller _).bind fun _ => (audit _ _ _).bind fun _ => (notify _).bind fun _ =>
    Safe.pure ()

theorem syncReseller (now : Datetime) (times traffics : List ℤ) (ep : ℕ) (row : Reseller) :
    Safe S (syncReseller cfg now times traffics ep row) := by
  refine (holdLoaded Slot.reseller ep row).bind fun _ => Safe.ite (Safe.pure ()) ?_
  refine (getAdmin _).attempt.bind fun r => ?_
  match r with
  | .error _ => exact audit _ _ _
  | .ok none => exact Safe.pure ()
  | .ok (some live) =>
    refine (assign Slot.reseller _).bind fun _ => (warnAboutEntitlement _ _ _ _ _).bind fun _ => ?_
    refine (read Slot.reseller).bind fun reseller => ?_
    exact Safe.ite (reenableChildren live now reseller) (expireReseller live reseller)

theorem syncResellers : Safe S (syncResellers cfg batchSize) :=
  (query _).bind fun rows => epoch.bind fun ep => now.bind fun now => timeThresholds.bind fun times =>
    trafficThresholds.bind fun traffics => Safe.forEach (syncReseller now times traffics ep) rows

/-! ## Users -/

theorem disableVerified (username : String) : Safe S (disableVerified username) :=
  (call _ rfl).bind fun _ => (call _ rfl).bind fun _ => Safe.pure _

theorem enableVerified (username : String) : Safe S (enableVerified username) :=
  (call _ rfl).bind fun _ => (call _ rfl).bind fun _ => Safe.pure _

theorem announceDeletion (chat : ℤ) : Safe S (announceDeletion chat) :=
  (audit _ _ _).bind fun _ => (notify _).bind fun _ => Safe.pure ()

theorem scheduleDeletion (reseller : Reseller) (live : User) (now : Datetime) (graceHours : ℤ) :
    Safe S (scheduleDeletion cfg reseller live now graceHours) := by
  refine (assign Slot.user _).bind fun _ => (Safe.outcome _).bind fun deadline => ?_
  refine (assign Slot.user _).bind fun _ => Safe.ite ?_ (announceDeletion _)
  refine (disableVerified _).bind fun disabled => Safe.ite ?_ (audit _ _ _)
  exact (assign Slot.user _).bind fun _ => announceDeletion _

theorem cancelDeletion (reseller : Reseller) (live : User) (cached : ResellerUserCache) :
    Safe S (cancelDeletion cfg reseller live cached) :=
  Safe.ite ((enableVerified _).bind fun _ => Safe.ite clearDeletion (audit _ _ _)) clearDeletion

theorem syncUser (reseller : Reseller) (now : Datetime) (graceHours : ℤ) (live : User) :
    Safe S (syncUser cfg reseller now graceHours live) := by
  refine Safe.ite (Safe.pure ()) ?_
  refine (loadCached reseller live).bind fun _ => (assign Slot.user _).bind fun _ => ?_
  refine (read Slot.user).bind fun cached => Safe.ite ?_ ?_
  · exact Safe.when fun _ => scheduleDeletion reseller live now graceHours
  · exact Safe.when fun _ => cancelDeletion reseller live cached

theorem syncUsersOf (now : Datetime) (graceHours : ℤ) (ep : ℕ) (row : Reseller) :
    Safe S (syncUsersOf cfg batchSize now graceHours ep row) := by
  refine (holdLoaded Slot.reseller ep row).bind fun _ => Safe.ite (Safe.pure ()) ?_
  refine (listAdminUsers _).attempt.bind fun r => ?_
  cases r with
  | error _ => exact Safe.pure ()
  | ok users => exact Safe.forEach (syncUser row now graceHours) _

theorem syncUsers : Safe S (syncUsers cfg batchSize) :=
  (query _).bind fun rows => epoch.bind fun ep => now.bind fun now => graceHours.bind fun hours =>
    Safe.forEach (syncUsersOf now hours ep) rows

/-! ## Orders -/

theorem disableUnsafe (why : Cause) (username : Option String) :
    Safe S (disableUnsafe why username) :=
  (call why rfl).attempt.bind fun _ => Safe.pure ()

theorem provision (why : Cause) (username : Option String) (password : String)
    (want : Entitlement) (telegramId : Option ℤ) : Safe S (provision why username password want telegramId) := by
  have hwrite : ∀ payload live, Safe S (writeAdmin why username payload live) := by
    intro payload live
    cases live with
    | none => exact call why rfl
    | some live =>
      exact Safe.ite ((disableUnsafe why username).bind fun _ => Safe.raise _) (call why rfl)
  have hverify : ∀ live, Safe S (verifyAdmin why username want live) := by
    intro live
    unfold verifyAdmin
    cases verifyEntitlement live username want with
    | ok a => exact Safe.pure a
    | error e =>
      exact Safe.ite ((disableUnsafe why username).bind fun _ => Safe.raise e) (Safe.raise e)
  exact (getAdmin _).bind fun live => (hwrite _ live).bind fun _ => (getAdmin _).bind hverify

theorem finishProvisioning (username : String) : Safe S (finishProvisioning username) := by
  refine (read Slot.product).bind fun _ => (assign Slot.reseller _).bind fun _ => ?_
  refine (assign Slot.order _).bind fun _ => now.bind fun _ => (assign Slot.order _).bind fun _ => ?_
  refine (getAdmin _).bind fun live => ?_
  cases live with
  | none => exact Safe.raise _
  | some live =>
    exact (read Slot.order).bind fun _ => (assign Slot.order _).bind fun _ => audit _ _ _

theorem provisionOrder : Safe S (provisionOrder cfg) := by
  refine (read Slot.order).bind fun order => (read Slot.reseller).bind fun reseller => ?_
  split
  · exact Safe.raise _
  · exact Safe.raise _
  · refine (ask (e := .token _) rfl).bind fun _ => Safe.ite (Safe.raise _) ?_
    refine (provision _ _ _ _ _).bind fun _ => (assign Slot.order _).bind fun _ => ?_
    refine commit.bind fun _ => customerPanelUrl.bind fun _ => (notify _).bind fun _ => ?_
    exact Safe.ite (finishProvisioning _) (Safe.raise _)

omit [DeleteSpec S] in
theorem failOrder {α : Type} (e : Err) : Safe S (failOrder e : Bot α) :=
  (assign Slot.order _).bind fun _ => Safe.raise e

theorem performTarget (live : Admin) (target : Snapshot) (t : Datetime) :
    Safe S (performTarget live target t) := by
  refine (read Slot.order).bind fun order => (read Slot.reseller).bind fun reseller => ?_
  refine Safe.ite (Safe.raise _) ?_
  have hwrite : ∀ why username paused, Safe S (writeTarget why username target paused) :=
    fun why username paused => (call why rfl).bind fun _ => Safe.when fun _ => call why rfl
  refine (hwrite _ _ _).attempt.bind fun r => ?_
  cases r with
  | error e => exact failOrder e
  | ok _ =>
    refine (getAdmin _).bind fun verified => Safe.ite ?_ (failOrder _)
    refine (assign Slot.reseller _).bind fun _ => (read Slot.product).bind fun _ => ?_
    exact (assign Slot.reseller _).bind fun _ => (assign Slot.order _).bind fun _ => Safe.pure true

theorem applyLive (order : Order) (live : Admin) (t : Datetime) :
    Safe S (applyLive order live t ResellerBot.commit) := by
  unfold ResellerBot.applyLive
  cases order.target with
  | none =>
    refine (read Slot.product).bind fun _ => (Safe.outcome _).bind fun target => ?_
    exact (assign Slot.order _).bind fun _ => commit.bind fun _ => performTarget live target t
  | some target =>
    cases order.beforeSnapshot with
    | none => exact failOrder _
    | some before =>
      refine Safe.ite ?_ (Safe.ite (performTarget live target t) (failOrder _))
      exact (assign Slot.order _).bind fun _ => (assign Slot.reseller _).bind fun _ => Safe.pure true

theorem applyOrderLocked (t : Datetime) : Safe S (applyOrderLocked t ResellerBot.commit) := by
  refine (read Slot.order).bind fun order => Safe.ite (Safe.pure false) ?_
  refine (read Slot.reseller).bind fun reseller => Safe.ite (Safe.pure false) ?_
  refine (getAdmin _).bind fun live => ?_
  cases live with
  | none => exact Safe.raise _
  | some live => exact applyLive order live t

theorem reconcileOrders : Safe S (reconcileOrders cfg batchSize) := by
  have hone : Safe S (reconcileOrder cfg) := Calm.reconcileOrder
    (Calm.applyPaid (Calm.reserveUsername getAdmin) provisionOrder applyOrderLocked)
  refine locked _ _ fun won => Safe.when fun _ => ?_
  refine (forget Slot.reseller).bind fun _ => (forget Slot.product).bind fun _ => ?_
  exact (query _).bind fun rows => epoch.bind fun ep =>
    Safe.forEach (lockAndReconcile hone ep) rows

theorem reconcilePaidOrders : Safe S (reconcilePaidOrders cfg batchSize) :=
  inSession (reconcileOrders.bind fun _ => commit)

/-! ## Trials -/

theorem reserveTrial (telegramId : ℤ) (username : String) (hours : ℤ) :
    Safe S (reserveTrial telegramId username hours) := by
  refine now.bind fun _ => (Safe.outcome _).bind fun _ => (hold Slot.trial _).bind fun _ => ?_
  refine flush.attempt.bind fun r => ?_
  cases r with
  | ok _ => exact Safe.pure true
  | error e => exact Safe.ite (rollback.bind fun _ => Safe.pure false) (Safe.raise e)

theorem reserveTrialName (userId : ℤ) (name : Option String) :
    Safe S (reserveTrialName cfg userId name) := by
  have htry : Safe S (tryTrialCandidate name) := by
    refine Safe.bind (Safe.bind (ask rfl) fun _ => Safe.pure _) fun _ => ?_
    refine (query _).bind fun _ => (query _).bind fun _ => Safe.ite (Safe.pure none) ?_
    refine (getAdmin _).bind fun live => ?_
    cases live with
    | none => exact Safe.pure _
    | some _ => exact Safe.pure none
  refine (Safe.searchFor htry 100).bind fun r => ?_
  cases r with
  | none => exact Safe.raise _
  | some username =>
    refine (positive _ _).bind fun hours => (reserveTrial userId username hours).bind fun _ => ?_
    exact commit.bind fun _ => Safe.pure _

theorem provisionTrial (userId : ℤ) (record : TrialRecord) (password : String)
    (services : List ServiceId) (trafficGb : ℤ) :
    Safe S (provisionTrial userId record password services trafficGb) := by
  refine (provision _ _ _ _ _).bind fun _ => Safe.bind ?_ fun _ =>
    (assign Slot.trial _).bind fun _ => commit
  refine (load Slot.reseller (query _)).bind fun r => ?_
  cases r with
  | some _ => exact assign Slot.reseller _
  | none => exact Safe.pure ()

theorem failTrial (userId : ℤ) (e : Err) : Safe S (failTrial cfg userId e) :=
  (assign Slot.trial _).bind fun _ => commit.bind fun _ =>
    (Safe.when fun _ => Safe.forEach sendMessage _).bind fun _ => sendMessage userId

theorem continueTrial (userId : ℤ) (reserved : Bool) :
    Safe S (continueTrial cfg userId reserved) := by
  refine (query _).bind fun services => (positive _ _).bind fun trafficGb => Safe.ite ?_ (Safe.raise _)
  refine (read Slot.trial).bind fun record => (ask (e := .token _) rfl).bind fun password => ?_
  refine (provisionTrial userId record password _ trafficGb).attempt.bind fun r => ?_
  cases r with
  | ok _ => exact Safe.pure true
  | error e => exact (failTrial userId e).bind fun _ => Safe.pure false

theorem startTrial (userId : ℤ) (name : Option String) : Safe S (startTrial cfg userId name) := by
  refine (load Slot.trial (query _)).bind fun r => ?_
  cases r with
  | none => exact (reserveTrialName userId name).bind fun reserved => continueTrial userId reserved
  | some record => exact Safe.ite (continueTrial userId true) (refuse userId)

theorem runTrial (userId : ℤ) (name : Option String) : Safe S (runTrial cfg userId name) := by
  have hsession : Safe S (trialSession cfg userId name) := by
    refine (query _).bind fun channels => (isMember userId channels).bind fun joined => ?_
    refine (query _).bind fun enabled => Safe.ite (refuse userId) (Safe.ite (refuse userId) ?_)
    exact (isDryRun cfg).bind fun _ => Safe.ite (dryRunTrial userId) (startTrial userId name)
  refine (inSession hsession).bind fun deliver => Safe.ite ?_ (Safe.pure ())
  refine (sendMessage userId).attempt.bind fun r => ?_
  cases r with
  | ok _ => exact finishTrial userId
  | error _ => exact Safe.pure ()

/-! ## Owners -/

theorem resellerDisable (userId : ℤ) (resellerId : ℕ) :
    Safe S (resellerDisable cfg userId resellerId) := by
  refine ownerCommand fun _ => (inTransaction ((getReseller resellerId).bind fun r => ?_)).bind
    fun done => Safe.when fun _ => sendMessage userId
  cases r with
  | none => exact answered userId
  | some row =>
    refine Safe.ite (answered userId) ((assign Slot.reseller _).bind fun _ => ?_)
    refine Safe.bind (Safe.ite (audit _ _ _) ?_) fun _ => Safe.pure true
    exact (call _ rfl).bind fun _ => call _ rfl

theorem enableReseller (userId : ℤ) (row : Reseller) : Safe S (enableReseller userId row) :=
  (call _ rfl).bind fun _ => (getAdmin _).bind fun _ =>
    Safe.ite ((assign Slot.reseller _).bind fun _ => Safe.pure true) (answered userId)

theorem resellerEnable (userId : ℤ) (resellerId : ℕ) :
    Safe S (resellerEnable cfg userId resellerId) := by
  refine ownerCommand fun _ => (inTransaction ((getReseller resellerId).bind fun r => ?_)).bind
    fun done => Safe.when fun _ => sendMessage userId
  cases r with
  | none => exact answered userId
  | some row =>
    exact Safe.ite (answered userId) (Safe.ite (answered userId) (enableReseller userId row))

theorem consoleDisable (userId : ℤ) (row : Reseller) : Safe S (consoleDisable userId row) :=
  (call _ rfl).bind fun _ => (getAdmin _).bind fun _ =>
    Safe.ite ((assign Slot.reseller _).bind fun _ => Safe.pure true) (answered userId)

/-- The buttons of the console. -/
theorem stateChange {action : Reseller → Bot Bool} (userId : ℤ) (resellerId : ℕ)
    (h : ∀ row, Safe S (action row)) : Safe S (ResellerBot.ifOwner cfg userId do
      let done ← ResellerBot.inTransaction (stateChangeTransaction cfg userId resellerId action)
      Act.when done (ResellerBot.sendMessage userId)) := by
  refine ifOwner fun _ => (inTransaction ?_).bind fun _ => Safe.when fun _ => sendMessage userId
  refine (getReseller resellerId).bind fun row => (isDryRun cfg).bind fun _ => ?_
  refine Safe.ite (answered userId) ?_
  cases row with
  | none => exact Safe.raise _
  | some row => exact Safe.ite (answered userId) (h row)

end Sparing

end ResellerBot
