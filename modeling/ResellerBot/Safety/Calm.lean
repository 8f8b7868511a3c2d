import ResellerBot.Scheduler.Jobs

/-!
# ResellerBot.Safety.Calm — the code that calls nobody

A specification of the calls to Rebecca allows every other request.  The operations of the session,
the locks, the messages and the settings are safe under any such specification.
-/

open Interact

namespace ResellerBot

def Ev.isCall : Ev → Bool
  | .call _ _ => true
  | _ => false

/-- A specification that is about calls only. -/
class CallSpec {V : Type} (S : Spec Ev Resp V) : Prop where
  free : ∀ v {e : Ev}, e.isCall = false → S.pre v e

namespace Calm

open Act (Safe)

variable {V α : Type} {S : Spec Ev Resp V}

/-! ## The objects of a session -/

theorem add (st : Stmt) : Safe S (add st) := Safe.modify _

theorem epoch : Safe S epoch := Safe.state.bind fun _ => Safe.pure _

theorem audit (action result : String) (orderId : Option ℕ) : Safe S (audit action result orderId) :=
  add _

theorem call (why : Cause) {c : Call} (h : ∀ v, S.pre v (.call why c)) : Safe S (call why c) :=
  (Safe.request h).bind fun _ => Safe.outcome _

section Slots

variable {β : Type} (sl : Slot β)

theorem read : Safe S sl.read := by
  refine Safe.state.bind fun s => ?_
  cases sl.get s with
  | some ob => exact Safe.pure _
  | none => exact Safe.raise _

theorem assign (f : β → β) : Safe S (sl.assign f) := Safe.modify _

theorem hold (ob : Obj β) : Safe S (sl.hold ob) := Safe.modify _

theorem forget : Safe S sl.forget := Safe.modify _

theorem holdLoaded (ep : ℕ) (row : β) : Safe S (sl.holdLoaded ep row) := by
  refine Safe.state.bind fun s => ?_
  split_ifs
  · exact hold sl _
  · exact Safe.raise _
  · exact Safe.raise _

theorem load {select : Bot (Option β)} (h : Safe S select) : Safe S (sl.load select) := by
  refine h.bind fun r => ?_
  cases r with
  | some row => exact (hold sl _).bind fun _ => Safe.pure _
  | none => exact Safe.pure _

theorem getByKey (key : β → ℕ) (i : ℕ) {select : Bot (Option β)} (h : Safe S select) :
    Safe S (sl.getByKey key i select) := by
  refine Safe.state.bind fun s => ?_
  cases sl.get s with
  | none => exact load sl h
  | some ob =>
    dsimp only
    split_ifs
    · exact Safe.pure _
    · exact load sl h

end Slots

theorem clearDeletion : Safe S clearDeletion := (assign Slot.user _).bind fun _ => audit _ _ _

/-! ## Sessions -/

variable [CallSpec S]

theorem ask {e : Ev} (h : e.isCall = false) : Safe S (ResellerBot.ask e) :=
  Safe.request fun v => CallSpec.free v h

theorem flush : Safe S flush := by
  unfold ResellerBot.flush
  refine Safe.state.bind fun s => ?_
  split_ifs
  · exact Safe.raise _
  · exact Safe.modify _
  · refine (ask rfl).bind fun r => ?_
    cases r with
    | ok _ => exact Safe.modify _
    | error e => exact (Safe.modify _).bind fun _ => Safe.raise _

theorem query (q : Query) : Safe S (query q) :=
  flush.bind fun _ => (ask (e := .query q) rfl).bind fun _ => Safe.outcome _

theorem execute (st : Stmt) : Safe S (execute st) :=
  flush.bind fun _ => (ask (e := .execute st) rfl).bind fun _ => Safe.outcome _

theorem commit : Safe S commit := by
  unfold ResellerBot.commit
  refine flush.bind fun _ => (ask (e := .commit) rfl).bind fun r => ?_
  cases r with
  | ok _ => exact Safe.pure _
  | error e => exact (Safe.modify _).bind fun _ => Safe.raise _

theorem rollback : Safe S rollback := (ask (e := .rollback) rfl).bind fun _ => Safe.modify _

theorem inSession {m : Bot α} (hm : Safe S m) : Safe S (inSession m) :=
  (Safe.modify _).bind fun _ => hm.attempt.bind fun r => rollback.bind fun _ => Safe.outcome r

theorem inTransaction {m : Bot α} (hm : Safe S m) : Safe S (inTransaction m) :=
  inSession (hm.bind fun _ => commit.bind fun _ => Safe.pure _)

theorem now : Safe S now := ask (e := .now) rfl

theorem sendMessage (chat : ℤ) : Safe S (sendMessage chat) :=
  (ask (e := .send chat) rfl).bind fun _ => Safe.outcome _

/-! ## Locks, messages and settings -/

theorem acquire (key : String) (ttl : ℤ) : Safe S (acquire key ttl) := by
  refine now.bind fun _ => (execute _).bind fun _ => (Safe.outcome _).bind fun _ => ?_
  refine (add _).bind fun _ => flush.attempt.bind fun r => ?_
  cases r with
  | ok _ => exact Safe.pure _
  | error e =>
    dsimp only
    split_ifs
    · exact rollback.bind fun _ => Safe.pure _
    · exact Safe.raise _

theorem locked (key : String) (ttl : ℤ) {body : Bool → Bot Unit} (h : ∀ won, Safe S (body won)) :
    Safe S (locked key ttl body) :=
  (acquire key ttl).bind fun won => (h won).attempt.bind fun r =>
    (Safe.when fun _ => (execute _).bind fun _ => Safe.pure _).bind fun _ => Safe.outcome r

theorem notify (chat : ℤ) : Safe S (notify chat) := by
  refine (sendMessage chat).attempt.bind fun r => ?_
  cases r with
  | ok _ => exact Safe.pure _
  | error e => exact Safe.pure _

theorem notifyOwners (ownerIds : List ℤ) : Safe S (notifyOwners ownerIds) :=
  Safe.forEach (fun _ => (notify _).bind fun _ => Safe.pure _) _

theorem notifyOnce (chat : ℤ) (w : WarningEvent) : Safe S (notifyOnce chat w) := by
  refine (query _).bind fun sent => ?_
  cases sent with
  | true => exact Safe.pure _
  | false => exact (notify chat).bind fun _ => Safe.when fun _ => add _

theorem value (key : String) (default : SettingValue) :
    Safe S (RuntimeSettings.value key default) :=
  (query _).bind fun _ => Safe.pure _

theorem positive (key : String) (default : ℤ) : Safe S (RuntimeSettings.positive key default) := by
  refine (value _ _).bind fun v => (Safe.outcome _).bind fun n => ?_
  split_ifs
  · exact Safe.pure _
  · exact Safe.raise _

theorem graceHours : Safe S (RuntimeSettings.graceHours cfg) := by
  refine (value _ _).bind fun v => (Safe.outcome _).bind fun n => ?_
  split_ifs
  · exact Safe.pure _
  · exact Safe.raise _

theorem timeThresholds : Safe S (RuntimeSettings.timeThresholds cfg) :=
  (value _ _).bind fun _ => Safe.outcome _

theorem trafficThresholds : Safe S (RuntimeSettings.trafficThresholds cfg) := by
  refine (value _ _).bind fun v => (Safe.outcome _).bind fun ns => ?_
  split_ifs
  · exact Safe.raise _
  · exact Safe.pure _

theorem customerPanelUrl : Safe S RuntimeSettings.customerPanelUrl := by
  refine (query (.setting "customer_panel_url")).bind fun v => ?_
  cases v with
  | none => exact Safe.pure _
  | some v =>
    dsimp only
    generalize String.ofList (strip isSpace v.str.toList) = url
    exact Safe.ite (Safe.pure _) (Safe.ite (Safe.pure _) (Safe.raise _))

theorem operationsMode (cfg : Settings) : Safe S (RuntimeSettings.operationsMode cfg) := by
  refine (query (.setting "operations_mode")).bind fun v => ?_
  split
  · exact Safe.pure _
  · exact Safe.ite (Safe.pure _) (Safe.raise _)
  · exact Safe.raise _
  · exact Safe.raise _

theorem isDryRun (cfg : Settings) : Safe S (RuntimeSettings.isDryRun cfg) :=
  (operationsMode cfg).bind fun _ => Safe.pure _

/-! ## Parts of the jobs -/

theorem warnReseller (chat : ℤ) (live : Admin) (kind : String) (threshold : Option ℤ) :
    Safe S (warnReseller chat live kind threshold) := by
  cases threshold with
  | some t => exact notifyOnce chat _
  | none => exact Safe.pure ()

theorem warnAboutEntitlement (chat : ℤ) (live : Admin) (now : Datetime) (times traffics : List ℤ) :
    Safe S (warnAboutEntitlement chat live now times traffics) :=
  (warnReseller _ _ _ _).bind fun _ => warnReseller _ _ _ _

theorem loadCached (reseller : Reseller) (live : User) : Safe S (loadCached reseller live) := by
  refine (load Slot.user (query _)).bind fun r => ?_
  cases r with
  | some u => exact Safe.pure ()
  | none => exact hold Slot.user _

theorem warnDue (reseller : Reseller) (cached : ResellerUserCache) (deadline : Stamp)
    (now : Datetime) : Safe S (warnDue reseller cached deadline now) := by
  refine (Safe.outcome _).bind fun left => ?_
  split_ifs
  · refine (notify _).bind fun b => ?_
    split_ifs
    · exact assign Slot.user _
    · exact Safe.pure ()
  · exact Safe.pure ()

theorem finishDeletion (reseller : Reseller) (result : DeleteResult) :
    Safe S (finishDeletion reseller result) := by
  cases result with
  | DELETED => exact (assign Slot.user _).bind fun _ => (notify _).bind fun _ => Safe.pure ()
  | _ => exact Safe.pure ()

theorem settlePlisio (order : Order) (remote : Operation) : Safe S (settlePlisio order remote) := by
  refine (assign Slot.payment _).bind fun _ => ?_
  split_ifs
  · refine (assign Slot.order _).bind fun _ => now.bind fun _ => ?_
    exact (assign Slot.order _).bind fun _ => audit _ _ _
  · exact Safe.pure ()

theorem reconcilePlisioOrder (ep : ℕ) (row : Order × Payment) :
    Safe S (reconcilePlisioOrder ep row) := by
  refine (holdLoaded Slot.order ep row.1).bind fun _ => ?_
  refine (holdLoaded Slot.payment ep row.2).bind fun _ => ?_
  split
  · exact Safe.pure ()
  · exact Safe.pure ()
  · refine (ask (e := .transaction _) rfl).bind fun remote => ?_
    cases remote with
    | error _ => exact audit _ _ _
    | ok remote =>
      refine (Safe.outcome _).bind fun valid => ?_
      split_ifs
      · exact settlePlisio _ _
      · exact audit _ _ _

theorem reconcilePlisio (cfg : Settings) (batchSize : ℕ) : Safe S (reconcilePlisio cfg batchSize) := by
  unfold ResellerBot.reconcilePlisio
  split_ifs
  · exact Safe.pure ()
  · exact (query _).bind fun rows => epoch.bind fun ep => Safe.forEach (reconcilePlisioOrder ep) rows

/-! ## Orders, given that their calls are safe -/

section Orders

variable {cfg : Settings} {batchSize : ℕ}

theorem availableUsername (h : ∀ username, Safe S (getAdmin username)) (name : Option String) :
    Safe S (availableUsername name) := by
  have htry : Safe S (tryCandidate name) := by
    refine Safe.bind (Safe.bind (ask rfl) fun _ => Safe.pure _) fun _ => (query _).bind fun taken => ?_
    split_ifs
    · exact Safe.pure none
    · refine (h _).bind fun live => ?_
      cases live with
      | none => exact Safe.pure _
      | some _ => exact Safe.pure none
  refine (Safe.searchFor htry 100).bind fun r => ?_
  cases r with
  | some _ => exact Safe.pure _
  | none => exact Safe.raise _

theorem reserveUsername (h : ∀ username, Safe S (getAdmin username)) : Safe S reserveUsername := by
  refine (read Slot.reseller).bind fun reseller => (availableUsername h _).bind fun username => ?_
  refine (assign Slot.reseller _).bind fun _ => (assign Slot.order _).bind fun _ => ?_
  refine now.bind fun _ => (read Slot.product).bind fun _ => (Safe.outcome _).bind fun _ => ?_
  exact (assign Slot.order _).bind fun _ => commit

theorem applyOrder {now : Datetime} {m : Bot Unit} (h : Safe S (applyOrderLocked now m)) :
    Safe S (applyOrder now m) :=
  (read Slot.order).bind fun _ => (ask (e := .lock _) rfl).bind fun _ =>
    h.attempt.bind fun _ => (ask (e := .unlock _) rfl).bind fun _ => Safe.outcome _

theorem applyPaid (hr : Safe S ResellerBot.reserveUsername) (hp : Safe S (provisionOrder cfg))
    (ha : ∀ now, Safe S (applyOrderLocked now ResellerBot.commit)) : Safe S (applyPaid cfg) := by
  refine (read Slot.reseller).bind fun _ => ?_
  refine (Safe.when fun _ => hr).bind fun _ => (read Slot.reseller).bind fun _ => ?_
  split_ifs
  · exact hp.bind fun _ => Safe.pure _
  · exact now.bind fun t => (applyOrder (ha t)).bind fun _ => Safe.pure _

theorem reportPaid (r : Except Err (Option Bool)) : Safe S (reportPaid cfg r) := by
  match r with
  | .error _ => exact (read Slot.order).bind fun _ => (audit _ _ _).bind fun _ => notifyOwners _
  | .ok (some true) =>
    refine (read Slot.order).bind fun _ => (read Slot.reseller).bind fun _ => ?_
    exact (audit _ _ _).bind fun _ => (notify _).bind fun _ => Safe.pure _
  | .ok (some false) => exact Safe.pure _
  | .ok none => exact Safe.pure _

theorem reconcileOrder (h : Safe S (ResellerBot.applyPaid cfg)) : Safe S (reconcileOrder cfg) := by
  refine (read Slot.order).bind fun order => ?_
  refine (getByKey Slot.reseller _ _ (query _)).bind fun reseller => ?_
  refine (getByKey Slot.product _ _ (query _)).bind fun product => ?_
  split_ifs
  · exact audit _ _ _
  · refine (isDryRun cfg).bind fun dry => Safe.ite (audit _ _ _) ?_
    exact h.attempt.bind fun r => reportPaid r

theorem lockAndReconcile (h : Safe S (ResellerBot.reconcileOrder cfg)) (ep : ℕ) (row : Order) :
    Safe S (lockAndReconcile cfg ep row) :=
  (holdLoaded Slot.order ep row).bind fun _ => locked _ _ fun _ => Safe.when fun _ => h

end Orders

end Calm

end ResellerBot
