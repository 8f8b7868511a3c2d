import ResellerBot.Safety.Calm

/-!
# ResellerBot.Outage.Mute — the scheduler while its reads fail

In a run in which no admin, no list of users and no user can be read, the scheduler asks Rebecca for
nothing else.
-/

open Interact

namespace ResellerBot

open Act (Safe SafeWith Raises)

/-- Every call fails, and queries are answered from tables. -/
def Unheard : (e : Ev) → Resp e → Prop
  | .call _ _, r => ∃ e, r = .error e
  | .query q, r => ∀ a, r = .ok a → ∃ T, q.run T = a
  | _, _ => True

/-- Only the calls in `M` are made, and they fail. -/
def mute (M : Call → Prop) : Spec Ev Resp Unit where
  pre _
    | .call _ c => M c
    | _ => True
  next _ e r _ := Unheard e r

instance (M : Call → Prop) : CallSpec (mute M) where
  free _ e h := by
    cases e with
    | call => cases h
    | _ => trivial

variable {M : Call → Prop} {cfg : Settings} {batchSize : ℕ}

namespace Mute

export Calm (ask flush query execute commit rollback add inSession inTransaction now epoch audit
  sendMessage read assign hold forget holdLoaded load getByKey acquire locked notify notifyOwners
  notifyOnce value positive graceHours timeThresholds trafficThresholds customerPanelUrl
  warnAboutEntitlement clearDeletion loadCached warnDue finishDeletion reconcilePlisio)

theorem call_raises (why : Cause) {c : Call} (h : M c) : Raises (mute M) (call why c) := by
  have hask : SafeWith (mute M) (ResellerBot.ask (.call why c)) fun r => ∃ e, r = .error e :=
    SafeWith.request (fun _ => h) fun _ _ _ hn => hn
  refine hask.bindWith ?_
  rintro _ ⟨e, rfl⟩
  exact SafeWith.raise e

theorem query_with (q : Query) :
    SafeWith (mute M) (ResellerBot.query q) fun a => ∃ T, q.run T = a := by
  have hask : SafeWith (mute M) (ResellerBot.ask (.query q))
      fun r => ∀ a, r = .ok a → ∃ T, q.run T = a :=
    SafeWith.request (fun _ => trivial) fun _ _ _ hn => hn
  exact SafeWith.bindWith (Q := fun _ => True) flush fun _ _ =>
    hask.bindWith fun r hr => SafeWith.outcome hr

/-- A loop over no rows. -/
theorem noRows {β : Type} {f : β → Bot Unit} {rows xs : List β}
    (hf : batchSize ≠ 0 → ∀ x, Safe (mute M) (f x)) (hr : xs.take batchSize = rows) :
    Safe (mute M) (Act.forEach f rows) := by
  by_cases h : batchSize = 0
  · rw [← hr, h, List.take_zero]
    exact Safe.pure ()
  · exact Safe.forEach (hf h) rows

/-! ## The jobs -/

section Reads

variable (hA : ∀ username, M (.getAdmin username))
include hA

theorem syncReseller (now : Datetime) (times traffics : List ℤ) (ep : ℕ) (row : Reseller) :
    Safe (mute M) (syncReseller cfg now times traffics ep row) := by
  refine (holdLoaded Slot.reseller ep row).bind fun _ => ?_
  split_ifs
  · exact Safe.pure ()
  · exact Raises.attempt_bind (call_raises _ (hA _)) fun _ => audit _ _ _

theorem reserveUsername : Safe (mute M) reserveUsername :=
  Calm.reserveUsername fun _ => (call_raises _ (hA _)).safe

theorem provision_raises (why : Cause) (username : Option String) (password : String)
    (want : Entitlement) (telegramId : Option ℤ) :
    Raises (mute M) (provision why username password want telegramId) :=
  SafeWith.bindWith (call_raises _ (hA _)) fun _ h => h.elim

theorem provisionOrder : Safe (mute M) (provisionOrder cfg) := by
  refine (read Slot.order).bind fun order => (read Slot.reseller).bind fun reseller => ?_
  split
  · exact Safe.raise _
  · exact Safe.raise _
  · refine (ask (e := .token _) rfl).bind fun _ => ?_
    split_ifs
    · exact Safe.raise _
    · exact (provision_raises hA _ _ _ _ _).bind _

theorem applyOrderLocked (now : Datetime) (m : Bot Unit) :
    Safe (mute M) (applyOrderLocked now m) := by
  refine (read Slot.order).bind fun _ => Safe.ite (Safe.pure _) ?_
  refine (read Slot.reseller).bind fun _ => Safe.ite (Safe.pure _) ?_
  exact Raises.bind (call_raises _ (hA _)) _

theorem reconcileOrder : Safe (mute M) (reconcileOrder cfg) :=
  Calm.reconcileOrder (Calm.applyPaid (reserveUsername hA) (provisionOrder hA)
    fun now => applyOrderLocked hA now ResellerBot.commit)

end Reads

theorem syncUsersOf (hL : ∀ username, M (.listAdminUsers username)) (now : Datetime)
    (graceHours : ℤ) (ep : ℕ) (row : Reseller) :
    Safe (mute M) (syncUsersOf cfg batchSize now graceHours ep row) := by
  refine (holdLoaded Slot.reseller ep row).bind fun _ => ?_
  split_ifs
  · exact Safe.pure ()
  · exact Raises.attempt_bind (call_raises _ (hL _)) fun _ => Safe.pure ()

/-- A deadline without a time zone keeps `safe_delete` from its calls. -/
theorem dueDeletion (now : Datetime) (ep : ℕ) (row : ResellerUserCache) :
    Safe (mute M) (dueDeletion cfg false now ep row) := by
  have hdelete : ∀ username owner deadline policy hold locked,
      Safe (mute M) (safeDelete username owner (.naive deadline) now policy hold locked) := by
    intro username owner deadline policy hold locked
    refine SafeWith.bind (Q := fun refused => refused ≠ none)
      (SafeWith.outcome fun refused hr hn => ?_) fun refused hr => ?_
    · obtain ⟨-, ⟨t, ht, -⟩, -⟩ := deleteRefused_none_iff.mp (hn ▸ hr)
      cases ht
    · cases refused with
      | some result => exact Safe.pure result
      | none => exact absurd rfl hr
  refine (holdLoaded Slot.user ep row).bind fun _ => ?_
  refine (getByKey Slot.reseller _ _ (query _)).bind fun r => ?_
  cases r with
  | none => exact Safe.pure ()
  | some reseller =>
    dsimp only
    cases row.deleteAfter with
    | none => exact Safe.raise _
    | some deadline =>
      refine (warnDue reseller row (readBack false deadline) now).bind fun _ => ?_
      refine (hdelete _ _ _ _ _ _).bind fun result => (audit _ _ _).bind fun _ => ?_
      exact finishDeletion reseller result

/-- **A scheduler whose reads fail**, or that takes no items at all. -/
theorem run (h : batchSize ≠ 0 →
      (∀ username, M (.getAdmin username)) ∧ ∀ username, M (.listAdminUsers username)) :
    Safe (mute M) (run cfg batchSize) := by
  have hresellers : Safe (mute M) (syncResellers cfg batchSize) := by
    refine (query_with (.resellersNotSuspended batchSize)).bind ?_
    rintro rows ⟨T, hr⟩
    refine epoch.bind fun ep => now.bind fun now => timeThresholds.bind fun times => ?_
    refine trafficThresholds.bind fun traffics => ?_
    exact noRows (fun hb => syncReseller (h hb).1 now times traffics ep) hr
  have husers : Safe (mute M) (syncUsers cfg batchSize) := by
    refine (query_with (.resellers batchSize)).bind ?_
    rintro rows ⟨T, hr⟩
    refine epoch.bind fun ep => now.bind fun now => graceHours.bind fun hours => ?_
    exact noRows (fun hb => syncUsersOf (h hb).2 now hours ep) hr
  have hdue : Safe (mute M) (dueDeletions cfg batchSize false) := by
    refine (forget Slot.reseller).bind fun _ => now.bind fun now => (Safe.outcome _).bind fun t => ?_
    refine (query_with (.usersDue t batchSize)).bind ?_
    rintro rows ⟨T, hr⟩
    exact epoch.bind fun ep => Safe.forEach (dueDeletion now ep) rows
  have horders : Safe (mute M) (reconcileOrders cfg batchSize) := by
    refine locked _ _ fun won => Safe.when fun _ => ?_
    refine (forget Slot.reseller).bind fun _ => (forget Slot.product).bind fun _ => ?_
    refine (query_with (.openOrders batchSize)).bind ?_
    rintro rows ⟨T, hr⟩
    refine epoch.bind fun ep => noRows (fun hb row => ?_) hr
    exact Calm.lockAndReconcile (reconcileOrder (h hb).1) ep row
  refine inSession (locked _ _ fun won => Safe.when fun _ => ?_)
  refine hresellers.bind fun _ => husers.bind fun _ => hdue.bind fun _ => horders.bind fun _ => ?_
  exact (reconcilePlisio cfg batchSize).bind fun _ => commit

end Mute

end ResellerBot
