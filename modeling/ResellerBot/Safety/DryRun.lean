import ResellerBot.Safety.Quiet
import ResellerBot.Safety.Handlers

/-!
# ResellerBot.Safety.DryRun — which tasks heed the dry-run mode

The mode is an override in the database before the flag `dryRun` of the environment.  Orders,
trials and the console read the mode; the lifecycle jobs, the suspension commands and the deletion
of a user read the flag alone.
-/

open Interact

namespace ResellerBot

open Act (Safe SafeWith)

variable {cfg : Settings} {batchSize : ℕ}

namespace Quiet

export Calm (getReseller isMember refuse dryRunTrial finishTrial start receipt callback ifOwner
  ownerCommand approve cardReject orderReject orderRetry answered resellerHold)

/-! ## Resellers and users -/

section Flag

variable (h : cfg.dryRun = true)
include h

theorem reenableChildren (live : Admin) (now : Datetime) (reseller : Reseller) :
    Quiet cfg (reenableChildren cfg live now reseller) := by
  unfold ResellerBot.reenableChildren
  rw [if_neg fun hn => hn.2 h]
  exact Safe.pure ()

theorem expireReseller (live : Admin) (reseller : Reseller) :
    Quiet cfg (expireReseller cfg live reseller) := by
  unfold ResellerBot.expireReseller
  split_ifs with hs hd
  · exact Safe.pure ()
  · exact audit _ _ _
  · exact absurd (.inl h) hd

theorem syncReseller (now : Datetime) (times traffics : List ℤ) (ep : ℕ) (row : Reseller) :
    Quiet cfg (syncReseller cfg now times traffics ep row) := by
  refine (holdLoaded Slot.reseller ep row).bind fun _ => ?_
  split_ifs
  · exact Safe.pure ()
  · refine (getAdmin _).attempt.bind fun r => ?_
    match r with
    | .error _ => exact audit _ _ _
    | .ok none => exact Safe.pure ()
    | .ok (some live) =>
      refine (assign Slot.reseller _).bind fun _ => (warnAboutEntitlement _ _ _ _ _).bind fun _ => ?_
      refine (read Slot.reseller).bind fun reseller => ?_
      split_ifs
      · exact expireReseller h live reseller
      · exact reenableChildren h live now reseller

theorem scheduleDeletion (reseller : Reseller) (live : User) (now : Datetime) (graceHours : ℤ) :
    Quiet cfg (scheduleDeletion cfg reseller live now graceHours) := by
  refine (assign Slot.user _).bind fun _ => (Safe.outcome _).bind fun deadline => ?_
  refine (assign Slot.user _).bind fun _ => ?_
  rw [if_neg fun hn => hn.1 h]
  exact (audit _ _ _).bind fun _ => (notify _).bind fun _ => Safe.pure ()

theorem cancelDeletion (reseller : Reseller) (live : User) (cached : ResellerUserCache) :
    Quiet cfg (cancelDeletion cfg reseller live cached) := by
  unfold ResellerBot.cancelDeletion
  rw [if_neg fun hn => hn.2.2 h]
  exact clearDeletion

theorem syncUser (reseller : Reseller) (now : Datetime) (graceHours : ℤ) (live : User) :
    Quiet cfg (syncUser cfg reseller now graceHours live) := by
  unfold ResellerBot.syncUser
  by_cases hv : verifiedOwner live reseller.rebeccaAdminUsername
  · rw [if_neg (not_not.mpr hv)]
    refine (loadCached reseller live).bind fun _ => (assign Slot.user _).bind fun _ => ?_
    refine (read Slot.user).bind fun cached => ?_
    split_ifs
    · exact Safe.when fun _ => scheduleDeletion h reseller live now graceHours
    · exact Safe.when fun _ => cancelDeletion h reseller live cached
  · rw [if_pos hv]
    exact Safe.pure ()

theorem syncUsersOf (now : Datetime) (graceHours : ℤ) (ep : ℕ) (row : Reseller) :
    Quiet cfg (syncUsersOf cfg batchSize now graceHours ep row) := by
  refine (holdLoaded Slot.reseller ep row).bind fun _ => ?_
  split_ifs
  · exact Safe.pure ()
  · refine (listAdminUsers _).attempt.bind fun r => ?_
    cases r with
    | error _ => exact Safe.pure ()
    | ok users => exact Safe.forEach (fun live => syncUser h row now graceHours live) _

theorem safeDelete (username owner : String) (deleteAfter : Stamp) (now : Datetime)
    (d a hold locked : Bool) :
    Quiet cfg (safeDelete username owner deleteAfter now ⟨cfg.dryRun, d, a⟩ hold locked) := by
  refine SafeWith.bind (Q := fun refused => refused ≠ none)
    (SafeWith.outcome fun refused hr hn => ?_) fun refused hr => ?_
  · obtain ⟨-, -, hdry, -⟩ := deleteRefused_none_iff.mp (hn ▸ hr)
    exact absurd h (Bool.eq_false_iff.mp hdry)
  · cases refused with
    | some _ => exact Safe.pure _
    | none => exact absurd rfl hr

theorem dueDeletion (zoned : Bool) (now : Datetime) (ep : ℕ) (row : ResellerUserCache) :
    Quiet cfg (dueDeletion cfg zoned now ep row) := by
  refine (holdLoaded Slot.user ep row).bind fun _ => ?_
  refine (getByKey Slot.reseller _ _ (query _)).bind fun r => ?_
  cases r with
  | none => exact Safe.pure ()
  | some reseller =>
    dsimp only
    cases row.deleteAfter with
    | none => exact Safe.raise _
    | some deadline =>
      refine (warnDue reseller row (readBack zoned deadline) now).bind fun _ => ?_
      refine (safeDelete h _ _ _ _ _ _ _ _).bind fun result => (audit _ _ _).bind fun _ => ?_
      exact finishDeletion reseller result

end Flag

/-- A loop over rows: quiet rounds, or no rows at all. -/
theorem forRows {β : Type} {f : β → Bot Unit} {rows : List β}
    (hf : cfg.dryRun = true → ∀ x, Quiet cfg (f x)) (h : cfg.dryRun = true ∨ rows = []) :
    Quiet cfg (Act.forEach f rows) := by
  rcases h with h | rfl
  · exact Safe.forEach (hf h) rows
  · exact Safe.pure ()

section Batch

variable (h : cfg.dryRun = true ∨ batchSize = 0)
include h

theorem noRows {β : Type} {rows xs : List β} (hr : xs.take batchSize = rows) :
    cfg.dryRun = true ∨ rows = [] :=
  h.imp_right fun h0 => by rw [← hr, h0, List.take_zero]

theorem syncResellers : Quiet cfg (syncResellers cfg batchSize) := by
  refine (query_with (.resellersNotSuspended batchSize)).bind ?_
  rintro rows ⟨T, -, hr⟩
  refine epoch.bind fun ep => now.bind fun now => timeThresholds.bind fun times => ?_
  refine trafficThresholds.bind fun traffics => ?_
  exact forRows (fun hd => syncReseller hd now times traffics ep) (noRows h hr)

theorem syncUsers : Quiet cfg (syncUsers cfg batchSize) := by
  refine (query_with (.resellers batchSize)).bind ?_
  rintro rows ⟨T, -, hr⟩
  refine epoch.bind fun ep => now.bind fun now => graceHours.bind fun hours => ?_
  exact forRows (fun hd => syncUsersOf hd now hours ep) (noRows h hr)

theorem dueDeletions (zoned : Bool) : Quiet cfg (dueDeletions cfg batchSize zoned) := by
  refine (forget Slot.reseller).bind fun _ => now.bind fun now => ?_
  refine (Safe.outcome _).bind fun until_ => (query_with (.usersDue until_ batchSize)).bind ?_
  rintro rows ⟨T, -, hr⟩
  exact epoch.bind fun ep => forRows (fun hd => dueDeletion hd zoned now ep) (noRows h hr)

end Batch

/-! ## Orders -/

/-- In dry-run mode an order is only recorded. -/
theorem reconcileOrder : Quiet cfg (reconcileOrder cfg) := by
  refine (read Slot.order).bind fun order => ?_
  refine (getByKey Slot.reseller _ _ (query _)).bind fun reseller => ?_
  refine (getByKey Slot.product _ _ (query _)).bind fun product => ?_
  split_ifs
  · exact audit _ _ _
  · refine isDryRun.bind fun dry hdry => ?_
    rw [hdry]
    exact audit _ _ _

theorem reconcileOrders : Quiet cfg (reconcileOrders cfg batchSize) := by
  refine locked _ _ fun won => Safe.when fun _ => ?_
  refine (forget Slot.reseller).bind fun _ => (forget Slot.product).bind fun _ => ?_
  refine (query _).bind fun rows => epoch.bind fun ep => ?_
  exact Safe.forEach (Calm.lockAndReconcile reconcileOrder ep) rows

theorem reconcilePaidOrders : Quiet cfg (reconcilePaidOrders cfg batchSize) :=
  inSession (reconcileOrders.bind fun _ => commit)

theorem run (h : cfg.dryRun = true ∨ batchSize = 0) : Quiet cfg (run cfg batchSize) := by
  refine inSession (locked _ _ fun won => Safe.when fun _ => ?_)
  refine (syncResellers h).bind fun _ => (syncUsers h).bind fun _ => ?_
  refine (dueDeletions h false).bind fun _ => ?_
  exact reconcileOrders.bind fun _ => (reconcilePlisio _ _).bind fun _ => commit

/-! ## Customers -/

/-- In dry-run mode a trial is only recorded. -/
theorem trialSession (userId : ℤ) (name : Option String) :
    Quiet cfg (trialSession cfg userId name) := by
  refine (query _).bind fun channels => (isMember userId channels).bind fun joined => ?_
  refine (query _).bind fun enabled => ?_
  split_ifs
  · exact refuse userId
  · refine isDryRun.bind fun dry hdry => ?_
    rw [hdry]
    exact dryRunTrial userId
  · exact refuse userId

theorem runTrial (userId : ℤ) (name : Option String) : Quiet cfg (runTrial cfg userId name) := by
  refine (inSession (trialSession userId name)).bind fun deliver => ?_
  split_ifs
  · refine (sendMessage userId).attempt.bind fun r => ?_
    cases r with
    | ok _ => exact finishTrial userId
    | error _ => exact Safe.pure ()
  · exact Safe.pure ()

/-! ## Owners -/

theorem resellerDisable {userId : ℤ} (resellerId : ℕ)
    (h : userId ∈ cfg.ownerIds → cfg.dryRun ∨ ¬cfg.allowDisableActions) :
    Quiet cfg (resellerDisable cfg userId resellerId) := by
  refine ownerCommand fun ho => (inTransaction ((getReseller resellerId).bind fun r => ?_)).bind
    fun done => Safe.when fun _ => sendMessage userId
  cases r with
  | none => exact answered userId
  | some row =>
    dsimp only
    split_ifs
    · refine (assign Slot.reseller _).bind fun _ => ?_
      unfold disableReseller
      rw [if_pos (h ho)]
      exact (audit _ _ _).bind fun _ => Safe.pure true
    · exact answered userId

theorem resellerEnable {userId : ℤ} (resellerId : ℕ)
    (h : userId ∈ cfg.ownerIds → cfg.dryRun ∨ ¬cfg.allowDisableActions) :
    Quiet cfg (resellerEnable cfg userId resellerId) := by
  refine ownerCommand fun ho => (inTransaction ((getReseller resellerId).bind fun r => ?_)).bind
    fun done => Safe.when fun _ => sendMessage userId
  cases r with
  | none => exact answered userId
  | some row =>
    dsimp only
    rw [if_pos (h ho)]
    split_ifs
    · exact answered userId
    · exact answered userId

/-- The console reads the mode. -/
theorem stateChange (userId : ℤ) (resellerId : ℕ) (action : Reseller → Bot Bool) :
    Quiet cfg (stateChangeTransaction cfg userId resellerId action) := by
  refine (getReseller resellerId).bind fun row => isDryRun.bind fun dry hdry => ?_
  rw [if_pos (.inl hdry)]
  exact answered userId

theorem resellerStateDisable (userId : ℤ) (resellerId : ℕ) :
    Quiet cfg (resellerStateDisable cfg userId resellerId) :=
  ifOwner fun _ => (inTransaction (stateChange userId resellerId _)).bind fun _ =>
    Safe.when fun _ => sendMessage userId

theorem resellerStateEnable (userId : ℤ) (resellerId : ℕ) :
    Quiet cfg (resellerStateEnable cfg userId resellerId) :=
  ifOwner fun _ => (inTransaction (stateChange userId resellerId _)).bind fun _ =>
    Safe.when fun _ => sendMessage userId

theorem userDeleteConfirm {userId : ℤ} (owner username : String)
    (h : userId ∈ cfg.ownerIds →
      cfg.dryRun ∨ ¬cfg.destructiveActions ∨ ¬cfg.allowDeleteActions) :
    Quiet cfg (userDeleteConfirm cfg userId owner username) := by
  refine ifOwner fun ho => ?_
  unfold deleteConfirmed
  rw [if_pos (h ho)]
  exact sendMessage userId

end Quiet

end ResellerBot
