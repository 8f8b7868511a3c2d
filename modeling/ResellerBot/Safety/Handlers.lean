import ResellerBot.Safety.Calm
import ResellerBot.System

/-!
# ResellerBot.Safety.Handlers — the handlers that call nobody

The handlers of customers and owners, and the Plisio callback, as far as Rebecca has no part in
them.
-/

open Interact

namespace ResellerBot

open Act (Safe SafeWith)

namespace Calm

variable {V : Type} {S : Spec Ev Resp V} [CallSpec S] {cfg : Settings}

/-! ## Customers -/

theorem getOrder (id : ℕ) : Safe S (getOrder id) := getByKey Slot.order _ _ (query _)

theorem getReseller (id : ℕ) : Safe S (getReseller id) := getByKey Slot.reseller _ _ (query _)

theorem getProduct (id : ℕ) : Safe S (getProduct id) := getByKey Slot.product _ _ (query _)

theorem isMember (userId : ℤ) (channels : List String) : Safe S (isMember userId channels) := by
  induction channels with
  | nil => exact Safe.pure true
  | cons channel channels ih =>
    refine (ask (e := .chatMember channel userId) rfl).bind fun status => ?_
    cases status with
    | error _ => exact Safe.pure false
    | ok s =>
      dsimp only
      split_ifs
      · exact Safe.pure false
      · exact ih

theorem refuse (chat : ℤ) : Safe S (refuse chat) := (sendMessage chat).bind fun _ => Safe.pure _

theorem dryRunTrial (userId : ℤ) : Safe S (dryRunTrial cfg userId) := by
  refine ((add _).bind fun _ => flush).bind fun _ => commit.bind fun _ => ?_
  exact (Safe.forEach sendMessage _).bind fun _ => refuse userId

theorem finishTrial (userId : ℤ) : Safe S (finishTrial userId) := by
  refine inTransaction ((load Slot.trial (query _)).bind fun r => ?_)
  cases r with
  | some record => exact assign Slot.trial _
  | none => exact Safe.pure ()

theorem start (userId : ℤ) (name : Option String) : Safe S (start cfg userId name) := by
  unfold ResellerBot.start
  split_ifs
  · exact (inSession (operationsMode cfg)).bind fun _ => sendMessage userId
  · refine Safe.bind (inTransaction ((load Slot.reseller (query _)).bind fun r => ?_)) fun _ =>
      sendMessage userId
    cases r with
    | none => exact add _
    | some row => exact assign Slot.reseller _

theorem receipt (chat : ℤ) (orderId : ℕ) (fileId : String) :
    Safe S (receipt cfg chat orderId fileId) := by
  refine (inTransaction ((getOrder orderId).bind fun order => ?_)).bind fun accepted => ?_
  · cases order with
    | none => exact Safe.raise _
    | some order =>
      refine (load Slot.payment (query _)).bind fun payment => ?_
      unfold acceptReceipt
      split_ifs
      · exact (sendMessage chat).bind fun _ => Safe.pure none
      · exact (assign Slot.order _).bind fun _ => Safe.raise _
      · refine (assign Slot.order _).bind fun _ => (assign Slot.payment _).bind fun _ => ?_
        exact (getReseller _).bind fun _ => (getProduct _).bind fun _ => Safe.pure _
  · match accepted with
    | none => exact Safe.pure ()
    | some false => exact Safe.raise _
    | some true => exact (Safe.forEach sendMessage _).bind fun _ => sendMessage chat

theorem settleCallback (order : Order) (p : Callback) : Safe S (settleCallback order p) := by
  unfold ResellerBot.settleCallback
  split_ifs
  · exact Safe.pure _
  · exact Safe.pure _
  · exact Safe.raise _
  · refine (assign Slot.order _).bind fun _ => now.bind fun _ => (assign Slot.order _).bind fun _ => ?_
    exact (assign Slot.payment _).bind fun _ => Safe.pure _

theorem checkCallback (currency : String) (order : Order) (payment : Option Payment)
    (p : Callback) : Safe S (checkCallback currency order payment p) := by
  unfold ResellerBot.checkCallback
  cases payment.bind (·.plisioTxnId) with
  | none => exact Safe.raise _
  | some stored =>
    dsimp only
    split_ifs
    · exact Safe.raise _
    · exact Safe.raise _
    · refine (Safe.outcome _).bind fun text => ?_
      split_ifs
      · exact Safe.raise _
      · refine (Safe.outcome _).bind fun amount => (Safe.outcome _).bind fun same => ?_
        split_ifs
        · exact settleCallback order p
        · exact Safe.raise _

theorem callbackTransaction (currency number : String) (p : Callback) :
    Safe S (callbackTransaction currency number p) := by
  refine (load Slot.order (query _)).bind fun order => ?_
  cases order with
  | none => exact Safe.raise _
  | some order => exact (load Slot.payment (query _)).bind fun payment =>
      checkCallback currency order payment p

theorem callback (p : Callback) : Safe S (callback cfg p) := by
  unfold ResellerBot.callback
  split_ifs
  · refine (Safe.outcome _).bind fun number => ?_
    refine (inTransaction (callbackTransaction _ number p)).bind fun reply => ?_
    cases reply with
    | paid => exact (ask (e := .createTask) rfl).bind fun _ => Safe.pure _
    | _ => exact Safe.pure _
  · exact Safe.raise _

/-! ## Owners -/

theorem ifOwner {m : Bot Unit} {userId : ℤ} (h : userId ∈ cfg.ownerIds → Safe S m) :
    Safe S (ifOwner cfg userId m) := by
  unfold ResellerBot.ifOwner
  split_ifs with ho
  · exact h ho
  · exact sendMessage userId

omit [CallSpec S] in
theorem ownerCommand {m : Bot Unit} {userId : ℤ} (h : userId ∈ cfg.ownerIds → Safe S m) :
    Safe S (ownerCommand cfg userId m) :=
  Safe.when fun ho => h (of_decide_eq_true ho)

theorem tellCustomer (reseller : Option Reseller) : Safe S (tellCustomer reseller) := by
  cases reseller with
  | none => exact Safe.raise _
  | some r => exact sendMessage _

theorem decided (orderId : ℕ) : Safe S (decided orderId) := by
  refine (getOrder orderId).bind fun order => ?_
  cases order with
  | none => exact Safe.raise _
  | some order => exact getReseller _

theorem approve (userId : ℤ) (orderId : ℕ) : Safe S (approve cfg userId orderId) := by
  refine (inTransaction (now.bind fun now => (execute _).bind fun claimed => ?_)).bind fun r => ?_
  · refine (decided orderId).bind fun reseller => (isDryRun cfg).bind fun dryRun => Safe.pure _
  · obtain ⟨changed, reseller, dryRun⟩ := r
    refine (Safe.when fun _ => ?_).bind fun _ => sendMessage userId
    refine (tellCustomer reseller).bind fun _ => ?_
    refine (Safe.when fun _ => Safe.forEach sendMessage _).bind fun _ => ?_
    exact Safe.when fun _ => ask (e := .createTask) rfl

theorem cardReject (userId : ℤ) (orderId : ℕ) : Safe S (cardReject cfg userId orderId) := by
  refine ifOwner fun _ => (inTransaction ((getOrder orderId).bind fun order => ?_)).bind fun r => ?_
  · cases order with
    | none => exact Safe.raise _
    | some order =>
      dsimp only
      split_ifs
      · exact (sendMessage userId).bind fun _ => Safe.pure none
      · exact (assign Slot.order _).bind fun _ => (getReseller _).bind fun _ => Safe.pure _
  · cases r with
    | none => exact Safe.pure ()
    | some reseller => exact (sendMessage userId).bind fun _ => tellCustomer reseller

theorem orderReject (userId : ℤ) (orderId : ℕ) : Safe S (orderReject cfg userId orderId) := by
  refine ifOwner fun _ => (inTransaction ((execute _).bind fun claimed => ?_)).bind fun r => ?_
  · exact (decided orderId).bind fun _ => (query _).bind fun _ => Safe.pure _
  · obtain ⟨changed, reseller⟩ := r
    exact (Safe.when fun _ => tellCustomer reseller).bind fun _ => sendMessage userId

theorem orderRetry (userId : ℤ) (orderId : ℕ) : Safe S (orderRetry cfg userId orderId) := by
  refine ifOwner fun _ => (inTransaction ((getOrder orderId).bind fun order => ?_)).bind fun r => ?_
  · cases order with
    | none => exact Safe.raise _
    | some order =>
      dsimp only
      split_ifs
      · exact (assign Slot.order _).bind fun _ => (assign Slot.order _).bind fun _ => Safe.pure _
      · exact Safe.pure _
  · exact (Safe.when fun _ => ask (e := .createTask) rfl).bind fun _ => sendMessage userId

theorem answered (userId : ℤ) : Safe S (answered userId) := refuse userId

theorem resellerHold (userId : ℤ) (resellerId : ℕ) :
    Safe S (resellerHold cfg userId resellerId) := by
  refine ownerCommand fun _ => (inTransaction ((getReseller resellerId).bind fun r => ?_)).bind
    fun _ => sendMessage userId
  cases r with
  | none => exact Safe.pure ()
  | some row => exact assign Slot.reseller _

/-! ## Threads -/

omit [CallSpec S] in
theorem launch {α : Type} {m : Bot α} (h : Safe S m) (v : V) :
    Ok S (launch m) (fun _ _ => True) v :=
  (h.ok Session.empty v).bind fun _ _ _ => trivial

end Calm

end ResellerBot
