import ResellerBot.Children.Jobs
import ResellerBot.System

/-!
# ResellerBot.Children.Handlers — the handlers leave the flags of children alone
-/

open Interact

namespace ResellerBot

namespace Watch.Kept

variable {α : Type} {i : ℕ} {val : Bool → String → Prop} {cfg : Settings} {batchSize : ℕ}
  {userId : ℤ}

/-! ## Customers -/

theorem start {name : Option String} :
    (Watch.flags i val).Kept (ResellerBot.start cfg userId name) := by
  refine ite ((inSession operationsMode).bind fun _ => sendMessage _) (bind ?_ fun _ =>
    sendMessage _)
  refine inTransaction ((load Slot.reseller (query _)).bind fun row => ?_)
  cases row with
  | none => exact add trivial
  | some _ => exact assignReseller _

theorem getOrder {id : ℕ} : (Watch.flags i val).Kept (getOrder id) := getByKey _ _ _ (query _)

theorem getReseller {id : ℕ} : (Watch.flags i val).Kept (getReseller id) :=
  getByKey _ _ _ (query _)

theorem getProduct {id : ℕ} : (Watch.flags i val).Kept (getProduct id) := getByKey _ _ _ (query _)

theorem receipt {chat : ℤ} {orderId : ℕ} {fileId : String} :
    (Watch.flags i val).Kept (ResellerBot.receipt cfg chat orderId fileId) := by
  have htxn : (Watch.flags i val).Kept (receiptTransaction chat orderId fileId) := by
    refine getOrder.bind fun order => ?_
    cases order with
    | none => exact raise _
    | some order =>
      refine (load Slot.payment (query _)).bind fun _ => ite ?_ ?_
      · exact (sendMessage _).bind fun _ => pure _
      · refine (assignOrder _).bind fun _ => ite (raise _) ((assignPayment _).bind fun _ => ?_)
        exact getReseller.bind fun _ => getProduct.bind fun _ => pure _
  refine (inTransaction htxn).bind fun done => ?_
  rcases done with _ | _ | _
  · exact pure _
  · exact raise _
  · exact (sendMessages _).bind fun _ => sendMessage _

/-! ## Owners -/

theorem ifOwner {m : Bot Unit} (hm : (Watch.flags i val).Kept m) :
    (Watch.flags i val).Kept (ifOwner cfg userId m) := ite hm (sendMessage _)

theorem tellCustomer {reseller : Option Reseller} :
    (Watch.flags i val).Kept (tellCustomer reseller) := by
  cases reseller with
  | none => exact raise _
  | some _ => exact sendMessage _

theorem decided {orderId : ℕ} : (Watch.flags i val).Kept (decided orderId) := by
  refine getOrder.bind fun order => ?_
  cases order with
  | none => exact raise _
  | some _ => exact getReseller

theorem approve {orderId : ℕ} : (Watch.flags i val).Kept (approve cfg userId orderId) := by
  have htxn : (Watch.flags i val).Kept (approveTransaction cfg orderId) :=
    now.bind fun _ => (execute trivial rfl).bind fun _ => decided.bind fun _ =>
      isDryRun.bind fun _ => pure _
  refine (inTransaction htxn).bind fun r => bind (when ?_) fun _ => sendMessage _
  exact tellCustomer.bind fun _ => (when (sendMessages _)).bind fun _ => when createTask

theorem cardReject {orderId : ℕ} : (Watch.flags i val).Kept (cardReject cfg userId orderId) := by
  have htxn : (Watch.flags i val).Kept (cardRejectTransaction userId orderId) := by
    refine getOrder.bind fun order => ?_
    cases order with
    | none => exact raise _
    | some _ =>
      refine ite ((sendMessage _).bind fun _ => pure _) ?_
      exact (assignOrder _).bind fun _ => getReseller.bind fun _ => pure _
  refine ifOwner ((inTransaction htxn).bind fun r => ?_)
  cases r with
  | none => exact pure _
  | some _ => exact (sendMessage _).bind fun _ => tellCustomer

theorem orderReject {orderId : ℕ} : (Watch.flags i val).Kept (orderReject cfg userId orderId) := by
  have htxn : (Watch.flags i val).Kept (orderRejectTransaction orderId) :=
    (execute trivial rfl).bind fun _ => decided.bind fun _ => (query _).bind fun _ => pure _
  exact ifOwner ((inTransaction htxn).bind fun _ => (when tellCustomer).bind fun _ =>
    sendMessage _)

theorem orderRetry {orderId : ℕ} : (Watch.flags i val).Kept (orderRetry cfg userId orderId) := by
  have htxn : (Watch.flags i val).Kept (orderRetryTransaction orderId) := by
    refine getOrder.bind fun order => ?_
    cases order with
    | none => exact raise _
    | some _ =>
      exact ite ((assignOrder _).bind fun _ => (assignOrder _).bind fun _ => pure _) (pure _)
  exact ifOwner ((inTransaction htxn).bind fun _ => (when createTask).bind fun _ => sendMessage _)

/-! ## Suspension -/

variable {resellerId : ℕ}

theorem answered : (Watch.flags i val).Kept (answered userId) :=
  (sendMessage _).bind fun _ => pure _

theorem enableReseller (row : Reseller) : (Watch.flags i val).Kept (enableReseller userId row) := by
  refine (call _ _).bind fun _ => (call _ _).bind fun _ => ite ?_ answered
  exact (assignReseller _).bind fun _ => pure _

theorem resellerEnable : (Watch.flags i val).Kept (resellerEnable cfg userId resellerId) := by
  refine when ((inTransaction (getReseller.bind fun found => ?_)).bind fun _ =>
    when (sendMessage _))
  cases found with
  | none => exact answered
  | some row => exact ite answered (ite answered (enableReseller _))

theorem resellerDisable : (Watch.flags i val).Kept (resellerDisable cfg userId resellerId) := by
  refine when ((inTransaction (getReseller.bind fun found => ?_)).bind fun _ =>
    when (sendMessage _))
  cases found with
  | none => exact answered
  | some row =>
    refine ite answered ((assignReseller _).bind fun _ => bind ?_ fun _ => pure _)
    exact ite (audit _ _ _) ((call _ _).bind fun _ => call _ _)

theorem consoleDisable (row : Reseller) : (Watch.flags i val).Kept (consoleDisable userId row) := by
  refine (call _ _).bind fun _ => (call _ _).bind fun _ => ite ?_ answered
  exact (assignReseller _).bind fun _ => pure _

theorem stateChange {action : Reseller → Bot Bool}
    (h : ∀ row, (Watch.flags i val).Kept (action row)) :
    (Watch.flags i val).Kept (ResellerBot.ifOwner cfg userId do
      let done ← ResellerBot.inTransaction (stateChangeTransaction cfg userId resellerId action)
      Act.when done (ResellerBot.sendMessage userId)) := by
  refine ifOwner ((inTransaction ?_).bind fun _ => when (sendMessage _))
  refine getReseller.bind fun row => isDryRun.bind fun _ => ite answered ?_
  cases row with
  | none => exact raise _
  | some row => exact ite answered (h row)

theorem resellerHold : (Watch.flags i val).Kept (resellerHold cfg userId resellerId) := by
  refine when ((inTransaction (getReseller.bind fun found => ?_)).bind fun _ => sendMessage _)
  cases found with
  | none => exact pure _
  | some _ => exact assignReseller _

theorem userDeleteConfirm {owner username : String} :
    (Watch.flags i val).Kept (userDeleteConfirm cfg userId owner username) := by
  refine ifOwner (ite (sendMessage _) ((call _ _).bind fun live => ?_))
  cases live with
  | none => exact sendMessage _
  | some _ =>
    exact ite (sendMessage _) ((call _ _).bind fun _ => (call _ _).bind fun _ => sendMessage _)

/-! ## Callbacks -/

theorem settleCallback {order : Order} {p : Callback} :
    (Watch.flags i val).Kept (settleCallback order p) := by
  refine ite (pure _) (ite (pure _) (ite (raise _) ?_))
  exact (assignOrder _).bind fun _ => now.bind fun _ => (assignOrder _).bind fun _ =>
    (assignPayment _).bind fun _ => pure _

theorem checkCallback {currency : String} {order : Order} {payment : Option Payment}
    {p : Callback} : (Watch.flags i val).Kept (checkCallback currency order payment p) := by
  unfold ResellerBot.checkCallback
  cases payment.bind (·.plisioTxnId) with
  | none => exact raise _
  | some stored =>
    refine ite (raise _) (ite (raise _) ((outcome _).bind fun _ => ite (raise _) ?_))
    exact (outcome _).bind fun _ => (outcome _).bind fun _ => ite settleCallback (raise _)

theorem callback {p : Callback} : (Watch.flags i val).Kept (callback cfg p) := by
  refine ite (raise _) ((outcome _).bind fun number => (inTransaction ?_).bind fun reply => ?_)
  · refine (load Slot.order (query _)).bind fun order => ?_
    cases order with
    | none => exact raise _
    | some _ => exact (load Slot.payment (query _)).bind fun _ => checkCallback
  · cases reply with
    | paid => exact createTask.bind fun _ => pure _
    | notPaid | idempotent => exact pure _

/-! ## Trials -/

theorem isMember (channels : List String) :
    (Watch.flags i val).Kept (isMember userId channels) := by
  induction channels with
  | nil => exact pure _
  | cons channel channels ih =>
    refine (tick (fun _ _ => rfl) fun _ _ _ => rfl).bind fun status => ?_
    cases status with
    | error _ => exact pure _
    | ok _ => exact ite (pure _) ih

theorem tryTrialCandidate (name : Option String) :
    (Watch.flags i val).Kept (tryTrialCandidate name) := by
  refine (drawCandidate _).bind fun _ => (query _).bind fun _ => (query _).bind fun _ => ?_
  refine ite (pure _) ((call _ _).bind fun live => ?_)
  cases live with
  | none => exact pure _
  | some _ => exact pure _

theorem reserveTrial {username : String} {hours : ℤ} :
    (Watch.flags i val).Kept (reserveTrial userId username hours) := by
  refine now.bind fun _ => (outcome _).bind fun _ => bind (hold Slot.trial ?_) fun _ =>
    flush.attempt.bind fun r => ?_
  · intro st hst
    rw [List.mem_singleton.mp hst]
    trivial
  · cases r with
    | ok _ => exact pure _
    | error _ => exact ite (rollback.bind fun _ => pure _) (raise _)

theorem reserveTrialName (name : Option String) :
    (Watch.flags i val).Kept (reserveTrialName cfg userId name) := by
  refine (searchFor (tryTrialCandidate name) 100).bind fun username => ?_
  cases username with
  | none => exact raise _
  | some _ =>
    exact (positive _ _).bind fun _ => reserveTrial.bind fun _ => commit.bind fun _ => pure _

theorem assignTrialReseller {record : TrialRecord} {trafficGb : ℤ} :
    (Watch.flags i val).Kept (assignTrialReseller userId record trafficGb) := by
  refine (load Slot.reseller (query _)).bind fun row => ?_
  cases row with
  | none => exact pure _
  | some _ => exact assignReseller _

theorem failTrial (e : Err) : (Watch.flags i val).Kept (failTrial cfg userId e) :=
  (assignTrial _).bind fun _ => commit.bind fun _ => (when (sendMessages _)).bind fun _ =>
    sendMessage _

theorem deliverableTrial {services : List ServiceId} {trafficGb : ℤ} :
    (Watch.flags i val).Kept (deliverableTrial cfg userId services trafficGb) := by
  refine (read Slot.trial).bind fun _ => (generatePassword _).bind fun _ =>
    bind (attempt ?_) fun r => ?_
  · exact (provision _ _ _ _ _).bind fun _ => assignTrialReseller.bind fun _ =>
      (assignTrial _).bind fun _ => commit
  · cases r with
    | ok _ => exact pure _
    | error _ => exact (failTrial _).bind fun _ => pure _

theorem continueTrial {isReserved : Bool} :
    (Watch.flags i val).Kept (continueTrial cfg userId isReserved) :=
  (query _).bind fun _ => (positive _ _).bind fun _ => ite deliverableTrial (raise _)

theorem startTrial (name : Option String) :
    (Watch.flags i val).Kept (startTrial cfg userId name) := by
  refine (load Slot.trial (query _)).bind fun record => ?_
  cases record with
  | none => exact (reserveTrialName name).bind fun _ => continueTrial
  | some _ => exact ite continueTrial ((sendMessage _).bind fun _ => pure _)

theorem dryRunTrial : (Watch.flags i val).Kept (dryRunTrial cfg userId) :=
  bind (bind (add trivial) fun _ => flush) fun _ => commit.bind fun _ =>
    (sendMessages _).bind fun _ => (sendMessage _).bind fun _ => pure _

theorem runTrial (name : Option String) : (Watch.flags i val).Kept (runTrial cfg userId name) := by
  have hrefuse : (Watch.flags i val).Kept (refuse userId) := (sendMessage _).bind fun _ => pure _
  have htrial : (Watch.flags i val).Kept (trialSession cfg userId name) :=
    (query _).bind fun _ => (isMember _).bind fun _ => (query _).bind fun _ =>
      ite hrefuse (ite hrefuse (isDryRun.bind fun _ => ite dryRunTrial (startTrial name)))
  have hfinish : (Watch.flags i val).Kept (finishTrial userId) := by
    refine inTransaction ((load Slot.trial (query _)).bind fun record => ?_)
    cases record with
    | none => exact pure _
    | some _ => exact assignTrial _
  refine (inSession htrial).bind fun _ => ite ?_ (pure _)
  refine (sendMessage _).attempt.bind fun r => ?_
  cases r with
  | ok _ => exact hfinish
  | error _ => exact pure _

end Watch.Kept

/-! ## Every task but the run of the scheduler -/

/-- The world after a task has been left alone with it. -/
def Around.follow (ar : Around) (p : Prog Ev Resp Unit) (w : Place) : Place :=
  (p.eval ar.react w.enter).2.leave

section Tasks

variable {ar : Around} {w : Place} {i : ℕ}

theorem follow_launch {α : Type} (m : Bot α) : ar.follow (launch m) w = ar.after m w := by
  rw [Around.follow, launch, Prog.eval_bind]
  rfl

theorem flagged_after {α : Type} {m : Bot α}
    (hm : (Watch.flags i fun _ => Flagged w.tables i).Kept m) :
    Flagged (ar.follow (launch m) w).tables i = Flagged w.tables i := by
  have hstill : (Watch.flags i fun _ => Flagged w.tables i).Still Session.empty (w.enter, []) :=
    ⟨rfl, rfl, trivial, by rintro _ ⟨⟩⟩
  have h := Act.Holds.run (hm ar) hstill
  rw [Act.run_logging] at h
  rw [follow_launch]
  unfold Around.after
  rcases hr : Act.run ar.react Session.empty w.enter m with ⟨⟨e | _, s⟩, t⟩
  · rw [hr] at h
    exact h.committed
  · rw [hr] at h
    exact h.committed

/-- **Only the run of the scheduler changes the flags of children.** -/
theorem flagged_task (cfg : Settings) (batchSize : ℕ) {t : Task} (h : t ≠ .run) :
    Flagged (ar.follow (t.prog cfg batchSize) w).tables i = Flagged w.tables i := by
  cases t with
  | run => exact absurd rfl h
  | reconcilePaidOrders =>
    exact flagged_after (.inSession (.bind .reconcileOrders fun _ => .commit))
  | runTrial userId name => exact flagged_after (.runTrial name)
  | start userId name => exact flagged_after .start
  | receipt chat orderId fileId => exact flagged_after .receipt
  | cardApprove userId orderId => exact flagged_after (.ifOwner .approve)
  | cardReject userId orderId => exact flagged_after .cardReject
  | orderApprove userId orderId => exact flagged_after (.ifOwner .approve)
  | orderReject userId orderId => exact flagged_after .orderReject
  | orderRetry userId orderId => exact flagged_after .orderRetry
  | callback p => exact flagged_after .callback
  | resellerDisable userId id => exact flagged_after .resellerDisable
  | resellerEnable userId id => exact flagged_after .resellerEnable
  | resellerStateDisable userId id => exact flagged_after (.stateChange .consoleDisable)
  | resellerStateEnable userId id => exact flagged_after (.stateChange .enableReseller)
  | resellerHold userId id => exact flagged_after .resellerHold
  | userDeleteConfirm userId owner username => exact flagged_after .userDeleteConfirm

end Tasks

end ResellerBot
