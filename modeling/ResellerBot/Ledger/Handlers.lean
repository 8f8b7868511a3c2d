import ResellerBot.Ledger.Objects

/-!
# ResellerBot.Ledger.Handlers — customers, owners, trials and callbacks keep the ledger
-/

open Interact Growth

namespace ResellerBot

/-! ## Rows that the handlers change -/

theorem filled_of_truthy {name : Option String} (h : truthy name = true) : Filled name := by
  cases name with
  | none => cases h
  | some _ => rfl

theorem suspended_evolves (r : Reseller) : r.Evolves (suspended r) :=
  { Reseller.Evolves.refl r with status := .inr trivial }

theorem resumed_evolves (r : Reseller) : r.Evolves (resumed r) :=
  { Reseller.Evolves.refl r with status := .inr trivial }

theorem trialReseller_evolves {record : TrialRecord} (h : Filled record.adminUsername)
    (trafficGb : ℤ) (r : Reseller) : r.Evolves (trialReseller record trafficGb r) :=
  { Reseller.Evolves.refl r with
    rebeccaAdminUsername := .inr h
    status := .inr trivial
    trial := .inr rfl
    trialUsed := .inr rfl }

theorem trialStatus_evolves {status : TrialStatus} (h : status ≠ .RESERVED) (t : TrialRecord) :
    t.Evolves (trialStatus status t) :=
  { TrialRecord.Evolves.refl t with status := .inr h }

/-- An order whose status is changed and which has the times that go with the new one. -/
theorem status_evolves {status : OrderStatus} (h : status.Entered) (o : Order) :
    o.Evolves { o with status := status } :=
  { Order.Evolves.refl o with status := .inr h }

theorem lawful_approve (id : ℕ) (now : Datetime) (v : Sight) :
    (Stmt.claimOrder id .PAID (some now)).Lawful v :=
  ⟨trivial, by simp, fun _ => rfl⟩

theorem lawful_reject (id : ℕ) (v : Sight) : (Stmt.claimOrder id .REJECTED none).Lawful v :=
  ⟨trivial, by simp, False.elim⟩

namespace Abides

variable {α : Type} {P : Session → Sight → Prop} {M : Needs} {cfg : Settings} {userId : ℤ}

/-! ## Customers -/

theorem safe_sendMessage {chat : ℤ} : Act.Safe ledger (ResellerBot.sendMessage chat) :=
  (Act.Safe.request fun _ => trivial).bind fun _ => Act.Safe.outcome _

theorem safe_inSession {m : Bot α} (hm : Abides (Tidy .any) m fun _ => Tidy .any) :
    Act.Safe ledger (ResellerBot.inSession m) :=
  (inSession (R := fun _ => True) (hm.post fun _ _ _ h => ⟨trivial, h⟩)).safe

theorem safe_inTransaction {m : Bot α} (hm : Abides (Tidy .any) m fun _ => Tidy .any) :
    Act.Safe ledger (ResellerBot.inTransaction m) :=
  (inTransaction (R := fun _ => True) (hm.post fun _ _ _ h => ⟨trivial, h⟩)).safe

theorem FoundOrder.any {row : Option Order} {s : Session} {v : Sight} (h : FoundOrder M row s v) :
    Tidy .any s v := by
  cases row with
  | none => exact Tidy.any h
  | some _ => exact Tidy.any h

theorem FoundReseller.any {row : Option Reseller} {s : Session} {v : Sight}
    (h : FoundReseller M row s v) : Tidy .any s v := by
  cases row with
  | none => exact Tidy.any h
  | some _ => exact Tidy.any h

theorem startCustomer {name : Option String} :
    Act.Safe ledger (ResellerBot.startCustomer userId name) := by
  refine safe_inTransaction ((loadReseller queryResellerByTelegram).bind fun row => ?_)
  cases row with
  | none => exact add fun _ h => absurd rfl h
  | some r =>
    refine assignReseller (B := fun _ => True) (fun r => ?_) (fun _ _ h => h) fun _ _ => trivial
    exact { Reseller.Evolves.refl r with }

theorem start {name : Option String} : Act.Safe ledger (ResellerBot.start cfg userId name) := by
  refine Act.Safe.ite ?_ (startCustomer.bind fun _ => safe_sendMessage)
  exact (safe_inSession operationsMode).bind fun _ => safe_sendMessage

/-- The rows that the caption of a receipt needs. -/
theorem captionRows {order : Order} : Abides (Tidy .any) (do
    let reseller ← ResellerBot.getReseller order.resellerId
    let product ← ResellerBot.getProduct order.productId
    Pure.pure (some (reseller.isSome && product.isSome))) fun _ => Tidy .any :=
  (getReseller.post fun _ _ _ h => FoundReseller.any h).bind fun _ =>
    getProduct.bind fun _ => .pure fun _ _ h => h

theorem acceptReceipt {chat : ℤ} {fileId : String} {order : Order} {payment : Option Payment} :
    Abides (Tidy .any) (ResellerBot.acceptReceipt chat fileId order payment) fun _ =>
      Tidy .any := by
  refine ite (fun _ => (sendMessage fun _ _ h => h).bind fun _ => .pure fun _ _ h => h) fun _ => ?_
  refine bind (assignOrder (A := .any) (fun o => status_evolves (by trivial) o)
    (fun _ _ _ => ⟨False.elim, fun h => nomatch h⟩) fun _ _ => trivial) fun _ => ?_
  refine ite (fun _ => .raise fun _ _ h => h.any) fun _ => ?_
  refine bind (assignPayment (C := fun _ => True) (fun p _ => ?_) fun _ _ => trivial) fun _ =>
    captionRows
  exact { Payment.Evolves.refl p with telegramFileId := .inr rfl }

theorem receipt {chat : ℤ} {orderId : ℕ} {fileId : String} :
    Act.Safe ledger (ResellerBot.receipt cfg chat orderId fileId) := by
  have htxn : Abides (Tidy .any) (ResellerBot.receiptTransaction chat orderId fileId)
      fun _ => Tidy .any := by
    refine (getOrder.post fun _ _ _ h => FoundOrder.any h).bind fun order => ?_
    cases order with
    | none => exact .raise fun _ _ h => h
    | some order =>
      exact (load queryTidy (fun _ => holdPayment (C := fun _ => True) trivial) fun _ _ h => h).bind
        fun _ => acceptReceipt
  refine (safe_inTransaction htxn).bind fun done => ?_
  rcases done with _ | _ | _
  · exact .pure _
  · exact .raise _
  · exact (Act.Safe.forEach (fun _ => safe_sendMessage) _).bind fun _ => safe_sendMessage

/-! ## Owners -/

theorem decided {orderId : ℕ} :
    Abides (Tidy .any) (ResellerBot.decided orderId) fun _ => Tidy .any := by
  refine (getOrder.post fun _ _ _ h => FoundOrder.any h).bind fun order => ?_
  cases order with
  | none => exact .raise fun _ _ h => h
  | some order => exact getReseller.post fun _ _ _ h => FoundReseller.any h

theorem safe_createTask : Act.Safe ledger (ResellerBot.ask .createTask) :=
  Act.Safe.request fun _ => trivial

theorem tellCustomer {reseller : Option Reseller} :
    Act.Safe ledger (ResellerBot.tellCustomer reseller) := by
  cases reseller with
  | none => exact .raise _
  | some _ => exact safe_sendMessage

theorem ifOwner {m : Bot Unit} (hm : Act.Safe ledger m) :
    Act.Safe ledger (ResellerBot.ifOwner cfg userId m) :=
  Act.Safe.ite hm safe_sendMessage

theorem ownerCommand {m : Bot Unit} (hm : Act.Safe ledger m) :
    Act.Safe ledger (ResellerBot.ownerCommand cfg userId m) :=
  Act.Safe.when fun _ => hm

theorem approve {orderId : ℕ} : Act.Safe ledger (ResellerBot.approve cfg userId orderId) := by
  have htxn : Abides (Tidy .any) (ResellerBot.approveTransaction cfg orderId) fun _ => Tidy .any :=
    now.bind fun t => (execute (lawful_approve orderId t)).bind fun _ =>
      decided.bind fun _ => isDryRun.bind fun _ => .pure fun _ _ h => h
  refine (safe_inTransaction htxn).bind fun r => ?_
  refine (Act.Safe.when fun _ => ?_).bind fun _ => safe_sendMessage
  exact tellCustomer.bind fun _ => (Act.Safe.when fun _ =>
    Act.Safe.forEach (fun _ => safe_sendMessage) _).bind fun _ =>
      Act.Safe.when fun _ => safe_createTask

theorem cardReject {orderId : ℕ} : Act.Safe ledger (ResellerBot.cardReject cfg userId orderId) := by
  have htxn : Abides (Tidy .any) (ResellerBot.cardRejectTransaction userId orderId)
      fun _ => Tidy .any := by
    refine (getOrder.post fun _ _ _ h => FoundOrder.any h).bind fun order => ?_
    cases order with
    | none => exact .raise fun _ _ h => h
    | some order =>
      refine ite (fun _ => (sendMessage fun _ _ h => h).bind fun _ => .pure fun _ _ h => h)
        fun _ => ?_
      refine bind (assignOrder (A := .any) (fun o => status_evolves (by trivial) o)
        (fun _ _ _ => ⟨False.elim, fun h => nomatch h⟩) fun _ _ => trivial) fun _ => ?_
      exact (getReseller.post fun _ _ _ h => FoundReseller.any h).bind fun _ => .pure fun _ _ h => h
  refine ifOwner ((safe_inTransaction htxn).bind fun r => ?_)
  cases r with
  | none => exact .pure _
  | some _ => exact safe_sendMessage.bind fun _ => tellCustomer

theorem orderReject {orderId : ℕ} :
    Act.Safe ledger (ResellerBot.orderReject cfg userId orderId) := by
  have htxn : Abides (Tidy .any) (ResellerBot.orderRejectTransaction orderId) fun _ => Tidy .any :=
    (execute (lawful_reject orderId)).bind fun _ => decided.bind fun _ =>
      queryTidy.bind fun _ => .pure fun _ _ h => h
  exact ifOwner ((safe_inTransaction htxn).bind fun r =>
    (Act.Safe.when fun _ => tellCustomer).bind fun _ => safe_sendMessage)

/-- A failed order goes back to `PAID` only with the payment time that it has. -/
theorem orderRetry {orderId : ℕ} : Act.Safe ledger (ResellerBot.orderRetry cfg userId orderId) := by
  have htxn :
      Abides (Tidy .any) (ResellerBot.orderRetryTransaction orderId) fun _ => Tidy .any := by
    refine getOrder.bind fun order => ?_
    cases order with
    | none => exact .raise fun _ _ h => h
    | some order =>
      refine ite (fun hretry => ?_) fun _ => .pure fun _ _ h => h.any
      refine bind (assignOrder (A := .any) (fun o => status_evolves (by trivial) o) ?_
        fun _ _ => trivial) fun _ => bind (assignOrder (A := .any) (fun o => ?_) (fun _ _ h => ?_)
        fun _ _ => trivial) fun _ => .pure fun _ _ h => h
      · rintro ob (rfl : ob.cur = order) _
        exact ⟨fun _ => hretry.2, fun h => nomatch h⟩
      · exact { Order.Evolves.refl o with }
      · exact ⟨h.paidAt, h.appliedAt⟩
  exact ifOwner ((safe_inTransaction htxn).bind fun r =>
    (Act.Safe.when fun _ => safe_createTask).bind fun _ => safe_sendMessage)

/-! ## Suspension -/

theorem answered : Abides (Tidy .any) (ResellerBot.answered userId) fun _ => Tidy .any :=
  (sendMessage fun _ _ h => h).bind fun _ => .pure fun _ _ h => h

/-- The reseller in the variable is the one that has been found. -/
abbrev Chosen (row : Reseller) : Needs := { Needs.any with reseller := (· = row) }

/-- A suspended reseller has an admin, as it had before. -/
theorem suspend {row : Reseller} (hname : Filled row.rebeccaAdminUsername) :
    Abides (Tidy (Chosen row)) (Slot.reseller.assign suspended) fun _ => Tidy .any := by
  refine assignReseller (B := fun _ => True) suspended_evolves ?_ fun _ _ => trivial
  rintro r rfl - -
  exact hname

theorem resume {row : Reseller} (hname : row.Proper → Filled row.rebeccaAdminUsername) :
    Abides (Tidy (Chosen row)) (Slot.reseller.assign resumed) fun _ => Tidy .any := by
  refine assignReseller (B := fun _ => True) resumed_evolves ?_ fun _ _ => trivial
  rintro r rfl hproper -
  exact hname hproper

theorem disableReseller {row : Reseller} {username : String} :
    Abides (Tidy .any) (ResellerBot.disableReseller cfg row username) fun _ => Tidy .any := by
  refine ite (fun _ => audit) fun _ => ?_
  exact (call (fun _ _ _ => by trivial) fun _ _ h => h).bind fun _ =>
    call (fun _ _ _ => by trivial) fun _ _ h => h

theorem resellerDisable {resellerId : ℕ} :
    Act.Safe ledger (ResellerBot.resellerDisable cfg userId resellerId) := by
  have htxn : Abides (Tidy .any) (ResellerBot.resellerDisableTransaction cfg userId resellerId)
      fun _ => Tidy .any := by
    refine getReseller.bind fun row => ?_
    cases row with
    | none => exact answered
    | some row =>
      refine ite (fun _ => answered.pre fun _ _ h => h.any) fun hname => ?_
      rw [Bool.not_eq_true, Bool.not_eq_false] at hname
      exact (suspend (filled_of_truthy hname)).bind fun _ => disableReseller.bind fun _ =>
        .pure fun _ _ h => h
  exact ownerCommand ((safe_inTransaction htxn).bind fun _ =>
    Act.Safe.when fun _ => safe_sendMessage)

theorem enableReseller {row : Reseller} (hname : row.Proper → Filled row.rebeccaAdminUsername) :
    Abides (Tidy (Chosen row)) (ResellerBot.enableReseller userId row) fun _ => Tidy .any := by
  refine (call (fun _ _ _ => by trivial) fun _ _ h => h.any).bind fun _ => ?_
  refine (getAdmin fun _ _ h => h.any).bind fun live => ?_
  refine ite (fun _ => (resume hname).bind fun _ => .pure fun _ _ h => h) fun _ => ?_
  exact answered.pre fun _ _ h => h.any

theorem resellerEnable {resellerId : ℕ} :
    Act.Safe ledger (ResellerBot.resellerEnable cfg userId resellerId) := by
  have htxn : Abides (Tidy .any) (ResellerBot.resellerEnableTransaction cfg userId resellerId)
      fun _ => Tidy .any := by
    refine getReseller.bind fun row => ?_
    cases row with
    | none => exact answered
    | some row =>
      refine ite (fun _ => answered.pre fun _ _ h => h.any) fun hstatus => ?_
      refine ite (fun _ => answered.pre fun _ _ h => h.any) fun _ => enableReseller fun h => h ?_
      rw [not_not.mp hstatus]
      decide
  exact ownerCommand ((safe_inTransaction htxn).bind fun _ =>
    Act.Safe.when fun _ => safe_sendMessage)

theorem consoleDisable {row : Reseller} (hname : Filled row.rebeccaAdminUsername) :
    Abides (Tidy (Chosen row)) (ResellerBot.consoleDisable userId row) fun _ => Tidy .any := by
  refine (call (fun _ _ _ => by trivial) fun _ _ h => h.any).bind fun _ => ?_
  refine (getAdmin fun _ _ h => h.any).bind fun live => ?_
  refine ite (fun _ => (suspend hname).bind fun _ => .pure fun _ _ h => h) fun _ => ?_
  exact answered.pre fun _ _ h => h.any

/-- The switches of the console, around an action that needs an admin. -/
theorem stateChange {resellerId : ℕ} {action : Reseller → Bot Bool}
    (haction : ∀ row, Filled row.rebeccaAdminUsername →
      Abides (Tidy (Chosen row)) (action row) fun _ => Tidy .any) :
    Act.Safe ledger (ResellerBot.ifOwner cfg userId do
      let done ← ResellerBot.inTransaction (stateChangeTransaction cfg userId resellerId action)
      Act.when done (ResellerBot.sendMessage userId)) := by
  have htxn : Abides (Tidy .any) (stateChangeTransaction cfg userId resellerId action)
      fun _ => Tidy .any := by
    refine getReseller.bind fun row => ?_
    cases row with
    | none =>
      refine isDryRun.bind fun dry => ite (fun _ => answered) fun _ => .raise fun _ _ h => h
    | some row =>
      refine Abides.bind (isDryRun (M := Chosen row)) fun dry => ?_
      refine ite (fun _ => answered.pre fun _ _ h => h.any) fun _ => ?_
      refine ite (fun _ => answered.pre fun _ _ h => h.any) fun hname => ?_
      rw [Bool.not_eq_true, Bool.not_eq_false] at hname
      exact haction row (filled_of_truthy hname)
  exact ifOwner ((safe_inTransaction htxn).bind fun _ => Act.Safe.when fun _ => safe_sendMessage)

theorem resellerHold {resellerId : ℕ} :
    Act.Safe ledger (ResellerBot.resellerHold cfg userId resellerId) := by
  have htxn : Abides (Tidy .any) (ResellerBot.holdTransaction resellerId) fun _ => Tidy .any := by
    refine getReseller.bind fun row => ?_
    cases row with
    | none => exact .pure fun _ _ h => h
    | some row =>
      refine assignReseller (B := fun _ => True) (fun r => ?_) (fun _ _ h => h) fun _ _ => trivial
      exact { Reseller.Evolves.refl r with }
  exact ownerCommand ((safe_inTransaction htxn).bind fun _ => safe_sendMessage)

theorem userDeleteConfirm {owner username : String} :
    Act.Safe ledger (ResellerBot.userDeleteConfirm cfg userId owner username) := by
  have hcall : ∀ c : Call, Act.Safe ledger (ResellerBot.call .user c) := fun c =>
    (Act.Safe.request fun _ => trivial).bind fun _ => Act.Safe.outcome _
  refine ifOwner (Act.Safe.ite safe_sendMessage ((hcall _).bind fun live => ?_))
  cases live with
  | none => exact safe_sendMessage
  | some live =>
    exact Act.Safe.ite safe_sendMessage ((hcall _).bind fun _ => (hcall _).bind fun _ =>
      safe_sendMessage)

/-! ## Callbacks -/

/-- A payment time takes the place of what the status alone would say. -/
theorem assign_now_assign (f : Order → Order) (g : Datetime → Order → Order)
    (k : Datetime → Bot α) :
    (do
      Slot.order.assign f
      let t ← ResellerBot.now
      Slot.order.assign (g t)
      k t) = (do
      let t ← ResellerBot.now
      Slot.order.assign fun o => g t (f o)
      k t) := by
  funext s
  show Prog.ask Ev.now _ = Prog.ask Ev.now _
  congr 1
  funext t
  cases ho : s.order <;> simp [Slot.assign, Slot.order, ho, Bind.bind, Act.bind, Act.modify,
    Prog.bind]

/-- An order becomes `PAID` together with its payment time. -/
theorem markPaid {k : Datetime → Bot α} {Q : α → Session → Sight → Prop}
    (hk : ∀ t, Abides (Tidy { M with order := .any }) (k t) Q) :
    Abides (Tidy M) (do
      Slot.order.assign fun o => { o with status := .PAID }
      let t ← ResellerBot.now
      Slot.order.assign fun o => { o with paidAt := some t }
      k t) Q := by
  rw [assign_now_assign]
  refine now.bind fun t => bind (assignOrder (A := .any) (fun o => ?_) (fun _ _ _ => ?_)
    fun _ _ => trivial) fun _ => hk t
  · exact { Order.Evolves.refl o with status := .inr trivial, paidAt := .inr rfl }
  · exact ⟨fun _ => rfl, fun h => nomatch h⟩

/-- A settled payment keeps its transaction. -/
theorem settleCallback {order : Order} {p : Callback} :
    Abides (Tidy { Needs.any with payment := fun q => q.plisioTxnId = p.txnId })
      (ResellerBot.settleCallback order p) fun _ => Tidy .any := by
  refine ite (fun _ => .pure fun _ _ h => h.any) fun _ => ?_
  refine ite (fun _ => .pure fun _ _ h => h.any) fun _ => ?_
  refine ite (fun _ => .raise fun _ _ h => h.any) fun _ => markPaid fun t => ?_
  refine bind (assignPayment (C := fun _ => True) (fun q hq => ?_) fun _ _ => trivial) fun _ =>
    .pure fun _ _ h => h
  exact { Payment.Evolves.refl q with plisioTxnId := Eq.symm hq }

theorem checkCallback {currency : String} {order : Order} {payment : Option Payment}
    {p : Callback} :
    Abides (fun s v => Tidy .any s v ∧ ∀ q, payment = some q →
        Tidy { Needs.any with payment := (· = q) } s v)
      (ResellerBot.checkCallback currency order payment p) fun _ => Tidy .any := by
  unfold ResellerBot.checkCallback
  cases hstored : payment.bind (·.plisioTxnId) with
  | none => exact .raise fun _ _ h => h.1
  | some stored =>
    obtain ⟨q, rfl, hq⟩ := Option.bind_eq_some_iff.mp hstored
    refine ite (fun _ => .raise fun _ _ h => h.1) fun _ => ?_
    refine ite (fun _ => .raise fun _ _ h => h.1) fun hsame => ?_
    refine (outcome fun _ _ h => h.1).bind fun text => ?_
    refine ite (fun _ => .raise fun _ _ h => h.2.1) fun _ => ?_
    refine (outcome fun _ _ h => h.2.1).bind fun amount => ?_
    refine (outcome fun _ _ h => h.2.2.1).bind fun same => ?_
    refine ite (fun _ => settleCallback.pre fun s v h => ?_) fun _ => .raise fun _ _ h => h.2.2.2.1
    refine (h.2.2.2.2 q rfl).imp (fun _ h => h) (fun _ h => h) ?_
    rintro q' rfl
    exact hq.trans (not_not.mp hsame)

theorem callback {p : Callback} : Act.Safe ledger (ResellerBot.callback cfg p) := by
  have hload : ∀ i, Abides (Tidy .any) (Slot.payment.load (ResellerBot.query (.payment i)))
      fun payment s v => Tidy .any s v ∧ ∀ q, payment = some q →
        Tidy { Needs.any with payment := (· = q) } s v := by
    refine fun i => load queryTidy (fun row => ?_) fun _ _ h => ⟨h, fun _ hq => nomatch hq⟩
    refine (holdPayment (C := (· = row)) rfl).post fun _ s v h => ⟨h.any, ?_⟩
    rintro q ⟨⟩
    exact h
  have htxn : ∀ number, Abides (Tidy .any)
      (ResellerBot.callbackTransaction cfg.plisioSourceCurrency number p) fun _ => Tidy .any := by
    intro number
    refine ((loadOrder queryOrderByNumber).post fun _ _ _ h => FoundOrder.any h).bind
      fun order => ?_
    cases order with
    | none => exact .raise fun _ _ h => h
    | some order => exact (hload order.id).bind fun payment => checkCallback
  refine Act.Safe.ite (Act.Safe.raise _) ((Act.Safe.outcome _).bind fun number => ?_)
  refine (safe_inTransaction (htxn number)).bind fun reply => ?_
  cases reply with
  | paid => exact safe_createTask.bind fun _ => Act.Safe.pure _
  | notPaid | idempotent => exact Act.Safe.pure _

/-! ## Trials -/

/-- Whether the disable fails or not, the session is tidy afterwards. -/
theorem disableUnsafe {why : Cause} {name : Option String} (hpre : ∀ s v, P s v → why.Paid v)
    (hX : ∀ s v, P s v → Tidy .any s v) :
    Abides P (ResellerBot.disableUnsafe why name) fun _ => Tidy .any := by
  refine (call hpre hX).attempt.bind fun r => .pure fun s v h => ?_
  cases r with
  | ok _ => exact hX s v h
  | error _ => exact h

theorem writeAdmin {why : Cause} {name : Option String} {payload : AdminPayload} {live : Option Admin}
    (hpre : ∀ s v, P s v → why.Paid v) (hX : ∀ s v, P s v → Tidy .any s v) :
    Abides P (ResellerBot.writeAdmin why name payload live) fun _ => P := by
  cases live with
  | none => exact call hpre hX
  | some live =>
    exact ite (fun _ => (disableUnsafe hpre hX).bind fun _ => .raise fun _ _ h => h)
      fun _ => call hpre hX

/-- An admin without a name is never verified. -/
theorem verifyAdmin {why : Cause} {name : Option String} {want : Entitlement} {live : Option Admin}
    (hpre : ∀ s v, P s v → why.Paid v) (hX : ∀ s v, P s v → Tidy .any s v) :
    Abides P (ResellerBot.verifyAdmin why name want live) fun _ s v => Filled name ∧ P s v := by
  unfold ResellerBot.verifyAdmin
  cases hv : verifyEntitlement live name want with
  | ok a => exact .pure fun _ _ h => ⟨by rw [← verifyEntitlement_name hv]; rfl, h⟩
  | error e =>
    exact ite (fun _ => (disableUnsafe hpre hX).bind fun _ => .raise fun _ _ h => h)
      fun _ => .raise hX

theorem provision {why : Cause} {name : Option String} {password : String} {want : Entitlement}
    {tg : Option ℤ} (hpre : ∀ s v, P s v → why.Paid v) (hX : ∀ s v, P s v → Tidy .any s v) :
    Abides P (ResellerBot.provision why name password want tg) fun _ s v => Filled name ∧ P s v :=
  (getAdmin hX).bind fun _ => (writeAdmin hpre hX).bind fun _ => (getAdmin hX).bind fun _ =>
    verifyAdmin hpre hX

theorem isMember {channels : List String} :
    Abides P (ResellerBot.isMember userId channels) fun _ => P := by
  induction channels with
  | nil => exact .pure fun _ _ h => h
  | cons channel channels ih =>
    refine bind (ask (e := .chatMember channel userId) (fun _ _ _ => trivial) fun _ _ => rfl)
      fun status => ?_
    cases status with
    | error _ => exact .pure fun _ _ h => h
    | ok status => exact ite (fun _ => .pure fun _ _ h => h) fun _ => ih

theorem tryTrialCandidate {name : Option String} :
    Abides (Tidy M) (ResellerBot.tryTrialCandidate name) fun _ => Tidy M := by
  refine drawCandidate.bind fun candidate => queryTidy.bind fun _ => queryTidy.bind fun _ => ?_
  refine ite (fun _ => .pure fun _ _ h => h) fun _ =>
    (getAdmin fun _ _ h => h.any).bind fun live => ?_
  cases live with
  | none => exact .pure fun _ _ h => h
  | some _ => exact .pure fun _ _ h => h

theorem reserveTrial {username : String} {hours : ℤ} :
    Abides (Tidy .any) (ResellerBot.reserveTrial userId username hours) fun _ => Tidy .any := by
  refine now.bind fun t => (outcome fun _ _ h => h).bind fun expire => fact fun _ => ?_
  refine bind (holdTrial fun _ hd => nomatch hd) fun _ => flush.attempt.bind fun r => ?_
  rcases r with e | _
  · exact ite (fun _ => rollback.bind fun _ => .pure fun _ _ h => h) fun _ => .raise fun _ _ h => h
  · exact .pure fun _ _ h => h

theorem reserveTrialName {name : Option String} :
    Abides (Tidy .any) (ResellerBot.reserveTrialName cfg userId name) fun _ => Tidy .any := by
  refine bind (searchFor (Q := fun _ => Tidy .any) (tryTrialCandidate.post fun r s v h => ?_) 100)
    fun username => ?_
  · cases r with
    | none => exact h
    | some _ => exact h
  · cases username with
    | none => exact .raise fun _ _ h => h
    | some username =>
      exact bind positive fun hours => reserveTrial.bind fun _ => commit.bind fun _ =>
        .pure fun _ _ h => h

theorem failureStatus_ne (e : Err) : failureStatus e ≠ .RESERVED := by
  unfold failureStatus
  split_ifs <;> decide

theorem provisionTrial {record : TrialRecord} {password : String} {services : List ServiceId}
    {trafficGb : ℤ} :
    Abides (Tidy .any) (ResellerBot.provisionTrial userId record password services trafficGb)
      fun _ => Tidy .any := by
  refine (provision (fun _ _ _ => by trivial) fun _ _ h => h).bind fun _ => fact fun hname => ?_
  have hassign : Abides (Tidy .any) (ResellerBot.assignTrialReseller userId record trafficGb)
      fun _ => Tidy .any := by
    refine (loadReseller queryResellerByTelegram).bind fun row => ?_
    cases row with
    | none => exact .pure fun _ _ h => h
    | some row =>
      exact assignReseller (B := fun _ => True) (trialReseller_evolves hname trafficGb)
        (fun _ _ _ _ => hname) fun _ _ => trivial
  exact hassign.bind fun _ => (assignTrial (trialStatus_evolves (by decide))).bind fun _ => commit

theorem failTrial {e : Err} : Abides (Tidy .any) (ResellerBot.failTrial cfg userId e)
    fun _ => Tidy .any :=
  (assignTrial (trialStatus_evolves (failureStatus_ne e))).bind fun _ => commit.bind fun _ =>
    (when (fun _ => sendMessages fun _ _ h => h) fun _ _ _ h => h).bind fun _ =>
      sendMessage fun _ _ h => h

theorem deliverableTrial {services : List ServiceId} {trafficGb : ℤ} :
    Abides (Tidy .any) (ResellerBot.deliverableTrial cfg userId services trafficGb)
      fun _ => Tidy .any := by
  refine ((read fun _ _ h => h).post fun _ _ _ h => h.2).bind fun record =>
    generatePassword.bind fun password => provisionTrial.attempt.bind fun r => ?_
  cases r with
  | ok _ => exact .pure fun _ _ h => h
  | error e => exact failTrial.bind fun _ => .pure fun _ _ h => h

theorem continueTrial {isReserved : Bool} :
    Abides (Tidy .any) (ResellerBot.continueTrial cfg userId isReserved) fun _ => Tidy .any := by
  refine queryTidy.bind fun services => bind positive fun trafficGb => ?_
  exact ite (fun _ => deliverableTrial) fun _ => .raise fun _ _ h => h

theorem startTrial {name : Option String} :
    Abides (Tidy .any) (ResellerBot.startTrial cfg userId name) fun _ => Tidy .any := by
  refine loadTrial.bind fun record => ?_
  cases record with
  | none => exact reserveTrialName.bind fun _ => continueTrial
  | some record =>
    exact ite (fun _ => continueTrial) fun _ =>
      (sendMessage fun _ _ h => h).bind fun _ => .pure fun _ _ h => h

theorem dryRunTrial : Abides (Tidy .any) (ResellerBot.dryRunTrial cfg userId) fun _ => Tidy .any :=
  bind (bind (add fun _ => by trivial) fun _ => flush) fun _ => commit.bind fun _ =>
    (sendMessages fun _ _ h => h).bind fun _ => (sendMessage fun _ _ h => h).bind fun _ =>
      .pure fun _ _ h => h

theorem runTrial {name : Option String} :
    Act.Safe ledger (ResellerBot.runTrial cfg userId name) := by
  have hrefuse : Abides (Tidy .any) (refuse userId) fun _ => Tidy .any :=
    (sendMessage fun _ _ h => h).bind fun _ => .pure fun _ _ h => h
  have htrial : Abides (Tidy .any) (trialSession cfg userId name) fun _ => Tidy .any := by
    refine queryTidy.bind fun channels => isMember.bind fun joined => queryTidy.bind fun _ => ?_
    refine ite (fun _ => hrefuse) fun _ => ite (fun _ => hrefuse) fun _ =>
      isDryRun.bind fun dry => ?_
    exact ite (fun _ => dryRunTrial) fun _ => startTrial
  have hfinish : Act.Safe ledger (finishTrial userId) := by
    refine safe_inTransaction (loadTrial.bind fun record => ?_)
    cases record with
    | none => exact .pure fun _ _ h => h
    | some _ => exact assignTrial (trialStatus_evolves (by decide))
  refine (safe_inSession htrial).bind fun deliver => Act.Safe.ite ?_ (Act.Safe.pure _)
  refine safe_sendMessage.attempt.bind fun r => ?_
  cases r with
  | ok _ => exact hfinish
  | error _ => exact Act.Safe.pure _

end Abides

end ResellerBot
