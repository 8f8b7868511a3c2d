import ResellerBot.Growth
import ResellerBot.Database.Statements
import Mathlib.Data.Set.Insert

/-!
# ResellerBot.Database.Evolution — how rows may change

What no statement of the bot does to a row, whoever else has written it in the meantime: the
columns that stay, the columns that are never cleared, the statuses that are never entered.  An
UPDATE keeps to it on every row if the object it flushes has kept to it.
-/

open Interact Growth

namespace ResellerBot

/-! ## Columns -/

section Columns

variable {α : Type} [DecidableEq α] {S : α → Prop} {old new row : α}

theorem moves_col (h : Moves S old new) : Moves S row (col old new row) := by
  rcases h with rfl | h
  · exact .of_eq col_same
  · unfold col
    split_ifs
    · exact .refl row
    · exact .inr h

/-- The row that an update leaves has moved on from the object that was flushed. -/
theorem moves_col_new (h : Moves S old row) : Moves S new (col old new row) := by
  by_cases hn : new = old
  · rw [hn, col_same]
    exact h
  · exact .of_eq (col_of_ne hn)

end Columns

/-! ## Rows -/

/-- The statuses that an order enters after it has been placed. -/
def OrderStatus.Entered : OrderStatus → Prop
  | .WAITING_RECEIPT | .PAID | .APPLYING | .APPLIED | .REJECTED => True
  | _ => False

def ResellerStatus.Entered : ResellerStatus → Prop
  | .PROVISIONING | .TRIAL | .ACTIVE | .EXPIRED | .SUSPENDED => True
  | _ => False

/-- A column that has a value. -/
def Filled {α : Type} (x : Option α) : Prop := x.isSome = true

structure Order.Evolves (old new : Order) : Prop where
  id : new.id = old.id
  orderNumber : new.orderNumber = old.orderNumber
  resellerId : new.resellerId = old.resellerId
  productId : new.productId = old.productId
  amount : new.amount = old.amount
  currency : new.currency = old.currency
  paymentMethod : new.paymentMethod = old.paymentMethod
  status : Moves OrderStatus.Entered old.status new.status
  paidAt : Moves Filled old.paidAt new.paidAt
  appliedAt : Moves Filled old.appliedAt new.appliedAt
  beforeSnapshot : Moves Filled old.beforeSnapshot new.beforeSnapshot
  afterSnapshot : Moves Filled old.afterSnapshot new.afterSnapshot

structure Reseller.Evolves (old new : Reseller) : Prop where
  id : new.id = old.id
  telegramId : new.telegramId = old.telegramId
  rebeccaAdminUsername : Moves Filled old.rebeccaAdminUsername new.rebeccaAdminUsername
  status : Moves ResellerStatus.Entered old.status new.status
  productId : Moves Filled old.productId new.productId
  trial : Moves (· = true) old.trial new.trial
  trialUsed : Moves (· = true) old.trialUsed new.trialUsed
  lastSyncAt : Moves Filled old.lastSyncAt new.lastSyncAt

structure Payment.Evolves (old new : Payment) : Prop where
  orderId : new.orderId = old.orderId
  method : new.method = old.method
  plisioTxnId : new.plisioTxnId = old.plisioTxnId
  telegramFileId : Moves Filled old.telegramFileId new.telegramFileId

structure TrialRecord.Evolves (old new : TrialRecord) : Prop where
  telegramId : new.telegramId = old.telegramId
  adminUsername : new.adminUsername = old.adminUsername
  expiresAt : new.expiresAt = old.expiresAt
  status : Moves (· ≠ .RESERVED) old.status new.status

structure ResellerUserCache.Evolves (old new : ResellerUserCache) : Prop where
  id : new.id = old.id
  resellerId : new.resellerId = old.resellerId
  username : new.username = old.username
  rebeccaAdminUsername : new.rebeccaAdminUsername = old.rebeccaAdminUsername
  deletionHold : new.deletionHold = old.deletionHold
  lastSeenAt : Moves Filled old.lastSeenAt new.lastSeenAt

namespace Order.Evolves

variable {a b c old new row : Order}

theorem refl (o : Order) : o.Evolves o :=
  ⟨rfl, rfl, rfl, rfl, rfl, rfl, rfl, .refl _, .refl _, .refl _, .refl _, .refl _⟩

theorem trans (h : a.Evolves b) (h' : b.Evolves c) : a.Evolves c where
  id := h'.id.trans h.id
  orderNumber := h'.orderNumber.trans h.orderNumber
  resellerId := h'.resellerId.trans h.resellerId
  productId := h'.productId.trans h.productId
  amount := h'.amount.trans h.amount
  currency := h'.currency.trans h.currency
  paymentMethod := h'.paymentMethod.trans h.paymentMethod
  status := h.status.trans h'.status
  paidAt := h.paidAt.trans h'.paidAt
  appliedAt := h.appliedAt.trans h'.appliedAt
  beforeSnapshot := h.beforeSnapshot.trans h'.beforeSnapshot
  afterSnapshot := h.afterSnapshot.trans h'.afterSnapshot

theorem update (h : old.Evolves new) (row : Order) : row.Evolves (old.update new row) where
  id := rfl
  orderNumber := rfl
  resellerId := rfl
  productId := rfl
  amount := rfl
  currency := rfl
  paymentMethod := rfl
  status := moves_col h.status
  paidAt := moves_col h.paidAt
  appliedAt := moves_col h.appliedAt
  beforeSnapshot := moves_col h.beforeSnapshot
  afterSnapshot := moves_col h.afterSnapshot

/-- What has been flushed is behind the row it was flushed to. -/
theorem flushed (h : old.Evolves new) (hr : old.Evolves row) :
    new.Evolves (old.update new row) where
  id := hr.id.trans h.id.symm
  orderNumber := hr.orderNumber.trans h.orderNumber.symm
  resellerId := hr.resellerId.trans h.resellerId.symm
  productId := hr.productId.trans h.productId.symm
  amount := hr.amount.trans h.amount.symm
  currency := hr.currency.trans h.currency.symm
  paymentMethod := hr.paymentMethod.trans h.paymentMethod.symm
  status := moves_col_new hr.status
  paidAt := moves_col_new hr.paidAt
  appliedAt := moves_col_new hr.appliedAt
  beforeSnapshot := moves_col_new hr.beforeSnapshot
  afterSnapshot := moves_col_new hr.afterSnapshot

end Order.Evolves

namespace Reseller.Evolves

variable {a b c old new row : Reseller}

theorem refl (r : Reseller) : r.Evolves r :=
  ⟨rfl, rfl, .refl _, .refl _, .refl _, .refl _, .refl _, .refl _⟩

theorem trans (h : a.Evolves b) (h' : b.Evolves c) : a.Evolves c where
  id := h'.id.trans h.id
  telegramId := h'.telegramId.trans h.telegramId
  rebeccaAdminUsername := h.rebeccaAdminUsername.trans h'.rebeccaAdminUsername
  status := h.status.trans h'.status
  productId := h.productId.trans h'.productId
  trial := h.trial.trans h'.trial
  trialUsed := h.trialUsed.trans h'.trialUsed
  lastSyncAt := h.lastSyncAt.trans h'.lastSyncAt

theorem update (h : old.Evolves new) (row : Reseller) : row.Evolves (old.update new row) where
  id := rfl
  telegramId := rfl
  rebeccaAdminUsername := moves_col h.rebeccaAdminUsername
  status := moves_col h.status
  productId := moves_col h.productId
  trial := moves_col h.trial
  trialUsed := moves_col h.trialUsed
  lastSyncAt := moves_col h.lastSyncAt

theorem flushed (h : old.Evolves new) (hr : old.Evolves row) :
    new.Evolves (old.update new row) where
  id := hr.id.trans h.id.symm
  telegramId := hr.telegramId.trans h.telegramId.symm
  rebeccaAdminUsername := moves_col_new hr.rebeccaAdminUsername
  status := moves_col_new hr.status
  productId := moves_col_new hr.productId
  trial := moves_col_new hr.trial
  trialUsed := moves_col_new hr.trialUsed
  lastSyncAt := moves_col_new hr.lastSyncAt

end Reseller.Evolves

namespace Payment.Evolves

variable {a b c old new : Payment}

theorem refl (p : Payment) : p.Evolves p := ⟨rfl, rfl, rfl, .refl _⟩

theorem trans (h : a.Evolves b) (h' : b.Evolves c) : a.Evolves c :=
  ⟨h'.orderId.trans h.orderId, h'.method.trans h.method, h'.plisioTxnId.trans h.plisioTxnId,
    h.telegramFileId.trans h'.telegramFileId⟩

theorem update (h : old.Evolves new) (row : Payment) : row.Evolves (old.update new row) where
  orderId := rfl
  method := rfl
  plisioTxnId := by
    show col old.plisioTxnId new.plisioTxnId row.plisioTxnId = row.plisioTxnId
    rw [h.plisioTxnId, col_same]
  telegramFileId := moves_col h.telegramFileId

end Payment.Evolves

namespace TrialRecord.Evolves

variable {a b c old new : TrialRecord}

theorem refl (t : TrialRecord) : t.Evolves t := ⟨rfl, rfl, rfl, .refl _⟩

theorem trans (h : a.Evolves b) (h' : b.Evolves c) : a.Evolves c :=
  ⟨h'.telegramId.trans h.telegramId, h'.adminUsername.trans h.adminUsername,
    h'.expiresAt.trans h.expiresAt, h.status.trans h'.status⟩

theorem update (h : old.Evolves new) (row : TrialRecord) : row.Evolves (old.update new row) :=
  ⟨rfl, rfl, rfl, moves_col h.status⟩

end TrialRecord.Evolves

namespace ResellerUserCache.Evolves

variable {a b c old new : ResellerUserCache}

theorem refl (u : ResellerUserCache) : u.Evolves u := ⟨rfl, rfl, rfl, rfl, rfl, .refl _⟩

theorem trans (h : a.Evolves b) (h' : b.Evolves c) : a.Evolves c :=
  ⟨h'.id.trans h.id, h'.resellerId.trans h.resellerId, h'.username.trans h.username,
    h'.rebeccaAdminUsername.trans h.rebeccaAdminUsername, h'.deletionHold.trans h.deletionHold,
    h.lastSeenAt.trans h'.lastSeenAt⟩

theorem update (h : old.Evolves new) (row : ResellerUserCache) :
    row.Evolves (old.update new row) :=
  ⟨rfl, rfl, rfl, rfl, rfl, moves_col h.lastSeenAt⟩

end ResellerUserCache.Evolves

/-! ## What every row satisfies -/

/-- Paid for: no order is worked on before. -/
def OrderStatus.Paid : OrderStatus → Prop
  | .PAID | .APPLYING | .APPLIED => True
  | _ => False

/-- The times that go with the status. -/
structure Order.Proper (o : Order) : Prop where
  paidAt : o.status.Paid → Filled o.paidAt
  appliedAt : o.status = .APPLIED → Filled o.appliedAt

/-- Beyond `PROVISIONING` there is an admin. -/
def Reseller.Proper (r : Reseller) : Prop :=
  r.status ≠ .PROVISIONING → Filled r.rebeccaAdminUsername

/-- A column that goes with the status goes with it after an update as well, although the update may
write the one and not the other. -/
theorem filled_col {α β : Type} [DecidableEq α] [DecidableEq β] {S : α → Prop} {s s' t : α}
    {x x' y : Option β} (hrow : S t → Filled y) (hnew : S s' → Filled x') (hx : Moves Filled x x')
    (hy : Moves Filled x y) (h : S (col s s' t)) : Filled (col x x' y) := by
  by_cases hs : s' = s
  · rw [hs, col_same] at h
    exact (moves_col hx).keep (hrow h)
  · rw [col_of_ne hs] at h
    exact (moves_col_new hy).keep (hnew h)

theorem Order.Proper.update {old new row : Order} (hrow : row.Proper) (hnew : new.Proper)
    (h : old.Evolves new) (hr : old.Evolves row) : (old.update new row).Proper where
  paidAt := filled_col hrow.paidAt hnew.paidAt h.paidAt hr.paidAt
  appliedAt :=
    filled_col (S := fun s => s = OrderStatus.APPLIED) hrow.appliedAt hnew.appliedAt h.appliedAt
      hr.appliedAt

theorem Reseller.Proper.update {old new row : Reseller} (hrow : row.Proper) (hnew : new.Proper)
    (h : old.Evolves new) (hr : old.Evolves row) : (old.update new row).Proper :=
  filled_col (S := fun s => s ≠ ResellerStatus.PROVISIONING) hrow hnew h.rebeccaAdminUsername
    hr.rebeccaAdminUsername

/-! ## Tables -/

/-- No row is gone, every row has evolved, and the logs have only been written to at the end. -/
structure Tables.Grows (T T' : Tables) : Prop where
  resellers : Grown Reseller.Evolves T.resellers T'.resellers
  orders : Grown Order.Evolves T.orders T'.orders
  payments : Grown Payment.Evolves T.payments T'.payments
  trials : Grown TrialRecord.Evolves T.trials T'.trials
  users : Grown ResellerUserCache.Evolves T.users T'.users
  warnings : T.warnings <+: T'.warnings
  audits : T.audits <+: T'.audits

structure Tables.Proper (T : Tables) : Prop where
  orderKeys : Rows.Keyed Order.id T.orders
  resellerKeys : Rows.Keyed Reseller.id T.resellers
  orders : ∀ o ∈ T.orders, o.Proper
  resellers : ∀ r ∈ T.resellers, r.Proper

namespace Tables.Grows

variable {T T₁ T₂ : Tables}

theorem refl (T : Tables) : T.Grows T where
  resellers := .refl Reseller.Evolves.refl _
  orders := .refl Order.Evolves.refl _
  payments := .refl Payment.Evolves.refl _
  trials := .refl TrialRecord.Evolves.refl _
  users := .refl ResellerUserCache.Evolves.refl _
  warnings := List.prefix_rfl
  audits := List.prefix_rfl

theorem trans (h : T.Grows T₁) (h' : T₁.Grows T₂) : T.Grows T₂ where
  resellers := h.resellers.trans (fun _ _ _ => Reseller.Evolves.trans) h'.resellers
  orders := h.orders.trans (fun _ _ _ => Order.Evolves.trans) h'.orders
  payments := h.payments.trans (fun _ _ _ => Payment.Evolves.trans) h'.payments
  trials := h.trials.trans (fun _ _ _ => TrialRecord.Evolves.trans) h'.trials
  users := h.users.trans (fun _ _ _ => ResellerUserCache.Evolves.trans) h'.users
  warnings := h.warnings.trans h'.warnings
  audits := h.audits.trans h'.audits

end Tables.Grows

/-- Rows of which one is changed. -/
theorem grown_set {α : Type} {R : α → α → Prop} {key : α → ℕ} {rows : List α} {i : ℕ} {f : α → α}
    (hR : ∀ a, R a a) (hf : ∀ a ∈ rows, key a = i → R a (f a)) :
    Grown R rows (Rows.set key rows i f) := by
  refine Grown.map fun a ha => ?_
  split_ifs with hk
  · exact hf a ha hk
  · exact hR a

theorem forall_set {α : Type} {P : α → Prop} {key : α → ℕ} {rows : List α} {i : ℕ} {f : α → α}
    (h : ∀ a ∈ rows, P a) (hf : ∀ a ∈ rows, key a = i → P (f a)) :
    ∀ a ∈ Rows.set key rows i f, P a := by
  intro a ha
  rcases Rows.mem_set.mp ha with ⟨r, hr, hk, rfl⟩ | ⟨hr, -⟩
  · exact hf r hr hk
  · exact h a hr

theorem forall_append {α : Type} {P : α → Prop} {rows : List α} {row : α} (h : ∀ a ∈ rows, P a)
    (hrow : P row) : ∀ a ∈ rows ++ [row], P a := by
  intro a ha
  rcases List.mem_append.mp ha with ha | ha
  · exact h a ha
  · rw [List.mem_singleton.mp ha]
    exact hrow

end ResellerBot
