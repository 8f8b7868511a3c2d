import ResellerBot.Contract.Tasks

/-!
# ResellerBot.Contract.Truth — what a worker on orders does to the tables

Where the contract is kept, a statement leaves the knowledge of the worker true of the tables, and
the rows of the orders and their resellers only move on: `Tables.Advance`.
-/

open Interact

namespace ResellerBot

/-- What a worker knows of an order is what matters here. -/
structure Order.Same (o row : Order) : Prop where
  id : row.id = o.id
  resellerId : row.resellerId = o.resellerId
  productId : row.productId = o.productId
  status : row.status = o.status
  before : row.beforeSnapshot = o.beforeSnapshot
  after : row.afterSnapshot = o.afterSnapshot

structure Reseller.Same (r row : Reseller) : Prop where
  id : row.id = r.id
  status : row.status = r.status
  admin : row.rebeccaAdminUsername = r.rebeccaAdminUsername

theorem Order.Same.refl (o : Order) : o.Same o := ⟨rfl, rfl, rfl, rfl, rfl, rfl⟩

theorem Reseller.Same.refl (r : Reseller) : r.Same r := ⟨rfl, rfl, rfl⟩

theorem Order.Same.target {o row : Order} (h : o.Same row) : row.target = o.target := by
  rw [Order.target, Order.target, h.after]

theorem Order.Same.open {o row : Order} (h : o.Same row) (ho : o.Open) : row.Open := by
  rw [Order.Open, h.status]
  exact ho

/-- The update of a row that is as the session knew it. -/
theorem Order.Same.update {old new row : Order} (h : old.Same row) (hk : old.SameKeys new) :
    new.Same (old.update new row) where
  id := h.id.trans hk.id.symm
  resellerId := h.resellerId.trans hk.resellerId.symm
  productId := h.productId.trans hk.productId.symm
  status := by
    show col old.status new.status row.status = new.status
    rw [h.status, col_row]
  before := by
    show col old.beforeSnapshot new.beforeSnapshot row.beforeSnapshot = new.beforeSnapshot
    rw [h.before, col_row]
  after := by
    show col old.afterSnapshot new.afterSnapshot row.afterSnapshot = new.afterSnapshot
    rw [h.after, col_row]

theorem Reseller.Same.update {old new row : Reseller} (h : old.Same row) (hk : old.SameKeys new) :
    new.Same (old.update new row) where
  id := h.id.trans hk.id.symm
  status := by
    show col old.status new.status row.status = new.status
    rw [h.status, col_row]
  admin := by
    show col old.rebeccaAdminUsername new.rebeccaAdminUsername row.rebeccaAdminUsername =
      new.rebeccaAdminUsername
    rw [h.admin, col_row]

/-! ## Progress -/

/-- The row has moved on; `named` says that its reseller had a username. -/
structure Order.Advances (named : Prop) (o o' : Order) : Prop where
  reseller : o'.resellerId = o.resellerId
  product : o'.productId = o.productId
  status : o'.status = o.status ∨ o.status.Reconciled o'.status
  closed : ¬o.Open → o'.beforeSnapshot = o.beforeSnapshot ∧ o'.afterSnapshot = o.afterSnapshot
  target : named → o.Open → o.target ≠ none → o'.status ≠ .APPLIED →
    o'.target = o.target ∧ o'.beforeSnapshot = o.beforeSnapshot

/-- A username that has been given stays. -/
def Reseller.Advances (r r' : Reseller) : Prop :=
  truthy r.rebeccaAdminUsername → r'.rebeccaAdminUsername = r.rebeccaAdminUsername

/-- The reseller has a username. -/
def Tables.Named (T : Tables) (resellerId : ℕ) : Prop :=
  ∃ r, Rows.get Reseller.id T.resellers resellerId = some r ∧ truthy r.rebeccaAdminUsername

structure Tables.Advance (T T' : Tables) : Prop where
  orders : ∀ i o, Rows.get Order.id T.orders i = some o →
    ∃ o', Rows.get Order.id T'.orders i = some o' ∧ o.Advances (T.Named o.resellerId) o'
  resellers : ∀ i r, Rows.get Reseller.id T.resellers i = some r →
    ∃ r', Rows.get Reseller.id T'.resellers i = some r' ∧ r.Advances r'

theorem Order.Advances.refl (named : Prop) (o : Order) : o.Advances named o :=
  ⟨rfl, rfl, .inl rfl, fun _ => ⟨rfl, rfl⟩, fun _ _ _ _ => ⟨rfl, rfl⟩⟩

theorem OrderStatus.reconciled_trans {a b c : OrderStatus} (hab : b = a ∨ a.Reconciled b)
    (hbc : c = b ∨ b.Reconciled c) : c = a ∨ a.Reconciled c := by
  unfold OrderStatus.Reconciled at *
  grind

theorem Order.Advances.open {named : Prop} {o o' : Order} (h : o.Advances named o')
    (ho : o.Open) (h' : o'.status ≠ .APPLIED) : o'.Open := by
  have := h.status
  unfold Order.Open OrderStatus.Reconciled at *
  grind

/-- An order that is not open is not opened. -/
theorem Order.Advances.closed_of {named : Prop} {o o' : Order} (h : o.Advances named o')
    (ho : ¬o.Open) : o'.status = o.status ∧ ¬o'.Open := by
  have := h.status
  unfold Order.Open OrderStatus.Reconciled at *
  grind

theorem Order.Advances.trans {named named' : Prop} {o o' o'' : Order} (h : o.Advances named o')
    (h' : o'.Advances named' o'') (hnamed : named → named') : o.Advances named o'' where
  reseller := h'.reseller.trans h.reseller
  product := h'.product.trans h.product
  status := OrderStatus.reconciled_trans h.status h'.status
  closed ho := by
    obtain ⟨hb, ha⟩ := h.closed ho
    obtain ⟨hb', ha'⟩ := h'.closed (h.closed_of ho).2
    exact ⟨hb'.trans hb, ha'.trans ha⟩
  target hn ho ht hs := by
    have hs' : o'.status ≠ .APPLIED := by
      intro happlied
      have hclosed : ¬o'.Open := by
        unfold Order.Open
        rw [happlied]
        decide
      exact hs ((h'.closed_of hclosed).1.trans happlied)
    obtain ⟨htarget, hbefore⟩ := h.target hn ho ht hs'
    have hopen := h.open ho hs'
    obtain ⟨htarget', hbefore'⟩ := h'.target (hnamed hn) hopen (by rw [htarget]; exact ht) hs
    exact ⟨htarget'.trans htarget, hbefore'.trans hbefore⟩

theorem Reseller.Advances.trans {r r' r'' : Reseller} (h : r.Advances r') (h' : r'.Advances r'') :
    r.Advances r'' := by
  intro hr
  have hsame := h hr
  exact (h' (by rw [hsame]; exact hr)).trans hsame

namespace Tables.Advance

variable {T T' T'' : Tables}

theorem refl (T : Tables) : T.Advance T :=
  ⟨fun _ o h => ⟨o, h, .refl _ o⟩, fun _ r h => ⟨r, h, fun _ => rfl⟩⟩

theorem named (h : T.Advance T') {i : ℕ} (hn : T.Named i) : T'.Named i := by
  obtain ⟨r, hr, ht⟩ := hn
  obtain ⟨r', hr', hadv⟩ := h.resellers i r hr
  exact ⟨r', hr', by rw [hadv ht]; exact ht⟩

theorem trans (h : T.Advance T') (h' : T'.Advance T'') : T.Advance T'' := by
  refine ⟨fun i o ho => ?_, fun i r hr => ?_⟩
  · obtain ⟨o', ho', hadv⟩ := h.orders i o ho
    obtain ⟨o'', ho'', hadv'⟩ := h'.orders i o' ho'
    refine ⟨o'', ho'', hadv.trans hadv' fun hn => ?_⟩
    rw [hadv.reseller]
    exact h.named hn
  · obtain ⟨r', hr', hadv⟩ := h.resellers i r hr
    obtain ⟨r'', hr'', hadv'⟩ := h'.resellers i r' hr'
    exact ⟨r'', hr'', hadv.trans hadv'⟩

/-- Only other tables have changed. -/
theorem of_eq (ho : T'.orders = T.orders) (hr : T'.resellers = T.resellers) : T.Advance T' := by
  refine ⟨fun i o h => ⟨o, by rwa [ho], .refl _ o⟩, fun i r h => ⟨r, by rwa [hr], fun _ => rfl⟩⟩

end Tables.Advance

/-! ## Sound tables, true knowledge -/

/-- What the tables of the bot satisfy before any work. -/
structure Tables.Sound (sells : Product → Prop) (T : Tables) : Prop where
  orders : Rows.Keyed Order.id T.orders
  resellers : Rows.Keyed Reseller.id T.resellers
  products : ∀ p ∈ T.products, sells p

/-- What the worker knows is true of the tables. -/
structure Truth (T : Tables) (v : View) : Prop where
  orders : ∀ i o, v.orders i = some o → ∃ row, Rows.get Order.id T.orders i = some row ∧ o.Same row
  resellers : ∀ i r, v.resellers i = some r →
    ∃ row, Rows.get Reseller.id T.resellers i = some row ∧ r.Same row

/-- The targets that are not waiting for their commit are committed. -/
def Saved (C T : Tables) (v : View) : Prop :=
  ∀ i row, i ∉ v.unsaved → Rows.get Order.id T.orders i = some row → row.target ≠ none →
    ∃ row₀, Rows.get Order.id C.orders i = some row₀ ∧ row₀.target = row.target ∧
      row₀.beforeSnapshot = row.beforeSnapshot

section Step

variable {sells : Product → Prop} {C T T' : Tables} {v v' : View} {st : Stmt} {n : ℕ}

theorem Truth.start : Truth T .start := ⟨fun _ _ h => (nomatch h), fun _ _ h => (nomatch h)⟩

theorem Truth.of_eq (h : Truth T v) (hT : T'.orders = T.orders) (hT' : T'.resellers = T.resellers)
    (ho : v'.orders = v.orders) (hr : v'.resellers = v.resellers) : Truth T' v' := by
  refine ⟨fun i o hi => ?_, fun i r hi => ?_⟩
  · rw [hT]
    exact h.orders i o (ho ▸ hi)
  · rw [hT']
    exact h.resellers i r (hr ▸ hi)

theorem Saved.of_eq (h : Saved C T v) (hT : T'.orders = T.orders) (hu : v'.unsaved = v.unsaved) :
    Saved C T' v' := by
  intro i row hi
  rw [hT]
  rw [hu] at hi
  exact h i row hi

/-- Just committed, or nothing written. -/
theorem Saved.refl (T : Tables) (v : View) : Saved T T v :=
  fun _ row _ hrow _ => ⟨row, hrow, rfl, rfl⟩

/-- Where the worker of orders may change an order, the row moves on. -/
theorem OrderChange.advances {old new row : Order} (h : OrderChange .orders sells v old new)
    (hk : old.SameKeys new) (hs : old.Same row) (htruth : Truth T v) :
    row.Advances (T.Named row.resellerId) (old.update new row) := by
  have hnew := hs.update hk
  have hopen : row.Open ↔ old.Open := by rw [Order.Open, Order.Open, hs.status]
  have happlied : (old.update new row).status = new.status := hnew.status
  refine ⟨?_, ?_, ?_, ?_, ?_⟩
  · exact hnew.resellerId.trans (hk.resellerId.trans hs.resellerId.symm)
  · exact hnew.productId.trans (hk.productId.trans hs.productId.symm)
  · rw [happlied, hs.status]
    cases h with
    | keep status => exact .inl status
    | begin _ _ _ _ _ _ _ opens _ _ _ _ _ _ _ _ _ _ _ status =>
      exact opens.elim (fun h => .inr (.inl ⟨h, status⟩)) fun h => .inl (status.trans h.symm)
    | reserve _ _ _ opens _ _ _ _ status =>
      exact opens.elim (fun h => .inr (.inl ⟨h, status⟩)) fun h => .inl (status.trans h.symm)
    | finish _ _ _ _ _ opens _ _ _ _ _ _ _ status => exact .inr (opens.toApplied status)
    | provisioned _ _ _ _ _ opens _ _ _ _ _ _ _ status => exact .inr (opens.toApplied status)
    | decide _ _ role => cases role
    | pay _ _ role => rcases role with role | role <;> cases role
  · rw [hopen, hnew.before, hnew.after, hs.before, hs.after]
    intro hclosed
    cases h with
    | keep _ before after => exact ⟨before, after⟩
    | begin _ _ _ _ _ _ _ opens => exact absurd opens hclosed
    | reserve _ _ _ opens => exact absurd opens hclosed
    | finish _ _ _ _ _ opens => exact absurd opens hclosed
    | provisioned _ _ _ _ _ opens => exact absurd opens hclosed
    | decide _ _ role => cases role
    | pay _ _ role => rcases role with role | role <;> cases role
  · rw [happlied, hnew.target, hnew.before, hs.target, hs.before]
    intro hnamed _ hsome hne
    cases h with
    | keep _ before after =>
      refine ⟨?_, before⟩
      rw [Order.target, Order.target, after]
    | begin _ _ _ _ _ _ _ _ fresh => exact absurd fresh hsome
    | reserve r _ _ _ reseller owner unnamed _ _ _ _ =>
      obtain ⟨row', hrow', hsame⟩ := htruth.resellers r.id r reseller
      obtain ⟨r', hr', htruthy⟩ := hnamed
      rw [hs.resellerId, ← owner, hrow'] at hr'
      cases hr'
      rw [hsame.admin] at htruthy
      exact absurd htruthy unnamed
    | finish _ _ _ _ _ _ _ _ _ _ _ _ _ status => exact absurd status hne
    | provisioned _ _ _ _ _ _ _ _ _ _ _ _ _ status => exact absurd status hne
    | decide _ _ role => cases role
    | pay _ _ role => rcases role with role | role <;> cases role

/-- A reseller keeps its username. -/
theorem ResellerChange.advances {old new row : Reseller} (h : ResellerChange .orders v old new)
    (hk : old.SameKeys new) (hs : old.Same row) : row.Advances (old.update new row) := by
  intro htruthy
  rw [(hs.update hk).admin, hs.admin]
  rw [hs.admin] at htruthy
  cases h with
  | keep _ admin => exact admin
  | reserve _ unnamed => exact absurd htruthy unnamed
  | activate _ _ admin => exact admin
  | reactivate _ _ admin => exact admin
  | trial _ role => cases role
  | expire role => cases role
  | suspend role => cases role
  | resume role => cases role

/-- What one statement does. -/
structure Stepped (sells : Product → Prop) (C T T' : Tables) (v' : View) : Prop where
  sound : T'.Sound sells
  truth : Truth T' v'
  saved : Saved C T' v'
  advance : T.Advance T'

/-- A statement about other tables. -/
theorem Stepped.frame (hsound : T.Sound sells) (htruth : Truth T v) (hsaved : Saved C T v)
    (ho : T'.orders = T.orders) (hr : T'.resellers = T.resellers)
    (hp : T'.products = T.products) : Stepped sells C T T' v where
  sound := ⟨by rw [ho]; exact hsound.orders, by rw [hr]; exact hsound.resellers,
    by rw [hp]; exact hsound.products⟩
  truth := htruth.of_eq ho hr rfl rfl
  saved := hsaved.of_eq ho rfl
  advance := .of_eq ho hr

theorem exec_updateOrder {old new : Order} (hok : StmtOk .orders sells v (.updateOrder old new))
    (hexec : (Stmt.updateOrder old new).exec T = .ok (T', n)) (hsound : T.Sound sells)
    (htruth : Truth T v) (hsaved : Saved C T v) :
    Stepped sells C T T' (v.wrote (.updateOrder old new)) := by
  obtain ⟨hk, hknown, hchange⟩ := hok
  obtain ⟨row, hrow, hsame⟩ := htruth.orders _ _ (hknown trivial)
  simp only [Stmt.exec] at hexec
  split_ifs at hexec
  cases hexec
  have hid : ∀ r : Order, (old.update new r).id = r.id := fun _ => rfl
  have hself := Rows.get_set (f := old.update new) hrow (Rows.mem_of_get hrow).2
  have hother : ∀ j, j ≠ old.id →
      Rows.get Order.id (Rows.set Order.id T.orders old.id (old.update new)) j =
        Rows.get Order.id T.orders j := fun j hj => Rows.get_set_of_ne hid hj
  refine ⟨⟨hsound.orders.set hid, hsound.resellers, hsound.products⟩, ⟨?_, ?_⟩, ?_,
    ⟨?_, ?_⟩⟩
  · intro i o ho
    by_cases hi : i = old.id
    · subst hi
      rw [show (v.wrote (.updateOrder old new)).orders old.id = some new from
        Function.update_self _ _ _] at ho
      cases ho
      exact ⟨_, hself, hsame.update hk⟩
    · rw [show (v.wrote (.updateOrder old new)).orders i = v.orders i from
        Function.update_of_ne hi _ _] at ho
      obtain ⟨row', hrow', hsame'⟩ := htruth.orders i o ho
      exact ⟨row', (hother i hi).trans hrow', hsame'⟩
  · exact htruth.resellers
  · intro i row' hi hrow' hsome
    have hunsaved : i ∉ v.unsaved ∧ (i = old.id → ¬old.Targets new) := by
      simp only [View.wrote] at hi
      split_ifs at hi with htargets
      · rw [Set.mem_insert_iff, not_or] at hi
        exact ⟨hi.2, fun he => absurd he hi.1⟩
      · exact ⟨hi, fun _ => htargets⟩
    by_cases he : i = old.id
    · subst he
      cases hself.symm.trans hrow'
      have hnew := hsame.update hk
      rw [hnew.target] at hsome
      have htarget : new.target = old.target :=
        not_not.mp fun hne => hunsaved.2 rfl ⟨hsome, hne⟩
      have hbefore : new.beforeSnapshot = old.beforeSnapshot := by
        cases hchange with
        | keep _ before => exact before
        | begin _ _ _ _ _ _ _ _ fresh =>
          rw [htarget, fresh] at hsome
          exact absurd rfl hsome
        | reserve _ _ _ _ _ _ _ _ _ before => exact before
        | finish _ _ _ _ _ _ _ _ _ _ _ _ _ _ before => exact before
        | provisioned _ _ _ _ _ _ _ _ _ _ _ _ _ _ before => exact before
        | decide _ _ role => cases role
        | pay _ _ role => rcases role with role | role <;> cases role
      obtain ⟨row₀, hrow₀, htarget₀, hbefore₀⟩ :=
        hsaved old.id row hunsaved.1 hrow (by rw [hsame.target, ← htarget]; exact hsome)
      refine ⟨row₀, hrow₀, ?_, ?_⟩
      · rw [htarget₀, hsame.target, hnew.target, htarget]
      · rw [hbefore₀, hsame.before, hnew.before, hbefore]
    · exact hsaved i row' hunsaved.1 ((hother i he).symm.trans hrow') hsome
  · intro i o ho
    by_cases hi : i = old.id
    · subst hi
      cases hrow.symm.trans ho
      exact ⟨_, hself, hchange.advances hk hsame htruth⟩
    · exact ⟨o, (hother i hi).trans ho, .refl _ o⟩
  · exact fun i r hr => ⟨r, hr, fun _ => rfl⟩

theorem exec_updateReseller {old new : Reseller}
    (hok : StmtOk .orders sells v (.updateReseller old new))
    (hexec : (Stmt.updateReseller old new).exec T = .ok (T', n)) (hsound : T.Sound sells)
    (htruth : Truth T v) (hsaved : Saved C T v) :
    Stepped sells C T T' (v.wrote (.updateReseller old new)) := by
  obtain ⟨hk, hknown, hchange⟩ := hok
  obtain ⟨row, hrow, hsame⟩ := htruth.resellers _ _ (hknown trivial)
  simp only [Stmt.exec] at hexec
  split_ifs at hexec
  cases hexec
  have hid : ∀ r : Reseller, (old.update new r).id = r.id := fun _ => rfl
  have hself := Rows.get_set (f := old.update new) hrow (Rows.mem_of_get hrow).2
  have hother : ∀ j, j ≠ old.id →
      Rows.get Reseller.id (Rows.set Reseller.id T.resellers old.id (old.update new)) j =
        Rows.get Reseller.id T.resellers j := fun j hj => Rows.get_set_of_ne hid hj
  have hview : (v.wrote (.updateReseller old new)).orders = v.orders ∧
      (v.wrote (.updateReseller old new)).unsaved = v.unsaved := by
    simp only [View.wrote]
    split_ifs <;> exact ⟨rfl, rfl⟩
  have hresellers : (v.wrote (.updateReseller old new)).resellers =
      Function.update v.resellers old.id (some new) := by
    simp only [View.wrote]
  refine ⟨⟨hsound.orders, hsound.resellers.set hid, hsound.products⟩, ⟨?_, ?_⟩,
    hsaved.of_eq rfl hview.2, ⟨?_, ?_⟩⟩
  · rw [hview.1]
    exact htruth.orders
  · intro i r hr
    rw [hresellers] at hr
    by_cases hi : i = old.id
    · subst hi
      rw [Function.update_self] at hr
      cases hr
      exact ⟨_, hself, hsame.update hk⟩
    · rw [Function.update_of_ne hi] at hr
      obtain ⟨row', hrow', hsame'⟩ := htruth.resellers i r hr
      exact ⟨row', (hother i hi).trans hrow', hsame'⟩
  · exact fun i o ho => ⟨o, ho, .refl _ o⟩
  · intro i r hr
    by_cases hi : i = old.id
    · subst hi
      cases hrow.symm.trans hr
      exact ⟨_, hself, hchange.advances hk hsame⟩
    · exact ⟨r, (hother i hi).trans hr, fun _ => rfl⟩

theorem exec_insertReseller {row : Reseller}
    (hexec : (Stmt.insertReseller row).exec T = .ok (T', n)) (hsound : T.Sound sells)
    (htruth : Truth T v) (hsaved : Saved C T v) : Stepped sells C T T' v := by
  simp only [Stmt.exec] at hexec
  split_ifs at hexec
  cases hexec
  have hkeyed : Rows.Keyed Reseller.id (T.resellers ++
      [{ row with id := Rows.next Reseller.id T.resellers }]) :=
    hsound.resellers.append fun r' hr' => Nat.ne_of_lt (Rows.lt_next hr')
  refine ⟨⟨hsound.orders, hkeyed, hsound.products⟩, ⟨htruth.orders, ?_⟩, hsaved,
    ⟨fun i o ho => ⟨o, ho, .refl _ o⟩, fun i r hr => ?_⟩⟩
  · intro i r hr
    obtain ⟨row', hrow', hsame⟩ := htruth.resellers i r hr
    exact ⟨row', Rows.get_append _ hrow', hsame⟩
  · exact ⟨r, Rows.get_append _ hr, fun _ => rfl⟩

/-- **One statement that the contract allows.** -/
theorem StmtOk.stepped (hok : StmtOk .orders sells v st) (hexec : st.exec T = .ok (T', n))
    (hsound : T.Sound sells) (htruth : Truth T v) (hsaved : Saved C T v) :
    Stepped sells C T T' (v.wrote st) := by
  cases st with
  | updateOrder old new => exact exec_updateOrder hok hexec hsound htruth hsaved
  | updateReseller old new => exact exec_updateReseller hok hexec hsound htruth hsaved
  | insertReseller row => exact exec_insertReseller hexec hsound htruth hsaved
  | updateTrial old new =>
    simp only [Stmt.exec] at hexec
    split_ifs at hexec
    cases hexec
    exact ⟨⟨hsound.orders, hsound.resellers, hsound.products⟩, htruth.of_eq rfl rfl rfl rfl,
      hsaved.of_eq rfl rfl, .of_eq rfl rfl⟩
  | insertTrial row => exact absurd hok.1 (by rintro ⟨⟩)
  | claimOrder | deleteExpiredLock | deleteLock | markDisabledByParent => exact hok.elim
  | updatePayment | updateUser | insertUser | insertLock | insertWarning | insertAudit =>
    simp only [Stmt.exec] at hexec
    all_goals
      try split_ifs at hexec
      cases hexec
      exact .frame hsound htruth hsaved rfl rfl rfl

/-- **A flush that the contract allows.** -/
theorem FlushOk.stepped {sts : List Stmt} (hok : FlushOk .orders sells v sts)
    (hexec : Stmt.execAll T sts = .ok T') (hsound : T.Sound sells) (htruth : Truth T v)
    (hsaved : Saved C T v) : Stepped sells C T T' (v.wroteAll sts) := by
  induction sts generalizing T v with
  | nil =>
    cases hexec
    exact ⟨hsound, htruth, hsaved, .refl _⟩
  | cons st sts ih =>
    rw [Stmt.execAll] at hexec
    obtain ⟨⟨T₁, n⟩, hst, hsts⟩ := bind_eq_ok hexec
    have h₁ := hok.1.stepped hst hsound htruth hsaved
    have h₂ := ih hok.2 hsts h₁.sound h₁.truth h₁.saved
    exact ⟨h₂.sound, h₂.truth, h₂.saved, h₁.advance.trans h₂.advance⟩

end Step

end ResellerBot
