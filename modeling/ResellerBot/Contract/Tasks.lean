import ResellerBot.Contract.Orders

/-!
# ResellerBot.Contract.Tasks — the job of the order worker keeps the contract

From one order to the loop over all that are open, the lock around it, and the session it runs in.
-/

open Interact

namespace ResellerBot

variable {k : Role} {sells : Product → Prop} {rest : List Order} {ep : ℕ} {o : Order}
  {r : Reseller} {s : Session} {v w : View}

/-! ## One order -/

theorem holding_product (s : Session) (p : Product) :
    s.holding .product ⟨some p, p⟩ = { s with product := some ⟨some p, p⟩ } := by
  have hst : s.stmtsOf .product = [] := by
    cases hp : s.product <;> simp [Session.stmtsOf, Slot.product, hp]
  rw [Session.holding, hst, List.append_nil]
  rfl

namespace Started

theorem product (h : Started k sells rest ep o s v) {p : Product} (hp : sells p) :
    Started k sells rest ep o (s.holding .product ⟨some p, p⟩) v := by
  rw [holding_product]
  refine ⟨{ h.rested with product := ?_ }, h.epoch, h.order, h.opens, h.saved⟩
  rintro ob ⟨⟩
  exact hp

theorem done (h : Started k sells rest ep o s v) {st : Stmt} (hst : st.quiet) :
    Done k sells ep rest { s with pending := s.pending ++ [st] } v :=
  ⟨h.epoch, h.rested.toBench.addQuiet hst⟩

end Started

theorem WithReseller.flushed (h : WithReseller k sells rest ep o r s v) (hw : w = v ∨ w = v.begun) :
    WithReseller k sells rest ep o r s.flushed w :=
  ⟨h.1.flushed hw, by simp [Session.flushed, h.2.1, Session.clean], h.2.2⟩

/-- With the product that is in the variable already. -/
theorem WithReseller.at (h : WithReseller k sells rest ep o r s v) {ob : Obj Product}
    (hp : s.product = some ob) (hi : ob.cur.id = o.productId) : At k sells rest ep o r s v :=
  ⟨h.1.rested, h.1.epoch, h.1.order, h.2.1, ⟨ob, hp, hi⟩, h.2.2, h.1.opens, h.1.saved⟩

/-- The product of an order, loaded between clean objects. -/
theorem Keeps.loadProduct {P : Session → View → Prop} {Q : Option Product → Session → View → Prop}
    {i : ℕ} (hR : ∀ s v, P s v → Rested k sells rest s v)
    (hF : ∀ s v w, P s v → w = v ∨ w = v.begun → P s.flushed w)
    (hheld : ∀ s v ob, P s v → s.product = some ob → ob.cur.id = i → Q (some ob.cur) s v)
    (hhold : ∀ s v p, P s v → p.id = i → sells p → Q (some p) (s.holding .product ⟨some p, p⟩) v)
    (hnone : ∀ s v, P s v → Q none s v) :
    Keeps k sells P (Slot.product.getByKey Product.id i (ResellerBot.query (.product i))) Q
      fun _ => Ready k sells := by
  refine .getByKey hheld ?_
  let R (row : Option Product) (s : Session) (v : View) : Prop := P s v ∧ ∀ p ∈ row, p.id = i ∧ sells p
  refine (Keeps.load (R := R) ?_ ?_ ?_).pre fun s v h => h.1
  · refine .restedQuery hR hF ?_
    rintro s v row h hfit
    exact ⟨h, hfit⟩
  · exact fun p s v h => hhold s v p h.1 (h.2 p rfl).1 (h.2 p rfl).2
  · exact fun s v h => hnone s v h.1

/-- The `try` block and the report, at an order with its reseller and its product. -/
theorem Keeps.attemptPaid (cfg : Settings) :
    Keeps k sells (At k sells rest ep o r) (do
        let outcome ← Act.attempt (ResellerBot.applyPaid cfg)
        ResellerBot.reportPaid cfg outcome)
      (fun _ => Done k sells ep rest) fun _ => Ready k sells := by
  refine (Keeps.applyPaid cfg).attempt.bind fun result => (Keeps.reportPaid cfg result).pre ?_
  intro s v h
  cases result with
  | ok _ => exact h
  | error _ => exact h

theorem Keeps.atDryRun (cfg : Settings) :
    Keeps k sells (At k sells rest ep o r) (RuntimeSettings.isDryRun cfg)
      (fun _ => At k sells rest ep o r) fun _ => Ready k sells := by
  refine Keeps.isDryRun (fun key => ?_) fun _ s v h => h.rested.ready
  refine (Keeps.atSetting (K := fun _ => True) (fun _ _ => trivial) key).conseq
    (fun s v h => ⟨h, trivial⟩) (fun _ s v h => h.1) fun e s v h => h.ready

theorem Keeps.reconcileOrder (cfg : Settings) :
    Keeps k sells (Started k sells rest ep o) (reconcileOrder cfg)
      (fun _ => Done k sells ep rest) fun _ => Ready k sells := by
  refine Keeps.withOrder (fun s v h => ⟨_, h.order⟩) ?_
  refine Keeps.loadReseller.bind fun row => ?_
  cases row with
  | none =>
    refine Act.Holds.bind (Q := fun _ => Started k sells rest ep o) (Keeps.loadProduct
      (fun s v h => h.rested) (fun s v w h hw => h.flushed hw) (fun s v ob h _ _ => h)
      (fun s v p h _ hp => h.product hp) fun s v h => h) fun product => ?_
    rw [if_pos (.inl rfl)]
    exact Keeps.add fun s v h => h.done rfl
  | some r =>
    refine Act.Holds.bind (Q := Act.Found (fun _ => At k sells rest ep o r)
      (WithReseller k sells rest ep o r)) (Keeps.loadProduct (fun s v h => h.1.rested)
      (fun s v w h hw => h.flushed hw) (fun s v ob h hob hi => h.at hob hi)
      (fun s v p h hi hp => Started.holdProduct h hp hi) fun s v h => h) fun product => ?_
    cases product with
    | none =>
      rw [if_pos (.inr rfl)]
      exact Keeps.add fun s v h => h.1.done rfl
    | some p =>
      rw [if_neg (by simp)]
      refine (Keeps.atDryRun cfg).bind fun dry => ?_
      cases dry with
      | true => exact Keeps.add fun s v h => ⟨h.epoch, h.rested.toBench.addQuiet rfl⟩
      | false => exact Keeps.attemptPaid cfg

/-! ## All open orders -/

/-- The next order is taken up. -/
theorem Rested.started (h : Rested k sells (o :: rest) s v) (he : s.epoch = ep) :
    Started k sells rest ep o (s.holding .order ⟨some o, o⟩) v := by
  have hst : s.stmtsOf .order = [] := by
    cases ho : s.order with
    | none => exact stmtsOf_order_none ho
    | some ob => simp [Session.stmtsOf, Slot.order, ho, updated, h.orderClean ob ho]
  have hs : s.holding .order ⟨some o, o⟩ = { s with order := some ⟨some o, o⟩ } := by
    rw [Session.holding, hst, List.append_nil]
    rfl
  obtain ⟨hknown, hopen, hsaved⟩ := h.untouched o List.mem_cons_self
  have hnodup := List.nodup_cons.mp h.nodup
  have helsewhere : ∀ x ∈ rest, x.id ≠ o.id :=
    fun x hx he => hnodup.1 (he ▸ List.mem_map_of_mem hx)
  rw [hs]
  refine ⟨{ h with
    order := ?_
    orderClean := ?_
    untouched := fun x hx => h.untouched x (List.mem_cons_of_mem _ hx)
    nodup := hnodup.2 }, he, rfl, hopen, hsaved⟩
  · rintro ob ⟨⟩
    exact ⟨o, rfl, hknown, ⟨rfl, rfl, rfl⟩, .keep rfl rfl rfl, .inl rfl, helsewhere⟩
  · rintro ob ⟨⟩
    rfl

theorem Started.acquired (h : Acquired (Started k sells rest ep o) s v) :
    Started k sells rest ep o s v := by
  obtain ⟨v₀, ⟨s₁, v₁, hstart, -, rfl, rfl⟩, rfl⟩ := h
  have := hstart.flushed hstart.rested.afterFlush
  exact this.view (this.rested.agrees rfl rfl rfl le_rfl) le_rfl

/-- What is left after the lock of one order has been released. -/
theorem Done.between (h : Flushed (Done k sells ep rest) s v) :
    Between k sells ep rest s v.begun := by
  obtain ⟨s₀, v₀, ⟨he, hbench⟩, -, rfl, rfl⟩ := h
  have hrested := hbench.rested hbench.afterFlush.1
  exact ⟨fun _ => hrested.view (hrested.agrees rfl rfl rfl le_rfl), fun hne => absurd he hne⟩

theorem Refused.between (h : Refused (Started k sells rest ep o) s v) :
    Between k sells ep rest s v := by
  obtain ⟨s₀, v₀, hstart, hlt, hs, -⟩ := h
  have hne : s.epoch ≠ ep := by
    rw [← hstart.epoch]
    exact Nat.ne_of_gt hlt
  exact ⟨fun he => absurd he hne, fun _ => by rw [hs]; rfl⟩

theorem Keeps.lockAndReconcile (cfg : Settings) (row : Order) :
    Keeps k sells (Between k sells ep (row :: rest)) (lockAndReconcile cfg ep row)
      (fun _ => Between k sells ep rest) fun _ => Ready k sells := by
  refine (Keeps.holdLoaded (Q := Started k sells rest ep row) (fun s v h he =>
    (h.rested he).started he) fun e s v h _ => h.ready).bind fun _ => ?_
  refine Keeps.locked (Q := Done k sells ep rest) (fun s v h => h.rested.ready) ?_
    (fun s v h => h.2.ready) (fun s v h => Done.between h) ?_
  · exact (Keeps.reconcileOrder cfg).pre fun s v h => Started.acquired h
  · exact .pure fun s v h => h.between

/-- The orders as they have been loaded. -/
theorem foldl_sawOrder {rows : List Order} (hnodup : (rows.map Order.id).Nodup) :
    (∀ x ∈ rows, (rows.foldl View.sawOrder v).orders x.id = some x) ∧
      (rows.foldl View.sawOrder v).unsaved = v.unsaved ∧
      (rows.foldl View.sawOrder v).phase = v.phase ∧
      ∀ i, i ∉ rows.map Order.id → (rows.foldl View.sawOrder v).orders i = v.orders i := by
  induction rows generalizing v with
  | nil => exact ⟨fun _ hx => (nomatch hx), rfl, rfl, fun _ _ => rfl⟩
  | cons row rows ih =>
    rw [List.map_cons, List.nodup_cons] at hnodup
    obtain ⟨hmem, hunsaved, hphase, helse⟩ := ih (v := v.sawOrder row) hnodup.2
    refine ⟨?_, hunsaved, hphase, ?_⟩
    · intro x hx
      rcases List.mem_cons.mp hx with rfl | hx
      · rw [List.foldl_cons, helse _ hnodup.1]
        exact Function.update_self _ _ _
      · exact hmem x hx
    · intro i hi
      rw [List.map_cons, List.mem_cons, not_or] at hi
      rw [List.foldl_cons, helse i hi.2]
      exact Function.update_of_ne hi.1 _ _

/-- A session that holds nothing and knows nothing. -/
def Blank (s : Session) (v : View) : Prop :=
  (s.broken = false ∧ s.order = none ∧ s.reseller = none ∧ s.product = none ∧ s.payment = none ∧
    s.trial = none ∧ s.user = none ∧ s.pending = []) ∧ v.phase = .clean ∧ v.unsaved = ∅

theorem Blank.unflushed (h : Blank s v) : s.unflushed = [] := by
  obtain ⟨⟨-, ho, hr, -, hp, ht, hu, hpending⟩, -⟩ := h
  simp [Session.unflushed, Session.stmtsOf, Slot.order, Slot.reseller, Slot.payment, Slot.trial,
    Slot.user, ho, hr, hp, ht, hu, hpending]

theorem Blank.flushed (h : Blank s v) (hw : w = v ∨ w = v.begun) : Blank s.flushed w := by
  obtain ⟨⟨hb, ho, hr, hp, hq, ht, hu, hpending⟩, hphase, hunsaved⟩ := h
  refine ⟨⟨hb, ?_, ?_, hp, ?_, ?_, ?_, rfl⟩, ?_, ?_⟩
  · simp [Session.flushed, ho]
  · simp [Session.flushed, hr]
  · simp [Session.flushed, hq]
  · simp [Session.flushed, ht]
  · simp [Session.flushed, hu]
  · rcases hw with rfl | rfl <;> exact hphase
  · rcases hw with rfl | rfl <;> exact hunsaved

theorem Blank.rested (h : Blank s v) {rows : List Order} (hnodup : (rows.map Order.id).Nodup)
    (hopen : ∀ x ∈ rows, x.Open) : Rested k sells rows s (rows.foldl View.sawOrder v) := by
  obtain ⟨⟨hb, ho, hr, hp, hq, ht, hu, hpending⟩, hphase, hunsaved⟩ := h
  obtain ⟨hmem, hunsaved', hphase', -⟩ := foldl_sawOrder (v := v) hnodup
  refine ⟨⟨hb, ?_, ?_, ?_, ?_, ?_, ?_, ?_, ?_, ?_, hnodup⟩, ?_, ?_⟩
  · exact fun ob hob => absurd (ho.symm.trans hob) (by simp)
  · exact fun ob hob => absurd (hr.symm.trans hob) (by simp)
  · exact fun ob hob => absurd (hp.symm.trans hob) (by simp)
  · exact fun st hst => absurd hst (by simp [hpending])
  · simp [Session.stmtsOf, Slot.payment, hq]
  · simp [Session.stmtsOf, Slot.trial, ht]
  · simp [Session.stmtsOf, Slot.user, hu]
  · rw [hphase', hphase]
    decide
  · refine fun x hx => ⟨hmem x hx, hopen x hx, ?_⟩
    rw [hunsaved', hunsaved]
    exact Set.notMem_empty _
  · exact fun ob hob => absurd (ho.symm.trans hob) (by simp)
  · exact fun ob hob => absurd (hr.symm.trans hob) (by simp)

theorem Keeps.reconcileOrdersLocked (cfg : Settings) (batchSize : ℕ) :
    Keeps k sells Blank (reconcileOrdersLocked cfg batchSize)
      (fun _ => Ready k sells) fun _ => Ready k sells := by
  refine (Keeps.forget (Q := Blank) ?_).bind fun _ => (Keeps.forget (Q := Blank) ?_).bind fun _ => ?_
  · rintro s v ⟨⟨hb, ho, hr, hp, hq, ht, hu, hpending⟩, hv⟩
    have hst : s.stmtsOf .reseller = [] := stmtsOf_reseller_none hr
    refine ⟨⟨hb, ho, rfl, hp, hq, ht, hu, ?_⟩, hv⟩
    show s.pending ++ s.stmtsOf .reseller = []
    rw [hpending, hst, List.append_nil]
  · rintro s v ⟨⟨hb, ho, hr, hp, hq, ht, hu, hpending⟩, hv⟩
    have hst : s.stmtsOf .product = [] := by simp [Session.stmtsOf, Slot.product, hp]
    refine ⟨⟨hb, ho, hr, rfl, hq, ht, hu, ?_⟩, hv⟩
    show s.pending ++ s.stmtsOf .product = []
    rw [hpending, hst, List.append_nil]
  refine (Keeps.query (Q := fun rows => Rested k sells rows) ?_ ?_ ?_ ?_ ?_).bind fun rows => ?_
  · exact fun s v h => ready_of_unflushed h.unflushed
  · rintro s v rows ⟨s₀, v₀, h, -, rfl, rfl⟩ hfit
    rw [h.unflushed]
    exact (h.flushed (.inl rfl)).rested hfit.1 hfit.2
  · rintro e s v h
    exact h.ready
  · exact fun e s v _ _ => ready_expire s true _
  · rintro s v ⟨⟨hb, -⟩, -⟩ hbroken
    rw [hb] at hbroken
    cases hbroken
  · refine Act.Holds.bind (Q := fun ep => Between k sells ep rows) ?_ fun ep => ?_
    · exact fun s v h => ⟨fun _ => h, fun hne => absurd rfl hne⟩
    · exact (Act.Holds.forEachRest (I := Between k sells ep)
        (fun row rest => Keeps.lockAndReconcile cfg row) rows).post fun _ s v h => h.ready

theorem Opened.blank (h : Opened s v) : Blank s v := by
  obtain ⟨rfl, rfl⟩ := h
  exact ⟨⟨rfl, rfl, rfl, rfl, rfl, rfl, rfl, rfl⟩, rfl, rfl⟩

theorem Keeps.reconcileOrders (cfg : Settings) (batchSize : ℕ) :
    Keeps k sells Opened (reconcileOrders cfg batchSize)
      (fun _ => Ready k sells) fun _ => Ready k sells := by
  refine Keeps.locked (Q := Ready k sells) (fun s v h => h.ready) ?_ (fun s v h => h)
    (fun s v h => ready_of_unflushed h.unflushed) (.pure fun s v h => h.ready)
  refine (Keeps.reconcileOrdersLocked cfg batchSize).pre ?_
  rintro s v ⟨v₀, ⟨s₁, v₁, h, -, rfl, rfl⟩, rfl⟩
  rw [h.blank.unflushed]
  exact h.blank.flushed (.inr rfl)

theorem Keeps.reconcilePaidOrders (cfg : Settings) (batchSize : ℕ) :
    Keeps k sells Outside (reconcilePaidOrders cfg batchSize)
      (fun _ => Outside) fun _ => Outside := by
  refine (Keeps.inSession (R := fun _ => True) ?_).post fun _ s v h => h.2
  refine ((Keeps.reconcileOrders cfg batchSize).conseq (fun _ _ h => h) (fun _ _ _ h => h)
    fun _ _ _ _ => trivial).bind fun _ => ?_
  exact Keeps.commit (fun s v h => h) (fun _ _ _ => trivial) (fun _ _ _ _ => trivial)
    fun _ _ _ _ => trivial

/-- **The job of the order worker keeps the contract**, and ends with nothing open. -/
theorem ok_reconcilePaidOrders (cfg : Settings) (batchSize : ℕ) :
    Ok (contract k sells) (launch (reconcilePaidOrders cfg batchSize))
      (fun _ v => v = .start) .start := by
  refine Ok.bind (Keeps.reconcilePaidOrders cfg batchSize Session.empty .start rfl) ?_
  rintro ⟨_ | _, s⟩ v h
  · exact h
  · exact h

end ResellerBot
