import ResellerBot.Contract.Bench

/-!
# ResellerBot.Contract.Orders — the reconciliation keeps the contract

The worker is `At` an order when nothing of its rows is unflushed, and has `Kept` its objects when
they may have changed.  An exception inside the `try` block leaves the objects, or has lost them all.
-/

open Interact

namespace ResellerBot

variable {k : Role} {sells : Product → Prop} {rest : List Order} {ep : ℕ} {o oc : Order}
  {r rc : Reseller} {s : Session} {v w : View} {K : View → Prop}

/-- Reading and reserving: at the order `o` of the reseller `r`, with nothing unflushed. -/
structure At (k : Role) (sells : Product → Prop) (rest : List Order) (ep : ℕ) (o : Order)
    (r : Reseller) (s : Session) (v : View) : Prop where
  rested : Rested k sells rest s v
  epoch : s.epoch = ep
  order : s.order = some ⟨some o, o⟩
  reseller : s.reseller = some ⟨some r, r⟩
  product : ∃ ob, s.product = some ob ∧ ob.cur.id = o.productId
  owner : r.id = o.resellerId
  opens : o.Open
  saved : o.id ∉ v.unsaved

/-- At the order `o`, which the code has changed to `oc`, of the reseller `r`, changed to `rc`. -/
structure Busy (k : Role) (sells : Product → Prop) (rest : List Order) (ep : ℕ) (o oc : Order)
    (r rc : Reseller) (s : Session) (v : View) : Prop where
  bench : Bench k sells rest s v
  epoch : s.epoch = ep
  order : s.order = some ⟨some o, oc⟩
  reseller : s.reseller = some ⟨some r, rc⟩
  product : ∃ ob, s.product = some ob ∧ ob.cur.id = o.productId

structure Kept (k : Role) (sells : Product → Prop) (rest : List Order) (ep : ℕ) (s : Session)
    (v : View) : Prop where
  bench : Bench k sells rest s v
  epoch : s.epoch = ep
  order : ∃ ob, s.order = some ob
  reseller : ∃ ob, s.reseller = some ob

/-- Everything has been expired since. -/
structure Lost (ep : ℕ) (s : Session) : Prop where
  epoch : s.epoch ≠ ep
  order : s.order = none
  unflushed : s.unflushed = []

/-- After an exception inside the `try` block. -/
def Tried (k : Role) (sells : Product → Prop) (rest : List Order) (ep : ℕ) (_ : Err) (s : Session)
    (v : View) : Prop :=
  Kept k sells rest ep s v ∨ Lost ep s

theorem lost_expire (h : s.epoch = ep) (b : Bool) : Lost ep (s.expire b) :=
  ⟨by simp [Session.expire, ← h], rfl, rfl⟩

namespace Busy

theorem kept (h : Busy k sells rest ep o oc r rc s v) : Kept k sells rest ep s v :=
  ⟨h.bench, h.epoch, ⟨_, h.order⟩, _, h.reseller⟩

theorem orderSlot (h : Busy k sells rest ep o oc r rc s v) :
    OrderSlot k sells v rest ⟨some o, oc⟩ o := by
  obtain ⟨o', hs⟩ := h.bench.order _ h.order
  obtain rfl : o = o' := Option.some.inj hs.loaded
  exact hs

theorem resellerSlot (h : Busy k sells rest ep o oc r rc s v) :
    ResellerSlot k v ⟨some r, rc⟩ r := by
  obtain ⟨r', hs⟩ := h.bench.reseller _ h.reseller
  obtain rfl : r = r' := Option.some.inj hs.loaded
  exact hs

/-- Another allowed change of the order. -/
theorem setOrder (h : Busy k sells rest ep o oc r rc s v) {o' : Order} (hk : o.SameKeys o')
    (hc : OrderChange k sells v o o')
    (hr : o'.status = o.status ∨ o.status.Reconciled o'.status) :
    Busy k sells rest ep o o' r rc { s with order := some ⟨some o, o'⟩ } v := by
  refine ⟨{ h.bench with order := ?_ }, h.epoch, rfl, h.reseller, h.product⟩
  rintro ob ⟨⟩
  exact ⟨o, rfl, h.orderSlot.known, hk, hc, hr, h.orderSlot.elsewhere⟩

theorem setReseller (h : Busy k sells rest ep o oc r rc s v) {r' : Reseller} (hk : r.SameKeys r')
    (hc : ResellerChange k v r r') :
    Busy k sells rest ep o oc r r' { s with reseller := some ⟨some r, r'⟩ } v := by
  refine ⟨{ h.bench with reseller := ?_ }, h.epoch, h.order, rfl, h.product⟩
  rintro ob ⟨⟩
  exact ⟨r, rfl, h.resellerSlot.known, hk, hc⟩

theorem answered (h : Busy k sells rest ep o oc r rc s v) (u : Option String) (a : Option Admin) :
    Busy k sells rest ep o oc r rc s (v.answered u a) := by
  refine ⟨?_, h.epoch, h.order, h.reseller, h.product⟩
  cases u with
  | none => exact h.bench
  | some u => exact h.bench.mono rfl rfl rfl rfl rfl (Set.subset_insert _ _) le_rfl

end Busy

namespace At

theorem busy (h : At k sells rest ep o r s v) : Busy k sells rest ep o o r r s v :=
  ⟨h.rested.toBench, h.epoch, h.order, h.reseller, h.product⟩

theorem kept (h : At k sells rest ep o r s v) : Kept k sells rest ep s v := h.busy.kept

theorem known (h : At k sells rest ep o r s v) : v.orders o.id = some o ∧ v.resellers r.id = some r :=
  ⟨h.busy.orderSlot.known, h.busy.resellerSlot.known⟩

theorem view (h : At k sells rest ep o r s v) (ho : w.orders = v.orders)
    (hr : w.resellers = v.resellers) (hp : w.phase = v.phase) (hu : w.unsaved ⊆ v.unsaved) :
    At k sells rest ep o r s w :=
  ⟨h.rested.view (h.rested.agrees ho hr hp hu), h.epoch, h.order, h.reseller, h.product, h.owner,
    h.opens, fun hm => h.saved (hu hm)⟩

theorem answered (h : At k sells rest ep o r s v) (u : Option String) (a : Option Admin) :
    At k sells rest ep o r s (v.answered u a) := by
  cases u with
  | none => exact h
  | some u => exact h.view rfl rfl rfl le_rfl

theorem outdated (h : At k sells rest ep o r s v) : At k sells rest ep o r s v.outdated :=
  h.view rfl rfl rfl le_rfl

theorem flushed (h : At k sells rest ep o r s v) (ho : w.orders = v.orders)
    (hr : w.resellers = v.resellers) (hp : w.phase = v.phase) (hu : w.unsaved ⊆ v.unsaved) :
    At k sells rest ep o r s.flushed w :=
  ⟨h.rested.rested (h.rested.agrees ho hr hp hu), h.epoch,
    by simp [Session.flushed, h.order, Session.clean],
    by simp [Session.flushed, h.reseller, Session.clean], h.product, h.owner, h.opens,
    fun hm => h.saved (hu hm)⟩

end At

/-- Knowledge that does not depend on whether a transaction is open. -/
def Steady (K : View → Prop) : Prop := ∀ v, K v → K v.begun

theorem Flushed.at (hK : Steady K)
    (h : Flushed (fun s v => At k sells rest ep o r s v ∧ K v) s v) :
    At k sells rest ep o r s v ∧ K v := by
  obtain ⟨s₀, v₀, ⟨hA, hk⟩, -, rfl, rfl⟩ := h
  rcases hA.rested.afterFlush with he | he <;> rw [he]
  · exact ⟨hA.flushed rfl rfl rfl le_rfl, hk⟩
  · exact ⟨hA.flushed rfl rfl rfl le_rfl, hK _ hk⟩

theorem Keeps.atQuery {q : Query} {Q : q.Result → Session → View → Prop} (hK : Steady K)
    (hQ : ∀ s v a, At k sells rest ep o r s v → K v → q.Fits sells a → Q a s (v.read q a)) :
    Keeps k sells (fun s v => At k sells rest ep o r s v ∧ K v) (ResellerBot.query q) Q
      (Tried k sells rest ep) := by
  refine .query (fun s v h => h.1.rested.ready) ?_ ?_ ?_ ?_
  · intro s v a h hf
    obtain ⟨hA, hk⟩ := h.at hK
    exact hQ s v a hA hk hf
  · intro e s v h
    exact .inl (h.at hK).1.kept
  · intro e s v h _
    exact .inr (lost_expire h.1.epoch true)
  · intro s v h hb
    exact absurd hb (by simp [h.1.rested.sound])

/-- A commit of the changes: the worker is at the order as it has become. -/
theorem Keeps.busyCommit (hK : ∀ v w : View, w.answers = v.answers → K v → K w)
    (howner : rc.id = oc.resellerId) (hopen : oc.Open) :
    Keeps k sells (fun s v => Busy k sells rest ep o oc r rc s v ∧ K v) ResellerBot.commit
      (fun _ s v => At k sells rest ep oc rc s v ∧ K v) (Tried k sells rest ep) := by
  refine .commit (fun s v h => h.1.bench.ready) ?_ ?_ ?_
  · rintro s v ⟨s₀, v₀, ⟨hB, hk⟩, -, rfl, rfl⟩
    obtain ⟨ha, hans⟩ := hB.bench.afterFlush
    have hsaved : Bench.Agrees rest s₀ v₀ (v₀.afterFlush s₀.unflushed).saved :=
      ⟨by simp [View.saved], fun x hx => ⟨(ha.rest x hx).1, fun hm => absurd hm (by simp [View.saved])⟩,
        ha.order, ha.reseller⟩
    obtain ⟨p, hp, hof⟩ := hB.product
    refine ⟨⟨hB.bench.rested hsaved, hB.epoch, ?_, ?_, ⟨p, hp, ?_⟩, howner, hopen, ?_⟩,
      hK _ _ hans hk⟩
    · simp [Session.flushed, hB.order, Session.clean]
    · simp [Session.flushed, hB.reseller, Session.clean]
    · rw [hof, hB.orderSlot.keys.productId]
    · simp [View.saved]
  · rintro e s v (h | h)
    · exact .inr (lost_expire h.1.epoch true)
    · obtain ⟨s₀, v₀, ⟨hB, -⟩, -, rfl, -⟩ := h
      exact .inr (lost_expire (s := s₀.flushed) hB.epoch true)
  · intro s v h hb
    exact absurd hb (by simp [h.1.bench.sound])

/-! ## Assignments -/

theorem Keeps.assignOrder {X : Err → Session → View → Prop} {f : Order → Order}
    (h : ∀ v, v.orders o.id = some o → v.resellers r.id = some r → v.phase ≠ .closed → K v →
      o.SameKeys (f oc) ∧ OrderChange k sells v o (f oc) ∧
        ((f oc).status = o.status ∨ o.status.Reconciled (f oc).status)) :
    Keeps k sells (fun s v => Busy k sells rest ep o oc r rc s v ∧ K v) (Slot.order.assign f)
      (fun _ s v => Busy k sells rest ep o (f oc) r rc s v ∧ K v) X := by
  refine .assign ?_
  rintro s v ⟨hB, hk⟩
  obtain ⟨h1, h2, h3⟩ := h v hB.orderSlot.known hB.resellerSlot.known hB.bench.phase hk
  have hs : Slot.order.put s ((Slot.order.get s).map fun ob => ⟨ob.db, f ob.cur⟩) =
      { s with order := some ⟨some o, f oc⟩ } := by
    simp [Slot.order, hB.order]
  rw [hs]
  exact ⟨hB.setOrder h1 h2 h3, hk⟩

theorem Keeps.assignReseller {X : Err → Session → View → Prop} {f : Reseller → Reseller}
    (h : ∀ v, K v → r.SameKeys (f rc) ∧ ResellerChange k v r (f rc)) :
    Keeps k sells (fun s v => Busy k sells rest ep o oc r rc s v ∧ K v) (Slot.reseller.assign f)
      (fun _ s v => Busy k sells rest ep o oc r (f rc) s v ∧ K v) X := by
  refine .assign ?_
  rintro s v ⟨hB, hk⟩
  obtain ⟨h1, h2⟩ := h v hk
  have hs : Slot.reseller.put s ((Slot.reseller.get s).map fun ob => ⟨ob.db, f ob.cur⟩) =
      { s with reseller := some ⟨some r, f rc⟩ } := by
    simp [Slot.reseller, hB.reseller]
  rw [hs]
  exact ⟨hB.setReseller h1 h2, hk⟩

section Reads

variable {α : Type} {P : Session → View → Prop} {Q : α → Session → View → Prop}
  {X : Err → Session → View → Prop}

/-- The rest of a program after it has read the variable `order`. -/
theorem Keeps.withOrder {f : Order → Bot α} (h : ∀ s v, P s v → ∃ db, s.order = some ⟨db, oc⟩)
    (hf : Keeps k sells P (f oc) Q X) : Keeps k sells P (Slot.order.read >>= f) Q X := by
  refine (Keeps.read (Q := fun a s v => a = oc ∧ P s v) ?_ ?_).bind fun a =>
    Act.Holds.fact fun ha => ha ▸ hf
  · intro s v ob hP hob
    obtain ⟨db, ho⟩ := h s v hP
    obtain rfl : ob = ⟨db, oc⟩ := Option.some.inj (hob.symm.trans ho)
    exact ⟨rfl, hP⟩
  · intro e s v hP hn
    obtain ⟨db, ho⟩ := h s v hP
    exact absurd (hn.symm.trans ho) (by simp)

theorem Keeps.withReseller {f : Reseller → Bot α}
    (h : ∀ s v, P s v → ∃ db, s.reseller = some ⟨db, rc⟩) (hf : Keeps k sells P (f rc) Q X) :
    Keeps k sells P (Slot.reseller.read >>= f) Q X := by
  refine (Keeps.read (Q := fun a s v => a = rc ∧ P s v) ?_ ?_).bind fun a =>
    Act.Holds.fact fun ha => ha ▸ hf
  · intro s v ob hP hob
    obtain ⟨db, ho⟩ := h s v hP
    obtain rfl : ob = ⟨db, rc⟩ := Option.some.inj (hob.symm.trans ho)
    exact ⟨rfl, hP⟩
  · intro e s v hP hn
    obtain ⟨db, ho⟩ := h s v hP
    exact absurd (hn.symm.trans ho) (by simp)

/-- The product in the variable is one that is sold. -/
theorem Keeps.withProduct {f : Product → Bot α} {i : ℕ}
    (h : ∀ s v, P s v → (∃ ob, s.product = some ob ∧ ob.cur.id = i) ∧
      ∀ ob, s.product = some ob → sells ob.cur)
    (hf : ∀ product, sells product ∧ product.id = i → Keeps k sells P (f product) Q X) :
    Keeps k sells P (Slot.product.read >>= f) Q X := by
  refine (Keeps.read (Q := fun a s v => (sells a ∧ a.id = i) ∧ P s v) ?_ ?_).bind fun a =>
    Act.Holds.fact (hf a)
  · intro s v ob hP hob
    obtain ⟨⟨ob', ho, hi⟩, hsold⟩ := h s v hP
    cases hob.symm.trans ho
    exact ⟨⟨hsold _ hob, hi⟩, hP⟩
  · intro e s v hP hn
    obtain ⟨⟨ob, ho, -⟩, -⟩ := h s v hP
    exact absurd (hn.symm.trans ho) (by simp)

end Reads

/-! ## Provisioning -/

/-- A fruitless draw leaves the worker where it was. -/
theorem Keeps.tryCandidate {telegramUsername : Option String} :
    Keeps k sells (At k sells rest ep o r) (tryCandidate telegramUsername)
      (Act.Found (fun name s v => At k sells rest ep o r s v ∧ Available v name)
        (At k sells rest ep o r)) (Tried k sells rest ep) := by
  refine Keeps.drawCandidate.bind fun name => Act.Holds.fact fun hne => ?_
  let Q (taken : Bool) (s : Session) (v : View) : Prop :=
    At k sells rest ep o r s v ∧ (taken = false → name ∈ v.freeReseller)
  refine Act.Holds.bind (Q := Q) ?_ fun taken => ?_
  · refine (Keeps.atQuery (K := fun _ => True) (fun _ _ => trivial) ?_).pre fun s v h => ⟨h, trivial⟩
    rintro s v (_ | _) hA - -
    · exact ⟨hA.view rfl rfl rfl le_rfl, fun _ => Set.mem_insert _ _⟩
    · exact ⟨hA.view rfl rfl rfl le_rfl, fun h => absurd h (by decide)⟩
  · cases taken with
    | true => exact .pure fun s v h => h.1
    | false =>
      refine Act.Holds.bind (Q := fun live s v => At k sells rest ep o r s v ∧
        name ∈ v.freeReseller ∧ (name, live) ∈ v.answers) ?_ fun live => ?_
      · refine Keeps.getAdmin ?_ ?_ fun e s v h => .inl h.1.kept
        · exact fun s v h => ⟨h.1.view rfl rfl rfl le_rfl, h.2 rfl, Set.mem_insert _ _⟩
        · exact fun a s v h _ => ⟨h.1.view rfl rfl rfl le_rfl, h.2 rfl, Set.mem_insert _ _⟩
      · cases live with
        | none => exact .pure fun s v h => ⟨h.1, hne, h.2.1, h.2.2⟩
        | some a => exact .pure fun s v h => h.1

theorem Keeps.availableUsername {telegramUsername : Option String} :
    Keeps k sells (At k sells rest ep o r) (availableUsername telegramUsername)
      (fun name s v => At k sells rest ep o r s v ∧ Available v name) (Tried k sells rest ep) := by
  refine (Act.Holds.searchFor Keeps.tryCandidate 100).bind fun name => ?_
  cases name with
  | some name => exact .pure fun s v h => h
  | none => exact .raise fun s v h => .inl h.kept

/-- The worker is at an order with a reseller that has a username. -/
def Placed (k : Role) (sells : Product → Prop) (rest : List Order) (ep : ℕ) (s : Session) (v : View) :
    Prop :=
  ∃ o r, At k sells rest ep o r s v ∧ truthy r.rebeccaAdminUsername

/-- What the worker knows of the order it is at. -/
theorem Keeps.facts {α : Type} {m : Bot α} {Q : α → Session → View → Prop}
    {X : Err → Session → View → Prop}
    (h : o.Open → r.id = o.resellerId → Keeps k sells (At k sells rest ep o r) m Q X) :
    Keeps k sells (At k sells rest ep o r) m Q X :=
  fun s v hA => h hA.opens hA.owner s v hA

/-- The reservation is durable when it returns. -/
theorem Keeps.reserveUsername (hr : ¬truthy r.rebeccaAdminUsername) :
    Keeps k sells (At k sells rest ep o r) reserveUsername (fun _ => Placed k sells rest ep)
      (Tried k sells rest ep) := by
  refine Keeps.facts fun hopen howner => ?_
  refine Keeps.withReseller (fun s v h => ⟨_, h.reseller⟩) ?_
  refine Keeps.availableUsername.bind fun name => ?_
  let K (v : View) : Prop := Available v name
  let o₁ : Order := { o with status := .APPLYING }
  have hst : ∀ {o' : Order}, o'.status = .APPLYING →
      o'.status = o.status ∨ o.status.Reconciled o'.status := by
    intro o' h'
    rcases hopen with h | h
    · exact .inr (.inl ⟨h, h'⟩)
    · exact .inl (h'.trans h.symm)
  have hreserve : ∀ {o' : Order} {v : View}, v.resellers r.id = some r → v.phase ≠ .closed → K v →
      o'.status = .APPLYING → o'.beforeSnapshot = o.beforeSnapshot →
      (o'.afterSnapshot = o.afterSnapshot ∨ ∃ expire product, sells product ∧
        o'.afterSnapshot = some (.target (provisioningTarget name expire product))) →
      OrderChange k sells v o o' :=
    fun hk hp hv h1 h2 h3 => .reserve r name hp hopen hk howner hr hv h1 h2 h3
  refine ((Keeps.assignReseller (K := K) ?_).pre fun s v h => ⟨h.1.busy, h.2⟩).bind fun _ => ?_
  · exact fun v hv => ⟨⟨rfl, rfl⟩, .reserve name hr hv rfl rfl⟩
  refine (Keeps.assignOrder ?_).bind fun _ => ?_
  · exact fun v _ hk hp hv => ⟨⟨rfl, rfl, rfl⟩, hreserve hk hp hv rfl rfl (.inl rfl), hst rfl⟩
  refine (Keeps.now fun t s v h => h).bind fun now => ?_
  refine Keeps.withProduct (fun s v h => ⟨h.1.product, h.1.bench.product⟩) fun product hsold => ?_
  refine (Keeps.outcome (Q := fun _ s v => Busy k sells rest ep o o₁ r (reserved name r) s v ∧ K v)
    (fun _ _ _ _ h => h) fun _ _ s v h => .inl h.1.kept).bind fun expire => ?_
  let o₂ : Order := { o₁ with
    afterSnapshot := some (.target (provisioningTarget name expire product)) }
  refine (Keeps.assignOrder ?_).bind fun _ => ?_
  · exact fun v _ hk hp hv => ⟨⟨rfl, rfl, rfl⟩,
      hreserve hk hp hv rfl rfl (.inr ⟨expire, product, hsold.1, rfl⟩), hst rfl⟩
  have hc : Keeps k sells
      (fun s v => Busy k sells rest ep o o₂ r (reserved name r) s v ∧ name ≠ "") ResellerBot.commit
      (fun _ s v => At k sells rest ep o₂ (reserved name r) s v ∧ name ≠ "")
      (Tried k sells rest ep) :=
    Keeps.busyCommit (fun _ _ _ h => h) howner (.inr rfl)
  refine (hc.pre fun s v h => ⟨h.1, h.2.ne⟩).post fun _ s v h => ⟨_, _, h.1, ?_⟩
  simp [reserved, truthy, h.2]

theorem Keeps.keptAudit {X : Err → Session → View → Prop} {action result : String}
    {orderId : Option ℕ} :
    Keeps k sells (Kept k sells rest ep) (audit action result orderId)
      (fun _ => Kept k sells rest ep) X :=
  Keeps.add fun _ _ h => ⟨h.bench.addQuiet rfl, h.epoch, h.order, h.reseller⟩

theorem Order.Open.toApplied {o o' : Order} (h : o.Open) (h' : o'.status = .APPLIED) :
    o.status.Reconciled o'.status :=
  h.elim (fun h => .inr (.inl ⟨h, h'⟩)) fun h => .inr (.inr ⟨h, h'⟩)

section Provisioned

variable {name : String} {live : Admin} {target : Snapshot}

/-- The order and its reseller after a verified provisioning. -/
structure Provisioned (o : Order) (r : Reseller) (name : String) (live : Admin) (target : Snapshot) :
    Prop where
  status : r.status = .PROVISIONING
  recorded : o.target = some target
  admin : r.rebeccaAdminUsername = some name
  verified : verifyEntitlement (some live) (some name) target.entitlement = .ok live

theorem Keeps.finishProvisioning (hp : Provisioned o r name live target) :
    Keeps k sells (fun s v => At k sells rest ep o r s v ∧ (name, some live) ∈ v.answers)
      (finishProvisioning name) (fun _ => Kept k sells rest ep) (Tried k sells rest ep) := by
  intro s v hA
  refine (?_ : Keeps k sells (fun s v => Busy k sells rest ep o o r r s v ∧
    (name, some live) ∈ v.answers) _ _ _) s v ⟨hA.1.busy, hA.2⟩
  have hopen := hA.1.opens
  have howner := hA.1.owner
  have hdone : ∀ {o' : Order} {v : View}, v.resellers r.id = some r → v.phase ≠ .closed →
      (name, some live) ∈ v.answers → o'.status = .APPLIED → o'.beforeSnapshot = o.beforeSnapshot →
      (o'.afterSnapshot = o.afterSnapshot ∨
        ∃ a, (name, some a) ∈ v.answers ∧ o'.afterSnapshot = some (.dump a)) →
      OrderChange k sells v o o' :=
    fun hk hph ha h1 h2 h3 => .provisioned r name live target hph hopen hp.recorded hk howner
      hp.admin hp.status ha hp.verified h1 h2 h3
  refine Keeps.withProduct (fun s v h => ⟨h.1.product, h.1.bench.product⟩) fun product _ => ?_
  refine (Keeps.assignReseller ?_).bind fun _ => ?_
  · exact fun v _ => ⟨⟨rfl, rfl⟩, .activate hp.status rfl rfl⟩
  refine (Keeps.assignOrder ?_).bind fun _ => ?_
  · exact fun v _ hk hph ha => ⟨⟨rfl, rfl, rfl⟩, hdone hk hph ha rfl rfl (.inl rfl),
      .inr (hopen.toApplied rfl)⟩
  refine (Keeps.now fun t s v h => h).bind fun now => ?_
  refine (Keeps.assignOrder ?_).bind fun _ => ?_
  · exact fun v _ hk hph ha => ⟨⟨rfl, rfl, rfl⟩, hdone hk hph ha rfl rfl (.inl rfl),
      .inr (hopen.toApplied rfl)⟩
  let o₁ : Order := applied now { o with status := .APPLIED }
  refine Act.Holds.bind (Q := fun a s v =>
    Busy k sells rest ep o o₁ r (activated product r) s v ∧ (name, some live) ∈ v.answers ∧
      (name, a) ∈ v.answers) ?_ fun a => ?_
  · refine Keeps.getAdmin ?_ ?_ fun e s v h => .inl h.1.kept
    · exact fun s v h => ⟨h.1.answered _ _, Set.mem_insert_of_mem _ h.2, Set.mem_insert _ _⟩
    · exact fun a s v h _ => ⟨h.1.answered _ _, Set.mem_insert_of_mem _ h.2, Set.mem_insert _ _⟩
  cases a with
  | none => exact .raise fun s v h => .inl h.1.kept
  | some a =>
    refine Keeps.withOrder (fun s v h => ⟨_, h.1.order⟩) ?_
    refine (Keeps.assignOrder ?_).bind fun _ => ?_
    · exact fun v _ hk hph ha => ⟨⟨rfl, rfl, rfl⟩,
        hdone hk hph ha.1 rfl rfl (.inr ⟨a, ha.2, rfl⟩), .inr (hopen.toApplied rfl)⟩
    · exact Keeps.keptAudit.pre fun s v h => h.1.kept

theorem Keeps.atSetting {K : View → Prop} (hK : Steady K) (key : String) :
    Keeps k sells (fun s v => At k sells rest ep o r s v ∧ K v) (ResellerBot.query (.setting key))
      (fun _ s v => At k sells rest ep o r s v ∧ K v) (Tried k sells rest ep) :=
  Keeps.atQuery hK fun _ _ _ h1 h2 _ => ⟨h1, h2⟩

/-- The credentials are delivered, or the order stays where it is. -/
theorem Keeps.deliverCredentials {tg : ℤ} (hp : Provisioned o r name live target) :
    Keeps k sells (fun s v => At k sells rest ep o r s v ∧ (name, some live) ∈ v.answers)
      (deliverCredentials tg name) (fun _ => Kept k sells rest ep) (Tried k sells rest ep) := by
  intro s v hA
  refine (?_ : Keeps k sells (fun s v => Busy k sells rest ep o o r r s v ∧
    (name, some live) ∈ v.answers) _ _ _) s v ⟨hA.1.busy, hA.2⟩
  let o₁ := failed "CREDENTIAL_DELIVERY_PENDING" o
  have hopen : o₁.Open := hA.1.opens
  have howner : r.id = o₁.resellerId := hA.1.owner
  have hp₁ : Provisioned o₁ r name live target := ⟨hp.status, hp.recorded, hp.admin, hp.verified⟩
  refine (Keeps.assignOrder ?_).bind fun _ => ?_
  · exact fun v _ _ _ _ => ⟨⟨rfl, rfl, rfl⟩, .keep rfl rfl rfl, .inl rfl⟩
  refine (Keeps.busyCommit (by intro v w h hk; rw [h]; exact hk) howner hopen).bind fun _ => ?_
  refine (Keeps.customerPanelUrl (Keeps.atSetting fun _ h => h)
    fun e s v h => .inl h.1.kept).bind fun _ => ?_
  refine Keeps.notify.bind fun delivered => ?_
  cases delivered with
  | true => exact Keeps.finishProvisioning hp₁
  | false => exact .raise fun s v h => .inl h.1.kept

theorem Keeps.provisionTarget (cfg : Settings) (hstatus : r.status = .PROVISIONING)
    (hnamed : truthy r.rebeccaAdminUsername) (htarget : o.target = some target) :
    Keeps k sells (At k sells rest ep o r) (provisionTarget cfg o r target)
      (fun _ => Kept k sells rest ep) (Tried k sells rest ep) := by
  obtain ⟨name, hname⟩ : ∃ name, r.rebeccaAdminUsername = some name := by
    cases hr : r.rebeccaAdminUsername with
    | none => rw [hr] at hnamed; exact absurd hnamed (by simp [truthy])
    | some name => exact ⟨name, rfl⟩
  have hne : name ≠ "" := by
    rw [hname] at hnamed
    simpa [truthy] using hnamed
  have hbacked : ∀ s v, At k sells rest ep o r s v → Backed v o r target name := fun s v h =>
    ⟨h.known.1, h.known.2, h.owner, h.opens, h.saved, htarget, hname, hne⟩
  unfold ResellerBot.provisionTarget
  rw [hname, Option.getD_some]
  refine Keeps.generatePassword.bind fun password => ?_
  split_ifs
  · exact .raise fun s v h => .inl h.kept
  refine (Keeps.provision (fun s v h => h.view rfl rfl rfl le_rfl) ?_ ?_ ?_
    fun e s v h => .inl h.kept).bind fun live => ?_
  · exact fun u a s v h => h.answered u a
  · exact fun s v h ha => .create (hbacked s v h) hstatus ha
  · exact fun a s v h ha => .recover (hbacked s v h) hstatus ha
  · intro s v h
    exact Keeps.deliverCredentials ⟨hstatus, htarget, hname, h.2.2⟩ s v ⟨h.1, h.2.1⟩

theorem Keeps.provisionOrder (cfg : Settings) (hstatus : r.status = .PROVISIONING)
    (hnamed : truthy r.rebeccaAdminUsername) :
    Keeps k sells (At k sells rest ep o r) (provisionOrder cfg) (fun _ => Kept k sells rest ep)
      (Tried k sells rest ep) := by
  refine Keeps.withOrder (fun s v h => ⟨_, h.order⟩) ?_
  refine Keeps.withReseller (fun s v h => ⟨_, h.reseller⟩) ?_
  rcases ha : o.afterSnapshot with _ | target | live
  · exact .raise fun s v h => .inl h.kept
  · exact Keeps.provisionTarget cfg hstatus hnamed (by simp [Order.target, ha])
  · exact .raise fun s v h => .inl h.kept

end Provisioned

/-! ## Renewals -/

theorem Keeps.failOrder {α : Type} {e : Err} {Q : α → Session → View → Prop} :
    Keeps k sells (Kept k sells rest ep) (failOrder e) Q (Tried k sells rest ep) := by
  refine Act.Holds.bind (Q := fun _ => Kept k sells rest ep) (Keeps.assign ?_) fun _ =>
    .raise fun s v h => .inl h
  intro s v h
  obtain ⟨ob, ho⟩ := h.order
  obtain ⟨o, hs⟩ := h.bench.order ob ho
  refine ⟨{ h.bench with order := ?_ }, h.epoch, ⟨_, by simp [Slot.order, ho]; rfl⟩, h.reseller⟩
  intro ob' hob'
  obtain rfl : ob' = ⟨ob.db, failed e.msg ob.cur⟩ := by
    simpa [Slot.order, ho, eq_comm] using hob'
  exact ⟨o, hs.loaded, hs.known, ⟨hs.keys.id, hs.keys.resellerId, hs.keys.productId⟩,
    hs.change.of_eq rfl rfl rfl, hs.reconciles, hs.elsewhere⟩

theorem Keeps.withOrderLock {α : Type} {P : Session → View → Prop}
    {Q : α → Session → View → Prop} {X : Err → Session → View → Prop} {orderId : ℕ} {m : Bot α}
    (hm : Keeps k sells P m Q X) : Keeps k sells P (withOrderLock orderId m) Q X := by
  refine (Keeps.ask (e := .lock orderId) (Q := fun _ => P) (fun _ _ _ => trivial)
    fun s v _ h _ => h).bind fun _ => hm.attempt.bind fun result => ?_
  cases result with
  | ok a =>
    exact (Keeps.ask (e := .unlock orderId) (Q := fun _ => Q a) (fun _ _ _ => trivial)
      fun s v _ h _ => h).bind fun _ => .pure fun s v h => h
  | error e =>
    exact (Keeps.ask (e := .unlock orderId) (Q := fun _ => X e) (fun _ _ _ => trivial)
      fun s v _ h _ => h).bind fun _ => .raise fun s v h => h

theorem reactivate_change (r : Reseller) (product : Option ℕ) :
    ResellerChange k v r { reactivate r with productId := product } := by
  cases hs : r.status with
  | EXPIRED => exact .reactivate (by rw [hs]; rfl) (by simp [reactivate, hs, ResellerStatus.reactivated]) rfl
  | DISABLED => exact .reactivate (by rw [hs]; rfl) (by simp [reactivate, hs, ResellerStatus.reactivated]) rfl
  | _ => exact .keep (by simp [reactivate, hs, ResellerStatus.reactivated]) rfl

section Renewal

variable {name : String} {live : Admin} {before target : Snapshot} {now : Datetime}

/-- A renewal whose target is recorded, while the live admin is as before. -/
structure Renewing (o : Order) (r : Reseller) (name : String) (live : Admin)
    (before target : Snapshot) : Prop where
  admin : r.rebeccaAdminUsername = some name
  named : name ≠ ""
  suspended : r.status ≠ .SUSPENDED
  provisioned : r.status ≠ .PROVISIONING
  username : live.username = name
  recordedBefore : o.beforeSnapshot = some before
  recordedTarget : o.target = some target
  untouched : snapshotMatches live before

theorem At.backed (h : At k sells rest ep o r s v) (hr : Renewing o r name live before target) :
    Backed v o r target name :=
  ⟨h.known.1, h.known.2, h.owner, h.opens, h.saved, hr.recordedTarget, hr.admin, hr.named⟩

theorem Keeps.writeTarget (hr : Renewing o r name live before target) :
    Keeps k sells (fun s v => At k sells rest ep o r s v ∧ (name, some live) ∈ v.answers)
      (writeTarget (.renewal o r live) live.username target r.status.paused)
      (fun _ => At k sells rest ep o r) (fun _ => Kept k sells rest ep) := by
  rw [hr.username]
  refine (Keeps.call (Q := fun _ => At k sells rest ep o r) ?_ ?_ ?_).bind fun _ => ?_
  · exact fun s v h _ => .renew (h.1.backed hr) hr.suspended hr.provisioned h.2 hr.username
      hr.recordedBefore hr.untouched
  · exact fun _ s v h _ => h.1.outdated
  · exact fun e s v h => h.1.outdated.kept
  · refine .when (fun hp => Keeps.call ?_ ?_ ?_) fun _ s v h => h
    · exact fun s v h _ => .reenable (h.backed hr) hp hr.username hr.recordedBefore hr.untouched
    · exact fun _ s v h _ => h.outdated
    · exact fun e s v h => h.outdated.kept

/-- The live admin is as the target of the order says. -/
structure Achieved (o : Order) (r : Reseller) (name : String) (live : Admin) (target : Snapshot) :
    Prop where
  opens : o.Open
  recorded : o.target = some target
  owner : r.id = o.resellerId
  holder : r.rebeccaAdminUsername = some name
  username : live.username = name
  achieved : snapshotMatches live target

theorem Achieved.change (ha : Achieved o r name live target) (hk : v.resellers r.id = some r)
    (hp : v.phase ≠ .closed) (hans : (name, some live) ∈ v.answers) :
    o.SameKeys (applied now o) ∧ OrderChange k sells v o (applied now o) ∧
      ((applied now o).status = o.status ∨ o.status.Reconciled (applied now o).status) :=
  ⟨⟨rfl, rfl, rfl⟩, .finish r name live target hp ha.opens ha.recorded hk ha.owner ha.holder hans
    ha.username ha.achieved rfl rfl rfl, .inr (ha.opens.toApplied rfl)⟩

theorem Keeps.verifyTarget (hr : Renewing o r name live before target) (hopen : o.Open) :
    Keeps k sells (At k sells rest ep o r) (verifyTarget live target now)
      (fun _ => Kept k sells rest ep) (Tried k sells rest ep) := by
  unfold ResellerBot.verifyTarget
  rw [hr.username]
  refine Act.Holds.bind (Q := fun a s v => At k sells rest ep o r s v ∧
    ∀ b ∈ a, b.username = name ∧ (name, some b) ∈ v.answers) ?_ fun a => ?_
  · refine Keeps.getAdmin ?_ ?_ fun e s v h => .inl h.kept
    · exact fun s v h => ⟨h.view rfl rfl rfl le_rfl, fun b hb => absurd hb (by simp)⟩
    · rintro b s v h hb
      refine ⟨h.view rfl rfl rfl le_rfl, ?_⟩
      intro b' hb'
      obtain rfl : b = b' := Option.some.inj hb'
      exact ⟨(Option.some.inj hb).symm, Set.mem_insert _ _⟩
  split_ifs with hm
  · obtain ⟨b, rfl, hb⟩ : ∃ b, a = some b ∧ snapshotMatches b target = true := by
      cases a with
      | none => exact absurd hm (by simp)
      | some b => exact ⟨b, rfl, by simpa using hm⟩
    intro s v h
    obtain ⟨hname, hans⟩ := h.2 b rfl
    have ha : Achieved o r name b target :=
      ⟨hopen, hr.recordedTarget, h.1.owner, hr.admin, hname, hb⟩
    refine (?_ : Keeps k sells (fun s v => Busy k sells rest ep o o r r s v ∧
      (name, some b) ∈ v.answers) _ _ _) s v ⟨h.1.busy, hans⟩
    refine (Keeps.assignReseller ?_).bind fun _ => ?_
    · exact fun v _ => ⟨⟨rfl, rfl⟩, reactivate_change r r.productId⟩
    refine Keeps.withProduct (fun s v h => ⟨h.1.product, h.1.bench.product⟩) fun product _ => ?_
    refine (Keeps.assignReseller ?_).bind fun _ => ?_
    · exact fun v _ => ⟨⟨rfl, rfl⟩, reactivate_change r (some product.id)⟩
    refine (Keeps.assignOrder ?_).bind fun _ => ?_
    · exact fun v _ hk hp h => ha.change hk hp h
    exact .pure fun s v h => h.1.kept
  · exact Keeps.failOrder.pre fun s v h => h.1.kept

theorem Keeps.performTarget (hr : Renewing o r name live before target) (hopen : o.Open) :
    Keeps k sells (fun s v => At k sells rest ep o r s v ∧ (name, some live) ∈ v.answers)
      (performTarget live target now) (fun _ => Kept k sells rest ep) (Tried k sells rest ep) := by
  refine Keeps.withOrder (fun s v h => ⟨_, h.1.order⟩) ?_
  refine Keeps.withReseller (fun s v h => ⟨_, h.1.reseller⟩) ?_
  split_ifs
  · exact .raise fun s v h => .inl h.1.kept
  refine (Keeps.writeTarget hr).attempt.bind fun result => ?_
  cases result with
  | ok _ => exact Keeps.verifyTarget hr hopen
  | error e => exact Keeps.failOrder

theorem Keeps.beginTarget (hname : r.rebeccaAdminUsername = some name) (hne : name ≠ "")
    (hs : r.status ≠ .SUSPENDED) (hp : r.status ≠ .PROVISIONING) (hl : live.username = name)
    (hfresh : o.target = none) :
    Keeps k sells (fun s v => At k sells rest ep o r s v ∧ (name, some live) ∈ v.answers)
      (beginTarget live now ResellerBot.commit) (fun _ => Kept k sells rest ep)
      (Tried k sells rest ep) := by
  intro s v hA
  have hopen := hA.1.opens
  have howner := hA.1.owner
  refine (?_ : Keeps k sells (fun s v => Busy k sells rest ep o o r r s v ∧
    (name, some live) ∈ v.answers) _ _ _) s v ⟨hA.1.busy, hA.2⟩
  refine Keeps.withProduct (fun s v h => ⟨h.1.product, h.1.bench.product⟩) fun product hsold => ?_
  refine (Keeps.outcome (Q := fun target s v => targetSnapshot live product now = .ok target ∧
    Busy k sells rest ep o o r r s v ∧ (name, some live) ∈ v.answers) (fun _ h _ _ hP => ⟨h, hP⟩)
    fun _ _ s v h => .inl h.1.kept).bind fun target => Act.Holds.fact fun hc => ?_
  let o₁ := applying (entitlementSnapshot live) target o
  refine (Keeps.assignOrder ?_).bind fun _ => ?_
  · refine fun v _ hk hph ha => ⟨⟨rfl, rfl, rfl⟩, .begin r name live product now target hph hopen hfresh
      hk howner hname hne hs hp ha hsold.1 hsold.2 hc rfl rfl rfl, ?_⟩
    rcases hopen with h | h
    · exact .inr (.inl ⟨h, rfl⟩)
    · exact .inl h.symm
  have howner₁ : r.id = o₁.resellerId := howner
  have hopen₁ : o₁.Open := .inr rfl
  refine (Keeps.busyCommit (by intro v w h hk; rw [h]; exact hk) howner₁ hopen₁).bind fun _ => ?_
  exact Keeps.performTarget ⟨hname, hne, hs, hp, hl, rfl, rfl, matches_entitlementSnapshot live⟩ hopen₁

theorem Keeps.resumeTarget (hname : r.rebeccaAdminUsername = some name) (hne : name ≠ "")
    (hs : r.status ≠ .SUSPENDED) (hp : r.status ≠ .PROVISIONING) (hl : live.username = name)
    (htarget : o.target = some target) (hopen : o.Open) :
    Keeps k sells (fun s v => At k sells rest ep o r s v ∧ (name, some live) ∈ v.answers)
      (resumeTarget live o.beforeSnapshot target now) (fun _ => Kept k sells rest ep)
      (Tried k sells rest ep) := by
  have failed : ∀ {e : Err}, Keeps k sells
      (fun s v => At k sells rest ep o r s v ∧ (name, some live) ∈ v.answers)
      (ResellerBot.failOrder e : Bot Bool)
      (fun _ => Kept k sells rest ep) (Tried k sells rest ep) :=
    Keeps.failOrder.pre fun s v h => h.1.kept
  cases hb : o.beforeSnapshot with
  | none => exact failed
  | some before =>
    unfold ResellerBot.resumeTarget
    dsimp only
    split_ifs with h1 h2
    · intro s v h
      have ha : Achieved o r name live target := ⟨hopen, htarget, h.1.owner, hname, hl, h1⟩
      refine (?_ : Keeps k sells (fun s v => Busy k sells rest ep o o r r s v ∧
        (name, some live) ∈ v.answers) _ _ _) s v ⟨h.1.busy, h.2⟩
      refine (Keeps.assignOrder ?_).bind fun _ => ?_
      · exact fun v _ hk hp h => ha.change hk hp h
      refine (Keeps.assignReseller ?_).bind fun _ => ?_
      · exact fun v _ => ⟨⟨rfl, rfl⟩, reactivate_change r r.productId⟩
      exact .pure fun s v h => h.1.kept
    · exact Keeps.performTarget ⟨hname, hne, hs, hp, hl, hb, htarget, h2⟩ hopen
    · exact failed

end Renewal

theorem Keeps.applyOrder {now : Datetime} (hnamed : truthy r.rebeccaAdminUsername)
    (hp : r.status ≠ .PROVISIONING) :
    Keeps k sells (At k sells rest ep o r) (applyOrder now ResellerBot.commit)
      (fun _ => Kept k sells rest ep) (Tried k sells rest ep) := by
  refine Keeps.facts fun hopen _ => ?_
  refine Keeps.withOrder (fun s v h => ⟨_, h.order⟩) (Keeps.withOrderLock ?_)
  refine Keeps.withOrder (fun s v h => ⟨_, h.order⟩) ?_
  split_ifs
  · exact .pure fun s v h => h.kept
  refine Keeps.withReseller (fun s v h => ⟨_, h.reseller⟩) ?_
  split_ifs with hs
  · exact .pure fun s v h => h.kept
  refine Act.Holds.bind (Q := Act.Found (fun a s v => r.rebeccaAdminUsername = some a.username ∧
    At k sells rest ep o r s v ∧ (a.username, some a) ∈ v.answers) (At k sells rest ep o r)) ?_
    fun live => ?_
  · refine Keeps.getAdmin (fun s v h => h.answered _ _) (fun a s v h ha => ?_) fun e s v h => .inl h.kept
    refine ⟨ha, h.answered _ _, ?_⟩
    rw [ha]
    exact Set.mem_insert _ _
  cases live with
  | none => exact .raise fun s v h => .inl h.kept
  | some live =>
    refine Act.Holds.fact fun hname => ?_
    have hne : live.username ≠ "" := by
      rw [hname] at hnamed
      simpa [truthy] using hnamed
    cases ht : o.target with
    | none => simpa only [applyLive, ht] using Keeps.beginTarget hname hne hs hp rfl ht
    | some target => simpa only [applyLive, ht] using Keeps.resumeTarget hname hne hs hp rfl ht hopen

/-! ## One order -/

theorem Keeps.applyPaid (cfg : Settings) :
    Keeps k sells (At k sells rest ep o r) (applyPaid cfg) (fun _ => Kept k sells rest ep)
      (Tried k sells rest ep) := by
  refine Keeps.withReseller (fun s v h => ⟨_, h.reseller⟩) ?_
  refine Act.Holds.bind (Q := fun _ => Placed k sells rest ep) ?_ fun _ => ?_
  · refine .when (fun h => Keeps.reserveUsername (by simpa using h)) fun h s v hA => ?_
    exact ⟨_, _, hA, by simpa using h⟩
  refine Act.Holds.ex fun o => Act.Holds.ex fun r => ?_
  intro s v h
  have hnamed := h.2
  refine (?_ : Keeps k sells (At k sells rest ep o r) _ _ _) s v h.1
  refine Keeps.withReseller (fun s v h => ⟨_, h.reseller⟩) ?_
  split_ifs with hp
  · exact (Keeps.provisionOrder cfg hp hnamed).bind fun _ => .pure fun s v h => h
  · refine (Keeps.now fun t s v h => h).bind fun now => ?_
    exact (Keeps.applyOrder hnamed hp).bind fun _ => .pure fun s v h => h

/-- Between two orders: the session is as the worker knows it, or has been expired since. -/
structure Between (k : Role) (sells : Product → Prop) (ep : ℕ) (rest : List Order) (s : Session)
    (v : View) : Prop where
  rested : s.epoch = ep → Rested k sells rest s v
  lost : s.epoch ≠ ep → s.unflushed = []

theorem Between.ready (h : Between k sells ep rest s v) : Ready k sells s v := by
  by_cases he : s.epoch = ep
  · exact (h.rested he).ready
  · exact ready_of_unflushed (h.lost he)

/-- After one order. -/
def Done (k : Role) (sells : Product → Prop) (ep : ℕ) (rest : List Order) (s : Session) (v : View) :
    Prop :=
  s.epoch = ep ∧ Bench k sells rest s v

theorem Keeps.reportPaid (cfg : Settings) (result : Except Err (Option Bool)) :
    Keeps k sells (fun s v => match result with
        | .ok _ => Kept k sells rest ep s v
        | .error e => Tried k sells rest ep e s v)
      (reportPaid cfg result) (fun _ => Done k sells ep rest) fun _ => Ready k sells := by
  have done : ∀ s v, Kept k sells rest ep s v → Done k sells ep rest s v :=
    fun s v h => ⟨h.epoch, h.bench⟩
  have readOrder : Keeps k sells (Kept k sells rest ep) Slot.order.read
      (fun _ => Kept k sells rest ep) fun _ => Ready k sells :=
    Keeps.read (fun s v _ h _ => h) fun _ s v h _ => h.bench.ready
  have readReseller : Keeps k sells (Kept k sells rest ep) Slot.reseller.read
      (fun _ => Kept k sells rest ep) fun _ => Ready k sells :=
    Keeps.read (fun s v _ h _ => h) fun _ s v h _ => h.bench.ready
  rcases result with e | _ | _ | _
  · refine Act.Holds.bind (Q := fun _ => Kept k sells rest ep) ?_ fun _ => ?_
    · refine Keeps.read ?_ ?_
      · rintro s v ob (h | h) ho
        · exact h
        · exact absurd (h.order.symm.trans ho) (by simp)
      · rintro e s v (h | h) -
        · exact h.bench.ready
        · exact ready_of_unflushed h.unflushed
    · exact Keeps.keptAudit.bind fun _ => Keeps.notifyOwners.post fun _ s v h => done s v h
  · exact .pure fun s v h => done s v h
  · exact .pure fun s v h => done s v h
  · exact readOrder.bind fun _ => readReseller.bind fun _ => Keeps.keptAudit.bind fun _ =>
      Keeps.notify.bind fun _ => .pure fun s v h => done s v h

/-- The worker has taken up the order `o`, and has not looked for its reseller yet. -/
structure Started (k : Role) (sells : Product → Prop) (rest : List Order) (ep : ℕ) (o : Order)
    (s : Session) (v : View) : Prop where
  rested : Rested k sells rest s v
  epoch : s.epoch = ep
  order : s.order = some ⟨some o, o⟩
  opens : o.Open
  saved : o.id ∉ v.unsaved

/-- With the reseller of the order. -/
def WithReseller (k : Role) (sells : Product → Prop) (rest : List Order) (ep : ℕ) (o : Order)
    (r : Reseller) (s : Session) (v : View) : Prop :=
  Started k sells rest ep o s v ∧ s.reseller = some ⟨some r, r⟩ ∧ r.id = o.resellerId

theorem Tried.ready {e : Err} (h : Tried k sells rest ep e s v) : Ready k sells s v :=
  h.elim (fun h => h.bench.ready) fun h => ready_of_unflushed h.unflushed

/-- A query between clean objects. -/
theorem Keeps.restedQuery {P : Session → View → Prop} {q : Query}
    {Q : q.Result → Session → View → Prop} (hR : ∀ s v, P s v → Rested k sells rest s v)
    (hF : ∀ s v w, P s v → w = v ∨ w = v.begun → P s.flushed w)
    (hQ : ∀ s v a, P s v → q.Fits sells a → Q a s (v.read q a)) :
    Keeps k sells P (ResellerBot.query q) Q fun _ => Ready k sells := by
  refine .query (fun s v h => (hR s v h).ready) ?_ (fun e s v h => h.ready)
    (fun e s v h _ => ready_expire s true _) fun s v h hb => absurd hb (by simp [(hR s v h).sound])
  rintro s v a ⟨s₀, v₀, hP, -, rfl, rfl⟩ hf
  exact hQ _ _ a (hF s₀ v₀ _ hP (hR s₀ v₀ hP).afterFlush) hf

namespace Started

theorem view (h : Started k sells rest ep o s v) (hw : Bench.Agrees rest s v w)
    (hu : w.unsaved ⊆ v.unsaved) : Started k sells rest ep o s w :=
  ⟨h.rested.view hw, h.epoch, h.order, h.opens, fun hm => h.saved (hu hm)⟩

theorem flushed (h : Started k sells rest ep o s v) (hw : w = v ∨ w = v.begun) :
    Started k sells rest ep o s.flushed w := by
  have ha : Bench.Agrees rest s v w ∧ w.unsaved ⊆ v.unsaved := by
    rcases hw with rfl | rfl
    · exact ⟨h.rested.agrees rfl rfl rfl le_rfl, le_rfl⟩
    · exact ⟨h.rested.agrees rfl rfl rfl le_rfl, le_rfl⟩
  exact ⟨h.rested.rested ha.1, h.epoch, by simp [Session.flushed, h.order, Session.clean], h.opens,
    fun hm => h.saved (ha.2 hm)⟩

/-- The reseller that has been found. -/
theorem holdReseller (h : Started k sells rest ep o s v) (hr : v.resellers r.id = some r)
    (hkey : r.id = o.resellerId) :
    WithReseller k sells rest ep o r (s.holding .reseller ⟨some r, r⟩) v := by
  have hst : s.stmtsOf .reseller = [] := by
    cases hs : s.reseller with
    | none => exact stmtsOf_reseller_none hs
    | some ob => simp [Session.stmtsOf, Slot.reseller, hs, updated, h.rested.resellerClean ob hs]
  have hs : s.holding .reseller ⟨some r, r⟩ = { s with reseller := some ⟨some r, r⟩ } := by
    rw [Session.holding, hst, List.append_nil]
    rfl
  rw [hs]
  refine ⟨⟨{ h.rested with reseller := ?_, resellerClean := ?_ }, h.epoch, h.order, h.opens, h.saved⟩,
    rfl, hkey⟩
  · rintro ob ⟨⟩
    exact ⟨r, rfl, hr, ⟨rfl, rfl⟩, .keep rfl rfl⟩
  · rintro ob ⟨⟩
    rfl

theorem holdProduct (h : WithReseller k sells rest ep o r s v) {p : Product} (hp : sells p)
    (hi : p.id = o.productId) :
    At k sells rest ep o r (s.holding .product ⟨some p, p⟩) v := by
  have hs : s.holding .product ⟨some p, p⟩ = { s with product := some ⟨some p, p⟩ } := by
    have hst : s.stmtsOf .product = [] := by
      cases hp : s.product <;> simp [Session.stmtsOf, Slot.product, hp]
    rw [Session.holding, hst, List.append_nil]
    rfl
  rw [hs]
  refine ⟨{ h.1.rested with product := ?_ }, h.1.epoch, h.1.order, h.2.1, ⟨_, rfl, hi⟩, h.2.2,
    h.1.opens, h.1.saved⟩
  rintro ob ⟨⟩
  exact hp

end Started

theorem Keeps.loadReseller : Keeps k sells (Started k sells rest ep o)
    (Slot.reseller.getByKey Reseller.id o.resellerId (ResellerBot.query (.reseller o.resellerId)))
    (Act.Found (WithReseller k sells rest ep o) (Started k sells rest ep o))
    fun _ => Ready k sells := by
  refine .getByKey ?_ ?_
  · rintro s v ⟨db, r⟩ h hob hkey
    obtain rfl : db = some r := h.rested.resellerClean _ hob
    exact ⟨h, hob, hkey⟩
  · let R (row : Option Reseller) (s : Session) (v : View) : Prop :=
      Started k sells rest ep o s v ∧ ∀ r ∈ row, v.resellers r.id = some r ∧ r.id = o.resellerId
    refine Keeps.load (R := R) ?_ ?_ ?_
    · refine .restedQuery (fun s v h => h.1.rested) ?_ ?_
      · rintro s v w ⟨h, hne⟩ hw
        refine ⟨h.flushed hw, fun ob hob => ?_⟩
        obtain ⟨ob', ho, rfl⟩ := Option.map_eq_some_iff.mp hob
        exact hne ob' ho
      · rintro s v (_ | r) ⟨h, hne⟩ hf
        · exact ⟨h, fun r hr => absurd hr (by simp)⟩
        · have hid : r.id = o.resellerId := hf r rfl
          refine ⟨h.view ⟨h.rested.phase, fun x _ => ⟨rfl, id⟩, ?_, ?_⟩ le_rfl, ?_⟩
          · exact (h.rested.agrees rfl rfl rfl le_rfl).order
          · intro ob hob
            have hne' : ob.cur.id ≠ r.id := fun he => hne ob hob (he.trans hid)
            rw [show (v.read (.reseller o.resellerId) (some r)).resellers ob.cur.id =
              v.resellers ob.cur.id from Function.update_of_ne hne' _ _]
            exact (h.rested.agrees rfl rfl rfl le_rfl).reseller ob hob
          · intro r' hr'
            obtain rfl : r = r' := Option.some.inj hr'
            exact ⟨Function.update_self _ _ _, hid⟩
    · exact fun r s v h => h.1.holdReseller (h.2 r rfl).1 (h.2 r rfl).2
    · exact fun s v h => h.1

end ResellerBot
