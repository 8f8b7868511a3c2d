import ResellerBot.Ledger.Handlers

/-!
# ResellerBot.Ledger.Jobs — the jobs of the scheduler keep the ledger
-/

open Interact Growth

namespace ResellerBot

/-! ## Rows that the jobs change -/

theorem applied_evolves (now : Datetime) (o : Order) : o.Evolves (applied now o) :=
  { Order.Evolves.refl o with status := .inr trivial, appliedAt := .inr rfl }

theorem failed_evolves (msg : String) (o : Order) : o.Evolves (failed msg o) :=
  { Order.Evolves.refl o with }

theorem applying_evolves (before target : Snapshot) (o : Order) :
    o.Evolves (applying before target o) :=
  { Order.Evolves.refl o with
    status := .inr trivial
    beforeSnapshot := .inr rfl
    afterSnapshot := .inr rfl }

theorem afterSnapshot_evolves (x : AfterSnapshot) (o : Order) :
    o.Evolves { o with afterSnapshot := some x } :=
  { Order.Evolves.refl o with afterSnapshot := .inr rfl }

theorem reserved_evolves (username : String) (r : Reseller) : r.Evolves (reserved username r) :=
  { Reseller.Evolves.refl r with rebeccaAdminUsername := .inr rfl, status := .inr trivial }

theorem activated_evolves (product : Product) (r : Reseller) : r.Evolves (activated product r) :=
  { Reseller.Evolves.refl r with status := .inr trivial, productId := .inr rfl }

theorem reactivate_evolves (r : Reseller) : r.Evolves (reactivate r) := by
  refine { Reseller.Evolves.refl r with status := ?_ }
  show Growth.Moves ResellerStatus.Entered r.status r.status.reactivated
  cases h : r.status
  case EXPIRED | DISABLED => exact .inr trivial
  all_goals exact .of_eq rfl

theorem reactivate_proper {r : Reseller} (h : r.Proper) : (reactivate r).Proper := by
  intro hs
  refine h fun hp => hs ?_
  show r.status.reactivated = .PROVISIONING
  rw [hp]
  rfl

theorem observed_evolves (live : Admin) (now : Datetime) (r : Reseller) :
    r.Evolves (observed live now r) :=
  { Reseller.Evolves.refl r with lastSyncAt := .inr rfl }

theorem expired_evolves (r : Reseller) : r.Evolves { r with status := .EXPIRED } :=
  { Reseller.Evolves.refl r with status := .inr trivial }

theorem seen_evolves (live : User) (now : Datetime) (u : ResellerUserCache) :
    u.Evolves (seen live now u) :=
  { ResellerUserCache.Evolves.refl u with lastSeenAt := .inr rfl }

namespace Abides

variable {α : Type} {P : Session → Sight → Prop} {M : Needs} {cfg : Settings} {batchSize : ℕ}

/-- A change of the order that leaves its times and its status. -/
theorem noteOrder {f : Order → Order} (hev : ∀ o : Order, o.Evolves (f o))
    (hs : ∀ o, (f o).status = o.status) (hpaid : ∀ o, (f o).paidAt = o.paidAt)
    (happlied : ∀ o, (f o).appliedAt = o.appliedAt) :
    Abides (Tidy { M with order := .paid }) (Slot.order.assign f)
      fun _ => Tidy { M with order := .paid } := by
  refine assignOrder hev (fun ob _ h => ⟨fun hp => ?_, fun ha => ?_⟩) fun ob h => ⟨?_, h.2⟩
  · rw [hpaid]
    exact h.paidAt (hs ob.cur ▸ hp)
  · rw [happlied]
    exact h.appliedAt ((hs ob.cur).symm.trans ha)
  · show Filled (f ob.cur).paidAt
    rw [hpaid]
    exact h.1

/-- An order that has been paid may be worked on. -/
theorem claimPaid {f : Order → Order} (hev : ∀ o : Order, o.Evolves (f o))
    (hpaid : ∀ o, (f o).paidAt = o.paidAt)
    (happlied : ∀ o, (f o).status = .APPLIED → Filled (f o).appliedAt) :
    Abides (Tidy { M with order := .paid }) (Slot.order.assign f)
      fun _ => Tidy { M with order := .paid } := by
  have hfilled : ∀ ob, OrderFact.paid.holds ob → Filled (f ob.cur).paidAt := by
    intro ob h
    rw [hpaid]
    exact h.1
  exact assignOrder hev (fun ob h _ => ⟨fun _ => hfilled ob h, happlied ob.cur⟩)
    fun ob h => ⟨hfilled ob h, h.2⟩

/-! ## Applying an order -/

/-- An order that has been paid is in the variable. -/
abbrev Working : Needs := { Needs.any with order := .paid }

/-- The reseller in the variable has a username, too. -/
abbrev Named : Needs := { Working with reseller := fun r => Filled r.rebeccaAdminUsername }

theorem Named.working {s : Session} {v : Sight} (h : Tidy Named s v) : Tidy Working s v :=
  h.imp (fun _ h => h) (fun _ _ => trivial) fun _ h => h

/-- The order that is read has been seen with its payment time. -/
theorem readOrder : Abides (Tidy { M with order := .paid }) Slot.order.read
    fun o s v => v.Paid o ∧ Tidy { M with order := .paid } s v := by
  refine (read fun _ _ h => h.any).post ?_
  rintro o s v ⟨⟨ob, hob, rfl⟩, hT⟩
  obtain ⟨⟨-, d, hd, hdb, hev⟩, -, hpaid⟩ := hT.order ob hob
  exact ⟨⟨d, hd, hev.id.symm, hpaid d hdb⟩, hT⟩

theorem failOrder {e : Err} {Q : α → Session → Sight → Prop} :
    Abides (Tidy M) (ResellerBot.failOrder e) Q :=
  bind (assignOrder (A := .any) (failed_evolves e.msg) (fun _ _ h => ⟨h.paidAt, h.appliedAt⟩)
    fun _ _ => trivial) fun _ => .raise fun _ _ h => h.any

theorem writeTarget {why : Cause} {username : String} {target : Snapshot} {paused : Bool}
    (hpre : ∀ s v, P s v → why.Paid v) (hX : ∀ s v, P s v → Tidy .any s v) :
    Abides P (ResellerBot.writeTarget why username target paused) fun _ => P :=
  (call hpre hX).bind fun _ => when (fun _ => call hpre hX) fun _ _ _ h => h

theorem verifyTarget {live : Admin} {target : Snapshot} {now : Datetime} :
    Abides (Tidy Working) (ResellerBot.verifyTarget live target now) fun _ => Tidy .any := by
  refine (getAdmin fun _ _ h => h.any).bind fun verified => ite (fun _ => ?_) fun _ => failOrder
  refine bind (assignReseller (B := fun _ => True) reactivate_evolves
    (fun _ _ h => reactivate_proper h) fun _ _ => trivial) fun _ => ?_
  refine (read fun _ _ h => h.any).bind fun product => Abides.pre ?_ fun s v h => h.2
  refine bind (assignReseller (B := fun _ => True) (fun r => ?_) (fun _ _ h => h)
    fun _ _ => trivial) fun _ => ?_
  · exact { Reseller.Evolves.refl r with productId := .inr rfl }
  · refine bind (claimPaid (M := Working) (applied_evolves now) (fun _ => rfl) fun _ _ => rfl)
      fun _ => ?_
    exact .pure fun _ _ h => h.any

theorem performTarget {live : Admin} {target : Snapshot} {now : Datetime} :
    Abides (Tidy Working) (ResellerBot.performTarget live target now) fun _ => Tidy .any := by
  refine readOrder.bind fun order => (read fun _ _ h => h.2.any).bind fun reseller => ?_
  refine ite (fun _ => .raise fun _ _ h => h.2.2.any) fun _ => ?_
  refine (writeTarget (fun s v h => h.2.1) fun _ _ h => h.2.2.any).attempt.bind fun r => ?_
  cases r with
  | error e => exact failOrder
  | ok _ => exact verifyTarget.pre fun _ _ h => h.2.2

theorem beginTarget {live : Admin} {now : Datetime} :
    Abides (Tidy Working) (ResellerBot.beginTarget live now ResellerBot.commit)
      fun _ => Tidy .any := by
  refine (read fun _ _ h => h.any).bind fun product =>
    (outcome fun _ _ h => h.2.any).bind fun target => ?_
  refine Abides.pre (bind (claimPaid (applying_evolves _ target) (fun _ => rfl)
    fun _ h => nomatch h) fun _ => commit.bind fun _ => performTarget) fun _ _ h => h.2.2

theorem resumeTarget {live : Admin} {before : Option Snapshot} {target : Snapshot}
    {now : Datetime} :
    Abides (Tidy Working) (ResellerBot.resumeTarget live before target now) fun _ => Tidy .any := by
  cases before with
  | none => exact failOrder
  | some before =>
    refine ite (fun _ => ?_) fun _ => ite (fun _ => performTarget) fun _ => failOrder
    refine bind (claimPaid (applied_evolves now) (fun _ => rfl) fun _ _ => rfl) fun _ => ?_
    exact bind (assignReseller (B := fun _ => True) reactivate_evolves
      (fun _ _ h => reactivate_proper h) fun _ _ => trivial) fun _ => .pure fun _ _ h => h.any

theorem applyOrderLocked {now : Datetime} :
    Abides (Tidy Working) (ResellerBot.applyOrderLocked now ResellerBot.commit)
      fun _ => Tidy .any := by
  refine (readOrder.post fun _ _ _ h => h.2).bind fun order => ?_
  refine ite (fun _ => .pure fun _ _ h => h.any) fun _ => ?_
  refine (read fun _ _ h => h.any).bind fun reseller => Abides.pre ?_ fun s v h => h.2
  refine ite (fun _ => .pure fun _ _ h => h.any) fun _ =>
    (getAdmin fun _ _ h => h.any).bind fun live => ?_
  cases live with
  | none => exact .raise fun _ _ h => h.any
  | some live =>
    unfold ResellerBot.applyLive
    cases order.target with
    | none => exact beginTarget
    | some target => exact resumeTarget

theorem applyOrder {now : Datetime} :
    Abides (Tidy Working) (ResellerBot.applyOrder now ResellerBot.commit) fun _ => Tidy .any := by
  refine (readOrder.post fun _ _ _ h => h.2).bind fun order => ?_
  refine bind (ask (e := .lock order.id) (fun _ _ _ => trivial) fun _ _ => rfl) fun _ => ?_
  refine applyOrderLocked.attempt.bind fun r => ?_
  have hunlock : Abides (Tidy .any) (do
      ResellerBot.ask (.unlock order.id)
      Act.outcome r) fun _ => Tidy .any :=
    bind (ask (fun _ _ _ => trivial) fun _ _ => rfl) fun _ =>
      (outcome fun _ _ h => h).post fun _ _ _ h => h.2
  cases r with
  | ok _ => exact hunlock
  | error _ => exact hunlock

/-! ## Provisioning -/

theorem availableUsername {name : Option String} :
    Abides (Tidy M) (ResellerBot.availableUsername name) fun _ => Tidy M := by
  have htry : Abides (Tidy M) (tryCandidate name) fun _ => Tidy M := by
    refine drawCandidate.bind fun candidate => queryTidy.bind fun _ => ?_
    refine ite (fun _ => .pure fun _ _ h => h) fun _ =>
      (getAdmin fun _ _ h => h.any).bind fun live => ?_
    cases live with
    | none => exact .pure fun _ _ h => h
    | some _ => exact .pure fun _ _ h => h
  refine bind (searchFor (Q := fun _ => Tidy M) (htry.post fun r s v h => ?_) 100)
    fun username => ?_
  · cases r with
    | none => exact h
    | some _ => exact h
  · cases username with
    | none => exact .raise fun _ _ h => Tidy.any h
    | some username => exact .pure fun _ _ h => h

theorem reserveUsername :
    Abides (Tidy Working) ResellerBot.reserveUsername fun _ => Tidy Named := by
  refine (read fun _ _ h => h.any).bind fun reseller => Abides.pre ?_ fun s v h => h.2
  refine availableUsername.bind fun username => ?_
  refine bind (assignReseller (B := fun r => Filled r.rebeccaAdminUsername)
    (reserved_evolves username) (fun _ _ _ h => absurd rfl h) fun _ _ => rfl) fun _ => ?_
  refine bind (claimPaid (M := Named) (fun o => status_evolves (by trivial) o) (fun _ => rfl)
    fun _ h => nomatch h) fun _ => now.bind fun t => ?_
  refine (read fun _ _ h => h.any).bind fun product =>
    (outcome fun _ _ h => h.2.any).bind fun expire => ?_
  refine Abides.pre (bind (noteOrder (M := Named) (fun o => afterSnapshot_evolves _ o)
    (fun _ => rfl) (fun _ => rfl) fun _ => rfl) fun _ => commit) fun _ _ h => h.2.2

theorem finishProvisioning {username : String} :
    Abides (Tidy Named) (ResellerBot.finishProvisioning username) fun _ => Tidy .any := by
  refine (read fun _ _ h => h.any).bind fun product => Abides.pre ?_ fun s v h => h.2
  refine bind (assignReseller (B := fun _ => True) (activated_evolves product)
    (fun _ h _ _ => h) fun _ _ => trivial) fun _ => ?_
  rw [assign_now_assign]
  refine now.bind fun t => bind (claimPaid (M := Working) (fun o => ?_) (fun _ => rfl)
    fun _ _ => rfl) fun _ => (getAdmin fun _ _ h => h.any).bind fun live => ?_
  · exact (status_evolves (by trivial) o).trans (applied_evolves t _)
  · cases live with
    | none => exact .raise fun _ _ h => h.any
    | some live =>
      refine (readOrder.post fun _ _ _ h => h.2).bind fun order => ?_
      exact bind (noteOrder (fun o => afterSnapshot_evolves _ o) (fun _ => rfl) (fun _ => rfl)
        fun _ => rfl) fun _ => audit.post fun _ _ _ h => h.any

theorem deliverCredentials {telegramId : ℤ} {username : String} :
    Abides (Tidy Named) (ResellerBot.deliverCredentials telegramId username) fun _ =>
      Tidy .any := by
  refine bind (noteOrder (M := Named) (failed_evolves _) (fun _ => rfl) (fun _ => rfl) fun _ => rfl)
    fun _ => commit.bind fun _ => customerPanelUrl.bind fun _ => notify.bind fun delivered => ?_
  exact ite (fun _ => finishProvisioning) fun _ => .raise fun _ _ h => h.any

theorem provisionOrder :
    Abides (Tidy Named) (ResellerBot.provisionOrder cfg) fun _ => Tidy .any := by
  refine (readOrder (M := Named)).bind fun order =>
    (read fun _ _ h => h.2.any).bind fun reseller => ?_
  rcases order.afterSnapshot with _ | ⟨target | _⟩
  · exact .raise fun _ _ h => h.2.2.any
  · refine generatePassword.bind fun password =>
      ite (fun _ => .raise fun _ _ h => h.2.2.any) fun _ => ?_
    refine ((provision (fun s v h => h.2.1) fun _ _ h => h.2.2.any).post
      fun _ _ _ h => h.2).bind fun _ => ?_
    exact deliverCredentials.pre fun _ _ h => h.2.2
  · exact .raise fun _ _ h => h.2.2.any

/-! ## One order -/

theorem applyPaid : Abides (Tidy Working) (ResellerBot.applyPaid cfg) fun _ => Tidy .any := by
  refine (read fun _ _ h => h.any).bind fun reseller => ?_
  refine bind (Q := fun _ => Tidy Named) (when (fun _ => reserveUsername.pre fun _ _ h => h.2)
    fun hnamed s v h => ?_) fun _ => ?_
  · obtain ⟨⟨ob, hob, rfl⟩, hT⟩ := h
    refine hT.withReseller (o := s.reseller) fun ob' hob' => ?_
    obtain rfl := Option.some.inj (hob.symm.trans hob')
    exact ⟨(hT.reseller ob hob).1, filled_of_truthy (by simpa using hnamed)⟩
  · refine (read fun _ _ h => h.any).bind fun reseller => Abides.pre ?_ fun s v h => h.2
    refine ite (fun _ => provisionOrder.bind fun _ => .pure fun _ _ h => h) fun _ => ?_
    exact now.bind fun t => (applyOrder.pre fun _ _ h => Named.working h).bind fun _ =>
      .pure fun _ _ h => h

theorem reportPaid {r : Except Err (Option Bool)} :
    Abides (Tidy .any) (ResellerBot.reportPaid cfg r) fun _ => Tidy .any := by
  rcases r with e | _ | _ | _
  · exact (read fun _ _ h => h).bind fun _ => (audit.pre fun _ _ h => h.2).bind fun _ =>
      notifyOwners
  · exact .pure fun _ _ h => h
  · exact .pure fun _ _ h => h
  · exact (read fun _ _ h => h).bind fun _ => (read fun _ _ h => h.2).bind fun _ =>
      (audit.pre fun _ _ h => h.2.2).bind fun _ => notify.bind fun _ => .pure fun _ _ h => h

theorem reconcileOrder :
    Abides (Tidy Working) (ResellerBot.reconcileOrder cfg) fun _ => Tidy .any := by
  refine (readOrder.post fun _ _ _ h => h.2).bind fun order => ?_
  have hreseller : Abides (Tidy Working) (ResellerBot.getReseller order.resellerId)
      fun _ => Tidy Working := by
    refine getReseller.post fun row s v h => ?_
    cases row with
    | none => exact h
    | some _ => exact h.imp (fun _ h => h) (fun _ _ => trivial) fun _ h => h
  refine hreseller.bind fun reseller => getProduct.bind fun product => ?_
  refine ite (fun _ => audit.post fun _ _ _ h => h.any) fun _ => isDryRun.bind fun dry => ?_
  refine ite (fun _ => audit.post fun _ _ _ h => h.any) fun _ => ?_
  refine applyPaid.attempt.bind fun r => ?_
  cases r with
  | ok _ => exact reportPaid
  | error _ => exact reportPaid

theorem lockAndReconcile {ep : ℕ} {row : Order} (hrow : row.Proper) (hpaid : row.status.Paid) :
    Abides (fun s v => Tidy .any s v ∧ Loaded ep (fun v => row ∈ v.orders) s v)
      (ResellerBot.lockAndReconcile cfg ep row) fun _ => Tidy .any := by
  refine bind (holdLoaded (fun _ _ h => ⟨h.1, h.2.2⟩) (holdOrder (A := .paid) hrow ?_)) fun _ => ?_
  · refine ⟨hrow.paidAt hpaid, ?_⟩
    rintro d ⟨⟩
    exact hrow.paidAt hpaid
  · exact locked (M := Working) fun won => when (fun _ => reconcileOrder) fun _ _ _ h => h.any

theorem reconcileOrders :
    Abides (Tidy .any) (ResellerBot.reconcileOrders cfg batchSize) fun _ => Tidy .any := by
  refine locked fun won => when (fun _ => ?_) fun _ _ _ h => h
  refine forgetReseller.bind fun _ => forgetProduct.bind fun _ => query.bind fun rows => ?_
  refine Abides.pre (fact fun hrows => epoch.bind fun ep => ?_) fun s v h =>
    ⟨h.1.1, And.intro h.1.2 h.2⟩
  refine (forEachLoaded (K := fun row v => row ∈ v.orders) (fun _ _ _ hv h => hv.orders h)
    fun row hrow => lockAndReconcile (hrows row hrow).1 (hrows row hrow).2).pre ?_
  rintro s v ⟨rfl, hsub, hT⟩
  exact ⟨hT, le_rfl, fun _ row hrow => hsub.orders (.inr hrow)⟩

theorem reconcilePaidOrders :
    Act.Safe ledger (ResellerBot.reconcilePaidOrders cfg batchSize) :=
  safe_inSession (reconcileOrders.bind fun _ => commit)

/-! ## Plisio -/

theorem settlePlisio {order : Order} {remote : Operation} :
    Abides (Tidy .any) (ResellerBot.settlePlisio order remote) fun _ => Tidy .any := by
  refine bind (assignPayment (C := fun _ => True) (fun p _ => ?_) fun _ _ => trivial) fun _ => ?_
  · exact { Payment.Evolves.refl p with }
  · exact ite (fun _ => markPaid fun _ => audit) fun _ => .pure fun _ _ h => h

theorem reconcilePlisioOrder {ep : ℕ} {row : Order × Payment} (hrow : row.1.Proper) :
    Abides (fun s v => Tidy .any s v ∧ Loaded ep (fun v => row.1 ∈ v.orders) s v)
      (ResellerBot.reconcilePlisioOrder ep row) fun _ => Tidy .any := by
  refine bind (holdLoaded (fun _ _ h => ⟨h.1, h.2.2⟩) (holdOrder (A := .any) hrow trivial))
    fun _ => ?_
  refine bind (holdLoaded (K := fun _ => True) (fun _ _ h => ⟨h, fun _ => trivial⟩)
    ((holdPayment (C := fun _ => True) trivial).pre fun _ _ h => h.2)) fun _ => ?_
  split
  · exact .pure fun _ _ h => h
  · exact .pure fun _ _ h => h
  · refine bind (ask (fun _ _ _ => trivial) fun _ _ => rfl) fun remote => ?_
    cases remote with
    | error _ => exact audit
    | ok remote =>
      refine (outcome fun _ _ h => h).bind fun valid => fact fun _ => ?_
      exact ite (fun _ => settlePlisio) fun _ => audit

theorem reconcilePlisio :
    Abides (Tidy .any) (ResellerBot.reconcilePlisio cfg batchSize) fun _ => Tidy .any := by
  refine ite (fun _ => .pure fun _ _ h => h) fun _ => query.bind fun rows => ?_
  refine Abides.pre (fact fun hrows => epoch.bind fun ep => ?_) fun s v h =>
    ⟨h.1.1, And.intro h.1.2 h.2⟩
  refine (forEachLoaded (K := fun row v => row.1 ∈ v.orders) (fun _ _ _ hv h => hv.orders h)
    fun row hrow => reconcilePlisioOrder (hrows row hrow)).pre ?_
  rintro s v ⟨rfl, hsub, hT⟩
  exact ⟨hT, le_rfl, fun _ row hrow => hsub.orders (.inr (List.mem_map_of_mem hrow))⟩

/-! ## Resellers -/

/-- The reseller in the variable has a username. -/
abbrev Synced : Needs := { Needs.any with reseller := fun r => Filled r.rebeccaAdminUsername }

theorem warnReseller {chat : ℤ} {live : Admin} {kind : String} {threshold : Option ℤ} :
    Abides (Tidy M) (ResellerBot.warnReseller chat live kind threshold) fun _ => Tidy M := by
  cases threshold with
  | none => exact .pure fun _ _ h => h
  | some _ => exact notifyOnce

theorem reenableChild {live : Admin} {now : Datetime} {ep : ℕ} {cached : ResellerUserCache} :
    Abides (Tidy M) (ResellerBot.reenableChild live now ep cached) fun _ => Tidy M := by
  refine holdLoadedUser.bind fun _ =>
    (call (fun _ _ _ => by trivial) fun _ _ h => h.any).bind fun child => ?_
  cases child with
  | none => exact .pure fun _ _ h => h
  | some child =>
    refine ite (fun _ => ?_) fun _ => .pure fun _ _ h => h
    refine (call (fun _ _ _ => by trivial) fun _ _ h => h.any).bind fun _ => assignUser fun u => ?_
    exact { ResellerUserCache.Evolves.refl u with }

theorem reenableChildren {live : Admin} {now : Datetime} {reseller : Reseller} :
    Abides (Tidy M) (ResellerBot.reenableChildren cfg live now reseller) fun _ => Tidy M :=
  ite (fun _ => queryTidy.bind fun _ => epoch.bind fun _ =>
    (forEach fun _ _ => reenableChild).pre fun _ _ h => h.2) fun _ => .pure fun _ _ h => h

/-- The end of an entitlement is the end of a reseller that has an admin. -/
theorem expireReseller {live : Admin} {reseller : Reseller} :
    Abides (Tidy Synced) (ResellerBot.expireReseller cfg live reseller) fun _ => Tidy .any := by
  refine ite (fun _ => .pure fun _ _ h => h.any) fun _ => ?_
  refine ite (fun _ => audit.post fun _ _ _ h => h.any) fun _ => ?_
  refine (call (fun _ _ _ => by trivial) fun _ _ h => h.any).bind fun _ => ?_
  refine (call (fun _ _ _ => by trivial) fun _ _ h => h.any).bind fun usersToo => ?_
  refine bind (when (fun _ => (call (fun _ _ _ => by trivial) fun _ _ h => h.any).bind fun _ =>
    (execute fun _ => by trivial).bind fun _ => .pure fun _ _ h => h) fun _ _ _ h => h) fun _ => ?_
  refine (getAdmin fun _ _ h => h.any).bind fun verified => ?_
  refine ite (fun _ => ?_) fun _ => audit.post fun _ _ _ h => h.any
  refine bind (assignReseller (B := fun _ => True) expired_evolves (fun _ h _ _ => h)
    fun _ _ => trivial) fun _ => ?_
  exact audit.bind fun _ => notify.bind fun _ => .pure fun _ _ h => h

theorem syncReseller {now : Datetime} {times traffics : List ℤ} {ep : ℕ} {row : Reseller}
    (hrow : row.Proper) :
    Abides (fun s v => Tidy .any s v ∧ Loaded ep (fun v => row ∈ v.resellers) s v)
      (ResellerBot.syncReseller cfg now times traffics ep row) fun _ => Tidy .any := by
  refine bind (holdLoaded (fun _ _ h => ⟨h.1, h.2.2⟩) (holdReseller (B := (· = row)) hrow rfl))
    fun _ => ite (fun _ => .pure fun _ _ h => h.any) fun hsync => ?_
  have hname : Filled row.rebeccaAdminUsername :=
    filled_of_truthy (by simpa using (not_or.mp hsync).2)
  refine (getAdmin fun _ _ h => h.any).attempt.bind fun live => ?_
  rcases live with _ | _ | live
  · exact audit
  · exact .pure fun _ _ h => h.any
  · refine bind (assignReseller (B := fun r => Filled r.rebeccaAdminUsername)
      (observed_evolves live now) (fun _ _ h => h) ?_) fun _ => ?_
    · rintro r rfl
      exact hname
    refine bind (warnReseller.bind fun _ => warnReseller) fun _ =>
      (read fun _ _ h => h.any).bind fun reseller => Abides.pre ?_ fun s v h => h.2
    exact ite (fun _ => reenableChildren.post fun _ _ _ h => h.any) fun _ => expireReseller

/-- The rows that a job goes through stay known. -/
theorem resellers_mono {rows : List Reseller} (v v' : Sight) (hv : v.Sub v')
    (h : ∀ row ∈ rows, row ∈ v.resellers) : ∀ row ∈ rows, row ∈ v'.resellers :=
  fun row hrow => hv.resellers (h row hrow)

theorem syncResellers :
    Abides (Tidy .any) (ResellerBot.syncResellers cfg batchSize) fun _ => Tidy .any := by
  refine query.bind fun rows => Abides.pre (fact fun hrows => epoch.bind fun ep => ?_) fun s v h =>
    ⟨h.1.1, And.intro h.1.2 h.2⟩
  refine Abides.pre (bind (now.frame resellers_mono) fun now => bind (timeThresholds.frame resellers_mono) fun times =>
    bind (trafficThresholds.frame resellers_mono) fun traffics =>
      forEachLoaded (K := fun row v => row ∈ v.resellers) (fun _ _ _ hv h => hv.resellers h)
        fun row hrow => syncReseller (hrows row hrow)) ?_
  rintro s v ⟨rfl, hsub, hT⟩
  exact ⟨hT, le_rfl, fun _ row hrow => hsub.resellers (.inr hrow)⟩

/-! ## Users -/

theorem disableVerified {username : String} :
    Abides (Tidy M) (ResellerBot.disableVerified username) fun _ => Tidy M :=
  (call (fun _ _ _ => by trivial) fun _ _ h => h.any).bind fun _ =>
    (call (fun _ _ _ => by trivial) fun _ _ h => h.any).bind fun _ => .pure fun _ _ h => h

theorem enableVerified {username : String} :
    Abides (Tidy M) (ResellerBot.enableVerified username) fun _ => Tidy M :=
  (call (fun _ _ _ => by trivial) fun _ _ h => h.any).bind fun _ =>
    (call (fun _ _ _ => by trivial) fun _ _ h => h.any).bind fun _ => .pure fun _ _ h => h

theorem announceDeletion {chat : ℤ} :
    Abides (Tidy M) (ResellerBot.announceDeletion chat) fun _ => Tidy M :=
  audit.bind fun _ => notify.bind fun _ => .pure fun _ _ h => h

theorem scheduleDeletion {reseller : Reseller} {live : User} {now : Datetime} {hours : ℤ} :
    Abides (Tidy M) (ResellerBot.scheduleDeletion cfg reseller live now hours) fun _ => Tidy M := by
  refine bind (assignUser fun u => { ResellerUserCache.Evolves.refl u with }) fun _ => ?_
  refine (outcome fun _ _ h => h.any).bind fun deadline => fact fun _ => ?_
  refine bind (assignUser fun u => { ResellerUserCache.Evolves.refl u with }) fun _ => ?_
  refine ite (fun _ => disableVerified.bind fun done => ite (fun _ => ?_) fun _ => audit) fun _ =>
    announceDeletion
  exact bind (assignUser fun u => { ResellerUserCache.Evolves.refl u with }) fun _ =>
    announceDeletion

theorem clearDeletion : Abides (Tidy M) ResellerBot.clearDeletion fun _ => Tidy M :=
  bind (assignUser fun u => { ResellerUserCache.Evolves.refl u with }) fun _ => audit

theorem cancelDeletion {reseller : Reseller} {live : User} {cached : ResellerUserCache} :
    Abides (Tidy M) (ResellerBot.cancelDeletion cfg reseller live cached) fun _ => Tidy M :=
  ite (fun _ => enableVerified.bind fun _ => ite (fun _ => clearDeletion) fun _ => audit) fun _ =>
    clearDeletion

theorem loadCached {reseller : Reseller} {live : User} :
    Abides (Tidy M) (ResellerBot.loadCached reseller live) fun _ => Tidy M := by
  refine bind (load (Q := fun _ => Tidy M) queryTidy (fun row => holdUser ?_) fun _ _ h => h)
    fun row => ?_
  · rintro d ⟨⟩
    rfl
  · cases row with
    | none => exact holdUser fun _ h => nomatch h
    | some _ => exact .pure fun _ _ h => h

theorem syncUser {reseller : Reseller} {now : Datetime} {hours : ℤ} {live : User} :
    Abides (Tidy M) (ResellerBot.syncUser cfg reseller now hours live) fun _ => Tidy M := by
  refine ite (fun _ => .pure fun _ _ h => h) fun _ => loadCached.bind fun _ => ?_
  refine bind (assignUser (seen_evolves live now)) fun _ =>
    (read fun _ _ h => h.any).bind fun cached => ?_
  refine Abides.pre ?_ fun s v h => h.2
  exact ite (fun _ => when (fun _ => scheduleDeletion) fun _ _ _ h => h) fun _ =>
    when (fun _ => cancelDeletion) fun _ _ _ h => h

theorem syncUsersOf {now : Datetime} {hours : ℤ} {ep : ℕ} {row : Reseller} (hrow : row.Proper) :
    Abides (fun s v => Tidy .any s v ∧ Loaded ep (fun v => row ∈ v.resellers) s v)
      (ResellerBot.syncUsersOf cfg batchSize now hours ep row) fun _ => Tidy .any := by
  refine bind (holdLoaded (fun _ _ h => ⟨h.1, h.2.2⟩)
    (holdReseller (B := fun _ => True) hrow trivial))
    fun _ => ite (fun _ => .pure fun _ _ h => h) fun _ => ?_
  refine (call (fun _ _ _ => by trivial) fun _ _ h => h).attempt.bind fun users => ?_
  cases users with
  | error _ => exact .pure fun _ _ h => h
  | ok users => exact forEach fun _ _ => syncUser

theorem syncUsers :
    Abides (Tidy .any) (ResellerBot.syncUsers cfg batchSize) fun _ => Tidy .any := by
  refine query.bind fun rows => Abides.pre (fact fun hrows => epoch.bind fun ep => ?_) fun s v h =>
    ⟨h.1.1, And.intro h.1.2 h.2⟩
  refine Abides.pre (bind (now.frame resellers_mono) fun now => bind (graceHours.frame resellers_mono) fun hours =>
    forEachLoaded (K := fun row v => row ∈ v.resellers) (fun _ _ _ hv h => hv.resellers h)
      fun row hrow => syncUsersOf (hrows row hrow)) ?_
  rintro s v ⟨rfl, hsub, hT⟩
  exact ⟨hT, le_rfl, fun _ row hrow => hsub.resellers (.inr hrow)⟩

/-! ## Deletions -/

theorem warnDue {reseller : Reseller} {cached : ResellerUserCache} {deadline : Stamp}
    {now : Datetime} :
    Abides (Tidy M) (ResellerBot.warnDue reseller cached deadline now) fun _ => Tidy M := by
  refine (outcome fun _ _ h => h.any).bind fun left => fact fun _ => ?_
  refine ite (fun _ => notify.bind fun delivered => ite (fun _ => assignUser fun u => ?_) fun _ =>
    .pure fun _ _ h => h) fun _ => .pure fun _ _ h => h
  exact { ResellerUserCache.Evolves.refl u with }

theorem safeDelete {username owner : String} {deadline : Stamp} {now : Datetime}
    {policy : DeletePolicy} {hold locked : Bool} :
    Abides (Tidy M) (ResellerBot.safeDelete username owner deadline now policy hold locked)
      fun _ => Tidy M := by
  refine (outcome fun _ _ h => h.any).bind fun refused => fact fun _ => ?_
  cases refused with
  | some _ => exact .pure fun _ _ h => h
  | none =>
    refine (call (fun _ _ _ => by trivial) fun _ _ h => h.any).bind fun live => ?_
    cases live with
    | none => exact .pure fun _ _ h => h
    | some live =>
      refine ite (fun _ => .pure fun _ _ h => h) fun _ =>
        ite (fun _ => .pure fun _ _ h => h) fun _ => ?_
      refine (call (fun _ _ _ => by trivial) fun _ _ h => h.any).bind fun _ => ?_
      refine (call (fun _ _ _ => by trivial) fun _ _ h => h.any).bind fun gone => ?_
      cases gone with
      | none => exact .pure fun _ _ h => h
      | some _ => exact .raise fun _ _ h => h.any

theorem finishDeletion {reseller : Reseller} {result : DeleteResult} :
    Abides (Tidy M) (ResellerBot.finishDeletion reseller result) fun _ => Tidy M := by
  cases result
  case DELETED =>
    exact bind (assignUser fun u => { ResellerUserCache.Evolves.refl u with }) fun _ =>
      notify.bind fun _ => .pure fun _ _ h => h
  all_goals exact .pure fun _ _ h => h

theorem dueDeletion {zoned : Bool} {now : Datetime} {ep : ℕ} {row : ResellerUserCache} :
    Abides (Tidy .any) (ResellerBot.dueDeletion cfg zoned now ep row) fun _ => Tidy .any := by
  refine holdLoadedUser.bind fun _ => (getReseller.post fun _ _ _ h => FoundReseller.any h).bind
    fun reseller => ?_
  cases reseller with
  | none => exact .pure fun _ _ h => h
  | some reseller =>
    cases row.deleteAfter with
    | none => exact .raise fun _ _ h => h
    | some deadline =>
      exact warnDue.bind fun _ => safeDelete.bind fun _ => audit.bind fun _ => finishDeletion

theorem dueDeletions {zoned : Bool} :
    Abides (Tidy .any) (ResellerBot.dueDeletions cfg batchSize zoned) fun _ => Tidy .any := by
  refine forgetReseller.bind fun _ => now.bind fun t => (outcome fun _ _ h => h).bind fun until_ =>
    fact fun _ => queryTidy.bind fun rows => epoch.bind fun ep => ?_
  exact (forEach fun _ _ => dueDeletion).pre fun _ _ h => h.2

/-! ## The scheduler -/

theorem run : Act.Safe ledger (ResellerBot.run cfg batchSize) :=
  safe_inSession (locked fun _ => when (fun _ => syncResellers.bind fun _ => syncUsers.bind fun _ =>
    dueDeletions.bind fun _ => reconcileOrders.bind fun _ => reconcilePlisio.bind fun _ => commit)
    fun _ _ _ h => h)

end Abides

/-! ## Every task -/

theorem ok_launch {α : Type} {m : Bot α} (h : Act.Safe ledger m) (v : Sight) :
    Ok ledger (launch m) (fun _ _ => True) v :=
  (h.ok Session.empty v).bind fun _ _ _ => trivial

/-- **Every handler and every job keeps the ledger**, whatever it has seen before. -/
theorem ok_task (cfg : Settings) (batchSize : ℕ) (t : Task) (v : Sight) :
    Ok ledger (t.prog cfg batchSize) (fun _ _ => True) v := by
  cases t with
  | run => exact ok_launch Abides.run v
  | reconcilePaidOrders => exact ok_launch Abides.reconcilePaidOrders v
  | runTrial userId name => exact ok_launch Abides.runTrial v
  | start userId name => exact ok_launch Abides.start v
  | receipt chat orderId fileId => exact ok_launch Abides.receipt v
  | cardApprove userId orderId => exact ok_launch (Abides.ifOwner Abides.approve) v
  | cardReject userId orderId => exact ok_launch Abides.cardReject v
  | orderApprove userId orderId => exact ok_launch (Abides.ifOwner Abides.approve) v
  | orderReject userId orderId => exact ok_launch Abides.orderReject v
  | orderRetry userId orderId => exact ok_launch Abides.orderRetry v
  | callback p => exact ok_launch Abides.callback v
  | resellerDisable userId id => exact ok_launch Abides.resellerDisable v
  | resellerEnable userId id => exact ok_launch Abides.resellerEnable v
  | resellerStateDisable userId id =>
    exact ok_launch (Abides.stateChange fun _ h => Abides.consoleDisable h) v
  | resellerStateEnable userId id =>
    exact ok_launch (Abides.stateChange fun _ h => Abides.enableReseller fun _ => h) v
  | resellerHold userId id => exact ok_launch Abides.resellerHold v
  | userDeleteConfirm userId owner username => exact ok_launch Abides.userDeleteConfirm v

end ResellerBot
