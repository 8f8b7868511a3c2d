import ResellerBot.System
import ResellerBot.Database.Evolution

/-!
# ResellerBot.Ledger.Spec — what every handler and job may write

A session knows the orders and resellers that it has read or flushed since it last lost everything
(`Sight`).  A statement is lawful if it keeps to `ResellerBot.Database.Evolution` and, where it
updates an order or a reseller, flushes an object that has been seen: the row may have been written
by others since, but it has evolved from what was seen.
-/

open Interact Growth

namespace ResellerBot

/-! ## What a session has seen -/

structure Sight where
  orders : Set Order
  resellers : Set Reseller

namespace Sight

def nothing : Sight := ⟨∅, ∅⟩

variable (v : Sight)

def withOrders (os : List Order) : Sight := { v with orders := v.orders ∪ {o | o ∈ os} }

def withResellers (rs : List Reseller) : Sight := { v with resellers := v.resellers ∪ {r | r ∈ rs} }

/-- The answer to a query. -/
def read : (q : Query) → q.Result → Sight
  | .order _, row | .orderByNumber _, row => v.withOrders (Option.toList row)
  | .openOrders _, rows => v.withOrders rows
  | .waitingPlisio _, rows => v.withOrders (List.map Prod.fst rows)
  | .reseller _, row | .resellerByTelegram _, row => v.withResellers (Option.toList row)
  | .resellers _, rows | .resellersNotSuspended _, rows => v.withResellers rows
  | _, _ => v

/-- One statement of a flush. -/
def wrote : Stmt → Sight
  | .updateOrder _ new => v.withOrders [new]
  | .updateReseller _ new => v.withResellers [new]
  | _ => v

def wroteAll (sts : List Stmt) : Sight := sts.foldl wrote v

def queried (q : Query) : Except Err q.Result → Sight
  | .ok r => v.read q r
  | .error _ => v

def flushed (sts : List Stmt) : Except Err Unit → Sight
  | .ok () => v.wroteAll sts
  | .error _ => nothing

def committed : Except Err Unit → Sight
  | .ok () => v
  | .error _ => nothing

/-- What a session has seen after a request. -/
def after : (e : Ev) → Resp e → Sight
  | .query q, r => v.queried q r
  | .flush sts, r => v.flushed sts r
  | .commit, r => v.committed r
  | .rollback, _ => nothing
  | _, _ => v

/-- The one has seen no more than the other. -/
structure Sub (v v' : Sight) : Prop where
  orders : v.orders ⊆ v'.orders
  resellers : v.resellers ⊆ v'.resellers

/-- The tables have evolved from what has been seen. -/
structure In (v : Sight) (T : Tables) : Prop where
  orders : ∀ o ∈ v.orders, ∃ row ∈ T.orders, o.Evolves row
  resellers : ∀ r ∈ v.resellers, ∃ row ∈ T.resellers, r.Evolves row

variable {v} {v₁ v₂ : Sight} {T T' : Tables}

theorem Sub.refl (v : Sight) : v.Sub v := ⟨subset_rfl, subset_rfl⟩

theorem Sub.trans (h : v.Sub v₁) (h' : v₁.Sub v₂) : v.Sub v₂ :=
  ⟨h.orders.trans h'.orders, h.resellers.trans h'.resellers⟩

theorem sub_withOrders (v : Sight) (os : List Order) : v.Sub (v.withOrders os) :=
  ⟨Set.subset_union_left, subset_rfl⟩

theorem sub_withResellers (v : Sight) (rs : List Reseller) : v.Sub (v.withResellers rs) :=
  ⟨subset_rfl, Set.subset_union_left⟩

theorem sub_read (v : Sight) (q : Query) (r : q.Result) : v.Sub (v.read q r) := by
  cases q
  case order | orderByNumber | openOrders | waitingPlisio => exact sub_withOrders v _
  case reseller | resellerByTelegram | resellers | resellersNotSuspended =>
    exact sub_withResellers v _
  all_goals exact .refl v

theorem sub_wrote (v : Sight) (st : Stmt) : v.Sub (v.wrote st) := by
  cases st
  case updateOrder => exact sub_withOrders v _
  case updateReseller => exact sub_withResellers v _
  all_goals exact .refl v

theorem sub_wroteAll (v : Sight) (sts : List Stmt) : v.Sub (v.wroteAll sts) := by
  induction sts generalizing v with
  | nil => exact .refl v
  | cons st sts ih => exact (sub_wrote v st).trans (ih (v.wrote st))

/-- What a query returns has been seen after it. -/
theorem read_mono (q : Query) (r : q.Result) : (nothing.read q r).Sub (v.read q r) := by
  have hnothing : nothing.Sub v := ⟨Set.empty_subset _, Set.empty_subset _⟩
  cases q
  case order | orderByNumber | openOrders | waitingPlisio =>
    exact ⟨Set.union_subset_union_left _ hnothing.orders, hnothing.resellers⟩
  case reseller | resellerByTelegram | resellers | resellersNotSuspended =>
    exact ⟨hnothing.orders, Set.union_subset_union_left _ hnothing.resellers⟩
  all_goals exact hnothing

theorem wrote_mono (h : v.Sub v₁) (st : Stmt) : (v.wrote st).Sub (v₁.wrote st) := by
  cases st
  case updateOrder => exact ⟨Set.union_subset_union_left _ h.orders, h.resellers⟩
  case updateReseller => exact ⟨h.orders, Set.union_subset_union_left _ h.resellers⟩
  all_goals exact h

/-- What a flush writes has been seen after it. -/
theorem wrote_sub_wroteAll {sts : List Stmt} {st : Stmt} (h : st ∈ sts) :
    (v.wrote st).Sub (v.wroteAll sts) := by
  induction sts generalizing v with
  | nil => cases h
  | cons x sts ih =>
    rcases List.mem_cons.mp h with rfl | h
    · exact sub_wroteAll _ sts
    · exact (wrote_mono (sub_wrote v x) st).trans (ih h)

theorem In.nothing (T : Tables) : nothing.In T := ⟨fun _ h => h.elim, fun _ h => h.elim⟩

theorem In.grows (h : v.In T) (hg : T.Grows T') : v.In T' where
  orders o ho := by
    obtain ⟨row, hrow, hr⟩ := h.orders o ho
    obtain ⟨row', hrow', hr'⟩ := hg.orders.mem hrow
    exact ⟨row', hrow', hr.trans hr'⟩
  resellers r hr := by
    obtain ⟨row, hrow, hev⟩ := h.resellers r hr
    obtain ⟨row', hrow', hev'⟩ := hg.resellers.mem hrow
    exact ⟨row', hrow', hev.trans hev'⟩

theorem In.withOrders {os : List Order} (h : v.In T)
    (hos : ∀ o ∈ os, ∃ row ∈ T.orders, o.Evolves row) :
    (v.withOrders os).In T :=
  ⟨fun o ho => ho.elim (h.orders o) (hos o), h.resellers⟩

theorem In.withResellers {rs : List Reseller} (h : v.In T)
    (hrs : ∀ r ∈ rs, ∃ row ∈ T.resellers, r.Evolves row) : (v.withResellers rs).In T :=
  ⟨h.orders, fun r hr => hr.elim (h.resellers r) (hrs r)⟩

theorem In.loadOrders {os : List Order} (h : v.In T) (hos : os ⊆ T.orders) :
    (v.withOrders os).In T :=
  h.withOrders fun o ho => ⟨o, hos ho, .refl o⟩

theorem In.loadResellers {rs : List Reseller} (h : v.In T) (hrs : rs ⊆ T.resellers) :
    (v.withResellers rs).In T :=
  h.withResellers fun r hr => ⟨r, hrs hr, .refl r⟩

end Sight

/-! ## Statements -/

/-- A statement that keeps to all this. -/
def Stmt.Lawful (v : Sight) : Stmt → Prop
  | .updateOrder old new => old ∈ v.orders ∧ old.Evolves new ∧ new.Proper
  | .updateReseller old new => old ∈ v.resellers ∧ old.Evolves new ∧ new.Proper
  | .updatePayment old new => old.Evolves new
  | .updateTrial old new => old.Evolves new
  | .updateUser old new => old.Evolves new
  | .insertReseller row => row.Proper
  | .claimOrder _ status paidAt =>
    status.Entered ∧ status ≠ .APPLIED ∧ (status.Paid → Filled paidAt)
  | _ => True

theorem Stmt.Lawful.mono {v v' : Sight} {st : Stmt} (h : st.Lawful v) (hv : v.Sub v') :
    st.Lawful v' := by
  cases st
  case updateOrder => exact ⟨hv.orders h.1, h.2⟩
  case updateReseller => exact ⟨hv.resellers h.1, h.2⟩
  all_goals exact h

section Exec

variable {v : Sight} {T T' : Tables} {n : ℕ}

theorem exec_updateOrder_grows {old new : Order} (hT : T.Proper) (hv : v.In T)
    (h : (Stmt.updateOrder old new).Lawful v)
    (hex : (Stmt.updateOrder old new).exec T = .ok (T', n)) :
    T.Grows T' ∧ T'.Proper ∧ ∃ row ∈ T'.orders, new.Evolves row := by
  obtain ⟨hseen, hev, hproper⟩ := h
  obtain ⟨row, hrow, hr⟩ := hv.orders old hseen
  simp only [Stmt.exec] at hex
  split_ifs at hex
  cases hex
  have hkey : ∀ r ∈ T.orders, r.id = old.id → old.Evolves r := by
    intro r hmem hid
    rwa [hT.orderKeys.eq hmem hrow (hid.trans hr.id.symm)]
  refine ⟨{ Tables.Grows.refl T with orders := ?_ }, { hT with orderKeys := ?_, orders := ?_ }, ?_⟩
  · exact grown_set Order.Evolves.refl fun r _ _ => hev.update r
  · exact hT.orderKeys.set fun _ => rfl
  · exact forall_set hT.orders fun r hmem hid =>
      (hT.orders r hmem).update hproper hev (hkey r hmem hid)
  · exact ⟨old.update new row, Rows.mem_set.mpr (.inl ⟨row, hrow, hr.id, rfl⟩), hev.flushed hr⟩

theorem exec_updateReseller_grows {old new : Reseller} (hT : T.Proper) (hv : v.In T)
    (h : (Stmt.updateReseller old new).Lawful v)
    (hex : (Stmt.updateReseller old new).exec T = .ok (T', n)) :
    T.Grows T' ∧ T'.Proper ∧ ∃ row ∈ T'.resellers, new.Evolves row := by
  obtain ⟨hseen, hev, hproper⟩ := h
  obtain ⟨row, hrow, hr⟩ := hv.resellers old hseen
  simp only [Stmt.exec] at hex
  split_ifs at hex
  cases hex
  have hkey : ∀ r ∈ T.resellers, r.id = old.id → old.Evolves r := by
    intro r hmem hid
    rwa [hT.resellerKeys.eq hmem hrow (hid.trans hr.id.symm)]
  refine ⟨{ Tables.Grows.refl T with resellers := ?_ },
    { hT with resellerKeys := ?_, resellers := ?_ }, ?_⟩
  · exact grown_set Reseller.Evolves.refl fun r _ _ => hev.update r
  · exact hT.resellerKeys.set fun _ => rfl
  · exact forall_set hT.resellers fun r hmem hid =>
      (hT.resellers r hmem).update hproper hev (hkey r hmem hid)
  · exact ⟨old.update new row, Rows.mem_set.mpr (.inl ⟨row, hrow, hr.id, rfl⟩), hev.flushed hr⟩

theorem exec_claimOrder {i : ℕ} {status : OrderStatus} {paidAt : Option Datetime} (hT : T.Proper)
    (h : (Stmt.claimOrder i status paidAt).Lawful v)
    (hex : (Stmt.claimOrder i status paidAt).exec T = .ok (T', n)) : T.Grows T' ∧ T'.Proper := by
  obtain ⟨hentered, happlied, hpaid⟩ := h
  cases hex
  let claim (o : Order) : Order :=
    if o.id = i ∧ o.status = .WAITING_RECEIPT then
      { o with status := status, paidAt := paidAt.or o.paidAt }
    else o
  have hclaim : ∀ o, o.Evolves (claim o) ∧ (o.Proper → (claim o).Proper) := by
    intro o
    by_cases hc : o.id = i ∧ o.status = .WAITING_RECEIPT
    · have heq : claim o = { o with status := status, paidAt := paidAt.or o.paidAt } := if_pos hc
      rw [heq]
      refine ⟨{ Order.Evolves.refl o with status := .inr hentered, paidAt := ?_ },
        fun _ => ⟨?_, ?_⟩⟩
      · cases paidAt with
        | none => exact .refl _
        | some t => exact .inr rfl
      · intro hs
        obtain ⟨t, rfl⟩ := Option.isSome_iff_exists.mp (hpaid hs)
        rfl
      · exact fun hs => absurd hs happlied
    · have heq : claim o = o := if_neg hc
      rw [heq]
      exact ⟨.refl o, id⟩
  refine ⟨{ Tables.Grows.refl T with orders := .map fun o _ => (hclaim o).1 },
    { hT with orderKeys := ?_, orders := ?_ }⟩
  · have hid : (T.orders.map claim).map Order.id = T.orders.map Order.id := by
      rw [List.map_map]
      exact List.map_congr_left fun o _ => (hclaim o).1.id
    show Rows.Keyed Order.id (T.orders.map claim)
    rw [Rows.Keyed, hid]
    exact hT.orderKeys
  · intro o ho
    obtain ⟨o', ho', rfl⟩ := List.mem_map.mp ho
    exact (hclaim o').2 (hT.orders o' ho')

/-- **Every lawful statement lets the tables grow** and keeps their rows proper. -/
theorem Stmt.exec_grows {st : Stmt} (hT : T.Proper) (hv : v.In T) (h : st.Lawful v)
    (hex : st.exec T = .ok (T', n)) : T.Grows T' ∧ T'.Proper := by
  have hrefl := Tables.Grows.refl T
  cases st with
  | updateReseller old new =>
    obtain ⟨hg, hp, -⟩ := exec_updateReseller_grows hT hv h hex
    exact ⟨hg, hp⟩
  | updateOrder old new =>
    obtain ⟨hg, hp, -⟩ := exec_updateOrder_grows hT hv h hex
    exact ⟨hg, hp⟩
  | updatePayment old new =>
    simp only [Stmt.exec] at hex
    split_ifs at hex
    cases hex
    exact ⟨{ hrefl with payments := grown_set Payment.Evolves.refl fun r _ _ => h.update r },
      { hT with }⟩
  | updateTrial old new =>
    simp only [Stmt.exec] at hex
    split_ifs at hex
    cases hex
    have hstep : ∀ r ∈ T.trials,
        r.Evolves (if r.telegramId = old.telegramId then old.update new r else r) := by
      intro r _
      split_ifs
      · exact h.update r
      · exact .refl r
    exact ⟨{ hrefl with trials := .map hstep }, { hT with }⟩
  | updateUser old new =>
    simp only [Stmt.exec] at hex
    split_ifs at hex
    cases hex
    exact ⟨{ hrefl with users := grown_set ResellerUserCache.Evolves.refl fun r _ _ => h.update r },
      { hT with }⟩
  | insertReseller row =>
    simp only [Stmt.exec] at hex
    split_ifs at hex
    cases hex
    refine ⟨{ hrefl with resellers := .append Reseller.Evolves.refl _ _ },
      { hT with resellerKeys := ?_, resellers := forall_append hT.resellers h }⟩
    exact hT.resellerKeys.append fun r' hr' => Nat.ne_of_lt (Rows.lt_next hr')
  | insertTrial row =>
    simp only [Stmt.exec] at hex
    split_ifs at hex
    cases hex
    exact ⟨{ hrefl with trials := .append TrialRecord.Evolves.refl _ _ }, { hT with }⟩
  | insertUser row =>
    simp only [Stmt.exec] at hex
    split_ifs at hex
    cases hex
    exact ⟨{ hrefl with users := .append ResellerUserCache.Evolves.refl _ _ }, { hT with }⟩
  | insertLock row =>
    simp only [Stmt.exec] at hex
    split_ifs at hex
    cases hex
    exact ⟨{ hrefl with }, { hT with }⟩
  | insertWarning row =>
    simp only [Stmt.exec] at hex
    split_ifs at hex
    cases hex
    exact ⟨{ hrefl with warnings := List.prefix_append _ _ }, { hT with }⟩
  | insertAudit row =>
    cases hex
    exact ⟨{ hrefl with audits := List.prefix_append _ _ }, { hT with }⟩
  | claimOrder i status paidAt => exact exec_claimOrder hT h hex
  | deleteExpiredLock key now | deleteLock key =>
    cases hex
    exact ⟨{ hrefl with }, { hT with }⟩
  | markDisabledByParent resellerId =>
    cases hex
    refine ⟨{ hrefl with users := .map fun u _ => ?_ }, { hT with }⟩
    split_ifs
    · exact ⟨rfl, rfl, rfl, rfl, rfl, .refl _⟩
    · exact .refl u

/-- What the statement has written is seen from then on. -/
theorem Stmt.exec_seen {st : Stmt} (hT : T.Proper) (hv : v.In T) (h : st.Lawful v)
    (hex : st.exec T = .ok (T', n)) : (v.wrote st).In T' := by
  have hv' : v.In T' := hv.grows (exec_grows hT hv h hex).1
  cases st
  case updateOrder old new =>
    refine hv'.withOrders fun o ho => ?_
    rw [List.mem_singleton.mp ho]
    exact (exec_updateOrder_grows hT hv h hex).2.2
  case updateReseller old new =>
    refine hv'.withResellers fun r hr => ?_
    rw [List.mem_singleton.mp hr]
    exact (exec_updateReseller_grows hT hv h hex).2.2
  all_goals exact hv'

theorem Stmt.execAll_grows {sts : List Stmt} (hT : T.Proper) (hv : v.In T)
    (h : ∀ st ∈ sts, st.Lawful v) (hex : execAll T sts = .ok T') :
    T.Grows T' ∧ T'.Proper ∧ (v.wroteAll sts).In T' := by
  induction sts generalizing T v with
  | nil =>
    cases hex
    exact ⟨.refl _, hT, hv⟩
  | cons st sts ih =>
    have hst : st.Lawful v := h st List.mem_cons_self
    rw [execAll] at hex
    cases hr : st.exec T with
    | error e =>
      rw [hr] at hex
      cases hex
    | ok r =>
      obtain ⟨T₁, n⟩ := r
      rw [hr] at hex
      obtain ⟨hg, hp⟩ := exec_grows hT hv hst hr
      obtain ⟨hg', hp', hv'⟩ := ih hp (exec_seen hT hv hst hr)
        (fun x hx => (h x (List.mem_cons_of_mem _ hx)).mono (Sight.sub_wrote v st)) hex
      exact ⟨hg.trans hg', hp', hv'⟩

end Exec

/-! ## Answers -/

/-- What is true of the rows that a query returns. -/
def Query.Proper : (q : Query) → q.Result → Prop
  | .order _, row | .orderByNumber _, row => ∀ o ∈ Option.toList row, o.Proper
  | .openOrders _, rows => ∀ o ∈ rows, o.Proper ∧ o.status.Paid
  | .waitingPlisio _, rows => ∀ x ∈ rows, x.1.Proper
  | .reseller _, row | .resellerByTelegram _, row => ∀ r ∈ Option.toList row, r.Proper
  | .resellers _, rows | .resellersNotSuspended _, rows => ∀ r ∈ rows, r.Proper
  | _, _ => True

theorem mem_of_find? {α : Type} {p : α → Bool} {rows : List α} {a : α}
    (h : a ∈ (rows.find? p).toList) : a ∈ rows :=
  List.mem_of_find?_eq_some (Option.mem_toList.mp h)

theorem mem_waitingPlisio {T : Tables} {limit : ℕ} {x : Order × Payment}
    (h : x ∈ (Query.waitingPlisio limit).run T) : x.1 ∈ T.orders := by
  obtain ⟨o, ho, hx⟩ := List.mem_flatMap.mp (List.mem_of_mem_take h)
  split_ifs at hx
  · obtain ⟨p, -, rfl⟩ := List.mem_map.mp hx
    exact ho
  · cases hx

theorem Query.run_proper {T : Tables} (hT : T.Proper) (q : Query) : q.Proper (q.run T) := by
  cases q
  case order | orderByNumber => exact fun o ho => hT.orders o (mem_of_find? ho)
  case openOrders =>
    intro o ho
    have hm := List.mem_filter.mp (List.mem_of_mem_take ho)
    refine ⟨hT.orders o hm.1, ?_⟩
    have hs : o.status = .PAID ∨ o.status = .APPLYING := by simpa using hm.2
    rcases hs with hs | hs <;> rw [hs] <;> trivial
  case waitingPlisio => exact fun x hx => hT.orders x.1 (mem_waitingPlisio hx)
  case reseller | resellerByTelegram => exact fun r hr => hT.resellers r (mem_of_find? hr)
  case resellers => exact fun r hr => hT.resellers r (List.mem_of_mem_take hr)
  case resellersNotSuspended =>
    exact fun r hr => hT.resellers r (List.mem_filter.mp (List.mem_of_mem_take hr)).1
  all_goals trivial

/-- What is read is in the tables as it has been read. -/
theorem Sight.In.read {v : Sight} {T : Tables} (h : v.In T) (q : Query) :
    (v.read q (q.run T)).In T := by
  cases q
  case order | orderByNumber => exact h.loadOrders fun o ho => mem_of_find? ho
  case openOrders =>
    exact h.loadOrders fun o ho => (List.mem_filter.mp (List.mem_of_mem_take ho)).1
  case waitingPlisio =>
    refine h.loadOrders fun o ho => ?_
    obtain ⟨x, hx, rfl⟩ := List.mem_map.mp ho
    exact mem_waitingPlisio hx
  case reseller | resellerByTelegram => exact h.loadResellers fun r hr => mem_of_find? hr
  case resellers => exact h.loadResellers fun r hr => List.mem_of_mem_take hr
  case resellersNotSuspended =>
    exact h.loadResellers fun r hr => (List.mem_filter.mp (List.mem_of_mem_take hr)).1
  all_goals exact h

/-! ## The specification -/

/-- The order that a call is made for has been seen with a payment time. -/
def Sight.Paid (v : Sight) (o : Order) : Prop := ∃ d ∈ v.orders, d.id = o.id ∧ Filled d.paidAt

/-- A renewal or a provisioning needs an order that has been paid. -/
def Cause.Paid (v : Sight) : Cause → Prop
  | .renewal order _ _ | .provisioning order _ => v.Paid order
  | _ => True

/-- What may be asked by whoever has seen `v`. -/
def Sight.Allows (v : Sight) : Ev → Prop
  | .flush sts => ∀ st ∈ sts, st.Lawful v
  | .execute st => st.Lawful v
  | .call why _ => why.Paid v
  | _ => True

def queryProper (q : Query) : Except Err q.Result → Prop
  | .ok r => q.Proper r
  | .error _ => True

def Ev.Proper : (e : Ev) → Resp e → Prop
  | .query q, r => queryProper q r
  | _, _ => True

/-- **The ledger** that every task keeps. -/
def ledger : Spec Ev Resp Sight where
  pre := Sight.Allows
  next v e r v' := v' = v.after e r ∧ e.Proper r

end ResellerBot
