import ResellerBot.Payments.Endpoint

/-!
# ResellerBot.Payments.Polling — a pass over the waiting Plisio orders (`app/scheduler/jobs.py`)

The pass asks for the transaction of each order that it has selected, and writes everything in the
commit behind it: if the comparison fails for one order, the payments of all are lost.
-/

open Interact

namespace ResellerBot

/-! ## Answers -/

/-- What an answer of the operations API says of an order: the transaction, if it is the payment of
the order. -/
def pollVerdict (order : Order) (txn : String) :
    Except Err Operation → Except Err (Option Operation)
  | .error _ => .ok none
  | .ok remote => do
    let valid ← operationValid order txn remote
    pure (if valid then some remote else none)

section Poll

variable (ar : Around)

/-- What is found for an order, and how often the services have been asked then. -/
def poll (n : ℕ) (row : Order × Payment) : Except Err (Option Operation) × ℕ :=
  match row.2.plisioTxnId with
  | none => (.ok none, n)
  | some txn =>
    if txn = "" then (.ok none, n) else (pollVerdict row.1 txn (ar.transaction n txn), n + 1)

/-- The transaction is the completed payment of the order. -/
def Completes (r : Option Operation) : Prop :=
  ∃ remote, r = some remote ∧ remote.status = "completed"

instance (r : Option Operation) : Decidable (Completes r) :=
  match r with
  | none => .isFalse fun ⟨_, h, _⟩ => nomatch h
  | some remote =>
    if h : remote.status = "completed" then .isTrue ⟨remote, rfl, h⟩
    else .isFalse fun ⟨_, heq, h'⟩ => h (Option.some.inj heq ▸ h')

/-- A completed payment also reads the clock. -/
def pollTicks : Except Err (Option Operation) × ℕ → ℕ
  | (.ok r, n) => if Completes r then n + 1 else n
  | (.error _, n) => n

/-- The comparison fails for none of the orders. -/
def Undisturbed : ℕ → List (Order × Payment) → Prop
  | _, [] => True
  | n, row :: rows =>
    (∃ r, (poll ar n row).1 = .ok r) ∧ Undisturbed (pollTicks (poll ar n row)) rows

/-- One of the orders has this id, and its transaction completes it. -/
def SettledIn (id : ℕ) : ℕ → List (Order × Payment) → Prop
  | _, [] => False
  | n, row :: rows => (row.1.id = id ∧ ∃ r, (poll ar n row).1 = .ok r ∧ Completes r) ∨
      SettledIn id (pollTicks (poll ar n row)) rows

variable {ar} in
theorem poll_completes_iff {n : ℕ} {row : Order × Payment} :
    (∃ r, (poll ar n row).1 = .ok r ∧ Completes r) ↔
      ∃ txn remote, row.2.plisioTxnId = some txn ∧ txn ≠ "" ∧ ar.transaction n txn = .ok remote ∧
        operationValid row.1 txn remote = .ok true ∧ remote.status = "completed" := by
  unfold poll
  constructor
  · rintro ⟨r, hr, remote, rfl, hc⟩
    cases htxn : row.2.plisioTxnId with
    | none =>
      rw [htxn] at hr
      cases hr
    | some txn =>
      rw [htxn] at hr
      dsimp only at hr
      split_ifs at hr with hempty
      · cases hr
      cases hanswer : ar.transaction n txn with
      | error e =>
        rw [hanswer] at hr
        cases hr
      | ok remote' =>
        rw [hanswer] at hr
        obtain ⟨valid, hvalid, hr⟩ := bind_eq_ok hr
        cases valid with
        | false => cases hr
        | true =>
          cases hr
          exact ⟨txn, remote, rfl, hempty, hanswer, hvalid, hc⟩
  · rintro ⟨txn, remote, htxn, hne, hanswer, hvalid, hc⟩
    refine ⟨some remote, ?_, remote, rfl, hc⟩
    rw [htxn]
    dsimp only
    rw [if_neg hne, hanswer, pollVerdict, hvalid]
    rfl

variable {ar} in
/-- An order that is polled in the same way whenever its turn comes. -/
theorem settledIn_iff {id n : ℕ} {row : Order × Payment} {rows : List (Order × Payment)} {P : Prop}
    (hrows : ∀ row' ∈ rows, row'.1.id = id → row' = row) (hid : row.1.id = id)
    (hpoll : ∀ n, (∃ r, (poll ar n row).1 = .ok r ∧ Completes r) ↔ P) :
    SettledIn ar id n rows ↔ row ∈ rows ∧ P := by
  induction rows generalizing n with
  | nil => exact iff_of_false (fun h => h) fun h => nomatch h.1
  | cons row' rows ih =>
    rw [SettledIn, ih fun r hr => hrows r (List.mem_cons_of_mem _ hr)]
    constructor
    · rintro (⟨hid', h⟩ | ⟨hmem, h⟩)
      · obtain rfl := hrows row' List.mem_cons_self hid'
        exact ⟨List.mem_cons_self, (hpoll n).mp h⟩
      · exact ⟨List.mem_cons_of_mem _ hmem, h⟩
    · rintro ⟨hmem, h⟩
      obtain rfl | hmem := List.mem_cons.mp hmem
      · exact .inl ⟨hid, (hpoll n).mpr h⟩
      · exact .inr ⟨hmem, h⟩

end Poll

/-! ## What the pass has yet to write -/

/-- A statement that the poll of an order leaves to the commit. -/
inductive PollStmt (row : Order × Payment) (paid : Prop) : Stmt → Prop
  | order (now : Datetime) (h : paid) : PollStmt row paid (.updateOrder row.1 (row.1.paid now))
  | payment (q : Payment) : PollStmt row paid (.updatePayment row.2 q)
  | audit (a : AuditLog) : PollStmt row paid (.insertAudit a)

/-- The commit of the session marks this order paid. -/
def Marks (id : ℕ) (s : Session) : Prop :=
  ∃ (a : Order) (now : Datetime), .updateOrder a (a.paid now) ∈ s.unflushed ∧ a.id = id

/-- A session in which only orders and payments are held. -/
structure Holding (ep : ℕ) (s : Session) : Prop where
  epoch : s.epoch = ep
  reseller : s.reseller = none
  trial : s.trial = none
  user : s.user = none

/-- The session `s'` has the statements of `s`, and those of the poll of an order. -/
structure Adds (row : Order × Payment) (paid : Prop) (s s' : Session) : Prop where
  kept : ∀ st ∈ s.unflushed, st ∈ s'.unflushed
  new : ∀ st ∈ s'.unflushed, st ∈ s.unflushed ∨ PollStmt row paid st
  paid : paid → ∃ now, .updateOrder row.1 (row.1.paid now) ∈ s'.unflushed

section Step

variable {ar : Around} {s : Session} {t : Txn} {ep : ℕ} {row : Order × Payment}

theorem stmtsOf_none {α : Type} (sl : Slot α) (h : sl.get s = none) : s.stmtsOf sl = [] := by
  rw [Session.stmtsOf, h]
  rfl

theorem Holding.mem_unflushed (h : Holding ep s) {st : Stmt} : st ∈ s.unflushed ↔
    st ∈ s.pending ∨ st ∈ s.stmtsOf .order ∨ st ∈ s.stmtsOf .payment := by
  rw [Session.unflushed, stmtsOf_none .reseller h.reseller, stmtsOf_none .trial h.trial,
    stmtsOf_none .user h.user]
  simp only [List.append_nil, List.mem_append, or_assoc]

/-- The session once the order and its payment are loaded, with more in its pending statements and
changes in the two rows. -/
def pollSession (s : Session) (sts : List Stmt) (o : Obj Order) (q : Obj Payment) : Session :=
  { s with
    pending := s.pending ++ s.stmtsOf .order ++ s.stmtsOf .payment ++ sts
    order := some o
    payment := some q }

theorem mem_pollSession (h : Holding ep s) {sts : List Stmt} {o : Obj Order} {q : Obj Payment}
    {st : Stmt} : st ∈ (pollSession s sts o q).unflushed ↔ st ∈ s.unflushed ∨ st ∈ sts ∨
      st ∈ Slot.order.stmts o ∨ st ∈ Slot.payment.stmts q := by
  have h' : Holding ep (pollSession s sts o q) := ⟨h.epoch, h.reseller, h.trial, h.user⟩
  rw [h'.mem_unflushed, h.mem_unflushed]
  show st ∈ _ ++ _ ++ _ ++ _ ∨ st ∈ Slot.order.stmts o ∨ st ∈ Slot.payment.stmts q ↔ _
  simp only [List.mem_append, or_assoc]

theorem holding_pollSession (h : Holding ep s) {sts : List Stmt} {o : Obj Order}
    {q : Obj Payment} : Holding ep (pollSession s sts o q) :=
  ⟨h.epoch, h.reseller, h.trial, h.user⟩

/-- The two rows as they were loaded. -/
def loadedRow (s : Session) (row : Order × Payment) (sts : List Stmt) : Session :=
  pollSession s sts ⟨some row.1, row.1⟩ ⟨some row.2, row.2⟩

theorem adds_loadedRow (h : Holding ep s) {sts : List Stmt} {paid : Prop}
    (hsts : ∀ st ∈ sts, ∃ a, st = .insertAudit a) (hpaid : ¬paid) :
    Adds row paid s (loadedRow s row sts) where
  kept st hst := (mem_pollSession h).mpr (.inl hst)
  new st hst := by
    obtain hst | hst | hst | hst := (mem_pollSession h).mp hst
    · exact .inl hst
    · obtain ⟨a, rfl⟩ := hsts st hst
      exact .inr (.audit a)
    · rw [show Slot.order.stmts ⟨some row.1, row.1⟩ = [] from if_pos rfl] at hst
      cases hst
    · rw [show Slot.payment.stmts ⟨some row.2, row.2⟩ = [] from if_pos rfl] at hst
      cases hst
  paid hp := absurd hp hpaid

theorem run_loadRow (h : Holding ep s) (m : Bot Unit) :
    Act.run ar.react s t (do
      Slot.order.holdLoaded ep row.1
      Slot.payment.holdLoaded ep row.2
      m) = Act.run ar.react (loadedRow s row []) t m := by
  rw [Act.run_bind_ok _ _ _ _ (run_holdLoaded _ _ _ h.epoch _),
    Act.run_bind_ok _ _ _ _ (run_holdLoaded _ _ _ (by exact h.epoch) _)]
  congr 1
  rw [loadedRow, pollSession, List.append_nil]
  rfl

theorem mem_updatedPayment {q q' : Payment} {st : Stmt}
    (h : st ∈ Slot.payment.stmts ⟨some q, q'⟩) : st = .updatePayment q q' := by
  have hupdated : st ∈ updated .updatePayment (fun _ => []) ⟨some q, q'⟩ := h
  obtain ⟨db, hdb, hst⟩ | ⟨hnone, -⟩ := mem_updated hupdated
  · cases hdb
    exact hst
  · cases hnone

theorem mem_updatedOrder {o o' : Order} {st : Stmt} (h : st ∈ Slot.order.stmts ⟨some o, o'⟩) :
    st = .updateOrder o o' := by
  have hupdated : st ∈ updated .updateOrder (fun _ => []) ⟨some o, o'⟩ := h
  obtain ⟨db, hdb, hst⟩ | ⟨hnone, -⟩ := mem_updated hupdated
  · cases hdb
    exact hst
  · cases hnone

/-- What the poll of an order that is still waiting leaves behind. -/
structure Polled (ar : Around) (ep : ℕ) (row : Order × Payment) (r : Option Operation)
    (s s' : Session) : Prop where
  holding : Holding ep s'
  broken : s'.broken = s.broken
  adds : Adds row (Completes r) s s'

/-- A valid transaction is stored, and a completed one pays. -/
theorem run_settle (h : Holding ep s) (hwaiting : row.1.status = .WAITING_PAYMENT)
    (remote : Operation) : ∃ s', Act.run ar.react (loadedRow s row []) t
      (settlePlisio row.1 remote) = ((.ok (), s'),
        { t with ticks := if Completes (some remote) then t.ticks + 1 else t.ticks }) ∧
      Polled ar ep row (some remote) s s' := by
  have hcompletes : Completes (some remote) ↔ remote.status = "completed" := by
    constructor
    · rintro ⟨remote', heq, hc⟩
      exact Option.some.inj heq ▸ hc
    · exact fun hc => ⟨remote, rfl, hc⟩
  unfold settlePlisio
  by_cases hc : remote.status = "completed"
  · rw [if_pos (hcompletes.mpr hc), if_pos hc]
    refine ⟨pollSession s [.insertAudit ⟨"PLISIO_RECONCILED", "PAID", some row.1.id⟩]
      ⟨some row.1, row.1.paid (ar.clock t.ticks)⟩
      ⟨some row.2, { row.2 with status := remote.status }⟩, ?_, holding_pollSession h, rfl, ?_⟩
    · rw [loadedRow, pollSession, List.append_nil]
      rfl
    · have hne : row.1 ≠ row.1.paid (ar.clock t.ticks) := by
        intro heq
        have := congrArg Order.status heq
        rw [hwaiting] at this
        cases this
      refine ⟨fun st hst => (mem_pollSession h).mpr (.inl hst), fun st hst => ?_, fun _ => ?_⟩
      · obtain hst | hst | hst | hst := (mem_pollSession h).mp hst
        · exact .inl hst
        · rw [List.mem_singleton.mp hst]
          exact .inr (.audit _)
        · rw [mem_updatedOrder hst]
          exact .inr (.order _ (hcompletes.mpr hc))
        · rw [mem_updatedPayment hst]
          exact .inr (.payment _)
      · refine ⟨ar.clock t.ticks, (mem_pollSession h).mpr (.inr (.inr (.inl ?_)))⟩
        rw [show Slot.order.stmts ⟨some row.1, row.1.paid (ar.clock t.ticks)⟩ =
          [.updateOrder row.1 (row.1.paid (ar.clock t.ticks))] from if_neg hne]
        exact List.mem_singleton_self _
  · rw [if_neg (mt hcompletes.mp hc), if_neg hc]
    refine ⟨pollSession s [] ⟨some row.1, row.1⟩
      ⟨some row.2, { row.2 with status := remote.status }⟩, rfl, holding_pollSession h, rfl,
      fun st hst => (mem_pollSession h).mpr (.inl hst), fun st hst => ?_,
      fun hp => absurd (hcompletes.mp hp) hc⟩
    obtain hst | hst | hst | hst := (mem_pollSession h).mp hst
    · exact .inl hst
    · cases hst
    · rw [show Slot.order.stmts ⟨some row.1, row.1⟩ = [] from if_pos rfl] at hst
      cases hst
    · rw [mem_updatedPayment hst]
      exact .inr (.payment _)

theorem not_completes_none : ¬Completes none := by
  rintro ⟨remote, ⟨⟩, -⟩

/-- An audit row is all that a refusal leaves. -/
theorem run_refused (h : Holding ep s) (action result : String) : ∃ s',
    Act.run ar.react (loadedRow s row []) t (audit action result (some row.1.id)) =
      ((.ok (), s'), { t with ticks := if Completes none then t.ticks + 1 else t.ticks }) ∧
    Polled ar ep row none s s' := by
  refine ⟨loadedRow s row [.insertAudit ⟨action, result, some row.1.id⟩], ?_,
    holding_pollSession h, rfl,
    adds_loadedRow h (fun _ hst => ⟨_, List.mem_singleton.mp hst⟩) not_completes_none⟩
  rw [if_neg not_completes_none, loadedRow, pollSession, List.append_nil]
  rfl

theorem polled_none (h : Holding ep s) : Polled ar ep row none s (loadedRow s row []) :=
  ⟨holding_pollSession h, rfl, adds_loadedRow h (fun _ hst => nomatch hst) not_completes_none⟩

/-- The poll of an order that has a transaction. -/
theorem run_poll_txn {txn : String} (htxn : row.2.plisioTxnId = some txn) (hne : txn ≠ "")
    (h : Holding ep s) : Act.run ar.react s t (reconcilePlisioOrder ep row) =
      Act.run ar.react (loadedRow s row []) { t with ticks := t.ticks + 1 }
        (match ar.transaction t.ticks txn with
        | .error _ => audit "PLISIO_RECONCILE_FAILED" "ERROR" (some row.1.id)
        | .ok remote => do
          let valid ← Act.outcome (operationValid row.1 txn remote)
          if valid then settlePlisio row.1 remote
          else audit "PLISIO_RECONCILE_REJECTED" "REJECTED" (some row.1.id)) := by
  unfold reconcilePlisioOrder
  rw [run_loadRow h, htxn]
  split
  · next heq => cases heq
  · next heq => exact absurd (Option.some.inj heq) hne
  · next txn' _ heq =>
    obtain rfl := Option.some.inj heq
    rw [run_ask_bind]
    rfl

/-- **The poll of one order**, whose comparison does not fail. -/
theorem run_poll_ok {r : Option Operation} (h : Holding ep s)
    (hwaiting : row.1.status = .WAITING_PAYMENT) (hr : (poll ar t.ticks row).1 = .ok r) :
    ∃ s', Act.run ar.react s t (reconcilePlisioOrder ep row) =
      ((.ok (), s'), { t with ticks := pollTicks (poll ar t.ticks row) }) ∧
      Polled ar ep row r s s' := by
  have hasked : row.2.plisioTxnId = none ∨ row.2.plisioTxnId = some "" ∨
      ∃ txn, row.2.plisioTxnId = some txn ∧ txn ≠ "" := by
    rcases row.2.plisioTxnId with _ | txn
    · exact .inl rfl
    · by_cases hempty : txn = ""
      · exact .inr (.inl (hempty ▸ rfl))
      · exact .inr (.inr ⟨txn, rfl, hempty⟩)
  rw [poll] at hr ⊢
  obtain htxn | htxn | ⟨txn, htxn, hne⟩ := hasked
  · rw [htxn] at hr ⊢
    cases hr
    refine ⟨loadedRow s row [], ?_, polled_none h⟩
    rw [pollTicks, if_neg not_completes_none, reconcilePlisioOrder, run_loadRow h, htxn]
    rfl
  · rw [htxn] at hr ⊢
    cases hr
    refine ⟨loadedRow s row [], ?_, polled_none h⟩
    rw [reconcilePlisioOrder, run_loadRow h, htxn]
    show _ = (_, { t with ticks := if Completes none then t.ticks + 1 else t.ticks })
    rw [if_neg not_completes_none]
    rfl
  · rw [run_poll_txn htxn hne h, htxn]
    rw [htxn] at hr
    dsimp only at hr ⊢
    rw [if_neg hne] at hr ⊢
    cases hanswer : ar.transaction t.ticks txn with
    | error e =>
      rw [hanswer] at hr
      cases hr
      exact run_refused (t := { t with ticks := t.ticks + 1 }) h _ _
    | ok remote =>
      rw [hanswer] at hr
      dsimp only [pollVerdict] at hr ⊢
      cases hvalid : operationValid row.1 txn remote with
      | error e =>
        rw [hvalid] at hr
        cases hr
      | ok valid =>
        rw [hvalid] at hr
        rw [Act.run_bind_ok _ _ _ _ (Act.run_outcome ..)]
        cases valid with
        | false =>
          cases hr
          exact run_refused (t := { t with ticks := t.ticks + 1 }) h _ _
        | true =>
          cases hr
          exact run_settle (t := { t with ticks := t.ticks + 1 }) h hwaiting remote

/-- A comparison that fails ends the pass. -/
theorem run_poll_error {e : Err} (h : Holding ep s) (he : (poll ar t.ticks row).1 = .error e) :
    ∃ s', Act.run ar.react s t (reconcilePlisioOrder ep row) =
      ((.error e, s'), { t with ticks := t.ticks + 1 }) := by
  unfold poll at he
  cases htxn : row.2.plisioTxnId with
  | none =>
    rw [htxn] at he
    cases he
  | some txn =>
    rw [htxn] at he
    dsimp only at he
    split_ifs at he with hempty
    rw [run_poll_txn htxn hempty h]
    cases hanswer : ar.transaction t.ticks txn with
    | error e' =>
      rw [hanswer] at he
      cases he
    | ok remote =>
      rw [hanswer] at he
      dsimp only [pollVerdict] at he ⊢
      cases hvalid : operationValid row.1 txn remote with
      | error e' =>
        rw [hvalid] at he
        cases he
        exact ⟨loadedRow s row [], by rw [Act.run_bind, Act.run_outcome]⟩
      | ok valid =>
        rw [hvalid] at he
        cases he

theorem Adds.marks_iff {paid : Prop} {s' : Session} (h : Adds row paid s s') {id : ℕ} :
    Marks id s' ↔ Marks id s ∨ (row.1.id = id ∧ paid) := by
  constructor
  · rintro ⟨a, now, hst, hid⟩
    obtain hst | hst := h.new _ hst
    · exact .inl ⟨a, now, hst, hid⟩
    · cases hst with
      | order now hp => exact .inr ⟨hid, hp⟩
  · rintro (⟨a, now, hst, hid⟩ | ⟨hid, hp⟩)
    · exact ⟨a, now, h.kept _ hst, hid⟩
    · obtain ⟨now, hst⟩ := h.paid hp
      exact ⟨row.1, now, hst, hid⟩

variable (ar) in
/-- **The polls of all orders**: if no comparison fails, the session has the statements of all of
them. -/
theorem run_polls {rows : List (Order × Payment)} (id : ℕ)
    (hwaiting : ∀ row ∈ rows, row.1.status = .WAITING_PAYMENT) (h : Holding ep s) :
    (Undisturbed ar t.ticks rows ∧ ∃ s' n,
      Act.run ar.react s t (Act.forEach (reconcilePlisioOrder ep) rows) =
        ((.ok (), s'), { t with ticks := n }) ∧ s'.broken = s.broken ∧
      (∀ st ∈ s'.unflushed, st ∈ s.unflushed ∨ ∃ row ∈ rows, PollStmt row True st) ∧
      (Marks id s' ↔ Marks id s ∨ SettledIn ar id t.ticks rows)) ∨
    (¬Undisturbed ar t.ticks rows ∧ ∃ e s' n,
      Act.run ar.react s t (Act.forEach (reconcilePlisioOrder ep) rows) =
        ((.error e, s'), { t with ticks := n })) := by
  induction rows generalizing s t with
  | nil =>
    refine .inl ⟨trivial, s, t.ticks, rfl, rfl, fun st hst => .inl hst, ?_⟩
    exact (or_iff_left fun hno => hno).symm
  | cons row rows ih =>
    have hrest : ∀ row ∈ rows, row.1.status = .WAITING_PAYMENT := fun row hrow =>
      hwaiting row (List.mem_cons_of_mem _ hrow)
    cases hr : (poll ar t.ticks row).1 with
    | error e =>
      obtain ⟨s', hrun⟩ := run_poll_error h hr
      refine .inr ⟨?_, e, s', t.ticks + 1, ?_⟩
      · rintro ⟨⟨r, hr'⟩, -⟩
        rw [hr] at hr'
        cases hr'
      · rw [Act.forEach, Act.run_bind, hrun]
    | ok r =>
      obtain ⟨s₁, hrun, hpolled⟩ := run_poll_ok h (hwaiting row List.mem_cons_self) hr
      have hforEach : Act.run ar.react s t (Act.forEach (reconcilePlisioOrder ep) (row :: rows)) =
          Act.run ar.react s₁ { t with ticks := pollTicks (poll ar t.ticks row) }
            (Act.forEach (reconcilePlisioOrder ep) rows) := by
        rw [Act.forEach, Act.run_bind_ok _ _ _ _ hrun]
      rw [hforEach]
      have hsettled : SettledIn ar id t.ticks (row :: rows) ↔ (row.1.id = id ∧ Completes r) ∨
          SettledIn ar id (pollTicks (poll ar t.ticks row)) rows := by
        refine or_congr (and_congr_right fun _ => ⟨?_, fun hc => ⟨r, hr, hc⟩⟩) Iff.rfl
        rintro ⟨r', hr', hc⟩
        rw [hr] at hr'
        exact Except.ok.inj hr' ▸ hc
      obtain ⟨hundisturbed, s', n, hrun', hbroken, hnew, hmarks⟩ | ⟨hdisturbed, e, s', n, hrun'⟩ :=
        ih (t := { t with ticks := pollTicks (poll ar t.ticks row) }) hrest hpolled.holding
      · refine .inl ⟨⟨⟨r, hr⟩, hundisturbed⟩, s', n, hrun', hbroken.trans hpolled.broken, ?_, ?_⟩
        · intro st hst
          obtain hst | ⟨row', hrow', hst⟩ := hnew st hst
          · obtain hst | hst := hpolled.adds.new st hst
            · exact .inl hst
            · refine .inr ⟨row, List.mem_cons_self, ?_⟩
              cases hst with
              | order now _ => exact .order now trivial
              | payment q => exact .payment q
              | audit a => exact .audit a
          · exact .inr ⟨row', List.mem_cons_of_mem _ hrow', hst⟩
        · rw [hmarks, hpolled.adds.marks_iff, hsettled, or_assoc]
      · exact .inr ⟨fun hno => hdisturbed hno.2, e, s', n, hrun'⟩

end Step

/-! ## The commit -/

/-- The order with this id is paid. -/
def PaidIn (T : Tables) (id : ℕ) : Prop := ∃ o ∈ T.orders, o.id = id ∧ o.status = .PAID

section Commit

variable {T T₀ : Tables} {id : ℕ}

theorem paidIn_set {f : Order → Order} {i : ℕ} (hf : ∀ r, (f r).id = r.id) :
    PaidIn { T with orders := Rows.set Order.id T.orders i f } id ↔
      (i = id ∧ ∃ o ∈ T.orders, o.id = id ∧ (f o).status = .PAID) ∨ (i ≠ id ∧ PaidIn T id) := by
  constructor
  · rintro ⟨o', ho', hid, hpaid⟩
    obtain ⟨o, ho, hi, rfl⟩ | ⟨ho, hi⟩ := Rows.mem_set.mp ho'
    · have hid' : o.id = id := (hf o).symm.trans hid
      exact .inl ⟨hi.symm.trans hid', o, ho, hid', hpaid⟩
    · exact .inr ⟨fun h => hi (hid.trans h.symm), o', ho, hid, hpaid⟩
  · rintro (⟨rfl, o, ho, hid, hpaid⟩ | ⟨hi, o, ho, hid, hpaid⟩)
    · exact ⟨f o, Rows.mem_set.mpr (.inl ⟨o, ho, hid, rfl⟩), (hf o).trans hid, hpaid⟩
    · exact ⟨o, Rows.mem_set.mpr (.inr ⟨ho, fun h => hi (h.symm.trans hid)⟩), hid, hpaid⟩

theorem any_of_map {α : Type} {key : α → ℕ} {rows rows₀ : List α} {r : α}
    (hkeys : rows.map key = rows₀.map key) (hr : r ∈ rows₀) : rows.any (key · = key r) = true := by
  have hmem : key r ∈ rows.map key := hkeys ▸ List.mem_map_of_mem hr
  obtain ⟨r', hr', heq⟩ := List.mem_map.mp hmem
  exact List.any_eq_true.mpr ⟨r', hr', decide_eq_true heq⟩

/-- A waiting order that is marked is paid; nothing changes for the others. -/
theorem paidIn_mark {a : Order} (hwaiting : a.status = .WAITING_PAYMENT) (now : Datetime)
    (hany : T.orders.any (Order.id · = a.id) = true) :
    PaidIn { T with orders := Rows.set Order.id T.orders a.id (a.update (a.paid now)) } id ↔
      PaidIn T id ∨ a.id = id := by
  have hstatus : ∀ o, (a.update (a.paid now) o).status = .PAID := fun o => by
    refine col_of_ne ?_
    rw [hwaiting]
    rintro ⟨⟩
  refine (paidIn_set (f := a.update (a.paid now)) fun _ => rfl).trans ?_
  constructor
  · rintro (⟨hid, -⟩ | ⟨-, h⟩)
    · exact .inr hid
    · exact .inl h
  · intro h
    by_cases hid : a.id = id
    · obtain ⟨o, ho, heq⟩ := List.any_eq_true.mp hany
      exact .inl ⟨hid, o, ho, (of_decide_eq_true heq).trans hid, hstatus o⟩
    · exact .inr ⟨hid, h.resolve_right hid⟩

/-- What marks an order is the first statement or one of the others. -/
theorem marks_cons {st : Stmt} {sts : List Stmt} :
    (∃ (a : Order) (now : Datetime), Stmt.updateOrder a (a.paid now) ∈ st :: sts ∧ a.id = id) ↔
      (∃ (a : Order) (now : Datetime), st = .updateOrder a (a.paid now) ∧ a.id = id) ∨
      ∃ (a : Order) (now : Datetime), Stmt.updateOrder a (a.paid now) ∈ sts ∧ a.id = id := by
  constructor
  · rintro ⟨a, now, hmem, hid⟩
    obtain heq | hmem := List.mem_cons.mp hmem
    · exact .inl ⟨a, now, heq.symm, hid⟩
    · exact .inr ⟨a, now, hmem, hid⟩
  · rintro (⟨a, now, heq, hid⟩ | ⟨a, now, hmem, hid⟩)
    · exact ⟨a, now, heq ▸ List.mem_cons_self, hid⟩
    · exact ⟨a, now, List.mem_cons_of_mem _ hmem, hid⟩

/-- The statements of a pass succeed, and the orders that they mark are paid. -/
theorem exec_polls (id : ℕ) {rows : List (Order × Payment)} {sts : List Stmt}
    (hrows : ∀ row ∈ rows, row.1 ∈ T₀.orders ∧ row.1.status = .WAITING_PAYMENT ∧
      row.2 ∈ T₀.payments)
    (hsts : ∀ st ∈ sts, ∃ row ∈ rows, PollStmt row True st)
    (horders : T.orders.map Order.id = T₀.orders.map Order.id)
    (hpayments : T.payments.map Payment.orderId = T₀.payments.map Payment.orderId) :
    ∃ T', Stmt.execAll T sts = .ok T' ∧ (PaidIn T' id ↔ PaidIn T id ∨
      ∃ (a : Order) (now : Datetime), Stmt.updateOrder a (a.paid now) ∈ sts ∧ a.id = id) := by
  induction sts generalizing T with
  | nil =>
    refine ⟨T, rfl, (or_iff_left ?_).symm⟩
    rintro ⟨a, now, hst, -⟩
    cases hst
  | cons st sts ih =>
    have hrest : ∀ st ∈ sts, ∃ row ∈ rows, PollStmt row True st := fun st hst =>
      hsts st (List.mem_cons_of_mem _ hst)
    obtain ⟨row, hrow, hst⟩ := hsts st List.mem_cons_self
    obtain ⟨ho, hwaiting, hq⟩ := hrows row hrow
    cases hst with
    | order now _ =>
      have hany := any_of_map horders ho
      have hexec : (Stmt.updateOrder row.1 (row.1.paid now)).exec T = .ok ({ T with
          orders := Rows.set Order.id T.orders row.1.id (row.1.update (row.1.paid now)) }, 1) :=
        if_pos hany
      obtain ⟨T', hT', hpaid⟩ := ih hrest (T := { T with
          orders := Rows.set Order.id T.orders row.1.id (row.1.update (row.1.paid now)) })
        ((Rows.map_set (f := row.1.update _) fun _ => rfl).trans horders) hpayments
      refine ⟨T', by rw [Stmt.execAll, hexec]; exact hT', ?_⟩
      have hthis : (∃ (a : Order) (now' : Datetime),
          Stmt.updateOrder row.1 (row.1.paid now) = .updateOrder a (a.paid now') ∧ a.id = id) ↔
          row.1.id = id := by
        constructor
        · rintro ⟨a, now', heq, hid⟩
          exact (Stmt.updateOrder.inj heq).1 ▸ hid
        · exact fun hid => ⟨row.1, now, rfl, hid⟩
      rw [hpaid, paidIn_mark hwaiting now hany, marks_cons, hthis, or_assoc]
    | payment q =>
      have hexec : (Stmt.updatePayment row.2 q).exec T = .ok ({ T with
          payments := Rows.set Payment.orderId T.payments row.2.orderId (row.2.update q) }, 1) :=
        if_pos (any_of_map hpayments hq)
      obtain ⟨T', hT', hpaid⟩ := ih hrest (T := { T with
          payments := Rows.set Payment.orderId T.payments row.2.orderId (row.2.update q) })
        horders ((Rows.map_set (f := row.2.update q) fun _ => rfl).trans hpayments)
      refine ⟨T', by rw [Stmt.execAll, hexec]; exact hT', ?_⟩
      rw [hpaid, marks_cons, or_iff_right (a := ∃ a now, _ = _ ∧ _) (by rintro ⟨a, now, ⟨⟩, -⟩)]
      exact Iff.rfl
    | audit a =>
      obtain ⟨T', hT', hpaid⟩ := ih hrest (T := { T with audits := T.audits ++ [a] })
        horders hpayments
      refine ⟨T', by rw [Stmt.execAll]; exact hT', ?_⟩
      rw [hpaid, marks_cons, or_iff_right (a := ∃ a now, _ = _ ∧ _) (by rintro ⟨a, now, ⟨⟩, -⟩)]
      exact Iff.rfl

end Commit

/-! ## The pass -/

section Pass

variable {ar : Around} {cfg : Settings} {batchSize : ℕ} {w : Place} {id : ℕ}

theorem mem_waitingPlisio_iff {T : Tables} {o : Order} {q : Payment} :
    (o, q) ∈ (T.orders.flatMap fun o => if o.status = .WAITING_PAYMENT then
        (T.payments.filter fun p => p.orderId = o.id && p.method = .plisio).map (o, ·)
      else []) ↔
    o ∈ T.orders ∧ o.status = .WAITING_PAYMENT ∧ q ∈ T.payments ∧ q.orderId = o.id ∧
      q.method = .plisio := by
  rw [List.mem_flatMap]
  constructor
  · rintro ⟨o', ho', h⟩
    split_ifs at h with hw
    · obtain ⟨q', hq', heq⟩ := List.mem_map.mp h
      obtain ⟨rfl, rfl⟩ := Prod.mk.inj heq
      obtain ⟨hmem, hkey⟩ := List.mem_filter.mp hq'
      simp only [Bool.and_eq_true, decide_eq_true_eq] at hkey
      exact ⟨ho', hw, hmem, hkey.1, hkey.2⟩
    · cases h
  · rintro ⟨ho, hw, hq, hid, hm⟩
    refine ⟨o, ho, ?_⟩
    rw [if_pos hw]
    exact List.mem_map.mpr ⟨q, List.mem_filter.mpr ⟨hq, by simp [hid, hm]⟩, rfl⟩

/-- The orders that a pass selects. -/
def waitingRows (T : Tables) (batchSize : ℕ) : List (Order × Payment) :=
  (Query.waitingPlisio batchSize).run T

theorem waitingRows_spec {T : Tables} {row : Order × Payment} (h : row ∈ waitingRows T batchSize) :
    row.1 ∈ T.orders ∧ row.1.status = .WAITING_PAYMENT ∧ row.2 ∈ T.payments ∧
      row.2.orderId = row.1.id := by
  obtain ⟨ho, hw, hq, hid, -⟩ := mem_waitingPlisio_iff.mp (List.mem_of_mem_take h)
  exact ⟨ho, hw, hq, hid⟩

/-- The world after a pass that is committed. -/
def polled (ar : Around) (cfg : Settings) (batchSize : ℕ) (w : Place) : Place :=
  ar.after (inTransaction (reconcilePlisio cfg batchSize)) w

/-- **What a pass pays**: an order that is not paid is paid exactly if one of the selected orders
completes it and the comparison fails for none of them. -/
theorem polled_iff (hunpaid : ¬PaidIn w.tables id) :
    PaidIn (polled ar cfg batchSize w).tables id ↔
      cfg.plisioEnabled = true ∧ cfg.plisioSecretKey ≠ "" ∧
        Undisturbed ar w.ticks (waitingRows w.tables batchSize) ∧
        SettledIn ar id w.ticks (waitingRows w.tables batchSize) := by
  unfold polled reconcilePlisio
  split_ifs with hoff
  · have hsame : PaidIn (ar.after (inTransaction (pure ())) w).tables id ↔ PaidIn w.tables id :=
      after_inTransaction (Q := fun w' => PaidIn w'.tables id ↔ PaidIn w.tables id)
        ⟨(), _, _, rfl, w.tables, ahead_empty w, Iff.rfl⟩
    rw [hsame]
    refine iff_of_false hunpaid ?_
    rintro ⟨hon, hsecret, -, -⟩
    exact hoff.elim (fun h => h hon) hsecret
  · rw [not_or, not_not] at hoff
    rw [and_iff_right hoff.1, and_iff_right hoff.2]
    have hloop : ∀ {r s t}, Act.run ar.react Session.empty w.enter
          (Act.forEach (reconcilePlisioOrder 0) (waitingRows w.tables batchSize)) = ((r, s), t) →
        Act.run ar.react Session.empty w.enter (do
          let rows : List (Order × Payment) ← query (.waitingPlisio batchSize)
          let ep ← epoch
          Act.forEach (reconcilePlisioOrder ep) rows) = ((r, s), t) := by
      intro r s t h
      rw [Act.run_bind_ok _ _ _ _ ((ahead_empty w).run_query _)]
      exact h
    have hholding : Holding 0 Session.empty := ⟨rfl, rfl, rfl, rfl⟩
    have hwaiting : ∀ row ∈ waitingRows w.tables batchSize, row.1.status = .WAITING_PAYMENT :=
      fun row hrow => (waitingRows_spec hrow).2.1
    obtain ⟨hundisturbed, s, n, hrun, hbroken, hnew, hmarks⟩ | ⟨hdisturbed, e, s, n, hrun⟩ :=
      run_polls ar (t := w.enter) id hwaiting hholding
    · have hsts : ∀ st ∈ s.unflushed, ∃ row ∈ waitingRows w.tables batchSize,
          PollStmt row True st := fun st hst => (hnew st hst).resolve_left List.not_mem_nil
      have hrows : ∀ row ∈ waitingRows w.tables batchSize, row.1 ∈ w.tables.orders ∧
          row.1.status = .WAITING_PAYMENT ∧ row.2 ∈ w.tables.payments := by
        intro row hrow
        obtain ⟨ho, hw, hq, -⟩ := waitingRows_spec hrow
        exact ⟨ho, hw, hq⟩
      obtain ⟨T, hT, hpaid⟩ := exec_polls id (T := w.tables) hrows hsts rfl rfl
      have hahead : Ahead s { w.enter with ticks := n } T := ⟨hbroken, hT⟩
      rw [Around.after, run_inTransaction_ok (hloop hrun) hahead]
      show PaidIn T id ↔ _
      rw [hpaid, or_iff_right hunpaid]
      show Marks id s ↔ _
      rw [hmarks, or_iff_right (by rintro ⟨a, now, ⟨⟩, -⟩)]
      exact (and_iff_right hundisturbed).symm
    · rw [Around.after, run_inTransaction_error (hloop hrun)]
      show PaidIn w.tables id ↔ _
      exact iff_of_false hunpaid fun h => hdisturbed h.1

end Pass

end ResellerBot
