import ResellerBot.Database.Run
import ResellerBot.Database.Traced

/-!
# ResellerBot.Payments.Adversary — the row of an order in a world where anything may fail

The database keeps its tables; every other answer, and which statement of the database fails, is up
to an adversary that has seen all that was asked before.
-/

open Interact

namespace ResellerBot

/-- What is answered, and which statement fails, from what has been asked and answered. -/
structure Adversary where
  answer : (e : Ev) → Past → Resp e
  fault : Past → Option Err

/-- The tables in one transaction, and what has been asked and answered. -/
structure Journal where
  committed : Tables
  working : Tables
  past : Past

namespace Journal

variable (t : Journal)

def saw (e : Ev) (r : Resp e) : Journal := { t with past := ⟨e, r⟩ :: t.past }

/-- The end of a transaction that has failed. -/
def undone : Journal := { t with working := t.committed }

end Journal

namespace Adversary

variable (adv : Adversary)

def flush (sts : List Stmt) (t : Journal) : Except Err Unit × Journal :=
  match adv.fault t.past with
  | some e => (.error e, t.undone.saw (.flush sts) (.error e))
  | none =>
    match Stmt.execAll t.working sts with
    | .ok T => (.ok (), Journal.saw { t with working := T } (.flush sts) (.ok ()))
    | .error e => (.error e, t.undone.saw (.flush sts) (.error e))

def execute (st : Stmt) (t : Journal) : Except Err ℕ × Journal :=
  match adv.fault t.past with
  | some e => (.error e, t.saw (.execute st) (.error e))
  | none =>
    match st.exec t.working with
    | .ok (T, n) => (.ok n, Journal.saw { t with working := T } (.execute st) (.ok n))
    | .error e => (.error e, t.saw (.execute st) (.error e))

def query (q : Query) (t : Journal) : Except Err q.Result × Journal :=
  match adv.fault t.past with
  | some e => (.error e, t.saw (.query q) (.error e))
  | none => (.ok (q.run t.working), t.saw (.query q) (.ok (q.run t.working)))

def commit (t : Journal) : Except Err Unit × Journal :=
  match adv.fault t.past with
  | some e => (.error e, t.undone.saw .commit (.error e))
  | none => (.ok (), Journal.saw { t with committed := t.working } .commit (.ok ()))

def react : (e : Ev) → Journal → Resp e × Journal
  | .query q, t => adv.query q t
  | .flush sts, t => adv.flush sts t
  | .execute st, t => adv.execute st t
  | .commit, t => adv.commit t
  | .rollback, t => ((), t.undone.saw .rollback ())
  | .randbelow n, t =>
    (adv.answer (.randbelow n) t.past % n,
      t.saw (.randbelow n) (adv.answer (.randbelow n) t.past % n))
  | e, t => (adv.answer e t.past, t.saw e (adv.answer e t.past))

end Adversary

/-! ## Two rows -/

/-- The row of an order and that of a reseller. -/
abbrev Rows₂ := Option Order × Option Reseller

def rowsOf (orderId resellerId : ℕ) (T : Tables) : Rows₂ :=
  (Rows.get Order.id T.orders orderId, Rows.get Reseller.id T.resellers resellerId)

section Exec

variable {T T' : Tables} {od o : Order} {rd r : Reseller} {as : List AuditLog}

theorem Order.id_update (old new row : Order) : (old.update new row).id = row.id := rfl

theorem Reseller.id_update (old new row : Reseller) : (old.update new row).id = row.id := rfl

theorem Order.update_self (o : Order) : o.update o o = o := by simp [Order.update]

theorem Reseller.update_self (r : Reseller) : r.update r r = r := by simp [Reseller.update]

theorem execAll_audits (as : List AuditLog) :
    Stmt.execAll T (as.map .insertAudit) = .ok { T with audits := T.audits ++ as } := by
  induction as generalizing T with
  | nil => rw [List.append_nil]; rfl
  | cons a as ih =>
    rw [List.map_cons, Stmt.execAll]
    refine (ih (T := { T with audits := T.audits ++ [a] })).trans ?_
    rw [List.append_assoc]
    rfl

theorem execAll_order (h : Rows.get Order.id T.orders od.id = some od) (ho : od.update o od = o) :
    ∃ orders, Stmt.execAll T (Slot.order.stmts ⟨some od, o⟩) = .ok { T with orders := orders } ∧
      Rows.get Order.id orders od.id = some o := by
  by_cases he : od = o
  · refine ⟨T.orders, ?_, by rw [h, he]⟩
    rw [show Slot.order.stmts ⟨some od, o⟩ = [] from if_pos he]
    rfl
  · refine ⟨Rows.set Order.id T.orders od.id (od.update o), ?_, ?_⟩
    · rw [show Slot.order.stmts ⟨some od, o⟩ = [.updateOrder od o] from if_neg he, Stmt.execAll,
        Stmt.exec, if_pos (Rows.any_of_get h)]
      rfl
    · rw [Rows.get_set h (Order.id_update _ _ _), ho]

/-- The username may be new if no other reseller has it. -/
theorem execAll_reseller (h : Rows.get Reseller.id T.resellers rd.id = some rd)
    (hr : rd.update r rd = r)
    (hname : rd.rebeccaAdminUsername = r.rebeccaAdminUsername ∨
      usernameTaken T.resellers rd.id r.rebeccaAdminUsername = false) :
    ∃ resellers, Stmt.execAll T (Slot.reseller.stmts ⟨some rd, r⟩) =
        .ok { T with resellers := resellers } ∧
      Rows.get Reseller.id resellers rd.id = some r := by
  by_cases he : rd = r
  · refine ⟨T.resellers, ?_, by rw [h, he]⟩
    rw [show Slot.reseller.stmts ⟨some rd, r⟩ = [] from if_pos he]
    rfl
  · refine ⟨Rows.set Reseller.id T.resellers rd.id (rd.update r), ?_, ?_⟩
    · have hfree : ¬(rd.rebeccaAdminUsername ≠ r.rebeccaAdminUsername ∧
          usernameTaken T.resellers rd.id r.rebeccaAdminUsername = true) := by
        rintro ⟨hne, htaken⟩
        obtain hsame | hfree := hname
        · exact hne hsame
        · rw [hfree] at htaken
          cases htaken
      rw [show Slot.reseller.stmts ⟨some rd, r⟩ = [.updateReseller rd r] from if_neg he,
        Stmt.execAll, Stmt.exec, if_neg hfree, if_pos (Rows.any_of_get h)]
      rfl
    · rw [Rows.get_set h (Reseller.id_update _ _ _), hr]

/-- Where it succeeds, the update of a reseller leaves what it sets. -/
theorem execAll_reseller_inv (h : Rows.get Reseller.id T.resellers rd.id = some rd)
    (hr : rd.update r rd = r) (hT : Stmt.execAll T (Slot.reseller.stmts ⟨some rd, r⟩) = .ok T') :
    T'.orders = T.orders ∧ Rows.get Reseller.id T'.resellers rd.id = some r := by
  by_cases he : rd = r
  · rw [show Slot.reseller.stmts ⟨some rd, r⟩ = [] from if_pos he] at hT
    cases hT
    exact ⟨rfl, by rw [h, he]⟩
  · rw [show Slot.reseller.stmts ⟨some rd, r⟩ = [.updateReseller rd r] from if_neg he,
      Stmt.execAll, Stmt.exec] at hT
    split_ifs at hT with htaken
    · cases hT
    · cases hT
      exact ⟨rfl, by rw [Rows.get_set h (Reseller.id_update _ _ _), hr]⟩
    · cases hT

end Exec

/-! ## The objects and their rows -/

def Ev.isStatement : Ev → Bool
  | .query _ | .flush _ | .execute _ | .commit | .rollback => true
  | _ => false

/-- Facts about the past that a statement of the database leaves alone. -/
def Enduring (F : Tables → Past → Prop) : Prop :=
  ∀ T T' h (x : Reply Ev Resp), x.1.isStatement = true → F T h → F T' (x :: h)

/-- The session holds an order, loaded as `od` and now `o`, and its reseller, loaded as `rd` and now
`r`, as the tables have them; `B` is what is committed of the two rows. -/
structure Held (B : Rows₂) (od o : Order) (rd r : Reseller) (p : Product)
    (F : Tables → Past → Prop) (s : Session) (t : Journal) : Prop where
  sound : s.broken = false
  order : s.order = some ⟨some od, o⟩
  reseller : s.reseller = some ⟨some rd, r⟩
  product : ∃ db, s.product = some ⟨db, p⟩
  pending : ∃ as : List AuditLog, s.pending = as.map Stmt.insertAudit
  payment : s.stmtsOf .payment = []
  trial : s.stmtsOf .trial = []
  user : s.stmtsOf .user = []
  stored : rowsOf od.id rd.id t.working = (some od, some rd)
  orderColumns : od.update o od = o
  resellerColumns : rd.update r rd = r
  saved : rowsOf od.id rd.id t.committed = B
  fact : F t.working t.past

/-- The transaction has failed, and with it all that was not committed. -/
structure Lost₂ (B : Rows₂) (orderId resellerId : ℕ) (F : Tables → Past → Prop) (s : Session)
    (t : Journal) : Prop where
  broken : s.broken = true
  order : s.order = none
  saved : rowsOf orderId resellerId t.committed = B
  fact : F t.working t.past

section Held

open Act (Holds)

variable {adv : Adversary} {B : Rows₂} {od o : Order} {rd r : Reseller} {p : Product}
  {F : Tables → Past → Prop} {s : Session} {t : Journal} {T : Tables} {α : Type}
  {Q : α → Session → Journal → Prop} {X : Err → Session → Journal → Prop}

/-- A triple about runs against the adversary. -/
abbrev Against (adv : Adversary) (P : Session → Journal → Prop) (m : Bot α)
    (Q : α → Session → Journal → Prop) (X : Err → Session → Journal → Prop) : Prop :=
  Holds (Spec.exact adv.react) P m Q X

namespace Held

theorem ids (h : Held B od o rd r p F s t) : o.id = od.id ∧ r.id = rd.id :=
  ⟨(congrArg Order.id h.orderColumns).symm, (congrArg Reseller.id h.resellerColumns).symm⟩

theorem unflushed (h : Held B od o rd r p F s t) : ∃ as : List AuditLog, s.unflushed =
    as.map .insertAudit ++ (Slot.order.stmts ⟨some od, o⟩ ++ Slot.reseller.stmts ⟨some rd, r⟩) := by
  obtain ⟨as, has⟩ := h.pending
  have ho : s.stmtsOf .order = Slot.order.stmts ⟨some od, o⟩ := by
    simp [Session.stmtsOf, show Slot.order.get s = _ from h.order]
  have hr : s.stmtsOf .reseller = Slot.reseller.stmts ⟨some rd, r⟩ := by
    simp [Session.stmtsOf, show Slot.reseller.get s = _ from h.reseller]
  refine ⟨as, ?_⟩
  rw [Session.unflushed, has, ho, hr, h.payment, h.trial, h.user]
  simp only [List.append_nil, List.append_assoc]

/-- What a flush writes, where it succeeds. -/
theorem rows_of_execAll (h : Held B od o rd r p F s t)
    (hT : Stmt.execAll t.working s.unflushed = .ok T) :
    rowsOf od.id rd.id T = (some o, some r) := by
  obtain ⟨as, hu⟩ := h.unflushed
  obtain ⟨horder, hreseller⟩ := Prod.mk.inj h.stored
  rw [hu, Stmt.execAll_append (execAll_audits as)] at hT
  obtain ⟨orders, hexec, hget⟩ :=
    execAll_order (T := { t.working with audits := t.working.audits ++ as }) horder h.orderColumns
  rw [Stmt.execAll_append hexec] at hT
  obtain ⟨horders, hr⟩ :=
    execAll_reseller_inv (T := { t.working with audits := t.working.audits ++ as, orders := orders })
      hreseller h.resellerColumns hT
  rw [rowsOf, horders, hr]
  exact Prod.ext hget rfl

/-- A flush succeeds unless the username that it sets is taken. -/
theorem flushes (h : Held B od o rd r p F s t)
    (hname : rd.rebeccaAdminUsername = r.rebeccaAdminUsername ∨
      usernameTaken t.working.resellers rd.id r.rebeccaAdminUsername = false) :
    ∃ T, Stmt.execAll t.working s.unflushed = .ok T := by
  obtain ⟨as, hu⟩ := h.unflushed
  obtain ⟨horder, hreseller⟩ := Prod.mk.inj h.stored
  obtain ⟨orders, hexec, -⟩ :=
    execAll_order (T := { t.working with audits := t.working.audits ++ as }) horder h.orderColumns
  obtain ⟨resellers, hexec', -⟩ :=
    execAll_reseller (T := { t.working with audits := t.working.audits ++ as, orders := orders })
      hreseller h.resellerColumns hname
  rw [hu, Stmt.execAll_append (execAll_audits as), Stmt.execAll_append hexec]
  exact ⟨_, hexec'⟩

/-- After a flush of the two objects. -/
theorem flushed (h : Held B od o rd r p F s t) {K : Tables → Past → Prop} {t' : Journal}
    (hB : rowsOf od.id rd.id t'.committed = B)
    (hT : rowsOf od.id rd.id t'.working = (some o, some r)) (hF : K t'.working t'.past) :
    Held B o o r r p K s.flushed t' := by
  obtain ⟨hpayment, htrial, huser⟩ := (stmtsOf_flushed s).2.2
  refine ⟨h.sound, ?_, ?_, h.product, ⟨[], rfl⟩, hpayment, htrial, huser, ?_, o.update_self,
    r.update_self, ?_, hF⟩
  · simp [Session.flushed, h.order, Session.clean]
  · simp [Session.flushed, h.reseller, Session.clean]
  · rwa [h.ids.1, h.ids.2]
  · rwa [h.ids.1, h.ids.2]

/-- Nothing to flush leaves the rows as they are. -/
theorem rows_of_nil (h : Held B od o rd r p F s t) (hu : s.unflushed = []) :
    rowsOf od.id rd.id t.working = (some o, some r) :=
  h.rows_of_execAll (by rw [hu]; rfl)

end Held

/-! ## Rules -/

/-- A flush: it may have nothing to do, succeed, or end the transaction. -/
theorem against_flush {P Q : Session → Journal → Prop} (hsound : ∀ s t, P s t → s.broken = false)
    (hnil : ∀ s t, P s t → s.unflushed = [] → Q s.flushed t)
    (hok : ∀ s t T, P s t → Stmt.execAll t.working s.unflushed = .ok T →
      Q s.flushed (Journal.saw { t with working := T } (.flush s.unflushed) (.ok ())))
    (herr : ∀ s t e, P s t → X e (s.expire true) (t.undone.saw (.flush s.unflushed) (.error e))) :
    Against adv P flush (fun _ => Q) X := by
  intro s t hP
  show Ok _ (flush s) _ t
  unfold flush
  simp only [Act.state, bind, Act.bind, Prog.bind]
  rw [hsound s t hP, if_neg (by decide)]
  cases hu : s.unflushed with
  | nil => exact hnil s t hP hu
  | cons st sts =>
    refine ⟨trivial, fun res t' hres => ?_⟩
    have hok' := hok s t
    have herr' := herr s t
    rw [hu] at hok' herr'
    have hflush : adv.flush (st :: sts) t = (res, t') := hres
    unfold Adversary.flush at hflush
    cases hf : adv.fault t.past with
    | some e =>
      rw [hf] at hflush
      cases hflush
      exact herr' e hP
    | none =>
      rw [hf] at hflush
      cases hx : Stmt.execAll t.working (st :: sts) with
      | error e =>
        rw [hx] at hflush
        cases hflush
        exact herr' e hP
      | ok T =>
        rw [hx] at hflush
        cases hflush
        exact hok' T hP hx

/-- A request that is none of the database. -/
theorem against_ask {e : Ev} {K : Resp e → Tables → Past → Prop}
    (hreact : ∀ t : Journal, ∃ res, adv.react e t = (res, t.saw e res))
    (hF : ∀ T h res, F T h → K res T (⟨e, res⟩ :: h)) :
    Against adv (Held B od o rd r p F) (ask e) (fun res => Held B od o rd r p (K res)) X := by
  refine Holds.request (fun _ _ _ => trivial) fun s t res t' hP hres => ?_
  obtain ⟨res', hres'⟩ := hreact t
  cases hres.symm.trans hres'
  exact { hP with fact := hF _ _ _ hP.fact }

theorem against_call {why : Cause} {c : Call} {K : c.Result → Tables → Past → Prop}
    {G : Err → Tables → Past → Prop}
    (hok : ∀ T h a, F T h → K a T (⟨.call why c, .ok a⟩ :: h))
    (herr : ∀ T h e, F T h → G e T (⟨.call why c, .error e⟩ :: h)) :
    Against adv (Held B od o rd r p F) (call why c) (fun a => Held B od o rd r p (K a))
      fun e => Held B od o rd r p (G e) := by
  refine Holds.bind (Q := fun res => Held B od o rd r p fun T h =>
    (∀ a, res = .ok a → K a T h) ∧ ∀ e, res = .error e → G e T h)
    (against_ask (fun t => ⟨_, rfl⟩) ?_) fun res => ?_
  · rintro T h (e | a) hF
    · exact ⟨by rintro _ ⟨⟩, by rintro _ ⟨⟩; exact herr T h e hF⟩
    · exact ⟨by rintro _ ⟨⟩; exact hok T h a hF, by rintro _ ⟨⟩⟩
  · exact Holds.outcome (fun a ha s t hP => { hP with fact := hP.fact.1 a ha })
      fun e he s t hP => { hP with fact := hP.fact.2 e he }

theorem against_flushed (hF : Enduring F) :
    Against adv (Held B od o rd r p F) flush (fun _ => Held B o o r r p F)
      fun _ => Lost₂ B od.id rd.id F := by
  refine against_flush ?_ ?_ ?_ ?_
  · exact fun s t h => h.sound
  · exact fun s t h hu => h.flushed h.saved (h.rows_of_nil hu) h.fact
  · exact fun s t T h hT =>
      h.flushed h.saved (h.rows_of_execAll hT) (hF _ _ _ ⟨.flush s.unflushed, .ok ()⟩ rfl h.fact)
  · exact fun s t e h => ⟨rfl, rfl, h.saved, hF _ _ _ ⟨.flush s.unflushed, .error e⟩ rfl h.fact⟩

theorem against_commit (hF : Enduring F) :
    Against adv (Held B od o rd r p F) commit (fun _ => Held (some o, some r) o o r r p F)
      fun _ => Lost₂ B od.id rd.id F := by
  intro s t h
  obtain ⟨ho, hr⟩ := h.ids
  refine (Holds.bind (against_flushed hF) fun _ => ?_) s t h
  refine Holds.bind (Q := fun res s t =>
    (res = .ok () → Held (some o, some r) o o r r p F s t) ∧
      ∀ e, res = .error e → rowsOf o.id r.id t.committed = B ∧ F t.working t.past) ?_ fun res => ?_
  · refine Holds.request (fun _ _ _ => trivial) fun s t res t' hP hres => ?_
    have hcommit : adv.commit t = (res, t') := hres
    unfold Adversary.commit at hcommit
    cases hf : adv.fault t.past with
    | some e =>
      rw [hf] at hcommit
      cases hcommit
      refine ⟨by rintro ⟨⟩, fun e' _ => ⟨hP.saved, hF _ _ _ ⟨.commit, .error e⟩ rfl hP.fact⟩⟩
    | none =>
      rw [hf] at hcommit
      cases hcommit
      refine ⟨fun _ => ?_, by rintro _ ⟨⟩⟩
      exact { hP with
        saved := hP.stored
        fact := hF _ _ _ ⟨.commit, .ok ()⟩ rfl hP.fact }
  · cases res with
    | ok _ => exact Holds.pure fun s t hP => hP.1 rfl
    | error e =>
      refine Holds.bind (Q := fun _ => Lost₂ B od.id rd.id F) (Holds.modify ?_) fun _ =>
        Holds.raise fun _ _ hP => hP
      intro s t hP
      obtain ⟨hsaved, hfact⟩ := hP.2 e rfl
      rw [ho, hr] at hsaved
      exact ⟨rfl, rfl, hsaved, hfact⟩

/-- After a query that fails the objects are as a flush has left them, if it has not failed. -/
theorem against_query {q : Query} {K : q.Result → Tables → Past → Prop} (hF : Enduring F)
    (hq : ∀ T h, F T h → K (q.run T) T (⟨.query q, .ok (q.run T)⟩ :: h)) :
    Against adv (Held B od o rd r p F) (query q) (fun a => Held B o o r r p (K a))
      fun _ s t => Lost₂ B od.id rd.id F s t ∨ Held B o o r r p F s t := by
  refine Holds.bind (Q := fun _ => Held B o o r r p F)
    ((against_flushed hF).conseq (fun _ _ h => h) (fun _ _ _ h => h) fun _ _ _ h => .inl h)
    fun _ => ?_
  refine Holds.bind (Q := fun res => Held B o o r r p fun T h =>
    (∀ a, res = .ok a → K a T h) ∧ ∀ e, res = .error e → F T h) ?_ fun res => ?_
  · refine Holds.request (fun _ _ _ => trivial) fun s t res t' hP hres => ?_
    have hquery : adv.query q t = (res, t') := hres
    unfold Adversary.query at hquery
    cases hf : adv.fault t.past with
    | some e =>
      rw [hf] at hquery
      cases hquery
      exact { hP with
        fact := ⟨by rintro _ ⟨⟩, fun _ _ => hF _ _ _ ⟨.query q, .error e⟩ rfl hP.fact⟩ }
    | none =>
      rw [hf] at hquery
      cases hquery
      exact { hP with
        fact := ⟨by rintro _ ⟨⟩; exact hq _ _ hP.fact, by rintro _ ⟨⟩⟩ }
  · exact Holds.outcome (fun a ha s t hP => { hP with fact := hP.fact.1 a ha })
      fun e he s t hP => .inr { hP with fact := hP.fact.2 e he }

/-! ## Objects -/

theorem against_order {f : Order → Bot α}
    (hf : Against adv (Held B od o rd r p F) (f o) Q X) :
    Against adv (Held B od o rd r p F) (Slot.order.read >>= f) Q X := by
  refine Slot.holds_read (fun s t h => ⟨_, h.order⟩) fun ob => ?_
  rintro s t ⟨h, hob⟩
  obtain rfl : ob = ⟨some od, o⟩ := Option.some.inj (hob.symm.trans h.order)
  exact hf s t h

theorem against_reseller {f : Reseller → Bot α}
    (hf : Against adv (Held B od o rd r p F) (f r) Q X) :
    Against adv (Held B od o rd r p F) (Slot.reseller.read >>= f) Q X := by
  refine Slot.holds_read (fun s t h => ⟨_, h.reseller⟩) fun ob => ?_
  rintro s t ⟨h, hob⟩
  obtain rfl : ob = ⟨some rd, r⟩ := Option.some.inj (hob.symm.trans h.reseller)
  exact hf s t h

theorem against_product {f : Product → Bot α}
    (hf : Against adv (Held B od o rd r p F) (f p) Q X) :
    Against adv (Held B od o rd r p F) (Slot.product.read >>= f) Q X := by
  refine Slot.holds_read (fun s t h => h.product.elim fun _ hp => ⟨_, hp⟩) fun ob => ?_
  rintro s t ⟨h, hob⟩
  obtain ⟨db, hp⟩ := h.product
  obtain rfl : ob = ⟨db, p⟩ := Option.some.inj (hob.symm.trans hp)
  exact hf s t h

theorem against_setOrder {f : Order → Order} {g : Unit → Bot α} (hf : od.update (f o) od = f o)
    (hg : Against adv (Held B od (f o) rd r p F) (g ()) Q X) :
    Against adv (Held B od o rd r p F) (Slot.order.assign f >>= g) Q X := by
  refine Holds.bind (Slot.holds_assign fun s t h => ?_) fun _ => hg
  exact { h with
    order := by simp [Slot.order, h.order]
    orderColumns := hf }

theorem against_setReseller {f : Reseller → Reseller} {g : Unit → Bot α}
    (hf : rd.update (f r) rd = f r) (hg : Against adv (Held B od o rd (f r) p F) (g ()) Q X) :
    Against adv (Held B od o rd r p F) (Slot.reseller.assign f >>= g) Q X := by
  refine Holds.bind (Slot.holds_assign fun s t h => ?_) fun _ => hg
  exact { h with
    reseller := by simp [Slot.reseller, h.reseller]
    resellerColumns := hf }

/-- An audit row waits for the next flush. -/
theorem against_audit (action result : String) (orderId : Option ℕ) :
    Against adv (Held B od o rd r p F) (audit action result orderId)
      (fun _ => Held B od o rd r p F) X := by
  refine Holds.modify fun s t h => ?_
  obtain ⟨as, has⟩ := h.pending
  exact { h with
    pending := ⟨as ++ [⟨action, result, orderId⟩], by rw [List.map_append, ← has]; rfl⟩ }

end Held

end ResellerBot
