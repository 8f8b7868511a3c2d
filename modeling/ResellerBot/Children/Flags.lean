import ResellerBot.Children.Panel
import ResellerBot.Database.Traced
import ResellerBot.Handlers.Owner

/-!
# ResellerBot.Children.Flags — the flags of children, and code that leaves them alone

A user row is *flagged* if the end of its parent has disabled the user.  Only `_sync_resellers` sets
and clears flags.  What is watched of the tables while a program runs is a value that one UPDATE
alone may change, the flagging of the users of one reseller.
-/

open Interact

namespace ResellerBot

/-- The row of a user of the reseller is flagged. -/
def Flagged (T : Tables) (resellerId : ℕ) (username : String) : Prop :=
  ∃ u ∈ T.users, u.resellerId = resellerId ∧ u.username = username ∧
    u.disabledByParentReseller = true

/-! ## The flagging -/

/-- The UPDATE that flags the users of the reseller. -/
def Stmt.flags (resellerId : ℕ) : Stmt → Bool
  | .markDisabledByParent id => id = resellerId
  | _ => false

/-- Whether the flagging stands in the open transaction, and whether it is committed. -/
def flagging (resellerId : ℕ) : Past → Bool × Bool
  | [] => (false, false)
  | ⟨.execute st, .ok _⟩ :: h =>
    if st.flags resellerId then (true, (flagging resellerId h).2) else flagging resellerId h
  | ⟨.commit, .ok _⟩ :: h => ((flagging resellerId h).1, (flagging resellerId h).1)
  | ⟨.rollback, _⟩ :: h => ((flagging resellerId h).2, (flagging resellerId h).2)
  | _ :: h => flagging resellerId h

/-! ## Watches -/

/-- What is watched: the value that a program finds in the tables, the one that the flagging of the
reseller makes of it, the statements that leave both alone, and a property of Rebecca that
outlasts time. -/
structure Watch (β : Type) where
  reseller : ℕ
  obs : Tables → β
  val : Bool → β
  spares : Stmt → Prop
  around : Panel → ℕ → Prop
  spared : ∀ {st b T T' n}, spares st → obs T = val b → st.exec T = .ok (T', n) → obs T' = val b
  later : ∀ {p n}, around p n → around p (n + 1)

/-- A statement about the table `reseller_users`. -/
def Stmt.aboutUsers : Stmt → Bool
  | .updateUser _ _ | .insertUser _ | .markDisabledByParent _ => true
  | _ => false

/-- A statement about the table `resellers`. -/
def Stmt.aboutResellers : Stmt → Bool
  | .updateReseller _ _ | .insertReseller _ => true
  | _ => false

section Statements

variable {T T' : Tables} {st : Stmt} {n : ℕ}

theorem Stmt.users_exec (h : st.aboutUsers = false) (hx : st.exec T = .ok (T', n)) :
    T'.users = T.users := by
  cases st with
  | updateUser | insertUser | markDisabledByParent => cases h
  | insertAudit | claimOrder | deleteExpiredLock | deleteLock =>
    cases hx
    rfl
  | _ =>
    rw [Stmt.exec] at hx
    split_ifs at hx
    all_goals cases hx; rfl

theorem Stmt.resellers_exec (h : st.aboutResellers = false) (hx : st.exec T = .ok (T', n)) :
    T'.resellers = T.resellers := by
  cases st with
  | updateReseller | insertReseller => cases h
  | insertAudit | claimOrder | deleteExpiredLock | deleteLock | markDisabledByParent =>
    cases hx
    rfl
  | _ =>
    rw [Stmt.exec] at hx
    split_ifs at hx
    all_goals cases hx; rfl

/-- A change of the rows that keeps what a flag depends on. -/
theorem flagged_map {i : ℕ} {g : ResellerUserCache → ResellerUserCache}
    (hT : T'.users = T.users.map g)
    (hg : ∀ u ∈ T.users, (g u).resellerId = u.resellerId ∧ (g u).username = u.username ∧
      (u.resellerId = i → (g u).disabledByParentReseller = u.disabledByParentReseller)) :
    Flagged T' i = Flagged T i := by
  funext username
  refine propext ⟨?_, ?_⟩
  · rintro ⟨u, hu, h⟩
    rw [hT] at hu
    obtain ⟨v, hv, rfl⟩ := List.mem_map.mp hu
    obtain ⟨hid, hname, hflag⟩ := hg v hv
    rw [hid, hname] at h
    exact ⟨v, hv, h.1, h.2.1, hflag h.1 ▸ h.2.2⟩
  · rintro ⟨u, hu, h⟩
    obtain ⟨hid, hname, hflag⟩ := hg u hu
    refine ⟨g u, hT ▸ List.mem_map_of_mem hu, hid.trans h.1, hname.trans h.2.1, ?_⟩
    rw [hflag h.1]
    exact h.2.2

/-- A new row without a flag. -/
theorem flagged_append {i : ℕ} {v : ResellerUserCache} (hT : T'.users = T.users ++ [v])
    (hv : v.disabledByParentReseller = false) : Flagged T' i = Flagged T i := by
  funext username
  refine propext ⟨?_, ?_⟩
  · rintro ⟨u, hu, h⟩
    rw [hT, List.mem_append, List.mem_singleton] at hu
    rcases hu with hu | rfl
    · exact ⟨u, hu, h⟩
    · rw [hv] at h
      exact absurd h.2.2 (by decide)
  · rintro ⟨u, hu, h⟩
    exact ⟨u, hT ▸ List.mem_append_left _ hu, h⟩

theorem flagged_of_users {i : ℕ} (h : T'.users = T.users) : Flagged T' i = Flagged T i := by
  unfold Flagged
  rw [h]

/-- The flags of other resellers. -/
theorem flagged_mark {i j : ℕ} (hj : j ≠ i)
    (hx : (Stmt.markDisabledByParent j).exec T = .ok (T', n)) : Flagged T' i = Flagged T i := by
  cases hx
  refine flagged_map rfl fun u _ => ?_
  split_ifs with hu
  · exact ⟨rfl, rfl, fun h => absurd (hu.1.symm.trans h) hj⟩
  · exact ⟨rfl, rfl, fun _ => rfl⟩

theorem flagged_updateUser {i : ℕ} {old new : ResellerUserCache}
    (hflag : ∀ u ∈ T.users, u.id = old.id → u.resellerId = i →
      new.disabledByParentReseller = old.disabledByParentReseller)
    (hx : (Stmt.updateUser old new).exec T = .ok (T', n)) : Flagged T' i = Flagged T i := by
  rw [Stmt.exec] at hx
  split_ifs at hx
  cases hx
  refine flagged_map rfl fun u hu => ?_
  split_ifs with hid
  · refine ⟨rfl, rfl, fun h => ?_⟩
    show col old.disabledByParentReseller new.disabledByParentReseller
      u.disabledByParentReseller = _
    rw [hflag u hu hid h, col_same]
  · exact ⟨rfl, rfl, fun _ => rfl⟩

end Statements

/-- Only the users matter to the watch. -/
class Watch.OfUsers {β : Type} (W : Watch β) : Prop where
  spares {st} : st.aboutUsers = false → W.spares st

/-- Only the users and the resellers matter. -/
class Watch.OfRows {β : Type} (W : Watch β) : Prop where
  spares {st} : st.aboutUsers = false → st.aboutResellers = false → W.spares st

instance {β : Type} (W : Watch β) [h : W.OfUsers] : W.OfRows := ⟨fun hu _ => h.spares hu⟩

/-- The flags of the users of one reseller. -/
def Watch.flags (resellerId : ℕ) (val : Bool → String → Prop) : Watch (String → Prop) where
  reseller := resellerId
  obs T := Flagged T resellerId
  val := val
  spares
    | .updateUser old new => new.disabledByParentReseller = old.disabledByParentReseller
    | .insertUser row => row.disabledByParentReseller = false
    | .markDisabledByParent id => id ≠ resellerId
    | _ => True
  around _ _ := True
  spared {st b T T' n} h hT hx := by
    rw [← hT]
    cases st with
    | updateUser old new => exact flagged_updateUser (fun _ _ _ _ => h) hx
    | insertUser row =>
      rw [Stmt.exec] at hx
      split_ifs at hx
      cases hx
      exact flagged_append rfl h
    | markDisabledByParent id => exact flagged_mark h hx
    | _ => exact flagged_of_users (Stmt.users_exec rfl hx)
  later _ := trivial

instance {i : ℕ} {val : Bool → String → Prop} : (Watch.flags i val).OfUsers where
  spares {st} h := by
    cases st with
    | updateUser | insertUser | markDisabledByParent => cases h
    | _ => trivial

/-! ## Sessions -/

/-- A variable of the code, and what a flush writes of the others. -/
class Slot.Placed {α : Type} (sl : Slot α) : Prop where
  get : ∀ s ob, sl.get s = some ob → ∀ st ∈ sl.stmts ob, st ∈ s.unflushed
  put : ∀ s ob, ∀ st ∈ (sl.put s ob).unflushed, st ∈ s.unflushed ∨
    ∃ o, ob = some o ∧ st ∈ sl.stmts o
  clean : ∀ row, sl.stmts ⟨some row, row⟩ = []

theorem mem_unflushed {s : Session} {st : Stmt} : st ∈ s.unflushed ↔
    st ∈ s.pending ∨ (∃ ob, s.order = some ob ∧ st ∈ Slot.order.stmts ob) ∨
      (∃ ob, s.reseller = some ob ∧ st ∈ Slot.reseller.stmts ob) ∨
      (∃ ob, s.payment = some ob ∧ st ∈ Slot.payment.stmts ob) ∨
      (∃ ob, s.trial = some ob ∧ st ∈ Slot.trial.stmts ob) ∨
      ∃ ob, s.user = some ob ∧ st ∈ Slot.user.stmts ob := by
  have hslot : ∀ {α : Type} (sl : Slot α), st ∈ s.stmtsOf sl ↔
      ∃ ob, sl.get s = some ob ∧ st ∈ sl.stmts ob := by
    intro α sl
    unfold Session.stmtsOf
    cases sl.get s <;> simp
  simp only [Session.unflushed, List.mem_append, hslot, or_assoc]
  rfl

instance : Slot.order.Placed where
  get s ob h st hst := mem_unflushed.mpr (.inr (.inl ⟨ob, h, hst⟩))
  put s ob st hst := by
    obtain h | h | h | h | h | h := mem_unflushed.mp hst
    · exact .inl (mem_unflushed.mpr (.inl h))
    · exact .inr h
    · exact .inl (mem_unflushed.mpr (.inr (.inr (.inl h))))
    · exact .inl (mem_unflushed.mpr (.inr (.inr (.inr (.inl h)))))
    · exact .inl (mem_unflushed.mpr (.inr (.inr (.inr (.inr (.inl h))))))
    · exact .inl (mem_unflushed.mpr (.inr (.inr (.inr (.inr (.inr h))))))
  clean _ := if_pos rfl

instance : Slot.reseller.Placed where
  get s ob h st hst := mem_unflushed.mpr (.inr (.inr (.inl ⟨ob, h, hst⟩)))
  put s ob st hst := by
    obtain h | h | h | h | h | h := mem_unflushed.mp hst
    · exact .inl (mem_unflushed.mpr (.inl h))
    · exact .inl (mem_unflushed.mpr (.inr (.inl h)))
    · exact .inr h
    · exact .inl (mem_unflushed.mpr (.inr (.inr (.inr (.inl h)))))
    · exact .inl (mem_unflushed.mpr (.inr (.inr (.inr (.inr (.inl h))))))
    · exact .inl (mem_unflushed.mpr (.inr (.inr (.inr (.inr (.inr h))))))
  clean _ := if_pos rfl

instance : Slot.payment.Placed where
  get s ob h st hst := mem_unflushed.mpr (.inr (.inr (.inr (.inl ⟨ob, h, hst⟩))))
  put s ob st hst := by
    obtain h | h | h | h | h | h := mem_unflushed.mp hst
    · exact .inl (mem_unflushed.mpr (.inl h))
    · exact .inl (mem_unflushed.mpr (.inr (.inl h)))
    · exact .inl (mem_unflushed.mpr (.inr (.inr (.inl h))))
    · exact .inr h
    · exact .inl (mem_unflushed.mpr (.inr (.inr (.inr (.inr (.inl h))))))
    · exact .inl (mem_unflushed.mpr (.inr (.inr (.inr (.inr (.inr h))))))
  clean _ := if_pos rfl

instance : Slot.trial.Placed where
  get s ob h st hst := mem_unflushed.mpr (.inr (.inr (.inr (.inr (.inl ⟨ob, h, hst⟩)))))
  put s ob st hst := by
    obtain h | h | h | h | h | h := mem_unflushed.mp hst
    · exact .inl (mem_unflushed.mpr (.inl h))
    · exact .inl (mem_unflushed.mpr (.inr (.inl h)))
    · exact .inl (mem_unflushed.mpr (.inr (.inr (.inl h))))
    · exact .inl (mem_unflushed.mpr (.inr (.inr (.inr (.inl h)))))
    · exact .inr h
    · exact .inl (mem_unflushed.mpr (.inr (.inr (.inr (.inr (.inr h))))))
  clean _ := if_pos rfl

instance : Slot.user.Placed where
  get s ob h st hst := mem_unflushed.mpr (.inr (.inr (.inr (.inr (.inr (⟨ob, h, hst⟩))))))
  put s ob st hst := by
    obtain h | h | h | h | h | h := mem_unflushed.mp hst
    · exact .inl (mem_unflushed.mpr (.inl h))
    · exact .inl (mem_unflushed.mpr (.inr (.inl h)))
    · exact .inl (mem_unflushed.mpr (.inr (.inr (.inl h))))
    · exact .inl (mem_unflushed.mpr (.inr (.inr (.inr (.inl h)))))
    · exact .inl (mem_unflushed.mpr (.inr (.inr (.inr (.inr (.inl h))))))
    · exact .inr h
  clean _ := if_pos rfl

instance : Slot.product.Placed where
  get _ _ _ _ hst := nomatch hst
  put _ _ _ hst := .inl hst
  clean _ := rfl

namespace Watch

variable {β : Type} (W : Watch β)

/-- The tables hold the value that goes with the flagging so far, and the session has only
statements to flush that spare it. -/
structure Still (s : Session) (v : Txn × Past) : Prop where
  working : W.obs v.1.working = W.val (flagging W.reseller v.2).1
  committed : W.obs v.1.committed = W.val (flagging W.reseller v.2).2
  around : W.around v.1.panel v.1.ticks
  unflushed : ∀ st ∈ s.unflushed, W.spares st

/-- What is watched is all the program changes by the flagging, whatever it is answered. -/
def Kept {α : Type} (m : Bot α) : Prop :=
  ∀ ar : Around, Act.Holds (Spec.exact (logging ar.react)) W.Still m (fun _ => W.Still)
    fun _ => W.Still

variable {W} {s s' : Session} {v : Txn × Past}

theorem Still.withSession (h : W.Still s v) (hs : ∀ st ∈ s'.unflushed, W.spares st) :
    W.Still s' v :=
  { h with unflushed := hs }

theorem spares_expire (b : Bool) : ∀ st ∈ (s.expire b).unflushed, W.spares st := by
  rintro _ ⟨⟩

theorem spares_flushed : ∀ st ∈ s.flushed.unflushed, W.spares st := by
  rw [unflushed_flushed]
  rintro _ ⟨⟩

theorem Still.spares_pending (h : W.Still s v) {sts : List Stmt}
    (hsts : ∀ st ∈ sts, W.spares st) :
    ∀ st ∈ ({ s with pending := s.pending ++ sts } : Session).unflushed, W.spares st := by
  intro st hst
  rw [mem_unflushed] at hst
  obtain hp | hrest := hst
  · obtain hp | hst := List.mem_append.mp hp
    · exact h.unflushed st (mem_unflushed.mpr (.inl hp))
    · exact hsts st hst
  · exact h.unflushed st (mem_unflushed.mpr (.inr hrest))

/-- A request that is no part of the flagging. -/
theorem Still.answered (h : W.Still s v) {e : Ev} {r : Resp e} {t : Txn}
    (hf : flagging W.reseller (⟨e, r⟩ :: v.2) = flagging W.reseller v.2)
    (hw : W.obs t.working = W.val (flagging W.reseller v.2).1)
    (hc : t.committed = v.1.committed) (ha : W.around t.panel t.ticks) :
    W.Still s (t, ⟨e, r⟩ :: v.2) where
  working := hw.trans (congrArg (fun x : Bool × Bool => W.val x.1) hf.symm)
  committed := (congrArg W.obs hc).trans
    (h.committed.trans (congrArg (fun x : Bool × Bool => W.val x.2) hf.symm))
  around := ha
  unflushed := h.unflushed

theorem execAll_spared {sts : List Stmt} {b : Bool} {T T' : Tables}
    (hsts : ∀ st ∈ sts, W.spares st) (hT : W.obs T = W.val b)
    (hx : Stmt.execAll T sts = .ok T') : W.obs T' = W.val b := by
  induction sts generalizing T with
  | nil =>
    cases hx
    exact hT
  | cons st sts ih =>
    rw [List.forall_mem_cons] at hsts
    rw [Stmt.execAll] at hx
    cases hst : st.exec T with
    | error e =>
      rw [hst] at hx
      cases hx
    | ok r =>
      rw [hst] at hx
      exact ih hsts.2 (W.spared (n := r.2) hsts.1 hT hst) hx

/-! ## Programs -/

namespace Kept

open Act (Holds)

variable {α γ : Type} {m : Bot α} {f : α → Bot γ}

theorem pure (a : α) : W.Kept (Pure.pure a : Bot α) := fun _ => Holds.pure fun _ _ h => h

theorem raise (e : Err) : W.Kept (Act.raise e : Bot α) := fun _ => Holds.raise fun _ _ h => h

theorem outcome (r : Except Err α) : W.Kept (Act.outcome r : Bot α) :=
  fun _ => Holds.outcome (fun _ _ _ _ h => h) fun _ _ _ _ h => h

theorem bind (hm : W.Kept m) (hf : ∀ a, W.Kept (f a)) : W.Kept (m >>= f) :=
  fun ar => (hm ar).bind fun a => hf a ar

theorem attempt (hm : W.Kept m) : W.Kept (Act.attempt m : Bot (Except Err α)) :=
  fun ar => (hm ar).attempt.post fun r _ _ h => by
    cases r with
    | ok _ => exact h
    | error _ => exact h

theorem when {b : Bool} {m : Bot Unit} (hm : W.Kept m) : W.Kept (Act.when b m) :=
  fun ar => Holds.when (fun _ => hm ar) fun _ _ _ h => h

theorem ite {c : Prop} [Decidable c] {m' : Bot α} (hm : W.Kept m) (hm' : W.Kept m') :
    W.Kept (if c then m else m') := by
  by_cases h : c
  · rwa [if_pos h]
  · rwa [if_neg h]

theorem forEach {f : γ → Bot Unit} (hf : ∀ x, W.Kept (f x)) (xs : List γ) :
    W.Kept (Act.forEach f xs) :=
  fun ar => Holds.forEach (fun x => hf x ar) xs

theorem searchFor {f : Bot (Option α)} (hf : W.Kept f) (n : ℕ) : W.Kept (Act.searchFor f n) := by
  induction n with
  | zero => exact pure none
  | succ n ih =>
    refine hf.bind fun r => ?_
    cases r with
    | some a => exact pure (some a)
    | none => exact ih

/-- The session may be read. -/
theorem state {f : Session → Bot α} (hf : ∀ s, W.Kept (f s)) : W.Kept (Act.state >>= f) :=
  fun ar => Holds.bind (Q := fun _ => W.Still) (Holds.state fun _ _ h => h) fun s => hf s ar

theorem modify {g : Session → Session}
    (hg : ∀ s, (∀ st ∈ s.unflushed, W.spares st) → ∀ st ∈ (g s).unflushed, W.spares st) :
    W.Kept (Act.modify g : Bot Unit) :=
  fun _ => Holds.modify fun s _ h => h.withSession (hg s h.unflushed)

/-! ### Requests -/

/-- A request that the tables do not notice. -/
theorem ask {e : Ev} (he : ∀ (ar : Around) t, (ar.react e t).2.working = t.working ∧
      (ar.react e t).2.committed = t.committed ∧ (W.around t.panel t.ticks →
        W.around (ar.react e t).2.panel (ar.react e t).2.ticks))
    (hf : ∀ i r h, flagging i (⟨e, r⟩ :: h) = flagging i h) : W.Kept (ResellerBot.ask e) := by
  refine fun ar => Holds.request (fun _ _ _ => trivial) fun s v r v' h hr => ?_
  obtain ⟨hw, hc, ha⟩ := he ar v.1
  obtain ⟨rfl, rfl⟩ := Prod.mk.inj (show logging ar.react e v = (r, v') from hr)
  exact h.answered (hf _ _ _) ((congrArg W.obs hw).trans h.working) hc (ha h.around)

/-- A call that keeps what is watched of Rebecca. -/
theorem callWith (why : Cause) (c : Call)
    (hc : ∀ {p n}, W.around p n → W.around (p.perform c).2 n) : W.Kept (call why c) :=
  (ask (e := .call why c) (fun _ _ => ⟨rfl, rfl, hc⟩) fun _ _ _ => rfl).bind fun _ => outcome _

/-- A request that takes time. -/
theorem tick {e : Ev} (he : ∀ (ar : Around) t, (ar.react e t).2 = { t with ticks := t.ticks + 1 })
    (hf : ∀ i r h, flagging i (⟨e, r⟩ :: h) = flagging i h) : W.Kept (ResellerBot.ask e) := by
  refine ask (fun ar t => ?_) hf
  rw [he]
  exact ⟨rfl, rfl, W.later⟩

theorem now : W.Kept now := tick (fun _ _ => rfl) fun _ _ _ => rfl

theorem sendMessage (chat : ℤ) : W.Kept (sendMessage chat) :=
  (tick (e := .send chat) (fun _ _ => rfl) fun _ _ _ => rfl).bind fun _ => outcome _

theorem createTask : W.Kept (ResellerBot.ask .createTask) :=
  ask (fun _ _ => ⟨rfl, rfl, fun h => h⟩) fun _ _ _ => rfl

theorem lock (orderId : ℕ) : W.Kept (ResellerBot.ask (.lock orderId)) :=
  ask (fun _ _ => ⟨rfl, rfl, fun h => h⟩) fun _ _ _ => rfl

theorem unlock (orderId : ℕ) : W.Kept (ResellerBot.ask (.unlock orderId)) :=
  ask (fun _ _ => ⟨rfl, rfl, fun h => h⟩) fun _ _ _ => rfl

theorem flush : W.Kept flush := by
  intro ar
  unfold ResellerBot.flush
  refine Holds.bind (Q := fun s' s v => s' = s ∧ W.Still s v)
    (Holds.state fun _ _ h => ⟨rfl, h⟩) fun s' => ?_
  split_ifs
  · exact Holds.raise fun _ _ h => h.2
  · exact Holds.modify fun s _ h => h.2.withSession spares_flushed
  · refine Holds.bind (Q := fun _ => W.Still) ?_ fun r => ?_
    · refine Holds.request (fun _ _ _ => trivial) fun s v r v' h hr => ?_
      obtain ⟨rfl, h⟩ := h
      obtain ⟨rfl, rfl⟩ := Prod.mk.inj
        (show logging ar.react (.flush s'.unflushed) v = (r, v') from hr)
      have hreact : W.obs (ar.react (.flush s'.unflushed) v.1).2.working =
          W.val (flagging W.reseller v.2).1 ∧
          (ar.react (.flush s'.unflushed) v.1).2.committed = v.1.committed ∧
          W.around (ar.react (.flush s'.unflushed) v.1).2.panel
            (ar.react (.flush s'.unflushed) v.1).2.ticks := by
        rw [Around.react]
        cases hx : Stmt.execAll v.1.working s'.unflushed with
        | ok T => exact ⟨execAll_spared h.unflushed h.working hx, rfl, h.around⟩
        | error e => exact ⟨h.working, rfl, h.around⟩
      exact h.answered rfl hreact.1 hreact.2.1 hreact.2.2
    · cases r with
      | ok _ => exact modify (fun _ _ => spares_flushed) ar
      | error e => exact ((modify fun _ _ => spares_expire true).bind fun _ => raise e) ar

theorem query (q : Query) : W.Kept (query q) :=
  flush.bind fun _ => (ask (e := .query q) (fun _ _ => ⟨rfl, rfl, fun h => h⟩)
    fun _ _ _ => rfl).bind fun _ => outcome _

/-- What becomes of a statement that is executed at once. -/
theorem react_execute (ar : Around) (st : Stmt) (t : Txn) :
    (∃ T n, st.exec t.working = .ok (T, n) ∧
      ar.react (.execute st) t = (.ok n, { t with working := T })) ∨
    ∃ e, ar.react (.execute st) t = (.error e, t) := by
  rw [Around.react]
  cases hx : st.exec t.working with
  | ok r => exact .inl ⟨r.1, r.2, rfl, rfl⟩
  | error e => exact .inr ⟨e, rfl⟩

theorem execute {st : Stmt} (h : W.spares st) (hst : st.flags W.reseller = false) :
    W.Kept (execute st) := by
  refine flush.bind fun _ => bind (fun ar => ?_) fun _ => outcome _
  refine Holds.request (fun _ _ _ => trivial) fun s v r v' hv hr => ?_
  obtain ⟨rfl, rfl⟩ := Prod.mk.inj (show logging ar.react (.execute st) v = (r, v') from hr)
  obtain ⟨T, n, hx, hreact⟩ | ⟨e, hreact⟩ := react_execute ar st v.1
  · rw [hreact]
    exact hv.answered (by simp [flagging, hst]) (W.spared h hv.working hx) rfl hv.around
  · rw [hreact]
    exact hv.answered rfl hv.working rfl hv.around

/-- The flagging. -/
theorem mark (h : ∀ b T T' n, W.obs T = W.val b →
      (Stmt.markDisabledByParent W.reseller).exec T = .ok (T', n) → W.obs T' = W.val true) :
    W.Kept (ResellerBot.execute (.markDisabledByParent W.reseller)) := by
  refine flush.bind fun _ => bind (fun ar => ?_) fun _ => outcome _
  refine Holds.request (fun _ _ _ => trivial) fun s v r v' hv hr => ?_
  obtain ⟨rfl, rfl⟩ := Prod.mk.inj
    (show logging ar.react (.execute (.markDisabledByParent W.reseller)) v = (r, v') from hr)
  have hflags : (Stmt.markDisabledByParent W.reseller).flags W.reseller = true :=
    decide_eq_true rfl
  obtain ⟨T, n, hx, hreact⟩ | ⟨e, hreact⟩ :=
    react_execute ar (.markDisabledByParent W.reseller) v.1
  · rw [hreact]
    refine ⟨?_, ?_, hv.around, hv.unflushed⟩
    · rw [flagging, if_pos hflags]
      exact h _ _ _ _ hv.working hx
    · rw [flagging, if_pos hflags]
      exact hv.committed
  · rw [hreact]
    exact hv.answered rfl hv.working rfl hv.around

theorem commit : W.Kept commit := by
  refine flush.bind fun _ => bind (fun ar => ?_) fun r => ?_
  · refine Holds.request (fun _ _ _ => trivial) fun s v r v' h hr => ?_
    obtain ⟨rfl, rfl⟩ := Prod.mk.inj (show logging ar.react .commit v = (r, v') from hr)
    exact ⟨h.working, h.working, h.around, h.unflushed⟩
  · cases r with
    | ok _ => exact pure ()
    | error e => exact (modify fun _ _ => spares_expire true).bind fun _ => raise e

theorem rollback : W.Kept rollback := by
  refine bind (fun ar => ?_) fun _ => modify fun _ _ => spares_expire false
  refine Holds.request (fun _ _ _ => trivial) fun s v r v' h hr => ?_
  obtain ⟨rfl, rfl⟩ := Prod.mk.inj (show logging ar.react .rollback v = (r, v') from hr)
  exact ⟨h.committed, h.committed, h.around, h.unflushed⟩

theorem inSession (hm : W.Kept m) : W.Kept (inSession m) :=
  (modify fun _ _ => by rintro _ ⟨⟩).bind fun _ =>
    hm.attempt.bind fun r => rollback.bind fun _ => outcome r

theorem inTransaction (hm : W.Kept m) : W.Kept (inTransaction m) :=
  inSession (hm.bind fun _ => commit.bind fun _ => pure _)

theorem add {st : Stmt} (h : W.spares st) : W.Kept (add st) := by
  refine fun _ => Holds.modify fun s _ hs => hs.withSession (hs.spares_pending ?_)
  rintro _ hst
  rwa [List.mem_singleton.mp hst]

/-! ### Objects -/

section Slots

variable (sl : Slot γ) [hsl : sl.Placed]

omit hsl in
theorem read : W.Kept sl.read := by
  refine state fun s => ?_
  cases sl.get s with
  | some ob => exact pure _
  | none => exact raise _

/-- The slot is given another object. -/
theorem spares_put {ob : Option (Obj γ)} (hs : ∀ st ∈ s.unflushed, W.spares st)
    (hob : ∀ o, ob = some o → ∀ st ∈ sl.stmts o, W.spares st) :
    ∀ st ∈ (sl.put s ob).unflushed, W.spares st := by
  intro st hst
  obtain hst | ⟨o, ho, hst⟩ := hsl.put s ob st hst
  · exact hs st hst
  · exact hob o ho st hst

theorem spares_stmtsOf (hs : ∀ st ∈ s.unflushed, W.spares st) :
    ∀ st ∈ s.stmtsOf sl, W.spares st := by
  intro st hst
  unfold Session.stmtsOf at hst
  cases hob : sl.get s with
  | none =>
    rw [hob] at hst
    cases hst
  | some ob =>
    rw [hob] at hst
    exact hs st (hsl.get s ob hob st hst)

theorem hold {ob : Obj γ} (hob : ∀ st ∈ sl.stmts ob, W.spares st) : W.Kept (sl.hold ob) := by
  refine fun _ => Holds.modify fun s _ hs => hs.withSession ?_
  refine spares_put sl (hs.spares_pending (spares_stmtsOf sl hs.unflushed)) fun o ho => ?_
  rwa [← Option.some.inj ho]

theorem forget : W.Kept sl.forget := by
  refine fun _ => Holds.modify fun s _ hs => hs.withSession ?_
  exact spares_put sl (hs.spares_pending (spares_stmtsOf sl hs.unflushed)) (by rintro _ ⟨⟩)

/-- An object as it was loaded. -/
theorem holdClean (row : γ) : W.Kept (sl.hold ⟨some row, row⟩) := by
  refine hold sl ?_
  rw [hsl.clean]
  rintro _ ⟨⟩

theorem holdLoaded (ep : ℕ) (row : γ) : W.Kept (sl.holdLoaded ep row) := by
  refine state fun s => ?_
  split_ifs
  · exact holdClean sl row
  · exact raise _
  · exact raise _

theorem load {select : Bot (Option γ)} (hs : W.Kept select) : W.Kept (sl.load select) := by
  refine hs.bind fun r => ?_
  cases r with
  | some row => exact (holdClean sl row).bind fun _ => pure _
  | none => exact pure _

theorem getByKey (key : γ → ℕ) (i : ℕ) {select : Bot (Option γ)} (hs : W.Kept select) :
    W.Kept (sl.getByKey key i select) := by
  refine state fun s => ?_
  cases sl.get s with
  | none => exact load sl hs
  | some ob =>
    dsimp only
    split_ifs
    · exact pure _
    · exact load sl hs

theorem assign {g : γ → γ} (hg : ∀ ob, (∀ st ∈ sl.stmts ob, W.spares st) →
      ∀ st ∈ sl.stmts ⟨ob.db, g ob.cur⟩, W.spares st) : W.Kept (sl.assign g) := by
  refine fun _ => Holds.modify fun s _ hs => hs.withSession (spares_put sl hs.unflushed ?_)
  intro o ho
  obtain ⟨ob, hob, rfl⟩ := Option.map_eq_some_iff.mp ho
  exact hg ob fun st hst => hs.unflushed st (hsl.get s ob hob st hst)

end Slots

/-! ### Code about other tables -/

section OfUsers

variable [hW : W.OfUsers]

theorem audit (action result : String) (orderId : Option ℕ) :
    W.Kept (audit action result orderId) := add (hW.spares rfl)

/-- The flush of an object of another class. -/
theorem spares_updated {δ : Type} [DecidableEq δ] (update : δ → δ → Stmt) (insert : δ → List Stmt)
    (hu : ∀ old new, (update old new).aboutUsers = false)
    (hi : ∀ row, ∀ st ∈ insert row, st.aboutUsers = false) (ob : Obj δ) :
    ∀ st ∈ updated update insert ob, W.spares st := by
  intro st hst
  obtain ⟨db, -, rfl⟩ | ⟨-, hst⟩ := mem_updated hst
  · exact hW.spares (hu _ _)
  · exact hW.spares (hi _ st hst)

theorem assignOrder (g : Order → Order) : W.Kept (Slot.order.assign g) :=
  assign _ fun _ _ => spares_updated .updateOrder (fun _ => []) (fun _ _ => rfl)
    (by rintro _ _ ⟨⟩) _

theorem assignReseller (g : Reseller → Reseller) : W.Kept (Slot.reseller.assign g) := by
  refine assign _ fun _ _ => spares_updated .updateReseller (fun r => [.insertReseller r])
    (fun _ _ => rfl) (fun _ st hst => ?_) _
  rw [List.mem_singleton.mp hst]
  rfl

theorem assignPayment (g : Payment → Payment) : W.Kept (Slot.payment.assign g) :=
  assign _ fun _ _ => spares_updated .updatePayment (fun _ => []) (fun _ _ => rfl)
    (by rintro _ _ ⟨⟩) _

theorem assignTrial (g : TrialRecord → TrialRecord) : W.Kept (Slot.trial.assign g) := by
  refine assign _ fun _ _ => spares_updated .updateTrial (fun r => [.insertTrial r])
    (fun _ _ => rfl) (fun _ st hst => ?_) _
  rw [List.mem_singleton.mp hst]
  rfl

end OfUsers

section Flags

variable {i : ℕ} {val : Bool → String → Prop}

theorem call (why : Cause) (c : Call) : (Watch.flags i val).Kept (ResellerBot.call why c) :=
  callWith why c fun _ => trivial

/-- An assignment to other columns. -/
theorem assignUser {g : ResellerUserCache → ResellerUserCache}
    (hg : ∀ u, (g u).disabledByParentReseller = u.disabledByParentReseller) :
    (Watch.flags i val).Kept (Slot.user.assign g) := by
  refine assign _ fun ob hob st hst => ?_
  change st ∈ updated .updateUser (fun u => [.insertUser u]) ⟨ob.db, g ob.cur⟩ at hst
  obtain ⟨db, hdb, rfl⟩ | ⟨hdb, hst⟩ := mem_updated hst
  · show (g ob.cur).disabledByParentReseller = db.disabledByParentReseller
    rw [hg]
    by_cases hsame : db = ob.cur
    · rw [hsame]
    · have hdb : ob.db = some db := hdb
      refine hob (.updateUser db ob.cur) ?_
      show _ ∈ updated .updateUser (fun u => [.insertUser u]) ob
      rw [updated, hdb]
      simp [hsame]
  · rw [List.mem_singleton.mp hst]
    show (g ob.cur).disabledByParentReseller = false
    rw [hg]
    have hdb : ob.db = none := hdb
    refine hob (.insertUser ob.cur) ?_
    show _ ∈ updated .updateUser (fun u => [.insertUser u]) ob
    rw [updated, hdb]
    exact List.mem_singleton_self _

end Flags

end Kept

end Watch

end ResellerBot
