import ResellerBot.Database.Session

/-!
# ResellerBot.Database.Run — the session operations in a world that answers every request
-/

open Interact

namespace ResellerBot

/-! ## Sessions after a flush -/

@[simp] theorem unflushed_expire (s : Session) (b : Bool) : (s.expire b).unflushed = [] := rfl

theorem updated_clean {β : Type} [DecidableEq β] {update : β → β → Stmt} {insert : β → List Stmt}
    (ob : Obj β) : updated update insert (Session.clean ob) = [] := by
  simp [updated, Session.clean]

theorem stmtsOf_flushed (s : Session) :
    s.flushed.stmtsOf .order = [] ∧ s.flushed.stmtsOf .reseller = [] ∧
    s.flushed.stmtsOf .payment = [] ∧ s.flushed.stmtsOf .trial = [] ∧
    s.flushed.stmtsOf .user = [] := by
  refine ⟨?_, ?_, ?_, ?_, ?_⟩
  · cases h : s.order <;>
      simp [Session.stmtsOf, Session.flushed, Slot.order, h, updated_clean]
  · cases h : s.reseller <;>
      simp [Session.stmtsOf, Session.flushed, Slot.reseller, h, updated_clean]
  · cases h : s.payment <;>
      simp [Session.stmtsOf, Session.flushed, Slot.payment, h, updated_clean]
  · cases h : s.trial <;>
      simp [Session.stmtsOf, Session.flushed, Slot.trial, h, updated_clean]
  · rcases h : s.user with _ | ⟨_ | db, cur⟩ <;>
      simp [Session.stmtsOf, Session.flushed, Slot.user, h, updated_clean]

@[simp] theorem unflushed_flushed (s : Session) : s.flushed.unflushed = [] := by
  obtain ⟨h1, h2, h3, h4, h5⟩ := stmtsOf_flushed s
  simp only [Session.unflushed, h1, h2, h3, h4, h5]
  rfl

@[simp] theorem flushed_flushed (s : Session) : s.flushed.flushed = s.flushed := by
  rcases s with ⟨o, r, p, q, t, u, pend, b, e⟩
  have hc {β : Type} : (Session.clean ∘ Session.clean : Obj β → Obj β) = Session.clean := rfl
  rcases u with _ | ⟨_ | db, cur⟩ <;> simp [Session.flushed, hc, Session.clean]

/-! ## Runs -/

variable {Γ : Type} (react : (e : Ev) → Γ → Resp e × Γ) (s : Session) (γ : Γ)

theorem run_ask_bind {α : Type} (e : Ev) (f : Resp e → Bot α) :
    Act.run react s γ (ask e >>= f) = Act.run react s (react e γ).2 (f (react e γ).1) := rfl

theorem run_call (why : Cause) (c : Call) :
    Act.run react s γ (call why c) =
      (((react (.call why c) γ).1, s), (react (.call why c) γ).2) :=
  (run_ask_bind react s γ (.call why c) Act.outcome).trans (Act.run_outcome ..)

theorem run_getAdmin (username : Option String) :
    Act.run react s γ (getAdmin username) =
      (((react (.call .lookup (.getAdmin username)) γ).1, s),
        (react (.call .lookup (.getAdmin username)) γ).2) :=
  run_call react s γ .lookup _

theorem run_listAdminUsers (username : Option String) :
    Act.run react s γ (listAdminUsers username) =
      (((react (.call .lookup (.listAdminUsers username)) γ).1, s),
        (react (.call .lookup (.listAdminUsers username)) γ).2) :=
  run_call react s γ .lookup _

theorem run_sendMessage (chat : ℤ) :
    Act.run react s γ (sendMessage chat) =
      (((react (.send chat) γ).1, s), (react (.send chat) γ).2) :=
  (run_ask_bind react s γ (.send chat) Act.outcome).trans (Act.run_outcome ..)

@[simp] theorem run_rollback :
    Act.run react s γ rollback = ((.ok (), s.expire false), (react .rollback γ).2) := rfl

theorem run_read {α : Type} {sl : Slot α} {ob : Obj α} (h : sl.get s = some ob) :
    Act.run react s γ sl.read = ((.ok ob.cur, s), γ) := by
  simp [Slot.read, Act.run_bind, h]

@[simp] theorem run_assign {α : Type} (sl : Slot α) (f : α → α) :
    Act.run react s γ (sl.assign f) =
      ((.ok (), sl.put s ((sl.get s).map fun ob => ⟨ob.db, f ob.cur⟩)), γ) := rfl

/-- With nothing to flush, a flush asks for nothing. -/
theorem run_flush_nil (hb : s.broken = false) (hu : s.unflushed = []) :
    Act.run react s γ flush = ((.ok (), s.flushed), γ) := by
  simp [flush, Act.run_bind, hb, hu]

theorem run_query_nil (hb : s.broken = false) (hu : s.unflushed = []) (q : Query) :
    Act.run react s γ (query q) =
      (((react (.query q) γ).1, s.flushed), (react (.query q) γ).2) := by
  rw [query, Act.run_bind_ok _ _ _ _ (run_flush_nil react s γ hb hu)]
  exact (run_ask_bind react s.flushed γ (.query q) Act.outcome).trans (Act.run_outcome ..)

/-- The first query of a session. -/
theorem run_inSession_query (q : Query) :
    Act.run react s γ (inSession (query q)) =
      (((react (.query q) γ).1, Session.empty.flushed.expire false),
        (react .rollback (react (.query q) γ).2).2) := by
  simp [inSession, Act.run_bind, Act.run_attempt, run_query_nil react Session.empty _ rfl rfl]

section Slots

variable {α : Type} {s' : Session} {γ' : Γ} {select : Bot (Option α)} (sl : Slot α)

variable {react s γ} in
theorem run_load_none (h : Act.run react s γ select = ((.ok none, s'), γ')) :
    Act.run react s γ (sl.load select) = ((.ok none, s'), γ') := by
  rw [Slot.load, Act.run_bind, h]
  rfl

variable {react s γ} in
theorem run_load_some {row : α} (h : Act.run react s γ select = ((.ok (some row), s'), γ')) :
    Act.run react s γ (sl.load select) = ((.ok (some row),
      sl.put { s' with pending := s'.pending ++ s'.stmtsOf sl } (some ⟨some row, row⟩)), γ') := by
  rw [Slot.load, Act.run_bind, h]
  rfl

variable {s} in
theorem run_holdLoaded {ep : ℕ} (h : s.epoch = ep) (row : α) :
    Act.run react s γ (sl.holdLoaded ep row) =
      ((.ok (), sl.put { s with pending := s.pending ++ s.stmtsOf sl } (some ⟨some row, row⟩)), γ) := by
  simp [Slot.holdLoaded, Act.run_bind, Slot.hold, h]

end Slots

end ResellerBot
