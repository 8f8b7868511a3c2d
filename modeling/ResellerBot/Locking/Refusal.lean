import ResellerBot.System
import ResellerBot.Database.Run

/-!
# ResellerBot.Locking.Refusal — what a refused lock costs its session

A session may have work that is not durable yet: statements not flushed and a write transaction not
committed, with the rows of the locks it holds among them.  `acquire` meets a row of another session
with a rollback of the whole session.
-/

open Interact

namespace ResellerBot

/-- The answer to a request that is not possible now. -/
def stuck : (e : Ev) → Resp e
  | .query _ | .flush _ | .execute _ | .commit | .call _ _ | .send _ | .chatMember _ _
  | .transaction _ => .error ⟨.operational, "database is locked"⟩
  | .now => 0
  | .randbelow _ => 0
  | .token _ => ""
  | .rollback | .lock _ | .unlock _ | .createTask => ()

/-- Session `i` goes on while nobody else does, and nothing fails that need not. -/
def alone (i : ℕ) (e : Ev) (w : World) : Resp e × World := (react i e .done w).getD (stuck e, w)

/-- The tables as a commit of session `i` would make them. -/
def work (i : ℕ) (s : Session) (w : World) : Except Err Tables :=
  Stmt.execAll (w.tables i) s.unflushed

variable {i : ℕ} {s s' : Session} {w w' : World}

theorem alone_flush (sts : List Stmt) : alone i (.flush sts) w =
    (w.flush i sts .done).getD (stuck (.flush sts), w) := rfl

theorem alone_execute (st : Stmt) : alone i (.execute st) w =
    (w.execute i st .done).getD (stuck (.execute st), w) := rfl

theorem alone_rollback : alone i .rollback w = ((), w.withStore (w.store.rollback i)) := rfl

/-! ## One operation -/

/-- What becomes of the store in a flush. -/
theorem alone_flush_cases (sts : List Stmt) :
    (∃ T, Stmt.execAll (w.tables i) sts = .ok T ∧
      alone i (.flush sts) w = (.ok (), w.withStore (w.store.put i T))) ∨
    ∃ e w₁, alone i (.flush sts) w = (.error e, w₁) ∧
      w₁.store.committed = w.store.committed := by
  rw [alone_flush]
  unfold World.flush
  dsimp only
  split_ifs
  · cases hT : Stmt.execAll (w.tables i) sts with
    | ok T => exact .inl ⟨T, rfl, rfl⟩
    | error e => exact .inr ⟨e, _, rfl, Store.committed_rollback _ _⟩
  · exact .inr ⟨_, w, rfl, rfl⟩

/-- A flush that succeeds carries out the work of the session. -/
theorem flush_alone (h : Act.run (alone i) s w flush = ((.ok (), s'), w')) :
    s' = s.flushed ∧ w'.store.committed = w.store.committed ∧ work i s w = .ok (w'.tables i) := by
  unfold flush at h
  rw [Act.run_bind, Act.run_state] at h
  dsimp only at h
  split_ifs at h with hb hu
  · cases h
  · obtain ⟨⟨-, rfl⟩, rfl⟩ := by simpa using h
    refine ⟨rfl, rfl, ?_⟩
    rw [work, List.isEmpty_iff.mp hu]
    rfl
  · rw [run_ask_bind] at h
    rcases alone_flush_cases s.unflushed with ⟨T, hT, ha⟩ | ⟨e, w₁, ha, -⟩
    · rw [ha] at h
      obtain ⟨⟨-, rfl⟩, rfl⟩ := by simpa using h
      refine ⟨rfl, rfl, ?_⟩
      rw [work, hT]
      exact congrArg Except.ok (Store.visible_put_self ..).symm
    · rw [ha] at h
      cases h

theorem execute_alone {st : Stmt} {n : ℕ}
    (h : Act.run (alone i) s w (execute st) = ((.ok n, s'), w')) :
    s' = s.flushed ∧ w'.store.committed = w.store.committed ∧
      ∃ T, work i s w = .ok T ∧ st.exec T = .ok (w'.tables i, n) := by
  obtain ⟨_, s₁, w₁, hf, h⟩ := Act.run_bind_inv _ _ _ h
  obtain ⟨rfl, hc, hw⟩ := flush_alone hf
  rw [run_ask_bind, alone_execute] at h
  unfold World.execute at h
  dsimp only at h
  split_ifs at h
  · cases hst : st.exec (w₁.tables i) with
    | error e =>
      rw [hst] at h
      cases h
    | ok r =>
      rw [hst] at h
      obtain ⟨⟨rfl, rfl⟩, rfl⟩ := by simpa using h
      refine ⟨rfl, hc, _, hw, hst.trans ?_⟩
      exact congrArg (fun T => Except.ok (T, r.2)) (Store.visible_put_self ..).symm
  · cases h

/-- A flush that fails makes nothing durable. -/
theorem flush_alone_error {e : Err} (h : Act.run (alone i) s w flush = ((.error e, s'), w')) :
    w'.store.committed = w.store.committed := by
  unfold flush at h
  rw [Act.run_bind, Act.run_state] at h
  dsimp only at h
  split_ifs at h with hb hu
  · obtain ⟨-, rfl⟩ := by simpa using h
    rfl
  · cases h
  · rw [run_ask_bind] at h
    rcases alone_flush_cases s.unflushed with ⟨T, hT, ha⟩ | ⟨e', w₁, ha, hc⟩
    · rw [ha] at h
      cases h
    · rw [ha] at h
      obtain ⟨-, rfl⟩ := Prod.mk.inj h
      exact hc

/-- A refused lock row: the session has nothing left, and nothing has become durable. -/
theorem insertLock_false {row : LifecycleLock}
    (h : Act.run (alone i) s w (insertLock row) = ((.ok false, s'), w')) :
    s'.unflushed = [] ∧ w'.store.committed = w.store.committed ∧
      w'.tables i = w.store.committed := by
  obtain ⟨_, s₁, w₁, hadd, h⟩ := Act.run_bind_inv _ _ _ h
  obtain ⟨-, rfl⟩ := Prod.mk.inj hadd
  rw [Act.run_bind, Act.run_attempt] at h
  rcases hf : Act.run (alone i) s₁ w flush with ⟨⟨e | _, s₂⟩, w₂⟩
  · rw [hf] at h
    dsimp only at h
    split_ifs at h
    · obtain ⟨⟨-, rfl⟩, rfl⟩ := by simpa [Act.run_bind, alone_rollback] using h
      have hc := flush_alone_error hf
      refine ⟨rfl, ?_, ?_⟩
      · exact (Store.committed_rollback _ _).trans hc
      · exact (Store.visible_rollback_self _ _).trans hc
    · cases h
  · rw [hf] at h
    cases h

/-- A refused `acquire`: what was not durable is lost. -/
theorem acquire_false {key : String} {ttl : ℤ}
    (h : Act.run (alone i) s w (acquire key ttl) = ((.ok false, s'), w')) :
    (∃ T, work i s w = .ok T) ∧ work i s' w' = .ok w.store.committed := by
  obtain ⟨_, s₁, w₁, hnow, h⟩ := Act.run_bind_inv _ _ _ h
  obtain ⟨hs, rfl⟩ := Prod.mk.inj hnow
  obtain ⟨-, rfl⟩ := Prod.mk.inj hs
  obtain ⟨_, s₂, w₂, hx, h⟩ := Act.run_bind_inv _ _ _ h
  obtain ⟨expiry, s₃, w₃, ho, h⟩ := Act.run_bind_inv _ _ _ h
  rw [Act.run_outcome] at ho
  obtain ⟨-, rfl⟩ := Prod.mk.inj ho
  obtain ⟨-, hc, T, hwork, -⟩ := execute_alone hx
  obtain ⟨hu, -, ht⟩ := insertLock_false h
  refine ⟨⟨T, hwork⟩, ?_⟩
  rw [work, hu, ht, hc]
  rfl

/-- **A refused lock changes nothing, if there is nothing to lose.**  A refused `acquire` leaves
the work of its session, with the locks the session has taken, as it was exactly if all of it was
durable already. -/
theorem acquire_refused_iff {key : String} {ttl : ℤ}
    (h : Act.run (alone i) s w (acquire key ttl) = ((.ok false, s'), w')) :
    work i s' w' = work i s w ↔ work i s w = .ok w.store.committed := by
  rw [(acquire_false h).2]
  exact eq_comm

/-! ## Locks in locks -/

/-- The row of a lock that is acquired is a new one. -/
theorem insertLock_true {row : LifecycleLock} (hs : s.unflushed = [])
    (h : Act.run (alone i) s w (insertLock row) = ((.ok true, s'), w')) :
    w'.store.committed = w.store.committed ∧ (∀ l ∈ (w.tables i).locks, l.key ≠ row.key) ∧
      ∃ T, work i s' w' = .ok T ∧ row ∈ T.locks := by
  obtain ⟨_, s₁, w₁, hadd, h⟩ := Act.run_bind_inv _ _ _ h
  obtain ⟨hs₁, rfl⟩ := Prod.mk.inj hadd
  obtain ⟨-, rfl⟩ := Prod.mk.inj hs₁
  rw [Act.run_bind, Act.run_attempt] at h
  rcases hf : Act.run (alone i) { s with pending := s.pending ++ [.insertLock row] } w flush with
    ⟨⟨e | _, s₂⟩, w₂⟩
  · rw [hf] at h
    dsimp only at h
    split_ifs at h
    · simp [Act.run_bind] at h
    · cases h
  · rw [hf] at h
    obtain ⟨⟨-, rfl⟩, rfl⟩ := by simpa using h
    obtain ⟨rfl, hc, hwork⟩ := flush_alone hf
    have hpending : ({ s with pending := s.pending ++ [.insertLock row] } : Session).unflushed =
        [.insertLock row] := by
      simp only [Session.unflushed, List.append_eq_nil_iff] at hs
      obtain ⟨⟨⟨⟨⟨hp, ho⟩, hr⟩, hpay⟩, ht⟩, hu⟩ := hs
      show s.pending ++ [.insertLock row] ++ s.stmtsOf .order ++ s.stmtsOf .reseller ++
        s.stmtsOf .payment ++ s.stmtsOf .trial ++ s.stmtsOf .user = _
      rw [hp, ho, hr, hpay, ht, hu]
      rfl
    rw [work, hpending, Stmt.execAll, Stmt.exec] at hwork
    split_ifs at hwork with hany
    · cases hwork
    · refine ⟨hc, fun l hl hk => hany (List.any_eq_true.mpr ⟨l, hl, decide_eq_true hk⟩),
        w₂.tables i, ?_, ?_⟩
      · rw [work, unflushed_flushed]
        rfl
      · rw [← Except.ok.inj hwork]
        exact List.mem_append_right _ (List.mem_singleton_self row)

/-- An acquired lock: its row is part of the work, and no row of the time before. -/
theorem acquire_true {key : String} {ttl : ℤ} (httl : 0 < ttl)
    (h : Act.run (alone i) s w (acquire key ttl) = ((.ok true, s'), w')) :
    w'.store.committed = w.store.committed ∧ ∃ row T T', row.key = key ∧ work i s w = .ok T ∧
      row ∉ T.locks ∧ work i s' w' = .ok T' ∧ row ∈ T'.locks := by
  obtain ⟨t, s₁, w₁, hnow, h⟩ := Act.run_bind_inv _ _ _ h
  obtain ⟨hs, rfl⟩ := Prod.mk.inj hnow
  obtain ⟨-, rfl⟩ := Prod.mk.inj hs
  obtain ⟨_, s₂, w₂, hx, h⟩ := Act.run_bind_inv _ _ _ h
  obtain ⟨expiry, s₃, w₃, ho, h⟩ := Act.run_bind_inv _ _ _ h
  rw [Act.run_outcome] at ho
  obtain ⟨hexpiry, hsame⟩ := Prod.mk.inj (Prod.mk.inj ho).1
  rw [← hsame, ← (Prod.mk.inj ho).2] at h
  obtain ⟨hs₂, hc, T, hwork, hexec⟩ := execute_alone hx
  obtain ⟨hc', hnew, T', hwork', hrow⟩ :=
    insertLock_true (by rw [hs₂, unflushed_flushed]) h
  refine ⟨hc'.trans hc, ⟨key, expiry⟩, T, T', rfl, hwork, fun hmem => ?_, hwork', hrow⟩
  obtain ⟨hT, -⟩ := Prod.mk.inj (Except.ok.inj hexec)
  refine hnew ⟨key, expiry⟩ ?_ rfl
  rw [← hT]
  refine List.mem_filter.mpr ⟨hmem, decide_eq_true fun hexpired => ?_⟩
  have hlater := addTimedelta_ok hexpiry
  have hsecond : 0 < ttl * second := mul_pos httl (by decide)
  have hle : expiry ≤ t := hexpired.2
  rw [hlater] at hle
  exact absurd hle (not_le.mpr (lt_add_of_pos_right t hsecond))

/-- **A lock within a lock.**  A session acquires a lock and commits nothing; whatever it does
otherwise, the lock is lost when another one is refused to it, if the tables committed before did
not have it already. -/
theorem refused_in_lock {s₁ s₂ : Session} {w₁ w₂ : World} {key key' : String} {ttl ttl' : ℤ}
    (httl : 0 < ttl) (hfirst : work i s w = .ok w.store.committed)
    (h : Act.run (alone i) s w (acquire key ttl) = ((.ok true, s₁), w₁))
    (hcommit : w₂.store.committed = w₁.store.committed)
    (h' : Act.run (alone i) s₂ w₂ (acquire key' ttl') = ((.ok false, s'), w')) :
    ∃ row T T', row.key = key ∧ work i s₁ w₁ = .ok T ∧ row ∈ T.locks ∧
      work i s' w' = .ok T' ∧ row ∉ T'.locks := by
  obtain ⟨hc, row, T, T', hkey, hT, hnew, hT', hrow⟩ := acquire_true httl h
  refine ⟨row, T', w.store.committed, hkey, hT', hrow, ?_, ?_⟩
  · rw [(acquire_false h').2, hcommit, hc]
  · rw [hfirst] at hT
    rwa [Except.ok.inj hT]

/-! ## A scheduler run that meets a busy reconciliation -/

def emptyTables : Tables := ⟨[], [], [], [], [], [], [], [], [], [], []⟩

/-- Somebody else reconciles orders; the run has its own lock and an audit row in its session. -/
def busyWorld : World where
  store := ⟨{ emptyTables with locks := [⟨"orders:reconcile", 1000⟩] },
    some (0, { emptyTables with
      locks := [⟨"orders:reconcile", 1000⟩, ⟨"scheduler:global", 2000⟩] })⟩
  mutex := fun _ => false
  clock := 10
  server := ⟨fun _ => none, fun _ => none⟩

def busySession : Session :=
  { Session.empty with pending := [.insertAudit ⟨"RESELLER_DISABLED", "OK", none⟩] }

/-- The locks and the number of audit rows that would be durable after a commit. -/
def remains (s : Session) (w : World) : Option (List LifecycleLock × ℕ) :=
  (work 0 s w).toOption.map fun T => (T.locks, T.audits.length)

/-- The refusal takes the lock of the run and its audit row with it. -/
theorem refused_not_harmless :
    let r := Act.run (alone 0) busySession busyWorld (acquire "orders:reconcile" 300)
    r.1.1 = .ok false ∧
      remains busySession busyWorld =
        some ([⟨"orders:reconcile", 1000⟩, ⟨"scheduler:global", 2000⟩], 1) ∧
      remains r.1.2 r.2 = some ([⟨"orders:reconcile", 1000⟩], 0) := by
  refine ⟨rfl, rfl, rfl⟩

theorem acquire_refused_busy :
    work 0 (Act.run (alone 0) busySession busyWorld (acquire "orders:reconcile" 300)).1.2
        (Act.run (alone 0) busySession busyWorld (acquire "orders:reconcile" 300)).2 =
      work 0 busySession busyWorld ↔
    work 0 busySession busyWorld = .ok busyWorld.store.committed :=
  @acquire_refused_iff 0 _ _ _ _ "orders:reconcile" 300 rfl

end ResellerBot
