import ResellerBot.Database.Locks
import ResellerBot.Database.Run

/-!
# ResellerBot.Locking.Exclusion — who holds a lock

Any number of sessions acquire, release and commit.  The rows of the lock table are kept here with
the session that has inserted each and its turn: successful acquires are numbered as they come.  The
code sees neither (`rows_exec`).  A session holds a key from an `acquire` that has returned true
until its own release of the key.
-/

open Interact

namespace ResellerBot

/-! ## The lock table with owners -/

structure OwnedLock where
  row : LifecycleLock
  owner : ℕ
  turn : ℕ
  deriving DecidableEq, Repr

namespace OwnedLock

/-- The statements on locks, made by session `i` in turn `n`. -/
def exec (i n : ℕ) (T : List OwnedLock) : Stmt → Except Err (List OwnedLock × ℕ)
  | .insertLock row =>
    if T.any (·.row.key = row.key) then .error (integrityError "lifecycle_locks.key")
    else .ok (T ++ [⟨row, i, n⟩], 1)
  | .deleteExpiredLock key now =>
    .ok (T.filter fun x => ¬(x.row.key = key ∧ x.row.expiresAt ≤ now),
      (T.filter fun x => x.row.key = key && decide (x.row.expiresAt ≤ now)).length)
  | .deleteLock key =>
    .ok (T.filter fun x => x.row.key ≠ key, (T.filter fun x => x.row.key = key).length)
  | _ => .ok (T, 0)

/-- A statement on locks. -/
def concerns : Stmt → Bool
  | .insertLock _ | .deleteExpiredLock _ _ | .deleteLock _ => true
  | _ => false

def execAll (i n : ℕ) (T : List OwnedLock) : List Stmt → Except Err (List OwnedLock)
  | [] => .ok T
  | st :: sts => do
    let (T', _) ← exec i n T st
    execAll i n T' sts

theorem filter_row (p : LifecycleLock → Bool) (T : List OwnedLock) :
    (T.filter fun x => p x.row).map row = (T.map row).filter p := by
  rw [List.filter_map]
  rfl

/-- Without the owners this is what the statements do to the table. -/
theorem rows_exec {st : Stmt} (h : concerns st) (i n : ℕ) (T : List OwnedLock) (D : Tables)
    (hD : D.locks = T.map row) : (st.exec D).map (fun r => (r.1.locks, r.2)) =
      (exec i n T st).map fun r => (r.1.map row, r.2) := by
  cases st with
  | insertLock l =>
    have hany : (D.locks.any fun x => x.key = l.key) = T.any fun x => x.row.key = l.key := by
      rw [hD, List.any_map]
      rfl
    simp only [Stmt.exec, exec, hany]
    split_ifs
    · rfl
    · simp [Except.map, hD]
  | deleteExpiredLock key now =>
    have h1 := filter_row (fun x => ¬(x.key = key ∧ x.expiresAt ≤ now)) T
    have h2 := filter_row (fun x => x.key = key && decide (x.expiresAt ≤ now)) T
    simp only [Stmt.exec, exec, Except.map, hD, ← h1, ← h2, List.length_map]
  | deleteLock key =>
    have h1 := filter_row (fun x => x.key ≠ key) T
    have h2 := filter_row (fun x => x.key = key) T
    simp only [Stmt.exec, exec, Except.map, hD, ← h1, ← h2, List.length_map]
  | _ => cases h

end OwnedLock

/-- The requests of session `i` on the lock table in turn `n`, while the clock it has read stands at
`t`. -/
def lockReact (i n : ℕ) (t : Datetime) : (e : Ev) → Store (List OwnedLock) →
    Resp e × Store (List OwnedLock)
  | .now, st => (t, st)
  | .flush sts, st =>
    match OwnedLock.execAll i n (st.visible i) sts with
    | .ok T => (.ok (), st.put i T)
    | .error e => (.error e, st.rollback i)
  | .execute q, st =>
    match OwnedLock.exec i n (st.visible i) q with
    | .ok (T, count) => (.ok count, st.put i T)
    | .error e => (.error e, st)
  | .commit, st => (.ok (), st.commit i)
  | .rollback, st => ((), st.rollback i)
  | .query _, st | .call _ _, st | .send _, st | .chatMember _ _, st | .transaction _, st =>
    (.error ⟨.operational, ""⟩, st)
  | .randbelow _, st => (0, st)
  | .token _, st => ("", st)
  | .lock _, st | .unlock _, st | .createTask, st => ((), st)

/-! ## Sessions and their locks -/

/-- The lock of a session on a key that it holds. -/
structure Hold where
  expiry : Datetime
  turn : ℕ

structure LockState where
  store : Store (List OwnedLock)
  clock : Datetime
  /-- The acquires that have returned true, in their turns: the session and the key. -/
  turns : List (ℕ × String)
  holds : ℕ → String → Option Hold

/-- `t` is the reading of the clock that `acquire` starts with; a session may end at any time. -/
inductive LockMove
  | acquire (i : ℕ) (key : String) (ttl : ℤ) (t : Datetime)
  | release (i : ℕ) (key : String)
  | commit (i : ℕ)
  | close (i : ℕ)
  | tick (d : ℕ)

namespace LockState

variable (st : LockState)

def withHolds (i : ℕ) (key : String) (h : Option Hold) : ℕ → String → Option Hold :=
  Function.update st.holds i (Function.update (st.holds i) key h)

/-- What `acquire` returns, and the store it leaves. -/
def acquired (i : ℕ) (key : String) (ttl : ℤ) (t : Datetime) :
    Except Err Bool × Store (List OwnedLock) :=
  let r := Act.run (lockReact i st.turns.length t) Session.empty st.store
    (ResellerBot.acquire key ttl)
  (r.1.1, r.2)

/-- The state after a successful `acquire` that has left the store `sto`. -/
def taken (i : ℕ) (key : String) (expiry : Datetime) (sto : Store (List OwnedLock)) : LockState where
  store := sto
  clock := st.clock
  turns := st.turns ++ [(i, key)]
  holds := st.withHolds i key (some ⟨expiry, st.turns.length⟩)

/-- One move; a write waits until no other session has a transaction open. -/
def step : LockMove → Option LockState
  | .acquire i key ttl t =>
    if st.store.free i ∧ t ≤ st.clock then
      let r := st.acquired i key ttl t
      if r.1 = .ok true then some (st.taken i key (t + ttl * second) r.2)
      else some { st with store := r.2 }
    else none
  | .release i key =>
    if st.store.free i ∧ (st.holds i key).isSome then
      some { st with
        store := (Act.run (lockReact i st.turns.length st.clock) Session.empty st.store
          (ResellerBot.release key)).2
        holds := st.withHolds i key none }
    else none
  | .commit i =>
    some { st with
      store := (Act.run (lockReact i st.turns.length st.clock) Session.empty st.store
        ResellerBot.commit).2 }
  | .close i => some { st with
      store := (Act.run (lockReact i st.turns.length st.clock) Session.empty st.store
        ResellerBot.rollback).2
      holds := Function.update st.holds i fun _ => none }
  | .tick d => some { st with clock := st.clock + d }

def steps : LockState → List LockMove → Option LockState
  | st, [] => some st
  | st, m :: ms =>
    match st.step m with
    | some st' => steps st' ms
    | none => none

/-- The session holds the key and its ttl has not run out. -/
def Live (i : ℕ) (key : String) (h : Hold) : Prop := st.holds i key = some h ∧ st.clock < h.expiry

/-- The row that stands for the lock. -/
def mark (i : ℕ) (key : String) (h : Hold) : OwnedLock := ⟨⟨key, h.expiry⟩, i, h.turn⟩

/-- No other session's acquire of the key has succeeded since. -/
def Unchallenged (i : ℕ) (key : String) (h : Hold) : Prop :=
  ∀ n j, h.turn ≤ n → st.turns[n]? = some (j, key) → j = i

/-- A move that the locks are made for: a session releases a key before its ttl has run out, or
before another session has acquired it; and a session whose `acquire` meets a lock in force has
committed the locks in force that it holds. -/
def Orderly : LockMove → Prop
  | .release i key => ∀ h, st.holds i key = some h → st.clock < h.expiry ∨ st.Unchallenged i key h
  | .acquire i key _ t => (∃ x ∈ st.store.visible i, x.row.key = key ∧ t < x.row.expiresAt) →
      ∀ key' h, st.Live i key' h → mark i key' h ∈ st.store.committed
  | _ => True

/-- The row has been inserted in its turn. -/
def Logged (x : OwnedLock) : Prop := st.turns[x.turn]? = some (x.owner, x.row.key)

/-- Nobody holds a lock; rows of sessions that are gone may be left. -/
structure Initial : Prop where
  idle : st.store.txn = none
  holds : ∀ i key, st.holds i key = none
  unique : ∀ x ∈ st.store.committed, ∀ y ∈ st.store.committed, x.row.key = y.row.key → x = y
  logged : ∀ x ∈ st.store.committed, st.Logged x

end LockState

/-- The states that orderly moves lead to. -/
inductive LockRun : LockState → Prop
  | start {st : LockState} (h : st.Initial) : LockRun st
  | step {st st' : LockState} (m : LockMove) (h : LockRun st) (ho : st.Orderly m)
      (hs : st.step m = some st') : LockRun st'

/-! ## What the moves do to the table -/

section Moves

variable (st : LockState) (i n : ℕ) (key : String) (ttl : ℤ) (t : Datetime)

/-- The table after the expired row of the key has been deleted. -/
def LockState.swept : List OwnedLock :=
  (st.store.visible i).filter fun x => ¬(x.row.key = key ∧ x.row.expiresAt ≤ t)

theorem run_deleteExpired :
    Act.run (lockReact i n t) Session.empty st.store (execute (.deleteExpiredLock key t)) =
      ((.ok ((st.store.visible i).filter fun x =>
        x.row.key = key && decide (x.row.expiresAt ≤ t)).length, Session.empty.flushed),
        st.store.put i (st.swept i key t)) := by
  rw [execute, Act.run_bind_ok _ _ _ _ (run_flush_nil _ _ _ rfl rfl), run_ask_bind]
  exact Act.run_outcome ..

theorem lockReact_insert (sto : Store (List OwnedLock)) (row : LifecycleLock) :
    lockReact i n t (.flush [.insertLock row]) sto =
      if (sto.visible i).any (·.row.key = row.key) then
        (.error (integrityError "lifecycle_locks.key"), sto.rollback i)
      else (.ok (), sto.put i (sto.visible i ++ [⟨row, i, n⟩])) := by
  by_cases h : (sto.visible i).any (·.row.key = row.key)
  · have hx : OwnedLock.exec i n (sto.visible i) (.insertLock row) =
        .error (integrityError "lifecycle_locks.key") := if_pos h
    have he : OwnedLock.execAll i n (sto.visible i) [.insertLock row] =
        .error (integrityError "lifecycle_locks.key") := by
      rw [OwnedLock.execAll, hx]
      rfl
    rw [if_pos h, lockReact, he]
  · have hx : OwnedLock.exec i n (sto.visible i) (.insertLock row) =
        .ok (sto.visible i ++ [⟨row, i, n⟩], 1) := if_neg h
    have he : OwnedLock.execAll i n (sto.visible i) [.insertLock row] =
        .ok (sto.visible i ++ [⟨row, i, n⟩]) := by
      rw [OwnedLock.execAll, hx]
      rfl
    rw [if_neg h, lockReact, he]

/-- The flush of the lock row after that. -/
theorem run_insertLock (sto : Store (List OwnedLock)) (row : LifecycleLock) :
    Act.run (lockReact i n t) Session.empty.flushed sto (insertLock row) =
      if (sto.visible i).any (·.row.key = row.key) then
        ((.ok false, (Session.empty.expire true).expire false), (sto.rollback i).rollback i)
      else ((.ok true, Session.empty), sto.put i (sto.visible i ++ [⟨row, i, n⟩])) := by
  have hflush : Act.run (lockReact i n t) { Session.empty with pending := [.insertLock row] } sto
      flush = if (sto.visible i).any (·.row.key = row.key) then
        ((.error (integrityError "lifecycle_locks.key"), Session.empty.expire true), sto.rollback i)
      else ((.ok (), Session.empty), sto.put i (sto.visible i ++ [⟨row, i, n⟩])) := by
    have hu : Session.unflushed { Session.empty with pending := [.insertLock row] } =
        [.insertLock row] := rfl
    unfold flush
    rw [Act.run_bind_ok _ _ _ _ (Act.run_state ..), hu]
    rw [if_neg (by simp [Session.empty]), if_neg (by simp), run_ask_bind, lockReact_insert]
    split_ifs <;> rfl
  unfold insertLock
  rw [Act.run_bind_ok (t := { Session.empty with pending := [.insertLock row] }) (δ := sto)
    (a := ()) _ _ _ _ rfl, Act.run_bind, Act.run_attempt, hflush]
  split_ifs <;> rfl

/-- The three ways in which `acquire` ends: the expiry is out of range, the key is locked, or the
lock is taken. -/
theorem acquired_cases :
    (∃ e, st.acquired i key ttl t = (.error e, st.store.put i (st.swept i key t))) ∨
    ((∃ x ∈ st.store.visible i, x.row.key = key ∧ t < x.row.expiresAt) ∧
      st.acquired i key ttl t = (.ok false, st.store.recover)) ∨
    (∀ x ∈ st.swept i key t, x.row.key ≠ key) ∧
      st.acquired i key ttl t = (.ok true, st.store.put i (st.swept i key t ++
        [LockState.mark i key ⟨t + ttl * second, st.turns.length⟩])) := by
  unfold LockState.acquired acquire
  rw [Act.run_bind_ok (a := t) (t := Session.empty) (δ := st.store) _ _ _ _ rfl,
    Act.run_bind_ok _ _ _ _ (run_deleteExpired st i _ key t), Act.run_bind]
  rw [Act.run_outcome]
  cases he : addTimedelta t (ttl * second) with
  | error e => exact .inl ⟨e, rfl⟩
  | ok expiry =>
    obtain rfl := addTimedelta_ok he
    refine .inr ?_
    have hv : (st.store.put i (st.swept i key t)).visible i = st.swept i key t :=
      Store.visible_put_self ..
    dsimp only
    rw [run_insertLock, hv]
    by_cases hany : (st.swept i key t).any (·.row.key = key)
    · rw [if_pos hany]
      refine .inl ⟨?_, ?_⟩
      · obtain ⟨x, hx, hk⟩ := List.any_eq_true.mp hany
        obtain ⟨hx, hexp⟩ := List.mem_filter.mp hx
        have hk : x.row.key = key := of_decide_eq_true hk
        exact ⟨x, hx, hk, by simpa [hk] using hexp⟩
      · rw [Store.rollback_put, Store.rollback_recover]
    · rw [if_neg hany]
      refine .inr ⟨fun x hx hk => hany ?_, rfl⟩
      exact List.any_eq_true.mpr ⟨x, hx, decide_eq_true hk⟩

theorem run_release : (Act.run (lockReact i n t) Session.empty st.store (release key)).2 =
    st.store.put i ((st.store.visible i).filter fun x => x.row.key ≠ key) := by
  rw [release, Act.run_bind_ok (a := ((st.store.visible i).filter fun x => x.row.key = key).length)
    (t := Session.empty.flushed)
    (δ := st.store.put i ((st.store.visible i).filter fun x => x.row.key ≠ key))]
  · rfl
  · rw [execute, Act.run_bind_ok _ _ _ _ (run_flush_nil _ _ _ rfl rfl), run_ask_bind]
    exact Act.run_outcome ..

theorem run_commit :
    (Act.run (lockReact i n t) Session.empty st.store commit).2 = st.store.commit i := by
  rw [commit, Act.run_bind_ok _ _ _ _ (run_flush_nil _ _ _ rfl rfl)]
  rfl

end Moves

/-! ## The invariant -/

namespace LockState

/-- No two rows with one key. -/
def Unique (T : List OwnedLock) : Prop := ∀ x ∈ T, ∀ y ∈ T, x.row.key = y.row.key → x = y

/-- The lock of a session that is in force has its row in the open transaction, if there is one, and
among the committed rows unless it may be new in that transaction; and it is the last that was
acquired on its key. -/
structure Inv (st : LockState) : Prop where
  unique : Unique st.store.committed
  uniqueOpen : ∀ l W, st.store.txn = some (l, W) → Unique W
  logged : ∀ x ∈ st.store.committed, st.Logged x
  loggedOpen : ∀ l W, st.store.txn = some (l, W) → ∀ x ∈ W, st.Logged x
  opened : ∀ l W, st.store.txn = some (l, W) → ∀ i key h, st.Live i key h → mark i key h ∈ W
  durable : ∀ i key h, st.Live i key h → (∀ W, st.store.txn ≠ some (i, W)) →
    mark i key h ∈ st.store.committed
  past : ∀ i key h, st.holds i key = some h → h.turn < st.turns.length
  last : ∀ i j key h h', st.holds i key = some h → st.Live j key h' → i ≠ j → h.turn < h'.turn

variable {st st' : LockState} {i : ℕ} {key : String}

theorem Logged.mono {x : OwnedLock} (h : st.Logged x) (ht : st.turns <+: st'.turns) :
    st'.Logged x := by
  obtain ⟨hi, hx⟩ := List.getElem?_eq_some_iff.mp h
  have := List.prefix_iff_getElem?.mp ht x.turn hi
  rw [hx] at this
  exact this

theorem Inv.unique_visible (h : st.Inv) (i : ℕ) : Unique (st.store.visible i) := by
  rcases ht : st.store.txn with _ | ⟨j, W⟩
  · rw [Store.visible_of_free _ _ ht]
    exact h.unique
  · by_cases hj : j = i
    · subst hj
      rw [Store.visible_of_txn _ _ _ ht]
      exact h.uniqueOpen _ _ ht
    · rw [Store.visible_of_writer_ne _ _ _ _ ht hj]
      exact h.unique

theorem Inv.logged_visible (h : st.Inv) (i : ℕ) : ∀ x ∈ st.store.visible i, st.Logged x := by
  rcases ht : st.store.txn with _ | ⟨j, W⟩
  · rw [Store.visible_of_free _ _ ht]
    exact h.logged
  · by_cases hj : j = i
    · subst hj
      rw [Store.visible_of_txn _ _ _ ht]
      exact h.loggedOpen _ _ ht
    · rw [Store.visible_of_writer_ne _ _ _ _ ht hj]
      exact h.logged

/-- What is in force is visible to whoever may write. -/
theorem Inv.visible (h : st.Inv) {j : ℕ} (hj : st.store.free j) {l : Hold}
    (hl : st.Live i key l) : mark i key l ∈ st.store.visible j := by
  rcases ht : st.store.txn with _ | ⟨k, W⟩
  · rw [Store.visible_of_free _ _ ht]
    exact h.durable i key l hl (by simp [ht])
  · have hk : k = j := by simpa [Store.free, ht] using hj
    subst hk
    rw [Store.visible_of_txn _ _ _ ht]
    exact h.opened k W ht i key l hl

/-- **Mutual exclusion.** -/
theorem Inv.exclusive (h : st.Inv) {i j : ℕ} {l l' : Hold} (hi : st.Live i key l)
    (hj : st.Live j key l') : i = j := by
  by_contra hne
  exact lt_asymm (h.last i j key l l' hi.1 hj hne) (h.last j i key l' l hj.1 hi (Ne.symm hne))

theorem Initial.inv (h : st.Initial) : st.Inv where
  unique := h.unique
  uniqueOpen l W ht := by rw [h.idle] at ht; cases ht
  logged := h.logged
  loggedOpen l W ht := by rw [h.idle] at ht; cases ht
  opened l W ht := by rw [h.idle] at ht; cases ht
  durable i key l hl := by
    have := h.holds i key
    rw [hl.1] at this
    cases this
  past i key l hl := by
    rw [h.holds i key] at hl
    cases hl
  last i j key l l' hl := by
    rw [h.holds i key] at hl
    cases hl

/-- A release in order finds no row of a later holder. -/
theorem Inv.own (h : st.Inv) (hf : st.store.free i) (ho : st.Orderly (.release i key)) {l : Hold}
    (hl : st.holds i key = some l) :
    ∀ x ∈ st.store.visible i, x.row.key = key → x.owner = i ∨ x.turn < l.turn := by
  intro x hx hk
  rcases ho l hl with hlive | hsince
  · have hm : x = mark i key l := h.unique_visible i x hx _ (h.visible hf ⟨hl, hlive⟩) hk
    exact .inl (hm ▸ rfl)
  · rcases Nat.lt_or_ge x.turn l.turn with hlt | hge
    · exact .inr hlt
    · have hlog := h.logged_visible i x hx
      rw [Logged, hk] at hlog
      exact .inl (hsince x.turn x.owner hge hlog)

/-- Session `i` has written the table `W`. -/
theorem Inv.write (h : st.Inv) (hf : st.store.free i) {W : List OwnedLock}
    (hs : st'.store = st.store.put i W) (ht : st.turns <+: st'.turns) (hu : Unique W)
    (hw : ∀ x ∈ W, st'.Logged x)
    (hl : ∀ j k l, st'.Live j k l → mark j k l ∈ W ∧ (j = i ∨ st.Live j k l))
    (hp : ∀ j k l, st'.holds j k = some l → l.turn < st'.turns.length)
    (hn : ∀ j j' k l l', st'.holds j k = some l → st'.Live j' k l' → j ≠ j' → l.turn < l'.turn) :
    st'.Inv where
  unique := by rw [hs]; exact h.unique
  uniqueOpen l W' hW := by
    rw [hs] at hW
    obtain ⟨-, rfl⟩ := Prod.mk.inj (Option.some.inj hW)
    exact hu
  logged := by
    rw [hs]
    exact fun x hx => (h.logged x hx).mono ht
  loggedOpen l W' hW := by
    rw [hs] at hW
    obtain ⟨-, rfl⟩ := Prod.mk.inj (Option.some.inj hW)
    exact hw
  opened l W' hW j k m hlive := by
    rw [hs] at hW
    obtain ⟨-, rfl⟩ := Prod.mk.inj (Option.some.inj hW)
    exact (hl j k m hlive).1
  durable j k m hlive hne := by
    rw [hs] at hne ⊢
    have hji : j ≠ i := by
      rintro rfl
      exact hne W rfl
    refine h.durable j k m ((hl j k m hlive).2.resolve_left hji) fun W' hW => ?_
    simp [Store.free, hW] at hf
    exact hji hf
  past := hp
  last := hn

/-- The locks and their turns are as they were, but for some that are no longer held or in force. -/
structure Fewer (st st' : LockState) : Prop where
  turns : st'.turns = st.turns
  holds : ∀ i key h, st'.holds i key = some h → st.holds i key = some h
  clock : st.clock ≤ st'.clock

theorem Fewer.live (hs : Fewer st st') {h : Hold} (hl : st'.Live i key h) : st.Live i key h :=
  ⟨hs.holds _ _ _ hl.1, lt_of_le_of_lt hs.clock hl.2⟩

theorem Inv.fewer (h : st.Inv) (hs : Fewer st st') :
    (∀ i key l, st'.holds i key = some l → l.turn < st'.turns.length) ∧
    ∀ i j key l l', st'.holds i key = some l → st'.Live j key l' → i ≠ j → l.turn < l'.turn :=
  ⟨fun i key l hl => hs.turns ▸ h.past i key l (hs.holds _ _ _ hl), fun i j key l l' hl hl' hne =>
    h.last i j key l l' (hs.holds _ _ _ hl) (hs.live hl') hne⟩

/-- No transaction is open any more. -/
theorem Inv.closed (h : st.Inv) (hf : Fewer st st') {C : List OwnedLock} (hs : st'.store = ⟨C, none⟩)
    (hu : Unique C) (hw : ∀ x ∈ C, st.Logged x) (hl : ∀ j k l, st'.Live j k l → mark j k l ∈ C) :
    st'.Inv where
  unique := by rw [hs]; exact hu
  uniqueOpen l W ht := by rw [hs] at ht; cases ht
  logged := by
    rw [hs]
    exact fun x hx => (hw x hx).mono (hf.turns ▸ List.prefix_rfl)
  loggedOpen l W ht := by rw [hs] at ht; cases ht
  opened l W ht := by rw [hs] at ht; cases ht
  durable j k l hlive _ := by rw [hs]; exact hl j k l hlive
  past := (h.fewer hf).1
  last := (h.fewer hf).2

/-- The store has not changed. -/
theorem Inv.still (h : st.Inv) (hf : Fewer st st') (hs : st'.store = st.store) : st'.Inv where
  unique := by rw [hs]; exact h.unique
  uniqueOpen := by rw [hs]; exact h.uniqueOpen
  logged := by
    rw [hs]
    exact fun x hx => (h.logged x hx).mono (hf.turns ▸ List.prefix_rfl)
  loggedOpen := by
    rw [hs]
    exact fun l W ht x hx => (h.loggedOpen l W ht x hx).mono (hf.turns ▸ List.prefix_rfl)
  opened l W ht j k m hlive := h.opened l W (hs ▸ ht) j k m (hf.live hlive)
  durable j k m hlive hne := by
    rw [hs] at hne ⊢
    exact h.durable j k m (hf.live hlive) hne
  past := (h.fewer hf).1
  last := (h.fewer hf).2

theorem holds_withHolds {o : Option Hold} {j : ℕ} {k : String} :
    st.withHolds i key o j k = if j = i ∧ k = key then o else st.holds j k := by
  unfold withHolds
  by_cases hj : j = i
  · subst hj
    by_cases hk : k = key
    · subst hk
      simp
    · simp [hk]
  · simp [hj]

/-- A sweep keeps what is in force. -/
theorem Inv.mem_swept (h : st.Inv) (hf : st.store.free i) {t : Datetime} (ht : t ≤ st.clock) {j : ℕ}
    {k : String} {l : Hold} (hl : st.Live j k l) : mark j k l ∈ st.swept i key t := by
  refine List.mem_filter.mpr ⟨h.visible hf hl, ?_⟩
  have : t < l.expiry := lt_of_le_of_lt ht hl.2
  simp [mark, this]

theorem Inv.unique_swept (h : st.Inv) (i : ℕ) (key : String) (t : Datetime) :
    Unique (st.swept i key t) :=
  fun x hx y hy => h.unique_visible i x (List.mem_filter.mp hx).1 y (List.mem_filter.mp hy).1

theorem Inv.logged_swept (h : st.Inv) (i : ℕ) (key : String) (t : Datetime) :
    ∀ x ∈ st.swept i key t, st.Logged x :=
  fun x hx => h.logged_visible i x (List.mem_filter.mp hx).1

theorem step_acquire {ttl : ℤ} {t : Datetime} (hs : st.step (.acquire i key ttl t) = some st') :
    st.store.free i ∧ t ≤ st.clock ∧ st' =
      if (st.acquired i key ttl t).1 = .ok true then
        st.taken i key (t + ttl * second) (st.acquired i key ttl t).2
      else { st with store := (st.acquired i key ttl t).2 } := by
  by_cases hc : st.store.free i ∧ t ≤ st.clock
  · have hs' := (if_pos hc).symm.trans hs
    refine ⟨hc.1, hc.2, ?_⟩
    split_ifs at hs' ⊢
    · exact (Option.some.inj hs').symm
    · exact (Option.some.inj hs').symm
  · have hs' := (if_neg hc).symm.trans hs
    cases hs'

theorem step_release (hs : st.step (.release i key) = some st') :
    st.store.free i ∧ (∃ h, st.holds i key = some h) ∧
      st' = { st with
        store := st.store.put i ((st.store.visible i).filter fun x => x.row.key ≠ key)
        holds := st.withHolds i key none } := by
  by_cases hc : st.store.free i ∧ (st.holds i key).isSome
  · have hs' := (if_pos hc).symm.trans hs
    refine ⟨hc.1, Option.isSome_iff_exists.mp hc.2, ?_⟩
    rw [← run_release st i st.turns.length key st.clock]
    exact (Option.some.inj hs').symm
  · have hs' := (if_neg hc).symm.trans hs
    cases hs'

/-- A key that has been taken had no lock in force. -/
theorem Inv.taken (h : st.Inv) (hf : st.store.free i) {ttl : ℤ} {t : Datetime} (ht : t ≤ st.clock)
    (hfree : ∀ x ∈ st.swept i key t, x.row.key ≠ key) :
    (st.taken i key (t + ttl * second) (st.store.put i (st.swept i key t ++
      [mark i key ⟨t + ttl * second, st.turns.length⟩]))).Inv := by
  have hold : ∀ {j k l}, (st.taken i key (t + ttl * second) (st.store.put i (st.swept i key t ++
      [mark i key ⟨t + ttl * second, st.turns.length⟩]))).holds j k = some l →
      (j = i ∧ k = key ∧ l = ⟨t + ttl * second, st.turns.length⟩) ∨ st.holds j k = some l := by
    intro j k l hl
    simp only [LockState.taken, holds_withHolds] at hl
    split_ifs at hl with hjk
    · exact .inl ⟨hjk.1, hjk.2, (Option.some.inj hl).symm⟩
    · exact .inr hl
  have hother : ∀ {j l}, st.Live j key l → False := fun hl =>
    hfree _ (h.mem_swept hf ht hl) rfl
  refine h.write hf rfl (List.prefix_append _ _) ?_ ?_ ?_ ?_ ?_
  · intro x hx y hy hk
    rcases List.mem_append.mp hx with hx | hx <;> rcases List.mem_append.mp hy with hy | hy
    · exact h.unique_swept i key t x hx y hy hk
    · obtain rfl := List.mem_singleton.mp hy
      exact absurd hk (hfree x hx)
    · obtain rfl := List.mem_singleton.mp hx
      exact absurd hk.symm (hfree y hy)
    · rw [List.mem_singleton.mp hx, List.mem_singleton.mp hy]
  · intro x hx
    rcases List.mem_append.mp hx with hx | hx
    · exact (h.logged_swept i key t x hx).mono (List.prefix_append _ _)
    · obtain rfl := List.mem_singleton.mp hx
      show (st.turns ++ [(i, key)])[st.turns.length]? = some (i, key)
      simp
  · rintro j k l ⟨hl, hclock⟩
    rcases hold hl with ⟨rfl, rfl, rfl⟩ | hl
    · exact ⟨List.mem_append_right _ (List.mem_singleton.mpr rfl), .inl rfl⟩
    · exact ⟨List.mem_append_left _ (h.mem_swept hf ht ⟨hl, hclock⟩), .inr ⟨hl, hclock⟩⟩
  · intro j k l hl
    show l.turn < (st.turns ++ [(i, key)]).length
    rw [List.length_append]
    rcases hold hl with ⟨rfl, rfl, rfl⟩ | hl
    · exact Nat.lt_succ_self _
    · exact Nat.lt_succ_of_lt (h.past j k l hl)
  · rintro j j' k l l' hl ⟨hl', hclock⟩ hne
    rcases hold hl' with ⟨rfl, rfl, rfl⟩ | hold'
    · rcases hold hl with ⟨rfl, -, -⟩ | hl
      · exact absurd rfl hne
      · exact h.past j k l hl
    · rcases hold hl with ⟨-, rfl, -⟩ | hl
      · exact (hother ⟨hold', hclock⟩).elim
      · exact h.last j j' k l l' hl ⟨hold', hclock⟩ hne

theorem Inv.acquire (h : st.Inv) {ttl : ℤ} {t : Datetime}
    (ho : st.Orderly (.acquire i key ttl t)) (hs : st.step (.acquire i key ttl t) = some st') :
    st'.Inv := by
  obtain ⟨hf, ht, rfl⟩ := step_acquire hs
  rcases acquired_cases st i key ttl t with ⟨e, ha⟩ | ⟨hlocked, ha⟩ | ⟨hfree, ha⟩
  · rw [ha, if_neg (by simp)]
    exact h.write hf rfl List.prefix_rfl (h.unique_swept i key t) (h.logged_swept i key t)
      (fun j k l hl => ⟨h.mem_swept hf ht hl, .inr hl⟩) h.past h.last
  · rw [ha, if_neg (by simp)]
    refine h.closed ⟨rfl, fun _ _ _ hl => hl, le_rfl⟩ rfl h.unique h.logged fun j k l hl => ?_
    by_cases hj : j = i
    · subst hj
      exact ho hlocked k l hl
    · refine h.durable j k l hl fun W hW => ?_
      simp [Store.free, hW] at hf
      exact hj hf
  · rw [ha, if_pos rfl]
    exact h.taken hf ht hfree

theorem Inv.release (h : st.Inv) (ho : st.Orderly (.release i key))
    (hs : st.step (.release i key) = some st') : st'.Inv := by
  obtain ⟨hf, ⟨l₀, hl₀⟩, rfl⟩ := step_release hs
  have hold : ∀ {j k l}, st.withHolds i key none j k = some l →
      ¬(j = i ∧ k = key) ∧ st.holds j k = some l := by
    intro j k l hl
    rw [holds_withHolds] at hl
    split_ifs at hl with hjk
    exact ⟨hjk, hl⟩
  have hfewer : Fewer st { st with
      store := st.store.put i ((st.store.visible i).filter fun x => x.row.key ≠ key)
      holds := st.withHolds i key none } := ⟨rfl, fun _ _ _ hl => (hold hl).2, le_rfl⟩
  refine h.write hf rfl List.prefix_rfl ?_ ?_ ?_ (h.fewer hfewer).1 (h.fewer hfewer).2
  · intro x hx y hy
    exact h.unique_visible i x (List.mem_filter.mp hx).1 y (List.mem_filter.mp hy).1
  · exact fun x hx => h.logged_visible i x (List.mem_filter.mp hx).1
  · rintro j k l ⟨hl, hclock⟩
    obtain ⟨hne, held⟩ := hold hl
    have hv := h.visible hf ⟨held, hclock⟩
    refine ⟨List.mem_filter.mpr ⟨hv, ?_⟩, .inr ⟨held, hclock⟩⟩
    have hk : k ≠ key := by
      rintro rfl
      have hji : j ≠ i := fun hj => hne ⟨hj, rfl⟩
      rcases h.own hf ho hl₀ _ hv rfl with hown | hlt
      · exact hji hown
      · exact lt_asymm hlt (h.last i j k l₀ l hl₀ ⟨held, hclock⟩ hji.symm)
    exact decide_eq_true hk

theorem Inv.commit (h : st.Inv) (hs : st.step (.commit i) = some st') : st'.Inv := by
  obtain rfl := Option.some.inj hs
  rcases ht : st.store.txn with _ | ⟨l, W⟩
  · refine h.still ⟨rfl, fun _ _ _ hl => hl, le_rfl⟩ ?_
    rw [run_commit, Store.commit, ht]
  · by_cases hl : l = i
    · subst hl
      refine h.closed (C := W) ⟨rfl, fun _ _ _ hl => hl, le_rfl⟩ ?_ (h.uniqueOpen _ _ ht)
        (h.loggedOpen _ _ ht) (h.opened _ _ ht)
      rw [run_commit, Store.commit, ht]
      simp
    · refine h.still ⟨rfl, fun _ _ _ hl => hl, le_rfl⟩ ?_
      rw [run_commit, Store.commit, ht]
      simp [hl]

theorem Inv.close (h : st.Inv) (hs : st.step (.close i) = some st') : st'.Inv := by
  obtain rfl := Option.some.inj hs
  have hold : ∀ {j k l}, Function.update st.holds i (fun _ => none) j k = some l →
      j ≠ i ∧ st.holds j k = some l := by
    intro j k l hl
    by_cases hj : j = i
    · subst hj
      simp at hl
    · exact ⟨hj, by simpa [hj] using hl⟩
  have hr : (Act.run (lockReact i st.turns.length st.clock) Session.empty st.store rollback).2 =
      st.store.rollback i := rfl
  rcases ht : st.store.txn with _ | ⟨k, W⟩
  · refine h.still ⟨rfl, fun _ _ _ hl => (hold hl).2, le_rfl⟩ ?_
    rw [hr, Store.rollback, ht]
  · by_cases hk : k = i
    · subst hk
      refine h.closed (C := st.store.committed) ⟨rfl, fun _ _ _ hl => (hold hl).2, le_rfl⟩ ?_
        h.unique h.logged fun j key l hl => ?_
      · rw [hr, Store.rollback, ht]
        simp
      · refine h.durable j key l ⟨(hold hl.1).2, hl.2⟩ fun W' hW' => ?_
        rw [ht] at hW'
        exact (hold hl.1).1 (Prod.mk.inj (Option.some.inj hW')).1.symm
    · refine h.still ⟨rfl, fun _ _ _ hl => (hold hl).2, le_rfl⟩ ?_
      rw [hr, Store.rollback, ht]
      simp [hk]

theorem Inv.tick (h : st.Inv) {d : ℕ} (hs : st.step (.tick d) = some st') : st'.Inv := by
  obtain rfl := Option.some.inj hs
  refine h.still ⟨rfl, fun _ _ _ hl => hl, ?_⟩ rfl
  show st.clock ≤ st.clock + d
  simp

end LockState

theorem LockRun.inv {st : LockState} (h : LockRun st) : st.Inv := by
  induction h with
  | start h => exact h.inv
  | step m _ ho hs ih =>
    cases m with
    | acquire i key ttl t => exact ih.acquire ho hs
    | release i key => exact ih.release ho hs
    | commit i => exact ih.commit hs
    | close i => exact ih.close hs
    | tick d => exact ih.tick hs

/-- **Lock ownership.**  Along orderly moves a lock in force has one holder, and a release removes
no row that another session has inserted later. -/
theorem LockRun.ownership {st : LockState} (h : LockRun st) :
    (∀ i j key l l', st.Live i key l → st.Live j key l' → i = j) ∧
    ∀ i key l, st.holds i key = some l → st.Orderly (.release i key) →
      (st.step (.release i key)).isSome →
        ∀ x ∈ st.store.visible i, x.row.key = key → x.owner = i ∨ x.turn < l.turn := by
  refine ⟨fun i j key l l' hi hj => h.inv.exclusive hi hj, fun i key l hl ho hs => ?_⟩
  refine h.inv.own ?_ ho hl
  obtain ⟨st', hs⟩ := Option.isSome_iff_exists.mp hs
  exact (LockState.step_release hs).1

/-! ## Holders that outlive their ttl -/

def nobody : LockState := ⟨⟨[], none⟩, 0, [], fun _ _ => none⟩

theorem nobody_initial : nobody.Initial where
  idle := rfl
  holds _ _ := rfl
  unique _ hx := absurd hx List.not_mem_nil
  logged _ hx := absurd hx List.not_mem_nil

/-- Session 0 overruns its lock and releases it, before session 1 acquires the key. -/
theorem overdue_run : ∃ st, LockRun st ∧ st.Live 1 "orders:reconcile" ⟨600000001, 1⟩ ∧
    (st.step (.release 1 "orders:reconcile")).isSome := by
  have h₁ := LockRun.step (.acquire 0 "orders:reconcile" 300 0) (.start nobody_initial)
    (by rintro ⟨x, hx, -⟩; cases hx) rfl
  have h₂ := LockRun.step (.commit 0) h₁ trivial rfl
  have h₃ := LockRun.step (.tick 300000001) h₂ trivial rfl
  have h₄ := LockRun.step (.release 0 "orders:reconcile") h₃ ?_ rfl
  · have h₅ := LockRun.step (.commit 0) h₄ trivial rfl
    have h₆ := LockRun.step (.acquire 1 "orders:reconcile" 300 300000001) h₅
      (by rintro ⟨x, hx, -⟩; cases hx) rfl
    exact ⟨_, LockRun.step (.commit 1) h₆ trivial rfl, ⟨rfl, by decide⟩, rfl⟩
  · rintro _ ⟨⟩
    refine .inr fun n j _ hlog => ?_
    cases n with
    | zero =>
      cases hlog
      rfl
    | succ n => cases hlog

theorem ownership_overdue : ∃ st : LockState, st.Live 1 "orders:reconcile" ⟨600000001, 1⟩ ∧
    (∀ j l, st.Live j "orders:reconcile" l → 1 = j) ∧
    ∀ x ∈ st.store.visible 1, x.row.key = "orders:reconcile" → x.owner = 1 ∨ x.turn < 1 := by
  obtain ⟨st, hrun, hlive, hstep⟩ := overdue_run
  refine ⟨st, hlive, fun j l hl => hrun.ownership.1 1 j _ _ _ hlive hl, ?_⟩
  refine hrun.ownership.2 1 _ _ hlive.1 (fun l hl => .inl ?_) hstep
  obtain rfl := Option.some.inj (hlive.1.symm.trans hl)
  exact hlive.2

/-- Session 0 overruns its lock, session 1 takes the key over, session 0 releases, and session 2
acquires the key too. -/
def overrun : List LockMove :=
  [.acquire 0 "orders:reconcile" 300 0, .commit 0, .tick 300000001,
    .acquire 1 "orders:reconcile" 300 300000001, .commit 1, .release 0 "orders:reconcile", .commit 0,
    .acquire 2 "orders:reconcile" 300 300000001]

/-- The release has removed the row of session 1: two sessions are in possession at once. -/
theorem overrun_not_exclusive : ∃ st, nobody.steps overrun = some st ∧
    st.Live 1 "orders:reconcile" ⟨600000001, 1⟩ ∧ st.Live 2 "orders:reconcile" ⟨600000001, 2⟩ :=
  ⟨_, rfl, ⟨rfl, by decide⟩, rfl, by decide⟩

end ResellerBot
