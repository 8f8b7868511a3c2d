import Mathlib.Data.Nat.Notation
import Mathlib.Data.List.Nodup

/-!
# ResellerBot.Store — a store with one write transaction at a time

Readers see the committed state; the first write of a session opens the only write transaction,
which works on a copy of the committed state that nobody else sees until it commits.  A write by a
second session has to wait.
-/

namespace Interact

/-- The committed state, and the open write transaction: its session with its working copy. -/
structure Store (T : Type) where
  committed : T
  txn : Option (ℕ × T)

namespace Store

variable {T : Type}

/-- What session `i` reads: its own working copy if it has one. -/
def visible (st : Store T) (i : ℕ) : T :=
  match st.txn with
  | some (j, w) => if j = i then w else st.committed
  | none => st.committed

/-- Session `i` may write: no other session has a write transaction open. -/
def free (st : Store T) (i : ℕ) : Bool :=
  match st.txn with
  | some (j, _) => j = i
  | none => true

def put (st : Store T) (i : ℕ) (w : T) : Store T := { st with txn := some (i, w) }

def commit (st : Store T) (i : ℕ) : Store T :=
  match st.txn with
  | some (j, w) => if j = i then ⟨w, none⟩ else st
  | none => st

def rollback (st : Store T) (i : ℕ) : Store T :=
  match st.txn with
  | some (j, _) => if j = i then { st with txn := none } else st
  | none => st

/-- A restart loses what was not committed. -/
def recover (st : Store T) : Store T := { st with txn := none }

variable (st : Store T) (i j : ℕ) (w : T)

@[simp] theorem visible_put_self : (st.put i w).visible i = w := by simp [put, visible]

@[simp] theorem visible_put_of_ne (h : j ≠ i) : (st.put i w).visible j = st.committed := by
  simp [put, visible, Ne.symm h]

@[simp] theorem committed_put : (st.put i w).committed = st.committed := rfl

@[simp] theorem committed_recover : st.recover.committed = st.committed := rfl

@[simp] theorem rollback_put : (st.put i w).rollback i = st.recover := by
  simp [put, rollback, recover]

@[simp] theorem rollback_recover : st.recover.rollback i = st.recover := rfl

@[simp] theorem put_put (w' : T) : (st.put i w).put i w' = st.put i w' := rfl

@[simp] theorem commit_put : (st.put i w).commit i = ⟨w, none⟩ := by
  simp [put, commit]

@[simp] theorem txn_put : (st.put i w).txn = some (i, w) := rfl

@[simp] theorem txn_recover : st.recover.txn = none := rfl

@[simp] theorem visible_recover : st.recover.visible i = st.committed := rfl

theorem visible_of_txn (h : st.txn = some (i, w)) : st.visible i = w := by
  simp [visible, h]

theorem visible_of_free (h : st.txn = none) : st.visible i = st.committed := by
  simp [visible, h]

/-- A session that is not the writer reads the committed state. -/
theorem visible_of_writer_ne (h : st.txn = some (j, w)) (hj : j ≠ i) :
    st.visible i = st.committed := by
  simp [visible, h, hj]

@[simp] theorem committed_commit : (st.commit i).committed = st.visible i := by
  rcases h : st.txn with _ | ⟨k, u⟩
  · simp [commit, visible, h]
  · by_cases hk : k = i <;> simp [commit, visible, h, hk]

@[simp] theorem committed_rollback : (st.rollback i).committed = st.committed := by
  rcases h : st.txn with _ | ⟨k, u⟩
  · simp [rollback, h]
  · by_cases hk : k = i <;> simp [rollback, h, hk]

@[simp] theorem visible_rollback_self : (st.rollback i).visible i = st.committed := by
  rcases h : st.txn with _ | ⟨k, u⟩
  · simp [rollback, visible, h]
  · by_cases hk : k = i <;> simp [rollback, visible, h, hk]

@[simp] theorem visible_commit_self : (st.commit i).visible i = st.visible i := by
  rcases h : st.txn with _ | ⟨k, u⟩
  · simp [commit, visible, h]
  · by_cases hk : k = i <;> simp [commit, visible, h, hk]

/-! ## Predicates of the state -/

/-- `P` of the committed state and of the working copy of the open transaction. -/
def All (P : T → Prop) (st : Store T) : Prop :=
  P st.committed ∧ ∀ j w, st.txn = some (j, w) → P w

namespace All

variable {P : T → Prop} {st i w}

theorem visible (h : st.All P) (i : ℕ) : P (st.visible i) := by
  rcases ht : st.txn with _ | ⟨j, w⟩
  · rw [visible_of_free st i ht]
    exact h.1
  · by_cases hj : j = i
    · rw [visible_of_txn st i w (hj ▸ ht)]
      exact h.2 j w ht
    · rw [visible_of_writer_ne st i j w ht hj]
      exact h.1

theorem put (h : st.All P) (hw : P w) : (st.put i w).All P := by
  refine ⟨h.1, fun j w' ht => ?_⟩
  rw [txn_put, Option.some.injEq, Prod.mk.injEq] at ht
  exact ht.2 ▸ hw

theorem recover (h : st.All P) : st.recover.All P := ⟨h.1, fun _ _ ht => nomatch ht⟩

theorem commit (h : st.All P) : (st.commit i).All P := by
  unfold Store.commit
  split
  · next j w ht =>
    split_ifs
    · exact ⟨h.2 j w ht, fun _ _ ht' => nomatch ht'⟩
    · exact h
  · exact h

theorem rollback (h : st.All P) : (st.rollback i).All P := by
  unfold Store.rollback
  split
  · split_ifs
    · exact h.recover
    · exact h
  · exact h

end All

end Store

end Interact

namespace Interact

/-! ## Keyed rows -/

namespace Rows

variable {α : Type} (key : α → ℕ)

/-- The row with primary key `i`. -/
def get (rows : List α) (i : ℕ) : Option α := rows.find? fun r => key r = i

/-- `f` applied to the row with primary key `i`. -/
def set (rows : List α) (i : ℕ) (f : α → α) : List α :=
  rows.map fun r => if key r = i then f r else r

/-- The next primary key: one more than the largest in use. -/
def next (rows : List α) : ℕ := (rows.map key).foldr max 0 + 1

/-- No two rows have the same primary key. -/
def Keyed (rows : List α) : Prop := (rows.map key).Nodup

variable {key} {rows : List α} {i : ℕ} {f : α → α} {r r' : α}

theorem mem_of_get (h : get key rows i = some r) : r ∈ rows ∧ key r = i :=
  ⟨List.mem_of_find?_eq_some h, by simpa using List.find?_some h⟩

theorem any_of_get (h : get key rows i = some r) : rows.any (key · = i) = true := by
  obtain ⟨hr, hk⟩ := mem_of_get h
  exact List.any_eq_true.mpr ⟨r, hr, decide_eq_true hk⟩

theorem get_set (h : get key rows i = some r) (hf : key (f r) = i) :
    get key (set key rows i f) i = some (f r) := by
  unfold Rows.get Rows.set at *
  induction rows with
  | nil => cases h
  | cons a rows ih =>
    rw [List.find?_cons] at h
    rw [List.map_cons, List.find?_cons]
    by_cases ha : key a = i
    · rw [decide_eq_true ha] at h
      cases h
      rw [if_pos ha, decide_eq_true hf]
    · rw [decide_eq_false ha] at h
      rw [if_neg ha, decide_eq_false ha]
      exact ih h

theorem get_set_of_ne {j : ℕ} (hf : ∀ r, key (f r) = key r) (hj : j ≠ i) :
    get key (set key rows i f) j = get key rows j := by
  unfold Rows.get Rows.set
  induction rows with
  | nil => rfl
  | cons a rows ih =>
    rw [List.map_cons, List.find?_cons, List.find?_cons, ih]
    by_cases ha : key a = i
    · rw [if_pos ha, hf, ha, decide_eq_false (Ne.symm hj)]
    · rw [if_neg ha]

theorem get_append (x : α) (h : get key rows i = some r) : get key (rows ++ [x]) i = some r := by
  unfold Rows.get at *
  rw [List.find?_append, h, Option.some_or]

theorem mem_set : r' ∈ set key rows i f ↔
    (∃ r ∈ rows, key r = i ∧ r' = f r) ∨ (r' ∈ rows ∧ key r' ≠ i) := by
  constructor
  · intro h
    obtain ⟨r, hr, rfl⟩ := List.mem_map.mp h
    by_cases hk : key r = i
    · exact .inl ⟨r, hr, hk, if_pos hk⟩
    · exact .inr ⟨by rwa [if_neg hk], by rwa [if_neg hk]⟩
  · rintro (⟨r, hr, hk, rfl⟩ | ⟨hr, hk⟩)
    · exact List.mem_map.mpr ⟨r, hr, if_pos hk⟩
    · exact List.mem_map.mpr ⟨r', hr, if_neg hk⟩

theorem Keyed.eq (h : Keyed key rows) (hr : r ∈ rows) (hr' : r' ∈ rows) (hk : key r = key r') :
    r = r' :=
  List.inj_on_of_nodup_map h hr hr' hk

theorem Keyed.get (h : Keyed key rows) (hr : r ∈ rows) : get key rows (key r) = some r := by
  cases hg : Rows.get key rows (key r) with
  | none => exact absurd (List.find?_eq_none.mp hg r hr) (by simp)
  | some r' =>
    obtain ⟨hm, hk⟩ := mem_of_get hg
    rw [h.eq hm hr hk]

theorem map_set (hf : ∀ r, key (f r) = key r) : (set key rows i f).map key = rows.map key := by
  unfold Rows.set
  rw [List.map_map]
  refine List.map_congr_left fun r _ => ?_
  by_cases hk : key r = i <;> simp [hk, hf]

theorem Keyed.set (h : Keyed key rows) (hf : ∀ r, key (f r) = key r) :
    Keyed key (set key rows i f) := by
  rw [Keyed, map_set hf]
  exact h

theorem lt_next (h : r ∈ rows) : key r < next key rows := by
  induction rows with
  | nil => simp at h
  | cons a rows ih =>
    rcases List.mem_cons.mp h with rfl | h
    · simp only [next, List.map_cons, List.foldr_cons]; omega
    · have := ih h
      simp only [next, List.map_cons, List.foldr_cons] at this ⊢; omega

theorem Keyed.append (h : Keyed key rows) (hk : ∀ r' ∈ rows, key r' ≠ key r) :
    Keyed key (rows ++ [r]) := by
  rw [Keyed, List.map_append, List.nodup_append]
  refine ⟨h, by simp, ?_⟩
  intro a ha b hb
  obtain ⟨r', hr', rfl⟩ := List.mem_map.mp ha
  obtain rfl : b = key r := by simpa using hb
  exact hk r' hr'

end Rows

end Interact
