import ResellerBot.Contract.Spec
import ResellerBot.Database.Run

/-!
# ResellerBot.Contract.Session — the contract of the session operations

One rule for each operation of `ResellerBot.Database.Session`, from which the rules of the handlers
and jobs are put together.
-/

open Interact

namespace ResellerBot

variable {k : Role} {sells : Product → Prop} {α : Type} {P P' : Session → View → Prop}
  {X : Err → Session → View → Prop}

/-- A triple under the contract. -/
abbrev Keeps (k : Role) (sells : Product → Prop) (P : Session → View → Prop) (m : Bot α)
    (Q : α → Session → View → Prop) (X : Err → Session → View → Prop) : Prop :=
  Act.Holds (contract k sells) P m Q X

/-- A flush is allowed now. -/
def Ready (k : Role) (sells : Product → Prop) (s : Session) (v : View) : Prop :=
  s.broken = false → FlushOk k sells v s.unflushed

theorem Keeps.ask {e : Ev} {Q : Resp e → Session → View → Prop}
    (hpre : ∀ s v, P s v → Allowed k sells v e)
    (hQ : ∀ s v r, P s v → Answered sells e r → Q r s (v.after e r)) :
    Keeps k sells P (ask e) Q X :=
  Act.Holds.request hpre fun s v r _ hP hn => hn.1 ▸ hQ s v r hP hn.2

/-! ## Flushes, queries and statements -/

theorem ready_expire (s : Session) (b : Bool) (v : View) : Ready k sells (s.expire b) v :=
  fun _ => trivial

@[simp] theorem View.afterFlush_cons (v : View) (st : Stmt) (sts : List Stmt) :
    v.afterFlush (st :: sts) = (v.wroteAll (st :: sts)).begun := rfl

theorem Keeps.flush {Q : Session → View → Prop}
    (hok : ∀ s v, P s v → Ready k sells s v)
    (hQ : ∀ s v, P s v → s.broken = false → Q s.flushed (v.afterFlush s.unflushed))
    (hlost : ∀ e s v, P s v → s.broken = false → X e (s.expire true) .start)
    (hbroken : ∀ s v, P s v → s.broken = true → X pendingRollbackError s v) :
    Keeps k sells P flush (fun _ => Q) X := by
  intro s v hP
  show Ok _ (ResellerBot.flush s) _ v
  unfold ResellerBot.flush
  simp only [Act.state, bind, Act.bind, Prog.bind]
  cases hb : s.broken with
  | true => exact hbroken s v hP hb
  | false =>
    have hok' := hok s v hP hb
    have hQ' := hQ s v hP hb
    cases hu : s.unflushed with
    | nil =>
      rw [hu] at hQ'
      exact hQ'
    | cons st sts =>
      rw [hu] at hok' hQ'
      refine ⟨hok', ?_⟩
      rintro (e | _) v' ⟨rfl, -⟩
      · exact hlost e s v hP hb
      · exact hQ'

theorem Keeps.outcome {r : Except Err α} {Q : α → Session → View → Prop}
    (hQ : ∀ a, r = .ok a → ∀ s v, P s v → Q a s v)
    (hX : ∀ e, r = .error e → ∀ s v, P s v → X e s v) :
    Keeps k sells P (Act.outcome r) Q X :=
  Act.Holds.outcome hQ hX

/-- What a state becomes by a successful flush. -/
def Flushed (P : Session → View → Prop) (s : Session) (v : View) : Prop :=
  ∃ s₀ v₀, P s₀ v₀ ∧ s₀.broken = false ∧ s = s₀.flushed ∧ v = v₀.afterFlush s₀.unflushed

theorem Keeps.flush' (hok : ∀ s v, P s v → Ready k sells s v)
    (hlost : ∀ e s v, P s v → s.broken = false → X e (s.expire true) .start)
    (hbroken : ∀ s v, P s v → s.broken = true → X pendingRollbackError s v) :
    Keeps k sells P ResellerBot.flush (fun _ => Flushed P) X :=
  .flush hok (fun s v hP hb => ⟨s, v, hP, hb, rfl, rfl⟩) hlost hbroken

theorem Keeps.query {q : Query} {Q : q.Result → Session → View → Prop}
    (hok : ∀ s v, P s v → Ready k sells s v)
    (hQ : ∀ s v r, Flushed P s v → q.Fits sells r → Q r s (v.read q r))
    (herr : ∀ e s v, Flushed P s v → X e s v)
    (hlost : ∀ e s v, P s v → s.broken = false → X e (s.expire true) .start)
    (hbroken : ∀ s v, P s v → s.broken = true → X pendingRollbackError s v) :
    Keeps k sells P (query q) Q X := by
  refine (Keeps.flush' hok hlost hbroken).bind fun _ => ?_
  intro s v hF
  refine ⟨trivial, ?_⟩
  rintro (e | r) v' ⟨rfl, hfit⟩
  · exact herr e s _ hF
  · exact hQ s v r hF hfit

theorem Keeps.execute {st : Stmt} {Q : ℕ → Session → View → Prop}
    (hok : ∀ s v, P s v → Ready k sells s v)
    (hst : ∀ s v, Flushed P s v → ExecuteOk k v st)
    (hQ : ∀ s v n, Flushed P s v → Q n s (v.executed st (.ok n)))
    (herr : ∀ e s v, Flushed P s v → X e s v)
    (hlost : ∀ e s v, P s v → s.broken = false → X e (s.expire true) .start)
    (hbroken : ∀ s v, P s v → s.broken = true → X pendingRollbackError s v) :
    Keeps k sells P (execute st) Q X := by
  refine (Keeps.flush' hok hlost hbroken).bind fun _ => ?_
  intro s v hF
  refine ⟨hst s v hF, ?_⟩
  rintro (e | n) v' ⟨rfl, -⟩
  · exact herr e s _ hF
  · exact hQ s v n hF

theorem Keeps.commit {Q : Session → View → Prop}
    (hok : ∀ s v, P s v → Ready k sells s v)
    (hQ : ∀ s v, Flushed P s v → Q s v.saved)
    (hlost : ∀ e s v, P s v ∨ Flushed P s v → X e (s.expire true) .start)
    (hbroken : ∀ s v, P s v → s.broken = true → X pendingRollbackError s v) :
    Keeps k sells P commit (fun _ => Q) X := by
  refine (Keeps.flush' hok (fun e s v hP _ => hlost e s v (.inl hP)) hbroken).bind fun _ => ?_
  intro s v hF
  refine ⟨trivial, ?_⟩
  rintro (e | _) v' ⟨rfl, -⟩
  · exact hlost e s v (.inr hF)
  · exact hQ s v hF

theorem Keeps.rollback {Q : Session → View → Prop} (hQ : ∀ s v, P s v → Q (s.expire false) .start) :
    Keeps k sells P rollback (fun _ => Q) X := by
  intro s v hP
  refine ⟨trivial, ?_⟩
  rintro _ v' ⟨rfl, -⟩
  exact hQ s v hP

/-! ## Objects -/

section Slots

variable {sl : Slot α}

theorem Keeps.read {Q : α → Session → View → Prop}
    (hQ : ∀ s v ob, P s v → sl.get s = some ob → Q ob.cur s v)
    (hX : ∀ e s v, P s v → sl.get s = none → X e s v) : Keeps k sells P sl.read Q X := by
  intro s v hP
  show Ok _ (sl.read s) _ v
  unfold Slot.read
  simp only [Act.state, bind, Act.bind, Prog.bind]
  cases h : sl.get s with
  | some ob => exact hQ s v ob hP h
  | none => exact hX _ s v hP h

theorem Keeps.assign {f : α → α} {Q : Session → View → Prop}
    (hQ : ∀ s v, P s v → Q (sl.put s ((sl.get s).map fun ob => ⟨ob.db, f ob.cur⟩)) v) :
    Keeps k sells P (sl.assign f) (fun _ => Q) X :=
  Act.Holds.modify hQ

/-- The session after another object has been put into a variable. -/
def Session.holding (s : Session) (sl : Slot α) (ob : Obj α) : Session :=
  sl.put { s with pending := s.pending ++ s.stmtsOf sl } (some ob)

theorem Keeps.hold {ob : Obj α} {Q : Session → View → Prop}
    (hQ : ∀ s v, P s v → Q (s.holding sl ob) v) : Keeps k sells P (sl.hold ob) (fun _ => Q) X :=
  Act.Holds.modify hQ

theorem Keeps.forget {Q : Session → View → Prop}
    (hQ : ∀ s v, P s v → Q (sl.put { s with pending := s.pending ++ s.stmtsOf sl } none) v) :
    Keeps k sells P sl.forget (fun _ => Q) X :=
  Act.Holds.modify hQ

theorem Keeps.holdLoaded {ep : ℕ} {row : α} {Q : Session → View → Prop}
    (hQ : ∀ s v, P s v → s.epoch = ep → Q (s.holding sl ⟨some row, row⟩) v)
    (hX : ∀ e s v, P s v → s.epoch ≠ ep → X e s v) :
    Keeps k sells P (sl.holdLoaded ep row) (fun _ => Q) X := by
  intro s v hP
  show Ok _ (sl.holdLoaded ep row s) _ v
  unfold Slot.holdLoaded
  simp only [Act.state, bind, Act.bind, Prog.bind]
  split
  · next h => exact hQ s v hP h
  · next h => exact hX _ s v hP h

theorem Keeps.load {select : Bot (Option α)} {R Q : Option α → Session → View → Prop}
    (hs : Keeps k sells P select R X)
    (hQ : ∀ row s v, R (some row) s v → Q (some row) (s.holding sl ⟨some row, row⟩) v)
    (hnone : ∀ s v, R none s v → Q none s v) : Keeps k sells P (sl.load select) Q X := by
  refine hs.bind fun row => ?_
  cases row with
  | none => exact .pure hnone
  | some row => exact (Keeps.hold (hQ row)).bind fun _ => .pure fun _ _ h => h

theorem Keeps.getByKey {key : α → ℕ} {i : ℕ} {select : Bot (Option α)}
    {Q : Option α → Session → View → Prop}
    (hheld : ∀ s v ob, P s v → sl.get s = some ob → key ob.cur = i → Q (some ob.cur) s v)
    (hload : Keeps k sells (fun s v => P s v ∧ ∀ ob, sl.get s = some ob → key ob.cur ≠ i)
      (sl.load select) Q X) :
    Keeps k sells P (sl.getByKey key i select) Q X := by
  intro s v hP
  show Ok _ (sl.getByKey key i select s) _ v
  unfold Slot.getByKey
  simp only [Act.state, bind, Act.bind, Prog.bind]
  cases h : sl.get s with
  | none => exact hload s v ⟨hP, fun ob hob => absurd (h.symm.trans hob) (by simp)⟩
  | some ob =>
    by_cases hk : key ob.cur = i
    · simp only [hk, if_true]
      exact hheld s v ob hP h hk
    · simp only [hk, if_false]
      refine hload s v ⟨hP, fun ob' hob' => ?_⟩
      rw [← Option.some.inj (h.symm.trans hob')]
      exact hk

end Slots

/-! ## Other requests -/

theorem Keeps.now {Q : Datetime → Session → View → Prop} (hQ : ∀ t s v, P s v → Q t s v) :
    Keeps k sells P now Q X :=
  Keeps.ask (fun _ _ _ => trivial) fun s v t hP _ => hQ t s v hP

theorem Keeps.add {st : Stmt} {Q : Session → View → Prop}
    (hQ : ∀ s v, P s v → Q { s with pending := s.pending ++ [st] } v) :
    Keeps k sells P (add st) (fun _ => Q) X :=
  Act.Holds.modify hQ

theorem Keeps.sendMessage {chat : ℤ} (hX : ∀ e s v, P s v → X e s v) :
    Keeps k sells P (sendMessage chat) (fun _ => P) X := by
  refine (Keeps.ask (e := .send chat) (Q := fun _ => P) (fun _ _ _ => trivial)
    fun s v r hP _ => hP).bind fun r => ?_
  exact .outcome (fun _ _ _ _ h => h) fun e _ s v h => hX e s v h

theorem Keeps.call {why : Cause} {c : Call} {Q : c.Result → Session → View → Prop}
    (hpre : ∀ s v, P s v → c.writesAdmin → CallOk k v why c)
    (hQ : ∀ r s v, P s v → callFits c (.ok r) → Q r s (v.called c (.ok r)))
    (hX : ∀ e s v, P s v → X e s (v.called c (.error e))) : Keeps k sells P (call why c) Q X := by
  intro s v hP
  refine ⟨hpre s v hP, ?_⟩
  rintro (e | r) v' ⟨rfl, hfit⟩
  · exact hX e s v hP
  · exact hQ r s v hP hfit

theorem Keeps.getAdmin {username : Option String} {Q : Option Admin → Session → View → Prop}
    (hnone : ∀ s v, P s v → Q none s (v.answered username none))
    (hsome : ∀ a s v, P s v → username = some a.username →
      Q (some a) s (v.answered username (some a)))
    (hX : ∀ e s v, P s v → X e s v) : Keeps k sells P (ResellerBot.getAdmin username) Q X := by
  refine .call (fun _ _ _ h => absurd h (by simp [Call.writesAdmin])) ?_ fun e s v hP => hX e s v hP
  rintro (_ | a) s v hP hfit
  · exact hnone s v hP
  · exact hsome a s v hP (hfit a rfl)

theorem Keeps.notify {chat : ℤ} : Keeps k sells P (notify chat) (fun _ => P) X := by
  refine ((Keeps.sendMessage (X := fun _ => P) fun _ _ _ h => h).attempt).bind fun r => ?_
  rcases r with e | _
  · exact .pure fun _ _ h => h
  · exact .pure fun _ _ h => h

theorem Keeps.notifyOwners {owners : List ℤ} :
    Keeps k sells P (notifyOwners owners) (fun _ => P) X :=
  Act.Holds.forEach (fun _ => Keeps.notify.bind fun _ => .pure fun _ _ h => h) owners

theorem Keeps.sendMessages {chats : List ℤ} (hX : ∀ e s v, P s v → X e s v) :
    Keeps k sells P (Act.forEach ResellerBot.sendMessage chats) (fun _ => P) X :=
  Act.Holds.forEach (fun _ => Keeps.sendMessage hX) chats

/-! ## Sessions -/

/-- A session in which nothing has happened. -/
def Opened (s : Session) (v : View) : Prop := s = Session.empty ∧ v = .start

/-- Nothing is known, and no transaction is open. -/
def Outside (_ : Session) (v : View) : Prop := v = .start

theorem Opened.ready {s : Session} {v : View} (h : Opened s v) : Ready k sells s v := by
  rw [h.1]; exact fun _ => trivial

theorem Keeps.inSession {m : Bot α} {R : α → Prop}
    (hm : Keeps k sells Opened m (fun a _ _ => R a) fun _ _ _ => True) :
    Keeps k sells Outside (inSession m) (fun a s v => R a ∧ Outside s v) fun _ => Outside := by
  refine (Act.Holds.modify (Q := fun _ => Opened) fun s v h => ⟨rfl, h⟩).bind fun _ => ?_
  refine hm.attempt.bind fun r => ?_
  refine (Keeps.rollback (Q := fun s v => (∀ a, r = .ok a → R a) ∧ Outside s v) ?_).bind fun _ => ?_
  · rintro s v h
    refine ⟨?_, rfl⟩
    rintro a rfl
    exact h
  · exact Keeps.outcome (fun a ha s v h => ⟨h.1 a ha, h.2⟩) fun _ _ _ _ h => h.2

theorem Keeps.inTransaction {m : Bot α} {R : α → Prop}
    (hm : Keeps k sells Opened m (fun a s v => R a ∧ Ready k sells s v) fun _ _ _ => True) :
    Keeps k sells Outside (inTransaction m) (fun a s v => R a ∧ Outside s v) fun _ => Outside := by
  refine .inSession (hm.bind fun a => ?_)
  refine (Keeps.commit (Q := fun _ _ => R a) (fun _ _ h => h.2) ?_ (fun _ _ _ _ => trivial)
    fun _ _ _ _ => trivial).bind fun _ => .pure fun _ _ h => h
  rintro s v ⟨s₀, v₀, h, -⟩
  exact h.1

/-! ## Locks -/

theorem Flushed.unflushed {s : Session} {v : View} (h : Flushed P s v) : s.unflushed = [] := by
  obtain ⟨s₀, v₀, -, -, rfl, -⟩ := h
  exact unflushed_flushed s₀

theorem ready_of_unflushed {s : Session} {v : View} (h : s.unflushed = []) : Ready k sells s v :=
  fun _ => by rw [h]; exact trivial

theorem Flushed.ready {s : Session} {v : View} (h : Flushed P s v) : Ready k sells s v :=
  ready_of_unflushed h.unflushed

theorem Flushed.broken {s : Session} {v : View} (h : Flushed P s v) : s.broken = false := by
  obtain ⟨s₀, v₀, -, hb, rfl, -⟩ := h
  exact hb

/-- The state of a session that has just acquired a lock. -/
def Acquired (P : Session → View → Prop) (s : Session) (v : View) : Prop :=
  ∃ v₀, Flushed P s v₀ ∧ v = v₀.begun

/-- A session that has lost everything since `P` held. -/
def Refused (P : Session → View → Prop) (s : Session) (v : View) : Prop :=
  ∃ s₀ v₀, P s₀ v₀ ∧ s₀.epoch < s.epoch ∧ s = { Session.empty with epoch := s.epoch } ∧ v = .start

theorem Acquired.ready {s : Session} {v : View} (h : Acquired P s v) : Ready k sells s v := by
  obtain ⟨v₀, h, rfl⟩ := h
  exact ready_of_unflushed h.unflushed

theorem Refused.ready {s : Session} {v : View} (h : Refused P s v) : Ready k sells s v := by
  obtain ⟨s₀, v₀, -, -, hs, -⟩ := h
  rw [hs]; exact fun _ => trivial

/-- The flush of the lock row: it is won, or everything is lost, or an error is left behind. -/
theorem Keeps.insertLock {row : LifecycleLock} :
    Keeps k sells (Acquired P) (insertLock row)
      (fun won => if won then Acquired P else Refused P) fun _ => Ready k sells := by
  let A (s : Session) (v : View) : Prop :=
    ∃ s₀, Acquired P s₀ v ∧ s = { s₀ with pending := s₀.pending ++ [.insertLock row] }
  have hA : ∀ s v, A s v → s.unflushed = [.insertLock row] ∧ s.broken = false ∧
      Acquired P s.flushed v ∧ ∃ s₀ v₀, P s₀ v₀ ∧ s₀.epoch = s.epoch := by
    rintro s v ⟨s₀, ⟨v₀, ⟨s', v', hP, hb, rfl, rfl⟩, rfl⟩, rfl⟩
    refine ⟨?_, hb, ⟨_, ⟨s', v', hP, hb, flushed_flushed s', rfl⟩, rfl⟩, s', v', hP, rfl⟩
    obtain ⟨h1, h2, h3, h4, h5⟩ := stmtsOf_flushed s'
    simp only [Session.unflushed, Session.stmtsOf] at *
    simp only [Slot.order, Slot.reseller, Slot.payment, Slot.trial, Slot.user] at *
    rw [h1, h2, h3, h4, h5]
    rfl
  refine (Keeps.add (Q := A) fun s v h => ⟨s, h, rfl⟩).bind fun _ => ?_
  refine (Keeps.flush (Q := Acquired P) (X := fun _ s v => ∃ s₀ v₀, P s₀ v₀ ∧ s₀.epoch < s.epoch ∧
      s = { Session.empty with epoch := s.epoch, broken := true } ∧ v = .start)
    ?_ ?_ ?_ ?_).attempt.bind fun r => ?_
  · intro s v h _
    rw [(hA s v h).1]
    exact ⟨trivial, trivial⟩
  · intro s v h _
    obtain ⟨hu, -, ⟨v₀, hF, rfl⟩, -⟩ := hA s v h
    rw [hu]
    exact ⟨v₀, hF, rfl⟩
  · intro e s v h _
    obtain ⟨-, -, -, s₀, v₀, hP, he⟩ := hA s v h
    exact ⟨s₀, v₀, hP, by simp [Session.expire, he], rfl, rfl⟩
  · intro s v h hb
    simp [(hA s v h).2.1] at hb
  · rcases r with e | _
    · by_cases hk : e.kind = .integrity
      · simp only [hk, if_true]
        refine (Keeps.rollback (Q := Refused P) ?_).bind fun _ => .pure fun _ _ h => by simpa using h
        rintro s v ⟨s₀, v₀, hP, he, -, -⟩
        exact ⟨s₀, v₀, hP, Nat.lt_succ_of_lt he, rfl, rfl⟩
      · simp only [hk, if_false]
        refine .raise ?_
        rintro s v ⟨s₀, v₀, -, -, hs, -⟩
        rw [hs]; exact fun h => absurd h (by simp)
    · exact .pure fun _ _ h => by simpa using h

theorem Keeps.acquire {key : String} {ttl : ℤ} (hP : ∀ s v, P s v → Ready k sells s v) :
    Keeps k sells P (acquire key ttl) (fun won => if won then Acquired P else Refused P)
      fun _ => Ready k sells := by
  refine (Keeps.now (Q := fun _ => P) fun _ _ _ h => h).bind fun t => ?_
  refine (Keeps.execute (Q := fun _ => Acquired P) hP (fun _ _ _ => by trivial)
    (fun s v n h => ⟨v, h, rfl⟩) (fun _ _ _ h => h.ready) (fun _ s _ _ _ => ready_expire s _ _)
    fun s v h _ => hP s v h).bind fun _ => ?_
  exact (Keeps.outcome (Q := fun _ => Acquired P) (fun _ _ _ _ h => h)
    fun _ _ _ _ h => h.ready).bind fun e => Keeps.insertLock

theorem Keeps.release {key : String} {Q : Session → View → Prop}
    (hP : ∀ s v, P s v → Ready k sells s v) (hQ : ∀ s v, Flushed P s v → Q s v.begun) :
    Keeps k sells P (release key) (fun _ => Q) fun _ => Ready k sells := by
  refine Act.Holds.bind (Q := fun _ => Q) ?_ fun _ => .pure fun _ _ h => h
  exact Keeps.execute hP (fun _ _ _ => trivial) (fun s v _ h => hQ s v h)
    (fun _ _ _ h => h.ready) (fun _ s _ _ _ => ready_expire s _ _) fun s v h _ => hP s v h

/-- A locked body runs in a session that is flushed, or not at all in one that has lost
everything. -/
theorem Keeps.locked {key : String} {ttl : ℤ} {body : Bool → Bot Unit}
    {Q R : Session → View → Prop} (hP : ∀ s v, P s v → Ready k sells s v)
    (hwon : Keeps k sells (Acquired P) (body true) (fun _ => Q) fun _ => Ready k sells)
    (hQ : ∀ s v, Q s v → Ready k sells s v) (hQR : ∀ s v, Flushed Q s v → R s v.begun)
    (hrefused : Keeps k sells (Refused P) (body false) (fun _ => R) fun _ => Ready k sells) :
    Keeps k sells P (locked key ttl body) (fun _ => R) fun _ => Ready k sells := by
  refine (Keeps.acquire hP).bind fun won => ?_
  cases won with
  | true =>
    refine hwon.attempt.bind fun r => ?_
    rcases r with e | _
    · refine (Keeps.release (Q := Ready k sells) (fun _ _ h => h) ?_).bind fun _ =>
        Keeps.outcome (fun _ h => absurd h (by simp)) fun _ _ _ _ h => h
      exact fun s v h => ready_of_unflushed h.unflushed
    · exact (Keeps.release (Q := R) hQ hQR).bind fun _ =>
        Keeps.outcome (fun _ _ _ _ h => h) fun _ h => absurd h (by simp)
  | false =>
    refine hrefused.attempt.bind fun r => ?_
    rcases r with e | _
    · exact (Act.Holds.pure (Q := fun _ => Ready k sells) fun _ _ h => h).bind fun _ =>
        Keeps.outcome (fun _ h => absurd h (by simp)) fun _ _ _ _ h => h
    · exact (Act.Holds.pure (Q := fun _ => R) fun _ _ h => h).bind fun _ =>
        Keeps.outcome (fun _ _ _ _ h => h) fun _ h => absurd h (by simp)

/-! ## Usernames and provisioning -/

theorem Keeps.drawCandidate {telegramUsername : Option String} :
    Keeps k sells P (drawCandidate telegramUsername) (fun name s v => name ≠ "" ∧ P s v) X := by
  refine (Keeps.ask (e := .randbelow 9000) (Q := fun _ => P) (fun _ _ _ => trivial)
    fun s v _ h _ => h).bind fun n => ?_
  exact .pure fun s v h => ⟨usernameCandidate_ne _ _, h⟩

theorem Keeps.generatePassword {forbidden : List String} :
    Keeps k sells P (generatePassword forbidden) (fun _ => P) X :=
  Keeps.ask (fun _ _ _ => trivial) fun _ _ _ h _ => h

section Provision

variable {why : Cause} {name password : String} {want : Entitlement} {tg : Option ℤ}

theorem Keeps.disableUnsafe (hout : ∀ s v, P s v → P s v.outdated) :
    Keeps k sells P (disableUnsafe why (some name)) (fun _ => P) X := by
  refine (Keeps.call (Q := fun _ => P) (X := fun _ => P) (fun _ _ _ _ => .disable)
    (fun _ s v h _ => hout s v h) fun _ s v h => hout s v h).attempt.bind fun r => ?_
  cases r
  · exact .pure fun _ _ h => h
  · exact .pure fun _ _ h => h

/-- The write of a provisioning, under what has been found under its username. -/
theorem Keeps.writeAdmin (hout : ∀ s v, P s v → P s v.outdated)
    (hcreate : ∀ s v, P s v → (name, none) ∈ v.answers → CallOk k v why
      (.createResellerAdmin (some name) (provisionPayload password want tg)))
    (hupdate : ∀ a s v, P s v → (name, some a) ∈ v.answers → CallOk k v why
      (.updateAdmin name (provisionPayload password want tg)))
    (hX : ∀ e s v, P s v → X e s v) (live : Option Admin) :
    Keeps k sells (fun s v => P s v ∧ (name, live) ∈ v.answers)
      (writeAdmin why (some name) (provisionPayload password want tg) live) (fun _ => P) X := by
  cases live with
  | none =>
    exact .call (fun s v h _ => hcreate s v h.1 h.2) (fun _ s v h _ => hout s v h.1)
      fun e s v h => hX e s _ (hout s v h.1)
  | some a =>
    unfold ResellerBot.writeAdmin
    dsimp only
    split_ifs
    · exact ((Keeps.disableUnsafe hout).pre fun s v h => h.1).bind fun _ =>
        .raise fun s v h => hX _ s v h
    · exact .call (fun s v h _ => hupdate a s v h.1 h.2) (fun _ s v h _ => hout s v h.1)
        fun e s v h => hX e s _ (hout s v h.1)

/-- A provisioning returns what its last read has found, and that is as wanted. -/
theorem Keeps.provision (hout : ∀ s v, P s v → P s v.outdated)
    (hans : ∀ u a s v, P s v → P s (v.answered u a))
    (hcreate : ∀ s v, P s v → (name, none) ∈ v.answers → CallOk k v why
      (.createResellerAdmin (some name) (provisionPayload password want tg)))
    (hupdate : ∀ a s v, P s v → (name, some a) ∈ v.answers → CallOk k v why
      (.updateAdmin name (provisionPayload password want tg)))
    (hX : ∀ e s v, P s v → X e s v) :
    Keeps k sells P (provision why (some name) password want tg)
      (fun a s v => P s v ∧ (name, some a) ∈ v.answers ∧
        verifyEntitlement (some a) (some name) want = .ok a) X := by
  have hget : Keeps k sells P (ResellerBot.getAdmin (some name))
      (fun live s v => P s v ∧ (name, live) ∈ v.answers) X := by
    refine .getAdmin (fun s v h => ⟨hans _ _ s v h, ?_⟩) (fun a s v h _ => ⟨hans _ _ s v h, ?_⟩) hX
    · exact Set.mem_insert _ _
    · exact Set.mem_insert _ _
  refine hget.bind fun live => ?_
  refine (Keeps.writeAdmin hout hcreate hupdate hX live).bind fun _ => ?_
  refine hget.bind fun live => ?_
  unfold verifyAdmin
  cases hv : verifyEntitlement live (some name) want with
  | ok a =>
    obtain rfl := verifyEntitlement_ok hv
    exact .pure fun s v h => ⟨h.1, h.2, hv⟩
  | error e =>
    dsimp only
    split_ifs
    · exact ((Keeps.disableUnsafe hout).pre fun s v h => h.1).bind fun _ =>
        .raise fun s v h => hX _ s v h
    · exact .raise fun s v h => hX _ s v h.1

end Provision

/-! ## Settings -/

section Settings

variable {cfg : Settings}
  (hq : ∀ key, Keeps k sells P (ResellerBot.query (.setting key)) (fun _ => P) X)
  (hX : ∀ e s v, P s v → X e s v)

include hq hX

theorem Keeps.customerPanelUrl :
    Keeps k sells P RuntimeSettings.customerPanelUrl (fun _ => P) X := by
  refine (hq _).bind fun value => ?_
  cases value with
  | none => exact .pure fun s v h => h
  | some value =>
    dsimp only
    -- the text itself is of no interest, and must not be evaluated
    generalize String.ofList (strip isSpace value.str.toList) = url
    split_ifs
    · exact .pure fun s v h => h
    · exact .pure fun s v h => h
    · exact .raise fun s v h => hX _ s v h

theorem Keeps.operationsMode :
    Keeps k sells P (RuntimeSettings.operationsMode cfg) (fun _ => P) X := by
  refine (hq _).bind fun value => ?_
  rcases value with _ | _ | _ | mode | _
  · exact .pure fun s v h => h
  · exact .raise fun s v h => hX _ s v h
  · exact .raise fun s v h => hX _ s v h
  · dsimp only
    split_ifs
    · exact .pure fun s v h => h
    · exact .raise fun s v h => hX _ s v h
  · exact .raise fun s v h => hX _ s v h

theorem Keeps.isDryRun : Keeps k sells P (RuntimeSettings.isDryRun cfg) (fun _ => P) X :=
  (Keeps.operationsMode hq hX).bind fun _ => .pure fun _ _ h => h

omit hX in
theorem Keeps.settingValue {key : String} {default : SettingValue} :
    Keeps k sells P (RuntimeSettings.value key default) (fun _ => P) X :=
  (hq _).bind fun _ => .pure fun _ _ h => h

theorem Keeps.positive {key : String} {default : ℤ} :
    Keeps k sells P (RuntimeSettings.positive key default) (fun _ => P) X := by
  refine (Keeps.settingValue hq).bind fun value => ?_
  refine (Keeps.outcome (Q := fun _ => P) (fun _ _ _ _ h => h) fun e _ s v h => hX e s v h).bind
    fun n => ?_
  split_ifs
  · exact .pure fun s v h => h
  · exact .raise fun s v h => hX _ s v h

theorem Keeps.graceHours : Keeps k sells P (RuntimeSettings.graceHours cfg) (fun _ => P) X := by
  refine (Keeps.settingValue hq).bind fun value => ?_
  refine (Keeps.outcome (Q := fun _ => P) (fun _ _ _ _ h => h) fun e _ s v h => hX e s v h).bind
    fun n => ?_
  split_ifs
  · exact .pure fun s v h => h
  · exact .raise fun s v h => hX _ s v h

theorem Keeps.timeThresholds :
    Keeps k sells P (RuntimeSettings.timeThresholds cfg) (fun _ => P) X :=
  (Keeps.settingValue hq).bind fun _ =>
    Keeps.outcome (fun _ _ _ _ h => h) fun e _ s v h => hX e s v h

theorem Keeps.trafficThresholds :
    Keeps k sells P (RuntimeSettings.trafficThresholds cfg) (fun _ => P) X := by
  refine (Keeps.settingValue hq).bind fun value => ?_
  refine (Keeps.outcome (Q := fun _ => P) (fun _ _ _ _ h => h) fun e _ s v h => hX e s v h).bind
    fun values => ?_
  split_ifs
  · exact .raise fun s v h => hX _ s v h
  · exact .pure fun s v h => h

end Settings

end ResellerBot
