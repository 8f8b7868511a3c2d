import ResellerBot.Payments.Adversary
import ResellerBot.Scheduler.Orders
import Mathlib

/-!
# ResellerBot.Payments.Retryable — what a failed reconciliation leaves behind

The `try` block of one order against an adversary, and the `except` block after it.  Whatever is
committed then, or would be by the next commit, should be the rows as they were or an order with a
target for the next run.
-/

open Interact

namespace ResellerBot

/-! ## Rows that can be tried again -/

def Order.unerred (o : Order) : Order := { o with applyError := none }

/-- The order has a target with an expiry. -/
def Complete (o : Order) : Prop := ∃ target, o.target = some target ∧ target.expire ≠ none

/-- What the next run can start from, where the order was `o` and its reseller `r`. -/
inductive Retryable (o : Order) (r : Reseller) : Rows₂ → Prop
  | kept {o' : Order} (same : o'.unerred = o.unerred) : Retryable o r (some o', some r)
  | targeted {o' : Order} {r' : Reseller} (applying : o'.status = .APPLYING)
      (complete : Complete o') (reseller : r'.status = r.status ∨ r'.status = .PROVISIONING) :
      Retryable o r (some o', some r')

/-- What has been committed since the rows were `before`, and what the next commit would write. -/
structure LeavesRetryable (o : Order) (r : Reseller) (before : Rows₂) (s : Session) (t : Journal) :
    Prop where
  committed : rowsOf o.id r.id t.committed = before ∨
    Retryable o r (rowsOf o.id r.id t.committed)
  pending : s.broken = false → ∀ T, Stmt.execAll t.working s.unflushed = .ok T →
    Retryable o r (rowsOf o.id r.id T)

/-- A message has been delivered. -/
def Reached (h : Past) : Prop := ∃ chat, (⟨.send chat, .ok ()⟩ : Reply Ev Resp) ∈ h

/-- A first provisioning, without a target yet, at a time from which its expiry is out of range. -/
def Stranded (o : Order) (r : Reseller) (p : Product) (h : Past) : Prop :=
  truthy r.rebeccaAdminUsername = false ∧ ¬Complete o ∧
    ∃ now e, (⟨.now, now⟩ : Reply Ev Resp) ∈ h ∧ addDays now p.durationDays = .error e

/-- Neither of the two has happened. -/
def Harmless (o : Order) (r : Reseller) (p : Product) (h : Past) : Prop :=
  ¬Reached h ∧ ¬Stranded o r p h

section Past

variable {o : Order} {r : Reseller} {p : Product} {h : Past} {x : Reply Ev Resp}

theorem reached_cons (hx : x.1.isSend = false) : Reached (x :: h) ↔ Reached h := by
  constructor
  · rintro ⟨chat, hmem⟩
    obtain rfl | hmem := List.mem_cons.mp hmem
    · cases hx
    · exact ⟨chat, hmem⟩
  · rintro ⟨chat, hmem⟩
    exact ⟨chat, List.mem_cons_of_mem _ hmem⟩

theorem stranded_cons (hx : x.1 ≠ .now) : Stranded o r p (x :: h) ↔ Stranded o r p h := by
  refine and_congr_right fun _ => and_congr_right fun _ => exists_congr fun now =>
    exists_congr fun e => and_congr_left fun _ => ?_
  rw [List.mem_cons, or_iff_right]
  rintro rfl
  exact hx rfl

theorem harmless_cons (hsend : x.1.isSend = false) (hnow : x.1 ≠ .now) :
    Harmless o r p (x :: h) ↔ Harmless o r p h := by
  rw [Harmless, Harmless, reached_cons hsend, stranded_cons hnow]

/-- Without a reservation to make, the time is of no matter. -/
theorem harmless_now {now : Datetime} (hr : truthy r.rebeccaAdminUsername = true) :
    Harmless o r p (⟨.now, now⟩ :: h) ↔ Harmless o r p h := by
  have hnot : ∀ h, ¬Stranded o r p h := by
    rintro h ⟨hfalse, -⟩
    rw [hr] at hfalse
    cases hfalse
  rw [Harmless, Harmless, reached_cons rfl]
  exact and_congr_right fun _ => iff_of_true (hnot _) (hnot _)

/-- A message that was not delivered is of no matter. -/
theorem harmless_refused {chat : ℤ} {e : Err} :
    Harmless o r p (⟨.send chat, .error e⟩ :: h) ↔ Harmless o r p h := by
  have hdelivered : Reached (⟨.send chat, .error e⟩ :: h) ↔ Reached h := by
    refine exists_congr fun chat' => ?_
    rw [List.mem_cons, or_iff_right]
    intro heq
    cases heq
  rw [Harmless, Harmless, hdelivered, stranded_cons (by rintro ⟨⟩)]

theorem reached_send {chat : ℤ} : Reached (⟨.send chat, .ok ()⟩ :: h) :=
  ⟨chat, List.mem_cons_self⟩

end Past

/-! ## How an attempt ends -/

/-- At the order, with what is committed and stored of it safe to leave. -/
structure Station (o₀ : Order) (r₀ : Reseller) (B₀ B : Rows₂) (o : Order) (r : Reseller) :
    Prop where
  order : o.id = o₀.id
  reseller : r.id = r₀.id
  saved : B = B₀ ∨ Retryable o₀ r₀ B
  retryable : ∀ err, Retryable o₀ r₀ (some { o with applyError := err }, some r)
  unapplied : o.status ≠ .APPLIED

/-- The flush of the reseller will not be refused. -/
def Unclaimed (rd r : Reseller) (T : Tables) : Prop :=
  rd.rebeccaAdminUsername = r.rebeccaAdminUsername ∨
    usernameTaken T.resellers rd.id r.rebeccaAdminUsername = false

/-- After an exception: the rows are safe to leave if and only if `good`. -/
inductive Exit (o₀ : Order) (r₀ : Reseller) (p : Product) (B₀ : Rows₂) (good : Past → Prop)
    (s : Session) (t : Journal) : Prop
  | lost {B : Rows₂} (lost : Lost₂ B o₀.id r₀.id (fun _ => good) s t)
      (saved : B = B₀ ∨ Retryable o₀ r₀ B)
  | held {B : Rows₂} {od o : Order} {rd r : Reseller} (order : od.id = o₀.id)
      (reseller : rd.id = r₀.id) (saved : B = B₀ ∨ Retryable o₀ r₀ B)
      (held : Held B od o rd r p (fun T h => Unclaimed rd r T ∧
        (Retryable o₀ r₀ (some o, some r) ↔ good h)) s t)

section Exit

variable {o₀ o od : Order} {r₀ r rd : Reseller} {p : Product} {B₀ B : Rows₂} {good : Past → Prop}
  {s : Session} {t : Journal} {F : Tables → Past → Prop}

/-- The verdict on what an exception leaves. -/
theorem Exit.leavesRetryable_iff (h : Exit o₀ r₀ p B₀ good s t) :
    LeavesRetryable o₀ r₀ B₀ s t ↔ good t.past := by
  cases h with
  | lost lost saved =>
    refine iff_of_true ⟨by rw [lost.saved]; exact saved, fun hb => ?_⟩ lost.fact
    rw [lost.broken] at hb
    cases hb
  | held order reseller saved held =>
    obtain ⟨hfree, hiff⟩ := held.fact
    rw [← hiff]
    constructor
    · intro hl
      obtain ⟨T, hT⟩ := held.flushes hfree
      have hrows := hl.pending held.sound T hT
      rwa [← order, ← reseller, held.rows_of_execAll hT] at hrows
    · intro hr
      refine ⟨by rw [← order, ← reseller, held.saved]; exact saved, fun _ T hT => ?_⟩
      rwa [← order, ← reseller, held.rows_of_execAll hT]

theorem Station.self (ho : o.status ≠ .APPLIED) : Station o r B B o r :=
  ⟨rfl, rfl, .inl rfl, fun _ => .kept rfl, ho⟩

/-- An exception at a station. -/
theorem Station.exit (st : Station o₀ r₀ B₀ B o r) (err : Option String)
    (h : Held B od { o with applyError := err } r r p F s t) (hod : od.id = o.id)
    (hF : ∀ T h, F T h → good h) : Exit o₀ r₀ p B₀ good s t :=
  .held (hod.trans st.order) st.reseller st.saved
    { h with fact := ⟨.inl rfl, iff_of_true (st.retryable err) (hF _ _ h.fact)⟩ }

theorem Station.lost (st : Station o₀ r₀ B₀ B o r) (h : Lost₂ B od.id r.id F s t)
    (hod : od.id = o.id) (hF : ∀ T h, F T h → good h) : Exit o₀ r₀ p B₀ good s t := by
  refine .lost { h with saved := ?_, fact := hF _ _ h.fact } st.saved
  rw [← st.order, ← st.reseller, ← hod]
  exact h.saved

end Exit

/-! ## Requests at a station -/

section Requests

open Act (Holds)

variable {adv : Adversary} {o₀ o od : Order} {r₀ r rd : Reseller} {p : Product} {B₀ B : Rows₂}
  {F : Tables → Past → Prop} {α : Type} {Q : α → Session → Journal → Prop}
  {X : Err → Session → Journal → Prop}

/-- Nothing has happened that does harm. -/
abbrev Fine (o₀ : Order) (r₀ : Reseller) (p : Product) (_ : Tables) (h : Past) : Prop :=
  Harmless o₀ r₀ p h

theorem enduring_fine : Enduring (Fine o₀ r₀ p) := by
  rintro T T' h ⟨e, res⟩ he hF
  refine (harmless_cons ?_ ?_).mpr hF
  · cases e with
    | send => cases he
    | _ => rfl
  · rintro rfl
    cases he

theorem against_callFine {why : Cause} {c : Call} :
    Against adv (Held B od o rd r p (Fine o₀ r₀ p)) (call why c)
      (fun _ => Held B od o rd r p (Fine o₀ r₀ p)) fun _ => Held B od o rd r p (Fine o₀ r₀ p) :=
  against_call (fun _ _ _ h => (harmless_cons rfl (by rintro ⟨⟩)).mpr h)
    fun _ _ _ h => (harmless_cons rfl (by rintro ⟨⟩)).mpr h

theorem against_passFine {e : Ev} (hsend : e.isSend = false) (hnow : e ≠ .now)
    (hreact : ∀ t : Journal, ∃ res, adv.react e t = (res, t.saw e res)) :
    Against adv (Held B od o rd r p (Fine o₀ r₀ p)) (ask e)
      (fun _ => Held B od o rd r p (Fine o₀ r₀ p)) X :=
  against_ask hreact fun _ _ _ h => (harmless_cons hsend hnow).mpr h

/-- A message: what it says of its delivery is so. -/
theorem against_notify {chat : ℤ} :
    Against adv (Held B od o rd r p (Fine o₀ r₀ p)) (notify chat)
      (fun delivered => Held B od o rd r p fun _ h =>
        if delivered then Reached h else Harmless o₀ r₀ p h) X := by
  unfold notify
  refine Holds.bind (Q := fun res => Held B od o rd r p fun _ h =>
    (res = .ok () → Reached h) ∧ ∀ e, res = .error e → Harmless o₀ r₀ p h) ?_ fun res => ?_
  · unfold sendMessage
    refine (Holds.attempt (Q := fun _ => Held B od o rd r p fun _ => Reached)
      (X := fun _ => Held B od o rd r p (Fine o₀ r₀ p)) (Holds.bind (Q := fun res =>
        Held B od o rd r p fun _ h => (res = .ok () → Reached h) ∧
          ∀ e, res = .error e → Harmless o₀ r₀ p h) (against_ask (fun t => ⟨_, rfl⟩) ?_)
      fun res => ?_)).post ?_
    · rintro T h (e | ⟨⟩) hF
      · exact ⟨by rintro ⟨⟩, by rintro _ ⟨⟩; exact harmless_refused.mpr hF⟩
      · exact ⟨fun _ => reached_send, by rintro _ ⟨⟩⟩
    · exact Holds.outcome (fun a ha s t hP => { hP with fact := hP.fact.1 ha })
        fun e he s t hP => { hP with fact := hP.fact.2 e he }
    · rintro (e | ⟨⟩) s t hP
      · exact { hP with fact := ⟨by rintro ⟨⟩, by rintro _ ⟨⟩; exact hP.fact⟩ }
      · exact { hP with fact := ⟨fun _ => hP.fact, by rintro _ ⟨⟩⟩ }
  · cases res with
    | ok _ => exact Holds.pure fun s t hP => { hP with fact := hP.fact.1 rfl }
    | error e => exact Holds.pure fun s t hP => { hP with fact := hP.fact.2 e rfl }

end Requests

/-! ## Provisioning -/

section Provisioning

open Act (Holds)

variable {adv : Adversary} {cfg : Settings} {o₀ o od : Order} {r₀ r rd : Reseller} {p : Product}
  {B₀ B : Rows₂}

theorem against_disableUnsafe {why : Cause} {username : Option String}
    {X : Err → Session → Journal → Prop} :
    Against adv (Held B od o rd r p (Fine o₀ r₀ p)) (disableUnsafe why username)
      (fun _ => Held B od o rd r p (Fine o₀ r₀ p)) X := by
  refine Holds.bind (Holds.attempt against_callFine) fun res => Holds.pure ?_
  cases res <;> exact fun _ _ h => h

/-- Nothing but calls: the objects stay as they are. -/
theorem against_provision {why : Cause} {username : Option String} {password : String}
    {want : Entitlement} {telegramId : Option ℤ} :
    Against adv (Held B od o rd r p (Fine o₀ r₀ p))
      (provision why username password want telegramId)
      (fun _ => Held B od o rd r p (Fine o₀ r₀ p)) fun _ => Held B od o rd r p (Fine o₀ r₀ p) := by
  refine Holds.bind against_callFine fun live => Holds.bind (Q := fun _ =>
    Held B od o rd r p (Fine o₀ r₀ p)) ?_ fun _ => Holds.bind against_callFine fun live => ?_
  · cases live with
    | none => exact against_callFine
    | some live =>
      exact Holds.ite (Holds.bind against_disableUnsafe fun _ => Holds.raise fun _ _ h => h)
        against_callFine
  · unfold verifyAdmin
    split
    · exact Holds.pure fun _ _ h => h
    · exact Holds.ite (Holds.bind against_disableUnsafe fun _ => Holds.raise fun _ _ h => h)
        (Holds.raise fun _ _ h => h)

/-- Once the order has been marked as applied, nothing safe is left. -/
theorem not_retryable_applied {now : Datetime} (ho : o₀.status ≠ .APPLIED) :
    ¬Retryable o₀ r₀ (some (applied now o), some r) := by
  rintro (⟨hsame⟩ | ⟨happlying, -, -⟩)
  · exact ho (congrArg Order.status hsame).symm
  · cases happlying

/-- After the delivery the last read decides. -/
theorem against_finish (st : Station o₀ r₀ B₀ B o r) (hopen : o₀.status ≠ .APPLIED)
    (username : String) :
    Against adv (Held B o o r r p fun _ => Reached) (finishProvisioning username)
      (fun _ _ _ => True) fun _ => Exit o₀ r₀ p B₀ (Harmless o₀ r₀ p) := by
  have hexit : ∀ now s t, Held B o (applied now { o with status := .APPLIED }) r (activated p r) p
      (fun _ => Reached) s t → Exit o₀ r₀ p B₀ (Harmless o₀ r₀ p) s t := by
    intro now s t h
    refine .held st.order st.reseller st.saved { h with fact := ⟨.inl rfl, ?_⟩ }
    exact iff_of_false (not_retryable_applied hopen) fun hgood => hgood.1 h.fact
  refine against_product (against_setReseller (by simp [Reseller.update, activated])
    (against_setOrder (by simp [Order.update]) ?_))
  refine Holds.bind (Q := fun _ => Held B o { o with status := .APPLIED } r (activated p r) p
    fun _ => Reached) (against_ask (fun t => ⟨_, rfl⟩) fun T h _ hF =>
      (reached_cons rfl).mpr hF) fun now => ?_
  refine against_setOrder (by simp [Order.update, applied]) ?_
  refine Holds.bind (Q := fun _ => Held B o (applied now { o with status := .APPLIED }) r
    (activated p r) p fun _ => Reached) ((against_call (K := fun _ _ => Reached)
      (G := fun _ _ => Reached) ?_ ?_).conseq (fun _ _ h => h) (fun _ _ _ h => h)
        fun _ s t h => hexit now s t h) fun live => ?_
  · exact fun T h _ hF => (reached_cons rfl).mpr hF
  · exact fun T h _ hF => (reached_cons rfl).mpr hF
  · cases live with
    | none => exact Holds.raise fun s t h => hexit now s t h
    | some live =>
      refine against_order (against_setOrder (by simp [Order.update, applied]) ?_)
      exact (against_audit _ _ _).post fun _ _ _ _ => trivial

theorem Station.failed (st : Station o₀ r₀ B₀ B o r) (msg : String) :
    Station o₀ r₀ B₀ (some (failed msg o), some r) (failed msg o) r :=
  ⟨st.order, st.reseller, .inr (st.retryable _), st.retryable, st.unapplied⟩

/-- A query at a station. -/
theorem against_queryFine {q : Query} (st : Station o₀ r₀ B₀ B o r) :
    Against adv (Held B o o r r p (Fine o₀ r₀ p)) (query q)
      (fun _ => Held B o o r r p (Fine o₀ r₀ p)) fun _ => Exit o₀ r₀ p B₀ (Harmless o₀ r₀ p) := by
  refine (against_query (K := fun _ => Fine o₀ r₀ p) enduring_fine fun T h hF =>
    enduring_fine T T h ⟨.query q, .ok (q.run T)⟩ rfl hF).conseq (fun _ _ h => h)
    (fun _ _ _ h => h) ?_
  rintro e s t (h | h)
  · exact st.lost h rfl fun _ _ hF => hF
  · exact st.exit o.applyError h rfl fun _ _ hF => hF

theorem against_customerPanelUrl (st : Station o₀ r₀ B₀ B o r) :
    Against adv (Held B o o r r p (Fine o₀ r₀ p)) RuntimeSettings.customerPanelUrl
      (fun _ => Held B o o r r p (Fine o₀ r₀ p)) fun _ => Exit o₀ r₀ p B₀ (Harmless o₀ r₀ p) := by
  refine Holds.bind (against_queryFine st) fun v => ?_
  cases v with
  | none => exact Holds.pure fun _ _ h => h
  | some v =>
    refine Holds.ite (Holds.pure fun _ _ h => h) (Holds.ite (Holds.pure fun _ _ h => h) ?_)
    exact Holds.raise fun s t h => st.exit o.applyError h rfl fun _ _ hF => hF

theorem against_deliver (st : Station o₀ r₀ B₀ B o r) (hopen : o₀.status ≠ .APPLIED)
    (telegramId : ℤ) (username : String) :
    Against adv (Held B o o r r p (Fine o₀ r₀ p)) (deliverCredentials telegramId username)
      (fun _ _ _ => True) fun _ => Exit o₀ r₀ p B₀ (Harmless o₀ r₀ p) := by
  have hst := st.failed "CREDENTIAL_DELIVERY_PENDING"
  refine against_setOrder (by simp [Order.update, failed]) ?_
  refine Holds.bind ((against_commit enduring_fine).conseq (fun _ _ h => h) (fun _ _ _ h => h)
    fun _ s t h => st.lost h rfl fun _ _ hF => hF) fun _ => ?_
  refine Holds.bind (against_customerPanelUrl hst) fun _ => Holds.bind against_notify fun b => ?_
  cases b with
  | true => exact (against_finish hst hopen username).pre fun _ _ h => h
  | false =>
    exact Holds.raise fun s t h => hst.exit _ (F := Fine o₀ r₀ p) h rfl fun _ _ hF => hF

theorem against_provisionTarget (st : Station o₀ r₀ B₀ B o r) (hopen : o₀.status ≠ .APPLIED)
    (target : Snapshot) :
    Against adv (Held B o o r r p (Fine o₀ r₀ p)) (provisionTarget cfg o r target)
      (fun _ _ _ => True) fun _ => Exit o₀ r₀ p B₀ (Harmless o₀ r₀ p) := by
  have hexit : ∀ s t, Held B o o r r p (Fine o₀ r₀ p) s t →
      Exit o₀ r₀ p B₀ (Harmless o₀ r₀ p) s t :=
    fun s t h => st.exit o.applyError h rfl fun _ _ hF => hF
  refine Holds.bind (against_passFine rfl (by rintro ⟨⟩) fun t => ⟨_, rfl⟩) fun password => ?_
  refine Holds.ite (Holds.raise hexit) (Holds.bind ?_ fun _ => against_deliver st hopen _ _)
  exact against_provision.conseq (fun _ _ h => h) (fun _ _ _ h => h) fun _ => hexit

theorem against_provisionOrder (st : Station o₀ r₀ B₀ B o r) (hopen : o₀.status ≠ .APPLIED) :
    Against adv (Held B o o r r p (Fine o₀ r₀ p)) (provisionOrder cfg)
      (fun _ _ _ => True) fun _ => Exit o₀ r₀ p B₀ (Harmless o₀ r₀ p) := by
  have hexit : ∀ s t, Held B o o r r p (Fine o₀ r₀ p) s t →
      Exit o₀ r₀ p B₀ (Harmless o₀ r₀ p) s t :=
    fun s t h => st.exit o.applyError h rfl fun _ _ hF => hF
  refine against_order (against_reseller ?_)
  cases o.afterSnapshot with
  | none => exact Holds.raise hexit
  | some snapshot =>
    cases snapshot with
    | dump => exact Holds.raise hexit
    | target target => exact against_provisionTarget st hopen target

end Provisioning

/-! ## The reservation -/

section Reservation

open Act (Holds Found)

variable {adv : Adversary} {o : Order} {r : Reseller} {p : Product} {B : Rows₂} {h : Past}

/-- No message has been delivered, and nobody has looked at the clock. -/
def Untouched (_ : Tables) (h : Past) : Prop :=
  ¬Reached h ∧ ∀ now, (⟨.now, now⟩ : Reply Ev Resp) ∉ h

theorem untouched_cons {T : Tables} {x : Reply Ev Resp} (hsend : x.1.isSend = false)
    (hnow : x.1 ≠ .now) (hF : Untouched T h) : Untouched T (x :: h) := by
  refine ⟨mt (reached_cons hsend).mp hF.1, fun now hmem => ?_⟩
  obtain rfl | hmem := List.mem_cons.mp hmem
  · exact hnow rfl
  · exact hF.2 now hmem

theorem Untouched.harmless {T : Tables} (hF : Untouched T h) : Harmless o r p h := by
  refine ⟨hF.1, ?_⟩
  rintro ⟨-, -, now, -, hmem, -⟩
  exact hF.2 now hmem

theorem enduring_untouched : Enduring Untouched := by
  rintro T T' h ⟨e, res⟩ he hF
  refine untouched_cons ?_ ?_ hF
  · cases e with
    | send => cases he
    | _ => rfl
  · rintro rfl
    cases he

/-- The name is not empty, and no reseller has it. -/
def Spare (name : String) (T : Tables) (h : Past) : Prop :=
  Untouched T h ∧ name ≠ "" ∧ T.resellers.any (·.rebeccaAdminUsername = some name) = false

theorem against_tryCandidate (st : Station o r B B o r) (telegramUsername : Option String) :
    Against adv (Held B o o r r p Untouched) (tryCandidate telegramUsername)
      (Found (fun name => Held B o o r r p (Spare name)) (Held B o o r r p Untouched))
      fun _ => Exit o r p B (Harmless o r p) := by
  have hexit : ∀ s t, Held B o o r r p Untouched s t → Exit o r p B (Harmless o r p) s t :=
    fun s t h => st.exit o.applyError h rfl fun _ _ hF => hF.harmless
  unfold tryCandidate drawCandidate
  refine Holds.bind (Q := fun name => Held B o o r r p fun T h => Untouched T h ∧ name ≠ "")
    (Holds.bind (against_ask (K := fun _ => Untouched) (fun t => ⟨_, rfl⟩) ?_) fun n =>
      Holds.pure fun s t h => { h with fact := ⟨h.fact, usernameCandidate_ne _ _⟩ }) fun name => ?_
  · exact fun T h _ hF => untouched_cons rfl (by rintro ⟨⟩) hF
  refine Holds.bind (Q := fun taken => Held B o o r r p fun T h => Untouched T h ∧ name ≠ "" ∧
    T.resellers.any (·.rebeccaAdminUsername = some name) = taken) ?_ fun taken => ?_
  · refine (against_query (K := fun taken T h => Untouched T h ∧ name ≠ "" ∧
      T.resellers.any (·.rebeccaAdminUsername = some name) = taken) ?_ ?_).conseq
      (fun _ _ h => h) (fun _ _ _ h => h) ?_
    · exact fun T T' h x he hF => ⟨enduring_untouched T T' h x he hF.1, hF.2⟩
    · exact fun T h hF =>
        ⟨enduring_untouched T T h ⟨.query _, .ok _⟩ rfl hF.1, hF.2, rfl⟩
    · rintro e s t (h | h)
      · exact st.lost h rfl fun _ _ hF => hF.1.harmless
      · exact hexit s t { h with fact := h.fact.1 }
  cases taken with
  | true => exact Holds.pure fun s t h => { h with fact := h.fact.1 }
  | false =>
    refine Holds.bind (Q := fun _ => Held B o o r r p (Spare name))
      ((against_call (K := fun _ => Spare name) (G := fun _ => Untouched) ?_ ?_).conseq
        (fun _ _ h => h) (fun _ _ _ h => h) fun _ => hexit) fun live => ?_
    · exact fun T h _ hF => ⟨untouched_cons rfl (by rintro ⟨⟩) hF.1, hF.2⟩
    · exact fun T h _ hF => untouched_cons rfl (by rintro ⟨⟩) hF.1
    · cases live with
      | none => exact Holds.pure fun _ _ h => h
      | some live => exact Holds.pure fun s t h => { h with fact := h.fact.1 }

theorem against_availableUsername (st : Station o r B B o r) (telegramUsername : Option String) :
    Against adv (Held B o o r r p Untouched) (availableUsername telegramUsername)
      (fun name => Held B o o r r p (Spare name))
      fun _ => Exit o r p B (Harmless o r p) := by
  refine Holds.bind (Holds.searchFor (against_tryCandidate st telegramUsername) 100) fun res => ?_
  cases res with
  | some name => exact Holds.pure fun _ _ h => h
  | none =>
    exact Holds.raise fun s t h => st.exit o.applyError h rfl fun _ _ hF => hF.harmless

/-- The order and its reseller when the time is asked for the target. -/
def claimed (o : Order) : Order := { o with status := .APPLYING }

def aimed (target : Snapshot) (o : Order) : Order :=
  { o with afterSnapshot := some (.target target) }

/-- A reservation with its target. -/
theorem station_aimed {target : Snapshot} {name : String} (htarget : target.expire ≠ none) :
    Station o r B (some (aimed target (claimed o)), some (reserved name r))
      (aimed target (claimed o)) (reserved name r) := by
  have hretry : ∀ err, Retryable o r
      (some { aimed target (claimed o) with applyError := err }, some (reserved name r)) :=
    fun _ => .targeted rfl ⟨target, rfl, htarget⟩ (.inr rfl)
  exact ⟨rfl, rfl, .inr (hretry _), hretry, by rintro ⟨⟩⟩

/-- With an expiry out of range, only a target from before can be tried again. -/
theorem retryable_claimed {name : String} (hr : truthy r.rebeccaAdminUsername = false)
    (hname : name ≠ "") :
    Retryable o r (some (claimed o), some (reserved name r)) ↔ Complete o := by
  constructor
  · intro hretry
    generalize hreserved : reserved name r = r' at hretry
    cases hretry with
    | kept =>
      have hsame : r.rebeccaAdminUsername = some name :=
        (congrArg Reseller.rebeccaAdminUsername hreserved).symm
      rw [hsame] at hr
      simp [truthy, hname] at hr
    | targeted _ complete => exact complete
  · exact fun hcomplete => .targeted rfl hcomplete (.inr rfl)

theorem unclaimed_of_spare {name : String} {T : Tables}
    (hfree : T.resellers.any (·.rebeccaAdminUsername = some name) = false) :
    Unclaimed r (reserved name r) T := by
  right
  rw [List.any_eq_false] at hfree
  show (T.resellers.any fun r' => r'.id ≠ r.id && r'.rebeccaAdminUsername = some name) = false
  rw [List.any_eq_false]
  intro r' hr'
  have hne : ¬r'.rebeccaAdminUsername = some name := by simpa using hfree r' hr'
  simp [hne]

/-- The clock has been read once: the reservation is stranded if its expiry is out of range. -/
theorem stranded_now {now : Datetime} (hfirst : ∀ now, (⟨.now, now⟩ : Reply Ev Resp) ∉ h)
    (hr : truthy r.rebeccaAdminUsername = false) :
    Stranded o r p (⟨.now, now⟩ :: h) ↔
      ¬Complete o ∧ ∃ e, addDays now p.durationDays = .error e := by
  constructor
  · rintro ⟨-, hincomplete, now', e, hmem, he⟩
    obtain heq | hmem := List.mem_cons.mp hmem
    · cases heq
      exact ⟨hincomplete, e, he⟩
    · exact absurd hmem (hfirst now')
  · rintro ⟨hincomplete, e, he⟩
    exact ⟨hr, hincomplete, now, e, List.mem_cons_self, he⟩

/-- At a station, with a reseller that is to be provisioned or had a username. -/
def Named (o₀ : Order) (r₀ : Reseller) (p : Product) (B₀ : Rows₂) (s : Session)
    (t : Journal) : Prop :=
  ∃ B o r, (Station o₀ r₀ B₀ B o r ∧
    (r.status = .PROVISIONING ∨ truthy r₀.rebeccaAdminUsername = true)) ∧
      Held B o o r r p (Fine o₀ r₀ p) s t

/-- What has been reserved is committed with its target, or not at all. -/
theorem against_reserveUsername (st : Station o r B B o r)
    (hr : truthy r.rebeccaAdminUsername = false) :
    Against adv (Held B o o r r p Untouched) reserveUsername (fun _ => Named o r p B)
      fun _ => Exit o r p B (Harmless o r p) := by
  refine against_reseller (Holds.bind (against_availableUsername st _) fun name => ?_)
  refine against_setReseller (by simp [Reseller.update, reserved])
    (against_setOrder (f := claimed) (by simp [Order.update, claimed]) ?_)
  refine Holds.bind (Q := fun now => Held B o (claimed o) r (reserved name r) p fun T h =>
    name ≠ "" ∧ T.resellers.any (·.rebeccaAdminUsername = some name) = false ∧ ¬Reached h ∧
      (Stranded o r p h ↔ ¬Complete o ∧ ∃ e, addDays now p.durationDays = .error e))
    (against_ask (fun t => ⟨_, rfl⟩) ?_) fun now => against_product ?_
  · rintro T h now ⟨hF, hname, hfree⟩
    exact ⟨hname, hfree, mt (reached_cons rfl).mp hF.1, stranded_now hF.2 hr⟩
  refine Holds.bind (Q := fun _ => Held B o (claimed o) r (reserved name r) p (Fine o r p))
    (Holds.outcome ?_ ?_) fun expire => ?_
  · intro expire hdays s t h
    obtain ⟨-, -, hdelivered, hstranded⟩ := h.fact
    refine { h with fact := ⟨hdelivered, fun hs => ?_⟩ }
    obtain ⟨-, e, he⟩ := hstranded.mp hs
    rw [hdays] at he
    cases he
  · intro e hdays s t h
    obtain ⟨hname, hfree, hdelivered, hstranded⟩ := h.fact
    refine .held rfl rfl (.inl rfl) { h with fact := ⟨unclaimed_of_spare hfree, ?_⟩ }
    rw [retryable_claimed hr hname, Harmless, hstranded]
    constructor
    · exact fun hcomplete => ⟨hdelivered, fun hincomplete => hincomplete.1 hcomplete⟩
    · exact fun hgood => not_not.mp fun hincomplete => hgood.2 ⟨hincomplete, e, hdays⟩
  · refine against_setOrder (f := aimed (provisioningTarget name expire p))
      (by simp [Order.update, claimed, aimed]) ?_
    refine (against_commit enduring_fine).conseq (fun _ _ h => h) (fun _ _ _ h => ?_)
      fun _ s t h => .lost h (.inl rfl)
    exact ⟨_, _, _, ⟨station_aimed (by rintro ⟨⟩), .inl rfl⟩, h⟩

end Reservation

/-! ## A renewal -/

section Renewal

open Act (Holds)

variable {adv : Adversary} {o₀ o : Order} {r₀ r : Reseller} {p : Product} {B₀ B : Rows₂}
  {α : Type} {Q : α → Session → Journal → Prop}

theorem Complete.of_targetSnapshot {live : Admin} {now : Datetime} {target : Snapshot}
    (h : targetSnapshot live p now = .ok target) (before : Snapshot) :
    Complete (applying before target o) := by
  unfold targetSnapshot at h
  obtain ⟨expire, -, h⟩ := bind_eq_ok h
  cases h
  exact ⟨_, rfl, by rintro ⟨⟩⟩

theorem Station.applying (st : Station o₀ r₀ B₀ B o r) {before target : Snapshot}
    (hcomplete : Complete (applying before target o)) :
    Station o₀ r₀ B₀ (some (applying before target o), some r) (applying before target o) r := by
  have hr : r.status = r₀.status ∨ r.status = .PROVISIONING := by
    cases st.retryable none with
    | kept => exact .inl rfl
    | targeted _ _ reseller => exact reseller
  have hretry : ∀ err, Retryable o₀ r₀
      (some { ResellerBot.applying before target o with applyError := err }, some r) :=
    fun _ => .targeted rfl hcomplete hr
  exact ⟨st.order, st.reseller, .inr (hretry _), hretry, by rintro ⟨⟩⟩

theorem against_failOrder (st : Station o₀ r₀ B₀ B o r) (e : Err) :
    Against adv (Held B o o r r p (Fine o₀ r₀ p)) (failOrder e) Q
      fun _ => Exit o₀ r₀ p B₀ (Harmless o₀ r₀ p) :=
  against_setOrder (by simp [Order.update, failed]) (Holds.raise fun s t h =>
    st.exit (some e.msg) h rfl fun _ _ hF => hF)

theorem against_getAdmin (st : Station o₀ r₀ B₀ B o r) (username : Option String) :
    Against adv (Held B o o r r p (Fine o₀ r₀ p)) (getAdmin username)
      (fun _ => Held B o o r r p (Fine o₀ r₀ p)) fun _ => Exit o₀ r₀ p B₀ (Harmless o₀ r₀ p) :=
  against_callFine.conseq (fun _ _ h => h) (fun _ _ _ h => h) fun _ _ _ h =>
    st.exit o.applyError h rfl fun _ _ hF => hF

theorem against_verifyTarget (st : Station o₀ r₀ B₀ B o r) (live : Admin) (target : Snapshot)
    (now : Datetime) :
    Against adv (Held B o o r r p (Fine o₀ r₀ p)) (verifyTarget live target now)
      (fun _ _ _ => True) fun _ => Exit o₀ r₀ p B₀ (Harmless o₀ r₀ p) := by
  refine Holds.bind (against_getAdmin st _) fun verified => Holds.ite ?_ (against_failOrder st _)
  refine against_setReseller (by simp [Reseller.update, reactivate]) (against_product ?_)
  refine against_setReseller (by simp [Reseller.update, reactivate]) ?_
  exact against_setOrder (by simp [Order.update, applied]) (Holds.pure fun _ _ _ => trivial)

theorem against_performTarget (st : Station o₀ r₀ B₀ B o r) (live : Admin) (target : Snapshot)
    (now : Datetime) :
    Against adv (Held B o o r r p (Fine o₀ r₀ p)) (performTarget live target now)
      (fun _ _ _ => True) fun _ => Exit o₀ r₀ p B₀ (Harmless o₀ r₀ p) := by
  refine against_order (against_reseller (Holds.ite ?_ ?_))
  · exact Holds.raise fun s t h => st.exit o.applyError h rfl fun _ _ hF => hF
  refine Holds.bind (Holds.attempt (X := fun _ => Held B o o r r p (Fine o₀ r₀ p))
    (Holds.bind against_callFine fun _ => Holds.when (fun _ => against_callFine)
      fun _ _ _ h => h)) fun res => ?_
  cases res with
  | error e => exact against_failOrder st e
  | ok _ => exact against_verifyTarget st live target now

theorem against_beginTarget (st : Station o₀ r₀ B₀ B o r) (live : Admin) (now : Datetime) :
    Against adv (Held B o o r r p (Fine o₀ r₀ p)) (beginTarget live now commit)
      (fun _ _ _ => True) fun _ => Exit o₀ r₀ p B₀ (Harmless o₀ r₀ p) := by
  refine against_product (Holds.bind (Q := fun target s t =>
    Held B o o r r p (Fine o₀ r₀ p) s t ∧ targetSnapshot live p now = .ok target)
    (Holds.outcome (fun _ htarget _ _ h => ⟨h, htarget⟩) fun _ _ _ _ h =>
      st.exit o.applyError h rfl fun _ _ hF => hF) fun target => ?_)
  rintro s t ⟨h, htarget⟩
  refine (against_setOrder (by simp [Order.update, applying]) ?_) s t h
  refine Holds.bind ((against_commit enduring_fine).conseq (fun _ _ h => h) (fun _ _ _ h => h)
    fun _ s t h => st.lost h rfl fun _ _ hF => hF) fun _ => ?_
  exact against_performTarget (st.applying (Complete.of_targetSnapshot htarget _)) live target now

theorem against_resumeTarget (st : Station o₀ r₀ B₀ B o r) (live : Admin)
    (before : Option Snapshot) (target : Snapshot) (now : Datetime) :
    Against adv (Held B o o r r p (Fine o₀ r₀ p)) (resumeTarget live before target now)
      (fun _ _ _ => True) fun _ => Exit o₀ r₀ p B₀ (Harmless o₀ r₀ p) := by
  cases before with
  | none => exact against_failOrder st _
  | some before =>
    refine Holds.ite ?_ (Holds.ite (against_performTarget st live target now)
      (against_failOrder st _))
    refine against_setOrder (by simp [Order.update, applied]) ?_
    exact against_setReseller (by simp [Reseller.update, reactivate])
      (Holds.pure fun _ _ _ => trivial)

theorem against_applyOrderLocked (st : Station o₀ r₀ B₀ B o r) (now : Datetime) :
    Against adv (Held B o o r r p (Fine o₀ r₀ p)) (applyOrderLocked now commit)
      (fun _ _ _ => True) fun _ => Exit o₀ r₀ p B₀ (Harmless o₀ r₀ p) := by
  refine against_order (Holds.ite (Holds.pure fun _ _ _ => trivial) (against_reseller
    (Holds.ite (Holds.pure fun _ _ _ => trivial) ?_)))
  refine Holds.bind (against_getAdmin st _) fun live => ?_
  cases live with
  | none => exact Holds.raise fun s t h => st.exit o.applyError h rfl fun _ _ hF => hF
  | some live =>
    unfold applyLive
    cases o.target with
    | none => exact against_beginTarget st live now
    | some target => exact against_resumeTarget st live _ target now

/-- A request that does not count does not change the verdict. -/
theorem Exit.saw {good : Past → Prop} {s : Session} {t : Journal} (h : Exit o₀ r₀ p B₀ good s t)
    (e : Ev) (res : Resp e) (hgood : ∀ h, good (⟨e, res⟩ :: h) ↔ good h) :
    Exit o₀ r₀ p B₀ good s (t.saw e res) := by
  cases h with
  | lost lost saved => exact .lost { lost with fact := (hgood _).mpr lost.fact } saved
  | held order reseller saved held =>
    exact .held order reseller saved
      { held with fact := ⟨held.fact.1, held.fact.2.trans (hgood _).symm⟩ }

/-- The lock of the order is released after an exception as well. -/
theorem against_applyOrder (st : Station o₀ r₀ B₀ B o r) (now : Datetime) :
    Against adv (Held B o o r r p (Fine o₀ r₀ p)) (applyOrder now commit)
      (fun _ _ _ => True) fun _ => Exit o₀ r₀ p B₀ (Harmless o₀ r₀ p) := by
  refine against_order (Holds.bind (against_passFine rfl (by rintro ⟨⟩) fun t => ⟨_, rfl⟩)
    fun _ => Holds.bind (Holds.attempt (against_applyOrderLocked st now)) fun res => ?_)
  cases res with
  | ok b =>
    refine Holds.bind (Q := fun _ _ _ => True) ?_ fun _ => Holds.pure fun _ _ h => h
    exact Holds.request (fun _ _ _ => trivial) fun _ _ _ _ _ _ => trivial
  | error e =>
    refine Holds.bind (Q := fun _ => Exit o₀ r₀ p B₀ (Harmless o₀ r₀ p)) ?_ fun _ =>
      Holds.raise fun _ _ h => h
    refine Holds.request (fun _ _ _ => trivial) fun s t res t' h hres => ?_
    cases hres
    exact h.saw _ _ fun h => harmless_cons rfl (by rintro ⟨⟩)

end Renewal

/-! ## The attempt and its report -/

section Attempt

open Act (Holds)

variable {adv : Adversary} {cfg : Settings} {o : Order} {r : Reseller} {p : Product} {B : Rows₂}

theorem against_named (hopen : o.status ≠ .APPLIED) :
    Against adv (Named o r p B) (do
        let reseller ← Slot.reseller.read
        if reseller.status = .PROVISIONING then do
          provisionOrder cfg
          pure none
        else do
          let now ← now
          let changed ← applyOrder now commit
          pure (some changed))
      (fun _ _ _ => True) fun _ => Exit o r p B (Harmless o r p) := by
  refine Holds.ex fun B' => Holds.ex fun o' => Holds.ex fun r' => ?_
  rintro s t ⟨⟨st, hnamed⟩, h⟩
  refine against_reseller ?_ s t h
  by_cases hstatus : r'.status = .PROVISIONING
  · rw [if_pos hstatus]
    exact Holds.bind (against_provisionOrder st hopen) fun _ => Holds.pure fun _ _ h => h
  · rw [if_neg hstatus]
    have hname : truthy r.rebeccaAdminUsername = true := hnamed.resolve_left hstatus
    refine Holds.bind (Q := fun _ => Held B' o' o' r' r' p (Fine o r p))
      (against_ask (fun t => ⟨_, rfl⟩) fun T h _ hF => (harmless_now hname).mpr hF) fun now => ?_
    exact Holds.bind (against_applyOrder st now) fun _ => Holds.pure fun _ _ h => h

/-- Every point at which the `try` block can fail. -/
theorem against_applyPaid (hopen : o.status ≠ .APPLIED) :
    Against adv (Held B o o r r p Untouched) (applyPaid cfg) (fun _ _ _ => True)
      fun _ => Exit o r p B (Harmless o r p) := by
  have st : Station o r B B o r := Station.self hopen
  refine against_reseller (Holds.bind (Q := fun _ => Named o r p B) (Holds.when ?_ ?_) fun _ =>
    against_named hopen)
  · intro hnot
    exact against_reserveUsername st (by simpa using hnot)
  · intro htruthy s t h
    refine ⟨B, o, r, ⟨st, .inr (by simpa using htruthy)⟩, { h with fact := h.fact.harmless }⟩

/-- The verdict is on the past up to here. -/
theorem Exit.settled {good : Past → Prop} {s : Session} {t : Journal} (h : Exit o r p B good s t) :
    Exit o r p B (fun _ => good t.past) s t := by
  cases h with
  | lost lost saved => exact .lost { lost with fact := lost.fact } saved
  | held order reseller saved held =>
    exact .held order reseller saved { held with fact := held.fact }

theorem against_notifyOwners {B' : Rows₂} {od' o' : Order} {rd' r' : Reseller}
    {F : Tables → Prop} {X : Err → Session → Journal → Prop} (owners : List ℤ) :
    Against adv (Held B' od' o' rd' r' p fun T _ => F T) (notifyOwners owners)
      (fun _ => Held B' od' o' rd' r' p fun T _ => F T) X := by
  refine Holds.forEach (fun owner => Holds.bind (Q := fun _ => Held B' od' o' rd' r' p
    fun T _ => F T) ?_ fun _ => Holds.pure fun _ _ h => h) owners
  unfold notify sendMessage
  refine Holds.bind (Holds.attempt (Q := fun _ => Held B' od' o' rd' r' p fun T _ => F T)
    (X := fun _ => Held B' od' o' rd' r' p fun T _ => F T) (Holds.bind (Q := fun _ =>
      Held B' od' o' rd' r' p fun T _ => F T) (against_ask (fun t => ⟨_, rfl⟩) fun _ _ _ h => h)
        fun res => Holds.outcome (fun _ _ _ _ h => h) fun _ _ _ _ h => h)) fun res => ?_
  cases res with
  | ok _ => exact Holds.pure fun _ _ h => h
  | error _ => exact Holds.pure fun _ _ h => h

/-- The `except` block writes an audit row and changes neither of the two. -/
theorem against_reportPaid {good : Prop} (e : Err) :
    Against adv (Exit o r p B fun _ => good) (reportPaid cfg (.error e))
      (fun _ => Exit o r p B fun _ => good) fun _ => Exit o r p B fun _ => good := by
  intro s t h
  cases h with
  | lost lost saved =>
    have hread : reportPaid cfg (.error e) s = .ret (.error pendingRollbackError, s) := by
      unfold reportPaid Slot.read
      simp only [Act.state, bind, Act.bind, Prog.bind]
      rw [show Slot.order.get s = none from lost.order]
      simp only [lost.broken, if_true]
      rfl
    show Ok _ (reportPaid cfg (.error e) s) _ t
    rw [hread]
    exact .lost lost saved
  | held order reseller saved held =>
    refine ((against_order (Holds.bind (against_audit _ _ _) fun _ =>
      against_notifyOwners _)).post fun _ s t h => ?_) s t held
    exact .held order reseller saved h

/-- The rows after a failed attempt and its report. -/
theorem Exit.of_run {s s₁ s₂ : Session} {t t₁ t₂ : Journal} {e : Err} {res : Except Err Unit}
    (hopen : o.status = .PAID ∨ o.status = .APPLYING)
    (hstart : Held B o o r r p (fun _ h => h = []) s t)
    (hraised : Act.run adv.react s t (applyPaid cfg) = ((.error e, s₁), t₁))
    (hreported : Act.run adv.react s₁ t₁ (reportPaid cfg (.error e)) = ((res, s₂), t₂)) :
    Exit o r p B (fun _ => Harmless o r p t₁.past) s₂ t₂ := by
  have hunapplied : o.status ≠ .APPLIED := by
    obtain h | h := hopen
    · rw [h]
      rintro ⟨⟩
    · rw [h]
      rintro ⟨⟩
  have huntouched : Held B o o r r p Untouched s t := by
    refine { hstart with fact := ?_ }
    rw [hstart.fact]
    exact ⟨by rintro ⟨_, ⟨⟩⟩, by rintro _ ⟨⟩⟩
  have hexit := (show Against adv (Held B o o r r p Untouched) (applyPaid cfg) (fun _ _ _ => True)
    fun _ => Exit o r p B (Harmless o r p) from against_applyPaid hunapplied).run huntouched
  rw [hraised] at hexit
  have hleft := (show Against adv _ (reportPaid cfg (.error e)) _ _ from
    against_reportPaid e).run (Exit.settled hexit)
  rw [hreported] at hleft
  cases res with
  | ok _ => exact hleft
  | error _ => exact hleft

/-- **What a failed attempt leaves can be tried again if and only if no message was delivered and no
reservation was left without a target.** -/
theorem retryable_iff (adv : Adversary) (cfg : Settings) {B : Rows₂} {o : Order} {r : Reseller}
    {p : Product} {s s₁ s₂ : Session} {t t₁ t₂ : Journal} {e : Err} {res : Except Err Unit}
    (hopen : o.status = .PAID ∨ o.status = .APPLYING)
    (hstart : Held B o o r r p (fun _ h => h = []) s t)
    (hraised : Act.run adv.react s t (applyPaid cfg) = ((.error e, s₁), t₁))
    (hreported : Act.run adv.react s₁ t₁ (reportPaid cfg (.error e)) = ((res, s₂), t₂)) :
    LeavesRetryable o r B s₂ t₂ ↔ ¬Reached t₁.past ∧ ¬Stranded o r p t₁.past :=
  (Exit.of_run hopen hstart hraised hreported).leavesRetryable_iff

end Attempt

/-! ## An admin that is gone -/

namespace Gone

def cfg : Settings :=
  ⟨"", [9], "", false, true, true, true, 72, 24, 10, [3, 1], [20], false, "", ""⟩

def product : Product := ⟨2, "30 days", [.int 7], 30, 1, some 20⟩

def target : Snapshot := provisioningTarget "ali_1234" (30 * day) product

def order : Order where
  id := 1
  orderNumber := "ORD-1"
  resellerId := 3
  productId := 2
  amount := 10
  currency := "USD"
  status := .APPLYING
  paymentMethod := .card
  paidAt := some 0
  appliedAt := none
  beforeSnapshot := none
  afterSnapshot := some (.target target)
  applyError := none

def reseller : Reseller where
  id := 3
  telegramId := 5
  telegramUsername := some "ali"
  rebeccaAdminUsername := some "ali_1234"
  status := .PROVISIONING
  productId := none
  expiresAt := none
  purchasedTrafficBytes := 0
  lastKnownDataLimit := 0
  lastKnownUsage := 0
  lastKnownRemaining := 0
  trial := false
  trialUsed := false
  suspendedReason := none
  lastSyncAt := none
  automationHold := false

def admin : Admin := ⟨"ali_1234", "reseller", "active", some (30 * day), some (1024 ^ 3), 0,
  [.int 7], some 20⟩

/-- Rebecca has the admin until its owner has been told. -/
def rebecca (told : Bool) : (c : Call) → Except Err c.Result
  | .getAdmin _ => if told then .ok none else .ok (some admin)
  | .updateAdmin _ _ => .ok ()
  | _ => .error ⟨.unavailable, ""⟩

def adversary : Adversary where
  answer
    | .query _, _ | .execute _, _ | .chatMember _ _, _ | .transaction _, _ =>
      .error ⟨.operational, ""⟩
    | .flush _, _ | .commit, _ | .send _, _ => .ok ()
    | .call _ c, h => rebecca (h.any (·.1.isSend)) c
    | .now, _ => (0 : ℤ)
    | .randbelow _, _ => (0 : ℕ)
    | .token _, _ => ""
    | .rollback, _ | .lock _, _ | .unlock _, _ | .createTask, _ => ()
  fault _ := none

def session : Session :=
  { Session.empty with
    order := some ⟨some order, order⟩
    reseller := some ⟨some reseller, reseller⟩
    product := some ⟨some product, product⟩ }

def tables : Tables := ⟨[reseller], [product], [order], [], [], [], [], [], [], [], []⟩

def ledger : Journal := ⟨tables, tables, []⟩

theorem held : Held (some order, some reseller) order order reseller reseller product
    (fun _ h => h = []) session ledger where
  sound := rfl
  order := rfl
  reseller := rfl
  product := ⟨_, rfl⟩
  pending := ⟨[], rfl⟩
  payment := rfl
  trial := rfl
  user := rfl
  stored := by decide
  orderColumns := Order.update_self _
  resellerColumns := Reseller.update_self _
  saved := by decide
  fact := rfl

/-- The end of the `try` block. -/
def raised : (Except Err (Option Bool) × Session) × Journal :=
  Act.run adversary.react session ledger (applyPaid cfg)

def error : Err := ⟨.attributeError, "'NoneType' object has no attribute 'model_dump'"⟩

theorem raised_eq : raised = ((.error error, raised.1.2), raised.2) := by
  have h : raised.1.1 = .error error := by cbv
  rw [← h]

/-- The end of the `except` block. -/
def reported : (Except Err Unit × Session) × Journal :=
  Act.run adversary.react raised.1.2 raised.2 (reportPaid cfg (.error error))

/-- The chat that a message has been delivered to. -/
def told : Reply Ev Resp → Option ℤ
  | ⟨.send chat, .ok ()⟩ => some chat
  | _ => none

theorem delivered : Reached raised.2.past := by
  have h : raised.2.past.filterMap told = [5] := by cbv
  have hmem : (5 : ℤ) ∈ raised.2.past.filterMap told := by rw [h]; exact List.mem_singleton_self 5
  obtain ⟨⟨e, res⟩, hx, hchat⟩ := List.mem_filterMap.mp hmem
  cases e with
  | send chat =>
    cases res with
    | ok _ => exact ⟨chat, hx⟩
    | error _ => cases hchat
  | _ => cases hchat

end Gone

theorem retryable_gone : LeavesRetryable Gone.order Gone.reseller
      (some Gone.order, some Gone.reseller) Gone.reported.1.2 Gone.reported.2 ↔
    ¬Reached Gone.raised.2.past ∧
      ¬Stranded Gone.order Gone.reseller Gone.product Gone.raised.2.past :=
  retryable_iff Gone.adversary Gone.cfg (.inr rfl) Gone.held Gone.raised_eq rfl

end ResellerBot
