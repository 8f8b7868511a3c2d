import ResellerBot.Database.Run
import ResellerBot.Payments.Service

/-!
# ResellerBot.Payments.Recovery — a second attempt after a fault

One attempt to apply an order meets one fault: a call ends in an exception and has taken effect or
not.  The next attempt meets none.
-/

open Interact

namespace ResellerBot

/-! ## One fault -/

namespace Server

/-- What an obedient Rebecca answers to the calls of a renewal. -/
def obey (sv : Server) : (c : Call) → Except Err c.Result × Server
  | .getAdmin username => (.ok (sv.getAdmin username), sv)
  | .updateAdmin username p =>
    match sv.perform (.updateAdmin username p) with
    | .ok sv' => (.ok (), sv')
    | .error e => (.error e, sv)
  | .enableAdmin username =>
    match sv.perform (.enableAdmin username) with
    | .ok sv' => (.ok (), sv')
    | .error e => (.error e, sv)
  | _ => (.error (notFoundError ""), sv)

variable {sv : Server} {name : String} {a : Admin}

@[simp] theorem getAdmin_setAdmin :
    (sv.setAdmin name a).getAdmin (some name) = some { a with username := name } := by
  simp [getAdmin, setAdmin]

@[simp] theorem admins_setAdmin : (sv.setAdmin name a).admins name = some a := by
  simp [setAdmin]

@[simp] theorem setAdmin_setAdmin {b : Admin} :
    (sv.setAdmin name a).setAdmin name b = sv.setAdmin name b := by
  simp [setAdmin]

theorem getAdmin_of (h : sv.admins name = some a) :
    sv.getAdmin (some name) = some { a with username := name } := by
  simp [getAdmin, h]

end Server

/-- A Rebecca with at most one fault: after so many calls, the next one ends in an exception and
takes effect or not. -/
structure Lab where
  server : Server
  fault : Option (ℕ × Err × Bool)

namespace Lab

def call (w : Lab) (c : Call) : Except Err c.Result × Lab :=
  match w.fault with
  | none => ((w.server.obey c).1, ⟨(w.server.obey c).2, none⟩)
  | some (0, e, took) => (.error e, ⟨if took then (w.server.obey c).2 else w.server, none⟩)
  | some (n + 1, e, took) => ((w.server.obey c).1, ⟨(w.server.obey c).2, some (n, e, took)⟩)

/-- The database and the locks have no faults. -/
def react : (e : Ev) → Lab → Resp e × Lab
  | .call _ c, w => w.call c
  | .flush _, w | .commit, w => (.ok (), w)
  | .execute _, w => (.ok 0, w)
  | .query _, w | .chatMember _ _, w | .transaction _, w => (.error ⟨.operational, ""⟩, w)
  | .send _, w => (.ok (), w)
  | .now, w => ((0 : ℤ), w)
  | .randbelow _, w => ((0 : ℕ), w)
  | .token _, w => ("", w)
  | .rollback, w | .lock _, w | .unlock _, w | .createTask, w => ((), w)

end Lab

/-! ## The objects of an attempt -/

structure Desk (s : Session) (o : Order) (r : Reseller) (p : Product) : Prop where
  sound : s.broken = false
  order : ∃ db, s.order = some ⟨db, o⟩
  reseller : ∃ db, s.reseller = some ⟨db, r⟩
  product : ∃ db, s.product = some ⟨db, p⟩

namespace Desk

variable {s : Session} {o : Order} {r : Reseller} {p : Product}

theorem assignOrder (h : Desk s o r p) (f : Order → Order) :
    Desk (Slot.order.put s ((Slot.order.get s).map fun ob => ⟨ob.db, f ob.cur⟩)) (f o) r p := by
  obtain ⟨db, ho⟩ := h.order
  exact ⟨h.sound, ⟨db, by simp [Slot.order, ho]⟩, h.reseller, h.product⟩

theorem assignReseller (h : Desk s o r p) (f : Reseller → Reseller) :
    Desk (Slot.reseller.put s ((Slot.reseller.get s).map fun ob => ⟨ob.db, f ob.cur⟩)) o (f r)
      p := by
  obtain ⟨db, hr⟩ := h.reseller
  exact ⟨h.sound, h.order, ⟨db, by simp [Slot.reseller, hr]⟩, h.product⟩

theorem flushed (h : Desk s o r p) : Desk s.flushed o r p := by
  obtain ⟨db, ho⟩ := h.order
  obtain ⟨db', hr⟩ := h.reseller
  refine ⟨h.sound, ⟨some o, ?_⟩, ⟨some r, ?_⟩, h.product⟩
  · simp [Session.flushed, ho, Session.clean]
  · simp [Session.flushed, hr, Session.clean]

variable {w : Lab}

theorem run_order (h : Desk s o r p) : Act.run Lab.react s w Slot.order.read = ((.ok o, s), w) := by
  obtain ⟨db, ho⟩ := h.order
  exact run_read Lab.react s w (show Slot.order.get s = _ from ho)

theorem run_reseller (h : Desk s o r p) :
    Act.run Lab.react s w Slot.reseller.read = ((.ok r, s), w) := by
  obtain ⟨db, hr⟩ := h.reseller
  exact run_read Lab.react s w (show Slot.reseller.get s = _ from hr)

theorem run_product (h : Desk s o r p) :
    Act.run Lab.react s w Slot.product.read = ((.ok p, s), w) := by
  obtain ⟨db, hp⟩ := h.product
  exact run_read Lab.react s w (show Slot.product.get s = _ from hp)

theorem run_commit (h : Desk s o r p) :
    Act.run Lab.react s w commit = ((.ok (), s.flushed), w) := by
  have hf : Act.run Lab.react s w flush = ((.ok (), s.flushed), w) := by
    unfold flush
    rw [Act.run_bind, Act.run_state]
    simp only [h.sound, Bool.false_eq_true, if_false]
    split_ifs
    · rfl
    · rfl
  rw [commit, Act.run_bind_ok _ _ _ _ hf]
  rfl

end Desk

/-! ## The calls of a renewal -/

/-- The admin after the update, and after the enable if there is one. -/
def renewed (a : Admin) (target : Snapshot) (paused : Bool) : Admin :=
  if paused then { Server.written a (renewalPayload target) with status := "active" }
  else Server.written a (renewalPayload target)

section Calls

variable {s : Session} {sv : Server} {name : String} {a : Admin} {target : Snapshot} {why : Cause}
  {paused took : Bool} {e : Err} {n : ℕ}

theorem run_update (h : sv.admins name = some a) (f : Option (ℕ × Err × Bool)) :
    Act.run Lab.react s ⟨sv, f⟩ (call why (.updateAdmin name (renewalPayload target))) =
      match f with
      | none => ((.ok (), s), ⟨sv.setAdmin name (renewed a target false), none⟩)
      | some (0, e, took) =>
        ((.error e, s), ⟨if took then sv.setAdmin name (renewed a target false) else sv, none⟩)
      | some (n + 1, e, took) =>
        ((.ok (), s), ⟨sv.setAdmin name (renewed a target false), some (n, e, took)⟩) := by
  rw [run_call]
  rcases f with _ | ⟨_ | n, e, took⟩ <;>
    simp [Lab.react, Lab.call, Server.obey, Server.perform, h, renewed]

theorem run_enable (f : Option (ℕ × Err × Bool)) :
    Act.run (α := Unit) Lab.react s ⟨sv.setAdmin name (renewed a target false), f⟩
        (call why (.enableAdmin name)) =
      match f with
      | none => ((.ok (), s), ⟨sv.setAdmin name (renewed a target true), none⟩)
      | some (0, e, took) =>
        ((.error e, s), ⟨sv.setAdmin name (renewed a target took), none⟩)
      | some (n + 1, e, took) =>
        ((.ok (), s), ⟨sv.setAdmin name (renewed a target true), some (n, e, took)⟩) := by
  rw [run_call]
  rcases f with _ | ⟨_ | n, e, _ | _⟩ <;>
    simp [Lab.react, Lab.call, Server.obey, Server.perform, renewed]

theorem run_get (h : sv.admins name = some a) (f : Option (ℕ × Err × Bool)) :
    Act.run Lab.react s ⟨sv, f⟩ (getAdmin (some name)) =
      match f with
      | none => ((.ok (some { a with username := name }), s), ⟨sv, none⟩)
      | some (0, e, _) => ((.error e, s), ⟨sv, none⟩)
      | some (n + 1, e, took) =>
        ((.ok (some { a with username := name }), s), ⟨sv, some (n, e, took)⟩) := by
  rw [run_getAdmin]
  rcases f with _ | ⟨_ | n, e, took⟩ <;>
    simp [Lab.react, Lab.call, Server.obey, Server.getAdmin_of h]

/-- How many calls a renewal makes before it verifies. -/
def writes (paused : Bool) : ℕ := if paused then 2 else 1

theorem run_writeTarget (h : sv.admins name = some a) :
    Act.run Lab.react s ⟨sv, none⟩ (writeTarget why name target paused) =
      ((.ok (), s), ⟨sv.setAdmin name (renewed a target paused), none⟩) := by
  cases paused <;> simp [writeTarget, Act.run_bind, Act.when, run_update h, run_enable]

/-- A later fault leaves the calls alone. -/
theorem run_writeTarget_later (h : sv.admins name = some a) :
    Act.run Lab.react s ⟨sv, some (n + writes paused, e, took)⟩
        (writeTarget why name target paused) =
      ((.ok (), s), ⟨sv.setAdmin name (renewed a target paused), some (n, e, took)⟩) := by
  cases paused
  · simp [writeTarget, writes, Act.run_bind, Act.when, run_update h]
  · simp [writeTarget, writes, Act.run_bind, Act.when, run_update h, run_enable]

theorem run_writeTarget_update (h : sv.admins name = some a) (e : Err) (took : Bool) :
    Act.run Lab.react s ⟨sv, some (0, e, took)⟩ (writeTarget why name target paused) =
      ((.error e, s), ⟨if took then sv.setAdmin name (renewed a target false) else sv, none⟩) := by
  simp [writeTarget, Act.run_bind, run_update h]

theorem run_writeTarget_enable (h : sv.admins name = some a) (e : Err) (took : Bool) :
    Act.run Lab.react s ⟨sv, some (1, e, took)⟩ (writeTarget why name target true) =
      ((.error e, s), ⟨sv.setAdmin name (renewed a target took), none⟩) := by
  simp [writeTarget, Act.run_bind, Act.when, run_update h, run_enable]

end Calls

/-! ## Attempts -/

theorem targetSnapshot_ok {a : Admin} {p : Product} {now : Datetime} {target : Snapshot}
    (h : targetSnapshot a p now = .ok target) :
    ∃ e, renewalExpiry a.expire now p.durationDays = .ok e ∧ target = {
      username := none
      dataLimit := some (renewalDataLimit a.dataLimit a.usedTraffic (gib p.trafficGb))
      expire := some e
      services := p.serviceIds
      usersLimit := p.usersLimit
      role := some "reseller"
      status := some "active" } := by
  unfold targetSnapshot at h
  cases he : renewalExpiry a.expire now p.durationDays with
  | error e => rw [he] at h; cases h
  | ok e =>
    rw [he] at h
    exact ⟨e, rfl, (Except.ok.inj h).symm⟩

section Attempts

variable {s : Session} {o : Order} {r : Reseller} {p : Product} {sv : Server} {name : String}
  {a b live : Admin} {target : Snapshot} {now t : Datetime} {e : Err} {w w' : Lab}

/-- Once its calls have taken effect, a renewal is as its target says. -/
theorem matches_renewed {paused : Bool} (hc : targetSnapshot b p t = .ok target)
    (hrole : a.role = "reseller") (hst : paused = true ∨ normalizeStatus a.status = "active")
    (hw : storedExpire target.expire = target.expire) :
    snapshotMatches (renewed a target paused) target = true := by
  obtain ⟨e, -, ht⟩ := targetSnapshot_ok hc
  have h1 : target.username = none ∧ target.role = some "reseller" ∧
      target.status = some "active" := by simp [ht]
  have hs : normalizeStatus (renewed a target paused).status = "active" := by
    cases paused
    · simpa [renewed, Server.written] using hst
    · exact normalizeStatus_active
  have hr : (renewed a target paused).role = "reseller" := by
    cases paused <;> simpa [renewed, Server.written, renewalPayload] using hrole
  have hv : (renewed a target paused).dataLimit = target.dataLimit ∧
      (renewed a target paused).expire = target.expire ∧
      (renewed a target paused).services = target.services ∧
      (renewed a target paused).usersLimit = target.usersLimit := by
    cases paused <;>
      simp [renewed, Server.written, renewalPayload, Snapshot.entitlement, hw]
  unfold snapshotMatches entitlementSnapshot Snapshot.expected
  rw [hs, hr, hv.1, hv.2.1, hv.2.2.1, hv.2.2.2, h1.1, h1.2.1, h1.2.2, Option.getD_some,
    normalizeStatus_active]
  exact decide_eq_true rfl

theorem run_performTarget (hd : Desk s o r p) (he : target.expire ≠ none) :
    Act.run Lab.react s w (performTarget live target now) =
      match Act.run Lab.react s w
        (writeTarget (.renewal o r live) live.username target r.status.paused) with
      | ((.error e, s'), w') => Act.run Lab.react s' w' (failOrder e)
      | ((.ok (), s'), w') => Act.run Lab.react s' w' (verifyTarget live target now) := by
  rw [performTarget, Act.run_bind_ok _ _ _ _ hd.run_order, Act.run_bind_ok _ _ _ _ hd.run_reseller,
    if_neg he, Act.run_bind, Act.run_attempt]
  generalize Act.run Lab.react s w
    (writeTarget (.renewal o r live) live.username target r.status.paused) = x
  rcases x with ⟨⟨_ | _, s'⟩, w'⟩ <;> rfl

theorem run_failOrder (hd : Desk s o r p) : ∃ s',
    Act.run Lab.react s w (failOrder e : Bot Bool) = ((.error e, s'), w) ∧
      Desk s' (failed e.msg o) r p := by
  refine ⟨_, ?_, hd.assignOrder (failed e.msg)⟩
  simp [failOrder, Act.run_bind]

/-- The order has been applied. -/
theorem run_verifyTarget (hd : Desk s o r p)
    (hg : Act.run Lab.react s w (getAdmin (some live.username)) = ((.ok (some a), s), w'))
    (hm : snapshotMatches a target = true) : ∃ s',
    Act.run Lab.react s w (verifyTarget live target now) = ((.ok true, s'), w') ∧
      Desk s' (applied now o) { reactivate r with productId := some p.id } p := by
  have hd' := hd.assignReseller reactivate
  refine ⟨_, ?_, (hd'.assignReseller fun r => { r with productId := some p.id }).assignOrder
    (applied now)⟩
  rw [verifyTarget, Act.run_bind_ok _ _ _ _ hg]
  simp only [Option.map_some, Option.getD_some, hm, if_true]
  rw [Act.run_bind_ok _ _ _ _ (run_assign ..), Act.run_bind_ok _ _ _ _ hd'.run_product,
    Act.run_bind_ok _ _ _ _ (run_assign ..), Act.run_bind_ok _ _ _ _ (run_assign ..), Act.run_pure]

end Attempts

/-! ## Two attempts -/

/-- A paid renewal that nobody has worked on yet, and the admin `a` under `name` that Rebecca has
for its reseller. -/
structure Renewal (s : Session) (o : Order) (r : Reseller) (p : Product) (sv : Server)
    (name : String) (a : Admin) : Prop where
  desk : Desk s o r p
  paid : o.status = .PAID
  fresh : o.target = none
  admin : r.rebeccaAdminUsername = some name
  stored : sv.admins name = some a
  role : a.role = "reseller"
  status : (r.status = .ACTIVE ∧ normalizeStatus a.status = "active") ∨
    (r.status.paused = true ∧ normalizeStatus a.status = "disabled")
  whole : WholeSecond a.expire

/-- At `t` the target of the renewal is `target`, and Rebecca can store its expiry: Rebecca reads
the epoch as no expiry. -/
structure Computes (a : Admin) (p : Product) (t : Datetime) (target : Snapshot) : Prop where
  compute : targetSnapshot a p t = .ok target
  second : second ∣ t
  expire : target.expire ≠ some 0

/-- One call of `apply_order` by the scheduler. -/
def attempt (now : Datetime) (s : Session) (w : Lab) : (Except Err Bool × Session) × Lab :=
  Act.run Lab.react s w (applyOrder now commit)

/-- A first attempt with a fault. -/
def faulty (now : Datetime) (s : Session) (sv : Server) (fault : ℕ × Err × Bool) :
    (Except Err Bool × Session) × Lab :=
  attempt now s ⟨sv, some fault⟩

/-- The next attempt, which meets none. -/
def retried (now later : Datetime) (s : Session) (sv : Server) (fault : ℕ × Err × Bool) :
    (Except Err Bool × Session) × Lab :=
  attempt later (faulty now s sv fault).1.2 ⟨(faulty now s sv fault).2.server, none⟩

/-- The order is applied, and the live admin is as the target that was computed at `t`: quota and
days have been added once. -/
def Converged (a : Admin) (p : Product) (name : String) (t : Datetime) (s : Session) (sv : Server) :
    Prop :=
  ∃ ob target live e, s.order = some ob ∧ ob.cur.status = .APPLIED ∧ ob.cur.target = some target ∧
    sv.getAdmin (some name) = some live ∧ snapshotMatches live target = true ∧
    live.dataLimit = some (renewalDataLimit a.dataLimit a.usedTraffic (gib p.trafficGb)) ∧
    renewalExpiry a.expire t p.durationDays = .ok e ∧ live.expire = some e

section Recovery

variable {s s' : Session} {o : Order} {r : Reseller} {p : Product} {sv : Server} {name : String}
  {a b : Admin} {target : Snapshot} {now later t : Datetime} {e : Err} {n : ℕ} {took : Bool}
  {w w' : Lab}

theorem stored_target (ha : WholeSecond a.expire) (h : Computes a p t target) :
    storedExpire target.expire = target.expire ∧ target.expire ≠ none := by
  obtain ⟨e, he, ht⟩ := targetSnapshot_ok h.compute
  have hx : target.expire = some e := by rw [ht]
  have hm : second ∣ max (a.expire.getD t) t := by
    rcases hc : a.expire with _ | c
    · simpa using h.second
    · rw [hc] at ha
      rcases max_choice c t with hmax | hmax <;> rw [Option.getD_some, hmax]
      · exact ha.2
      · exact h.second
  have hwhole : second ∣ e := by
    rw [addDays_ok he]
    exact Int.dvd_add hm (Int.dvd_mul_of_dvd_right ⟨86400, rfl⟩)
  rw [hx]
  refine ⟨storedExpire_of_whole ⟨fun h0 => h.expire (by rw [hx, h0]), hwhole⟩ ?_, by simp⟩
  rintro _ ⟨⟩
  exact addDays_representable he

theorem converged_of_matches {ob : Obj Order} {live : Admin} (h : targetSnapshot a p t = .ok target)
    (ho : s.order = some ob) (hs : ob.cur.status = .APPLIED) (ht : ob.cur.target = some target)
    (hl : sv.getAdmin (some name) = some live) (hm : snapshotMatches live target = true) :
    Converged a p name t s sv := by
  obtain ⟨e, he, hx⟩ := targetSnapshot_ok h
  have hm' := of_decide_eq_true hm
  refine ⟨ob, target, live, e, ho, hs, ht, hl, hm, ?_, he, ?_⟩
  · have := congrArg Snapshot.dataLimit hm'
    simpa [entitlementSnapshot, Snapshot.expected, hx] using this
  · have := congrArg Snapshot.expire hm'
    simpa [entitlementSnapshot, Snapshot.expected, hx] using this

/-- The lock of the order never waits here. -/
theorem attempt_eq (hd : Desk s o r p) :
    attempt now s w = Act.run Lab.react s w (applyOrderLocked now commit) := by
  unfold attempt applyOrder
  rw [Act.run_bind_ok _ _ _ _ hd.run_order, withOrderLock, run_ask_bind, Act.run_bind,
    Act.run_attempt]
  show Act.run Lab.react _ _ (ask (.unlock o.id) >>= _) = _
  rw [run_ask_bind]
  simp only [Act.run_outcome]
  rfl

theorem attempt_applied (now : Datetime) (hd : Desk s o r p) (ho : o.status = .APPLIED) :
    attempt now s w = ((.ok false, s), w) := by
  rw [attempt_eq hd, applyOrderLocked, Act.run_bind_ok _ _ _ _ hd.run_order, if_pos ho,
    Act.run_pure]

theorem attempt_unread (now : Datetime) (hd : Desk s o r p) (ho : o.status ≠ .APPLIED)
    (hr : r.status ≠ .SUSPENDED) (hn : r.rebeccaAdminUsername = some name)
    (hg : Act.run Lab.react s w (getAdmin (some name)) = ((.error e, s), w')) :
    attempt now s w = ((.error e, s), w') := by
  rw [attempt_eq hd, applyOrderLocked, Act.run_bind_ok _ _ _ _ hd.run_order, if_neg ho,
    Act.run_bind_ok _ _ _ _ hd.run_reseller, if_neg hr, hn, Act.run_bind, hg]

/-- An attempt goes on with the target that is there, or makes one. -/
theorem attempt_read (now : Datetime) (hd : Desk s o r p) (ho : o.status ≠ .APPLIED)
    (hr : r.status ≠ .SUSPENDED) (hn : r.rebeccaAdminUsername = some name)
    (hg : Act.run Lab.react s w (getAdmin (some name)) = ((.ok (some a), s), w')) :
    attempt now s w = Act.run Lab.react s w' (applyLive o a now commit) := by
  rw [attempt_eq hd, applyOrderLocked, Act.run_bind_ok _ _ _ _ hd.run_order, if_neg ho,
    Act.run_bind_ok _ _ _ _ hd.run_reseller, if_neg hr, hn, Act.run_bind_ok _ _ _ _ hg]

theorem run_beginTarget (hd : Desk s o r p) (hc : targetSnapshot a p now = .ok target) : ∃ s',
    Desk s' (applying (entitlementSnapshot a) target o) r p ∧
      Act.run Lab.react s w (beginTarget a now commit) =
        Act.run Lab.react s' w (performTarget a target now) := by
  have hd' := hd.assignOrder (applying (entitlementSnapshot a) target)
  refine ⟨_, hd'.flushed, ?_⟩
  rw [beginTarget, Act.run_bind_ok _ _ _ _ hd.run_product, hc, Act.run_bind_ok _ _ _ _
    (Act.run_outcome ..), Act.run_bind_ok _ _ _ _ (run_assign ..),
    Act.run_bind_ok _ _ _ _ hd'.run_commit]

/-- With no fault to come, a target is performed. -/
theorem perform_done (now : Datetime) (hd : Desk s o r p) (he : target.expire ≠ none)
    (hb : sv.admins name = some b) (hl : a.username = name)
    (hm : snapshotMatches (renewed b target r.status.paused) target = true) : ∃ s',
    Act.run Lab.react s ⟨sv, none⟩ (performTarget a target now) =
        ((.ok true, s'), ⟨sv.setAdmin name (renewed b target r.status.paused), none⟩) ∧
      Desk s' (applied now o) { reactivate r with productId := some p.id } p := by
  subst hl
  rw [run_performTarget hd he, run_writeTarget hb]
  exact run_verifyTarget hd (run_get Server.admins_setAdmin none) hm

/-- A fault after the last call comes too late. -/
theorem perform_late (now : Datetime) (n : ℕ) (e : Err) (took : Bool) (hd : Desk s o r p)
    (he : target.expire ≠ none) (hb : sv.admins name = some b) (hl : a.username = name)
    (hm : snapshotMatches (renewed b target r.status.paused) target = true) : ∃ s',
    Act.run Lab.react s ⟨sv, some (n + 1 + writes r.status.paused, e, took)⟩
        (performTarget a target now) = ((.ok true, s'),
          ⟨sv.setAdmin name (renewed b target r.status.paused), some (n, e, took)⟩) ∧
      Desk s' (applied now o) { reactivate r with productId := some p.id } p := by
  subst hl
  rw [run_performTarget hd he, run_writeTarget_later hb]
  exact run_verifyTarget hd (run_get Server.admins_setAdmin (some (n + 1, e, took))) hm

/-- A fault in the read that verifies: the calls have taken effect. -/
theorem perform_unverified (now : Datetime) (e : Err) (took : Bool) (hd : Desk s o r p)
    (he : target.expire ≠ none) (hb : sv.admins name = some b) (hl : a.username = name) :
    Act.run Lab.react s ⟨sv, some (writes r.status.paused, e, took)⟩ (performTarget a target now) =
      ((.error e, s), ⟨sv.setAdmin name (renewed b target r.status.paused), none⟩) := by
  subst hl
  have hw : Act.run Lab.react s ⟨sv, some (writes r.status.paused, e, took)⟩
      (writeTarget (.renewal o r a) a.username target r.status.paused) =
        ((.ok (), s), ⟨sv.setAdmin a.username (renewed b target r.status.paused),
          some (0, e, took)⟩) := by
    simpa using run_writeTarget_later (n := 0) hb
  rw [run_performTarget hd he, hw]
  show Act.run Lab.react _ _ (verifyTarget a target now) = _
  rw [verifyTarget, Act.run_bind, run_get Server.admins_setAdmin (some (0, e, took))]

/-- A fault in one of the calls. -/
theorem perform_failed (now : Datetime) (hd : Desk s o r p) (he : target.expire ≠ none)
    (hw : Act.run Lab.react s w (writeTarget (.renewal o r a) a.username target r.status.paused) =
      ((.error e, s), w')) : ∃ s',
    Act.run Lab.react s w (performTarget a target now) = ((.error e, s'), w') ∧
      Desk s' (failed e.msg o) r p := by
  rw [run_performTarget hd he, hw]
  exact run_failOrder hd

/-- An order that has been begun with a target, and the admin that Rebecca has by now. -/
structure Begun (s : Session) (r : Reseller) (p : Product) (a : Admin) (target : Snapshot)
    (sv : Server) (name : String) (b : Admin) : Prop where
  desk : ∃ o, Desk s o r p ∧ o.status = .APPLYING ∧
    o.beforeSnapshot = some (entitlementSnapshot a) ∧ o.target = some target
  stored : sv.admins name = some b

/-- The second attempt has stopped: an ambiguous state is reported and nothing is written. -/
def Stopped (a : Admin) (target : Snapshot) (sv : Server)
    (after : (Except Err Bool × Session) × Lab) : Prop :=
  after.1.1 = .error (ambiguousError "live Rebecca entitlement is partial or ambiguous") ∧
  after.2.server = sv ∧ ∃ ob, after.1.2.order = some ob ∧ ob.cur.status = .APPLYING ∧
    ob.cur.beforeSnapshot = some (entitlementSnapshot a) ∧ ob.cur.target = some target

/-- The second attempt recognises what the first has done. -/
theorem resume (later : Datetime) (h : Begun s r p a target sv name b) (hr : r.status ≠ .SUSPENDED)
    (hn : r.rebeccaAdminUsername = some name) (hc : targetSnapshot a p now = .ok target)
    (he : target.expire ≠ none)
    (hm : snapshotMatches (renewed b target r.status.paused) target = true) :
    if snapshotMatches b target || snapshotMatches b (entitlementSnapshot a) then
      Converged a p name now (attempt later s ⟨sv, none⟩).1.2 (attempt later s ⟨sv, none⟩).2.server
    else Stopped a target sv (attempt later s ⟨sv, none⟩) := by
  obtain ⟨o, hd, hs, hbefore, ht⟩ := h.desk
  have hread := attempt_read later hd (by rw [hs]; decide) hr hn
    (run_get h.stored none)
  rw [hread, applyLive, ht, hbefore]
  simp only [resumeTarget]
  have e1 : snapshotMatches { b with username := name } target = snapshotMatches b target := rfl
  have e2 : snapshotMatches { b with username := name } (entitlementSnapshot a) =
    snapshotMatches b (entitlementSnapshot a) := rfl
  rw [e1, e2]
  by_cases h1 : snapshotMatches b target = true
  · -- everything has been done
    simp only [h1, Bool.true_or, if_true]
    have hd' := (hd.assignOrder (applied later)).assignReseller reactivate
    rw [Act.run_bind_ok _ _ _ _ (run_assign ..), Act.run_bind_ok _ _ _ _ (run_assign ..),
      Act.run_pure]
    obtain ⟨db, ho⟩ := hd'.order
    exact converged_of_matches hc ho rfl ht
      (Server.getAdmin_of h.stored) (e1.trans h1)
  · by_cases h2 : snapshotMatches b (entitlementSnapshot a) = true
    · -- nothing has been done
      simp only [h1, h2, Bool.or_true, if_true]
      obtain ⟨s₁, hrun, hd₁⟩ := perform_done later hd he h.stored
        (a := { b with username := name }) rfl hm
      rw [if_neg (by simp), hrun]
      obtain ⟨db, ho⟩ := hd₁.order
      exact converged_of_matches hc ho rfl ht Server.getAdmin_setAdmin hm
    · simp only [h1, h2, Bool.or_self, Bool.false_eq_true, if_false]
      obtain ⟨s₁, hrun, hd₁⟩ := run_failOrder (w := ⟨sv, none⟩)
        (e := ambiguousError "live Rebecca entitlement is partial or ambiguous") hd
      rw [hrun]
      obtain ⟨db, ho⟩ := hd₁.order
      exact ⟨rfl, rfl, _, ho, hs, hbefore, ht⟩

/-- The fault has left a changed entitlement on an admin that is still disabled. -/
def HalfDone (r : Reseller) (a : Admin) (target : Snapshot) (n : ℕ) (took : Bool) : Bool :=
  r.status.paused && (n = 1 && took || n = 2 && !took) &&
    !snapshotMatches (renewed a target false) (entitlementSnapshot a)

theorem not_matches_disabled {a : Admin} (hc : targetSnapshot a p now = .ok target)
    (hs : normalizeStatus a.status = "disabled") :
    snapshotMatches (renewed a target false) target = false := by
  obtain ⟨e, -, ht⟩ := targetSnapshot_ok hc
  have h1 : target.status = some "active" := by simp [ht]
  refine decide_eq_false fun h => ?_
  have h2 := congrArg Snapshot.status h
  simp only [entitlementSnapshot, Snapshot.expected, h1, Option.getD_some, normalizeStatus_active,
    Option.some.injEq] at h2
  have h3 : normalizeStatus (renewed a target false).status = "disabled" := hs
  rw [h3] at h2
  exact absurd h2 (by decide)

namespace Renewal

variable (h : Renewal s o r p sv name a)

include h

theorem unsuspended : r.status ≠ .SUSPENDED := by
  rcases h.status with ⟨hr, -⟩ | ⟨hr, -⟩
  · rw [hr]; decide
  · intro hs; rw [hs] at hr; exact absurd hr (by decide)

theorem status_cases : r.status.paused = true ∨ normalizeStatus a.status = "active" :=
  h.status.elim (fun hr => .inr hr.2) fun hr => .inl hr.1

theorem disabled (hp : r.status.paused = true) : normalizeStatus a.status = "disabled" := by
  rcases h.status with ⟨hr, -⟩ | ⟨-, hs⟩
  · rw [hr] at hp; exact absurd hp (by decide)
  · exact hs

theorem active (hs : normalizeStatus a.status = "active") : r.status.paused = false := by
  rw [← Bool.not_eq_true]
  intro hp
  rw [h.disabled hp] at hs
  exact absurd hs (by decide)

theorem matches_target (ht : Computes a p t target) (paused : Bool)
    (hs : paused = true ∨ normalizeStatus a.status = "active") :
    snapshotMatches (renewed a target paused) target = true :=
  matches_renewed ht.compute h.role hs (stored_target h.whole ht).1

/-- The retry of a renewed admin. -/
theorem matches_again (ht : Computes a p t target) (paused : Bool) :
    snapshotMatches (renewed (renewed a target paused) target r.status.paused) target = true := by
  refine matches_renewed ht.compute ?_ ?_ (stored_target h.whole ht).1
  · cases paused <;> exact h.role
  · refine h.status_cases.imp_right fun hs => ?_
    cases paused
    · exact hs
    · exact normalizeStatus_active

/-- An attempt without faults on an order that nobody has worked on. -/
theorem undisturbed (ht : Computes a p later target) :
    Converged a p name later (attempt later s ⟨sv, none⟩).1.2
      (attempt later s ⟨sv, none⟩).2.server := by
  rw [attempt_read later h.desk (by rw [h.paid]; decide) h.unsuspended h.admin
    (run_get h.stored none), applyLive, h.fresh]
  obtain ⟨s₁, hd₁, hrun⟩ := run_beginTarget (a := { a with username := name }) (w := ⟨sv, none⟩)
    h.desk ht.compute
  obtain ⟨s₂, hrun₂, hd₂⟩ := perform_done later hd₁ (stored_target h.whole ht).2 h.stored
    (a := { a with username := name }) rfl (h.matches_target ht _ h.status_cases)
  simp only [hrun, hrun₂]
  obtain ⟨db, ho⟩ := hd₂.order
  exact converged_of_matches ht.compute ho rfl rfl Server.getAdmin_setAdmin
    (h.matches_target ht _ h.status_cases)

/-- What the second attempt makes of the admin `b` that the first one has left. -/
theorem settled (ht : Computes a p now target) {sv' : Server}
    (hb : Begun s' r p a target sv' name b)
    (hm : snapshotMatches (renewed b target r.status.paused) target = true)
    (half : HalfDone r a target n took =
      !(snapshotMatches b target || snapshotMatches b (entitlementSnapshot a))) :
    if HalfDone r a target n took then Stopped a target sv' (attempt later s' ⟨sv', none⟩)
    else Converged a p name now (attempt later s' ⟨sv', none⟩).1.2
      (attempt later s' ⟨sv', none⟩).2.server := by
  have := resume later hb h.unsuspended h.admin ht.compute (stored_target h.whole ht).2 hm
  rw [half]
  cases hc : snapshotMatches b target || snapshotMatches b (entitlementSnapshot a) <;>
    simpa [hc] using this

/-- What a fault in the calls of a renewal leaves behind. -/
theorem perform_outcome (ht : Computes a p now target) {s₁ : Session}
    (hd : Desk s₁ (applying (entitlementSnapshot a) target o) r p) (k : ℕ) :
    (∃ res s' sv' b f, Act.run Lab.react s₁ ⟨sv, some (k, e, took)⟩
          (performTarget { a with username := name } target now) = ((res, s'), ⟨sv', f⟩) ∧
        Begun s' r p a target sv' name b ∧
        snapshotMatches (renewed b target r.status.paused) target = true ∧
        HalfDone r a target (k + 1) took =
          !(snapshotMatches b target || snapshotMatches b (entitlementSnapshot a))) ∨
    ∃ s' f, Act.run Lab.react s₁ ⟨sv, some (k, e, took)⟩
          (performTarget { a with username := name } target now) =
        ((.ok true, s'), ⟨sv.setAdmin name (renewed a target r.status.paused), f⟩) ∧
      Desk s' (applied now (applying (entitlementSnapshot a) target o))
        { reactivate r with productId := some p.id } p ∧
      HalfDone r a target (k + 1) took = false := by
  have he := (stored_target h.whole ht).2
  have disabled : r.status.paused = true →
      snapshotMatches (renewed a target false) target = false :=
    fun hp => not_matches_disabled ht.compute (h.disabled hp)
  have whole := fun paused hs => h.matches_target ht paused hs
  by_cases hk : k = 0
  · -- the update
    subst hk
    obtain ⟨s', hrun, hd'⟩ := perform_failed now (a := { a with username := name }) hd he
      (run_writeTarget_update h.stored e took)
    cases took
    · refine .inl ⟨_, _, _, a, _, hrun, ⟨⟨_, hd', rfl, rfl, rfl⟩, h.stored⟩,
        whole _ h.status_cases, ?_⟩
      simp [HalfDone, matches_entitlementSnapshot]
    · refine .inl ⟨_, _, _, renewed a target false, _, hrun,
        ⟨⟨_, hd', rfl, rfl, rfl⟩, Server.admins_setAdmin⟩, h.matches_again ht false, ?_⟩
      rcases h.status_cases with hp | hs
      · simp [HalfDone, hp, disabled hp]
      · have hp : r.status.paused = false := h.active hs
        simp [HalfDone, hp, whole false (.inr hs)]
  · by_cases hw : k < writes r.status.paused
    · -- the enable
      have hp : r.status.paused = true := by
        by_contra hp
        rw [Bool.not_eq_true] at hp
        rw [hp] at hw
        exact hk (Nat.lt_one_iff.mp hw)
      obtain rfl : k = 1 := by rw [hp] at hw; simp only [writes, if_true] at hw; omega
      obtain ⟨s', hrun, hd'⟩ := perform_failed now (a := { a with username := name }) hd he
        (by rw [hp]; exact run_writeTarget_enable h.stored e took)
      refine .inl ⟨_, _, _, renewed a target took, _, hrun,
        ⟨⟨_, hd', rfl, rfl, rfl⟩, Server.admins_setAdmin⟩, h.matches_again ht took, ?_⟩
      cases took
      · simp [HalfDone, hp, disabled hp]
      · simp [HalfDone, whole true (.inl rfl)]
    · obtain ⟨j, rfl⟩ := Nat.exists_eq_add_of_le' (Nat.le_of_not_lt hw)
      have late : HalfDone r a target (j + writes r.status.paused + 1) took = false := by
        cases hp : r.status.paused
        · simp [HalfDone, hp]
        · simp [HalfDone, hp, writes]
      cases j with
      | zero =>
        -- the read that verifies
        have hrun := perform_unverified now e took (a := { a with username := name }) hd he
          h.stored rfl
        rw [Nat.zero_add] at late ⊢
        refine .inl ⟨_, _, _, renewed a target r.status.paused, _, hrun,
          ⟨⟨_, hd, rfl, rfl, rfl⟩, Server.admins_setAdmin⟩, h.matches_again ht _, ?_⟩
        rw [late, whole _ h.status_cases]
        rfl
      | succ j =>
        obtain ⟨s', hrun, hd'⟩ := perform_late now j e took (a := { a with username := name })
          hd he h.stored rfl (whole _ h.status_cases)
        exact .inr ⟨s', _, hrun, hd', late⟩

/-- **A single fault heals, or is found.**  After one fault in the first attempt, the second one
ends with the order applied and the entitlement of its target, the quota and the days added once;
only where the fault has left a changed entitlement on an admin that is still disabled, it reports
that and writes nothing.  The later time is asked for a target only if the first attempt had none. -/
theorem second_attempt (later : Datetime) (fault : ℕ × Err × Bool) (ht : Computes a p now target)
    (hlater : fault.1 = 0 → ∃ target', Computes a p later target') :
    if HalfDone r a target fault.1 fault.2.2 then
      Stopped a target (faulty now s sv fault).2.server (retried now later s sv fault)
    else
      Converged a p name now (retried now later s sv fault).1.2
        (retried now later s sv fault).2.server ∨
      Converged a p name later (retried now later s sv fault).1.2
        (retried now later s sv fault).2.server := by
  obtain ⟨n, e, took⟩ := fault
  have hs : o.status ≠ .APPLIED := by rw [h.paid]; decide
  have key : ∀ c : Bool, ∀ P Q R : Prop, (if c then P else Q) → if c then P else Q ∨ R := by
    intro c P Q R hc
    cases c
    · exact .inl hc
    · exact hc
  cases n with
  | zero =>
    -- the first read fails: nothing has happened
    have hf : faulty now s sv (0, e, took) = ((.error e, s), ⟨sv, none⟩) :=
      attempt_unread now h.desk hs h.unsuspended h.admin (run_get h.stored (some (0, e, took)))
    have : HalfDone r a target 0 took = false := by simp [HalfDone]
    rw [this, if_neg (by decide)]
    refine .inr ?_
    simp only [retried, hf]
    obtain ⟨target', ht'⟩ := hlater rfl
    exact h.undisturbed ht'
  | succ k =>
    apply key
    have hread : faulty now s sv (k + 1, e, took) = Act.run Lab.react s ⟨sv, some (k, e, took)⟩
        (beginTarget { a with username := name } now commit) := by
      have := attempt_read now h.desk hs h.unsuspended h.admin
        (run_get h.stored (some (k + 1, e, took)))
      rw [applyLive, h.fresh] at this
      exact this
    obtain ⟨s₁, hd₁, hrun⟩ := run_beginTarget (a := { a with username := name })
      (w := ⟨sv, some (k, e, took)⟩) h.desk ht.compute
    rw [hrun] at hread
    rcases h.perform_outcome ht hd₁ k with
      ⟨res, s', sv', b, f, hout, hb, hm, hh⟩ | ⟨s', f, hout, hd', hh⟩
    · rw [hout] at hread
      simp only [retried, hread]
      exact h.settled ht hb hm hh
    · -- the fault came too late
      rw [hout] at hread
      obtain ⟨db, ho⟩ := hd'.order
      rw [hh, if_neg (by decide)]
      simp only [retried, hread, attempt_applied later hd' rfl]
      exact converged_of_matches ht.compute ho rfl rfl Server.getAdmin_setAdmin
        (h.matches_target ht _ h.status_cases)

end Renewal

end Recovery

/-! ## An expired reseller -/

namespace Lapsed

def order : Order where
  id := 100
  orderNumber := "100"
  resellerId := 1
  productId := 1
  amount := 1
  currency := "USD"
  status := .PAID
  paymentMethod := .card
  paidAt := none
  appliedAt := none
  beforeSnapshot := none
  afterSnapshot := none
  applyError := none

def reseller : Reseller where
  id := 1
  telegramId := 5
  telegramUsername := none
  rebeccaAdminUsername := some "ali_1234"
  status := .EXPIRED
  productId := none
  expiresAt := none
  purchasedTrafficBytes := 0
  lastKnownDataLimit := 0
  lastKnownUsage := 0
  lastKnownRemaining := 0
  trial := false
  trialUsed := false
  suspendedReason := none
  lastSyncAt := none
  automationHold := false

def product : Product := ⟨1, "1 GB", [.int 7], 30, 1, some 20⟩

def admin : Admin :=
  ⟨"ali_1234", "reseller", "disabled", some (1000 * second), some 100, 100, [.int 7], some 20⟩

def server : Server := ⟨fun u => if u = "ali_1234" then some admin else none, fun _ => none⟩

def session : Session :=
  { Session.empty with
    order := some ⟨some order, order⟩
    reseller := some ⟨some reseller, reseller⟩
    product := some ⟨some product, product⟩ }

/-- Two days later. -/
def now : Datetime := 174000 * second

def target : Snapshot where
  username := none
  dataLimit := some (100 + 1024 ^ 3)
  expire := some (now + 30 * day)
  services := [.int 7]
  usersLimit := some 20
  role := some "reseller"
  status := some "active"

theorem renewal : Renewal session order reseller product server "ali_1234" admin where
  desk := ⟨rfl, ⟨_, rfl⟩, ⟨_, rfl⟩, ⟨_, rfl⟩⟩
  paid := rfl
  fresh := rfl
  admin := rfl
  stored := by decide
  role := rfl
  status := .inr ⟨rfl, by decide⟩
  whole := ⟨by decide, by decide⟩

theorem computes : Computes admin product now target :=
  ⟨by decide, by decide, by decide⟩

/-- The response of the update is lost: the admin is never enabled, and the next attempt stops. -/
theorem stopped :
    (retried now now session server (1, ⟨.unavailable, "timeout"⟩, true)).1.2.order.map
      (·.cur.status) = some .APPLYING := by
  decide +kernel

end Lapsed

/-- A lost response of the enable does no harm. -/
theorem second_attempt_lapsed :
    Converged Lapsed.admin Lapsed.product "ali_1234" Lapsed.now
      (retried Lapsed.now Lapsed.now Lapsed.session Lapsed.server
        (2, ⟨.unavailable, "timeout"⟩, true)).1.2
      (retried Lapsed.now Lapsed.now Lapsed.session Lapsed.server
        (2, ⟨.unavailable, "timeout"⟩, true)).2.server := by
  have := Lapsed.renewal.second_attempt Lapsed.now (2, ⟨.unavailable, "timeout"⟩, true)
    Lapsed.computes fun h => absurd h (by decide)
  rw [if_neg (by decide)] at this
  exact this.elim id id

/-- Not every single fault heals: the entitlement of an expired reseller is written, and the admin
stays disabled. -/
theorem fault_not_healed : ¬ ∀ (s : Session) (o : Order) (r : Reseller) (p : Product) (sv : Server)
    (name : String) (a : Admin) (now later : Datetime) (target target' : Snapshot)
    (fault : ℕ × Err × Bool), Renewal s o r p sv name a → Computes a p now target →
    Computes a p later target' → now ≤ later →
      Converged a p name now (retried now later s sv fault).1.2
        (retried now later s sv fault).2.server ∨
      Converged a p name later (retried now later s sv fault).1.2
        (retried now later s sv fault).2.server := by
  intro h
  have hstop := Lapsed.stopped
  have hc := h _ _ _ _ _ _ _ _ _ _ _ (1, ⟨.unavailable, "timeout"⟩, true) Lapsed.renewal
    Lapsed.computes Lapsed.computes (le_refl _)
  rcases hc with ⟨ob, -, -, -, ho, hs, -⟩ | ⟨ob, -, -, -, ho, hs, -⟩
  · rw [ho, Option.map_some, hs] at hstop
    exact absurd hstop (by decide)
  · rw [ho, Option.map_some, hs] at hstop
    exact absurd hstop (by decide)

end ResellerBot
