import Mathlib
import ResellerBot.Payments.Recovery
import ResellerBot.Safety.Quiet
import ResellerBot.Trace

/-!
# ResellerBot.Payments.Renewing — a first attempt that nothing disturbs

Rebecca stores what it is sent and no call fails.  An attempt that writes its target should then
find it there.
-/

open Interact

namespace ResellerBot

/-! ## The mutating calls of a run -/

def Ev.mutation : Ev → Option Call
  | .call _ c => if c.mutating then some c else none
  | _ => none

section Mutations

variable {Γ α β : Type} (react : (e : Ev) → Γ → Resp e × Γ) (s : Session) (γ : Γ)

/-- The mutating calls of a run, in order. -/
def mutations (m : Bot α) : List Call :=
  (Act.exchanges react s γ m).filterMap fun x => x.1.mutation

variable {m : Bot α} (f : α → Bot β) {a : α} {e : Err} {t : Session} {δ : Γ}

theorem mutations_bind_ok (h : Act.run react s γ m = ((.ok a, t), δ)) :
    mutations react s γ (m >>= f) = mutations react s γ m ++ mutations react t δ (f a) := by
  rw [mutations, Act.exchanges_bind_ok react s γ f h, List.filterMap_append]
  rfl

theorem mutations_bind_error (h : Act.run react s γ m = ((.error e, t), δ)) :
    mutations react s γ (m >>= f) = mutations react s γ m := by
  rw [mutations, Act.exchanges_bind_error react s γ f h]
  rfl

theorem mutations_attempt (m : Bot α) :
    mutations react s γ (Act.attempt m : Bot (Except Err α)) = mutations react s γ m := by
  rw [mutations, Act.exchanges_attempt]
  rfl

theorem mutations_call (why : Cause) {c : Call} (hc : c.mutating = true) :
    mutations react s γ (call why c) = [c] := by
  have hask : Act.exchanges react s γ (ask (.call why c) : Bot (Except Err c.Result)) =
      [⟨.call why c, (react (.call why c) γ).1⟩] := rfl
  have hout : ∀ (r : Except Err c.Result) (δ : Γ),
      Act.exchanges react s δ (Act.outcome r) = [] := by
    rintro (e | a) δ <;> rfl
  have hm : Ev.mutation (.call why c) = some c := if_pos hc
  rw [mutations, call, Act.exchanges_bind_ok react s γ _ rfl, hask, hout, List.append_nil]
  simp [hm]

end Mutations

/-- Nothing is changed in Rebecca. -/
def still : Spec Ev Resp Unit where
  pre _ e := e.mutation = none
  next _ _ _ _ := True

instance : CallSpec still where
  free _ e h := by
    cases e with
    | call => cases h
    | _ => rfl

section Still

variable {Γ α β : Type} {react : (e : Ev) → Γ → Resp e × Γ} {s : Session} {γ : Γ} {m : Bot α}

theorem still_lookup (why : Cause) {c : Call} (hc : c.mutating = false) :
    Act.Safe still (call why c) :=
  Calm.call why fun _ => by simp [still, Ev.mutation, hc]

theorem mutations_still (h : Act.Safe still m) : mutations react s γ m = [] := by
  have none_asked : ∀ {p : Prog Ev Resp (Except Err α × Session)} {γ : Γ},
      Ok still p (fun _ _ => True) () →
        (p.exchanges react γ).filterMap (fun x => x.1.mutation) = [] := by
    intro p
    induction p with
    | ret a => intro _ _; rfl
    | ask e k ih =>
      intro γ hp
      have hrest := ih (react e γ).1 (γ := (react e γ).2) (hp.2 _ () trivial)
      have he : e.mutation = none := hp.1
      simp [Prog.exchanges, he, hrest]
  exact none_asked (h.ok s ())

/-- A first part that leaves Rebecca as it is. -/
theorem mutations_still_bind (f : α → Bot β) {a : α} {t : Session} {δ : Γ} (hm : Act.Safe still m)
    (h : Act.run react s γ m = ((.ok a, t), δ)) :
    mutations react s γ (m >>= f) = mutations react t δ (f a) := by
  rw [mutations_bind_ok react s γ f h, mutations_still hm, List.nil_append]

end Still

/-! ## The calls of an attempt -/

/-- The mutating calls of a renewal. -/
def renewalCalls (username : String) (target : Snapshot) (paused : Bool) : List Call :=
  .updateAdmin username (renewalPayload target) :: if paused then [.enableAdmin username] else []

section Attempt

variable {s : Session} {o : Order} {r : Reseller} {p : Product} {sv : Server} {name : String}
  {a b : Admin} {target : Snapshot} {now : Datetime} {e : Err} {w : Lab}

theorem still_getAdmin (username : Option String) : Act.Safe still (getAdmin username) :=
  still_lookup _ rfl

theorem mutations_writeTarget (why : Cause) (paused : Bool) (h : sv.admins name = some a) :
    mutations Lab.react s ⟨sv, none⟩ (writeTarget why name target paused) =
      renewalCalls name target paused := by
  rw [writeTarget, mutations_bind_ok _ _ _ _ (run_update h none), mutations_call _ _ _ _ rfl]
  cases paused with
  | false => rfl
  | true => exact congrArg ([_] ++ ·) (mutations_call _ _ _ why rfl)

theorem still_verifyTarget (live : Admin) (target : Snapshot) (now : Datetime) :
    Act.Safe still (verifyTarget live target now) := by
  refine (still_getAdmin _).bind fun verified => Act.Safe.ite ?_ ?_
  · refine (Calm.assign _ _).bind fun _ => (Calm.read _).bind fun _ => ?_
    exact (Calm.assign _ _).bind fun _ => (Calm.assign _ _).bind fun _ => Act.Safe.pure _
  · exact (Calm.assign _ _).bind fun _ => Act.Safe.raise _

theorem mutations_performTarget (hd : Desk s o r p) (he : target.expire ≠ none)
    (h : sv.admins a.username = some b) :
    mutations Lab.react s ⟨sv, none⟩ (performTarget a target now) =
      renewalCalls a.username target r.status.paused := by
  have hwrite : Act.run Lab.react s ⟨sv, none⟩
      (Act.attempt (writeTarget (.renewal o r a) a.username target r.status.paused) :
        Bot (Except Err Unit)) =
      ((.ok (.ok ()), s), ⟨sv.setAdmin a.username (renewed b target r.status.paused), none⟩) := by
    rw [Act.run_attempt, run_writeTarget h]
  rw [performTarget, mutations_still_bind _ (Calm.read _) hd.run_order,
    mutations_still_bind _ (Calm.read _) hd.run_reseller, if_neg he,
    mutations_bind_ok _ _ _ _ hwrite, mutations_attempt, mutations_writeTarget _ _ h]
  exact (congrArg _ (mutations_still (still_verifyTarget a target now))).trans (List.append_nil _)

theorem mutations_applyLive (hd : Desk s o r p) (ho : o.target = none)
    (h : sv.admins a.username = some b) :
    mutations Lab.react s ⟨sv, none⟩ (applyLive o a now commit) =
      match targetSnapshot a p now with
      | .error _ => []
      | .ok target => renewalCalls a.username target r.status.paused := by
  rw [applyLive, ho]
  show mutations _ _ _ (beginTarget a now commit) = _
  rw [beginTarget, mutations_still_bind _ (Calm.read _) hd.run_product]
  cases hc : targetSnapshot a p now with
  | error e =>
    rw [mutations_bind_error _ _ _ _ (Act.run_outcome ..)]
    exact mutations_still (Act.Safe.outcome _)
  | ok target =>
    obtain ⟨e, -, ht⟩ := targetSnapshot_ok hc
    have hd' := hd.assignOrder (applying (entitlementSnapshot a) target)
    rw [mutations_still_bind _ (Act.Safe.outcome _) (Act.run_outcome ..),
      mutations_still_bind _ (Calm.assign _ _) (run_assign ..),
      mutations_still_bind _ Calm.commit hd'.run_commit]
    exact mutations_performTarget hd'.flushed (by simp [ht]) h

/-- The lock of the order is no call. -/
theorem mutations_applyOrder (hd : Desk s o r p) :
    mutations Lab.react s w (applyOrder now commit) =
      mutations Lab.react s w (applyOrderLocked now commit) := by
  rw [applyOrder, mutations_still_bind _ (Calm.read _) hd.run_order, withOrderLock,
    mutations_still_bind _ (Calm.ask rfl) rfl]
  show mutations Lab.react s w (Act.attempt (applyOrderLocked now commit) >>= _) = _
  have hrest : Act.Safe still (ask (.unlock o.id) >>= fun _ =>
      Act.outcome (Act.run Lab.react s w (applyOrderLocked now commit)).1.1) :=
    (Calm.ask rfl).bind fun _ => Act.Safe.outcome _
  rw [mutations_bind_ok _ _ _ _ (Act.run_attempt ..), mutations_attempt, mutations_still hrest,
    List.append_nil]

/-- **A first attempt calls nobody if it has no target**, and else writes its target. -/
theorem mutations_first (hd : Desk s o r p) (ho : o.status ≠ .APPLIED) (hf : o.target = none)
    (hr : r.status ≠ .SUSPENDED) (hn : r.rebeccaAdminUsername = some name)
    (h : sv.admins name = some a) :
    mutations Lab.react s ⟨sv, none⟩ (applyOrder now commit) =
      match targetSnapshot a p now with
      | .error _ => []
      | .ok target => renewalCalls name target r.status.paused := by
  rw [mutations_applyOrder hd, applyOrderLocked,
    mutations_still_bind _ (Calm.read _) hd.run_order, if_neg ho,
    mutations_still_bind _ (Calm.read _) hd.run_reseller, if_neg hr, hn,
    mutations_still_bind _ (still_getAdmin _) (run_get h none)]
  exact mutations_applyLive (a := { a with username := name }) hd hf h

end Attempt

/-! ## The outcome of an attempt -/

section Outcome

variable {s : Session} {o : Order} {r : Reseller} {p : Product} {sv : Server} {name : String}
  {a b : Admin} {target : Snapshot} {now t : Datetime} {e : Datetime} {paused : Bool}

/-- What a renewal leaves is as its target says exactly if nothing that the update does not write
stands in the way, and Rebecca can store the expiry. -/
theorem matches_renewed_iff (hc : targetSnapshot b p t = .ok target) :
    snapshotMatches (renewed a target paused) target = true ↔
      a.role = "reseller" ∧ (paused = true ∨ normalizeStatus a.status = "active") ∧
        WholeSecond target.expire := by
  obtain ⟨e, he, ht⟩ := targetSnapshot_ok hc
  constructor
  · intro h
    have h1 : target.role = some "reseller" ∧ target.status = some "active" := by simp [ht]
    have hm := of_decide_eq_true h
    have hrole := congrArg Snapshot.role hm
    have hstatus := congrArg Snapshot.status hm
    have hexpire := congrArg Snapshot.expire hm
    simp only [entitlementSnapshot, Snapshot.expected, h1.1, h1.2, Option.getD_some,
      normalizeStatus_active, Option.some.injEq] at hrole hstatus hexpire
    have hwhole : WholeSecond target.expire := by
      cases paused with
      | false => exact (show storedExpire target.expire = _ from hexpire) ▸ whole_storedExpire _
      | true => exact (show storedExpire target.expire = _ from hexpire) ▸ whole_storedExpire _
    cases paused with
    | false => exact ⟨hrole, .inr hstatus, hwhole⟩
    | true => exact ⟨hrole, .inl rfl, hwhole⟩
  · rintro ⟨hrole, hst, hw⟩
    refine matches_renewed hc hrole hst (storedExpire_of_whole hw fun t' ht' => ?_)
    obtain rfl : e = t' := Option.some.inj ((show target.expire = some e by rw [ht]).symm.trans ht')
    exact addDays_representable he

/-- The verification fails. -/
theorem run_verifyTarget_failed {w w' : Lab} (hd : Desk s o r p)
    (hg : Act.run Lab.react s w (getAdmin (some a.username)) = ((.ok (some b), s), w'))
    (hm : snapshotMatches b target ≠ true) : ∃ s',
    Act.run Lab.react s w (verifyTarget a target now) =
        ((.error ⟨.verification, "post-update entitlement mismatch"⟩, s'), w') ∧
      Desk s' (failed "post-update entitlement mismatch" o) r p := by
  rw [verifyTarget, Act.run_bind_ok _ _ _ _ hg]
  rw [if_neg (by simpa using hm)]
  exact run_failOrder hd

/-- With no fault to come, a target that the admin does not match afterwards fails the order. -/
theorem perform_mismatched (now : Datetime) (hd : Desk s o r p) (he : target.expire ≠ none)
    (hb : sv.admins name = some b) (hl : a.username = name)
    (hm : snapshotMatches (renewed b target r.status.paused) target ≠ true) : ∃ s',
    Act.run Lab.react s ⟨sv, none⟩ (performTarget a target now) =
        ((.error ⟨.verification, "post-update entitlement mismatch"⟩, s'),
          ⟨sv.setAdmin name (renewed b target r.status.paused), none⟩) ∧
      Desk s' (failed "post-update entitlement mismatch" o) r p := by
  subst hl
  rw [run_performTarget hd he, run_writeTarget hb]
  exact run_verifyTarget_failed hd (run_get Server.admins_setAdmin none) hm

/-- A first attempt on a paid order, with the admin that Rebecca has for the reseller. -/
structure First (s : Session) (o : Order) (r : Reseller) (p : Product) (sv : Server)
    (name : String) (a : Admin) : Prop where
  desk : Desk s o r p
  paid : o.status = .PAID
  fresh : o.target = none
  unsuspended : r.status ≠ .SUSPENDED
  admin : r.rebeccaAdminUsername = some name
  stored : sv.admins name = some a

namespace First

variable (h : First s o r p sv name a)

include h

theorem unapplied : o.status ≠ .APPLIED := by rw [h.paid]; decide

theorem attempt_eq (now : Datetime) : attempt now s ⟨sv, none⟩ =
    Act.run Lab.react s ⟨sv, none⟩ (beginTarget { a with username := name } now commit) := by
  rw [attempt_read now h.desk h.unapplied h.unsuspended h.admin (run_get h.stored none), applyLive,
    h.fresh]

/-- **A first attempt applies the order exactly if the renewed admin is as the target says.** -/
theorem attempt_ok (hc : targetSnapshot a p now = .ok target) : ∃ res s',
    attempt now s ⟨sv, none⟩ =
        ((res, s'), ⟨sv.setAdmin name (renewed a target r.status.paused), none⟩) ∧
      if snapshotMatches (renewed a target r.status.paused) target = true then
        res = .ok true ∧ Desk s' (applied now (applying (entitlementSnapshot a) target o))
          { reactivate r with productId := some p.id } p
      else res = .error ⟨.verification, "post-update entitlement mismatch"⟩ ∧
        Desk s' (failed "post-update entitlement mismatch"
          (applying (entitlementSnapshot a) target o)) r p := by
  have hc' : targetSnapshot { a with username := name } p now = .ok target := hc
  obtain ⟨e, -, ht⟩ := targetSnapshot_ok hc
  have he : target.expire ≠ none := by simp [ht]
  obtain ⟨s₁, hd₁, hbegin⟩ := run_beginTarget (w := ⟨sv, none⟩) h.desk hc'
  rw [h.attempt_eq, hbegin]
  by_cases hm : snapshotMatches (renewed a target r.status.paused) target = true
  · obtain ⟨s₂, hrun, hd₂⟩ := perform_done (a := { a with username := name }) now hd₁ he h.stored
      rfl hm
    exact ⟨_, s₂, hrun, by rw [if_pos hm]; exact ⟨rfl, hd₂⟩⟩
  · obtain ⟨s₂, hrun, hd₂⟩ := perform_mismatched (a := { a with username := name }) now hd₁
      he h.stored rfl hm
    exact ⟨_, s₂, hrun, by rw [if_neg hm]; exact ⟨rfl, hd₂⟩⟩

end First

/-- The attempt has raised without a mutating call, or it has called for the update and the order
is applied. -/
def Undoomed (now : Datetime) (s : Session) (sv : Server) (name : String) : Prop :=
  ((∃ e, (attempt now s ⟨sv, none⟩).1.1 = .error e) ∧
    mutations Lab.react s ⟨sv, none⟩ (applyOrder now commit) = []) ∨
  ((attempt now s ⟨sv, none⟩).1.1 = .ok true ∧
    (∃ payload, Call.updateAdmin name payload ∈
      mutations Lab.react s ⟨sv, none⟩ (applyOrder now commit)) ∧
    ∃ ob, (attempt now s ⟨sv, none⟩).1.2.order = some ob ∧ ob.cur.status = .APPLIED)

/-- **A first renewal never fails its own verification, exactly if** the live admin is a reseller,
it is active or about to be enabled, and the expiry comes back from Rebecca as it was sent. -/
theorem undoomed_iff (s : Session) (o : Order) (r : Reseller) (p : Product) (sv : Server)
    (name : String) (a : Admin) (now : Datetime) (h : First s o r p sv name a)
    (representable : ∃ e, renewalExpiry a.expire now p.durationDays = .ok e) :
    Undoomed now s sv name ↔
      a.role = "reseller" ∧ (r.status.paused = true ∨ normalizeStatus a.status = "active") ∧
        WholeSecond (some (max (a.expire.getD now) now + p.durationDays * day)) := by
  obtain ⟨e, he⟩ := representable
  obtain ⟨target, hc, hx⟩ : ∃ target, targetSnapshot a p now = .ok target ∧
      target.expire = some (max (a.expire.getD now) now + p.durationDays * day) := by
    refine ⟨_, by rw [targetSnapshot, he]; rfl, ?_⟩
    exact congrArg some (addDays_ok he)
  have hcalls : mutations Lab.react s ⟨sv, none⟩ (applyOrder now commit) =
      renewalCalls name target r.status.paused := by
    rw [mutations_first h.desk h.unapplied h.fresh h.unsuspended h.admin h.stored, hc]
  obtain ⟨res, s', hrun, hres⟩ := h.attempt_ok hc
  rw [← hx, ← matches_renewed_iff hc, Undoomed, hcalls, hrun]
  split_ifs at hres with hm
  · obtain ⟨hok, hd⟩ := hres
    obtain ⟨db, ho⟩ := hd.order
    exact iff_of_true (.inr ⟨hok, ⟨_, List.mem_cons_self⟩, _, ho, rfl⟩) hm
  · refine iff_of_false ?_ hm
    rintro (⟨-, hnil⟩ | ⟨hok, -⟩)
    · exact List.cons_ne_nil _ _ hnil
    · exact absurd (hres.1.symm.trans hok) (by simp)

end Outcome

namespace Lapsed

theorem first : First session order reseller product server "ali_1234" admin where
  desk := renewal.desk
  paid := rfl
  fresh := rfl
  unsuspended := by decide
  admin := rfl
  stored := renewal.stored

theorem representable (t : Datetime) (ht : t = now ∨ t = now + 500000) :
    ∃ e, renewalExpiry admin.expire t product.durationDays = .ok e := by
  rcases ht with rfl | rfl
  · exact ⟨now + 30 * day, rfl⟩
  · exact ⟨now + 500000 + 30 * day, rfl⟩

theorem undoomed_lapsed : Undoomed now session server "ali_1234" ↔
    admin.role = "reseller" ∧
      (reseller.status.paused = true ∨ normalizeStatus admin.status = "active") ∧
      WholeSecond (some (max (admin.expire.getD now) now + product.durationDays * day)) :=
  undoomed_iff _ _ _ _ _ _ _ _ first (representable now (.inl rfl))

end Lapsed

/-- Half a second past the full second the renewal is written, and fails its own verification. -/
theorem renewal_doomed : ¬ ∀ (s : Session) (o : Order) (r : Reseller) (p : Product) (sv : Server)
    (name : String) (a : Admin) (now : Datetime), First s o r p sv name a →
    r.status ≠ .PROVISIONING → 0 < p.trafficGb → 0 < p.durationDays →
    (∃ e, renewalExpiry a.expire now p.durationDays = .ok e) → Undoomed now s sv name := by
  intro h
  have hu := h _ _ _ _ _ _ _ (Lapsed.now + 500000) Lapsed.first (by decide) (by decide) (by decide)
    (Lapsed.representable _ (.inr rfl))
  rcases hu with ⟨-, hnil⟩ | ⟨hok, -⟩
  · rw [mutations_first Lapsed.first.desk Lapsed.first.unapplied Lapsed.first.fresh
      Lapsed.first.unsuspended Lapsed.first.admin Lapsed.first.stored] at hnil
    cases hnil
  · have hrun : (attempt (Lapsed.now + 500000) Lapsed.session ⟨Lapsed.server, none⟩).1.1 =
        .error ⟨.verification, "post-update entitlement mismatch"⟩ := by cbv
    rw [hrun] at hok
    cases hok

end ResellerBot
