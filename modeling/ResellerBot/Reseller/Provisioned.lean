import ResellerBot.Reseller.Service
import ResellerBot.Database.Traced

/-!
# ResellerBot.Reseller.Provisioned — what provisioning does against any server

The exchanges that a run of `provision` can have, and what follows for the calls it makes and for
the admin it returns.
-/

open Interact

namespace ResellerBot

/-! ## The exchanges -/

/-- The write that follows a first read. -/
inductive WriteFor (username : String) (payload : AdminPayload) : Option Admin → Call → Prop
  | create : WriteFor username payload none (.createResellerAdmin (some username) payload)
  | update (live : Admin) (safe : unsafeRole live.role = false) :
    WriteFor username payload (some live) (.updateAdmin username payload)

def isUnsafe (live : Option Admin) : Bool := (live.map (unsafeRole ·.role)).getD false

/-- A read of the admin, with its answer. -/
def readOf (username : String) (answer : Except Err (Option Admin)) : Reply Ev Resp :=
  ⟨.call .lookup (.getAdmin (some username)), answer⟩

section Runs

variable (why : Cause) (username : String) (payload : AdminPayload) (want : Entitlement)

/-- The exchanges of a run, latest first, and its outcome. -/
inductive Provisioning : Past → Except Err Admin → Prop
  | unread (e : Err) : Provisioning [readOf username (.error e)] (.error e)
  | refused (live : Option Admin) (h : isUnsafe live = true) (r : Except Err Unit) :
    Provisioning [⟨.call why (.disableAdmin username), r⟩, readOf username (.ok live)]
      (.error (verificationError "unsafe reseller role"))
  | unwritten {first : Option Admin} {c : Call} (w : WriteFor username payload first c) (e : Err) :
    Provisioning [⟨.call why c, .error e⟩, readOf username (.ok first)] (.error e)
  | unchecked {first : Option Admin} {c : Call} (w : WriteFor username payload first c)
      (r : c.Result) (e : Err) :
    Provisioning [readOf username (.error e), ⟨.call why c, .ok r⟩, readOf username (.ok first)]
      (.error e)
  | verified {first : Option Admin} {c : Call} (w : WriteFor username payload first c)
      (r : c.Result) {live : Option Admin} {a : Admin}
      (h : verifyEntitlement live (some username) want = .ok a) :
    Provisioning [readOf username (.ok live), ⟨.call why c, .ok r⟩, readOf username (.ok first)]
      (.ok a)
  | mismatch {first : Option Admin} {c : Call} (w : WriteFor username payload first c)
      (r : c.Result) {live : Option Admin} {e : Err} (safe : isUnsafe live = false)
      (h : verifyEntitlement live (some username) want = .error e) :
    Provisioning [readOf username (.ok live), ⟨.call why c, .ok r⟩, readOf username (.ok first)]
      (.error e)
  | disabled {first : Option Admin} {c : Call} (w : WriteFor username payload first c)
      (r : c.Result) {live : Option Admin} {e : Err} (h : isUnsafe live = true)
      (he : verifyEntitlement live (some username) want = .error e) (r' : Except Err Unit) :
    Provisioning [⟨.call why (.disableAdmin username), r'⟩, readOf username (.ok live),
      ⟨.call why c, .ok r⟩, readOf username (.ok first)] (.error e)

variable {why username payload want}

open Act (Holds)

/-- Everything is allowed. -/
abbrev watching : Spec Ev Resp Past := Spec.traced fun _ _ => True

theorem holds_disableUnsafe {X : Err → Session → Past → Prop} (h₀ : Past) :
    Holds watching (fun _ h => h = h₀) (disableUnsafe why (some username))
      (fun _ _ h => ∃ r : Except Err Unit, h = ⟨.call why (.disableAdmin username), r⟩ :: h₀)
      X := by
  refine Holds.bind (Q := fun _ _ h =>
    ∃ r : Except Err Unit, h = ⟨.call why (.disableAdmin username), r⟩ :: h₀) ?_ fun _ => ?_
  · refine (Holds.attempt (Q := fun _ _ h =>
        ∃ r : Except Err Unit, h = ⟨.call why (.disableAdmin username), r⟩ :: h₀)
      (X := fun _ _ h =>
        ∃ r : Except Err Unit, h = ⟨.call why (.disableAdmin username), r⟩ :: h₀)
      (Traced.call (fun _ _ _ => trivial) ?_ ?_)).post ?_
    · rintro s _ r rfl
      exact ⟨.ok r, rfl⟩
    · rintro s _ e rfl
      exact ⟨.error e, rfl⟩
    · rintro (e | a) s h hr
      · exact hr
      · exact hr
  · exact Holds.pure fun _ _ h => h

/-- After the last read. -/
theorem holds_verifyAdmin {first live : Option Admin} {c : Call}
    (w : WriteFor username payload first c) (r : c.Result) :
    Holds watching
      (fun _ h =>
        h = [readOf username (.ok live), ⟨.call why c, .ok r⟩, readOf username (.ok first)])
      (verifyAdmin why (some username) want live)
      (fun a _ h => Provisioning why username payload want h (.ok a))
      (fun e _ h => Provisioning why username payload want h (.error e)) := by
  unfold verifyAdmin
  cases hv : verifyEntitlement live (some username) want with
  | ok a =>
    refine Holds.pure ?_
    rintro s _ rfl
    exact .verified w r hv
  | error e =>
    cases hu : isUnsafe live with
    | true =>
      show Holds watching _ (if isUnsafe live = true then _ else _) _ _
      rw [if_pos hu]
      refine (holds_disableUnsafe _).bind fun _ => Holds.raise ?_
      rintro s _ ⟨r', rfl⟩
      exact .disabled w r hu hv r'
    | false =>
      show Holds watching _ (if isUnsafe live = true then _ else _) _ _
      rw [if_neg (by rw [hu]; exact Bool.false_ne_true)]
      refine Holds.raise ?_
      rintro s _ rfl
      exact .mismatch w r hu hv

/-- From a first read that is written after. -/
theorem holds_written {first : Option Admin} {c : Call} (w : WriteFor username payload first c) :
    Holds watching (fun _ h => h = [readOf username (.ok first)])
      (do
        let _ ← call why c
        let live ← getAdmin (some username)
        verifyAdmin why (some username) want live)
      (fun a _ h => Provisioning why username payload want h (.ok a))
      (fun e _ h => Provisioning why username payload want h (.error e)) := by
  refine Holds.bind (Q := fun r _ h => h = [⟨.call why c, .ok r⟩, readOf username (.ok first)])
    (Traced.call (fun _ _ _ => trivial) ?_ ?_) fun r => ?_
  · rintro s _ r rfl
    rfl
  · rintro s _ e rfl
    exact .unwritten w e
  · refine Holds.bind (Q := fun live _ h =>
      h = [readOf username (.ok live), ⟨.call why c, .ok r⟩, readOf username (.ok first)])
      (Traced.call (fun _ _ _ => trivial) ?_ ?_) fun live => holds_verifyAdmin w r
    · rintro s _ live rfl
      rfl
    · rintro s _ e rfl
      exact .unchecked w r e

/-- **Provisioning has no other exchanges.** -/
theorem holds_provision (password : String) (telegramId : Option ℤ) :
    Holds watching (fun _ h => h = []) (provision why (some username) password want telegramId)
      (fun a _ h => Provisioning why username (provisionPayload password want telegramId) want h
        (.ok a))
      (fun e _ h => Provisioning why username (provisionPayload password want telegramId) want h
        (.error e)) := by
  refine Holds.bind (Q := fun live _ h => h = [readOf username (.ok live)])
    (Traced.call (fun _ _ _ => trivial) ?_ ?_) fun live => ?_
  · rintro s _ live rfl
    rfl
  · rintro s _ e rfl
    exact .unread e
  · cases live with
    | none => exact holds_written .create
    | some live =>
      cases hu : unsafeRole live.role with
      | true =>
        have hw : writeAdmin why (some username) (provisionPayload password want telegramId) (some live) =
            (do
              disableUnsafe why (some username)
              Act.raise (verificationError "unsafe reseller role")) := if_pos hu
        rw [hw]
        refine Holds.bind (Q := fun _ _ _ => False) ?_ fun _ => Holds.vacuous fun _ _ h => h
        refine (holds_disableUnsafe _).bind fun _ => Holds.raise ?_
        rintro s _ ⟨r, rfl⟩
        exact .refused (some live) hu r
      | false =>
        have hw : writeAdmin why (some username) (provisionPayload password want telegramId) (some live) =
            call why (.updateAdmin username (provisionPayload password want telegramId)) :=
          if_neg (by rw [hu]; exact Bool.false_ne_true)
        rw [hw]
        exact holds_written (.update live hu)

end Runs

/-! ## What follows -/

/-- The call that a request makes. -/
def Ev.call? : Ev → Option Call
  | .call _ c => some c
  | _ => none

/-- The body of a create or an update, and the username it is about. -/
def Call.write? : Call → Option (Option String × AdminPayload)
  | .createResellerAdmin username payload => some (username, payload)
  | .updateAdmin username payload => some (some username, payload)
  | _ => none

def Ev.write? (e : Ev) : Option (Option String × AdminPayload) := e.call?.bind Call.write?

/-- At most one write among the exchanges, latest first: what it sends, and what the first read must
have shown. -/
structure SoundWrites (username : String) (h : Past) : Prop where
  once : (h.filterMap (·.1.write?)).length ≤ 1
  restricted : ∀ w ∈ h.filterMap (·.1.write?), w.1 = some username ∧ w.2.role = some "reseller" ∧
    w.2.permissions = some RESTRICTED_PERMISSIONS
  created : ∀ x ∈ h, ∀ u p, x.1.call? = some (.createResellerAdmin u p) →
    h.getLast? = some (readOf username (.ok none))
  updated : ∀ x ∈ h, ∀ u p, x.1.call? = some (.updateAdmin u p) →
    ∃ live, h.getLast? = some (readOf username (.ok (some live))) ∧ unsafeRole live.role = false

/-- The exchanges, latest first, of a sound provisioning with the outcome `r`: what the last read
has shown when an admin is returned, and what a read of an unsafe role leads to. -/
structure SoundOutcome (username : String) (want : Entitlement) (h : Past)
    (r : Except Err Admin) : Prop extends SoundWrites username h where
  verified : ∀ a, r = .ok a → h.head? = some (readOf username (.ok (some a))) ∧
    a.username = username ∧ a.role = "reseller" ∧ isActive a.status = true ∧
    sameSecond a.expire want.expire = true ∧ a.dataLimit = want.dataLimit ∧
    (∀ x, x ∈ a.services ↔ x ∈ want.services) ∧ a.usersLimit = want.usersLimit
  disabled : ∀ live, readOf username (.ok (some live)) ∈ h → unsafeRole live.role = true →
    (∃ x ∈ h, x.1.call? = some (.disableAdmin username)) ∧
      ∃ e, r = .error e ∧ e.kind = .verification

theorem verifyEntitlement_ok_iff {live : Option Admin} {name : Option String} {want : Entitlement}
    {a : Admin} : verifyEntitlement live name want = .ok a ↔
      live = some a ∧ some a.username = name ∧ a.role = "reseller" ∧ isActive a.status = true ∧
        sameSecond a.expire want.expire = true ∧ a.dataLimit = want.dataLimit ∧
        (∀ x, x ∈ a.services ↔ x ∈ want.services) ∧ a.usersLimit = want.usersLimit := by
  have hset : ∀ b : Admin, (b.services.all (· ∈ want.services) = true ∧
      want.services.all (· ∈ b.services) = true) ↔ ∀ x, x ∈ b.services ↔ x ∈ want.services := by
    intro b
    simp only [List.all_eq_true, decide_eq_true_eq]
    exact ⟨fun h x => ⟨h.1 x, h.2 x⟩, fun h => ⟨fun x => (h x).mp, fun x => (h x).mpr⟩⟩
  cases live with
  | none => simp [verifyEntitlement]
  | some b =>
    unfold verifyEntitlement
    dsimp only
    constructor
    · intro h
      split_ifs at h with h1 h2 h3 h4 h5 h6 h7
      push Not at h1 h2 h5 h7
      cases h
      exact ⟨rfl, h1, h2, h3, h4, h5, (hset _).mp h6, h7⟩
    · rintro ⟨hb, h1, h2, h3, h4, h5, h6, h7⟩
      cases hb
      rw [if_neg (not_not.mpr h1), if_neg (not_not.mpr h2), if_neg (not_not.mpr h3),
        if_neg (not_not.mpr h4), if_neg (not_not.mpr h5),
        if_neg (not_not.mpr ((hset _).mpr h6)), if_neg (not_not.mpr h7)]

/-- Every refusal is a `VerificationError`. -/
theorem verifyEntitlement_error {live : Option Admin} {name : Option String} {want : Entitlement} {e : Err}
    (h : verifyEntitlement live name want = .error e) : e.kind = .verification := by
  unfold verifyEntitlement at h
  cases live with
  | none =>
    cases h
    rfl
  | some b =>
    dsimp only at h
    split_ifs at h <;> cases h <;> rfl

section Soundness

variable {why : Cause} {username password : String} {want : Entitlement} {telegramId : Option ℤ}
  {h : Past} {r : Except Err Admin}

theorem readOf_inj {x y : Except Err (Option Admin)} (h : readOf username x = readOf username y) :
    x = y := by
  simpa [readOf] using h

/-- A read is not a call of another kind. -/
theorem readOf_ne {why : Cause} {c : Call} {x : Except Err (Option Admin)} {r : Except Err c.Result}
    (hc : c ≠ .getAdmin (some username)) : readOf username x ≠ ⟨.call why c, r⟩ := by
  intro h
  have := congrArg (fun x => x.1.call?) h
  exact hc (Option.some.inj this).symm

theorem write_of_create {e : Ev} {u : Option String} {p : AdminPayload}
    (h : e.call? = some (.createResellerAdmin u p)) : e.write? = some (u, p) := by
  rw [Ev.write?, h]
  rfl

theorem write_of_update {e : Ev} {u : String} {p : AdminPayload}
    (h : e.call? = some (.updateAdmin u p)) : e.write? = some (some u, p) := by
  rw [Ev.write?, h]
  rfl

variable {payload : AdminPayload} {first live : Option Admin} {c : Call}

theorem WriteFor.safe (w : WriteFor username payload first c) : isUnsafe first = false := by
  cases w with
  | create => rfl
  | update live safe => exact safe

theorem WriteFor.write (w : WriteFor username payload first c) :
    c.write? = some (some username, payload) := by
  cases w <;> rfl

theorem WriteFor.ne (w : WriteFor username payload first c) (name : Option String) :
    c ≠ .getAdmin name := by
  cases w <;> simp

theorem writes_of_none (hno : ∀ x ∈ h, x.1.write? = none) : SoundWrites username h := by
  have hnil : h.filterMap (·.1.write?) = [] := List.filterMap_eq_nil_iff.mpr hno
  refine ⟨by simp [hnil], by simp [hnil], fun x hx u p hc => ?_, fun x hx u p hc => ?_⟩
  · cases (hno x hx).symm.trans (write_of_create hc)
  · cases (hno x hx).symm.trans (write_of_update hc)

/-- After the one write there are reads and disables only. -/
theorem writes_of_write
    (w : WriteFor username (provisionPayload password want telegramId) first c)
    (x : Resp (.call why c)) (hno : ∀ x ∈ h, x.1.write? = none) :
    SoundWrites username (h ++ [⟨.call why c, x⟩, readOf username (.ok first)]) := by
  have hread : (readOf username (.ok first)).1.write? = none := rfl
  have hwrite : (Ev.call why c).write? =
      some (some username, provisionPayload password want telegramId) := w.write
  have hall : (h ++ [⟨.call why c, x⟩, readOf username (.ok first)]).filterMap (·.1.write?) =
      [(some username, provisionPayload password want telegramId)] := by
    rw [List.filterMap_append, List.filterMap_eq_nil_iff.mpr hno]
    simp [hread, hwrite]
  have hlast : (h ++ [⟨.call why c, x⟩, readOf username (.ok first)]).getLast? =
      some (readOf username (.ok first)) := by simp
  -- an exchange with a write is the one
  have hmem : ∀ y ∈ h ++ [⟨.call why c, x⟩, readOf username (.ok first)], ∀ v,
      y.1.write? = some v → y.1.call? = some c := by
    intro y hy v hv
    obtain hy | hy := List.mem_append.mp hy
    · cases (hno y hy).symm.trans hv
    · obtain rfl | hy := List.mem_cons.mp hy
      · rfl
      · obtain rfl := List.mem_singleton.mp hy
        cases hread.symm.trans hv
  refine ⟨by simp [hall], ?_, fun y hy u p hc => ?_, fun y hy u p hc => ?_⟩
  · intro v hv
    rw [hall] at hv
    obtain rfl := List.mem_singleton.mp hv
    exact ⟨rfl, rfl, rfl⟩
  · have hcall := (hmem y hy _ (write_of_create hc)).symm.trans hc
    cases w with
    | create => exact hlast
    | update live safe => cases hcall
  · have hcall := (hmem y hy _ (write_of_update hc)).symm.trans hc
    cases w with
    | create => cases hcall
    | update live safe => exact ⟨live, hlast, safe⟩

/-- The first read before a write was not of an unsafe admin. -/
theorem not_read_of_write {a : Admin} {x : Resp (.call why c)}
    (w : WriteFor username payload first c) (ha : unsafeRole a.role = true) :
    readOf username (.ok (some a)) ∉
      ([⟨.call why c, x⟩, readOf username (.ok first)] : Past) := by
  intro hmem
  obtain hread | hmem := List.mem_cons.mp hmem
  · exact readOf_ne (w.ne _) hread
  · have hfirst := readOf_inj (List.mem_singleton.mp hmem)
    cases hfirst
    cases w.safe.symm.trans ha

theorem provisioned_sound
    (hp : Provisioning why username (provisionPayload password want telegramId) want h r) :
    SoundOutcome username want h r := by
  have hread : ∀ x, (readOf username x).1.write? = none := fun _ => rfl
  cases hp with
  | unread e =>
    refine ⟨writes_of_none (by simp [hread]), by simp, fun a hmem _ => ?_⟩
    cases readOf_inj (List.mem_singleton.mp hmem)
  | refused live hu r =>
    refine ⟨writes_of_none ?_, by simp, fun a hmem _ => ?_⟩
    · rintro x (_ | ⟨_, _ | ⟨_, hx⟩⟩)
      · rfl
      · rfl
      · cases hx
    · exact ⟨⟨_, List.mem_cons_self, rfl⟩, _, rfl, rfl⟩
  | unwritten w e =>
    refine ⟨writes_of_write w _ (h := []) (by simp), by simp, fun a hmem ha => ?_⟩
    exact absurd hmem (not_read_of_write w ha)
  | unchecked w x e =>
    refine ⟨writes_of_write w _ (h := [_]) (by simp [hread]), by simp, fun a hmem ha => ?_⟩
    obtain hmem | hmem := List.mem_cons.mp hmem
    · cases readOf_inj hmem
    · exact absurd hmem (not_read_of_write w ha)
  | @verified _ _ w x live b hv =>
    obtain ⟨hlive, hb⟩ := verifyEntitlement_ok_iff.mp hv
    refine ⟨writes_of_write w _ (h := [_]) (by simp [hread]), ?_, fun a hmem ha => ?_⟩
    · rintro a ha
      cases ha
      exact ⟨by rw [hlive]; rfl, Option.some.inj hb.1, hb.2⟩
    · obtain hmem | hmem := List.mem_cons.mp hmem
      · cases (Except.ok.inj (readOf_inj hmem)).trans hlive
        rw [hb.2.1] at ha
        exact absurd ha (by decide)
      · exact absurd hmem (not_read_of_write w ha)
  | @mismatch _ _ w x live e safe hv =>
    refine ⟨writes_of_write w _ (h := [_]) (by simp [hread]), by simp, fun a hmem ha => ?_⟩
    obtain hmem | hmem := List.mem_cons.mp hmem
    · cases Except.ok.inj (readOf_inj hmem)
      cases safe.symm.trans ha
    · exact absurd hmem (not_read_of_write w ha)
  | disabled w x hu he r' =>
    refine ⟨writes_of_write w _ (h := [_, _]) ?_, by simp, fun a hmem ha => ?_⟩
    · rintro y (_ | ⟨_, _ | ⟨_, hy⟩⟩)
      · rfl
      · rfl
      · cases hy
    · exact ⟨⟨_, List.mem_cons_self, rfl⟩, _, rfl, verifyEntitlement_error he⟩

/-- **Provisioning is sound against any server.** -/
theorem provision_sound {Γ : Type} (react : (e : Ev) → Γ → Resp e × Γ) (s : Session) (γ : Γ)
    (why : Cause) (username password : String) (want : Entitlement) (telegramId : Option ℤ) :
    SoundOutcome username want
      (Act.history react s γ (provision why (some username) password want telegramId))
      (Act.run react s γ (provision why (some username) password want telegramId)).1.1 := by
  have h := (@holds_provision why username want password telegramId).history react γ (s := s) rfl
  rcases hr : Act.run react s γ (provision why (some username) password want telegramId) with
    ⟨⟨e | a, t⟩, δ⟩
  · rw [hr] at h
    exact provisioned_sound h
  · rw [hr] at h
    exact provisioned_sound h

end Soundness

end ResellerBot
