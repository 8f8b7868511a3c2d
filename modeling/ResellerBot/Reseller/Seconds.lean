import ResellerBot.Reseller.Provisioned
import Mathlib.Tactic.IntervalCases

/-!
# ResellerBot.Reseller.Seconds — the expiries that provisioning tells apart

`_same_second` compares timestamps, which are doubles, cut towards zero.  From the year 2514 on a
double may be the next second, and before the epoch the cut goes to the next one.
-/

open Interact

namespace ResellerBot

/-! ## The last microsecond of a second -/

section Timestamps

variable {s e l : ℤ}

theorem timestamp_before (s : ℤ) :
    timestamp (s * second - 1) = Rounding.digits 2 53 (s - 1 / 1000000 : ℚ) := by
  have hdiv : ((s * second - 1 : ℤ) / second : ℚ) = s - 1 / 1000000 := by
    have hsecond : (second : ℚ) = 1000000 := by norm_num [second]
    push_cast
    rw [sub_div, hsecond, mul_div_cancel_right₀ _ (by norm_num)]
  rw [timestamp, hdiv]

/-- A double tells it from the next second. -/
theorem unixSeconds_before (h₁ : 1 ≤ s) (h₂ : s ≤ 2 ^ 34) : unixSeconds (s * second - 1) = s - 1 := by
  have h₁' : (1 : ℚ) ≤ s := by exact_mod_cast h₁
  have h₂' : (s : ℚ) ≤ 2 ^ 34 := by exact_mod_cast h₂
  have hpos : (0 : ℚ) < s - 1 / 1000000 := by linarith
  have hunit : Rounding.unit 2 53 (s - 1 / 1000000 : ℚ) ≤ 2 ^ (34 - 53 : ℤ) := by
    refine Rounding.unit_le (by decide) hpos.ne' ?_
    rw [abs_of_pos hpos]
    norm_num
    linarith
  have hnear := abs_le.mp (Rounding.abs_digits_sub_le (p := 53) (b := 2) (by decide) (s - 1 / 1000000 : ℚ))
  have hlow : s - 1 ≤ unixSeconds (s * second - 1) := by
    have hle : (s - 1) * second ≤ s * second - 1 := by simp only [second]; omega
    have h := unixSeconds_mono hle
    rwa [unixSeconds_whole (by rw [abs_lt]; omega)] at h
  have hhigh : unixSeconds (s * second - 1) < s := by
    have hd0 := Rounding.digits_nonneg (p := 53) (b := 2) (by decide) hpos.le
    rw [unixSeconds, timestamp_before, Rounding.truncate, if_neg (not_lt.mpr hd0), Int.floor_lt]
    norm_num at hunit
    linarith [hnear.2]
  omega

/-- From the year 2514 on it does not. -/
theorem unixSeconds_before_late (h₁ : 2 ^ 34 < s) (h₂ : s < 2 ^ 38) :
    unixSeconds (s * second - 1) = s := by
  have h₁' : (2 : ℚ) ^ 34 + 1 ≤ s := by exact_mod_cast h₁
  have h₂' : (s : ℚ) < 2 ^ 38 := by exact_mod_cast h₂
  have hpos : (0 : ℚ) < s - 1 / 1000000 := by linarith
  have hunit : (2 : ℚ) ^ (34 + 1 - 53 : ℤ) ≤ Rounding.unit 2 53 (s - 1 / 1000000 : ℚ) := by
    refine Rounding.le_unit (by decide) ?_
    rw [abs_of_pos hpos]
    norm_num
    linarith
  have hdigits : Rounding.digits 2 53 (s - 1 / 1000000 : ℚ) = s := by
    refine Rounding.digits_eq_intCast (by decide) hpos.ne' ?_ ?_
    · rw [abs_of_pos hpos]
      norm_num
      linarith
    · rw [sub_sub_cancel_left, abs_neg, abs_of_pos (by norm_num)]
      norm_num at hunit
      linarith
  rw [unixSeconds, timestamp_before, hdigits, Rounding.truncate_intCast]

/-- Before the epoch the cut goes to the next second. -/
theorem unixSeconds_before_epoch (h₁ : -2 ^ 36 < s) (h₂ : s ≤ 0) :
    unixSeconds (s * second - 1) = s := by
  have h₁' : -(2 : ℚ) ^ 36 + 1 ≤ s := by exact_mod_cast h₁
  have h₂' : (s : ℚ) ≤ 0 := by exact_mod_cast h₂
  have hneg : (s - 1 / 1000000 : ℚ) < 0 := by linarith
  have hunit : Rounding.unit 2 53 (s - 1 / 1000000 : ℚ) ≤ 2 ^ (36 - 53 : ℤ) := by
    refine Rounding.unit_le (by decide) hneg.ne ?_
    rw [abs_of_neg hneg]
    norm_num
    linarith
  have hnear := abs_le.mp
    (Rounding.abs_digits_sub_le (b := 2) (p := 53) (by decide) (s - 1 / 1000000 : ℚ))
  have hlow : (s - 1 : ℚ) < Rounding.digits 2 53 (s - 1 / 1000000 : ℚ) := by
    norm_num at hunit
    linarith [hnear.1]
  have hhigh : unixSeconds (s * second - 1) ≤ s := by
    have hle : s * second - 1 ≤ s * second := by omega
    have h := unixSeconds_mono hle
    rwa [unixSeconds_whole (by rw [abs_lt]; omega)] at h
  have hcut : s ≤ unixSeconds (s * second - 1) := by
    rw [unixSeconds, timestamp_before, Rounding.truncate]
    split_ifs with hd
    · have hlt : s - 1 < ⌈Rounding.digits 2 53 (s - 1 / 1000000 : ℚ)⌉ := by
        rw [Int.lt_ceil]
        exact_mod_cast hlow
      omega
    · exact h₂.trans (Int.floor_nonneg.mpr (not_lt.mp hd))
  omega

/-- Expiries that are mistaken for those of no other second: from one second after the epoch to the
year 2514, and at both ends of the calendar. -/
def Told (e : Datetime) : Prop :=
  second ≤ e ∧ e < 2 ^ 34 * second + 999999 ∨ e < datetimeMin + 4 ∨ datetimeMax - 15 < e

/-- The timestamp of an instant is its second or the next one. -/
theorem unixSeconds_or (he : Representable e) :
    unixSeconds e = e / second ∨ unixSeconds e = e / second + 1 := by
  have hmin : (-62135596800 * 1000000 : ℤ) ≤ e := he.1
  have hmax : e ≤ (253402300800 * 1000000 - 1 : ℤ) := he.2
  have hle : e / second * second ≤ e := by simp only [second]; omega
  have hlt : e ≤ (e / second + 1) * second := by simp only [second]; omega
  have h₁ := unixSeconds_mono hle
  have h₂ := unixSeconds_mono hlt
  have hs : -62135596800 ≤ e / second ∧ e / second < 253402300800 := by
    simp only [second]
    omega
  rw [unixSeconds_whole (by rw [abs_lt]; omega)] at h₁ h₂
  omega

/-- Before the year 2514 it is its second. -/
theorem unixSeconds_eq (h₁ : second ≤ e) (h₂ : e < 2 ^ 34 * second + 999999) :
    unixSeconds e = e / second := by
  simp only [second] at h₁ h₂
  have he : Representable e := by
    constructor
    · exact show (-62135596800 * 1000000 : ℤ) ≤ e by omega
    · exact show e ≤ (253402300800 * 1000000 - 1 : ℤ) by omega
  have hle : unixSeconds e ≤ e / second := by
    by_cases hs : e / 1000000 < 2 ^ 34
    · have hlast : e ≤ (e / second + 1) * second - 1 := by simp only [second]; omega
      have h := unixSeconds_mono hlast
      rwa [unixSeconds_before (by simp only [second]; omega) (by simp only [second]; omega),
        add_sub_cancel_right] at h
    · have hlast : e ≤ 2 ^ 34 * 1000000 + 999998 := by omega
      have h := unixSeconds_mono hlast
      have hval : unixSeconds (2 ^ 34 * 1000000 + 999998) = 2 ^ 34 := by decide +kernel
      rw [hval] at h
      simp only [second]
      omega
  rcases unixSeconds_or he with h | h
  · exact h
  · omega

/-- The timestamp of a told expiry comes from its own second. -/
theorem Told.second_eq (h : Told e) (he : Representable e) (hl : Representable l)
    (hsame : unixSeconds l = unixSeconds e) : l / second = e / second := by
  have hmin : (-62135596800 * 1000000 : ℤ) ≤ l := hl.1
  have hmax : l ≤ (253402300800 * 1000000 - 1 : ℤ) := hl.2
  have hmin' : (-62135596800 * 1000000 : ℤ) ≤ e := he.1
  have hmax' : e ≤ (253402300800 * 1000000 - 1 : ℤ) := he.2
  obtain ⟨hlow, hhigh⟩ | hlow | hhigh := h
  · rw [unixSeconds_eq hlow hhigh] at hsame
    have hhigh : e < (2 ^ 34 * 1000000 + 999999 : ℤ) := hhigh
    simp only [second] at hlow hsame ⊢
    by_contra hne
    obtain hlt | hgt : l ≤ e / 1000000 * second - 1 ∨ (e / 1000000 + 1) * second ≤ l := by
      simp only [second]
      omega
    · have hmono := unixSeconds_mono hlt
      rw [unixSeconds_before (by omega) (by omega)] at hmono
      omega
    · have hmono := unixSeconds_mono hgt
      rw [unixSeconds_whole (by rw [abs_lt]; omega)] at hmono
      omega
  · have hlow : e < (-62135596800 * 1000000 + 4 : ℤ) := hlow
    have hfirst : unixSeconds (-62135596800 * 1000000 + 3) = -62135596800 := by decide +kernel
    have hnext : unixSeconds (-62135596800 * 1000000 + 4) = -62135596799 := by decide +kernel
    have hone := unixSeconds_mono (show e ≤ -62135596800 * 1000000 + 3 by omega)
    by_contra hne
    simp only [second] at hne
    have htwo := unixSeconds_mono (show -62135596800 * 1000000 + 4 ≤ l by omega)
    omega
  · have hhigh : (253402300800 * 1000000 - 1 - 15 : ℤ) < e := hhigh
    have hlast : unixSeconds (253402300800 * 1000000 - 15) = 253402300800 := by decide +kernel
    have hprev : unixSeconds (253402300800 * 1000000 - 16) = 253402300799 := by decide +kernel
    have hone := unixSeconds_mono (show 253402300800 * 1000000 - 15 ≤ e by omega)
    by_contra hne
    simp only [second] at hne
    have htwo := unixSeconds_mono (show l ≤ 253402300800 * 1000000 - 16 by omega)
    omega

/-- Any other expiry has the timestamp of an instant in another second. -/
theorem exists_mistaken (he : Representable e) (h : ¬Told e) :
    ∃ l : ℤ, Representable l ∧ unixSeconds l = unixSeconds e ∧ l / second ≠ e / second := by
  have hmin : (-62135596800 * 1000000 : ℤ) ≤ e := he.1
  have hmax : e ≤ (253402300800 * 1000000 - 1 : ℤ) := he.2
  have hfirst : (-62135596800 * 1000000 + 4 : ℤ) ≤ e := not_lt.mp fun hlt => h (.inr (.inl hlt))
  have hlast : e ≤ (253402300800 * 1000000 - 16 : ℤ) := by
    have hle := not_lt.mp fun hlt => h (.inr (.inr hlt))
    exact hle
  have hnext : unixSeconds (-62135596800 * 1000000 + 4) = -62135596799 := by decide +kernel
  have hprev : unixSeconds (253402300800 * 1000000 - 16) = 253402300799 := by decide +kernel
  have hone := unixSeconds_mono hfirst
  have htwo := unixSeconds_mono hlast
  rw [hnext] at hone
  rw [hprev] at htwo
  rcases unixSeconds_or he with hs | hs
  · -- the instant just before the second
    refine ⟨e / second * second - 1, ?_, ?_, ?_⟩
    · constructor
      · exact show (-62135596800 * 1000000 : ℤ) ≤ e / second * second - 1 by
          simp only [second] at hs ⊢
          omega
      · exact show e / second * second - 1 ≤ (253402300800 * 1000000 - 1 : ℤ) by
          simp only [second]
          omega
    · rw [hs]
      obtain hearly | hlate : e / second ≤ 0 ∨ 2 ^ 34 < e / second := by
        by_contra hmid
        simp only [second] at hmid hs
        refine h (.inl ⟨by simp only [second]; omega, not_le.mp fun hle => ?_⟩)
        have hval : unixSeconds (2 ^ 34 * 1000000 + 999999) = 2 ^ 34 + 1 := by decide +kernel
        have hmono := unixSeconds_mono (show 2 ^ 34 * 1000000 + 999999 ≤ e from hle)
        omega
      · exact unixSeconds_before_epoch (by omega) hearly
      · exact unixSeconds_before_late hlate (by omega)
    · simp only [second]
      omega
  · -- the next second itself
    refine ⟨(e / second + 1) * second, ?_, ?_, ?_⟩
    · constructor
      · exact show (-62135596800 * 1000000 : ℤ) ≤ (e / second + 1) * second by
          simp only [second]
          omega
      · exact show (e / second + 1) * second ≤ (253402300800 * 1000000 - 1 : ℤ) by
          simp only [second] at hs ⊢
          omega
    · rw [hs, unixSeconds_whole (by rw [abs_lt]; omega)]
    · simp only [second]
      omega

end Timestamps

/-! ## Provisioning -/

/-- The same expiry to the second, or none on both sides. -/
def SameSecond : Option Datetime → Option Datetime → Prop
  | none, none => True
  | some l, some e => l / second = e / second
  | _, _ => False

/-- The expiries that a server returns are datetimes. -/
def Dated {Γ : Type} (react : (e : Ev) → Γ → Resp e × Γ) : Prop :=
  ∀ why name γ a l, (react (.call why (.getAdmin name)) γ).1 = .ok (some a) →
    a.expire = some l → Representable l

/-- A sound provisioning that returns an admin with the requested expiry, to the second. -/
structure SoundToSecond (username : String) (want : Entitlement) (h : Past) (r : Except Err Admin) :
    Prop extends SoundOutcome username want h r where
  expiry : ∀ a, r = .ok a → SameSecond a.expire want.expire

/-- A server that returns the same admin whenever it is asked. -/
def steady (a : Admin) : (e : Ev) → Unit → Resp e × Unit
  | .call _ (.getAdmin _), _ => (.ok (some a), ())
  | .call _ (.updateAdmin _ _), _ => (.ok (), ())
  | .call _ _, _ => (.error ⟨.runtime, ""⟩, ())
  | .query _, _ => (.error ⟨.runtime, ""⟩, ())
  | .flush _, _ | .commit, _ => (.ok (), ())
  | .execute _, _ => (.ok 0, ())
  | .now, _ => (0, ())
  | .randbelow _, _ => (0, ())
  | .token _, _ => ("", ())
  | .send _, _ => (.ok (), ())
  | .chatMember _ _, _ => (.ok "", ())
  | .transaction _, _ => (.error ⟨.runtime, ""⟩, ())
  | .rollback, _ | .lock _, _ | .unlock _, _ | .createTask, _ => ((), ())

section Provision

variable {why : Cause} {username password : String} {want : Entitlement} {telegramId : Option ℤ}

/-- The admin that was asked for, but for its expiry. -/
def granted (username : String) (want : Entitlement) (l : Datetime) : Admin :=
  ⟨username, "reseller", "active", some l, want.dataLimit, 0, want.services, want.usersLimit⟩

theorem dated_steady {l : Datetime} (hl : Representable l) :
    Dated (steady (granted username want l)) := by
  intro why name γ a l' ha hl'
  obtain rfl : granted username want l = a := Option.some.inj (Except.ok.inj ha)
  obtain rfl : l = l' := Option.some.inj hl'
  exact hl

/-- An admin with the same timestamp is accepted. -/
theorem provision_steady {e l : Datetime} (he : want.expire = some e)
    (hsame : unixSeconds l = unixSeconds e) :
    (Act.run (steady (granted username want l)) Session.empty ()
      (provision why (some username) password want telegramId)).1.1 =
        .ok (granted username want l) := by
  have hread : Act.run (steady (granted username want l)) Session.empty ()
      (getAdmin (some username)) = ((.ok (some (granted username want l)), Session.empty), ()) := rfl
  have hwrite : Act.run (steady (granted username want l)) Session.empty ()
      (writeAdmin why (some username) (provisionPayload password want telegramId)
        (some (granted username want l))) = ((.ok (), Session.empty), ()) := rfl
  have hverify : verifyEntitlement (some (granted username want l)) (some username) want =
      .ok (granted username want l) := by
    refine verifyEntitlement_ok_iff.mpr
      ⟨rfl, rfl, rfl, (by decide : isActive "active" = true), ?_, rfl, fun _ => Iff.rfl, rfl⟩
    rw [he]
    exact decide_eq_true hsame
  rw [provision, Act.run_bind_ok _ _ _ _ hread, Act.run_bind_ok _ _ _ _ hwrite,
    Act.run_bind_ok _ _ _ _ hread, verifyAdmin, hverify]
  rfl

/-- What the last read has shown is a datetime. -/
theorem representable_returned {Γ : Type} {react : (e : Ev) → Γ → Resp e × Γ} {s : Session} {γ : Γ}
    (hdated : Dated react) {m : Bot Admin} {a : Admin} {l : Datetime}
    (h : (Act.history react s γ m).head? = some (readOf username (.ok (some a))))
    (hl : a.expire = some l) : Representable l := by
  have hmem : readOf username (.ok (some a)) ∈ Act.exchanges react s γ m :=
    List.mem_reverse.mp (List.mem_of_mem_head? h)
  obtain ⟨δ, hδ⟩ := Prog.answer_of_mem react (m s) γ hmem
  exact hdated _ _ δ a l hδ.symm hl

/-- **Provisioning is sound against any server, exactly if the timestamp of the requested expiry
tells its second from the others.** -/
theorem provision_sound_iff (why : Cause) (username password : String) (want : Entitlement)
    (telegramId : Option ℤ) (hwant : ∀ e, want.expire = some e → Representable e) :
    (∀ (Γ : Type) (react : (e : Ev) → Γ → Resp e × Γ) (s : Session) (γ : Γ), Dated react →
      SoundToSecond username want
        (Act.history react s γ (provision why (some username) password want telegramId))
        (Act.run react s γ (provision why (some username) password want telegramId)).1.1) ↔
      ∀ e, want.expire = some e → Told e := by
  constructor
  · intro hsound e he
    by_contra htold
    obtain ⟨l, hl, hsame, hne⟩ := exists_mistaken (hwant e he) htold
    have h := (hsound Unit (steady (granted username want l)) Session.empty ()
      (dated_steady hl)).expiry _ (provision_steady he hsame)
    rw [he] at h
    exact hne h
  · intro htold Γ react s γ hdated
    have h := provision_sound react s γ why username password want telegramId
    refine ⟨h, fun a ha => ?_⟩
    obtain ⟨hread, -, -, -, hsame, -⟩ := h.verified a ha
    cases hl : a.expire with
    | none =>
      cases he : want.expire with
      | none => exact trivial
      | some e =>
        rw [hl, he] at hsame
        cases hsame
    | some l =>
      cases he : want.expire with
      | none =>
        rw [hl, he] at hsame
        cases hsame
      | some e =>
        rw [hl, he] at hsame
        exact (htold e he).second_eq (hwant e he) (representable_returned hdated hread hl)
          (of_decide_eq_true hsame)

/-- The last microsecond of the first second of the year 3000. -/
def farEntitlement : Entitlement :=
  ⟨some (32503680000 * second + 999999), some 500, [.int 2], some 4⟩

/-- An admin that runs out a second later is accepted. -/
theorem far_second_accepted : ¬ ∀ (why : Cause) (username password : String) (want : Entitlement)
    (telegramId : Option ℤ), (∀ e, want.expire = some e → Representable e) →
    ∀ (Γ : Type) (react : (e : Ev) → Γ → Resp e × Γ) (s : Session) (γ : Γ), Dated react →
      SoundToSecond username want
        (Act.history react s γ (provision why (some username) password want telegramId))
        (Act.run react s γ (provision why (some username) password want telegramId)).1.1 := by
  intro h
  have hwant : ∀ e, farEntitlement.expire = some e → Representable e := by
    rintro _ ⟨⟩
    exact ⟨by decide, by decide⟩
  have hl : Representable (32503680001 * second) := ⟨by decide, by decide⟩
  have hs := (h (.trial 5) "shop" "" farEntitlement none hwant Unit
    (steady (granted "shop" farEntitlement (32503680001 * second))) Session.empty ()
    (dated_steady hl)).expiry _ (provision_steady rfl (by decide +kernel))
  have hsecond : 32503680001 * second / second = (32503680000 * second + 999999) / second := hs
  exact absurd hsecond (by decide)

/-- An expiry in the year 2033. -/
def nearEntitlement : Entitlement := ⟨some (2000000000 * second + 999999), some 500, [.int 2], some 4⟩

theorem provision_sound_near :
    (∀ (Γ : Type) (react : (e : Ev) → Γ → Resp e × Γ) (s : Session) (γ : Γ), Dated react →
      SoundToSecond "shop" nearEntitlement
        (Act.history react s γ (provision (.trial 5) (some "shop") "" nearEntitlement none))
        (Act.run react s γ (provision (.trial 5) (some "shop") "" nearEntitlement none)).1.1) ↔
      ∀ e, nearEntitlement.expire = some e → Told e :=
  provision_sound_iff _ _ _ _ _ (by
    rintro _ ⟨⟩
    exact ⟨by decide, by decide⟩)

end Provision

end ResellerBot
