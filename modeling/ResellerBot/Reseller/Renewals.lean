import ResellerBot.Reseller.Quota
import Mathlib.Algebra.Order.BigOperators.Group.List
import Mathlib.Algebra.Order.Group.MinMax
import Mathlib.Tactic.Linarith

/-!
# ResellerBot.Reseller.Renewals — several purchases one after another

A list of purchases is renewed in its order at a fixed instant and a fixed usage; what is left
afterwards has a closed form in which the order does not occur.
-/

namespace ResellerBot

/-- Bytes and days that are bought. -/
structure Purchase where
  bytes : ℤ
  days : ℤ
  deriving DecidableEq, Repr

def Purchase.Positive (p : Purchase) : Prop := 0 < p.bytes ∧ 0 < p.days

/-- The limits of a live admin that a renewal moves. -/
@[ext] structure Terms where
  limit : Option ℤ
  expire : Option Datetime
  deriving DecidableEq, Repr

/-- The quota that is left; an unknown or unlimited one counts as nothing. -/
def quotaLeft (used : ℤ) : Option ℤ → ℤ
  | none => 0
  | some l => if l ≤ 0 then 0 else l - used

def timeLeft (now : Datetime) : Option Datetime → ℤ
  | none => 0
  | some e => e - now

namespace Terms

variable (used : ℤ) (now : Datetime)

/-- One renewal. -/
def renew (t : Terms) (p : Purchase) : Except Err Terms := do
  let expire ← renewalExpiry t.expire now p.days
  pure ⟨some (renewalDataLimit t.limit used p.bytes), some expire⟩

def renewAll (t : Terms) (ps : List Purchase) : Except Err Terms := ps.foldlM (renew used now) t

/-- The instant from which the days of a purchase are counted. -/
def start (t : Terms) : Datetime := max (t.expire.getD now) now

def bytes (ps : List Purchase) : ℤ := (ps.map (·.bytes)).sum

def days (ps : List Purchase) : ℤ := (ps.map (·.days)).sum

/-- What is left, and everything that was bought. -/
def extended (t : Terms) (ps : List Purchase) : Terms where
  limit := some (used + max (quotaLeft used t.limit) 0 + bytes ps)
  expire := some (t.start now + days ps * day)

variable {used now} {t t' : Terms} {p : Purchase} {ps ps' : List Purchase}

theorem bytes_nonneg (h : ∀ p ∈ ps, p.Positive) : 0 ≤ bytes ps :=
  List.sum_nonneg (by simpa using fun p hp => (h p hp).1.le)

theorem days_nonneg (h : ∀ p ∈ ps, p.Positive) : 0 ≤ days ps :=
  List.sum_nonneg (by simpa using fun p hp => (h p hp).2.le)

@[simp] theorem bytes_cons : bytes (p :: ps) = p.bytes + bytes ps := by simp [bytes]

@[simp] theorem days_cons : days (p :: ps) = p.days + days ps := by simp [days]

/-! ## One purchase -/

theorem renewalDataLimit_eq {limit : Option ℤ} {b : ℤ} :
    renewalDataLimit limit used b = used + max (quotaLeft used limit) 0 + b := by
  cases limit with
  | none => simp [renewalDataLimit, quotaLeft]
  | some l =>
    unfold renewalDataLimit quotaLeft
    dsimp only
    split_ifs <;> omega

/-- The days fit if the instant that they lead to is one. -/
theorem addDays_iff {e u : Datetime} {n : ℤ} (he : datetimeMin ≤ e) (hn : 0 ≤ n) :
    addDays e n = .ok u ↔ e + n * day ≤ datetimeMax ∧ u = e + n * day := by
  have hday : 0 < day := by decide
  constructor
  · intro h
    have hu := addDays_ok h
    refine ⟨?_, hu⟩
    obtain ⟨d, hd, h⟩ := bind_eq_ok h
    rw [timedelta_ok hd, addTimedelta] at h
    by_contra hlt
    rw [if_neg fun hr => hlt hr.2] at h
    cases h
  · rintro ⟨hmax, rfl⟩
    have h0 : 0 ≤ n * day := Int.mul_nonneg hn hday.le
    have hrange : datetimeMax - datetimeMin ≤ 999999999 * day := by decide
    have hd : timedelta (n * day) = .ok (n * day) := by
      rw [timedelta, if_pos]
      rw [abs_of_nonneg h0]
      linarith
    rw [addDays, hd]
    exact if_pos ⟨by linarith, hmax⟩

theorem renew_iff (hnow : datetimeMin ≤ now) (hp : p.Positive) :
    t.renew used now p = .ok t' ↔
      t.start now + p.days * day ≤ datetimeMax ∧ t' = t.extended used now [p] := by
  have hstart : datetimeMin ≤ t.start now := hnow.trans (le_max_right _ _)
  have hext : t.extended used now [p] =
      ⟨some (renewalDataLimit t.limit used p.bytes), some (t.start now + p.days * day)⟩ := by
    rw [renewalDataLimit_eq]
    simp [extended, bytes, days]
  rw [hext]
  constructor
  · intro h
    obtain ⟨e, he, ht⟩ := bind_eq_ok h
    obtain ⟨hmax, rfl⟩ := (addDays_iff hstart hp.2.le).mp he
    exact ⟨hmax, (Except.ok.inj ht).symm⟩
  · rintro ⟨hmax, rfl⟩
    have he : renewalExpiry t.expire now p.days = .ok (t.start now + p.days * day) :=
      (addDays_iff hstart hp.2.le).mpr ⟨hmax, rfl⟩
    rw [renew, he]
    rfl

/-! ## All of them -/

theorem start_extended (h : ∀ p ∈ ps, p.Positive) :
    (t.extended used now ps).start now = t.start now + days ps * day := by
  have h0 : 0 ≤ days ps * day := Int.mul_nonneg (days_nonneg h) (by decide)
  have hnow : now ≤ t.start now := le_max_right _ _
  exact max_eq_left (by simp only [extended, Option.getD_some]; linarith)

/-- A renewed quota is positive, so what is left of it is what was left and what was bought. -/
theorem quotaLeft_extended (hused : 0 ≤ used) (h : ∀ p ∈ ps, p.Positive) (hne : ps ≠ []) :
    quotaLeft used (t.extended used now ps).limit = max (quotaLeft used t.limit) 0 + bytes ps := by
  obtain ⟨p, ps, rfl⟩ := List.exists_cons_of_ne_nil hne
  have hp := (h p (by simp)).1
  have hps := bytes_nonneg fun q hq => h q (List.mem_cons_of_mem p hq)
  have hleft : 0 ≤ max (quotaLeft used t.limit) 0 := le_max_right _ _
  simp only [extended, quotaLeft, bytes_cons]
  rw [if_neg (by omega)]
  omega

theorem extended_extended (hused : 0 ≤ used) (hp : p.Positive) :
    (t.extended used now [p]).extended used now ps = t.extended used now (p :: ps) := by
  have hone : ∀ q ∈ [p], q.Positive := by simpa using hp
  have hquota : quotaLeft used (t.extended used now [p]).limit = _ :=
    quotaLeft_extended hused hone (by simp)
  have hb : bytes [p] = p.bytes := by simp [bytes]
  have hd : days [p] = p.days := by simp [days]
  have h0 : 0 ≤ max (quotaLeft used t.limit) 0 + p.bytes :=
    Int.add_nonneg (le_max_right _ _) hp.1.le
  rw [extended, hquota, hb, max_eq_left h0, start_extended hone, hd]
  simp only [extended, bytes_cons, days_cons]
  rw [Int.add_mul, Int.add_assoc (t.start now), ← Int.add_assoc, ← Int.add_assoc,
    ← Int.add_assoc]

/-- **Purchases succeed exactly if the instant they lead to is one, and then they leave the quota
and the time that were left and everything that was bought.** -/
theorem renewAll_cons_iff (hnow : datetimeMin ≤ now) (hused : 0 ≤ used)
    (h : ∀ q ∈ p :: ps, q.Positive) :
    t.renewAll used now (p :: ps) = .ok t' ↔
      t.start now + days (p :: ps) * day ≤ datetimeMax ∧ t' = t.extended used now (p :: ps) := by
  induction ps generalizing p t with
  | nil =>
    have hp := h p (by simp)
    rw [show days [p] = p.days by simp [days], ← renew_iff hnow hp, renewAll, List.foldlM_cons]
    constructor
    · intro hr
      obtain ⟨u, hu, hr⟩ := bind_eq_ok hr
      cases hr
      exact hu
    · intro hr
      rw [hr]
      rfl
  | cons q qs ih =>
    have hp := h p (by simp)
    have hone : ∀ q ∈ [p], q.Positive := by simpa using hp
    have hqs : ∀ r ∈ q :: qs, r.Positive := fun r hr => h r (List.mem_cons_of_mem p hr)
    have hd : days [p] = p.days := by simp [days]
    have hstep : ∀ u, u = t.extended used now [p] → (u.renewAll used now (q :: qs) = .ok t' ↔
        t.start now + days (p :: q :: qs) * day ≤ datetimeMax ∧
          t' = t.extended used now (p :: q :: qs)) := by
      rintro u rfl
      rw [ih hqs, start_extended hone, extended_extended hused hp, hd, days_cons (p := p),
        Int.add_mul, Int.add_assoc]
    rw [renewAll, List.foldlM_cons]
    constructor
    · intro hr
      obtain ⟨u, hu, hr⟩ := bind_eq_ok hr
      exact (hstep u ((renew_iff hnow hp).mp hu).2).mp hr
    · intro hr
      have h0 : 0 ≤ days (q :: qs) * day := Int.mul_nonneg (days_nonneg hqs) (by decide)
      have hmax := hr.1
      rw [days_cons (p := p), Int.add_mul] at hmax
      rw [(renew_iff hnow hp).mpr ⟨by linarith, rfl⟩]
      exact (hstep _ rfl).mpr hr

/-! ## The order of the purchases -/

theorem extended_perm (h : ps.Perm ps') : t.extended used now ps = t.extended used now ps' := by
  have hb : bytes ps = bytes ps' := (h.map _).sum_eq
  have hd : days ps = days ps' := (h.map _).sum_eq
  rw [extended, extended, hb, hd]

theorem timeLeft_extended :
    timeLeft now (t.extended used now ps).expire =
      max (timeLeft now t.expire) 0 + days ps * day := by
  have hleft : max (timeLeft now t.expire) 0 = t.start now - now := by
    cases ht : t.expire with
    | none => simp [start, timeLeft, ht]
    | some e =>
      have hmax : max (e - now) (now - now) = max e now - now := max_sub_sub_right e now now
      simpa [start, timeLeft, ht] using hmax
  rw [hleft]
  show t.start now + days ps * day - now = t.start now - now + days ps * day
  linarith

/-- After a purchase there is time and quota. -/
theorem not_exhausted_extended (hused : 0 ≤ used) (h : ∀ p ∈ ps, p.Positive) (hne : ps ≠ []) :
    exhausted (t.extended used now ps).expire (t.extended used now ps).limit used now = false := by
  have hquota : quotaLeft used (t.extended used now ps).limit = _ := quotaLeft_extended hused h hne
  obtain ⟨p, ps, rfl⟩ := List.exists_cons_of_ne_nil hne
  have hp := h p (by simp)
  have hps : ∀ q ∈ ps, q.Positive := fun q hq => h q (List.mem_cons_of_mem p hq)
  have hbytes : 0 < bytes (p :: ps) := by
    have := bytes_nonneg hps
    have := hp.1
    rw [bytes_cons]
    omega
  have hdays : 0 < days (p :: ps) * day := by
    have h1 := days_nonneg hps
    have h2 := hp.2
    have hsum : 0 < days (p :: ps) := by
      rw [days_cons]
      omega
    exact Int.mul_pos hsum (by decide)
  have hstart : now ≤ t.start now := le_max_right _ _
  have htime : ¬t.start now + days (p :: ps) * day ≤ now := by
    intro hle
    linarith
  have hleft : 0 ≤ max (quotaLeft used t.limit) 0 := le_max_right _ _
  have hlimit : ¬used + max (quotaLeft used t.limit) 0 + bytes (p :: ps) - used ≤ 0 := by omega
  show (decide (t.start now + days (p :: ps) * day ≤ now) || (decide (0 < _) && decide (_ ≤ 0))) =
    false
  rw [decide_eq_false htime, decide_eq_false hlimit, Bool.and_false, Bool.or_false]

/-- **Renewals.**  They succeed in one order if they do in any, unless the days lead beyond the last
datetime; then the result is the same, and one purchase is enough to end the exhaustion. -/
theorem renewals (hnow : datetimeMin ≤ now) (hused : 0 ≤ used) (h : ∀ p ∈ ps, p.Positive)
    (hperm : ps.Perm ps') :
    ((∃ t', t.renewAll used now ps = .ok t') ↔
      ps = [] ∨ t.start now + days ps * day ≤ datetimeMax) ∧
    ∀ t', t.renewAll used now ps = .ok t' →
      t.renewAll used now ps' = .ok t' ∧
      (ps = [] → t' = t) ∧
      (ps ≠ [] →
        quotaLeft used t'.limit = max (quotaLeft used t.limit) 0 + bytes ps ∧
        timeLeft now t'.expire = max (timeLeft now t.expire) 0 + days ps * day ∧
        exhausted t'.expire t'.limit used now = false) := by
  cases ps with
  | nil =>
    rw [← hperm.nil_eq]
    refine ⟨⟨fun _ => .inl rfl, fun _ => ⟨t, rfl⟩⟩, fun t' ht => ?_⟩
    exact ⟨ht, fun _ => (Except.ok.inj ht).symm, fun hne => absurd rfl hne⟩
  | cons p ps =>
    have hiff : ∀ t', t.renewAll used now (p :: ps) = .ok t' ↔ _ :=
      fun t' => renewAll_cons_iff hnow hused h
    constructor
    · constructor
      · rintro ⟨t', ht⟩
        exact .inr ((hiff t').mp ht).1
      · rintro (hnil | hmax)
        · cases hnil
        · exact ⟨_, (hiff _).mpr ⟨hmax, rfl⟩⟩
    · intro t' ht
      obtain ⟨hmax, rfl⟩ := (hiff t').mp ht
      refine ⟨?_, fun hnil => absurd hnil (by simp), fun hne => ⟨quotaLeft_extended hused h hne,
        timeLeft_extended, not_exhausted_extended hused h hne⟩⟩
      obtain ⟨q, qs, rfl⟩ := List.exists_cons_of_ne_nil (l := ps') (by
        rintro rfl
        exact absurd hperm.eq_nil (by simp))
      have hdays : days (p :: ps) = days (q :: qs) := (hperm.map _).sum_eq
      rw [renewAll_cons_iff hnow hused fun r hr => h r (hperm.mem_iff.mpr hr), ← hdays,
        extended_perm hperm]
      exact ⟨hmax, rfl⟩

/-- The first of January 2026. -/
def newYear : Datetime := 1767225600 * second

/-- Two purchases in both orders, by a reseller whose quota was used up yesterday. -/
theorem renewals_exhausted :
    ∃ t', (⟨some 5, some (newYear - day)⟩ : Terms).renewAll 10 newYear [⟨3, 30⟩, ⟨4, 1⟩] = .ok t' ∧
      (⟨some 5, some (newYear - day)⟩ : Terms).renewAll 10 newYear [⟨4, 1⟩, ⟨3, 30⟩] = .ok t' ∧
      quotaLeft 10 t'.limit = 7 ∧ timeLeft newYear t'.expire = 31 * day := by
  have h := @renewals 10 newYear ⟨some 5, some (newYear - day)⟩ [⟨3, 30⟩, ⟨4, 1⟩] [⟨4, 1⟩, ⟨3, 30⟩]
    (by decide) (by decide) (by simp [Purchase.Positive]) (by decide)
  obtain ⟨t', ht⟩ := h.1.mpr (.inr (by decide))
  obtain ⟨hperm, -, hleft⟩ := h.2 t' ht
  exact ⟨t', ht, hperm, (hleft (by simp)).1, (hleft (by simp)).2.1⟩

/-- Eleven thousand years cannot be added, and no purchase leaves a negative quota as it was. -/
theorem renewals_limits :
    (¬∃ t', (⟨none, none⟩ : Terms).renewAll 0 newYear [⟨1, 4000000⟩] = .ok t') ∧
    ¬∃ t', (⟨some 5, none⟩ : Terms).renewAll 10 newYear [] = .ok t' ∧
      quotaLeft 10 t'.limit = max (quotaLeft 10 (some 5)) 0 + bytes [] := by
  constructor
  · rintro ⟨t', ht⟩
    have herr : (⟨none, none⟩ : Terms).renewAll 0 newYear [⟨1, 4000000⟩] =
        .error overflowError := by decide
    cases herr.symm.trans ht
  · rintro ⟨t', ht, hleft⟩
    cases ht
    revert hleft
    decide

end Terms

end ResellerBot
