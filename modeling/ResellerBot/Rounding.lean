import Mathlib.Data.Int.Log
import Mathlib.Data.Rat.Floor
import Mathlib.Tactic.Linarith
import Mathlib.Tactic.NormNum
import Mathlib.Tactic.Positivity
import Mathlib.Tactic.Ring

/-!
# ResellerBot.Rounding — rounding to significant digits

Numbers with `p` digits in base `b` and exponents without bounds, and the nearest of them; of two,
the even one.  With `b = 2` and `p = 53` this is binary64 away from its smallest and largest
numbers, with `b = 10` a decimal context.
-/

namespace ResellerBot.Rounding

/-! ## Integers -/

/-- The nearest integer; of two, the even one. -/
def halfEven (q : ℚ) : ℤ :=
  if 1 / 2 < q - ⌊q⌋ ∨ q - ⌊q⌋ = 1 / 2 ∧ ⌊q⌋ % 2 = 1 then ⌊q⌋ + 1 else ⌊q⌋

/-- The integer next to `q` on the side of zero. -/
def truncate (q : ℚ) : ℤ := if q < 0 then ⌈q⌉ else ⌊q⌋

section Integers

variable {q r : ℚ} {n : ℤ}

theorem halfEven_intCast (n : ℤ) : halfEven n = n := by
  rw [halfEven, Int.floor_intCast, sub_self, if_neg]
  norm_num

/-- Rounding goes to one of the two neighbours. -/
theorem halfEven_eq_or (q : ℚ) : halfEven q = ⌊q⌋ ∨
    (halfEven q = ⌊q⌋ + 1 ∧ (⌊q⌋ : ℚ) < q) := by
  unfold halfEven
  split_ifs with h
  · refine .inr ⟨rfl, ?_⟩
    obtain h | ⟨h, -⟩ := h <;> linarith
  · exact .inl rfl

theorem abs_halfEven_sub_le (q : ℚ) : |halfEven q - q| ≤ 1 / 2 := by
  have hlow := Int.floor_le q
  have hhigh := Int.lt_floor_add_one q
  unfold halfEven
  rw [abs_le]
  split_ifs with h
  · obtain h | ⟨h, -⟩ := h <;> push_cast <;> constructor <;> linarith
  · have hle : q - ⌊q⌋ ≤ 1 / 2 := not_lt.mp fun hlt => h (.inl hlt)
    constructor <;> linarith

theorem halfEven_eq (h : |q - n| < 1 / 2) : halfEven q = n := by
  have hq := abs_le.mp (abs_halfEven_sub_le q)
  have hn := abs_lt.mp h
  have hlt : (halfEven q : ℚ) < n + 1 := by linarith
  have hgt : (n : ℚ) < halfEven q + 1 := by linarith
  have hlt' : halfEven q < n + 1 := by exact_mod_cast hlt
  have hgt' : n < halfEven q + 1 := by exact_mod_cast hgt
  omega

theorem halfEven_mono (h : q ≤ r) : halfEven q ≤ halfEven r := by
  obtain hfloor | hfloor := (Int.floor_mono h).eq_or_lt
  · -- the fraction of `r` is the larger one
    unfold halfEven
    rw [← hfloor]
    split_ifs with hq hr hr
    · exact le_rfl
    · refine absurd ?_ hr
      obtain hq | ⟨hq, hodd⟩ := hq
      · exact .inl (by linarith)
      · obtain heq | hlt := h.eq_or_lt
        · exact .inr ⟨heq ▸ hq, hodd⟩
        · exact .inl (by linarith)
    · omega
    · exact le_rfl
  · have hq := halfEven_eq_or q
    have hr := halfEven_eq_or r
    omega

theorem halfEven_neg (q : ℚ) : halfEven (-q) = -halfEven q := by
  obtain hint | hlt := (Int.floor_le q).eq_or_lt
  · rw [← hint, ← Int.cast_neg, halfEven_intCast, halfEven_intCast]
  · have hhigh := Int.lt_floor_add_one q
    have hfloor : ⌊-q⌋ = -⌊q⌋ - 1 := by
      rw [Int.floor_eq_iff]
      push_cast
      constructor <;> linarith
    unfold halfEven
    rw [hfloor]
    push_cast
    split_ifs with h1 h2 h2
    · -- two halves of different parity
      obtain h1 | ⟨h1, hodd⟩ := h1 <;> obtain h2 | ⟨h2, hodd'⟩ := h2
      · exact absurd h2 (by linarith)
      · exact absurd h2 (by linarith)
      · exact absurd h2 (by linarith)
      · omega
    · ring
    · ring
    · refine absurd ?_ h2
      push Not at h1
      by_cases hhalf : q - ⌊q⌋ = 1 / 2
      · have hodd := h1.2 (by linarith)
        exact .inr ⟨hhalf, by omega⟩
      · refine .inl (lt_of_le_of_ne ?_ (Ne.symm hhalf))
        linarith [h1.1]

theorem truncate_intCast (n : ℤ) : truncate n = n := by
  rw [truncate, Int.floor_intCast, Int.ceil_intCast, ite_self]

theorem truncate_mono (h : q ≤ r) : truncate q ≤ truncate r := by
  unfold truncate
  split_ifs with hq hr hr
  · exact Int.ceil_mono h
  · have hceil : ⌈q⌉ ≤ 0 := Int.ceil_le.mpr (by exact_mod_cast hq.le)
    exact hceil.trans (Int.floor_nonneg.mpr (not_lt.mp hr))
  · exact absurd (h.trans_lt hr) hq
  · exact Int.floor_mono h

end Integers

/-! ## Digits -/

/-- The place of the last of `p` digits of `q`. -/
def unit (b p : ℕ) (q : ℚ) : ℚ := b ^ (Int.log b |q| + 1 - p)

/-- `q`, rounded to `p` digits. -/
def digits (b p : ℕ) (q : ℚ) : ℚ := halfEven (q / unit b p q) * unit b p q

/-- At most `p` digits. -/
def Fits (b p : ℕ) (q : ℚ) : Prop := ∃ (m : ℕ) (k : ℤ), |q| = m * b ^ k ∧ m < b ^ p

section Digits

variable {b p : ℕ} {q r : ℚ}

theorem unit_pos (hb : 1 < b) (q : ℚ) : 0 < unit b p q :=
  zpow_pos (by exact_mod_cast hb.le) _

theorem unit_neg (q : ℚ) : unit b p (-q) = unit b p q := by rw [unit, unit, abs_neg]

theorem digits_neg (q : ℚ) : digits b p (-q) = -digits b p q := by
  rw [digits, digits, unit_neg, neg_div, halfEven_neg]
  push_cast
  ring

theorem fits_neg : Fits b p (-q) ↔ Fits b p q := by rw [Fits, Fits, abs_neg]

theorem fits_intCast {n : ℤ} (h : |n| < (b : ℤ) ^ p) : Fits b p n := by
  refine ⟨n.natAbs, 0, ?_, ?_⟩
  · rw [zpow_zero, mul_one, Nat.cast_natAbs, Int.cast_abs]
  · have hn : (n.natAbs : ℤ) < (b : ℤ) ^ p := by rwa [Int.natCast_natAbs]
    exact_mod_cast hn

/-- In units, `q` has `p` digits before the point. -/
theorem abs_div_unit_lt (hb : 1 < b) (q : ℚ) : |q| / unit b p q < b ^ p := by
  rw [div_lt_iff₀ (unit_pos hb q)]
  have h := Int.lt_zpow_succ_log_self hb |q|
  have hunit : (b : ℚ) ^ p * unit b p q = b ^ (Int.log b |q| + 1) := by
    rw [unit, ← zpow_natCast, ← zpow_add₀ (by exact_mod_cast (by omega : b ≠ 0))]
    congr 1
    ring
  rwa [hunit]

/-- The first of them is not zero. -/
theorem le_abs_div_unit (hb : 1 < b) (hp : 0 < p) (hq : q ≠ 0) :
    (b : ℚ) ^ (p - 1) ≤ |q| / unit b p q := by
  rw [le_div_iff₀ (unit_pos hb q)]
  have h := Int.zpow_log_le_self hb (abs_pos.mpr hq)
  have hunit : (b : ℚ) ^ (p - 1) * unit b p q = b ^ Int.log b |q| := by
    rw [unit, ← zpow_natCast, ← zpow_add₀ (by exact_mod_cast (by omega : b ≠ 0))]
    congr 1
    push_cast [Nat.cast_sub hp]
    ring
  rwa [hunit]

theorem unit_le (hb : 1 < b) (hq : q ≠ 0) {e : ℤ} (h : |q| < b ^ e) :
    unit b p q ≤ b ^ (e - p) := by
  have hlog : Int.log b |q| < e := (Int.lt_zpow_iff_log_lt hb (abs_pos.mpr hq)).mp h
  exact zpow_le_zpow_right₀ (by exact_mod_cast hb.le) (by omega)

theorem le_unit (hb : 1 < b) {e : ℤ} (h : (b : ℚ) ^ e ≤ |q|) :
    (b : ℚ) ^ (e + 1 - p) ≤ unit b p q := by
  have hb0 : (0 : ℚ) < b := by exact_mod_cast (by omega : 0 < b)
  have hq : 0 < |q| := (zpow_pos hb0 e).trans_le h
  have hlog : e ≤ Int.log b |q| := (Int.zpow_le_iff_le_log hb hq).mp h
  exact zpow_le_zpow_right₀ (by exact_mod_cast hb.le) (by omega)

theorem abs_digits_sub_le (hb : 1 < b) (q : ℚ) : |digits b p q - q| ≤ unit b p q / 2 := by
  have hu := unit_pos (p := p) hb q
  have hq : digits b p q - q = (halfEven (q / unit b p q) - q / unit b p q) * unit b p q := by
    rw [digits, sub_mul, div_mul_cancel₀ _ hu.ne']
  rw [hq, abs_mul, abs_of_pos hu]
  calc |(halfEven (q / unit b p q) - q / unit b p q : ℚ)| * unit b p q
      ≤ 1 / 2 * unit b p q := mul_le_mul_of_nonneg_right (abs_halfEven_sub_le _) hu.le
    _ = unit b p q / 2 := by ring

theorem digits_zero : digits b p 0 = 0 := by
  have h := halfEven_intCast 0
  rw [Int.cast_zero] at h
  rw [digits, zero_div, h, Int.cast_zero, zero_mul]

theorem digits_nonneg (hb : 1 < b) (hq : 0 ≤ q) : 0 ≤ digits b p q := by
  have hu := unit_pos (p := p) hb q
  have hround : 0 ≤ halfEven (q / unit b p q) := by
    have h := halfEven_mono (div_nonneg hq hu.le)
    have h0 := halfEven_intCast 0
    rw [Int.cast_zero] at h0
    rwa [h0] at h
  exact mul_nonneg (by exact_mod_cast hround) hu.le

/-! ## What is kept -/

theorem digits_of_fits_pos (hb : 1 < b) (hq : 0 < q) (h : Fits b p q) : digits b p q = q := by
  obtain ⟨m, k, hqk, hm⟩ := h
  rw [abs_of_pos hq] at hqk
  have hb0 : (b : ℚ) ≠ 0 := by exact_mod_cast (by omega : b ≠ 0)
  have hpow : (0 : ℚ) < b ^ k := zpow_pos (by exact_mod_cast hb.le) _
  have hlt : (b : ℚ) ^ Int.log b q < b ^ (p + k) := by
    have hm : (m : ℚ) < b ^ (p : ℤ) := by exact_mod_cast hm
    calc (b : ℚ) ^ Int.log b q ≤ q := Int.zpow_log_le_self hb hq
      _ = m * b ^ k := hqk
      _ < b ^ (p : ℤ) * b ^ k := mul_lt_mul_of_pos_right hm hpow
      _ = b ^ (p + k) := (zpow_add₀ hb0 _ _).symm
  have hexp : Int.log b q < p + k := (zpow_lt_zpow_iff_right₀ (by exact_mod_cast hb)).mp hlt
  -- the unit divides the last digit
  obtain ⟨j, hj⟩ := Int.eq_ofNat_of_zero_le (show 0 ≤ k - (Int.log b q + 1 - p) by omega)
  have hdiv : q / unit b p q = ((m * b ^ j : ℕ) : ℤ) := by
    rw [unit, abs_of_pos hq]
    nth_rewrite 1 [hqk]
    rw [mul_div_assoc, ← zpow_sub₀ hb0, hj]
    push_cast
    rw [zpow_natCast]
  rw [digits, hdiv, halfEven_intCast, ← hdiv, div_mul_cancel₀ _ (unit_pos hb q).ne']

/-- **What fits is kept.** -/
theorem digits_of_fits (hb : 1 < b) (h : Fits b p q) : digits b p q = q := by
  obtain hq | rfl | hq := lt_trichotomy q 0
  · have hneg := digits_of_fits_pos hb (neg_pos.mpr hq) (fits_neg.mpr h)
    rw [digits_neg] at hneg
    exact neg_inj.mp hneg
  · exact digits_zero
  · exact digits_of_fits_pos hb hq h

theorem digits_intCast (hb : 1 < b) {n : ℤ} (h : |n| < (b : ℤ) ^ p) : digits b p n = n :=
  digits_of_fits hb (fits_intCast h)

/-- An integer that is nearer than half a unit is what is returned. -/
theorem digits_eq_intCast (hb : 1 < b) (hq : q ≠ 0) (hlt : |q| < b ^ p) {n : ℤ}
    (h : |q - n| < unit b p q / 2) : digits b p q = n := by
  have hu := unit_pos (p := p) hb q
  have hlog : Int.log b |q| < p := (Int.lt_zpow_iff_log_lt hb (abs_pos.mpr hq)).mp hlt
  obtain ⟨j, hj⟩ := Int.eq_ofNat_of_zero_le (show 0 ≤ p - Int.log b |q| - 1 by omega)
  -- in units it is an integer as well
  have hn : (n : ℚ) = (n * b ^ j : ℤ) * unit b p q := by
    have hb0 : (b : ℚ) ^ j ≠ 0 := pow_ne_zero j (by exact_mod_cast (by omega : b ≠ 0))
    rw [unit, show Int.log b |q| + 1 - p = -(j : ℤ) by omega, zpow_neg, zpow_natCast]
    push_cast
    rw [mul_assoc, mul_inv_cancel₀ hb0, mul_one]
  have hnear : |q / unit b p q - (n * b ^ j : ℤ)| < 1 / 2 := by
    have hdiv : q / unit b p q - (n * b ^ j : ℤ) = (q - n) / unit b p q := by
      rw [sub_div, hn, mul_div_cancel_right₀ _ hu.ne']
    rw [hdiv, abs_div, abs_of_pos hu, div_lt_iff₀ hu]
    linarith
  rw [digits, halfEven_eq hnear, ← hn]

/-- In units, what is rounded has at most `p` digits or is the next power. -/
theorem abs_halfEven_div_le (hb : 1 < b) (q : ℚ) : |halfEven (q / unit b p q)| ≤ (b : ℤ) ^ p := by
  have hlt : |q / unit b p q| < ((b ^ p : ℤ) : ℚ) := by
    rw [abs_div, abs_of_pos (unit_pos hb q)]
    exact_mod_cast abs_div_unit_lt hb q
  obtain ⟨hlow, hhigh⟩ := abs_lt.mp hlt
  rw [← Int.cast_neg] at hlow
  have h1 := halfEven_mono hlow.le
  have h2 := halfEven_mono hhigh.le
  rw [halfEven_intCast] at h1 h2
  exact abs_le.mpr ⟨h1, h2⟩

/-- **What is returned fits.** -/
theorem fits_digits (hb : 1 < b) (hp : 0 < p) (q : ℚ) : Fits b p (digits b p q) := by
  have habs : |digits b p q| = ((halfEven (q / unit b p q)).natAbs : ℚ) * unit b p q := by
    rw [digits, abs_mul, abs_of_pos (unit_pos hb q), Nat.cast_natAbs, Int.cast_abs]
  have hle : (halfEven (q / unit b p q)).natAbs ≤ b ^ p := by
    have h := abs_halfEven_div_le (p := p) hb q
    rw [← Int.natCast_natAbs] at h
    exact_mod_cast h
  obtain heq | hlt := hle.eq_or_lt
  · -- a carry through all the digits leaves one digit
    refine ⟨1, Int.log b |q| + 1, ?_, Nat.one_lt_pow hp.ne' hb⟩
    rw [habs, heq, unit, Nat.cast_one, one_mul, Nat.cast_pow, ← zpow_natCast,
      ← zpow_add₀ (by exact_mod_cast (by omega : b ≠ 0))]
    congr 1
    ring
  · exact ⟨_, _, habs, hlt⟩

/-! ## Order -/

theorem digits_mono_pos (hb : 1 < b) (hp : 0 < p) (hq : 0 < q) (h : q ≤ r) :
    digits b p q ≤ digits b p r := by
  have hr : 0 < r := hq.trans_le h
  have hb0 : (b : ℚ) ≠ 0 := by exact_mod_cast (by omega : b ≠ 0)
  obtain hlog | hlog := (Int.log_mono_right (b := b) hq h).eq_or_lt
  · have hunit : unit b p q = unit b p r := by
      rw [unit, unit, abs_of_pos hq, abs_of_pos hr, hlog]
    have hu := unit_pos (p := p) hb r
    rw [digits, digits, hunit]
    refine mul_le_mul_of_nonneg_right ?_ hu.le
    exact_mod_cast halfEven_mono (div_le_div_of_nonneg_right h hu.le)
  · -- a power of the base lies between them
    have hlow : digits b p q ≤ b ^ (Int.log b q + 1) := by
      have hle := (abs_le.mp (abs_halfEven_div_le (p := p) hb q)).2
      have hle' : (halfEven (q / unit b p q) : ℚ) ≤ b ^ p := by exact_mod_cast hle
      calc digits b p q ≤ b ^ p * unit b p q :=
            mul_le_mul_of_nonneg_right hle' (unit_pos hb q).le
        _ = b ^ (Int.log b q + 1) := by
            rw [unit, abs_of_pos hq, ← zpow_natCast, ← zpow_add₀ hb0]
            congr 1
            ring
    have hhigh : (b : ℚ) ^ Int.log b r ≤ digits b p r := by
      have hle := le_abs_div_unit hb hp hr.ne'
      rw [abs_of_pos hr] at hle
      have hround : (b : ℤ) ^ (p - 1) ≤ halfEven (r / unit b p r) := by
        have h := halfEven_mono hle
        rwa [← Nat.cast_pow, ← Int.cast_natCast, halfEven_intCast, Nat.cast_pow] at h
      have hround' : (b : ℚ) ^ (p - 1) ≤ halfEven (r / unit b p r) := by exact_mod_cast hround
      calc (b : ℚ) ^ Int.log b r = b ^ (p - 1) * unit b p r := by
            rw [unit, abs_of_pos hr, ← zpow_natCast, ← zpow_add₀ hb0]
            congr 1
            push_cast [Nat.cast_sub hp]
            ring
        _ ≤ digits b p r := mul_le_mul_of_nonneg_right hround' (unit_pos hb r).le
    have hpow : (b : ℚ) ^ (Int.log b q + 1) ≤ b ^ Int.log b r :=
      zpow_le_zpow_right₀ (by exact_mod_cast hb.le) hlog
    exact hlow.trans (hpow.trans hhigh)

/-- **Rounding keeps the order.** -/
theorem digits_mono (hb : 1 < b) (hp : 0 < p) (h : q ≤ r) : digits b p q ≤ digits b p r := by
  obtain hq | hq := lt_or_ge 0 q
  · exact digits_mono_pos hb hp hq h
  · have hneg : digits b p q ≤ 0 := by
      have h0 := digits_nonneg (p := p) hb (neg_nonneg.mpr hq)
      rw [digits_neg] at h0
      exact neg_nonneg.mp h0
    obtain hr | hr := le_or_gt 0 r
    · exact hneg.trans (digits_nonneg hb hr)
    · have hmono := digits_mono_pos hb hp (neg_pos.mpr hr) (neg_le_neg h)
      rw [digits_neg, digits_neg] at hmono
      exact neg_le_neg_iff.mp hmono

end Digits

end ResellerBot.Rounding
