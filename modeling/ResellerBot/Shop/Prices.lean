import ResellerBot.Shop.Products
import Mathlib.Tactic.Positivity
import Mathlib.Tactic.FieldSimp
import Mathlib.Tactic.NormNum

/-!
# ResellerBot.Shop.Prices — prices in rial (`app/bot/ui/money.py`)

Which decimals the context keeps, and which texts become a price that is shown again as it was
entered.
-/

namespace ResellerBot

/-! ## The decimal context -/

/-- At most 28 significant digits. -/
def Short (q : ℚ) : Prop := Rounding.Fits 10 28 q

namespace Decimal

def rounded (q : ℚ) : ℚ := Rounding.digits 10 28 q

variable {q : ℚ}

theorem inContext_eq (hq : q ≠ 0) : inContext q =
    if 1000000 ≤ Int.log 10 |rounded q| then .error ⟨.overflow, "[<class 'decimal.Overflow'>]"⟩
    else .ok (.finite (rounded q)) := if_neg hq

/-- The context keeps what is short. -/
theorem rounded_of_short (h : Short q) : rounded q = q := Rounding.digits_of_fits (by decide) h

/-- What the context returns is short. -/
theorem short_rounded (q : ℚ) : Short (rounded q) :=
  Rounding.fits_digits (by decide) (by decide) q

end Decimal

/-! ## Rial -/

/-- `toman_to_rial`: `Decimal(str(value))` is the value itself. -/
def tomanToRial : Decimal → Except Err Decimal
  | .finite q => Decimal.inContext (q * 10)
  | .infinity negative => .ok (.infinity negative)
  | .nan false => .ok (.nan false)
  | .nan true => .error invalidOperation

/-- `f"{d:.0f}"`, which no context rounds. -/
def Decimal.wholeText : Decimal → String
  | .finite q => toString (Rounding.halfEven q)
  | .infinity negative => if negative then "-Infinity" else "Infinity"
  | .nan signals => if signals then "sNaN" else "NaN"

/-- `rial_digits` -/
def rialDigits (value : Decimal) : Except Err String := (tomanToRial value).map Decimal.wholeText

/-- The text denotes a price in rial that is a whole number of toman. -/
def DenotesRial (text : String) (n : ℤ) : Prop :=
  Decimal.ofText text = .ok (.finite n) ∧ 0 < n ∧ 10 ∣ n

/-- What is accepted is shown as it was entered; what is not accepted denotes no price and is
answered with a `ValueError`. -/
def ExactRial (text : String) : Prop :=
  match rialToToman (some text) with
  | .ok t => ∃ n, DenotesRial text n ∧ tomanToRial t = .ok (.finite n) ∧
      rialDigits t = .ok (toString n)
  | .error e => e.kind = .valueError ∧ ¬∃ n, DenotesRial text n

/-- No NaN, no infinite price, and no price with more than 28 significant digits or more than a
million digits. -/
structure PlainRial (text : String) : Prop where
  number : ∀ signals, Decimal.ofText text ≠ .ok (.nan signals)
  bounded : Decimal.ofText text ≠ .ok (.infinity false)
  short : ∀ n, DenotesRial text n → Short n ∧ Int.log 10 (n : ℚ) < 1000000

section Rial

variable {text : String} {n : ℤ} {q : ℚ}

theorem Short.mul_ten (h : Short q) : Short (q * 10) := by
  obtain ⟨m, k, hq, hm⟩ := h
  refine ⟨m, k + 1, ?_, hm⟩
  rw [abs_mul, hq, zpow_add₀ (by norm_num), zpow_one, mul_assoc]
  norm_num

theorem Short.div_ten (h : Short q) : Short (q / 10) := by
  obtain ⟨m, k, hq, hm⟩ := h
  refine ⟨m, k - 1, ?_, hm⟩
  rw [abs_div, hq, zpow_sub₀ (by norm_num), zpow_one, mul_div_assoc]
  norm_num

theorem DenotesRial.rialToToman (h : DenotesRial text n) :
    rialToToman (some text) = Decimal.inContext (n / 10) := by
  obtain ⟨htext, hpos, hten⟩ := h
  have hle : ¬((n : ℚ) ≤ 0 ∨ (n : ℚ) ≠ ⌊(n : ℚ)⌋) := by
    rw [Int.floor_intCast]
    push Not
    exact ⟨by exact_mod_cast hpos, rfl⟩
  rw [ResellerBot.rialToToman, Option.getD_some, htext]
  dsimp only
  rw [if_neg hle, Int.floor_intCast, if_neg (not_not.mpr (Int.emod_eq_zero_of_dvd hten))]

/-- A finite number that is no price. -/
theorem rialToToman_of_finite (htext : Decimal.ofText text = .ok (.finite q))
    (hno : ¬∃ n, DenotesRial text n) :
    ∃ e, rialToToman (some text) = .error e ∧ e.kind = .valueError := by
  rw [rialToToman, Option.getD_some, htext]
  dsimp only
  split_ifs with h1 h2
  · exact ⟨_, rfl, rfl⟩
  · exact ⟨_, rfl, rfl⟩
  · push Not at h1 h2
    refine absurd ⟨⌊q⌋, by rw [htext, ← h1.2], ?_, Int.dvd_of_emod_eq_zero h2⟩ hno
    have hq := h1.1
    rw [h1.2] at hq
    exact_mod_cast hq

/-- A price that is short survives the division by ten and the multiplication. -/
theorem exact_of_short (h : DenotesRial text n) (hshort : Short n)
    (hlog : Int.log 10 (n : ℚ) < 1000000) : ExactRial text := by
  have hpos : (0 : ℚ) < n := by exact_mod_cast h.2.1
  have hdiv : (0 : ℚ) < n / 10 := div_pos hpos (by norm_num)
  have hle : Int.log 10 ((n : ℚ) / 10) ≤ Int.log 10 (n : ℚ) :=
    Int.log_mono_right hdiv (by rw [div_le_iff₀ (by norm_num)]; linarith)
  have htoman : Decimal.inContext ((n : ℚ) / 10) = .ok (.finite (n / 10)) := by
    rw [Decimal.inContext_eq hdiv.ne', Decimal.rounded_of_short hshort.div_ten,
      abs_of_pos hdiv, if_neg (by omega)]
  have hrial : tomanToRial (.finite (n / 10)) = .ok (.finite n) := by
    rw [tomanToRial, div_mul_cancel₀ _ (by norm_num), Decimal.inContext_eq hpos.ne',
      Decimal.rounded_of_short hshort, abs_of_pos hpos, if_neg (by omega)]
  rw [ExactRial, h.rialToToman, htoman]
  refine ⟨n, h, hrial, ?_⟩
  rw [rialDigits, hrial]
  show Except.ok (toString (Rounding.halfEven n)) = _
  rw [Rounding.halfEven_intCast]

/-- Only such a price survives. -/
theorem short_of_exact (h : DenotesRial text n) (hexact : ExactRial text) :
    Short n ∧ Int.log 10 (n : ℚ) < 1000000 := by
  have hpos : (0 : ℚ) < n := by exact_mod_cast h.2.1
  have hdiv : (0 : ℚ) < n / 10 := div_pos hpos (by norm_num)
  have hshort := Decimal.short_rounded (n / 10)
  rw [ExactRial, h.rialToToman, Decimal.inContext_eq hdiv.ne'] at hexact
  split_ifs at hexact with hbig
  · exact absurd hexact.1 (by simp)
  · obtain ⟨n', hn', hrial, -⟩ := hexact
    have hnn : (n' : ℚ) = n := by
      have := hn'.1.symm.trans h.1
      simpa using this
    rw [hnn, tomanToRial] at hrial
    -- the rounded tenth is not zero, for ten times zero is no price
    have hr0 : 0 ≤ Decimal.rounded (n / 10) := Rounding.digits_nonneg (by decide) hdiv.le
    have hr : 0 < Decimal.rounded (n / 10) * 10 := by
      refine mul_pos (lt_of_le_of_ne hr0 fun h0 => ?_) (by norm_num)
      rw [← h0, zero_mul] at hrial
      have : (n : ℚ) = 0 := by simpa [Decimal.inContext] using hrial.symm
      linarith
    rw [Decimal.inContext_eq hr.ne', Decimal.rounded_of_short hshort.mul_ten] at hrial
    split_ifs at hrial with hbig'
    have hn10 : Decimal.rounded (n / 10) * 10 = n := by simpa using hrial
    rw [hn10] at hbig'
    rw [abs_of_pos hpos] at hbig'
    exact ⟨hn10 ▸ hshort.mul_ten, by omega⟩

/-- **Rial input is exact or rejected exactly for plain texts.** -/
theorem rial_exact_iff (text : String) : ExactRial text ↔ PlainRial text := by
  cases htext : Decimal.ofText text with
  | error e =>
    have hno : ¬∃ n, DenotesRial text n := by
      rintro ⟨n, hn, -⟩
      cases htext.symm.trans hn
    have hrun : rialToToman (some text) = .error (valueError "قیمت ریالی نامعتبر است.") := by
      rw [rialToToman, Option.getD_some, htext]
    constructor
    · intro _
      refine ⟨fun signals h => ?_, fun h => ?_, fun n hn => absurd ⟨n, hn⟩ hno⟩
      · cases htext.symm.trans h
      · cases htext.symm.trans h
    · intro _
      rw [ExactRial, hrun]
      exact ⟨rfl, hno⟩
  | ok d =>
    cases d with
    | nan signals =>
      have hrun : rialToToman (some text) = .error invalidOperation := by
        rw [rialToToman, Option.getD_some, htext]
      constructor
      · intro h
        rw [ExactRial, hrun] at h
        exact absurd h.1 (by decide)
      · exact fun h => absurd htext (h.number signals)
    | infinity negative =>
      have hno : ¬∃ n, DenotesRial text n := by
        rintro ⟨n, hn, -⟩
        cases htext.symm.trans hn
      cases negative with
      | true =>
        have hrun : rialToToman (some text) =
            .error (valueError "قیمت باید یک عدد صحیح مثبت به ریال باشد.") := by
          rw [rialToToman, Option.getD_some, htext]
        constructor
        · intro _
          refine ⟨fun signals h => ?_, fun h => ?_, fun n hn => absurd ⟨n, hn⟩ hno⟩
          · cases htext.symm.trans h
          · cases htext.symm.trans h
        · intro _
          rw [ExactRial, hrun]
          exact ⟨rfl, hno⟩
      | false =>
        have hrun : rialToToman (some text) =
            .error ⟨.overflow, "cannot convert Infinity to integer"⟩ := by
          rw [rialToToman, Option.getD_some, htext]
        constructor
        · intro h
          rw [ExactRial, hrun] at h
          exact absurd h.1 (by simp)
        · exact fun h => absurd htext h.bounded
    | finite q =>
      constructor
      · intro h
        refine ⟨fun signals h' => ?_, fun h' => ?_, fun n hn => short_of_exact hn h⟩
        · cases htext.symm.trans h'
        · cases htext.symm.trans h'
      · intro h
        by_cases hn : ∃ n, DenotesRial text n
        · obtain ⟨n, hn⟩ := hn
          exact exact_of_short hn (h.short n hn).1 (h.short n hn).2
        · obtain ⟨e, hrun, he⟩ := rialToToman_of_finite htext hn
          rw [ExactRial, hrun]
          exact ⟨he, hn⟩

/-- "NaN" is answered with an exception that no caller expects. -/
theorem rial_nan : ¬ ∀ text, ExactRial text := by
  intro h
  have hrun : rialToToman (some "NaN") = .error invalidOperation := by decide +kernel
  have hexact := h "NaN"
  rw [ExactRial, hrun] at hexact
  exact absurd hexact.1 (by decide)

end Rial

end ResellerBot
