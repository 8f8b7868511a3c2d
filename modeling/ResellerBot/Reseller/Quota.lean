import ResellerBot.Python

/-!
# ResellerBot.Reseller.Quota — renewal arithmetic and exhaustion (`app/reseller/quota.py`)
-/

namespace ResellerBot

def renewalExpiry (current : Option Datetime) (now : Datetime) (days : ℤ) : Except Err Datetime :=
  addDays (max (current.getD now) now) days

def renewalDataLimit (limit : Option ℤ) (used purchased : ℤ) : ℤ :=
  match limit with
  | none => used + purchased
  | some l => if l ≤ 0 then used + purchased else if used < l then l + purchased else used + purchased

/-- Rebecca zero/null is unlimited, so an unknown limit is never exhausted. -/
def exhausted (expire : Option Datetime) (limit : Option ℤ) (used : ℤ) (now : Datetime) : Bool :=
  let timeExhausted := match expire with
    | some e => decide (e ≤ now)
    | none => false
  let trafficExhausted := match limit with
    | some l => decide (0 < l) && decide (l - used ≤ 0)
    | none => false
  timeExhausted || trafficExhausted

/-- `product.traffic_gb * 1024**3`. -/
def gib (n : ℤ) : ℤ := n * 1024 ^ 3

theorem renewalDataLimit_of_left {l used purchased : ℤ} (h0 : 0 < l) (h : used < l) :
    renewalDataLimit (some l) used purchased = l + purchased := by
  simp [renewalDataLimit, h, not_le.mpr h0]

theorem renewalExpiry_of_future {e now e' : Datetime} {days : ℤ} (h : now ≤ e)
    (hr : renewalExpiry (some e) now days = .ok e') : e' = e + days * day := by
  have := addDays_ok hr
  simpa [max_eq_left h] using this

/-- A renewal adds to what is there, also when the old quota was used up. -/
theorem le_renewalDataLimit {l used purchased : ℤ} (hp : 0 ≤ purchased) (hl : 0 < l) :
    l ≤ renewalDataLimit (some l) used purchased := by
  simp only [renewalDataLimit]
  split_ifs <;> omega

theorem le_renewalExpiry {e now e' : Datetime} {days : ℤ} (hd : 0 ≤ days)
    (hr : renewalExpiry (some e) now days = .ok e') : e ≤ e' := by
  have h1 : e' = max e now + days * day := addDays_ok hr
  have h2 : 0 ≤ days * day := Int.mul_nonneg hd (by decide)
  exact h1 ▸ Int.le_trans (Int.le_max_left e now) (Int.le_add_of_nonneg_right h2)

end ResellerBot
