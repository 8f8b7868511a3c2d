import ResellerBot.Reseller.Renewals
import ResellerBot.Payments.Service
import ResellerBot.Scheduler.Orders
import ResellerBot.Scheduler.Sync
import ResellerBot.Shop.Rows
import ResellerBot.Machine

/-!
# ResellerBot.Reseller.Overflow — targets against the range of dates and columns

When the target of a provisioning or a renewal can be computed, and when its quota can be stored by
the synchronization that later finds it in Rebecca.
-/

namespace ResellerBot

/-! ## Columns -/

/-- A `BigInteger` column. -/
def InColumn (n : ℤ) : Prop := -2 ^ 63 ≤ n ∧ n ≤ 2 ^ 63 - 1

theorem inColumn_zero : InColumn 0 := ⟨by decide, by decide⟩

/-- The columns that the synchronization copies from Rebecca. -/
def Storable (r : Reseller) : Prop :=
  InColumn r.lastKnownDataLimit ∧ InColumn r.lastKnownUsage ∧ InColumn r.lastKnownRemaining

/-- There is a target, and its quota can be stored with any usage that can be. -/
def TargetFits (row : Reseller) (target : Except Err Snapshot) : Prop :=
  ∃ s, target = .ok s ∧ ∀ live now, live.dataLimit = s.dataLimit → 0 ≤ live.usedTraffic →
    InColumn live.usedTraffic → Storable (observed live now row)

/-- A product with values that the console has accepted. -/
def Accepted (isalnum : Char → Bool) (p : Product) : Prop :=
  (∃ text, parseProduct isalnum .trafficGb text = .ok p.trafficGb) ∧
    ∃ text, parseProduct isalnum .durationDays text = .ok p.durationDays

section Targets

variable {isalnum : Char → Bool} {row : Reseller} {p : Product} {now : Datetime}

theorem Accepted.traffic (h : Accepted isalnum p) : 0 < p.trafficGb := by
  obtain ⟨⟨text, htext⟩, -⟩ := h
  exact positiveNumber_ok htext

theorem Accepted.duration (h : Accepted isalnum p) : 0 < p.durationDays := by
  obtain ⟨-, text, htext⟩ := h
  exact positiveNumber_ok htext

/-- The largest usage leaves the smallest remainder, which still fits. -/
theorem targetFits_iff {target : Except Err Snapshot} {l : ℤ} {fits : Prop}
    (hok : (∃ s, target = .ok s) ↔ fits) (hs : ∀ s', target = .ok s' → s'.dataLimit = some l)
    (hl : 0 ≤ l) : TargetFits row target ↔ fits ∧ l ≤ 2 ^ 63 - 1 := by
  rw [← hok]
  constructor
  · rintro ⟨s, htarget, hstored⟩
    obtain ⟨⟨-, hmax⟩, -⟩ :=
      hstored ⟨"", "", "", none, some l, 0, [], none⟩ 0 (hs s htarget).symm le_rfl inColumn_zero
    exact ⟨⟨s, htarget⟩, hmax⟩
  · rintro ⟨⟨s, htarget⟩, hmax⟩
    refine ⟨s, htarget, fun live now hlive hused hcol => ?_⟩
    have hlimit : live.dataLimit.getD 0 = l := by rw [hlive, hs s htarget, Option.getD_some]
    have hlower : -2 ^ 63 ≤ l := le_trans (by decide) hl
    refine ⟨?_, hcol, ?_⟩
    · show InColumn (live.dataLimit.getD 0)
      rw [hlimit]
      exact ⟨hlower, hmax⟩
    · show InColumn (live.dataLimit.getD 0 - live.usedTraffic)
      rw [hlimit]
      obtain ⟨-, hu⟩ := hcol
      constructor <;> omega

/-! ## A new admin -/

/-- The target of a provisioning. -/
def newTarget (username : String) (p : Product) (now : Datetime) : Except Err Snapshot := do
  let expire ← addDays now p.durationDays
  pure (provisioningTarget username expire p)

theorem gib_pos {n : ℤ} (h : 0 < n) : 0 < gib n := Int.mul_pos h (by decide)

theorem newTarget_fits_iff (username : String) (hp : Accepted isalnum p)
    (hnow : datetimeMin ≤ now) :
    TargetFits row (newTarget username p now) ↔
      now + p.durationDays * day ≤ datetimeMax ∧ gib p.trafficGb ≤ 2 ^ 63 - 1 := by
  refine targetFits_iff ?_ ?_ (gib_pos hp.traffic).le
  · constructor
    · rintro ⟨s, hs⟩
      obtain ⟨e, he, -⟩ := bind_eq_ok hs
      exact ((Terms.addDays_iff hnow hp.duration.le).mp he).1
    · intro hmax
      have he : addDays now p.durationDays = .ok (now + p.durationDays * day) :=
        (Terms.addDays_iff hnow hp.duration.le).mpr ⟨hmax, rfl⟩
      exact ⟨_, by rw [newTarget, he]; rfl⟩
  · intro s hs
    obtain ⟨e, -, hs⟩ := bind_eq_ok hs
    exact Except.ok.inj hs ▸ rfl

/-! ## Renewals -/

/-- A product that is applied at an instant, to an admin with this usage. -/
structure Extension where
  product : Product
  now : Datetime
  used : ℤ

namespace Extension

/-- What the scheduler can meet. -/
structure Possible (isalnum : Char → Bool) (r : Extension) : Prop where
  accepted : Accepted isalnum r.product
  instant : datetimeMin ≤ r.now
  used : 0 ≤ r.used

variable (live : Admin) (r : Extension)

def target : Except Err Snapshot :=
  targetSnapshot { live with usedTraffic := r.used } r.product r.now

/-- The admin once Rebecca has taken the target over; without a target nothing is changed. -/
def renewed : Admin :=
  match r.target live with
  | .ok s => { live with usedTraffic := r.used, dataLimit := s.dataLimit, expire := s.expire }
  | .error _ => live

/-- The days end before the year 10000, and what is left and what is bought fit a column, together
with what has been used. -/
def InRange : Prop :=
  max (live.expire.getD r.now) r.now + r.product.durationDays * day ≤ datetimeMax ∧
    r.used + max (quotaLeft r.used live.dataLimit) 0 + gib r.product.trafficGb ≤ 2 ^ 63 - 1

variable {live r}

theorem target_fits_iff (h : r.Possible isalnum) :
    TargetFits row (r.target live) ↔ r.InRange live := by
  have hdays := h.accepted.duration.le
  have hstart : datetimeMin ≤ max (live.expire.getD r.now) r.now :=
    h.instant.trans (le_max_right _ _)
  have hleft : 0 ≤ max (quotaLeft r.used live.dataLimit) 0 := le_max_right _ _
  have hbought := (gib_pos h.accepted.traffic).le
  have hused := h.used
  refine targetFits_iff ?_ ?_ (by omega)
  · constructor
    · rintro ⟨s, hs⟩
      obtain ⟨e, he, -⟩ := bind_eq_ok hs
      exact ((Terms.addDays_iff hstart hdays).mp he).1
    · intro hmax
      have he : renewalExpiry live.expire r.now r.product.durationDays = .ok _ :=
        (Terms.addDays_iff hstart hdays).mpr ⟨hmax, rfl⟩
      exact ⟨_, by rw [target, targetSnapshot, he]; rfl⟩
  · intro s hs
    obtain ⟨e, -, hs⟩ := bind_eq_ok hs
    rw [← Terms.renewalDataLimit_eq]
    exact Except.ok.inj hs ▸ rfl

end Extension

/-- **The targets of a new admin and of all its renewals can be computed and stored if and only if
their days and bytes stay in range.** -/
theorem targets_fit_iff (isalnum : Char → Bool) (row : Reseller) (username : String) (p : Product)
    (now : Datetime) (live : Admin) (rs : List Extension) (hp : Accepted isalnum p)
    (hnow : datetimeMin ≤ now) (hrs : ∀ r ∈ rs, r.Possible isalnum) :
    (TargetFits row (newTarget username p now) ↔
      now + p.durationDays * day ≤ datetimeMax ∧ gib p.trafficGb ≤ 2 ^ 63 - 1) ∧
    (Machine.Always Extension.renewed (fun live r => TargetFits row (r.target live)) live rs ↔
      Machine.Always Extension.renewed (fun live r => r.InRange live) live rs) :=
  ⟨newTarget_fits_iff username hp hnow,
    Machine.always_congr_of_mem fun r hr _ => Extension.target_fits_iff (hrs r hr)⟩

end Targets

/-! ## A very long plan -/

namespace LongPlan

def isalnum (_ : Char) : Bool := true

def row : Reseller where
  id := 1
  telegramId := 5
  telegramUsername := none
  rebeccaAdminUsername := some "shop"
  status := .ACTIVE
  productId := some 1
  expiresAt := none
  purchasedTrafficBytes := 0
  lastKnownDataLimit := 0
  lastKnownUsage := 0
  lastKnownRemaining := 0
  trial := false
  trialUsed := false
  suspendedReason := none
  lastSyncAt := none
  automationHold := false

/-- A million and a half days. -/
def plan : Product := ⟨1, "plan", [.int 7], 1500000, 10, none⟩

theorem accepted_plan : Accepted isalnum plan :=
  ⟨⟨"10", by decide +kernel⟩, "1500000", by decide +kernel⟩

def live : Admin := ⟨"shop", "reseller", "active", none, none, 0, [.int 7], none⟩

/-- At the beginning of 2026. -/
def renewal : Extension := ⟨plan, 1767225600 * second, 0⟩

theorem possible : ∀ r ∈ [renewal], r.Possible isalnum := by
  intro r hr
  obtain rfl := List.mem_singleton.mp hr
  exact ⟨accepted_plan, by decide, le_rfl⟩

/-- Bought once, the plan fits. -/
theorem plan_fits : TargetFits row (newTarget "shop" plan renewal.now) ∧
    Machine.Always Extension.renewed (fun live r => TargetFits row (r.target live)) live
      [renewal] := by
  have h := targets_fit_iff isalnum row "shop" plan renewal.now live [renewal] accepted_plan
    (by decide) possible
  exact ⟨h.1.mpr (by decide), h.2.mpr ⟨by unfold Extension.InRange; decide, trivial⟩⟩

/-- Bought again, it ends after the year 9999. -/
theorem renewed_plan_overflows : ¬ ∀ (isalnum : Char → Bool) (row : Reseller) (username : String)
    (p : Product) (now : Datetime) (live : Admin) (rs : List Extension), Accepted isalnum p →
    datetimeMin ≤ now → (∀ r ∈ rs, r.Possible isalnum) →
    TargetFits row (newTarget username p now) ∧
      Machine.Always Extension.renewed (fun live r => TargetFits row (r.target live)) live rs := by
  intro h
  have hrs : ∀ r ∈ [renewal, renewal], r.Possible isalnum := fun r hr =>
    possible r (by simpa using hr)
  obtain ⟨-, -, ⟨s, hs, -⟩, -⟩ :=
    h isalnum row "shop" plan renewal.now live [renewal, renewal] accepted_plan (by decide) hrs
  have herror : renewal.target (renewal.renewed live) = .error overflowError := by decide +kernel
  rw [herror] at hs
  cases hs

end LongPlan

end ResellerBot
