import ResellerBot.System
import ResellerBot.Database.Run
import ResellerBot.Safety.Calm

/-!
# ResellerBot.Safety.Quiet — code that leaves Rebecca as it is

`Quiet cfg m`: as long as the mode is `dry_run`, every request of `m` leaves Rebecca as it is.
Code that is quiet in itself needs nothing about the mode; code behind a test of the mode, or of
the flag `cfg.dryRun` of the environment, needs the outcome of that test.
-/

open Interact

namespace ResellerBot

/-- Calls that change something in Rebecca. -/
def Call.mutating : Call → Bool
  | .detectCapabilities | .getAdmin _ | .listAdminUsers _ | .getUser _ => false
  | _ => true

/-- `operations_mode` evaluates to `dry_run`. -/
def DryMode (cfg : Settings) (T : Tables) : Prop :=
  match Query.run T (.setting "operations_mode") with
  | none => cfg.dryRun = true
  | some v => v = .text "dry_run"

/-- `DryMode` is what `operations_mode` finds out. -/
theorem operationsMode_eq_dry_iff {Γ : Type} {react : (e : Ev) → Γ → Resp e × Γ} {s : Session}
    {γ : Γ} {T : Tables} {cfg : Settings} (hb : s.broken = false) (hu : s.unflushed = [])
    (hq : (react (.query (.setting "operations_mode")) γ).1 =
      .ok (Query.run T (.setting "operations_mode"))) :
    (Act.run react s γ (RuntimeSettings.operationsMode cfg)).1.1 = .ok "dry_run" ↔
      DryMode cfg T := by
  have hr := run_query_nil react s γ hb hu (.setting "operations_mode")
  rw [hq] at hr
  rw [RuntimeSettings.operationsMode, Act.run_bind_ok _ _ _ _ hr, DryMode]
  rcases Query.run T (.setting "operations_mode") with _ | (_ | _ | mode | _)
  · cases h : cfg.dryRun <;> simp
  · simp
  · simp
  · by_cases hm : mode = "dry_run"
    · simp [hm]
    · by_cases hl : mode = "live" <;> simp [hm, hl]
  · simp

/-- Queries are answered from tables in dry-run mode. -/
def Consistent (cfg : Settings) : (e : Ev) → Resp e → Prop
  | .query q, .ok a => ∃ T, DryMode cfg T ∧ q.run T = a
  | _, _ => True

def leavesRebecca : Ev → Prop
  | .call _ c => c.mutating = false
  | _ => True

/-- No mutating call while the mode is `dry_run`. -/
def quiet (cfg : Settings) : Spec Ev Resp Unit where
  pre _ e := leavesRebecca e
  next _ e r _ := Consistent cfg e r

instance (cfg : Settings) : CallSpec (quiet cfg) where
  free _ e h := by
    cases e with
    | call => cases h
    | _ => trivial

variable {cfg : Settings} {α : Type}

abbrev Quiet (cfg : Settings) (m : Bot α) : Prop := Act.Safe (quiet cfg) m

namespace Quiet

open Act (Safe SafeWith)

export Calm (ask flush query execute commit rollback add inSession inTransaction now epoch audit
  sendMessage read assign hold forget holdLoaded load getByKey acquire locked notify notifyOwners
  notifyOnce value positive graceHours timeThresholds trafficThresholds customerPanelUrl
  warnAboutEntitlement clearDeletion loadCached warnDue finishDeletion reconcilePlisio)

/-- What a query returns is what tables in dry-run mode hold. -/
theorem query_with (q : Query) :
    SafeWith (quiet cfg) (ResellerBot.query q) fun a => ∃ T, DryMode cfg T ∧ q.run T = a := by
  refine SafeWith.bindWith (Q := fun _ => True) flush fun _ _ => ?_
  refine Act.Holds.bind (Q := fun r _ _ => Consistent cfg (.query q) r) ?_ fun r => ?_
  · exact Act.Holds.request (fun _ _ _ => trivial) fun _ _ _ _ _ h => h
  · intro s v h
    cases r with
    | ok a => exact h
    | error e => exact trivial

theorem call (why : Cause) {c : Call} (h : c.mutating = false) : Quiet cfg (call why c) :=
  Calm.call why fun _ => h

theorem getAdmin (username : Option String) : Quiet cfg (getAdmin username) := call _ rfl

theorem listAdminUsers (username : Option String) : Quiet cfg (listAdminUsers username) := call _ rfl

/-- In dry-run mode the mode that the code reads is `dry_run`. -/
theorem operationsMode :
    SafeWith (quiet cfg) (RuntimeSettings.operationsMode cfg) (· = "dry_run") := by
  refine (query_with (.setting "operations_mode")).bindWith ?_
  rintro v ⟨T, hT, hv⟩
  unfold DryMode at hT
  rw [hv] at hT
  cases v with
  | none => exact SafeWith.pure (if_pos hT)
  | some v =>
    obtain rfl : v = .text "dry_run" := hT
    exact SafeWith.pure rfl

theorem isDryRun : SafeWith (quiet cfg) (RuntimeSettings.isDryRun cfg) (· = true) :=
  operationsMode.bindWith fun _ h => SafeWith.pure (decide_eq_true h)

end Quiet

end ResellerBot
