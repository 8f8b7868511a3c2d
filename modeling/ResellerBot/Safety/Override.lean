import Mathlib
import ResellerBot.Safety.DryRun
import ResellerBot.Locking.Refusal

/-!
# ResellerBot.Safety.Override — dry-run by an override in the database
-/

open Interact

namespace ResellerBot

variable {cfg : Settings} {batchSize : ℕ}

/-- Every session reads a mode that is `dry_run`. -/
def DryWorld (cfg : Settings) (w : World) : Prop := ∀ i, DryMode cfg (w.tables i)

/-- The switches that the task asks before it changes anything in Rebecca cover the mode. -/
def Task.HeedsMode (cfg : Settings) (batchSize : ℕ) : Task → Prop
  | .run => cfg.dryRun ∨ batchSize = 0
  | .resellerDisable userId _ | .resellerEnable userId _ =>
    userId ∈ cfg.ownerIds → cfg.dryRun ∨ ¬cfg.allowDisableActions
  | .userDeleteConfirm userId _ _ =>
    userId ∈ cfg.ownerIds → cfg.dryRun ∨ ¬cfg.destructiveActions ∨ ¬cfg.allowDeleteActions
  | _ => True

/-! ## Tasks that heed the mode -/

/-- Nothing is asked of a task that does not heed the mode. -/
def heeding (cfg : Settings) (batchSize : ℕ) (t : Task) : Spec Ev Resp Unit where
  pre _ e := t.HeedsMode cfg batchSize → leavesRebecca e
  next := (quiet cfg).next

theorem quiet_prog (t : Task) (h : t.HeedsMode cfg batchSize) :
    Ok (quiet cfg) (t.prog cfg batchSize) (fun _ _ => True) () := by
  cases t with
  | run => exact Calm.launch (Quiet.run h) _
  | reconcilePaidOrders => exact Calm.launch Quiet.reconcilePaidOrders _
  | runTrial => exact Calm.launch (Quiet.runTrial _ _) _
  | start => exact Calm.launch (Quiet.start _ _) _
  | receipt => exact Calm.launch (Quiet.receipt _ _ _) _
  | cardApprove => exact Calm.launch (Quiet.ifOwner fun _ => Quiet.approve _ _) _
  | cardReject => exact Calm.launch (Quiet.cardReject _ _) _
  | orderApprove => exact Calm.launch (Quiet.ifOwner fun _ => Quiet.approve _ _) _
  | orderReject => exact Calm.launch (Quiet.orderReject _ _) _
  | orderRetry => exact Calm.launch (Quiet.orderRetry _ _) _
  | callback => exact Calm.launch (Quiet.callback _) _
  | resellerDisable => exact Calm.launch (Quiet.resellerDisable _ h) _
  | resellerEnable => exact Calm.launch (Quiet.resellerEnable _ h) _
  | resellerStateDisable => exact Calm.launch (Quiet.resellerStateDisable _ _) _
  | resellerStateEnable => exact Calm.launch (Quiet.resellerStateEnable _ _) _
  | resellerHold => exact Calm.launch (Quiet.resellerHold _ _) _
  | userDeleteConfirm => exact Calm.launch (Quiet.userDeleteConfirm _ _ h) _

theorem heeding_prog (t : Task) :
    Ok (heeding cfg batchSize t) (t.prog cfg batchSize) (fun _ _ => True) () := by
  by_cases h : t.HeedsMode cfg batchSize
  · exact (quiet_prog t h).weaken (fun _ _ hp _ => hp) fun _ _ _ _ hn => hn
  · exact Ok.of_free (fun _ _ ht => absurd ht h) _ _

/-- An answer of a world in dry-run mode. -/
theorem consistent_of_react {i : ℕ} {e : Ev} {ch : Choice} {w w' : World} {r : Resp e}
    (hw : DryWorld cfg w) (h : react i e ch w = some (r, w')) : Consistent cfg e r := by
  cases e with
  | query q =>
    cases r with
    | error _ => exact trivial
    | ok a =>
      refine ⟨w.tables i, hw i, ?_⟩
      cases ch with
      | done =>
        obtain ⟨ha, -⟩ := by simpa [react, World.query] using h
        exact ha
      | fail e => simp [react, World.query] at h
      | _ => cases h
  | _ => exact trivial

/-- In a run whose worlds are all in dry-run mode, a task that heeds the mode leaves Rebecca as it
is. -/
theorem heeds_of_reach {w : World} {c : BotConfig}
    (h : (bot cfg batchSize).Reach (fun c _ => DryWorld cfg c.world) ⟨w, fun _ => none⟩ c)
    {i : ℕ} {t : Task} {why : Cause} {call : Call} (ha : c.Asks i t (.call why call))
    (ht : t.HeedsMode cfg batchSize) : call.mutating = false := by
  obtain ⟨vs, hvs, -⟩ := h.invariant (heeding cfg batchSize) (fun _ => True) () (fun _ _ => True)
    heeding_prog ⟨_, .idle, trivial⟩ (fun _ _ _ _ _ _ _ _ => trivial) (fun _ _ _ _ _ _ _ => trivial)
    (fun _ _ _ _ _ _ _ _ _ _ _ _ _ _ hm hr => ⟨(), consistent_of_react hm hr, trivial⟩)
    (fun _ _ _ _ _ => trivial) (fun _ _ _ _ => trivial)
  obtain ⟨k, hk⟩ := ha
  obtain ⟨v, -, hpre, -⟩ := hvs.ask hk
  exact hpre ht

/-! ## The mode is not changed by the tasks -/

theorem exec_settings {T T' : Tables} {st : Stmt} {n : ℕ} (h : st.exec T = .ok (T', n)) :
    T'.settings = T.settings := by
  cases st with
  | insertAudit | claimOrder | deleteExpiredLock | deleteLock | markDisabledByParent =>
    cases h
    rfl
  | _ =>
    simp only [Stmt.exec] at h
    split_ifs at h
    all_goals cases h
    all_goals rfl

theorem execAll_settings {T T' : Tables} {sts : List Stmt} (h : Stmt.execAll T sts = .ok T') :
    T'.settings = T.settings := by
  induction sts generalizing T with
  | nil =>
    obtain rfl : T = T' := by simpa [Stmt.execAll] using h
    rfl
  | cons st sts ih =>
    rw [Stmt.execAll] at h
    cases hst : st.exec T with
    | error e => rw [hst] at h; cases h
    | ok r =>
      rw [hst] at h
      exact (ih h).trans (exec_settings hst)

/-- The overrides in the database are `settings` for every session. -/
def Overrides (settings : List (String × SettingValue)) (w : World) : Prop :=
  w.store.All fun T => T.settings = settings

theorem Overrides.dry {settings : List (String × SettingValue)} {w : World}
    (h : Overrides settings w)
    (hm : ∀ T : Tables, T.settings = settings → DryMode cfg T) : DryWorld cfg w :=
  fun i => hm _ (Store.All.visible h i)

theorem Overrides.react {settings : List (String × SettingValue)} {i : ℕ} {e : Ev} {ch : Choice}
    {w w' : World} {r : Resp e} (hw : Overrides settings w)
    (h : react i e ch w = some (r, w')) : Overrides settings w' := by
  have hv : (w.tables i).settings = settings := Store.All.visible hw i
  unfold Overrides
  rcases react_store h with hs | hs | hs | ⟨T, -, hs, ⟨sts, -, hT⟩ | ⟨st, n, -, hT⟩⟩
  all_goals rw [hs]
  · exact hw
  · exact Store.All.commit hw
  · exact Store.All.rollback hw
  · exact Store.All.put hw ((execAll_settings hT).trans hv)
  · exact Store.All.put hw ((exec_settings hT).trans hv)

/-- A move of the bot itself. -/
def ownMove : BotMove → Bool
  | .env _ => false
  | _ => true

theorem Overrides.step {settings : List (String × SettingValue)} {c c' : BotConfig} {m : BotMove}
    (hc : Overrides settings c.world) (hm : ownMove m = true)
    (hs : (bot cfg batchSize).step c m = some c') : Overrides settings c'.world := by
  cases m with
  | spawn i t =>
    simp only [System.step] at hs
    split at hs
    · cases hs; exact hc
    · cases hs
  | run i ch =>
    simp only [System.step] at hs
    split at hs
    · split at hs
      · next hr => cases hs; exact hc.react hr
      · cases hs
    · cases hs
  | env γ => cases hm
  | crash =>
    simp only [System.step, Option.some.injEq] at hs
    exact hs ▸ Store.All.recover hc

/-- A run of the bot from a world whose overrides put it in dry-run mode. -/
theorem dry_reach {settings : List (String × SettingValue)} {w : World} {c : BotConfig}
    {ms : List BotMove} (hw : Overrides settings w)
    (hm : ∀ T : Tables, T.settings = settings → DryMode cfg T) (hms : ms.all ownMove = true)
    (hr : (bot cfg batchSize).runs ⟨w, fun _ => none⟩ ms = some c) :
    (bot cfg batchSize).Reach (fun c _ => DryWorld cfg c.world) ⟨w, fun _ => none⟩ c := by
  have h : (bot cfg batchSize).Reach (fun _ m => ownMove m = true) ⟨w, fun _ => none⟩ c :=
    .of_runs hr fun m hmem _ => List.all_eq_true.mp hms m hmem
  refine (h.keep (I := fun c => Overrides settings c.world) hw ?_).2.mono fun c m hc => ?_
  · exact fun c m c' hc hm hs => hc.step hm hs
  · exact hc.2.dry hm

/-! ## Tasks that do not -/

/-- The task of thread `0` if it is about to change something in Rebecca. -/
def mutator (c : BotConfig) : Option Task :=
  match c.threads 0 with
  | some (t, .ask (.call _ call) _) => if call.mutating then some t else none
  | _ => none

theorem asks_of_mutator {c : BotConfig} {t : Task} (h : mutator c = some t) :
    ∃ why call, c.Asks 0 t (.call why call) ∧ call.mutating = true := by
  unfold mutator at h
  split at h
  · next u why call k hc =>
    split_ifs at h with hm
    cases h
    exact ⟨why, call, ⟨k, hc⟩, hm⟩
  · cases h

def shopAdmin : Admin := ⟨"shop", "reseller", "active", none, none, 0, [], none⟩

def shopReseller (id : ℕ) (status : ResellerStatus) : Reseller :=
  { newReseller 5 none with id := id, rebeccaAdminUsername := some "shop", status := status }

def childUser (username owner : String) : User where
  username := username
  adminUsername := some owner
  status := "disabled"
  expire := none
  dataLimit := none
  dataLimitUnlimited := true
  usedTraffic := 0

/-- A child that was disabled with its parent. -/
def childRow : ResellerUserCache :=
  { newUser (shopReseller 1 .ACTIVE) (childUser "child" "shop") with
    id := 1
    disabledByParentReseller := true }

def dryOverride : List (String × SettingValue) :=
  [("operations_mode", .text "dry_run"), ("time_warning_thresholds", .list [.int 1]),
    ("traffic_warning_thresholds", .list [.int 1])]

/-- One reseller with one child, and the override. -/
def overridden (reseller : Reseller) : World where
  store := ⟨{ emptyTables with
    resellers := [reseller]
    users := [childRow]
    settings := dryOverride }, none⟩
  mutex := fun _ => false
  clock := 10
  server := ⟨fun u => if u = "shop" then some shopAdmin else none, fun _ => none⟩

theorem overrides_overridden (reseller : Reseller) : Overrides dryOverride (overridden reseller) :=
  ⟨rfl, fun _ _ h => nomatch h⟩

theorem dryMode_override {T : Tables} (h : T.settings = dryOverride) : DryMode cfg T := by
  unfold DryMode
  rw [show Query.run T (.setting "operations_mode") = some (.text "dry_run") by
    simp [Query.run, h, dryOverride]]

/-- The scheduler re-enables a child under the flag alone. -/
theorem run_breaches (n : ℕ) (h : cfg.dryRun = false) :
    (((bot cfg (n + 1)).runs ⟨overridden (shopReseller 1 .ACTIVE), fun _ => none⟩
      (.spawn 0 .run :: List.replicate 10 (.run 0 .done) ++
        [.run 0 (.user (some (childUser "child" "shop")))])).bind mutator) = some .run := by
  obtain ⟨_, _, _, dryRun, _, _, _, _, _, _, _, _, _, _, _⟩ := cfg
  obtain rfl : dryRun = false := h
  cbv

section Owner

variable {userId : ℤ} (ho : userId ∈ cfg.ownerIds) (hd : cfg.dryRun = false)
include ho hd

/-- `/reseller_disable` heeds the two flags alone. -/
theorem resellerDisable_breaches (id : ℕ) (ha : cfg.allowDisableActions = true) :
    (((bot cfg batchSize).runs ⟨overridden (shopReseller id .ACTIVE), fun _ => none⟩
      [.spawn 0 (.resellerDisable userId id), .run 0 .done]).bind mutator) =
    some (.resellerDisable userId id) := by
  have hp : (bot cfg batchSize).prog (.resellerDisable userId id) = launch (do
      let done ← inTransaction (resellerDisableTransaction cfg userId id)
      Act.when done (sendMessage userId)) := by
    simp [bot, Task.prog, resellerDisable, ownerCommand, Act.when, ho]
  simp only [System.runs, System.step, hp]
  obtain ⟨_, _, _, _, _, _, _, _, _, _, _, _, _, _, _⟩ := cfg
  obtain rfl := hd
  obtain rfl := ha
  cbv

theorem resellerEnable_breaches (id : ℕ) (ha : cfg.allowDisableActions = true) :
    (((bot cfg batchSize).runs ⟨overridden (shopReseller id .SUSPENDED), fun _ => none⟩
      [.spawn 0 (.resellerEnable userId id), .run 0 .done]).bind mutator) =
    some (.resellerEnable userId id) := by
  have hp : (bot cfg batchSize).prog (.resellerEnable userId id) = launch (do
      let done ← inTransaction (resellerEnableTransaction cfg userId id)
      Act.when done (sendMessage userId)) := by
    simp [bot, Task.prog, resellerEnable, ownerCommand, Act.when, ho]
  simp only [System.runs, System.step, hp]
  obtain ⟨_, _, _, _, _, _, _, _, _, _, _, _, _, _, _⟩ := cfg
  obtain rfl := hd
  obtain rfl := ha
  cbv

theorem userDeleteConfirm_breaches (owner username : String)
    (hx : cfg.destructiveActions = true) (ha : cfg.allowDeleteActions = true) :
    (((bot cfg batchSize).runs ⟨overridden (shopReseller 1 .ACTIVE), fun _ => none⟩
      [.spawn 0 (.userDeleteConfirm userId owner username),
        .run 0 (.user (some (childUser username owner)))]).bind mutator) =
    some (.userDeleteConfirm userId owner username) := by
  have hp : (bot cfg batchSize).prog (.userDeleteConfirm userId owner username) =
      launch (ifOwner cfg userId (deleteConfirmed cfg userId owner username)) := rfl
  simp only [System.runs, System.step, hp, ifOwner, if_pos ho]
  obtain ⟨_, _, _, _, _, _, _, _, _, _, _, _, _, _, _⟩ := cfg
  obtain rfl := hd
  obtain rfl := hx
  obtain rfl := ha
  cbv

end Owner

/-- A run of the override that ends before a mutating call is a breach. -/
theorem breach {reseller : Reseller} {ms : List BotMove} {t : Task} (hms : ms.all ownMove = true)
    (h : ((bot cfg batchSize).runs ⟨overridden reseller, fun _ => none⟩ ms).bind mutator = some t) :
    ∃ c why call, (bot cfg batchSize).Reach (fun c _ => DryWorld cfg c.world)
      ⟨overridden reseller, fun _ => none⟩ c ∧ c.Asks 0 t (.call why call) ∧
        call.mutating = true := by
  obtain ⟨c, hr, hc⟩ := Option.bind_eq_some_iff.mp h
  obtain ⟨why, call, ha, hm⟩ := asks_of_mutator hc
  have hd := dry_reach (overrides_overridden reseller) (fun _ hT => dryMode_override hT) hms hr
  exact ⟨c, why, call, hd, ha, hm⟩

/-- A task that does not heed the mode breaches an override. -/
theorem breach_of_not_heeds {t : Task} (h : ¬t.HeedsMode cfg batchSize) :
    ∃ w c why call, (bot cfg batchSize).Reach (fun c _ => DryWorld cfg c.world)
      ⟨w, fun _ => none⟩ c ∧ c.Asks 0 t (.call why call) ∧ call.mutating = true := by
  cases t with
  | run =>
    obtain ⟨hd, hb⟩ := not_or.mp h
    obtain ⟨n, rfl⟩ := Nat.exists_eq_succ_of_ne_zero hb
    exact ⟨_, breach rfl (run_breaches n (Bool.eq_false_iff.mpr hd))⟩
  | resellerDisable userId id =>
    obtain ⟨ho, hs⟩ := not_forall.mp h
    obtain ⟨hd, ha⟩ := not_or.mp hs
    exact ⟨_, breach rfl (resellerDisable_breaches ho (Bool.eq_false_iff.mpr hd) id (not_not.mp ha))⟩
  | resellerEnable userId id =>
    obtain ⟨ho, hs⟩ := not_forall.mp h
    obtain ⟨hd, ha⟩ := not_or.mp hs
    exact ⟨_, breach rfl (resellerEnable_breaches ho (Bool.eq_false_iff.mpr hd) id (not_not.mp ha))⟩
  | userDeleteConfirm userId owner username =>
    obtain ⟨ho, hs⟩ := not_forall.mp h
    obtain ⟨hd, hxa⟩ := not_or.mp hs
    obtain ⟨hx, ha⟩ := not_or.mp hxa
    exact ⟨_, breach rfl (userDeleteConfirm_breaches ho (Bool.eq_false_iff.mpr hd) owner username
      (not_not.mp hx) (not_not.mp ha))⟩
  | _ => exact absurd trivial h

/-- **Dry-run is total for a task exactly if its switches cover the mode.**  In every run of the
bot, from whatever the database and Rebecca hold, whose worlds are all in dry-run mode, the task
makes no mutating call, if and only if the switches it asks are off whenever the mode is. -/
theorem dry_run_total_iff (cfg : Settings) (batchSize : ℕ) (t : Task) :
    (∀ w c, (bot cfg batchSize).Reach (fun c _ => DryWorld cfg c.world) ⟨w, fun _ => none⟩ c →
      ∀ i why call, c.Asks i t (.call why call) → call.mutating = false) ↔
    t.HeedsMode cfg batchSize := by
  constructor
  · intro h
    by_contra hn
    obtain ⟨w, c, why, call, hr, ha, hm⟩ := breach_of_not_heeds hn
    exact absurd (h w c hr 0 why call ha) (by rw [hm]; decide)
  · intro ht w c hr i why call ha
    exact heeds_of_reach hr ha ht

/-- The flags of a bot that is live, but for the override. -/
def liveSettings : Settings where
  botToken := "token"
  ownerIds := [7]
  rebeccaBearerToken := "bearer"
  dryRun := false
  destructiveActions := false
  allowDisableActions := false
  allowDeleteActions := false
  userDeleteGraceHours := 72
  trialDurationHours := 24
  trialTrafficGb := 10
  timeWarningThresholds := [7, 3, 1]
  trafficWarningThresholds := [20, 10, 5]
  plisioEnabled := false
  plisioSecretKey := ""
  plisioSourceCurrency := "USD"

/-- In dry-run mode the scheduler enables the child of a reseller in Rebecca. -/
theorem dry_run_not_total :
    ∃ c why call, (bot liveSettings 50).Reach (fun c _ => DryWorld liveSettings c.world)
      ⟨overridden (shopReseller 1 .ACTIVE), fun _ => none⟩ c ∧
      c.Asks 0 .run (.call why call) ∧ call.mutating = true :=
  breach rfl (run_breaches 49 rfl)

end ResellerBot
