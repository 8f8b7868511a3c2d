import ResellerBot.Handlers.Settings
import ResellerBot.Database.Run
import ResellerBot.Machine

/-!
# ResellerBot.Handlers.Readable — what is set can be read

The readers of `RuntimeSettingsService` in a world that serves a table of settings, and which of the
texts that the owners may enter they give back.
-/

open Interact

namespace ResellerBot

/-! ## Readers -/

/-- The settings that `RuntimeSettingsService` reads for the scheduler and for trials. -/
inductive Reading
  | graceHours | timeThresholds | trafficThresholds | trialTrafficGb | trialDurationHours
  | customerPanelUrl
  deriving DecidableEq, Repr

namespace Reading

def key : Reading → String
  | graceHours => "user_delete_grace_hours"
  | timeThresholds => "time_warning_thresholds"
  | trafficThresholds => "traffic_warning_thresholds"
  | trialTrafficGb => "trial_traffic_gb"
  | trialDurationHours => "trial_duration_hours"
  | customerPanelUrl => "customer_panel_url"

abbrev Value : Reading → Type
  | graceHours | trialTrafficGb | trialDurationHours => ℤ
  | timeThresholds | trafficThresholds => List ℤ
  | customerPanelUrl => Option String

def read (cfg : Settings) : (k : Reading) → Bot k.Value
  | graceHours => RuntimeSettings.graceHours cfg
  | timeThresholds => RuntimeSettings.timeThresholds cfg
  | trafficThresholds => RuntimeSettings.trafficThresholds cfg
  | trialTrafficGb => RuntimeSettings.trialTrafficGb cfg
  | trialDurationHours => RuntimeSettings.trialDurationHours cfg
  | customerPanelUrl => RuntimeSettings.customerPanelUrl

/-- The value that a text denotes: a number, a set of numbers with the largest first, a link. -/
def denoted : (k : Reading) → String → Except Err k.Value
  | graceHours, text | trialTrafficGb, text | trialDurationHours, text => parseInt text
  | timeThresholds, text | trafficThresholds, text =>
    (parseInts text).map fun ns => ns.dedup.insertionSort (· ≥ ·)
  | customerPanelUrl, text => .ok (some (stripped text))

/-- The texts that the reader gives back. -/
def InRange : Reading → String → Prop
  | graceHours, text => ∃ n, parseInt text = .ok n ∧ 1 ≤ n ∧ n ≤ 720
  | timeThresholds, text => ∃ ns, parseInts text = .ok ns ∧ ns ≠ [] ∧ ∀ n ∈ ns, 0 < n
  | trafficThresholds, text =>
    ∃ ns, parseInts text = .ok ns ∧ ns ≠ [] ∧ ∀ n ∈ ns, 0 < n ∧ n ≤ 100
  | _, _ => True

/-- What the reader makes of a stored value. -/
def parse : (k : Reading) → SettingValue → Except Err k.Value
  | graceHours, v => do
    let n ← v.toInt
    if 1 ≤ n ∧ n ≤ 24 * 30 then .ok n
    else .error (valueError "user_delete_grace_hours must be between 1 and 720")
  | timeThresholds, v => RuntimeSettings.thresholds v
  | trafficThresholds, v => do
    let values ← RuntimeSettings.thresholds v
    if values.any (100 < ·) then .error (valueError "traffic thresholds cannot exceed 100")
    else .ok values
  | trialTrafficGb, v => do
    let n ← v.toInt
    if 0 < n then .ok n else .error (valueError "trial_traffic_gb must be positive")
  | trialDurationHours, v => do
    let n ← v.toInt
    if 0 < n then .ok n else .error (valueError "trial_duration_hours must be positive")
  | customerPanelUrl, v =>
    let url := stripped v.str
    if url = "" then .ok none
    else if startsWith url "http://" ∨ startsWith url "https://" then .ok (some url)
    else .error (valueError "customer_panel_url must use http:// or https://")

end Reading

/-! ## A world with a table of settings -/

section Serves

variable {Γ : Type}

/-- The world answers what the table says, and writes what the session has to write. -/
structure Serves (react : (e : Ev) → Γ → Resp e × Γ) (rows : List (String × SettingValue)) :
    Prop where
  told : ∀ key γ, (react (.query (.setting key)) γ).1 = .ok (lookupSetting rows key)
  written : ∀ sts γ, (react (.flush sts) γ).1 = .ok ()

/-- In every world with that table, and from every session that works, the program returns. -/
def Reads {α : Type} (rows : List (String × SettingValue)) (m : Bot α) (a : α) : Prop :=
  ∀ (Γ : Type) (react : (e : Ev) → Γ → Resp e × Γ), Serves react rows →
    ∀ s γ, s.broken = false → (Act.run react s γ m).1.1 = .ok a

variable {react : (e : Ev) → Γ → Resp e × Γ} {rows : List (String × SettingValue)} {s : Session}
  {γ : Γ} {key : String}

theorem Serves.run_flush (h : Serves react rows) (hs : s.broken = false) :
    ∃ γ', Act.run react s γ ResellerBot.flush = ((.ok (), s.flushed), γ') := by
  by_cases hu : s.unflushed = []
  · exact ⟨γ, run_flush_nil react s γ hs hu⟩
  · refine ⟨(react (.flush s.unflushed) γ).2, ?_⟩
    have hf := h.written s.unflushed γ
    simp [ResellerBot.flush, ask, Act.run_bind, hs, hu, hf]

theorem Serves.run_setting (key : String) (h : Serves react rows) (hs : s.broken = false) :
    ∃ s' γ', Act.run react s γ (query (.setting key)) =
      ((.ok (lookupSetting rows key), s'), γ') := by
  obtain ⟨γ₁, hf⟩ := h.run_flush (γ := γ) hs
  refine ⟨s.flushed, (react (.query (.setting key)) γ₁).2, ?_⟩
  rw [query, Act.run_bind_ok _ _ _ _ hf]
  refine (run_ask_bind react s.flushed γ₁ (.query (.setting key)) Act.outcome).trans ?_
  rw [h.told]
  exact Act.run_outcome ..

theorem Serves.run_value (key : String) {v : SettingValue} (h : Serves react rows)
    (hs : s.broken = false) (hv : lookupSetting rows key = some v) :
    ∃ s' γ', ∀ default, Act.run react s γ (RuntimeSettings.value key default) =
      ((.ok v, s'), γ') := by
  obtain ⟨s', γ', hq⟩ := h.run_setting (γ := γ) key hs
  rw [hv] at hq
  refine ⟨s', γ', fun default => ?_⟩
  rw [RuntimeSettings.value, Act.run_bind_ok _ _ _ _ hq]
  rfl

/-- A number that is checked. -/
theorem run_checked {x : Except Err ℤ} {p : ℤ → Prop} [DecidablePred p] {e : Err} :
    (Act.run react s γ (do
      let n ← Act.outcome x
      if p n then pure n else Act.raise e : Bot ℤ)).1.1 =
      (do
        let n ← x
        if p n then .ok n else .error e) := by
  cases x with
  | error e => rfl
  | ok n =>
    rw [Act.run_bind_ok _ _ _ _ (Act.run_outcome ..)]
    show (Act.run react s γ (if p n then pure n else Act.raise e : Bot ℤ)).1.1 =
      if p n then .ok n else .error e
    by_cases hp : p n
    · rw [if_pos hp, if_pos hp]
      rfl
    · rw [if_neg hp, if_neg hp]
      rfl

/-- A link that is checked. -/
theorem run_link {url : String} {e : Err} :
    (Act.run react s γ (if url = "" then pure none
      else if "http://".toList.isPrefixOf url.toList ∨ "https://".toList.isPrefixOf url.toList then
        pure (some url)
      else Act.raise e : Bot (Option String))).1.1 =
      if url = "" then .ok none
      else if startsWith url "http://" ∨ startsWith url "https://" then .ok (some url)
      else .error e := by
  by_cases he : url = ""
  · rw [if_pos he, if_pos he]
    rfl
  · rw [if_neg he, if_neg he]
    unfold startsWith
    split_ifs <;> rfl

/-- **A reader of a stored value returns what it makes of the value.** -/
theorem Serves.run_read {cfg : Settings} {k : Reading} {v : SettingValue} (h : Serves react rows)
    (hs : s.broken = false) (hv : lookupSetting rows k.key = some v) :
    (Act.run react s γ (k.read cfg)).1.1 = k.parse v := by
  cases k with
  | graceHours =>
    obtain ⟨s', γ', hvalue⟩ := h.run_value (γ := γ) "user_delete_grace_hours" hs hv
    show (Act.run react s γ (RuntimeSettings.graceHours cfg)).1.1 = _
    rw [RuntimeSettings.graceHours, Act.run_bind_ok _ _ _ _ (hvalue _)]
    exact run_checked
  | timeThresholds =>
    obtain ⟨s', γ', hvalue⟩ := h.run_value (γ := γ) "time_warning_thresholds" hs hv
    show (Act.run react s γ (RuntimeSettings.timeThresholds cfg)).1.1 = _
    rw [RuntimeSettings.timeThresholds, Act.run_bind_ok _ _ _ _ (hvalue _), Act.run_outcome]
    rfl
  | trafficThresholds =>
    obtain ⟨s', γ', hvalue⟩ := h.run_value (γ := γ) "traffic_warning_thresholds" hs hv
    show (Act.run react s γ (RuntimeSettings.trafficThresholds cfg)).1.1 = _
    rw [RuntimeSettings.trafficThresholds, Act.run_bind_ok _ _ _ _ (hvalue _)]
    show _ = (RuntimeSettings.thresholds v >>= fun values => _)
    cases RuntimeSettings.thresholds v with
    | error e => rfl
    | ok values =>
      show (Act.run react s' γ' (if _ then _ else _ : Bot (List ℤ))).1.1 = if _ then _ else _
      by_cases hany : values.any (100 < ·) = true
      · rw [if_pos hany, if_pos hany]
        rfl
      · rw [if_neg hany, if_neg hany]
        rfl
  | trialTrafficGb =>
    obtain ⟨s', γ', hvalue⟩ := h.run_value (γ := γ) "trial_traffic_gb" hs hv
    show (Act.run react s γ (RuntimeSettings.positive "trial_traffic_gb" _)).1.1 = _
    rw [RuntimeSettings.positive, Act.run_bind_ok _ _ _ _ (hvalue _)]
    exact run_checked
  | trialDurationHours =>
    obtain ⟨s', γ', hvalue⟩ := h.run_value (γ := γ) "trial_duration_hours" hs hv
    show (Act.run react s γ (RuntimeSettings.positive "trial_duration_hours" _)).1.1 = _
    rw [RuntimeSettings.positive, Act.run_bind_ok _ _ _ _ (hvalue _)]
    exact run_checked
  | customerPanelUrl =>
    obtain ⟨s', γ', hq⟩ := h.run_setting (γ := γ) "customer_panel_url" hs
    have hv : lookupSetting rows "customer_panel_url" = some v := hv
    rw [hv] at hq
    show (Act.run react s γ RuntimeSettings.customerPanelUrl).1.1 = _
    rw [RuntimeSettings.customerPanelUrl, Act.run_bind_ok _ _ _ _ hq]
    exact run_link

end Serves

/-! ## The reading of a stored value -/

section Reading

variable {rows : List (String × SettingValue)} {cfg : Settings} {k : Reading} {v : SettingValue}

/-- A world that answers nothing but settings. -/
def serve (rows : List (String × SettingValue)) (e : Ev) (_ : Unit) : Resp e × Unit :=
  (match e with
    | .query (.setting key) => .ok (lookupSetting rows key)
    | .flush _ => .ok ()
    | .query _ | .execute _ | .commit | .call _ _ | .send _ | .chatMember _ _ | .transaction _ =>
      .error ⟨.operational, "no such table"⟩
    | .now => 0
    | .randbelow _ => 0
    | .token _ => ""
    | .rollback | .lock _ | .unlock _ | .createTask => (), ())

theorem serves_serve : Serves (serve rows) rows where
  told _ _ := rfl
  written _ _ := rfl

theorem reads_iff {a : k.Value} (hv : lookupSetting rows k.key = some v) :
    Reads rows (k.read cfg) a ↔ k.parse v = .ok a := by
  constructor
  · intro h
    have hserve : (Act.run (serve rows) Session.empty () (k.read cfg)).1.1 = k.parse v :=
      serves_serve.run_read rfl hv
    rw [← hserve]
    exact h Unit (serve rows) serves_serve Session.empty () rfl
  · intro h Γ react hreact s γ hs
    rw [hreact.run_read hs hv, h]

end Reading

end ResellerBot
