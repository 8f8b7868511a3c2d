import ResellerBot.Database.Session

/-!
# ResellerBot.Database.Settings — configuration and its overrides in the database

`Settings` has the fields of `app/config.py` that the modelled code reads; the other functions are
`RuntimeSettingsService` (`app/database/settings.py`).
-/

open Interact

namespace ResellerBot

structure Settings where
  botToken : String
  ownerIds : List ℤ
  rebeccaBearerToken : String
  dryRun : Bool
  destructiveActions : Bool
  allowDisableActions : Bool
  allowDeleteActions : Bool
  userDeleteGraceHours : ℤ
  trialDurationHours : ℤ
  trialTrafficGb : ℤ
  timeWarningThresholds : List ℤ
  trafficWarningThresholds : List ℤ
  plisioEnabled : Bool
  plisioSecretKey : String
  plisioSourceCurrency : String

def ServiceId.toInt : ServiceId → Except Err ℤ
  | .int n => .ok n
  | .str s => parseInt s

/-- `int(value)`. -/
def SettingValue.toInt : SettingValue → Except Err ℤ
  | .bool b => .ok (if b then 1 else 0)
  | .int n => .ok n
  | .text s => parseInt s
  | .list _ => .error (typeError "int() argument must be a string or a number, not 'list'")

/-- `str(value)`. -/
def SettingValue.str : SettingValue → String
  | .bool b => if b then "True" else "False"
  | .int n => toString n
  | .text s => s
  | .list xs => toString (xs.map ServiceId.text)

/-- `bool(value)` -/
def SettingValue.truthy : SettingValue → Bool
  | .bool b => b
  | .int n => n ≠ 0
  | .text s => s ≠ ""
  | .list xs => xs ≠ []

/-! ## The table -/

def lookupSetting (rows : List (String × SettingValue)) (key : String) : Option SettingValue :=
  (rows.find? (·.1 = key)).map (·.2)

/-- `row.value = value`, or a new row. -/
def putSetting (rows : List (String × SettingValue)) (key : String) (value : SettingValue) :
    List (String × SettingValue) :=
  if rows.any (·.1 = key) then rows.map fun r => if r.1 = key then (key, value) else r
  else rows ++ [(key, value)]

theorem lookup_putSetting {rows : List (String × SettingValue)} {key : String}
    {value : SettingValue} : lookupSetting (putSetting rows key value) key = some value := by
  unfold putSetting lookupSetting
  by_cases h : rows.any (·.1 = key) = true
  · rw [if_pos h]
    induction rows with
    | nil => simp at h
    | cons r rows ih =>
      by_cases hr : r.1 = key
      · simp [hr]
      · have : rows.any (·.1 = key) = true := by simpa [hr] using h
        simpa [hr] using ih this
  · rw [if_neg h]
    have hnone : rows.find? (·.1 = key) = none := by
      rw [List.find?_eq_none]
      exact fun r hr hk => h (List.any_eq_true.mpr ⟨r, hr, hk⟩)
    simp [List.find?_append, hnone]

theorem lookup_putSetting_of_ne {rows : List (String × SettingValue)} {key key' : String}
    {value : SettingValue} (hne : key' ≠ key) :
    lookupSetting (putSetting rows key value) key' = lookupSetting rows key' := by
  unfold putSetting lookupSetting
  by_cases h : rows.any (·.1 = key) = true
  · rw [if_pos h]
    clear h
    induction rows with
    | nil => rfl
    | cons r rows ih =>
      rw [List.map_cons, List.find?_cons, List.find?_cons]
      by_cases hr : r.1 = key
      · have hr' : r.1 ≠ key' := fun h => hne (h.symm.trans hr)
        rw [if_pos hr, decide_eq_false hne.symm, decide_eq_false hr']
        exact ih
      · rw [if_neg hr]
        by_cases hr' : r.1 = key'
        · rw [decide_eq_true hr']
        · rw [decide_eq_false hr']
          exact ih
  · rw [if_neg h, List.find?_append]
    simp [hne.symm]

namespace RuntimeSettings

/-- `_value`: the stored override, or the default of the environment. -/
def value (key : String) (default : SettingValue) : Bot SettingValue := do
  let v : Option SettingValue ← query (.setting key)
  pure (v.getD default)

def operationsMode (cfg : Settings) : Bot String := do
  let v : Option SettingValue ← query (.setting "operations_mode")
  match v with
  | none => pure (if cfg.dryRun then "dry_run" else "live")
  | some (.text mode) =>
    if mode = "dry_run" ∨ mode = "live" then pure mode
    else Act.raise (valueError "invalid operations_mode")
  | some (.list _) => Act.raise (typeError "unhashable type: 'list'")
  | some _ => Act.raise (valueError "invalid operations_mode")

def isDryRun (cfg : Settings) : Bot Bool := do
  pure ((← operationsMode cfg) = "dry_run")

def graceHours (cfg : Settings) : Bot ℤ := do
  let v ← value "user_delete_grace_hours" (.int cfg.userDeleteGraceHours)
  let n ← Act.outcome v.toInt
  if 1 ≤ n ∧ n ≤ 24 * 30 then pure n
  else Act.raise (valueError "user_delete_grace_hours must be between 1 and 720")

/-- A positive whole number under `key`. -/
def positive (key : String) (default : ℤ) : Bot ℤ := do
  let v ← value key (.int default)
  let n ← Act.outcome v.toInt
  if 0 < n then pure n else Act.raise (valueError (key ++ " must be positive"))

def trialTrafficGb (cfg : Settings) : Bot ℤ := positive "trial_traffic_gb" cfg.trialTrafficGb

def trialDurationHours (cfg : Settings) : Bot ℤ :=
  positive "trial_duration_hours" cfg.trialDurationHours

/-- The settings of the environment have no panel link, so there is no default. -/
def customerPanelUrl : Bot (Option String) := do
  let v : Option SettingValue ← query (.setting "customer_panel_url")
  match v with
  | none => pure none
  | some v =>
    let url := String.ofList (strip isSpace v.str.toList)
    if url = "" then pure none
    else if "http://".toList.isPrefixOf url.toList ∨ "https://".toList.isPrefixOf url.toList then
      pure (some url)
    else Act.raise (valueError "customer_panel_url must use http:// or https://")

/-- `_thresholds`: distinct, the largest first. -/
def thresholds (v : SettingValue) : Except Err (List ℤ) := do
  let items ← match v with
    | .text s => (s.splitOn ",").mapM parseInt
    | .list xs => xs.mapM ServiceId.toInt
    | _ => .error (typeError "object is not iterable")
  let result := items.dedup.insertionSort (· ≥ ·)
  if result = [] ∨ result.any (· ≤ 0) then .error (valueError "thresholds must be positive")
  else .ok result

def timeThresholds (cfg : Settings) : Bot (List ℤ) := do
  let v ← value "time_warning_thresholds" (.list (cfg.timeWarningThresholds.map .int))
  Act.outcome (thresholds v)

def trafficThresholds (cfg : Settings) : Bot (List ℤ) := do
  let v ← value "traffic_warning_thresholds" (.list (cfg.trafficWarningThresholds.map .int))
  let values ← Act.outcome (thresholds v)
  if values.any (100 < ·) then Act.raise (valueError "traffic thresholds cannot exceed 100")
  else pure values

end RuntimeSettings

end ResellerBot
