import ResellerBot.Handlers.Readable
import Mathlib.Data.List.Dedup

/-!
# ResellerBot.Handlers.Accepted — the texts that the owners have entered

The settings with, as ghost state, the text that was last accepted under each key; which of these
texts the readers give back.
-/

namespace ResellerBot

/-! ## What a text is stored as -/

/-- `v` is what one of the two writers stores for the text. -/
def StoredFor (tables : CharTables) (key text : String) (v : SettingValue) : Prop :=
  (key ∈ commandKeys ∧ commandValue tables key text = .ok v) ∨
    (key ∈ dialogueKeys ∧ dialogueText tables key text = .ok v)

section Round

variable {tables : CharTables} {text : String} {v : SettingValue}

theorem mapM_toInt (ns : List ℤ) : (ns.map ServiceId.int).mapM ServiceId.toInt = .ok ns := by
  induction ns with
  | nil => rfl
  | cons n ns ih =>
    rw [List.map_cons, List.mapM_cons, ih]
    rfl

theorem any_sorted (ns : List ℤ) (p : ℤ → Bool) :
    (ns.dedup.insertionSort (· ≥ ·)).any p = ns.any p := by
  rw [Bool.eq_iff_iff]
  simp only [List.any_eq_true, List.mem_insertionSort, List.mem_dedup]

/-- The readers take the numbers that were stored, if there are some and they are positive. -/
theorem thresholds_numbers_iff {ns a : List ℤ} :
    RuntimeSettings.thresholds (.numbers ns) = .ok a ↔
      ns ≠ [] ∧ (∀ n ∈ ns, 0 < n) ∧ a = ns.dedup.insertionSort (· ≥ ·) := by
  have hbad : ns.dedup.insertionSort (· ≥ ·) = [] ∨
      (ns.dedup.insertionSort (· ≥ ·)).any (· ≤ 0) = true ↔ ns = [] ∨ ∃ n ∈ ns, n ≤ 0 := by
    rw [any_sorted, ← List.length_eq_zero_iff, List.length_insertionSort, List.length_eq_zero_iff,
      List.dedup_eq_nil]
    simp only [List.any_eq_true, decide_eq_true_eq]
  have hrun : RuntimeSettings.thresholds (.numbers ns) =
      ((ns.map ServiceId.int).mapM ServiceId.toInt >>= fun items =>
        if items.dedup.insertionSort (· ≥ ·) = [] ∨
            (items.dedup.insertionSort (· ≥ ·)).any (· ≤ 0) = true then
          .error (valueError "thresholds must be positive")
        else .ok (items.dedup.insertionSort (· ≥ ·))) := rfl
  rw [hrun, mapM_toInt]
  show (if _ then _ else _ : Except Err (List ℤ)) = _ ↔ _
  by_cases hp : ns.dedup.insertionSort (· ≥ ·) = [] ∨
      (ns.dedup.insertionSort (· ≥ ·)).any (· ≤ 0) = true
  · rw [if_pos hp]
    constructor
    · intro h
      cases h
    · rintro ⟨hne, hpos, -⟩
      obtain hnil | ⟨n, hn, hle⟩ := hbad.mp hp
      · exact absurd hnil hne
      · exact absurd (hpos n hn) (not_lt.mpr hle)
  · rw [if_neg hp, Except.ok.injEq, eq_comm]
    rw [hbad] at hp
    push Not at hp
    exact ⟨fun h => ⟨hp.1, hp.2, h⟩, fun h => h.2.2⟩

/-- A number under a condition. -/
theorem checked_iff {x : Except Err ℤ} {p : ℤ → Prop} [DecidablePred p] {e : Err} :
    (∃ a, x = .ok a ∧ (do
      let n ← x
      if p n then .ok n else .error e : Except Err ℤ) = .ok a) ↔ ∃ n, x = .ok n ∧ p n := by
  constructor
  · rintro ⟨a, hx, ha⟩
    subst hx
    refine ⟨a, rfl, ?_⟩
    by_contra hp
    rw [show (do
      let n ← Except.ok a
      if p n then .ok n else .error e : Except Err ℤ) = if p a then .ok a else .error e from rfl,
      if_neg hp] at ha
    cases ha
  · rintro ⟨n, hx, hp⟩
    subst hx
    exact ⟨n, rfl, if_pos hp⟩

theorem StoredFor.graceHours (h : StoredFor tables Reading.graceHours.key text v) :
    v = .text text := by
  obtain ⟨-, h⟩ | ⟨h, -⟩ := h
  · exact (Except.ok.inj h).symm
  · exact absurd h (by decide)

theorem StoredFor.thresholds {key : String}
    (hkey : key = "time_warning_thresholds" ∨ key = "traffic_warning_thresholds")
    (h : StoredFor tables key text v) : ∃ ns, parseInts text = .ok ns ∧ v = .numbers ns := by
  obtain ⟨-, h⟩ | ⟨h, -⟩ := h
  · have h : (parseInts text).map SettingValue.numbers = .ok v := by
      rcases hkey with rfl | rfl <;> exact h
    obtain ⟨ns, hns, hv⟩ := map_eq_ok h
    exact ⟨ns, hns, hv.symm⟩
  · rcases hkey with rfl | rfl <;> exact absurd h (by decide)

theorem StoredFor.trial {key : String}
    (hkey : key = "trial_traffic_gb" ∨ key = "trial_duration_hours")
    (h : StoredFor tables key text v) : ∃ n, parseInt text = .ok n ∧ 0 < n ∧ v = .int n := by
  obtain ⟨h, -⟩ | ⟨-, h⟩ := h
  · rcases hkey with rfl | rfl <;> exact absurd h (by decide)
  · have h : (do
        let value ← parseInt text
        if value ≤ 0 then .error (valueError "مقدار باید مثبت باشد.") else .ok (.int value)) =
          Except.ok v := by
      rcases hkey with rfl | rfl <;> exact h
    obtain ⟨n, hn, hv⟩ := bind_eq_ok h
    by_cases hp : n ≤ 0
    · rw [if_pos hp] at hv
      cases hv
    · rw [if_neg hp] at hv
      exact ⟨n, hn, not_le.mp hp, (Except.ok.inj hv).symm⟩

theorem StoredFor.link (h : StoredFor tables Reading.customerPanelUrl.key text v) :
    v = .text (stripped text) ∧
      (startsWith (stripped text) "http://" ∨ startsWith (stripped text) "https://") := by
  obtain ⟨h, -⟩ | ⟨-, h⟩ := h
  · exact absurd h (by decide)
  · rw [dialogueText, if_neg (by decide), if_neg (by decide), if_neg (by decide),
      if_neg (by decide), if_pos (by decide)] at h
    by_cases hp : startsWith (stripped text) "https://" ∨ startsWith (stripped text) "http://"
    · exact ⟨(Except.ok.inj ((if_pos hp).symm.trans h)).symm, hp.symm⟩
    · cases (if_neg hp).symm.trans h

/-- **The reader gives back what the text of a stored value denotes exactly for the texts in its
range.** -/
theorem StoredFor.parse_iff {k : Reading} (h : StoredFor tables k.key text v) :
    (∃ a, k.denoted text = .ok a ∧ k.parse v = .ok a) ↔ k.InRange text := by
  cases k with
  | graceHours =>
    rw [h.graceHours]
    exact checked_iff
  | timeThresholds =>
    obtain ⟨ns, hns, rfl⟩ := h.thresholds (.inl rfl)
    constructor
    · rintro ⟨a, -, ha⟩
      obtain ⟨hne, hpos, -⟩ := thresholds_numbers_iff.mp ha
      exact ⟨ns, hns, hne, hpos⟩
    · rintro ⟨ns', hns', hne, hpos⟩
      cases hns.symm.trans hns'
      exact ⟨_, by rw [Reading.denoted, hns]; rfl, thresholds_numbers_iff.mpr ⟨hne, hpos, rfl⟩⟩
  | trafficThresholds =>
    obtain ⟨ns, hns, rfl⟩ := h.thresholds (.inr rfl)
    constructor
    · rintro ⟨a, -, ha⟩
      obtain ⟨values, hvalues, ha⟩ := bind_eq_ok ha
      obtain ⟨hne, hpos, rfl⟩ := thresholds_numbers_iff.mp hvalues
      refine ⟨ns, hns, hne, fun n hn => ⟨hpos n hn, ?_⟩⟩
      rw [any_sorted] at ha
      by_contra hlt
      have hany : ns.any (100 < ·) = true :=
        List.any_eq_true.mpr ⟨n, hn, decide_eq_true (not_le.mp hlt)⟩
      cases (if_pos hany).symm.trans ha
    · rintro ⟨ns', hns', hne, hin⟩
      cases hns.symm.trans hns'
      refine ⟨_, by rw [Reading.denoted, hns]; rfl, ?_⟩
      rw [Reading.parse, thresholds_numbers_iff.mpr ⟨hne, fun n hn => (hin n hn).1, rfl⟩]
      have hany : ¬(ns.dedup.insertionSort (· ≥ ·)).any (100 < ·) = true := by
        rw [any_sorted]
        intro h
        obtain ⟨n, hn, hlt⟩ := List.any_eq_true.mp h
        exact absurd (of_decide_eq_true hlt) (not_lt.mpr (hin n hn).2)
      exact if_neg hany
  | trialTrafficGb =>
    obtain ⟨n, hn, hp, rfl⟩ := h.trial (.inl rfl)
    exact ⟨fun _ => trivial, fun _ => ⟨n, hn, if_pos hp⟩⟩
  | trialDurationHours =>
    obtain ⟨n, hn, hp, rfl⟩ := h.trial (.inr rfl)
    exact ⟨fun _ => trivial, fun _ => ⟨n, hn, if_pos hp⟩⟩
  | customerPanelUrl =>
    obtain ⟨rfl, hp⟩ := h.link
    refine ⟨fun _ => trivial, fun _ => ⟨some (stripped text), rfl, ?_⟩⟩
    have hne : stripped text ≠ "" := by
      intro he
      rw [he] at hp
      exact absurd hp (by decide)
    rw [Reading.parse]
    simp only [SettingValue.str, stripped_stripped]
    rw [if_neg hne, if_pos hp]

end Round

/-! ## The machine with the texts -/

/-- The settings, and the text that was last accepted under each key. -/
structure Entries where
  page : SettingsPage
  texts : String → Option String

section Machine

variable (tables : CharTables) (ownerIds : List ℤ)

/-- The key and the text that an event makes its writer accept and store. -/
def SettingsPage.accepts (page : SettingsPage) : SettingsEvent → Option (String × String)
  | .setting owner text =>
    if owner ∈ ownerIds then
      (settingArguments text).filter fun (key, value) =>
        key ∈ commandKeys ∧ (commandValue tables key value).isOk
    else none
  | .value owner _ (some text) =>
    if owner ∈ ownerIds then
      ((page.editing owner).filter fun key => (dialogueText tables key text).isOk).map (·, text)
    else none
  | _ => none

def Entries.step (x : Entries) (e : SettingsEvent) : Entries where
  page := x.page.step tables ownerIds e
  texts := match x.page.accepts tables ownerIds e with
    | some (key, text) => Function.update x.texts key (some text)
    | none => x.texts

/-- Dialogues are about the keys that are offered, and the value under a key that has a reader is
what the last accepted text is stored as. -/
structure Entries.Inv (x : Entries) : Prop where
  offered : ∀ owner key, x.page.editing owner = some key → key ∈ dialogueKeys
  stored : ∀ (k : Reading) text, x.texts k.key = some text →
    ∃ v, lookupSetting x.page.settings k.key = some v ∧ StoredFor tables k.key text v

variable {tables ownerIds} {page : SettingsPage} {x : Entries} {e : SettingsEvent}

theorem leave_editing {owner o : ℤ} {key : String}
    (h : (page.leave owner).editing o = some key) : page.editing o = some key := by
  have h : Function.update page.editing owner none o = some key := h
  rw [Function.update_apply] at h
  by_cases ho : o = owner
  · rw [if_pos ho] at h
    cases h
  · rwa [if_neg ho] at h

/-- A step opens no dialogue but about a key that is offered. -/
theorem step_editing {o : ℤ} {key : String}
    (h : (page.step tables ownerIds e).editing o = some key) :
    page.editing o = some key ∨ key ∈ dialogueKeys := by
  cases e with
  | setting owner text =>
    have hsame : (settingSet tables ownerIds owner page text).1.editing = page.editing := by
      unfold settingSet
      repeat' split
      all_goals rfl
    exact .inl ((congrFun hsame o).symm.trans h)
  | edit owner key' =>
    rw [SettingsPage.step, settingsEdit] at h
    by_cases hno : owner ∉ ownerIds ∨ key' ∉ dialogueKeys
    · rw [if_pos hno] at h
      exact .inl h
    · rw [if_neg hno] at h
      have h : Function.update page.editing owner (some key') o = some key := h
      rw [Function.update_apply] at h
      push Not at hno
      by_cases ho : o = owner
      · rw [if_pos ho, Option.some.injEq] at h
        exact .inr (h ▸ hno.2)
      · rw [if_neg ho] at h
        exact .inl h
  | value owner panel text =>
    refine .inl ?_
    rw [SettingsPage.step, settingsValue] at h
    split at h
    · exact leave_editing h
    · split at h
      · exact h
      · split at h
        · exact h
        · split at h
          · exact leave_editing h
          · exact h
  | trialToggle owner =>
    rw [SettingsPage.step, trialToggle] at h
    split at h <;> exact .inl h
  | mode owner live =>
    rw [SettingsPage.step, modeChange] at h
    split at h <;> exact .inl h
  | leave owner => exact .inl (leave_editing h)

/-- What a step does to the table of settings. -/
theorem step_settings
    (offered : ∀ owner key, page.editing owner = some key → key ∈ dialogueKeys) :
    (∃ key text v, page.accepts tables ownerIds e = some (key, text) ∧
      StoredFor tables key text v ∧
      (page.step tables ownerIds e).settings = putSetting page.settings key v) ∨
    (page.accepts tables ownerIds e = none ∧
      ((page.step tables ownerIds e).settings = page.settings ∨
        ∃ key v, key ∈ ["trial_enabled", "operations_mode"] ∧
          (page.step tables ownerIds e).settings = putSetting page.settings key v)) := by
  cases e with
  | setting owner text =>
    rw [SettingsPage.step, SettingsPage.accepts, settingSet]
    by_cases ho : owner ∈ ownerIds
    · rw [if_pos ho, if_neg (not_not.mpr ho)]
      cases hargs : settingArguments text with
      | none => exact .inr ⟨rfl, .inl rfl⟩
      | some arg =>
        obtain ⟨key, value⟩ := arg
        dsimp only
        by_cases hkey : key ∈ commandKeys
        · rw [if_neg (not_not.mpr hkey)]
          cases hv : commandValue tables key value with
          | ok v =>
            refine .inl ⟨key, value, v, ?_, .inl ⟨hkey, hv⟩, rfl⟩
            simp [Option.filter, hkey, hv, Except.toBool]
          | error err =>
            refine .inr ⟨?_, .inl rfl⟩
            simp [Option.filter, hkey, hv, Except.toBool]
        · rw [if_pos hkey]
          refine .inr ⟨?_, .inl rfl⟩
          simp [Option.filter, hkey]
    · rw [if_neg ho, if_pos ho]
      exact .inr ⟨rfl, .inl rfl⟩
  | edit owner key =>
    refine .inr ⟨rfl, .inl ?_⟩
    rw [SettingsPage.step, settingsEdit]
    split <;> rfl
  | value owner panel text =>
    rw [SettingsPage.step, settingsValue]
    by_cases ho : owner ∈ ownerIds
    · rw [if_neg (not_not.mpr ho)]
      cases hk : page.editing owner with
      | none =>
        refine .inr ⟨?_, .inl rfl⟩
        cases text with
        | none => rfl
        | some text =>
          rw [SettingsPage.accepts, if_pos ho, hk]
          rfl
      | some key =>
        cases text with
        | none =>
          refine .inr ⟨rfl, .inl ?_⟩
          dsimp only [dialogueValue]
          split_ifs <;> rfl
        | some text =>
          rw [SettingsPage.accepts, if_pos ho, hk]
          dsimp only [dialogueValue]
          cases hv : dialogueText tables key text with
          | error err =>
            refine .inr ⟨?_, .inl rfl⟩
            simp [Option.filter, hv, Except.toBool]
          | ok v =>
            refine .inl ⟨key, text, v, ?_, .inr ⟨offered owner key hk, hv⟩, ?_⟩
            · simp [Option.filter, hv, Except.toBool]
            · cases panel <;> rfl
    · rw [if_pos ho]
      refine .inr ⟨?_, .inl rfl⟩
      cases text with
      | none => rfl
      | some text =>
        rw [SettingsPage.accepts, if_neg ho]
  | trialToggle owner =>
    refine .inr ⟨rfl, ?_⟩
    rw [SettingsPage.step, trialToggle]
    split
    · exact .inl rfl
    · exact .inr ⟨"trial_enabled", _, by decide, rfl⟩
  | mode owner live =>
    refine .inr ⟨rfl, ?_⟩
    rw [SettingsPage.step, modeChange]
    split
    · exact .inl rfl
    · exact .inr ⟨"operations_mode", _, by decide, rfl⟩
  | leave owner => exact .inr ⟨rfl, .inl rfl⟩

theorem Entries.Inv.step (h : x.Inv tables) : (x.step tables ownerIds e).Inv tables where
  offered owner key hk := (step_editing hk).elim (h.offered owner key) id
  stored k text ht := by
    obtain ⟨key, text', v, ha, hstored, hput⟩ | ⟨ha, hrows⟩ :=
      @step_settings tables ownerIds x.page e h.offered
    · have ht : Function.update x.texts key (some text') k.key = some text := by
        rw [Entries.step, ha] at ht
        exact ht
      have hput : (x.step tables ownerIds e).page.settings = _ := hput
      rw [hput]
      by_cases hkey : k.key = key
      · subst hkey
        rw [Function.update_self, Option.some.injEq] at ht
        subst ht
        exact ⟨v, lookup_putSetting, hstored⟩
      · rw [Function.update_of_ne hkey] at ht
        rw [lookup_putSetting_of_ne hkey]
        exact h.stored k text ht
    · have ht : x.texts k.key = some text := by
        rw [Entries.step, ha] at ht
        exact ht
      obtain ⟨v, hv, hstored⟩ := h.stored k text ht
      refine ⟨v, ?_, hstored⟩
      obtain hsame | ⟨key, v', hkey, hput⟩ := hrows
      · exact (congrArg (lookupSetting · k.key) hsame).trans hv
      · have hne : k.key ≠ key := by
          rintro rfl
          revert hkey
          cases k <;> decide
        have hput : (x.step tables ownerIds e).page.settings = _ := hput
        rw [hput, lookup_putSetting_of_ne hne, hv]

/-- What holds of every run from a page on which nothing is being edited. -/
theorem Entries.inv_run (es : List SettingsEvent) (idle : ∀ owner, page.editing owner = none) :
    (Machine.run (Entries.step tables ownerIds) ⟨page, fun _ => none⟩ es).Inv tables := by
  refine Machine.run_inv (fun x e hx => hx.step) ⟨?_, ?_⟩
  · intro owner key hk
    cases (idle owner).symm.trans hk
  · intro k text ht
    cases ht

/-- **A setting that was accepted is read back, as what its text denotes, exactly if its reader
takes that text.** -/
theorem accepted_reads_iff (cfg : Settings) (k : Reading) (text : String)
    (es : List SettingsEvent) (idle : ∀ owner, page.editing owner = none)
    (accepted : (Machine.run (Entries.step tables ownerIds) ⟨page, fun _ => none⟩ es).texts k.key =
      some text) :
    (∃ a, k.denoted text = .ok a ∧
      Reads (Machine.run (Entries.step tables ownerIds) ⟨page, fun _ => none⟩ es).page.settings
        (k.read cfg) a) ↔ k.InRange text := by
  obtain ⟨v, hv, hstored⟩ := (Entries.inv_run es idle).stored k text accepted
  rw [← hstored.parse_iff]
  exact exists_congr fun a => and_congr_right fun _ => reads_iff hv

end Machine

namespace GraceHours

def tables : CharTables := ⟨Char.isAlphanum, Char.isDigit⟩

def page : SettingsPage := ⟨[], fun _ => none⟩

def cfg : Settings :=
  ⟨"", [1], "", false, true, true, true, 24, 24, 1, [3, 1], [80, 95], false, "", "USDT"⟩

/-- The owner sends one command. -/
def entered (command : String) : Entries :=
  Machine.run (Entries.step tables [1]) ⟨page, fun _ => none⟩ [.setting 1 command]

/-- A day of grace is read back. -/
theorem accepted_grace_hours : ∃ a, parseInt "24" = .ok a ∧
    Reads (entered "/setting user_delete_grace_hours 24").page.settings
      (RuntimeSettings.graceHours cfg) a := by
  have h := @accepted_reads_iff tables [1] page cfg .graceHours "24"
    [.setting 1 "/setting user_delete_grace_hours 24"] (fun _ => rfl) (by decide +kernel)
  exact h.mpr ⟨24, by decide +kernel, by decide, by decide⟩

/-- No grace at all is accepted, and then no grace can be read. -/
theorem grace_hours_zero : ¬ ∀ (tables : CharTables) (ownerIds : List ℤ) (page : SettingsPage)
    (es : List SettingsEvent) (cfg : Settings) (k : Reading) (text : String),
    (∀ owner, page.editing owner = none) →
    (Machine.run (Entries.step tables ownerIds) ⟨page, fun _ => none⟩ es).texts k.key =
      some text →
    ∃ a, k.denoted text = .ok a ∧
      Reads (Machine.run (Entries.step tables ownerIds) ⟨page, fun _ => none⟩ es).page.settings
        (k.read cfg) a := by
  intro h
  obtain ⟨a, -, ha⟩ := h tables [1] page [.setting 1 "/setting user_delete_grace_hours 0"] cfg
    .graceHours "0" (fun _ => rfl) (by decide +kernel)
  have hv : lookupSetting (entered "/setting user_delete_grace_hours 0").page.settings
      "user_delete_grace_hours" = some (.text "0") := by decide +kernel
  have hparse : Reading.graceHours.parse (.text "0") =
      .error (valueError "user_delete_grace_hours must be between 1 and 720") := by decide +kernel
  cases hparse.symm.trans ((reads_iff hv).mp ha)

end GraceHours

end ResellerBot
