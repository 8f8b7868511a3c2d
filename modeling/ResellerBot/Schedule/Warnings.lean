import ResellerBot.Schedule.Notices
import ResellerBot.Machine

/-!
# ResellerBot.Schedule.Warnings — which warnings a reseller gets

Passes over the resellers while the entitlement of one of them stays the same and every message is
delivered.  A run of the scheduler commits at its end: what a pass has recorded is lost when the run
fails afterwards, or when a lock is refused to it, and what it has told is not.
-/

open Interact

namespace ResellerBot

/-! ## Thresholds -/

theorem natRepr_injective : Function.Injective Nat.repr := by
  intro a b h
  have hdigits : Nat.toDigits 10 a = Nat.toDigits 10 b := by
    rw [← Nat.toList_repr, ← Nat.toList_repr, h]
  rw [← Nat.ofDigitChars_ten_toDigits (n := a), hdigits, Nat.ofDigitChars_ten_toDigits]

/-- A sign is not a digit. -/
theorem natRepr_ne_minus (a b : ℕ) : a.repr ≠ "-" ++ b.repr := by
  intro h
  have hmem : '-' ∈ Nat.toDigits 10 a := by
    rw [← Nat.toList_repr, h, String.toList_append]
    exact List.mem_append_left _ (List.mem_singleton.mpr rfl)
  exact absurd (Nat.isDigit_of_mem_toDigits (by decide) (by decide) hmem) (by decide)

theorem intRepr_injective : Function.Injective (toString : ℤ → String) := by
  intro a b h
  rw [Int.toString_eq_repr, Int.toString_eq_repr, Int.repr_eq_if, Int.repr_eq_if] at h
  split_ifs at h with ha hb hb
  · have := natRepr_injective h
    omega
  · exact absurd h (natRepr_ne_minus _ _)
  · exact absurd h.symm (natRepr_ne_minus _ _)
  · have hneg : (-a).toNat.repr = (-b).toNat.repr := by simpa using h
    have := natRepr_injective hneg
    omega

/-- The thresholds that a stored value gives, the largest first. -/
theorem thresholds_descending {v : SettingValue} {ts : List ℤ}
    (h : RuntimeSettings.thresholds v = .ok ts) : ts.Pairwise (· > ·) := by
  unfold RuntimeSettings.thresholds at h
  have hsorted : ∀ items : List ℤ,
      (if items.dedup.insertionSort (· ≥ ·) = [] ∨
          (items.dedup.insertionSort (· ≥ ·)).any (· ≤ 0) then
        Except.error (valueError "thresholds must be positive")
      else .ok (items.dedup.insertionSort (· ≥ ·))) = .ok ts → ts.Pairwise (· > ·) := by
    intro items hrun
    have hge : (items.dedup.insertionSort (· ≥ ·)).Pairwise (· ≥ ·) :=
      List.pairwise_insertionSort (· ≥ ·) items.dedup
    have hne : (items.dedup.insertionSort (· ≥ ·)).Nodup :=
      (List.perm_insertionSort _ _).nodup_iff.mpr items.nodup_dedup
    split_ifs at hrun
    exact Except.ok.inj hrun ▸ (hge.and hne).imp fun h => lt_of_le_of_ne h.1 h.2.symm
  cases v with
  | text | list =>
    obtain ⟨items, -, hrun⟩ := bind_eq_ok h
    exact hsorted items hrun
  | _ => cases h

/-- **The first threshold that has been reached is the largest one.** -/
theorem find_eq_max {ts : List ℤ} (hts : ts.Pairwise (· ≥ ·)) (due : ℤ → Bool) :
    ts.find? due = (ts.filter due).max? := by
  induction ts with
  | nil => rfl
  | cons t ts ih =>
    rw [List.pairwise_cons] at hts
    cases ht : due t with
    | true =>
      rw [List.find?_cons_of_pos ht, List.filter_cons_of_pos ht, eq_comm, List.max?_eq_some_iff]
      refine ⟨List.mem_cons_self, fun t' ht' => ?_⟩
      obtain rfl | ht' := List.mem_cons.mp ht'
      · exact le_rfl
      · exact hts.1 t' (List.mem_of_mem_filter ht')
    | false =>
      rw [List.find?_cons_of_neg (by simp [ht]), List.filter_cons_of_neg (by simp [ht])]
      exact ih hts.2

/-! ## Passes -/

/-- A pass over the resellers: the tables it finds, but for the warnings; what it is answered; how
much traffic it finds used by the admin, if it comes to its reseller and can read it; and whether
what it writes is committed in the end. -/
structure Pass where
  tables : Tables
  remote : Remote
  used : Option ℤ
  kept : Bool

/-- What may run out. -/
inductive Measure
  | TIME
  | TRAFFIC
  deriving DecidableEq

def Measure.kind : Measure → String
  | .TIME => "TIME_"
  | .TRAFFIC => "TRAFFIC_"

section Definitions

variable (cfg : Settings) (batchSize : ℕ) (live : Admin) (times traffics : List ℤ)

def Measure.thresholds : Measure → List ℤ
  | .TIME => times
  | .TRAFFIC => traffics

/-- The row that tells that the reseller has been warned. -/
def warning (m : Measure) (t : ℤ) : WarningEvent := warningOf live m.kind t

/-- Something is left, and no more than the threshold. -/
def Measure.due (p : Pass) (t : ℤ) : Measure → Bool
  | .TIME => p.used.isSome && live.expire.any fun e => timeWarning e p.remote.clock t
  | .TRAFFIC => p.used.any fun u => live.dataLimit.any fun l => 0 < l && trafficWarning l u t

/-- The smallest threshold that has been reached. -/
def Measure.smallest (p : Pass) (m : Measure) : Option ℤ :=
  ((m.thresholds times traffics).filter (m.due live p)).min?

/-- The largest threshold that has been reached. -/
def Measure.largest (p : Pass) (m : Measure) : Option ℤ :=
  ((m.thresholds times traffics).filter (m.due live p)).max?

/-- The smallest thresholds that the passes reach, in their order. -/
def Measure.course (ps : List Pass) (m : Measure) : List ℤ :=
  ps.filterMap fun p => m.smallest live times traffics p

/-- The warnings about the entitlement among others. -/
def Measure.part (m : Measure) (es : List WarningEvent) : List WarningEvent :=
  es.filter (· ∈ (m.thresholds times traffics).map (warning live m))

/-- The table of warnings as it is committed, and what has been told. -/
structure Notified where
  recorded : List WarningEvent
  said : List WarningEvent

/-- The pass, from what is recorded. -/
def Notified.pass (n : Notified) (p : Pass) : Except Err Tables × Past :=
  p.remote.pass cfg batchSize { p.tables with warnings := n.recorded }

def Notified.after (n : Notified) (p : Pass) : Notified where
  recorded := match p.kept, (n.pass cfg batchSize p).1 with
    | true, .ok T => T.warnings
    | _, _ => n.recorded
  said := n.said ++ told (n.pass cfg batchSize p).2

/-- The thresholds are the ones in question, every message is delivered, the entitlement of the
admin is the one of `live` whenever it is read, and only a pass that returns is committed. -/
structure Notified.Meets (n : Notified) (p : Pass) : Prop where
  named : NamedApart p.tables.resellers
  times : timesOf cfg p.tables = .ok times
  traffics : trafficsOf cfg p.tables = .ok traffics
  delivers : p.remote.Delivers
  fits : p.remote.Fits
  reads : (reading live.username (n.pass cfg batchSize p).2).map
    (fun a => (a.username, a.expire, a.dataLimit, a.usedTraffic)) =
      p.used.map fun u => (live.username, live.expire, live.dataLimit, u)
  kept : p.kept = true → (n.pass cfg batchSize p).1.isOk = true

/-- The warning of the smallest threshold that has been reached, unless it was recorded in `ws` at
the beginning or has been told since. -/
def Measure.wants (ws : List WarningEvent) (n : Notified) (p : Pass) (m : Measure) :
    List WarningEvent :=
  ((m.smallest live times traffics p).map (warning live m)).toList.filter
    fun e => e ∉ ws ∧ e ∉ n.said

/-- **The pass notifies of the smallest threshold reached, if it was not already notified**, and of
no other. -/
def Notified.Notifies (ws : List WarningEvent) (n : Notified) (p : Pass) : Prop :=
  ∀ m : Measure, m.part live times traffics (told (n.pass cfg batchSize p).2) =
    m.wants live times traffics ws n p

/-- The remaining amount falls gradually through all thresholds, none of which is recorded. -/
structure Measure.Falls (ws : List WarningEvent) (ps : List Pass) (m : Measure) : Prop where
  fresh : ∀ t ∈ m.thresholds times traffics, warning live m t ∉ ws
  falling : (m.course live times traffics ps).Pairwise (· ≥ ·)
  all : ∀ t ∈ m.thresholds times traffics, t ∈ m.course live times traffics ps

/-- The warning of the threshold is in the table: from the beginning, or because a pass that has
reached it as the largest one was committed. -/
def Measure.Recorded (ws : List WarningEvent) (before : List Pass) (m : Measure) (t : ℤ) : Prop :=
  warning live m t ∈ ws ∨ ∃ q ∈ before, q.kept = true ∧ m.largest live times traffics q = some t

/-- The smallest threshold that is reached is the largest one, or both are recorded, the smallest
one from the beginning; and what an earlier pass has told is recorded. -/
def Measure.Fires (ws : List WarningEvent) (before : List Pass) (p : Pass) (m : Measure) : Prop :=
  ∀ t M, m.smallest live times traffics p = some t → m.largest live times traffics p = some M →
    (t = M ∨ warning live m t ∈ ws ∧ m.Recorded live times traffics ws before M) ∧
      ((∃ q ∈ before, m.largest live times traffics q = some M) →
        m.Recorded live times traffics ws before M)

end Definitions

section Warnings

variable {cfg : Settings} {batchSize : ℕ} {live : Admin} {times traffics : List ℤ} {m m' : Measure}
  {t t' M : ℤ} {ws : List WarningEvent} {n : Notified} {p q : Pass} {ps : List Pass}

theorem warning_injective (h : warning live m t = warning live m' t') : m = m' ∧ t = t' := by
  have hkind : (m.kind ++ toString t).toList = (m'.kind ++ toString t').toList :=
    congrArg (String.toList ∘ WarningEvent.kind) h
  rw [String.toList_append, String.toList_append] at hkind
  cases m <;> cases m'
  · exact ⟨rfl, intRepr_injective (String.toList_injective (List.append_cancel_left hkind))⟩
  · simp [Measure.kind] at hkind
  · simp [Measure.kind] at hkind
  · exact ⟨rfl, intRepr_injective (String.toList_injective (List.append_cancel_left hkind))⟩

theorem Measure.due_mono {a b : ℤ} (h : m.due live p a = true) (hab : a ≤ b) :
    m.due live p b = true := by
  have hle : ∀ q : ℚ, q ≤ a → q ≤ b := fun q hq => hq.trans (by exact_mod_cast hab)
  cases m with
  | TIME =>
    obtain ⟨hused, e, he, hdue⟩ : p.used.isSome = true ∧ ∃ e, live.expire = some e ∧
        timeWarning e p.remote.clock a = true := by
      simpa [Measure.due, Option.any_eq_true] using h
    simp only [timeWarning, Bool.and_eq_true, decide_eq_true_eq] at hdue
    simp [Measure.due, hused, he, timeWarning, hdue.1, hle _ hdue.2]
  | TRAFFIC =>
    obtain ⟨u, hu, l, hl, hpos, hdue⟩ : ∃ u, p.used = some u ∧ ∃ l, live.dataLimit = some l ∧
      0 < l ∧
        trafficWarning l u a = true := by
      simpa [Measure.due, Option.any_eq_true] using h
    simp only [trafficWarning, Bool.and_eq_true, decide_eq_true_eq] at hdue
    simp [Measure.due, hu, hl, hpos, trafficWarning, hdue.1, hle _ hdue.2]

theorem Measure.largest_iff : m.largest live times traffics p = some M ↔
    (M ∈ m.thresholds times traffics ∧ m.due live p M = true) ∧
      ∀ t ∈ m.thresholds times traffics, m.due live p t = true → t ≤ M := by
  rw [Measure.largest, List.max?_eq_some_iff, List.mem_filter]
  simp only [List.mem_filter, and_imp]

theorem Measure.smallest_iff : m.smallest live times traffics p = some t ↔
    (t ∈ m.thresholds times traffics ∧ m.due live p t = true) ∧
      ∀ t' ∈ m.thresholds times traffics, m.due live p t' = true → t ≤ t' := by
  rw [Measure.smallest, List.min?_eq_some_iff, List.mem_filter]
  simp only [List.mem_filter, and_imp]

/-- The largest threshold that has been reached is the largest of all. -/
theorem Measure.largest_max (h : m.largest live times traffics p = some M)
    (ht : t ∈ m.thresholds times traffics) : t ≤ M := by
  rw [Measure.largest_iff] at h
  by_contra hlt
  exact hlt (h.2 t ht (Measure.due_mono h.1.2 (not_le.mp hlt).le))

theorem Measure.largest_same (h : m.largest live times traffics p = some M)
    (h' : m.largest live times traffics q = some t) : t = M :=
  le_antisymm (Measure.largest_max h (Measure.largest_iff.mp h').1.1)
    (Measure.largest_max h' (Measure.largest_iff.mp h).1.1)

theorem Measure.largest_of_smallest (h : m.smallest live times traffics p = some t) :
    ∃ M, m.largest live times traffics p = some M := by
  obtain ⟨hmem, -⟩ := Measure.smallest_iff.mp h
  have hne : (m.thresholds times traffics).filter (m.due live p) ≠ [] :=
    List.ne_nil_of_mem (List.mem_filter.mpr hmem)
  cases hmax : m.largest live times traffics p with
  | none => exact absurd (List.max?_eq_none_iff.mp hmax) hne
  | some M => exact ⟨M, rfl⟩

/-! ## What one pass tells -/

variable (htimes : times.Pairwise (· ≥ ·)) (htraffics : traffics.Pairwise (· ≥ ·))

include htimes htraffics in
/-- The warnings that a visit is about are those of the largest thresholds. -/
theorem wanted_eq {a : Admin} {u : ℤ} (ha : (a.username, a.expire, a.dataLimit, a.usedTraffic) =
    (live.username, live.expire, live.dataLimit, u)) (hu : p.used = some u) :
    wanted a p.remote.clock times traffics =
      ((Measure.largest live times traffics p .TIME).map (warning live .TIME)).toList ++
        ((Measure.largest live times traffics p .TRAFFIC).map (warning live .TRAFFIC)).toList := by
  simp only [Prod.mk.injEq] at ha
  obtain ⟨hname, hexpire, hlimit, hused⟩ := ha
  have hwarning : ∀ kind t, warningOf a kind t = warningOf live kind t := by
    intro kind t
    simp only [warningOf, entitlementKey, hname, hexpire, hlimit]
  have htime : (a.expire.bind fun e => times.find? (timeWarning e p.remote.clock)) =
      Measure.largest live times traffics p .TIME := by
    unfold Measure.largest Measure.thresholds Measure.due
    rw [hexpire, hu]
    cases live.expire with
    | none => simp
    | some e => simpa using find_eq_max htimes (timeWarning e p.remote.clock)
  have htraffic : (a.dataLimit.bind fun l =>
      if 0 < l then traffics.find? (trafficWarning l a.usedTraffic) else none) =
        Measure.largest live times traffics p .TRAFFIC := by
    unfold Measure.largest Measure.thresholds Measure.due
    rw [hlimit, hused, hu]
    cases live.dataLimit with
    | none => simp
    | some l =>
      by_cases hl : 0 < l
      · simpa [hl] using find_eq_max htraffics (trafficWarning l u)
      · simp [hl]
  rw [wanted, htime, htraffic]
  simp only [funext (hwarning "TIME_"), funext (hwarning "TRAFFIC_")]
  rfl

theorem mem_part {es : List WarningEvent} (ht : t ∈ m.thresholds times traffics) :
    warning live m t ∈ m.part live times traffics es ↔ warning live m t ∈ es := by
  rw [Measure.part, List.mem_filter]
  exact and_iff_left (decide_eq_true (List.mem_map_of_mem ht))

theorem part_append (es es' : List WarningEvent) : m.part live times traffics (es ++ es') =
    m.part live times traffics es ++ m.part live times traffics es' :=
  List.filter_append es es'

/-- The warnings about an entitlement are told to its reseller. -/
theorem part_target (es : List WarningEvent) : m.part live times traffics
    (es.filter (·.targetIdentifier = live.username)) = m.part live times traffics es := by
  rw [Measure.part, Measure.part, List.filter_filter]
  refine List.filter_congr fun e _ => ?_
  by_cases he : e ∈ (m.thresholds times traffics).map (warning live m)
  · obtain ⟨t, -, rfl⟩ := List.mem_map.mp he
    have htarget : (warning live m t).targetIdentifier = live.username := rfl
    simp [htarget]
  · simp [he]

/-- The part of the news about one measure. -/
theorem part_news (W : List WarningEvent) (o : Option ℤ)
    (ho : ∀ t, o = some t → t ∈ m'.thresholds times traffics) :
    m.part live times traffics (news W (o.map (warning live m')).toList) =
      if m = m' then news W (o.map (warning live m)).toList else [] := by
  have hmem : ∀ e ∈ news W (o.map (warning live m')).toList,
      ∃ t, o = some t ∧ e = warning live m' t := by
    intro e he
    obtain ⟨t, ht, rfl⟩ := Option.map_eq_some_iff.mp (Option.mem_toList.mp (mem_news.mp he).1)
    exact ⟨t, ht, rfl⟩
  split_ifs with hm
  · obtain rfl := hm
    refine List.filter_eq_self.mpr fun e he => decide_eq_true ?_
    obtain ⟨t, ht, rfl⟩ := hmem e he
    exact List.mem_map_of_mem (ho t ht)
  · refine List.filter_eq_nil_iff.mpr fun e he => ?_
    obtain ⟨t, -, rfl⟩ := hmem e he
    simp only [decide_eq_true_eq, List.mem_map, not_exists, not_and]
    exact fun t' _ h => hm (warning_injective h).1

omit htimes htraffics

theorem Notified.Meets.descending (h : n.Meets cfg batchSize live times traffics p) (m : Measure) :
    (m.thresholds times traffics).Pairwise (· > ·) := by
  cases m with
  | TIME => exact thresholds_descending h.times
  | TRAFFIC =>
    obtain ⟨values, hvalues, hrest⟩ := bind_eq_ok h.traffics
    split_ifs at hrest
    exact Except.ok.inj hrest ▸ thresholds_descending hvalues

theorem Measure.largest_unread (hu : p.used = none) : m.largest live times traffics p = none := by
  have hdue : ∀ t, m.due live p t = false := by
    intro t
    cases m <;> simp [Measure.due, hu]
  rw [Measure.largest, List.filter_eq_nil_iff.mpr fun t _ => by simp [hdue t]]
  rfl

/-- What a pass tells the reseller. -/
theorem told_target (h : n.Meets cfg batchSize live times traffics p) :
    (told (n.pass cfg batchSize p).2).filter (·.targetIdentifier = live.username) =
      news n.recorded
        (((Measure.largest live times traffics p .TIME).map (warning live .TIME)).toList ++
          ((Measure.largest live times traffics p .TRAFFIC).map
            (warning live .TRAFFIC)).toList) := by
  have hpass := (pass_told (T := { p.tables with warnings := n.recorded }) live.username batchSize
    h.delivers h.fits h.named h.times h.traffics).1
  have hreads := h.reads
  refine hpass.trans ?_
  cases hread : reading live.username (n.pass cfg batchSize p).2 with
  | none =>
    rw [hread] at hreads
    have hu : p.used = none := Option.map_eq_none_iff.mp hreads.symm
    rw [show reading live.username (p.remote.pass cfg batchSize
      { p.tables with warnings := n.recorded }).2 = none from hread,
      Measure.largest_unread hu, Measure.largest_unread hu]
    rfl
  | some a =>
    rw [hread] at hreads
    obtain ⟨u, hu, ha⟩ := Option.map_eq_some_iff.mp hreads.symm
    rw [show reading live.username (p.remote.pass cfg batchSize
      { p.tables with warnings := n.recorded }).2 = some a from hread]
    show news n.recorded (wanted a p.remote.clock times traffics) = _
    have htimes : times.Pairwise (· ≥ ·) := (h.descending .TIME).imp le_of_lt
    have htraffics : traffics.Pairwise (· ≥ ·) := (h.descending .TRAFFIC).imp le_of_lt
    rw [wanted_eq htimes htraffics ha.symm hu]

theorem mem_told (h : n.Meets cfg batchSize live times traffics p) :
    warning live m t ∈ told (n.pass cfg batchSize p).2 ↔
      m.largest live times traffics p = some t ∧ warning live m t ∉ n.recorded := by
  have htarget : warning live m t ∈ told (n.pass cfg batchSize p).2 ↔ warning live m t ∈
      (told (n.pass cfg batchSize p).2).filter (·.targetIdentifier = live.username) := by
    rw [List.mem_filter]
    exact (and_iff_left (decide_eq_true rfl)).symm
  have hmap : ∀ m', warning live m t ∈ ((m'.largest live times traffics p).map
      (warning live m')).toList ↔ m' = m ∧ m.largest live times traffics p = some t := by
    intro m'
    rw [Option.mem_toList, Option.map_eq_some_iff]
    constructor
    · rintro ⟨t', hlargest, heq⟩
      obtain ⟨rfl, rfl⟩ := warning_injective heq
      exact ⟨rfl, hlargest⟩
    · rintro ⟨rfl, hlargest⟩
      exact ⟨t, hlargest, rfl⟩
  rw [htarget, told_target h, mem_news, List.mem_append, hmap, hmap]
  cases m <;> simp

/-- **What a pass tells** about one measure. -/
theorem told_part (h : n.Meets cfg batchSize live times traffics p) :
    m.part live times traffics (told (n.pass cfg batchSize p).2) =
      news n.recorded ((m.largest live times traffics p).map (warning live m)).toList := by
  have hthreshold : ∀ (m' : Measure) t, m'.largest live times traffics p = some t →
      t ∈ m'.thresholds times traffics := fun _ _ hl => (Measure.largest_iff.mp hl).1.1
  rw [← part_target, told_target h, news_append, part_append, part_news _ _ (hthreshold .TIME),
    part_news _ _ (hthreshold .TRAFFIC)]
  cases m with
  | TIME => simp
  | TRAFFIC =>
    rw [if_neg (by decide), if_pos rfl, List.nil_append]
    -- the warning about the time is another one
    refine news_congr fun e he => ?_
    rw [List.mem_append, or_iff_left]
    intro hmem
    obtain ⟨t, -, rfl⟩ := Option.map_eq_some_iff.mp (Option.mem_toList.mp he)
    obtain ⟨t', -, heq⟩ :=
      Option.map_eq_some_iff.mp (Option.mem_toList.mp (mem_news.mp hmem).1)
    cases (warning_injective heq).1

/-! ## What many passes tell -/

/-- What a pass records. -/
theorem mem_recorded_after (h : n.Meets cfg batchSize live times traffics p) :
    warning live m t ∈ (n.after cfg batchSize p).recorded ↔ warning live m t ∈ n.recorded ∨
      (p.kept = true ∧ m.largest live times traffics p = some t) := by
  unfold Notified.after
  cases hkept : p.kept with
  | false => simp
  | true =>
    obtain ⟨T, hT⟩ : ∃ T, (n.pass cfg batchSize p).1 = .ok T := by
      have hok := h.kept hkept
      cases hr : (n.pass cfg batchSize p).1 with
      | ok T => exact ⟨T, rfl⟩
      | error e =>
        rw [hr] at hok
        cases hok
    have hrecorded : T.warnings = n.recorded ++ told (n.pass cfg batchSize p).2 :=
      (pass_told (T := { p.tables with warnings := n.recorded }) live.username batchSize
        h.delivers h.fits h.named h.times h.traffics).2 T hT
    rw [hT]
    show _ ∈ T.warnings ↔ _
    rw [hrecorded, List.mem_append, mem_told h]
    tauto

/-- What a pass adds to what has been told. -/
theorem mem_said_after (h : n.Meets cfg batchSize live times traffics p) :
    warning live m t ∈ (n.after cfg batchSize p).said ↔ warning live m t ∈ n.said ∨
      (m.largest live times traffics p = some t ∧ warning live m t ∉ n.recorded) := by
  show _ ∈ n.said ++ _ ↔ _
  rw [List.mem_append, mem_told h]

/-- **What passes record**: largest thresholds. -/
theorem mem_recorded_run (h : Machine.Always (Notified.after cfg batchSize)
      (Notified.Meets cfg batchSize live times traffics) n ps) :
    warning live m t ∈ (Machine.run (Notified.after cfg batchSize) n ps).recorded ↔
      warning live m t ∈ n.recorded ∨
        ∃ q ∈ ps, q.kept = true ∧ m.largest live times traffics q = some t := by
  induction ps generalizing n with
  | nil => simp [Machine.run]
  | cons p ps ih =>
    show _ ∈ (Machine.run _ (n.after cfg batchSize p) ps).recorded ↔ _
    rw [ih h.2, mem_recorded_after h.1, or_assoc, List.exists_mem_cons_iff]

/-- **What passes tell**: largest thresholds that were not recorded before the first of them. -/
theorem mem_said_run (h : Machine.Always (Notified.after cfg batchSize)
      (Notified.Meets cfg batchSize live times traffics) n ps) :
    warning live m t ∈ (Machine.run (Notified.after cfg batchSize) n ps).said ↔
      warning live m t ∈ n.said ∨ (warning live m t ∉ n.recorded ∧
        ∃ q ∈ ps, m.largest live times traffics q = some t) := by
  induction ps generalizing n with
  | nil => simp [Machine.run]
  | cons p ps ih =>
    show _ ∈ (Machine.run _ (n.after cfg batchSize p) ps).said ↔ _
    rw [ih h.2, mem_said_after h.1, mem_recorded_after h.1, List.exists_mem_cons_iff]
    tauto

/-- A pass notifies as it should if and only if its thresholds are so that it does. -/
theorem notifies_iff {before : List Pass} (h : n.Meets cfg batchSize live times traffics p)
    (hrecorded : ∀ m t, warning live m t ∈ n.recorded ↔ m.Recorded live times traffics ws before t)
    (hsaid : ∀ (m : Measure) t, warning live m t ∈ n.said ↔ warning live m t ∉ ws ∧
      ∃ q ∈ before, m.largest live times traffics q = some t) :
    n.Notifies cfg batchSize live times traffics ws p ↔
      ∀ m : Measure, m.Fires live times traffics ws before p := by
  refine forall_congr' fun m => ?_
  rw [told_part h, Measure.wants]
  cases hsmallest : m.smallest live times traffics p with
  | none =>
    have hlargest : m.largest live times traffics p = none := by
      have hnil := List.min?_eq_none_iff.mp hsmallest
      rw [Measure.largest, hnil]
      rfl
    rw [hlargest]
    refine iff_of_true rfl fun t M ht => ?_
    rw [hsmallest] at ht
    cases ht
  | some t =>
    obtain ⟨M, hM⟩ := Measure.largest_of_smallest hsmallest
    have hfires : m.Fires live times traffics ws before p ↔
        (t = M ∨ warning live m t ∈ ws ∧ m.Recorded live times traffics ws before M) ∧
          ((∃ q ∈ before, m.largest live times traffics q = some M) →
            m.Recorded live times traffics ws before M) := by
      refine ⟨fun h => h t M hsmallest hM, fun h t' M' ht' hM' => ?_⟩
      obtain rfl : t = t' := Option.some.inj (hsmallest.symm.trans ht')
      obtain rfl : M = M' := Option.some.inj (hM.symm.trans hM')
      exact h
    have hnews : news n.recorded ((some M).map (warning live m)).toList =
        if warning live m M ∈ n.recorded then [] else [warning live m M] := rfl
    have hwants : (((some t).map (warning live m)).toList.filter fun e => e ∉ ws ∧ e ∉ n.said) =
        if warning live m t ∉ ws ∧ warning live m t ∉ n.said then [warning live m t] else [] := by
      simp [List.filter_cons]
    rw [hM, hnews, hwants, hfires]
    by_cases htM : t = M
    · subst htM
      have hearlier : m.Recorded live times traffics ws before t → warning live m t ∈ ws ∨
          ∃ q ∈ before, m.largest live times traffics q = some t := by
        rintro (hws | ⟨q, hq, -, hlargest⟩)
        · exact .inl hws
        · exact .inr ⟨q, hq, hlargest⟩
      have htold := hsaid m t
      rw [← hrecorded] at hearlier ⊢
      split_ifs with hrec hnew hnew
      · exact absurd (htold.mpr ⟨hnew.1, (hearlier hrec).resolve_left hnew.1⟩) hnew.2
      · simp [hrec]
      · exact iff_of_true rfl ⟨.inl rfl, fun hseen => absurd (htold.mpr ⟨hnew.1, hseen⟩) hnew.2⟩
      · have hfresh : warning live m t ∉ ws := fun hws => hrec ((hrecorded m t).mpr (.inl hws))
        refine iff_of_false (by simp) fun h => hnew ⟨hfresh, fun hs => ?_⟩
        exact hrec (h.2 (htold.mp hs).2)
    · -- the smallest threshold is never told, as it is not the largest one
      have hunsaid : warning live m t ∉ n.said := by
        rw [hsaid]
        rintro ⟨-, q, -, hq⟩
        exact htM (Measure.largest_same hM hq)
      have hne : warning live m M ≠ warning live m t := fun h => htM (warning_injective h).2.symm
      rw [← hrecorded]
      split_ifs with hrec hnew hnew
      · exact iff_of_false (by simp) fun h => by tauto
      · exact iff_of_true rfl (by tauto)
      · exact iff_of_false (by simp [hne]) fun h => by tauto
      · exact iff_of_false (by simp) fun h => by tauto

/-! ## A gradual fall -/

/-- Passes that notify as they should tell the warnings of the smallest thresholds, each once. -/
theorem part_said_run (hfresh : ∀ t ∈ m.thresholds times traffics, warning live m t ∉ ws)
    (hn : Machine.Always (Notified.after cfg batchSize)
      (fun n p => n.Notifies cfg batchSize live times traffics ws p) n ps)
    {ts : List ℤ} (hsaid : m.part live times traffics n.said = ts.map (warning live m))
    (hts : ts.Pairwise (· > ·)) (hle : ∀ t ∈ ts, ∀ t' ∈ m.course live times traffics ps, t' ≤ t)
    (hfalling : (m.course live times traffics ps).Pairwise (· ≥ ·)) :
    ∃ ts' : List ℤ, m.part live times traffics (Machine.run (Notified.after cfg batchSize) n
      ps).said =
      ts'.map (warning live m) ∧ ts'.Pairwise (· > ·) ∧
        ∀ t, t ∈ ts' ↔ t ∈ ts ∨ t ∈ m.course live times traffics ps := by
  induction ps generalizing n ts with
  | nil => exact ⟨ts, hsaid, hts, by simp [Measure.course]⟩
  | cons p ps ih =>
    have hafter : m.part live times traffics (n.after cfg batchSize p).said =
        ts.map (warning live m) ++ m.wants live times traffics ws n p := by
      rw [← hsaid, ← hn.1 m]
      exact part_append _ _
    cases hsmallest : m.smallest live times traffics p with
    | none =>
      have hcourse : m.course live times traffics (p :: ps) = m.course live times traffics ps :=
        List.filterMap_cons_none hsmallest
      rw [hcourse] at hle hfalling ⊢
      refine ih hn.2 ?_ hts hle hfalling
      rw [hafter, Measure.wants, hsmallest]
      exact List.append_nil _
    | some t =>
      have hcourse : m.course live times traffics (p :: ps) = t ::
        m.course live times traffics ps :=
        List.filterMap_cons_some hsmallest
      rw [hcourse] at hle hfalling ⊢
      rw [List.pairwise_cons] at hfalling
      have ht := (Measure.smallest_iff.mp hsmallest).1.1
      have hmem : warning live m t ∈ n.said ↔ t ∈ ts := by
        rw [← mem_part ht, hsaid, List.mem_map]
        exact ⟨fun ⟨t', ht', heq⟩ => (warning_injective heq).2 ▸ ht', fun h => ⟨t, h, rfl⟩⟩
      have hwants : m.wants live times traffics ws n p = if t ∈ ts then [] else
        [warning live m t] := by
        rw [Measure.wants, hsmallest]
        simp [hfresh t ht, hmem, List.filter_cons]
      rw [hwants] at hafter
      by_cases hold : t ∈ ts
      · rw [if_pos hold, List.append_nil] at hafter
        obtain ⟨ts', hsaid', hts', hmem'⟩ := ih hn.2 hafter hts
          (fun x hx t' ht' => hle x hx t' (List.mem_cons_of_mem _ ht')) hfalling.2
        refine ⟨ts', hsaid', hts', fun x => ?_⟩
        rw [hmem', List.mem_cons]
        by_cases hx : x = t <;> simp [hx, hold]
      · rw [if_neg hold, ← List.map_singleton, ← List.map_append] at hafter
        have hdescending : (ts ++ [t]).Pairwise (· > ·) := by
          refine List.pairwise_append.mpr ⟨hts, List.pairwise_singleton _ _, fun x hx y hy => ?_⟩
          obtain rfl := List.mem_singleton.mp hy
          exact lt_of_le_of_ne (hle x hx y List.mem_cons_self) fun h => hold (h ▸ hx)
        have hbelow : ∀ x ∈ ts ++ [t], ∀ t' ∈ m.course live times traffics ps, t' ≤ x := by
          intro x hx t' ht'
          obtain hx | hx := List.mem_append.mp hx
          · exact hle x hx t' (List.mem_cons_of_mem _ ht')
          · obtain rfl := List.mem_singleton.mp hx
            exact hfalling.1 t' ht'
        obtain ⟨ts', hsaid', hts', hmem'⟩ := ih hn.2 hafter hdescending hbelow hfalling.2
        refine ⟨ts', hsaid', hts', fun x => ?_⟩
        rw [hmem', List.mem_append, List.mem_singleton, List.mem_cons, or_assoc]

/-- **In a gradual fall each threshold is notified of once**, from the largest to the smallest, if
every pass notifies as it should. -/
theorem Measure.Falls.said (hm : m.Falls live times traffics ws ps)
    (hts : (m.thresholds times traffics).Pairwise (· > ·))
    (hn : Machine.Always (Notified.after cfg batchSize)
      (fun n p => n.Notifies cfg batchSize live times traffics ws p) ⟨ws, []⟩ ps) :
    m.part live times traffics (Machine.run (Notified.after cfg batchSize) ⟨ws, []⟩ ps).said =
      (m.thresholds times traffics).map (warning live m) := by
  have hstart : m.part live times traffics [] = ([] : List ℤ).map (warning live m) := rfl
  obtain ⟨ts', hsaid, hts', hmem⟩ := part_said_run hm.fresh hn hstart .nil (by simp) hm.falling
  have hcourse : ∀ t ∈ m.course live times traffics ps, t ∈ m.thresholds times traffics := by
    intro t ht
    obtain ⟨p, -, hp⟩ := List.mem_filterMap.mp ht
    exact (Measure.smallest_iff.mp hp).1.1
  have heq : ts' = m.thresholds times traffics := by
    refine hts'.eq_of_mem_iff hts fun t => ?_
    rw [hmem, or_iff_right List.not_mem_nil]
    exact ⟨hcourse t, hm.all t⟩
  rw [hsaid, heq]

end Warnings

/-- **When every warning is given**: in a pass that reaches a threshold, the smallest one is the
largest, or the smallest was recorded at the beginning and the largest is recorded; and the largest,
if a pass has reached it before, is recorded.  Then a gradual fall notifies of each threshold once,
from the largest to the smallest. -/
theorem warnings_iff (cfg : Settings) (batchSize : ℕ) (live : Admin) (times traffics : List ℤ)
    (ws : List WarningEvent) (ps : List Pass)
    (hmeets : Machine.Always (Notified.after cfg batchSize)
      (fun n p => n.Meets cfg batchSize live times traffics p) ⟨ws, []⟩ ps) :
    (Machine.Always (Notified.after cfg batchSize)
        (fun n p => n.Notifies cfg batchSize live times traffics ws p) ⟨ws, []⟩ ps ∧
      ∀ m : Measure, m.Falls live times traffics ws ps → m.part live times traffics
        (Machine.run (Notified.after cfg batchSize) ⟨ws, []⟩ ps).said =
          (m.thresholds times traffics).map (warning live m)) ↔
    ∀ before p after, ps = before ++ p :: after →
      ∀ m : Measure, m.Fires live times traffics ws before p := by
  have hfires : Machine.Always (Notified.after cfg batchSize)
      (fun n p => n.Notifies cfg batchSize live times traffics ws p) ⟨ws, []⟩ ps ↔
        ∀ before p after, ps = before ++ p :: after →
          ∀ m : Measure, m.Fires live times traffics ws before p := by
    rw [Machine.always_iff_forall]
    refine forall_congr' fun before => forall_congr' fun p => forall_congr' fun after =>
      forall_congr' fun hps => ?_
    have hbefore := (Machine.always_append.mp (hps ▸ hmeets)).1
    refine notifies_iff (Machine.always_iff_forall.mp hmeets before p after hps) (fun m t => ?_)
      fun m t => ?_
    · rw [mem_recorded_run hbefore]
      rfl
    · rw [mem_said_run hbefore, or_iff_right List.not_mem_nil]
  rw [← hfires]
  refine and_iff_left_of_imp fun hn m hm => hm.said ?_ hn
  -- the thresholds of any pass are those of all of them
  cases ps with
  | nil =>
    have hnone : m.thresholds times traffics = [] :=
      List.eq_nil_iff_forall_not_mem.mpr fun t ht => List.not_mem_nil (hm.all t ht)
    rw [hnone]
    exact .nil
  | cons p ps => exact hmeets.1.descending m

namespace Falling

def settings : Settings :=
  { liveMode with timeWarningThresholds := [1, 3], trafficWarningThresholds := [20] }

def times : List ℤ := [3, 1]

def traffics : List ℤ := [20]

/-- The entitlement ends ten days after time zero, and its traffic is not limited. -/
def live : Admin := ⟨"shop", "reseller", "active", some (10 * day), none, 0, [], none⟩

def tables : Tables := ⟨[shop], [], [], [], [], [], [], [], [], [], []⟩

/-- Rebecca shows the admin, and every message is delivered. -/
def remote (now : Datetime) : Remote where
  clock := now
  answer _
    | .getAdmin username => .ok (if username = some "shop" then some live else none)
    | _ => .error ⟨.runtime, ""⟩
  deliver _ := .ok ()
  zoned := false

/-- A committed pass with the rest of the time. -/
def left (rest : Datetime) : Pass := ⟨tables, remote (10 * day - rest), some 0, true⟩

theorem meets {n : Notified} {rest : Datetime}
    (hreads : reading "shop" (n.pass settings 5 (left rest)).2 = some live)
    (hok : (n.pass settings 5 (left rest)).1.isOk = true) :
    n.Meets settings 5 live times traffics (left rest) where
  named := List.nodup_singleton _
  times := rfl
  traffics := rfl
  delivers _ := rfl
  fits _ username l h := by
    have hl : (if username = some "shop" then some live else none) = some l := Except.ok.inj h
    split_ifs at hl with hname
    rw [hname, ← Option.some.inj hl]
    rfl
  reads := by
    rw [show live.username = "shop" from rfl, hreads]
    rfl
  kept _ := hok

/-- Two days are left, and then a day and a half. -/
def beforeLastDay : List Pass := [left (2 * day), left (36 * hour)]

/-- Two days are left, and then half a day. -/
def toLastDay : List Pass := [left (2 * day), left (12 * hour)]

theorem meets_before : Machine.Always (Notified.after settings 5)
    (fun n p => n.Meets settings 5 live times traffics p) ⟨[], []⟩ beforeLastDay :=
  ⟨meets (by decide +kernel) (by decide +kernel), meets (by decide +kernel) (by decide +kernel),
    trivial⟩

theorem warned_of_three : Machine.Always (Notified.after settings 5)
      (fun n p => n.Notifies settings 5 live times traffics [] p) ⟨[], []⟩ beforeLastDay ∧
    ∀ m : Measure, m.Falls live times traffics [] beforeLastDay → m.part live times traffics
      (Machine.run (Notified.after settings 5) ⟨[], []⟩ beforeLastDay).said =
        (m.thresholds times traffics).map (warning live m) := by
  refine (warnings_iff settings 5 live times traffics [] beforeLastDay meets_before).mpr ?_
  have hsame : ∀ p ∈ beforeLastDay, p.kept = true ∧
      ∀ m : Measure, m.smallest live times traffics p = m.largest live times traffics p := by
    rw [beforeLastDay, List.forall_mem_cons, List.forall_mem_singleton]
    refine ⟨⟨rfl, fun m => ?_⟩, rfl, fun m => ?_⟩ <;> cases m <;> decide +kernel
  intro before p after hps m t M ht hM
  have hmem : ∀ q ∈ before, q ∈ beforeLastDay := by
    intro q hq
    rw [hps]
    exact List.mem_append_left _ hq
  have hp : p ∈ beforeLastDay := hps ▸ List.mem_append_right _ List.mem_cons_self
  refine ⟨.inl ?_, fun ⟨q, hq, hlargest⟩ => .inr ⟨q, hq, (hsame q (hmem q hq)).1, hlargest⟩⟩
  rw [(hsame p hp).2 m, hM] at ht
  exact (Option.some.inj ht).symm

theorem last_day_unsaid : Machine.Always (Notified.after settings 5)
      (fun n p => n.Meets settings 5 live times traffics p) ⟨[], []⟩ toLastDay ∧
    ¬Machine.Always (Notified.after settings 5)
      (fun n p => n.Notifies settings 5 live times traffics [] p) ⟨[], []⟩ toLastDay := by
  refine ⟨⟨meets (by decide +kernel) (by decide +kernel),
    meets (by decide +kernel) (by decide +kernel), trivial⟩, ?_⟩
  rintro ⟨-, hn, -⟩
  exact absurd (hn .TIME) (by decide +kernel)

end Falling

end ResellerBot
