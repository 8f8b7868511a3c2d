import ResellerBot.Scheduler.Sync
import ResellerBot.Children.Panel
import ResellerBot.Handlers.Customer

/-!
# ResellerBot.Schedule.Deadlines — deadlines that come back without a time zone

The clock has a time zone; what SQLite's driver hands back of the column `delete_after` in a later
session has none.
-/

open Interact

namespace ResellerBot

/-! ## Runs -/

/-- The rows of a run at the time `now`. -/
def selected (T : Tables) (batchSize : ℕ) (now : Datetime) : List ResellerUserCache :=
  match addHours now 24 with
  | .ok until_ => (Query.usersDue until_ batchSize).run T
  | .error _ => []

def resellerOf (T : Tables) (row : ResellerUserCache) : Option Reseller :=
  Rows.get Reseller.id T.resellers row.resellerId

/-- Deadlines have been read back without their time zone.  No datetime with a time zone is
compared with one that has none, and every row gets what it is due. -/
structure Processes (ar : Around) (cfg : Settings) (batchSize : ℕ) (w : Place) : Prop where
  subtracts : (Act.run ar.react Session.empty w.enter
    (dueDeletions cfg batchSize false)).1.1 ≠ .error Stamp.subtractError
  compares : (Act.run ar.react Session.empty w.enter
    (dueDeletions cfg batchSize false)).1.1 ≠ .error Stamp.compareError
  same : Act.run ar.react Session.empty w.enter (dueDeletions cfg batchSize false) =
    Act.run ar.react Session.empty w.enter (dueDeletions cfg batchSize true)

/-- The session between two rows that nothing has been done about. -/
structure Idle (ep : ℕ) (s : Session) : Prop where
  sound : s.broken = false
  clean : s.unflushed = []
  reseller : s.reseller = none
  epoch : s.epoch = ep

section Runs

variable {ar : Around} {cfg : Settings} {batchSize : ℕ} {s : Session} {t : Txn} {ep : ℕ}
  {now : Datetime} {row : ResellerUserCache} {rows : List ResellerUserCache}

/-- The session with the row in its variable. -/
def Session.holdingUser (s : Session) (row : ResellerUserCache) : Session :=
  Slot.user.put { s with pending := s.pending ++ s.stmtsOf Slot.user } (some ⟨some row, row⟩)

theorem Idle.holdingUser (h : Idle ep s) : Idle ep (s.holdingUser row) := by
  have hclean := h.clean
  simp only [Session.unflushed, List.append_eq_nil_iff] at hclean
  obtain ⟨⟨⟨⟨⟨hpending, horder⟩, hreseller⟩, hpayment⟩, htrial⟩, huser⟩ := hclean
  refine ⟨h.sound, ?_, h.reseller, h.epoch⟩
  have hparts : (s.holdingUser row).unflushed = (s.pending ++ s.stmtsOf .user) ++ s.stmtsOf .order ++
      s.stmtsOf .reseller ++ s.stmtsOf .payment ++ s.stmtsOf .trial ++
        updated .updateUser (fun u => [.insertUser u]) ⟨some row, row⟩ := rfl
  rw [hparts, hpending, horder, hreseller, hpayment, htrial, huser]
  simp [updated]

theorem Idle.flushed (h : Idle ep s) : Idle ep s.flushed := by
  refine ⟨h.sound, unflushed_flushed s, ?_, h.epoch⟩
  show s.reseller.map Session.clean = none
  rw [h.reseller]
  rfl

theorem Idle.run_hold (h : Idle ep s) :
    Act.run ar.react s t (Slot.user.holdLoaded ep row) = ((.ok (), s.holdingUser row), t) :=
  run_holdLoaded _ _ _ h.epoch _

theorem Idle.run_reseller (h : Idle ep s) :
    Act.run ar.react s t (query (.reseller row.resellerId)) =
      ((.ok (resellerOf t.working row), s.flushed), t) :=
  run_query_nil _ _ _ h.sound h.clean _

/-- The object in the variable is of no use for the reseller of a row. -/
theorem Idle.run_getByKey (h : Idle ep s) : Act.run ar.react s t
    (Slot.reseller.getByKey Reseller.id row.resellerId (query (.reseller row.resellerId))) =
      Act.run ar.react s t (Slot.reseller.load (query (.reseller row.resellerId))) := by
  have hget : Slot.reseller.get s = none := h.reseller
  rw [Slot.getByKey, Act.run_bind_ok _ _ _ _ (Act.run_state ..), hget]

/-- A row whose reseller is not stored is passed over. -/
theorem Idle.run_orphan (h : Idle ep s) (hnone : resellerOf t.working row = none)
    (zoned : Bool) :
    Act.run ar.react s t (dueDeletion cfg zoned now ep row) =
      ((.ok (), (s.holdingUser row).flushed), t) := by
  have hquery : Act.run ar.react (s.holdingUser row) t (query (.reseller row.resellerId)) = _ :=
    h.holdingUser.run_reseller
  rw [hnone] at hquery
  rw [dueDeletion, Act.run_bind_ok _ _ _ _ h.run_hold,
    Act.run_bind_ok _ _ _ _ (h.holdingUser.run_getByKey.trans (run_load_none _ hquery))]
  rfl

/-- The deadline of a row whose reseller is stored is subtracted from. -/
theorem Idle.run_owned (h : Idle ep s) {r : Reseller} (hr : resellerOf t.working row = some r)
    {d : Datetime} (hd : row.deleteAfter = some d) :
    (Act.run ar.react s t (dueDeletion cfg false now ep row)).1.1 =
      .error Stamp.subtractError := by
  have hquery : Act.run ar.react (s.holdingUser row) t (query (.reseller row.resellerId)) = _ :=
    h.holdingUser.run_reseller
  rw [hr] at hquery
  rw [dueDeletion, Act.run_bind_ok _ _ _ _ h.run_hold,
    Act.run_bind_ok _ _ _ _ (h.holdingUser.run_getByKey.trans (run_load_some _ hquery))]
  dsimp only
  rw [hd]
  rfl

/-- Rows whose resellers are not stored are passed over. -/
theorem Idle.run_orphans (h : Idle ep s) (hnone : ∀ row ∈ rows, resellerOf t.working row = none) :
    ∃ s', Idle ep s' ∧ ∀ zoned, Act.run ar.react s t
      (Act.forEach (dueDeletion cfg zoned now ep) rows) = ((.ok (), s'), t) := by
  induction rows generalizing s with
  | nil => exact ⟨s, h, fun _ => rfl⟩
  | cons row rows ih =>
    obtain ⟨hrow, hrows⟩ := List.forall_mem_cons.mp hnone
    obtain ⟨s', hs', hrun⟩ := ih h.holdingUser.flushed hrows
    refine ⟨s', hs', fun zoned => ?_⟩
    rw [Act.forEach, Act.run_bind_ok _ _ _ _ (h.run_orphan hrow zoned)]
    exact hrun zoned

/-- The first row whose reseller is stored ends the loop. -/
theorem Idle.run_rows (h : Idle ep s) (hd : ∀ row ∈ rows, row.deleteAfter ≠ none)
    (howned : ∃ row ∈ rows, resellerOf t.working row ≠ none) :
    (Act.run ar.react s t (Act.forEach (dueDeletion cfg false now ep) rows)).1.1 =
      .error Stamp.subtractError := by
  induction rows generalizing s with
  | nil =>
    obtain ⟨row, hmem, -⟩ := howned
    cases hmem
  | cons row rows ih =>
    obtain ⟨hrow, hrows⟩ := List.forall_mem_cons.mp hd
    rw [Act.forEach]
    cases hr : resellerOf t.working row with
    | none =>
      rw [Act.run_bind_ok _ _ _ _ (h.run_orphan hr false)]
      refine ih h.holdingUser.flushed hrows ?_
      obtain ⟨row', hmem, howned⟩ := howned
      obtain rfl | hmem := List.mem_cons.mp hmem
      · exact absurd hr howned
      · exact ⟨row', hmem, howned⟩
    | some r =>
      obtain ⟨d, hd⟩ := Option.ne_none_iff_exists'.mp hrow
      rw [Act.run_bind]
      have herr : (Act.run ar.react s t (dueDeletion cfg false now ep row)).1.1 =
          .error Stamp.subtractError := h.run_owned hr hd
      rcases hrun : Act.run ar.react s t (dueDeletion cfg false now ep row) with
        ⟨⟨res, s'⟩, t'⟩
      rw [hrun] at herr
      obtain rfl : res = .error Stamp.subtractError := herr
      rfl

end Runs

/-! ## What is processed -/

section Deadlines

variable {w : Place} {n : ℕ} {T : Tables} {now : Datetime} {row : ResellerUserCache}

theorem addHours_error {t : Datetime} {k : ℤ} {e : Err} (h : addHours t k = .error e) :
    e = overflowError := by
  unfold addHours timedelta at h
  split_ifs at h
  · replace h : addTimedelta t (k * hour) = .error e := h
    unfold addTimedelta at h
    split_ifs at h
    exact (Except.error.inj h).symm
  · exact (Except.error.inj h).symm

theorem deadline_of_selected (h : row ∈ selected T n now) : row.deleteAfter ≠ none := by
  unfold selected at h
  split at h
  · have hdue := (List.mem_filter.mp (List.mem_of_mem_take h)).2
    intro hnone
    rw [hnone] at hdue
    cases hdue
  · cases h

/-- What a run has done before its first row. -/
theorem run_dueDeletions (ar : Around) (cfg : Settings) (n : ℕ) (w : Place) :
    (selected w.tables n (ar.clock w.ticks) = [] ∧ ∃ s t, ∀ zoned,
      Act.run ar.react Session.empty w.enter (dueDeletions cfg n zoned) =
        ((.error overflowError, s), t)) ∨
    ∃ s t, Idle 0 s ∧ t.working = w.tables ∧ ∀ zoned,
      Act.run ar.react Session.empty w.enter (dueDeletions cfg n zoned) =
        Act.run ar.react s t (Act.forEach (dueDeletion cfg zoned (ar.clock w.ticks) 0)
          (selected w.tables n (ar.clock w.ticks))) := by
  have hforget : Act.run ar.react Session.empty w.enter Slot.reseller.forget =
      ((.ok (), Session.empty), w.enter) := rfl
  have hnow : Act.run ar.react Session.empty w.enter now =
      ((.ok (ar.clock w.ticks), Session.empty), { w.enter with ticks := w.ticks + 1 }) := rfl
  cases huntil : addHours (ar.clock w.ticks) 24 with
  | error e =>
    obtain rfl := addHours_error huntil
    refine .inl ⟨by rw [selected, huntil], Session.empty,
      { w.enter with ticks := w.ticks + 1 }, fun zoned => ?_⟩
    rw [dueDeletions, Act.run_bind_ok _ _ _ _ hforget, Act.run_bind_ok _ _ _ _ hnow,
      huntil]
    rfl
  | ok until_ =>
    have hquery : Act.run ar.react Session.empty { w.enter with ticks := w.ticks + 1 }
        (query (.usersDue until_ n)) = ((.ok ((Query.usersDue until_ n).run w.tables),
          Session.empty.flushed), { w.enter with ticks := w.ticks + 1 }) :=
      run_query_nil _ _ _ rfl rfl _
    refine .inr ⟨Session.empty.flushed, { w.enter with ticks := w.ticks + 1 },
      ⟨rfl, rfl, rfl, rfl⟩, rfl, fun zoned => ?_⟩
    rw [dueDeletions, Act.run_bind_ok _ _ _ _ hforget, Act.run_bind_ok _ _ _ _ hnow,
      huntil, Act.run_bind_ok _ _ _ _ (Act.run_outcome ..), Act.run_bind_ok _ _ _ _ hquery,
      selected, huntil]
    rfl

end Deadlines

/-- **With deadlines that come back without a time zone, the run does what it is for if and only
if there is nothing to do: no row that it selects has a reseller.** -/
theorem processes_iff (ar : Around) (cfg : Settings) (batchSize : ℕ) (w : Place) :
    Processes ar cfg batchSize w ↔ ∀ row ∈ selected w.tables batchSize (ar.clock w.ticks),
      resellerOf w.tables row = none := by
  obtain ⟨hnil, s, t, hrun⟩ | ⟨s, t, hidle, hw, hrun⟩ := run_dueDeletions ar cfg batchSize w
  · rw [hnil]
    refine iff_of_true ⟨?_, ?_, ?_⟩ fun _ h => by cases h
    · rw [hrun]
      simp [overflowError, Stamp.subtractError]
    · rw [hrun]
      simp [overflowError, Stamp.compareError]
    · rw [hrun, hrun]
  · constructor
    · intro h row hrow
      by_contra howned
      refine h.subtracts ?_
      rw [hrun]
      exact hidle.run_rows (fun row hrow => deadline_of_selected hrow) ⟨row, hrow, by rwa [hw]⟩
    · intro hnone
      obtain ⟨s', -, horphans⟩ : ∃ s', Idle 0 s' ∧ ∀ zoned, Act.run ar.react s t
          (Act.forEach (dueDeletion cfg zoned (ar.clock w.ticks) 0)
            (selected w.tables batchSize (ar.clock w.ticks))) = ((.ok (), s'), t) :=
        hidle.run_orphans (by rwa [hw])
      refine ⟨?_, ?_, ?_⟩
      · rw [hrun, horphans]
        rintro ⟨⟩
      · rw [hrun, horphans]
        rintro ⟨⟩
      · rw [hrun, hrun, horphans, horphans]

/-! ## One row -/

namespace Overdue

def around : Around where
  clock _ := day
  draw _ := 0
  token _ := ""
  deliver _ := .ok ()
  member _ := .ok ""
  transaction _ _ := .error ⟨.runtime, ""⟩

def cfg : Settings :=
  ⟨"", [9], "", false, true, true, true, 72, 24, 10, [3, 1], [20], false, "", ""⟩

def reseller : Reseller :=
  { newReseller 5 none with id := 1, rebeccaAdminUsername := some "shop", status := .ACTIVE }

def kid : User := ⟨"kid", some "shop", "disabled", some 0, none, false, 0⟩

/-- A user whose grace has ended with the first second. -/
def cached : ResellerUserCache :=
  { seen kid 0 (newUser reseller kid) with
    id := 1
    dataLimit := some 0
    localStatus := .EXPIRED
    expiredDetectedAt := some 0
    deleteAfter := some second
    disabledByOwnExpiry := true }

def world : Place where
  tables := ⟨[reseller], [], [], [], [], [cached], [], [], [], [], []⟩
  panel := { admins := fun _ => none, createdFor := fun _ => none, users := fun _ => none,
             names := [], bulk := false }
  ticks := 0

/-- The deadline passed almost a day ago, and the user stays. -/
theorem unprocessed : ¬Processes around cfg 50 world := by
  rw [processes_iff]
  intro h
  have hnone : resellerOf world.tables cached = none := h cached (by decide +kernel)
  exact absurd hnone (by decide)

end Overdue

end ResellerBot
