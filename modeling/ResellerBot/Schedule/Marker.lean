import ResellerBot.Schedule.History
import ResellerBot.Since

/-!
# ResellerBot.Schedule.Marker — who has disabled a user

`disabled_by_own_expiry` marks the users that the bot has disabled because they were exhausted, so
that a renewal enables them again.
-/

open Interact

namespace ResellerBot

/-- The calls of a visit begin with the disable of the user. -/
def Attempted (username : String) (asked : List Asked) : Prop :=
  ∃ r rest, asked = ⟨.disableUser username, r⟩ :: rest

/-- The user was disabled, and a read has shown it. -/
def Disabled (username : String) (asked : List Asked) : Prop :=
  ∃ v : User, asked = [⟨.disableUser username, .ok ()⟩, ⟨.getUser username, .ok (some v)⟩] ∧
    isDisabled v.status = true

/-- The user was enabled, and a read has shown it. -/
def Reenabled (username : String) (asked : List Asked) : Prop :=
  ∃ v : User, asked = [⟨.enableUser username, .ok ()⟩, ⟨.getUser username, .ok (some v)⟩] ∧
    isActive v.status = true

/-- A visit to the user under `k` has tried to disable it. -/
def Record.Attempts (r : Record) (k : ℕ × String) : Prop :=
  r.visit.key = k ∧ Attempted k.2 r.asked

/-- The last attempt to disable the user was not verified. -/
def Owed (k : ℕ × String) : List Record → Prop :=
  Since (fun r => r.Attempts k ∧ ¬Disabled k.2 r.asked) (¬·.Attempts k)

def Marked (T : Tables) (k : ℕ × String) : Prop :=
  ∃ u, findUser T k = some u ∧ u.disabledByOwnExpiry = true

/-- What is promised of a turn: an attempt that is owed is made, and a marker goes only when the
user was enabled. -/
structure Booked (b : Book) (t : Turn) : Prop where
  again : ∀ cfg o reseller now graceHours live,
    t = .visit cfg o (.listed reseller now graceHours live) →
    verifiedOwner live reseller.rebeccaAdminUsername = true → live.isExhausted now = true →
    Owed (reseller.id, live.username) b.log →
    Attempted live.username (o.visit cfg (.listed reseller now graceHours live) b.working).2
  cleared : ∀ k, Marked b.working k → ¬Marked (b.next t).working k →
    ∃ cfg o v, t = .visit cfg o v ∧ v.key = k ∧ Reenabled k.2 (o.visit cfg v b.working).2

/-- Live mode with disable actions. -/
def Live : Turn → Prop
  | .visit cfg _ (.listed _ _ _ _) => cfg.mayDisable
  | _ => True

/-- The read that verifies a disable shows the user disabled, and the deadline of a user that is
owed an attempt is a date; a marked user is renewed while its reseller is active; and a run is not
abandoned that has marked a user, or that owes an attempt for a row which has a detection again. -/
def Orderly (b : Book) : Turn → Prop
  | .visit _ o (.listed reseller now graceHours live) =>
    let row := findUser b.working (reseller.id, live.username)
    verifiedOwner live reseller.rebeccaAdminUsername = true →
    if live.isExhausted now = true then
      row.bind (·.expiredDetectedAt) = none →
        (Owed (reseller.id, live.username) b.log →
          ∃ deadline, deletionTime now graceHours = .ok deadline) ∧
        ∀ v, o.answer [⟨.disableUser live.username, .ok ()⟩] (.getUser live.username) = .ok v →
          (v.map (isDisabled ·.status)).getD false = true
    else ∀ u, row = some u → u.deleteAfter.isSome → u.disabledByOwnExpiry = true →
      reseller.status = .ACTIVE
  | .abandon => (∀ k, Marked b.working k → Marked b.committed k) ∧
      ∀ k, Owed k b.log → ∀ u, findUser b.committed k = some u → u.expiredDetectedAt = none
  | _ => True

section Step

variable {o : Remote} {cfg : Settings} {T : Tables} {reseller : Reseller} {now : Datetime}
  {graceHours : ℤ} {live : User} {u : ResellerUserCache} {d : Ledger}
  {out : Except Err (ResellerUserCache × List Stmt)} {zoned : Bool}

/-- A visit to an exhausted user without a detection tries to disable it. -/
theorem Synced.attempted (h : Synced o.react cfg reseller now graceHours live u ⟨T, []⟩ out d)
    (on : cfg.mayDisable) (hx : live.isExhausted now = true) (hn : u.expiredDetectedAt = none)
    (ht : ∃ deadline, deletionTime now graceHours = .ok deadline) :
    Attempted live.username d.asked := by
  cases h with
  | waiting _ hd =>
    rw [hn] at hd
    cases hd
  | late _ _ he =>
    obtain ⟨_, ht⟩ := ht
    rw [he] at ht
    cases ht
  | planned _ _ _ off => exact absurd on off
  | disableRaised _ _ _ _ h₁ =>
    obtain ⟨-, rfl⟩ := ledger_call h₁
    exact ⟨_, _, rfl⟩
  | disableUnread _ _ _ _ h₁ h₂ | undisabled _ _ _ _ h₁ h₂ | disabled _ _ _ _ h₁ h₂ =>
    obtain ⟨-, rfl⟩ := ledger_call h₁
    obtain ⟨-, rfl⟩ := ledger_call h₂
    exact ⟨_, _, rfl⟩
  | fine hf | cleared hf | enableRaised hf | enableUnread hf | refused hf | reenabled hf =>
    rw [hx] at hf
    cases hf

/-- A visit that returns after an attempt has found the user disabled, when the read shows it. -/
theorem Synced.disabled_of_attempted {u' : ResellerUserCache} {sts : List Stmt}
    (h : Synced o.react cfg reseller now graceHours live u ⟨T, []⟩ (.ok (u', sts)) d)
    (hv : live.isExhausted now = true → u.expiredDetectedAt = none → ∀ v,
      o.answer [⟨.disableUser live.username, .ok ()⟩] (.getUser live.username) = .ok v →
      (v.map (isDisabled ·.status)).getD false = true)
    (ha : Attempted live.username d.asked) : Disabled live.username d.asked := by
  have hempty : ¬Attempted live.username [] := by
    rintro ⟨_, _, h⟩
    cases h
  cases h with
  | waiting | planned | fine | cleared => exact absurd ha hempty
  | undisabled hx hd _ _ h₁ h₂ hn =>
    obtain ⟨-, rfl⟩ := ledger_call h₁
    obtain ⟨hans, -⟩ := ledger_call h₂
    rw [hv hx hd _ hans.symm] at hn
    cases hn
  | @disabled _ v _ _ _ _ _ _ h₁ h₂ hs =>
    obtain ⟨-, rfl⟩ := ledger_call h₁
    obtain ⟨-, rfl⟩ := ledger_call h₂
    cases v with
    | none => cases hs
    | some v => exact ⟨v, rfl, hs⟩
  | refused _ _ _ h₁ h₂ | reenabled _ _ _ h₁ h₂ =>
    obtain ⟨-, rfl⟩ := ledger_call h₁
    obtain ⟨-, rfl⟩ := ledger_call h₂
    obtain ⟨_, _, h⟩ := ha
    cases h

/-- Without an attempt a visit detects nothing. -/
theorem Synced.undetected {u' : ResellerUserCache} {sts : List Stmt}
    (h : Synced o.react cfg reseller now graceHours live u ⟨T, []⟩ (.ok (u', sts)) d)
    (on : cfg.mayDisable) (hu : u.expiredDetectedAt = none)
    (ha : ¬Attempted live.username d.asked) : u'.expiredDetectedAt = none := by
  cases h with
  | waiting | fine | refused => exact hu
  | planned _ _ _ off => exact absurd on off
  | undisabled _ _ _ _ h₁ h₂ | disabled _ _ _ _ h₁ h₂ =>
    obtain ⟨-, rfl⟩ := ledger_call h₁
    obtain ⟨-, rfl⟩ := ledger_call h₂
    exact absurd ⟨_, _, rfl⟩ ha
  | cleared | reenabled => rfl

/-- A marker goes when the user was enabled, or when its reseller is not active. -/
theorem Synced.unmarked {u' : ResellerUserCache} {sts : List Stmt}
    (h : Synced o.react cfg reseller now graceHours live u ⟨T, []⟩ (.ok (u', sts)) d)
    (on : cfg.mayDisable) (hu : u.disabledByOwnExpiry = true) :
    u'.disabledByOwnExpiry = true ∨ Reenabled live.username d.asked ∨
      live.isExhausted now = false ∧ u.deleteAfter.isSome ∧ reseller.status ≠ .ACTIVE := by
  cases h with
  | waiting | planned | undisabled | fine | refused => exact .inl hu
  | disabled => exact .inl rfl
  | cleared hx hd off =>
    exact .inr (.inr ⟨hx, hd, fun hs => off ⟨hu, hs, on.1⟩⟩)
  | @reenabled v _ _ _ _ _ h₁ h₂ hs =>
    obtain ⟨-, rfl⟩ := ledger_call h₁
    obtain ⟨-, rfl⟩ := ledger_call h₂
    cases v with
    | none => cases hs
    | some v => exact .inr (.inl ⟨v, rfl, hs⟩)

/-- A visit for a deadline disables nobody. -/
theorem Reaped.not_attempted {deadline : Datetime} {row : ResellerUserCache} {username : String}
    (h : Reaped o.react cfg zoned reseller deadline now row ⟨T, []⟩ out d) :
    ¬Attempted username d.asked := by
  have hdel : ∀ {u γ₁ γ₂ r}, Reminded o.react reseller deadline now row ⟨T, []⟩ u γ₁ →
      Deleting o.react row.username row.rebeccaAdminUsername (.aware deadline) now
        cfg.deletePolicy (row.deletionHold || reseller.automationHold) false γ₁ r γ₂ →
      ¬Attempted username γ₂.asked := by
    rintro u γ₁ γ₂ r hw hdel ⟨_, _, ha⟩
    obtain rfl := hw.ledger
    cases hdel with
    | uncompared | refused => cases ha
    | unread _ h₁ | missing _ h₁ | mismatch _ h₁ | renewed _ h₁ =>
      obtain ⟨-, rfl⟩ := ledger_call h₁
      cases ha
    | deleteRaised _ h₁ _ _ h₂ =>
      obtain ⟨-, rfl⟩ := ledger_call h₁
      obtain ⟨-, rfl⟩ := ledger_call h₂
      cases ha
    | unconfirmed _ h₁ _ _ h₂ h₃ | survived _ h₁ _ _ h₂ h₃ | deleted _ h₁ _ _ h₂ h₃ =>
      obtain ⟨-, rfl⟩ := ledger_call h₁
      obtain ⟨-, rfl⟩ := ledger_call h₂
      obtain ⟨-, rfl⟩ := ledger_call h₃
      cases ha
  cases h with
  | unzoned =>
    rintro ⟨_, _, ha⟩
    cases ha
  | kept _ hw h | gone _ hw h | raised _ hw h => exact hdel hw h

/-- A visit for a deadline leaves the detection and the marker. -/
theorem Reaped.untouched {deadline : Datetime} {row : ResellerUserCache} {sts : List Stmt}
    (h : Reaped o.react cfg zoned reseller deadline now row ⟨T, []⟩ (.ok (u, sts)) d) :
    u.expiredDetectedAt = row.expiredDetectedAt ∧
      u.disabledByOwnExpiry = row.disabledByOwnExpiry := by
  cases h with
  | kept _ hw | gone _ hw => cases hw <;> exact ⟨rfl, rfl⟩

end Step

/-! ## Histories -/

section Runs

variable {b : Book} {t : Turn} {o : Remote} {cfg : Settings} {T : Tables}
  {reseller : Reseller} {now : Datetime} {graceHours : ℤ} {live : User} {row : ResellerUserCache}

theorem bind_undetected {found : Option ResellerUserCache}
    (h : ∀ u, found = some u → u.expiredDetectedAt = none) :
    found.bind (·.expiredDetectedAt) = none := by
  cases found with
  | none => rfl
  | some u => exact h u rfl

/-- The rows that are owed an attempt have no detection. -/
def Waiting (T : Tables) (log : List Record) : Prop :=
  ∀ k, Owed k log → ∀ u, findUser T k = some u → u.expiredDetectedAt = none

theorem waiting_listed (hw : Waiting b.working b.log) (hk : Known b.working.users)
    (on : cfg.mayDisable) (hm : Orderly b (.visit cfg o (.listed reseller now graceHours live)))
    (h : (o.visit cfg (.listed reseller now graceHours live) b.working).1 = .ok T) :
    Waiting T (b.log ++ [b.record cfg o (.listed reseller now graceHours live)]) := by
  intro k ho u hu
  cases hv : verifiedOwner live reseller.rebeccaAdminUsername with
  | false =>
    -- a visit that makes no calls
    have hvis := visit_other o cfg b.working now graceHours hv
    rw [hvis] at h
    cases h
    rcases since_concat.mp ho with ⟨⟨-, ha⟩, -⟩ | ⟨ho, -⟩
    · obtain ⟨_, _, ha⟩ := ha
      rw [show (b.record cfg o _).asked = [] by rw [Book.record, hvis]] at ha
      cases ha
    · exact hw k ho u hu
  | true =>
    obtain ⟨u', sts, d, hs, hasked, ⟨w, hfw, he⟩, hother⟩ := listed_returned hk hv h
    by_cases hkey : k = (reseller.id, live.username)
    · subst hkey
      obtain rfl : w = u := Option.some.inj (hfw.symm.trans hu)
      have hread : live.isExhausted now = true → (current reseller now live
          (findUser b.working (reseller.id, live.username))).expiredDetectedAt = none → ∀ v,
          o.answer [⟨.disableUser live.username, .ok ()⟩] (.getUser live.username) = .ok v →
          (v.map (isDisabled ·.status)).getD false = true := by
        intro hx hn
        have hm := hm hv
        rw [if_pos hx] at hm
        exact (hm ((current_undetected ..).symm.trans hn)).2
      rcases since_concat.mp ho with ⟨⟨-, ha⟩, hnd⟩ | ⟨ho, hna⟩
      · rw [show (b.record cfg o _).asked = d.asked from hasked] at ha hnd
        exact absurd (hs.disabled_of_attempted hread ha) hnd
      · have hn := bind_undetected (hw _ ho)
        rw [← current_undetected reseller now live] at hn
        rw [he]
        refine hs.undetected on hn fun ha => hna ⟨rfl, ?_⟩
        rw [show (b.record cfg o _).asked = d.asked from hasked]
        exact ha
    · rcases since_concat.mp ho with ⟨⟨hkr, -⟩, -⟩ | ⟨ho, -⟩
      · exact absurd hkr.symm hkey
      · rw [hother k hkey] at hu
        exact hw k ho u hu

theorem waiting_due (hw : Waiting b.working b.log) (hk : Known b.working.users)
    (hp : (UserVisit.due now row).Possible b.working)
    (h : (o.visit cfg (.due now row) b.working).1 = .ok T) :
    Waiting T (b.log ++ [b.record cfg o (.due now row)]) := by
  intro k ho u hu
  have hfind := hk.find hp.1
  rcases due_returned hk hp h with ⟨rfl, hasked⟩ | ⟨_, _, u', sts, d, _, _, hr, hasked, ⟨w, hfw, he⟩, hother⟩
  · rcases since_concat.mp ho with ⟨⟨-, ha⟩, -⟩ | ⟨ho, -⟩
    · obtain ⟨_, _, ha⟩ := ha
      rw [show (b.record cfg o _).asked = [] from hasked] at ha
      cases ha
    · exact hw k ho u hu
  · rcases since_concat.mp ho with ⟨⟨-, ha⟩, -⟩ | ⟨ho, -⟩
    · rw [show (b.record cfg o _).asked = d.asked from hasked] at ha
      exact absurd ha hr.not_attempted
    · by_cases hkey : k = row.key
      · subst hkey
        obtain rfl : w = u := Option.some.inj (hfw.symm.trans hu)
        rw [he]
        exact hr.untouched.1.trans (hw _ ho row hfind)
      · rw [hother k hkey] at hu
        exact hw k ho u hu

theorem Waiting.elsewhere {log : List Record} {T' : Tables} (hw : Waiting T log)
    (h : Elsewhere T T') : Waiting T' log := by
  intro k ho u hu
  obtain ⟨w, hfw, _, _, rfl⟩ := h.find hu
  exact hw k ho w hfw

theorem History.waiting (h : History (fun _ => True) (fun b t => Live t ∧ Orderly b t) b)
    (hf : b.failed = false) : Waiting b.working b.log := by
  induction h with
  | start => exact fun k ho => absurd ho not_since_nil
  | @turn b hb t hp hm ih =>
    cases t with
    | visit cfg o v =>
      cases hv : (o.visit cfg v b.working).1 with
      | ok T =>
        rw [Book.next_ok hv]
        cases v with
        | listed => exact waiting_listed (ih hp.1) hb.known.1 hm.1 hm.2 hv
        | due => exact waiting_due (ih hp.1) hb.known.1 hp.2 hv
      | error e =>
        rw [Book.next_error hv] at hf
        cases hf
    | commit => exact ih hp
    | abandon => exact hm.2.2
    | other T => exact (ih hp.1).elsewhere hp.2

/-- A visit for a deadline keeps every marker. -/
theorem marked_due {k : ℕ × String} (hk : Known b.working.users)
    (hp : (UserVisit.due now row).Possible b.working)
    (h : (o.visit cfg (.due now row) b.working).1 = .ok T) (hm : Marked b.working k) :
    Marked T k := by
  have hfind := hk.find hp.1
  rcases due_returned hk hp h with ⟨rfl, -⟩ | ⟨_, _, u', sts, d, _, _, hr, -, ⟨w, hfw, he⟩, hother⟩
  · exact hm
  · obtain ⟨u, hu, hmark⟩ := hm
    by_cases hkey : k = row.key
    · subst hkey
      obtain rfl : row = u := Option.some.inj (hfind.symm.trans hu)
      refine ⟨w, hfw, ?_⟩
      rw [he]
      exact hr.untouched.2.trans hmark
    · exact ⟨u, (hother k hkey).trans hu, hmark⟩

/-- A visit to a listed user takes a marker only when it has enabled the user. -/
theorem marked_listed {k : ℕ × String} (hk : Known b.working.users) (on : cfg.mayDisable)
    (hor : Orderly b (.visit cfg o (.listed reseller now graceHours live)))
    (h : (o.visit cfg (.listed reseller now graceHours live) b.working).1 = .ok T)
    (hm : Marked b.working k) : Marked T k ∨ (reseller.id, live.username) = k ∧
      Reenabled k.2 (o.visit cfg (.listed reseller now graceHours live) b.working).2 := by
  cases hv : verifiedOwner live reseller.rebeccaAdminUsername with
  | false =>
    rw [visit_other _ _ _ _ _ hv] at h
    cases h
    exact .inl hm
  | true =>
    obtain ⟨u', sts, d, hs, hasked, ⟨w, hfw, he⟩, hother⟩ := listed_returned hk hv h
    obtain ⟨u, hu, hmark⟩ := hm
    by_cases hkey : k = (reseller.id, live.username)
    · subst hkey
      rw [hu] at hs
      rcases hs.unmarked on hmark with hmark | hre | ⟨hx, hd, hne⟩
      · refine .inl ⟨w, hfw, ?_⟩
        rw [he]
        exact hmark
      · exact .inr ⟨rfl, hasked.symm ▸ hre⟩
      · have hor := hor hv
        rw [if_neg (by rw [hx]; decide)] at hor
        exact absurd (hor u hu hd hmark) hne
    · exact .inl ⟨u, (hother k hkey).trans hu, hmark⟩

/-- **The marker.**  In a history of live visits that are all orderly, an attempt that is owed is
made at the next visit that sees the user exhausted, and a marker goes only when the user was
enabled and seen active. -/
theorem marker_kept (h : History (fun _ => True) (fun b t => Live t ∧ Orderly b t) b) (hp : b.Possible t)
    (hl : Live t) (ho : Orderly b t) : Booked b t where
  again := by
    rintro cfg o reseller now graceHours live rfl hv hx howed
    obtain ⟨out, d, hs, hasked, -⟩ := visit_listed o cfg now graceHours h.known.1 hv
    have hn := bind_undetected (h.waiting hp.1 _ howed)
    have ho := ho hv
    rw [if_pos hx] at ho
    rw [hasked]
    exact hs.attempted hl hx ((current_undetected ..).trans hn) ((ho hn).1 howed)
  cleared := by
    intro k hm hnot
    cases t with
    | visit cfg o v =>
      cases hv : (o.visit cfg v b.working).1 with
      | ok T =>
        rw [Book.next_ok hv] at hnot
        cases v with
        | listed reseller now graceHours live =>
          rcases marked_listed h.known.1 hl ho hv hm with hm | hre
          · exact absurd hm hnot
          · exact ⟨cfg, o, _, rfl, hre⟩
        | due now row => exact absurd (marked_due h.known.1 hp.2 hv hm) hnot
      | error e =>
        rw [Book.next_error hv] at hnot
        exact absurd hm hnot
    | commit => exact absurd hm hnot
    | abandon => exact absurd (ho.1 k hm) hnot
    | other T =>
      obtain ⟨u, hu, hmark⟩ := hm
      obtain ⟨w, hw, _, _, rfl⟩ := hp.2.find_some hu
      exact absurd ⟨_, hw, hmark⟩ hnot

end Runs

/-- Bob is exhausted, and `disable_user` raises. -/
def bobIsSpared : Turn :=
  .visit liveMode { scripted fun _ => none with answer := fun _ _ => .error ⟨.rebecca, ""⟩ }
    (.listed shop 0 72 (bobLive "active" 10))

/-- An attempt that has raised is owed after its run was abandoned, and is made; then bob is marked,
and his marker goes when he is enabled. -/
def sparedBob : Book := (opened.next bobIsSpared).next .abandon

theorem history_sparedBob :
    History (fun _ => True) (fun b t => Live t ∧ Orderly b t) sparedBob := by
  have h₀ : History (fun _ => True) (fun b t => Live t ∧ Orderly b t) opened :=
    .start known_nil (List.forall_mem_nil _)
  have hspared : Orderly opened bobIsSpared := by
    intro _ _
    refine ⟨fun ho => absurd ho not_since_nil, ?_⟩
    rintro v ⟨⟩
  have h₁ := h₀.turn bobIsSpared ⟨rfl, trivial⟩ ⟨⟨rfl, rfl⟩, hspared⟩
  refine h₁.turn .abandon trivial ⟨trivial, ?_, ?_⟩
  · rintro k ⟨u, hu, -⟩
    cases hu
  · intro k _ u hu
    cases hu

theorem orderly_sparedBob : Orderly sparedBob bobExpires := by
  intro _ _
  refine ⟨fun _ => ⟨72 * hour, rfl⟩, ?_⟩
  rintro _ ⟨⟩
  decide

/-- The attempt that is owed is made, and the marker that it has set goes with the enable. -/
theorem marker_kept_sparedBob :
    Booked sparedBob bobExpires ∧
      Booked (sparedBob.next bobExpires) (bobIsRenewed (10 * hour) "active") := by
  have h₁ := history_sparedBob.turn bobExpires ⟨rfl, trivial⟩ ⟨⟨rfl, rfl⟩, orderly_sparedBob⟩
  refine ⟨marker_kept history_sparedBob ⟨rfl, trivial⟩ ⟨rfl, rfl⟩ orderly_sparedBob, ?_⟩
  exact marker_kept h₁ ⟨rfl, trivial⟩ ⟨rfl, rfl⟩ fun _ _ _ _ _ => rfl

/-- Rebecca does not disable bob. -/
def bobStays : Turn :=
  .visit liveMode (scripted fun _ => some (bobLive "active" 10))
    (.listed shop 0 72 (bobLive "active" 10))

/-- Bob is renewed while his reseller has expired. -/
def bobIsStranded : Turn :=
  .visit liveMode (scripted fun _ => none)
    (.listed { shop with status := .EXPIRED } hour 72 (bobLive "disabled" 0))

/-- An attempt that was not verified is not made again, and a marker is cleared without enabling
the user. -/
theorem marker_not_kept :
    (∃ b, History (fun _ => True) (fun _ => Live) b ∧ b.Possible bobStays ∧ Live bobStays ∧
      Owed (1, "bob") b.log ∧ ¬Booked b bobStays) ∧
    ∃ b, History (fun _ => True) (fun _ => Live) b ∧ b.Possible bobIsStranded ∧
      Live bobIsStranded ∧ Marked b.working (1, "bob") ∧ ¬Booked b bobIsStranded := by
  have h₀ : History (fun _ => True) (fun _ => Live) opened :=
    .start known_nil (List.forall_mem_nil _)
  constructor
  · have howed : Owed (1, "bob") (opened.next bobStays).log := by
      refine since_concat.mpr (.inl ⟨⟨rfl, _, _, rfl⟩, ?_⟩)
      rintro ⟨v, hv, hs⟩
      cases hv
      exact absurd hs (by decide)
    refine ⟨_, h₀.turn bobStays ⟨rfl, trivial⟩ ⟨rfl, rfl⟩, ⟨rfl, trivial⟩, ⟨rfl, rfl⟩, howed,
      fun h => ?_⟩
    obtain ⟨_, _, ha⟩ := h.again _ _ _ _ _ _ rfl rfl rfl howed
    cases ha
  · have hmark : Marked (opened.next bobExpires).working (1, "bob") := ⟨bobRow, rfl, rfl⟩
    refine ⟨_, h₀.turn bobExpires ⟨rfl, trivial⟩ ⟨rfl, rfl⟩, ⟨rfl, trivial⟩, ⟨rfl, rfl⟩, hmark,
      fun h => ?_⟩
    have hgone : ¬Marked ((opened.next bobExpires).next bobIsStranded).working (1, "bob") := by
      rintro ⟨u, hu, hm⟩
      cases hu
      cases hm
    obtain ⟨_, _, _, ht, -, v, ha, -⟩ := h.cleared _ hmark hgone
    cases ht
    cases ha

end ResellerBot
