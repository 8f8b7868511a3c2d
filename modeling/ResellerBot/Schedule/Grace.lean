import ResellerBot.Schedule.History
import ResellerBot.Since

/-!
# ResellerBot.Schedule.Grace — a deletion comes a full grace period after the expiry

The bot deletes a user when its grace hours have passed since an expiry was detected, and no live
read since has shown the user renewed.
-/

open Interact

namespace ResellerBot

/-- The users that Rebecca has shown to the calls. -/
def usersRead (asked : List Asked) : List User :=
  asked.filterMap fun
    | ⟨.getUser _, .ok v⟩ => v
    | _ => none

/-- Every live read of the user of this name shows it exhausted. -/
def Record.Shows (r : Record) (name : String) : Prop :=
  r.visit.key.2 = name →
    match r.visit with
    | .listed _ now _ live =>
      live.isExhausted now = true ∧ ∀ v ∈ usersRead r.asked, v.isExhausted now = true
    | .due now _ => ∀ v ∈ usersRead r.asked, v.isExhausted now = true

/-- The end of the grace period that a detection starts. -/
def Record.Ends (r : Record) (deadline : Datetime) : Prop :=
  match r.visit with
  | .listed _ now graceHours _ => deadline = now + graceHours * hour
  | .due _ _ => False

/-- An expiry was detected whose grace period ends at the deadline, and every live read since shows
the user exhausted. -/
def Graced (k : ℕ × String) (deadline : Datetime) : List Record → Prop :=
  Since (fun r => r.Detects k ∧ r.Ends deadline ∧ r.Shows k.2) (·.Shows k.2)

/-- What is promised of a visit that deletes a user: its grace period is over, and the read before
the deletion shows it exhausted. -/
def Fair (b : Book) : Turn → Prop
  | .visit cfg o (.due now row) =>
    let asked := (o.visit cfg (.due now row) b.working).2
    (∃ name r, ⟨.deleteUser name, r⟩ ∈ asked) →
      (∃ deadline, deadline ≤ now ∧ Graced row.key deadline b.log) ∧
        ∃ v rest, asked = ⟨.getUser row.username, .ok (some v)⟩ :: rest ∧ v.isExhausted now = true
  | _ => True

/-- Every deadline is the end of a grace period. -/
def AllGraced (T : Tables) (log : List Record) : Prop :=
  ∀ k u deadline, findUser T k = some u → u.deleteAfter = some deadline → Graced k deadline log

/-- What is promised of a turn and of the rows it finds: a deletion is fair, and so is every
deadline that is pending, so that a renewal has cancelled those before it. -/
structure Fresh (b : Book) (t : Turn) : Prop where
  deletion : Fair b t
  pending : b.failed = false → AllGraced b.working b.log

/-- A renewed user that has a deadline is listed for the row with the deadline, as an owned user,
and found active when it was enabled; a user that was disabled as exhausted, or is read for its
deadline, is still exhausted; and a run is not abandoned that has seen a user renewed whose
committed row has a deadline. -/
def Watchful (b : Book) : Turn → Prop
  | .visit cfg o (.listed reseller now graceHours live) =>
    if live.isExhausted now = true then
      ∀ v ∈ usersRead (o.visit cfg (.listed reseller now graceHours live) b.working).2,
        v.isExhausted now = true
    else ∀ k u, k.2 = live.username → findUser b.working k = some u → u.deleteAfter.isSome →
      k.1 = reseller.id ∧ verifiedOwner live reseller.rebeccaAdminUsername = true ∧
        (mayEnable cfg reseller u → ∀ v,
          o.answer [⟨.enableUser live.username, .ok ()⟩] (.getUser live.username) = .ok v →
            (v.map (isActive ·.status)).getD false = true)
  | .visit cfg o (.due now row) =>
    ∀ v ∈ usersRead (o.visit cfg (.due now row) b.working).2, v.isExhausted now = true
  | .abandon => ∀ k u, findUser b.committed k = some u → u.deleteAfter.isSome →
      ∀ r ∈ b.log.drop b.settled, r.Shows k.2
  | _ => True

section Step

variable {o : Remote} {cfg : Settings} {T : Tables} {reseller : Reseller} {now deadline : Datetime}
  {graceHours : ℤ} {live : User} {u u' row : ResellerUserCache} {sts : List Stmt} {d : Ledger}
  {out : Except Err (ResellerUserCache × List Stmt)} {zoned : Bool}

/-- A deadline after a visit to an exhausted user: it was there before, or it ends the grace period
of a detection. -/
theorem Synced.deadline_of_exhausted
    (h : Synced o.react cfg reseller now graceHours live u ⟨T, []⟩ (.ok (u', sts)) d)
    (hx : live.isExhausted now = true) (hd : u'.deleteAfter = some deadline) :
    u.deleteAfter = some deadline ∨
      u.expiredDetectedAt = none ∧ deadline = now + graceHours * hour := by
  cases h with
  | waiting => exact .inl hd
  | planned _ hn ht | undisabled _ hn ht | disabled _ hn ht =>
    exact .inr ⟨hn, (Option.some.inj hd).symm.trans (addHours_ok ht)⟩
  | fine hf | cleared hf | refused hf | reenabled hf =>
    rw [hx] at hf
    cases hf

/-- A renewed user has no deadline after a visit, unless it could not be enabled. -/
theorem Synced.deadline_of_renewed
    (h : Synced o.react cfg reseller now graceHours live u ⟨T, []⟩ (.ok (u', sts)) d)
    (hx : live.isExhausted now = false)
    (hv : u.deleteAfter.isSome → mayEnable cfg reseller u → ∀ v,
      o.answer [⟨.enableUser live.username, .ok ()⟩] (.getUser live.username) = .ok v →
      (v.map (isActive ·.status)).getD false = true) : u'.deleteAfter = none := by
  cases h with
  | waiting hf | planned hf | undisabled hf | disabled hf =>
    rw [hx] at hf
    cases hf
  | fine _ hd => exact hd
  | cleared | reenabled => rfl
  | refused _ hd on h₁ h₂ hn =>
    obtain ⟨-, rfl⟩ := ledger_call h₁
    obtain ⟨hans, -⟩ := ledger_call h₂
    rw [hv hd on _ hans.symm] at hn
    cases hn

/-- A visit for a deadline sets none. -/
theorem Reaped.deadline_of {deadline' : Datetime}
    (h : Reaped o.react cfg zoned reseller deadline now row ⟨T, []⟩ (.ok (u, sts)) d)
    (hd : u.deleteAfter = some deadline') : row.deleteAfter = some deadline' := by
  cases h with
  | kept _ hw => cases hw <;> exact hd
  | gone => cases hd

/-- A visit that deletes the user has passed the deadline and read the user exhausted. -/
theorem Reaped.deletes (h : Reaped o.react cfg zoned reseller deadline now row ⟨T, []⟩ out d)
    (hd : ∃ name r, (⟨.deleteUser name, r⟩ : Asked) ∈ d.asked) :
    deadline ≤ now ∧ ∃ v rest, d.asked = ⟨.getUser row.username, .ok (some v)⟩ :: rest ∧
      v.isExhausted now = true := by
  have hdel : ∀ {u γ₁ γ₂ r}, Reminded o.react reseller deadline now row ⟨T, []⟩ u γ₁ →
      Deleting o.react row.username row.rebeccaAdminUsername (.aware deadline) now
        cfg.deletePolicy (row.deletionHold || reseller.automationHold) false γ₁ r γ₂ →
      (∃ name r, (⟨.deleteUser name, r⟩ : Asked) ∈ γ₂.asked) →
      deadline ≤ now ∧ ∃ v rest, γ₂.asked = ⟨.getUser row.username, .ok (some v)⟩ :: rest ∧
        v.isExhausted now = true := by
    rintro u γ₁ γ₂ r hw hdel ⟨name, res, ha⟩
    obtain rfl := hw.ledger
    -- the tests before the first read
    have hdue : deleteRefused (.aware deadline) now cfg.deletePolicy
        (row.deletionHold || reseller.automationHold) false = .ok none → deadline ≤ now := by
      intro h
      obtain ⟨-, ⟨t, ht, hle⟩, -⟩ := deleteRefused_none_iff.mp h
      cases ht
      exact hle
    cases hdel with
    | uncompared | refused => cases ha
    | unread _ h₁ | missing _ h₁ | mismatch _ h₁ | renewed _ h₁ =>
      obtain ⟨-, rfl⟩ := ledger_call h₁
      simp at ha
    | deleteRaised h h₁ _ hx h₂ =>
      obtain ⟨-, rfl⟩ := ledger_call h₁
      obtain ⟨-, rfl⟩ := ledger_call h₂
      exact ⟨hdue h, _, _, rfl, hx⟩
    | unconfirmed h h₁ _ hx h₂ h₃ | survived h h₁ _ hx h₂ h₃ | deleted h h₁ _ hx h₂ h₃ =>
      obtain ⟨-, rfl⟩ := ledger_call h₁
      obtain ⟨-, rfl⟩ := ledger_call h₂
      obtain ⟨-, rfl⟩ := ledger_call h₃
      exact ⟨hdue h, _, _, rfl, hx⟩
  cases h with
  | unzoned =>
    obtain ⟨_, _, hmem⟩ := hd
    cases hmem
  | kept _ hw h | gone _ hw h | raised _ hw h => exact hdel hw h hd

end Step

/-! ## Histories -/

section Runs

variable {b : Book} {t : Turn} {o : Remote} {cfg : Settings} {T : Tables} {reseller : Reseller}
  {now : Datetime} {graceHours : ℤ} {live : User} {row : ResellerUserCache}

/-- A visit that shows the user exhausted goes on with the grace period. -/
theorem Graced.concat {k : ℕ × String} {deadline : Datetime} {log : List Record} {r : Record}
    (h : Graced k deadline log) (hr : r.Shows k.2) : Graced k deadline (log ++ [r]) :=
  since_concat.mpr (.inr ⟨h, hr⟩)

/-- What a listed user looks like when a row of its name keeps a deadline through the visit. -/
theorem shows_listed {k : ℕ × String} {u : ResellerUserCache}
    (hw : Watchful b (.visit cfg o (.listed reseller now graceHours live)))
    (hu : findUser b.working k = some u) (hd : u.deleteAfter.isSome)
    (hk : verifiedOwner live reseller.rebeccaAdminUsername = true →
      k.2 = live.username → live.isExhausted now = false → k.1 ≠ reseller.id) :
    (b.record cfg o (.listed reseller now graceHours live)).Shows k.2 := by
  intro hname
  cases hx : live.isExhausted now with
  | true =>
    rw [Watchful, if_pos hx] at hw
    exact ⟨hx, hw⟩
  | false =>
    rw [Watchful, if_neg (by rw [hx]; decide)] at hw
    obtain ⟨hid, hv, -⟩ := hw k u hname.symm hu hd
    exact absurd hid (hk hv hname.symm hx)

theorem graced_listed (hg : AllGraced b.working b.log) (hk : Known b.working.users)
    (hw : Watchful b (.visit cfg o (.listed reseller now graceHours live)))
    (h : (o.visit cfg (.listed reseller now graceHours live) b.working).1 = .ok T) :
    AllGraced T (b.log ++ [b.record cfg o (.listed reseller now graceHours live)]) := by
  intro k u deadline hu hd
  cases hv : verifiedOwner live reseller.rebeccaAdminUsername with
  | false =>
    rw [visit_other _ _ _ _ _ hv] at h
    cases h
    refine (hg k u deadline hu hd).concat (shows_listed hw hu (by rw [hd]; rfl) fun hv' => ?_)
    rw [hv] at hv'
    cases hv'
  | true =>
    obtain ⟨u', sts, d, hs, hasked, ⟨w, hfw, he⟩, hother⟩ := listed_returned hk hv h
    by_cases hkey : k = (reseller.id, live.username)
    · subst hkey
      obtain rfl : w = u := Option.some.inj (hfw.symm.trans hu)
      rw [he] at hd
      cases hx : live.isExhausted now with
      | true =>
        have hshows : (b.record cfg o (.listed reseller now graceHours live)).Shows
            live.username := by
          rw [Watchful, if_pos hx] at hw
          exact fun _ => ⟨hx, hw⟩
        rcases hs.deadline_of_exhausted hx hd with hbefore | ⟨hn, hdeadline⟩
        · -- the deadline was there
          cases hf : findUser b.working (reseller.id, live.username) with
          | none =>
            rw [hf] at hbefore
            cases hbefore
          | some x =>
            rw [hf] at hbefore
            exact (hg _ x deadline hf hbefore).concat hshows
        · exact since_concat.mpr (.inl ⟨detects_record hv hx hn h, hdeadline, hshows⟩)
      | false =>
        rw [Watchful, if_neg (by rw [hx]; decide)] at hw
        have hnone := hs.deadline_of_renewed hx fun hdead on => by
          cases hf : findUser b.working (reseller.id, live.username) with
          | none =>
            rw [hf] at hdead
            cases hdead
          | some x =>
            rw [hf] at hdead on
            exact (hw _ x rfl hf hdead).2.2 on
        rw [hnone] at hd
        cases hd
    · rw [hother k hkey] at hu
      refine (hg k u deadline hu hd).concat (shows_listed hw hu (by rw [hd]; rfl) ?_)
      exact fun _ hname _ hid => hkey (Prod.ext hid hname)

theorem graced_due (hg : AllGraced b.working b.log) (hk : Known b.working.users)
    (hw : Watchful b (.visit cfg o (.due now row))) (hp : (UserVisit.due now row).Possible b.working)
    (h : (o.visit cfg (.due now row) b.working).1 = .ok T) :
    AllGraced T (b.log ++ [b.record cfg o (.due now row)]) := by
  intro k u deadline hu hd
  have hshows : (b.record cfg o (.due now row)).Shows k.2 := fun _ => hw
  rcases due_returned hk hp h with ⟨rfl, -⟩ | ⟨_, _, u', sts, d, _, _, hr, -, ⟨w, hfw, he⟩, hother⟩
  · exact (hg k u deadline hu hd).concat hshows
  · by_cases hkey : k = row.key
    · subst hkey
      obtain rfl : w = u := Option.some.inj (hfw.symm.trans hu)
      rw [he] at hd
      exact (hg _ row deadline (hk.find hp.1) (hr.deadline_of hd)).concat hshows
    · rw [hother k hkey] at hu
      exact (hg k u deadline hu hd).concat hshows

theorem AllGraced.elsewhere {log : List Record} {T' : Tables} (hg : AllGraced T log)
    (h : Elsewhere T T') : AllGraced T' log := by
  intro k u deadline hu hd
  obtain ⟨w, hfw, _, _, rfl⟩ := h.find hu
  exact hg k w deadline hfw hd

theorem History.graced (h : History (·.deleteAfter = none) Watchful b) :
    (b.failed = false → AllGraced b.working b.log) ∧
      AllGraced b.committed (b.log.take b.settled) := by
  induction h with
  | @start T _ h =>
    have hnone : ∀ log, AllGraced T log := by
      intro log k u deadline hu hd
      cases (h u (findUser_some hu).1).symm.trans hd
    exact ⟨fun _ => hnone _, hnone _⟩
  | @turn b hb t hp hm ih =>
    cases t with
    | visit cfg o v =>
      have htake : (b.log ++ [b.record cfg o v]).take b.settled = b.log.take b.settled :=
        List.take_append_of_le_length hb.settled_le
      cases hv : (o.visit cfg v b.working).1 with
      | ok T =>
        rw [Book.next_ok hv]
        refine ⟨fun _ => ?_, htake.symm ▸ ih.2⟩
        cases v with
        | listed => exact graced_listed (ih.1 hp.1) hb.known.1 hm hv
        | due => exact graced_due (ih.1 hp.1) hb.known.1 hm hp.2 hv
      | error e =>
        rw [Book.next_error hv]
        exact ⟨(nomatch ·), htake.symm ▸ ih.2⟩
    | commit =>
      refine ⟨fun _ => ih.1 hp, ?_⟩
      show AllGraced b.working (b.log.take b.log.length)
      rw [List.take_length]
      exact ih.1 hp
    | abandon =>
      have hg : AllGraced b.committed b.log := by
        intro k u deadline hu hd
        have hsince := ih.2 k u deadline hu hd
        rw [← List.take_append_drop b.settled b.log]
        exact since_append.mpr (.inr ⟨hsince, hm k u hu (by rw [hd]; rfl)⟩)
      refine ⟨fun _ => hg, ?_⟩
      show AllGraced b.committed (b.log.take b.log.length)
      rw [List.take_length]
      exact hg
    | other T => exact ⟨fun _ => (ih.1 hp.1).elsewhere hp.2, ih.2⟩

theorem fair_due (h : History (·.deleteAfter = none) Watchful b)
    (hp : b.Possible (.visit cfg o (.due now row))) : Fair b (.visit cfg o (.due now row)) := by
  intro hdel
  obtain ⟨hf, hrow, deadline, hd, hle⟩ := hp
  cases hr : Rows.get Reseller.id b.working.resellers row.resellerId with
  | none =>
    rw [visit_orphan hr] at hdel
    obtain ⟨_, _, hmem⟩ := hdel
    cases hmem
  | some reseller =>
    obtain ⟨out, d, hreap, hasked, -⟩ := visit_due o cfg now h.known.1 hrow hd hr
    rw [hasked] at hdel ⊢
    obtain ⟨hdue, hread⟩ := hreap.deletes hdel
    exact ⟨⟨deadline, hdue, h.graced.1 hf _ row deadline (h.known.1.find hrow) hd⟩, hread⟩

/-- **A fresh grace period.**  In a history of visits that are all watchful, whatever the driver
does to time zones, every pending deadline is the end of a grace period that began when an expiry
was detected, and in which every live read has shown the user exhausted; and a user is deleted only
after such a deadline. -/
theorem grace_kept (h : History (·.deleteAfter = none) Watchful b) (hp : b.Possible t) :
    Fresh b t := by
  refine ⟨?_, h.graced.1⟩
  cases t with
  | visit cfg o v =>
    cases v with
    | listed => trivial
    | due now row => exact fair_due h hp
  | commit | abandon | other => trivial

end Runs

/-- A driver that keeps time zones would let bob be deleted when his deadline has come. -/
def bobIsDeleted : Turn :=
  .visit liveMode { scripted fun n => if n = 0 then some (bobLive "disabled" 10) else none with
    zoned := true } (.due (72 * hour) bobRow)

theorem grace_kept_expiredBob : Fresh expiredBob bobIsDeleted := by
  have h₀ : History (·.deleteAfter = none) Watchful opened :=
    .start known_nil (List.forall_mem_nil _)
  have hexp : Watchful opened bobExpires := by
    intro v hv
    obtain rfl : v = bobLive "disabled" 10 := List.mem_singleton.mp hv
    rfl
  have h₁ := h₀.turn bobExpires ⟨rfl, trivial⟩ hexp
  have h₂ := h₁.turn .commit rfl trivial
  have hdue : (UserVisit.due (72 * hour) bobRow).Possible expiredBob.working :=
    ⟨List.mem_singleton.mpr rfl, _, rfl, by decide⟩
  exact grace_kept h₂ ⟨rfl, hdue⟩

/-- Bob is exhausted again ten hours after his renewal. -/
def bobUsesUp : Turn :=
  .visit liveMode (scripted fun _ => none) (.listed shop (20 * hour) 72 (bobLive "disabled" 10))

/-- A renewal that `_sync_users` has seen does not cancel the deletion when the enable is not
verified, and the expiry after it starts no grace period. -/
theorem renewal_not_cancels :
    ∃ b t, History (·.deleteAfter = none) (fun _ t => t.Unzoned) b ∧ b.Possible t ∧ t.Unzoned ∧
      ¬Fresh b t := by
  have h₀ : History (·.deleteAfter = none) (fun _ t => t.Unzoned) opened :=
    .start known_nil (List.forall_mem_nil _)
  have h₁ := h₀.turn bobExpires ⟨rfl, trivial⟩ rfl
  have h₂ := h₁.turn .commit rfl trivial
  have h₃ := h₂.turn (bobIsRenewed (10 * hour) "disabled") ⟨rfl, trivial⟩ rfl
  have h₄ := h₃.turn .commit rfl trivial
  have h₅ := h₄.turn bobUsesUp ⟨rfl, trivial⟩ rfl
  refine ⟨_, .commit, h₅, rfl, trivial, fun h => ?_⟩
  have hg : Graced (1, "bob") (72 * hour) _ := h.pending rfl _ _ _ rfl rfl
  -- the last visit detects nothing, and the one before shows bob renewed
  rcases since_concat.mp hg with ⟨-, hends, -⟩ | ⟨hg, -⟩
  · exact absurd (show 72 * hour = 20 * hour + 72 * hour from hends) (by decide)
  · rcases since_concat.mp hg with ⟨-, hends, -⟩ | ⟨-, hs⟩
    · exact absurd (show 72 * hour = 10 * hour + 72 * hour from hends) (by decide)
    · exact absurd (hs rfl).1 (by decide)

end ResellerBot
