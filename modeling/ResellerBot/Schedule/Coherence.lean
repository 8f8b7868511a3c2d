import ResellerBot.Schedule.History
import ResellerBot.Since

/-!
# ResellerBot.Schedule.Coherence — the four columns of the deletion schedule

A detection, a deadline and the local status `EXPIRED` come and go together.  A visit to a row that
is due changes nothing: it subtracts from a deadline that was read back without its time zone.
-/

open Interact

namespace ResellerBot

/-- The columns say of the user that it is exhausted, or that it is not. -/
structure Tells (expired : Bool) (u : ResellerUserCache) : Prop where
  detected : u.expiredDetectedAt.isSome = expired
  deadline : u.deleteAfter.isSome = expired
  status : u.localStatus = .EXPIRED ↔ expired = true

def Coherent (u : ResellerUserCache) : Prop := ∃ expired, Tells expired u

/-- Whether the changes that a visit has made in Rebecca were seen there. -/
def Confirmed : List Asked → Prop
  | [⟨.disableUser _, .ok _⟩, ⟨.getUser _, .ok v⟩] => (v.map (isDisabled ·.status)).getD false = true
  | [⟨.enableUser _, .ok _⟩, ⟨.getUser _, .ok v⟩] => (v.map (isActive ·.status)).getD false = true
  | asked => asked = []

section Visit

variable {o : Remote} {cfg : Settings} {T : Tables} {reseller : Reseller} {now : Datetime}
  {graceHours : ℤ} {live : User} {u u' : ResellerUserCache} {sts : List Stmt} {d : Ledger}

theorem tells_detected {deadline : Datetime} {b : Bool} :
    Tells true { detected now deadline u with disabledByOwnExpiry := b } :=
  ⟨rfl, rfl, by simp [detected]⟩

theorem tells_restored : Tells false (restored u) := ⟨rfl, rfl, by simp [restored]⟩

/-- What a visit to a listed user does to a coherent row: it tells the truth, unless an enable was
not confirmed. -/
theorem Synced.tells
    (h : Synced o.react cfg reseller now graceHours live u ⟨T, []⟩ (.ok (u', sts)) d)
    (hu : Coherent u) : Tells (live.isExhausted now) u' ∨ u' = u ∧ ¬Confirmed d.asked := by
  obtain ⟨expired, ht⟩ := hu
  cases h with
  | waiting hx hd =>
    have he : expired = true := ht.detected.symm.trans hd
    exact .inl (hx ▸ he ▸ ht)
  | planned hx | undisabled hx | disabled hx =>
    rw [hx]
    exact .inl tells_detected
  | fine hx hd =>
    have he : expired = false := by
      rw [← ht.deadline, hd]
      rfl
    exact .inl (hx ▸ he ▸ ht)
  | cleared hx | reenabled hx => exact .inl (hx ▸ tells_restored)
  | refused hx hd on h₁ h₂ hv =>
    obtain ⟨-, rfl⟩ := ledger_call h₁
    obtain ⟨-, rfl⟩ := ledger_call h₂
    exact .inr ⟨rfl, fun hc => absurd (hv.symm.trans hc) Bool.false_ne_true⟩

theorem Synced.coherent
    (h : Synced o.react cfg reseller now graceHours live u ⟨T, []⟩ (.ok (u', sts)) d)
    (hu : Coherent u) : Coherent u' := by
  rcases h.tells hu with ht | ⟨rfl, -⟩
  · exact ⟨_, ht⟩
  · exact hu

/-- A visit to a row that is due makes no calls, and leaves the tables alone or raises. -/
theorem visit_unzoned {row : ResellerUserCache} (hz : o.zoned = false) (hk : Known T.users)
    (hp : (UserVisit.due now row).Possible T) :
    (o.visit cfg (.due now row) T).2 = [] ∧
      ∀ T', (o.visit cfg (.due now row) T).1 = .ok T' → T' = T := by
  obtain ⟨hrow, deadline, hd, -⟩ := hp
  cases hr : Rows.get Reseller.id T.resellers row.resellerId with
  | none =>
    rw [visit_orphan hr]
    exact ⟨rfl, fun T' h => (Except.ok.inj h).symm⟩
  | some reseller =>
    obtain ⟨out, d, ht, hasked, hout⟩ := visit_due o cfg now hk hrow hd hr
    rw [hasked]
    cases ht with
    | unzoned =>
      refine ⟨rfl, fun T' h => ?_⟩
      cases (show (o.visit cfg _ T).1 = .error _ from hout).symm.trans h
    | kept hz' | gone hz' | raised hz' => cases hz.symm.trans hz'

end Visit

/-! ## Histories -/

section Rows

variable {b : Book} {u v : ResellerUserCache}

theorem Entered.coherent (h : Entered u v) (hu : Coherent u) : Coherent v := by
  obtain ⟨expired, ht⟩ := hu
  rw [h]
  exact ⟨expired, ht.detected, ht.deadline, ht.status⟩

theorem coherent_newUser (reseller : Reseller) (live : User) : Coherent (newUser reseller live) :=
  ⟨false, rfl, rfl, by simp [newUser]⟩

/-- The row that is visited is as coherent as the one in the tables. -/
theorem coherent_current {T : Tables} (h : ∀ u ∈ T.users, Coherent u) (reseller : Reseller)
    (now : Datetime) (live : User) (k : ℕ × String) :
    Coherent (current reseller now live (findUser T k)) := by
  have hrow : Coherent ((findUser T k).getD (newUser reseller live)) := by
    cases hf : findUser T k with
    | none => exact coherent_newUser reseller live
    | some u => exact h u (findUser_some hf).1
  obtain ⟨expired, ht⟩ := hrow
  exact ⟨expired, ht.detected, ht.deadline, ht.status⟩

/-- One visit keeps the rows coherent. -/
theorem visit_coherent {o : Remote} {cfg : Settings} {T T' : Tables} {v : UserVisit}
    (hk : Known T.users) (hl : ∀ u ∈ T.users, Coherent u) (hz : o.zoned = false)
    (hp : v.Possible T) (h : (o.visit cfg v T).1 = .ok T') : ∀ u ∈ T'.users, Coherent u := by
  cases v with
  | due now row =>
    rw [(visit_unzoned hz hk hp).2 T' h]
    exact hl
  | listed reseller now graceHours live =>
    cases hv : verifiedOwner live reseller.rebeccaAdminUsername with
    | false =>
      rw [visit_other _ _ _ _ _ hv] at h
      cases h
      exact hl
    | true =>
      obtain ⟨out, d, hs, -, hout⟩ := visit_listed o cfg now graceHours hk hv
      cases out with
      | error e => cases (show (o.visit cfg _ T).1 = .error e from hout).symm.trans h
      | ok p =>
        -- the row that is written is coherent, the others are as they were
        obtain ⟨-, x, he, hx⟩ : Written T T' p.1 := hout T' h
        intro w hw
        rcases (hx w).mp hw with ⟨hw, -⟩ | rfl
        · exact hl w hw
        · exact he.coherent (hs.coherent (coherent_current hl ..))

theorem Elsewhere.coherent {T T' : Tables} (h : Elsewhere T T') (hl : ∀ u ∈ T.users, Coherent u) :
    ∀ u ∈ T'.users, Coherent u := by
  obtain ⟨f, hT, hf⟩ := h
  intro u hu
  rw [hT] at hu
  obtain ⟨w, hw, rfl⟩ := List.mem_map.mp hu
  obtain ⟨_, _, hfw⟩ := hf w
  obtain ⟨expired, ht⟩ := hl w hw
  rw [hfw]
  exact ⟨expired, ht.detected, ht.deadline, ht.status⟩

theorem History.coherent (h : History Coherent (fun _ t => t.Unzoned) b) :
    (∀ u ∈ b.working.users, Coherent u) ∧ ∀ u ∈ b.committed.users, Coherent u := by
  induction h with
  | start _ h => exact ⟨h, h⟩
  | @turn b hb t hp hz ih =>
    cases t with
    | visit cfg o v =>
      cases hv : (o.visit cfg v b.working).1 with
      | ok T =>
        rw [Book.next_ok hv]
        exact ⟨visit_coherent hb.known.1 ih.1 hz hp.2 hv, ih.2⟩
      | error e =>
        rw [Book.next_error hv]
        exact ih
    | commit => exact ⟨ih.1, ih.1⟩
    | abandon => exact ⟨ih.2, ih.2⟩
    | other T => exact ⟨hp.2.coherent ih.1, ih.2⟩

end Rows

/-! ## What is promised -/

section Runs

variable {b : Book} {t : Turn}

end Runs

/-! ## A second expiry -/

end ResellerBot
