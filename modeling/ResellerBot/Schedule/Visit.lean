import ResellerBot.Scheduler.Sync
import ResellerBot.Database.Run

/-!
# ResellerBot.Schedule.Visit — what one visit to a user does

A *visit* is the body of one of the loops over users: `syncUser` for a user that Rebecca lists,
`dueDeletion` for a row whose deadline is near.  `Synced` and `Reaped` name every way in which a
visit can end, with the row it leaves in the session, the audit rows and the calls it has made.
-/

open Interact

namespace ResellerBot

variable {Γ : Type} (react : (e : Ev) → Γ → Resp e × Γ) (cfg : Settings)

/-- A session that holds a user row, and what else it has to flush. -/
def Session.withUser (s : Session) (db : Option ResellerUserCache) (u : ResellerUserCache)
    (sts : List Stmt) : Session :=
  { s with user := some ⟨db, u⟩, pending := sts }

/-- Apart from its user row and what is pending, the session has nothing to flush. -/
def Session.Idle (s : Session) : Prop :=
  ∀ db u sts, (s.withUser db u sts).unflushed = sts ++ Slot.user.stmts ⟨db, u⟩

theorem idle_flushed (s : Session) : s.flushed.Idle := by
  intro db u sts
  obtain ⟨h1, h2, h3, h4, -⟩ := stmtsOf_flushed s
  show sts ++ s.flushed.stmtsOf .order ++ s.flushed.stmtsOf .reseller ++
    s.flushed.stmtsOf .payment ++ s.flushed.stmtsOf .trial ++ Slot.user.stmts ⟨db, u⟩ = _
  rw [h1, h2, h3, h4]
  simp only [List.append_nil]

/-- A reseller that has just been loaded. -/
theorem idle_loaded (s : Session) (r : Reseller) :
    Session.Idle { s.flushed with reseller := some ⟨some r, r⟩ } := by
  intro db u sts
  obtain ⟨h1, -, h3, h4, -⟩ := stmtsOf_flushed s
  show sts ++ s.flushed.stmtsOf .order ++ Slot.reseller.stmts ⟨some r, r⟩ ++
    s.flushed.stmtsOf .payment ++ s.flushed.stmtsOf .trial ++ Slot.user.stmts ⟨db, u⟩ = _
  rw [h1, h3, h4]
  simp [Slot.reseller, updated]

section WithUser

variable (s : Session) (γ : Γ) (db : Option ResellerUserCache) (u : ResellerUserCache)
  (sts : List Stmt)

@[simp] theorem run_assign_withUser (f : ResellerUserCache → ResellerUserCache) :
    Act.run react (s.withUser db u sts) γ (Slot.user.assign f) =
      ((.ok (), s.withUser db (f u) sts), γ) := rfl

@[simp] theorem run_read_withUser : Act.run react (s.withUser db u sts) γ Slot.user.read =
    ((.ok u, s.withUser db u sts), γ) := rfl

@[simp] theorem run_audit_withUser (action result : String) (orderId : Option ℕ) :
    Act.run react (s.withUser db u sts) γ (audit action result orderId) =
      ((.ok (), s.withUser db u (sts ++ [.insertAudit ⟨action, result, orderId⟩])), γ) := rfl

end WithUser

@[simp] theorem run_notify (s : Session) (γ : Γ) (chat : ℤ) :
    Act.run react s γ (notify chat) = (((.ok (match (react (.send chat) γ).1 with
      | .ok _ => true
      | .error _ => false)), s), (react (.send chat) γ).2) := by
  rw [notify, Act.run_bind, Act.run_attempt, run_sendMessage]
  dsimp only
  cases (react (.send chat) γ).1 <;> rfl

/-! ## A listed user -/

/-- The row after a detection. -/
def detected (now deadline : Datetime) (u : ResellerUserCache) : ResellerUserCache :=
  { u with expiredDetectedAt := some now, deleteAfter := some deadline, localStatus := .EXPIRED }

/-- The row after a renewal. -/
def restored (u : ResellerUserCache) : ResellerUserCache :=
  { u with
    expiredDetectedAt := none
    deleteAfter := none
    warningSentAt := none
    disabledByOwnExpiry := false
    localStatus := .ACTIVE }

def logged (action result : String) : List Stmt := [.insertAudit ⟨action, result, none⟩]

def User.isExhausted (live : User) (now : Datetime) : Bool :=
  exhausted live.expire live.dataLimit live.usedTraffic now

/-- The disable and enable actions of `_sync_users`. -/
def Settings.mayDisable (cfg : Settings) : Prop := cfg.dryRun = false ∧ cfg.allowDisableActions = true

def mayEnable (cfg : Settings) (reseller : Reseller) (u : ResellerUserCache) : Prop :=
  u.disabledByOwnExpiry = true ∧ reseller.status = .ACTIVE ∧ cfg.dryRun = false

/-- From the row `u` as it has just been brought up to date: how the visit to the listed user
`live` ends. -/
inductive Synced (reseller : Reseller) (now : Datetime) (graceHours : ℤ) (live : User)
    (u : ResellerUserCache) (γ : Γ) : Except Err (ResellerUserCache × List Stmt) → Γ → Prop
  | waiting (hx : live.isExhausted now = true) (hd : u.expiredDetectedAt.isSome) :
      Synced reseller now graceHours live u γ (.ok (u, [])) γ
  | late {e : Err} (hx : live.isExhausted now = true) (hd : u.expiredDetectedAt = none)
      (he : deletionTime now graceHours = .error e) :
      Synced reseller now graceHours live u γ (.error e) γ
  | planned {deadline : Datetime} (hx : live.isExhausted now = true)
      (hd : u.expiredDetectedAt = none) (ht : deletionTime now graceHours = .ok deadline)
      (off : ¬cfg.mayDisable) :
      Synced reseller now graceHours live u γ
        (.ok (detected now deadline u, logged "USER_DELETE_SCHEDULED" "OK"))
        (react (.send reseller.telegramId) γ).2
  | disableRaised {deadline : Datetime} {e : Err} {γ₁ : Γ} (hx : live.isExhausted now = true)
      (hd : u.expiredDetectedAt = none) (ht : deletionTime now graceHours = .ok deadline)
      (on : cfg.mayDisable)
      (h₁ : react (.call .user (.disableUser live.username)) γ = (.error e, γ₁)) :
      Synced reseller now graceHours live u γ (.error e) γ₁
  | disableUnread {deadline : Datetime} {e : Err} {γ₁ γ₂ : Γ} (hx : live.isExhausted now = true)
      (hd : u.expiredDetectedAt = none) (ht : deletionTime now graceHours = .ok deadline)
      (on : cfg.mayDisable)
      (h₁ : react (.call .user (.disableUser live.username)) γ = (.ok (), γ₁))
      (h₂ : react (.call .user (.getUser live.username)) γ₁ = (.error e, γ₂)) :
      Synced reseller now graceHours live u γ (.error e) γ₂
  | undisabled {deadline : Datetime} {v : Option User} {γ₁ γ₂ : Γ}
      (hx : live.isExhausted now = true)
      (hd : u.expiredDetectedAt = none) (ht : deletionTime now graceHours = .ok deadline)
      (on : cfg.mayDisable)
      (h₁ : react (.call .user (.disableUser live.username)) γ = (.ok (), γ₁))
      (h₂ : react (.call .user (.getUser live.username)) γ₁ = (.ok v, γ₂))
      (hv : (v.map (isDisabled ·.status)).getD false = false) :
      Synced reseller now graceHours live u γ
        (.ok (detected now deadline u, logged "USER_DISABLE_VERIFY_FAILED" "ERROR")) γ₂
  | disabled {deadline : Datetime} {v : Option User} {γ₁ γ₂ : Γ}
      (hx : live.isExhausted now = true)
      (hd : u.expiredDetectedAt = none) (ht : deletionTime now graceHours = .ok deadline)
      (on : cfg.mayDisable)
      (h₁ : react (.call .user (.disableUser live.username)) γ = (.ok (), γ₁))
      (h₂ : react (.call .user (.getUser live.username)) γ₁ = (.ok v, γ₂))
      (hv : (v.map (isDisabled ·.status)).getD false = true) :
      Synced reseller now graceHours live u γ
        (.ok ({ detected now deadline u with disabledByOwnExpiry := true },
          logged "USER_DELETE_SCHEDULED" "OK")) (react (.send reseller.telegramId) γ₂).2
  | fine (hx : live.isExhausted now = false) (hd : u.deleteAfter = none) :
      Synced reseller now graceHours live u γ (.ok (u, [])) γ
  | cleared (hx : live.isExhausted now = false) (hd : u.deleteAfter.isSome)
      (off : ¬mayEnable cfg reseller u) :
      Synced reseller now graceHours live u γ
        (.ok (restored u, logged "USER_DELETE_CANCELLED" "RENEWED")) γ
  | enableRaised {e : Err} {γ₁ : Γ} (hx : live.isExhausted now = false)
      (hd : u.deleteAfter.isSome) (on : mayEnable cfg reseller u)
      (h₁ : react (.call .user (.enableUser live.username)) γ = (.error e, γ₁)) :
      Synced reseller now graceHours live u γ (.error e) γ₁
  | enableUnread {e : Err} {γ₁ γ₂ : Γ} (hx : live.isExhausted now = false)
      (hd : u.deleteAfter.isSome) (on : mayEnable cfg reseller u)
      (h₁ : react (.call .user (.enableUser live.username)) γ = (.ok (), γ₁))
      (h₂ : react (.call .user (.getUser live.username)) γ₁ = (.error e, γ₂)) :
      Synced reseller now graceHours live u γ (.error e) γ₂
  | refused {v : Option User} {γ₁ γ₂ : Γ} (hx : live.isExhausted now = false)
      (hd : u.deleteAfter.isSome) (on : mayEnable cfg reseller u)
      (h₁ : react (.call .user (.enableUser live.username)) γ = (.ok (), γ₁))
      (h₂ : react (.call .user (.getUser live.username)) γ₁ = (.ok v, γ₂))
      (hv : (v.map (isActive ·.status)).getD false = false) :
      Synced reseller now graceHours live u γ
        (.ok (u, logged "USER_RENEW_ENABLE_VERIFY_FAILED" "ERROR")) γ₂
  | reenabled {v : Option User} {γ₁ γ₂ : Γ} (hx : live.isExhausted now = false)
      (hd : u.deleteAfter.isSome) (on : mayEnable cfg reseller u)
      (h₁ : react (.call .user (.enableUser live.username)) γ = (.ok (), γ₁))
      (h₂ : react (.call .user (.getUser live.username)) γ₁ = (.ok v, γ₂))
      (hv : (v.map (isActive ·.status)).getD false = true) :
      Synced reseller now graceHours live u γ
        (.ok (restored u, logged "USER_DELETE_CANCELLED" "RENEWED")) γ₂

/-- The outcome of a run that has a user row in the session: the row and the audit rows, or an
exception that ends the scheduler's run. -/
def Ends (s : Session) (db : Option ResellerUserCache) :
    Except Err (ResellerUserCache × List Stmt) → Except Err Unit × Session → Prop
  | .ok (u, sts), r => r = (.ok (), s.withUser db u sts)
  | .error e, r => r.1 = .error e

section Decision

variable {react cfg} {reseller : Reseller} {now : Datetime} {graceHours : ℤ} {live : User}
  {u : ResellerUserCache} {s : Session} {db : Option ResellerUserCache} {γ : Γ}

theorem run_disableVerified (s : Session) (γ : Γ) (username : String) :
    Act.run react s γ (disableVerified username) =
      match react (.call .user (.disableUser username)) γ with
      | (.error e, γ₁) => ((.error e, s), γ₁)
      | (.ok _, γ₁) => match react (.call .user (.getUser username)) γ₁ with
        | (.error e, γ₂) => ((.error e, s), γ₂)
        | (.ok v, γ₂) => ((.ok ((v.map (isDisabled ·.status)).getD false), s), γ₂) := by
  rw [disableVerified, Act.run_bind, run_call]
  rcases react (.call .user (.disableUser username)) γ with ⟨e | _, γ₁⟩
  · rfl
  · dsimp only
    rw [Act.run_bind, run_call]
    rcases react (.call .user (.getUser username)) γ₁ with ⟨e | v, γ₂⟩ <;> rfl

theorem run_enableVerified (s : Session) (γ : Γ) (username : String) :
    Act.run react s γ (enableVerified username) =
      match react (.call .user (.enableUser username)) γ with
      | (.error e, γ₁) => ((.error e, s), γ₁)
      | (.ok _, γ₁) => match react (.call .user (.getUser username)) γ₁ with
        | (.error e, γ₂) => ((.error e, s), γ₂)
        | (.ok v, γ₂) => ((.ok ((v.map (isActive ·.status)).getD false), s), γ₂) := by
  rw [enableVerified, Act.run_bind, run_call]
  rcases react (.call .user (.enableUser username)) γ with ⟨e | _, γ₁⟩
  · rfl
  · dsimp only
    rw [Act.run_bind, run_call]
    rcases react (.call .user (.getUser username)) γ₁ with ⟨e | v, γ₂⟩ <;> rfl

theorem run_announceDeletion (chat : ℤ) :
    Act.run react (s.withUser db u []) γ (announceDeletion chat) =
      ((.ok (), s.withUser db u (logged "USER_DELETE_SCHEDULED" "OK")), (react (.send chat) γ).2) := by
  rw [announceDeletion, Act.run_bind_ok _ _ _ _ (run_audit_withUser ..), Act.run_bind, run_notify]
  rfl

/-- An expired user without a detection. -/
theorem run_scheduleDeletion (hx : live.isExhausted now = true) (hd : u.expiredDetectedAt = none) :
    let r := Act.run react (s.withUser db u []) γ (scheduleDeletion cfg reseller live now graceHours)
    ∃ out, Synced react cfg reseller now graceHours live u γ out r.2 ∧ Ends s db out r.1 := by
  intro r
  have hr : r = Act.run react (s.withUser db { u with expiredDetectedAt := some now } []) γ (do
      let deadline ← Act.outcome (deletionTime now graceHours)
      Slot.user.assign fun u => { u with deleteAfter := some deadline, localStatus := .EXPIRED }
      if ¬cfg.dryRun ∧ cfg.allowDisableActions then
        if ← disableVerified live.username then do
          Slot.user.assign fun u => { u with disabledByOwnExpiry := true }
          announceDeletion reseller.telegramId
        else audit "USER_DISABLE_VERIFY_FAILED" "ERROR" none
      else announceDeletion reseller.telegramId) :=
    Act.run_bind_ok _ _ _ _ (run_assign_withUser ..)
  rw [hr]
  clear hr r
  rw [Act.run_bind, Act.run_outcome]
  cases ht : deletionTime now graceHours with
  | error e => exact ⟨.error e, .late hx hd ht, rfl⟩
  | ok deadline =>
    dsimp only
    rw [Act.run_bind_ok _ _ _ _ (run_assign_withUser ..)]
    by_cases on : cfg.mayDisable
    · rw [if_pos (by simpa [Settings.mayDisable] using on), Act.run_bind, run_disableVerified]
      rcases h₁ : react (.call .user (.disableUser live.username)) γ with ⟨e | _, γ₁⟩
      · exact ⟨.error e, .disableRaised hx hd ht on h₁, rfl⟩
      · dsimp only
        rcases h₂ : react (.call .user (.getUser live.username)) γ₁ with ⟨e | v, γ₂⟩
        · exact ⟨.error e, .disableUnread hx hd ht on h₁ h₂, rfl⟩
        · dsimp only
          cases hv : (v.map (isDisabled ·.status)).getD false with
          | true =>
            rw [if_pos rfl, Act.run_bind_ok _ _ _ _ (run_assign_withUser ..), run_announceDeletion]
            exact ⟨_, .disabled hx hd ht on h₁ h₂ hv, rfl⟩
          | false => exact ⟨_, .undisabled hx hd ht on h₁ h₂ hv, rfl⟩
    · rw [if_neg (by simpa [Settings.mayDisable] using on), run_announceDeletion]
      exact ⟨_, .planned hx hd ht on, rfl⟩

/-- A user with a deadline who is not exhausted. -/
theorem run_cancelDeletion (hx : live.isExhausted now = false) (hd : u.deleteAfter.isSome) :
    let r := Act.run react (s.withUser db u []) γ (cancelDeletion cfg reseller live u)
    ∃ out, Synced react cfg reseller now graceHours live u γ out r.2 ∧ Ends s db out r.1 := by
  intro r
  have hclear : ∀ γ, Act.run react (s.withUser db u []) γ clearDeletion =
      ((.ok (), s.withUser db (restored u) (logged "USER_DELETE_CANCELLED" "RENEWED")), γ) :=
    fun _ => rfl
  have hr : r = Act.run react (s.withUser db u []) γ (cancelDeletion cfg reseller live u) := rfl
  rw [hr]
  clear hr r
  unfold cancelDeletion
  by_cases on : mayEnable cfg reseller u
  · rw [if_pos (by simpa [mayEnable] using on), Act.run_bind, run_enableVerified]
    rcases h₁ : react (.call .user (.enableUser live.username)) γ with ⟨e | _, γ₁⟩
    · exact ⟨.error e, .enableRaised hx hd on h₁, rfl⟩
    · dsimp only
      rcases h₂ : react (.call .user (.getUser live.username)) γ₁ with ⟨e | v, γ₂⟩
      · exact ⟨.error e, .enableUnread hx hd on h₁ h₂, rfl⟩
      · dsimp only
        cases hv : (v.map (isActive ·.status)).getD false with
        | true =>
          rw [if_pos rfl, hclear]
          exact ⟨_, .reenabled hx hd on h₁ h₂ hv, rfl⟩
        | false => exact ⟨_, .refused hx hd on h₁ h₂ hv, rfl⟩
  · rw [if_neg (by simpa [mayEnable] using on), hclear]
    exact ⟨_, .cleared hx hd on, rfl⟩

/-- The row of a listed user as it is when the decision is made. -/
def current (reseller : Reseller) (now : Datetime) (live : User) (row : Option ResellerUserCache) :
    ResellerUserCache :=
  seen live now (row.getD (newUser reseller live))

/-- The visit to a user that is not owned asks for nothing. -/
theorem run_syncUser_other (hv : verifiedOwner live reseller.rebeccaAdminUsername = false) :
    Act.run react s γ (syncUser cfg reseller now graceHours live) = ((.ok (), s), γ) := by
  unfold syncUser
  rw [if_pos (by simp [hv])]
  rfl

variable (cfg now graceHours) in
/-- **The visit to a listed user**, from a session with nothing to flush. -/
theorem run_syncUser (hb : s.broken = false) (hu : s.unflushed = [])
    (hv : verifiedOwner live reseller.rebeccaAdminUsername = true) {γ₁ : Γ}
    {row : Option ResellerUserCache}
    (hq : react (.query (.user reseller.id live.username)) γ = (.ok row, γ₁)) :
    let r := Act.run react s γ (syncUser cfg reseller now graceHours live)
    ∃ out, Synced react cfg reseller now graceHours live (current reseller now live row) γ₁ out r.2 ∧
      Ends s.flushed row out r.1 := by
  intro r
  have hquery := run_query_nil react s γ hb hu (.user reseller.id live.username)
  rw [hq] at hquery
  have hst : s.flushed.pending ++ s.flushed.stmtsOf .user = [] := by
    rw [(stmtsOf_flushed s).2.2.2.2]
    rfl
  -- the object in the variable, the new one for a user that was not known
  have hload : Act.run react s γ (loadCached reseller live) =
      ((.ok (), s.flushed.withUser row (row.getD (newUser reseller live)) []), γ₁) := by
    cases row with
    | some u =>
      rw [loadCached, Act.run_bind_ok _ _ _ _ (run_load_some Slot.user hquery)]
      simp only [Act.run_pure, hst]
      rfl
    | none =>
      rw [loadCached, Act.run_bind_ok _ _ _ _ (run_load_none Slot.user hquery)]
      simp only [Slot.hold, Act.run_modify, hst]
      rfl
  have hr : r = Act.run react (s.flushed.withUser row (current reseller now live row) []) γ₁
      (if live.isExhausted now then
        Act.when (current reseller now live row).expiredDetectedAt.isNone
          (scheduleDeletion cfg reseller live now graceHours)
      else Act.when (current reseller now live row).deleteAfter.isSome
        (cancelDeletion cfg reseller live (current reseller now live row))) := by
    show Act.run react s γ (syncUser cfg reseller now graceHours live) = _
    unfold syncUser
    rw [if_neg (by simp [hv]), Act.run_bind_ok _ _ _ _ hload,
      Act.run_bind_ok _ _ _ _ (run_assign_withUser ..), Act.run_bind_ok _ _ _ _ (run_read_withUser ..)]
    rfl
  rw [hr]
  clear hr r
  cases hx : live.isExhausted now with
  | true =>
    rw [if_pos rfl]
    cases hd : (current reseller now live row).expiredDetectedAt with
    | none => exact run_scheduleDeletion hx hd
    | some d => exact ⟨_, .waiting hx (by rw [hd]; rfl), rfl⟩
  | false =>
    rw [if_neg Bool.false_ne_true]
    cases hd : (current reseller now live row).deleteAfter with
    | none => exact ⟨_, .fine hx hd, rfl⟩
    | some d => exact run_cancelDeletion hx (by rw [hd]; rfl)

end Decision

/-! ## A row whose deadline is near -/

/-- The last day before the deadline, without a warning so far. -/
def warnable (deadline now : Datetime) (row : ResellerUserCache) : Prop :=
  0 < deadline - now ∧ deadline - now ≤ 24 * hour ∧ row.warningSentAt = none

/-- The row after the warning of the last day. -/
inductive Reminded (reseller : Reseller) (deadline now : Datetime) (row : ResellerUserCache)
    (γ : Γ) : ResellerUserCache → Γ → Prop
  | early (h : ¬warnable deadline now row) : Reminded reseller deadline now row γ row γ
  | told {γ₁ : Γ} (h : warnable deadline now row)
      (h₁ : react (.send reseller.telegramId) γ = (.ok (), γ₁)) :
      Reminded reseller deadline now row γ { row with warningSentAt := some now } γ₁
  | untold {e : Err} {γ₁ : Γ} (h : warnable deadline now row)
      (h₁ : react (.send reseller.telegramId) γ = (.error e, γ₁)) :
      Reminded reseller deadline now row γ row γ₁

/-- How `safe_delete` ends. -/
inductive Deleting (username owner : String) (deadline : Stamp) (now : Datetime)
    (policy : DeletePolicy) (hold locked : Bool) (γ : Γ) : Except Err DeleteResult → Γ → Prop
  | uncompared {e : Err} (h : deleteRefused deadline now policy hold locked = .error e) :
      Deleting username owner deadline now policy hold locked γ (.error e) γ
  | refused {r : DeleteResult} (h : deleteRefused deadline now policy hold locked = .ok (some r)) :
      Deleting username owner deadline now policy hold locked γ (.ok r) γ
  | unread {e : Err} {γ₁ : Γ} (h : deleteRefused deadline now policy hold locked = .ok none)
      (h₁ : react (.call .user (.getUser username)) γ = (.error e, γ₁)) :
      Deleting username owner deadline now policy hold locked γ (.error e) γ₁
  | missing {γ₁ : Γ} (h : deleteRefused deadline now policy hold locked = .ok none)
      (h₁ : react (.call .user (.getUser username)) γ = (.ok none, γ₁)) :
      Deleting username owner deadline now policy hold locked γ (.ok .ALREADY_MISSING) γ₁
  | mismatch {live : User} {γ₁ : Γ} (h : deleteRefused deadline now policy hold locked = .ok none)
      (h₁ : react (.call .user (.getUser username)) γ = (.ok (some live), γ₁))
      (hv : verifiedOwner live (some owner) = false) :
      Deleting username owner deadline now policy hold locked γ (.ok .OWNERSHIP_MISMATCH) γ₁
  | renewed {live : User} {γ₁ : Γ} (h : deleteRefused deadline now policy hold locked = .ok none)
      (h₁ : react (.call .user (.getUser username)) γ = (.ok (some live), γ₁))
      (hv : verifiedOwner live (some owner) = true) (hx : live.isExhausted now = false) :
      Deleting username owner deadline now policy hold locked γ (.ok .RENEWED) γ₁
  | deleteRaised {live : User} {e : Err} {γ₁ γ₂ : Γ}
      (h : deleteRefused deadline now policy hold locked = .ok none)
      (h₁ : react (.call .user (.getUser username)) γ = (.ok (some live), γ₁))
      (hv : verifiedOwner live (some owner) = true) (hx : live.isExhausted now = true)
      (h₂ : react (.call .user (.deleteUser username)) γ₁ = (.error e, γ₂)) :
      Deleting username owner deadline now policy hold locked γ (.error e) γ₂
  | unconfirmed {live : User} {e : Err} {γ₁ γ₂ γ₃ : Γ}
      (h : deleteRefused deadline now policy hold locked = .ok none)
      (h₁ : react (.call .user (.getUser username)) γ = (.ok (some live), γ₁))
      (hv : verifiedOwner live (some owner) = true) (hx : live.isExhausted now = true)
      (h₂ : react (.call .user (.deleteUser username)) γ₁ = (.ok (), γ₂))
      (h₃ : react (.call .user (.getUser username)) γ₂ = (.error e, γ₃)) :
      Deleting username owner deadline now policy hold locked γ (.error e) γ₃
  | survived {live v : User} {γ₁ γ₂ γ₃ : Γ}
      (h : deleteRefused deadline now policy hold locked = .ok none)
      (h₁ : react (.call .user (.getUser username)) γ = (.ok (some live), γ₁))
      (hv : verifiedOwner live (some owner) = true) (hx : live.isExhausted now = true)
      (h₂ : react (.call .user (.deleteUser username)) γ₁ = (.ok (), γ₂))
      (h₃ : react (.call .user (.getUser username)) γ₂ = (.ok (some v), γ₃)) :
      Deleting username owner deadline now policy hold locked γ
        (.error ⟨.verification, "delete not confirmed by not-found"⟩) γ₃
  | deleted {live : User} {γ₁ γ₂ γ₃ : Γ} (h : deleteRefused deadline now policy hold locked = .ok none)
      (h₁ : react (.call .user (.getUser username)) γ = (.ok (some live), γ₁))
      (hv : verifiedOwner live (some owner) = true) (hx : live.isExhausted now = true)
      (h₂ : react (.call .user (.deleteUser username)) γ₁ = (.ok (), γ₂))
      (h₃ : react (.call .user (.getUser username)) γ₂ = (.ok none, γ₃)) :
      Deleting username owner deadline now policy hold locked γ (.ok .DELETED) γ₃

def Settings.deletePolicy (cfg : Settings) : DeletePolicy :=
  ⟨cfg.dryRun, cfg.destructiveActions, cfg.allowDeleteActions⟩

/-- The row after the deletion of its user. -/
def gone (u : ResellerUserCache) : ResellerUserCache :=
  { u with localStatus := .DELETED, deleteAfter := none }

/-- How the visit to a row with a deadline ends. -/
inductive Reaped (zoned : Bool) (reseller : Reseller) (deadline now : Datetime)
    (row : ResellerUserCache) (γ : Γ) : Except Err (ResellerUserCache × List Stmt) → Γ → Prop
  | unzoned (hz : zoned = false) :
      Reaped zoned reseller deadline now row γ (.error Stamp.subtractError) γ
  | kept {u : ResellerUserCache} {r : DeleteResult} {γ₁ γ₂ : Γ} (hz : zoned = true)
      (hw : Reminded react reseller deadline now row γ u γ₁)
      (hd : Deleting react row.username row.rebeccaAdminUsername (.aware deadline) now
        cfg.deletePolicy (row.deletionHold || reseller.automationHold) false γ₁ (.ok r) γ₂)
      (hr : r ≠ .DELETED) :
      Reaped zoned reseller deadline now row γ (.ok (u, logged r.text r.text)) γ₂
  | gone {u : ResellerUserCache} {γ₁ γ₂ : Γ} (hz : zoned = true)
      (hw : Reminded react reseller deadline now row γ u γ₁)
      (hd : Deleting react row.username row.rebeccaAdminUsername (.aware deadline) now
        cfg.deletePolicy (row.deletionHold || reseller.automationHold) false γ₁ (.ok .DELETED) γ₂) :
      Reaped zoned reseller deadline now row γ (.ok (gone u, logged "DELETED" "DELETED"))
        (react (.send reseller.telegramId) γ₂).2
  | raised {u : ResellerUserCache} {e : Err} {γ₁ γ₂ : Γ} (hz : zoned = true)
      (hw : Reminded react reseller deadline now row γ u γ₁)
      (hd : Deleting react row.username row.rebeccaAdminUsername (.aware deadline) now
        cfg.deletePolicy (row.deletionHold || reseller.automationHold) false γ₁ (.error e) γ₂) :
      Reaped zoned reseller deadline now row γ (.error e) γ₂

section Due

variable {react cfg} {reseller : Reseller} {deadline now : Datetime} {row : ResellerUserCache}
  {s : Session} {db : Option ResellerUserCache} {γ : Γ}

theorem run_warnDue : ∃ u γ₁, Reminded react reseller deadline now row γ u γ₁ ∧
    Act.run react (s.withUser db row []) γ (warnDue reseller row (.aware deadline) now) =
      ((.ok (), s.withUser db u []), γ₁) := by
  rw [warnDue, Stamp.sub, Act.run_bind_ok _ _ _ _ (Act.run_outcome ..)]
  by_cases h : 0 < deadline - now ∧ deadline - now ≤ 24 * hour ∧ row.warningSentAt = none
  · rw [if_pos h, Act.run_bind, run_notify]
    rcases h₁ : react (.send reseller.telegramId) γ with ⟨e | _, γ₁⟩
    · exact ⟨_, _, .untold h h₁, rfl⟩
    · exact ⟨_, _, .told h h₁, rfl⟩
  · rw [if_neg h]
    exact ⟨_, _, .early h, rfl⟩

theorem run_safeDelete (s : Session) (username owner : String) (deadline : Stamp)
    (policy : DeletePolicy) (hold locked : Bool) :
    let r := Act.run react s γ (safeDelete username owner deadline now policy hold locked)
    ∃ out, Deleting react username owner deadline now policy hold locked γ out r.2 ∧
      r.1 = (out, s) := by
  intro r
  have hr : r = Act.run react s γ (safeDelete username owner deadline now policy hold locked) := rfl
  rw [hr]
  clear hr r
  unfold safeDelete
  rw [Act.run_bind, Act.run_outcome]
  rcases h : deleteRefused deadline now policy hold locked with e | _ | result
  · exact ⟨_, .uncompared h, rfl⟩
  rotate_left
  · exact ⟨_, .refused h, rfl⟩
  · dsimp only
    rw [Act.run_bind, run_call]
    rcases h₁ : react (.call .user (.getUser username)) γ with ⟨e | _ | live, γ₁⟩
    · exact ⟨_, .unread h h₁, rfl⟩
    · exact ⟨_, .missing h h₁, rfl⟩
    · dsimp only
      by_cases hv : verifiedOwner live (some owner) = true
      · rw [if_neg (not_not.mpr hv)]
        by_cases hx : exhausted live.expire live.dataLimit live.usedTraffic now = true
        · rw [if_neg (not_not.mpr hx), Act.run_bind, run_call]
          rcases h₂ : react (.call .user (.deleteUser username)) γ₁ with ⟨e | _, γ₂⟩
          · exact ⟨_, .deleteRaised h h₁ hv hx h₂, rfl⟩
          · dsimp only
            rw [Act.run_bind, run_call]
            rcases h₃ : react (.call .user (.getUser username)) γ₂ with ⟨e | _ | v, γ₃⟩
            · exact ⟨_, .unconfirmed h h₁ hv hx h₂ h₃, rfl⟩
            · exact ⟨_, .deleted h h₁ hv hx h₂ h₃, rfl⟩
            · exact ⟨_, .survived h h₁ hv hx h₂ h₃, rfl⟩
        · rw [if_pos hx]
          exact ⟨_, .renewed h h₁ hv (Bool.eq_false_iff.mpr hx), rfl⟩
      · rw [if_pos hv]
        exact ⟨_, .mismatch h h₁ (Bool.eq_false_iff.mpr hv), rfl⟩

variable (cfg now) (zoned : Bool)

/-- The visit goes on with the row in the variable of the user, and nothing to flush. -/
theorem run_openDue (hb : s.broken = false) (hu : s.unflushed = []) (hn : s.reseller = none)
    (hd : row.deleteAfter = some deadline) {γ₁ : Γ}
    (hq : react (.query (.reseller row.resellerId)) γ = (.ok (some reseller), γ₁)) :
    ∃ s₁ : Session, s₁.Idle ∧ s₁.broken = false ∧
      Act.run react s γ (dueDeletion cfg zoned now s.epoch row) =
        Act.run react (s₁.withUser (some row) row []) γ₁ (do
          warnDue reseller row (readBack zoned deadline) now
          let result ← safeDelete row.username row.rebeccaAdminUsername (readBack zoned deadline)
            now cfg.deletePolicy (row.deletionHold || reseller.automationHold) false
          audit result.text result.text none
          finishDeletion reseller result) := by
  simp only [Session.unflushed, List.append_eq_nil_iff] at hu
  obtain ⟨⟨⟨⟨⟨hpending, horder⟩, hreseller⟩, hpayment⟩, htrial⟩, huser⟩ := hu
  -- the row goes into the variable, and its reseller
  have hhold := run_holdLoaded react γ Slot.user (show s.epoch = s.epoch from rfl) row
  rw [show s.pending ++ s.stmtsOf .user = [] by rw [hpending, huser]; rfl] at hhold
  obtain ⟨s₁, hs₁⟩ : ∃ s₁, s₁ = { s with user := some ⟨some row, row⟩, pending := [] } := ⟨_, rfl⟩
  have hu₁ : s₁.unflushed = [] := by
    rw [hs₁]
    show [] ++ s.stmtsOf .order ++ s.stmtsOf .reseller ++ s.stmtsOf .payment ++
      s.stmtsOf .trial ++ Slot.user.stmts ⟨some row, row⟩ = []
    rw [horder, hreseller, hpayment, htrial]
    simp [Slot.user, updated]
  have hquery := run_query_nil react s₁ γ (by rw [hs₁]; exact hb) hu₁ (.reseller row.resellerId)
  rw [hq] at hquery
  have hget : Act.run react s₁ γ (Slot.reseller.getByKey Reseller.id row.resellerId
      (query (.reseller row.resellerId))) = ((.ok (some reseller),
        { s₁.flushed with reseller := some ⟨some reseller, reseller⟩ }), γ₁) := by
    have hn₁ : Slot.reseller.get s₁ = none := by rw [hs₁]; exact hn
    have hst : s₁.flushed.pending ++ s₁.flushed.stmtsOf .reseller = [] := by
      rw [(stmtsOf_flushed s₁).2.1]
      rfl
    rw [Slot.getByKey, Act.run_bind_ok _ _ _ _ (Act.run_state ..), hn₁]
    refine (run_load_some Slot.reseller hquery).trans ?_
    rw [hst]
    rfl
  refine ⟨{ s₁.flushed with reseller := some ⟨some reseller, reseller⟩ }, idle_loaded s₁ reseller,
    by rw [hs₁]; exact hb, ?_⟩
  rw [dueDeletion, Act.run_bind_ok _ _ _ _ hhold]
  subst hs₁
  refine (Act.run_bind_ok _ _ _ _ hget).trans ?_
  dsimp only
  rw [hd]
  rfl

/-- **The visit to a row with a deadline**, from a session with nothing to flush and no reseller in
its variable. -/
theorem run_dueDeletion (hb : s.broken = false) (hu : s.unflushed = []) (hn : s.reseller = none)
    (hd : row.deleteAfter = some deadline) {γ₁ : Γ}
    (hq : react (.query (.reseller row.resellerId)) γ = (.ok (some reseller), γ₁)) :
    let r := Act.run react s γ (dueDeletion cfg zoned now s.epoch row)
    ∃ out s₁, Reaped react cfg zoned reseller deadline now row γ₁ out r.2 ∧ s₁.Idle ∧
      s₁.broken = false ∧ Ends s₁ (some row) out r.1 := by
  intro r
  obtain ⟨s₁, hidle, hb₁, hr⟩ := run_openDue cfg now zoned hb hu hn hd hq
  change r = _ at hr
  rw [hr]
  clear hr r
  cases zoned
  case false => exact ⟨_, s₁, .unzoned rfl, hidle, hb₁, rfl⟩
  obtain ⟨u, γ₂, hw, hwarn⟩ : ∃ u γ₂, Reminded react reseller deadline now row γ₁ u γ₂ ∧
      Act.run react (s₁.withUser (some row) row []) γ₁
        (warnDue reseller row (readBack true deadline) now) =
          ((.ok (), s₁.withUser (some row) u []), γ₂) := run_warnDue
  rw [Act.run_bind_ok _ _ _ _ hwarn, Act.run_bind]
  obtain ⟨out, hdel, hres⟩ := run_safeDelete (s₁.withUser (some row) u []) row.username
    row.rebeccaAdminUsername (readBack true deadline) cfg.deletePolicy
    (row.deletionHold || reseller.automationHold) false
  rcases hrun : Act.run react (s₁.withUser (some row) u []) γ₂ (safeDelete row.username
    row.rebeccaAdminUsername (readBack true deadline) now cfg.deletePolicy
    (row.deletionHold || reseller.automationHold) false) with ⟨r₁, γ₃⟩
  rw [hrun] at hdel hres
  obtain rfl : r₁ = (out, s₁.withUser (some row) u []) := hres
  cases out with
  | error e => exact ⟨.error e, s₁, .raised rfl hw hdel, hidle, hb₁, rfl⟩
  | ok result =>
    dsimp only
    rw [Act.run_bind_ok _ _ _ _ (run_audit_withUser ..)]
    by_cases hdone : result = .DELETED
    · subst hdone
      unfold finishDeletion
      dsimp only
      rw [Act.run_bind_ok _ _ _ _ (run_assign_withUser ..), Act.run_bind, run_notify]
      exact ⟨_, s₁, .gone rfl hw hdel, hidle, hb₁, rfl⟩
    · have hfin : finishDeletion reseller result = pure () := by
        cases result with
        | DELETED => exact absurd rfl hdone
        | _ => rfl
      rw [hfin]
      exact ⟨_, s₁, .kept rfl hw hdel hdone, hidle, hb₁, rfl⟩

end Due

end ResellerBot
