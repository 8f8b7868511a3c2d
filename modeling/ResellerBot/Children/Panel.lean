import ResellerBot.Schedule.Visit

/-!
# ResellerBot.Children.Panel — a Rebecca with users, and transactions against it

The Rebecca of `ResellerBot.Rebecca.Client` with the users of its admins: it does what it is asked,
and no request fails but those for something that is not there.
-/

open Interact

namespace ResellerBot

/-! ## Rebecca -/

structure Panel extends Server where
  users : String → Option User
  /-- The order in which users are listed. -/
  names : List String
  /-- Whether `admin_users_disable` is advertised. -/
  bulk : Bool

namespace Panel

variable (p : Panel)

def getUser (username : String) : Option User :=
  (p.users username).map fun u => { u with username := username }

def listAdminUsers (username : Option String) : List User :=
  (p.names.filterMap p.getUser).filter (·.adminUsername = username)

def setUser (username : String) (f : User → Option User) : Except Err Unit × Panel :=
  match p.users username with
  | some u => (.ok (), { p with users := Function.update p.users username (f u) })
  | none => (.error (notFoundError ("/api/user/" ++ username)), p)

/-- A user after the disable of all users of an admin. -/
def disabledWith (admin : String) (u : User) : User :=
  if u.adminUsername = some admin ∧ isActive u.status then { u with status := "disabled" } else u

def disableAdminUsers (username : String) : Except Err Unit × Panel :=
  match p.admins username with
  | some _ => (.ok (), { p with users := fun name => (p.users name).map (disabledWith username) })
  | none => (.error (notFoundError (adminActionPath username "users/disable")), p)

/-- A write that concerns an admin. -/
def write (c : Call) : Except Err Unit × Panel :=
  match p.toServer.perform c with
  | .ok sv => (.ok (), { p with toServer := sv })
  | .error e => (.error e, p)

def perform : (c : Call) → Except Err c.Result × Panel
  | .detectCapabilities => (.ok p.bulk, p)
  | .getAdmin username => (.ok (p.toServer.getAdmin username), p)
  | .listAdminUsers username => (.ok (p.listAdminUsers username), p)
  | .getUser username => (.ok (p.getUser username), p)
  | .enableUser username => p.setUser username fun u => some { u with status := "active" }
  | .disableUser username => p.setUser username fun u => some { u with status := "disabled" }
  | .deleteUser username => p.setUser username fun _ => none
  | .disableAdminUsers username => p.disableAdminUsers username
  | .createResellerAdmin username payload => p.write (.createResellerAdmin username payload)
  | .updateAdmin username payload => p.write (.updateAdmin username payload)
  | .enableAdmin username => p.write (.enableAdmin username)
  | .disableAdmin username => p.write (.disableAdmin username)

end Panel

/-! ## Transactions -/

/-- Clock, chance and the other services. -/
structure Around where
  clock : ℕ → Datetime
  draw : ℕ → ℕ
  token : ℕ → String
  deliver : ℕ → Except Err Unit
  member : ℕ → Except Err String
  transaction : ℕ → String → Except Err Operation

/-- The state of the world while a session is open. -/
structure Txn where
  committed : Tables
  working : Tables
  panel : Panel
  /-- How often clock, chance and the other services were asked. -/
  ticks : ℕ

/-- The state of the world between two sessions. -/
structure Place where
  tables : Tables
  panel : Panel
  ticks : ℕ

def Place.enter (w : Place) : Txn := ⟨w.tables, w.tables, w.panel, w.ticks⟩

def Txn.leave (t : Txn) : Place := ⟨t.committed, t.panel, t.ticks⟩

namespace Around

variable (ar : Around)

def react : (e : Ev) → Txn → Resp e × Txn
  | .query q, t => (.ok (q.run t.working), t)
  | .flush sts, t =>
    match Stmt.execAll t.working sts with
    | .ok T => (.ok (), { t with working := T })
    | .error e => (.error e, t)
  | .execute st, t =>
    match st.exec t.working with
    | .ok (T, n) => (.ok n, { t with working := T })
    | .error e => (.error e, t)
  | .commit, t => (.ok (), { t with committed := t.working })
  | .rollback, t => ((), { t with working := t.committed })
  | .now, t => (ar.clock t.ticks, { t with ticks := t.ticks + 1 })
  | .randbelow n, t => (ar.draw t.ticks % n, { t with ticks := t.ticks + 1 })
  | .token _, t => (ar.token t.ticks, { t with ticks := t.ticks + 1 })
  | .call _ c, t => ((t.panel.perform c).1, { t with panel := (t.panel.perform c).2 })
  | .send _, t => (ar.deliver t.ticks, { t with ticks := t.ticks + 1 })
  | .chatMember _ _, t => (ar.member t.ticks, { t with ticks := t.ticks + 1 })
  | .transaction txn, t => (ar.transaction t.ticks txn, { t with ticks := t.ticks + 1 })
  | .lock _, t | .unlock _, t | .createTask, t => ((), t)

/-- The world after a program that opens its own session. -/
def after {α : Type} (m : Bot α) (w : Place) : Place :=
  (Act.run ar.react Session.empty w.enter m).2.leave

end Around

/-! ## What a session has yet to write -/

/-- A flush of the session succeeds and leaves the tables `T`. -/
def Ahead (s : Session) (t : Txn) (T : Tables) : Prop :=
  s.broken = false ∧ Stmt.execAll t.working s.unflushed = .ok T

section Ahead

variable {ar : Around} {s : Session} {t : Txn} {T T' : Tables}

theorem ahead_empty (w : Place) : Ahead Session.empty w.enter w.tables := ⟨rfl, rfl⟩

theorem Ahead.flushed (h : Ahead s t T) : Ahead s.flushed { t with working := T } T :=
  ⟨h.1, by rw [unflushed_flushed]; rfl⟩

theorem Ahead.run_flush (h : Ahead s t T) :
    Act.run ar.react s t flush = ((.ok (), s.flushed), { t with working := T }) := by
  obtain ⟨hb, hT⟩ := h
  by_cases hu : s.unflushed = []
  · rw [hu] at hT
    cases hT
    exact run_flush_nil _ _ _ hb hu
  · unfold flush
    rw [Act.run_bind_ok _ _ _ _ (Act.run_state ..), if_neg (by rw [hb]; decide),
      if_neg (by rwa [List.isEmpty_iff]), run_ask_bind, Around.react, hT]
    rfl

theorem Ahead.run_query (h : Ahead s t T) (q : Query) :
    Act.run ar.react s t (query q) = ((.ok (q.run T), s.flushed), { t with working := T }) := by
  rw [query, Act.run_bind_ok _ _ _ _ h.run_flush]
  rfl

theorem Ahead.run_commit (h : Ahead s t T) : Act.run ar.react s t commit =
    ((.ok (), s.flushed), { t with working := T, committed := T }) := by
  rw [commit, Act.run_bind_ok _ _ _ _ h.run_flush]
  rfl

/-- A session whose body returns, and which commits. -/
theorem run_inTransaction_ok {α : Type} {m : Bot α} {w : Place} {a : α}
    (hr : Act.run ar.react Session.empty w.enter m = ((.ok a, s), t)) (hT : Ahead s t T) :
    Act.run ar.react Session.empty w.enter (inTransaction m) =
      ((.ok a, s.flushed.expire false), { t with working := T, committed := T }) := by
  have hm : Act.run ar.react Session.empty w.enter (m >>= fun a => do
      commit
      pure a) = ((.ok a, s.flushed), { t with working := T, committed := T }) := by
    rw [Act.run_bind_ok _ _ _ _ hr, Act.run_bind_ok _ _ _ _ hT.run_commit]
    rfl
  rw [inTransaction, inSession, Act.run_bind_ok _ _ _ _ (Act.run_modify ..), Act.run_bind,
    Act.run_attempt, hm]
  rfl

/-- The world after a session whose body returns and commits. -/
theorem after_inTransaction {α : Type} {m : Bot α} {w : Place} {Q : Place → Prop}
    (h : Act.Returns ar.react Session.empty w.enter m fun _ s t =>
      ∃ T, Ahead s t T ∧ Q ⟨T, t.panel, t.ticks⟩) : Q (ar.after (inTransaction m) w) := by
  obtain ⟨a, s, t, hr, T, hT, hQ⟩ := h
  rw [Around.after, run_inTransaction_ok hr hT]
  exact hQ

end Ahead

end ResellerBot
