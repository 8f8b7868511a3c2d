import Mathlib
import ResellerBot.Children.Run
import ResellerBot.Machine

/-!
# ResellerBot.Children.Return — children come back with their parent

A parent is disabled with its children, by the scheduler at the end of its entitlement or by an
owner.  The next visit of `_sync_resellers` to the active parent enables the children whose rows are
flagged.
-/

open Interact

namespace ResellerBot

variable (ar : Around) (cfg : Settings) (batchSize : ℕ)

/-! ## The history -/

/-- What happens: a task of the bot, another change of the tables (an order is placed, a setting
changed, a reseller edited), or a change in Rebecca that the bot has nothing to do with. -/
inductive Happening
  | task (t : Task)
  | tables (T : Tables)
  | rebecca (panel : Panel)

def Place.next (w : Place) : Happening → Place
  | .task t => ar.follow (t.prog cfg batchSize) w
  | .tables T => { w with tables := T }
  | .rebecca panel => { w with panel := panel }

/-- The rows of users are left to the tasks, and no run brings children of the reseller back. -/
def Happening.Meanwhile (resellerId : ℕ) (w : Place) : Happening → Prop
  | .task .run => SparesChildren ar batchSize resellerId w
  | .tables T => T.users = w.tables.users
  | _ => True

/-- Who disables the parent. -/
inductive Disabler
  | scheduler
  | owner (userId : ℤ)

def Disabler.task (resellerId : ℕ) : Disabler → Task
  | .scheduler => .run
  | .owner userId => .resellerDisable userId resellerId

/-- A run after which the bot remembers the user, because it takes the user for active. -/
def Recalls (resellerId : ℕ) (username : String) (w : Place) (e : Happening) : Prop :=
  e = .task .run ∧ FlagsStand ar cfg batchSize resellerId w ∧
    LocallyActive w.tables resellerId username

/-- After the history the bot remembers the user. -/
def Remembers (resellerId : ℕ) (username : String) (w : Place) (es : List Happening) : Prop :=
  Flagged w.tables resellerId username ∨ ∃ before e after, es = before ++ e :: after ∧
    Recalls ar cfg batchSize resellerId username
      (Machine.run (Place.next ar cfg batchSize) w before) e

section History

variable {ar cfg batchSize} {w : Place} {e : Happening} {es : List Happening} {i n : ℕ}
  {username : String} {T T' : Tables}

theorem keyed_exec {st : Stmt} (hx : st.exec T = .ok (T', n))
    (h : Rows.Keyed ResellerUserCache.id T.users) : Rows.Keyed ResellerUserCache.id T'.users := by
  cases st with
  | updateUser old new =>
    rw [Stmt.exec] at hx
    split_ifs at hx
    cases hx
    exact h.set fun _ => rfl
  | insertUser row =>
    rw [Stmt.exec] at hx
    split_ifs at hx
    cases hx
    exact h.append fun r hr => (Rows.lt_next hr).ne
  | markDisabledByParent id =>
    cases hx
    unfold Rows.Keyed
    rw [List.map_map]
    refine Eq.subst (motive := List.Nodup) (List.map_congr_left fun u _ => ?_) h
    rw [Function.comp_apply]
    split_ifs <;> rfl
  | _ =>
    rw [Stmt.users_exec rfl hx]
    exact h

theorem keyed_execAll {sts : List Stmt} (hx : Stmt.execAll T sts = .ok T')
    (h : Rows.Keyed ResellerUserCache.id T.users) : Rows.Keyed ResellerUserCache.id T'.users := by
  induction sts generalizing T with
  | nil =>
    cases hx
    exact h
  | cons st sts ih =>
    rw [Stmt.execAll] at hx
    cases hst : st.exec T with
    | error e =>
      rw [hst] at hx
      cases hx
    | ok r =>
      rw [hst] at hx
      exact ih hx (keyed_exec (n := r.2) hst h)

/-- The primary keys of the users stay unique. -/
theorem keyed_follow (p : Prog Ev Resp Unit) (h : Rows.Keyed ResellerUserCache.id w.tables.users) :
    Rows.Keyed ResellerUserCache.id (ar.follow p w).tables.users := by
  have hreact : ∀ (t : Txn) (_ : Unit) (e : Ev),
      (Rows.Keyed ResellerUserCache.id t.committed.users ∧
        Rows.Keyed ResellerUserCache.id t.working.users) → True →
      ∃ _ : Unit, True ∧ (Rows.Keyed ResellerUserCache.id (ar.react e t).2.committed.users ∧
        Rows.Keyed ResellerUserCache.id (ar.react e t).2.working.users) := by
    rintro t - e ⟨hc, hw⟩ -
    refine ⟨(), trivial, ?_⟩
    cases e with
    | flush sts =>
      rw [Around.react]
      split
      · exact ⟨hc, keyed_execAll ‹_› hw⟩
      · exact ⟨hc, hw⟩
    | execute st =>
      rw [Around.react]
      split
      · exact ⟨hc, keyed_exec ‹_› hw⟩
      · exact ⟨hc, hw⟩
    | commit => exact ⟨hw, hw⟩
    | rollback => exact ⟨hc, hc⟩
    | _ => exact ⟨hc, hw⟩
  have henter : Rows.Keyed ResellerUserCache.id w.enter.committed.users ∧
      Rows.Keyed ResellerUserCache.id w.enter.working.users := ⟨h, h⟩
  obtain ⟨-, hkeyed, -⟩ := Ok.eval (S := ⟨fun _ _ => True, fun _ _ _ _ => True⟩)
    (I := fun (t : Txn) (_ : Unit) => Rows.Keyed ResellerUserCache.id t.committed.users ∧
      Rows.Keyed ResellerUserCache.id t.working.users) hreact
    (Ok.of_free (fun _ _ => trivial) p ()) henter
  exact hkeyed.1

theorem keyed_next (h : Rows.Keyed ResellerUserCache.id w.tables.users)
    (he : e.Meanwhile ar batchSize i w) :
    Rows.Keyed ResellerUserCache.id (w.next ar cfg batchSize e).tables.users := by
  cases e with
  | task t => exact keyed_follow _ h
  | tables T =>
    have hT : T.users = w.tables.users := he
    show Rows.Keyed ResellerUserCache.id T.users
    rwa [hT]
  | rebecca panel => exact h

/-- What one happening makes of the flags. -/
theorem flagged_next (hkeyed : Rows.Keyed ResellerUserCache.id w.tables.users)
    (he : e.Meanwhile ar batchSize i w) :
    Flagged (w.next ar cfg batchSize e).tables i username ↔
      Flagged w.tables i username ∨ Recalls ar cfg batchSize i username w e := by
  by_cases hrun : e = .task .run
  · subst hrun
    exact (flagged_run hkeyed he username).trans (or_congr_right (and_iff_right rfl).symm)
  · have hsame : Flagged (w.next ar cfg batchSize e).tables i = Flagged w.tables i := by
      cases e with
      | task t => exact flagged_task cfg batchSize fun ht => hrun (congrArg _ ht)
      | tables T => exact flagged_of_users he
      | rebecca panel => rfl
    rw [hsame]
    exact (or_iff_left fun h => hrun h.1).symm

/-- **What the bot remembers** after a history. -/
theorem flagged_history (hkeyed : Rows.Keyed ResellerUserCache.id w.tables.users)
    (h : Machine.Always (Place.next ar cfg batchSize)
      (fun w e => Happening.Meanwhile ar batchSize i w e) w es) :
    Flagged (Machine.run (Place.next ar cfg batchSize) w es).tables i username ↔
      Remembers ar cfg batchSize i username w es :=
  Machine.run_iff_exists (I := fun w => Rows.Keyed ResellerUserCache.id w.tables.users)
    (Q := Recalls ar cfg batchSize i username) (F := fun w => Flagged w.tables i username)
    (fun _ _ => keyed_next) (fun _ _ => flagged_next) hkeyed h

end History

/-! ## The visit up to its decision -/

/-- A session that holds a reseller, and what else it has to flush. -/
def Session.withReseller (db cur : Reseller) (sts : List Stmt) : Session :=
  { Session.empty with reseller := some ⟨some db, cur⟩, pending := sts }

/-- The session holds the reseller `cur`, and a flush leaves the users `U`. -/
def Watching (U : List ResellerUserCache) (cur : Reseller) (s : Session) (t : Txn) : Prop :=
  ∃ db sts T, s = .withReseller db cur sts ∧ Stmt.execAll t.working sts = .ok T ∧ T.users = U ∧
    db.id = cur.id ∧ db.rebeccaAdminUsername = cur.rebeccaAdminUsername ∧
    T.resellers.any (·.id = cur.id)

/-- The decision about a reseller whose admin has been read. -/
def decision (live : Admin) (now : Datetime) (cur : Reseller) : Bot Unit :=
  if ¬exhausted live.expire live.dataLimit live.usedTraffic now then
    reenableChildren cfg live now cur
  else expireReseller cfg live cur

section Watching

variable {ar cfg} {U : List ResellerUserCache} {cur : Reseller} {s : Session} {t : Txn}

theorem unflushed_withReseller (db cur : Reseller) (sts : List Stmt) :
    (Session.withReseller db cur sts).unflushed = sts ++ Slot.reseller.stmts ⟨some db, cur⟩ := by
  simp [Session.unflushed, Session.withReseller, Session.stmtsOf, Session.empty, Slot.order,
    Slot.reseller, Slot.payment, Slot.trial, Slot.user]

theorem any_set {rows : List Reseller} {i : ℕ} {g : Reseller → Reseller}
    (hg : ∀ r, (g r).id = r.id) :
    (Rows.set Reseller.id rows i g).any (·.id = i) = rows.any (·.id = i) := by
  have hcomp : ((fun r : Reseller => decide (r.id = i)) ∘ fun r => if r.id = i then g r else r) =
      fun r => decide (r.id = i) := by
    funext r
    by_cases h : r.id = i
    · simp [h, hg]
    · simp [h]
  rw [Rows.set, List.any_map, hcomp]

theorem watching_clean (hU : t.working.users = U) (hany : t.working.resellers.any (·.id = cur.id)) :
    Watching U cur (.withReseller cur cur []) t :=
  ⟨cur, [], t.working, rfl, rfl, hU, rfl, rfl, hany⟩

/-- The flush of what a visit has done so far. -/
theorem Watching.ahead (h : Watching U cur s t) : ∃ T, Ahead s t T ∧ T.users = U ∧
    s.flushed = .withReseller cur cur [] ∧ T.resellers.any (·.id = cur.id) := by
  obtain ⟨db, sts, T, rfl, hT, hU, hid, hname, hany⟩ := h
  by_cases hsame : db = cur
  · have hs : Slot.reseller.stmts ⟨some db, cur⟩ = [] := if_pos hsame
    refine ⟨T, ⟨rfl, ?_⟩, hU, rfl, hany⟩
    rw [unflushed_withReseller, hs, List.append_nil, hT]
  · have hs : Slot.reseller.stmts ⟨some db, cur⟩ = [.updateReseller db cur] := if_neg hsame
    have hst : Stmt.execAll T [.updateReseller db cur] = .ok { T with
        resellers := Rows.set Reseller.id T.resellers cur.id (db.update cur) } := by
      rw [Stmt.execAll, Stmt.exec, if_neg fun hne => hne.1 hname, hid, if_pos hany]
      rfl
    refine ⟨{ T with resellers := Rows.set Reseller.id T.resellers cur.id (db.update cur) },
      ⟨rfl, ?_⟩, hU, rfl, (any_set (g := db.update cur) fun _ => rfl).trans hany⟩
    rw [unflushed_withReseller, hs, Stmt.execAll_append hT, hst]

variable (ar) in
/-- An assignment to other columns than the keys. -/
theorem Watching.assign (h : Watching U cur s t) {f : Reseller → Reseller}
    (hid : (f cur).id = cur.id)
    (hname : (f cur).rebeccaAdminUsername = cur.rebeccaAdminUsername) :
    Act.Returns ar.react s t (Slot.reseller.assign f) fun _ s' t' =>
      Watching U (f cur) s' t' ∧ t'.panel = t.panel := by
  obtain ⟨db, sts, T, rfl, hT, hU, hid', hname', hany⟩ := h
  refine ⟨(), _, t, rfl, ⟨db, sts, T, rfl, hT, hU, ?_, ?_, ?_⟩, rfl⟩
  · rw [hid', hid]
  · rw [hname', hname]
  · rw [hid, hany]

variable (ar) in
theorem Watching.audit (h : Watching U cur s t) (action result : String) (orderId : Option ℕ) :
    Act.Returns ar.react s t (audit action result orderId) fun _ s' t' =>
      Watching U cur s' t' ∧ t'.panel = t.panel := by
  obtain ⟨db, sts, T, rfl, hT, hU, hrest⟩ := h
  refine ⟨(), _, t, rfl, ⟨db, sts ++ [.insertAudit ⟨action, result, orderId⟩],
    { T with audits := T.audits ++ [⟨action, result, orderId⟩] }, rfl, ?_, hU, hrest⟩, rfl⟩
  rw [Stmt.execAll_append hT]
  rfl

variable (ar) in
theorem Watching.notify (h : Watching U cur s t) (chat : ℤ) :
    Act.Returns ar.react s t (notify chat) fun _ s' t' =>
      s' = s ∧ t'.working = t.working ∧ Watching U cur s' t' ∧ t'.panel = t.panel :=
  ⟨_, s, _, run_notify .., rfl, rfl, h, rfl⟩

variable (ar) in
theorem Watching.warnReseller (h : Watching U cur s t) (chat : ℤ) (live : Admin) (kind : String)
    (threshold : Option ℤ) : Act.Returns ar.react s t (warnReseller chat live kind threshold)
      fun _ s' t' => Watching U cur s' t' ∧ t'.panel = t.panel := by
  cases threshold with
  | none => exact ⟨(), s, t, rfl, h, rfl⟩
  | some n =>
    obtain ⟨T, hT, hU, hs, hany⟩ := h.ahead
    let warning : WarningEvent :=
      ⟨"reseller", live.username, kind ++ toString n, entitlementKey live⟩
    show Act.Returns ar.react s t (notifyOnce chat warning) _
    have hquery : Act.run ar.react s t (query (.warning warning)) = _ :=
      hT.run_query (.warning warning)
    rw [hs] at hquery
    have hw : Watching U cur (.withReseller cur cur []) { t with working := T } :=
      watching_clean hU hany
    cases hsent : T.warnings.any (· = warning) with
    | true =>
      refine ⟨(), _, _, ?_, hw, rfl⟩
      rw [notifyOnce, Act.run_bind_ok _ _ _ _ hquery, Query.run, hsent]
      rfl
    | false =>
      obtain ⟨delivered, s', t', hrun, rfl, hworking, hw', hpanel⟩ := hw.notify ar chat
      have hrest : Act.run ar.react s t (notifyOnce chat warning) =
          Act.run ar.react (.withReseller cur cur []) t'
            (Act.when delivered (add (.insertWarning warning))) := by
        rw [notifyOnce, Act.run_bind_ok _ _ _ _ hquery, Query.run, hsent]
        exact Act.run_bind_ok _ _ _ _ hrun
      cases delivered with
      | false => exact ⟨(), _, _, hrest, hw', hpanel⟩
      | true =>
        refine ⟨(), _, _, hrest, ⟨cur, [.insertWarning warning],
          { T with warnings := T.warnings ++ [warning] }, rfl, ?_, hU, rfl, rfl, hany⟩, hpanel⟩
        rw [hworking, Stmt.execAll, Stmt.exec, hsent]
        rfl

variable (ar) in
theorem Watching.warnAboutEntitlement (h : Watching U cur s t) (chat : ℤ) (live : Admin)
    (now : Datetime) (times traffics : List ℤ) :
    Act.Returns ar.react s t (warnAboutEntitlement chat live now times traffics) fun _ s' t' =>
      Watching U cur s' t' ∧ t'.panel = t.panel := by
  refine (h.warnReseller ar chat live _ _).bind fun _ s₁ t₁ ⟨h₁, hp₁⟩ => ?_
  refine (h₁.warnReseller ar chat live _ _).mono fun _ s₂ t₂ ⟨h₂, hp₂⟩ => ⟨h₂, hp₂.trans hp₁⟩

variable {w : Place} {r : Reseller} {live : Admin} {now : Datetime} {times traffics : List ℤ}

theorem returns_decision {Q : Unit → Session → Txn → Prop} (hr : r ∈ w.tables.resellers)
    (hh : r.automationHold = false) (hn : truthy r.rebeccaAdminUsername = true)
    (hl : w.panel.toServer.getAdmin r.rebeccaAdminUsername = some live)
    (hd : ∀ s t, Watching w.tables.users (observed live now r) s t → t.panel = w.panel →
      Act.Returns ar.react s t (decision cfg live now (observed live now r)) Q) :
    Act.Returns ar.react Session.empty w.enter (syncReseller cfg now times traffics
      Session.empty.epoch r) Q := by
  have hw : Watching w.tables.users r (.withReseller r r []) w.enter :=
    watching_clean rfl (List.any_eq_true.mpr ⟨r, hr, decide_eq_true rfl⟩)
  have hrun : Act.run ar.react Session.empty w.enter (syncReseller cfg now times traffics
      Session.empty.epoch r) = Act.run ar.react (.withReseller r r []) w.enter (do
        Slot.reseller.assign (observed live now)
        warnAboutEntitlement r.telegramId live now times traffics
        let reseller ← Slot.reseller.read
        decision cfg live now reseller) := by
    rw [syncReseller, Act.run_bind_ok _ _ _ _ (run_holdLoaded ar.react w.enter Slot.reseller rfl r),
      if_neg (by simp [hh, hn]), Act.run_bind, Act.run_attempt, run_getAdmin]
    have hans : (ar.react (.call .lookup (.getAdmin r.rebeccaAdminUsername)) w.enter) =
        (.ok (some live), w.enter) := by
      rw [← hl]
      rfl
    rw [hans]
    rfl
  obtain ⟨⟨⟩, s₁, t₁, h₁, hw₁, hp₁⟩ := hw.assign ar (f := observed live now) rfl rfl
  rw [Act.run_bind_ok _ _ _ _ h₁] at hrun
  obtain ⟨⟨⟩, s₂, t₂, h₂, hw₂, hp₂⟩ :=
    hw₁.warnAboutEntitlement ar r.telegramId live now times traffics
  rw [Act.run_bind_ok _ _ _ _ h₂] at hrun
  have hread : Act.run ar.react s₂ t₂ Slot.reseller.read =
      ((.ok (observed live now r), s₂), t₂) := by
    obtain ⟨db, sts, T, rfl, -⟩ := hw₂
    rfl
  rw [Act.run_bind_ok _ _ _ _ hread] at hrun
  obtain ⟨a, s', t', hrest, hQ⟩ := hd s₂ t₂ hw₂ (hp₂.trans hp₁)
  exact ⟨a, s', t', hrun.trans hrest, hQ⟩

end Watching

/-! ## The loop over the flagged rows -/

/-- The child may come back: it is still owned and not exhausted. -/
def User.mayReturn (child : User) (admin : String) (now : Datetime) : Prop :=
  verifiedOwner child (some admin) = true ∧ child.isExhausted now = false

instance (child : User) (admin : String) (now : Datetime) : Decidable (child.mayReturn admin now) :=
  inferInstanceAs (Decidable (_ ∧ _))

/-- Rebecca after the children with these names have come back. -/
def Panel.returned (p : Panel) (admin : String) (now : Datetime) (names : List String) : Panel :=
  { p with users := fun name => (p.users name).map fun u =>
      if name ∈ names ∧ u.mayReturn admin now then { u with status := "active" } else u }

section Loop

variable {ar cfg} {p : Panel} {live : Admin} {now : Datetime} {s : Session} {t : Txn}
  {names : List String} {name : String}

theorem returned_nil : p.returned live.username now [] = p := by
  have h : (fun name => (p.users name).map fun u =>
      if name ∈ ([] : List String) ∧ u.mayReturn live.username now then { u with status := "active" }
      else u) = p.users := by
    funext name
    simp
  rw [Panel.returned, h]

/-- A user in Rebecca after some children have come back. -/
theorem returned_users (name : String) : (p.returned live.username now names).users name =
    (p.users name).map fun u =>
      if name ∈ names ∧ u.mayReturn live.username now then { u with status := "active" } else u :=
  rfl

/-- A child that may not come back. -/
theorem returned_same (h : ∀ u, p.users name = some u → ¬u.mayReturn live.username now) :
    p.returned live.username now (names ++ [name]) = p.returned live.username now names := by
  unfold Panel.returned
  congr 1
  funext other
  cases hu : p.users other with
  | none => rfl
  | some u =>
    by_cases ho : other = name
    · subst ho
      simp [h u hu]
    · simp [ho]

/-- A child that comes back. -/
theorem returned_set {u : User} (hu : p.users name = some u) (hr : u.mayReturn live.username now) :
    p.returned live.username now (names ++ [name]) = { p.returned live.username now names with
      users := Function.update (p.returned live.username now names).users name
        (some { u with status := "active" }) } := by
  unfold Panel.returned
  congr 1
  funext other
  by_cases ho : other = name
  · subst ho
    simp [hu, hr]
  · simp [ho]

theorem returns_reenableChild {ep : ℕ} (cached : ResellerUserCache) (hep : s.epoch = ep)
    (hp : t.panel = p.returned live.username now names) :
    Act.Returns ar.react s t (reenableChild live now ep cached) fun _ s' t' => s'.epoch = ep ∧
      t'.panel = p.returned live.username now (names ++ [cached.username]) := by
  have hget : ar.react (.call .user (.getUser cached.username)) t =
      (.ok (t.panel.getUser cached.username), t) := rfl
  have hfound : t.panel.getUser cached.username = (p.users cached.username).map fun u =>
      { u with
        username := cached.username
        status := if cached.username ∈ names ∧ u.mayReturn live.username now then "active"
          else u.status } := by
    rw [Panel.getUser, hp, returned_users, Option.map_map]
    congr 1
    funext u
    by_cases h : cached.username ∈ names ∧ u.mayReturn live.username now
    · simp [h]
    · simp [h]
  unfold Act.Returns
  rw [reenableChild, Act.run_bind_ok _ _ _ _ (run_holdLoaded ar.react t Slot.user hep cached),
    Act.run_bind, run_call, hget, hfound]
  cases hu : p.users cached.username with
  | none =>
    refine ⟨(), _, t, rfl, hep, ?_⟩
    rw [hp, returned_same fun u hu' => nomatch hu.symm.trans hu']
  | some u =>
    simp only [Option.map_some]
    by_cases hr : u.mayReturn live.username now
    · have hset : ar.react (.call .user (.enableUser cached.username)) t = (.ok (), { t with
          panel := p.returned live.username now (names ++ [cached.username]) }) := by
        show ((t.panel.setUser cached.username _).1, { t with
          panel := (t.panel.setUser cached.username _).2 }) = _
        rw [returned_set hu hr, hp, Panel.setUser, returned_users, hu]
        by_cases hmem : cached.username ∈ names
        · simp [hmem, hr]
        · simp [hmem]
      rw [if_pos ⟨hr.1, by simpa [User.isExhausted] using hr.2⟩, Act.run_bind, run_call, hset]
      exact ⟨(), _, _, rfl, hep, rfl⟩
    · rw [if_neg fun h => hr ⟨h.1, by simpa [User.isExhausted] using h.2⟩]
      refine ⟨(), _, t, rfl, hep, ?_⟩
      rw [returned_same, hp]
      intro v hv
      rw [hu] at hv
      cases hv
      exact hr

/-- The rows `rest` are left, and the others have been visited. -/
def Returning (p : Panel) (live : Admin) (now : Datetime) (ep : ℕ) (rows : List ResellerUserCache)
    (rest : List ResellerUserCache) (s : Session) (t : Txn) : Prop :=
  s.epoch = ep ∧ ∃ done, done ++ rest.map (·.username) = rows.map (·.username) ∧
    t.panel = p.returned live.username now done

theorem returns_loop (rows : List ResellerUserCache) (hp : t.panel = p) :
    Act.Returns ar.react s t (Act.forEach (reenableChild live now s.epoch) rows) fun _ _ t' =>
      t'.panel = p.returned live.username now (rows.map (·.username)) := by
  have hstep : ∀ cached rest s' t', Returning p live now s.epoch rows (cached :: rest) s' t' →
      Act.Returns ar.react s' t' (reenableChild live now s.epoch cached) fun _ =>
        Returning p live now s.epoch rows rest := by
    rintro cached rest s' t' ⟨hep, done, hdone, hp'⟩
    refine (returns_reenableChild cached hep hp').mono fun _ s'' t'' h => ⟨h.1, _, ?_, h.2⟩
    rw [← hdone]
    simp
  have hstart : Returning p live now s.epoch rows rows s t :=
    ⟨rfl, [], rfl, by rw [returned_nil, hp]⟩
  refine (Act.Returns.forEach hstep hstart).mono ?_
  rintro - s' t' ⟨-, done, hdone, hp'⟩
  rw [hp', ← hdone, List.map_nil, List.append_nil]

/-- The users whose rows are flagged. -/
def flaggedNames (U : List ResellerUserCache) (resellerId : ℕ) : List String :=
  (U.filter fun u => u.resellerId = resellerId && u.disabledByParentReseller).map (·.username)

theorem mem_flaggedNames {T : Tables} {resellerId : ℕ} :
    name ∈ flaggedNames T.users resellerId ↔ Flagged T resellerId name := by
  unfold flaggedNames Flagged
  rw [List.mem_map]
  constructor
  · rintro ⟨u, hu, rfl⟩
    rw [List.mem_filter, Bool.and_eq_true, decide_eq_true_eq] at hu
    exact ⟨u, hu.1, hu.2.1, rfl, hu.2.2⟩
  · rintro ⟨u, hu, hid, rfl, hf⟩
    exact ⟨u, List.mem_filter.mpr ⟨hu, by simp [hid, hf]⟩, rfl⟩

/-- The children come back whose rows are flagged. -/
theorem returns_reenableChildren {U : List ResellerUserCache} {cur : Reseller}
    (h : Watching U cur s t) (ha : cur.status = .ACTIVE) (hd : cfg.dryRun = false) :
    Act.Returns ar.react s t (reenableChildren cfg live now cur) fun _ _ t' =>
      t'.panel = t.panel.returned live.username now (flaggedNames U cur.id) := by
  obtain ⟨T, hT, rfl, -⟩ := h.ahead
  have hrun : Act.run ar.react s t (reenableChildren cfg live now cur) =
      Act.run ar.react s.flushed { t with working := T } (Act.forEach
        (reenableChild live now s.flushed.epoch) (Query.run T (.usersDisabledByParent cur.id))) := by
    rw [reenableChildren, if_pos ⟨ha, by rw [hd]; decide⟩,
      Act.run_bind_ok _ _ _ _ (hT.run_query (.usersDisabledByParent cur.id))]
    rfl
  unfold Act.Returns
  rw [hrun]
  exact returns_loop (p := t.panel) _ rfl

end Loop

/-! ## The visit to an active parent -/

/-- Rebecca after the visit of `_sync_resellers` to the reseller. -/
def Around.visit (now : Datetime) (times traffics : List ℤ) (r : Reseller) (w : Place) : Panel :=
  (Act.run ar.react Session.empty w.enter
    (syncReseller cfg now times traffics Session.empty.epoch r)).2.panel

section Visit

variable {ar cfg} {w : Place} {r : Reseller} {now : Datetime} {times traffics : List ℤ}

/-- A parent on hold is passed by. -/
theorem visit_hold (hh : r.automationHold = true) :
    ar.visit cfg now times traffics r w = w.panel := by
  have hrun : Act.run ar.react Session.empty w.enter
      (syncReseller cfg now times traffics Session.empty.epoch r) =
        ((.ok (), .withReseller r r []), w.enter) := by
    rw [syncReseller, Act.run_bind_ok _ _ _ _ (run_holdLoaded ar.react w.enter Slot.reseller rfl r),
      if_pos (by simp [hh])]
    rfl
  rw [Around.visit, hrun]
  rfl

/-- Rebecca after the visit. -/
theorem visit_active {live : Admin} (hr : r ∈ w.tables.resellers) (hh : r.automationHold = false)
    (ha : r.status = .ACTIVE) (hd : cfg.dryRun = false) (hn : truthy r.rebeccaAdminUsername = true)
    (hl : w.panel.toServer.getAdmin r.rebeccaAdminUsername = some live)
    (hx : exhausted live.expire live.dataLimit live.usedTraffic now = false) :
    ar.visit cfg now times traffics r w =
      w.panel.returned live.username now (flaggedNames w.tables.users r.id) := by
  have hreturns : Act.Returns ar.react Session.empty w.enter
      (syncReseller cfg now times traffics Session.empty.epoch r) fun _ _ t =>
        t.panel = w.panel.returned live.username now (flaggedNames w.tables.users r.id) := by
    refine returns_decision hr hh hn hl fun s t hw hp => ?_
    rw [decision, if_pos (by simp [hx]), ← hp]
    exact returns_reenableChildren hw ha hd
  obtain ⟨⟨⟩, s, t, hrun, hpanel⟩ := hreturns
  rw [Around.visit, hrun]
  exact hpanel

end Visit

/-! ## Children and their parent -/

/-- The parent is active again, and its admin is not exhausted. -/
structure Reactivated (r : Reseller) (now : Datetime) (w : Place) : Prop where
  row : r ∈ w.tables.resellers
  named : truthy r.rebeccaAdminUsername = true
  status : r.status = .ACTIVE
  live : ∃ live, w.panel.toServer.getAdmin r.rebeccaAdminUsername = some live ∧
    exhausted live.expire live.dataLimit live.usedTraffic now = false

/-- The child of the reseller with that username. -/
def ChildOf (r : Reseller) (p : Panel) (username : String) (child : User) : Prop :=
  p.getUser username = some child ∧ verifiedOwner child r.rebeccaAdminUsername = true

def ActiveIn (p : Panel) (username : String) : Prop :=
  ∃ child, p.getUser username = some child ∧ isActive child.status = true

/-- The child was active before; now it is owned by the parent and not exhausted. -/
structure Entitled (r : Reseller) (now : Datetime) (before p : Panel) (username : String)
    (child : User) : Prop where
  before : ∃ c, ChildOf r before username c ∧ isActive c.status = true
  owned : ChildOf r p username child
  left : child.isExhausted now = false

section Return

variable {ar cfg} {w : Place} {r : Reseller} {now : Datetime} {times traffics : List ℤ}
  {username : String} {child : User}

theorem isActive_active : isActive "active" = true := by decide

/-- A child after the visit to its parent. -/
theorem active_visit (hd : cfg.dryRun = false) (hb : Reactivated r now w)
    (hc : ChildOf r w.panel username child) (hx : child.isExhausted now = false) :
    ActiveIn (ar.visit cfg now times traffics r w) username ↔
      isActive child.status = true ∨
        (r.automationHold = false ∧ Flagged w.tables r.id username) := by
  cases hh : r.automationHold with
  | true =>
    unfold ActiveIn
    rw [visit_hold hh, hc.1]
    simp
  | false =>
    obtain ⟨live, hl, hlx⟩ := hb.live
    obtain ⟨name, hname, hlive⟩ := Option.bind_eq_some_iff.mp hl
    obtain ⟨a, -, ha⟩ := Option.map_eq_some_iff.mp hlive
    have hsame : live.username = name := by rw [← ha]
    obtain ⟨u, hu, rfl⟩ := Option.map_eq_some_iff.mp hc.1
    have hmay : u.mayReturn live.username now := by
      rw [hsame]
      exact ⟨hname ▸ hc.2, hx⟩
    unfold ActiveIn Panel.getUser
    rw [visit_active hb.row hh hb.status hd hb.named hl hlx, returned_users, hu,
      ← mem_flaggedNames]
    by_cases hf : username ∈ flaggedNames w.tables.users r.id
    · simp [hf, hmay, isActive_active]
    · simp [hf]

/-- **Children come back with their parent** at the first visit after its reactivation, if and only
if every such child that is not active already is remembered, and the parent is not on hold. -/
theorem children_return_iff (ar : Around) (cfg : Settings) (batchSize : ℕ)
    (hd : cfg.dryRun = false) (d : Disabler) (r : Reseller) (w₀ w : Place) (es : List Happening)
    (now : Datetime) (times traffics : List ℤ)
    (hkeyed : Rows.Keyed ResellerUserCache.id w₀.tables.users)
    (hes : Machine.Always (Place.next ar cfg batchSize)
      (fun w e => Happening.Meanwhile ar batchSize r.id w e) w₀ (.task (d.task r.id) :: es))
    (hw : w = Machine.run (Place.next ar cfg batchSize) w₀ (.task (d.task r.id) :: es))
    (hb : Reactivated r now w) :
    (∀ username child, Entitled r now w₀.panel w.panel username child →
      ActiveIn (ar.visit cfg now times traffics r w) username) ↔
    ∀ username child, Entitled r now w₀.panel w.panel username child →
      isActive child.status = true ∨ (r.automationHold = false ∧
        Remembers ar cfg batchSize r.id username w₀ (.task (d.task r.id) :: es)) := by
  refine forall₂_congr fun username child => forall_congr' fun hc => ?_
  rw [active_visit hd hb hc.owned hc.left, hw, flagged_history hkeyed hes]

/-- The flags of the environment allow the disable actions. -/
def enforcing : Settings :=
  ⟨"", [9], "", false, true, true, true, 72, 24, 10, [3, 1], [20], false, "", ""⟩

def quietly : Around where
  clock _ := 10 * day
  draw _ := 0
  token _ := ""
  deliver _ := .ok ()
  member _ := .ok ""
  transaction _ _ := .error ⟨.runtime, ""⟩

def parent : Reseller where
  id := 1
  telegramId := 5
  telegramUsername := none
  rebeccaAdminUsername := some "shop"
  status := .ACTIVE
  productId := some 1
  expiresAt := none
  purchasedTrafficBytes := 0
  lastKnownDataLimit := 0
  lastKnownUsage := 0
  lastKnownRemaining := 0
  trial := false
  trialUsed := false
  suspendedReason := none
  lastSyncAt := none
  automationHold := false

def kid (status : String) : User := ⟨"kid", some "shop", status, none, some 1000, false, 0⟩

/-- Rebecca has the admin `shop` with the user `kid`. -/
def family (expire : Option Datetime) : Panel where
  admins := fun name => if name = "shop" then
    some ⟨"shop", "reseller", "active", expire, none, 0, [], none⟩ else none
  createdFor _ := none
  users := fun name => if name = "kid" then some (kid "active") else none
  names := ["kid"]
  bulk := true

/-- The parent expires in a run that is committed; it pays, and a job applies the order. -/
def home : Place where
  tables := ⟨[parent], [], [], [], [],
    [⟨1, 1, "kid", "shop", "active", none, some 1000, 0, none, .ACTIVE, none, none, none, false,
      false, false⟩], [], [], [], [], []⟩
  panel := family (some (9 * day))
  ticks := 0

def expired : Place := home.next quietly enforcing 10 (.task .run)

def ordered : Tables :=
  { expired.tables with
    products := [⟨1, "month", [], 30, 1, none⟩]
    orders := [⟨1, "A-1", 1, 1, 5, "USD", .PAID, .card, some (10 * day), none, none, none, none⟩] }

def renewal : List Happening := [.task .run, .tables ordered, .task .reconcilePaidOrders]

def paidUp : Place := Machine.run (Place.next quietly enforcing 10) home renewal

def renewedParent : Reseller :=
  { parent with expiresAt := some (9 * day), lastSyncAt := some (10 * day) }

theorem reactivated_paidUp : Reactivated renewedParent (10 * day) paidUp := by
  have hrows : paidUp.tables.resellers = [renewedParent] := by decide +kernel
  have hlive : paidUp.panel.toServer.getAdmin (some "shop") = some ⟨"shop", "reseller", "active",
      some (40 * day), some (gib 1), 0, [], none⟩ := by decide +kernel
  exact ⟨by rw [hrows]; exact List.mem_singleton_self _, by decide, rfl, _, hlive, by decide⟩

theorem spares_home : SparesChildren quietly 10 1 home := by
  intro row hrow k _ _
  obtain rfl := List.mem_singleton.mp (show row ∈ [parent] from hrow)
  refine .inr (.inr ?_)
  rintro _ ⟨⟩
  show exhausted (some (9 * day)) none 0 (10 * day) = true
  decide

theorem children_return_renewed :
    (∀ username child, Entitled renewedParent (10 * day) home.panel paidUp.panel username child →
      ActiveIn (quietly.visit enforcing (10 * day) [3, 1] [20] renewedParent paidUp) username) ↔
    ∀ username child, Entitled renewedParent (10 * day) home.panel paidUp.panel username child →
      isActive child.status = true ∨ (renewedParent.automationHold = false ∧
        Remembers quietly enforcing 10 renewedParent.id username home renewal) :=
  children_return_iff quietly enforcing 10 rfl .scheduler renewedParent home paidUp
    [.tables ordered, .task .reconcilePaidOrders] (10 * day) [3, 1] [20] (List.nodup_singleton _)
    ⟨spares_home, rfl, trivial, trivial⟩ rfl reactivated_paidUp

/-- The bot has not seen the user yet. -/
def unseen : Place where
  tables := ⟨[parent], [], [], [], [], [], [], [], [], [], []⟩
  panel := family none
  ticks := 0

/-- An owner disables the parent and enables it again. -/
def reopened : Place := Machine.run (Place.next quietly enforcing 10) unseen
  [.task (.resellerDisable 9 1), .task (.resellerEnable 9 1)]

/-- A child that the bot has not seen does not come back. -/
theorem child_not_returned : Reactivated parent (10 * day) reopened ∧
    Entitled parent (10 * day) unseen.panel reopened.panel "kid" (kid "disabled") ∧
    ¬ActiveIn (quietly.visit enforcing (10 * day) [3, 1] [20] parent reopened) "kid" := by
  have hrows : reopened.tables.resellers = [parent] := by decide +kernel
  have hlive : reopened.panel.toServer.getAdmin (some "shop") =
      some ⟨"shop", "reseller", "active", none, none, 0, [], none⟩ := by decide +kernel
  have hkid : reopened.panel.getUser "kid" = some (kid "disabled") := by decide +kernel
  have husers : reopened.tables.users = [] := by decide +kernel
  have hparent : Reactivated parent (10 * day) reopened :=
    ⟨by rw [hrows]; exact List.mem_singleton_self _, by decide, rfl, _, hlive, by decide⟩
  have howned : ChildOf parent reopened.panel "kid" (kid "disabled") := ⟨hkid, by decide⟩
  refine ⟨hparent, ⟨⟨kid "active", ⟨rfl, by decide⟩, isActive_active⟩, howned, by decide⟩, ?_⟩
  rw [active_visit rfl hparent howned (by decide)]
  rintro (h | ⟨-, u, hu, -⟩)
  · exact absurd h (by decide)
  · rw [husers] at hu
    cases hu

end Return

end ResellerBot
