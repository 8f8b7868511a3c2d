import ResellerBot.Schedule.History
import ResellerBot.Database.Traced

/-!
# ResellerBot.Schedule.Silence — steps that warn nobody

The warnings that are told and the admin that is read are read off the exchanges of a run.  Most
statements of a pass over the resellers leave both as they are, and the table of warnings as well.
-/

open Interact

namespace ResellerBot

/-! ## Exchanges -/

/-- The warning that the last query has found missing. -/
def asking : Past → Option WarningEvent
  | ⟨.query (.warning e), .ok false⟩ :: _ => some e
  | _ => none

/-- The warnings that were told, in order: the row was missing, and the message was delivered. -/
def told : Past → List WarningEvent
  | [] => []
  | ⟨.send _, .ok ()⟩ :: h => told h ++ (asking h).toList
  | _ :: h => told h

/-- The admin that an exchange has read under the name. -/
def shown (name : String) : Reply Ev Resp → Option Admin
  | ⟨.call _ (.getAdmin username), .ok live⟩ => if username = some name then live else none
  | _ => none

/-- The first admin that was read under the name. -/
def reading (name : String) : Past → Option Admin
  | [] => none
  | x :: h => (reading name h).or (shown name x)

/-- Neither a message nor the search for a warning. -/
def Ev.silent : Ev → Bool
  | .send _ | .query (.warning _) => false
  | _ => true

section Exchanges

variable {x : Reply Ev Resp} {h : Past} {name : String}

theorem told_silent (hx : x.1.silent = true) : told (x :: h) = told h := by
  obtain ⟨e, r⟩ := x
  cases e with
  | send => cases hx
  | _ => rfl

theorem asking_silent (hx : x.1.silent = true) : asking (x :: h) = none := by
  obtain ⟨e, r⟩ := x
  cases e with
  | query q =>
    cases q with
    | warning => cases hx
    | _ => rfl
  | _ => rfl

theorem told_send (chat : ℤ) (h : Past) :
    told (⟨.send chat, .ok ()⟩ :: h) = told h ++ (asking h).toList := rfl

theorem reading_of_not_shown (hx : shown name x = none) :
    reading name (x :: h) = reading name h := by
  rw [reading, hx, Option.or_none]

/-- What has been read stays. -/
theorem reading_of_some {live : Admin} (hr : reading name h = some live) :
    reading name (x :: h) = some live := by
  rw [reading, hr, Option.some_or]

theorem shown_of_ne {why : Cause} {username : Option String} (hne : username ≠ some name)
    (r : Except Err (Option Admin)) : shown name ⟨.call why (.getAdmin username), r⟩ = none := by
  cases r with
  | error e => rfl
  | ok live => exact if_neg hne

end Exchanges

/-! ## What a pass has yet to write -/

/-- The same resellers and users, by their primary keys. -/
structure SameRows (T T' : Tables) : Prop where
  resellers : T'.resellers.map Reseller.id = T.resellers.map Reseller.id
  users : T'.users.map ResellerUserCache.id = T.users.map ResellerUserCache.id

/-- A reseller that was loaded, with the keys of its row. -/
def Obj.OfReseller (T : Tables) (ob : Obj Reseller) : Prop :=
  ob.cur.id ∈ T.resellers.map Reseller.id ∧ ∃ db, ob.db = some db ∧ db.id = ob.cur.id ∧
    db.rebeccaAdminUsername = ob.cur.rebeccaAdminUsername

/-- A user that was loaded, with the keys of its row. -/
def Obj.OfUser (T : Tables) (ob : Obj ResellerUserCache) : Prop :=
  ob.cur.id ∈ T.users.map ResellerUserCache.id ∧ ∃ db, ob.db = some db ∧ db.id = ob.cur.id ∧
    db.dataLimit = ob.cur.dataLimit

section Statements

variable {T₀ T : Tables}

theorem SameRows.refl (T : Tables) : SameRows T T := ⟨rfl, rfl⟩

theorem SameRows.trans {T' : Tables} (h : SameRows T₀ T) (h' : SameRows T T') : SameRows T₀ T' :=
  ⟨h'.resellers.trans h.resellers, h'.users.trans h.users⟩

theorem any_of_mem_map {β : Type} {key : β → ℕ} {rows : List β} {i : ℕ} (h : i ∈ rows.map key) :
    rows.any (key · = i) = true := by
  obtain ⟨r, hr, rfl⟩ := List.mem_map.mp h
  exact List.any_eq_true.mpr ⟨r, hr, decide_eq_true rfl⟩

theorem execAll_ofReseller {ob : Obj Reseller} (h : ob.OfReseller T₀) (hT : SameRows T₀ T) :
    ∃ T', Stmt.execAll T (Slot.reseller.stmts ob) = .ok T' ∧ T'.warnings = T.warnings ∧
      SameRows T₀ T' := by
  obtain ⟨hmem, db, hdb, hid, hname⟩ := h
  obtain ⟨_, cur⟩ := ob
  obtain rfl := hdb
  by_cases hsame : db = cur
  · have hs : Slot.reseller.stmts ⟨some db, cur⟩ = [] := if_pos hsame
    rw [hs]
    exact ⟨T, rfl, rfl, hT⟩
  · have hs : Slot.reseller.stmts ⟨some db, cur⟩ = [.updateReseller db cur] := if_neg hsame
    have hany : T.resellers.any (·.id = db.id) = true :=
      any_of_mem_map (by rwa [hT.resellers, hid])
    refine ⟨{ T with resellers := Rows.set Reseller.id T.resellers db.id (db.update cur) }, ?_, rfl,
      hT.trans ⟨Rows.map_set fun _ => rfl, rfl⟩⟩
    rw [hs, Stmt.execAll, Stmt.exec, if_neg fun hne => hne.1 hname, if_pos hany]
    rfl

theorem execAll_ofUser {ob : Obj ResellerUserCache} (h : ob.OfUser T₀) (hT : SameRows T₀ T) :
    ∃ T', Stmt.execAll T (Slot.user.stmts ob) = .ok T' ∧ T'.warnings = T.warnings ∧
      SameRows T₀ T' := by
  obtain ⟨hmem, db, hdb, hid, hlimit⟩ := h
  obtain ⟨_, cur⟩ := ob
  obtain rfl := hdb
  by_cases hsame : db = cur
  · have hs : Slot.user.stmts ⟨some db, cur⟩ = [] := if_pos hsame
    rw [hs]
    exact ⟨T, rfl, rfl, hT⟩
  · have hs : Slot.user.stmts ⟨some db, cur⟩ = [.updateUser db cur] := if_neg hsame
    have hany : T.users.any (·.id = db.id) = true := any_of_mem_map (by rwa [hT.users, hid])
    refine ⟨{ T with users := Rows.set ResellerUserCache.id T.users db.id (db.update cur) }, ?_,
      rfl, hT.trans ⟨rfl, Rows.map_set fun _ => rfl⟩⟩
    rw [hs, Stmt.execAll, Stmt.exec, if_neg fun hne => hne.1 hlimit, if_pos hany]
    rfl

/-- The flags of the children of a reseller. -/
theorem exec_mark (hT : SameRows T₀ T) (resellerId : ℕ) :
    ∃ T' n, (Stmt.markDisabledByParent resellerId).exec T = .ok (T', n) ∧
      T'.warnings = T.warnings ∧ SameRows T₀ T' := by
  refine ⟨_, _, rfl, rfl, hT.trans ⟨rfl, ?_⟩⟩
  show (T.users.map _).map _ = _
  rw [List.map_map]
  refine List.map_congr_left fun u _ => ?_
  rw [Function.comp_apply]
  split_ifs <;> rfl

end Statements

/-- What the session has to write can be written, with the warnings `W` and the rows of `T₀`. -/
structure Flushable (T₀ : Tables) (W : List WarningEvent) (s : Session) (T : Tables) : Prop where
  sound : s.broken = false
  epoch : s.epoch = 0
  order : s.order = none
  payment : s.payment = none
  trial : s.trial = none
  reseller : ∀ ob, s.reseller = some ob → ob.OfReseller T₀
  user : ∀ ob, s.user = some ob → ob.OfUser T₀
  pending : ∃ T', Stmt.execAll T s.pending = .ok T' ∧ T'.warnings = W ∧ SameRows T₀ T'

namespace Flushable

variable {T₀ T T' : Tables} {W : List WarningEvent} {s : Session} (h : Flushable T₀ W s T)
include h

theorem execAll_stmtsOf_reseller (hT : SameRows T₀ T') :
    ∃ T₁, Stmt.execAll T' (s.stmtsOf .reseller) = .ok T₁ ∧ T₁.warnings = T'.warnings ∧
      SameRows T₀ T₁ := by
  unfold Session.stmtsOf
  cases hob : Slot.reseller.get s with
  | none => exact ⟨T', rfl, rfl, hT⟩
  | some ob => exact execAll_ofReseller (h.reseller ob hob) hT

theorem execAll_stmtsOf_user (hT : SameRows T₀ T') :
    ∃ T₁, Stmt.execAll T' (s.stmtsOf .user) = .ok T₁ ∧ T₁.warnings = T'.warnings ∧
      SameRows T₀ T₁ := by
  unfold Session.stmtsOf
  cases hob : Slot.user.get s with
  | none => exact ⟨T', rfl, rfl, hT⟩
  | some ob => exact execAll_ofUser (h.user ob hob) hT

/-- **A flush does not fail.** -/
theorem execAll_unflushed :
    ∃ T', Stmt.execAll T s.unflushed = .ok T' ∧ T'.warnings = W ∧ SameRows T₀ T' := by
  obtain ⟨T₁, h₁, rfl, hr₁⟩ := h.pending
  obtain ⟨T₂, h₂, hw₂, hr₂⟩ := h.execAll_stmtsOf_reseller hr₁
  obtain ⟨T₃, h₃, hw₃, hr₃⟩ := h.execAll_stmtsOf_user hr₂
  have hnone : s.stmtsOf .order = [] ∧ s.stmtsOf .payment = [] ∧ s.stmtsOf .trial = [] := by
    refine ⟨?_, ?_, ?_⟩
    · simp [Session.stmtsOf, Slot.order, h.order]
    · simp [Session.stmtsOf, Slot.payment, h.payment]
    · simp [Session.stmtsOf, Slot.trial, h.trial]
  have hunflushed : s.unflushed = s.pending ++ (s.stmtsOf .reseller ++ s.stmtsOf .user) := by
    simp [Session.unflushed, hnone]
  refine ⟨T₃, ?_, hw₃.trans hw₂, hr₃⟩
  rw [hunflushed, Stmt.execAll_append h₁, Stmt.execAll_append h₂, h₃]

theorem flushed (hw : T'.warnings = W) (hT : SameRows T₀ T') : Flushable T₀ W s.flushed T' where
  sound := h.sound
  epoch := h.epoch
  order := by simp [Session.flushed, h.order]
  payment := by simp [Session.flushed, h.payment]
  trial := by simp [Session.flushed, h.trial]
  reseller ob hob := by
    obtain ⟨ob₀, hob₀, rfl⟩ := Option.map_eq_some_iff.mp hob
    exact ⟨(h.reseller ob₀ hob₀).1, ob₀.cur, rfl, rfl, rfl⟩
  user ob hob := by
    obtain ⟨ob₀, hob₀, hcur⟩ := Option.bind_eq_some_iff.mp hob
    obtain ⟨_, -, rfl⟩ := Option.map_eq_some_iff.mp hcur
    exact ⟨(h.user ob₀ hob₀).1, ob₀.cur, rfl, rfl, rfl⟩
  pending := ⟨T', rfl, hw, hT⟩

/-- One more statement. -/
theorem add {st : Stmt} {W' : List WarningEvent} (hst : ∀ T', T'.warnings = W → SameRows T₀ T' →
    ∃ T₁ n, st.exec T' = .ok (T₁, n) ∧ T₁.warnings = W' ∧ SameRows T₀ T₁) :
    Flushable T₀ W' { s with pending := s.pending ++ [st] } T := by
  obtain ⟨T₁, h₁, hw₁, hr₁⟩ := h.pending
  obtain ⟨T₂, n, h₂, hw₂, hr₂⟩ := hst T₁ hw₁ hr₁
  refine { h with pending := ⟨T₂, ?_, hw₂, hr₂⟩ }
  rw [Stmt.execAll_append h₁, Stmt.execAll, h₂]
  rfl

theorem hold_reseller {ob : Obj Reseller} (hob : ob.OfReseller T₀) :
    Flushable T₀ W { s with pending := s.pending ++ s.stmtsOf .reseller, reseller := some ob }
      T := by
  obtain ⟨T₁, h₁, rfl, hr₁⟩ := h.pending
  obtain ⟨T₂, h₂, hw₂, hr₂⟩ := h.execAll_stmtsOf_reseller hr₁
  refine { h with
    reseller := fun ob' hob' => Option.some.inj hob' ▸ hob
    pending := ⟨T₂, ?_, hw₂, hr₂⟩ }
  rw [Stmt.execAll_append h₁, h₂]

/-- An assignment to other columns than the keys. -/
theorem assign_reseller {g : Reseller → Reseller}
    (hid : ∀ r, (g r).id = r.id)
    (hname : ∀ r, (g r).rebeccaAdminUsername = r.rebeccaAdminUsername) :
    Flushable T₀ W { s with reseller := s.reseller.map fun ob => ⟨ob.db, g ob.cur⟩ } T := by
  refine { h with reseller := fun ob hob => ?_ }
  obtain ⟨ob₀, hob₀, rfl⟩ := Option.map_eq_some_iff.mp hob
  obtain ⟨hmem, db, hdb, hsame, hsame'⟩ := h.reseller ob₀ hob₀
  refine ⟨?_, db, hdb, ?_, ?_⟩
  · rwa [hid]
  · rw [hid, hsame]
  · rw [hname, hsame']

theorem hold_user {ob : Obj ResellerUserCache} (hob : ob.OfUser T₀) :
    Flushable T₀ W { s with pending := s.pending ++ s.stmtsOf .user, user := some ob } T := by
  obtain ⟨T₁, h₁, rfl, hr₁⟩ := h.pending
  obtain ⟨T₂, h₂, hw₂, hr₂⟩ := h.execAll_stmtsOf_user hr₁
  refine { h with
    user := fun ob' hob' => Option.some.inj hob' ▸ hob
    pending := ⟨T₂, ?_, hw₂, hr₂⟩ }
  rw [Stmt.execAll_append h₁, h₂]

end Flushable

/-! ## Rules -/

/-- The table of warnings is `W` once the session is flushed, `S` has been told and `R` read. -/
structure Amid (T₀ : Tables) (name : String) (W S : List WarningEvent) (R : Option Admin)
    (s : Session) (v : Ledger × Past) : Prop where
  session : Flushable T₀ W s v.1.tables
  told : told v.2 = S
  asking : asking v.2 = none
  reading : reading name v.2 = R

/-- Nothing is left to be written but what the objects of the session have changed since. -/
structure AtRest (T₀ : Tables) (name : String) (W S : List WarningEvent) (R : Option Admin)
    (s : Session) (v : Ledger × Past) : Prop extends Amid T₀ name W S R s v where
  pending : s.pending = []
  warnings : v.1.tables.warnings = W
  rows : SameRows T₀ v.1.tables

/-- After an exception: `S` has been told and `R` read. -/
def Over (name : String) (S : List WarningEvent) (R : Option Admin) (_ : Err) (_ : Session)
    (v : Ledger × Past) : Prop :=
  told v.2 = S ∧ reading name v.2 = R

/-- The program neither tells a warning nor reads the admin for the first time. -/
def Plain (o : Remote) (T₀ : Tables) (name : String) (R : Option Admin) {α : Type} (m : Bot α) :
    Prop :=
  ∀ W S, Act.Holds (Spec.exact (logging o.react)) (Amid T₀ name W S R) m
    (fun _ => Amid T₀ name W S R) (Over name S R)

namespace Amid

variable {T₀ : Tables} {name : String} {W S : List WarningEvent} {R : Option Admin} {s s' : Session}
  {v : Ledger × Past}

theorem raised (h : Amid T₀ name W S R s v) (e : Err) : Over name S R e s v := ⟨h.told, h.reading⟩

theorem withSession (h : Amid T₀ name W S R s v) (hs : Flushable T₀ W s' v.1.tables) :
    Amid T₀ name W S R s' v := ⟨hs, h.told, h.asking, h.reading⟩

/-- An exchange that is neither a message nor the search for a warning. -/
theorem silent (h : Amid T₀ name W S R s v) {x : Reply Ev Resp} (hx : x.1.silent = true)
    (hr : shown name x = none ∨ R ≠ none) {d : Ledger} (hs : Flushable T₀ W s' d.tables) :
    Amid T₀ name W S R s' (d, x :: v.2) where
  session := hs
  told := (told_silent hx).trans h.told
  asking := asking_silent hx
  reading := by
    obtain hr | hr := hr
    · exact (reading_of_not_shown hr).trans h.reading
    · obtain ⟨live, rfl⟩ := Option.ne_none_iff_exists'.mp hr
      exact reading_of_some h.reading

end Amid

namespace Plain

open Act (Holds)

variable {o : Remote} {T₀ : Tables} {name : String} {R : Option Admin} {α β : Type} {m : Bot α}
  {f : α → Bot β}

theorem pure (a : α) : Plain o T₀ name R (Pure.pure a : Bot α) :=
  fun _ _ => Holds.pure fun _ _ h => h

theorem raise (e : Err) : Plain o T₀ name R (Act.raise e : Bot α) :=
  fun _ _ => Holds.raise fun _ _ h => h.raised e

theorem outcome (r : Except Err α) : Plain o T₀ name R (Act.outcome r : Bot α) :=
  fun _ _ => Holds.outcome (fun _ _ _ _ h => h) fun e _ _ _ h => h.raised e

theorem bind (hm : Plain o T₀ name R m) (hf : ∀ a, Plain o T₀ name R (f a)) :
    Plain o T₀ name R (m >>= f) :=
  fun W S => (hm W S).bind fun a => hf a W S

theorem ite {c : Prop} [Decidable c] {m' : Bot α} (hm : Plain o T₀ name R m)
    (hm' : Plain o T₀ name R m') : Plain o T₀ name R (if c then m else m') :=
  fun W S => Holds.ite (hm W S) (hm' W S)

theorem when {b : Bool} {m : Bot Unit} (hm : Plain o T₀ name R m) :
    Plain o T₀ name R (Act.when b m) :=
  fun W S => Holds.when (fun _ => hm W S) fun _ _ _ h => h

theorem forEach {f : β → Bot Unit} {xs : List β} (hf : ∀ x ∈ xs, Plain o T₀ name R (f x)) :
    Plain o T₀ name R (Act.forEach f xs) := by
  induction xs with
  | nil => exact pure ()
  | cons x xs ih =>
    rw [List.forall_mem_cons] at hf
    exact hf.1.bind fun _ => ih hf.2

theorem modify {g : Session → Session}
    (hg : ∀ W s T, Flushable T₀ W s T → Flushable T₀ W (g s) T) :
    Plain o T₀ name R (Act.modify g : Bot Unit) :=
  fun W _ => Holds.modify fun s v h => h.withSession (hg W s v.1.tables h.session)

/-! ### Requests -/

/-- A request that leaves the tables alone. -/
theorem ask {e : Ev} (hs : e.silent = true) (ht : ∀ d, (o.react e d).2.tables = d.tables)
    (hr : (∀ r, shown name ⟨e, r⟩ = none) ∨ R ≠ none) : Plain o T₀ name R (ResellerBot.ask e) := by
  refine fun W S => Holds.request (fun _ _ _ => trivial) fun s v r v' h hn => ?_
  obtain ⟨rfl, rfl⟩ := Prod.mk.inj (show logging o.react e v = (r, v') from hn)
  refine h.silent hs (hr.imp_left fun h => h _) ?_
  rw [ht]
  exact h.session

theorem now : Plain o T₀ name R now := ask rfl (fun _ => rfl) (.inl fun _ => rfl)

theorem call (why : Cause) {c : Call} (hc : (∀ username, c ≠ .getAdmin username) ∨ R ≠ none) :
    Plain o T₀ name R (call why c) := by
  refine (ask rfl (fun _ => rfl) (hc.imp_left fun h r => ?_)).bind fun _ => outcome _
  cases c with
  | getAdmin username => exact absurd rfl (h username)
  | _ => rfl

/-- The read of another admin, or a further one of the same. -/
theorem getAdmin {username : Option String} (h : username ≠ some name ∨ R ≠ none) :
    Plain o T₀ name R (getAdmin username) :=
  (ask rfl (fun _ => rfl) (h.imp_left fun h r => shown_of_ne h r)).bind fun _ => outcome _

/-- A message that is not about a warning. -/
theorem notify (chat : ℤ) : Plain o T₀ name R (notify chat) := by
  intro W S
  have hsend : Holds (Spec.exact (logging o.react)) (Amid T₀ name W S R) (sendMessage chat)
      (fun _ => Amid T₀ name W S R) fun _ => Amid T₀ name W S R := by
    refine Holds.bind (Q := fun _ => Amid T₀ name W S R) ?_ fun r =>
      Holds.outcome (fun _ _ _ _ h => h) fun _ _ _ _ h => h
    refine Holds.request (fun _ _ _ => trivial) fun s v r v' h hn => ?_
    obtain ⟨rfl, rfl⟩ := Prod.mk.inj (show logging o.react (.send chat) v = (r, v') from hn)
    refine ⟨h.session, ?_, rfl, (reading_of_not_shown rfl).trans h.reading⟩
    show told (⟨.send chat, o.deliver v.1.asked⟩ :: v.2) = S
    cases o.deliver v.1.asked with
    | error e => exact h.told
    | ok _ =>
      rw [told_send, h.asking, h.told]
      exact List.append_nil S
  refine (Holds.attempt hsend).bind fun r => ?_
  cases r with
  | ok _ => exact Holds.pure fun _ _ h => h
  | error e => exact Holds.pure fun _ _ h => h

/-- The flush does not fail, and leaves nothing to be written. -/
theorem holds_flush {W S : List WarningEvent} {X : Err → Session → Ledger × Past → Prop} :
    Holds (Spec.exact (logging o.react)) (Amid T₀ name W S R) flush
      (fun _ => AtRest T₀ name W S R) X := by
  unfold ResellerBot.flush
  refine Holds.bind (Q := fun s' s v => s' = s ∧ Amid T₀ name W S R s v)
    (Holds.state fun _ _ h => ⟨rfl, h⟩) fun s' => ?_
  refine Holds.of_pre (p := s'.broken = false) (fun s v h => h.1 ▸ h.2.session.sound) fun hb => ?_
  rw [if_neg (by rw [hb]; decide)]
  split_ifs with hempty
  · refine Holds.modify fun s v h => ?_
    obtain ⟨rfl, h⟩ := h
    obtain ⟨T', hT', hw, hr⟩ := h.session.execAll_unflushed
    rw [List.isEmpty_iff.mp hempty] at hT'
    cases hT'
    exact ⟨h.withSession (h.session.flushed hw hr), rfl, hw, hr⟩
  · refine Holds.bind (Q := fun r s v => r = .ok () ∧ AtRest T₀ name W S R s.flushed v) ?_ fun r =>
      ?_
    · refine Holds.request (fun _ _ _ => trivial) fun s v r v' h hn => ?_
      obtain ⟨rfl, h⟩ := h
      obtain ⟨T', hT', hw, hr⟩ := h.session.execAll_unflushed
      have hreact : o.react (.flush s'.unflushed) v.1 = (.ok (), { v.1 with tables := T' }) := by
        rw [Remote.react, hT']
      obtain ⟨rfl, rfl⟩ :=
        Prod.mk.inj (show logging o.react (.flush s'.unflushed) v = (r, v') from hn)
      rw [hreact]
      exact ⟨rfl, h.silent rfl (.inl rfl) (h.session.flushed hw hr), rfl, hw, hr⟩
    · cases r with
      | ok _ => exact Holds.modify fun s v h => h.2
      | error e => exact Holds.vacuous fun s v h => absurd h.1 (by rintro ⟨⟩)

/-- A query that is not for a warning, and where its answer comes from. -/
theorem holds_query {q : Query} (hq : (Ev.query q).silent = true) {W S : List WarningEvent}
    {X : Err → Session → Ledger × Past → Prop} :
    Holds (Spec.exact (logging o.react)) (Amid T₀ name W S R) (query q) (fun a s v =>
      Amid T₀ name W S R s v ∧ ∃ T, SameRows T₀ T ∧ a = q.run T) X := by
  refine holds_flush.bind fun _ => ?_
  refine Holds.bind (Q := fun r s v => ∃ a, r = .ok a ∧ Amid T₀ name W S R s v ∧
    ∃ T, SameRows T₀ T ∧ a = q.run T) ?_ fun r => ?_
  · refine Holds.request (fun _ _ _ => trivial) fun s v r v' h hn => ?_
    obtain ⟨rfl, rfl⟩ := Prod.mk.inj (show logging o.react (.query q) v = (r, v') from hn)
    exact ⟨_, rfl, h.silent hq (.inl rfl) h.session, v.1.tables, h.rows, rfl⟩
  · refine Holds.outcome (fun a ha s v h => ?_) fun e he s v h => ?_
    · obtain ⟨a', ha', h⟩ := h
      rw [ha] at ha'
      cases ha'
      exact h
    · obtain ⟨a', ha', -⟩ := h
      rw [he] at ha'
      cases ha'

theorem execute_mark (resellerId : ℕ) :
    Plain o T₀ name R (execute (.markDisabledByParent resellerId)) := by
  refine fun W S => holds_flush.bind fun _ => ?_
  refine Holds.bind (Q := fun _ => Amid T₀ name W S R) ?_ fun r => outcome r W S
  refine Holds.request (fun _ _ _ => trivial) fun s v r v' h hn => ?_
  obtain ⟨T', n, hT', hw, hr⟩ := exec_mark h.rows resellerId
  have hreact : o.react (.execute (.markDisabledByParent resellerId)) v.1 =
      (.ok n, { v.1 with tables := T' }) := by
    rw [Remote.react, hT']
  obtain ⟨rfl, rfl⟩ := Prod.mk.inj
    (show logging o.react (.execute (.markDisabledByParent resellerId)) v = (r, v') from hn)
  rw [hreact]
  exact h.silent rfl (.inl rfl) { h.session with
    pending := ⟨T', by rw [h.pending]; rfl, hw.trans h.warnings, hr⟩ }

/-! ### The session -/

theorem audit (action result : String) (orderId : Option ℕ) :
    Plain o T₀ name R (audit action result orderId) :=
  modify fun _ _ _ h => h.add fun _ hw hr => ⟨_, _, rfl, hw, hr.trans ⟨rfl, rfl⟩⟩

theorem read {sl : Slot β} : Plain o T₀ name R sl.read := by
  refine fun W S => Holds.bind (Holds.state (Q := fun s' s v => Amid T₀ name W S R s v)
    fun _ _ h => h) fun s' => ?_
  cases sl.get s' with
  | some ob => exact pure _ W S
  | none => exact raise _ W S

/-- An assignment to other columns than the keys. -/
theorem assignReseller {g : Reseller → Reseller} (hid : ∀ r, (g r).id = r.id)
    (hname : ∀ r, (g r).rebeccaAdminUsername = r.rebeccaAdminUsername) :
    Plain o T₀ name R (Slot.reseller.assign g) :=
  modify fun _ _ _ h => h.assign_reseller hid hname

theorem assignUser {g : ResellerUserCache → ResellerUserCache} (hid : ∀ u, (g u).id = u.id)
    (hlimit : ∀ u, (g u).dataLimit = u.dataLimit) : Plain o T₀ name R (Slot.user.assign g) := by
  refine modify fun W s T h => { h with user := fun ob hob => ?_ }
  obtain ⟨ob₀, hob₀, rfl⟩ := Option.map_eq_some_iff.mp hob
  obtain ⟨hmem, db, hdb, hsame, hsame'⟩ := h.user ob₀ hob₀
  refine ⟨?_, db, hdb, ?_, ?_⟩
  · rwa [hid]
  · rw [hid, hsame]
  · rw [hlimit, hsame']

/-- Nothing has been expired since the rows were loaded. -/
theorem holdLoaded {sl : Slot β} {row : β} (h : ∀ W s T, Flushable T₀ W s T →
    Flushable T₀ W (sl.put { s with pending := s.pending ++ s.stmtsOf sl } (some ⟨some row, row⟩))
      T) :
    Plain o T₀ name R (sl.holdLoaded 0 row) := by
  refine fun W S => Holds.bind (Holds.state (Q := fun s' s v => s' = s ∧ Amid T₀ name W S R s v)
    fun _ _ h => ⟨rfl, h⟩) fun s' => ?_
  refine Holds.of_pre (p := s'.epoch = 0) (fun s v h => h.1 ▸ h.2.session.epoch) fun hepoch => ?_
  rw [if_pos hepoch]
  exact Holds.modify fun s v hamid => hamid.2.withSession (h W s _ hamid.2.session)

theorem holdReseller {row : Reseller} (hrow : row.id ∈ T₀.resellers.map Reseller.id) :
    Plain o T₀ name R (Slot.reseller.holdLoaded 0 row) :=
  holdLoaded fun _ _ _ h => h.hold_reseller ⟨hrow, row, rfl, rfl, rfl⟩

theorem holdUser {row : ResellerUserCache} (hrow : row.id ∈ T₀.users.map ResellerUserCache.id) :
    Plain o T₀ name R (Slot.user.holdLoaded 0 row) :=
  holdLoaded fun _ _ _ h => h.hold_user ⟨hrow, row, rfl, rfl, rfl⟩

theorem holds_epoch {W S : List WarningEvent} {X : Err → Session → Ledger × Past → Prop} :
    Holds (Spec.exact (logging o.react)) (Amid T₀ name W S R) epoch
      (fun n s v => n = 0 ∧ Amid T₀ name W S R s v) X :=
  fun _ _ h => ⟨h.session.epoch, h⟩

/-! ### The rest of a visit -/

variable {cfg : Settings} {live : Admin} {reseller : Reseller}

theorem reenableChild (now : Datetime) {cached : ResellerUserCache}
    (hc : cached.id ∈ T₀.users.map ResellerUserCache.id) :
    Plain o T₀ name R (reenableChild live now 0 cached) := by
  refine (holdUser hc).bind fun _ => ?_
  refine (call _ (.inl (by rintro _ ⟨⟩))).bind fun child => ?_
  cases child with
  | none => exact pure ()
  | some child =>
    refine ite ?_ (pure ())
    exact (call _ (.inl (by rintro _ ⟨⟩))).bind fun _ => assignUser (fun _ => rfl) fun _ => rfl

theorem reenableChildren (now : Datetime) : Plain o T₀ name R
    (reenableChildren cfg live now reseller) := by
  refine ite (fun W S => (holds_query rfl).bind fun rows => ?_) (pure ())
  refine Holds.of_pre (p := ∀ u ∈ rows, u.id ∈ T₀.users.map ResellerUserCache.id) ?_ fun hrows => ?_
  · rintro _ _ ⟨-, T, hT, rfl⟩ u hu
    rw [← hT.users]
    exact List.mem_map_of_mem (List.mem_of_mem_filter hu)
  · refine (Holds.bind holds_epoch fun ep => ?_).pre fun _ _ h => h.1
    refine Holds.fact fun hep => ?_
    rw [hep]
    exact forEach (fun u hu => reenableChild now (hrows u hu)) W S

theorem expireReseller (h : some live.username ≠ some name ∨ R ≠ none) :
    Plain o T₀ name R (expireReseller cfg live reseller) := by
  refine ite (pure ()) (ite (audit _ _ _) ?_)
  refine (call _ (.inl (by rintro _ ⟨⟩))).bind fun _ => ?_
  refine (call _ (.inl (by rintro _ ⟨⟩))).bind fun usersToo => ?_
  refine (when ((call _ (.inl (by rintro _ ⟨⟩))).bind fun _ =>
    (execute_mark _).bind fun _ => pure ())).bind fun _ => ?_
  refine (getAdmin h).bind fun verified => ite ?_ (audit _ _ _)
  refine bind (assignReseller (fun _ => rfl) fun _ => rfl) fun _ => ?_
  exact (audit _ _ _).bind fun _ => (notify _).bind fun _ => pure ()

end Plain

end ResellerBot
