import ResellerBot.Schedule.Visit

/-!
# ResellerBot.Schedule.History — passes over the users, one visit after another

The passes of `_sync_users` and `_due_deletions` are sequences of visits.  A scheduler's run works on
a copy of the tables until it commits; a visit that raises ends the run, and what the run has
written is lost.  Rebecca and Telegram answer as they like, and the driver keeps time zones or drops
them (`Remote`).
-/

open Interact

namespace ResellerBot

/-- A call that was made, and its answer. -/
abbrev Asked := (c : Call) × Except Err c.Result

/-- The tables a visit works on, and the calls it has made. -/
structure Ledger where
  tables : Tables
  asked : List Asked

/-- The time, what a call is answered and whether a message is delivered, after the calls made so
far, and whether stored datetimes are read back with their time zones. -/
structure Remote where
  clock : Datetime
  answer : List Asked → (c : Call) → Except Err c.Result
  deliver : List Asked → Except Err Unit
  zoned : Bool

def Remote.react (o : Remote) : (e : Ev) → Ledger → Resp e × Ledger
  | .query q, d => (.ok (q.run d.tables), d)
  | .flush sts, d =>
    match Stmt.execAll d.tables sts with
    | .ok T => (.ok (), { d with tables := T })
    | .error e => (.error e, d)
  | .execute st, d =>
    match st.exec d.tables with
    | .ok (T, n) => (.ok n, { d with tables := T })
    | .error e => (.error e, d)
  | .call _ c, d => (o.answer d.asked c, { d with asked := d.asked ++ [⟨c, o.answer d.asked c⟩] })
  | .send _, d => (o.deliver d.asked, d)
  | .commit, d => (.ok (), d)
  | .now, d => (o.clock, d)
  | .randbelow _, d => (0, d)
  | .token _, d => ("", d)
  | .chatMember _ _, d => (.ok "", d)
  | .transaction _, d => (.error ⟨.runtime, ""⟩, d)
  | .rollback, d | .lock _, d | .unlock _, d | .createTask, d => ((), d)

/-! ## Visits -/

inductive UserVisit
  | listed (reseller : Reseller) (now : Datetime) (graceHours : ℤ) (live : User)
  | due (now : Datetime) (row : ResellerUserCache)

def UserVisit.now : UserVisit → Datetime
  | .listed _ now _ _ | .due now _ => now

/-- A user row belongs to a reseller and a username. -/
abbrev ResellerUserCache.key (u : ResellerUserCache) : ℕ × String := (u.resellerId, u.username)

/-- The row that is visited. -/
def UserVisit.key : UserVisit → ℕ × String
  | .listed reseller _ _ live => (reseller.id, live.username)
  | .due _ row => row.key

def UserVisit.body (cfg : Settings) (zoned : Bool) : UserVisit → Bot Unit
  | .listed reseller now graceHours live => syncUser cfg reseller now graceHours live
  | .due now row => dueDeletion cfg zoned now Session.empty.epoch row

/-- A row is visited for its deadline while the deadline is less than a day away or past. -/
def UserVisit.Possible (T : Tables) : UserVisit → Prop
  | .listed _ _ _ _ => True
  | .due now row => row ∈ T.users ∧ ∃ d, row.deleteAfter = some d ∧ d ≤ now + 24 * hour

/-- The visit with the flush that follows it: the tables it leaves or what it raises, and the calls
it has made. -/
def Remote.visit (o : Remote) (cfg : Settings) (v : UserVisit) (T : Tables) :
    Except Err Tables × List Asked :=
  let r := Act.run o.react Session.empty ⟨T, []⟩ (do
    v.body cfg o.zoned
    flush)
  (r.1.1.map fun _ => r.2.tables, r.2.asked)

/-! ## The tables after a visit -/

def findUser (T : Tables) (key : ℕ × String) : Option ResellerUserCache :=
  Query.run T (.user key.1 key.2)

/-- Primary keys and keys are unique. -/
structure Known (users : List ResellerUserCache) : Prop where
  keyed : Rows.Keyed ResellerUserCache.id users
  named : (users.map ResellerUserCache.key).Nodup

theorem known_nil : Known [] := ⟨List.nodup_nil, List.nodup_nil⟩

section Known

variable {T T' : Tables} {u v r : ResellerUserCache} {k : ℕ × String}

theorem Known.eq (h : Known T.users) (hu : u ∈ T.users) (hv : v ∈ T.users) (hk : u.key = v.key) :
    u = v :=
  List.inj_on_of_nodup_map h.named hu hv hk

theorem findUser_some (h : findUser T k = some u) : u ∈ T.users ∧ u.key = k := by
  have hp := List.find?_some h
  simp only [Bool.and_eq_true, decide_eq_true_eq] at hp
  exact ⟨List.mem_of_find?_eq_some h, Prod.ext hp.1 hp.2⟩

theorem findUser_none (h : findUser T k = none) (hu : u ∈ T.users) : u.key ≠ k := by
  have hp := List.find?_eq_none.mp h u hu
  rintro rfl
  simp at hp

theorem Known.find (h : Known T.users) (hu : u ∈ T.users) : findUser T u.key = some u := by
  cases hf : findUser T u.key with
  | none => exact absurd rfl (findUser_none hf hu)
  | some v =>
    obtain ⟨hv, hk⟩ := findUser_some hf
    rw [h.eq hv hu hk]

/-- `v` is the row that the database makes of `u`: it gives a new row its primary key and an empty
`data_limit` its default. -/
def Entered (u v : ResellerUserCache) : Prop := v = { u with id := v.id, dataLimit := v.dataLimit }

/-- The row under the key of `u` is `u` now, and the others are as they were. -/
structure Written (T T' : Tables) (u : ResellerUserCache) : Prop where
  known : Known T'.users
  row : ∃ v, Entered u v ∧ ∀ w, w ∈ T'.users ↔ (w ∈ T.users ∧ w.key ≠ u.key) ∨ w = v

/-- The row under the key that is written. -/
theorem Written.find (h : Written T T' u) : ∃ v, findUser T' u.key = some v ∧ Entered u v := by
  obtain ⟨hk, v, he, hrow⟩ := h
  have hkey : v.key = u.key := by rw [he]
  exact ⟨v, hkey ▸ hk.find ((hrow v).mpr (.inr rfl)), he⟩

/-- The rows under other keys are as they were. -/
theorem Written.find_other (h : Written T T' u) (hk : k ≠ u.key) :
    findUser T' k = findUser T k := by
  obtain ⟨hk', v, he, hrow⟩ := h
  have hkey : v.key = u.key := by rw [he]
  cases hf : findUser T k with
  | some w =>
    obtain ⟨hw, rfl⟩ := findUser_some hf
    exact hk'.find ((hrow w).mpr (.inl ⟨hw, hk⟩))
  | none =>
    cases hf' : findUser T' k with
    | none => rfl
    | some w =>
      obtain ⟨hw, rfl⟩ := findUser_some hf'
      rcases (hrow w).mp hw with ⟨hw, -⟩ | rfl
      · exact absurd rfl (findUser_none hf hw)
      · exact absurd hkey hk

/-- The columns that no visit changes. -/
structure Kin (r u : ResellerUserCache) : Prop where
  id : u.id = r.id
  resellerId : u.resellerId = r.resellerId
  username : u.username = r.username
  owner : u.rebeccaAdminUsername = r.rebeccaAdminUsername
  hold : u.deletionHold = r.deletionHold

theorem Kin.key (h : Kin r u) : u.key = r.key := Prod.ext h.resellerId h.username

theorem Kin.trans (h : Kin r u) (h' : Kin u v) : Kin r v :=
  ⟨h'.id.trans h.id, h'.resellerId.trans h.resellerId, h'.username.trans h.username,
    h'.owner.trans h.owner, h'.hold.trans h.hold⟩

/-- The update of a row that is as the session knew it. -/
theorem Kin.update (h : Kin r u) : r.update u r = u := by
  obtain ⟨h1, h2, h3, h4, h5⟩ := h
  cases u
  cases r
  simp only at h1 h2 h3 h4 h5
  subst h1 h2 h3 h4 h5
  simp [ResellerUserCache.update]

theorem written_same (h : Known T.users) (hu : u ∈ T.users) (hT : T'.users = T.users) :
    Written T T' u := by
  refine ⟨hT ▸ h, u, rfl, fun w => ?_⟩
  rw [hT]
  constructor
  · intro hw
    by_cases hk : w.key = u.key
    · exact .inr (h.eq hw hu hk)
    · exact .inl ⟨hw, hk⟩
  · rintro (⟨hw, -⟩ | rfl)
    · exact hw
    · exact hu

theorem written_update (h : Known T.users) (hr : r ∈ T.users) (hk : Kin r u)
    (hT : T'.users = Rows.set ResellerUserCache.id T.users r.id (r.update u)) :
    Written T T' u := by
  -- only the row itself has its primary key
  have hset : T'.users = T.users.map fun w => if w.id = r.id then u else w := by
    rw [hT, Rows.set]
    refine List.map_congr_left fun w hw => ?_
    by_cases hid : w.id = r.id
    · rw [if_pos hid, if_pos hid, h.keyed.eq hw hr hid, hk.update]
    · rw [if_neg hid, if_neg hid]
  have hmap : ∀ {β : Type} (g : ResellerUserCache → β), g u = g r →
      T'.users.map g = T.users.map g := by
    intro β g hg
    rw [hset, List.map_map]
    refine List.map_congr_left fun w hw => ?_
    by_cases hid : w.id = r.id
    · rw [Function.comp_apply, if_pos hid, hg, h.keyed.eq hw hr hid]
    · simp only [Function.comp_apply, if_neg hid]
  refine ⟨⟨?_, ?_⟩, u, rfl, fun w => ?_⟩
  · show (T'.users.map ResellerUserCache.id).Nodup
    rw [hmap _ hk.id]
    exact h.keyed
  · rw [hmap _ hk.key]
    exact h.named
  · rw [hset, List.mem_map]
    constructor
    · rintro ⟨x, hx, rfl⟩
      by_cases hid : x.id = r.id
      · exact .inr (if_pos hid)
      · rw [if_neg hid]
        exact .inl ⟨hx, fun hkey => hid (congrArg _ (h.eq hx hr (hkey.trans hk.key)))⟩
    · rintro (⟨hw, hkey⟩ | rfl)
      · refine ⟨w, hw, if_neg fun hid => hkey ?_⟩
        rw [h.keyed.eq hw hr hid, hk.key]
      · exact ⟨r, hr, if_pos rfl⟩

theorem written_insert (h : Known T.users) (hn : findUser T u.key = none) (he : Entered u v)
    (hid : ∀ w ∈ T.users, w.id ≠ v.id) (hT : T'.users = T.users ++ [v]) : Written T T' u := by
  have hkey : v.key = u.key := by rw [he]
  refine ⟨⟨?_, ?_⟩, v, he, fun w => ?_⟩
  · rw [hT]
    exact h.keyed.append hid
  · rw [hT, List.map_append, List.nodup_append]
    refine ⟨h.named, by simp, ?_⟩
    intro a ha b hb
    obtain ⟨w, hw, rfl⟩ := List.mem_map.mp ha
    obtain rfl : b = v.key := by simpa using hb
    rw [hkey]
    exact findUser_none hn hw
  · rw [hT, List.mem_append, List.mem_singleton]
    constructor
    · rintro (hw | rfl)
      · exact .inl ⟨hw, findUser_none hn hw⟩
      · exact .inr rfl
    · rintro (⟨hw, -⟩ | rfl)
      · exact .inl hw
      · exact .inr rfl

end Known

/-! ## The run of a visit -/

section Ledger

variable {o : Remote} {cfg : Settings} {d d' : Ledger} {s : Session} {T T' : Tables}
  {u : ResellerUserCache} {row : Option ResellerUserCache}

theorem ledger_call {why : Cause} {c : Call} {r : Except Err c.Result}
    (h : o.react (.call why c) d = (r, d')) :
    r = o.answer d.asked c ∧ d' = { d with asked := d.asked ++ [⟨c, r⟩] } := by
  obtain ⟨rfl, rfl⟩ := Prod.mk.inj h
  exact ⟨rfl, rfl⟩

theorem run_flush_ledger (hb : s.broken = false) :
    match Stmt.execAll d.tables s.unflushed with
    | .ok T => (Act.run o.react s d flush).1.1 = .ok () ∧
        (Act.run o.react s d flush).2 = { d with tables := T }
    | .error e => (Act.run o.react s d flush).1.1 = .error e ∧
        (Act.run o.react s d flush).2 = d := by
  by_cases hu : s.unflushed = []
  · rw [run_flush_nil _ _ _ hb hu, hu]
    exact ⟨rfl, rfl⟩
  · have hf : Act.run o.react s d flush = match o.react (.flush s.unflushed) d with
        | (.ok (), d') => ((.ok (), s.flushed), d')
        | (.error e, d') => ((.error e, s.expire true), d') := by
      unfold flush
      rw [Act.run_bind_ok _ _ _ _ (Act.run_state ..), if_neg (by rw [hb]; decide),
        if_neg (by rwa [List.isEmpty_iff]), run_ask_bind]
      rcases o.react (.flush s.unflushed) d with ⟨e | _, d'⟩ <;> rfl
    rw [hf]
    cases hT : Stmt.execAll d.tables s.unflushed with
    | ok T =>
      have hr : o.react (.flush s.unflushed) d = (.ok (), { d with tables := T }) := by
        rw [Remote.react, hT]
      rw [hr]
      exact ⟨rfl, rfl⟩
    | error e =>
      have hr : o.react (.flush s.unflushed) d = (.error e, d) := by
        rw [Remote.react, hT]
      rw [hr]
      exact ⟨rfl, rfl⟩

/-- Audit rows leave the users alone. -/
theorem execAll_logged (T : Tables) (action result : String) :
    ∃ T₁, Stmt.execAll T (logged action result) = .ok T₁ ∧ T₁.users = T.users :=
  ⟨_, rfl, rfl⟩

/-- What the flush after a visit writes. -/
theorem written_of_flush (hk : Known T.users) (hrow : findUser T u.key = row)
    (hkin : ∀ r, row = some r → Kin r u) {T₁ : Tables} (h₁ : T₁.users = T.users)
    (h : Stmt.execAll T₁ (Slot.user.stmts ⟨row, u⟩) = .ok T') : Written T T' u := by
  cases row with
  | some r =>
    obtain ⟨hr, -⟩ := findUser_some hrow
    by_cases hsame : r = u
    · have hs : Slot.user.stmts ⟨some r, u⟩ = [] := if_pos hsame
      rw [hs] at h
      cases h
      exact written_same hk (hsame ▸ hr) h₁
    · have hs : Slot.user.stmts ⟨some r, u⟩ = [.updateUser r u] := if_neg hsame
      rw [hs, Stmt.execAll, Stmt.exec] at h
      split_ifs at h
      · cases h
      · cases h
        exact written_update hk hr (hkin r rfl) (by rw [← h₁])
      · cases h
  | none =>
    have hs : Slot.user.stmts ⟨none, u⟩ = [.insertUser u] := rfl
    rw [hs, Stmt.execAll, Stmt.exec] at h
    split_ifs at h
    · cases h
    · cases h
      refine written_insert hk hrow (v := { u with
        id := Rows.next ResellerUserCache.id T₁.users
        dataLimit := some (u.dataLimit.getD 0) }) rfl ?_ (by rw [h₁])
      intro w hw
      have hlt : w.id < Rows.next ResellerUserCache.id T₁.users := Rows.lt_next (h₁ ▸ hw)
      exact Nat.ne_of_lt hlt

/-- The update of a row fails only when it empties the `data_limit`. -/
theorem execAll_update {r : ResellerUserCache} (hr : r ∈ T.users)
    (hu : u.dataLimit ≠ none ∨ u.dataLimit = r.dataLimit) :
    ∃ T', Stmt.execAll T (Slot.user.stmts ⟨some r, u⟩) = .ok T' := by
  by_cases hsame : r = u
  · have hs : Slot.user.stmts ⟨some r, u⟩ = [] := if_pos hsame
    rw [hs]
    exact ⟨T, rfl⟩
  · have hs : Slot.user.stmts ⟨some r, u⟩ = [.updateUser r u] := if_neg hsame
    have hlimit : ¬(r.dataLimit ≠ u.dataLimit ∧ u.dataLimit = none) := by
      rintro ⟨hne, hn⟩
      exact hu.elim (fun h => h hn) fun h => hne h.symm
    have hany : T.users.any (·.id = r.id) := List.any_eq_true.mpr ⟨r, hr, decide_eq_true rfl⟩
    rw [hs, Stmt.execAll, Stmt.exec, if_neg hlimit, if_pos hany]
    exact ⟨_, rfl⟩

/-- The flush after a visit that has left `u` in the session. -/
theorem visit_flush {d₀ : Ledger} {m : Bot Unit} {sts : List Stmt} {T₁ : Tables}
    (hrun : Act.run o.react Session.empty d₀ m = ((.ok (), s.withUser row u sts), d))
    (hidle : s.Idle) (hb : s.broken = false) (hst : Stmt.execAll d.tables sts = .ok T₁) :
    let r := Act.run o.react Session.empty d₀ (do
      m
      flush)
    r.2.asked = d.asked ∧
      r.1.1.map (fun _ => r.2.tables) = Stmt.execAll T₁ (Slot.user.stmts ⟨row, u⟩) := by
  intro r
  have hr : r = Act.run o.react (s.withUser row u sts) d flush := Act.run_bind_ok _ _ _ _ hrun
  have hf := run_flush_ledger (o := o) (d := d) (s := s.withUser row u sts) hb
  rw [hidle, Stmt.execAll_append hst, ← hr] at hf
  cases hT : Stmt.execAll T₁ (Slot.user.stmts ⟨row, u⟩) with
  | ok T' =>
    rw [hT] at hf
    obtain ⟨h1, h2⟩ := hf
    rw [h1, h2]
    exact ⟨rfl, rfl⟩
  | error e =>
    rw [hT] at hf
    obtain ⟨h1, h2⟩ := hf
    rw [h1, h2]
    exact ⟨rfl, rfl⟩

/-- A visit that raises. -/
theorem visit_raised {d₀ : Ledger} {m : Bot Unit} {e : Err} {s' : Session}
    (hrun : Act.run o.react Session.empty d₀ m = ((.error e, s'), d)) :
    Act.run o.react Session.empty d₀ (do
      m
      flush) = ((.error e, s'), d) := by
  rw [Act.run_bind, hrun]

end Ledger

section Listed

variable {o : Remote} {cfg : Settings} {T : Tables} {reseller : Reseller} {now : Datetime}
  {graceHours : ℤ} {live : User}

/-- Calls and messages leave the tables alone. -/
theorem Synced.tables {u : ResellerUserCache} {d d' : Ledger}
    {out : Except Err (ResellerUserCache × List Stmt)}
    (h : Synced o.react cfg reseller now graceHours live u d out d') : d'.tables = d.tables := by
  cases h with
  | waiting | late | planned | fine | cleared => rfl
  | disableRaised _ _ _ _ h₁ | enableRaised _ _ _ h₁ =>
    obtain ⟨-, rfl⟩ := ledger_call h₁
    rfl
  | disableUnread _ _ _ _ h₁ h₂ | enableUnread _ _ _ h₁ h₂ | undisabled _ _ _ _ h₁ h₂
  | disabled _ _ _ _ h₁ h₂ | refused _ _ _ h₁ h₂ | reenabled _ _ _ h₁ h₂ =>
    obtain ⟨-, rfl⟩ := ledger_call h₁
    obtain ⟨-, rfl⟩ := ledger_call h₂
    rfl

/-- What a visit leaves in the session is kin to what it has found. -/
theorem Synced.kin {u u' : ResellerUserCache} {sts : List Stmt} {d d' : Ledger}
    (h : Synced o.react cfg reseller now graceHours live u d (.ok (u', sts)) d') :
    Kin u u' ∧ ∀ T, ∃ T₁, Stmt.execAll T sts = .ok T₁ ∧ T₁.users = T.users := by
  cases h <;> exact ⟨⟨rfl, rfl, rfl, rfl, rfl⟩, fun T => ⟨_, rfl, rfl⟩⟩

variable (o cfg T now graceHours) in
/-- The visit to a user of somebody else. -/
theorem visit_other (hv : verifiedOwner live reseller.rebeccaAdminUsername = false) :
    o.visit cfg (.listed reseller now graceHours live) T = (.ok T, []) := by
  have hrun : Act.run o.react Session.empty ⟨T, []⟩
      (syncUser cfg reseller now graceHours live) = ((.ok (), Session.empty), ⟨T, []⟩) :=
    run_syncUser_other hv
  unfold Remote.visit UserVisit.body
  rw [Act.run_bind_ok _ _ _ _ hrun, run_flush_nil _ _ _ rfl rfl]
  rfl

/-- The row under the key of a listed user, or the new one. -/
theorem key_current (T : Tables) :
    (current reseller now live (findUser T (reseller.id, live.username))).key =
      (reseller.id, live.username) := by
  cases h : findUser T (reseller.id, live.username) with
  | none => rfl
  | some u => exact (findUser_some h).2

variable (o cfg now graceHours) in
/-- **The visit to a listed user, on the tables.** -/
theorem visit_listed (hk : Known T.users)
    (hv : verifiedOwner live reseller.rebeccaAdminUsername = true) :
    ∃ out d, Synced o.react cfg reseller now graceHours live
        (current reseller now live (findUser T (reseller.id, live.username))) ⟨T, []⟩ out d ∧
      (o.visit cfg (.listed reseller now graceHours live) T).2 = d.asked ∧
      match out with
      | .error e => (o.visit cfg (.listed reseller now graceHours live) T).1 = .error e
      | .ok (u, _) => ∀ T', (o.visit cfg (.listed reseller now graceHours live) T).1 = .ok T' →
          Written T T' u := by
  have hq : o.react (.query (.user reseller.id live.username)) ⟨T, []⟩ =
      (.ok (findUser T (reseller.id, live.username)), ⟨T, []⟩) := rfl
  obtain ⟨out, hs, he⟩ := run_syncUser cfg now graceHours (s := Session.empty) rfl rfl hv hq
  have htab := hs.tables
  rcases hr : Act.run o.react Session.empty ⟨T, []⟩ (syncUser cfg reseller now graceHours live)
    with ⟨⟨r, s'⟩, d⟩
  rw [hr] at hs he htab
  refine ⟨out, d, hs, ?_⟩
  unfold Remote.visit UserVisit.body
  cases out with
  | error e =>
    obtain rfl : r = .error e := he
    rw [visit_raised hr]
    exact ⟨rfl, rfl⟩
  | ok p =>
    obtain ⟨u, sts⟩ := p
    obtain ⟨rfl, rfl⟩ := Prod.mk.inj he
    obtain ⟨hkin, hst⟩ := hs.kin
    obtain ⟨T₁, hT₁, hu₁⟩ := hst d.tables
    obtain ⟨hasked, hflush⟩ := visit_flush hr (idle_flushed _) rfl hT₁
    refine ⟨hasked, fun T' hT' => ?_⟩
    have hkey : u.key = (reseller.id, live.username) := hkin.key.trans (key_current T)
    refine written_of_flush hk (by rw [hkey]) (fun r hr => ?_) (hu₁.trans (by rw [htab]))
      (hflush.symm.trans hT')
    have hc : Kin r (current reseller now live (findUser T (reseller.id, live.username))) := by
      rw [hr]
      exact ⟨rfl, rfl, rfl, rfl, rfl⟩
    exact hc.trans hkin

end Listed

section Due

variable {o : Remote} {cfg : Settings} {T : Tables} {now deadline : Datetime}
  {row : ResellerUserCache} {reseller : Reseller} {zoned : Bool}

theorem ledger_send {chat : ℤ} {d d' : Ledger} {r : Except Err Unit}
    (h : o.react (.send chat) d = (r, d')) : d' = d := (Prod.mk.inj h).2.symm

theorem Reminded.ledger {d d' : Ledger} {u : ResellerUserCache}
    (h : Reminded o.react reseller deadline now row d u d') : d' = d := by
  cases h with
  | early => rfl
  | told _ h₁ | untold _ h₁ => exact ledger_send h₁

theorem Reminded.kin {d d' : Ledger} {u : ResellerUserCache}
    (h : Reminded o.react reseller deadline now row d u d') : Kin row u := by
  cases h <;> exact ⟨rfl, rfl, rfl, rfl, rfl⟩

theorem Deleting.tables {username owner : String} {stamp : Stamp} {policy : DeletePolicy}
    {hold locked : Bool} {d d' : Ledger} {out : Except Err DeleteResult}
    (h : Deleting o.react username owner stamp now policy hold locked d out d') :
    d'.tables = d.tables := by
  cases h with
  | uncompared | refused => rfl
  | unread _ h₁ | missing _ h₁ | mismatch _ h₁ | renewed _ h₁ =>
    obtain ⟨-, rfl⟩ := ledger_call h₁
    rfl
  | deleteRaised _ h₁ _ _ h₂ =>
    obtain ⟨-, rfl⟩ := ledger_call h₁
    obtain ⟨-, rfl⟩ := ledger_call h₂
    rfl
  | unconfirmed _ h₁ _ _ h₂ h₃ | survived _ h₁ _ _ h₂ h₃ | deleted _ h₁ _ _ h₂ h₃ =>
    obtain ⟨-, rfl⟩ := ledger_call h₁
    obtain ⟨-, rfl⟩ := ledger_call h₂
    obtain ⟨-, rfl⟩ := ledger_call h₃
    rfl

theorem Reaped.tables {d d' : Ledger} {out : Except Err (ResellerUserCache × List Stmt)}
    (h : Reaped o.react cfg zoned reseller deadline now row d out d') : d'.tables = d.tables := by
  cases h with
  | unzoned => rfl
  | kept _ hw hd | gone _ hw hd | raised _ hw hd =>
    rw [← hw.ledger]
    exact hd.tables

theorem Reaped.kin {d d' : Ledger} {u : ResellerUserCache} {sts : List Stmt}
    (h : Reaped o.react cfg zoned reseller deadline now row d (.ok (u, sts)) d') :
    Kin row u ∧ ∀ T, ∃ T₁, Stmt.execAll T sts = .ok T₁ ∧ T₁.users = T.users := by
  cases h with
  | kept _ hw => exact ⟨hw.kin, fun T => execAll_logged T _ _⟩
  | gone _ hw => exact ⟨hw.kin.trans ⟨rfl, rfl, rfl, rfl, rfl⟩, fun T => execAll_logged T _ _⟩

theorem Reaped.dataLimit {d d' : Ledger} {u : ResellerUserCache} {sts : List Stmt}
    (h : Reaped o.react cfg zoned reseller deadline now row d (.ok (u, sts)) d') :
    u.dataLimit = row.dataLimit := by
  cases h with
  | kept _ hw | gone _ hw => cases hw <;> rfl

/-- A row whose reseller is gone is left alone. -/
theorem visit_orphan (hn : Rows.get Reseller.id T.resellers row.resellerId = none) :
    o.visit cfg (.due now row) T = (.ok T, []) := by
  let s : Session := { Session.empty with user := some ⟨some row, row⟩ }
  have hu : s.unflushed = [] := by
    show [] ++ [] ++ [] ++ [] ++ [] ++ Slot.user.stmts ⟨some row, row⟩ = []
    simp [Slot.user, updated]
  have hquery : Act.run o.react s ⟨T, []⟩ (query (.reseller row.resellerId)) =
      ((.ok none, s.flushed), ⟨T, []⟩) := by
    rw [run_query_nil _ _ _ rfl hu, ← hn]
    rfl
  have hhold : Act.run o.react Session.empty ⟨T, []⟩ (Slot.user.holdLoaded Session.empty.epoch row) =
      ((.ok (), s), ⟨T, []⟩) := rfl
  have hget : Act.run o.react s ⟨T, []⟩ (Slot.reseller.getByKey Reseller.id row.resellerId
      (query (.reseller row.resellerId))) = ((.ok none, s.flushed), ⟨T, []⟩) := by
    rw [Slot.getByKey, Act.run_bind_ok _ _ _ _ (Act.run_state ..)]
    exact run_load_none Slot.reseller hquery
  have hrun : Act.run o.react Session.empty ⟨T, []⟩
      (dueDeletion cfg o.zoned now Session.empty.epoch row) = ((.ok (), s.flushed), ⟨T, []⟩) := by
    rw [dueDeletion, Act.run_bind_ok _ _ _ _ hhold, Act.run_bind_ok _ _ _ _ hget]
    rfl
  unfold Remote.visit UserVisit.body
  rw [Act.run_bind_ok _ _ _ _ hrun, run_flush_nil _ _ _ rfl (unflushed_flushed s)]
  rfl

variable (o cfg now) in
/-- **The visit to a row with a deadline, on the tables.** -/
theorem visit_due (hk : Known T.users) (hrow : row ∈ T.users) (hd : row.deleteAfter = some deadline)
    (hr : Rows.get Reseller.id T.resellers row.resellerId = some reseller) :
    ∃ out d, Reaped o.react cfg o.zoned reseller deadline now row ⟨T, []⟩ out d ∧
      (o.visit cfg (.due now row) T).2 = d.asked ∧
      match out with
      | .error e => (o.visit cfg (.due now row) T).1 = .error e
      | .ok (u, _) => ∃ T', (o.visit cfg (.due now row) T).1 = .ok T' ∧ Written T T' u := by
  have hq : o.react (.query (.reseller row.resellerId)) ⟨T, []⟩ = (.ok (some reseller), ⟨T, []⟩) := by
    rw [← hr]
    rfl
  obtain ⟨out, s₁, ht, hidle, hb, he⟩ := run_dueDeletion cfg now
    (s := Session.empty) o.zoned rfl rfl rfl hd hq
  have htab := ht.tables
  rcases hrun : Act.run o.react Session.empty ⟨T, []⟩
    (dueDeletion cfg o.zoned now Session.empty.epoch row) with ⟨⟨r, s'⟩, d⟩
  rw [hrun] at ht he htab
  refine ⟨out, d, ht, ?_⟩
  unfold Remote.visit UserVisit.body
  cases out with
  | error e =>
    obtain rfl : r = .error e := he
    rw [visit_raised hrun]
    exact ⟨rfl, rfl⟩
  | ok p =>
    obtain ⟨u, sts⟩ := p
    obtain ⟨rfl, rfl⟩ := Prod.mk.inj he
    obtain ⟨hkin, hst⟩ := ht.kin
    obtain ⟨T₁, hT₁, hu₁⟩ := hst d.tables
    obtain ⟨hasked, hflush⟩ := visit_flush hrun hidle hb hT₁
    have hu₁ : T₁.users = T.users := hu₁.trans (by rw [htab])
    obtain ⟨T', hT'⟩ := execAll_update (hu₁.symm ▸ hrow) (.inr ht.dataLimit)
    refine ⟨hasked, T', hflush.trans hT', ?_⟩
    exact written_of_flush hk (hkin.key ▸ hk.find hrow)
      (fun r hr => Option.some.inj hr ▸ hkin) hu₁ hT'

end Due

/-- How a visit ends: with nothing done, with a row to be written, or with an exception. -/
inductive Visited (o : Remote) (cfg : Settings) (T : Tables) :
    UserVisit → Option (Except Err ResellerUserCache) → List Asked → Prop
  | other {reseller : Reseller} {now : Datetime} {graceHours : ℤ} {live : User}
      (hv : verifiedOwner live reseller.rebeccaAdminUsername = false) :
      Visited o cfg T (.listed reseller now graceHours live) none []
  | orphan {now : Datetime} {row : ResellerUserCache}
      (hn : Rows.get Reseller.id T.resellers row.resellerId = none) :
      Visited o cfg T (.due now row) none []
  | listed {reseller : Reseller} {now : Datetime} {graceHours : ℤ} {live : User}
      {out : Except Err (ResellerUserCache × List Stmt)} {d : Ledger}
      (hv : verifiedOwner live reseller.rebeccaAdminUsername = true)
      (h : Synced o.react cfg reseller now graceHours live
        (current reseller now live (findUser T (reseller.id, live.username))) ⟨T, []⟩ out d) :
      Visited o cfg T (.listed reseller now graceHours live) (some (out.map Prod.fst)) d.asked
  | due {now deadline : Datetime} {row : ResellerUserCache} {reseller : Reseller}
      {out : Except Err (ResellerUserCache × List Stmt)} {d : Ledger}
      (hrow : row ∈ T.users) (hd : row.deleteAfter = some deadline)
      (hr : Rows.get Reseller.id T.resellers row.resellerId = some reseller)
      (h : Reaped o.react cfg o.zoned reseller deadline now row ⟨T, []⟩ out d) :
      Visited o cfg T (.due now row) (some (out.map Prod.fst)) d.asked

/-- **Every visit**, with what becomes of the tables. -/
theorem visited (o : Remote) (cfg : Settings) {T : Tables} {v : UserVisit} (hk : Known T.users)
    (hp : v.Possible T) : ∃ res, Visited o cfg T v res (o.visit cfg v T).2 ∧ match res with
      | none => (o.visit cfg v T).1 = .ok T
      | some (.error e) => (o.visit cfg v T).1 = .error e
      | some (.ok u) => ∀ T', (o.visit cfg v T).1 = .ok T' → Written T T' u := by
  cases v with
  | listed reseller now graceHours live =>
    cases hv : verifiedOwner live reseller.rebeccaAdminUsername with
    | false =>
      refine ⟨none, ?_⟩
      rw [visit_other o cfg T now graceHours hv]
      exact ⟨.other hv, rfl⟩
    | true =>
      obtain ⟨out, d, hs, hasked, hout⟩ := visit_listed o cfg now graceHours hk hv
      refine ⟨some (out.map Prod.fst), hasked ▸ .listed hv hs, ?_⟩
      cases out <;> exact hout
  | due now row =>
    obtain ⟨hrow, deadline, hd, -⟩ := hp
    cases hr : Rows.get Reseller.id T.resellers row.resellerId with
    | none =>
      refine ⟨none, ?_⟩
      rw [visit_orphan hr]
      exact ⟨.orphan hr, rfl⟩
    | some reseller =>
      obtain ⟨out, d, ht, hasked, hout⟩ := visit_due o cfg now hk hrow hd hr
      refine ⟨some (out.map Prod.fst), hasked ▸ .due hrow hd hr ht, ?_⟩
      cases out with
      | error e => exact hout
      | ok p =>
        obtain ⟨T₁, h₁, hw⟩ := hout
        intro T' hT'
        rw [h₁] at hT'
        cases hT'
        exact hw

/-- A visit to a listed user that returns: the row under its key is the one that the visit has left,
and the others are as they were. -/
theorem listed_returned {o : Remote} {cfg : Settings} {T T' : Tables} {reseller : Reseller}
    {now : Datetime} {graceHours : ℤ} {live : User} (hk : Known T.users)
    (hv : verifiedOwner live reseller.rebeccaAdminUsername = true)
    (h : (o.visit cfg (.listed reseller now graceHours live) T).1 = .ok T') :
    ∃ u sts d, Synced o.react cfg reseller now graceHours live
        (current reseller now live (findUser T (reseller.id, live.username))) ⟨T, []⟩
        (.ok (u, sts)) d ∧
      (o.visit cfg (.listed reseller now graceHours live) T).2 = d.asked ∧
      (∃ w, findUser T' (reseller.id, live.username) = some w ∧ Entered u w) ∧
      ∀ k, k ≠ (reseller.id, live.username) → findUser T' k = findUser T k := by
  obtain ⟨out, d, hs, hasked, hout⟩ := visit_listed o cfg now graceHours hk hv
  cases out with
  | error e =>
    rw [show (o.visit cfg _ T).1 = .error e from hout] at h
    cases h
  | ok p =>
    obtain ⟨u, sts⟩ := p
    have hw : Written T T' u := hout T' h
    have hkey : u.key = (reseller.id, live.username) := hs.kin.1.key.trans (key_current T)
    exact ⟨u, sts, d, hs, hasked, hkey ▸ hw.find, fun k hne => hw.find_other (hkey ▸ hne)⟩

/-- A visit to a row that is due and returns: its reseller was gone, or the row is the one that the
visit has left. -/
theorem due_returned {o : Remote} {cfg : Settings} {T T' : Tables} {now : Datetime}
    {row : ResellerUserCache} (hk : Known T.users) (hp : (UserVisit.due now row).Possible T)
    (h : (o.visit cfg (.due now row) T).1 = .ok T') :
    T' = T ∧ (o.visit cfg (.due now row) T).2 = [] ∨
      ∃ deadline reseller u sts d, row.deleteAfter = some deadline ∧
        Rows.get Reseller.id T.resellers row.resellerId = some reseller ∧
        Reaped o.react cfg o.zoned reseller deadline now row ⟨T, []⟩ (.ok (u, sts)) d ∧
        (o.visit cfg (.due now row) T).2 = d.asked ∧
        (∃ w, findUser T' row.key = some w ∧ Entered u w) ∧
        ∀ k, k ≠ row.key → findUser T' k = findUser T k := by
  obtain ⟨hrow, deadline, hd, -⟩ := hp
  cases hr : Rows.get Reseller.id T.resellers row.resellerId with
  | none =>
    rw [visit_orphan hr] at h ⊢
    cases h
    exact .inl ⟨rfl, rfl⟩
  | some reseller =>
    obtain ⟨out, d, ht, hasked, hout⟩ := visit_due o cfg now hk hrow hd hr
    cases out with
    | error e =>
      rw [show (o.visit cfg _ T).1 = .error e from hout] at h
      cases h
    | ok p =>
      obtain ⟨u, sts⟩ := p
      obtain ⟨T₁, hT₁, hw⟩ := hout
      rw [h] at hT₁
      cases hT₁
      have hkey : u.key = row.key := ht.kin.1.key
      exact .inr ⟨deadline, reseller, u, sts, d, hd, rfl, ht, hasked, hkey ▸ hw.find,
        fun k hne => hw.find_other (hkey ▸ hne)⟩

theorem visit_known {o : Remote} {cfg : Settings} {T T' : Tables} {v : UserVisit} (hk : Known T.users)
    (hp : v.Possible T) (h : (o.visit cfg v T).1 = .ok T') : Known T'.users := by
  obtain ⟨res, -, hres⟩ := visited o cfg hk hp
  rcases res with _ | e | u
  · rw [hres] at h
    cases h
    exact hk
  · rw [hres] at h
    cases h
  · exact (hres T' h).known

/-! ## Histories -/

/-- A visit that was made: what was found under its key, its calls, and whether it returned. -/
structure Record where
  visit : UserVisit
  found : Option ResellerUserCache
  asked : List Asked
  returned : Bool

/-- A detection: a visit to an exhausted user whose row had none. -/
def Record.Detects (r : Record) (k : ℕ × String) : Prop :=
  match r.visit with
  | .listed reseller now _ live => (reseller.id, live.username) = k ∧
      verifiedOwner live reseller.rebeccaAdminUsername = true ∧ live.isExhausted now = true ∧
      r.found.bind (·.expiredDetectedAt) = none ∧ r.returned = true
  | .due _ _ => False

structure Book where
  committed : Tables
  working : Tables
  /-- The visits so far, those of abandoned runs among them. -/
  log : List Record
  /-- How many of them were made before the open transaction. -/
  settled : ℕ
  /-- A visit has raised: the run can only be abandoned. -/
  failed : Bool

inductive Turn
  | visit (cfg : Settings) (o : Remote) (v : UserVisit)
  | commit
  | abandon
  /-- Another part of the bot writes columns that have to do with other things. -/
  | other (T : Tables)

/-- The rows of the users are as they were, but for the flags of parents and holds. -/
def Elsewhere (T T' : Tables) : Prop :=
  ∃ f : ResellerUserCache → ResellerUserCache, T'.users = T.users.map f ∧
    ∀ u, ∃ parent hold, f u = { u with disabledByParentReseller := parent, deletionHold := hold }

namespace Book

variable (b : Book)

def Possible : Turn → Prop
  | .visit _ _ v => b.failed = false ∧ v.Possible b.working
  | .commit => b.failed = false
  | .abandon => True
  | .other T => b.failed = false ∧ Elsewhere b.working T

def record (cfg : Settings) (o : Remote) (v : UserVisit) : Record where
  visit := v
  found := findUser b.working v.key
  asked := (o.visit cfg v b.working).2
  returned := (o.visit cfg v b.working).1.isOk

def next : Turn → Book
  | .visit cfg o v =>
    match (o.visit cfg v b.working).1 with
    | .ok T => { b with working := T, log := b.log ++ [b.record cfg o v] }
    | .error _ => { b with log := b.log ++ [b.record cfg o v], failed := true }
  | .commit => { b with committed := b.working, settled := b.log.length }
  | .abandon => { b with working := b.committed, settled := b.log.length, failed := false }
  | .other T => { b with working := T }

end Book

/-- Deadlines are read back without their time zones, as SQLite stores them. -/
def Turn.Unzoned : Turn → Prop
  | .visit _ o _ => o.zoned = false
  | _ => True

/-- A history in which `may` admits every turn, from rows of which `old` is so. -/
inductive History (old : ResellerUserCache → Prop) (may : Book → Turn → Prop) : Book → Prop
  | start {T : Tables} (hk : Known T.users) (h : ∀ u ∈ T.users, old u) :
      History old may ⟨T, T, [], 0, false⟩
  | turn {b : Book} (h : History old may b) (t : Turn) (hp : b.Possible t) (hm : may b t) :
      History old may (b.next t)

section Histories

variable {old : ResellerUserCache → Prop} {may : Book → Turn → Prop} {b : Book} {T T' : Tables}

theorem Elsewhere.known (h : Elsewhere T T') (hk : Known T.users) : Known T'.users := by
  obtain ⟨f, hT, hf⟩ := h
  have hmap : ∀ {β : Type} (g : ResellerUserCache → β), (∀ u, g (f u) = g u) →
      T'.users.map g = T.users.map g := by
    intro β g hg
    rw [hT, List.map_map]
    exact List.map_congr_left fun u _ => hg u
  constructor
  · show (T'.users.map ResellerUserCache.id).Nodup
    rw [hmap]
    · exact hk.keyed
    · intro u
      obtain ⟨_, _, hu⟩ := hf u
      rw [hu]
  · rw [hmap]
    · exact hk.named
    · intro u
      obtain ⟨_, _, hu⟩ := hf u
      rw [hu]

section Elsewhere

variable {k : ℕ × String} {u w : ResellerUserCache}

/-- The flags of parents and holds aside, the row under a key is as it was. -/
theorem Elsewhere.find_map (h : Elsewhere T T') :
    ∃ f : ResellerUserCache → ResellerUserCache, (∀ k, findUser T' k = (findUser T k).map f) ∧
      ∀ u, ∃ parent hold, f u = { u with
        disabledByParentReseller := parent
        deletionHold := hold } := by
  obtain ⟨f, hT, hf⟩ := h
  refine ⟨f, fun k => ?_, hf⟩
  show T'.users.find? _ = _
  rw [hT, List.find?_map]
  congr 2
  funext w
  obtain ⟨_, _, hw⟩ := hf w
  simp only [Function.comp_apply, hw]

theorem Elsewhere.find (h : Elsewhere T T') (hu : findUser T' k = some u) :
    ∃ w, findUser T k = some w ∧ ∃ parent hold,
      u = { w with disabledByParentReseller := parent, deletionHold := hold } := by
  obtain ⟨f, hmap, hf⟩ := h.find_map
  rw [hmap, Option.map_eq_some_iff] at hu
  obtain ⟨w, hw, rfl⟩ := hu
  exact ⟨w, hw, hf w⟩

theorem Elsewhere.find_some (h : Elsewhere T T') (hw : findUser T k = some w) :
    ∃ u, findUser T' k = some u ∧ ∃ parent hold,
      u = { w with disabledByParentReseller := parent, deletionHold := hold } := by
  obtain ⟨f, hmap, hf⟩ := h.find_map
  refine ⟨f w, ?_, hf w⟩
  rw [hmap, hw]
  rfl

end Elsewhere

theorem Book.next_ok {cfg : Settings} {o : Remote} {v : UserVisit}
    (h : (o.visit cfg v b.working).1 = .ok T) :
    b.next (.visit cfg o v) = { b with working := T, log := b.log ++ [b.record cfg o v] } := by
  rw [Book.next, h]

theorem Book.next_error {cfg : Settings} {o : Remote} {v : UserVisit} {e : Err}
    (h : (o.visit cfg v b.working).1 = .error e) :
    b.next (.visit cfg o v) = { b with log := b.log ++ [b.record cfg o v], failed := true } := by
  rw [Book.next, h]

theorem current_undetected (reseller : Reseller) (now : Datetime) (live : User)
    {found : Option ResellerUserCache} : (current reseller now live found).expiredDetectedAt =
      found.bind (·.expiredDetectedAt) := by
  cases found <;> rfl

/-- A visit that returns and has found an exhausted user without a detection is a detection. -/
theorem detects_record {cfg : Settings} {o : Remote} {reseller : Reseller} {now : Datetime}
    {graceHours : ℤ} {live : User}
    (hv : verifiedOwner live reseller.rebeccaAdminUsername = true)
    (hx : live.isExhausted now = true)
    (hn : (current reseller now live
      (findUser b.working (reseller.id, live.username))).expiredDetectedAt = none)
    (h : (o.visit cfg (.listed reseller now graceHours live) b.working).1 = .ok T) :
    (b.record cfg o (.listed reseller now graceHours live)).Detects
      (reseller.id, live.username) := by
  refine ⟨rfl, hv, hx, (current_undetected ..).symm.trans hn, ?_⟩
  show (o.visit cfg _ b.working).1.isOk = true
  rw [h]
  rfl

theorem History.settled_le (h : History old may b) : b.settled ≤ b.log.length := by
  induction h with
  | start => exact le_rfl
  | @turn b _ t _ _ ih =>
    cases t with
    | visit cfg o v =>
      have hlog : b.settled ≤ (b.log ++ [b.record cfg o v]).length := by
        rw [List.length_append]
        exact ih.trans (Nat.le_add_right ..)
      cases hv : (o.visit cfg v b.working).1 with
      | ok T => rwa [Book.next_ok hv]
      | error e => rwa [Book.next_error hv]
    | commit | abandon => exact le_rfl
    | other T => exact ih

theorem History.known (h : History old may b) :
    Known b.working.users ∧ Known b.committed.users := by
  induction h with
  | start hk => exact ⟨hk, hk⟩
  | @turn b _ t hp _ ih =>
    cases t with
    | visit cfg o v =>
      cases hv : (o.visit cfg v b.working).1 with
      | ok T =>
        rw [Book.next_ok hv]
        exact ⟨visit_known ih.1 hp.2 hv, ih.2⟩
      | error e =>
        rw [Book.next_error hv]
        exact ih
    | commit => exact ⟨ih.1, ih.1⟩
    | abandon => exact ⟨ih.2, ih.2⟩
    | other T => exact ⟨hp.2.known ih.1, ih.2⟩

end Histories

/-! ## A shop with one user -/

def liveMode : Settings where
  botToken := "token"
  ownerIds := [7]
  rebeccaBearerToken := "bearer"
  dryRun := false
  destructiveActions := true
  allowDisableActions := true
  allowDeleteActions := true
  userDeleteGraceHours := 72
  trialDurationHours := 24
  trialTrafficGb := 10
  timeWarningThresholds := [7, 3, 1]
  trafficWarningThresholds := [20, 10, 5]
  plisioEnabled := false
  plisioSecretKey := ""
  plisioSourceCurrency := "USD"

def shop : Reseller where
  id := 1
  telegramId := 5
  telegramUsername := none
  rebeccaAdminUsername := some "shop"
  status := .ACTIVE
  productId := none
  expiresAt := none
  purchasedTrafficBytes := 0
  lastKnownDataLimit := 0
  lastKnownUsage := 0
  lastKnownRemaining := 0
  trial := false
  trialUsed := false
  suspendedReason := none
  lastSyncAt := none
  automationHold := false

/-- A user of the shop with ten bytes, of which `used` are used. -/
def bobLive (status : String) (used : ℤ) : User :=
  ⟨"bob", some "shop", status, none, some 10, false, used⟩

/-- Rebecca answers `get_user` from a script, by the number of calls that were made before. -/
def scripted (users : ℕ → Option User) : Remote where
  clock := 0
  answer asked
    | .getUser _ => .ok (users asked.length)
    | .disableUser _ | .enableUser _ | .deleteUser _ => .ok ()
    | _ => .error ⟨.runtime, ""⟩
  deliver _ := .ok ()
  zoned := false

def opened : Book :=
  let T : Tables := ⟨[shop], [], [], [], [], [], [], [], [], [], []⟩
  ⟨T, T, [], 0, false⟩

def bobExpires : Turn :=
  .visit liveMode (scripted fun _ => some (bobLive "disabled" 10)) (.listed shop 0 72 (bobLive "active" 10))

/-- The row of bob, who was found exhausted at the time 0. -/
def bobRow : ResellerUserCache where
  id := 1
  resellerId := 1
  username := "bob"
  rebeccaAdminUsername := "shop"
  status := "active"
  expire := none
  dataLimit := some 10
  usedTraffic := 10
  lastSeenAt := some 0
  localStatus := .EXPIRED
  expiredDetectedAt := some 0
  deleteAfter := some (72 * hour)
  warningSentAt := none
  deletionHold := false
  disabledByParentReseller := false
  disabledByOwnExpiry := true

/-- Bob has been renewed; what Rebecca shows once he was enabled. -/
def bobIsRenewed (now : Datetime) (status : String) : Turn :=
  .visit liveMode (scripted fun _ => some (bobLive status 0))
    (.listed shop now 72 (bobLive "disabled" 0))

def expiredBob : Book := (opened.next bobExpires).next .commit

end ResellerBot
