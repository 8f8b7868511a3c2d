import ResellerBot.Children.Handlers

/-!
# ResellerBot.Children.Run — what a run of the scheduler makes of the flags of children

A run flags the children of a reseller when it finds the entitlement at its end.  The flags stand
if a commit follows: at the end of the run, or on the way, by an order that it applies.
-/

open Interact

namespace ResellerBot

/-! ## The flagging of the children -/

/-- The bot takes the user of the reseller for active. -/
def LocallyActive (T : Tables) (resellerId : ℕ) (username : String) : Prop :=
  ∃ u ∈ T.users, u.resellerId = resellerId ∧ u.username = username ∧ u.localStatus = .ACTIVE

/-- The columns of a user row that the visits to the resellers leave alone. -/
def ResellerUserCache.lasting (u : ResellerUserCache) : ℕ × ℕ × String × LocalStatus :=
  (u.id, u.resellerId, u.username, u.localStatus)

/-- What exhaustion depends on, but for the time. -/
def Admin.limits (a : Admin) : Option Datetime × Option ℤ × ℤ :=
  (a.expire, a.dataLimit, a.usedTraffic)

section Rows

variable {T T' : Tables} {i n : ℕ} {username : String}

/-- The flagging flags the users that are taken for active. -/
theorem flagged_marked (hx : (Stmt.markDisabledByParent i).exec T = .ok (T', n)) :
    Flagged T' i username ↔ Flagged T i username ∨ LocallyActive T i username := by
  cases hx
  unfold Flagged LocallyActive
  constructor
  · rintro ⟨u, hu, hid, hname, hf⟩
    obtain ⟨v, hv, rfl⟩ := List.mem_map.mp hu
    by_cases hm : v.resellerId = i ∧ v.localStatus = .ACTIVE
    · rw [if_pos hm] at hname
      exact .inr ⟨v, hv, hm.1, hname, hm.2⟩
    · rw [if_neg hm] at hid hname hf
      exact .inl ⟨v, hv, hid, hname, hf⟩
  · rintro (⟨u, hu, hid, hname, hf⟩ | ⟨u, hu, hid, hname, ha⟩)
    · refine ⟨_, List.mem_map_of_mem hu, ?_⟩
      split_ifs
      · exact ⟨hid, hname, rfl⟩
      · exact ⟨hid, hname, hf⟩
    · refine ⟨_, List.mem_map_of_mem hu, ?_⟩
      rw [if_pos ⟨hid, ha⟩]
      exact ⟨hid, hname, rfl⟩

theorem lasting_map {g : ResellerUserCache → ResellerUserCache} (hT : T'.users = T.users.map g)
    (hg : ∀ u ∈ T.users, (g u).lasting = u.lasting) :
    T'.users.map ResellerUserCache.lasting = T.users.map ResellerUserCache.lasting := by
  rw [hT, List.map_map]
  exact List.map_congr_left hg

theorem mem_of_lasting {u : ResellerUserCache}
    (h : T'.users.map ResellerUserCache.lasting = T.users.map ResellerUserCache.lasting)
    (hu : u ∈ T'.users) : ∃ v ∈ T.users, v.lasting = u.lasting :=
  List.mem_map.mp (h ▸ List.mem_map_of_mem hu)

theorem locallyActive_congr
    (h : T'.users.map ResellerUserCache.lasting = T.users.map ResellerUserCache.lasting) :
    LocallyActive T' i username ↔ LocallyActive T i username := by
  have hsame : ∀ {T T' : Tables}, T'.users.map ResellerUserCache.lasting =
      T.users.map ResellerUserCache.lasting → LocallyActive T' i username →
        LocallyActive T i username := by
    rintro T T' h ⟨u, hu, hid, hname, ha⟩
    obtain ⟨v, hv, hlasting⟩ := mem_of_lasting h hu
    simp only [ResellerUserCache.lasting, Prod.mk.injEq] at hlasting
    exact ⟨v, hv, hlasting.2.1.trans hid, hlasting.2.2.1.trans hname, hlasting.2.2.2.trans ha⟩
  exact ⟨hsame h, hsame h.symm⟩

end Rows

namespace Watch

/-- The flags of the users of one reseller while the resellers are visited: from the tables `T`, in
a Rebecca where no entitlement changes, from a certain time on. -/
def visits (resellerId : ℕ) (T : Tables) (p₀ : Panel) (n₀ : ℕ) :
    Watch (List (ℕ × ℕ × String × LocalStatus) × (String → Prop)) where
  reseller := resellerId
  obs T' := (T'.users.map ResellerUserCache.lasting, Flagged T' resellerId)
  val b := (T.users.map ResellerUserCache.lasting, fun username =>
    Flagged T resellerId username ∨ (b = true ∧ LocallyActive T resellerId username))
  spares
    | .updateUser old new => new.localStatus = old.localStatus ∧
        (new.disabledByParentReseller = old.disabledByParentReseller ∨
          ∀ u ∈ T.users, u.id = old.id → u.resellerId ≠ resellerId)
    | .insertUser _ => False
    | .markDisabledByParent id => id ≠ resellerId
    | _ => True
  around p n := (∀ username, (p.toServer.getAdmin username).map Admin.limits =
    (p₀.toServer.getAdmin username).map Admin.limits) ∧ n₀ ≤ n
  spared {st b T₁ T' n} h hT hx := by
    obtain ⟨hrows, hflags⟩ := Prod.mk.inj hT
    have hkeep : T'.users.map ResellerUserCache.lasting =
        T₁.users.map ResellerUserCache.lasting ∧ Flagged T' resellerId = Flagged T₁ resellerId := by
      cases st with
      | updateUser old new =>
        refine ⟨?_, flagged_updateUser (fun u hu hid hr => h.2.resolve_right fun hother => ?_) hx⟩
        · rw [Stmt.exec] at hx
          split_ifs at hx
          cases hx
          refine lasting_map rfl fun u _ => ?_
          split_ifs
          · simp only [ResellerUserCache.lasting, ResellerUserCache.update, h.1, col_same]
          · rfl
        · obtain ⟨v, hv, hlasting⟩ := mem_of_lasting hrows hu
          simp only [ResellerUserCache.lasting, Prod.mk.injEq] at hlasting
          exact hother v hv (hlasting.1.trans hid) (hlasting.2.1.trans hr)
      | insertUser row => exact h.elim
      | markDisabledByParent id =>
        refine ⟨?_, flagged_mark h hx⟩
        cases hx
        refine lasting_map rfl fun u _ => ?_
        split_ifs <;> rfl
      | _ =>
        have hsame := Stmt.users_exec rfl hx
        exact ⟨congrArg _ hsame, flagged_of_users hsame⟩
    exact Prod.ext (hkeep.1.trans hrows) (hkeep.2.trans hflags)
  later h := ⟨h.1, Nat.le_succ_of_le h.2⟩

instance {i : ℕ} {T : Tables} {p₀ : Panel} {n₀ : ℕ} : (Watch.visits i T p₀ n₀).OfUsers where
  spares {st} h := by
    cases st with
    | updateUser | insertUser | markDisabledByParent => cases h
    | _ => trivial

/-- The same before the resellers are read. -/
def opening (resellerId : ℕ) (T : Tables) (p₀ : Panel) (n₀ : ℕ) :
    Watch (List Reseller × List (ℕ × ℕ × String × LocalStatus) × (String → Prop)) :=
  let W := Watch.visits resellerId T p₀ n₀
  { reseller := resellerId
    obs := fun T' => (T'.resellers, W.obs T')
    val := fun b => (T.resellers, W.val b)
    spares := fun st => st.aboutResellers = false ∧ W.spares st
    around := W.around
    spared := fun h hT hx => Prod.ext ((Stmt.resellers_exec h.1 hx).trans (congrArg Prod.fst hT))
      (W.spared h.2 (congrArg Prod.snd hT) hx)
    later := W.later }

instance {i : ℕ} {T : Tables} {p₀ : Panel} {n₀ : ℕ} : (Watch.opening i T p₀ n₀).OfRows where
  spares hu hr := ⟨hr, Watch.OfUsers.spares hu⟩

end Watch

/-! ## Properties of the session -/

section Stays

open Act (Holds)

variable {α γ : Type} {P : Session → Prop} {m : Bot α} {f : α → Bot γ}

/-- The program keeps a property of the session, whatever it is answered. -/
def Stays (P : Session → Prop) (m : Bot α) : Prop :=
  ∀ ar : Around, Holds (Spec.exact (logging ar.react)) (fun s _ => P s) m (fun _ s _ => P s)
    fun _ s _ => P s

namespace Stays

theorem pure (a : α) : Stays P (Pure.pure a : Bot α) := fun _ => Holds.pure fun _ _ h => h

theorem outcome (r : Except Err α) : Stays P (Act.outcome r : Bot α) :=
  fun _ => Holds.outcome (fun _ _ _ _ h => h) fun _ _ _ _ h => h

theorem bind (hm : Stays P m) (hf : ∀ a, Stays P (f a)) : Stays P (m >>= f) :=
  fun ar => (hm ar).bind fun a => hf a ar

theorem ask (e : Ev) : Stays P (ResellerBot.ask e) :=
  fun _ => Holds.request (fun _ _ _ => trivial) fun _ _ _ _ h _ => h

theorem call (why : Cause) (c : Call) : Stays P (ResellerBot.call why c) :=
  (ask _).bind fun _ => outcome _

theorem notify (chat : ℤ) : Stays P (ResellerBot.notify chat) := by
  refine bind (fun ar => (((ask (.send chat)).bind fun r => outcome r) ar).attempt.post
    fun r _ _ h => ?_) fun r => ?_
  · cases r with
    | ok _ => exact h
    | error _ => exact h
  · cases r with
    | ok _ => exact pure _
    | error _ => exact pure _

variable (hflushed : ∀ s, P s → P s.flushed) (hexpire : ∀ s b, P (Session.expire s b))
  (hpending : ∀ s sts, P s → P { s with pending := sts })

include hflushed hexpire

theorem flush : Stays P ResellerBot.flush := by
  refine fun ar => Holds.bind (Q := fun _ s _ => P s) (Holds.state fun _ _ h => h) fun s => ?_
  split_ifs
  · exact Holds.raise fun _ _ h => h
  · exact Holds.modify fun s _ h => hflushed s h
  · refine (ask (.flush s.unflushed) ar).bind fun r => ?_
    cases r with
    | ok _ => exact Holds.modify fun s _ h => hflushed s h
    | error e =>
      exact Holds.bind (Q := fun _ s _ => P s) (Holds.modify fun s _ _ => hexpire s true)
        fun _ => Holds.raise fun _ _ h => h

theorem query (q : Query) : Stays P (ResellerBot.query q) :=
  (flush hflushed hexpire).bind fun _ => (ask _).bind fun _ => outcome _

include hpending

theorem warnReseller (chat : ℤ) (live : Admin) (kind : String) (threshold : Option ℤ) :
    Stays P (ResellerBot.warnReseller chat live kind threshold) := by
  cases threshold with
  | none => exact pure _
  | some n =>
    refine (query hflushed hexpire _).bind fun sent ar => Holds.ite (pure _ ar) ?_
    exact ((notify chat).bind fun delivered ar => Holds.when
      (fun _ => Holds.modify fun s _ h => hpending s _ h) fun _ _ _ h => h) ar

theorem warnAboutEntitlement (chat : ℤ) (live : Admin) (now : Datetime) (times traffics : List ℤ) :
    Stays P (ResellerBot.warnAboutEntitlement chat live now times traffics) :=
  (warnReseller hflushed hexpire hpending _ _ _ _).bind fun _ =>
    warnReseller hflushed hexpire hpending _ _ _ _

end Stays

end Stays

/-! ## Visits to resellers -/

/-- Neither creates an admin nor changes the entitlement of one. -/
def Call.spares : Call → Bool
  | .createResellerAdmin _ _ | .updateAdmin _ _ => false
  | _ => true

theorem limits_perform {p : Panel} {c : Call} (hc : c.spares = true) (username : Option String) :
    ((p.perform c).2.toServer.getAdmin username).map Admin.limits =
      (p.toServer.getAdmin username).map Admin.limits := by
  have hstatus : ∀ {name : String} {a : Admin} (status : String), p.toServer.admins name = some a →
      ((p.toServer.setAdmin name { a with status := status }).getAdmin username).map Admin.limits =
        (p.toServer.getAdmin username).map Admin.limits := by
    intro name a status ha
    cases username with
    | none => rfl
    | some u =>
      by_cases hu : u = name
      · subst hu
        simp [Server.getAdmin, Server.setAdmin, ha, Admin.limits]
      · simp [Server.getAdmin, Server.setAdmin, hu]
  cases c with
  | createResellerAdmin | updateAdmin => cases hc
  | enableAdmin name | disableAdmin name =>
    simp only [Panel.perform, Panel.write, Server.perform]
    cases ha : p.toServer.admins name with
    | none => rfl
    | some a => exact hstatus _ ha
  | enableUser name | disableUser name | deleteUser name =>
    simp only [Panel.perform, Panel.setUser]
    cases p.users name with
    | none => rfl
    | some _ => rfl
  | disableAdminUsers name =>
    simp only [Panel.perform, Panel.disableAdminUsers]
    cases p.admins name with
    | none => rfl
    | some _ => rfl
  | _ => rfl

section Visits

open Act (Holds)

variable {α β : Type} {W : Watch β} {P : Session → Prop} {m : Bot α} {ar : Around}

theorem Watch.Kept.stays (hm : W.Kept m) (hs : Stays P m) (ar : Around) :
    Holds (Spec.exact (logging ar.react)) (fun s v => W.Still s v ∧ P s) m
      (fun _ s v => W.Still s v ∧ P s) fun _ => W.Still :=
  ((hm ar).and (hs ar)).conseq (fun _ _ h => h) (fun _ _ _ h => h) fun _ _ _ h => h.1

/-- A query, with what its result shows of the tables. -/
theorem Watch.Kept.queryWith {q : Query} {F : q.Result → Prop}
    (hF : ∀ T b, W.obs T = W.val b → F (q.run T)) (ar : Around) :
    Holds (Spec.exact (logging ar.react)) W.Still (ResellerBot.query q)
      (fun r s v => W.Still s v ∧ F r)
      fun _ => W.Still := by
  refine (Watch.Kept.flush ar).bind fun _ => Holds.bind
    (Q := fun (r : Except Err q.Result) s v => W.Still s v ∧ ∀ a, r = .ok a → F a) ?_ fun r => ?_
  · refine Holds.request (fun _ _ _ => trivial) fun s v r v' h hr => ?_
    obtain ⟨rfl, rfl⟩ := Prod.mk.inj (show logging ar.react (.query q) v = (r, v') from hr)
    refine ⟨h.answered rfl h.working rfl h.around, ?_⟩
    rintro _ ⟨⟩
    exact hF _ _ h.working
  · exact Holds.outcome (fun a ha _ _ h => ⟨h.1, h.2 a ha⟩) fun _ _ _ _ h => h.1

/-- An object of a list goes into the variable as it was loaded. -/
theorem Watch.Kept.holdLoadedWith {γ : Type} (sl : Slot γ) [sl.Placed]
    (hput : ∀ s ob, sl.get (sl.put s ob) = ob) (ep : ℕ) (row : γ) (ar : Around) :
    Holds (Spec.exact (logging ar.react)) W.Still (sl.holdLoaded ep row)
      (fun _ s v => W.Still s v ∧ sl.get s = some ⟨some row, row⟩) fun _ => W.Still := by
  have hheld : Holds (Spec.exact (logging ar.react)) (fun _ _ => True) (sl.holdLoaded ep row)
      (fun _ s _ => sl.get s = some ⟨some row, row⟩) fun _ _ _ => True := by
    refine Holds.bind (Q := fun _ _ _ => True) (Holds.state fun _ _ _ => trivial) fun s => ?_
    split_ifs
    · exact Holds.modify fun _ _ _ => hput _ _
    · exact Holds.raise fun _ _ _ => trivial
    · exact Holds.raise fun _ _ _ => trivial
  exact (((holdLoaded sl ep row) ar).and hheld).conseq (fun _ _ h => ⟨h, trivial⟩)
    (fun _ _ _ h => h) fun _ _ _ h => h.1

variable {cfg : Settings} {i : ℕ} {T : Tables} {p₀ : Panel} {n₀ : ℕ}

theorem visits_call (why : Cause) {c : Call} (hc : c.spares = true) :
    (Watch.visits i T p₀ n₀).Kept (call why c) :=
  .callWith why c fun h => ⟨fun u => (limits_perform hc u).trans (h.1 u), h.2⟩

theorem visits_reenableChild {live : Admin} {now : Datetime} {ep : ℕ} {cached : ResellerUserCache}
    (hother : ∀ u ∈ T.users, u.id = cached.id → u.resellerId ≠ i) :
    (Watch.visits i T p₀ n₀).Kept (reenableChild live now ep cached) := by
  intro ar
  refine (Watch.Kept.holdLoadedWith Slot.user (fun _ _ => rfl) ep cached ar).bind fun _ => ?_
  refine ((visits_call .user rfl).stays (.call _ _) ar).bind fun found => ?_
  cases found with
  | none => exact Holds.pure fun _ _ h => h.1
  | some child =>
    refine Holds.ite ?_ (Holds.pure fun _ _ h => h.1)
    refine ((visits_call .user rfl).stays (.call _ _) ar).bind fun _ => ?_
    refine Holds.modify fun s v h => h.1.withSession ?_
    refine Watch.Kept.spares_put Slot.user h.1.unflushed fun o ho st hst => ?_
    rw [h.2] at ho
    cases ho
    change st ∈ updated .updateUser (fun u => [.insertUser u])
      ⟨some cached, { cached with disabledByParentReseller := false }⟩ at hst
    obtain ⟨db, hdb, rfl⟩ | ⟨hdb, -⟩ := mem_updated hst
    · cases hdb
      exact ⟨rfl, .inr hother⟩
    · cases hdb

/-- The children of other resellers come back. -/
theorem visits_reenableChildren {live : Admin} {now : Datetime} {reseller : Reseller}
    (hkeyed : Rows.Keyed ResellerUserCache.id T.users)
    (h : reseller.id ≠ i ∨ reseller.status ≠ .ACTIVE) :
    (Watch.visits i T p₀ n₀).Kept (reenableChildren cfg live now reseller) := by
  unfold reenableChildren
  split_ifs with hactive
  · have hid : reseller.id ≠ i := h.resolve_right fun hne => hne hactive.1
    intro ar
    refine (Watch.Kept.queryWith (q := .usersDisabledByParent reseller.id) (F := fun rows =>
      ∀ row ∈ rows, ∀ u ∈ T.users, u.id = row.id → u.resellerId ≠ i) ?_ ar).bind fun rows => ?_
    · intro T' b hT row hrow u hu huid hui
      simp only [Query.run, List.mem_filter, Bool.and_eq_true, decide_eq_true_eq] at hrow
      obtain ⟨v, hv, hlasting⟩ := mem_of_lasting (congrArg Prod.fst hT) hrow.1
      simp only [ResellerUserCache.lasting, Prod.mk.injEq] at hlasting
      have hsame : v = u := hkeyed.eq hv hu (hlasting.1.trans huid.symm)
      exact hid ((hrow.2.1.symm.trans hlasting.2.1.symm).trans (hsame ▸ hui))
    · refine Holds.of_pre (fun _ _ hpre => hpre.2) fun hrows => Holds.pre ?_ fun _ _ hpre => hpre.1
      refine (Watch.Kept.state fun _ => .pure _) ar |>.bind fun ep => ?_
      exact Holds.forEachMem fun row hrow => visits_reenableChild (hrows row hrow) ar
  · exact .pure _

/-- The end of an entitlement: of this reseller, or of another one. -/
theorem visits_expireReseller {live : Admin} {reseller : Reseller} :
    (Watch.visits i T p₀ n₀).Kept (expireReseller cfg live reseller) := by
  have hmark : (Watch.visits i T p₀ n₀).Kept (execute (.markDisabledByParent reseller.id)) := by
    by_cases hid : reseller.id = i
    · rw [hid]
      refine .mark fun b T₁ T' n hT hx => ?_
      obtain ⟨hrows, hflags⟩ := Prod.mk.inj hT
      have hrows' : T'.users.map ResellerUserCache.lasting =
          T₁.users.map ResellerUserCache.lasting := by
        cases hx
        refine lasting_map rfl fun u _ => ?_
        split_ifs <;> rfl
      refine Prod.ext (hrows'.trans hrows) (funext fun username => propext ?_)
      have hmarked : Flagged T' i username ↔ Flagged T₁ i username ∨ LocallyActive T₁ i username :=
        flagged_marked hx
      show Flagged T' i username ↔
        Flagged T i username ∨ (true = true ∧ LocallyActive T i username)
      rw [hmarked, congrFun hflags username, locallyActive_congr hrows]
      tauto
    · have hspares : (Watch.visits i T p₀ n₀).spares (.markDisabledByParent reseller.id) := hid
      exact .execute hspares (decide_eq_false hid)
  refine .ite (.pure _) (.ite (.audit _ _ _) ?_)
  refine (visits_call _ rfl).bind fun _ => (visits_call _ rfl).bind fun _ => ?_
  refine (Watch.Kept.when ((visits_call _ rfl).bind fun _ => hmark.bind fun _ => .pure _)).bind
    fun _ => (visits_call _ rfl).bind fun _ => .ite ?_ (.audit _ _ _)
  exact (Watch.Kept.assignReseller _).bind fun _ => (Watch.Kept.audit _ _ _).bind fun _ =>
    (Watch.Kept.notify _).bind fun _ => .pure _

/-- The visit to the row does not bring children of the reseller back. -/
def Spares (resellerId : ℕ) (p : Panel) (now : Datetime) (row : Reseller) : Prop :=
  row.id = resellerId → row.automationHold = true ∨ row.status ≠ .ACTIVE ∨
    ∀ live, p.toServer.getAdmin row.rebeccaAdminUsername = some live →
      exhausted live.expire live.dataLimit live.usedTraffic now = true

/-- The variable holds the reseller of the row, in its status. -/
def Visiting (row : Reseller) (s : Session) : Prop :=
  ∀ ob, s.reseller = some ob → ob.cur.id = row.id ∧ ob.cur.status = row.status

theorem visiting_flushed (row : Reseller) (s : Session) (h : Visiting row s) :
    Visiting row s.flushed := by
  intro ob hob
  obtain ⟨ob', hob', rfl⟩ := Option.map_eq_some_iff.mp
    (show s.reseller.map Session.clean = _ from hob)
  exact h ob' hob'

theorem stays_observed {row : Reseller} (live : Admin) (now : Datetime) :
    Stays (Visiting row) (Slot.reseller.assign (observed live now)) := by
  refine fun ar => Holds.modify fun s _ h ob hob => ?_
  obtain ⟨ob', hob', rfl⟩ := Option.map_eq_some_iff.mp
    (show s.reseller.map (fun ob => (⟨ob.db, observed live now ob.cur⟩ : Obj Reseller)) = _
      from hob)
  exact h ob' hob'

/-- What is read of an admin shows the entitlement of the beginning. -/
def Unchanged (p : Panel) (username : Option String) (read : Option Admin) : Prop :=
  ∀ live, read = some live → (p.toServer.getAdmin username).map Admin.limits = some live.limits

theorem visits_getAdmin (username : Option String) (ar : Around) :
    Holds (Spec.exact (logging ar.react)) (fun s v => (Watch.visits i T p₀ n₀).Still s v ∧ P s)
      (getAdmin username) (fun a s v => ((Watch.visits i T p₀ n₀).Still s v ∧ P s) ∧
        Unchanged p₀ username a) fun _ s v => (Watch.visits i T p₀ n₀).Still s v ∧ P s := by
  refine Holds.bind (Q := fun (r : Except Err (Option Admin)) s v =>
    ((Watch.visits i T p₀ n₀).Still s v ∧ P s) ∧ ∀ a, r = .ok a → Unchanged p₀ username a) ?_
    fun r => ?_
  · refine Holds.request (fun _ _ _ => trivial) fun s v r v' h hr => ?_
    obtain ⟨rfl, rfl⟩ := Prod.mk.inj
      (show logging ar.react (.call .lookup (.getAdmin username)) v = (r, v') from hr)
    refine ⟨⟨h.1.answered rfl h.1.working rfl h.1.around, h.2⟩, ?_⟩
    rintro _ ⟨⟩ live hlive
    rw [← h.1.around.1 username, hlive]
    rfl
  · exact Holds.outcome (fun a ha _ _ h => ⟨h.1, h.2 a ha⟩) fun _ _ _ _ h => h.1

theorem visits_syncReseller {now : Datetime} {times traffics : List ℤ} {ep : ℕ} {row : Reseller}
    (hkeyed : Rows.Keyed ResellerUserCache.id T.users) (hrow : Spares i p₀ now row) :
    (Watch.visits i T p₀ n₀).Kept (syncReseller cfg now times traffics ep row) := by
  intro ar
  refine Holds.bind (Q := fun _ s v => (Watch.visits i T p₀ n₀).Still s v ∧ Visiting row s)
    ((Watch.Kept.holdLoadedWith Slot.reseller (fun _ _ => rfl) ep row ar).post
      fun _ s v h => ⟨h.1, fun ob hob => ?_⟩) fun _ => ?_
  · cases h.2.symm.trans hob
    exact ⟨rfl, rfl⟩
  by_cases hskip : row.automationHold = true ∨ ¬truthy row.rebeccaAdminUsername = true
  · rw [if_pos hskip]
    exact Holds.pure fun _ _ h => h.1
  rw [if_neg hskip]
  refine (visits_getAdmin row.rebeccaAdminUsername ar).attempt.bind fun r => ?_
  rcases r with e | _ | live
  · exact (Watch.Kept.audit _ _ _ ar).pre fun _ _ h => h.1
  · exact Holds.pure fun _ _ h => h.1.1
  refine Holds.of_pre (fun _ _ h => h.2 live rfl) fun hlimits => Holds.pre ?_ fun _ _ h => h.1
  refine ((Watch.Kept.assignReseller _).stays (stays_observed live now) ar).bind fun _ => ?_
  refine ((Watch.Kept.warnAboutEntitlement _ _ _ _ _).stays
    (.warnAboutEntitlement (visiting_flushed row) (fun _ _ => by rintro _ ⟨⟩)
      (fun _ _ h => h) _ _ _ _ _) ar).bind fun _ => ?_
  refine Holds.bind (Q := fun reseller s v => (Watch.visits i T p₀ n₀).Still s v ∧
    reseller.id = row.id ∧ reseller.status = row.status) ?_ fun reseller =>
      Holds.of_pre (fun _ _ h => h.2) fun hread => Holds.pre ?_ fun _ _ h => h.1
  · refine Holds.bind
      (Q := fun a s v => ((Watch.visits i T p₀ n₀).Still s v ∧ Visiting row s) ∧ a = s)
      (Holds.state fun _ _ h => ⟨h, rfl⟩) fun a => ?_
    cases hob : Slot.reseller.get a with
    | none => exact Holds.raise fun _ _ h => h.1.1
    | some ob => exact Holds.pure fun s v h => ⟨h.1.1, h.1.2 ob (h.2 ▸ hob)⟩
  · by_cases hx : exhausted live.expire live.dataLimit live.usedTraffic now = true
    · rw [if_neg (not_not.mpr hx)]
      exact visits_expireReseller ar
    · rw [if_pos hx]
      refine visits_reenableChildren hkeyed ?_ ar
      by_contra hboth
      rw [not_or, not_not, not_not] at hboth
      obtain h | h | h := hrow (hread.1.symm.trans hboth.1)
      · exact hskip (.inl h)
      · exact h (hread.2.symm.trans hboth.2)
      · obtain ⟨live', hl, hsame⟩ := Option.map_eq_some_iff.mp hlimits
        simp only [Admin.limits, Prod.mk.injEq] at hsame
        have hx' := h live' hl
        rw [hsame.1, hsame.2.1, hsame.2.2] at hx'
        exact hx hx'

end Visits

/-! ## The run -/

section Run

open Act (Holds)

variable (ar : Around) (cfg : Settings) (batchSize i : ℕ) (w : Place)

/-- The run does not bring children of the reseller back. -/
def SparesChildren : Prop :=
  ∀ row ∈ (Query.resellersNotSuspended batchSize).run w.tables, ∀ k, w.ticks ≤ k →
    Spares i w.panel (ar.clock k) row

/-- In the run the children of the reseller are flagged, and a commit follows. -/
def FlagsStand : Prop :=
  (flagging i (Act.history ar.react Session.empty w.enter (run cfg batchSize))).2 = true

/-- The flags from the end of the visits on. -/
abbrev Watch.visited : Watch (String → Prop) :=
  Watch.flags i fun b username =>
    Flagged w.tables i username ∨ (b = true ∧ LocallyActive w.tables i username)

/-- During the visits or after them. -/
def Watched (s : Session) (v : Txn × Past) : Prop :=
  (Watch.visits i w.tables w.panel w.ticks).Still s v ∨ (Watch.visited i w).Still s v

variable {ar cfg batchSize i w} {α β γ : Type} {m : Bot α} {T : Tables} {p₀ : Panel} {n₀ : ℕ}
  {s : Session} {v : Txn × Past}

theorem still_enter :
    (Watch.opening i w.tables w.panel w.ticks).Still Session.empty (w.enter, []) := by
  have hval : (fun username => Flagged w.tables i username ∨
      (false = true ∧ LocallyActive w.tables i username)) = Flagged w.tables i := by
    funext username
    simp
  have hobs : (Watch.opening i w.tables w.panel w.ticks).obs w.tables =
      (Watch.opening i w.tables w.panel w.ticks).val false :=
    Prod.ext rfl (Prod.ext rfl hval.symm)
  exact ⟨hobs, hobs, ⟨fun _ => rfl, le_rfl⟩, by rintro _ ⟨⟩⟩

/-- The resellers have been read. -/
theorem Watch.Still.visits (h : (Watch.opening i T p₀ n₀).Still s v) :
    (Watch.visits i T p₀ n₀).Still s v :=
  ⟨congrArg Prod.snd h.working, congrArg Prod.snd h.committed, h.around,
    fun st hst => (h.unflushed st hst).2⟩

/-- The last visit has been flushed. -/
theorem Watch.Still.visited (h : (Watch.visits i w.tables w.panel w.ticks).Still s v)
    (hs : s.unflushed = []) : (Watch.visited i w).Still s v :=
  ⟨congrArg Prod.snd h.working, congrArg Prod.snd h.committed, trivial, by rw [hs]; rintro _ ⟨⟩⟩

theorem Watch.Kept.watched (h : (Watch.visits i w.tables w.panel w.ticks).Kept m)
    (h' : (Watch.visited i w).Kept m) (ar : Around) :
    Holds (Spec.exact (logging ar.react)) (Watched i w) m (fun _ => Watched i w)
      fun _ => Watched i w := by
  rintro s v (hs | hs)
  · exact (h ar).conseq (fun _ _ hs => hs) (fun _ _ _ => .inl) (fun _ _ _ => .inl) s v hs
  · exact (h' ar).conseq (fun _ _ hs => hs) (fun _ _ _ => .inr) (fun _ _ _ => .inr) s v hs

theorem run_syncResellers (hkeyed : Rows.Keyed ResellerUserCache.id w.tables.users)
    (hspares : SparesChildren ar batchSize i w) :
    Holds (Spec.exact (logging ar.react)) (Watch.opening i w.tables w.panel w.ticks).Still
      (syncResellers cfg batchSize) (fun _ => (Watch.visits i w.tables w.panel w.ticks).Still)
      fun _ => (Watch.visits i w.tables w.panel w.ticks).Still := by
  refine ((Watch.Kept.queryWith (F := fun rows =>
    rows = (Query.resellersNotSuspended batchSize).run w.tables) (fun T' b hT => ?_) ar).conseq
      (fun _ _ h => h) (fun rows s v h => And.intro h.1.visits h.2) fun _ _ _ h => h.visits).bind
        fun rows => ?_
  · have hrows : T'.resellers = w.tables.resellers := congrArg Prod.fst hT
    simp only [Query.run, hrows]
  refine Holds.of_pre (fun _ _ h => h.2) fun hrows => Holds.pre ?_ fun _ _ h => h.1
  refine (Watch.Kept.state fun _ => .pure _) ar |>.bind fun ep => ?_
  refine Holds.bind (Q := fun now s v => (Watch.visits i w.tables w.panel w.ticks).Still s v ∧
    ∃ k, w.ticks ≤ k ∧ now = ar.clock k) ?_ fun now =>
      Holds.of_pre (fun _ _ h => h.2) fun hnow => Holds.pre ?_ fun _ _ h => h.1
  · refine Holds.request (fun _ _ _ => trivial) fun s v r v' h hr => ?_
    obtain ⟨rfl, rfl⟩ := Prod.mk.inj (show logging ar.react .now v = (r, v') from hr)
    exact ⟨h.answered rfl h.working rfl (Watch.later _ h.around), _, h.around.2, rfl⟩
  · obtain ⟨k, hk, rfl⟩ := hnow
    refine (Watch.Kept.timeThresholds ar).bind fun times =>
      (Watch.Kept.trafficThresholds ar).bind fun traffics => Holds.forEachMem fun row hrow => ?_
    exact visits_syncReseller hkeyed (hspares row (hrows ▸ hrow) k hk) ar

/-- The first read after the visits flushes the last one. -/
theorem run_syncUsers : Holds (Spec.exact (logging ar.react))
    (Watch.visits i w.tables w.panel w.ticks).Still (syncUsers cfg batchSize)
    (fun _ => (Watch.visited i w).Still) fun _ => Watched i w := by
  have hclean : Holds (Spec.exact (logging ar.react)) (fun _ _ => True) flush
      (fun _ s _ => s.unflushed = []) fun _ _ _ => True := by
    refine Holds.bind (Q := fun _ _ _ => True) (Holds.state fun _ _ _ => trivial) fun s => ?_
    split_ifs
    · exact Holds.raise fun _ _ _ => trivial
    · exact Holds.modify fun s _ _ => unflushed_flushed s
    · refine Holds.bind (Q := fun _ _ _ => True) (Holds.request (fun _ _ _ => trivial)
        fun _ _ _ _ _ _ => trivial) fun r => ?_
      cases r with
      | ok _ => exact Holds.modify fun s _ _ => unflushed_flushed s
      | error e =>
        exact Holds.bind (Q := fun _ _ _ => True) (Holds.modify fun _ _ _ => trivial) fun _ =>
          Holds.raise fun _ _ _ => trivial
  have hflush : Holds (Spec.exact (logging ar.react))
      (Watch.visits i w.tables w.panel w.ticks).Still flush (fun _ => (Watch.visited i w).Still)
      fun _ => Watched i w :=
    ((Watch.Kept.flush ar).and hclean).conseq (fun _ _ h => ⟨h, trivial⟩)
      (fun _ _ _ h => h.1.visited h.2) fun _ _ _ h => .inl h.1
  have hrest : ∀ {γ : Type} {m : Bot γ}, (Watch.visited i w).Kept m →
      Holds (Spec.exact (logging ar.react)) (Watch.visited i w).Still m
        (fun _ => (Watch.visited i w).Still) fun _ => Watched i w :=
    fun hm => (hm ar).conseq (fun _ _ h => h) (fun _ _ _ h => h) fun _ _ _ => .inr
  refine Holds.bind (Q := fun _ => (Watch.visited i w).Still) (hflush.bind fun _ => hrest ?_)
    fun rows => hrest (.syncUsersOfAll rows)
  exact (Watch.Kept.ask (e := .query _) (fun _ _ => ⟨rfl, rfl, fun h => h⟩)
    fun _ _ _ => rfl).bind fun _ => .outcome _

theorem run_watched (hkeyed : Rows.Keyed ResellerUserCache.id w.tables.users)
    (hspares : SparesChildren ar batchSize i w) :
    Holds (Spec.exact (logging ar.react)) (fun _ v => v = (w.enter, [])) (run cfg batchSize)
      (fun _ => Watched i w) fun _ => Watched i w := by
  have hbody : ∀ won : Bool, Holds (Spec.exact (logging ar.react))
      (Watch.opening i w.tables w.panel w.ticks).Still (Act.when won do
        syncResellers cfg batchSize
        syncUsers cfg batchSize
        dueDeletions cfg batchSize false
        reconcileOrders cfg batchSize
        reconcilePlisio cfg batchSize
        commit) (fun _ => Watched i w) fun _ => Watched i w := by
    refine fun won => Holds.when (fun _ => ?_) fun _ _ _ h => .inl h.visits
    refine Holds.bind ((run_syncResellers hkeyed hspares).conseq (fun _ _ h => h)
      (fun _ _ _ h => h) fun _ _ _ => .inl) fun _ => run_syncUsers.bind fun _ => ?_
    have hrest : (Watch.visited i w).Kept (do
        dueDeletions cfg batchSize false
        reconcileOrders cfg batchSize
        reconcilePlisio cfg batchSize
        commit) :=
      (Watch.Kept.dueDeletions _).bind fun _ => Watch.Kept.reconcileOrders.bind fun _ =>
        Watch.Kept.reconcilePlisio.bind fun _ => .commit
    exact (hrest ar).conseq (fun _ _ h => h) (fun _ _ _ => .inr) fun _ _ _ => .inr
  have hlocked : Holds (Spec.exact (logging ar.react))
      (Watch.opening i w.tables w.panel w.ticks).Still (locked "scheduler:global" 240 fun won =>
        Act.when won do
          syncResellers cfg batchSize
          syncUsers cfg batchSize
          dueDeletions cfg batchSize false
          reconcileOrders cfg batchSize
          reconcilePlisio cfg batchSize
          commit) (fun _ => Watched i w) fun _ => Watched i w := by
    refine Holds.bind ((Watch.Kept.acquire _ _ ar).conseq (fun _ _ h => h) (fun _ _ _ h => h)
      fun _ _ _ h => .inl h.visits) fun won => ?_
    refine Holds.bind (Q := fun _ => Watched i w) ((hbody won).attempt.post fun r _ _ h => ?_)
      fun r => ?_
    · cases r with
      | ok _ => exact h
      | error _ => exact h
    · exact ((Watch.Kept.when (.release _)).bind fun _ => .outcome r).watched
        ((Watch.Kept.when (.release _)).bind fun _ => .outcome r) ar
  refine Holds.bind (Q := fun _ => (Watch.opening i w.tables w.panel w.ticks).Still)
    (Holds.modify fun _ v h => ?_) fun _ => ?_
  · rw [h]
    exact still_enter
  refine Holds.bind (Q := fun _ => Watched i w) (hlocked.attempt.post fun r _ _ h => ?_) fun r => ?_
  · cases r with
    | ok _ => exact h
    | error _ => exact h
  · exact (Watch.Kept.rollback.bind fun _ => .outcome r).watched
      (Watch.Kept.rollback.bind fun _ => .outcome r) ar

/-- **What a run makes of the flags**: those of the users taken for active are added, if the
flagging stands at the end. -/
theorem flagged_run (hkeyed : Rows.Keyed ResellerUserCache.id w.tables.users)
    (hspares : SparesChildren ar batchSize i w) (username : String) :
    Flagged (ar.follow (Task.run.prog cfg batchSize) w).tables i username ↔
      Flagged w.tables i username ∨
        (FlagsStand ar cfg batchSize i w ∧ LocallyActive w.tables i username) := by
  have hwatched : ∀ {s : Session} {v : Txn × Past}, Watched i w s v →
      (Flagged v.1.committed i username ↔ Flagged w.tables i username ∨
        ((flagging i v.2).2 = true ∧ LocallyActive w.tables i username)) := by
    rintro s v (h | h)
    · exact iff_of_eq (congrFun (congrArg Prod.snd h.committed) username)
    · exact iff_of_eq (congrFun h.committed username)
  have hrun : Holds (Spec.exact (logging ar.react)) (fun _ v => v = (w.enter, []))
      (run cfg batchSize) (fun _ => Watched i w) fun _ => Watched i w := run_watched hkeyed hspares
  have h := hrun.run (s := Session.empty) rfl
  rw [Act.run_logging] at h
  rw [Task.prog, follow_launch]
  unfold Around.after FlagsStand
  rcases hr : Act.run ar.react Session.empty w.enter (run cfg batchSize) with ⟨⟨e | _, s⟩, t⟩
  · rw [hr] at h
    exact hwatched h
  · rw [hr] at h
    exact hwatched h

end Run

end ResellerBot
