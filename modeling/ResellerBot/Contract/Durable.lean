import Mathlib
import ResellerBot.Contract.Truth
import ResellerBot.Payments.Outcome

/-!
# ResellerBot.Contract.Durable — runs of the order worker

One worker at a time reconciles orders, again and again, and every request of it may fail and the
process may crash at any point.  Meanwhile Rebecca, the clock, the products and the settings change
at will.  What it means to write for an order is committed before Rebecca hears of it, and stays.
-/

open Interact

namespace ResellerBot

variable {sells : Product → Prop} {T₀ : Tables} {i : ℕ} {st : Store Tables} {v v' : View}

/-! ## What a query teaches -/

section Queries

variable {T : Tables}

theorem Truth.sawOrder (h : Truth T v) (hkeyed : Rows.Keyed Order.id T.orders) {o : Order}
    (ho : o ∈ T.orders) : Truth T (v.sawOrder o) := by
  refine ⟨fun j o' hj => ?_, h.resellers⟩
  by_cases he : j = o.id
  · subst he
    rw [show (v.sawOrder o).orders o.id = some o from Function.update_self _ _ _] at hj
    cases hj
    exact ⟨o, hkeyed.get ho, .refl o⟩
  · rw [show (v.sawOrder o).orders j = v.orders j from Function.update_of_ne he _ _] at hj
    exact h.orders j o' hj

theorem Truth.sawReseller (h : Truth T v) (hkeyed : Rows.Keyed Reseller.id T.resellers)
    {r : Reseller} (hr : r ∈ T.resellers) : Truth T (v.sawReseller r) := by
  refine ⟨h.orders, fun j r' hj => ?_⟩
  by_cases he : j = r.id
  · subst he
    rw [show (v.sawReseller r).resellers r.id = some r from Function.update_self _ _ _] at hj
    cases hj
    exact ⟨r, hkeyed.get hr, .refl r⟩
  · rw [show (v.sawReseller r).resellers j = v.resellers j from Function.update_of_ne he _ _] at hj
    exact h.resellers j r' hj

/-- The view still knows only what is so, and has forgotten nothing of its transaction. -/
structure Taught (T : Tables) (v v' : View) : Prop where
  truth : Truth T v'
  unsaved : v'.unsaved = v.unsaved
  writing : v'.writing = v.writing

theorem Taught.refl (h : Truth T v) : Taught T v v := ⟨h, rfl, rfl⟩

theorem Taught.orders (h : Truth T v) (hkeyed : Rows.Keyed Order.id T.orders) {rows : List Order}
    (hrows : ∀ o ∈ rows, o ∈ T.orders) : Taught T v (rows.foldl View.sawOrder v) := by
  induction rows generalizing v with
  | nil => exact .refl h
  | cons o rows ih =>
    have := ih (h.sawOrder hkeyed (hrows o List.mem_cons_self)) fun o' ho' =>
      hrows o' (List.mem_cons_of_mem _ ho')
    exact ⟨this.truth, this.unsaved, this.writing⟩

theorem Taught.resellers (h : Truth T v) (hkeyed : Rows.Keyed Reseller.id T.resellers)
    {rows : List Reseller} (hrows : ∀ r ∈ rows, r ∈ T.resellers) :
    Taught T v (rows.foldl View.sawReseller v) := by
  induction rows generalizing v with
  | nil => exact .refl h
  | cons r rows ih =>
    have := ih (h.sawReseller hkeyed (hrows r List.mem_cons_self)) fun r' hr' =>
      hrows r' (List.mem_cons_of_mem _ hr')
    exact ⟨this.truth, this.unsaved, this.writing⟩

theorem Taught.order? (h : Truth T v) (hkeyed : Rows.Keyed Order.id T.orders) {row : Option Order}
    (hrow : ∀ o ∈ row, o ∈ T.orders) : Taught T v (v.saw? View.sawOrder row) := by
  cases row with
  | none => exact .refl h
  | some o => exact ⟨h.sawOrder hkeyed (hrow o rfl), rfl, rfl⟩

theorem Taught.reseller? (h : Truth T v) (hkeyed : Rows.Keyed Reseller.id T.resellers)
    {row : Option Reseller} (hrow : ∀ r ∈ row, r ∈ T.resellers) :
    Taught T v (v.saw? View.sawReseller row) := by
  cases row with
  | none => exact .refl h
  | some r => exact ⟨h.sawReseller hkeyed (hrow r rfl), rfl, rfl⟩

/-- What a query returns is so. -/
theorem Truth.read (h : Truth T v) (hsound : T.Sound sells) (q : Query) :
    Taught T v (v.read q (q.run T)) := by
  cases q with
  | order id => exact .order? h hsound.orders fun o ho => (Rows.mem_of_get ho).1
  | orderByNumber number =>
    exact .order? h hsound.orders fun o ho => List.mem_of_find?_eq_some ho
  | openOrders limit =>
    exact .orders h hsound.orders fun o ho => List.mem_of_mem_filter (List.mem_of_mem_take ho)
  | reseller id => exact .reseller? h hsound.resellers fun r hr => (Rows.mem_of_get hr).1
  | resellerByTelegram tg =>
    exact .reseller? h hsound.resellers fun r hr => List.mem_of_find?_eq_some hr
  | resellers limit => exact .resellers h hsound.resellers fun r hr => List.mem_of_mem_take hr
  | resellersNotSuspended limit =>
    exact .resellers h hsound.resellers fun r hr =>
      List.mem_of_mem_filter (List.mem_of_mem_take hr)
  | trial tg =>
    show Taught T v (v.saw? View.sawTrial (Query.run T (.trial tg)))
    cases Query.run T (.trial tg) with
    | none => exact .refl h
    | some t => exact ⟨h.of_eq rfl rfl rfl rfl, rfl, rfl⟩
  | resellerByAdmin u =>
    show Taught T v (v.lookedUpReseller u (Query.run T (.resellerByAdmin u)))
    unfold View.lookedUpReseller
    split_ifs
    · exact .refl h
    · exact ⟨h.of_eq rfl rfl rfl rfl, rfl, rfl⟩
  | trialByAdmin u =>
    show Taught T v (v.lookedUpTrial u (Query.run T (.trialByAdmin u)))
    unfold View.lookedUpTrial
    split_ifs
    · exact .refl h
    · exact ⟨h.of_eq rfl rfl rfl rfl, rfl, rfl⟩
  | _ => exact .refl h

theorem Tables.Sound.fits (h : T.Sound sells) (q : Query) : q.Fits sells (q.run T) := by
  cases q with
  | order id => exact fun o ho => (Rows.mem_of_get ho).2
  | openOrders limit =>
    refine ⟨?_, fun o ho => ?_⟩
    · have hsub : List.Sublist (Query.run T (.openOrders limit)) T.orders :=
        (List.take_sublist _ _).trans List.filter_sublist
      exact (hsub.map Order.id).nodup h.orders
    · have := List.of_mem_filter (List.mem_of_mem_take ho)
      simpa [Order.Open] using this
  | reseller id => exact fun r hr => (Rows.mem_of_get hr).2
  | resellerByTelegram tg => exact fun r hr => by simpa using List.find?_some hr
  | product id =>
    exact fun p hp => ⟨(Rows.mem_of_get hp).2, h.products p (Rows.mem_of_get hp).1⟩
  | trial tg =>
    exact fun t ht => by simpa using List.find?_some ht
  | waitingPlisio limit =>
    intro x hx
    obtain ⟨o, -, ho⟩ := List.mem_flatMap.mp (List.mem_of_mem_take hx)
    split_ifs at ho with hwaiting
    · obtain ⟨p, -, rfl⟩ := List.mem_map.mp ho
      exact hwaiting
    · cases ho
  | _ => trivial

end Queries

/-! ## The store and the worker -/

/-- Session `i` is the only one at work, and knows `v`. -/
structure Working (sells : Product → Prop) (T₀ : Tables) (i : ℕ) (st : Store Tables) (v : View) :
    Prop where
  sound : st.All (Tables.Sound sells)
  holder : ∀ j T, st.txn = some (j, T) → j = i ∧ v.writing = true
  truth : Truth (st.visible i) v
  saved : Saved st.committed (st.visible i) v
  working : st.committed.Advance (st.visible i)
  since : T₀.Advance st.committed

/-- Nobody is at work. -/
structure Resting (sells : Product → Prop) (T₀ : Tables) (st : Store Tables) : Prop where
  closed : st.txn = none
  sound : st.committed.Sound sells
  since : T₀.Advance st.committed

theorem Resting.starts (h : Resting sells T₀ st) : Working sells T₀ i st .start where
  sound := ⟨h.sound, fun _ _ ht => absurd (h.closed.symm.trans ht) (by simp)⟩
  holder _ _ ht := absurd (h.closed.symm.trans ht) (by simp)
  truth := .start
  saved := by rw [Store.visible_of_free _ _ h.closed]; exact .refl _ _
  working := by rw [Store.visible_of_free _ _ h.closed]; exact .refl _
  since := h.since

namespace Working

variable {T : Tables}

theorem ends (h : Working sells T₀ i st .start) : Resting sells T₀ st where
  closed := by
    rcases ht : st.txn with _ | ⟨j, T⟩
    · rfl
    · exact absurd (h.holder j T ht).2 (by decide)
  sound := h.sound.1
  since := h.since

theorem crash (h : Working sells T₀ i st v) : Resting sells T₀ st.recover :=
  ⟨rfl, h.sound.1, h.since⟩

theorem learn (h : Working sells T₀ i st v) (hl : Taught (st.visible i) v v') :
    Working sells T₀ i st v' where
  sound := h.sound
  holder j T ht := by rw [hl.writing]; exact h.holder j T ht
  truth := hl.truth
  saved := h.saved.of_eq rfl hl.unsaved
  working := h.working
  since := h.since

theorem put (h : Working sells T₀ i st v) (hs : Stepped sells st.committed (st.visible i) T v') :
    Working sells T₀ i (st.put i T) v'.begun where
  sound := h.sound.put hs.sound
  holder j T' ht := by
    rw [Store.txn_put] at ht
    cases ht
    exact ⟨rfl, rfl⟩
  truth := by
    rw [Store.visible_put_self]
    exact hs.truth.of_eq rfl rfl rfl rfl
  saved := by
    rw [Store.visible_put_self]
    exact hs.saved.of_eq rfl rfl
  working := by
    rw [Store.visible_put_self]
    exact h.working.trans hs.advance
  since := h.since

theorem lost (h : Working sells T₀ i st v) : Working sells T₀ i (st.rollback i) .start := by
  have hclosed : (st.rollback i).txn = none := by
    unfold Store.rollback
    rcases ht : st.txn with _ | ⟨j, T⟩
    · exact ht
    · dsimp only
      rw [if_pos (h.holder j T ht).1]
  have hrest : Resting sells T₀ (st.rollback i) := by
    refine ⟨hclosed, ?_, ?_⟩
    · rw [Store.committed_rollback]
      exact h.sound.1
    · rw [Store.committed_rollback]
      exact h.since
  exact hrest.starts

theorem commit (h : Working sells T₀ i st v) : Working sells T₀ i (st.commit i) v.saved where
  sound := h.sound.commit
  holder j T ht := by
    have hclosed : (st.commit i).txn = none := by
      unfold Store.commit
      rcases ht : st.txn with _ | ⟨j, T⟩
      · exact ht
      · dsimp only
        rw [if_pos (h.holder j T ht).1]
    rw [hclosed] at ht
    cases ht
  truth := by
    rw [Store.visible_commit_self]
    exact h.truth.of_eq rfl rfl rfl rfl
  saved := by
    rw [Store.visible_commit_self, Store.committed_commit]
    exact .refl _ _
  working := by
    rw [Store.visible_commit_self, Store.committed_commit]
    exact .refl _
  since := by
    rw [Store.committed_commit]
    exact h.since.trans h.working

end Working

/-! ## One request -/

section Request

variable {w w' : World} {e : Ev} {ch : Choice} {r : Resp e}

/-- What a call teaches is about Rebecca. -/
theorem Taught.called {T : Tables} (h : Truth T v) (c : Call) (r : Except Err c.Result) :
    Taught T v (v.called c r) := by
  cases c with
  | getAdmin username =>
    rcases r with e | live
    · exact .refl h
    · cases username with
      | none => exact .refl h
      | some u => exact ⟨h.of_eq rfl rfl rfl rfl, rfl, rfl⟩
  | createResellerAdmin | updateAdmin | enableAdmin | disableAdmin =>
    cases r <;> exact ⟨h.of_eq rfl rfl rfl rfl, rfl, rfl⟩
  | _ => cases r <;> exact .refl h

theorem callFits_of_call {c : Call} {r : Except Err c.Result} (h : w.call c ch = some (r, w')) :
    callFits c r := by
  cases c with
  | getAdmin username =>
    cases ch with
    | fail e took =>
      simp only [World.call] at h
      split_ifs at h
      cases h
      trivial
    | done =>
      cases h
      intro a ha
      obtain ⟨u, rfl, hu⟩ := Option.bind_eq_some_iff.mp ha
      obtain ⟨b, -, rfl⟩ := Option.map_eq_some_iff.mp hu
      rfl
    | _ => cases h
  | _ => cases r <;> trivial

/-- **A request that the contract allows**, in whatever way it is answered. -/
theorem Working.react (h : Working sells T₀ i w.store v) (hok : Allowed .orders sells v e)
    (hr : ResellerBot.react i e ch w = some (r, w')) :
    Answered sells e r ∧ Working sells T₀ i w'.store (v.after e r) := by
  cases react_cases hr with
  | found q => exact ⟨(h.sound.visible i).fits q, h.learn (h.truth.read (h.sound.visible i) q)⟩
  | unfound | unexecuted => exact ⟨trivial, h⟩
  | flushed _ hT =>
    exact ⟨trivial, h.put (FlushOk.stepped hok hT (h.sound.visible i) h.truth h.saved)⟩
  | unflushed | uncommitted | rolledBack => exact ⟨trivial, h.lost⟩
  | @executed st _ _ _ hT =>
    cases st with
    | deleteExpiredLock | deleteLock | markDisabledByParent =>
      cases hT
      exact ⟨trivial, h.put (.frame (h.sound.visible i) h.truth h.saved rfl rfl rfl)⟩
    | claimOrder => exact absurd hok.1 (by rintro ⟨⟩)
    | _ => exact hok.elim
  | committed => exact ⟨trivial, h.commit⟩
  | called why ch hcall =>
    refine ⟨callFits_of_call hcall, ?_⟩
    rw [World.call_store hcall]
    exact h.learn (.called h.truth _ _)
  | idle _ he hstore =>
    rw [hstore]
    cases e with
    | query | flush | execute | commit | rollback | call => cases he
    | _ => exact ⟨trivial, h⟩

end Request

/-! ## Runs -/

/-- Everything but the rows of orders and resellers may change from outside. -/
structure World.Outside (sells : Product → Prop) (w w' : World) : Prop where
  txn : w'.store.txn = w.store.txn
  orders : w'.store.committed.orders = w.store.committed.orders
  resellers : w'.store.committed.resellers = w.store.committed.resellers
  products : ∀ p ∈ w'.store.committed.products, sells p

/-- The moves: one worker at a time, crashes, and changes from outside. -/
def OneWorker (sells : Product → Prop) (c : BotConfig) : BotMove → Prop
  | .spawn _ t => t = .reconcilePaidOrders ∧ ∀ j, c.threads j = none
  | .run _ _ | .crash => True
  | .env w => c.world.Outside sells w

/-- The bot before any work. -/
structure BotConfig.Fresh (sells : Product → Prop) (c : BotConfig) : Prop where
  idle : ∀ j, c.threads j = none
  closed : c.world.store.txn = none
  sound : c.world.store.committed.Sound sells

/-- Of the threads: none, or one worker who is `Working`. -/
def OneAtWork (sells : Product → Prop) (T₀ : Tables) (w : World)
    (vs : ℕ → Option (Task × View)) : Prop :=
  ((∀ j, vs j = none) ∧ Resting sells T₀ w.store) ∨
    ∃ (i : ℕ) (v : View), Working sells T₀ i w.store v ∧
      vs = Function.update (fun _ => none) i (some (.reconcilePaidOrders, v))

/-- What a task keeps to. -/
def Task.Spec (sells : Product → Prop) : Task → Interact.Spec Ev Resp View
  | .reconcilePaidOrders => contract .orders sells
  | _ => ⟨fun _ _ => True, fun _ _ _ v' => v' = .start⟩

theorem Task.ok_spec (cfg : Settings) (batchSize : ℕ) (t : Task) :
    Ok (t.Spec sells) ((bot cfg batchSize).prog t) (fun _ v => v = .start) .start := by
  have hfree : ∀ (p : Prog Ev Resp Unit),
      Ok (⟨fun _ _ => True, fun _ _ _ v' => v' = .start⟩ : Interact.Spec Ev Resp View) p
        (fun _ v => v = .start) .start := by
    intro p
    induction p with
    | ret a => rfl
    | ask e k ih =>
      refine ⟨trivial, ?_⟩
      rintro r _ rfl
      exact ih r
  cases t with
  | reconcilePaidOrders => exact ok_reconcilePaidOrders cfg batchSize
  | _ => exact hfree _

theorem Working.outside {w w' : World} (h : Working sells T₀ i w.store v)
    (ho : w.Outside sells w') : Working sells T₀ i w'.store v := by
  have hvisible : ∀ {T}, w.store.txn = some (i, T) →
      w'.store.visible i = w.store.visible i := by
    intro T ht
    rw [Store.visible_of_txn _ _ _ ht, Store.visible_of_txn _ _ _ (ho.txn.trans ht)]
  have hcommitted : w'.store.committed.Sound sells :=
    ⟨by rw [ho.orders]; exact h.sound.1.orders, by rw [ho.resellers]; exact h.sound.1.resellers,
      ho.products⟩
  have hsince := h.since.trans (.of_eq ho.orders ho.resellers)
  rcases ht : w.store.txn with _ | ⟨j, T⟩
  · have ht' := ho.txn.trans ht
    have hvis := Store.visible_of_free _ i ht
    have hvis' := Store.visible_of_free _ i ht'
    refine ⟨⟨hcommitted, ?_⟩, ?_, ?_, ?_, ?_, hsince⟩
    · exact fun _ _ h' => absurd (ht'.symm.trans h') (by simp)
    · exact fun _ _ h' => absurd (ht'.symm.trans h') (by simp)
    · rw [hvis']
      refine h.truth.of_eq ?_ ?_ rfl rfl
      · rw [hvis, ho.orders]
      · rw [hvis, ho.resellers]
    · rw [hvis']
      exact .refl _ _
    · rw [hvis']
      exact .refl _
  · obtain rfl := (h.holder j T ht).1
    refine ⟨⟨hcommitted, fun j' T' h' => h.sound.2 j' T' (ho.txn ▸ h')⟩,
      fun j' T' h' => h.holder j' T' (ho.txn ▸ h'), ?_, ?_, ?_, hsince⟩
    · rw [hvisible ht]
      exact h.truth
    · rw [hvisible ht]
      intro id row hid hrow hsome
      rw [ho.orders]
      exact h.saved id row hid hrow hsome
    · rw [hvisible ht]
      exact (Tables.Advance.of_eq ho.orders.symm ho.resellers.symm).trans h.working

theorem Resting.outside {w w' : World} (h : Resting sells T₀ w.store) (ho : w.Outside sells w') :
    Resting sells T₀ w'.store where
  closed := ho.txn.trans h.closed
  sound := ⟨by rw [ho.orders]; exact h.sound.orders, by rw [ho.resellers]; exact h.sound.resellers,
    ho.products⟩
  since := h.since.trans (.of_eq ho.orders ho.resellers)

/-- What is so of one configuration is so of all that follow it. -/
theorem OneAtWork.reach {cfg : Settings} {batchSize : ℕ} {c c' : BotConfig}
    (h : ∃ vs, Tracked (Task.Spec sells) (· = .start) c vs ∧ OneAtWork sells T₀ c.world vs)
    (hreach : (bot cfg batchSize).Reach (OneWorker sells) c c') :
    ∃ vs, Tracked (Task.Spec sells) (· = .start) c' vs ∧ OneAtWork sells T₀ c'.world vs := by
  refine System.Reach.invariant_tracked (Task.Spec sells) (· = .start) .start
    (OneAtWork sells T₀) (Task.ok_spec cfg batchSize) h ?_ ?_ ?_ ?_ ?_ hreach
  · rintro w vs i t v (⟨hnone, -⟩ | ⟨j, v', hw, rfl⟩) hi rfl
    · exact absurd ((hnone i).symm.trans hi) (by simp)
    · obtain rfl : i = j := by
        by_contra hne
        rw [Function.update_of_ne hne] at hi
        cases hi
      rw [Function.update_self] at hi
      cases hi
      refine .inl ⟨fun j => ?_, hw.ends⟩
      rw [Function.update_idem]
      by_cases hj : j = i
      · rw [hj, Function.update_self]
      · rw [Function.update_of_ne hj]
  · rintro c vs i t htracked hJ - ⟨rfl, hidle⟩
    have hnone : ∀ j, vs j = none := fun j => htracked.gone (hidle j)
    rcases hJ with ⟨-, hrest⟩ | ⟨j, v, -, rfl⟩
    · exact .inr ⟨i, .start, hrest.starts, by rw [funext hnone]⟩
    · exact absurd ((hnone j).symm.trans (Function.update_self _ _ _)) (by simp)
  · rintro c vs i t e k ch r w' v (⟨hnone, -⟩ | ⟨j, v', hw, rfl⟩) - hi hpre - hreact
    · exact absurd ((hnone i).symm.trans hi) (by simp)
    · obtain rfl : i = j := by
        by_contra hne
        rw [Function.update_of_ne hne] at hi
        cases hi
      rw [Function.update_self] at hi
      cases hi
      obtain ⟨hanswered, hw'⟩ := hw.react hpre hreact
      exact ⟨_, ⟨rfl, hanswered⟩, .inr ⟨i, _, hw', Function.update_idem _ _ _⟩⟩
  · rintro c vs w' (⟨hnone, hrest⟩ | ⟨j, v, hw, rfl⟩) hm
    · exact .inl ⟨hnone, hrest.outside hm⟩
    · exact .inr ⟨j, v, hw.outside hm, rfl⟩
  · rintro c vs (⟨-, hrest⟩ | ⟨j, v, hw, -⟩) -
    · exact .inl ⟨fun _ => rfl, rfl, hrest.sound, hrest.since⟩
    · exact .inl ⟨fun _ => rfl, hw.crash⟩

theorem BotConfig.Fresh.oneAtWork {c : BotConfig} (h : c.Fresh sells) :
    ∃ vs, Tracked (Task.Spec sells) (· = .start) c vs ∧
      OneAtWork sells c.world.store.committed c.world vs := by
  refine ⟨fun _ => none, fun j => ?_, .inl ⟨fun _ => rfl, h.closed, h.sound, .refl _⟩⟩
  rw [h.idle j]

/-- The rows from here on. -/
theorem OneAtWork.rebase {w : World} {vs : ℕ → Option (Task × View)} (h : OneAtWork sells T₀ w vs) :
    OneAtWork sells w.store.committed w vs := by
  rcases h with ⟨hnone, hrest⟩ | ⟨i, v, hw, rfl⟩
  · exact .inl ⟨hnone, { hrest with since := .refl _ }⟩
  · exact .inr ⟨i, v, { hw with since := .refl _ }, rfl⟩

section Runs

variable {cfg : Settings} {batchSize : ℕ} {c₀ c c' : BotConfig}

/-- **Orders only move on.**  Between two configurations of a run, whatever fails and whenever it
restarts, a committed order goes from `PAID` over `APPLYING` to `APPLIED` or stays, a target that is
recorded for a reseller with a username is neither lost nor computed again, and an order that is not
open keeps its snapshots. -/
theorem orders_advance (hfresh : c₀.Fresh sells)
    (h : (bot cfg batchSize).Reach (OneWorker sells) c₀ c)
    (h' : (bot cfg batchSize).Reach (OneWorker sells) c c') :
    c.world.store.committed.Advance c'.world.store.committed := by
  obtain ⟨vs, htracked, hwork⟩ := OneAtWork.reach hfresh.oneAtWork h
  obtain ⟨vs', -, hwork'⟩ := OneAtWork.reach ⟨vs, htracked, hwork.rebase⟩ h'
  rcases hwork' with ⟨-, hrest⟩ | ⟨i, v, hw, -⟩
  · exact hrest.since
  · exact hw.since

/-- The worker that asks for a call has what the contract wants of it. -/
theorem callOk_of_asks (hfresh : c₀.Fresh sells)
    (h : (bot cfg batchSize).Reach (OneWorker sells) c₀ c) {i : ℕ} {t : Task} {why : Cause}
    {call : Call} (hask : c.Asks i t (.call why call)) :
    ∃ v, Working sells c₀.world.store.committed i c.world.store v ∧
      (call.writesAdmin → CallOk .orders v why call) := by
  obtain ⟨vs, htracked, hwork⟩ := OneAtWork.reach hfresh.oneAtWork h
  obtain ⟨k, hk⟩ := hask
  obtain ⟨v, hv, hpre, -⟩ := htracked.ask hk
  rcases hwork with ⟨hnone, -⟩ | ⟨j, v', hw, rfl⟩
  · exact absurd ((hnone i).symm.trans hv) (by simp)
  · obtain rfl : i = j := by
      by_contra hne
      rw [Function.update_of_ne hne] at hv
      cases hv
    rw [Function.update_self] at hv
    cases hv
    exact ⟨v, hw, hpre⟩

/-- A committed order with a target for an admin, and its reseller as the worker sees it. -/
structure Intended (w : World) (i : ℕ) (name : String) (want : Entitlement) (row : Order)
    (r : Reseller) : Prop where
  committed : row ∈ w.store.committed.orders
  opens : row.Open
  target : ∃ target, row.target = some target ∧ want = target.entitlement
  reseller : r ∈ (w.tables i).resellers
  owner : r.id = row.resellerId
  admin : r.rebeccaAdminUsername = some name
  suspended : r.status ≠ .SUSPENDED

theorem Backed.intended {o : Order} {r : Reseller} {target : Snapshot} {name : String} {w : World}
    (hb : Backed v o r target name) (hs : r.status ≠ .SUSPENDED)
    (hw : Working sells T₀ i w.store v) :
    ∃ row r', Intended w i name target.entitlement row r' ∧ r'.status = r.status ∧
      row.beforeSnapshot = o.beforeSnapshot := by
  obtain ⟨row, hrow, hsame⟩ := hw.truth.orders _ _ hb.order
  obtain ⟨r', hr', hsame'⟩ := hw.truth.resellers _ _ hb.reseller
  obtain ⟨row₀, hrow₀, htarget, hbefore⟩ := hw.saved _ row hb.saved hrow
    (by rw [hsame.target, hb.target]; rintro ⟨⟩)
  obtain ⟨row', hrow', hadv⟩ := hw.working.orders _ _ hrow₀
  cases hrow.symm.trans hrow'
  have hopen : row₀.Open := by
    by_contra hclosed
    exact (hadv.closed_of hclosed).2 (hsame.open hb.opens)
  refine ⟨row₀, r', ⟨(Rows.mem_of_get hrow₀).1, hopen, ⟨target, ?_, rfl⟩, (Rows.mem_of_get hr').1,
    ?_, ?_, ?_⟩, hsame'.status, ?_⟩
  · rw [htarget, hsame.target, hb.target]
  · rw [hsame'.id, hb.owner, ← hsame.resellerId, hadv.reseller]
  · rw [hsame'.admin, hb.admin]
  · rw [hsame'.status]
    exact hs
  · rw [hbefore, hsame.before]

/-- The admin as it was read is as the order has recorded it before. -/
def FoundAsBefore (name : String) (why : Cause) (row : Order) : Prop :=
  ∃ o r live before, why = .renewal o r live ∧ live.username = name ∧
    row.beforeSnapshot = some before ∧ snapshotMatches live before

/-- **The target is written ahead.**  Whenever the worker is about to create or update an admin, the
committed row of an open order has the target that the call writes, the order is one of the reseller
with that username, and a renewal has found the admin as the order has recorded it before. -/
theorem target_written_ahead (hfresh : c₀.Fresh sells)
    (h : (bot cfg batchSize).Reach (OneWorker sells) c₀ c) {i : ℕ} {t : Task} {why : Cause}
    {name : String} {p : AdminPayload}
    (hask : c.Asks i t (.call why (.createResellerAdmin (some name) p)) ∨
      c.Asks i t (.call why (.updateAdmin name p))) :
    ∃ row r, Intended c.world i name p.entitlement row r ∧
      (r.status = .PROVISIONING ∨ FoundAsBefore name why row) := by
  rcases hask with hask | hask
  · obtain ⟨v, hw, hok⟩ := callOk_of_asks hfresh h hask
    cases hok rfl with
    | create backed status =>
      obtain ⟨row, r, hi, hstatus, -⟩ := backed.intended (by rw [status]; rintro ⟨⟩) hw
      exact ⟨row, r, hi, .inl (hstatus.trans status)⟩
    | createTrial role => cases role
  · obtain ⟨v, hw, hok⟩ := callOk_of_asks hfresh h hask
    cases hok rfl with
    | recover backed status =>
      obtain ⟨row, r, hi, hstatus, -⟩ := backed.intended (by rw [status]; rintro ⟨⟩) hw
      exact ⟨row, r, hi, .inl (hstatus.trans status)⟩
    | renew backed suspended _ _ admin recorded untouched =>
      obtain ⟨row, r, hi, -, hbefore⟩ := backed.intended suspended hw
      exact ⟨row, r, hi, .inr ⟨_, _, _, _, rfl, admin, hbefore.trans recorded, untouched⟩⟩
    | recoverTrial role => cases role

end Runs

/-! ## A run -/

namespace Lapsed

/-- The order is paid for a reseller that has not lapsed. -/
def paidWorld : World where
  store := ⟨⟨[{ reseller with status := .ACTIVE }], [product], [order], [], [], [], [], [], [], [],
    []⟩, none⟩
  mutex := fun _ => false
  clock := now
  server := server

def paidBot : BotConfig := ⟨paidWorld, fun _ => none⟩

theorem fresh_paidBot : paidBot.Fresh fun _ => True where
  idle _ := rfl
  closed := rfl
  sound := ⟨List.nodup_singleton _, List.nodup_singleton _, fun _ _ => trivial⟩

/-- The update that the thread is about to ask for. -/
def updating (c : BotConfig) : Option (Task × String × AdminPayload) :=
  match c.threads 0 with
  | some (t, .ask (.call _ (.updateAdmin name p)) _) => some (t, name, p)
  | _ => none

theorem asks_of_updating {c : BotConfig} {t : Task} {name : String} {p : AdminPayload}
    (h : updating c = some (t, name, p)) : ∃ why, c.Asks 0 t (.call why (.updateAdmin name p)) := by
  unfold updating at h
  split at h
  · next hc =>
    cases h
    exact ⟨_, _, hc⟩
  · cases h

/-- The worker renews after fifteen requests. -/
theorem paidBot_updates : ∃ c why p,
    (bot settings 50).Reach (OneWorker fun _ => True) paidBot c ∧
      c.Asks 0 .reconcilePaidOrders (.call why (.updateAdmin "ali_1234" p)) := by
  have h : (((bot settings 50).runs paidBot
      (.spawn 0 .reconcilePaidOrders :: List.replicate 15 (.run 0 .done))).bind updating) =
      some (.reconcilePaidOrders, "ali_1234", renewalPayload target) := by cbv
  obtain ⟨c, hr, hc⟩ := Option.bind_eq_some_iff.mp h
  obtain ⟨why, ha⟩ := asks_of_updating hc
  refine ⟨c, why, _, .of_runs_cons hr ⟨rfl, fun _ => rfl⟩ fun m hm c => ?_, ha⟩
  rw [List.eq_of_mem_replicate hm]
  trivial

theorem paidBot_written_ahead : ∃ c why p row r,
    (bot settings 50).Reach (OneWorker fun _ => True) paidBot c ∧
      c.Asks 0 .reconcilePaidOrders (.call why (.updateAdmin "ali_1234" p)) ∧
      Intended c.world 0 "ali_1234" p.entitlement row r := by
  obtain ⟨c, why, p, hr, ha⟩ := paidBot_updates
  obtain ⟨row, r, hi, -⟩ := target_written_ahead fresh_paidBot hr (.inr ha)
  exact ⟨c, why, p, row, r, hr, ha, hi⟩

theorem paidBot_advances : ∃ (c : BotConfig) (why : Cause) (p : AdminPayload),
    c.Asks 0 .reconcilePaidOrders (.call why (.updateAdmin "ali_1234" p)) ∧
      paidBot.world.store.committed.Advance c.world.store.committed := by
  obtain ⟨c, why, p, hr, ha⟩ := paidBot_updates
  exact ⟨c, why, p, ha, orders_advance fresh_paidBot .refl hr⟩

end Lapsed

end ResellerBot
