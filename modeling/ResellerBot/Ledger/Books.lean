import Mathlib
import ResellerBot.Contract.Durable
import ResellerBot.Ledger.Jobs

/-!
# ResellerBot.Ledger.Books — the database over every run of the bot

All handlers and jobs at once, interleaved request by request, with failures, lost responses and
crashes.  The committed tables only grow, their rows stay proper, and Rebecca is asked to renew or
provision only for an order that has been paid.
-/

open Interact Growth

namespace ResellerBot

/-! ## One request -/

/-- What a request of session `i` does to the store. -/
inductive Writes (st : Store Tables) (i : ℕ) : Store Tables → Prop
  | same : Writes st i st
  | commit : Writes st i (st.commit i)
  | rollback : Writes st i (st.rollback i)
  | put (T : Tables) (free : st.free i = true) (grows : (st.visible i).Grows T)
    (proper : T.Proper) : Writes st i (st.put i T)

section Request

variable {w w' : World} {i : ℕ} {v : Sight} {ch : Choice}

/-- A session that has lost everything has seen nothing. -/
theorem lost_rollback (w : World) (i : ℕ) :
    Sight.nothing.In ((w.withStore (w.store.rollback i)).tables i) ∧
      Writes w.store i (w.withStore (w.store.rollback i)).store :=
  ⟨.nothing _, .rollback⟩

/-- A lawful request: its answer is proper, and what has been seen since stands in the tables. -/
theorem react_lawful {e : Ev} {r : Resp e} (hproper : w.store.All Tables.Proper)
    (hv : v.In (w.tables i)) (hpre : v.Allows e) (h : react i e ch w = some (r, w')) :
    e.Proper r ∧ (v.after e r).In (w'.tables i) ∧ Writes w.store i w'.store := by
  have hsame : w'.store = w.store → v.In (w'.tables i) ∧ Writes w.store i w'.store := by
    intro hs
    refine ⟨?_, hs ▸ .same⟩
    show v.In (w'.store.visible i)
    rw [hs]
    exact hv
  cases react_cases h with
  | found q => exact ⟨Query.run_proper (hproper.visible i) q, hv.read q, .same⟩
  | unfound | unexecuted => exact ⟨trivial, hv, .same⟩
  | @flushed sts T hfree hT =>
    obtain ⟨hg, hp, hin⟩ := Stmt.execAll_grows (hproper.visible i) hv hpre hT
    refine ⟨trivial, ?_, .put T hfree hg hp⟩
    show (v.wroteAll sts).In ((w.store.put i T).visible i)
    rwa [Store.visible_put_self]
  | unflushed | uncommitted | rolledBack => exact ⟨trivial, lost_rollback w i⟩
  | @executed st T n hfree hT =>
    obtain ⟨hg, hp⟩ := Stmt.exec_grows (hproper.visible i) hv hpre hT
    refine ⟨trivial, ?_, .put T hfree hg hp⟩
    show v.In ((w.store.put i T).visible i)
    rw [Store.visible_put_self]
    exact hv.grows hg
  | committed =>
    refine ⟨trivial, ?_, .commit⟩
    show v.In ((w.store.commit i).visible i)
    rwa [Store.visible_commit_self]
  | called _ _ hcall => exact ⟨trivial, hsame (World.call_store hcall)⟩
  | idle _ he hstore =>
    cases e with
    | query | flush | execute | commit | rollback | call => cases he
    | _ => exact ⟨trivial, hsame hstore⟩

end Request

/-! ## The store and the sessions -/

/-- Since `base` the committed tables have grown, and those of the open transaction beyond them;
all their rows are proper. -/
structure StoreKept (base : Tables) (st : Store Tables) : Prop where
  proper : st.All Tables.Proper
  grows : base.Grows st.committed
  ahead : ∀ j T, st.txn = some (j, T) → st.committed.Grows T

theorem StoreKept.visible {base : Tables} {st : Store Tables} (h : StoreKept base st) (i : ℕ) :
    st.committed.Grows (st.visible i) := by
  rcases ht : st.txn with _ | ⟨j, T⟩
  · rw [Store.visible_of_free st i ht]
    exact .refl _
  · by_cases hj : j = i
    · rw [Store.visible_of_txn st i T (hj ▸ ht)]
      exact h.ahead j T ht
    · rw [Store.visible_of_writer_ne st i j T ht hj]
      exact .refl _

theorem StoreKept.recover {base : Tables} {st : Store Tables} (h : StoreKept base st) :
    StoreKept base st.recover where
  proper := h.proper.recover
  grows := h.grows
  ahead := by rintro _ _ ⟨⟩

theorem StoreKept.writes {base : Tables} {st st' : Store Tables} {i : ℕ} (h : StoreKept base st)
    (hw : Writes st i st') : StoreKept base st' := by
  cases hw with
  | same => exact h
  | commit =>
    refine ⟨h.proper.commit, ?_, fun j T ht => ?_⟩
    · rw [Store.committed_commit]
      exact h.grows.trans (h.visible i)
    · unfold Store.commit at ht ⊢
      split at ht
      · split_ifs at ht ⊢
        exact h.ahead j T ht
      · exact h.ahead j T ht
  | rollback =>
    unfold Store.rollback
    split
    · split_ifs
      · exact h.recover
      · exact h
    · exact h
  | put T free grows proper =>
    refine ⟨h.proper.put proper, h.grows, fun j T' ht => ?_⟩
    cases ht
    exact (h.visible i).trans grows

/-- What the other sessions see grows as well. -/
theorem StoreKept.others {base : Tables} {st st' : Store Tables} {i j : ℕ} (h : StoreKept base st)
    (hw : Writes st i st') (hj : j ≠ i) : (st.visible j).Grows (st'.visible j) := by
  cases hw with
  | same => exact .refl _
  | commit =>
    unfold Store.commit
    split
    · next k T ht =>
      split_ifs with hk
      · subst hk
        rw [Store.visible_of_writer_ne st j k T ht hj.symm]
        exact h.ahead k T ht
      · exact .refl _
    · exact .refl _
  | rollback =>
    unfold Store.rollback
    split
    · next k T ht =>
      split_ifs with hk
      · subst hk
        rw [Store.visible_of_writer_ne st j k T ht hj.symm]
        exact .refl _
      · exact .refl _
    · exact .refl _
  | put T free grows proper =>
    rw [Store.visible_put_of_ne st i j T hj]
    rcases ht : st.txn with _ | ⟨k, T'⟩
    · rw [Store.visible_of_free st j ht]
      exact .refl _
    · have hk : k = i := by simpa [Store.free, ht] using free
      rw [Store.visible_of_writer_ne st j k T' ht (hk ▸ hj.symm)]
      exact .refl _

/-! ## Runs -/

/-- Other programs and the rest of the bot: what they commit is proper, too. -/
def Attended (c : BotConfig) : BotMove → Prop
  | .env w => w.store = c.world.store ∨
    (c.world.store.txn = none ∧ w.store.txn = none ∧
      c.world.store.committed.Grows w.store.committed ∧ w.store.committed.Proper)
  | _ => True

/-- The bot before any work, on a proper database. -/
structure BotConfig.Opening (c : BotConfig) : Prop where
  idle : ∀ j, c.threads j = none
  closed : c.world.store.txn = none
  proper : c.world.store.committed.Proper

/-- The store is kept, and every session still finds what it has seen. -/
structure BooksBalanced (base : Tables) (w : World) (vs : ℕ → Option (Task × Sight)) : Prop where
  kept : StoreKept base w.store
  seen : ∀ i t v, vs i = some (t, v) → v.In (w.tables i)

section Runs

variable {cfg : Settings} {batchSize : ℕ} {base : Tables} {c₀ c c' : BotConfig}

theorem BotConfig.Opening.balanced (h : c.Opening) :
    ∃ vs, Tracked (fun _ => ledger) (fun _ => True) c vs ∧
      BooksBalanced c.world.store.committed c.world vs := by
  refine ⟨fun _ => none, fun j => ?_, ⟨⟨h.proper, ?_⟩, .refl _, ?_⟩, ?_⟩
  · rw [h.idle j]
  · exact fun j T ht => absurd (h.closed.symm.trans ht) (by simp)
  · exact fun j T ht => absurd (h.closed.symm.trans ht) (by simp)
  · rintro _ _ _ ⟨⟩

theorem BooksBalanced.reach
    (h : ∃ vs, Tracked (fun _ => ledger) (fun _ => True) c vs ∧ BooksBalanced base c.world vs)
    (hreach : (bot cfg batchSize).Reach Attended c c') :
    ∃ vs, Tracked (fun _ => ledger) (fun _ => True) c' vs ∧ BooksBalanced base c'.world vs := by
  refine System.Reach.invariant (fun _ => ledger) (fun _ => True) .nothing (BooksBalanced base)
    (fun t => ok_task cfg batchSize t .nothing) h ?_ ?_ ?_ ?_ ?_ hreach
  · rintro w vs i t v hJ - -
    refine ⟨hJ.kept, fun j t' v' hv' => ?_⟩
    by_cases hj : j = i
    · subst hj
      rw [Function.update_self] at hv'
      cases hv'
    · rw [Function.update_of_ne hj] at hv'
      exact hJ.seen j t' v' hv'
  · rintro c vs i t hJ - -
    refine ⟨hJ.kept, fun j t' v' hv' => ?_⟩
    by_cases hj : j = i
    · subst hj
      rw [Function.update_self] at hv'
      cases hv'
      exact .nothing _
    · rw [Function.update_of_ne hj] at hv'
      exact hJ.seen j t' v' hv'
  · rintro c vs i t e k ch r w' v hJ - hv hpre - hreact
    obtain ⟨hr, hin, hw⟩ := react_lawful hJ.kept.proper (hJ.seen i t v hv) hpre hreact
    refine ⟨v.after e r, ⟨rfl, hr⟩, hJ.kept.writes hw, fun j t' v' hv' => ?_⟩
    by_cases hj : j = i
    · subst hj
      rw [Function.update_self] at hv'
      cases hv'
      exact hin
    · rw [Function.update_of_ne hj] at hv'
      exact (hJ.seen j t' v' hv').grows (hJ.kept.others hw hj)
  · rintro c vs w' hJ hm
    rcases hm with hs | ⟨ht, ht', hg, hp⟩
    · refine ⟨hs ▸ hJ.kept, fun j t v hv => ?_⟩
      show v.In (w'.store.visible j)
      rw [hs]
      exact hJ.seen j t v hv
    · refine ⟨⟨⟨hp, fun j T h => absurd (ht'.symm.trans h) (by simp)⟩, hJ.kept.grows.trans hg,
        fun j T h => absurd (ht'.symm.trans h) (by simp)⟩, fun j t v hv => ?_⟩
      have hin := hJ.seen j t v hv
      show v.In (w'.store.visible j)
      rw [World.tables, Store.visible_of_free _ j ht] at hin
      rw [Store.visible_of_free _ j ht']
      exact hin.grows hg
  · rintro c vs hJ -
    refine ⟨hJ.kept.recover, ?_⟩
    rintro _ _ _ ⟨⟩

/-- **The committed database only grows**, between any two configurations of a run: no row is
deleted, the columns that identify it stay, times, usernames and snapshots are never cleared,
`trial_used` is never taken back, and what has been logged stays logged. -/
theorem database_grows (h₀ : c₀.Opening) (h : (bot cfg batchSize).Reach Attended c₀ c)
    (h' : (bot cfg batchSize).Reach Attended c c') :
    c.world.store.committed.Grows c'.world.store.committed := by
  obtain ⟨vs, ht, hb⟩ := BooksBalanced.reach h₀.balanced h
  obtain ⟨_, -, hb'⟩ := BooksBalanced.reach
    ⟨vs, ht, ⟨hb.kept.proper, .refl _, hb.kept.ahead⟩, hb.seen⟩ h'
  exact hb'.kept.grows

/-- **Nothing is delivered unpaid.**  In every configuration of a run a committed order that is
`PAID`, `APPLYING` or `APPLIED` has a payment time, one that is `APPLIED` has the time of that, and
a reseller beyond `PROVISIONING` has an admin. -/
theorem books_proper (h₀ : c₀.Opening) (h : (bot cfg batchSize).Reach Attended c₀ c) :
    (∀ o ∈ c.world.store.committed.orders,
      (o.status = .PAID ∨ o.status = .APPLYING ∨ o.status = .APPLIED → o.paidAt.isSome) ∧
      (o.status = .APPLIED → o.appliedAt.isSome)) ∧
    ∀ r ∈ c.world.store.committed.resellers, r.status ≠ .PROVISIONING →
      r.rebeccaAdminUsername.isSome := by
  obtain ⟨vs, -, hb⟩ := BooksBalanced.reach h₀.balanced h
  refine ⟨fun o ho => ?_, hb.kept.proper.1.resellers⟩
  obtain ⟨hpaid, happlied⟩ := hb.kept.proper.1.orders o ho
  refine ⟨?_, happlied⟩
  rintro (hs | hs | hs)
  all_goals
    refine hpaid ?_
    rw [hs]
    trivial

/-- **Rebecca is asked for paid orders only**: whenever a renewal or a provisioning is about to be
asked for, its order has a payment time in the tables that the session sees. -/
theorem calls_paid (h₀ : c₀.Opening) (h : (bot cfg batchSize).Reach Attended c₀ c) {i : ℕ}
    {t : Task} {why : Cause} {call : Call} {order : Order} (hask : c.Asks i t (.call why call))
    (hwhy : (∃ r live, why = .renewal order r live) ∨ ∃ r, why = .provisioning order r) :
    ∃ row ∈ (c.world.tables i).orders, row.id = order.id ∧ row.paidAt.isSome := by
  obtain ⟨vs, ht, hb⟩ := BooksBalanced.reach h₀.balanced h
  obtain ⟨k, hk⟩ := hask
  obtain ⟨v, hv, hpre, -⟩ := ht.ask hk
  have hpaid : v.Paid order := by
    rcases hwhy with ⟨_, _, rfl⟩ | ⟨_, rfl⟩
    · exact hpre
    · exact hpre
  obtain ⟨d, hd, hid, hfilled⟩ := hpaid
  obtain ⟨row, hrow, hev⟩ := (hb.seen i t v hv).orders d hd
  exact ⟨row, hrow, hev.id.trans hid, hev.paidAt.keep hfilled⟩

end Runs

/-! ## From a receipt to a renewal -/

namespace Approval

/-- A reseller has sent the receipt for a renewal. -/
def opening : BotConfig where
  world := { Lapsed.paidWorld with
    store := ⟨{ Lapsed.paidWorld.store.committed with
      orders := [{ Lapsed.order with status := .WAITING_RECEIPT }] }, none⟩
    server := Lapsed.server.setAdmin "ali_1234" { Lapsed.admin with status := "active" } }
  threads _ := none

theorem opening_opening : opening.Opening where
  idle _ := rfl
  closed := rfl
  proper :=
    { orderKeys := List.nodup_singleton _
      resellerKeys := List.nodup_singleton _
      orders := by
        intro o ho
        obtain rfl := List.mem_singleton.mp ho
        exact ⟨fun h => h.elim, fun h => absurd h (by decide)⟩
      resellers := by
        intro r hr
        obtain rfl := List.mem_singleton.mp hr
        exact fun _ => rfl }

/-- An owner approves the receipt, and the job of the schedule reconciles the paid orders. -/
def moves (n : ℕ) : List BotMove :=
  .spawn 0 (.orderApprove 7 100) :: List.replicate 6 (.run 0 .done) ++
    .spawn 1 .reconcilePaidOrders :: List.replicate n (.run 1 .done)

theorem attended_moves {n : ℕ} : ∀ m ∈ moves n, ∀ c, Attended c m := by
  intro m hm c
  simp only [moves, List.mem_append, List.mem_cons, List.mem_replicate] at hm
  rcases hm with (rfl | ⟨-, rfl⟩) | rfl | ⟨-, rfl⟩ <;> trivial

def statuses (c : BotConfig) : List OrderStatus := c.world.store.committed.orders.map (·.status)

/-- The request of the job, and for which order it is made. -/
def renewing (c : BotConfig) : Option (Task × Cause × Call × Order) :=
  match c.threads 1 with
  | some (t, .ask (.call (.renewal o r live) call) _) => some (t, .renewal o r live, call, o)
  | _ => none

theorem asks_of_renewing {c : BotConfig} {t : Task} {why : Cause} {call : Call} {o : Order}
    (h : renewing c = some (t, why, call, o)) :
    c.Asks 1 t (.call why call) ∧ ∃ r live, why = .renewal o r live := by
  unfold renewing at h
  split at h
  · next hc =>
    cases h
    exact ⟨⟨_, hc⟩, _, _, rfl⟩
  · cases h

/-- The order is applied after twenty-three requests of the job. -/
theorem applies :
    ∃ c, (bot Lapsed.settings 50).Reach Attended opening c ∧ statuses c = [.APPLIED] := by
  have h : ((bot Lapsed.settings 50).runs opening (moves 23)).map statuses = some [.APPLIED] := by
    cbv
  obtain ⟨c, hr, hc⟩ := Option.map_eq_some_iff.mp h
  exact ⟨c, .of_runs hr attended_moves, hc⟩

theorem applied_grows : ∃ c, statuses c = [.APPLIED] ∧
    opening.world.store.committed.Grows c.world.store.committed := by
  obtain ⟨c, hr, hs⟩ := applies
  exact ⟨c, hs, database_grows opening_opening .refl hr⟩

theorem applied_proper : ∃ c, (bot Lapsed.settings 50).Reach Attended opening c ∧
    ∃ o ∈ c.world.store.committed.orders,
      o.status = .APPLIED ∧ o.paidAt.isSome ∧ o.appliedAt.isSome := by
  obtain ⟨c, hr, hs⟩ := applies
  obtain ⟨o, ho, hstatus⟩ := List.mem_map.mp (hs ▸ List.mem_singleton_self OrderStatus.APPLIED)
  obtain ⟨hpaid, happlied⟩ := (books_proper opening_opening hr).1 o ho
  exact ⟨c, hr, o, ho, hstatus, hpaid (.inr (.inr hstatus)), happlied hstatus⟩

theorem renewal_paid : ∃ c t why call, (bot Lapsed.settings 50).Reach Attended opening c ∧
    c.Asks 1 t (.call why call) ∧ ∃ row ∈ (c.world.tables 1).orders, row.id = 100 ∧
      row.paidAt.isSome := by
  have h : ((((bot Lapsed.settings 50).runs opening (moves 15)).bind renewing).map
      fun asked => asked.2.2.2.id) = some 100 := by cbv
  obtain ⟨⟨t, why, call, o⟩, hasked, hid⟩ := Option.map_eq_some_iff.mp h
  obtain ⟨c, hr, hc⟩ := Option.bind_eq_some_iff.mp hasked
  obtain ⟨hask, r, live, hwhy⟩ := asks_of_renewing hc
  have hreach := System.Reach.of_runs hr attended_moves
  obtain ⟨row, hrow, hrid, hpaid⟩ :=
    calls_paid opening_opening hreach hask (.inl ⟨r, live, hwhy⟩)
  exact ⟨c, t, why, call, hreach, hask, row, hrow, hrid.trans hid, hpaid⟩

end Approval

end ResellerBot
