import Mathlib
import ResellerBot.Shop.Validity

/-!
# ResellerBot.Shop.Sellable — orders for what is on sale

The product list offers what is enabled to customers who have joined; the buttons of an old list
still place orders.  What can come between the list and the press, and when an order is for a
product that is on sale to the customer.
-/

open Interact

namespace ResellerBot

section

variable (cfg : ShopSettings) (env : Platform)

/-- The product is enabled and not deleted, and the customer is a member of every required channel,
as far as Telegram can tell. -/
structure Sellable (w : Shop) (user : ℤ) (id : ℕ) : Prop where
  product : ∃ p, w.getProduct id = some p ∧ p.enabled = true ∧ p.deleted = false
  member : ∀ c ∈ w.channels, c.enabled = true →
    ∃ status, w.lookup user c.chatId = .ok status ∧ status ≠ "left" ∧ status ≠ "kicked"

/-- The press of a payment button. -/
def ShopEvent.Buys (user : ℤ) (id : ℕ) : ShopEvent → Prop
  | .card u i _ _ | .crypto u i _ _ _ => u = user ∧ i = id
  | _ => False

/-- An order that a press places is for a product on sale to the customer at that moment. -/
def SellsOnSale (w : Shop) (e : ShopEvent) : Prop :=
  ∀ user id o, e.Buys user id → (w.step cfg env e).orders = w.orders ++ [o] →
    Sellable w user o.productId

/-- The request takes this product off the list. -/
def Request.SwitchesOff (w : Shop) (id : ℕ) : Request → Prop
  | switch i f => i = id ∧ ∃ p, w.getProduct id = some p ∧ f p ≠ (true, false)
  | _ => False

/-- What withdraws a product from a customer: the owner switches it off or deletes it, the owner
requires a channel in which the customer is not seen as a member, or Telegram does not see the
customer in a required channel any more. -/
def ShopEvent.Withdraws (w : Shop) (user : ℤ) (id : ℕ) (e : ShopEvent) : Prop :=
  match e with
  | .product _ _ _ => (e.request cfg env w).SwitchesOff w id
  | .channel owner panel op =>
    ∃ chat ∈ (op.handle cfg owner panel w).1.required, ¬Shop.isJoined (w.lookup user) [chat]
  | .telegram lookup => ¬Shop.isJoined (lookup user) w.required
  | _ => False

/-- The shop after the events. -/
abbrev Shop.after (w : Shop) (es : List ShopEvent) : Shop := Machine.run (Shop.step cfg env) w es

/-- The customer has opened the list of products, it showed the product, and nothing has withdrawn
it since. -/
def StillOffered (w : Shop) (es : List ShopEvent) (user : ℤ) (id : ℕ) : Prop :=
  ∃ before since, es = before ++ .list user :: since ∧
    id ∈ (w.after cfg env before).showProducts user ∧
    Machine.Always (Shop.step cfg env) (fun w e => ¬e.Withdraws cfg env w user id)
      (w.after cfg env before) since

end

/-! ## The list -/

section List

variable {cfg : ShopSettings} {env : Platform} {w w' : Shop} {user : ℤ} {id : ℕ} {e : ShopEvent}

abbrev Shop.Keyed (w : Shop) : Prop := Rows.Keyed (fun p : ProductRow => p.id) w.products

theorem isJoined_iff {lookup : String → Except Err String} {channels : List String} :
    Shop.isJoined lookup channels = true ↔ ∀ c ∈ channels,
      ∃ status, lookup c = .ok status ∧ status ≠ "left" ∧ status ≠ "kicked" := by
  unfold Shop.isJoined
  rw [List.all_eq_true]
  refine forall₂_congr fun c _ => ?_
  cases lookup c with
  | error e => simp
  | ok status => simp

theorem joined_iff : w.joined user = true ↔ ∀ c ∈ w.channels, c.enabled = true →
    ∃ status, w.lookup user c.chatId = .ok status ∧ status ≠ "left" ∧ status ≠ "kicked" := by
  unfold Shop.joined Shop.required
  rw [isJoined_iff]
  constructor
  · intro h c hc he
    exact h _ (List.mem_map_of_mem (List.mem_filter.mpr ⟨hc, he⟩))
  · intro h chat hchat
    obtain ⟨c, hc, rfl⟩ := List.mem_map.mp hchat
    obtain ⟨hc, he⟩ := List.mem_filter.mp hc
    exact h c hc he

/-- A row that is on the list. -/
def Shop.Listed (w : Shop) (id : ℕ) : Prop :=
  ∃ p ∈ w.products, p.id = id ∧ p.enabled = true ∧ p.deleted = false

theorem mem_showProducts : id ∈ w.showProducts user ↔ w.joined user = true ∧ w.Listed id := by
  unfold Shop.showProducts
  by_cases hj : w.joined user = true
  · rw [if_pos hj]
    simp only [hj, true_and, List.mem_map, List.mem_filter, Shop.Listed, Bool.and_eq_true,
      Bool.not_eq_true']
    constructor
    · rintro ⟨p, ⟨hp, he, hd⟩, hid⟩
      exact ⟨p, hp, hid, he, hd⟩
    · rintro ⟨p, hp, hid, he, hd⟩
      exact ⟨p, ⟨hp, he, hd⟩, hid⟩
  · rw [if_neg hj]
    simp [hj]

/-- **The list offers what is on sale to the customer.** -/
theorem sellable_iff (hw : w.Keyed) : Sellable w user id ↔ id ∈ w.showProducts user := by
  rw [mem_showProducts]
  constructor
  · rintro ⟨⟨p, hp, he, hd⟩, hm⟩
    obtain ⟨hmem, hid⟩ := Rows.mem_of_get hp
    exact ⟨joined_iff.mpr hm, p, hmem, hid, he, hd⟩
  · rintro ⟨hj, p, hmem, rfl, he, hd⟩
    exact ⟨⟨p, hw.get hmem, he, hd⟩, joined_iff.mp hj⟩

/-! ## One step -/

theorem keyed_perform {r : Request} (hw : w.Keyed) :
    Rows.Keyed (fun p : ProductRow => p.id) (r.perform env w) := by
  cases r with
  | insert p =>
    rw [Request.perform]
    cases hi : w.insertProduct env p with
    | error e => exact hw
    | ok w' =>
      unfold Shop.insertProduct at hi
      split_ifs at hi
      obtain ⟨d, -, hi⟩ := bind_eq_ok hi
      obtain rfl := Except.ok.inj hi
      refine hw.append fun q hq => ?_
      exact (@Rows.lt_next _ (fun p : ProductRow => p.id) _ q hq).ne
  | assign id v =>
    rw [Request.perform]
    by_cases hg : w.getProduct id = none
    · rw [if_pos hg]
      exact hw
    · rw [if_neg hg]
      cases hs : w.setProduct env id v with
      | error e => exact hw
      | ok w' =>
        obtain ⟨v', -, rfl⟩ := map_eq_ok hs
        refine hw.set fun p => ?_
        obtain ⟨f, x⟩ := v'
        cases f <;> rfl
  | switch id f => exact hw.set fun _ => rfl
  | nothing => exact hw

theorem keyed_step (hw : w.Keyed) : (w.step cfg env e).Keyed := by
  unfold Shop.Keyed
  rw [products_step]
  exact keyed_perform hw

/-- A request leaves a product on the list, unless it switches it off. -/
theorem listed_perform {r : Request} (hw : w.Keyed) (hl : w.Listed id)
    (hr : ¬r.SwitchesOff w id) : ∃ p ∈ r.perform env w,
      p.id = id ∧ p.enabled = true ∧ p.deleted = false := by
  cases r with
  | insert p =>
    rw [Request.perform]
    cases hi : w.insertProduct env p with
    | error e => exact hl
    | ok w' =>
      unfold Shop.insertProduct at hi
      split_ifs at hi
      obtain ⟨d, -, hi⟩ := bind_eq_ok hi
      obtain rfl := Except.ok.inj hi
      obtain ⟨q, hq, h⟩ := hl
      exact ⟨q, List.mem_append_left _ hq, h⟩
  | assign i v =>
    rw [Request.perform]
    by_cases hg : w.getProduct i = none
    · rw [if_pos hg]
      exact hl
    · rw [if_neg hg]
      cases hs : w.setProduct env i v with
      | error e => exact hl
      | ok w' =>
        obtain ⟨v', -, rfl⟩ := map_eq_ok hs
        obtain ⟨q, hq, hid, hon⟩ := hl
        by_cases hi : q.id = i
        · refine ⟨q.set v', Rows.mem_set.mpr (.inl ⟨q, hq, hi, rfl⟩), ?_⟩
          obtain ⟨f, x⟩ := v'
          cases f <;> exact ⟨hid, hon⟩
        · exact ⟨q, Rows.mem_set.mpr (.inr ⟨hq, hi⟩), hid, hon⟩
  | switch i f =>
    obtain ⟨q, hq, rfl, hon⟩ := hl
    by_cases hi : q.id = i
    · subst hi
      have hf : f q = (true, false) := by
        by_contra hne
        exact hr ⟨rfl, q, hw.get hq, hne⟩
      refine ⟨_, Rows.mem_set.mpr (.inl ⟨q, hq, rfl, rfl⟩), rfl, ?_, ?_⟩
      · rw [hf]
      · rw [hf]
    · exact ⟨q, Rows.mem_set.mpr (.inr ⟨hq, hi⟩), rfl, hon⟩
  | nothing => exact hl

/-- Nothing but an operation on channels changes what is required. -/
theorem required_step (hc : ∀ owner panel op, e ≠ .channel owner panel op) :
    (w.step cfg env e).required = w.required := by
  refine congrArg (fun cs : List RequiredChannel => (cs.filter (·.enabled)).map (·.chatId)) ?_
  cases e with
  | product owner panel op => exact (managed_product op).channels rfl
  | channel owner panel op => exact absurd rfl (hc owner panel op)
  | setting key value => rfl
  | telegram lookup => rfl
  | list user => rfl
  | start user username =>
    show (startShopping cfg user w username).channels = w.channels
    rw [start_frame]
  | card user id now number =>
    show (cardOrder env user id now number w).1.channels = w.channels
    rcases cardOrder_cases with h | ⟨r, p, w', -, -, ⟨o, payments, -, -, rfl⟩, h⟩ <;> rw [h]
    rfl
  | crypto user id now number invoice =>
    show (cryptoOrder cfg env user id now number w invoice).1.channels = w.channels
    rcases cryptoOrder_cases with h | ⟨r, p, w', -, -, ⟨o, payments, -, -, rfl⟩, h⟩ <;> rw [h]

theorem lookup_step (ht : ∀ lookup, e ≠ .telegram lookup) :
    (w.step cfg env e).lookup = w.lookup := by
  cases e with
  | product owner panel op =>
    show (op.handle cfg env owner panel w).1.lookup = w.lookup
    rw [(managed_product op).rest]
  | channel owner panel op =>
    show (op.handle cfg owner panel w).1.lookup = w.lookup
    rw [(managed_channel op).rest]
  | setting key value => rfl
  | telegram lookup => exact absurd rfl (ht lookup)
  | list user => rfl
  | start user username =>
    show (startShopping cfg user w username).lookup = w.lookup
    rw [start_frame]
  | card user id now number =>
    show (cardOrder env user id now number w).1.lookup = w.lookup
    rcases cardOrder_cases with h | ⟨r, p, w', -, -, ⟨o, payments, -, -, rfl⟩, h⟩ <;> rw [h]
    rfl
  | crypto user id now number invoice =>
    show (cryptoOrder cfg env user id now number w invoice).1.lookup = w.lookup
    rcases cryptoOrder_cases with h | ⟨r, p, w', -, -, ⟨o, payments, -, -, rfl⟩, h⟩ <;> rw [h]

theorem listed_step (hw : w.Keyed) (hl : w.Listed id) (he : ¬e.Withdraws cfg env w user id) :
    (w.step cfg env e).Listed id := by
  unfold Shop.Listed
  rw [products_step]
  refine listed_perform hw hl ?_
  cases e with
  | product owner panel op => exact he
  | _ => exact fun h => h

theorem joined_step (hj : w.joined user = true) (he : ¬e.Withdraws cfg env w user id) :
    (w.step cfg env e).joined user = true := by
  unfold Shop.joined at hj ⊢
  by_cases hc : ∃ owner panel op, e = .channel owner panel op
  · obtain ⟨owner, panel, op, rfl⟩ := hc
    have hl : (w.step cfg env (.channel owner panel op)).lookup = w.lookup :=
      lookup_step fun _ => nofun
    rw [hl, isJoined_iff]
    intro chat hchat
    by_contra hno
    refine he ⟨chat, hchat, fun h => hno ?_⟩
    exact isJoined_iff.mp h chat (List.mem_singleton_self chat)
  · have hreq : (w.step cfg env e).required = w.required :=
      required_step fun owner panel op h => hc ⟨owner, panel, op, h⟩
    rw [hreq]
    by_cases ht : ∃ lookup, e = .telegram lookup
    · obtain ⟨lookup, rfl⟩ := ht
      by_contra hno
      exact he hno
    · rw [lookup_step fun lookup h => ht ⟨lookup, h⟩]
      exact hj

/-- **A product that is offered to a customer stays so until something withdraws it.** -/
theorem offered_step (hw : w.Keyed) (ho : id ∈ w.showProducts user)
    (he : ¬e.Withdraws cfg env w user id) : id ∈ (w.step cfg env e).showProducts user := by
  rw [mem_showProducts] at ho ⊢
  exact ⟨joined_step ho.1 he, listed_step hw ho.2 he⟩

/-! ## Runs -/

theorem keyed_run {es : List ShopEvent} (hw : w.Keyed) : (w.after cfg env es).Keyed := by
  induction es generalizing w with
  | nil => exact hw
  | cons e es ih => exact ih (keyed_step hw)

/-- What has been offered is still on the list. -/
theorem StillOffered.listed {es : List ShopEvent} (hw : w.Keyed) (h : StillOffered cfg env w es user id) :
    id ∈ (w.after cfg env es).showProducts user := by
  obtain ⟨before, since, rfl, ho, hs⟩ := h
  rw [Shop.after, Machine.run_append]
  have hrun := Machine.Always.run (I := fun w => w.Keyed ∧ id ∈ w.showProducts user)
    (fun w e hw he => ⟨keyed_step hw.1, offered_step hw.1 hw.2 he⟩) ⟨keyed_run hw, ho⟩ hs
  exact hrun.2

/-- A press places an order for the product of its button, or none. -/
theorem productId_of_placed {o : PlacedOrder} (hb : e.Buys user id)
    (ho : (w.step cfg env e).orders = w.orders ++ [o]) : o.productId = id := by
  have hne : ∀ {w'}, (w' : Shop) = w → w'.orders ≠ w.orders ++ [o] := by
    rintro w' rfl h
    have := congrArg List.length h
    simp at this
  have hlast : ∀ {o' : PlacedOrder}, w.orders ++ [o'] = w.orders ++ [o] → o' = o := by
    intro o' h
    exact List.singleton_inj.mp (List.append_cancel_left h)
  cases e with
  | card u i now number =>
    obtain ⟨-, rfl⟩ := hb
    have ho : (cardOrder env u i now number w).1.orders = w.orders ++ [o] := ho
    rcases cardOrder_cases with h | ⟨r, p, w', hp, -, ⟨o', payments, -, hid, rfl⟩, h⟩
    · exact absurd ho (hne h)
    · rw [h] at ho
      rw [← hlast ho, hid]
      exact (Rows.mem_of_get hp).2
  | crypto u i now number invoice =>
    obtain ⟨-, rfl⟩ := hb
    have ho : (cryptoOrder cfg env u i now number w invoice).1.orders = w.orders ++ [o] := ho
    rcases cryptoOrder_cases with h | ⟨r, p, w', hp, -, ⟨o', payments, -, hid, rfl⟩, h⟩
    · exact absurd ho (hne h)
    · rw [h] at ho
      rw [← hlast ho, hid]
      exact (Rows.mem_of_get hp).2
  | _ => exact hb.elim

/-- **In every state that is reached, an order that is placed is for a product on sale to the
customer**, if every press comes after a list that has offered the product, with nothing in between
that has withdrawn it. -/
theorem sells_on_sale (cfg : ShopSettings) (env : Platform) (w : Shop) (es : List ShopEvent)
    (e : ShopEvent) (keyed : w.Keyed)
    (offered : ∀ user id, e.Buys user id → StillOffered cfg env w es user id) :
    SellsOnSale cfg env (w.after cfg env es) e := by
  intro user id o hb ho
  rw [productId_of_placed hb ho, sellable_iff (keyed_run keyed)]
  exact (offered user id hb).listed keyed

end List

/-! ## A button of an old list -/

namespace OldList

def basic : ProductRow :=
  ⟨⟨1, "Basic", [.int 2], 30, 5, none⟩, "basic", .finite 90000, true, false⟩

def sara : Reseller := { newReseller 5 none with id := 1 }

def shop : Shop := ⟨[basic], [], [sara], [], [], [], fun _ => none, fun _ _ => .ok "member"⟩

/-- The owner deletes the product that the list has shown. -/
def delete : ShopEvent := .product 1 (.ok ()) (.consoleDelete 1)

def press : ShopEvent := .card 5 1 0 "R700101ABCDEF"

def order : PlacedOrder :=
  ⟨1, "R700101ABCDEF", 1, 1, .finite 90000, "IRT", .PENDING, .card, 24 * hour⟩

theorem placed_deleted :
    ((shop.after Shrinking.cfg Shrinking.env [delete]).step Shrinking.cfg Shrinking.env
      press).orders = [order] := by
  cbv

example : shop.showProducts 5 = [1] := by decide

/-- **The button of the old list orders the deleted product.** -/
theorem deleted_sold : ¬SellsOnSale Shrinking.cfg Shrinking.env
    (shop.after Shrinking.cfg Shrinking.env [delete]) press := by
  intro h
  obtain ⟨p, hp, he, -⟩ := (h 5 1 order ⟨rfl, rfl⟩ placed_deleted).product
  have hgone : (shop.after Shrinking.cfg Shrinking.env [delete]).getProduct 1 =
      some { basic with enabled := false, deleted := true } := by
    cbv
  obtain rfl := Option.some.inj (hgone.symm.trans hp)
  cases he

/-- The customer opens the list, the owner sets the card number, and the customer presses. -/
def fresh : List ShopEvent := [.list 5, .setting "card_number" (.text "6037")]

theorem placed_fresh :
    ((shop.after Shrinking.cfg Shrinking.env fresh).step Shrinking.cfg Shrinking.env
      press).orders = [order] := by
  cbv

theorem sells_on_sale_fresh :
    ∃ o, ((shop.after Shrinking.cfg Shrinking.env fresh).step Shrinking.cfg Shrinking.env
      press).orders = [o] ∧
      Sellable (shop.after Shrinking.cfg Shrinking.env fresh) 5 o.productId := by
  refine ⟨order, placed_fresh, sells_on_sale Shrinking.cfg Shrinking.env shop fresh press
    (List.nodup_singleton 1) ?_ 5 1 order ⟨rfl, rfl⟩ placed_fresh⟩
  rintro user id ⟨rfl, rfl⟩
  exact ⟨[], _, rfl, by decide, fun h => h, trivial⟩

end OldList

end ResellerBot
