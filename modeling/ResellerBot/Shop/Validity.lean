import ResellerBot.Shop.Dialogues
import ResellerBot.Machine

/-!
# ResellerBot.Shop.Validity — products stay valid

What a message asks the table of products for, and which messages keep its rows valid.  The console
refuses what is out of range; the commands do not.
-/

open Interact

namespace ResellerBot

/-! ## What a message asks for -/

/-- What is asked of the table of products. -/
inductive Request
  | insert (p : ProductRow)
  | assign (id : ℕ) (v : FieldValue)
  | switch (id : ℕ) (f : ProductRow → Bool × Bool)
  | nothing

/-- The rows that the database has got, or those that were there. -/
def productsOr (old : List ProductRow) : Except Err Shop → List ProductRow
  | .ok w' => w'.products
  | .error _ => old

/-- The table after the request: what the database refuses leaves it as it was. -/
def Request.perform (env : Platform) (w : Shop) : Request → List ProductRow
  | insert p => productsOr w.products (w.insertProduct env p)
  | assign id v =>
    if w.getProduct id = none then w.products else productsOr w.products (w.setProduct env id v)
  | switch id f => (w.switchProduct id f).products
  | nothing => w.products

/-- A message to the dialogue for a new product: the last value completes the row. -/
def completes (env : Platform) (w : Shop) (owner : ℤ) (text : Option String) : Request :=
  match w.dialogues owner with
  | some (.productCreate index values) =>
    if text = some "/cancel" then .nothing
    else match ProductField.all[index]? with
      | none => .nothing
      | some field => match consoleValue env.isalnum field text with
        | .error _ => .nothing
        | .ok v => match ProductField.all[index + 1]? with
          | some _ => .nothing
          | none => .insert ((values ++ [v]).foldl ProductRow.set .blank)
  | _ => .nothing

/-- A message to the dialogue for a new value. -/
def revises (env : Platform) (w : Shop) (owner : ℤ) (text : Option String) : Request :=
  match w.dialogues owner with
  | some (.productEdit id field) =>
    if text = some "/cancel" then .nothing
    else match consoleValue env.isalnum field text with
      | .ok v => .assign id v
      | .error _ => .nothing
  | _ => .nothing

/-- The command `/product_add`. -/
def adds (text : String) : Request :=
  match parseProductAdd text with
  | .ok p => .insert p
  | .error _ => .nothing

/-- The command `/product_delete`. -/
def deletes (text : String) : Request :=
  match (splitWords 2 text.toList)[1]?.map parseInt with
  | some (.ok id) => if 0 ≤ id then .switch id.toNat fun _ => (false, true) else .nothing
  | _ => .nothing

/-- The command `/product_edit`. -/
def edits (text : String) : Request :=
  match parseProductEdit text with
  | .ok (id, .inl v) => if id < 0 then .nothing else .assign id.toNat v
  | .ok (id, .inr enabled) =>
    if id < 0 then .nothing else .switch id.toNat fun p => (enabled, p.deleted)
  | .error _ => .nothing

/-- What an owner's operation asks for. -/
def ProductOp.request (env : Platform) (owner : ℤ) (w : Shop) : ProductOp → Request
  | consoleAdd | consoleEdit _ _ => .nothing
  | createValue text => completes env w owner text
  | editValue text => revises env w owner text
  | toggle id => .switch id fun p => (!p.enabled, p.deleted)
  | consoleDelete id => .switch id fun _ => (false, true)
  | add text => adds text
  | edit text => edits text
  | delete text => deletes text

/-- Only owners ask for anything. -/
def ShopEvent.request (cfg : ShopSettings) (env : Platform) (w : Shop) : ShopEvent → Request
  | .product owner _ op => if owner ∈ cfg.ownerIds then op.request env owner w else .nothing
  | _ => .nothing

section Handle

variable {cfg : ShopSettings} {env : Platform} {w w' : Shop} {owner : ℤ} {ownerIds : List ℤ}
  {panel : Except Err Unit} {text : String}

@[simp] theorem products_talk {d : Dialogue} : (w.talk owner d).products = w.products := rfl

@[simp] theorem products_clear : (w.clear owner).products = w.products := rfl

@[simp] theorem products_closePanel :
    (closePanel owner panel w text).1.products = w.products := by
  cases panel <;> rfl

/-- A dialogue does not matter to an insertion. -/
theorem insertProduct_talk {d : Dialogue} {p : ProductRow} :
    (w.talk owner d).insertProduct env p = (w.insertProduct env p).map (·.talk owner d) := by
  unfold Shop.insertProduct
  rw [products_talk]
  split_ifs
  · rfl
  · cases env.numeric 0 p.priceToman <;> rfl

theorem products_createProduct {d : Dialogue} {values : List FieldValue} :
    (createProduct env owner panel (w.talk owner d) values).1.products =
      (Request.insert (values.foldl ProductRow.set .blank)).perform env w := by
  unfold createProduct
  rw [insertProduct_talk, Request.perform]
  cases w.insertProduct env (values.foldl ProductRow.set .blank) with
  | ok w' => exact products_closePanel
  | error e =>
    dsimp only [Except.map]
    split_ifs
    · exact products_closePanel
    · rfl

theorem switch_unknown {id : ℕ} {f : ProductRow → Bool × Bool} (h : w.getProduct id = none) :
    (w.switchProduct id f).products = w.products := by
  have hne := List.find?_eq_none.mp h
  show List.map _ _ = w.products
  conv_rhs => rw [← List.map_id w.products]
  refine List.map_congr_left fun p hp => ?_
  rw [if_neg (by simpa using hne p hp)]
  rfl

theorem products_switch {id : ℕ} {f : ProductRow → Bool × Bool} {answer : Answer} :
    (if w.getProduct id = none then (w, .error noneError)
      else (w.switchProduct id f, answer) : Shop × Answer).1.products =
        (w.switchProduct id f).products := by
  by_cases h : w.getProduct id = none
  · rw [if_pos h]
    exact (switch_unknown h).symm
  · rw [if_neg h]

theorem products_createValue {text : Option String} (ho : owner ∈ ownerIds) :
    (productCreateValue env ownerIds owner panel w text).1.products =
      (completes env w owner text).perform env w := by
  unfold productCreateValue completes
  rw [if_neg (not_not.mpr ho)]
  rcases hd : w.dialogues owner with _ | ⟨index, values⟩ | _ | _ | _ <;> dsimp only <;> try rfl
  by_cases hc : text = some "/cancel"
  · rw [if_pos hc, if_pos hc]
    exact products_closePanel
  · rw [if_neg hc, if_neg hc]
    cases ProductField.all[index]? with
    | none => rfl
    | some field =>
      dsimp only
      cases consoleValue env.isalnum field text with
      | error e => rfl
      | ok v =>
        cases ProductField.all[index + 1]? with
        | some next => rfl
        | none => exact products_createProduct

theorem products_editValue {text : Option String} (ho : owner ∈ ownerIds) :
    (productEditValue env ownerIds owner panel w text).1.products =
      (revises env w owner text).perform env w := by
  unfold productEditValue revises
  rw [if_neg (not_not.mpr ho)]
  rcases hd : w.dialogues owner with _ | _ | ⟨id, field⟩ | _ | _ <;> dsimp only <;> try rfl
  by_cases hc : text = some "/cancel"
  · rw [if_pos hc, if_pos hc]
    exact products_closePanel
  · rw [if_neg hc, if_neg hc]
    cases hv : consoleValue env.isalnum field text with
    | error e => rfl
    | ok v =>
      rw [Request.perform]
      by_cases hg : w.getProduct id = none
      · dsimp only
        rw [if_pos hg, if_pos hg]
      · dsimp only
        rw [if_neg hg, if_neg hg]
        cases hs : w.setProduct env id v with
        | ok w' => exact products_closePanel
        | error e =>
          dsimp only
          split_ifs <;> rfl

theorem products_add (ho : owner ∈ ownerIds) :
    (productAdd env ownerIds owner text w).1.products = (adds text).perform env w := by
  unfold productAdd adds
  rw [if_neg (not_not.mpr ho)]
  cases parseProductAdd text with
  | error e => rfl
  | ok p =>
    show (match w.insertProduct env p with
      | .ok w' => _
      | .error _ => _ : Shop × Answer).1.products = productsOr w.products (w.insertProduct env p)
    cases w.insertProduct env p <;> rfl

theorem products_edit (ho : owner ∈ ownerIds) :
    (productEdit env ownerIds owner text w).1.products = (edits text).perform env w := by
  unfold productEdit edits
  rw [if_neg (not_not.mpr ho)]
  cases parseProductEdit text with
  | error e => rfl
  | ok r =>
    obtain ⟨id, edit⟩ := r
    by_cases hid : id < 0
    · cases edit <;> dsimp only [bind, Except.bind] <;> rw [if_pos (.inl hid), if_pos hid] <;> rfl
    · by_cases hg : w.getProduct id.toNat = none
      · cases edit <;> dsimp only [bind, Except.bind] <;> rw [if_pos (.inr hg), if_neg hid]
        · rw [Request.perform, if_pos hg]
        · exact (switch_unknown hg).symm
      · have hneg : ¬(id < 0 ∨ w.getProduct id.toNat = none) := by simp [hid, hg]
        cases edit with
        | inl v =>
          dsimp only [bind, Except.bind]
          rw [if_neg hneg, if_neg hid, Request.perform, if_neg hg]
          cases w.setProduct env id.toNat v <;> rfl
        | inr enabled =>
          dsimp only [bind, Except.bind]
          rw [if_neg hneg, if_neg hid]
          rfl

theorem products_delete (ho : owner ∈ ownerIds) :
    (productDelete ownerIds owner text w).1.products = (deletes text).perform env w := by
  unfold productDelete deletes
  rw [if_neg (not_not.mpr ho)]
  cases (splitWords 2 text.toList)[1]?.map parseInt with
  | none => rfl
  | some r =>
    cases r with
    | error e => rfl
    | ok id =>
      dsimp only
      split_ifs <;> rfl

/-- **Every operation changes the rows as its request says.** -/
theorem products_handle (op : ProductOp) (ho : owner ∈ cfg.ownerIds) :
    (op.handle cfg env owner panel w).1.products = (op.request env owner w).perform env w := by
  cases op with
  | consoleAdd =>
    show (if _ then _ else _ : Shop × Answer).1.products = _
    rw [if_pos ho]
    rfl
  | consoleEdit id field =>
    show (if _ then _ else _ : Shop × Answer).1.products = _
    rw [if_pos ho]
    rfl
  | createValue text => exact products_createValue ho
  | editValue text => exact products_editValue ho
  | toggle id =>
    show (if _ then _ else _ : Shop × Answer).1.products = _
    rw [if_pos ho]
    exact products_switch
  | consoleDelete id =>
    show (if _ then _ else _ : Shop × Answer).1.products = _
    rw [if_pos ho]
    exact products_switch
  | add text => exact products_add ho
  | edit text => exact products_edit ho
  | delete text => exact products_delete ho

/-- Somebody else's message is not handled. -/
theorem products_stranger (op : ProductOp) (ho : owner ∉ cfg.ownerIds) :
    (op.handle cfg env owner panel w).1.products = w.products := by
  cases op <;> show (if _ then _ else _ : Shop × Answer).1.products = _ <;>
    first
    | rw [if_pos ho]
    | rw [if_neg ho]
  all_goals rfl

end Handle

/-! ## The steps of the shop -/

section Step

variable {cfg : ShopSettings} {env : Platform} {w w' : Shop} {e : ShopEvent}

theorem start_frame {user : ℤ} {username : Option String} :
    startShopping cfg user w username =
      { w with resellers := (startShopping cfg user w username).resellers } := by
  unfold startShopping
  by_cases ho : user ∈ cfg.ownerIds
  · rw [if_pos ho]
  · rw [if_neg ho]
    cases w.resellerOf user <;> rfl

theorem products_step :
    (w.step cfg env e).products = (e.request cfg env w).perform env w := by
  cases e with
  | product owner panel op =>
    show (op.handle cfg env owner panel w).1.products = (if _ then _ else _ : Request).perform env w
    by_cases ho : owner ∈ cfg.ownerIds
    · rw [if_pos ho]
      exact products_handle op ho
    · rw [if_neg ho]
      exact products_stranger op ho
  | channel owner panel op => exact (managed_channel op).products rfl
  | setting key value => rfl
  | telegram lookup => rfl
  | list user => rfl
  | start user username =>
    show (startShopping cfg user w username).products = w.products
    rw [start_frame]
  | card user id now number =>
    show (cardOrder env user id now number w).1.products = w.products
    rcases cardOrder_cases with h | ⟨r, p, w', -, -, ⟨o, payments, -, -, rfl⟩, h⟩ <;> rw [h]
    rfl
  | crypto user id now number invoice =>
    show (cryptoOrder cfg env user id now number w invoice).1.products = w.products
    rcases cryptoOrder_cases with h | ⟨r, p, w', -, -, ⟨o, payments, -, -, rfl⟩, h⟩ <;> rw [h]

theorem heard_step (hw : w.Heard) : (w.step cfg env e).Heard := by
  cases e with
  | product owner panel op => exact (managed_product op).heard hw
  | channel owner panel op => exact (managed_channel op).heard hw
  | setting key value => exact hw
  | telegram lookup => exact hw
  | list user => exact hw
  | start user username =>
    show (startShopping cfg user w username).Heard
    rw [start_frame]
    exact hw
  | card user id now number =>
    show (cardOrder env user id now number w).1.Heard
    rcases cardOrder_cases with h | ⟨r, p, w', -, -, ⟨o, payments, -, -, rfl⟩, h⟩
    · rw [h]
      exact hw
    · rw [h]
      exact heard_clear hw
  | crypto user id now number invoice =>
    show (cryptoOrder cfg env user id now number w invoice).1.Heard
    rcases cryptoOrder_cases with h | ⟨r, p, w', -, -, ⟨o, payments, -, -, rfl⟩, h⟩ <;> rw [h] <;>
      exact hw

end Step

/-! ## Keeping the rows valid -/

/-- What the column keeps of a price is positive and finite. -/
def Platform.Keeps (env : Platform) (d : Decimal) : Prop :=
  ∀ d', env.numeric 0 d = .ok d' → d'.Positive

namespace Request

/-- Whatever is written besides a price is in range. -/
def InRange : Request → Prop
  | insert p => ∀ f, f ≠ .priceToman → p.FieldValid f
  | assign _ v => v.InRange
  | _ => True

def PriceKept (env : Platform) : Request → Prop
  | insert p => env.Keeps p.priceToman
  | assign _ v => ∀ d, v = ⟨.priceToman, d⟩ → env.Keeps d
  | _ => True

/-- The database takes the row: there is one to assign to, slugs stay unique, the price has not
been refused. -/
def Written (env : Platform) (w : Shop) : Request → Prop
  | insert p => ∃ w', w.insertProduct env p = .ok w'
  | assign id v => w.getProduct id ≠ none ∧ ∃ w', w.setProduct env id v = .ok w'
  | _ => True

variable {env : Platform} {w : Shop}

theorem perform_unwritten {r : Request} (h : ¬r.Written env w) : r.perform env w = w.products := by
  cases r with
  | insert p =>
    rw [perform]
    cases hi : w.insertProduct env p with
    | ok w' => exact absurd ⟨w', hi⟩ h
    | error e => rfl
  | assign id v =>
    rw [perform]
    by_cases hg : w.getProduct id = none
    · rw [if_pos hg]
    · rw [if_neg hg]
      cases hs : w.setProduct env id v with
      | ok w' => exact absurd ⟨hg, w', hs⟩ h
      | error e => rfl
  | switch id f => exact absurd trivial h
  | nothing => rfl

/-- An insertion adds the row with the price that its column keeps. -/
theorem insert_valid_iff {p : ProductRow} {w' : Shop} (hw : ∀ q ∈ w.products, q.Valid)
    (h : w.insertProduct env p = .ok w') : (∀ q ∈ w'.products, q.Valid) ↔
      (insert p).InRange ∧ (insert p).PriceKept env := by
  unfold Shop.insertProduct at h
  split_ifs at h
  obtain ⟨d, hd, h⟩ := bind_eq_ok h
  obtain rfl := Except.ok.inj h
  constructor
  · intro hq
    have hp := valid_iff.mp (hq _ (List.mem_append_right _ (List.mem_singleton_self _)))
    refine ⟨fun f hf => ?_, fun d' hd' => ?_⟩
    · have := hp f
      cases f <;> first | exact absurd rfl hf | exact this
    · obtain rfl : d = d' := Except.ok.inj (hd.symm.trans hd')
      exact hp .priceToman
  · rintro ⟨hr, hk⟩ q hq
    rcases List.mem_append.mp hq with hq | hq
    · exact hw q hq
    · rw [List.mem_singleton.mp hq]
      refine valid_iff.mpr fun f => ?_
      by_cases hf : f = .priceToman
      · subst hf
        exact hk d hd
      · have := hr f hf
        cases f <;> first | exact absurd rfl hf | exact this

/-- The value that is saved is good if it is in range and its price is kept, and only then. -/
theorem saved_good_iff {id : ℕ} {v v' : FieldValue} (h : w.savedValue env id v = .ok v') :
    v'.Good ↔ v.InRange ∧ ∀ d, v = ⟨.priceToman, d⟩ → env.Keeps d := by
  obtain ⟨f, x⟩ := v
  cases f with
  | priceToman =>
    obtain ⟨d, hd, rfl⟩ := map_eq_ok h
    constructor
    · intro hg
      refine ⟨fun hf => absurd rfl hf, ?_⟩
      rintro y hy d' hd'
      obtain rfl : x = y := by simpa using hy
      obtain rfl : d = d' := Except.ok.inj (hd.symm.trans hd')
      exact hg
    · rintro ⟨-, hk⟩
      exact hk x rfl d hd
  | slug =>
    have hs : v'.Good := by
      simp only [Shop.savedValue] at h
      split_ifs at h
      obtain rfl := Except.ok.inj h
      trivial
    exact iff_of_true hs ⟨fun _ => trivial, nofun⟩
  | _ =>
    obtain rfl := Except.ok.inj h
    constructor
    · intro hg
      exact ⟨fun _ => hg, nofun⟩
    · rintro ⟨hr, -⟩
      exact hr (by simp)

theorem assign_valid_iff {id : ℕ} {v : FieldValue} {w' : Shop} (hw : ∀ q ∈ w.products, q.Valid)
    (hg : w.getProduct id ≠ none) (h : w.setProduct env id v = .ok w') :
    (∀ q ∈ w'.products, q.Valid) ↔ (assign id v).InRange ∧ (assign id v).PriceKept env := by
  obtain ⟨v', hv, rfl⟩ := map_eq_ok h
  refine Iff.trans ?_ (saved_good_iff hv)
  constructor
  · intro hq
    obtain ⟨p, hp⟩ := Option.ne_none_iff_exists'.mp hg
    obtain ⟨hmem, hid⟩ := Rows.mem_of_get hp
    have := hq (p.set v') (Rows.mem_set.mpr (.inl ⟨p, hmem, hid, rfl⟩))
    exact (set_valid_iff (hw p hmem)).mp this
  · intro hgood q hq
    rcases Rows.mem_set.mp hq with ⟨p, hmem, -, rfl⟩ | ⟨hmem, -⟩
    · exact (set_valid_iff (hw p hmem)).mpr hgood
    · exact hw q hmem

/-- **A request keeps the rows valid exactly if** what it writes is in range and kept. -/
theorem perform_valid_iff {r : Request} (hw : ∀ p ∈ w.products, p.Valid) :
    (∀ p ∈ r.perform env w, p.Valid) ↔ (r.Written env w → r.InRange ∧ r.PriceKept env) := by
  by_cases hr : r.Written env w
  · rw [forall_prop_of_true hr]
    cases r with
    | insert p =>
      obtain ⟨w', hi⟩ := hr
      rw [perform, hi]
      exact insert_valid_iff hw hi
    | assign id v =>
      obtain ⟨hg, w', hs⟩ := hr
      rw [perform, if_neg hg, hs]
      exact assign_valid_iff hw hg hs
    | switch id f =>
      refine iff_of_true (fun q hq => ?_) ⟨trivial, trivial⟩
      rcases Rows.mem_set.mp hq with ⟨p, hmem, -, rfl⟩ | ⟨hmem, -⟩
      · exact ⟨(hw p hmem).price, (hw p hmem).traffic, (hw p hmem).duration, (hw p hmem).users,
          (hw p hmem).services⟩
      · exact hw q hmem
    | nothing => exact iff_of_true hw ⟨trivial, trivial⟩
  · rw [perform_unwritten hr]
    exact iff_of_true hw fun h => absurd h hr

end Request

/-! ## Runs of the shop -/

/-- The commands, which check nothing but the format of their arguments. -/
def ShopEvent.ByCommand : ShopEvent → Prop
  | .product _ _ (.add _) | .product _ _ (.edit _) => True
  | _ => False

/-- Every row is valid afterwards, and a message whose values are bad has changed no row. -/
structure Respects (cfg : ShopSettings) (env : Platform) (w : Shop) (e : ShopEvent) : Prop where
  valid : ∀ p ∈ (w.step cfg env e).products, p.Valid
  rejected : ¬((e.request cfg env w).InRange ∧ (e.request cfg env w).PriceKept env) →
    (w.step cfg env e).products = w.products

/-- What is written has a price that its column keeps positive and finite and, if a command has
given it, values in the range that the console asks for. -/
structure Careful (cfg : ShopSettings) (env : Platform) (w : Shop) (e : ShopEvent) : Prop where
  price : (e.request cfg env w).Written env w → (e.request cfg env w).PriceKept env
  range : e.ByCommand → (e.request cfg env w).Written env w → (e.request cfg env w).InRange

section Runs

variable {cfg : ShopSettings} {env : Platform} {w : Shop} {e : ShopEvent}

/-- A row that the dialogue has completed is in range: every field has been asked for. -/
theorem completes_inRange {owner : ℤ} {text : Option String} (hw : w.Heard) :
    (completes env w owner text).InRange := by
  unfold completes
  rcases hd : w.dialogues owner with _ | ⟨index, values⟩ | _ | _ | _ <;> try trivial
  dsimp only
  by_cases hc : text = some "/cancel"
  · rw [if_pos hc]
    trivial
  · rw [if_neg hc]
    cases hf : ProductField.all[index]? with
    | none => trivial
    | some field =>
      dsimp only
      cases hv : consoleValue env.isalnum field text with
      | error e => trivial
      | ok v =>
        cases hn : ProductField.all[index + 1]? with
        | some next => trivial
        | none =>
          obtain ⟨hvf, hvr⟩ := consoleValue_inRange hv
          obtain ⟨hvalues, hfields⟩ := sound_concat (hw owner _ hd) hf hvf hvr
          intro f hne
          have hall : ProductField.all.take (index + 1) = ProductField.all :=
            List.take_of_length_le (List.getElem?_eq_none_iff.mp hn)
          refine foldl_set_fieldValid (fun u hu huf => ?_) (.inr (hfields f ?_))
          · exact hvalues u hu (huf ▸ hne)
          · rw [hall]
            exact ProductField.mem_all f

theorem revises_inRange {owner : ℤ} {text : Option String} :
    (revises env w owner text).InRange := by
  unfold revises
  rcases w.dialogues owner with _ | _ | ⟨id, field⟩ | _ | _ <;> try trivial
  dsimp only
  by_cases hc : text = some "/cancel"
  · rw [if_pos hc]
    trivial
  · rw [if_neg hc]
    cases hv : consoleValue env.isalnum field text with
    | error e => trivial
    | ok v => exact (consoleValue_inRange hv).2

/-- **The console asks for nothing out of range.** -/
theorem request_inRange (hw : w.Heard) (he : ¬e.ByCommand) : (e.request cfg env w).InRange := by
  cases e with
  | product owner panel op =>
    show (if _ then _ else _ : Request).InRange
    by_cases ho : owner ∈ cfg.ownerIds
    · rw [if_pos ho]
      cases op with
      | createValue text => exact completes_inRange hw
      | editValue text => exact revises_inRange
      | add text => exact absurd trivial he
      | edit text => exact absurd trivial he
      | delete text =>
        show (deletes text).InRange
        unfold deletes
        rcases (splitWords 2 text.toList)[1]?.map parseInt with _ | (e | id) <;> try trivial
        dsimp only
        split_ifs <;> trivial
      | _ => trivial
    · rw [if_neg ho]
      trivial
  | _ => trivial

/-- One step keeps the rows valid and rejects bad values exactly if it is careful. -/
theorem respects_iff (hw : ∀ p ∈ w.products, p.Valid) (hd : w.Heard) :
    Respects cfg env w e ↔ Careful cfg env w e := by
  have hvalid : (∀ p ∈ (e.request cfg env w).perform env w, p.Valid) ↔ _ :=
    Request.perform_valid_iff hw
  rw [← products_step] at hvalid
  constructor
  · intro h
    have hgood := hvalid.mp h.valid
    exact ⟨fun hr => (hgood hr).2, fun _ hr => (hgood hr).1⟩
  · intro h
    have hgood : (e.request cfg env w).Written env w →
        (e.request cfg env w).InRange ∧ (e.request cfg env w).PriceKept env := by
      intro hr
      refine ⟨?_, h.price hr⟩
      by_cases he : e.ByCommand
      · exact h.range he hr
      · exact request_inRange hd he
    refine ⟨hvalid.mpr hgood, fun hbad => ?_⟩
    rw [products_step]
    exact Request.perform_unwritten fun hr => hbad (hgood hr)

/-- **Product rows stay valid in a run, exactly if** every command writes values in the range of the
console, and every price that is written is kept positive and finite by its column. -/
theorem products_valid_iff (cfg : ShopSettings) (env : Platform) (w : Shop) (es : List ShopEvent)
    (valid : ∀ p ∈ w.products, p.Valid) (undisturbed : ∀ owner, w.dialogues owner = none) :
    Machine.Always (Shop.step cfg env) (Respects cfg env) w es ↔
      Machine.Always (Shop.step cfg env) (Careful cfg env) w es := by
  refine Machine.always_congr (I := fun w => (∀ p ∈ w.products, p.Valid) ∧ w.Heard) ?_ ?_ ?_
  · intro w e hw he
    exact ⟨he.valid, heard_step hw.2⟩
  · intro w e hw
    exact respects_iff hw.1 hw.2
  · refine ⟨valid, fun owner d hd => ?_⟩
    rw [undisturbed owner] at hd
    cases hd

end Runs

/-! ## A plan that shrinks the quota -/

namespace Shrinking

def cfg : ShopSettings where
  botToken := ""
  ownerIds := [1]
  rebeccaBearerToken := ""
  dryRun := false
  destructiveActions := false
  allowDisableActions := false
  allowDeleteActions := false
  userDeleteGraceHours := 72
  trialDurationHours := 24
  trialTrafficGb := 10
  timeWarningThresholds := [7]
  trafficWarningThresholds := [20]
  plisioEnabled := false
  plisioSecretKey := ""
  plisioSourceCurrency := "USD"
  publicBaseUrl := ""

def env : Platform := ⟨Char.isAlphanum, fun _ d => .ok d⟩

def shop : Shop := ⟨[], [], [], [], [], [], fun _ => none, fun _ _ => .ok "member"⟩

def add : ShopEvent := .product 1 (.ok ()) (.add "/product_add basic|Basic|0|-5|30|2,2|")

def fine : ShopEvent := .product 1 (.ok ()) (.add "/product_add basic|Basic|90000|5|30|2,3|")

theorem parse_add : parseProductAdd "/product_add basic|Basic|0|-5|30|2,2|" =
    .ok ⟨⟨0, "Basic", [.int 2, .int 2], 30, -5, none⟩, "basic", .finite 0, true, false⟩ := by
  decide +kernel

theorem parse_fine : parseProductAdd "/product_add basic|Basic|90000|5|30|2,3|" =
    .ok ⟨⟨0, "Basic", [.int 2, .int 3], 30, 5, none⟩, "basic", .finite 90000, true, false⟩ := by
  decide +kernel

theorem request_add : add.request cfg env shop =
    .insert ⟨⟨0, "Basic", [.int 2, .int 2], 30, -5, none⟩, "basic", .finite 0, true, false⟩ := by
  rw [add, ShopEvent.request, if_pos (by decide), ProductOp.request, adds, parse_add]

theorem request_fine : fine.request cfg env shop =
    .insert ⟨⟨0, "Basic", [.int 2, .int 3], 30, 5, none⟩, "basic", .finite 90000, true, false⟩ := by
  rw [fine, ShopEvent.request, if_pos (by decide), ProductOp.request, adds, parse_fine]

/-- **The command writes a plan with a negative quota.** -/
theorem shrinking_plan :
    ¬Machine.Always (Shop.step cfg env) (Respects cfg env) shop [add] := by
  rintro ⟨h, -⟩
  have hvalid := h.valid
  rw [products_step, request_add] at hvalid
  have := (hvalid _ (List.mem_singleton_self _)).traffic
  simp at this

theorem careful_fine : Careful cfg env shop fine := by
  have hprice : (Decimal.finite 90000).Positive := ⟨90000, rfl, by norm_num⟩
  constructor
  · rw [request_fine]
    rintro - d hd
    exact Except.ok.inj hd ▸ hprice
  · rw [request_fine]
    rintro - - f hf
    cases f with
    | name => trivial
    | slug => trivial
    | priceToman => exact absurd rfl hf
    | trafficGb => show (0 : ℤ) < 5; decide
    | durationDays => show (0 : ℤ) < 30; decide
    | serviceIds => exact ⟨[2, 3], rfl, by simp, by simp, by simp⟩
    | usersLimit => exact nofun

theorem products_valid_fine :
    Machine.Always (Shop.step cfg env) (Respects cfg env) shop [fine] :=
  (products_valid_iff cfg env shop [fine] (by simp [shop]) fun _ => rfl).mpr ⟨careful_fine, trivial⟩

end Shrinking

end ResellerBot
