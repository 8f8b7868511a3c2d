import ResellerBot.Shop.Purchase
import ResellerBot.Shop.Rows

/-!
# ResellerBot.Shop.Dialogues — what the operations of the owners leave alone

Operations on products change products and dialogues, operations on channels channels and dialogues,
and the values that a dialogue has taken stay in range.
-/

open Interact

namespace ResellerBot

/-! ## Dialogues -/

/-- The values given so far are in range, and no field has been left out. -/
def Dialogue.Sound : Dialogue → Prop
  | productCreate index values => (∀ v ∈ values, v.InRange) ∧
      ∀ f ∈ ProductField.all.take index, ∃ v ∈ values, v.field = f
  | _ => True

def Shop.Heard (w : Shop) : Prop := ∀ owner d, w.dialogues owner = some d → d.Sound

theorem heard_clear {w : Shop} {owner : ℤ} (hw : w.Heard) : (w.clear owner).Heard := by
  intro o d hd
  have hd : Function.update w.dialogues owner none o = some d := hd
  by_cases ho : o = owner
  · rw [ho, Function.update_self] at hd
    cases hd
  · rw [Function.update_of_ne ho] at hd
    exact hw o d hd

/-- An operation on products, or on channels: the other tables and what Telegram answers are as
before, and the dialogues stay sound. -/
structure Managed (products channels : Bool) (w w' : Shop) : Prop where
  rest : w' = { w with
    products := w'.products, channels := w'.channels, dialogues := w'.dialogues }
  products : products = false → w'.products = w.products
  channels : channels = false → w'.channels = w.channels
  heard : w.Heard → w'.Heard

namespace Managed

variable {products channels : Bool} {w w' w'' : Shop} {owner : ℤ} {panel : Except Err Unit}
  {text : String}

theorem refl (w : Shop) : Managed products channels w w := ⟨rfl, fun _ => rfl, fun _ => rfl, id⟩

theorem trans (h : Managed products channels w w') (h' : Managed products channels w' w'') :
    Managed products channels w w'' where
  rest := by rw [h'.rest, h.rest]
  products hf := (h'.products hf).trans (h.products hf)
  channels hf := (h'.channels hf).trans (h.channels hf)
  heard hw := h'.heard (h.heard hw)

theorem talk {d : Dialogue} (hd : w.Heard → d.Sound) :
    Managed products channels w (w.talk owner d) where
  rest := rfl
  products _ := rfl
  channels _ := rfl
  heard hw o d' hd' := by
    have hd' : Function.update w.dialogues owner (some d) o = some d' := hd'
    by_cases ho : o = owner
    · rw [ho, Function.update_self] at hd'
      exact Option.some.inj hd' ▸ hd hw
    · rw [Function.update_of_ne ho] at hd'
      exact hw o d' hd'

theorem clear : Managed products channels w (w.clear owner) where
  rest := rfl
  products _ := rfl
  channels _ := rfl
  heard := heard_clear

theorem closePanel : Managed products channels w (closePanel owner panel w text).1 := by
  cases panel with
  | error e => exact refl w
  | ok u => exact clear

theorem insertProduct {env : Platform} {p : ProductRow} (h : w.insertProduct env p = .ok w') :
    Managed true channels w w' := by
  unfold Shop.insertProduct at h
  split_ifs at h
  obtain ⟨price, -, h⟩ := bind_eq_ok h
  obtain rfl := Except.ok.inj h
  exact ⟨rfl, nofun, fun _ => rfl, id⟩

theorem setProduct {env : Platform} {id : ℕ} {v : FieldValue}
    (h : w.setProduct env id v = .ok w') : Managed true channels w w' := by
  obtain ⟨v', -, rfl⟩ := map_eq_ok h
  exact ⟨rfl, nofun, fun _ => rfl, fun hw => hw⟩

theorem switchProduct {id : ℕ} {f : ProductRow → Bool × Bool} :
    Managed true channels w (w.switchProduct id f) :=
  ⟨rfl, nofun, fun _ => rfl, fun hw => hw⟩

theorem insertChannel {c : RequiredChannel} (h : w.insertChannel c = .ok w') :
    Managed products true w w' := by
  unfold Shop.insertChannel at h
  split_ifs at h
  obtain rfl := Except.ok.inj h
  exact ⟨rfl, fun _ => rfl, nofun, id⟩

theorem setChannel {id : ℕ} {v : ChannelField × String} (h : w.setChannel id v = .ok w') :
    Managed products true w w' := by
  unfold Shop.setChannel at h
  split_ifs at h
  obtain rfl := Except.ok.inj h
  exact ⟨rfl, fun _ => rfl, nofun, fun hw => hw⟩

theorem switchChannel {id : ℕ} {f : RequiredChannel → Bool} :
    Managed products true w (w.switchChannel id f) :=
  ⟨rfl, fun _ => rfl, nofun, fun hw => hw⟩

end Managed

section Operations

variable {env : Platform} {ownerIds : List ℤ} {owner : ℤ} {panel : Except Err Unit} {w : Shop}

theorem managed_createProduct {values : List FieldValue} :
    Managed true false w (createProduct env owner panel w values).1 := by
  unfold createProduct
  cases hi : w.insertProduct env (values.foldl ProductRow.set .blank) with
  | ok w' => exact (Managed.insertProduct hi).trans .closePanel
  | error e =>
    dsimp only
    by_cases he : e.kind = .integrity
    · rw [if_pos he]
      exact .closePanel
    · rw [if_neg he]
      exact .refl w

/-- The dialogue takes another value, which is in range for the field it has asked for. -/
theorem sound_concat {index : ℕ} {values : List FieldValue} {field : ProductField}
    {v : FieldValue} (hs : (Dialogue.productCreate index values).Sound)
    (hf : ProductField.all[index]? = some field) (hv : v.field = field) (hr : v.InRange) :
    (∀ u ∈ values ++ [v], u.InRange) ∧
      ∀ f ∈ ProductField.all.take (index + 1), ∃ u ∈ values ++ [v], u.field = f := by
  constructor
  · intro u hu
    rcases List.mem_append.mp hu with hu | hu
    · exact hs.1 u hu
    · rw [List.mem_singleton.mp hu]
      exact hr
  · intro f hf'
    rw [List.take_add_one, hf] at hf'
    rcases List.mem_append.mp hf' with hf' | hf'
    · obtain ⟨u, hu, huf⟩ := hs.2 f hf'
      exact ⟨u, List.mem_append_left _ hu, huf⟩
    · have hff : f = field := by simpa using hf'
      exact ⟨v, by simp, hv.trans hff.symm⟩

theorem managed_createValue {text : Option String} :
    Managed true false w (productCreateValue env ownerIds owner panel w text).1 := by
  unfold productCreateValue
  by_cases ho : owner ∈ ownerIds
  · rw [if_neg (not_not.mpr ho)]
    rcases hd : w.dialogues owner with _ | ⟨index, values⟩ | _ | _ | _ <;> try exact .refl w
    dsimp only
    by_cases hc : text = some "/cancel"
    · rw [if_pos hc]
      exact .closePanel
    · rw [if_neg hc]
      cases hf : ProductField.all[index]? with
      | none => exact .refl w
      | some field =>
        dsimp only
        cases hv : consoleValue env.isalnum field text with
        | error e => exact .refl w
        | ok v =>
          obtain ⟨hvf, hvr⟩ := consoleValue_inRange hv
          have hsound : w.Heard → _ := fun hw => sound_concat (hw owner _ hd) hf hvf hvr
          cases ProductField.all[index + 1]? with
          | some next => exact .talk hsound
          | none =>
            refine Managed.trans (.talk fun hw => ?_) managed_createProduct
            obtain ⟨hvalues, hfields⟩ := hsound hw
            refine ⟨hvalues, fun f hf' => hfields f ?_⟩
            exact (List.take_subset_take_left _ (Nat.le_succ index)) hf'
  · rw [if_pos ho]
    exact .clear

theorem managed_editValue {text : Option String} :
    Managed true false w (productEditValue env ownerIds owner panel w text).1 := by
  unfold productEditValue
  by_cases ho : owner ∈ ownerIds
  · rw [if_neg (not_not.mpr ho)]
    rcases hd : w.dialogues owner with _ | _ | ⟨id, field⟩ | _ | _ <;> try exact .refl w
    dsimp only
    by_cases hc : text = some "/cancel"
    · rw [if_pos hc]
      exact .closePanel
    · rw [if_neg hc]
      cases consoleValue env.isalnum field text with
      | error e => exact .refl w
      | ok v =>
        dsimp only
        by_cases hg : w.getProduct id = none
        · rw [if_pos hg]
          exact .refl w
        · rw [if_neg hg]
          cases hs : w.setProduct env id v with
          | ok w' => exact (Managed.setProduct hs).trans .closePanel
          | error e =>
            dsimp only
            by_cases he : e.kind = .integrity
            · rw [if_pos he]
              exact .refl w
            · rw [if_neg he]
              exact .refl w
  · rw [if_pos ho]
    exact .clear

theorem managed_edit {text : String} :
    Managed true false w (productEdit env ownerIds owner text w).1 := by
  unfold productEdit
  by_cases ho : owner ∈ ownerIds
  · rw [if_neg (not_not.mpr ho)]
    dsimp only
    split
    · next w' he =>
      obtain ⟨⟨id, edit⟩, -, he⟩ := bind_eq_ok he
      dsimp only at he
      by_cases hid : id < 0 ∨ w.getProduct id.toNat = none
      · rw [if_pos hid] at he
        cases he
      · rw [if_neg hid] at he
        cases edit with
        | inl v => exact .setProduct he
        | inr enabled =>
          obtain rfl := Except.ok.inj he
          exact .switchProduct
    · exact .refl w
  · rw [if_pos ho]
    exact .refl w

/-- A callback that switches a row it has found. -/
theorem managed_switch {id : ℕ} {f : ProductRow → Bool × Bool} {answer stranger : Answer} :
    Managed true false w (if owner ∈ ownerIds then
      if w.getProduct id = none then (w, .error noneError) else (w.switchProduct id f, answer)
      else (w, stranger) : Shop × Answer).1 := by
  by_cases ho : owner ∈ ownerIds
  · rw [if_pos ho]
    by_cases hg : w.getProduct id = none
    · rw [if_pos hg]
      exact .refl w
    · rw [if_neg hg]
      exact .switchProduct
  · rw [if_neg ho]
    exact .refl w

theorem managed_asked {products channels : Bool} {d : Dialogue} {answer stranger : Answer}
    (hd : d.Sound) : Managed products channels w (if owner ∈ ownerIds then (w.talk owner d, answer)
      else (w, stranger) : Shop × Answer).1 := by
  by_cases ho : owner ∈ ownerIds
  · rw [if_pos ho]
    exact .talk fun _ => hd
  · rw [if_neg ho]
    exact .refl w

/-- **Operations on products change products and dialogues.** -/
theorem managed_product {cfg : ShopSettings} (op : ProductOp) :
    Managed true false w (op.handle cfg env owner panel w).1 := by
  cases op with
  | consoleAdd => exact managed_asked ⟨nofun, nofun⟩
  | consoleEdit id field => exact managed_asked (d := .productEdit id field) trivial
  | createValue text => exact managed_createValue
  | editValue text => exact managed_editValue
  | toggle id => exact managed_switch
  | consoleDelete id => exact managed_switch
  | edit text => exact managed_edit
  | add text =>
    show Managed true false w (if _ then _ else _ : Shop × Answer).1
    by_cases ho : owner ∈ cfg.ownerIds
    · rw [if_neg (not_not.mpr ho)]
      cases hp : parseProductAdd text >>= w.insertProduct env with
      | error e => exact .refl w
      | ok w' =>
        obtain ⟨p, -, hi⟩ := bind_eq_ok hp
        exact .insertProduct hi
    · rw [if_pos ho]
      exact .refl w
  | delete text =>
    show Managed true false w (if _ then _ else _ : Shop × Answer).1
    by_cases ho : owner ∈ cfg.ownerIds
    · rw [if_neg (not_not.mpr ho)]
      rcases (splitWords 2 text.toList)[1]?.map parseInt with _ | (e | id) <;> try exact .refl w
      dsimp only
      by_cases hid : 0 ≤ id
      · rw [if_pos hid]
        exact .switchProduct
      · rw [if_neg hid]
        exact .refl w
    · rw [if_pos ho]
      exact .refl w

theorem managed_createChannel {values : List (ChannelField × String)} :
    Managed false true w (createChannel owner panel w values).1 := by
  unfold createChannel
  cases hi : w.insertChannel (values.foldl RequiredChannel.set .blank) with
  | ok w' => exact (Managed.insertChannel hi).trans .closePanel
  | error e => exact .closePanel

theorem managed_channelCreate {text : Option String} :
    Managed false true w (channelCreate ownerIds owner panel w text).1 := by
  unfold channelCreate
  by_cases ho : owner ∈ ownerIds
  · rw [if_neg (not_not.mpr ho)]
    rcases w.dialogues owner with _ | _ | _ | ⟨index, values⟩ | _ <;> try exact .refl w
    dsimp only
    by_cases hc : text = some "/cancel"
    · rw [if_pos hc]
      exact .closePanel
    · rw [if_neg hc]
      cases ChannelField.all[index]? with
      | none => exact .refl w
      | some field =>
        cases text with
        | none => exact .refl w
        | some text =>
          dsimp only
          cases channelValue field text with
          | none => exact .refl w
          | some v =>
            cases ChannelField.all[index + 1]? with
            | some next => exact .talk fun _ => trivial
            | none =>
              refine Managed.trans ?_ managed_createChannel
              exact .talk fun _ => trivial
  · rw [if_pos ho]
    exact .clear

theorem managed_channelEditValue {text : Option String} :
    Managed false true w (channelEditValue ownerIds owner panel w text).1 := by
  unfold channelEditValue
  by_cases ho : owner ∈ ownerIds
  · rw [if_neg (not_not.mpr ho)]
    rcases w.dialogues owner with _ | _ | _ | _ | ⟨id, field⟩ <;> try exact .refl w
    dsimp only
    by_cases hc : text = some "/cancel"
    · rw [if_pos hc]
      exact .closePanel
    · rw [if_neg hc]
      cases text with
      | none => exact .refl w
      | some text =>
        dsimp only
        cases channelValue field text with
        | none => exact .refl w
        | some v =>
          dsimp only
          by_cases hg : w.getChannel id = none
          · rw [if_pos hg]
            exact .refl w
          · rw [if_neg hg]
            cases hs : w.setChannel id (field, v) with
            | ok w' => exact (Managed.setChannel hs).trans .closePanel
            | error e => exact .refl w
  · rw [if_pos ho]
    exact .clear

theorem managed_switchChannel {id : ℕ} {f : RequiredChannel → Bool} {answer stranger : Answer} :
    Managed false true w (if owner ∈ ownerIds then
      if w.getChannel id = none then (w, .error noneError) else (w.switchChannel id f, answer)
      else (w, stranger) : Shop × Answer).1 := by
  by_cases ho : owner ∈ ownerIds
  · rw [if_pos ho]
    by_cases hg : w.getChannel id = none
    · rw [if_pos hg]
      exact .refl w
    · rw [if_neg hg]
      exact .switchChannel
  · rw [if_neg ho]
    exact .refl w

/-- **Operations on channels change channels and dialogues.** -/
theorem managed_channel {cfg : ShopSettings} (op : ChannelOp) :
    Managed false true w (op.handle cfg owner panel w).1 := by
  cases op with
  | consoleAdd => exact managed_asked (d := .channelCreate 0 []) trivial
  | create text => exact managed_channelCreate
  | consoleEdit id field => exact managed_asked (d := .channelEdit id field) trivial
  | editValue text => exact managed_channelEditValue
  | toggle id => exact managed_switchChannel
  | remove id => exact managed_switchChannel
  | add text =>
    show Managed false true w (if _ then _ else _ : Shop × Answer).1
    by_cases ho : owner ∈ cfg.ownerIds
    · rw [if_neg (not_not.mpr ho)]
      split
      · next chatId joinUrl title _ =>
        cases hi : w.insertChannel ⟨0, chatId, joinUrl, title, true⟩ with
        | ok w' => exact .insertChannel hi
        | error e => exact .refl w
      · exact .refl w
    · rw [if_pos ho]
      exact .refl w

end Operations

end ResellerBot
