import ResellerBot.Shop.Channels
import ResellerBot.Handlers.Customer

/-!
# ResellerBot.Shop.Purchase — the purchase callbacks, and the shop as a machine

`show_products`, `card_order` and `crypto_order` of
`app/bot/handlers/common.py`, with `is_member` (`app/bot/middlewares/membership.py`).  A callback is
one step; so is a message or a command of an owner, and a change of what Telegram answers.
-/

open Interact

namespace ResellerBot

structure ShopSettings extends Settings where
  publicBaseUrl : String

namespace Shop

variable (w : Shop)

/-- `_channels` -/
def required : List String := (w.channels.filter (·.enabled)).map (·.chatId)

/-- `is_member`: a failing lookup counts as not joined. -/
def isJoined (lookup : String → Except Err String) (channels : List String) : Bool :=
  channels.all fun channel => match lookup channel with
    | .error _ => false
    | .ok status => status ≠ "left" && status ≠ "kicked"

/-- `_joined` -/
def joined (user : ℤ) : Bool := isJoined (w.lookup user) w.required

/-- The buttons `buy:ID` that `show_products` sends: none to a customer who has not joined. -/
def showProducts (user : ℤ) : List ℕ :=
  if w.joined user then (w.products.filter fun p => p.enabled && !p.deleted).map (·.id) else []

def resellerOf (user : ℤ) : Option Reseller := w.resellers.find? (·.telegramId = user)

def setting (key : String) : Option SettingValue := lookupSetting w.settings key

/-- `session.add(order)` and the flush; the number is unique, the amount goes through its column. -/
def insertOrder (env : Platform) (o : PlacedOrder) : Except Err Shop := do
  if w.orders.any (·.orderNumber = o.orderNumber) then
    .error (integrityError "orders.order_number")
  else
    let amount ← env.numeric 2 o.amount
    .ok { w with orders := w.orders ++ [{ o with amount := amount }] }

def insertPayment (p : PlacedPayment) : Except Err Shop :=
  if w.payments.any (·.orderId = p.orderId) then .error (integrityError "payments.order_id")
  else if w.payments.any fun q => q.plisioTxnId.isSome && q.plisioTxnId = p.plisioTxnId then
    .error (integrityError "payments.plisio_txn_id")
  else .ok { w with payments := w.payments ++ [p] }

end Shop

/-! ## Amounts -/

/-- `Decimal(str(rate))` -/
def SettingValue.toDecimal (v : SettingValue) : Except Err Decimal := Decimal.ofText v.str

/-- `price / rate`, for a rate that is not zero. -/
def Decimal.per : Decimal → Decimal → Except Err Decimal
  | .finite price, .finite rate => Decimal.inContext (price / rate)
  | .finite _, .infinity _ => .ok (.finite 0)
  | .infinity a, .finite rate => .ok (.infinity (xor a (rate < 0)))
  | .nan false, .nan false | .nan false, .finite _ | .nan false, .infinity _ => .ok (.nan false)
  | .finite _, .nan false | .infinity _, .nan false => .ok (.nan false)
  | _, _ => .error invalidOperation

/-- `d.quantize(Decimal("0.01"))` -/
def Decimal.cents : Decimal → Except Err Decimal
  | .finite q =>
    let n := Rounding.halfEven (100 * q)
    if 10 ^ 28 ≤ |n| then .error invalidOperation else .ok (.finite (n / 100))
  | .nan false => .ok (.nan false)
  | _ => .error invalidOperation

/-! ## Callbacks -/

section

variable (cfg : ShopSettings) (env : Platform) (user : ℤ) (id : ℕ) (now : Datetime)
  (number : String) (w : Shop)

def newOrder (r : Reseller) (p : ProductRow) (expiresAt : Datetime) : PlacedOrder where
  id := Rows.next PlacedOrder.id w.orders
  orderNumber := number
  resellerId := r.id
  productId := p.id
  amount := p.priceToman
  currency := "IRT"
  status := .PENDING
  paymentMethod := .card
  expiresAt := expiresAt

/-- The transaction of `card_order`. -/
def placeCardOrder (r : Reseller) (p : ProductRow) : Except Err Shop := do
  let order := newOrder number w r p (← addHours now 24)
  let w' ← w.insertOrder env order
  w'.insertPayment ⟨order.id, .card, "AWAITING_RECEIPT", none, none⟩

/-- The callback `paycard:ID`; it waits for a receipt afterwards, whatever it was asked before. -/
def cardOrder : Shop × Answer :=
  match w.getProduct id, w.resellerOf user with
  | some p, some r =>
    match placeCardOrder env now number w r p with
    | .ok w' => (w'.clear user, .ok (some ("💳 پرداخت کارت به کارت #" ++ number)))
    | .error e => (w, .error e)
  | _, _ => (w, .ok (some "محصول یا نمایندگی یافت نشد"))

/-- The transaction of `crypto_order`: an invoice that is not made leaves a failed order. -/
def placeCryptoOrder (r : Reseller) (p : ProductRow) (rate : Decimal)
    (invoice : Except Err (String × String)) : Except Err (Shop × String) := do
  let amount ← (← p.priceToman.per rate).cents
  let order : PlacedOrder := { newOrder number w r p (← addHours now 24) with
    amount := amount
    currency := cfg.plisioSourceCurrency
    status := match invoice with
      | .ok _ => .WAITING_PAYMENT
      | .error _ => .FAILED
    paymentMethod := .plisio }
  let w' ← w.insertOrder env order
  match invoice with
  | .error _ => .ok (w', "ساخت فاکتور ناموفق بود.")
  | .ok (txn, url) => do
    let w'' ← w'.insertPayment ⟨order.id, .plisio, "new", some txn, some url⟩
    .ok (w'', "فاکتور #" ++ number)

/-- The rate that the owner has set, if it is positive. -/
def plisioRate : Except Err (Option Decimal) :=
  match w.setting "plisio_toman_per_source" with
  | none => .ok none
  | some v => do
    if ¬v.truthy then .ok none
    else
      let rate ← v.toDecimal
      if ← rate.isNonpositive then .ok none else .ok (some rate)

/-- The callback `paycrypto:ID`. -/
def cryptoOrder (invoice : Except Err (String × String)) : Shop × Answer :=
  if ¬cfg.plisioEnabled ∨ cfg.plisioSecretKey = "" ∨ cfg.publicBaseUrl = "" then
    (w, .ok (some "پرداخت رمز ارز فعال نیست."))
  else match w.getProduct id, w.resellerOf user with
    | some p, some r =>
      match plisioRate w with
      | .error e => (w, .error e)
      | .ok none => (w, .ok (some "نرخ تبدیل Plisio توسط مالک تنظیم نشده است."))
      | .ok (some rate) =>
        match placeCryptoOrder cfg env now number w r p rate invoice with
        | .ok (w', text) => (w', .ok (some text))
        | .error e => (w, .error e)
    | _, _ => (w, .ok (some "محصول یا نمایندگی یافت نشد"))

/-- The command `/start` of a customer. -/
def startShopping (username : Option String) : Shop :=
  if user ∈ cfg.ownerIds then w
  else match w.resellerOf user with
    | some r => { w with
        resellers := Rows.set Reseller.id w.resellers r.id fun r =>
          { r with telegramUsername := username } }
    | none => { w with
        resellers := w.resellers ++ [{ newReseller user username with
          id := Rows.next Reseller.id w.resellers }] }

end

/-! ## What a purchase changes -/

/-- An order of this customer for this product has been placed. -/
def Ordered (w : Shop) (r : Reseller) (p : ProductRow) (w' : Shop) : Prop :=
  ∃ (o : PlacedOrder) (payments : List PlacedPayment), o.resellerId = r.id ∧ o.productId = p.id ∧
    w' = { w with orders := w.orders ++ [o], payments := payments }

section Placing

variable {cfg : ShopSettings} {env : Platform} {user : ℤ} {id : ℕ} {now : Datetime}
  {number : String} {w w' : Shop} {r : Reseller} {p : ProductRow}

theorem insertOrder_ok {o : PlacedOrder} (h : w.insertOrder env o = .ok w') :
    ∃ amount, w' = { w with orders := w.orders ++ [{ o with amount := amount }] } := by
  unfold Shop.insertOrder at h
  split_ifs at h
  obtain ⟨amount, -, h⟩ := bind_eq_ok h
  exact ⟨amount, (Except.ok.inj h).symm⟩

theorem insertPayment_ok {x : PlacedPayment} (h : w.insertPayment x = .ok w') :
    w' = { w with payments := w.payments ++ [x] } := by
  unfold Shop.insertPayment at h
  split_ifs at h
  exact (Except.ok.inj h).symm

theorem placeCardOrder_ok (h : placeCardOrder env now number w r p = .ok w') :
    Ordered w r p w' := by
  obtain ⟨expiresAt, -, h⟩ := bind_eq_ok h
  obtain ⟨w₁, ho, h⟩ := bind_eq_ok h
  obtain ⟨amount, rfl⟩ := insertOrder_ok ho
  exact ⟨_, _, rfl, rfl, insertPayment_ok h⟩

theorem placeCryptoOrder_ok {rate : Decimal} {invoice : Except Err (String × String)}
    {text : String} (h : placeCryptoOrder cfg env now number w r p rate invoice = .ok (w', text)) :
    Ordered w r p w' := by
  obtain ⟨price, -, h⟩ := bind_eq_ok h
  obtain ⟨cents, -, h⟩ := bind_eq_ok h
  obtain ⟨expiresAt, -, h⟩ := bind_eq_ok h
  obtain ⟨w₁, ho, h⟩ := bind_eq_ok h
  obtain ⟨amount, rfl⟩ := insertOrder_ok ho
  cases invoice with
  | error e =>
    obtain ⟨rfl, -⟩ := Prod.mk.inj (Except.ok.inj h)
    exact ⟨_, _, rfl, rfl, rfl⟩
  | ok x =>
    obtain ⟨w₂, hp, h⟩ := bind_eq_ok h
    obtain ⟨rfl, -⟩ := Prod.mk.inj (Except.ok.inj h)
    exact ⟨_, _, rfl, rfl, insertPayment_ok hp⟩

/-- **A press of a card button places an order or changes nothing.** -/
theorem cardOrder_cases : (cardOrder env user id now number w).1 = w ∨
    ∃ r p w', w.getProduct id = some p ∧ w.resellerOf user = some r ∧ Ordered w r p w' ∧
      (cardOrder env user id now number w).1 = w'.clear user := by
  unfold cardOrder
  cases hp : w.getProduct id with
  | none => exact .inl rfl
  | some p =>
    cases hr : w.resellerOf user with
    | none => exact .inl rfl
    | some r =>
      dsimp only
      cases ho : placeCardOrder env now number w r p with
      | error e => exact .inl rfl
      | ok w' => exact .inr ⟨r, p, w', rfl, rfl, placeCardOrder_ok ho, rfl⟩

theorem cryptoOrder_cases {invoice : Except Err (String × String)} :
    (cryptoOrder cfg env user id now number w invoice).1 = w ∨
      ∃ r p w', w.getProduct id = some p ∧ w.resellerOf user = some r ∧ Ordered w r p w' ∧
        (cryptoOrder cfg env user id now number w invoice).1 = w' := by
  unfold cryptoOrder
  by_cases hc : ¬cfg.plisioEnabled ∨ cfg.plisioSecretKey = "" ∨ cfg.publicBaseUrl = ""
  · rw [if_pos hc]
    exact .inl rfl
  · rw [if_neg hc]
    cases hp : w.getProduct id with
    | none => exact .inl rfl
    | some p =>
      cases hr : w.resellerOf user with
      | none => exact .inl rfl
      | some r =>
        dsimp only
        rcases plisioRate w with e | _ | rate
        · exact .inl rfl
        · exact .inl rfl
        · dsimp only
          cases ho : placeCryptoOrder cfg env now number w r p rate invoice with
          | error e => exact .inl rfl
          | ok x => exact .inr ⟨r, p, x.1, rfl, rfl, placeCryptoOrder_ok ho, rfl⟩

end Placing

/-! ## The machine -/

inductive ProductOp
  | consoleAdd
  | consoleEdit (id : ℕ) (field : ProductField)
  | createValue (text : Option String)
  | editValue (text : Option String)
  | toggle (id : ℕ)
  | consoleDelete (id : ℕ)
  | add (text : String)
  | edit (text : String)
  | delete (text : String)

inductive ChannelOp
  | consoleAdd
  | create (text : Option String)
  | consoleEdit (id : ℕ) (field : ChannelField)
  | editValue (text : Option String)
  | toggle (id : ℕ)
  | remove (id : ℕ)
  | add (text : String)

/-- What the bot receives, with what the world answers meanwhile; `telegram` changes what Telegram
answers from then on, `setting` what the owner has set; `list` is a customer who opens the list of
products, which changes nothing. -/
inductive ShopEvent
  | product (owner : ℤ) (panel : Except Err Unit) (op : ProductOp)
  | channel (owner : ℤ) (panel : Except Err Unit) (op : ChannelOp)
  | setting (key : String) (value : SettingValue)
  | telegram (lookup : ℤ → String → Except Err String)
  | start (user : ℤ) (username : Option String)
  | list (user : ℤ)
  | card (user : ℤ) (id : ℕ) (now : Datetime) (number : String)
  | crypto (user : ℤ) (id : ℕ) (now : Datetime) (number : String)
    (invoice : Except Err (String × String))

section

variable (cfg : ShopSettings) (env : Platform)

def ProductOp.handle (owner : ℤ) (panel : Except Err Unit) (w : Shop) : ProductOp → Shop × Answer
  | consoleAdd => consoleProductAdd cfg.ownerIds owner panel w
  | consoleEdit id field => consoleProductEdit cfg.ownerIds owner panel w id field
  | createValue text => productCreateValue env cfg.ownerIds owner panel w text
  | editValue text => productEditValue env cfg.ownerIds owner panel w text
  | toggle id => productToggle cfg.ownerIds owner w id
  | consoleDelete id => consoleProductDelete cfg.ownerIds owner w id
  | add text => productAdd env cfg.ownerIds owner text w
  | edit text => productEdit env cfg.ownerIds owner text w
  | delete text => productDelete cfg.ownerIds owner text w

def ChannelOp.handle (owner : ℤ) (panel : Except Err Unit) (w : Shop) : ChannelOp → Shop × Answer
  | consoleAdd => consoleChannelAdd cfg.ownerIds owner panel w
  | create text => channelCreate cfg.ownerIds owner panel w text
  | consoleEdit id field => channelEdit cfg.ownerIds owner panel w id field
  | editValue text => channelEditValue cfg.ownerIds owner panel w text
  | toggle id => channelToggle cfg.ownerIds owner w id
  | remove id => channelRemove cfg.ownerIds owner w id
  | add text => channelAdd cfg.ownerIds owner w text

namespace Shop

/-- One step of the shop. -/
def step (w : Shop) : ShopEvent → Shop
  | .product owner panel op => (op.handle cfg env owner panel w).1
  | .channel owner panel op => (op.handle cfg owner panel w).1
  | .setting key value => { w with settings := putSetting w.settings key value }
  | .telegram lookup => { w with lookup := lookup }
  | .start user username => startShopping cfg user w username
  | .list _ => w
  | .card user id now number => (cardOrder env user id now number w).1
  | .crypto user id now number invoice => (cryptoOrder cfg env user id now number w invoice).1

end Shop

end

end ResellerBot
