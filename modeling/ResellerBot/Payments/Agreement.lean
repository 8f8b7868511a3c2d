import ResellerBot.Payments.Polling
import ResellerBot.Payments.Signature

/-!
# ResellerBot.Payments.Agreement — the callback and the polling on one transaction

An order that waits for its payment gets a signed callback, or a pass of the polling; each pays it
exactly when its own tests pass, and a comparison of the tests says when the two agree.
-/

open Interact

namespace ResellerBot

/-! ## The two ways to a payment -/

/-- The order that waits, with the Plisio payment stored for it, in tables whose keys and order
numbers are unique. -/
structure Stored (T : Tables) (o : Order) (q : Payment) : Prop where
  order : o ∈ T.orders
  waiting : o.status = .WAITING_PAYMENT
  payment : q ∈ T.payments
  orderId : q.orderId = o.id
  method : q.method = .plisio
  orders : Rows.Keyed Order.id T.orders
  payments : Rows.Keyed Payment.orderId T.payments
  numbers : ∀ o' ∈ T.orders, o'.orderNumber = o.orderNumber → o' = o

section Ways

variable (ar : Around) (sha1 : String → String → List (Fin 16)) (stack : Stack) (cfg : Settings)
  (batchSize : ℕ) (w : Place) (body : JsonSource) (x : Transaction) (o : Order)

/-- The hash of a body is the HMAC of its message under this secret. -/
def Signed (entries : List (PyText × Json)) (secret : String) : Prop :=
  ∃ message, encodedMessage stack entries = .ok message ∧ sha1 secret message ≠ [] ∧
    lookupJson entries "verify_hash" = some (.text (pyText (hexdigest (sha1 secret message))))

/-- The request is a signed callback with the values of the transaction. -/
def Carries : Prop :=
  ∃ entries, body.loads stack.loads = .ok (.object entries) ∧
    Signed sha1 stack entries cfg.plisioSecretKey ∧ bodyTransaction stack entries = x

/-- The callback pays the order. -/
def PaysByCallback : Prop := PaidIn (posted ar sha1 stack cfg w body).2.tables o.id

/-- A pass of the polling pays the order. -/
def PaysByPolling : Prop := PaidIn (polled ar cfg batchSize w).tables o.id

end Ways

namespace Transaction

variable (x : Transaction) (o : Order) (q : Payment)

/-- Everything that is tested on both ways, and passes. -/
structure Tested : Prop where
  number : x.orderNumberText = .ok o.orderNumber
  status : x.status.map JsonValue.str = some (.ok "completed")
  amount : x.amount = .ok (.finite o.amount)
  txn : ∃ stored, q.plisioTxnId = some stored ∧ stored ≠ "" ∧
    x.id.map JsonValue.str = some (.ok stored)

/-- The currency is this one, up to case. -/
def InCurrency (currency : String) : Prop :=
  ∃ text, x.currencyText = .ok text ∧ upper text = upper currency

/-- The transaction is the payment of the order. -/
structure Genuine : Prop extends Tested x o q where
  currency : x.InCurrency o.currency

/-- The tests that only the callback makes. -/
structure CallbackOnly (cfg : Settings) : Prop where
  secret : cfg.plisioSecretKey ≠ ""
  id : (x.id.bind JsonValue.text?).isSome
  status : (x.status.bind JsonValue.text?).isSome
  currency : x.InCurrency cfg.plisioSourceCurrency

/-- The tests that only the polling makes: also the order is among those that the pass selects, and
the comparison fails for none of these. -/
structure PollingOnly (ar : Around) (cfg : Settings) (batchSize : ℕ) (w : Place) : Prop where
  enabled : cfg.plisioEnabled = true
  secret : cfg.plisioSecretKey ≠ ""
  id : (x.id.map JsonValue.truthy).getD false
  currency : x.InCurrency o.currency
  selected : (o, q) ∈ waitingRows w.tables batchSize
  undisturbed : Undisturbed ar w.ticks (waitingRows w.tables batchSize)

end Transaction

section Tests

variable {ar : Around} {sha1 : String → String → List (Fin 16)} {stack : Stack} {cfg : Settings}
  {batchSize : ℕ} {w : Place} {body : JsonSource} {x : Transaction} {o : Order} {q : Payment}

theorem Stored.not_paidIn (h : Stored w.tables o q) : ¬PaidIn w.tables o.id := by
  rintro ⟨o', ho', hid, hpaid⟩
  rw [h.orders.eq ho' h.order hid, h.waiting] at hpaid
  cases hpaid

theorem Stored.findOrder (h : Stored w.tables o q) :
    findOrder w.tables o.orderNumber = some o := by
  cases hfound : ResellerBot.findOrder w.tables o.orderNumber with
  | none => exact absurd (List.find?_eq_none.mp hfound o h.order) (by simp)
  | some o' =>
    rw [h.numbers o' (List.mem_of_find?_eq_some hfound) (by simpa using List.find?_some hfound)]

theorem Stored.findPayment (h : Stored w.tables o q) : findPayment w.tables o = some q := by
  have := h.payments.get h.payment
  rw [h.orderId] at this
  exact this

/-! ## The callback -/

/-- A callback pays the order that it is accepted for, and no other. -/
theorem paysByCallback_iff_accepts (hst : Stored w.tables o q) {entries : List (PyText × Json)}
    (hload : body.loads stack.loads = .ok (.object entries)) :
    PaysByCallback ar sha1 stack cfg w body o ↔ Accepts sha1 stack cfg w entries o q := by
  unfold PaysByCallback
  constructor
  · intro hpaid
    obtain ⟨entries', order, q', hload', haccepts, hend⟩ | ⟨-, hsame⟩ :=
      @posted_cases ar sha1 stack cfg w body
    · cases hload.symm.trans hload'
      rw [hend] at hpaid
      obtain ⟨hid, -⟩ | ⟨-, h⟩ := (paidIn_set (T := { w.tables with payments := _ })
        (f := order.update (order.paid _)) fun _ => rfl).mp hpaid
      · have hfound := haccepts.2.1
        obtain ⟨number, -, horder⟩ := hfound
        obtain rfl : order = o :=
          hst.orders.eq (List.mem_of_find?_eq_some horder) hst.order hid
        obtain rfl : q' = q := Option.some.inj (haccepts.2.2.1.symm.trans hst.findPayment)
        exact haccepts
      · exact absurd h hst.not_paidIn
    · rw [hsame] at hpaid
      exact absurd hpaid hst.not_paidIn
  · intro h
    rw [posted_accepts hload h]
    exact (paidIn_set (T := { w.tables with payments := _ }) (f := o.update (o.paid _))
      fun _ => rfl).mpr (.inl ⟨rfl, o, hst.order, rfl, by
        refine col_of_ne ?_
        rw [hst.waiting]
        rintro ⟨⟩⟩)

theorem text?_iff {v : Option JsonValue} {text : String} :
    v.bind JsonValue.text? = some text ↔ v = some (.text text) := by
  rcases v with _ | _ | _ | _ <;> simp [JsonValue.text?]

/-- What is a text is the text that `str` gives. -/
theorem text?_of_str {v : Option JsonValue} {text : String}
    (hstr : v.map JsonValue.str = some (.ok text)) (h : (v.bind JsonValue.text?).isSome) :
    v.bind JsonValue.text? = some text := by
  obtain ⟨text', htext⟩ := Option.isSome_iff_exists.mp h
  obtain rfl := text?_iff.mp htext
  cases hstr
  rfl

theorem str_of_text? {v : Option JsonValue} {text : String}
    (h : v.bind JsonValue.text? = some text) : v.map JsonValue.str = some (.ok text) := by
  obtain rfl := text?_iff.mp h
  rfl

theorem paysByCallback_iff (hst : Stored w.tables o q) (hx : Carries sha1 stack cfg body x) :
    PaysByCallback ar sha1 stack cfg w body o ↔ x.Tested o q ∧ x.CallbackOnly cfg := by
  obtain ⟨entries, hload, ⟨message, hmessage, hdigest, hhash⟩, rfl⟩ := hx
  rw [paysByCallback_iff_accepts hst hload, Accepts, accepts_iff]
  have hstatus : (bodyCallback stack entries).status = "completed" ↔
      (bodyTransaction stack entries).status.bind JsonValue.text? = some "completed" := by
    show Option.getD _ "" = _ ↔ _
    cases (bodyTransaction stack entries).status.bind JsonValue.text? with
    | none => exact iff_of_false (by decide) (by rintro ⟨⟩)
    | some text => exact Option.some_inj.symm
  constructor
  · rintro ⟨⟨hsecret, -⟩, ⟨number, hnumber, horder⟩, -, hsettles⟩
    obtain ⟨stored, hstored, hne, htxn⟩ := hsettles.txn
    have hcompleted := hstatus.mp hsettles.completed
    have heq : o.orderNumber = number := by simpa using List.find?_some horder
    exact ⟨⟨heq ▸ hnumber, str_of_text? hcompleted, hsettles.amount, stored, hstored, hne,
      str_of_text? htxn⟩, hsecret, Option.isSome_of_eq_some htxn,
      Option.isSome_of_eq_some hcompleted, hsettles.currency⟩
  · rintro ⟨⟨hnumber, hcompleted, hamount, stored, hstored, hne, hid⟩, honly⟩
    exact ⟨⟨honly.secret, message, hmessage, hdigest, hhash⟩,
      ⟨o.orderNumber, hnumber, hst.findOrder⟩, hst.findPayment,
      ⟨stored, hstored, hne, text?_of_str hid honly.id⟩, honly.currency, hamount,
      hstatus.mpr (text?_of_str hcompleted honly.status), hst.waiting⟩

/-! ## The polling -/

theorem normalizeOperation_ok {remote : Operation} : x.normalizeOperation = .ok remote ↔
    ∃ id text, x.id = some id ∧ id.truthy ∧ id.str = .ok remote.id ∧
      (x.status.getD (.text "")).str = .ok remote.status ∧
      x.orderNumberText = .ok remote.orderNumber ∧ x.amount = .ok remote.sourceAmount ∧
      x.currencyText = .ok text ∧ remote.sourceCurrency = upper text := by
  unfold Transaction.normalizeOperation
  constructor
  · intro h
    cases hid : x.id with
    | none =>
      rw [hid] at h
      cases h
    | some id =>
      rw [hid] at h
      dsimp only at h
      split_ifs at h with htruthy
      obtain ⟨name, hname, h⟩ := bind_eq_ok h
      obtain ⟨status, hstatus, h⟩ := bind_eq_ok h
      obtain ⟨number, hnumber, h⟩ := bind_eq_ok h
      obtain ⟨amount, hamount, h⟩ := bind_eq_ok h
      obtain ⟨text, htext, h⟩ := bind_eq_ok h
      cases h
      exact ⟨id, text, rfl, by simpa using htruthy, hname, hstatus, hnumber, hamount, htext, rfl⟩
  · rintro ⟨id, text, hid, htruthy, hname, hstatus, hnumber, hamount, htext, hcurrency⟩
    rw [hid]
    dsimp only
    rw [if_neg (not_not.mpr htruthy), hname, hstatus, hnumber, hamount, htext]
    show Except.ok { remote with sourceCurrency := upper text } = _
    rw [← hcurrency]

theorem operationValid_iff {remote : Operation} {txn : String} :
    operationValid o txn remote = .ok true ↔ remote.orderNumber = o.orderNumber ∧
      remote.id = txn ∧ remote.sourceCurrency = upper o.currency ∧
        remote.sourceAmount = .finite o.amount := by
  unfold operationValid
  split_ifs with h
  · rw [Decimal.eq_ok_true]
    exact ⟨fun ha => ⟨h.1, h.2.1, h.2.2, ha⟩, fun ha => ha.2.2.2⟩
  · exact iff_of_false (by rintro ⟨⟩) fun ha => h ⟨ha.1, ha.2.1, ha.2.2.1⟩

/-- The order is completed by its own poll, whenever it comes. -/
theorem completes_iff (hop : ∀ n txn, q.plisioTxnId = some txn →
    ar.transaction n txn = x.normalizeOperation) (n : ℕ) :
    (∃ r, (poll ar n (o, q)).1 = .ok r ∧ Completes r) ↔
      x.Tested o q ∧ (x.id.map JsonValue.truthy).getD false ∧ x.InCurrency o.currency := by
  rw [poll_completes_iff]
  dsimp only
  constructor
  · rintro ⟨txn, remote, htxn, hne, hanswer, hvalid, hcompleted⟩
    rw [hop n txn htxn, normalizeOperation_ok] at hanswer
    obtain ⟨id, text, hid, htruthy, hname, hstatus, hnumber, hamount, htext, hupper⟩ := hanswer
    obtain ⟨hn, hi, hc, ha⟩ := operationValid_iff.mp hvalid
    refine ⟨⟨hn ▸ hnumber, ?_, ha ▸ hamount, txn, htxn, hne, ?_⟩, ?_, text, htext, ?_⟩
    · rw [hcompleted] at hstatus
      cases hs : x.status with
      | none =>
        rw [hs] at hstatus
        exact absurd (Except.ok.inj hstatus) (by decide)
      | some v =>
        rw [hs] at hstatus
        exact congrArg some hstatus
    · rw [hid, Option.map_some, hname, hi]
    · rw [hid]
      exact htruthy
    · rw [← hupper, hc]
  · rintro ⟨htested, htruthy, text, htext, hupper⟩
    obtain ⟨txn, htxn, hne, hid⟩ := htested.txn
    obtain ⟨id, hid, hname⟩ := Option.map_eq_some_iff.mp hid
    obtain ⟨v, hv, hstatus⟩ := Option.map_eq_some_iff.mp htested.status
    rw [hid] at htruthy
    refine ⟨txn, ⟨txn, "completed", o.orderNumber, .finite o.amount, upper o.currency⟩, htxn, hne,
      ?_, operationValid_iff.mpr ⟨rfl, rfl, rfl, rfl⟩, rfl⟩
    rw [hop n txn htxn, normalizeOperation_ok]
    exact ⟨id, text, hid, htruthy, hname, by rw [hv]; exact hstatus, htested.number,
      htested.amount, htext, hupper.symm⟩

theorem paysByPolling_iff (hst : Stored w.tables o q) (hop : ∀ n txn, q.plisioTxnId = some txn →
    ar.transaction n txn = x.normalizeOperation) :
    PaysByPolling ar cfg batchSize w o ↔
      x.Tested o q ∧ x.PollingOnly o q ar cfg batchSize w := by
  have hrows : ∀ row ∈ waitingRows w.tables batchSize, row.1.id = o.id → row = (o, q) := by
    rintro ⟨o', q'⟩ hrow hid
    obtain ⟨ho', -, hq', horderId⟩ := waitingRows_spec hrow
    obtain rfl : o' = o := hst.orders.eq ho' hst.order hid
    obtain rfl : q' = q := hst.payments.eq hq' hst.payment (horderId.trans hst.orderId.symm)
    rfl
  unfold PaysByPolling
  rw [polled_iff hst.not_paidIn, settledIn_iff hrows rfl (completes_iff hop)]
  constructor
  · rintro ⟨henabled, hsecret, hundisturbed, hselected, htested, hid, hcurrency⟩
    exact ⟨htested, henabled, hsecret, hid, hcurrency, hselected, hundisturbed⟩
  · rintro ⟨htested, henabled, hsecret, hid, hcurrency, hselected, hundisturbed⟩
    exact ⟨henabled, hsecret, hundisturbed, hselected, htested, hid, hcurrency⟩

/-! ## Agreement -/

/-- **Callback and polling.**  On the values of a transaction the two ways to a payment agree, and
pay only for the payment of the order, exactly if, once the tests they share have passed, the
callback's own tests pass just when the polling's own do. -/
theorem callback_agrees_polling_iff (hst : Stored w.tables o q)
    (hx : Carries sha1 stack cfg body x) (hop : ∀ n txn, q.plisioTxnId = some txn →
      ar.transaction n txn = x.normalizeOperation) :
    ((PaysByCallback ar sha1 stack cfg w body o ↔ PaysByPolling ar cfg batchSize w o) ∧
      (PaysByCallback ar sha1 stack cfg w body o → x.Genuine o q) ∧
      (PaysByPolling ar cfg batchSize w o → x.Genuine o q)) ↔
    (x.Tested o q → (x.CallbackOnly cfg ↔ x.PollingOnly o q ar cfg batchSize w)) := by
  rw [paysByCallback_iff hst hx, paysByPolling_iff hst hop]
  constructor
  · rintro ⟨h, -, -⟩ ht
    exact ⟨fun hc => (h.mp ⟨ht, hc⟩).2, fun hp => (h.mpr ⟨ht, hp⟩).2⟩
  · intro h
    refine ⟨and_congr_right h, ?_, ?_⟩
    · rintro ⟨ht, hc⟩
      exact ⟨ht, ((h ht).mp hc).currency⟩
    · rintro ⟨ht, hp⟩
      exact ⟨ht, hp.currency⟩

end Tests

/-! ## A change of the configured currency -/

def invoicedOrder : Order where
  id := 1
  orderNumber := "A1"
  resellerId := 1
  productId := 1
  amount := 10
  currency := "USD"
  status := .WAITING_PAYMENT
  paymentMethod := .plisio
  paidAt := none
  appliedAt := none
  beforeSnapshot := none
  afterSnapshot := none
  applyError := none

def invoicedPayment : Payment := ⟨1, .plisio, "new", none, some "txn"⟩

def invoicedTables : Tables :=
  ⟨[], [], [invoicedOrder], [invoicedPayment], [], [], [], [], [], [], []⟩

def paidInEuro : Transaction :=
  ⟨some (.text "txn"), some (.text "A1"), some (.text "EUR"), some (.text "10"),
    some (.text "completed")⟩

def euroSettings : Settings where
  botToken := ""
  ownerIds := []
  rebeccaBearerToken := ""
  dryRun := false
  destructiveActions := false
  allowDisableActions := false
  allowDeleteActions := false
  userDeleteGraceHours := 24
  trialDurationHours := 24
  trialTrafficGb := 1
  timeWarningThresholds := [1]
  trafficWarningThresholds := [10]
  plisioEnabled := true
  plisioSecretKey := "key"
  plisioSourceCurrency := "EUR"

def euroMessage : String :=
  "\x7b\"txn_id\":\"txn\",\"order_number\":\"A1\",\"source_currency\":\"EUR\"," ++
    "\"source_amount\":\"10\",\"status\":\"completed\"\x7d"

/-- The HMAC of the callback with ten euros under the secret of `euroSettings`. -/
def euroHmac (secret message : String) : List (Fin 16) :=
  if secret = "key" ∧ message = euroMessage then
    Callbacks.digits [7, 1, 13, 5, 15, 4, 15, 7, 15, 10, 15, 7, 10, 13, 9, 4, 0, 9, 12, 5, 3, 13, 0,
      5, 6, 10, 2, 13, 7, 5, 11, 9, 8, 8, 5, 1, 13, 8, 13, 12]
  else []

def euroBody : JsonSource :=
  .object [(pyText "txn_id", .text (pyText "txn")), (pyText "order_number", .text (pyText "A1")),
    (pyText "source_currency", .text (pyText "EUR")), (pyText "source_amount", .text (pyText "10")),
    (pyText "status", .text (pyText "completed")),
    (pyText "verify_hash", .text (pyText "71d5f4f7faf7ad9409c53d056a2d75b98851d8dc"))]

/-- Plisio tells the polling the same. -/
def euroAround : Around :=
  { Callbacks.around with transaction := fun _ _ => paidInEuro.normalizeOperation }

def invoicedPlace : Place := { Callbacks.place with tables := invoicedTables }

theorem invoiced_stored : Stored invoicedPlace.tables invoicedOrder invoicedPayment where
  order := List.mem_singleton_self _
  waiting := rfl
  payment := List.mem_singleton_self _
  orderId := rfl
  method := rfl
  orders := List.nodup_singleton _
  payments := List.nodup_singleton _
  numbers _ ho' _ := List.mem_singleton.mp ho'

theorem euroBody_carries :
    Carries euroHmac Callbacks.stack euroSettings euroBody paidInEuro := by
  have hmessage : ∀ entries, euroBody.loads 1000 = .ok (.object entries) →
      encodedMessage Callbacks.stack entries = .ok euroMessage := by
    rintro entries ⟨⟩
    decide +kernel
  have hhash : pyText "71d5f4f7faf7ad9409c53d056a2d75b98851d8dc" =
      pyText (hexdigest (euroHmac "key" euroMessage)) := by
    decide +kernel
  refine ⟨_, rfl, ⟨euroMessage, hmessage _ rfl, by decide +kernel, ?_⟩, ?_⟩
  · exact congrArg (fun t => some (Json.text t)) hhash
  · decide +kernel

theorem paidInEuro_tested : paidInEuro.Tested invoicedOrder invoicedPayment :=
  ⟨rfl, rfl, by decide +kernel, "txn", rfl, by decide, rfl⟩

/-- The callback pays ten dollars with ten euros once the configuration says so. -/
theorem reconfigured_not_genuine :
    Carries euroHmac Callbacks.stack euroSettings euroBody paidInEuro ∧
    (∀ n txn, euroAround.transaction n txn = paidInEuro.normalizeOperation) ∧
    PaysByCallback euroAround euroHmac Callbacks.stack euroSettings invoicedPlace euroBody
      invoicedOrder ∧
    ¬PaysByPolling euroAround euroSettings 50 invoicedPlace invoicedOrder ∧
    ¬paidInEuro.Genuine invoicedOrder invoicedPayment := by
  have hcurrency : ¬paidInEuro.InCurrency invoicedOrder.currency := by
    rintro ⟨text, htext, hupper⟩
    cases htext
    exact absurd hupper (by decide +kernel)
  refine ⟨euroBody_carries, fun _ _ => rfl, ?_, fun h => ?_, fun h => hcurrency h.currency⟩
  · exact (paysByCallback_iff invoiced_stored euroBody_carries).mpr
      ⟨paidInEuro_tested, by decide, rfl, rfl, "EUR", rfl, rfl⟩
  · exact hcurrency ((paysByPolling_iff invoiced_stored fun _ _ _ => rfl).mp h).2.currency

theorem callback_agrees_polling_invoiced :
    ((PaysByCallback euroAround euroHmac Callbacks.stack euroSettings invoicedPlace euroBody
          invoicedOrder ↔ PaysByPolling euroAround euroSettings 50 invoicedPlace invoicedOrder) ∧
      (PaysByCallback euroAround euroHmac Callbacks.stack euroSettings invoicedPlace euroBody
        invoicedOrder → paidInEuro.Genuine invoicedOrder invoicedPayment) ∧
      (PaysByPolling euroAround euroSettings 50 invoicedPlace invoicedOrder →
        paidInEuro.Genuine invoicedOrder invoicedPayment)) ↔
    (paidInEuro.Tested invoicedOrder invoicedPayment →
      (paidInEuro.CallbackOnly euroSettings ↔
        paidInEuro.PollingOnly invoicedOrder invoicedPayment euroAround euroSettings 50
          invoicedPlace)) :=
  callback_agrees_polling_iff invoiced_stored euroBody_carries fun _ _ _ => rfl

end ResellerBot
