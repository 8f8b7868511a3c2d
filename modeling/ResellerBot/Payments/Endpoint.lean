import ResellerBot.Payments.Reading
import ResellerBot.Children.Panel

/-!
# ResellerBot.Payments.Endpoint — what any request to the callback endpoint does

The response to a request and the tables after it, against any database, and when the handler fails
with an exception that nobody handles.
-/

open Interact

namespace ResellerBot

/-! ## Messages -/

mutual

/-- Half of a surrogate pair is somewhere in the value, in a text or a key. -/
def Json.hasSurrogate : Json → Bool
  | .text s => s.any CodePoint.isSurrogate
  | .array items => hasSurrogateItems items
  | .object entries => hasSurrogateEntries entries
  | .null | .bool _ | .number _ _ _ => false

def hasSurrogateItems : List Json → Bool
  | [] => false
  | x :: xs => x.hasSurrogate || hasSurrogateItems xs

def hasSurrogateEntries : List (PyText × Json) → Bool
  | [] => false
  | (k, x) :: es => k.any CodePoint.isSurrogate || x.hasSurrogate || hasSurrogateEntries es

end

theorem any_pyText (s : String) : (pyText s).any CodePoint.isSurrogate = false := by
  rw [pyText, List.any_map, List.any_eq_false]
  rintro c - ⟨⟩

theorem any_escape (c : CodePoint) : (escape c).any CodePoint.isSurrogate = c.isSurrogate := by
  cases c with
  | surrogate n => rfl
  | char c =>
    rw [escape]
    split_ifs
    all_goals first | exact any_pyText _ | rfl

theorem any_quoted (s : PyText) :
    (quoted s).any CodePoint.isSurrogate = s.any CodePoint.isSurrogate := by
  have hflat : (s.flatMap escape).any CodePoint.isSurrogate = s.any CodePoint.isSurrogate := by
    induction s with
    | nil => rfl
    | cons c s ih => rw [List.flatMap_cons, List.any_append, any_escape, ih, List.any_cons]
  rw [quoted, List.any_append, List.any_append, any_pyText, hflat, Bool.false_or,
    Bool.or_false]

mutual

/-- The message shows every surrogate of the value. -/
theorem any_dumps (v : Json) : (dumps v).any CodePoint.isSurrogate = v.hasSurrogate := by
  cases v with
  | null => exact any_pyText _
  | bool b => exact any_pyText _
  | number shown dumped nonzero => exact any_pyText _
  | text s => exact any_quoted s
  | array items =>
    rw [dumps, List.any_append, List.any_append, any_pyText, any_pyText, any_dumpsItems,
      Bool.false_or, Bool.or_false]
    rfl
  | object entries =>
    rw [dumps, List.any_append, List.any_append, any_pyText, any_pyText, any_dumpsEntries,
      Bool.false_or, Bool.or_false]
    rfl

theorem any_dumpsItems (comma : Bool) (xs : List Json) :
    (dumpsItems comma xs).any CodePoint.isSurrogate = hasSurrogateItems xs := by
  cases xs with
  | nil => rfl
  | cons x xs =>
    rw [dumpsItems, List.any_append, List.any_append, any_pyText, any_dumps, any_dumpsItems,
      Bool.false_or, hasSurrogateItems]

theorem any_dumpsEntries (comma : Bool) (es : List (PyText × Json)) :
    (dumpsEntries comma es).any CodePoint.isSurrogate = hasSurrogateEntries es := by
  match es with
  | [] => rfl
  | (k, x) :: es =>
    rw [dumpsEntries, List.any_append, List.any_append, List.any_append, List.any_append,
      any_pyText, any_pyText, any_quoted, any_dumps, any_dumpsEntries, Bool.false_or,
      Bool.or_false, hasSurrogateEntries]

end

section Body

variable {sha1 : String → String → List (Fin 16)} {stack : Stack} {entries : List (PyText × Json)}
  {secret : String}

/-- The message can be written and encoded. -/
def Encodable (stack : Stack) (entries : List (PyText × Json)) : Prop :=
  (Json.object (unsigned entries)).depth ≤ stack.dumps ∧
    hasSurrogateEntries (unsigned entries) = false

/-- The signature can be computed and compared, if it comes to that. -/
def Comparable (stack : Stack) (entries : List (PyText × Json)) (secret : String) : Prop :=
  ∀ supplied, lookupJson entries "verify_hash" = some (.text supplied) → supplied ≠ [] →
    secret ≠ "" → Encodable stack entries ∧ supplied.all CodePoint.isAscii = true

theorem okIff_encodedMessage : OkIff (encodedMessage stack entries) (Encodable stack entries) := by
  have hany : (dumps (.object (unsigned entries))).any CodePoint.isSurrogate =
      hasSurrogateEntries (unsigned entries) :=
    any_dumps _
  unfold encodedMessage callbackMessage
  split_ifs with hdeep
  · exact .inr ⟨fun h => absurd h.1 (not_le.mpr hdeep), _, rfl, by rintro _ ⟨⟩⟩
  · show OkIff (encode _) _
    unfold encode
    rw [hany]
    split_ifs with hsurrogate
    · exact .inr ⟨fun h => absurd hsurrogate (by rw [h.2]; decide), _, rfl, by rintro _ ⟨⟩⟩
    · exact .inl ⟨⟨not_lt.mp hdeep, Bool.not_eq_true _ ▸ hsurrogate⟩, _, rfl⟩

theorem okIff_compareDigest (supplied : PyText) (digest : String) :
    OkIff (compareDigest supplied digest) (supplied.all CodePoint.isAscii = true) := by
  unfold compareDigest
  split_ifs with h
  · exact .inl ⟨h, _, rfl⟩
  · exact .inr ⟨h, _, rfl, by rintro _ ⟨⟩⟩

/-- `verify` answers, or it fails with an exception that is no response. -/
theorem okIff_verify :
    OkIff (verify sha1 stack entries secret) (Comparable stack entries secret) := by
  unfold verify
  split
  · next supplied hlookup =>
    have hcomparable : Comparable stack entries secret ↔ (supplied ≠ [] → secret ≠ "" →
        Encodable stack entries ∧ supplied.all CodePoint.isAscii = true) := by
      constructor
      · exact fun h => h supplied hlookup
      · intro h supplied' hlookup'
        obtain rfl : supplied = supplied' := by simpa [hlookup] using hlookup'
        exact h
    by_cases hempty : supplied = [] ∨ secret = ""
    · rw [if_pos hempty]
      refine .inl ⟨hcomparable.mpr fun hne hsecret => ?_, false, rfl⟩
      exact (hempty.elim hne hsecret).elim
    · rw [if_neg hempty]
      rw [not_or] at hempty
      refine OkIff.congr (OkIff.bind okIff_encodedMessage.map fun _ => okIff_compareDigest _ _) ?_
      rw [hcomparable]
      exact ⟨fun h _ _ => h, fun h => h hempty.1 hempty.2⟩
  · next hlookup =>
    refine .inl ⟨?_, false, rfl⟩
    intro supplied hlookup' _ _
    exact absurd hlookup' (hlookup supplied)

end Body

/-! ## The verdict on a callback -/

/-- The handler's answer once the order and the payment agree with the callback. -/
def settleVerdict (order : Order) (p : Callback) : Except Err CallbackReply :=
  if p.status ≠ "completed" then .ok .notPaid
  else if order.status = .PAID ∨ order.status = .APPLYING ∨ order.status = .APPLIED then
    .ok .idempotent
  else if order.status ≠ .WAITING_PAYMENT then .error (httpError 409 "invalid order state")
  else .ok .paid

def checkVerdict (currency : String) (order : Order) (payment : Option Payment) (p : Callback) :
    Except Err CallbackReply :=
  match payment.bind (·.plisioTxnId) with
  | none => .error (httpError 400 "missing stored transaction")
  | some stored =>
    if stored = "" then .error (httpError 400 "missing stored transaction")
    else if some stored ≠ p.txnId then .error (httpError 400 "transaction mismatch")
    else do
      let text ← p.sourceCurrency
      if upper text ≠ upper currency then .error (httpError 400 "currency mismatch")
      else do
        let amount ← p.sourceAmount
        let same ← amount.eq order.amount
        if same then settleVerdict order p else .error (httpError 400 "amount mismatch")

def findOrder (T : Tables) (number : String) : Option Order :=
  T.orders.find? (·.orderNumber = number)

def findPayment (T : Tables) (order : Order) : Option Payment :=
  T.payments.find? (·.orderId = order.id)

/-- The order as the handler leaves it when it is paid. -/
def Order.paid (now : Datetime) (o : Order) : Order :=
  { o with status := .PAID, paidAt := some now }

def Payment.completed (txnId : Option String) (q : Payment) : Payment :=
  { q with plisioTxnId := txnId, status := "completed" }

/-- The tables once the order is paid. -/
def paidTables (now : Datetime) (T : Tables) (p : Callback) (order : Order) (q : Payment) :
    Tables :=
  { T with
    orders := Rows.set Order.id T.orders order.id (order.update (order.paid now))
    payments := Rows.set Payment.orderId T.payments q.orderId (q.update (q.completed p.txnId)) }

section Runs

variable {ar : Around} {w : Place} {p : Callback} {order : Order} {payment : Option Payment}
  {currency number : String} {s : Session} {t : Txn}

/-- The session that has loaded the two rows. -/
def loadedRows (order : Order) (payment : Option Payment) : Session :=
  { Session.empty with
    order := some ⟨some order, order⟩
    payment := payment.map fun q => ⟨some q, q⟩ }

/-- The session in which they are paid. -/
def paidRows (now : Datetime) (order : Order) (payment : Option Payment) (p : Callback) : Session :=
  { Session.empty with
    order := some ⟨some order, order.paid now⟩
    payment := payment.map fun q => ⟨some q, q.completed p.txnId⟩ }

/-- The end of a handler with this verdict. -/
def verdictEnd (ar : Around) (order : Order) (payment : Option Payment) (p : Callback) (t : Txn) :
    Except Err CallbackReply → (Except Err CallbackReply × Session) × Txn
  | .ok .paid =>
    ((.ok .paid, paidRows (ar.clock t.ticks) order payment p), { t with ticks := t.ticks + 1 })
  | r => ((r, loadedRows order payment), t)

theorem run_settleCallback :
    Act.run ar.react (loadedRows order payment) t (settleCallback order p) =
      verdictEnd ar order payment p t (settleVerdict order p) := by
  unfold settleCallback settleVerdict
  by_cases hstatus : p.status ≠ "completed"
  · rw [if_pos hstatus, if_pos hstatus]
    rfl
  rw [if_neg hstatus, if_neg hstatus]
  by_cases hdone : order.status = .PAID ∨ order.status = .APPLYING ∨ order.status = .APPLIED
  · rw [if_pos hdone, if_pos hdone]
    rfl
  rw [if_neg hdone, if_neg hdone]
  by_cases hwaiting : order.status ≠ .WAITING_PAYMENT
  · rw [if_pos hwaiting, if_pos hwaiting]
    rfl
  · rw [if_neg hwaiting, if_neg hwaiting]
    cases payment <;> rfl

theorem run_checkCallback :
    Act.run ar.react (loadedRows order payment) t (checkCallback currency order payment p) =
      verdictEnd ar order payment p t (checkVerdict currency order payment p) := by
  unfold checkCallback checkVerdict
  cases payment.bind (·.plisioTxnId) with
  | none => rfl
  | some stored =>
    dsimp only
    by_cases hempty : stored = ""
    · rw [if_pos hempty, if_pos hempty]
      rfl
    rw [if_neg hempty, if_neg hempty]
    by_cases htxn : some stored ≠ p.txnId
    · rw [if_pos htxn, if_pos htxn]
      rfl
    rw [if_neg htxn, if_neg htxn]
    cases p.sourceCurrency with
    | error e => rfl
    | ok text =>
      rw [Act.run_bind_ok _ _ _ _ (Act.run_outcome ..)]
      show _ = verdictEnd ar order payment p t (if _ then _ else _)
      by_cases hcurrency : upper text ≠ upper currency
      · rw [if_pos hcurrency, if_pos hcurrency]
        rfl
      rw [if_neg hcurrency, if_neg hcurrency]
      cases p.sourceAmount with
      | error e => rfl
      | ok amount =>
        rw [Act.run_bind_ok _ _ _ _ (Act.run_outcome ..)]
        show _ = verdictEnd ar order payment p t (amount.eq order.amount >>= _)
        cases amount.eq order.amount with
        | error e => rfl
        | ok same =>
          rw [Act.run_bind_ok _ _ _ _ (Act.run_outcome ..)]
          cases same with
          | true => exact run_settleCallback
          | false => rfl

theorem ahead_loadedRows (order : Order) (payment : Option Payment) :
    Ahead (loadedRows order payment) w.enter w.tables := by
  have hstmts : (loadedRows order payment).unflushed = [] := by
    have horder : (loadedRows order payment).stmtsOf .order = [] := if_pos rfl
    have hpayment : (loadedRows order payment).stmtsOf .payment = [] := by
      cases payment with
      | none => rfl
      | some q => exact if_pos rfl
    rw [Session.unflushed, horder, hpayment]
    rfl
  exact ⟨rfl, by rw [hstmts]; rfl⟩

theorem run_loadOrder : Act.run ar.react Session.empty w.enter
      (query (.orderByNumber number)) =
    ((.ok (findOrder w.tables number), Session.empty), w.enter) :=
  (ahead_empty w).run_query _

theorem run_callbackTransaction (horder : findOrder w.tables number = some order) :
    Act.run ar.react Session.empty w.enter (callbackTransaction currency number p) =
      verdictEnd ar order (findPayment w.tables order) p w.enter
        (checkVerdict currency order (findPayment w.tables order) p) := by
  have hload : Act.run ar.react Session.empty w.enter (query (.orderByNumber number)) = _ :=
    run_loadOrder
  rw [horder] at hload
  have hquery : Act.run ar.react (loadedRows order none) w.enter (query (.payment order.id)) =
      ((.ok (findPayment w.tables order), loadedRows order none), w.enter) :=
    (ahead_loadedRows order none).run_query _
  have hpayment : Act.run ar.react (loadedRows order none) w.enter
      (Slot.payment.load (query (.payment order.id))) =
        ((.ok (findPayment w.tables order), loadedRows order (findPayment w.tables order)),
          w.enter) := by
    cases hfind : findPayment w.tables order with
    | none =>
      rw [hfind] at hquery
      exact run_load_none Slot.payment hquery
    | some q =>
      rw [hfind] at hquery
      exact run_load_some Slot.payment hquery
  rw [callbackTransaction, Act.run_bind_ok _ _ _ _ (run_load_some Slot.order hload)]
  show Act.run ar.react (loadedRows order none) w.enter (_ >>= _) = _
  rw [Act.run_bind_ok _ _ _ _ hpayment]
  exact run_checkCallback

theorem run_callbackTransaction_unknown (horder : findOrder w.tables number = none) :
    Act.run ar.react Session.empty w.enter (callbackTransaction currency number p) =
      ((.error (httpError 404 "unknown order"), Session.empty), w.enter) := by
  have hload : Act.run ar.react Session.empty w.enter (query (.orderByNumber number)) = _ :=
    run_loadOrder
  rw [horder] at hload
  rw [callbackTransaction, Act.run_bind_ok _ _ _ _ (run_load_none Slot.order hload)]
  rfl

/-- A session whose body has failed leaves the database as it was. -/
theorem run_inTransaction_error {α : Type} {m : Bot α} {e : Err}
    (h : Act.run ar.react Session.empty w.enter m = ((.error e, s), t)) :
    Act.run ar.react Session.empty w.enter (inTransaction m) =
      ((.error e, s.expire false), { t with working := t.committed }) := by
  have hm : Act.run ar.react Session.empty w.enter (m >>= fun a => do
      commit
      pure a) = ((.error e, s), t) := by
    rw [Act.run_bind, h]
  rw [inTransaction, inSession, Act.run_bind_ok _ _ _ _ (Act.run_modify ..), Act.run_bind,
    Act.run_attempt, hm]
  rfl

/-- What a callback must be for its order to become paid. -/
structure Settles (currency : String) (order : Order) (q : Payment) (p : Callback) : Prop where
  txn : ∃ stored, q.plisioTxnId = some stored ∧ stored ≠ "" ∧ p.txnId = some stored
  currency : ∃ text, p.sourceCurrency = .ok text ∧ upper text = upper currency
  amount : p.sourceAmount = .ok (.finite order.amount)
  completed : p.status = "completed"
  waiting : order.status = .WAITING_PAYMENT

theorem settleVerdict_paid (h : settleVerdict order p = .ok .paid) :
    p.status = "completed" ∧ order.status = .WAITING_PAYMENT := by
  unfold settleVerdict at h
  by_cases hstatus : p.status ≠ "completed"
  · rw [if_pos hstatus] at h
    cases h
  by_cases hdone : order.status = .PAID ∨ order.status = .APPLYING ∨ order.status = .APPLIED
  · rw [if_neg hstatus, if_pos hdone] at h
    cases h
  by_cases hwaiting : order.status ≠ .WAITING_PAYMENT
  · rw [if_neg hstatus, if_neg hdone, if_pos hwaiting] at h
    cases h
  · exact ⟨not_not.mp hstatus, not_not.mp hwaiting⟩

theorem checkVerdict_paid (h : checkVerdict currency order payment p = .ok .paid) :
    ∃ q, payment = some q ∧ Settles currency order q p := by
  unfold checkVerdict at h
  cases payment with
  | none => cases h
  | some q =>
    refine ⟨q, rfl, ?_⟩
    cases hstored : q.plisioTxnId with
    | none =>
      rw [Option.bind_some, hstored] at h
      cases h
    | some stored =>
      rw [Option.bind_some, hstored] at h
      dsimp only at h
      split_ifs at h with hempty htxn
      obtain ⟨text, htext, h⟩ := bind_eq_ok h
      split_ifs at h with hcurrency
      obtain ⟨amount, hamount, h⟩ := bind_eq_ok h
      obtain ⟨same, hsame, h⟩ := bind_eq_ok h
      split_ifs at h with htrue
      obtain ⟨hcompleted, hwaiting⟩ := settleVerdict_paid h
      rw [htrue] at hsame
      rw [Decimal.eq_ok_true.mp hsame] at hamount
      exact ⟨⟨stored, hstored, hempty, (not_not.mp htxn).symm⟩, ⟨text, htext, not_not.mp hcurrency⟩,
        hamount, hcompleted, hwaiting⟩

/-- The flush of the two rows. -/
theorem ahead_paidRows {q : Payment} {now : Datetime} {T : Tables} (ht : t.working = T)
    (horder : order ∈ T.orders) (hq : q ∈ T.payments) (hwaiting : order.status = .WAITING_PAYMENT) :
    Ahead (paidRows now order (some q) p) t (paidTables now T p order q) := by
  refine ⟨rfl, ?_⟩
  have hne : order ≠ order.paid now := by
    intro h
    have := congrArg Order.status h
    rw [hwaiting] at this
    cases this
  have hstmts : (paidRows now order (some q) p).unflushed =
      [.updateOrder order (order.paid now)] ++
        Slot.payment.stmts ⟨some q, q.completed p.txnId⟩ := by
    have ho : (paidRows now order (some q) p).stmtsOf .order =
        [.updateOrder order (order.paid now)] := if_neg hne
    rw [Session.unflushed, ho]
    show [] ++ [_] ++ [] ++ Slot.payment.stmts _ ++ [] ++ [] = _
    simp only [List.append_nil, List.nil_append]
  have hexec : Stmt.execAll T [.updateOrder order (order.paid now)] = .ok { T with
      orders := Rows.set Order.id T.orders order.id (order.update (order.paid now)) } := by
    rw [Stmt.execAll, Stmt.exec, if_pos (List.any_eq_true.mpr ⟨order, horder, by simp⟩)]
    rfl
  rw [hstmts, ht, Stmt.execAll_append hexec]
  by_cases hsame : q = q.completed p.txnId
  · have hnil : Slot.payment.stmts ⟨some q, q.completed p.txnId⟩ = [] := if_pos hsame
    have hset : Rows.set Payment.orderId T.payments q.orderId (q.update (q.completed p.txnId)) =
        T.payments := by
      rw [← hsame]
      have hid : q.update q = id := by
        funext row
        simp [Payment.update]
      rw [hid, Rows.set]
      simp
    rw [hnil, paidTables, hset]
    rfl
  · have hone : Slot.payment.stmts ⟨some q, q.completed p.txnId⟩ =
        [.updatePayment q (q.completed p.txnId)] := if_neg hsame
    rw [hone, Stmt.execAll, Stmt.exec, if_pos (List.any_eq_true.mpr ⟨q, hq, by simp⟩)]
    rfl

variable (ar) in
/-- The response to a request, and the world after it. -/
def responded (m : Bot CallbackReply) (w : Place) : Except Err CallbackReply × Place :=
  ((Act.run ar.react Session.empty w.enter m).1.1, ar.after m w)

/-- **What a callback with a valid signature does.** -/
theorem responded_callback {cfg : Settings} (hv : p.verified = true)
    (hnumber : p.orderNumber = .ok number) :
    (findOrder w.tables number = none ∧
      responded ar (callback cfg p) w = (.error (httpError 404 "unknown order"), w)) ∨
    ∃ order, findOrder w.tables number = some order ∧
      ((∃ q, findPayment w.tables order = some q ∧
          Settles cfg.plisioSourceCurrency order q p ∧
          responded ar (callback cfg p) w = (.ok .paid,
            ⟨paidTables (ar.clock w.ticks) w.tables p order q, w.panel, w.ticks + 1⟩)) ∨
        ∃ r, checkVerdict cfg.plisioSourceCurrency order (findPayment w.tables order) p = r ∧
          r ≠ .ok .paid ∧ responded ar (callback cfg p) w = (r, w)) := by
  have hcallback : ∀ {r : Except Err CallbackReply} {s t},
      Act.run ar.react Session.empty w.enter
        (inTransaction (callbackTransaction cfg.plisioSourceCurrency number p)) = ((r, s), t) →
      responded ar (callback cfg p) w = (r, t.leave) := by
    intro r s t h
    rw [responded, Around.after, callback, if_neg (by rw [hv]; decide), hnumber,
      Act.run_bind_ok _ _ _ _ (Act.run_outcome ..), Act.run_bind, h]
    rcases r with e | _ | _ | _ <;> rfl
  cases horder : findOrder w.tables number with
  | none =>
    left
    exact ⟨rfl, hcallback (run_inTransaction_error (run_callbackTransaction_unknown horder))⟩
  | some order =>
    right
    refine ⟨order, rfl, ?_⟩
    have hrun : Act.run ar.react Session.empty w.enter
      (callbackTransaction cfg.plisioSourceCurrency number p) = _ := run_callbackTransaction horder
    cases hverdict : checkVerdict cfg.plisioSourceCurrency order (findPayment w.tables order) p with
    | error e =>
      rw [hverdict] at hrun
      exact .inr ⟨_, rfl, by rintro ⟨⟩, hcallback (run_inTransaction_error hrun)⟩
    | ok reply =>
      rw [hverdict] at hrun
      cases reply with
      | paid =>
        left
        obtain ⟨q, hq, hsettles⟩ := checkVerdict_paid hverdict
        rw [hq] at hrun
        have hahead : Ahead (paidRows (ar.clock w.ticks) order (some q) p)
            { w.enter with ticks := w.ticks + 1 }
            (paidTables (ar.clock w.ticks) w.tables p order q) :=
          ahead_paidRows rfl (List.mem_of_find?_eq_some horder) (List.mem_of_find?_eq_some hq)
            hsettles.waiting
        exact ⟨q, hq, hsettles, hcallback (run_inTransaction_ok hrun hahead)⟩
      | notPaid | idempotent =>
        refine .inr ⟨_, rfl, by rintro ⟨⟩, ?_⟩
        have hahead : Ahead (loadedRows order (findPayment w.tables order)) w.enter w.tables :=
          ahead_loadedRows order _
        exact hcallback (run_inTransaction_ok hrun hahead)

/-- The order is found again, and it is paid. -/
theorem findOrder_paidTables {now : Datetime} {T : Tables} {q : Payment}
    (horder : findOrder T number = some order) :
    findOrder (paidTables now T p order q) number = some (order.paid now) := by
  have hsame : ((fun o : Order => decide (o.orderNumber = number)) ∘ fun o =>
      if o.id = order.id then order.update (order.paid now) o else o) =
        fun o => decide (o.orderNumber = number) := by
    funext o
    dsimp only [Function.comp_apply]
    split_ifs <;> rfl
  have hupdate : order.update (order.paid now) order = order.paid now := by
    simp [Order.update, Order.paid]
  show (Rows.set _ _ _ _).find? _ = _
  rw [Rows.set, List.find?_map, hsame]
  show (findOrder T number).map _ = _
  rw [horder, Option.map_some, if_pos rfl, hupdate]

theorem findPayment_paidTables {now : Datetime} {T : Tables} {q : Payment}
    (hq : findPayment T order = some q) :
    findPayment (paidTables now T p order q) (order.paid now) = some (q.completed p.txnId) := by
  have hsame : ((fun r : Payment => decide (r.orderId = order.id)) ∘ fun r =>
      if r.orderId = q.orderId then q.update (q.completed p.txnId) r else r) =
        fun r => decide (r.orderId = order.id) := by
    funext r
    dsimp only [Function.comp_apply]
    split_ifs <;> rfl
  have hupdate : q.update (q.completed p.txnId) q = q.completed p.txnId := by
    simp [Payment.update, Payment.completed]
  show (Rows.set _ _ _ _).find? _ = _
  rw [Rows.set, List.find?_map]
  show (List.find? ((fun r : Payment => decide (r.orderId = order.id)) ∘ _) _).map _ = _
  rw [hsame]
  show (findPayment T order).map _ = _
  rw [hq, Option.map_some, if_pos rfl, hupdate]

/-- All comparisons before the status are passed. -/
theorem checkVerdict_same (order : Order) {q : Payment} {stored text : String}
    (hstored : q.plisioTxnId = some stored) (hne : stored ≠ "") (htxn : p.txnId = some stored)
    (htext : p.sourceCurrency = .ok text) (hcurrency : upper text = upper currency)
    (hamount : p.sourceAmount = .ok (.finite order.amount)) :
    checkVerdict currency order (some q) p = settleVerdict order p := by
  have hsame : (Decimal.finite order.amount).eq order.amount = .ok true :=
    Decimal.eq_ok_true.mpr rfl
  have hbind : ∀ {α β : Type} (a : α) (f : α → Except Err β), (Except.ok a >>= f) = f a :=
    fun _ _ => rfl
  rw [checkVerdict, Option.bind_some, hstored]
  dsimp only
  rw [if_neg hne, if_neg (not_not.mpr htxn.symm), htext, hbind, if_neg (not_not.mpr hcurrency),
    hamount, hbind, hsame, hbind, if_pos rfl]

theorem checkVerdict_settles {q : Payment} (h : Settles currency order q p) :
    checkVerdict currency order (some q) p = .ok .paid := by
  obtain ⟨stored, hstored, hne, htxn⟩ := h.txn
  obtain ⟨text, htext, hcurrency⟩ := h.currency
  rw [checkVerdict_same order hstored hne htxn htext hcurrency h.amount, settleVerdict,
    if_neg (not_not.mpr h.completed), h.waiting, if_neg (by decide), if_neg (by decide)]

/-- A callback that has been accepted finds a paid order. -/
theorem checkVerdict_again {now : Datetime} {q : Payment} (h : Settles currency order q p) :
    checkVerdict currency (order.paid now) (some (q.completed p.txnId)) p = .ok .idempotent := by
  obtain ⟨stored, -, hne, htxn⟩ := h.txn
  obtain ⟨text, htext, hcurrency⟩ := h.currency
  rw [checkVerdict_same (order.paid now) htxn hne htxn htext hcurrency h.amount,
    settleVerdict, if_neg (not_not.mpr h.completed), if_pos (.inl rfl)]

/-! ## The responses -/

/-- A response that the handler means to give. -/
def Deliberate : Except Err CallbackReply → Prop
  | .ok _ => True
  | .error e => e.kind = .http 400 ∨ e.kind = .http 404 ∨ e.kind = .http 409

/-- All checks before are passed, and the currency cannot be shown, or the amount cannot be read or
compared. -/
def CheckFails (currency : String) (payment : Option Payment) (p : Callback) : Prop :=
  ∃ q stored, payment = some q ∧ q.plisioTxnId = some stored ∧ stored ≠ "" ∧
    p.txnId = some stored ∧ ((∃ e, p.sourceCurrency = .error e) ∨
      ∃ text, p.sourceCurrency = .ok text ∧ upper text = upper currency ∧
        ((∃ e, p.sourceAmount = .error e) ∨ p.sourceAmount = .ok (.nan true)))

theorem not_deliberate {e : Err} (h : e.Unhandled) : ¬Deliberate (.error e) := by
  rintro (he | he | he)
  · exact h 400 he
  · exact h 404 he
  · exact h 409 he

theorem deliberate_settleVerdict : Deliberate (settleVerdict order p) := by
  unfold settleVerdict
  split_ifs
  · trivial
  · trivial
  · exact .inr (.inr rfl)
  · trivial

/-- The comparison of the amounts. -/
theorem deliberate_amount_iff (hkind : ∀ e, p.sourceAmount = .error e → e.Unhandled) :
    Deliberate (p.sourceAmount >>= fun amount => amount.eq order.amount >>= fun same =>
      if same then settleVerdict order p else .error (httpError 400 "amount mismatch")) ↔
    ¬((∃ e, p.sourceAmount = .error e) ∨ p.sourceAmount = .ok (.nan true)) := by
  have hdecided : ∀ same : Bool, Deliberate
      (if same then settleVerdict order p else .error (httpError 400 "amount mismatch")) := by
    intro same
    cases same
    · exact .inl rfl
    · exact deliberate_settleVerdict
  cases hamount : p.sourceAmount with
  | error e =>
    exact iff_of_false (not_deliberate (hkind e hamount)) (not_not.mpr (.inl ⟨e, rfl⟩))
  | ok amount =>
    cases amount with
    | finite r => exact iff_of_true (hdecided _) (by simp)
    | infinity b => exact iff_of_true (hdecided false) (by simp)
    | nan signals =>
      cases signals with
      | false => exact iff_of_true (hdecided false) (by simp)
      | true =>
        exact iff_of_false (not_deliberate (e := invalidOperation) (by rintro _ ⟨⟩)) (by simp)

theorem deliberate_checkVerdict_iff
    (hcurrency : ∀ e, p.sourceCurrency = .error e → e.Unhandled)
    (hamount : ∀ e, p.sourceAmount = .error e → e.Unhandled) :
    Deliberate (checkVerdict currency order payment p) ↔ ¬CheckFails currency payment p := by
  have hbad : ∀ detail, Deliberate (.error (httpError 400 detail)) := fun _ => .inl rfl
  unfold checkVerdict
  cases hstored : payment.bind (·.plisioTxnId) with
  | none =>
    refine iff_of_true (hbad _) ?_
    rintro ⟨q, stored, rfl, hq, -⟩
    rw [Option.bind_some, hq] at hstored
    cases hstored
  | some stored =>
    obtain ⟨q, rfl, hq⟩ := Option.bind_eq_some_iff.mp hstored
    have hunique : ∀ {stored'}, q.plisioTxnId = some stored' → stored' = stored := fun h =>
      Option.some.inj (h.symm.trans hq)
    dsimp only
    by_cases hempty : stored = ""
    · rw [if_pos hempty]
      refine iff_of_true (hbad _) ?_
      rintro ⟨q', stored', heq, hq', hne, -⟩
      obtain rfl := Option.some.inj heq
      exact hne (hunique hq' ▸ hempty)
    rw [if_neg hempty]
    by_cases htxn : some stored ≠ p.txnId
    · rw [if_pos htxn]
      refine iff_of_true (hbad _) ?_
      rintro ⟨q', stored', heq, hq', -, htxn', -⟩
      obtain rfl := Option.some.inj heq
      exact htxn (hunique hq' ▸ htxn'.symm)
    rw [if_neg htxn]
    have hfails : CheckFails currency (some q) p ↔ ((∃ e, p.sourceCurrency = .error e) ∨
        ∃ text, p.sourceCurrency = .ok text ∧ upper text = upper currency ∧
          ((∃ e, p.sourceAmount = .error e) ∨ p.sourceAmount = .ok (.nan true))) := by
      constructor
      · rintro ⟨-, -, -, -, -, -, h⟩
        exact h
      · exact fun h => ⟨q, stored, rfl, hq, hempty, (not_not.mp htxn).symm, h⟩
    rw [hfails]
    cases htext : p.sourceCurrency with
    | error e =>
      exact iff_of_false (not_deliberate (hcurrency e htext)) (not_not.mpr (.inl ⟨e, rfl⟩))
    | ok text =>
      show Deliberate (if _ then _ else _) ↔ _
      by_cases hsame : upper text = upper currency
      · rw [if_neg (not_not.mpr hsame)]
        refine (deliberate_amount_iff hamount).trans (not_congr ?_)
        constructor
        · exact fun h => .inr ⟨text, rfl, hsame, h⟩
        · rintro (⟨e, he⟩ | ⟨text', -, -, h⟩)
          · cases he
          · exact h
      · rw [if_pos hsame]
        refine iff_of_true (hbad _) ?_
        rintro (⟨e, he⟩ | ⟨text', htext', h, -⟩)
        · cases he
        · cases htext'
          exact hsame h

/-! ## The values of a body -/

theorem unhandled_of_ofText {text : String} {e : Err} (h : Decimal.ofText text = .error e) :
    e.Unhandled := by
  have hplaces : ∀ {negative n m}, Decimal.ofPlaces negative n m = .error e → e.Unhandled := by
    intro negative n m h
    unfold Decimal.ofPlaces at h
    split at h
    · cases h
      rintro _ ⟨⟩
    · cases h
  unfold Decimal.ofText at h
  dsimp only at h
  split at h
  · cases h
  split at h
  · cases h
  split at h
  · cases h
  split at h
  · exact hplaces h
  · cases h
    rintro _ ⟨⟩

theorem unhandled_of_str {v : JsonValue} {e : Err} (h : v.str = .error e) : e.Unhandled := by
  cases v with
  | deep truthy =>
    cases h
    rintro _ ⟨⟩
  | _ => cases h

theorem unhandled_of_exactAmount {v : JsonValue} {e : Err} (h : exactAmount v = .error e) :
    e.Unhandled := by
  cases hstr : v.str with
  | error e' =>
    rw [exactAmount, hstr] at h
    cases h
    exact unhandled_of_str hstr
  | ok text =>
    rw [exactAmount, hstr] at h
    exact unhandled_of_ofText h

end Runs

section Requests

variable (ar : Around) (sha1 : String → String → List (Fin 16)) (stack : Stack)
  (cfg : Settings) (w : Place) (body : JsonSource)

/-- The values of a body whose hash has been verified. -/
def bodyCallback (entries : List (PyText × Json)) : Callback :=
  (bodyTransaction stack entries).callback

/-- The response to a body, and the world after it. -/
def posted : Except Err CallbackReply × Place :=
  responded ar (postCallback sha1 stack cfg body) w

/-- The body is signed and settles an order that waits for it. -/
def Accepts (entries : List (PyText × Json)) (order : Order) (q : Payment) : Prop :=
  verify sha1 stack entries cfg.plisioSecretKey = .ok true ∧
    (∃ number, (bodyCallback stack entries).orderNumber = .ok number ∧
      findOrder w.tables number = some order) ∧
    findPayment w.tables order = some q ∧
    Settles cfg.plisioSourceCurrency order q (bodyCallback stack entries)

/-- The handler answers what it means to, pays exactly the order of an accepted body, once, and
changes nothing else. -/
structure TotalClosed : Prop where
  deliberate : Deliberate (posted ar sha1 stack cfg w body).1
  closed : ((posted ar sha1 stack cfg w body).1 = .ok .paid ∧
      ∃ entries order q, body.loads stack.loads = .ok (.object entries) ∧
        Accepts sha1 stack cfg w entries order q ∧
        (posted ar sha1 stack cfg w body).2.tables =
          paidTables (ar.clock w.ticks) w.tables (bodyCallback stack entries) order q) ∨
    ((posted ar sha1 stack cfg w body).1 ≠ .ok .paid ∧
      (posted ar sha1 stack cfg w body).2.tables = w.tables)
  replayed : (posted ar sha1 stack cfg w body).1 = .ok .paid → ∀ n,
    ((fun w => (posted ar sha1 stack cfg w body).2)^[n]
      (posted ar sha1 stack cfg w body).2).tables = (posted ar sha1 stack cfg w body).2.tables

/-- The hash of the object can be compared, and once it is verified so can what it signs. -/
structure Answerable (entries : List (PyText × Json)) : Prop where
  comparable : Comparable stack entries cfg.plisioSecretKey
  number : verify sha1 stack entries cfg.plisioSecretKey = .ok true →
    ∃ number, (bodyCallback stack entries).orderNumber = .ok number
  check : verify sha1 stack entries cfg.plisioSecretKey = .ok true →
    ∀ number order, (bodyCallback stack entries).orderNumber = .ok number →
      findOrder w.tables number = some order →
        ¬CheckFails cfg.plisioSourceCurrency (findPayment w.tables order)
          (bodyCallback stack entries)

/-- The body can be read, and it is an object that can be answered. -/
structure Processable : Prop where
  shallow : body.depth ≤ stack.loads
  short : body.hasLongInt = false
  object : ∀ payload, body.loads stack.loads = .ok payload →
    ∃ entries, payload = .object entries ∧ Answerable sha1 stack cfg w entries

variable {ar sha1 stack cfg w body} {entries : List (PyText × Json)}

theorem posted_unread {e : Err} (h : body.loads stack.loads = .error e) :
    posted ar sha1 stack cfg w body = (.error e, w) := by
  rw [posted, responded, Around.after, postCallback, Act.run_bind, Act.run_outcome, h]
  rfl

theorem posted_read {payload : Json} (h : body.loads stack.loads = .ok payload) :
    posted ar sha1 stack cfg w body = responded ar (answerCallback sha1 stack cfg payload) w := by
  rw [posted, responded, Around.after, postCallback,
    Act.run_bind_ok _ _ _ _ ((Act.run_outcome ..).trans (by rw [h]))]
  rfl

theorem answered_unverified {r : Except Err Bool} {e : Err}
    (hv : verify sha1 stack entries cfg.plisioSecretKey = r)
    (hr : r = .error e ∨ r = .ok false ∧ e = httpError 400 "invalid signature") :
    responded ar (answerCallback sha1 stack cfg (.object entries)) w = (.error e, w) := by
  rw [responded, Around.after, answerCallback, Act.run_bind, Act.run_outcome, hv]
  obtain rfl | ⟨rfl, rfl⟩ := hr
  · rfl
  · rfl

theorem answered_verified (hv : verify sha1 stack entries cfg.plisioSecretKey = .ok true) :
    responded ar (answerCallback sha1 stack cfg (.object entries)) w =
      responded ar (callback cfg (bodyCallback stack entries)) w := by
  rw [responded, Around.after, answerCallback,
    Act.run_bind_ok _ _ _ _ ((Act.run_outcome ..).trans (by rw [hv]))]
  rfl

theorem responded_unnumbered {p : Callback} {e : Err} (hv : p.verified = true)
    (h : p.orderNumber = .error e) : responded ar (callback cfg p) w = (.error e, w) := by
  rw [responded, Around.after, callback, if_neg (by rw [hv]; decide), h, Act.run_bind,
    Act.run_outcome]
  rfl

/-- **An accepted body, once more, changes nothing.** -/
theorem posted_again {order : Order} {q : Payment}
    (hload : body.loads stack.loads = .ok (.object entries))
    (h : Accepts sha1 stack cfg w entries order q) {w' : Place}
    (hw' : w'.tables =
      paidTables (ar.clock w.ticks) w.tables (bodyCallback stack entries) order q) :
    posted ar sha1 stack cfg w' body = (.ok .idempotent, w') := by
  obtain ⟨hv, ⟨number, hnumber, horder⟩, hq, hsettles⟩ := h
  have horder' : findOrder w'.tables number = some (order.paid _) :=
    hw' ▸ findOrder_paidTables horder
  have hq' : findPayment w'.tables (order.paid _) = some (q.completed _) :=
    hw' ▸ findPayment_paidTables hq
  rw [posted_read hload, answered_verified hv]
  obtain ⟨hnone, -⟩ | ⟨order', hfound, hrest⟩ :=
    @responded_callback ar w' (bodyCallback stack entries) number cfg rfl hnumber
  · rw [hnone] at horder'
    cases horder'
  · obtain rfl : order' = order.paid _ := Option.some.inj (hfound.symm.trans horder')
    obtain ⟨q', -, hsettles', -⟩ | ⟨r, hr, -, hend⟩ := hrest
    · cases hsettles'.waiting
    · rw [hq', checkVerdict_again hsettles] at hr
      rw [hend, ← hr]

/-- What an accepted body does. -/
theorem posted_accepts {order : Order} {q : Payment}
    (hload : body.loads stack.loads = .ok (.object entries))
    (h : Accepts sha1 stack cfg w entries order q) :
    posted ar sha1 stack cfg w body = (.ok .paid,
      ⟨paidTables (ar.clock w.ticks) w.tables (bodyCallback stack entries) order q, w.panel,
        w.ticks + 1⟩) := by
  obtain ⟨hv, ⟨number, hnumber, horder⟩, hq, hsettles⟩ := h
  rw [posted_read hload, answered_verified hv]
  obtain ⟨hnone, -⟩ | ⟨order', hfound, hrest⟩ :=
    @responded_callback ar w (bodyCallback stack entries) number cfg rfl hnumber
  · rw [hnone] at horder
    cases horder
  · obtain rfl : order' = order := Option.some.inj (hfound.symm.trans horder)
    obtain ⟨q', hq', -, hend⟩ | ⟨r, hr, hne, -⟩ := hrest
    · obtain rfl : q' = q := Option.some.inj (hq'.symm.trans hq)
      exact hend
    · rw [hq, checkVerdict_settles hsettles] at hr
      exact absurd hr.symm hne

/-- The handler answers an object as it means to exactly if it can. -/
theorem deliberate_answered_iff :
    Deliberate (responded ar (answerCallback sha1 stack cfg (.object entries)) w).1 ↔
      Answerable sha1 stack cfg w entries := by
  obtain ⟨hcomparable, b, hb⟩ | ⟨hcomparable, e, he, hunhandled⟩ :=
    @okIff_verify sha1 stack entries cfg.plisioSecretKey
  · cases b with
    | false =>
      rw [answered_unverified hb (.inr ⟨rfl, rfl⟩)]
      have hno : verify sha1 stack entries cfg.plisioSecretKey ≠ .ok true := by
        rw [hb]
        rintro ⟨⟩
      exact iff_of_true (.inl rfl) ⟨hcomparable, fun h => absurd h hno, fun h => absurd h hno⟩
    | true =>
      rw [answered_verified hb]
      cases hnumber : (bodyCallback stack entries).orderNumber with
      | error e =>
        rw [responded_unnumbered rfl hnumber]
        refine iff_of_false (not_deliberate (unhandled_of_str hnumber)) fun h => ?_
        obtain ⟨number, hok⟩ := h.number hb
        rw [hnumber] at hok
        cases hok
      | ok number =>
        have hanswerable : Answerable sha1 stack cfg w entries ↔
            ∀ order, findOrder w.tables number = some order →
              ¬CheckFails cfg.plisioSourceCurrency (findPayment w.tables order)
                (bodyCallback stack entries) := by
          refine ⟨fun h order => h.check hb number order hnumber,
            fun h => ⟨hcomparable, fun _ => ⟨number, hnumber⟩, fun _ number' order hok => ?_⟩⟩
          obtain rfl : number = number' := Except.ok.inj (hnumber.symm.trans hok)
          exact h order
        rw [hanswerable]
        obtain ⟨hnone, hend⟩ | ⟨order, hfound, ⟨q, hq, hsettles, hend⟩ | ⟨r, hr, -, hend⟩⟩ :=
          @responded_callback ar w (bodyCallback stack entries) number cfg rfl hnumber
        · rw [hend]
          refine iff_of_true (.inr (.inl rfl)) fun order h => ?_
          rw [hnone] at h
          cases h
        · rw [hend]
          refine iff_of_true trivial fun order' h => ?_
          obtain ⟨text, htext, -⟩ := hsettles.currency
          rintro ⟨-, -, -, -, -, -, ⟨e, he⟩ | ⟨-, -, -, ⟨e, he⟩ | hnan⟩⟩
          · rw [htext] at he
            cases he
          · rw [hsettles.amount] at he
            cases he
          · rw [hsettles.amount] at hnan
            cases hnan
        · rw [hend]
          show Deliberate r ↔ _
          rw [← hr, deliberate_checkVerdict_iff (fun e he => unhandled_of_str he) fun e he =>
            unhandled_of_exactAmount he]
          constructor
          · intro h order' h'
            obtain rfl := Option.some.inj (hfound.symm.trans h')
            exact h
          · exact fun h => h order hfound
  · rw [answered_unverified he (.inl rfl)]
    exact iff_of_false (not_deliberate hunhandled) fun h => hcomparable h.comparable

/-- **The handler fails exactly on the requests that it cannot process.** -/
theorem deliberate_posted_iff :
    Deliberate (posted ar sha1 stack cfg w body).1 ↔ Processable sha1 stack cfg w body := by
  obtain ⟨⟨hshallow, hshort⟩, payload, hload⟩ | ⟨hunread, e, he, hunhandled⟩ :=
    body.okIff_loads stack.loads
  · have hprocessable : Processable sha1 stack cfg w body ↔
        ∃ entries, payload = .object entries ∧ Answerable sha1 stack cfg w entries := by
      refine ⟨fun h => h.object payload hload,
        fun h => ⟨hshallow, hshort, fun payload' hload' => ?_⟩⟩
      obtain rfl : payload = payload' := Except.ok.inj (hload.symm.trans hload')
      exact h
    rw [posted_read hload, hprocessable]
    cases payload with
    | object entries =>
      rw [deliberate_answered_iff]
      constructor
      · exact fun h => ⟨entries, rfl, h⟩
      · rintro ⟨entries', heq, h⟩
        exact Json.object.inj heq ▸ h
    | _ =>
      refine iff_of_false (not_deliberate (e := ⟨.attributeError, _⟩) (by rintro _ ⟨⟩)) ?_
      rintro ⟨entries, ⟨⟩, -⟩
  · rw [posted_unread he]
    exact iff_of_false (not_deliberate hunhandled) fun h => hunread ⟨h.shallow, h.short⟩

/-- **Whatever the request, either it is accepted and its order paid, or nothing is changed.** -/
theorem posted_cases : (∃ entries order q, body.loads stack.loads = .ok (.object entries) ∧
      Accepts sha1 stack cfg w entries order q ∧ posted ar sha1 stack cfg w body = (.ok .paid,
        ⟨paidTables (ar.clock w.ticks) w.tables (bodyCallback stack entries) order q, w.panel,
          w.ticks + 1⟩)) ∨
    ((posted ar sha1 stack cfg w body).1 ≠ .ok .paid ∧
      (posted ar sha1 stack cfg w body).2 = w) := by
  cases hload : body.loads stack.loads with
  | error e =>
    rw [posted_unread hload]
    exact .inr ⟨by rintro ⟨⟩, rfl⟩
  | ok payload =>
    rw [posted_read hload]
    cases payload with
    | object entries =>
      cases hv : verify sha1 stack entries cfg.plisioSecretKey with
      | error e =>
        rw [answered_unverified hv (.inl rfl)]
        exact .inr ⟨by rintro ⟨⟩, rfl⟩
      | ok b =>
        cases b with
        | false =>
          rw [answered_unverified hv (.inr ⟨rfl, rfl⟩)]
          exact .inr ⟨by rintro ⟨⟩, rfl⟩
        | true =>
          rw [answered_verified hv]
          cases hnumber : (bodyCallback stack entries).orderNumber with
          | error e =>
            rw [responded_unnumbered rfl hnumber]
            exact .inr ⟨by rintro ⟨⟩, rfl⟩
          | ok number =>
            obtain ⟨-, hend⟩ | ⟨order, hfound, ⟨q, hq, hsettles, hend⟩ | ⟨r, -, hne, hend⟩⟩ :=
              @responded_callback ar w (bodyCallback stack entries) number cfg rfl hnumber
            · rw [hend]
              exact .inr ⟨by rintro ⟨⟩, rfl⟩
            · exact .inl ⟨entries, order, q, rfl,
                ⟨hv, ⟨number, hnumber, hfound⟩, hq, hsettles⟩, hend⟩
            · rw [hend]
              exact .inr ⟨hne, rfl⟩
    | _ => exact .inr ⟨by rintro ⟨⟩, rfl⟩

/-- **The callback endpoint is total and fail-closed on a request if and only if it can process
it.** -/
theorem total_closed_iff (ar : Around) (sha1 : String → String → List (Fin 16)) (stack : Stack)
    (cfg : Settings) (w : Place) (body : JsonSource) :
    TotalClosed ar sha1 stack cfg w body ↔ Processable sha1 stack cfg w body := by
  have hdeliberate : Deliberate (posted ar sha1 stack cfg w body).1 ↔ _ := deliberate_posted_iff
  rw [← hdeliberate]
  refine ⟨TotalClosed.deliberate, fun h => ⟨h, ?_, ?_⟩⟩
  · obtain ⟨entries, order, q, hload, haccepts, hend⟩ | ⟨hne, hsame⟩ :=
      @posted_cases ar sha1 stack cfg w body
    · rw [hend]
      exact .inl ⟨rfl, entries, order, q, hload, haccepts, rfl⟩
    · rw [hsame]
      exact .inr ⟨hne, rfl⟩
  · intro hpaid n
    obtain ⟨entries, order, q, hload, haccepts, hend⟩ | ⟨hne, -⟩ :=
      @posted_cases ar sha1 stack cfg w body
    · have hfixed : (posted ar sha1 stack cfg (posted ar sha1 stack cfg w body).2 body).2 =
          (posted ar sha1 stack cfg w body).2 := by
        rw [posted_again hload haccepts (by rw [hend])]
      rw [Function.iterate_fixed hfixed]
    · exact absurd hpaid hne

end Requests

namespace Callbacks

def around : Around where
  clock _ := 0
  draw _ := 0
  token _ := ""
  deliver _ := .ok ()
  member _ := .ok ""
  transaction _ _ := .error ⟨.runtime, ""⟩

def settings : Settings :=
  ⟨"", [1], "", false, true, true, true, 24, 24, 1, [3, 1], [80, 95], true, "secret", "USD"⟩

def place : Place where
  tables := ⟨[], [], [], [], [], [], [], [], [], [], []⟩
  panel := { admins := fun _ => none, createdFor := fun _ => none, users := fun _ => none,
             names := [], bulk := false }
  ticks := 0

def stack : Stack := ⟨1000, 1000, fun _ => some ""⟩

/-- The handler fails on an array, and on a hash that is not ASCII. -/
theorem unhandled_requests :
    ¬TotalClosed around (fun _ _ => []) stack settings place (.array []) ∧
    ¬TotalClosed around (fun _ _ => []) stack settings place
      (.object [(pyText "verify_hash", .text (pyText "é"))]) := by
  constructor
  · intro h
    have herror : (posted around (fun _ _ => []) stack settings place (.array [])).1 =
        .error ⟨.attributeError, "object has no attribute 'get'"⟩ := rfl
    have := h.deliberate
    rw [herror] at this
    exact not_deliberate (e := ⟨.attributeError, _⟩) (by rintro _ ⟨⟩) this
  · intro h
    have hverify : verify (fun _ _ => []) stack [(pyText "verify_hash", .text (pyText "é"))]
        "secret" =
          .error (typeError "comparing strings with non-ASCII characters is not supported") := by
      decide +kernel
    have := h.deliberate
    rw [posted_read rfl, answered_unverified hverify (.inl rfl)] at this
    exact not_deliberate (e := ⟨.typeError, _⟩) (by rintro _ ⟨⟩) this

end Callbacks

end ResellerBot
