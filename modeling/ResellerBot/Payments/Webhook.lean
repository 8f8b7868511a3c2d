import ResellerBot.Database.Settings
import ResellerBot.Unicode

/-!
# ResellerBot.Payments.Webhook — the Plisio callback (`app/payments/webhook.py`)
-/

open Interact

namespace ResellerBot

/-- The body of a callback: `verified` is whether its hash is that of the other fields under the
configured secret.  The order number and the currency are errors where `str` fails on the value, and
the amount also where `Decimal` does not accept the text. -/
structure Callback where
  verified : Bool
  orderNumber : Except Err String
  txnId : Option String
  sourceCurrency : Except Err String
  sourceAmount : Except Err Decimal
  status : String

/-- The body of the response with status 200. -/
inductive CallbackReply
  | notPaid | idempotent | paid
  deriving DecidableEq, Repr

/-- `HTTPException`. -/
def httpError (code : ℕ) (detail : String) : Err := ⟨.http code, detail⟩

/-- The order is settled by a completed payment that it is waiting for. -/
def settleCallback (order : Order) (p : Callback) : Bot CallbackReply :=
  if p.status ≠ "completed" then pure .notPaid
  else if order.status = .PAID ∨ order.status = .APPLYING ∨ order.status = .APPLIED then
    pure .idempotent
  else if order.status ≠ .WAITING_PAYMENT then Act.raise (httpError 409 "invalid order state")
  else do
    Slot.order.assign fun o => { o with status := .PAID }
    let now ← now
    Slot.order.assign fun o => { o with paidAt := some now }
    Slot.payment.assign fun q => { q with plisioTxnId := p.txnId, status := "completed" }
    pure .paid

/-- The comparison of the callback with what was stored for the order. -/
def checkCallback (currency : String) (order : Order) (payment : Option Payment) (p : Callback) :
    Bot CallbackReply :=
  match payment.bind (·.plisioTxnId) with
  | none => Act.raise (httpError 400 "missing stored transaction")
  | some stored =>
    if stored = "" then Act.raise (httpError 400 "missing stored transaction")
    else if some stored ≠ p.txnId then Act.raise (httpError 400 "transaction mismatch")
    else do
      let text ← Act.outcome p.sourceCurrency
      if upper text ≠ upper currency then Act.raise (httpError 400 "currency mismatch")
      else do
        let amount ← Act.outcome p.sourceAmount
        let same ← Act.outcome (amount.eq order.amount)
        if same then settleCallback order p else Act.raise (httpError 400 "amount mismatch")

def callbackTransaction (currency number : String) (p : Callback) : Bot CallbackReply := do
  match ← Slot.order.load (query (.orderByNumber number)) with
  | none => Act.raise (httpError 404 "unknown order")
  | some order => do
    let payment ← Slot.payment.load (query (.payment order.id))
    checkCallback currency order payment p

def callback (cfg : Settings) (p : Callback) : Bot CallbackReply :=
  if ¬p.verified then Act.raise (httpError 400 "invalid signature")
  else do
    let number ← Act.outcome p.orderNumber
    match ← inTransaction (callbackTransaction cfg.plisioSourceCurrency number p) with
    | .paid => do
      ask .createTask
      pure .paid
    | reply => pure reply

end ResellerBot
