import ResellerBot.Payments.Webhook
import ResellerBot.Scheduler.Orders

/-!
# ResellerBot.Payments.Plisio — the values of a Plisio transaction (`app/payments/plisio.py`)

The callback and the operations API carry the same five values in two shapes; a value may be
missing.  A JSON value is a text or something that `str` renders, unless it is nested too deep.
-/

open Interact

namespace ResellerBot

inductive JsonValue
  | text (s : String)
  | other (rendered : String) (truthy : Bool)
  /-- Arrays and objects in one another, beyond what `repr` can follow. -/
  | deep (truthy : Bool)
  deriving DecidableEq, Repr

namespace JsonValue

/-- `str(value)`. -/
def str : JsonValue → Except Err String
  | .text s => .ok s
  | .other rendered _ => .ok rendered
  | .deep _ => .error recursionError

/-- `bool(value)`. -/
def truthy : JsonValue → Bool
  | .text s => s ≠ ""
  | .other _ b | .deep b => b

/-- The text that a text is equal to. -/
def text? : JsonValue → Option String
  | .text s => some s
  | .other _ _ | .deep _ => none

end JsonValue

/-- `exact_amount`. -/
def exactAmount (value : JsonValue) : Except Err Decimal := do Decimal.ofText (← value.str)

/-- The values that both shapes carry. -/
structure Transaction where
  id : Option JsonValue
  orderNumber : Option JsonValue
  sourceCurrency : Option JsonValue
  sourceAmount : Option JsonValue
  status : Option JsonValue
  deriving DecidableEq, Repr

namespace Transaction

variable (x : Transaction)

/-- `str(payload.get("order_number", ""))`. -/
def orderNumberText : Except Err String := (x.orderNumber.getD (.text "")).str

/-- `str(payload.get("source_currency", ""))`. -/
def currencyText : Except Err String := (x.sourceCurrency.getD (.text "")).str

/-- `exact_amount(payload.get("source_amount", "-1"))`. -/
def amount : Except Err Decimal := exactAmount (x.sourceAmount.getD (.text "-1"))

/-- How the handler reads a body with these values and a valid hash: the transaction id and the
status are compared as they are. -/
def callback : Callback where
  verified := true
  orderNumber := x.orderNumberText
  txnId := x.id.bind JsonValue.text?
  sourceCurrency := x.currencyText
  sourceAmount := x.amount
  status := (x.status.bind JsonValue.text?).getD ""

/-- `normalize_operation` of an operation whose `params` is an object. -/
def normalizeOperation : Except Err Operation :=
  match x.id with
  | none => .error (valueError "invalid Plisio operation response")
  | some id =>
    if ¬id.truthy then .error (valueError "invalid Plisio operation response")
    else do
      let id ← id.str
      let status ← (x.status.getD (.text "")).str
      let number ← x.orderNumberText
      let amount ← x.amount
      let currency ← x.currencyText
      pure {
        id := id
        status := status
        orderNumber := number
        sourceAmount := amount
        sourceCurrency := upper currency }

end Transaction

end ResellerBot
