import ResellerBot.Database.Models

/-!
# ResellerBot.Shop.Models — what the shop keeps

The rows of `app/database/models.py` with the columns that the product and channel dialogues of the
owners and the purchase callbacks of the customers read or write, and the dialogues themselves.
-/

open Interact

namespace ResellerBot

/-- What the code takes from Python's Unicode tables, and what is read back from a `Numeric` column
of a scale: neither is in the repository. -/
structure Platform where
  isalnum : Char → Bool
  numeric (scale : ℕ) : Decimal → Except Err Decimal

/-- A row of `products`, with the columns that only the shop uses. -/
structure ProductRow extends Product where
  slug : String
  priceToman : Decimal
  enabled : Bool
  deleted : Bool
  deriving DecidableEq, Repr

structure RequiredChannel where
  id : ℕ
  chatId : String
  joinUrl : String
  title : String
  enabled : Bool
  deriving DecidableEq, Repr

/-- A row of `orders` as the purchase callbacks create it. -/
structure PlacedOrder where
  id : ℕ
  orderNumber : String
  resellerId : ℕ
  productId : ℕ
  amount : Decimal
  currency : String
  status : OrderStatus
  paymentMethod : PaymentMethod
  expiresAt : Datetime
  deriving DecidableEq, Repr

structure PlacedPayment where
  orderId : ℕ
  method : PaymentMethod
  status : String
  plisioTxnId : Option String
  invoiceUrl : Option String
  deriving DecidableEq, Repr

/-! ## Fields -/

/-- `PRODUCT_FIELDS` -/
inductive ProductField
  | name | slug | priceToman | trafficGb | durationDays | serviceIds | usersLimit
  deriving DecidableEq, Repr

namespace ProductField

def all : List ProductField :=
  [.name, .slug, .priceToman, .trafficGb, .durationDays, .serviceIds, .usersLimit]

/-- `PRODUCT_LABELS` -/
def label : ProductField → String
  | .name => "نام"
  | .slug => "شناسه"
  | .priceToman => "قیمت (ریال)"
  | .trafficGb => "حجم"
  | .durationDays => "مدت"
  | .serviceIds => "سرویس‌ها"
  | .usersLimit => "سقف کاربران"

abbrev Value : ProductField → Type
  | .name | .slug => String
  | .priceToman => Decimal
  | .trafficGb | .durationDays => ℤ
  | .serviceIds => List ℤ
  | .usersLimit => Option ℤ

theorem mem_all (f : ProductField) : f ∈ all := by
  cases f <;> decide

end ProductField

/-- A value for a column of a product. -/
structure FieldValue where
  field : ProductField
  value : field.Value

/-- `setattr(product, field, value)` -/
def ProductRow.set (p : ProductRow) : FieldValue → ProductRow
  | ⟨.name, v⟩ => { p with name := v }
  | ⟨.slug, v⟩ => { p with slug := v }
  | ⟨.priceToman, v⟩ => { p with priceToman := v }
  | ⟨.trafficGb, v⟩ => { p with trafficGb := v }
  | ⟨.durationDays, v⟩ => { p with durationDays := v }
  | ⟨.serviceIds, v⟩ => { p with serviceIds := v.map .int }
  | ⟨.usersLimit, v⟩ => { p with usersLimit := v }

inductive ChannelField
  | chatId | title | joinUrl
  deriving DecidableEq, Repr

namespace ChannelField

def all : List ChannelField := [.chatId, .title, .joinUrl]

/-- The name of the column, with which the dialogue asks for the next value. -/
def label : ChannelField → String
  | .chatId => "chat_id"
  | .title => "title"
  | .joinUrl => "join_url"

end ChannelField

def RequiredChannel.set (c : RequiredChannel) : ChannelField × String → RequiredChannel
  | (.chatId, v) => { c with chatId := v }
  | (.title, v) => { c with title := v }
  | (.joinUrl, v) => { c with joinUrl := v }

/-! ## The state -/

/-- What an owner is asked for: the state of the FSM with its data. -/
inductive Dialogue
  | productCreate (index : ℕ) (values : List FieldValue)
  | productEdit (id : ℕ) (field : ProductField)
  | channelCreate (index : ℕ) (values : List (ChannelField × String))
  | channelEdit (id : ℕ) (field : ChannelField)

/-- The tables, the dialogues of the owners, and what Telegram answers at the moment when it is
asked for the status of a user in a channel. -/
structure Shop where
  products : List ProductRow
  channels : List RequiredChannel
  resellers : List Reseller
  orders : List PlacedOrder
  payments : List PlacedPayment
  settings : List (String × SettingValue)
  dialogues : ℤ → Option Dialogue
  lookup : ℤ → String → Except Err String

namespace Shop

variable (w : Shop)

/-- `state.set_state` and `state.set_data` -/
def talk (owner : ℤ) (d : Dialogue) : Shop :=
  { w with dialogues := Function.update w.dialogues owner (some d) }

/-- `state.clear()` -/
def clear (owner : ℤ) : Shop :=
  { w with dialogues := Function.update w.dialogues owner none }

end Shop

end ResellerBot
