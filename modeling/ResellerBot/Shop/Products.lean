import ResellerBot.Shop.Models
import ResellerBot.Database.Statements
import ResellerBot.Rounding
import Mathlib.Data.List.Sort

/-!
# ResellerBot.Shop.Products — the owner's product operations

The dialogues of `app/bot/handlers/owner/console.py` with their parser and `rial_to_toman`
(`app/bot/ui/money.py`), and the commands of `app/bot/handlers/common.py`.
-/

open Interact

namespace ResellerBot

/-! ## Amounts -/

/-- `d <= 0`; a NaN refuses to be compared. -/
def Decimal.isNonpositive : Decimal → Except Err Bool
  | .finite q => .ok (q ≤ 0)
  | .infinity negative => .ok negative
  | .nan _ => .error invalidOperation

/-- The result of a division in the decimal context: 28 digits, at most a million places. -/
def Decimal.inContext (q : ℚ) : Except Err Decimal :=
  if q = 0 then .ok (.finite 0)
  else
    let rounded := Rounding.digits 10 28 q
    if 1000000 ≤ Int.log 10 |rounded| then .error ⟨.overflow, "[<class 'decimal.Overflow'>]"⟩
    else .ok (.finite rounded)

/-- `rial_to_toman`; `str(None)` is no number either. -/
def rialToToman (value : Option String) : Except Err Decimal :=
  match Decimal.ofText (value.getD "None") with
  | .error _ => .error (valueError "قیمت ریالی نامعتبر است.")
  | .ok (.nan _) => .error invalidOperation
  | .ok (.infinity true) => .error (valueError "قیمت باید یک عدد صحیح مثبت به ریال باشد.")
  | .ok (.infinity false) => .error ⟨.overflow, "cannot convert Infinity to integer"⟩
  | .ok (.finite rial) =>
    if rial ≤ 0 ∨ rial ≠ ⌊rial⌋ then
      .error (valueError "قیمت باید یک عدد صحیح مثبت به ریال باشد.")
    else if ⌊rial⌋ % 10 ≠ 0 then
      .error (valueError "قیمت ریالی باید بر 10 بخش‌پذیر باشد.")
    else Decimal.inContext (rial / 10)

/-! ## The parser of the console -/

def positiveNumber (msg : String) (text : String) : Except Err ℤ := do
  let n ← parseInt text
  if n ≤ 0 then .error (valueError msg) else .ok n

/-- `_parse_product` -/
def parseProduct (isalnum : Char → Bool) (field : ProductField) (text : String) :
    Except Err field.Value :=
  let value := stripped text
  match field with
  | .name =>
    if value = "" ∨ 100 < value.length then .error (valueError "مقدار معتبر نیست.") else .ok value
  | .slug =>
    let rest := value.toList.filter fun c => c ≠ '-' && c ≠ '_'
    if value = "" ∨ 100 < value.length ∨ ¬(rest ≠ [] ∧ rest.all isalnum) then
      .error (valueError "مقدار معتبر نیست.")
    else .ok value
  | .priceToman =>
    match Decimal.ofText value with
    | .error _ => .error (valueError "قیمت نامعتبر است.")
    | .ok price => do
      if ← price.isNonpositive then .error (valueError "قیمت باید مثبت باشد.") else .ok price
  | .trafficGb => positiveNumber "مقدار باید مثبت باشد." value
  | .durationDays => positiveNumber "مقدار باید مثبت باشد." value
  | .usersLimit =>
    if String.ofList (lower value.toList) ∈ ["none", "-", "نامحدود"] then .ok none
    else (positiveNumber "سقف باید مثبت یا نامحدود باشد." value).map some
  | .serviceIds => do
    let items ← (((splitText ',' value).map stripped).filter (· ≠ "")).mapM parseInt
    let parsed := items.dedup.insertionSort (· ≤ ·)
    if parsed = [] ∨ parsed.any (· < 0) then .error (valueError "شناسه سرویس نامعتبر است.")
    else .ok parsed

/-- The console reads prices in rial, the other fields as they are; a message may have no text. -/
def consoleValue (isalnum : Char → Bool) (field : ProductField) (text : Option String) :
    Except Err FieldValue :=
  if field = .priceToman then (rialToToman text).map (⟨.priceToman, ·⟩)
  else match text with
    | some text => (parseProduct isalnum field text).map (⟨field, ·⟩)
    | none => .error ⟨.attributeError, "'NoneType' object has no attribute 'strip'"⟩

/-! ## Rows -/

namespace Shop

variable (env : Platform) (w : Shop)

def getProduct (id : ℕ) : Option ProductRow := Rows.get (·.id) w.products id

/-- `session.add(product)` and the commit; the slug is unique. -/
def insertProduct (p : ProductRow) : Except Err Shop := do
  if w.products.any (·.slug = p.slug) then .error (integrityError "products.slug")
  else
    let price ← env.numeric 0 p.priceToman
    .ok { w with products := w.products ++
      [{ p with id := Rows.next (·.id) w.products, priceToman := price }] }

/-- What a column keeps of a value: a price goes through the column, a slug is unique. -/
def savedValue (id : ℕ) : FieldValue → Except Err FieldValue
  | ⟨.priceToman, d⟩ => (env.numeric 0 d).map (⟨.priceToman, ·⟩)
  | ⟨.slug, slug⟩ =>
    if w.products.any fun p => p.id ≠ id && p.slug = slug then
      .error (integrityError "products.slug")
    else .ok ⟨.slug, slug⟩
  | v => .ok v

/-- Assign a column of the row and commit. -/
def setProduct (id : ℕ) (v : FieldValue) : Except Err Shop :=
  (w.savedValue env id v).map fun v =>
    { w with products := Rows.set (·.id) w.products id (·.set v) }

/-- `product.enabled = …` and `product.deleted = …` -/
def switchProduct (id : ℕ) (f : ProductRow → Bool × Bool) : Shop :=
  { w with
    products := Rows.set (·.id) w.products id fun p =>
      { p with enabled := (f p).1, deleted := (f p).2 } }

end Shop

/-- A row before its columns are assigned: enabled and not deleted. -/
def ProductRow.blank : ProductRow :=
  { id := 0, name := "", serviceIds := [], durationDays := 0, trafficGb := 0, usersLimit := none,
    slug := "", priceToman := .finite 0, enabled := true, deleted := false }

def noneError : Err := ⟨.attributeError, "'NoneType' object has no attribute"⟩

/-! ## The console -/

section Console

variable (env : Platform) (ownerIds : List ℤ) (owner : ℤ) (panel : Except Err Unit) (w : Shop)

/-- `fsm_panel`: Telegram may refuse to edit the panel. -/
def fsmPanel (text : String) : Answer := panel.map fun _ => some text

/-- `fsm_panel`, and then `state.clear()`. -/
def closePanel (text : String) : Shop × Answer :=
  (match panel with
    | .ok () => w.clear owner
    | .error _ => w, fsmPanel panel text)

/-- The callback `product:add`. -/
def consoleProductAdd : Shop × Answer :=
  if owner ∈ ownerIds then
    (w.talk owner (.productCreate 0 []),
      fsmPanel panel (ProductField.name.label ++ " را بفرستید. /cancel برای لغو"))
  else (w, .ok (some "غیرمجاز"))

/-- The callback `product:edit:ID:FIELD`. -/
def consoleProductEdit (id : ℕ) (field : ProductField) : Shop × Answer :=
  if owner ∈ ownerIds then
    (w.talk owner (.productEdit id field),
      fsmPanel panel ("مقدار جدید " ++ field.label ++ " را بفرستید. /cancel برای لغو"))
  else (w, .ok (some "غیرمجاز"))

/-- A value that is refused: `ValueError` and `TypeError` are shown, others leave the handler. -/
def refuseValue (e : Err) : Answer :=
  if e.kind = .valueError ∨ e.kind = .typeError then
    fsmPanel panel ("❌ " ++ e.msg ++ "\n\nمقدار معتبر را دوباره بفرستید.")
  else .error e

/-- The values are complete: add the product. -/
def createProduct (values : List FieldValue) : Shop × Answer :=
  match w.insertProduct env (values.foldl ProductRow.set .blank) with
  | .ok w' => closePanel owner panel w' "✅ محصول ساخته شد."
  | .error e =>
    if e.kind = .integrity then closePanel owner panel w "❌ slug تکراری است."
    else (w, .error e)

/-- A message in `ProductCreate.value`; the dict of the values is the one that the FSM keeps. -/
def productCreateValue (text : Option String) : Shop × Answer :=
  if owner ∉ ownerIds then (w.clear owner, .ok none)
  else match w.dialogues owner with
    | some (.productCreate index values) =>
      if text = some "/cancel" then closePanel owner panel w "لغو شد."
      else match ProductField.all[index]? with
        | none => (w, .error ⟨.indexError, "tuple index out of range"⟩)
        | some field =>
          match consoleValue env.isalnum field text with
          | .error e => (w, refuseValue panel e)
          | .ok v =>
            match ProductField.all[index + 1]? with
            | some next => (w.talk owner (.productCreate (index + 1) (values ++ [v])),
                fsmPanel panel (next.label ++ " را بفرستید."))
            | none => createProduct env owner panel
                (w.talk owner (.productCreate index (values ++ [v]))) (values ++ [v])
    | _ => (w, .ok none)

/-- A message in `ProductEdit.value`. -/
def productEditValue (text : Option String) : Shop × Answer :=
  if owner ∉ ownerIds then (w.clear owner, .ok none)
  else match w.dialogues owner with
    | some (.productEdit id field) =>
      if text = some "/cancel" then closePanel owner panel w "لغو شد."
      else match consoleValue env.isalnum field text with
        | .error e => (w, refuseValue panel e)
        | .ok v =>
          if w.getProduct id = none then (w, .error noneError)
          else match w.setProduct env id v with
            | .ok w' => closePanel owner panel w' "✅ ویرایش شد."
            | .error e =>
              if e.kind = .integrity then
                (w, fsmPanel panel "❌ slug تکراری است؛ مقدار دیگری بفرستید.")
              else (w, .error e)
    | _ => (w, .ok none)

/-- The callback `product:toggle:ID`. -/
def productToggle (id : ℕ) : Shop × Answer :=
  if owner ∈ ownerIds then
    if w.getProduct id = none then (w, .error noneError)
    else (w.switchProduct id fun p => (!p.enabled, p.deleted), .ok (some "ذخیره شد"))
  else (w, .ok (some "غیرمجاز"))

/-- The callback `product:delete:ID`. -/
def consoleProductDelete (id : ℕ) : Shop × Answer :=
  if owner ∈ ownerIds then
    if w.getProduct id = none then (w, .error noneError)
    else (w.switchProduct id fun _ => (false, true), .ok (some "نرم‌حذف شد"))
  else (w, .ok (some "غیرمجاز"))

end Console

/-! ## The commands -/

section Commands

variable (env : Platform) (ownerIds : List ℤ) (owner : ℤ) (text : String) (w : Shop)

/-- The row that `/product_add slug|name|price|traffic_gb|days|service_ids|users_limit` makes. -/
def parseProductAdd : Except Err ProductRow :=
  match splitWords 1 text.toList with
  | [_, arguments] =>
    match splitText '|' arguments with
    | [slug, name, price, traffic, days, services, users] => do
      let price ← Decimal.ofText price
      let traffic ← parseInt traffic
      let days ← parseInt days
      let services ← parseInts services
      let users ← if users = "" then .ok none else (parseInt users).map some
      .ok { ProductRow.blank with
        slug := stripped slug, name := stripped name, priceToman := price, trafficGb := traffic,
        durationDays := days, serviceIds := services.map .int, usersLimit := users }
    | _ => .error (valueError "values to unpack")
  | _ => .error ⟨.indexError, "list index out of range"⟩

/-- `/product_add`: whatever goes wrong, the answer is the format of the command. -/
def productAdd : Shop × Answer :=
  if owner ∉ ownerIds then (w, .ok none)
  else match parseProductAdd text >>= w.insertProduct env with
    | .ok w' => (w', .ok (some "✅ محصول ساخته شد."))
    | .error _ =>
      (w, .ok (some "فرمت: /product_add slug|name|price|traffic_gb|days|service_ids|users_limit"))

/-- What `/product_edit` assigns: a value, or the switch `enabled`. -/
def parseEdit (field value : String) : Except Err (FieldValue ⊕ Bool) :=
  match field with
  | "service_ids" => (parseInts value).map fun ns => .inl ⟨.serviceIds, ns⟩
  | "traffic_gb" => (parseInt value).map fun n => .inl ⟨.trafficGb, n⟩
  | "duration_days" => (parseInt value).map fun n => .inl ⟨.durationDays, n⟩
  | "users_limit" => (parseInt value).map fun n => .inl ⟨.usersLimit, some n⟩
  | "price_toman" => (Decimal.ofText value).map fun d => .inl ⟨.priceToman, d⟩
  | "enabled" => .ok (.inr (String.ofList (lower value.toList) ∈ ["1", "true", "on"]))
  | "name" => .ok (.inl ⟨.name, value⟩)
  | _ => .error (valueError "")

/-- The key and the assignment of `/product_edit id field value`. -/
def parseProductEdit : Except Err (ℤ × (FieldValue ⊕ Bool)) :=
  match splitWords 3 text.toList with
  | [_, id, field, value] => do
    let edit ← parseEdit field value
    .ok (← parseInt id, edit)
  | _ => .error (valueError "values to unpack")

/-- `/product_edit` -/
def productEdit : Shop × Answer :=
  if owner ∉ ownerIds then (w, .ok none)
  else
    let edited : Except Err Shop := do
      let (id, edit) ← parseProductEdit text
      if id < 0 ∨ w.getProduct id.toNat = none then .error (valueError "")
      else match edit with
        | .inl v => w.setProduct env id.toNat v
        | .inr enabled => .ok (w.switchProduct id.toNat fun p => (enabled, p.deleted))
    match edited with
    | .ok w' => (w', .ok (some "✅ محصول ویرایش شد."))
    | .error _ => (w, .ok (some "فرمت: /product_edit id field value"))

/-- `/product_delete`: an unknown product is passed over. -/
def productDelete : Shop × Answer :=
  if owner ∉ ownerIds then (w, .ok none)
  else match (splitWords 2 text.toList)[1]?.map parseInt with
    | some (.ok id) =>
      (if 0 ≤ id then w.switchProduct id.toNat fun _ => (false, true) else w,
        .ok (some "✅ محصول به‌صورت نرم حذف شد."))
    | _ => (w, .ok (some "فرمت: /product_delete id"))

end Commands

end ResellerBot
