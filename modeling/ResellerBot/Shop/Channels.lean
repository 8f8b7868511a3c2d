import ResellerBot.Shop.Products

/-!
# ResellerBot.Shop.Channels — the owner's operations on required channels

The dialogues of `app/bot/handlers/owner/console.py` and the command of
`app/bot/handlers/common.py`.
-/

open Interact

namespace ResellerBot

namespace Shop

variable (w : Shop)

def getChannel (id : ℕ) : Option RequiredChannel := Rows.get RequiredChannel.id w.channels id

/-- `session.add(RequiredChannel(**values))` and the commit; the chat is unique. -/
def insertChannel (c : RequiredChannel) : Except Err Shop :=
  if w.channels.any (·.chatId = c.chatId) then .error (integrityError "required_channels.chat_id")
  else .ok { w with channels := w.channels ++
    [{ c with id := Rows.next RequiredChannel.id w.channels }] }

/-- Assign a column of the row and commit. -/
def setChannel (id : ℕ) (v : ChannelField × String) : Except Err Shop :=
  if v.1 = .chatId ∧ (w.channels.any fun c => c.id ≠ id && c.chatId = v.2) then
    .error (integrityError "required_channels.chat_id")
  else .ok { w with channels := Rows.set RequiredChannel.id w.channels id (·.set v) }

def switchChannel (id : ℕ) (f : RequiredChannel → Bool) : Shop :=
  { w with
    channels := Rows.set RequiredChannel.id w.channels id fun c => { c with enabled := f c } }

end Shop

def RequiredChannel.blank : RequiredChannel := ⟨0, "", "", "", true⟩

/-- A value of a channel: not empty, and a link where one is asked for. -/
def channelValue (field : ChannelField) (text : String) : Option String :=
  let value := stripped text
  if value = "" ∨ field = .joinUrl ∧ ¬("https://".toList.isPrefixOf value.toList ∨
      "http://".toList.isPrefixOf value.toList) then none
  else some value

section

variable (ownerIds : List ℤ) (owner : ℤ) (panel : Except Err Unit) (w : Shop)

/-- The callback `channel:add`. -/
def consoleChannelAdd : Shop × Answer :=
  if owner ∈ ownerIds then
    (w.talk owner (.channelCreate 0 []), fsmPanel panel "chat_id را بفرستید. /cancel برای لغو")
  else (w, .ok (some "غیرمجاز"))

/-- The values are complete: add the channel. -/
def createChannel (values : List (ChannelField × String)) : Shop × Answer :=
  match w.insertChannel (values.foldl RequiredChannel.set .blank) with
  | .ok w' => closePanel owner panel w' "✅ کانال افزوده شد."
  | .error _ => closePanel owner panel w "❌ chat_id تکراری است."

/-- A message in `ChannelCreate.value`. -/
def channelCreate (text : Option String) : Shop × Answer :=
  if owner ∉ ownerIds then (w.clear owner, .ok none)
  else match w.dialogues owner with
    | some (.channelCreate index values) =>
      if text = some "/cancel" then closePanel owner panel w "لغو شد."
      else match ChannelField.all[index]?, text with
        | none, _ => (w, .error ⟨.indexError, "tuple index out of range"⟩)
        | some _, none => (w, .error noneError)
        | some field, some text =>
          match channelValue field text with
          | none => (w, fsmPanel panel "❌ مقدار معتبر نیست.\n\nمقدار معتبر را دوباره بفرستید.")
          | some v =>
            match ChannelField.all[index + 1]? with
            | some next => (w.talk owner (.channelCreate (index + 1) (values ++ [(field, v)])),
                fsmPanel panel (next.label ++ " را بفرستید."))
            | none => createChannel owner panel
                (w.talk owner (.channelCreate index (values ++ [(field, v)])))
                (values ++ [(field, v)])
    | _ => (w, .ok none)

/-- The callback `channel:edit:ID:FIELD`. -/
def channelEdit (id : ℕ) (field : ChannelField) : Shop × Answer :=
  if owner ∈ ownerIds then
    (w.talk owner (.channelEdit id field), fsmPanel panel "مقدار جدید را بفرستید. /cancel برای لغو")
  else (w, .ok (some "غیرمجاز"))

/-- A message in `ChannelEdit.value`. -/
def channelEditValue (text : Option String) : Shop × Answer :=
  if owner ∉ ownerIds then (w.clear owner, .ok none)
  else match w.dialogues owner with
    | some (.channelEdit id field) =>
      if text = some "/cancel" then closePanel owner panel w "لغو شد."
      else match text with
        | none => (w, .error noneError)
        | some text =>
          match channelValue field text with
          | none => (w, fsmPanel panel "❌ مقدار معتبر نیست.\n\nمقدار معتبر را دوباره بفرستید.")
          | some v =>
            if w.getChannel id = none then (w, .error noneError)
            else match w.setChannel id (field, v) with
              | .ok w' => closePanel owner panel w' "✅ ویرایش شد."
              | .error _ => (w, fsmPanel panel "❌ chat_id تکراری است؛ مقدار دیگری بفرستید.")
    | _ => (w, .ok none)

/-- The callback `channel:toggle:ID`. -/
def channelToggle (id : ℕ) : Shop × Answer :=
  if owner ∈ ownerIds then
    if w.getChannel id = none then (w, .error noneError)
    else (w.switchChannel id fun c => !c.enabled, .ok (some "ذخیره شد"))
  else (w, .ok (some "غیرمجاز"))

/-- The callback `channel:remove:ID`. -/
def channelRemove (id : ℕ) : Shop × Answer :=
  if owner ∈ ownerIds then
    if w.getChannel id = none then (w, .error noneError)
    else (w.switchChannel id fun _ => false, .ok (some "غیرفعال شد"))
  else (w, .ok (some "غیرمجاز"))

/-- `/channel_add`: a chat that is there already is an error that leaves the handler. -/
def channelAdd (text : String) : Shop × Answer :=
  if owner ∉ ownerIds then (w, .ok none)
  else match splitWords 3 text.toList with
    | [_, chatId, joinUrl, title] =>
      match w.insertChannel ⟨0, chatId, joinUrl, title, true⟩ with
      | .ok w' => (w', .ok (some "✅ کانال افزوده شد."))
      | .error e => (w, .error e)
    | _ => (w, .ok (some "فرمت: /channel_add chat_id join_url title"))

end

end ResellerBot
