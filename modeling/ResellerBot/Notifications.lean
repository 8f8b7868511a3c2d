import ResellerBot.Database.Session

/-!
# ResellerBot.Notifications — messages to chats (`app/notifications/service.py`)

The texts of the messages are left out: nothing depends on them.
-/

open Interact

namespace ResellerBot

/-- `NotificationService.send`: whether the message was delivered; a failure is only logged. -/
def notify (chat : ℤ) : Bot Bool := do
  match ← Act.attempt (sendMessage chat) with
  | .ok () => pure true
  | .error _ => pure false

def notifyOwners (ownerIds : List ℤ) : Bot Unit :=
  Act.forEach (fun owner => do let _ ← notify owner) ownerIds

/-- `NotificationService.once`: a delivered warning is recorded and not sent again. -/
def notifyOnce (chat : ℤ) (w : WarningEvent) : Bot Unit := do
  let sent : Bool ← query (.warning w)
  if sent then pure ()
  else do
    let delivered ← notify chat
    Act.when delivered (add (.insertWarning w))

end ResellerBot
