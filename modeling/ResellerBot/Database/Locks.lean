import ResellerBot.Database.Session

/-!
# ResellerBot.Database.Locks — advisory locks as rows (`app/database/locks.py`)
-/

open Interact

namespace ResellerBot

/-- The insert of the lock row: a row that is there already refuses the lock. -/
def insertLock (row : LifecycleLock) : Bot Bool := do
  add (.insertLock row)
  match ← Act.attempt flush with
  | .ok () => pure true
  | .error e =>
    if e.kind = .integrity then do
      rollback
      pure false
    else Act.raise e

def acquire (key : String) (ttlSeconds : ℤ) : Bot Bool := do
  let now ← now
  let _ ← execute (.deleteExpiredLock key now)
  let expiresAt ← Act.outcome (addTimedelta now (ttlSeconds * second))
  insertLock ⟨key, expiresAt⟩

def release (key : String) : Bot Unit := do
  let _ ← execute (.deleteLock key)

/-- `async with locked(session, key, ttl_seconds=…) as acquired`. -/
def locked (key : String) (ttlSeconds : ℤ) (body : Bool → Bot Unit) : Bot Unit := do
  let acquired ← acquire key ttlSeconds
  let r ← Act.attempt (body acquired)
  Act.when acquired (release key)
  Act.outcome r

end ResellerBot
