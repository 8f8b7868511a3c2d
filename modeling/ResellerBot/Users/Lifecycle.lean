import ResellerBot.Database.Session
import ResellerBot.Reseller.Quota

/-!
# ResellerBot.Users.Lifecycle — owned users and their deletion (`app/users`)
-/

open Interact

namespace ResellerBot

def verifiedOwner (user : User) (adminUsername : Option String) : Bool :=
  truthy user.adminUsername && user.adminUsername = adminUsername

theorem verifiedOwner_iff {user : User} {adminUsername : Option String} :
    verifiedOwner user adminUsername = true ↔
      ∃ name, name ≠ "" ∧ user.adminUsername = some name ∧ adminUsername = some name := by
  unfold verifiedOwner truthy
  cases user.adminUsername with
  | none => simp
  | some name =>
    simp only [Bool.and_eq_true, decide_eq_true_eq, Option.some.injEq]
    constructor
    · rintro ⟨h, rfl⟩
      exact ⟨name, h, rfl, rfl⟩
    · rintro ⟨_, h, rfl, rfl⟩
      exact ⟨h, rfl⟩

structure DeletePolicy where
  dryRun : Bool
  destructiveActions : Bool
  allowDeleteActions : Bool

def deletionTime (detected : Datetime) (hours : ℤ) : Except Err Datetime := addHours detected hours

/-- The outcome of `safe_delete`. -/
inductive DeleteResult
  | HELD | NOT_DUE | WOULD_DELETE_USER | DELETE_DISABLED | LOCKED | ALREADY_MISSING
  | OWNERSHIP_MISMATCH | RENEWED | DELETED
  deriving DecidableEq, Repr

def DeleteResult.text : DeleteResult → String
  | .HELD => "HELD"
  | .NOT_DUE => "NOT_DUE"
  | .WOULD_DELETE_USER => "WOULD_DELETE_USER"
  | .DELETE_DISABLED => "DELETE_DISABLED"
  | .LOCKED => "LOCKED"
  | .ALREADY_MISSING => "ALREADY_MISSING"
  | .OWNERSHIP_MISMATCH => "OWNERSHIP_MISMATCH"
  | .RENEWED => "RENEWED"
  | .DELETED => "DELETED"

/-- The tests of `safe_delete` before its live read; the clock has a time zone. -/
def deleteRefused (deleteAfter : Stamp) (now : Datetime) (policy : DeletePolicy)
    (hold locked : Bool) : Except Err (Option DeleteResult) :=
  if hold then .ok (some .HELD)
  else do
    let early ← (Stamp.aware now).lt deleteAfter
    pure (
      if early then some .NOT_DUE
      else if policy.dryRun then some .WOULD_DELETE_USER
      else if ¬policy.destructiveActions ∨ ¬policy.allowDeleteActions then some .DELETE_DISABLED
      else if locked then some .LOCKED
      else none)

theorem deleteRefused_none_iff {deleteAfter : Stamp} {now : Datetime} {policy : DeletePolicy}
    {hold locked : Bool} : deleteRefused deleteAfter now policy hold locked = .ok none ↔
      hold = false ∧ (∃ t, deleteAfter = .aware t ∧ t ≤ now) ∧ policy.dryRun = false ∧
        policy.destructiveActions = true ∧ policy.allowDeleteActions = true ∧ locked = false := by
  cases hold with
  | true => simp [deleteRefused]
  | false =>
    cases deleteAfter with
    | naive t => simp [deleteRefused, Stamp.lt, bind, Except.bind]
    | aware t =>
      obtain ⟨dryRun, destructive, allow⟩ := policy
      by_cases hlt : now < t
      · simp [deleteRefused, Stamp.lt, hlt, bind, Except.bind, pure, Except.pure]
      · cases dryRun <;> cases destructive <;> cases allow <;> cases locked <;>
          simp [deleteRefused, Stamp.lt, hlt, not_lt.mp hlt, bind, Except.bind, pure, Except.pure]

/-- The results that come before any call. -/
def DeleteResult.isRefusal : DeleteResult → Bool
  | .HELD | .NOT_DUE | .WOULD_DELETE_USER | .DELETE_DISABLED | .LOCKED => true
  | _ => false

theorem isRefusal_of_deleteRefused {deleteAfter : Stamp} {now : Datetime} {policy : DeletePolicy}
    {hold locked : Bool} {r : DeleteResult}
    (h : deleteRefused deleteAfter now policy hold locked = .ok (some r)) : r.isRefusal = true := by
  unfold deleteRefused at h
  by_cases hheld : hold = true
  · rw [if_pos hheld] at h
    cases h
    rfl
  · rw [if_neg hheld] at h
    obtain ⟨early, -, h⟩ := bind_eq_ok h
    have h := Except.ok.inj h
    split_ifs at h <;> cases h <;> rfl

/-- The final authoritative read decides; an outage propagates. -/
def safeDelete (username owner : String) (deleteAfter : Stamp) (now : Datetime)
    (policy : DeletePolicy) (hold locked : Bool) : Bot DeleteResult := do
  match ← Act.outcome (deleteRefused deleteAfter now policy hold locked) with
  | some result => pure result
  | none => do
    match ← call .user (.getUser username) with
    | none => pure .ALREADY_MISSING
    | some live =>
      if ¬verifiedOwner live (some owner) then pure .OWNERSHIP_MISMATCH
      else if ¬exhausted live.expire live.dataLimit live.usedTraffic now then pure .RENEWED
      else do
        call .user (.deleteUser username)
        match ← call .user (.getUser username) with
        | none => pure .DELETED
        | some _ => Act.raise ⟨.verification, "delete not confirmed by not-found"⟩

end ResellerBot
