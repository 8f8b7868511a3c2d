import ResellerBot.System
import Mathlib.Data.Set.Insert

/-!
# ResellerBot.Contract.View — what a worker knows

A `View` collects what one thread has learnt from the answers to its requests since its session
last lost everything.  It is a function of the requests and the answers (`View.after`); whether what
it says is still true of the world is for each result about runs to decide.
-/

open Interact

namespace ResellerBot

/-! ## Changes of the status of an order -/

/-- The steps of a reconciliation. -/
def OrderStatus.Reconciled (a b : OrderStatus) : Prop :=
  (a = .PAID ∧ b = .APPLYING) ∨ (a = .PAID ∧ b = .APPLIED) ∨ (a = .APPLYING ∧ b = .APPLIED)

instance (a b : OrderStatus) : Decidable (a.Reconciled b) := by
  unfold OrderStatus.Reconciled; infer_instance

/-- Paid and not applied yet: what a reconciliation selects. -/
def Order.Open (o : Order) : Prop := o.status = .PAID ∨ o.status = .APPLYING

/-- The change records a target on the order. -/
def Order.Targets (old new : Order) : Prop := new.target ≠ none ∧ new.target ≠ old.target

instance (old new : Order) : Decidable (old.Targets new) := by
  unfold Order.Targets; infer_instance

/-- What has been done to order statuses in the open transaction: nothing, steps of a
reconciliation only, or something else as well. -/
inductive Phase
  | clean | reconciling | closed
  deriving DecidableEq

def Phase.after (p : Phase) (old new : OrderStatus) : Phase :=
  if old = new then p
  else if old.Reconciled new then (if p = .clean then .reconciling else p)
  else .closed

/-! ## Views -/

structure View where
  /-- The rows as last read or flushed. -/
  orders : ℕ → Option Order
  resellers : ℕ → Option Reseller
  trials : ℤ → Option TrialRecord
  /-- What `get_admin` has answered since the last call that changes admins. -/
  answers : Set (String × Option Admin)
  /-- Usernames that the table has been found not to have. -/
  freeReseller : Set String
  freeTrial : Set String
  /-- Orders whose target has been flushed and not committed. -/
  unsaved : Set ℕ
  phase : Phase
  /-- Whether there is an open write transaction. -/
  writing : Bool

namespace View

def start : View := ⟨fun _ => none, fun _ => none, fun _ => none, ∅, ∅, ∅, ∅, .clean, false⟩

variable (v : View)

def sawOrder (o : Order) : View := { v with orders := Function.update v.orders o.id (some o) }

def sawReseller (r : Reseller) : View :=
  { v with resellers := Function.update v.resellers r.id (some r) }

def sawTrial (t : TrialRecord) : View :=
  { v with trials := Function.update v.trials t.telegramId (some t) }

/-- The names that were found free may be taken now. -/
def named : View := { v with freeReseller := ∅, freeTrial := ∅ }

/-- A row that a query may have found. -/
def saw? {α : Type} (saw : View → α → View) (row : Option α) : View := row.elim v (saw v)

def lookedUpReseller (u : String) (taken : Bool) : View :=
  if taken then v else { v with freeReseller := insert u v.freeReseller }

def lookedUpTrial (u : String) (taken : Bool) : View :=
  if taken then v else { v with freeTrial := insert u v.freeTrial }

/-- The answer to a query. -/
def read : (q : Query) → q.Result → View
  | .order _, row | .orderByNumber _, row => v.saw? sawOrder row
  | .openOrders _, rows => List.foldl sawOrder v rows
  | .reseller _, row | .resellerByTelegram _, row => v.saw? sawReseller row
  | .resellers _, rows | .resellersNotSuspended _, rows => List.foldl sawReseller v rows
  | .trial _, row => v.saw? sawTrial row
  | .resellerByAdmin u, taken => v.lookedUpReseller u taken
  | .trialByAdmin u, taken => v.lookedUpTrial u taken
  | _, _ => v

/-- One statement of a flush. -/
def wrote : Stmt → View
  | .updateOrder old new =>
    { v with
      orders := Function.update v.orders old.id (some new)
      unsaved := if old.Targets new then insert old.id v.unsaved else v.unsaved
      phase := v.phase.after old.status new.status }
  | .updateReseller old new =>
    let v' := if old.rebeccaAdminUsername = new.rebeccaAdminUsername then v else v.named
    { v' with resellers := Function.update v.resellers old.id (some new) }
  | .updateTrial old new => v.sawTrial { old with status := new.status }
  | .insertTrial row => v.named.sawTrial row
  | _ => v

def wroteAll (v : View) : List Stmt → View
  | [] => v
  | st :: sts => wroteAll (v.wrote st) sts

def begun : View := { v with writing := true }

/-- A flush of nothing is none. -/
def afterFlush : List Stmt → View
  | [] => v
  | st :: sts => (v.wroteAll (st :: sts)).begun

def flushed (sts : List Stmt) : Except Err Unit → View
  | .ok () => (v.wroteAll sts).begun
  | .error _ => start

def executed (st : Stmt) : Except Err ℕ → View
  | .ok _ =>
    match st with
    | .claimOrder _ _ _ => { v.begun with orders := fun _ => none, phase := .closed }
    | _ => v.begun
  | .error _ => v

def saved : View := { v with unsaved := ∅, phase := .clean, writing := false }

def committed : Except Err Unit → View
  | .ok () => v.saved
  | .error _ => start

def queried (q : Query) : Except Err q.Result → View
  | .ok r => v.read q r
  | .error _ => v

/-- The answer of a `get_admin`. -/
def answered (username : Option String) (live : Option Admin) : View :=
  match username with
  | some u => { v with answers := insert (u, live) v.answers }
  | none => v

/-- After a call that changes admins the earlier answers are out of date. -/
def outdated : View := { v with answers := ∅ }

def called : (c : Call) → Except Err c.Result → View
  | .getAdmin username, .ok live => v.answered username live
  | .createResellerAdmin _ _, _ | .updateAdmin _ _, _ | .enableAdmin _, _ | .disableAdmin _, _ =>
    v.outdated
  | _, _ => v

/-- What a thread knows after a request. -/
def after : (e : Ev) → Resp e → View
  | .query q, r => v.queried q r
  | .flush sts, r => v.flushed sts r
  | .execute st, r => v.executed st r
  | .commit, r => v.committed r
  | .rollback, _ => start
  | .call _ c, r => v.called c r
  | _, _ => v

end View

/-! ## Answers that can occur -/

/-- What the rows that a query returns have in common; `sells` is what is known of products. -/
def Query.Fits (sells : Product → Prop) : (q : Query) → q.Result → Prop
  | .order id, row => ∀ o ∈ row, o.id = id
  | .openOrders _, rows => (List.map Order.id rows).Nodup ∧ ∀ o ∈ rows, o.Open
  | .reseller id, row => ∀ r ∈ row, r.id = id
  | .resellerByTelegram tg, row => ∀ r ∈ row, r.telegramId = tg
  | .product id, row => ∀ p ∈ row, p.id = id ∧ sells p
  | .trial tg, row => ∀ t ∈ row, t.telegramId = tg
  | .waitingPlisio _, rows => ∀ x ∈ rows, x.1.status = .WAITING_PAYMENT
  | _, _ => True

def queryFits (sells : Product → Prop) (q : Query) : Except Err q.Result → Prop
  | .ok r => q.Fits sells r
  | .error _ => True

/-- A read returns the admin that was asked for. -/
def callFits : (c : Call) → Except Err c.Result → Prop
  | .getAdmin username, .ok live => ∀ a ∈ live, username = some a.username
  | _, _ => True

def Answered (sells : Product → Prop) : (e : Ev) → Resp e → Prop
  | .query q, r => queryFits sells q r
  | .call _ c, r => callFits c r
  | _, _ => True

end ResellerBot
