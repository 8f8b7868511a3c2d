import ResellerBot.Interact
import ResellerBot.Rebecca.Client
import ResellerBot.Database.Statements

/-!
# ResellerBot.Database.Session — what the bot asks of the world, and the ORM session it works in

Every `await` of the code that leaves the process is a request (`Ev`).  The ORM session is private
state: the objects it holds, each as it was last read or flushed and as the code has left it, and
what has been added and not flushed.  A flush happens before every query and statement and in every
commit (autoflush); a commit expires nothing (`expire_on_commit=False`), a rollback everything.
-/

open Interact

namespace ResellerBot

/-- Ghost annotation of a call: for whom the code makes it, with the copies of the rows and the
live admin that it holds. -/
inductive Cause
  | lookup
  | renewal (order : Order) (reseller : Reseller) (live : Admin)
  | provisioning (order : Order) (reseller : Reseller)
  | trial (telegramId : ℤ)
  | owner (resellerId : ℕ)
  | sync (reseller : Reseller)
  | user

/-- What `PlisioClient.transaction` returns, normalized. -/
structure Operation where
  id : String
  status : String
  orderNumber : String
  sourceAmount : Decimal
  sourceCurrency : String
  deriving DecidableEq, Repr

inductive Ev
  | query (q : Query)
  | flush (sts : List Stmt)
  | execute (st : Stmt)
  | commit
  | rollback
  | now
  | randbelow (n : ℕ)
  | token (forbidden : List String)
  | call (why : Cause) (c : Call)
  | send (chat : ℤ)
  | chatMember (channel : String) (user : ℤ)
  | transaction (txn : String)
  | lock (orderId : ℕ)
  | unlock (orderId : ℕ)
  | createTask

abbrev Resp : Ev → Type
  | .query q => Except Err q.Result
  | .flush _ | .commit => Except Err Unit
  | .execute _ => Except Err ℕ
  | .now => Datetime
  | .randbelow _ => ℕ
  | .token _ => String
  | .call _ c => Except Err c.Result
  | .send _ => Except Err Unit
  | .chatMember _ _ => Except Err String
  | .transaction _ => Except Err Operation
  | .rollback | .lock _ | .unlock _ | .createTask => Unit

/-- An ORM object: the row as last read or flushed (`none`: not inserted yet), and as it is now. -/
structure Obj (α : Type) where
  db : Option α
  cur : α

/-- The session with the objects that the code has in its variables. -/
structure Session where
  order : Option (Obj Order)
  reseller : Option (Obj Reseller)
  product : Option (Obj Product)
  payment : Option (Obj Payment)
  trial : Option (Obj TrialRecord)
  user : Option (Obj ResellerUserCache)
  /-- Added objects and modified ones that the code no longer holds. -/
  pending : List Stmt
  /-- A flush or commit has failed: nothing works before the next rollback. -/
  broken : Bool
  /-- How many times everything loaded so far has been expired. -/
  epoch : ℕ

def Session.empty : Session := ⟨none, none, none, none, none, none, [], false, 0⟩

/-- Expire all objects and forget what was added. -/
def Session.expire (s : Session) (broken : Bool) : Session :=
  ⟨none, none, none, none, none, none, [], broken, s.epoch + 1⟩

abbrev Bot := Act Ev Resp Session Err

def ask (e : Ev) : Bot (Resp e) := Act.request e

/-- A variable of the code that holds ORM objects of one class, and the statements that flush it. -/
structure Slot (α : Type) where
  get : Session → Option (Obj α)
  put : Session → Option (Obj α) → Session
  stmts : Obj α → List Stmt

/-- The flush of a modified object. -/
def updated {α : Type} [DecidableEq α] (update : α → α → Stmt) (insert : α → List Stmt)
    (ob : Obj α) : List Stmt :=
  match ob.db with
  | some db => if db = ob.cur then [] else [update db ob.cur]
  | none => insert ob.cur

theorem mem_updated {α : Type} [DecidableEq α] {update : α → α → Stmt} {insert : α → List Stmt}
    {ob : Obj α} {st : Stmt} (h : st ∈ updated update insert ob) :
    (∃ db, ob.db = some db ∧ st = update db ob.cur) ∨ (ob.db = none ∧ st ∈ insert ob.cur) := by
  unfold updated at h
  cases hdb : ob.db with
  | none =>
    rw [hdb] at h
    exact .inr ⟨rfl, h⟩
  | some db =>
    rw [hdb] at h
    dsimp only at h
    split_ifs at h
    · cases h
    · exact .inl ⟨db, rfl, List.mem_singleton.mp h⟩

namespace Slot

def order : Slot Order where
  get s := s.order
  put s ob := { s with order := ob }
  stmts := updated .updateOrder fun _ => []

def reseller : Slot Reseller where
  get s := s.reseller
  put s ob := { s with reseller := ob }
  stmts := updated .updateReseller fun r => [.insertReseller r]

def product : Slot Product where
  get s := s.product
  put s ob := { s with product := ob }
  stmts _ := []

def payment : Slot Payment where
  get s := s.payment
  put s ob := { s with payment := ob }
  stmts := updated .updatePayment fun _ => []

def trial : Slot TrialRecord where
  get s := s.trial
  put s ob := { s with trial := ob }
  stmts := updated .updateTrial fun r => [.insertTrial r]

def user : Slot ResellerUserCache where
  get s := s.user
  put s ob := { s with user := ob }
  stmts := updated .updateUser fun u => [.insertUser u]

end Slot

namespace Session

def stmtsOf {α : Type} (sl : Slot α) (s : Session) : List Stmt :=
  ((sl.get s).map sl.stmts).getD []

/-- What a flush would write. -/
def unflushed (s : Session) : List Stmt :=
  s.pending ++ s.stmtsOf .order ++ s.stmtsOf .reseller ++ s.stmtsOf .payment ++ s.stmtsOf .trial ++
    s.stmtsOf .user

def clean {α : Type} (ob : Obj α) : Obj α := ⟨some ob.cur, ob.cur⟩

/-- After a flush the objects are as in the database.  An inserted `ResellerUserCache` is let go:
its primary key is not needed by the code that added it. -/
def flushed (s : Session) : Session :=
  { s with
    order := s.order.map clean
    reseller := s.reseller.map clean
    payment := s.payment.map clean
    trial := s.trial.map clean
    user := s.user.bind fun ob => ob.db.map fun _ => clean ob
    pending := [] }

end Session

def pendingRollbackError : Err :=
  ⟨.pendingRollback, "This Session's transaction has been rolled back"⟩

def missingGreenletError : Err := ⟨.missingGreenlet, "greenlet_spawn has not been called"⟩

/-! ## The operations of a session -/

def flush : Bot Unit := do
  let s ← Act.state
  if s.broken then Act.raise pendingRollbackError
  else if s.unflushed.isEmpty then Act.modify Session.flushed
  else
    let r : Except Err Unit ← ask (.flush s.unflushed)
    match r with
    | .ok () => Act.modify Session.flushed
    | .error e => do
      Act.modify fun s => s.expire true
      Act.raise e

def query (q : Query) : Bot q.Result := do
  flush
  let r : Except Err q.Result ← ask (.query q)
  Act.outcome r

def execute (st : Stmt) : Bot ℕ := do
  flush
  let r : Except Err ℕ ← ask (.execute st)
  Act.outcome r

def commit : Bot Unit := do
  flush
  let r : Except Err Unit ← ask .commit
  match r with
  | .ok () => pure ()
  | .error e => do
    Act.modify fun s => s.expire true
    Act.raise e

def rollback : Bot Unit := do
  ask .rollback
  Act.modify fun s => s.expire false

/-- `session.add` of an object the code does not use any more. -/
def add (st : Stmt) : Bot Unit := Act.modify fun s => { s with pending := s.pending ++ [st] }

/-- `async with sessions() as session`. -/
def inSession {α : Type} (m : Bot α) : Bot α := do
  Act.modify fun _ => Session.empty
  let r ← Act.attempt m
  rollback
  Act.outcome r

/-- `async with sessions() as session, session.begin()`. -/
def inTransaction {α : Type} (m : Bot α) : Bot α :=
  inSession do
    let a ← m
    commit
    pure a

namespace Slot

variable {α : Type} (sl : Slot α)

/-- The object in the variable; reading an expired one fails. -/
def read : Bot α := do
  let s ← Act.state
  match sl.get s with
  | some ob => pure ob.cur
  | none => Act.raise (if s.broken then pendingRollbackError else missingGreenletError)

/-- Assign attributes of the object in the variable. -/
def assign (f : α → α) : Bot Unit :=
  Act.modify fun s => sl.put s ((sl.get s).map fun ob => ⟨ob.db, f ob.cur⟩)

/-- Another object for the variable; unflushed changes of the one it held stay in the session. -/
def hold (ob : Obj α) : Bot Unit :=
  Act.modify fun s => sl.put { s with pending := s.pending ++ s.stmtsOf sl } (some ob)

/-- The variable goes out of scope. -/
def forget : Bot Unit :=
  Act.modify fun s => sl.put { s with pending := s.pending ++ s.stmtsOf sl } none

/-- An object of a list that was loaded when the session had expired its objects `epoch` times. -/
def holdLoaded (epoch : ℕ) (row : α) : Bot Unit := do
  let s ← Act.state
  if s.epoch = epoch then sl.hold ⟨some row, row⟩
  else Act.raise (if s.broken then pendingRollbackError else missingGreenletError)

/-- The object that a SELECT finds goes into the variable. -/
def load (select : Bot (Option α)) : Bot (Option α) := do
  match ← select with
  | some row => do
    sl.hold ⟨some row, row⟩
    pure (some row)
  | none => pure none

/-- `session.get`: the object of the variable if it has that primary key, else what a SELECT
finds. -/
def getByKey (key : α → ℕ) (i : ℕ) (select : Bot (Option α)) : Bot (Option α) := do
  let s ← Act.state
  match sl.get s with
  | some ob => if key ob.cur = i then pure (some ob.cur) else sl.load select
  | none => sl.load select

end Slot

def epoch : Bot ℕ := do
  pure (← Act.state).epoch

/-- `datetime.now(UTC)`. -/
def now : Bot Datetime := ask .now

/-- `app.audit.service.audit`. -/
def audit (action result : String) (orderId : Option ℕ) : Bot Unit :=
  add (.insertAudit ⟨action, result, orderId⟩)

/-- `bot.send_message` and `message.answer`. -/
def sendMessage (chat : ℤ) : Bot Unit := do
  let r : Except Err Unit ← ask (.send chat)
  Act.outcome r

/-- A method of the Rebecca client. -/
def call (why : Cause) (c : Call) : Bot c.Result := do
  let r : Except Err c.Result ← ask (.call why c)
  Act.outcome r

def getAdmin (username : Option String) : Bot (Option Admin) := call .lookup (.getAdmin username)

def listAdminUsers (username : Option String) : Bot (List User) :=
  call .lookup (.listAdminUsers username)

end ResellerBot
