import ResellerBot.Pool
import ResellerBot.Scheduler.Jobs
import ResellerBot.Reseller.Trial
import ResellerBot.Payments.Webhook
import ResellerBot.Handlers.Owner

/-!
# ResellerBot.System — the handlers and jobs at work together

The world is the database, the asyncio locks of the orders, the clock and Rebecca.  `react` answers
one request of one thread; where the answer is not determined, a `Choice` resolves it.  A write
waits while another session has a write transaction open: only the failure of a busy database is
possible then.
-/

open Interact

namespace ResellerBot

structure World where
  store : Store Tables
  mutex : ℕ → Bool
  clock : Datetime
  server : Server

inductive Choice
  | done
  | fail (e : Err) (took : Bool)
  | draw (n : ℕ)
  | token (s : String)
  | capable (usersToo : Bool)
  | users (us : List User)
  | user (u : Option User)
  | member (status : String)
  | operation (o : Operation)

namespace World

variable (w : World) (i : ℕ)

def withStore (st : Store Tables) : World := { w with store := st }

def withServer (sv : Server) : World := { w with server := sv }

/-- What session `i` reads. -/
def tables : Tables := w.store.visible i

/-- A flush: all its statements, or none and the end of the transaction. -/
def flush (sts : List Stmt) : Choice → Option (Except Err Unit × World)
  | .done =>
    if w.store.free i then
      match Stmt.execAll (w.tables i) sts with
      | .ok T => some (.ok (), w.withStore (w.store.put i T))
      | .error e => some (.error e, w.withStore (w.store.rollback i))
    else none
  | .fail e _ =>
    if e.kind = .operational then some (.error e, w.withStore (w.store.rollback i)) else none
  | _ => none

def execute (st : Stmt) : Choice → Option (Except Err ℕ × World)
  | .done =>
    if w.store.free i then
      match st.exec (w.tables i) with
      | .ok (T, n) => some (.ok n, w.withStore (w.store.put i T))
      | .error e => some (.error e, w)
    else none
  | .fail e _ => if e.kind = .operational then some (.error e, w) else none
  | _ => none

def commit : Choice → Option (Except Err Unit × World)
  | .done => some (.ok (), w.withStore (w.store.commit i))
  | .fail e _ =>
    if e.kind = .operational then some (.error e, w.withStore (w.store.rollback i)) else none
  | _ => none

def query (q : Query) : Choice → Option (Except Err q.Result × World)
  | .done => some (.ok (q.run (w.tables i)), w)
  | .fail e _ => if e.kind = .operational then some (.error e, w) else none
  | _ => none

/-- The server after a call whose response is lost. -/
def lost (c : Call) (took : Bool) : Server :=
  if took then
    match w.server.perform c with
    | .ok sv => sv
    | .error _ => w.server
  else w.server

/-- A mutating call that is answered. -/
def perform (c : Call) : Except Err Unit × World :=
  match w.server.perform c with
  | .ok sv => (.ok (), w.withServer sv)
  | .error e => (.error e, w)

/-- The answer of a call that does not fail. -/
def answer : (c : Call) → Choice → Option (Except Err c.Result × World)
  | .detectCapabilities, .capable usersToo => some (.ok usersToo, w)
  | .getAdmin username, .done => some (.ok (w.server.getAdmin username), w)
  | .listAdminUsers _, .users us => some (.ok us, w)
  | .getUser _, .user u => some (.ok u, w)
  | .createResellerAdmin username p, .done => some (w.perform (.createResellerAdmin username p))
  | .updateAdmin username p, .done => some (w.perform (.updateAdmin username p))
  | .disableAdmin username, .done => some (w.perform (.disableAdmin username))
  | .enableAdmin username, .done => some (w.perform (.enableAdmin username))
  | .disableAdminUsers _, .done => some (.ok (), w)
  | .enableUser _, .done => some (.ok (), w)
  | .disableUser _, .done => some (.ok (), w)
  | .deleteUser _, .done => some (.ok (), w)
  | _, _ => none

/-- A call is answered, or an exception of the client takes the place of the answer. -/
def call (c : Call) : Choice → Option (Except Err c.Result × World)
  | .fail e took =>
    if e.isVerification then none else some (.error e, w.withServer (w.lost c took))
  | ch => w.answer c ch

end World

/-- The answer to one request of thread `i`. -/
def react (i : ℕ) : (e : Ev) → Choice → World → Option (Resp e × World)
  | .query q, ch, w => w.query i q ch
  | .flush sts, ch, w => w.flush i sts ch
  | .execute st, ch, w => w.execute i st ch
  | .commit, ch, w => w.commit i ch
  | .rollback, .done, w => some ((), w.withStore (w.store.rollback i))
  | .now, .done, w => some (w.clock, w)
  | .randbelow n, .draw k, w => if k < n then some (k, w) else none
  | .token forbidden, .token s, w => if passwordAllowed forbidden s then some (s, w) else none
  | .call _ c, ch, w => w.call c ch
  | .send _, .done, w => some (.ok (), w)
  | .send _, .fail e _, w => some (.error e, w)
  | .chatMember _ _, .member s, w => some (.ok s, w)
  | .chatMember _ _, .fail e _, w => some (.error e, w)
  | .transaction _, .operation o, w => some (.ok o, w)
  | .transaction _, .fail e _, w => some (.error e, w)
  | .lock id, .done, w =>
    if w.mutex id then none else some ((), { w with mutex := Function.update w.mutex id true })
  | .unlock id, .done, w => some ((), { w with mutex := Function.update w.mutex id false })
  | .createTask, .done, w => some ((), w)
  | _, _, _ => none

/-! ## What a request does to the store -/

namespace World

variable {w w' : World} {i : ℕ}

theorem perform_store (w : World) (c : Call) : (w.perform c).2.store = w.store := by
  unfold perform
  cases w.server.perform c <;> rfl

theorem answer_store {c : Call} {ch : Choice} {r : Except Err c.Result}
    (h : w.answer c ch = some (r, w')) : w'.store = w.store := by
  have hp : ∀ {c : Call} {r : Except Err Unit}, w.perform c = (r, w') → w'.store = w.store := by
    intro c r hr
    have hs := w.perform_store c
    rwa [hr] at hs
  cases c with
  | createResellerAdmin | updateAdmin | disableAdmin | enableAdmin =>
    cases ch with
    | done => exact hp (Option.some.inj h)
    | _ => cases h
  | _ =>
    cases ch
    all_goals cases h
    all_goals rfl

theorem call_store {c : Call} {ch : Choice} {r : Except Err c.Result}
    (h : w.call c ch = some (r, w')) : w'.store = w.store := by
  cases ch with
  | fail e took =>
    simp only [call] at h
    split_ifs at h
    cases h
    rfl
  | _ => exact answer_store h

end World

/-- Neither for the database nor for Rebecca. -/
def Ev.idle : Ev → Bool
  | .query _ | .flush _ | .execute _ | .commit | .rollback | .call _ _ => false
  | _ => true

/-- What one request of thread `i` can be answered, and the world it leaves. -/
inductive Reacted (i : ℕ) (w : World) : (e : Ev) → Resp e → World → Prop
  | found (q : Query) : Reacted i w (.query q) (.ok (q.run (w.tables i))) w
  | unfound (q : Query) (err : Err) : Reacted i w (.query q) (.error err) w
  | flushed {sts : List Stmt} {T : Tables} (hfree : w.store.free i = true)
      (hT : Stmt.execAll (w.tables i) sts = .ok T) :
      Reacted i w (.flush sts) (.ok ()) (w.withStore (w.store.put i T))
  | unflushed (sts : List Stmt) (err : Err) :
      Reacted i w (.flush sts) (.error err) (w.withStore (w.store.rollback i))
  | executed {st : Stmt} {T : Tables} {n : ℕ} (hfree : w.store.free i = true)
      (hT : st.exec (w.tables i) = .ok (T, n)) :
      Reacted i w (.execute st) (.ok n) (w.withStore (w.store.put i T))
  | unexecuted (st : Stmt) (err : Err) : Reacted i w (.execute st) (.error err) w
  | committed : Reacted i w .commit (.ok ()) (w.withStore (w.store.commit i))
  | uncommitted (err : Err) :
      Reacted i w .commit (.error err) (w.withStore (w.store.rollback i))
  | rolledBack : Reacted i w .rollback () (w.withStore (w.store.rollback i))
  | called {c : Call} {r : Except Err c.Result} {w' : World} (why : Cause) (ch : Choice)
      (h : w.call c ch = some (r, w')) : Reacted i w (.call why c) r w'
  | idle {e : Ev} {w' : World} (r : Resp e) (he : e.idle = true) (hstore : w'.store = w.store)
      (hserver : w'.server = w.server) : Reacted i w e r w'

/-- **What a request does.** -/
theorem react_cases {i : ℕ} {e : Ev} {ch : Choice} {w w' : World} {r : Resp e}
    (h : react i e ch w = some (r, w')) : Reacted i w e r w' := by
  cases e with
  | query q =>
    cases ch with
    | done => cases h; exact .found q
    | fail err =>
      simp only [react, World.query] at h
      split_ifs at h
      cases h
      exact .unfound q err
    | _ => cases h
  | flush sts =>
    cases ch with
    | done =>
      simp only [react, World.flush] at h
      split_ifs at h with hf
      cases hT : Stmt.execAll (w.tables i) sts with
      | ok T =>
        rw [hT] at h
        cases h
        exact .flushed hf hT
      | error err =>
        rw [hT] at h
        cases h
        exact .unflushed sts err
    | fail err =>
      simp only [react, World.flush] at h
      split_ifs at h
      cases h
      exact .unflushed sts err
    | _ => cases h
  | execute st =>
    cases ch with
    | done =>
      simp only [react, World.execute] at h
      split_ifs at h with hf
      cases hT : st.exec (w.tables i) with
      | ok T =>
        rw [hT] at h
        cases h
        exact .executed hf hT
      | error err =>
        rw [hT] at h
        cases h
        exact .unexecuted st err
    | fail err =>
      simp only [react, World.execute] at h
      split_ifs at h
      cases h
      exact .unexecuted st err
    | _ => cases h
  | commit =>
    cases ch with
    | done => cases h; exact .committed
    | fail err =>
      simp only [react, World.commit] at h
      split_ifs at h
      cases h
      exact .uncommitted err
    | _ => cases h
  | rollback => cases ch <;> cases h; exact .rolledBack
  | call why c => exact .called why ch h
  | randbelow n =>
    cases ch with
    | draw k =>
      simp only [react] at h
      split_ifs at h
      cases h
      exact .idle _ rfl rfl rfl
    | _ => cases h
  | token forbidden =>
    cases ch with
    | token s =>
      simp only [react] at h
      split_ifs at h
      cases h
      exact .idle _ rfl rfl rfl
    | _ => cases h
  | lock id =>
    cases ch with
    | done =>
      simp only [react] at h
      split_ifs at h
      cases h
      exact .idle _ rfl rfl rfl
    | _ => cases h
  | now | send _ | chatMember _ _ | transaction _ | unlock _ | createTask =>
    cases ch <;> cases h <;> exact .idle _ rfl rfl rfl

/-- What a request can do to the store: nothing, one write, or the end of the transaction. -/
theorem react_store {i : ℕ} {e : Ev} {ch : Choice} {w w' : World} {r : Resp e}
    (h : react i e ch w = some (r, w')) :
    w'.store = w.store ∨ w'.store = w.store.commit i ∨ w'.store = w.store.rollback i ∨
    ∃ T, w.store.free i = true ∧ w'.store = w.store.put i T ∧
      ((∃ sts, e = .flush sts ∧ Stmt.execAll (w.tables i) sts = .ok T) ∨
        ∃ st n, e = .execute st ∧ st.exec (w.tables i) = .ok (T, n)) := by
  cases react_cases h with
  | found | unfound | unexecuted => exact .inl rfl
  | flushed hfree hT => exact .inr (.inr (.inr ⟨_, hfree, rfl, .inl ⟨_, rfl, hT⟩⟩))
  | executed hfree hT => exact .inr (.inr (.inr ⟨_, hfree, rfl, .inr ⟨_, _, rfl, hT⟩⟩))
  | unflushed | uncommitted | rolledBack => exact .inr (.inr (.inl rfl))
  | committed => exact .inr (.inl rfl)
  | called _ _ hcall => exact .inl (World.call_store hcall)
  | idle _ _ hstore => exact .inl hstore

/-- The database keeps what was committed; the locks of the process are gone. -/
def restart (w : World) : World := { w with store := w.store.recover, mutex := fun _ => false }

/-! ## Tasks -/

inductive Task
  | run
  | reconcilePaidOrders
  | runTrial (userId : ℤ) (telegramUsername : Option String)
  | start (userId : ℤ) (telegramUsername : Option String)
  | receipt (chat : ℤ) (orderId : ℕ) (fileId : String)
  | cardApprove (userId : ℤ) (orderId : ℕ)
  | cardReject (userId : ℤ) (orderId : ℕ)
  | orderApprove (userId : ℤ) (orderId : ℕ)
  | orderReject (userId : ℤ) (orderId : ℕ)
  | orderRetry (userId : ℤ) (orderId : ℕ)
  | callback (p : Callback)
  | resellerDisable (userId : ℤ) (resellerId : ℕ)
  | resellerEnable (userId : ℤ) (resellerId : ℕ)
  | resellerStateDisable (userId : ℤ) (resellerId : ℕ)
  | resellerStateEnable (userId : ℤ) (resellerId : ℕ)
  | resellerHold (userId : ℤ) (resellerId : ℕ)
  | userDeleteConfirm (userId : ℤ) (owner username : String)

/-- A handler or job as a thread: nobody waits for its result. -/
def launch {α : Type} (m : Bot α) : Prog Ev Resp Unit :=
  (m Session.empty).bind fun _ => .ret ()

def Task.prog (cfg : Settings) (batchSize : ℕ) : Task → Prog Ev Resp Unit
  | .run => launch (ResellerBot.run cfg batchSize)
  | .reconcilePaidOrders => launch (ResellerBot.reconcilePaidOrders cfg batchSize)
  | .runTrial userId name => launch (ResellerBot.runTrial cfg userId name)
  | .start userId name => launch (ResellerBot.start cfg userId name)
  | .receipt chat orderId fileId => launch (ResellerBot.receipt cfg chat orderId fileId)
  | .cardApprove userId orderId => launch (ResellerBot.cardApprove cfg userId orderId)
  | .cardReject userId orderId => launch (ResellerBot.cardReject cfg userId orderId)
  | .orderApprove userId orderId => launch (ResellerBot.orderApprove cfg userId orderId)
  | .orderReject userId orderId => launch (ResellerBot.orderReject cfg userId orderId)
  | .orderRetry userId orderId => launch (ResellerBot.orderRetry cfg userId orderId)
  | .callback p => launch (ResellerBot.callback cfg p)
  | .resellerDisable userId id => launch (ResellerBot.resellerDisable cfg userId id)
  | .resellerEnable userId id => launch (ResellerBot.resellerEnable cfg userId id)
  | .resellerStateDisable userId id => launch (ResellerBot.resellerStateDisable cfg userId id)
  | .resellerStateEnable userId id => launch (ResellerBot.resellerStateEnable cfg userId id)
  | .resellerHold userId id => launch (ResellerBot.resellerHold cfg userId id)
  | .userDeleteConfirm userId owner username =>
    launch (ResellerBot.userDeleteConfirm cfg userId owner username)

/-- The bot under its configuration. -/
def bot (cfg : Settings) (batchSize : ℕ) : System Ev Resp Task World Choice where
  react := react
  prog := Task.prog cfg batchSize
  restart := restart

abbrev BotConfig := Config Ev Resp Task World

abbrev BotMove := Move Task World Choice

end ResellerBot
