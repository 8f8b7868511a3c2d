import Mathlib
import ResellerBot.Outage.Mute
import ResellerBot.Rebecca.Http
import ResellerBot.Since

/-!
# ResellerBot.Outage.Recovery — a client after an outage

The client learns the capabilities of Rebecca when the process starts and, in the scheduler, behind
a call that needs them.  A client that has lost them never gets there.
-/

open Interact

namespace ResellerBot

/-! ## A process and what is around it -/

/-- What the process meets: the tables, the readings of clock and chance, messages, payments, and a
Rebecca whose response may depend on all requests before. -/
structure Site where
  tables : Tables
  clock : ℕ → Datetime
  draw : ℕ → ℕ
  token : ℕ → String
  deliver : ℕ → Except Err Unit
  member : ℕ → Except Err String
  transaction : ℕ → Except Err Operation
  serve : List Http → (h : Http) → HttpResp h

structure Process where
  committed : Tables
  working : Tables
  /-- How often clock, chance and the other services were asked. -/
  ticks : ℕ
  /-- What the client knows. -/
  client : Capabilities
  /-- The requests that Rebecca has received. -/
  sent : List Http

namespace Site

variable (site : Site)

def http (h : Http) (sent : List Http) : HttpResp h × List Http := (site.serve sent h, sent ++ [h])

def react : (e : Ev) → Process → Resp e × Process
  | .query q, p => (.ok (q.run p.working), p)
  | .flush sts, p =>
    match Stmt.execAll p.working sts with
    | .ok T => (.ok (), { p with working := T })
    | .error e => (.error e, p)
  | .execute st, p =>
    match st.exec p.working with
    | .ok (T, n) => (.ok n, { p with working := T })
    | .error e => (.error e, p)
  | .commit, p => (.ok (), { p with committed := p.working })
  | .rollback, p => ((), { p with working := p.committed })
  | .now, p => (site.clock p.ticks, { p with ticks := p.ticks + 1 })
  | .randbelow n, p => (site.draw p.ticks % n, { p with ticks := p.ticks + 1 })
  | .token _, p => (site.token p.ticks, { p with ticks := p.ticks + 1 })
  | .call _ c, p =>
    let r := Act.run site.http p.client p.sent (HttpRebeccaClient.perform c)
    (r.1.1, { p with client := r.1.2, sent := r.2 })
  | .send _, p => (site.deliver p.ticks, { p with ticks := p.ticks + 1 })
  | .chatMember _ _, p => (site.member p.ticks, { p with ticks := p.ticks + 1 })
  | .transaction _, p => (site.transaction p.ticks, { p with ticks := p.ticks + 1 })
  | .lock _, p | .unlock _, p | .createTask, p => ((), p)

/-- The process after one run of the scheduler. -/
def run (cfg : Settings) (batchSize : ℕ) (caps : Capabilities) : Process :=
  (Act.run site.react Session.empty ⟨site.tables, site.tables, 0, caps, []⟩
    (ResellerBot.run cfg batchSize)).2

/-- Every request succeeds, but that a user may be missing, and the document is `schema`. -/
structure Healthy (schema : Schema) : Prop where
  openapi : ∀ sent, site.serve sent .openapi = .ok schema
  serve : ∀ sent h e, site.serve sent h = .error e →
    e.kind = .notFound ∧ ∃ username, h = .getUser username

end Site

/-! ## The outage -/

/-- A call of the client and the answers to its requests: the document, when it comes, is
`schema`. -/
structure Exchange (schema : Schema) where
  call : Call
  answer : List Http → (h : Http) → HttpResp h
  advertised : ∀ sent doc, answer sent .openapi = .ok doc → doc = schema

variable {schema : Schema}

namespace Exchange

variable (x : Exchange schema)

/-- What the client knows after the call. -/
def after (caps : Capabilities) : Capabilities :=
  (Act.run (fun h sent => (x.answer sent h, sent ++ [h])) caps [] (HttpRebeccaClient.perform x.call)).1.2

/-- A detection that gets the document. -/
def Found : Prop := x.call = .detectCapabilities ∧ x.answer [] .openapi = .ok schema

/-- A detection whose request fails. -/
def Lost : Prop :=
  x.call = .detectCapabilities ∧ ∃ e, x.answer [] .openapi = .error e ∧ e.isRebeccaError = true

end Exchange

/-- What the client knows after a history of calls. -/
def clientAfter (history : List (Exchange schema)) : Capabilities :=
  history.foldl (fun caps x => x.after caps) noCapabilities

section Later

variable (cfg : Settings) (batchSize : ℕ) (schema : Schema)

/-- What the client knows after some runs in which every request succeeds. -/
inductive Later (caps : Capabilities) : Capabilities → Prop
  | refl : Later caps caps
  | run {caps' : Capabilities} (h : Later caps caps') (site : Site) (hs : site.Healthy schema) :
      Later caps (site.run cfg batchSize caps').client

/-- Some later run makes the requests of a client that has never seen an outage, whatever the
database and Rebecca hold. -/
def Recovers (caps : Capabilities) : Prop :=
  ∃ caps', Later cfg batchSize schema caps caps' ∧ ∀ site : Site, site.Healthy schema →
    (site.run cfg batchSize caps').sent = (site.run cfg batchSize (fromOpenapi schema)).sent

/-- The scheduler cannot make a first request: it reads no admin and no list of users. -/
def Blind (caps : Capabilities) : Prop :=
  batchSize ≠ 0 → caps .admin_get = false ∧ caps .user_list_by_owner = false

end Later

/-! ## What the client knows -/

section Client

variable {α β : Type} {react : (h : Http) → List Http → HttpResp h × List Http} {caps : Capabilities}
  {sent : List Http} {x : Exchange schema} {history : List (Exchange schema)}

/-- The method leaves the capabilities alone. -/
def Inert (m : HttpRebeccaClient α) : Prop :=
  ∀ react caps sent, (Act.run (Γ := List Http) react caps sent m).1.2 = caps

namespace Inert

theorem bind {m : HttpRebeccaClient α} {f : α → HttpRebeccaClient β} (hm : Inert m)
    (hf : ∀ a, Inert (f a)) : Inert (m >>= f) := by
  intro react caps sent
  have h := hm react caps sent
  rw [Act.run_bind]
  rcases hr : Act.run react caps sent m with ⟨⟨e | a, caps'⟩, sent'⟩
  · rw [hr] at h
    exact h
  · rw [hr] at h
    obtain rfl : caps' = caps := h
    exact hf a react caps' sent'

theorem pure (a : α) : Inert (Pure.pure a) := fun _ _ _ => rfl

theorem raise (e : Err) : Inert (Act.raise e : HttpRebeccaClient α) := fun _ _ _ => rfl

theorem attempt {m : HttpRebeccaClient α} (hm : Inert m) : Inert (Act.attempt m) := by
  intro react caps sent
  rw [Act.run_attempt]
  exact hm react caps sent

theorem request (h : Http) : Inert (HttpRebeccaClient.request h) := by
  intro react caps sent
  rw [HttpRebeccaClient.request, Act.run_bind, Act.run_request]
  dsimp only
  rw [Act.run_outcome]

theorem require (name : Capability) : Inert (HttpRebeccaClient.require name) := by
  intro react caps sent
  rw [HttpRebeccaClient.require, Act.run_bind, Act.run_state]
  dsimp only
  split_ifs <;> rfl

theorem getAdmin (username : Option String) : Inert (HttpRebeccaClient.getAdmin username) :=
  (require _).bind fun _ => (request _).bind fun _ => pure _

theorem getUser (username : String) : Inert (HttpRebeccaClient.getUser username) := by
  refine (require _).bind fun _ => (request _).attempt.bind fun r => ?_
  cases r with
  | ok user => exact pure _
  | error e =>
    dsimp only
    split_ifs
    · exact pure _
    · exact raise _

theorem updateUser (username status : String) :
    Inert (HttpRebeccaClient.updateUser username status) := by
  refine (require _).bind fun _ => (getUser _).bind fun found => ?_
  cases found with
  | none => exact raise _
  | some user =>
    refine (request _).bind fun _ => (getUser _).bind fun live => ?_
    cases live with
    | none => exact raise _
    | some _ => exact pure _

theorem adminAction (username action : String) (capability : Capability) :
    Inert (HttpRebeccaClient.adminAction username action capability) :=
  (require _).bind fun _ => request _

/-- Only a detection changes what the client knows. -/
theorem perform {c : Call} (h : c ≠ .detectCapabilities) : Inert (HttpRebeccaClient.perform c) := by
  cases c with
  | detectCapabilities => exact absurd rfl h
  | getAdmin username => exact getAdmin username
  | createResellerAdmin username payload =>
    refine (require _).bind fun _ => ?_
    split_ifs
    · exact raise _
    · exact request _
  | updateAdmin username payload =>
    refine (require _).bind fun _ => (request _).bind fun _ => (getAdmin _).bind fun live => ?_
    cases live with
    | none => exact raise _
    | some _ => exact pure _
  | disableAdmin username | enableAdmin username | disableAdminUsers username =>
    exact adminAction _ _ _
  | listAdminUsers username => exact (require _).bind fun _ => request _
  | getUser username => exact getUser username
  | enableUser username | disableUser username => exact updateUser _ _
  | deleteUser username =>
    refine (require _).bind fun _ => (getUser _).bind fun found => ?_
    cases found with
    | none => exact raise _
    | some _ => exact request _

end Inert

theorem after_detect (h : x.call = .detectCapabilities) :
    x.after caps = match x.answer [] .openapi with
      | .ok doc => fromOpenapi doc
      | .error e => if e.isRebeccaError then noCapabilities else caps := by
  obtain ⟨call, answer, _⟩ := x
  obtain rfl : call = .detectCapabilities := h
  unfold Exchange.after HttpRebeccaClient.perform HttpRebeccaClient.detectCapabilities
    HttpRebeccaClient.request
  simp only [Act.run_bind, Act.run_attempt, Act.run_request, Act.run_outcome]
  cases answer [] .openapi with
  | ok doc => rfl
  | error e =>
    by_cases he : e.isRebeccaError = true
    · simp only [he, if_pos]
      rfl
    · simp only [he]
      rfl

theorem after_found (h : x.Found) : x.after caps = fromOpenapi schema := by
  rw [after_detect h.1, h.2]

theorem after_lost (h : x.Lost) : x.after caps = noCapabilities := by
  obtain ⟨hc, e, hans, he⟩ := h
  rw [after_detect hc, hans]
  exact if_pos he

theorem after_other (hf : ¬x.Found) (hl : ¬x.Lost) : x.after caps = caps := by
  by_cases hc : x.call = .detectCapabilities
  · rw [after_detect hc]
    cases hans : x.answer [] .openapi with
    | ok doc => exact absurd ⟨hc, x.advertised [] doc hans ▸ hans⟩ hf
    | error e => exact if_neg fun he => hl ⟨hc, e, hans, he⟩
  · exact Inert.perform hc _ caps []

/-- **What the client knows**: the capabilities of the document if a detection has got it and none
has failed since, and nothing otherwise. -/
theorem clientAfter_eq (history : List (Exchange schema)) :
    (Since Exchange.Found (¬·.Lost) history → clientAfter history = fromOpenapi schema) ∧
      (¬Since Exchange.Found (¬·.Lost) history → clientAfter history = noCapabilities) := by
  induction history using List.reverseRecOn with
  | nil => exact ⟨fun h => absurd h not_since_nil, fun _ => rfl⟩
  | append_singleton l x ih =>
    have hstep : clientAfter (l ++ [x]) = x.after (clientAfter l) := by
      rw [clientAfter, List.foldl_append]
      rfl
    rw [since_concat, hstep]
    by_cases hf : x.Found
    · exact ⟨fun _ => after_found hf, fun h => absurd (.inl hf) h⟩
    · by_cases hl : x.Lost
      · exact ⟨fun h => (h.resolve_left hf).2.elim hl, fun _ => after_lost hl⟩
      · rw [after_other hf hl]
        exact ⟨fun h => ih.1 (h.resolve_left hf).1, fun h => ih.2 fun hs => h (.inr ⟨hs, hl⟩)⟩

end Client

/-! ## A blind scheduler -/

section Blind

variable {cfg : Settings} {batchSize : ℕ} {caps : Capabilities}

/-- The reads whose capability is missing. -/
def Missing (caps : Capabilities) : Call → Prop
  | .getAdmin _ => caps .admin_get = false
  | .listAdminUsers _ => caps .user_list_by_owner = false
  | _ => False

theorem run_require_missing {α : Type} {name : Capability} (h : caps name = false)
    (react : (h : Http) → List Http → HttpResp h × List Http) (sent : List Http)
    (f : Unit → HttpRebeccaClient α) :
    Act.run react caps sent (HttpRebeccaClient.require name >>= f) =
      ((.error ⟨.capabilityMissing, name.text⟩, caps), sent) := by
  have hr : Act.run react caps sent (HttpRebeccaClient.require name) =
      ((.error ⟨.capabilityMissing, name.text⟩, caps), sent) := by
    rw [HttpRebeccaClient.require, Act.run_bind_ok _ _ _ _ (Act.run_state ..), h]
    rfl
  rw [Act.run_bind, hr]

/-- Such a read raises without a request. -/
theorem run_missing {c : Call} (h : Missing caps c)
    (react : (h : Http) → List Http → HttpResp h × List Http) (sent : List Http) :
    ∃ e, Act.run react caps sent (HttpRebeccaClient.perform c) = ((.error e, caps), sent) := by
  cases c with
  | getAdmin | listAdminUsers => exact ⟨_, run_require_missing h _ _ _⟩
  | _ => exact h.elim

/-- **A blind scheduler sends nothing and learns nothing.** -/
theorem run_blind (h : Blind batchSize caps) (site : Site) :
    (site.run cfg batchSize caps).client = caps ∧ (site.run cfg batchSize caps).sent = [] := by
  have hsafe : Act.Safe (mute (Missing caps)) (ResellerBot.run cfg batchSize) :=
    Mute.run fun hb => ⟨fun _ => (h hb).1, fun _ => (h hb).2⟩
  refine (Ok.eval (I := fun (p : Process) _ => p.client = caps ∧ p.sent = []) ?_
    (hsafe.ok Session.empty ()) ⟨rfl, rfl⟩).elim fun _ hI => hI.1
  rintro p ⟨⟩ e ⟨hc, hs⟩ hpre
  refine ⟨(), ?_⟩
  cases e with
  | call why c =>
    obtain ⟨err, hr⟩ := run_missing (show Missing caps c from hpre) site.http []
    rw [Site.react, hc, hs, hr]
    exact ⟨⟨err, rfl⟩, rfl, rfl⟩
  | query q => exact ⟨fun a ha => ⟨p.working, Except.ok.inj ha⟩, hc, hs⟩
  | flush sts =>
    rw [Site.react]
    split <;> exact ⟨trivial, hc, hs⟩
  | execute st =>
    rw [Site.react]
    split <;> exact ⟨trivial, hc, hs⟩
  | _ => exact ⟨trivial, hc, hs⟩

theorem blind_noCapabilities : Blind batchSize noCapabilities :=
  fun _ => ⟨rfl, rfl⟩

theorem Later.blind {caps' : Capabilities} (hb : Blind batchSize caps)
    (h : Later cfg batchSize schema caps caps') : caps' = caps := by
  induction h with
  | refl => rfl
  | run h site hs ih => rw [ih, (run_blind hb site).1]

end Blind

/-! ## A seeing scheduler -/

section Sent

variable {site : Site} {α β : Type}

theorem sent_of_http {p : Prog Http HttpResp α} {sent : List Http}
    (h : (p.eval site.http sent).2 = []) : sent = [] := by
  induction p generalizing sent with
  | ret a => exact h
  | ask e k ih => exact absurd (ih _ h) (by simp [Site.http])

/-- What was sent is not taken back. -/
theorem sent_of_eval {p : Prog Ev Resp α} {γ : Process}
    (h : (p.eval site.react γ).2.sent = []) : γ.sent = [] := by
  induction p generalizing γ with
  | ret a => exact h
  | ask e k ih =>
    have hsent := ih _ h
    cases e with
    | call why c => exact sent_of_http hsent
    | flush sts =>
      rw [Site.react] at hsent
      split at hsent <;> exact hsent
    | execute st =>
      rw [Site.react] at hsent
      split at hsent <;> exact hsent
    | _ => exact hsent

theorem sent_of_bind {m : Bot α} {f : α → Bot β} {s : Session} {γ : Process}
    (h : (Act.run site.react s γ (m >>= f)).2.sent = []) :
    (Act.run site.react s γ m).2.sent = [] := by
  rw [Act.run_bind] at h
  rcases hm : Act.run site.react s γ m with ⟨⟨e | a, s'⟩, γ'⟩
  · rwa [hm] at h
  · rw [hm] at h
    exact sent_of_eval h

/-- The same for two parts of a sequence. -/
theorem sent_of_bind₂ {δ : Type} {m : Bot α} {f : α → Bot β} {g : α → β → Bot δ} {s : Session}
    {γ : Process} (h : (Act.run site.react s γ (m >>= fun a => f a >>= g a)).2.sent = []) :
    (Act.run site.react s γ (m >>= f)).2.sent = [] := by
  rw [Act.run_bind] at h ⊢
  rcases hm : Act.run site.react s γ m with ⟨⟨e | a, s'⟩, γ'⟩
  · rwa [hm] at h
  · rw [hm] at h
    exact sent_of_bind h

theorem sent_of_attempt {m : Bot α} {s : Session} {γ : Process}
    (h : (Act.run site.react s γ (Act.attempt m)).2.sent = []) :
    (Act.run site.react s γ m).2.sent = [] := by
  rwa [Act.run_attempt] at h

theorem sent_of_inSession {m : Bot α} {s : Session} {γ : Process}
    (h : (Act.run site.react s γ (inSession m)).2.sent = []) :
    (Act.run site.react Session.empty γ m).2.sent = [] := by
  rw [inSession, Act.run_bind_ok _ _ _ _ (Act.run_modify ..)] at h
  exact sent_of_attempt (sent_of_bind h)

theorem sent_of_locked {key : String} {ttl : ℤ} {body : Bool → Bot Unit} {s s' : Session}
    {γ γ' : Process} {acquired : Bool}
    (ha : Act.run site.react s γ (acquire key ttl) = ((.ok acquired, s'), γ'))
    (h : (Act.run site.react s γ (locked key ttl body)).2.sent = []) :
    (Act.run site.react s' γ' (body acquired)).2.sent = [] := by
  rw [locked, Act.run_bind_ok _ _ _ _ ha] at h
  exact sent_of_attempt (sent_of_bind h)

end Sent

/-- One reseller with one user, whose deadline has come. -/
def probeTables : Tables where
  resellers := [⟨1, 5, none, some "shop", .ACTIVE, none, none, 0, 0, 0, 0, false, false, none, none,
    false⟩]
  products := []
  orders := []
  payments := []
  trials := []
  users := [⟨1, 1, "bob", "shop", "active", none, some 10, 10, none, .EXPIRED, some 0, some 0,
    some 0, false, false, false⟩]
  locks := []
  warnings := []
  settings := [("time_warning_thresholds", .list [.int 1]),
    ("traffic_warning_thresholds", .list [.int 1]), ("user_delete_grace_hours", .int 72)]
  channels := []
  audits := []

/-- A Rebecca without admins and users. -/
def probe (schema : Schema) : Site where
  tables := probeTables
  clock _ := 0
  draw _ := 0
  token _ := ""
  deliver _ := .ok ()
  member _ := .ok ""
  transaction _ := .error ⟨.runtime, ""⟩
  serve _
    | .openapi => .ok schema
    | .getAdmins _ => .ok []
    | .getUsers _ => .ok []
    | .getUser username => .error (notFoundError username)
    | .postAdmin _ _ | .putAdmin _ _ | .postAdminAction _ _ | .putUser _ _ | .deleteUser _ => .ok ()

theorem healthy_probe (schema : Schema) : (probe schema).Healthy schema where
  openapi _ := rfl
  serve _ h e he := by
    cases h with
    | getUser username =>
      cases he
      exact ⟨rfl, username, rfl⟩
    | _ => cases he

/-- The capabilities with these two. -/
def capsWith (admins users : Bool) (caps : Capabilities) : Capabilities
  | .admin_get => admins
  | .user_list_by_owner => users
  | c => caps c

theorem capsWith_self (caps : Capabilities) :
    capsWith (caps .admin_get) (caps .user_list_by_owner) caps = caps := by
  funext c
  cases c <;> rfl

/-- What the jobs send to the probe after the scheduler has taken its lock. -/
def probed (schema : Schema) (caps : Capabilities) (m : Bot Unit) : List Http :=
  let r := Act.run (probe schema).react Session.empty
    ⟨(probe schema).tables, (probe schema).tables, 0, caps, []⟩ (acquire "scheduler:global" 240)
  (Act.run (probe schema).react r.1.2 r.2 m).2.sent

section Probed

variable (cfg : Settings) (n : ℕ) (caps : Capabilities) (users : Bool)

/-- A run that sends nothing has sent nothing in its jobs. -/
theorem probed_of_run (h : ((probe schema).run cfg (n + 1) caps).sent = []) :
    probed schema caps (syncResellers cfg (n + 1)) = [] ∧
      probed schema caps (syncResellers cfg (n + 1) >>= fun _ => syncUsers cfg (n + 1)) = [] := by
  unfold Site.run ResellerBot.run lifecycle at h
  have hlocked := sent_of_inSession h
  obtain ⟨r, hr⟩ : ∃ r, r = Act.run (probe schema).react Session.empty
    ⟨(probe schema).tables, (probe schema).tables, 0, caps, []⟩ (acquire "scheduler:global" 240) :=
    ⟨_, rfl⟩
  have hlock : Act.run (probe schema).react Session.empty
      ⟨(probe schema).tables, (probe schema).tables, 0, caps, []⟩
      (acquire "scheduler:global" 240) = ((.ok true, r.1.2), r.2) := by
    rw [hr]
    rfl
  have hjobs := sent_of_locked hlock hlocked
  rw [Act.when, if_pos rfl] at hjobs
  unfold probed
  rw [← hr]
  exact ⟨sent_of_bind hjobs, sent_of_bind₂ hjobs⟩

theorem probed_admins : probed schema (capsWith true users caps) (syncResellers cfg (n + 1)) =
    [.getAdmins (some "shop")] := by
  cases n <;> cbv

theorem probed_users : probed schema (capsWith false true caps)
    (syncResellers cfg (n + 1) >>= fun _ => syncUsers cfg (n + 1)) = [.getUsers (some "shop")] := by
  cases n <;> cbv

end Probed

/-- A scheduler that is not blind makes a request of the probe. -/
theorem blind_of_sent {cfg : Settings} {batchSize : ℕ} {caps : Capabilities}
    (h : ((probe schema).run cfg batchSize caps).sent = []) : Blind batchSize caps := by
  intro hb
  obtain ⟨n, rfl⟩ := Nat.exists_eq_succ_of_ne_zero hb
  obtain ⟨h₁, h₂⟩ := probed_of_run cfg n caps h
  rw [← capsWith_self caps] at h₁ h₂
  cases ha : caps .admin_get with
  | true =>
    rw [ha, probed_admins] at h₁
    cases h₁
  | false =>
    cases hl : caps .user_list_by_owner with
    | true =>
      rw [ha, hl, probed_users] at h₂
      cases h₂
    | false => exact ⟨rfl, rfl⟩

section Recovery

variable {cfg : Settings} {batchSize : ℕ} {history : List (Exchange schema)}

/-- A client that has lost its capabilities does not find them again. -/
theorem blind_of_recovers (hs : ¬Since Exchange.Found (¬·.Lost) history)
    (h : Recovers cfg batchSize schema (clientAfter history)) :
    Blind batchSize (fromOpenapi schema) := by
  obtain ⟨caps', hlater, hsame⟩ := h
  rw [(clientAfter_eq history).2 hs] at hlater
  obtain rfl := hlater.blind blind_noCapabilities
  have hsent := hsame (probe schema) (healthy_probe schema)
  rw [(run_blind blind_noCapabilities _).2] at hsent
  exact blind_of_sent hsent.symm

theorem recovers_of_blind (h : Blind batchSize (fromOpenapi schema)) :
    Recovers cfg batchSize schema (clientAfter history) := by
  have hb : Blind batchSize (clientAfter history) := by
    by_cases hs : Since Exchange.Found (¬·.Lost) history
    · rw [(clientAfter_eq history).1 hs]
      exact h
    · rw [(clientAfter_eq history).2 hs]
      exact blind_noCapabilities
  refine ⟨_, .refl, fun site _ => ?_⟩
  rw [(run_blind hb site).2, (run_blind h site).2]

end Recovery

/-- **Recovery from an outage.**  After any history of calls, some later run of the scheduler makes
the requests of a client that has never seen an outage, if and only if a detection of the history
got the document and none has failed since, or that client makes no requests at all. -/
theorem recovers_iff (cfg : Settings) (batchSize : ℕ) (history : List (Exchange schema)) :
    Recovers cfg batchSize schema (clientAfter history) ↔
      Since Exchange.Found (¬·.Lost) history ∨ Blind batchSize (fromOpenapi schema) := by
  constructor
  · intro h
    by_cases hs : Since Exchange.Found (¬·.Lost) history
    · exact .inl hs
    · exact .inr (blind_of_recovers hs h)
  · rintro (hs | hblind)
    · rw [(clientAfter_eq history).1 hs]
      exact ⟨_, .refl, fun _ _ => rfl⟩
    · exact recovers_of_blind hblind

/-- A document that advertises the list of admins. -/
def adminsSchema : Schema := [("/api/admins", [("get", ["username"])])]

/-- The document does not arrive when the process starts. -/
def startInOutage : Exchange adminsSchema where
  call := .detectCapabilities
  answer _ _ := .error ⟨.unavailable, "All connection attempts failed"⟩
  advertised _ _ h := nomatch h

/-- A process that starts during an outage stays without capabilities. -/
theorem outage_not_recovered : ¬∀ (schema : Schema) (cfg : Settings) (batchSize : ℕ)
    (history : List (Exchange schema)),
    Recovers cfg batchSize schema (clientAfter history) := by
  intro h
  have hs : ¬Since Exchange.Found (¬·.Lost) [startInOutage] := by
    rw [show [startInOutage] = [] ++ [startInOutage] from rfl, since_concat]
    rintro (⟨-, hans⟩ | ⟨hnil, -⟩)
    · cases hans
    · exact not_since_nil hnil
  have hcfg : Settings := ⟨"", [], "", false, false, false, false, 72, 24, 10, [], [], false, "", ""⟩
  have hblind := blind_of_recovers hs (h adminsSchema hcfg 50 [startInOutage])
  exact absurd (hblind (by decide)).1 (by decide)

end ResellerBot
