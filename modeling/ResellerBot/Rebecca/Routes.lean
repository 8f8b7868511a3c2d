import ResellerBot.Rebecca.Openapi
import ResellerBot.Pool

/-!
# ResellerBot.Rebecca.Routes — the requests of `HTTPRebeccaClient` (`app/rebecca/client.py`)

The methods of the client over the raw responses of Rebecca.  The object is shared by all coroutines
of the bot, so reading and assigning its attributes are steps of their own beside the requests.
What pydantic makes of an admin or a user is a parameter.
-/

open Interact

namespace ResellerBot

/-! ## Requests -/

inductive Verb
  | get | post | put | delete
  deriving DecidableEq

/-- The key of the operation in an OpenAPI document. -/
def Verb.text : Verb → String
  | .get => "get"
  | .post => "post"
  | .put => "put"
  | .delete => "delete"

inductive Body
  | empty
  | newAdmin (username : String) (payload : AdminPayload)
  | admin (payload : AdminPayload)
  | user (payload : Json)

structure RawRequest where
  verb : Verb
  path : String
  params : List (String × String)
  body : Body

/-- `self.capabilities` and `self.operation_paths`. -/
structure Discovery where
  capabilities : Capabilities
  operationPaths : Capability → Option String

/-- The attributes of a new client. -/
def Discovery.nothing : Discovery := ⟨noCapabilities, fun _ => none⟩

/-- A step of a method: a read of the attributes, an assignment to one of them, a request. -/
inductive Wire
  | found
  | capabilities (value : Capabilities)
  | operationPaths (value : Capability → Option String)
  | http (r : RawRequest)

abbrev Wire.Resp : Wire → Type
  | .found => Discovery
  | .http _ => Except Err Json
  | _ => Unit

abbrev RawClient := Act Wire Wire.Resp Unit Err

/-- `template.format(username=username)` -/
def formatChars (username : List Char) : List Char → List Char
  | '\x7b' :: 'u' :: 's' :: 'e' :: 'r' :: 'n' :: 'a' :: 'm' :: 'e' :: '\x7d' :: rest =>
    username ++ formatChars username rest
  | c :: rest => c :: formatChars username rest
  | [] => []

def formatUsername (template username : String) : String :=
  String.ofList (formatChars username.toList template.toList)

namespace Json

/-- `bool(value)` -/
def truthy : Json → Bool
  | null => false
  | bool b => b
  | number _ _ nonzero => nonzero
  | text s => !s.isEmpty
  | array items => !items.isEmpty
  | object entries => !entries.isEmpty

/-- `data.get(key, data.get("items", data)) if isinstance(data, dict) else data` -/
def rows (data : Json) (key : String) : Json :=
  match data with
  | object entries => (lookupJson entries key).getD ((lookupJson entries "items").getD data)
  | _ => data

/-- `next((row for row in rows if row.get("username") == username), None)` -/
def exactRow (username : String) : List Json → Except Err (Option Json)
  | [] => .ok none
  | row :: rest => do
    match ← row.get "username" with
    | some (.text s) => if s = pyText username then pure (some row) else exactRow username rest
    | _ => exactRow username rest

/-- The list under `services` or `items`, or the list itself. -/
def services (data : Json) : Except Err (List Json) :=
  match data with
  | array items => .ok items
  | object entries =>
    match lookupJson entries "services", lookupJson entries "items" with
    | some (array items), _ => .ok items
    | _, some (array items) => .ok items
    | _, _ => .error ⟨.rebecca, "unexpected services response wrapper"⟩
  | _ => .error ⟨.rebecca, "unexpected services response"⟩

end Json

/-! ## The client -/

namespace RawClient

def found : RawClient Discovery := Act.request Wire.found

def setCapabilities (value : Capabilities) : RawClient Unit := Act.request (Wire.capabilities value)

def setOperationPaths (value : Capability → Option String) : RawClient Unit :=
  Act.request (Wire.operationPaths value)

def request (verb : Verb) (path : String) (params : List (String × String)) (body : Body) :
    RawClient Json := do
  let r : Except Err Json ← Act.request (Wire.http ⟨verb, path, params, body⟩)
  Act.outcome r

def require (name : Capability) : RawClient Unit := do
  let self ← found
  if self.capabilities name then pure ()
  else Act.raise ⟨.capabilityMissing, name.text⟩

def healthCheck : RawClient Bool := do
  match ← Act.attempt (request .get "/openapi.json" [] .empty) with
  | .ok _ => pure true
  | .error e => if e.isRebeccaError then pure false else Act.raise e

/-- An exception of `from_openapi` leaves what has been found before. -/
def detectCapabilities : RawClient Capabilities := do
  match ← Act.attempt (request .get "/openapi.json" [] .empty) with
  | .error e =>
    if e.isRebeccaError then do
      setCapabilities noCapabilities
      setOperationPaths fun _ => none
    else Act.raise e
  | .ok schema => do
    let capabilities ← Act.outcome (Document.fromOpenapi schema)
    setCapabilities capabilities
    let paths ← Act.outcome (Document.resolveOperationPaths schema)
    setOperationPaths paths
  let self ← found
  pure self.capabilities

/-- `_advertised_path` -/
def advertisedPath (capability : Capability) (format : String → String) : RawClient String := do
  require capability
  let self ← found
  match self.operationPaths capability with
  | none => Act.raise ⟨.capabilityMissing, capability.text ++ ": advertised route unavailable"⟩
  | some template => pure (format template)

/-- `_admin_payload`: an expiry is sent as a timestamp. -/
def adminPayload (payload : AdminPayload) : AdminPayload :=
  { payload with
    entitlement := { payload.entitlement with expire := storedExpire payload.entitlement.expire } }

section Models

variable {A U : Type} (adminOf : Json → Except Err A) (userOf : Json → Except Err U)

def getCurrentAdmin : RawClient (Option A) := do
  let data ← request .get "/api/admin" [] .empty
  if data.truthy then do
    let admin ← Act.outcome (adminOf data)
    pure (some admin)
  else pure none

def getAdmin (username : String) : RawClient (Option A) := do
  require .admin_get
  let data ← request .get "/api/admins" [("username", username)] .empty
  match data.rows "admins" with
  | .array rows => do
    match ← Act.outcome (Json.exactRow username rows) with
    | none => pure none
    | some row => do
      let admin ← Act.outcome (adminOf row)
      pure (some admin)
  | _ => Act.raise ⟨.rebecca, "unexpected /api/admins response"⟩

def createResellerAdmin (username : String) (payload : AdminPayload) : RawClient A := do
  require .admin_create
  if payload.role ≠ some "reseller" then Act.raise ⟨.valueError, "reseller role is mandatory"⟩
  else do
    let data ← request .post "/api/admin" [] (.newAdmin username (adminPayload payload))
    Act.outcome (adminOf data)

def updateAdmin (username : String) (payload : AdminPayload) : RawClient A := do
  require .admin_update
  let _ ← request .put (adminPath username) [] (.admin (adminPayload payload))
  match ← getAdmin adminOf username with
  | none => Act.raise ⟨.rebecca, "admin disappeared after update"⟩
  | some live => pure live

def adminAction (username action : String) (capability : Capability) : RawClient Unit := do
  require capability
  let _ ← request .post (adminActionPath username action) [] .empty
  pure ()

def getAdminUsage (username : String) : RawClient (List (PyText × Json)) := do
  let path ← advertisedPath .admin_usage (formatUsername · username)
  let data ← request .get path [] .empty
  match data with
  | .object entries => pure entries
  | _ => Act.raise ⟨.rebecca, "unexpected admin usage response"⟩

def listAdminUsers (username : String) : RawClient (List U) := do
  require .user_list_by_owner
  let data ← request .get "/api/users" [("admin_username", username)] .empty
  let rows ← Act.outcome (data.rows "users").elements
  Act.outcome (rows.mapM userOf)

def getUser (username : String) : RawClient (Option U) := do
  require .user_get
  match ← Act.attempt (request .get ("/api/user/" ++ username) [] .empty) with
  | .error e => if e.kind = .notFound then pure none else Act.raise e
  | .ok data => do
    let user ← Act.outcome (userOf data)
    pure (some user)

def createUser (payload : Json) : RawClient U := do
  require .user_create
  let data ← request .post "/api/user" [] (.user payload)
  Act.outcome (userOf data)

def updateUser (username : String) (payload : Json) : RawClient U := do
  require .user_update
  match ← getUser userOf username with
  | none => Act.raise (notFoundError username)
  | some _ => do
    let _ ← request .put ("/api/user/" ++ username) [] (.user payload)
    match ← getUser userOf username with
    | none => Act.raise ⟨.rebecca, "user disappeared after update"⟩
    | some live => pure live

/-- `delete_user`, `reset_user_usage` and `revoke_subscription`. -/
def userAction (username : String) (capability : Capability) (verb : Verb) (path : String) :
    RawClient Unit := do
  require capability
  match ← getUser userOf username with
  | none => Act.raise (notFoundError username)
  | some _ => do
    let _ ← request verb path [] .empty
    pure ()

def deleteUser (username : String) : RawClient Unit :=
  userAction userOf username .user_delete .delete ("/api/user/" ++ username)

def resetUserUsage (username : String) : RawClient Unit :=
  userAction userOf username .user_reset .post ("/api/user/" ++ username ++ "/reset")

def revokeSubscription (username : String) : RawClient Unit :=
  userAction userOf username .user_revoke .post ("/api/user/" ++ username ++ "/revoke_sub")

def listServices : RawClient (List Json) := do
  let path ← advertisedPath .services_list id
  let data ← request .get path [] .empty
  let rows ← Act.outcome data.services
  if rows.all fun item => item.members?.isSome then pure rows
  else Act.raise ⟨.rebecca, "services response contains non-object entries"⟩

def disableUser (username : String) : RawClient U :=
  updateUser userOf username (.object [(pyText "status", .text (pyText "disabled"))])

def enableUser (username : String) : RawClient U :=
  updateUser userOf username (.object [(pyText "status", .text (pyText "active"))])

end Models

end RawClient

/-! ## Calls of methods -/

inductive Method
  | healthCheck
  | detectCapabilities
  | getCurrentAdmin
  | getAdmin (username : String)
  | createResellerAdmin (username : String) (payload : AdminPayload)
  | updateAdmin (username : String) (payload : AdminPayload)
  | disableAdmin (username : String)
  | enableAdmin (username : String)
  | disableAdminUsers (username : String)
  | activateAdminUsers (username : String)
  | getAdminUsage (username : String)
  | listAdminUsers (username : String)
  | getUser (username : String)
  | createUser (payload : Json)
  | updateUser (username : String) (payload : Json)
  | disableUser (username : String)
  | enableUser (username : String)
  | deleteUser (username : String)
  | resetUserUsage (username : String)
  | revokeSubscription (username : String)
  | listServices

namespace Method

/-- The name that a method puts into its paths. -/
def username : Method → String
  | getAdmin u | createResellerAdmin u _ | updateAdmin u _ | disableAdmin u | enableAdmin u
  | disableAdminUsers u | activateAdminUsers u | getAdminUsage u | listAdminUsers u | getUser u
  | updateUser u _ | disableUser u | enableUser u | deleteUser u | resetUserUsage u
  | revokeSubscription u => u
  | _ => ""

variable {A U : Type} (adminOf : Json → Except Err A) (userOf : Json → Except Err U)

/-- The coroutine of a call; its result is dropped. -/
def perform : Method → RawClient Unit
  | healthCheck => do let _ ← RawClient.healthCheck
  | detectCapabilities => do let _ ← RawClient.detectCapabilities
  | getCurrentAdmin => do let _ ← RawClient.getCurrentAdmin adminOf
  | getAdmin u => do let _ ← RawClient.getAdmin adminOf u
  | createResellerAdmin u payload => do let _ ← RawClient.createResellerAdmin adminOf u payload
  | updateAdmin u payload => do let _ ← RawClient.updateAdmin adminOf u payload
  | disableAdmin u => RawClient.adminAction u "disable" .admin_disable
  | enableAdmin u => RawClient.adminAction u "enable" .admin_enable
  | disableAdminUsers u => RawClient.adminAction u "users/disable" .admin_users_disable
  | activateAdminUsers u => RawClient.adminAction u "users/activate" .admin_users_activate
  | getAdminUsage u => do let _ ← RawClient.getAdminUsage u
  | listAdminUsers u => do let _ ← RawClient.listAdminUsers userOf u
  | getUser u => do let _ ← RawClient.getUser userOf u
  | createUser payload => do let _ ← RawClient.createUser userOf payload
  | updateUser u payload => do let _ ← RawClient.updateUser userOf u payload
  | disableUser u => do let _ ← RawClient.disableUser userOf u
  | enableUser u => do let _ ← RawClient.enableUser userOf u
  | deleteUser u => RawClient.deleteUser userOf u
  | resetUserUsage u => RawClient.resetUserUsage userOf u
  | revokeSubscription u => RawClient.revokeSubscription userOf u
  | listServices => do let _ ← RawClient.listServices

end Method

/-- The client object, with the documents that Rebecca has answered so far. -/
structure SharedClient where
  found : Discovery
  fetched : List Json

namespace SharedClient

def new : SharedClient := ⟨.nothing, []⟩

/-- Rebecca may answer anything. -/
def react (_ : ℕ) : (e : Wire) → Except Err Json → SharedClient → Option (e.Resp × SharedClient)
  | .found, _, self => some (self.found, self)
  | .capabilities value, _, self => some ((), { self with found.capabilities := value })
  | .operationPaths value, _, self => some ((), { self with found.operationPaths := value })
  | .http r, answer, self =>
    match answer with
    | .ok doc =>
      some (answer, if r.path = "/openapi.json" then { self with fetched := doc :: self.fetched }
        else self)
    | .error _ => some (answer, self)

/-- Any number of coroutines call methods of one client. -/
def system {A U : Type} (adminOf : Json → Except Err A) (userOf : Json → Except Err U) :
    System Wire Wire.Resp Method SharedClient (Except Err Json) where
  react := react
  prog m := (Method.perform adminOf userOf m ()).bind fun _ => .ret ()
  restart _ := new

end SharedClient

/-! ## Advertised requests -/

/-- A template whose braces stand around `username` only. -/
theorem formatChars_append (u pre rest : List Char) (h : '\x7b' ∉ pre) :
    formatChars u (pre ++ rest) = pre ++ formatChars u rest := by
  induction pre with
  | nil => rfl
  | cons c pre ih =>
    rw [List.mem_cons, not_or] at h
    rw [List.cons_append, List.cons_append, ← ih h.2]
    exact formatChars.eq_2 u c _ fun _ hc _ => h.1 hc.symm

theorem formatUsername_append (pre post u : String) (hpre : '\x7b' ∉ pre.toList)
    (hpost : '\x7b' ∉ post.toList) :
    formatUsername (pre ++ "\x7busername\x7d" ++ post) u = pre ++ u ++ post := by
  have hlast : formatChars u.toList post.toList = post.toList := by
    rw [← List.append_nil post.toList, formatChars_append _ _ _ hpost]
    rfl
  have hname : formatChars u.toList ("\x7busername\x7d".toList ++ post.toList) =
      u.toList ++ post.toList :=
    congrArg (u.toList ++ ·) hlast
  rw [formatUsername, String.toList_append, String.toList_append, List.append_assoc,
    formatChars_append _ _ _ hpre, hname, String.ofList_append, String.ofList_append,
    String.ofList_toList, String.ofList_toList, String.ofList_toList, String.append_assoc]

/-- The path of `admin_usage`, where it is advertised as the candidates have it first. -/
theorem formatUsername_usage (u : String) :
    formatUsername "/api/admin/usage/\x7busername\x7d" u = adminUsagePath u := by
  have h := formatUsername_append "/api/admin/usage/" "" u (by decide) (by decide)
  rwa [String.append_empty, String.append_empty] at h

theorem formatUsername_of_not_mem (template u : String) (h : '\x7b' ∉ template.toList) :
    formatUsername template u = template := by
  have hlast : formatChars u.toList template.toList = template.toList := by
    rw [← List.append_nil template.toList, formatChars_append _ _ _ h]
    rfl
  rw [formatUsername, hlast, String.ofList_toList]

/-- An operation of a legible document, at the path of `username`. -/
def Routed (username : String) (docs : List Json) (verb : Verb) (path : String) : Prop :=
  ∃ doc ∈ docs, doc.Legible ∧ ∃ template,
    (doc.schema.operation template verb.text).isSome ∧ path = formatUsername template username

/-- The requests that need no capability. -/
def RawRequest.Unguarded (r : RawRequest) : Prop :=
  r.verb = .get ∧ (r.path = "/openapi.json" ∨ r.path = "/api/admin")

/-- A capability that a legible document gives. -/
def Offered (docs : List Json) (cap : Capability) : Prop :=
  ∃ doc ∈ docs, doc.Legible ∧ ResellerBot.fromOpenapi doc.schema cap = true

/-- A path that a legible document gives for a capability. -/
def Resolved (docs : List Json) (cap : Capability) (path : String) : Prop :=
  ∃ doc ∈ docs, doc.Legible ∧ resolveOperationPath doc.schema cap = some path

/-- What the client has found stands in the documents. -/
structure Grounded (docs : List Json) (s : Discovery) : Prop where
  capabilities : ∀ cap, s.capabilities cap = true → Offered docs cap
  operationPaths : ∀ cap, ∀ path ∈ s.operationPaths cap, Resolved docs cap path

/-- A coroutine knows some of the documents that have been fetched. -/
def sharing (username : String) : Spec Wire Wire.Resp (List Json) where
  pre docs
    | .found => True
    | .capabilities value => ∀ cap, value cap = true → Offered docs cap
    | .operationPaths value => ∀ cap, ∀ path ∈ value cap, Resolved docs cap path
    | .http r => r.Unguarded ∨ Routed username docs r.verb r.path
  next docs
    | .found, s, docs' => docs ⊆ docs' ∧ Grounded docs' s
    | .http r, answer, docs' =>
      docs ⊆ docs' ∧ (r.path = "/openapi.json" → ∀ doc, answer = .ok doc → doc ∈ docs')
    | _, _, docs' => docs ⊆ docs'

/-- Documents are never forgotten while the object lives. -/
def Persistent (P : List Json → Prop) : Prop :=
  ∀ docs docs', docs ⊆ docs' → P docs → P docs'

section Advertised

variable {docs docs' : List Json} {u : String} {cap : Capability} {verb : Verb} {path : String}

theorem Offered.persistent : Persistent (Offered · cap) := by
  rintro docs docs' hsub ⟨doc, hdoc, h⟩
  exact ⟨doc, hsub hdoc, h⟩

theorem Resolved.persistent : Persistent (Resolved · cap path) := by
  rintro docs docs' hsub ⟨doc, hdoc, h⟩
  exact ⟨doc, hsub hdoc, h⟩

theorem Routed.persistent : Persistent (Routed u · verb path) := by
  rintro docs docs' hsub ⟨doc, hdoc, h⟩
  exact ⟨doc, hsub hdoc, h⟩

theorem Persistent.and {P P' : List Json → Prop} (h : Persistent P) (h' : Persistent P') :
    Persistent fun docs => P docs ∧ P' docs :=
  fun _ _ hsub hp => ⟨h _ _ hsub hp.1, h' _ _ hsub hp.2⟩

theorem Grounded.mono {s : Discovery} (h : Grounded docs s) (hsub : docs ⊆ docs') : Grounded docs' s :=
  ⟨fun cap hcap => Offered.persistent _ _ hsub (h.capabilities cap hcap),
    fun cap path hpath => Resolved.persistent _ _ hsub (h.operationPaths cap path hpath)⟩

/-- A route that has been resolved is one of the candidates, and the document has it. -/
theorem resolveOperationPath_some {schema : Schema}
    (h : resolveOperationPath schema cap = some path) :
    ∃ method, (path, method) ∈ OPERATION_CANDIDATES cap ∧
      (schema.operation path method).isSome := by
  obtain ⟨⟨template, method⟩, hc, rfl⟩ := Option.map_eq_some_iff.mp h
  have hop := List.find?_some hc
  exact ⟨method, List.mem_of_find?_eq_some hc, hop⟩

theorem Resolved.routed (h : Resolved docs cap path)
    (hverb : ∀ c ∈ OPERATION_CANDIDATES cap, c.2 = verb.text) (u : String) :
    Routed u docs verb (formatUsername path u) := by
  obtain ⟨doc, hdoc, hl, hr⟩ := h
  obtain ⟨method, hmem, hop⟩ := resolveOperationPath_some hr
  obtain rfl : method = verb.text := hverb _ hmem
  exact ⟨doc, hdoc, hl, path, hop, rfl⟩

theorem fromOpenapi_eq {schema : Schema} (hcap : cap ≠ .user_list_by_owner) :
    ResellerBot.fromOpenapi schema cap = (resolveOperationPath schema cap).isSome := by
  cases cap <;> first | rfl | exact absurd rfl hcap

theorem Offered.routed (h : Offered docs cap) {template : String}
    (hc : OPERATION_CANDIDATES cap = [(template, verb.text)]) (u : String) :
    Routed u docs verb (formatUsername template u) := by
  have hcap : cap ≠ .user_list_by_owner := by
    rintro rfl
    cases hc
  obtain ⟨doc, hdoc, hl, ho⟩ := h
  rw [fromOpenapi_eq hcap] at ho
  obtain ⟨path, hpath⟩ := Option.isSome_iff_exists.mp ho
  obtain ⟨method, hmem, hop⟩ := resolveOperationPath_some hpath
  rw [hc, List.mem_singleton] at hmem
  cases hmem
  exact ⟨doc, hdoc, hl, template, hop, rfl⟩

theorem Offered.users (h : Offered docs .user_list_by_owner) (u : String) :
    Routed u docs .get "/api/users" := by
  obtain ⟨doc, hdoc, hl, ho⟩ := h
  refine ⟨doc, hdoc, hl, "/api/users", ?_, (formatUsername_of_not_mem _ _ (by decide)).symm⟩
  cases hop : doc.schema.operation "/api/users" Verb.get.text with
  | some names => rfl
  | none =>
    have hnone : doc.schema.operation "/api/users" "get" = none := hop
    rw [ResellerBot.fromOpenapi, listsByOwner, hnone] at ho
    cases ho

end Advertised

/-! ## Coroutines -/

/-- From `P`, each request of `m` is advertised or needs no capability; `Q` holds of its result. -/
def Sharing {α : Type} (u : String) (P : List Json → Prop) (m : RawClient α)
    (Q : α → List Json → Prop) : Prop :=
  Act.Holds (sharing u) (fun _ => P) m (fun a _ => Q a) fun _ _ _ => True

namespace Sharing

open RawClient

variable {α β : Type} {u : String} {P : List Json → Prop} {Q : α → List Json → Prop}
  {cap : Capability} {verb : Verb} {path : String} {params : List (String × String)} {body : Body}

theorem bind {m : RawClient α} {f : α → RawClient β} {Q₂ : β → List Json → Prop}
    (hm : Sharing u P m Q) (hf : ∀ a, Sharing u (Q a) (f a) Q₂) : Sharing u P (m >>= f) Q₂ :=
  Act.Holds.bind hm hf

theorem pure {a : α} : Sharing u P (Pure.pure a) fun _ => P := Act.Holds.pure fun _ _ h => h

theorem raise {e : Err} : Sharing u P (Act.raise e : RawClient α) Q :=
  Act.Holds.raise fun _ _ _ => trivial

theorem outcome {r : Except Err α} : Sharing u P (Act.outcome r) fun _ => P :=
  Act.Holds.outcome (fun _ _ _ _ h => h) fun _ _ _ _ _ => trivial

/-- What is returned comes from the outcome. -/
theorem outcomeOf {r : Except Err α} {f : α → RawClient β} {Q₂ : β → List Json → Prop}
    (hf : ∀ a, r = .ok a → Sharing u P (f a) Q₂) : Sharing u P (Act.outcome r >>= f) Q₂ :=
  bind (Q := fun a docs => r = .ok a ∧ P docs)
    (Act.Holds.outcome (fun _ ha _ _ h => ⟨ha, h⟩) fun _ _ _ _ _ => trivial)
    fun a => Act.Holds.fact (P := fun _ => P) (hf a)

theorem drop {m : RawClient α} (hm : Sharing u P m fun _ => P) :
    Sharing u P (do let _ ← m) fun _ => P :=
  hm.bind fun _ => .pure

theorem found (hP : Persistent P) : Sharing u P RawClient.found fun s docs => P docs ∧ Grounded docs s :=
  Act.Holds.request (fun _ _ _ => trivial) fun _ docs _ docs' h hn => ⟨hP docs docs' hn.1 h, hn.2⟩

theorem require (hP : Persistent P) :
    Sharing u P (RawClient.require cap) fun _ docs => P docs ∧ Offered docs cap := by
  refine (found hP).bind fun s => ?_
  by_cases hcap : s.capabilities cap = true
  · rw [if_pos hcap]
    exact Act.Holds.pure fun _ docs h => ⟨h.1, h.2.capabilities cap hcap⟩
  · rw [if_neg hcap]
    exact .raise

/-- A request: a document is known once it has been answered. -/
theorem answered (hP : Persistent P)
    (h : ∀ docs, P docs → (RawRequest.mk verb path params body).Unguarded ∨
      Routed u docs verb path) :
    Act.Holds (sharing u) (fun _ => P) (RawClient.request verb path params body)
      (fun data _ docs => P docs ∧ (path = "/openapi.json" → data ∈ docs)) fun _ _ => P := by
  refine Act.Holds.bind (Q := fun answer _ docs =>
    P docs ∧ (path = "/openapi.json" → ∀ doc, answer = .ok doc → doc ∈ docs)) ?_ fun answer => ?_
  · exact Act.Holds.request (fun _ docs hp => h docs hp)
      fun _ docs _ docs' hp hn => ⟨hP docs docs' hn.1 hp, hn.2⟩
  · refine Act.Holds.outcome ?_ fun _ _ _ _ hp => hp.1
    rintro data rfl _ docs hp
    exact ⟨hp.1, fun hpath => hp.2 hpath data rfl⟩

theorem request (hP : Persistent P) (h : ∀ docs, P docs → Routed u docs verb path) :
    Sharing u P (RawClient.request verb path params body) fun _ => P :=
  (answered hP fun docs hp => .inr (h docs hp)).conseq (fun _ _ hp => hp) (fun _ _ _ hp => hp.1)
    fun _ _ _ _ => trivial

/-- The outcome of a request is looked at. -/
theorem attempt (hP : Persistent P)
    (h : ∀ docs, P docs → (RawRequest.mk verb path params body).Unguarded ∨
      Routed u docs verb path) :
    Sharing u P (Act.attempt (RawClient.request verb path params body)) fun r docs =>
      P docs ∧ (path = "/openapi.json" → ∀ doc, r = .ok doc → doc ∈ docs) := by
  refine (Act.Holds.attempt (answered hP h)).post ?_
  rintro (e | data) _ docs hp
  · exact ⟨hp, fun _ _ hr => nomatch hr⟩
  · refine ⟨hp.1, fun hpath doc hr => ?_⟩
    cases hr
    exact hp.2 hpath

theorem setCapabilities (hP : Persistent P) {value : Capabilities}
    (h : ∀ docs, P docs → ∀ cap, value cap = true → Offered docs cap) :
    Sharing u P (RawClient.setCapabilities value) fun _ => P :=
  Act.Holds.request (fun _ docs hp => h docs hp) fun _ docs _ docs' hp hn => hP docs docs' hn hp

theorem setOperationPaths (hP : Persistent P) {value : Capability → Option String}
    (h : ∀ docs, P docs → ∀ cap, ∀ path ∈ value cap, Resolved docs cap path) :
    Sharing u P (RawClient.setOperationPaths value) fun _ => P :=
  Act.Holds.request (fun _ docs hp => h docs hp) fun _ docs _ docs' hp hn => hP docs docs' hn hp

/-- A capability, and then the request that it stands for. -/
theorem guarded (hP : Persistent P)
    (h : ∀ docs, Offered docs cap → Routed u docs verb path) {f : Json → RawClient α}
    (hf : ∀ data, Sharing u (fun docs => P docs ∧ Offered docs cap) (f data) fun _ => P) :
    Sharing u P (do RawClient.require cap; f (← RawClient.request verb path params body))
      fun _ => P :=
  (require hP).bind fun _ =>
    (request (hP.and Offered.persistent) fun docs hp => h docs hp.2).bind hf

theorem conclude {m : RawClient α} (hm : Sharing u P m Q) : Sharing u P m fun _ _ => True :=
  Act.Holds.post hm fun _ _ _ _ => trivial

theorem weaken (P' : List Json → Prop) {m : RawClient α} (hm : Sharing u P' m Q)
    (h : ∀ docs, P docs → P' docs) : Sharing u P m Q :=
  Act.Holds.pre hm fun _ => h

/-! ### Paths -/

theorem namedPath {before after : String} (hbefore : '\x7b' ∉ before.toList)
    (hafter : '\x7b' ∉ after.toList)
    (hc : OPERATION_CANDIDATES cap = [(before ++ "\x7busername\x7d" ++ after, verb.text)])
    (docs : List Json) (h : Offered docs cap) : Routed u docs verb (before ++ u ++ after) := by
  rw [← formatUsername_append _ _ _ hbefore hafter]
  exact h.routed hc u

theorem plainPath (hpath : '\x7b' ∉ path.toList)
    (hc : OPERATION_CANDIDATES cap = [(path, verb.text)]) (docs : List Json)
    (h : Offered docs cap) : Routed u docs verb path := by
  rw [← formatUsername_of_not_mem path u hpath]
  exact h.routed hc u

theorem lastPath {before : String} (hbefore : '\x7b' ∉ before.toList)
    (hc : OPERATION_CANDIDATES cap = [(before ++ "\x7busername\x7d" ++ "", verb.text)])
    (docs : List Json) (h : Offered docs cap) : Routed u docs verb (before ++ u) := by
  have := namedPath (u := u) hbefore (by decide) hc docs h
  rwa [String.append_empty] at this

/-! ### Methods -/

section Methods

variable {A U : Type} {adminOf : Json → Except Err A} {userOf : Json → Except Err U}

theorem adminAction {action : String} (hafter : '\x7b' ∉ ("/" ++ action).toList)
    (hc : OPERATION_CANDIDATES cap =
      [("/api/admin/" ++ "\x7busername\x7d" ++ ("/" ++ action), Verb.post.text)]) :
    Sharing u (fun _ => True) (RawClient.adminAction u action cap) fun _ _ => True := by
  refine guarded (fun _ _ _ h => h) ?_ fun _ => pure.weaken _ fun _ _ => trivial
  rw [adminActionPath, String.append_assoc]
  exact namedPath (by decide) hafter hc

theorem getAdmin (hP : Persistent P) : Sharing u P (RawClient.getAdmin adminOf u) fun _ => P := by
  refine guarded hP (plainPath (by decide) rfl) fun data => ?_
  refine weaken P ?_ fun _ h => h.1
  split
  · refine outcome.bind fun row => ?_
    cases row with
    | none => exact pure
    | some row => exact outcome.bind fun _ => pure
  · exact raise

theorem updateAdmin {payload : AdminPayload} :
    Sharing u (fun _ => True) (RawClient.updateAdmin adminOf u payload) fun _ _ => True := by
  refine guarded (fun _ _ _ h => h) ?_ fun _ => ?_
  · exact lastPath (by decide) rfl
  · refine (getAdmin (fun _ _ _ _ => trivial)).weaken _ (fun _ _ => trivial) |>.bind fun live => ?_
    cases live with
    | none => exact raise
    | some live => exact pure

theorem createResellerAdmin {payload : AdminPayload} :
    Sharing u (fun _ => True) (RawClient.createResellerAdmin adminOf u payload) fun _ _ => True := by
  refine (require fun _ _ _ h => h).bind fun _ => ?_
  split_ifs
  · exact raise
  · refine (request (Persistent.and (fun _ _ _ h => h) Offered.persistent) ?_).bind fun _ =>
      outcome.conclude
    exact fun docs h => plainPath (by decide) rfl docs h.2

theorem getUser (hP : Persistent P) : Sharing u P (RawClient.getUser userOf u) fun _ => P := by
  refine (require hP).bind fun _ => ?_
  refine (attempt (hP.and Offered.persistent) fun docs h =>
    .inr (lastPath (by decide) rfl docs h.2)).bind fun r => ?_
  refine weaken P ?_ fun _ h => h.1.1
  cases r with
  | error e =>
    show Sharing u P (if e.kind = .notFound then _ else _) _
    split_ifs
    · exact pure
    · exact raise
  | ok data => exact outcome.bind fun _ => pure

theorem updateUser {payload : Json} :
    Sharing u (fun _ => True) (RawClient.updateUser userOf u payload) fun _ _ => True := by
  have hkeep : Persistent fun docs => True ∧ Offered docs .user_update :=
    .and (fun _ _ _ h => h) Offered.persistent
  refine (require fun _ _ _ h => h).bind fun _ => (getUser hkeep).bind fun user => ?_
  cases user with
  | none => exact raise
  | some _ =>
    refine (request hkeep fun docs h => lastPath (by decide) rfl docs h.2).bind fun _ => ?_
    refine (getUser hkeep).bind fun live => ?_
    cases live with
    | none => exact raise
    | some live => exact pure.conclude

theorem userAction {path : String} (h : ∀ docs, Offered docs cap → Routed u docs verb path) :
    Sharing u (fun _ => True) (RawClient.userAction userOf u cap verb path) fun _ _ => True := by
  have hkeep : Persistent fun docs => True ∧ Offered docs cap :=
    .and (fun _ _ _ h => h) Offered.persistent
  refine (require fun _ _ _ h => h).bind fun _ => (getUser hkeep).bind fun user => ?_
  cases user with
  | none => exact raise
  | some _ => exact (request hkeep fun docs ho => h docs ho.2).bind fun _ => pure.conclude

theorem detectCapabilities :
    Sharing u (fun _ => True) RawClient.detectCapabilities fun _ _ => True := by
  have htrue : Persistent fun _ => True := fun _ _ _ h => h
  have hrest : Sharing u (fun _ => True) (do let self ← RawClient.found; Pure.pure self.capabilities)
      fun _ _ => True := (found htrue).bind fun _ => pure.conclude
  refine (attempt htrue fun _ _ => .inl ⟨rfl, .inl rfl⟩).bind fun r => ?_
  cases r with
  | error e =>
    dsimp only
    split_ifs
    · refine weaken (fun _ => True) ?_ fun _ _ => trivial
      refine (setCapabilities htrue ?_).bind fun _ => (setOperationPaths htrue ?_).bind fun _ => hrest
      · rintro docs - cap ⟨⟩
      · rintro docs - cap path ⟨⟩
    · exact raise
  | ok schema =>
    dsimp only
    have hknown : Persistent (schema ∈ ·) := fun _ _ hsub h => hsub h
    refine weaken (schema ∈ ·) ?_ fun _ h => h.2 rfl _ rfl
    refine outcomeOf fun capabilities hcaps => ?_
    obtain ⟨hlegible, rfl⟩ := fromOpenapi_ok_iff.mp hcaps
    refine (setCapabilities hknown fun docs hmem cap hcap =>
      ⟨schema, hmem, hlegible, hcap⟩).bind fun _ => outcomeOf fun paths hpaths => ?_
    obtain rfl : paths = resolveOperationPath schema.schema := by
      obtain ⟨top, rfl, -⟩ := hlegible
      rw [resolveOperationPaths_object] at hpaths
      exact (Except.ok.inj hpaths).symm
    exact (setOperationPaths hknown fun docs hmem cap path hpath =>
      ⟨schema, hmem, hlegible, hpath⟩).bind fun _ => hrest.weaken _ fun _ _ => trivial

theorem advertisedPath {format : String → String} :
    Sharing u (fun _ => True) (RawClient.advertisedPath cap format) fun path docs =>
      ∃ template, path = format template ∧ Resolved docs cap template := by
  have htrue : Persistent fun _ => True := fun _ _ _ h => h
  refine (require htrue).bind fun _ => ((found htrue).weaken _ fun _ _ => trivial).bind fun s => ?_
  cases hpath : s.operationPaths cap with
  | none => exact raise
  | some template =>
    exact Act.Holds.pure fun _ docs h => ⟨template, rfl, h.2.operationPaths cap template hpath⟩

theorem getAdminUsage :
    Sharing u (fun _ => True) (RawClient.getAdminUsage u) fun _ _ => True := by
  refine advertisedPath.bind fun path => ?_
  have hkeep : Persistent fun docs =>
      ∃ template, path = formatUsername template u ∧ Resolved docs .admin_usage template := by
    rintro docs docs' hsub ⟨template, hpath, h⟩
    exact ⟨template, hpath, h.persistent _ _ hsub⟩
  refine (request hkeep ?_).bind fun data => ?_
  · rintro docs ⟨template, rfl, h⟩
    exact h.routed (by decide) u
  · cases data <;> first | exact pure.conclude | exact raise

theorem listServices : Sharing u (fun _ => True) RawClient.listServices fun _ _ => True := by
  refine advertisedPath.bind fun path => ?_
  have hkeep : Persistent (Resolved · .services_list path) := Resolved.persistent
  have hplain : ∀ c ∈ OPERATION_CANDIDATES .services_list, '\x7b' ∉ c.1.toList := by decide
  refine weaken (Resolved · .services_list path) ?_ ?_
  · refine (request hkeep fun docs h => ?_).bind fun data =>
      outcome.bind fun rows => ?_
    · obtain ⟨doc, hdoc, hl, hr⟩ := id h
      obtain ⟨method, hmem, -⟩ := resolveOperationPath_some hr
      rw [← formatUsername_of_not_mem path u (hplain _ hmem)]
      exact h.routed (by decide) u
    · split_ifs
      · exact pure.conclude
      · exact raise
  · rintro docs ⟨template, rfl, h⟩
    exact h

/-- Every method keeps to what has been advertised. -/
theorem perform (m : Method) :
    Sharing m.username (fun _ => True) (m.perform adminOf userOf) fun _ _ => True := by
  have htrue : Persistent fun _ => True := fun _ _ _ h => h
  cases m with
  | healthCheck =>
    refine drop ((attempt htrue fun _ _ => .inl ⟨rfl, .inl rfl⟩).bind fun r => ?_)
    cases r with
    | ok data => exact pure.conclude
    | error e =>
      dsimp only
      split_ifs
      · exact pure.conclude
      · exact raise
  | detectCapabilities => exact detectCapabilities.drop
  | getCurrentAdmin =>
    refine drop (bind ((answered htrue fun _ _ => .inl ⟨rfl, .inr rfl⟩).conseq (fun _ _ h => h)
      (fun _ _ _ h => h) fun _ _ _ _ => trivial) fun data => ?_)
    split_ifs
    · exact outcome.bind fun _ => pure.conclude
    · exact pure.conclude
  | getAdmin u => exact (getAdmin htrue).drop
  | createResellerAdmin u payload => exact createResellerAdmin.drop
  | updateAdmin u payload => exact updateAdmin.drop
  | disableAdmin u => exact adminAction (by decide) rfl
  | enableAdmin u => exact adminAction (by decide) rfl
  | disableAdminUsers u => exact adminAction (by decide) rfl
  | activateAdminUsers u => exact adminAction (by decide) rfl
  | getAdminUsage u => exact getAdminUsage.drop
  | listAdminUsers u =>
    exact drop (guarded htrue (fun docs h => h.users u) fun _ =>
      outcome.bind fun _ => outcome.conclude)
  | getUser u => exact (getUser htrue).drop
  | createUser payload =>
    exact drop (guarded htrue (plainPath (by decide) rfl) fun _ => outcome.conclude)
  | updateUser u payload => exact updateUser.drop
  | disableUser u => exact updateUser.drop
  | enableUser u => exact updateUser.drop
  | deleteUser u => exact userAction (lastPath (by decide) rfl)
  | resetUserUsage u => exact userAction (namedPath (by decide) (by decide) rfl)
  | revokeSubscription u => exact userAction (namedPath (by decide) (by decide) rfl)
  | listServices => exact listServices.drop

end Methods

end Sharing

/-! ## Runs of the shared client -/

namespace SharedClient

abbrev Coroutines := Config Wire Wire.Resp Method SharedClient

/-- The attributes are assigned by the methods only; a restart makes a new object. -/
def owned (_ : Coroutines) : Move Method SharedClient (Except Err Json) → Prop
  | .env _ => False
  | _ => True

def start : Coroutines := ⟨new, fun _ => none⟩

section Runs

variable {A U : Type} {adminOf : Json → Except Err A} {userOf : Json → Except Err U}

/-- What is found stands in the documents, and the coroutines know no others. -/
structure Known (client : SharedClient) (vs : ℕ → Option (Method × List Json)) : Prop where
  backed : Grounded client.fetched client.found
  views : ∀ i m docs, vs i = some (m, docs) → docs ⊆ client.fetched

theorem Known.update {client client' : SharedClient} {vs : ℕ → Option (Method × List Json)}
    (h : Known client vs) (hsub : client.fetched ⊆ client'.fetched)
    (hb : Grounded client'.fetched client'.found) (i : ℕ) {x : Option (Method × List Json)}
    (hx : ∀ m docs, x = some (m, docs) → docs ⊆ client'.fetched) :
    Known client' (Function.update vs i x) := by
  refine ⟨hb, fun j m docs hj => ?_⟩
  by_cases hij : j = i
  · subst hij
    exact hx m docs (by simpa using hj)
  · rw [Function.update_of_ne hij] at hj
    exact List.Subset.trans (h.views j m docs hj) hsub

/-- A step of a coroutine that knows `docs`. -/
theorem Known.react {client client' : SharedClient} {vs : ℕ → Option (Method × List Json)} {i : ℕ}
    {m : Method} {docs : List Json} {e : Wire} {r : e.Resp} {answer : Except Err Json}
    (h : Known client vs) (hi : vs i = some (m, docs)) (hpre : (sharing m.username).pre docs e)
    (hr : react i e answer client = some (r, client')) :
    ∃ docs', (sharing m.username).next docs e r docs' ∧
      Known client' (Function.update vs i (some (m, docs'))) := by
  have hdocs := h.views i m docs hi
  cases e with
  | found =>
    cases hr
    refine ⟨client.fetched, ⟨hdocs, h.backed⟩, h.update (List.Subset.refl _) h.backed i ?_⟩
    rintro _ _ ⟨⟩
    exact List.Subset.refl _
  | capabilities value =>
    cases hr
    refine ⟨docs, List.Subset.refl _, h.update ?_ ⟨?_, ?_⟩ i ?_⟩
    · exact List.Subset.refl _
    · exact fun cap hcap => (hpre cap hcap).persistent _ _ hdocs
    · exact h.backed.operationPaths
    · rintro _ _ ⟨⟩
      exact hdocs
  | operationPaths value =>
    cases hr
    refine ⟨docs, List.Subset.refl _, h.update ?_ ⟨?_, ?_⟩ i ?_⟩
    · exact List.Subset.refl _
    · exact h.backed.capabilities
    · exact fun cap path hpath => (hpre cap path hpath).persistent _ _ hdocs
    · rintro _ _ ⟨⟩
      exact hdocs
  | http q =>
    have hfetched : client.fetched ⊆ client'.fetched ∧ client'.found = client.found ∧
        (q.path = "/openapi.json" → ∀ doc, r = .ok doc → doc ∈ client'.fetched) := by
      cases answer with
      | error e =>
        cases hr
        exact ⟨List.Subset.refl _, rfl, fun _ _ hd => nomatch hd⟩
      | ok doc =>
        simp only [SharedClient.react, Option.some.injEq, Prod.mk.injEq] at hr
        obtain ⟨rfl, rfl⟩ := hr
        split_ifs with hq
        · refine ⟨List.subset_cons_self _ _, rfl, fun _ d hd => ?_⟩
          cases hd
          exact List.mem_cons_self
        · exact ⟨List.Subset.refl _, rfl, fun hpath => absurd hpath hq⟩
    obtain ⟨hsub, hfound, hdoc⟩ := hfetched
    refine ⟨client'.fetched, ⟨List.Subset.trans hdocs hsub, hdoc⟩, h.update hsub ?_ i ?_⟩
    · exact hfound ▸ h.backed.mono hsub
    · rintro _ _ ⟨⟩
      exact List.Subset.refl _

theorem tracked_of_reach {c : Coroutines} (h : (system adminOf userOf).Reach owned start c) :
    ∃ vs, Tracked (fun m => sharing m.username) (fun _ => True) c vs ∧ Known c.world vs := by
  have hnew : Known new fun _ => none :=
    ⟨⟨fun _ hcap => (nomatch hcap), fun _ _ hpath => (nomatch hpath)⟩, fun _ _ _ hi => nomatch hi⟩
  have h0 : ∃ vs, Tracked (fun m => sharing m.username) (fun _ => True) start vs ∧
      Known start.world vs := ⟨fun _ => none, fun _ => rfl, hnew⟩
  have hprog : ∀ m, Ok (sharing m.username) ((system adminOf userOf).prog m)
      (fun _ _ => True) [] := by
    intro m
    have hok := @Sharing.perform A U adminOf userOf m () [] trivial
    exact Ok.bind hok fun _ _ _ => trivial
  refine System.Reach.invariant (fun m : Method => sharing m.username) (fun _ => True) [] Known
    hprog h0 ?_ ?_ ?_ ?_ ?_ h
  · intro client vs i m docs hk hi _
    exact hk.update (List.Subset.refl _) hk.backed i fun _ _ hx => nomatch hx
  · intro c vs i m hk _ _
    refine hk.update (List.Subset.refl _) hk.backed i ?_
    rintro _ _ ⟨⟩
    exact List.nil_subset _
  · intro c vs i m e k ch r client docs hk _ hi hpre _ hr
    exact hk.react hi hpre hr
  · intro c vs client _ hm
    cases hm
  · exact fun _ _ _ _ => hnew

/-- **Only advertised requests.**  However the coroutines of one client interleave, what it has found
stands in documents that it has fetched, and every request is an operation of such a document at
the path of its method's username, or one of the two that need no capability. -/
theorem requests_advertised {c : Coroutines} (h : (system adminOf userOf).Reach owned start c) :
    Grounded c.world.fetched c.world.found ∧ ∀ i m r, c.Asks i m (.http r) →
      r.Unguarded ∨ Routed m.username c.world.fetched r.verb r.path := by
  obtain ⟨vs, ht, hk⟩ := tracked_of_reach h
  refine ⟨hk.backed, ?_⟩
  rintro i m r ⟨k, hi⟩
  obtain ⟨docs, hv, hpre, -⟩ := ht.ask hi
  exact hpre.imp_right (Routed.persistent _ _ (hk.views i m docs hv))

end Runs

/-! ### A run -/

/-- A document with a single operation. -/
def disabling : Json :=
  .object [(pyText "paths", .object
    [(pyText "/api/admin/\x7busername\x7d/disable", .object [(pyText "post", .object [])])])]

/-- What the second coroutine is about to request, and for which call. -/
def asked (c : Coroutines) : Option (Method × RawRequest) :=
  match c.threads 1 with
  | some (m, .ask (.http r) _) => some (m, r)
  | _ => none

theorem asks_of_asked {c : Coroutines} {m : Method} {r : RawRequest} (h : asked c = some (m, r)) :
    c.Asks 1 m (.http r) := by
  unfold asked at h
  split at h
  · next k hc =>
    cases h
    exact ⟨k, hc⟩
  · cases h

def anyModel (_ : Json) : Except Err Unit := .ok ()

/-- A coroutine detects, and then another one disables an admin. -/
def detecting : List (Move Method SharedClient (Except Err Json)) :=
  [.spawn 0 .detectCapabilities, .spawn 1 (.disableAdmin "ali"), .run 0 (.ok disabling),
    .run 0 (.ok .null), .run 0 (.ok .null), .run 1 (.ok .null)]

theorem disabling_advertised : ∃ c, (system anyModel anyModel).Reach owned start c ∧
    Routed "ali" c.world.fetched .post "/api/admin/ali/disable" := by
  have h : (((system anyModel anyModel).runs start detecting).bind asked) =
      some (.disableAdmin "ali", ⟨.post, "/api/admin/ali/disable", [], .empty⟩) := rfl
  obtain ⟨c, hr, hc⟩ := Option.bind_eq_some_iff.mp h
  have hreach : (system anyModel anyModel).Reach owned start c := by
    refine .of_runs hr fun m hm c => ?_
    cases m with
    | env γ => simp [detecting] at hm
    | _ => trivial
  obtain hfree | hrouted := (requests_advertised hreach).2 1 _ _ (asks_of_asked hc)
  · cases hfree.1
  · exact ⟨c, hreach, hrouted⟩

end SharedClient

end ResellerBot
