import ResellerBot.Interact
import ResellerBot.Rebecca.Client

/-!
# ResellerBot.Rebecca.Http — `HTTPRebeccaClient` (`app/rebecca/capabilities.py`, `client.py`)

The client keeps the capabilities that it has found in the OpenAPI document of Rebecca, and a method
whose capability is missing raises before it makes a request.  `perform` is the method behind each
call of `ResellerBot.Rebecca.Client`.
-/

open Interact

namespace ResellerBot

/-! ## Capabilities -/

inductive Capability
  | admin_create | admin_get | admin_update | admin_disable | admin_enable
  | admin_users_disable | admin_users_activate | admin_usage
  | user_list_by_owner
  | user_get | user_create | user_update | user_delete | user_reset | user_revoke
  | services_list
  deriving DecidableEq, Repr

def Capability.text : Capability → String
  | .admin_create => "admin_create"
  | .admin_get => "admin_get"
  | .admin_update => "admin_update"
  | .admin_disable => "admin_disable"
  | .admin_enable => "admin_enable"
  | .admin_users_disable => "admin_users_disable"
  | .admin_users_activate => "admin_users_activate"
  | .admin_usage => "admin_usage"
  | .user_list_by_owner => "user_list_by_owner"
  | .user_get => "user_get"
  | .user_create => "user_create"
  | .user_update => "user_update"
  | .user_delete => "user_delete"
  | .user_reset => "user_reset"
  | .user_revoke => "user_revoke"
  | .services_list => "services_list"

abbrev Capabilities := Capability → Bool

/-- `Capabilities()`. -/
def noCapabilities : Capabilities := fun _ => false

/-- The `paths` of an OpenAPI document: the operations of each path by their method, with the names
of their parameters. -/
abbrev Schema := List (String × List (String × List String))

def OPERATION_CANDIDATES : Capability → List (String × String)
  | .admin_create => [("/api/admin", "post")]
  | .admin_get => [("/api/admins", "get")]
  | .admin_update => [("/api/admin/\x7busername\x7d", "put")]
  | .admin_disable => [("/api/admin/\x7busername\x7d/disable", "post")]
  | .admin_enable => [("/api/admin/\x7busername\x7d/enable", "post")]
  | .admin_users_disable => [("/api/admin/\x7busername\x7d/users/disable", "post")]
  | .admin_users_activate => [("/api/admin/\x7busername\x7d/users/activate", "post")]
  | .admin_usage =>
    [("/api/admin/usage/\x7busername\x7d", "get"), ("/api/admin/\x7busername\x7d/usage", "get")]
  | .user_list_by_owner => []
  | .user_get => [("/api/user/\x7busername\x7d", "get")]
  | .user_create => [("/api/user", "post")]
  | .user_update => [("/api/user/\x7busername\x7d", "put")]
  | .user_delete => [("/api/user/\x7busername\x7d", "delete")]
  | .user_reset => [("/api/user/\x7busername\x7d/reset", "post")]
  | .user_revoke => [("/api/user/\x7busername\x7d/revoke_sub", "post")]
  | .services_list => [("/api/v2/services", "get"), ("/api/services", "get")]

def Schema.operation (schema : Schema) (path method : String) : Option (List String) :=
  (schema.lookup path).bind (·.lookup method)

/-- The route that `resolve_operation_paths` finds for a capability. -/
def resolveOperationPath (schema : Schema) (name : Capability) : Option String :=
  ((OPERATION_CANDIDATES name).find? fun c => (schema.operation c.1 c.2).isSome).map Prod.fst

/-- Owner filtering is verified only when `/api/users` has an owner parameter. -/
def listsByOwner (schema : Schema) : Bool :=
  ((schema.operation "/api/users" "get").getD []).any fun name =>
    name = "admin_username" || name = "admin_id" || name = "owner"

def fromOpenapi (schema : Schema) : Capabilities
  | .user_list_by_owner => listsByOwner schema
  | name => (resolveOperationPath schema name).isSome

/-! ## Requests -/

inductive Http
  | openapi
  | getAdmins (username : Option String)
  | postAdmin (username : Option String) (payload : AdminPayload)
  | putAdmin (username : String) (payload : AdminPayload)
  | postAdminAction (username action : String)
  | getUsers (adminUsername : Option String)
  | getUser (username : String)
  | putUser (username status : String)
  | deleteUser (username : String)
  deriving DecidableEq

/-- The body of a response, as far as the client looks at it. -/
abbrev Http.Result : Http → Type
  | .openapi => Schema
  | .getAdmins _ => List Admin
  | .getUsers _ => List User
  | .getUser _ => User
  | _ => Unit

abbrev HttpResp (h : Http) : Type := Except Err h.Result

/-- `isinstance(exc, RebeccaError)`. -/
def Err.isRebeccaError (e : Err) : Bool :=
  match e.kind with
  | .rebecca | .unavailable | .capabilityMissing | .verification | .ambiguous | .notFound => true
  | _ => false

/-- The methods of the client, over the capabilities it has found. -/
abbrev HttpRebeccaClient := Act Http HttpResp Capabilities Err

namespace HttpRebeccaClient

def request (h : Http) : HttpRebeccaClient h.Result := do
  let r : HttpResp h ← Act.request h
  Act.outcome r

def require (name : Capability) : HttpRebeccaClient Unit := do
  let capabilities ← Act.state
  if capabilities name then pure ()
  else Act.raise ⟨.capabilityMissing, name.text⟩

/-- A document that is not there leaves no capabilities. -/
def detectCapabilities : HttpRebeccaClient Capabilities := do
  match ← Act.attempt (request .openapi) with
  | .error e =>
    if e.isRebeccaError then Act.modify fun _ => noCapabilities
    else Act.raise e
  | .ok schema => Act.modify fun _ => fromOpenapi schema
  Act.state

def getAdmin (username : Option String) : HttpRebeccaClient (Option Admin) := do
  require .admin_get
  let rows : List Admin ← request (.getAdmins username)
  pure (rows.find? fun row => some row.username = username)

def createResellerAdmin (username : Option String) (payload : AdminPayload) :
    HttpRebeccaClient Unit := do
  require .admin_create
  if payload.role ≠ some "reseller" then Act.raise ⟨.valueError, "reseller role is mandatory"⟩
  else request (.postAdmin username payload)

def updateAdmin (username : String) (payload : AdminPayload) : HttpRebeccaClient Unit := do
  require .admin_update
  request (.putAdmin username payload)
  match ← getAdmin (some username) with
  | none => Act.raise ⟨.rebecca, "admin disappeared after update"⟩
  | some _ => pure ()

def adminAction (username action : String) (capability : Capability) : HttpRebeccaClient Unit := do
  require capability
  request (.postAdminAction username action)

def listAdminUsers (username : Option String) : HttpRebeccaClient (List User) := do
  require .user_list_by_owner
  request (.getUsers username)

def getUser (username : String) : HttpRebeccaClient (Option User) := do
  require .user_get
  match ← Act.attempt (request (.getUser username)) with
  | .ok user => pure (some user)
  | .error e => if e.kind = .notFound then pure none else Act.raise e

def updateUser (username status : String) : HttpRebeccaClient Unit := do
  require .user_update
  match ← getUser username with
  | none => Act.raise (notFoundError username)
  | some _ => do
    request (.putUser username status)
    match ← getUser username with
    | none => Act.raise ⟨.rebecca, "user disappeared after update"⟩
    | some _ => pure ()

def deleteUser (username : String) : HttpRebeccaClient Unit := do
  require .user_delete
  match ← getUser username with
  | none => Act.raise (notFoundError username)
  | some _ => request (.deleteUser username)

/-- The method behind a call. -/
def perform : (c : Call) → HttpRebeccaClient c.Result
  | .detectCapabilities => do
    let capabilities ← detectCapabilities
    pure (capabilities .admin_users_disable)
  | .getAdmin username => getAdmin username
  | .createResellerAdmin username payload => createResellerAdmin username payload
  | .updateAdmin username payload => updateAdmin username payload
  | .disableAdmin username => adminAction username "disable" .admin_disable
  | .enableAdmin username => adminAction username "enable" .admin_enable
  | .disableAdminUsers username => adminAction username "users/disable" .admin_users_disable
  | .listAdminUsers username => listAdminUsers username
  | .getUser username => getUser username
  | .enableUser username => updateUser username "active"
  | .disableUser username => updateUser username "disabled"
  | .deleteUser username => deleteUser username

end HttpRebeccaClient

end ResellerBot
