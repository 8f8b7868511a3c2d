import ResellerBot.Rebecca.Models
import Mathlib.Logic.Function.Basic

/-!
# ResellerBot.Rebecca.Client — the calls of `RebeccaClient` and a server that obeys them

A call is one method of the client (`app/rebecca/client.py`): its requests are made in one step,
which either takes effect or does not, and whose response either arrives or is an exception.
`Server.perform` is the effect on a Rebecca that stores what it is sent: `serialize_expire` cuts an
expiry to whole seconds, and everything else is kept as it is.
-/

namespace ResellerBot

/-- The four values that make up what a customer has bought. -/
structure Entitlement where
  expire : Option Datetime
  dataLimit : Option ℤ
  services : List ServiceId
  usersLimit : Option ℤ
  deriving DecidableEq, Repr

/-- The JSON body of an admin write; a key that is not sent is `none`. -/
structure AdminPayload where
  entitlement : Entitlement
  password : Option String
  role : Option String
  permissions : Option (List (String × List (String × Bool)))
  telegramId : Option ℤ
  require2fa : Option Bool
  deriving DecidableEq

inductive Call
  | detectCapabilities
  | getAdmin (username : Option String)
  | createResellerAdmin (username : Option String) (payload : AdminPayload)
  | updateAdmin (username : String) (payload : AdminPayload)
  | disableAdmin (username : String)
  | enableAdmin (username : String)
  | disableAdminUsers (username : String)
  | listAdminUsers (username : Option String)
  | getUser (username : String)
  | enableUser (username : String)
  | disableUser (username : String)
  | deleteUser (username : String)
  deriving DecidableEq

/-- `detect_capabilities` is asked for `admin_users_disable` only; what the mutating calls return
is not looked at. -/
abbrev Call.Result : Call → Type
  | .detectCapabilities => Bool
  | .getAdmin _ => Option Admin
  | .listAdminUsers _ => List User
  | .getUser _ => Option User
  | _ => Unit

/-- A username as it is put into a request path: `f"/api/admin/{username}/enable"`. -/
def pathText (username : Option String) : String := username.getD "None"

/-- `f"/api/admin/{username}"` -/
def adminPath (username : String) : String := "/api/admin/" ++ username

/-- `f"/api/admin/{username}/{action}"` -/
def adminActionPath (username action : String) : String :=
  "/api/admin/" ++ username ++ "/" ++ action

/-- `/api/admin/usage/{username}` -/
def adminUsagePath (username : String) : String := "/api/admin/usage/" ++ username

/-! ## The server -/

/-- The admins by username, and the Telegram user each admin was created for by the bot. -/
structure Server where
  admins : String → Option Admin
  createdFor : String → Option ℤ

def notFoundError (path : String) : Err := ⟨.notFound, path⟩

namespace Server

/-- The client picks the row whose username is the one asked for. -/
def getAdmin (sv : Server) (username : Option String) : Option Admin :=
  username.bind fun u => (sv.admins u).map fun a => { a with username := u }

def setAdmin (sv : Server) (username : String) (a : Admin) : Server :=
  { sv with admins := Function.update sv.admins username (some a) }

/-- The admin as a PUT with this payload leaves it. -/
def written (a : Admin) (p : AdminPayload) : Admin :=
  { a with
    role := p.role.getD a.role
    expire := storedExpire p.entitlement.expire
    dataLimit := p.entitlement.dataLimit
    services := p.entitlement.services
    usersLimit := p.entitlement.usersLimit }

def created (username : String) (p : AdminPayload) : Admin :=
  { username, role := "reseller", status := "active"
    expire := storedExpire p.entitlement.expire
    dataLimit := p.entitlement.dataLimit
    usedTraffic := 0
    services := p.entitlement.services
    usersLimit := p.entitlement.usersLimit }

/-- The server after a call that takes effect, or the error it answers with. -/
def perform (sv : Server) : Call → Except Err Server
  | .createResellerAdmin username p =>
    if p.role ≠ some "reseller" then .error ⟨.valueError, "reseller role is mandatory"⟩
    else
      match username with
      | none => .error ⟨.rebecca, "Rebecca HTTP 422"⟩
      | some username =>
        match sv.admins username with
        | some _ => .error ⟨.rebecca, "Rebecca HTTP 409"⟩
        | none => .ok { sv.setAdmin username (created username p) with
            createdFor := Function.update sv.createdFor username p.telegramId }
  | .updateAdmin username p =>
    match sv.admins username with
    | some a => .ok (sv.setAdmin username (written a p))
    | none => .error (notFoundError (adminPath username))
  | .enableAdmin username =>
    match sv.admins username with
    | some a => .ok (sv.setAdmin username { a with status := "active" })
    | none => .error (notFoundError (adminActionPath username "enable"))
  | .disableAdmin username =>
    match sv.admins username with
    | some a => .ok (sv.setAdmin username { a with status := "disabled" })
    | none => .error (notFoundError (adminActionPath username "disable"))
  | _ => .ok sv

end Server

end ResellerBot
