import ResellerBot.Database.Session

/-!
# ResellerBot.Reseller.Service — usernames, passwords and provisioning (`app/reseller/service.py`)
-/

open Interact

namespace ResellerBot

def RESTRICTED_PERMISSIONS : List (String × List (String × Bool)) :=
  [("users",
    [("create", true), ("delete", true), ("reset_usage", true), ("revoke", true),
     ("create_on_hold", true), ("allow_unlimited_data", false), ("allow_unlimited_expire", false),
     ("allow_next_plan", false), ("advanced_actions", false), ("set_flow", false),
     ("allow_custom_key", false)]),
   ("admin_management",
    [("can_view", false), ("can_edit", false), ("can_manage_sudo", false),
     ("manage_sessions", false), ("manage_2fa", false)]),
   ("sudo", [("all", false)])]

/-- A token may be used unless it contains a secret that is not empty. -/
def passwordAllowed (forbidden : List String) (password : String) : Bool :=
  (forbidden.filter (· ≠ "")).all fun secret =>
    ¬password.toList.tails.any fun t => secret.toList.isPrefixOf t

/-- The first token drawn that `passwordAllowed` accepts. -/
def generatePassword (forbidden : List String) : Bot String := ask (.token forbidden)

def usernameSafe (c : Char) : Bool := ('a' ≤ c ∧ c ≤ 'z') ∨ ('0' ≤ c ∧ c ≤ '9') ∨ c = '_'

/-- Runs of unsafe characters, and runs of underscores, become one underscore. -/
def squeeze : List Char → List Char
  | [] => []
  | c :: cs =>
    let c := if usernameSafe c then c else '_'
    match squeeze cs with
    | '_' :: rest => if c = '_' then '_' :: rest else c :: '_' :: rest
    | rest => c :: rest

/-- `f"{number:04d}"`. -/
def fourDigits (number : ℕ) : String :=
  let digits := (toString number).toList
  String.ofList (List.replicate (4 - digits.length) '0' ++ digits)

def usernameBase (telegramUsername : Option String) : String :=
  let raw := lower (lstrip (· = '@') (strip isSpace (telegramUsername.getD "").toList))
  let base := (strip (· = '_') (squeeze raw)).take 48
  if base = [] then "reseller" else String.ofList base

/-- `username_candidate` with the suffix it draws. -/
def usernameCandidate (telegramUsername : Option String) (suffix : ℕ) : String :=
  usernameBase telegramUsername ++ "_" ++ fourDigits suffix

theorem usernameCandidate_ne (telegramUsername : Option String) (suffix : ℕ) :
    usernameCandidate telegramUsername suffix ≠ "" := by
  intro h
  have hl : '_' ∈ (usernameCandidate telegramUsername suffix).toList := by
    unfold usernameCandidate
    rw [String.toList_append, String.toList_append]
    exact List.mem_append_left _ (List.mem_append_right _ (by decide))
  rw [h] at hl
  exact absurd hl (by decide)

/-- `secrets.randbelow(9000) + 1000`. -/
def drawCandidate (telegramUsername : Option String) : Bot String := do
  let n : ℕ ← ask (.randbelow 9000)
  pure (usernameCandidate telegramUsername (n + 1000))

def sameSecond : Option Datetime → Option Datetime → Bool
  | none, none => true
  | some l, some r => unixSeconds l = unixSeconds r
  | _, _ => false

def verificationError (msg : String) : Err := ⟨.verification, msg⟩

/-- The order of the checks decides which text the error has. -/
def verifyEntitlement (live : Option Admin) (username : Option String) (want : Entitlement) :
    Except Err Admin :=
  match live with
  | none => .error (verificationError "admin identity verification failed")
  | some a =>
    if some a.username ≠ username then .error (verificationError "admin identity verification failed")
    else if a.role ≠ "reseller" then .error (verificationError "unsafe reseller role")
    else if ¬isActive a.status then .error (verificationError "reseller is not active")
    else if ¬sameSecond a.expire want.expire then
      .error (verificationError "expire verification failed")
    else if a.dataLimit ≠ want.dataLimit then
      .error (verificationError "data limit verification failed")
    else if ¬(a.services.all (· ∈ want.services) ∧ want.services.all (· ∈ a.services)) then
      .error (verificationError "services verification failed")
    else if a.usersLimit ≠ want.usersLimit then
      .error (verificationError "users limit verification failed")
    else .ok a

theorem verifyEntitlement_ok {live : Option Admin} {name : Option String} {want : Entitlement} {a : Admin}
    (h : verifyEntitlement live name want = .ok a) : live = some a := by
  unfold verifyEntitlement at h
  cases live with
  | none => cases h
  | some b =>
    dsimp only at h
    split_ifs at h
    rw [Except.ok.inj h]

/-- No admin is verified under a username that is NULL. -/
theorem verifyEntitlement_name {live : Option Admin} {name : Option String} {want : Entitlement}
    {a : Admin} (h : verifyEntitlement live name want = .ok a) : some a.username = name := by
  unfold verifyEntitlement at h
  cases live with
  | none => cases h
  | some b =>
    dsimp only at h
    split_ifs at h with hne
    rw [← Except.ok.inj h]
    exact not_not.mp hne

def unsafeRole (role : String) : Bool := role = "sudo" || role = "full_access"

/-- The disable of an unsafe admin: its failure is ignored. -/
def disableUnsafe (why : Cause) (username : Option String) : Bot Unit := do
  let _ ← Act.attempt (call why (.disableAdmin (pathText username)))

def provisionPayload (password : String) (want : Entitlement) (telegramId : Option ℤ) :
    AdminPayload where
  entitlement := want
  password := some password
  role := some "reseller"
  permissions := some RESTRICTED_PERMISSIONS
  telegramId := telegramId
  require2fa := some false

/-- The write for what was found under the username: nothing, a safe or an unsafe admin. -/
def writeAdmin (why : Cause) (username : Option String) (payload : AdminPayload) :
    Option Admin → Bot Unit
  | none => call why (.createResellerAdmin username payload)
  | some live =>
    if unsafeRole live.role then do
      disableUnsafe why username
      Act.raise (verificationError "unsafe reseller role")
    else call why (.updateAdmin (pathText username) payload)

/-- The verification after the write; an admin that has an unsafe role now is disabled. -/
def verifyAdmin (why : Cause) (username : Option String) (want : Entitlement) (live : Option Admin) :
    Bot Admin :=
  match verifyEntitlement live username want with
  | .ok a => pure a
  | .error e =>
    if (live.map (unsafeRole ·.role)).getD false then do
      disableUnsafe why username
      Act.raise e
    else Act.raise e

/-- Create the durably reserved username, or, where it exists already, reset it to the payload. The
username is a column that may be NULL. -/
def provision (why : Cause) (username : Option String) (password : String) (want : Entitlement)
    (telegramId : Option ℤ) : Bot Admin := do
  let live ← getAdmin username
  writeAdmin why username (provisionPayload password want telegramId) live
  let live ← getAdmin username
  verifyAdmin why username want live

end ResellerBot
