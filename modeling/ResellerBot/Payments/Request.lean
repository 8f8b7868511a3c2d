import ResellerBot.Payments.Plisio

/-!
# ResellerBot.Payments.Request — the request of a Plisio callback (`app/payments/plisio.py`)

From the JSON body to the values that the handler compares.  The HMAC is a parameter, and so are
the depths to which the interpreter's stack lets a value be read and written, and the way Python
shows arrays and objects.
-/

open Interact

namespace ResellerBot

/-! ## Text -/

/-- Escapes in a JSON text can also give half of a surrogate pair, which no encoding takes. -/
inductive CodePoint
  | char (c : Char)
  | surrogate (n : Fin 2048)
  deriving DecidableEq, Repr

namespace CodePoint

def isSurrogate : CodePoint → Bool
  | .char _ => false
  | .surrogate _ => true

def isAscii : CodePoint → Bool
  | .char c => c.toNat < 128
  | .surrogate _ => false

def char? : CodePoint → Option Char
  | .char c => some c
  | .surrogate _ => none

end CodePoint

abbrev PyText := List CodePoint

def pyText (s : String) : PyText := s.toList.map .char

/-- The characters of a text, which are all of it if it can be encoded. -/
def plainText (s : PyText) : String := String.ofList (s.filterMap CodePoint.char?)

theorem plainText_pyText (k : String) : plainText (pyText k) = k := by
  have : (pyText k).filterMap CodePoint.char? = k.toList := by
    rw [pyText, List.filterMap_map]
    exact List.filterMap_some
  rw [plainText, this, String.ofList_toList]

theorem pyText_injective : Function.Injective pyText := by
  intro a b h
  rw [← plainText_pyText a, h, plainText_pyText]

/-- `text.encode()` -/
def encode (s : PyText) : Except Err String :=
  if s.any CodePoint.isSurrogate then .error (valueError "surrogates not allowed")
  else .ok (plainText s)

/-! ## Values -/

inductive Json
  | null
  | bool (b : Bool)
  /-- A number as `str` and as `json.dumps` write it. -/
  | number (shown dumped : String) (nonzero : Bool)
  | text (s : PyText)
  | array (items : List Json)
  | object (entries : List (PyText × Json))

mutual

/-- How many arrays and objects stand in one another. -/
def Json.depth : Json → ℕ
  | .array items => depthItems items + 1
  | .object entries => depthEntries entries + 1
  | .null | .bool _ | .number _ _ _ | .text _ => 0

def depthItems : List Json → ℕ
  | [] => 0
  | x :: xs => max x.depth (depthItems xs)

def depthEntries : List (PyText × Json) → ℕ
  | [] => 0
  | (_, x) :: es => max x.depth (depthEntries es)

end

/-- What the interpreter's stack has room for: how many arrays and objects in one another
`json.loads` and `json.dumps` follow, and the text of each one that `repr` does. -/
structure Stack where
  loads : ℕ
  dumps : ℕ
  repr : Json → Option String

/-! ## Reading a body -/

/-- A JSON value as it is written: its objects may have a key twice, and its integers any number of
digits.  A number with a fraction or an exponent is given as `str` and as `json.dumps` write it. -/
inductive JsonSource
  | null
  | bool (b : Bool)
  | int (n : ℤ)
  | float (shown dumped : String) (nonzero : Bool)
  | text (s : PyText)
  | array (items : List JsonSource)
  | object (members : List (PyText × JsonSource))

/-- `entries[key] = value`: a key that is there keeps its place. -/
def setKey (entries : List (PyText × Json)) (key : PyText) (value : Json) : List (PyText × Json) :=
  if entries.any (·.1 = key) then entries.map fun e => if e.1 = key then (key, value) else e
  else entries ++ [(key, value)]

/-- An integer of more than 4300 digits is not converted. -/
def loadsInt (n : ℤ) : Except Err Json :=
  if 10 ^ 4300 ≤ n.natAbs then
    .error (valueError "Exceeds the limit (4300 digits) for integer string conversion")
  else .ok (.number (toString n) (toString n) (n ≠ 0))

mutual

/-- `json.loads`, with room for so many arrays and objects in one another. -/
def JsonSource.loads : JsonSource → ℕ → Except Err Json
  | .null, _ => .ok .null
  | .bool b, _ => .ok (.bool b)
  | .int n, _ => loadsInt n
  | .float shown dumped nonzero, _ => .ok (.number shown dumped nonzero)
  | .text s, _ => .ok (.text s)
  | .array _, 0 | .object _, 0 => .error recursionError
  | .array items, room + 1 => do pure (.array (← loadsItems items room))
  | .object members, room + 1 => do pure (.object (← loadsMembers [] members room))

def loadsItems : List JsonSource → ℕ → Except Err (List Json)
  | [], _ => .ok []
  | x :: xs, room => do
    let value ← x.loads room
    let values ← loadsItems xs room
    pure (value :: values)

/-- The members, added to the entries of those before them. -/
def loadsMembers (entries : List (PyText × Json)) :
    List (PyText × JsonSource) → ℕ → Except Err (List (PyText × Json))
  | [], _ => .ok entries
  | (key, x) :: ms, room => do
    let value ← x.loads room
    loadsMembers (setKey entries key value) ms room

end

/-! ## Writing a message -/

/-- The value under a key. -/
def lookupJson (entries : List (PyText × Json)) (key : String) : Option Json :=
  (entries.find? (·.1 = pyText key)).map (·.2)

/-- How `json.dumps` writes a character of a text. -/
def escape : CodePoint → PyText
  | .surrogate n => [.surrogate n]
  | .char c =>
    if c = '"' then pyText "\\\""
    else if c = '\\' then pyText "\\\\"
    else if c = '\n' then pyText "\\n"
    else if c = '\r' then pyText "\\r"
    else if c = '\t' then pyText "\\t"
    else if c.toNat = 8 then pyText "\\b"
    else if c.toNat = 12 then pyText "\\f"
    else if c.toNat < 32 then
      (pyText "\\u00") ++
        [.char (Nat.digitChar (c.toNat / 16)), .char (Nat.digitChar (c.toNat % 16))]
    else [.char c]

def quoted (s : PyText) : PyText := pyText "\"" ++ s.flatMap escape ++ pyText "\""

mutual

/-- `json.dumps(value, ensure_ascii=False, separators=(",", ":"))` of a value that is not nested
too deep. -/
def dumps : Json → PyText
  | .null => pyText "null"
  | .bool b => pyText (if b then "true" else "false")
  | .number _ dumped _ => pyText dumped
  | .text s => quoted s
  | .array items => pyText "[" ++ dumpsItems false items ++ pyText "]"
  | .object entries => pyText "\x7b" ++ dumpsEntries false entries ++ pyText "\x7d"

/-- The items, after a comma if others stand before them. -/
def dumpsItems (comma : Bool) : List Json → PyText
  | [] => []
  | x :: xs => pyText (if comma then "," else "") ++ dumps x ++ dumpsItems true xs

def dumpsEntries (comma : Bool) : List (PyText × Json) → PyText
  | [] => []
  | (k, x) :: es =>
    pyText (if comma then "," else "") ++ quoted k ++ pyText ":" ++ dumps x ++ dumpsEntries true es

end

/-! ## The signature -/

/-- The body without its hash. -/
def unsigned (entries : List (PyText × Json)) : List (PyText × Json) :=
  entries.filter (·.1 ≠ pyText "verify_hash")

def callbackMessage (stack : Stack) (entries : List (PyText × Json)) : Except Err PyText :=
  if stack.dumps < (Json.object (unsigned entries)).depth then .error recursionError
  else .ok (dumps (.object (unsigned entries)))

def hexdigest (digits : List (Fin 16)) : String :=
  String.ofList (digits.map fun d => Nat.digitChar d)

/-- `hmac.compare_digest` of two texts, the second of which is a digest. -/
def compareDigest (supplied : PyText) (digest : String) : Except Err Bool :=
  if supplied.all CodePoint.isAscii then .ok (supplied = pyText digest)
  else .error (typeError "comparing strings with non-ASCII characters is not supported")

section Body

variable (sha1 : String → String → List (Fin 16)) (stack : Stack)
  (entries : List (PyText × Json))

/-- `callback_message(payload).encode()` -/
def encodedMessage : Except Err String := do encode (← callbackMessage stack entries)

/-- `signature`: the HMAC-SHA1 of the message under the secret. -/
def signature (secret : String) : Except Err String := do
  let message ← encodedMessage stack entries
  pure (hexdigest (sha1 secret message))

/-- `verify` of an object. -/
def verify (secret : String) : Except Err Bool :=
  match lookupJson entries "verify_hash" with
  | some (.text supplied) =>
    if supplied = [] ∨ secret = "" then .ok false
    else do
      let digest ← signature sha1 stack entries secret
      compareDigest supplied digest
  | _ => .ok false

/-- An array or an object in `str`. -/
def Stack.shown (v : Json) (truthy : Bool) : JsonValue :=
  match stack.repr v with
  | some rendered => .other rendered truthy
  | none => .deep truthy

/-- What the handler does with a value: `str` and truth. -/
def Json.value : Json → JsonValue
  | .null => .other "None" false
  | .bool b => .other (if b then "True" else "False") b
  | .number shown _ nonzero => .other shown nonzero
  | .text s => .text (plainText s)
  | .array items => stack.shown (.array items) (!items.isEmpty)
  | .object entries => stack.shown (.object entries) (!entries.isEmpty)

/-- The values that the handler compares. -/
def bodyTransaction : Transaction where
  id := (lookupJson entries "txn_id").map (Json.value stack)
  orderNumber := (lookupJson entries "order_number").map (Json.value stack)
  sourceCurrency := (lookupJson entries "source_currency").map (Json.value stack)
  sourceAmount := (lookupJson entries "source_amount").map (Json.value stack)
  status := (lookupJson entries "status").map (Json.value stack)

/-- What the endpoint does with the value that it has read. -/
def answerCallback (cfg : Settings) (body : Json) : Bot CallbackReply :=
  match body with
  | .object entries => do
    let verified ← Act.outcome (verify sha1 stack entries cfg.plisioSecretKey)
    callback cfg { (bodyTransaction stack entries).callback with verified := verified }
  | _ => Act.raise ⟨.attributeError, "object has no attribute 'get'"⟩

/-- `POST /payments/plisio/callback` -/
def postCallback (cfg : Settings) (body : JsonSource) : Bot CallbackReply := do
  let payload ← Act.outcome (body.loads stack.loads)
  answerCallback sha1 stack cfg payload

end Body

end ResellerBot
