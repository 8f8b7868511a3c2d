import ResellerBot.Payments.Request
import ResellerBot.Rebecca.Http

/-!
# ResellerBot.Rebecca.Openapi — the document of Rebecca (`app/rebecca/capabilities.py`)

`resolve_operation_paths` and `from_openapi` of any JSON value, with the exceptions that they raise.
Whatever does not raise is read as the `Schema` that it stands for.
-/

namespace ResellerBot

/-! ## Members of JSON values -/

namespace Json

/-- The name of the type in the texts of exceptions. -/
def typeName : Json → String
  | null => "NoneType"
  | bool _ => "bool"
  | number shown _ _ => if shown.toList.all fun c => c.isDigit || c = '-' then "int" else "float"
  | text _ => "str"
  | array _ => "list"
  | object _ => "dict"

/-- `value.get(key)` -/
def get (x : Json) (key : String) : Except Err (Option Json) :=
  match x with
  | object entries => .ok (lookupJson entries key)
  | x => .error ⟨.attributeError, "'" ++ x.typeName ++ "' object has no attribute 'get'"⟩

/-- `value.get(key, default)` -/
def getOr (x : Json) (key : String) (default : Json) : Except Err Json := do
  pure ((← x.get key).getD default)

/-- `for item in value` -/
def elements : Json → Except Err (List Json)
  | array items => .ok items
  | object entries => .ok (entries.map fun e => text e.1)
  | text s => .ok (s.map fun c => text [c])
  | x => .error (typeError ("'" ++ x.typeName ++ "' object is not iterable"))

/-- The members of a dictionary, and of nothing else. -/
def members? : Json → Option (List (PyText × Json))
  | object entries => some entries
  | _ => none

end Json

/-! ## The document -/

namespace Document

/-- `isinstance(operation, dict) and method in operation` -/
def offers (paths : List (PyText × Json)) (path method : String) : Bool :=
  match (lookupJson paths path).bind Json.members? with
  | some operation => (lookupJson operation method).isSome
  | none => false

def resolveOperationPaths (schema : Json) : Except Err (Capability → Option String) := do
  match (← schema.get "paths").bind Json.members? with
  | none => pure fun _ => none
  | some paths =>
    pure fun name => ((OPERATION_CANDIDATES name).find? fun c => offers paths c.1 c.2).map Prod.fst

/-- `name in {"admin_username", "admin_id", "owner"}` -/
def isOwner : Option Json → Except Err Bool
  | some (.text s) =>
    .ok (s = pyText "admin_username" || s = pyText "admin_id" || s = pyText "owner")
  | some (.array _) => .error (typeError "unhashable type: 'list'")
  | some (.object _) => .error (typeError "unhashable type: 'dict'")
  | _ => .ok false

/-- `any(…)` stops at the first owner parameter. -/
def anyOwner : List Json → Except Err Bool
  | [] => .ok false
  | item :: rest => do
    let name ← item.get "name"
    let owner ← isOwner name
    if owner then pure true else anyOwner rest

/-- Owner filtering is verified only when `/api/users` has an owner parameter. -/
def userListByOwner (paths : Json) : Except Err Bool := do
  let users ← paths.getOr "/api/users" (.object [])
  let usersGet ← users.getOr "get" (.object [])
  let parameters ← usersGet.getOr "parameters" (.array [])
  let items ← parameters.elements
  anyOwner items

def detected (resolved : Capability → Option String) (byOwner : Bool) : Capabilities
  | .user_list_by_owner => byOwner
  | name => (resolved name).isSome

def fromOpenapi (schema : Json) : Except Err Capabilities := do
  let paths ← schema.getOr "paths" (.object [])
  let resolved ← resolveOperationPaths schema
  let byOwner ← userListByOwner paths
  pure (detected resolved byOwner)

end Document

/-! ## What a document stands for -/

namespace Json

/-- The text of a JSON value that a query string can carry. -/
def plain? (s : PyText) : Option String :=
  if s.any CodePoint.isSurrogate then none else some (plainText s)

/-- The members of a dictionary by their keys. -/
def fields (x : Json) : List (String × Json) :=
  (x.members?.getD []).filterMap fun e => (plain? e.1).map fun k => (k, e.2)

def parameterName (parameter : Json) : Option String :=
  match parameter.fields.lookup "name" with
  | some (text s) => plain? s
  | _ => none

/-- The names of the parameters of an operation. -/
def parameterNames (operation : Json) : List String :=
  match operation.fields.lookup "parameters" with
  | some (array items) => items.filterMap parameterName
  | _ => []

/-- The typed reading of a document. -/
def schema (doc : Json) : Schema :=
  (((doc.fields.lookup "paths").map fields).getD []).map fun e =>
    (e.1, e.2.fields.map fun o => (o.1, o.2.parameterNames))

end Json

section Fields

theorem plain_eq_some {s : PyText} {k : String} : Json.plain? s = some k ↔ s = pyText k := by
  unfold Json.plain?
  constructor
  · intro h
    split_ifs at h with hs
    obtain rfl := Option.some.inj h
    have hchars : ∀ c ∈ s, ∃ a, c = .char a := by
      intro c hc
      cases c with
      | char a => exact ⟨a, rfl⟩
      | surrogate n => exact absurd (List.any_eq_true.mpr ⟨_, hc, rfl⟩) hs
    rw [plainText, pyText, String.toList_ofList]
    clear h hs
    induction s with
    | nil => rfl
    | cons c s ih =>
      obtain ⟨a, rfl⟩ := hchars c List.mem_cons_self
      exact congrArg (CodePoint.char a :: ·) (ih fun c hc => hchars c (List.mem_cons_of_mem _ hc))
  · rintro rfl
    rw [if_neg, plainText_pyText]
    simp [pyText, CodePoint.isSurrogate]

/-- The member under a key. -/
theorem lookup_fields (x : Json) (key : String) :
    x.fields.lookup key = x.members?.bind fun entries => lookupJson entries key := by
  cases hx : x.members? with
  | none => simp [Json.fields, hx]
  | some entries =>
    simp only [Json.fields, hx, Option.getD_some, Option.bind_some]
    clear hx
    induction entries with
    | nil => rfl
    | cons e entries ih =>
      rw [List.filterMap_cons]
      by_cases he : e.1 = pyText key
      · rw [plain_eq_some.mpr he, lookupJson, List.find?_cons_of_pos (by simpa using he)]
        exact List.lookup_cons_self
      · have hrest : lookupJson (e :: entries) key = lookupJson entries key := by
          rw [lookupJson, lookupJson, List.find?_cons_of_neg (by simpa using he)]
        rw [hrest, ← ih]
        cases hp : Json.plain? e.1 with
        | none => rfl
        | some k =>
          have hne : key ≠ k := by
            rintro rfl
            exact he (plain_eq_some.mp hp)
          have hbeq : (key == k) = false := beq_eq_false_iff_ne.mpr hne
          simp only [Option.map_some, List.lookup_cons, hbeq]

end Fields

/-! ## Which documents are read -/

/-- What stands under a key, if anything does, is a dictionary with `P`. -/
def Within (entries : List (PyText × Json)) (key : String) (P : List (PyText × Json) → Prop) :
    Prop :=
  ∀ x ∈ lookupJson entries key, ∃ inner, x = .object inner ∧ P inner

/-- An entry of `parameters` that is passed over. -/
def Json.Passed (item : Json) : Prop :=
  ∃ entries, item = .object entries ∧ Document.isOwner (lookupJson entries "name") = .ok false

/-- An entry of `parameters` that names the owner. -/
def Json.Owner (item : Json) : Prop :=
  ∃ entries, item = .object entries ∧ Document.isOwner (lookupJson entries "name") = .ok true

/-- The search for the owner ends before anything that is no parameter. -/
def Scanned (items : List Json) : Prop :=
  ∃ seen rest, items = seen ++ rest ∧ (∀ x ∈ seen, x.Passed) ∧
    (rest = [] ∨ ∃ x rest', rest = x :: rest' ∧ x.Owner)

/-- The document is a dictionary, and so is every member on the way to the parameters of
`GET /api/users`. -/
def Json.Legible (doc : Json) : Prop :=
  ∃ top, doc = .object top ∧ Within top "paths" fun paths =>
    Within paths "/api/users" fun users => Within users "get" fun usersGet =>
      ∀ x ∈ lookupJson usersGet "parameters", ∃ items, x.elements = .ok items ∧ Scanned items

section Legible

open Document

variable {items : List Json} {paths : List (PyText × Json)} {doc : Json}

theorem anyOwner_ok_iff {b : Bool} : anyOwner items = .ok b ↔
    ∃ seen rest, items = seen ++ rest ∧ (∀ x ∈ seen, x.Passed) ∧
      ((rest = [] ∧ b = false) ∨ ∃ x rest', rest = x :: rest' ∧ x.Owner ∧ b = true) := by
  induction items with
  | nil =>
    constructor
    · intro h
      cases h
      exact ⟨[], [], rfl, fun _ h => (nomatch h), .inl ⟨rfl, rfl⟩⟩
    · rintro ⟨seen, rest, h, -, ⟨-, rfl⟩ | ⟨x, rest', rfl, -⟩⟩
      · rfl
      · exact absurd h.symm (by simp)
  | cons item items ih =>
    constructor
    · intro h
      rw [anyOwner] at h
      obtain ⟨name, hname, h⟩ := bind_eq_ok h
      obtain ⟨owner, howner, h⟩ := bind_eq_ok h
      obtain ⟨entries, rfl⟩ : ∃ entries, item = .object entries := by
        cases item with
        | object entries => exact ⟨entries, rfl⟩
        | _ => cases hname
      cases hname
      cases owner with
      | true =>
        cases h
        exact ⟨[], _, rfl, fun _ h => (nomatch h), .inr ⟨_, _, rfl, ⟨entries, rfl, howner⟩, rfl⟩⟩
      | false =>
        obtain ⟨seen, rest, rfl, hseen, hrest⟩ := ih.mp h
        refine ⟨.object entries :: seen, rest, rfl, ?_, hrest⟩
        rintro x (_ | ⟨_, hx⟩)
        · exact ⟨entries, rfl, howner⟩
        · exact hseen x hx
    · rintro ⟨seen, rest, h, hseen, hrest⟩
      rw [anyOwner]
      cases seen with
      | nil =>
        obtain ⟨rfl, -⟩ | ⟨x, rest', rfl, ⟨entries, rfl, howner⟩, rfl⟩ := hrest
        · cases h
        · cases h
          simp only [Json.get, bind, Except.bind, howner, if_true]
          rfl
      | cons x seen =>
        cases h
        obtain ⟨entries, rfl, howner⟩ := hseen _ List.mem_cons_self
        simp only [Json.get, bind, Except.bind, howner]
        exact ih.mpr ⟨seen, rest, rfl, fun y hy => hseen y (List.mem_cons_of_mem _ hy), hrest⟩

theorem scanned_iff : Scanned items ↔ ∃ b, anyOwner items = .ok b := by
  constructor
  · rintro ⟨seen, rest, h, hseen, rfl | ⟨x, rest', rfl, hx⟩⟩
    · exact ⟨false, anyOwner_ok_iff.mpr ⟨seen, [], h, hseen, .inl ⟨rfl, rfl⟩⟩⟩
    · exact ⟨true, anyOwner_ok_iff.mpr ⟨seen, _, h, hseen, .inr ⟨x, rest', rfl, hx, rfl⟩⟩⟩
  · rintro ⟨b, hb⟩
    obtain ⟨seen, rest, h, hseen, hrest⟩ := anyOwner_ok_iff.mp hb
    refine ⟨seen, rest, h, hseen, hrest.imp And.left ?_⟩
    rintro ⟨x, rest', hx, ho, -⟩
    exact ⟨x, rest', hx, ho⟩

theorem getOr_bind_ok_iff {x default : Json} {key : String} {α : Type} {f : Json → Except Err α}
    {a : α} : (x.getOr key default >>= f) = .ok a ↔
      ∃ entries, x = .object entries ∧ f ((lookupJson entries key).getD default) = .ok a := by
  constructor
  · intro h
    cases x with
    | object entries => exact ⟨entries, rfl, h⟩
    | _ => cases h
  · rintro ⟨entries, rfl, h⟩
    exact h

theorem within_iff {entries : List (PyText × Json)} {key : String}
    {P : List (PyText × Json) → Prop} (hP : P []) :
    (∃ inner, (lookupJson entries key).getD (.object []) = .object inner ∧ P inner) ↔
      Within entries key P := by
  unfold Within
  cases lookupJson entries key with
  | none =>
    exact ⟨fun _ x hx => (nomatch hx), fun _ => ⟨[], rfl, hP⟩⟩
  | some x =>
    constructor
    · rintro ⟨inner, hx, h⟩ y ⟨⟩
      exact ⟨inner, hx, h⟩
    · exact fun h => h x rfl

/-- Where `from_openapi` finds the parameters. -/
theorem userListByOwner_ok_iff {x : Json} {b : Bool} : userListByOwner x = .ok b ↔
    ∃ paths, x = .object paths ∧ ∃ users,
      (lookupJson paths "/api/users").getD (.object []) = .object users ∧ ∃ usersGet,
        (lookupJson users "get").getD (.object []) = .object usersGet ∧ ∃ items,
          ((lookupJson usersGet "parameters").getD (.array [])).elements = .ok items ∧
            anyOwner items = .ok b := by
  unfold userListByOwner
  rw [getOr_bind_ok_iff]
  refine exists_congr fun paths => and_congr_right fun _ => ?_
  rw [getOr_bind_ok_iff]
  refine exists_congr fun users => and_congr_right fun _ => ?_
  rw [getOr_bind_ok_iff]
  refine exists_congr fun usersGet => and_congr_right fun _ => ?_
  constructor
  · intro h
    obtain ⟨items, hitems, h⟩ := bind_eq_ok h
    exact ⟨items, hitems, h⟩
  · rintro ⟨items, hitems, h⟩
    rw [hitems]
    exact h

theorem parameters_iff {usersGet : List (PyText × Json)} :
    (∃ items b, ((lookupJson usersGet "parameters").getD (.array [])).elements = .ok items ∧
      anyOwner items = .ok b) ↔
    ∀ x ∈ lookupJson usersGet "parameters", ∃ items, x.elements = .ok items ∧ Scanned items := by
  cases lookupJson usersGet "parameters" with
  | none => exact ⟨fun _ x hx => (nomatch hx), fun _ => ⟨[], false, rfl, rfl⟩⟩
  | some x =>
    constructor
    · rintro ⟨items, b, hx, hb⟩ y ⟨⟩
      exact ⟨items, hx, scanned_iff.mpr ⟨b, hb⟩⟩
    · intro h
      obtain ⟨items, hx, hs⟩ := h x rfl
      obtain ⟨b, hb⟩ := scanned_iff.mp hs
      exact ⟨items, b, hx, hb⟩

/-- What `resolve_operation_paths` finds is what the schema has. -/
theorem lookup_map_snd {β γ : Type} (f : β → γ) (l : List (String × β)) (key : String) :
    (l.map fun e => (e.1, f e.2)).lookup key = (l.lookup key).map f := by
  induction l with
  | nil => rfl
  | cons e l ih =>
    rw [List.map_cons, List.lookup_cons, List.lookup_cons, ih]
    split <;> rfl

theorem operation_schema (doc : Json) (path method : String) :
    doc.schema.operation path method =
      (((doc.fields.lookup "paths").bind fun p => p.fields.lookup path).bind fun x =>
        x.fields.lookup method).map Json.parameterNames := by
  unfold Schema.operation Json.schema
  cases hp : doc.fields.lookup "paths" with
  | none => rfl
  | some p =>
    simp only [Option.map_some, Option.getD_some, Option.bind_some]
    rw [lookup_map_snd fun x : Json => x.fields.map fun o => (o.1, o.2.parameterNames)]
    cases p.fields.lookup path with
    | none => rfl
    | some x =>
      simp only [Option.map_some, Option.bind_some]
      rw [lookup_map_snd Json.parameterNames]

theorem offers_eq (top : List (PyText × Json)) (hp : lookupJson top "paths" = some (.object paths))
    (path method : String) : offers paths path method =
      ((Json.object top).schema.operation path method).isSome := by
  rw [operation_schema, lookup_fields, Json.members?, Option.bind_some, hp, Option.bind_some,
    lookup_fields, Json.members?, Option.bind_some, Option.isSome_map, offers]
  cases lookupJson paths path with
  | none => rfl
  | some x =>
    rw [Option.bind_some, Option.bind_some, lookup_fields]
    cases x.members? <;> rfl

theorem resolveOperationPaths_object (top : List (PyText × Json)) :
    resolveOperationPaths (.object top) =
      .ok (resolveOperationPath (Json.object top).schema) := by
  have hnone : (lookupJson top "paths").bind Json.members? = none →
      resolveOperationPath (Json.object top).schema = fun _ => none := by
    intro h
    funext name
    have : ∀ path method, (Json.object top).schema.operation path method = none := by
      intro path method
      rw [operation_schema, lookup_fields, Json.members?, Option.bind_some]
      cases hp : lookupJson top "paths" with
      | none => rfl
      | some p =>
        rw [hp, Option.bind_some] at h
        rw [Option.bind_some, lookup_fields, h]
        rfl
    simp [resolveOperationPath, this]
  unfold resolveOperationPaths
  simp only [Json.get, bind, Except.bind]
  split
  · next h =>
    rw [hnone h]
    rfl
  · next paths h =>
    obtain ⟨p, hp, hm⟩ := Option.bind_eq_some_iff.mp h
    obtain rfl : p = .object paths := by
      cases p with
      | object entries =>
        cases hm
        rfl
      | _ => cases hm
    congr 1
    funext name
    unfold resolveOperationPath
    congr 2
    funext c
    exact offers_eq top hp c.1 c.2

/-- `listsByOwner` of one name. -/
def ownerName (name : String) : Bool := name = "admin_username" || name = "admin_id" || name = "owner"

theorem isOwner_text (s : PyText) :
    isOwner (some (.text s)) = .ok ((Json.plain? s).any ownerName) := by
  have hs : ∀ k, s = pyText k ↔ Json.plain? s = some k := fun k => plain_eq_some.symm
  simp only [isOwner, hs]
  cases Json.plain? s with
  | none => rfl
  | some k => simp [ownerName]

/-- The name of a parameter, as `parameterNames` lists it. -/
theorem owner_of_name {entries : List (PyText × Json)} {b : Bool}
    (h : isOwner (lookupJson entries "name") = .ok b) :
    (Json.object entries).parameterName.any ownerName = b := by
  unfold Json.parameterName
  rw [lookup_fields, Json.members?, Option.bind_some]
  cases hx : lookupJson entries "name" with
  | none =>
    rw [hx] at h
    cases h
    rfl
  | some x =>
    rw [hx] at h
    cases x with
    | text s => exact Except.ok.inj ((isOwner_text s).symm.trans h)
    | array | object => cases h
    | _ =>
      cases h
      rfl

theorem any_parameterNames {usersGet : List (PyText × Json)} {b : Bool}
    (hitems : ((lookupJson usersGet "parameters").getD (.array [])).elements = .ok items)
    (hb : anyOwner items = .ok b) : (Json.object usersGet).parameterNames.any ownerName = b := by
  have htexts : ∀ {ts : List PyText}, items = ts.map .text → b = false := by
    rintro (_ | ⟨t, ts⟩) rfl
    · cases hb
      rfl
    · cases hb
  unfold Json.parameterNames
  rw [lookup_fields, Json.members?, Option.bind_some]
  cases hx : lookupJson usersGet "parameters" with
  | none =>
    rw [hx] at hitems
    cases hitems
    cases hb
    rfl
  | some x =>
    rw [hx, Option.getD_some] at hitems
    cases x with
    | array its =>
      cases hitems
      dsimp only
      obtain ⟨seen, rest, rfl, hseen, hrest⟩ := anyOwner_ok_iff.mp hb
      rw [List.filterMap_append, List.any_append]
      have hany : ∀ l : List Json, (l.filterMap Json.parameterName).any ownerName =
          l.any fun item => item.parameterName.any ownerName := fun l => List.any_filterMap
      have hfalse : (seen.any fun item => item.parameterName.any ownerName) = false := by
        rw [List.any_eq_false]
        intro item hitem
        obtain ⟨entries, rfl, howner⟩ := hseen item hitem
        rw [owner_of_name howner]
        decide
      rw [hany, hany, hfalse, Bool.false_or]
      obtain ⟨rfl, rfl⟩ | ⟨item, rest', rfl, ⟨entries, rfl, howner⟩, rfl⟩ := hrest
      · rfl
      · rw [List.any_cons, owner_of_name howner, Bool.true_or]
    | text s =>
      cases hitems
      exact (htexts (by rw [List.map_map]; rfl)).symm
    | object entries =>
      cases hitems
      exact (htexts (by rw [List.map_map]; rfl)).symm
    | _ => cases hitems

theorem listsByOwner_schema (top : List (PyText × Json)) {users usersGet : List (PyText × Json)}
    (hp : (lookupJson top "paths").getD (.object []) = .object paths)
    (hu : (lookupJson paths "/api/users").getD (.object []) = .object users)
    (hg : (lookupJson users "get").getD (.object []) = .object usersGet) {b : Bool}
    (hitems : ((lookupJson usersGet "parameters").getD (.array [])).elements = .ok items)
    (hb : anyOwner items = .ok b) : listsByOwner (Json.object top).schema = b := by
  have hnames : (((Json.object top).schema.operation "/api/users" "get").getD []) =
      (Json.object usersGet).parameterNames := by
    have hmissing : users = [] → usersGet = [] := by
      rintro rfl
      cases hg
      rfl
    rw [operation_schema, lookup_fields, Json.members?, Option.bind_some]
    cases hpaths : lookupJson top "paths" with
    | none =>
      rw [hpaths] at hp
      cases hp
      cases hu
      cases hg
      rfl
    | some p =>
      rw [hpaths] at hp
      obtain rfl : p = .object paths := hp
      rw [Option.bind_some, lookup_fields, Json.members?, Option.bind_some]
      cases husers : lookupJson paths "/api/users" with
      | none =>
        rw [husers] at hu
        cases hu
        cases hg
        rfl
      | some u =>
        rw [husers] at hu
        obtain rfl : u = .object users := hu
        rw [Option.bind_some, lookup_fields, Json.members?, Option.bind_some]
        cases hget : lookupJson users "get" with
        | none =>
          rw [hget] at hg
          cases hg
          rfl
        | some g =>
          rw [hget] at hg
          obtain rfl : g = .object usersGet := hg
          rfl
  rw [listsByOwner, hnames]
  exact any_parameterNames hitems hb

/-- **What is read of a document.**  `from_openapi` returns exactly for the legible documents, with
the capabilities of the schema that they stand for. -/
theorem fromOpenapi_ok_iff {caps : Capabilities} : Document.fromOpenapi doc = .ok caps ↔
    doc.Legible ∧ caps = ResellerBot.fromOpenapi doc.schema := by
  have hdetected : ∀ (schema : Schema) (b : Bool), listsByOwner schema = b →
      detected (resolveOperationPath schema) b = ResellerBot.fromOpenapi schema := by
    rintro schema b rfl
    funext name
    cases name <;> rfl
  have hlegible : ∀ top, (∃ b, userListByOwner ((lookupJson top "paths").getD (.object [])) = .ok b) ↔
      (Json.object top).Legible := by
    intro top
    have hnil : ∀ key, lookupJson [] key = none := fun _ => rfl
    have hget : Within [] "get" fun usersGet => ∀ x ∈ lookupJson usersGet "parameters",
        ∃ items, x.elements = .ok items ∧ Scanned items := fun x hx => nomatch hx
    have husers : Within [] "/api/users" fun users => Within users "get" fun usersGet =>
        ∀ x ∈ lookupJson usersGet "parameters", ∃ items, x.elements = .ok items ∧ Scanned items :=
      fun x hx => nomatch hx
    constructor
    · rintro ⟨b, hb⟩
      obtain ⟨paths, hp, users, hu, usersGet, hg, items, hitems, hany⟩ := userListByOwner_ok_iff.mp hb
      refine ⟨top, rfl, (within_iff husers).mp ⟨paths, hp, ?_⟩⟩
      refine (within_iff hget).mp ⟨users, hu, ?_⟩
      exact (within_iff fun x hx => nomatch hx).mp
        ⟨usersGet, hg, parameters_iff.mp ⟨items, b, hitems, hany⟩⟩
    · rintro ⟨_, ⟨⟩, h⟩
      obtain ⟨paths, hp, h⟩ := (within_iff husers).mpr h
      obtain ⟨users, hu, h⟩ := (within_iff hget).mpr h
      obtain ⟨usersGet, hg, h⟩ := (within_iff fun x hx => nomatch hx).mpr h
      obtain ⟨items, b, hitems, hany⟩ := parameters_iff.mpr h
      exact ⟨b, userListByOwner_ok_iff.mpr ⟨paths, hp, users, hu, usersGet, hg, items, hitems, hany⟩⟩
  unfold Document.fromOpenapi
  rw [getOr_bind_ok_iff]
  constructor
  · rintro ⟨top, rfl, h⟩
    rw [resolveOperationPaths_object] at h
    obtain ⟨_, ⟨⟩, h⟩ := bind_eq_ok h
    obtain ⟨b, hb, h⟩ := bind_eq_ok h
    cases h
    refine ⟨(hlegible top).mp ⟨b, hb⟩, hdetected _ _ ?_⟩
    obtain ⟨paths, hp, users, hu, usersGet, hg, items, hitems, hany⟩ := userListByOwner_ok_iff.mp hb
    exact listsByOwner_schema top hp hu hg hitems hany
  · rintro ⟨hl, rfl⟩
    obtain ⟨top, rfl, -⟩ := id hl
    obtain ⟨b, hb⟩ := (hlegible top).mpr hl
    refine ⟨top, rfl, ?_⟩
    rw [resolveOperationPaths_object]
    show (userListByOwner _ >>= _) = _
    rw [hb]
    obtain ⟨paths, hp, users, hu, usersGet, hg, items, hitems, hany⟩ := userListByOwner_ok_iff.mp hb
    exact congrArg Except.ok (hdetected _ _ (listsByOwner_schema top hp hu hg hitems hany))

end Legible

end ResellerBot
