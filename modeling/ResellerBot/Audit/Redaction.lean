import ResellerBot.Python

/-!
# ResellerBot.Audit.Redaction — what the audit log may show (`app/audit/redaction.py`)

The three patterns are written as functions of what follows a position; none of them can match the
same position in two ways.
-/

namespace ResellerBot

/-! ## Characters -/

/-- `\d` -/
def isDecimal (c : Char) : Bool := (digitValue c).isSome

/-- A small letter or another character of a pattern that ignores case. -/
def sameLetter (l c : Char) : Bool :=
  c.toLower = l || (l = 'i' && (c = '\u0130' || c = '\u0131')) || (l = 'k' && c = '\u212A') ||
    (l = 's' && c = '\u017F')

/-- `[-A-Za-z0-9._~+/]`, whatever the case. -/
def tokenChar (c : Char) : Bool :=
  c.isAlphanum || c ∈ "-._~+/".toList || c ∈ ['\u0130', '\u0131', '\u017F', '\u212A']

/-- The word stands at the beginning. -/
def beginsWith : List Char → List Char → Bool
  | [], _ => true
  | _ :: _, [] => false
  | l :: ls, c :: cs => sameLetter l c && beginsWith ls cs

/-- The alternatives of `_SENSITIVE_KEY`. -/
def sensitiveWords : List String :=
  ["password", "passwd", "secret", "token", "authorization", "credential", "apikey", "api_key",
    "api-key"]

/-- `_SENSITIVE_KEY.search(key)` -/
def sensitiveKey (key : String) : Bool :=
  key.toList.tails.any fun cs => sensitiveWords.any fun word => beginsWith word.toList cs

/-! ## `_BEARER` -/

/-- What follows `\s*[-A-Za-z0-9._~+/]+`. -/
def afterToken : List Char → Option (List Char)
  | [] => none
  | c :: cs =>
    if isSpace c then afterToken cs
    else if tokenChar c then some (cs.dropWhile tokenChar)
    else none

/-- What follows `\s+[-A-Za-z0-9._~+/]+`. -/
def afterSpace : List Char → Option (List Char)
  | [] => none
  | c :: cs => if isSpace c then afterToken cs else none

/-- What follows the letters and `\s+[-A-Za-z0-9._~+/]+`. -/
def afterWord : List Char → List Char → Option (List Char)
  | [], cs => afterSpace cs
  | _ :: _, [] => none
  | l :: ls, c :: cs => if sameLetter l c then afterWord ls cs else none

/-- What follows a match of `_BEARER` at the beginning. -/
def bearerAt (cs : List Char) : Option (List Char) := afterWord "bearer".toList cs

/-- `_BEARER.search` -/
def hasBearer : List Char → Bool
  | [] => false
  | c :: cs => (bearerAt (c :: cs)).isSome || hasBearer cs

theorem length_afterToken {cs rest : List Char} (h : afterToken cs = some rest) :
    rest.length < cs.length := by
  induction cs with
  | nil => cases h
  | cons c cs ih =>
    rw [afterToken] at h
    split_ifs at h
    · exact (ih h).trans (Nat.lt_succ_self _)
    · rw [← Option.some.inj h]
      exact Nat.lt_succ_of_le (List.dropWhile_suffix _).length_le

theorem length_afterWord {ls cs rest : List Char} (h : afterWord ls cs = some rest) :
    rest.length < cs.length := by
  induction ls generalizing cs with
  | nil =>
    cases cs with
    | nil => cases h
    | cons c cs =>
      rw [afterWord, afterSpace] at h
      split_ifs at h
      exact (length_afterToken h).trans (Nat.lt_succ_self _)
  | cons l ls ih =>
    cases cs with
    | nil => cases h
    | cons c cs =>
      rw [afterWord] at h
      split_ifs at h
      exact (ih h).trans (Nat.lt_succ_self _)

def hiddenBearer : List Char := "Bearer [REDACTED]".toList

/-- `_BEARER.sub("Bearer [REDACTED]", text)` -/
def hideBearer (s : List Char) : List Char :=
  match s with
  | [] => []
  | c :: cs =>
    match _h : bearerAt (c :: cs) with
    | some rest => hiddenBearer ++ hideBearer rest
    | none => c :: hideBearer cs
termination_by s.length
decreasing_by
  · exact length_afterWord _h
  · exact Nat.lt_succ_self _

/-! ## `_CARD` -/

/-- `\d{n}`, and what follows. -/
def takeDecimals : ℕ → List Char → Option (List Char × List Char)
  | 0, cs => some ([], cs)
  | _ + 1, [] => none
  | n + 1, c :: cs =>
    if isDecimal c then (takeDecimals n cs).map fun x => (c :: x.1, x.2) else none

/-- What follows `[ -]?`. -/
def skipSeparator : List Char → List Char
  | [] => []
  | c :: cs => if c = ' ' ∨ c = '-' then cs else c :: cs

/-- The two groups of a match, and what follows it. -/
structure Card where
  first : List Char
  last : List Char
  rest : List Char

/-- A match of `_CARD` at the beginning, after a digit or not. -/
def cardAt (behind : Bool) (cs : List Char) : Option Card :=
  if behind then none
  else do
    let (first, cs) ← takeDecimals 4 cs
    let (_, cs) ← takeDecimals 4 (skipSeparator cs)
    let (_, cs) ← takeDecimals 4 (skipSeparator cs)
    let (last, rest) ← takeDecimals 4 (skipSeparator cs)
    if rest.head?.any isDecimal then none else some ⟨first, last, rest⟩

/-- `_CARD.search` -/
def hasCard (behind : Bool) : List Char → Bool
  | [] => false
  | c :: cs => (cardAt behind (c :: cs)).isSome || hasCard (isDecimal c) cs

theorem takeDecimals_eq {n : ℕ} {cs ds rest : List Char}
    (h : takeDecimals n cs = some (ds, rest)) :
    cs = ds ++ rest ∧ ds.length = n ∧ ∀ c ∈ ds, isDecimal c = true := by
  induction n generalizing cs ds with
  | zero =>
    obtain ⟨rfl, rfl⟩ := Prod.mk.inj (Option.some.inj h)
    exact ⟨rfl, rfl, by simp⟩
  | succ n ih =>
    cases cs with
    | nil => cases h
    | cons c cs =>
      rw [takeDecimals] at h
      split_ifs at h with hc
      obtain ⟨⟨ds', rest'⟩, htake, heq⟩ := Option.map_eq_some_iff.mp h
      obtain ⟨rfl, rfl⟩ := Prod.mk.inj heq
      obtain ⟨rfl, hlength, hall⟩ := ih htake
      exact ⟨rfl, congrArg (· + 1) hlength, List.forall_mem_cons.mpr ⟨hc, hall⟩⟩

theorem length_skipSeparator (cs : List Char) : (skipSeparator cs).length ≤ cs.length := by
  cases cs with
  | nil => exact le_rfl
  | cons c cs =>
    rw [skipSeparator]
    split_ifs
    · exact Nat.le_succ _
    · exact le_rfl

/-- What a match consists of. -/
theorem cardAt_eq {behind : Bool} {cs : List Char} {m : Card} (h : cardAt behind cs = some m) :
    behind = false ∧ ∃ r₁ r₂ r₃ ds₂ ds₃, takeDecimals 4 cs = some (m.first, r₁) ∧
      takeDecimals 4 (skipSeparator r₁) = some (ds₂, r₂) ∧
      takeDecimals 4 (skipSeparator r₂) = some (ds₃, r₃) ∧
      takeDecimals 4 (skipSeparator r₃) = some (m.last, m.rest) ∧
      m.rest.head?.any isDecimal = false := by
  rw [cardAt] at h
  split_ifs at h with hb
  obtain ⟨⟨first, r₁⟩, h₁, h⟩ := Option.bind_eq_some_iff.mp h
  obtain ⟨⟨ds₂, r₂⟩, h₂, h⟩ := Option.bind_eq_some_iff.mp h
  obtain ⟨⟨ds₃, r₃⟩, h₃, h⟩ := Option.bind_eq_some_iff.mp h
  obtain ⟨⟨last, rest⟩, h₄, h⟩ := Option.bind_eq_some_iff.mp h
  dsimp only at h
  split_ifs at h with hrest
  obtain rfl := Option.some.inj h
  exact ⟨by simpa using hb, r₁, r₂, r₃, ds₂, ds₃, h₁, h₂, h₃, h₄, by simpa using hrest⟩

theorem length_cardAt {behind : Bool} {cs : List Char} {m : Card}
    (h : cardAt behind cs = some m) : m.rest.length < cs.length := by
  obtain ⟨-, r₁, r₂, r₃, ds₂, ds₃, h₁, h₂, h₃, h₄, -⟩ := cardAt_eq h
  have e₁ := congrArg List.length (takeDecimals_eq h₁).1
  have e₂ := congrArg List.length (takeDecimals_eq h₂).1
  have e₃ := congrArg List.length (takeDecimals_eq h₃).1
  have e₄ := congrArg List.length (takeDecimals_eq h₄).1
  have hfirst := (takeDecimals_eq h₁).2.1
  have s₁ := length_skipSeparator r₁
  have s₂ := length_skipSeparator r₂
  have s₃ := length_skipSeparator r₃
  simp only [List.length_append] at e₁ e₂ e₃ e₄
  omega

def cardMask : List Char := "-****-****-".toList

/-- `_CARD.sub(r"\1-****-****-\2", text)` -/
def maskCards (behind : Bool) (s : List Char) : List Char :=
  match s with
  | [] => []
  | c :: cs =>
    match _h : cardAt behind (c :: cs) with
    | some m => m.first ++ cardMask ++ m.last ++ maskCards true m.rest
    | none => c :: maskCards (isDecimal c) cs
termination_by s.length
decreasing_by
  · exact length_cardAt _h
  · exact Nat.lt_succ_self _

/-- A text without credentials and card numbers. -/
def redactText (s : String) : String :=
  String.ofList (maskCards false (hideBearer s.toList))

/-! ## Nested values -/

/-- A value of the audit log; `str` renders the keys of its dicts. -/
inductive AuditValue (κ : Type)
  | dict (entries : List (κ × AuditValue κ))
  | list (items : List (AuditValue κ))
  | tuple (items : List (AuditValue κ))
  | text (s : String)
  | number (q : Rat)
  | none

section Redact

variable {κ : Type} (str : κ → String)

mutual

def redact : AuditValue κ → AuditValue κ
  | .dict entries => .dict (redactEntries entries)
  | .list items => .list (redactItems items)
  | .tuple items => .list (redactItems items)
  | .text s => .text (redactText s)
  | .number q => .number q
  | .none => .none

def redactItems : List (AuditValue κ) → List (AuditValue κ)
  | [] => []
  | x :: xs => redact x :: redactItems xs

def redactEntries : List (κ × AuditValue κ) → List (κ × AuditValue κ)
  | [] => []
  | (k, x) :: es =>
    (k, if sensitiveKey (str k) then .text "[REDACTED]" else redact x) :: redactEntries es

end

end Redact

end ResellerBot
