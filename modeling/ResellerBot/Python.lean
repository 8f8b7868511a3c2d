import Mathlib.Data.Nat.Notation
import Mathlib.Data.Int.Notation
import Mathlib.Algebra.Order.Group.Unbundled.Int
import Mathlib.Tactic.SplitIfs
import Mathlib.Data.List.DropRight
import ResellerBot.Rounding

/-!
# ResellerBot.Python — exceptions, instants and text as the bot's code uses them

Instants are aware UTC datetimes, counted in microseconds since the Unix epoch; their ISO text
determines them, so a stored `isoformat()` string is kept as the instant it denotes.  Arithmetic
raises `OverflowError` outside the range of `datetime`, as Python's does.
-/

namespace ResellerBot

/-- The exception classes that the bot raises or tells apart. -/
inductive ErrKind
  | rebecca | unavailable | capabilityMissing | verification | ambiguous | notFound
  | integrity | operational | staleData | pendingRollback | missingGreenlet
  | typeError | keyError | attributeError | valueError | indexError | overflow | runtime
  | invalidOperation
  | http (code : ℕ)
  deriving DecidableEq, Repr

/-- An exception with its text `str(exc)`. -/
structure Err where
  kind : ErrKind
  msg : String
  deriving DecidableEq, Repr

/-- `isinstance(exc, VerificationError)`: `AmbiguousEntitlementState` is a subclass. -/
def Err.isVerification (e : Err) : Bool :=
  e.kind = .verification || e.kind = .ambiguous

/-- A computation that succeeds has got past its first step. -/
theorem bind_eq_ok {α β : Type} {x : Except Err α} {f : α → Except Err β} {b : β}
    (h : x >>= f = .ok b) : ∃ a, x = .ok a ∧ f a = .ok b := by
  cases x with
  | error e => cases h
  | ok a => exact ⟨a, rfl, h⟩

theorem map_eq_ok {α β : Type} {x : Except Err α} {f : α → β} {b : β} (h : x.map f = .ok b) :
    ∃ a, x = .ok a ∧ f a = b := by
  cases x with
  | error e => cases h
  | ok a => exact ⟨a, rfl, Except.ok.inj h⟩

/-- What a handler sends, if anything, or the exception that leaves it. -/
abbrev Answer := Except Err (Option String)

/-! ## Instants -/

abbrev Datetime := ℤ

def second : ℤ := 1000000

def day : ℤ := 86400 * second

def hour : ℤ := 3600 * second

/-- `datetime.min` and `datetime.max` in UTC. -/
def datetimeMin : Datetime := -62135596800 * second

def datetimeMax : Datetime := 253402300800 * second - 1

def overflowError : Err := ⟨.overflow, "date value out of range"⟩

/-- `timedelta(...)`: at most 999999999 days in either direction. -/
def timedelta (d : ℤ) : Except Err ℤ :=
  if |d| ≤ 999999999 * day then .ok d else .error overflowError

def addTimedelta (t : Datetime) (d : ℤ) : Except Err Datetime :=
  if datetimeMin ≤ t + d ∧ t + d ≤ datetimeMax then .ok (t + d) else .error overflowError

def addDays (t : Datetime) (n : ℤ) : Except Err Datetime := do
  addTimedelta t (← timedelta (n * day))

def addHours (t : Datetime) (n : ℤ) : Except Err Datetime := do
  addTimedelta t (← timedelta (n * hour))

theorem timedelta_ok {d d' : ℤ} (h : timedelta d = .ok d') : d' = d := by
  unfold timedelta at h
  split_ifs at h
  exact (Except.ok.inj h).symm

theorem addTimedelta_ok {t u : Datetime} {d : ℤ} (h : addTimedelta t d = .ok u) : u = t + d := by
  unfold addTimedelta at h
  split_ifs at h
  exact (Except.ok.inj h).symm

theorem addDays_ok {t u : Datetime} {n : ℤ} (h : addDays t n = .ok u) : u = t + n * day := by
  unfold addDays at h
  cases hd : timedelta (n * day) with
  | error e => rw [hd] at h; cases h
  | ok d =>
    rw [hd] at h
    exact timedelta_ok hd ▸ addTimedelta_ok h

theorem addHours_ok {t u : Datetime} {n : ℤ} (h : addHours t n = .ok u) : u = t + n * hour := by
  unfold addHours at h
  cases hd : timedelta (n * hour) with
  | error e => rw [hd] at h; cases h
  | ok d =>
    rw [hd] at h
    exact timedelta_ok hd ▸ addTimedelta_ok h

/-- A datetime that Python has. -/
def Representable (t : Datetime) : Prop := datetimeMin ≤ t ∧ t ≤ datetimeMax

theorem addTimedelta_representable {t u : Datetime} {d : ℤ} (h : addTimedelta t d = .ok u) :
    Representable u := by
  unfold addTimedelta at h
  split_ifs at h with hrange
  exact Except.ok.inj h ▸ hrange

theorem addDays_representable {t u : Datetime} {n : ℤ} (h : addDays t n = .ok u) :
    Representable u := by
  obtain ⟨d, -, h⟩ := bind_eq_ok h
  exact addTimedelta_representable h

/-! ## Timestamps -/

/-- `timestamp()`: the seconds since the epoch as a binary64. -/
def timestamp (t : Datetime) : ℚ := Rounding.digits 2 53 (t / second)

/-- `int(t.timestamp())` -/
def unixSeconds (t : Datetime) : ℤ := Rounding.truncate (timestamp t)

theorem unixSeconds_mono {t u : Datetime} (h : t ≤ u) : unixSeconds t ≤ unixSeconds u := by
  have hsecond : (0 : ℚ) ≤ second := by decide
  have hle : (t / second : ℚ) ≤ u / second :=
    div_le_div_of_nonneg_right (by exact_mod_cast h) hsecond
  exact Rounding.truncate_mono (Rounding.digits_mono (by decide) (by decide) hle)

/-- A whole second has an exact timestamp. -/
theorem unixSeconds_whole {k : ℤ} (h : |k| < 2 ^ 53) : unixSeconds (k * second) = k := by
  have hk : |k| < (2 : ℕ) ^ 53 := h
  have hdiv : ((k * second : ℤ) / second : ℚ) = k := by
    push_cast
    exact mul_div_cancel_right₀ _ (by decide)
  rw [unixSeconds, timestamp, hdiv, Rounding.digits_intCast (by decide) hk,
    Rounding.truncate_intCast]

theorem Representable.second_lt {k : ℤ} (h : Representable (k * second)) : |k| < 2 ^ 53 := by
  have hlow : (-62135596800 * 1000000 : ℤ) ≤ k * 1000000 := h.1
  have hhigh : k * 1000000 ≤ (253402300800 * 1000000 - 1 : ℤ) := h.2
  rw [abs_lt]
  omega

/-! ## Time zones -/

/-- A datetime with a time zone, or one without that is meant in UTC. -/
inductive Stamp
  | aware (t : Datetime)
  | naive (t : Datetime)

/-- A stored datetime as a driver hands it back, with its time zone or without. -/
def readBack (zoned : Bool) (t : Datetime) : Stamp := if zoned then .aware t else .naive t

namespace Stamp

def subtractError : Err :=
  ⟨.typeError, "can't subtract offset-naive and offset-aware datetimes"⟩

def compareError : Err := ⟨.typeError, "can't compare offset-naive and offset-aware datetimes"⟩

def sub : Stamp → Stamp → Except Err ℤ
  | aware a, aware b | naive a, naive b => .ok (a - b)
  | _, _ => .error subtractError

def lt : Stamp → Stamp → Except Err Bool
  | aware a, aware b | naive a, naive b => .ok (decide (a < b))
  | _, _ => .error compareError

end Stamp

/-! ## Text -/

/-- `str.lower` on one character.  Of the letters outside ASCII only the Kelvin sign and the dotted
capital I have an ASCII letter in their lower case; the others are left as they are. -/
def lowerChar (c : Char) : List Char :=
  if c = '\u212A' then ['k'] else if c = '\u0130' then ['i', '\u0307'] else [c.toLower]

/-- Whitespace in the sense of `str.strip`. -/
def isSpace (c : Char) : Bool :=
  let n := c.toNat
  (9 ≤ n && n ≤ 13) || (28 ≤ n && n ≤ 32) || n = 0x85 || n = 0xA0 || n = 0x1680 ||
    (0x2000 ≤ n && n ≤ 0x200A) || n = 0x2028 || n = 0x2029 || n = 0x202F || n = 0x205F || n = 0x3000

def lower (s : List Char) : List Char := s.flatMap lowerChar

def lstrip (p : Char → Bool) (s : List Char) : List Char := s.dropWhile p

def rstrip (p : Char → Bool) (s : List Char) : List Char := (s.reverse.dropWhile p).reverse

def strip (p : Char → Bool) (s : List Char) : List Char := rstrip p (lstrip p s)

theorem toLower_toLower (c : Char) : c.toLower.toLower = c.toLower := by
  unfold Char.toLower
  split
  · next h =>
    rw [dif_neg]
    simp only [UInt32.le_iff_toNat_le] at h ⊢
    grind [UInt32.toNat_add, Char.toNat_val]
  · rfl

/-- A letter in lower case keeps it. -/
theorem lowerChar_of_mem {c d : Char} (h : d ∈ lowerChar c) : lowerChar d = [d] := by
  unfold lowerChar at h
  split_ifs at h with h1 h2
  · obtain rfl := List.mem_singleton.mp h
    decide
  · rcases List.mem_cons.mp h with rfl | h
    · decide
    · obtain rfl := List.mem_singleton.mp h
      decide
  · obtain rfl := List.mem_singleton.mp h
    have hc : c.toLower ≠ '\u212A' ∧ c.toLower ≠ '\u0130' := by
      unfold Char.toLower
      split
      · next hu =>
        simp only [UInt32.le_iff_toNat_le] at hu
        constructor <;> intro he <;>
          · have := congrArg (fun c : Char => c.val.toNat) he
            simp only [UInt32.toNat_add] at this
            grind
      · exact ⟨h1, h2⟩
    rw [lowerChar, if_neg hc.1, if_neg hc.2, toLower_toLower]

theorem lower_of_fixed {s : List Char} (h : ∀ d ∈ s, lowerChar d = [d]) : lower s = s := by
  induction s with
  | nil => rfl
  | cons d s ih =>
    have hd := h d (by simp)
    have hs := ih fun d' hd' => h d' (List.mem_cons_of_mem _ hd')
    rw [lower, List.flatMap_cons, hd]
    exact congrArg (d :: ·) hs

section Strip

variable (p : Char → Bool) (s : List Char)

theorem mem_of_mem_strip {c : Char} (h : c ∈ strip p s) : c ∈ s := by
  rw [strip, rstrip, List.mem_reverse] at h
  have := (List.dropWhile_sublist p).subset h
  exact (List.dropWhile_sublist p).subset (List.mem_reverse.mp this)

theorem strip_strip : strip p (strip p s) = strip p s := by
  unfold strip
  have h1 : lstrip p (rstrip p (lstrip p s)) = rstrip p (lstrip p s) := by
    -- what is left still starts with a character that is not stripped
    have hp : rstrip p (lstrip p s) <+: lstrip p s := List.rdropWhile_prefix p _
    refine List.dropWhile_eq_self_iff.mpr fun hl => ?_
    have h0 := List.dropWhile_get_zero_not p s (Nat.lt_of_lt_of_le hl hp.length_le)
    rw [List.get_eq_getElem] at h0
    rwa [hp.getElem hl]
  rw [h1]
  exact List.rdropWhile_idempotent p _

end Strip

/-- Truth value of an optional string: neither `None` nor empty. -/
def truthy : Option String → Bool
  | some s => s ≠ ""
  | none => false

/-! ## Numbers in text -/

/-- The code points of the zeros of the decimal digits that `int` and `Decimal` read. -/
def digitZeros : List ℕ :=
  [0x30, 0x660, 0x6F0, 0x7C0, 0x966, 0x9E6, 0xA66, 0xAE6, 0xB66, 0xBE6, 0xC66, 0xCE6, 0xD66, 0xDE6,
   0xE50, 0xED0, 0xF20, 0x1040, 0x1090, 0x17E0, 0x1810, 0x1946, 0x19D0, 0x1A80, 0x1A90, 0x1B50,
   0x1BB0, 0x1C40, 0x1C50, 0xA620, 0xA8D0, 0xA900, 0xA9D0, 0xA9F0, 0xAA50, 0xABF0, 0xFF10, 0x104A0,
   0x10D30, 0x11066, 0x110F0, 0x11136, 0x111D0, 0x112F0, 0x11450, 0x114D0, 0x11650, 0x116C0,
   0x11730, 0x118E0, 0x11950, 0x11C50, 0x11D50, 0x11DA0, 0x11F50, 0x16A60, 0x16AC0, 0x16B50,
   0x1D7CE, 0x1D7D8, 0x1D7E2, 0x1D7EC, 0x1D7F6, 0x1E140, 0x1E2F0, 0x1E4F0, 0x1E950, 0x1FBF0]

def digitValue (c : Char) : Option ℕ :=
  (digitZeros.find? fun z => z ≤ c.toNat && c.toNat < z + 10).map (c.toNat - ·)

/-- The digits at the beginning, and what follows them. -/
def spanDigits : List Char → List ℕ × List Char
  | [] => ([], [])
  | c :: cs =>
    match digitValue c with
    | some d => (d :: (spanDigits cs).1, (spanDigits cs).2)
    | none => ([], c :: cs)

def ofDigits (ds : List ℕ) : ℕ := ds.foldl (fun n d => 10 * n + d) 0

/-- A sign, if there is one, and the rest. -/
def spanSign : List Char → Bool × List Char
  | '-' :: cs => (true, cs)
  | '+' :: cs => (false, cs)
  | cs => (false, cs)

def valueError (msg : String) : Err := ⟨.valueError, msg⟩

def typeError (msg : String) : Err := ⟨.typeError, msg⟩

/-- `RecursionError`, which is a `RuntimeError`. -/
def recursionError : Err := ⟨.runtime, "maximum recursion depth exceeded"⟩

/-- `int(text)`: digits in groups that single underscores separate, at most 4300 of them. -/
def parseInt (s : String) : Except Err ℤ :=
  let (negative, cs) := spanSign (strip isSpace s.toList)
  let groups := (cs.splitOn '_').map spanDigits
  let ds := groups.flatMap (·.1)
  if groups.any fun g => g.1 = [] || g.2 ≠ [] then
    .error (valueError ("invalid literal for int() with base 10: '" ++ s ++ "'"))
  else if 4300 < ds.length then
    .error (valueError "Exceeds the limit (4300 digits) for integer string conversion")
  else .ok (if negative then -(ofDigits ds : ℤ) else ofDigits ds)

example : parseInt " -۱۲_0 " = .ok (-120) := by decide

/-! ## Parts of a text -/

/-- `text.strip()` -/
def stripped (text : String) : String := String.ofList (strip isSpace text.toList)

theorem stripped_stripped (text : String) : stripped (stripped text) = stripped text := by
  rw [stripped, stripped, String.toList_ofList, strip_strip]

/-- `text.split(sep)` -/
def splitText (sep : Char) (text : String) : List String :=
  (text.toList.splitOn sep).map String.ofList

/-- `text.split(maxsplit=n)` -/
def splitWords : ℕ → List Char → List String
  | 0, cs => match lstrip isSpace cs with
    | [] => []
    | rest => [String.ofList rest]
  | n + 1, cs => match lstrip isSpace cs with
    | [] => []
    | c :: rest =>
      String.ofList (c :: rest.takeWhile (!isSpace ·)) ::
        splitWords n (rest.dropWhile (!isSpace ·))

example : splitWords 2 " /product_edit  7 name  a b ".toList =
    ["/product_edit", "7", "name  a b "] := by decide

/-- `[int(x) for x in text.split(",") if x]` -/
def parseInts (text : String) : Except Err (List ℤ) :=
  ((splitText ',' text).filter (· ≠ "")).mapM parseInt

/-! ## Decimals -/

/-- `decimal.Decimal`. -/
inductive Decimal
  | finite (q : Rat)
  | infinity (negative : Bool)
  | nan (signals : Bool)
  deriving DecidableEq, Repr

def invalidOperation : Err := ⟨.invalidOperation, "[<class 'decimal.ConversionSyntax'>]"⟩

/-- `==` with a finite decimal; a signaling NaN refuses to be compared. -/
def Decimal.eq : Decimal → Rat → Except Err Bool
  | .finite q, r => .ok (q = r)
  | .infinity _, _ | .nan false, _ => .ok false
  | .nan true, _ => .error invalidOperation

theorem Decimal.eq_ok_true {d : Decimal} {r : Rat} : d.eq r = .ok true ↔ d = .finite r := by
  rcases d with q | _ | _ | _ <;> simp [Decimal.eq]

/-- `(E[-+]?digits)?` up to the end of the text. -/
def parseExponent : List Char → Option ℤ
  | [] => some 0
  | c :: cs =>
    if c = 'e' ∨ c = 'E' then
      let (negative, rest) := spanSign cs
      match spanDigits rest with
      | ([], _) => none
      | (ds, []) => some (if negative then -(ofDigits ds : ℤ) else ofDigits ds)
      | _ => none
    else none

/-- Digits with at most one point among them and an exponent: the digits and the place of the
last. -/
def parseFinite (cs : List Char) : Option (ℕ × ℤ) :=
  let (whole, rest) := spanDigits cs
  let (fraction, rest) := match rest with
    | '.' :: rest => spanDigits rest
    | rest => ([], rest)
  if whole ++ fraction = [] then none
  else (parseExponent rest).map fun exponent =>
    (ofDigits (whole ++ fraction), exponent - fraction.length)

/-- Places that a decimal can have at all: the first digit is at most at this one. -/
def maxPlace : ℤ := 999999999999999999

/-- The last digit is at least at this one. -/
def minPlace : ℤ := -1999999999999999997

/-- A number that is not exact within these bounds is none. -/
def Decimal.ofPlaces (negative : Bool) (n : ℕ) (e : ℤ) : Except Err Decimal :=
  if e < minPlace ∨ maxPlace < e + Nat.log 10 n then
    .error ⟨.invalidOperation, "[<class 'decimal.InvalidOperation'>]"⟩
  else
    let q : Rat := if 0 ≤ e then n * 10 ^ e.toNat else n / 10 ^ (-e).toNat
    .ok (.finite (if negative then -q else q))

/-- `Decimal(text)`: whitespace around the text and underscores do not count. -/
def Decimal.ofText (text : String) : Except Err Decimal :=
  let (negative, cs) := spanSign ((strip isSpace text.toList).filter (· ≠ '_'))
  let word := cs.map Char.toLower
  if word = "inf".toList ∨ word = "infinity".toList then .ok (.infinity negative)
  else if "nan".toList.isPrefixOf word ∧ (spanDigits (word.drop 3)).2 = [] then .ok (.nan false)
  else if "snan".toList.isPrefixOf word ∧ (spanDigits (word.drop 4)).2 = [] then .ok (.nan true)
  else match parseFinite cs with
    | some (n, e) => Decimal.ofPlaces negative n e
    | none => .error invalidOperation

end ResellerBot
