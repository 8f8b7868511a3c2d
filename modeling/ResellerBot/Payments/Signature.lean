import ResellerBot.Payments.Endpoint
import ResellerBot.Codes

/-!
# ResellerBot.Payments.Signature — what the hash of a callback covers (`app/payments/plisio.py`)

The message of a callback determines its body, so a body that is accepted under the hash of another
one is the same body, or its message collides with that of the other.
-/

open Codes

namespace ResellerBot

/-! ## Texts -/

def hexValue (c : Char) : ℕ := if c.toNat < 58 then c.toNat - 48 else c.toNat - 87

/-- What stands behind a backslash. -/
def unescaped : PyText → Option (CodePoint × PyText)
  | .char 'u' :: _ :: _ :: .char a :: .char b :: rest =>
    some (.char (Char.ofNat (16 * hexValue a + hexValue b)), rest)
  | .char 'n' :: rest => some (.char '\n', rest)
  | .char 'r' :: rest => some (.char '\r', rest)
  | .char 't' :: rest => some (.char '\t', rest)
  | .char 'b' :: rest => some (.char (Char.ofNat 8), rest)
  | .char 'f' :: rest => some (.char (Char.ofNat 12), rest)
  | c :: rest => some (c, rest)
  | [] => none

/-- The first character of an escaped text. -/
def unescape : PyText → Option (CodePoint × PyText)
  | [] => none
  | c :: rest => if c = .char '\\' then unescaped rest else some (c, rest)

theorem ofNat_of_toNat {c : Char} {n : ℕ} (h : c.toNat = n) : c = Char.ofNat n := by
  rw [← h, Char.ofNat_toNat]

theorem hexValue_digitChar : ∀ d : Fin 16, hexValue (Nat.digitChar d) = d := by decide

theorem unescape_control {n : ℕ} (hn : n < 256) (rest : PyText) :
    unescape (pyText "\\u00" ++ [.char (Nat.digitChar (n / 16)), .char (Nat.digitChar (n % 16))] ++
      rest) = some (.char (Char.ofNat n), rest) := by
  have hhigh : hexValue (Nat.digitChar (n / 16)) = n / 16 := hexValue_digitChar ⟨n / 16, by omega⟩
  have hlow : hexValue (Nat.digitChar (n % 16)) = n % 16 := hexValue_digitChar ⟨n % 16, by omega⟩
  show some (CodePoint.char (Char.ofNat (16 * hexValue (Nat.digitChar (n / 16)) +
    hexValue (Nat.digitChar (n % 16)))), rest) = _
  rw [hhigh, hlow, Nat.div_add_mod]

theorem unescape_escape (c : CodePoint) (rest : PyText) :
    unescape (escape c ++ rest) = some (c, rest) := by
  cases c with
  | surrogate n => rfl
  | char c =>
    rw [escape]
    split_ifs with hquote hslash hn hr ht hb hf hcontrol
    · rw [hquote]
      rfl
    · rw [hslash]
      rfl
    · rw [hn]
      rfl
    · rw [hr]
      rfl
    · rw [ht]
      rfl
    · rw [ofNat_of_toNat hb]
      rfl
    · rw [ofNat_of_toNat hf]
      rfl
    · rw [unescape_control (by omega), Char.ofNat_toNat]
    · have hc : CodePoint.char c ≠ .char '\\' := fun h => hslash (CodePoint.char.inj h)
      rw [List.singleton_append, unescape, if_neg hc]

theorem escape_prefixFree : PrefixFree escape := .of_read unescape unescape_escape

theorem escape_ne_quote (c : CodePoint) (r s : PyText) : escape c ++ r ≠ .char '"' :: s := by
  intro h
  have hread := unescape_escape c r
  rw [h] at hread
  obtain ⟨rfl, rfl⟩ : .char '"' = c ∧ s = r := by
    simpa [unescape] using hread
  simp [escape, pyText] at h

/-- The text between quotes, up to the closing one. -/
theorem quoted_prefixFree : PrefixFree quoted := by
  intro a b r s h
  have hbody : PrefixFree fun l : PyText => l.flatMap escape ++ [.char '"'] :=
    escape_prefixFree.flatMap escape_ne_quote
  exact hbody a b r s (List.cons.inj h).2

/-! ## Values -/

/-- The characters of a number, `NaN` and `Infinity` among them. -/
def numberChar : CodePoint → Bool
  | .char c => c.isDigit || "+-.eENaInfity".toList.contains c
  | .surrogate _ => false

def numberStart (c : Char) : Bool := c.isDigit || c = '-' || c = 'N' || c = 'I'

/-- What `json.dumps` may write for a number. -/
def Numeral (s : String) : Prop :=
  (∀ c ∈ pyText s, numberChar c = true) ∧ ∃ c rest, s.toList = c :: rest ∧ numberStart c = true

mutual

/-- The numbers of the value are shown as their numerals are read. -/
def Json.Written (read : String → String × Bool) : Json → Prop
  | .number shown dumped nonzero => Numeral dumped ∧ read dumped = (shown, nonzero)
  | .array items => WrittenItems read items
  | .object entries => WrittenEntries read entries
  | .null | .bool _ | .text _ => True

def WrittenItems (read : String → String × Bool) : List Json → Prop
  | [] => True
  | x :: xs => x.Written read ∧ WrittenItems read xs

def WrittenEntries (read : String → String × Bool) : List (PyText × Json) → Prop
  | [] => True
  | (_, x) :: es => x.Written read ∧ WrittenEntries read es

end

/-- What the first character of a value tells. -/
inductive Kind
  | null | yes | no | number | text | array | object

def Json.kind : Json → Kind
  | .null => .null
  | .bool b => if b then .yes else .no
  | .number _ _ _ => .number
  | .text _ => .text
  | .array _ => .array
  | .object _ => .object

def kindOf : CodePoint → Option Kind
  | .surrogate _ => none
  | .char c =>
    if c = 'n' then some .null
    else if c = 't' then some .yes
    else if c = 'f' then some .no
    else if c = '"' then some .text
    else if c = '[' then some .array
    else if c = '\x7b' then some .object
    else if numberStart c then some .number
    else none

section Values

variable {read : String → String × Bool}

theorem kind_dumps {x : Json} (hx : x.Written read) (r : PyText) :
    (dumps x ++ r).head?.bind kindOf = some x.kind := by
  cases x with
  | bool b => cases b <;> rfl
  | number shown dumped nonzero =>
    obtain ⟨⟨-, c, rest, hc, hfirst⟩, -⟩ := hx
    have hnone : ['n', 't', 'f', '"', '[', '\x7b'].any numberStart = false := rfl
    have hnot : ∀ d ∈ ['n', 't', 'f', '"', '[', '\x7b'], c ≠ d := by
      rintro d hd rfl
      exact List.any_eq_false.mp hnone c hd hfirst
    rw [dumps, pyText, hc]
    show kindOf (.char c) = _
    simp only [List.mem_cons, List.not_mem_nil, or_false, forall_eq_or_imp, forall_eq] at hnot
    obtain ⟨h1, h2, h3, h4, h5, h6⟩ := hnot
    rw [kindOf, if_neg h1, if_neg h2, if_neg h3, if_neg h4, if_neg h5, if_neg h6, if_pos hfirst]
    rfl
  | _ => rfl

theorem stops_comma (r : PyText) : Stops numberChar (pyText "," ++ r) := by
  rintro c ⟨⟩
  rfl

theorem stops_items {xs : List Json} (r : PyText) :
    Stops numberChar (dumpsItems true xs ++ (pyText "]" ++ r)) := by
  cases xs with
  | nil =>
    rintro c ⟨⟩
    rfl
  | cons x xs =>
    rw [dumpsItems, List.append_assoc, List.append_assoc]
    exact stops_comma _

theorem stops_entries {es : List (PyText × Json)} (r : PyText) :
    Stops numberChar (dumpsEntries true es ++ (pyText "\x7d" ++ r)) := by
  cases es with
  | nil =>
    rintro c ⟨⟩
    rfl
  | cons e es =>
    rw [dumpsEntries]
    simp only [List.append_assoc]
    exact stops_comma _

theorem close_ne_items {comma : Bool} {x : Json} {xs : List Json} (hx : x.Written read)
    (r s : PyText) : pyText "]" ++ r ≠ dumpsItems comma (x :: xs) ++ s := by
  intro h
  rw [dumpsItems, List.append_assoc, List.append_assoc] at h
  cases comma with
  | true => exact absurd (List.cons.inj h).1 (by decide)
  | false =>
    have hkind := kind_dumps hx (dumpsItems true xs ++ s)
    rw [← show pyText "]" ++ r = dumps x ++ (dumpsItems true xs ++ s) from h] at hkind
    cases hkind

theorem close_ne_entries {comma : Bool} {e : PyText × Json} {es : List (PyText × Json)}
    (r s : PyText) : pyText "\x7d" ++ r ≠ dumpsEntries comma (e :: es) ++ s := by
  intro h
  simp only [dumpsEntries, List.append_assoc] at h
  cases comma <;> exact absurd (List.cons.inj h).1 (by decide)

mutual

/-- The first value of a text can be split off, unless a number goes on. -/
theorem dumps_split (x y : Json) (hx : x.Written read) (hy : y.Written read) {r s : PyText}
    (hr : Stops numberChar r) (hs : Stops numberChar s) (h : dumps x ++ r = dumps y ++ s) :
    x = y ∧ r = s := by
  have hkind : x.kind = y.kind := by
    have : some x.kind = some y.kind := by rw [← kind_dumps hx r, h, kind_dumps hy s]
    exact Option.some.inj this
  cases x with
  | null =>
    cases y with
    | null => exact ⟨rfl, List.append_cancel_left h⟩
    | bool b => cases b <;> cases hkind
    | _ => cases hkind
  | bool b =>
    cases y with
    | bool b' =>
      obtain rfl : b = b' := by
        cases b <;> cases b' <;> first | rfl | cases hkind
      exact ⟨rfl, List.append_cancel_left h⟩
    | _ => cases b <;> cases hkind
  | number shown dumped nonzero =>
    cases y with
    | number shown' dumped' nonzero' =>
      obtain ⟨hd, hrs⟩ := decipherable_stops numberChar _ _ hx.1.1 hy.1.1 r s hr hs h
      obtain rfl := pyText_injective hd
      have hread : (shown, nonzero) = (shown', nonzero') := by rw [← hx.2, ← hy.2]
      cases hread
      exact ⟨rfl, hrs⟩
    | bool b => cases b <;> cases hkind
    | _ => cases hkind
  | text a =>
    cases y with
    | text b =>
      obtain ⟨rfl, hrs⟩ := quoted_prefixFree a b r s h
      exact ⟨rfl, hrs⟩
    | bool b => cases b <;> cases hkind
    | _ => cases hkind
  | array items =>
    cases y with
    | array items' =>
      simp only [dumps, List.append_assoc] at h
      obtain ⟨rfl, hrs⟩ := items_split false items items' hx hy (List.cons.inj h).2
      exact ⟨rfl, hrs⟩
    | bool b => cases b <;> cases hkind
    | _ => cases hkind
  | object entries =>
    cases y with
    | object entries' =>
      simp only [dumps, List.append_assoc] at h
      obtain ⟨rfl, hrs⟩ := entries_split false entries entries' hx hy (List.cons.inj h).2
      exact ⟨rfl, hrs⟩
    | bool b => cases b <;> cases hkind
    | _ => cases hkind

theorem items_split (comma : Bool) (xs ys : List Json) (hx : WrittenItems read xs)
    (hy : WrittenItems read ys) {r s : PyText}
    (h : dumpsItems comma xs ++ (pyText "]" ++ r) = dumpsItems comma ys ++ (pyText "]" ++ s)) :
    xs = ys ∧ r = s := by
  cases xs with
  | nil =>
    cases ys with
    | nil => exact ⟨rfl, (List.cons.inj h).2⟩
    | cons y ys => exact absurd h (close_ne_items hy.1 _ _)
  | cons x xs =>
    cases ys with
    | nil => exact absurd h.symm (close_ne_items hx.1 _ _)
    | cons y ys =>
      simp only [dumpsItems, List.append_assoc] at h
      obtain ⟨rfl, hrest⟩ := dumps_split x y hx.1 hy.1 (stops_items r) (stops_items s)
        (List.append_cancel_left h)
      obtain ⟨rfl, hrs⟩ := items_split true xs ys hx.2 hy.2 hrest
      exact ⟨rfl, hrs⟩

theorem entries_split (comma : Bool) (es fs : List (PyText × Json)) (he : WrittenEntries read es)
    (hf : WrittenEntries read fs) {r s : PyText}
    (h : dumpsEntries comma es ++ (pyText "\x7d" ++ r) =
      dumpsEntries comma fs ++ (pyText "\x7d" ++ s)) : es = fs ∧ r = s := by
  match es, fs with
  | [], [] => exact ⟨rfl, (List.cons.inj h).2⟩
  | [], _ :: _ => exact absurd h (close_ne_entries _ _)
  | _ :: _, [] => exact absurd h.symm (close_ne_entries _ _)
  | (k, x) :: es, (l, y) :: fs =>
    simp only [dumpsEntries, List.append_assoc] at h
    obtain ⟨rfl, hvalue⟩ := quoted_prefixFree k l _ _ (List.append_cancel_left h)
    obtain ⟨rfl, hrest⟩ := dumps_split x y he.1 hf.1 (stops_entries r) (stops_entries s)
      (List.append_cancel_left hvalue)
    obtain ⟨rfl, hrs⟩ := entries_split true es fs he.2 hf.2 hrest
    exact ⟨rfl, hrs⟩

end

end Values

/-! ## Signatures -/

section Signatures

variable {sha1 : String → String → List (Fin 16)} {stack : Stack}
  {read : String → String × Bool} {entries entries' : List (PyText × Json)} {secret : String}

theorem callbackMessage_ok {t : PyText} (h : callbackMessage stack entries = .ok t) :
    t = dumps (.object (unsigned entries)) := by
  unfold callbackMessage at h
  split_ifs at h
  exact (Except.ok.inj h).symm

theorem callbackMessage_injective {t : PyText} (hw : WrittenEntries read (unsigned entries))
    (hw' : WrittenEntries read (unsigned entries')) (ht : callbackMessage stack entries = .ok t)
    (ht' : callbackMessage stack entries' = .ok t) : unsigned entries = unsigned entries' := by
  have h : dumps (.object (unsigned entries)) = dumps (.object (unsigned entries')) :=
    (callbackMessage_ok ht).symm.trans (callbackMessage_ok ht')
  have hend : Stops numberChar [] := fun c hc => nomatch hc
  obtain ⟨hbody, -⟩ := dumps_split (.object (unsigned entries)) (.object (unsigned entries')) hw hw'
    hend hend (by rw [List.append_nil, List.append_nil]; exact h)
  exact Json.object.inj hbody

theorem encode_ok {t : PyText} {m : String} (h : encode t = .ok m) : t = pyText m := by
  unfold encode at h
  split_ifs at h with hs
  cases h
  have hchars : ∀ c ∈ t, (c.char?.map CodePoint.char) = some c := by
    intro c hc
    cases c with
    | char a => rfl
    | surrogate n => exact absurd (List.any_eq_true.mpr ⟨_, hc, rfl⟩) hs
  rw [plainText, pyText, String.toList_ofList, List.map_filterMap]
  exact ((List.filterMap_congr hchars).trans List.filterMap_some).symm

theorem encodedMessage_ok {m : String} (h : encodedMessage stack entries = .ok m) :
    callbackMessage stack entries = .ok (pyText m) := by
  obtain ⟨t, ht, hm⟩ := bind_eq_ok h
  rw [ht, encode_ok hm]

theorem hexdigest_eq (digits : List (Fin 16)) :
    hexdigest digits = String.ofList (digits.map fun d : Fin 16 => Nat.digitChar d.val) := by
  have hcoe : (digits.flatMap fun d => [d.val]) = digits.map Fin.val :=
    List.map_eq_flatMap.symm
  show String.ofList ((digits.flatMap fun d => [d.val]).map _) = _
  rw [hcoe, List.map_map]
  rfl

theorem hexdigest_injective : Function.Injective hexdigest := by
  have hdigit : ∀ d e : Fin 16, Nat.digitChar d = Nat.digitChar e → d = e := by decide
  intro a b h
  rw [hexdigest_eq, hexdigest_eq] at h
  exact List.map_injective_iff.mpr hdigit (String.ofList_injective h)

theorem isAscii_hexdigest (digits : List (Fin 16)) :
    (pyText (hexdigest digits)).all CodePoint.isAscii = true := by
  have hdigit : ∀ d : Fin 16, CodePoint.isAscii (.char (Nat.digitChar d)) = true := by decide
  rw [pyText, hexdigest_eq, String.toList_ofList, List.map_map, List.all_map, List.all_eq_true]
  exact fun d _ => hdigit d

/-- When a callback is accepted. -/
theorem accepts_iff : verify sha1 stack entries secret = .ok true ↔
    secret ≠ "" ∧ ∃ message, encodedMessage stack entries = .ok message ∧
      sha1 secret message ≠ [] ∧ lookupJson entries "verify_hash" =
        some (.text (pyText (hexdigest (sha1 secret message)))) := by
  constructor
  · intro h
    unfold verify at h
    split at h
    · next supplied hsupplied =>
      split_ifs at h with hempty
      · cases h
      rw [not_or] at hempty
      obtain ⟨digest, hdigest, hcompare⟩ := bind_eq_ok h
      obtain ⟨message, hmessage, hd⟩ := bind_eq_ok hdigest
      cases hd
      unfold compareDigest at hcompare
      split_ifs at hcompare
      have heq : supplied = pyText (hexdigest (sha1 secret message)) := by
        simpa using hcompare
      refine ⟨hempty.2, message, hmessage, ?_, heq ▸ hsupplied⟩
      intro hnil
      rw [hnil] at heq
      exact hempty.1 heq
    · cases h
  · rintro ⟨hsecret, message, hmessage, hne, hlookup⟩
    have hdigest : pyText (hexdigest (sha1 secret message)) ≠ [] := by
      intro hnil
      rw [pyText, List.map_eq_nil_iff, hexdigest_eq, String.toList_ofList,
        List.map_eq_nil_iff] at hnil
      exact hne hnil
    rw [verify, hlookup]
    dsimp only
    rw [if_neg (not_or.mpr ⟨hdigest, hsecret⟩), signature, hmessage]
    show compareDigest _ _ = _
    rw [compareDigest, if_pos (isAscii_hexdigest _), decide_eq_true rfl]

/-- What the handler compares is covered by the hash. -/
theorem bodyTransaction_unsigned :
    bodyTransaction stack (unsigned entries) = bodyTransaction stack entries := by
  have hlookup : ∀ key : String, key ≠ "verify_hash" →
      lookupJson (unsigned entries) key = lookupJson entries key := by
    intro key hkey
    have hne : pyText key ≠ pyText "verify_hash" := fun h => hkey (pyText_injective h)
    rw [lookupJson, lookupJson, unsigned, List.find?_filter]
    congr 2
    funext e
    by_cases he : e.1 = pyText key
    · simp [he, hne]
    · simp [he]
  simp only [bodyTransaction, hlookup _ (by decide : "txn_id" ≠ "verify_hash"),
    hlookup _ (by decide : "order_number" ≠ "verify_hash"),
    hlookup _ (by decide : "source_currency" ≠ "verify_hash"),
    hlookup _ (by decide : "source_amount" ≠ "verify_hash"),
    hlookup _ (by decide : "status" ≠ "verify_hash")]

/-- **What a hash stands for.**  Two bodies that are accepted under one hash are settled by the same
steps, or their messages are two different texts with one HMAC. -/
theorem accepted_same_hash (cfg : Settings) (hw : WrittenEntries read (unsigned entries))
    (hw' : WrittenEntries read (unsigned entries'))
    (h : verify sha1 stack entries cfg.plisioSecretKey = .ok true)
    (h' : verify sha1 stack entries' cfg.plisioSecretKey = .ok true)
    (hash : lookupJson entries "verify_hash" = lookupJson entries' "verify_hash") :
    unsigned entries = unsigned entries' ∧
      answerCallback sha1 stack cfg (.object entries) =
        answerCallback sha1 stack cfg (.object entries') ∨
    ∃ m m', encodedMessage stack entries = .ok m ∧ encodedMessage stack entries' = .ok m' ∧
      m ≠ m' ∧ sha1 cfg.plisioSecretKey m = sha1 cfg.plisioSecretKey m' := by
  obtain ⟨-, m, hm, -, hlookup⟩ := accepts_iff.mp h
  obtain ⟨-, m', hm', -, hlookup'⟩ := accepts_iff.mp h'
  by_cases hmm : m = m'
  · subst hmm
    have hbody : unsigned entries = unsigned entries' :=
      callbackMessage_injective hw hw' (encodedMessage_ok hm) (encodedMessage_ok hm')
    refine .inl ⟨hbody, ?_⟩
    have hread : bodyTransaction stack entries = bodyTransaction stack entries' := by
      rw [← bodyTransaction_unsigned, hbody, bodyTransaction_unsigned]
    rw [answerCallback, answerCallback, h, h', hread]
  · refine .inr ⟨m, m', hm, hm', hmm, hexdigest_injective (pyText_injective ?_)⟩
    rw [hlookup, hlookup'] at hash
    exact Json.text.inj (Option.some.inj hash)

end Signatures

namespace Callbacks

/-- The digits of a hash, from their values. -/
def digits (values : List ℕ) : List (Fin 16) := values.map (Fin.ofNat 16)

/-- The HMAC of one message under the secret of `settings`. -/
def hmac (secret message : String) : List (Fin 16) :=
  if secret = "secret" ∧ message = "\x7b\"txn_id\":\"t1\",\"source_amount\":5\x7d" then
    digits [7, 11, 12, 13, 9, 5, 5, 14, 6, 11, 4, 9, 8, 5, 6, 2, 8, 10, 0, 3, 0, 0, 4, 12, 2, 9,
      4, 15, 2, 2, 10, 9, 3, 4, 9, 9, 7, 3, 5, 8]
  else []

def transactionEntries : List (PyText × Json) :=
  [(pyText "txn_id", .text (pyText "t1")), (pyText "source_amount", .number "5" "5" true)]

def hashEntry : PyText × Json :=
  (pyText "verify_hash", .text (pyText "7bcd955e6b4985628a03004c294f22a934997358"))

/-- What `json.loads` makes of the numeral of the callback. -/
def readNumeral (numeral : String) : String × Bool := (numeral, numeral ≠ "0")

/-- The hash covers the body wherever it stands in it. -/
theorem hashed_first_or_last :
    answerCallback hmac stack settings (.object (hashEntry :: transactionEntries)) =
      answerCallback hmac stack settings (.object (transactionEntries ++ [hashEntry])) := by
  have hwritten : WrittenEntries readNumeral transactionEntries :=
    ⟨trivial, ⟨⟨by decide, '5', [], rfl, rfl⟩, by decide⟩, trivial⟩
  have hfirst : verify hmac stack (hashEntry :: transactionEntries) "secret" = .ok true := by
    decide +kernel
  have hlast : verify hmac stack (transactionEntries ++ [hashEntry]) "secret" = .ok true := by
    decide +kernel
  have hunsigned : unsigned (hashEntry :: transactionEntries) = transactionEntries ∧
      unsigned (transactionEntries ++ [hashEntry]) = transactionEntries := ⟨rfl, rfl⟩
  obtain h | ⟨m, m', hm, hm', hne, -⟩ := @accepted_same_hash hmac stack readNumeral
    _ _ settings (by rw [hunsigned.1]; exact hwritten) (by rw [hunsigned.2]; exact hwritten)
    hfirst hlast rfl
  · exact h.2
  · rw [encodedMessage, callbackMessage, hunsigned.1] at hm
    rw [encodedMessage, callbackMessage, hunsigned.2, hm] at hm'
    exact absurd (Except.ok.inj hm') hne

end Callbacks

end ResellerBot
