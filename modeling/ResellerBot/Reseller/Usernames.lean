import ResellerBot.Reseller.Service
import Mathlib.Data.List.Chain

/-!
# ResellerBot.Reseller.Usernames — what generated usernames look like

A candidate is a base, an underscore and a number, over characters that stand for themselves in a
URL; whether the base is in normal form depends on where it has been cut.
-/

namespace ResellerBot

/-! ## Safe characters -/

section Safe

variable {c : Char}

theorem toNat_of_usernameSafe (h : usernameSafe c = true) :
    (97 ≤ c.toNat ∧ c.toNat ≤ 122) ∨ (48 ≤ c.toNat ∧ c.toNat ≤ 57) ∨ c.toNat = 95 := by
  obtain (⟨h1, h2⟩ | ⟨h1, h2⟩ | h) := of_decide_eq_true h
  · exact .inl ⟨h1, h2⟩
  · exact .inr (.inl ⟨h1, h2⟩)
  · exact .inr (.inr (congrArg Char.toNat h))

theorem isSpace_of_usernameSafe (h : usernameSafe c = true) : isSpace c = false := by
  have hn := toNat_of_usernameSafe h
  simp only [isSpace, Bool.or_eq_false_iff, Bool.and_eq_false_iff, decide_eq_false_iff_not]
  omega

theorem ne_of_usernameSafe {d : Char} (h : usernameSafe c = true) (hd : usernameSafe d = false) :
    c ≠ d := by
  rintro rfl
  rw [h] at hd
  cases hd

theorem lowerChar_of_usernameSafe (h : usernameSafe c = true) : lowerChar c = [c] := by
  have hn := toNat_of_usernameSafe h
  rw [lowerChar, if_neg (ne_of_usernameSafe h (by decide)),
    if_neg (ne_of_usernameSafe h (by decide))]
  unfold Char.toLower
  rw [dif_neg]
  simp only [UInt32.le_iff_toNat_le, Char.toNat_val]
  show ¬(65 ≤ c.toNat ∧ c.toNat ≤ 90)
  omega

end Safe

/-! ## Runs of underscores -/

/-- Two characters that may follow each other. -/
def Apart (a b : Char) : Prop := a = '_' → b ≠ '_'

def safeChar (c : Char) : Char := if usernameSafe c then c else '_'

section Squeeze

variable {s : List Char} {c : Char}

theorem usernameSafe_safeChar (c : Char) : usernameSafe (safeChar c) = true := by
  unfold safeChar
  split_ifs with h
  · exact h
  · decide

theorem squeeze_cons (c : Char) (s : List Char) : squeeze (c :: s) =
    if safeChar c = '_' ∧ (squeeze s).head? = some '_' then squeeze s
    else safeChar c :: squeeze s := by
  have hsafe : (if usernameSafe c then c else '_') = safeChar c := rfl
  simp only [squeeze, hsafe]
  split
  · next rest hrest =>
    rw [hrest]
    by_cases hc : safeChar c = '_'
    · rw [if_pos hc, if_pos ⟨hc, rfl⟩]
    · rw [if_neg hc, if_neg fun h => hc h.1]
  · next hrest =>
    rw [if_neg]
    rintro ⟨-, hhead⟩
    obtain ⟨tail, htail⟩ := List.head?_eq_some_iff.mp hhead
    exact hrest tail htail

theorem usernameSafe_of_mem_squeeze (h : c ∈ squeeze s) : usernameSafe c = true := by
  induction s with
  | nil => cases h
  | cons d s ih =>
    rw [squeeze_cons] at h
    split_ifs at h
    · exact ih h
    · obtain rfl | h := List.mem_cons.mp h
      · exact usernameSafe_safeChar d
      · exact ih h

theorem isChain_squeeze (s : List Char) : (squeeze s).IsChain Apart := by
  induction s with
  | nil => exact .nil
  | cons c s ih =>
    rw [squeeze_cons]
    split_ifs with h
    · exact ih
    · refine ih.cons fun d hd hc hd' => h ⟨hc, ?_⟩
      rw [← hd']
      exact hd

/-- Nothing is squeezed out of what is safe and apart. -/
theorem squeeze_eq (safe : ∀ c ∈ s, usernameSafe c = true) (apart : s.IsChain Apart) :
    squeeze s = s := by
  induction s with
  | nil => rfl
  | cons c s ih =>
    have hs : squeeze s = s := ih (fun d hd => safe d (List.mem_cons_of_mem c hd)) apart.tail
    have hc : safeChar c = c := if_pos (safe c (by simp))
    rw [squeeze_cons, hs, hc, if_neg]
    rintro ⟨hc, hhead⟩
    exact apart.rel_head? hhead hc rfl

end Squeeze

/-! ## What is stripped -/

section Strip

variable {p : Char → Bool} {s : List Char}

theorem strip_infix (p : Char → Bool) (s : List Char) : strip p s <:+: s :=
  (List.rdropWhile_prefix p _).isInfix.trans (List.dropWhile_suffix p).isInfix

theorem head_strip {c : Char} (h : (strip p s).head? = some c) : p c = false := by
  obtain ⟨t, ht⟩ := List.head?_eq_some_iff.mp h
  obtain ⟨u, hu⟩ : strip p s <+: lstrip p s := List.rdropWhile_prefix p _
  have hnot := List.head?_dropWhile_not p s
  rw [show s.dropWhile p = c :: (t ++ u) by rw [← List.cons_append, ← ht]; exact hu.symm] at hnot
  exact hnot

theorem getLast_strip {c : Char} (h : (strip p s).getLast? = some c) : p c = false := by
  have hne : strip p s ≠ [] := by
    intro h0
    rw [h0] at h
    cases h
  obtain rfl : (strip p s).getLast hne = c :=
    Option.some.inj ((List.getLast?_eq_some_getLast hne).symm.trans h)
  exact Bool.eq_false_iff.mpr (List.rdropWhile_last_not p (lstrip p s) hne)

/-- What neither starts nor ends with such a character keeps all of them. -/
theorem strip_eq (hhead : ∀ c, s.head? = some c → p c = false)
    (hlast : ∀ c, s.getLast? = some c → p c = false) : strip p s = s := by
  have hl : lstrip p s = s := List.dropWhile_eq_self_iff.mpr fun h0 => by
    rw [hhead _ (List.head?_eq_getElem? ▸ List.getElem?_eq_getElem h0)]
    exact Bool.false_ne_true
  rw [strip, hl]
  refine List.rdropWhile_eq_self_iff.mpr fun hne => ?_
  rw [hlast _ (List.getLast?_eq_some_getLast hne)]
  exact Bool.false_ne_true

end Strip

/-! ## The base -/

/-- The name in lower case, with one underscore for each run of other characters and none at the
ends. -/
def cleaned (telegramUsername : Option String) : List Char :=
  strip (· = '_') (squeeze (lower (lstrip (· = '@')
    (strip isSpace (telegramUsername.getD "").toList))))

/-- A text that may stand in front of the number. -/
structure IsBase (s : List Char) : Prop where
  nonempty : s ≠ []
  safe : ∀ c ∈ s, usernameSafe c = true
  apart : s.IsChain Apart
  head : s.head? ≠ some '_'
  length : s.length ≤ 48

section Base

variable {t : Option String} {s : List Char}

theorem usernameBase_eq (t : Option String) : usernameBase t =
    if (cleaned t).take 48 = [] then "reseller" else String.ofList ((cleaned t).take 48) := rfl

theorem head_cleaned (t : Option String) : (cleaned t).head? ≠ some '_' :=
  fun h => absurd (head_strip h) (by decide)

theorem getLast_cleaned (t : Option String) : (cleaned t).getLast? ≠ some '_' :=
  fun h => absurd (getLast_strip h) (by decide)

theorem isBase_usernameBase (t : Option String) : IsBase (usernameBase t).toList := by
  rw [usernameBase_eq]
  split_ifs with hnil
  · have hsafe : "reseller".toList.all usernameSafe = true := by decide
    exact ⟨by decide, List.all_eq_true.mp hsafe, by unfold Apart; decide, by decide, by decide⟩
  · rw [String.toList_ofList]
    have hsub : cleaned t <:+: squeeze _ := strip_infix _ _
    have hchain : (cleaned t).IsChain Apart := by
      obtain ⟨before, after, happ⟩ := hsub
      have h := isChain_squeeze (lower (lstrip (· = '@') (strip isSpace (t.getD "").toList)))
      rw [← happ] at h
      exact h.left_of_append.right_of_append
    refine ⟨hnil, fun c hc => ?_, hchain.take 48, fun h => ?_, List.length_take_le 48 _⟩
    · exact usernameSafe_of_mem_squeeze (hsub.subset (List.mem_of_mem_take hc))
    · rw [List.head?_take, if_neg (by decide)] at h
      exact head_cleaned t h

/-- The base of a short name ends in a letter or a digit. -/
theorem getLast_usernameBase_iff (t : Option String) :
    (usernameBase t).toList.getLast? = some '_' ↔ (cleaned t)[47]? = some '_' := by
  have htake : ((cleaned t).take 48).getLast? = (cleaned t)[47]?.or (cleaned t).getLast? := by
    rw [List.getLast?_take, if_neg (by decide)]
  rw [usernameBase_eq]
  split_ifs with hnil
  · rw [hnil] at htake
    have hnone := (Option.or_eq_none_iff.mp htake.symm).1
    simp [hnone]
  · rw [String.toList_ofList, htake]
    cases h : (cleaned t)[47]? with
    | none => simpa using getLast_cleaned t
    | some c => simp

/-- Of a base, the cleaning removes only an underscore at the end. -/
theorem cleaned_base (h : IsBase s) : cleaned (some (String.ofList s)) = rstrip (· = '_') s := by
  have hspace : strip isSpace s = s := by
    refine strip_eq (fun c hc => ?_) (fun c hc => ?_)
    · exact isSpace_of_usernameSafe (h.safe c (List.mem_of_mem_head? hc))
    · exact isSpace_of_usernameSafe (h.safe c (List.mem_of_mem_getLast? hc))
  have hat : lstrip (· = '@') s = s := List.dropWhile_eq_self_iff.mpr fun h0 => by
    have hne := ne_of_usernameSafe (h.safe _ (List.getElem_mem h0)) (d := '@') (by decide)
    simpa using hne
  have hlower : lower s = s := lower_of_fixed fun c hc => lowerChar_of_usernameSafe (h.safe c hc)
  have hhead : lstrip (· = '_') s = s := List.dropWhile_eq_self_iff.mpr fun h0 => by
    have hne := h.head
    rw [List.head?_eq_getElem?, List.getElem?_eq_getElem h0] at hne
    simpa using hne
  rw [cleaned, Option.getD_some, String.toList_ofList, hspace, hat, hlower,
    squeeze_eq h.safe h.apart, strip, hhead]

/-- **A base is in normal form exactly if it does not end in an underscore.** -/
theorem usernameBase_base_iff (h : IsBase s) :
    usernameBase (some (String.ofList s)) = String.ofList s ↔ s.getLast? ≠ some '_' := by
  constructor
  · intro heq hlast
    have hbase := (getLast_usernameBase_iff (some (String.ofList s))).mp (by
      rw [heq, String.toList_ofList, hlast])
    rw [cleaned_base h] at hbase
    -- without its underscore the base has at most 47 characters
    have hlt : (rstrip (· = '_') s).length < s.length := by
      refine lt_of_le_of_ne (List.rdropWhile_prefix _ s).length_le fun hlen => ?_
      have hsame : rstrip (· = '_') s = s := (List.rdropWhile_prefix _ s).eq_of_length hlen
      have hnot := List.rdropWhile_eq_self_iff.mp hsame h.nonempty
      rw [Option.some.inj ((List.getLast?_eq_some_getLast h.nonempty).symm.trans hlast)] at hnot
      exact hnot (by decide)
    have hlen := List.getElem?_eq_some_iff.mp hbase
    have := hlen.1
    have := h.length
    omega
  · intro hlast
    have hkeep : rstrip (· = '_') s = s := List.rdropWhile_eq_self_iff.mpr fun hne => by
      rw [List.getLast?_eq_some_getLast hne] at hlast
      simpa using hlast
    rw [usernameBase_eq, cleaned_base h, hkeep, List.take_of_length_le h.length,
      if_neg h.nonempty]

end Base

/-! ## The candidate -/

/-- A username that can be stored, and put into a path as it is. -/
structure PathSafe (name : String) : Prop where
  safe : ∀ c ∈ name.toList, usernameSafe c = true
  head : ∃ c, name.toList.head? = some c ∧ c ≠ '_'
  length : name.toList.length ≤ 53
  number : ∃ base digits : String, name = base ++ "_" ++ digits ∧ 4 ≤ digits.toList.length ∧
    ∀ c ∈ digits.toList, c.isDigit = true
  admin : splitText '/' (adminPath name) = ["", "api", "admin", name]
  action : ∀ action, splitText '/' (adminActionPath name action) =
    ["", "api", "admin", name] ++ splitText '/' action
  usage : splitText '/' (adminUsagePath name) = ["", "api", "admin", "usage", name]

section Candidate

variable {n : ℕ} {name : String}

theorem toList_fourDigits (n : ℕ) : (fourDigits n).toList =
    List.replicate (4 - (Nat.toDigits 10 n).length) '0' ++ Nat.toDigits 10 n := by
  rw [fourDigits, String.toList_ofList, Nat.toString_eq_repr, Nat.toList_repr]

theorem isDigit_of_mem_fourDigits {c : Char} (h : c ∈ (fourDigits n).toList) :
    c.isDigit = true := by
  rw [toList_fourDigits] at h
  obtain h | h := List.mem_append.mp h
  · rw [List.eq_of_mem_replicate h]
    decide
  · exact Nat.isDigit_of_mem_toDigits (by decide) (by decide) h

theorem length_fourDigits (h : n < 10000) : (fourDigits n).toList.length = 4 := by
  have hlen : (Nat.toDigits 10 n).length ≤ 4 :=
    (Nat.length_toDigits_le_iff (by decide) (by decide)).mpr h
  rw [toList_fourDigits, List.length_append, List.length_replicate]
  omega

theorem usernameSafe_of_isDigit {c : Char} (h : c.isDigit = true) : usernameSafe c = true := by
  simp only [Char.isDigit, Bool.and_eq_true, decide_eq_true_eq] at h
  exact decide_eq_true (.inr (.inl h))

/-- A name without slashes is one more segment. -/
theorem splitText_append (before : String) (h : '/' ∉ name.toList) :
    splitText '/' (before ++ "/" ++ name) = splitText '/' before ++ [name] := by
  rw [splitText, String.toList_append, String.toList_append, List.append_assoc]
  rw [show "/".toList ++ name.toList = '/' :: name.toList from rfl, List.splitOn_append_cons_self,
    List.splitOn_eq_singleton h, List.map_append]
  simp [splitText]

theorem splitText_append_append (before after : String) (h : '/' ∉ name.toList) :
    splitText '/' (before ++ "/" ++ name ++ "/" ++ after) =
      splitText '/' before ++ [name] ++ splitText '/' after := by
  rw [← splitText_append before h, splitText, String.toList_append, String.toList_append,
    List.append_assoc, show "/".toList ++ after.toList = '/' :: after.toList from rfl,
    List.splitOn_append_cons_self, List.map_append]
  rfl

/-- **Every candidate is safe in a path.** -/
theorem pathSafe_usernameCandidate (t : Option String) (h : n < 10000) :
    PathSafe (usernameCandidate t n) := by
  have hbase := isBase_usernameBase t
  have htext : (usernameCandidate t n).toList =
      (usernameBase t).toList ++ '_' :: (fourDigits n).toList := by
    rw [usernameCandidate, String.toList_append, String.toList_append, List.append_assoc]
    rfl
  have hsafe : ∀ c ∈ (usernameCandidate t n).toList, usernameSafe c = true := by
    intro c hc
    rw [htext] at hc
    obtain hc | hc := List.mem_append.mp hc
    · exact hbase.safe c hc
    · obtain rfl | hc := List.mem_cons.mp hc
      · decide
      · exact usernameSafe_of_isDigit (isDigit_of_mem_fourDigits hc)
  have hslash : '/' ∉ (usernameCandidate t n).toList := fun hc =>
    ne_of_usernameSafe (hsafe _ hc) (d := '/') (by decide) rfl
  refine ⟨hsafe, ?_, ?_, ⟨_, _, rfl, (length_fourDigits h).ge, fun c hc =>
    isDigit_of_mem_fourDigits hc⟩, ?_, fun action => ?_, ?_⟩
  · obtain ⟨c, s, hs⟩ := List.exists_cons_of_ne_nil hbase.nonempty
    refine ⟨c, by rw [htext, hs]; rfl, fun hc => hbase.head ?_⟩
    rw [hs, hc]
    rfl
  · rw [htext, List.length_append, List.length_cons, length_fourDigits h]
    have := hbase.length
    omega
  · exact splitText_append "/api/admin" hslash
  · exact splitText_append_append "/api/admin" action hslash
  · exact splitText_append "/api/admin/usage" hslash

/-- **Generated usernames.**  The candidate is always safe in a path; its base is in normal form
unless the cleaned name is cut behind an underscore. -/
theorem usernames_iff (t : Option String) (h : n < 10000) :
    (PathSafe (usernameCandidate t n) ∧
      usernameBase (some (usernameBase t)) = usernameBase t ∧
      (usernameBase t).toList.getLast? ≠ some '_') ↔ (cleaned t)[47]? ≠ some '_' := by
  have hfixed := usernameBase_base_iff (isBase_usernameBase t)
  rw [String.ofList_toList] at hfixed
  refine Iff.trans ?_ (not_congr (getLast_usernameBase_iff t))
  constructor
  · exact fun h => h.2.2
  · exact fun hlast => ⟨pathSafe_usernameCandidate t h, hfixed.mpr hlast, hlast⟩

theorem usernames_short : PathSafe (usernameCandidate (some " @Ali-Reza ") 7) ∧
    usernameBase (some (usernameBase (some " @Ali-Reza "))) = usernameBase (some " @Ali-Reza ") ∧
    (usernameBase (some " @Ali-Reza ")).toList.getLast? ≠ some '_' :=
  (usernames_iff (some " @Ali-Reza ") (by decide)).mpr (by decide)

/-- An underscore in the 48th place stays at the end of the base. -/
theorem usernames_cut : ¬ ∀ (t : Option String) (n : ℕ), n < 10000 →
    PathSafe (usernameCandidate t n) ∧
      usernameBase (some (usernameBase t)) = usernameBase t ∧
      (usernameBase t).toList.getLast? ≠ some '_' := by
  intro h
  exact (h (some "aaaaaaaaaaaaaaaaaaaaaaaaaaaaaaaaaaaaaaaaaaaaaaa_b") 1 (by decide)).2.2
    (by decide +kernel)

end Candidate

end ResellerBot
