import ResellerBot.Audit.Redaction
import Mathlib.Data.List.Basic

/-!
# ResellerBot.Audit.Residue — what redaction leaves behind

No credentials are left.  Of card numbers some may be: text that is kept between two masks, or in
front of the first, can be a card number of its own.
-/

namespace ResellerBot

/-! ## Characters -/

/-- What holds of every digit of the table holds of every digit. -/
theorem forall_decimal {p : Char → Bool}
    (h : digitZeros.all (fun z => (List.range 10).all fun k => p (Char.ofNat (z + k))) = true)
    {c : Char} (hc : isDecimal c = true) : p c = true := by
  rw [isDecimal, digitValue, Option.isSome_map, List.find?_isSome] at hc
  obtain ⟨z, hz, hrange⟩ := hc
  simp only [Bool.and_eq_true, decide_eq_true_eq] at hrange
  have hk : c.toNat - z ∈ List.range 10 := List.mem_range.mpr (by omega)
  have hp := List.all_eq_true.mp (List.all_eq_true.mp h z hz) _ hk
  rwa [Nat.add_sub_cancel' hrange.1, Char.ofNat_toNat] at hp

theorem isSpace_of_decimal {c : Char} (hc : isDecimal c = true) : isSpace c = false := by
  have h := forall_decimal (p := fun c => !isSpace c) (by decide +kernel) hc
  simpa using h

theorem sameLetter_of_decimal {c l : Char} (hc : isDecimal c = true) (hl : l ∈ "bear".toList) :
    sameLetter l c = false := by
  have h := forall_decimal (p := fun c => "bear".toList.all fun l => !sameLetter l c)
    (by decide +kernel) hc
  simpa using List.all_eq_true.mp h l hl

theorem eq_of_sameLetter_b {c : Char} (h : sameLetter 'b' c = true) : c = 'b' ∨ c = 'B' := by
  have hlower : c.toLower = 'b' := by simpa [sameLetter] using h
  unfold Char.toLower at hlower
  split_ifs at hlower with hup
  · have hval : c.val + 32 = 98 := congrArg Char.val hlower
    exact .inr (Char.ext (by grind))
  · exact .inl hlower

/-! ## Texts that agree up to a place that is rewritten -/

/-- The second text reads like the first up to the first place where it was rewritten, if any. -/
inductive ReadsLike : List Char → List Char → Prop
  | nil : ReadsLike [] []
  | keep (c : Char) {s t : List Char} (h : ReadsLike s t) : ReadsLike (c :: s) (c :: t)
  | card (c : Char) (s t : List Char) (h : isDecimal c = true) : ReadsLike (c :: s) (c :: t)
  | bearer (c : Char) (s t : List Char) (h : sameLetter 'b' c = true) :
    ReadsLike (c :: s) (hiddenBearer ++ t)

section Bearer

variable {s t u ls : List Char} {behind : Bool}

theorem ReadsLike.afterToken (h : ReadsLike s t) (ht : (afterToken t).isSome) :
    (afterToken s).isSome := by
  induction h with
  | nil => exact ht
  | keep c h ih =>
    rw [ResellerBot.afterToken] at ht ⊢
    split_ifs at ht ⊢
    · exact ih ht
    · rfl
    · exact ht
  | card c s t h =>
    have hspace : ¬isSpace c = true := by simp [isSpace_of_decimal h]
    rw [ResellerBot.afterToken, if_neg hspace] at ht ⊢
    split_ifs at ht ⊢
    · rfl
    · exact ht
  | bearer c s t h =>
    rw [ResellerBot.afterToken]
    obtain rfl | rfl := eq_of_sameLetter_b h
    · rfl
    · rfl

theorem ReadsLike.afterSpace (h : ReadsLike s t) (ht : (afterSpace t).isSome) :
    (afterSpace s).isSome := by
  cases h with
  | nil => exact ht
  | keep c h =>
    rw [ResellerBot.afterSpace] at ht ⊢
    split_ifs at ht ⊢
    · exact h.afterToken ht
    · exact ht
  | card c s t h =>
    rw [ResellerBot.afterSpace, if_neg (by simp [isSpace_of_decimal h])] at ht
    cases ht
  | bearer c s t h => cases ht

theorem ReadsLike.afterWord (h : ReadsLike s t) (hls : ls ∈ "bearer".toList.tails)
    (ht : (afterWord ls t).isSome) : (afterWord ls s).isSome := by
  induction ls generalizing s t with
  | nil => exact h.afterSpace ht
  | cons l ls ih =>
    have hl : l ∈ "bear".toList ∧ ls ∈ "bearer".toList.tails := by
      revert hls
      simp
      rintro (h | h | h | h | h | h) <;> simp [h]
    cases h with
    | nil => exact ht
    | keep c h =>
      rw [ResellerBot.afterWord] at ht ⊢
      split_ifs at ht ⊢
      · exact ih h hl.2 ht
      · exact ht
    | card c s t h =>
      rw [ResellerBot.afterWord, if_neg (by simp [sameLetter_of_decimal h hl.1])] at ht
      cases ht
    | bearer c s t h =>
      exfalso
      revert hls ht
      simp
      rintro (⟨rfl, rfl⟩ | ⟨rfl, rfl⟩ | ⟨rfl, rfl⟩ | ⟨rfl, rfl⟩ | ⟨rfl, rfl⟩ | ⟨rfl, rfl⟩) <;> rfl

theorem ReadsLike.bearerAt (h : ReadsLike s t) (ht : (bearerAt t).isSome) : (bearerAt s).isSome :=
  h.afterWord (by simp) ht

/-! ## Credentials -/

theorem hasBearer_append_right (hu : u.all (fun x => !sameLetter 'b' x) = true) :
    hasBearer (u ++ t) = hasBearer t := by
  induction u with
  | nil => rfl
  | cons x u ih =>
    rw [List.all_cons, Bool.and_eq_true, Bool.not_eq_true'] at hu
    have hx : ResellerBot.bearerAt (x :: (u ++ t)) = none := if_neg (Bool.eq_false_iff.mp hu.1)
    rw [List.cons_append, hasBearer, hx, ih hu.2]
    rfl

theorem hasBearer_append_of_right (h : hasBearer t = true) : hasBearer (u ++ t) = true := by
  induction u with
  | nil => exact h
  | cons x u ih => rw [List.cons_append, hasBearer, ih, Bool.or_true]

/-- A new mask shows no credentials by itself. -/
theorem hasBearer_hiddenBearer : hasBearer (hiddenBearer ++ t) = hasBearer t := by
  have htail : hasBearer ("earer [REDACTED]".toList ++ t) = hasBearer t :=
    hasBearer_append_right (by decide)
  exact htail

theorem sameLetter_of_bearerAt {c : Char} (h : (ResellerBot.bearerAt (c :: s)).isSome) :
    sameLetter 'b' c = true := by
  by_contra hc
  have hnone : ResellerBot.bearerAt (c :: s) = none := if_neg hc
  rw [hnone] at h
  cases h

theorem reads_hideBearer (s : List Char) : ReadsLike s (hideBearer s) := by
  fun_induction hideBearer s with
  | case1 => exact .nil
  | case2 c cs rest h ih =>
    exact .bearer c cs _ (sameLetter_of_bearerAt (Option.isSome_iff_exists.mpr ⟨rest, h⟩))
  | case3 c cs h ih => exact .keep c ih

/-- **No credentials are left.** -/
theorem hasBearer_hideBearer (s : List Char) : hasBearer (hideBearer s) = false := by
  fun_induction hideBearer s with
  | case1 => rfl
  | case2 c cs rest h ih => rw [hasBearer_hiddenBearer, ih]
  | case3 c cs h ih =>
    have hread : ReadsLike (c :: cs) (c :: hideBearer cs) := .keep c (reads_hideBearer cs)
    have hnone : ¬(ResellerBot.bearerAt (c :: hideBearer cs)).isSome := by
      intro hsome
      have := hread.bearerAt hsome
      rw [h] at this
      cases this
    rw [hasBearer, ih, Bool.or_false, Bool.eq_false_iff]
    exact hnone

theorem hideBearer_of_not (h : hasBearer s = false) : hideBearer s = s := by
  fun_induction hideBearer s with
  | case1 => rfl
  | case2 c cs rest hat ih =>
    rw [hasBearer, hat] at h
    cases h
  | case3 c cs hat ih =>
    rw [hasBearer, hat] at h
    rw [ih h]

/-! ## Card numbers -/

theorem skipSeparator_suffix (cs : List Char) : skipSeparator cs <:+ cs := by
  cases cs with
  | nil => exact List.suffix_rfl
  | cons c cs =>
    rw [skipSeparator]
    split_ifs
    · exact List.suffix_cons c cs
    · exact List.suffix_rfl

/-- A match is its groups and what follows, and it begins with a digit. -/
theorem cardAt_append {m : Card} (h : cardAt behind s = some m) :
    m.rest <:+ s ∧ (∃ c first, m.first = c :: first ∧ s.head? = some c) ∧
      ∀ x ∈ m.first ++ m.last, isDecimal x = true := by
  obtain ⟨-, r₁, r₂, r₃, ds₂, ds₃, h₁, h₂, h₃, h₄, -⟩ := cardAt_eq h
  obtain ⟨hs, hlength, hfirst⟩ := takeDecimals_eq h₁
  have hsuffix : ∀ {cs ds rest}, takeDecimals 4 cs = some (ds, rest) → rest <:+ cs :=
    fun h => ⟨_, (takeDecimals_eq h).1.symm⟩
  refine ⟨?_, ?_, ?_⟩
  · exact (hsuffix h₄).trans ((skipSeparator_suffix r₃).trans ((hsuffix h₃).trans
      ((skipSeparator_suffix r₂).trans ((hsuffix h₂).trans
        ((skipSeparator_suffix r₁).trans (hsuffix h₁))))))
  · obtain ⟨c, first, hcons⟩ := List.exists_cons_of_length_eq_add_one hlength
    exact ⟨c, first, hcons, by rw [hs, hcons]; rfl⟩
  · intro x hx
    obtain hx | hx := List.mem_append.mp hx
    · exact hfirst x hx
    · exact (takeDecimals_eq h₄).2.2 x hx

theorem cardAt_of_not_decimal {c : Char} (hc : isDecimal c = false) :
    cardAt behind (c :: s) = none := by
  have htake : takeDecimals 4 (c :: s) = none := if_neg (Bool.eq_false_iff.mp hc)
  rw [cardAt, htake]
  split_ifs <;> rfl

theorem reads_maskCards (behind : Bool) (s : List Char) : ReadsLike s (maskCards behind s) := by
  fun_induction maskCards behind s with
  | case1 => exact .nil
  | case2 behind c cs m h ih =>
    obtain ⟨-, ⟨c', first, hfirst, hhead⟩, hall⟩ := cardAt_append h
    obtain rfl : c = c' := Option.some.inj hhead
    rw [hfirst]
    exact .card c cs _ (hall c (by simp [hfirst]))
  | case3 behind c cs h ih => exact .keep c ih

theorem hasBearer_maskCards (h : hasBearer (maskCards behind s) = true) : hasBearer s = true := by
  fun_induction maskCards behind s with
  | case1 => exact h
  | case2 behind c cs m hat ih =>
    obtain ⟨⟨mid, hmid⟩, -, hall⟩ := cardAt_append hat
    have hclear : (m.first ++ cardMask ++ m.last).all (fun x => !sameLetter 'b' x) = true := by
      have hdecimal : ∀ ds ⊆ m.first ++ m.last, ds.all (fun x => !sameLetter 'b' x) = true := by
        intro ds hds
        refine List.all_eq_true.mpr fun x hx => ?_
        rw [sameLetter_of_decimal (hall x (hds hx)) (by decide)]
        rfl
      have hmask : cardMask.all (fun x => !sameLetter 'b' x) = true := by decide
      rw [List.all_append, List.all_append, hmask, hdecimal _ (List.subset_append_left _ _),
        hdecimal _ (List.subset_append_right _ _)]
      rfl
    rw [hasBearer_append_right hclear] at h
    rw [← hmid]
    exact hasBearer_append_of_right (ih h)
  | case3 behind c cs hat ih =>
    rw [hasBearer, Bool.or_eq_true] at h ⊢
    obtain h | h := h
    · exact .inl ((ReadsLike.keep c (reads_maskCards _ cs)).bearerAt h)
    · exact .inr (ih h)

theorem hasBearer_redacted (s : List Char) :
    hasBearer (maskCards false (hideBearer s)) = false := by
  rw [Bool.eq_false_iff]
  intro h
  have := hasBearer_maskCards h
  rw [hasBearer_hideBearer] at this
  cases this

end Bearer

/-! ## What is left of card numbers -/

section Stretches

variable {s u x : List Char} {behind : Bool}

/-- A mask ends every match. -/
theorem takeDecimals_append {y : List Char} (hy : ∀ n, takeDecimals (n + 1) y = none) (n : ℕ) :
    takeDecimals n (x ++ y) = (takeDecimals n x).map fun z => (z.1, z.2 ++ y) := by
  induction n generalizing x with
  | zero => rfl
  | succ n ih =>
    cases x with
    | nil => exact hy n
    | cons c x =>
      rw [List.cons_append, takeDecimals, takeDecimals, ih]
      split_ifs
      · rw [Option.map_map, Option.map_map]
        rfl
      · rfl

theorem takeDecimals_mask (n : ℕ) : takeDecimals (n + 1) (cardMask ++ u) = none :=
  if_neg (by decide)

theorem takeDecimals_skip_append : takeDecimals 4 (skipSeparator (x ++ (cardMask ++ u))) =
    (takeDecimals 4 (skipSeparator x)).map fun z => (z.1, z.2 ++ (cardMask ++ u)) := by
  cases x with
  | nil => exact if_neg (by decide)
  | cons c x =>
    have hskip : skipSeparator (c :: x ++ (cardMask ++ u)) =
        skipSeparator (c :: x) ++ (cardMask ++ u) := by
      rw [List.cons_append, skipSeparator, skipSeparator]
      split_ifs <;> rfl
    rw [hskip, takeDecimals_append takeDecimals_mask]

theorem cardAt_append_mask : cardAt behind (x ++ (cardMask ++ u)) =
    (cardAt behind x).map fun m => { m with rest := m.rest ++ (cardMask ++ u) } := by
  have hahead : ∀ rest : List Char, (rest ++ (cardMask ++ u)).head?.any isDecimal =
      rest.head?.any isDecimal := by
    intro rest
    cases rest <;> rfl
  unfold cardAt
  split_ifs
  · rfl
  · simp only [takeDecimals_append takeDecimals_mask]
    cases takeDecimals 4 x with
    | none => rfl
    | some z₁ =>
      simp only [Option.map_some, Option.bind_eq_bind, Option.bind_some, takeDecimals_skip_append]
      cases takeDecimals 4 (skipSeparator z₁.2) with
      | none => rfl
      | some z₂ =>
        simp only [Option.map_some, Option.bind_some, takeDecimals_skip_append]
        cases takeDecimals 4 (skipSeparator z₂.2) with
        | none => rfl
        | some z₃ =>
          simp only [Option.map_some, Option.bind_some, takeDecimals_skip_append]
          cases takeDecimals 4 (skipSeparator z₃.2) with
          | none => rfl
          | some z₄ =>
            simp only [Option.map_some, Option.bind_some, hahead]
            split_ifs <;> rfl

theorem hasCard_append_of_not_decimal {v : List Char} (hv : v ≠ [])
    (h : v.all (fun c => !isDecimal c) = true) : hasCard behind (v ++ u) = hasCard false u := by
  induction v generalizing behind with
  | nil => exact absurd rfl hv
  | cons c v ih =>
    rw [List.all_cons, Bool.and_eq_true, Bool.not_eq_true'] at h
    rw [List.cons_append, hasCard, cardAt_of_not_decimal h.1, h.1]
    by_cases hnil : v = []
    · rw [hnil]
      rfl
    · exact ih hnil h.2

/-- **A mask separates: what contains a card number is what stands before it or after it.** -/
theorem hasCard_mask : hasCard behind (x ++ (cardMask ++ u)) =
    (hasCard behind x || hasCard false u) := by
  induction x generalizing behind with
  | nil => exact hasCard_append_of_not_decimal (v := cardMask) (by decide) (by decide)
  | cons c x ih =>
    have hat : cardAt behind (c :: x ++ (cardMask ++ u)) = _ := cardAt_append_mask
    rw [List.cons_append] at hat
    rw [List.cons_append, hasCard, hasCard, ih, hat, Option.isSome_map, Bool.or_assoc]

/-- The pieces of a text that stay connected: from the last group of a card number, or the
beginning, to the first group of the next, or the end. -/
def stretches (done : List Char) (behind : Bool) (s : List Char) : List (List Char) :=
  match s with
  | [] => [done]
  | c :: cs =>
    match _h : cardAt behind (c :: cs) with
    | some m => (done ++ m.first) :: stretches m.last true m.rest
    | none => stretches (done ++ [c]) (isDecimal c) cs
termination_by s.length
decreasing_by
  · exact length_cardAt _h
  · exact Nat.lt_succ_self _

theorem maskCards_some {c : Char} {m : Card} (h : cardAt behind (c :: s) = some m) :
    maskCards behind (c :: s) = m.first ++ cardMask ++ m.last ++ maskCards true m.rest := by
  rw [maskCards]
  split
  · next m' hm =>
    obtain rfl := Option.some.inj (h.symm.trans hm)
    rfl
  · next hm =>
    rw [h] at hm
    cases hm

theorem maskCards_none {c : Char} (h : cardAt behind (c :: s) = none) :
    maskCards behind (c :: s) = c :: maskCards (isDecimal c) s := by
  rw [maskCards]
  split
  · next m hm =>
    rw [h] at hm
    cases hm
  · rfl

/-- **A card number is left exactly if one is in a piece that stays connected.** -/
theorem hasCard_maskCards (done : List Char) (behind : Bool) (s : List Char) :
    hasCard false (done ++ maskCards behind s) = (stretches done behind s).any (hasCard false) := by
  fun_induction stretches done behind s with
  | case1 done behind => rw [maskCards, List.append_nil]; simp
  | case2 done behind c cs m h ih =>
    have hsplit : done ++ maskCards behind (c :: cs) =
        (done ++ m.first) ++ (cardMask ++ (m.last ++ maskCards true m.rest)) := by
      rw [maskCards_some h]
      simp only [List.append_assoc]
    rw [hsplit, hasCard_mask, ih, List.any_cons]
  | case3 done behind c cs h ih =>
    rw [maskCards_none h, ← ih, List.append_assoc, List.singleton_append]

/-- A text without card numbers is kept. -/
theorem maskCards_of_not (h : hasCard behind s = false) : maskCards behind s = s := by
  induction s generalizing behind with
  | nil => rw [maskCards]
  | cons c s ih =>
    rw [hasCard, Bool.or_eq_false_iff] at h
    rw [maskCards_none (by simpa using h.1), ih h.2]

/-- A text with a card number is not. -/
theorem maskCards_ne (h : hasCard behind s = true) : maskCards behind s ≠ s := by
  induction s generalizing behind with
  | nil => cases h
  | cons c s ih =>
    rw [hasCard, Bool.or_eq_true] at h
    cases hat : cardAt behind (c :: s) with
    | none =>
      rw [hat] at h
      rw [maskCards_none hat]
      obtain h | h := h
      · cases h
      · exact fun heq => ih h (List.cons.inj heq).2
    | some m =>
      rw [maskCards_some hat]
      intro heq
      obtain ⟨-, r₁, r₂, r₃, ds₂, ds₃, h₁, h₂, -⟩ := cardAt_eq hat
      -- The text goes on with digits where the mask has an asterisk.
      have hrest : r₁ = cardMask ++ (m.last ++ maskCards true m.rest) := by
        rw [(takeDecimals_eq h₁).1, List.append_assoc, List.append_assoc] at heq
        exact (List.append_cancel_left heq).symm
      have hnone : takeDecimals 4 (skipSeparator r₁) = none := by
        rw [hrest]
        exact if_neg (by decide)
      rw [hnone] at h₂
      cases h₂

end Stretches

/-! ## Texts -/

section Texts

variable {s : String}

/-- The text is masked in pieces that contain no card number of their own. -/
def Separated (s : String) : Prop :=
  ∀ x ∈ stretches [] false (hideBearer s.toList), hasCard false x = false

theorem separated_iff : Separated s ↔ hasCard false (redactText s).toList = false := by
  have h := hasCard_maskCards [] false (hideBearer s.toList)
  rw [List.nil_append] at h
  rw [redactText, String.toList_ofList, h, List.any_eq_false]
  simp only [Separated, Bool.not_eq_true]

theorem hasBearer_redactText : hasBearer (redactText s).toList = false := by
  rw [redactText, String.toList_ofList, hasBearer_redacted]

theorem redactText_redactText_iff : redactText (redactText s) = redactText s ↔ Separated s := by
  have hagain : (redactText (redactText s)).toList = maskCards false (redactText s).toList := by
    rw [redactText, String.toList_ofList, hideBearer_of_not hasBearer_redactText]
  rw [separated_iff]
  constructor
  · intro h
    by_contra hcard
    rw [Bool.not_eq_false] at hcard
    exact maskCards_ne hcard (by rw [← hagain, h])
  · intro h
    exact String.toList_injective (by rw [hagain, maskCards_of_not h])

end Texts

/-! ## Nested values -/

section Values

variable {κ : Type} (keep : κ → Bool) (str : κ → String)

namespace AuditValue

mutual

/-- The texts in a value, but for those under keys that are not kept. -/
def texts : AuditValue κ → List String
  | .dict entries => textsEntries entries
  | .list items => textsItems items
  | .tuple items => textsItems items
  | .text s => [s]
  | .number _ => []
  | .none => []

def textsItems : List (AuditValue κ) → List String
  | [] => []
  | x :: xs => texts x ++ textsItems xs

def textsEntries : List (κ × AuditValue κ) → List String
  | [] => []
  | (k, x) :: es => (if keep k then texts x else []) ++ textsEntries es

end

/-- All texts in a value. -/
def allTexts : AuditValue κ → List String := texts fun _ => true

/-- The texts that no sensitive key hides. -/
def exposed : AuditValue κ → List String := texts fun k => !sensitiveKey (str k)

mutual

/-- The values that are stored under a sensitive key. -/
def hidden : AuditValue κ → List (AuditValue κ)
  | .dict entries => hiddenEntries entries
  | .list items => hiddenItems items
  | .tuple items => hiddenItems items
  | .text _ => []
  | .number _ => []
  | .none => []

def hiddenItems : List (AuditValue κ) → List (AuditValue κ)
  | [] => []
  | x :: xs => hidden x ++ hiddenItems xs

def hiddenEntries : List (κ × AuditValue κ) → List (AuditValue κ)
  | [] => []
  | (k, x) :: es => (if sensitiveKey (str k) then [x] else hidden x) ++ hiddenEntries es

end

end AuditValue

mutual

/-- The two values differ only under sensitive keys. -/
inductive SameOutside : AuditValue κ → AuditValue κ → Prop
  | dict {es fs} (h : SameEntries es fs) : SameOutside (.dict es) (.dict fs)
  | list {xs ys} (h : SameItems xs ys) : SameOutside (.list xs) (.list ys)
  | tuple {xs ys} (h : SameItems xs ys) : SameOutside (.tuple xs) (.tuple ys)
  | text (s) : SameOutside (.text s) (.text s)
  | number (q) : SameOutside (.number q) (.number q)
  | none : SameOutside .none .none

inductive SameItems : List (AuditValue κ) → List (AuditValue κ) → Prop
  | nil : SameItems [] []
  | cons {x y xs ys} (h : SameOutside x y) (hs : SameItems xs ys) : SameItems (x :: xs) (y :: ys)

inductive SameEntries : List (κ × AuditValue κ) → List (κ × AuditValue κ) → Prop
  | nil : SameEntries [] []
  | sensitive {es fs} (k x y) (h : sensitiveKey (str k) = true) (hs : SameEntries es fs) :
    SameEntries ((k, x) :: es) ((k, y) :: fs)
  | cons {es fs} (k) {x y} (h : SameOutside x y) (hs : SameEntries es fs) :
    SameEntries ((k, x) :: es) ((k, y) :: fs)

end

variable {str}

mutual

theorem SameOutside.redact {v w : AuditValue κ} (h : SameOutside str v w) :
    redact str v = redact str w := by
  cases h with
  | dict h => rw [ResellerBot.redact, ResellerBot.redact, h.redact]
  | list h => rw [ResellerBot.redact, ResellerBot.redact, h.redact]
  | tuple h => rw [ResellerBot.redact, ResellerBot.redact, h.redact]
  | text s => rfl
  | number q => rfl
  | none => rfl

theorem SameItems.redact {xs ys : List (AuditValue κ)} (h : SameItems str xs ys) :
    redactItems str xs = redactItems str ys := by
  cases h with
  | nil => rfl
  | cons h hs => rw [redactItems, redactItems, h.redact, hs.redact]

theorem SameEntries.redact {es fs : List (κ × AuditValue κ)} (h : SameEntries str es fs) :
    redactEntries str es = redactEntries str fs := by
  cases h with
  | nil => rfl
  | sensitive k x y hk hs => rw [redactEntries, redactEntries, if_pos hk, if_pos hk, hs.redact]
  | cons k h hs => rw [redactEntries, redactEntries, h.redact, hs.redact]

end

mutual

/-- The texts of a redacted value are the redacted texts, and the mark for what was hidden. -/
theorem forall_texts_redact {P : String → Prop} (hmark : P "[REDACTED]") (v : AuditValue κ) :
    (∀ s ∈ (redact str v).allTexts, P s) ↔ ∀ s ∈ v.exposed str, P (redactText s) := by
  cases v with
  | dict es => exact forall_textsEntries_redact hmark es
  | list xs => exact forall_textsItems_redact hmark xs
  | tuple xs => exact forall_textsItems_redact hmark xs
  | text s =>
    have hleft : (redact str (.text s : AuditValue κ)).allTexts = [redactText s] := rfl
    have hright : (AuditValue.text s : AuditValue κ).exposed str = [s] := rfl
    rw [hleft, hright, List.forall_mem_singleton, List.forall_mem_singleton]
  | number | none => exact ⟨fun _ _ h => (nomatch h), fun _ _ h => (nomatch h)⟩

theorem forall_textsItems_redact {P : String → Prop} (hmark : P "[REDACTED]")
    (xs : List (AuditValue κ)) :
    (∀ s ∈ AuditValue.textsItems (fun _ => true) (redactItems str xs), P s) ↔
      ∀ s ∈ AuditValue.textsItems (fun k => !sensitiveKey (str k)) xs, P (redactText s) := by
  cases xs with
  | nil => exact ⟨fun _ _ h => (nomatch h), fun _ _ h => nomatch h⟩
  | cons x xs =>
    rw [redactItems, AuditValue.textsItems, AuditValue.textsItems, List.forall_mem_append,
      List.forall_mem_append]
    exact and_congr (forall_texts_redact hmark x) (forall_textsItems_redact hmark xs)

theorem forall_textsEntries_redact {P : String → Prop} (hmark : P "[REDACTED]")
    (es : List (κ × AuditValue κ)) :
    (∀ s ∈ AuditValue.textsEntries (fun _ => true) (redactEntries str es), P s) ↔
      ∀ s ∈ AuditValue.textsEntries (fun k => !sensitiveKey (str k)) es, P (redactText s) := by
  match es with
  | [] => exact ⟨fun _ _ h => (nomatch h), fun _ _ h => nomatch h⟩
  | (k, x) :: es =>
    rw [redactEntries, AuditValue.textsEntries, AuditValue.textsEntries, List.forall_mem_append,
      List.forall_mem_append]
    refine and_congr ?_ (forall_textsEntries_redact hmark es)
    cases hk : sensitiveKey (str k) with
    | true =>
      constructor
      · exact fun _ _ h => nomatch h
      · intro _ s hs
        obtain rfl : s = "[REDACTED]" := List.mem_singleton.mp hs
        exact hmark
    | false => exact forall_texts_redact hmark x

end

mutual

theorem redact_redact_iff (v : AuditValue κ) : redact str (redact str v) = redact str v ↔
    ∀ s ∈ v.exposed str, redactText (redactText s) = redactText s := by
  cases v with
  | dict es => exact (AuditValue.dict.injEq ..).to_iff.trans (redactEntries_redactEntries_iff es)
  | list xs => exact (AuditValue.list.injEq ..).to_iff.trans (redactItems_redactItems_iff xs)
  | tuple xs => exact (AuditValue.list.injEq ..).to_iff.trans (redactItems_redactItems_iff xs)
  | text s =>
    have hright : (AuditValue.text s : AuditValue κ).exposed str = [s] := rfl
    rw [hright, List.forall_mem_singleton]
    exact (AuditValue.text.injEq ..).to_iff
  | number | none => exact ⟨fun _ _ h => (nomatch h), fun _ => rfl⟩

theorem redactItems_redactItems_iff (xs : List (AuditValue κ)) :
    redactItems str (redactItems str xs) = redactItems str xs ↔
      ∀ s ∈ AuditValue.textsItems (fun k => !sensitiveKey (str k)) xs,
        redactText (redactText s) = redactText s := by
  cases xs with
  | nil => exact ⟨fun _ _ h => (nomatch h), fun _ => rfl⟩
  | cons x xs =>
    rw [AuditValue.textsItems, List.forall_mem_append, redactItems, redactItems, List.cons.injEq]
    exact and_congr (redact_redact_iff x) (redactItems_redactItems_iff xs)

theorem redactEntries_redactEntries_iff (es : List (κ × AuditValue κ)) :
    redactEntries str (redactEntries str es) = redactEntries str es ↔
      ∀ s ∈ AuditValue.textsEntries (fun k => !sensitiveKey (str k)) es,
        redactText (redactText s) = redactText s := by
  match es with
  | [] => exact ⟨fun _ _ h => (nomatch h), fun _ => rfl⟩
  | (k, x) :: es =>
    rw [AuditValue.textsEntries, List.forall_mem_append, redactEntries, redactEntries,
      List.cons.injEq, Prod.mk.injEq]
    refine and_congr ?_ (redactEntries_redactEntries_iff es)
    cases hk : sensitiveKey (str k) with
    | true => exact ⟨fun _ _ h => (nomatch h), fun _ => ⟨rfl, rfl⟩⟩
    | false =>
      simp only [Bool.false_eq_true, if_false, true_and]
      exact redact_redact_iff x

end

mutual

/-- Whatever a sensitive key had stored is replaced. -/
theorem eq_of_mem_hidden (v : AuditValue κ) :
    ∀ x ∈ (redact str v).hidden str, x = .text "[REDACTED]" := by
  cases v with
  | dict es => exact eq_of_mem_hiddenEntries es
  | list xs => exact eq_of_mem_hiddenItems xs
  | tuple xs => exact eq_of_mem_hiddenItems xs
  | text | number | none => exact fun _ h => nomatch h

theorem eq_of_mem_hiddenItems (xs : List (AuditValue κ)) :
    ∀ x ∈ AuditValue.hiddenItems str (redactItems str xs), x = .text "[REDACTED]" := by
  cases xs with
  | nil => exact fun _ h => nomatch h
  | cons x xs =>
    rw [redactItems, AuditValue.hiddenItems, List.forall_mem_append]
    exact ⟨eq_of_mem_hidden x, eq_of_mem_hiddenItems xs⟩

theorem eq_of_mem_hiddenEntries (es : List (κ × AuditValue κ)) :
    ∀ x ∈ AuditValue.hiddenEntries str (redactEntries str es), x = .text "[REDACTED]" := by
  match es with
  | [] => exact fun _ h => nomatch h
  | (k, x) :: es =>
    rw [redactEntries, AuditValue.hiddenEntries, List.forall_mem_append]
    refine ⟨?_, eq_of_mem_hiddenEntries es⟩
    cases hk : sensitiveKey (str k) with
    | true => exact fun y hy => List.mem_singleton.mp hy
    | false => exact eq_of_mem_hidden x

end

/-- Nothing is left of credentials and card numbers, and nothing is lost in a second pass. -/
structure Redacted (str : κ → String) (v : AuditValue κ) : Prop where
  clean : ∀ s ∈ (redact str v).allTexts, hasCard false s.toList = false ∧ hasBearer s.toList = false
  replaced : ∀ x ∈ (redact str v).hidden str, x = .text "[REDACTED]"
  same : ∀ w, SameOutside str v w → redact str v = redact str w
  idempotent : redact str (redact str v) = redact str v

/-- **Redaction leaves nothing behind if and only if every exposed text is masked in pieces that
contain no card number of their own.** -/
theorem redacted_iff (str : κ → String) (v : AuditValue κ) :
    Redacted str v ↔ ∀ s ∈ v.exposed str, Separated s := by
  have hclean : (∀ s ∈ (redact str v).allTexts,
      hasCard false s.toList = false ∧ hasBearer s.toList = false) ↔ ∀ s ∈ v.exposed str,
        hasCard false (redactText s).toList = false ∧ hasBearer (redactText s).toList = false :=
    forall_texts_redact (P := fun s =>
      hasCard false s.toList = false ∧ hasBearer s.toList = false) (by decide +kernel) v
  constructor
  · intro h s hs
    exact separated_iff.mpr (hclean.mp h.clean s hs).1
  · intro h
    refine ⟨hclean.mpr fun s hs => ⟨separated_iff.mp (h s hs), hasBearer_redactText⟩,
      eq_of_mem_hidden v, fun w hw => hw.redact, ?_⟩
    exact (redact_redact_iff v).mpr fun s hs => redactText_redactText_iff.mpr (h s hs)

end Values

/-- Three card numbers that share groups, each with a blank after four digits. -/
theorem card_left_behind : ¬Redacted (fun k : String => k)
    (.text "1111 2222 3333 4444 5555 6666 7777") := by
  intro h
  have hmasked : redactText "1111 2222 3333 4444 5555 6666 7777" =
      "1111-****-****-4444 5555 6666 7777" := by decide +kernel
  have hcard := (h.clean _ (List.mem_singleton.mpr rfl)).1
  rw [hmasked] at hcard
  exact absurd hcard (by decide +kernel)

end ResellerBot
