import ResellerBot.Shop.Products
import Mathlib.Data.List.Dedup

/-!
# ResellerBot.Shop.Rows — valid products

When a row of `products` is valid, column by column, and what the parsers of the console let
through.
-/

open Interact

namespace ResellerBot

/-! ## Valid rows -/

def Decimal.Positive (d : Decimal) : Prop := ∃ q : ℚ, d = .finite q ∧ 0 < q

/-- A strictly increasing list of keys of services. -/
def ServiceKeys (ns : List ℤ) : Prop := ns ≠ [] ∧ ns.Pairwise (· < ·) ∧ ∀ n ∈ ns, 0 ≤ n

structure ProductRow.Valid (p : ProductRow) : Prop where
  price : p.priceToman.Positive
  traffic : 0 < p.trafficGb
  duration : 0 < p.durationDays
  users : ∀ n, p.usersLimit = some n → 0 < n
  services : ∃ ns, p.serviceIds = ns.map .int ∧ ServiceKeys ns

/-- The part of the validity that is about one column. -/
def ProductRow.FieldValid (p : ProductRow) : ProductField → Prop
  | .name | .slug => True
  | .priceToman => p.priceToman.Positive
  | .trafficGb => 0 < p.trafficGb
  | .durationDays => 0 < p.durationDays
  | .usersLimit => ∀ n, p.usersLimit = some n → 0 < n
  | .serviceIds => ∃ ns, p.serviceIds = ns.map .int ∧ ServiceKeys ns

/-- A value that its column may have. -/
def FieldValue.Good : FieldValue → Prop
  | ⟨.name, _⟩ | ⟨.slug, _⟩ => True
  | ⟨.priceToman, d⟩ => d.Positive
  | ⟨.trafficGb, n⟩ | ⟨.durationDays, n⟩ => 0 < n
  | ⟨.usersLimit, limit⟩ => ∀ n, limit = some n → 0 < n
  | ⟨.serviceIds, ns⟩ => ServiceKeys ns

theorem valid_iff {p : ProductRow} : p.Valid ↔ ∀ f, p.FieldValid f := by
  constructor
  · intro h f
    cases f with
    | name => trivial
    | slug => trivial
    | priceToman => exact h.price
    | trafficGb => exact h.traffic
    | durationDays => exact h.duration
    | usersLimit => exact h.users
    | serviceIds => exact h.services
  · intro h
    exact ⟨h .priceToman, h .trafficGb, h .durationDays, h .usersLimit, h .serviceIds⟩

/-- An assignment decides about its own column. -/
theorem set_fieldValid_self {p : ProductRow} {v : FieldValue} :
    (p.set v).FieldValid v.field ↔ v.Good := by
  obtain ⟨f, x⟩ := v
  cases f with
  | serviceIds =>
    constructor
    · rintro ⟨ns, he, hns⟩
      have hinj : Function.Injective (List.map ServiceId.int) :=
        List.map_injective_iff.mpr fun a b h => ServiceId.int.inj h
      have hx : x = ns := hinj he
      show ServiceKeys x
      rw [hx]
      exact hns
    · intro h
      exact ⟨x, rfl, h⟩
  | _ => exact Iff.rfl

theorem set_fieldValid_of_ne {p : ProductRow} {v : FieldValue} {f : ProductField}
    (h : v.field ≠ f) : (p.set v).FieldValid f ↔ p.FieldValid f := by
  obtain ⟨g, x⟩ := v
  cases g <;> cases f <;> first | exact absurd rfl h | exact Iff.rfl

/-- On a valid row an assignment keeps the validity exactly if its value is good. -/
theorem set_valid_iff {p : ProductRow} {v : FieldValue} (hp : p.Valid) :
    (p.set v).Valid ↔ v.Good := by
  rw [valid_iff] at hp ⊢
  constructor
  · intro h
    exact set_fieldValid_self.mp (h v.field)
  · intro hv f
    by_cases hf : v.field = f
    · rw [← hf]
      exact set_fieldValid_self.mpr hv
    · exact (set_fieldValid_of_ne hf).mpr (hp f)

/-- A column is valid once it has been assigned, if it has only been assigned good values. -/
theorem foldl_set_fieldValid {vs : List FieldValue} {p : ProductRow} {f : ProductField}
    (hgood : ∀ v ∈ vs, v.field = f → v.Good) (hf : p.FieldValid f ∨ ∃ v ∈ vs, v.field = f) :
    (vs.foldl ProductRow.set p).FieldValid f := by
  induction vs generalizing p with
  | nil =>
    rcases hf with hf | ⟨v, hv, -⟩
    · exact hf
    · simp at hv
  | cons v vs ih =>
    refine ih (fun u hu => hgood u (List.mem_cons_of_mem _ hu)) ?_
    by_cases hv : v.field = f
    · left
      have := hgood v List.mem_cons_self hv
      rw [← hv]
      exact set_fieldValid_self.mpr this
    · rcases hf with hf | ⟨u, hu, huf⟩
      · exact .inl ((set_fieldValid_of_ne hv).mpr hf)
      · rcases List.mem_cons.mp hu with rfl | hu
        · exact absurd huf hv
        · exact .inr ⟨u, hu, huf⟩

/-! ## The parsers of the console -/

/-- Good, or a price: prices are judged by what their column keeps. -/
def FieldValue.InRange (v : FieldValue) : Prop := v.field ≠ .priceToman → v.Good

theorem positiveNumber_ok {msg text : String} {n : ℤ} (h : positiveNumber msg text = .ok n) :
    0 < n := by
  obtain ⟨m, -, h⟩ := bind_eq_ok h
  split_ifs at h with hm
  obtain rfl := Except.ok.inj h
  omega

/-- Sorting the set of the items leaves a strictly increasing list. -/
theorem serviceKeys_sorted {items : List ℤ}
    (hne : items.dedup.insertionSort (· ≤ ·) ≠ [])
    (hpos : ¬(items.dedup.insertionSort (· ≤ ·)).any (· < 0)) :
    ServiceKeys (items.dedup.insertionSort (· ≤ ·)) := by
  refine ⟨hne, ?_, ?_⟩
  · have hs : (items.dedup.insertionSort (· ≤ ·)).Pairwise (· ≤ ·) :=
      List.pairwise_insertionSort (· ≤ ·) items.dedup
    have hn : (items.dedup.insertionSort (· ≤ ·)).Nodup :=
      (List.perm_insertionSort (· ≤ ·) items.dedup).nodup_iff.mpr (List.nodup_dedup items)
    exact (hs.and hn).imp fun h => lt_of_le_of_ne h.1 h.2
  · intro n hn
    by_contra hlt
    have hlt : n < 0 := by omega
    exact hpos (List.any_eq_true.mpr ⟨n, hn, by simpa using hlt⟩)

theorem parseProduct_good {isalnum : Char → Bool} {f : ProductField} {text : String} {v : f.Value}
    (hf : f ≠ .priceToman) (h : parseProduct isalnum f text = .ok v) :
    (FieldValue.mk f v).Good := by
  cases f with
  | name => trivial
  | slug => trivial
  | priceToman => exact absurd rfl hf
  | trafficGb => exact positiveNumber_ok h
  | durationDays => exact positiveNumber_ok h
  | usersLimit =>
    intro n hn
    have hn : v = some n := hn
    simp only [parseProduct] at h
    split_ifs at h with hw
    · have hv : v = none := (Except.ok.inj h).symm
      rw [hn] at hv
      cases hv
    · obtain ⟨m, hp, hm⟩ := map_eq_ok h
      rw [hn] at hm
      exact Option.some.inj hm ▸ positiveNumber_ok hp
  | serviceIds =>
    obtain ⟨items, -, h⟩ := bind_eq_ok h
    dsimp only at h
    split_ifs at h with hbad
    obtain rfl := Except.ok.inj h
    rw [not_or] at hbad
    exact serviceKeys_sorted hbad.1 hbad.2

/-- **What the console accepts for a column is in range.** -/
theorem consoleValue_inRange {isalnum : Char → Bool} {f : ProductField} {text : Option String}
    {v : FieldValue} (h : consoleValue isalnum f text = .ok v) : v.field = f ∧ v.InRange := by
  unfold consoleValue at h
  split_ifs at h with hf
  · obtain ⟨d, -, rfl⟩ := map_eq_ok h
    exact ⟨hf.symm, fun hne => absurd rfl hne⟩
  · cases text with
    | none => cases h
    | some text =>
      obtain ⟨x, hp, rfl⟩ := map_eq_ok h
      exact ⟨rfl, fun _ => parseProduct_good hf hp⟩

end ResellerBot
