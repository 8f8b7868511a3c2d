import ResellerBot.Python
import Mathlib.Data.List.Sort

/-!
# ResellerBot.Rebecca.Models — what Rebecca returns (`app/rebecca/models.py`)
-/

namespace ResellerBot

/-- `int | str`: Rebecca versions name services by either. -/
inductive ServiceId
  | int (n : ℤ)
  | str (s : String)
  deriving DecidableEq, Repr

/-- `str(item)`. -/
def ServiceId.text : ServiceId → String
  | .int n => toString n
  | .str s => s

def normalizeStatus (value : String) : String :=
  let normalized := String.ofList (strip isSpace (lower value.toList))
  if normalized = "active" ∨ normalized = "enabled" then "active"
  else if normalized = "disabled" ∨ normalized = "inactive" then "disabled"
  else normalized

theorem normalizeStatus_normalizeStatus (value : String) :
    normalizeStatus (normalizeStatus value) = normalizeStatus value := by
  have hn : ∀ t, String.ofList (strip isSpace (lower value.toList)) = t →
      String.ofList (strip isSpace (lower t.toList)) = t := by
    rintro t rfl
    rw [String.toList_ofList, lower_of_fixed, strip_strip]
    intro d hd
    obtain ⟨c, -, hc⟩ := List.mem_flatMap.mp (mem_of_mem_strip _ _ hd)
    exact lowerChar_of_mem hc
  have key : ∀ t, normalizeStatus t = "active" ∨ normalizeStatus t = "disabled" ∨
      normalizeStatus t = String.ofList (strip isSpace (lower t.toList)) := by
    intro t
    unfold normalizeStatus
    dsimp only
    split_ifs
    · exact .inl rfl
    · exact .inr (.inl rfl)
    · exact .inr (.inr rfl)
  rcases key value with h | h | h
  · rw [h]; decide
  · rw [h]; decide
  · rw [h]
    have h' := hn _ rfl
    unfold normalizeStatus at h ⊢
    dsimp only at h ⊢
    rw [h', h]

/-- `value.lower() in {"active", "enabled"}`. -/
def isActive (status : String) : Bool :=
  let s := String.ofList (lower status.toList)
  s = "active" || s = "enabled"

theorem normalizeStatus_of_isActive {status : String} (h : isActive status = true) :
    normalizeStatus status = "active" := by
  have hlower : String.ofList (lower status.toList) = "active" ∨
      String.ofList (lower status.toList) = "enabled" := by
    simpa [isActive] using h
  obtain h | h := hlower
  · have hlist : lower status.toList = "active".toList := by rw [← h, String.toList_ofList]
    rw [normalizeStatus, hlist]
    decide
  · have hlist : lower status.toList = "enabled".toList := by rw [← h, String.toList_ofList]
    rw [normalizeStatus, hlist]
    decide

/-- `value.lower() in {"disabled", "inactive"}`. -/
def isDisabled (status : String) : Bool :=
  let s := String.ofList (lower status.toList)
  s = "disabled" || s = "inactive"

/-- Rebecca's Unix timestamp; null and zero mean no expiry. -/
def parseExpire : Option ℤ → Option Datetime
  | none => none
  | some s => if s = 0 then none else some (s * second)

/-- `int(aware.timestamp())` -/
def serializeExpire (value : Option Datetime) : Option ℤ := value.map unixSeconds

structure Admin where
  username : String
  role : String
  status : String
  expire : Option Datetime
  dataLimit : Option ℤ
  usedTraffic : ℤ
  services : List ServiceId
  usersLimit : Option ℤ
  deriving DecidableEq, Repr

structure User where
  username : String
  adminUsername : Option String
  status : String
  expire : Option Datetime
  dataLimit : Option ℤ
  dataLimitUnlimited : Bool
  usedTraffic : ℤ
  deriving DecidableEq, Repr

/-- What Rebecca gives back for an expiry it was sent. -/
def storedExpire (value : Option Datetime) : Option Datetime :=
  parseExpire (serializeExpire value)

/-- An instant that Rebecca stores and returns unchanged: a whole second other than the epoch,
or no expiry at all. -/
def WholeSecond : Option Datetime → Prop
  | none => True
  | some t => t ≠ 0 ∧ second ∣ t

theorem storedExpire_of_whole {e : Option Datetime} (h : WholeSecond e)
    (hr : ∀ t, e = some t → Representable t) : storedExpire e = e := by
  cases e with
  | none => rfl
  | some t =>
    obtain ⟨h0, k, rfl⟩ := h
    have hr := hr _ rfl
    rw [Int.mul_comm] at h0 hr ⊢
    have hk : k ≠ 0 := by rintro rfl; exact h0 (Int.zero_mul _)
    simp only [storedExpire, serializeExpire, parseExpire, Option.map_some, unixSeconds_whole hr.second_lt,
      if_neg hk]

/-- Whatever is stored comes back as a whole second. -/
theorem whole_storedExpire (e : Option Datetime) : WholeSecond (storedExpire e) := by
  cases e with
  | none => exact trivial
  | some t =>
    simp only [storedExpire, serializeExpire, parseExpire, Option.map_some]
    split_ifs with h
    · exact trivial
    · exact ⟨Int.mul_ne_zero h (by decide), Int.dvd_mul_left _ _⟩

end ResellerBot
