import ResellerBot.Payments.Service
import ResellerBot.Reseller.Provisioned

/-!
# ResellerBot.Payments.Verifiers — the two verifications of an entitlement

`verify_entitlement` looks at a live admin after provisioning, `_matches` at the same admin before
and after a renewal.  Here an expiry is an aware datetime of any offset, and a snapshot has its ISO
text.
-/

namespace ResellerBot

/-! ## Aware datetimes -/

/-- An instant as a clock that is ahead of UTC by `utcoffset` shows it. -/
structure AwareDatetime where
  instant : Datetime
  utcoffset : ℤ
  deriving DecidableEq, Repr

/-- `isoformat()` spells out the date and time on the clock, to the microsecond, and its offset. -/
def AwareDatetime.isoformat (t : AwareDatetime) : ℤ × ℤ := (t.instant + t.utcoffset, t.utcoffset)

/-- `parse_expire` turns every expiry of Rebecca to UTC. -/
def AwareDatetime.utc (t : Datetime) : AwareDatetime := ⟨t, 0⟩

theorem isoformat_utc_eq_iff {t : Datetime} {e : AwareDatetime} :
    (AwareDatetime.utc t).isoformat = e.isoformat ↔ t = e.instant ∧ e.utcoffset = 0 := by
  obtain ⟨i, o⟩ := e
  simp only [AwareDatetime.isoformat, AwareDatetime.utc, Prod.mk.injEq]
  constructor
  · rintro ⟨h1, rfl⟩
    exact ⟨by simpa using h1, rfl⟩
  · rintro ⟨rfl, rfl⟩
    exact ⟨rfl, rfl⟩

/-! ## Snapshots with texts -/

/-- A snapshot whose expiry is a text. -/
structure TextSnapshot where
  dataLimit : Option ℤ
  expire : Option (ℤ × ℤ)
  services : List ServiceId
  usersLimit : Option ℤ
  role : String
  status : String
  deriving DecidableEq, Repr

/-- `entitlement_snapshot` -/
def textSnapshot (admin : Admin) : TextSnapshot where
  dataLimit := admin.dataLimit
  expire := admin.expire.map fun t => (AwareDatetime.utc t).isoformat
  services := sortedTexts admin.services
  usersLimit := admin.usersLimit
  role := admin.role
  status := normalizeStatus admin.status

/-- The target snapshot of a reseller who is to be active. -/
def textTarget (expire : AwareDatetime) (dataLimit : Option ℤ) (services : List ServiceId)
    (usersLimit : Option ℤ) : TextSnapshot :=
  ⟨dataLimit, some expire.isoformat, services, usersLimit, "reseller", "active"⟩

/-- `_matches` -/
def textMatches (live : Admin) (snapshot : TextSnapshot) : Bool :=
  textSnapshot live =
    { snapshot with
      services := sortedTexts snapshot.services
      status := normalizeStatus snapshot.status }

/-- The text of a snapshot whose expiry is kept as an instant. -/
def Snapshot.text (s : Snapshot) : TextSnapshot :=
  ⟨s.dataLimit, s.expire.map fun t => (AwareDatetime.utc t).isoformat, s.services, s.usersLimit,
    s.role.getD "", s.status.getD ""⟩

/-- In UTC the texts say what the instants do. -/
theorem textMatches_text {live : Admin} {s : Snapshot} {role status : String}
    (hname : s.username = none) (hrole : s.role = some role) (hstatus : s.status = some status) :
    textMatches live s.text = snapshotMatches live s := by
  have hinj : Function.Injective fun t : Datetime => (AwareDatetime.utc t).isoformat := by
    intro t u h
    exact (isoformat_utc_eq_iff.mp h).1
  obtain ⟨name, limit, expire, services, users, role', status'⟩ := s
  obtain rfl : name = none := hname
  obtain rfl : role' = some role := hrole
  obtain rfl : status' = some status := hstatus
  rw [textMatches, snapshotMatches, decide_eq_decide]
  simp only [textSnapshot, Snapshot.text, entitlementSnapshot, Snapshot.expected,
    TextSnapshot.mk.injEq, Snapshot.mk.injEq, (Option.map_injective hinj).eq_iff,
    Option.getD_some, Option.some.injEq, true_and]

/-! ## What each of them looks at -/

section Agreement

variable {live : Admin} {expire : AwareDatetime} {dataLimit usersLimit : Option ℤ}
  {services : List ServiceId}

theorem sortedTexts_eq_iff {a b : List ServiceId} :
    sortedTexts a = sortedTexts b ↔ (a.map ServiceId.text).Perm (b.map ServiceId.text) := by
  have hinj : Function.Injective (List.map ServiceId.str) :=
    List.map_injective_iff.mpr fun _ _ h => ServiceId.str.inj h
  rw [sortedTexts, sortedTexts, hinj.eq_iff]
  have ha := List.perm_insertionSort (· ≤ ·) (a.map ServiceId.text)
  have hb := List.perm_insertionSort (· ≤ ·) (b.map ServiceId.text)
  constructor
  · intro h
    exact ha.symm.trans ((List.Perm.of_eq h).trans hb)
  · intro h
    exact List.Perm.eq_of_pairwise' (List.pairwise_insertionSort _ _)
      (List.pairwise_insertionSort _ _) (ha.trans (h.trans hb.symm))

/-- The checks that the two make alike. -/
def SameLimits (live : Admin) (dataLimit usersLimit : Option ℤ) : Prop :=
  live.role = "reseller" ∧ live.dataLimit = dataLimit ∧ live.usersLimit = usersLimit

def SameServices (a b : List ServiceId) : Prop := ∀ x, x ∈ a ↔ x ∈ b

/-- Each text stands in both lists equally often. -/
def SameTexts (a b : List ServiceId) : Prop := (a.map ServiceId.text).Perm (b.map ServiceId.text)

theorem verify_iff : (∃ a, verifyEntitlement (some live) (some live.username)
    ⟨some expire.instant, dataLimit, services, usersLimit⟩ = .ok a) ↔
    SameLimits live dataLimit usersLimit ∧ isActive live.status = true ∧
      sameSecond live.expire (some expire.instant) = true ∧
      SameServices live.services services := by
  constructor
  · rintro ⟨a, h⟩
    obtain ⟨ha, -, hrole, hactive, hsecond, hlimit, hservices, husers⟩ :=
      verifyEntitlement_ok_iff.mp h
    cases ha
    exact ⟨⟨hrole, hlimit, husers⟩, hactive, hsecond, hservices⟩
  · rintro ⟨⟨hrole, hlimit, husers⟩, hactive, hsecond, hservices⟩
    exact ⟨live, verifyEntitlement_ok_iff.mpr
      ⟨rfl, rfl, hrole, hactive, hsecond, hlimit, hservices, husers⟩⟩

theorem textMatches_iff :
    textMatches live (textTarget expire dataLimit services usersLimit) = true ↔
      SameLimits live dataLimit usersLimit ∧ normalizeStatus live.status = "active" ∧
        (live.expire = some expire.instant ∧ expire.utcoffset = 0) ∧
        SameTexts live.services services := by
  have hexpire : live.expire.map (fun t => (AwareDatetime.utc t).isoformat) =
      some expire.isoformat ↔ live.expire = some expire.instant ∧ expire.utcoffset = 0 := by
    cases live.expire with
    | none => simp
    | some t => simp [isoformat_utc_eq_iff]
  have htexts : sortedTexts live.services = sortedTexts services ↔
      SameTexts live.services services :=
    sortedTexts_eq_iff
  have hmatch : textMatches live (textTarget expire dataLimit services usersLimit) = true ↔
      textSnapshot live = ⟨dataLimit, some expire.isoformat, sortedTexts services, usersLimit,
        "reseller", normalizeStatus "active"⟩ := decide_eq_true_iff
  rw [hmatch, normalizeStatus_active, textSnapshot, TextSnapshot.mk.injEq, hexpire, htexts]
  constructor
  · rintro ⟨h1, h2, h3, h4, h5, h6⟩
    exact ⟨⟨h5, h1, h4⟩, h6, h2, h3⟩
  · rintro ⟨⟨h5, h1, h4⟩, h6, h2, h3⟩
    exact ⟨h1, h2, h3, h4, h5, h6⟩

/-- Verified after provisioning, and never matched by a renewal: equal timestamps, but not the same
text of the instant, or a service that is listed twice on one side only. -/
def PassesToTheSecond (live : Admin) (expire : AwareDatetime) (services : List ServiceId) : Prop :=
  (isActive live.status = true ∧ sameSecond live.expire (some expire.instant) = true ∧
    SameServices live.services services) ∧
  (¬(live.expire = some expire.instant ∧ expire.utcoffset = 0) ∨ ¬SameTexts live.services services)

/-- Matched by a renewal, and refused after provisioning: whitespace around the status, or a number
on one side that is a text on the other. -/
def PassesAsText (live : Admin) (expire : AwareDatetime) (services : List ServiceId) : Prop :=
  (normalizeStatus live.status = "active" ∧
    (live.expire = some expire.instant ∧ expire.utcoffset = 0) ∧
    SameTexts live.services services) ∧
  (isActive live.status = false ∨ ¬SameServices live.services services)

/-- **The two verifiers agree on an admin unless its role and limits are those of the target and the
rest passes one of them only.** -/
theorem verifiers_agree_iff (live : Admin) (expire : AwareDatetime)
    (dataLimit usersLimit : Option ℤ) (services : List ServiceId) :
    ((∃ a, verifyEntitlement (some live) (some live.username)
        ⟨some expire.instant, dataLimit, services, usersLimit⟩ = .ok a) ↔
      textMatches live (textTarget expire dataLimit services usersLimit) = true) ↔
    ¬(SameLimits live dataLimit usersLimit ∧
      (PassesToTheSecond live expire services ∨ PassesAsText live expire services)) := by
  have hstatus : isActive live.status = true → normalizeStatus live.status = "active" :=
    normalizeStatus_of_isActive
  have hsecond : live.expire = some expire.instant →
      sameSecond live.expire (some expire.instant) = true := by
    intro h
    rw [h]
    simp [sameSecond]
  rw [verify_iff, textMatches_iff, PassesToTheSecond, PassesAsText]
  constructor
  · rintro h ⟨hlimits, ⟨⟨h1, h2, h3⟩, hno⟩ | ⟨⟨h1, h2, h3⟩, hno⟩⟩
    · obtain ⟨-, -, hiso, htexts⟩ := h.mp ⟨hlimits, h1, h2, h3⟩
      exact hno.elim (fun hn => hn hiso) fun hn => hn htexts
    · obtain ⟨-, hactive, -, hservices⟩ := h.mpr ⟨hlimits, h1, h2, h3⟩
      rw [hactive] at hno
      exact hno.elim (fun hn => nomatch hn) fun hn => hn hservices
  · intro h
    constructor
    · rintro ⟨hlimits, h1, h2, h3⟩
      by_contra hno
      refine h ⟨hlimits, .inl ⟨⟨h1, h2, h3⟩, ?_⟩⟩
      by_contra hboth
      push Not at hboth
      exact hno ⟨hlimits, hstatus h1, hboth.1, hboth.2⟩
    · rintro ⟨hlimits, h1, h2, h3⟩
      by_contra hno
      refine h ⟨hlimits, .inr ⟨⟨h1, h2, h3⟩, ?_⟩⟩
      by_contra hboth
      push Not at hboth
      exact hno ⟨hlimits, by simpa using hboth.1, hsecond h2.1, hboth.2⟩

/-- An admin as Rebecca returns it, with its expiry cut to the second. -/
def wholeSecondAdmin : Admin :=
  ⟨"shop", "reseller", "active", some (1000 * second), some 500, 10, [.int 2], some 4⟩

/-- The target has the microseconds of the clock. -/
theorem microseconds_disagree : ¬ ∀ (live : Admin) (expire : AwareDatetime)
    (dataLimit usersLimit : Option ℤ) (services : List ServiceId),
    (∃ a, verifyEntitlement (some live) (some live.username)
        ⟨some expire.instant, dataLimit, services, usersLimit⟩ = .ok a) ↔
      textMatches live (textTarget expire dataLimit services usersLimit) = true := by
  intro h
  have hv := (h wholeSecondAdmin ⟨1000 * second + 500000, 0⟩ (some 500) (some 4) [.int 2]).mp
    ⟨wholeSecondAdmin, by decide +kernel⟩
  exact absurd hv (by decide)

end Agreement

end ResellerBot
