import ResellerBot.Ledger.Session

/-!
# ResellerBot.Ledger.Objects — rows in variables, locks, settings and sessions
-/

open Interact Growth

namespace ResellerBot

/-! ## Another object in a variable -/

namespace Tidy

variable {M : Needs} {s : Session} {v : Sight} {A : OrderFact} {B : Reseller → Prop}
  {C : Payment → Prop}

theorem withOrder (h : Tidy M s v) {o : Option (Obj Order)}
    (ho : ∀ ob, o = some ob → v.Order ob ∧ A.holds ob) :
    Tidy { M with order := A } { s with order := o } v :=
  { h with order := ho }

theorem withReseller (h : Tidy M s v) {o : Option (Obj Reseller)}
    (ho : ∀ ob, o = some ob → v.Reseller ob ∧ B ob.cur) :
    Tidy { M with reseller := B } { s with reseller := o } v :=
  { h with reseller := ho }

theorem withPayment (h : Tidy M s v) {o : Option (Obj Payment)}
    (ho : ∀ ob, o = some ob → (∀ d, ob.db = some d → d.Evolves ob.cur) ∧ C ob.cur) :
    Tidy { M with payment := C } { s with payment := o } v :=
  { h with payment := ho }

theorem withTrial (h : Tidy M s v) {o : Option (Obj TrialRecord)}
    (ho : ∀ ob, o = some ob → ∀ d, ob.db = some d → d.Evolves ob.cur) :
    Tidy M { s with trial := o } v :=
  { h with trial := ho }

theorem withUser (h : Tidy M s v) {o : Option (Obj ResellerUserCache)}
    (ho : ∀ ob, o = some ob → ∀ d, ob.db = some d → d.Evolves ob.cur) :
    Tidy M { s with user := o } v :=
  { h with user := ho }

theorem withProduct (h : Tidy M s v) (o : Option (Obj Product)) :
    Tidy M { s with product := o } v :=
  { h with }

theorem withPending (h : Tidy M s v) {sts : List Stmt} (hst : ∀ st ∈ sts, st.Lawful v) :
    Tidy M { s with pending := s.pending ++ sts } v :=
  { h with
    pending := by
      intro st hmem
      rcases List.mem_append.mp hmem with hmem | hmem
      · exact h.pending st hmem
      · exact hst st hmem }

end Tidy

namespace Abides

variable {α β : Type} {P : Session → Sight → Prop} {M : Needs} {A : OrderFact} {B : Reseller → Prop}
  {C : Payment → Prop}

/-! ## Assignments -/

theorem assignOrder {f : Order → Order} (hev : ∀ o : Order, o.Evolves (f o))
    (hp : ∀ ob, M.order.holds ob → ob.cur.Proper → (f ob.cur).Proper)
    (hA : ∀ ob, M.order.holds ob → A.holds ⟨ob.db, f ob.cur⟩) :
    Abides (Tidy M) (Slot.order.assign f) fun _ => Tidy { M with order := A } := by
  refine modify (fun _ => rfl) fun s v h => h.withOrder ?_
  intro ob' hob'
  obtain ⟨ob, hob, rfl⟩ := Option.map_eq_some_iff.mp hob'
  obtain ⟨⟨hproper, d, hd, hdb, hdev⟩, hM⟩ := h.order ob hob
  exact ⟨⟨hp ob hM hproper, d, hd, hdb, hdev.trans (hev ob.cur)⟩, hA ob hM⟩

theorem assignReseller {f : Reseller → Reseller} (hev : ∀ r : Reseller, r.Evolves (f r))
    (hp : ∀ r, M.reseller r → r.Proper → (f r).Proper) (hB : ∀ r, M.reseller r → B (f r)) :
    Abides (Tidy M) (Slot.reseller.assign f) fun _ => Tidy { M with reseller := B } := by
  refine modify (fun _ => rfl) fun s v h => h.withReseller ?_
  intro ob' hob'
  obtain ⟨ob, hob, rfl⟩ := Option.map_eq_some_iff.mp hob'
  obtain ⟨⟨hproper, d, hd, hdb, hdev⟩, hM⟩ := h.reseller ob hob
  exact ⟨⟨hp ob.cur hM hproper, d, hd, hdb, hdev.trans (hev ob.cur)⟩, hB ob.cur hM⟩

theorem assignPayment {f : Payment → Payment} (hev : ∀ p, M.payment p → p.Evolves (f p))
    (hC : ∀ p, M.payment p → C (f p)) :
    Abides (Tidy M) (Slot.payment.assign f) fun _ => Tidy { M with payment := C } := by
  refine modify (fun _ => rfl) fun s v h => h.withPayment ?_
  intro ob' hob'
  obtain ⟨ob, hob, rfl⟩ := Option.map_eq_some_iff.mp hob'
  obtain ⟨hdev, hM⟩ := h.payment ob hob
  exact ⟨fun d hd => (hdev d hd).trans (hev ob.cur hM), hC ob.cur hM⟩

theorem assignTrial {f : TrialRecord → TrialRecord} (hev : ∀ t : TrialRecord, t.Evolves (f t)) :
    Abides (Tidy M) (Slot.trial.assign f) fun _ => Tidy M := by
  refine modify (fun _ => rfl) fun s v h => h.withTrial ?_
  intro ob' hob' d hd
  obtain ⟨ob, hob, rfl⟩ := Option.map_eq_some_iff.mp hob'
  exact (h.trial ob hob d hd).trans (hev ob.cur)

theorem assignUser {f : ResellerUserCache → ResellerUserCache}
    (hev : ∀ u : ResellerUserCache, u.Evolves (f u)) :
    Abides (Tidy M) (Slot.user.assign f) fun _ => Tidy M := by
  refine modify (fun _ => rfl) fun s v h => h.withUser ?_
  intro ob' hob' d hd
  obtain ⟨ob, hob, rfl⟩ := Option.map_eq_some_iff.mp hob'
  exact (h.user ob hob d hd).trans (hev ob.cur)

/-! ## Rows that have been read -/

theorem holdOrder {row : Order} (hrow : row.Proper) (hA : A.holds ⟨some row, row⟩) :
    Abides (fun s v => row ∈ v.orders ∧ Tidy M s v) (Slot.order.hold ⟨some row, row⟩)
      fun _ => Tidy { M with order := A } := by
  refine modify (fun _ => rfl) ?_
  rintro s v ⟨hseen, h⟩
  refine (h.withPending fun st hst => h.lawful_order hst).withOrder ?_
  rintro ob ⟨⟩
  exact ⟨⟨hrow, row, hseen, rfl, .refl row⟩, hA⟩

theorem holdReseller {row : Reseller} (hrow : row.Proper) (hB : B row) :
    Abides (fun s v => row ∈ v.resellers ∧ Tidy M s v) (Slot.reseller.hold ⟨some row, row⟩)
      fun _ => Tidy { M with reseller := B } := by
  refine modify (fun _ => rfl) ?_
  rintro s v ⟨hseen, h⟩
  refine (h.withPending fun st hst => h.lawful_reseller hst).withReseller ?_
  rintro ob ⟨⟩
  exact ⟨⟨hrow, row, hseen, rfl, .refl row⟩, hB⟩

theorem holdPayment {row : Payment} (hC : C row) :
    Abides (Tidy M) (Slot.payment.hold ⟨some row, row⟩) fun _ => Tidy { M with payment := C } := by
  refine modify (fun _ => rfl) fun s v h => ?_
  refine (h.withPending fun st hst => h.lawful_payment hst).withPayment ?_
  rintro ob ⟨⟩
  refine ⟨?_, hC⟩
  rintro d ⟨⟩
  exact .refl _

/-- A trial record that has been read, or one that is to be inserted. -/
theorem holdTrial {ob : Obj TrialRecord} (hdb : ∀ d, ob.db = some d → d = ob.cur) :
    Abides (Tidy M) (Slot.trial.hold ob) fun _ => Tidy M := by
  refine modify (fun _ => rfl) fun s v h => ?_
  refine (h.withPending fun st hst => h.lawful_trial hst).withTrial ?_
  rintro ob' ⟨⟩ d hd
  rw [hdb d hd]
  exact .refl _

theorem holdUser {ob : Obj ResellerUserCache} (hdb : ∀ d, ob.db = some d → d = ob.cur) :
    Abides (Tidy M) (Slot.user.hold ob) fun _ => Tidy M := by
  refine modify (fun _ => rfl) fun s v h => ?_
  refine (h.withPending fun st hst => h.lawful_user hst).withUser ?_
  rintro ob' ⟨⟩ d hd
  rw [hdb d hd]
  exact .refl _

theorem holdProduct {row : Product} :
    Abides (Tidy M) (Slot.product.hold ⟨some row, row⟩) fun _ => Tidy M := by
  refine modify (fun _ => rfl) fun s v h => (h.withPending ?_).withProduct _
  intro st hst
  obtain ⟨ob, -, hst⟩ := mem_stmtsOf hst
  cases hst

theorem forgetReseller : Abides (Tidy M) Slot.reseller.forget fun _ => Tidy M := by
  refine modify (fun _ => rfl) fun s v h => ?_
  refine (h.withPending fun st hst => h.lawful_reseller hst).withReseller ?_
  rintro ob ⟨⟩

theorem forgetProduct : Abides (Tidy M) Slot.product.forget fun _ => Tidy M := by
  refine modify (fun _ => rfl) fun s v h => (h.withPending ?_).withProduct _
  intro st hst
  obtain ⟨ob, -, hst⟩ := mem_stmtsOf hst
  cases hst

section Slots

variable {sl : Slot β} {select : Bot (Option β)} {R : Option β → Session → Sight → Prop}
  {Q : Option β → Session → Sight → Prop}

theorem load (hs : Abides P select R)
    (hh : ∀ row, Abides (R (some row)) (sl.hold ⟨some row, row⟩) fun _ => Q (some row))
    (hnone : ∀ s v, R none s v → Q none s v) : Abides P (sl.load select) Q := by
  refine hs.bind fun r => ?_
  cases r with
  | none => exact .pure hnone
  | some row => exact (hh row).bind fun _ => .pure fun _ _ h => h

theorem getByKey {key : β → ℕ} {i : ℕ}
    (hheld : ∀ s v ob, P s v → sl.get s = some ob → Q (some ob.cur) s v)
    (hload : Abides P (sl.load select) Q) : Abides P (sl.getByKey key i select) Q := by
  rintro s₀ v₀ s v ⟨hP, hl⟩
  show Ok _ (sl.getByKey key i select s) _ v
  rw [Slot.getByKey, Act.state_bind]
  cases hg : sl.get s with
  | none => exact hload s₀ v₀ s v ⟨hP, hl⟩
  | some ob =>
    dsimp only
    split_ifs
    · exact ⟨hheld s v ob hP hg, hl⟩
    · exact hload s₀ v₀ s v ⟨hP, hl⟩

/-- A row of a list, if nothing has been lost since the list was loaded. -/
theorem holdLoaded {ep : ℕ} {row : β} {K : Sight → Prop} {Q : Session → Sight → Prop}
    (hP : ∀ s v, P s v → Tidy M s v ∧ (s.epoch = ep → K v))
    (hh : Abides (fun s v => K v ∧ Tidy M s v) (sl.hold ⟨some row, row⟩) fun _ => Q) :
    Abides P (sl.holdLoaded ep row) fun _ => Q := by
  rintro s₀ v₀ s v ⟨h, hl⟩
  obtain ⟨hT, hK⟩ := hP s v h
  show Ok _ (sl.holdLoaded ep row s) _ v
  rw [Slot.holdLoaded, Act.state_bind]
  by_cases he : s.epoch = ep
  · rw [if_pos he]
    exact hh s₀ v₀ s v ⟨⟨hK he, hT⟩, hl⟩
  · rw [if_neg he]
    exact ⟨hT.any, hl⟩

theorem holdLoadedUser {ep : ℕ} {row : ResellerUserCache} :
    Abides (Tidy M) (Slot.user.holdLoaded ep row) fun _ => Tidy M := by
  refine holdLoaded (K := fun _ => True) (fun _ _ h => ⟨h, fun _ => trivial⟩)
    ((holdUser ?_).pre fun _ _ h => h.2)
  rintro d ⟨⟩
  rfl

/-- A loop over loaded rows: each is known as it was loaded until everything is lost. -/
theorem forEachLoaded {ep : ℕ} {f : β → Bot Unit} {rows : List β} {K : β → Sight → Prop}
    (hK : ∀ row v v', v.Sub v' → K row v → K row v')
    (hf : ∀ row ∈ rows, Abides (fun s v => Tidy .any s v ∧ Loaded ep (K row) s v) (f row)
      fun _ => Tidy .any) :
    Abides (fun s v => Tidy .any s v ∧ Loaded ep (fun v => ∀ row ∈ rows, K row v) s v)
      (Act.forEach f rows) fun _ => Tidy .any := by
  refine (forEach fun row hrow => ?_).post fun _ _ _ h => h.1
  refine ((hf row hrow).frame fun v v' hv h row' hr' => hK row' v v' hv (h row' hr')).pre ?_
  rintro s v ⟨hT, hL⟩
  exact ⟨⟨hT, hL.1, fun he => hL.2 he row hrow⟩, hL⟩

end Slots

/-! ## Orders and resellers by key -/

theorem queryOrder {id : ℕ} : Abides (Tidy M) (ResellerBot.query (.order id))
    fun (row : Option Order) s v => (∀ o ∈ row, o.Proper ∧ o ∈ v.orders) ∧ Tidy M s v := by
  refine query.post ?_
  rintro (row : Option Order) s v ⟨⟨hproper, hsub⟩, hT⟩
  exact ⟨fun o ho => ⟨hproper o (Option.mem_toList.mpr ho),
    hsub.orders (.inr (Option.mem_toList.mpr ho))⟩, hT⟩

theorem queryOrderByNumber {number : String} :
    Abides (Tidy M) (ResellerBot.query (.orderByNumber number))
      fun (row : Option Order) s v => (∀ o ∈ row, o.Proper ∧ o ∈ v.orders) ∧ Tidy M s v := by
  refine query.post ?_
  rintro (row : Option Order) s v ⟨⟨hproper, hsub⟩, hT⟩
  exact ⟨fun o ho => ⟨hproper o (Option.mem_toList.mpr ho),
    hsub.orders (.inr (Option.mem_toList.mpr ho))⟩, hT⟩

theorem queryReseller {id : ℕ} : Abides (Tidy M) (ResellerBot.query (.reseller id))
    fun (row : Option Reseller) s v => (∀ r ∈ row, r.Proper ∧ r ∈ v.resellers) ∧ Tidy M s v := by
  refine query.post ?_
  rintro (row : Option Reseller) s v ⟨⟨hproper, hsub⟩, hT⟩
  exact ⟨fun r hr => ⟨hproper r (Option.mem_toList.mpr hr),
    hsub.resellers (.inr (Option.mem_toList.mpr hr))⟩, hT⟩

theorem queryResellerByTelegram {telegramId : ℤ} :
    Abides (Tidy M) (ResellerBot.query (.resellerByTelegram telegramId))
      fun (row : Option Reseller) s v => (∀ r ∈ row, r.Proper ∧ r ∈ v.resellers) ∧ Tidy M s v := by
  refine query.post ?_
  rintro (row : Option Reseller) s v ⟨⟨hproper, hsub⟩, hT⟩
  exact ⟨fun r hr => ⟨hproper r (Option.mem_toList.mpr hr),
    hsub.resellers (.inr (Option.mem_toList.mpr hr))⟩, hT⟩

/-- The order in the variable, as the code has just found it. -/
abbrev FoundOrder (M : Needs) : Option Order → Session → Sight → Prop :=
  Act.Found (fun o => Tidy { M with order := .cur (· = o) }) (Tidy M)

abbrev FoundReseller (M : Needs) : Option Reseller → Session → Sight → Prop :=
  Act.Found (fun r => Tidy { M with reseller := (· = r) }) (Tidy M)

theorem loadOrder {select : Bot (Option Order)} (hs : Abides (Tidy M) select
      fun row s v => (∀ o ∈ row, o.Proper ∧ o ∈ v.orders) ∧ Tidy M s v) :
    Abides (Tidy M) (Slot.order.load select) (FoundOrder M) := by
  refine load hs (fun row => ?_) fun s v h => h.2
  rintro s₀ v₀ s v ⟨⟨hrow, hT⟩, hl⟩
  obtain ⟨hproper, hseen⟩ := hrow row rfl
  exact holdOrder hproper rfl s₀ v₀ s v ⟨⟨hseen, hT⟩, hl⟩

theorem loadReseller {select : Bot (Option Reseller)} (hs : Abides (Tidy M) select
      fun row s v => (∀ r ∈ row, r.Proper ∧ r ∈ v.resellers) ∧ Tidy M s v) :
    Abides (Tidy M) (Slot.reseller.load select) (FoundReseller M) := by
  refine load hs (fun row => ?_) fun s v h => h.2
  rintro s₀ v₀ s v ⟨⟨hrow, hT⟩, hl⟩
  obtain ⟨hproper, hseen⟩ := hrow row rfl
  exact holdReseller (B := (· = row)) hproper rfl s₀ v₀ s v ⟨⟨hseen, hT⟩, hl⟩

theorem getOrder {id : ℕ} : Abides (Tidy M) (ResellerBot.getOrder id) (FoundOrder M) := by
  refine getByKey (fun s v ob hT hob => ?_) (loadOrder queryOrder)
  refine hT.withOrder (o := s.order) fun ob' hob' => ?_
  obtain rfl := Option.some.inj (hob.symm.trans hob')
  exact ⟨(hT.order ob hob).1, rfl⟩

theorem getReseller {id : ℕ} : Abides (Tidy M) (ResellerBot.getReseller id) (FoundReseller M) := by
  refine getByKey (fun s v ob hT hob => ?_) (loadReseller queryReseller)
  refine hT.withReseller (o := s.reseller) fun ob' hob' => ?_
  obtain rfl := Option.some.inj (hob.symm.trans hob')
  exact ⟨(hT.reseller ob hob).1, rfl⟩

theorem getProduct {id : ℕ} : Abides (Tidy M) (ResellerBot.getProduct id) fun _ => Tidy M :=
  getByKey (fun _ _ _ h _ => h) (load queryTidy (fun _ => holdProduct) fun _ _ h => h)

theorem loadTrial {telegramId : ℤ} :
    Abides (Tidy M) (Slot.trial.load (ResellerBot.query (.trial telegramId))) fun _ => Tidy M := by
  refine load queryTidy (fun row => holdTrial ?_) fun _ _ h => h
  rintro d ⟨⟩
  rfl

/-! ## Locks -/

theorem insertLock {row : LifecycleLock} :
    Abides (Tidy M) (ResellerBot.insertLock row) fun _ => Tidy M := by
  refine (add fun _ => by trivial).bind fun _ => flush.attempt.bind fun r => ?_
  rcases r with e | _
  · refine ite (fun _ => rollback.bind fun _ => .pure fun _ _ h => h) fun _ => .raise fun _ _ h => h
  · exact .pure fun _ _ h => h

theorem acquire {key : String} {ttl : ℤ} :
    Abides (Tidy M) (ResellerBot.acquire key ttl) fun _ => Tidy M := by
  refine now.bind fun t => (execute fun _ => by trivial).bind fun _ => ?_
  exact (outcome fun _ _ h => h.any).bind fun e => insertLock.pre fun _ _ h => h.2

theorem release {key : String} : Abides (Tidy M) (ResellerBot.release key) fun _ => Tidy M :=
  (execute fun _ => by trivial).bind fun _ => .pure fun _ _ h => h

theorem locked {key : String} {ttl : ℤ} {body : Bool → Bot Unit}
    (hbody : ∀ won, Abides (Tidy M) (body won) fun _ => Tidy .any) :
    Abides (Tidy M) (ResellerBot.locked key ttl body) fun _ => Tidy .any := by
  refine acquire.bind fun won => (hbody won).attempt.bind fun r => ?_
  have hrelease : Abides (Tidy .any) (do
      Act.when won (ResellerBot.release key)
      Act.outcome r) fun _ => Tidy .any :=
    (when (fun _ => release) fun _ _ _ h => h).bind fun _ =>
      (outcome fun _ _ h => h).post fun _ _ _ h => h.2
  cases r with
  | ok _ => exact hrelease
  | error _ => exact hrelease

/-! ## Messages and settings -/

theorem notifyOnce {chat : ℤ} {w : WarningEvent} :
    Abides (Tidy M) (ResellerBot.notifyOnce chat w) fun _ => Tidy M := by
  refine queryTidy.bind fun sent => ite (fun _ => .pure fun _ _ h => h) fun _ => ?_
  exact notify.bind fun _ => when (fun _ => add fun _ => trivial) fun _ _ _ h => h

theorem settingValue {key : String} {default : SettingValue} :
    Abides (Tidy M) (RuntimeSettings.value key default) fun _ => Tidy M :=
  queryTidy.bind fun _ => .pure fun _ _ h => h

theorem positive {key : String} {default : ℤ} :
    Abides (Tidy M) (RuntimeSettings.positive key default) fun _ => Tidy M := by
  refine settingValue.bind fun v => (outcome fun _ _ h => h.any).bind fun n => ?_
  exact ite (fun _ => .pure fun _ _ h => h.2) fun _ => .raise fun _ _ h => h.2.any

theorem graceHours {cfg : Settings} :
    Abides (Tidy M) (RuntimeSettings.graceHours cfg) fun _ => Tidy M := by
  refine settingValue.bind fun v => (outcome fun _ _ h => h.any).bind fun n => ?_
  exact ite (fun _ => .pure fun _ _ h => h.2) fun _ => .raise fun _ _ h => h.2.any

theorem timeThresholds {cfg : Settings} :
    Abides (Tidy M) (RuntimeSettings.timeThresholds cfg) fun _ => Tidy M :=
  settingValue.bind fun _ => (outcome fun _ _ h => h.any).post fun _ _ _ h => h.2

theorem trafficThresholds {cfg : Settings} :
    Abides (Tidy M) (RuntimeSettings.trafficThresholds cfg) fun _ => Tidy M := by
  refine settingValue.bind fun v => (outcome fun _ _ h => h.any).bind fun n => ?_
  exact ite (fun _ => .raise fun _ _ h => h.2.any) fun _ => .pure fun _ _ h => h.2

theorem customerPanelUrl : Abides (Tidy M) RuntimeSettings.customerPanelUrl fun _ => Tidy M := by
  refine (queryTidy (q := .setting "customer_panel_url")).bind fun v => ?_
  cases v with
  | none => exact .pure fun _ _ h => h
  | some v =>
    dsimp only
    -- the text itself is of no interest, and must not be evaluated
    generalize String.ofList (strip isSpace v.str.toList) = url
    exact ite (fun _ => .pure fun _ _ h => h) fun _ =>
      ite (fun _ => .pure fun _ _ h => h) fun _ => .raise fun _ _ h => h.any

theorem operationsMode {cfg : Settings} :
    Abides (Tidy M) (RuntimeSettings.operationsMode cfg) fun _ => Tidy M := by
  refine (queryTidy (q := .setting "operations_mode")).bind fun v => ?_
  rcases v with _ | _ | _ | mode | _
  · exact .pure fun _ _ h => h
  · exact .raise fun _ _ h => h.any
  · exact .raise fun _ _ h => h.any
  · exact ite (fun _ => .pure fun _ _ h => h) fun _ => .raise fun _ _ h => h.any
  · exact .raise fun _ _ h => h.any

theorem isDryRun {cfg : Settings} :
    Abides (Tidy M) (RuntimeSettings.isDryRun cfg) fun _ => Tidy M :=
  operationsMode.bind fun _ => .pure fun _ _ h => h

/-! ## Sessions -/

/-- A session of its own, whatever was before. -/
theorem inSession {m : Bot α} {R : α → Prop}
    (hm : Abides (Tidy .any) m fun a s v => R a ∧ Tidy .any s v) :
    Act.SafeWith ledger (ResellerBot.inSession m) R := by
  have hbody : Act.Holds ledger (fun s _ => s = Session.empty) m (fun a _ _ => R a)
      fun _ _ _ => True := by
    rintro s v rfl
    refine (hm _ v _ v ⟨.empty v, .refl _ v⟩).mono ?_
    rintro ⟨e | a, s'⟩ v' h
    · trivial
    · exact h.1.1
  refine (Act.Holds.modify (Q := fun _ s _ => s = Session.empty) fun _ _ _ => rfl).bind fun _ => ?_
  refine hbody.attempt.bind fun r => ?_
  refine Act.Holds.bind (Q := fun _ _ _ => ∀ a, r = .ok a → R a) ?_ fun _ =>
    Act.Holds.outcome (fun a ha _ _ h => h a ha) fun _ _ _ _ _ => trivial
  intro s v h
  refine ⟨trivial, ?_⟩
  rintro _ v' - a rfl
  exact h

theorem inTransaction {m : Bot α} {R : α → Prop}
    (hm : Abides (Tidy .any) m fun a s v => R a ∧ Tidy .any s v) :
    Act.SafeWith ledger (ResellerBot.inTransaction m) R :=
  inSession (hm.bind fun _ => fact fun ha => commit.bind fun _ => .pure fun _ _ h => ⟨ha, h⟩)

end Abides

end ResellerBot
