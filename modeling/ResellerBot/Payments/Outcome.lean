import Mathlib
import ResellerBot.Database.Traced
import ResellerBot.Payments.Recovery
import ResellerBot.Scheduler.Orders

/-!
# ResellerBot.Payments.Outcome — what an applied order leaves behind

Three paths of a reconciliation mark an order as applied: the provisioning of a new reseller, a
renewal, and the recovery of a renewal whose response was lost.  Rebecca answers as it likes.
-/

open Interact

namespace ResellerBot

/-! ## Live reads -/

/-- The admin that a `get_admin` has found. -/
def found : Reply Ev Resp → Option Admin
  | ⟨.call _ (.getAdmin _), .ok live⟩ => live
  | _ => none

/-- The admins that have been read, latest first. -/
def reads (h : Past) : List Admin := h.filterMap found

/-- The live read that confirms an application: the latest one, or the latest one before the
credentials are sent. -/
def confirming (h : Past) : Option Admin :=
  let sent := h.dropWhile fun x => !x.1.isSend
  (reads (if sent.isEmpty then h else sent)).head?

def Unsent (h : Past) : Prop := ∀ x ∈ h, x.1.isSend = false

section Reads

variable {h h' : Past} {x : Reply Ev Resp} {a : Admin} {why : Cause} {username : Option String}

theorem found_of_passing (hx : x.1.passing = true) : found x = none := by
  obtain ⟨e, r⟩ := x
  cases e with
  | call => cases hx
  | _ => rfl

theorem reads_cons_none (hx : found x = none) : reads (x :: h) = reads h :=
  List.filterMap_cons_none hx

theorem reads_cons_read :
    reads (⟨.call why (.getAdmin username), .ok (some a)⟩ :: h) = a :: reads h :=
  List.filterMap_cons_some rfl

theorem isSend_of_passing (hx : x.1.passing = true) : x.1.isSend = false := by
  obtain ⟨e, r⟩ := x
  cases e with
  | send => cases hx
  | _ => rfl

theorem confirming_unsent (hs : Unsent h) : confirming h = (reads h).head? := by
  have hd : h.dropWhile (fun x => !x.1.isSend) = [] := by
    rw [List.dropWhile_eq_nil_iff]
    intro x hx
    rw [hs x hx]
    rfl
  simp [confirming, hd]

theorem confirming_sent (hs : Unsent h') (hx : x.1.isSend = true) :
    confirming (h' ++ x :: h) = (reads h).head? := by
  have hd : (h' ++ x :: h).dropWhile (fun x => !x.1.isSend) = x :: h := by
    rw [List.dropWhile_append_of_pos fun y hy => by rw [hs y hy]; rfl]
    rw [List.dropWhile_cons_of_neg (by simp [hx])]
  have hf : found x = none := by
    obtain ⟨e, r⟩ := x
    cases e with
    | call => cases hx
    | _ => rfl
  have hc : confirming (h' ++ x :: h) = (reads (x :: h)).head? := by
    unfold confirming
    rw [hd]
    rfl
  rw [hc, reads_cons_none hf]

end Reads

/-! ## Outcomes -/

/-- The admin has what the target says, the expiry to the second. -/
structure Admin.Meets (a : Admin) (target : Snapshot) : Prop where
  dataLimit : a.dataLimit = target.dataLimit
  expire : sameSecond a.expire target.expire = true
  services : ∀ text,
    text ∈ a.services.map ServiceId.text ↔ text ∈ target.services.map ServiceId.text
  usersLimit : a.usersLimit = target.usersLimit
  role : ∀ role, target.role = some role → a.role = role
  status : ∀ status, target.status = some status → normalizeStatus a.status = normalizeStatus status

/-- The target of an application is on the order, until a provisioning replaces it. -/
def Targeted (o : Order) (h : Past) (target : Snapshot) : Prop :=
  o.target = some target ∨ ∃ (order : Order) (reseller : Reseller) (c : Call) (r : _),
    (⟨.call (.provisioning order reseller) c, r⟩ : Reply Ev Resp) ∈ h ∧
      order.target = some target

/-- What the application of an order for this product should leave. -/
structure LocalOutcome (productId : ℕ) (s : Session) (h : Past) : Prop where
  order : ∃ ob, s.order = some ob ∧ ob.cur.appliedAt ≠ none ∧ ob.cur.applyError = none ∧
    ∃ target live, Targeted ob.cur h target ∧ confirming h = some live ∧ live.Meets target
  reseller : ∃ ob, s.reseller = some ob ∧ ob.cur.status = .ACTIVE ∧
    ob.cur.productId = some productId

/-- The first live read finds the target of the order in place. -/
def Recovered (o : Order) (h : Past) : Prop :=
  ∃ target first, o.target = some target ∧ (reads h).getLast? = some first ∧
    snapshotMatches first target = true

def Provisions (r : Reseller) : Prop :=
  truthy r.rebeccaAdminUsername = false ∨ r.status = .PROVISIONING

/-- No order in the session is applied. -/
def Unapplied (s : Session) : Prop := ∀ ob, s.order = some ob → ob.cur.status ≠ .APPLIED

theorem sameSecond_self (e : Option Datetime) : sameSecond e e = true := by
  cases e with
  | none => rfl
  | some t => exact decide_eq_true rfl

theorem mem_sortedTexts {services : List ServiceId} {text : String} :
    .str text ∈ sortedTexts services ↔ text ∈ services.map ServiceId.text := by
  simp [sortedTexts, List.mem_insertionSort]

theorem meets_of_matches {a : Admin} {target : Snapshot} (h : snapshotMatches a target = true) :
    a.Meets target := by
  have hm := of_decide_eq_true h
  have hrole := congrArg Snapshot.role hm
  have hstatus := congrArg Snapshot.status hm
  have hexpire : a.expire = target.expire := congrArg Snapshot.expire hm
  have hservices : sortedTexts a.services = sortedTexts target.services :=
    congrArg Snapshot.services hm
  refine ⟨congrArg Snapshot.dataLimit hm, by rw [hexpire]; exact sameSecond_self _, ?_,
    congrArg Snapshot.usersLimit hm, ?_, ?_⟩
  · intro text
    rw [← mem_sortedTexts, hservices, mem_sortedTexts]
  · intro role hr
    simp only [entitlementSnapshot, Snapshot.expected, hr, Option.some.injEq] at hrole
    exact hrole
  · intro status hs
    simp only [entitlementSnapshot, Snapshot.expected, hs, Option.getD_some,
      Option.some.injEq] at hstatus
    exact hstatus

/-- The targets that the code writes: that of a provisioning says nothing of role and status. -/
def Snapshot.Recorded (target : Snapshot) : Prop :=
  (target.role = none ∧ target.status = none) ∨
    (target.role = some "reseller" ∧ target.status = some "active")

theorem recorded_provisioningTarget (username : String) (expire : Datetime) (p : Product) :
    (provisioningTarget username expire p).Recorded := .inl ⟨rfl, rfl⟩

/-- What a provisioning has verified. -/
theorem meets_of_verified {a b : Admin} {username : String} {target : Snapshot}
    (h : verifyEntitlement (some a) (some username) target.entitlement = .ok b)
    (ht : target.Recorded) : a.Meets target := by
  unfold verifyEntitlement at h
  dsimp only at h
  split_ifs at h with h1 h2 h3 h4 h5 h6 h7
  have hrole : a.role = "reseller" := not_not.mp h2
  have hstatus : normalizeStatus a.status = "active" :=
    normalizeStatus_of_isActive h3
  have hservices : ∀ x, x ∈ a.services ↔ x ∈ target.services := by
    simp only [List.all_eq_true, decide_eq_true_eq] at h6
    exact fun x => ⟨h6.1 x, h6.2 x⟩
  refine ⟨not_not.mp h5, h4, ?_, not_not.mp h7, ?_, ?_⟩
  · intro text
    simp only [List.mem_map, hservices]
  · intro role hr
    rcases ht with ⟨hn, -⟩ | ⟨hs, -⟩
    · rw [hn] at hr; cases hr
    · rw [hs] at hr; cases hr; exact hrole
  · intro status hr
    rcases ht with ⟨-, hn⟩ | ⟨-, hs⟩
    · rw [hn] at hr; cases hr
    · rw [hs] at hr; cases hr; rw [hstatus, normalizeStatus_active]

/-! ## The objects at work -/

/-- Every request is allowed. -/
abbrev unrestricted : Spec Ev Resp Past := Spec.traced fun _ _ => True

/-- The objects are known, and a fact about what has happened. -/
def AtDesk (o : Order) (r : Reseller) (p : Product) (F : Past → Prop) (s : Session) (h : Past) :
    Prop :=
  Desk s o r p ∧ F h

section Rules

open Act (Holds)

variable {α : Type} {o : Order} {r : Reseller} {p : Product} {F G : Past → Prop}
  {Q : α → Session → Past → Prop} {X : Err → Session → Past → Prop}

theorem Desk.unapplied {s : Session} (hd : Desk s o r p) (ho : o.status ≠ .APPLIED) :
    Unapplied s := by
  obtain ⟨db, hs⟩ := hd.order
  intro ob hob
  rw [hs] at hob
  cases hob
  exact ho

theorem unapplied_expire (s : Session) (b : Bool) : Unapplied (s.expire b) := by
  intro ob hob
  cases hob

theorem readOrder {f : Order → Bot α} (hf : Holds unrestricted (AtDesk o r p F) (f o) Q X) :
    Holds unrestricted (AtDesk o r p F) (Slot.order.read >>= f) Q X := by
  refine Slot.holds_read ?_ fun ob => ?_
  · rintro s h ⟨hd, -⟩
    obtain ⟨db, ho⟩ := hd.order
    exact ⟨_, ho⟩
  · rintro s h ⟨⟨hd, hF⟩, hob⟩
    obtain ⟨db, ho⟩ := hd.order
    obtain rfl : ob = ⟨db, o⟩ := Option.some.inj (hob.symm.trans ho)
    exact hf s h ⟨hd, hF⟩

theorem readReseller {f : Reseller → Bot α} (hf : Holds unrestricted (AtDesk o r p F) (f r) Q X) :
    Holds unrestricted (AtDesk o r p F) (Slot.reseller.read >>= f) Q X := by
  refine Slot.holds_read ?_ fun ob => ?_
  · rintro s h ⟨hd, -⟩
    obtain ⟨db, hr⟩ := hd.reseller
    exact ⟨_, hr⟩
  · rintro s h ⟨⟨hd, hF⟩, hob⟩
    obtain ⟨db, hr⟩ := hd.reseller
    obtain rfl : ob = ⟨db, r⟩ := Option.some.inj (hob.symm.trans hr)
    exact hf s h ⟨hd, hF⟩

theorem readProduct {f : Product → Bot α} (hf : Holds unrestricted (AtDesk o r p F) (f p) Q X) :
    Holds unrestricted (AtDesk o r p F) (Slot.product.read >>= f) Q X := by
  refine Slot.holds_read ?_ fun ob => ?_
  · rintro s h ⟨hd, -⟩
    obtain ⟨db, hp⟩ := hd.product
    exact ⟨_, hp⟩
  · rintro s h ⟨⟨hd, hF⟩, hob⟩
    obtain ⟨db, hp⟩ := hd.product
    obtain rfl : ob = ⟨db, p⟩ := Option.some.inj (hob.symm.trans hp)
    exact hf s h ⟨hd, hF⟩

theorem assignedOrder {f : Order → Order} {g : Unit → Bot α}
    (hg : Holds unrestricted (AtDesk (f o) r p F) (g ()) Q X) :
    Holds unrestricted (AtDesk o r p F) (Slot.order.assign f >>= g) Q X :=
  Holds.bind (Slot.holds_assign fun _ _ hP => ⟨hP.1.assignOrder f, hP.2⟩) fun _ => hg

theorem assignedReseller {f : Reseller → Reseller} {g : Unit → Bot α}
    (hg : Holds unrestricted (AtDesk o (f r) p F) (g ()) Q X) :
    Holds unrestricted (AtDesk o r p F) (Slot.reseller.assign f >>= g) Q X :=
  Holds.bind (Slot.holds_assign fun _ _ hP => ⟨hP.1.assignReseller f, hP.2⟩) fun _ => hg

theorem passed {e : Ev} (he : e.passing = true) (hF : Lasting F) :
    Holds unrestricted (AtDesk o r p F) (ask e) (fun _ => AtDesk o r p F) X :=
  Traced.ask (fun _ _ _ => trivial) fun _ h r hP => ⟨hP.1, hF h ⟨e, r⟩ he hP.2⟩

theorem committed (hF : Lasting F) (ho : o.status ≠ .APPLIED) :
    Holds unrestricted (AtDesk o r p F) commit (fun _ => AtDesk o r p F) fun _ s _ => Unapplied s :=
  Traced.commit (fun _ _ _ => trivial) (fun _ _ hP => ⟨hP.1.flushed, hP.2⟩)
    (fun _ h x hP hx => ⟨hP.1, hF h x hx hP.2⟩) (fun _ _ _ hP => hP.1.unapplied ho)
    fun s _ _ _ => unapplied_expire s true

theorem queried {q : Query} (hF : Lasting F) (ho : o.status ≠ .APPLIED) :
    Holds unrestricted (AtDesk o r p F) (query q) (fun _ => AtDesk o r p F)
      fun _ s _ => Unapplied s :=
  Traced.query (fun _ _ _ => trivial) (fun _ _ hP => ⟨hP.1.flushed, hP.2⟩)
    (fun _ h x hP hx => ⟨hP.1, hF h x hx hP.2⟩) (fun _ h _ hP => ⟨hP.1, hF h _ rfl hP.2⟩)
    (fun _ _ _ hP => hP.1.unapplied ho) fun s _ _ _ => unapplied_expire s true

/-- A read of an admin; where it raises, nothing has been applied. -/
theorem readAdmin {username : Option String} {G : Option Admin → Past → Prop}
    (ho : o.status ≠ .APPLIED)
    (hF : ∀ h live, F h → G live (⟨.call .lookup (.getAdmin username), .ok live⟩ :: h)) :
    Holds unrestricted (AtDesk o r p F) (getAdmin username) (fun live => AtDesk o r p (G live))
      fun _ s _ => Unapplied s :=
  Traced.call (fun _ _ _ => trivial) (fun _ h live hP => ⟨hP.1, hF h live hP.2⟩)
    fun _ _ _ hP => hP.1.unapplied ho

/-- A call, whatever comes of it. -/
theorem called {why : Cause} {c : Call}
    (hF : ∀ h res, F h → G (⟨.call why c, res⟩ :: h)) :
    Holds unrestricted (AtDesk o r p F) (call why c) (fun _ => AtDesk o r p G)
      fun _ => AtDesk o r p G :=
  Traced.call (fun _ _ _ => trivial) (fun _ h res hP => ⟨hP.1, hF h (.ok res) hP.2⟩)
    fun _ h e hP => ⟨hP.1, hF h (.error e) hP.2⟩

theorem raised {e : Err} (ho : o.status ≠ .APPLIED) :
    Holds unrestricted (AtDesk o r p F) (Act.raise e : Bot α) Q fun _ s _ => Unapplied s :=
  Holds.raise fun _ _ hP => hP.1.unapplied ho

end Rules

/-! ## A provisioning -/

section Provisioning

open Act (Holds)

variable {o : Order} {r : Reseller} {p : Product} {F : Past → Prop}

/-- A provisioning call has been made for this cause. -/
def CalledFor (why : Cause) (h : Past) : Prop :=
  ∃ c res, (⟨.call why c, res⟩ : Reply Ev Resp) ∈ h

/-- `live` has been read last, and is what was wanted. -/
def Verified (why : Cause) (username : String) (want : Entitlement) (live : Admin) (h : Past) :
    Prop :=
  (reads h).head? = some live ∧ verifyEntitlement (some live) (some username) want = .ok live ∧
    CalledFor why h

theorem lasting_true : Lasting fun _ => True := fun _ _ _ _ => trivial

theorem calledFor_cons {why : Cause} {h : Past} (x : Reply Ev Resp) (hc : CalledFor why h) :
    CalledFor why (x :: h) := by
  obtain ⟨c, res, hm⟩ := hc
  exact ⟨c, res, List.mem_cons_of_mem _ hm⟩

theorem lasting_verified (why : Cause) (username : String) (want : Entitlement) (live : Admin) :
    Lasting (Verified why username want live) := by
  rintro h x hx ⟨hread, hv, hc⟩
  exact ⟨by rwa [reads_cons_none (found_of_passing hx)], hv, calledFor_cons x hc⟩

theorem availableUsername_observed (ho : o.status ≠ .APPLIED) (telegramUsername : Option String) :
    Holds unrestricted (AtDesk o r p fun _ => True) (availableUsername telegramUsername)
      (fun _ => AtDesk o r p fun _ => True) fun _ s _ => Unapplied s := by
  have try_observed : Holds unrestricted (AtDesk o r p fun _ => True)
      (tryCandidate telegramUsername)
      (Act.Found (fun _ => AtDesk o r p fun _ => True) (AtDesk o r p fun _ => True))
      fun _ s _ => Unapplied s := by
    refine Holds.bind (Q := fun _ => AtDesk o r p fun _ => True) ?_ fun candidate => ?_
    · exact Holds.bind (passed rfl lasting_true) fun n => Holds.pure fun _ _ h => h
    · refine Holds.bind (queried lasting_true ho) fun taken => ?_
      cases taken with
      | true => exact Holds.pure fun _ _ h => h
      | false =>
        refine Holds.bind (readAdmin (G := fun _ _ => True) ho fun _ _ _ => trivial) fun live => ?_
        cases live with
        | none => exact Holds.pure fun _ _ h => h
        | some a => exact Holds.pure fun _ _ h => h
  refine Holds.bind (Holds.searchFor try_observed 100) fun username => ?_
  cases username with
  | some u => exact Holds.pure fun _ _ h => h
  | none => exact raised ho

/-- A reserved username, with the target of its provisioning. -/
def Reserved (p : Product) (s : Session) (h : Past) : Prop :=
  ∃ o r, o.status ≠ .APPLIED ∧ (∀ target, o.target = some target → target.Recorded) ∧
    r.status = .PROVISIONING ∧ AtDesk o r p (fun _ => True) s h

theorem reserveUsername_observed (ho : o.status ≠ .APPLIED) :
    Holds unrestricted (AtDesk o r p fun _ => True) reserveUsername (fun _ => Reserved p)
      fun _ s _ => Unapplied s := by
  refine readReseller (Holds.bind (availableUsername_observed ho _) fun username => ?_)
  refine assignedReseller (assignedOrder (Holds.bind (passed rfl lasting_true) fun t => ?_))
  refine readProduct (Holds.bind (Q := fun _ => AtDesk { o with status := .APPLYING }
    (reserved username r) p fun _ => True) ?_ fun expire => ?_)
  · exact Holds.outcome (fun _ _ _ _ h => h) fun _ _ _ _ h => h.1.unapplied (by simp)
  · refine assignedOrder ((committed lasting_true (by simp)).post ?_)
    intro _ s h hat
    refine ⟨_, _, ?_, ?_, rfl, hat⟩
    · simp
    · intro target ht
      cases ht
      exact recorded_provisioningTarget username expire p

theorem disableUnsafe_observed {X : Err → Session → Past → Prop} (why : Cause) (username : String) :
    Holds unrestricted (AtDesk o r p fun _ => True) (disableUnsafe why (some username))
      (fun _ => AtDesk o r p fun _ => True) X := by
  refine Holds.bind (Holds.attempt (called (G := fun _ => True) fun _ _ _ => trivial))
    fun res => ?_
  cases res with
  | ok _ => exact Holds.pure fun _ _ h => h
  | error _ => exact Holds.pure fun _ _ h => h

theorem writeAdmin_observed (ho : o.status ≠ .APPLIED) (why : Cause) (username : String)
    (payload : AdminPayload) (live : Option Admin) :
    Holds unrestricted (AtDesk o r p fun _ => True) (writeAdmin why (some username) payload live)
      (fun _ => AtDesk o r p (CalledFor why)) fun _ s _ => Unapplied s := by
  have write : ∀ c : Call, Holds unrestricted (AtDesk o r p fun _ => True) (call why c)
      (fun _ => AtDesk o r p (CalledFor why)) fun _ s _ => Unapplied s := fun c =>
    (called fun _ res _ => ⟨c, res, List.mem_cons_self⟩).conseq (fun _ _ h => h)
      (fun _ _ _ h => h) fun _ _ _ h => h.1.unapplied ho
  cases live with
  | none => exact write _
  | some a =>
    exact Holds.ite (Holds.bind (disableUnsafe_observed why username) fun _ => raised ho) (write _)

theorem provision_observed (ho : o.status ≠ .APPLIED) (why : Cause) (username password : String)
    (want : Entitlement) (telegramId : Option ℤ) :
    Holds unrestricted (AtDesk o r p fun _ => True)
      (provision why (some username) password want telegramId)
      (fun live => AtDesk o r p (Verified why username want live)) fun _ s _ => Unapplied s := by
  refine Holds.bind (readAdmin (G := fun _ _ => True) ho fun _ _ _ => trivial) fun live => ?_
  refine Holds.bind (writeAdmin_observed ho why username _ live) fun _ => ?_
  refine Holds.bind (readAdmin (G := fun live h =>
    (∀ a, live = some a → (reads h).head? = some a) ∧ CalledFor why h) ho ?_) fun live => ?_
  · intro h live hc
    refine ⟨?_, calledFor_cons _ hc⟩
    rintro a rfl
    rw [reads_cons_read]
    rfl
  · unfold verifyAdmin
    cases hv : verifyEntitlement live (some username) want with
    | ok a =>
      obtain rfl := verifyEntitlement_ok hv
      exact Holds.pure fun _ _ h => ⟨h.1, h.2.1 a rfl, hv, h.2.2⟩
    | error e =>
      show Holds unrestricted _ (if _ then _ else _) _ _
      split_ifs with hu
      · refine Holds.bind ((disableUnsafe_observed (o := o) (r := r) (p := p) why username).pre ?_)
          fun _ => raised ho
        exact fun _ _ h => ⟨h.1, trivial⟩
      · exact raised ho

/-- The credentials have been sent after the read that verified the admin. -/
def Delivered (why : Cause) (username : String) (want : Entitlement) (live : Admin) (h : Past) :
    Prop :=
  ∃ later x before, h = later ++ x :: before ∧ Unsent later ∧ x.1.isSend = true ∧
    Verified why username want live before

theorem delivered_cons {why : Cause} {username : String} {want : Entitlement} {live : Admin}
    {h : Past} (x : Reply Ev Resp) (hx : x.1.isSend = false)
    (hd : Delivered why username want live h) : Delivered why username want live (x :: h) := by
  obtain ⟨later, y, before, rfl, hu, hy, hv⟩ := hd
  exact ⟨x :: later, y, before, rfl, List.forall_mem_cons.mpr ⟨hx, hu⟩, hy, hv⟩

theorem lasting_delivered (why : Cause) (username : String) (want : Entitlement) (live : Admin) :
    Lasting (Delivered why username want live) :=
  fun _ x hx hd => delivered_cons x (isSend_of_passing hx) hd

/-- The order is not applied, or all is as it should be. -/
def Sound (productId : ℕ) (s : Session) (h : Past) : Prop :=
  Unapplied s ∨ LocalOutcome productId s h

theorem Desk.added {s : Session} (hd : Desk s o r p) (st : Stmt) :
    Desk { s with pending := s.pending ++ [st] } o r p :=
  ⟨hd.sound, hd.order, hd.reseller, hd.product⟩

variable {live : Admin} {target : Snapshot} {username : String} {o' : Order} {r' : Reseller}

theorem outcome_delivered {s : Session} {h : Past} (ht : o.target = some target)
    (hrec : target.Recorded) (hd : Desk s o' (activated p r') p) (happlied : o'.appliedAt ≠ none)
    (herror : o'.applyError = none)
    (hdel : Delivered (.provisioning o r) username target.entitlement live h) :
    LocalOutcome p.id s h := by
  obtain ⟨later, x, before, rfl, hu, hx, hread, hv, c, res, hm⟩ := hdel
  obtain ⟨db, ho⟩ := hd.order
  obtain ⟨db', hr⟩ := hd.reseller
  have hc : confirming (later ++ x :: before) = some live := (confirming_sent hu hx).trans hread
  have hmem : (⟨.call (.provisioning o r) c, res⟩ : Reply Ev Resp) ∈ later ++ x :: before :=
    List.mem_append_right _ (List.mem_cons_of_mem _ hm)
  exact ⟨⟨_, ho, happlied, herror, target, live, .inr ⟨o, r, c, res, hmem, ht⟩, hc,
    meets_of_verified hv hrec⟩, _, hr, rfl, rfl⟩

theorem customerPanelUrl_observed (hF : Lasting F) (ho : o.status ≠ .APPLIED) :
    Holds unrestricted (AtDesk o r p F) RuntimeSettings.customerPanelUrl (fun _ => AtDesk o r p F)
      fun _ s _ => Unapplied s := by
  refine Holds.bind (queried hF ho) fun v => ?_
  cases v with
  | none => exact Holds.pure fun _ _ h => h
  | some v =>
    dsimp only
    generalize String.ofList (strip isSpace v.str.toList) = url
    have done : ∀ url, Holds unrestricted (AtDesk o r p F) (pure url : Bot (Option String))
        (fun _ => AtDesk o r p F) fun _ s _ => Unapplied s := fun _ => Holds.pure fun _ _ h => h
    exact Holds.ite (done _) (Holds.ite (done _) (raised ho))

theorem notify_observed {G : Past → Prop} {X : Err → Session → Past → Prop} {chat : ℤ}
    (hF : ∀ h res, F h → G (⟨.send chat, res⟩ :: h)) :
    Holds unrestricted (AtDesk o r p F) (notify chat) (fun _ => AtDesk o r p G) X := by
  have hsend : Holds unrestricted (AtDesk o r p F) (sendMessage chat) (fun _ => AtDesk o r p G)
      fun _ => AtDesk o r p G := by
    refine Holds.bind (Q := fun _ => AtDesk o r p G) ?_ fun res => ?_
    · exact Traced.ask (fun _ _ _ => trivial) fun s h res hP => ⟨hP.1, hF h res hP.2⟩
    · exact Holds.outcome (fun _ _ _ _ h => h) fun _ _ _ _ h => h
  refine Holds.bind (Holds.attempt hsend) fun res => ?_
  cases res with
  | ok _ => exact Holds.pure fun _ _ h => h
  | error _ => exact Holds.pure fun _ _ h => h

/-- After the order has been marked, a last read may fail. -/
theorem finishProvisioning_observed (ht : o.target = some target) (hrec : target.Recorded)
    (name : String) :
    Holds unrestricted
      (AtDesk o' r' p (Delivered (.provisioning o r) username target.entitlement live))
      (finishProvisioning name) (fun _ => Sound p.id) fun _ => Sound p.id := by
  have finished : ∀ (t : Datetime) (after : Option AfterSnapshot) {s : Session} {h : Past},
      AtDesk { applied t { o' with status := .APPLIED } with afterSnapshot := after }
        (activated p r') p (Delivered (.provisioning o r) username target.entitlement live) s h →
      Sound p.id s h :=
    fun t after _ _ hat => .inr (outcome_delivered ht hrec hat.1 (Option.some_ne_none t) rfl hat.2)
  refine readProduct (assignedReseller (assignedOrder ?_))
  refine Holds.bind (passed rfl (lasting_delivered _ _ _ _)) fun t => assignedOrder ?_
  refine Holds.bind (Q := fun _ => AtDesk (applied t { o' with status := .APPLIED })
    (activated p r') p (Delivered (.provisioning o r) username target.entitlement live)) ?_
    fun found => ?_
  · refine (called fun h res hd => delivered_cons _ rfl hd).conseq (fun _ _ h => h)
      (fun _ _ _ h => h) fun _ _ _ h => finished t _ h
  · cases found with
    | none => exact Holds.raise fun _ _ h => finished t _ h
    | some a =>
      refine readOrder (assignedOrder (Holds.modify ?_))
      rintro s h ⟨hd, hF⟩
      exact finished t (some (.dump a)) ⟨hd.added _, hF⟩

/-- An action that applies nothing where it raises. -/
theorem soundly {α : Type} {m : Bot α} {P : Session → Past → Prop}
    {Q : α → Session → Past → Prop} {productId : ℕ}
    (h : Holds unrestricted P m Q fun _ s _ => Unapplied s) :
    Holds unrestricted P m Q fun _ => Sound productId :=
  h.conseq (fun _ _ h => h) (fun _ _ _ h => h) fun _ _ _ h => .inl h

theorem deliverCredentials_observed (ho : o'.status ≠ .APPLIED) (ht : o.target = some target)
    (hrec : target.Recorded) (telegramId : ℤ) (name : String) :
    Holds unrestricted
      (AtDesk o' r' p (Verified (.provisioning o r) username target.entitlement live))
      (deliverCredentials telegramId name) (fun _ => Sound p.id) fun _ => Sound p.id := by
  have hf : (failed "CREDENTIAL_DELIVERY_PENDING" o').status ≠ .APPLIED := ho
  refine assignedOrder (Holds.bind (soundly (committed (lasting_verified _ _ _ _) hf)) fun _ => ?_)
  refine Holds.bind (soundly (customerPanelUrl_observed (lasting_verified _ _ _ _) hf)) fun _ => ?_
  refine Holds.bind (notify_observed (G := Delivered (.provisioning o r) username
    target.entitlement live) ?_) fun delivered => ?_
  · exact fun h res hv => ⟨[], _, h, rfl, List.forall_mem_nil _, rfl, hv⟩
  · cases delivered with
    | false => exact soundly (raised hf)
    | true => exact finishProvisioning_observed ht hrec name

theorem provisionOrder_observed (cfg : Settings) (ho : o.status ≠ .APPLIED)
    (hrec : ∀ target, o.target = some target → target.Recorded) :
    Holds unrestricted (AtDesk o r p fun _ => True) (provisionOrder cfg) (fun _ => Sound p.id)
      fun _ => Sound p.id := by
  refine readOrder (readReseller ?_)
  cases ha : o.afterSnapshot with
  | none => exact soundly (raised ho)
  | some after =>
    cases after with
    | dump a => exact soundly (raised ho)
    | target target =>
      have ht : o.target = some target := by rw [Order.target, ha]
      refine Holds.bind (passed rfl lasting_true) fun password => ?_
      split_ifs with he
      · exact soundly (raised ho)
      · refine Holds.bind (soundly (provision_observed ho _ _ password _ _)) fun live => ?_
        exact deliverCredentials_observed ho ht (hrec target ht) _ _

end Provisioning

/-! ## A renewal and its recovery -/

section Renewal

open Act (Holds)

variable {o o' : Order} {r r' : Reseller} {p : Product} {target : Snapshot} {live first a : Admin}
  {now : Datetime} {s : Session} {h : Past} {x : Reply Ev Resp}

/-- Nothing has been called yet. -/
def Uncalled (h : Past) : Prop := ∀ x ∈ h, x.1.passing = true

/-- No credentials are sent, and `first` is the first admin that was read. -/
def FirstRead (first : Admin) (h : Past) : Prop := Unsent h ∧ (reads h).getLast? = some first

theorem lasting_uncalled : Lasting Uncalled :=
  fun _ _ hx hu => List.forall_mem_cons.mpr ⟨hx, hu⟩

theorem opened_cons (hx : x.1.isSend = false) (hf : found x = none) (ho : FirstRead first h) :
    FirstRead first (x :: h) :=
  ⟨List.forall_mem_cons.mpr ⟨hx, ho.1⟩, by rw [reads_cons_none hf]; exact ho.2⟩

theorem lasting_opened : Lasting (FirstRead first) :=
  fun _ _ hx ho => opened_cons (isSend_of_passing hx) (found_of_passing hx) ho

theorem reads_uncalled (hu : Uncalled h) : reads h = [] :=
  List.filterMap_eq_nil_iff.mpr fun x hx => found_of_passing (hu x hx)

theorem opened_first {why : Cause} {username : Option String} (hu : Uncalled h) :
    FirstRead a (⟨.call why (.getAdmin username), .ok (some a)⟩ :: h) := by
  refine ⟨List.forall_mem_cons.mpr ⟨rfl, fun x hx => isSend_of_passing (hu x hx)⟩, ?_⟩
  rw [reads_cons_read, reads_uncalled hu]
  rfl

theorem opened_again {why : Cause} {username : Option String} (ho : FirstRead first h) :
    FirstRead first (⟨.call why (.getAdmin username), .ok (some a)⟩ :: h) := by
  refine ⟨List.forall_mem_cons.mpr ⟨rfl, ho.1⟩, ?_⟩
  rw [reads_cons_read, List.getLast?_cons, ho.2]
  rfl

theorem reactivated_iff {status : ResellerStatus} :
    status.reactivated = .ACTIVE ↔ status = .ACTIVE ∨ status.paused = true := by
  cases status <;> decide

/-- A passing request changes nothing about the outcome. -/
theorem confirming_cons (hx : x.1.passing = true) : confirming (x :: h) = confirming h := by
  have hd : (x :: h).dropWhile (fun x => !x.1.isSend) = h.dropWhile fun x => !x.1.isSend :=
    List.dropWhile_cons_of_pos (by simp [isSend_of_passing hx])
  unfold confirming
  rw [hd]
  dsimp only
  split_ifs with he
  · rw [reads_cons_none (found_of_passing hx)]
  · rfl

theorem targeted_cons (hx : x.1.passing = true) :
    Targeted o (x :: h) target ↔ Targeted o h target := by
  have hm : ∀ why c res, (⟨.call why c, res⟩ : Reply Ev Resp) ∈ x :: h ↔
      (⟨.call why c, res⟩ : Reply Ev Resp) ∈ h := by
    intro why c res
    rw [List.mem_cons, or_iff_right]
    rintro rfl
    cases hx
  simp only [Targeted, hm]

theorem localOutcome_cons {productId : ℕ} (hx : x.1.passing = true) :
    LocalOutcome productId s (x :: h) ↔ LocalOutcome productId s h := by
  constructor
  · rintro ⟨horder, hreseller⟩
    simp only [targeted_cons hx, confirming_cons hx] at horder
    exact ⟨horder, hreseller⟩
  · rintro ⟨horder, hreseller⟩
    refine ⟨?_, hreseller⟩
    simp only [targeted_cons hx, confirming_cons hx]
    exact horder

theorem recovers_cons (hx : x.1.passing = true) : Recovered o (x :: h) ↔ Recovered o h := by
  simp only [Recovered, reads_cons_none (found_of_passing hx)]

/-- What the fields of the reseller decide. -/
theorem localOutcome_iff (hd : Desk s o r p) (ht : o.target = some target)
    (happlied : o.appliedAt ≠ none) (herror : o.applyError = none)
    (hc : confirming h = some live) (hm : live.Meets target) :
    LocalOutcome p.id s h ↔ r.status = .ACTIVE ∧ r.productId = some p.id := by
  obtain ⟨db, ho⟩ := hd.order
  obtain ⟨db', hr⟩ := hd.reseller
  constructor
  · rintro ⟨-, ob, hob, hstatus, hproduct⟩
    obtain rfl : ob = ⟨db', r⟩ := Option.some.inj (hob.symm.trans hr)
    exact ⟨hstatus, hproduct⟩
  · rintro ⟨hstatus, hproduct⟩
    exact ⟨⟨_, ho, happlied, herror, target, live, .inl ht, hc, hm⟩, _, hr, hstatus, hproduct⟩

/-- Where a renewal leaves what it should. -/
def RenewsWell (productId : ℕ) (o : Order) (r : Reseller) (h : Past) : Prop :=
  (r.status = .ACTIVE ∨ r.status.paused = true) ∧ (Recovered o h → r.productId = some productId)

/-- The order is not applied, or the condition decides. -/
def Decided (o : Order) (r : Reseller) (p : Product) (s : Session) (h : Past) : Prop :=
  Unapplied s ∨ (LocalOutcome p.id s h ↔ RenewsWell p.id o r h)

theorem decided_cons (hx : x.1.passing = true) (hd : Decided o r p s h) :
    Decided o r p s (x :: h) := by
  refine hd.imp_right fun hd => ?_
  rw [localOutcome_cons hx, hd, RenewsWell, RenewsWell, recovers_cons hx]

/-- The update has been verified. -/
theorem decided_renewed
    (hd : Desk s (applied now o') { reactivate r with productId := some p.id } p)
    (ht : o'.target = some target) (hopen : FirstRead first h)
    (hread : (reads h).head? = some live)
    (hm : snapshotMatches live target = true) (hnot : ¬Recovered o h) : Decided o r p s h := by
  have hc : confirming h = some live := (confirming_unsent hopen.1).trans hread
  have hiff := localOutcome_iff hd ht (Option.some_ne_none now) rfl hc (meets_of_matches hm)
  refine .inr (hiff.trans ?_)
  show r.status.reactivated = .ACTIVE ∧ _ ↔ _
  rw [reactivated_iff, RenewsWell, and_iff_left rfl]
  exact (and_iff_left fun hrec => absurd hrec hnot).symm

/-- The target was in place. -/
theorem decided_recovered (hd : Desk s (applied now o) (reactivate r) p)
    (ht : o.target = some target) (hopen : FirstRead live h) (hread : (reads h).head? = some live)
    (hm : snapshotMatches live target = true) : Decided o r p s h := by
  have hc : confirming h = some live := (confirming_unsent hopen.1).trans hread
  have hiff := localOutcome_iff hd ht (Option.some_ne_none now) rfl hc (meets_of_matches hm)
  refine .inr (hiff.trans ?_)
  have hrec : Recovered o h := ⟨target, live, ht, hopen.2, hm⟩
  show r.status.reactivated = .ACTIVE ∧ _ ↔ _
  rw [reactivated_iff, RenewsWell, imp_iff_right hrec]
  rfl

theorem failOrder_observed {F : Past → Prop} {e : Err} (ho : o'.status ≠ .APPLIED) :
    Holds unrestricted (AtDesk o' r' p F) (failOrder e : Bot Bool) (fun _ => Decided o r p)
      fun _ => Decided o r p :=
  assignedOrder (Holds.raise fun _ _ hP =>
    .inl (hP.1.unapplied (show (failed e.msg o').status ≠ .APPLIED from ho)))

theorem verifyTarget_observed (ho : o'.status ≠ .APPLIED) (ht : o'.target = some target)
    (hnot : ∀ h, FirstRead first h → ¬Recovered o h) :
    Holds unrestricted (AtDesk o' r p (FirstRead first)) (verifyTarget live target now)
      (fun _ => Decided o r p) fun _ => Decided o r p := by
  refine Holds.bind (Q := fun verified => AtDesk o' r p fun h =>
    ∀ a, verified = some a → FirstRead first h ∧ (reads h).head? = some a) ?_ fun verified => ?_
  · refine (readAdmin ho ?_).conseq (fun _ _ h => h) (fun _ _ _ h => h) fun _ _ _ h => .inl h
    rintro h _ hopen a rfl
    exact ⟨opened_again hopen, by rw [reads_cons_read]; rfl⟩
  · split_ifs with hm
    · refine assignedReseller (readProduct (assignedReseller (assignedOrder (Holds.pure ?_))))
      rintro s h ⟨hd, hread⟩
      cases verified with
      | none => cases hm
      | some a =>
        obtain ⟨hopen, hhead⟩ := hread a rfl
        exact decided_renewed hd ht hopen hhead hm (hnot h hopen)
    · exact failOrder_observed ho

theorem writeTarget_observed (why : Cause) (username : String) (paused : Bool) :
    Holds unrestricted (AtDesk o' r p (FirstRead first)) (writeTarget why username target paused)
      (fun _ => AtDesk o' r p (FirstRead first)) fun _ => AtDesk o' r p (FirstRead first) := by
  refine Holds.bind (called fun _ _ hopen => opened_cons rfl rfl hopen) fun _ => ?_
  exact Holds.when (Q := AtDesk o' r p (FirstRead first))
    (fun _ => called fun _ _ hopen => opened_cons rfl rfl hopen) fun _ _ _ hP => hP

theorem performTarget_observed (ho : o'.status ≠ .APPLIED) (ht : o'.target = some target)
    (hnot : ∀ h, FirstRead first h → ¬Recovered o h) :
    Holds unrestricted (AtDesk o' r p (FirstRead first)) (performTarget live target now)
      (fun _ => Decided o r p) fun _ => Decided o r p := by
  refine readOrder (readReseller (Holds.ite ?_ ?_))
  · exact Holds.raise fun _ _ hP => .inl (hP.1.unapplied ho)
  · refine Holds.bind (Holds.attempt (writeTarget_observed _ _ _)) fun res => ?_
    cases res with
    | error e => exact failOrder_observed ho
    | ok _ => exact verifyTarget_observed ho ht hnot

theorem beginTarget_observed (ho : o.status ≠ .APPLIED) (hf : o.target = none) :
    Holds unrestricted (AtDesk o r p (FirstRead live)) (beginTarget live now commit)
      (fun _ => Decided o r p) fun _ => Decided o r p := by
  have hnot : ∀ h, FirstRead live h → ¬Recovered o h := by
    rintro h - ⟨target, -, ht, -⟩
    rw [hf] at ht
    cases ht
  refine readProduct ?_
  cases targetSnapshot live p now with
  | error e => exact Holds.raise fun _ _ hP => .inl (hP.1.unapplied ho)
  | ok target =>
    refine Holds.bind (Q := fun t s h => t = target ∧ AtDesk o r p (FirstRead live) s h)
      (Holds.pure fun _ _ hP => ⟨rfl, hP⟩) fun t => Holds.fact ?_
    rintro rfl
    have ha : (applying (entitlementSnapshot live) t o).status ≠ .APPLIED := by simp [applying]
    have hcommit : Holds unrestricted
        (AtDesk (applying (entitlementSnapshot live) t o) r p (FirstRead live)) commit
        (fun _ => AtDesk (applying (entitlementSnapshot live) t o) r p (FirstRead live))
        fun _ => Decided o r p :=
      (committed lasting_opened ha).conseq (fun _ _ h => h) (fun _ _ _ h => h) fun _ _ _ h => .inl h
    refine assignedOrder (Holds.bind hcommit fun _ => ?_)
    exact performTarget_observed ha rfl hnot

theorem resumeTarget_observed (ho : o.status ≠ .APPLIED) (ht : o.target = some target)
    (before : Option Snapshot) :
    Holds unrestricted (AtDesk o r p fun h => FirstRead live h ∧ (reads h).head? = some live)
      (resumeTarget live before target now) (fun _ => Decided o r p) fun _ => Decided o r p := by
  cases before with
  | none => exact failOrder_observed ho
  | some before =>
    unfold resumeTarget
    dsimp only
    split_ifs with hm hb
    · refine assignedOrder (assignedReseller (Holds.pure ?_))
      rintro s h ⟨hd, hopen, hread⟩
      exact decided_recovered hd ht hopen hread hm
    · refine (performTarget_observed ho ht ?_).pre fun s h hP => ⟨hP.1, hP.2.1⟩
      rintro h hopen ⟨target', first, ht', hfirst, hmatch⟩
      obtain rfl : target = target' := Option.some.inj (ht.symm.trans ht')
      obtain rfl : live = first := Option.some.inj (hopen.2.symm.trans hfirst)
      exact hm hmatch
    · exact failOrder_observed ho

theorem applyOrderLocked_observed (ho : o.status ≠ .APPLIED) :
    Holds unrestricted (AtDesk o r p Uncalled) (applyOrderLocked now commit)
      (fun _ => Decided o r p) fun _ => Decided o r p := by
  refine readOrder ?_
  rw [if_neg ho]
  refine readReseller (Holds.ite ?_ ?_)
  · exact Holds.pure fun _ _ hP => .inl (hP.1.unapplied ho)
  · refine Holds.bind (Q := fun found => AtDesk o r p fun h => ∀ live, found = some live →
      FirstRead live h ∧ (reads h).head? = some live) ?_ fun found => ?_
    · refine (readAdmin ho ?_).conseq (fun _ _ h => h) (fun _ _ _ h => h) fun _ _ _ h => .inl h
      rintro h _ hu live rfl
      exact ⟨opened_first hu, by rw [reads_cons_read]; rfl⟩
    · cases found with
      | none => exact Holds.raise fun _ _ hP => .inl (hP.1.unapplied ho)
      | some live =>
        unfold applyLive
        cases ht : o.target with
        | none =>
          exact (beginTarget_observed ho ht).pre fun _ _ hP => ⟨hP.1, (hP.2 live rfl).1⟩
        | some target =>
          exact (resumeTarget_observed ho ht _).pre fun _ _ hP => ⟨hP.1, hP.2 live rfl⟩

theorem applyOrder_observed (ho : o.status ≠ .APPLIED) :
    Holds unrestricted (AtDesk o r p Uncalled) (applyOrder now commit) (fun _ => Decided o r p)
      fun _ => Decided o r p := by
  refine readOrder (Holds.bind (passed rfl lasting_uncalled) fun _ => ?_)
  refine Holds.bind (Q := fun _ => Decided o r p) ?_ fun res => ?_
  · refine (Holds.attempt (applyOrderLocked_observed ho)).post ?_
    rintro (e | changed) s h hP
    · exact hP
    · exact hP
  · refine Holds.bind (Q := fun _ => Decided o r p) ?_ fun _ => ?_
    · exact Traced.ask (fun _ _ _ => trivial) fun _ _ _ hP => decided_cons rfl hP
    · exact Holds.outcome (fun _ _ _ _ hP => hP) fun _ _ _ _ hP => hP

end Renewal

/-! ## Every path -/

section Paths

open Act (Holds)

variable {o : Order} {r : Reseller} {p : Product}

/-- Where the application of an order leaves what it should: a provisioning always does. -/
def LeavesWell (o : Order) (r : Reseller) (h : Past) : Prop :=
  Provisions r ∨ RenewsWell o.productId o r h

theorem applyPaid_observed (cfg : Settings) (hp : p.id = o.productId) (ho : o.status ≠ .APPLIED)
    (hrec : ∀ target, o.target = some target → target.Recorded) :
    Holds unrestricted (AtDesk o r p Uncalled) (applyPaid cfg)
      (fun _ s h => Unapplied s ∨ (LocalOutcome o.productId s h ↔ LeavesWell o r h))
      fun _ s h => Unapplied s ∨ (LocalOutcome o.productId s h ↔ LeavesWell o r h) := by
  have provisioned : ∀ {s : Session} {h : Past}, Provisions r → Sound p.id s h →
      Unapplied s ∨ (LocalOutcome o.productId s h ↔ LeavesWell o r h) :=
    fun hprov hs => hs.imp_right fun hl => iff_of_true (hp ▸ hl) (.inl hprov)
  refine readReseller ?_
  by_cases hn : truthy r.rebeccaAdminUsername = true
  · have hwhen : (Act.when (¬truthy r.rebeccaAdminUsername) reserveUsername : Bot Unit) =
        pure () := by simp [Act.when, hn]
    rw [hwhen]
    refine Holds.bind (Holds.pure fun _ _ hP => hP) fun _ => readReseller ?_
    by_cases hr : r.status = .PROVISIONING
    · rw [if_pos hr]
      refine Holds.bind (Q := fun _ => Sound p.id) ?_ fun _ => ?_
      · refine (provisionOrder_observed cfg ho hrec).conseq (fun _ _ hP => ⟨hP.1, trivial⟩)
          (fun _ _ _ hs => hs) fun _ _ _ hs => provisioned (.inr hr) hs
      · exact Holds.pure fun _ _ hs => provisioned (.inr hr) hs
    · have hnot : ¬Provisions r := by
        rintro (hfalse | hprov)
        · rw [hn] at hfalse
          cases hfalse
        · exact hr hprov
      have decided : ∀ {s : Session} {h : Past}, Decided o r p s h →
          Unapplied s ∨ (LocalOutcome o.productId s h ↔ LeavesWell o r h) :=
        fun hs => hs.imp_right fun hl => (hp ▸ hl).trans (or_iff_right hnot).symm
      rw [if_neg hr]
      refine Holds.bind (passed rfl lasting_uncalled) fun now => ?_
      refine Holds.bind (Q := fun _ => Decided o r p) ?_ fun _ => ?_
      · exact (applyOrder_observed ho).conseq (fun _ _ h => h) (fun _ _ _ h => h)
          fun _ _ _ h => decided h
      · exact Holds.pure fun _ _ h => decided h
  · have hprov : Provisions r := .inl (Bool.eq_false_iff.mpr hn)
    have hwhen : (Act.when (¬truthy r.rebeccaAdminUsername) reserveUsername : Bot Unit) =
        reserveUsername := by simp [Act.when, hn]
    rw [hwhen]
    refine Holds.bind (Q := fun _ => Reserved p) ?_ fun _ => ?_
    · exact (reserveUsername_observed ho).conseq (fun _ _ hP => ⟨hP.1, trivial⟩)
        (fun _ _ _ h => h) fun _ _ _ h => .inl h
    · refine Holds.ex fun o' => Holds.ex fun r' => Holds.fact fun ho' => Holds.fact fun hrec' =>
        Holds.fact fun hr' => readReseller ?_
      rw [if_pos hr']
      refine Holds.bind (Q := fun _ => Sound p.id) ?_ fun _ => ?_
      · exact (provisionOrder_observed cfg ho' hrec').conseq (fun _ _ h => h)
          (fun _ _ _ hs => hs) fun _ _ _ hs => provisioned hprov hs
      · exact Holds.pure fun _ _ hs => provisioned hprov hs

/-- **An applied order leaves what it should, exactly if** its reseller was being provisioned, or
was active or paused and, where the target was found in place, had the product already.  Rebecca,
the database and Telegram answer as they like. -/
theorem applied_outcome_iff {Γ : Type} (react : (e : Ev) → Γ → Resp e × Γ) (γ : Γ) (cfg : Settings)
    (s : Session) (o : Order) (r : Reseller) (p : Product) (hd : Desk s o r p)
    (hp : p.id = o.productId) (ho : o.status = .PAID ∨ o.status = .APPLYING)
    (hrec : ∀ target, o.target = some target → target.Recorded)
    (happlied : ∃ ob, (Act.run react s γ (applyPaid cfg)).1.2.order = some ob ∧
      ob.cur.status = .APPLIED) :
    LocalOutcome o.productId (Act.run react s γ (applyPaid cfg)).1.2
        (Act.history react s γ (applyPaid cfg)) ↔
      LeavesWell o r (Act.history react s γ (applyPaid cfg)) := by
  have hne : o.status ≠ .APPLIED := by
    rcases ho with ho | ho
    · rw [ho]; decide
    · rw [ho]; decide
  have hat : AtDesk o r p Uncalled s [] := ⟨hd, List.forall_mem_nil _⟩
  have hrun := (applyPaid_observed cfg hp hne hrec).history react γ hat
  rcases hm : Act.run react s γ (applyPaid cfg) with ⟨⟨res, s'⟩, γ'⟩
  rw [hm] at hrun happlied
  obtain ⟨ob, hob, hst⟩ := happlied
  have hnot : ¬Unapplied s' := fun hu => hu ob hob hst
  cases res with
  | ok changed => exact hrun.resolve_left hnot
  | error e => exact hrun.resolve_left hnot

end Paths

namespace Lapsed

def settings : Settings where
  botToken := "token"
  ownerIds := [7]
  rebeccaBearerToken := "bearer"
  dryRun := false
  destructiveActions := false
  allowDisableActions := false
  allowDeleteActions := false
  userDeleteGraceHours := 72
  trialDurationHours := 24
  trialTrafficGb := 10
  timeWarningThresholds := [7, 3, 1]
  trafficWarningThresholds := [20, 10, 5]
  plisioEnabled := false
  plisioSecretKey := ""
  plisioSourceCurrency := "USD"

/-- The renewal has taken effect, and the read that should verify it has failed. -/
def unverified : Order :=
  { failed "timeout" (applying (entitlementSnapshot admin) target order) with status := .APPLYING }

def resumed : Session := { session with order := some ⟨some unverified, unverified⟩ }

def renewedServer : Server := server.setAdmin "ali_1234" (renewed admin target true)

theorem desk_resumed : Desk resumed unverified reseller product :=
  ⟨rfl, ⟨_, rfl⟩, ⟨_, rfl⟩, ⟨_, rfl⟩⟩

theorem applied_resumed : ∃ ob,
    (Act.run Lab.react resumed ⟨renewedServer, none⟩ (applyPaid settings)).1.2.order = some ob ∧
      ob.cur.status = .APPLIED := by
  have h : ((Act.run Lab.react resumed ⟨renewedServer, none⟩
      (applyPaid settings)).1.2.order.map (·.cur.status)) = some .APPLIED := by cbv
  exact Option.map_eq_some_iff.mp h

theorem recorded_resumed : ∀ t, unverified.target = some t → t.Recorded := by
  rintro t h
  cases h
  exact .inr ⟨rfl, rfl⟩

end Lapsed

theorem applied_outcome_resumed :
    LocalOutcome Lapsed.unverified.productId
        (Act.run Lab.react Lapsed.resumed ⟨Lapsed.renewedServer, none⟩
          (applyPaid Lapsed.settings)).1.2
        (Act.history Lab.react Lapsed.resumed ⟨Lapsed.renewedServer, none⟩
          (applyPaid Lapsed.settings)) ↔
      LeavesWell Lapsed.unverified Lapsed.reseller
        (Act.history Lab.react Lapsed.resumed ⟨Lapsed.renewedServer, none⟩
          (applyPaid Lapsed.settings)) :=
  applied_outcome_iff Lab.react _ _ _ _ _ _ Lapsed.desk_resumed rfl (.inr rfl)
    Lapsed.recorded_resumed Lapsed.applied_resumed

/-- The recovery of a renewal leaves the reseller without the product. -/
theorem recovery_without_product : ¬ ∀ (react : (e : Ev) → Lab → Resp e × Lab) (γ : Lab)
    (cfg : Settings) (s : Session) (o : Order) (r : Reseller) (p : Product), Desk s o r p →
    p.id = o.productId → (o.status = .PAID ∨ o.status = .APPLYING) →
    (∀ target, o.target = some target → target.Recorded) →
    (∃ ob, (Act.run react s γ (applyPaid cfg)).1.2.order = some ob ∧ ob.cur.status = .APPLIED) →
    LocalOutcome o.productId (Act.run react s γ (applyPaid cfg)).1.2
      (Act.history react s γ (applyPaid cfg)) := by
  intro h
  obtain ⟨-, ob, hob, -, hproduct⟩ := h Lab.react _ _ _ _ _ _ Lapsed.desk_resumed rfl (.inr rfl)
    Lapsed.recorded_resumed Lapsed.applied_resumed
  have hnone : ((Act.run Lab.react Lapsed.resumed ⟨Lapsed.renewedServer, none⟩
      (applyPaid Lapsed.settings)).1.2.reseller.map (·.cur.productId)) = some none := by cbv
  rw [hob, Option.map_some, hproduct] at hnone
  cases hnone

end ResellerBot
