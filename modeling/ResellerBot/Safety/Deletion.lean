import ResellerBot.Safety.Sparing
import ResellerBot.Safety.Quiet
import ResellerBot.Database.Traced

/-!
# ResellerBot.Safety.Deletion — deletions are authorised

The scheduler deletes users whose grace is over, an owner a user by name.  Rebecca, the database
and Telegram answer as they like, and differently from request to request.
-/

open Interact

namespace ResellerBot

open Act (Safe SafeWith Holds)

/-! ## Authorisation -/

/-- Both switches are on, and the dry-run flag is off. -/
structure Settings.Deletes (cfg : Settings) : Prop where
  live : cfg.dryRun = false
  destructive : cfg.destructiveActions = true
  allowed : cfg.allowDeleteActions = true

/-- The latest exchange is a live read of this user. -/
def JustRead (username : String) (live : User) (h : Past) : Prop :=
  ∃ why before, h = ⟨.call why (.getUser username), .ok (some live)⟩ :: before

/-- The run has loaded this cache row among those that are due. -/
def LoadedRow (row : ResellerUserCache) (h : Past) : Prop :=
  ∃ (until_ : Datetime) (n : ℕ) (rows : List ResellerUserCache),
    (⟨.query (.usersDue until_ n), .ok rows⟩ : Reply Ev Resp) ∈ h ∧ row ∈ rows

/-- The run has loaded this reseller. -/
def LoadedReseller (r : Reseller) (h : Past) : Prop :=
  ∃ asked : ℕ, (⟨.query (.reseller asked), .ok (some r)⟩ : Reply Ev Resp) ∈ h

/-- The run has loaded this reseller for the key `id`. -/
def LoadedFor (id : ℕ) (r : Reseller) (h : Past) : Prop :=
  ∃ asked : ℕ, (⟨.query (.reseller asked), .ok (some r)⟩ : Reply Ev Resp) ∈ h ∧
    (asked = id ∨ r.id = id)

/-- What a scheduled deletion rests on: a row without holds whose deadline is over, and a live user
of its admin who is exhausted. -/
structure Scheduled (username owner : String) (live : User) (h : Past) : Prop where
  named : owner ≠ ""
  row : ∃ row r now deadline, LoadedRow row h ∧ LoadedFor row.resellerId r h ∧
    (⟨.now, now⟩ : Reply Ev Resp) ∈ h ∧ row.username = username ∧
    row.rebeccaAdminUsername = owner ∧ row.deletionHold = false ∧ r.automationHold = false ∧
    row.deleteAfter = some deadline ∧ deadline ≤ now ∧
    exhausted live.expire live.dataLimit live.usedTraffic now = true

/-- Who may delete: the owner who has confirmed this user of this admin, and the scheduler. -/
def Task.MayDelete (cfg : Settings) (username owner : String) (live : User) (h : Past) :
    Task → Prop
  | .userDeleteConfirm userId o u => userId ∈ cfg.ownerIds ∧ o = owner ∧ u = username
  | .run => Scheduled username owner live h
  | _ => False

/-- A deletion after this history is authorised. -/
def Authorised (cfg : Settings) (t : Task) (h : Past) (username : String) : Prop :=
  cfg.Deletes ∧ ∃ live owner, JustRead username live h ∧ live.adminUsername = some owner ∧
    t.MayDelete cfg username owner live h

/-- Deletions need a permission. -/
def guarded (permit : Past → String → Prop) : Spec Ev Resp Past :=
  Spec.traced fun h e => ∀ why username, e = .call why (.deleteUser username) → permit h username

instance (permit : Past → String → Prop) : DeleteSpec (guarded permit) where
  free _ e he := by
    rintro why username rfl
    cases he
  other _ why c hc := by
    rintro _ username he
    cases he
    cases hc

variable {cfg : Settings} {batchSize : ℕ} {permit : Past → String → Prop}

/-! ## An owner -/

theorem userDeleteConfirm_guarded {userId : ℤ} {owner username : String} :
    Safe (guarded (Authorised cfg (.userDeleteConfirm userId owner username)))
      (userDeleteConfirm cfg userId owner username) := by
  refine Sparing.ifOwner fun ho => ?_
  unfold deleteConfirmed
  split_ifs with hoff
  · exact Sparing.sendMessage userId
  · have hflags : cfg.Deletes := by
      simp only [not_or, Bool.not_eq_true, Bool.not_eq_false] at hoff
      exact ⟨hoff.1, hoff.2.1, hoff.2.2⟩
    refine Holds.bind (Q := fun read _ h => ∀ live, read = some live → JustRead username live h)
      (Traced.call ?_ ?_ fun _ _ _ _ => trivial) fun read => ?_
    · rintro s h - why u he
      cases he
    · rintro s h _ - live rfl
      exact ⟨_, h, rfl⟩
    · cases read with
      | none => exact (Sparing.sendMessage userId).pre fun _ _ _ => trivial
      | some live =>
        dsimp only
        split_ifs with hl
        · exact (Sparing.sendMessage userId).pre fun _ _ _ => trivial
        · refine Holds.bind (Q := fun _ _ _ => True) (Traced.call ?_ (fun _ _ _ _ => trivial)
            fun _ _ _ _ => trivial) fun _ => ?_
          · rintro s h hread why u he
            cases he
            exact ⟨hflags, live, owner, hread live rfl, not_not.mp hl, ho, rfl, rfl⟩
          · exact (Sparing.call .user rfl).bind fun _ => Sparing.sendMessage userId

/-! ## The scheduler -/

/-- What the pass over the due rows knows: the clock has been read, the rows were loaded, and so were
some resellers, that in the variable among them. -/
structure Informed (now : Datetime) (rows : List ResellerUserCache) (known : List (ℕ × Reseller))
    (s : Session) (h : Past) : Prop where
  clock : (⟨.now, now⟩ : Reply Ev Resp) ∈ h
  rows : ∀ row ∈ rows, LoadedRow row h
  known : ∀ x ∈ known, LoadedFor x.1 x.2 h
  reseller : ∀ ob, s.reseller = some ob → LoadedReseller ob.cur h

section Informed

variable {now deadline : Datetime} {rows : List ResellerUserCache} {known : List (ℕ × Reseller)}
  {s : Session} {h : Past} {x : Reply Ev Resp} {r : Reseller} {row : ResellerUserCache}

theorem loadedReseller_later (hr : LoadedReseller r h) : LoadedReseller r (x :: h) := by
  obtain ⟨id, hm⟩ := hr
  exact ⟨id, List.mem_cons_of_mem _ hm⟩

theorem loadedFor_later {id : ℕ} (hr : LoadedFor id r h) : LoadedFor id r (x :: h) := by
  obtain ⟨asked, hm, hid⟩ := hr
  exact ⟨asked, List.mem_cons_of_mem _ hm, hid⟩

theorem loadedRow_later (hr : LoadedRow row h) : LoadedRow row (x :: h) := by
  obtain ⟨until_, n, rows, hm, hrow⟩ := hr
  exact ⟨until_, n, rows, List.mem_cons_of_mem _ hm, hrow⟩

theorem Informed.later (hi : Informed now rows known s h) : Informed now rows known s (x :: h) :=
  ⟨List.mem_cons_of_mem _ hi.clock, fun row hr => loadedRow_later (hi.rows row hr),
    fun y hy => loadedFor_later (hi.known y hy),
    fun ob ho => loadedReseller_later (hi.reseller ob ho)⟩

theorem Informed.flushed (hi : Informed now rows known s h) :
    Informed now rows known s.flushed h := by
  refine ⟨hi.clock, hi.rows, hi.known, fun ob ho => ?_⟩
  obtain ⟨ob', ho', rfl⟩ := Option.map_eq_some_iff.mp ho
  exact hi.reseller ob' ho'

theorem Informed.expired (hi : Informed now rows known s h) (b : Bool) :
    Informed now rows known (s.expire b) h :=
  ⟨hi.clock, hi.rows, hi.known, fun ob ho => by cases ho⟩

/-- A session with the same reseller. -/
theorem Informed.same {s' : Session} (hi : Informed now rows known s h)
    (hs : s'.reseller = s.reseller) : Informed now rows known s' h :=
  ⟨hi.clock, hi.rows, hi.known, by rw [hs]; exact hi.reseller⟩

theorem Informed.forget (hi : Informed now rows known s h) : Informed now rows [] s h :=
  ⟨hi.clock, hi.rows, List.forall_mem_nil _, hi.reseller⟩

theorem Informed.learn {id : ℕ} (hi : Informed now rows [] s h) (hr : LoadedFor id r h) :
    Informed now rows [(id, r)] s h :=
  ⟨hi.clock, hi.rows, List.forall_mem_singleton.mpr hr, hi.reseller⟩

/-- The permission of the scheduler. -/
abbrev scheduling (cfg : Settings) : Spec Ev Resp Past := guarded (Authorised cfg .run)

theorem passing_free (h : Past) {e : Ev} (he : e.passing = true) :
    (scheduling cfg).pre h e := by
  rintro why username rfl
  cases he

/-- Code that keeps what is known. -/
abbrev Informs (cfg : Settings) (now : Datetime) (rows : List ResellerUserCache)
    (known : List (ℕ × Reseller)) {α : Type} (m : Bot α) : Prop :=
  Holds (scheduling cfg) (Informed now rows known) m (fun _ => Informed now rows known)
    fun _ => Informed now rows known

theorem informs_notify (chat : ℤ) : Informs cfg now rows known (notify chat) := by
  have hsend : Informs cfg now rows known (sendMessage chat) := by
    refine Holds.bind (Q := fun _ => Informed now rows known) ?_ fun r => ?_
    · exact Traced.ask (fun _ _ _ _ _ he => by cases he) fun _ _ _ hi => hi.later
    · exact Holds.outcome (fun _ _ _ _ hi => hi) fun _ _ _ _ hi => hi
  refine Holds.bind (Holds.attempt hsend) fun r => ?_
  cases r with
  | ok _ => exact Holds.pure fun _ _ hi => hi
  | error _ => exact Holds.pure fun _ _ hi => hi

theorem informs_assignUser (f : ResellerUserCache → ResellerUserCache) :
    Informs cfg now rows known (Slot.user.assign f) :=
  Holds.modify fun _ _ hi => hi.same rfl

theorem informs_warnDue (reseller : Reseller) (cached : ResellerUserCache) (deadline : Stamp) :
    Informs cfg now rows known (warnDue reseller cached deadline now) := by
  refine Holds.bind (Q := fun _ => Informed now rows known)
    (Holds.outcome (fun _ _ _ _ hi => hi) fun _ _ _ _ hi => hi) fun left => ?_
  refine Holds.ite ?_ (Holds.pure fun _ _ hi => hi)
  refine Holds.bind (informs_notify _) fun b => ?_
  exact Holds.ite (informs_assignUser _) (Holds.pure fun _ _ hi => hi)

theorem informs_finishDeletion (reseller : Reseller) (result : DeleteResult) :
    Informs cfg now rows known (finishDeletion reseller result) := by
  cases result with
  | DELETED =>
    refine Holds.bind (informs_assignUser _) fun _ => ?_
    exact Holds.bind (informs_notify _) fun _ => Holds.pure fun _ _ hi => hi
  | _ => exact Holds.pure fun _ _ hi => hi

/-- The reseller that was found for a key, if one was. -/
def Learnt (now : Datetime) (rows : List ResellerUserCache) (id : ℕ) (found : Option Reseller) :
    Session → Past → Prop :=
  Informed now rows (found.toList.map fun r => (id, r))

/-- The reseller of a row: in the variable, or loaded now. -/
theorem informs_getReseller (id : ℕ) :
    Holds (scheduling cfg) (Informed now rows [])
      (Slot.reseller.getByKey Reseller.id id (query (.reseller id)))
      (Learnt now rows id) fun _ => Informed now rows [] := by
  have hquery : Holds (scheduling cfg) (Informed now rows []) (query (.reseller id))
      (Learnt now rows id) fun _ => Informed now rows [] := by
    refine Traced.query passing_free (fun _ _ hi => hi.flushed) (fun _ _ _ hi _ => hi.later) ?_
      (fun _ _ _ hi => hi) fun _ _ _ hi => hi.expired true
    rintro s h (_ | r) hi
    · exact hi.later
    · exact hi.later.learn ⟨id, List.mem_cons_self, .inl rfl⟩
  have hload : Holds (scheduling cfg) (Informed now rows [])
      (Slot.reseller.load (query (.reseller id))) (Learnt now rows id)
      fun _ => Informed now rows [] := by
    refine Holds.bind hquery fun found => ?_
    cases found with
    | none => exact Holds.pure fun _ _ hi => hi
    | some r =>
      refine Holds.bind (Holds.modify ?_) fun _ => Holds.pure fun _ _ hi => hi
      rintro s h hi
      refine ⟨hi.clock, hi.rows, hi.known, ?_⟩
      rintro ob ho
      cases ho
      obtain ⟨asked, hm, -⟩ := hi.known (id, r) List.mem_cons_self
      exact ⟨asked, hm⟩
  refine Holds.bind (Q := fun a s h => a = s ∧ Informed now rows [] s h)
    (Holds.state fun s h hi => ⟨rfl, hi⟩) fun a => ?_
  cases ha : Slot.reseller.get a with
  | none => exact hload.pre fun _ _ hi => hi.2
  | some ob =>
    dsimp only
    split_ifs with hid
    · refine Holds.pure ?_
      rintro s h ⟨rfl, hi⟩
      obtain ⟨asked, hm⟩ := hi.reseller ob ha
      exact hi.learn ⟨asked, hm, .inr hid⟩
    · exact hload.pre fun _ _ hi => hi.2

theorem readBack_aware {zoned : Bool} {t : Datetime} (h : readBack zoned deadline = .aware t) :
    deadline = t := by
  cases zoned with
  | true => exact Stamp.aware.inj h
  | false => cases h

theorem informs_safeDelete (hrow : row ∈ rows) (hd : row.deleteAfter = some deadline)
    (zoned locked : Bool) :
    Informs cfg now rows [(row.resellerId, r)] (safeDelete row.username row.rebeccaAdminUsername
      (readBack zoned deadline) now
      ⟨cfg.dryRun, cfg.destructiveActions, cfg.allowDeleteActions⟩
      (row.deletionHold || r.automationHold) locked) := by
  refine Holds.bind (Q := fun refused s h => (refused = none →
      deleteRefused (readBack zoned deadline) now
        ⟨cfg.dryRun, cfg.destructiveActions, cfg.allowDeleteActions⟩
        (row.deletionHold || r.automationHold) locked = .ok none) ∧
      Informed now rows [(row.resellerId, r)] s h)
    (Holds.outcome (fun refused hr _ _ hi => ⟨fun hn => hn ▸ hr, hi⟩) fun _ _ _ _ hi => hi)
    fun refused => ?_
  cases refused with
  | some result => exact Holds.pure fun _ _ hi => hi.2
  | none =>
    refine Holds.of_pre (fun _ _ hi => hi.1 rfl) fun hr => ?_
    obtain ⟨hhold, ⟨t, ht, hdue⟩, hdry, hdestructive, hallow, -⟩ := deleteRefused_none_iff.mp hr
    obtain rfl := readBack_aware ht
    obtain ⟨hrowHold, hresellerHold⟩ := Bool.or_eq_false_iff.mp hhold
    refine Holds.bind (Q := fun read s h => Informed now rows [(row.resellerId, r)] s h ∧
      ∀ live, read = some live → JustRead row.username live h)
      (Traced.call (fun _ _ _ _ _ he => by cases he) ?_ fun _ _ _ hi => hi.2.later) fun read => ?_
    · rintro s h _ ⟨-, hi⟩
      refine ⟨hi.later, ?_⟩
      rintro live rfl
      exact ⟨_, h, rfl⟩
    · cases read with
      | none => exact Holds.pure fun _ _ hi => hi.1
      | some live =>
        dsimp only
        by_cases hv : verifiedOwner live (some row.rebeccaAdminUsername) = true
        · by_cases he : exhausted live.expire live.dataLimit live.usedTraffic now = true
          · rw [if_neg (not_not.mpr hv), if_neg (not_not.mpr he)]
            obtain ⟨owner, hne, hlive, hown⟩ := verifiedOwner_iff.mp hv
            refine Holds.bind (Q := fun _ => Informed now rows [(row.resellerId, r)])
              (Traced.call ?_ (fun _ _ _ hi => hi.1.later) fun _ _ _ hi => hi.1.later) fun _ => ?_
            · rintro s h ⟨hi, hread⟩ why u hu
              cases hu
              exact ⟨⟨hdry, hdestructive, hallow⟩, live, owner, hread live rfl, hlive, hne, row,
                r, now, deadline, hi.rows row hrow, hi.known _ List.mem_cons_self, hi.clock, rfl,
                Option.some.inj hown, hrowHold, hresellerHold, hd, hdue, he⟩
            · refine Holds.bind (Q := fun _ => Informed now rows [(row.resellerId, r)])
                (Traced.call (fun _ _ _ _ _ he => by cases he) (fun _ _ _ hi => hi.later)
                  fun _ _ _ hi => hi.later) fun found => ?_
              cases found with
              | none => exact Holds.pure fun _ _ hi => hi
              | some _ => exact Holds.raise fun _ _ hi => hi
          · rw [if_neg (not_not.mpr hv), if_pos he]
            exact Holds.pure fun _ _ hi => hi.1
        · rw [if_pos hv]
          exact Holds.pure fun _ _ hi => hi.1

theorem informs_dueDeletion (zoned : Bool) (hrow : row ∈ rows) (ep : ℕ) :
    Informs cfg now rows [] (dueDeletion cfg zoned now ep row) := by
  refine Holds.bind (Q := fun _ => Informed now rows []) ?_ fun _ => ?_
  · refine Holds.bind (Q := fun _ => Informed now rows []) (Holds.state fun _ _ hi => hi)
      fun s => ?_
    exact Holds.ite (Holds.modify fun _ _ hi => hi.same rfl) (Holds.raise fun _ _ hi => hi)
  · refine Holds.bind (informs_getReseller _) fun found => ?_
    cases found with
    | none => exact Holds.pure fun _ _ hi => hi
    | some r =>
      dsimp only
      cases hd : row.deleteAfter with
      | none => exact Holds.raise fun _ _ hi => hi.forget
      | some deadline =>
        have hdelete : Informs cfg now rows [(row.resellerId, r)] (do
            warnDue r row (readBack zoned deadline) now
            let result ← safeDelete row.username row.rebeccaAdminUsername (readBack zoned deadline)
              now ⟨cfg.dryRun, cfg.destructiveActions, cfg.allowDeleteActions⟩
              (row.deletionHold || r.automationHold) false
            audit result.text result.text none
            finishDeletion r result) := by
          refine Holds.bind (informs_warnDue r row _) fun _ => ?_
          refine Holds.bind (informs_safeDelete hrow hd zoned false) fun result => ?_
          refine Holds.bind (Q := fun _ => Informed now rows [(row.resellerId, r)])
            (Holds.modify fun _ _ hi => hi.same rfl) fun _ => ?_
          exact informs_finishDeletion r result
        exact hdelete.conseq (fun _ _ hi => hi) (fun _ _ _ hi => hi.forget)
          fun _ _ _ hi => hi.forget

theorem dueDeletions_scheduling (zoned : Bool) :
    Safe (scheduling cfg) (dueDeletions cfg batchSize zoned) := by
  refine Holds.bind (Q := fun _ s _ => s.reseller = none) (Holds.modify fun _ _ _ => rfl)
    fun _ => ?_
  refine Holds.bind (Q := fun now s h => s.reseller = none ∧ (⟨.now, now⟩ : Reply Ev Resp) ∈ h)
    (Traced.ask (fun _ _ _ _ _ he => by cases he) fun _ _ _ hs => ⟨hs, List.mem_cons_self⟩)
    fun now => ?_
  refine Holds.bind (Holds.outcome (fun _ _ _ _ hs => hs) fun _ _ _ _ _ => trivial) fun until_ => ?_
  refine Holds.bind (Q := fun rows => Informed now rows []) ?_ fun rows => ?_
  · refine Traced.query passing_free ?_ ?_ ?_ (fun _ _ _ _ => trivial) fun _ _ _ _ => trivial
    · rintro s h ⟨hs, hm⟩
      exact ⟨by simp [Session.flushed, hs], hm⟩
    · rintro s h x ⟨hs, hm⟩ -
      exact ⟨hs, List.mem_cons_of_mem _ hm⟩
    · rintro s h rows ⟨hs, hm⟩
      refine ⟨List.mem_cons_of_mem _ hm, fun row hr => ⟨until_, _, rows, List.mem_cons_self, hr⟩,
        List.forall_mem_nil _, fun ob ho => ?_⟩
      rw [hs] at ho
      cases ho
  · refine Holds.bind (Q := fun _ => Informed now rows []) (Holds.bind
      (Q := fun _ => Informed now rows []) (Holds.state fun _ _ hi => hi)
      fun _ => Holds.pure fun _ _ hi => hi) fun ep => ?_
    refine (Holds.forEachRest (I := fun rest s h => (∀ row ∈ rest, row ∈ rows) ∧
      Informed now rows [] s h) (X := fun _ _ _ => True) ?_ rows).conseq
      (fun _ _ hi => ⟨fun _ hr => hr, hi⟩) (fun _ _ _ _ => trivial) fun _ _ _ _ => trivial
    rintro row rest s h ⟨hrest, hi⟩
    obtain ⟨hrow, hrest⟩ := List.forall_mem_cons.mp hrest
    have hone : Informs cfg now rows [] (dueDeletion cfg zoned now ep row) :=
      informs_dueDeletion zoned hrow ep
    refine (hone s h hi).mono ?_
    rintro ⟨e | _, s'⟩ h' hi'
    · trivial
    · exact ⟨hrest, hi'⟩

end Informed

/-! ## Every task -/

theorem lifecycle_authorised (zoned : Bool) :
    Ok (guarded (Authorised cfg .run)) (launch (lifecycle zoned cfg batchSize))
      (fun _ _ => True) [] := by
  refine Calm.launch (Calm.inSession (Calm.locked _ _ fun won => Safe.when fun _ => ?_)) _
  refine Sparing.syncResellers.bind fun _ => Sparing.syncUsers.bind fun _ => ?_
  refine (dueDeletions_scheduling zoned).bind fun _ => Sparing.reconcileOrders.bind fun _ => ?_
  exact (Calm.reconcilePlisio _ _).bind fun _ => Calm.commit

theorem prog_authorised (t : Task) :
    Ok (guarded (Authorised cfg t)) (t.prog cfg batchSize) (fun _ _ => True) [] := by
  cases t with
  | run => exact lifecycle_authorised false
  | reconcilePaidOrders => exact Calm.launch Sparing.reconcilePaidOrders _
  | runTrial => exact Calm.launch (Sparing.runTrial _ _) _
  | start => exact Calm.launch (Calm.start _ _) _
  | receipt => exact Calm.launch (Calm.receipt _ _ _) _
  | cardApprove => exact Calm.launch (Calm.ifOwner fun _ => Calm.approve _ _) _
  | cardReject => exact Calm.launch (Calm.cardReject _ _) _
  | orderApprove => exact Calm.launch (Calm.ifOwner fun _ => Calm.approve _ _) _
  | orderReject => exact Calm.launch (Calm.orderReject _ _) _
  | orderRetry => exact Calm.launch (Calm.orderRetry _ _) _
  | callback => exact Calm.launch (Calm.callback _) _
  | resellerDisable => exact Calm.launch (Sparing.resellerDisable _ _) _
  | resellerEnable => exact Calm.launch (Sparing.resellerEnable _ _) _
  | resellerStateDisable =>
    exact Calm.launch (Sparing.stateChange _ _ (Sparing.consoleDisable _)) _
  | resellerStateEnable =>
    exact Calm.launch (Sparing.stateChange _ _ (Sparing.enableReseller _)) _
  | resellerHold => exact Calm.launch (Calm.resellerHold _ _) _
  | userDeleteConfirm => exact Calm.launch userDeleteConfirm_guarded _

/-! ## What a deletion reports -/

/-- `DELETED` comes after the deletion and a read that has found nobody; any other result comes
without a mutating call. -/
def Reported (username : String) (result : DeleteResult) (h : Past) : Prop :=
  match result with
  | .DELETED => ∃ why why' before,
      h = ⟨.call why (.getUser username), .ok none⟩ ::
        ⟨.call why' (.deleteUser username), .ok ()⟩ :: before
  | _ => ∀ x ∈ h, ∀ why c, x.1 = .call why c → c.mutating = false

theorem safeDelete_reported (username owner : String) (deadline : Stamp) (now : Datetime)
    (policy : DeletePolicy) (hold locked : Bool) :
    Holds (Spec.traced fun _ _ => True) (fun _ h => h = [])
      (safeDelete username owner deadline now policy hold locked)
      (fun result _ h => Reported username result h) fun _ _ _ => True := by
  have refused : ∀ result h, (result ≠ .DELETED) →
      (∀ x ∈ h, ∀ why c, x.1 = .call why c → c.mutating = false) →
      Reported username result h := by
    intro result h hne hm
    cases result with
    | DELETED => exact absurd rfl hne
    | _ => exact hm
  refine Holds.bind (Q := fun first _ h => (∀ result, first = some result → result ≠ .DELETED) ∧
      h = []) (Holds.outcome ?_ fun _ _ _ _ _ => trivial) fun first => ?_
  · rintro _ hr s h hh
    refine ⟨?_, hh⟩
    rintro _ rfl rfl
    exact Bool.false_ne_true (isRefusal_of_deleteRefused hr)
  cases first with
  | some result =>
    refine Holds.pure ?_
    rintro s _ ⟨hne, rfl⟩
    exact refused result [] (hne result rfl) (List.forall_mem_nil _)
  | none =>
    refine Holds.bind (Q := fun _ _ h => ∀ x ∈ h, ∀ why c, x.1 = .call why c → c.mutating = false)
      (Traced.call (fun _ _ _ => trivial) ?_ fun _ _ _ _ => trivial) fun read => ?_
    · rintro s _ r ⟨-, rfl⟩ x hx why c he
      obtain rfl := List.mem_singleton.mp hx
      cases he
      rfl
    · cases read with
      | none => exact Holds.pure fun _ h hm => refused _ h (by decide) hm
      | some live =>
        refine Holds.ite (Holds.pure fun _ h hm => refused _ h (by decide) hm) ?_
        refine Holds.ite (Holds.pure fun _ h hm => refused _ h (by decide) hm) ?_
        refine Holds.bind (Q := fun _ _ h => ∃ why' before,
          h = ⟨.call why' (.deleteUser username), .ok ()⟩ :: before)
          (Traced.call (fun _ _ _ => trivial) (fun _ h _ _ => ⟨_, h, rfl⟩) fun _ _ _ _ => trivial)
          fun _ => ?_
        refine Holds.bind (Q := fun found _ h => ∃ why why' before,
          h = ⟨.call why (.getUser username), .ok found⟩ ::
            ⟨.call why' (.deleteUser username), .ok ()⟩ :: before)
          (Traced.call (fun _ _ _ => trivial) ?_ fun _ _ _ _ => trivial) fun found => ?_
        · rintro s _ found ⟨why', before, rfl⟩
          exact ⟨_, why', before, rfl⟩
        · cases found with
          | none => exact Holds.pure fun _ _ hm => hm
          | some _ => exact Holds.raise fun _ _ _ => trivial

/-- **Every deletion is authorised, and reported as it was.**  Whatever its requests have been
answered, a task deletes a user only with the switches on, right after a live read of that user
under the expected admin, and the scheduler only what is due, free of holds and exhausted, whether
or not the driver keeps the time zones of the deadlines. -/
theorem deletions_authorised (cfg : Settings) (batchSize : ℕ) :
    (∀ (t : Task) (h : Past) (why : Cause) (username : String),
      (t.prog cfg batchSize).Issues h (.call why (.deleteUser username)) →
        Authorised cfg t h username) ∧
    (∀ (zoned : Bool) (h : Past) (why : Cause) (username : String),
      (launch (lifecycle zoned cfg batchSize)).Issues h (.call why (.deleteUser username)) →
        Authorised cfg .run h username) ∧
    ∀ (Γ : Type) (react : (e : Ev) → Γ → Resp e × Γ) (γ : Γ) (s : Session) (username owner : String)
      (deadline : Stamp) (now : Datetime) (policy : DeletePolicy) (hold locked : Bool)
      (result : DeleteResult),
      (Act.run react s γ (safeDelete username owner deadline now policy hold locked)).1.1 =
          .ok result →
        Reported username result
          (Act.history react s γ (safeDelete username owner deadline now policy hold locked)) := by
  refine ⟨?_, ?_, ?_⟩
  · intro t h why username hi
    have := (prog_authorised t).issues hi why username rfl
    rwa [List.append_nil] at this
  · intro zoned h why username hi
    have := (lifecycle_authorised zoned).issues hi why username rfl
    rwa [List.append_nil] at this
  · intro Γ react γ s username owner deadline now policy hold locked result hr
    have hrun := (safeDelete_reported username owner deadline now policy hold locked).history
      react γ (s := s) rfl
    rcases hm : Act.run react s γ (safeDelete username owner deadline now policy hold locked) with
      ⟨⟨res, s'⟩, γ'⟩
    rw [hm] at hrun hr
    obtain rfl : res = .ok result := hr
    exact hrun

/-- A live user of the admin `shop`. -/
def liveBob : User := ⟨"bob", some "shop", "active", none, none, true, 0⟩

def deletingSettings : Settings where
  botToken := "token"
  ownerIds := [7]
  rebeccaBearerToken := "bearer"
  dryRun := false
  destructiveActions := true
  allowDisableActions := true
  allowDeleteActions := true
  userDeleteGraceHours := 72
  trialDurationHours := 24
  trialTrafficGb := 10
  timeWarningThresholds := [7, 3, 1]
  trafficWarningThresholds := [20, 10, 5]
  plisioEnabled := false
  plisioSecretKey := ""
  plisioSourceCurrency := "USD"

/-- The owner 7 deletes `bob`, who is read just before. -/
theorem deletions_authorised_bob :
    Authorised deletingSettings (.userDeleteConfirm 7 "shop" "bob")
      [⟨.call .user (.getUser "bob"), .ok (some liveBob)⟩] "bob" := by
  obtain ⟨k, k', hprog, hk⟩ : ∃ k k', Task.prog deletingSettings 50
        (.userDeleteConfirm 7 "shop" "bob") = .ask (.call .user (.getUser "bob")) k ∧
      k (.ok (some liveBob)) = .ask (.call .user (.deleteUser "bob")) k' := ⟨_, _, rfl, rfl⟩
  have hissues : (Task.prog deletingSettings 50 (.userDeleteConfirm 7 "shop" "bob")).Issues
      ([] ++ [⟨.call .user (.getUser "bob"), .ok (some liveBob)⟩])
      (.call .user (.deleteUser "bob")) := by
    rw [hprog]
    refine .later _ _ _ ?_
    rw [hk]
    exact .here _ _
  exact (deletions_authorised deletingSettings 50).1 _ _ _ _ hissues

end ResellerBot
