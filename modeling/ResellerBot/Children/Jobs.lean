import ResellerBot.Children.Flags
import ResellerBot.Scheduler.Jobs

/-!
# ResellerBot.Children.Jobs — the jobs that leave the flags of children alone
-/

open Interact

namespace ResellerBot

namespace Watch.Kept

variable {β : Type} {W : Watch β} {i : ℕ} {val : Bool → String → Prop} {cfg : Settings}
  {batchSize : ℕ}

/-! ## Locks, messages and settings -/

theorem acquire [hW : W.OfRows] (key : String) (ttl : ℤ) : W.Kept (acquire key ttl) := by
  refine now.bind fun _ => (execute (hW.spares rfl rfl) rfl).bind fun _ => (outcome _).bind
    fun _ => ?_
  refine (add (hW.spares rfl rfl)).bind fun _ => flush.attempt.bind fun r => ?_
  cases r with
  | ok _ => exact pure _
  | error e => exact ite (rollback.bind fun _ => pure _) (raise _)

theorem release [hW : W.OfRows] (key : String) : W.Kept (release key) :=
  (execute (hW.spares rfl rfl) rfl).bind fun _ => pure _

theorem locked [W.OfRows] (key : String) (ttl : ℤ) {body : Bool → Bot Unit}
    (h : ∀ won, W.Kept (body won)) : W.Kept (locked key ttl body) := by
  refine (acquire key ttl).bind fun won => (h won).attempt.bind fun r => ?_
  exact (when (release key)).bind fun _ => outcome r

theorem notify (chat : ℤ) : W.Kept (notify chat) := by
  refine (sendMessage chat).attempt.bind fun r => ?_
  cases r with
  | ok _ => exact pure _
  | error e => exact pure _

theorem notifyOwners (ownerIds : List ℤ) : W.Kept (notifyOwners ownerIds) :=
  forEach (fun _ => (notify _).bind fun _ => pure _) _

theorem sendMessages (chats : List ℤ) : W.Kept (Act.forEach ResellerBot.sendMessage chats) :=
  forEach (fun _ => sendMessage _) _

theorem value (key : String) (default : SettingValue) :
    W.Kept (RuntimeSettings.value key default) := (query _).bind fun _ => pure _

theorem graceHours : W.Kept (RuntimeSettings.graceHours cfg) :=
  (value _ _).bind fun _ => (outcome _).bind fun _ => ite (pure _) (raise _)

theorem positive (key : String) (default : ℤ) : W.Kept (RuntimeSettings.positive key default) :=
  (value _ _).bind fun _ => (outcome _).bind fun _ => ite (pure _) (raise _)

theorem timeThresholds : W.Kept (RuntimeSettings.timeThresholds cfg) :=
  (value _ _).bind fun _ => outcome _

theorem trafficThresholds : W.Kept (RuntimeSettings.trafficThresholds cfg) :=
  (value _ _).bind fun _ => (outcome _).bind fun _ => ite (raise _) (pure _)

theorem customerPanelUrl : W.Kept RuntimeSettings.customerPanelUrl := by
  refine (query (.setting "customer_panel_url")).bind fun v => ?_
  cases v with
  | none => exact pure _
  | some v =>
    dsimp only
    -- the text itself is not to be evaluated
    generalize String.ofList (strip isSpace v.str.toList) = url
    exact ite (pure _) (ite (pure _) (raise _))

theorem operationsMode : W.Kept (RuntimeSettings.operationsMode cfg) := by
  refine (query (.setting "operations_mode")).bind fun v => ?_
  split
  · exact pure _
  · exact ite (pure _) (raise _)
  · exact raise _
  · exact raise _

theorem isDryRun : W.Kept (RuntimeSettings.isDryRun cfg) := operationsMode.bind fun _ => pure _

/-! ## Warnings -/

theorem notifyOnce [hW : W.OfUsers] (chat : ℤ) (e : WarningEvent) :
    W.Kept (notifyOnce chat e) :=
  (query _).bind fun _ => ite (pure _) ((notify _).bind fun _ => when (add (hW.spares rfl)))

theorem warnReseller [W.OfUsers] (chat : ℤ) (live : Admin) (kind : String) (threshold : Option ℤ) :
    W.Kept (warnReseller chat live kind threshold) := by
  cases threshold with
  | none => exact pure _
  | some _ => exact notifyOnce _ _

theorem warnAboutEntitlement [W.OfUsers] (chat : ℤ) (live : Admin) (now : Datetime)
    (times traffics : List ℤ) : W.Kept (warnAboutEntitlement chat live now times traffics) :=
  (warnReseller _ _ _ _).bind fun _ => warnReseller _ _ _ _

/-! ## Users and deletions -/

theorem clearDeletion : (Watch.flags i val).Kept clearDeletion :=
  (assignUser (by intro; rfl)).bind fun _ => audit _ _ _

theorem disableVerified (username : String) : (Watch.flags i val).Kept (disableVerified username) :=
  (call _ _).bind fun _ => (call _ _).bind fun _ => pure _

theorem enableVerified (username : String) : (Watch.flags i val).Kept (enableVerified username) :=
  (call _ _).bind fun _ => (call _ _).bind fun _ => pure _

theorem announceDeletion (chat : ℤ) : (Watch.flags i val).Kept (announceDeletion chat) :=
  (audit _ _ _).bind fun _ => (notify _).bind fun _ => pure _

theorem scheduleDeletion (reseller : Reseller) (live : User) (now : Datetime) (graceHours : ℤ) :
    (Watch.flags i val).Kept (scheduleDeletion cfg reseller live now graceHours) := by
  refine (assignUser (by intro; rfl)).bind fun _ => (outcome _).bind fun _ => ?_
  refine (assignUser (by intro; rfl)).bind fun _ => ite ?_ (announceDeletion _)
  refine (disableVerified _).bind fun verified => ite ?_ (audit _ _ _)
  exact (assignUser (by intro; rfl)).bind fun _ => announceDeletion _

theorem cancelDeletion (reseller : Reseller) (live : User) (cached : ResellerUserCache) :
    (Watch.flags i val).Kept (cancelDeletion cfg reseller live cached) :=
  ite ((enableVerified _).bind fun _ => ite clearDeletion (audit _ _ _)) clearDeletion

theorem loadCached (reseller : Reseller) (live : User) :
    (Watch.flags i val).Kept (loadCached reseller live) := by
  refine (load Slot.user (query _)).bind fun r => ?_
  cases r with
  | some _ => exact pure ()
  | none =>
    refine hold Slot.user fun st hst => ?_
    rw [List.mem_singleton.mp hst]
    rfl

theorem syncUser (reseller : Reseller) (now : Datetime) (graceHours : ℤ) (live : User) :
    (Watch.flags i val).Kept (syncUser cfg reseller now graceHours live) := by
  refine ite (pure ()) ((loadCached _ _).bind fun _ =>
    (assignUser (by intro; rfl)).bind fun _ => ?_)
  refine (read Slot.user).bind fun cached => ite ?_ ?_
  · exact when (scheduleDeletion _ _ _ _)
  · exact when (cancelDeletion _ _ _)

theorem syncUsersOf (now : Datetime) (graceHours : ℤ) (ep : ℕ) (row : Reseller) :
    (Watch.flags i val).Kept (syncUsersOf cfg batchSize now graceHours ep row) := by
  refine (holdLoaded Slot.reseller ep row).bind fun _ => ite (pure ()) ?_
  refine (call _ _).attempt.bind fun r => ?_
  cases r with
  | error _ => exact pure ()
  | ok users => exact forEach (fun live => syncUser _ _ _ live) _

/-- The users of the resellers that have been read. -/
theorem syncUsersOfAll (rows : List Reseller) : (Watch.flags i val).Kept (do
    let ep ← epoch
    let now ← ResellerBot.now
    let graceHours ← RuntimeSettings.graceHours cfg
    Act.forEach (ResellerBot.syncUsersOf cfg batchSize now graceHours ep) rows) :=
  (state fun _ => pure _).bind fun _ => now.bind fun _ => graceHours.bind fun _ =>
    forEach (fun row => syncUsersOf _ _ _ row) rows

theorem warnDue (reseller : Reseller) (cached : ResellerUserCache) (deadline : Stamp)
    (now : Datetime) : (Watch.flags i val).Kept (warnDue reseller cached deadline now) := by
  refine (outcome _).bind fun left => ?_
  exact ite ((notify _).bind fun _ => ite (assignUser (by intro; rfl)) (pure ())) (pure ())

theorem safeDelete (username owner : String) (deleteAfter : Stamp) (now : Datetime)
    (policy : DeletePolicy) (hold locked : Bool) :
    (Watch.flags i val).Kept (safeDelete username owner deleteAfter now policy hold locked) := by
  refine (outcome _).bind fun refused => ?_
  cases refused with
  | some result => exact pure result
  | none =>
    refine (call .user (.getUser username)).bind fun found => ?_
    cases found with
    | none => exact pure _
    | some live =>
      refine ite (pure _) (ite (pure _) ((call _ _).bind fun _ => ?_))
      refine (call .user (.getUser username)).bind fun left => ?_
      cases left with
      | none => exact pure _
      | some _ => exact raise _

theorem finishDeletion (reseller : Reseller) (result : DeleteResult) :
    (Watch.flags i val).Kept (finishDeletion reseller result) := by
  cases result with
  | DELETED => exact (assignUser (by intro; rfl)).bind fun _ => (notify _).bind fun _ => pure ()
  | _ => exact pure ()

theorem dueDeletion (zoned : Bool) (now : Datetime) (ep : ℕ) (row : ResellerUserCache) :
    (Watch.flags i val).Kept (dueDeletion cfg zoned now ep row) := by
  refine (holdLoaded Slot.user ep row).bind fun _ => ?_
  refine (getByKey Slot.reseller _ _ (query _)).bind fun r => ?_
  cases r with
  | none => exact pure ()
  | some reseller =>
    dsimp only
    cases row.deleteAfter with
    | none => exact raise _
    | some deadline =>
      refine (warnDue reseller row (readBack zoned deadline) now).bind fun _ => ?_
      refine (safeDelete _ _ _ _ _ _ _).bind fun _ => ?_
      exact (audit _ _ _).bind fun _ => finishDeletion _ _

theorem dueDeletions (zoned : Bool) :
    (Watch.flags i val).Kept (dueDeletions cfg batchSize zoned) := by
  refine (forget Slot.reseller).bind fun _ => now.bind fun now => (outcome _).bind fun t => ?_
  refine (query (.usersDue t batchSize)).bind fun rows => (state fun _ => pure _).bind fun ep => ?_
  exact forEach (fun row => dueDeletion _ _ _ row) rows

/-! ## Orders -/

theorem drawCandidate (name : Option String) : W.Kept (drawCandidate name) :=
  (tick (fun _ _ => rfl) fun _ _ _ => rfl).bind fun _ => pure _

theorem generatePassword (forbidden : List String) : W.Kept (generatePassword forbidden) :=
  tick (fun _ _ => rfl) fun _ _ _ => rfl

theorem tryCandidate (name : Option String) : (Watch.flags i val).Kept (tryCandidate name) := by
  refine (drawCandidate name).bind fun _ => (query _).bind fun taken => ite (pure _)
    ((call _ _).bind fun live => ?_)
  cases live with
  | none => exact pure _
  | some _ => exact pure _

theorem reserveUsername : (Watch.flags i val).Kept reserveUsername := by
  refine (read Slot.reseller).bind fun _ => bind ?_ fun _ => ?_
  · refine (searchFor (tryCandidate _) 100).bind fun r => ?_
    cases r with
    | some _ => exact pure _
    | none => exact raise _
  · refine (assignReseller _).bind fun _ => (assignOrder _).bind fun _ => now.bind fun _ => ?_
    refine (read Slot.product).bind fun _ => (outcome _).bind fun _ => ?_
    exact (assignOrder _).bind fun _ => commit

theorem disableUnsafe (why : Cause) (username : Option String) :
    (Watch.flags i val).Kept (disableUnsafe why username) :=
  (call _ _).attempt.bind fun _ => pure _

theorem provision (why : Cause) (username : Option String) (password : String)
    (want : Entitlement) (telegramId : Option ℤ) :
    (Watch.flags i val).Kept (provision why username password want telegramId) := by
  refine (call _ _).bind fun live => bind ?_ fun _ => (call _ _).bind fun live => ?_
  · cases live with
    | none => exact call _ _
    | some _ => exact ite ((disableUnsafe _ _).bind fun _ => raise _) (call _ _)
  · unfold verifyAdmin
    cases verifyEntitlement live username want with
    | ok _ => exact pure _
    | error e => exact ite ((disableUnsafe _ _).bind fun _ => raise _) (raise _)

theorem finishProvisioning (username : String) :
    (Watch.flags i val).Kept (finishProvisioning username) := by
  refine (read Slot.product).bind fun _ => (assignReseller _).bind fun _ => ?_
  refine (assignOrder _).bind fun _ => now.bind fun _ => (assignOrder _).bind fun _ => ?_
  refine (call _ _).bind fun live => ?_
  cases live with
  | none => exact raise _
  | some _ => exact (read Slot.order).bind fun _ => (assignOrder _).bind fun _ => audit _ _ _

theorem provisionOrder : (Watch.flags i val).Kept (provisionOrder cfg) := by
  refine (read Slot.order).bind fun order => (read Slot.reseller).bind fun reseller => ?_
  split
  · exact raise _
  · exact raise _
  · refine (generatePassword _).bind fun _ => ite (raise _) ?_
    refine (provision _ _ _ _ _).bind fun _ => (assignOrder _).bind fun _ => commit.bind fun _ => ?_
    refine customerPanelUrl.bind fun _ => (notify _).bind fun _ => ite ?_ (raise _)
    exact finishProvisioning _

theorem failOrder {α : Type} (e : Err) : (Watch.flags i val).Kept (failOrder e : Bot α) :=
  (assignOrder _).bind fun _ => raise _

theorem performTarget (live : Admin) (target : Snapshot) (t : Datetime) :
    (Watch.flags i val).Kept (performTarget live target t) := by
  refine (read Slot.order).bind fun order => (read Slot.reseller).bind fun reseller => ?_
  refine ite (raise _) (bind (attempt ?_) fun r => ?_)
  · exact (call _ _).bind fun _ => when (call _ _)
  · cases r with
    | error e => exact failOrder _
    | ok _ =>
      refine (call _ _).bind fun verified => ite ?_ (failOrder _)
      refine (assignReseller _).bind fun _ => (read Slot.product).bind fun _ => ?_
      exact (assignReseller _).bind fun _ => (assignOrder _).bind fun _ => pure _

theorem applyLive (order : Order) (live : Admin) (t : Datetime) {m : Bot Unit}
    (hm : (Watch.flags i val).Kept m) :
    (Watch.flags i val).Kept (applyLive order live t m) := by
  unfold ResellerBot.applyLive
  cases order.target with
  | none =>
    refine (read Slot.product).bind fun _ => (outcome _).bind fun _ => ?_
    exact (assignOrder _).bind fun _ => hm.bind fun _ => performTarget _ _ _
  | some target =>
    dsimp only
    cases order.beforeSnapshot with
    | none => exact failOrder _
    | some before =>
      refine ite ?_ (ite (performTarget _ _ _) (failOrder _))
      exact (assignOrder _).bind fun _ => (assignReseller _).bind fun _ => pure _

theorem applyOrder (t : Datetime) {m : Bot Unit} (hm : (Watch.flags i val).Kept m) :
    (Watch.flags i val).Kept (applyOrder t m) := by
  have hlocked : (Watch.flags i val).Kept (applyOrderLocked t m) := by
    refine (read Slot.order).bind fun _ => ite (pure _) ?_
    refine (read Slot.reseller).bind fun _ => ite (pure _) ((call _ _).bind fun live => ?_)
    cases live with
    | none => exact raise _
    | some live => exact applyLive _ _ _ hm
  refine (read Slot.order).bind fun _ => (lock _).bind fun _ => ?_
  exact hlocked.attempt.bind fun _ => (unlock _).bind fun _ => outcome _

theorem reconcileOrder : (Watch.flags i val).Kept (reconcileOrder cfg) := by
  refine (read Slot.order).bind fun order => ?_
  refine (getByKey Slot.reseller _ _ (query _)).bind fun reseller => ?_
  refine (getByKey Slot.product _ _ (query _)).bind fun product => ite (audit _ _ _) ?_
  refine isDryRun.bind fun dry => ite (audit _ _ _) (bind (attempt ?_) fun r => ?_)
  · refine (read Slot.reseller).bind fun _ => (when reserveUsername).bind fun _ => ?_
    refine (read Slot.reseller).bind fun _ => ite (provisionOrder.bind fun _ => pure _) ?_
    exact now.bind fun _ => (applyOrder _ commit).bind fun _ => pure _
  · match r with
    | .error _ => exact (read Slot.order).bind fun _ => (audit _ _ _).bind fun _ => notifyOwners _
    | .ok (some true) =>
      refine (read Slot.order).bind fun _ => (read Slot.reseller).bind fun _ => ?_
      exact (audit _ _ _).bind fun _ => (notify _).bind fun _ => pure _
    | .ok (some false) => exact pure _
    | .ok none => exact pure _

theorem reconcileOrders : (Watch.flags i val).Kept (reconcileOrders cfg batchSize) := by
  refine locked _ _ fun won => when ?_
  refine (forget Slot.reseller).bind fun _ => (forget Slot.product).bind fun _ => ?_
  refine (query (.openOrders batchSize)).bind fun rows => (state fun _ => pure _).bind fun ep => ?_
  refine forEach (fun row => (holdLoaded Slot.order ep row).bind fun _ => ?_) rows
  exact locked _ _ fun won => when reconcileOrder

theorem reconcilePlisio : (Watch.flags i val).Kept (reconcilePlisio cfg batchSize) := by
  refine ite (pure _) ((query _).bind fun rows => (state fun _ => pure _).bind fun ep => ?_)
  refine forEach (fun row => ?_) rows
  refine (holdLoaded Slot.order _ _).bind fun _ => (holdLoaded Slot.payment _ _).bind fun _ => ?_
  split
  · exact pure _
  · exact pure _
  · refine (tick (fun _ _ => rfl) fun _ _ _ => rfl).bind fun remote => ?_
    cases remote with
    | error _ => exact audit _ _ _
    | ok _ =>
      refine (outcome _).bind fun _ => ite ((assignPayment _).bind fun _ => ite ?_ (pure _))
        (audit _ _ _)
      exact (assignOrder _).bind fun _ => now.bind fun _ => (assignOrder _).bind fun _ =>
        audit _ _ _

end Watch.Kept

end ResellerBot
