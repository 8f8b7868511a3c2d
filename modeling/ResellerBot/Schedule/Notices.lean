import ResellerBot.Schedule.Silence

/-!
# ResellerBot.Schedule.Notices — what a pass over the resellers tells them

A whole pass of `_sync_resellers`, on any tables and with any answers: what it leaves in the table
of warnings is what was there and what it has told.
-/

open Interact

namespace ResellerBot

/-! ## The warnings of a visit -/

/-- The warnings of `es` that the table has not, when it gains each of them. -/
def news (W : List WarningEvent) : List WarningEvent → List WarningEvent
  | [] => []
  | e :: es => if e ∈ W then news W es else e :: news (W ++ [e]) es

section News

variable {W W' es : List WarningEvent} {e : WarningEvent}

theorem news_append (W es es' : List WarningEvent) :
    news W (es ++ es') = news W es ++ news (W ++ news W es) es' := by
  induction es generalizing W with
  | nil => rw [List.nil_append, news, List.nil_append, List.append_nil]
  | cons e es ih =>
    rw [List.cons_append, news, news]
    split_ifs
    · exact ih W
    · rw [ih, List.cons_append, List.append_assoc W [e], List.singleton_append]

theorem mem_news : e ∈ news W es ↔ e ∈ es ∧ e ∉ W := by
  induction es generalizing W with
  | nil => simp [news]
  | cons e' es ih =>
    rw [news]
    split_ifs with h
    · rw [ih, List.mem_cons]
      constructor
      · exact fun h => ⟨.inr h.1, h.2⟩
      · rintro ⟨rfl | hmem, hn⟩
        · exact absurd h hn
        · exact ⟨hmem, hn⟩
    · rw [List.mem_cons, ih, List.mem_cons, List.mem_append, List.mem_singleton]
      by_cases he : e = e'
      · simp [he, h]
      · simp [he]

/-- Only the warnings in question matter. -/
theorem news_congr (h : ∀ e ∈ es, e ∈ W ↔ e ∈ W') : news W es = news W' es := by
  induction es generalizing W W' with
  | nil => rfl
  | cons e es ih =>
    rw [List.forall_mem_cons] at h
    have hrest : news (W ++ [e]) es = news (W' ++ [e]) es := by
      refine ih fun e' he' => ?_
      rw [List.mem_append, List.mem_append, h.2 e' he']
    rw [news, news, ih h.2, hrest]
    simp only [h.1]

end News

/-- The row of a warning. -/
def warningOf (live : Admin) (kind : String) (threshold : ℤ) : WarningEvent :=
  ⟨"reseller", live.username, kind ++ toString threshold, entitlementKey live⟩

/-- The warnings that a visit is about. -/
def wanted (live : Admin) (now : Datetime) (times traffics : List ℤ) : List WarningEvent :=
  ((live.expire.bind fun e => times.find? (timeWarning e now)).map (warningOf live "TIME_")).toList
    ++
    ((live.dataLimit.bind fun l => if 0 < l then traffics.find? (trafficWarning l live.usedTraffic)
      else none).map (warningOf live "TRAFFIC_")).toList

/-- What a visit tells when the table is `W`: nothing if the admin could not be read. -/
def visitNews (W : List WarningEvent) (now : Datetime) (times traffics : List ℤ) :
    Option Admin → List WarningEvent
  | none => []
  | some live => news W (wanted live now times traffics)

theorem wanted_target {live : Admin} {now : Datetime} {times traffics : List ℤ} {e : WarningEvent}
    (h : e ∈ wanted live now times traffics) : e.targetIdentifier = live.username := by
  rw [wanted, List.mem_append, Option.mem_toList, Option.mem_toList] at h
  obtain h | h := h <;> obtain ⟨t, -, rfl⟩ := Option.mem_map.mp h <;> rfl

section Visit

open Act (Holds)

variable {o : Remote} {T₀ : Tables} {name : String} {W S : List WarningEvent} {R : Option Admin}
  {cfg : Settings} {live : Admin} {now : Datetime} {times traffics : List ℤ} {row : Reseller}
  {X : Err → Session → Ledger × Past → Prop}

/-- Every message is delivered. -/
def Remote.Delivers (o : Remote) : Prop := ∀ asked, o.deliver asked = .ok ()

/-- An admin is answered under the name that was asked for. -/
def Remote.Fits (o : Remote) : Prop := ∀ asked username live,
  o.answer asked (.getAdmin username) = .ok (some live) → username = some live.username

/-- The warning is missing in the table. -/
structure Unwarned (T₀ : Tables) (name : String) (W S : List WarningEvent) (R : Option Admin)
    (e : WarningEvent) (s : Session) (v : Ledger × Past) : Prop where
  session : Flushable T₀ W s v.1.tables
  told : told v.2 = S
  asking : asking v.2 = some e
  reading : reading name v.2 = R

theorem holds_query_warning (e : WarningEvent) :
    Holds (Spec.exact (logging o.react)) (Amid T₀ name W S R) (query (.warning e))
      (fun sent s v => (sent = true ∧ e ∈ W ∧ Amid T₀ name W S R s v) ∨
        (sent = false ∧ e ∉ W ∧ Unwarned T₀ name W S R e s v)) X := by
  refine Plain.holds_flush.bind fun _ => ?_
  refine Holds.bind (Q := fun r s v => (r = .ok true ∧ e ∈ W ∧ Amid T₀ name W S R s v) ∨
    (r = .ok false ∧ e ∉ W ∧ Unwarned T₀ name W S R e s v)) ?_ fun r => ?_
  · refine Holds.request (fun _ _ _ => trivial) fun s v r v' h hn => ?_
    obtain ⟨rfl, rfl⟩ := Prod.mk.inj (show logging o.react (.query (.warning e)) v = (r, v') from
      hn)
    have hread : reading name (⟨.query (.warning e), (o.react (.query (.warning e)) v.1).1⟩ :: v.2) =
        reading name v.2 := reading_of_not_shown rfl
    have hreact : (o.react (.query (.warning e)) v.1).1 = .ok (W.any (· = e)) := by
      rw [← h.warnings]
      rfl
    have hmem : W.any (· = e) = true ↔ e ∈ W := by simp
    by_cases hW : e ∈ W
    · refine .inl ⟨?_, hW, h.session, h.told, ?_, hread.trans h.reading⟩
      · exact hreact.trans (congrArg _ (hmem.mpr hW))
      · show asking (⟨_, (o.react (.query (.warning e)) v.1).1⟩ :: v.2) = none
        rw [hreact, hmem.mpr hW]
        rfl
    · have hfalse : W.any (· = e) = false := Bool.eq_false_iff.mpr fun h => hW (hmem.mp h)
      refine .inr ⟨?_, hW, h.session, h.told, ?_, hread.trans h.reading⟩
      · exact hreact.trans (congrArg _ hfalse)
      · show asking (⟨_, (o.react (.query (.warning e)) v.1).1⟩ :: v.2) = some e
        rw [hreact, hfalse]
        rfl
  · refine Holds.outcome (fun sent hsent s v h => ?_) fun err herr s v h => ?_
    · rw [hsent] at h
      exact h.imp (fun h => ⟨Except.ok.inj h.1, h.2⟩) fun h => ⟨Except.ok.inj h.1, h.2⟩
    · rw [herr] at h
      obtain ⟨⟨⟩, -⟩ | ⟨⟨⟩, -⟩ := h

/-- The message about a missing warning. -/
theorem holds_notify_missing (hd : o.Delivers) (chat : ℤ) (e : WarningEvent) :
    Holds (Spec.exact (logging o.react)) (Unwarned T₀ name W S R e) (notify chat)
      (fun delivered s v => delivered = true ∧ Amid T₀ name W (S ++ [e]) R s v) X := by
  have hsend : Holds (Spec.exact (logging o.react)) (Unwarned T₀ name W S R e) (sendMessage chat)
      (fun _ => Amid T₀ name W (S ++ [e]) R) fun _ _ _ => False := by
    refine Holds.bind (Q := fun r s v => r = .ok () ∧ Amid T₀ name W (S ++ [e]) R s v) ?_ fun r =>
      ?_
    · refine Holds.request (fun _ _ _ => trivial) fun s v r v' h hn => ?_
      obtain ⟨rfl, rfl⟩ := Prod.mk.inj (show logging o.react (.send chat) v = (r, v') from hn)
      have hreact : o.react (.send chat) v.1 = (.ok (), v.1) := congrArg (·, v.1) (hd v.1.asked)
      rw [hreact]
      refine ⟨rfl, h.session, ?_, rfl, (reading_of_not_shown rfl).trans h.reading⟩
      rw [told_send, h.told, h.asking]
      rfl
    · refine Holds.outcome (fun _ _ _ _ h => h.2) fun err herr s v h => ?_
      rw [herr] at h
      cases h.1
  refine (Holds.attempt hsend).bind fun r => ?_
  cases r with
  | ok _ => exact Holds.pure fun _ _ h => ⟨rfl, h⟩
  | error err => exact Holds.vacuous fun _ _ h => h

/-- **A warning is told and recorded, unless it has been.** -/
theorem holds_notifyOnce (hd : o.Delivers) (chat : ℤ) (e : WarningEvent) :
    Holds (Spec.exact (logging o.react)) (Amid T₀ name W S R) (notifyOnce chat e)
      (fun _ => Amid T₀ name (W ++ news W [e]) (S ++ news W [e]) R) X := by
  have hnews : news W [e] = if e ∈ W then [] else [e] := rfl
  refine (holds_query_warning e).bind fun sent => ?_
  cases sent with
  | true =>
    refine Holds.pure fun s v h => ?_
    obtain ⟨-, hmem, h⟩ | ⟨⟨⟩, -⟩ := h
    rw [hnews, if_pos hmem, List.append_nil, List.append_nil]
    exact h
  | false =>
    refine Holds.pre (Holds.fact (p := e ∉ W) (P := Unwarned T₀ name W S R e) fun hmem => ?_) ?_
    · rw [hnews, if_neg hmem]
      refine (holds_notify_missing hd chat e).bind fun delivered => Holds.fact fun ht => ?_
      rw [ht]
      refine Holds.modify fun s v h => ⟨h.session.add fun T' hw hr => ?_, h.told, h.asking,
        h.reading⟩
      refine ⟨{ T' with warnings := T'.warnings ++ [e] }, 1, ?_, by rw [← hw], hr.trans ⟨rfl, rfl⟩⟩
      rw [Stmt.exec, hw, if_neg (by simpa using hmem)]
    · rintro s v (⟨⟨⟩, -⟩ | ⟨-, h⟩)
      exact h

theorem holds_warnReseller (hd : o.Delivers) (chat : ℤ) (kind : String) (threshold : Option ℤ) :
    Holds (Spec.exact (logging o.react)) (Amid T₀ name W S R)
      (warnReseller chat live kind threshold)
      (fun _ => Amid T₀ name (W ++ news W (threshold.map (warningOf live kind)).toList)
        (S ++ news W (threshold.map (warningOf live kind)).toList) R) X := by
  cases threshold with
  | none =>
    refine Holds.pure fun s v h => ?_
    simpa [news] using h
  | some t => exact holds_notifyOnce hd chat (warningOf live kind t)

/-- **The warnings of a visit are told and recorded, unless they have been.** -/
theorem holds_warnAboutEntitlement (hd : o.Delivers) (chat : ℤ) :
    Holds (Spec.exact (logging o.react)) (Amid T₀ name W S R)
      (warnAboutEntitlement chat live now times traffics)
      (fun _ => Amid T₀ name (W ++ news W (wanted live now times traffics))
        (S ++ news W (wanted live now times traffics)) R) X := by
  refine (holds_warnReseller hd chat _ _).bind fun _ => ?_
  refine (holds_warnReseller hd chat _ _).post fun _ s v h => ?_
  rw [wanted, news_append, ← List.append_assoc, ← List.append_assoc]
  exact h

theorem shown_getAdmin (why : Cause) (username : Option String)
    (r : Except Err (Option Admin)) : shown name ⟨.call why (.getAdmin username), r⟩ =
      if username = some name then r.toOption.join else none := by
  cases r with
  | error e => exact (ite_self none).symm
  | ok live => rfl

/-- The read of an admin at the beginning of a visit. -/
theorem holds_attempt_getAdmin (hf : o.Fits) (username : Option String) :
    Holds (Spec.exact (logging o.react)) (Amid T₀ name W S R) (Act.attempt (getAdmin username))
      (fun r s v => (∀ live, r = .ok (some live) → username = some live.username) ∧
        Amid T₀ name W S (R.or (if username = some name then r.toOption.join else none)) s v)
          X := by
  have hread : Holds (Spec.exact (logging o.react)) (Amid T₀ name W S R) (getAdmin username)
      (fun live s v => (∀ l, live = some l → username = some l.username) ∧
        Amid T₀ name W S (R.or (if username = some name then live else none)) s v)
      fun _ => Amid T₀ name W S R := by
    refine Holds.bind (Q := fun r s v =>
      (∀ live, r = .ok (some live) → username = some live.username) ∧
        Amid T₀ name W S (R.or (if username = some name then r.toOption.join else none)) s v) ?_
      fun r => Holds.outcome (fun live hr s v h => ?_) fun e hr s v h => ?_
    · refine Holds.request (fun _ _ _ => trivial) fun s v r v' h hn => ?_
      obtain ⟨rfl, rfl⟩ := Prod.mk.inj
        (show logging o.react (.call .lookup (.getAdmin username)) v = (r, v') from hn)
      refine ⟨fun live => hf v.1.asked username live, h.session, h.told, rfl, ?_⟩
      rw [← h.reading, ← shown_getAdmin]
      rfl
    · rw [hr] at h
      exact ⟨fun l hl => h.1 l (congrArg _ hl), h.2⟩
    · rw [hr] at h
      have hamid : Amid T₀ name W S (R.or (if username = some name then none else none)) s v := h.2
      rwa [ite_self, Option.or_none] at hamid
  refine (Holds.attempt hread).post fun r s v h => ?_
  cases r with
  | ok live => exact ⟨fun l hl => h.1 l (Except.ok.inj hl), h.2⟩
  | error e =>
    refine ⟨by rintro l ⟨⟩, ?_⟩
    show Amid T₀ name W S (R.or (if username = some name then none else none)) s v
    rwa [ite_self, Option.or_none]

/-- What the visit to `row` tells, and what it has read under the name, which had not been read
before if it is the name of `row`. -/
structure VisitTells (name : String) (now : Datetime) (times traffics : List ℤ) (row : Reseller)
    (W : List WarningEvent) (R : Option Admin) (N : List WarningEvent) (R' : Option Admin) :
    Prop where
  other : row.rebeccaAdminUsername ≠ some name →
    R' = R ∧ ∀ e ∈ N, e.targetIdentifier ≠ name
  self : row.rebeccaAdminUsername = some name → N = visitNews W now times traffics R' ∧
    ∀ live, R' = some live → live.username = name

/-- Without an admin there is nothing to tell. -/
theorem VisitTells.nothing (hR : row.rebeccaAdminUsername = some name → R = none) :
    VisitTells name now times traffics row W R [] R := by
  refine ⟨fun _ => ⟨rfl, List.forall_mem_nil _⟩, fun h => ?_⟩
  rw [hR h]
  exact ⟨rfl, by rintro _ ⟨⟩⟩

/-- The admin of the row is told of what it wants and has not been told. -/
theorem VisitTells.read (hR : row.rebeccaAdminUsername = some name → R = none)
    (hname : row.rebeccaAdminUsername = some live.username) :
    VisitTells name now times traffics row W R (news W (wanted live now times traffics))
      (R.or (if row.rebeccaAdminUsername = some name then some live else none)) := by
  constructor
  · intro hne
    refine ⟨by simp [hne], fun e he => ?_⟩
    rw [wanted_target (mem_news.mp he).1]
    exact fun h => hne (h ▸ hname)
  · intro heq
    rw [if_pos heq, hR heq]
    refine ⟨rfl, fun l hl => ?_⟩
    rw [← Option.some.inj hl]
    exact Option.some.inj (hname.symm.trans heq)

/-- **A visit tells the warnings of its reseller.** -/
theorem holds_syncReseller (hd : o.Delivers) (hf : o.Fits)
    (hrow : row.id ∈ T₀.resellers.map Reseller.id)
    (hR : row.rebeccaAdminUsername = some name → R = none) :
    Holds (Spec.exact (logging o.react)) (Amid T₀ name W S R)
      (syncReseller cfg now times traffics 0 row)
      (fun _ s v => ∃ N R', VisitTells name now times traffics row W R N R' ∧
        Amid T₀ name (W ++ N) (S ++ N) R' s v)
      fun e s v => ∃ N R', VisitTells name now times traffics row W R N R' ∧
        Over name (S ++ N) R' e s v := by
  have htells : VisitTells name now times traffics row W R [] R := .nothing hR
  have hover : ∀ e s v, Over name S R e s v → ∃ N R',
      VisitTells name now times traffics row W R N R' ∧ Over name (S ++ N) R' e s v := by
    refine fun e s v h => ⟨[], R, htells, ?_⟩
    rwa [List.append_nil]
  have hsilent : ∀ {m : Bot Unit}, Plain o T₀ name R m →
      Holds (Spec.exact (logging o.react)) (Amid T₀ name W S R) m
        (fun _ s v => ∃ N R', VisitTells name now times traffics row W R N R' ∧
          Amid T₀ name (W ++ N) (S ++ N) R' s v)
        fun e s v => ∃ N R', VisitTells name now times traffics row W R N R' ∧
          Over name (S ++ N) R' e s v := by
    refine fun hm => (hm W S).conseq (fun _ _ h => h) (fun _ s v h => ⟨[], R, htells, ?_⟩) hover
    rwa [List.append_nil, List.append_nil]
  unfold syncReseller
  refine Holds.bind ((Plain.holdReseller hrow W S).conseq (fun _ _ h => h) (fun _ _ _ h => h) hover)
    fun _ => ?_
  split_ifs
  · exact hsilent (Plain.pure ())
  refine (holds_attempt_getAdmin hf row.rebeccaAdminUsername).bind fun r => ?_
  have hunseen : R.or (if row.rebeccaAdminUsername = some name then none else none) = R := by
    rw [ite_self, Option.or_none]
  obtain e | _ | live := r
  · exact Holds.pre (hsilent (Plain.audit _ _ _)) fun s v h => hunseen ▸ h.2
  · exact Holds.pre (hsilent (Plain.pure ())) fun s v h => hunseen ▸ h.2
  · refine Holds.fact fun hname => ?_
    have hname : row.rebeccaAdminUsername = some live.username := hname live rfl
    let R' := R.or (if row.rebeccaAdminUsername = some name then some live else none)
    let N := news W (wanted live now times traffics)
    have htells' : VisitTells name now times traffics row W R N R' := .read hR hname
    have hread : some live.username ≠ some name ∨ R' ≠ none := by
      by_cases heq : row.rebeccaAdminUsername = some name
      · exact .inr (by simp [R', heq])
      · exact .inl (hname ▸ heq)
    have hrest : Plain o T₀ name R' (do
        let reseller ← Slot.reseller.read
        if ¬exhausted live.expire live.dataLimit live.usedTraffic now then
          reenableChildren cfg live now reseller
        else expireReseller cfg live reseller) :=
      Plain.read.bind fun _ => .ite (.reenableChildren now) (.expireReseller hread)
    refine Holds.bind (Q := fun _ => Amid T₀ name W S R') ?_ fun _ => ?_
    · refine Holds.modify fun s v h => h.withSession ?_
      exact h.session.assign_reseller (fun _ => rfl) fun _ => rfl
    refine (holds_warnAboutEntitlement hd row.telegramId).bind fun _ => ?_
    exact (hrest (W ++ N) (S ++ N)).conseq (fun _ _ h => h) (fun _ _ _ h => ⟨N, R', htells', h⟩)
      fun _ _ _ h => ⟨N, R', htells', h⟩

/-! ## A pass -/

/-- A pass with the flush that follows it: the tables it leaves or what it raises, and its
exchanges, latest first. -/
def Remote.pass (o : Remote) (cfg : Settings) (batchSize : ℕ) (T : Tables) :
    Except Err Tables × Past :=
  let m : Bot Unit := do
    syncResellers cfg batchSize
    flush
  let r := Act.run o.react Session.empty ⟨T, []⟩ m
  (r.1.1.map fun _ => r.2.tables, Act.history o.react Session.empty ⟨T, []⟩ m)

/-- `time_thresholds` of the tables. -/
def timesOf (cfg : Settings) (T : Tables) : Except Err (List ℤ) :=
  RuntimeSettings.thresholds ((Query.run T (.setting "time_warning_thresholds")).getD
    (.list (cfg.timeWarningThresholds.map .int)))

/-- `traffic_thresholds` of the tables. -/
def trafficsOf (cfg : Settings) (T : Tables) : Except Err (List ℤ) := do
  let values ← RuntimeSettings.thresholds ((Query.run T
    (.setting "traffic_warning_thresholds")).getD
    (.list (cfg.trafficWarningThresholds.map .int)))
  if values.any (100 < ·) then .error (valueError "traffic thresholds cannot exceed 100")
  else .ok values

/-- No two resellers have the same admin. -/
def NamedApart (rows : List Reseller) : Prop := (rows.filterMap (·.rebeccaAdminUsername)).Nodup

/-- After some visits: what has been told about the admin is what the visit to its reseller tells,
and no reseller with that admin is left if it has been read. -/
def Passing (T₀ : Tables) (name : String) (now : Datetime) (times traffics : List ℤ)
    (left : List Reseller) (s : Session) (v : Ledger × Past) : Prop :=
  ∃ S R, Amid T₀ name (T₀.warnings ++ S) S R s v ∧
    S.filter (·.targetIdentifier = name) = visitNews T₀.warnings now times traffics R ∧
    (R ≠ none → ∀ r ∈ left, r.rebeccaAdminUsername ≠ some name)

/-- A pass that has raised. -/
def Broken (T₀ : Tables) (name : String) (now : Datetime) (times traffics : List ℤ)
    (v : Ledger × Past) : Prop :=
  (told v.2).filter (·.targetIdentifier = name) =
    visitNews T₀.warnings now times traffics (reading name v.2)

theorem VisitTells.filter {N : List WarningEvent} {R' : Option Admin}
    (h : VisitTells name now times traffics row (W ++ S) R N R')
    (hS : S.filter (·.targetIdentifier = name) = visitNews W now times traffics R)
    (hR : row.rebeccaAdminUsername = some name → R = none) :
    (S ++ N).filter (·.targetIdentifier = name) = visitNews W now times traffics R' := by
  rw [List.filter_append, hS]
  by_cases heq : row.rebeccaAdminUsername = some name
  · obtain ⟨rfl, hname⟩ := h.self heq
    rw [hR heq] at hS ⊢
    cases R' with
    | none => rfl
    | some live =>
      have hwanted : ∀ e ∈ wanted live now times traffics, e.targetIdentifier = name :=
        fun e he => (wanted_target he).trans (hname live rfl)
      -- none of them has been told in this pass
      have hcongr : news (W ++ S) (wanted live now times traffics) =
          news W (wanted live now times traffics) := by
        refine news_congr fun e he => ?_
        rw [List.mem_append, or_iff_left]
        intro hmem
        have hfilter : e ∈ S.filter (·.targetIdentifier = name) :=
          List.mem_filter.mpr ⟨hmem, decide_eq_true (hwanted e he)⟩
        rw [hS] at hfilter
        cases hfilter
      show [] ++ (news (W ++ S) _).filter _ = news W _
      rw [hcongr, List.nil_append, List.filter_eq_self]
      exact fun e he => decide_eq_true (hwanted e (mem_news.mp he).1)
  · obtain ⟨rfl, hN⟩ := h.other heq
    rw [List.filter_eq_nil_iff.mpr fun e he => by simpa using hN e he, List.append_nil]

theorem NamedApart.tail {rows : List Reseller} (h : NamedApart (row :: rows)) : NamedApart rows :=
  h.sublist ((List.sublist_cons_self row rows).filterMap _)

theorem NamedApart.ne {rows : List Reseller} (h : NamedApart (row :: rows))
    (hrow : row.rebeccaAdminUsername = some name) {r : Reseller} (hr : r ∈ rows) :
    r.rebeccaAdminUsername ≠ some name := by
  intro hname
  unfold NamedApart at h
  rw [List.filterMap_cons_some hrow, List.nodup_cons] at h
  exact h.1 (List.mem_filterMap.mpr ⟨r, hr, hname⟩)

/-- **One visit of a pass.** -/
theorem holds_round (hd : o.Delivers) (hf : o.Fits) {rows : List Reseller}
    (hrow : row.id ∈ T₀.resellers.map Reseller.id) (hnamed : NamedApart (row :: rows)) :
    Holds (Spec.exact (logging o.react)) (Passing T₀ name now times traffics (row :: rows))
      (syncReseller cfg now times traffics 0 row)
      (fun _ => Passing T₀ name now times traffics rows)
      fun _ _ => Broken T₀ name now times traffics := by
  refine Holds.ex fun S => Holds.ex fun R => ?_
  refine Holds.of_pre (fun s v h => h.2.1) fun hS => ?_
  refine Holds.of_pre (fun s v h => h.2.2) fun hleft => ?_
  have hR : row.rebeccaAdminUsername = some name → R = none := by
    intro heq
    by_contra hne
    exact hleft hne row List.mem_cons_self heq
  refine (holds_syncReseller hd hf hrow hR).conseq (fun _ _ h => h.1) ?_ ?_
  · rintro - s v ⟨N, R', htells, hamid⟩
    rw [List.append_assoc] at hamid
    refine ⟨S ++ N, R', hamid, htells.filter hS hR, fun hne => ?_⟩
    by_cases heq : row.rebeccaAdminUsername = some name
    · exact fun r hr => hnamed.ne heq hr
    · rw [(htells.other heq).1] at hne
      exact fun r hr => hleft hne r (List.mem_cons_of_mem _ hr)
  · rintro e s v ⟨N, R', htells, htold, hread⟩
    show (told v.2).filter _ = visitNews _ _ _ _ (reading name v.2)
    rw [htold, hread]
    exact htells.filter hS hR

/-- The visits of a pass. -/
theorem holds_visits (hd : o.Delivers) (hf : o.Fits) {rows : List Reseller}
    (hrows : ∀ r ∈ rows, r.id ∈ T₀.resellers.map Reseller.id) (hnamed : NamedApart rows) :
    Holds (Spec.exact (logging o.react)) (Passing T₀ name now times traffics rows)
      (Act.forEach (syncReseller cfg now times traffics 0) rows)
      (fun _ => Passing T₀ name now times traffics [])
      fun _ _ => Broken T₀ name now times traffics := by
  induction rows with
  | nil => exact Holds.pure fun _ _ h => h
  | cons row rows ih =>
    rw [List.forall_mem_cons] at hrows
    exact (holds_round hd hf hrows.1 hnamed).bind fun _ => ih hrows.2 hnamed.tail

/-- The beginning of a pass, before its first visit. -/
structure Opening (T : Tables) (name : String) (s : Session) (v : Ledger × Past) : Prop where
  session : s = Session.empty
  tables : v.1.tables = T
  told : told v.2 = []
  asking : asking v.2 = none
  reading : reading name v.2 = none

theorem Opening.passing {T : Tables} {rows : List Reseller} {s : Session} {v : Ledger × Past}
    (h : Opening T name s v) : Passing T name now times traffics rows s v := by
  refine ⟨[], none, ⟨?_, h.told, h.asking, h.reading⟩, rfl, fun hne => absurd rfl hne⟩
  rw [h.session, h.tables, List.append_nil]
  exact ⟨rfl, rfl, rfl, rfl, rfl, by rintro _ ⟨⟩, by rintro _ ⟨⟩, T, rfl, rfl, .refl T⟩

theorem Opening.silent {T : Tables} {s : Session} {v : Ledger × Past} (h : Opening T name s v)
    {x : Reply Ev Resp} (hx : x.1.silent = true) (hr : shown name x = none) {d : Ledger}
    (hd : d.tables = T) : Opening T name s (d, x :: v.2) :=
  ⟨h.session, hd, (told_silent hx).trans h.told, asking_silent hx,
    (reading_of_not_shown hr).trans h.reading⟩

theorem holds_opening_query {T : Tables} {q : Query} (hq : (Ev.query q).silent = true) :
    Holds (Spec.exact (logging o.react)) (Opening T name) (query q)
      (fun a s v => a = q.run T ∧ Opening T name s v) X := by
  refine Holds.bind (Q := fun _ => Opening T name) ?_ fun _ => ?_
  · intro s v h
    obtain rfl := h.session
    exact h
  · refine Holds.bind (Q := fun r s v => r = .ok (q.run T) ∧ Opening T name s v) ?_ fun r =>
      Holds.outcome (fun a ha s v h => ?_) fun e he s v h => ?_
    · refine Holds.request (fun _ _ _ => trivial) fun s v r v' h hn => ?_
      obtain ⟨rfl, rfl⟩ := Prod.mk.inj (show logging o.react (.query q) v = (r, v') from hn)
      refine ⟨?_, h.silent hq rfl h.tables⟩
      rw [← h.tables]
      rfl
    · rw [ha] at h
      exact ⟨Except.ok.inj h.1, h.2⟩
    · rw [he] at h
      cases h.1

theorem holds_timeThresholds {T : Tables} (h : timesOf cfg T = .ok times) :
    Holds (Spec.exact (logging o.react)) (Opening T name) (RuntimeSettings.timeThresholds cfg)
      (fun ts s v => ts = times ∧ Opening T name s v) X := by
  refine Holds.bind (Q := fun v s w => v = (Query.run T (.setting "time_warning_thresholds")).getD
    (.list (cfg.timeWarningThresholds.map .int)) ∧ Opening T name s w) ?_ fun v => ?_
  · exact (holds_opening_query rfl).bind fun v => Holds.pure fun s w h => ⟨by rw [h.1], h.2⟩
  · refine Holds.fact fun hv => ?_
    have hts : RuntimeSettings.thresholds v = .ok times := by rw [hv]; exact h
    rw [hts]
    exact Holds.pure fun _ _ h => ⟨rfl, h⟩

theorem holds_trafficThresholds {T : Tables} (h : trafficsOf cfg T = .ok traffics) :
    Holds (Spec.exact (logging o.react)) (Opening T name) (RuntimeSettings.trafficThresholds cfg)
      (fun ts s v => ts = traffics ∧ Opening T name s v) X := by
  refine Holds.bind (Q := fun v s w => v = (Query.run T
    (.setting "traffic_warning_thresholds")).getD
    (.list (cfg.trafficWarningThresholds.map .int)) ∧ Opening T name s w) ?_ fun v => ?_
  · exact (holds_opening_query rfl).bind fun v => Holds.pure fun s w h => ⟨by rw [h.1], h.2⟩
  · refine Holds.fact fun hv => ?_
    obtain ⟨values, hvalues, hrest⟩ := bind_eq_ok h
    rw [← hv] at hvalues
    rw [hvalues]
    refine Holds.bind (Q := fun ts s w => ts = values ∧ Opening T name s w)
      (Holds.pure fun _ _ h => ⟨rfl, h⟩) fun ts => Holds.fact fun hts => ?_
    rw [hts]
    split_ifs at hrest ⊢
    exact Holds.pure fun _ _ h => ⟨Except.ok.inj hrest, h⟩

/-- **A pass.** -/
theorem holds_syncResellers {T : Tables} {batchSize : ℕ} (hd : o.Delivers) (hf : o.Fits)
    (hnamed : NamedApart T.resellers) (htimes : timesOf cfg T = .ok times)
    (htraffics : trafficsOf cfg T = .ok traffics) :
    Holds (Spec.exact (logging o.react)) (Opening T name) (syncResellers cfg batchSize)
      (fun _ => Passing T name o.clock times traffics [])
      fun _ _ => Broken T name o.clock times traffics := by
  refine (holds_opening_query rfl).bind fun rows => Holds.fact fun hrows => ?_
  refine Holds.bind (Q := fun ep s v => ep = 0 ∧ Opening T name s v)
    (fun s v h => ⟨h.session ▸ rfl, h⟩) fun ep => Holds.fact fun hep => ?_
  refine Holds.bind (Q := fun now s v => now = o.clock ∧ Opening T name s v) ?_ fun now =>
    Holds.fact fun hnow => ?_
  · refine Holds.request (fun _ _ _ => trivial) fun s v r v' h hn => ?_
    obtain ⟨rfl, rfl⟩ := Prod.mk.inj (show logging o.react .now v = (r, v') from hn)
    exact ⟨rfl, h.silent rfl rfl h.tables⟩
  refine (holds_timeThresholds htimes).bind fun ts => Holds.fact fun hts => ?_
  refine (holds_trafficThresholds htraffics).bind fun trs => Holds.fact fun htrs => ?_
  rw [hep, hnow, hts, htrs]
  have hsub : rows.Sublist T.resellers :=
    hrows ▸ (List.take_sublist _ _).trans List.filter_sublist
  refine Holds.pre (holds_visits hd hf ?_ ?_) fun _ _ h => h.passing
  · exact fun r hr => List.mem_map_of_mem (hsub.subset hr)
  · exact hnamed.sublist (hsub.filterMap _)

/-- **What a pass tells** of an admin is what the visit to its reseller tells, and if the pass
returns, the table of warnings has gained what it has told. -/
theorem pass_told {T : Tables} (name : String) (batchSize : ℕ) (hd : o.Delivers) (hf : o.Fits)
    (hnamed : NamedApart T.resellers) (htimes : timesOf cfg T = .ok times)
    (htraffics : trafficsOf cfg T = .ok traffics) :
    (told (o.pass cfg batchSize T).2).filter (·.targetIdentifier = name) =
      visitNews T.warnings o.clock times traffics (reading name (o.pass cfg batchSize T).2) ∧
    ∀ T', (o.pass cfg batchSize T).1 = .ok T' →
      T'.warnings = T.warnings ++ told (o.pass cfg batchSize T).2 := by
  have hm : Holds (Spec.exact (logging o.react)) (Opening T name) (do
      syncResellers cfg batchSize
      flush : Bot Unit) (fun _ _ v => Broken T name o.clock times traffics v ∧
        v.1.tables.warnings = T.warnings ++ told v.2) fun _ _ =>
          Broken T name o.clock times traffics := by
    refine (holds_syncResellers hd hf hnamed htimes htraffics).bind fun _ => ?_
    refine Holds.ex fun S => Holds.ex fun R => ?_
    refine Holds.of_pre (fun s v h => h.2.1) fun hS => ?_
    have hflush : Holds (Spec.exact (logging o.react)) (Amid T name (T.warnings ++ S) S R) flush
        (fun _ s => AtRest T name (T.warnings ++ S) S R s)
        fun _ _ => Broken T name o.clock times traffics := Plain.holds_flush
    refine (hflush.pre fun _ _ h => h.1).post fun _ s v h => ?_
    refine ⟨?_, ?_⟩
    · show (told v.2).filter _ = visitNews _ _ _ _ (reading name v.2)
      rw [h.told, h.reading, hS]
    · rw [h.warnings, h.told]
  have hopen : Opening T name Session.empty (⟨T, []⟩, []) := ⟨rfl, rfl, rfl, rfl, rfl⟩
  have hrun := hm.run hopen
  rw [Act.run_logging] at hrun
  have hfst : (o.pass cfg batchSize T).1 =
      let r := Act.run o.react Session.empty ⟨T, []⟩ (do
        syncResellers cfg batchSize
        flush : Bot Unit)
      r.1.1.map fun _ => r.2.tables := rfl
  rw [hfst]
  rcases hr : Act.run o.react Session.empty ⟨T, []⟩ (do
    syncResellers cfg batchSize
    flush : Bot Unit) with ⟨⟨e | _, s⟩, d⟩
  · rw [hr] at hrun
    exact ⟨hrun, by rintro _ ⟨⟩⟩
  · rw [hr] at hrun
    exact ⟨hrun.1, fun T' hT' => Except.ok.inj hT' ▸ hrun.2⟩

end Visit

end ResellerBot
