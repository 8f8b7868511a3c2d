import ResellerBot.Contract.Durable

/-!
# ResellerBot.Contract.Credit — a renewal is credited once

The runs are those of the order worker, logged with the orders whose renewal takes effect in Rebecca.
The data limit of an admin is what it was and the traffic of these orders, none of them twice.
-/

open Interact

namespace ResellerBot

/-! ## What is credited -/

/-- The call takes effect, whether or not its response is delivered. -/
def Choice.takes : Choice → Bool
  | .done => true
  | .fail _ took => took
  | _ => false

/-- The order whose renewal of the admin `name` takes effect with this move. -/
def credit (name : String) (c : BotConfig) : BotMove → Option ℕ
  | .run i ch =>
    match c.threads i with
    | some (_, .ask (.call (.renewal o _ _) (.updateAdmin u _)) _) =>
      if u = name ∧ ch.takes ∧ (c.world.server.admins name).isSome then some o.id else none
    | _ => none
  | _ => none

/-- The traffic that an order has bought, in bytes. -/
def worth (T : Tables) (id : ℕ) : ℤ :=
  match (Rows.get Order.id T.orders id).bind fun o => Rows.get Product.id T.products o.productId with
  | some p => gib p.trafficGb
  | none => 0

/-- The product is sold as it was, with some traffic. -/
def Sold (T : Tables) (p : Product) : Prop :=
  0 < p.trafficGb ∧ ∃ q, Rows.get Product.id T.products p.id = some q ∧ q.trafficGb = p.trafficGb

/-- The admin has the data limit `l`, and has not used it up. -/
def Quota (sv : Server) (name : String) (l : ℤ) : Prop :=
  ∃ a, sv.admins name = some a ∧ a.dataLimit = some l ∧ 0 < l ∧ a.usedTraffic < l

/-- The limit after the renewals of the orders `E`. -/
def balance (T : Tables) (l₀ : ℤ) (E : List ℕ) : ℤ := l₀ + (E.map (worth T)).sum

/-- The moves of `OneWorker`, where nobody else changes the quota of the admin. -/
def SteadyWorker (sells : Product → Prop) (name : String) (c : BotConfig) : BotMove → Prop
  | .env w => c.world.Outside sells w ∧
      ∀ l, Quota c.world.server name l → Quota w.server name l
  | m => OneWorker sells c m

/-- A reseller whose admin has the quota `l₀`, and orders that nobody has worked on. -/
structure Account (c : BotConfig) (rid : ℕ) (name : String) (l₀ : ℤ) : Prop where
  named : name ≠ ""
  reseller : ∃ r, Rows.get Reseller.id c.world.store.committed.resellers rid = some r ∧
    r.rebeccaAdminUsername = some name ∧ r.status ≠ .PROVISIONING
  unique : ∀ r ∈ c.world.store.committed.resellers, r.rebeccaAdminUsername = some name → r.id = rid
  quota : Quota c.world.server name l₀
  fresh : ∀ o ∈ c.world.store.committed.orders, o.resellerId = rid → o.Open → o.target = none

variable {T₀ T T' C : Tables} {rid i id n : ℕ} {name : String} {l₀ : ℤ} {E E' : List ℕ} {v v' : View}

@[simp] theorem balance_nil : balance T₀ l₀ [] = l₀ := by simp [balance]

theorem balance_concat : balance T₀ l₀ (E ++ [id]) = balance T₀ l₀ E + worth T₀ id := by
  simp [balance, add_assoc]

/-- A list without duplicates has one prefix that ends in a given element. -/
theorem prefix_concat_unique {α : Type} {l pre pre' : List α} {a : α} (hl : l.Nodup)
    (h : pre ++ [a] <+: l) (h' : pre' ++ [a] <+: l) : pre = pre' := by
  classical
  have hidx : ∀ {p : List α}, p ++ [a] <+: l → l.idxOf a = p.length := by
    rintro p ⟨s, rfl⟩
    have hp : a ∉ p := by
      intro hm
      rw [List.append_assoc, List.nodup_append] at hl
      exact hl.2.2 a hm a (by simp) rfl
    rw [List.append_assoc, List.idxOf_append_of_notMem hp]
    simp
  have hlen : pre.length = pre'.length := (hidx h).symm.trans (hidx h')
  have heq := (List.prefix_of_prefix_length_le h h' (by simp [hlen])).eq_of_length (by simp [hlen])
  exact (List.append_inj' heq rfl).1

/-! ## The books -/

/-- The row of an order, after the renewals `E`. -/
structure OnBooks (T₀ : Tables) (l₀ : ℤ) (E : List ℕ) (row : Order) : Prop where
  /-- The target of an open order is what it has bought over what was there. -/
  priced : row.Open → ∀ t, row.target = some t → ∃ before l, row.beforeSnapshot = some before ∧
    before.dataLimit = some l ∧ t.dataLimit = some (l + worth T₀ row.id) ∧ 0 < worth T₀ row.id ∧
    l₀ ≤ l ∧ l ≤ balance T₀ l₀ E ∧ (row.id ∈ E → l < balance T₀ l₀ E)
  /-- The target of a credited order is the limit that its renewal has set. -/
  credited : row.id ∈ E → ∃ t pre, row.target = some t ∧ pre ++ [row.id] <+: E ∧
    t.dataLimit = some (balance T₀ l₀ (pre ++ [row.id]))
  /-- The target of an applied order has been the limit at some time. -/
  applied : row.status = .APPLIED →
    (∃ o₀, Rows.get Order.id T₀.orders row.id = some o₀ ∧ o₀.Open) →
    ∃ t pre, row.target = some t ∧ pre <+: E ∧ pre ≠ [] ∧ t.dataLimit = some (balance T₀ l₀ pre)

/-- What the tables say about the reseller `rid` and its orders. -/
structure Books (T₀ : Tables) (rid : ℕ) (name : String) (l₀ : ℤ) (E : List ℕ) (T : Tables) :
    Prop where
  ids : T.orders.map Order.id = T₀.orders.map Order.id
  reseller : ∃ r, Rows.get Reseller.id T.resellers rid = some r ∧
    r.rebeccaAdminUsername = some name ∧ r.status ≠ .PROVISIONING
  unique : ∀ r ∈ T.resellers, r.rebeccaAdminUsername = some name → r.id = rid
  rows : ∀ i row, Rows.get Order.id T.orders i = some row → row.resellerId = rid →
    OnBooks T₀ l₀ E row

/-- What the worker has seen of the admin is its quota. -/
def Seen (name : String) (l : ℤ) (v : View) : Prop :=
  ∀ a, (name, a) ∈ v.answers → ∃ live, a = some live ∧ live.dataLimit = some l ∧ live.usedTraffic < l

theorem Seen.mono {l : ℤ} (h : Seen name l v) (ha : v'.answers ⊆ v.answers) : Seen name l v' :=
  fun a hm => h a (ha hm)

theorem OnBooks.congr {row row' : Order} (h : OnBooks T₀ l₀ E row) (hi : row'.id = row.id)
    (hs : row'.status = row.status) (hb : row'.beforeSnapshot = row.beforeSnapshot)
    (ht : row'.target = row.target) : OnBooks T₀ l₀ E row' := by
  have hopen : row'.Open ↔ row.Open := by rw [Order.Open, Order.Open, hs]
  obtain ⟨hp, hc, ha⟩ := h
  constructor
  · rwa [hopen, ht, hb, hi]
  · rwa [hi, ht]
  · rwa [hs, hi, ht]

/-- Another renewal of the admin. -/
theorem OnBooks.concat {row : Order} (h : OnBooks T₀ l₀ E row) (hw : 0 < worth T₀ id)
    (hcredit : row.id = id → ∃ t, row.target = some t ∧
      t.dataLimit = some (balance T₀ l₀ (E ++ [id]))) : OnBooks T₀ l₀ (E ++ [id]) row := by
  constructor
  · intro hopen t ht
    obtain ⟨before, l, hb, hl, htl, hpos, hfloor, hle, -⟩ := h.priced hopen t ht
    refine ⟨before, l, hb, hl, htl, hpos, hfloor, ?_, fun _ => ?_⟩
    · rw [balance_concat]
      omega
    · rw [balance_concat]
      omega
  · intro hm
    by_cases he : row.id = id
    · obtain ⟨t, ht, htl⟩ := hcredit he
      rw [he]
      exact ⟨t, E, ht, List.prefix_rfl, htl⟩
    · have hm' : row.id ∈ E := by simpa [he] using hm
      obtain ⟨t, pre, ht, hpre, htl⟩ := h.credited hm'
      exact ⟨t, pre, ht, hpre.trans (List.prefix_append _ _), htl⟩
  · intro hs ho
    obtain ⟨t, pre, ht, hpre, hne, htl⟩ := h.applied hs ho
    exact ⟨t, pre, ht, hpre.trans (List.prefix_append _ _), hne, htl⟩

theorem Books.concat (h : Books T₀ rid name l₀ E T) (hw : 0 < worth T₀ id)
    (hcredit : ∀ row, Rows.get Order.id T.orders id = some row → ∃ t, row.target = some t ∧
      t.dataLimit = some (balance T₀ l₀ (E ++ [id]))) : Books T₀ rid name l₀ (E ++ [id]) T where
  ids := h.ids
  reseller := h.reseller
  unique := h.unique
  rows i row hi hr := by
    refine (h.rows i row hi hr).concat hw fun he => hcredit row ?_
    obtain rfl : row.id = i := (Rows.mem_of_get hi).2
    rwa [← he]

theorem Books.frame (h : Books T₀ rid name l₀ E T) (ho : T'.orders = T.orders)
    (hr : T'.resellers = T.resellers) : Books T₀ rid name l₀ E T' where
  ids := by rw [ho, h.ids]
  reseller := by rw [hr]; exact h.reseller
  unique := by rw [hr]; exact h.unique
  rows := by rw [ho]; exact h.rows

/-- The books of the tables that the worker sees. -/
structure Posted (T₀ : Tables) (rid : ℕ) (name : String) (l₀ : ℤ) (E : List ℕ) (T : Tables)
    (v : View) : Prop where
  books : Books T₀ rid name l₀ E T
  truth : Truth T v
  since : T₀.Advance T
  seen : Seen name (balance T₀ l₀ E) v
  floor : l₀ ≤ balance T₀ l₀ E
  pos : 0 < balance T₀ l₀ E
  named : name ≠ ""

theorem Books.origin (h : Books T₀ rid name l₀ E T) (hsince : T₀.Advance T) {row : Order}
    (hrow : Rows.get Order.id T.orders i = some row) :
    ∃ o₀, Rows.get Order.id T₀.orders i = some o₀ ∧
      o₀.Advances (T₀.Named o₀.resellerId) row := by
  obtain ⟨hm, hi⟩ := Rows.mem_of_get hrow
  have hmem : i ∈ T₀.orders.map Order.id := by
    rw [← h.ids, ← hi]
    exact List.mem_map_of_mem hm
  obtain ⟨o, ho, hoi⟩ := List.mem_map.mp hmem
  have hsome : (Rows.get Order.id T₀.orders i).isSome := by
    rw [Rows.get, List.find?_isSome]
    exact ⟨o, ho, by simpa using hoi⟩
  obtain ⟨o₀, ho₀⟩ := Option.isSome_iff_exists.mp hsome
  obtain ⟨row', hrow', hadv⟩ := hsince.orders i o₀ ho₀
  cases hrow.symm.trans hrow'
  exact ⟨o₀, ho₀, hadv⟩

theorem worth_of_sold {o₀ : Order} (ho : Rows.get Order.id T₀.orders i = some o₀) {p : Product}
    (hp : Sold T₀ p) (hi : p.id = o₀.productId) :
    worth T₀ i = gib p.trafficGb ∧ 0 < worth T₀ i := by
  obtain ⟨hpos, q, hq, ht⟩ := hp
  have : worth T₀ i = gib p.trafficGb := by
    rw [hi] at hq
    simp only [worth, ho, Option.bind_some, hq, ht]
  refine ⟨this, ?_⟩
  rw [this]
  unfold gib
  positivity

namespace Posted

variable {sells : Product → Prop} {old new row : Order}

/-- The reseller `rid` as the worker knows it. -/
theorem known (h : Posted T₀ rid name l₀ E T v) {r : Reseller} (hr : v.resellers r.id = some r)
    (hi : r.id = rid) : r.rebeccaAdminUsername = some name ∧ r.status ≠ .PROVISIONING := by
  obtain ⟨row, hrow, hsame⟩ := h.truth.resellers _ _ hr
  obtain ⟨row', hrow', hadmin, hstatus⟩ := h.books.reseller
  rw [hi] at hrow
  cases hrow.symm.trans hrow'
  exact ⟨hsame.admin ▸ hadmin, hsame.status ▸ hstatus⟩

/-- Whoever has the username is the reseller `rid`. -/
theorem holder (h : Posted T₀ rid name l₀ E T v) {r : Reseller} (hr : v.resellers r.id = some r)
    (ha : r.rebeccaAdminUsername = some name) : r.id = rid := by
  obtain ⟨row, hrow, hsame⟩ := h.truth.resellers _ _ hr
  rw [← hsame.id]
  exact h.books.unique row (Rows.mem_of_get hrow).1 (hsame.admin.trans ha)

/-- A change of an order of the reseller keeps it booked. -/
theorem onBooks (h : Posted T₀ rid name l₀ E T v) (hc : OrderChange .orders (Sold T₀) v old new)
    (hk : old.SameKeys new) (hrow : Rows.get Order.id T.orders old.id = some row)
    (hs : old.Same row) (hrid : row.resellerId = rid) :
    OnBooks T₀ l₀ E (old.update new row) := by
  have hB := h.books.rows _ _ hrow hrid
  have hnew := hs.update hk
  have hid : (old.update new row).id = row.id := rfl
  have howner : old.resellerId = rid := hs.resellerId.symm.trans hrid
  have hopen : row.Open ↔ old.Open := by rw [Order.Open, Order.Open, hs.status]
  obtain ⟨o₀, ho₀, hadv⟩ := h.books.origin h.since hrow
  have hrowid : row.id = old.id := hs.id
  cases hc with
  | keep status before after =>
    refine hB.congr hid ?_ ?_ ?_
    · rw [hnew.status, status, hs.status]
    · rw [hnew.before, before, hs.before]
    · rw [Order.target, Order.target, hnew.after, after, hs.after]
  | begin r u live product now target _ opens fresh reseller owner admin _ _ _ answer sold of
      compute status before after =>
    have hname := (h.known reseller (owner.trans howner)).1
    cases hname.symm.trans admin
    obtain ⟨_, ⟨⟩, hlimit, hused⟩ := h.seen _ answer
    have hproduct : product.id = o₀.productId := by
      rw [of, ← hs.productId, hadv.product]
    obtain ⟨hworth, hpos⟩ := worth_of_sold ho₀ sold hproduct
    rw [← hrowid] at hworth hpos
    have hfresh : row.target = none := hs.target.trans fresh
    have huncredited : row.id ∉ E := by
      intro hm
      obtain ⟨t, pre, ht, -⟩ := hB.credited hm
      rw [hfresh] at ht
      cases ht
    have htarget : (old.update new row).target = some target := by
      rw [hnew.target, Order.target, after]
    constructor
    · intro _ t ht
      cases htarget.symm.trans ht
      refine ⟨_, balance T₀ l₀ E, by rw [hnew.before, before], hlimit, ?_, hpos, h.floor, le_rfl,
        fun hm => absurd hm huncredited⟩
      simp only [targetSnapshot] at compute
      obtain ⟨expire, -, hcompute⟩ := bind_eq_ok compute
      cases hcompute
      dsimp only
      rw [hlimit, renewalDataLimit_of_left h.pos hused, ← hworth]
      rfl
    · exact fun hm => absurd hm huncredited
    · intro happlied
      rw [hnew.status, status] at happlied
      cases happlied
  | reserve r u _ opens reseller owner unnamed =>
    rw [(h.known reseller (owner.trans howner)).1] at unnamed
    exact absurd (by simpa [truthy] using h.named) unnamed
  | finish r u live target _ opens recorded reseller owner holder answer _ matches_ status before
      after =>
    have hname := (h.known reseller (owner.trans howner)).1
    cases hname.symm.trans holder
    obtain ⟨_, ⟨⟩, hlimit, -⟩ := h.seen _ answer
    have hrecorded : row.target = some target := hs.target.trans recorded
    have htarget : (old.update new row).target = some target := by
      rw [Order.target, hnew.after, after, ← Order.target, recorded]
    have hreached : target.dataLimit = some (balance T₀ l₀ E) := by
      have := congrArg Snapshot.dataLimit (of_decide_eq_true matches_)
      exact this.symm.trans hlimit
    constructor
    · intro hopen'
      rw [Order.Open, hnew.status, status] at hopen'
      rcases hopen' with h' | h' <;> cases h'
    · intro hm
      obtain ⟨t, pre, ht, hrest⟩ := hB.credited hm
      exact ⟨t, pre, htarget.trans (hrecorded.symm.trans ht), hrest⟩
    · intro _ _
      refine ⟨target, E, htarget, List.prefix_rfl, ?_, hreached⟩
      rintro rfl
      obtain ⟨b, l, -, -, htl, hpos, hfloor, -⟩ := hB.priced (hopen.mpr opens) target hrecorded
      rw [hreached, balance_nil] at htl
      have := Option.some.inj htl
      omega
  | provisioned r u live target _ opens _ reseller owner _ provisioning =>
    exact absurd provisioning (h.known reseller (owner.trans howner)).2
  | decide _ _ role => cases role
  | pay _ _ role => rcases role with role | role <;> cases role

/-- The statement leaves the books in order, if the worker has seen nothing new of the admin. -/
theorem step (h : Posted T₀ rid name l₀ E T v) (hstep : Stepped sells C T T' v')
    (hbooks : Books T₀ rid name l₀ E T') (ha : v'.answers ⊆ v.answers) :
    Posted T₀ rid name l₀ E T' v' :=
  ⟨hbooks, hstep.truth, h.since.trans hstep.advance, h.seen.mono ha, h.floor, h.pos, h.named⟩

theorem exec_updateOrder (h : Posted T₀ rid name l₀ E T v)
    (hok : StmtOk .orders (Sold T₀) v (.updateOrder old new))
    (hexec : (Stmt.updateOrder old new).exec T = .ok (T', n)) : Books T₀ rid name l₀ E T' := by
  obtain ⟨hk, hknown, hchange⟩ := hok
  obtain ⟨row, hrow, hsame⟩ := h.truth.orders _ _ (hknown trivial)
  simp only [Stmt.exec] at hexec
  split_ifs at hexec
  cases hexec
  have hid : ∀ r : Order, (old.update new r).id = r.id := fun _ => rfl
  refine ⟨?_, h.books.reseller, h.books.unique, ?_⟩
  · rw [← h.books.ids]
    show (Rows.set Order.id T.orders old.id (old.update new)).map Order.id = _
    unfold Rows.set
    rw [List.map_map]
    refine List.map_congr_left fun r _ => ?_
    dsimp only [Function.comp]
    split_ifs <;> rfl
  · intro i row' hi hrid
    by_cases he : i = old.id
    · subst he
      rw [Rows.get_set hrow (Rows.mem_of_get hrow).2] at hi
      cases hi
      refine h.onBooks hchange hk hrow hsame ?_
      rw [hsame.resellerId, ← hk.resellerId, ← (hsame.update hk).resellerId]
      exact hrid
    · rw [Rows.get_set_of_ne hid he] at hi
      exact h.books.rows i row' hi hrid

theorem exec_updateReseller {old new : Reseller} (h : Posted T₀ rid name l₀ E T v)
    (hok : StmtOk .orders (Sold T₀) v (.updateReseller old new))
    (hexec : (Stmt.updateReseller old new).exec T = .ok (T', n)) : Books T₀ rid name l₀ E T' := by
  obtain ⟨hk, hknown, hchange⟩ := hok
  have hold := hknown trivial
  obtain ⟨row, hrow, hsame⟩ := h.truth.resellers _ _ hold
  have hnew := hsame.update hk
  simp only [Stmt.exec] at hexec
  split_ifs at hexec
  cases hexec
  have hid : ∀ r : Reseller, (old.update new r).id = r.id := fun _ => rfl
  -- the name goes to nobody else: it is not free
  have hadmin : new.rebeccaAdminUsername = old.rebeccaAdminUsername ∨
      ¬truthy old.rebeccaAdminUsername ∧ new.rebeccaAdminUsername ≠ some name := by
    cases hchange with
    | keep _ admin | activate _ _ admin | reactivate _ _ admin => exact .inl admin
    | reserve u unnamed available admin =>
      refine .inr ⟨unnamed, fun he => ?_⟩
      rw [admin] at he
      cases he
      obtain ⟨_, hnone, -⟩ := h.seen _ available.admin
      cases hnone
    | trial _ role => cases role
    | expire role | suspend role | resume role => cases role
  refine ⟨h.books.ids, ?_, ?_, h.books.rows⟩
  · obtain ⟨r, hr, ha, hs⟩ := h.books.reseller
    by_cases he : rid = old.id
    · subst he
      obtain ⟨hname, hstatus⟩ := h.known hold rfl
      have htruthy : truthy old.rebeccaAdminUsername := by simpa [hname, truthy] using h.named
      refine ⟨_, Rows.get_set hrow (Rows.mem_of_get hrow).2, ?_, ?_⟩
      · rw [hnew.admin, hadmin.resolve_right fun h' => h'.1 htruthy, hname]
      · rw [hnew.status]
        cases hchange with
        | keep status => rwa [status]
        | reserve u unnamed => exact absurd htruthy unnamed
        | activate was => exact absurd was hstatus
        | reactivate _ status =>
          rw [status]
          decide
        | trial _ role => cases role
        | expire role | suspend role | resume role => cases role
    · exact ⟨r, (Rows.get_set_of_ne hid he).trans hr, ha, hs⟩
  · intro r hr ha
    rcases Rows.mem_set.mp hr with ⟨r', hr', hkey, rfl⟩ | ⟨hr', -⟩
    · show r'.id = rid
      by_cases hold' : new.rebeccaAdminUsername = old.rebeccaAdminUsername
      · refine h.books.unique r' hr' ?_
        have : (old.update new r').rebeccaAdminUsername = r'.rebeccaAdminUsername := by
          show col old.rebeccaAdminUsername new.rebeccaAdminUsername r'.rebeccaAdminUsername = _
          rw [hold', col_same]
        rw [← this]
        exact ha
      · have : (old.update new r').rebeccaAdminUsername = new.rebeccaAdminUsername := by
          exact if_neg hold'
        rw [this] at ha
        exact absurd ha (hadmin.resolve_left hold').2
    · exact h.books.unique r hr' ha

theorem exec_insertReseller {row : Reseller} (h : Posted T₀ rid name l₀ E T v)
    (hnone : row.rebeccaAdminUsername = none)
    (hexec : (Stmt.insertReseller row).exec T = .ok (T', n)) : Books T₀ rid name l₀ E T' := by
  simp only [Stmt.exec] at hexec
  split_ifs at hexec
  cases hexec
  obtain ⟨r, hr, hrest⟩ := h.books.reseller
  refine ⟨h.books.ids, ⟨r, Rows.get_append _ hr, hrest⟩, ?_, h.books.rows⟩
  intro r' hr' ha
  rcases List.mem_append.mp hr' with hr' | hr'
  · exact h.books.unique r' hr' ha
  · cases List.mem_singleton.mp hr'
    exact absurd (hnone.symm.trans ha) (by simp)

end Posted

theorem View.wrote_answers (v : View) (st : Stmt) : (v.wrote st).answers = v.answers := by
  cases st with
  | updateReseller old new =>
    simp only [View.wrote]
    split_ifs <;> rfl
  | _ => rfl

/-- **One statement** leaves the books in order. -/
theorem StmtOk.posted {st : Stmt} (hok : StmtOk .orders (Sold T₀) v st)
    (hexec : st.exec T = .ok (T', n)) (hsound : T.Sound (Sold T₀)) (hsaved : Saved C T v)
    (h : Posted T₀ rid name l₀ E T v) : Posted T₀ rid name l₀ E T' (v.wrote st) := by
  refine h.step (hok.stepped hexec hsound h.truth hsaved) ?_ (v.wrote_answers st).le
  cases st with
  | updateOrder old new => exact h.exec_updateOrder hok hexec
  | updateReseller old new => exact h.exec_updateReseller hok hexec
  | insertReseller row => exact h.exec_insertReseller hok.1 hexec
  | insertTrial row => exact absurd hok.1 (by rintro ⟨⟩)
  | claimOrder | deleteExpiredLock | deleteLock | markDisabledByParent => exact hok.elim
  | updateTrial | updatePayment | updateUser | insertUser | insertLock | insertWarning |
    insertAudit =>
    simp only [Stmt.exec] at hexec
    all_goals
      try split_ifs at hexec
      cases hexec
      exact h.books.frame rfl rfl

theorem FlushOk.posted {sts : List Stmt} (hok : FlushOk .orders (Sold T₀) v sts)
    (hexec : Stmt.execAll T sts = .ok T') (hsound : T.Sound (Sold T₀)) (hsaved : Saved C T v)
    (h : Posted T₀ rid name l₀ E T v) : Posted T₀ rid name l₀ E T' (v.wroteAll sts) := by
  induction sts generalizing T v with
  | nil =>
    cases hexec
    exact h
  | cons st sts ih =>
    rw [Stmt.execAll] at hexec
    obtain ⟨⟨T₁, n⟩, hst, hsts⟩ := bind_eq_ok hexec
    have h₁ := hok.1.stepped hst hsound h.truth hsaved
    exact ih hok.2 hsts h₁.sound h₁.saved (hok.1.posted hst hsound hsaved h)

/-! ## The ledger -/

/-- The renewals `E` and what has come of them. -/
structure Balanced (T₀ : Tables) (rid : ℕ) (name : String) (l₀ : ℤ) (E : List ℕ) (w : World) :
    Prop where
  nodup : E.Nodup
  orders : ∀ id ∈ E, ∃ o₀, Rows.get Order.id T₀.orders id = some o₀ ∧ o₀.resellerId = rid ∧ o₀.Open
  quota : Quota w.server name (balance T₀ l₀ E)
  floor : l₀ ≤ balance T₀ l₀ E
  books : w.store.All (Books T₀ rid name l₀ E)
  named : name ≠ ""

section Worker

variable {w w' : World} {e : Ev} {ch : Choice} {r : Resp e}

theorem Balanced.posted (h : Balanced T₀ rid name l₀ E w) (hw : Working (Sold T₀) T₀ i w.store v)
    (hseen : Seen name (balance T₀ l₀ E) v) : Posted T₀ rid name l₀ E (w.store.visible i) v where
  books := h.books.visible i
  truth := hw.truth
  since := hw.since.trans hw.working
  seen := hseen
  floor := h.floor
  pos := by
    obtain ⟨a, -, -, hpos, -⟩ := h.quota
    exact hpos
  named := h.named

theorem Balanced.store (h : Balanced T₀ rid name l₀ E w) (hserver : w'.server = w.server)
    (hbooks : w'.store.All (Books T₀ rid name l₀ E)) : Balanced T₀ rid name l₀ E w' :=
  { h with quota := by rw [hserver]; exact h.quota, books := hbooks }

theorem Seen.nothing {l : ℤ} (h : v.answers = ∅) : Seen name l v :=
  fun _ hm => absurd (h ▸ hm) (Set.notMem_empty _)

theorem View.wroteAll_answers (v : View) (sts : List Stmt) : (v.wroteAll sts).answers = v.answers := by
  induction sts generalizing v with
  | nil => rfl
  | cons st sts ih => rw [View.wroteAll, ih, v.wrote_answers]

theorem View.read_answers (v : View) (q : Query) (res : q.Result) :
    (v.read q res).answers = v.answers := by
  have hfold : ∀ {α : Type} (saw : View → α → View), (∀ v a, (saw v a).answers = v.answers) →
      ∀ (rows : List α) (v : View), (rows.foldl saw v).answers = v.answers := by
    intro α saw hsaw rows
    induction rows with
    | nil => exact fun _ => rfl
    | cons a rows ih => exact fun v => (ih _).trans (hsaw v a)
  have hsaw : ∀ {α : Type} (saw : View → α → View), (∀ v a, (saw v a).answers = v.answers) →
      ∀ (row : Option α) (v : View), (v.saw? saw row).answers = v.answers := by
    rintro α saw hsaw (_ | a) v
    · rfl
    · exact hsaw v a
  cases q with
  | order | orderByNumber => exact hsaw View.sawOrder (fun _ _ => rfl) res v
  | openOrders => exact hfold View.sawOrder (fun _ _ => rfl) res v
  | reseller | resellerByTelegram => exact hsaw View.sawReseller (fun _ _ => rfl) res v
  | resellers | resellersNotSuspended => exact hfold View.sawReseller (fun _ _ => rfl) res v
  | trial => exact hsaw View.sawTrial (fun _ _ => rfl) res v
  | resellerByAdmin u =>
    show (v.lookedUpReseller u res).answers = _
    unfold View.lookedUpReseller
    split_ifs <;> rfl
  | trialByAdmin u =>
    show (v.lookedUpTrial u res).answers = _
    unfold View.lookedUpTrial
    split_ifs <;> rfl
  | _ => rfl

/-- Only a read of an admin teaches anything about admins. -/
theorem View.after_answers (v : View) (hcall : ∀ why c, e ≠ .call why c) :
    (v.after e r).answers ⊆ v.answers := by
  cases e with
  | query q =>
    cases r with
    | ok res => exact (v.read_answers q res).le
    | error => exact le_rfl
  | flush sts =>
    cases r with
    | ok => exact (v.wroteAll_answers sts).le
    | error => exact Set.empty_subset _
  | execute st =>
    cases r with
    | ok => cases st <;> exact le_rfl
    | error => exact le_rfl
  | commit =>
    cases r with
    | ok => exact le_rfl
    | error => exact Set.empty_subset _
  | rollback => exact Set.empty_subset _
  | call why c => exact absurd rfl (hcall why c)
  | _ => exact le_rfl

/-- Only a call reaches Rebecca. -/
theorem react_server (hcall : ∀ why c, e ≠ .call why c) (h : react i e ch w = some (r, w')) :
    w'.server = w.server := by
  cases react_cases h with
  | called why => exact absurd rfl (hcall why _)
  | idle _ _ _ hserver => exact hserver
  | _ => rfl

/-- A request that is no call leaves the ledger balanced. -/
theorem Balanced.react (h : Balanced T₀ rid name l₀ E w) (hw : Working (Sold T₀) T₀ i w.store v)
    (hseen : Seen name (balance T₀ l₀ E) v) (hok : Allowed .orders (Sold T₀) v e)
    (hcall : ∀ why c, e ≠ .call why c) (hr : ResellerBot.react i e ch w = some (r, w')) :
    Balanced T₀ rid name l₀ E w' := by
  refine h.store (react_server hcall hr) ?_
  obtain hs | hs | hs | ⟨T, -, hs, hT⟩ := react_store hr
  · rw [hs]
    exact h.books
  · rw [hs]
    exact h.books.commit
  · rw [hs]
    exact h.books.rollback
  · rw [hs]
    refine h.books.put ?_
    obtain ⟨sts, rfl, hexec⟩ | ⟨st, n, rfl, hexec⟩ := hT
    · exact (FlushOk.posted hok hexec (hw.sound.visible i) hw.saved (h.posted hw hseen)).books
    · cases st with
      | deleteExpiredLock | deleteLock | markDisabledByParent =>
        cases hexec
        exact (h.books.visible i).frame rfl rfl
      | claimOrder => exact absurd hok.1 (by rintro ⟨⟩)
      | _ => exact hok.elim

end Worker

/-! ## Calls -/

section Calls

variable {w w' : World} {sv : Server} {ch : Choice} {u : String} {p : AdminPayload} {l : ℤ}

theorem World.answer_server {c : Call} (hc : c.writesAdmin = true) {r : Except Err c.Result}
    (h : w.answer c ch = some (r, w')) : w'.server = w.lost c ch.takes := by
  have hp : ∀ {c : Call} {r : Except Err Unit}, w.perform c = (r, w') →
      w'.server = w.lost c true := by
    intro c r hr
    unfold World.perform at hr
    unfold World.lost
    split at hr <;> · cases hr; simp_all [World.withServer]
  cases c with
  | createResellerAdmin | updateAdmin | disableAdmin | enableAdmin =>
    cases ch with
    | done => exact hp (Option.some.inj h)
    | _ => cases h
  | _ => cases hc

/-- A call that changes admins, in whatever way it is answered. -/
theorem World.call_server {c : Call} (hc : c.writesAdmin = true) {r : Except Err c.Result}
    (h : w.call c ch = some (r, w')) : w'.server = w.lost c ch.takes := by
  cases ch with
  | fail e took =>
    simp only [World.call] at h
    split_ifs at h
    cases h
    rfl
  | _ => exact World.answer_server hc h

theorem World.call_server_quiet {c : Call} (hc : c.writesAdmin = false) {r : Except Err c.Result}
    (h : w.call c ch = some (r, w')) : w'.server = w.server := by
  have hlost : ∀ took, w.lost c took = w.server := by
    intro took
    cases took
    · rfl
    · cases c <;> cases hc <;> rfl
  cases ch with
  | fail e took =>
    simp only [World.call] at h
    split_ifs at h
    cases h
    exact hlost took
  | _ =>
    cases c <;> cases hc
    all_goals cases h
    all_goals rfl

/-- A call leaves the quota of `name`, but for a creation or an update of that admin. -/
theorem Quota.perform {c : Call} {sv' : Server} (h : Quota sv name l) (hs : sv.perform c = .ok sv')
    (hcreate : ∀ p, c ≠ .createResellerAdmin (some name) p) (hupdate : ∀ p, c ≠ .updateAdmin name p) :
    Quota sv' name l := by
  obtain ⟨a, ha, hrest⟩ := h
  cases c with
  | createResellerAdmin u p =>
    simp only [Server.perform] at hs
    split_ifs at hs
    cases u with
    | none => cases hs
    | some u =>
      have hne : name ≠ u := fun he => hcreate p (he ▸ rfl)
      dsimp only at hs
      split at hs <;> cases hs
      exact ⟨a, (Function.update_of_ne hne _ _).trans ha, hrest⟩
  | updateAdmin u p =>
    have hne : name ≠ u := fun he => hupdate p (he ▸ rfl)
    simp only [Server.perform] at hs
    split at hs <;> cases hs
    exact ⟨a, (Function.update_of_ne hne _ _).trans ha, hrest⟩
  | enableAdmin u | disableAdmin u =>
    simp only [Server.perform] at hs
    split at hs <;> cases hs
    next b hb =>
      by_cases he : name = u
      · subst he
        cases ha.symm.trans hb
        exact ⟨_, Function.update_self _ _ _, hrest⟩
      · exact ⟨a, (Function.update_of_ne he _ _).trans ha, hrest⟩
  | _ =>
    cases hs
    exact ⟨a, ha, hrest⟩

theorem Quota.lost {c : Call} {took : Bool} (h : Quota w.server name l)
    (hcreate : ∀ p, c ≠ .createResellerAdmin (some name) p) (hupdate : ∀ p, c ≠ .updateAdmin name p) :
    Quota (w.lost c took) name l := by
  unfold World.lost
  split_ifs
  · split
    · next sv hs => exact h.perform hs hcreate hupdate
    · exact h
  · exact h

/-- An update that takes effect. -/
theorem Quota.updated {l' : ℤ} (h : Quota w.server name l) (hp : p.entitlement.dataLimit = some l')
    (hl : l ≤ l') : Quota (w.lost (.updateAdmin name p) true) name l' := by
  obtain ⟨a, ha, -, hpos, hused⟩ := h
  have hlost : w.lost (.updateAdmin name p) true = w.server.setAdmin name (Server.written a p) := by
    simp only [World.lost, Server.perform, ha, if_true]
  rw [hlost]
  exact ⟨_, Function.update_self _ _ _, hp, hpos.trans_le hl, hused.trans_le hl⟩

end Calls

section Renewals

variable {w w' : World} {c : Call} {why : Cause} {ch : Choice} {r : Except Err c.Result}

/-- The label of a call. -/
def credited (name : String) (sv : Server) (why : Cause) (c : Call) (ch : Choice) : Option ℕ :=
  match why, c with
  | .renewal o _ _, .updateAdmin u _ =>
    if u = name ∧ ch.takes ∧ (sv.admins name).isSome then some o.id else none
  | _, _ => none

theorem Balanced.keep (h : Balanced T₀ rid name l₀ E w) (hw : w'.store = w.store)
    (hq : Quota w'.server name (balance T₀ l₀ E)) : Balanced T₀ rid name l₀ E w' :=
  { h with quota := hq, books := by rw [hw]; exact h.books }

/-- The renewal of an order takes effect on the admin. -/
theorem Balanced.renew (h : Balanced T₀ rid name l₀ E w) (hw : Working (Sold T₀) T₀ i w.store v)
    (hseen : Seen name (balance T₀ l₀ E) v) {o : Order} {re : Reseller} {target before : Snapshot}
    {live : Admin} (hb : Backed v o re target name) (hanswer : (name, some live) ∈ v.answers)
    (hrecorded : o.beforeSnapshot = some before) (huntouched : snapshotMatches live before)
    (hstore : w'.store = w.store)
    (hserver : w'.server = w.lost (.updateAdmin name (renewalPayload target)) true) :
    Balanced T₀ rid name l₀ (E ++ [o.id]) w' := by
  have hp := h.posted hw hseen
  obtain ⟨row, hrow, hsame⟩ := hp.truth.orders _ _ hb.order
  have hrid : re.id = rid := hp.holder hb.reseller hb.admin
  have hrowrid : row.resellerId = rid := by rw [hsame.resellerId, ← hb.owner, hrid]
  have htarget : row.target = some target := by rw [hsame.target, hb.target]
  obtain ⟨b, l, hbefore, hl, htl, hpos, -, -, hcredited⟩ :=
    (hp.books.rows _ _ hrow hrowrid).priced (hsame.open hb.opens) target htarget
  -- the admin is as it was found, so its limit is the one before
  obtain ⟨_, ⟨⟩, hlimit, -⟩ := hp.seen _ hanswer
  have hlb : l = balance T₀ l₀ E := by
    have hmatch := congrArg Snapshot.dataLimit (of_decide_eq_true huntouched)
    have hbb : b = before := by
      have := hbefore.symm.trans (hsame.before.trans hrecorded)
      exact Option.some.inj this
    rw [hbb] at hl
    exact Option.some.inj (hl.symm.trans (hmatch.symm.trans hlimit))
  have hid : row.id = o.id := hsame.id
  rw [hid, hlb] at htl
  rw [hid] at hpos hcredited
  have hnew : o.id ∉ E := fun hm => absurd (hlb ▸ hcredited hm) (lt_irrefl _)
  have hsum : balance T₀ l₀ (E ++ [o.id]) = balance T₀ l₀ E + worth T₀ o.id := balance_concat
  have hle : balance T₀ l₀ E ≤ balance T₀ l₀ (E ++ [o.id]) := by omega
  obtain ⟨o₀, ho₀, hadv⟩ := hp.books.origin hp.since hrow
  constructor
  · exact h.nodup.append (List.nodup_singleton _) (by simpa using hnew)
  · intro id hm
    rcases List.mem_append.mp hm with hm | hm
    · exact h.orders id hm
    · obtain rfl := List.mem_singleton.mp hm
      refine ⟨o₀, ho₀, hadv.reseller.symm.trans hrowrid, ?_⟩
      by_contra hclosed
      exact (hadv.closed_of hclosed).2 (hsame.open hb.opens)
  · rw [hserver]
    exact h.quota.updated (by rw [hsum]; exact htl) hle
  · exact h.floor.trans hle
  · rw [hstore]
    have htarget' : target.dataLimit = some (balance T₀ l₀ (E ++ [o.id])) := by rw [hsum, htl]
    -- the row that the worker sees, and the committed one, have the target
    have hvisible : (w.store.visible i).Advance (w.store.visible i) := .refl _
    refine ⟨h.books.1.concat hpos fun row₁ hrow₁ => ⟨target, ?_, htarget'⟩, ?_⟩
    · obtain ⟨row₂, hrow₂, htarget₂, -⟩ := hw.saved _ row hb.saved hrow (by rw [htarget]; rintro ⟨⟩)
      cases hrow₁.symm.trans hrow₂
      rw [htarget₂, htarget]
    · intro j T ht
      obtain rfl := (hw.holder j T ht).1
      refine (h.books.2 j T ht).concat hpos fun row₁ hrow₁ => ⟨target, ?_, htarget'⟩
      rw [Store.visible_of_txn _ _ _ ht] at hrow
      cases hrow.symm.trans hrow₁
      exact htarget
  · exact h.named

/-- **A call** leaves the ledger balanced, with what it has credited. -/
theorem Balanced.call (h : Balanced T₀ rid name l₀ E w) (hw : Working (Sold T₀) T₀ i w.store v)
    (hseen : Seen name (balance T₀ l₀ E) v) (hok : c.writesAdmin → CallOk .orders v why c)
    (hr : w.call c ch = some (r, w')) :
    Balanced T₀ rid name l₀ (E ++ (credited name w.server why c ch).toList) w' := by
  have hstore := World.call_store hr
  have hp := h.posted hw hseen
  cases hc : c.writesAdmin with
  | false =>
    have hnone : credited name w.server why c ch = none := by
      cases c <;> cases hc <;> cases why <;> rfl
    rw [hnone, Option.toList_none, List.append_nil]
    exact h.keep hstore (by rw [World.call_server_quiet hc hr]; exact h.quota)
  | true =>
    have hserver := World.call_server hc hr
    have hother : ∀ {re : Reseller} {u : String}, v.resellers re.id = some re →
        re.rebeccaAdminUsername = some u → re.status = .PROVISIONING → u ≠ name := by
      rintro re u hre hu hs rfl
      exact (hp.known hre (hp.holder hre hu)).2 hs
    have hkeep : credited name w.server why c ch = none → (∀ p, c ≠ .createResellerAdmin (some name) p) →
        (∀ p, c ≠ .updateAdmin name p) →
        Balanced T₀ rid name l₀ (E ++ (credited name w.server why c ch).toList) w' := by
      intro hnone hcreate hupdate
      rw [hnone, Option.toList_none, List.append_nil]
      exact h.keep hstore (by rw [hserver]; exact h.quota.lost hcreate hupdate)
    cases hok hc with
    | create backed status =>
      have hne := hother backed.reseller backed.admin status
      exact hkeep rfl (fun p he => hne (Option.some.inj (Call.createResellerAdmin.inj he).1)) (fun p => nofun)
    | recover backed status =>
      have hne := hother backed.reseller backed.admin status
      exact hkeep rfl (fun p => nofun) fun p he => hne (Call.updateAdmin.inj he).1
    | @renew o re target before u live backed _ _ answer _ recorded untouched =>
      by_cases hu : u = name
      · subst hu
        have hsome : (w.server.admins u).isSome := by
          obtain ⟨a, ha, -⟩ := h.quota
          rw [ha]
          rfl
        cases htakes : ch.takes with
        | true =>
          have hlabel : credited u w.server (.renewal o re live)
              (.updateAdmin u (renewalPayload target)) ch = some o.id := by
            simp only [credited, htakes, hsome, and_self, if_true]
          rw [hlabel]
          rw [htakes] at hserver
          exact h.renew hw hseen backed answer recorded untouched hstore hserver
        | false =>
          have hlabel : credited u w.server (.renewal o re live)
              (.updateAdmin u (renewalPayload target)) ch = none := by
            simp only [credited, htakes, Bool.false_eq_true, false_and, and_false, if_false]
          rw [hlabel, Option.toList_none, List.append_nil]
          refine h.keep hstore ?_
          rw [hserver, htakes]
          exact h.quota
      · exact hkeep (if_neg fun hn => hu hn.1) (fun p => nofun)
          fun p he => hu (Call.updateAdmin.inj he).1
    | reenable => exact hkeep rfl (fun p => nofun) fun p => nofun
    | createTrial role => cases role
    | recoverTrial role => cases role
    | disable =>
      refine hkeep ?_ (fun p => nofun) fun p => nofun
      cases why <;> rfl
    | enable role => cases role

end Renewals

/-! ## Runs -/

section Runs

variable {cfg : Settings} {batchSize : ℕ} {c₀ c : BotConfig} {vs : ℕ → Option (Task × View)}

theorem credit_call {t : Task} {why : Cause} {call : Call} {k : Resp (.call why call) → _}
    {ch : Choice} (hi : c.threads i = some (t, .ask (.call why call) k)) :
    credit name c (.run i ch) = credited name c.world.server why call ch := by
  simp only [credit, hi]
  cases why <;> cases call <;> rfl

theorem credit_of_not_call {t : Task} {e : Ev} {k : Resp e → _} {ch : Choice}
    (hi : c.threads i = some (t, .ask e k)) (hcall : ∀ why call, e ≠ .call why call) :
    credit name c (.run i ch) = none := by
  simp only [credit, hi]
  cases e with
  | call why call => exact absurd rfl (hcall why call)
  | _ => rfl

/-- `OneAtWork`, with the ledger. -/
def Accounted (T₀ : Tables) (rid : ℕ) (name : String) (l₀ : ℤ) (E : List ℕ) (w : World)
    (vs : ℕ → Option (Task × View)) : Prop :=
  Balanced T₀ rid name l₀ E w ∧
    (((∀ j, vs j = none) ∧ Resting (Sold T₀) T₀ w.store) ∨
      ∃ (i : ℕ) (v : View), Working (Sold T₀) T₀ i w.store v ∧ Seen name (balance T₀ l₀ E) v ∧
        vs = Function.update (fun _ => none) i (some (.reconcilePaidOrders, v)))

theorem Account.accounted {w : World} (h : Account ⟨w, c₀.threads⟩ rid name l₀)
    (hfresh : BotConfig.Fresh (Sold w.store.committed) ⟨w, c₀.threads⟩) :
    Balanced w.store.committed rid name l₀ [] w where
  nodup := List.nodup_nil
  orders _ hm := absurd hm List.not_mem_nil
  quota := by rw [balance_nil]; exact h.quota
  floor := by rw [balance_nil]
  named := h.named
  books := by
    refine ⟨⟨rfl, h.reseller, h.unique, ?_⟩, fun j T ht => ?_⟩
    · intro i row hi hrid
      obtain ⟨hm, hid⟩ := Rows.mem_of_get hi
      constructor
      · intro hopen t ht
        rw [h.fresh row hm hrid hopen] at ht
        cases ht
      · exact fun hm => absurd hm List.not_mem_nil
      · rintro hs ⟨o₀, ho₀, hopen⟩
        rw [hid] at ho₀
        cases hi.symm.trans ho₀
        rw [Order.Open, hs] at hopen
        rcases hopen with h' | h' <;> cases h'
    · rw [hfresh.closed] at ht
      cases ht

/-- A call, as the worker knows it afterwards. -/
theorem Seen.called {w w' : World} {call : Call} {ch : Choice}
    {r : Except Err call.Result} {E' : List ℕ} (hseen : Seen name (balance T₀ l₀ E) v)
    (hq : Quota w.server name (balance T₀ l₀ E)) (hE : call.writesAdmin = false → E' = E)
    (hr : w.call call ch = some (r, w')) : Seen name (balance T₀ l₀ E') (v.called call r) := by
  cases call with
  | createResellerAdmin | updateAdmin | enableAdmin | disableAdmin =>
    cases r <;> exact .nothing rfl
  | getAdmin username =>
    obtain rfl := hE rfl
    cases r with
    | error => exact hseen
    | ok live =>
      cases username with
      | none => exact hseen
      | some u =>
        rintro a (⟨⟨⟩⟩ | hm)
        · cases ch with
          | done =>
            cases hr
            obtain ⟨b, hb, hlimit, -, hused⟩ := hq
            refine ⟨{ b with username := name }, ?_, hlimit, hused⟩
            show (w.server.admins name).map _ = _
            rw [hb]
            rfl
          | fail e took =>
            simp only [World.call] at hr
            split_ifs at hr
            cases hr
          | _ => cases hr
        · exact hseen a hm
  | _ =>
    obtain rfl := hE rfl
    cases r <;> exact hseen

theorem Accounted.logs (hfresh : c₀.Fresh (Sold c₀.world.store.committed))
    (haccount : Account c₀ rid name l₀)
    (h : (bot cfg batchSize).Logs (credit name)
      (SteadyWorker (Sold c₀.world.store.committed) name) c₀ E c) :
    ∃ vs, Tracked (Task.Spec (Sold c₀.world.store.committed)) (· = .start) c vs ∧
      Accounted c₀.world.store.committed rid name l₀ E c.world vs := by
  have h0 : ∃ vs, Tracked (Task.Spec (Sold c₀.world.store.committed)) (· = .start) c₀ vs ∧
      Accounted c₀.world.store.committed rid name l₀ [] c₀.world vs := by
    refine ⟨fun _ => none, fun j => ?_, haccount.accounted hfresh,
      .inl ⟨fun _ => rfl, hfresh.closed, hfresh.sound, .refl _⟩⟩
    rw [hfresh.idle j]
  refine h.invariant (Task.Spec (Sold c₀.world.store.committed)) (· = .start) .start
    (Accounted c₀.world.store.committed rid name l₀) (Task.ok_spec cfg batchSize) h0 ?_ ?_ ?_ ?_ ?_
  · rintro E w vs i t v ⟨hB, ⟨hnone, -⟩ | ⟨j, v', hw, hseen, rfl⟩⟩ hi rfl
    · exact absurd ((hnone i).symm.trans hi) (by simp)
    · obtain rfl : i = j := by
        by_contra hne
        rw [Function.update_of_ne hne] at hi
        cases hi
      rw [Function.update_self] at hi
      cases hi
      refine ⟨hB, .inl ⟨fun j => ?_, hw.ends⟩⟩
      rw [Function.update_idem]
      by_cases hj : j = i
      · rw [hj, Function.update_self]
      · rw [Function.update_of_ne hj]
  · rintro E c vs i t htracked ⟨hB, hJ⟩ - ⟨rfl, hidle⟩
    have hnone : ∀ j, vs j = none := fun j => htracked.gone (hidle j)
    rw [show credit name c (.spawn i .reconcilePaidOrders) = none from rfl, Option.toList_none,
      List.append_nil]
    rcases hJ with ⟨-, hrest⟩ | ⟨j, v, -, -, rfl⟩
    · exact ⟨hB, .inr ⟨i, .start, hrest.starts, .nothing rfl, by rw [funext hnone]⟩⟩
    · exact absurd ((hnone j).symm.trans (Function.update_self _ _ _)) (by simp)
  · rintro E c vs i t e k ch r w' v ⟨hB, ⟨hnone, -⟩ | ⟨j, v', hw, hseen, rfl⟩⟩ hthread hi hpre - hreact
    · exact absurd ((hnone i).symm.trans hi) (by simp)
    · obtain rfl : i = j := by
        by_contra hne
        rw [Function.update_of_ne hne] at hi
        cases hi
      rw [Function.update_self] at hi
      cases hi
      have hok : Allowed .orders (Sold c₀.world.store.committed) v e := hpre
      obtain ⟨hanswered, hw'⟩ := hw.react hok hreact
      by_cases hcall : ∃ why call, e = .call why call
      · obtain ⟨why, call, rfl⟩ := hcall
        refine ⟨_, ⟨rfl, hanswered⟩, ?_, .inr ⟨i, _, hw', ?_, Function.update_idem _ _ _⟩⟩
        · rw [credit_call hthread]
          exact hB.call hw hseen hok hreact
        · refine hseen.called hB.quota (fun hq => ?_) hreact
          rw [credit_call hthread]
          cases call <;> cases hq <;> cases why <;> exact List.append_nil _
      · have hcall' : ∀ why call, e ≠ .call why call := fun why call he => hcall ⟨why, call, he⟩
        rw [credit_of_not_call hthread hcall', Option.toList_none, List.append_nil]
        exact ⟨_, ⟨rfl, hanswered⟩, hB.react hw hseen hok hcall' hreact,
          .inr ⟨i, _, hw', hseen.mono (View.after_answers v hcall'), Function.update_idem _ _ _⟩⟩
  · rintro E c vs w' ⟨hB, hJ⟩ ⟨ho, hq⟩
    rw [show credit name c (.env w') = none from rfl, Option.toList_none, List.append_nil]
    refine ⟨{ hB with quota := hq _ hB.quota, books := ?_ }, ?_⟩
    · exact ⟨hB.books.1.frame ho.orders ho.resellers, fun j T ht => hB.books.2 j T (ho.txn ▸ ht)⟩
    · exact hJ.imp (fun h => ⟨h.1, h.2.outside ho⟩)
        fun ⟨i, v, hw, hseen, hvs⟩ => ⟨i, v, hw.outside ho, hseen, hvs⟩
  · rintro E c vs ⟨hB, hJ⟩ -
    rw [show credit name c .crash = none from rfl, Option.toList_none, List.append_nil]
    refine ⟨{ hB with books := hB.books.recover }, .inl ⟨fun _ => rfl, ?_⟩⟩
    rcases hJ with ⟨-, hrest⟩ | ⟨i, v, hw, -⟩
    · exact ⟨rfl, hrest.sound, hrest.since⟩
    · exact hw.crash

/-- **A renewal is credited once.**  Over runs of the order worker with failures, lost responses and
restarts, the renewals that take effect on an admin are of distinct orders that its reseller had
paid, and the data limit is what it was and the traffic of these orders.  An order that has been
applied is one of them, or one of them has the same target. -/
theorem credited_once (hfresh : c₀.Fresh (Sold c₀.world.store.committed))
    (haccount : Account c₀ rid name l₀)
    (h : (bot cfg batchSize).Logs (credit name)
      (SteadyWorker (Sold c₀.world.store.committed) name) c₀ E c) :
    E.Nodup ∧
    (∀ id ∈ E, ∃ o₀ ∈ c₀.world.store.committed.orders, o₀.id = id ∧ o₀.resellerId = rid ∧
      o₀.Open) ∧
    Quota c.world.server name (balance c₀.world.store.committed l₀ E) ∧
    ∀ o₀ ∈ c₀.world.store.committed.orders, o₀.resellerId = rid → o₀.Open →
      ∀ o ∈ c.world.store.committed.orders, o.id = o₀.id → o.status = .APPLIED →
        ∃ x ∈ c.world.store.committed.orders, x.id ∈ E ∧ ∃ t tx, o.target = some t ∧
          x.target = some tx ∧ t.dataLimit = tx.dataLimit := by
  obtain ⟨vs, -, hB, hJ⟩ := Accounted.logs hfresh haccount h
  have hsince : c₀.world.store.committed.Advance c.world.store.committed := by
    rcases hJ with ⟨-, hrest⟩ | ⟨i, v, hw, -⟩
    · exact hrest.since
    · exact hw.since
  have hsound : c.world.store.committed.Sound (Sold c₀.world.store.committed) := by
    rcases hJ with ⟨-, hrest⟩ | ⟨i, v, hw, -⟩
    · exact hrest.sound
    · exact hw.sound.1
  have hbooks := hB.books.1
  refine ⟨hB.nodup, fun id hid => ?_, hB.quota, fun o₀ ho₀ hrid hopen o ho hid hs => ?_⟩
  · obtain ⟨o₀, ho₀, hrest⟩ := hB.orders id hid
    exact ⟨o₀, (Rows.mem_of_get ho₀).1, (Rows.mem_of_get ho₀).2, hrest⟩
  · have hrow := hsound.orders.get ho
    have hrow₀ := hfresh.sound.orders.get ho₀
    obtain ⟨o₁, ho₁, hadv⟩ := hbooks.origin hsince hrow
    rw [← hid] at hrow₀
    cases hrow₀.symm.trans ho₁
    obtain ⟨t, pre, ht, hpre, hne, htl⟩ :=
      (hbooks.rows _ _ hrow (hadv.reseller.trans hrid)).applied hs ⟨o₀, hrow₀, hopen⟩
    -- the last renewal of the prefix has set the limit that the target says
    obtain ⟨pre', id, rfl⟩ := (List.eq_nil_or_concat' pre).resolve_left hne
    have hmem : id ∈ E := hpre.subset (List.mem_append_right _ (List.mem_singleton_self id))
    obtain ⟨y₀, hy₀, hyrid, -⟩ := hB.orders id hmem
    obtain ⟨x, hx, hxadv⟩ := hsince.orders id y₀ hy₀
    obtain ⟨hxmem, rfl⟩ := Rows.mem_of_get hx
    obtain ⟨tx, pre'', htx, hpre'', htxl⟩ :=
      (hbooks.rows _ x hx (hxadv.reseller.trans hyrid)).credited hmem
    rw [prefix_concat_unique hB.nodup hpre'' hpre] at htxl
    exact ⟨x, hxmem, hmem, t, tx, ht, htx, htl.trans htxl.symm⟩

end Runs

/-! ## A run -/

namespace Lapsed

def halfUsedAdmin : Admin :=
  { admin with status := "active", dataLimit := some 200, expire := some (200000 * second) }

/-- The reseller has bought a gigabyte more while half of its quota was left. -/
def halfUsed : BotConfig where
  world := { paidWorld with server := server.setAdmin "ali_1234" halfUsedAdmin }
  threads _ := none

theorem fresh_halfUsed : halfUsed.Fresh (Sold halfUsed.world.store.committed) where
  idle _ := rfl
  closed := rfl
  sound := ⟨List.nodup_singleton _, List.nodup_singleton _, fun p hp => by
    obtain rfl := List.mem_singleton.mp hp
    exact ⟨by decide, product, rfl, rfl⟩⟩

theorem account_halfUsed : Account halfUsed 1 "ali_1234" 200 where
  named := by decide
  reseller := ⟨_, rfl, rfl, by decide⟩
  unique r hr _ := by
    obtain rfl := List.mem_singleton.mp hr
    rfl
  quota := by
    refine ⟨halfUsedAdmin, ?_, rfl, by decide, by decide⟩
    show Function.update server.admins "ali_1234" (some halfUsedAdmin) "ali_1234" = _
    rw [Function.update_self]
  fresh o ho _ _ := by
    obtain rfl := List.mem_singleton.mp ho
    rfl

/-- Until the order is applied and that is committed. -/
theorem halfUsed_credited : ∃ E c,
    (bot settings 50).Logs (credit "ali_1234")
      (SteadyWorker (Sold halfUsed.world.store.committed) "ali_1234") halfUsed E c ∧
    (∃ o ∈ c.world.store.committed.orders, o.id = 100 ∧ o.status = .APPLIED) ∧ E.Nodup ∧
      Quota c.world.server "ali_1234" (balance halfUsed.world.store.committed 200 E) := by
  have h : (((bot settings 50).runs halfUsed
      (.spawn 0 .reconcilePaidOrders :: List.replicate 23 (.run 0 .done))).map fun c =>
        c.world.store.committed.orders.map fun o => (o.id, o.status)) =
      some [(100, .APPLIED)] := by cbv
  obtain ⟨c, hr, hc⟩ := Option.map_eq_some_iff.mp h
  have hreach : (bot settings 50).Reach
      (SteadyWorker (Sold halfUsed.world.store.committed) "ali_1234") halfUsed c := by
    refine .of_runs_cons hr ⟨rfl, fun _ => rfl⟩ fun m hm c => ?_
    rw [List.eq_of_mem_replicate hm]
    trivial
  obtain ⟨E, hlogs⟩ := hreach.logs (credit "ali_1234")
  obtain ⟨hnodup, -, hquota, -⟩ := credited_once fresh_halfUsed account_halfUsed hlogs
  refine ⟨E, c, hlogs, ?_, hnodup, hquota⟩
  obtain ⟨o, ho, hoe⟩ := List.mem_map.mp (hc ▸ List.mem_singleton_self _ :
    (100, OrderStatus.APPLIED) ∈ c.world.store.committed.orders.map fun o => (o.id, o.status))
  exact ⟨o, ho, congrArg Prod.fst hoe, congrArg Prod.snd hoe⟩

end Lapsed

end ResellerBot
