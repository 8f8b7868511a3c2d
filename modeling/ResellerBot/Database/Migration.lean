import ResellerBot.Python
import ResellerBot.Machine
import Mathlib.Data.List.Sort
import Mathlib.Data.List.Nodup
import Mathlib.Data.List.Dedup
import Mathlib.Data.String.Basic

/-!
# ResellerBot.Database.Migration — `init_db` on an old table of trials (`app/database/session.py`)

The table `trial_records` with whatever indexes it has, as SQLite keeps them.  Values are compared
as they are: no collation is modelled.
-/

namespace ResellerBot

/-! ## Tables and indexes -/

section Schema

variable (ν : Type)

/-- A row: the values of its columns, of which a missing one is NULL. -/
abbrev Row := String → Option ν

/-- What an index sorts by. -/
inductive IndexTerm
  | column (name : String)
  | expression (value : Row ν → Option ν)

/-- An index, with the condition of its WHERE clause if it has one. -/
structure Index where
  name : String
  unique : Bool
  terms : List (IndexTerm ν)
  where_ : Option (Row ν → Bool)

/-- The database as far as the migration is about it; `admits` says which rows the other constraints
of `trial_records` let in. -/
@[ext] structure TrialDatabase where
  rows : List (Row ν)
  indexes : List (Index ν)
  admits : Row ν → Bool
  userColumns : List String
  admitted : ∀ r ∈ rows, admits r = true

end Schema

section Columns

variable {ν : Type}

def IndexTerm.value (r : Row ν) : IndexTerm ν → Option ν
  | .column name => r name
  | .expression value => value r

/-- `PRAGMA index_info`: an expression has no column name. -/
def IndexTerm.name : IndexTerm ν → Option String
  | .column name => some name
  | .expression _ => none

namespace Index

/-- The row is in the index. -/
def covers (i : Index ν) (r : Row ν) : Bool := i.where_.all fun p => p r

/-- A unique index holds at most one of the rows; NULLs are distinct. -/
def rejects [DecidableEq ν] (i : Index ν) (r r' : Row ν) : Bool :=
  i.unique && i.covers r && i.covers r' &&
    i.terms.all fun t => (t.value r).isSome && t.value r = t.value r'

end Index

end Columns

/-- SQLite ignores the case of names. -/
def sameName (a b : String) : Bool := a.toLower = b.toLower

def existsError (name : String) : Err := ⟨.operational, "index " ++ name ++ " already exists"⟩

def uniqueError : Err := ⟨.integrity, "UNIQUE constraint failed: trial_records"⟩

section Statements

variable {ν : Type} [DecidableEq ν]

namespace TrialDatabase

/-- `INSERT INTO trial_records`: a row that a constraint does not let in changes nothing. -/
def insert (db : TrialDatabase ν) (r : Row ν) : TrialDatabase ν :=
  if h : db.admits r = true ∧ db.indexes.any (fun i => db.rows.any (i.rejects r)) = false then
    { db with
      rows := db.rows ++ [r]
      admitted := by simpa [or_imp, forall_and] using ⟨db.admitted, h.1⟩ }
  else db

section Insert

variable {db : TrialDatabase ν} {r : Row ν}

theorem rows_insert (hr : db.admits r = true)
    (hfree : db.indexes.any (fun i => db.rows.any (i.rejects r)) = false) :
    (db.insert r).rows = db.rows ++ [r] := by
  rw [insert, dif_pos ⟨hr, hfree⟩]

@[simp] theorem indexes_insert : (db.insert r).indexes = db.indexes := by
  unfold insert
  split_ifs <;> rfl

@[simp] theorem admits_insert : (db.insert r).admits = db.admits := by
  unfold insert
  split_ifs <;> rfl

end Insert

/-- `DELETE FROM trial_records WHERE` -/
def delete (db : TrialDatabase ν) (p : Row ν → Bool) : TrialDatabase ν :=
  { db with
    rows := db.rows.filter fun r => !p r
    admitted := fun r hr => db.admitted r (List.mem_of_mem_filter hr) }

/-- `CREATE UNIQUE INDEX` -/
def createUniqueIndex (db : TrialDatabase ν) (i : Index ν) : Except Err (TrialDatabase ν) :=
  if db.indexes.any (sameName i.name ·.name) then .error (existsError i.name)
  else if ¬db.rows.Pairwise fun r r' => ¬i.rejects r r' then .error uniqueError
  else .ok { db with indexes := db.indexes ++ [i] }

end TrialDatabase

end Statements

/-! ## `init_db` -/

section Parts

variable {ν : Type} {db : TrialDatabase ν}

def adminUsername (r : Row ν) : Option ν := r "admin_username"

/-- The values that are not NULL. -/
def adminUsernames (db : TrialDatabase ν) : List ν := db.rows.filterMap adminUsername

/-- A unique index with `admin_username` as its only column is listed. -/
def hasUniqueAdminUsername (db : TrialDatabase ν) : Bool :=
  db.indexes.any fun i => i.unique && i.terms.map IndexTerm.name = [some "admin_username"]

/-- `ON trial_records(admin_username) WHERE admin_username IS NOT NULL` -/
def notNullIndex : Index ν where
  name := "ux_trial_records_admin_username_not_null"
  unique := true
  terms := [.column "admin_username"]
  where_ := some fun r => (adminUsername r).isSome

def addOwnExpiry (db : TrialDatabase ν) : TrialDatabase ν :=
  if "disabled_by_own_expiry" ∈ db.userColumns then db
  else { db with userColumns := db.userColumns ++ ["disabled_by_own_expiry"] }

@[simp] theorem rows_addOwnExpiry : (addOwnExpiry db).rows = db.rows := by
  unfold addOwnExpiry
  split_ifs <;> rfl

@[simp] theorem indexes_addOwnExpiry : (addOwnExpiry db).indexes = db.indexes := by
  unfold addOwnExpiry
  split_ifs <;> rfl

@[simp] theorem admits_addOwnExpiry : (addOwnExpiry db).admits = db.admits := by
  unfold addOwnExpiry
  split_ifs <;> rfl

theorem adminUsernames_addOwnExpiry : adminUsernames (addOwnExpiry db) = adminUsernames db := by
  rw [adminUsernames, rows_addOwnExpiry, adminUsernames]

theorem hasUnique_addOwnExpiry :
    hasUniqueAdminUsername (addOwnExpiry db) = hasUniqueAdminUsername db := by
  rw [hasUniqueAdminUsername, indexes_addOwnExpiry, hasUniqueAdminUsername]

/-- No index has the name of the one that the migration creates. -/
def NameFree (db : TrialDatabase ν) : Prop :=
  db.indexes.any (sameName (notNullIndex : Index ν).name ·.name) = false

/-- The database with the new index. -/
def withNotNullIndex (db : TrialDatabase ν) : TrialDatabase ν :=
  { db with indexes := db.indexes ++ [notNullIndex] }

theorem hasUnique_withNotNullIndex :
    hasUniqueAdminUsername (withNotNullIndex (addOwnExpiry db)) = true :=
  List.any_eq_true.mpr ⟨notNullIndex, List.mem_append_right _ List.mem_cons_self, rfl⟩

theorem addOwnExpiry_of_mem (h : "disabled_by_own_expiry" ∈ db.userColumns) :
    addOwnExpiry db = db := if_pos h

theorem mem_userColumns_addOwnExpiry :
    "disabled_by_own_expiry" ∈ (addOwnExpiry db).userColumns := by
  unfold addOwnExpiry
  split_ifs with h
  · exact h
  · exact List.mem_append_right _ List.mem_cons_self

end Parts

section Migration

variable {ν : Type} [LinearOrder ν]

/-- `SELECT … GROUP BY admin_username HAVING COUNT(*) > 1 LIMIT 10` -/
def duplicates (db : TrialDatabase ν) : List ν :=
  (((adminUsernames db).dedup.filter fun v => 1 < (adminUsernames db).count v).insertionSort
    (· ≤ ·)).take 10

def duplicatesError (str : ν → String) (usernames : List ν) : Err :=
  ⟨.runtime, "cannot enforce unique trial admin usernames; " ++
    "duplicate existing values require manual review: " ++
    ", ".intercalate (usernames.map str)⟩

/-- The body of `init_db`, once all tables exist. -/
def migrate (str : ν → String) (db : TrialDatabase ν) : Except Err (TrialDatabase ν) :=
  let db := addOwnExpiry db
  if duplicates db ≠ [] then .error (duplicatesError str (duplicates db))
  else if hasUniqueAdminUsername db then .ok db
  else db.createUniqueIndex notNullIndex

/-- `init_db`: the driver does not roll DDL back, so that an added column outlives a failure. -/
def initDb (str : ν → String) (db : TrialDatabase ν) : Except Err Unit × TrialDatabase ν :=
  match migrate str db with
  | .ok db' => (.ok (), db')
  | .error e => (.error e, addOwnExpiry db)

/-! ## Duplicates -/

variable {db : TrialDatabase ν} {str : ν → String}

theorem duplicates_eq_nil_iff : duplicates db = [] ↔ (adminUsernames db).Nodup := by
  have hperm : ∀ l : List ν, (l.insertionSort (· ≤ ·)).take 10 = [] ↔ l = [] := by
    intro l
    rw [List.take_eq_nil_iff]
    constructor
    · rintro (h | h)
      · cases h
      · exact List.Perm.eq_nil (h ▸ (List.perm_insertionSort (· ≤ ·) l).symm)
    · rintro rfl
      exact .inr rfl
  rw [duplicates, hperm, List.filter_eq_nil_iff, List.nodup_iff_count_le_one]
  constructor
  · intro h v
    by_cases hv : v ∈ adminUsernames db
    · simpa using h v (List.mem_dedup.mpr hv)
    · rw [List.count_eq_zero_of_not_mem hv]
      exact Nat.zero_le 1
  · intro h v _
    simpa using h v

/-! ## Inserts and deletes -/

inductive TrialEvent (ν : Type)
  | insert (r : Row ν)
  | delete (p : Row ν → Bool)

def TrialDatabase.step (db : TrialDatabase ν) : TrialEvent ν → TrialDatabase ν
  | .insert r => db.insert r
  | .delete p => db.delete p

/-- Any two rows with the same name are kept apart by some index. -/
def Covers (db : TrialDatabase ν) : Prop :=
  ∀ r r' v, db.admits r = true → db.admits r' = true → adminUsername r = some v →
    adminUsername r' = some v → db.indexes.any (·.rejects r r') = true

/-- What inserts and deletes keep if the indexes keep the names apart. -/
structure Guarded (db : TrialDatabase ν) : Prop where
  covers : Covers db
  nodup : (adminUsernames db).Nodup

theorem Guarded.step (h : Guarded db) (e : TrialEvent ν) : Guarded (db.step e) := by
  cases e with
  | insert r =>
    show Guarded (db.insert r)
    unfold TrialDatabase.insert
    split_ifs with hr
    · refine ⟨h.covers, ?_⟩
      show ((db.rows ++ [r]).filterMap adminUsername).Nodup
      cases hname : adminUsername r with
      | none =>
        rw [List.filterMap_append, List.filterMap_cons_none hname, List.filterMap_nil,
          List.append_nil]
        exact h.nodup
      | some v =>
        rw [List.filterMap_append, List.filterMap_cons_some hname, List.filterMap_nil,
          List.nodup_append]
        refine ⟨h.nodup, List.nodup_singleton v, ?_⟩
        rintro v' hv' _ hmem rfl
        obtain rfl := List.mem_singleton.mp hmem
        obtain ⟨r', hr', hname'⟩ := List.mem_filterMap.mp hv'
        have hany := h.covers r r' v' hr.1 (db.admitted r' hr') hname hname'
        obtain ⟨i, hi, hrejects⟩ := List.any_eq_true.mp hany
        have hnone := List.any_eq_false.mp (List.any_eq_false.mp hr.2 i hi |> Bool.eq_false_iff.mpr)
        exact hnone r' hr' hrejects
    · exact h
  | delete p =>
    refine ⟨h.covers, ?_⟩
    exact h.nodup.sublist (List.filter_sublist.filterMap adminUsername)

/-- **Names stay apart in every run exactly if the indexes keep them apart.** -/
theorem run_nodup_iff (hnodup : (adminUsernames db).Nodup) :
    (∀ es, (adminUsernames (Machine.run TrialDatabase.step db es)).Nodup) ↔ Covers db := by
  constructor
  · intro h r r' v hr hr' hname hname'
    by_contra hnone
    rw [Bool.not_eq_true] at hnone
    have hempty : (db.delete fun _ => true).rows = [] := by simp [TrialDatabase.delete]
    have hfirst : ((db.delete fun _ => true).insert r').rows = [r'] := by
      have hadmits : (db.delete fun _ => true).admits r' = true := hr'
      have hfree : (db.delete fun _ => true).indexes.any
          (fun i => (db.delete fun _ => true).rows.any (i.rejects r')) = false := by
        rw [hempty]
        simp
      rw [TrialDatabase.rows_insert hadmits hfree, hempty]
      rfl
    have hsecond : (((db.delete fun _ => true).insert r').insert r).rows = [r', r] := by
      have hfree : ((db.delete fun _ => true).insert r').indexes.any
          (fun i => ((db.delete fun _ => true).insert r').rows.any (i.rejects r)) = false := by
        rw [hfirst, TrialDatabase.indexes_insert]
        simpa [TrialDatabase.delete] using hnone
      have hadmits : ((db.delete fun _ => true).insert r').admits r = true := by
        rw [TrialDatabase.admits_insert]
        exact hr
      rw [TrialDatabase.rows_insert hadmits hfree, hfirst]
      rfl
    have hrun := h [.delete fun _ => true, .insert r', .insert r]
    have hnames : adminUsernames (Machine.run TrialDatabase.step db
        [.delete fun _ => true, .insert r', .insert r]) = [v, v] := by
      show (((db.delete fun _ => true).insert r').insert r).rows.filterMap adminUsername = _
      rw [hsecond, List.filterMap_cons_some hname', List.filterMap_cons_some hname]
      rfl
    rw [hnames] at hrun
    simp at hrun
  · intro h es
    have hrun : Guarded (Machine.run TrialDatabase.step db es) :=
      Machine.run_inv (I := Guarded) (fun _ e hg => hg.step e) ⟨h, hnodup⟩
    exact hrun.nodup

/-! ## The migration -/

theorem rejects_notNullIndex {r r' : Row ν} {v : ν} (h : adminUsername r = some v)
    (h' : adminUsername r' = some v) : notNullIndex.rejects r r' = true := by
  have hcovers : (notNullIndex : Index ν).covers r = true ∧
      (notNullIndex : Index ν).covers r' = true := by
    constructor
    · show (adminUsername r).isSome = true
      rw [h]
      rfl
    · show (adminUsername r').isSome = true
      rw [h']
      rfl
  have hterm : ((IndexTerm.column "admin_username").value r).isSome &&
      (IndexTerm.column "admin_username").value r =
        (IndexTerm.column "admin_username").value r' := by
    show ((adminUsername r).isSome && decide (adminUsername r = adminUsername r')) = true
    rw [h, h']
    simp
  rw [Index.rejects, hcovers.1, hcovers.2]
  simpa [notNullIndex] using hterm

theorem eq_of_rejects_notNullIndex {r r' : Row ν} (h : notNullIndex.rejects r r' = true) :
    ∃ v, adminUsername r = some v ∧ adminUsername r' = some v := by
  have hterm : (r "admin_username").isSome ∧ r "admin_username" = r' "admin_username" := by
    simp only [Index.rejects, notNullIndex, List.all_cons, List.all_nil, Bool.and_true,
      Bool.and_eq_true, decide_eq_true_eq] at h
    exact h.2
  obtain ⟨v, hv⟩ := Option.isSome_iff_exists.mp hterm.1
  exact ⟨v, hv, hterm.2.symm.trans hv⟩

theorem migrate_of_duplicates (h : ¬(adminUsernames db).Nodup) :
    ∃ e, migrate str db = .error e := by
  have hne : duplicates (addOwnExpiry db) ≠ [] := by
    rw [ne_eq, duplicates_eq_nil_iff, adminUsernames_addOwnExpiry]
    exact h
  exact ⟨_, if_pos hne⟩

theorem migrate_of_nodup (h : (adminUsernames db).Nodup) : migrate str db =
    if hasUniqueAdminUsername db then .ok (addOwnExpiry db)
    else (addOwnExpiry db).createUniqueIndex notNullIndex := by
  have hnil : duplicates (addOwnExpiry db) = [] := by
    rw [duplicates_eq_nil_iff, adminUsernames_addOwnExpiry]
    exact h
  rw [← hasUnique_addOwnExpiry]
  exact if_neg (not_not.mpr hnil)

theorem createUniqueIndex_free (hfree : NameFree db) (h : (adminUsernames db).Nodup) :
    (addOwnExpiry db).createUniqueIndex notNullIndex =
      .ok (withNotNullIndex (addOwnExpiry db)) := by
  have hfree' : ¬(addOwnExpiry db).indexes.any (sameName (notNullIndex : Index ν).name ·.name) := by
    rw [indexes_addOwnExpiry, hfree]
    decide
  have hpairwise : (addOwnExpiry db).rows.Pairwise fun r r' => ¬notNullIndex.rejects r r' := by
    rw [rows_addOwnExpiry]
    have hnodup : db.rows.Pairwise fun r r' =>
        ∀ v, adminUsername r = some v → ∀ v', adminUsername r' = some v' → v ≠ v' :=
      List.pairwise_filterMap.mp h
    refine hnodup.imp fun {r r'} hne hrejects => ?_
    obtain ⟨v, hv, hv'⟩ := eq_of_rejects_notNullIndex hrejects
    exact hne v hv v hv' rfl
  rw [TrialDatabase.createUniqueIndex, if_neg hfree', if_neg (not_not.mpr hpairwise)]
  rfl

theorem createUniqueIndex_taken (htaken : ¬NameFree db) :
    ∃ e, (addOwnExpiry db).createUniqueIndex notNullIndex = .error e := by
  have htaken' : (addOwnExpiry db).indexes.any (sameName (notNullIndex : Index ν).name ·.name) := by
    rw [indexes_addOwnExpiry]
    exact Bool.not_eq_false _ |>.mp htaken
  exact ⟨_, if_pos htaken'⟩

/-- The migration fails exactly on duplicates, keeps the rows, makes the names unique from then on,
and changes nothing when it is repeated. -/
structure Migrates (str : ν → String) (db : TrialDatabase ν) : Prop where
  raises : (∃ e, (initDb str db).1 = .error e) ↔ ¬(adminUsernames db).Nodup
  rows : (initDb str db).2.rows = db.rows
  enforced : (initDb str db).1 = .ok () →
    ∀ es, (adminUsernames (Machine.run TrialDatabase.step (initDb str db).2 es)).Nodup
  again : (initDb str db).1 = .ok () → initDb str (initDb str db).2 = (.ok (), (initDb str db).2)

/-- There are duplicates, or the index that the migration relies on does its work, or the one that
it creates has a name of its own. -/
def Migratable (db : TrialDatabase ν) : Prop :=
  (adminUsernames db).Nodup →
    (hasUniqueAdminUsername db = true → Covers db) ∧
    (hasUniqueAdminUsername db = false → NameFree db)

theorem covers_withNotNullIndex : Covers (withNotNullIndex (addOwnExpiry db)) := by
  intro r r' v _ _ h h'
  refine List.any_eq_true.mpr ⟨notNullIndex, ?_, rejects_notNullIndex h h'⟩
  exact List.mem_append_right _ List.mem_cons_self

/-- A migrated database with a unique index is not migrated again. -/
theorem initDb_again {db' : TrialDatabase ν} (hcolumn : "disabled_by_own_expiry" ∈ db'.userColumns)
    (hnodup : (adminUsernames db').Nodup) (hunique : hasUniqueAdminUsername db' = true) :
    initDb str db' = (.ok (), db') := by
  rw [initDb, migrate_of_nodup hnodup, if_pos hunique, addOwnExpiry_of_mem hcolumn]

/-- **The migration does what it is for if and only if the database is ready for it.** -/
theorem migrates_iff (str : ν → String) (db : TrialDatabase ν) :
    Migrates str db ↔ Migratable db := by
  by_cases hnodup : (adminUsernames db).Nodup
  · cases hunique : hasUniqueAdminUsername db with
    | true =>
      have hrun : initDb str db = (.ok (), addOwnExpiry db) := by
        rw [initDb, migrate_of_nodup hnodup, if_pos hunique]
      have hnodup' : (adminUsernames (addOwnExpiry db)).Nodup := by
        rw [adminUsernames_addOwnExpiry]
        exact hnodup
      have hcovers : Covers (addOwnExpiry db) ↔ Covers db := by
        unfold Covers
        rw [indexes_addOwnExpiry, admits_addOwnExpiry]
      constructor
      · intro h _
        have henforced := h.enforced (by rw [hrun])
        rw [hrun] at henforced
        refine ⟨fun _ => hcovers.mp ((run_nodup_iff hnodup').mp henforced), fun hno => ?_⟩
        rw [hunique] at hno
        cases hno
      · intro h
        refine ⟨?_, ?_, ?_, ?_⟩
        · rw [hrun]
          exact iff_of_false (by rintro ⟨e, ⟨⟩⟩) (not_not.mpr hnodup)
        · rw [hrun, rows_addOwnExpiry]
        · rw [hrun]
          exact fun _ => (run_nodup_iff hnodup').mpr (hcovers.mpr ((h hnodup).1 hunique))
        · rw [hrun]
          exact fun _ => initDb_again mem_userColumns_addOwnExpiry hnodup'
            (hasUnique_addOwnExpiry.trans hunique)
    | false =>
      by_cases hfree : NameFree db
      · have hrun : initDb str db = (.ok (), withNotNullIndex (addOwnExpiry db)) := by
          rw [initDb, migrate_of_nodup hnodup, if_neg (by rw [hunique]; decide),
            createUniqueIndex_free hfree hnodup]
        have hnodup' : (adminUsernames (withNotNullIndex (addOwnExpiry db))).Nodup := by
          show (adminUsernames (addOwnExpiry db)).Nodup
          rw [adminUsernames_addOwnExpiry]
          exact hnodup
        refine iff_of_true ⟨?_, ?_, ?_, ?_⟩ fun _ => ⟨?_, fun _ => hfree⟩
        · rw [hrun]
          exact iff_of_false (by rintro ⟨e, ⟨⟩⟩) (not_not.mpr hnodup)
        · rw [hrun]
          exact rows_addOwnExpiry
        · rw [hrun]
          exact fun _ => (run_nodup_iff hnodup').mpr covers_withNotNullIndex
        · rw [hrun]
          exact fun _ => initDb_again mem_userColumns_addOwnExpiry hnodup'
            hasUnique_withNotNullIndex
        · intro hyes
          rw [hunique] at hyes
          cases hyes
      · obtain ⟨e, he⟩ := createUniqueIndex_taken hfree
        have hrun : initDb str db = (.error e, addOwnExpiry db) := by
          rw [initDb, migrate_of_nodup hnodup, if_neg (by rw [hunique]; decide), he]
        refine iff_of_false (fun h => ?_) fun h => hfree ((h hnodup).2 hunique)
        exact h.raises.mp ⟨e, by rw [hrun]⟩ hnodup
  · obtain ⟨e, he⟩ : ∃ e, migrate str db = .error e := migrate_of_duplicates hnodup
    have hrun : initDb str db = (.error e, addOwnExpiry db) := by rw [initDb, he]
    refine iff_of_true ⟨?_, ?_, ?_, ?_⟩ fun h => absurd h hnodup
    · exact iff_of_true ⟨e, by rw [hrun]⟩ hnodup
    · rw [hrun, rows_addOwnExpiry]
    · rw [hrun]
      rintro ⟨⟩
    · rw [hrun]
      rintro ⟨⟩

end Migration

/-! ## An index on the active trials -/

namespace ActiveTrials

/-- A unique index on `admin_username` with another condition. -/
def activeIndex : Index String :=
  ⟨"ux_active_trials", true, [.column "admin_username"], some fun r => r "status" = some "ACTIVE"⟩

def database : TrialDatabase String := ⟨[], [activeIndex], fun _ => true, [], by simp⟩

/-- A trial that is over. -/
def expired : Row String := fun column =>
  if column = "admin_username" then some "trial_one"
  else if column = "status" then some "EXPIRED"
  else none

/-- The index is taken for the one that is wanted, and the same name can be inserted twice. -/
theorem expired_twice : ¬Migrates (fun v : String => v) database := by
  intro h
  have henforced := h.enforced (by decide) [.insert expired, .insert expired]
  exact absurd henforced (by decide)

end ActiveTrials

end ResellerBot
