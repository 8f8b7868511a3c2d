import ResellerBot.Handlers.Customer
import ResellerBot.Database.Run

/-!
# ResellerBot.Handlers.Isolation — whose users a customer is shown

The handlers show what Rebecca lists for the customer's username and leave the filter to it.
-/

open Interact

namespace ResellerBot

/-- A visit of the customer with the row `r`, in a world that answers every request; `users` is what
Rebecca lists, whatever it was asked for. -/
structure Visit (telegramId : ℤ) (r : Reseller) (users : List User) where
  answer : (e : Ev) → Resp e
  row : answer (.query (.resellerByTelegram telegramId)) = .ok (some r)
  listed : answer (.call .lookup (.listAdminUsers r.rebeccaAdminUsername)) = .ok users
  sent : answer (.send telegramId) = .ok ()

theorem mem_of_userAt {users : List User} {index : ℤ} {u : User}
    (h : userAt users index = .ok (some u)) : u ∈ users := by
  unfold userAt at h
  split_ifs at h
  · exact List.mem_of_getElem? (by simpa using h)
  · exact List.mem_of_getElem? (by simpa using h)
  · simp at h

theorem mem_usersPanel {users : List User} {page : ℤ} {u : User} (h : u ∈ usersPanel users page) :
    u ∈ users :=
  List.mem_of_mem_drop (List.mem_of_mem_take h)

/-- Every user of the list is on some page. -/
theorem exists_usersPanel {users : List User} {u : User} (h : u ∈ users) :
    ∃ page, u ∈ usersPanel users page := by
  obtain ⟨i, hi, rfl⟩ := List.getElem_of_mem h
  refine ⟨(i / PAGE_SIZE : ℕ), ?_⟩
  have hp : 0 < PAGE_SIZE := by decide
  have hd := Nat.div_add_mod' i PAGE_SIZE
  have hm := Nat.mod_lt i hp
  rw [usersPanel, Int.toNat_natCast, List.mem_take_iff_getElem]
  refine ⟨i % PAGE_SIZE, ?_, ?_⟩
  · rw [List.length_drop]; omega
  · rw [List.getElem_drop]
    congr 1

/-- The user belongs to the admin of the customer. -/
def Owned (r : Reseller) (u : User) : Prop :=
  ∃ name, name ≠ "" ∧ r.rebeccaAdminUsername = some name ∧ u.adminUsername = some name

theorem verifiedOwner_iff_owned {r : Reseller} {u : User} :
    verifiedOwner u r.rebeccaAdminUsername = true ↔ Owned r u :=
  verifiedOwner_iff.trans
    ⟨fun ⟨n, h, hu, hr⟩ => ⟨n, h, hr, hu⟩, fun ⟨n, h, hr, hu⟩ => ⟨n, h, hu, hr⟩⟩

namespace Visit

variable {telegramId : ℤ} {r : Reseller} {users : List User} {α : Type}
  (x : Visit telegramId r users)

def react (e : Ev) (_ : Unit) : Resp e × Unit := (x.answer e, ())

/-- What a handler shows. -/
def shows (m : Bot α) : Except Err α := (Act.run x.react Session.empty () m).1.1

/-- The session in which a handler goes on after it has looked up the row. -/
def looked : Session := Session.empty.flushed.expire false

theorem shows_row (f : Option Reseller → Bot α) :
    x.shows (inSession (query (.resellerByTelegram telegramId)) >>= f) =
      (Act.run x.react looked () (f (some r))).1.1 := by
  have h := run_inSession_query x.react Session.empty () (.resellerByTelegram telegramId)
  rw [show (x.react (.query (.resellerByTelegram telegramId)) ()).1 = .ok (some r) from x.row] at h
  exact congrArg (·.1.1) (Act.run_bind_ok x.react Session.empty () f h)

@[simp] theorem run_listed (s : Session) :
    Act.run x.react s () (listAdminUsers r.rebeccaAdminUsername) =
      ((.ok users, s), ()) := by
  rw [run_listAdminUsers, react, x.listed]

@[simp] theorem run_sent (s : Session) :
    Act.run x.react s () (sendMessage telegramId) = ((.ok (), s), ()) := by
  rw [run_sendMessage, react, x.sent]

theorem shows_showMyUsers (page : ℤ) :
    x.shows (showMyUsers telegramId page) = .ok (usersPanel users page) := by
  refine (x.shows_row _).trans ?_
  simp [Act.run_bind, Act.run_attempt]

theorem shows_myUsersCallback (page : Option String) {us : List User}
    (h : x.shows (myUsersCallback telegramId page) = .ok us) :
    ∃ n, us = usersPanel users n := by
  cases page with
  | none => exact ⟨0, by simpa [myUsersCallback, shows_showMyUsers, eq_comm] using h⟩
  | some text =>
    cases hn : parseInt text with
    | error e => simp [shows, myUsersCallback, Act.run_bind, hn] at h
    | ok n =>
      have hs : x.shows (myUsersCallback telegramId (some text)) =
          x.shows (showMyUsers telegramId n) := by
        simp [shows, myUsersCallback, Act.run_bind, hn]
      rw [hs, shows_showMyUsers] at h
      exact ⟨n, by simpa [eq_comm] using h⟩

theorem shows_myUserDetail (index page : String) {u : User}
    (h : x.shows (myUserDetail telegramId index page) = .ok (some u)) : u ∈ users := by
  rw [myUserDetail, shows_row] at h
  cases hi : parseInt index with
  | error e => simp [Act.run_bind, hi] at h
  | ok i =>
    rcases ha : userAt users i with e | _ | u'
    · simp [Act.run_bind, hi, ha] at h
    · simp [Act.run_bind, hi, ha, showUser] at h
    · obtain rfl : u' = u := by
        cases hp : parseInt page <;>
          simp_all [Act.run_bind, showUser]
      exact mem_of_userAt ha

/-- Whatever the callback data say, the customer sees no user of anybody else. -/
structure Isolated : Prop where
  list : ∀ page us, x.shows (showMyUsers telegramId page) = .ok us → ∀ u ∈ us, Owned r u
  callback : ∀ page us, x.shows (myUsersCallback telegramId page) = .ok us → ∀ u ∈ us, Owned r u
  detail : ∀ index page u, x.shows (myUserDetail telegramId index page) = .ok (some u) → Owned r u

/-- **Isolation rests on Rebecca alone**: a customer sees own users only, on every page and at every
index, exactly if the list that Rebecca returns has no other users. -/
theorem isolated_iff :
    x.Isolated ↔ ∀ u ∈ users, verifiedOwner u r.rebeccaAdminUsername := by
  constructor
  · intro h u hu
    obtain ⟨page, hp⟩ := exists_usersPanel hu
    exact verifiedOwner_iff_owned.mpr (h.list page _ (x.shows_showMyUsers page) u hp)
  · intro h
    have own : ∀ u ∈ users, Owned r u := fun u hu => verifiedOwner_iff_owned.mp (h u hu)
    constructor
    · intro page us hs u hu
      rw [shows_showMyUsers, Except.ok.injEq] at hs
      exact own u (mem_usersPanel (hs ▸ hu))
    · intro page us hs u hu
      obtain ⟨n, rfl⟩ := x.shows_myUsersCallback page hs
      exact own u (mem_usersPanel hu)
    · intro index page u hs
      exact own u (x.shows_myUserDetail index page hs)

/-- A world in which everything is answered at once. -/
def prompt (telegramId : ℤ) (r : Reseller) (users : List User) : Visit telegramId r users where
  answer
    | .query (.resellerByTelegram _) => .ok (some r)
    | .call _ (.listAdminUsers _) => .ok users
    | .query _ | .flush _ | .execute _ | .commit | .call _ _ | .chatMember _ _ | .transaction _ =>
      .error ⟨.operational, ""⟩
    | .now => 0
    | .randbelow _ => 0
    | .token _ => ""
    | .send _ => .ok ()
    | .rollback | .lock _ | .unlock _ | .createTask => ()
  row := rfl
  listed := rfl
  sent := rfl

end Visit

/-- A user of somebody else. -/
def bob : User := ⟨"bob", some "ali_1234", "active", none, some 1, false, 0⟩

/-- The empty filter of a customer without an admin is ignored, and the panel shows the user of
somebody else. -/
theorem newcomer_not_isolated :
    ¬ ∀ telegramId r users, ∀ x : Visit telegramId r users, x.Isolated := by
  intro h
  have hx := h 5 (newReseller 5 none) [bob] (Visit.prompt _ _ _)
  obtain ⟨name, -, hr, -⟩ := hx.list 0 _ (Visit.shows_showMyUsers _ 0) bob (by decide)
  exact absurd hr (by simp [newReseller])

end ResellerBot
