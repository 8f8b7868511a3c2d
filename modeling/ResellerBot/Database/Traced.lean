import ResellerBot.Database.Session
import ResellerBot.Trace

/-!
# ResellerBot.Database.Traced — the session operations and what a run has asked before

Triples over histories: from the objects of a session and the exchanges so far.
-/

open Interact

namespace ResellerBot

/-- The exchanges of a run, latest first. -/
abbrev Past := List (Reply Ev Resp)

/-- Neither a call to Rebecca nor a message. -/
def Ev.passing : Ev → Bool
  | .call _ _ | .send _ => false
  | _ => true

def Ev.isSend : Ev → Bool
  | .send _ => true
  | _ => false

/-- A fact about histories that outlives the requests that pass. -/
def Lasting (F : Past → Prop) : Prop :=
  ∀ h (x : Reply Ev Resp), x.1.passing = true → F h → F (x :: h)

/-! ## Objects -/

namespace Slot

open Act (Holds)

variable {V α β : Type} {S : Spec Ev Resp V} {P : Session → V → Prop} {X : Err → Session → V → Prop}
  {sl : Slot β}

theorem holds_assign {f : β → β} {Q : Unit → Session → V → Prop}
    (hQ : ∀ s v, P s v → Q () (sl.put s ((sl.get s).map fun ob => ⟨ob.db, f ob.cur⟩)) v) :
    Holds S P (sl.assign f) Q X :=
  Holds.modify hQ

/-- The variable holds an object. -/
theorem holds_read {f : β → Bot α} {Q : α → Session → V → Prop}
    (hold : ∀ s v, P s v → ∃ ob, sl.get s = some ob)
    (hf : ∀ ob, Holds S (fun s v => P s v ∧ sl.get s = some ob) (f ob.cur) Q X) :
    Holds S P (sl.read >>= f) Q X := by
  refine Holds.bind (Q := fun b s v => P s v ∧ ∃ ob, sl.get s = some ob ∧ ob.cur = b) ?_ ?_
  · intro s v hP
    obtain ⟨ob, ho⟩ := hold s v hP
    have hr : sl.read s = (pure ob.cur : Bot β) s := by
      rw [Slot.read, Act.state_bind, ho]
    rw [hr]
    exact ⟨hP, ob, ho, rfl⟩
  · rintro b s v ⟨hP, ob, ho, rfl⟩
    exact hf ob s v ⟨hP, ho⟩

end Slot

/-! ## Requests -/

namespace Traced

open Act (Holds)

variable {pre : Past → Ev → Prop} {α : Type} {P : Session → Past → Prop}
  {Q : α → Session → Past → Prop} {X : Err → Session → Past → Prop}

theorem ask {e : Ev} {Q : Resp e → Session → Past → Prop} (hpre : ∀ s h, P s h → pre h e)
    (hQ : ∀ s h r, P s h → Q r s (⟨e, r⟩ :: h)) :
    Holds (Spec.traced pre) P (ResellerBot.ask e) Q X := by
  refine Holds.request hpre ?_
  rintro s h r _ hP rfl
  exact hQ s h r hP

theorem call {why : Cause} {c : Call} {Q : c.Result → Session → Past → Prop}
    (hpre : ∀ s h, P s h → pre h (.call why c))
    (hQ : ∀ s h r, P s h → Q r s (⟨.call why c, .ok r⟩ :: h))
    (hX : ∀ s h e, P s h → X e s (⟨.call why c, .error e⟩ :: h)) :
    Holds (Spec.traced pre) P (ResellerBot.call why c) Q X := by
  refine Holds.bind (Q := fun (r : Except Err c.Result) s h' =>
    ∃ h, P s h ∧ h' = ⟨.call why c, r⟩ :: h) ?_ fun r => ?_
  · exact ask hpre fun s h r hP => ⟨h, hP, rfl⟩
  · refine Holds.outcome ?_ ?_
    · rintro a rfl s _ ⟨h, hP, rfl⟩
      exact hQ s h a hP
    · rintro e rfl s _ ⟨h, hP, rfl⟩
      exact hX s h e hP

section Flush

variable (free : ∀ h {e : Ev}, e.passing = true → pre h e)

include free

theorem flush {Q : Unit → Session → Past → Prop}
    (clean : ∀ s h, P s h → Q () s.flushed h)
    (done : ∀ s h x, P s h → x.1.passing = true → Q () s.flushed (x :: h))
    (broken : ∀ s h, P s h → X pendingRollbackError s h)
    (failed : ∀ s h x e, P s h → x.1.passing = true → X e (s.expire true) (x :: h)) :
    Holds (Spec.traced pre) P ResellerBot.flush Q X := by
  refine Holds.bind (Q := fun a s h => P s h ∧ a = s) (Holds.state fun s h hP => ⟨hP, rfl⟩)
    fun a => ?_
  split_ifs with hb hu
  · rintro s h ⟨hP, -⟩
    exact broken s h hP
  · rintro s h ⟨hP, -⟩
    exact clean s h hP
  · refine Holds.bind (Q := fun (r : Except Err Unit) s h' =>
      ∃ h x, P s h ∧ x.1.passing = true ∧ h' = x :: h) ?_ fun r => ?_
    · refine ask (fun s h _ => free h rfl) ?_
      rintro s h r ⟨hP, -⟩
      exact ⟨h, _, hP, rfl, rfl⟩
    · cases r with
      | ok u =>
        rintro s _ ⟨h, x, hP, hx, rfl⟩
        exact done s h x hP hx
      | error e =>
        rintro s _ ⟨h, x, hP, hx, rfl⟩
        exact failed s h x e hP hx

/-- What outlives a flush is known when the answer of a query comes. -/
theorem query {q : Query} {Q : q.Result → Session → Past → Prop}
    (hF : ∀ s h, P s h → P s.flushed h)
    (hx : ∀ s h x, P s h → x.1.passing = true → P s (x :: h))
    (hQ : ∀ s h a, P s h → Q a s (⟨.query q, .ok a⟩ :: h))
    (broken : ∀ s h e, P s h → X e s h)
    (failed : ∀ s h e, P s h → X e (s.expire true) h) :
    Holds (Spec.traced pre) P (ResellerBot.query q) Q X := by
  refine Holds.bind (Q := fun _ => P) ?_ fun _ => ?_
  · refine flush free hF ?_ (fun s h hP => broken s h _ hP) ?_
    · exact fun s h x hP hpass => hx _ _ x (hF s h hP) hpass
    · exact fun s h x e hP hpass => failed s (x :: h) e (hx s h x hP hpass)
  · refine Holds.bind (Q := fun (r : Except Err q.Result) s h' =>
      ∃ h, P s h ∧ h' = ⟨.query q, r⟩ :: h) ?_ fun r => ?_
    · exact ask (fun _ h _ => free h rfl) fun s h r hP => ⟨h, hP, rfl⟩
    · refine Holds.outcome ?_ ?_
      · rintro a rfl s _ ⟨h, hP, rfl⟩
        exact hQ s h a hP
      · rintro e rfl s _ ⟨h, hP, rfl⟩
        exact broken s _ e (hx s h _ hP rfl)

theorem commit (hF : ∀ s h, P s h → P s.flushed h)
    (hx : ∀ s h x, P s h → x.1.passing = true → P s (x :: h))
    (broken : ∀ s h e, P s h → X e s h)
    (failed : ∀ s h e, P s h → X e (s.expire true) h) :
    Holds (Spec.traced pre) P ResellerBot.commit (fun _ => P) X := by
  refine Holds.bind (Q := fun _ => P) ?_ fun _ => ?_
  · refine flush free hF ?_ (fun s h hP => broken s h _ hP) ?_
    · exact fun s h x hP hpass => hx _ _ x (hF s h hP) hpass
    · exact fun s h x e hP hpass => failed s (x :: h) e (hx s h x hP hpass)
  · refine Holds.bind (Q := fun _ => P) ?_ fun r => ?_
    · exact ask (fun _ h _ => free h rfl) fun s h r hP => hx s h _ hP rfl
    · cases r with
      | ok u => exact Holds.pure fun _ _ hP => hP
      | error e => exact fun s h hP => failed s h e hP

end Flush

end Traced

end ResellerBot
