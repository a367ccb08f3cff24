import Moebius.Proc

/-!
Two runs of one program.

Started in two states, a program that writes nothing takes the same turns in both if every statement
it comes to reads the same in both. Whatever statements fail, it then gives the same answer.
-/

namespace Moebius.Proc

variable {σ α β : Type} {s s' : σ}

/-- Nothing is written, and each statement on the way reads the same in both states. -/
def Alike (s s' : σ) : Proc σ α → Prop
  | done _ => True
  | stmt w k e => w s = s ∧ w s' = s' ∧ k s = k s' ∧ Alike s s' (k s) ∧ Alike s s' e

lemma alike_bind {p : Proc σ α} {f : α → Proc σ β} (hp : p.Alike s s')
    (hf : ∀ a, (f a).Alike s s') : (p.bind f).Alike s s' := by
  induction p with
  | done a => exact hf a
  | stmt w k e ihk ihe =>
    obtain ⟨hw, hw', hk, hok, hfail⟩ := hp
    exact ⟨hw, hw', congrArg (·.bind f) hk, ihk s hok, ihe hfail⟩

lemma alike_read_bind {q : σ → α} {f : Option α → Proc σ β} (hq : q s = q s')
    (hsome : (f (some (q s))).Alike s s') (hnone : (f none).Alike s s') :
    ((read q).bind f).Alike s s' :=
  ⟨rfl, rfl, congrArg (fun a => f (some a)) hq, hsome, hnone⟩

/-- **Both runs give the same answer.** -/
lemma Alike.answer_eq {p : Proc σ α} (h : p.Alike s s') (fs : List Bool) :
    (p.run fs s).1 = (p.run fs s').1 := by
  induction p generalizing fs with
  | done a => simp
  | stmt w k e ihk ihe =>
    obtain ⟨hw, hw', hk, hok, hfail⟩ := h
    rw [run_stmt, run_stmt]
    split
    · exact ihe hfail _
    · rw [hw, hw', ← hk]
      exact ihk s hok _

end Moebius.Proc
