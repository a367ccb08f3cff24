import Moebius.CheckThenAct

/-!
A resource that tasks act on, and that has been settled.

Once the resource is settled and no task holds it, it stays settled, as long as the checks keep
it settled and no check that meets it settled ends with the task holding it.
-/

namespace Moebius

open Proc Pool

structure Resource (ρ σ γ α : Type) where
  settled : σ → Prop
  /-- The task acts on the resource when its check has found `g`. -/
  holds : ρ → γ → Prop
  /-- The check of the request may unsettle the resource. -/
  unsettles : ρ → Prop
  /-- The answer shows that the task has used the resource. -/
  uses : ρ → α → Prop

namespace Resource

variable {ρ σ γ α : Type} (X : Resource ρ σ γ α) (task : ρ → Task σ γ α)

def Keeps (s s' : σ) : Prop := X.settled s → X.settled s'

structure Observed : Prop where
  waits : ∀ r g, (task r).check ≠ done (.ok g)
  check_keeps : ∀ r, ¬ X.unsettles r → (task r).check.Each X.Keeps
  check_clear : ∀ r, ¬ X.unsettles r →
    (task r).check.Answers X.settled fun x => ∀ g, x = .ok g → ¬ X.holds r g
  check_unused : ∀ r, (task r).check.Returns fun x => ∀ a, x = .error a → ¬ X.uses r a
  act_keeps : ∀ r g, ¬ X.holds r g → ((task r).act g).Each X.Keeps
  act_unused : ∀ r g, ¬ X.holds r g → ((task r).act g).Returns fun a => ¬ X.uses r a

/-- The same of what remains of a check. -/
structure CalmCheck (r : ρ) (p : Proc σ (Except α γ)) : Prop where
  keeps : ¬ X.unsettles r → p.Each X.Keeps
  clear : ¬ X.unsettles r → p.Answers X.settled fun x => ∀ g, x = .ok g → ¬ X.holds r g
  unused : p.Returns fun x => ∀ a, x = .error a → ¬ X.uses r a

/-- The same of a task under way. -/
def Calm (r : ρ) : Stage σ γ α → Prop :=
  Stage.All (X.CalmCheck r) fun g p =>
    ¬ X.holds r g → p.Each X.Keeps ∧ p.Returns fun a => ¬ X.uses r a

def Holding (r : ρ) : Stage σ γ α → Prop
  | .acting g _ => X.holds r g
  | _ => False

def Unsettling (r : ρ) : Stage σ γ α → Prop
  | .checking _ => X.unsettles r
  | _ => False

variable {X task} (h : X.Observed task) {r : ρ}

/-- A check that ends in a settled state does not end with the task holding the resource. -/
lemma not_holding_settle (t : Task σ γ α) {p : Proc σ (Except α γ)}
    (hp : p.DoneIn fun x => ∀ g, x = .ok g → ¬ X.holds r g) :
    ¬ X.Holding r (t.settle p) ∧ ∀ a, t.settle p ≠ .finished a := by
  rcases p with (a | g) | ⟨w, k, e⟩
  · exact ⟨id, nofun⟩
  · exact ⟨hp _ rfl g rfl, nofun⟩
  · exact ⟨id, nofun⟩

/-- A step of a task that neither holds nor unsettles the resource leaves it settled, and the
task does not come to hold it nor answers that it has used it. -/
lemma step_settled (t : Task σ γ α) {st : Stage σ γ α} {s : σ} (hst : X.Calm r st)
    (hs : X.settled s) (hhold : ¬ X.Holding r st) (huns : ¬ X.Unsettling r st) (fault : Bool) :
    X.settled (t.step fault s st).1 ∧ ¬ X.Holding r (t.step fault s st).2 ∧
      ∀ a, (t.step fault s st).2 = .finished a → X.uses r a → st = .finished a := by
  rcases st with ((a | g) | ⟨w, k, e⟩) | ⟨g, a | ⟨w, k, e⟩⟩ | a
  · refine ⟨hs, id, fun b he hu => ?_⟩
    cases he
    exact absurd hu (hst.1.unused a rfl)
  · exact absurd rfl (hst.2 g)
  · have hkeeps := hst.1.keeps huns
    have hclear := hst.1.clear huns
    cases fault
    · obtain ⟨hnot, hne⟩ := not_holding_settle t ((hclear.1 s).1 hs)
      exact ⟨(hkeeps.1 s).1 hs, hnot, fun a he => absurd he (hne a)⟩
    · obtain ⟨hnot, hne⟩ := not_holding_settle t hclear.2.1
      exact ⟨hs, hnot, fun a he => absurd he (hne a)⟩
  · refine ⟨hs, id, fun b he hu => ?_⟩
    cases he
    exact absurd hu (hst hhold).2
  · cases fault
    · exact ⟨((hst hhold).1.1 s).1 hs, hhold, nofun⟩
    · exact ⟨hs, hhold, nofun⟩
  · exact ⟨hs, id, fun b he _ => he⟩

/-! ### All tasks -/

variable (X) in
def AllCalm (s : Pool ρ σ γ α) : Prop := ∀ t ∈ s.threads, X.Calm t.1 t.2

variable (X) in
/-- The resource is settled and in nobody's hands. -/
def Settled (s : Pool ρ σ γ α) : Prop := X.settled s.state ∧ ∀ t ∈ s.threads, ¬ X.Holding t.1 t.2

variable (X) in
def Leaves (s : Pool ρ σ γ α) : Action ρ → Prop
  | .spawn _ => True
  | .step i _ => ∀ t, s.threads[i]? = some t → ¬ X.Unsettling t.1 t.2

include h in
lemma allCalm_after {s : Pool ρ σ γ α} (hs : X.AllCalm s) (a : Action ρ) :
    X.AllCalm (s.after task a) := by
  have hact : ∀ r g, ¬ X.holds r g → ((task r).act g).Each X.Keeps ∧
      ((task r).act g).Returns fun a => ¬ X.uses r a :=
    fun r g hg => ⟨h.act_keeps r g hg, h.act_unused r g hg⟩
  refine threads_after task (fun r => .settle (hact r)
    ⟨h.check_keeps r, h.check_clear r, h.check_unused r⟩) (fun r st fault hst => ?_) hs a
  refine hst.step (fun w k e hp => ?_) (fun g w k e hp => ?_) (hact r) fault s.state
  · exact ⟨fun s => ⟨fun hr => ((hp.keeps hr).1 s).2, fun hr => ((hp.clear hr).1 s).2,
      hp.unused.1 s⟩, fun hr => (hp.keeps hr).2, fun hr => (hp.clear hr).2.2, hp.unused.2⟩
  · exact ⟨fun s hg => ⟨((hp hg).1.1 s).2, (hp hg).2.1 s⟩, fun hg => ⟨(hp hg).1.2, (hp hg).2.2⟩⟩

include h in
/-- A settled resource stays settled, and no task answers from now on that it has used it. -/
lemma settled_after {s : Pool ρ σ γ α} (hcalm : X.AllCalm s) (hs : X.Settled s) {a : Action ρ}
    (ha : X.Leaves s a) : X.Settled (s.after task a) ∧
      ∀ (k : ℕ) r b, (s.after task a).threads[k]? = some (r, .finished b) → X.uses r b →
        s.threads[k]? = some (r, .finished b) := by
  have hstart : ∀ r, ¬ X.Holding r (task r).start ∧ ∀ b, (task r).start ≠ .finished b :=
    fun r => not_holding_settle _ fun x hx g hg => absurd (hg ▸ hx) (h.waits r g)
  cases a with
  | spawn r =>
    refine ⟨⟨hs.1, fun t ht => ?_⟩, fun k r' b hk _ => ?_⟩
    · cases threadAfter_of_mem task ht with
      | old ht => exact hs.2 t ht
      | started r => exact (hstart r).1
    · rcases old_or_started task hk with hk | he
      · exact hk
      · exact absurd (congrArg Prod.snd he).symm ((hstart r).2 b)
  | step i fault =>
    rcases hi : s.threads[i]? with _ | ⟨r, st⟩
    · rw [after_step_of_none task fault hi]
      exact ⟨hs, fun _ _ _ hk _ => hk⟩
    · have hmem : (r, st) ∈ s.threads := List.mem_of_getElem? hi
      obtain ⟨h1, h2, h3⟩ := step_settled (task r) (hcalm _ hmem) hs.1 (hs.2 _ hmem) (ha _ hi) fault
      rw [← state_after_step task fault hi] at h1
      refine ⟨⟨h1, fun t ht => ?_⟩, fun k r' b hk hu => ?_⟩
      · obtain ⟨k, hk⟩ := List.mem_iff_getElem?.mp ht
        rw [getElem?_after_step task fault hi] at hk
        split at hk
        · cases hk
          exact h2
        · exact hs.2 t (List.mem_of_getElem? hk)
      · rw [getElem?_after_step task fault hi] at hk
        split at hk
        · rename_i hik
          subst hik
          simp only [Option.some.injEq, Prod.mk.injEq] at hk
          obtain ⟨rfl, he⟩ := hk
          have hst : st = .finished b := h3 b he hu
          rw [hi, hst]
        · exact hk

end Resource

end Moebius
