import Mathlib.Tactic.Lemma

/-!
Procedures made of atomic statements on a shared state.

A procedure is either done or about to issue a statement. A statement acts on the state in
one step, and the procedure goes on with what it read; or the statement fails, the state
stays as it was, and the procedure goes on without an answer. The same procedure can be run
alone, with statements failing here and there, or one statement at a time between the
statements of others.

`wp R p Q s` says that from `s`, wherever statements fail, every statement `p` issues
changes the state by a step of `R`, and `p` ends in `Q`.
-/

namespace Moebius

inductive Proc (σ α : Type) : Type
  | done (a : α)
  | stmt (effect : σ → σ) (next : σ → Proc σ α) (fail : Proc σ α)

namespace Proc

variable {σ α β ι ε : Type}

def bind : Proc σ α → (α → Proc σ β) → Proc σ β
  | done a, f => f a
  | stmt w k e, f => stmt w (fun s => (k s).bind f) (e.bind f)

instance : Monad (Proc σ) where
  pure := done
  bind := bind

/-- A statement that changes the state; the answer is whether it went through. -/
def exec (w : σ → σ) : Proc σ Bool := stmt w (fun _ => done true) (done false)

/-- A statement that the state may refuse, such as an insertion under a constraint. -/
def attempt (w : σ → Option σ) : Proc σ Bool :=
  stmt (fun s => (w s).getD s) (fun s => done (w s).isSome) (done false)

/-- A statement that changes the state and answers, unless the state refuses it. -/
def query (f : σ → Option (β × σ)) : Proc σ (Option β) :=
  stmt (fun s => ((f s).map (·.2)).getD s) (fun s => done ((f s).map (·.1))) (done none)

/-- A statement that only reads. -/
def read (q : σ → β) : Proc σ (Option β) := stmt id (fun s => done (some (q s))) (done none)

/-- A loop over a list that carries an accumulator and may leave early. -/
def loop (body : β → ι → Proc σ (Except ε β)) : List ι → β → Proc σ (Except ε β)
  | [], b => done (.ok b)
  | x :: xs, b => (body b x).bind fun
    | .error e => done (.error e)
    | .ok b' => loop body xs b'

/-- The result and the final state when the statements marked `true` fail; statements past
the end of the list do not fail. -/
def run : Proc σ α → List Bool → σ → α × σ
  | done a, _, s => (a, s)
  | stmt w k _, [], s => (k s).run [] (w s)
  | stmt _ _ e, true :: fs, s => e.run fs s
  | stmt w k _, false :: fs, s => (k s).run fs (w s)

/-- The states before and after each statement that went through. -/
def steps : Proc σ α → List Bool → σ → List (σ × σ)
  | done _, _, _ => []
  | stmt w k _, [], s => (s, w s) :: (k s).steps [] (w s)
  | stmt _ _ e, true :: fs, s => e.steps fs s
  | stmt w k _, false :: fs, s => (s, w s) :: (k s).steps fs (w s)

variable (p : Proc σ α) (w : σ → σ) (a : α) (k : σ → Proc σ α) (f : α → Proc σ β) (e : Proc σ α)
  (s : σ)

@[simp] lemma run_done (fs : List Bool) (s : σ) : (done a).run fs s = (a, s) := by
  cases fs <;> rfl

@[simp] lemma bind_done : (done a).bind f = f a := rfl

@[simp] lemma bind_stmt (f : α → Proc σ β) :
    (stmt w k e).bind f = stmt w (fun s => (k s).bind f) (e.bind f) := rfl

@[simp] lemma pure_eq : (pure a : Proc σ α) = done a := rfl

@[simp] lemma bind_eq : p >>= f = p.bind f := rfl

protected lemma bind_assoc {γ : Type} (g : β → Proc σ γ) :
    (p.bind f).bind g = p.bind fun a => (f a).bind g := by
  induction p with
  | done a => rfl
  | stmt w k e ihk ihe => simp only [bind_stmt, ihk, ihe]

protected lemma bind_pure : p.bind done = p := by
  induction p with
  | done a => rfl
  | stmt w k e ihk ihe =>
    rw [bind_stmt, ihe]
    exact congrArg (fun k => stmt w k e) (funext ihk)

/-- A transaction is one statement of the procedure around it. It is rolled back unless its body
ends well; `fs` says which statements of the body fail, and `refused` is the answer when it cannot
even begin. -/
def transaction (fs : List Bool) (body : Proc σ (Except ε α)) (refused : ε) : Proc σ (Except ε α) :=
  stmt
    (fun s => match body.run fs s with
      | (.ok _, s') => s'
      | (.error _, _) => s)
    (fun s => done (body.run fs s).1)
    (done (.error refused))

/-- The last statement of a transaction. -/
def commit : Proc σ Bool := exec id

/-- The first statement fails or goes through, as the head of the list says. -/
lemma run_stmt (fs : List Bool) (s : σ) : (stmt w k e).run fs s =
      if fs.headD false then e.run fs.tail s else (k s).run fs.tail (w s) := by
  rcases fs with _ | ⟨_ | _, fs⟩ <;> rfl

lemma run_read_bind (q : σ → α) (f : Option α → Proc σ β) (fs : List Bool) (s : σ) :
    ((read q).bind f).run fs s =
      if fs.headD false then (f none).run fs.tail s else (f (some (q s))).run fs.tail s :=
  run_stmt _ _ _ _ _

lemma run_exec_bind (f : Bool → Proc σ β) (fs : List Bool) (s : σ) : ((exec w).bind f).run fs s =
      if fs.headD false then (f false).run fs.tail s else (f true).run fs.tail (w s) :=
  run_stmt _ _ _ _ _

lemma run_attempt_bind (w : σ → Option σ) (f : Bool → Proc σ β) (fs : List Bool) (s : σ) :
    ((attempt w).bind f).run fs s = if fs.headD false then (f false).run fs.tail s
      else (f (w s).isSome).run fs.tail ((w s).getD s) :=
  run_stmt _ _ _ _ _

lemma run_query_bind (q : σ → Option (α × σ)) (f : Option α → Proc σ β) (fs : List Bool) (s : σ) :
    ((query q).bind f).run fs s = if fs.headD false then (f none).run fs.tail s
      else (f ((q s).map (·.1))).run fs.tail (((q s).map (·.2)).getD s) :=
  run_stmt _ _ _ _ _

/-- Wrapping the result changes nothing else. -/
lemma run_map (f : α → β) (fs : List Bool) (s : σ) :
    (p.bind fun a => done (f a)).run fs s = (f (p.run fs s).1, (p.run fs s).2) := by
  induction p generalizing fs s with
  | done a => simp
  | stmt w k e ihk ihe => rcases fs with _ | ⟨_ | _, fs⟩ <;> simp only [bind_stmt, run, ihk, ihe]

lemma run_of_clean {fs : List Bool} (h : true ∉ fs) (p : Proc σ α) (s : σ) :
    p.run fs s = p.run [] s := by
  induction p generalizing fs s with
  | done a => simp
  | stmt w k e ihk ihe =>
    rcases fs with _ | ⟨b, fs⟩
    · rfl
    · have hb : b = false := by
        cases b
        · rfl
        · exact absurd List.mem_cons_self h
      have hfs : true ∉ fs := fun hm => h (List.mem_cons_of_mem _ hm)
      subst hb
      exact ihk s hfs (w s)

lemma run_nil_bind : (p.bind f).run [] s = (f (p.run [] s).1).run [] (p.run [] s).2 := by
  induction p generalizing s with
  | done a => simp
  | stmt w k e ihk ihe => exact ihk s (w s)

/-- A run of the rest is the end of a run of the whole in which the first part meets no fault. -/
lemma exists_run_bind {p : Proc σ α} {f : α → Proc σ β} {a : α} {s t : σ} {x : β × σ}
    (hp : p.run [] s = (a, t)) (hf : ∃ fs, (f a).run fs t = x) : ∃ fs, (p.bind f).run fs s = x := by
  induction p generalizing s with
  | done b =>
    cases hp
    exact hf
  | stmt w k e ihk ihe =>
    obtain ⟨fs, hfs⟩ := ihk s hp
    exact ⟨false :: fs, hfs⟩

@[simp] lemma run_nil_exec : (exec w).run [] s = (true, w s) := rfl

@[simp] lemma run_nil_attempt (w : σ → Option σ) (s : σ) :
    (attempt w).run [] s = ((w s).isSome, (w s).getD s) := rfl

@[simp] lemma run_nil_query (f : σ → Option (β × σ)) (s : σ) :
    (query f).run [] s = ((f s).map (·.1), ((f s).map (·.2)).getD s) := rfl

/-- A loop none of whose rounds leaves it. -/
lemma run_nil_loop {body : β → ι → Proc σ (Except ε β)} {g : β → ι → β} {w : σ → ι → σ}
    (h : ∀ b x s, (body b x).run [] s = (.ok (g b x), w s x)) (xs : List ι) (b : β) (s : σ) :
    (loop body xs b).run [] s = (.ok (xs.foldl g b), xs.foldl w s) := by
  induction xs generalizing b s with
  | nil => rfl
  | cons x xs ih =>
    rw [loop, run_nil_bind, h]
    exact ih (g b x) (w s x)

@[simp] lemma run_nil_read (q : σ → β) (s : σ) : (read q).run [] s = (some (q s), s) := rfl

/-! ### Weakest preconditions -/

def wp (R : σ → σ → Prop) : Proc σ α → (α → σ → Prop) → σ → Prop
  | done a, Q, s => Q a s
  | stmt w k e, Q, s => (R s (w s) ∧ (k s).wp R Q (w s)) ∧ e.wp R Q s

variable {R R' : σ → σ → Prop} {Q Q' : α → σ → Prop}

@[simp] lemma wp_done (a : α) (s : σ) : (done a).wp R Q s ↔ Q a s := Iff.rfl

@[simp] lemma wp_bind {Q : β → σ → Prop} (p : Proc σ α) (f : α → Proc σ β) (s : σ) :
    (p.bind f).wp R Q s ↔ p.wp R (fun a => (f a).wp R Q) s := by
  induction p generalizing s with
  | done a => rfl
  | stmt w k e ihk ihe => simp only [bind_stmt, wp, ihk, ihe]

@[simp] lemma wp_exec {Q : Bool → σ → Prop} (w : σ → σ) (s : σ) :
    (exec w).wp R Q s ↔ (R s (w s) ∧ Q true (w s)) ∧ Q false s := Iff.rfl

@[simp] lemma wp_read {Q : Option β → σ → Prop} (q : σ → β) (s : σ) :
    (read q).wp R Q s ↔ (R s s ∧ Q (some (q s)) s) ∧ Q none s := Iff.rfl

lemma wp_attempt {Q : Bool → σ → Prop} (w : σ → Option σ) (s : σ) (hr : R s s)
    (hfail : Q false s) (hok : ∀ s', w s = some s' → R s s' ∧ Q true s') :
    (attempt w).wp R Q s := by
  refine ⟨?_, hfail⟩
  rcases h : w s with _ | s'
  · simpa [h] using ⟨hr, hfail⟩
  · simpa [h] using hok s' h

variable {s : σ} {p : Proc σ α} {body : β → ι → Proc σ (Except ε β)} {I : σ → Prop}
  {f : α → Proc σ β}

lemma wp_query {f : σ → Option (β × σ)} {Q : Option β → σ → Prop} (hr : R s s) (hfail : Q none s)
    (hok : ∀ b s', f s = some (b, s') → R s s' ∧ Q (some b) s') : (query f).wp R Q s := by
  refine ⟨?_, hfail⟩
  rcases h : f s with _ | ⟨b, s'⟩
  · simpa [h] using ⟨hr, hfail⟩
  · simpa [h] using hok b s' h

lemma wp_transaction {fs : List Bool} {body : Proc σ (Except ε α)} {refused : ε}
    {Q : Except ε α → σ → Prop} (hr : R s s) (hrefused : Q (.error refused) s)
    (herr : ∀ e s', body.run fs s = (.error e, s') → Q (.error e) s)
    (hok : ∀ a s', body.run fs s = (.ok a, s') → R s s' ∧ Q (.ok a) s') :
    (transaction fs body refused).wp R Q s := by
  refine ⟨?_, hrefused⟩
  rcases h : body.run fs s with ⟨e | a, s'⟩
  · simpa [h] using ⟨hr, herr e s' h⟩
  · simpa [h] using hok a s' h

lemma wp_mono (hR : ∀ a b, R a b → R' a b) (hQ : ∀ a t, Q a t → Q' a t) (h : p.wp R Q s) :
    p.wp R' Q' s := by
  induction p generalizing s with
  | done a => exact hQ a s h
  | stmt w k e ihk ihe =>
    obtain ⟨⟨h1, h2⟩, h3⟩ := h
    exact ⟨⟨hR _ _ h1, ihk s h2⟩, ihe h3⟩

lemma wp_post (hQ : ∀ a t, Q a t → Q' a t) (h : p.wp R Q s) : p.wp R Q' s :=
  wp_mono (fun _ _ h => h) hQ h

lemma wp_and (h : p.wp R Q s) (h' : p.wp R' Q' s) :
    p.wp (fun a b => R a b ∧ R' a b) (fun a t => Q a t ∧ Q' a t) s := by
  induction p generalizing s with
  | done a => exact ⟨h, h'⟩
  | stmt w k e ihk ihe => exact ⟨⟨⟨h.1.1, h'.1.1⟩, ihk s h.1.2 h'.1.2⟩, ihe h.2 h'.2⟩

/-- The loop rule: `I xs b` holds with `xs` still to go, `E e` when the loop is left. -/
lemma wp_loop {Q : Except ε β → σ → Prop} (I : List ι → β → σ → Prop) (E : ε → σ → Prop)
    (hbody : ∀ x xs b s, I (x :: xs) b s →
      (body b x).wp R (fun r s' => match r with
        | .error e => E e s'
        | .ok b' => I xs b' s') s) (hok : ∀ b s, I [] b s → Q (.ok b) s)
    (herr : ∀ e s, E e s → Q (.error e) s) {xs : List ι} {b : β} (h : I xs b s) :
    (loop body xs b).wp R Q s := by
  induction xs generalizing b s with
  | nil => exact hok b s h
  | cons x xs ih =>
    rw [loop, wp_bind]
    refine wp_post (fun r s' hr => ?_) (hbody x xs b s h)
    rcases r with e | b'
    · exact herr e s' hr
    · exact ih hr

/-- `wp` is sound for the final state. -/
lemma wp_run (h : p.wp R Q s) (fs : List Bool) : Q (p.run fs s).1 (p.run fs s).2 := by
  induction p generalizing s fs with
  | done a => simpa using h
  | stmt w k e ihk ihe =>
    rcases fs with _ | ⟨b, fs⟩
    · exact ihk s h.1.2 []
    · cases b
      · exact ihk s h.1.2 fs
      · exact ihe h.2 fs

/-- `wp` is sound for every statement on the way. -/
lemma wp_steps (h : p.wp R Q s) (fs : List Bool) : ∀ x ∈ p.steps fs s, R x.1 x.2 := by
  induction p generalizing s fs with
  | done a => cases fs <;> simp [steps]
  | stmt w k e ihk ihe =>
    rcases fs with _ | ⟨b, fs⟩
    · simpa [steps] using ⟨h.1.1, fun a b => ihk s h.1.2 [] (a, b)⟩
    · cases b
      · simpa [steps] using ⟨h.1.1, fun a b => ihk s h.1.2 fs (a, b)⟩
      · exact ihe h.2 fs

/-- What every statement keeps, the whole procedure keeps. -/
lemma wp_rel (hrefl : ∀ s, R s s) (htrans : ∀ a b c, R a b → R b c → R a c) (h : p.wp R Q s)
    (fs : List Bool) : R s (p.run fs s).2 := by
  induction p generalizing s fs with
  | done a => simpa using hrefl s
  | stmt w k e ihk ihe =>
    rcases fs with _ | ⟨b, fs⟩
    · exact htrans _ _ _ h.1.1 (ihk s h.1.2 [])
    · cases b
      · exact htrans _ _ _ h.1.1 (ihk s h.1.2 fs)
      · exact ihe h.2 fs

/-- The same inside a larger procedure: the rest may use that the state was kept. -/
lemma wp_keeps (hrefl : ∀ s, R s s) (htrans : ∀ a b c, R a b → R b c → R a c) (h : p.wp R Q s) :
    p.wp R (fun a t => R s t ∧ Q a t) s := by
  induction p generalizing s with
  | done a => exact ⟨hrefl s, h⟩
  | stmt w k e ihk ihe =>
    obtain ⟨⟨h1, h2⟩, h3⟩ := h
    refine ⟨⟨h1, ?_⟩, ihe h3⟩
    exact wp_post (fun a t ht => ⟨htrans _ _ _ h1 ht.1, ht.2⟩) (ihk s h2)

/-- The rest of a larger procedure may also use an invariant. -/
lemma wp_carry (hI : ∀ a b, R a b → I a → I b) (hs : I s) (h : p.wp R Q s) :
    p.wp R (fun a t => I t ∧ Q a t) s := by
  induction p generalizing s with
  | done a => exact ⟨hs, h⟩
  | stmt w k e ihk ihe =>
    obtain ⟨⟨h1, h2⟩, h3⟩ := h
    exact ⟨⟨h1, ihk s (hI _ _ h1 hs) h2⟩, ihe hs h3⟩

/-- An invariant that every statement keeps holds at the end. -/
lemma wp_invariant (hI : ∀ a b, R a b → I a → I b) (h : p.wp R Q s) (hs : I s) (fs : List Bool) :
    I (p.run fs s).2 := by
  have h' : p.wp (fun a b => I a → I b) Q s := wp_mono hI (fun _ _ h => h) h
  exact wp_rel (fun _ h => h) (fun _ _ _ hab hbc ha => hbc (hab ha)) h' fs hs

/-- An invariant holds before and after every statement. -/
lemma wp_steps_invariant (hI : ∀ a b, R a b → I a → I b) (h : p.wp R Q s) (hs : I s)
    (fs : List Bool) : ∀ x ∈ p.steps fs s, I x.1 ∧ I x.2 := by
  induction p generalizing s fs with
  | done a => cases fs <;> simp [steps]
  | stmt w k e ihk ihe =>
    have hw : I (w s) := hI _ _ h.1.1 hs
    rcases fs with _ | ⟨b, fs⟩
    · simpa [steps] using ⟨⟨hs, hw⟩, fun a b => ihk s h.1.2 hw [] (a, b)⟩
    · cases b
      · simpa [steps] using ⟨⟨hs, hw⟩, fun a b => ihk s h.1.2 hw fs (a, b)⟩
      · exact ihe h.2 hs fs

def ReadOnly : Proc σ α → Prop
  | done _ => True
  | stmt w k e => (w = id ∧ ∀ s, (k s).ReadOnly) ∧ e.ReadOnly

@[simp] lemma readOnly_read (q : σ → β) : (read q).ReadOnly := ⟨⟨rfl, fun _ => trivial⟩, trivial⟩

lemma readOnly_bind (hp : p.ReadOnly) (hf : ∀ a, (f a).ReadOnly) : (p.bind f).ReadOnly := by
  induction p with
  | done a => exact hf a
  | stmt w k e ihk ihe =>
    obtain ⟨⟨hw, hk⟩, he⟩ := hp
    exact ⟨⟨hw, fun s => ihk s (hk s)⟩, ihe he⟩

lemma readOnly_loop (h : ∀ b x, (body b x).ReadOnly) (xs : List ι) (b : β) :
    (loop body xs b).ReadOnly := by
  induction xs generalizing b with
  | nil => trivial
  | cons x xs ih =>
    refine readOnly_bind (h b x) fun r => ?_
    rcases r with e | b'
    · trivial
    · exact ih b'

lemma wp_of_readOnly (hp : p.ReadOnly) (hrefl : R s s) (hQ : ∀ a, Q a s) : p.wp R Q s := by
  induction p with
  | done a => exact hQ a
  | stmt w k e ihk ihe =>
    obtain ⟨⟨rfl, hk⟩, he⟩ := hp
    exact ⟨⟨hrefl, ihk s (hk s)⟩, ihe he⟩

/-- Such a procedure leaves the state as it is. -/
lemma run_of_readOnly (hp : p.ReadOnly) (fs : List Bool) (s : σ) : (p.run fs s).2 = s := by
  have h : p.wp (fun _ _ => True) (fun _ t => t = s) s := wp_of_readOnly hp trivial fun _ => rfl
  exact wp_run h fs

lemma wp_seq {Q : α → σ → Prop} {Q' : β → σ → Prop} (hp : p.wp R Q s)
    (hf : ∀ a t, Q a t → (f a).wp R Q' t) : (p.bind f).wp R Q' s := by
  rw [wp_bind]
  exact wp_post hf hp

lemma wp_bind_of_readOnly {Q : β → σ → Prop} (hp : p.ReadOnly) (hrefl : R s s)
    (hf : ∀ a, (f a).wp R Q s) : (p.bind f).wp R Q s := by
  rw [wp_bind]
  exact wp_of_readOnly hp hrefl hf

end Proc

end Moebius
