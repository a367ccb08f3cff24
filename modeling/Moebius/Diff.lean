import Mathlib.Logic.Function.Basic

/-!
Changes to what is kept under keys.

A store keeps a list of values under every key. Patches add a value, replace all values or drop
them. Patches to different keys do not meet, so what a list of patches does to a key is decided by
its patches to that key; when these are the difference of two values for every key, the list takes
a store that has one value per key to the other.
-/

namespace Moebius.Diff

variable {κ ν : Type}

inductive Patch (κ ν : Type)
  | add (k : κ) (v : ν)
  | set (k : κ) (v : ν)
  | drop (k : κ)

namespace Patch

def key : Patch κ ν → κ
  | add k _ => k
  | set k _ => k
  | drop k => k

def onValues : Patch κ ν → List ν → List ν
  | add _ v, vs => vs ++ [v]
  | set _ v, vs => vs.map fun _ => v
  | drop _, _ => []

variable [DecidableEq κ]

def apply (f : κ → List ν) (p : Patch κ ν) : κ → List ν :=
  Function.update f p.key (p.onValues (f p.key))

lemma apply_at (f : κ → List ν) (p : Patch κ ν) (k : κ) :
    p.apply f k = if p.key = k then p.onValues (f k) else f k := by
  unfold apply
  by_cases h : p.key = k
  · subst h
    simp
  · simp [Function.update_of_ne (Ne.symm h), h]

end Patch

variable [DecidableEq κ]

def applyAll (f : κ → List ν) (ps : List (Patch κ ν)) : κ → List ν := ps.foldl Patch.apply f

variable (f : κ → List ν)

@[simp] lemma applyAll_nil : applyAll f [] = f := rfl

variable {ps : List (Patch κ ν)}

@[simp] lemma applyAll_cons {p : Patch κ ν} : applyAll f (p :: ps) = applyAll (p.apply f) ps := rfl

lemma applyAll_append (ps qs : List (Patch κ ν)) :
    applyAll f (ps ++ qs) = applyAll (applyAll f ps) qs := List.foldl_append

lemma applyAll_at {k : κ} : applyAll f ps k =
      (ps.filter fun p => p.key = k).foldl (fun vs p => p.onValues vs) (f k) := by
  induction ps generalizing f with
  | nil => rfl
  | cons p ps ih =>
    rw [applyAll_cons, ih, Patch.apply_at]
    by_cases h : p.key = k
    · simp [h]
    · simp [h]

variable [DecidableEq ν]

/-- The patches that turn the value under a key into another. -/
def between (k : κ) : Option ν → Option ν → List (Patch κ ν)
  | none, none => []
  | none, some v => [.add k v]
  | some u, some v => if u = v then [] else [.set k v]
  | some _, none => [.drop k]

/-- For every key, the patches to it are the difference of its values. -/
def IsDiff (old new : κ → Option ν) (ps : List (Patch κ ν)) : Prop :=
  ∀ k, (ps.filter fun p => p.key = k) = between k (old k) (new k)

variable {old new : κ → Option ν}

lemma eq_of_isDiff_nil (h : IsDiff old new []) : old = new := by
  funext k
  have hk : between k (old k) (new k) = [] := (h k).symm
  cases ho : old k with
  | none =>
    cases hn : new k with
    | none => rfl
    | some v => simp [between, ho, hn] at hk
  | some u =>
    cases hn : new k with
    | none => simp [between, ho, hn] at hk
    | some v =>
      rw [ho, hn] at hk
      by_cases huv : u = v
      · rw [huv]
      · simp [between, huv] at hk

lemma applyAll_of_isDiff (h : IsDiff old new ps) :
    applyAll (fun k => (old k).toList) ps = fun k => (new k).toList := by
  funext k
  rw [applyAll_at, h k]
  cases old k with
  | none => cases new k <;> rfl
  | some u =>
    cases new k with
    | none => rfl
    | some v =>
      by_cases huv : u = v
      · simp [between, huv]
      · simp [between, huv, Patch.onValues]

end Moebius.Diff
