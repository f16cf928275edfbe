import Mathlib.Algebra.BigOperators.Group.List.Basic
import Mathlib.Algebra.BigOperators.Fin
import LatticeNodes.Library.TransitionSystem

/-!
# Cascades of jobs

A job has a number of generations left.  To work on it takes one step and spawns at most `width`
jobs with one generation less, so what it sets off is at most a complete tree (`tree`).  The sum
of the trees of all waiting jobs is a potential; `runFrom_potential` is the rule that turns the
account of one step into a bound for a whole run.
-/

set_option autoImplicit false

namespace Cascade

/-- The nodes of a complete tree of this width and depth. -/
def tree (width : ℕ) : ℕ → ℕ
  | 0 => 1
  | k + 1 => 1 + width * tree width k

/-- A frame that is not passed on is one arrival. -/
@[simp] theorem tree_zero (width : ℕ) : tree width 0 = 1 := rfl

/-- A frame that is passed on is one arrival and one tree for each receiver. -/
@[simp] theorem tree_succ (width k : ℕ) : tree width (k + 1) = 1 + width * tree width k := rfl

/-- Every frame arrives at least once. -/
theorem tree_pos (width k : ℕ) : 0 < tree width k := by
  cases k with
  | zero => exact Nat.one_pos
  | succ k =>
      rw [tree_succ]
      omega

section Sums

variable {α β : Type*}

/-- At most `count` jobs, none of which sets off more than `bound`. -/
theorem sum_map_le {f : α → ℕ} {bound count : ℕ} {xs : List α} (hlength : xs.length ≤ count)
    (h : ∀ x ∈ xs, f x ≤ bound) : (xs.map f).sum ≤ count * bound := by
  have hbound : (xs.map f).sum ≤ xs.length * bound := by
    clear hlength
    induction xs with
    | nil => exact Nat.zero_le _
    | cons x xs ih =>
        have hhead := h x List.mem_cons_self
        have htail := ih fun y hy => h y (List.mem_cons_of_mem x hy)
        rw [List.map_cons, List.sum_cons, List.length_cons, Nat.succ_mul]
        omega
  exact hbound.trans (Nat.mul_le_mul_right bound hlength)

/-- So many lists of bounded length have a bounded length together. -/
theorem length_flatMap_le {f : α → List β} {count bound : ℕ} {xs : List α}
    (hlength : xs.length ≤ count) (h : ∀ x ∈ xs, (f x).length ≤ bound) :
    (xs.flatMap f).length ≤ count * bound := by
  rw [List.length_flatMap]
  exact sum_map_le hlength h

/-- A job that is taken out of the list. -/
theorem sum_map_eraseIdx {f : α → ℕ} {xs : List α} {i : ℕ} {x : α} (hi : xs[i]? = some x) :
    (xs.map f).sum = f x + ((xs.eraseIdx i).map f).sum := by
  obtain ⟨hlt, rfl⟩ := List.getElem?_eq_some_iff.mp hi
  have hperm := (List.getElem_cons_eraseIdx_perm hlt).map f
  rw [← hperm.sum_eq, List.map_cons, List.sum_cons]

/-- One place of finitely many changes. -/
theorem sum_update {n : ℕ} (f : α → ℕ) (g : Fin n → α) (i : Fin n) (x : α) :
    ∑ j, f (Function.update g i x j) + f (g i) = ∑ j, f (g j) + f x := by
  have hafter := Finset.add_sum_erase Finset.univ (fun j => f (Function.update g i x j))
    (Finset.mem_univ i)
  have hbefore := Finset.add_sum_erase Finset.univ (fun j => f (g j)) (Finset.mem_univ i)
  have hothers : ∑ j ∈ Finset.univ.erase i, f (Function.update g i x j) =
      ∑ j ∈ Finset.univ.erase i, f (g j) := by
    refine Finset.sum_congr rfl fun j hj => ?_
    rw [Function.update_of_ne (Finset.ne_of_mem_erase hj)]
  simp only [Function.update_self] at hafter
  omega

end Sums

end Cascade

namespace TransitionSystem.System

variable {σ ε : Type*} {sys : System σ ε}

/-- **The account of a run.**  When every step is paid for by the potential and by what its event
brings in, so is every run. -/
theorem runFrom_potential {potential : σ → ℕ} {cost income : ε → ℕ}
    (hstep : ∀ s e s', sys.step s e = some s' → potential s' + cost e ≤ potential s + income e)
    {s s' : σ} {es : List ε} (h : sys.runFrom s es = some s') :
    potential s' + (es.map cost).sum ≤ potential s + (es.map income).sum := by
  induction es generalizing s with
  | nil =>
      cases h
      exact Nat.le_refl _
  | cons e es ih =>
      obtain ⟨s₁, hfirst, hrest⟩ := Option.bind_eq_some_iff.mp h
      have hone := hstep s e s₁ hfirst
      have hmany := ih hrest
      simp only [List.map_cons, List.sum_cons]
      omega

end TransitionSystem.System
