import Mathlib.Data.List.Basic
import Mathlib.Logic.Function.Basic
import Mathlib.Logic.Nontrivial.Defs

/-!
# Reports over a memory with secret cells

A report prints cells of a memory between pieces of fixed text.  `Agree secret a b` says that two
memories differ on secret cells only; `KeepsSecret` that the report is the same over any two such
memories.  When all values print with the same width and no two alike, a report keeps the secret
exactly when it prints no secret cell (`keepsSecret_iff`).
-/

set_option autoImplicit false

namespace SecretCells

variable {ι α γ : Type*}

/-- The memories differ on secret cells only. -/
def Agree (secret : ι → Prop) (a b : ι → α) : Prop :=
  ∀ i, ¬secret i → a i = b i

/-- A piece of a report. -/
inductive Piece (ι γ : Type*) where
  | text (t : List γ)
  | cell (i : ι)

/-- What a piece prints. -/
def Piece.print (render : α → List γ) (image : ι → α) : Piece ι γ → List γ
  | .text t => t
  | .cell i => render (image i)

def report (render : α → List γ) (image : ι → α) (pieces : List (Piece ι γ)) : List γ :=
  pieces.flatMap (Piece.print render image)

/-- The report tells nothing about the secret cells. -/
def KeepsSecret (secret : ι → Prop) (render : α → List γ) (pieces : List (Piece ι γ)) : Prop :=
  ∀ a b, Agree secret a b → report render a pieces = report render b pieces

/-- Concatenations are equal only piece by piece when the pieces have the same lengths. -/
theorem eq_of_flatMap_eq {β : Type*} {f g : β → List γ} {xs : List β}
    (hlength : ∀ x ∈ xs, (f x).length = (g x).length) (h : xs.flatMap f = xs.flatMap g) :
    ∀ x ∈ xs, f x = g x := by
  induction xs with
  | nil =>
      intro x hx
      cases hx
  | cons y ys ih =>
      rw [List.flatMap_cons, List.flatMap_cons] at h
      obtain ⟨hhead, htail⟩ := List.append_inj h (hlength y List.mem_cons_self)
      intro x hx
      rcases List.mem_cons.mp hx with rfl | hx
      · exact hhead
      · exact ih (fun z hz => hlength z (List.mem_cons_of_mem y hz)) htail x hx

section Report

variable {secret : ι → Prop} {render : α → List γ} {pieces : List (Piece ι γ)}

/-- A report of public cells keeps the secret. -/
theorem keepsSecret_of_public (hpublic : ∀ i, .cell i ∈ pieces → ¬secret i) :
    KeepsSecret secret render pieces := by
  intro a b hagree
  apply List.flatMap_congr
  intro piece hpiece
  cases piece with
  | text t => rfl
  | cell i =>
      show render (a i) = render (b i)
      rw [hagree i (hpublic i hpiece)]

/-- Memories that differ in one cell show what a report prints of it. -/
theorem render_eq_of_keepsSecret {width : ℕ} (hwidth : ∀ v, (render v).length = width)
    (h : KeepsSecret secret render pieces) {i : ι} (hsecret : secret i) (hcell : .cell i ∈ pieces)
    (v w : α) : render v = render w := by
  classical
  have hagree : Agree secret (fun _ => v) (Function.update (fun _ => v) i w) := by
    intro j hj
    have hne : j ≠ i := by
      rintro rfl
      exact hj hsecret
    rw [Function.update_of_ne hne]
  have hlength : ∀ p ∈ pieces, (Piece.print render (fun _ => v) p).length =
      (Piece.print render (Function.update (fun _ => v) i w) p).length := by
    intro p _
    cases p with
    | text t => rfl
    | cell j => exact (hwidth _).trans (hwidth _).symm
  have hprint := eq_of_flatMap_eq hlength (h _ _ hagree) _ hcell
  rw [Piece.print, Piece.print, Function.update_self] at hprint
  exact hprint

/-- **A report keeps the secret exactly when it prints no secret cell.** -/
theorem keepsSecret_iff [Nontrivial α] {width : ℕ} (hwidth : ∀ v, (render v).length = width)
    (hinjective : Function.Injective render) :
    KeepsSecret secret render pieces ↔ ∀ i, .cell i ∈ pieces → ¬secret i := by
  refine ⟨fun h i hcell hsecret => ?_, keepsSecret_of_public⟩
  obtain ⟨v, w, hne⟩ := exists_pair_ne α
  exact hne (hinjective (render_eq_of_keepsSecret hwidth h hsecret hcell v w))

end Report

end SecretCells
