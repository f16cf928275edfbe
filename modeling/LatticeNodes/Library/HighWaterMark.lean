import Mathlib.Order.MinMax

/-!
# A high-water mark as a duplicate filter

A filter that remembers only the greatest key it has let through, and lets through what lies
above it.  The mark is the maximum of all keys offered so far (`mark_cons`), whether they were
let through or not.

One mark may serve keys of several sources.  A key above all earlier ones of its own source
then passes exactly when it is also above all earlier ones of the other sources
(`mark_lt_iff_of_newest`): each source is filtered on its own only as long as their keys do
not interleave.
-/

set_option autoImplicit false

namespace HighWaterMark

variable {κ : Type*} [LinearOrder κ]

/-- The mark after the given keys were offered, newest first. -/
def mark (bottom : κ) : List κ → κ
  | [] => bottom
  | k :: ks => max (mark bottom ks) k

/-- Before anything is seen the mark is at the bottom. -/
@[simp] theorem mark_nil (bottom : κ) : mark bottom [] = bottom := rfl

/-- A new key raises the mark if it is above. -/
@[simp] theorem mark_cons (bottom k : κ) (ks : List κ) :
    mark bottom (k :: ks) = max (mark bottom ks) k := rfl

/-- A key that passes becomes the mark. -/
theorem mark_cons_of_lt {bottom k : κ} {ks : List κ} (h : mark bottom ks < k) :
    mark bottom (k :: ks) = k :=
  max_eq_right h.le

/-- A key that does not pass leaves the mark. -/
theorem mark_cons_of_not_lt {bottom k : κ} {ks : List κ} (h : ¬mark bottom ks < k) :
    mark bottom (k :: ks) = mark bottom ks :=
  max_eq_left (not_lt.mp h)

/-- What lies above the mark lies above the bottom and everything offered. -/
theorem mark_lt_iff {bottom k : κ} {ks : List κ} :
    mark bottom ks < k ↔ bottom < k ∧ ∀ a ∈ ks, a < k := by
  induction ks with
  | nil => simp
  | cons a ks ih =>
      rw [mark_cons, max_lt_iff, ih, List.forall_mem_cons]
      constructor
      · rintro ⟨⟨hbottom, hks⟩, ha⟩
        exact ⟨hbottom, ha, hks⟩
      · rintro ⟨hbottom, ha, hks⟩
        exact ⟨⟨hbottom, hks⟩, ha⟩

variable {α σ : Type*}

/-- **One mark for several sources.**  The newest item of its source passes exactly when no
other source is ahead of it. -/
theorem mark_lt_iff_of_newest {key : α → κ} {source : α → σ} {bottom : κ} {offered : List α}
    {b : α} (hnewest : ∀ a ∈ offered, source a = source b → key a < key b) :
    mark bottom (offered.map key) < key b ↔
      bottom < key b ∧ ∀ a ∈ offered, source a ≠ source b → key a < key b := by
  rw [mark_lt_iff, List.forall_mem_map]
  refine and_congr_right fun _ => ⟨fun h a ha _ => h a ha, fun h a ha => ?_⟩
  by_cases hsource : source a = source b
  · exact hnewest a ha hsource
  · exact h a ha hsource

end HighWaterMark
