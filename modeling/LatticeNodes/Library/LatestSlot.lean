import Mathlib.Data.List.Induction
import Mathlib.Data.List.Count

/-!
# Deferral through a single slot

Values are posted into one slot, and a later flush delivers what the slot holds.  A value that is
posted while another waits takes its place.  The log of a round, from an empty slot to its flush,
is the posts and then the delivery of the last one (`log_flush_postAll`), so that every posted
value is delivered once exactly when all of them are the same (`deliversAll_round_iff`).
-/

set_option autoImplicit false

namespace LatestSlot

/-- What happens to a value. -/
inductive Record (α : Type*) where
  | posted (a : α)
  | delivered (a : α)
  deriving DecidableEq

structure Slot (α : Type*) where
  pending : Option α
  log : List (Record α)

variable {α : Type*}

namespace Slot

/-- The slot when a round begins. -/
def opened : Slot α := ⟨none, []⟩

def post (s : Slot α) (a : α) : Slot α := ⟨some a, s.log ++ [.posted a]⟩

def postAll (s : Slot α) (posts : List α) : Slot α := posts.foldl post s

def flush (s : Slot α) : Slot α := ⟨none, s.log ++ s.pending.toList.map .delivered⟩

/-- Two lists of posts in a row are their concatenation. -/
theorem postAll_append (s : Slot α) (xs ys : List α) :
    s.postAll (xs ++ ys) = (s.postAll xs).postAll ys := by
  rw [postAll, List.foldl_append]
  rfl

/-- The slot holds the last value, and the log all of them. -/
theorem postAll_opened (posts : List α) :
    (opened : Slot α).postAll posts = ⟨posts.getLast?, posts.map .posted⟩ := by
  induction posts using List.reverseRecOn with
  | nil => rfl
  | append_singleton posts a ih =>
      rw [postAll_append, ih]
      simp [postAll, post]

end Slot

/-- The log of a round. -/
def round (posts : List α) : List (Record α) :=
  posts.map .posted ++ posts.getLast?.toList.map .delivered

/-- A round that was opened, filled and flushed is logged as such. -/
theorem log_flush_postAll (posts : List α) :
    ((Slot.opened.postAll posts).flush).log = round posts := by
  rw [Slot.postAll_opened]
  rfl

/-- Every value is delivered exactly once after it was posted. -/
def DeliversAll [DecidableEq α] (log : List (Record α)) : Prop :=
  ∀ before a after, log = before ++ .posted a :: after → after.count (.delivered a) = 1

/-- All posted values are the same. -/
def Uniform (log : List (Record α)) : Prop :=
  ∀ a b, .posted a ∈ log → .posted b ∈ log → a = b

/-- The posts of a round are in its log. -/
theorem posted_mem_round {posts : List α} {a : α} : .posted a ∈ round posts ↔ a ∈ posts := by
  simp [round]

/-- A round speaks of one value exactly when all its posts do. -/
theorem uniform_round {posts : List α} :
    Uniform (round posts) ↔ ∀ a ∈ posts, ∀ b ∈ posts, a = b := by
  simp only [Uniform, posted_mem_round]
  exact ⟨fun h a ha b hb => h a b ha hb, fun h a b ha hb => h a ha b hb⟩

section Deliveries

variable [DecidableEq α]

/-- A post is no delivery. -/
theorem count_delivered_posted (posts : List α) (a : α) :
    (posts.map Record.posted).count (.delivered a) = 0 := by
  apply List.count_eq_zero_of_not_mem
  intro hmem
  obtain ⟨b, -, heq⟩ := List.mem_map.mp hmem
  cases heq

/-- A round delivers its last value, once. -/
theorem count_delivered_round (posts : List α) (a : α) :
    (round posts).count (.delivered a) = if posts.getLast? = some a then 1 else 0 := by
  rw [round, List.count_append, count_delivered_posted, Nat.zero_add]
  cases posts.getLast? with
  | none => rfl
  | some b =>
      by_cases hb : b = a
      · subst hb
        simp
      · simp [hb]

/-- Nothing is delivered before the last post. -/
theorem count_delivered_before {posts : List α} {before after : List (Record α)} {a : α} (b : α)
    (h : round posts = before ++ .posted a :: after) : before.count (.delivered b) = 0 := by
  rw [round] at h
  rcases List.append_eq_append_iff.mp h with ⟨more, hbefore, hrest⟩ | ⟨more, hposted, -⟩
  · -- the post would be among the deliveries
    exfalso
    have hmem : Record.posted a ∈ posts.getLast?.toList.map Record.delivered := by
      rw [hrest]
      exact List.mem_append_right _ List.mem_cons_self
    obtain ⟨c, -, heq⟩ := List.mem_map.mp hmem
    cases heq
  · have hcount := count_delivered_posted posts b
    rw [hposted, List.count_append] at hcount
    omega

/-- **A round delivers every value exactly when all of them are the same.** -/
theorem deliversAll_round_iff (posts : List α) :
    DeliversAll (round posts) ↔ Uniform (round posts) := by
  have hafter : ∀ {before a after}, round posts = before ++ .posted a :: after →
      after.count (.delivered a) = if posts.getLast? = some a then 1 else 0 := by
    intro before a after h
    have htotal := count_delivered_round posts a
    have hnone := count_delivered_before a h
    rw [h, List.count_append, List.count_cons_of_ne (by simp), hnone, Nat.zero_add] at htotal
    exact htotal
  constructor
  · intro hdelivers
    have hlast : ∀ a ∈ posts, posts.getLast? = some a := by
      intro a ha
      obtain ⟨before, after, hsplit⟩ := List.append_of_mem (posted_mem_round.mpr ha)
      have hcount := hdelivers before a after hsplit
      rw [hafter hsplit] at hcount
      by_contra hother
      rw [if_neg hother] at hcount
      cases hcount
    rw [uniform_round]
    intro a ha b hb
    exact Option.some.inj ((hlast a ha).symm.trans (hlast b hb))
  · intro huniform before a after hsplit
    have ha : a ∈ posts := by
      rw [← posted_mem_round, hsplit]
      exact List.mem_append_right _ List.mem_cons_self
    have hlast : posts.getLast? = some a := by
      have hne : posts ≠ [] := List.ne_nil_of_mem ha
      rw [List.getLast?_eq_some_getLast hne,
        uniform_round.mp huniform _ (List.getLast_mem hne) a ha]
    rw [hafter hsplit, if_pos hlast]

end Deliveries

end LatestSlot
