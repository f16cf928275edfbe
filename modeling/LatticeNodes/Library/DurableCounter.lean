import Mathlib.Algebra.Order.Group.Nat
import LatticeNodes.Library.TransitionSystem

/-!
# A counter that survives crashes

A machine keeps a durable number and stamps what it emits.  In each life, between two crashes, it
may once count the durable number up, and only from then on may it stamp, always with the number
it stored.  A crash is possible at any moment, in particular between counting and stamping.

`stamps_increase`: the stamps of a later life are greater than all stamps of an earlier one.
`Holds` also bounds the number by the lives begun, for machines whose number is of a fixed width.
-/

set_option autoImplicit false

namespace DurableCounter

open TransitionSystem

/-- `current` is the number this life may stamp with; `stamps` lists, for everything emitted, the
life it was emitted in and its stamp. -/
structure State where
  durable : ℕ
  current : Option ℕ
  life : ℕ
  stamps : List (ℕ × ℕ)

inductive Event where
  /-- A life begins; the one before it may have been cut off anywhere. -/
  | start
  | count
  /-- A number of things are emitted at once. -/
  | stamp (copies : ℕ)

/-- Nothing happens before the first life. -/
def step (s : State) : Event → Option State
  | .start => some { s with current := none, life := s.life + 1 }
  | .count =>
      if 0 < s.life ∧ s.current = none then
        some { s with durable := s.durable + 1, current := some (s.durable + 1) }
      else none
  | .stamp copies =>
      s.current.map fun c => { s with stamps := s.stamps ++ List.replicate copies (s.life, c) }

/-- The first life has yet to begin. -/
def system (first : ℕ) : System State Event where
  Init := fun s => s = ⟨first, none, 0, []⟩
  step := step

/-- Stamps are positive and at most the durable number, those of earlier lives are below the
present one, and those of the present life are the present one. -/
structure Holds (first : ℕ) (s : State) : Prop where
  durable : s.durable ≤ first + s.life
  pending : s.current = none → 0 < s.life → s.durable < first + s.life
  current : ∀ c, s.current = some c → c = s.durable ∧ 0 < c
  positive : ∀ u ∈ s.stamps, 0 < u.2 ∧ u.2 ≤ s.durable
  present : ∀ u ∈ s.stamps, u.1 ≤ s.life ∧ (u.1 = s.life → s.current = some u.2)
  past : ∀ c, s.current = some c → ∀ u ∈ s.stamps, u.1 < s.life → u.2 < c
  increase : ∀ u ∈ s.stamps, ∀ v ∈ s.stamps, u.1 < v.1 → u.2 < v.2

variable {first : ℕ} {s s' : State}

/-- Before the first life nothing is stamped. -/
theorem holds_init : Holds first ⟨first, none, 0, []⟩ where
  durable := le_rfl
  pending := by
    intro _ hlife
    cases hlife
  current := by
    intro c hc
    cases hc
  positive := by
    intro u hu
    cases hu
  present := by
    intro u hu
    cases hu
  past := by
    intro c hc
    cases hc
  increase := by
    intro u hu
    cases hu

/-- A new life has no number yet. -/
theorem Holds.start (h : Holds first s) :
    Holds first { s with current := none, life := s.life + 1 } where
  durable := Nat.le_succ_of_le h.durable
  pending := fun _ _ => Nat.lt_succ_of_le h.durable
  current := by
    intro c hc
    cases hc
  positive := h.positive
  present := by
    intro u hu
    obtain ⟨hle, -⟩ := h.present u hu
    refine ⟨Nat.le_succ_of_le hle, fun heq => ?_⟩
    have hnext : u.1 = s.life + 1 := heq
    omega
  past := by
    intro c hc
    cases hc
  increase := h.increase

/-- Counting makes the number greater than every stamp so far. -/
theorem Holds.count (h : Holds first s) (hlife : 0 < s.life) (hnone : s.current = none) :
    Holds first { s with durable := s.durable + 1, current := some (s.durable + 1) } where
  durable := h.pending hnone hlife
  pending := by
    intro hc
    cases hc
  current := by
    intro c hc
    cases hc
    exact ⟨rfl, Nat.succ_pos _⟩
  positive := by
    intro u hu
    obtain ⟨hpos, hle⟩ := h.positive u hu
    exact ⟨hpos, Nat.le_succ_of_le hle⟩
  present := by
    intro u hu
    obtain ⟨hle, hpresent⟩ := h.present u hu
    refine ⟨hle, fun heq => ?_⟩
    have hcurrent := hpresent heq
    rw [hnone] at hcurrent
    cases hcurrent
  past := by
    intro c hc u hu _
    cases hc
    exact Nat.lt_succ_of_le (h.positive u hu).2
  increase := h.increase

/-- Stamps carry the number of this life, which is durable. -/
theorem Holds.stamp (h : Holds first s) {c : ℕ} (hc : s.current = some c) (copies : ℕ) :
    Holds first { s with stamps := s.stamps ++ List.replicate copies (s.life, c) } := by
  obtain ⟨heq, hpos⟩ := h.current c hc
  have hcases : ∀ u ∈ s.stamps ++ List.replicate copies (s.life, c),
      u ∈ s.stamps ∨ u = (s.life, c) := by
    intro u hu
    rcases List.mem_append.mp hu with hu | hu
    · exact .inl hu
    · exact .inr (List.eq_of_mem_replicate hu)
  refine ⟨h.durable, h.pending, h.current, fun u hu => ?_, fun u hu => ?_,
    fun c' hc' u hu hlt => ?_, fun u hu v hv hlt => ?_⟩
  · rcases hcases u hu with hold | rfl
    · exact h.positive u hold
    · exact ⟨hpos, heq.le⟩
  · rcases hcases u hu with hold | rfl
    · exact h.present u hold
    · exact ⟨le_rfl, fun _ => hc⟩
  · rcases hcases u hu with hold | rfl
    · exact h.past c' hc' u hold hlt
    · exact absurd hlt (Nat.lt_irrefl _)
  · rcases hcases v hv with hvold | rfl
    · rcases hcases u hu with huold | rfl
      · exact h.increase u huold v hvold hlt
      · exact absurd hlt (Nat.not_lt.mpr (h.present v hvold).1)
    · rcases hcases u hu with huold | rfl
      · exact h.past c hc u huold hlt
      · exact absurd hlt (Nat.lt_irrefl _)

/-- Every step, one case for each event, keeps the invariant. -/
theorem Holds.step {e : Event} (h : Holds first s) (hstep : step s e = some s') :
    Holds first s' := by
  cases e with
  | start =>
      cases hstep
      exact h.start
  | count =>
      simp only [DurableCounter.step, Option.ite_none_right_eq_some, Option.some.injEq] at hstep
      obtain ⟨⟨hlife, hnone⟩, rfl⟩ := hstep
      exact h.count hlife hnone
  | stamp copies =>
      obtain ⟨c, hc, rfl⟩ := Option.map_eq_some_iff.mp hstep
      exact h.stamp hc copies

/-- The invariant holds in every reachable state. -/
theorem holds_of_reachable (h : (system first).Reachable s) : Holds first s := by
  refine h.invariant ?_ fun s e s' hs hstep => hs.step hstep
  rintro s rfl
  exact holds_init

/-- **Stamps increase from life to life.** -/
theorem stamps_increase (h : (system first).Reachable s) :
    ∀ u ∈ s.stamps, ∀ v ∈ s.stamps, u.1 < v.1 → u.2 < v.2 :=
  (holds_of_reachable h).increase

/-- **No stamp is zero.** -/
theorem stamps_positive (h : (system first).Reachable s) : ∀ u ∈ s.stamps, 0 < u.2 :=
  fun u hu => ((holds_of_reachable h).positive u hu).1

end DurableCounter
