import LatticeNodes.Library.TransitionSystem
import Mathlib.Algebra.Group.Fin.Basic
import Mathlib.Algebra.GroupWithZero.Nat
import Mathlib.Data.List.Range

/-!
# A ring between one producer and one consumer

`n` slots in a circle.  The producer writes at `head` and drops what comes when the next index
is `tail`; the consumer takes the entry at `tail` by reference, moves `tail` past it, and
reads it only then.  What makes that safe is the one slot a full ring leaves unused: the slot
in use is always the one before `tail` (`Consistent.held`).

`view` is the list of the waiting entries, the oldest first.
-/

set_option autoImplicit false

namespace SpscRing

/-! ## Indices -/

section Indices

variable {n : ℕ} [NeZero n]

/-- Below the end the next index is one more. -/
theorem val_add_one_of_lt {x : Fin n} (h : x.val + 1 < n) : (x + 1).val = x.val + 1 := by
  have hone : (1 : Fin n).val = 1 := by
    rw [Fin.val_one', Nat.mod_eq_of_lt (by omega)]
  rw [Fin.val_add, hone, Nat.mod_eq_of_lt h]

/-- The last index is followed by the first. -/
theorem add_one_eq_zero_iff {x : Fin n} : x + 1 = 0 ↔ x.val + 1 = n := by
  have hlt := x.isLt
  constructor
  · intro hzero
    by_contra hne
    have hval := val_add_one_of_lt (show x.val + 1 < n by omega)
    rw [hzero, Fin.val_zero] at hval
    omega
  · intro hlast
    apply Fin.ext
    rw [Fin.val_add, Fin.val_one', Nat.add_mod_mod, hlast, Nat.mod_self, Fin.val_zero]

/-- Indices are counted modulo the size. -/
theorem ofNat_succ (i : ℕ) : Fin.ofNat n (i + 1) = Fin.ofNat n i + 1 := by
  apply Fin.ext
  rw [Fin.val_add, Fin.val_one', Fin.val_ofNat, Fin.val_ofNat, ← Nat.add_mod]

end Indices

/-! ## The ring -/

structure Ring (α : Type*) (n : ℕ) where
  slots : Vector α n
  head : Fin n
  tail : Fin n

namespace Ring

variable {α : Type*} {n : ℕ} [NeZero n]

def waiting (r : Ring α n) : ℕ := (r.head - r.tail).val

/-- The index of waiting entry `i`. -/
def pos (r : Ring α n) (i : ℕ) : Fin n := r.tail + Fin.ofNat n i

def read (r : Ring α n) (i : Fin n) : α := getElem r.slots i i.isLt

def view (r : Ring α n) : List α := (List.range r.waiting).map fun i => r.read (r.pos i)

/-- No slot is left but the unused one. -/
def Full (r : Ring α n) : Prop := r.head + 1 = r.tail

instance (r : Ring α n) : Decidable r.Full :=
  inferInstanceAs (Decidable (_ = _))

/-- Store an entry; `none` drops it. -/
def push (r : Ring α n) (a : α) : Option (Ring α n) :=
  if r.Full then none
  else some { r with slots := r.slots.set r.head a, head := r.head + 1 }

/-- Move past the oldest entry. -/
def advance (r : Ring α n) : Ring α n := { r with tail := r.tail + 1 }

/-- The view has as many elements as wait. -/
theorem length_view (r : Ring α n) : r.view.length = r.waiting := by
  simp [view]

omit [NeZero n] in
/-- One slot always stays free. -/
theorem waiting_lt (r : Ring α n) : r.waiting < n := (r.head - r.tail).isLt

/-- Nothing waits exactly when the two indices meet. -/
theorem waiting_eq_zero_iff {r : Ring α n} : r.waiting = 0 ↔ r.tail = r.head := by
  rw [waiting, Fin.val_eq_zero_iff, sub_eq_zero, eq_comm]

/-- The view is empty exactly when the two indices meet. -/
theorem view_eq_nil_iff {r : Ring α n} : r.view = [] ↔ r.tail = r.head := by
  rw [← List.length_eq_zero_iff, length_view, waiting_eq_zero_iff]

/-- **A ring is full when all slots but one are waiting.** -/
theorem full_iff {r : Ring α n} : r.Full ↔ r.waiting + 1 = n := by
  rw [Full, waiting, ← add_one_eq_zero_iff, ← sub_eq_zero, add_sub_right_comm]

/-- Behind the last element that waits is the head. -/
theorem pos_waiting (r : Ring α n) : r.pos r.waiting = r.head := by
  have hcast : Fin.ofNat n (r.head - r.tail).val = r.head - r.tail := by
    apply Fin.ext
    rw [Fin.val_ofNat, Nat.mod_eq_of_lt (r.head - r.tail).isLt]
  rw [pos, waiting, hcast, add_sub_cancel]

/-- No waiting entry stands where the producer writes. -/
theorem pos_ne_head {r : Ring α n} {i : ℕ} (h : i < r.waiting) : r.pos i ≠ r.head := by
  intro heq
  rw [← r.pos_waiting] at heq
  have hval := congrArg Fin.val (add_left_cancel heq)
  have hlt := r.waiting_lt
  rw [Fin.val_ofNat, Fin.val_ofNat, Nat.mod_eq_of_lt (by omega), Nat.mod_eq_of_lt hlt] at hval
  omega

/-- The pushed element is at the old head. -/
theorem read_push_self (r : Ring α n) (a : α) :
    Ring.read { r with slots := r.slots.set r.head a, head := r.head + 1 } r.head = a :=
  Vector.getElem_set_self r.head.isLt

/-- A push leaves the other slots alone. -/
theorem read_push_of_ne {r r' : Ring α n} {a : α} (h : r.push a = some r') {i : Fin n}
    (hi : i ≠ r.head) : r'.read i = r.read i := by
  unfold push at h
  split at h
  · cases h
  · cases h
    have hval : r.head.val ≠ i.val := fun heq => hi (Fin.ext heq.symm)
    exact Vector.getElem_set_ne r.head.isLt i.isLt hval

/-- **Storing an entry appends it to the view.** -/
theorem view_push {r r' : Ring α n} {a : α} (h : r.push a = some r') :
    r'.view = r.view ++ [a] := by
  have hkept := fun i => @read_push_of_ne α n _ r r' a h i
  unfold push at h
  split at h
  · cases h
  · next hroom =>
    have hfew := r.waiting_lt
    rw [full_iff] at hroom
    cases h
    have hwaiting : (⟨r.slots.set r.head a, r.head + 1, r.tail⟩ : Ring α n).waiting =
        r.waiting + 1 := by
      show (r.head + 1 - r.tail).val = (r.head - r.tail).val + 1
      rw [add_sub_right_comm]
      exact val_add_one_of_lt (show r.waiting + 1 < n by omega)
    rw [view, hwaiting, List.range_succ, List.map_append, List.map_singleton]
    congr 1
    · apply List.map_congr_left
      intro i hi
      exact hkept _ (pos_ne_head (List.mem_range.mp hi))
    · have hpos : (⟨r.slots.set r.head a, r.head + 1, r.tail⟩ : Ring α n).pos r.waiting = r.head :=
        r.pos_waiting
      rw [hpos, read_push_self]

/-- A push is refused exactly when all slots but one wait. -/
theorem push_eq_none_iff {r : Ring α n} {a : α} : r.push a = none ↔ r.waiting + 1 = n := by
  rw [← full_iff, push]
  split <;> simp_all

/-- **The oldest entry of the view stands at the tail.** -/
theorem view_advance {r : Ring α n} (h : r.tail ≠ r.head) :
    r.view = r.read r.tail :: r.advance.view := by
  have hwaiting : r.waiting = r.advance.waiting + 1 := by
    have hback : r.head - (r.tail + 1) + 1 = r.head - r.tail := by
      rw [sub_add_eq_sub_sub, sub_add_cancel]
    have hnonzero : r.head - (r.tail + 1) + 1 ≠ 0 := by
      rw [hback, Ne, sub_eq_zero]
      exact h.symm
    rw [Ne, add_one_eq_zero_iff] at hnonzero
    have hlt := (r.head - (r.tail + 1)).isLt
    show (r.head - r.tail).val = (r.head - (r.tail + 1)).val + 1
    rw [← hback]
    exact val_add_one_of_lt (by omega)
  have hfirst : r.pos 0 = r.tail := by
    show r.tail + Fin.ofNat n 0 = r.tail
    have hzero : Fin.ofNat n 0 = 0 := rfl
    rw [hzero, add_zero]
  have hnext : ∀ i, r.pos (i + 1) = r.advance.pos i := by
    intro i
    show r.tail + Fin.ofNat n (i + 1) = r.tail + 1 + Fin.ofNat n i
    rw [ofNat_succ, add_assoc, add_comm 1]
  rw [view, hwaiting, List.range_succ_eq_map, List.map_cons, List.map_map, hfirst]
  congr 1
  apply List.map_congr_left
  intro i _
  show r.read (r.pos (i + 1)) = r.read (r.advance.pos i)
  rw [hnext]

end Ring

/-! ## Producer and consumer -/

open TransitionSystem

/-- The ring and what has happened to it: `inUse` is the slot the consumer holds by reference,
`accepted` what the producer stored, `handled` what stood in the slots when they were taken,
and `reads` what the consumer read later, each with the number of the handling. -/
structure State (α : Type*) (n : ℕ) where
  ring : Ring α n
  inUse : Option (Fin n)
  accepted : List α
  handled : List α
  reads : List (ℕ × α)

inductive Event (α : Type*) where
  | push (a : α)
  | take
  | read
  | release

section System

variable {α : Type*} {n : ℕ} [NeZero n]

def step (s : State α n) : Event α → Option (State α n)
  | .push a =>
      match s.ring.push a with
      | none => some s
      | some r => some { s with ring := r, accepted := s.accepted ++ [a] }
  | .take =>
      if s.inUse = none ∧ s.ring.tail ≠ s.ring.head then
        some { s with
          ring := s.ring.advance
          inUse := some s.ring.tail
          handled := s.handled ++ [s.ring.read s.ring.tail] }
      else none
  | .read =>
      match s.inUse with
      | none => none
      | some i => some { s with reads := s.reads ++ [(s.handled.length - 1, s.ring.read i)] }
  | .release => some { s with inUse := none }

/-- Nothing was stored yet. -/
structure Empty (s : State α n) : Prop where
  ring : s.ring.tail = s.ring.head
  inUse : s.inUse = none
  accepted : s.accepted = []
  handled : s.handled = []
  reads : s.reads = []

def system (α : Type*) (n : ℕ) [NeZero n] : System (State α n) (Event α) where
  Init := Empty
  step := step

/-- What every interleaving keeps. -/
structure Consistent (s : State α n) : Prop where
  fifo : s.handled ++ s.ring.view = s.accepted
  /-- The slot in use is the one before the tail, and holds what was taken. -/
  held : ∀ i, s.inUse = some i →
    i + 1 = s.ring.tail ∧ s.handled.getLast? = some (s.ring.read i)
  reads : ∀ k a, (k, a) ∈ s.reads → s.handled[k]? = some a

variable {s s' : State α n}

/-- A push accepts the element behind all others. -/
theorem Consistent.push (h : Consistent s) {a : α} {r : Ring α n}
    (hpush : s.ring.push a = some r) :
    Consistent { s with ring := r, accepted := s.accepted ++ [a] } := by
  refine ⟨?_, fun i hi => ?_, h.reads⟩
  · show s.handled ++ r.view = s.accepted ++ [a]
    rw [Ring.view_push hpush, ← List.append_assoc, h.fifo]
  · obtain ⟨hbefore, hlast⟩ := h.held i hi
    have hroom : ¬s.ring.Full := by
      intro hfull
      rw [Ring.push, if_pos hfull] at hpush
      cases hpush
    have hother : i ≠ s.ring.head := by
      rintro rfl
      exact hroom hbefore
    have htail : r.tail = s.ring.tail := by
      unfold Ring.push at hpush
      split at hpush
      · cases hpush
      · cases hpush
        rfl
    refine ⟨hbefore.trans htail.symm, ?_⟩
    show s.handled.getLast? = some (r.read i)
    rw [Ring.read_push_of_ne hpush hother, hlast]

/-- A take hands out the oldest element that waits. -/
theorem Consistent.take (h : Consistent s) (hsome : s.ring.tail ≠ s.ring.head) :
    Consistent { s with
      ring := s.ring.advance
      inUse := some s.ring.tail
      handled := s.handled ++ [s.ring.read s.ring.tail] } := by
  refine ⟨?_, ?_, fun k a hmem => ?_⟩
  · show s.handled ++ [s.ring.read s.ring.tail] ++ s.ring.advance.view = s.accepted
    rw [List.append_assoc, List.singleton_append, ← Ring.view_advance hsome, h.fifo]
  · rintro i hi
    cases hi
    exact ⟨rfl, List.getLast?_concat⟩
  · have hold := h.reads k a hmem
    obtain ⟨hlt, -⟩ := List.getElem?_eq_some_iff.mp hold
    exact (List.getElem?_append_left hlt).trans hold

/-- A read sees the element that was handed out last. -/
theorem Consistent.read (h : Consistent s) {i : Fin n} (hi : s.inUse = some i) :
    Consistent { s with reads := s.reads ++ [(s.handled.length - 1, s.ring.read i)] } := by
  refine ⟨h.fifo, h.held, fun k a hmem => ?_⟩
  rcases List.mem_append.mp hmem with hold | hnew
  · exact h.reads k a hold
  · obtain ⟨rfl, rfl⟩ := Prod.mk.inj (List.mem_singleton.mp hnew)
    rw [← List.getLast?_eq_getElem?]
    exact (h.held i hi).2

/-- One case for each event. -/
theorem Consistent.step {e : Event α} (h : Consistent s) (hstep : SpscRing.step s e = some s') :
    Consistent s' := by
  cases e with
  | push a =>
      simp only [SpscRing.step] at hstep
      split at hstep
      · cases hstep
        exact h
      · next r hpush =>
        cases hstep
        exact h.push hpush
  | take =>
      simp only [SpscRing.step, Option.ite_none_right_eq_some, Option.some.injEq] at hstep
      obtain ⟨⟨-, hsome⟩, rfl⟩ := hstep
      exact h.take hsome
  | read =>
      simp only [SpscRing.step] at hstep
      split at hstep
      · cases hstep
      · next i hi =>
        cases hstep
        exact h.read hi
  | release =>
      cases hstep
      refine ⟨h.fifo, fun i hi => ?_, h.reads⟩
      cases hi

/-- **Every interleaving keeps the ring consistent.** -/
theorem consistent_of_reachable (h : (system α n).Reachable s) : Consistent s := by
  refine h.invariant ?_ fun s e s' hs hstep => hs.step hstep
  intro s hs
  refine ⟨?_, fun i hi => ?_, fun k a hmem => ?_⟩
  · rw [hs.handled, hs.accepted, Ring.view_eq_nil_iff.mpr hs.ring, List.append_nil]
  · rw [hs.inUse] at hi
    cases hi
  · rw [hs.reads] at hmem
    cases hmem

end System

end SpscRing
