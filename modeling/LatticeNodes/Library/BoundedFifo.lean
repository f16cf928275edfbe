import Mathlib.Algebra.Group.Fin.Basic
import Mathlib.Algebra.GroupWithZero.Nat
import Mathlib.Data.Finset.Card
import Mathlib.Data.Vector.Basic

/-!
# A bounded first-in first-out memory

A ring of `n` slots with a write position: `record` overwrites the oldest slot.  `check` is
the duplicate filter built on it, which records exactly what it does not find.

`view` lists the slots from the newest to the oldest.  In this view `record` is a push that
forgets what lies beyond position `n` (`view_record`), so an entry is forgotten only after
`n` further records; `mem_checkAll_record` turns this into a statement about inputs: an entry is
still found as long as fewer than `n` other values were checked since it was recorded.
-/

set_option autoImplicit false

namespace BoundedFifo

variable {α : Type*} {n : ℕ} [NeZero n]

/-- `n` slots and the position the next record goes to. -/
structure Ring (α : Type*) (n : ℕ) where
  slots : Vector α n
  next : Fin n

deriving instance DecidableEq for Ring

namespace Ring

/-- Overwrite the oldest slot. -/
def record (r : Ring α n) (a : α) : Ring α n where
  slots := r.slots.set r.next a
  next := r.next + 1

/-- Is `a` in one of the slots?  If not, record it. -/
def check [DecidableEq α] (r : Ring α n) (a : α) : Bool × Ring α n :=
  if a ∈ r.slots.toList then (true, r) else (false, r.record a)

/-- The ring after checking a list of values. -/
def checkAll [DecidableEq α] (r : Ring α n) (as : List α) : Ring α n :=
  as.foldl (fun r a => (r.check a).2) r

/-- The slots, newest first. -/
def view (r : Ring α n) : List α :=
  List.ofFn fun k : Fin n => r.slots[r.next - 1 - k]

/-- The view has every slot once. -/
@[simp] theorem length_view (r : Ring α n) : r.view.length = n := by
  simp [view]

/-- The view lists exactly the slots. -/
theorem mem_view {r : Ring α n} {a : α} : a ∈ r.view ↔ a ∈ r.slots := by
  rw [view, List.mem_ofFn, Vector.mem_iff_getElem]
  constructor
  · rintro ⟨k, hk⟩
    exact ⟨(r.next - 1 - k : Fin n), Fin.isLt _, hk⟩
  · rintro ⟨i, hi, h⟩
    refine ⟨r.next - 1 - ⟨i, hi⟩, ?_⟩
    simpa using h

/-- The position of a slot in the view. -/
def age (r : Ring α n) (i : Fin n) : Fin n := r.next - 1 - i

/-- No two slots have the same age. -/
theorem age_injective (r : Ring α n) : Function.Injective r.age := by
  intro i j h
  exact sub_right_injective h

/-- A slot holds what the view lists at its age. -/
theorem getElem?_view_age (r : Ring α n) (i : Fin n) :
    r.view[(r.age i : ℕ)]? = some r.slots[i] := by
  rw [List.getElem?_eq_getElem (by simp)]
  simp [view, age]

/-- The slot that is written next is the oldest. -/
theorem age_next (r : Ring α n) : (r.age r.next : ℕ) = n - 1 := by
  cases n with
  | zero => exact absurd rfl (NeZero.ne 0)
  | succ n =>
      rw [age, sub_right_comm, sub_self, zero_sub]
      exact Fin.coe_neg_one

/-- Recording pushes the entry in front and forgets the oldest one. -/
theorem view_record (r : Ring α n) (a : α) : (r.record a).view = (a :: r.view).take n := by
  refine List.ext_getElem (by simp) fun k hk _ => ?_
  have hkn : k < n := by simpa using hk
  rw [List.getElem_take]
  cases k with
  | zero => simp [view, record]
  | succ k =>
      have hne : ((r.next : Fin n) : ℕ) ≠ ((r.next - ⟨k + 1, hkn⟩ : Fin n) : ℕ) := by
        intro h
        have h0 : (⟨k + 1, hkn⟩ : Fin n) = 0 := sub_eq_self.mp (Fin.ext h).symm
        simp [Fin.ext_iff] at h0
      have hk1 : (⟨k + 1, hkn⟩ : Fin n) = 1 + ⟨k, by omega⟩ := by
        apply Fin.ext
        simp only [Fin.val_add, Fin.val_one']
        rw [Nat.mod_add_mod, Nat.add_comm 1 k, Nat.mod_eq_of_lt hkn]
      simp only [view, record, List.getElem_cons_succ, List.getElem_ofFn, Fin.getElem_fin,
        add_sub_cancel_right]
      rw [Vector.getElem_set_ne _ _ hne]
      congr 2
      rw [hk1, ← sub_sub]

/-- Recording one entry after another, the last of the list first. -/
def recordAll (r : Ring α n) (as : List α) : Ring α n :=
  as.foldr (fun a r => r.record a) r

/-- Recording nothing changes nothing. -/
@[simp] theorem recordAll_nil (r : Ring α n) : r.recordAll [] = r := rfl

/-- The head of the list is recorded last. -/
@[simp] theorem recordAll_cons (r : Ring α n) (a : α) (as : List α) :
    r.recordAll (a :: as) = (r.recordAll as).record a := rfl

/-- The ring holds the newest `n` of what was recorded, and behind it what it held before. -/
theorem view_recordAll (r : Ring α n) (as : List α) :
    (r.recordAll as).view = (as ++ r.view).take n := by
  induction as with
  | nil =>
      rw [recordAll_nil, List.nil_append, List.take_of_length_le]
      rw [length_view]
  | cons a as ih =>
      rw [recordAll_cons, view_record, ih, List.cons_append, List.take_cons (Nat.pos_of_neZero n),
        List.take_cons (Nat.pos_of_neZero n), List.take_take, Nat.min_eq_left (Nat.sub_le n 1)]

/-- In a ring full of `b`, any other value is found among the newest `n` recorded. -/
theorem mem_recordAll {r : Ring α n} {a b : α} (hblank : ∀ c ∈ r.slots, c = b) (hab : a ≠ b)
    (as : List α) : a ∈ (r.recordAll as).slots ↔ a ∈ as.take n := by
  rw [← mem_view, view_recordAll, List.take_append, List.mem_append]
  refine ⟨fun h => h.resolve_right fun hold => hab ?_, .inl⟩
  exact hblank a (mem_view.mp (List.mem_of_mem_take hold))

/-- In a ring full of `b`, the slot of age `k` holds the `k`-th newest entry recorded, or
still `b`. -/
theorem getElem_recordAll {r : Ring α n} {b : α} (hblank : ∀ c ∈ r.slots, c = b) (as : List α)
    (i : Fin n) :
    (r.recordAll as).slots[i] = (as[((r.recordAll as).age i : ℕ)]?).getD b := by
  have hslot := (r.recordAll as).getElem?_view_age i
  have hlt := ((r.recordAll as).age i).isLt
  revert hslot
  generalize (r.recordAll as).age i = k at hlt ⊢
  intro hslot
  rw [view_recordAll, List.getElem?_take_of_lt hlt] at hslot
  by_cases hk : (k : ℕ) < as.length
  · rw [List.getElem?_append_left hk] at hslot
    rw [hslot, Option.getD_some]
  · rw [List.getElem?_append_right (by omega)] at hslot
    rw [List.getElem?_eq_none (by omega), Option.getD_none]
    exact hblank _ (mem_view.mp (List.mem_of_getElem? hslot))

/-- The slot written next holds the oldest of the newest `n`. -/
theorem getElem_next {r r' : Ring α n} {b : α} (hblank : ∀ c ∈ r.slots, c = b) {as : List α}
    (h : r' = r.recordAll as) : r'.slots[r'.next] = (as[n - 1]?).getD b := by
  subst h
  rw [getElem_recordAll hblank, age_next]

/-- When no two of the newest `n` recorded are the same, no two slots hold the same entry,
apart from those that still hold `b`. -/
theorem recordAll_slots_inj {r : Ring α n} {b : α} (hblank : ∀ c ∈ r.slots, c = b)
    {as : List α} (hnodup : (as.take n).Nodup) {i j : Fin n}
    (h : (r.recordAll as).slots[i] = (r.recordAll as).slots[j])
    (hrecorded : (r.recordAll as).slots[i] ≠ b) : i = j := by
  have hi := getElem_recordAll hblank as i
  have hj := getElem_recordAll hblank as j
  apply age_injective (r.recordAll as)
  have hilt := ((r.recordAll as).age i).isLt
  have hjlt := ((r.recordAll as).age j).isLt
  revert hi hj
  generalize (r.recordAll as).age i = k at hilt ⊢
  generalize (r.recordAll as).age j = l at hjlt ⊢
  intro hi hj
  have hrecorded' := hrecorded
  rw [h, hj] at hrecorded'
  rw [h, hj] at hi
  have hl : (l : ℕ) < as.length := by
    by_contra hout
    apply hrecorded'
    rw [List.getElem?_eq_none (by omega), Option.getD_none]
  have hk : (k : ℕ) < as.length := by
    by_contra hout
    apply hrecorded'
    rw [hi, List.getElem?_eq_none (by omega), Option.getD_none]
  rw [List.getElem?_eq_getElem hl, List.getElem?_eq_getElem hk] at hi
  simp only [Option.getD_some] at hi
  have hpos : ((as.take n)[(k : ℕ)]?) = (as.take n)[(l : ℕ)]? := by
    rw [List.getElem?_take_of_lt hilt, List.getElem?_take_of_lt hjlt,
      List.getElem?_eq_getElem hl, List.getElem?_eq_getElem hk, hi]
  have hkt : (k : ℕ) < (as.take n).length := by
    rw [List.length_take]
    omega
  exact Fin.ext ((List.getElem?_inj hkt hnodup).mp hpos)

/-- What was recorded is there. -/
theorem mem_record_self (r : Ring α n) (a : α) : a ∈ (r.record a).slots := by
  rw [← mem_view, view_record, List.take_cons (Nat.pos_of_neZero n)]
  exact List.mem_cons_self

/-- A slot holds what it held before or the entry recorded. -/
theorem mem_of_mem_record {r : Ring α n} {a b : α} (h : b ∈ (r.record a).slots) :
    b ∈ r.slots ∨ b = a :=
  @Vector.mem_or_eq_of_mem_set α n r.slots r.next b a r.next.isLt h

/-- What is known of a ring some checks after `a` was recorded: `since` are the values
recorded in the meantime, newest first, and `a` lies just behind them. -/
structure Holds (r : Ring α n) (a : α) (since : List α) : Prop where
  prefix_view : ∃ older, r.view = (since ++ a :: older).take n
  nodup : since.Nodup
  notMem : a ∉ since

/-- As long as fewer than `n` values were recorded since, `a` is found. -/
theorem Holds.mem {r : Ring α n} {a : α} {since : List α} (h : r.Holds a since)
    (hlt : since.length < n) : a ∈ r.slots := by
  obtain ⟨older, hv⟩ := h.prefix_view
  rw [← mem_view, hv]
  refine List.mem_take_iff_getElem.mpr ⟨since.length, by simp; omega, by simp⟩

/-- Just after `a` was recorded nothing lies in front of it. -/
theorem holds_record (r : Ring α n) (a : α) : (r.record a).Holds a [] :=
  ⟨⟨r.view, by rw [view_record, List.nil_append]⟩, List.nodup_nil, List.not_mem_nil⟩

section Check

variable [DecidableEq α]

/-- The filter answers whether the value is in a slot. -/
theorem check_fst_iff {r : Ring α n} {a : α} : (r.check a).1 = true ↔ a ∈ r.slots := by
  rw [← Vector.mem_toList_iff]
  unfold check
  split <;> simp_all

/-- A known element is reported, and nothing is recorded. -/
theorem check_of_mem {r : Ring α n} {a : α} (h : a ∈ r.slots) : r.check a = (true, r) :=
  if_pos (Vector.mem_toList_iff.mpr h)

/-- A new element is recorded. -/
theorem check_of_notMem {r : Ring α n} {a : α} (h : a ∉ r.slots) :
    r.check a = (false, r.record a) :=
  if_neg (fun hl => h (Vector.mem_toList_iff.mp hl))

/-- A checked value is in a slot afterwards. -/
theorem mem_check_self (r : Ring α n) (a : α) : a ∈ (r.check a).2.slots := by
  by_cases h : a ∈ r.slots
  · rwa [check_of_mem h]
  · rw [check_of_notMem h]
    exact r.mem_record_self a

/-- A check adds the checked value at most. -/
theorem mem_of_mem_check {r : Ring α n} {a b : α} (h : b ∈ (r.check a).2.slots) :
    b ∈ r.slots ∨ b = a := by
  by_cases ha : a ∈ r.slots
  · rw [check_of_mem ha] at h
    exact .inl h
  · rw [check_of_notMem ha] at h
    exact mem_of_mem_record h

/-- Checking nothing changes nothing. -/
@[simp] theorem checkAll_nil (r : Ring α n) : r.checkAll [] = r := rfl

/-- The head of the list is checked first. -/
@[simp] theorem checkAll_cons (r : Ring α n) (a : α) (as : List α) :
    r.checkAll (a :: as) = (r.check a).2.checkAll as := rfl

/-- One check extends `since` by at most the checked value, which is neither `a` nor one of
the values recorded since. -/
theorem Holds.check {r : Ring α n} {a : α} {since : List α} (h : r.Holds a since)
    (hlt : since.length < n) (b : α) :
    ∃ since', (r.check b).2.Holds a since' ∧ (since' = since ∨ (since' = b :: since ∧ b ≠ a)) := by
  by_cases hb : b ∈ r.slots
  · rw [check_of_mem hb]
    exact ⟨since, h, .inl rfl⟩
  · obtain ⟨older, hv⟩ := h.prefix_view
    have hmem := h.mem hlt
    have hba : b ≠ a := fun e => hb (e ▸ hmem)
    have hbs : b ∉ since := by
      intro hbs
      apply hb
      rw [← mem_view, hv, List.take_append, List.take_of_length_le hlt.le]
      exact List.mem_append_left _ hbs
    rw [check_of_notMem hb]
    refine ⟨b :: since, ⟨⟨older, ?_⟩, List.nodup_cons.mpr ⟨hbs, h.nodup⟩, ?_⟩, .inr ⟨rfl, hba⟩⟩
    · rw [view_record, hv, List.cons_append, List.take_cons (Nat.pos_of_neZero n),
        List.take_cons (Nat.pos_of_neZero n), List.take_take, Nat.min_eq_left (Nat.sub_le n 1)]
    · simp [hba.symm, h.notMem]

/-- Values that all lie in a set of fewer than `n` elements cannot push `a` out. -/
theorem Holds.length_lt {r : Ring α n} {a : α} {since : List α} (h : r.Holds a since)
    {others : Finset α} (hs : ∀ b ∈ since, b ∈ others) (hcard : others.card < n) :
    since.length < n := by
  calc since.length = since.toFinset.card := (List.toFinset_card_of_nodup h.nodup).symm
    _ ≤ others.card := Finset.card_le_card fun b hb => hs b (List.mem_toFinset.mp hb)
    _ < n := hcard

/-- The checks of values that, `a` apart, all lie in a set of fewer than `n` elements. -/
theorem Holds.checkAll {r : Ring α n} {a : α} {since : List α} (h : r.Holds a since)
    {others : Finset α} (hs : ∀ b ∈ since, b ∈ others) (hcard : others.card < n)
    (as : List α) (has : ∀ b ∈ as, b ≠ a → b ∈ others) :
    ∃ since', (r.checkAll as).Holds a since' ∧ ∀ b ∈ since', b ∈ others := by
  induction as generalizing r since with
  | nil => exact ⟨since, h, hs⟩
  | cons b as ih =>
      obtain ⟨since', h', hsince'⟩ := h.check (h.length_lt hs hcard) b
      refine ih h' ?_ fun c hc => has c (List.mem_cons_of_mem _ hc)
      rcases hsince' with rfl | ⟨rfl, hba⟩
      · exact hs
      · intro c hc
        rcases List.mem_cons.mp hc with rfl | hc
        · exact has c List.mem_cons_self hba
        · exact hs c hc

/-- An entry is still found after checks of fewer than `n` other values. -/
theorem mem_checkAll_record (r : Ring α n) (a : α) (as : List α)
    (h : (as.toFinset.erase a).card < n) : a ∈ ((r.record a).checkAll as).slots := by
  obtain ⟨since, hh, hs⟩ := (holds_record r a).checkAll (by simp) h as
    (fun b hb hne => Finset.mem_erase.mpr ⟨hne, List.mem_toFinset.mpr hb⟩)
  exact hh.mem (hh.length_lt hs h)

/-- Two lists of checks in a row are their concatenation. -/
theorem checkAll_append (r : Ring α n) (as bs : List α) :
    r.checkAll (as ++ bs) = (r.checkAll as).checkAll bs :=
  List.foldl_append

/-- What a filter was asked, newest first, with its answers: `true` for a value it let
through. -/
inductive Log (r : Ring α n) : List (α × Bool) → Ring α n → Prop
  | start : Log r [] r
  | ask {l : List (α × Bool)} {r' : Ring α n} (a : α) (h : Log r l r') :
      Log r ((a, !(r'.check a).1) :: l) (r'.check a).2

/-- The later part of a log is a run of checks. -/
theorem Log.later {r r' : Ring α n} {later earlier : List (α × Bool)}
    (h : Log r (later ++ earlier) r') :
    ∃ r₁, Log r earlier r₁ ∧ r' = r₁.checkAll (later.map Prod.fst).reverse := by
  induction later generalizing r' with
  | nil => exact ⟨r', h, rfl⟩
  | cons e later ih =>
      cases h with
      | ask a h =>
          obtain ⟨r₁, hearlier, rfl⟩ := ih h
          refine ⟨r₁, hearlier, ?_⟩
          rw [List.map_cons, List.reverse_cons, checkAll_append]
          rfl

/-- A value that was let through was not in a slot, and was recorded. -/
theorem Log.passed {r r' : Ring α n} {a : α} {l : List (α × Bool)} (h : Log r ((a, true) :: l) r') :
    ∃ r₁, Log r l r₁ ∧ a ∉ r₁.slots ∧ r' = r₁.record a := by
  generalize he : (a, true) :: l = l' at h
  cases h with
  | start => cases he
  | @ask l r₁ b h =>
      obtain ⟨hhead, rfl⟩ := List.cons.inj he
      obtain ⟨rfl, hanswer⟩ := Prod.mk.inj hhead
      have hnot : a ∉ r₁.slots := by
        intro hmem
        rw [check_of_mem hmem] at hanswer
        cases hanswer
      rw [check_of_notMem hnot]
      exact ⟨r₁, h, hnot, rfl⟩

/-- **A value is let through twice only when at least `n` others were asked in between.** -/
theorem Log.between {r r' : Ring α n} {a : α} {later mid earlier : List (α × Bool)}
    (h : Log r (later ++ (a, true) :: (mid ++ (a, true) :: earlier)) r') :
    n ≤ ((mid.map Prod.fst).toFinset.erase a).card := by
  obtain ⟨r₁, h₁, -⟩ := h.later
  obtain ⟨r₂, h₂, hnot, -⟩ := h₁.passed
  obtain ⟨r₃, h₃, rfl⟩ := h₂.later
  obtain ⟨r₄, -, -, rfl⟩ := h₃.passed
  by_contra hfew
  apply hnot
  apply mem_checkAll_record
  rw [List.toFinset_reverse]
  omega

end Check

end Ring

end BoundedFifo
