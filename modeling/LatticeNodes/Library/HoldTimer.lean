import Mathlib.Data.List.Basic
import Mathlib.Data.List.TakeWhile

/-!
# A key that reports when it is held

A detector looks at a key now and then.  The first look at a press starts a hold, and a look at
least `d` ticks later reports it; the look after that starts the next hold.  `count_eq` takes the
reports of a press apart hold by hold, so that a press is reported exactly once when it spans one
hold and the looks behind it do not span another (`count_eq_one_iff`).
-/

set_option autoImplicit false

namespace HoldTimer

variable (d : ℕ)

/-- Where the hold began, after a look at the pressed key. -/
def sample (held : Option ℕ) (t : ℕ) : Option ℕ :=
  match held with
  | none => some t
  | some start => if t - start < d then some start else none

/-- The look reports a hold. -/
def fires (held : Option ℕ) (t : ℕ) : Bool :=
  match held with
  | none => false
  | some start => decide (d ≤ t - start)

/-- The reports of the looks at one press. -/
def count (held : Option ℕ) : List ℕ → ℕ
  | [] => 0
  | t :: ts => (if fires d held t then 1 else 0) + count (sample d held t) ts

/-- The time from the first look to the last. -/
def span (ts : List ℕ) : ℕ :=
  ts.getLast?.getD 0 - ts.head?.getD 0

/-- The looks behind the first complete hold. -/
def rest : List ℕ → List ℕ
  | [] => []
  | t :: ts => (ts.dropWhile fun u => decide (u - t < d)).tail

variable {d} {ts : List ℕ}

/-- The looks of an ordered list are between its ends. -/
theorem between_of_mem {t u : ℕ} (h : (t :: ts).Pairwise (· ≤ ·)) (hu : u ∈ t :: ts) :
    t ≤ u ∧ u ≤ (t :: ts).getLast (List.cons_ne_nil t ts) := by
  constructor
  · rcases List.mem_cons.mp hu with rfl | hu
    · exact Nat.le_refl _
    · exact List.rel_of_pairwise_cons h hu
  · induction ts generalizing t u with
    | nil =>
        rw [List.mem_singleton.mp hu]
        exact Nat.le_refl _
    | cons t' ts ih =>
        rw [List.getLast_cons (List.cons_ne_nil t' ts)]
        have htail := (List.pairwise_cons.mp h).2
        rcases List.mem_cons.mp hu with rfl | hu
        · have hfirst := List.rel_of_pairwise_cons h (List.mem_cons_self (a := t') (l := ts))
          exact hfirst.trans (ih htail List.mem_cons_self)
        · exact ih htail hu

/-- The span reaches from the first reading to the last. -/
theorem span_cons (t : ℕ) (ts : List ℕ) :
    span (t :: ts) = (t :: ts).getLast (List.cons_ne_nil t ts) - t := by
  rw [span, List.getLast?_eq_some_getLast (List.cons_ne_nil t ts)]
  rfl

/-- Fewer looks span no more. -/
theorem span_le_of_sublist {us : List ℕ} (hsub : us.Sublist ts) (h : ts.Pairwise (· ≤ ·)) :
    span us ≤ span ts := by
  cases us with
  | nil => exact Nat.zero_le _
  | cons u us =>
      cases ts with
      | nil => cases hsub
      | cons t ts =>
          have hfirst := between_of_mem h (hsub.subset List.mem_cons_self)
          have hlast := between_of_mem h
            (hsub.subset (List.getLast_mem (List.cons_ne_nil u us)))
          rw [span_cons, span_cons]
          omega

/-- Nothing is reported before a look comes `d` ticks behind the start of the hold; what comes
after that look counts from the beginning. -/
theorem count_some (start : ℕ) (ts : List ℕ) :
    count d (some start) ts =
      match ts.dropWhile fun u => decide (u - start < d) with
      | [] => 0
      | _ :: later => 1 + count d none later := by
  induction ts with
  | nil => rfl
  | cons t ts ih =>
      by_cases hearly : t - start < d
      · have hfires : fires d (some start) t = false := by
          rw [fires, decide_eq_false_iff_not]
          omega
        rw [count, hfires, sample, if_pos hearly,
          List.dropWhile_cons_of_pos (by simpa using hearly), ih]
        simp
      · have hfires : fires d (some start) t = true := by
          rw [fires, decide_eq_true_eq]
          omega
        rw [count, hfires, sample, if_neg hearly,
          List.dropWhile_cons_of_neg (by simpa using hearly)]
        rfl

/-- The span is short exactly when no reading is that far from the first. -/
theorem span_lt_iff {t : ℕ} (h : (t :: ts).Pairwise (· ≤ ·)) (hd : 0 < d) :
    span (t :: ts) < d ↔ ts.dropWhile (fun u => decide (u - t < d)) = [] := by
  rw [span_cons, List.dropWhile_eq_nil_iff]
  constructor
  · intro hspan u hu
    have hbetween := between_of_mem h (List.mem_cons_of_mem t hu)
    rw [decide_eq_true_eq]
    omega
  · intro hall
    rcases List.mem_cons.mp (List.getLast_mem (List.cons_ne_nil t ts)) with heq | hmem
    · rw [heq, Nat.sub_self]
      exact hd
    · have hlast := hall _ hmem
      rw [decide_eq_true_eq] at hlast
      exact hlast

/-- **The reports of a press are one for its first hold, and those of what is left.** -/
theorem count_eq (h : ts.Pairwise (· ≤ ·)) (hd : 0 < d) :
    count d none ts = if span ts < d then 0 else 1 + count d none (rest d ts) := by
  cases ts with
  | nil => exact (if_pos hd).symm
  | cons t ts =>
      have hfirst : count d none (t :: ts) = count d (some t) ts := by
        rw [count, fires, sample]
        simp
      rw [hfirst, count_some]
      by_cases hspan : span (t :: ts) < d
      · rw [if_pos hspan, (span_lt_iff h hd).mp hspan]
      · rw [if_neg hspan, rest]
        cases hlater : ts.dropWhile fun u => decide (u - t < d) with
        | nil => exact absurd ((span_lt_iff h hd).mpr hlater) hspan
        | cons u later => rfl

/-- What is left after a firing are some of the readings. -/
theorem rest_sublist (ts : List ℕ) : (rest d ts).Sublist ts := by
  cases ts with
  | nil => exact List.Sublist.refl _
  | cons t ts =>
      exact ((List.tail_sublist _).trans (List.dropWhile_sublist _)).trans
        (List.sublist_cons_self t ts)

/-- A press never fires exactly when it is too short. -/
theorem count_eq_zero_iff (h : ts.Pairwise (· ≤ ·)) (hd : 0 < d) :
    count d none ts = 0 ↔ span ts < d := by
  rw [count_eq h hd]
  split
  · next hspan => exact iff_of_true rfl hspan
  · next hspan => exact iff_of_false (by omega) hspan

/-- **One report: the press spans a hold, and the looks behind that hold span no other.** -/
theorem count_eq_one_iff (h : ts.Pairwise (· ≤ ·)) (hd : 0 < d) :
    count d none ts = 1 ↔ d ≤ span ts ∧ span (rest d ts) < d := by
  rw [count_eq h hd]
  split
  · next hspan => exact iff_of_false (by omega) fun hboth => absurd hspan (Nat.not_lt.mpr hboth.1)
  · next hspan =>
    rw [← count_eq_zero_iff (h.sublist (rest_sublist ts)) hd]
    omega

end HoldTimer
