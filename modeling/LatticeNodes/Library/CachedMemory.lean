import Mathlib.Logic.Function.Basic
import Mathlib.Data.List.Basic

/-!
# A cached memory with explicit commits

A memory of cells `ι → α` that is written through a volatile cache.  A write changes the
cache only; a commit copies the whole cache to the backing store, or copies nothing when
the medium fails; a power cycle reloads the cache from the backing store.

`Synced m` says that a power cycle loses nothing.  `Covers dirty m` is the contract of a
dirty flag kept beside the memory: as long as the flag is down, nothing can be lost.
`Within allowed m` bounds what the cells hold, whatever is pending.
-/

set_option autoImplicit false

namespace CachedMemory

variable {ι α : Type*}

/-- A cache over a backing store.  `faults` lists, for the commits still to come, which of
them the medium refuses; beyond the list every commit succeeds. -/
structure Memory (ι α : Type*) where
  cache : ι → α
  backing : ι → α
  faults : List Bool

namespace Memory

/-- A memory whose cache has just been loaded, on a medium that never fails. -/
def load (image : ι → α) : Memory ι α where
  cache := image
  backing := image
  faults := []

/-- Write one cell of the cache. -/
def write [DecidableEq ι] (m : Memory ι α) (i : ι) (v : α) : Memory ι α :=
  { m with cache := Function.update m.cache i v }

/-- Write cells of the cache one after another. -/
def writeAll [DecidableEq ι] (m : Memory ι α) (writes : List (ι × α)) : Memory ι α :=
  writes.foldl (fun m w => m.write w.1 w.2) m

/-- Commit the cache; the first of the listed faults decides whether anything is copied. -/
def commit (m : Memory ι α) : Memory ι α :=
  match m.faults with
  | [] => { m with backing := m.cache }
  | false :: faults => { m with backing := m.cache, faults := faults }
  | true :: faults => { m with faults := faults }

/-- Lose the cache and reload it from the backing store. -/
def powerCycle (m : Memory ι α) : Memory ι α :=
  { m with cache := m.backing }

/-- The cache holds nothing that the backing store does not. -/
def Synced (m : Memory ι α) : Prop :=
  m.cache = m.backing

/-- Every commit still to come succeeds. -/
def Reliable (m : Memory ι α) : Prop :=
  m.faults = []

/-! ## Writing -/

section Write

variable [DecidableEq ι] (m : Memory ι α)

/-- A write reaches the cache only; the medium keeps its image until a commit. -/
@[simp] theorem write_backing (i : ι) (v : α) : (m.write i v).backing = m.backing := rfl

/-- Writing uses up none of the answers the medium has in store. -/
@[simp] theorem write_faults (i : ι) (v : α) : (m.write i v).faults = m.faults := rfl

/-- The cell that is written holds the value. -/
@[simp] theorem write_cache_self (i : ι) (v : α) : (m.write i v).cache i = v := by
  simp [write]

/-- The other cells of the cache keep theirs. -/
@[simp] theorem write_cache_of_ne {i j : ι} (h : j ≠ i) (v : α) :
    (m.write i v).cache j = m.cache j := by
  simp [write, h]

/-- No writes change nothing. -/
@[simp] theorem writeAll_nil : m.writeAll [] = m := rfl

/-- Writes are done in the order of the list. -/
@[simp] theorem writeAll_cons (w : ι × α) (writes : List (ι × α)) :
    m.writeAll (w :: writes) = (m.write w.1 w.2).writeAll writes := rfl

/-- Two lists of writes in a row are their concatenation. -/
theorem writeAll_append (xs ys : List (ι × α)) :
    m.writeAll (xs ++ ys) = (m.writeAll xs).writeAll ys := by
  simp [writeAll]

/-- However much is written, the medium keeps its image until a commit. -/
@[simp] theorem writeAll_backing (writes : List (ι × α)) :
    (m.writeAll writes).backing = m.backing := by
  induction writes generalizing m with
  | nil => rfl
  | cons w writes ih => simp [ih]

/-- Writing uses up none of the answers the medium has in store. -/
@[simp] theorem writeAll_faults (writes : List (ι × α)) :
    (m.writeAll writes).faults = m.faults := by
  induction writes generalizing m with
  | nil => rfl
  | cons w writes ih => simp [ih]

/-- A cell that no write names keeps its value. -/
theorem writeAll_cache_of_notMem {j : ι} (writes : List (ι × α))
    (h : ∀ w ∈ writes, w.1 ≠ j) : (m.writeAll writes).cache j = m.cache j := by
  induction writes generalizing m with
  | nil => rfl
  | cons w writes ih =>
      have hw : j ≠ w.1 := fun e => h w (by simp) e.symm
      rw [writeAll_cons, ih _ (fun w' hw' => h w' (by simp [hw'])), write_cache_of_ne m hw]

/-- A cell holds what it held before or what one of the writes stores there. -/
theorem writeAll_cache_cases (j : ι) (writes : List (ι × α)) :
    (m.writeAll writes).cache j = m.cache j ∨
      ∃ w ∈ writes, w.1 = j ∧ (m.writeAll writes).cache j = w.2 := by
  induction writes generalizing m with
  | nil => exact .inl rfl
  | cons w writes ih =>
      rw [writeAll_cons]
      rcases ih (m.write w.1 w.2) with hkept | ⟨w', hw', hj, hvalue⟩
      · by_cases hw : w.1 = j
        · subst hw
          right
          exact ⟨w, List.mem_cons_self, rfl, hkept.trans (write_cache_self m w.1 w.2)⟩
        · left
          exact hkept.trans (write_cache_of_ne m (Ne.symm hw) w.2)
      · right
        exact ⟨w', List.mem_cons_of_mem _ hw', hj, hvalue⟩

/-- When all writes store the same value, a cell that one of them names holds it. -/
theorem writeAll_cache_const {j : ι} {v : α} {writes : List (ι × α)}
    (hvalue : ∀ w ∈ writes, w.2 = v) (hnamed : ∃ w ∈ writes, w.1 = j) :
    (m.writeAll writes).cache j = v := by
  induction writes generalizing m with
  | nil =>
      obtain ⟨w, hw, -⟩ := hnamed
      cases hw
  | cons w writes ih =>
      have htail : ∀ w' ∈ writes, w'.2 = v := fun w' hw' => hvalue w' (by simp [hw'])
      by_cases hlater : ∃ w' ∈ writes, w'.1 = j
      · exact ih _ htail hlater
      · have hrest : ∀ w' ∈ writes, w'.1 ≠ j := fun w' hw' heq => hlater ⟨w', hw', heq⟩
        obtain ⟨w', hw', hj⟩ := hnamed
        rcases List.mem_cons.mp hw' with rfl | hw'
        · rw [writeAll_cons, writeAll_cache_of_notMem _ writes hrest, ← hj, write_cache_self]
          exact hvalue w' List.mem_cons_self
        · exact absurd hj (hrest w' hw')

end Write

/-! ## Committing -/

section Commit

variable (m : Memory ι α)

/-- A commit, refused or not, leaves the cache alone. -/
@[simp] theorem commit_cache : m.commit.cache = m.cache := by
  unfold commit; split <;> rfl

/-- A medium without faults stays one through its commits. -/
theorem Reliable.commit {m : Memory ι α} (h : m.Reliable) : m.commit.Reliable := by
  have h' : m.faults = [] := h
  simp [Memory.commit, Reliable, h']

/-- On a reliable medium a commit stores the cache. -/
theorem Reliable.commit_backing {m : Memory ι α} (h : m.Reliable) :
    m.commit.backing = m.cache := by
  have h' : m.faults = [] := h
  simp [Memory.commit, h']

/-- A commit that succeeds leaves nothing to lose. -/
theorem Reliable.commit_synced {m : Memory ι α} (h : m.Reliable) : m.commit.Synced := by
  rw [Synced, commit_cache, h.commit_backing]

/-- Writing makes no medium fail. -/
theorem Reliable.writeAll [DecidableEq ι] {m : Memory ι α} (h : m.Reliable)
    (writes : List (ι × α)) : (m.writeAll writes).Reliable := by
  simpa [Reliable] using h

/-- A medium that is only read has no faults. -/
@[simp] theorem load_reliable (image : ι → α) : (load image).Reliable := rfl

end Commit

/-! ## Commits that are refused -/

/-- The medium refuses commit `n` of those still to come. -/
def Refuses (m : Memory ι α) (n : ℕ) : Prop :=
  m.faults[n]? = some true

instance (m : Memory ι α) (n : ℕ) : Decidable (m.Refuses n) :=
  inferInstanceAs (Decidable (m.faults[n]? = some true))

section Refused

variable {m : Memory ι α}

/-- Which commits are refused does not depend on what is written. -/
theorem refuses_writeAll [DecidableEq ι] (writes : List (ι × α)) {n : ℕ} :
    (m.writeAll writes).Refuses n ↔ m.Refuses n := by
  rw [Refuses, writeAll_faults, Refuses]

/-- Each commit takes one answer of the medium. -/
theorem refuses_commit {n : ℕ} : m.commit.Refuses n ↔ m.Refuses (n + 1) := by
  unfold Refuses commit
  split
  · next hnone => simp [hnone]
  · next hfirst => simp [hfirst]
  · next hfirst => simp [hfirst]

/-- A refused commit stores nothing. -/
theorem commit_backing_of_refuses (h : m.Refuses 0) : m.commit.backing = m.backing := by
  unfold Refuses at h
  unfold commit
  split
  · next hnone => simp [hnone] at h
  · next hfirst => simp [hfirst] at h
  · rfl

/-- A commit that is not refused stores the cache. -/
theorem commit_backing_of_not_refuses (h : ¬m.Refuses 0) : m.commit.backing = m.cache := by
  unfold Refuses at h
  unfold commit
  split
  · rfl
  · rfl
  · next hfirst => simp [hfirst] at h

/-- After a commit something is pending exactly when it was refused with something pending. -/
theorem commit_synced_iff : m.commit.Synced ↔ (m.Refuses 0 → m.Synced) := by
  rw [Synced, commit_cache]
  by_cases hrefused : m.Refuses 0
  · rw [commit_backing_of_refuses hrefused]
    simp [hrefused, Synced]
  · rw [commit_backing_of_not_refuses hrefused]
    simp [hrefused]

end Refused

/-! ## What the cells may hold -/

/-- Every cell holds an allowed value, in the cache and in the backing store. -/
structure Within (allowed : ι → α → Prop) (m : Memory ι α) : Prop where
  cache : ∀ i, allowed i (m.cache i)
  backing : ∀ i, allowed i (m.backing i)

section Within

variable {allowed allowed' : ι → α → Prop} {m : Memory ι α}

/-- A bound on the cells may be relaxed. -/
theorem Within.mono (h : m.Within allowed) (hle : ∀ i v, allowed i v → allowed' i v) :
    m.Within allowed' :=
  ⟨fun i => hle i _ (h.cache i), fun i => hle i _ (h.backing i)⟩

/-- Writes of allowed values keep both images within the bound. -/
theorem Within.writeAll [DecidableEq ι] (h : m.Within allowed) {writes : List (ι × α)}
    (hw : ∀ w ∈ writes, allowed w.1 w.2) : (m.writeAll writes).Within allowed := by
  refine ⟨fun i => ?_, fun i => ?_⟩
  · rcases m.writeAll_cache_cases i writes with hkept | ⟨w, hmem, rfl, hvalue⟩
    · rw [hkept]
      exact h.cache i
    · rw [hvalue]
      exact hw w hmem
  · rw [writeAll_backing]
    exact h.backing i

/-- A commit, refused or not, puts nothing into the backing store but what the cache holds. -/
theorem Within.commit (h : m.Within allowed) : m.commit.Within allowed := by
  refine ⟨fun i => ?_, fun i => ?_⟩
  · rw [commit_cache]
    exact h.cache i
  · by_cases hrefused : m.Refuses 0
    · rw [commit_backing_of_refuses hrefused]
      exact h.backing i
    · rw [commit_backing_of_not_refuses hrefused]
      exact h.cache i

/-- After a power cycle both images are the medium's, which was within the bound. -/
theorem Within.powerCycle (h : m.Within allowed) : m.powerCycle.Within allowed :=
  ⟨h.backing, h.backing⟩

end Within

/-! ## Dirty flags -/

/-- The contract of a dirty flag: while it is down the memory is synced. -/
def Covers (dirty : Bool) (m : Memory ι α) : Prop :=
  dirty = false → m.Synced

/-- A raised flag covers anything. -/
theorem covers_true (m : Memory ι α) : Covers true m := by
  simp [Covers]

/-- Where cache and medium agree, any flag covers them. -/
theorem Synced.covers {m : Memory ι α} (h : m.Synced) (dirty : Bool) : Covers dirty m :=
  fun _ => h

/-- A lowered flag promises that cache and medium agree. -/
theorem covers_false_iff {m : Memory ι α} : Covers false m ↔ m.Synced :=
  ⟨fun h => h rfl, fun h => h.covers false⟩

end Memory

end CachedMemory
