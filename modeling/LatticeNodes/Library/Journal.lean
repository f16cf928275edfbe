import LatticeNodes.Library.CachedMemory

/-!
# What a cached memory shows, change by change

A `Journal` tells the contents of a cached memory by the changes made to it: the backing store
shows the `durable` changes, the cache the `pending` ones on top of them.  A commit that the
medium accepts makes the pending changes durable, a power cycle forgets them.

`Shows` is the refinement between the two: each operation on the memory is one on the journal.
Whatever happens, the durable changes stay, in their order (`durable_isPrefix`).
-/

set_option autoImplicit false

/-- The changes that a power cycle keeps, and those that wait for a commit. -/
structure Journal (ω : Type*) where
  durable : List ω
  pending : List ω

namespace Journal

open CachedMemory

variable {ω ι α σ : Type*}

def empty : Journal ω := ⟨[], []⟩

/-- All changes in their order. -/
def entries (j : Journal ω) : List ω := j.durable ++ j.pending

def append (j : Journal ω) (w : ω) : Journal ω := { j with pending := j.pending ++ [w] }

/-- A commit that the medium may refuse. -/
def commit (j : Journal ω) : (refused : Bool) → Journal ω
  | true => j
  | false => ⟨j.entries, []⟩

def powerCycle (j : Journal ω) : Journal ω := { j with pending := [] }

/-- What the changes make of the start. -/
def replay (perform : ω → σ → σ) (start : σ) (changes : List ω) : σ :=
  changes.foldl (fun x w => perform w x) start

/-- Changes are made one list after the other. -/
theorem replay_append (perform : ω → σ → σ) (start : σ) (xs ys : List ω) :
    replay perform start (xs ++ ys) = replay perform (replay perform start xs) ys :=
  List.foldl_append ..

/-- The last change is made last. -/
theorem replay_concat (perform : ω → σ → σ) (start : σ) (xs : List ω) (w : ω) :
    replay perform start (xs ++ [w]) = perform w (replay perform start xs) :=
  replay_append perform start xs [w]

/-! ## Durability -/

section Durable

variable (j : Journal ω)

/-- A change is noted behind the others. -/
@[simp] theorem append_entries (w : ω) : (j.append w).entries = j.entries ++ [w] :=
  (List.append_assoc ..).symm

/-- A power loss leaves the durable changes. -/
@[simp] theorem powerCycle_entries : j.powerCycle.entries = j.durable :=
  List.append_nil _

/-- A commit, refused or not, drops no change. -/
@[simp] theorem commit_entries (refused : Bool) : (j.commit refused).entries = j.entries := by
  cases refused with
  | true => rfl
  | false => exact List.append_nil _

/-- **A commit forgets nothing.** -/
theorem durable_isPrefix_commit (refused : Bool) :
    j.durable <+: (j.commit refused).durable := by
  cases refused with
  | true => exact List.prefix_rfl
  | false => exact List.prefix_append j.durable j.pending

end Durable

/-! ## The memory -/

/-- The cache and the backing store, seen through `view`, are what the journal says. -/
structure Shows (perform : ω → σ → σ) (view : (ι → α) → σ) (start : σ) (m : Memory ι α)
    (j : Journal ω) : Prop where
  cache : view m.cache = replay perform start j.entries
  backing : view m.backing = replay perform start j.durable

section Shows

variable {perform : ω → σ → σ} {view : (ι → α) → σ} {start : σ} {m m' : Memory ι α} {j : Journal ω}

/-- A synced memory shows the start. -/
theorem shows_empty (hsynced : m.Synced) (hview : view m.backing = start) :
    Shows perform view start m empty := by
  refine ⟨?_, hview⟩
  rw [hsynced]
  exact hview

/-- A change of the cache. -/
theorem Shows.append (h : Shows perform view start m j) {w : ω}
    (hcache : view m'.cache = perform w (view m.cache)) (hbacking : m'.backing = m.backing) :
    Shows perform view start m' (j.append w) := by
  refine ⟨?_, ?_⟩
  · rw [append_entries, replay_concat, hcache, h.cache]
  · rw [hbacking]
    exact h.backing

/-- Writes that the view does not look at. -/
theorem Shows.of_view (h : Shows perform view start m j) (hcache : view m'.cache = view m.cache)
    (hbacking : m'.backing = m.backing) : Shows perform view start m' j := by
  refine ⟨hcache.trans h.cache, ?_⟩
  rw [hbacking]
  exact h.backing

/-- **A commit of the memory is one of the journal**, accepted or refused. -/
theorem Shows.commit (h : Shows perform view start m j) :
    Shows perform view start m.commit (j.commit (decide (m.Refuses 0))) := by
  by_cases hrefused : m.Refuses 0
  · refine ⟨?_, ?_⟩
    · rw [Memory.commit_cache, commit_entries]
      exact h.cache
    · rw [Memory.commit_backing_of_refuses hrefused, decide_eq_true hrefused]
      exact h.backing
  · refine ⟨?_, ?_⟩
    · rw [Memory.commit_cache, commit_entries]
      exact h.cache
    · rw [Memory.commit_backing_of_not_refuses hrefused, decide_eq_false hrefused]
      exact h.cache

/-- **A power cycle keeps exactly the durable changes.** -/
theorem Shows.powerCycle (h : Shows perform view start m j) :
    Shows perform view start m.powerCycle j.powerCycle := by
  refine ⟨?_, h.backing⟩
  rw [powerCycle_entries]
  exact h.backing

end Shows

end Journal
