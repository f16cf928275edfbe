import Mathlib.Data.List.Nodup
import LatticeNodes.Library.CachedMemory

/-!
# A store of independent fields in one address space

Cells `ℕ → α`, and a sequence of writes, of which the last one that names a cell decides
(`lastWrite`, `overwrite`).  A `Field` is an interval of cells with a way to read a value from
them.  A `FieldStore` is a family of fields on disjoint intervals with calls that each write
inside one of them: it refines a store that keeps one value for each field (`view_run`), and a
call leaves every cell outside its field alone (`overwrite_of_outside`).
-/

set_option autoImplicit false

namespace FieldStore

open CachedMemory

/-! ## Writes -/

section Writes

variable {ι α : Type*} [DecidableEq ι]

/-- The value of the last write to a cell. -/
def lastWrite : List (ι × α) → ι → Option α
  | [], _ => none
  | w :: writes, i => (lastWrite writes i).or (if w.1 = i then some w.2 else none)

/-- The cells after the writes. -/
def overwrite (image : ι → α) (writes : List (ι × α)) : ι → α :=
  fun i => (lastWrite writes i).getD (image i)

/-- Of two lists of writes the later one decides. -/
theorem lastWrite_append (xs ys : List (ι × α)) (i : ι) :
    lastWrite (xs ++ ys) i = (lastWrite ys i).or (lastWrite xs i) := by
  induction xs with
  | nil => simp [lastWrite]
  | cons w xs ih => simp [lastWrite, ih, Option.or_assoc]

/-- A cell that no write names has no last write. -/
theorem lastWrite_of_notMem {writes : List (ι × α)} {i : ι} (h : ∀ w ∈ writes, w.1 ≠ i) :
    lastWrite writes i = none := by
  induction writes with
  | nil => rfl
  | cons w writes ih =>
      have hfirst : ¬w.1 = i := h w (by simp)
      have hrest := ih fun w' hw' => h w' (by simp [hw'])
      simp [lastWrite, hrest, hfirst]

/-- When the writes to a cell agree, the last one stores what they all store. -/
theorem lastWrite_of_forall {writes : List (ι × α)} {i : ι} {v : α}
    (hagree : ∀ w ∈ writes, w.1 = i → w.2 = v) (hnamed : ∃ w ∈ writes, w.1 = i) :
    lastWrite writes i = some v := by
  induction writes with
  | nil => simp at hnamed
  | cons w writes ih =>
      have hrest : ∀ w' ∈ writes, w'.1 = i → w'.2 = v := fun w' hw' => hagree w' (by simp [hw'])
      by_cases hlater : ∃ w' ∈ writes, w'.1 = i
      · simp [lastWrite, ih hrest hlater]
      · have hnone : lastWrite writes i = none :=
          lastWrite_of_notMem fun w' hw' heq => hlater ⟨w', hw', heq⟩
        have hfirst : w.1 = i := by
          obtain ⟨w', hw', heq⟩ := hnamed
          rcases List.mem_cons.mp hw' with rfl | hw'
          · exact heq
          · exact absurd ⟨w', hw', heq⟩ hlater
        have hvalue := hagree w (by simp) hfirst
        simp [lastWrite, hnone, hfirst, hvalue]

/-- Where no cell is written twice, each holds the value of its write. -/
theorem lastWrite_of_nodup {writes : List (ι × α)} (h : (writes.map (·.1)).Nodup) {i : ι} {v : α}
    (hw : (i, v) ∈ writes) : lastWrite writes i = some v := by
  apply lastWrite_of_forall
  · intro w hmem hi
    rw [List.inj_on_of_nodup_map h hmem hw hi]
  · exact ⟨(i, v), hw, rfl⟩

/-- A cell that no write names keeps its value. -/
theorem overwrite_of_notMem (image : ι → α) {writes : List (ι × α)} {i : ι}
    (h : ∀ w ∈ writes, w.1 ≠ i) : overwrite image writes i = image i := by
  simp [overwrite, lastWrite_of_notMem h]

/-- Two lists of writes in a row are their concatenation. -/
theorem overwrite_append (image : ι → α) (xs ys : List (ι × α)) :
    overwrite image (xs ++ ys) = overwrite (overwrite image xs) ys := by
  funext i
  simp only [overwrite, lastWrite_append]
  cases lastWrite ys i <;> rfl

/-- A single write is an update. -/
theorem overwrite_singleton (image : ι → α) (i : ι) (v : α) :
    overwrite image [(i, v)] = Function.update image i v := by
  funext j
  by_cases hj : i = j
  · subst hj
    simp [overwrite, lastWrite]
  · simp [overwrite, lastWrite, hj, Function.update_of_ne (Ne.symm hj)]

/-- Writes whose values are a function of their cells, in any order and with repetitions. -/
theorem overwrite_of_values (image f : ι → α) {writes : List (ι × α)} {i : ι}
    (hvalues : ∀ w ∈ writes, w.2 = f w.1) (hnamed : ∃ w ∈ writes, w.1 = i) :
    overwrite image writes i = f i := by
  have hlast : lastWrite writes i = some (f i) := by
    apply lastWrite_of_forall
    · intro w hw hi
      rw [hvalues w hw, hi]
    · exact hnamed
  rw [overwrite, hlast]
  rfl

/-- **The cache after writes.** -/
theorem writeAll_cache (m : Memory ι α) (writes : List (ι × α)) :
    (m.writeAll writes).cache = overwrite m.cache writes := by
  induction writes generalizing m with
  | nil => rfl
  | cons w writes ih =>
      funext i
      rw [Memory.writeAll_cons, ih]
      show (lastWrite writes i).getD (Function.update m.cache w.1 w.2 i) =
        ((lastWrite writes i).or (if w.1 = i then some w.2 else none)).getD (m.cache i)
      cases lastWrite writes i with
      | some v => rfl
      | none =>
          by_cases hi : w.1 = i
          · subst hi
            simp
          · simp [hi, Function.update_of_ne (Ne.symm hi)]

end Writes

/-! ## Consecutive cells -/

section Consecutive

variable {α : Type*}

/-- Writes to the cells from an address on. -/
def consecutive (address : ℕ) (values : List α) : List (ℕ × α) :=
  values.mapIdx fun i v => (address + i, v)

/-- A list of values is stored from its address on. -/
theorem consecutive_cons (address : ℕ) (v : α) (values : List α) :
    consecutive address (v :: values) = (address, v) :: consecutive (address + 1) values := by
  simp [consecutive, Nat.add_assoc, Nat.add_comm 1]

/-- Each cell of the range gets the value at its distance from the address. -/
theorem lastWrite_consecutive (address i : ℕ) (values : List α) :
    lastWrite (consecutive address values) i =
      if address ≤ i then values[i - address]? else none := by
  induction values generalizing address with
  | nil => simp [consecutive, lastWrite]
  | cons v values ih =>
      rw [consecutive_cons, lastWrite, ih]
      by_cases hfirst : address = i
      · subst hfirst
        have hnext : ¬address + 1 ≤ address := by omega
        simp [hnext]
      · by_cases hle : address ≤ i
        · have hnext : address + 1 ≤ i := by omega
          have hindex : i - address = i - (address + 1) + 1 := by omega
          simp [hfirst, hle, hnext, hindex]
        · have hnext : ¬address + 1 ≤ i := by omega
          simp [hfirst, hle, hnext]

/-- A cell that was written is read back. -/
theorem overwrite_consecutive (image : ℕ → α) (address : ℕ) {values : List α} {i : ℕ}
    (hi : i < values.length) :
    overwrite image (consecutive address values) (address + i) = values[i] := by
  simp [overwrite, lastWrite_consecutive, hi]

/-- A run of cells with one value. -/
theorem overwrite_replicate (image : ℕ → α) (address n : ℕ) (v : α) (i : ℕ) :
    overwrite image (consecutive address (List.replicate n v)) i =
      if address ≤ i ∧ i < address + n then v else image i := by
  rw [overwrite, lastWrite_consecutive, List.getElem?_replicate]
  by_cases hlo : address ≤ i
  · by_cases hhi : i < address + n
    · have hindex : i - address < n := by omega
      simp [hlo, hhi, hindex]
    · have hindex : ¬i - address < n := by omega
      simp [hlo, hhi, hindex]
  · simp [hlo]

/-- Consecutive cells as an array. -/
def readVector (image : ℕ → α) (address n : ℕ) : Vector α n :=
  Vector.ofFn fun i => image (address + i)

/-- **An array that was written is read back.** -/
theorem readVector_overwrite (image : ℕ → α) (address : ℕ) {n : ℕ} (values : Vector α n) :
    readVector (overwrite image (consecutive address values.toList)) address n = values := by
  apply Vector.ext
  intro i hi
  have hlength : i < values.toList.length := by simpa using hi
  simp [readVector, overwrite_consecutive image address hlength]

/-- A vector is read from its own cells only. -/
theorem readVector_congr {image image' : ℕ → α} {address n : ℕ}
    (h : ∀ i, address ≤ i → i < address + n → image i = image' i) :
    readVector image address n = readVector image' address n := by
  apply Vector.ext
  intro i hi
  simpa [readVector] using h (address + i) (by omega) (by omega)

/-- The same cells at another address. -/
theorem readVector_moved {image image' : ℕ → α} {address address' n : ℕ}
    (h : ∀ i < n, image' (address' + i) = image (address + i)) :
    readVector image' address' n = readVector image address n := by
  apply Vector.ext
  intro i hi
  simpa [readVector] using h i hi

end Consecutive

/-! ## Fields -/

/-- A value read from an interval of cells. -/
structure Field (α β : Type*) where
  address : ℕ
  size : ℕ
  read : (ℕ → α) → β
  /-- Nothing else is looked at. -/
  read_congr : ∀ {image image'}, (∀ i, address ≤ i → i < address + size → image i = image' i) →
    read image = read image'

def Field.Owns {α β : Type*} (f : Field α β) (i : ℕ) : Prop :=
  f.address ≤ i ∧ i < f.address + f.size

/-- A field of one cell. -/
def Field.ofCell {α β : Type*} (address : ℕ) (decode : α → β) : Field α β where
  address := address
  size := 1
  read := fun image => decode (image address)
  read_congr := by
    intro image image' h
    show decode (image address) = decode (image' address)
    rw [h address (by omega) (by omega)]

/-- A field of consecutive cells. -/
def Field.ofVector {α β : Type*} (address n : ℕ) (decode : Vector α n → β) : Field α β where
  address := address
  size := n
  read := fun image => decode (readVector image address n)
  read_congr := by
    intro image image' h
    show decode (readVector image address n) = decode (readVector image' address n)
    rw [readVector_congr h]

/-- A field of one cell reads what was stored there. -/
theorem Field.read_ofCell {α β : Type*} (address : ℕ) (decode : α → β) (image : ℕ → α) (v : α) :
    (Field.ofCell address decode).read (overwrite image [(address, v)]) = decode v := by
  show decode (overwrite image [(address, v)] address) = decode v
  simp [overwrite, lastWrite]

/-- A field of many cells reads the vector that was stored there. -/
theorem Field.read_ofVector {α β : Type*} (address : ℕ) {n : ℕ} (decode : Vector α n → β)
    (image : ℕ → α) (values : Vector α n) :
    (Field.ofVector address n decode).read (overwrite image (consecutive address values.toList)) =
      decode values := by
  show decode (readVector _ address n) = decode values
  rw [readVector_overwrite]

/-- Fields on disjoint intervals, and calls that each write inside one of them: `result c` is the
field a call sets and what is read from it afterwards, or `none` when the call does nothing. -/
structure Store (κ α : Type*) (β : κ → Type*) (Call : Type*) where
  field : (k : κ) → Field α (β k)
  writes : Call → List (ℕ × α)
  result : Call → Option (Σ k, β k)
  disjoint : ∀ {j k}, j ≠ k → ∀ i, (field j).Owns i → ¬(field k).Owns i
  inside : ∀ {c w}, w ∈ writes c → ∃ r, result c = some r ∧ (field r.1).Owns w.1
  lands : ∀ {c r} (image : ℕ → α), result c = some r →
    (field r.1).read (overwrite image (writes c)) = r.2

namespace Store

variable {κ α : Type*} {β : κ → Type*} {Call : Type*} (S : Store κ α β Call)

/-- The value of every field. -/
def view (image : ℕ → α) : (k : κ) → β k := fun k => (S.field k).read image

/-- The cells after a sequence of calls. -/
def run (image : ℕ → α) (calls : List Call) : ℕ → α :=
  calls.foldl (fun image c => overwrite image (S.writes c)) image

/-- The call does not set the field. -/
def Spares (c : Call) (k : κ) : Prop := ∀ r, S.result c = some r → r.1 ≠ k

/-- **A call changes no cell outside its field.** -/
theorem overwrite_of_outside (image : ℕ → α) {c : Call} {i : ℕ}
    (h : ∀ r, S.result c = some r → ¬(S.field r.1).Owns i) :
    overwrite image (S.writes c) i = image i := by
  apply overwrite_of_notMem
  intro w hw heq
  obtain ⟨r, hresult, howns⟩ := S.inside hw
  apply h r hresult
  rw [← heq]
  exact howns

/-- **A call keeps the fields it does not set.** -/
theorem view_overwrite_of_spares (image : ℕ → α) {c : Call} {k : κ} (h : S.Spares c k) :
    S.view (overwrite image (S.writes c)) k = S.view image k := by
  apply (S.field k).read_congr
  intro i hlo hhi
  apply S.overwrite_of_outside
  intro r hresult howns
  exact S.disjoint (h r hresult) i howns ⟨hlo, hhi⟩

/-- The store that keeps one value for each field. -/
def assign [DecidableEq κ] (values : (k : κ) → β k) (c : Call) : (k : κ) → β k :=
  match S.result c with
  | none => values
  | some r => Function.update values r.1 r.2

/-- **A call on the cells is an assignment.** -/
theorem view_overwrite [DecidableEq κ] (image : ℕ → α) (c : Call) :
    S.view (overwrite image (S.writes c)) = S.assign (S.view image) c := by
  funext k
  unfold assign
  cases hresult : S.result c with
  | none =>
      apply S.view_overwrite_of_spares
      intro r hr
      rw [hresult] at hr
      cases hr
  | some r =>
      show S.view _ k = Function.update (S.view image) r.1 r.2 k
      by_cases hk : r.1 = k
      · subst hk
        rw [Function.update_self]
        exact S.lands image hresult
      · rw [Function.update_of_ne (Ne.symm hk)]
        apply S.view_overwrite_of_spares
        intro r' hr
        rw [hresult] at hr
        cases hr
        exact hk

/-- **The cells refine the store of values.** -/
theorem view_run [DecidableEq κ] (image : ℕ → α) (calls : List Call) :
    S.view (S.run image calls) = calls.foldl S.assign (S.view image) := by
  induction calls generalizing image with
  | nil => rfl
  | cons c calls ih =>
      show S.view (S.run (overwrite image (S.writes c)) calls) =
        calls.foldl S.assign (S.assign (S.view image) c)
      rw [ih, view_overwrite]

/-- **A field that no call sets is as it was.** -/
theorem view_run_of_spares (image : ℕ → α) {k : κ} {calls : List Call}
    (h : ∀ c ∈ calls, S.Spares c k) : S.view (S.run image calls) k = S.view image k := by
  induction calls generalizing image with
  | nil => rfl
  | cons c calls ih =>
      have hrest := ih (overwrite image (S.writes c)) fun c' hc' => h c' (by simp [hc'])
      exact hrest.trans (S.view_overwrite_of_spares image (h c (by simp)))

/-- **A field holds what the last call on it left.** -/
theorem view_run_of_last (image : ℕ → α) {r : Σ k, β k} {c : Call} (before : List Call)
    {after : List Call} (hresult : S.result c = some r) (hlast : ∀ c ∈ after, S.Spares c r.1) :
    S.view (S.run image (before ++ c :: after)) r.1 = r.2 := by
  have hrun : S.run image (before ++ c :: after) =
      S.run (overwrite (S.run image before) (S.writes c)) after := by
    rw [run, List.foldl_append, List.foldl_cons]
    rfl
  rw [hrun, S.view_run_of_spares _ hlast]
  exact S.lands _ hresult

end Store

end FieldStore
