import Mathlib.Data.List.GetD
import Mathlib.Tactic.Ring
import LatticeNodes.Library.FieldStore

/-!
# Byte memory

Memory as a byte for each address, written and read in runs of bytes: what a write leaves alone
(`write_of_outside`, `read_write_of_disjoint`), what it stores (`read_write`), and numbers in
little endian order (`wordOf_littleEndian`).

A record in memory is a list of cells, each an address and the bytes that stand there
(`Contains`).  When the cells are disjoint, a write to one of them replaces its bytes and keeps
the others (`Contains.write`).
-/

set_option autoImplicit false

namespace ByteMemory

open FieldStore

abbrev Mem := ℕ → UInt8

/-- Store bytes from an address on. -/
def write (m : Mem) (address : ℕ) (bytes : List UInt8) : Mem :=
  overwrite m (consecutive address bytes)

/-- The bytes from an address on. -/
def read (m : Mem) (address count : ℕ) : List UInt8 :=
  (List.range count).map fun i => m (address + i)

/-- A read returns as many bytes as were asked for. -/
@[simp] theorem length_read (m : Mem) (address count : ℕ) :
    (read m address count).length = count := by
  simp [read]

/-- The byte at an index is the one at that distance from the address. -/
theorem getElem?_read (m : Mem) (address : ℕ) {count i : ℕ} (hi : i < count) :
    (read m address count)[i]? = some (m (address + i)) := by
  simp [read, hi]

/-- The first bytes of a longer read are the shorter one. -/
theorem take_read (m : Mem) (address : ℕ) {count n : ℕ} (h : count ≤ n) :
    (read m address n).take count = read m address count := by
  rw [read, ← List.map_take, List.take_range, Nat.min_eq_left h, read]

/-- What a cell holds after a write, whether inside it or not. -/
theorem write_eq (m : Mem) (address : ℕ) (bytes : List UInt8) (a : ℕ) :
    write m address bytes a =
      if address ≤ a then bytes.getD (a - address) (m a) else m a := by
  rw [write, overwrite, lastWrite_consecutive]
  by_cases ha : address ≤ a
  · simp [ha, List.getD_eq_getElem?_getD]
  · simp [ha]

/-- **Frame.** -/
theorem write_of_outside (m : Mem) {address a : ℕ} {bytes : List UInt8}
    (h : a < address ∨ address + bytes.length ≤ a) : write m address bytes a = m a := by
  rw [write_eq]
  by_cases ha : address ≤ a
  · have hlength : bytes.length ≤ a - address := by omega
    rw [if_pos ha, List.getD_eq_default _ _ hlength]
  · rw [if_neg ha]

/-- A cell inside the write holds its byte. -/
theorem write_of_inside (m : Mem) (address : ℕ) {bytes : List UInt8} {i : ℕ}
    (hi : i < bytes.length) : write m address bytes (address + i) = bytes[i] := by
  rw [write_eq, if_pos (by omega), Nat.add_sub_cancel_left, List.getD_eq_getElem _ _ hi]

/-- Writing no bytes changes nothing. -/
@[simp] theorem write_nil (m : Mem) (address : ℕ) : write m address [] = m := by
  funext a
  exact write_of_outside m (by simp; omega)

/-- **What was written is read back.** -/
theorem read_write (m : Mem) (address : ℕ) (bytes : List UInt8) :
    read (write m address bytes) address bytes.length = bytes := by
  apply List.ext_getElem
  · simp
  · intro i hi hi'
    simp [read, write_of_inside m address hi']

/-- A read depends on the cells it covers only. -/
theorem read_congr {m m' : Mem} {address count : ℕ}
    (h : ∀ a, address ≤ a → a < address + count → m' a = m a) :
    read m' address count = read m address count := by
  apply List.map_congr_left
  intro i hi
  rw [List.mem_range] at hi
  exact h (address + i) (by omega) (by omega)

/-- A write somewhere else is not read. -/
theorem read_write_of_disjoint (m : Mem) {address address' count : ℕ} {bytes : List UInt8}
    (h : address' + count ≤ address ∨ address + bytes.length ≤ address') :
    read (write m address bytes) address' count = read m address' count := by
  apply read_congr
  intro a hlo hhi
  exact write_of_outside m (by omega)

/-! ## Little endian -/

/-- The lowest bytes of a number, least significant first. -/
def littleEndian : ℕ → ℕ → List UInt8
  | 0, _ => []
  | size + 1, v => UInt8.ofNat v :: littleEndian size (v / 256)

/-- The number that bytes stand for. -/
def wordOf : List UInt8 → ℕ
  | [] => 0
  | b :: bytes => b.toNat + 256 * wordOf bytes

/-- A number is stored in as many bytes as it is given. -/
@[simp] theorem length_littleEndian (size v : ℕ) : (littleEndian size v).length = size := by
  induction size generalizing v with
  | zero => rfl
  | succ size ih => simp [littleEndian, ih]

/-- Reading the bytes back gives the number, modulo what fits. -/
theorem wordOf_littleEndian (size v : ℕ) : wordOf (littleEndian size v) = v % 256 ^ size := by
  induction size generalizing v with
  | zero => simp [littleEndian, wordOf, Nat.mod_one]
  | succ size ih =>
      have hbyte : (UInt8.ofNat v).toNat = v % 256 := UInt8.toNat_ofNat'
      rw [littleEndian, wordOf, hbyte, ih, pow_succ, Nat.mul_comm (256 ^ size) 256, Nat.mod_mul]

/-! ## Confinement -/

/-- Nothing outside a set of addresses has changed. -/
def Confined (allowed : ℕ → Prop) (m m' : Mem) : Prop :=
  ∀ a, ¬allowed a → m' a = m a

/-- No write is confined anywhere. -/
theorem Confined.refl (allowed : ℕ → Prop) (m : Mem) : Confined allowed m m :=
  fun _ _ => rfl

/-- Two steps confined to the same cells are so together. -/
theorem Confined.trans {allowed : ℕ → Prop} {m m' m'' : Mem} (h : Confined allowed m m')
    (h' : Confined allowed m' m'') : Confined allowed m m'' :=
  fun a ha => (h' a ha).trans (h a ha)

/-- A step confined to some cells is confined to more. -/
theorem Confined.mono {allowed allowed' : ℕ → Prop} {m m' : Mem} (h : Confined allowed m m')
    (hsub : ∀ a, allowed a → allowed' a) : Confined allowed' m m' :=
  fun a ha => h a fun hallowed => ha (hsub a hallowed)

/-- A write inside the set. -/
theorem Confined.write {allowed : ℕ → Prop} (m : Mem) {address : ℕ} {bytes : List UInt8}
    (h : ∀ a, address ≤ a → a < address + bytes.length → allowed a) :
    Confined allowed m (write m address bytes) := by
  intro a ha
  apply write_of_outside
  by_contra hinside
  exact ha (h a (by omega) (by omega))

/-! ## Records -/

/-- Each cell of the record stands in memory. -/
def Contains (m : Mem) (cells : List (ℕ × List UInt8)) : Prop :=
  ∀ c ∈ cells, read m c.1 c.2.length = c.2

/-- Two cells share no address. -/
def Apart (c d : ℕ × List UInt8) : Prop :=
  c.1 + c.2.length ≤ d.1 ∨ d.1 + d.2.length ≤ c.1

/-- **A write to one cell** replaces its bytes and keeps the other cells. -/
theorem Contains.write {m : Mem} {cells : List (ℕ × List UInt8)} {i : ℕ} {c : ℕ × List UInt8}
    (h : Contains m cells) (hapart : cells.Pairwise Apart) (hc : cells[i]? = some c)
    {bytes : List UInt8} (hlength : bytes.length = c.2.length) :
    Contains (write m c.1 bytes) (cells.set i (c.1, bytes)) := by
  obtain ⟨hi, rfl⟩ := List.getElem?_eq_some_iff.mp hc
  intro d hd
  obtain ⟨j, hj, rfl⟩ := List.getElem_of_mem hd
  rw [List.length_set] at hj
  by_cases hij : i = j
  · subst hij
    rw [List.getElem_set_self]
    exact read_write m _ bytes
  · have happ : Apart cells[i] cells[j] ∨ Apart cells[j] cells[i] := by
      rcases Nat.lt_or_gt_of_ne hij with hlt | hgt
      · exact .inl (List.pairwise_iff_getElem.mp hapart i j hi hj hlt)
      · exact .inr (List.pairwise_iff_getElem.mp hapart j i hj hi hgt)
    simp only [Apart] at happ
    rw [List.getElem_set_ne hij, read_write_of_disjoint m (by omega)]
    exact h _ (List.getElem_mem hj)

/-- Writing the first bytes of a cell is writing the whole cell with its old end. -/
theorem write_append_read (m : Mem) (address : ℕ) {bytes : List UInt8} {count : ℕ}
    (h : bytes.length ≤ count) :
    write m address (bytes ++ (read m address count).drop bytes.length) =
      write m address bytes := by
  funext a
  rw [write_eq, write_eq]
  by_cases ha : address ≤ a
  · rw [if_pos ha, if_pos ha]
    by_cases hinside : a - address < bytes.length
    · rw [List.getD_append _ _ _ _ hinside]
    · have hend : bytes.length ≤ a - address := by omega
      rw [List.getD_append_right _ _ _ _ hend, List.getD_eq_default _ _ hend]
      by_cases hcount : a - address < count
      · have hold : ((read m address count).drop bytes.length)[a - address - bytes.length]? =
            some (m a) := by
          have hindex : bytes.length + (a - address - bytes.length) = a - address := by omega
          have haddress : address + (a - address) = a := by omega
          rw [List.getElem?_drop, hindex, getElem?_read m address hcount, haddress]
        rw [List.getD_eq_getElem?_getD, hold]
        rfl
      · rw [List.getD_eq_default]
        rw [List.length_drop, length_read]
        omega
  · rw [if_neg ha, if_neg ha]

end ByteMemory
