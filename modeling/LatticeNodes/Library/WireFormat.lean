import Mathlib.Data.Nat.Bits
import Mathlib.Tactic.Ring

/-!
# The protobuf wire format

Base-128 varints, the zigzag code for signed integers, and field keys, as byte lists.
Values are natural numbers; the decoders consume a byte list and return what is left of it.

The round trips are stated over an arbitrary rest of the stream (`decodeVarint_encode`), so
that a reader built from these decoders can be verified field by field.
-/

set_option autoImplicit false

namespace WireFormat

/-- The number of 7-bit groups of a 64-bit varint. -/
def maxGroups : ℕ := 10

/-- At most `g` groups of seven bits, least significant first; every byte but the last has
its top bit set. -/
def encodeGroups : ℕ → ℕ → List UInt8
  | 0, _ => []
  | g + 1, v =>
      if v < 128 then [UInt8.ofNat v]
      else UInt8.ofNat (v % 128 + 128) :: encodeGroups g (v / 128)

/-- The varint of a 64-bit value. -/
def encodeVarint (v : ℕ) : List UInt8 :=
  encodeGroups maxGroups v

/-- Continue decoding a 64-bit varint at bit `bitpos`.  Only the lowest bit of the tenth
byte fits. -/
def decodeVarintFrom (bitpos acc : ℕ) : List UInt8 → Option (ℕ × List UInt8)
  | [] => none
  | b :: rest =>
      if 63 ≤ bitpos ∧ 2 ≤ b.toNat then none
      else if 128 ≤ b.toNat then
        decodeVarintFrom (bitpos + 7) (acc + b.toNat % 128 * 2 ^ bitpos) rest
      else some (acc + b.toNat % 128 * 2 ^ bitpos, rest)

/-- Decode a 64-bit varint. -/
def decodeVarint (stream : List UInt8) : Option (ℕ × List UInt8) :=
  decodeVarintFrom 0 0 stream

/-- The zigzag code: 0, -1, 1, -2, … are 0, 1, 2, 3, … -/
def zigzag (z : ℤ) : ℕ :=
  if 0 ≤ z then 2 * z.toNat else 2 * (-z).toNat - 1

/-- The integer of a zigzag code. -/
def unzigzag (n : ℕ) : ℤ :=
  if n % 2 = 0 then (n / 2 : ℕ) else -((n / 2 : ℕ) : ℤ) - 1

/-- Wire types. -/
def wireVarint : ℕ := 0
def wire64Bit : ℕ := 1
def wireString : ℕ := 2
def wire32Bit : ℕ := 5

/-- The key of a field: its number and wire type in one varint. -/
def encodeKey (fieldNumber wireType : ℕ) : List UInt8 :=
  encodeVarint (fieldNumber * 8 + wireType)

/-! ## Lengths -/

/-- A number has at least one group. -/
theorem encodeGroups_ne_nil {g : ℕ} (hg : 0 < g) (v : ℕ) : encodeGroups g v ≠ [] := by
  cases g with
  | zero => omega
  | succ g =>
      rw [encodeGroups]
      split <;> simp

/-- A varint has at least one byte. -/
theorem encodeVarint_ne_nil (v : ℕ) : encodeVarint v ≠ [] :=
  encodeGroups_ne_nil (by decide) v

/-- A value below `128 ^ k` takes at most `k` bytes. -/
theorem length_encodeGroups_le {k : ℕ} (hk : 0 < k) (g : ℕ) {v : ℕ} (hv : v < 128 ^ k) :
    (encodeGroups g v).length ≤ k := by
  induction g generalizing k v with
  | zero => simp [encodeGroups]
  | succ g ih =>
      rw [encodeGroups]
      split
      · exact hk
      · next h =>
        obtain ⟨k, rfl⟩ := Nat.exists_eq_succ_of_ne_zero hk.ne'
        have hk0 : 0 < k := by
          rcases Nat.eq_zero_or_pos k with rfl | hk0
          · simp at hv; omega
          · exact hk0
        have hdiv : v / 128 < 128 ^ k := by
          rw [Nat.div_lt_iff_lt_mul (by decide), ← Nat.pow_succ]
          exact hv
        have := ih hk0 hdiv
        simpa using this

/-- Seven bits go into a byte: a smaller number has a shorter varint. -/
theorem length_encodeVarint_le {k : ℕ} (hk : 0 < k) {v : ℕ} (hv : v < 128 ^ k) :
    (encodeVarint v).length ≤ k :=
  length_encodeGroups_le hk maxGroups hv

/-- A value below 128 is its own varint. -/
theorem encodeVarint_of_lt {v : ℕ} (hv : v < 128) : encodeVarint v = [UInt8.ofNat v] := by
  rw [encodeVarint, maxGroups, encodeGroups, if_pos hv]

/-- A small field number has a key of one byte. -/
theorem length_encodeKey_le {fieldNumber wireType : ℕ} (h : fieldNumber * 8 + wireType < 128) :
    (encodeKey fieldNumber wireType).length ≤ 1 := by
  rw [encodeKey, encodeVarint_of_lt h]
  simp

/-! ## Round trips -/

/-- The groups from group `k` on decode to the value they encode.  The induction is on the
number of groups left; `v` fits in the bits left of the 64. -/
theorem decodeVarintFrom_encodeGroups (rest : List UInt8) (g k acc v : ℕ) (hg : 0 < g)
    (hgk : g + k = maxGroups) (hv : v < 2 ^ (64 - 7 * k)) :
    decodeVarintFrom (7 * k) acc (encodeGroups g v ++ rest) =
      some (acc + v * 2 ^ (7 * k), rest) := by
  have hmax : maxGroups = 10 := rfl
  induction g generalizing k acc v with
  | zero => omega
  | succ g ih =>
      -- the tenth group holds a single bit
      have htop : 63 ≤ 7 * k → v < 2 := by
        intro h63
        have hk9 : k = 9 := by omega
        subst hk9
        simpa using hv
      rw [encodeGroups]
      split
      · next h =>
        have hb : (UInt8.ofNat v).toNat = v := by
          rw [UInt8.toNat_ofNat']; omega
        rw [List.singleton_append, decodeVarintFrom, hb, if_neg (by omega), if_neg (by omega),
          Nat.mod_eq_of_lt h]
      · next h =>
        have hb : (UInt8.ofNat (v % 128 + 128)).toNat = v % 128 + 128 := by
          rw [UInt8.toNat_ofNat']; omega
        have hk9 : k < 9 := by
          by_contra hk
          have := htop (by omega)
          omega
        have hdiv : v / 128 < 2 ^ (64 - 7 * (k + 1)) := by
          rw [Nat.div_lt_iff_lt_mul (by decide)]
          calc v < 2 ^ (64 - 7 * k) := hv
            _ = 2 ^ (64 - 7 * (k + 1)) * 2 ^ 7 := by rw [← Nat.pow_add]; congr 1; omega
        have hsum : acc + v % 128 * 2 ^ (7 * k) + v / 128 * 2 ^ (7 * (k + 1)) =
            acc + v * 2 ^ (7 * k) := by
          calc acc + v % 128 * 2 ^ (7 * k) + v / 128 * 2 ^ (7 * (k + 1))
              = acc + (v % 128 + 128 * (v / 128)) * 2 ^ (7 * k) := by ring
            _ = acc + v * 2 ^ (7 * k) := by rw [Nat.mod_add_div]
        rw [List.cons_append, decodeVarintFrom, hb, if_neg (by omega), if_pos (by omega),
          ← Nat.mul_succ, show (v % 128 + 128) % 128 = v % 128 by omega,
          ih (k + 1) _ _ (by omega) (by omega) hdiv, hsum]

/-- The varint of a 64-bit value decodes to that value, whatever follows it. -/
theorem decodeVarint_encode {v : ℕ} (hv : v < 2 ^ 64) (rest : List UInt8) :
    decodeVarint (encodeVarint v ++ rest) = some (v, rest) := by
  have h := decodeVarintFrom_encodeGroups rest maxGroups 0 0 v (by decide) rfl (by simpa using hv)
  simpa [decodeVarint, encodeVarint] using h

/-- The zigzag code loses nothing. -/
theorem unzigzag_zigzag (z : ℤ) : unzigzag (zigzag z) = z := by
  unfold zigzag unzigzag
  split <;> split <;> omega

/-- The code of an `n + 1`-bit integer fits in as many bits. -/
theorem zigzag_lt {z : ℤ} {n : ℕ} (hlo : -(2 ^ n : ℤ) ≤ z) (hhi : z < 2 ^ n) :
    zigzag z < 2 ^ (n + 1) := by
  have hpow : ((2 ^ n : ℕ) : ℤ) = 2 ^ n := by push_cast; rfl
  rw [Nat.pow_succ]
  unfold zigzag
  split <;> omega

end WireFormat
