import LatticeNodes.Analysis.EepromStore
import LatticeNodes.Library.CyclicRedundancy

/-!
# What the keypair's checksum detects

`crc16` is the CRC of width 16 over the bits of its bytes, most significant first (`crc16_run`):
a byte enters at the top of the register at once.  What was saved loads again, and a load after
a burst of at most 16 bits in the keys, or after any change of the stored checksum, fails.
-/

set_option autoImplicit false

namespace LatticeNodes.Analysis

open LatticeNodes.Program CyclicRedundancy EepromFields

namespace KeypairCrc

/-! ## The checksum -/

/-- The polynomial of CRC16 (CCITT).
SOURCE: EEPROM_Manager.cpp:395 -/
def polynomial : BitVec 16 := 0x1021#16

/-- The polynomial `0x1021` has constant term one.
SOURCE: EEPROM_Manager.cpp:390-398 -/
theorem polynomial_odd : polynomial.getLsbD 0 = true := rfl

/-- The bits of a byte, most significant first. -/
def byteBits (b : UInt8) : List Bool :=
  (List.range 8).map fun i => b.toBitVec.getLsbD (7 - i)

/-- The bits in the order the checksum processes them. -/
def bitSequence (bytes : List UInt8) : List Bool :=
  bytes.flatMap byteBits

/-- The test of the top bit.
SOURCE: EEPROM_Manager.cpp:395 -/
theorem and_topBit_ne_zero (crc : UInt16) : crc &&& 0x8000 ≠ 0 ↔ crc.toBitVec.msb = true := by
  have hmask : (0x8000 : UInt16).toBitVec = BitVec.intMin 16 := rfl
  have hzero : crc &&& 0x8000 = 0 ↔ crc.toBitVec &&& BitVec.intMin 16 = 0#16 := by
    rw [← UInt16.toBitVec_inj, UInt16.toBitVec_and, hmask]
    rfl
  rw [ne_eq, hzero, BitVec.msb_eq_getLsbD_last]
  constructor
  · intro hne
    by_contra hclear
    apply hne
    apply BitVec.eq_of_getLsbD_eq
    intro i hi
    rw [BitVec.getLsbD_and, BitVec.getLsbD_intMin, BitVec.getLsbD_zero]
    by_cases hlast : i + 1 = 16
    · rw [show i = 15 by omega]
      simpa using hclear
    · simp [hlast]
  · intro hset heq
    have hbit : (crc.toBitVec &&& BitVec.intMin 16).getLsbD 15 = false := by
      rw [heq, BitVec.getLsbD_zero]
    rw [BitVec.getLsbD_and, BitVec.getLsbD_intMin] at hbit
    simp at hset hbit
    rw [hset] at hbit
    cases hbit

/-- One bit of the loop is one shift of the register.
SOURCE: EEPROM_Manager.cpp:394-395 -/
theorem crc16Bit_toBitVec (crc : UInt16) :
    (EepromManager.crc16Bit crc).toBitVec = shift polynomial crc.toBitVec := by
  unfold EepromManager.crc16Bit shift
  by_cases hset : crc &&& 0x8000 ≠ 0
  · rw [if_pos hset, (and_topBit_ne_zero crc).mp hset]
    rfl
  · have hclear : crc.toBitVec.msb = false :=
      Bool.eq_false_iff.mpr fun hmsb => hset ((and_topBit_ne_zero crc).mpr hmsb)
    rw [if_neg hset, hclear]
    exact BitVec.xor_zero.symm

/-- The shifts of the source are those of the register.
SOURCE: EEPROM_Manager.cpp:390-398 -/
theorem iterate_crc16Bit_toBitVec (n : ℕ) (crc : UInt16) :
    (EepromManager.crc16Bit^[n] crc).toBitVec = (shift polynomial)^[n] crc.toBitVec := by
  have hsemiconj : Function.Semiconj UInt16.toBitVec EepromManager.crc16Bit (shift polynomial) :=
    crc16Bit_toBitVec
  exact hsemiconj.iterate_right n crc

/-- A byte shifted to the top of the register.
SOURCE: EEPROM_Manager.cpp:393 -/
theorem shiftLeft_toBitVec (b : UInt8) :
    (b.toUInt16 <<< (8 : UInt16)).toBitVec = top (byteBits b) := by
  apply BitVec.eq_of_getLsbD_eq
  intro i hi
  rw [getLsbD_top (byteBits b) hi]
  have hshift : (b.toUInt16 <<< (8 : UInt16)).toBitVec = b.toBitVec.setWidth 16 <<< 8 := rfl
  rw [hshift, BitVec.getLsbD_shiftLeft, BitVec.getLsbD_setWidth, List.getD_eq_getElem?_getD,
    byteBits, List.getElem?_map]
  by_cases hlow : i < 8
  · rw [List.getElem?_eq_none (by rw [List.length_range]; omega)]
    simp [hlow]
  · rw [List.getElem?_range (by omega)]
    simp [hlow, hi, show 7 - (15 - i) = i - 8 by omega, show i - 8 < 16 by omega]

/-- **One byte of the loop is eight bits of the CRC.**
SOURCE: EEPROM_Manager.cpp:393-395 -/
theorem crc16Byte_run (crc : UInt16) (b : UInt8) :
    (EepromManager.crc16Byte crc b).toBitVec = run polynomial crc.toBitVec (byteBits b) := by
  have hlength : (byteBits b).length = 8 := by
    rw [byteBits, List.length_map, List.length_range]
  have hiterate := @iterate_shift 16 polynomial crc.toBitVec (byteBits b) (by omega)
  rw [hlength] at hiterate
  rw [EepromManager.crc16Byte, iterate_crc16Bit_toBitVec, UInt16.toBitVec_xor, shiftLeft_toBitVec,
    hiterate]

/-- The bytes go in bit by bit, the highest first.
SOURCE: EEPROM_Manager.cpp:390-398 -/
theorem foldl_crc16Byte_run (crc : UInt16) (bytes : List UInt8) :
    (bytes.foldl EepromManager.crc16Byte crc).toBitVec =
      run polynomial crc.toBitVec (bitSequence bytes) := by
  induction bytes generalizing crc with
  | nil => rfl
  | cons b bytes ih =>
      have hbits : bitSequence (b :: bytes) = byteBits b ++ bitSequence bytes :=
        List.flatMap_cons
      rw [List.foldl_cons, ih, crc16Byte_run, hbits, run_append]

/-- SOURCE: EEPROM_Manager.cpp:390-398 -/
theorem crc16_run (bytes : List UInt8) :
    (EepromManager.crc16 bytes).toBitVec =
      run polynomial (0xFFFF : UInt16).toBitVec (bitSequence bytes) :=
  foldl_crc16Byte_run 0xFFFF bytes

/-- **Bytes whose bits differ in a burst of at most 16 have different checksums.** -/
theorem crc16_ne_of_shortBurst {bytes bytes' : List UInt8}
    (h : ShortBurst 16 (bitSequence bytes) (bitSequence bytes')) :
    EepromManager.crc16 bytes ≠ EepromManager.crc16 bytes' := by
  intro hsame
  have hregister := congrArg UInt16.toBitVec hsame
  rw [crc16_run, crc16_run] at hregister
  exact run_ne_of_shortBurst polynomial_odd _ h hregister

/-! ## The stored keypair -/

/-- The 64 bytes of the two keys, as they are read.
SOURCE: EEPROM_Manager.cpp:404-407 -/
def keyBytes (em : EepromManager) : List UInt8 :=
  (em.readVector EepromAddresses.privateKey 32).toList ++
    (em.readVector EepromAddresses.publicKey 32).toList

/-- The two bytes of the stored checksum, low byte first. -/
def crcBytes (em : EepromManager) : UInt8 × UInt8 :=
  (em.read EepromAddresses.keypairCrc, em.read (EepromAddresses.keypairCrc + 1))

/-- The stored checksum.
SOURCE: EEPROM_Manager.cpp:408-409 -/
def wordOfCrc (bytes : UInt8 × UInt8) : UInt16 :=
  bytes.1.toUInt16 ||| (bytes.2.toUInt16 <<< 8)

/-- Different bytes are different checksums. -/
theorem wordOfCrc_injective : Function.Injective wordOfCrc := by
  have hnat : ∀ bytes, (wordOfCrc bytes).toNat = bytes.1.toNat + bytes.2.toNat * 2 ^ 8 := by
    intro bytes
    have hlow := bytes.1.toNat_lt
    have hhigh := bytes.2.toNat_lt
    rw [wordOfCrc, UInt16.toNat_or, UInt16.toNat_shiftLeft, UInt8.toNat_toUInt16,
      UInt8.toNat_toUInt16, ← or_shiftLeft bytes.2.toNat hlow]
    congr 1
    rw [Nat.mod_eq_of_lt]
    · rfl
    · show bytes.2.toNat <<< 8 < 2 ^ 16
      rw [Nat.shiftLeft_eq]
      omega
  intro bytes bytes' h
  have hword := congrArg UInt16.toNat h
  rw [hnat, hnat] at hword
  have hlow := bytes.1.toNat_lt
  have hlow' := bytes'.1.toNat_lt
  apply Prod.ext
  · apply UInt8.toNat_inj.mp
    omega
  · apply UInt8.toNat_inj.mp
    omega

/-- A load succeeds when the stored checksum is that of the keys.
SOURCE: EEPROM_Manager.cpp:401-419 -/
theorem loadKeypair_eq_some_iff {em : EepromManager} {keys : Key × Key} :
    em.loadKeypair = some keys ↔ em.isInitialized = true ∧
      wordOfCrc (crcBytes em) = EepromManager.crc16 (keyBytes em) ∧
      keys = (em.readVector EepromAddresses.privateKey 32,
        em.readVector EepromAddresses.publicKey 32) := by
  have hload : em.loadKeypair = if !em.isInitialized then none
      else if wordOfCrc (crcBytes em) ≠ EepromManager.crc16 (keyBytes em) then none
      else some (em.readVector EepromAddresses.privateKey 32,
        em.readVector EepromAddresses.publicKey 32) := rfl
  rw [hload, Option.ite_none_left_eq_some, Option.ite_none_left_eq_some, Option.some.injEq,
    Bool.not_eq_true, Bool.not_eq_false', not_ne_iff, eq_comm]
  constructor
  · rintro ⟨hinit, hcrc, hkeys⟩
    exact ⟨hinit, hcrc, hkeys.symm⟩
  · rintro ⟨hinit, hcrc, hkeys⟩
    exact ⟨hinit, hcrc, hkeys.symm⟩

/-- A wrong checksum is reported.
SOURCE: EEPROM_Manager.cpp:401-419 -/
theorem loadKeypair_of_mismatch {em : EepromManager}
    (h : wordOfCrc (crcBytes em) ≠ EepromManager.crc16 (keyBytes em)) : em.loadKeypair = none := by
  cases hload : em.loadKeypair with
  | none => rfl
  | some keys => exact absurd (loadKeypair_eq_some_iff.mp hload).2.1 h

/-- **What was saved loads again.**
SOURCE: EEPROM_Manager.cpp:401-436 -/
theorem loadKeypair_saveKeypair {em : EepromManager} (h : Production em)
    (privateKey publicKey : Key) :
    (em.saveKeypair privateKey publicKey).loadKeypair = some (privateKey, publicKey) := by
  have hsaved := h.run (.keypair privateKey publicKey)
  have hread := run_read h (c := .keypair privateKey publicKey) trivial
  rw [SaveCall.run] at hsaved hread
  rw [loadKeypair_eq hsaved.isInitialized, hread, writesOf, keypairOf_overwrite]

/-- A saved keypair has its own checksum.
SOURCE: EEPROM_Manager.cpp:421-436 -/
theorem crcBytes_saveKeypair {em : EepromManager} (h : Production em)
    (privateKey publicKey : Key) :
    keyBytes (em.saveKeypair privateKey publicKey) = privateKey.toList ++ publicKey.toList ∧
      wordOfCrc (crcBytes (em.saveKeypair privateKey publicKey)) =
        EepromManager.crc16 (privateKey.toList ++ publicKey.toList) := by
  obtain ⟨-, hcrc, hkeys⟩ :=
    loadKeypair_eq_some_iff.mp (loadKeypair_saveKeypair h privateKey publicKey)
  obtain ⟨hprivate, hpublic⟩ := Prod.mk.inj hkeys
  have hbytes : keyBytes (em.saveKeypair privateKey publicKey) =
      privateKey.toList ++ publicKey.toList := by
    rw [keyBytes, ← hprivate, ← hpublic]
  rw [hbytes] at hcrc
  exact ⟨hbytes, hcrc⟩

/-! ## Corruption -/

/-- A manager that reads the same bytes, but for those at the given addresses. -/
structure Corrupts (addresses : ℕ → Prop) (em em' : EepromManager) : Prop where
  isInitialized : em'.isInitialized = em.isInitialized
  elsewhere : ∀ address, ¬addresses address → em'.read address = em.read address

def KeyAddress (address : ℕ) : Prop :=
  EepromAddresses.privateKey ≤ address ∧ address < EepromAddresses.keypairCrc

def CrcAddress (address : ℕ) : Prop :=
  EepromAddresses.keypairCrc ≤ address ∧ address < EepromAddresses.keypairCrc + 2

/-- A corruption elsewhere leaves the checksum. -/
theorem Corrupts.crcBytes {em em' : EepromManager} {addresses : ℕ → Prop}
    (h : Corrupts addresses em em') (hkept : ∀ address, CrcAddress address → ¬addresses address) :
    crcBytes em' = crcBytes em := by
  have hlow := h.elsewhere EepromAddresses.keypairCrc
    (hkept _ ⟨Nat.le_refl _, by decide⟩)
  have hhigh := h.elsewhere (EepromAddresses.keypairCrc + 1)
    (hkept _ ⟨Nat.le_succ _, Nat.le_refl _⟩)
  rw [KeypairCrc.crcBytes, KeypairCrc.crcBytes, hlow, hhigh]

/-- A corruption elsewhere leaves a key. -/
theorem Corrupts.readVector {em em' : EepromManager} {addresses : ℕ → Prop}
    (h : Corrupts addresses em em') (hkept : ∀ address, KeyAddress address → ¬addresses address)
    {start : ℕ} (hlow : EepromAddresses.privateKey ≤ start)
    (hhigh : start + 32 ≤ EepromAddresses.keypairCrc) :
    em'.readVector start 32 = em.readVector start 32 := by
  unfold EepromManager.readVector
  congr 1
  funext i
  have hi := i.isLt
  apply h.elsewhere
  apply hkept
  exact ⟨by omega, by omega⟩

/-- A corruption of the checksum leaves both keys. -/
theorem Corrupts.keyBytes {em em' : EepromManager} {addresses : ℕ → Prop}
    (h : Corrupts addresses em em') (hkept : ∀ address, KeyAddress address → ¬addresses address) :
    em'.readVector EepromAddresses.privateKey 32 = em.readVector EepromAddresses.privateKey 32 ∧
      em'.readVector EepromAddresses.publicKey 32 = em.readVector EepromAddresses.publicKey 32 ∧
      keyBytes em' = keyBytes em := by
  have hprivate := h.readVector hkept (Nat.le_refl EepromAddresses.privateKey) (by decide)
  have hpublic := @Corrupts.readVector em em' addresses h hkept EepromAddresses.publicKey
    (by decide) (Nat.le_refl _)
  refine ⟨hprivate, hpublic, ?_⟩
  rw [KeypairCrc.keyBytes, KeypairCrc.keyBytes, hprivate, hpublic]

/-- **The checksum detects every short burst in the keys and every change of itself.**  After a
save of any keys, a manager whose 64 key bytes differ in a burst of at most 16 bits, or whose two
checksum bytes differ, loads nothing; one that reads the same bytes loads the same keys.
SOURCE: EEPROM_Manager.cpp:389-436 -/
theorem keypair_corruption_detected {em : EepromManager} (h : Production em)
    (privateKey publicKey : Key) :
    (∀ em', Corrupts KeyAddress (em.saveKeypair privateKey publicKey) em' →
        ShortBurst 16 (bitSequence (privateKey.toList ++ publicKey.toList))
          (bitSequence (keyBytes em')) → em'.loadKeypair = none) ∧
      (∀ em', Corrupts CrcAddress (em.saveKeypair privateKey publicKey) em' →
        crcBytes em' ≠ crcBytes (em.saveKeypair privateKey publicKey) →
          em'.loadKeypair = none) ∧
      ∀ em', Corrupts (fun _ => False) (em.saveKeypair privateKey publicKey) em' →
        em'.loadKeypair = some (privateKey, publicKey) := by
  obtain ⟨hbytes, hcrc⟩ := crcBytes_saveKeypair h privateKey publicKey
  refine ⟨?_, ?_, ?_⟩
  · intro em' hcorrupts hburst
    apply loadKeypair_of_mismatch
    rw [hcorrupts.crcBytes fun address hcrcAddress hkeyAddress =>
      Nat.not_le.mpr hkeyAddress.2 hcrcAddress.1, hcrc]
    exact crc16_ne_of_shortBurst hburst
  · intro em' hcorrupts hdiffers
    obtain ⟨-, -, hkeys⟩ := hcorrupts.keyBytes fun address hkeyAddress hcrcAddress =>
      Nat.not_le.mpr hkeyAddress.2 hcrcAddress.1
    apply loadKeypair_of_mismatch
    rw [hkeys, hbytes, ← hcrc]
    exact fun hsame => hdiffers (wordOfCrc_injective hsame)
  · intro em' hsame
    obtain ⟨hprivate, hpublic, hkeys⟩ := hsame.keyBytes fun _ _ => not_false
    have hsaved := loadKeypair_eq_some_iff.mp (loadKeypair_saveKeypair h privateKey publicKey)
    apply loadKeypair_eq_some_iff.mpr
    rw [hsame.isInitialized, hkeys, hsame.crcBytes fun _ _ => not_false, hprivate, hpublic]
    exact hsaved

/-- Two keys of zeros, saved over a blank EEPROM. -/
theorem keypair_corruption_detected_zero :
    (∀ em', Corrupts KeyAddress (blankManager.saveKeypair zeroKey zeroKey) em' →
        ShortBurst 16 (bitSequence (zeroKey.toList ++ zeroKey.toList))
          (bitSequence (keyBytes em')) → em'.loadKeypair = none) ∧
      (∀ em', Corrupts CrcAddress (blankManager.saveKeypair zeroKey zeroKey) em' →
        crcBytes em' ≠ crcBytes (blankManager.saveKeypair zeroKey zeroKey) →
          em'.loadKeypair = none) ∧
      ∀ em', Corrupts (fun _ => False) (blankManager.saveKeypair zeroKey zeroKey) em' →
        em'.loadKeypair = some (zeroKey, zeroKey) :=
  keypair_corruption_detected ⟨rfl, rfl⟩ zeroKey zeroKey

end KeypairCrc

end LatticeNodes.Analysis
