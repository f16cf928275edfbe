import LatticeNodes.Program.Setup

/-!
# Which bytes a save touches

Frame lemmas for the EEPROM manager: a sequence of writes changes the bytes it names and no
others, a deferred save changes the RAM image only, a committed save copies it to flash.

A boot decides on three bytes before it creates the adapter (`BootBytes`); every save but the
two of the adapter type and the role, the schema version and the wipes leaves them alone
(`Avoids`).
-/

set_option autoImplicit false

namespace LatticeNodes.Analysis

open LatticeNodes.Program CachedMemory

/-! ## Writes -/

/-- The writes in range are those of the list whose address is. -/
theorem mem_inRange {writes : List (ℕ × UInt8)} {w : Fin EepromSizes.totalSize × UInt8} :
    w ∈ EepromManager.inRange writes ↔ ((w.1 : ℕ), w.2) ∈ writes := by
  simp only [EepromManager.inRange, List.mem_filterMap, Option.dite_none_right_eq_some,
    Option.some.injEq]
  constructor
  · rintro ⟨⟨a, v⟩, hmem, h, rfl⟩
    exact hmem
  · intro hmem
    exact ⟨_, hmem, w.1.isLt, rfl⟩

/-- Bytes stored at an address stay in their range. -/
theorem mem_bytesAt {address : ℕ} {bytes : List UInt8} {w : ℕ × UInt8}
    (h : w ∈ EepromManager.bytesAt address bytes) :
    address ≤ w.1 ∧ w.1 < address + bytes.length ∧ w.2 ∈ bytes := by
  obtain ⟨i, hi, hw⟩ := List.mem_iff_getElem.mp h
  simp only [EepromManager.bytesAt, List.length_mapIdx] at hi
  simp only [EepromManager.bytesAt, List.getElem_mapIdx] at hw
  subst hw
  exact ⟨by simp, by simpa using hi, List.getElem_mem hi⟩

/-- A byte that no write names keeps its value.
SOURCE: EEPROM_Manager.cpp:207 -/
theorem readByte_write_of_notMem (em : EepromManager) {address : ℕ}
    {writes : List (ℕ × UInt8)} (h : ∀ w ∈ writes, w.1 ≠ address) :
    EepromManager.readByte (em.write writes).memory.cache address =
      EepromManager.readByte em.memory.cache address := by
  unfold EepromManager.readByte
  split
  · refine Memory.writeAll_cache_of_notMem em.memory _ fun w hw heq => ?_
    apply h _ (mem_inRange.mp hw)
    rw [heq]
  · rfl

/-- A single write updates one cell of the RAM image.
SOURCE: EEPROM_Manager.cpp:207 -/
theorem write_singleton_cache (em : EepromManager) {address : ℕ} (v : UInt8)
    (h : address < EepromSizes.totalSize) :
    (em.write [(address, v)]).memory.cache = Function.update em.memory.cache ⟨address, h⟩ v := by
  have hwrites : EepromManager.inRange [(address, v)] = [(⟨address, h⟩, v)] := by
    simp [EepromManager.inRange, h]
  rw [EepromManager.write, hwrites]
  rfl

/-- A byte that is written is read. -/
theorem readByte_write_singleton (em : EepromManager) {address : ℕ} (v : UInt8)
    (h : address < EepromSizes.totalSize) :
    EepromManager.readByte (em.write [(address, v)]).memory.cache address = v := by
  rw [write_singleton_cache em v h, EepromManager.readByte, dif_pos h, Function.update_self]

/-- Writing one value everywhere leaves the constant image. -/
theorem write_replicate_cache (em : EepromManager) (v : UInt8) {n : ℕ}
    (hn : EepromSizes.totalSize ≤ n) :
    (em.write (EepromManager.bytesAt 0 (List.replicate n v))).memory.cache = fun _ => v := by
  funext i
  have hi : (i : ℕ) < n := i.isLt.trans_le hn
  refine Memory.writeAll_cache_const em.memory ?_ ⟨(i, v), mem_inRange.mpr ?_, rfl⟩
  · intro w hw
    exact List.eq_of_mem_replicate (mem_bytesAt (mem_inRange.mp hw)).2.2
  · refine List.mem_iff_getElem.mpr ⟨i, by simpa [EepromManager.bytesAt] using hi, ?_⟩
    simp [EepromManager.bytesAt]

/-- A wipe leaves the blank image.
SOURCE: EEPROM_Manager.cpp:571-580 -/
theorem clearAll_writes_blank (em : EepromManager) :
    (em.write (EepromManager.bytesAt 0
      (List.replicate EepromSizes.totalSize 0xFF))).memory.cache = blankImage :=
  write_replicate_cache em 0xFF le_rfl

/-! ## The bytes of a boot -/

/-- What a boot reads before the adapter is created.
SOURCE: EEPROM_Manager.cpp:44, 216, 344 -/
structure BootBytes where
  devFlag : UInt8
  adapterType : UInt8
  schemaVersion : UInt8
  deriving DecidableEq

def bootBytes (image : EepromImage) : BootBytes where
  devFlag := EepromManager.readByte image EepromAddresses.devFlag
  adapterType := EepromManager.readByte image EepromAddresses.adapterType
  schemaVersion := EepromManager.readByte image EepromAddresses.schemaVersion

/-- The writes name none of the three bytes. -/
def Avoids (writes : List (ℕ × UInt8)) : Prop :=
  ∀ w ∈ writes, w.1 ≠ EepromAddresses.devFlag ∧ w.1 ≠ EepromAddresses.adapterType ∧
    w.1 ≠ EepromAddresses.schemaVersion

/-- Writes that avoid the boot bytes leave them. -/
theorem Avoids.bootBytes {writes : List (ℕ × UInt8)} (h : Avoids writes) (em : EepromManager) :
    bootBytes (em.write writes).memory.cache = bootBytes em.memory.cache := by
  have hdev := readByte_write_of_notMem em fun w hw => (h w hw).1
  have htype := readByte_write_of_notMem em fun w hw => (h w hw).2.1
  have hversion := readByte_write_of_notMem em fun w hw => (h w hw).2.2
  simp only [Analysis.bootBytes, hdev, htype, hversion]

/-- Two lists of writes that avoid them do so together. -/
theorem Avoids.append {xs ys : List (ℕ × UInt8)} (hx : Avoids xs) (hy : Avoids ys) :
    Avoids (xs ++ ys) := by
  intro w hw
  rcases List.mem_append.mp hw with hw | hw
  · exact hx w hw
  · exact hy w hw

/-- Consecutive bytes between the adapter type and the schema version. -/
theorem avoids_bytesAt {address : ℕ} {bytes : List UInt8}
    (h : EepromAddresses.adapterType < address ∧
      address + bytes.length ≤ EepromAddresses.schemaVersion ∨
        EepromAddresses.schemaVersion < address) :
    Avoids (EepromManager.bytesAt address bytes) := by
  intro w hw
  obtain ⟨hlo, hhi, -⟩ := mem_bytesAt hw
  simp only [EepromAddresses.adapterType, EepromAddresses.schemaVersion] at h
  simp only [EepromAddresses.devFlag, EepromAddresses.adapterType, EepromAddresses.schemaVersion]
  omega

/-- A single byte other than the three. -/
theorem avoids_singleton {address : ℕ} {v : UInt8}
    (h : address ≠ EepromAddresses.devFlag ∧ address ≠ EepromAddresses.adapterType ∧
      address ≠ EepromAddresses.schemaVersion) : Avoids [(address, v)] := by
  intro w hw
  rw [List.mem_singleton.mp hw]
  exact h

/-! ## Saves that leave a boot's bytes alone -/

/-- What a deferred save of other bytes does not change; the flash image is the same
altogether. -/
structure SameBoot (em em' : EepromManager) : Prop where
  bytes : bootBytes em'.memory.cache = bootBytes em.memory.cache
  backing : em'.memory.backing = em.memory.backing
  faults : em'.memory.faults = em.memory.faults
  isInitialized : em'.isInitialized = em.isInitialized
  isDevMode : em'.isDevMode = em.isDevMode

/-- A manager has its own boot bytes. -/
theorem SameBoot.refl (em : EepromManager) : SameBoot em em :=
  ⟨rfl, rfl, rfl, rfl, rfl⟩

/-- What two steps keep, they keep together. -/
theorem SameBoot.trans {em₁ em₂ em₃ : EepromManager} (h : SameBoot em₁ em₂)
    (h' : SameBoot em₂ em₃) : SameBoot em₁ em₃ where
  bytes := h'.bytes.trans h.bytes
  backing := h'.backing.trans h.backing
  faults := h'.faults.trans h.faults
  isInitialized := h'.isInitialized.trans h.isInitialized
  isDevMode := h'.isDevMode.trans h.isDevMode

/-- A deferred save keeps the boot bytes when its writes avoid them. -/
theorem deferredSave_sameBoot (em : EepromManager) {writes : List (ℕ × UInt8)}
    (h : Avoids writes) : SameBoot em (em.deferredSave writes) where
  bytes := h.bootBytes em
  backing := Memory.writeAll_backing em.memory _
  faults := Memory.writeAll_faults em.memory _
  isInitialized := rfl
  isDevMode := rfl

/-- A guarded save keeps the boot bytes when the save does. -/
theorem unlessDevMode_sameBoot (em : EepromManager) {save : EepromManager → EepromManager}
    (h : SameBoot em (save em)) : SameBoot em (em.unlessDevMode save) := by
  unfold EepromManager.unlessDevMode
  split
  · exact SameBoot.refl em
  · split
    · exact SameBoot.refl em
    · exact h

/-! ## Committed saves -/

section Committed

variable (em : EepromManager) (writes : List (ℕ × UInt8))

/-- A save leaves the manager initialised or not. -/
theorem committedSave_isInitialized :
    (em.committedSave writes).isInitialized = em.isInitialized := rfl

/-- A save leaves the mode of the manager alone. -/
theorem committedSave_isDevMode : (em.committedSave writes).isDevMode = em.isDevMode := rfl

/-- A save that commits at once leaves the dirty flag alone. -/
theorem committedSave_dirty : (em.committedSave writes).dirty = em.dirty := rfl

/-- The cache after a committed save is the written one. -/
theorem committedSave_cache :
    (em.committedSave writes).memory.cache = (em.write writes).memory.cache :=
  Memory.commit_cache _

end Committed

/-- A reliable flash stays reliable. -/
theorem committedSave_reliable {em : EepromManager} (h : em.memory.Reliable)
    (writes : List (ℕ × UInt8)) : (em.committedSave writes).memory.Reliable :=
  (h.writeAll _).commit

/-- On a reliable flash a committed save is stored. -/
theorem committedSave_backing {em : EepromManager} (h : em.memory.Reliable)
    (writes : List (ℕ × UInt8)) :
    (em.committedSave writes).memory.backing = (em.write writes).memory.cache :=
  (h.writeAll (EepromManager.inRange writes)).commit_backing

/-- After a committed save on a reliable flash nothing is left to lose. -/
theorem committedSave_synced {em : EepromManager} (h : em.memory.Reliable)
    (writes : List (ℕ × UInt8)) : (em.committedSave writes).memory.Synced := by
  rw [Memory.Synced, committedSave_cache, committedSave_backing h]

/-! ## Initialisation -/

/-- Whether a write is in range does not depend on the others. -/
theorem inRange_append (xs ys : List (ℕ × UInt8)) :
    EepromManager.inRange (xs ++ ys) = EepromManager.inRange xs ++ EepromManager.inRange ys :=
  List.filterMap_append

/-- Two lists of writes in a row are their concatenation. -/
theorem write_write (em : EepromManager) (xs ys : List (ℕ × UInt8)) :
    (em.write xs).write ys = em.write (xs ++ ys) := by
  simp only [EepromManager.write, inRange_append, Memory.writeAll_append]

/-- No writes change nothing. -/
theorem write_nil (em : EepromManager) : em.write [] = em := rfl

/-- The bytes that the validation repairs.
SOURCE: EEPROM_Manager.cpp:126-132 -/
def validationWrites (em : EepromManager) : List (ℕ × UInt8) :=
  (if em.read EepromAddresses.rebootReason = 0x00 then [(EepromAddresses.rebootReason, 0xFF)]
    else []) ++
  if 10 < em.read EepromAddresses.rebootCount then [(EepromAddresses.rebootCount, 0)] else []

/-- Validating the watchdog bytes is a committed save.
SOURCE: EEPROM_Manager.cpp:126-133 -/
theorem validateRebootBytes_writes (em : EepromManager) :
    em.validateRebootBytes = em.committedSave (validationWrites em) := by
  unfold EepromManager.validateRebootBytes validationWrites
  by_cases hreason : em.read EepromAddresses.rebootReason = 0x00
  · have hcount : (em.write [(EepromAddresses.rebootReason, 0xFF)]).read
        EepromAddresses.rebootCount = em.read EepromAddresses.rebootCount := by
      apply readByte_write_of_notMem em
      intro w hw
      rw [List.mem_singleton.mp hw]
      decide
    simp only [if_pos hreason, hcount]
    split
    · rw [write_write]
      rfl
    · rfl
  · simp only [if_neg hreason]
    split
    · rfl
    · rfl

/-- The validation is one committed save of watchdog bytes. -/
theorem validateRebootBytes_eq (em : EepromManager) :
    ∃ writes, Avoids writes ∧ em.validateRebootBytes = em.committedSave writes := by
  have hnil : Avoids [] := by
    intro w hw
    cases hw
  refine ⟨validationWrites em, Avoids.append ?_ ?_, validateRebootBytes_writes em⟩
  · split
    · exact avoids_singleton (by decide)
    · exact hnil
  · split
    · exact avoids_singleton (by decide)
    · exact hnil

/-- An image without a schema version, or with the current one. -/
def CurrentSchema (image : EepromImage) : Prop :=
  (bootBytes image).schemaVersion = 0xFF ∨
    (bootBytes image).schemaVersion = EepromSizes.currentSchemaVersion

/-- What a stage of `init()` leaves, whatever the schema version it finds. -/
structure Migrated (em em' : EepromManager) : Prop where
  version : (bootBytes em'.memory.cache).schemaVersion = EepromSizes.currentSchemaVersion
  reliable : em'.memory.Reliable
  isInitialized : em'.isInitialized = em.isInitialized
  isDevMode : em'.isDevMode = em.isDevMode
  dirty : em'.dirty = em.dirty

/-- The last write of every migration. -/
def writeVersion (em : EepromManager) : EepromManager :=
  em.committedSave [(EepromAddresses.schemaVersion, EepromSizes.currentSchemaVersion)]

/-- Writing the version keeps the other two bytes.
SOURCE: EEPROM_Manager.cpp:49-50, 111-112 -/
theorem bootBytes_writeVersion (em : EepromManager) :
    bootBytes (writeVersion em).memory.cache =
      { bootBytes em.memory.cache with schemaVersion := EepromSizes.currentSchemaVersion } := by
  have hother : ∀ address, address ≠ EepromAddresses.schemaVersion →
      EepromManager.readByte (em.write [(EepromAddresses.schemaVersion,
        EepromSizes.currentSchemaVersion)]).memory.cache address =
          EepromManager.readByte em.memory.cache address := by
    intro address hne
    apply readByte_write_of_notMem em
    intro w hw heq
    apply hne
    rw [← heq, List.mem_singleton.mp hw]
  have hdev := hother EepromAddresses.devFlag (by decide)
  have htype := hother EepromAddresses.adapterType (by decide)
  have hversion := readByte_write_singleton em EepromSizes.currentSchemaVersion
    (by decide : EepromAddresses.schemaVersion < EepromSizes.totalSize)
  simp only [bootBytes, writeVersion, committedSave_cache, hdev, htype, hversion]

/-- Writing the version on a reliable flash ends a migration. -/
theorem writeVersion_migrated {em em' : EepromManager} (hreliable : em'.memory.Reliable)
    (hinit : em'.isInitialized = em.isInitialized) (hdev : em'.isDevMode = em.isDevMode)
    (hdirty : em'.dirty = em.dirty) : Migrated em (writeVersion em') where
  version := by rw [bootBytes_writeVersion]
  reliable := committedSave_reliable hreliable _
  isInitialized := hinit
  isDevMode := hdev
  dirty := hdirty

/-- A wipe is a committed save of `0xFF` everywhere.
SOURCE: EEPROM_Manager.cpp:571-580 -/
theorem clearAll_eq {em : EepromManager} (hinit : em.isInitialized = true) :
    em.clearAll =
      em.committedSave (EepromManager.bytesAt 0 (List.replicate EepromSizes.totalSize 0xFF)) := by
  rw [EepromManager.clearAll, EepromManager.onceInitialized, hinit]
  rfl

/-- The writes of one migration step change the RAM image and nothing else.
SOURCE: EEPROM_Manager.cpp:58-109 -/
theorem migrateV1_eq (em : EepromManager) : ∃ writes, em.migrateV1 = em.write writes := by
  simp only [EepromManager.migrateV1, write_write]
  exact ⟨_, rfl⟩

section Migration

variable {em : EepromManager}

/-- The stored version is current, blank or older, or newer.
SOURCE: EEPROM_Manager.cpp:44-124 -/
theorem version_cases (em : EepromManager) :
    em.read EepromAddresses.schemaVersion = EepromSizes.currentSchemaVersion ∨
    (em.read EepromAddresses.schemaVersion = 0xFF ∨
      em.read EepromAddresses.schemaVersion < EepromSizes.currentSchemaVersion) ∨
    em.read EepromAddresses.schemaVersion ≠ 0xFF ∧
      EepromSizes.currentSchemaVersion < em.read EepromAddresses.schemaVersion := by
  rw [← UInt8.toNat_inj, UInt8.lt_iff_toNat_lt, UInt8.lt_iff_toNat_lt]
  by_cases hblank : em.read EepromAddresses.schemaVersion = 0xFF
  · exact .inr (.inl (.inl hblank))
  · have htotal := Nat.lt_trichotomy (em.read EepromAddresses.schemaVersion).toNat
      EepromSizes.currentSchemaVersion.toNat
    tauto

/-- A current schema is not migrated.
SOURCE: EEPROM_Manager.cpp:44-124 -/
theorem migrate_current
    (hversion : em.read EepromAddresses.schemaVersion = EepromSizes.currentSchemaVersion) :
    em.migrate = em := by
  have hnotBlank : (EepromSizes.currentSchemaVersion : UInt8) ≠ 0xFF := by decide
  have hnotLess : ¬EepromSizes.currentSchemaVersion < EepromSizes.currentSchemaVersion :=
    UInt8.lt_irrefl _
  simp only [EepromManager.migrate, hversion, if_neg hnotBlank, if_neg hnotLess]

/-- The secondary master slot that version 3 adds.
SOURCE: EEPROM_Manager.cpp:104-109 -/
def secondarySlot : List (ℕ × UInt8) :=
  EepromManager.bytesAt EepromAddresses.knownMasterMacSecondary (List.replicate 6 0xFF)

/-- A blank EEPROM is given a version.
SOURCE: EEPROM_Manager.cpp:46-51 -/
theorem migrate_blank (hblank : em.read EepromAddresses.schemaVersion = 0xFF) :
    em.migrate = writeVersion em := by
  simp only [EepromManager.migrate, hblank, if_true]
  rfl

/-- A migration up is one committed save with the version last. -/
theorem migrate_older
    (hversion : em.read EepromAddresses.schemaVersion = 0xFF ∨
      em.read EepromAddresses.schemaVersion < EepromSizes.currentSchemaVersion) :
    ∃ writes, em.migrate = writeVersion (em.write writes) ∧
      (em.read EepromAddresses.schemaVersion ≠ 0 → writes = [] ∨ writes = secondarySlot) ∧
      (em.read EepromAddresses.schemaVersion = 0 →
        em.write writes = em.migrateV1.write secondarySlot) := by
  rcases hversion with hblank | hless
  · refine ⟨[], ?_, fun _ => .inl rfl, fun hzero => ?_⟩
    · rw [migrate_blank hblank, write_nil]
    · rw [hblank] at hzero
      exact absurd hzero (by decide)
  · have hnotBlank : em.read EepromAddresses.schemaVersion ≠ 0xFF := by
      intro hblank
      rw [hblank] at hless
      exact absurd hless (by decide)
    have hatMost : em.read EepromAddresses.schemaVersion ≤ 2 := by
      rw [UInt8.lt_iff_toNat_lt] at hless
      rw [UInt8.le_iff_toNat_le]
      exact Nat.le_of_lt_succ hless
    unfold EepromManager.migrate
    simp only [if_neg hnotBlank, if_pos hless, if_pos hatMost]
    by_cases hzero : em.read EepromAddresses.schemaVersion = 0
    · obtain ⟨writes, hwrites⟩ := migrateV1_eq em
      refine ⟨writes ++ secondarySlot, ?_, fun hnonzero => absurd hzero hnonzero, fun _ => ?_⟩
      · rw [if_pos hzero, hwrites, write_write]
        rfl
      · rw [hwrites, write_write]
    · refine ⟨secondarySlot, ?_, fun _ => .inr rfl, fun h => absurd h hzero⟩
      rw [if_neg hzero]
      rfl

/-- A migration down wipes everything first. -/
theorem migrate_newer (hinit : em.isInitialized = true)
    (hblank : em.read EepromAddresses.schemaVersion ≠ 0xFF)
    (hversion : EepromSizes.currentSchemaVersion < em.read EepromAddresses.schemaVersion) :
    em.migrate = writeVersion (em.committedSave
      (EepromManager.bytesAt 0 (List.replicate EepromSizes.totalSize 0xFF))) := by
  have hnotLess : ¬em.read EepromAddresses.schemaVersion < EepromSizes.currentSchemaVersion :=
    UInt8.not_lt.mpr (UInt8.le_of_lt hversion)
  unfold EepromManager.migrate
  simp only [if_neg hblank, if_neg hnotLess, if_pos hversion]
  rw [clearAll_eq hinit]
  rfl

/-- Every stored version is migrated to the current one.
SOURCE: EEPROM_Manager.cpp:44-124 -/
theorem migrate_migrated (hinit : em.isInitialized = true) (hreliable : em.memory.Reliable) :
    Migrated em em.migrate := by
  rcases version_cases em with hcurrent | holder | ⟨hblank, hnewer⟩
  · rw [migrate_current hcurrent]
    exact ⟨hcurrent, hreliable, rfl, rfl, rfl⟩
  · obtain ⟨writes, hmigrate, -, -⟩ := migrate_older holder
    rw [hmigrate]
    exact writeVersion_migrated (hreliable.writeAll _) rfl rfl rfl
  · rw [migrate_newer hinit hblank hnewer]
    exact writeVersion_migrated (committedSave_reliable hreliable _)
      (committedSave_isInitialized _ _) (committedSave_isDevMode _ _) (committedSave_dirty _ _)

/-- The migration of a current image at most writes the version.
SOURCE: EEPROM_Manager.cpp:44-51 -/
theorem bootBytes_migrate (hversion : CurrentSchema em.memory.cache) :
    bootBytes em.migrate.memory.cache =
      { bootBytes em.memory.cache with schemaVersion := EepromSizes.currentSchemaVersion } := by
  rcases hversion with hblank | hcurrent
  · rw [migrate_blank hblank, bootBytes_writeVersion]
  · rw [migrate_current hcurrent, ← hcurrent]

end Migration

/-- What `init()` leaves. -/
structure InitializedFrom (em em' : EepromManager) : Prop where
  version : (bootBytes em'.memory.cache).schemaVersion = EepromSizes.currentSchemaVersion
  bytes : CurrentSchema em.memory.cache → bootBytes em'.memory.cache =
    { bootBytes em.memory.cache with schemaVersion := EepromSizes.currentSchemaVersion }
  synced : em'.memory.Synced
  reliable : em'.memory.Reliable
  isInitialized : em'.isInitialized = true
  isDevMode : em'.isDevMode = em.isDevMode
  dirty : em'.dirty = em.dirty

/-- What `init()` makes of a manager that is not initialised.
SOURCE: EEPROM_Manager.cpp:36-137 -/
theorem init_initializedFrom {em : EepromManager} (hreliable : em.memory.Reliable)
    (hnew : em.isInitialized = false) : InitializedFrom em em.init := by
  have hmigrated : Migrated { em with isInitialized := true }
      (EepromManager.migrate { em with isInitialized := true }) := migrate_migrated rfl hreliable
  obtain ⟨writes, havoids, hvalidate⟩ :=
    validateRebootBytes_eq (EepromManager.migrate { em with isInitialized := true })
  have heq : em.init =
      (EepromManager.migrate { em with isInitialized := true }).committedSave writes := by
    rw [EepromManager.init, if_neg (by simp [hnew]), hvalidate]
  have hbytes : bootBytes em.init.memory.cache =
      bootBytes (EepromManager.migrate { em with isInitialized := true }).memory.cache := by
    rw [heq, committedSave_cache]
    exact havoids.bootBytes _
  refine ⟨?_, fun hversion => ?_, ?_, ?_, ?_, ?_, ?_⟩
  · rw [hbytes]
    exact hmigrated.version
  · rw [hbytes]
    exact @bootBytes_migrate { em with isInitialized := true } hversion
  · rw [heq]
    exact committedSave_synced hmigrated.reliable writes
  · rw [heq]
    exact committedSave_reliable hmigrated.reliable writes
  · rw [heq]
    exact hmigrated.isInitialized
  · rw [heq]
    exact hmigrated.isDevMode
  · rw [heq]
    exact hmigrated.dirty

/-! ## The first half of `setup()` -/

/-- The two saves behind `init()`; the reset decides the count only.
SOURCE: main.ino:97-110 -/
theorem countReset_eq (em : EepromManager) (reason : ResetReason) :
    ∃ count, Setup.countReset em reason =
      (em.init.saveRebootReason reason.toByte).saveRebootCount count := by
  unfold Setup.countReset
  simp only
  split
  · exact ⟨_, rfl⟩
  · exact ⟨_, rfl⟩

/-- `countReset` saves watchdog bytes after `init()`. -/
theorem countReset_sameBoot (em : EepromManager) (reason : ResetReason) :
    SameBoot em.init (Setup.countReset em reason) := by
  have hreason : SameBoot em.init (em.init.saveRebootReason reason.toByte) :=
    unlessDevMode_sameBoot _ (deferredSave_sameBoot _ (avoids_singleton (by decide)))
  have hcount : ∀ (em : EepromManager) (count : UInt8), SameBoot em (em.saveRebootCount count) :=
    fun em count =>
      unlessDevMode_sameBoot _ (deferredSave_sameBoot _ (avoids_singleton (by decide)))
  obtain ⟨count, heq⟩ := countReset_eq em reason
  rw [heq]
  exact hreason.trans (hcount _ count)

/-- An initialised manager never loads the unset marker, so no default is ever stored.
SOURCE: EEPROM_Manager.cpp:340-350, AdapterFactory.cpp:78-89 -/
theorem initializeDefaultsIfUnset_eq {em : EepromManager} (hinit : em.isInitialized = true) :
    AdapterFactory.initializeDefaultsIfUnset false em = em := by
  have hset : em.loadAdapterType ≠ 0xFF := by
    rw [EepromManager.loadAdapterType, hinit, if_neg (by simp)]
    split
    · decide
    · next hne => simpa using hne
  simp [AdapterFactory.initializeDefaultsIfUnset, hset]

/-- A save of peers keeps the boot bytes.
SOURCE: EEPROM_Manager.cpp:290-314 -/
theorem savePeerList_sameBoot (em : EepromManager) (peerRecords : ℕ → UInt8) (numPeers : ℕ) :
    SameBoot em (em.savePeerList peerRecords numPeers) := by
  unfold EepromManager.savePeerList
  split
  · exact SameBoot.refl em
  · next hle =>
    refine unlessDevMode_sameBoot _ (deferredSave_sameBoot _ (Avoids.append ?_ ?_))
    · refine avoids_bytesAt (.inl ?_)
      rw [List.length_replicate]
      decide
    · refine avoids_bytesAt (.inl ?_)
      simp only [Config.maxPeers] at hle
      simp only [EepromAddresses.adapterType, EepromAddresses.peerList,
        EepromAddresses.schemaVersion, EepromSizes.peerRecordSize, List.length_map,
        List.length_range]
      omega

/-- An erased development flag is none.
SOURCE: EEPROM_Manager.cpp:213-221 -/
theorem loadDevFlag_eq_false {em : EepromManager}
    (hflag : (bootBytes em.memory.cache).devFlag = 0xFF) : em.loadDevFlag = false := by
  have hread : em.read EepromAddresses.devFlag = 0xFF := hflag
  rw [EepromManager.loadDevFlag, hread]
  exact Bool.and_false _

/-- In production mode the defaults are the peer list at most.
SOURCE: main.ino:172-197 -/
theorem storeDefaults_cases {em : EepromManager} (hinit : em.isInitialized = true)
    (hprod : em.isDevMode = false) (hload : em.loadDevFlag = false) (behind : ℕ → UInt8) :
    Setup.storeDefaults em behind =
        em.savePeerList (Setup.defaultPeerList behind) Config.defaultPeers.length ∨
      Setup.storeDefaults em behind = em := by
  have hset : em.setDevMode false = em := by
    rw [EepromManager.setDevMode, ← hprod]
  simp only [Setup.storeDefaults, Config.devMode, hload, Bool.or_false, Bool.not_false,
    Bool.true_and, hset, if_true]
  split
  · have hpeers :=
      savePeerList_sameBoot em (Setup.defaultPeerList behind) Config.defaultPeers.length
    exact .inl (initializeDefaultsIfUnset_eq (hpeers.isInitialized.trans hinit))
  · exact .inr (initializeDefaultsIfUnset_eq hinit)

/-- The defaults leave a boot's bytes alone. -/
theorem storeDefaults_sameBoot {em : EepromManager} (hinit : em.isInitialized = true)
    (hprod : em.isDevMode = false) (hload : em.loadDevFlag = false) (behind : ℕ → UInt8) :
    SameBoot em (Setup.storeDefaults em behind) := by
  rcases storeDefaults_cases hinit hprod hload behind with heq | heq
  · rw [heq]
    exact savePeerList_sameBoot em _ _
  · rw [heq]
    exact SameBoot.refl em

/-- The mode of a boot is what the stored flag says.
SOURCE: main.ino:173-183 -/
theorem storeDefaults_isDevMode {em : EepromManager} (behind : ℕ → UInt8)
    (h : (Setup.storeDefaults em behind).isDevMode = false) : em.loadDevFlag = false := by
  by_contra hload
  rw [Bool.not_eq_false] at hload
  simp [Setup.storeDefaults, EepromManager.setDevMode, hload] at h

/-- A boot that gets as far as the adapter creates it over the defaults.
SOURCE: main.ino:81-210 -/
theorem untilAdapter_created {em em' : EepromManager} {reason : ResetReason} {behind : ℕ → UInt8}
    {created : Except Failure Adapter}
    (h : Setup.untilAdapter em reason behind = .created created em') :
    em' = Setup.storeDefaults (Setup.countReset em reason) behind ∧
      created = Setup.createBootAdapter em' := by
  unfold Setup.untilAdapter at h
  simp only at h
  split at h
  · cases h
  · split at h
    · cases h
    · cases h
      exact ⟨rfl, rfl⟩

end LatticeNodes.Analysis
