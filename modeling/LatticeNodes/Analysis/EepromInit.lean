import LatticeNodes.Analysis.EepromFrames

/-!
# `init()` over commits that may be refused

`init()` migrates the layout, with no commit, one or two of them, and commits the validation of
the watchdog bytes last.  `init_synced_iff` says when RAM and flash agree afterwards: a later
commit makes up for a refused one, so what counts is which are refused last, and whether the
validation had anything to repair.
-/

set_option autoImplicit false

namespace LatticeNodes.Analysis

open LatticeNodes.Program CachedMemory

/-! ## Statement -/

/-- The watchdog bytes pass the validation.
SOURCE: EEPROM_Manager.cpp:126-132 -/
def RebootBytesValid (em : EepromManager) : Prop :=
  em.read EepromAddresses.rebootReason ≠ 0x00 ∧ em.read EepromAddresses.rebootCount ≤ 10

/-- The commits that `init()` needs, for each kind of stored schema version.
SOURCE: EEPROM_Manager.cpp:44-133 -/
def InitStores (em : EepromManager) : Prop :=
  let storedVersion := em.read EepromAddresses.schemaVersion
  if storedVersion = EepromSizes.currentSchemaVersion then
    em.memory.Refuses 0 → RebootBytesValid em
  -- the migration from version 0 repairs the watchdog bytes itself
  else if storedVersion = 0 then em.memory.Refuses 1 → ¬em.memory.Refuses 0
  else if storedVersion = 0xFF ∨ storedVersion < EepromSizes.currentSchemaVersion then
    em.memory.Refuses 1 → ¬em.memory.Refuses 0 ∧ RebootBytesValid em
  -- a wiped count is above the limit, so the validation has a byte to write
  else ¬em.memory.Refuses 2

/-! ## Bytes that differ -/

/-- The byte at the address has yet to be committed. -/
def PendingAt (em : EepromManager) (address : ℕ) : Prop :=
  EepromManager.readByte em.memory.cache address ≠
    EepromManager.readByte em.memory.backing address

section Pending

variable {em : EepromManager} {address : ℕ}

/-- A cell that waits to be stored is one that would be lost. -/
theorem PendingAt.not_synced (h : PendingAt em address) : ¬em.memory.Synced := by
  intro hsynced
  apply h
  rw [hsynced]

/-- A save whose commit is refused stores nothing. -/
theorem committedSave_backing_of_refuses (hrefused : em.memory.Refuses 0)
    (writes : List (ℕ × UInt8)) :
    (em.committedSave writes).memory.backing = em.memory.backing := by
  have hrefused' : (em.write writes).memory.Refuses 0 :=
    (Memory.refuses_writeAll (EepromManager.inRange writes)).mpr hrefused
  rw [EepromManager.committedSave, EepromManager.commit,
    Memory.commit_backing_of_refuses hrefused', EepromManager.write, Memory.writeAll_backing]

/-- A save whose commit is not refused stores the cache. -/
theorem committedSave_backing_of_not_refuses (h : ¬em.memory.Refuses 0)
    (writes : List (ℕ × UInt8)) :
    (em.committedSave writes).memory.backing = (em.write writes).memory.cache := by
  have h' : ¬(em.write writes).memory.Refuses 0 :=
    fun hrefused => h ((Memory.refuses_writeAll (EepromManager.inRange writes)).mp hrefused)
  rw [EepromManager.committedSave, EepromManager.commit, Memory.commit_backing_of_not_refuses h']

/-- A refused commit of another value leaves the byte pending. -/
theorem pendingAt_committedSave (hrefused : em.memory.Refuses 0) {writes : List (ℕ × UInt8)}
    (hnew : EepromManager.readByte (em.write writes).memory.cache address ≠
      EepromManager.readByte em.memory.backing address) :
    PendingAt (em.committedSave writes) address := by
  rw [PendingAt, committedSave_cache, committedSave_backing_of_refuses hrefused]
  exact hnew

/-- A refused commit of other bytes leaves the byte pending. -/
theorem PendingAt.committedSave (h : PendingAt em address) (hrefused : em.memory.Refuses 0)
    {writes : List (ℕ × UInt8)} (hother : ∀ w ∈ writes, w.1 ≠ address) :
    PendingAt (em.committedSave writes) address := by
  apply pendingAt_committedSave hrefused
  rw [readByte_write_of_notMem em hother]
  exact h

/-- Nothing is left to lose unless the commit was refused. -/
theorem committedSave_synced_iff {writes : List (ℕ × UInt8)} :
    (em.committedSave writes).memory.Synced ↔
      (em.memory.Refuses 0 → (em.write writes).memory.Synced) := by
  rw [EepromManager.committedSave, EepromManager.commit, Memory.commit_synced_iff,
    EepromManager.write, Memory.refuses_writeAll]

/-- A committed save takes one answer of the flash. -/
theorem committedSave_refuses {writes : List (ℕ × UInt8)} {n : ℕ} :
    (em.committedSave writes).memory.Refuses n ↔ em.memory.Refuses (n + 1) := by
  rw [EepromManager.committedSave, EepromManager.commit, Memory.refuses_commit,
    EepromManager.write, Memory.refuses_writeAll]

end Pending

/-! ## The validation -/

section Validation

variable {em : EepromManager}

/-- The validation stores everything that waited.
SOURCE: EEPROM_Manager.cpp:126-133 -/
theorem validateRebootBytes_synced (h : ¬em.memory.Refuses 0) :
    em.validateRebootBytes.memory.Synced := by
  rw [validateRebootBytes_writes, committedSave_synced_iff]
  exact fun hrefused => absurd hrefused h

/-- A reason of zero is erased.
SOURCE: EEPROM_Manager.cpp:126-133 -/
theorem validated_reason (hreason : em.read EepromAddresses.rebootReason = 0x00) :
    EepromManager.readByte (em.write (validationWrites em)).memory.cache
      EepromAddresses.rebootReason = 0xFF := by
  rw [validationWrites, if_pos hreason, ← write_write, readByte_write_of_notMem]
  · exact readByte_write_singleton em 0xFF (by decide)
  · intro w hw
    split at hw
    · rw [List.mem_singleton.mp hw]
      decide
    · cases hw

/-- A count above ten is set to zero.
SOURCE: EEPROM_Manager.cpp:126-133 -/
theorem validated_count (hcount : 10 < em.read EepromAddresses.rebootCount) :
    EepromManager.readByte (em.write (validationWrites em)).memory.cache
      EepromAddresses.rebootCount = 0 := by
  rw [validationWrites, if_pos hcount, ← write_write]
  exact readByte_write_singleton _ 0 (by decide)

/-- A refused validation leaves bytes pending only if it had something to repair. -/
theorem validateRebootBytes_synced_iff (hsynced : em.memory.Synced) :
    em.validateRebootBytes.memory.Synced ↔ (em.memory.Refuses 0 → RebootBytesValid em) := by
  rw [validateRebootBytes_writes, committedSave_synced_iff]
  constructor
  · intro hafter hrefused
    have hsame : ∀ address, EepromManager.readByte (em.write (validationWrites em)).memory.cache
        address = em.read address := by
      intro address
      rw [hafter hrefused, EepromManager.write, Memory.writeAll_backing, ← hsynced]
      rfl
    refine ⟨fun hreason => ?_, UInt8.not_lt.mp fun hcount => ?_⟩
    · have hrepaired := (hsame _).symm.trans (validated_reason hreason)
      rw [hreason] at hrepaired
      exact absurd hrepaired (by decide)
    · have hrepaired := (hsame _).symm.trans (validated_count hcount)
      rw [hrepaired] at hcount
      exact absurd hcount (by decide)
  · intro hvalid hrefused
    obtain ⟨hreason, hcount⟩ := hvalid hrefused
    have hnone : validationWrites em = [] := by
      rw [validationWrites, if_neg hreason, if_neg (UInt8.not_lt.mpr hcount)]
      rfl
    rw [hnone]
    exact hsynced

/-- The validation after a stage that commits a new schema version last. -/
theorem validate_committedSave_synced_iff {writes : List (ℕ × UInt8)}
    (hpending : em.memory.Refuses 0 →
      PendingAt (em.committedSave writes) EepromAddresses.schemaVersion) :
    (em.committedSave writes).validateRebootBytes.memory.Synced ↔
      (em.memory.Refuses 1 → ¬em.memory.Refuses 0 ∧
        RebootBytesValid (em.committedSave writes)) := by
  by_cases hsecond : em.memory.Refuses 1
  · have hrefused : (em.committedSave writes).memory.Refuses 0 := committedSave_refuses.mpr hsecond
    by_cases hfirst : em.memory.Refuses 0
    · obtain ⟨validation, havoids, hvalidate⟩ :=
        validateRebootBytes_eq (em.committedSave writes)
      have hstill := (hpending hfirst).committedSave hrefused fun w hw => (havoids w hw).2.2
      rw [hvalidate]
      simp [hstill.not_synced, hsecond, hfirst]
    · have hsynced : (em.committedSave writes).memory.Synced :=
        committedSave_synced_iff.mpr fun h => absurd h hfirst
      rw [validateRebootBytes_synced_iff hsynced]
      simp [hrefused, hsecond, hfirst]
  · have hsynced : (em.committedSave writes).validateRebootBytes.memory.Synced :=
      validateRebootBytes_synced fun h => hsecond (committedSave_refuses.mp h)
    simp [hsynced, hsecond]

end Validation

/-! ## The migrations -/

section Migration

variable {em : EepromManager}

/-- Writes that leave the watchdog bytes alone. -/
def SparesReboot (writes : List (ℕ × UInt8)) : Prop :=
  ∀ w ∈ writes, w.1 ≠ EepromAddresses.rebootReason ∧ w.1 ≠ EepromAddresses.rebootCount

/-- Writes elsewhere leave the watchdog bytes valid or not. -/
theorem SparesReboot.valid_write {writes : List (ℕ × UInt8)} (h : SparesReboot writes) :
    RebootBytesValid (em.write writes) ↔ RebootBytesValid em := by
  have hreason := readByte_write_of_notMem em fun w hw => (h w hw).1
  have hcount := readByte_write_of_notMem em fun w hw => (h w hw).2
  simp only [RebootBytesValid, EepromManager.read, hreason, hcount]

/-- A block that does not reach them spares them. -/
theorem sparesReboot_replicate {address n : ℕ} {v : UInt8}
    (h : address + n ≤ EepromAddresses.rebootReason ∨ EepromAddresses.rebootCount < address) :
    SparesReboot (EepromManager.bytesAt address (List.replicate n v)) := by
  intro w hw
  obtain ⟨hlo, hhi, -⟩ := mem_bytesAt hw
  rw [List.length_replicate] at hhi
  simp only [EepromAddresses.rebootReason, EepromAddresses.rebootCount] at h ⊢
  omega

/-- Writes above the watchdog bytes spare them. -/
theorem sparesReboot_above {writes : List (ℕ × UInt8)}
    (h : ∀ w ∈ writes, EepromAddresses.rebootCount < w.1) : SparesReboot writes := by
  intro w hw
  have hlow := h w hw
  simp only [EepromAddresses.rebootReason, EepromAddresses.rebootCount] at hlow ⊢
  omega

/-- Valid bytes that are written are valid. -/
theorem valid_write_reboot {reason count : UInt8} (hreason : reason ≠ 0x00) (hcount : count ≤ 10) :
    RebootBytesValid (em.write [(EepromAddresses.rebootReason, reason),
      (EepromAddresses.rebootCount, count)]) := by
  have hsplit : em.write [(EepromAddresses.rebootReason, reason),
      (EepromAddresses.rebootCount, count)] =
      (em.write [(EepromAddresses.rebootReason, reason)]).write
        [(EepromAddresses.rebootCount, count)] := by
    rw [write_write]
    rfl
  rw [hsplit]
  refine ⟨?_, ?_⟩
  · rw [EepromManager.read, readByte_write_of_notMem, readByte_write_singleton _ _ (by decide)]
    · exact hreason
    · intro w hw
      rw [List.mem_singleton.mp hw]
      exact (by decide : EepromAddresses.rebootCount ≠ EepromAddresses.rebootReason)
  · rw [EepromManager.read, readByte_write_singleton _ _ (by decide)]
    exact hcount

/-- The first migration copies the watchdog bytes and repairs them.
SOURCE: EEPROM_Manager.cpp:67-71 -/
theorem valid_migrateV1 (em : EepromManager) : RebootBytesValid em.migrateV1 := by
  unfold EepromManager.migrateV1
  simp only
  rw [SparesReboot.valid_write, SparesReboot.valid_write, SparesReboot.valid_write,
    SparesReboot.valid_write]
  · apply valid_write_reboot
    · split
      · decide
      · assumption
    · split
      · decide
      · next hcount => exact UInt8.not_lt.mp hcount
  · apply sparesReboot_above
    intro w hw
    obtain ⟨i, -, hw⟩ := List.mem_flatMap.mp hw
    simp only [List.mem_cons, List.not_mem_nil, or_false] at hw
    simp only [EepromAddresses.rebootCount]
    rcases hw with rfl | rfl
    · simp only [EepromAddresses.privateKey]
      omega
    · simp only [EepromAddresses.publicKey]
      omega
  · apply sparesReboot_above
    intro w hw
    simp only [List.mem_cons, List.not_mem_nil, or_false] at hw
    rcases hw with rfl | rfl | rfl
    · exact (by decide : EepromAddresses.rebootCount < EepromAddresses.keypairCrc)
    · exact (by decide : EepromAddresses.rebootCount < EepromAddresses.keypairCrc + 1)
    · exact (by decide : EepromAddresses.rebootCount < EepromAddresses.enrolledFlag)
  · exact sparesReboot_replicate (.inl (by decide))
  · exact sparesReboot_replicate (.inl (by decide))

/-- Clearing the secondary slot spares them.
SOURCE: EEPROM_Manager.cpp:58-101 -/
theorem sparesReboot_secondarySlot : SparesReboot secondarySlot :=
  sparesReboot_replicate (.inr (by decide))

/-- Writing the version spares the watchdog bytes. -/
theorem sparesReboot_version {v : UInt8} : SparesReboot [(EepromAddresses.schemaVersion, v)] := by
  apply sparesReboot_above
  intro w hw
  rw [List.mem_singleton.mp hw]
  exact (by decide : EepromAddresses.rebootCount < EepromAddresses.schemaVersion)

end Migration

/-! ## The whole of `init()` -/

section Init

variable {em : EepromManager}

/-- Writes and a committed save are one committed save. -/
theorem committedSave_write (em : EepromManager) (xs ys : List (ℕ × UInt8)) :
    (em.write xs).committedSave ys = em.committedSave (xs ++ ys) := by
  rw [EepromManager.committedSave, write_write, EepromManager.committedSave]

/-- A commit changes no byte. -/
theorem valid_committedSave {writes : List (ℕ × UInt8)} :
    RebootBytesValid (em.committedSave writes) ↔ RebootBytesValid (em.write writes) := by
  simp only [RebootBytesValid, EepromManager.read, committedSave_cache]

/-- A migration up to the current version, and the validation.
SOURCE: EEPROM_Manager.cpp:46-112 -/
theorem validate_migrate_older (hsynced : em.memory.Synced)
    (hversion : em.read EepromAddresses.schemaVersion = 0xFF ∨
      em.read EepromAddresses.schemaVersion < EepromSizes.currentSchemaVersion) :
    em.migrate.validateRebootBytes.memory.Synced ↔
      (em.memory.Refuses 1 → ¬em.memory.Refuses 0 ∧
        (em.read EepromAddresses.schemaVersion = 0 ∨ RebootBytesValid em)) := by
  obtain ⟨writes, hmigrate, hother, hfirst⟩ := migrate_older hversion
  rw [writeVersion, committedSave_write] at hmigrate
  have hold : em.read EepromAddresses.schemaVersion ≠ EepromSizes.currentSchemaVersion := by
    rintro hcurrent
    rw [hcurrent] at hversion
    exact absurd hversion (by decide)
  have hpending : em.memory.Refuses 0 → PendingAt (em.committedSave
      (writes ++ [(EepromAddresses.schemaVersion, EepromSizes.currentSchemaVersion)]))
        EepromAddresses.schemaVersion := by
    intro hrefused
    apply pendingAt_committedSave hrefused
    rw [← write_write, readByte_write_singleton _ _ (by decide), ← hsynced]
    exact hold.symm
  have hvalid : RebootBytesValid (em.committedSave
      (writes ++ [(EepromAddresses.schemaVersion, EepromSizes.currentSchemaVersion)])) ↔
        em.read EepromAddresses.schemaVersion = 0 ∨ RebootBytesValid em := by
    rw [valid_committedSave, ← write_write, sparesReboot_version.valid_write]
    by_cases hzero : em.read EepromAddresses.schemaVersion = 0
    · rw [hfirst hzero, sparesReboot_secondarySlot.valid_write]
      simp [hzero, valid_migrateV1]
    · rcases hother hzero with rfl | rfl
      · rw [write_nil]
        simp [hzero]
      · rw [sparesReboot_secondarySlot.valid_write]
        simp [hzero]
  rw [hmigrate, validate_committedSave_synced_iff hpending, hvalid]

/-- A wiped EEPROM, and the validation.
SOURCE: EEPROM_Manager.cpp:113-123 -/
theorem validate_migrate_newer (hinit : em.isInitialized = true) (hsynced : em.memory.Synced)
    (hblank : em.read EepromAddresses.schemaVersion ≠ 0xFF)
    (hversion : EepromSizes.currentSchemaVersion < em.read EepromAddresses.schemaVersion) :
    em.migrate.validateRebootBytes.memory.Synced ↔ ¬em.memory.Refuses 2 := by
  rw [migrate_newer hinit hblank hversion]
  generalize hwipes : EepromManager.bytesAt 0 (List.replicate EepromSizes.totalSize 0xFF) = wipes
  have hwiped : (em.write wipes).memory.cache = blankImage := by
    rw [← hwipes]
    exact clearAll_writes_blank em
  have hold : EepromManager.readByte (em.committedSave wipes).memory.backing
      EepromAddresses.schemaVersion ≠ EepromSizes.currentSchemaVersion := by
    by_cases hrefused : em.memory.Refuses 0
    · rw [committedSave_backing_of_refuses hrefused, ← hsynced]
      exact (UInt8.ne_of_lt hversion).symm
    · rw [committedSave_backing_of_not_refuses hrefused, hwiped]
      decide
  have hpending : (em.committedSave wipes).memory.Refuses 0 →
      PendingAt (writeVersion (em.committedSave wipes)) EepromAddresses.schemaVersion := by
    intro hrefused
    apply pendingAt_committedSave hrefused
    rw [readByte_write_singleton _ _ (by decide)]
    exact hold.symm
  have hinvalid : ¬RebootBytesValid (writeVersion (em.committedSave wipes)) := by
    rw [writeVersion, valid_committedSave, sparesReboot_version.valid_write]
    rintro ⟨-, hcount⟩
    rw [EepromManager.read, committedSave_cache, hwiped] at hcount
    exact absurd hcount (by decide)
  have hvalidated := validate_committedSave_synced_iff hpending
  rw [writeVersion] at hinvalid ⊢
  rw [hvalidated, committedSave_refuses]
  simp [hinvalid]

/-- **When RAM and flash agree after `init()`.**
SOURCE: EEPROM_Manager.cpp:36-137 -/
theorem init_synced_iff (hnew : em.isInitialized = false) (hsynced : em.memory.Synced) :
    em.init.memory.Synced ↔ InitStores em := by
  have hinit : em.init = (EepromManager.migrate
      { em with isInitialized := true }).validateRebootBytes := if_neg (by simp [hnew])
  rw [hinit, InitStores]
  split
  · next hcurrent =>
    have hmigrate : EepromManager.migrate { em with isInitialized := true } =
        { em with isInitialized := true } := migrate_current hcurrent
    rw [hmigrate]
    exact validateRebootBytes_synced_iff hsynced
  · next hother =>
    split
    · next hzero =>
      have hless : em.read EepromAddresses.schemaVersion < EepromSizes.currentSchemaVersion := by
        rw [hzero]
        decide
      have holder := @validate_migrate_older { em with isInitialized := true } hsynced (.inr hless)
      rw [holder]
      have hzero' : EepromManager.read { em with isInitialized := true }
        EepromAddresses.schemaVersion = 0 := hzero
      simp [hzero']
    · next hnonzero =>
      have hnonzero' : EepromManager.read { em with isInitialized := true }
        EepromAddresses.schemaVersion ≠ 0 := hnonzero
      split
      · next hversion =>
        have holder := @validate_migrate_older { em with isInitialized := true } hsynced hversion
        rw [holder]
        simp only [hnonzero', false_or]
        rfl
      · next hnotOlder =>
        obtain ⟨hblank, hnewer⟩ := ((version_cases em).resolve_left hother).resolve_left hnotOlder
        exact @validate_migrate_newer { em with isInitialized := true } rfl hsynced hblank hnewer

/-- No stage of `init()` touches the flags of the manager. -/
theorem migrate_flags (hinit : em.isInitialized = true) :
    em.migrate.isInitialized = true ∧ em.migrate.dirty = em.dirty := by
  rcases version_cases em with hcurrent | holder | ⟨hblank, hnewer⟩
  · rw [migrate_current hcurrent]
    exact ⟨hinit, rfl⟩
  · obtain ⟨writes, hmigrate, -, -⟩ := migrate_older holder
    rw [hmigrate]
    exact ⟨hinit, committedSave_dirty _ _⟩
  · rw [migrate_newer hinit hblank hnewer, writeVersion, committedSave_isInitialized,
      committedSave_dirty, committedSave_isInitialized, committedSave_dirty]
    exact ⟨hinit, rfl⟩

/-- After `init()` the manager is initialised, and as dirty as before.
SOURCE: EEPROM_Manager.cpp:36-137 -/
theorem init_flags (em : EepromManager) :
    em.init.isInitialized = true ∧ em.init.dirty = em.dirty := by
  unfold EepromManager.init
  split
  · next hinit => exact ⟨hinit, rfl⟩
  · obtain ⟨hinit, hdirty⟩ := @migrate_flags { em with isInitialized := true } rfl
    rw [validateRebootBytes_writes]
    exact ⟨hinit, hdirty⟩

end Init

end LatticeNodes.Analysis
