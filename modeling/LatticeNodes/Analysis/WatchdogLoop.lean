import LatticeNodes.Analysis.PendingWrites
import LatticeNodes.Analysis.SchemaMigration

/-!
# Watchdog boot loops

A node that the watchdog resets over and over.  Each boot counts the reset, and the fifth in a row
is to halt.  The count is a deferred save, and a boot that the watchdog started never comes to a
commit after it: `ErrorCore::init` takes the reset reason for a hardware error and restarts the
device (`untilAdapter_of_watchdog`).  So every boot of a loop finds the same count in flash:
`halts_iff`.  Only a commit would have taken it there: `countReset_durable_iff`.
-/

set_option autoImplicit false

namespace LatticeNodes.Analysis

open LatticeNodes.Program CachedMemory FieldStore

namespace WatchdogLoop

open EepromFields SchemaMigration

/-! ## Statement -/

/-- A boot that the watchdog started and that got past `saveRebootCount`.  `later` is what the rest
of `setup()` and `loop()` did to the EEPROM until the watchdog fired again. -/
structure Boot where
  reason : ResetReason
  watchdog : reason.isWatchdog = true
  behind : ℕ → UInt8
  later : List PendingWrites.Call

/-- The manager when the watchdog fires.  In a boot that halted, that is in the endless loop; in
one that restarts itself, before it comes to that.
SOURCE: main.ino:92-111, 127-130, ErrorCore.cpp:20-23 -/
def Boot.crash (em : EepromManager) (b : Boot) : EepromManager :=
  match Setup.untilAdapter em.reboot b.reason b.behind with
  | .halted em => em
  | .restarted em => em
  | .created _ em => PendingWrites.runCalls em b.later

def runBoots (em : EepromManager) (boots : List Boot) : EepromManager :=
  boots.foldl Boot.crash em

/-- The boot enters the halt branch, before any adapter is created.
SOURCE: main.ino:104-107 -/
def Halts (em : EepromManager) (b : Boot) : Prop :=
  ∃ em', Setup.untilAdapter em.reboot b.reason b.behind = .halted em'

/-- An image of the first layout whose own count, at its old address, is four or more.
SOURCE: EEPROM_Manager.cpp:72-75 -/
def CountsInV1 (flash : EepromImage) : Prop :=
  EepromManager.readByte flash EepromAddresses.schemaVersion = 0 ∧
    4 ≤ EepromManager.readByte flash EepromAddresses.v1RebootCount ∧
    EepromManager.readByte flash EepromAddresses.v1RebootCount ≤ 10

/-! ## One boot -/

/-- A restart over a reliable flash is a power-up. -/
theorem reboot_eq_powerUp {em : EepromManager} (h : em.memory.Reliable) :
    em.reboot = EepromManager.powerUp em.memory.backing := by
  have hfaults : em.memory.faults = [] := h
  rw [EepromManager.reboot, EepromManager.powerUp, Memory.powerCycle, hfaults, Memory.load]

/-- The count that `init()` finds in an image. -/
def storedCount (flash : EepromImage) : UInt8 :=
  (EepromManager.powerUp flash).init.read EepromAddresses.rebootCount

/-- The stored count is ten at most. -/
theorem storedCount_le (flash : EepromImage) : storedCount flash ≤ 10 := by
  rw [storedCount, read_init]
  exact validatedImage_count _

/-- After `init()` a manager that was powered up is a production node's. -/
theorem production_init (flash : EepromImage) : Production (EepromManager.powerUp flash).init :=
  ⟨(init_powerUp flash).isInitialized, (init_powerUp flash).isDevMode⟩

section Boots

variable {flash : EepromImage} {reason : ResetReason}

/-- The count is loaded from its byte.
SOURCE: EEPROM_Manager.cpp:366-370 -/
theorem loadRebootCount_eq {em : EepromManager} (h : em.isInitialized = true) :
    em.loadRebootCount = em.read EepromAddresses.rebootCount := by
  simp [EepromManager.loadRebootCount, h]

/-- The reason does not touch the count. -/
theorem read_reason (em : EepromManager) (reason : UInt8) :
    (em.deferredSave [(EepromAddresses.rebootReason, reason)]).read EepromAddresses.rebootCount =
      em.read EepromAddresses.rebootCount := by
  have hother : ∀ w ∈ [(EepromAddresses.rebootReason, reason)],
      w.1 ≠ EepromAddresses.rebootCount := by
    intro w hw
    rw [List.mem_singleton.mp hw]
    exact (by decide : EepromAddresses.rebootReason ≠ EepromAddresses.rebootCount)
  exact readByte_write_of_notMem em hother

/-- **The reset is counted by two deferred saves.**
SOURCE: main.ino:97-110 -/
theorem countReset_of_init {em em' : EepromManager} (hinit : em.init = em')
    (hproduction : Production em') (reason : ResetReason) :
    Setup.countReset em reason =
      (em'.deferredSave [(EepromAddresses.rebootReason, reason.toByte)]).deferredSave
        [(EepromAddresses.rebootCount,
          if reason.isWatchdog then em'.read EepromAddresses.rebootCount + 1 else 0)] := by
  have hreason : em'.saveRebootReason reason.toByte =
      em'.deferredSave [(EepromAddresses.rebootReason, reason.toByte)] :=
    unlessDevMode_open hproduction.isInitialized hproduction.isDevMode
  have hcount : ∀ count, (em'.deferredSave
      [(EepromAddresses.rebootReason, reason.toByte)]).saveRebootCount count =
        (em'.deferredSave [(EepromAddresses.rebootReason, reason.toByte)]).deferredSave
          [(EepromAddresses.rebootCount, count)] :=
    fun count => unlessDevMode_open hproduction.isInitialized hproduction.isDevMode
  have hload : (em'.deferredSave
      [(EepromAddresses.rebootReason, reason.toByte)]).loadRebootCount =
        em'.read EepromAddresses.rebootCount :=
    (loadRebootCount_eq hproduction.isInitialized).trans (read_reason _ reason.toByte)
  rw [Setup.countReset, hinit, hreason]
  simp only [hload, hcount]
  split
  · rfl
  · rfl

/-- A deferred save stays in RAM.
SOURCE: EEPROM_Manager.cpp:365-382 -/
theorem deferredSave_kept (em : EepromManager) (writes : List (ℕ × UInt8)) :
    (em.deferredSave writes).isInitialized = em.isInitialized ∧
      (em.deferredSave writes).memory.backing = em.memory.backing ∧
        (em.memory.Reliable → (em.deferredSave writes).memory.Reliable) :=
  ⟨rfl, Memory.writeAll_backing _ _, fun h => h.writeAll _⟩

/-- In flash there is only what `init()` has put there. -/
theorem countReset_flash (flash : EepromImage) (reason : ResetReason) :
    (Setup.countReset (EepromManager.powerUp flash) reason).isInitialized = true ∧
      (Setup.countReset (EepromManager.powerUp flash) reason).memory.backing =
        (EepromManager.powerUp flash).init.memory.backing ∧
      (Setup.countReset (EepromManager.powerUp flash) reason).memory.Reliable := by
  rw [countReset_of_init rfl (production_init flash) reason]
  obtain ⟨hinit, hbacking, hreliable⟩ := deferredSave_kept (EepromManager.powerUp flash).init
    [(EepromAddresses.rebootReason, reason.toByte)]
  obtain ⟨hinit', hbacking', hreliable'⟩ := deferredSave_kept
    ((EepromManager.powerUp flash).init.deferredSave
      [(EepromAddresses.rebootReason, reason.toByte)])
    [(EepromAddresses.rebootCount, if reason.isWatchdog then
      (EepromManager.powerUp flash).init.read EepromAddresses.rebootCount + 1 else 0)]
  exact ⟨hinit'.trans (hinit.trans (production_init flash).isInitialized),
    hbacking'.trans hbacking, hreliable' (hreliable (init_powerUp flash).reliable)⟩

/-- A watchdog reset is counted in RAM. -/
theorem countReset_count (h : reason.isWatchdog = true) :
    (Setup.countReset (EepromManager.powerUp flash) reason).loadRebootCount =
      storedCount flash + 1 := by
  rw [loadRebootCount_eq (countReset_flash flash reason).1,
    countReset_of_init rfl (production_init flash) reason, if_pos h]
  exact readByte_write_singleton _ _ (by decide)

/-- **A boot after a watchdog reset halts or restarts; it never comes to the adapter.**
SOURCE: main.ino:99-107, ErrorCore.cpp:20-23 -/
theorem untilAdapter_of_watchdog (h : reason.isWatchdog = true) (behind : ℕ → UInt8) :
    Setup.untilAdapter (EepromManager.powerUp flash) reason behind =
      if 5 ≤ storedCount flash + 1 then
        .halted (Setup.countReset (EepromManager.powerUp flash) reason)
      else .restarted (Setup.countReset (EepromManager.powerUp flash) reason) := by
  have hexpected : reason.isExpected = false := by
    cases reason with
    | intWdt => rfl
    | taskWdt => rfl
    | wdt => rfl
    | powerOn => cases h
    | ext => cases h
    | sw => cases h
    | other value => cases h
  simp only [Setup.untilAdapter, h, Bool.true_and, countReset_count h, decide_eq_true_eq,
    hexpected, Bool.not_false, if_true]

end Boots

/-! ## What a commit would keep

The count in a boot that goes on after it, as one does after any reset but the watchdog's. -/

/-- The operation commits the RAM image. -/
def Commits (em : EepromManager) : PendingWrites.Call → Prop
  | .save c => Accepts em c ∧ commitsAtOnce c = true
  | .flushIfDirty millis => em.dirty = true ∧ eepromFlushIntervalMs ≤ millis - em.lastFlushMs
  | .forceFlush _ => em.dirty = true
  | _ => False

/-- The operation is none of those that write the count. -/
def SparesCount : PendingWrites.Call → Prop
  | .save c => OnField c ∧ fieldStore.Spares c .rebootCount
  | _ => True

/-- A running manager with one count in RAM and another in flash. -/
structure Counted (em : EepromManager) (stored count : UInt8) : Prop where
  isInitialized : em.isInitialized = true
  reliable : em.memory.Reliable
  ram : em.read EepromAddresses.rebootCount = count
  flash : EepromManager.readByte em.memory.backing EepromAddresses.rebootCount = stored

section Commit

variable {em : EepromManager} {stored count : UInt8}

/-- A commit stores the count. -/
theorem Counted.commit (h : Counted em stored count) (millis : UInt32) :
    Counted { em.commit with dirty := false, lastFlushMs := millis } count count where
  isInitialized := h.isInitialized
  reliable := h.reliable.commit
  ram := (congrArg (EepromManager.readByte · _) (Memory.commit_cache em.memory)).trans h.ram
  flash := (congrArg (EepromManager.readByte · _) h.reliable.commit_backing).trans h.ram

/-- A save of another field keeps the count in RAM, and takes it to flash when it commits. -/
theorem Counted.save (h : Counted em stored count) {c : SaveCall} (haccepts : Accepts em c)
    (hfield : OnField c) (hspares : fieldStore.Spares c .rebootCount) :
    Counted (c.run em) (if commitsAtOnce c then count else stored) count := by
  have hram : (c.run em).read EepromAddresses.rebootCount = count := by
    rw [run_read_of_accepts haccepts hfield, ← h.ram]
    exact fieldStore.view_overwrite_of_spares em.read hspares
  have hrun := run_of_accepts haccepts
  rw [store] at hrun
  cases hcommits : commitsAtOnce c with
  | true =>
      rw [hcommits] at hrun
      refine ⟨?_, ?_, hram, ?_⟩
      · rw [hrun]
        exact h.isInitialized
      · rw [hrun]
        exact committedSave_reliable h.reliable (bytesOf c)
      · rw [if_pos rfl, ← hram, hrun, EepromManager.read, committedSave_cache,
          committedSave_backing h.reliable]
  | false =>
      rw [hcommits] at hrun
      refine ⟨?_, ?_, hram, ?_⟩
      · rw [hrun]
        exact h.isInitialized
      · rw [hrun]
        exact h.reliable.writeAll _
      · rw [if_neg Bool.false_ne_true, ← h.flash, hrun]
        exact congrArg (EepromManager.readByte · _) (Memory.writeAll_backing em.memory _)

/-- **One operation takes the count to flash exactly when it commits.** -/
theorem Counted.run (h : Counted em stored count) {c : PendingWrites.Call}
    (hspares : SparesCount c) :
    (Commits em c ∧ Counted (c.run em) count count) ∨
      (¬Commits em c ∧ Counted (c.run em) stored count) := by
  cases c with
  | init =>
      have hsame : em.init = em := if_pos h.isInitialized
      refine .inr ⟨id, ?_⟩
      rw [PendingWrites.Call.run, hsame]
      exact h
  | setDevMode devMode => exact .inr ⟨id, h.isInitialized, h.reliable, h.ram, h.flash⟩
  | save c =>
      by_cases haccepts : Accepts em c
      · have hsaved := h.save haccepts hspares.1 hspares.2
        cases hcommits : commitsAtOnce c with
        | true =>
            rw [if_pos hcommits] at hsaved
            exact .inl ⟨⟨haccepts, hcommits⟩, hsaved⟩
        | false =>
            rw [hcommits, if_neg Bool.false_ne_true] at hsaved
            refine .inr ⟨?_, hsaved⟩
            rintro ⟨-, hatOnce⟩
            rw [hcommits] at hatOnce
            cases hatOnce
      · refine .inr ⟨fun hcommits => haccepts hcommits.1, ?_⟩
        rw [PendingWrites.Call.run, run_of_not_accepts haccepts]
        exact h
  | flushIfDirty millis =>
      by_cases hflush : em.dirty = true ∧ eepromFlushIntervalMs ≤ millis - em.lastFlushMs
      · refine .inl ⟨hflush, ?_⟩
        rw [PendingWrites.Call.run, PendingWrites.flushIfDirty_due hflush.1 hflush.2]
        exact h.commit millis
      · refine .inr ⟨hflush, ?_⟩
        rw [PendingWrites.Call.run, PendingWrites.flushIfDirty_early millis hflush]
        exact h
  | forceFlush millis =>
      by_cases hdirty : em.dirty = true
      · refine .inl ⟨hdirty, ?_⟩
        rw [PendingWrites.Call.run, PendingWrites.forceFlush_dirty hdirty]
        exact h.commit millis
      · refine .inr ⟨hdirty, ?_⟩
        rw [PendingWrites.Call.run, PendingWrites.forceFlush_clean hdirty]
        exact h

/-- Once in flash the count stays. -/
theorem Counted.runCalls (h : Counted em count count) {later : List PendingWrites.Call}
    (hspares : ∀ c ∈ later, SparesCount c) :
    Counted (PendingWrites.runCalls em later) count count := by
  induction later generalizing em with
  | nil => exact h
  | cons c later ih =>
      have hrest : ∀ c' ∈ later, SparesCount c' := fun c' hc' => hspares c' (by simp [hc'])
      rcases h.run (hspares c List.mem_cons_self) with ⟨-, hnext⟩ | ⟨-, hnext⟩
      · exact ih hnext hrest
      · exact ih hnext hrest

/-- **A count survives the next reset exactly when an operation after it commits.** -/
theorem Counted.durable_iff (h : Counted em stored count) (hne : stored ≠ count)
    {later : List PendingWrites.Call} (hspares : ∀ c ∈ later, SparesCount c) :
    EepromManager.readByte (PendingWrites.runCalls em later).memory.backing
        EepromAddresses.rebootCount = count ↔
      ∃ before c after, later = before ++ c :: after ∧
        Commits (PendingWrites.runCalls em before) c := by
  induction later generalizing em with
  | nil =>
      refine iff_of_false (fun heq => hne (h.flash.symm.trans heq)) ?_
      rintro ⟨before, c, after, heq, -⟩
      simp at heq
  | cons c later ih =>
      have hrest : ∀ c' ∈ later, SparesCount c' := fun c' hc' => hspares c' (by simp [hc'])
      rcases h.run (hspares c List.mem_cons_self) with ⟨hcommits, hnext⟩ | ⟨hnone, hnext⟩
      · exact iff_of_true (hnext.runCalls hrest).flash ⟨[], c, later, rfl, hcommits⟩
      · refine (ih hnext hrest).trans ⟨?_, ?_⟩
        · rintro ⟨before, c', after, rfl, hcommits⟩
          exact ⟨c :: before, c', after, rfl, hcommits⟩
        · rintro ⟨before, c', after, heq, hcommits⟩
          cases before with
          | nil =>
              obtain ⟨rfl, -⟩ := List.cons.inj heq
              exact absurd hcommits hnone
          | cons c'' before =>
              obtain ⟨rfl, htail⟩ := List.cons.inj heq
              exact ⟨before, c', after, htail, hcommits⟩

end Commit

/-- What `setup()` leaves of a watchdog reset: counted in RAM, and not in flash.
SOURCE: main.ino:97-103 -/
theorem counted_countReset (flash : EepromImage) {reason : ResetReason}
    (h : reason.isWatchdog = true) :
    Counted (Setup.countReset (EepromManager.powerUp flash) reason) (storedCount flash)
      (storedCount flash + 1) := by
  obtain ⟨hinit, hflash, hreliable⟩ := countReset_flash flash reason
  refine ⟨hinit, hreliable, ?_, ?_⟩
  · rw [← loadRebootCount_eq hinit, countReset_count h]
  · rw [hflash, ← init_synced]
    rfl

/-- **The reset is counted in flash exactly when something after it commits.** -/
theorem countReset_durable_iff (flash : EepromImage) {reason : ResetReason}
    (h : reason.isWatchdog = true) {later : List PendingWrites.Call}
    (hspares : ∀ c ∈ later, SparesCount c) :
    let counted := Setup.countReset (EepromManager.powerUp flash) reason
    EepromManager.readByte (PendingWrites.runCalls counted later).memory.backing
        EepromAddresses.rebootCount = storedCount flash + 1 ↔
      ∃ before c after, later = before ++ c :: after ∧
        Commits (PendingWrites.runCalls counted before) c := by
  have hne : storedCount flash ≠ storedCount flash + 1 := by
    intro heq
    have hnat := congrArg UInt8.toNat heq
    have hbyte := (storedCount flash).toNat_lt
    simp only [UInt8.toNat_add, UInt8.reduceToNat] at hnat
    omega
  exact (counted_countReset flash h).durable_iff hne hspares

/-! ## A loop of boots -/

/-- The flash image counts as another one does. -/
structure CountsAs (flash : EepromImage) (em : EepromManager) : Prop where
  reliable : em.memory.Reliable
  image : (EepromManager.powerUp em.memory.backing).init.read =
    (EepromManager.powerUp flash).init.read

section Loop

variable {flash : EepromImage} {em : EepromManager}

/-- Two images that count alike have the same count. -/
theorem CountsAs.storedCount (h : CountsAs flash em) :
    storedCount em.memory.backing = storedCount flash := by
  rw [WatchdogLoop.storedCount, h.image, WatchdogLoop.storedCount]

/-- A boot halts from the fifth restart on, whatever else is stored.
SOURCE: main.ino:97-110 -/
theorem CountsAs.untilAdapter (h : CountsAs flash em) (b : Boot) :
    Setup.untilAdapter em.reboot b.reason b.behind =
      if 5 ≤ WatchdogLoop.storedCount flash + 1 then
        .halted (Setup.countReset (EepromManager.powerUp em.memory.backing) b.reason)
      else .restarted (Setup.countReset (EepromManager.powerUp em.memory.backing) b.reason) := by
  rw [reboot_eq_powerUp h.reliable, untilAdapter_of_watchdog b.watchdog, h.storedCount]

/-- **A boot of the loop leaves the stored count as it was.** -/
theorem CountsAs.crash (h : CountsAs flash em) (b : Boot) : CountsAs flash (b.crash em) := by
  have hcrash : b.crash em =
      Setup.countReset (EepromManager.powerUp em.memory.backing) b.reason := by
    rw [Boot.crash, h.untilAdapter b]
    split
    · next heq =>
      split at heq
      · cases heq
        rfl
      · cases heq
    · next heq =>
      split at heq
      · cases heq
      · cases heq
        rfl
    · next heq =>
      split at heq
      · cases heq
      · cases heq
  obtain ⟨-, hflash, hreliable⟩ := countReset_flash em.memory.backing b.reason
  rw [hcrash]
  refine ⟨hreliable, ?_⟩
  rw [hflash, read_init_again, h.image]

/-- A loop of watchdog boots counts nothing: none of them commits. -/
theorem countsAs_runBoots (hreliable : em.memory.Reliable) (boots : List Boot) :
    CountsAs em.memory.backing (runBoots em boots) := by
  have hrun : ∀ (boots : List Boot) (em' : EepromManager), CountsAs em.memory.backing em' →
      CountsAs em.memory.backing (runBoots em' boots) := by
    intro boots
    induction boots with
    | nil => exact fun em' h => h
    | cons b boots ih => exact fun em' h => ih (b.crash em') (h.crash b)
  exact hrun boots em ⟨hreliable, rfl⟩

/-- A boot halts exactly when four restarts are stored. -/
theorem CountsAs.halts_iff_storedCount (h : CountsAs flash em) (b : Boot) :
    Halts em b ↔ 4 ≤ WatchdogLoop.storedCount flash := by
  have hle := storedCount_le flash
  have hiff : 5 ≤ WatchdogLoop.storedCount flash + 1 ↔ 4 ≤ WatchdogLoop.storedCount flash := by
    rw [UInt8.le_iff_toNat_le] at hle ⊢
    rw [UInt8.le_iff_toNat_le, UInt8.toNat_add]
    have hten : (10 : UInt8).toNat = 10 := rfl
    have hone : (1 : UInt8).toNat = 1 := rfl
    have hfour : (4 : UInt8).toNat = 4 := rfl
    have hfive : (5 : UInt8).toNat = 5 := rfl
    omega
  rw [Halts, h.untilAdapter b, ← hiff]
  split
  · next hmany => exact iff_of_true ⟨_, rfl⟩ hmany
  · next hfew =>
    refine iff_of_false ?_ hfew
    rintro ⟨em', heq⟩
    cases heq

end Loop

/-! ## Result -/

/-- The version is not the count. -/
theorem versionImage_count (image : ℕ → UInt8) :
    versionImage image EepromAddresses.rebootCount = image EepromAddresses.rebootCount :=
  Function.update_of_ne (by decide) _ _

/-- The secondary slot is not the count. -/
theorem secondaryImage_count (image : ℕ → UInt8) :
    secondaryImage image EepromAddresses.rebootCount = image EepromAddresses.rebootCount :=
  if_neg (by decide)

/-- The first schema had its count elsewhere.
SOURCE: EEPROM_Manager.cpp:58-101 -/
theorem v1Image_count (image : ℕ → UInt8) : v1Image image EepromAddresses.rebootCount =
    if 10 < image EepromAddresses.v1RebootCount then 0
    else image EepromAddresses.v1RebootCount := by
  rw [v1Image, if_neg (by decide), if_neg (by decide), if_pos rfl]

/-- A count above ten is set to zero.
SOURCE: EEPROM_Manager.cpp:126-133 -/
theorem validatedImage_count_eq (image : ℕ → UInt8) :
    validatedImage image EepromAddresses.rebootCount =
      if 10 < image EepromAddresses.rebootCount then 0 else image EepromAddresses.rebootCount := by
  have hne : EepromAddresses.rebootCount ≠ EepromAddresses.rebootReason := by decide
  rw [validatedImage, if_neg fun h => hne h.1]
  by_cases hmany : 10 < image EepromAddresses.rebootCount
  · rw [if_pos ⟨rfl, hmany⟩, if_pos hmany]
  · rw [if_neg fun h => hmany h.2, if_neg hmany]

/-- The migrated count of the first schema. -/
theorem migratedImage_count_first {image : ℕ → UInt8}
    (hfirst : image EepromAddresses.schemaVersion = 0) :
    migratedImage image EepromAddresses.rebootCount =
      if 10 < image EepromAddresses.v1RebootCount then 0
      else image EepromAddresses.v1RebootCount := by
  have hold : ¬image EepromAddresses.schemaVersion = EepromSizes.currentSchemaVersion := by
    rw [hfirst]
    decide
  have hwritten : ¬image EepromAddresses.schemaVersion = 0xFF := by
    rw [hfirst]
    decide
  simp only [migratedImage, if_neg hold, if_neg hwritten, if_pos hfirst, versionImage_count,
    secondaryImage_count, v1Image_count]

/-- No other migration touches the count; a wipe leaves `0xFF`. -/
theorem migratedImage_count_later {image : ℕ → UInt8}
    (hlater : ¬image EepromAddresses.schemaVersion = 0) :
    migratedImage image EepromAddresses.rebootCount = image EepromAddresses.rebootCount ∨
      migratedImage image EepromAddresses.rebootCount = 0xFF := by
  simp only [migratedImage, if_neg hlater]
  split
  · exact .inl rfl
  · split
    · exact .inl (versionImage_count image)
    · split
      · exact .inl ((versionImage_count _).trans (secondaryImage_count image))
      · exact .inr (versionImage_count _)

/-- Only the first migration brings a count from elsewhere, and only one that passes the
validation.
SOURCE: EEPROM_Manager.cpp:44-133 -/
theorem storedCount_of_zero {flash : EepromImage}
    (hzero : EepromManager.readByte flash EepromAddresses.rebootCount = 0) :
    storedCount flash = if EepromManager.readByte flash EepromAddresses.schemaVersion = 0 ∧
        EepromManager.readByte flash EepromAddresses.v1RebootCount ≤ 10 then
      EepromManager.readByte flash EepromAddresses.v1RebootCount else 0 := by
  rw [storedCount, read_init, validatedImage_count_eq]
  generalize EepromManager.readByte flash = image at hzero ⊢
  by_cases hfirst : image EepromAddresses.schemaVersion = 0
  · rw [migratedImage_count_first hfirst]
    by_cases hmany : 10 < image EepromAddresses.v1RebootCount
    · rw [if_pos hmany, if_neg (by decide), if_neg fun h => UInt8.not_lt.mpr h.2 hmany]
    · rw [if_neg hmany, if_neg hmany, if_pos ⟨hfirst, UInt8.not_lt.mp hmany⟩]
  · have hnone : ¬(image EepromAddresses.schemaVersion = 0 ∧
        image EepromAddresses.v1RebootCount ≤ 10) := fun h => hfirst h.1
    rw [if_neg hnone]
    rcases migratedImage_count_later hfirst with hkept | hwiped
    · rw [hkept, hzero, if_neg (by decide)]
    · rw [hwiped, if_pos (by decide)]

/-- Four restarts are stored only where the first schema stored them. -/
theorem four_le_storedCount_iff {flash : EepromImage}
    (hzero : EepromManager.readByte flash EepromAddresses.rebootCount = 0) :
    4 ≤ storedCount flash ↔ CountsInV1 flash := by
  rw [storedCount_of_zero hzero, CountsInV1]
  split
  · next h => exact ⟨fun hmany => ⟨h.1, hmany, h.2⟩, fun hcounts => hcounts.2.1⟩
  · next h =>
    refine iff_of_false (by decide) ?_
    rintro ⟨hversion, -, hfew⟩
    exact h ⟨hversion, hfew⟩

/-- **A loop of watchdog boots from a stored count of 0 is not caught, however long it is.**  The
boot after any number of them, the fifth after four, halts exactly when the image is of the first
layout and counted four or more there; then the first boot halts too.
SOURCE: main.ino:92-130, EEPROM_Manager.cpp:36-137, 365-387, ErrorCore.cpp:16-25 -/
theorem halts_iff {em : EepromManager} (hreliable : em.memory.Reliable)
    (hzero : EepromManager.readByte em.memory.backing EepromAddresses.rebootCount = 0)
    (boots : List Boot) (b : Boot) :
    Halts (runBoots em boots) b ↔ CountsInV1 em.memory.backing := by
  rw [(countsAs_runBoots hreliable boots).halts_iff_storedCount b,
    four_le_storedCount_iff hzero]

/-! ## Five boots -/

/-- A node of the current layout that has counted no watchdog reset. -/
def quietFlash : EepromImage := fun i =>
  if (i : ℕ) = EepromAddresses.schemaVersion then EepromSizes.currentSchemaVersion
  else if (i : ℕ) = EepromAddresses.rebootCount then 0
  else 0xFF

def watchdogBoot : Boot := ⟨.taskWdt, rfl, fun _ => 0, []⟩

/-- The fifth restart in a row. -/
theorem halts_iff_fifth :
    Halts (runBoots (EepromManager.powerUp quietFlash) (List.replicate 4 watchdogBoot))
        watchdogBoot ↔
      CountsInV1 (EepromManager.powerUp quietFlash).memory.backing :=
  halts_iff (Memory.load_reliable quietFlash) rfl (List.replicate 4 watchdogBoot) watchdogBoot

/-- The fifth boot in a row after a watchdog reset finds a count of 0, and goes on.
SOURCE: main.ino:97-107 -/
theorem not_halts_fifth :
    EepromManager.readByte quietFlash EepromAddresses.rebootCount = 0 ∧
      ¬Halts (runBoots (EepromManager.powerUp quietFlash) (List.replicate 4 watchdogBoot))
        watchdogBoot := by
  refine ⟨rfl, ?_⟩
  rw [(countsAs_runBoots (Memory.load_reliable quietFlash) _).halts_iff_storedCount,
    four_le_storedCount_iff rfl]
  rintro ⟨hversion, -⟩
  exact absurd hversion (by decide)

end WatchdogLoop

end LatticeNodes.Analysis
