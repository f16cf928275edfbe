import LatticeNodes.Analysis.EepromStore
import LatticeNodes.Analysis.MigratedImage
import LatticeNodes.Analysis.PendingWrites
import LatticeNodes.Library.Journal
import LatticeNodes.Program.Setup

/-!
# Settings and power losses

Saves, clears and flushes in any order, over a flash that may refuse any commit, with power losses
anywhere, between the commits of `init()` too.  The settings are told by a journal of the changes
made to them: a power loss keeps the durable ones and forgets the rest, so that the settings found
at the next boot are those of one moment of the run, and what was committed stays
(`powerLoss_keeps`).
-/

set_option autoImplicit false

namespace LatticeNodes.Analysis

open LatticeNodes.Program CachedMemory FieldStore TransitionSystem

namespace PowerLoss

open EepromFields
open PendingWrites (Call)

/-! ## Statement -/

/-- A value for every field. -/
abbrev Settings := (k : EepromField) → k.Value

/-- What the loads return over an image. -/
def settingsOf (image : EepromImage) : Settings :=
  fieldStore.view (EepromManager.readByte image)

/-- A change of the settings: a save or clear, or the repair at the end of `init()`. -/
inductive Change where
  | save (c : SaveCall)
  | repair

/-- SOURCE: EEPROM_Manager.cpp:127-129 -/
def validReason (reason : UInt8) : UInt8 := if reason = 0x00 then 0xFF else reason

/-- SOURCE: EEPROM_Manager.cpp:130-132 -/
def validCount (count : UInt8) : UInt8 := if 10 < count then 0 else count

/-- The repair of the watchdog bytes. -/
def repaired (values : Settings) : Settings
  | .rebootReason => validReason (values .rebootReason)
  | .rebootCount => validCount (values .rebootCount)
  | k => values k

def Change.perform : Change → Settings → Settings
  | .save .clearAll, _ => settingsOf blankImage
  | .save c, values => fieldStore.assign values c
  | .repair, values => repaired values

/-- The manager, and the changes that its RAM image and its flash show. -/
structure State where
  em : EepromManager
  journal : Journal Change

inductive Event where
  | call (c : Call)
  | powerLoss
  /-- Power is lost between the two commits of `init()`. -/
  | powerLossInInit

/-- `clearRange` has no caller. -/
def Used : Call → Bool
  | .save (.clearRange _ _) => false
  | _ => true

/-- The guards of a call, decided. -/
def accepts (em : EepromManager) : SaveCall → Bool
  | .meshKey key =>
      key.length == EepromSizes.meshKeySize && em.isInitialized && !em.isDevMode
  | .peerList _ numPeers => numPeers ≤ Config.maxPeers && em.isInitialized && !em.isDevMode
  | .clearRange startAddr endAddr =>
      startAddr < EepromSizes.totalSize && endAddr < EepromSizes.totalSize &&
        startAddr ≤ endAddr && em.isInitialized
  | .clearPeerList => em.isInitialized
  | .nodeId _ => em.isInitialized
  | .clearAll => em.isInitialized
  | _ => em.isInitialized && !em.isDevMode

section Steps

variable (s : State)

/-- A commit of everything that waits, if the medium accepts it. -/
def State.commit : Journal Change :=
  s.journal.commit (decide (s.em.memory.Refuses 0))

/-- SOURCE: EEPROM_Manager.cpp:188-568 -/
def State.save (c : SaveCall) : Journal Change :=
  match accepts s.em c, commitsAtOnce c with
  | true, true => (s.journal.append (.save c)).commit (decide (s.em.memory.Refuses 0))
  | true, false => s.journal.append (.save c)
  | false, _ => s.journal

def begun (em : EepromManager) : EepromManager := { em with isInitialized := true }

/-- A blank EEPROM is given a version.
SOURCE: EEPROM_Manager.cpp:46-51 -/
def State.migrate : Journal Change :=
  if s.em.read EepromAddresses.schemaVersion = EepromSizes.currentSchemaVersion then s.journal
  else s.commit

/-- SOURCE: EEPROM_Manager.cpp:36-137 -/
def State.init : Journal Change :=
  if s.em.isInitialized then s.journal
  else (s.migrate.append .repair).commit (decide ((begun s.em).migrate.memory.Refuses 0))

/-- The changes after an operation. -/
def State.record : Call → Journal Change
  | .init => s.init
  | .setDevMode _ => s.journal
  | .save c => s.save c
  | .flushIfDirty millis =>
      if s.em.dirty = true ∧ eepromFlushIntervalMs ≤ millis - s.em.lastFlushMs then s.commit
      else s.journal
  | .forceFlush _ => if s.em.dirty then s.commit else s.journal

def step : Event → Option State
  | .call c => if Used c then some ⟨c.run s.em, s.record c⟩ else none
  | .powerLoss => some ⟨s.em.reboot, s.journal.powerCycle⟩
  | .powerLossInInit =>
      if s.em.isInitialized then none
      else some ⟨(begun s.em).migrate.reboot, s.migrate.powerCycle⟩

end Steps

/-- The node is powered up over an EEPROM of the current layout, or a blank one; the flash may
refuse any of the commits to come. -/
structure Start (s : State) : Prop where
  isInitialized : s.em.isInitialized = false
  synced : s.em.memory.Synced
  schema : CurrentSchema s.em.memory.backing
  journal : s.journal = Journal.empty

def system : System State Event where
  Init := Start
  step := step

/-! ## What the changes do to an image -/

section Images

variable {em : EepromManager}

/-- The decided guard of a save is the one of the calls. -/
theorem accepts_iff (em : EepromManager) (c : SaveCall) : accepts em c = true ↔ Accepts em c := by
  cases c <;> simp [accepts, Accepts, and_assoc]

/-- The validation of `init()` repairs the watchdog bytes, and no other field. -/
theorem view_validatedImage (image : ℕ → UInt8) :
    fieldStore.view (SchemaMigration.validatedImage image) = repaired (fieldStore.view image) := by
  have hother : ∀ k : EepromField, k ≠ .rebootReason → k ≠ .rebootCount →
      fieldStore.view (SchemaMigration.validatedImage image) k = fieldStore.view image k := by
    intro k hreason hcount
    apply (field k).read_congr
    intro i hlo hhi
    have hapart : i ≠ EepromAddresses.rebootReason ∧ i ≠ EepromAddresses.rebootCount := by
      constructor
      · rintro rfl
        exact field_disjoint hreason _ ⟨hlo, hhi⟩ ⟨Nat.le_refl _, Nat.lt_succ_self _⟩
      · rintro rfl
        exact field_disjoint hcount _ ⟨hlo, hhi⟩ ⟨Nat.le_refl _, Nat.lt_succ_self _⟩
    rw [SchemaMigration.validatedImage, if_neg fun h => hapart.1 h.1, if_neg fun h => hapart.2 h.1]
  funext k
  cases k with
  | rebootReason =>
      show SchemaMigration.validatedImage image EepromAddresses.rebootReason =
        validReason (image EepromAddresses.rebootReason)
      have hne : EepromAddresses.rebootReason ≠ EepromAddresses.rebootCount := by decide
      simp [SchemaMigration.validatedImage, validReason, hne]
  | rebootCount =>
      show SchemaMigration.validatedImage image EepromAddresses.rebootCount =
        validCount (image EepromAddresses.rebootCount)
      have hne : EepromAddresses.rebootCount ≠ EepromAddresses.rebootReason := by decide
      simp [SchemaMigration.validatedImage, validCount, hne]
  | _ => exact hother _ (by decide) (by decide)

/-- The schema version is part of no field. -/
theorem view_versionImage (image : ℕ → UInt8) :
    fieldStore.view (SchemaMigration.versionImage image) = fieldStore.view image := by
  funext k
  apply (field k).read_congr
  intro i hlo hhi
  have hne : i ≠ EepromAddresses.schemaVersion := by
    rintro rfl
    exact not_owns_schemaVersion k ⟨hlo, hhi⟩
  exact Function.update_of_ne hne _ _

/-- The calls of the firmware: a wipe of everything, or a save or clear of one field. -/
theorem used_cases {c : SaveCall} (hused : Used (.save c) = true) : c = .clearAll ∨ OnField c := by
  cases c with
  | clearAll => exact .inl rfl
  | clearRange startAddr endAddr => cases hused
  | _ => exact .inr trivial

/-- A wipe fills the whole cache with `0xFF`. -/
theorem cache_clearAll (em : EepromManager) :
    (em.write (bytesOf .clearAll)).memory.cache = blankImage :=
  clearAll_writes_blank em

/-- A call on a field writes the bytes of this field. -/
theorem read_onField (em : EepromManager) {c : SaveCall} (hfield : OnField c) :
    (em.write (bytesOf c)).read = overwrite em.read (writesOf c) := by
  rw [bytesOf_eq_writesOf hfield]
  exact read_write em (writesOf_inRange c)

/-- **The bytes of a call change the settings as the call says.** -/
theorem settings_write (em : EepromManager) {c : SaveCall} (hused : Used (.save c) = true) :
    settingsOf (em.write (bytesOf c)).memory.cache =
      (Change.save c).perform (settingsOf em.memory.cache) := by
  rcases used_cases hused with rfl | hfield
  · rw [cache_clearAll]
    rfl
  · have hperform : (Change.save c).perform (settingsOf em.memory.cache) =
        fieldStore.assign (settingsOf em.memory.cache) c := by
      cases c with
      | clearAll => cases hfield
      | _ => rfl
    rw [hperform]
    show fieldStore.view (em.write (bytesOf c)).read = _
    rw [read_onField em hfield]
    exact fieldStore.view_overwrite em.read c

/-- No call that is used writes another schema version. -/
theorem schema_write (h : CurrentSchema em.memory.cache) {c : SaveCall}
    (hused : Used (.save c) = true) :
    CurrentSchema (em.write (bytesOf c)).memory.cache := by
  rcases used_cases hused with rfl | hfield
  · rw [cache_clearAll]
    exact .inl rfl
  · have hversion : (em.write (bytesOf c)).read EepromAddresses.schemaVersion =
        em.read EepromAddresses.schemaVersion := by
      rw [read_onField em hfield]
      apply fieldStore.overwrite_of_outside
      intro r _ howns
      exact not_owns_schemaVersion r.1 howns
    unfold CurrentSchema bootBytes at h ⊢
    rw [EepromManager.read, EepromManager.read] at hversion
    simp only [hversion]
    exact h

end Images

/-! ## Runs -/

/-- The journal tells RAM and flash, and both are of the current layout or blank. -/
structure Inv (start : Settings) (em : EepromManager) (j : Journal Change) : Prop where
  shows : Journal.Shows Change.perform settingsOf start em.memory j
  ram : CurrentSchema em.memory.cache
  flash : CurrentSchema em.memory.backing

section Runs

variable {start : Settings} {em em' : EepromManager} {j : Journal Change} {s s' : State}

/-- The journal speaks of the memory only, not of the flags of the manager. -/
theorem Inv.of_memory (h : Inv start em j) (hmemory : em'.memory = em.memory) :
    Inv start em' j := by
  obtain ⟨hshows, hram, hflash⟩ := h
  rw [← hmemory] at hshows hram hflash
  exact ⟨hshows, hram, hflash⟩

/-- A commit takes the memory and the journal along, refused or not. -/
theorem Inv.commit (h : Inv start em j) :
    Inv start em.commit (j.commit (decide (em.memory.Refuses 0))) := by
  refine ⟨h.shows.commit, ?_, ?_⟩
  · show CurrentSchema em.memory.commit.cache
    rw [Memory.commit_cache]
    exact h.ram
  · show CurrentSchema em.memory.commit.backing
    by_cases hrefused : em.memory.Refuses 0
    · rw [Memory.commit_backing_of_refuses hrefused]
      exact h.flash
    · rw [Memory.commit_backing_of_not_refuses hrefused]
      exact h.ram

/-- A power loss drops from both what was not committed. -/
theorem Inv.powerCycle (h : Inv start em j) : Inv start em.reboot j.powerCycle :=
  ⟨h.shows.powerCycle, h.flash, h.flash⟩

/-- Bytes that change the settings as the change says. -/
theorem Inv.write (h : Inv start em j) {writes : List (ℕ × UInt8)} {change : Change}
    (hsettings : settingsOf (em.write writes).memory.cache =
      change.perform (settingsOf em.memory.cache))
    (hschema : CurrentSchema (em.write writes).memory.cache) :
    Inv start (em.write writes) (j.append change) := by
  have hbacking : (em.write writes).memory.backing = em.memory.backing :=
    Memory.writeAll_backing ..
  refine ⟨h.shows.append hsettings hbacking, hschema, ?_⟩
  rw [hbacking]
  exact h.flash

/-- Bytes under no field. -/
theorem Inv.write_outside (h : Inv start em j) {writes : List (ℕ × UInt8)}
    (hsettings : settingsOf (em.write writes).memory.cache = settingsOf em.memory.cache)
    (hschema : CurrentSchema (em.write writes).memory.cache) :
    Inv start (em.write writes) j := by
  have hbacking : (em.write writes).memory.backing = em.memory.backing :=
    Memory.writeAll_backing ..
  refine ⟨h.shows.of_view hsettings hbacking, hschema, ?_⟩
  rw [hbacking]
  exact h.flash

/-- The writes of a save do not decide whether its commit is refused. -/
theorem refuses_write (em : EepromManager) (writes : List (ℕ × UInt8)) :
    decide ((em.write writes).memory.Refuses 0) = decide (em.memory.Refuses 0) :=
  decide_eq_decide.mpr (Memory.refuses_writeAll (EepromManager.inRange writes))

/-- A save that commits at once is an entry and a commit of the journal. -/
theorem Inv.committedSave (h : Inv start em j) {writes : List (ℕ × UInt8)} {change : Change}
    (hsettings : settingsOf (em.write writes).memory.cache =
      change.perform (settingsOf em.memory.cache))
    (hschema : CurrentSchema (em.write writes).memory.cache) :
    Inv start (em.committedSave writes)
      ((j.append change).commit (decide (em.memory.Refuses 0))) := by
  have hcommitted := (h.write hsettings hschema).commit
  rw [refuses_write] at hcommitted
  exact hcommitted

/-- SOURCE: EEPROM_Manager.cpp:188-596 -/
theorem Inv.save (h : Inv start s.em s.journal) {c : SaveCall}
    (hused : Used (.save c) = true) : Inv start (c.run s.em) (s.save c) := by
  have hsettings := settings_write s.em hused
  have hschema := schema_write h.ram hused
  unfold State.save
  cases haccepts : accepts s.em c with
  | false =>
      have hrefused : ¬Accepts s.em c := by
        rw [← accepts_iff, haccepts]
        exact Bool.false_ne_true
      rw [run_of_not_accepts hrefused]
      exact h
  | true =>
      rw [run_of_accepts ((accepts_iff _ _).mp haccepts), store]
      cases commitsAtOnce c with
      | true => exact h.committedSave hsettings hschema
      | false => exact (h.write hsettings hschema).of_memory rfl

/-- SOURCE: EEPROM_Manager.cpp:44-124 -/
theorem Inv.migrate (h : Inv start s.em s.journal) :
    Inv start (begun s.em).migrate s.migrate := by
  have hbegun : Inv start (begun s.em) s.journal := h.of_memory rfl
  unfold State.migrate
  by_cases hcurrent : s.em.read EepromAddresses.schemaVersion = EepromSizes.currentSchemaVersion
  · have hsame : (begun s.em).migrate = begun s.em := @migrate_current (begun s.em) hcurrent
    rw [if_pos hcurrent, hsame]
    exact hbegun
  · have hblank : (begun s.em).read EepromAddresses.schemaVersion = 0xFF :=
      h.ram.resolve_right hcurrent
    have hversion := SchemaMigration.read_writeVersion (begun s.em)
    rw [writeVersion] at hversion
    have hcache : EepromManager.readByte ((begun s.em).write [(EepromAddresses.schemaVersion,
        EepromSizes.currentSchemaVersion)]).memory.cache =
          SchemaMigration.versionImage s.em.read := by
      rw [← committedSave_cache]
      exact hversion
    have hsettings : settingsOf ((begun s.em).write [(EepromAddresses.schemaVersion,
        EepromSizes.currentSchemaVersion)]).memory.cache =
          settingsOf (begun s.em).memory.cache := by
      rw [settingsOf, hcache]
      exact view_versionImage s.em.read
    have hschema : CurrentSchema ((begun s.em).write [(EepromAddresses.schemaVersion,
        EepromSizes.currentSchemaVersion)]).memory.cache := by
      right
      rw [bootBytes]
      simp only [hcache, SchemaMigration.versionImage, Function.update_self]
    have hcommitted := (hbegun.write_outside hsettings hschema).commit
    rw [refuses_write] at hcommitted
    rw [if_neg hcurrent, migrate_blank hblank]
    exact hcommitted

/-- SOURCE: EEPROM_Manager.cpp:126-133 -/
theorem Inv.validate (h : Inv start em j) :
    Inv start em.validateRebootBytes
      ((j.append .repair).commit (decide (em.memory.Refuses 0))) := by
  have hread := SchemaMigration.read_validateRebootBytes em
  rw [validateRebootBytes_writes] at hread ⊢
  have hcache : EepromManager.readByte (em.write (validationWrites em)).memory.cache =
      SchemaMigration.validatedImage em.read := by
    rw [← committedSave_cache]
    exact hread
  refine h.committedSave ?_ ?_
  · rw [settingsOf, hcache]
    exact view_validatedImage em.read
  · have hversion : EepromManager.readByte (em.write (validationWrites em)).memory.cache
        EepromAddresses.schemaVersion =
          EepromManager.readByte em.memory.cache EepromAddresses.schemaVersion := by
      rw [hcache, SchemaMigration.validatedImage, if_neg fun h => absurd h.1 (by decide),
        if_neg fun h => absurd h.1 (by decide), EepromManager.read]
    have hram := h.ram
    unfold CurrentSchema bootBytes at hram ⊢
    simp only [hversion]
    exact hram

/-- `init()` migrates and repairs, each with its own commit.
SOURCE: EEPROM_Manager.cpp:36-137 -/
theorem Inv.init (h : Inv start s.em s.journal) : Inv start s.em.init s.init := by
  unfold State.init EepromManager.init
  cases s.em.isInitialized with
  | true => exact h
  | false => exact h.migrate.validate

/-- A flush is a commit that also lowers the dirty flag.
SOURCE: EEPROM_Manager.cpp:165-186 -/
theorem Inv.flush (h : Inv start s.em s.journal) (millis : UInt32) :
    Inv start { s.em.commit with dirty := false, lastFlushMs := millis } s.commit :=
  h.commit.of_memory rfl

/-- Every operation of the manager is what the journal records of it. -/
theorem Inv.record (h : Inv start s.em s.journal) {c : Call} (hused : Used c = true) :
    Inv start (c.run s.em) (s.record c) := by
  cases c with
  | init => exact h.init
  | setDevMode devMode => exact h.of_memory rfl
  | save c => exact h.save hused
  | flushIfDirty millis =>
      rw [PendingWrites.Call.run, State.record]
      by_cases hflush : s.em.dirty = true ∧ eepromFlushIntervalMs ≤ millis - s.em.lastFlushMs
      · rw [PendingWrites.flushIfDirty_due hflush.1 hflush.2, if_pos hflush]
        exact h.flush millis
      · rw [PendingWrites.flushIfDirty_early millis hflush, if_neg hflush]
        exact h
  | forceFlush millis =>
      rw [PendingWrites.Call.run, State.record]
      by_cases hdirty : s.em.dirty = true
      · rw [PendingWrites.forceFlush_dirty hdirty, if_pos hdirty]
        exact h.flush millis
      · rw [PendingWrites.forceFlush_clean hdirty, if_neg hdirty]
        exact h

/-- A step of the run, a power loss among them, keeps memory and journal together. -/
theorem Inv.step (h : Inv start s.em s.journal) {e : Event} (hstep : step s e = some s') :
    Inv start s'.em s'.journal := by
  cases e with
  | call c =>
      simp only [PowerLoss.step, Option.ite_none_right_eq_some, Option.some.injEq] at hstep
      obtain ⟨hused, rfl⟩ := hstep
      exact h.record hused
  | powerLoss =>
      simp only [PowerLoss.step, Option.some.injEq] at hstep
      subst hstep
      exact h.powerCycle
  | powerLossInInit =>
      simp only [PowerLoss.step, Option.ite_none_left_eq_some, Option.some.injEq] at hstep
      obtain ⟨-, rfl⟩ := hstep
      exact h.migrate.powerCycle

/-- At power-up the journal is empty, and both images are those of the flash. -/
theorem Start.inv (h : Start s) : Inv (settingsOf s.em.memory.backing) s.em s.journal := by
  have hcache : s.em.memory.cache = s.em.memory.backing := h.synced
  rw [h.journal]
  refine ⟨Journal.shows_empty h.synced rfl, ?_, h.schema⟩
  rw [hcache]
  exact h.schema

/-- A whole run keeps them together. -/
theorem inv_runFrom (h : Inv start s.em s.journal) {es : List Event}
    (hrun : system.runFrom s es = some s') : Inv start s'.em s'.journal :=
  system.runFrom_invariant (P := fun s => Inv start s.em s.journal)
    (fun _ _ _ h hstep => h.step hstep) h hrun

/-! ## What has been committed stays -/

/-- A save takes nothing back that was committed. -/
theorem save_isPrefix (s : State) (c : SaveCall) :
    s.journal.durable <+: (s.save c).durable := by
  unfold State.save
  split
  · exact (s.journal.append (.save c)).durable_isPrefix_commit _
  · exact List.prefix_rfl
  · exact List.prefix_rfl

/-- A migration takes nothing back that was committed. -/
theorem migrate_isPrefix (s : State) : s.journal.durable <+: s.migrate.durable := by
  unfold State.migrate
  split
  · exact List.prefix_rfl
  · exact s.journal.durable_isPrefix_commit _

/-- `init()` takes nothing back that was committed. -/
theorem init_isPrefix (s : State) : s.journal.durable <+: s.init.durable := by
  unfold State.init
  split
  · exact List.prefix_rfl
  · exact (migrate_isPrefix s).trans ((s.migrate.append .repair).durable_isPrefix_commit _)

/-- No operation takes anything back that was committed. -/
theorem record_isPrefix (s : State) (c : Call) :
    s.journal.durable <+: (s.record c).durable := by
  cases c with
  | init => exact init_isPrefix s
  | setDevMode devMode => exact List.prefix_rfl
  | save c => exact save_isPrefix s c
  | flushIfDirty millis =>
      rw [State.record]
      split
      · exact s.journal.durable_isPrefix_commit _
      · exact List.prefix_rfl
  | forceFlush millis =>
      rw [State.record]
      split
      · exact s.journal.durable_isPrefix_commit _
      · exact List.prefix_rfl

/-- A power loss takes nothing back either: what it drops was not committed. -/
theorem step_isPrefix {e : Event} (hstep : step s e = some s') :
    s.journal.durable <+: s'.journal.durable := by
  cases e with
  | call c =>
      simp only [PowerLoss.step, Option.ite_none_right_eq_some, Option.some.injEq] at hstep
      obtain ⟨-, rfl⟩ := hstep
      exact record_isPrefix s c
  | powerLoss =>
      simp only [PowerLoss.step, Option.some.injEq] at hstep
      subst hstep
      exact List.prefix_rfl
  | powerLossInInit =>
      simp only [PowerLoss.step, Option.ite_none_left_eq_some, Option.some.injEq] at hstep
      obtain ⟨-, rfl⟩ := hstep
      exact migrate_isPrefix s

/-- **What has been committed once stays**, in its place, through every later run. -/
theorem runFrom_isPrefix {es : List Event} (hrun : system.runFrom s es = some s') :
    s.journal.durable <+: s'.journal.durable :=
  system.runFrom_invariant (P := fun t => s.journal.durable <+: t.journal.durable)
    (fun _ _ _ h hstep => h.trans (step_isPrefix hstep)) List.prefix_rfl hrun

/-! ## The settings a boot finds -/

/-- A load returns what all changes since the start make of the stored settings. -/
theorem Inv.load (h : Inv start em j) (hinit : em.isInitialized = true) (k : EepromField) :
    k.load em = Journal.replay Change.perform start j.entries k := by
  rw [load_eq_read hinit, ← h.shows.cache]
  rfl

/-- After a power loss and a boot it returns what the committed ones make of them. -/
theorem Inv.load_boot (h : Inv start em j) (k : EepromField) :
    k.load em.reboot.init =
      Journal.replay Change.perform start (j.durable ++ [.repair]) k := by
  have hinit : Inv start em.reboot.init (State.init ⟨em.reboot, j.powerCycle⟩) :=
    Inv.init (s := ⟨em.reboot, j.powerCycle⟩) h.powerCycle
  have hentries : (State.init ⟨em.reboot, j.powerCycle⟩).entries = j.durable ++ [.repair] := by
    have hdown : em.reboot.isInitialized = false := rfl
    unfold State.init State.migrate State.commit
    rw [hdown, if_neg Bool.false_ne_true, Journal.commit_entries, Journal.append_entries]
    split
    · rw [Journal.powerCycle_entries]
    · rw [Journal.commit_entries, Journal.powerCycle_entries]
  rw [hinit.load (init_flags _).1, hentries]

/-- **A power loss keeps the settings of one moment, and never a commit less.**  In every run the
changes committed by one moment are, in their order, the first of those committed by any later one.
The loads return what all changes since the start make of the stored settings; after a power loss
and a boot they return what the committed ones make of them, with the watchdog bytes repaired.
SOURCE: EEPROM_Manager.cpp:36-596 -/
theorem powerLoss_keeps {s₀ : State} (hstart : Start s₀) {before after : List Event}
    (hbefore : system.runFrom s₀ before = some s) (hafter : system.runFrom s after = some s') :
    s.journal.durable <+: s'.journal.durable ∧
      (s'.em.isInitialized = true → ∀ k, k.load s'.em =
        Journal.replay Change.perform (settingsOf s₀.em.memory.backing) s'.journal.entries k) ∧
      ∀ k, k.load s'.em.reboot.init =
        Journal.replay Change.perform (settingsOf s₀.em.memory.backing)
          (s'.journal.durable ++ [.repair]) k := by
  have hinv := inv_runFrom (inv_runFrom hstart.inv hbefore) hafter
  exact ⟨runFrom_isPrefix hafter, fun hinit => hinv.load hinit, hinv.load_boot⟩

end Runs

/-! ## A blank EEPROM -/

/-- A blank device; `faults` says which commits its flash refuses. -/
def blankNode (faults : List Bool) : State :=
  ⟨PendingWrites.blankStart faults, Journal.empty⟩

/-- The blank device is a start, whatever its flash refuses. -/
theorem start_blankNode (faults : List Bool) : Start (blankNode faults) :=
  ⟨rfl, rfl, .inl rfl, rfl⟩

/-- The role waits for a flush, which the medium refuses; the boot epoch is committed, and the
role with it. -/
def firstBoot : List Event :=
  [.call .init, .call (.save (.masterFlag true)), .call (.forceFlush 0),
    .call (.save (.bootEpoch 7))]

/-- The adapter is saved, and power is lost before a flush. -/
def lateSave : List Event :=
  [.call (.save (.adapterType 2)), .powerLoss, .call .init]

/-- The role that was refused comes with the next commit; the adapter is lost. -/
theorem powerLoss_keeps_blank :
    ∃ s s', system.runFrom (blankNode [false, false, true]) firstBoot = some s ∧
      system.runFrom s lateSave = some s' ∧
      s.journal.durable = [.repair, .save (.masterFlag true), .save (.bootEpoch 7)] ∧
      s'.journal.pending = [] ∧ s.journal.durable <+: s'.journal.durable ∧
      EepromField.masterFlag.load s'.em.reboot.init = true ∧
      EepromField.adapterType.load s'.em.reboot.init = (0 : UInt8) := by
  have hrun : ∃ s s', system.runFrom (blankNode [false, false, true]) firstBoot = some s ∧
      system.runFrom s lateSave = some s' ∧
      s.journal.durable = [.repair, .save (.masterFlag true), .save (.bootEpoch 7)] ∧
      s'.journal = ⟨[.repair, .save (.masterFlag true), .save (.bootEpoch 7), .repair], []⟩ :=
    ⟨_, _, rfl, rfl, rfl, rfl⟩
  obtain ⟨s, s', hbefore, hafter, hdurable, hjournal⟩ := hrun
  obtain ⟨hreplayed, -, hloads⟩ := powerLoss_keeps (start_blankNode _) hbefore hafter
  refine ⟨s, s', hbefore, hafter, hdurable, ?_, hreplayed, ?_, ?_⟩
  · rw [hjournal]
  · rw [hloads .masterFlag, hjournal]
    rfl
  · rw [hloads .adapterType, hjournal]
    rfl

end PowerLoss

end LatticeNodes.Analysis
