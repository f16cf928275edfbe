import LatticeNodes.Analysis.PendingWrites
import LatticeNodes.Analysis.SchemaMigration

/-!
# Development mode

Runs of saves, loads and flushes on a manager in development mode.  All saves are to be no-ops
there; `saveNodeId` and `clearPeerList` lack the check.  `neverWrites_iff` says which runs leave
the image and the flag alone: those in which either of the two, if called at all, finds the flag
up and its bytes in place.
-/

set_option autoImplicit false

namespace LatticeNodes.Analysis

open LatticeNodes.Program CachedMemory FieldStore TransitionSystem

namespace DevMode

open EepromFields

/-! ## Statement -/

/-- The operations on fields.
SOURCE: EEPROM_Manager.h:100-170 -/
inductive Operation where
  | save (c : SaveCall) (onField : OnField c)
  | load (k : EepromField)
  | flushIfDirty (millis : UInt32)
  | forceFlush (millis : UInt32)

/-- A load returns a value and leaves the manager as it is. -/
def Operation.run (em : EepromManager) : Operation → EepromManager
  | .save c _ => c.run em
  | .load _ => em
  | .flushIfDirty millis => em.flushIfDirty millis
  | .forceFlush millis => em.forceFlush millis

def runOperations (em : EepromManager) (ops : List Operation) : EepromManager :=
  ops.foldl Operation.run em

/-- A manager after `init()` and `setDevMode(true)`. -/
structure Development (em : EepromManager) : Prop where
  isInitialized : em.isInitialized = true
  isDevMode : em.isDevMode = true

/-- All along the run the image is the one at its start, in RAM and, but for a flush of what was
pending at the start, in flash; and no operation raises the flag. -/
structure NeverWrites (em : EepromManager) (ops : List Operation) : Prop where
  image : ∀ before after, ops = before ++ after →
    (runOperations em before).memory.cache = em.memory.cache
  flash : ∀ before after, ops = before ++ after →
    (runOperations em before).memory.backing = em.memory.backing ∨
      em.dirty = true ∧ (runOperations em before).memory.backing = em.memory.cache
  flag : ∀ before op after, ops = before ++ op :: after →
    (runOperations em before).dirty = false → (op.run (runOperations em before)).dirty = false

/-- The operation is none of the two without a check, or has nothing to do: the flag is up and its
bytes are in place.
SOURCE: EEPROM_Manager.cpp:328-337, 555-561 -/
def Idle (em : EepromManager) : Operation → Prop
  | .save (.nodeId id) _ => em.dirty = true ∧ em.read EepromAddresses.nodeId = id
  | .save .clearPeerList _ => em.dirty = true ∧ em.hasPeers = false
  | _ => True

/-! ## One operation -/

/-- The operation changes no byte of the image and does not raise the flag. -/
structure Silent (em : EepromManager) (op : Operation) : Prop where
  image : (op.run em).memory.cache = em.memory.cache
  flag : em.dirty = false → (op.run em).dirty = false

section Operations

variable {em : EepromManager}

/-- Two caches are the same when all reads are. -/
theorem cache_eq_iff {em' : EepromManager} :
    em'.memory.cache = em.memory.cache ↔ em'.read = em.read := by
  constructor
  · intro h
    funext i
    rw [EepromManager.read, EepromManager.read, h]
  · exact SchemaMigration.image_ext

/-- A flush changes neither the image nor the mode, and lowers the flag if anything. -/
structure Flushed (em em' : EepromManager) : Prop where
  image : em'.memory.cache = em.memory.cache
  flash : em'.memory.backing = em.memory.backing ∨
    em.dirty = true ∧ em'.memory.backing = em.memory.cache
  flag : em'.dirty = true → em.dirty = true
  isInitialized : em'.isInitialized = em.isInitialized
  isDevMode : em'.isDevMode = em.isDevMode

/-- A manager that did nothing may be a flushed one. -/
theorem Flushed.refl (em : EepromManager) : Flushed em em :=
  ⟨rfl, .inl rfl, fun h => h, rfl, rfl⟩

/-- A flush commits and lowers the flag. -/
theorem flushed_commit (hdirty : em.dirty = true) (millis : UInt32) :
    Flushed em { em.commit with dirty := false, lastFlushMs := millis } := by
  refine ⟨Memory.commit_cache em.memory, ?_, fun _ => hdirty, rfl, rfl⟩
  by_cases hrefused : em.memory.Refuses 0
  · exact .inl (Memory.commit_backing_of_refuses hrefused)
  · exact .inr ⟨hdirty, Memory.commit_backing_of_not_refuses hrefused⟩

/-- The timed flush does nothing else.
SOURCE: EEPROM_Manager.cpp:169-178 -/
theorem flushed_flushIfDirty (em : EepromManager) (millis : UInt32) :
    Flushed em (em.flushIfDirty millis) := by
  by_cases h : em.dirty = true ∧ eepromFlushIntervalMs ≤ millis - em.lastFlushMs
  · rw [PendingWrites.flushIfDirty_due h.1 h.2]
    exact flushed_commit h.1 millis
  · rw [PendingWrites.flushIfDirty_early millis h]
    exact Flushed.refl em

/-- The forced flush does nothing else.
SOURCE: EEPROM_Manager.cpp:180-186 -/
theorem flushed_forceFlush (em : EepromManager) (millis : UInt32) :
    Flushed em (em.forceFlush millis) := by
  by_cases h : em.dirty = true
  · rw [PendingWrites.forceFlush_dirty h]
    exact flushed_commit h millis
  · rw [PendingWrites.forceFlush_clean h]
    exact Flushed.refl em

/-- A flag that is down stays down through a flush. -/
theorem Flushed.flag_kept {em' : EepromManager} (h : Flushed em em') (hclean : em.dirty = false) :
    em'.dirty = false := by
  rw [← Bool.not_eq_true]
  intro hdirty
  rw [h.flag hdirty] at hclean
  cases hclean

end Operations

/-! ## Saves -/

section Saves

variable {em : EepromManager}

/-- The two saves without a check.
SOURCE: EEPROM_Manager.cpp:328-337, 555-561 -/
def Unchecked (c : SaveCall) : Prop :=
  c = .clearPeerList ∨ ∃ id, c = .nodeId id

/-- Every other save on a field is skipped. -/
theorem run_of_checked (h : Development em) {c : SaveCall} (hfield : OnField c)
    (hchecked : ¬Unchecked c) : c.run em = em := by
  apply run_of_not_accepts
  have hclosed : ¬em.isDevMode = false := by
    rw [h.isDevMode]
    exact Bool.noConfusion
  intro haccepts
  cases c with
  | meshKey key => exact hclosed haccepts.2.2
  | peerList peerRecords numPeers => exact hclosed haccepts.2.2
  | clearPeerList => exact hchecked (.inl rfl)
  | nodeId id => exact hchecked (.inr ⟨id, rfl⟩)
  | clearAll => exact hfield
  | clearRange startAddr endAddr => exact hfield
  | _ => exact hclosed haccepts.2

/-- The two are carried out as in production. -/
theorem run_of_unchecked (h : Development em) {c : SaveCall} (hunchecked : Unchecked c) :
    c.run em = em.deferredSave (bytesOf c) := by
  have haccepts : Accepts em c := by
    rcases hunchecked with rfl | ⟨id, rfl⟩
    · exact h.isInitialized
    · exact h.isInitialized
  rw [run_of_accepts haccepts]
  rcases hunchecked with rfl | ⟨id, rfl⟩
  · rfl
  · rfl

/-- Saving a node ID changes nothing exactly when it is there already. -/
theorem nodeId_in_place_iff {id : UInt8} :
    overwrite em.read (writesOf (.nodeId id)) = em.read ↔
      em.read EepromAddresses.nodeId = id := by
  rw [writesOf, overwrite_singleton, Function.update_eq_self_iff]
  exact eq_comm

/-- There are no peers exactly when the whole region is erased.
SOURCE: EEPROM_Manager.cpp:316-326 -/
theorem hasPeers_eq_false_iff (hinit : em.isInitialized = true) : em.hasPeers = false ↔
    ∀ i < EepromSizes.peerListSize, em.read (EepromAddresses.peerList + i) = 0xFF := by
  simp [EepromManager.hasPeers, hinit, EepromManager.readBytes]

/-- Clearing the peers changes nothing exactly when there are none. -/
theorem peers_in_place_iff (hinit : em.isInitialized = true) :
    overwrite em.read (writesOf .clearPeerList) = em.read ↔ em.hasPeers = false := by
  rw [hasPeers_eq_false_iff hinit, writesOf]
  constructor
  · intro h i hi
    have hbyte := congrFun h (EepromAddresses.peerList + i)
    rw [overwrite_replicate, if_pos (by omega)] at hbyte
    exact hbyte.symm
  · intro h
    funext i
    rw [overwrite_replicate]
    split
    · next hrange =>
      have hbyte := h (i - EepromAddresses.peerList) (by omega)
      rw [Nat.add_sub_cancel' hrange.1] at hbyte
      exact hbyte.symm
    · rfl

/-- A save without a check is silent exactly when the flag is up and its bytes are in place. -/
theorem silent_of_unchecked_iff (h : Development em) {c : SaveCall} (hfield : OnField c)
    (hunchecked : Unchecked c) :
    Silent em (.save c hfield) ↔
      em.dirty = true ∧ overwrite em.read (writesOf c) = em.read := by
  have hrun := run_of_unchecked h hunchecked
  have hread : (c.run em).read = overwrite em.read (writesOf c) := by
    rw [hrun, bytesOf_eq_writesOf hfield]
    exact read_deferredSave em (writesOf_inRange c)
  have himage : ((Operation.save c hfield).run em).memory.cache = em.memory.cache ↔
      overwrite em.read (writesOf c) = em.read := by
    rw [← hread]
    exact cache_eq_iff
  have hdirty : ((Operation.save c hfield).run em).dirty = true := by
    rw [Operation.run, hrun]
    rfl
  constructor
  · rintro ⟨hsame, hflag⟩
    refine ⟨?_, himage.mp hsame⟩
    rw [← Bool.not_eq_false]
    intro hclean
    rw [hflag hclean] at hdirty
    cases hdirty
  · rintro ⟨hup, hsame⟩
    refine ⟨himage.mpr hsame, fun hclean => ?_⟩
    rw [hup] at hclean
    cases hclean

end Saves

/-! ## Runs -/

section Runs

variable {em : EepromManager}

/-- **An operation is silent exactly when it is idle.** -/
theorem silent_iff (h : Development em) (op : Operation) : Silent em op ↔ Idle em op := by
  cases op with
  | load k => exact iff_of_true ⟨rfl, fun hclean => hclean⟩ trivial
  | flushIfDirty millis =>
      have hflushed := flushed_flushIfDirty em millis
      exact iff_of_true ⟨hflushed.image, hflushed.flag_kept⟩ trivial
  | forceFlush millis =>
      have hflushed := flushed_forceFlush em millis
      exact iff_of_true ⟨hflushed.image, hflushed.flag_kept⟩ trivial
  | save c hfield =>
      by_cases hunchecked : Unchecked c
      · rw [silent_of_unchecked_iff h hfield hunchecked]
        rcases hunchecked with rfl | ⟨id, rfl⟩
        · rw [peers_in_place_iff h.isInitialized, Idle]
        · rw [nodeId_in_place_iff, Idle]
      · have hsame := run_of_checked h hfield hunchecked
        have hidle : Idle em (.save c hfield) := by
          cases c with
          | clearPeerList => exact absurd (.inl rfl) hunchecked
          | nodeId id => exact absurd (.inr ⟨id, rfl⟩) hunchecked
          | _ => trivial
        refine iff_of_true ⟨?_, fun hclean => ?_⟩ hidle
        · rw [Operation.run, hsame]
        · rw [Operation.run, hsame]
          exact hclean

/-- No operation leaves development mode. -/
theorem Development.run (h : Development em) (op : Operation) : Development (op.run em) := by
  cases op with
  | save c hfield =>
      obtain ⟨hinit, hdev⟩ := run_mode em c
      exact ⟨hinit.trans h.isInitialized, hdev.trans h.isDevMode⟩
  | load k => exact h
  | flushIfDirty millis =>
      have hflushed := flushed_flushIfDirty em millis
      exact ⟨hflushed.isInitialized.trans h.isInitialized, hflushed.isDevMode.trans h.isDevMode⟩
  | forceFlush millis =>
      have hflushed := flushed_forceFlush em millis
      exact ⟨hflushed.isInitialized.trans h.isInitialized, hflushed.isDevMode.trans h.isDevMode⟩

/-- A node in development mode stays in it. -/
theorem Development.runOperations (h : Development em) (ops : List Operation) :
    Development (runOperations em ops) := by
  induction ops generalizing em with
  | nil => exact h
  | cons op ops ih => exact ih (h.run op)

/-- What silent operations leave of the manager at the start of the run. -/
structure Kept (start em : EepromManager) : Prop where
  development : Development em
  image : em.memory.cache = start.memory.cache
  flash : em.memory.backing = start.memory.backing ∨
    start.dirty = true ∧ em.memory.backing = start.memory.cache
  flag : em.dirty = true → start.dirty = true

/-- A flush of what is in place keeps the image. -/
theorem Kept.of_flushed {start em' : EepromManager} (h : Kept start em) (hflushed : Flushed em em')
    (hdevelopment : Development em') : Kept start em' where
  development := hdevelopment
  image := hflushed.image.trans h.image
  flash := by
    rcases hflushed.flash with hsame | ⟨hdirty, hcommitted⟩
    · rw [hsame]
      exact h.flash
    · exact .inr ⟨h.flag hdirty, hcommitted.trans h.image⟩
  flag hdirty := h.flag (hflushed.flag hdirty)

/-- A silent operation keeps the image. -/
theorem Kept.run {start : EepromManager} (h : Kept start em) {op : Operation}
    (hsilent : Silent em op) : Kept start (op.run em) := by
  have hdevelopment := h.development.run op
  cases op with
  | load k => exact h
  | flushIfDirty millis => exact h.of_flushed (flushed_flushIfDirty em millis) hdevelopment
  | forceFlush millis => exact h.of_flushed (flushed_forceFlush em millis) hdevelopment
  | save c hfield =>
      refine ⟨hdevelopment, hsilent.image.trans h.image, ?_, fun hup => h.flag ?_⟩
      · -- neither kind of save commits in development mode
        have hflash : ((Operation.save c hfield).run em).memory.backing = em.memory.backing := by
          by_cases hunchecked : Unchecked c
          · rw [Operation.run, run_of_unchecked h.development hunchecked]
            exact Memory.writeAll_backing em.memory _
          · rw [Operation.run, run_of_checked h.development hfield hunchecked]
        rw [hflash]
        exact h.flash
      · rw [← Bool.not_eq_false]
        intro hclean
        rw [hsilent.flag hclean] at hup
        cases hup

/-- The last operation is done last. -/
theorem runOperations_concat (em : EepromManager) (ops : List Operation) (op : Operation) :
    runOperations em (ops ++ [op]) = op.run (runOperations em ops) := by
  rw [runOperations, List.foldl_append]
  rfl

/-- Runs of idle operations never write. -/
theorem neverWrites_of_idle (h : Development em) {ops : List Operation}
    (hidle : ∀ before op after, ops = before ++ op :: after →
      Idle (runOperations em before) op) : NeverWrites em ops := by
  have hsilent : ∀ before op after, ops = before ++ op :: after →
      Silent (runOperations em before) op :=
    fun before op after heq =>
      (silent_iff (h.runOperations before) op).mpr (hidle before op after heq)
  have hstart : Kept em em := ⟨h, rfl, .inl rfl, fun hdirty => hdirty⟩
  have hkept : ∀ before after, ops = before ++ after → Kept em (runOperations em before) :=
    foldl_visits_of_steps (fun _ _ hkept hstep => hkept.run hstep) hstart hsilent
  exact ⟨fun before after heq => (hkept before after heq).image,
    fun before after heq => (hkept before after heq).flash,
    fun before op after heq => (hsilent before op after heq).flag⟩

/-- **Development mode never writes exactly when all operations are idle.**
SOURCE: EEPROM_Manager.cpp:164-568 -/
theorem neverWrites_iff (h : Development em) (ops : List Operation) :
    NeverWrites em ops ↔
      ∀ before op after, ops = before ++ op :: after → Idle (runOperations em before) op := by
  refine ⟨fun hwrites before op after heq => ?_, neverWrites_of_idle h⟩
  rw [← silent_iff (h.runOperations before)]
  refine ⟨?_, hwrites.flag before op after heq⟩
  have hafter := hwrites.image (before ++ [op]) after (by simp [heq])
  rw [runOperations_concat] at hafter
  exact hafter.trans (hwrites.image before (op :: after) heq).symm

/-- With the flag down at the start, idle runs are those without the two saves. -/
theorem idle_iff_of_clean (h : Development em) (hclean : em.dirty = false) (ops : List Operation) :
    (∀ before op after, ops = before ++ op :: after → Idle (runOperations em before) op) ↔
      ∀ c hfield, .save c hfield ∈ ops → ¬Unchecked c := by
  constructor
  · intro hidle c hfield hmem hunchecked
    obtain ⟨before, after, heq⟩ := List.append_of_mem hmem
    have hup : (runOperations em before).dirty = true := by
      have hstep := hidle before _ after heq
      rcases hunchecked with rfl | ⟨id, rfl⟩
      · exact hstep.1
      · exact hstep.1
    have hwrites := neverWrites_of_idle h hidle
    have hdown : ∀ before after, ops = before ++ after →
        (runOperations em before).dirty = false :=
      foldl_visits_of_steps (P := fun em : EepromManager => em.dirty = false)
        (Q := fun em op => em.dirty = false → (Operation.run em op).dirty = false)
        (fun _ _ hdown hstep => hstep hdown) hclean hwrites.flag
    rw [hdown before _ heq] at hup
    cases hup
  · intro hchecked before op after heq
    cases op with
    | save c hfield =>
        have hmem : Operation.save c hfield ∈ ops := by
          rw [heq]
          exact List.mem_append_right before List.mem_cons_self
        have hguarded := hchecked c hfield hmem
        cases c with
        | clearPeerList => exact absurd (.inl rfl) hguarded
        | nodeId id => exact absurd (.inr ⟨id, rfl⟩) hguarded
        | _ => trivial
    | _ => trivial

end Runs

/-! ## A blank device in development mode -/

/-- `init()` and `setDevMode(true)` on a blank EEPROM. -/
def developer : EepromManager := (EepromManager.powerUp blankImage).init.setDevMode true

/-- The developer's node is in development mode. -/
theorem development_developer : Development developer := ⟨rfl, rfl⟩

/-- The same, with a node ID saved before the mode is switched on. -/
def lateDeveloper : EepromManager :=
  ((SaveCall.nodeId 7).run (EepromManager.powerUp blankImage).init).setDevMode true

/-- The late developer's node is in development mode too. -/
theorem development_lateDeveloper : Development lateDeveloper := ⟨rfl, rfl⟩

/-- The role, the node ID that waits to be committed and the peer list are saved and cleared,
and a flush commits the node ID. -/
def idleSaves : List Operation :=
  [.save (.masterFlag true) trivial, .save (.nodeId 7) trivial, .save .clearPeerList trivial,
    .load .adapterType, .flushIfDirty 0, .forceFlush 0, .save (.masterFlag false) trivial]

/-- The two saves without a check find nothing to do, so nothing is written. -/
theorem neverWrites_iff_idleSaves :
    lateDeveloper.dirty = true ∧ NeverWrites lateDeveloper idleSaves := by
  refine ⟨rfl, (neverWrites_iff development_lateDeveloper idleSaves).mpr ?_⟩
  simp only [runOperations, idleSaves, foldl_steps_cons]
  refine ⟨trivial, ⟨rfl, by decide +kernel⟩, ⟨rfl, by decide +kernel⟩, trivial, trivial, trivial,
    trivial, ?_⟩
  intro before op after heq
  simp at heq

/-- The node ID is stored and committed in development mode.
SOURCE: EEPROM_Manager.cpp:555-561 -/
theorem not_neverWrites_nodeId :
    Development developer ∧ developer.dirty = false ∧
      ¬NeverWrites developer [.save (.nodeId 7) trivial, .forceFlush 0] := by
  refine ⟨development_developer, rfl, fun h => ?_⟩
  have hup := h.flag [] (.save (.nodeId 7) trivial) [.forceFlush 0] rfl rfl
  cases hup

end DevMode

end LatticeNodes.Analysis
