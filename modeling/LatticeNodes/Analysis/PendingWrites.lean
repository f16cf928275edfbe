import LatticeNodes.Analysis.EepromCalls
import LatticeNodes.Analysis.EepromInit
import LatticeNodes.Library.TransitionSystem

/-!
# Writes that wait for a commit

Runs of the manager over a medium that may refuse commits.  The flag is to be up as long as a
byte waits.  A deferred save raises it, but a flush lowers it whatever `commit()` returned, and
a save that commits at once never raises it: `remembers_iff` says which runs forget nothing.
-/

set_option autoImplicit false

namespace LatticeNodes.Analysis

open LatticeNodes.Program CachedMemory EepromFields

namespace PendingWrites

/-! ## Statement -/

/-- The operations of the manager.
SOURCE: EEPROM_Manager.h:88-170 -/
inductive Call where
  | init
  | setDevMode (devMode : Bool)
  | save (c : SaveCall)
  | flushIfDirty (millis : UInt32)
  | forceFlush (millis : UInt32)

def Call.run (em : EepromManager) : Call → EepromManager
  | .init => em.init
  | .setDevMode devMode => em.setDevMode devMode
  | .save c => c.run em
  | .flushIfDirty millis => em.flushIfDirty millis
  | .forceFlush millis => em.forceFlush millis

def runCalls (em : EepromManager) (calls : List Call) : EepromManager :=
  calls.foldl Call.run em

/-- The manager before its first operation; the medium may refuse any of the commits to come.
SOURCE: EEPROM_Manager.cpp:7-8 -/
structure Start (em : EepromManager) : Prop where
  isInitialized : em.isInitialized = false
  dirty : em.dirty = false
  synced : em.memory.Synced

/-- While RAM and flash differ the flag is up, and a flush that is due attempts a commit. -/
structure Remembers (em : EepromManager) : Prop where
  dirty : ¬em.memory.Synced → em.dirty = true
  forceFlush : ¬em.memory.Synced → ∀ millis, (em.forceFlush millis).memory = em.memory.commit
  flushIfDirty : ¬em.memory.Synced → ∀ millis,
    eepromFlushIntervalMs ≤ millis - em.lastFlushMs →
      (em.flushIfDirty millis).memory = em.memory.commit

/-- The call forgets nothing: no commit that is refused lowers the flag over pending bytes or
leaves bytes pending under a lowered flag.
SOURCE: EEPROM_Manager.cpp:169-186, 421-596 -/
def Spares (em : EepromManager) : Call → Prop
  | .init => em.isInitialized = false → InitStores em
  | .setDevMode _ => True
  | .save c => Accepts em c → commitsAtOnce c = true → em.memory.Refuses 0 →
      em.dirty = true ∨ (em.write (bytesOf c)).memory.Synced
  | .flushIfDirty millis => em.dirty = true → eepromFlushIntervalMs ≤ millis - em.lastFlushMs →
      em.memory.Refuses 0 → em.memory.Synced
  | .forceFlush _ => em.dirty = true → em.memory.Refuses 0 → em.memory.Synced

/-! ## The flag -/

section Flag

variable {em : EepromManager}

/-- A forced flush of a dirty manager commits.
SOURCE: EEPROM_Manager.cpp:180-186 -/
theorem forceFlush_dirty (hdirty : em.dirty = true) (millis : UInt32) :
    em.forceFlush millis = { em.commit with dirty := false, lastFlushMs := millis } := by
  simp [EepromManager.forceFlush, hdirty]

/-- A forced flush of a clean manager does nothing.
SOURCE: EEPROM_Manager.cpp:180-186 -/
theorem forceFlush_clean (hclean : ¬em.dirty = true) (millis : UInt32) :
    em.forceFlush millis = em := by
  simp [EepromManager.forceFlush, hclean]

/-- A timed flush that is due commits.
SOURCE: EEPROM_Manager.cpp:169-178 -/
theorem flushIfDirty_due (hdirty : em.dirty = true) {millis : UInt32}
    (hdue : eepromFlushIntervalMs ≤ millis - em.lastFlushMs) :
    em.flushIfDirty millis = { em.commit with dirty := false, lastFlushMs := millis } := by
  have hnotEarly : ¬millis - em.lastFlushMs < eepromFlushIntervalMs := UInt32.not_lt.mpr hdue
  simp [EepromManager.flushIfDirty, hdirty, hnotEarly]

/-- A timed flush that is not due does nothing.
SOURCE: EEPROM_Manager.cpp:169-178 -/
theorem flushIfDirty_early (millis : UInt32)
    (h : ¬(em.dirty = true ∧ eepromFlushIntervalMs ≤ millis - em.lastFlushMs)) :
    em.flushIfDirty millis = em := by
  unfold EepromManager.flushIfDirty
  split
  · rfl
  · next hdirty =>
    have hearly : millis - em.lastFlushMs < eepromFlushIntervalMs := by
      rw [← UInt32.not_le]
      exact fun hdue => h ⟨by simpa using hdirty, hdue⟩
    rw [if_pos hearly]

/-- The flag is all that a flush looks at. -/
theorem remembers_iff_covers : Remembers em ↔ Memory.Covers em.dirty em.memory := by
  constructor
  · intro h hclean
    by_contra hpending
    rw [h.dirty hpending] at hclean
    cases hclean
  · intro h
    have hdirty : ¬em.memory.Synced → em.dirty = true := by
      intro hpending
      rw [← Bool.not_eq_false]
      exact fun hclean => hpending (h hclean)
    refine ⟨hdirty, fun hpending millis => ?_, fun hpending millis hdue => ?_⟩
    · rw [forceFlush_dirty (hdirty hpending)]
      rfl
    · rw [flushIfDirty_due (hdirty hpending) hdue]
      rfl

/-- A flush covers the memory exactly when its commit does. -/
theorem covers_flushed : Memory.Covers false em.memory.commit ↔
    (em.memory.Refuses 0 → em.memory.Synced) := by
  rw [Memory.covers_false_iff, Memory.commit_synced_iff]

end Flag

/-! ## One call -/

/-- What holds as long as nothing is forgotten. -/
structure Covered (em : EepromManager) : Prop where
  covers : Memory.Covers em.dirty em.memory
  /-- Before `init()` nothing waits. -/
  fresh : em.isInitialized = false → em.dirty = false

/-- At the start nothing waits. -/
theorem Start.covered {em : EepromManager} (h : Start em) : Covered em :=
  ⟨h.synced.covers em.dirty, fun _ => h.dirty⟩

section Calls

variable {em : EepromManager}

/-- **A call covers the memory exactly when it spares the flag.** -/
theorem Covered.covers_run_iff (h : Covered em) (c : Call) :
    Memory.Covers (c.run em).dirty (c.run em).memory ↔ Spares em c := by
  cases c with
  | init =>
      by_cases hinit : em.isInitialized = true
      · have hsame : em.init = em := if_pos hinit
        rw [Call.run, hsame]
        simp [Spares, hinit, h.covers]
      · have hnew : em.isInitialized = false := by simpa using hinit
        have hclean := h.fresh hnew
        have hsynced : em.memory.Synced := h.covers hclean
        rw [Call.run, (init_flags em).2, hclean, Memory.covers_false_iff,
          init_synced_iff hnew hsynced]
        simp [Spares, hnew]
  | setDevMode devMode => simp [Call.run, Spares, EepromManager.setDevMode, h.covers]
  | save c =>
      by_cases haccepts : Accepts em c
      · rw [Call.run, run_of_accepts haccepts, store]
        cases hkind : commitsAtOnce c with
        | true =>
            show Memory.Covers em.dirty (em.committedSave (bytesOf c)).memory ↔ _
            rw [Memory.Covers, committedSave_synced_iff]
            simp only [Spares, haccepts, hkind, forall_const]
            cases em.dirty with
            | true => simp
            | false => simp
        | false =>
            have hraised : Memory.Covers true (em.deferredSave (bytesOf c)).memory :=
              Memory.covers_true _
            simp only [Spares, hkind]
            exact iff_of_true hraised fun _ hcommits => absurd hcommits Bool.false_ne_true
      · rw [Call.run, run_of_not_accepts haccepts]
        exact iff_of_true h.covers fun haccepted => absurd haccepted haccepts
  | flushIfDirty millis =>
      by_cases hflush : em.dirty = true ∧ eepromFlushIntervalMs ≤ millis - em.lastFlushMs
      · rw [Call.run, flushIfDirty_due hflush.1 hflush.2]
        exact covers_flushed.trans (by simp [Spares, hflush.1, hflush.2])
      · rw [Call.run, flushIfDirty_early millis hflush]
        exact iff_of_true h.covers fun hdirty hdue => absurd ⟨hdirty, hdue⟩ hflush
  | forceFlush millis =>
      by_cases hdirty : em.dirty = true
      · rw [Call.run, forceFlush_dirty hdirty]
        exact covers_flushed.trans (by simp [Spares, hdirty])
      · rw [Call.run, forceFlush_clean hdirty]
        exact iff_of_true h.covers fun hraised => absurd hraised hdirty

/-- Only an initialised manager raises the flag. -/
theorem Covered.fresh_run (h : Covered em) (c : Call) (hnew : (c.run em).isInitialized = false) :
    (c.run em).dirty = false := by
  cases c with
  | init =>
      rw [Call.run, (init_flags em).1] at hnew
      cases hnew
  | setDevMode devMode => exact h.fresh hnew
  | save c =>
      by_cases haccepts : Accepts em c
      · have hinit : (c.run em).isInitialized = true := by
          rw [run_of_accepts haccepts, store]
          split
          · exact haccepts.isInitialized
          · exact haccepts.isInitialized
        rw [Call.run, hinit] at hnew
        cases hnew
      · rw [Call.run, run_of_not_accepts haccepts] at hnew ⊢
        exact h.fresh hnew
  | flushIfDirty millis =>
      by_cases hflush : em.dirty = true ∧ eepromFlushIntervalMs ≤ millis - em.lastFlushMs
      · rw [Call.run, flushIfDirty_due hflush.1 hflush.2]
      · rw [Call.run, flushIfDirty_early millis hflush] at hnew ⊢
        exact h.fresh hnew
  | forceFlush millis =>
      by_cases hdirty : em.dirty = true
      · rw [Call.run, forceFlush_dirty hdirty]
      · rw [Call.run, forceFlush_clean hdirty] at hnew ⊢
        exact h.fresh hnew

end Calls

/-- **Nothing is forgotten in a run exactly when every refused commit either leaves the flag up
or leaves no byte pending.**
SOURCE: EEPROM_Manager.cpp:36-596 -/
theorem remembers_iff {em : EepromManager} (hstart : Start em) (calls : List Call) :
    (∀ before after, calls = before ++ after → Remembers (runCalls em before)) ↔
      ∀ before c after, calls = before ++ c :: after → Spares (runCalls em before) c := by
  refine TransitionSystem.foldl_holds_iff (fun em h => remembers_iff_covers.mpr h.covers)
    (fun em c h hspares => ⟨(h.covers_run_iff c).mpr hspares, h.fresh_run c⟩)
    (fun em c h hnot hafter => ?_) hstart.covered calls
  exact hnot ((h.covers_run_iff c).mp (remembers_iff_covers.mp hafter))

/-! ## A blank EEPROM -/

/-- A blank device; `faults` says which commits its flash refuses. -/
def blankStart (faults : List Bool) : EepromManager :=
  { EepromManager.powerUp blankImage with memory := ⟨blankImage, blankImage, faults⟩ }

/-- A blank device is a start, whatever its flash refuses. -/
theorem start_blankStart (faults : List Bool) : Start (blankStart faults) := ⟨rfl, rfl, rfl⟩

/-- The role is saved and flushed. -/
def saveRole : List Call := [.init, .save (.masterFlag true), .forceFlush 0]

/-- A role that waits for a flush which is refused. -/
theorem remembers_iff_saveRole :
    (∀ before after, saveRole = before ++ after →
      Remembers (runCalls (blankStart []) before)) ↔
      ∀ before c after, saveRole = before ++ c :: after →
        Spares (runCalls (blankStart []) before) c :=
  remembers_iff (start_blankStart []) saveRole

/-- The two commits of `init()` succeed, that of the flush is refused: the flag is down and the
role is in RAM only.
SOURCE: EEPROM_Manager.cpp:180-186 -/
theorem not_remembers_refused :
    Start (blankStart [false, false, true]) ∧
      ¬Remembers (runCalls (blankStart [false, false, true]) saveRole) := by
  refine ⟨start_blankStart _, fun h => ?_⟩
  have hclean : (runCalls (blankStart [false, false, true]) saveRole).dirty = false := rfl
  have hpending : PendingAt (runCalls (blankStart [false, false, true]) saveRole)
      EepromAddresses.masterFlag := by
    show (1 : UInt8) ≠ 0xFF
    decide
  rw [h.dirty hpending.not_synced] at hclean
  cases hclean

end PendingWrites

end LatticeNodes.Analysis
