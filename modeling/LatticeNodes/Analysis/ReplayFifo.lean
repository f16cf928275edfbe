import LatticeNodes.Analysis.ReplayGate

/-!
# The replay cache as a FIFO set

`isReplay` called on one message after another, from the zeroed cache, with the list of the
triples the calls recorded.  The cache holds the newest 16 of them (`Recent.cache`), no two of
these are the same (`Recent.nodup`), and the slot written next holds the oldest.
-/

set_option autoImplicit false

namespace LatticeNodes.Analysis

open LatticeNodes.Program BoundedFifo

namespace ReplayFifo

/-- The node, and the triples recorded so far, newest first. -/
structure Asked where
  mesh : Mesh
  recorded : List ReplayEntry

/-- One call of `isReplay`.
SOURCE: Mesh.cpp:524-537 -/
def Asked.call (s : Asked) (msg : MeshMessage) : Asked where
  mesh := (s.mesh.isReplay msg).2
  recorded :=
    if (s.mesh.isReplay msg).1 then s.recorded else Mesh.replayEntry msg :: s.recorded

/-- The calls for a list of messages, from a node that has recorded nothing. -/
def calls (m : Mesh) (msgs : List MeshMessage) : Asked :=
  msgs.foldl Asked.call ⟨m, []⟩

/-- The cache holds the newest 16 of the recorded triples, and these are distinct. -/
structure Recent (s : Asked) : Prop where
  cache : s.mesh.replayCache = zeroReplayCache.recordAll s.recorded
  nodup : (s.recorded.take replayCacheSize).Nodup

namespace Recent

variable {s : Asked} {msg : MeshMessage}

/-- A triple is found exactly among the newest 16. -/
theorem found_iff (h : Recent s) (hepoch : 0 < msg.epochNum) :
    Mesh.replayEntry msg ∈ s.mesh.replayCache.slots ↔
      Mesh.replayEntry msg ∈ s.recorded.take replayCacheSize := by
  rw [h.cache, Ring.mem_recordAll zeroReplayCache_blank (replayEntry_ne_blank hepoch)]

/-- The slot written next holds the oldest of the newest 16. -/
theorem oldest (h : Recent s) :
    s.mesh.replayCache.slots[s.mesh.replayCache.next] =
      (s.recorded[replayCacheSize - 1]?).getD blankEntry :=
  Ring.getElem_next zeroReplayCache_blank h.cache

/-- A recorded key is in one slot. -/
theorem slots_inj (h : Recent s) {i j : Fin replayCacheSize}
    (hsame : s.mesh.replayCache.slots[i] = s.mesh.replayCache.slots[j])
    (hrecorded : s.mesh.replayCache.slots[i] ≠ blankEntry) : i = j := by
  have hcache := h.cache
  generalize s.mesh.replayCache = cache at hcache hsame hrecorded
  subst hcache
  exact Ring.recordAll_slots_inj zeroReplayCache_blank h.nodup hsame hrecorded

/-- One call keeps the cache the newest 16, without duplicates: it records only what it does not
find.
SOURCE: Mesh.cpp:524-537 -/
theorem call (h : Recent s) (hepoch : 0 < msg.epochNum) : Recent (s.call msg) := by
  by_cases hmem : Mesh.replayEntry msg ∈ s.mesh.replayCache.slots
  · have hcheck := Ring.check_of_mem hmem
    have hsame : s.call msg = s := by
      simp [Asked.call, Mesh.isReplay, hcheck]
    rwa [hsame]
  · have hcheck := Ring.check_of_notMem hmem
    have hrecorded : (s.call msg).recorded = Mesh.replayEntry msg :: s.recorded := by
      simp [Asked.call, Mesh.isReplay, hcheck]
    have hcache : (s.call msg).mesh.replayCache =
        s.mesh.replayCache.record (Mesh.replayEntry msg) := by
      simp [Asked.call, Mesh.isReplay, hcheck]
    rw [h.found_iff hepoch] at hmem
    refine ⟨?_, ?_⟩
    · rw [hcache, hrecorded, h.cache, Ring.recordAll_cons]
    · rw [hrecorded, List.take_cons (by decide), List.nodup_cons]
      have hinit : s.recorded.take (replayCacheSize - 1) <+: s.recorded.take replayCacheSize :=
        List.take_prefix_take_left (by decide)
      exact ⟨fun hin => hmem (hinit.subset hin), h.nodup.sublist hinit.sublist⟩

/-- Calls one after the other keep the slots recent. -/
theorem foldl (h : Recent s) {msgs : List MeshMessage} (hepochs : ∀ msg ∈ msgs, 0 < msg.epochNum) :
    Recent (msgs.foldl Asked.call s) := by
  induction msgs generalizing s with
  | nil => exact h
  | cons msg msgs ih =>
      rw [List.foldl_cons]
      apply ih (h.call (hepochs msg List.mem_cons_self))
      exact fun later hlater => hepochs later (List.mem_cons_of_mem _ hlater)

end Recent

/-- From the zeroed cache on the slots are the last new keys. -/
theorem recent_calls {m : Mesh} (hzero : m.replayCache = zeroReplayCache)
    {msgs : List MeshMessage} (hepochs : ∀ msg ∈ msgs, 0 < msg.epochNum) :
    Recent (calls m msgs) :=
  @Recent.foldl ⟨m, []⟩ ⟨hzero, List.nodup_nil⟩ msgs hepochs

/-! ## Result -/

/-- The triple takes the place of the oldest of the newest 16, or of a blank slot while fewer
are recorded; every other slot and member stays. -/
def ReplacesOldest (s : Asked) (msg : MeshMessage) : Prop :=
  s.mesh.replayCache.slots[s.mesh.replayCache.next] =
      (s.recorded[replayCacheSize - 1]?).getD blankEntry ∧
    (s.call msg).mesh =
      { s.mesh with
        replayCache :=
          { slots := s.mesh.replayCache.slots.set s.mesh.replayCache.next (Mesh.replayEntry msg)
            next := s.mesh.replayCache.next + 1 } }

/-- No two slots hold the same recorded triple. -/
def NoDuplicate (cache : Ring ReplayEntry replayCacheSize) : Prop :=
  ∀ i j : Fin replayCacheSize,
    cache.slots[i] = cache.slots[j] → cache.slots[i] ≠ blankEntry → i = j

/-- **The replay cache is a FIFO set of 16 triples.**  After any calls a further call returns true
exactly for one of the last 16 triples recorded, and then changes nothing; otherwise it records
its triple in place of the oldest one; no triple is ever in two slots.
SOURCE: Mesh.cpp:524-537, Mesh.h:164-177 -/
theorem isReplay_fifo {m : Mesh} (hzero : m.replayCache = zeroReplayCache)
    {msgs : List MeshMessage} (hepochs : ∀ msg ∈ msgs, 0 < msg.epochNum) {msg : MeshMessage}
    (hepoch : 0 < msg.epochNum) :
    (((calls m msgs).mesh.isReplay msg).1 = true ↔
        Mesh.replayEntry msg ∈ (calls m msgs).recorded.take replayCacheSize) ∧
      (((calls m msgs).mesh.isReplay msg).1 = true →
        ((calls m msgs).mesh.isReplay msg).2 = (calls m msgs).mesh) ∧
      (((calls m msgs).mesh.isReplay msg).1 = false → ReplacesOldest (calls m msgs) msg) ∧
      NoDuplicate (calls m msgs).mesh.replayCache := by
  have hrecent := recent_calls hzero hepochs
  generalize calls m msgs = s at hrecent ⊢
  refine ⟨?_, ?_, ?_, ?_⟩
  · rw [← hrecent.found_iff hepoch, Mesh.isReplay, Ring.check_fst_iff]
  · intro hfound
    rw [Mesh.isReplay, Ring.check_fst_iff] at hfound
    rw [Mesh.isReplay, Ring.check_of_mem hfound]
  · intro hnew
    rw [Mesh.isReplay, Bool.eq_false_iff, ne_eq, Ring.check_fst_iff] at hnew
    refine ⟨?_, ?_⟩
    · exact Recent.oldest hrecent
    · rw [Asked.call, Mesh.isReplay, Ring.check_of_notMem hnew]
      rfl
  · intro i j hsame hrecorded
    exact hrecent.slots_inj hsame hrecorded

/-- A message of the given epoch. -/
def message (epoch : UInt32) : MeshMessage :=
  { MeshMessage.zero with
    epochNum := epoch
    seqNum := 42 }

/-- The first message again, after it and another one. -/
theorem isReplay_fifo_again :
    (((calls Mesh.new [message 1, message 2]).mesh.isReplay (message 1)).1 = true ↔
        Mesh.replayEntry (message 1) ∈
          (calls Mesh.new [message 1, message 2]).recorded.take replayCacheSize) ∧
      (((calls Mesh.new [message 1, message 2]).mesh.isReplay (message 1)).1 = true →
        ((calls Mesh.new [message 1, message 2]).mesh.isReplay (message 1)).2 =
          (calls Mesh.new [message 1, message 2]).mesh) ∧
      (((calls Mesh.new [message 1, message 2]).mesh.isReplay (message 1)).1 = false →
        ReplacesOldest (calls Mesh.new [message 1, message 2]) (message 1)) ∧
      NoDuplicate (calls Mesh.new [message 1, message 2]).mesh.replayCache := by
  have hepochs : ∀ msg ∈ [message 1, message 2], 0 < msg.epochNum := by
    intro msg hmsg
    rcases List.mem_pair.mp hmsg with rfl | rfl
    · decide
    · decide
  exact isReplay_fifo rfl hepochs (by decide)

end ReplayFifo

end LatticeNodes.Analysis
