import LatticeNodes.Analysis.RelayStages

/-!
# The gate of the drain loop

What passes the two checks before dispatch, and that nothing else in a receive step touches the
replay cache: after a step the cache is what the gate made of it.
-/

set_option autoImplicit false

namespace LatticeNodes.Analysis

open LatticeNodes.Program BoundedFifo

/-- What a slot of the cache holds before anything is recorded in it. -/
def blankEntry : ReplayEntry := ⟨zeroMac, 0, 0⟩

/-- The zeroed cache holds blank keys. -/
theorem zeroReplayCache_blank : ∀ e ∈ zeroReplayCache.slots, e = blankEntry :=
  fun _ he => List.eq_of_mem_replicate (Vector.mem_toList_iff.mpr he)

/-- The key of a message with an epoch is not that of a blank slot. -/
theorem replayEntry_ne_blank {msg : MeshMessage} (h : 0 < msg.epochNum) :
    Mesh.replayEntry msg ≠ blankEntry := by
  intro heq
  have hzero : msg.epochNum = 0 := congrArg ReplayEntry.epoch heq
  rw [hzero] at h
  exact absurd h (by decide)

/-- The cache is asked about a checked message, and lets it through or not.
SOURCE: Mesh.cpp:570-582 -/
theorem passGate_checked {m : Mesh} {msg : MeshMessage} (h : Mesh.replayChecked msg = true) :
    (m.passGate msg).isSome = !(m.replayCache.check (Mesh.replayEntry msg)).1 ∧
      ((m.passGate msg).getD m).replayCache =
        (m.replayCache.check (Mesh.replayEntry msg)).2 := by
  have hversion : msg.protoVersion = Config.protoVersion := by
    rw [Mesh.replayChecked, Bool.and_eq_true, beq_iff_eq] at h
    exact h.1
  unfold Mesh.passGate
  rw [if_neg (fun hbad => hbad.2 hversion), if_pos h]
  by_cases hmem : Mesh.replayEntry msg ∈ m.replayCache.slots
  · simp [Mesh.isReplay, Ring.check_of_mem hmem]
  · simp [Mesh.isReplay, Ring.check_of_notMem hmem]

/-- An unchecked message leaves the cache alone. -/
theorem passGate_unchecked {m : Mesh} {msg : MeshMessage} (h : Mesh.replayChecked msg = false) :
    (msg.protoVersion = 0 ∨ msg.protoVersion = Config.protoVersion →
      (m.passGate msg).isSome = true) ∧
      ((m.passGate msg).getD m).replayCache = m.replayCache := by
  unfold Mesh.passGate
  rw [h, if_neg Bool.false_ne_true]
  split
  · next hbad =>
    refine ⟨fun hversion => ?_, rfl⟩
    rcases hversion with hzero | hcurrent
    · exact absurd hzero hbad.1
    · exact absurd hcurrent hbad.2
  · exact ⟨fun _ => rfl, rfl⟩

/-- After a receive step the cache is what the gate made of it.
SOURCE: Mesh.cpp:563-604 -/
theorem handleEntry_replayCache (m : Mesh) (env : Env) (entry : RecvQueueEntry) :
    (m.handleEntry env entry).1.replayCache = ((m.passGate entry.msg).getD m).replayCache := by
  unfold Mesh.handleEntry
  cases hgate : m.passGate entry.msg with
  | none => rfl
  | some m' =>
      simp only [(dispatch_handlerKept _ env entry.msg).replayCache, Option.getD_some]
      unfold Mesh.updatePeerLastSeen
      split <;> rfl

/-- A receive step adds at most the entry's own key to the cache. -/
theorem mem_replayCache_handleEntry {m : Mesh} {env : Env} {entry : RecvQueueEntry}
    {e : ReplayEntry} (h : e ∈ (m.handleEntry env entry).1.replayCache.slots) :
    e ∈ m.replayCache.slots ∨ e = Mesh.replayEntry entry.msg := by
  rw [handleEntry_replayCache] at h
  cases hchecked : Mesh.replayChecked entry.msg with
  | true =>
      rw [(passGate_checked hchecked).2] at h
      exact Ring.mem_of_mem_check h
  | false =>
      rw [(passGate_unchecked hchecked).2] at h
      exact .inl h

end LatticeNodes.Analysis
