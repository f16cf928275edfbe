import LatticeNodes.Program.MeshHandlers

/-!
# The stages of `processMasterBeacon`

`TrustStep` lists the four ways a beacon passes the trust check, each with its guard, what it
stores and what it saves; `admitBeacon_inv` and `admitBeacon_none` say that these are all.
`processMasterBeacon_inv` puts the stages together: a beacon is dropped without a trace, or
passes one trust step and then the bookkeeping, route and relay stages.
-/

set_option autoImplicit false

namespace LatticeNodes.Analysis

open LatticeNodes.Program

/-- How the trust check accepts a beacon.
SOURCE: Mesh.cpp:838-870 -/
inductive TrustStep (m : Mesh) (env : Env) (msg : MeshMessage) : Mesh → List Effect → Prop
  /-- No master is known yet: the origin becomes the primary. -/
  | learnPrimary (hno : m.hasMasterMac = false) :
      TrustStep m env msg
        { m with knownMasterMac := msg.originMacAddress, hasMasterMac := true }
        [.saveKnownMasterMac msg.originMacAddress]
  /-- Dual-master mode with a free slot: the origin becomes the secondary. -/
  | learnSecondary (hhas : m.hasMasterMac = true)
      (hprimary : msg.originMacAddress ≠ m.knownMasterMac)
      (hdual : m.dualMasterMode = true) (hfree : m.hasMasterMacSecondary = false) :
      TrustStep m env msg
        { m with knownMasterMacSecondary := msg.originMacAddress, hasMasterMacSecondary := true }
        [.saveKnownMasterMacSecondary msg.originMacAddress]
  /-- The trusted masters are stale: the origin replaces the primary. -/
  | hotswap (hhas : m.hasMasterMac = true)
      (hprimary : msg.originMacAddress ≠ m.knownMasterMac)
      (hsecondary : m.dualMasterMode = true →
        m.hasMasterMacSecondary = true ∧ msg.originMacAddress ≠ m.knownMasterMacSecondary)
      (hstale : ¬env.millis - m.lastMasterBeaconReceivedMs < Config.staleMasterThresholdMs) :
      TrustStep m env msg { m with knownMasterMac := msg.originMacAddress }
        [.saveKnownMasterMac msg.originMacAddress]
  /-- The origin is a trusted master. -/
  | trusted (hhas : m.hasMasterMac = true)
      (hfrom : msg.originMacAddress = m.knownMasterMac ∨
        (m.dualMasterMode = true ∧ m.hasMasterMacSecondary = true ∧
          msg.originMacAddress = m.knownMasterMacSecondary)) :
      TrustStep m env msg m []

/-- A beacon is the primary's when its origin is the known master. -/
theorem fromPrimary_iff {m : Mesh} {msg : MeshMessage} :
    m.fromPrimary msg = true ↔
      m.hasMasterMac = true ∧ msg.originMacAddress = m.knownMasterMac := by
  simp [Mesh.fromPrimary]

/-- A beacon is the secondary's in dual-master mode only. -/
theorem fromSecondary_iff {m : Mesh} {msg : MeshMessage} :
    m.fromSecondary msg = true ↔ m.dualMasterMode = true ∧ m.hasMasterMacSecondary = true ∧
      msg.originMacAddress = m.knownMasterMacSecondary := by
  simp [Mesh.fromSecondary, and_assoc]

/-- The origin is none of the trusted masters. -/
def FromUnknown (m : Mesh) (msg : MeshMessage) : Prop :=
  m.hasMasterMac = true ∧ msg.originMacAddress ≠ m.knownMasterMac ∧
    ¬(m.dualMasterMode = true ∧ m.hasMasterMacSecondary = true ∧
      msg.originMacAddress = m.knownMasterMacSecondary)

/-- Otherwise its origin is unknown.
SOURCE: Mesh.cpp:838-860 -/
theorem fromUnknown_iff {m : Mesh} {msg : MeshMessage} (hhas : m.hasMasterMac = true) :
    (!m.fromPrimary msg && !m.fromSecondary msg) = true ↔ FromUnknown m msg := by
  rw [Bool.and_eq_true, Bool.not_eq_true', Bool.not_eq_true', ← Bool.not_eq_true,
    ← Bool.not_eq_true, fromPrimary_iff, fromSecondary_iff, FromUnknown]
  simp [hhas]

/-- Every acceptance is one of the four trust steps.
SOURCE: Mesh.cpp:838-870 -/
theorem admitBeacon_inv {m m' : Mesh} {env : Env} {msg : MeshMessage} {effects : List Effect}
    (h : m.admitBeacon env msg = some (m', effects)) : TrustStep m env msg m' effects := by
  unfold Mesh.admitBeacon at h
  by_cases hhas : m.hasMasterMac = true
  · rw [if_neg (by simp [hhas])] at h
    split at h
    · next hunknown =>
      obtain ⟨-, hprimary, hsecondary⟩ := (fromUnknown_iff hhas).mp hunknown
      split at h
      · next hslot =>
        obtain ⟨hdual, hfree⟩ : m.dualMasterMode = true ∧ m.hasMasterMacSecondary = false := by
          simpa using hslot
        cases h
        exact .learnSecondary hhas hprimary hdual hfree
      · next hslot =>
        split at h
        · cases h
        · next hstale =>
          cases h
          refine .hotswap hhas hprimary (fun hdual => ?_) hstale
          have hsec : m.hasMasterMacSecondary = true := by simpa [hdual] using hslot
          exact ⟨hsec, fun heq => hsecondary ⟨hdual, hsec, heq⟩⟩
    · next hknown =>
      cases h
      refine .trusted hhas ?_
      rw [fromUnknown_iff hhas, FromUnknown] at hknown
      by_contra hfrom
      rw [not_or] at hfrom
      exact hknown ⟨hhas, hfrom.1, hfrom.2⟩
  · rw [if_pos (by simpa using hhas)] at h
    cases h
    exact .learnPrimary (by simpa using hhas)

/-- Exactly the fresh strangers without a free slot are rejected.
SOURCE: Mesh.cpp:851-862 -/
theorem admitBeacon_eq_none_iff {m : Mesh} {env : Env} {msg : MeshMessage} :
    m.admitBeacon env msg = none ↔
      FromUnknown m msg ∧ ¬(m.dualMasterMode = true ∧ m.hasMasterMacSecondary = false) ∧
        env.millis - m.lastMasterBeaconReceivedMs < Config.staleMasterThresholdMs := by
  unfold Mesh.admitBeacon
  by_cases hhas : m.hasMasterMac = true
  · rw [if_neg (by simp [hhas]), ← fromUnknown_iff hhas]
    by_cases hunknown : (!m.fromPrimary msg && !m.fromSecondary msg) = true
    · rw [if_pos hunknown]
      by_cases hslot : m.dualMasterMode = true ∧ m.hasMasterMacSecondary = false
      · rw [if_pos (by simpa using hslot)]
        simp [hslot]
      · rw [if_neg (by simpa using hslot)]
        simp only [hunknown, hslot, not_false_eq_true, true_and]
        split <;> simp_all
    · rw [if_neg hunknown]
      simp [hunknown]
  · rw [if_pos (by simpa using hhas)]
    simp [FromUnknown, hhas]

/-- The stages after the trust check.
SOURCE: Mesh.cpp:872-920 -/
def afterTrust (m : Mesh) (env : Env) (msg : MeshMessage) : Mesh :=
  ((m.noteMaster env msg).1.updateRoute msg).relayBeacon env msg

/-! ## What the later stages change -/

/-- The object after the bookkeeping and the route stage. -/
def noted (m : Mesh) (env : Env) (msg : MeshMessage) : Mesh :=
  { m with
    lastSeenMasterMac := msg.originMacAddress
    lastMasterBeaconReceivedMs := env.millisLate
    currentMaster := (m.updateRoute msg).currentMaster }

/-- The beacon's way replaces the current route.
SOURCE: Mesh.cpp:891-893 -/
def BetterRoute (m : Mesh) (msg : MeshMessage) : Prop :=
  m.currentMaster.distance = 0xFF ∨ m.currentMaster.mac ≠ msg.originMacAddress ∨
    msg.hopCount + 1 < m.currentMaster.distance

/-- A better way replaces the route. -/
theorem updateRoute_of_better {m : Mesh} {msg : MeshMessage} (h : BetterRoute m msg) :
    m.updateRoute msg = { m with currentMaster :=
      ⟨msg.originMacAddress, msg.hopCount + 1, msg.lastHopMacAddress⟩ } :=
  if_pos h

/-- A way that is not better leaves the route. -/
theorem updateRoute_of_not_better {m : Mesh} {msg : MeshMessage} (h : ¬BetterRoute m msg) :
    m.updateRoute msg = m :=
  if_neg h

/-- Time, trust and route are three stages of one handler. -/
theorem updateRoute_noteMaster (m : Mesh) (env : Env) (msg : MeshMessage) :
    (m.noteMaster env msg).1.updateRoute msg = noted m env msg := by
  by_cases h : BetterRoute m msg
  · have h' : BetterRoute (m.noteMaster env msg).1 msg := h
    rw [updateRoute_of_better h', noted, updateRoute_of_better h]
    rfl
  · have h' : ¬BetterRoute (m.noteMaster env msg).1 msg := h
    rw [updateRoute_of_not_better h', noted, updateRoute_of_not_better h]
    rfl

/-- A beacon that is not to be relayed changes the bookkeeping and the route only. -/
theorem afterTrust_of_not_relayed {m : Mesh} {env : Env} {msg : MeshMessage}
    (h : m.isMaster = true ∨ m.isNewer msg = false) : afterTrust m env msg = noted m env msg := by
  rw [afterTrust, updateRoute_noteMaster, Mesh.relayBeacon]
  rcases h with hmaster | hold
  · exact if_pos hmaster
  · have hkept : (!(noted m env msg).isNewer msg) = true := by
      rw [Bool.not_eq_true']
      exact hold
    rw [if_pos hkept]
    split <;> rfl

/-- A beacon that is to be relayed becomes the pending relay. -/
theorem afterTrust_of_relayed {m : Mesh} {env : Env} {msg : MeshMessage}
    (hnode : m.isMaster = false) (hnew : m.isNewer msg = true) :
    ∃ time, afterTrust m env msg =
      { noted m env msg with
        lastRelayedEpoch := msg.epochNum
        lastRelayedSeqNum := msg.seqNum
        relayPendingMsg := msg.relayCopy m.deviceMacAddress
        relayPendingAt := time
        relayPending := true } := by
  have hnotMaster : ¬(noted m env msg).isMaster = true := by
    rw [Bool.not_eq_true]
    exact hnode
  have hkept : ¬(!(noted m env msg).isNewer msg) = true := by
    rw [Bool.not_eq_true', Bool.not_eq_false]
    exact hnew
  rw [afterTrust, updateRoute_noteMaster, Mesh.relayBeacon, if_neg hnotMaster, if_neg hkept]
  exact ⟨_, rfl⟩

/-- The route after a beacon is that of the route stage alone. -/
theorem afterTrust_currentMaster (m : Mesh) (env : Env) (msg : MeshMessage) :
    (afterTrust m env msg).currentMaster = (m.updateRoute msg).currentMaster := by
  by_cases hrelay : m.isMaster = true ∨ m.isNewer msg = false
  · rw [afterTrust_of_not_relayed hrelay]
    rfl
  · obtain ⟨hnode, hnew⟩ := not_or.mp hrelay
    obtain ⟨time, heq⟩ := afterTrust_of_relayed (by simpa using hnode) (by simpa using hnew)
    rw [heq]
    rfl

/-- A beacon is dropped without a trace, or passes the trust check and the later stages.
SOURCE: Mesh.cpp:831-921 -/
theorem processMasterBeacon_inv (m : Mesh) (env : Env) (msg : MeshMessage) :
    (m.acceptsBeacon env msg = false ∧ m.processMasterBeacon env msg = (m, [])) ∨
      ∃ m' trusted, m.acceptsBeacon env msg = true ∧ msg.hopCount < Config.maxHops ∧
        TrustStep m env msg m' trusted ∧
        m.processMasterBeacon env msg =
          (afterTrust m' env msg, trusted ++ (m'.noteMaster env msg).2) := by
  unfold Mesh.acceptsBeacon Mesh.processMasterBeacon
  by_cases hhop : Config.maxHops ≤ msg.hopCount
  · left
    simp [hhop]
  · rw [if_neg hhop]
    cases hadmit : m.admitBeacon env msg with
    | none =>
        left
        simp
    | some result =>
        obtain ⟨m', trusted⟩ := result
        right
        refine ⟨m', trusted, by simp [hhop], UInt8.not_le.mp hhop, admitBeacon_inv hadmit, rfl⟩

end LatticeNodes.Analysis
