import LatticeNodes.Analysis.CopyVerdicts

/-!
# Copies of adapter data that are not looked up

Every copy is handled.  Whether one goes out depends on its hop count and, for data on the way
to the master, on whether the next hop is in range by then: each copy renews the time of the
peer it came from (`Carried`).
-/

set_option autoImplicit false

namespace LatticeNodes.Analysis

open LatticeNodes.Program

namespace CopyOrder

/-! ## Renewed next hops -/

section Hops

variable {m : Mesh} {env : Env} {mac source : MacAddress} {msg : MeshMessage}

def Registered (m : Mesh) (mac : MacAddress) : Prop :=
  mac ≠ m.deviceMacAddress ∧ (m.peers.findPeer mac).isSome = true

/-- A live peer is registered. -/
theorem Live.registered (h : Live m env mac) : Registered m mac := by
  obtain ⟨hother, p, hfind, -⟩ := h
  refine ⟨hother, ?_⟩
  rw [hfind]
  rfl

/-- Hearing a peer renews its own record only.
SOURCE: Mesh.cpp:818-829 -/
theorem findPeer_updatePeerLastSeen (hother : source ≠ m.deviceMacAddress) :
    (m.updatePeerLastSeen env source).peers.findPeer mac =
      if mac = source then
        (m.peers.findPeer mac).map fun p => { p with lastSeenMillis := env.millis }
      else m.peers.findPeer mac := by
  rw [Mesh.updatePeerLastSeen, if_neg hother]
  exact findPeer_modify m.peers source mac fun _ => rfl

/-- A peer is live once it has been heard.
SOURCE: Mesh.cpp:331-336, 818-829 -/
theorem live_updatePeerLastSeen : Live (m.updatePeerLastSeen env source) env mac ↔
    Live m env mac ∨ mac = source ∧ Registered m mac := by
  by_cases hself : source = m.deviceMacAddress
  · have hsame : m.updatePeerLastSeen env source = m := if_pos hself
    rw [hsame]
    refine ⟨.inl, fun h => h.elim id ?_⟩
    rintro ⟨rfl, hother, -⟩
    exact absurd hself hother
  · have hmac : (m.updatePeerLastSeen env source).deviceMacAddress = m.deviceMacAddress :=
      (updatePeerLastSeen_sameNode m env source).deviceMacAddress
    rw [Live, hmac, findPeer_updatePeerLastSeen hself]
    by_cases hheard : mac = source
    · rw [if_pos hheard]
      constructor
      · rintro ⟨hother, p, hfind, -⟩
        obtain ⟨q, hq, -⟩ := Option.map_eq_some_iff.mp hfind
        exact .inr ⟨hheard, hother, Option.isSome_iff_exists.mpr ⟨q, hq⟩⟩
      · intro h
        obtain ⟨hother, hsome⟩ : Registered m mac := h.elim Live.registered And.right
        obtain ⟨q, hq⟩ := Option.isSome_iff_exists.mp hsome
        refine ⟨hother, { q with lastSeenMillis := env.millis }, ?_, ?_⟩
        · rw [hq]
          rfl
        · show env.millis - env.millis < Config.stalePeerThresholdMs
          rw [UInt32.sub_self]
          decide
    · rw [if_neg hheard]
      exact ⟨.inl, fun h => h.resolve_right fun h => hheard h.1⟩

/-- Hearing somebody registers nobody. -/
theorem registered_updatePeerLastSeen :
    Registered (m.updatePeerLastSeen env source) mac ↔ Registered m mac := by
  by_cases hself : source = m.deviceMacAddress
  · have hsame : m.updatePeerLastSeen env source = m := if_pos hself
    rw [hsame]
  · have hmac : (m.updatePeerLastSeen env source).deviceMacAddress = m.deviceMacAddress :=
      (updatePeerLastSeen_sameNode m env source).deviceMacAddress
    rw [Registered, hmac, findPeer_updatePeerLastSeen hself]
    split
    · rw [Option.isSome_map]
      exact Iff.rfl
    · exact Iff.rfl

/-- The master is reached over a live next hop that the radio takes.
SOURCE: Mesh.cpp:331-349, 613-625 -/
theorem reachesMaster_iff : ReachesMaster m env ↔ m.currentMaster.distance ≠ 0xFF ∧
    Live m env m.currentMaster.nextHop ∧ Reaches m env m.currentMaster.nextHop := by
  rw [← and_assoc, ← findNextHopToMaster_isSome_iff, Option.isSome_iff_exists, ReachesMaster]
  constructor
  · rintro ⟨p, hfind, hreaches⟩
    rw [findNextHopToMaster_mac hfind] at hreaches
    exact ⟨⟨p, hfind⟩, hreaches⟩
  · rintro ⟨⟨p, hfind⟩, hreaches⟩
    rw [← findNextHopToMaster_mac hfind] at hreaches
    exact ⟨p, hfind, hreaches⟩

/-- The master is reached once the next hop has been heard. -/
def Renewable (m : Mesh) (env : Env) : Prop :=
  ReachesMaster (m.updatePeerLastSeen env m.currentMaster.nextHop) env

/-- Hearing somebody does not change whom the radio takes. -/
theorem reaches_updatePeerLastSeen :
    Reaches (m.updatePeerLastSeen env source) env mac ↔ Reaches m env mac := by
  rw [Reaches, Reaches, (updatePeerLastSeen_sameNode m env source).deviceMacAddress]

/-- Hearing somebody leaves the route alone. -/
theorem currentMaster_updatePeerLastSeen :
    (m.updatePeerLastSeen env source).currentMaster = m.currentMaster := by
  rw [updatePeerLastSeen_frame]

/-- A route can be renewed while its next hop is registered and the radio takes it. -/
theorem renewable_iff : Renewable m env ↔ m.currentMaster.distance ≠ 0xFF ∧
    Registered m m.currentMaster.nextHop ∧ Reaches m env m.currentMaster.nextHop := by
  rw [Renewable, reachesMaster_iff, currentMaster_updatePeerLastSeen, live_updatePeerLastSeen,
    reaches_updatePeerLastSeen]
  refine and_congr_right fun _ => and_congr_left fun _ => ?_
  exact ⟨fun h => h.elim Live.registered And.right, fun h => .inr ⟨rfl, h⟩⟩

/-- Hearing the next hop renews a route that can be renewed. -/
theorem reachesMaster_updatePeerLastSeen :
    ReachesMaster (m.updatePeerLastSeen env source) env ↔
      ReachesMaster m env ∨ Renewable m env ∧ source = m.currentMaster.nextHop := by
  rw [renewable_iff, reachesMaster_iff, reachesMaster_iff, currentMaster_updatePeerLastSeen,
    live_updatePeerLastSeen, reaches_updatePeerLastSeen]
  constructor
  · rintro ⟨hset, hlive | ⟨hheard, hregistered⟩, hreaches⟩
    · exact .inl ⟨hset, hlive, hreaches⟩
    · exact .inr ⟨⟨hset, hregistered, hreaches⟩, hheard.symm⟩
  · rintro (⟨hset, hlive, hreaches⟩ | ⟨⟨hset, hregistered, hreaches⟩, hheard⟩)
    · exact ⟨hset, .inl hlive, hreaches⟩
    · exact ⟨hset, .inr ⟨hheard.symm, hregistered⟩, hreaches⟩

/-- Hearing somebody does not change whether the route can be renewed. -/
theorem renewable_updatePeerLastSeen :
    Renewable (m.updatePeerLastSeen env source) env ↔ Renewable m env := by
  rw [renewable_iff, renewable_iff, currentMaster_updatePeerLastSeen,
    registered_updatePeerLastSeen, reaches_updatePeerLastSeen]

/-- Hearing somebody does not change whether any peer is reached. -/
theorem reachesPeer_updatePeerLastSeen :
    ReachesPeer (m.updatePeerLastSeen env source) env ↔ ReachesPeer m env := by
  have hkeys := (updatePeerLastSeen_sameNode m env source).peerKeys
  constructor
  · rintro ⟨p, hp, hreaches⟩
    obtain ⟨q, hq, hmac⟩ := exists_peer_of_peerKeys hkeys hp
    rw [reaches_updatePeerLastSeen, ← hmac] at hreaches
    exact ⟨q, hq, hreaches⟩
  · rintro ⟨p, hp, hreaches⟩
    obtain ⟨q, hq, hmac⟩ := exists_peer_of_peerKeys hkeys.symm hp
    rw [← hmac] at hreaches
    exact ⟨q, hq, reaches_updatePeerLastSeen.mpr hreaches⟩

/-- The guards of adapter data do not read the peers' times. -/
theorem guards_updatePeerLastSeen :
    (ForwardsData (m.updatePeerLastSeen env source) msg ↔ ForwardsData m msg) ∧
      (Uplink (m.updatePeerLastSeen env source) msg ↔ Uplink m msg) ∧
      (Delivers (m.updatePeerLastSeen env source) msg ↔ Delivers m msg) := by
  rw [updatePeerLastSeen_frame]
  exact ⟨Iff.rfl, Iff.rfl, Iff.rfl⟩

end Hops

/-! ## Which copy is carried up the route -/

/-- Some copy within the hop limit finds the next hop in range, because it was from the start or
because a copy came from it. -/
def Carried (live renewable : Prop) (hop : MacAddress) : List RecvQueueEntry → Prop
  | [] => False
  | e :: copies =>
      Near e ∧ (live ∨ renewable ∧ e.srcMac = hop) ∨
        Carried (live ∨ renewable ∧ e.srcMac = hop) renewable hop copies

section Carry

variable {live renewable : Prop} {hop : MacAddress} {copies : List RecvQueueEntry}

end Carry

/-! ## A drain of adapter data that are not looked up -/

section Data

variable {m : Mesh} {env : Env} {msg : MeshMessage} {entry : RecvQueueEntry}

/-- What a drain of adapter data does. -/
structure DataDrain (m : Mesh) (env : Env) (msg : MeshMessage) (copies : List RecvQueueEntry)
    (result : Mesh × List Effect) : Prop where
  currentMaster : result.1.currentMaster = m.currentMaster
  pending : Pending result.1 msg ↔ Pending m msg
  delivered : (∃ received, Effect.externalRecvCallback received ∈ result.2) ↔
    copies ≠ [] ∧ Delivers m msg
  relayed : sentFrames result.2 ≠ [] ↔
    ForwardsData m msg ∧ ReachesPeer m env ∧ (∃ e ∈ copies, Near e) ∨
      Uplink m msg ∧
        Carried (ReachesMaster m env) (Renewable m env) m.currentMaster.nextHop copies

/-- The callback sees the message that is handled. -/
theorem processAdapterData_callback {received : MeshMessage}
    (h : Effect.externalRecvCallback received ∈ (m.processAdapterData env msg).2) :
    received = msg := by
  obtain ⟨rest, hrest, heq | heq⟩ := processAdapterData_effects m env msg
  · rw [heq] at h
    rcases List.mem_cons.mp h with hfirst | hlater
    · exact Effect.externalRecvCallback.inj hfirst
    · exact absurd hlater (notMem_callback_of_radioOnly hrest received)
  · rw [heq] at h
    exact absurd h (notMem_callback_of_radioOnly hrest received)

/-- A drain sends when the first copy goes out, or one behind it. -/
theorem relayed_cons_iff {nearHere nearLater flooded uplink peer live carried : Prop} :
    nearHere ∧ (flooded ∧ peer ∨ uplink ∧ live) ∨
        (flooded ∧ peer ∧ nearLater ∨ uplink ∧ carried) ↔
      flooded ∧ peer ∧ (nearHere ∨ nearLater) ∨ uplink ∧ (nearHere ∧ live ∨ carried) := by
  tauto

/-- The first copy, then the rest. -/
theorem DataDrain.cons {copies : List RecvQueueEntry} {rest : Mesh × List Effect}
    (hcopy : msg.SameContent entry.msg)
    (hrest : DataDrain (m.updatePeerLastSeen env entry.srcMac) env msg copies rest) :
    DataDrain m env msg (entry :: copies)
      (rest.1, ((m.updatePeerLastSeen env entry.srcMac).processAdapterData env entry.msg).2 ++
        rest.2) := by
  obtain ⟨hforwards, huplink, hdelivers⟩ := @guards_updatePeerLastSeen m env entry.srcMac msg
  obtain ⟨hopCount, lastHop, heq⟩ := exists_hops hcopy
  have hpending : Pending (m.updatePeerLastSeen env entry.srcMac) msg ↔ Pending m msg := by
    rw [updatePeerLastSeen_frame]
    exact Iff.rfl
  have hfirst : sentFrames
      ((m.updatePeerLastSeen env entry.srcMac).processAdapterData env entry.msg).2 ≠ [] ↔
      Near entry ∧ (ForwardsData m msg ∧ ReachesPeer m env ∨ Uplink m msg ∧
        (ReachesMaster m env ∨ Renewable m env ∧ entry.srcMac = m.currentMaster.nextHop)) := by
    have hforwards' : ForwardsData (m.updatePeerLastSeen env entry.srcMac) entry.msg ↔
        ForwardsData m msg := by
      rw [← hforwards, heq]
      exact Iff.rfl
    have huplink' : Uplink (m.updatePeerLastSeen env entry.srcMac) entry.msg ↔ Uplink m msg := by
      rw [← huplink, heq]
      exact Iff.rfl
    rw [processAdapterData_relays_iff, RelaysData, hforwards', huplink',
      reachesPeer_updatePeerLastSeen, reachesMaster_updatePeerLastSeen]
    exact Iff.rfl
  refine ⟨hrest.currentMaster.trans currentMaster_updatePeerLastSeen,
    hrest.pending.trans hpending, ?_, ?_⟩
  · have hcallback : (∃ received, Effect.externalRecvCallback received ∈
        ((m.updatePeerLastSeen env entry.srcMac).processAdapterData env entry.msg).2) ↔
        Delivers m msg := by
      rw [← hdelivers, ← delivers_copy hcopy]
      constructor
      · rintro ⟨received, hmem⟩
        obtain rfl := processAdapterData_callback hmem
        exact processAdapterData_delivers_iff.mp hmem
      · intro h
        exact ⟨entry.msg, processAdapterData_delivers_iff.mpr h⟩
    simp only [List.mem_append, exists_or]
    rw [hcallback, hrest.delivered, hdelivers]
    simp
  · rw [sentFrames_append, Ne, List.append_eq_nil_iff, not_and_or]
    rw [← Ne, ← Ne, hfirst, hrest.relayed, hforwards, huplink, reachesPeer_updatePeerLastSeen,
      reachesMaster_updatePeerLastSeen, renewable_updatePeerLastSeen,
      currentMaster_updatePeerLastSeen, List.exists_mem_cons_iff, Carried]
    exact relayed_cons_iff

end Data

end CopyOrder

end LatticeNodes.Analysis
