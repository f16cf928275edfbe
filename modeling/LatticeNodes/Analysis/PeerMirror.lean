import LatticeNodes.Analysis.PeerCalls
import LatticeNodes.Analysis.PeerRecords
import LatticeNodes.Library.TransitionSystem

/-!
# The peer table and its copy in the EEPROM

Runs of the calls that edit the peer table of a production node.  Every call keeps the table as
it is, saves a new one, or touches times only (`addPeer_cases`, `enrollPeer_cases`,
`removePeer_saved`); so the addresses stay distinct, and the stored records follow the table
(`peers_mirrored`).
-/

set_option autoImplicit false

namespace LatticeNodes.Analysis

open LatticeNodes.Program TransitionSystem EepromFields

namespace PeerMirror

/-! ## Statement -/

/-- The calls that edit the table. -/
inductive Call where
  | addPeer (env : Env) (mac : MacAddress)
  | removePeer (env : Env) (mac : MacAddress)
  | enrollPeer (env : Env) (mac : MacAddress) (publicKey : Key)
  | updatePeerLastSeen (env : Env) (mac : MacAddress)

/-- The call with its effects on the device; a full table makes `addPeer` restart it.
SOURCE: Mesh.cpp:706-726, 818-829, 1035-1075 -/
def Call.run (tls : Mbedtls) (d : Device) : Call → Outcome
  | .addPeer env mac => d.commitMesh Device.noCallback (d.mesh.addPeer tls env mac)
  | .removePeer env mac => d.commitMesh Device.noCallback (d.mesh.removePeer env mac)
  | .enrollPeer env mac publicKey =>
      d.commitMesh Device.noCallback (d.mesh.enrollPeer tls env mac publicKey)
  | .updatePeerLastSeen env mac => .ok { d with mesh := d.mesh.updatePeerLastSeen env mac }

/-- A production node that has just loaded distinct peers. -/
structure Loaded (d : Device) : Prop where
  production : Production d.eeprom
  loaded : ∃ m : Mesh, d.mesh.peers = (m.loadPeersFromEEPROM d.eeprom).peers
  distinct : (macs d.mesh.peers).Nodup

/-- Runs of calls; a restart ends the run. -/
def system (tls : Mbedtls) : System Device Call where
  Init := Loaded
  step d c := (c.run tls d).toOption

/-- The stored region holds the records of the table, and gives its entries back. -/
structure Mirrored (d : Device) : Prop where
  region : region d.eeprom = d.mesh.peers.entries.flatMap record ++
    List.replicate (EepromSizes.peerListSize -
      d.mesh.peers.entries.length * EepromSizes.peerRecordSize) 0xFF
  loads : (∃ p ∈ d.mesh.peers.entries, p.mac ≠ broadcastMac) → ∀ m : Mesh,
    pairs (m.loadPeersFromEEPROM d.eeprom).peers =
      (pairs d.mesh.peers).filter fun p => p.1 ≠ broadcastMac

/-- The table and the region are as before. -/
structure Unchanged (d d' : Device) : Prop where
  peers : d'.mesh.peers = d.mesh.peers
  region : region d'.eeprom = region d.eeprom

/-! ## Saving a table -/

/-- The call left this table and saved it. -/
structure Saved (d : Device) (t : PeerTable) (d' : Device) : Prop where
  peers : d'.mesh.peers = t
  eeprom : d'.eeprom = d.eeprom.savePeerList (Device.pointerTo t.records) t.entries.length

section Calls

variable {d : Device} {tls : Mbedtls} {env : Env} {mac : MacAddress}

/-- A result that saves the table and uses the radio leaves the region saved. -/
theorem commitMesh_saved {m : Mesh} {effects : List Effect} (hrest : AllRadioOnly effects)
    {t : PeerTable} (hpeers : m.peers = t) :
    ∃ d', d.commitMesh Device.noCallback
      (m, .savePeerList t.records t.entries.length :: effects) = .ok d' ∧ Saved d t d' := by
  have hrun := runEffects_radioOnly Device.noCallback
    { d with
      mesh := m
      eeprom := d.eeprom.savePeerList (Device.pointerTo t.records) t.entries.length } hrest
  exact ⟨_, hrun, hpeers, rfl⟩

/-- **What `addPeer` does.**
SOURCE: Mesh.cpp:706-723 -/
theorem addPeer_cases (d : Device) (tls : Mbedtls) (env : Env) (mac : MacAddress) :
    mac ∈ macs d.mesh.peers ∧ (Call.addPeer env mac).run tls d = .ok d ∨
    mac ∉ macs d.mesh.peers ∧ d.mesh.peers.entries.length = Config.maxPeers ∧
      (Call.addPeer env mac).run tls d = .error ⟨.errorCore, d⟩ ∨
    mac ∉ macs d.mesh.peers ∧ d.mesh.peers.entries.length < Config.maxPeers ∧
      ∃ d', (Call.addPeer env mac).run tls d = .ok d' ∧
        Saved d (d.mesh.peers.appendPeer ⟨mac, zeroKey, 0⟩) d' := by
  by_cases hknown : (d.mesh.peers.findPeer mac).isSome = true
  · have hrun : d.mesh.addPeer tls env mac = (d.mesh, []) := if_pos hknown
    left
    refine ⟨mem_macs.mpr hknown, ?_⟩
    rw [Call.run, hrun]
    rfl
  · have habsent : mac ∉ macs d.mesh.peers := fun h => hknown (mem_macs.mp h)
    have hbound := d.mesh.peers.bounded
    by_cases hfull : Config.maxPeers ≤ d.mesh.peers.entries.length
    · right; left
      refine ⟨habsent, Nat.le_antisymm hbound hfull, ?_⟩
      rw [Call.run, Mesh.addPeer, if_neg hknown, if_pos hfull]
      rfl
    · right; right
      refine ⟨habsent, Nat.lt_of_not_le hfull, ?_⟩
      rw [Call.run, Mesh.addPeer, if_neg hknown, if_neg hfull]
      apply commitMesh_saved registerPeerWithEspNow_radioOnly
      rw [registerPeerWithEspNow_frame]

/-- **What `removePeer` does.**
SOURCE: Mesh.cpp:310-322 -/
theorem removePeer_saved (d : Device) (tls : Mbedtls) (env : Env) (mac : MacAddress) :
    ∃ d', (Call.removePeer env mac).run tls d = .ok d' ∧ Saved d (d.mesh.peers.remove mac) d' := by
  simp only [Call.run, Mesh.removePeer]
  split
  · next hdeleted =>
    apply commitMesh_saved allRadioOnly_nil
    rw [Mesh.espNowDelPeer, hdeleted]
  · apply commitMesh_saved
    · intro e he
      rw [List.mem_singleton.mp he]
      rfl
    · rfl

/-- **What `enrollPeer` does.**
SOURCE: Mesh.cpp:1035-1075 -/
theorem enrollPeer_cases (d : Device) (tls : Mbedtls) (env : Env) (mac : MacAddress)
    (publicKey : Key) :
    mac ∈ macs d.mesh.peers ∧
      (∃ d', (Call.enrollPeer env mac publicKey).run tls d = .ok d' ∧
        Saved d (d.mesh.peers.modify mac fun p => { p with publicKey := publicKey }) d') ∨
    mac ∉ macs d.mesh.peers ∧ d.mesh.peers.entries.length = Config.maxPeers ∧
      (Call.enrollPeer env mac publicKey).run tls d = .ok d ∨
    mac ∉ macs d.mesh.peers ∧ d.mesh.peers.entries.length < Config.maxPeers ∧
      ∃ d', (Call.enrollPeer env mac publicKey).run tls d = .ok d' ∧
        Saved d (d.mesh.peers.appendPeer ⟨mac, publicKey, 0⟩) d' := by
  have hsaved : ∀ t : PeerTable, enrolledPeers d.mesh.peers mac publicKey = some t →
      ∃ d', (Call.enrollPeer env mac publicKey).run tls d = .ok d' ∧ Saved d t d' := by
    intro t ht
    simp only [Call.run, enrollPeer_eq, ht]
    apply commitMesh_saved
    · exact registerPeerWithEspNow_radioOnly.append (espNowBroadcast_radioOnly _)
    · exact reregister_peers
  by_cases hknown : (d.mesh.peers.findPeer mac).isSome = true
  · exact .inl ⟨mem_macs.mpr hknown, hsaved _ (if_pos hknown)⟩
  · have habsent : mac ∉ macs d.mesh.peers := fun h => hknown (mem_macs.mp h)
    have hbound := d.mesh.peers.bounded
    by_cases hfull : Config.maxPeers ≤ d.mesh.peers.entries.length
    · right; left
      refine ⟨habsent, Nat.le_antisymm hbound hfull, ?_⟩
      have hnone : enrolledPeers d.mesh.peers mac publicKey = none := by
        rw [enrolledPeers, if_neg hknown, if_pos hfull]
      simp only [Call.run, enrollPeer_eq, hnone]
      rfl
    · right; right
      refine ⟨habsent, Nat.lt_of_not_le hfull, hsaved _ ?_⟩
      rw [enrolledPeers, if_neg hknown, if_neg hfull]

end Calls

/-! ## What every call keeps -/

/-- What holds of every device of a run. -/
structure Consistent (d : Device) : Prop where
  production : Production d.eeprom
  distinct : (macs d.mesh.peers).Nodup

section Steps

variable {d d' : Device} {tls : Mbedtls} {t : PeerTable}

/-- **A saved table is mirrored.** -/
theorem Saved.mirrored (h : Saved d t d') (hproduction : Production d.eeprom) : Mirrored d' := by
  have hregion : Analysis.region d'.eeprom = t.records := by
    rw [h.eeprom, region_savePeerList hproduction]
  have hinit : d'.eeprom.isInitialized = true := by
    rw [h.eeprom]
    exact (hproduction.run (.peerList (Device.pointerTo t.records) t.entries.length)).isInitialized
  refine ⟨?_, fun hsome m => ?_⟩
  · rw [hregion, h.peers, records_eq]
  · rw [h.peers] at hsome ⊢
    exact pairs_loadPeersFromEEPROM hinit hregion hsome m

/-- A saved table of distinct peers is consistent. -/
theorem Saved.consistent (h : Saved d t d') (hproduction : Production d.eeprom)
    (hdistinct : (macs t).Nodup) : Consistent d' := by
  refine ⟨?_, ?_⟩
  · rw [h.eeprom]
    exact hproduction.run (.peerList (Device.pointerTo t.records) t.entries.length)
  · rw [h.peers]
    exact hdistinct

/-- The time of the last message is neither an address nor a key.
SOURCE: Mesh.cpp:818-829 -/
theorem updatePeerLastSeen_pairs (m : Mesh) (env : Env) (mac : MacAddress) :
    pairs (m.updatePeerLastSeen env mac).peers = pairs m.peers ∧
      macs (m.updatePeerLastSeen env mac).peers = macs m.peers := by
  unfold Mesh.updatePeerLastSeen
  split
  · exact ⟨rfl, rfl⟩
  · refine ⟨?_, macs_modify m.peers mac fun _ => rfl⟩
    show (PeerTable.modifyFirst mac _ m.peers.entries).map _ = m.peers.entries.map _
    induction m.peers.entries with
    | nil => rfl
    | cons p ps ih =>
        by_cases hfirst : p.mac = mac
        · simp [PeerTable.modifyFirst, hfirst]
        · simp [PeerTable.modifyFirst, hfirst, ih]

/-- One case for each call. -/
theorem Consistent.step (h : Consistent d) {c : Call} (hrun : c.run tls d = .ok d') :
    Consistent d' ∧ (pairs d'.mesh.peers ≠ pairs d.mesh.peers → Mirrored d') := by
  have hsaved : ∀ {t : PeerTable} {d₁ : Device}, Saved d t d₁ → (macs t).Nodup →
      Consistent d₁ ∧ (pairs d₁.mesh.peers ≠ pairs d.mesh.peers → Mirrored d₁) :=
    fun hs ht => ⟨hs.consistent h.production ht, fun _ => hs.mirrored h.production⟩
  have hsame : Consistent d ∧ (pairs d.mesh.peers ≠ pairs d.mesh.peers → Mirrored d) :=
    ⟨h, fun hchanged => absurd rfl hchanged⟩
  have happended : ∀ {mac : MacAddress} (publicKey : Key), mac ∉ macs d.mesh.peers →
      d.mesh.peers.entries.length < Config.maxPeers →
        (macs (d.mesh.peers.appendPeer ⟨mac, publicKey, 0⟩)).Nodup := by
    intro mac publicKey habsent hroom
    rw [mem_macs, Bool.not_eq_true] at habsent
    exact nodup_append h.distinct habsent hroom
  cases c with
  | addPeer env mac =>
      rcases addPeer_cases d tls env mac with ⟨-, heq⟩ | ⟨-, -, heq⟩ | ⟨habsent, hroom, d₁, heq, hs⟩
      · rw [heq] at hrun
        cases hrun
        exact hsame
      · rw [heq] at hrun
        cases hrun
      · rw [heq] at hrun
        cases hrun
        exact hsaved hs (happended zeroKey habsent hroom)
  | removePeer env mac =>
      obtain ⟨d₁, heq, hs⟩ := removePeer_saved d tls env mac
      rw [heq] at hrun
      cases hrun
      exact hsaved hs (nodup_remove h.distinct mac)
  | enrollPeer env mac publicKey =>
      rcases enrollPeer_cases d tls env mac publicKey with
        ⟨-, d₁, heq, hs⟩ | ⟨-, -, heq⟩ | ⟨habsent, hroom, d₁, heq, hs⟩
      · rw [heq] at hrun
        cases hrun
        apply hsaved hs
        rw [macs_modify]
        · exact h.distinct
        · exact fun _ => rfl
      · rw [heq] at hrun
        cases hrun
        exact hsame
      · rw [heq] at hrun
        cases hrun
        exact hsaved hs (happended publicKey habsent hroom)
  | updatePeerLastSeen env mac =>
      cases hrun
      obtain ⟨hpairs, hmacs⟩ := updatePeerLastSeen_pairs d.mesh env mac
      refine ⟨⟨h.production, ?_⟩, fun hchanged => absurd hpairs hchanged⟩
      show (macs (d.mesh.updatePeerLastSeen env mac).peers).Nodup
      rw [hmacs]
      exact h.distinct

/-- Table and region are consistent in every reachable state. -/
theorem consistent_of_reachable (h : (system tls).Reachable d) : Consistent d := by
  refine h.invariant (fun d hd => ⟨hd.production, hd.distinct⟩) fun d c d' hd hstep => ?_
  change (c.run tls d).toOption = some d' at hstep
  cases hrun : c.run tls d with
  | error r =>
      rw [hrun] at hstep
      cases hstep
  | ok d₁ =>
      rw [hrun] at hstep
      cases hstep
      exact (hd.step hrun).1

end Steps

/-- **The table stays distinct and bounded, and its copy in the EEPROM follows it.**
SOURCE: Mesh.cpp:233-330, 705-726, 1035-1058, EEPROM_Manager.cpp:271-314 -/
theorem peers_mirrored {tls : Mbedtls} {d : Device} (h : (system tls).Reachable d) :
    d.mesh.peers.entries.length ≤ Config.maxPeers ∧ (macs d.mesh.peers).Nodup ∧
    (∀ c d', Call.run tls d c = .ok d' → pairs d'.mesh.peers ≠ pairs d.mesh.peers →
      Mirrored d') ∧
    (∀ env mac, ∃ d', (Call.removePeer env mac).run tls d = .ok d' ∧
      d'.mesh.peers.entries.Perm (d.mesh.peers.entries.filter fun p => p.mac ≠ mac)) ∧
    (∀ env mac publicKey, mac ∈ macs d.mesh.peers →
      ∃ d', (Call.enrollPeer env mac publicKey).run tls d = .ok d' ∧
        d'.mesh.peers.entries = d.mesh.peers.entries.map fun p =>
          if p.mac = mac then { p with publicKey := publicKey } else p) ∧
    (∀ env mac publicKey, mac ∉ macs d.mesh.peers →
      d.mesh.peers.entries.length < Config.maxPeers →
        ∃ d', (Call.enrollPeer env mac publicKey).run tls d = .ok d' ∧
          d'.mesh.peers.entries = d.mesh.peers.entries ++ [⟨mac, publicKey, 0⟩]) ∧
    ∀ mac, mac ∉ macs d.mesh.peers → d.mesh.peers.entries.length = Config.maxPeers →
      (∀ env publicKey, ∃ d', (Call.enrollPeer env mac publicKey).run tls d = .ok d' ∧
        Unchanged d d') ∧
      ∀ env, ∃ r, (Call.addPeer env mac).run tls d = .error r ∧ Unchanged d r.device := by
  have hconsistent := consistent_of_reachable h
  refine ⟨d.mesh.peers.bounded, hconsistent.distinct, fun c d' hrun => (hconsistent.step hrun).2,
    fun env mac => ?_, fun env mac publicKey hknown => ?_,
    fun env mac publicKey habsent hroom => ?_,
    fun mac habsent hfull => ⟨fun env publicKey => ?_, fun env => ?_⟩⟩
  · obtain ⟨d', hrun, hs⟩ := removePeer_saved d tls env mac
    refine ⟨d', hrun, ?_⟩
    rw [hs.peers]
    exact remove_perm hconsistent.distinct mac
  · rcases enrollPeer_cases d tls env mac publicKey with
      ⟨-, d', hrun, hs⟩ | ⟨habsent, -⟩ | ⟨habsent, -⟩
    · refine ⟨d', hrun, ?_⟩
      rw [hs.peers]
      exact modifyFirst_eq_map hconsistent.distinct
    · exact absurd hknown habsent
    · exact absurd hknown habsent
  · rcases enrollPeer_cases d tls env mac publicKey with
      ⟨hknown, -⟩ | ⟨-, hfull, -⟩ | ⟨-, -, d', hrun, hs⟩
    · exact absurd hknown habsent
    · omega
    · refine ⟨d', hrun, ?_⟩
      rw [hs.peers, entries_appendPeer hroom]
  · rcases enrollPeer_cases d tls env mac publicKey with
      ⟨hknown, -⟩ | ⟨-, -, hrun⟩ | ⟨-, hroom, -⟩
    · exact absurd hknown habsent
    · exact ⟨d, hrun, rfl, rfl⟩
    · omega
  · rcases addPeer_cases d tls env mac with ⟨hknown, -⟩ | ⟨-, -, hrun⟩ | ⟨-, hroom, -⟩
    · exact absurd hknown habsent
    · exact ⟨_, hrun, rfl, rfl⟩
    · omega

/-! ## A node with the default peers -/

def defaultDevice : Device where
  mesh := Mesh.new.loadPeersFromEEPROM blankManager
  eeprom := blankManager
  adapter := none
  factoryDevMode := false
  wifiMac := zeroMac
  serialOut := []
  sent := []

/-- The default device has loaded its peers. -/
theorem loaded_defaultDevice : Loaded defaultDevice := by
  refine ⟨⟨rfl, rfl⟩, ⟨Mesh.new, rfl⟩, ?_⟩
  decide

def plainMac (n : UInt8) : MacAddress := Vector.replicate 6 n

/-- Two peers are added and one enrolled, one is heard, and the first one added is removed; its
place goes to the last. -/
def editCalls : List Call :=
  [.addPeer quietEnv (plainMac 2), .enrollPeer quietEnv (plainMac 3) (Vector.replicate 32 7),
    .updatePeerLastSeen quietEnv (plainMac 2), .addPeer quietEnv (plainMac 4),
    .removePeer quietEnv (plainMac 2)]

def enrollAdded : Call := .enrollPeer quietEnv (plainMac 4) (Vector.replicate 32 9)

/-- After these calls the peer that was only added is enrolled, and the region follows. -/
theorem peers_mirrored_edits :
    ∃ d, (system plainTls).Reachable d ∧
      pairs d.mesh.peers = pairs defaultDevice.mesh.peers ++
        [(plainMac 4, zeroKey), (plainMac 3, Vector.replicate 32 7)] ∧
      ∃ d', enrollAdded.run plainTls d = .ok d' ∧
        pairs d'.mesh.peers = pairs defaultDevice.mesh.peers ++
          [(plainMac 4, Vector.replicate 32 9), (plainMac 3, Vector.replicate 32 7)] ∧
        Mirrored d' := by
  have hrun : ∃ d, (system plainTls).runFrom defaultDevice editCalls = some d ∧
      pairs d.mesh.peers = pairs defaultDevice.mesh.peers ++
        [(plainMac 4, zeroKey), (plainMac 3, Vector.replicate 32 7)] ∧
      ∃ d', enrollAdded.run plainTls d = .ok d' ∧
        pairs d'.mesh.peers = pairs defaultDevice.mesh.peers ++
          [(plainMac 4, Vector.replicate 32 9), (plainMac 3, Vector.replicate 32 7)] :=
    ⟨_, rfl, by decide +kernel, _, rfl, by decide +kernel⟩
  obtain ⟨d, hrun, hbefore, d', hcall, hafter⟩ := hrun
  have hreach := TransitionSystem.System.Reachable.runFrom (.init loaded_defaultDevice) hrun
  have hchanged : pairs d'.mesh.peers ≠ pairs d.mesh.peers := by
    rw [hbefore, hafter]
    decide
  exact ⟨d, hreach, hbefore, d', hcall, hafter, (peers_mirrored hreach).2.2.1 _ d' hcall hchanged⟩

end PeerMirror

end LatticeNodes.Analysis
