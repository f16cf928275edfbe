import LatticeNodes.Analysis.PeerRecords
import LatticeNodes.Program.Setup

/-!
# Seeding the peer list

The first boot in production stores the default peers, an array of six bytes for each, with
`savePeerList`, which takes records of 38 bytes.  `reads_iff` says how far the call reads, and
`pairs_seeded` what the mesh then loads.  It follows that no default list makes the round trip
(`roundTrips_never`), and that lists of three and more peers come back wrong whatever the memory
behind the array holds (`pairs_wrong_of_three`).
-/

set_option autoImplicit false

namespace LatticeNodes.Analysis

open LatticeNodes.Program EepromFields

namespace PeerSeeding

/-! ## The path through `setup()` -/

/-- The peers are seeded when none are stored; the list comes as a pointer.
SOURCE: main.ino:185-191 -/
def seed (em : EepromManager) (peerRecords : ℕ → UInt8) (numPeers : ℕ) : EepromManager :=
  if !em.isDevMode && !em.hasPeers then em.savePeerList peerRecords numPeers else em

/-- An array of addresses as a pointer; `behind` is the memory behind it.
SOURCE: project_config.h:73-76 -/
def arrayPointer (peers : List MacAddress) (behind : ℕ → UInt8) : ℕ → UInt8 := fun i =>
  if i < (peers.flatMap (·.toList)).length then (peers.flatMap (·.toList)).getD i 0 else behind i

/-- `setup()` seeds the array of the configuration.
SOURCE: main.ino:172-197 -/
theorem storeDefaults_seed (em : EepromManager) (behind : ℕ → UInt8) :
    ∃ isDevMode em', em' = seed (em.setDevMode isDevMode)
        (arrayPointer Config.defaultPeers behind) Config.defaultPeers.length ∧
      Setup.storeDefaults em behind =
        if !isDevMode then AdapterFactory.initializeDefaultsIfUnset isDevMode em' else em' :=
  ⟨Config.devMode || em.loadDevFlag, _, rfl, rfl⟩

/-! ## Statement -/

/-- The call inspects byte `i` behind the pointer: what it does depends on that byte. -/
def Reads (em : EepromManager) (numPeers i : ℕ) : Prop :=
  ∃ memory memory' : ℕ → UInt8, (∀ j, j ≠ i → memory j = memory' j) ∧
    seed em memory numPeers ≠ seed em memory' numPeers

/-- Only the array is read, and the mesh loads its addresses with unknown keys. -/
structure RoundTrips (em : EepromManager) (m : Mesh) (peers : List MacAddress)
    (behind : ℕ → UInt8) : Prop where
  inside : ∀ i, Reads em peers.length i → i < (peers.flatMap (·.toList)).length
  table : pairs (m.loadPeersFromEEPROM (seed em (arrayPointer peers behind) peers.length)).peers =
    peers.map fun mac => (mac, zeroKey)

/-! ## What is read -/

section Seed

variable {em : EepromManager} {numPeers : ℕ}

/-- A production node without peers saves the seed. -/
theorem seed_eq (h : Production em) (hempty : em.hasPeers = false) (peerRecords : ℕ → UInt8)
    (numPeers : ℕ) : seed em peerRecords numPeers = em.savePeerList peerRecords numPeers := by
  rw [seed, h.isDevMode, hempty]
  rfl

/-- The region then is the seed, erased behind it.
SOURCE: EEPROM_Manager.cpp:290-314 -/
theorem region_seed (h : Production em) (hempty : em.hasPeers = false)
    (peerRecords : ℕ → UInt8) (hfits : numPeers ≤ Config.maxPeers) :
    region (seed em peerRecords numPeers) =
      (List.range (numPeers * EepromSizes.peerRecordSize)).map peerRecords ++
        List.replicate ((Config.maxPeers - numPeers) * EepromSizes.peerRecordSize) 0xFF := by
  rw [seed_eq h hempty, region_savePeerList_pointer h peerRecords hfits]

/-- **A peer costs 38 bytes of what is behind the pointer.**
SOURCE: EEPROM_Manager.cpp:305-308 -/
theorem reads_iff (h : Production em) (hempty : em.hasPeers = false)
    (hfits : numPeers ≤ Config.maxPeers) {i : ℕ} :
    Reads em numPeers i ↔ i < numPeers * EepromSizes.peerRecordSize := by
  constructor
  · rintro ⟨memory, memory', hsame, hdiffer⟩
    by_contra hbeyond
    apply hdiffer
    have hbytes : (List.range (numPeers * EepromSizes.peerRecordSize)).map memory =
        (List.range (numPeers * EepromSizes.peerRecordSize)).map memory' := by
      apply List.map_congr_left
      intro j hj
      apply hsame
      rintro rfl
      exact hbeyond (List.mem_range.mp hj)
    rw [seed_eq h hempty, seed_eq h hempty, EepromManager.savePeerList,
      EepromManager.savePeerList, hbytes]
  · intro hi
    refine ⟨fun _ => 0, fun j => if j = i then 1 else 0, fun j hj => (if_neg hj).symm, ?_⟩
    intro hsame
    have hregion := congrArg (fun em => (region em)[i]?) hsame
    simp only [region_seed h hempty _ hfits] at hregion
    rw [List.getElem?_append_left (by simpa using hi),
      List.getElem?_append_left (by simpa using hi)] at hregion
    simp [hi] at hregion

end Seed

/-! ## What is loaded -/

/-- The record that `savePeerList` takes for peer `i`. -/
def recordAt (memory : ℕ → UInt8) (i : ℕ) : PeerInfo where
  mac := Vector.ofFn fun j => memory (i * EepromSizes.peerRecordSize + j)
  publicKey := Vector.ofFn fun j => memory (i * EepromSizes.peerRecordSize + 6 + j)
  lastSeenMillis := 0

section Records

variable (memory : ℕ → UInt8)

/-- A vector read from memory is its first cells. -/
theorem toList_ofFn_range (n : ℕ) :
    (Vector.ofFn fun i : Fin n => memory i).toList = (List.range n).map memory := by
  apply List.ext_getElem
  · simp
  · intro i hi hi'
    simp

/-- The record at an index is read from its cells. -/
theorem record_recordAt (i : ℕ) :
    record (recordAt memory i) = (List.range EepromSizes.peerRecordSize).map
      fun j => memory (i * EepromSizes.peerRecordSize + j) := by
  have hmac := toList_ofFn_range (fun j => memory (i * EepromSizes.peerRecordSize + j)) 6
  have hkey := toList_ofFn_range (fun j => memory (i * EepromSizes.peerRecordSize + 6 + j)) 32
  have hsplit := @List.range_add 6 32
  rw [show EepromSizes.peerRecordSize = 6 + 32 from rfl, hsplit, List.map_append, List.map_map]
  rw [record]
  refine congrArg₂ (· ++ ·) hmac (hkey.trans ?_)
  apply List.map_congr_left
  intro j _
  rw [Nat.add_assoc]
  rfl

/-- The bytes behind the pointer are the records of as many peers. -/
theorem flatMap_recordAt (n : ℕ) :
    ((List.range n).map (recordAt memory)).flatMap record =
      (List.range (n * EepromSizes.peerRecordSize)).map memory := by
  induction n with
  | zero => rfl
  | succ n ih =>
      have hlast : [n].map (recordAt memory) = [recordAt memory n] := rfl
      rw [List.range_succ, List.map_append, List.flatMap_append, ih, Nat.succ_mul, List.range_add,
        List.map_append, List.map_map, hlast, List.flatMap_singleton, record_recordAt]
      rfl

end Records

/-- The table whose records the bytes behind the pointer are. -/
def seededTable (memory : ℕ → UInt8) {numPeers : ℕ} (hfits : numPeers ≤ Config.maxPeers) :
    PeerTable where
  entries := (List.range numPeers).map (recordAt memory)
  bounded := by
    rw [List.length_map, List.length_range]
    exact hfits

section Loaded

variable {em : EepromManager} {numPeers : ℕ}

/-- The region of a seed is that of the table it is. -/
theorem records_seededTable (memory : ℕ → UInt8) (hfits : numPeers ≤ Config.maxPeers) :
    (seededTable memory hfits).records =
      (List.range (numPeers * EepromSizes.peerRecordSize)).map memory ++
        List.replicate ((Config.maxPeers - numPeers) * EepromSizes.peerRecordSize) 0xFF := by
  have hlength : (seededTable memory hfits).entries.length = numPeers := by
    rw [seededTable, List.length_map, List.length_range]
  have hbytes : (seededTable memory hfits).entries.flatMap record =
      (List.range (numPeers * EepromSizes.peerRecordSize)).map memory :=
    flatMap_recordAt memory numPeers
  rw [records_eq, hlength, hbytes, Nat.sub_mul]
  rfl

/-- **The mesh loads the records that begin every 38 bytes behind the pointer.**
SOURCE: Mesh.cpp:233-259 -/
theorem pairs_seeded (h : Production em) (hempty : em.hasPeers = false)
    (hfits : numPeers ≤ Config.maxPeers) {memory : ℕ → UInt8}
    (hsome : ∃ i < numPeers, (recordAt memory i).mac ≠ broadcastMac) (m : Mesh) :
    pairs (m.loadPeersFromEEPROM (seed em memory numPeers)).peers =
      ((List.range numPeers).map fun i =>
        ((recordAt memory i).mac, (recordAt memory i).publicKey)).filter
          fun p => p.1 ≠ broadcastMac := by
  have hregion : region (seed em memory numPeers) = (seededTable memory hfits).records := by
    rw [region_seed h hempty memory hfits, records_seededTable]
  have hinit : (seed em memory numPeers).isInitialized = true := by
    rw [seed_eq h hempty]
    exact (h.run (.peerList memory numPeers)).isInitialized
  obtain ⟨i, hi, hmac⟩ := hsome
  rw [pairs_loadPeersFromEEPROM hinit hregion
    ⟨recordAt memory i, List.mem_map_of_mem (List.mem_range.mpr hi), hmac⟩, pairs, seededTable,
    List.map_map]
  rfl

end Loaded

/-! ## The default lists -/

section Defaults

variable {em : EepromManager} {peers : List MacAddress}

/-- So many addresses have six times as many bytes. -/
theorem length_flatMap_toList (peers : List MacAddress) :
    (peers.flatMap (·.toList)).length = peers.length * 6 := by
  induction peers with
  | nil => rfl
  | cons mac peers ih =>
      rw [List.flatMap_cons, List.length_append, ih, Vector.length_toList, List.length_cons]
      omega

/-- The array holds the addresses one behind the other. -/
theorem arrayPointer_mac (behind : ℕ → UInt8) {i : ℕ} (hi : i < peers.length) {j : ℕ}
    (hj : j < 6) : arrayPointer peers behind (i * 6 + j) = peers[i][j] := by
  have hin : i * 6 + j < (peers.flatMap (·.toList)).length := by
    rw [length_flatMap_toList]
    omega
  rw [arrayPointer, if_pos hin]
  induction peers generalizing i with
  | nil => cases hi
  | cons mac peers ih =>
      cases i with
      | zero =>
          rw [List.flatMap_cons, List.getD_append _ _ _ _ (by simpa using hj)]
          simp [hj]
      | succ i =>
          have hindex : (i + 1) * 6 + j = mac.toList.length + (i * 6 + j) := by
            rw [Vector.length_toList]
            omega
          have hrest : i * 6 + j < (peers.flatMap (·.toList)).length := by
            rw [length_flatMap_toList]
            simp only [List.length_cons] at hi
            omega
          rw [List.flatMap_cons, hindex, List.getD_append_right _ _ _ _ (by omega),
            Nat.add_sub_cancel_left, ih (by simpa using hi) hrest]
          rfl

/-- **No default list makes the round trip**: the call reads 38 bytes for each peer, and the array
holds six.
SOURCE: main.ino:185-191, EEPROM_Manager.cpp:305-308 -/
theorem roundTrips_never (h : Production em) (hempty : em.hasPeers = false)
    (hsome : 1 ≤ peers.length) (hfits : peers.length ≤ Config.maxPeers) (m : Mesh)
    (behind : ℕ → UInt8) : ¬RoundTrips em m peers behind := by
  intro hround
  have hread : Reads em peers.length (peers.length * 6) := by
    rw [reads_iff h hempty hfits]
    simp only [EepromSizes.peerRecordSize]
    omega
  have hinside := hround.inside _ hread
  rw [length_flatMap_toList] at hinside
  exact Nat.lt_irrefl _ hinside

/-- The first record begins with the first address. -/
theorem mac_recordAt_zero (behind : ℕ → UInt8) (hi : 0 < peers.length) :
    (recordAt (arrayPointer peers behind) 0).mac = peers[0] := by
  apply Vector.ext
  intro j hj
  have hbyte := @arrayPointer_mac peers behind 0 hi j hj
  rw [Nat.zero_mul] at hbyte
  rw [recordAt, Vector.getElem_ofFn, Nat.zero_mul]
  exact hbyte

/-- The key of the first record begins with the next addresses of the array. -/
theorem publicKey_recordAt_zero (behind : ℕ → UInt8) {i : ℕ} (hi : i + 1 < peers.length) {j : ℕ}
    (hj : j < 6) (hkey : i * 6 + j < 32) :
    (recordAt (arrayPointer peers behind) 0).publicKey[i * 6 + j] = peers[i + 1][j] := by
  have hindex : 0 * EepromSizes.peerRecordSize + 6 + (i * 6 + j) = (i + 1) * 6 + j := by omega
  rw [recordAt, Vector.getElem_ofFn]
  show arrayPointer peers behind (0 * EepromSizes.peerRecordSize + 6 + (i * 6 + j)) = _
  rw [hindex, arrayPointer_mac behind hi hj]

/-- If the key of the first record is the unknown one, those addresses are zero. -/
theorem mac_eq_zero {behind : ℕ → UInt8} {i : ℕ} (hi : i + 1 < peers.length) (hfew : i < 5)
    (hkey : (recordAt (arrayPointer peers behind) 0).publicKey = zeroKey) :
    peers[i + 1] = zeroMac := by
  apply Vector.ext
  intro j hj
  have hbound : i * 6 + j < 32 := by omega
  rw [← publicKey_recordAt_zero behind hi hj hbound]
  simp [hkey, zeroKey, zeroMac]

/-- **From three peers on, the loaded table is wrong whatever lies behind the array**: the key of
the first one would have to be the two addresses that follow it. -/
theorem pairs_wrong_of_three (h : Production em) (hempty : em.hasPeers = false)
    (hthree : 3 ≤ peers.length) (hfits : peers.length ≤ Config.maxPeers) (hnodup : peers.Nodup)
    (hset : broadcastMac ∉ peers) (m : Mesh) (behind : ℕ → UInt8) :
    pairs (m.loadPeersFromEEPROM (seed em (arrayPointer peers behind) peers.length)).peers ≠
      peers.map fun mac => (mac, zeroKey) := by
  intro htable
  have hfirst : 0 < peers.length := by omega
  have hmac := mac_recordAt_zero behind hfirst
  have hvalid : (recordAt (arrayPointer peers behind) 0).mac ≠ broadcastMac := by
    rw [hmac]
    intro hempty
    exact hset (hempty ▸ List.getElem_mem hfirst)
  obtain ⟨n, hn⟩ := Nat.exists_eq_succ_of_ne_zero hfirst.ne'
  have hhead := congrArg List.head? htable
  rw [pairs_seeded h hempty hfits ⟨0, hfirst, hvalid⟩, hn, List.range_succ_eq_map, List.map_cons,
    List.filter_cons_of_pos (by simpa using hvalid), List.head?_cons, List.head?_map,
    List.head?_eq_getElem?, List.getElem?_eq_getElem hfirst] at hhead
  have hkey : (recordAt (arrayPointer peers behind) 0).publicKey = zeroKey :=
    (Prod.mk.inj (Option.some.inj hhead)).2
  have hsecond := @mac_eq_zero peers behind 0 (by omega) (by omega) hkey
  have hthird := @mac_eq_zero peers behind 1 (by omega) (by omega) hkey
  have hsame : 0 + 1 = 1 + 1 := hnodup.getElem_inj_iff.mp (hsecond.trans hthird.symm)
  omega

end Defaults

/-! ## The configured list on a blank device -/

/-- A blank manager has no peers. -/
theorem hasPeers_blankManager : blankManager.hasPeers = false := by
  rw [EepromManager.hasPeers, Bool.and_eq_false_iff]
  right
  rw [List.any_eq_false]
  intro b hb
  obtain ⟨i, hi, rfl⟩ := List.mem_map.mp hb
  have haddress : EepromAddresses.peerList + i < EepromSizes.totalSize := by
    have hlt : i < 380 := List.mem_range.mp hi
    simp only [EepromAddresses.peerList, EepromSizes.totalSize]
    omega
  have hread : blankManager.read (EepromAddresses.peerList + i) = 0xFF := dif_pos haddress
  rw [hread]
  decide

/-- The peers of the configuration do not come back. -/
theorem roundTrips_never_configured :
    ¬RoundTrips blankManager Mesh.new Config.defaultPeers fun _ => 0 :=
  roundTrips_never ⟨rfl, rfl⟩ hasPeers_blankManager (by decide) (by decide) Mesh.new fun _ => 0

/-- Byte 12 is read, and the array of the two configured addresses ends before it.
SOURCE: main.ino:188-190, project_config.h:73-76 -/
theorem not_roundTrips_configured :
    Production blankManager ∧ blankManager.hasPeers = false ∧ Config.defaultPeers.Nodup ∧
      broadcastMac ∉ Config.defaultPeers ∧
      ¬RoundTrips blankManager Mesh.new Config.defaultPeers fun _ => 0 := by
  have hlength : (Config.defaultPeers.flatMap (·.toList)).length = 12 := by decide
  have hread : Reads blankManager Config.defaultPeers.length 12 :=
    (reads_iff ⟨rfl, rfl⟩ hasPeers_blankManager (by decide)).mpr (by decide)
  refine ⟨⟨rfl, rfl⟩, hasPeers_blankManager, by decide, by decide, fun hround => ?_⟩
  have hinside := hround.inside 12 hread
  rw [hlength] at hinside
  exact Nat.lt_irrefl _ hinside

end PeerSeeding

end LatticeNodes.Analysis
