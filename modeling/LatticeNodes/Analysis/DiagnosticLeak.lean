import Mathlib.Algebra.Group.Nat.Defs
import Mathlib.Data.List.TakeWhile
import LatticeNodes.Library.SecretCells
import LatticeNodes.Program.Diagnostics

/-!
# What diagnostics tell of the private key

Both diagnostic calls print bytes between pieces of fixed text, so that their lines are reports in
the sense of `SecretCells`.  The dump masks the whole keypair.  `printAddress` masks nothing, and
its range check lets through ranges that run past the end of the EEPROM and around the 16-bit
address space: `leaksNothing_iff` says which calls do neither.
-/

set_option autoImplicit false

namespace LatticeNodes.Analysis

open LatticeNodes.Program SecretCells

namespace DiagnosticLeak

/-! ## Statement -/

/-- The addresses of the private key and of the checksum over the keypair.
SOURCE: EEPROM_Manager.h:42-44 -/
def Secret (i : Fin EepromSizes.totalSize) : Prop :=
  (EepromAddresses.privateKey ≤ i.val ∧ i.val < EepromAddresses.privateKey + 32) ∨
    (EepromAddresses.keypairCrc ≤ i.val ∧ i.val ≤ EepromAddresses.keypairCrc + 1)

/-- The diagnostic calls.
SOURCE: EEPROM_Manager.h:174-176 -/
inductive Call where
  | dumpEEPROM
  | printAddress (address length : UInt16)

def Call.run (em : EepromManager) (currentLevel : LogLevel) : Call → Diagnostic
  | .dumpEEPROM => em.dumpEEPROM currentLevel
  | .printAddress address length => em.printAddress currentLevel address length

/-- The manager over another image. -/
def withImage (em : EepromManager) (image : EepromImage) : EepromManager :=
  { em with memory := { em.memory with cache := image } }

/-- The call prints the same over images that differ in the secret bytes only, and reads nothing
beyond the end of the EEPROM. -/
structure LeaksNothing (em : EepromManager) (currentLevel : LogLevel) (c : Call) : Prop where
  text : ∀ a b, Agree Secret a b →
    (c.run (withImage em a) currentLevel).lines = (c.run (withImage em b) currentLevel).lines
  reads : ∀ image, ∀ address ∈ (c.run (withImage em image) currentLevel).reads,
    address < EepromSizes.totalSize

/-- The range check refuses the range; the end of a range past 16 bits is taken modulo `2^16`.
SOURCE: EEPROM_Manager.cpp:629 -/
def Refused (address length : UInt16) : Prop :=
  EepromSizes.totalSize ≤ address.toNat ∨ EepromSizes.totalSize ≤ (address + length - 1).toNat

/-- A dump; a range that is refused, is empty, or lies in the EEPROM and, when debug lines are
printed, apart from the secret bytes. -/
def Harmless (currentLevel : LogLevel) : Call → Prop
  | .dumpEEPROM => True
  | .printAddress address length =>
      Refused address length ∨ length = 0 ∨
        address.toNat + length.toNat ≤ EepromSizes.totalSize ∧
          (currentLevel = .debug → ∀ i, Secret i →
            ¬(address.toNat ≤ i.val ∧ i.val < address.toNat + length.toNat))

/-! ## Bytes in text -/

/-- A byte on a line. -/
def render (v : UInt8) : List Char := (byteText v).toList

/-- The padded hexadecimal digits of a byte. -/
theorem padded_toDigits {n : ℕ} (h : n < 256) :
    (if n < 16 then ['0'] else []) ++ Nat.toDigits 16 n =
      [Nat.digitChar (n / 16), Nat.digitChar (n % 16)] := by
  by_cases hsmall : n < 16
  · rw [if_pos hsmall, Nat.toDigits_of_lt_base hsmall, Nat.div_eq_of_lt hsmall,
      Nat.mod_eq_of_lt hsmall]
    rfl
  · rw [if_neg hsmall, Nat.toDigits_of_base_le (by omega) (by omega),
      Nat.toDigits_of_lt_base (by omega)]
    rfl

/-- A byte is printed as two hexadecimal digits and a blank. -/
theorem render_eq (v : UInt8) :
    render v = [Nat.digitChar (v.toNat / 16), Nat.digitChar (v.toNat % 16), ' '] := by
  have hspace : (" " : String).toList = [' '] := rfl
  have hzero : (if v < 16 then "0" else "").toList = if v.toNat < 16 then ['0'] else [] := by
    have hiff : v < 16 ↔ v.toNat < 16 := UInt8.lt_iff_toNat_lt
    by_cases h : v < 16
    · rw [if_pos h, if_pos (hiff.mp h)]
      rfl
    · rw [if_neg h, if_neg fun hn => h (hiff.mpr hn)]
      rfl
  rw [render, byteText, hexText, String.toList_append, String.toList_append, String.toList_ofList,
    hspace, hzero, ← List.append_assoc, padded_toDigits v.toNat_lt]
  rfl

/-- A printed byte is three characters. -/
theorem length_render (v : UInt8) : (render v).length = 3 := by
  rw [render_eq]
  rfl

/-- Different digits print differently. -/
theorem digitChar_injOn : ∀ a < 16, ∀ b < 16, Nat.digitChar a = Nat.digitChar b → a = b := by
  decide

/-- Different bytes print differently. -/
theorem render_injective : Function.Injective render := by
  intro v w h
  rw [render_eq, render_eq] at h
  obtain ⟨hhigh, hrest⟩ := List.cons.inj h
  obtain ⟨hlow, -⟩ := List.cons.inj hrest
  have hv := v.toNat_lt
  have hw := w.toNat_lt
  have hquot := digitChar_injOn _ (by omega) _ (by omega) hhigh
  have hrem := digitChar_injOn _ (Nat.mod_lt _ (by omega)) _ (Nat.mod_lt _ (by omega)) hlow
  apply UInt8.toNat_inj.mp
  omega

/-! ## Lines as reports -/

/-- The byte at an address; reading beyond the end gives 0. -/
def pieceOf (addr : ℕ) : Piece (Fin EepromSizes.totalSize) Char :=
  if h : addr < EepromSizes.totalSize then .cell ⟨addr, h⟩ else .text (render 0)

def dumpPiece (addr : ℕ) : Piece (Fin EepromSizes.totalSize) Char :=
  if EepromManager.isMasked addr then .text "XX ".toList else pieceOf addr

/-- A printed byte shows the cell at its address, whatever image is behind it. -/
theorem print_pieceOf (em : EepromManager) (image : EepromImage) (addr : ℕ) :
    (pieceOf addr).print render image = render ((withImage em image).read addr) := by
  show _ = render (EepromManager.readByte image addr)
  unfold pieceOf EepromManager.readByte
  by_cases h : addr < EepromSizes.totalSize
  · rw [dif_pos h, dif_pos h]
    rfl
  · rw [dif_neg h, dif_neg h]
    rfl

/-- A cell is shown under its own address only. -/
theorem cell_eq_pieceOf_iff {i : Fin EepromSizes.totalSize} {addr : ℕ} :
    pieceOf addr = .cell i ↔ addr = i.val := by
  unfold pieceOf
  split
  · next h =>
    rw [Piece.cell.injEq, Fin.ext_iff]
  · next h =>
    constructor
    · intro heq
      cases heq
    · rintro rfl
      exact absurd i.isLt h

/-- The line of `printAddress` is a report of the addresses it visits.
SOURCE: EEPROM_Manager.cpp:626-642 -/
theorem toList_addressLine (em : EepromManager) (image : EepromImage) (address length : UInt16) :
    ((withImage em image).addressLine address length).toList =
      ("Addr " ++ toString address.toNat ++ ": ").toList ++
        report render image ((EepromManager.printedAddresses address length).map pieceOf) := by
  rw [EepromManager.addressLine, String.toList_append, String.toList_join, report,
    List.flatMap_map, List.flatMap_map]
  congr 1
  apply List.flatMap_congr
  intro addr _
  exact (print_pieceOf em image addr).symm

/-- A line of the dump is a report in which the secret cells are masked.
SOURCE: EEPROM_Manager.cpp:603-624 -/
theorem toList_dumpLine (em : EepromManager) (image : EepromImage) (i : ℕ) :
    ((withImage em image).dumpLine i).toList = (hexText i ++ ": ").toList ++
      report render image ((EepromManager.lineAddresses i).map dumpPiece) := by
  rw [EepromManager.dumpLine, String.toList_append, String.toList_join, report,
    List.flatMap_map, List.flatMap_map]
  congr 1
  apply List.flatMap_congr
  intro addr _
  rw [dumpPiece]
  split
  · rfl
  · exact (print_pieceOf em image addr).symm

/-! ## The dump -/

/-- The mask covers the secret bytes.
SOURCE: EEPROM_Manager.cpp:612-616 -/
theorem isMasked_of_secret {i : Fin EepromSizes.totalSize} (h : Secret i) :
    EepromManager.isMasked i.val = true := by
  have hrange : EepromAddresses.privateKey ≤ i.val ∧ i.val ≤ EepromAddresses.keypairCrc + 1 := by
    simp only [Secret, EepromAddresses.privateKey, EepromAddresses.keypairCrc] at h ⊢
    omega
  simpa [EepromManager.isMasked] using hrange

/-- Images that differ in secret cells have the same dump. -/
theorem dumpLine_eq_of_agree (em : EepromManager) {a b : EepromImage} (h : Agree Secret a b)
    (i : ℕ) : (withImage em a).dumpLine i = (withImage em b).dumpLine i := by
  apply String.toList_inj.mp
  rw [toList_dumpLine, toList_dumpLine]
  congr 1
  refine keepsSecret_of_public (fun j hcell hsecret => ?_) a b h
  obtain ⟨addr, -, heq⟩ := List.mem_map.mp hcell
  rw [dumpPiece] at heq
  split at heq
  · cases heq
  · next hplain =>
    rw [cell_eq_pieceOf_iff] at heq
    rw [heq] at hplain
    exact hplain (isMasked_of_secret hsecret)

/-- **The dump leaks nothing.** -/
theorem dumpEEPROM_leaksNothing (em : EepromManager) (currentLevel : LogLevel) :
    LeaksNothing em currentLevel .dumpEEPROM := by
  constructor
  · intro a b hagree
    show ((withImage em a).dumpEEPROM currentLevel).lines =
      ((withImage em b).dumpEEPROM currentLevel).lines
    cases hinit : em.isInitialized with
    | false => simp [EepromManager.dumpEEPROM, withImage, hinit]
    | true =>
        have hlines : ∀ image, ((withImage em image).dumpEEPROM currentLevel).lines =
            Logger.logln currentLevel "EEPROM" "=== EEPROM Dump ===" .info ++
              EepromManager.dumpRows.flatMap fun i =>
                Logger.logln currentLevel "EEPROM" ((withImage em image).dumpLine i) .debug := by
          intro image
          exact congrArg Diagnostic.lines (if_neg (by simp [withImage, hinit]))
        rw [hlines, hlines]
        refine congrArg _ (List.flatMap_congr fun i _ => ?_)
        rw [dumpLine_eq_of_agree em hagree i]
  · intro image address haddress
    change address ∈ ((withImage em image).dumpEEPROM currentLevel).reads at haddress
    unfold EepromManager.dumpEEPROM at haddress
    split at haddress
    · cases haddress
    · obtain ⟨i, -, hline⟩ := List.mem_flatMap.mp haddress
      have hread := (List.mem_filter.mp hline).1
      simpa using List.mem_takeWhile_imp hread

/-! ## Single ranges -/

section PrintAddress

variable {em : EepromManager} {currentLevel : LogLevel} {address length : UInt16}

/-- A refused range prints an error only.
SOURCE: EEPROM_Manager.cpp:626-642 -/
theorem printAddress_of_refused (hinit : em.isInitialized = true)
    (h : Refused address length) (image : EepromImage) :
    (withImage em image).printAddress currentLevel address length =
      ⟨[], Logger.logln currentLevel "EEPROM" "Invalid address range for print" .error⟩ := by
  have hinvalid : (!EepromManager.isAddressValid address ||
      !EepromManager.isAddressValid (address + length - 1)) = true := by
    simpa [EepromManager.isAddressValid, Refused] using h
  rw [EepromManager.printAddress, if_neg (by simp [withImage, hinit]), if_pos hinvalid]

/-- A range that is not refused is printed.
SOURCE: EEPROM_Manager.cpp:626-642 -/
theorem printAddress_of_not_refused (hinit : em.isInitialized = true)
    (h : ¬Refused address length) (image : EepromImage) :
    (withImage em image).printAddress currentLevel address length =
      ⟨EepromManager.printedAddresses address length, Logger.logln currentLevel "EEPROM"
        ((withImage em image).addressLine address length) .debug⟩ := by
  have hvalid : ¬(!EepromManager.isAddressValid address ||
      !EepromManager.isAddressValid (address + length - 1)) = true := by
    simpa [EepromManager.isAddressValid, Refused] using h
  rw [EepromManager.printAddress, if_neg (by simp [withImage, hinit]), if_neg hvalid]

/-- Debug lines are printed at the debug level only.
SOURCE: Logger.cpp:60-62 -/
theorem logln_debug_eq_iff {tag m m' : String} :
    Logger.logln currentLevel tag m .debug = Logger.logln currentLevel tag m' .debug ↔
      (currentLevel = .debug → m = m') := by
  cases currentLevel with
  | debug => simp [Logger.logln]
  | _ => simp [Logger.logln, LogLevel.toByte]

/-- The visited addresses wrap at 16 bits.
SOURCE: EEPROM_Manager.cpp:626-642 -/
theorem mem_printedAddresses_iff {addr : ℕ} :
    addr ∈ EepromManager.printedAddresses address length ↔
      ∃ i < length.toNat, (address.toNat + i) % 2 ^ 16 = addr := by
  have hlt := length.toNat_lt
  rw [EepromManager.printedAddresses, List.mem_map]
  constructor
  · rintro ⟨i, hi, rfl⟩
    refine ⟨i, List.mem_range.mp hi, ?_⟩
    rw [UInt16.toNat_add, UInt16.toNat_ofNat', Nat.add_mod_mod]
  · rintro ⟨i, hi, rfl⟩
    refine ⟨i, List.mem_range.mpr hi, ?_⟩
    rw [UInt16.toNat_add, UInt16.toNat_ofNat', Nat.add_mod_mod]

/-- **An accepted range is read within the EEPROM exactly when it is empty or does not run past
the end.** -/
theorem reads_lt_iff (h : ¬Refused address length) :
    (∀ addr ∈ EepromManager.printedAddresses address length, addr < EepromSizes.totalSize) ↔
      length = 0 ∨ address.toNat + length.toNat ≤ EepromSizes.totalSize := by
  obtain ⟨hfirst, hlast⟩ := not_or.mp h
  have haddress := Nat.not_le.mp hfirst
  have hlength := length.toNat_lt
  simp only [EepromSizes.totalSize] at haddress ⊢
  constructor
  · intro hreads
    by_contra hnot
    obtain ⟨hne, hlong⟩ := not_or.mp hnot
    -- the last address is in range only modulo 2^16, so the range reaches the end of the EEPROM
    have hend : 512 ∈ EepromManager.printedAddresses address length := by
      rw [mem_printedAddresses_iff]
      refine ⟨512 - address.toNat, by omega, by omega⟩
    exact absurd (hreads 512 hend) (by omega)
  · rintro (rfl | hfits) addr haddr
    · obtain ⟨i, hi, -⟩ := mem_printedAddresses_iff.mp haddr
      exact absurd hi (Nat.not_lt_zero i)
    · obtain ⟨i, hi, rfl⟩ := mem_printedAddresses_iff.mp haddr
      omega

/-- In a range that fits they are those of the range. -/
theorem mem_printedAddresses_of_fits
    (hfits : address.toNat + length.toNat ≤ EepromSizes.totalSize) {addr : ℕ} :
    addr ∈ EepromManager.printedAddresses address length ↔
      address.toNat ≤ addr ∧ addr < address.toNat + length.toNat := by
  simp only [EepromSizes.totalSize] at hfits
  rw [mem_printedAddresses_iff]
  constructor
  · rintro ⟨i, hi, rfl⟩
    omega
  · rintro ⟨hlo, hhi⟩
    exact ⟨addr - address.toNat, by omega, by omega⟩

/-- The line of a range tells nothing exactly when no byte on it is secret. -/
theorem addressLine_eq_iff :
    (∀ a b, Agree Secret a b →
      (withImage em a).addressLine address length = (withImage em b).addressLine address length) ↔
      ∀ i, Secret i → i.val ∉ EepromManager.printedAddresses address length := by
  have hlines : (∀ a b, Agree Secret a b →
      (withImage em a).addressLine address length = (withImage em b).addressLine address length) ↔
        KeepsSecret Secret render
          ((EepromManager.printedAddresses address length).map pieceOf) := by
    refine forall₂_congr fun a b => imp_congr_right fun _ => ?_
    rw [← String.toList_inj, toList_addressLine, toList_addressLine, List.append_cancel_left_eq]
  have hbytes : Nontrivial UInt8 := ⟨0, 1, by decide⟩
  rw [hlines, keepsSecret_iff length_render render_injective]
  refine forall_congr' fun i => ?_
  have hcell : Piece.cell i ∈ (EepromManager.printedAddresses address length).map pieceOf ↔
      i.val ∈ EepromManager.printedAddresses address length := by
    simp only [List.mem_map, cell_eq_pieceOf_iff, exists_eq_right]
  rw [hcell]
  exact imp_not_comm

/-- An accepted range leaks nothing when the printed bytes are public and the read ones exist. -/
theorem leaksNothing_of_not_refused (hinit : em.isInitialized = true)
    (h : ¬Refused address length) :
    LeaksNothing em currentLevel (.printAddress address length) ↔
      (currentLevel = .debug →
        ∀ i, Secret i → i.val ∉ EepromManager.printedAddresses address length) ∧
      (length = 0 ∨ address.toNat + length.toNat ≤ EepromSizes.totalSize) := by
  have hsame := @printAddress_of_not_refused em currentLevel address length hinit h
  rw [← reads_lt_iff h, ← @addressLine_eq_iff em]
  constructor
  · rintro ⟨htext, hreads⟩
    simp only [Call.run, hsame] at htext hreads
    exact ⟨fun hlevel a b hagree => logln_debug_eq_iff.mp (htext a b hagree) hlevel,
      hreads blankImage⟩
  · rintro ⟨htext, hreads⟩
    refine ⟨fun a b hagree => ?_, fun image => ?_⟩
    · simp only [Call.run, hsame]
      exact logln_debug_eq_iff.mpr fun hlevel => htext hlevel a b hagree
    · simp only [Call.run, hsame]
      exact hreads

end PrintAddress

/-! ## Result -/

/-- **Which diagnostic calls leak nothing.**  A dump never does; a range is harmless when it is
refused or empty, or lies in the EEPROM and shows no secret byte.
SOURCE: EEPROM_Manager.cpp:598-642 -/
theorem leaksNothing_iff {em : EepromManager} (hinit : em.isInitialized = true)
    (currentLevel : LogLevel) (c : Call) :
    LeaksNothing em currentLevel c ↔ Harmless currentLevel c := by
  cases c with
  | dumpEEPROM => exact iff_of_true (dumpEEPROM_leaksNothing em currentLevel) trivial
  | printAddress address length =>
      by_cases hrefused : Refused address length
      · have hsame := @printAddress_of_refused em currentLevel address length hinit hrefused
        refine iff_of_true ⟨fun a b _ => ?_, fun image addr haddr => ?_⟩ (.inl hrefused)
        · rw [Call.run, Call.run, hsame, hsame]
        · rw [Call.run, hsame] at haddr
          cases haddr
      · rw [leaksNothing_of_not_refused hinit hrefused, Harmless]
        by_cases hempty : length = 0
        · subst hempty
          refine iff_of_true ⟨fun _ i _ hmem => ?_, .inl rfl⟩ (.inr (.inl rfl))
          obtain ⟨j, hj, -⟩ := mem_printedAddresses_iff.mp hmem
          exact absurd hj (Nat.not_lt_zero j)
        · simp only [hrefused, hempty, false_or]
          constructor
          · rintro ⟨htext, hfits⟩
            refine ⟨hfits, fun hlevel i hsecret hrange => ?_⟩
            exact htext hlevel i hsecret ((mem_printedAddresses_of_fits hfits).mpr hrange)
          · rintro ⟨hfits, htext⟩
            refine ⟨fun hlevel i hsecret hmem => ?_, hfits⟩
            exact htext hlevel i hsecret ((mem_printedAddresses_of_fits hfits).mp hmem)

/-! ## A blank EEPROM -/

def readyManager : EepromManager := (EepromManager.powerUp blankImage).init

/-- The manager is initialised. -/
theorem readyManager_isInitialized : readyManager.isInitialized = true := rfl

/-- The mesh key is no secret byte. -/
theorem leaksNothing_iff_meshKey :
    LeaksNothing readyManager .debug (.printAddress 16 16) ↔
      Harmless .debug (.printAddress 16 16) :=
  leaksNothing_iff readyManager_isInitialized .debug (.printAddress 16 16)

/-- The private key is printed like any other range, and a range of 65535 bytes from address 2
passes the check and is read to address 65535.
SOURCE: EEPROM_Manager.cpp:626-642 -/
theorem not_leaksNothing_privateKey :
    ¬LeaksNothing readyManager .debug (.printAddress 417 32) ∧
      ¬LeaksNothing readyManager .none (.printAddress 2 65535) := by
  constructor
  · rw [leaksNothing_of_not_refused readyManager_isInitialized (by unfold Refused; decide)]
    rintro ⟨htext, -⟩
    refine htext rfl ⟨417, by decide⟩ (.inl (by decide)) ?_
    rw [mem_printedAddresses_iff]
    exact ⟨0, by decide, by decide⟩
  · rw [leaksNothing_of_not_refused readyManager_isInitialized (by unfold Refused; decide)]
    rintro ⟨-, hfits⟩
    revert hfits
    decide

end DiagnosticLeak

end LatticeNodes.Analysis
