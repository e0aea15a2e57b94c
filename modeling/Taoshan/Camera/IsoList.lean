import Mathlib.Tactic.Common
import Taoshan.Camera.AnyKeys
import Taoshan.Lib.Buffer

/-!
# The List of ISO Modes

`camera_fixup_getparams` tells the application the vendor's ISO values as ISO
modes: each element of the vendor's list with `ISO` in front of it, and `auto`
behind them all (`isoList`). It reads the vendor's list byte by byte and builds
its own in an array of 255 bytes. Bytes are put behind the string without ending
it again, which goes well because the rest of the array is zeros, and `bufferPos`
is the length of the string all the time (`IsoWrite.At`).

The loop is written down here with checked writes. As long as they all lie inside
the array it does what `isoModes` does (`isoModesWrite_eq`), and that is so
exactly if the list fits (`isoModesWrite_isSome_iff`).

The way back is to leave out the first three bytes of the mode that the
application chooses, which gives the element it was made from
(`isoModes_translated_iff`).

## Main definitions

* `isoList`: What the application is to be told.
* `IsoFits`: The list fits into the array.
* `isoModeWrite`, `isoModesWrite`: The loop with checked writes.

## Theorems

* `isoEntries_eq`: Byte by byte, or element by element.
* `isoModesLoop_spec`: What the loop leaves in the array.
* `isoModes_eq`: The list that fits is the one that is to be told.
* `isoModes_translated_iff`: There and back.
-/

namespace Taoshan

namespace Camera

open Text

/-- The byte between two elements. -/
def COMMA : UInt8 := 0x2C

/-- What the application is to be told of the vendor's list. -/
def isoList (L : CStr) : CStr :=
  [COMMA].intercalate ((L.splitOn COMMA).map fun iso => cstr "ISO" ++ iso) ++ cstr ",auto"

/-- The list and the byte that ends it fit into 255 bytes. -/
def IsoFits (L : CStr) : Prop := L.length + 3 * (L.splitOn COMMA).length + 5 ≤ 254

instance : DecidablePred IsoFits := fun L =>
  inferInstanceAs (Decidable (L.length + 3 * (L.splitOn COMMA).length + 5 ≤ 254))

section Entries

/-- What one byte of the vendor's list becomes. -/
def isoEntry (c : UInt8) : CStr := if c ≠ COMMA then [c] else cstr ",ISO"

/-- Byte by byte, or element by element: what was made of the first element so
    far is in front. -/
theorem isoEntries_front {L iso : CStr} {rest : List CStr} (p : CStr)
    (h : L.splitOn COMMA = iso :: rest) : p ++ L.flatMap isoEntry =
      [COMMA].intercalate ((p ++ iso) :: rest.map fun iso => cstr "ISO" ++ iso) := by
  induction L generalizing p iso rest with
  | nil =>
      rw [List.splitOn_nil] at h
      cases h
      rw [List.map_nil, List.intercalate_singleton]
      rfl
  | cons c L ih =>
      rw [List.splitOn_cons_eq_if_modifyHead] at h
      rcases hparts : L.splitOn COMMA with _ | ⟨next, more⟩
      · exact absurd hparts (List.splitOn_ne_nil _ _)
      · rw [hparts] at h
        by_cases hc : c = COMMA
        · -- A new element begins.
          rw [if_pos (beq_iff_eq.mpr hc)] at h
          cases h
          rw [List.flatMap_cons, isoEntry, if_neg (not_not.mpr hc), List.map_cons,
            List.intercalate_cons_cons, ← ih (cstr "ISO") hparts, List.append_nil,
            List.append_assoc]
          rfl
        · rw [if_neg (fun heq => hc (beq_iff_eq.mp heq)), List.modifyHead_cons] at h
          cases h
          rw [List.flatMap_cons, isoEntry, if_pos hc, ← List.append_assoc, ih _ hparts,
            List.append_assoc, List.singleton_append]

theorem isoEntries_eq (L : CStr) : cstr "ISO" ++ L.flatMap isoEntry =
    [COMMA].intercalate ((L.splitOn COMMA).map fun iso => cstr "ISO" ++ iso) := by
  rcases hparts : L.splitOn COMMA with _ | ⟨iso, rest⟩
  · exact absurd hparts (List.splitOn_ne_nil _ _)
  · exact isoEntries_front _ hparts

theorem isoEntries_length (L : CStr) :
    (cstr "ISO" ++ L.flatMap isoEntry).length = L.length + 3 * (L.splitOn COMMA).length := by
  induction L with
  | nil => rfl
  | cons c L ih =>
      rw [List.length_append] at ih
      rw [List.splitOn_cons_eq_if_modifyHead, List.flatMap_cons, List.length_append,
        List.length_append, List.length_cons]
      by_cases hc : c = COMMA
      · have hentry : (isoEntry c).length = 4 := by
          rw [isoEntry, if_neg (not_not.mpr hc)]
          rfl
        rw [if_pos (beq_iff_eq.mpr hc), List.length_cons]
        omega
      · have hentry : (isoEntry c).length = 1 := by
          rw [isoEntry, if_pos hc]
          rfl
        rw [if_neg (fun h => hc (beq_iff_eq.mp h)), List.length_modifyHead]
        omega

/-- No element has the byte in it that ends it. -/
theorem comma_not_mem_of_mem_splitOn {L e : CStr} (h : e ∈ L.splitOn COMMA) : COMMA ∉ e := by
  induction L generalizing e with
  | nil =>
      rw [List.splitOn_nil, List.mem_singleton] at h
      rw [h]
      exact List.not_mem_nil
  | cons c L ih =>
      rw [List.splitOn_cons_eq_if_modifyHead] at h
      by_cases hc : c = COMMA
      · rw [if_pos (beq_iff_eq.mpr hc)] at h
        rcases List.mem_cons.mp h with rfl | h
        · exact List.not_mem_nil
        · exact ih h
      · rw [if_neg (fun heq => hc (beq_iff_eq.mp heq))] at h
        rcases hparts : L.splitOn COMMA with _ | ⟨next, more⟩
        · exact absurd hparts (List.splitOn_ne_nil _ _)
        · rw [hparts] at h ih
          rcases List.mem_cons.mp h with rfl | h
          · exact List.not_mem_cons_of_ne_of_not_mem (Ne.symm hc) (ih List.mem_cons_self)
          · exact ih (List.mem_cons_of_mem _ h)

/-- One more element goes to the end. -/
theorem intercalate_concat (x y : CStr) {xs : List CStr} (h : xs ≠ []) :
    x.intercalate (xs ++ [y]) = x.intercalate xs ++ x ++ y := by
  induction xs with
  | nil => exact absurd rfl h
  | cons a xs ih => cases xs with
    | nil =>
        rw [List.singleton_append, List.intercalate_cons_cons, List.intercalate_singleton,
          List.intercalate_singleton]
    | cons b xs =>
        rw [List.cons_append, List.cons_append, List.intercalate_cons_cons,
          List.intercalate_cons_cons, ← List.cons_append, ih (List.cons_ne_nil _ _)]
        simp only [List.append_assoc]

/-- The elements of the list that the application is told. -/
theorem isoList_splitOn (L : CStr) : (isoList L).splitOn COMMA =
    (L.splitOn COMMA).map (fun iso => cstr "ISO" ++ iso) ++ [cstr "auto"] := by
  have hne : (L.splitOn COMMA).map (fun iso => cstr "ISO" ++ iso) ≠ [] := by
    intro h
    exact List.splitOn_ne_nil _ _ (List.map_eq_nil_iff.mp h)
  have hlist : isoList L = [COMMA].intercalate
      ((L.splitOn COMMA).map (fun iso => cstr "ISO" ++ iso) ++ [cstr "auto"]) := by
    rw [intercalate_concat _ _ hne, List.append_assoc]
    rfl
  rw [hlist]
  refine List.splitOn_intercalate COMMA (fun e he => ?_) (List.append_ne_nil_of_left_ne_nil hne _)
  rcases List.mem_append.mp he with he | he
  · rcases List.mem_map.mp he with ⟨iso, hiso, rfl⟩
    intro hmem
    rcases List.mem_append.mp hmem with hmem | hmem
    · exact absurd hmem (by decide)
    · exact comma_not_mem_of_mem_splitOn hiso hmem
  · rw [List.mem_singleton.mp he]
    decide

end Entries

section Loop

/-- The array and the position in it. -/
structure IsoWrite where
  buffer : Buffer 255
  bufferPos : UInt8

/-- The array begins with `ISO` and is zero behind it. -/
def IsoWrite.start : IsoWrite where
  buffer := ⟨cstr "ISO" ++ List.replicate 252 0, by
    rw [List.length_append, List.length_replicate]
    rfl⟩
  bufferPos := 3

/-- One byte of the vendor's list, with the writes checked. -/
def isoModeWrite (b : IsoWrite) (c : UInt8) : Option IsoWrite :=
  if c ≠ COMMA then
    (b.buffer.write b.bufferPos.toNat [c]).map fun buffer => ⟨buffer, b.bufferPos + 1⟩
  else (b.buffer.strcat (cstr ",ISO")).map fun buffer => ⟨buffer, b.bufferPos + 4⟩

/-- The list of ISO modes, with the writes checked. -/
def isoModesWrite (isoModeList : CStr) : Option CStr :=
  match isoModeList.foldlM isoModeWrite .start with
  | none => none
  | some b => (b.buffer.strcat (cstr ",auto")).map Buffer.text

/-- The string that was built so far, with the position behind it. -/
structure IsoWrite.At (b : IsoWrite) (w : CStr) : Prop where
  holds : b.buffer.Holds w
  bufferPos : b.bufferPos.toNat = w.length

theorem IsoWrite.start_at : IsoWrite.start.At (cstr "ISO") :=
  ⟨⟨⟨252, rfl⟩, by decide⟩, rfl⟩

/-- The position does not wrap while there is room. -/
theorem toNat_add_of_le {a b : UInt8} (h : a.toNat + b.toNat ≤ 255) :
    (a + b).toNat = a.toNat + b.toNat := by
  rw [UInt8.toNat_add]
  exact Nat.mod_eq_of_lt (Nat.lt_succ_of_le h)

/-- One byte goes behind the string, or there is no room for the rest either. -/
theorem IsoWrite.At.step {b : IsoWrite} {w : CStr} (h : b.At w) {c : UInt8} (hc : c ≠ 0) :
    (∃ b', isoModeWrite b c = some b' ∧ b'.At (w ++ isoEntry c)) ∨
    (isoModeWrite b c = none ∧ 250 < (w ++ isoEntry c).length) := by
  unfold isoModeWrite isoEntry
  by_cases hcomma : c ≠ COMMA
  · -- A byte of an element goes to the position that is kept along.
    rw [if_pos hcomma, if_pos hcomma, h.bufferPos, List.length_append, List.length_singleton]
    by_cases hroom : w.length < 255
    · rcases h.holds.put hc hroom with ⟨buffer, hwrite, hholds⟩
      refine Or.inl ⟨⟨buffer, b.bufferPos + 1⟩, ?_, hholds, ?_⟩
      · rw [hwrite, Option.map_some]
      · have hone : (1 : UInt8).toNat = 1 := rfl
        rw [toNat_add_of_le, h.bufferPos, List.length_append, List.length_singleton, hone]
        rw [h.bufferPos, hone]
        omega
    · refine Or.inr ⟨?_, by omega⟩
      rw [Buffer.write_eq_none, Option.map_none]
      rw [List.length_singleton]
      omega
  · -- A comma becomes four bytes, put behind the NUL that `strcat` finds.
    have hlength : (cstr ",ISO").length = 4 := rfl
    rw [if_neg hcomma, if_neg hcomma, List.length_append, hlength]
    by_cases hroom : w.length + 4 < 255
    · rcases h.holds.strcat (s := cstr ",ISO") (by decide) hroom with ⟨buffer, hwrite, hholds⟩
      refine Or.inl ⟨⟨buffer, b.bufferPos + 4⟩, ?_, hholds, ?_⟩
      · rw [hwrite, Option.map_some]
      · have hfour : (4 : UInt8).toNat = 4 := rfl
        rw [toNat_add_of_le, h.bufferPos, List.length_append, hlength, hfour]
        rw [h.bufferPos, hfour]
        omega
    · refine Or.inr ⟨?_, by omega⟩
      rw [h.holds.strcat_eq_none (by omega), Option.map_none]

/-- What the loop leaves in the array. -/
theorem isoModesLoop_spec {L : CStr} (hL : (0 : UInt8) ∉ L) {b : IsoWrite} {w : CStr}
    (h : b.At w) :
    (∃ b', L.foldlM isoModeWrite b = some b' ∧ b'.At (w ++ L.flatMap isoEntry)) ∨
    (L.foldlM isoModeWrite b = none ∧ 250 < (w ++ L.flatMap isoEntry).length) := by
  -- Over the vendor's list; the string in the array grows by one entry each time.
  induction L generalizing b w with
  | nil =>
      refine Or.inl ⟨b, rfl, ?_⟩
      rw [List.flatMap_nil, List.append_nil]
      exact h
  | cons c L ih =>
      have hc : c ≠ 0 := fun heq => hL (heq ▸ List.mem_cons_self)
      have hrest : (0 : UInt8) ∉ L := fun hmem => hL (List.mem_cons_of_mem _ hmem)
      rw [List.foldlM_cons, List.flatMap_cons, ← List.append_assoc]
      rcases h.step hc with ⟨b', hstep, hat⟩ | ⟨hstep, hlong⟩
      · rw [hstep]
        exact ih hrest hat
      · refine Or.inr ⟨?_, ?_⟩
        · rw [hstep]
          rfl
        · rw [List.length_append]
          omega

/-- The list is made if it fits, and otherwise a write goes wrong. -/
theorem isoModesWrite_spec {L : CStr} (hL : (0 : UInt8) ∉ L) :
    (isoModesWrite L = some (isoList L) ∧ IsoFits L) ∨
    (isoModesWrite L = none ∧ ¬ IsoFits L) := by
  have hlength := isoEntries_length L
  unfold isoModesWrite IsoFits
  rcases isoModesLoop_spec hL IsoWrite.start_at with ⟨b, hloop, hat⟩ | ⟨hloop, hlong⟩
  · rw [hloop]
    have hauto : (cstr ",auto").length = 5 := rfl
    -- The loop has left room for itself; there may be none for what ends the list.
    by_cases hroom : L.length + 3 * (L.splitOn COMMA).length + 5 ≤ 254
    · rcases hat.holds.strcat (s := cstr ",auto") (by decide)
        (by rw [hlength, hauto]; omega) with ⟨buffer, hwrite, hholds⟩
      refine Or.inl ⟨?_, hroom⟩
      rw [isoEntries_eq] at hholds
      simp only [hwrite, Option.map_some, hholds.text]
      rfl
    · refine Or.inr ⟨?_, hroom⟩
      have hfull := hat.holds.strcat_eq_none (s := cstr ",auto") (by rw [hlength, hauto]; omega)
      simp only [hfull, Option.map_none]
  · refine Or.inr ⟨?_, by omega⟩
    rw [hloop]

theorem isoModesWrite_isSome_iff {L : CStr} (hL : (0 : UInt8) ∉ L) :
    (isoModesWrite L).isSome = true ↔ IsoFits L := by
  rcases isoModesWrite_spec hL with ⟨hsome, hfits⟩ | ⟨hnone, hfits⟩
  · rw [hsome]
    exact ⟨fun _ => hfits, fun _ => rfl⟩
  · rw [hnone]
    exact ⟨fun h => absurd h Bool.false_ne_true, fun h => absurd h hfits⟩

end Loop

section Unchecked

/-- A checked write of one byte, where it succeeds, is the other one. -/
theorem store_of_write {size : Nat} {b b' : Buffer size} {i : Nat} {c : UInt8}
    (h : b.write i [c] = some b') : store b.bytes i c = b'.bytes := by
  rcases Buffer.write_bytes h with ⟨hfits, hbytes⟩
  rw [List.length_singleton] at hfits hbytes
  have hnone : i + 1 - b.bytes.length = 0 := by
    rw [b.length_bytes]
    omega
  unfold store
  rw [hnone, List.replicate_zero, List.append_nil, List.set_eq_take_append_cons_drop, if_pos,
    hbytes, List.append_assoc, List.singleton_append]
  rw [b.length_bytes]
  omega

theorem strcat_of_strcat {size : Nat} {b b' : Buffer size} {s : CStr}
    (h : b.strcat s = some b') : strcat b.bytes s = b'.bytes := by
  rcases Buffer.write_bytes h with ⟨_, hbytes⟩
  unfold strcat
  rw [hbytes, List.length_append, List.length_singleton]
  simp only [List.append_assoc, Buffer.text, Nat.add_assoc]

theorem isoModeStep_of_write {b b' : IsoWrite} {c : UInt8} (h : isoModeWrite b c = some b') :
    isoModeStep ⟨b.buffer.bytes, b.bufferPos⟩ c = ⟨b'.buffer.bytes, b'.bufferPos⟩ := by
  unfold isoModeWrite at h
  unfold isoModeStep
  by_cases hcomma : c ≠ COMMA
  · rw [if_pos hcomma] at h
    rcases Option.map_eq_some_iff.mp h with ⟨buffer, hwrite, rfl⟩
    rw [if_pos (show c ≠ 0x2C from hcomma), store_of_write hwrite]
  · rw [if_neg hcomma] at h
    rcases Option.map_eq_some_iff.mp h with ⟨buffer, hwrite, rfl⟩
    rw [if_neg (show ¬ c ≠ 0x2C from hcomma), strcat_of_strcat hwrite]

theorem isoModesLoop_of_write {L : CStr} {b b' : IsoWrite}
    (h : L.foldlM isoModeWrite b = some b') :
    L.foldl isoModeStep ⟨b.buffer.bytes, b.bufferPos⟩ = ⟨b'.buffer.bytes, b'.bufferPos⟩ := by
  induction L generalizing b with
  | nil =>
      cases h
      rfl
  | cons c L ih =>
      rw [List.foldlM_cons] at h
      cases hstep : isoModeWrite b c with
      | none =>
          rw [hstep] at h
          cases h
      | some b₁ =>
          rw [hstep] at h
          rw [List.foldl_cons, isoModeStep_of_write hstep]
          exact ih h

/-- As long as nothing is written outside of the array, the list is the same. -/
theorem isoModesWrite_eq {L out : CStr} (h : isoModesWrite L = some out) : isoModes L = out := by
  unfold isoModesWrite at h
  cases hloop : L.foldlM isoModeWrite .start with
  | none =>
      rw [hloop] at h
      cases h
  | some b =>
      rw [hloop] at h
      rcases Option.map_eq_some_iff.mp h with ⟨buffer, hwrite, rfl⟩
      have hsame : L.foldl isoModeStep ⟨cstr "ISO" ++ List.replicate 252 0, 3⟩ =
          ⟨b.buffer.bytes, b.bufferPos⟩ := isoModesLoop_of_write hloop
      unfold isoModes
      simp only [hsame, strcat_of_strcat hwrite]
      rfl

/-- The list that fits is the one that is to be told. -/
theorem isoModes_eq {L : CStr} (hL : (0 : UInt8) ∉ L) (hfits : IsoFits L) :
    isoModes L = isoList L := by
  rcases isoModesWrite_spec hL with ⟨hsome, _⟩ | ⟨_, hnot⟩
  · exact isoModesWrite_eq hsome
  · exact absurd hfits hnot

end Unchecked

section Translated

variable {C : CameraParameters}

/-- The parts before and behind leave the list alone. -/
theorem getparams_isoValues (hC : C.Lawful) {settings out L : CStr}
    (hm : C.AllClean (C.unflatten settings))
    (hlist : C.get (C.unflatten settings) KEY_SONY_ISO_AVAIL_MODES = some L)
    (hL : (0 : UInt8) ∉ L) (hfits : IsoFits L) (h : cameraFixupGetparams C settings = some out) :
    C.get (C.unflatten out) KEY_SUPPORTED_ISO_MODES = some (isoList L) := by
  rcases getparams_cases h with ⟨m', hfixup, rfl⟩
  have hcapability := within_fixupCapability hC (C.unflatten settings)
  have hlist' : C.get (fixupCapability C (C.unflatten settings)) KEY_SONY_ISO_AVAIL_MODES =
      some L := by
    rw [hcapability.get _ (by decide), hlist]
  have hmodes : fixupIsoModes C (fixupCapability C (C.unflatten settings)) =
      C.set (fixupCapability C (C.unflatten settings)) KEY_SUPPORTED_ISO_MODES (isoList L) := by
    simp only [fixupIsoModes, hlist', isoModes_eq hL hfits]
  have hclean : Clean (isoList L) := by
    rw [← isoModes_eq hL hfits]
    exact clean_isoModes (hm _ _ hlist).2
  have hiso := within_fixupIsoModes hC (fixupCapability C (C.unflatten settings))
  have hscene := within_fixupSceneMode hC
    (fixupIsoModes C (fixupCapability C (C.unflatten settings)))
  have hhdr := within_fixupVideoHdr hC (fixupSceneMode C
    (fixupIsoModes C (fixupCapability C (C.unflatten settings))))
  have hexposure := within_fixupExposure hC hfixup
  have hall := hexposure.clean (hhdr.clean (hscene.clean (hiso.clean (hcapability.clean hm))))
  rw [hC.get_unflatten_flatten hall, hexposure.get _ (by decide), hhdr.get _ (by decide),
    hscene.get _ (by decide), hmodes]
  exact hC.get_set_self _ (by decide) hclean

/-- What is behind `ISO` is stored, and the exposure mode is another key. -/
theorem setIso_stores (hC : C.Lawful) {m m' : C.Params} {iso : CStr} (hclean : Clean iso)
    (hiso : C.get m KEY_ISO_MODE = some (cstr "ISO" ++ iso)) (h : setIso C m = some m') :
    C.get m' KEY_SONY_ISO_MODE = some iso := by
  have hthree : plusThree (cstr "ISO" ++ iso) = some iso := plusThree_isoText iso
  have hstored : C.get (C.set m KEY_SONY_ISO_MODE iso) KEY_SONY_ISO_MODE = some iso :=
    hC.get_set_self m (by decide) hclean
  unfold setIso at h
  simp only [hiso] at h
  rw [if_pos (show cstr "ISO" ++ iso ≠ cstr "auto" from isoText_ne_auto iso), hthree,
    Option.map_some] at h
  dsimp only at h
  split at h
  · cases h
    exact hstored
  · rw [(within_setIsoAeMode hC h).get _ (by decide), hstored]

theorem setparams_iso (hC : C.Lawful) {settings asked iso : CStr}
    (hm : C.AllClean (C.unflatten settings))
    (hiso : C.get (C.unflatten settings) KEY_ISO_MODE = some (cstr "ISO" ++ iso))
    (h : cameraFixupSetparams C settings = some asked) :
    C.get (C.unflatten asked) KEY_SONY_ISO_MODE = some iso := by
  rcases setparams_cases h with ⟨m₁, m₂, hshutter, hset, rfl⟩
  have hfirst := within_setShutter hC hshutter
  have hsecond := within_setIso hC hset
  have hothers := others_setparams hC m₂
  have hclean : Clean iso := clean_drop (n := 3) (hm _ _ hiso).2
  have hiso₁ : C.get m₁ KEY_ISO_MODE = some (cstr "ISO" ++ iso) := by
    rw [hfirst.get _ (by decide), hiso]
  rw [hC.get_unflatten_flatten (hothers.clean (hsecond.clean (hfirst.clean hm))),
    hothers.get _ (by decide)]
  exact setIso_stores hC hclean hiso₁ hset

/-- The application is told of the vendor's list element by element, and the
    vendor of the element that was chosen, wherever the two functions come to
    their end. The list has to fit its array (`IsoFits`); the other buffers go on
    behind their ends here, and the maps that fit them too are those of `InBounds`. -/
theorem isoModes_translated_iff (C : CameraParameters) (hC : C.Lawful) :
    (∀ settings L, C.AllClean (C.unflatten settings) →
      C.get (C.unflatten settings) KEY_SONY_ISO_AVAIL_MODES = some L → (0 : UInt8) ∉ L →
      IsoFits L →
      ((∃ out, cameraFixupGetparams C settings = some out ∧
        C.get (C.unflatten out) KEY_SUPPORTED_ISO_MODES = some (isoList L)) ↔
        GetSafe C (C.unflatten settings))) ∧
    ∀ settings L (i : Nat) (e : CStr), C.AllClean (C.unflatten settings) →
      ((isoList L).splitOn COMMA)[i]? = some e → e ≠ cstr "auto" →
      C.get (C.unflatten settings) KEY_ISO_MODE = some e →
      ∃ iso : CStr, (L.splitOn COMMA)[i]? = some iso ∧
        ((∃ asked, cameraFixupSetparams C settings = some asked ∧
          C.get (C.unflatten asked) KEY_SONY_ISO_MODE = some iso) ↔
          SetSafe C (C.unflatten settings)) := by
  refine ⟨fun settings L hm hlist hL hfits => ?_, fun settings L i e hm helem hauto hchosen => ?_⟩
  · rw [← getparams_isSome_iff hC, Option.isSome_iff_exists]
    exact ⟨fun ⟨out, h, _⟩ => ⟨out, h⟩,
      fun ⟨out, h⟩ => ⟨out, h, getparams_isoValues hC hm hlist hL hfits h⟩⟩
  · rw [isoList_splitOn, List.getElem?_append] at helem
    split at helem
    · rw [List.getElem?_map] at helem
      rcases Option.map_eq_some_iff.mp helem with ⟨iso, hiso, rfl⟩
      refine ⟨iso, hiso, ?_⟩
      rw [← setparams_isSome_iff hC, Option.isSome_iff_exists]
      exact ⟨fun ⟨asked, h, _⟩ => ⟨asked, h⟩,
        fun ⟨asked, h⟩ => ⟨asked, h, setparams_iso hC hm hchosen h⟩⟩
    · -- Only the last element is behind the vendor's, and it is `auto`.
      have hlast := List.mem_of_getElem? helem
      exact absurd (List.mem_singleton.mp hlast) hauto

/-- A list of two elements, and the second of them as it was chosen. -/
def listSettings : CStr := cstr "sony-iso-values=100,200"
def chosenSettings : CStr := cstr "iso=ISO200;sony-iso-values=100,200"

theorem listSettings_entries : (stringMap.unflatten listSettings).1 =
    [(KEY_SONY_ISO_AVAIL_MODES, cstr "100,200")] := by
  decide +kernel

theorem chosenSettings_entries : (stringMap.unflatten chosenSettings).1 =
    [(KEY_ISO_MODE, cstr "ISO200"), (KEY_SONY_ISO_AVAIL_MODES, cstr "100,200")] := by
  decide +kernel

theorem isoModes_translated_iff_string :
    ((∃ out, cameraFixupGetparams stringMap listSettings = some out ∧
      stringMap.get (stringMap.unflatten out) KEY_SUPPORTED_ISO_MODES =
        some (isoList (cstr "100,200"))) ↔
      GetSafe stringMap (stringMap.unflatten listSettings)) ∧
    ∃ iso : CStr, ((cstr "100,200").splitOn COMMA)[1]? = some iso ∧
      ((∃ asked, cameraFixupSetparams stringMap chosenSettings = some asked ∧
        stringMap.get (stringMap.unflatten asked) KEY_SONY_ISO_MODE = some iso) ↔
        SetSafe stringMap (stringMap.unflatten chosenSettings)) :=
  ⟨(isoModes_translated_iff stringMap stringMap_lawful).1 listSettings (cstr "100,200")
      (stringMap_allClean (by rw [listSettings_entries]; decide))
      (stringMap_get_of listSettings_entries _) (by decide) (by decide),
    (isoModes_translated_iff stringMap stringMap_lawful).2 chosenSettings (cstr "100,200") 1
      (cstr "ISO200") (stringMap_allClean (by rw [chosenSettings_entries]; decide))
      (by decide) (by decide) (stringMap_get_of chosenSettings_entries _)⟩

/-- A vendor without a mode, and one that has a list of modes and no mode. -/
theorem isoModes_not_translated :
    (∃ settings L, stringMap.AllClean (stringMap.unflatten settings) ∧
      stringMap.get (stringMap.unflatten settings) KEY_SONY_ISO_AVAIL_MODES = some L ∧
      (0 : UInt8) ∉ L ∧ IsoFits L ∧ cameraFixupGetparams stringMap settings = none) ∧
    ∃ settings, stringMap.AllClean (stringMap.unflatten settings) ∧
      stringMap.get (stringMap.unflatten settings) KEY_ISO_MODE = some (cstr "ISO200") ∧
      cstr "ISO200" ∈ (isoList (cstr "100,200")).splitOn COMMA ∧
      cameraFixupSetparams stringMap settings = none := by
  have hvendor : (stringMap.unflatten
      (cstr "sony-iso-values=100;sony-iso=100;sony-ae-mode-values=auto")).1 =
      [(KEY_SONY_ISO_AVAIL_MODES, cstr "100"), (KEY_SONY_ISO_MODE, cstr "100"),
        (KEY_SONY_AE_MODE_VALUES, cstr "auto")] := by
    decide +kernel
  have happ : (stringMap.unflatten (cstr "iso=ISO200;sony-ae-mode-values=iso-prio")).1 =
      [(KEY_ISO_MODE, cstr "ISO200"), (KEY_SONY_AE_MODE_VALUES, cstr "iso-prio")] := by
    decide +kernel
  refine ⟨⟨_, cstr "100", stringMap_allClean (by rw [hvendor]; decide),
    stringMap_get_of hvendor _, by decide, by decide, by decide +kernel⟩,
    ⟨_, stringMap_allClean (by rw [happ]; decide), stringMap_get_of happ _, by decide,
      by decide +kernel⟩⟩

end Translated

end Camera

end Taoshan
