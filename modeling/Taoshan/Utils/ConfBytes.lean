import Mathlib.Data.List.Forall2
import Mathlib.Data.List.Nodup
import Mathlib.Data.List.Pairwise
import Taoshan.Lib.Bytes
import Taoshan.Lib.Run
import Taoshan.Utils.ConfTables

/-!
# The Bytes a Configuration Writes

`loc_set_config_entry` with the variables where they are: in memory, each as
many bytes as it is declared with.

The store goes through a pointer without a type, and its width follows from the
letter of the entry: four bytes for `'n'`, eight for `'f'`. In the table of
`loc_eng.cpp` this is the size of every variable. In that of `loc_cfg.cpp` it is
not, since `DEBUG_LEVEL` and `TIMESTAMP` are single bytes. A setting of one of
these writes the three bytes behind it as well, whatever lies there, and leaves
them alone only if they happen to hold what is written (`onlyOwn_all_iff`).

As long as that is the case, every variable gets its own value: the memory after
a read shows the entries of `LocCfg.locReadConf`, each of which has its value to
itself (`shows_locReadConf`).

## Main definitions

* `Layout`: Where the variables lie.
* `setConfigEntryAt`, `locReadConfAt`: A setting and a whole read, in memory.
* `OnlyOwn`: A setting writes to the entry's own variable and flag only.
* `SpillMatches`: The condition on a setting.
* `Shows`: A memory that holds what an entry does.
* `Apart`: A layout in which no two variables overlap.

## Theorems

* `poke_of_spill`: A store that is too wide and changes nothing else.
* `onlyOwn_all_iff`: When a setting leaves all other bytes alone.
* `setAll_eq`: At most one entry of the two tables has a name.
* `shows_locReadConf`: What a read leaves in memory.
* `setting_frame`: Both together.
* `debugLevel_spills`: A setting that does not meet the condition.
-/

namespace Taoshan

namespace LocCfg

open Text Bytes

/-- The address of every variable. -/
abbrev Layout := Variable → Nat

/-- The byte at `i` is one of the variable's. -/
def Layout.Covers (L : Layout) (v : Variable) (i : Nat) : Prop := L v ≤ i ∧ i < L v + v.type.size

/-- The bytes of a value as it is stored, a `double` being its 64 bits. -/
def Value.bytes : Value (BitVec 64) → List UInt8
  | .string s => s ++ [0]
  | .number i => encode 4 i.toNat
  | .float d => encode 8 d.toNat

/-- `*param_set = b`, if there is a flag. -/
def setFlag (L : Layout) (flag : Option Variable) (b : UInt8) (m : Mem) : Mem :=
  match flag with
  | none => m
  | some flag => poke m (L flag) [b]

/-- `loc_set_config_entry`. -/
def setConfigEntryAt (L : Layout) (spec : ParamSpec) (v : ConfigValue (BitVec 64))
    (m : Mem) : Mem :=
  if cstr spec.paramName = v.paramName then
    match storedFor spec.paramType v with
    | none => m
    -- The store is as wide as the letter says.
    | some x => setFlag L spec.paramSet 1 (poke m (L spec.paramPtr) x.bytes)
  else m

/-- Both tables, in the order in which they are gone through. -/
def bothTables : List ParamSpec := gpsParameterTable ++ ownParameterTable

/-- A setting, applied to every entry. -/
def setAll (L : Layout) (v : ConfigValue (BitVec 64)) (m : Mem) : Mem :=
  bothTables.foldl (fun m spec => setConfigEntryAt L spec v m) m

/-- One turn of the loop, for what `fgets` has returned. -/
def readPieceAt (L : Layout) (dbl : Doubles (BitVec 64)) (m : Mem) (piece : List UInt8) : Mem :=
  match operands (upToNul piece) with
  | none => m
  | some (name, value) => setAll L (configValue dbl name value) m

/-- `loc_default_parameters` of `loc_cfg.cpp`. -/
def setDefaults (L : Layout) (m : Mem) : Mem :=
  poke (poke m (L (uint8 "DEBUG_LEVEL")) [3]) (L (uint8 "TIMESTAMP")) [0]

/-- The flags are cleared. -/
def clearFlags (L : Layout) (m : Mem) : Mem :=
  gpsParameterTable.foldl (fun m spec => setFlag L spec.paramSet 0 m) m

/-- `loc_read_conf` with the table of `loc_eng.cpp`. -/
def locReadConfAt (L : Layout) (dbl : Doubles (BitVec 64)) (m : Mem) : Option (List UInt8) → Mem
  | none => setDefaults L m
  | some file =>
      (pieces LOC_MAX_PARAM_LINE file).foldl (readPieceAt L dbl) (clearFlags L (setDefaults L m))

/-- The byte at `i` belongs to the entry's variable or to its flag. -/
def ParamSpec.Owns (L : Layout) (spec : ParamSpec) (i : Nat) : Prop :=
  L.Covers spec.paramPtr i ∨ ∃ flag, spec.paramSet = some flag ∧ L.Covers flag i

/-- The entry's own variable and flag are all that a setting changes. -/
def OnlyOwn (L : Layout) (spec : ParamSpec) (v : ConfigValue (BitVec 64)) (m : Mem) : Prop :=
  ∀ i, ¬ spec.Owns L i → setConfigEntryAt L spec v m i = m i

/-- The condition on a setting: it is not for `DEBUG_LEVEL` or `TIMESTAMP`, or
    the three bytes behind that variable already hold the upper three bytes of
    the value. -/
def SpillMatches (L : Layout) (v : ConfigValue (BitVec 64)) (m : Mem) : Prop :=
  ∀ spec ∈ ownParameterTable, cstr spec.paramName = v.paramName →
    peek m (L spec.paramPtr + 1) 3 = (encode 4 v.paramIntValue.toNat).drop 1

/-- The variables of an entry. -/
def ParamSpec.variables (spec : ParamSpec) : List Variable := spec.paramPtr :: spec.paramSet.toList

/-- The two variables do not overlap. -/
def Layout.Disjoint (L : Layout) (v w : Variable) : Prop :=
  L v + v.type.size ≤ L w ∨ L w + w.type.size ≤ L v

instance (L : Layout) (v w : Variable) : Decidable (L.Disjoint v w) :=
  inferInstanceAs (Decidable (_ ∨ _))

/-- No two variables overlap. -/
def Apart (L : Layout) : Prop := (bothTables.flatMap ParamSpec.variables).Pairwise L.Disjoint

/-- The memory holds what the entry does, as far as the variable goes, and its
    flag. -/
structure Shows (L : Layout) (m : Mem) (spec : ParamSpec) (e : LocParam (BitVec 64)) : Prop where
  mem : spec ∈ bothTables
  describes : spec.Describes e
  held : e.held.map (fun x => x.bytes.take spec.paramPtr.type.size) =
    some (peek m (L spec.paramPtr) spec.paramPtr.type.size)
  set : e.paramSet = spec.paramSet.map fun flag => m (L flag)

/-- The memory holds what the entries of both tables do. -/
structure ShowsAll (L : Layout) (m : Mem) (c : Conf (BitVec 64)) : Prop where
  table : List.Forall₂ (Shows L m) gpsParameterTable c.table
  own : List.Forall₂ (Shows L m) ownParameterTable c.own

/-- The loop in memory, piece by piece. -/
def pieceStep (L : Layout) (dbl : Doubles (BitVec 64)) (m : Mem) (piece : List UInt8) :
    Option Mem := some (readPieceAt L dbl m piece)

/-- The condition on a turn of the loop, if there is a setting in the piece. -/
def PieceMatches (L : Layout) (dbl : Doubles (BitVec 64)) (m : Mem) (piece : List UInt8) : Prop :=
  ∀ s, operands (upToNul piece) = some s → SpillMatches L (configValue dbl s.1 s.2) m

instance (L : Layout) (v : ConfigValue (BitVec 64)) (m : Mem) : Decidable (SpillMatches L v m) :=
  inferInstanceAs (Decidable (∀ spec ∈ ownParameterTable, _ → _))

instance (L : Layout) (dbl : Doubles (BitVec 64)) (m : Mem) (piece : List UInt8) :
    Decidable (PieceMatches L dbl m piece) :=
  match h : operands (upToNul piece) with
  | none => isTrue fun s hs => by rw [h] at hs; cases hs
  | some s => decidable_of_iff (SpillMatches L (configValue dbl s.1 s.2) m) (by
      unfold PieceMatches
      rw [h]
      exact ⟨fun hspill t ht => Option.some.inj ht ▸ hspill, fun hall => hall s rfl⟩)

section Frame

variable {L : Layout} {spec : ParamSpec} {v : ConfigValue (BitVec 64)} {m : Mem}

/-- The flags are bytes. -/
theorem size_of_flag (h : spec ∈ bothTables) {flag : Variable} (hflag : spec.paramSet = some flag) :
    flag.type.size = 1 := by
  have hall : ∀ spec ∈ bothTables, spec.paramSet.all (fun f => f.type.size == 1) = true := by
    decide +kernel
  have hthis := hall spec h
  rw [hflag] at hthis
  exact beq_iff_eq.mp hthis

/-- Setting a flag changes that byte only. -/
theorem setFlag_outside {flag : Option Variable} {b : UInt8} {i : Nat}
    (h : ∀ f, flag = some f → i ≠ L f) : setFlag L flag b m i = m i := by
  cases flag with
  | none => rfl
  | some f =>
      have hne := h f rfl
      exact poke_outside m (by rw [List.length_singleton]; omega)

/-- A store that is wider than the variable by bytes that are there already
    changes nothing else. -/
theorem poke_of_spill {off : Nat} {bs : List UInt8} {n : Nat} (hlen : bs.length = 1 + n)
    (h : peek m (off + 1) n = bs.drop 1) {i : Nat} (hi : i ≠ off) : poke m off bs i = m i := by
  by_cases hin : off ≤ i ∧ i < off + bs.length
  · -- The rest of the store is what was read there.
    have hread := peek_poke_drop m off hlen
    have hi' : i = off + 1 + (i - (off + 1)) := by omega
    have hmap : ∀ m' : Mem, (peek m' (off + 1) n)[i - (off + 1)]? = some (m' i) := by
      intro m'
      have hlt : i - (off + 1) < n := by omega
      unfold peek
      rw [List.getElem?_map, List.getElem?_range hlt, Option.map_some, ← hi']
    have hboth := congrArg (fun l => l[i - (off + 1)]?) (hread.trans h.symm)
    simp only [hmap, Option.some.injEq] at hboth
    exact hboth
  · exact poke_outside m (by omega)

/-- What an entry of the first table stores is as wide as its variable. -/
theorem length_bytes_of_mem (h : spec ∈ gpsParameterTable) {x : Value (BitVec 64)}
    (hx : storedFor spec.paramType v = some x) : x.bytes.length = spec.paramPtr.type.size := by
  rcases type_of_mem h with ⟨hletter, htype⟩ | ⟨hletter, htype⟩
  · rw [hletter] at hx
    rw [htype, ← Option.some.inj hx]
    exact encode_length 4 _
  · rw [hletter] at hx
    rw [htype, ← Option.some.inj hx]
    exact encode_length 8 _

/-- Outside the flag, a setting is a store to the variable. -/
theorem setConfigEntryAt_outside {x : Value (BitVec 64)} (hspec : spec ∈ bothTables)
    (hname : cstr spec.paramName = v.paramName) (hx : storedFor spec.paramType v = some x) {i : Nat}
    (hi : ∀ flag, spec.paramSet = some flag → ¬ L.Covers flag i) :
    setConfigEntryAt L spec v m i = poke m (L spec.paramPtr) x.bytes i := by
  unfold setConfigEntryAt
  rw [if_pos hname]
  simp only [hx]
  refine setFlag_outside (fun flag hflag he => hi flag hflag ?_)
  unfold Layout.Covers
  rw [size_of_flag hspec hflag]
  omega

/-- An entry of the first table. -/
theorem onlyOwn_of_mem (h : spec ∈ gpsParameterTable) : OnlyOwn L spec v m := by
  intro i hi
  by_cases hname : cstr spec.paramName = v.paramName
  · cases hx : storedFor spec.paramType v with
    | none =>
        unfold setConfigEntryAt
        rw [if_pos hname, hx]
    | some x =>
        rw [setConfigEntryAt_outside (List.mem_append_left _ h) hname hx
          (fun flag hflag hc => hi (Or.inr ⟨flag, hflag, hc⟩))]
        refine poke_outside m ?_
        rw [length_bytes_of_mem h hx]
        by_contra hin
        exact hi (Or.inl ⟨by omega, by omega⟩)
  · unfold setConfigEntryAt
    rw [if_neg hname]

/-- An entry of the second. -/
theorem onlyOwn_iff_of_mem_own (h : spec ∈ ownParameterTable) :
    OnlyOwn L spec v m ↔ (cstr spec.paramName = v.paramName →
      peek m (L spec.paramPtr + 1) 3 = (encode 4 v.paramIntValue.toNat).drop 1) := by
  rcases type_of_mem_own h with ⟨hletter, htype, hflag⟩
  have hmem : spec ∈ bothTables := List.mem_append_right _ h
  have hnoflag : ∀ i flag, spec.paramSet = some flag → ¬ L.Covers flag i := by
    intro i flag hsome
    rw [hflag] at hsome
    exact nomatch hsome
  have hx : storedFor spec.paramType v = some (.number v.paramIntValue) := by
    rw [hletter]
    rfl
  have howns : ∀ i, ¬ spec.Owns L i ↔ i ≠ L spec.paramPtr := by
    intro i
    unfold ParamSpec.Owns Layout.Covers
    rw [htype]
    refine ⟨fun hno he => hno (Or.inl ⟨by omega, by rw [he]; exact Nat.lt_succ_self _⟩), ?_⟩
    rintro hne (hc | ⟨flag, hsome, hc⟩)
    · have hsize : CType.uint8.size = 1 := rfl
      omega
    · exact hnoflag i flag hsome hc
  have hlen : (encode 4 v.paramIntValue.toNat).length = 1 + 3 := encode_length 4 _
  constructor
  · intro honly hname
    -- What the store leaves behind the variable is what was there.
    rw [← peek_poke_drop m (L spec.paramPtr) hlen]
    refine (peek_congr (fun i hlo _ => ?_)).symm
    rw [← honly i ((howns i).mpr (by omega)),
      setConfigEntryAt_outside hmem hname hx (hnoflag i)]
    rfl
  · intro hspill i hi
    by_cases hname : cstr spec.paramName = v.paramName
    · rw [setConfigEntryAt_outside hmem hname hx (hnoflag i)]
      exact poke_of_spill hlen (hspill hname) ((howns i).mp hi)
    · unfold setConfigEntryAt
      rw [if_neg hname]

/-- A setting leaves all other bytes alone, whichever entry it is applied to, if
    and only if it meets the condition. -/
theorem onlyOwn_all_iff (L : Layout) (v : ConfigValue (BitVec 64)) (m : Mem) :
    (∀ spec ∈ bothTables, OnlyOwn L spec v m) ↔ SpillMatches L v m := by
  constructor
  · intro h spec hspec
    exact (onlyOwn_iff_of_mem_own hspec).mp (h spec (List.mem_append_right _ hspec))
  · intro h spec hspec
    rcases List.mem_append.mp hspec with hspec | hspec
    · exact onlyOwn_of_mem hspec
    · exact (onlyOwn_iff_of_mem_own hspec).mpr (h spec hspec)

end Frame

section Names

variable {L : Layout} {spec : ParamSpec} {v : ConfigValue (BitVec 64)} {m : Mem}

theorem setConfigEntryAt_of_ne (h : cstr spec.paramName ≠ v.paramName) :
    setConfigEntryAt L spec v m = m := if_neg h

theorem names_nodup : (bothTables.map fun spec => cstr spec.paramName).Nodup := by decide +kernel

/-- Of entries with different names, at most one is set. -/
theorem foldl_setConfigEntryAt (L : Layout) (v : ConfigValue (BitVec 64)) (specs : List ParamSpec)
    (hnodup : (specs.map fun spec => cstr spec.paramName).Nodup) (m : Mem) :
    specs.foldl (fun m spec => setConfigEntryAt L spec v m) m =
      (specs.find? fun spec => cstr spec.paramName == v.paramName).elim m
        fun spec => setConfigEntryAt L spec v m := by
  induction specs generalizing m with
  | nil => rfl
  | cons s ss ih =>
      rw [List.map_cons, List.nodup_cons] at hnodup
      rw [List.foldl_cons, ih hnodup.2]
      by_cases hname : cstr s.paramName = v.paramName
      · -- None of the others has the name.
        have hnone : ss.find? (fun spec => cstr spec.paramName == v.paramName) = none := by
          rw [List.find?_eq_none]
          intro t ht heq
          rw [beq_iff_eq, ← hname] at heq
          exact hnodup.1 (heq ▸ List.mem_map_of_mem ht)
        rw [hnone, List.find?_cons, beq_iff_eq.mpr hname]
        rfl
      · rw [setConfigEntryAt_of_ne hname, List.find?_cons, beq_eq_false_iff_ne.mpr hname]

/-- At most one entry of the two tables has a name. -/
theorem setAll_eq (L : Layout) (v : ConfigValue (BitVec 64)) (m : Mem) :
    setAll L v m = (bothTables.find? fun spec => cstr spec.paramName == v.paramName).elim m
      fun spec => setConfigEntryAt L spec v m :=
  foldl_setConfigEntryAt L v bothTables names_nodup m

/-- An entry is known by its name. -/
theorem eq_of_name {t : ParamSpec} (hs : spec ∈ bothTables) (ht : t ∈ bothTables)
    (h : cstr spec.paramName = cstr t.paramName) : spec = t :=
  List.inj_on_of_nodup_map names_nodup hs ht h

end Names

section Places

variable {L : Layout} {spec t : ParamSpec} {m m' : Mem} {i : Nat}

theorem mem_variables_ptr (spec : ParamSpec) : spec.paramPtr ∈ spec.variables := List.mem_cons_self

theorem mem_variables_flag {flag : Variable} (h : spec.paramSet = some flag) :
    flag ∈ spec.variables := by
  unfold ParamSpec.variables
  rw [h]
  exact List.mem_cons_of_mem _ (List.mem_singleton.mpr rfl)

/-- The bytes of an entry are those of its variables. -/
theorem owns_iff : spec.Owns L i ↔ ∃ v ∈ spec.variables, L.Covers v i := by
  constructor
  · rintro (hc | ⟨flag, hflag, hc⟩)
    · exact ⟨spec.paramPtr, mem_variables_ptr spec, hc⟩
    · exact ⟨flag, mem_variables_flag hflag, hc⟩
  · rintro ⟨v, hv, hc⟩
    rcases List.mem_cons.mp hv with rfl | hv
    · exact Or.inl hc
    · exact Or.inr ⟨v, Option.mem_toList.mp hv, hc⟩

theorem not_covers_of_disjoint {v w : Variable} (h : L.Disjoint v w) (hi : L.Covers v i) :
    ¬ L.Covers w i := by
  unfold Layout.Covers at hi ⊢
  unfold Layout.Disjoint at h
  omega

theorem Layout.Disjoint.symm {v w : Variable} (h : L.Disjoint v w) : L.Disjoint w v := Or.symm h

/-- Different entries have different bytes. -/
theorem Apart.entries (hL : Apart L) (hs : spec ∈ bothTables) (ht : t ∈ bothTables) (hne : spec ≠ t)
    (hi : spec.Owns L i) : ¬ t.Owns L i := by
  have hsymm : Std.Symm fun s t : ParamSpec =>
      ∀ v ∈ s.variables, ∀ w ∈ t.variables, L.Disjoint v w :=
    ⟨fun _ _ h v hv w hw => (h w hw v hv).symm⟩
  have hall := (List.pairwise_flatMap.mp hL).2.forall hs ht hne
  rw [owns_iff] at hi ⊢
  rcases hi with ⟨v, hv, hc⟩
  rintro ⟨w, hw, hc'⟩
  exact not_covers_of_disjoint (hall v hv w hw) hc hc'

/-- So have a variable and its flag. -/
theorem Apart.flag (hL : Apart L) (hs : spec ∈ bothTables) {flag : Variable}
    (hflag : spec.paramSet = some flag) (hi : L.Covers spec.paramPtr i) : i ≠ L flag := by
  have hpair := (List.pairwise_flatMap.mp hL).1 spec hs
  unfold ParamSpec.variables at hpair
  rw [hflag] at hpair
  have hdis := (List.pairwise_cons.mp hpair).1 flag (List.mem_singleton.mpr rfl)
  intro he
  refine not_covers_of_disjoint hdis hi ?_
  unfold Layout.Covers
  rw [size_of_flag hs hflag]
  omega

theorem covers_flag (hs : spec ∈ bothTables) {flag : Variable} (hflag : spec.paramSet = some flag) :
    L.Covers flag (L flag) := by
  unfold Layout.Covers
  rw [size_of_flag hs hflag]
  omega

/-- What an entry shows depends on its own bytes. -/
theorem Shows.congr {e : LocParam (BitVec 64)} (h : Shows L m spec e)
    (hagree : ∀ i, spec.Owns L i → m' i = m i) : Shows L m' spec e := by
  refine ⟨h.mem, h.describes, ?_, ?_⟩
  · rw [h.held, peek_congr (fun i hlo hhi => hagree i (Or.inl ⟨hlo, hhi⟩))]
  · rw [h.set]
    cases hflag : spec.paramSet with
    | none => rfl
    | some flag =>
        rw [Option.map_some, Option.map_some,
          hagree (L flag) (Or.inr ⟨flag, hflag, covers_flag h.mem hflag⟩)]

end Places

section Reading

variable {L : Layout} {spec : ParamSpec} {v : ConfigValue (BitVec 64)} {m : Mem}
  {e : LocParam (BitVec 64)} {dbl : Doubles (BitVec 64)}

/-- Every entry stores something, and at least as much as its variable holds. -/
theorem stored_of_mem (h : spec ∈ bothTables) (v : ConfigValue (BitVec 64)) :
    ∃ x, storedFor spec.paramType v = some x ∧ spec.paramPtr.type.size ≤ x.bytes.length := by
  rcases List.mem_append.mp h with h | h
  · have hsome : (storedFor spec.paramType v).isSome = true := by
      refine storedFor_isSome ?_ v
      rcases type_of_mem h with ⟨hletter, _⟩ | ⟨hletter, _⟩
      · exact Or.inr (Or.inl hletter)
      · exact Or.inr (Or.inr hletter)
    rcases Option.isSome_iff_exists.mp hsome with ⟨x, hx⟩
    exact ⟨x, hx, (length_bytes_of_mem h hx).ge⟩
  · rcases type_of_mem_own h with ⟨hletter, htype, _⟩
    refine ⟨.number v.paramIntValue, by rw [hletter]; rfl, ?_⟩
    rw [htype, show (Value.number v.paramIntValue).bytes = encode 4 v.paramIntValue.toNat from rfl,
      encode_length]
    decide

/-- The entry that is set shows its new value. -/
theorem shows_set (hL : Apart L) (h : Shows L m spec e)
    (hname : cstr spec.paramName = v.paramName) :
    Shows L (setConfigEntryAt L spec v m) spec (setConfigEntry v e) := by
  rcases stored_of_mem h.mem v with ⟨x, hx, hsize⟩
  have hafter : setConfigEntryAt L spec v m =
      setFlag L spec.paramSet 1 (poke m (L spec.paramPtr) x.bytes) := by
    unfold setConfigEntryAt
    rw [if_pos hname]
    simp only [hx]
  have hentry : setConfigEntry v e =
      { e with held := some x, paramSet := e.paramSet.map fun _ => 1 } := by
    unfold setConfigEntry
    rw [if_pos ⟨h.describes.name.trans hname, h.describes.held⟩, h.describes.type]
    simp only [hx]
  rw [hafter, hentry]
  refine ⟨h.mem, ⟨h.describes.name, h.describes.type, rfl⟩, ?_, ?_⟩
  · -- The flag lies elsewhere.
    have hptr : peek (setFlag L spec.paramSet 1 (poke m (L spec.paramPtr) x.bytes))
        (L spec.paramPtr) spec.paramPtr.type.size =
          peek (poke m (L spec.paramPtr) x.bytes) (L spec.paramPtr) spec.paramPtr.type.size :=
      peek_congr (fun i hlo hhi =>
        setFlag_outside (fun _ hflag => hL.flag h.mem hflag ⟨hlo, hhi⟩))
    rw [hptr, peek_poke_take _ _ hsize]
    rfl
  · rw [h.set]
    cases hflag : spec.paramSet with
    | none => rfl
    | some flag => exact congrArg some (poke_singleton_self _ (L flag) 1).symm

/-- A setting that meets the condition is shown by every entry. -/
theorem shows_setAll (hL : Apart L) (hspill : SpillMatches L v m) (h : Shows L m spec e) :
    Shows L (setAll L v m) spec (setConfigEntry v e) := by
  have hother : cstr spec.paramName ≠ v.paramName → setConfigEntry v e = e := fun hne =>
    if_neg (fun hand => hne (h.describes.name.symm.trans hand.1))
  -- The names differ, so at most one entry of the two tables is set.
  rw [setAll_eq]
  cases hfind : bothTables.find? (fun spec => cstr spec.paramName == v.paramName) with
  | none =>
      have hne : cstr spec.paramName ≠ v.paramName := fun heq =>
        List.find?_eq_none.mp hfind spec h.mem (beq_iff_eq.mpr heq)
      rw [hother hne]
      exact h
  | some s =>
      have hs : s ∈ bothTables := List.mem_of_find?_eq_some hfind
      have hname : cstr s.paramName = v.paramName := beq_iff_eq.mp
        (List.find?_some (p := fun t : ParamSpec => cstr t.paramName == v.paramName) hfind)
      by_cases heq : spec = s
      · rw [← heq] at hname ⊢
        exact shows_set hL h hname
      · have hne : cstr spec.paramName ≠ v.paramName := fun hn =>
          heq (eq_of_name h.mem hs (hn.trans hname.symm))
        rw [hother hne]
        -- Nothing but the entry's own bytes has changed.
        exact h.congr (fun i hi => (onlyOwn_all_iff L v m).mpr hspill s hs i
          (hL.entries h.mem hs heq hi))

/-- So is a turn of the loop. -/
theorem showsAll_readPiece (hL : Apart L) {c : Conf (BitVec 64)} {piece : List UInt8}
    (hpiece : PieceMatches L dbl m piece) (h : ShowsAll L m c) :
    ShowsAll L (readPieceAt L dbl m piece) (readPiece dbl c piece) := by
  unfold readPieceAt readPiece
  cases hop : operands (upToNul piece) with
  | none => exact h
  | some s =>
      have hspill := hpiece s hop
      refine ⟨?_, ?_⟩
      · exact List.forall₂_map_right_iff.mpr (h.table.imp fun _ _ => shows_setAll hL hspill)
      · exact List.forall₂_map_right_iff.mpr (h.own.imp fun _ _ => shows_setAll hL hspill)

/-- So is the whole loop. -/
theorem showsAll_foldl (hL : Apart L) (ps : List (List UInt8)) : ∀ (m : Mem) (c : Conf (BitVec 64)),
    Run.Guarded (pieceStep L dbl) (PieceMatches L dbl) m ps → ShowsAll L m c →
    ShowsAll L (ps.foldl (readPieceAt L dbl) m) (ps.foldl (readPiece dbl) c) := by
  induction ps with
  | nil => exact fun _ _ _ h => h
  | cons p ps ih =>
      intro m c hg h
      rcases hg _ rfl with ⟨hp, hrest⟩
      exact ih _ _ hrest (showsAll_readPiece hL hp h)

end Reading

section Start

variable {L : Layout} {spec : ParamSpec} {m : Mem} {e : LocParam (BitVec 64)}

/-- The flags that are cleared are 0, and so is what was 0 before. -/
theorem foldl_setFlag_zero {i : Nat} (specs : List ParamSpec) : ∀ m : Mem,
    (m i = 0 ∨ ∃ spec ∈ specs, ∃ f, spec.paramSet = some f ∧ i = L f) →
    specs.foldl (fun m spec => setFlag L spec.paramSet 0 m) m i = 0 := by
  induction specs with
  | nil =>
      rintro m (h | ⟨spec, hspec, _⟩)
      · exact h
      · exact absurd hspec List.not_mem_nil
  | cons s ss ih =>
      intro m h
      refine ih (setFlag L s.paramSet 0 m) ?_
      -- The entry clears the flag itself, or leaves the byte alone.
      by_cases hhere : ∃ f, s.paramSet = some f ∧ i = L f
      · rcases hhere with ⟨f, hf, rfl⟩
        refine Or.inl ?_
        rw [hf]
        exact poke_singleton_self m (L f) 0
      · rcases h with h | ⟨spec, hspec, hflag⟩
        · refine Or.inl ?_
          rw [setFlag_outside (fun f hf he => hhere ⟨f, hf, he⟩)]
          exact h
        · rcases List.mem_cons.mp hspec with rfl | hspec
          · exact absurd hflag hhere
          · exact Or.inr ⟨spec, hspec, hflag⟩

/-- All other bytes stay. -/
theorem foldl_setFlag_outside {i : Nat} (specs : List ParamSpec) : ∀ m : Mem,
    (∀ spec ∈ specs, ∀ f, spec.paramSet = some f → i ≠ L f) →
    specs.foldl (fun m spec => setFlag L spec.paramSet 0 m) m i = m i := by
  induction specs with
  | nil => exact fun _ _ => rfl
  | cons s ss ih =>
      intro m h
      rw [List.foldl_cons, ih _ (fun spec hspec => h spec (List.mem_cons_of_mem _ hspec)),
        setFlag_outside (h s List.mem_cons_self)]

/-- Clearing the flags clears the flag of every entry. -/
theorem shows_clearFlags (hL : Apart L) (hspec : spec ∈ gpsParameterTable) (h : Shows L m spec e) :
    Shows L (clearFlags L m) spec e.cleared := by
  refine ⟨h.mem, ⟨h.describes.name, h.describes.type, h.describes.held⟩, ?_, ?_⟩
  · -- No flag is a byte of the variable.
    refine h.held.trans (congrArg some (peek_congr (fun i hlo hhi => ?_)).symm)
    refine foldl_setFlag_outside _ _ (fun t ht f hf he => ?_)
    have hmem : t ∈ bothTables := List.mem_append_left _ ht
    by_cases heq : t = spec
    · subst heq
      exact hL.flag hmem hf ⟨hlo, hhi⟩ he
    · refine hL.entries h.mem hmem (Ne.symm heq) (Or.inl ⟨hlo, hhi⟩) (Or.inr ⟨f, hf, ?_⟩)
      rw [he]
      exact covers_flag hmem hf
  · unfold LocParam.cleared
    rw [h.set]
    cases hflag : spec.paramSet with
    | none => rfl
    | some flag =>
        rw [Option.map_some, Option.map_some, Option.map_some]
        exact congrArg some (foldl_setFlag_zero gpsParameterTable m
          (Or.inr ⟨spec, hspec, flag, hflag, rfl⟩)).symm

/-- The two entries of the second table, with their defaults. -/
theorem shows_default (hL : Apart L) (hspec : spec ∈ ownParameterTable) (m : Mem) (b : UInt8)
    (hfits : NameFits (cstr spec.paramName)) (hb : m (L spec.paramPtr) = b) :
    Shows L (clearFlags L m) spec
      ⟨cstr spec.paramName, some (.number (BitVec.ofNat 32 b.toNat)), none, 'n', hfits⟩ := by
  have hmem : spec ∈ bothTables := List.mem_append_right _ hspec
  rcases type_of_mem_own hspec with ⟨hletter, htype, hflag⟩
  have hsize : spec.paramPtr.type.size = 1 := by rw [htype]; rfl
  refine ⟨hmem, ⟨rfl, hletter.symm, rfl⟩, ?_, by rw [hflag]; rfl⟩
  have hkept : clearFlags L m (L spec.paramPtr) = b := by
    rw [← hb]
    refine foldl_setFlag_outside _ _ (fun t ht f hf he => ?_)
    have hne : spec ≠ t := by
      rintro rfl
      rw [hflag] at hf
      exact nomatch hf
    refine hL.entries hmem (List.mem_append_left _ ht) hne (Or.inl ⟨Nat.le_refl _, ?_⟩)
      (Or.inr ⟨f, hf, ?_⟩)
    · omega
    · rw [he]
      exact covers_flag (List.mem_append_left _ ht) hf
  have hbyte : (Value.number (BitVec.ofNat 32 b.toNat) : Value (BitVec 64)).bytes.take 1 = [b] := by
    have hlt : b.toNat < 4294967296 := Nat.lt_trans b.toNat_lt (by decide)
    rw [show (Value.number (BitVec.ofNat 32 b.toNat) : Value (BitVec 64)).bytes =
      encode 4 (BitVec.ofNat 32 b.toNat).toNat from rfl, BitVec.toNat_ofNat, Nat.mod_eq_of_lt hlt]
    exact congrArg (fun c => [c]) UInt8.ofNat_toNat
  rw [Option.map_some, hsize, hbyte]
  exact congrArg (fun c => some [c]) hkept.symm

end Start

section Read

variable {L : Layout} {m : Mem} {c : Conf (BitVec 64)} {dbl : Doubles (BitVec 64)}

/-- The memory in front of the loop. -/
theorem showsAll_start (hL : Apart L) (h : List.Forall₂ (Shows L m) gpsParameterTable c.table) :
    ShowsAll L (clearFlags L (setDefaults L m))
      { table := c.table.map LocParam.cleared, own := defaultParameters } := by
  have hdebug : (⟨"DEBUG_LEVEL", uint8 "DEBUG_LEVEL", none, 'n'⟩ : ParamSpec) ∈ ownParameterTable :=
    List.mem_cons_self
  have htime : (⟨"TIMESTAMP", uint8 "TIMESTAMP", none, 'n'⟩ : ParamSpec) ∈ ownParameterTable :=
    List.mem_cons_of_mem _ List.mem_cons_self
  have hcover : ∀ name : String, L.Covers (uint8 name) (L (uint8 name)) := fun _ =>
    ⟨Nat.le_refl _, Nat.lt_succ_self _⟩
  have hne : L (uint8 "DEBUG_LEVEL") ≠ L (uint8 "TIMESTAMP") := by
    intro he
    refine hL.entries (List.mem_append_right _ hdebug) (List.mem_append_right _ htime) (by decide)
      (Or.inl (hcover _)) (Or.inl ?_)
    rw [he]
    exact hcover _
  -- The defaults lie outside the first table.
  have hdefaults : ∀ i, i ≠ L (uint8 "DEBUG_LEVEL") → i ≠ L (uint8 "TIMESTAMP") →
      setDefaults L m i = m i := by
    intro i hd ht
    unfold setDefaults
    rw [poke_outside _ (by rw [List.length_singleton]; omega),
      poke_outside _ (by rw [List.length_singleton]; omega)]
  refine ⟨List.forall₂_map_right_iff.mpr ?_, List.Forall₂.cons ?_ (List.Forall₂.cons ?_
    List.Forall₂.nil)⟩
  · refine List.forall₂_iff_get.mpr ⟨h.length_eq, fun i hi hi' => ?_⟩
    have hspec := List.get_mem gpsParameterTable ⟨i, hi⟩
    have hshow := (List.forall₂_iff_get.mp h).2 i hi hi'
    refine shows_clearFlags hL hspec (hshow.congr (fun j hj => hdefaults j ?_ ?_))
    · rintro rfl
      refine hL.entries hshow.mem (List.mem_append_right _ hdebug) (fun heq => ?_) hj
        (Or.inl (hcover _))
      exact absurd (heq ▸ hspec) (by decide)
    · rintro rfl
      refine hL.entries hshow.mem (List.mem_append_right _ htime) (fun heq => ?_) hj
        (Or.inl (hcover _))
      exact absurd (heq ▸ hspec) (by decide)
  · refine shows_default hL hdebug _ 3 (by decide) ?_
    change poke _ (L (uint8 "TIMESTAMP")) [0] (L (uint8 "DEBUG_LEVEL")) = 3
    rw [poke_outside _ (by rw [List.length_singleton]; omega)]
    exact poke_singleton_self m _ 3
  · refine shows_default hL htime _ 0 (by decide) ?_
    exact poke_singleton_self _ (L (uint8 "TIMESTAMP")) 0

/-- If every setting of a file meets the condition, the memory after the read
    shows what each entry, having its value to itself, then holds. -/
theorem shows_locReadConf (hL : Apart L)
    (h : List.Forall₂ (Shows L m) gpsParameterTable c.table) (file : List UInt8)
    (hg : Run.Guarded (pieceStep L dbl) (PieceMatches L dbl) (clearFlags L (setDefaults L m))
      (pieces LOC_MAX_PARAM_LINE file)) :
    ShowsAll L (locReadConfAt L dbl m (some file)) (locReadConf dbl c (some file)) := by
  unfold locReadConfAt locReadConf
  simp only [readLoop_eq]
  exact showsAll_foldl hL _ _ _ hg (showsAll_start hL h)

/-- Whichever entry of the two tables it is applied to, a setting leaves all
    other bytes alone if and only if it meets the condition. When all settings
    of a file do, every variable gets its own value, whatever the order of the
    lines: what it holds is shown by an entry that no other entry can reach. -/
theorem setting_frame (dbl : Doubles (BitVec 64)) :
    (∀ L v m, (∀ spec ∈ bothTables, OnlyOwn L spec v m) ↔ SpillMatches L v m) ∧
      ∀ L m (c : Conf (BitVec 64)) file, Apart L →
        List.Forall₂ (Shows L m) gpsParameterTable c.table →
        Run.Guarded (pieceStep L dbl) (PieceMatches L dbl) (clearFlags L (setDefaults L m))
          (pieces LOC_MAX_PARAM_LINE file) →
        ShowsAll L (locReadConfAt L dbl m (some file)) (locReadConf dbl c (some file)) :=
  ⟨onlyOwn_all_iff, fun _ _ _ file hL h hg => shows_locReadConf hL h file hg⟩

end Read

section Placed

/-- The alignment of a type, on the 32-bit target. -/
def CType.align : CType → Nat
  | .uint8 => 1
  | .unsignedLong => 4
  | .double => 8

/-- The fields of a `struct`, each at the next offset that is aligned. -/
def fieldOffsets : Nat → List Variable → List (Variable × Nat)
  | _, [] => []
  | n, v :: vs =>
      let off := (n + (v.type.align - 1)) / v.type.align * v.type.align
      (v, off) :: fieldOffsets (off + v.type.size) vs

/-- `gps_conf` at the start of memory, and the two bytes one behind the other. -/
def placed : Layout := fun v =>
  if v = uint8 "DEBUG_LEVEL" then 0x1000
  else if v = uint8 "TIMESTAMP" then 0x1001
  else ((fieldOffsets 0 gpsConf).lookup v).getD 0

theorem apart_placed : Apart placed := by
  unfold Apart
  decide +kernel

/-- No text is a floating point number. -/
def noDoubles : Doubles (BitVec 64) := ⟨fun _ => 0, 0⟩

/-- The entry that a `ParamSpec` initializes, where the memory holds zeros. -/
def zeroed (spec : ParamSpec) : LocParam (BitVec 64) where
  paramName := if NameFits (cstr spec.paramName) then cstr spec.paramName else []
  held := some (if spec.paramType = 'f' then .float 0 else .number 0)
  paramSet := spec.paramSet.map fun _ => 0
  paramType := spec.paramType
  name_fits := by
    split
    · assumption
    · decide

theorem shows_zeroed (L : Layout) {spec : ParamSpec} (h : spec ∈ gpsParameterTable) :
    Shows L (fun _ => 0) spec (zeroed spec) := by
  have hname : ∀ spec ∈ gpsParameterTable, NameFits (cstr spec.paramName) := by decide +kernel
  refine ⟨List.mem_append_left _ h, ⟨if_pos (hname spec h), rfl, rfl⟩, ?_, rfl⟩
  rcases type_of_mem h with ⟨hletter, htype⟩ | ⟨hletter, htype⟩
  · simp only [zeroed, hletter, htype]
    rfl
  · simp only [zeroed, hletter, htype]
    rfl

/-- Three settings, of which one is for `DEBUG_LEVEL`: the bytes behind it are
    zeros. -/
def threeSettings : List UInt8 := cstr "DEBUG_LEVEL = 2\nSUPL_VER=65536\nTIMESTAMP=1\n"

theorem setting_frame_threeSettings :
    ShowsAll placed (locReadConfAt placed noDoubles (fun _ => 0) (some threeSettings))
        (locReadConf noDoubles ⟨gpsParameterTable.map zeroed, []⟩ (some threeSettings)) ∧
      (locReadConfAt placed noDoubles (fun _ => 0) (some threeSettings)
          (placed (uint8 "DEBUG_LEVEL")) = 2 ∧
        locReadConfAt placed noDoubles (fun _ => 0) (some threeSettings)
          (placed (uint8 "TIMESTAMP")) = 1) := by
  refine ⟨(setting_frame noDoubles).2 placed (fun _ => 0) _ threeSettings apart_placed ?_ ?_,
    by decide +kernel, by decide +kernel⟩
  · exact List.forall₂_map_right_iff.mpr (List.forall₂_same.mpr fun spec h => shows_zeroed placed h)
  · decide +kernel

/-- A memory in which `TIMESTAMP` is 1. -/
def stamped : Mem := fun i => if i = placed (uint8 "TIMESTAMP") then 1 else 0

/-- Setting `DEBUG_LEVEL` sets `TIMESTAMP` to 0, so it depends on the order of
    the lines whether its own setting has any effect. -/
theorem debugLevel_spills :
    ¬ (∀ spec ∈ bothTables, OnlyOwn placed spec
        (configValue noDoubles (cstr "DEBUG_LEVEL") (cstr "2")) stamped) ∧
      locReadConfAt placed noDoubles (fun _ => 0) (some (cstr "DEBUG_LEVEL=2\nTIMESTAMP=1\n"))
        (placed (uint8 "TIMESTAMP")) = 1 ∧
      locReadConfAt placed noDoubles (fun _ => 0) (some (cstr "TIMESTAMP=1\nDEBUG_LEVEL=2\n"))
        (placed (uint8 "TIMESTAMP")) = 0 := by
  refine ⟨fun h => ?_, by decide +kernel, by decide +kernel⟩
  have hspill := (onlyOwn_all_iff _ _ _).mp h ⟨"DEBUG_LEVEL", uint8 "DEBUG_LEVEL", none, 'n'⟩
    List.mem_cons_self rfl
  exact absurd hspill (by decide +kernel)

end Placed

end LocCfg

end Taoshan
