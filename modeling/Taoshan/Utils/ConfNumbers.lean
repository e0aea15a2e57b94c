import Taoshan.Lib.Numerals
import Taoshan.Utils.ConfLines
import Taoshan.Utils.ConfTables

/-!
# Numbers in a Configuration

What a number that is written into `gps.conf` becomes in `gps_conf`.

The numeric fields of `gps_conf` are `unsigned long`s of 32 bits, several of
them bit masks, and a line gives such a number in hexadecimal, after `0x`, or in
decimal digits. Either way it is parsed as a signed `long`, cast to `int` and
stored through a pointer to `int`. The cast and the store keep all 32 bits. The
parse does not: what a `long` of 32 bits cannot hold becomes the largest that it
can, so a number with the highest bit set arrives as `0x7FFFFFFF`. Every other
number arrives as it was written (`roundTrip_iff`).

## Main definitions

* `Spelling`: How a number is written.
* `SetsLast`: A file whose last setting of a parameter is a given line.

## Theorems

* `paramIntValue_spelling`: What is parsed.
* `lastValue_setsLast`, `held_setsLast`: What is read of such a file.
* `roundTrip_iff`: The numbers that arrive.
* `capabilities_saturate`: One that does not.
-/

namespace Taoshan

namespace LocCfg

open Text

variable {D : Type*} {dbl : Doubles D}

/-- A number, written in hexadecimal or in decimal digits. -/
inductive Spelling (v : Nat) : List UInt8 → Prop
  | hex {x : UInt8} {ds : List UInt8} (hx : tolower x = 0x78) (hds : Numeral 16 v ds) :
      Spelling v (0x30 :: x :: ds)
  | dec {ds : List UInt8} (hds : Numeral 10 v ds) : Spelling v ds

/-- The file has a line `name=value`, with or without a newline, and nothing
    that is read behind it sets the parameter again. Whatever is in front of it
    ends with a newline. -/
inductive SetsLast (name value : List UInt8) : List UInt8 → Prop
  | last {before : List UInt8} (hbefore : before = [] ∨ ∃ p, before = p ++ [NL]) :
      SetsLast name value (before ++ (name ++ EQUALS :: value))
  | line {before after : List UInt8} (hbefore : before = [] ∨ ∃ p, before = p ++ [NL])
      (hafter : ∀ s ∈ settings (pieces LOC_MAX_PARAM_LINE after), s.1 ≠ name) :
      SetsLast name value (before ++ (name ++ EQUALS :: value ++ NL :: after))

section Parse

variable {v : Nat} {value : List UInt8}

/-- A number in decimal digits is not taken for a hexadecimal one. -/
theorem isHex_of_digits {ds : List UInt8} (h : Digits 10 ds) : isHex ds = false := by
  unfold isHex
  cases hone : ds[1]? with
  | none => simp only [Option.map_none, reduceCtorEq, beq_iff_eq, Bool.and_eq_false_imp,
      beq_eq_false_iff_ne, ne_eq, not_false_eq_true, implies_true]
  | some c =>
      have hne : tolower c ≠ 0x78 :=
        (digit_ne (by decide) (h c (List.mem_of_getElem? hone))).2.2.2.2.2.2
      rw [Option.map_some, show ((some (tolower c) : Option UInt8) == some 0x78) = false from
        beq_eq_false_iff_ne.mpr (fun he => hne (Option.some.inj he)), Bool.and_false]

theorem isHex_cons {x : UInt8} (hx : tolower x = 0x78) (ds : List UInt8) :
    isHex (0x30 :: x :: ds) = true := by
  unfold isHex
  simp only [List.getElem?_cons_zero, List.getElem?_cons_succ, Option.map_some, hx, BEq.rfl,
    Bool.and_self]

/-- What is parsed: the number, or the largest `long`. -/
theorem paramIntValue_spelling (h : Spelling v value) (name : List UInt8) :
    (configValue dbl name value).paramIntValue =
      BitVec.ofInt 32 (if LONG_MAX < (v : Int) then LONG_MAX else v) := by
  cases h with
  | hex hx hds =>
      unfold configValue
      simp only [isHex_cons hx, if_true, List.drop_succ_cons, List.drop_zero,
        strtol_numeral hds (by decide) (by decide)]
  | dec hds =>
      unfold configValue
      simp only [isHex_of_digits (hds.digits (by decide) (by decide)), Bool.false_eq_true, if_false,
        atoi, strtol_numeral hds (by decide) (by decide)]

/-- A number of 32 bits survives if and only if its highest bit is clear. -/
theorem saturated_eq_iff (hv : v < 0x100000000) :
    BitVec.ofInt 32 (if LONG_MAX < (v : Int) then LONG_MAX else v) = BitVec.ofNat 32 v ↔
      v < 0x80000000 := by
  unfold LONG_MAX
  by_cases hbig : (0x7FFFFFFF : Int) < v
  · rw [if_pos hbig]
    -- The largest `long` is not the number: its highest bit is clear.
    refine ⟨fun he => ?_, fun hlt => absurd hbig (by omega)⟩
    have hnat := congrArg BitVec.toNat he
    rw [BitVec.toNat_ofNat, Nat.mod_eq_of_lt hv] at hnat
    rw [← hnat]
    decide
  · rw [if_neg hbig, BitVec.ofInt_natCast]
    exact ⟨fun _ => by omega, fun _ => rfl⟩

end Parse

section Line

variable {name value : List UInt8}

/-- A string of characters that neither end an operand nor are trimmed. -/
def Word (s : List UInt8) : Prop :=
  s ≠ [] ∧ ∀ c ∈ s, isspace c = false ∧ c ≠ 0 ∧ c ≠ EQUALS

theorem Word.not_mem (h : Word value) : NL ∉ value ∧ 0 ∉ value ∧ EQUALS ∉ value :=
  ⟨fun hmem => Bool.noConfusion ((h.2 _ hmem).1.symm.trans (by decide : isspace NL = true)),
    fun hmem => (h.2 _ hmem).2.1 rfl, fun hmem => (h.2 _ hmem).2.2 rfl⟩

theorem Word.dropWhile (h : Word value) : value.dropWhile isspace = value := by
  cases hv : value with
  | nil => rfl
  | cons c cs =>
      refine List.dropWhile_cons_of_neg ?_
      rw [(h.2 c (hv ▸ List.mem_cons_self)).1]
      exact Bool.false_ne_true

theorem Word.not_blank (h : Word value) : ¬ Blank value := by
  unfold Blank
  rw [h.dropWhile]
  exact h.1

theorem Word.trim (h : Word value) : trim value = value := by
  unfold Text.trim
  rw [h.dropWhile, List.rdropWhile_eq_self_iff]
  intro hne hspace
  rw [(h.2 _ (List.getLast_mem hne)).1] at hspace
  exact Bool.noConfusion hspace

/-- A number is a word, and not a long one. -/
theorem Spelling.word {v : Nat} (hv : v < 0x100000000) (h : Spelling v value) :
    Word value ∧ value.length ≤ 10 := by
  have hword : ∀ {base : Nat} {ds : List UInt8}, base ≤ 16 → Digits base ds →
      ∀ c ∈ ds, isspace c = false ∧ c ≠ 0 ∧ c ≠ EQUALS := by
    intro base ds hbase hds c hc
    rcases digit_ne hbase (hds c hc) with ⟨hspace, hnul, _, heq, _⟩
    exact ⟨hspace, hnul, heq⟩
  cases h with
  | @hex x ds hx hds =>
      have hdigits := hword (Nat.le_refl 16) (hds.digits (by decide) (by decide))
      have hlen := hds.length_le (by decide) (by decide : 0 < 8) hv
      refine ⟨⟨List.cons_ne_nil _ _, fun c hc => ?_⟩, ?_⟩
      · rcases List.mem_cons.mp hc with rfl | hc
        · decide
        · rcases List.mem_cons.mp hc with rfl | hc
          · -- It is an `x`, in one case or the other.
            have hletter : c = 0x78 ∨ c = 0x58 := by
              unfold tolower at hx
              by_cases hrange : 0x41 ≤ c ∧ c ≤ 0x5A
              · rw [if_pos hrange] at hx
                exact Or.inr (by rw [← UInt8.add_sub_cancel c 0x20, hx]; rfl)
              · rw [if_neg hrange] at hx
                exact Or.inl hx
            rcases hletter with rfl | rfl
            · decide
            · decide
          · exact hdigits c hc
      · rw [List.length_cons, List.length_cons]
        omega
  | dec hds =>
      exact ⟨⟨hds.ne_nil, hword (by decide) (hds.digits (by decide) (by decide))⟩,
        hds.length_le (by decide) (by decide) (by omega)⟩

/-- A line of two words has them for operands, with its newline or without. -/
theorem operands_words (hname : Word name) (hvalue : Word value) {tail : List UInt8}
    (htail : tail = [] ∨ tail = [NL]) :
    operands (upToNul (name ++ EQUALS :: value ++ tail)) = some (name, value) := by
  have hblank : ∀ c ∈ tail, c = NL := by
    intro c hc
    rcases htail with rfl | rfl
    · exact absurd hc List.not_mem_nil
    · exact List.mem_singleton.mp hc
  have hnul : 0 ∉ name ++ EQUALS :: (value ++ tail) := by
    intro hmem
    rcases List.mem_append.mp hmem with hmem | hmem
    · exact hname.not_mem.2.1 hmem
    · rcases List.mem_cons.mp hmem with hmem | hmem
      · exact absurd hmem (by decide)
      · rcases List.mem_append.mp hmem with hmem | hmem
        · exact hvalue.not_mem.2.1 hmem
        · exact absurd (hblank 0 hmem) (by decide)
  -- The only mark is the one behind the name, so the value is all that follows it.
  have hmark : EQUALS ∉ value ++ tail := by
    intro hmem
    rcases List.mem_append.mp hmem with hmem | hmem
    · exact hvalue.not_mem.2.2 hmem
    · exact absurd (hblank _ hmem) (by decide)
  have htrim : trim (value ++ tail) = value ∧ ¬ Blank (value ++ tail) := by
    rcases htail with rfl | rfl
    · rw [List.append_nil]
      exact ⟨hvalue.trim, hvalue.not_blank⟩
    · rw [trim_concat_blank (by decide)]
      exact ⟨hvalue.trim, not_blank_concat hvalue.not_blank NL⟩
  have hfields : operands (name ++ EQUALS :: (value ++ tail)) =
      some (trim name, trim (value ++ tail)) :=
    operands_of_fields hnul hname.not_mem.2.2 hmark hname.not_blank htrim.2
  rw [hname.trim, htrim.1] at hfields
  have hstring : upToNul (name ++ EQUALS :: (value ++ tail)) = name ++ EQUALS :: (value ++ tail) :=
    List.takeWhile_eq_self_iff.mpr (bne_of_not_mem hnul)
  rw [List.append_assoc, List.cons_append, hstring]
  exact hfields

end Line

section File

variable {name value file : List UInt8}

/-- What is in front of a line that starts is read on its own. -/
theorem settings_before {before : List UInt8} (h : before = [] ∨ ∃ p, before = p ++ [NL])
    (rest : List UInt8) :
    settings (pieces LOC_MAX_PARAM_LINE (before ++ rest)) =
      settings (pieces LOC_MAX_PARAM_LINE before) ++
        settings (pieces LOC_MAX_PARAM_LINE rest) := by
  rcases h with rfl | ⟨p, rfl⟩
  · rfl
  · rw [List.append_assoc, List.singleton_append, pieces_lines (by decide),
      lines_append, List.flatMap_append, ← pieces_lines (by decide), ← pieces_lines (by decide),
      settings_append]

/-- A line of two words that fits the buffer sets one to the other. -/
theorem settings_words (hname : Word name) (hvalue : Word value) {tail : List UInt8}
    (htail : tail = [] ∨ tail = [NL])
    (hfits : (name ++ EQUALS :: value ++ tail).length < LOC_MAX_PARAM_LINE) :
    settings (pieces LOC_MAX_PARAM_LINE (name ++ EQUALS :: value ++ tail)) = [(name, value)] := by
  have hne : name ++ EQUALS :: value ++ tail ≠ [] :=
    List.append_ne_nil_of_left_ne_nil (List.append_ne_nil_of_left_ne_nil hname.1 _) _
  have hbody : NL ∉ name ++ EQUALS :: value := by
    intro hmem
    rcases List.mem_append.mp hmem with hmem | hmem
    · exact hname.not_mem.1 hmem
    · rcases List.mem_cons.mp hmem with hmem | hmem
      · exact absurd hmem (by decide)
      · exact hvalue.not_mem.1 hmem
  have hnl : NL ∉ (name ++ EQUALS :: value ++ tail).dropLast := by
    rcases htail with rfl | rfl
    · rw [List.append_nil]
      exact fun hmem => hbody (List.dropLast_subset _ hmem)
    · rw [List.dropLast_concat]
      exact hbody
  rw [pieces_short (by decide) hne hnl hfits]
  unfold settings
  rw [List.filterMap_cons, operands_words hname hvalue htail, List.filterMap_nil]

/-- The value that such a file sets the parameter to. -/
theorem lastValue_setsLast (hname : Word name) (hvalue : Word value)
    (hfits : name.length + value.length + 2 < LOC_MAX_PARAM_LINE)
    (hfile : SetsLast name value file) :
    lastValue (settings (pieces LOC_MAX_PARAM_LINE file)) name = some value := by
  have hone : lastValue [(name, value)] name = some value := by
    rw [← List.nil_append [(name, value)], lastValue_concat, if_pos rfl]
  have hlen : (name ++ EQUALS :: value).length = name.length + value.length + 1 := by
    rw [List.length_append, List.length_cons]
    omega
  cases hfile with
  | last hbefore =>
      have hline := settings_words hname hvalue (Or.inl rfl) (by
        rw [List.append_nil, hlen]
        omega)
      rw [List.append_nil] at hline
      rw [settings_before hbefore, hline, lastValue_append, hone, Option.some_or]
  | @line before after hbefore hafter =>
      have hline := settings_words hname hvalue (Or.inr rfl) (by
        rw [List.length_append, hlen, List.length_singleton]
        omega)
      -- What follows the newline is read on its own, and sets other parameters.
      have hnext : settings (pieces LOC_MAX_PARAM_LINE (name ++ EQUALS :: value ++ NL :: after)) =
          [(name, value)] ++ settings (pieces LOC_MAX_PARAM_LINE after) := by
        rw [← hline, ← settings_before (Or.inr ⟨name ++ EQUALS :: value, rfl⟩),
          List.append_assoc (name ++ EQUALS :: value), List.singleton_append]
      rw [settings_before hbefore, hnext, lastValue_append, lastValue_append,
        lastValue_eq_none hafter, Option.none_or, hone, Option.some_or]

/-- The names of the table are words, and the longest has 37 characters. -/
theorem word_of_mem {spec : ParamSpec} (h : spec ∈ gpsParameterTable) :
    Word (cstr spec.paramName) ∧ (cstr spec.paramName).length ≤ 37 := by
  have hall : ∀ spec ∈ gpsParameterTable, cstr spec.paramName ≠ [] ∧
      ((cstr spec.paramName).all fun c => !isspace c && c != 0 && c != EQUALS) = true ∧
      (cstr spec.paramName).length ≤ 37 := by
    decide +kernel
  rcases hall spec h with ⟨hne, hchars, hlen⟩
  refine ⟨⟨hne, fun c hc => ?_⟩, hlen⟩
  have hthis := List.all_eq_true.mp hchars c hc
  simp only [Bool.and_eq_true, Bool.not_eq_eq_eq_not, Bool.not_true, bne_iff_ne, ne_eq] at hthis
  exact ⟨hthis.1.1, hthis.1.2, hthis.2⟩

/-- What the field holds after the read: what was parsed of the last line. -/
theorem held_setsLast (c : Conf D) {spec : ParamSpec} (hspec : spec ∈ gpsParameterTable)
    (hnumber : spec.paramType = 'n') {i : Nat} {e : LocParam D} (he : c.table[i]? = some e)
    (hentry : spec.Describes e) {v : Nat} (hv : v < 0x100000000) (hvalue : Spelling v value)
    (hfile : SetsLast (cstr spec.paramName) value file) :
    (locReadConf dbl c (some file)).table[i]?.bind LocParam.held =
      some (.number (BitVec.ofInt 32 (if LONG_MAX < (v : Int) then LONG_MAX else v))) := by
  have htype : e.paramType = 'n' := hentry.type.trans hnumber
  have hwritable : e.Writable := ⟨hentry.held, Or.inr (Or.inl htype)⟩
  rcases word_of_mem hspec with ⟨hname, hnamelen⟩
  rcases hvalue.word hv with ⟨hword, hwordlen⟩
  -- The line is short enough for the buffer, so it is read in one piece.
  have hlast := lastValue_setsLast hname hword (by unfold LOC_MAX_PARAM_LINE; omega) hfile
  have hparsed : (configValue dbl e.paramName value).paramIntValue = _ :=
    paramIntValue_spelling hvalue e.paramName
  rw [← hentry.name] at hlast
  rw [← hparsed, locReadConf_table,
    List.getElem?_map, he, Option.map_some, Option.bind_some,
    foldl_setConfigEntry hwritable.cleared, show e.cleared.paramName = e.paramName from rfl, hlast,
    Option.elim_some]
  unfold LocParam.stored storedFor
  rw [show e.cleared.paramType = 'n' from htype]
  rfl

/-- A number of 32 bits that is written into the file, in hexadecimal or in
    decimal digits, is in the field after the read if and only if a `long` can
    hold it. -/
theorem roundTrip_iff (dbl : Doubles D) (c : Conf D) {spec : ParamSpec}
    (hspec : spec ∈ gpsParameterTable) (hnumber : spec.paramType = 'n') {i : Nat}
    {e : LocParam D} (he : c.table[i]? = some e) (hentry : spec.Describes e) {v : Nat}
    (hv : v < 0x100000000) (hvalue : Spelling v value)
    (hfile : SetsLast (cstr spec.paramName) value file) :
    (locReadConf dbl c (some file)).table[i]?.bind LocParam.held =
        some (.number (BitVec.ofNat 32 v)) ↔
      v < 0x80000000 := by
  rw [held_setsLast c hspec hnumber he hentry hv hvalue hfile, Option.some.injEq,
    Value.number.injEq, saturated_eq_iff hv]

/-- A table with the entry for `CAPABILITIES`, at its default. -/
def capabilities : Conf Unit where
  table := [⟨cstr "CAPABILITIES", some (.number 7), none, 'n', by decide⟩]
  own := []

theorem roundTrip_capabilities :
    (locReadConf ⟨fun _ => (), ()⟩ capabilities (some (cstr "CAPABILITIES=0x1F\n"))).table[0]?.bind
      LocParam.held = some (.number (BitVec.ofNat 32 0x1F)) := by
  have hspec : number "CAPABILITIES" ∈ gpsParameterTable := by decide
  have hvalue : Spelling 0x1F (cstr "0x1F") :=
    @Spelling.hex 0x1F 0x78 (cstr "1F") (by decide) (by decide)
  have hfile : SetsLast (cstr "CAPABILITIES") (cstr "0x1F") (cstr "CAPABILITIES=0x1F\n") :=
    @SetsLast.line _ _ [] [] (Or.inl rfl) (by decide)
  exact (roundTrip_iff _ capabilities hspec rfl rfl ⟨rfl, rfl, rfl⟩ (by decide) hvalue hfile).mpr
    (by decide)

/-- With the highest bit set, it is cleared and all others are set. -/
theorem capabilities_saturate :
    ¬ (locReadConf ⟨fun _ => (), ()⟩ capabilities
        (some (cstr "CAPABILITIES=0x80000000\n"))).table[0]?.bind LocParam.held =
      some (.number (BitVec.ofNat 32 0x80000000)) := by
  have hspec : number "CAPABILITIES" ∈ gpsParameterTable := by decide
  have hvalue : Spelling 0x80000000 (cstr "0x80000000") :=
    @Spelling.hex 0x80000000 0x78 (cstr "80000000") (by decide) (by decide)
  have hfile : SetsLast (cstr "CAPABILITIES") (cstr "0x80000000")
      (cstr "CAPABILITIES=0x80000000\n") := @SetsLast.line _ _ [] [] (Or.inl rfl) (by decide)
  rw [held_setsLast capabilities hspec rfl rfl ⟨rfl, rfl, rfl⟩ (by decide) hvalue hfile,
    Option.some.injEq, Value.number.injEq]
  decide

end File

end LocCfg

end Taoshan
