import Mathlib.Data.List.ReduceOption
import Taoshan.Utils.ConfNumbers

/-!
# Writing a Configuration and Reading It Back

What whoever writes a `gps.conf` can rely on.

A configuration file is written by hand. There are remarks and empty lines in
it, lines are indented, there may be blanks around the `=`, and a parameter may be
set more than once. None of this matters, provided that a line that sets
something fits the buffer: what `loc_read_conf` gets out of such a file is the
list of its settings, neither more nor less and in their order
(`settings_document`). So a file that gives every parameter of a table the value
it has, however that is spelled, brings the values back into any other table for
the same parameters (`restored`).

Several files may be read one after the other, into the same table. Each read
clears the flags of the table and resets the parameters of the log, but leaves
the values alone. The values are therefore those of one file with all the lines,
and the flags and the parameters of the log tell of the last file only
(`layered`).

## Main definitions

* `ConfLine`, `ConfLine.render`: A line, and how it is written.
* `ConfLine.Legible`: A line that is read as it is meant.
* `Writes`: A value and a way to spell it.
* `Saves`: A file that gives an entry the value it has.
* `SameKind`: Entries for the same parameter.

## Theorems

* `trim_pad`: Blanks around an operand do not matter.
* `settings_document`: What is read of a document.
* `restored`: A table, written and read.
* `layered`: Several files, read one after the other.
-/

namespace Taoshan

namespace LocCfg

open Text

variable {D : Type*} {dbl : Doubles D}

section Lines

/-- A line of a configuration file: a remark, or a setting with blanks in it. -/
inductive ConfLine
  | remark (text : List UInt8)
  | setting (indent name gap gap' value trail : List UInt8)

/-- The text of a line. -/
def ConfLine.render : ConfLine → List UInt8
  | .remark text => text ++ [NL]
  | .setting indent name gap gap' value trail =>
      indent ++ name ++ gap ++ EQUALS :: (gap' ++ value ++ trail) ++ [NL]

/-- What a line sets. -/
def ConfLine.sets : ConfLine → Option (List UInt8 × List UInt8)
  | .remark _ => none
  | .setting _ name _ _ value _ => some (name, value)

/-- The text of a file. -/
def document (ls : List ConfLine) : List UInt8 := ls.flatMap ConfLine.render

/-- Spaces and tabs. -/
def Blanks (s : List UInt8) : Prop := ∀ c ∈ s, isspace c = true ∧ c ≠ NL

/-- A text that can stand on either side of the mark. -/
structure Operand (s : List UInt8) : Prop where
  ne_nil : s ≠ []
  trimmed : trim s = s
  plain : NL ∉ s ∧ 0 ∉ s ∧ EQUALS ∉ s

/-- A remark has no mark in it. A setting fits the buffer, and nothing but
    blanks is around its operands. -/
def ConfLine.Legible : ConfLine → Prop
  | .remark text => NL ∉ text ∧ EQUALS ∉ text
  | .setting indent name gap gap' value trail =>
      Operand name ∧ Operand value ∧ Blanks indent ∧ Blanks gap ∧ Blanks gap' ∧ Blanks trail ∧
        (ConfLine.setting indent name gap gap' value trail).render.length < LOC_MAX_PARAM_LINE

section Operands

variable {s pre post : List UInt8}

/-- An operand does not begin with a blank. -/
theorem Operand.dropWhile (h : Operand s) : s.dropWhile isspace = s := by
  have hlen : s.length ≤ (s.dropWhile isspace).length := by
    have hle := (List.rdropWhile_prefix isspace (s.dropWhile isspace)).length_le
    rw [show (s.dropWhile isspace).rdropWhile isspace = s from h.trimmed] at hle
    exact hle
  exact (List.dropWhile_suffix isspace).eq_of_length_le hlen

theorem Operand.rdropWhile (h : Operand s) : s.rdropWhile isspace = s := by
  have htrim := h.trimmed
  unfold trim at htrim
  rw [h.dropWhile] at htrim
  exact htrim

theorem Operand.not_blank (h : Operand s) : ¬ Blank s := by
  unfold Blank
  rw [h.dropWhile]
  exact h.ne_nil

/-- Blanks in front are skipped, and the rest is read up to its end. -/
theorem dropWhile_pad (h : Operand s) (hpre : ∀ c ∈ pre, isspace c = true) :
    (pre ++ (s ++ post)).dropWhile isspace = s ++ post := by
  rw [List.dropWhile_append_of_pos hpre, List.dropWhile_append, h.dropWhile,
    if_neg (by rw [List.isEmpty_iff]; exact h.ne_nil)]

theorem rdropWhile_pad (hpost : ∀ c ∈ post, isspace c = true) :
    (s ++ post).rdropWhile isspace = s.rdropWhile isspace := by
  unfold List.rdropWhile
  rw [List.reverse_append, List.dropWhile_append_of_pos (fun c hc =>
    hpost c (List.mem_reverse.mp hc))]

/-- Blanks around an operand do not matter. -/
theorem trim_pad (h : Operand s) (hpre : ∀ c ∈ pre, isspace c = true)
    (hpost : ∀ c ∈ post, isspace c = true) : trim (pre ++ (s ++ post)) = s := by
  unfold trim
  rw [dropWhile_pad h hpre, rdropWhile_pad hpost, h.rdropWhile]

theorem not_blank_pad (h : Operand s) (hpre : ∀ c ∈ pre, isspace c = true) :
    ¬ Blank (pre ++ (s ++ post)) := by
  unfold Blank
  rw [dropWhile_pad h hpre]
  exact List.append_ne_nil_of_left_ne_nil h.ne_nil _

/-- What blanks around an operand cannot bring in. -/
theorem not_mem_pad {d : UInt8} (hd : isspace d = false) (hs : d ∉ s)
    (hpre : ∀ c ∈ pre, isspace c = true) (hpost : ∀ c ∈ post, isspace c = true) :
    d ∉ pre ++ (s ++ post) := by
  intro hmem
  rcases List.mem_append.mp hmem with hmem | hmem
  · rw [hpre d hmem] at hd
    exact Bool.noConfusion hd
  · rcases List.mem_append.mp hmem with hmem | hmem
    · exact hs hmem
    · rw [hpost d hmem] at hd
      exact Bool.noConfusion hd

end Operands

/-- A setting as two texts with a mark between them. The newline is one of the
    blanks behind the value. -/
theorem render_setting (indent name gap gap' value trail : List UInt8) :
    (ConfLine.setting indent name gap gap' value trail).render =
      (indent ++ (name ++ gap)) ++ EQUALS :: (gap' ++ (value ++ (trail ++ [NL]))) := by
  simp only [ConfLine.render, List.append_assoc, List.cons_append]

theorem Blanks.isspace {s : List UInt8} (h : Blanks s) : ∀ c ∈ s, isspace c = true :=
  fun c hc => (h c hc).1

/-- A setting is read as it is meant. -/
theorem operands_setting {indent name gap gap' value trail : List UInt8}
    (h : (ConfLine.setting indent name gap gap' value trail).Legible) :
    operands (upToNul (ConfLine.setting indent name gap gap' value trail).render) =
      some (name, value) := by
  rcases h with ⟨hname, hvalue, hindent, hgap, hgap', htrail, _⟩
  -- The newline is one blank more behind the value.
  have hend : ∀ c ∈ trail ++ [NL], isspace c = true := by
    intro c hc
    rcases List.mem_append.mp hc with hc | hc
    · exact htrail.isspace c hc
    · rw [List.mem_singleton.mp hc]
      decide
  have hnul : 0 ∉ indent ++ (name ++ gap) ++ EQUALS :: (gap' ++ (value ++ (trail ++ [NL]))) := by
    intro hmem
    rcases List.mem_append.mp hmem with hmem | hmem
    · exact not_mem_pad (by decide) hname.plain.2.1 hindent.isspace hgap.isspace hmem
    · rcases List.mem_cons.mp hmem with hmem | hmem
      · exact absurd hmem (by decide)
      · exact not_mem_pad (by decide) hvalue.plain.2.1 hgap'.isspace hend hmem
  have hfields : operands (indent ++ (name ++ gap) ++
      EQUALS :: (gap' ++ (value ++ (trail ++ [NL])))) =
        some (trim (indent ++ (name ++ gap)), trim (gap' ++ (value ++ (trail ++ [NL])))) :=
    operands_of_fields hnul
      (not_mem_pad (by decide) hname.plain.2.2 hindent.isspace hgap.isspace)
      (not_mem_pad (by decide) hvalue.plain.2.2 hgap'.isspace hend)
      (not_blank_pad hname hindent.isspace) (not_blank_pad hvalue hgap'.isspace)
  rw [trim_pad hname hindent.isspace hgap.isspace, trim_pad hvalue hgap'.isspace hend] at hfields
  rw [render_setting, upToNul, List.takeWhile_eq_self_iff.mpr (bne_of_not_mem hnul)]
  exact hfields

/-- What `fgets` returns is part of the file. -/
theorem reads_subset (size n : Nat) (file : List UInt8) :
    ∀ p ∈ reads size n file, p ⊆ file := by
  have htake : ∀ (n : Nat) (s : List UInt8), takeLine n s ⊆ s := by
    intro n
    induction n with
    | zero => exact fun s => List.nil_subset s
    | succ n ih =>
        intro s
        cases s with
        | nil => exact List.nil_subset _
        | cons c cs =>
            unfold takeLine
            by_cases hc : c = NL
            · rw [if_pos hc]
              exact List.cons_subset_cons c (List.nil_subset cs)
            · rw [if_neg hc]
              exact List.cons_subset_cons c (ih cs)
  induction n generalizing file with
  | zero => exact fun p hp => absurd hp List.not_mem_nil
  | succ n ih =>
      intro p hp
      unfold reads fgets at hp
      by_cases hfile : file = []
      · rw [if_pos hfile] at hp
        exact absurd hp List.not_mem_nil
      · rw [if_neg hfile] at hp
        rcases List.mem_cons.mp hp with rfl | hp
        · exact htake _ file
        · exact fun c hc => List.mem_of_mem_drop (ih _ p hp hc)

/-- What is read of one line. -/
theorem settings_line {l : ConfLine} (h : l.Legible) :
    settings (pieces LOC_MAX_PARAM_LINE l.render) = l.sets.toList := by
  cases l with
  | remark text =>
      -- No piece of the remark has a mark in it.
      refine List.filterMap_eq_nil_iff.mpr (fun p hp =>
        operands_of_not_mem (nul_not_mem_upToNul p) (fun hmem => ?_))
      have hline := reads_subset _ _ _ p hp ((List.takeWhile_prefix _).subset hmem)
      rcases List.mem_append.mp hline with hmem | hmem
      · exact h.2 hmem
      · exact absurd (List.mem_singleton.mp hmem) (by decide)
  | setting indent name gap gap' value trail =>
      have hoperands := operands_setting h
      rcases h with ⟨hname, hvalue, hindent, hgap, hgap', htrail, hfits⟩
      -- Blanks inside a line are no newline, so the line ends where it should.
      have hblank : ∀ {s : List UInt8}, Blanks s → NL ∉ s := fun hs hmem => (hs NL hmem).2 rfl
      have hne : (ConfLine.setting indent name gap gap' value trail).render ≠ [] :=
        List.append_ne_nil_of_right_ne_nil _ (List.cons_ne_nil _ _)
      have hnl : NL ∉ (ConfLine.setting indent name gap gap' value trail).render.dropLast := by
        unfold ConfLine.render
        rw [List.dropLast_concat]
        simp only [List.mem_append, List.mem_cons, not_or]
        exact ⟨⟨⟨hblank hindent, hname.plain.1⟩, hblank hgap⟩, by decide,
          ⟨hblank hgap', hvalue.plain.1⟩, hblank htrail⟩
      rw [pieces_short (by decide) hne hnl hfits, settings, List.filterMap_cons, hoperands]
      rfl

/-- Every line ends with its newline. -/
theorem render_ends (l : ConfLine) : ∃ p, l.render = p ++ [NL] := by
  cases l with
  | remark text => exact ⟨_, rfl⟩
  | setting indent name gap gap' value trail => exact ⟨_, rfl⟩

/-- What is read of a document is what its lines set, in their order. -/
theorem settings_document {ls : List ConfLine} (h : ∀ l ∈ ls, l.Legible) :
    settings (pieces LOC_MAX_PARAM_LINE (document ls)) = ls.filterMap ConfLine.sets := by
  induction ls with
  | nil => rfl
  | cons l ls ih =>
      have hrest := ih (fun l' hl' => h l' (List.mem_cons_of_mem _ hl'))
      rw [document, List.flatMap_cons, settings_before (Or.inr (render_ends l)),
        settings_line (h l List.mem_cons_self), ← document, hrest, List.filterMap_cons]
      cases l.sets with
      | none => rfl
      | some s => rfl

end Lines

section Restore

/-- A value of an entry of a type, and a way to spell it. Numbers have their
    highest bit clear, and `NULL` stands for the empty string. -/
inductive Writes (dbl : Doubles D) : Char → Value D → List UInt8 → Prop
  | number {i : BitVec 32} {value : List UInt8} (hi : i.toNat < 0x80000000)
      (hvalue : Spelling i.toNat value) : Writes dbl 'n' (.number i) value
  | string {s : List UInt8} (hlen : s.length ≤ LOC_MAX_PARAM_STRING) (hs : s ≠ cstr "NULL") :
      Writes dbl 's' (.string s) s
  | null : Writes dbl 's' (.string []) (cstr "NULL")
  | float {value : List UInt8} : Writes dbl 'f' (.float (configValue dbl [] value).paramDoubleValue)
      value

/-- The last line of the file for an entry gives it the value it has. -/
def Saves (dbl : Doubles D) (ls : List ConfLine) (e : LocParam D) : Prop :=
  ∃ x value, e.held = some x ∧ Writes dbl e.paramType x value ∧
    lastValue (ls.filterMap ConfLine.sets) e.paramName = some value

/-- The two entries are for the same parameter, and the second points to
    something. -/
structure SameKind (e e' : LocParam D) : Prop where
  name : e'.paramName = e.paramName
  type : e'.paramType = e.paramType
  held : e'.held.isSome

/-- A value that was written comes back. -/
theorem storedFor_writes {t : Char} {x : Value D} {value : List UInt8} (h : Writes dbl t x value)
    (name : List UInt8) : storedFor t (configValue dbl name value) = some x := by
  cases h with
  | @number i value hi hvalue =>
      -- Below 2 ^ 31, strtol does not saturate.
      have hsame := (saturated_eq_iff (by omega)).mpr hi
      rw [BitVec.ofNat_toNat, BitVec.setWidth_eq] at hsame
      unfold storedFor
      rw [if_neg (by decide), if_pos rfl, paramIntValue_spelling hvalue, hsame]
  | string hlen hs =>
      unfold storedFor
      rw [if_pos rfl]
      unfold configValue
      simp only [if_neg hs, List.take_of_length_le hlen]
  | null => rfl
  | float =>
      unfold storedFor
      rw [if_neg (by decide), if_neg (by decide), if_pos rfl]
      rfl

theorem writable_of_writes {e e' : LocParam D} {x : Value D} {value : List UInt8}
    (h : Writes dbl e.paramType x value) (hkind : SameKind e e') : e'.Writable := by
  refine ⟨hkind.held, ?_⟩
  rw [hkind.type]
  generalize e.paramType = t at h
  cases h with
  | number _ _ => exact Or.inr (Or.inl rfl)
  | string _ _ => exact Or.inl rfl
  | null => exact Or.inl rfl
  | float => exact Or.inr (Or.inr rfl)

/-- One entry, after the file was read. -/
theorem restored_entry {ls : List ConfLine} {e e' : LocParam D} (h : Saves dbl ls e)
    (hkind : SameKind e e') :
    ((ls.filterMap ConfLine.sets).foldl (fun e s => setConfigEntry (configValue dbl s.1 s.2) e)
      e'.cleared).held = e.held := by
  rcases h with ⟨x, value, hx, hwrites, hlast⟩
  rw [foldl_setConfigEntry (writable_of_writes hwrites hkind).cleared,
    show e'.cleared.paramName = e.paramName from hkind.name, hlast, Option.elim_some, hx]
  -- The last line for the entry is the one that counts.
  unfold LocParam.stored
  rw [show e'.cleared.paramType = e.paramType from hkind.type]
  exact storedFor_writes hwrites _

/-- A document that saves a table brings its values back, into any table for the
    same parameters and whatever that held. -/
theorem restored {ls : List ConfLine} (hls : ∀ l ∈ ls, l.Legible) {t : List (LocParam D)}
    (hsaves : ∀ e ∈ t, Saves dbl ls e) {c : Conf D} (hkinds : List.Forall₂ SameKind t c.table) :
    (locReadConf dbl c (some (document ls))).table.map LocParam.held = t.map LocParam.held := by
  rw [locReadConf_table, settings_document hls]
  generalize c.table = table at hkinds
  induction hkinds with
  | nil => rfl
  | cons hkind _ ih =>
      rw [List.map_cons, List.map_cons, List.map_cons, restored_entry (hsaves _ List.mem_cons_self)
        hkind, ih (fun e he => hsaves e (List.mem_cons_of_mem _ he))]

/-- A remark, a number and a string, with blanks here and there. -/
def savedLines : List ConfLine :=
  [.remark (cstr "# A remark"),
    .setting [0x20, 0x20] (cstr "NMEA_PROVIDER") [] [0x20] (cstr "0x1f") [], .remark [],
    .setting [] (cstr "SERVER") [0x20] [] (cstr "a b") [0x20]]

/-- The table with other values in it. -/
def otherValues : Conf Unit where
  table := [⟨cstr "NMEA_PROVIDER", some (.number 7), none, 'n', by decide⟩,
    ⟨cstr "SERVER", some (.string []), none, 's', by decide⟩]
  own := []

theorem restored_savedLines :
    (locReadConf ⟨fun _ => (), ()⟩ otherValues (some (document savedLines))).table.map
        LocParam.held = [some (.number 0x1F), some (.string (cstr "a b"))] := by
  have hblank : ∀ n, Blanks (List.replicate n 0x20) := by
    intro n c hc
    rw [List.eq_of_mem_replicate hc]
    decide
  have hls : ∀ l ∈ savedLines, l.Legible := by
    simp only [savedLines, List.forall_mem_cons, List.not_mem_nil, false_implies, implies_true,
      and_true]
    exact ⟨⟨by decide, by decide⟩, ⟨⟨by decide, by decide, by decide⟩,
      ⟨by decide, by decide, by decide⟩, hblank 2, hblank 0, hblank 1, hblank 0, by decide⟩,
      ⟨by decide, by decide⟩, ⟨by decide, by decide, by decide⟩,
      ⟨by decide, by decide, by decide⟩, hblank 0, hblank 1, hblank 0, hblank 1, by decide⟩
  have hspelling : Spelling 0x1F (cstr "0x1f") :=
    @Spelling.hex 0x1F 0x78 (cstr "1f") (by decide) (by decide)
  refine @restored Unit ⟨fun _ => (), ()⟩ savedLines hls
    [⟨cstr "NMEA_PROVIDER", some (.number 0x1F), none, 'n', by decide⟩,
      ⟨cstr "SERVER", some (.string (cstr "a b")), none, 's', by decide⟩] ?_ otherValues
    (List.Forall₂.cons ⟨rfl, rfl, rfl⟩ (List.Forall₂.cons ⟨rfl, rfl, rfl⟩ List.Forall₂.nil))
  intro e he
  rcases List.mem_cons.mp he with rfl | he
  · exact ⟨_, _, rfl, Writes.number (by decide) hspelling, by decide⟩
  · rw [List.mem_singleton.mp he]
    exact ⟨_, _, rfl, Writes.string (by decide) (by decide), by decide⟩

end Restore

section Layers

/-- All settings that are stored in an entry, one after the other. -/
def setAllEntries (dbl : Doubles D) (ss : List (List UInt8 × List UInt8)) (e : LocParam D) :
    LocParam D := ss.foldl (fun e s => setConfigEntry (configValue dbl s.1 s.2) e) e

/-- Files read one after the other; `none` is one that cannot be opened. -/
def readAll (dbl : Doubles D) (c : Conf D) (files : List (Option (List UInt8))) : Conf D :=
  files.foldl (locReadConf dbl) c

/-- What all files set, in their order. -/
def allSettings (files : List (Option (List UInt8))) : List (List UInt8 × List UInt8) :=
  files.reduceOption.flatMap fun file => settings (pieces LOC_MAX_PARAM_LINE file)

/-- The file is empty or ends with a newline. -/
def EndsLine (file : List UInt8) : Prop := file = [] ∨ ∃ p, file = p ++ [NL]

/-- An entry without its flag. -/
def LocParam.unflagged (e : LocParam D) : LocParam D := { e with paramSet := none }

/-- What a flag depends on. -/
structure SameOutline (e e' : LocParam D) : Prop where
  name : e.paramName = e'.paramName
  type : e.paramType = e'.paramType
  held : e.held.isSome = e'.held.isSome
  set : e.paramSet.isSome = e'.paramSet.isSome

theorem SameOutline.refl (e : LocParam D) : SameOutline e e := ⟨rfl, rfl, rfl, rfl⟩

theorem SameOutline.symm {e e' : LocParam D} (h : SameOutline e e') : SameOutline e' e :=
  ⟨h.name.symm, h.type.symm, h.held.symm, h.set.symm⟩

theorem SameOutline.trans {e e' e'' : LocParam D} (h : SameOutline e e')
    (h' : SameOutline e' e'') : SameOutline e e'' :=
  ⟨h.name.trans h'.name, h.type.trans h'.type, h.held.trans h'.held, h.set.trans h'.set⟩

theorem SameOutline.cleared (e : LocParam D) : SameOutline e.cleared e :=
  ⟨rfl, rfl, rfl, Option.isSome_map⟩

/-- Whether an entry has a flag is no matter for its value. -/
theorem setConfigEntry_unflagged (v : ConfigValue D) (e : LocParam D) :
    setConfigEntry v e.unflagged = (setConfigEntry v e).unflagged := by
  by_cases h : e.paramName = v.paramName ∧ e.held.isSome
  · have h' : e.unflagged.paramName = v.paramName ∧ e.unflagged.held.isSome := h
    unfold setConfigEntry
    rw [if_pos h', if_pos h, show e.unflagged.paramType = e.paramType from rfl]
    cases storedFor e.paramType v with
    | none => rfl
    | some x => rfl
  · have h' : ¬ (e.unflagged.paramName = v.paramName ∧ e.unflagged.held.isSome) := h
    unfold setConfigEntry
    rw [if_neg h', if_neg h]

theorem setAllEntries_unflagged (dbl : Doubles D) (ss : List (List UInt8 × List UInt8))
    (e : LocParam D) :
    setAllEntries dbl ss e.unflagged = (setAllEntries dbl ss e).unflagged := by
  unfold setAllEntries
  induction ss generalizing e with
  | nil => rfl
  | cons s ss ih => rw [List.foldl_cons, List.foldl_cons, setConfigEntry_unflagged, ih]

/-- A setting changes neither the name of an entry nor where it points to. -/
theorem setConfigEntry_outline (v : ConfigValue D) (e : LocParam D) :
    SameOutline (setConfigEntry v e) e := by
  unfold setConfigEntry
  by_cases h : e.paramName = v.paramName ∧ e.held.isSome
  · rw [if_pos h]
    cases storedFor e.paramType v with
    | none => exact SameOutline.refl e
    | some x => exact ⟨rfl, rfl, h.2.symm, Option.isSome_map⟩
  · rw [if_neg h]
    exact SameOutline.refl e

/-- The flag after a setting. -/
theorem setConfigEntry_paramSet (v : ConfigValue D) (e : LocParam D) :
    (setConfigEntry v e).paramSet =
      if (e.paramName = v.paramName ∧ e.held.isSome) ∧ (storedFor e.paramType v).isSome then
        e.paramSet.map fun _ => 1
      else e.paramSet := by
  unfold setConfigEntry
  by_cases h : e.paramName = v.paramName ∧ e.held.isSome
  · rw [if_pos h]
    cases hx : storedFor e.paramType v with
    | none => exact (if_neg (fun hand => Bool.noConfusion hand.2)).symm
    | some x => exact (if_pos ⟨h, rfl⟩).symm
  · rw [if_neg h, if_neg (fun hand => h hand.1)]

/-- Entries with one outline and one flag have one flag after a setting. -/
theorem setConfigEntry_set {e e' : LocParam D} (h : SameOutline e e')
    (hset : e.paramSet = e'.paramSet) (v : ConfigValue D) :
    (setConfigEntry v e).paramSet = (setConfigEntry v e').paramSet := by
  rw [setConfigEntry_paramSet, setConfigEntry_paramSet, h.name, h.held, h.type, hset]

theorem setAllEntries_outline (ss : List (List UInt8 × List UInt8)) (e : LocParam D) :
    SameOutline (setAllEntries dbl ss e) e := by
  unfold setAllEntries
  induction ss generalizing e with
  | nil => exact SameOutline.refl e
  | cons s ss ih => exact (ih _).trans (setConfigEntry_outline _ e)

theorem setAllEntries_set {e e' : LocParam D} (h : SameOutline e e')
    (hset : e.paramSet = e'.paramSet) (ss : List (List UInt8 × List UInt8)) :
    (setAllEntries dbl ss e).paramSet = (setAllEntries dbl ss e').paramSet := by
  unfold setAllEntries
  induction ss generalizing e e' with
  | nil => exact hset
  | cons s ss ih =>
      have hnext := setConfigEntry_outline (configValue dbl s.1 s.2) e
      have hnext' := setConfigEntry_outline (configValue dbl s.1 s.2) e'
      exact ih ((hnext.trans h).trans hnext'.symm) (setConfigEntry_set h hset _)

/-- The flags that a read leaves do not depend on the flags or the values before
    it. -/
theorem cleared_set {e e' : LocParam D} (h : SameOutline e e') :
    e.cleared.paramSet = e'.cleared.paramSet := by
  have hset := h.set
  unfold LocParam.cleared
  cases hleft : e.paramSet with
  | none =>
      rw [hleft] at hset
      rw [Option.isNone_iff_eq_none.mp (Option.isSome_eq_false_iff.mp hset.symm)]
  | some x =>
      rw [hleft] at hset
      rcases Option.isSome_iff_exists.mp hset.symm with ⟨y, hy⟩
      rw [hy]
      rfl

theorem settings_flatten {files : List (List UInt8)} (h : ∀ file ∈ files, EndsLine file) :
    settings (pieces LOC_MAX_PARAM_LINE files.flatten) =
      files.flatMap fun file => settings (pieces LOC_MAX_PARAM_LINE file) := by
  induction files with
  | nil => rfl
  | cons file files ih =>
      rw [List.flatten_cons, settings_before (h file List.mem_cons_self),
        ih (fun file' hfile => h file' (List.mem_cons_of_mem _ hfile)), List.flatMap_cons]

/-- The parameters of the log, after a file was read. -/
theorem foldl_readPiece_own (ps : List (List UInt8)) (c : Conf D) :
    (ps.foldl (readPiece dbl) c).own = c.own.map (setAllEntries dbl (settings ps)) := by
  induction ps generalizing c with
  | nil => exact (List.map_id c.own).symm
  | cons p ps ih =>
      rw [List.foldl_cons, ih]
      unfold readPiece settings
      rw [List.filterMap_cons]
      cases operands (upToNul p) with
      | none => rfl
      | some s => exact List.map_map

theorem locReadConf_own (c : Conf D) (file : List UInt8) :
    (locReadConf dbl c (some file)).own =
      defaultParameters.map (setAllEntries dbl (settings (pieces LOC_MAX_PARAM_LINE file))) := by
  unfold locReadConf
  simp only
  rw [readLoop_eq, foldl_readPiece_own]
  rfl

/-- The entries after several reads, without their flags. -/
theorem readAll_unflagged (dbl : Doubles D) (c : Conf D) (files : List (Option (List UInt8))) :
    (readAll dbl c files).table.map LocParam.unflagged =
      c.table.map fun e => (setAllEntries dbl (allSettings files) e).unflagged := by
  induction files generalizing c with
  | nil => rfl
  | cons file files ih =>
      have hrest := ih (locReadConf dbl c file)
      unfold readAll at hrest ⊢
      rw [List.foldl_cons, hrest]
      cases file with
      | none => rfl
      | some file =>
          rw [locReadConf_table, List.map_map]
          refine List.map_congr_left (fun e _ => ?_)
          -- What the flags were is forgotten on both sides.
          rw [Function.comp_apply, ← setAllEntries_unflagged, ← setAllEntries_unflagged,
            ← setAllEntries, ← setAllEntries_unflagged,
            show e.cleared.unflagged = e.unflagged from rfl]
          unfold setAllEntries
          rw [← List.foldl_append]
          rfl

/-- The entries after several reads are those before, with other values and other
    flags. -/
theorem readAll_outline (dbl : Doubles D) (c : Conf D) (files : List (Option (List UInt8))) :
    ∃ f : LocParam D → LocParam D, (readAll dbl c files).table = c.table.map f ∧
      ∀ e, SameOutline (f e) e := by
  induction files generalizing c with
  | nil => exact ⟨id, (List.map_id c.table).symm, SameOutline.refl⟩
  | cons file files ih =>
      rcases ih (locReadConf dbl c file) with ⟨f, hf, houtline⟩
      unfold readAll at hf ⊢
      rw [List.foldl_cons, hf]
      cases file with
      | none => exact ⟨f, rfl, houtline⟩
      | some file =>
          rw [locReadConf_table, List.map_map]
          exact ⟨_, rfl, fun e => (houtline _).trans
            ((setAllEntries_outline _ _).trans (SameOutline.cleared e))⟩

/-- After several files have been read, the values are those of one file with all
    their lines, and the flags and the parameters of the log are those of the
    last file. -/
theorem layered (c : Conf D) {files : List (Option (List UInt8))} (last : List UInt8)
    (hends : ∀ file ∈ files.reduceOption, EndsLine file) :
    (readAll dbl c (files ++ [some last])).table.map LocParam.held =
        (locReadConf dbl c (some (files.reduceOption.flatten ++ last))).table.map LocParam.held ∧
      (readAll dbl c (files ++ [some last])).table.map LocParam.paramSet =
        (locReadConf dbl c (some last)).table.map LocParam.paramSet ∧
      (readAll dbl c (files ++ [some last])).own = (locReadConf dbl c (some last)).own := by
  have hlast : readAll dbl c (files ++ [some last]) =
      locReadConf dbl (readAll dbl c files) (some last) := by
    unfold readAll
    rw [List.foldl_append]
    rfl
  refine ⟨?_, ?_, ?_⟩
  · have hall : allSettings (files ++ [some last]) =
        settings (pieces LOC_MAX_PARAM_LINE (files.reduceOption.flatten ++ last)) := by
      -- Files that end with a whole line do so together.
      have hflat : EndsLine files.reduceOption.flatten := by
        generalize files.reduceOption = fs at hends
        induction fs with
        | nil => exact Or.inl rfl
        | cons file fs ih =>
            rcases ih (fun file' hfile => hends file' (List.mem_cons_of_mem _ hfile)) with
              hnil | ⟨p, hp⟩
            · rw [List.flatten_cons, hnil, List.append_nil]
              exact hends file List.mem_cons_self
            · exact Or.inr ⟨file ++ p, by rw [List.flatten_cons, hp, List.append_assoc]⟩
      rw [settings_before hflat, settings_flatten hends]
      unfold allSettings
      rw [List.reduceOption_append, List.flatMap_append]
      exact congrArg (_ ++ ·) (List.append_nil _)
    have hvalues := congrArg (List.map LocParam.held)
      (readAll_unflagged dbl c (files ++ [some last]))
    rw [List.map_map, List.map_map, hall] at hvalues
    rw [locReadConf_table, List.map_map]
    refine hvalues.trans (List.map_congr_left (fun e _ => ?_))
    have hcleared := congrArg LocParam.held (setAllEntries_unflagged dbl
      (settings (pieces LOC_MAX_PARAM_LINE (files.reduceOption.flatten ++ last))) e.cleared)
    rw [show e.cleared.unflagged = e.unflagged from rfl, setAllEntries_unflagged] at hcleared
    exact hcleared
  · rcases readAll_outline dbl c files with ⟨f, hf, houtline⟩
    rw [hlast, locReadConf_table, locReadConf_table, hf, List.map_map, List.map_map, List.map_map]
    refine List.map_congr_left (fun e _ => ?_)
    -- Earlier reads change values and flags, and the flags are cleared first.
    have hsame :=
      ((SameOutline.cleared (f e)).trans (houtline e)).trans (SameOutline.cleared e).symm
    exact setAllEntries_set hsame (cleared_set (houtline e)) _
  · rw [hlast, locReadConf_own, locReadConf_own]

/-- The second file sets a number again. -/
theorem layered_twoFiles :
    (readAll (⟨fun _ => (), ()⟩ : Doubles Unit) otherValues
        ([some (cstr "NMEA_PROVIDER=1\nSERVER=x\n"), none] ++
          [some (cstr "NMEA_PROVIDER=2")])).table.map LocParam.held =
      [some (.number 2), some (.string (cstr "x"))] :=
  (layered otherValues (cstr "NMEA_PROVIDER=2") (by
    intro file hfile
    exact Or.inr ⟨cstr "NMEA_PROVIDER=1\nSERVER=x", List.mem_singleton.mp hfile⟩)).1.trans rfl

end Layers

end LocCfg

end Taoshan
