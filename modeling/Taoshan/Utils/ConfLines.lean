import Mathlib.Data.List.Forall2
import Mathlib.Data.List.TakeDrop
import Taoshan.Utils.LocCfg

/-!
# Reading a Configuration by Lines

What a configuration file means, line by line, and when `loc_read_conf` agrees.

A line sets a parameter if it has two fields around an `=`. Both are trimmed,
and the last line with a name counts. `loc_read_conf` sees a line in cuts of 79
bytes and treats each of them as a line of its own, so it can only agree if
nothing but the first cut of a line sets a parameter. What the first cut sets is
its first two fields as well, up to a NUL and with the newline, and a field that
is all blanks is left as it is (`operands_eq`).

So the first cut sets what the line does, but for a line that is misread: one of
more than 79 bytes, or with a NUL, or with nothing but blanks in one of the two
fields (`cutSetting_of_not_misread`). Such a line only matters if no later line
has the name, and then what is cut must be the same text
(`readByLines_iff`). A file without such lines is always read by lines
(`readByLines_of_not_misread`).

## Main definitions

* `lineSetting`, `lineSettings`: What a line sets, and what a file does.
* `AsLines`, `ReadByLines`: An entry, and a whole read, that agree with the
  lines.
* `cut`, `cutSetting`: A line, cut after every 79 bytes, and what a cut sets.
* `Misread`: The lines that may be read in another way.
* `CutsSetNothing`, `MisreadAlike`: The two conditions.

## Theorems

* `operands_eq`: The operands, as fields.
* `lastValue_pieces`: The first cuts decide if no others set anything.
* `cutSetting_of_not_misread`: A line that is not misread.
* `readByLines_iff`: When the file is read by lines.
* `readByLines_of_not_misread`: A file without misread lines is.
-/

namespace Taoshan

namespace LocCfg

open Text

variable {D : Type*} {dbl : Doubles D} {file : List UInt8}

/-- A line without its newline. -/
def chomp (l : List UInt8) : List UInt8 := l.takeWhile (· != NL)

/-- The first two fields of a line that are separated by `=`, trimmed. -/
def lineSetting (l : List UInt8) : Option (List UInt8 × List UInt8) :=
  match strtok EQUALS (chomp l) with
  | none => none
  | some (name, rest) => match strtok EQUALS rest with
    | none => none
    | some (value, _) => some (trim name, trim value)

/-- What the lines of a file set, in their order. -/
def lineSettings (file : List UInt8) : List (List UInt8 × List UInt8) :=
  (lines file).filterMap lineSetting

/-- The entry holds the value of the last line with its name, or what it held
    before if there is none, and its flag says which. -/
structure AsLines (dbl : Doubles D) (file : List UInt8) (before after : LocParam D) : Prop where
  held : after.held = (lastValue (lineSettings file) before.paramName).elim before.held
    fun value => storedFor before.paramType (configValue dbl before.paramName value)
  set : after.paramSet = before.paramSet.map fun _ =>
    if (lastValue (lineSettings file) before.paramName).isSome then 1 else 0

/-- Every number and string of every table ends up as the lines say, and what is
    read from behind the start of a line sets nothing. -/
structure ReadByLines (dbl : Doubles D) (file : List UInt8) : Prop where
  entries : ∀ c : Conf D, List.Forall₂ (fun e e' => e.Writable → AsLines dbl file e e')
    c.table (locReadConf dbl c (some file)).table
  starts : ∀ l ∈ lines file, ∀ p ∈ (pieces LOC_MAX_PARAM_LINE l).tail, ∀ c : Conf D,
    readPiece dbl c p = c

/-- All blanks. -/
def Blank (s : List UInt8) : Prop := s.dropWhile isspace = []

instance (s : List UInt8) : Decidable (Blank s) := inferInstanceAs (Decidable (_ = _))

/-- A field without the blanks around it, but for one that is all blanks. -/
def kept (f : List UInt8) : List UInt8 := if Blank f then f else trim f

/-- The first two fields, each as `g` leaves it. -/
def firstTwo (g : List UInt8 → List UInt8) :
    List (List UInt8) → Option (List UInt8 × List UInt8)
  | name :: value :: _ => some (g name, g value)
  | _ => none

/-- The bytes of a line from `79 * i` on, up to the next cut. -/
def cut (i : Nat) (l : List UInt8) : List UInt8 :=
  (l.drop ((LOC_MAX_PARAM_LINE - 1) * i)).take (LOC_MAX_PARAM_LINE - 1)

/-- What a cut of a line sets: the first two fields of the text in front of a NUL,
    of which those that are not all blanks are trimmed. -/
def cutSetting (p : List UInt8) : Option (List UInt8 × List UInt8) :=
  firstTwo kept (fields EQUALS (upToNul p))

/-- No cut of a line but the first has two fields with a name that an entry can
    have. -/
def CutsSetNothing (file : List UInt8) : Prop :=
  ∀ l ∈ lines file, ∀ i, 0 < i → ∀ s, cutSetting (cut i l) = some s → ¬ NameFits s.1

/-- A line of more than 79 bytes, or with a NUL in it, or with two fields one of
    which is all blanks. -/
def Misread (l : List UInt8) : Prop :=
  LOC_MAX_PARAM_LINE ≤ l.length ∨ 0 ∈ l ∨
    ∃ name value rest, fields EQUALS l = name :: value :: rest ∧ (Blank name ∨ Blank value)

/-- The line sets something with this name, as a whole or in its first cut. -/
def Names (name l : List UInt8) : Prop :=
  (∃ v, cutSetting (cut 0 l) = some (name, v)) ∨ ∃ v, lineSetting l = some (name, v)

/-- The same text; `NULL` and nothing are one if they are one to `atof`. -/
def SameText (dbl : Doubles D) (v w : List UInt8) : Prop :=
  v = w ∨ (v = [] ∨ v = cstr "NULL") ∧ (w = [] ∨ w = cstr "NULL") ∧ dbl.atof v = dbl.atof w

/-- If the last line with a name is misread, then the last text for the name is
    the same in the first cuts of the lines up to there as in these lines as a
    whole, or there is none of either. -/
def MisreadAlike (dbl : Doubles D) (file : List UInt8) : Prop :=
  ∀ name, NameFits name → ∀ before l after, lines file = before ++ l :: after →
    Misread l → Names name l → (∀ m ∈ after, ¬ Names name m) →
    Option.Rel (SameText dbl)
      (lastValue ((before ++ [l]).filterMap fun m => cutSetting (cut 0 m)) name)
      (lastValue ((before ++ [l]).filterMap lineSetting) name)

/-- What the first cuts of the lines set. -/
def headSettings (file : List UInt8) : List (List UInt8 × List UInt8) :=
  (lines file).filterMap fun l => cutSetting (cut 0 l)

/-- Entries of all types store the same for the two values. -/
def Alike (dbl : Doubles D) (v w : List UInt8) : Prop :=
  ∀ t, storedFor t (configValue dbl [] v) = storedFor t (configValue dbl [] w)

section Fields

theorem trimmed_eq_kept {f : List UInt8} (hnul : 0 ∉ f) : trimmed f = kept f := trimmed_eq hnul

/-- The operands of a string are its first two fields. -/
theorem operands_eq {s : List UInt8} (hnul : 0 ∉ s) :
    operands s = firstTwo kept (fields EQUALS s) := by
  have hkept : ∀ f ∈ fields EQUALS s, trimmed f = kept f := fun f hf =>
    trimmed_eq_kept (fun hmem => hnul ((isInfix_of_mem_fields hf).subset hmem))
  unfold operands
  rcases strtok_fields EQUALS s with ⟨hnone, hfields⟩ | ⟨name, rest, hfirst, hfields⟩
  · rw [hnone, hfields]
    rfl
  · rw [hfields] at hkept ⊢
    rcases strtok_fields EQUALS rest with ⟨hnone, hrest⟩ | ⟨value, rest', hsecond, hrest⟩
    · simp only [hfirst, hnone, hrest, firstTwo]
    · rw [hrest] at hkept ⊢
      simp only [hfirst, hsecond, firstTwo, hkept name List.mem_cons_self,
        hkept value (List.mem_cons_of_mem _ List.mem_cons_self)]

/-- What is left of a buffer has no NUL in it. -/
theorem nul_not_mem_upToNul (p : List UInt8) : 0 ∉ upToNul p := fun h =>
  bne_iff_ne.mp (List.mem_takeWhile_imp (p := (· != 0)) h) rfl

/-- What `loc_read_conf` takes from a piece is what a cut sets. -/
theorem operands_upToNul (p : List UInt8) : operands (upToNul p) = cutSetting p :=
  operands_eq (nul_not_mem_upToNul p)

/-- What a line sets, by its fields. -/
theorem lineSetting_eq (l : List UInt8) :
    lineSetting l = firstTwo trim (fields EQUALS (chomp l)) := by
  unfold lineSetting
  rcases strtok_fields EQUALS (chomp l) with ⟨hnone, hfields⟩ | ⟨name, rest, hfirst, hfields⟩
  · rw [hnone, hfields]
    rfl
  · rw [hfields]
    rcases strtok_fields EQUALS rest with ⟨hnone, hrest⟩ | ⟨value, rest', hsecond, hrest⟩
    · simp only [hfirst, hnone, hrest, firstTwo]
    · simp only [hfirst, hsecond, hrest, firstTwo]

/-- A string without a mark has one field at most. -/
theorem operands_of_not_mem {s : List UInt8} (hnul : 0 ∉ s) (h : EQUALS ∉ s) :
    operands s = none := by
  rw [operands_eq hnul]
  by_cases hne : s = []
  · rw [hne]
    rfl
  · rw [fields_single hne h]
    rfl

theorem ne_nil_of_not_blank {s : List UInt8} (h : ¬ Blank s) : s ≠ [] := fun hnil =>
  h (hnil ▸ rfl)

/-- Two fields that are not blank are operands. -/
theorem operands_of_fields {name value : List UInt8} (hnul : 0 ∉ name ++ EQUALS :: value)
    (hname : EQUALS ∉ name) (hvalue : EQUALS ∉ value) (hnb : ¬ Blank name) (hvb : ¬ Blank value) :
    operands (name ++ EQUALS :: value) = some (trim name, trim value) := by
  rw [operands_eq hnul, fields_token (ne_nil_of_not_blank hnb) hname,
    fields_single (ne_nil_of_not_blank hvb) hvalue]
  simp only [firstTwo, kept, if_neg hnb, if_neg hvb]

/-- A newline does not make a string blank. -/
theorem not_blank_concat {s : List UInt8} (h : ¬ Blank s) (c : UInt8) : ¬ Blank (s ++ [c]) := by
  unfold Blank at h ⊢
  rw [List.dropWhile_append, if_neg (by rwa [List.isEmpty_iff])]
  exact List.append_ne_nil_of_right_ne_nil _ (List.cons_ne_nil _ _)

/-- A line is its text, with or without a newline. -/
theorem chomp_of_mem {l : List UInt8} (h : l ∈ lines file) :
    l = chomp l ∨ l = chomp l ++ [NL] := by
  rcases line_of_mem h with ⟨hne, hnl⟩
  -- A newline can only be the last byte.
  rcases (List.eq_nil_or_concat' l).resolve_left hne with ⟨body, c, rfl⟩
  rw [List.dropLast_concat] at hnl
  unfold chomp
  rw [List.takeWhile_append_of_pos (bne_of_not_mem hnl)]
  by_cases hc : c = NL
  · refine Or.inr ?_
    rw [hc, List.takeWhile_cons_of_neg (by decide), List.append_nil]
  · refine Or.inl ?_
    rw [List.takeWhile_cons_of_pos (p := fun a => a != NL) (bne_iff_ne.mpr hc), List.takeWhile_nil]

end Fields

section Cuts

theorem cut_drop (i : Nat) (l : List UInt8) :
    cut i (l.drop (LOC_MAX_PARAM_LINE - 1)) = cut (i + 1) l := by
  unfold cut
  rw [List.drop_drop, Nat.mul_succ, Nat.add_comm]

/-- The newline of a line is still its last byte when the first cut is taken off. -/
theorem newline_drop {l : List UInt8} (hnl : NL ∉ l.dropLast) (n : Nat) :
    NL ∉ (l.drop n).dropLast := fun hmem =>
  hnl (by rw [List.dropLast_drop_eq_drop_dropLast] at hmem; exact List.mem_of_mem_drop hmem)

/-- The pieces that `fgets` makes of a line are its cuts. -/
theorem mem_pieces_iff {l p : List UInt8} (hnl : NL ∉ l.dropLast) :
    p ∈ pieces LOC_MAX_PARAM_LINE l ↔ p ≠ [] ∧ ∃ i, p = cut i l := by
  induction hn : l.length using Nat.strong_induction_on generalizing l with
  | _ n ih =>
    by_cases hne : l = []
    · -- There is nothing to read.
      rw [hne]
      refine iff_of_false List.not_mem_nil (fun h => ?_)
      rcases h with ⟨hp, i, rfl⟩
      exact hp (by simp only [cut, List.drop_nil, List.take_nil])
    · have hlt : (l.drop (LOC_MAX_PARAM_LINE - 1)).length < n := by
        have hpos := List.length_pos_iff.mpr hne
        rw [List.length_drop, hn, LOC_MAX_PARAM_LINE]
        omega
      rw [pieces_line (by decide) hne hnl, List.mem_cons, ih _ hlt (newline_drop hnl _) rfl]
      constructor
      · rintro (rfl | ⟨hp, i, rfl⟩)
        · refine ⟨?_, 0, rfl⟩
          rw [ne_eq, List.take_eq_nil_iff, not_or]
          exact ⟨by decide, hne⟩
        · exact ⟨hp, i + 1, cut_drop i l⟩
      · rintro ⟨hp, i, rfl⟩
        cases i with
        | zero => exact Or.inl rfl
        | succ i => exact Or.inr ⟨hp, i, (cut_drop i l).symm⟩

/-- The pieces behind the first one are the cuts behind the first one. -/
theorem mem_tail_pieces_iff {l p : List UInt8} (hne : l ≠ []) (hnl : NL ∉ l.dropLast) :
    p ∈ (pieces LOC_MAX_PARAM_LINE l).tail ↔ p ≠ [] ∧ ∃ i, 0 < i ∧ p = cut i l := by
  rw [pieces_line (by decide) hne hnl, List.tail_cons, mem_pieces_iff (newline_drop hnl _)]
  refine and_congr_right (fun _ => ⟨?_, ?_⟩)
  · rintro ⟨i, hi⟩
    exact ⟨i + 1, Nat.succ_pos i, hi.trans (cut_drop i l)⟩
  · rintro ⟨i, hpos, hi⟩
    refine ⟨i - 1, ?_⟩
    rw [cut_drop, Nat.sub_add_cancel hpos]
    exact hi

end Cuts

section Settings

theorem settings_append (ps qs : List (List UInt8)) :
    settings (ps ++ qs) = settings ps ++ settings qs :=
  List.filterMap_append

/-- Later settings come first. -/
theorem lastValue_append (ss ss' : List (List UInt8 × List UInt8)) (name : List UInt8) :
    lastValue (ss ++ ss') name = (lastValue ss' name).or (lastValue ss name) := by
  unfold lastValue
  rw [List.reverse_append, List.lookup_append]

/-- A name that is not set has no value. -/
theorem lastValue_eq_none {ss : List (List UInt8 × List UInt8)} {name : List UInt8}
    (h : ∀ s ∈ ss, s.1 ≠ name) : lastValue ss name = none := by
  unfold lastValue
  rw [List.lookup_eq_none_iff]
  intro s hs
  rw [bne_iff_ne]
  exact (h s (List.mem_reverse.mp hs)).symm

/-- The settings in what `fgets` has returned are those of the cuts. -/
theorem settings_eq (ps : List (List UInt8)) : settings ps = ps.filterMap cutSetting :=
  List.filterMap_congr (fun p _ => operands_upToNul p)

/-- Lines behind that do not set the name do not matter. -/
theorem lastValue_filterMap {f : List UInt8 → Option (List UInt8 × List UInt8)}
    {after : List (List UInt8)} {name : List UInt8}
    (h : lastValue (after.filterMap f) name = none) (ms : List (List UInt8)) :
    lastValue ((ms ++ after).filterMap f) name = lastValue (ms.filterMap f) name := by
  rw [List.filterMap_append, lastValue_append, h, Option.none_or]

theorem mem_of_lastValue {ss : List (List UInt8 × List UInt8)} {name v : List UInt8}
    (h : lastValue ss name = some v) : (name, v) ∈ ss := by
  unfold lastValue at h
  rcases List.lookup_eq_some_iff.mp h with ⟨xs, ys, hsplit, _⟩
  refine List.mem_reverse.mp ?_
  rw [hsplit]
  exact List.mem_append_right _ List.mem_cons_self

/-- If only first cuts set anything, they decide. -/
theorem lastValue_pieces (hcuts : CutsSetNothing file) {name : List UInt8}
    (hname : NameFits name) :
    lastValue (settings (pieces LOC_MAX_PARAM_LINE file)) name =
      lastValue (headSettings file) name := by
  unfold CutsSetNothing at hcuts
  have hlines : ∀ l ∈ lines file, l ≠ [] ∧ NL ∉ l.dropLast := fun l hl => line_of_mem hl
  rw [pieces_lines (by decide), settings_eq]
  unfold headSettings
  generalize lines file = ls at hcuts hlines
  induction ls with
  | nil => rfl
  | cons l ls ih =>
      -- The pieces of a line are its first cut and those of the rest.
      have hl := hlines l List.mem_cons_self
      have hsplit : pieces LOC_MAX_PARAM_LINE l =
          cut 0 l :: (pieces LOC_MAX_PARAM_LINE l).tail := by
        rw [pieces_line (by decide) hl.1 hl.2]
        rfl
      have hrest := ih (fun l' hl' => hcuts l' (List.mem_cons_of_mem _ hl'))
        (fun l' hl' => hlines l' (List.mem_cons_of_mem _ hl'))
      have htail : lastValue ((pieces LOC_MAX_PARAM_LINE l).tail.filterMap cutSetting) name =
          none := by
        refine lastValue_eq_none (fun s hs hsame => ?_)
        rcases List.mem_filterMap.mp hs with ⟨p, hp, hset⟩
        rcases (mem_tail_pieces_iff hl.1 hl.2).mp hp with ⟨_, i, hi, rfl⟩
        exact hcuts l List.mem_cons_self i hi s hset (hsame ▸ hname)
      rw [List.flatMap_cons, hsplit, List.filterMap_append, lastValue_append, hrest,
        ← List.singleton_append (l := List.tail _), List.filterMap_append, lastValue_append, htail,
        Option.none_or, ← List.singleton_append (l := ls), List.filterMap_append, lastValue_append]
      rfl

end Settings

section Entries

/-- Every entry after the read, if only first pieces set anything. -/
theorem locReadConf_entry (hcuts : CutsSetNothing file) {e : LocParam D} (h : e.Writable) :
    (settings (pieces LOC_MAX_PARAM_LINE file)).foldl
        (fun e s => setConfigEntry (configValue dbl s.1 s.2) e) e.cleared =
      (lastValue (headSettings file) e.paramName).elim e.cleared (e.cleared.stored dbl) := by
  rw [foldl_setConfigEntry h.cleared]
  exact congrArg (fun v => Option.elim v e.cleared (e.cleared.stored dbl))
    (lastValue_pieces hcuts e.name_fits)

/-- An entry that the first pieces leave as the lines do. -/
theorem asLines_of_rel {e : LocParam D}
    (h : Option.Rel (Alike dbl) (lastValue (headSettings file) e.paramName)
      (lastValue (lineSettings file) e.paramName)) :
    AsLines dbl file e
      ((lastValue (headSettings file) e.paramName).elim e.cleared (e.cleared.stored dbl)) := by
  generalize hhead : lastValue (headSettings file) e.paramName = head at h
  generalize hline : lastValue (lineSettings file) e.paramName = line at h
  cases h with
  | none =>
      refine ⟨?_, ?_⟩
      · rw [hline]
        rfl
      · rw [hline]
        rfl
  | some halike =>
      refine ⟨?_, ?_⟩
      · rw [hline]
        exact halike e.paramType
      · rw [hline]
        simp only [Option.elim_some, LocParam.stored, LocParam.cleared, Option.map_map,
          Function.comp_def, Option.isSome_some, if_true]

/-- An entry for a name and a type, with nothing in it. -/
def probe (name : List UInt8) (t : Char) (h : NameFits name) : LocParam D :=
  ⟨name, some (.string []), some 0, t, h⟩

@[simp] theorem probe_paramName {name : List UInt8} (t : Char) (h : NameFits name) :
    (probe name t h : LocParam D).paramName = name := rfl

@[simp] theorem probe_cleared {name : List UInt8} (t : Char) (h : NameFits name) :
    (probe name t h : LocParam D).cleared = probe name t h := rfl

/-- The flag says whether anything was stored. -/
theorem probe_set {name : List UInt8} (t : Char) (h : NameFits name) (v : Option (List UInt8)) :
    (v.elim (probe name t h) ((probe name t h).stored dbl)).paramSet =
      some (if v.isSome then 1 else 0) := by
  cases v with
  | none => rfl
  | some v => rfl

/-- What entries of all types show about the values of a name. -/
theorem rel_of_asLines {name : List UInt8} (hname : NameFits name)
    (h : ∀ t, t = 's' ∨ t = 'n' ∨ t = 'f' → AsLines dbl file (probe name t hname)
      ((lastValue (headSettings file) name).elim (probe name t hname)
        ((probe name t hname).stored dbl))) :
    Option.Rel (Alike dbl) (lastValue (headSettings file) name)
      (lastValue (lineSettings file) name) := by
  -- The flag shows whether there is a value, the three types which.
  have hset := (h 's' (Or.inl rfl)).set
  rw [probe_set, probe_paramName] at hset
  have hflag := Option.some.inj hset
  have hheld := fun t ht => (h t ht).held
  simp only [probe_paramName] at hheld
  generalize lastValue (headSettings file) name = head at hflag hheld
  generalize lastValue (lineSettings file) name = line at hflag hheld
  cases head with
  | none =>
      cases line with
      | none => exact Option.Rel.none
      | some w => exact absurd (show (0 : UInt8) = 1 from hflag) (by decide)
  | some v =>
      cases line with
      | none => exact absurd (show (1 : UInt8) = 0 from hflag) (by decide)
      | some w =>
          refine Option.Rel.some (fun t => ?_)
          by_cases ht : t = 's' ∨ t = 'n' ∨ t = 'f'
          · exact hheld t ht
          · -- Entries of other types store nothing.
            rw [not_or, not_or] at ht
            unfold storedFor
            rw [if_neg ht.1, if_neg ht.2.1, if_neg ht.2.2, if_neg ht.1, if_neg ht.2.1,
              if_neg ht.2.2]

/-- A piece without a setting for any entry changes nothing. -/
theorem readPiece_eq_self {p : List UInt8}
    (h : ∀ s, operands (upToNul p) = some s → ¬ NameFits s.1) (c : Conf D) :
    readPiece dbl c p = c := by
  unfold readPiece
  cases hs : operands (upToNul p) with
  | none => rfl
  | some s =>
      have hsame : ∀ e : LocParam D, setConfigEntry (configValue dbl s.1 s.2) e = e := by
        intro e
        refine if_neg (fun hand => h s hs ?_)
        rw [show s.1 = e.paramName from hand.1.symm]
        exact e.name_fits
      simp only [List.map_congr_left (fun e _ => hsame e), List.map_id']

end Entries

/-- The file is read by lines if and only if only first cuts set anything, and
    what they set last is stored as what the lines set last. -/
theorem readByLines_iff_alike (dbl : Doubles D) (file : List UInt8) :
    ReadByLines dbl file ↔ CutsSetNothing file ∧ ∀ name, NameFits name →
      Option.Rel (Alike dbl) (lastValue (headSettings file) name)
        (lastValue (lineSettings file) name) := by
  constructor
  · intro h
    have hcuts : CutsSetNothing file := by
      intro l hl i hi s hs hfits
      have hp : cut i l ∈ (pieces LOC_MAX_PARAM_LINE l).tail := by
        refine (mem_tail_pieces_iff (line_of_mem hl).1 (line_of_mem hl).2).mpr ⟨?_, i, hi, rfl⟩
        rintro hnil
        rw [hnil] at hs
        cases hs
      -- A flag would be set.
      have hsame := congrArg Conf.table (h.starts l hl _ hp ⟨[probe s.1 's' hfits], []⟩)
      have hwrite : (probe s.1 's' hfits : LocParam D).Writable := ⟨rfl, Or.inl rfl⟩
      unfold readPiece at hsame
      simp only [operands_upToNul, hs, List.map_cons, List.map_nil,
        setConfigEntry_of_writable hwrite, probe_paramName, if_true, List.cons.injEq, and_true]
        at hsame
      have hflag := congrArg LocParam.paramSet hsame
      rw [show ((probe s.1 's' hfits).stored dbl s.2).paramSet = some 1 from rfl,
        show (probe s.1 's' hfits : LocParam D).paramSet = some 0 from rfl] at hflag
      exact absurd hflag (by decide)
    refine ⟨hcuts, fun name hname => rel_of_asLines hname (fun t ht => ?_)⟩
    -- A table of one entry shows what the name was set to.
    have hentry := h.entries ⟨[probe name t hname], []⟩
    have hwrite : (probe name t hname : LocParam D).Writable := ⟨rfl, ht⟩
    rw [locReadConf_table, List.map_cons, List.map_nil, locReadConf_entry hcuts hwrite,
      List.forall₂_cons, probe_cleared, probe_paramName] at hentry
    exact hentry.1 hwrite
  · rintro ⟨hcuts, halike⟩
    refine ⟨fun c => ?_, fun l hl p hp c => ?_⟩
    · rw [locReadConf_table, List.forall₂_map_right_iff, List.forall₂_same]
      intro e _ hwrite
      rw [locReadConf_entry hcuts hwrite]
      exact asLines_of_rel (halike e.paramName e.name_fits)
    · rcases (mem_tail_pieces_iff (line_of_mem hl).1 (line_of_mem hl).2).mp hp with ⟨_, i, hi, rfl⟩
      refine readPiece_eq_self (fun s hs => ?_) c
      rw [operands_upToNul] at hs
      exact hcuts l hl i hi s hs

section Misread

/-- A text that a buffer of 80 bytes holds is stored as another one only if it is
    the same. -/
theorem alike_iff {v w : List UInt8} (hv : v.length < LOC_MAX_PARAM_STRING) :
    Alike dbl v w ↔ SameText dbl v w := by
  have hstored : ∀ s : List UInt8,
      storedFor 's' (configValue dbl [] s) =
        some (.string (if s = cstr "NULL" then [] else s.take LOC_MAX_PARAM_STRING)) ∧
      storedFor 'f' (configValue dbl [] s) =
        some (.float (if isHex s then dbl.zero else dbl.atof s)) := fun _ => ⟨rfl, rfl⟩
  constructor
  · intro h
    have hstring := h 's'
    have hdouble := h 'f'
    rw [(hstored v).1, (hstored w).1, Option.some.injEq, Value.string.injEq] at hstring
    rw [(hstored v).2, (hstored w).2, Option.some.injEq, Value.float.injEq] at hdouble
    have hnull : isHex (cstr "NULL") = false := by decide
    have hempty : isHex ([] : List UInt8) = false := by decide
    have hnil : ∀ s : List UInt8, s.take LOC_MAX_PARAM_STRING = [] → s = [] := fun s hs =>
      (List.take_eq_nil_iff.mp hs).resolve_left (by decide)
    by_cases hvn : v = cstr "NULL"
    · by_cases hwn : w = cstr "NULL"
      · exact Or.inl (hvn.trans hwn.symm)
      · rw [if_pos hvn, if_neg hwn] at hstring
        have hw := hnil w hstring.symm
        rw [hvn, hw, hnull, hempty] at hdouble
        exact Or.inr ⟨Or.inr hvn, Or.inl hw, by rw [hvn, hw]; exact hdouble⟩
    · rw [if_neg hvn] at hstring
      by_cases hwn : w = cstr "NULL"
      · rw [if_pos hwn] at hstring
        have hv := hnil v hstring
        rw [hv, hwn, hnull, hempty] at hdouble
        exact Or.inr ⟨Or.inl hv, Or.inr hwn, by rw [hv, hwn]; exact hdouble⟩
      · -- What was not cut off is all there is.
        rw [if_neg hwn, List.take_of_length_le (Nat.le_of_lt hv)] at hstring
        have hlen := congrArg List.length hstring
        rw [List.length_take] at hlen
        rw [List.take_of_length_le (by omega)] at hstring
        exact Or.inl hstring
  · rintro (rfl | ⟨hv, hw, hatof⟩) t
    · rfl
    · have hplain : ∀ s, s = [] ∨ s = cstr "NULL" → isHex s = false ∧ atoi s = 0 ∧
          (if s = cstr "NULL" then [] else s.take LOC_MAX_PARAM_STRING) = [] := by
        rintro s (rfl | rfl)
        · exact ⟨by decide, by decide, by decide⟩
        · exact ⟨by decide, by decide, by decide⟩
      rcases hplain v hv with ⟨hhexv, hintv, hstrv⟩
      rcases hplain w hw with ⟨hhexw, hintw, hstrw⟩
      simp only [storedFor, configValue, hhexv, hhexw, hintv, hintw, hstrv, hstrw, hatof,
        Bool.false_eq_true, if_false]

/-- What a cut sets is no longer than the cut. -/
theorem cutSetting_length {i : Nat} {l : List UInt8} {s : List UInt8 × List UInt8}
    (h : cutSetting (cut i l) = some s) : s.2.length < LOC_MAX_PARAM_STRING := by
  have hcut : (cut i l).length < LOC_MAX_PARAM_STRING := by
    unfold cut
    exact lt_of_le_of_lt (List.length_take_le _ _) (by decide)
  have hkept : ∀ f, (kept f).length ≤ f.length := by
    intro f
    unfold kept
    by_cases hf : Blank f
    · rw [if_pos hf]
    · rw [if_neg hf]
      exact (List.rdropWhile_prefix isspace _).length_le.trans
        (List.dropWhile_suffix isspace).length_le
  unfold cutSetting at h
  have hmem : ∀ f ∈ fields EQUALS (upToNul (cut i l)), f.length ≤ (cut i l).length := fun f hf =>
    (isInfix_of_mem_fields hf).length_le.trans (List.takeWhile_prefix _).length_le
  generalize fields EQUALS (upToNul (cut i l)) = fs at h hmem
  match fs, h with
  | name :: value :: rest, h =>
      rw [← Option.some.inj h]
      have hvalue := hmem value (List.mem_cons_of_mem _ List.mem_cons_self)
      exact lt_of_le_of_lt ((hkept value).trans hvalue) hcut

/-- A line that is not misread sets in its first cut what it sets as a whole. -/
theorem cutSetting_of_not_misread {l : List UInt8} (hl : l ∈ lines file) (h : ¬ Misread l) :
    cutSetting (cut 0 l) = lineSetting l := by
  unfold Misread at h
  rw [not_or, not_or, Nat.not_le] at h
  rcases h with ⟨hlen, hnul, hblank⟩
  have hcut : cut 0 l = l := by
    unfold cut
    rw [Nat.mul_zero, List.drop_zero, List.take_of_length_le (by omega)]
  have hstring : upToNul l = l := List.takeWhile_eq_self_iff.mpr (bne_of_not_mem hnul)
  -- Fields that are not blank are trimmed.
  have hkept : firstTwo kept (fields EQUALS l) = firstTwo trim (fields EQUALS l) := by
    generalize fields EQUALS l = fs at hblank
    match fs with
    | [] => rfl
    | [_] => rfl
    | name :: value :: rest =>
        have hboth : ¬ (Blank name ∨ Blank value) := fun hb => hblank ⟨name, value, rest, rfl, hb⟩
        rw [not_or] at hboth
        simp only [firstTwo, kept, if_neg hboth.1, if_neg hboth.2]
  rw [hcut, cutSetting, hstring, hkept, lineSetting_eq]
  rcases chomp_of_mem hl with heq | heq
  · rw [← heq]
  · -- The newline belongs to the last field, or is one.
    have hnl : ∀ f, trim (f ++ [NL]) = trim f := trim_concat_blank (by decide)
    rcases fields_concat (show NL ≠ EQUALS by decide) (chomp l) with
      ⟨hnone, hone⟩ | ⟨fs, f, hfs, hlast | hlast⟩
    · rw [← heq] at hone
      rw [hone, hnone]
      rfl
    · rw [← heq] at hlast
      rw [hlast, hfs]
      match fs with
      | [] => rfl
      | [name] => simp only [List.singleton_append, firstTwo, hnl]
      | name :: value :: rest => rfl
    · rw [← heq] at hlast
      rw [hlast, hfs]
      match fs with
      | [] => exact absurd ⟨f, [NL], [], hlast, Or.inr (by decide)⟩ hblank
      | [name] => rfl
      | name :: value :: rest => rfl

/-- Lines that do not name anything with this name set nothing with it. -/
theorem lastValue_of_not_names {ms : List (List UInt8)} {name : List UInt8}
    (h : ∀ m ∈ ms, ¬ Names name m) :
    lastValue (ms.filterMap fun m => cutSetting (cut 0 m)) name = none ∧
      lastValue (ms.filterMap lineSetting) name = none := by
  refine ⟨lastValue_eq_none (fun s hs hsame => ?_), lastValue_eq_none (fun s hs hsame => ?_)⟩
  · rcases List.mem_filterMap.mp hs with ⟨m, hm, hset⟩
    exact h m hm (Or.inl ⟨s.2, by rw [hset, ← hsame]⟩)
  · rcases List.mem_filterMap.mp hs with ⟨m, hm, hset⟩
    exact h m hm (Or.inr ⟨s.2, by rw [hset, ← hsame]⟩)

/-- It is enough to look at the last line with each name. -/
theorem misreadAlike_iff :
    MisreadAlike dbl file ↔ ∀ name, NameFits name →
      Option.Rel (SameText dbl) (lastValue (headSettings file) name)
        (lastValue (lineSettings file) name) := by
  unfold MisreadAlike headSettings lineSettings
  constructor
  · intro h name hname
    -- From the end of the file, over lines that do not have the name.
    have hinit : ∀ ms after : List (List UInt8), lines file = ms ++ after →
        (∀ m ∈ after, ¬ Names name m) →
        Option.Rel (SameText dbl) (lastValue (ms.filterMap fun m => cutSetting (cut 0 m)) name)
          (lastValue (ms.filterMap lineSetting) name) := by
      intro ms
      induction ms using List.reverseRecOn with
      | nil => exact fun _ _ _ => Option.Rel.none
      | append_singleton ms l ih =>
          intro after hlines hafter
          rw [List.append_assoc, List.singleton_append] at hlines
          by_cases hnames : Names name l
          · by_cases hmis : Misread l
            · exact h name hname ms l after hlines hmis hnames hafter
            · -- Both say the same.
              have hmem : l ∈ lines file := by
                rw [hlines]
                exact List.mem_append_right _ List.mem_cons_self
              have hsame := cutSetting_of_not_misread hmem hmis
              have hset : ∃ v, lineSetting l = some (name, v) := by
                rcases hnames with ⟨v, hv⟩ | hv
                · exact ⟨v, hsame.symm.trans hv⟩
                · exact hv
              rcases hset with ⟨v, hv⟩
              simp only [List.filterMap_append, List.filterMap_cons, List.filterMap_nil, hsame, hv,
                lastValue_concat, if_true]
              exact Option.Rel.some (Or.inl rfl)
          · have hnone := @lastValue_of_not_names [l] name
              (fun m hm => by rw [List.mem_singleton.mp hm]; exact hnames)
            rw [lastValue_filterMap hnone.1, lastValue_filterMap hnone.2]
            refine ih (l :: after) hlines (fun m hm => ?_)
            rcases List.mem_cons.mp hm with rfl | hm
            · exact hnames
            · exact hafter m hm
    exact hinit (lines file) [] (List.append_nil _).symm (fun _ hm => absurd hm List.not_mem_nil)
  · intro h name hname before l after hlines _ _ hafter
    have hall := h name hname
    have hnone := lastValue_of_not_names hafter
    rw [hlines, ← List.singleton_append, ← List.append_assoc, lastValue_filterMap hnone.1,
      lastValue_filterMap hnone.2] at hall
    exact hall

/-- The file is read by lines if and only if nothing behind the first cut of a
    line sets anything, and a misread line that is the last one with its name sets
    the same text when it is cut. -/
theorem readByLines_iff (dbl : Doubles D) (file : List UInt8) :
    ReadByLines dbl file ↔ CutsSetNothing file ∧ MisreadAlike dbl file := by
  rw [readByLines_iff_alike, misreadAlike_iff]
  refine and_congr_right (fun _ => forall₂_congr (fun name _ => ?_))
  have hshort : ∀ v, lastValue (headSettings file) name = some v →
      v.length < LOC_MAX_PARAM_STRING := by
    intro v hv
    rcases List.mem_filterMap.mp (mem_of_lastValue hv) with ⟨l, _, hset⟩
    exact cutSetting_length hset
  generalize lastValue (headSettings file) name = head at hshort
  generalize lastValue (lineSettings file) name = line
  constructor
  · intro h
    cases h with
    | none => exact Option.Rel.none
    | some hv => exact Option.Rel.some ((alike_iff (hshort _ rfl)).mp hv)
  · intro h
    cases h with
    | none => exact Option.Rel.none
    | some hv => exact Option.Rel.some ((alike_iff (hshort _ rfl)).mpr hv)

/-- A comment of 79 bytes, and a setting at its end. -/
def comment : List UInt8 := List.replicate 79 0x23 ++ cstr "SUPL_VER=0x10000\n"

/-- The end of the comment sets the parameter. -/
theorem not_readByLines_comment : ¬ ReadByLines (⟨fun _ => (), ()⟩ : Doubles Unit) comment := by
  intro h
  have hfits : NameFits (cstr "SUPL_VER") := by decide
  -- The second piece sets the name; no line does.
  have hread : (lastValue (settings (pieces LOC_MAX_PARAM_LINE comment))
      (cstr "SUPL_VER")).isSome = true := by decide +kernel
  have hline : (lastValue (lineSettings comment) (cstr "SUPL_VER")).isSome = false := by
    decide +kernel
  have hwrite : (probe (cstr "SUPL_VER") 'n' hfits : LocParam Unit).Writable :=
    ⟨rfl, Or.inr (Or.inl rfl)⟩
  have hentry := h.entries ⟨[probe (cstr "SUPL_VER") 'n' hfits], []⟩
  rw [locReadConf_table, List.map_cons, List.map_nil, probe_cleared, foldl_setConfigEntry hwrite,
    List.forall₂_cons] at hentry
  have hset := (hentry.1 hwrite).set
  rw [probe_paramName, probe_set, hread, hline] at hset
  exact absurd (show some (1 : UInt8) = some 0 from hset) (by decide)

/-- A file without misread lines is read by lines. -/
theorem readByLines_of_not_misread (dbl : Doubles D) (h : ∀ l ∈ lines file, ¬ Misread l) :
    ReadByLines dbl file := by
  rw [readByLines_iff]
  refine ⟨fun l hl i hi s hs => ?_, fun name _ before l after hlines hmis => ?_⟩
  · -- There is nothing behind the first cut.
    have hlen : l.length < LOC_MAX_PARAM_LINE := by
      by_contra hlong
      exact h l hl (Or.inl (Nat.not_lt.mp hlong))
    have hnil : cut i l = [] := by
      unfold cut
      rw [List.drop_of_length_le, List.take_nil]
      exact (Nat.le_sub_one_of_lt hlen).trans (Nat.le_mul_of_pos_right _ hi)
    rw [hnil] at hs
    cases hs
  · exact absurd hmis (h l (by rw [hlines]; exact List.mem_append_right _ List.mem_cons_self))

end Misread

end LocCfg

end Taoshan
