import Taoshan.Lib.Text

/-!
# Configuration Files

`loc_read_conf` and what it calls: `trim_space`, which works in place, and
`loc_set_config_entry`, which stores a value in one entry of a table.

The file is read with a buffer of 80 bytes, and whatever `fgets` returns is
taken for a setting if it has two operands. An entry of a table owns what its
`param_ptr` and `param_set` point to. `double` is left open, with `atof`.

## Main definitions

* `trimSpace`: The loop over the buffer.
* `LocParam`, `Value`, `ConfigValue`: An entry of a table, what it holds, and a
  setting that was read.
* `setConfigEntry`: A setting applied to an entry.
* `readPiece`, `locReadConf`: One turn of the loop, and the whole.

## Theorems

* `trimSpace_spec`: What `trim_space` leaves of a string.
* `locReadConf_table`: Every entry, after a file was read.
* `foldl_setConfigEntry`: An entry after several settings: the last one for its
  name counts.
-/

namespace Taoshan

namespace LocCfg

open Text

def LOC_MAX_PARAM_NAME : Nat := 48
def LOC_MAX_PARAM_STRING : Nat := 80
def LOC_MAX_PARAM_LINE : Nat := 80

/-- The mark between the operands. -/
def EQUALS : UInt8 := 0x3D

section TrimSpace

/-- The variables of `trim_space`: the buffer, the offsets of `scan_ptr` and
    `write_ptr`, whether `first_nonspace` is set, and `last_nonspace`. -/
structure Trim where
  buf : List UInt8
  scan : Nat
  write : Nat
  first : Bool
  last : Option Nat

/-- One turn of the loop, at the character `c`. -/
def trimStep (t : Trim) (c : UInt8) : Trim :=
  -- Behind the first character of the string, blanks are copied as well.
  if t.first || !isspace c then {
    buf := t.buf.set t.write c
    scan := t.scan + 1
    write := t.write + 1
    first := true
    last := if isspace c then t.last else some (t.write + 1) }
  else { t with scan := t.scan + 1 }

/-- The loop, for so many characters at most. -/
def trimLoop : Nat → Trim → Trim
  | 0, t => t
  | n + 1, t => match t.buf[t.scan]? with
    | none => t
    | some c => if c = 0 then t else trimLoop n (trimStep t c)

/-- `trim_space` on the buffer that `org_string` points to. -/
def trimSpace (buf : List UInt8) : List UInt8 :=
  let t := trimLoop buf.length ⟨buf, 0, 0, false, none⟩
  match t.last with
  -- Nothing but blanks: they stay.
  | none => t.buf
  | some n => t.buf.set n 0

end TrimSpace

/-- `atof`, and the `double` that `memset` leaves. -/
structure Doubles (D : Type*) where
  atof : List UInt8 → D
  zero : D

/-- What a `param_ptr` points to. -/
inductive Value (D : Type*)
  | string (s : List UInt8)
  | number (i : BitVec 32)
  | float (d : D)

/-- The name fits `param_name`, with the NUL behind it. -/
def NameFits (name : List UInt8) : Prop := name.length < LOC_MAX_PARAM_NAME ∧ 0 ∉ name

instance (name : List UInt8) : Decidable (NameFits name) :=
  inferInstanceAs (Decidable (_ ∧ _))

/-- `loc_param_s_type`, with what its pointers point to; `none` stands for
    `NULL`. -/
structure LocParam (D : Type*) where
  paramName : List UInt8
  held : Option (Value D)
  paramSet : Option UInt8
  paramType : Char
  name_fits : NameFits paramName

/-- `loc_param_v_type`. -/
structure ConfigValue (D : Type*) where
  paramName : List UInt8
  paramStrValue : List UInt8
  paramIntValue : BitVec 32
  paramDoubleValue : D

/-- A table given by the caller, and the `loc_parameter_table` of this file. -/
structure Conf (D : Type*) where
  table : List (LocParam D)
  own : List (LocParam D)

variable {D : Type*}

/-- What an entry of a type stores for a value; other types than these three
    store nothing. -/
def storedFor (paramType : Char) (v : ConfigValue D) : Option (Value D) :=
  if paramType = 's' then
    some (.string (if v.paramStrValue = cstr "NULL" then []
      else v.paramStrValue.take LOC_MAX_PARAM_STRING))
  else if paramType = 'n' then some (.number v.paramIntValue)
  else if paramType = 'f' then some (.float v.paramDoubleValue)
  else none

/-- `loc_set_config_entry`. -/
def setConfigEntry (v : ConfigValue D) (e : LocParam D) : LocParam D :=
  if e.paramName = v.paramName ∧ e.held.isSome then
    match storedFor e.paramType v with
    | none => e
    -- A `param_set` of NULL is left alone.
    | some x => { e with held := some x, paramSet := e.paramSet.map fun _ => 1 }
  else e

/-- The value is written `0x...`. -/
def isHex (value : List UInt8) : Bool :=
  value[0]? == some 0x30 && (value[1]?).map tolower == some 0x78

/-- The numbers a value stands for. -/
def configValue (dbl : Doubles D) (name value : List UInt8) : ConfigValue D where
  paramName := name
  paramStrValue := value
  paramIntValue := if isHex value then BitVec.ofInt 32 (strtol 16 (value.drop 2)) else atoi value
  paramDoubleValue := if isHex value then dbl.zero else dbl.atof value

/-- A token, trimmed where it lies in the buffer. -/
def trimmed (token : List UInt8) : List UInt8 := upToNul (trimSpace (token ++ [0]))

/-- The two operands of a string, or `none` if it does not have them. -/
def operands (s : List UInt8) : Option (List UInt8 × List UInt8) :=
  -- Several marks in a row count as one, and so do those in front.
  match strtok EQUALS s with
  | none => none
  | some (name, lasts) => match strtok EQUALS lasts with
    | none => none
    | some (value, _) => some (trimmed name, trimmed value)

/-- One turn of the loop, for what `fgets` has returned. -/
def readPiece (dbl : Doubles D) (c : Conf D) (piece : List UInt8) : Conf D :=
  match operands (upToNul piece) with
  | none => c
  | some (name, value) => {
      table := c.table.map (setConfigEntry (configValue dbl name value))
      own := c.own.map (setConfigEntry (configValue dbl name value)) }

/-- The loop over the file, for so many turns at most. -/
def readLoop (dbl : Doubles D) : Nat → Conf D → List UInt8 → Conf D
  | 0, c, _ => c
  | n + 1, c, file => match fgets LOC_MAX_PARAM_LINE file with
    | none => c
    | some (piece, rest) => readLoop dbl n (readPiece dbl c piece) rest

/-- `"DEBUG_LEVEL"` and `"TIMESTAMP"`, with their defaults. -/
def defaultParameters : List (LocParam D) :=
  [⟨cstr "DEBUG_LEVEL", some (.number 3), none, 'n', by decide⟩,
    ⟨cstr "TIMESTAMP", some (.number 0), none, 'n', by decide⟩]

/-- The entry with its flag cleared. -/
def LocParam.cleared (e : LocParam D) : LocParam D :=
  { e with paramSet := e.paramSet.map fun _ => 0 }

/-- `loc_read_conf`; `none` is a file that cannot be opened. -/
def locReadConf (dbl : Doubles D) (c : Conf D) : Option (List UInt8) → Conf D
  | none => { c with own := defaultParameters }
  -- The flags are cleared only once the file is open.
  | some file =>
      readLoop dbl file.length
        { table := c.table.map LocParam.cleared, own := defaultParameters } file

section TrimSpaceSpec

variable {s rest : List UInt8}

/-- The loop in front of `r`, with `u` behind it: what was written is `u` without
    the blanks in front, and the rest of the buffer is as it was. -/
structure TrimAt (rest u r : List UInt8) (t : Trim) : Prop where
  scan : t.scan = u.length
  write : t.write = (u.dropWhile isspace).length
  first : t.first = true ↔ u.dropWhile isspace ≠ []
  last : t.last = if u.dropWhile isspace = [] then none
    else some ((u.dropWhile isspace).rdropWhile isspace).length
  buf : ∃ gap, t.buf = u.dropWhile isspace ++ (gap ++ (r ++ 0 :: rest)) ∧
    (u.dropWhile isspace).length + gap.length = u.length ∧
    (u.dropWhile isspace = [] → gap = u)

/-- A blank in front of the string is skipped. -/
theorem dropWhile_concat_skip {u : List UInt8} {c : UInt8} (hu : u.dropWhile isspace = [])
    (hc : isspace c = true) : (u ++ [c]).dropWhile isspace = [] := by
  rw [List.dropWhile_append, hu, if_pos List.isEmpty_nil, List.dropWhile_cons_of_pos hc,
    List.dropWhile_nil]

/-- Any other character is kept. -/
theorem dropWhile_concat_keep {u : List UInt8} {c : UInt8}
    (h : u.dropWhile isspace ≠ [] ∨ isspace c = false) :
    (u ++ [c]).dropWhile isspace = u.dropWhile isspace ++ [c] := by
  rw [List.dropWhile_append]
  by_cases hu : u.dropWhile isspace = []
  · have hc : isspace c = false := h.resolve_left (not_not_intro hu)
    rw [hu, if_pos List.isEmpty_nil, List.nil_append,
      List.dropWhile_cons_of_neg (by rw [hc]; exact Bool.false_ne_true)]
  · rw [if_neg (by rwa [List.isEmpty_iff])]

/-- One turn of the loop. -/
theorem trimAt_step {u r : List UInt8} {c : UInt8} {t : Trim} (h : TrimAt rest u (c :: r) t) :
    TrimAt rest (u ++ [c]) r (trimStep t c) := by
  rcases h.buf with ⟨gap, hbuf, hlen, hgap⟩
  by_cases hskip : u.dropWhile isspace = [] ∧ isspace c = true
  · -- Still in front of the string.
    have hnext := dropWhile_concat_skip hskip.1 hskip.2
    have hfirst : t.first = false := by
      rw [← Bool.not_eq_true, h.first, not_not]
      exact hskip.1
    have hstep : trimStep t c = { t with scan := t.scan + 1 } := by
      simp only [trimStep, hfirst, hskip.2, Bool.not_true, Bool.or_self, Bool.false_eq_true,
        if_false]
    have hlast := h.last
    rw [if_pos hskip.1] at hlast
    have hwrite := h.write
    rw [hskip.1] at hwrite
    rw [hskip.1, List.nil_append, hgap hskip.1] at hbuf
    rw [hstep]
    refine ⟨?_, ?_, ?_, ?_, u ++ [c], ?_, ?_, fun _ => rfl⟩
    · rw [List.length_append, List.length_singleton, h.scan]
    · rw [hnext]
      exact hwrite
    · simp only [hnext, hfirst, Bool.false_eq_true, ne_eq, not_true_eq_false]
    · rw [hnext, if_pos rfl]
      exact hlast
    · rw [hnext, List.nil_append, hbuf, List.append_assoc, List.singleton_append,
        List.cons_append]
    · rw [hnext, List.length_nil, Nat.zero_add]
  · -- In the string: the character goes to where it is written to.
    have hkeep : u.dropWhile isspace ≠ [] ∨ isspace c = false := by
      by_cases hu : u.dropWhile isspace = []
      · refine Or.inr ?_
        rw [← Bool.not_eq_true]
        exact fun hc => hskip ⟨hu, hc⟩
      · exact Or.inl hu
    have hnext := dropWhile_concat_keep hkeep
    have hguard : (t.first || !isspace c) = true := by
      rcases hkeep with hu | hc
      · rw [h.first.mpr hu, Bool.true_or]
      · rw [hc, Bool.not_false, Bool.or_true]
    have hne : u.dropWhile isspace ++ [c] ≠ [] :=
      List.append_ne_nil_of_right_ne_nil _ (List.cons_ne_nil _ _)
    unfold trimStep
    rw [if_pos hguard]
    -- The gap moves one on, and closes if there is none.
    rcases hgapc : gap ++ [c] with _ | ⟨g, gap'⟩
    · exact absurd hgapc (List.append_ne_nil_of_right_ne_nil _ (List.cons_ne_nil _ _))
    · have hgaplen := congrArg List.length hgapc
      rw [List.length_append, List.length_singleton, List.length_cons] at hgaplen
      refine ⟨?_, ?_, ?_, ?_, gap', ?_, ?_, fun hnil => ?_⟩
      · rw [List.length_append, List.length_singleton, h.scan]
      · rw [hnext, List.length_append, List.length_singleton, h.write]
      · rw [hnext]
        exact iff_of_true rfl hne
      · rw [hnext, if_neg hne, List.rdropWhile_concat]
        by_cases hc : isspace c = true
        · rw [if_pos hc, if_pos hc, h.last,
            if_neg (hkeep.resolve_right (by rw [hc]; exact Bool.noConfusion))]
        · rw [if_neg hc, if_neg hc, List.length_append, List.length_singleton, h.write]
      · have hold : t.buf = u.dropWhile isspace ++ (g :: (gap' ++ (r ++ 0 :: rest))) := by
          rw [hbuf, ← List.cons_append, ← hgapc, List.append_assoc, List.singleton_append,
            List.cons_append]
        rw [hnext, hold, h.write, List.set_append_right _ _ (Nat.le_refl _), Nat.sub_self,
          List.set_cons_zero, List.append_assoc, List.singleton_append]
      · rw [hnext, List.length_append, List.length_append, List.length_singleton]
        omega
      · rw [hnext] at hnil
        exact absurd hnil hne

/-- In front of the string nothing has been done. -/
theorem trimAt_start (s rest : List UInt8) :
    TrimAt rest [] s ⟨s ++ 0 :: rest, 0, 0, false, none⟩ :=
  ⟨rfl, rfl, iff_of_false Bool.false_ne_true (not_not_intro rfl), rfl, [], rfl, rfl, fun _ => rfl⟩

/-- The loop reads the string from its front. -/
theorem TrimAt.read {u r : List UInt8} {c : UInt8} {t : Trim} (h : TrimAt rest u (c :: r) t) :
    t.buf[t.scan]? = some c := by
  rcases h.buf with ⟨gap, hbuf, hlen, _⟩
  rw [hbuf, h.scan, ← List.append_assoc, ← hlen, ← List.length_append,
    List.getElem?_append_right (Nat.le_refl _), Nat.sub_self]
  rfl

/-- At the end of the string it reads the NUL. -/
theorem TrimAt.read_nul {u : List UInt8} {t : Trim} (h : TrimAt rest u [] t) :
    t.buf[t.scan]? = some 0 := by
  rcases h.buf with ⟨gap, hbuf, hlen, _⟩
  rw [hbuf, h.scan, ← List.append_assoc, ← hlen, ← List.length_append,
    List.getElem?_append_right (Nat.le_refl _), Nat.sub_self]
  rfl

/-- The loop runs up to the NUL. -/
theorem trimLoop_end {u r : List UInt8} {t : Trim} {n : Nat} (hnul : 0 ∉ r)
    (h : TrimAt rest u r t) (hn : r.length < n) : TrimAt rest (u ++ r) [] (trimLoop n t) := by
  -- On what is left to scan; `TrimAt` carries what has been written.
  induction r generalizing u t n with
  | nil =>
      rw [List.append_nil]
      cases n with
      | zero => exact h
      | succ n =>
          unfold trimLoop
          simp only [h.read_nul, if_true]
          exact h
  | cons c r ih =>
      rw [List.mem_cons, not_or] at hnul
      cases n with
      | zero => exact absurd hn (Nat.not_lt_zero _)
      | succ n =>
          have hnext := ih hnul.2 (trimAt_step h) (Nat.lt_of_succ_lt_succ hn)
          rw [List.append_assoc, List.singleton_append] at hnext
          unfold trimLoop
          simp only [h.read, if_neg (Ne.symm hnul.1)]
          exact hnext

/-- A string that is all blanks is left alone; any other is trimmed. -/
theorem trimSpace_spec (hnul : 0 ∉ s) :
    upToNul (trimSpace (s ++ 0 :: rest)) = if s.dropWhile isspace = [] then s else trim s := by
  -- As many turns as the buffer has bytes are enough to reach the NUL.
  have hend := trimLoop_end hnul (trimAt_start s rest) (n := (s ++ 0 :: rest).length) (by
    rw [List.length_append, List.length_cons]
    omega)
  rw [List.nil_append] at hend
  have hstops : ∀ xs ys : List UInt8, 0 ∉ xs → upToNul (xs ++ 0 :: ys) = xs := by
    intro xs ys hxs
    unfold upToNul
    rw [List.takeWhile_append_of_pos (bne_of_not_mem hxs), List.takeWhile_cons_of_neg (by decide),
      List.append_nil]
  have hlast := hend.last
  rcases hend.buf with ⟨gap, hbuf, hlen, hgap⟩
  unfold trimSpace
  by_cases hblank : s.dropWhile isspace = []
  · rw [if_pos hblank] at hlast ⊢
    simp only [hlast]
    rw [hbuf, hblank, hgap hblank, List.nil_append]
    exact hstops _ _ hnul
  · rw [if_neg hblank] at hlast ⊢
    simp only [hlast]
    -- What was written is the trimmed string, and blanks behind it.
    rcases List.rdropWhile_prefix isspace (s.dropWhile isspace) with ⟨tail, htail⟩
    have hkept : 0 ∉ (s.dropWhile isspace).rdropWhile isspace := fun hmem =>
      hnul ((List.dropWhile_suffix _).subset
        ((List.rdropWhile_prefix isspace _).subset hmem))
    have hsplit : s.dropWhile isspace ++ (gap ++ ([] ++ 0 :: rest)) =
        (s.dropWhile isspace).rdropWhile isspace ++ (tail ++ (gap ++ 0 :: rest)) := by
      rw [← List.append_assoc ((s.dropWhile isspace).rdropWhile isspace), htail, List.nil_append]
    rw [hbuf, hsplit, List.set_append_right _ _ (Nat.le_refl _), Nat.sub_self]
    cases tail with
    | nil =>
        cases gap with
        | nil => exact hstops _ _ hkept
        | cons g gap => exact hstops _ _ hkept
    | cons g tail => exact hstops _ _ hkept

/-- A token, trimmed. -/
theorem trimmed_eq (hnul : 0 ∉ s) :
    trimmed s = if s.dropWhile isspace = [] then s else trim s :=
  trimSpace_spec hnul

end TrimSpaceSpec

section Entries

variable {dbl : Doubles D}

/-- The entry is a number or a string and points to where it is held. -/
def LocParam.Writable (e : LocParam D) : Prop :=
  e.held.isSome ∧ (e.paramType = 's' ∨ e.paramType = 'n' ∨ e.paramType = 'f')

/-- The entry with a value stored in it. -/
def LocParam.stored (dbl : Doubles D) (e : LocParam D) (value : List UInt8) : LocParam D :=
  { e with
    held := storedFor e.paramType (configValue dbl e.paramName value)
    paramSet := e.paramSet.map fun _ => 1 }

/-- The value of the last setting of a name. -/
def lastValue (settings : List (List UInt8 × List UInt8)) (name : List UInt8) :
    Option (List UInt8) := settings.reverse.lookup name

/-- The settings in what `fgets` has returned. -/
def settings (pieces : List (List UInt8)) : List (List UInt8 × List UInt8) :=
  pieces.filterMap fun piece => operands (upToNul piece)

/-- Each of the three types stores something. -/
theorem storedFor_isSome {t : Char} (h : t = 's' ∨ t = 'n' ∨ t = 'f') (v : ConfigValue D) :
    (storedFor t v).isSome := by
  rcases h with rfl | rfl | rfl
  · rfl
  · rfl
  · rfl

@[simp] theorem LocParam.stored_paramName (e : LocParam D) (value : List UInt8) :
    (e.stored dbl value).paramName = e.paramName := rfl

theorem LocParam.Writable.stored {e : LocParam D} (h : e.Writable) (value : List UInt8) :
    (e.stored dbl value).Writable :=
  ⟨storedFor_isSome h.2 _, h.2⟩

theorem LocParam.Writable.cleared {e : LocParam D} (h : e.Writable) : e.cleared.Writable := h

/-- What was stored before does not matter. -/
theorem LocParam.stored_stored (e : LocParam D) (value value' : List UInt8) :
    (e.stored dbl value).stored dbl value' = e.stored dbl value' := by
  unfold LocParam.stored
  simp only [Option.map_map, Function.comp_def]

/-- A setting is stored if it has the name of the entry. -/
theorem setConfigEntry_of_writable {e : LocParam D} (h : e.Writable) (name value : List UInt8) :
    setConfigEntry (configValue dbl name value) e =
      if e.paramName = name then e.stored dbl value else e := by
  unfold setConfigEntry
  by_cases hname : e.paramName = name
  · rcases Option.isSome_iff_exists.mp (storedFor_isSome h.2 (configValue dbl name value)) with
      ⟨x, hx⟩
    rw [if_pos ⟨hname, h.1⟩, if_pos hname]
    simp only [hx]
    unfold LocParam.stored
    subst hname
    rw [hx]
  · rw [if_neg (fun hand => hname hand.1), if_neg hname]

theorem lastValue_concat (ss : List (List UInt8 × List UInt8)) (s : List UInt8 × List UInt8)
    (name : List UInt8) :
    lastValue (ss ++ [s]) name = if name = s.1 then some s.2 else lastValue ss name := by
  unfold lastValue
  rw [List.reverse_concat, List.lookup_cons]
  by_cases h : name = s.1
  · rw [if_pos h, beq_iff_eq.mpr h]
  · rw [if_neg h, beq_eq_false_iff_ne.mpr h]

/-- Of several settings, the last one with the name of the entry counts. -/
theorem foldl_setConfigEntry {e : LocParam D} (h : e.Writable)
    (ss : List (List UInt8 × List UInt8)) :
    ss.foldl (fun e s => setConfigEntry (configValue dbl s.1 s.2) e) e =
      (lastValue ss e.paramName).elim e (e.stored dbl) := by
  -- From the end: the last setting is the one that was made last.
  induction ss using List.reverseRecOn with
  | nil => rfl
  | append_singleton ss s ih =>
      rw [List.foldl_append, ih, List.foldl_cons, List.foldl_nil, lastValue_concat]
      cases lastValue ss e.paramName with
      | none =>
          rw [Option.elim_none, setConfigEntry_of_writable h]
          by_cases hname : e.paramName = s.1
          · rw [if_pos hname, if_pos hname, Option.elim_some]
          · rw [if_neg hname, if_neg hname, Option.elim_none]
      | some value =>
          rw [Option.elim_some, setConfigEntry_of_writable (h.stored value),
            LocParam.stored_paramName]
          by_cases hname : e.paramName = s.1
          · rw [if_pos hname, if_pos hname, Option.elim_some, LocParam.stored_stored]
          · rw [if_neg hname, if_neg hname, Option.elim_some]

end Entries

section Loop

variable {dbl : Doubles D}

/-- The loop is over what `fgets` returns. -/
theorem readLoop_eq (n : Nat) (c : Conf D) (file : List UInt8) :
    readLoop dbl n c file = (reads LOC_MAX_PARAM_LINE n file).foldl (readPiece dbl) c := by
  induction n generalizing c file with
  | zero => rfl
  | succ n ih =>
      unfold readLoop reads
      cases fgets LOC_MAX_PARAM_LINE file with
      | none => rfl
      | some r => exact ih _ _

/-- Every entry sees all settings. -/
theorem foldl_readPiece_table (ps : List (List UInt8)) (c : Conf D) :
    (ps.foldl (readPiece dbl) c).table = c.table.map fun e =>
      (settings ps).foldl (fun e s => setConfigEntry (configValue dbl s.1 s.2) e) e := by
  induction ps generalizing c with
  | nil => exact (List.map_id c.table).symm
  | cons p ps ih =>
      rw [List.foldl_cons, ih]
      unfold readPiece settings
      rw [List.filterMap_cons]
      cases operands (upToNul p) with
      | none => rfl
      | some s => exact List.map_map

/-- Every entry of the table, after a file was read. -/
theorem locReadConf_table (c : Conf D) (file : List UInt8) :
    (locReadConf dbl c (some file)).table = c.table.map fun e =>
      (settings (pieces LOC_MAX_PARAM_LINE file)).foldl
        (fun e s => setConfigEntry (configValue dbl s.1 s.2) e) e.cleared := by
  unfold locReadConf
  simp only
  rw [readLoop_eq, foldl_readPiece_table, List.map_map]
  rfl

end Loop

end LocCfg

end Taoshan
