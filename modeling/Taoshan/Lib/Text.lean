import Mathlib.Data.List.DropRight
import Mathlib.Tactic.Common

/-!
# Text in C

Strings and text files as the C library has them. A file is its bytes, a string
is the bytes in front of a NUL, and a line is what ends with a newline, or what
is left behind the last one.

`fgets` returns a line in pieces if it does not fit its buffer. `pieces` is what
calling it over and over returns: the pieces of the first line, then those of
the second (`pieces_lines`). A line on its own is cut after every
`size - 1` bytes (`pieces_line`).

## Main definitions

* `cstr`, `isspace`, `tolower`, `trim`: Literals, characters, and a string without
  the blanks around it.
* `upToNul`: The string in a buffer.
* `lines`, `fgets`, `pieces`: Lines, and reading them with a bounded buffer.
* `strtok`: The next token, and where to go on.
* `fields`: What is between delimiters.
* `strtol`, `atoi`: Numbers, for a `long` of 32 bits that saturates.

## Theorems

* `takeWhile_upto`, `takeWhile_none`: A word up to a mark.
* `delim_induction`, `lines_induction`: A text is what is in front of a delimiter
  and the rest; a file is empty, or a last line, or a line and the rest.
* `lines_append`: The lines up to a newline and those behind it.
* `line_of_mem`: Where the newline of a line is.
* `pieces_line`, `pieces_lines`: What is read, from a line and from a file.
* `strtok_token`, `strtok_fields`: The token in front of a delimiter, and `strtok_r`
  over the fields of a text.
* `fields_concat`: The fields of a text with one byte more.
* `trim_concat_blank`: A blank at the end does not matter.
-/

namespace Taoshan

namespace Text

/-- The newline. -/
def NL : UInt8 := 0x0A

/-- A string literal. -/
def cstr (s : String) : List UInt8 := s.toList.map fun c => UInt8.ofNat c.toNat

/-- `isspace` in the C locale. -/
def isspace (c : UInt8) : Bool := c == 0x20 || (0x09 ≤ c && c ≤ 0x0D)

/-- `tolower` in the C locale. -/
def tolower (c : UInt8) : UInt8 := if 0x41 ≤ c ∧ c ≤ 0x5A then c + 0x20 else c

/-- The string without the blanks around it. -/
def trim (s : List UInt8) : List UInt8 := (s.dropWhile isspace).rdropWhile isspace

/-- The string in a buffer. -/
def upToNul (buf : List UInt8) : List UInt8 := buf.takeWhile (· != 0)

/-- The lines of a file, each with its newline; the last may have none. -/
def lines : List UInt8 → List (List UInt8)
  | [] => []
  | c :: cs =>
      if c = NL then [c] :: lines cs
      else match lines cs with
        | [] => [[c]]
        | l :: ls => (c :: l) :: ls

/-- At most `n` bytes of a line. -/
def takeLine : Nat → List UInt8 → List UInt8
  | 0, _ => []
  | _, [] => []
  | n + 1, c :: cs => if c = NL then [c] else c :: takeLine n cs

/-- `fgets` with a buffer of so many bytes: what it puts in front of the NUL, and
    what is left of the file. -/
def fgets (size : Nat) (file : List UInt8) : Option (List UInt8 × List UInt8) :=
  if file = [] then none
  else some (takeLine (size - 1) file, file.drop (takeLine (size - 1) file).length)

/-- What the first `n` calls of `fgets` return. -/
def reads (size : Nat) : Nat → List UInt8 → List (List UInt8)
  | 0, _ => []
  | n + 1, file => match fgets size file with
    | none => []
    | some (piece, rest) => piece :: reads size n rest

/-- What the calls of `fgets` return up to the end of the file. -/
def pieces (size : Nat) (file : List UInt8) : List (List UInt8) := reads size file.length file

/-- `strtok_r` with one delimiter: the next token, and where the next call goes
    on. -/
def strtok (delim : UInt8) (s : List UInt8) : Option (List UInt8 × List UInt8) :=
  match s.dropWhile (· == delim) with
  | [] => none
  | c :: cs => some ((c :: cs).takeWhile (· != delim), ((c :: cs).dropWhile (· != delim)).drop 1)

/-- The fields of a text: the runs of bytes other than the delimiter. -/
def fields (delim : UInt8) (s : List UInt8) : List (List UInt8) :=
  (s.splitOn delim).filter (· ≠ [])

/-- The value of a digit. -/
def digitOf (base : Nat) (c : UInt8) : Option Nat :=
  let d := c.toNat
  let v := if 0x30 ≤ d ∧ d ≤ 0x39 then some (d - 0x30)
    else if 0x41 ≤ d ∧ d ≤ 0x5A then some (d - 0x41 + 10)
    else if 0x61 ≤ d ∧ d ≤ 0x7A then some (d - 0x61 + 10)
    else none
  v.filter (· < base)

/-- The number that the leading digits make. -/
def digits (base : Nat) : Nat → List UInt8 → Nat
  | acc, [] => acc
  | acc, c :: cs => match digitOf base c with
    | none => acc
    | some d => digits base (acc * base + d) cs

/-- The string behind a `0x` that is followed by a digit. -/
def skipHex : List UInt8 → List UInt8
  | 0x30 :: x :: c :: cs =>
      if tolower x = 0x78 ∧ (digitOf 16 c).isSome then c :: cs else 0x30 :: x :: c :: cs
  | s => s

/-- The sign of a number, and the string behind it. -/
def sign : List UInt8 → Bool × List UInt8
  | 0x2D :: s => (true, s)
  | 0x2B :: s => (false, s)
  | s => (false, s)

/-- The limits of a `long` of 32 bits. -/
def LONG_MIN : Int := -0x80000000
def LONG_MAX : Int := 0x7FFFFFFF

/-- `strtol`; what a `long` cannot hold saturates. -/
def strtol (base : Nat) (s : List UInt8) : Int :=
  let r := sign (s.dropWhile isspace)
  let n : Int := digits base 0 (if base = 16 then skipHex r.2 else r.2)
  let n := if r.1 then -n else n
  if n < LONG_MIN then LONG_MIN else if LONG_MAX < n then LONG_MAX else n

/-- `atoi`. -/
def atoi (s : List UInt8) : BitVec 32 := BitVec.ofInt 32 (strtol 10 s)

section Upto

variable {α : Type*} [DecidableEq α]

/-- A word up to a mark behind it, and a word without the mark. -/
theorem takeWhile_upto {a : α} {xs : List α} (h : a ∉ xs) (ys : List α) :
    (xs ++ a :: ys).takeWhile (fun b => b ≠ a) = xs := by
  have hxs : ∀ b ∈ xs, decide (b ≠ a) = true :=
    fun b hb => decide_eq_true (fun heq => h (heq ▸ hb))
  rw [List.takeWhile_append_of_pos hxs, List.takeWhile_cons_of_neg, List.append_nil]
  simp only [ne_eq, not_true_eq_false, decide_false, Bool.false_eq_true, not_false_eq_true]

theorem dropWhile_upto {a : α} {xs : List α} (h : a ∉ xs) (ys : List α) :
    (xs ++ a :: ys).dropWhile (fun b => b ≠ a) = a :: ys := by
  have hxs : ∀ b ∈ xs, decide (b ≠ a) = true :=
    fun b hb => decide_eq_true (fun heq => h (heq ▸ hb))
  rw [List.dropWhile_append_of_pos hxs, List.dropWhile_cons_of_neg]
  simp only [ne_eq, not_true_eq_false, decide_false, Bool.false_eq_true, not_false_eq_true]

theorem takeWhile_none {a : α} {xs : List α} (h : a ∉ xs) : xs.takeWhile (fun b => b ≠ a) = xs :=
  List.takeWhile_eq_self_iff.mpr (fun _ hb => decide_eq_true (fun heq => h (heq ▸ hb)))

theorem dropWhile_none {a : α} {xs : List α} (h : a ∉ xs) : xs.dropWhile (fun b => b ≠ a) = [] :=
  List.dropWhile_eq_nil_iff.mpr (fun _ hb => decide_eq_true (fun heq => h (heq ▸ hb)))

end Upto

section Split

/-- A text has no delimiter, or it is what is in front of the first one and what
    is behind it. -/
theorem delim_induction (delim : UInt8) {P : List UInt8 → Prop}
    (last : ∀ body, delim ∉ body → P body)
    (more : ∀ body rest, delim ∉ body → P rest → P (body ++ delim :: rest)) (s : List UInt8) :
    P s := by
  induction hn : s.length using Nat.strong_induction_on generalizing s with
  | _ n ih =>
    by_cases hmem : delim ∈ s
    · -- The first delimiter, not any.
      rcases List.eq_append_cons_of_mem hmem with ⟨body, rest, rfl, hbody⟩
      have hlt : rest.length < n := by
        rw [← hn, List.length_append, List.length_cons]
        omega
      exact more body rest hbody (ih rest.length hlt rest rfl)
    · exact last s hmem

end Split

section Lines

/-- A file is empty, or one line without a newline, or a line and what follows
    it. -/
theorem lines_induction {P : List UInt8 → Prop} (empty : P [])
    (last : ∀ body, body ≠ [] → NL ∉ body → P body)
    (line : ∀ body rest, NL ∉ body → P rest → P (body ++ NL :: rest)) (file : List UInt8) :
    P file := by
  induction file using delim_induction NL with
  | last body h =>
      by_cases hempty : body = []
      · rw [hempty]
        exact empty
      · exact last body hempty h
  | more body rest h ih => exact line body rest h ih

/-- A line without a newline is the last. -/
theorem lines_last {body : List UInt8} (hne : body ≠ []) (h : NL ∉ body) :
    lines body = [body] := by
  induction body with
  | nil => exact absurd rfl hne
  | cons c cs ih =>
      rw [List.mem_cons, not_or] at h
      unfold lines
      rw [if_neg (Ne.symm h.1)]
      by_cases hcs : cs = []
      · rw [hcs]
        rfl
      · rw [ih hcs h.2]

/-- The first line, and then the lines of the rest. -/
theorem lines_line {body : List UInt8} (h : NL ∉ body) (rest : List UInt8) :
    lines (body ++ NL :: rest) = (body ++ [NL]) :: lines rest := by
  induction body with
  | nil => rw [List.nil_append, lines, if_pos rfl, List.nil_append]
  | cons c cs ih =>
      rw [List.mem_cons, not_or] at h
      rw [List.cons_append, lines, if_neg (Ne.symm h.1), ih h.2]
      rfl

/-- The lines up to a newline, and then the lines of the rest. -/
theorem lines_append (s rest : List UInt8) :
    lines (s ++ NL :: rest) = lines (s ++ [NL]) ++ lines rest := by
  induction s using lines_induction with
  | empty => exact lines_line List.not_mem_nil rest
  | last body _ h =>
      rw [lines_line h, lines_line h]
      rfl
  | line body tail h ih =>
      rw [List.append_assoc, List.cons_append, lines_line h, ih, List.append_assoc,
        List.cons_append, lines_line h, List.cons_append]

/-- A line is not empty and has its newline, if any, at its end. -/
theorem line_of_mem {file l : List UInt8} (h : l ∈ lines file) : l ≠ [] ∧ NL ∉ l.dropLast := by
  induction file using lines_induction with
  | empty => exact absurd h List.not_mem_nil
  | last body hne hbody =>
      rw [lines_last hne hbody, List.mem_singleton] at h
      rw [h]
      exact ⟨hne, fun hmem => hbody (List.dropLast_subset _ hmem)⟩
  | line body rest hbody ih =>
      rw [lines_line hbody, List.mem_cons] at h
      rcases h with rfl | h
      · rw [List.dropLast_concat]
        exact ⟨List.append_ne_nil_of_right_ne_nil _ (List.cons_ne_nil _ _), hbody⟩
      · exact ih h

end Lines

section Pieces

variable {size : Nat}

/-- A line is cut off at a number of bytes. -/
theorem takeLine_line {l : List UInt8} (h : NL ∉ l.dropLast) (n : Nat) :
    takeLine n l = l.take n := by
  induction l generalizing n with
  | nil => cases n <;> rfl
  | cons c cs ih =>
      cases n with
      | zero => rfl
      | succ n =>
          cases cs with
          | nil =>
              unfold takeLine
              -- The last byte may be the newline.
              by_cases hc : c = NL
              · rw [if_pos hc, List.take_succ_cons, List.take_nil]
              · rw [if_neg hc, List.take_succ_cons, List.take_nil]
                cases n <;> rfl
          | cons d ds =>
              rw [List.dropLast_cons_cons, List.mem_cons, not_or] at h
              unfold takeLine
              rw [if_neg (Ne.symm h.1), ih h.2, List.take_succ_cons]

/-- What lies behind a newline is not read. -/
theorem takeLine_append {body : List UInt8} (h : NL ∉ body) (n : Nat) (rest : List UInt8) :
    takeLine n (body ++ NL :: rest) = (body ++ [NL]).take n := by
  induction body generalizing n with
  | nil =>
      cases n with
      | zero => rfl
      | succ n => rw [List.nil_append, takeLine, if_pos rfl, List.nil_append, List.take_succ_cons,
          List.take_nil]
  | cons c cs ih =>
      rw [List.mem_cons, not_or] at h
      cases n with
      | zero => rfl
      | succ n =>
          rw [List.cons_append, takeLine, if_neg (Ne.symm h.1), ih h.2, List.cons_append,
            List.take_succ_cons]

/-- Something is read unless the file is at its end. -/
theorem takeLine_ne_nil {file : List UInt8} (hne : file ≠ []) (hsize : 1 < size) :
    0 < (takeLine (size - 1) file).length := by
  cases file with
  | nil => exact absurd rfl hne
  | cons c cs =>
      rw [show size - 1 = (size - 2) + 1 by omega]
      unfold takeLine
      split
      · exact Nat.one_pos
      · exact Nat.succ_pos _

/-- There are no more pieces than bytes. -/
theorem reads_of_le (hsize : 1 < size) {n : Nat} {file : List UInt8} (h : file.length ≤ n) :
    reads size n file = pieces size file := by
  induction n using Nat.strong_induction_on generalizing file with
  | _ n ih =>
    cases file with
    | nil => cases n <;> rfl
    | cons c cs =>
        have hne : c :: cs ≠ [] := List.cons_ne_nil c cs
        have hpos := takeLine_ne_nil hne hsize
        rw [List.length_cons] at h
        cases n with
        | zero => exact absurd h (Nat.not_succ_le_zero _)
        | succ n =>
            -- A piece has a byte at least, so the rest is shorter by one.
            have hrest : ((c :: cs).drop (takeLine (size - 1) (c :: cs)).length).length ≤
                cs.length := by
              rw [List.length_drop, List.length_cons]
              omega
            unfold pieces
            rw [List.length_cons, reads, reads, fgets, if_neg hne]
            simp only
            rw [ih n (Nat.lt_succ_self n) (by omega)]
            by_cases hlt : cs.length < n + 1
            · rw [ih cs.length hlt hrest]
            · omega

/-- The first piece, and then the pieces of the rest. -/
theorem pieces_of_ne_nil (hsize : 1 < size) {file : List UInt8} (hne : file ≠ []) :
    pieces size file = takeLine (size - 1) file ::
      pieces size (file.drop (takeLine (size - 1) file).length) := by
  have hpos := takeLine_ne_nil hne hsize
  have hlen := List.length_pos_of_ne_nil hne
  rw [pieces, show file.length = (file.length - 1) + 1 by omega, reads, fgets, if_neg hne]
  simp only
  rw [reads_of_le hsize (by rw [List.length_drop]; omega)]

/-- A line is cut after every `size - 1` bytes. -/
theorem pieces_line (hsize : 1 < size) {l : List UInt8} (hne : l ≠ []) (h : NL ∉ l.dropLast) :
    pieces size l = l.take (size - 1) :: pieces size (l.drop (size - 1)) := by
  rw [pieces_of_ne_nil hsize hne, takeLine_line h, List.length_take]
  by_cases hle : size - 1 ≤ l.length
  · rw [Nat.min_eq_left hle]
  · rw [Nat.min_eq_right (by omega), List.drop_length, List.drop_eq_nil_of_le (by omega)]

/-- A line that fits is one piece. -/
theorem pieces_short (hsize : 1 < size) {l : List UInt8} (hne : l ≠ []) (h : NL ∉ l.dropLast)
    (hlen : l.length < size) : pieces size l = [l] := by
  rw [pieces_line hsize hne h, List.take_of_length_le (by omega),
    List.drop_eq_nil_of_le (by omega)]
  rfl

/-- No piece spans two lines. -/
theorem pieces_append (hsize : 1 < size) {body : List UInt8} (h : NL ∉ body)
    (rest : List UInt8) :
    pieces size (body ++ NL :: rest) = pieces size (body ++ [NL]) ++ pieces size rest := by
  induction hn : body.length using Nat.strong_induction_on generalizing body with
  | _ n ih =>
    have hfile : body ++ NL :: rest ≠ [] :=
      List.append_ne_nil_of_right_ne_nil _ (List.cons_ne_nil _ _)
    have hline : body ++ [NL] ≠ [] :=
      List.append_ne_nil_of_right_ne_nil _ (List.cons_ne_nil _ _)
    rw [pieces_of_ne_nil hsize hfile, takeLine_append h, pieces_line hsize hline
      (by rw [List.dropLast_concat]; exact h), List.cons_append, List.length_take,
      List.length_append, List.length_singleton]
    by_cases hle : body.length + 1 ≤ size - 1
    · -- The line is one piece, and the next one is the first of the rest.
      have hdrop : (body ++ NL :: rest).drop (body.length + 1) = rest := by
        rw [List.drop_append, List.drop_eq_nil_of_le (Nat.le_succ _), Nat.add_sub_cancel_left]
        rfl
      have hnone : (body ++ [NL]).drop (size - 1) = [] :=
        List.drop_eq_nil_of_le (by rw [List.length_append, List.length_singleton]; omega)
      rw [Nat.min_eq_right hle, hdrop, hnone]
      rfl
    · -- The line goes on, without what was read of it.
      have hlt : size - 1 ≤ body.length := by omega
      have htail : NL ∉ body.drop (size - 1) := fun hmem => h (List.mem_of_mem_drop hmem)
      rw [Nat.min_eq_left (by omega), List.drop_append_of_le_length hlt,
        List.drop_append_of_le_length hlt,
        ih (body.drop (size - 1)).length (by rw [List.length_drop]; omega) htail rfl]

/-- The file is read line by line, and every line in pieces. -/
theorem pieces_lines (hsize : 1 < size) (file : List UInt8) :
    pieces size file = (lines file).flatMap (pieces size) := by
  induction file using lines_induction with
  | empty => rfl
  | last body hne h => rw [lines_last hne h, List.flatMap_singleton]
  | line body rest h ih => rw [lines_line h, List.flatMap_cons, pieces_append hsize h, ih]

end Pieces

section Tokens

variable {delim : UInt8}

theorem bne_of_not_mem {token : List UInt8} (h : delim ∉ token) :
    ∀ c ∈ token, (c != delim) = true := fun _ hc =>
  bne_iff_ne.mpr (fun heq => h (heq ▸ hc))

/-- The token in front of a delimiter. -/
theorem strtok_token {token : List UInt8} (hne : token ≠ []) (h : delim ∉ token)
    (rest : List UInt8) : strtok delim (token ++ delim :: rest) = some (token, rest) := by
  have hall := bne_of_not_mem h
  cases token with
  | nil => exact absurd rfl hne
  | cons c cs =>
      have hc : (c == delim) = false := by
        rw [beq_eq_false_iff_ne]
        exact bne_iff_ne.mp (hall c List.mem_cons_self)
      -- It stops at the delimiter and goes on behind it.
      have hstop : (delim != delim) = false := bne_self_eq_false delim
      unfold strtok
      rw [List.cons_append, List.dropWhile_cons_of_neg (by rw [hc]; exact Bool.false_ne_true)]
      simp only
      rw [← List.cons_append, List.takeWhile_append_of_pos hall,
        List.dropWhile_append_of_pos hall, List.takeWhile_cons, List.dropWhile_cons, hstop]
      simp only [Bool.false_eq_true, if_false, List.append_nil, List.drop_succ_cons, List.drop_zero]

/-- The last token. -/
theorem strtok_last {token : List UInt8} (hne : token ≠ []) (h : delim ∉ token) :
    strtok delim token = some (token, []) := by
  have hall := bne_of_not_mem h
  cases token with
  | nil => exact absurd rfl hne
  | cons c cs =>
      have hc : (c == delim) = false := by
        rw [beq_eq_false_iff_ne]
        exact bne_iff_ne.mp (hall c List.mem_cons_self)
      unfold strtok
      rw [List.dropWhile_cons_of_neg (by rw [hc]; exact Bool.false_ne_true)]
      simp only
      rw [List.takeWhile_eq_self_iff.mpr hall, List.dropWhile_eq_nil_iff.mpr hall]
      rfl

/-- A blank at the end does not matter. -/
theorem trim_concat_blank {c : UInt8} (hc : isspace c = true) (s : List UInt8) :
    trim (s ++ [c]) = trim s := by
  unfold trim
  rw [List.dropWhile_append]
  -- All may be blank, and then nothing is left of either.
  by_cases hblank : (s.dropWhile isspace).isEmpty = true
  · rw [if_pos hblank, List.isEmpty_iff.mp hblank, List.dropWhile_cons_of_pos hc,
      List.dropWhile_nil]
  · rw [if_neg hblank, List.rdropWhile_concat_pos _ _ _ hc]

@[simp] theorem fields_nil : fields delim [] = [] := rfl

theorem fields_append (s rest : List UInt8) :
    fields delim (s ++ delim :: rest) = fields delim s ++ fields delim rest := by
  unfold fields
  rw [List.splitOn_append_cons_self, List.filter_append]

/-- A text without a delimiter is one field. -/
theorem fields_single {s : List UInt8} (hne : s ≠ []) (h : delim ∉ s) : fields delim s = [s] := by
  unfold fields
  rw [List.splitOn_eq_singleton h, List.filter_cons_of_pos (by simpa using hne), List.filter_nil]

/-- A field in front of a delimiter is the first. -/
theorem fields_token {token : List UInt8} (hne : token ≠ []) (h : delim ∉ token)
    (rest : List UInt8) : fields delim (token ++ delim :: rest) = token :: fields delim rest := by
  rw [fields_append, fields_single hne h, List.singleton_append]

/-- A field is part of the text. -/
theorem isInfix_of_mem_fields {s f : List UInt8} (h : f ∈ fields delim s) : f <:+: s := by
  induction s using delim_induction delim with
  | last body hbody =>
      by_cases hne : body = []
      · rw [hne] at h
        exact absurd h List.not_mem_nil
      · rw [fields_single hne hbody, List.mem_singleton] at h
        exact h ▸ List.infix_refl body
  | more body rest hbody ih =>
      rw [fields_append, List.mem_append] at h
      -- The field is one of the first part or one of the rest.
      rcases h with h | h
      · by_cases hne : body = []
        · rw [hne] at h
          exact absurd h List.not_mem_nil
        · rw [fields_single hne hbody, List.mem_singleton] at h
          exact h ▸ (List.prefix_append body _).isInfix
      · exact (ih h).trans ((List.suffix_cons delim rest).trans (List.suffix_append body _)).isInfix

/-- What `strtok_r` returns is the first field, and it goes on with the others. -/
theorem strtok_fields (delim : UInt8) (s : List UInt8) :
    strtok delim s = none ∧ fields delim s = [] ∨
      ∃ f rest, strtok delim s = some (f, rest) ∧ fields delim s = f :: fields delim rest := by
  induction s using delim_induction delim with
  | last body hbody =>
      by_cases hne : body = []
      · rw [hne]
        exact Or.inl ⟨rfl, rfl⟩
      · exact Or.inr ⟨body, [], strtok_last hne hbody, fields_single hne hbody⟩
  | more body rest hbody ih =>
      by_cases hne : body = []
      · -- A delimiter in front is skipped.
        have hskip : strtok delim (delim :: rest) = strtok delim rest := by
          unfold strtok
          rw [List.dropWhile_cons_of_pos (p := (· == delim)) (beq_self_eq_true delim)]
        have hsame : fields delim (delim :: rest) = fields delim rest :=
          fields_append [] rest
        rw [hne, List.nil_append, hskip, hsame]
        exact ih
      · exact Or.inr ⟨body, rest, strtok_token hne hbody rest, fields_token hne hbody rest⟩

/-- One byte more belongs to the last field, or it is a field of its own. -/
theorem fields_concat {c : UInt8} (hc : c ≠ delim) (s : List UInt8) :
    fields delim s = [] ∧ fields delim (s ++ [c]) = [[c]] ∨
      ∃ fs f, fields delim s = fs ++ [f] ∧
        (fields delim (s ++ [c]) = fs ++ [f ++ [c]] ∨
          fields delim (s ++ [c]) = fs ++ [f, [c]]) := by
  have hsingle : fields delim [c] = [[c]] :=
    fields_single (List.cons_ne_nil c []) (fun h => hc (List.mem_singleton.mp h).symm)
  induction s using delim_induction delim with
  | last body hbody =>
      by_cases hne : body = []
      · rw [hne]
        exact Or.inl ⟨rfl, hsingle⟩
      · have hbody' : delim ∉ body ++ [c] := fun h =>
          (List.mem_append.mp h).elim hbody (fun h => hc (List.mem_singleton.mp h).symm)
        refine Or.inr ⟨[], body, fields_single hne hbody, Or.inl ?_⟩
        exact fields_single (List.append_ne_nil_of_left_ne_nil hne _) hbody'
  | more body rest hbody ih =>
      rw [List.append_assoc, List.cons_append, fields_append, fields_append]
      -- The last field is that of the rest, or the rest has none.
      rcases ih with ⟨hnone, hone⟩ | ⟨fs, f, hfs, hlast⟩
      · rw [hnone, hone, List.append_nil]
        by_cases hne : body = []
        · rw [hne]
          exact Or.inl ⟨rfl, rfl⟩
        · rw [fields_single hne hbody]
          exact Or.inr ⟨[], body, rfl, Or.inr rfl⟩
      · refine Or.inr ⟨fields delim body ++ fs, f, by rw [hfs, List.append_assoc], ?_⟩
        rcases hlast with hlast | hlast
        · exact Or.inl (by rw [hlast, List.append_assoc])
        · exact Or.inr (by rw [hlast, List.append_assoc])

end Tokens

end Text

end Taoshan
