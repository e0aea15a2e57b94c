import Taoshan.Hal.LightDevice
import Taoshan.Lib.Numerals
import Taoshan.Lib.Run

/-!
# The Panel Follows the Color

`lights_set_light_backlight` makes a brightness of the color it is given, corrects
it, scales it to the panel and writes it to a file of the kernel as a decimal
number. The largest brightness of the panel is read from another file each time,
into a buffer of six bytes that nothing ends: what the number ends with is the
newline in the file, and a panel with a number of six digits would be read on into
the stack. The other lights are the vendor's, and the wrapper only takes the alpha
channel away.

A panel of at most five digits is read right whatever is on the stack, and no
product overflows. Then there is one scale that every run goes by. A color is dark
or lit, and lit is never darker than `LCD_BRIGHTNESS_MIN`; white is all that the
panel has, if it has that much at all; a brighter color is no darker on the panel;
alpha has no part in it. A panel of fewer steps than `LCD_BRIGHTNESS_MIN` is written
that number for every lit color, although it has no such step. The
file holds the number for the last color that could be written, and a call that
reports no error is one that was written (`panel_follows`).

The correction is one of floating point numbers, so it is a parameter, of which it
is known that it does not change the order and leaves the full brightness alone.

## Main definitions

* `rgbToBrightness`, `getMaxBrightness`, `level`: What is written.
* `writeInt`, `setLightBacklight`, `lightsSetLight`: The calls.
* `Correction`: What is known of the correction.
* `Scale`, `scaleOf`: A scale from the brightness of a color to that of the panel.

## Theorems

* `getMaxBrightness_readable`: The panel is read right.
* `level_eq`, `scaleOf_scale`: What is written is on a scale.
* `intLine_read`: The line that is written can be read back.
* `setLightBacklight_eq_zero_iff`: When no error is reported.
* `panel_follows`: What the panel's file holds after a run.
-/

namespace Taoshan

namespace Hal

namespace Lights

open Text Run

def LCD_BRIGHTNESS_MIN : Int := 20

/-- `light_state_t`. -/
structure LightState where
  color : BitVec 32
  flashMode : Int
  flashOnMS : Int
  flashOffMS : Int
  brightnessMode : Int
  deriving DecidableEq

/-- `rgb_to_brightness`. -/
def rgbToBrightness (color : BitVec 32) : Nat :=
  let color := color &&& 0x00ffffff
  (77 * ((color >>> 16) &&& 0x00ff).toNat + 150 * ((color >>> 8) &&& 0x00ff).toNat
    + 29 * (color &&& 0x00ff).toNat) >>> 8

/-- `get_max_brightness`, of a file that can be opened or not. `stack` is what lies
    behind what was read. -/
def getMaxBrightness (file : Option (List UInt8)) (stack : List UInt8) : Int :=
  match file with
  | none => 255
  | some content =>
      let value := content.take 6
      if value.length ≤ 1 then 255 else strtol 10 (value ++ stack)

/-- The brightness that is written to the panel. The product is one of `int`. -/
def level (applyGamma : Nat → Nat) (maxBrightness : Int) (color : BitVec 32) : Int :=
  let brightness := rgbToBrightness color
  if brightness > 0 then
    let brightness := (maxBrightness * applyGamma brightness).bmod (2 ^ 32) |>.tdiv 255
    if brightness < LCD_BRIGHTNESS_MIN then LCD_BRIGHTNESS_MIN else brightness
  else brightness

/-- `%d\n`. -/
def intLine (value : Int) : List UInt8 :=
  (if value < 0 then [0x2D] else []) ++ numeral 10 value.natAbs ++ [NL]

/-- The brightness of a panel for the brightness of a color. -/
def scaleOf (applyGamma : Nat → Nat) (maxBrightness b : Nat) : Nat :=
  if b = 0 then 0 else max 20 (maxBrightness * applyGamma b / 255)

/-- What becomes of a write: the file cannot be opened, or not be written, with
    an `errno`, or it takes the text. -/
inductive WriteResult
  | noFile (errno : {e : BitVec 32 // e ≠ 0})
  | failed (errno : {e : BitVec 32 // e ≠ 0})
  | written
  deriving DecidableEq

/-- The result of `write_int`. -/
def writeInt : WriteResult → BitVec 32
  | .noFile errno => -errno.val
  | .failed errno => -errno.val
  | .written => 0

/-- What a call meets: the file of the panel's brightness and the stack, and what
    becomes of the two writes. -/
structure PanelEnv where
  maxBrightness : Option (List UInt8)
  stack : List UInt8
  lcdBacklight : WriteResult
  lcdBacklight2 : WriteResult

/-- `lights_set_light_backlight`. -/
def setLightBacklight (env : PanelEnv) : BitVec 32 :=
  0 ||| writeInt env.lcdBacklight ||| writeInt env.lcdBacklight2

/-- `lights_set_light`: what the vendor is given. -/
def lightsSetLight (state : LightState) : LightState :=
  { state with color := state.color &&& 0x00FFFFFF }

/-- What the panel's file holds, and what the vendor was given. The other file is
    `/dev/null`. -/
structure Panel where
  lcd : List UInt8
  vendor : List LightState
  deriving DecidableEq

/-- A call of `set_light` of some device. -/
structure LightCall where
  setLight : SetLight
  state : LightState
  env : PanelEnv

/-- A call of a device, as the panel and the vendor see it. -/
def step (applyGamma : Nat → Nat) (p : Panel) (call : LightCall) : Option Panel :=
  match call.setLight with
  | .lightsSetLight => some { p with vendor := p.vendor ++ [lightsSetLight call.state] }
  | .lightsSetLightBacklight =>
      if call.env.lcdBacklight = .written then
        some { p with lcd := intLine (level applyGamma
          (getMaxBrightness call.env.maxBrightness call.env.stack) call.state.color) }
      else some p

/-- The vendor's part of a call. -/
def forwarded (call : LightCall) : List LightState :=
  match call.setLight with
  | .lightsSetLight => [lightsSetLight call.state]
  | .lightsSetLightBacklight => []

/-- The color that a call has written to the panel, if it has. -/
def writtenColor (call : LightCall) : Option (BitVec 32) :=
  match call.setLight with
  | .lightsSetLight => none
  | .lightsSetLightBacklight =>
      if call.env.lcdBacklight = .written then some call.state.color else none

/-- The file holds the brightness of the panel, or cannot be opened. -/
def Readable (maxBrightness : Nat) (env : PanelEnv) : Prop :=
  env.maxBrightness = some (numeral 10 maxBrightness ++ [NL]) ∨
    env.maxBrightness = none ∧ maxBrightness = 255

/-- What is known of the correction. -/
structure Correction (applyGamma : Nat → Nat) : Prop where
  mono : ∀ b c, b ≤ c → c ≤ 255 → applyGamma b ≤ applyGamma c
  full : applyGamma 255 = 255

/-- A scale from the brightness of a color to that of a panel. White is the most
    the panel has, or the least that is written if that is more. -/
structure Scale (maxBrightness : Nat) (scale : Nat → Nat) : Prop where
  dark : scale 0 = 0
  lit : ∀ b, 0 < b → b ≤ 255 → 20 ≤ scale b ∧ scale b ≤ max 20 maxBrightness
  full : scale 255 = max 20 maxBrightness
  mono : ∀ b c, b ≤ c → c ≤ 255 → scale b ≤ scale c

section Levels

variable {applyGamma : Nat → Nat} {maxBrightness : Nat}

/-- The brightness of a color is a byte. -/
theorem rgbToBrightness_le (color : BitVec 32) : rgbToBrightness color ≤ 255 := by
  -- 77 + 150 + 29 is 256, so three bytes come to a byte again.
  have hbyte : ∀ c : BitVec 32, (c &&& 0x00ff).toNat ≤ 255 := by
    intro c
    rw [BitVec.toNat_and]
    exact Nat.and_le_right
  unfold rgbToBrightness
  simp only [Nat.shiftRight_eq_div_pow]
  have hr := hbyte ((color &&& 0x00ffffff) >>> 16)
  have hg := hbyte ((color &&& 0x00ffffff) >>> 8)
  have hb := hbyte (color &&& 0x00ffffff)
  omega

/-- Alpha has no part in it. -/
theorem rgbToBrightness_alpha (color : BitVec 32) :
    rgbToBrightness (color &&& 0x00ffffff) = rgbToBrightness color := by
  unfold rgbToBrightness
  rw [BitVec.and_assoc, BitVec.and_self]

theorem rgbToBrightness_white : rgbToBrightness 0x00ffffff = 255 := by decide

/-- The panel is read right, whatever is on the stack. -/
theorem getMaxBrightness_readable {env : PanelEnv} (h : Readable maxBrightness env)
    (hmax : maxBrightness ≤ 99999) :
    getMaxBrightness env.maxBrightness env.stack = maxBrightness := by
  rcases h with hfile | ⟨hfile, rfl⟩
  · have hnum : Numeral 10 maxBrightness (numeral 10 maxBrightness) :=
      numeral_self (by decide) (by decide) maxBrightness
    have hlen := hnum.length_le (by decide) (k := 5) (by decide) (by omega)
    have hne := List.length_pos_iff.mpr hnum.ne_nil
    have hlength : (numeral 10 maxBrightness ++ [NL]).length
        = (numeral 10 maxBrightness).length + 1 := List.length_append
    rw [hfile]
    unfold getMaxBrightness
    -- All of the file is in the buffer, and with it the newline.
    simp only [List.take_of_length_le (show (numeral 10 maxBrightness ++ [NL]).length ≤ 6 by omega)]
    rw [if_neg (by omega), List.append_assoc, List.singleton_append,
      strtol_numeral_ends hnum (by decide) (by decide) (by decide), if_neg]
    unfold LONG_MAX
    omega
  · rw [hfile]
    rfl

/-- Six digits are read on into the stack. -/
example : getMaxBrightness (some (numeral 10 100000 ++ [NL])) [0x39, 0x00] = 1000009 := by decide

/-- What is written is on a scale. -/
theorem level_eq (hgamma : Correction applyGamma) (hmax : maxBrightness ≤ 99999)
    (color : BitVec 32) :
    level applyGamma maxBrightness color
      = scaleOf applyGamma maxBrightness (rgbToBrightness color) := by
  have hle := rgbToBrightness_le color
  have hcorrect := hgamma.full ▸ hgamma.mono _ 255 hle (Nat.le_refl 255)
  -- 99999 times 255 is far below 2 ^ 31, so the product does not wrap.
  have hproduct := Nat.mul_le_mul hmax hcorrect
  have hwide : ((maxBrightness : Int) * applyGamma (rgbToBrightness color)).bmod (2 ^ 32)
      = ((maxBrightness * applyGamma (rgbToBrightness color) : Nat) : Int) := by
    rw [← Int.natCast_mul]
    exact Int.bmod_eq_of_le (by omega) (by omega)
  unfold level scaleOf LCD_BRIGHTNESS_MIN
  simp only [hwide]
  clear hwide
  generalize maxBrightness * applyGamma (rgbToBrightness color) = product at hproduct ⊢
  by_cases hlit : rgbToBrightness color > 0
  · rw [if_pos hlit, if_neg (show ¬rgbToBrightness color = 0 by omega),
      Int.tdiv_eq_ediv_of_nonneg (by omega)]
    split <;> omega
  · rw [if_neg hlit, if_pos (by omega)]
    omega

/-- Lit is never dark, and the full brightness is the panel's, or the least that is
    written. -/
theorem scaleOf_scale (hgamma : Correction applyGamma) (maxBrightness : Nat) :
    Scale maxBrightness (scaleOf applyGamma maxBrightness) where
  dark := if_pos rfl
  lit b hpos hle := by
    -- The correction stays below that of white.
    have hcorrect := hgamma.full ▸ hgamma.mono b 255 hle (Nat.le_refl 255)
    have hproduct := Nat.mul_le_mul_left maxBrightness hcorrect
    unfold scaleOf
    rw [if_neg (by omega)]
    omega
  full := by
    unfold scaleOf
    rw [if_neg (by decide), hgamma.full]
    omega
  mono b c hbc hle := by
    have hcorrect := Nat.mul_le_mul_left maxBrightness (hgamma.mono b c hbc hle)
    have hquot := Nat.div_le_div_right (c := 255) hcorrect
    unfold scaleOf
    split
    · exact Nat.zero_le _
    · rw [if_neg (by omega)]
      omega

/-- A brightness of the panel is a line that can be read back. -/
theorem intLine_read {value : Nat} (hvalue : value ≤ 99999) :
    strtol 10 (intLine value) = value ∧ (intLine value).length < 20 := by
  have hnum := numeral_self (show 1 < 10 by decide) (by decide) value
  -- At most five digits and a newline.
  have hlen := hnum.length_le (by decide) (k := 5) (by decide) (by omega)
  unfold intLine
  rw [if_neg (by omega), List.nil_append, Int.natAbs_natCast]
  refine ⟨?_, ?_⟩
  · rw [strtol_numeral_ends hnum (by decide) (by decide) (by decide), if_neg]
    unfold LONG_MAX
    omega
  · rw [List.length_append, List.length_singleton]
    omega

end Levels

/-- No error is reported when both were written. -/
theorem setLightBacklight_eq_zero_iff (env : PanelEnv) :
    setLightBacklight env = 0 ↔ env.lcdBacklight = .written ∧ env.lcdBacklight2 = .written := by
  -- The errors are joined by a bitwise or, so none of them may be there.
  have hwrite : ∀ result, writeInt result = 0#32 ↔ result = .written := by
    intro result
    cases result with
    | noFile errno =>
        exact ⟨fun h => absurd (BitVec.neg_eq_zero_iff.mp h) errno.property, fun h => by cases h⟩
    | failed errno =>
        exact ⟨fun h => absurd (BitVec.neg_eq_zero_iff.mp h) errno.property, fun h => by cases h⟩
    | written => exact ⟨fun _ => rfl, fun _ => rfl⟩
  unfold setLightBacklight
  change _ = 0#32 ↔ _
  rw [BitVec.or_eq_zero_iff, BitVec.or_eq_zero_iff, hwrite, hwrite]
  exact ⟨fun h => ⟨h.1.2, h.2⟩, fun h => ⟨⟨rfl, h.1⟩, h.2⟩⟩

section Runs

variable {applyGamma : Nat → Nat} {maxBrightness : Nat}

/-- The panel after these calls. -/
structure Follows (applyGamma : Nat → Nat) (maxBrightness : Nat) (p : Panel)
    (calls : List LightCall) (q : Panel) : Prop where
  vendor : q.vendor = p.vendor ++ calls.flatMap forwarded
  lcd : match (calls.filterMap writtenColor).getLast? with
    | none => q.lcd = p.lcd
    | some color => q.lcd = intLine (scaleOf applyGamma maxBrightness (rgbToBrightness color))

/-- One call more. -/
theorem Follows.step {p q r : Panel} {calls : List LightCall} {call : LightCall}
    (hgamma : Correction applyGamma) (hmax : maxBrightness ≤ 99999)
    (hread : Readable maxBrightness call.env) (hq : Follows applyGamma maxBrightness p calls q)
    (h : step applyGamma q call = some r) :
    Follows applyGamma maxBrightness p (calls ++ [call]) r := by
  rcases call with ⟨setLight, state, env⟩
  cases setLight with
  | lightsSetLight =>
      cases h
      refine ⟨?_, ?_⟩
      · rw [List.flatMap_append, List.flatMap_singleton, ← List.append_assoc, ← hq.vendor]
        rfl
      · rw [List.filterMap_append, show [_].filterMap writtenColor = [] from rfl,
          List.append_nil]
        exact hq.lcd
  | lightsSetLightBacklight =>
      simp only [Lights.step, getMaxBrightness_readable hread hmax, level_eq hgamma hmax] at h
      by_cases hwritten : env.lcdBacklight = .written
      · rw [if_pos hwritten] at h
        cases h
        have hcolor : writtenColor ⟨.lightsSetLightBacklight, state, env⟩ = some state.color :=
          if_pos hwritten
        refine ⟨?_, ?_⟩
        · rw [List.flatMap_append, List.flatMap_singleton, ← List.append_assoc, ← hq.vendor]
          exact (List.append_nil _).symm
        · rw [List.filterMap_append, List.filterMap_cons, hcolor]
          simp only [List.filterMap_nil, List.getLast?_append, List.getLast?_singleton,
            Option.some_or]
      · rw [if_neg hwritten] at h
        cases h
        have hcolor : writtenColor ⟨.lightsSetLightBacklight, state, env⟩ = none :=
          if_neg hwritten
        refine ⟨?_, ?_⟩
        · rw [List.flatMap_append, List.flatMap_singleton, ← List.append_assoc, ← hq.vendor]
          exact (List.append_nil _).symm
        · rw [List.filterMap_append, List.filterMap_cons, hcolor, List.filterMap_nil,
            List.append_nil]
          exact hq.lcd

/-- A whole run. -/
theorem follows_run {p q : Panel} {calls : List LightCall} (hgamma : Correction applyGamma)
    (hmax : maxBrightness ≤ 99999) (hread : ∀ call ∈ calls, Readable maxBrightness call.env)
    (h : exec (step applyGamma) p calls = some q) :
    Follows applyGamma maxBrightness p calls q := by
  refine exec_history (fun bs s => (∀ call ∈ bs, Readable maxBrightness call.env) →
    Follows applyGamma maxBrightness p bs s) ?_ ?_ h hread
  · intro bs s call t hs hstep hall
    exact (hs fun c hc => hall c (List.mem_append_left _ hc)).step hgamma hmax
      (hall call (List.mem_append_right _ List.mem_cons_self)) hstep
  · exact fun _ => ⟨(List.append_nil _).symm, rfl⟩

/-- A color that a call reports no error for has been written. -/
theorem writtenColor_of_no_error {call : LightCall}
    (hlight : call.setLight = .lightsSetLightBacklight) (h : setLightBacklight call.env = 0) :
    writtenColor call = some call.state.color := by
  unfold writtenColor
  rw [hlight]
  exact if_pos ((setLightBacklight_eq_zero_iff _).mp h).1

/-- There is one scale by which the panel follows the colors. After any calls its
    file holds the brightness of the last color that was written, as a line that reads
    back as that number; a color that no error was reported for is one of those. The
    vendor has been given the other lights, in order, without their alpha. -/
theorem panel_follows (hgamma : Correction applyGamma) (hmax : maxBrightness ≤ 99999) :
    ∃ scale, Scale maxBrightness scale ∧
      ∀ (p q : Panel) (calls : List LightCall),
        (∀ call ∈ calls, Readable maxBrightness call.env) →
        exec (step applyGamma) p calls = some q →
        q.vendor = p.vendor ++ calls.flatMap forwarded ∧
        (∀ call ∈ calls, call.setLight = .lightsSetLightBacklight →
          setLightBacklight call.env = 0 → writtenColor call = some call.state.color) ∧
        match (calls.filterMap writtenColor).getLast? with
        | none => q.lcd = p.lcd
        | some color => strtol 10 q.lcd = scale (rgbToBrightness color) ∧ q.lcd.length < 20 := by
  have hscale := scaleOf_scale hgamma maxBrightness
  refine ⟨scaleOf applyGamma maxBrightness, hscale, fun p q calls hread h => ?_⟩
  have hrun := follows_run hgamma hmax hread h
  refine ⟨hrun.vendor, fun call _ => writtenColor_of_no_error, ?_⟩
  have hlcd := hrun.lcd
  cases hlast : (calls.filterMap writtenColor).getLast? with
  | none =>
      rw [hlast] at hlcd
      exact hlcd
  | some color =>
      rw [hlast] at hlcd
      simp only at hlcd ⊢
      rw [hlcd]
      refine intLine_read ?_
      -- No color is brighter than white, so five digits do.
      have hfull := hscale.mono _ 255 (rgbToBrightness_le color) (Nat.le_refl 255)
      rw [hscale.full] at hfull
      omega

/-- A panel of 4095 steps, with whatever is on the stack and whatever becomes of the
    write. -/
def panel4095 (lcdBacklight : WriteResult) : PanelEnv :=
  ⟨some (numeral 10 4095 ++ [NL]), [0x39], lcdBacklight, .written⟩

/-- A dim white, white in a write that fails, and a green light of the vendor's. -/
def dimWhite : List LightCall :=
  [⟨.lightsSetLightBacklight, ⟨0xff808080, 0, 0, 0, 0⟩, panel4095 .written⟩,
    ⟨.lightsSetLightBacklight, ⟨0xffffffff, 0, 0, 0, 0⟩, panel4095 (.failed ⟨5, by decide⟩)⟩,
    ⟨.lightsSetLight, ⟨0xff00ff00, 1, 500, 500, 0⟩, panel4095 .written⟩]

/-- With a correction that darkens, the panel is left at the dim white, and the
    vendor gets the green. -/
theorem panel_follows_dimWhite :
    ∃ scale q, Scale 4095 scale ∧ (∀ call ∈ dimWhite, Readable 4095 call.env) ∧
      exec (step fun b => b * b / 255) ⟨[], []⟩ dimWhite = some q ∧
      q.vendor = [⟨0x0000ff00, 1, 500, 500, 0⟩] ∧ q.lcd = cstr "1027\n" ∧
      strtol 10 q.lcd = scale 128 ∧ q.lcd.length < 20 := by
  have hread : ∀ call ∈ dimWhite, Readable 4095 call.env := by
    intro call hcall
    simp only [dimWhite, List.mem_cons, List.not_mem_nil, or_false] at hcall
    rcases hcall with rfl | rfl | rfl
    · exact Or.inl rfl
    · exact Or.inl rfl
    · exact Or.inl rfl
  have hrun : exec (step fun b => b * b / 255) ⟨[], []⟩ dimWhite =
      some ⟨cstr "1027\n", [⟨0x0000ff00, 1, 500, 500, 0⟩]⟩ := by
    decide +kernel
  rcases @panel_follows (fun b => b * b / 255) 4095
    ⟨fun _ _ hbc _ => Nat.div_le_div_right (Nat.mul_le_mul hbc hbc), rfl⟩ (by decide) with
    ⟨scale, hscale, hall⟩
  exact ⟨scale, _, hscale, hread, hrun, rfl, rfl, (hall _ _ dimWhite hread hrun).2.2⟩

end Runs

end Lights

end Hal

end Taoshan
