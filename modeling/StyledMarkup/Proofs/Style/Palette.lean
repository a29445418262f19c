import Mathlib.Data.Int.Lemmas
import Mathlib.Tactic.Ring
import StyledMarkup.Style.Rgb

/-!
# The nearest entry of the palette

From entry 16 on the palette is a cube of six levels for each component, then a ramp of grays. The
entry for a color is always one of these, and no step of its arithmetic leaves the word it is done
in (`checkedIndex?_eq`). It need not be a nearest one: a component goes to the level below its
place on an even scale, but the levels of the cube are not even, and the same is done on the ramp.

Distances add up over the components. So in the cube the nearest levels can be found one component
at a time (`forall_cube_iff`), on the ramp only the gray at the mean of the components counts
(`squaredDistance_meanStep_le`), and for a gray no entry is nearer than the nearest gray
(`isNearest_gray_iff`). What is left of a component are 256 cases of one number, and with them the
colors that go to a nearest entry are known (`paletteIndex_nearest_iff`).
-/

namespace StyledMarkup
namespace Rgb

/-! ## The colors of the palette -/

/-- The component that a level of the cube stands for. -/
def cubeComponent (level : Nat) : Nat :=
  if level = 0 then 0 else 55 + 40 * level

/-- The components of a step of the ramp. -/
def rampComponent (step : Nat) : Nat :=
  8 + 10 * step

def cubeColor (red green blue : Nat) : Rgb :=
  ofNats (cubeComponent red) (cubeComponent green) (cubeComponent blue)

def rampColor (step : Nat) : Rgb :=
  ofNats (rampComponent step) (rampComponent step) (rampComponent step)

/-- The color of an entry from 16 on. -/
def paletteColor (entry : UInt8) : Rgb :=
  let place := entry.toNat - 16
  if place < 216 then cubeColor (place / 36) (place / 6 % 6) (place % 6)
  else rampColor (place - 216)

theorem paletteColor_cube {entry : UInt8} {red green blue : Nat} (hr : red < 6) (hg : green < 6)
    (hb : blue < 6) (h : entry.toNat = 16 + 36 * red + 6 * green + blue) :
    paletteColor entry = cubeColor red green blue := by
  have hplace : entry.toNat - 16 = 36 * red + 6 * green + blue := by omega
  have hred : (36 * red + 6 * green + blue) / 36 = red := by omega
  have hgreen : (36 * red + 6 * green + blue) / 6 % 6 = green := by omega
  have hblue : (36 * red + 6 * green + blue) % 6 = blue := by omega
  unfold paletteColor
  rw [hplace, if_pos (by omega), hred, hgreen, hblue]

theorem paletteColor_ramp {entry : UInt8} {step : Nat} (h : entry.toNat = 232 + step) :
    paletteColor entry = rampColor step := by
  have hplace : entry.toNat - 16 = 216 + step := by omega
  unfold paletteColor
  rw [hplace, if_neg (by omega), Nat.add_sub_cancel_left]

/-- What holds of all entries holds of the cube and of the ramp. -/
theorem forall_entry_iff {P : Rgb → Prop} :
    (∀ entry : UInt8, 16 ≤ entry → P (paletteColor entry)) ↔
      (∀ red < 6, ∀ green < 6, ∀ blue < 6, P (cubeColor red green blue)) ∧
        ∀ step < 24, P (rampColor step) := by
  constructor
  · refine fun h => ⟨fun red hr green hg blue hb => ?_, fun step hs => ?_⟩
    · have hnat : (UInt8.ofNat (16 + 36 * red + 6 * green + blue)).toNat =
          16 + 36 * red + 6 * green + blue :=
        UInt8.toNat_ofNat_of_lt' (by simp only [UInt8.size]; omega)
      rw [← paletteColor_cube hr hg hb hnat]
      refine h _ (UInt8.le_iff_toNat_le.2 ?_)
      rw [hnat]
      show 16 ≤ _
      omega
    · have hnat : (UInt8.ofNat (232 + step)).toNat = 232 + step :=
        UInt8.toNat_ofNat_of_lt' (by simp only [UInt8.size]; omega)
      rw [← paletteColor_ramp hnat]
      refine h _ (UInt8.le_iff_toNat_le.2 ?_)
      rw [hnat]
      show 16 ≤ _
      omega
  · rintro ⟨hcube, hramp⟩ entry he
    have hlow : 16 ≤ entry.toNat := UInt8.le_iff_toNat_le.1 he
    have hhigh := entry.toNat_lt
    unfold paletteColor
    dsimp only
    split_ifs with h
    · exact hcube _ (by omega) _ (by omega) _ (by omega)
    · exact hramp _ (by omega)

/-! ## Distances -/

/-- The square of the difference of two numbers. -/
def squaredGap (a b : Nat) : Int :=
  ((a : Int) - b) ^ 2

def squaredDistance (color other : Rgb) : Int :=
  squaredGap color.red.toNat other.red.toNat + squaredGap color.green.toNat other.green.toNat +
    squaredGap color.blue.toNat other.blue.toNat

/-- Whether no entry from 16 on is nearer to the color. -/
def IsNearest (color : Rgb) (entry : UInt8) : Prop :=
  ∀ other : UInt8, 16 ≤ other →
    squaredDistance color (paletteColor entry) ≤ squaredDistance color (paletteColor other)

theorem squaredGap_le_iff {a b c : Nat} :
    squaredGap a b ≤ squaredGap a c ↔ ((a : Int) - b).natAbs ≤ ((a : Int) - c).natAbs :=
  Int.natAbs_le_iff_sq_le.symm

theorem squaredDistance_ofNats (color : Rgb) {red green blue : Nat} (hr : red < 256)
    (hg : green < 256) (hb : blue < 256) : squaredDistance color (ofNats red green blue) =
      squaredGap color.red.toNat red + squaredGap color.green.toNat green +
        squaredGap color.blue.toNat blue := by
  unfold squaredDistance ofNats
  rw [UInt8.toNat_ofNat_of_lt' hr, UInt8.toNat_ofNat_of_lt' hg, UInt8.toNat_ofNat_of_lt' hb]

theorem cubeComponent_lt {level : Nat} (h : level < 6) : cubeComponent level < 256 := by
  unfold cubeComponent
  split <;> omega

theorem rampComponent_lt {step : Nat} (h : step < 24) : rampComponent step < 256 := by
  unfold rampComponent
  omega

theorem squaredDistance_cubeColor (color : Rgb) {red green blue : Nat} (hr : red < 6)
    (hg : green < 6) (hb : blue < 6) : squaredDistance color (cubeColor red green blue) =
      squaredGap color.red.toNat (cubeComponent red) +
        squaredGap color.green.toNat (cubeComponent green) +
        squaredGap color.blue.toNat (cubeComponent blue) :=
  squaredDistance_ofNats color (cubeComponent_lt hr) (cubeComponent_lt hg) (cubeComponent_lt hb)

theorem squaredDistance_rampColor (color : Rgb) {step : Nat} (hs : step < 24) :
    squaredDistance color (rampColor step) = squaredGap color.red.toNat (rampComponent step) +
      squaredGap color.green.toNat (rampComponent step) +
      squaredGap color.blue.toNat (rampComponent step) :=
  squaredDistance_ofNats color (rampComponent_lt hs) (rampComponent_lt hs) (rampComponent_lt hs)

/-- No color of the cube is nearer if and only if no level is nearer for any component. -/
theorem forall_cube_iff (color : Rgb) {red green blue : Nat} (hr : red < 6) (hg : green < 6)
    (hb : blue < 6) :
    (∀ r < 6, ∀ g < 6, ∀ b < 6, squaredDistance color (cubeColor red green blue) ≤
        squaredDistance color (cubeColor r g b)) ↔
      (∀ r < 6, squaredGap color.red.toNat (cubeComponent red) ≤
        squaredGap color.red.toNat (cubeComponent r)) ∧
      (∀ g < 6, squaredGap color.green.toNat (cubeComponent green) ≤
        squaredGap color.green.toNat (cubeComponent g)) ∧
      ∀ b < 6, squaredGap color.blue.toNat (cubeComponent blue) ≤
        squaredGap color.blue.toNat (cubeComponent b) := by
  rw [squaredDistance_cubeColor color hr hg hb]
  constructor
  · refine fun h => ⟨fun r hr' => ?_, fun g hg' => ?_, fun b hb' => ?_⟩
    · have := h r hr' green hg blue hb
      rw [squaredDistance_cubeColor color hr' hg hb] at this
      omega
    · have := h red hr g hg' blue hb
      rw [squaredDistance_cubeColor color hr hg' hb] at this
      omega
    · have := h red hr green hg b hb'
      rw [squaredDistance_cubeColor color hr hg hb'] at this
      omega
  · rintro ⟨hred, hgreen, hblue⟩ r hr' g hg' b hb'
    rw [squaredDistance_cubeColor color hr' hg' hb']
    have := hred r hr'
    have := hgreen g hg'
    have := hblue b hb'
    omega

/-- The step of the ramp whose gray is nearest to the mean of three components of that sum. Three
times a gray is 24, 54 and so on, and each step reaches down to 15 below it. -/
def stepOfSum (sum : Nat) : Nat :=
  min 23 ((sum - 9) / 30)

def meanStep (color : Rgb) : Nat :=
  stepOfSum (color.red.toNat + color.green.toNat + color.blue.toNat)

theorem meanStep_lt (color : Rgb) : color.meanStep < 24 :=
  Nat.lt_succ_of_le (Nat.min_le_left _ _)

/-- No gray of the ramp is nearer than the one at the mean of the components. -/
theorem squaredDistance_meanStep_le (color : Rgb) {step : Nat} (hs : step < 24) :
    squaredDistance color (rampColor color.meanStep) ≤ squaredDistance color (rampColor step) := by
  have hmean : color.meanStep =
      min 23 ((color.red.toNat + color.green.toNat + color.blue.toNat - 9) / 30) := rfl
  rw [squaredDistance_rampColor color hs, squaredDistance_rampColor color color.meanStep_lt]
  generalize color.meanStep = mean at hmean ⊢
  generalize color.red.toNat = r, color.green.toNat = g, color.blue.toNat = b at hmean ⊢
  -- The sign of the difference is that of two factors: on which side of the mean the step lies,
  -- and whether the sum of the components is below or above the middle of the two grays.
  have hfactors : squaredGap r (rampComponent step) + squaredGap g (rampComponent step) +
      squaredGap b (rampComponent step) - (squaredGap r (rampComponent mean) +
        squaredGap g (rampComponent mean) + squaredGap b (rampComponent mean)) =
      10 * (((step : Int) - mean) * (48 + 30 * (mean + step) - 2 * (r + g + b))) := by
    unfold squaredGap rampComponent
    push_cast
    ring
  have hsign : 0 ≤ ((step : Int) - mean) * (48 + 30 * (mean + step) - 2 * (r + g + b)) := by
    rcases lt_trichotomy step mean with h | h | h
    · exact mul_nonneg_of_nonpos_of_nonpos (by omega) (by omega)
    · rw [h, sub_self, zero_mul]
    · exact mul_nonneg (by omega) (by omega)
  omega

/-- Of the ramp only the gray at the mean of the components counts. -/
theorem isNearest_iff (color : Rgb) (entry : UInt8) : color.IsNearest entry ↔
    (∀ red < 6, ∀ green < 6, ∀ blue < 6, squaredDistance color (paletteColor entry) ≤
      squaredDistance color (cubeColor red green blue)) ∧
    squaredDistance color (paletteColor entry) ≤
      squaredDistance color (rampColor color.meanStep) :=
  calc color.IsNearest entry
    _ ↔ _ := forall_entry_iff (P := fun other =>
        squaredDistance color (paletteColor entry) ≤ squaredDistance color other)
    _ ↔ _ := and_congr_right' ⟨fun hramp => hramp _ color.meanStep_lt,
        fun hmean _ hs => hmean.trans (color.squaredDistance_meanStep_le hs)⟩

/-! ## The arithmetic -/

theorem toNat_cubeLevel (component : UInt8) :
    (cubeLevel component).toNat = component.toNat * 5 / 255 := by
  have h := component.toNat_lt
  have hproduct : component.toNat * 5 % 65536 = component.toNat * 5 := Nat.mod_eq_of_lt (by omega)
  unfold cubeLevel
  simp only [UInt16.toNat_toUInt8, UInt16.toNat_div, UInt16.toNat_mul, UInt8.toNat_toUInt16,
    UInt16.reduceToNat, Nat.reducePow, hproduct]
  omega

/-- A number that a word of so many bits holds. -/
def held? (bits n : Nat) : Option Nat :=
  if n < 2 ^ bits then some n else none

/-- The difference of two numbers, if it is not below zero. -/
def minus? (a b : Nat) : Option Nat :=
  if b ≤ a then some (a - b) else none

/-- The level of a component, if all its arithmetic stays in words of 16 and of 8 bits. -/
def checkedLevel? (component : Nat) : Option Nat := do
  let product ← held? 16 (component * 5)
  held? 8 (product / 255)

/-- The entry for a color, if all its arithmetic stays in words of 16 and of 8 bits. -/
def checkedIndex? (color : Rgb) : Option Nat :=
  if color.red = color.green ∧ color.green = color.blue then
    if color.red.toNat ≤ 7 then some 16
    else if 249 ≤ color.red.toNat then some 231
    else do
      let offset ← minus? color.red.toNat 8
      let product ← held? 16 (offset * 24)
      let step ← held? 8 (product / 247)
      held? 8 (232 + step)
  else do
    let red ← checkedLevel? color.red.toNat
    let green ← checkedLevel? color.green.toNat
    let blue ← checkedLevel? color.blue.toNat
    let planes ← held? 8 (36 * red)
    let plane ← held? 8 (16 + planes)
    let rows ← held? 8 (6 * green)
    let row ← held? 8 (plane + rows)
    held? 8 (row + blue)

theorem held?_of_lt {bits n : Nat} (h : n < 2 ^ bits) : held? bits n = some n :=
  if_pos h

theorem minus?_of_le {a b : Nat} (h : b ≤ a) : minus? a b = some (a - b) :=
  if_pos h

theorem checkedLevel?_eq {component : Nat} (h : component < 256) :
    checkedLevel? component = some (component * 5 / 255) := by
  unfold checkedLevel?
  rw [held?_of_lt (by omega), Option.bind_eq_bind, Option.bind_some, held?_of_lt (by omega)]

theorem toNat_paletteIndex_of_gray {color : Rgb}
    (h : color.red = color.green ∧ color.green = color.blue) :
    color.paletteIndex.toNat = if color.red.toNat ≤ 7 then 16
      else if 249 ≤ color.red.toNat then 231
      else 232 + (color.red.toNat - 8) * 24 / 247 := by
  have hlt := color.red.toNat_lt
  have hlow : color.red ≤ 7 ↔ color.red.toNat ≤ 7 := UInt8.le_iff_toNat_le
  have hhigh : 249 ≤ color.red ↔ 249 ≤ color.red.toNat := UInt8.le_iff_toNat_le
  unfold paletteIndex
  simp only [if_pos h, hlow, hhigh]
  split_ifs with h7 h249
  · rfl
  · rfl
  · have hoffset : (color.red.toUInt16 - 8).toNat = color.red.toNat - 8 := by
      rw [UInt16.toNat_sub_of_le]
      · rfl
      · rw [UInt16.le_iff_toNat_le, UInt8.toNat_toUInt16]
        show 8 ≤ _
        omega
    have hproduct : (color.red.toNat - 8) * 24 % 65536 = (color.red.toNat - 8) * 24 :=
      Nat.mod_eq_of_lt (by omega)
    simp only [grayBase, UInt8.toNat_add, UInt16.toNat_toUInt8, UInt16.toNat_div, UInt16.toNat_mul,
      hoffset, UInt8.reduceToNat, UInt16.reduceToNat, Nat.reducePow, hproduct]
    omega

theorem toNat_paletteIndex_of_not_gray {color : Rgb}
    (h : ¬ (color.red = color.green ∧ color.green = color.blue)) :
    color.paletteIndex.toNat = 16 + 36 * (color.red.toNat * 5 / 255) +
      6 * (color.green.toNat * 5 / 255) + color.blue.toNat * 5 / 255 := by
  have hr := color.red.toNat_lt
  have hg := color.green.toNat_lt
  have hb := color.blue.toNat_lt
  unfold paletteIndex cubeBase
  simp only [if_neg h, UInt8.toNat_add, UInt8.toNat_mul, toNat_cubeLevel, UInt8.reduceToNat]
  omega

theorem le_paletteIndex (color : Rgb) : 16 ≤ color.paletteIndex := by
  rw [UInt8.le_iff_toNat_le]
  show 16 ≤ _
  by_cases h : color.red = color.green ∧ color.green = color.blue
  · rw [toNat_paletteIndex_of_gray h]
    split_ifs <;> omega
  · rw [toNat_paletteIndex_of_not_gray h]
    omega

/-- No operation on the way to the entry of a color leaves its word. -/
theorem checkedIndex?_eq (color : Rgb) : checkedIndex? color = some color.paletteIndex.toNat := by
  have hr := color.red.toNat_lt
  have hg := color.green.toNat_lt
  have hb := color.blue.toNat_lt
  unfold checkedIndex?
  by_cases h : color.red = color.green ∧ color.green = color.blue
  · rw [if_pos h, toNat_paletteIndex_of_gray h]
    split_ifs with h7 h249
    · rfl
    · rfl
    · simp only [Option.bind_eq_bind]
      rw [minus?_of_le (by omega), Option.bind_some, held?_of_lt (by omega), Option.bind_some,
        held?_of_lt (by omega), Option.bind_some, held?_of_lt (by omega)]
  · rw [if_neg h, toNat_paletteIndex_of_not_gray h]
    simp only [Option.bind_eq_bind, checkedLevel?_eq hr, checkedLevel?_eq hg, checkedLevel?_eq hb,
      Option.bind_some]
    rw [held?_of_lt (by omega), Option.bind_some, held?_of_lt (by omega), Option.bind_some,
      held?_of_lt (by omega), Option.bind_some, held?_of_lt (by omega), Option.bind_some,
      held?_of_lt (by omega)]

/-! ## Where the entry is nearest -/

/-- The component that the entry for a gray stands for. -/
def grayComponent (component : Nat) : Nat :=
  if component ≤ 7 then 0
  else if 249 ≤ component then 255
  else rampComponent ((component - 8) * 24 / 247)

/-- The stretches of components that go to a nearest level of the cube. -/
def settledLevels : List (Nat × Nat) :=
  [(0, 47), (51, 101), (115, 152), (155, 195), (204, 235), (255, 255)]

/-- The stretches of components whose gray goes to a nearest gray, of the cube or of the ramp. -/
def settledGrays : List (Nat × Nat) :=
  [(0, 4), (8, 13), (19, 23), (29, 33), (39, 43), (50, 53), (60, 63), (70, 73), (81, 83), (91, 91),
   (101, 103), (111, 113), (122, 123), (142, 143), (153, 153), (163, 163), (183, 183), (245, 246),
   (249, 255)]

/-- Whether the number lies in one of the stretches, ends included. -/
def LiesIn (stretches : List (Nat × Nat)) (n : Nat) : Prop :=
  ∃ stretch ∈ stretches, stretch.1 ≤ n ∧ n ≤ stretch.2

instance (stretches : List (Nat × Nat)) (n : Nat) : Decidable (LiesIn stretches n) :=
  List.decidableBEx _ stretches

theorem level_nearest_iff {component : Nat} (h : component < 256) :
    (∀ level < 6, squaredGap component (cubeComponent (component * 5 / 255)) ≤
        squaredGap component (cubeComponent level)) ↔ LiesIn settledLevels component := by
  have hall : ∀ c : Nat, c < 256 →
      ((∀ level < 6, ((c : Int) - cubeComponent (c * 5 / 255)).natAbs ≤
        ((c : Int) - cubeComponent level).natAbs) ↔ LiesIn settledLevels c) := by
    decide +kernel
  simp only [squaredGap_le_iff]
  exact hall component h

theorem gray_nearest_iff {component : Nat} (h : component < 256) :
    ((∀ level < 6, squaredGap component (grayComponent component) ≤
        squaredGap component (cubeComponent level)) ∧
      squaredGap component (grayComponent component) ≤
        squaredGap component (rampComponent (stepOfSum (3 * component)))) ↔
      LiesIn settledGrays component := by
  have hall : ∀ c : Nat, c < 256 →
      (((∀ level < 6, ((c : Int) - grayComponent c).natAbs ≤
          ((c : Int) - cubeComponent level).natAbs) ∧
        ((c : Int) - grayComponent c).natAbs ≤
          ((c : Int) - rampComponent (stepOfSum (3 * c))).natAbs) ↔ LiesIn settledGrays c) := by
    decide +kernel
  simp only [squaredGap_le_iff]
  exact hall component h

theorem grayComponent_lt {component : Nat} (h : component < 256) :
    grayComponent component < 256 := by
  unfold grayComponent rampComponent
  split_ifs <;> omega

theorem paletteColor_of_gray {color : Rgb}
    (h : color.red = color.green ∧ color.green = color.blue) :
    paletteColor color.paletteIndex = ofNats (grayComponent color.red.toNat)
      (grayComponent color.red.toNat) (grayComponent color.red.toNat) := by
  have hlt := color.red.toNat_lt
  have hindex := toNat_paletteIndex_of_gray h
  unfold grayComponent
  split_ifs at hindex ⊢ with h7 h249
  · have hzero : 0 < 6 := by omega
    exact paletteColor_cube hzero hzero hzero hindex
  · have hfive : 5 < 6 := by omega
    exact paletteColor_cube hfive hfive hfive hindex
  · exact paletteColor_ramp hindex

theorem paletteColor_of_not_gray {color : Rgb}
    (h : ¬ (color.red = color.green ∧ color.green = color.blue)) :
    paletteColor color.paletteIndex = cubeColor (color.red.toNat * 5 / 255)
      (color.green.toNat * 5 / 255) (color.blue.toNat * 5 / 255) := by
  have hr := color.red.toNat_lt
  have hg := color.green.toNat_lt
  have hb := color.blue.toNat_lt
  exact paletteColor_cube (by omega) (by omega) (by omega) (toNat_paletteIndex_of_not_gray h)

/-- For a gray no entry is nearer if and only if no gray is. -/
theorem isNearest_gray_iff {color : Rgb}
    (h : color.red = color.green ∧ color.green = color.blue) :
    color.IsNearest color.paletteIndex ↔ LiesIn settledGrays color.red.toNat := by
  have hlt := color.red.toNat_lt
  have hg := grayComponent_lt hlt
  have hgreen : color.green.toNat = color.red.toNat := by rw [h.1]
  have hblue : color.blue.toNat = color.red.toNat := by rw [← h.2, hgreen]
  have hmean : color.meanStep = stepOfSum (3 * color.red.toNat) := by
    rw [meanStep, hgreen, hblue, show 3 * color.red.toNat = color.red.toNat + color.red.toNat +
      color.red.toNat by omega]
  rw [isNearest_iff, paletteColor_of_gray h, squaredDistance_ofNats color hg hg hg,
    ← gray_nearest_iff hlt]
  refine and_congr ⟨fun hcube level hl => ?_, fun hlevel r hr g hg b hb => ?_⟩ ?_
  · have := hcube level hl level hl level hl
    rw [squaredDistance_cubeColor color hl hl hl, hgreen, hblue] at this
    omega
  · rw [squaredDistance_cubeColor color hr hg hb, hgreen, hblue]
    have := hlevel r hr
    have := hlevel g hg
    have := hlevel b hb
    omega
  · rw [squaredDistance_rampColor color color.meanStep_lt, hgreen, hblue, hmean]
    omega

/-- Whether the color goes to a nearest entry: a gray lies in a settled stretch, and of any other
color each component does, and the gray at their mean is not nearer than the color of the cube. -/
def IsSettled (color : Rgb) : Prop :=
  if color.red = color.green ∧ color.green = color.blue then LiesIn settledGrays color.red.toNat
  else (LiesIn settledLevels color.red.toNat ∧ LiesIn settledLevels color.green.toNat ∧
      LiesIn settledLevels color.blue.toNat) ∧
    squaredDistance color (paletteColor color.paletteIndex) ≤
      squaredDistance color (rampColor color.meanStep)

/-- The entry for a color is one of the cube or of the ramp, and none of the arithmetic on the way
to it leaves its word. It is a nearest entry for the settled colors, and for no other color. -/
theorem paletteIndex_nearest_iff (color : Rgb) :
    (16 ≤ color.paletteIndex ∧ color.paletteIndex ≤ 255) ∧
    checkedIndex? color = some color.paletteIndex.toNat ∧
    (color.IsNearest color.paletteIndex ↔ color.IsSettled) := by
  have hr := color.red.toNat_lt
  have hg := color.green.toNat_lt
  have hb := color.blue.toNat_lt
  have hmost : color.paletteIndex ≤ 255 :=
    UInt8.le_iff_toNat_le.2 (Nat.le_of_lt_succ color.paletteIndex.toNat_lt)
  refine ⟨⟨color.le_paletteIndex, hmost⟩, checkedIndex?_eq color, ?_⟩
  unfold IsSettled
  split_ifs with h
  · exact isNearest_gray_iff h
  · rw [isNearest_iff, paletteColor_of_not_gray h,
      forall_cube_iff color (by omega) (by omega) (by omega), level_nearest_iff hr,
      level_nearest_iff hg, level_nearest_iff hb]

/-- One less than pure red goes to the level below, though pure red is an entry. -/
theorem paletteIndex_misses_pure_red :
    let color : Rgb := ⟨254, 0, 0⟩
    color.paletteIndex = 160 ∧
      squaredDistance color (paletteColor 160) = 1521 ∧
      squaredDistance color (paletteColor 196) = 1 ∧
      ¬ color.IsNearest color.paletteIndex := by
  intro color
  refine ⟨by decide, by decide, by decide, fun h => ?_⟩
  have hnear : squaredDistance color (paletteColor color.paletteIndex) ≤
      squaredDistance color (paletteColor 196) := h 196 (by decide)
  exact absurd hnear (by decide)

end Rgb
end StyledMarkup
