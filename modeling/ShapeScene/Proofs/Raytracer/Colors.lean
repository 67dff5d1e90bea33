import ShapeScene.Proofs.Color
import ShapeScene.Proofs.Number.Defined
import ShapeScene.Proofs.Number.Rounding
import ShapeScene.Proofs.Raytracer.Grammar
import ShapeScene.Proofs.Scene.Drawing

/-!
# Colors on their way to the raytracer

An object carries its color in the short form, and the raytracer is told the color that is read back
from there. Every channel has a level that is a byte, also one that is out of range or no number, so
that the short form of any color is one that is read. What is read has the same levels: the color of
an object is rounded once, when it is written, and stays as it is from then on.
-/

namespace ShapeScene

namespace Binary64

/-! ## Numbers between zero and one -/

/-- An infinity is below zero or above one. -/
theorem isFinite_of_within {x : Binary64} (defined : x.isNaN = false)
    (notBelow : x.isBelow 0 = false) (notAbove : (1 : Binary64).isBelow x = false) :
    x.isFinite = true := by
  have zero : (0 : Binary64).isNaN = false ∧ (0 : Binary64).isInfinite = false := by decide
  have one : (1 : Binary64).isNaN = false ∧ (1 : Binary64).isInfinite = false := by decide
  have bounded : x.isInfinite = false := by
    by_contra infinite
    rw [Bool.not_eq_false] at infinite
    have positive : x.isNegative = false := by
      simpa [isBelow, defined, infinite, zero.1, zero.2] using notBelow
    have negative : x.isNegative = true := by
      simpa [isBelow, defined, infinite, one.1, one.2] using notAbove
    rw [positive] at negative
    cases negative
  have biased : x.biasedExponent < 2 ^ 11 := Nat.mod_lt _ (by decide)
  simp only [isNaN, Bool.and_eq_false_iff, beq_eq_false_iff_ne, bne_eq_false_iff_eq] at defined
  simp only [isInfinite, Bool.and_eq_false_iff, beq_eq_false_iff_ne] at bounded
  rw [isFinite, decide_eq_true_eq]
  omega

/-- A positive number that is not above one is a fraction of one. -/
theorem ratio_le_of_not_above {x : Binary64} (finite : x.isFinite = true)
    (positive : x.isNegative = false) (notAbove : (1 : Binary64).isBelow x = false) :
    x.ratio.1 ≤ x.ratio.2 := by
  have one : (1 : Binary64).isNaN = false ∧ (1 : Binary64).isInfinite = false ∧
      (1 : Binary64).isNegative = false ∧ (1 : Binary64).significand = 2 ^ 52 ∧
        (1 : Binary64).exponent = -52 := by decide
  obtain ⟨least, -⟩ := exponent_bounds finite
  simp only [isBelow, one, isNaN_of_isFinite finite, isInfinite_of_isFinite finite, positive,
    signedUnitsAt, unitsAt, Nat.pow_eq, Bool.or_self, Bool.false_eq_true, if_false,
    decide_eq_false_iff_not, Int.not_lt, Int.ofNat_le] at notAbove
  simp only [ratio, Nat.pow_eq]
  generalize x.exponent = place at *
  generalize lowest : min (-52) place = low at notAbove
  -- The comparison is made in units of the lower of the two last places.
  refine Nat.le_of_mul_le_mul_right ?_ (Nat.two_pow_pos (-low - (-place).toNat).toNat)
  calc x.significand * 2 ^ place.toNat * 2 ^ (-low - (-place).toNat).toNat
      = x.significand * 2 ^ (place - low).toNat := by
        rw [Nat.mul_assoc, ← Nat.pow_add]
        congr 2
        omega
    _ ≤ 2 ^ 52 * 2 ^ (-52 - low).toNat := notAbove
    _ = 2 ^ (-place).toNat * 2 ^ (-low - (-place).toNat).toNat := by
        rw [← Nat.pow_add, ← Nat.pow_add]
        congr 1
        omega

end Binary64

namespace Rgb

open Text

/-! ## Levels -/

/-- The level of every channel is a byte. -/
theorem level_lt (channel : Binary64) : level channel < 256 := by
  rw [level, Binary64.clamp]
  split
  · decide +kernel
  · split
    · decide +kernel
    rename_i notBelow notAbove
    rw [Bool.not_eq_true] at notBelow notAbove
    change (Binary64.mul channel 255).roundToNat < 256
    cases defined : channel.isNaN with
    | true =>
      simp only [Binary64.mul, defined, Bool.true_or, if_true]
      decide
    | false =>
      have finite := Binary64.isFinite_of_within defined notBelow notAbove
      have full : (255 : Binary64).IsWhole false 255 := by
        have whole := Binary64.isWhole_ofRatio false (show 255 < 2 ^ 53 by decide) 0
        rwa [Nat.pow_zero, Nat.mul_one] at whole
      obtain ⟨scale, ratio⟩ := full.ratio
      simp only [Binary64.mul, defined, Binary64.isNaN_of_isFinite full.finite,
        Binary64.isInfinite_of_isFinite finite, Binary64.isInfinite_of_isFinite full.finite,
        Bool.or_self, Bool.false_eq_true, if_false, full.sign, ratio, Bool.bne_false]
      cases positive : channel.isNegative with
      | true =>
        rw [Binary64.roundToNat_ofRatio_negative]
        decide
      | false =>
        have part := Binary64.ratio_le_of_not_above finite positive notAbove
        have unit : 0 < channel.ratio.2 * 2 ^ scale :=
          Nat.mul_pos (Nat.two_pow_pos _) (Nat.two_pow_pos scale)
        apply Nat.lt_succ_of_le
        apply Binary64.roundToNat_ofRatio_le unit (by decide) (by decide)
        rw [Nat.mul_left_comm]
        exact Nat.mul_le_mul_left 255 (Nat.mul_le_mul_right _ part)

/-- A color with every channel rounded to a level. -/
def rounded (color : Rgb) : Rgb :=
  ⟨ofLevel (level color.red), ofLevel (level color.green), ofLevel (level color.blue)⟩

/-- Rounding a color changes no level. -/
theorem toHex_rounded (color : Rgb) : color.rounded.toHex = color.toHex := by
  simp only [toHex, rounded, level_ofLevel (level_lt _)]

/-- The digits of written colors: decimal ones, and letters in lowercase. -/
def lowerHexDigits : List Char := "0123456789abcdef".toList

/-- A number sign and six hexadecimal digits in lowercase. -/
def IsWritten (text : String) : Prop :=
  ∃ digits, text.toList = '#' :: digits ∧ digits.length = 6 ∧
    ∀ digit ∈ digits, digit ∈ lowerHexDigits

/-- The digits of a byte. -/
theorem levelDigits_mem {value : Nat} (small : value < 256) :
    ∀ digit ∈ levelDigits value, digit ∈ lowerHexDigits := by
  have checked : ∀ value < 16, hexDigit value ∈ lowerHexDigits := by decide +kernel
  intro digit member
  rcases List.mem_cons.mp member with rfl | last
  · exact checked (value / 16) (by omega)
  · rw [List.mem_singleton.mp last]
    exact checked (value % 16) (by omega)

/-- The short form of any color has its form. -/
theorem isWritten_toHex (color : Rgb) : IsWritten color.toHex := by
  refine ⟨_, String.toList_ofList, rfl, ?_⟩
  intro digit member
  simp only [List.mem_append] at member
  rcases member with (red | green) | blue
  · exact levelDigits_mem (level_lt _) digit red
  · exact levelDigits_mem (level_lt _) digit green
  · exact levelDigits_mem (level_lt _) digit blue

/-- A byte is read from its digits. -/
theorem readLevel?_levelDigits {value : Nat} (small : value < 256) :
    readLevel? (hexDigit (value / 16)) (hexDigit (value % 16)) = some value := by
  have checked : ∀ value < 256,
      readLevel? (hexDigit (value / 16)) (hexDigit (value % 16)) = some value := by decide +kernel
  exact checked value small

/-- What is written for a color is read as the color rounded. -/
theorem ofHex?_toHex (color : Rgb) : ofHex? color.toHex = some color.rounded := by
  have red := readLevel?_levelDigits (level_lt color.red)
  have green := readLevel?_levelDigits (level_lt color.green)
  have blue := readLevel?_levelDigits (level_lt color.blue)
  have form : dropMark color.toHex.toList =
      levelDigits (level color.red) ++ levelDigits (level color.green) ++
        levelDigits (level color.blue) := by
    rw [toHex, String.toList_ofList]
    rfl
  simp only [levelDigits, List.cons_append, List.nil_append] at form
  rw [ofHex?_eq, form]
  simp only [red, green, blue, Option.bind_eq_bind, Option.bind_some, rounded]

end Rgb

namespace Raytracer

/-! ## Colors in commands -/

/-- The number that digits write, with a point among them or none. -/
def readUnsigned? (negative : Bool) (chars : List Char) : Option Binary64 :=
  match Text.splitAt '.' chars with
  | [whole] =>
    if whole.all Text.isDigit && !whole.isEmpty then
      some (Binary64.ofDecimal negative (Text.decimalValue whole) 0)
    else none
  | [whole, places] =>
    if (whole ++ places).all Text.isDigit && !whole.isEmpty then
      some (Binary64.ofDecimal negative (Text.decimalValue (whole ++ places)) (-places.length))
    else none
  | _ => none

/-- The number that digits write behind a sign or without one. -/
def readNumber? : List Char → Option Binary64
  | '-' :: magnitude => readUnsigned? true magnitude
  | magnitude => readUnsigned? false magnitude

/-- The color that a line gives, if it is a line that gives one. -/
def colorOfLine? (line : String) : Option Rgb :=
  match line.toList.splitOn ' ' with
  | [keyword, red, green, blue] =>
    if keyword = "COLOR".toList then do
      some ⟨← readNumber? red, ← readNumber? green, ← readNumber? blue⟩
    else none
  | _ => none

/-- The channel of a level is read back from its text. -/
theorem readNumber?_ofLevel {value : Nat} (small : value < 256) :
    readNumber? (Rgb.ofLevel value).text.toList = some (Rgb.ofLevel value) := by
  have checked : ∀ value < 256, (Rgb.ofLevel value).isFinite = true ∧
      readNumber? (NumberLayout.plain.finiteText (Rgb.ofLevel value)) =
        some (Rgb.ofLevel value) := by decide +kernel
  obtain ⟨finite, read⟩ := checked value small
  rw [Binary64.text, Binary64.isNaN_of_isFinite finite, Binary64.isInfinite_of_isFinite finite]
  simpa only [Bool.false_eq_true, if_false, String.toList_ofList] using read

/-- The words of a line of numbers. -/
theorem splitOn_numberLine {keyword : String} (solid : IsSolid keyword.toList)
    (values : List Binary64) :
    (numberLine keyword values).toList.splitOn ' ' =
      keyword.toList :: values.map (·.text.toList) := by
  rw [numberLine, splitOn_joinWith solid, List.map_map]
  · rfl
  · intro text member
    obtain ⟨value, -, rfl⟩ := List.mem_map.mp member
    exact value.isNumeral_text

/-- A line with another keyword gives no color. -/
theorem colorOfLine?_of_accepts {form : CommandForm} {line : String} (accepts : form.Accepts line)
    (other : form.keyword ≠ "COLOR") : colorOfLine? line = none := by
  obtain ⟨arguments, words, -⟩ := accepts
  rw [colorOfLine?, words]
  split
  · rename_i same
    rw [if_neg]
    rw [← (List.cons.inj same).1, String.toList_inj]
    exact other
  · rfl

/-- Commands with other keywords give no color. -/
theorem filterMap_of_accepts {forms : List CommandForm} {lines : List String}
    (accepts : List.Forall₂ CommandForm.Accepts forms lines)
    (others : ∀ form ∈ forms, form.keyword ≠ "COLOR") : lines.filterMap colorOfLine? = [] := by
  induction accepts with
  | nil => rfl
  | cons first _ ih =>
    obtain ⟨other, others⟩ := List.forall_mem_cons.mp others
    rw [List.filterMap_cons_none (colorOfLine?_of_accepts first other), ih others]

/-- A line for a color in levels gives that color. -/
theorem colorOfLine?_rounded (color : Rgb) :
    colorOfLine? (numberLine "COLOR" color.rounded.toList) = some color.rounded := by
  rw [colorOfLine?, splitOn_numberLine (by decide)]
  simp only [Rgb.toList, Rgb.rounded, List.map_cons, List.map_nil, if_true,
    readNumber?_ofLevel (Rgb.level_lt _), Option.bind_eq_bind, Option.bind_some]

/-- An object has the color of its entity on its surface, and the raytracer is given the color that
is read from there. -/
structure KeepsColor (entity : Entity) (object : SceneObject) : Prop where
  /-- The surface has the short form of the color. -/
  written : object.material.color = entity.color.toHex
  /-- The short form is read as the color rounded. -/
  read : Rgb.ofHex? object.material.color = some entity.color.rounded
  /-- Of the lines of the object one gives a color, and this is the one. -/
  drawn : (objectLines object).filterMap colorOfLine? = [entity.color.rounded]
  /-- Written again it is the color of the surface. -/
  again : entity.color.rounded.toHex = object.material.color

/-- The surface of an object is in the color of its entity. -/
theorem color_material (kind : MaterialKind) (color : Rgb) :
    (Catalog.material kind color).color = color.toHex := by
  cases kind <;> rfl

/-- The lines of an object give the color that is read from its surface and no other. -/
theorem filterMap_objectLines {object : SceneObject} {color : Rgb}
    (read : Rgb.ofHex? object.material.color = some color.rounded) :
    (objectLines object).filterMap colorOfLine? = [color.rounded] := by
  have body := accepts_bodyLines object
    [(halfExtents object.geometry).x * object.scale.x,
      (halfExtents object.geometry).y * object.scale.y,
      (halfExtents object.geometry).z * object.scale.z] rfl
  have noBody := filterMap_of_accepts body <| by
    simp only [List.forall_mem_cons]
    refine ⟨by decide, ?_, by decide, fun _ none => absurd none List.not_mem_nil⟩
    have box : boxForm.keyword ≠ "COLOR" := by decide
    have ellipsoid : ellipsoidForm.keyword ≠ "COLOR" := by decide
    cases object.geometry <;> assumption
  have noRotation := filterMap_of_accepts (accepts_rotationLines object.rotation) <| by
    unfold rotationForms
    split <;> decide
  have noSurface := filterMap_of_accepts (accepts_surfaceLines object.material) <| by
    unfold surfaceForms
    split
    · decide
    · split <;> decide
  simp only [objectLines, List.filterMap_append, noBody, noRotation, noSurface, read,
    Option.getD_some, List.nil_append, List.append_nil, List.filterMap_cons,
    colorOfLine?_rounded, List.filterMap_nil]

/-- The object of an entity keeps its color. -/
theorem keepsColor_ofEntity (id : String) (entity : Entity) :
    KeepsColor entity (SceneObject.ofEntity id entity) := by
  have written : (SceneObject.ofEntity id entity).material.color = entity.color.toHex :=
    color_material entity.material entity.color
  have read : Rgb.ofHex? (SceneObject.ofEntity id entity).material.color =
      some entity.color.rounded := by
    rw [written, Rgb.ofHex?_toHex]
  refine ⟨written, read, filterMap_objectLines read, ?_⟩
  rw [written, Rgb.toHex_rounded]

/-- Whatever the channels of a color are, infinite or not a number among them: its short form is a
number sign and six hexadecimal digits in lowercase, a color is read from it, and the short form of
that color is the same. The objects of a scene have the colors of its entities in this form, one by
one, and each gives the raytracer the color that is read from there, never another one in its
place. -/
theorem assembled_colors_kept :
    (∀ color : Rgb, Rgb.IsWritten color.toHex ∧
      ∃ read, Rgb.ofHex? color.toHex = some read ∧ read.toHex = color.toHex) ∧
    ∀ (entities : List Entity) (options : SceneOptions) (source : IdSource) (created : Moment),
      List.Forall₂ KeepsColor entities
        (SceneRecord.assemble entities options source created).1.scene.objects := by
  constructor
  · intro color
    exact ⟨Rgb.isWritten_toHex color, color.rounded, Rgb.ofHex?_toHex color,
      Rgb.toHex_rounded color⟩
  · intro entities options source created
    rw [SceneRecord.assemble_objects]
    generalize 1 = ahead
    induction entities generalizing ahead with
    | nil => exact .nil
    | cons entity entities ih =>
      rw [SceneRecord.objectsAhead_cons]
      exact .cons (keepsColor_ofEntity _ entity) (ih (ahead + 1))

/-- A color without a number in it is drawn black, not in the color of what cannot be read. -/
example : (⟨.nan, .infinity true, -0⟩ : Rgb).toHex = "#000000" ∧
    (⟨.infinity false, 2, 1⟩ : Rgb).toHex = "#ffffff" := by decide +kernel

end Raytracer

end ShapeScene
