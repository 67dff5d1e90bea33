import ShapeScene.Description.Keyword
import ShapeScene.Text.Lowercase

/-!
# Vocabularies

A vocabulary holds one ordered table of keywords for each class of words. A look-up takes the
first keyword of its table that is found in the text, so earlier keywords win; among materials the
precedence of the kinds decides instead.
-/

namespace ShapeScene

/-- The classes of words a vocabulary knows. -/
inductive WordClass where
  /-- Words for shapes. -/
  | shape
  /-- Words for colors. -/
  | color
  /-- Words for animations. -/
  | animation
  /-- Words for materials. -/
  | material
deriving DecidableEq, Repr

/-- The keyword tables by which a description is read. -/
structure Vocabulary where
  /-- Keywords for shapes. -/
  shapes : List (Keyword ShapeKind)
  /-- Keywords for colors. -/
  colors : List (Keyword NamedColor)
  /-- Keywords for animations. -/
  animations : List (Keyword AnimationKind)
  /-- Keywords for materials. -/
  materials : List (Keyword MaterialKind)
deriving DecidableEq, Repr

namespace Vocabulary

/-- The vocabulary without keywords. -/
def empty : Vocabulary := ⟨[], [], [], []⟩

/-- Two vocabularies, the keywords of the first before those of the second. -/
def append (first second : Vocabulary) : Vocabulary where
  shapes := first.shapes ++ second.shapes
  colors := first.colors ++ second.colors
  animations := first.animations ++ second.animations
  materials := first.materials ++ second.materials

/-- The English keywords. -/
def english : Vocabulary where
  shapes := Keyword.ofTable .substring englishShapes
  colors := Keyword.ofTable .substring englishColors
  animations := Keyword.ofTable .substring englishAnimations
  materials := Keyword.ofTable .substring englishMaterials

/-- The French keywords. -/
def french : Vocabulary where
  shapes := Keyword.ofTable .wholeWord frenchShapes
  colors := Keyword.ofTable .wholeWord frenchColors
  animations := Keyword.ofTable .wholeWord frenchAnimations
  materials := Keyword.ofTable .wholeWord frenchMaterials

/-- The English keywords and after them the French ones. -/
def standard : Vocabulary := english.append french

/-- A keyword added by its user: in lowercase, and found anywhere. -/
def registered {Kind : Type} (word : String) (kind : Kind) : Keyword Kind :=
  ⟨Text.lowercase word, kind, .substring⟩

/-- The vocabulary with one more word for a shape. -/
def registerShape (vocabulary : Vocabulary) (word : String) (kind : ShapeKind) : Vocabulary :=
  { vocabulary with shapes := vocabulary.shapes ++ [registered word kind] }

/-- The vocabulary with one more word for a color. -/
def registerColor (vocabulary : Vocabulary) (word : String) (kind : NamedColor) : Vocabulary :=
  { vocabulary with colors := vocabulary.colors ++ [registered word kind] }

/-- The vocabulary with one more word for an animation. -/
def registerAnimation (vocabulary : Vocabulary) (word : String) (kind : AnimationKind) :
    Vocabulary :=
  { vocabulary with animations := vocabulary.animations ++ [registered word kind] }

/-- The vocabulary with one more word for a material. -/
def registerMaterial (vocabulary : Vocabulary) (word : String) (kind : MaterialKind) :
    Vocabulary :=
  { vocabulary with materials := vocabulary.materials ++ [registered word kind] }

/-- The first keyword of a table that is found in the lowercase form of a text. -/
def firstFound? {Kind : Type} (table : List (Keyword Kind)) (text : String) :
    Option (Keyword Kind) :=
  let lowered := Text.lowercase text
  table.find? fun keyword => keyword.foundIn lowered

/-- The first shape keyword found in a text. -/
def shapeIn? (vocabulary : Vocabulary) (text : String) : Option (Keyword ShapeKind) :=
  firstFound? vocabulary.shapes text

/-- The first color keyword found in a text. -/
def colorIn? (vocabulary : Vocabulary) (text : String) : Option (Keyword NamedColor) :=
  firstFound? vocabulary.colors text

/-- The first animation keyword found in a text. -/
def animationIn? (vocabulary : Vocabulary) (text : String) : Option (Keyword AnimationKind) :=
  firstFound? vocabulary.animations text

/-- The material of highest precedence of which a keyword is found in a text. -/
def materialIn? (vocabulary : Vocabulary) (text : String) : Option MaterialKind :=
  let lowered := Text.lowercase text
  MaterialKind.precedence.find? fun kind =>
    vocabulary.materials.any fun keyword => keyword.kind == kind && keyword.foundIn lowered

/-- Whether a table has a given word. -/
def hasWord {Kind : Type} (table : List (Keyword Kind)) (word : String) : Bool :=
  table.any fun keyword => keyword.word == word

/-- The class of a word that is itself a keyword. -/
def classOf? (vocabulary : Vocabulary) (word : String) : Option WordClass :=
  let lowered := Text.lowercase word
  if hasWord vocabulary.shapes lowered then some .shape
  else if hasWord vocabulary.colors lowered then some .color
  else if hasWord vocabulary.animations lowered then some .animation
  else if hasWord vocabulary.materials lowered then some .material
  else none

/-- All words, table after table. -/
def words (vocabulary : Vocabulary) : List String :=
  vocabulary.shapes.map (·.word) ++ vocabulary.colors.map (·.word) ++
    vocabulary.animations.map (·.word) ++ vocabulary.materials.map (·.word)

end Vocabulary

end ShapeScene
