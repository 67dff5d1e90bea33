import ShapeScene.Description.Kind
import ShapeScene.Text.Search

/-!
# Keywords

A keyword names a kind. English keywords count wherever they occur, even inside a longer word;
French ones count only as whole words, so that they never change how English text is read.
-/

namespace ShapeScene

/-- Where an occurrence of a keyword counts. -/
inductive MatchMode where
  /-- Anywhere in the text. -/
  | substring
  /-- Between characters that are neither letters nor numbers. -/
  | wholeWord
deriving DecidableEq, Repr

/-- A word and the kind it names. -/
structure Keyword (Kind : Type) where
  /-- The word, in lowercase. -/
  word : String
  /-- The kind named. -/
  kind : Kind
  /-- Where an occurrence counts. -/
  mode : MatchMode
deriving DecidableEq, Repr

namespace Keyword

variable {Kind : Type}

/-- Whether the keyword is found in a text. -/
def foundIn (keyword : Keyword Kind) (text : String) : Bool :=
  match keyword.mode with
  | .substring => Text.occursIn keyword.word.toList text.toList
  | .wholeWord => Text.standsAloneIn keyword.word.toList text.toList

/-- The keywords of a table, all with one mode. -/
def ofTable (mode : MatchMode) (table : List (String × Kind)) : List (Keyword Kind) :=
  table.map fun (word, kind) => ⟨word, kind, mode⟩

end Keyword

/-! ## English keywords -/

/-- English words for shapes. -/
def englishShapes : List (String × ShapeKind) :=
  [("cube", .cube), ("box", .cube), ("square", .cube), ("sphere", .sphere), ("ball", .sphere),
    ("round", .sphere), ("cylinder", .cylinder), ("tube", .cylinder), ("pyramid", .pyramid),
    ("torus", .torus), ("donut", .torus), ("cone", .cone), ("plane", .plane), ("flat", .plane)]

/-- English words for colors. -/
def englishColors : List (String × NamedColor) :=
  [("red", .red), ("blue", .blue), ("green", .green), ("yellow", .yellow), ("cyan", .cyan),
    ("magenta", .magenta), ("white", .white), ("black", .black), ("gray", .gray), ("grey", .gray),
    ("orange", .orange), ("purple", .purple), ("pink", .pink), ("brown", .brown), ("gold", .gold),
    ("golden", .gold), ("silver", .silver), ("dark", .black), ("light", .white)]

/-- English words for animations. -/
def englishAnimations : List (String × AnimationKind) :=
  [("rotate", .rotation), ("rotating", .rotation), ("spin", .rotation), ("spinning", .rotation),
    ("pulse", .pulse), ("pulsing", .pulse), ("bounce", .bounce), ("bouncing", .bounce),
    ("float", .float), ("floating", .float), ("orbit", .orbit), ("orbiting", .orbit),
    ("fall", .fall), ("falling", .fall)]

/-- English words for materials. -/
def englishMaterials : List (String × MaterialKind) :=
  [("metallic", .metallic), ("metal", .metallic), ("shiny", .metallic), ("glass", .glass),
    ("transparent", .glass), ("clear", .glass), ("matte", .matte), ("dull", .matte),
    ("rough", .matte)]

/-! ## French keywords -/

/-- French words for shapes. -/
def frenchShapes : List (String × ShapeKind) :=
  [("sphère", .sphere), ("boule", .sphere), ("cylindre", .cylinder), ("tore", .torus),
    ("cône", .cone)]

/-- French words for colors. -/
def frenchColors : List (String × NamedColor) :=
  [("rouge", .red), ("bleu", .blue), ("bleue", .blue), ("vert", .green), ("verte", .green),
    ("jaune", .yellow), ("blanc", .white), ("blanche", .white), ("noir", .black),
    ("noire", .black), ("gris", .gray), ("grise", .gray), ("violet", .purple),
    ("violette", .purple), ("rose", .pink), ("marron", .brown), ("doré", .gold), ("dorée", .gold),
    ("argent", .silver), ("argenté", .silver), ("argentée", .silver)]

/-- French words for animations. -/
def frenchAnimations : List (String × AnimationKind) :=
  [("tourne", .rotation), ("tournant", .rotation), ("pulsant", .pulse), ("rebondit", .bounce),
    ("rebondissant", .bounce), ("flotte", .float), ("flottant", .float), ("tombe", .fall),
    ("tombant", .fall)]

/-- French words for materials. -/
def frenchMaterials : List (String × MaterialKind) :=
  [("métal", .metallic), ("métallique", .metallic), ("brillant", .metallic), ("verre", .glass),
    ("mat", .matte)]

end ShapeScene
