import ShapeScene.Color

/-!
# Kinds of things a description can name

Shapes, colors, animations and materials form closed lists. Each kind has one lowercase name, by
which files and answers refer to it.
-/

namespace ShapeScene

/-- The shapes an object can have. -/
inductive ShapeKind where
  /-- A box with equal sides. -/
  | cube
  /-- A ball. -/
  | sphere
  /-- A round column. -/
  | cylinder
  /-- A four-sided spire. -/
  | pyramid
  /-- A ring. -/
  | torus
  /-- A round spire. -/
  | cone
  /-- A flat square. -/
  | plane
deriving DecidableEq, Repr

/-- The ways a surface can treat light. -/
inductive MaterialKind where
  /-- Dull. -/
  | matte
  /-- Mirroring. -/
  | metallic
  /-- Clear. -/
  | glass
deriving DecidableEq, Repr

/-- The ways an object can move. -/
inductive AnimationKind where
  /-- Turning about its axis. -/
  | rotation
  /-- Growing and shrinking. -/
  | pulse
  /-- Springing up and down. -/
  | bounce
  /-- Hovering. -/
  | float
  /-- Circling about the center. -/
  | orbit
  /-- Sinking. -/
  | fall
deriving DecidableEq, Repr

/-- The colors that have a name. -/
inductive NamedColor where
  | red
  | blue
  | green
  | yellow
  | cyan
  | magenta
  | white
  | black
  | gray
  | orange
  | purple
  | pink
  | brown
  | gold
  | silver
deriving DecidableEq, Repr

/-- The shape's name. -/
def ShapeKind.name : ShapeKind → String
  | cube => "cube"
  | sphere => "sphere"
  | cylinder => "cylinder"
  | pyramid => "pyramid"
  | torus => "torus"
  | cone => "cone"
  | plane => "plane"

/-- Every shape. -/
def ShapeKind.all : List ShapeKind := [cube, sphere, cylinder, pyramid, torus, cone, plane]

/-- The material's name. -/
def MaterialKind.name : MaterialKind → String
  | matte => "matte"
  | metallic => "metallic"
  | glass => "glass"

/-- Every material. -/
def MaterialKind.all : List MaterialKind := [matte, metallic, glass]

/-- Materials in the order in which keywords of several of them are decided. -/
def MaterialKind.precedence : List MaterialKind := [metallic, glass, matte]

/-- The animation's name. -/
def AnimationKind.name : AnimationKind → String
  | rotation => "rotation"
  | pulse => "pulse"
  | bounce => "bounce"
  | float => "float"
  | orbit => "orbit"
  | fall => "fall"

/-- Every animation. -/
def AnimationKind.all : List AnimationKind := [rotation, pulse, bounce, float, orbit, fall]

/-- The color's name. -/
def NamedColor.name : NamedColor → String
  | red => "red"
  | blue => "blue"
  | green => "green"
  | yellow => "yellow"
  | cyan => "cyan"
  | magenta => "magenta"
  | white => "white"
  | black => "black"
  | gray => "gray"
  | orange => "orange"
  | purple => "purple"
  | pink => "pink"
  | brown => "brown"
  | gold => "gold"
  | silver => "silver"

/-- Every named color. -/
def NamedColor.all : List NamedColor :=
  [red, blue, green, yellow, cyan, magenta, white, black, gray, orange, purple, pink, brown, gold,
    silver]

/-- The channels of a named color. -/
def NamedColor.rgb : NamedColor → Rgb
  | red => ⟨1, 0, 0⟩
  | blue => ⟨0, 0, 1⟩
  | green => ⟨0, 1, 0⟩
  | yellow => ⟨1, 1, 0⟩
  | cyan => ⟨0, 1, 1⟩
  | magenta => ⟨1, 0, 1⟩
  | white => ⟨1, 1, 1⟩
  | black => ⟨0, 0, 0⟩
  | gray => ⟨0.5, 0.5, 0.5⟩
  | orange => ⟨1, 0.5, 0⟩
  | purple => ⟨0.5, 0, 0.5⟩
  | pink => ⟨1, 0.5, 0.5⟩
  | brown => ⟨0.6, 0.3, 0⟩
  | gold => ⟨1, 0.84, 0⟩
  | silver => ⟨0.75, 0.75, 0.75⟩

/-- The kind with a given name among a list of kinds. -/
def kindNamed? {Kind : Type} (all : List Kind) (name : Kind → String) (text : String) :
    Option Kind :=
  all.find? fun kind => name kind == text

end ShapeScene
