import ShapeScene.Description.Kind
import ShapeScene.Scene.Record

/-!
# What kinds look like

Each kind that a description can name has fixed parameters for renderers, and every scene has the
same lights, fog and background. Only the camera depends on the objects: it stands farther back
when there are many.
-/

namespace ShapeScene.Catalog

/-- The form of a shape. A pyramid is a cone with four sides. -/
def geometry : ShapeKind → Geometry
  | .cube => .box 1 1 1
  | .sphere => .sphere 0.7 32 32
  | .cylinder => .cylinder 0.5 0.5 2 32
  | .pyramid => .cone 0.7 1.5 4
  | .torus => .torus 0.7 0.3 16 100
  | .cone => .cone 0.7 1.5 32
  | .plane => .plane 2 2

/-- The surface of a material in a color. -/
def material (kind : MaterialKind) (color : Rgb) : Material :=
  match kind with
  | .matte => ⟨color.toHex, 0, 0.8, false, none, .front⟩
  | .metallic => ⟨color.toHex, 1, 0.2, false, none, .front⟩
  | .glass => ⟨color.toHex, 0, 0.1, true, some 0.7, .double⟩

/-- The movement of an animation. -/
def animation : AnimationKind → Animation
  | .rotation => { Animation.of .rotation .y with speed := some 0.01, direction := some 1 }
  | .pulse => { Animation.of .scale .every with amplitude := some 0.2, frequency := some 2 }
  | .bounce => { Animation.of .position .y with amplitude := some 0.5, frequency := some 2 }
  | .float => { Animation.of .position .y with amplitude := some 0.3, frequency := some 0.5 }
  | .orbit => { Animation.of .orbit .y with radius := some 5, speed := some 0.01 }
  | .fall =>
    { Animation.of .position .y with
      direction := some (-1), speed := some 0.05, damping := some 0.98 }

/-- The color behind everything. -/
def background : Rgb := ⟨0.1, 0.1, 0.15⟩

/-- The fog. -/
def fog : Fog := ⟨true, background, 1, 100⟩

/-- The greatest number of objects that the near camera shows. -/
def crowdThreshold : Nat := 5

/-- The point of view for a number of objects. -/
def camera (objectCount : Nat) : Camera :=
  ⟨if crowdThreshold < objectCount then ⟨0, 10, 25⟩ else ⟨0, 5, 15⟩, Vec3.origin, 60⟩

/-- The lights: a main light with shadows, a fill light behind it, and light from everywhere. -/
def lights : List Light :=
  [⟨"light_main", .directional, Rgb.white, 1, some ⟨5, 10, 7⟩, some true,
      some ⟨2048, ⟨-20, 20, 20, -20, 0.5, 50⟩⟩⟩,
    ⟨"light_fill", .directional, ⟨0.8, 0.8, 1⟩, 0.5, some ⟨-5, 3, -7⟩, none, none⟩,
    ⟨"light_ambient", .ambient, Rgb.white, 0.3, none, none, none⟩]

end ShapeScene.Catalog
