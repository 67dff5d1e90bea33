import ShapeScene.Color
import ShapeScene.Number.Vec3

/-!
# Scene records

The record of a scene is what renderers are given and what files hold: objects with geometry,
material and animation, a light rig, a camera, and the options of the viewer.
-/

namespace ShapeScene

/-- How a viewer treats a scene. -/
structure SceneOptions where
  /-- Whether animations run. -/
  animate : Bool
  /-- Whether the pointer turns the scene. -/
  interactive : Bool
  /-- Whether the scene turns by itself. -/
  autoRotate : Bool
deriving DecidableEq, Repr

namespace SceneOptions

/-- The options of a scene that turns by itself exactly when it is animated. -/
def of (animate interactive : Bool) : SceneOptions := ⟨animate, interactive, animate⟩

end SceneOptions

/-- The form of an object. Segment counts say how finely round forms are cut. -/
inductive Geometry where
  /-- A box. -/
  | box (width height depth : Binary64)
  /-- A ball. -/
  | sphere (radius : Binary64) (widthSegments heightSegments : UInt32)
  /-- A column whose ends may differ. -/
  | cylinder (radiusTop radiusBottom height : Binary64) (radialSegments : UInt32)
  /-- A spire. -/
  | cone (radius height : Binary64) (radialSegments : UInt32)
  /-- A ring. -/
  | torus (radius tube : Binary64) (radialSegments tubularSegments : UInt32)
  /-- A flat rectangle. -/
  | plane (width height : Binary64)
deriving DecidableEq, Repr

/-- Which faces of an object are drawn. -/
inductive Side where
  /-- The outer faces. -/
  | front
  /-- The outer and the inner faces. -/
  | double
deriving DecidableEq, Repr

/-- The surface of an object. -/
structure Material where
  /-- Color in short form. -/
  color : String
  /-- How metallic the surface is. -/
  metalness : Binary64
  /-- How rough the surface is. -/
  roughness : Binary64
  /-- Whether light passes through. -/
  transparent : Bool
  /-- How little light passes through, if that is given. -/
  opacity : Option Binary64
  /-- Which faces are drawn. -/
  side : Side
deriving DecidableEq, Repr

/-- What an animation changes. -/
inductive AnimationChannel where
  /-- The angles. -/
  | rotation
  /-- The size. -/
  | scale
  /-- The place. -/
  | position
  /-- The place on a circle. -/
  | orbit
deriving DecidableEq, Repr

namespace AnimationChannel

/-- The channel's name. -/
def name : AnimationChannel → String
  | rotation => "rotation"
  | scale => "scale"
  | position => "position"
  | orbit => "orbit"

/-- Every channel. -/
def all : List AnimationChannel := [rotation, scale, position, orbit]

end AnimationChannel

/-- The axis along which an animation acts. -/
inductive Axis where
  /-- The first axis. -/
  | x
  /-- The second axis. -/
  | y
  /-- The third axis. -/
  | z
  /-- Every axis. -/
  | every
deriving DecidableEq, Repr

namespace Axis

/-- The axis's name. -/
def name : Axis → String
  | x => "x"
  | y => "y"
  | z => "z"
  | every => "all"

/-- Every axis. -/
def all : List Axis := [x, y, z, every]

end Axis

/-- How an object moves. -/
structure Animation where
  /-- What changes. -/
  channel : AnimationChannel
  /-- Along which axis. -/
  axis : Axis
  /-- Change per step. -/
  speed : Option Binary64
  /-- Sense of the change. -/
  direction : Option Int8
  /-- Greatest change. -/
  amplitude : Option Binary64
  /-- Swings per time. -/
  frequency : Option Binary64
  /-- Radius of a circle. -/
  radius : Option Binary64
  /-- Share of speed that remains after a step. -/
  damping : Option Binary64
deriving DecidableEq, Repr

namespace Animation

/-- An animation without any quantity. -/
def of (channel : AnimationChannel) (axis : Axis) : Animation :=
  ⟨channel, axis, none, none, none, none, none, none⟩

end Animation

/-- An object of a scene. -/
structure SceneObject where
  /-- Identifier. -/
  id : String
  /-- Name. -/
  name : String
  /-- Form. -/
  geometry : Geometry
  /-- Surface. -/
  material : Material
  /-- Place. -/
  position : Vec3
  /-- Euler angles. -/
  rotation : Vec3
  /-- Factors along the axes. -/
  scale : Vec3
  /-- Whether it throws shadows. -/
  castShadow : Bool
  /-- Whether shadows fall on it. -/
  receiveShadow : Bool
  /-- Movement, if there is any. -/
  animation : Option Animation
deriving DecidableEq, Repr

/-- How a light shines. -/
inductive LightKind where
  /-- In one direction. -/
  | directional
  /-- From everywhere. -/
  | ambient
deriving DecidableEq, Repr

/-- The box in which shadows are computed. -/
structure ShadowFrame where
  /-- Left edge. -/
  left : Binary64
  /-- Right edge. -/
  right : Binary64
  /-- Upper edge. -/
  top : Binary64
  /-- Lower edge. -/
  bottom : Binary64
  /-- Nearest distance. -/
  near : Binary64
  /-- Farthest distance. -/
  far : Binary64
deriving DecidableEq, Repr

/-- The shadows of a light. -/
structure Shadow where
  /-- Side of the shadow map in pixels. -/
  mapSize : UInt32
  /-- The box in which they are computed. -/
  frame : ShadowFrame
deriving DecidableEq, Repr

/-- A light. -/
structure Light where
  /-- Identifier. -/
  id : String
  /-- How it shines. -/
  kind : LightKind
  /-- Color. -/
  color : Rgb
  /-- Strength. -/
  intensity : Binary64
  /-- Where it shines from, if from a place. -/
  position : Option Vec3
  /-- Whether it throws shadows, if that is given. -/
  castShadow : Option Bool
  /-- The shadows it throws, if they are described. -/
  shadow : Option Shadow
deriving DecidableEq, Repr

/-- The point of view. -/
structure Camera where
  /-- Place of the eye. -/
  position : Vec3
  /-- The point it looks at. -/
  lookAt : Vec3
  /-- Vertical field of view in degrees. -/
  fov : Binary64
deriving DecidableEq, Repr

/-- Fog. -/
structure Fog where
  /-- Whether there is fog. -/
  enabled : Bool
  /-- Color. -/
  color : Rgb
  /-- Distance at which it begins. -/
  near : Binary64
  /-- Distance at which it hides everything. -/
  far : Binary64
deriving DecidableEq, Repr

/-- What is to be seen. -/
structure SceneContent where
  /-- Color behind everything. -/
  background : Rgb
  /-- Fog. -/
  fog : Fog
  /-- Objects, in the order of their phrases. -/
  objects : List SceneObject
  /-- Lights. -/
  lights : List Light
  /-- Point of view. -/
  camera : Camera
deriving DecidableEq, Repr

/-- A scene. -/
structure SceneRecord where
  /-- Identifier. -/
  id : String
  /-- Title. -/
  name : String
  /-- Moment of creation. -/
  timestamp : String
  /-- What is to be seen. -/
  scene : SceneContent
  /-- How a viewer treats it. -/
  options : SceneOptions
deriving DecidableEq, Repr

namespace SceneRecord

/-- Number of objects. -/
def objectCount (record : SceneRecord) : Nat := record.scene.objects.length

end SceneRecord

end ShapeScene
