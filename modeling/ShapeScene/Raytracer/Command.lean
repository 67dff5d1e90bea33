import ShapeScene.Number.Layout
import ShapeScene.Scene.Record
import ShapeScene.Text.Search

/-!
# Commands for the raytracer

The raytracer reads one command a line, a keyword with its arguments. It knows boxes and
ellipsoids, so that every other form is stood for by the ellipsoid around it. A light that shines
from a place becomes a glowing ball there.
-/

namespace ShapeScene.Raytracer

/-- Greatest number of reflections followed. -/
def rayDepth : Nat := 6

/-- Rays per pixel. -/
def samples : Nat := 16

/-- Refractive index of transparent objects. -/
def glassIndex : Binary64 := 1.5

/-- Radius of the ball that stands for a light. -/
def lightRadius : Binary64 := 1

/-- Glow of that ball for a light of strength one. -/
def emissionScale : Binary64 := 10

/-- Half the thickness of a flat form. -/
def flatHalfThickness : Binary64 := 0.01

/-- The least squared length of a direction to the right that is trusted. -/
def leastSquare : Binary64 := ⟨0x3CB0000000000000⟩

/-- The directions of a camera. -/
structure CameraBasis where
  /-- To the right. -/
  right : Vec3
  /-- Upward. -/
  up : Vec3
  /-- Into the picture. -/
  forward : Vec3
deriving DecidableEq, Repr

/-- The directions of a camera at one point that looks at another. Looking straight up or down,
the first axis is to the right. -/
def CameraBasis.lookingAt (eye target : Vec3) : CameraBasis :=
  let forward := (target.sub eye).normalize
  let side := forward.cross ⟨0, 1, 0⟩
  let trusted : Vec3 := if (side.dot side).isBelow leastSquare then ⟨1, 0, 0⟩ else side
  let right := trusted.normalize
  ⟨right, right.cross forward, forward⟩

/-- Half a turn in radians. -/
def halfTurn : Binary64 := ⟨0x400921FB54442D18⟩

/-- The horizontal field of view in radians, for a vertical one in degrees and an image size. -/
def horizontalFov (degrees : Binary64) (width height : UInt32) : Binary64 :=
  let aspect := Binary64.ofNat width.toNat / Binary64.ofNat (max height.toNat 1)
  let half := degrees * (halfTurn / 180) / 2
  2 * (half.tan * aspect).atan

/-- A rotation as a quaternion. -/
structure Quaternion where
  /-- Imaginary part. -/
  vector : Vec3
  /-- Real part. -/
  scalar : Binary64
deriving DecidableEq, Repr

/-- The quaternion of Euler angles, from the sines and cosines of their halves. -/
def Quaternion.ofEuler (angles : Vec3) : Quaternion :=
  let half := angles.scale 0.5
  let sx := half.x.sin
  let sy := half.y.sin
  let sz := half.z.sin
  let cx := half.x.cos
  let cy := half.y.cos
  let cz := half.z.cos
  ⟨⟨sx * cy * cz + sy * sz * cx, -sx * sz * cy + sy * cx * cz, sx * sy * cz + sz * cx * cy⟩,
    -sx * sy * sz + cx * cy * cz⟩

/-- Half the extent of a form along each axis. -/
def halfExtents : Geometry → Vec3
  | .box width height depth => ⟨width / 2, height / 2, depth / 2⟩
  | .sphere radius _ _ => ⟨radius, radius, radius⟩
  | .cylinder radiusTop radiusBottom height _ =>
    let radius := radiusTop.larger radiusBottom
    ⟨radius, height / 2, radius⟩
  | .cone radius height _ => ⟨radius, height / 2, radius⟩
  | .torus radius tube _ _ => ⟨radius + tube, tube, radius + tube⟩
  | .plane width height => ⟨width / 2, flatHalfThickness, height / 2⟩

/-- The keyword of the body that stands for a form. -/
def bodyKeyword : Geometry → String
  | .box _ _ _ => "BOX"
  | .plane _ _ => "BOX"
  | _ => "ELLIPSOID"

/-- A keyword with numbers as arguments. -/
def numberLine (keyword : String) (values : List Binary64) : String :=
  Text.joinWith " " (keyword :: values.map Binary64.text)

/-- The lines that open a scene: image size, quality, background and camera. -/
def headerLines (content : SceneContent) (width height : UInt32) : List String :=
  let camera := content.camera
  let basis := CameraBasis.lookingAt camera.position camera.lookAt
  ["DIMENSIONS " ++ toString width.toNat ++ " " ++ toString height.toNat,
    "RAY_DEPTH " ++ toString rayDepth,
    "SAMPLES " ++ toString samples,
    numberLine "BG_COLOR" content.background.toList,
    numberLine "CAMERA_POSITION" camera.position.toList,
    numberLine "CAMERA_RIGHT" basis.right.toList,
    numberLine "CAMERA_UP" basis.up.toList,
    numberLine "CAMERA_FORWARD" basis.forward.toList,
    numberLine "CAMERA_FOV_X" [horizontalFov camera.fov width height]]

/-- The line that turns an object, if it is turned. -/
def rotationLines (rotation : Vec3) : List String :=
  if rotation.sameNumbers Vec3.origin then []
  else
    let turn := Quaternion.ofEuler rotation
    [numberLine "ROTATION" (turn.vector.toList ++ [turn.scalar])]

/-- The lines for a surface that is not dull. -/
def surfaceLines (material : Material) : List String :=
  if material.transparent then ["DIELECTRIC", numberLine "IOR" [glassIndex]]
  else if material.metalness.isAtLeast 0.5 then ["METALLIC"]
  else []

/-- The lines of an object. -/
def objectLines (object : SceneObject) : List String :=
  let half := halfExtents object.geometry
  let extents := [half.x * object.scale.x, half.y * object.scale.y, half.z * object.scale.z]
  let color := (Rgb.ofHex? object.material.color).getD Rgb.white
  ["NEW_PRIMITIVE", numberLine (bodyKeyword object.geometry) extents,
    numberLine "POSITION" object.position.toList] ++
    rotationLines object.rotation ++
    [numberLine "COLOR" color.toList] ++
    surfaceLines object.material

/-- The lines of a light; one without a place needs none, for the background carries it. -/
def lightLines (light : Light) : List String :=
  match light.kind, light.position with
  | .directional, some position =>
    ["NEW_PRIMITIVE", numberLine "ELLIPSOID" [lightRadius, lightRadius, lightRadius],
      numberLine "POSITION" position.toList,
      numberLine "COLOR" [0, 0, 0],
      numberLine "EMISSION" (light.color.toList.map fun channel =>
        channel * light.intensity * emissionScale)]
  | _, _ => []

/-- The lines of a scene for an image size. -/
def sceneLines (record : SceneRecord) (width height : UInt32) : List String :=
  headerLines record.scene width height ++ record.scene.objects.flatMap objectLines ++
    record.scene.lights.flatMap lightLines

/-- The commands of a scene, each line ended. -/
def commands (record : SceneRecord) (width height : UInt32) : String :=
  String.ofList ((sceneLines record width height).flatMap fun line => line.toList ++ ['\n'])

end ShapeScene.Raytracer
