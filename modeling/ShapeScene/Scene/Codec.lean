import ShapeScene.Data.Fields
import ShapeScene.Data.Json.Printer
import ShapeScene.Data.Json.Reader
import ShapeScene.Data.MessagePack.Printer
import ShapeScene.Data.MessagePack.Reader
import ShapeScene.Error
import ShapeScene.Format
import ShapeScene.Scene.Record

/-!
# Scenes as data

Each part of a scene record is written as structured data under fixed names and read back from it.
Both file formats share this description. Quantities that are not given are left out, and a single
possible kind is written and required all the same.
-/

namespace ShapeScene

open Datum

/-- A field that is left out when there is nothing to write. -/
def optionalField {α : Type} (name : String) (write : α → Datum) :
    Option α → List (String × Datum)
  | none => []
  | some value => [(name, write value)]

/-! ## Numbers and colors -/

/-- A vector as a list. -/
def Vec3.toDatum (v : Vec3) : Datum := .reals v.toList

/-- The vector of a list of three numbers. -/
def Vec3.ofDatum? (datum : Datum) : Option Vec3 :=
  (toTriple? datum).map fun (x, y, z) => ⟨x, y, z⟩

/-- A color as a list. -/
def Rgb.toDatum (color : Rgb) : Datum := .reals color.toList

/-- The color of a list of three numbers. -/
def Rgb.ofDatum? (datum : Datum) : Option Rgb :=
  (toTriple? datum).map fun (red, green, blue) => ⟨red, green, blue⟩

/-- A word of four bytes. -/
def datumOfUInt32 (value : UInt32) : Datum := .unsigned value.toNat

/-- A signed word of one byte. -/
def datumOfInt8 (value : Int8) : Datum := .integer .signed value.toInt

/-- A kind written as its name. -/
def kindOfDatum? {Kind : Type} (all : List Kind) (name : Kind → String) (datum : Datum) :
    Option Kind :=
  (variant? (all.map name) datum).bind fun position => all[position]?

/-- A kind of which there is only one. -/
def onlyKind? (name : String) (datum : Datum) : Option Unit :=
  kindOfDatum? [()] (fun _ => name) datum

/-! ## Options -/

/-- Options as data. -/
def SceneOptions.toDatum (options : SceneOptions) : Datum :=
  .object [("animate", .bool options.animate), ("interactive", .bool options.interactive),
    ("autoRotate", .bool options.autoRotate)]

/-- Options from data. -/
def SceneOptions.ofDatum? (datum : Datum) : Option SceneOptions := do
  match ← fieldsOf? ["animate", "interactive", "autoRotate"] datum with
  | [animate, interactive, autoRotate] =>
    some ⟨← needed toBool? animate, ← needed toBool? interactive, ← needed toBool? autoRotate⟩
  | _ => none

/-! ## Objects -/

/-- A geometry as data, with the name of its form as tag. -/
def Geometry.toDatum : Geometry → Datum
  | box width height depth =>
    .object [("type", .text "BoxGeometry"), ("width", .real width), ("height", .real height),
      ("depth", .real depth)]
  | sphere radius widthSegments heightSegments =>
    .object [("type", .text "SphereGeometry"), ("radius", .real radius),
      ("widthSegments", datumOfUInt32 widthSegments),
      ("heightSegments", datumOfUInt32 heightSegments)]
  | cylinder radiusTop radiusBottom height radialSegments =>
    .object [("type", .text "CylinderGeometry"), ("radiusTop", .real radiusTop),
      ("radiusBottom", .real radiusBottom), ("height", .real height),
      ("radialSegments", datumOfUInt32 radialSegments)]
  | cone radius height radialSegments =>
    .object [("type", .text "ConeGeometry"), ("radius", .real radius), ("height", .real height),
      ("radialSegments", datumOfUInt32 radialSegments)]
  | torus radius tube radialSegments tubularSegments =>
    .object [("type", .text "TorusGeometry"), ("radius", .real radius), ("tube", .real tube),
      ("radialSegments", datumOfUInt32 radialSegments),
      ("tubularSegments", datumOfUInt32 tubularSegments)]
  | plane width height =>
    .object [("type", .text "PlaneGeometry"), ("width", .real width), ("height", .real height)]

/-- The names of the forms, in order. -/
def Geometry.tags : List String :=
  ["BoxGeometry", "SphereGeometry", "CylinderGeometry", "ConeGeometry", "TorusGeometry",
    "PlaneGeometry"]

/-- The fields beside a tag. -/
def besideTag? (names : List String) (datum : Datum) : Option (List (Option Datum)) :=
  fields? IntegerForm.isTaggedIndex names names.length datum

/-- The geometry of the form at a position among the tags. -/
def Geometry.ofFields? (form : Nat) (datum : Datum) : Option Geometry := do
  match form with
  | 0 =>
    match ← besideTag? ["width", "height", "depth"] datum with
    | [width, height, depth] =>
      some (.box (← needed toReal? width) (← needed toReal? height) (← needed toReal? depth))
    | _ => none
  | 1 =>
    match ← besideTag? ["radius", "widthSegments", "heightSegments"] datum with
    | [radius, widthSegments, heightSegments] =>
      some (.sphere (← needed toReal? radius) (← needed toUInt32? widthSegments)
        (← needed toUInt32? heightSegments))
    | _ => none
  | 2 =>
    match ← besideTag? ["radiusTop", "radiusBottom", "height", "radialSegments"] datum with
    | [radiusTop, radiusBottom, height, radialSegments] =>
      some (.cylinder (← needed toReal? radiusTop) (← needed toReal? radiusBottom)
        (← needed toReal? height) (← needed toUInt32? radialSegments))
    | _ => none
  | 3 =>
    match ← besideTag? ["radius", "height", "radialSegments"] datum with
    | [radius, height, radialSegments] =>
      some (.cone (← needed toReal? radius) (← needed toReal? height)
        (← needed toUInt32? radialSegments))
    | _ => none
  | 4 =>
    match ← besideTag? ["radius", "tube", "radialSegments", "tubularSegments"] datum with
    | [radius, tube, radialSegments, tubularSegments] =>
      some (.torus (← needed toReal? radius) (← needed toReal? tube)
        (← needed toUInt32? radialSegments) (← needed toUInt32? tubularSegments))
    | _ => none
  | 5 =>
    match ← besideTag? ["width", "height"] datum with
    | [width, height] => some (.plane (← needed toReal? width) (← needed toReal? height))
    | _ => none
  | _ => none

/-- A geometry from data. -/
def Geometry.ofDatum? (datum : Datum) : Option Geometry := do
  let (tag, others) ← tagged? "type" datum
  ofFields? (← variantByName? tags tag) others

/-- The name of the only way surfaces are shaded. -/
def shadingName : String := "MeshStandardMaterial"

/-- The sides' name. -/
def Side.name : Side → String
  | front => "front"
  | double => "double"

/-- Every choice of sides. -/
def Side.all : List Side := [front, double]

/-- A surface as data. -/
def Material.toDatum (material : Material) : Datum :=
  .object ([("type", .text shadingName), ("color", .text material.color),
    ("metalness", .real material.metalness), ("roughness", .real material.roughness)] ++
    (if material.transparent then [("transparent", .bool true)] else []) ++
    optionalField "opacity" .real material.opacity ++
    [("side", .text material.side.name)])

/-- A surface from data. -/
def Material.ofDatum? (datum : Datum) : Option Material := do
  match ← fieldsOf?
    ["type", "color", "metalness", "roughness", "transparent", "opacity", "side"] datum with
  | [shading, color, metalness, roughness, transparent, opacity, side] =>
    let _ ← needed (onlyKind? shadingName) shading
    some ⟨← needed toText? color, ← needed toReal? metalness, ← needed toReal? roughness,
      ← defaulting false toBool? transparent, ← optional toReal? opacity,
      ← needed (kindOfDatum? Side.all Side.name) side⟩
  | _ => none

/-- An animation as data. -/
def Animation.toDatum (animation : Animation) : Datum :=
  .object ([("type", .text animation.channel.name), ("axis", .text animation.axis.name)] ++
    optionalField "speed" .real animation.speed ++
    optionalField "direction" datumOfInt8 animation.direction ++
    optionalField "amplitude" .real animation.amplitude ++
    optionalField "frequency" .real animation.frequency ++
    optionalField "radius" .real animation.radius ++
    optionalField "damping" .real animation.damping)

/-- An animation from data; in a list everything behind the axis may be left out. -/
def Animation.ofDatum? (datum : Datum) : Option Animation := do
  match ← fields? IntegerForm.isIndex
    ["type", "axis", "speed", "direction", "amplitude", "frequency", "radius", "damping"] 2
    datum with
  | [channel, axis, speed, direction, amplitude, frequency, radius, damping] =>
    some ⟨← needed (kindOfDatum? AnimationChannel.all AnimationChannel.name) channel,
      ← needed (kindOfDatum? Axis.all Axis.name) axis, ← optional toReal? speed,
      ← optional toInt8? direction, ← optional toReal? amplitude, ← optional toReal? frequency,
      ← optional toReal? radius, ← optional toReal? damping⟩
  | _ => none

/-- The name of the only kind of object. -/
def objectKindName : String := "mesh"

/-- An object as data. -/
def SceneObject.toDatum (object : SceneObject) : Datum :=
  .object ([("id", .text object.id), ("name", .text object.name),
    ("type", .text objectKindName), ("geometry", object.geometry.toDatum),
    ("material", object.material.toDatum), ("position", object.position.toDatum),
    ("rotation", object.rotation.toDatum), ("scale", object.scale.toDatum),
    ("castShadow", .bool object.castShadow), ("receiveShadow", .bool object.receiveShadow)] ++
    optionalField "animation" Animation.toDatum object.animation)

/-- An object from data; in a list the animation may be left out. -/
def SceneObject.ofDatum? (datum : Datum) : Option SceneObject := do
  match ← fields? IntegerForm.isIndex
    ["id", "name", "type", "geometry", "material", "position", "rotation", "scale", "castShadow",
      "receiveShadow", "animation"] 10 datum with
  | [id, name, kind, geometry, material, position, rotation, scale, castShadow, receiveShadow,
      animation] =>
    let _ ← needed (onlyKind? objectKindName) kind
    some ⟨← needed toText? id, ← needed toText? name, ← needed Geometry.ofDatum? geometry,
      ← needed Material.ofDatum? material, ← needed Vec3.ofDatum? position,
      ← needed Vec3.ofDatum? rotation, ← needed Vec3.ofDatum? scale, ← needed toBool? castShadow,
      ← needed toBool? receiveShadow, ← optional Animation.ofDatum? animation⟩
  | _ => none

/-! ## Lights -/

/-- The names of the kinds of light. -/
def LightKind.name : LightKind → String
  | directional => "DirectionalLight"
  | ambient => "AmbientLight"

/-- Every kind of light. -/
def LightKind.all : List LightKind := [directional, ambient]

/-- The box of shadows as data. -/
def ShadowFrame.toDatum (frame : ShadowFrame) : Datum :=
  .object [("left", .real frame.left), ("right", .real frame.right), ("top", .real frame.top),
    ("bottom", .real frame.bottom), ("near", .real frame.near), ("far", .real frame.far)]

/-- The box of shadows from data. -/
def ShadowFrame.ofDatum? (datum : Datum) : Option ShadowFrame := do
  match ← fieldsOf? ["left", "right", "top", "bottom", "near", "far"] datum with
  | [left, right, top, bottom, near, far] =>
    some ⟨← needed toReal? left, ← needed toReal? right, ← needed toReal? top,
      ← needed toReal? bottom, ← needed toReal? near, ← needed toReal? far⟩
  | _ => none

/-- Shadows as data. -/
def Shadow.toDatum (shadow : Shadow) : Datum :=
  .object [("mapSize", datumOfUInt32 shadow.mapSize), ("camera", shadow.frame.toDatum)]

/-- Shadows from data. -/
def Shadow.ofDatum? (datum : Datum) : Option Shadow := do
  match ← fieldsOf? ["mapSize", "camera"] datum with
  | [mapSize, frame] =>
    some ⟨← needed toUInt32? mapSize, ← needed ShadowFrame.ofDatum? frame⟩
  | _ => none

/-- A light as data. -/
def Light.toDatum (light : Light) : Datum :=
  .object ([("id", .text light.id), ("type", .text light.kind.name),
    ("color", light.color.toDatum), ("intensity", .real light.intensity)] ++
    optionalField "position" Vec3.toDatum light.position ++
    optionalField "castShadow" .bool light.castShadow ++
    optionalField "shadow" Shadow.toDatum light.shadow)

/-- A light from data; in a list everything behind the strength may be left out. -/
def Light.ofDatum? (datum : Datum) : Option Light := do
  match ← fields? IntegerForm.isIndex
    ["id", "type", "color", "intensity", "position", "castShadow", "shadow"] 4 datum with
  | [id, kind, color, intensity, position, castShadow, shadow] =>
    some ⟨← needed toText? id, ← needed (kindOfDatum? LightKind.all LightKind.name) kind,
      ← needed Rgb.ofDatum? color, ← needed toReal? intensity, ← optional Vec3.ofDatum? position,
      ← optional toBool? castShadow, ← optional Shadow.ofDatum? shadow⟩
  | _ => none

/-! ## Scenes -/

/-- A camera as data. -/
def Camera.toDatum (camera : Camera) : Datum :=
  .object [("position", camera.position.toDatum), ("lookAt", camera.lookAt.toDatum),
    ("fov", .real camera.fov)]

/-- A camera from data. -/
def Camera.ofDatum? (datum : Datum) : Option Camera := do
  match ← fieldsOf? ["position", "lookAt", "fov"] datum with
  | [position, lookAt, fov] =>
    some ⟨← needed Vec3.ofDatum? position, ← needed Vec3.ofDatum? lookAt, ← needed toReal? fov⟩
  | _ => none

/-- Fog as data. -/
def Fog.toDatum (fog : Fog) : Datum :=
  .object [("enabled", .bool fog.enabled), ("color", fog.color.toDatum), ("near", .real fog.near),
    ("far", .real fog.far)]

/-- Fog from data. -/
def Fog.ofDatum? (datum : Datum) : Option Fog := do
  match ← fieldsOf? ["enabled", "color", "near", "far"] datum with
  | [enabled, color, near, far] =>
    some ⟨← needed toBool? enabled, ← needed Rgb.ofDatum? color, ← needed toReal? near,
      ← needed toReal? far⟩
  | _ => none

/-- What is to be seen, as data. -/
def SceneContent.toDatum (content : SceneContent) : Datum :=
  .object [("background", content.background.toDatum), ("fog", content.fog.toDatum),
    ("objects", .list (content.objects.map SceneObject.toDatum)),
    ("lights", .list (content.lights.map Light.toDatum)), ("camera", content.camera.toDatum)]

/-- What is to be seen, from data. -/
def SceneContent.ofDatum? (datum : Datum) : Option SceneContent := do
  match ← fieldsOf? ["background", "fog", "objects", "lights", "camera"] datum with
  | [background, fog, objects, lights, camera] =>
    some ⟨← needed Rgb.ofDatum? background, ← needed Fog.ofDatum? fog,
      ← needed (Datum.toList? SceneObject.ofDatum?) objects,
      ← needed (Datum.toList? Light.ofDatum?) lights, ← needed Camera.ofDatum? camera⟩
  | _ => none

namespace SceneRecord

/-- A scene as data. -/
def toDatum (record : SceneRecord) : Datum :=
  .object [("id", .text record.id), ("name", .text record.name),
    ("timestamp", .text record.timestamp), ("scene", record.scene.toDatum),
    ("options", record.options.toDatum)]

/-- A scene from data. -/
def ofDatum? (datum : Datum) : Option SceneRecord := do
  match ← fieldsOf? ["id", "name", "timestamp", "scene", "options"] datum with
  | [id, name, timestamp, scene, options] =>
    some ⟨← needed toText? id, ← needed toText? name, ← needed toText? timestamp,
      ← needed SceneContent.ofDatum? scene, ← needed SceneOptions.ofDatum? options⟩
  | _ => none

/-- A scene as indented JSON. -/
def toJson (record : SceneRecord) : String := Json.pretty record.toDatum

/-- The bytes of a scene in a store format. -/
def toBytes (record : SceneRecord) : StoreFormat → List UInt8
  | .json => Text.utf8 record.toJson
  | .messagePack => MessagePack.bytesOf record.toDatum

/-- The error for data that is not a scene. -/
def unreadableData : SceneError := .serialization "the data is not a scene record"

/-- The scene that bytes in a store format hold. -/
def ofBytes (format : StoreFormat) (content : List UInt8) : Except SceneError SceneRecord :=
  let datum :=
    match format with
    | .json => Json.read? content
    | .messagePack => MessagePack.read? content
  match datum.bind ofDatum? with
  | some record => .ok record
  | none => .error unreadableData

/-- The scene that a JSON text holds. -/
def ofJson (text : String) : Except SceneError SceneRecord := ofBytes .json (Text.utf8 text)

end SceneRecord


end ShapeScene
