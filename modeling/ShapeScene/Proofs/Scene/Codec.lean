import ShapeScene.Proofs.Data.Fields
import ShapeScene.Scene.Codec

/-!
# Scenes read back from data

Each part of a scene is read back from what it was written as exactly when every number in it is
kept: its texts, words, truth values and kinds come back whatever the format does. The list of
fields of a part says under which names they are written and which of them are there.
-/

namespace ShapeScene

open Datum

variable {back : Rereading}

/-! ## Leaves -/

/-- A number is read back when it is kept. -/
@[simp]
theorem toReal?_reread (x : Binary64) :
    toReal? ((Datum.real x).reread back) = some x ↔ back.Keeps x := Iff.rfl

/-- A truth value is read back. -/
@[simp]
theorem toBool?_reread (value : Bool) : toBool? ((Datum.bool value).reread back) = some value := rfl

/-- A text is read back. -/
@[simp]
theorem toText?_reread (value : String) : toText? ((Datum.text value).reread back) = some value :=
  rfl

/-- An unsigned word is read back. -/
@[simp]
theorem toUInt32?_reread (word : UInt32) :
    toUInt32? ((datumOfUInt32 word).reread back) = some word := by
  have small := word.toNat_lt
  simp only [datumOfUInt32, unsigned, reread, toUInt32?, toInteger?, Nat.pow_eq]
  rw [if_pos (by omega)]
  simp

/-- A signed word is read back. -/
@[simp]
theorem toInt8?_reread (word : Int8) : toInt8? ((datumOfInt8 word).reread back) = some word := by
  have low := word.le_toInt
  have high := word.toInt_lt
  simp only [datumOfInt8, reread, toInt8?, toInteger?]
  rw [if_pos (by omega)]
  simp

/-- A list of three numbers is read back as what is read of each. -/
theorem toTriple?_reread (x y z a b c : Binary64) :
    toTriple? ((reals [x, y, z]).reread back) = some (a, b, c) ↔
      toReal? (back.real x) = some a ∧ toReal? (back.real y) = some b ∧
        toReal? (back.real z) = some c := by
  simp [reals, reread, toTriple?, toTriple?.triple, Option.bind_eq_some_iff]

/-- A number that may be missing is read back when it is kept. -/
theorem optional_real (lawful : back.Lawful) (field : Option Binary64) :
    optional toReal? (field.map (reread back ∘ Datum.real)) = some field ↔
      ∀ x, field = some x → back.Keeps x :=
  optional_map rfl (fun x => lawful.real x) field

/-- A signed word that may be missing is read back. -/
theorem optional_int8 (lawful : back.Lawful) (field : Option Int8) :
    optional toInt8? (field.map (reread back ∘ datumOfInt8)) = some field := by
  refine (optional_map rfl (fun value word same => ?_) field).mpr fun value _ =>
    toInt8?_reread value
  simp only [Function.comp_apply, datumOfInt8, reread, integer.injEq] at same
  exact lawful.form _ same.1

/-- A truth value that may be missing is read back. -/
@[simp]
theorem optional_bool (field : Option Bool) :
    optional toBool? (field.map (reread back ∘ Datum.bool)) = some field := by
  cases field <;> rfl

/-- A field that is left out when it is missing is among the fields that are there. -/
theorem optionalField_eq {α : Type} (name : String) (write : α → Datum) (value : Option α) :
    optionalField name write value = (value.map fun value => (name, write value)).toList := by
  cases value <;> rfl

/-- A vector is read back when its numbers are kept. -/
@[simp]
theorem Vec3.ofDatum?_reread (v : Vec3) :
    Vec3.ofDatum? (v.toDatum.reread back) = some v ↔ ∀ x ∈ v.toList, back.Keeps x := by
  obtain ⟨x, y, z⟩ := v
  simp [Vec3.toDatum, Vec3.toList, Vec3.ofDatum?, toTriple?_reread, Rereading.Keeps]

/-- A color is read back when its numbers are kept. -/
@[simp]
theorem Rgb.ofDatum?_reread (color : Rgb) :
    Rgb.ofDatum? (color.toDatum.reread back) = some color ↔
      ∀ x ∈ color.toList, back.Keeps x := by
  obtain ⟨red, green, blue⟩ := color
  simp [Rgb.toDatum, Rgb.toList, Rgb.ofDatum?, toTriple?_reread, Rereading.Keeps]

/-! ## Options -/

namespace SceneOptions

/-- The fields of options. -/
def fields (options : SceneOptions) : List (String × Option Datum) :=
  [("animate", some (.bool options.animate)), ("interactive", some (.bool options.interactive)),
    ("autoRotate", some (.bool options.autoRotate))]

/-- Options are written by their fields. -/
theorem toDatum_eq (options : SceneOptions) :
    options.toDatum = .object (present options.fields) := rfl

/-- Options are read back. -/
@[simp]
theorem ofDatum?_reread (options : SceneOptions) :
    ofDatum? (options.toDatum.reread back) = some options := by
  have named : options.fields.map Prod.fst = ["animate", "interactive", "autoRotate"] := rfl
  rw [toDatum_eq, ofDatum?, fieldsOf?_reread back named (by decide)]
  rfl

end SceneOptions

/-! ## Objects -/

namespace Geometry

/-- The name of a form. -/
def tag : Geometry → String
  | box .. => "BoxGeometry"
  | sphere .. => "SphereGeometry"
  | cylinder .. => "CylinderGeometry"
  | cone .. => "ConeGeometry"
  | torus .. => "TorusGeometry"
  | plane .. => "PlaneGeometry"

/-- The position of a form among the tags. -/
def form : Geometry → Nat
  | box .. => 0
  | sphere .. => 1
  | cylinder .. => 2
  | cone .. => 3
  | torus .. => 4
  | plane .. => 5

/-- The fields of a form beside its tag. -/
def fields : Geometry → List (String × Option Datum)
  | box width height depth =>
    [("width", some (.real width)), ("height", some (.real height)), ("depth", some (.real depth))]
  | sphere radius widthSegments heightSegments =>
    [("radius", some (.real radius)), ("widthSegments", some (datumOfUInt32 widthSegments)),
      ("heightSegments", some (datumOfUInt32 heightSegments))]
  | cylinder radiusTop radiusBottom height radialSegments =>
    [("radiusTop", some (.real radiusTop)), ("radiusBottom", some (.real radiusBottom)),
      ("height", some (.real height)), ("radialSegments", some (datumOfUInt32 radialSegments))]
  | cone radius height radialSegments =>
    [("radius", some (.real radius)), ("height", some (.real height)),
      ("radialSegments", some (datumOfUInt32 radialSegments))]
  | torus radius tube radialSegments tubularSegments =>
    [("radius", some (.real radius)), ("tube", some (.real tube)),
      ("radialSegments", some (datumOfUInt32 radialSegments)),
      ("tubularSegments", some (datumOfUInt32 tubularSegments))]
  | plane width height => [("width", some (.real width)), ("height", some (.real height))]

/-- The numbers of a form that need not be integers. -/
def numbers : Geometry → List Binary64
  | box width height depth => [width, height, depth]
  | sphere radius _ _ => [radius]
  | cylinder radiusTop radiusBottom height _ => [radiusTop, radiusBottom, height]
  | cone radius height _ => [radius, height]
  | torus radius tube _ _ => [radius, tube]
  | plane width height => [width, height]

/-- A form is written by its tag and its fields. -/
theorem toDatum_eq (geometry : Geometry) :
    geometry.toDatum = .object (("type", .text geometry.tag) :: present geometry.fields) := by
  cases geometry <;> rfl

/-- The tag of a form names its position. -/
theorem variantByName?_tag (geometry : Geometry) :
    variantByName? tags (.text geometry.tag) = some geometry.form := by
  cases geometry <;> rfl

/-- The fields beside a tag are read back. -/
theorem besideTag?_reread {names : List String} {fields : List (String × Option Datum)}
    (named : fields.map Prod.fst = names) (distinct : names.Nodup) :
    besideTag? names ((Datum.object (present fields)).reread back) =
      some (fields.map fun field => field.2.map (reread back)) :=
  fields?_reread back IntegerForm.isTaggedIndex names.length named distinct

/-- The fields of a form are read back when its numbers are kept. -/
theorem ofFields?_reread (geometry : Geometry) :
    ofFields? geometry.form ((Datum.object (present geometry.fields)).reread back) =
      some geometry ↔ ∀ x ∈ geometry.numbers, back.Keeps x := by
  cases geometry with
  | box width height depth =>
    have named : (box width height depth).fields.map Prod.fst =
      ["width", "height", "depth"] := rfl
    rw [form, ofFields?, besideTag?_reread named (by decide)]
    simp [fields, numbers, needed, Option.bind_eq_some_iff]
  | sphere radius widthSegments heightSegments =>
    have named : (sphere radius widthSegments heightSegments).fields.map Prod.fst =
      ["radius", "widthSegments", "heightSegments"] := rfl
    rw [form, ofFields?, besideTag?_reread named (by decide)]
    simp [fields, numbers, needed, Option.bind_eq_some_iff]
  | cylinder radiusTop radiusBottom height radialSegments =>
    have named : (cylinder radiusTop radiusBottom height radialSegments).fields.map Prod.fst =
      ["radiusTop", "radiusBottom", "height", "radialSegments"] := rfl
    rw [form, ofFields?, besideTag?_reread named (by decide)]
    simp [fields, numbers, needed, Option.bind_eq_some_iff]
  | cone radius height radialSegments =>
    have named : (cone radius height radialSegments).fields.map Prod.fst =
      ["radius", "height", "radialSegments"] := rfl
    rw [form, ofFields?, besideTag?_reread named (by decide)]
    simp [fields, numbers, needed, Option.bind_eq_some_iff]
  | torus radius tube radialSegments tubularSegments =>
    have named : (torus radius tube radialSegments tubularSegments).fields.map Prod.fst =
      ["radius", "tube", "radialSegments", "tubularSegments"] := rfl
    rw [form, ofFields?, besideTag?_reread named (by decide)]
    simp [fields, numbers, needed, Option.bind_eq_some_iff]
  | plane width height =>
    have named : (plane width height).fields.map Prod.fst =
      ["width", "height"] := rfl
    rw [form, ofFields?, besideTag?_reread named (by decide)]
    simp [fields, numbers, needed, Option.bind_eq_some_iff]

/-- A form whose numbers are kept has a value beside its tag. -/
theorem entriesReadable_fields {geometry : Geometry}
    (kept : ∀ x ∈ geometry.numbers, back.Keeps x) :
    entriesReadable ((present (rereadFields back geometry.fields)).map fun field =>
      (.text field.1, field.2)) = true := by
  have readable : ∀ x ∈ geometry.numbers, (back.real x).isReadable = true :=
    fun x member => (kept x member).isReadable
  cases geometry <;>
    simp_all [fields, numbers, rereadFields, entriesReadable, isReadable, reread, datumOfUInt32,
      unsigned]

/-- A form is read back when its numbers are kept. -/
@[simp]
theorem ofDatum?_reread (geometry : Geometry) :
    ofDatum? (geometry.toDatum.reread back) = some geometry ↔
      ∀ x ∈ geometry.numbers, back.Keeps x := by
  have other : ∀ field ∈ present (rereadFields back geometry.fields), field.1 ≠ "type" := by
    cases geometry <;> simp [fields, rereadFields]
  rw [toDatum_eq, reread_object, List.map_cons, map_reread_present, ofDatum?,
    tagged?_object _ other, ← ofFields?_reread, reread_present]
  by_cases readable : entriesReadable ((present (rereadFields back geometry.fields)).map
      fun field => (.text field.1, field.2)) = true
  · simp only [if_pos readable, reread, Option.bind_eq_bind, Option.bind_some,
      variantByName?_tag]
  · rw [if_neg readable, ← reread_present, ofFields?_reread]
    constructor
    · intro read
      cases read
    · intro kept
      exact absurd (entriesReadable_fields kept) readable

end Geometry

/-- A choice of sides is read back from its name. -/
@[simp]
theorem Side.kindOfDatum?_reread (side : Side) :
    kindOfDatum? Side.all Side.name ((Datum.text side.name).reread back) = some side := by
  cases side <;> rfl

namespace Material

/-- The fields of a surface. -/
def fields (material : Material) : List (String × Option Datum) :=
  [("type", some (.text shadingName)), ("color", some (.text material.color)),
    ("metalness", some (.real material.metalness)),
    ("roughness", some (.real material.roughness)),
    ("transparent", if material.transparent then some (.bool true) else none),
    ("opacity", material.opacity.map .real), ("side", some (.text material.side.name))]

/-- The numbers of a surface. -/
def numbers (material : Material) : List Binary64 :=
  [material.metalness, material.roughness] ++ material.opacity.toList

/-- A surface is written by its fields. -/
theorem toDatum_eq (material : Material) :
    material.toDatum = .object (present material.fields) := by
  obtain ⟨color, metalness, roughness, transparent, opacity, side⟩ := material
  cases transparent <;> cases opacity <;> rfl

/-- A surface is read back when its numbers are kept. -/
@[simp]
theorem ofDatum?_reread (lawful : back.Lawful) (material : Material) :
    ofDatum? (material.toDatum.reread back) = some material ↔
      ∀ x ∈ material.numbers, back.Keeps x := by
  have named : material.fields.map Prod.fst =
    ["type", "color", "metalness", "roughness", "transparent", "opacity", "side"] := rfl
  have shading : onlyKind? shadingName ((Datum.text shadingName).reread back) = some () := rfl
  rw [toDatum_eq, ofDatum?, fieldsOf?_reread back named (by decide)]
  obtain ⟨color, metalness, roughness, transparent, opacity, side⟩ := material
  cases transparent <;>
    simp [fields, numbers, needed, defaulting, shading, Option.bind_eq_some_iff, or_imp,
      forall_and, optional_real lawful]

end Material

/-- A channel is read back from its name. -/
@[simp]
theorem AnimationChannel.kindOfDatum?_reread (channel : AnimationChannel) :
    kindOfDatum? AnimationChannel.all AnimationChannel.name
      ((Datum.text channel.name).reread back) = some channel := by
  cases channel <;> rfl

/-- An axis is read back from its name. -/
@[simp]
theorem Axis.kindOfDatum?_reread (axis : Axis) :
    kindOfDatum? Axis.all Axis.name ((Datum.text axis.name).reread back) = some axis := by
  cases axis <;> rfl

namespace Animation

/-- The fields of an animation. -/
def fields (animation : Animation) : List (String × Option Datum) :=
  [("type", some (.text animation.channel.name)), ("axis", some (.text animation.axis.name)),
    ("speed", animation.speed.map .real), ("direction", animation.direction.map datumOfInt8),
    ("amplitude", animation.amplitude.map .real), ("frequency", animation.frequency.map .real),
    ("radius", animation.radius.map .real), ("damping", animation.damping.map .real)]

/-- The numbers of an animation. -/
def numbers (animation : Animation) : List Binary64 :=
  animation.speed.toList ++ animation.amplitude.toList ++ animation.frequency.toList ++
    animation.radius.toList ++ animation.damping.toList

/-- An animation is written by its fields. -/
theorem toDatum_eq (animation : Animation) :
    animation.toDatum = .object (present animation.fields) := by
  simp [toDatum, fields, optionalField_eq]

/-- An animation is read back when its numbers are kept. -/
theorem ofDatum?_reread (lawful : back.Lawful) (animation : Animation) :
    ofDatum? (animation.toDatum.reread back) = some animation ↔
      ∀ x ∈ animation.numbers, back.Keeps x := by
  have named : animation.fields.map Prod.fst = ["type", "axis", "speed", "direction", "amplitude",
    "frequency", "radius", "damping"] := rfl
  rw [toDatum_eq, ofDatum?, fields?_reread back IntegerForm.isIndex 2 named (by decide)]
  obtain ⟨channel, axis, speed, direction, amplitude, frequency, radius, damping⟩ := animation
  simp [fields, numbers, needed, Option.bind_eq_some_iff, or_imp, forall_and,
    optional_real lawful, optional_int8 lawful]

/-- An animation that may be missing is read back when its numbers are kept. -/
theorem optional_ofDatum? (lawful : back.Lawful) (field : Option Animation) :
    optional ofDatum? (field.map (reread back ∘ toDatum)) = some field ↔
      ∀ x animation, field = some animation → x ∈ animation.numbers → back.Keeps x := by
  rw [optional_map rfl (fun animation word same => by cases same) field]
  simp only [Function.comp_apply, ofDatum?_reread lawful]
  exact ⟨fun kept x animation there => kept animation there x,
    fun kept animation there x => kept x animation there⟩

end Animation

namespace SceneObject

/-- The fields of an object. -/
def fields (object : SceneObject) : List (String × Option Datum) :=
  [("id", some (.text object.id)), ("name", some (.text object.name)),
    ("type", some (.text objectKindName)), ("geometry", some object.geometry.toDatum),
    ("material", some object.material.toDatum), ("position", some object.position.toDatum),
    ("rotation", some object.rotation.toDatum), ("scale", some object.scale.toDatum),
    ("castShadow", some (.bool object.castShadow)),
    ("receiveShadow", some (.bool object.receiveShadow)),
    ("animation", object.animation.map Animation.toDatum)]

/-- The numbers of an object. -/
def numbers (object : SceneObject) : List Binary64 :=
  object.geometry.numbers ++ object.material.numbers ++ object.position.toList ++
    object.rotation.toList ++ object.scale.toList ++
    object.animation.toList.flatMap Animation.numbers

/-- The texts of an object that can be of any length. -/
def texts (object : SceneObject) : List String := [object.id, object.name, object.material.color]

/-- An object is written by its fields. -/
theorem toDatum_eq (object : SceneObject) : object.toDatum = .object (present object.fields) := by
  simp [toDatum, fields, optionalField_eq]

/-- An object is read back when its numbers are kept. -/
theorem ofDatum?_reread (lawful : back.Lawful) (object : SceneObject) :
    ofDatum? (object.toDatum.reread back) = some object ↔
      ∀ x ∈ object.numbers, back.Keeps x := by
  have named : object.fields.map Prod.fst = ["id", "name", "type", "geometry", "material",
    "position", "rotation", "scale", "castShadow", "receiveShadow", "animation"] := rfl
  have kind : onlyKind? objectKindName ((Datum.text objectKindName).reread back) = some () := rfl
  rw [toDatum_eq, ofDatum?, fields?_reread back IntegerForm.isIndex 10 named (by decide)]
  obtain ⟨id, name, geometry, material, position, rotation, scale, castShadow, receiveShadow,
    animation⟩ := object
  simp [fields, numbers, needed, kind, Option.bind_eq_some_iff, or_imp, forall_and,
    Animation.optional_ofDatum? lawful, Material.ofDatum?_reread lawful]

end SceneObject

/-! ## Lights -/

/-- A kind of light is read back from its name. -/
@[simp]
theorem LightKind.kindOfDatum?_reread (kind : LightKind) :
    kindOfDatum? LightKind.all LightKind.name ((Datum.text kind.name).reread back) = some kind := by
  cases kind <;> rfl

namespace ShadowFrame

/-- The fields of the box of shadows. -/
def fields (frame : ShadowFrame) : List (String × Option Datum) :=
  [("left", some (.real frame.left)), ("right", some (.real frame.right)),
    ("top", some (.real frame.top)), ("bottom", some (.real frame.bottom)),
    ("near", some (.real frame.near)), ("far", some (.real frame.far))]

/-- The numbers of the box of shadows. -/
def numbers (frame : ShadowFrame) : List Binary64 :=
  [frame.left, frame.right, frame.top, frame.bottom, frame.near, frame.far]

/-- The box of shadows is written by its fields. -/
theorem toDatum_eq (frame : ShadowFrame) : frame.toDatum = .object (present frame.fields) := rfl

/-- The box of shadows is read back when its numbers are kept. -/
@[simp]
theorem ofDatum?_reread (frame : ShadowFrame) :
    ofDatum? (frame.toDatum.reread back) = some frame ↔ ∀ x ∈ frame.numbers, back.Keeps x := by
  have named : frame.fields.map Prod.fst = ["left", "right", "top", "bottom", "near", "far"] := rfl
  rw [toDatum_eq, ofDatum?, fieldsOf?_reread back named (by decide)]
  obtain ⟨left, right, top, bottom, near, far⟩ := frame
  simp [fields, numbers, needed, Option.bind_eq_some_iff]

end ShadowFrame

namespace Shadow

/-- The fields of shadows. -/
def fields (shadow : Shadow) : List (String × Option Datum) :=
  [("mapSize", some (datumOfUInt32 shadow.mapSize)), ("camera", some shadow.frame.toDatum)]

/-- Shadows are written by their fields. -/
theorem toDatum_eq (shadow : Shadow) : shadow.toDatum = .object (present shadow.fields) := rfl

/-- Shadows are read back when their numbers are kept. -/
theorem ofDatum?_reread (shadow : Shadow) :
    ofDatum? (shadow.toDatum.reread back) = some shadow ↔
      ∀ x ∈ shadow.frame.numbers, back.Keeps x := by
  have named : shadow.fields.map Prod.fst = ["mapSize", "camera"] := rfl
  rw [toDatum_eq, ofDatum?, fieldsOf?_reread back named (by decide)]
  obtain ⟨mapSize, frame⟩ := shadow
  simp [fields, needed, Option.bind_eq_some_iff]

/-- Shadows that may be missing are read back when their numbers are kept. -/
@[simp]
theorem optional_ofDatum? (field : Option Shadow) :
    optional ofDatum? (field.map (reread back ∘ toDatum)) = some field ↔
      ∀ x shadow, field = some shadow → x ∈ shadow.frame.numbers → back.Keeps x := by
  rw [optional_map rfl (fun shadow word same => by cases same) field]
  simp only [Function.comp_apply, ofDatum?_reread]
  exact ⟨fun kept x shadow there => kept shadow there x,
    fun kept shadow there x => kept x shadow there⟩

end Shadow

/-- A vector that may be missing is read back when its numbers are kept. -/
@[simp]
theorem Vec3.optional_ofDatum? (field : Option Vec3) :
    optional Vec3.ofDatum? (field.map (reread back ∘ Vec3.toDatum)) = some field ↔
      ∀ x v, field = some v → x ∈ v.toList → back.Keeps x := by
  rw [optional_map rfl (fun v word same => by simp [Vec3.toDatum, reals] at same) field]
  simp only [Function.comp_apply, Vec3.ofDatum?_reread]
  exact ⟨fun kept x v there => kept v there x, fun kept v there x => kept x v there⟩

namespace Light

/-- The fields of a light. -/
def fields (light : Light) : List (String × Option Datum) :=
  [("id", some (.text light.id)), ("type", some (.text light.kind.name)),
    ("color", some light.color.toDatum), ("intensity", some (.real light.intensity)),
    ("position", light.position.map Vec3.toDatum), ("castShadow", light.castShadow.map .bool),
    ("shadow", light.shadow.map Shadow.toDatum)]

/-- The numbers of a light. -/
def numbers (light : Light) : List Binary64 :=
  light.color.toList ++ [light.intensity] ++ light.position.toList.flatMap Vec3.toList ++
    light.shadow.toList.flatMap fun shadow => shadow.frame.numbers

/-- A light is written by its fields. -/
theorem toDatum_eq (light : Light) : light.toDatum = .object (present light.fields) := by
  simp [toDatum, fields, optionalField_eq]

/-- A light is read back when its numbers are kept. -/
theorem ofDatum?_reread (light : Light) :
    ofDatum? (light.toDatum.reread back) = some light ↔ ∀ x ∈ light.numbers, back.Keeps x := by
  have named : light.fields.map Prod.fst =
    ["id", "type", "color", "intensity", "position", "castShadow", "shadow"] := rfl
  rw [toDatum_eq, ofDatum?, fields?_reread back IntegerForm.isIndex 4 named (by decide)]
  obtain ⟨id, kind, color, intensity, position, castShadow, shadow⟩ := light
  simp [fields, numbers, needed, Option.bind_eq_some_iff, or_imp, forall_and]

end Light

/-! ## Scenes -/

namespace Camera

/-- The fields of a camera. -/
def fields (camera : Camera) : List (String × Option Datum) :=
  [("position", some camera.position.toDatum), ("lookAt", some camera.lookAt.toDatum),
    ("fov", some (.real camera.fov))]

/-- The numbers of a camera. -/
def numbers (camera : Camera) : List Binary64 :=
  camera.position.toList ++ camera.lookAt.toList ++ [camera.fov]

/-- A camera is written by its fields. -/
theorem toDatum_eq (camera : Camera) : camera.toDatum = .object (present camera.fields) := rfl

/-- A camera is read back when its numbers are kept. -/
@[simp]
theorem ofDatum?_reread (camera : Camera) :
    ofDatum? (camera.toDatum.reread back) = some camera ↔
      ∀ x ∈ camera.numbers, back.Keeps x := by
  have named : camera.fields.map Prod.fst = ["position", "lookAt", "fov"] := rfl
  rw [toDatum_eq, ofDatum?, fieldsOf?_reread back named (by decide)]
  obtain ⟨position, lookAt, fov⟩ := camera
  simp [fields, numbers, needed, Option.bind_eq_some_iff, or_imp, forall_and]

end Camera

namespace Fog

/-- The fields of fog. -/
def fields (fog : Fog) : List (String × Option Datum) :=
  [("enabled", some (.bool fog.enabled)), ("color", some fog.color.toDatum),
    ("near", some (.real fog.near)), ("far", some (.real fog.far))]

/-- The numbers of fog. -/
def numbers (fog : Fog) : List Binary64 := fog.color.toList ++ [fog.near, fog.far]

/-- Fog is written by its fields. -/
theorem toDatum_eq (fog : Fog) : fog.toDatum = .object (present fog.fields) := rfl

/-- Fog is read back when its numbers are kept. -/
@[simp]
theorem ofDatum?_reread (fog : Fog) :
    ofDatum? (fog.toDatum.reread back) = some fog ↔ ∀ x ∈ fog.numbers, back.Keeps x := by
  have named : fog.fields.map Prod.fst = ["enabled", "color", "near", "far"] := rfl
  rw [toDatum_eq, ofDatum?, fieldsOf?_reread back named (by decide)]
  obtain ⟨enabled, color, near, far⟩ := fog
  simp [fields, numbers, needed, Option.bind_eq_some_iff, or_imp, forall_and]

end Fog

namespace SceneContent

/-- The fields of what is to be seen. -/
def fields (content : SceneContent) : List (String × Option Datum) :=
  [("background", some content.background.toDatum), ("fog", some content.fog.toDatum),
    ("objects", some (.list (content.objects.map SceneObject.toDatum))),
    ("lights", some (.list (content.lights.map Light.toDatum))),
    ("camera", some content.camera.toDatum)]

/-- The numbers of what is to be seen. -/
def numbers (content : SceneContent) : List Binary64 :=
  content.background.toList ++ content.fog.numbers ++
    content.objects.flatMap SceneObject.numbers ++ content.lights.flatMap Light.numbers ++
    content.camera.numbers

/-- What is to be seen is written by its fields. -/
theorem toDatum_eq (content : SceneContent) :
    content.toDatum = .object (present content.fields) := rfl

/-- A list of objects is read back when all their numbers are kept. -/
theorem toList?_objects (lawful : back.Lawful) (objects : List SceneObject) :
    toList? SceneObject.ofDatum? ((Datum.list (objects.map SceneObject.toDatum)).reread back) =
      some objects ↔ ∀ object ∈ objects, ∀ x ∈ object.numbers, back.Keeps x := by
  rw [reread_list, List.map_map]
  exact (mapM_map objects).trans
    (forall₂_congr fun object _ => SceneObject.ofDatum?_reread lawful object)

/-- A list of lights is read back when all their numbers are kept. -/
theorem toList?_lights (lights : List Light) :
    toList? Light.ofDatum? ((Datum.list (lights.map Light.toDatum)).reread back) = some lights ↔
      ∀ light ∈ lights, ∀ x ∈ light.numbers, back.Keeps x := by
  rw [reread_list, List.map_map]
  exact (mapM_map lights).trans (forall₂_congr fun light _ => Light.ofDatum?_reread light)

/-- What is to be seen is read back when its numbers are kept. -/
theorem ofDatum?_reread (lawful : back.Lawful) (content : SceneContent) :
    ofDatum? (content.toDatum.reread back) = some content ↔
      ∀ x ∈ content.numbers, back.Keeps x := by
  have named : content.fields.map Prod.fst = ["background", "fog", "objects", "lights", "camera"] :=
    rfl
  have numbers : (∀ x ∈ content.numbers, back.Keeps x) ↔
      (∀ x ∈ content.background.toList, back.Keeps x) ∧
        (∀ x ∈ content.fog.numbers, back.Keeps x) ∧
        (∀ object ∈ content.objects, ∀ x ∈ object.numbers, back.Keeps x) ∧
        (∀ light ∈ content.lights, ∀ x ∈ light.numbers, back.Keeps x) ∧
        ∀ x ∈ content.camera.numbers, back.Keeps x := by
    simp only [SceneContent.numbers, List.forall_mem_append, List.mem_flatMap, and_assoc,
      forall_exists_index, and_imp]
    exact ⟨fun ⟨background, fog, objects, lights, camera⟩ => ⟨background, fog,
        fun object member x => objects x object member, fun light member x =>
        lights x light member, camera⟩,
      fun ⟨background, fog, objects, lights, camera⟩ => ⟨background, fog,
        fun x object member => objects object member x, fun x light member =>
        lights light member x, camera⟩⟩
  rw [numbers, ← toList?_objects lawful, ← toList?_lights, toDatum_eq, ofDatum?,
    fieldsOf?_reread back named (by decide)]
  obtain ⟨background, fog, objects, lights, camera⟩ := content
  simp [fields, needed, Option.bind_eq_some_iff]

end SceneContent

namespace SceneRecord

/-- The fields of a scene. -/
def fields (record : SceneRecord) : List (String × Option Datum) :=
  [("id", some (.text record.id)), ("name", some (.text record.name)),
    ("timestamp", some (.text record.timestamp)), ("scene", some record.scene.toDatum),
    ("options", some record.options.toDatum)]

/-- The numbers of a scene that need not be integers. -/
def numbers (record : SceneRecord) : List Binary64 := record.scene.numbers

/-- The texts of a scene that can be of any length. -/
def texts (record : SceneRecord) : List String :=
  [record.id, record.name, record.timestamp] ++
    record.scene.objects.flatMap SceneObject.texts ++ record.scene.lights.map Light.id

/-- A scene is written by its fields. -/
theorem toDatum_eq (record : SceneRecord) : record.toDatum = .object (present record.fields) := rfl

/-- A scene is read back when its numbers are kept. -/
theorem ofDatum?_reread (lawful : back.Lawful) (record : SceneRecord) :
    ofDatum? (record.toDatum.reread back) = some record ↔
      ∀ x ∈ record.numbers, back.Keeps x := by
  have named : record.fields.map Prod.fst = ["id", "name", "timestamp", "scene", "options"] := rfl
  rw [toDatum_eq, ofDatum?, fieldsOf?_reread back named (by decide)]
  obtain ⟨id, name, timestamp, scene, options⟩ := record
  simp [fields, numbers, needed, Option.bind_eq_some_iff, SceneContent.ofDatum?_reread lawful]

end SceneRecord

end ShapeScene
