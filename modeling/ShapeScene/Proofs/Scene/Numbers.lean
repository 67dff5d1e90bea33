import ShapeScene.Proofs.Data.Numbers
import ShapeScene.Proofs.Scene.Codec

/-!
# The numbers of scenes

The numbers of a scene can be changed one by one without touching anything else. And whatever data
a scene is read from, each of its numbers stands in them.
-/

namespace ShapeScene

open Datum

/-- A value that may be missing stays when it stays if it is there. -/
theorem map_eq_self_of_mem_toList {α : Type} {change : α → α} {field : Option α}
    (kept : ∀ value ∈ field.toList, change value = value) : field.map change = field := by
  cases field with
  | none => rfl
  | some value => exact congrArg some (kept value (by simp))

/-- The values of a list stay when each of them stays. -/
theorem map_eq_self_of_mem {α : Type} {change : α → α} {items : List α}
    (kept : ∀ item ∈ items, change item = item) : items.map change = items := by
  rw [List.map_congr_left kept, List.map_id']

variable {change : Binary64 → Binary64}

/-! ## Vectors and colors -/

namespace Vec3

/-- A vector with each number changed. -/
def mapNumbers (change : Binary64 → Binary64) (v : Vec3) : Vec3 :=
  ⟨change v.x, change v.y, change v.z⟩

/-- The numbers of a changed vector. -/
@[simp]
theorem toList_mapNumbers (v : Vec3) : (v.mapNumbers change).toList = v.toList.map change := rfl

/-- A vector whose numbers stay. -/
theorem mapNumbers_eq_self {v : Vec3} (kept : ∀ x ∈ v.toList, change x = x) :
    v.mapNumbers change = v := by
  simp_all [mapNumbers, toList]

/-- The numbers of a vector stand in the data that it is read from. -/
theorem readsNumbers : ReadsNumbers ofDatum? toList := by
  intro datum v read x member
  obtain ⟨⟨a, b, c⟩, triple, rfl⟩ := Option.map_eq_some_iff.mp read
  exact yields_of_toTriple? triple member

end Vec3

namespace Rgb

/-- A color with each number changed. -/
def mapNumbers (change : Binary64 → Binary64) (color : Rgb) : Rgb :=
  ⟨change color.red, change color.green, change color.blue⟩

/-- The numbers of a changed color. -/
@[simp]
theorem toList_mapNumbers (color : Rgb) :
    (color.mapNumbers change).toList = color.toList.map change := rfl

/-- A color whose numbers stay. -/
theorem mapNumbers_eq_self {color : Rgb} (kept : ∀ x ∈ color.toList, change x = x) :
    color.mapNumbers change = color := by
  simp_all [mapNumbers, toList]

/-- The numbers of a color stand in the data that it is read from. -/
theorem readsNumbers : ReadsNumbers ofDatum? toList := by
  intro datum color read x member
  obtain ⟨⟨a, b, c⟩, triple, rfl⟩ := Option.map_eq_some_iff.mp read
  exact yields_of_toTriple? triple member

end Rgb

/-! ## Objects -/

namespace Geometry

/-- A form with each number changed that need not be an integer. -/
def mapNumbers (change : Binary64 → Binary64) : Geometry → Geometry
  | box width height depth => box (change width) (change height) (change depth)
  | sphere radius widthSegments heightSegments =>
    sphere (change radius) widthSegments heightSegments
  | cylinder radiusTop radiusBottom height radialSegments =>
    cylinder (change radiusTop) (change radiusBottom) (change height) radialSegments
  | cone radius height radialSegments => cone (change radius) (change height) radialSegments
  | torus radius tube radialSegments tubularSegments =>
    torus (change radius) (change tube) radialSegments tubularSegments
  | plane width height => plane (change width) (change height)

/-- The numbers of a changed form. -/
@[simp]
theorem numbers_mapNumbers (geometry : Geometry) :
    (geometry.mapNumbers change).numbers = geometry.numbers.map change := by
  cases geometry <;> rfl

/-- A form whose numbers stay. -/
theorem mapNumbers_eq_self {geometry : Geometry}
    (kept : ∀ x ∈ geometry.numbers, change x = x) : geometry.mapNumbers change = geometry := by
  cases geometry <;> simp_all [mapNumbers, numbers]

/-- A number in the field of a form stands beside its tag. -/
theorem yields_of_besideTag? {names : List String} {datum : Datum} {slots : List (Option Datum)}
    (fields : besideTag? names datum = some slots) {slot : Option Datum} (member : slot ∈ slots)
    {x : Binary64} (field : needed toReal? slot = some x) : datum.Yields x :=
  yields_of_fields? fields member (readsNumbers_toReal?.needed field (by simp))

/-- The numbers of a form stand in the data that it is read from. -/
theorem readsNumbers : ReadsNumbers ofDatum? numbers := by
  intro datum geometry read x member
  obtain ⟨⟨tag, others⟩, tagged, read⟩ := Option.bind_eq_some_iff.mp read
  obtain ⟨form, -, read⟩ := Option.bind_eq_some_iff.mp read
  refine yields_of_tagged? tagged ?_
  unfold ofFields? at read
  split at read
  all_goals try cases read
  all_goals
    obtain ⟨slots, fields, read⟩ := Option.bind_eq_some_iff.mp read
    split at read
    all_goals try cases read
    simp only [Option.bind_eq_bind, Option.bind_eq_some_iff, Option.some.injEq] at read
  · obtain ⟨width, widthRead, height, heightRead, depth, depthRead, rfl⟩ := read
    simp only [numbers, List.mem_cons, List.not_mem_nil, or_false] at member
    rcases member with rfl | rfl | rfl
    · exact yields_of_besideTag? fields (by simp) widthRead
    · exact yields_of_besideTag? fields (by simp) heightRead
    · exact yields_of_besideTag? fields (by simp) depthRead
  · obtain ⟨radius, radiusRead, _, -, _, -, rfl⟩ := read
    obtain rfl := List.mem_singleton.mp member
    exact yields_of_besideTag? fields (by simp) radiusRead
  · obtain ⟨top, topRead, bottom, bottomRead, height, heightRead, _, -, rfl⟩ := read
    simp only [numbers, List.mem_cons, List.not_mem_nil, or_false] at member
    rcases member with rfl | rfl | rfl
    · exact yields_of_besideTag? fields (by simp) topRead
    · exact yields_of_besideTag? fields (by simp) bottomRead
    · exact yields_of_besideTag? fields (by simp) heightRead
  · obtain ⟨radius, radiusRead, height, heightRead, _, -, rfl⟩ := read
    simp only [numbers, List.mem_cons, List.not_mem_nil, or_false] at member
    rcases member with rfl | rfl
    · exact yields_of_besideTag? fields (by simp) radiusRead
    · exact yields_of_besideTag? fields (by simp) heightRead
  · obtain ⟨radius, radiusRead, tube, tubeRead, _, -, _, -, rfl⟩ := read
    simp only [numbers, List.mem_cons, List.not_mem_nil, or_false] at member
    rcases member with rfl | rfl
    · exact yields_of_besideTag? fields (by simp) radiusRead
    · exact yields_of_besideTag? fields (by simp) tubeRead
  · obtain ⟨width, widthRead, height, heightRead, rfl⟩ := read
    simp only [numbers, List.mem_cons, List.not_mem_nil, or_false] at member
    rcases member with rfl | rfl
    · exact yields_of_besideTag? fields (by simp) widthRead
    · exact yields_of_besideTag? fields (by simp) heightRead

end Geometry

namespace Material

/-- A surface with each number changed. -/
def mapNumbers (change : Binary64 → Binary64) (material : Material) : Material :=
  { material with
    metalness := change material.metalness
    roughness := change material.roughness
    opacity := material.opacity.map change }

/-- The numbers of a changed surface. -/
@[simp]
theorem numbers_mapNumbers (material : Material) :
    (material.mapNumbers change).numbers = material.numbers.map change := by
  obtain ⟨color, metalness, roughness, transparent, opacity, side⟩ := material
  cases opacity <;> rfl

/-- A surface whose numbers stay. -/
theorem mapNumbers_eq_self {material : Material}
    (kept : ∀ x ∈ material.numbers, change x = x) : material.mapNumbers change = material := by
  simp only [numbers, List.forall_mem_append, List.forall_mem_cons] at kept
  obtain ⟨⟨metalness, roughness, -⟩, opacity⟩ := kept
  simp only [mapNumbers, metalness, roughness, map_eq_self_of_mem_toList opacity]

/-- The numbers of a surface stand in the data that it is read from. -/
theorem readsNumbers : ReadsNumbers ofDatum? numbers := by
  intro datum material read x member
  obtain ⟨slots, fields, read⟩ := Option.bind_eq_some_iff.mp read
  split at read
  · simp only [Option.bind_eq_bind, Option.bind_eq_some_iff, Option.some.injEq] at read
    obtain ⟨_, -, _, -, metalness, metalnessRead, roughness, roughnessRead, _, -, opacity,
      opacityRead, _, -, rfl⟩ := read
    simp only [numbers, List.mem_append, List.mem_cons, List.not_mem_nil, or_false] at member
    rcases member with (rfl | rfl) | inOpacity
    · exact yields_of_fields? fields (by simp)
        (readsNumbers_toReal?.needed metalnessRead (by simp))
    · exact yields_of_fields? fields (by simp)
        (readsNumbers_toReal?.needed roughnessRead (by simp))
    · exact yields_of_fields? fields (by simp)
        (readsNumbers_toReal?.optional opacityRead (by simpa using inOpacity))
  · cases read

end Material

namespace Animation

/-- An animation with each number changed that need not be an integer. -/
def mapNumbers (change : Binary64 → Binary64) (animation : Animation) : Animation :=
  { animation with
    speed := animation.speed.map change
    amplitude := animation.amplitude.map change
    frequency := animation.frequency.map change
    radius := animation.radius.map change
    damping := animation.damping.map change }

/-- The numbers of a changed animation. -/
@[simp]
theorem numbers_mapNumbers (animation : Animation) :
    (animation.mapNumbers change).numbers = animation.numbers.map change := by
  simp [mapNumbers, numbers, Option.toList_map]

/-- An animation whose numbers stay. -/
theorem mapNumbers_eq_self {animation : Animation}
    (kept : ∀ x ∈ animation.numbers, change x = x) : animation.mapNumbers change = animation := by
  simp only [numbers, List.forall_mem_append] at kept
  obtain ⟨⟨⟨⟨speed, amplitude⟩, frequency⟩, radius⟩, damping⟩ := kept
  simp only [mapNumbers, map_eq_self_of_mem_toList speed, map_eq_self_of_mem_toList amplitude,
    map_eq_self_of_mem_toList frequency, map_eq_self_of_mem_toList radius,
    map_eq_self_of_mem_toList damping]

/-- The numbers of an animation stand in the data that it is read from. -/
theorem readsNumbers : ReadsNumbers ofDatum? numbers := by
  intro datum animation read x member
  obtain ⟨slots, fields, read⟩ := Option.bind_eq_some_iff.mp read
  have field {slot : Option Datum} (among : slot ∈ slots) {value : Option Binary64}
      (read : optional toReal? slot = some value) (member : x ∈ value.toList) :
      datum.Yields x :=
    yields_of_fields? fields among (readsNumbers_toReal?.optional read (by simpa using member))
  split at read
  · simp only [Option.bind_eq_bind, Option.bind_eq_some_iff, Option.some.injEq] at read
    obtain ⟨_, -, _, -, speed, speedRead, _, -, amplitude, amplitudeRead, frequency,
      frequencyRead, radius, radiusRead, damping, dampingRead, rfl⟩ := read
    simp only [numbers, List.mem_append] at member
    rcases member with (((inSpeed | inAmplitude) | inFrequency) | inRadius) | inDamping
    · exact field (by simp) speedRead inSpeed
    · exact field (by simp) amplitudeRead inAmplitude
    · exact field (by simp) frequencyRead inFrequency
    · exact field (by simp) radiusRead inRadius
    · exact field (by simp) dampingRead inDamping
  · cases read

end Animation

namespace SceneObject

/-- An object with each number changed that need not be an integer. -/
def mapNumbers (change : Binary64 → Binary64) (object : SceneObject) : SceneObject :=
  { object with
    geometry := object.geometry.mapNumbers change
    material := object.material.mapNumbers change
    position := object.position.mapNumbers change
    rotation := object.rotation.mapNumbers change
    scale := object.scale.mapNumbers change
    animation := object.animation.map (Animation.mapNumbers change) }

/-- The numbers of a changed object. -/
@[simp]
theorem numbers_mapNumbers (object : SceneObject) :
    (object.mapNumbers change).numbers = object.numbers.map change := by
  obtain ⟨id, name, geometry, material, position, rotation, scale, castShadow, receiveShadow,
    animation⟩ := object
  cases animation <;> simp [mapNumbers, numbers]

/-- An object whose numbers stay. -/
theorem mapNumbers_eq_self {object : SceneObject} (kept : ∀ x ∈ object.numbers, change x = x) :
    object.mapNumbers change = object := by
  simp only [numbers, List.forall_mem_append] at kept
  obtain ⟨⟨⟨⟨⟨geometry, material⟩, position⟩, rotation⟩, scale⟩, animation⟩ := kept
  have moved : object.animation.map (Animation.mapNumbers change) = object.animation :=
    map_eq_self_of_mem_toList fun given among => Animation.mapNumbers_eq_self
      fun x member => animation x (List.mem_flatMap.mpr ⟨given, among, member⟩)
  simp only [mapNumbers, Geometry.mapNumbers_eq_self geometry,
    Material.mapNumbers_eq_self material, Vec3.mapNumbers_eq_self position,
    Vec3.mapNumbers_eq_self rotation, Vec3.mapNumbers_eq_self scale, moved]

/-- The numbers of an object stand in the data that it is read from. -/
theorem readsNumbers : ReadsNumbers ofDatum? numbers := by
  intro datum object read x member
  obtain ⟨slots, fields, read⟩ := Option.bind_eq_some_iff.mp read
  split at read
  · simp only [Option.bind_eq_bind, Option.bind_eq_some_iff, Option.some.injEq] at read
    obtain ⟨_, -, _, -, _, -, geometry, geometryRead, material, materialRead, position,
      positionRead, rotation, rotationRead, scale, scaleRead, _, -, _, -, animation,
      animationRead, rfl⟩ := read
    simp only [numbers, List.mem_append] at member
    rcases member with ((((inGeometry | inMaterial) | inPosition) | inRotation) | inScale) |
      inAnimation
    · exact yields_of_fields? fields (by simp)
        (Geometry.readsNumbers.needed geometryRead inGeometry)
    · exact yields_of_fields? fields (by simp)
        (Material.readsNumbers.needed materialRead inMaterial)
    · exact yields_of_fields? fields (by simp) (Vec3.readsNumbers.needed positionRead inPosition)
    · exact yields_of_fields? fields (by simp) (Vec3.readsNumbers.needed rotationRead inRotation)
    · exact yields_of_fields? fields (by simp) (Vec3.readsNumbers.needed scaleRead inScale)
    · exact yields_of_fields? fields (by simp)
        (Animation.readsNumbers.optional animationRead inAnimation)
  · cases read

end SceneObject

/-! ## Lights -/

namespace ShadowFrame

/-- A box of shadows with each number changed. -/
def mapNumbers (change : Binary64 → Binary64) (frame : ShadowFrame) : ShadowFrame :=
  ⟨change frame.left, change frame.right, change frame.top, change frame.bottom,
    change frame.near, change frame.far⟩

/-- The numbers of a changed box of shadows. -/
@[simp]
theorem numbers_mapNumbers (frame : ShadowFrame) :
    (frame.mapNumbers change).numbers = frame.numbers.map change := rfl

/-- A box of shadows whose numbers stay. -/
theorem mapNumbers_eq_self {frame : ShadowFrame} (kept : ∀ x ∈ frame.numbers, change x = x) :
    frame.mapNumbers change = frame := by
  simp_all [mapNumbers, numbers]

/-- The numbers of a box of shadows stand in the data that it is read from. -/
theorem readsNumbers : ReadsNumbers ofDatum? numbers := by
  intro datum frame read x member
  obtain ⟨slots, fields, read⟩ := Option.bind_eq_some_iff.mp read
  have field {slot : Option Datum} (among : slot ∈ slots)
      (read : needed toReal? slot = some x) : datum.Yields x :=
    yields_of_fields? fields among (readsNumbers_toReal?.needed read (by simp))
  split at read
  · simp only [Option.bind_eq_bind, Option.bind_eq_some_iff, Option.some.injEq] at read
    obtain ⟨left, leftRead, right, rightRead, top, topRead, bottom, bottomRead, near, nearRead,
      far, farRead, rfl⟩ := read
    simp only [numbers, List.mem_cons, List.not_mem_nil, or_false] at member
    rcases member with rfl | rfl | rfl | rfl | rfl | rfl
    · exact field (by simp) leftRead
    · exact field (by simp) rightRead
    · exact field (by simp) topRead
    · exact field (by simp) bottomRead
    · exact field (by simp) nearRead
    · exact field (by simp) farRead
  · cases read

end ShadowFrame

namespace Shadow

/-- Shadows with each number changed that need not be an integer. -/
def mapNumbers (change : Binary64 → Binary64) (shadow : Shadow) : Shadow :=
  { shadow with frame := shadow.frame.mapNumbers change }

/-- The numbers of shadows stand in the data that they are read from. -/
theorem readsNumbers : ReadsNumbers ofDatum? fun shadow => shadow.frame.numbers := by
  intro datum shadow read x member
  obtain ⟨slots, fields, read⟩ := Option.bind_eq_some_iff.mp read
  split at read
  · simp only [Option.bind_eq_bind, Option.bind_eq_some_iff, Option.some.injEq] at read
    obtain ⟨_, -, frame, frameRead, rfl⟩ := read
    exact yields_of_fields? fields (by simp) (ShadowFrame.readsNumbers.needed frameRead member)
  · cases read

end Shadow

namespace Light

/-- A light with each number changed that need not be an integer. -/
def mapNumbers (change : Binary64 → Binary64) (light : Light) : Light :=
  { light with
    color := light.color.mapNumbers change
    intensity := change light.intensity
    position := light.position.map (Vec3.mapNumbers change)
    shadow := light.shadow.map (Shadow.mapNumbers change) }

/-- The numbers of a changed light. -/
@[simp]
theorem numbers_mapNumbers (light : Light) :
    (light.mapNumbers change).numbers = light.numbers.map change := by
  obtain ⟨id, kind, color, intensity, position, castShadow, shadow⟩ := light
  cases position <;> cases shadow <;> simp [mapNumbers, numbers, Shadow.mapNumbers]

/-- A light whose numbers stay. -/
theorem mapNumbers_eq_self {light : Light} (kept : ∀ x ∈ light.numbers, change x = x) :
    light.mapNumbers change = light := by
  simp only [numbers, List.forall_mem_append, List.forall_mem_cons] at kept
  obtain ⟨⟨⟨color, intensity, -⟩, position⟩, shadow⟩ := kept
  have placed : light.position.map (Vec3.mapNumbers change) = light.position :=
    map_eq_self_of_mem_toList fun given among => Vec3.mapNumbers_eq_self
      fun x member => position x (List.mem_flatMap.mpr ⟨given, among, member⟩)
  have shaded : light.shadow.map (Shadow.mapNumbers change) = light.shadow :=
    map_eq_self_of_mem_toList fun given among => by
      rw [Shadow.mapNumbers, ShadowFrame.mapNumbers_eq_self
        fun x member => shadow x (List.mem_flatMap.mpr ⟨given, among, member⟩)]
  simp only [mapNumbers, Rgb.mapNumbers_eq_self color, intensity, placed, shaded]

/-- The numbers of a light stand in the data that it is read from. -/
theorem readsNumbers : ReadsNumbers ofDatum? numbers := by
  intro datum light read x member
  obtain ⟨slots, fields, read⟩ := Option.bind_eq_some_iff.mp read
  split at read
  · simp only [Option.bind_eq_bind, Option.bind_eq_some_iff, Option.some.injEq] at read
    obtain ⟨_, -, _, -, color, colorRead, intensity, intensityRead, position, positionRead, _, -,
      shadow, shadowRead, rfl⟩ := read
    simp only [numbers, List.mem_append] at member
    rcases member with ((inColor | inIntensity) | inPosition) | inShadow
    · exact yields_of_fields? fields (by simp) (Rgb.readsNumbers.needed colorRead inColor)
    · exact yields_of_fields? fields (by simp)
        (readsNumbers_toReal?.needed intensityRead inIntensity)
    · exact yields_of_fields? fields (by simp)
        (Vec3.readsNumbers.optional positionRead inPosition)
    · exact yields_of_fields? fields (by simp) (Shadow.readsNumbers.optional shadowRead inShadow)
  · cases read

end Light

/-! ## Scenes -/

namespace Camera

/-- A camera with each number changed. -/
def mapNumbers (change : Binary64 → Binary64) (camera : Camera) : Camera :=
  ⟨camera.position.mapNumbers change, camera.lookAt.mapNumbers change, change camera.fov⟩

/-- The numbers of a changed camera. -/
@[simp]
theorem numbers_mapNumbers (camera : Camera) :
    (camera.mapNumbers change).numbers = camera.numbers.map change := rfl

/-- A camera whose numbers stay. -/
theorem mapNumbers_eq_self {camera : Camera} (kept : ∀ x ∈ camera.numbers, change x = x) :
    camera.mapNumbers change = camera := by
  simp only [numbers, List.forall_mem_append, List.forall_mem_cons] at kept
  obtain ⟨⟨position, lookAt⟩, fov, -⟩ := kept
  simp only [mapNumbers, Vec3.mapNumbers_eq_self position, Vec3.mapNumbers_eq_self lookAt, fov]

/-- The numbers of a camera stand in the data that it is read from. -/
theorem readsNumbers : ReadsNumbers ofDatum? numbers := by
  intro datum camera read x member
  obtain ⟨slots, fields, read⟩ := Option.bind_eq_some_iff.mp read
  split at read
  · simp only [Option.bind_eq_bind, Option.bind_eq_some_iff, Option.some.injEq] at read
    obtain ⟨position, positionRead, lookAt, lookAtRead, fov, fovRead, rfl⟩ := read
    simp only [numbers, List.mem_append] at member
    rcases member with (inPosition | inLookAt) | inFov
    · exact yields_of_fields? fields (by simp) (Vec3.readsNumbers.needed positionRead inPosition)
    · exact yields_of_fields? fields (by simp) (Vec3.readsNumbers.needed lookAtRead inLookAt)
    · exact yields_of_fields? fields (by simp) (readsNumbers_toReal?.needed fovRead inFov)
  · cases read

end Camera

namespace Fog

/-- Fog with each number changed. -/
def mapNumbers (change : Binary64 → Binary64) (fog : Fog) : Fog :=
  { fog with
    color := fog.color.mapNumbers change
    near := change fog.near
    far := change fog.far }

/-- The numbers of changed fog. -/
@[simp]
theorem numbers_mapNumbers (fog : Fog) :
    (fog.mapNumbers change).numbers = fog.numbers.map change := rfl

/-- Fog whose numbers stay. -/
theorem mapNumbers_eq_self {fog : Fog} (kept : ∀ x ∈ fog.numbers, change x = x) :
    fog.mapNumbers change = fog := by
  simp only [numbers, List.forall_mem_append, List.forall_mem_cons] at kept
  obtain ⟨color, near, far, -⟩ := kept
  simp only [mapNumbers, Rgb.mapNumbers_eq_self color, near, far]

/-- The numbers of fog stand in the data that it is read from. -/
theorem readsNumbers : ReadsNumbers ofDatum? numbers := by
  intro datum fog read x member
  obtain ⟨slots, fields, read⟩ := Option.bind_eq_some_iff.mp read
  split at read
  · simp only [Option.bind_eq_bind, Option.bind_eq_some_iff, Option.some.injEq] at read
    obtain ⟨_, -, color, colorRead, near, nearRead, far, farRead, rfl⟩ := read
    simp only [numbers, List.mem_append, List.mem_cons, List.not_mem_nil, or_false] at member
    rcases member with inColor | rfl | rfl
    · exact yields_of_fields? fields (by simp) (Rgb.readsNumbers.needed colorRead inColor)
    · exact yields_of_fields? fields (by simp) (readsNumbers_toReal?.needed nearRead (by simp))
    · exact yields_of_fields? fields (by simp) (readsNumbers_toReal?.needed farRead (by simp))
  · cases read

end Fog

namespace SceneContent

/-- What is to be seen with each number changed that need not be an integer. -/
def mapNumbers (change : Binary64 → Binary64) (content : SceneContent) : SceneContent where
  background := content.background.mapNumbers change
  fog := content.fog.mapNumbers change
  objects := content.objects.map (SceneObject.mapNumbers change)
  lights := content.lights.map (Light.mapNumbers change)
  camera := content.camera.mapNumbers change

/-- The numbers of what is to be seen after a change. -/
@[simp]
theorem numbers_mapNumbers (content : SceneContent) :
    (content.mapNumbers change).numbers = content.numbers.map change := by
  simp [mapNumbers, numbers, List.flatMap_map, List.map_flatMap]

/-- What is to be seen stays when its numbers stay. -/
theorem mapNumbers_eq_self {content : SceneContent}
    (kept : ∀ x ∈ content.numbers, change x = x) : content.mapNumbers change = content := by
  simp only [numbers, List.forall_mem_append] at kept
  obtain ⟨⟨⟨⟨background, fog⟩, objects⟩, lights⟩, camera⟩ := kept
  have objectsKept : content.objects.map (SceneObject.mapNumbers change) = content.objects :=
    map_eq_self_of_mem fun object among => SceneObject.mapNumbers_eq_self
      fun x member => objects x (List.mem_flatMap.mpr ⟨object, among, member⟩)
  have lightsKept : content.lights.map (Light.mapNumbers change) = content.lights :=
    map_eq_self_of_mem fun light among => Light.mapNumbers_eq_self
      fun x member => lights x (List.mem_flatMap.mpr ⟨light, among, member⟩)
  simp only [mapNumbers, Rgb.mapNumbers_eq_self background, Fog.mapNumbers_eq_self fog,
    objectsKept, lightsKept, Camera.mapNumbers_eq_self camera]

/-- The numbers of what is to be seen stand in the data that it is read from. -/
theorem readsNumbers : ReadsNumbers ofDatum? numbers := by
  intro datum content read x member
  obtain ⟨slots, fields, read⟩ := Option.bind_eq_some_iff.mp read
  split at read
  · simp only [Option.bind_eq_bind, Option.bind_eq_some_iff, Option.some.injEq] at read
    obtain ⟨background, backgroundRead, fog, fogRead, objects, objectsRead, lights, lightsRead,
      camera, cameraRead, rfl⟩ := read
    simp only [numbers, List.mem_append] at member
    rcases member with (((inBackground | inFog) | inObjects) | inLights) | inCamera
    · exact yields_of_fields? fields (by simp)
        (Rgb.readsNumbers.needed backgroundRead inBackground)
    · exact yields_of_fields? fields (by simp) (Fog.readsNumbers.needed fogRead inFog)
    · exact yields_of_fields? fields (by simp)
        (SceneObject.readsNumbers.toList?.needed objectsRead inObjects)
    · exact yields_of_fields? fields (by simp)
        (Light.readsNumbers.toList?.needed lightsRead inLights)
    · exact yields_of_fields? fields (by simp) (Camera.readsNumbers.needed cameraRead inCamera)
  · cases read

end SceneContent

namespace SceneRecord

/-- A scene with each number changed that need not be an integer. -/
def mapNumbers (change : Binary64 → Binary64) (record : SceneRecord) : SceneRecord :=
  { record with scene := record.scene.mapNumbers change }

/-- The numbers of a changed scene. -/
@[simp]
theorem numbers_mapNumbers (record : SceneRecord) :
    (record.mapNumbers change).numbers = record.numbers.map change :=
  record.scene.numbers_mapNumbers

/-- A scene whose numbers stay. -/
theorem mapNumbers_eq_self {record : SceneRecord} (kept : ∀ x ∈ record.numbers, change x = x) :
    record.mapNumbers change = record := by
  rw [mapNumbers, SceneContent.mapNumbers_eq_self kept]

/-- The numbers of a scene stand in the data that it is read from. -/
theorem readsNumbers : ReadsNumbers ofDatum? numbers := by
  intro datum record read x member
  obtain ⟨slots, fields, read⟩ := Option.bind_eq_some_iff.mp read
  split at read
  · simp only [Option.bind_eq_bind, Option.bind_eq_some_iff, Option.some.injEq] at read
    obtain ⟨_, -, _, -, _, -, scene, sceneRead, _, -, rfl⟩ := read
    exact yields_of_fields? fields (by simp) (SceneContent.readsNumbers.needed sceneRead member)
  · cases read

end SceneRecord

end ShapeScene
