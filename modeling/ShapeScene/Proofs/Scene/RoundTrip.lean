import ShapeScene.Proofs.Data.Json.Documents
import ShapeScene.Proofs.Data.MessagePack.Documents
import ShapeScene.Proofs.Scene.Codec

/-!
# Scenes read back from files

A scene has at most six levels, and its words fit the words of both formats. So what JSON gives
back is the scene itself exactly when each of its numbers is read back from its own text, and what
MessagePack gives back is the scene itself whenever its texts and lists can be counted with the four
bytes that the format has for a count.
-/

namespace ShapeScene

open Datum

/-! ## Scenes can be written -/

/-- The names of all fields. -/
def fieldNames : List String :=
  ["id", "name", "timestamp", "scene", "options", "background", "fog", "objects", "lights",
    "camera", "enabled", "color", "near", "far", "position", "lookAt", "fov", "type", "intensity",
    "castShadow", "shadow", "mapSize", "left", "right", "top", "bottom", "geometry", "material",
    "rotation", "scale", "receiveShadow", "animation", "axis", "speed", "direction", "amplitude",
    "frequency", "radius", "damping", "metalness", "roughness", "transparent", "opacity", "side",
    "width", "height", "depth", "widthSegments", "heightSegments", "radiusTop", "radiusBottom",
    "radialSegments", "tube", "tubularSegments", "animate", "interactive", "autoRotate"]

/-- The names of fields are short. -/
theorem fieldNames_short : ∀ name ∈ fieldNames, (Text.utf8 name).length < 32 := by decide

/-- The names of all kinds. -/
def kindNames : List String :=
  Geometry.tags ++ [shadingName, objectKindName] ++ Side.all.map Side.name ++
    AnimationChannel.all.map AnimationChannel.name ++ Axis.all.map Axis.name ++
    LightKind.all.map LightKind.name

/-- The names of kinds are short. -/
theorem kindNames_short : ∀ name ∈ kindNames, (Text.utf8 name).length < 32 := by decide

section Writable

variable {fits : Nat → Prop} (small : ∀ count < 32, fits count) (levels : Nat)

/-- An unsigned word can be written. -/
@[simp]
theorem isWritable_uint32 (word : UInt32) : IsWritable fits levels (datumOfUInt32 word) := by
  have bound := word.toNat_lt
  simp only [datumOfUInt32, unsigned, IsWritable]
  omega

/-- A signed word can be written. -/
@[simp]
theorem isWritable_int8 (word : Int8) : IsWritable fits levels (datumOfInt8 word) := by
  have low := word.le_toInt
  have high := word.toInt_lt
  simp only [datumOfInt8, IsWritable]
  omega

include small

/-- A list of three numbers can be written. -/
theorem isWritable_reals (x y z : Binary64) : IsWritable fits (levels + 1) (reals [x, y, z]) := by
  refine ⟨small 3 (by decide), ?_⟩
  simp [IsWritable]

/-- A structure with fields of known names can be written when the fields that are there can. -/
theorem isWritable_fields {fields : List (String × Option Datum)} (few : fields.length < 32)
    (known : ∀ field ∈ fields, field.1 ∈ fieldNames)
    (each : ∀ field ∈ fields, ∀ value ∈ field.2, IsWritable fits levels value) :
    IsWritable fits (levels + 1) (.object (present fields)) :=
  isWritable_present small few (fun field member => fieldNames_short _ (known field member)) each

/-- The name of a kind can be written. -/
theorem isWritable_kind (name : String) (known : name ∈ kindNames) :
    IsWritable fits levels (.text name) := by
  simp only [IsWritable]
  exact small _ (kindNames_short name known)

/-- A vector can be written. -/
theorem Vec3.isWritable (v : Vec3) : IsWritable fits (levels + 1) v.toDatum :=
  isWritable_reals small levels v.x v.y v.z

/-- A color can be written. -/
theorem Rgb.isWritable (color : Rgb) : IsWritable fits (levels + 1) color.toDatum :=
  isWritable_reals small levels color.red color.green color.blue

/-- Options can be written. -/
theorem SceneOptions.isWritable (options : SceneOptions) :
    IsWritable fits (levels + 1) options.toDatum := by
  rw [toDatum_eq]
  apply isWritable_fields small levels <;> simp [fields, fieldNames, IsWritable]

/-- A form can be written. -/
theorem Geometry.isWritable (geometry : Geometry) :
    IsWritable fits (levels + 1) geometry.toDatum := by
  have tag : geometry.tag ∈ kindNames := by cases geometry <;> simp [Geometry.tag, kindNames, tags]
  have name := isWritable_kind small levels _ tag
  rw [toDatum_eq, ← present_cons_some]
  apply isWritable_fields small levels <;>
    cases geometry <;> simp_all [fields, fieldNames, IsWritable]

/-- A surface can be written. -/
theorem Material.isWritable (material : Material)
    (color : fits (Text.utf8 material.color).length) :
    IsWritable fits (levels + 1) material.toDatum := by
  have shading := isWritable_kind small levels shadingName (by decide)
  have side := isWritable_kind small levels material.side.name (by
    cases material.side <;> decide)
  rw [toDatum_eq]
  apply isWritable_fields small levels <;> simp_all [fields, fieldNames, IsWritable]

/-- An animation can be written. -/
theorem Animation.isWritable (animation : Animation) :
    IsWritable fits (levels + 1) animation.toDatum := by
  have channel := isWritable_kind small levels animation.channel.name (by
    cases animation.channel <;> decide)
  have axis := isWritable_kind small levels animation.axis.name (by
    cases animation.axis <;> decide)
  rw [toDatum_eq]
  apply isWritable_fields small levels <;> simp_all [fields, fieldNames, IsWritable]

/-- An object can be written when its texts can. -/
theorem SceneObject.isWritable (object : SceneObject)
    (texts : ∀ text ∈ object.texts, fits (Text.utf8 text).length) :
    IsWritable fits (levels + 2) object.toDatum := by
  have kind := isWritable_kind small (levels + 1) objectKindName (by decide)
  have geometry := object.geometry.isWritable small levels
  have position := object.position.isWritable small levels
  have rotation := object.rotation.isWritable small levels
  have scale := object.scale.isWritable small levels
  have animation := fun animation : Animation => animation.isWritable small levels
  simp only [SceneObject.texts, List.forall_mem_cons] at texts
  have material := object.material.isWritable small levels texts.2.2.1
  rw [toDatum_eq]
  apply isWritable_fields small (levels + 1) <;> simp_all [fields, fieldNames, IsWritable]

/-- The box of shadows can be written. -/
theorem ShadowFrame.isWritable (frame : ShadowFrame) :
    IsWritable fits (levels + 1) frame.toDatum := by
  rw [toDatum_eq]
  apply isWritable_fields small levels <;> simp [fields, fieldNames, IsWritable]

/-- Shadows can be written. -/
theorem Shadow.isWritable (shadow : Shadow) : IsWritable fits (levels + 2) shadow.toDatum := by
  have frame := shadow.frame.isWritable small levels
  rw [toDatum_eq]
  apply isWritable_fields small (levels + 1) <;> simp_all [fields, fieldNames]

/-- A light can be written when its identifier can. -/
theorem Light.isWritable (light : Light) (id : fits (Text.utf8 light.id).length) :
    IsWritable fits (levels + 3) light.toDatum := by
  have kind := isWritable_kind small (levels + 2) light.kind.name (by
    cases light.kind <;> decide)
  have color := light.color.isWritable small (levels + 1)
  have position := fun position : Vec3 => position.isWritable small (levels + 1)
  have shadow := fun shadow : Shadow => shadow.isWritable small levels
  rw [toDatum_eq]
  apply isWritable_fields small (levels + 2) <;>
    simp_all [fields, fieldNames, IsWritable, -Bool.exists_bool, -Bool.forall_bool]

/-- A camera can be written. -/
theorem Camera.isWritable (camera : Camera) : IsWritable fits (levels + 2) camera.toDatum := by
  have position := camera.position.isWritable small levels
  have lookAt := camera.lookAt.isWritable small levels
  rw [toDatum_eq]
  apply isWritable_fields small (levels + 1) <;> simp_all [fields, fieldNames, IsWritable]

/-- Fog can be written. -/
theorem Fog.isWritable (fog : Fog) : IsWritable fits (levels + 2) fog.toDatum := by
  have color := fog.color.isWritable small levels
  rw [toDatum_eq]
  apply isWritable_fields small (levels + 1) <;> simp_all [fields, fieldNames, IsWritable]

end Writable

/-- Content can be written when its counts can be said: the lengths of its texts in bytes, and the
numbers of its objects and lights. It has five levels. -/
theorem SceneContent.isWritable {fits : Nat → Prop} (small : ∀ count < 32, fits count)
    {content : SceneContent}
    (objectTexts : ∀ object ∈ content.objects, ∀ text ∈ object.texts,
      fits (Text.utf8 text).length)
    (lightTexts : ∀ light ∈ content.lights, fits (Text.utf8 light.id).length)
    (objectCount : fits content.objects.length) (lightCount : fits content.lights.length)
    (levels : Nat) : IsWritable fits (levels + 5) content.toDatum := by
  have objects : IsWritable fits (levels + 4)
      (.list (content.objects.map SceneObject.toDatum)) := by
    refine ⟨by rwa [List.length_map], fun datum member => ?_⟩
    obtain ⟨object, among, rfl⟩ := List.mem_map.mp member
    exact object.isWritable small (levels + 1) (objectTexts object among)
  have lights : IsWritable fits (levels + 4) (.list (content.lights.map Light.toDatum)) := by
    refine ⟨by rwa [List.length_map], fun datum member => ?_⟩
    obtain ⟨light, among, rfl⟩ := List.mem_map.mp member
    exact light.isWritable small levels (lightTexts light among)
  have background := content.background.isWritable small (levels + 3)
  have fog := content.fog.isWritable small (levels + 2)
  have camera := content.camera.isWritable small (levels + 2)
  rw [toDatum_eq]
  apply isWritable_fields small (levels + 4) <;> simp_all [fields, fieldNames]

/-- Whether the counts of a scene are among those that a format can say: the lengths of its texts
in bytes, and the numbers of its objects and lights. -/
structure SceneRecord.Fits (record : SceneRecord) (fits : Nat → Prop) : Prop where
  /-- The lengths of texts. -/
  texts : ∀ text ∈ record.texts, fits (Text.utf8 text).length
  /-- The number of objects. -/
  objects : fits record.scene.objects.length
  /-- The number of lights. -/
  lights : fits record.scene.lights.length

/-- A scene can be written when its counts can be said; it has six levels. -/
theorem SceneRecord.isWritable {fits : Nat → Prop} (small : ∀ count < 32, fits count)
    {record : SceneRecord} (fit : record.Fits fits) (levels : Nat) :
    IsWritable fits (levels + 6) record.toDatum := by
  obtain ⟨texts, objectCount, lightCount⟩ := fit
  simp only [SceneRecord.texts, List.forall_mem_append, List.forall_mem_cons] at texts
  obtain ⟨⟨⟨id, name, timestamp, -⟩, objectTexts⟩, lightTexts⟩ := texts
  have content := record.scene.isWritable small
    (fun object among text inObject =>
      objectTexts text (List.mem_flatMap.mpr ⟨object, among, inObject⟩))
    (fun light among => lightTexts _ (List.mem_map_of_mem among)) objectCount lightCount levels
  have options := record.options.isWritable small (levels + 4)
  rw [toDatum_eq]
  apply isWritable_fields small (levels + 5) <;> simp_all [fields, fieldNames, IsWritable]

/-! ## Round trips -/

/-- JSON reads no number as one of the bytes of a string. -/
theorem Json.rereading_lawful : Json.rereading.Lawful where
  form := fun value same => by cases same
  real := Json.reread_ne_byte

/-- MessagePack reads no number as one of the bytes of a string. -/
theorem MessagePack.rereading_lawful : MessagePack.rereading.Lawful where
  form := fun value => by
    simp only [MessagePack.rereading, MessagePack.formOf]
    (repeat' split) <;> decide
  real := fun x value same => by cases same

/-- MessagePack keeps every number. -/
theorem MessagePack.rereading_keeps (x : Binary64) : MessagePack.rereading.Keeps x := rfl

namespace SceneRecord

/-- What a JSON file holds. -/
theorem ofBytes_json_eq_ok (content : List UInt8) (record : SceneRecord) :
    ofBytes .json content = .ok record ↔ (Json.read? content).bind ofDatum? = some record := by
  simp only [ofBytes]
  cases (Json.read? content).bind ofDatum? <;> simp

/-- What a MessagePack file holds. -/
theorem ofBytes_messagePack_eq_ok (content : List UInt8) (record : SceneRecord) :
    ofBytes .messagePack content = .ok record ↔
      (MessagePack.read? content).bind ofDatum? = some record := by
  simp only [ofBytes]
  cases (MessagePack.read? content).bind ofDatum? <;> simp

/-- JSON gives a scene back exactly when it gives each of its numbers back. -/
theorem ofBytes_json (record : SceneRecord) :
    ofBytes .json (record.toBytes .json) = .ok record ↔
      ∀ x ∈ record.numbers, Json.ReadsBack x := by
  have fit : record.Fits fun _ => True := ⟨fun _ _ => trivial, trivial, trivial⟩
  have writable := record.isWritable (fun _ _ => trivial) fit 121
  have read := Json.read?_textOf writable (.indented 0)
  rw [ofBytes_json_eq_ok, toBytes, toJson, Json.pretty, read, Option.bind_some,
    ofDatum?_reread Json.rereading_lawful]
  rfl

/-- MessagePack gives a scene back when its counts take at most four bytes. -/
theorem ofBytes_messagePack {record : SceneRecord} (fit : record.Fits MessagePack.Counts) :
    ofBytes .messagePack (record.toBytes .messagePack) = .ok record := by
  have small : ∀ count < 32, MessagePack.Counts count := by
    intro count bound
    change count < 2 ^ 32
    omega
  have writable := record.isWritable small fit 0
  have read := MessagePack.read?_bytesOf writable (by decide)
  rw [ofBytes_messagePack_eq_ok, toBytes, read, Option.bind_some,
    ofDatum?_reread MessagePack.rereading_lawful]
  exact fun x _ => MessagePack.rereading_keeps x

/-- Whatever a scene holds, JSON gives it back exactly when each of its numbers is read back from
its own text, and MessagePack gives it back when its counts take at most four bytes. -/
theorem read_back_from_files (record : SceneRecord) :
    (ofJson record.toJson = .ok record ↔ ∀ x ∈ record.numbers, Json.ReadsBack x) ∧
      (ofBytes .json (record.toBytes .json) = .ok record ↔
        ∀ x ∈ record.numbers, Json.ReadsBack x) ∧
      (record.Fits MessagePack.Counts →
        ofBytes .messagePack (record.toBytes .messagePack) = .ok record) :=
  ⟨record.ofBytes_json, record.ofBytes_json, fun fit => ofBytes_messagePack fit⟩

/-- A scene of one object and one light that leaves out some of what it can and writes the rest. -/
def lantern : SceneRecord where
  id := "läntern"
  name := "a \"lantern\"\n"
  timestamp := ""
  scene :=
    { background := ⟨0, 0.5, 1⟩
      fog := ⟨false, ⟨0, 0, 0⟩, 1, 100⟩
      objects :=
        [{ id := "object-1"
           name := "\x01"
           geometry := .sphere 0.5 32 16
           material := ⟨"#FFD700", 1, 0.3, true, some 0.25, .double⟩
           position := ⟨0, -1.5, 0⟩
           rotation := ⟨0, 0, 0⟩
           scale := ⟨1, 1, 1⟩
           castShadow := true
           receiveShadow := false
           animation := some ⟨.orbit, .every, some 0.02, some (-1), none, none, some 3, none⟩ }]
      lights :=
        [{ id := ""
           kind := .directional
           color := ⟨1, 1, 1⟩
           intensity := 0.8
           position := some ⟨5, 10, 5⟩
           castShadow := some false
           shadow := some ⟨2048, ⟨-10, 10, 10, -10, 0.1, 50⟩⟩ }]
      camera := ⟨⟨0, 2, 10⟩, ⟨0, 0, 0⟩, 75⟩ }
  options := ⟨true, false, true⟩

/-- The lantern is read back from both formats. -/
theorem lantern_read_back_from_files :
    lantern.Fits MessagePack.Counts ∧
      ofBytes .messagePack (lantern.toBytes .messagePack) = .ok lantern ∧
      ofJson lantern.toJson = .ok lantern := by
  have fit : lantern.Fits MessagePack.Counts := ⟨by decide, by decide, by decide⟩
  obtain ⟨json, -, messagePack⟩ := read_back_from_files lantern
  exact ⟨fit, messagePack fit, json.mpr (by decide +kernel)⟩

/-! ## What is lost -/

/-- A scene with nothing in it. -/
def bare (id : String) (fov : Binary64) : SceneRecord where
  id := id
  name := ""
  timestamp := ""
  scene :=
    { background := ⟨0, 0, 0⟩
      fog := ⟨false, ⟨0, 0, 0⟩, 0, 0⟩
      objects := []
      lights := []
      camera := ⟨⟨0, 0, 0⟩, ⟨0, 0, 0⟩, fov⟩ }
  options := ⟨false, false, false⟩

/-- A scene with nothing in it is read back when its texts are not too long. -/
theorem ofBytes_of_bare {record : SceneRecord} (nothing : record.scene = (bare "" 75).scene)
    (short : record.Fits MessagePack.Counts) (format : StoreFormat) :
    ofBytes format (record.toBytes format) = .ok record := by
  cases format with
  | messagePack => exact ofBytes_messagePack short
  | json =>
    have numbers : record.numbers = [0, 0, 0, 0, 0, 0, 0, 0, 0, 0, 0, 0, 0, 0, 75] := by
      rw [SceneRecord.numbers, nothing]
      rfl
    rw [ofBytes_json, numbers]
    decide +kernel

/-- A scene with nothing in it, made at a time. -/
def bareAt (id timestamp : String) : SceneRecord := { bare id 75 with timestamp := timestamp }

/-- A scene with nothing in it that was made at a time is read back. -/
theorem ofBytes_bareAt {id timestamp : String}
    (short : (bareAt id timestamp).Fits MessagePack.Counts) (format : StoreFormat) :
    ofBytes format ((bareAt id timestamp).toBytes format) = .ok (bareAt id timestamp) := by
  have nothing : (bareAt id timestamp).scene = (bare "" 75).scene := rfl
  exact ofBytes_of_bare nothing short format

/-- An identifier of so many letters. -/
def longId (count : Nat) : String := String.ofList (List.replicate count 'a')

/-- The bytes of a long identifier. -/
theorem utf8_longId (count : Nat) : Text.utf8 (longId count) = List.replicate count 0x61 := by
  have letter : String.utf8EncodeChar 'a' = [0x61] := by decide
  rw [longId, Text.utf8_ofList, List.flatMap_replicate, letter, List.flatten_replicate_singleton]

/-- The first bytes of a scene whose identifier has a length that wraps to zero. -/
def wrappedFront : List UInt8 :=
  [0x85, 0xA2, 0x69, 0x64, 0xDB, 0, 0, 0, 0] ++ List.replicate 8 0x61

/-- What these bytes are read as: an empty identifier, and letters as keys and values. -/
def wrappedDatum : Datum :=
  .map ((.text "id", .text "") ::
    List.replicate 4 (.integer .unsigned8 0x61, .integer .unsigned8 0x61))

/-- An identifier whose length wraps to zero is read as no letters at all; the letters are taken
for the remaining keys and values, so the name of the scene is missing. -/
theorem ofBytes_longId {count : Nat} (wraps : count = 2 ^ 32) (fov : Binary64) :
    ofBytes .messagePack ((bare (longId count) fov).toBytes .messagePack) =
      .error unreadableData := by
  have head : MessagePack.textHead count = [0xDB, 0, 0, 0, 0] := by
    subst wraps
    decide
  have letters : List.replicate count (0x61 : UInt8) =
      List.replicate 8 0x61 ++ List.replicate (count - 8) 0x61 := by
    rw [List.replicate_append_replicate, show 8 + (count - 8) = count by omega]
  have written : ∃ rest, (bare (longId count) fov).toBytes .messagePack = wrappedFront ++ rest := by
    have map : MessagePack.mapHead 5 = [0x85] := by decide
    simp only [toBytes, toDatum, bare, Datum.object, List.map_cons, List.map_nil,
      MessagePack.bytesOf, MessagePack.entryBytes, List.length_cons, List.length_nil, map,
      MessagePack.textBytes, utf8_longId, List.length_replicate, head]
    rw [letters]
    exact ⟨_, rfl⟩
  have read : ∀ rest, MessagePack.read? (wrappedFront ++ rest) = some wrappedDatum :=
    fun rest => rfl
  have lost : ofDatum? wrappedDatum = none := rfl
  obtain ⟨rest, bytes⟩ := written
  simp only [ofBytes, bytes, read, Option.bind_some, lost]

/-- Two scenes of finite numbers that are not read back: one whose numbers are all read back by
themselves, from MessagePack, and one of an ordinary size, from JSON. -/
theorem scenes_lost_in_files :
    ((∀ x ∈ (bare (longId (2 ^ 32)) 75).numbers, x.isFinite = true ∧ Json.ReadsBack x) ∧
      ofBytes .messagePack ((bare (longId (2 ^ 32)) 75).toBytes .messagePack) =
        .error unreadableData) ∧
    ((∀ x ∈ (bare "a" (1 / 11)).numbers, x.isFinite = true) ∧
      ofJson (bare "a" (1 / 11)).toJson ≠ .ok (bare "a" (1 / 11))) := by
  have numbers : ∀ id fov, (bare id fov).numbers =
      [0, 0, 0, 0, 0, 0, 0, 0, 0, 0, 0, 0, 0, 0, fov] := fun _ _ => rfl
  refine ⟨⟨?_, ofBytes_longId rfl 75⟩, ?_, ?_⟩
  · rw [numbers]
    decide +kernel
  · rw [numbers]
    decide +kernel
  · intro read
    have kept := (ofBytes_json _).mp read (1 / 11) (by simp [numbers])
    revert kept
    decide +kernel

end SceneRecord

end ShapeScene
