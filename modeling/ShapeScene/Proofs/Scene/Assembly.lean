import ShapeScene.Proofs.Scene.Drawing
import ShapeScene.Scene.SeededIds

/-!
# What a scene has of its entities and what of its source

Each object of a scene is the picture of one entity under a name of its own. The pictures come from
the entities alone and the names from the source alone, so a change of the one leaves no trace in
what comes from the other.
-/

namespace ShapeScene

/-- Whether an object is the picture of an entity, called after an identifier. -/
structure SceneObject.Pictures (object : SceneObject) (entity : Entity) (called : Uuid) :
    Prop where
  /-- It is called after the identifier. -/
  id : object.id = "obj_" ++ String.ofList called.hyphenatedText
  /-- It has the name of the entity. -/
  name : object.name = entity.name
  /-- It has the form of the entity's shape. -/
  geometry : object.geometry = Catalog.geometry entity.shape
  /-- It has the surface of the entity's material and color. -/
  material : object.material = Catalog.material entity.material entity.color
  /-- It stands where the entity stands. -/
  position : object.position = entity.position
  /-- It is turned as the entity is. -/
  rotation : object.rotation = entity.rotation
  /-- It has the size of the entity along every axis. -/
  scale : object.scale = ⟨entity.scale, entity.scale, entity.scale⟩
  /-- It moves as the entity does. -/
  animation : object.animation = entity.animation.map Catalog.animation

/-- The object that is made for an entity is its picture. -/
theorem SceneObject.pictures_ofEntity (entity : Entity) (called : Uuid) :
    (SceneObject.ofEntity (IdSource.objectName called) entity).Pictures entity called where
  id := by
    rw [ofEntity, IdSource.objectName, String.ofList_append, String.ofList_toList]
  name := rfl
  geometry := rfl
  material := rfl
  position := rfl
  rotation := rfl
  scale := rfl
  animation := rfl

namespace SceneRecord

/-- A scene whose own name and the names of whose objects are left out. -/
def nameless (record : SceneRecord) : SceneRecord :=
  { record with
    id := ""
    scene := { record.scene with
      objects := record.scene.objects.map fun object => { object with id := "" } } }

/-- The name of a scene and those of its objects, in order. -/
def drawnNames (record : SceneRecord) : List String :=
  record.id :: record.scene.objects.map SceneObject.id

/-- A scene of entities whose names are drawn from a source, and the source behind it. -/
structure Portrays (record : SceneRecord) (entities : List Entity) (source behind : IdSource) :
    Prop where
  /-- The scene is called after the first eight digits of the identifier that comes first. -/
  id : record.id = String.ofList ((source.uuidAhead 0).digits 0 8)
  /-- There is one object per entity. -/
  count : record.scene.objects.length = entities.length
  /-- Each object is the picture of the entity in its place, and is called after the identifier that
  comes next. -/
  objects : ∀ (index : Nat) object entity, record.scene.objects[index]? = some object →
    entities[index]? = some entity → object.Pictures entity (source.uuidAhead (index + 1))
  /-- One identifier is drawn for the scene and one for each entity. -/
  drawn : behind = source.advance (1 + entities.length)

variable (entities : List Entity) (options : SceneOptions) (source : IdSource) (created : Moment)

/-- The object in a place is the one made for the entity in that place. -/
theorem getElem?_objectsAhead (ahead index : Nat) :
    (objectsAhead source ahead entities)[index]? =
      entities[index]?.map fun entity =>
        SceneObject.ofEntity (IdSource.objectName (source.uuidAhead (ahead + index))) entity := by
  rw [objectsAhead, List.getElem?_mapIdx]

/-- Without their names, objects do not depend on what is drawn. -/
theorem nameless_objectsAhead (ahead : Nat) :
    ((objectsAhead source ahead entities).map fun object => { object with id := "" }) =
      entities.map (SceneObject.ofEntity "") := by
  apply List.ext_getElem?
  intro index
  rw [List.getElem?_map, getElem?_objectsAhead, List.getElem?_map, Option.map_map]
  rfl

/-- The names of objects depend on nothing but their number and what is drawn. -/
theorem ids_objectsAhead (ahead : Nat) :
    (objectsAhead source ahead entities).map SceneObject.id =
      (List.range entities.length).map fun index =>
        IdSource.objectName (source.uuidAhead (ahead + index)) := by
  apply List.ext_getElem
  · rw [List.length_map, length_objectsAhead, List.length_map, List.length_range]
  · intro index _ _
    simp only [objectsAhead, List.getElem_map, List.getElem_mapIdx, List.getElem_range,
      SceneObject.ofEntity]

/-- A scene portrays the entities that it is assembled from. -/
theorem portrays_assemble :
    (assemble entities options source created).1.Portrays entities source
      (assemble entities options source created).2 where
  id := assemble_id entities options source created
  count := by rw [assemble_objects, length_objectsAhead]
  objects := by
    intro index object entity shown given
    rw [assemble_objects, getElem?_objectsAhead, given, Option.map_some, Nat.add_comm] at shown
    rw [← Option.some.inj shown]
    exact SceneObject.pictures_ofEntity entity (source.uuidAhead (index + 1))
  drawn := assemble_source entities options source created

/-- Without its names, a scene does not depend on what is drawn. -/
theorem nameless_assemble :
    (assemble entities options source created).1.nameless =
      { id := ""
        name := titleAt created
        timestamp := created.isoText
        scene :=
          { background := Catalog.background
            fog := Catalog.fog
            objects := entities.map (SceneObject.ofEntity "")
            lights := Catalog.lights
            camera := Catalog.camera entities.length }
        options := options } := by
  rw [nameless, assemble_objects, nameless_objectsAhead]
  rfl

/-- The names in a scene depend on nothing but the number of entities and what is drawn. -/
theorem drawnNames_assemble :
    (assemble entities options source created).1.drawnNames =
      IdSource.sceneName (source.uuidAhead 0) ::
        (List.range entities.length).map fun index =>
          IdSource.objectName (source.uuidAhead (1 + index)) := by
  rw [drawnNames, assemble_objects, ids_objectsAhead, assemble_id]

/-- A scene portrays its entities one by one under the names that come next. Scenes of the same
entities from different sources differ in names only, and lists of equally many entities draw the
same names from the same source. -/
theorem assemble_keeps_names_apart :
    (assemble entities options source created).1.Portrays entities source
        (assemble entities options source created).2 ∧
      (∀ other : IdSource, (assemble entities options other created).1.nameless =
        (assemble entities options source created).1.nameless) ∧
      ∀ (others : List Entity) (otherOptions : SceneOptions) (later : Moment),
        others.length = entities.length →
        (assemble others otherOptions source later).1.drawnNames =
            (assemble entities options source created).1.drawnNames ∧
          (assemble others otherOptions source later).2 =
            (assemble entities options source created).2 := by
  refine ⟨portrays_assemble entities options source created, ?_, ?_⟩
  · intro other
    rw [nameless_assemble, nameless_assemble]
  · intro others otherOptions later equallyMany
    rw [drawnNames_assemble, drawnNames_assemble, assemble_source, assemble_source, equallyMany]
    exact ⟨rfl, rfl⟩

/-- Two scenes of two entities each that have nothing in common but their seed have the same
names. -/
theorem assemble_keeps_names_apart_pairs :
    [Entity.plain .cone .blue, .plain .plane .gold].length =
        [Entity.plain .cube .red, .plain .cube .red].length ∧
      (assemble [.plain .cone .blue, .plain .plane .gold] (.of true false) (SeededIds.source 7)
          ⟨2024, 3, 9, 14, 5, 30, 250000⟩).1.drawnNames =
        (assemble [.plain .cube .red, .plain .cube .red] (.of false true) (SeededIds.source 7)
          ⟨1999, 12, 31, 23, 59, 59, 1999999999⟩).1.drawnNames := by
  have equallyMany : [Entity.plain .cone .blue, .plain .plane .gold].length =
      [Entity.plain .cube .red, .plain .cube .red].length := rfl
  obtain ⟨-, -, sameNames⟩ := assemble_keeps_names_apart [.plain .cube .red, .plain .cube .red]
    (.of false true) (SeededIds.source 7) ⟨1999, 12, 31, 23, 59, 59, 1999999999⟩
  exact ⟨equallyMany, (sameNames _ _ _ equallyMany).1⟩

end SceneRecord

end ShapeScene
