import ShapeScene.Scene.Assembly

/-!
# Names drawn for a scene

A scene draws its own name first and then one name per object, in the order of its entities. What it
draws depends on the source and on the entities, but neither on its options nor on the time.
-/

namespace ShapeScene

namespace IdSource

/-- Draws one after the other are draws at once. -/
theorem advance_advance (source : IdSource) (first second : Nat) :
    (source.advance first).advance second = source.advance (first + second) := by
  simp only [advance, Nat.add_assoc]

/-- An identifier ahead of a source that was advanced. -/
theorem uuidAhead_advance (source : IdSource) (drawn ahead : Nat) :
    (source.advance drawn).uuidAhead ahead = source.uuidAhead (drawn + ahead) := by
  simp only [uuidAhead, advance, Nat.add_assoc]

end IdSource

namespace SceneRecord

/-- The objects of entities, the name of each at its distance ahead of a source. -/
def objectsAhead (source : IdSource) (ahead : Nat) (entities : List Entity) : List SceneObject :=
  entities.mapIdx fun index entity =>
    SceneObject.ofEntity (IdSource.objectName (source.uuidAhead (ahead + index))) entity

/-- There is one object per entity. -/
@[simp]
theorem length_objectsAhead (source : IdSource) (ahead : Nat) (entities : List Entity) :
    (objectsAhead source ahead entities).length = entities.length :=
  List.length_mapIdx

/-- Objects ahead of a source that was advanced. -/
theorem objectsAhead_advance (source : IdSource) (drawn ahead : Nat) (entities : List Entity) :
    objectsAhead (source.advance drawn) ahead entities =
      objectsAhead source (drawn + ahead) entities := by
  simp only [objectsAhead, IdSource.uuidAhead_advance, Nat.add_assoc]

/-- The first object has the name that comes next. -/
theorem objectsAhead_cons (source : IdSource) (ahead : Nat) (entity : Entity)
    (entities : List Entity) :
    objectsAhead source ahead (entity :: entities) =
      SceneObject.ofEntity (IdSource.objectName (source.uuidAhead ahead)) entity ::
        objectsAhead source (ahead + 1) entities := by
  rw [objectsAhead, List.mapIdx_cons]
  simp only [objectsAhead, Nat.add_zero, Nat.add_assoc, Nat.add_comm 1]

/-- Objects draw one name each, in order. -/
theorem objectsOf_eq (source : IdSource) (entities : List Entity) :
    objectsOf source entities =
      (objectsAhead source 0 entities, source.advance entities.length) := by
  induction entities generalizing source with
  | nil => rfl
  | cons entity entities ih =>
    have rest := ih (source.advance 1)
    rw [objectsAhead_advance, IdSource.advance_advance] at rest
    simp only [objectsOf, IdSource.nextObjectId, rest, objectsAhead_cons, List.length_cons,
      Nat.add_comm, Nat.zero_add]

variable (entities : List Entity) (options : SceneOptions) (source : IdSource) (created : Moment)

/-- A scene draws one name for itself and one per object. -/
theorem assemble_source :
    (assemble entities options source created).2 = source.advance (1 + entities.length) := by
  simp only [assemble, IdSource.nextSceneId, objectsOf_eq, IdSource.advance_advance]

/-- The name of a scene is drawn before all others. -/
theorem assemble_id :
    (assemble entities options source created).1.id =
      IdSource.sceneName (source.uuidAhead 0) := rfl

/-- A scene has the options that it was assembled with. -/
theorem assemble_options :
    (assemble entities options source created).1.options = options := rfl

/-- The names of the objects are those behind the name of the scene. -/
theorem assemble_objects :
    (assemble entities options source created).1.scene.objects =
      objectsAhead source 1 entities := by
  simp only [assemble, IdSource.nextSceneId, objectsOf_eq, objectsAhead_advance]

end SceneRecord

end ShapeScene
