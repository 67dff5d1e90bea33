import ShapeScene.Description.Entity
import ShapeScene.Scene.Catalog
import ShapeScene.Scene.Identifier
import ShapeScene.Scene.Timestamp

/-!
# Assembling a scene

A scene has one object per entity, in the same order. Its name is drawn from the identifier source
first, and then one name per object.
-/

namespace ShapeScene

/-- The object of an entity under a given name. -/
def SceneObject.ofEntity (id : String) (entity : Entity) : SceneObject where
  id := id
  name := entity.name
  geometry := Catalog.geometry entity.shape
  material := Catalog.material entity.material entity.color
  position := entity.position
  rotation := entity.rotation
  scale := Vec3.uniform entity.scale
  castShadow := true
  receiveShadow := true
  animation := entity.animation.map Catalog.animation

namespace SceneRecord

/-- Objects for entities, with their names drawn in order. -/
def objectsOf : IdSource → List Entity → List SceneObject × IdSource
  | source, [] => ([], source)
  | source, entity :: entities =>
    let (id, afterObject) := source.nextObjectId
    let (objects, last) := objectsOf afterObject entities
    (SceneObject.ofEntity id entity :: objects, last)

/-- The title of a scene made at a given moment. -/
def titleAt (created : Moment) : String := "Generated Scene " ++ created.minuteText

/-- The scene of a list of entities, with the source after all names are drawn. -/
def assemble (entities : List Entity) (options : SceneOptions) (source : IdSource)
    (created : Moment) : SceneRecord × IdSource :=
  let (id, afterScene) := source.nextSceneId
  let (objects, last) := objectsOf afterScene entities
  ({ id := id
     name := titleAt created
     timestamp := created.isoText
     scene :=
       { background := Catalog.background
         fog := Catalog.fog
         objects := objects
         lights := Catalog.lights
         camera := Catalog.camera entities.length }
     options := options }, last)

end SceneRecord

end ShapeScene
