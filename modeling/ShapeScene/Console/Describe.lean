import ShapeScene.Description.Reading
import ShapeScene.Scene.Record
import ShapeScene.Text.Quoted

/-!
# Scenes and readings in words

How a scene and the reading of a description are shown on a terminal.
-/

namespace ShapeScene.Console

/-- One object of a scene: name, color, place, and what moves. -/
def describeObject (object : SceneObject) : String :=
  "  - " ++ object.name ++ " (" ++ object.material.color ++ ") at (" ++
    Text.joinWith ", " (object.position.toList.map Binary64.text) ++ ")" ++
    match object.animation with
    | none => ""
    | some animation => " [" ++ animation.channel.name ++ "]"

/-- A scene: its name and title, then a line for each object. -/
def describeScene (record : SceneRecord) : String :=
  Text.joinWith "\n"
    (("\x1b[1mScene " ++ record.id ++ "\x1b[0m: " ++ record.name ++ " (" ++
      toString record.objectCount ++ " object(s))") :: record.scene.objects.map describeObject)

/-- How one phrase was read. -/
def describeOutcome (outcome : PhraseOutcome) : String :=
  match outcome.entity with
  | none => "  - " ++ Text.quoted outcome.phrase ++ " skipped (no shape)"
  | some entity =>
    "  + " ++ Text.quoted outcome.phrase ++ " -> " ++ entity.name ++ " (" ++ entity.material.name ++
      ", " ++ entity.color.toHex ++
      (match entity.animation with
        | none => ""
        | some kind => ", " ++ kind.name) ++ ")"

/-- How the phrases of a description were read. -/
def describeOutcomes (outcomes : List PhraseOutcome) : String :=
  if outcomes.isEmpty then "no phrases" else Text.joinWith "\n" (outcomes.map describeOutcome)

end ShapeScene.Console
