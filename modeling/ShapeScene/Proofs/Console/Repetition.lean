import ShapeScene.Proofs.Console.Account
import ShapeScene.Scene.SeededIds

/-!
# Sessions that make the same scenes

What a scene draws depends on the vocabulary, the source and the description. Hence two sessions
with one source and one vocabulary that describe the same scenes name and build them alike, whatever
else is typed in between.
-/

namespace ShapeScene

/-- The name of a scene and its objects, which have names too. -/
def Generated.drawn (generated : Generated) : String × List SceneObject :=
  (generated.scene.id, generated.scene.scene.objects)

namespace Console

namespace Desk

/-- The scene that a line makes, if it is a description that succeeds. -/
def madeBy? (desk : Desk) (line : Line) : Option Generated :=
  match Command.parse line.text, desk.answer line with
  | .ok (.describe _), .ok _ => (desk.after line).session.last
  | _, _ => none

/-- The scenes that lines make, in order. -/
def made : Desk → List Line → List Generated
  | _, [] => []
  | desk, line :: lines => (desk.madeBy? line).toList ++ made (desk.after line) lines

variable (desk : Desk) (line : Line)

/-- A line that makes no scene draws no names. -/
theorem ids_of_madeBy?_eq_none (nothing : desk.madeBy? line = none) :
    (desk.after line).session.ids = desk.session.ids := by
  cases answered : desk.answer line with
  | error error => rw [desk.session_of_error line answered]
  | ok reply =>
    cases read : Command.parse line.text with
    | error unread => rw [(desk.answer_of_unreadable line read).2]
    | ok command =>
      have outcome := desk.line_outcome line read
      rw [answered] at outcome
      simp only [madeBy?, read, answered] at nothing
      generalize (desk.after line).session = behind at outcome nothing
      cases outcome with
      | describing =>
        rw [Session.made_last] at nothing
        exact absurd nothing (Option.some_ne_none _)
      | loading | setting => rfl

/-- The scene that a line makes has the names that come next, and these are drawn. -/
theorem madeBy?_eq_some {generated : Generated} (one : desk.madeBy? line = some generated) :
    generated.scene.id = IdSource.sceneName (desk.session.ids.uuidAhead 0) ∧
      generated.scene.scene.objects = SceneRecord.objectsAhead desk.session.ids 1
        (desk.session.vocabulary.parse generated.description) ∧
      (desk.after line).session.ids = desk.session.ids.advance
        (1 + (desk.session.vocabulary.parse generated.description).length) := by
  unfold madeBy? at one
  split at one
  · rename_i description reply read succeeded
    obtain ⟨-, behind⟩ := desk.described_after line read succeeded
    rw [behind, Session.made_last] at one
    obtain rfl := Option.some.inj one
    rw [behind, Session.made_ids]
    simp only [Session.sceneOf_id, Session.sceneOf_objects, and_self]
  · cases one

end Desk

/-- The names and the objects of scenes that are made one after the other. -/
def drawnFor (vocabulary : Vocabulary) : IdSource → List String → List (String × List SceneObject)
  | _, [] => []
  | ids, description :: descriptions =>
    let entities := vocabulary.parse description
    (IdSource.sceneName (ids.uuidAhead 0), SceneRecord.objectsAhead ids 1 entities) ::
      drawnFor vocabulary (ids.advance (1 + entities.length)) descriptions

/-- What is drawn first depends on the first descriptions alone. -/
theorem take_drawnFor (vocabulary : Vocabulary) (ids : IdSource) (descriptions : List String)
    (count : Nat) :
    (drawnFor vocabulary ids descriptions).take count =
      drawnFor vocabulary ids (descriptions.take count) := by
  induction descriptions generalizing ids count with
  | nil => simp only [drawnFor, List.take_nil]
  | cons description descriptions ih =>
    cases count with
    | zero => rfl
    | succ count => simp only [drawnFor, List.take_succ_cons, ih]

namespace Desk

/-- The names and the objects of all scenes that lines make. -/
theorem made_drawn (desk : Desk) (lines : List Line) :
    (desk.made lines).map Generated.drawn =
      drawnFor desk.session.vocabulary desk.session.ids
        ((desk.made lines).map Generated.description) := by
  induction lines generalizing desk with
  | nil => rfl
  | cons line lines ih =>
    have later := ih (desk.after line)
    rw [desk.vocabulary_after line] at later
    -- The first line makes no scene and leaves the source, or it makes one and the source is
    -- advanced by what `drawnFor` advances it.
    cases one : desk.madeBy? line with
    | none =>
      rw [desk.ids_of_madeBy?_eq_none line one] at later
      simpa only [made, one, Option.toList_none, List.nil_append] using later
    | some generated =>
      obtain ⟨id, objects, ids⟩ := desk.madeBy?_eq_some line one
      rw [ids] at later
      simp only [made, one, Option.toList_some, List.cons_append, List.nil_append, List.map_cons,
        drawnFor, Generated.drawn, id, objects]
      exact congrArg _ later

/-- Every line of every session keeps account. Two sessions with one source and one vocabulary that
describe the same scenes at first give these the same names and objects, whatever other lines stand
between them. -/
theorem descriptions_decide_scenes {left right : Desk}
    (sameIds : left.session.ids = right.session.ids)
    (sameVocabulary : left.session.vocabulary = right.session.vocabulary)
    (leftLines rightLines : List Line) :
    (∀ (desk : Desk) (earlier : List Line) (line : Line),
      KeepsAccount (desk.afterAll earlier) line) ∧
    ∀ count,
      ((left.made leftLines).take count).map Generated.description =
        ((right.made rightLines).take count).map Generated.description →
      ((left.made leftLines).take count).map Generated.drawn =
        ((right.made rightLines).take count).map Generated.drawn := by
  constructor
  · intro desk earlier line
    exact (desk.afterAll earlier).keepsAccount line
  · intro count alike
    calc ((left.made leftLines).take count).map Generated.drawn
        = drawnFor left.session.vocabulary left.session.ids
            (((left.made leftLines).take count).map Generated.description) := by
          rw [List.map_take, made_drawn, take_drawnFor, List.map_take]
      _ = drawnFor right.session.vocabulary right.session.ids
            (((right.made rightLines).take count).map Generated.description) := by
          rw [sameVocabulary, sameIds, alike]
      _ = ((right.made rightLines).take count).map Generated.drawn := by
          rw [List.map_take, List.map_take, made_drawn, take_drawnFor]

/-- A desk without a store whose session knows one word and draws names from a seed. -/
def seeded (animate : Bool) : Desk where
  session :=
    { vocabulary := Vocabulary.empty.registerShape "cube" .cube
      ids := SeededIds.source 42
      options := SceneOptions.of animate true
      size := ImageSize.standard
      raytracer := ⟨none, 30000, false⟩
      store := none
      last := none }
  exportFormat := .json
  files := ⟨[], []⟩

end Desk

/-- A line typed where no program can be started and nobody else changes files. -/
def Line.quietly (text : String) : Line where
  text := text
  surroundings :=
    { now := ⟨2024, 3, 9, 14, 5, 30, 250⟩
      launcher := fun _ files => (⟨.overtime, .error .notFound, 0⟩, files) }
  meanwhile := id

namespace Desk

/-- Two descriptions. -/
def twoDescriptions : List Line := [.quietly "a cube", .quietly "a cube, a cube"]

/-- The two descriptions among lines that fail and a line that changes a setting. -/
def twoDescriptionsInNoise : List Line :=
  [.quietly ":load x", .quietly "a cube ", .quietly "a ball", .quietly ":animate off",
    .quietly "a cube, a cube"]

/-- Other lines and another setting do not disturb two scenes, and a line that fails keeps the
session. -/
theorem noise_keeps_scenes :
    (seeded false).session.ids = (seeded true).session.ids ∧
    (seeded false).session.vocabulary = (seeded true).session.vocabulary ∧
    KeepsAccount ((seeded true).afterAll twoDescriptionsInNoise) (.quietly ":load x") ∧
    ((((seeded false).made twoDescriptions).take 2).map Generated.description =
      (((seeded true).made twoDescriptionsInNoise).take 2).map Generated.description) ∧
    ((((seeded false).made twoDescriptions).take 2).map Generated.drawn =
      (((seeded true).made twoDescriptionsInNoise).take 2).map Generated.drawn) := by
  have alike : (((seeded false).made twoDescriptions).take 2).map Generated.description =
      (((seeded true).made twoDescriptionsInNoise).take 2).map Generated.description := by
    decide +kernel
  have sameIds : (seeded false).session.ids = (seeded true).session.ids := rfl
  have sameVocabulary :
      (seeded false).session.vocabulary = (seeded true).session.vocabulary := rfl
  obtain ⟨account, scenes⟩ := descriptions_decide_scenes sameIds sameVocabulary twoDescriptions
    twoDescriptionsInNoise
  exact ⟨sameIds, sameVocabulary, account _ _ _, alike, scenes 2 alike⟩

end Desk

end Console

end ShapeScene
