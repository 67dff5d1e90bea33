import ShapeScene.Proofs.Scene.Drawing
import ShapeScene.Proofs.Scene.Identifier
import ShapeScene.Proofs.Storage.Saving
import ShapeScene.Scene.SeededIds

/-!
# Names of scenes and objects

Each draw from a source takes the next block, whatever is drawn. The name of a scene is made of
eight digits, so it can be that of a file, and it is shorter than the file system allows.
-/

namespace ShapeScene

/-! ## Runs of draws -/

/-- What can be drawn from a source of identifiers. -/
inductive Draw where
  /-- An identifier, of which all digits are shown. -/
  | identifier
  /-- The name of a scene. -/
  | sceneName
  /-- The name of an object. -/
  | objectName

namespace Draw

/-- The text that is drawn when an identifier comes next. -/
def text : Draw → Uuid → String
  | identifier, id => String.ofList id.hyphenatedText
  | sceneName, id => IdSource.sceneName id
  | objectName, id => IdSource.objectName id

/-- Whether a text has the form of what is drawn and the digits of an identifier. -/
def Shows : Draw → Uuid → String → Prop
  | identifier, id, text => id.IsHyphenated text.toList
  | sceneName, id, text => id.NamesScene text
  | objectName, id, text => id.NamesObject text

/-- What is drawn has its form. -/
theorem shows_text (draw : Draw) (id : Uuid) : draw.Shows id (draw.text id) := by
  cases draw with
  | identifier =>
    change id.IsHyphenated (String.ofList id.hyphenatedText).toList
    rw [String.toList_ofList]
    exact id.isHyphenated_hyphenatedText
  | sceneName => exact id.namesScene_sceneName
  | objectName => exact id.namesObject_objectName

end Draw

namespace IdSource

/-- One draw, with the source behind it. -/
def draw (source : IdSource) : Draw → String × IdSource
  | .identifier => (String.ofList source.nextUuid.1.hyphenatedText, source.nextUuid.2)
  | .sceneName => source.nextSceneId
  | .objectName => source.nextObjectId

/-- Draws one after the other, with the source behind them. -/
def drawAll : List Draw → IdSource → List String × IdSource
  | [], source => ([], source)
  | draw :: draws, source =>
    let (text, behind) := source.draw draw
    let (texts, last) := drawAll draws behind
    (text :: texts, last)

/-- Whether the draw at a place in some run of draws gives a text. -/
def Gives (source : IdSource) (place : Nat) (draw : Draw) (text : String) : Prop :=
  ∃ draws : List Draw, draws[place]? = some draw ∧ (drawAll draws source).1[place]? = some text

variable (source : IdSource)

/-- A draw takes one block, whatever is drawn. -/
theorem draw_eq (draw : Draw) :
    source.draw draw = (draw.text (source.uuidAhead 0), source.advance 1) := by
  cases draw <;> rfl

/-- A run of draws takes as many blocks as there are draws, one after the other. -/
theorem drawAll_eq (draws : List Draw) :
    drawAll draws source =
      (draws.mapIdx fun place draw => draw.text (source.uuidAhead place),
        source.advance draws.length) := by
  induction draws generalizing source with
  | nil => rfl
  | cons draw draws ih =>
    simp only [drawAll, draw_eq, ih, uuidAhead_advance, advance_advance, List.mapIdx_cons,
      List.length_cons, Nat.add_comm 1]

/-- What is drawn depends on the place in a run, but not on what else is drawn. -/
theorem gives_iff (place : Nat) (draw : Draw) (text : String) :
    source.Gives place draw text ↔ text = draw.text (source.uuidAhead place) := by
  constructor
  · rintro ⟨draws, there, drawn⟩
    rw [drawAll_eq, List.getElem?_mapIdx, there, Option.map_some] at drawn
    exact (Option.some.inj drawn).symm
  · rintro rfl
    refine ⟨List.replicate (place + 1) draw, ?_, ?_⟩
    · exact List.getElem?_replicate_of_lt (Nat.lt_succ_self place)
    · rw [drawAll_eq, List.getElem?_mapIdx, List.getElem?_replicate_of_lt (Nat.lt_succ_self place)]
      rfl

end IdSource

/-! ## Names of scenes as names of files -/

/-- A text has at most four bytes for each of its characters. -/
theorem Text.utf8ByteSize_le (text : String) : text.utf8ByteSize ≤ 4 * text.toList.length := by
  have listed (chars : List Char) : (String.ofList chars).utf8ByteSize ≤ 4 * chars.length := by
    induction chars with
    | nil => exact Nat.le_refl 0
    | cons char chars ih =>
      have size := char.utf8Size_le_four
      rw [String.ofList_cons, String.utf8ByteSize_append, String.utf8ByteSize_singleton,
        List.length_cons]
      omega
  have all := listed text.toList
  rwa [String.ofList_toList] at all

/-- The digits of identifiers may be in names of scenes. -/
theorem Text.isIdChar_of_isLowerHexDigit {char : Char} (digit : isLowerHexDigit char = true) :
    SceneStore.isIdChar char = true := by
  simp only [isLowerHexDigit, Bool.or_eq_true, Bool.and_eq_true, decide_eq_true_eq] at digit
  simp only [SceneStore.isIdChar, Bool.or_eq_true, Bool.and_eq_true, decide_eq_true_eq, beq_iff_eq]
  rcases digit with decimal | ⟨low, high⟩
  · exact .inl (.inl (.inr decimal))
  · exact .inl (.inl (.inl (.inl ⟨low, Char.le_trans high (by decide)⟩)))

namespace Uuid.NamesScene

variable {id : Uuid} {name : String}

/-- The name of a scene can be that of a file. -/
theorem isValidId (names : id.NamesScene name) : SceneStore.isValidId name = true := by
  obtain ⟨digits, areDigits, front⟩ := names.first
  rw [SceneStore.isValidId_iff]
  refine ⟨fun empty => ?_, fun char member => ?_⟩
  · have length := names.length
    rw [empty] at length
    cases length
  · exact Text.isIdChar_of_isLowerHexDigit (areDigits.all char (front.subset member))

/-- The file of a scene has a short name. -/
theorem not_isTooLong (names : id.NamesScene name) (format : StoreFormat) :
    Folder.isTooLong (SceneStore.fileName name format) = false := by
  have front := Text.utf8ByteSize_le name
  have extension := Text.utf8ByteSize_le format.extension
  have length : format.extension.toList.length ≤ 7 := by cases format <;> decide
  rw [names.length] at front
  rw [Folder.isTooLong, SceneStore.utf8ByteSize_fileName, Folder.maxNameBytes,
    decide_eq_false_iff_not]
  omega

end Uuid.NamesScene

/-- A scene that is called after an identifier is saved in the file of its name. -/
theorem Uuid.NamesScene.savesInFile {id : Uuid} {scene : SceneRecord}
    (names : id.NamesScene scene.id) (store : SceneStore) (tree : FileTree) :
    store.SavesInFile scene tree :=
  SceneStore.savesInFile_of_isValidId tree names.isValidId (names.not_isTooLong store.format)

namespace IdSource

/-- Whether what is drawn from a source has its form, is told apart where blocks are, and can be
stored. -/
structure NamesWell (source : IdSource) : Prop where
  /-- There is a text for every draw. -/
  complete : ∀ draws, (drawAll draws source).1.length = draws.length
  /-- Each text shows the random identifier of its own block. -/
  shown : ∀ {place draw text}, source.Gives place draw text →
    ∃ id : Uuid, id.IsRandomOf (source.block (source.position + place)) ∧ draw.Shows id text
  /-- Two objects, be it from one source or from two, have the same name exactly when their blocks
  have the same bits where bits are kept. -/
  apart : ∀ {other : IdSource} {place otherPlace name otherName},
    source.Gives place .objectName name → other.Gives otherPlace .objectName otherName →
      (name = otherName ↔
        Uuid.keptBits (source.block (source.position + place)) =
          Uuid.keptBits (other.block (other.position + otherPlace)))
  /-- A name drawn for a scene can be that of a file. -/
  valid : ∀ {place name}, source.Gives place .sceneName name → SceneStore.isValidId name = true

/-- What is drawn from any source is well formed. -/
theorem namesWell (source : IdSource) : source.NamesWell where
  complete := by
    intro draws
    rw [drawAll_eq, List.length_mapIdx]
  shown := by
    intro place draw text given
    rw [(source.gives_iff place draw text).mp given]
    exact ⟨source.uuidAhead place, Uuid.isRandomOf_ofBlock _, draw.shows_text _⟩
  apart := by
    intro other place otherPlace name otherName given otherGiven
    rw [(source.gives_iff _ _ _).mp given, (other.gives_iff _ _ _).mp otherGiven]
    exact Uuid.objectName_ofBlock_eq_iff _ _
  valid := by
    intro place name given
    rw [(source.gives_iff _ _ _).mp given]
    exact (source.uuidAhead place).namesScene_sceneName.isValidId

/-- Names drawn from a source have their form: 122 bits of each identifier are those of its block,
and only they tell the names of objects apart. A scene that is assembled is called after the first
identifier, and no store refuses that name: it is saved in the file of its name or, where the file
system refuses to write that, not at all. -/
theorem drawn_names_storable (source : IdSource) :
    source.NamesWell ∧ (∀ block, (Uuid.keptBits block).length = 122) ∧
      ∀ (entities : List Entity) (options : SceneOptions) (created : Moment),
        source.Gives 0 .sceneName (SceneRecord.assemble entities options source created).1.id ∧
          ∀ (store : SceneStore) (tree : FileTree),
            store.SavesInFile (SceneRecord.assemble entities options source created).1 tree := by
  refine ⟨source.namesWell, Uuid.length_keptBits, fun entities options created => ?_⟩
  have named := SceneRecord.assemble_id entities options source created
  refine ⟨(source.gives_iff _ _ _).mpr named, fun store tree => ?_⟩
  exact Uuid.NamesScene.savesInFile (named ▸ (source.uuidAhead 0).namesScene_sceneName) store tree

/-- The first scene of the seed zero. -/
def firstScene : SceneRecord :=
  (SceneRecord.assemble [.plain .cube .red] (.of false true) (SeededIds.source 0)
    ⟨2024, 3, 9, 14, 5, 30, 250000⟩).1

/-- The first scene of a seed is saved in a new folder, in the file of its name. -/
theorem firstScene_storable :
    ∃ isProgram, SceneStore.save ⟨"scenes", .json⟩ firstScene .withNewFolder =
      (.ok "scenes/6c3b9aa7.json",
        ⟨[("scenes", .folder [("6c3b9aa7.json", .file (firstScene.toBytes .json) isProgram)])],
          []⟩) := by
  have called : firstScene.id = "6c3b9aa7" := by decide +kernel
  obtain ⟨-, -, named⟩ := drawn_names_storable (SeededIds.source 0)
  have stored := (named [.plain .cube .red] (.of false true) ⟨2024, 3, 9, 14, 5, 30, 250000⟩).2
    ⟨"scenes", .json⟩ .withNewFolder
  change SceneStore.SavesInFile _ firstScene _ at stored
  have path : SceneStore.path ⟨"scenes", .json⟩ firstScene.id .json = "scenes/6c3b9aa7.json" := by
    rw [called]
    decide
  have name : SceneStore.fileName firstScene.id .json = "6c3b9aa7.json" := by
    rw [called]
    decide
  have short : (SceneStore.path ⟨"scenes", .json⟩ firstScene.id .json).utf8ByteSize ≤
      FileTree.maxPathBytes := by
    rw [path]
    decide
  obtain ⟨isProgram, saved⟩ :=
    stored.saved ["scenes"] [] (SceneStore.isAt_new .json) rfl (fun _ found => nomatch found) short
  refine ⟨isProgram, ?_⟩
  rw [saved, path, name]
  rfl

end IdSource

end ShapeScene
