import ShapeScene.Proofs.Page.Pieces

/-!
# What the places of a page are filled with

A page that fills all places of the template at once shows exactly what its scene asks for. Places
are filled one after the other instead, so a text that is filled in is searched for the places that
are still to come. Main statement: the page is the template filled at once exactly when the title
holds no later place and the scene does not hold the place of the options.
-/

namespace ShapeScene.Page

/-- What a scene asks for in every place. -/
def asked (record : SceneRecord) : Place → String
  | .title => escaped record.name
  | .library => libraryAddress
  | .scene => sceneLiteral record.scene
  | .options => optionsLiteral record.options

/-! ## One place after the other -/

/-- What comes to stand in every place: what a scene asks for, with the places that are filled
later filled in it as well. -/
def refilled (record : SceneRecord) : Place → String
  | .title =>
    Text.replaceAll Place.options.text (optionsLiteral record.options)
      (Text.replaceAll Place.scene.text (sceneLiteral record.scene)
        (Text.replaceAll Place.library.text libraryAddress (escaped record.name)))
  | .library => libraryAddress
  | .scene =>
    Text.replaceAll Place.options.text (optionsLiteral record.options) (sceneLiteral record.scene)
  | .options => optionsLiteral record.options

/-- The address of the graphics library has no place in it. -/
theorem occursIn_libraryAddress (hole : Place) :
    Text.occursIn hole.written libraryAddress.toList = false := by
  cases hole <;> decide +kernel

/-- Filling one place after the other turns a place into what comes to stand there. -/
theorem replaceAll_text (record : SceneRecord) (hole : Place) :
    Text.replaceAll Place.options.text (optionsLiteral record.options)
      (Text.replaceAll Place.scene.text (sceneLiteral record.scene)
        (Text.replaceAll Place.library.text libraryAddress
          (Text.replaceAll Place.title.text (escaped record.name) hole.text))) =
      refilled record hole := by
  cases hole with
  | title => rw [replaceAll_text_self, refilled]
  | library =>
    rw [replaceAll_text_of_ne (by decide), replaceAll_text_self,
      replaceAll_text_of_not_occursIn (occursIn_libraryAddress .scene),
      replaceAll_text_of_not_occursIn (occursIn_libraryAddress .options), refilled]
  | scene =>
    rw [replaceAll_text_of_ne (by decide), replaceAll_text_of_ne (by decide),
      replaceAll_text_self, refilled]
  | options =>
    rw [replaceAll_text_of_ne (by decide), replaceAll_text_of_ne (by decide),
      replaceAll_text_of_ne (by decide), replaceAll_text_self, refilled]

/-- A page is the template filled at once with texts in which later places are filled. -/
theorem html_eq_filledAtOnce (record : SceneRecord) :
    html record = filledAtOnce (refilled record) := by
  have steps : html record =
      Text.replaceAll Place.options.text (optionsLiteral record.options)
        (Text.replaceAll Place.scene.text (sceneLiteral record.scene)
          (Text.replaceAll Place.library.text libraryAddress
            (Text.replaceAll Place.title.text (escaped record.name)
              (filledAtOnce Place.text)))) := by
    rw [filledAtOnce_text]
    rfl
  have values := funext (replaceAll_text record)
  rw [steps, replaceAll_filledAtOnce, replaceAll_filledAtOnce, replaceAll_filledAtOnce,
    replaceAll_filledAtOnce, values]

/-! ## Texts that hold a place -/

/-- An escaped character holds no brace of its own, and begins with an ampersand if it is not the
character itself. -/
theorem escapedChar_cases (char : Char) :
    escapedChar char = [char] ∨
      (char ∈ ['&', '<', '>', '"', '\''] ∧ '\x7b' ∉ escapedChar char ∧
        ∃ later, escapedChar char = '&' :: later) := by
  by_cases special : char ∈ ['&', '<', '>', '"', '\'']
  · right
    refine ⟨special, ?_⟩
    simp only [List.mem_cons, List.not_mem_nil, or_false] at special
    rcases special with rfl | rfl | rfl | rfl | rfl <;> exact ⟨by decide, _, rfl⟩
  · left
    simp only [List.mem_cons, List.not_mem_nil, or_false, not_or] at special
    simp [escapedChar, special]

/-- A text that needs no escaping begins an escaped text exactly when it begins the text. -/
theorem isPrefixOf_escaped {plain : List Char}
    (clear : ∀ char ∈ ['&', '<', '>', '"', '\''], char ∉ plain) (text : List Char) :
    plain.isPrefixOf (text.flatMap escapedChar) = plain.isPrefixOf text := by
  induction plain generalizing text with
  | nil => rfl
  | cons first others ih =>
    cases text with
    | nil => rfl
    | cons char rest =>
      have clearOthers : ∀ char ∈ ['&', '<', '>', '"', '\''], char ∉ others :=
        fun char special inside => clear char special (List.mem_cons_of_mem _ inside)
      rw [List.flatMap_cons]
      rcases escapedChar_cases char with same | ⟨special, _, later, same⟩
      · rw [same, List.singleton_append, List.isPrefixOf_cons_cons, List.isPrefixOf_cons_cons,
          ih clearOthers]
      · have differs : ∀ char ∈ ['&', '<', '>', '"', '\''], (first == char) = false := by
          intro char special
          rw [beq_eq_false_iff_ne]
          rintro rfl
          exact clear _ special List.mem_cons_self
        rw [same, List.cons_append, List.isPrefixOf_cons_cons, List.isPrefixOf_cons_cons,
          differs '&' (by decide), differs char special]
        rfl

/-- A title holds a place after it is escaped exactly when it does before. -/
theorem occursIn_escaped (hole : Place) (title : String) :
    Text.occursIn hole.written (escaped title).toList =
      Text.occursIn hole.written title.toList := by
  have clear : ∀ char ∈ ['&', '<', '>', '"', '\''], char ∉ hole.written := by
    have checked : ['&', '<', '>', '"', '\''].all (!hole.written.contains ·) = true := by
      cases hole <;> decide
    simpa only [List.all_eq_true, Bool.not_eq_true', List.contains_eq_mem, decide_eq_false_iff_not]
      using checked
  rw [escaped, String.toList_ofList]
  induction title.toList with
  | nil => rfl
  | cons char rest ih =>
    have begins := isPrefixOf_escaped clear (char :: rest)
    rw [Text.occursIn, ← ih, ← begins, List.flatMap_cons]
    rcases escapedChar_cases char with same | ⟨special, noBrace, later, same⟩
    · rw [same, List.singleton_append, Text.occursIn]
    · have outside : hole.written.isPrefixOf (escapedChar char ++ rest.flatMap escapedChar) =
          false := by
        rw [same, List.cons_append, Place.written, List.isPrefixOf_cons_cons]
        rfl
      rw [outside, Bool.false_or, Place.written, Text.occursIn_append_of_not_mem noBrace]

/-! ## Texts that are longer than their places -/

/-- The address of the graphics library is longer than its place. -/
theorem length_library : Place.library.written.length < libraryAddress.toList.length := by
  decide +kernel

/-- A scene as it stands in a script is longer than its place. -/
theorem length_sceneLiteral (content : SceneContent) :
    Place.scene.written.length < (sceneLiteral content).toList.length := by
  -- The text begins with the name of the first field.
  have front : ∃ rest, Json.textOf .compact content.toDatum =
      ['\x7b', '"', 'b', 'a', 'c', 'k', 'g', 'r', 'o', 'u', 'n', 'd', '"', ':'] ++ rest := ⟨_, rfl⟩
  obtain ⟨rest, same⟩ := front
  have text : (Json.compact content.toDatum).toList.length = 14 + rest.length := by
    rw [Json.compact, String.toList_ofList, same, List.length_append]
    rfl
  have wide : (Json.compact content.toDatum).toList.length ≤
      (sceneLiteral content).toList.length := by
    rw [sceneLiteral, Text.replaceAll, String.toList_ofList]
    exact Text.length_le_length_replaceAfter (by decide) (by decide) _
  have place : Place.scene.written.length = 9 := rfl
  omega

/-- Options as they stand in a script are longer than their place. -/
theorem length_optionsLiteral (options : SceneOptions) :
    Place.options.written.length < (optionsLiteral options).toList.length := by
  obtain ⟨animate, interactive, autoRotate⟩ := options
  rw [optionsLiteral, Json.compact, String.toList_ofList]
  cases animate <;> cases interactive <;> cases autoRotate <;> decide

/-! ## When a page is the template filled at once -/

/-- Filling a place with something longer makes no text shorter. -/
theorem length_le_replaceAll_text {hole : Place} {filling : String}
    (wider : hole.written.length < filling.toList.length) (text : String) :
    text.toList.length ≤ (Text.replaceAll hole.text filling text).toList.length := by
  rw [Text.replaceAll, String.toList_ofList, toList_text]
  exact Text.length_le_length_replaceAfter (written_ne_nil hole) (Nat.le_of_lt wider) _

/-- A text that gets no longer when a place is filled with something longer does not hold it. -/
theorem not_occursIn_of_length_le {hole : Place} {filling text : String}
    (wider : hole.written.length < filling.toList.length)
    (still : (Text.replaceAll hole.text filling text).toList.length ≤ text.toList.length) :
    Text.occursIn hole.written text.toList = false := by
  rw [← Bool.not_eq_true]
  intro present
  have longer := Text.length_lt_length_replaceAfter (written_ne_nil hole) wider present
  rw [Text.replaceAll, String.toList_ofList, toList_text] at still
  omega

/-- What comes to stand in a place is never shorter than what was asked for. -/
theorem length_asked_le (record : SceneRecord) (hole : Place) :
    (asked record hole).toList.length ≤ (refilled record hole).toList.length := by
  cases hole with
  | library => exact Nat.le_refl _
  | options => exact Nat.le_refl _
  | scene => exact length_le_replaceAll_text (length_optionsLiteral _) _
  | title =>
    exact Nat.le_trans (length_le_replaceAll_text length_library _)
      (Nat.le_trans (length_le_replaceAll_text (length_sceneLiteral _) _)
        (length_le_replaceAll_text (length_optionsLiteral _) _))

/-- A title that is shown as it was asked for holds no later place. -/
theorem not_occursIn_title {record : SceneRecord}
    (still : (refilled record .title).toList.length ≤ (asked record .title).toList.length)
    {hole : Place} (later : hole ≠ .title) :
    Text.occursIn hole.written (escaped record.name).toList = false := by
  have wideLibrary := length_le_replaceAll_text length_library (escaped record.name)
  have wideScene := length_le_replaceAll_text (length_sceneLiteral record.scene)
    (Text.replaceAll Place.library.text libraryAddress (escaped record.name))
  have wideOptions := length_le_replaceAll_text (length_optionsLiteral record.options)
    (Text.replaceAll Place.scene.text (sceneLiteral record.scene)
      (Text.replaceAll Place.library.text libraryAddress (escaped record.name)))
  simp only [refilled, asked] at still
  -- No filling adds anything, so each of them finds the title as it was.
  have noLibrary : Text.occursIn Place.library.written (escaped record.name).toList = false :=
    not_occursIn_of_length_le length_library (by omega)
  rw [replaceAll_text_of_not_occursIn noLibrary] at wideLibrary wideScene wideOptions still
  have noScene : Text.occursIn Place.scene.written (escaped record.name).toList = false :=
    not_occursIn_of_length_le (length_sceneLiteral record.scene) (by omega)
  rw [replaceAll_text_of_not_occursIn noScene] at wideScene wideOptions still
  have noOptions : Text.occursIn Place.options.written (escaped record.name).toList = false :=
    not_occursIn_of_length_le (length_optionsLiteral record.options) still
  cases hole with
  | title => exact absurd rfl later
  | library => exact noLibrary
  | scene => exact noScene
  | options => exact noOptions

/-- A scene that is shown as it was asked for does not hold the place of the options. -/
theorem not_occursIn_scene {record : SceneRecord}
    (still : (refilled record .scene).toList.length ≤ (asked record .scene).toList.length) :
    Text.occursIn Place.options.written (sceneLiteral record.scene).toList = false := by
  rw [refilled, asked] at still
  exact not_occursIn_of_length_le (length_optionsLiteral record.options) still

/-- Texts without later places come to stand as they were asked for. -/
theorem refilled_eq_asked {record : SceneRecord}
    (title : ∀ hole : Place, hole ≠ .title →
      Text.occursIn hole.written (escaped record.name).toList = false)
    (scene : Text.occursIn Place.options.written (sceneLiteral record.scene).toList = false) :
    refilled record = asked record := by
  funext hole
  cases hole with
  | library => rfl
  | options => rfl
  | scene => exact replaceAll_text_of_not_occursIn scene _
  | title =>
    rw [refilled, replaceAll_text_of_not_occursIn (title .library (by decide)),
      replaceAll_text_of_not_occursIn (title .scene (by decide)),
      replaceAll_text_of_not_occursIn (title .options (by decide)), asked]

/-- A page is the template filled at once exactly when the title of the scene holds no place but
that of a title, and its content does not hold the place of the options. -/
theorem html_eq_filledAtOnce_iff (record : SceneRecord) :
    html record = filledAtOnce (asked record) ↔
      (∀ hole : Place, hole ≠ .title → Text.occursIn hole.written record.name.toList = false) ∧
        Text.occursIn Place.options.written (sceneLiteral record.scene).toList = false := by
  rw [html_eq_filledAtOnce]
  constructor
  · intro same
    have pages := String.ofList_injective same
    have still {hole : Place} (member : .hole hole ∈ pieces template.toList) :=
      length_le_of_flatMap_filled (length_asked_le record) pages member
    refine ⟨?_, not_occursIn_scene (still scene_mem_template)⟩
    intro hole later
    rw [← occursIn_escaped]
    exact not_occursIn_title (still title_mem_template) later
  · rintro ⟨title, scene⟩
    rw [refilled_eq_asked ?_ scene]
    intro hole later
    rw [occursIn_escaped]
    exact title hole later

/-- A scene that is called like the place of the options. -/
def slyRecord : SceneRecord where
  id := "a"
  name := "\x7b\x7boptions\x7d\x7d"
  timestamp := "t"
  scene := ⟨⟨0, 0, 0⟩, ⟨false, ⟨0, 0, 0⟩, 1, 2⟩, [], [], ⟨⟨0, 0, 0⟩, ⟨0, 0, 0⟩, 75⟩⟩
  options := ⟨false, true, false⟩

/-- The title of such a scene is not shown: its options stand there instead. -/
theorem html_slyRecord : html slyRecord ≠ filledAtOnce (asked slyRecord) := by
  rw [Ne, html_eq_filledAtOnce_iff]
  rintro ⟨title, _⟩
  exact absurd (title .options (by decide)) (by decide)

end ShapeScene.Page
