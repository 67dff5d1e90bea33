import ShapeScene.Proofs.Number.Numeral
import ShapeScene.Raytracer.Command
import Mathlib.Data.List.Forall2

/-!
# The grammar of raytracer commands

Every line of a scene is a keyword with numbers behind it, and which keywords there are, in which
order and with how many numbers, is known from the scene without its texts. So no text of a record
can add a line, and each object and each placed light has its body.
-/

namespace ShapeScene.Raytracer

/-! ## Forms of commands -/

/-- A keyword and how many numbers belong to it. -/
structure CommandForm where
  /-- The keyword. -/
  keyword : String
  /-- The number of its arguments. -/
  arity : Nat
  /-- The keyword is one word. -/
  solid : IsSolid keyword.toList := by decide

/-- Whether a line is a command of a form. -/
def CommandForm.Accepts (form : CommandForm) (line : String) : Prop :=
  ∃ arguments, line.toList.splitOn ' ' = form.keyword.toList :: arguments ∧
    arguments.length = form.arity ∧ ∀ argument ∈ arguments, IsNumeral argument

/-- The command that begins a body. -/
def newBodyForm : CommandForm := { keyword := "NEW_PRIMITIVE", arity := 0 }

/-- The commands that open a scene. -/
def headerForms : List CommandForm :=
  [{ keyword := "DIMENSIONS", arity := 2 }, { keyword := "RAY_DEPTH", arity := 1 },
    { keyword := "SAMPLES", arity := 1 }, { keyword := "BG_COLOR", arity := 3 },
    { keyword := "CAMERA_POSITION", arity := 3 }, { keyword := "CAMERA_RIGHT", arity := 3 },
    { keyword := "CAMERA_UP", arity := 3 }, { keyword := "CAMERA_FORWARD", arity := 3 },
    { keyword := "CAMERA_FOV_X", arity := 1 }]

/-- The command for the extents of a box. -/
def boxForm : CommandForm := { keyword := "BOX", arity := 3 }

/-- The command for the extents of an ellipsoid. -/
def ellipsoidForm : CommandForm := { keyword := "ELLIPSOID", arity := 3 }

/-- The command for the extents of a form. -/
def bodyForm : Geometry → CommandForm
  | .box _ _ _ => boxForm
  | .plane _ _ => boxForm
  | .sphere _ _ _ => ellipsoidForm
  | .cylinder _ _ _ _ => ellipsoidForm
  | .cone _ _ _ => ellipsoidForm
  | .torus _ _ _ _ => ellipsoidForm

/-- The command that turns an object, if it is turned. -/
def rotationForms (rotation : Vec3) : List CommandForm :=
  if rotation.sameNumbers Vec3.origin then [] else [{ keyword := "ROTATION", arity := 4 }]

/-- The commands for a surface that is not dull. -/
def surfaceForms (material : Material) : List CommandForm :=
  if material.transparent then
    [{ keyword := "DIELECTRIC", arity := 0 }, { keyword := "IOR", arity := 1 }]
  else if material.metalness.isAtLeast 0.5 then [{ keyword := "METALLIC", arity := 0 }]
  else []

/-- The commands of an object. -/
def objectForms (object : SceneObject) : List CommandForm :=
  [newBodyForm, bodyForm object.geometry, { keyword := "POSITION", arity := 3 }] ++
    rotationForms object.rotation ++ [{ keyword := "COLOR", arity := 3 }] ++
    surfaceForms object.material

/-- Whether a light shines from a place. -/
def isPlaced (light : Light) : Bool := light.kind == .directional && light.position.isSome

/-- The commands of a light. -/
def lightForms (light : Light) : List CommandForm :=
  if isPlaced light then
    [newBodyForm, ellipsoidForm, { keyword := "POSITION", arity := 3 },
      { keyword := "COLOR", arity := 3 }, { keyword := "EMISSION", arity := 3 }]
  else []

/-- The commands of a scene. -/
def sceneForms (content : SceneContent) : List CommandForm :=
  headerForms ++ content.objects.flatMap objectForms ++ content.lights.flatMap lightForms

/-! ## Lines -/

/-- The characters of joined texts. -/
theorem toList_joinWith (separator : String) (texts : List String) :
    (Text.joinWith separator texts).toList =
      separator.toList.intercalate (texts.map String.toList) := by
  induction texts with
  | nil => rfl
  | cons first later ih =>
    cases later with
    | nil => simp [Text.joinWith, List.intercalate_singleton]
    | cons second later =>
      rw [Text.joinWith, String.toList_append, String.toList_append, ih]
      simp only [List.map_cons, List.intercalate_cons_cons]

/-- A keyword and texts of numbers between blanks are found again at the blanks. -/
theorem splitOn_joinWith {keyword : String} (solid : IsSolid keyword.toList) {texts : List String}
    (numerals : ∀ text ∈ texts, IsNumeral text.toList) :
    (Text.joinWith " " (keyword :: texts)).toList.splitOn ' ' =
      keyword.toList :: texts.map String.toList := by
  rw [toList_joinWith, List.map_cons]
  refine List.splitOn_intercalate ' ' (fun word member blank => ?_) (List.cons_ne_nil _ _)
  rcases List.mem_cons.mp member with rfl | inTexts
  · exact (solid ' ' blank).1 rfl
  · obtain ⟨text, written, rfl⟩ := List.mem_map.mp inTexts
    exact ((numerals text written).isSolid ' ' blank).1 rfl

/-- A keyword and texts of numbers between blanks are a command. -/
theorem accepts_joinWith (form : CommandForm) (texts : List String)
    (count : texts.length = form.arity) (numerals : ∀ text ∈ texts, IsNumeral text.toList) :
    form.Accepts (Text.joinWith " " (form.keyword :: texts)) := by
  refine ⟨texts.map String.toList, splitOn_joinWith form.solid numerals,
    by rw [List.length_map, count], ?_⟩
  intro argument member
  obtain ⟨text, written, rfl⟩ := List.mem_map.mp member
  exact numerals text written

/-- A keyword alone is a command without arguments. -/
theorem accepts_keyword (form : CommandForm) (alone : form.arity = 0) :
    form.Accepts form.keyword :=
  accepts_joinWith form [] alone.symm (by simp)

/-- A keyword with natural numbers is a command. -/
theorem accepts_naturals (form : CommandForm) (values : List Nat)
    (count : values.length = form.arity) :
    form.Accepts (Text.joinWith " " (form.keyword :: values.map toString)) := by
  refine accepts_joinWith form _ (by rw [List.length_map, count]) fun text member => ?_
  obtain ⟨value, -, rfl⟩ := List.mem_map.mp member
  exact isNumeral_toString value

/-- A line of numbers is a command. -/
theorem accepts_numberLine (form : CommandForm) (values : List Binary64)
    (count : values.length = form.arity) :
    form.Accepts (numberLine form.keyword values) := by
  refine accepts_joinWith form _ (by rw [List.length_map, count]) fun text member => ?_
  obtain ⟨value, -, rfl⟩ := List.mem_map.mp member
  exact value.isNumeral_text

/-- What neither the separator nor a part has, the parts do not have together. -/
theorem notMem_intercalate {char : Char} {separator : List Char} {parts : List (List Char)}
    (inSeparator : char ∉ separator) (inParts : ∀ part ∈ parts, char ∉ part) :
    char ∉ separator.intercalate parts := by
  induction parts with
  | nil => simp
  | cons first later ih =>
    obtain ⟨inFirst, inLater⟩ := List.forall_mem_cons.mp inParts
    cases later with
    | nil => rwa [List.intercalate_singleton]
    | cons second later =>
      rw [List.intercalate_cons_cons]
      simp only [List.mem_append, not_or]
      exact ⟨⟨inFirst, inSeparator⟩, ih inLater⟩

/-- A command does not end its line before its own end. -/
theorem CommandForm.Accepts.newline_notMem {form : CommandForm} {line : String}
    (accepts : form.Accepts line) : '\n' ∉ line.toList := by
  obtain ⟨arguments, words, -, numerals⟩ := accepts
  have joined : [' '].intercalate (line.toList.splitOn ' ') = line.toList :=
    List.intercalate_splitOn ' '
  rw [← joined, words]
  refine notMem_intercalate (by decide) fun part member newline => ?_
  rcases List.mem_cons.mp member with rfl | inArguments
  · exact (form.solid '\n' newline).2 rfl
  · exact ((numerals part inArguments).isSolid '\n' newline).2 rfl

/-- Commands do not end their lines before the ends. -/
theorem newline_notMem_of_accepts {forms : List CommandForm} {lines : List String}
    (accepts : List.Forall₂ CommandForm.Accepts forms lines) :
    ∀ line ∈ lines, '\n' ∉ line.toList := by
  induction accepts with
  | nil => simp
  | cons first _ ih => exact List.forall_mem_cons.mpr ⟨first.newline_notMem, ih⟩

/-! ## The lines of a scene -/

/-- The lines that open a scene are the commands that open one. -/
theorem accepts_headerLines (content : SceneContent) (width height : UInt32) :
    List.Forall₂ CommandForm.Accepts headerForms (headerLines content width height) := by
  have dimensions := accepts_naturals { keyword := "DIMENSIONS", arity := 2 }
    [width.toNat, height.toNat] rfl
  have depth := accepts_naturals { keyword := "RAY_DEPTH", arity := 1 } [rayDepth] rfl
  have quality := accepts_naturals { keyword := "SAMPLES", arity := 1 } [samples] rfl
  refine .cons ?_ (.cons depth (.cons quality (.cons ?_ (.cons ?_ (.cons ?_ (.cons ?_ (.cons ?_
    (.cons ?_ .nil))))))))
  · simpa [Text.joinWith, String.append_assoc] using dimensions
  all_goals exact accepts_numberLine _ _ rfl

/-- The lines for the body of an object and its place are its commands. -/
theorem accepts_bodyLines (object : SceneObject) (extents : List Binary64)
    (three : extents.length = 3) :
    List.Forall₂ CommandForm.Accepts
      [newBodyForm, bodyForm object.geometry, { keyword := "POSITION", arity := 3 }]
      ["NEW_PRIMITIVE", numberLine (bodyKeyword object.geometry) extents,
        numberLine "POSITION" object.position.toList] := by
  have body : (bodyForm object.geometry).keyword = bodyKeyword object.geometry ∧
      (bodyForm object.geometry).arity = 3 := by
    cases object.geometry <;> exact ⟨rfl, rfl⟩
  have line := accepts_numberLine (bodyForm object.geometry) extents (three.trans body.2.symm)
  rw [body.1] at line
  exact .cons (accepts_keyword _ rfl) (.cons line (.cons (accepts_numberLine _ _ rfl) .nil))

/-- The lines that turn an object are its commands. -/
theorem accepts_rotationLines (rotation : Vec3) :
    List.Forall₂ CommandForm.Accepts (rotationForms rotation) (rotationLines rotation) := by
  unfold rotationForms rotationLines
  split
  · exact .nil
  · exact .cons (accepts_numberLine _ _ rfl) .nil

/-- The lines for a surface are its commands. -/
theorem accepts_surfaceLines (material : Material) :
    List.Forall₂ CommandForm.Accepts (surfaceForms material) (surfaceLines material) := by
  unfold surfaceForms surfaceLines
  split
  · exact .cons (accepts_keyword _ rfl) (.cons (accepts_numberLine _ _ rfl) .nil)
  · split
    · exact .cons (accepts_keyword _ rfl) .nil
    · exact .nil

/-- The lines of an object are its commands. -/
theorem accepts_objectLines (object : SceneObject) :
    List.Forall₂ CommandForm.Accepts (objectForms object) (objectLines object) := by
  refine List.rel_append (List.rel_append (List.rel_append (accepts_bodyLines object _ rfl)
    (accepts_rotationLines object.rotation)) ?_) (accepts_surfaceLines object.material)
  exact .cons (accepts_numberLine _ _ rfl) .nil

/-- The lines of a light are its commands. -/
theorem accepts_lightLines (light : Light) :
    List.Forall₂ CommandForm.Accepts (lightForms light) (lightLines light) := by
  unfold lightForms lightLines isPlaced
  cases light.kind with
  | ambient => exact .nil
  | directional =>
    cases light.position with
    | none => exact .nil
    | some position =>
      exact .cons (accepts_keyword _ rfl) (.cons (accepts_numberLine _ _ rfl)
        (.cons (accepts_numberLine _ _ rfl) (.cons (accepts_numberLine _ _ rfl)
          (.cons (accepts_numberLine _ _ rfl) .nil))))

/-- The lines of a scene are its commands. -/
theorem accepts_sceneLines (record : SceneRecord) (width height : UInt32) :
    List.Forall₂ CommandForm.Accepts (sceneForms record.scene)
      (sceneLines record width height) := by
  have objects : List.Forall₂ CommandForm.Accepts (record.scene.objects.flatMap objectForms)
      (record.scene.objects.flatMap objectLines) := by
    refine List.rel_flatMap (R := Eq) (by simp) ?_
    rintro object _ rfl
    exact accepts_objectLines object
  have lights : List.Forall₂ CommandForm.Accepts (record.scene.lights.flatMap lightForms)
      (record.scene.lights.flatMap lightLines) := by
    refine List.rel_flatMap (R := Eq) (by simp) ?_
    rintro light _ rfl
    exact accepts_lightLines light
  exact List.rel_append (List.rel_append (accepts_headerLines record.scene width height) objects)
    lights

/-! ## Bodies -/

/-- The first word of a line. -/
def firstWord (line : String) : List Char := (line.toList.splitOn ' ').headD []

/-- Whether a line begins a body. -/
def startsBody (line : String) : Bool := firstWord line == "NEW_PRIMITIVE".toList

/-- Whether a command begins a body. -/
def CommandForm.startsBody (form : CommandForm) : Bool :=
  form.keyword.toList == "NEW_PRIMITIVE".toList

/-- The first word of a command is its keyword. -/
theorem CommandForm.Accepts.startsBody_eq {form : CommandForm} {line : String}
    (accepts : form.Accepts line) : Raytracer.startsBody line = form.startsBody := by
  obtain ⟨arguments, words, -⟩ := accepts
  rw [Raytracer.startsBody, firstWord, words, List.headD_cons, CommandForm.startsBody]

/-- As many lines begin a body as commands do. -/
theorem countP_startsBody {forms : List CommandForm} {lines : List String}
    (accepts : List.Forall₂ CommandForm.Accepts forms lines) :
    lines.countP startsBody = forms.countP CommandForm.startsBody := by
  induction accepts with
  | nil => rfl
  | cons first _ ih => rw [List.countP_cons, List.countP_cons, first.startsBody_eq, ih]

/-- Each object has one body. -/
theorem countP_objectForms (object : SceneObject) :
    (objectForms object).countP CommandForm.startsBody = 1 := by
  have start : newBodyForm.startsBody = true := by decide
  have body : (bodyForm object.geometry).startsBody = false := by
    have box : boxForm.startsBody = false := by decide
    have ellipsoid : ellipsoidForm.startsBody = false := by decide
    cases object.geometry <;> assumption
  have rotation : (rotationForms object.rotation).countP CommandForm.startsBody = 0 := by
    unfold rotationForms
    split <;> decide
  have surface : (surfaceForms object.material).countP CommandForm.startsBody = 0 := by
    unfold surfaceForms
    split
    · decide
    · split <;> decide
  simp only [objectForms, List.countP_append, List.countP_cons, List.countP_nil, start, body,
    rotation, surface]
  decide

/-- Each placed light has one body, and no other light has any. -/
theorem countP_lightForms (light : Light) :
    (lightForms light).countP CommandForm.startsBody = if isPlaced light then 1 else 0 := by
  unfold lightForms
  split <;> decide

/-- Objects have one body each. -/
theorem countP_flatMap_objectForms (objects : List SceneObject) :
    (objects.flatMap objectForms).countP CommandForm.startsBody = objects.length := by
  induction objects with
  | nil => rfl
  | cons object objects ih =>
    rw [List.flatMap_cons, List.countP_append, countP_objectForms, ih, List.length_cons,
      Nat.add_comm]

/-- Lights have as many bodies as there are placed ones. -/
theorem countP_flatMap_lightForms (lights : List Light) :
    (lights.flatMap lightForms).countP CommandForm.startsBody = lights.countP isPlaced := by
  induction lights with
  | nil => rfl
  | cons light lights ih =>
    rw [List.flatMap_cons, List.countP_append, countP_lightForms, ih, List.countP_cons,
      Nat.add_comm]

/-- A scene has a body for each object and each placed light. -/
theorem countP_sceneForms (content : SceneContent) :
    (sceneForms content).countP CommandForm.startsBody =
      content.objects.length + content.lights.countP isPlaced := by
  have header : headerForms.countP CommandForm.startsBody = 0 := by decide
  rw [sceneForms, List.countP_append, List.countP_append, header, countP_flatMap_objectForms,
    countP_flatMap_lightForms, Nat.zero_add]

/-! ## The text of a scene -/

/-- Lines that are ended are lines between ends, with nothing behind the last. -/
theorem intercalate_lines (lines : List (List Char)) :
    (lines.flatMap fun line => line ++ ['\n']) = ['\n'].intercalate (lines ++ [[]]) := by
  induction lines with
  | nil => rfl
  | cons first later ih =>
    obtain ⟨second, others, behind⟩ :=
      List.exists_cons_of_ne_nil (List.append_ne_nil_of_right_ne_nil later (List.cons_ne_nil [] []))
    rw [List.flatMap_cons, ih, List.cons_append, behind, List.intercalate_cons_cons]

/-- The text for the raytracer is, whatever the texts and numbers of the record are: nine lines
about image and camera, then the lines of each object in order, then the lines of each placed light
in order. Each line is a keyword with a known number of arguments, each of them the text of a
number, and as many lines begin a body as there are objects and placed lights. -/
theorem exists_lines_of_commands (record : SceneRecord) (width height : UInt32) :
    ∃ lines : List String,
      (commands record width height).toList.splitOn '\n' = lines.map String.toList ++ [[]] ∧
      List.Forall₂ CommandForm.Accepts (sceneForms record.scene) lines ∧
      lines.countP startsBody =
        record.scene.objects.length + record.scene.lights.countP isPlaced := by
  have accepts := accepts_sceneLines record width height
  refine ⟨sceneLines record width height, ?_, accepts, ?_⟩
  · have text : (commands record width height).toList =
        ['\n'].intercalate ((sceneLines record width height).map String.toList ++ [[]]) := by
      rw [← intercalate_lines, List.flatMap_map, commands, String.toList_ofList]
    rw [text]
    refine List.splitOn_intercalate '\n' (fun line member => ?_) (by simp)
    rcases List.mem_append.mp member with written | last
    · obtain ⟨line, inLines, rfl⟩ := List.mem_map.mp written
      exact newline_notMem_of_accepts accepts line inLines
    · rw [List.mem_singleton.mp last]
      exact List.not_mem_nil
  · rw [countP_startsBody accepts, countP_sceneForms]

end ShapeScene.Raytracer
