import ShapeScene.Proofs.Data.Json.Guarded
import ShapeScene.Proofs.Page.Filling
import ShapeScene.Proofs.Scene.RoundTrip
import ShapeScene.Proofs.Text.Standing

/-!
# Texts that are safe in a page

A scene stands in a script, which its text must not end, and a name stands in markup, of which its
text must not become a part. The first is prevented by a backslash in front of some slashes, which
JSON allows in every string; outside of strings no such slash occurs. The second is prevented by
entities, and these can be decoded since an ampersand never stands for itself.
-/

namespace ShapeScene.Page

/-! ## Scenes in scripts -/

/-- Whether a script could be ended at a less-than sign depends on the character behind it only. -/
theorem isPrefixOf_ending (char : Char) (rest : List Char) :
    ['<', '/'].isPrefixOf (char :: rest) = ('<' == char && rest.head? == some '/') := by
  cases rest with
  | nil => simp [List.isPrefixOf]
  | cons second later => simp [List.isPrefixOf, Bool.beq_comm]

/-- With slashes guarded a text begins with the same character. -/
theorem head?_replaceAfter (text : List Char) :
    (Text.replaceAfter ['<', '/'] ['<', '\\', '/'] 0 text).head? = text.head? := by
  cases text with
  | nil => rfl
  | cons char rest =>
    rw [Text.replaceAfter]
    split
    · rename_i begins
      rw [isPrefixOf_ending, Bool.and_eq_true, beq_iff_eq] at begins
      rw [← begins.1]
      rfl
    · rfl

/-- With slashes guarded a text holds nothing that ends a script. -/
theorem not_occursIn_replaceAfter (text : List Char) :
    Text.occursIn ['<', '/'] (Text.replaceAfter ['<', '/'] ['<', '\\', '/'] 0 text) = false := by
  induction text using Text.pattern_induction (show ['<', '/'] ≠ [] by decide) with
  | nil => rfl
  | found rest ih =>
    rw [Text.replaceAfter_append_pattern (by decide)]
    simp only [List.cons_append, List.nil_append]
    rw [Text.occursIn_cons rfl, Text.occursIn_cons rfl, Text.occursIn_cons rfl, ih]
  | kept char rest otherwise ih =>
    have still : ['<', '/'].isPrefixOf
        (char :: Text.replaceAfter ['<', '/'] ['<', '\\', '/'] 0 rest) = false := by
      rwa [isPrefixOf_ending, head?_replaceAfter, ← isPrefixOf_ending]
    rw [Text.replaceAfter_cons otherwise, Text.occursIn_cons still, ih]

/-- The bytes of a text with guarded slashes are its guarded bytes. -/
theorem flatMap_replaceAfter (text : List Char) :
    (Text.replaceAfter ['<', '/'] ['<', '\\', '/'] 0 text).flatMap String.utf8EncodeChar =
      Json.guarded (text.flatMap String.utf8EncodeChar) := by
  have ascii (special : Char) {char : Char} {byte : UInt8} (code : byte.toNat = special.toNat)
      (small : byte.toNat < 0x80) (member : byte ∈ String.utf8EncodeChar char) :
      char = special := by
    rw [← Char.toNat_inj, ← code, Text.toNat_of_mem_utf8EncodeChar member small]
  have lessThan : String.utf8EncodeChar '<' = [0x3C] := by decide
  have slash : String.utf8EncodeChar '/' = [0x2F] := by decide
  have backslash : String.utf8EncodeChar '\\' = [0x5C] := by decide
  induction text using Text.pattern_induction (show ['<', '/'] ≠ [] by decide) with
  | nil => rfl
  | found rest ih =>
    rw [Text.replaceAfter_append_pattern (by decide)]
    simp only [List.flatMap_cons, lessThan, slash, backslash, ih, List.cons_append,
      List.nil_append]
    rw [Json.guarded, if_pos ⟨rfl, rfl⟩, Json.guarded_cons (by decide)]
  | kept char rest otherwise ih =>
    rw [Text.replaceAfter_cons otherwise, List.flatMap_cons, List.flatMap_cons, ih]
    by_cases sign : char = '<'
    · subst sign
      -- no slash is behind it, so it is not guarded
      have unguarded : (rest.flatMap String.utf8EncodeChar).head? ≠ some 0x2F := by
        rw [isPrefixOf_ending] at otherwise
        cases rest with
        | nil => simp
        | cons second later =>
          obtain ⟨first, tail, bytes, -⟩ := Text.utf8Step_encode second []
          rw [List.flatMap_cons, bytes, List.cons_append, List.head?_cons]
          intro same
          have member : 0x2F ∈ String.utf8EncodeChar second := by
            rw [bytes, Option.some.inj same]
            exact List.mem_cons_self
          rw [ascii '/' rfl (by decide) member] at otherwise
          simp at otherwise
      rw [lessThan, List.singleton_append, List.singleton_append, Json.guarded,
        if_neg fun guards => unguarded guards.2]
    · have clear : 0x3C ∉ String.utf8EncodeChar char := fun member =>
        sign (ascii '<' rfl (by decide) member)
      rw [Json.guarded_append clear]

/-- The text of a scene in a script. -/
theorem toList_sceneLiteral (content : SceneContent) :
    (sceneLiteral content).toList =
      Text.replaceAfter ['<', '/'] ['<', '\\', '/'] 0 (Json.textOf .compact content.toDatum) := by
  have ending : "</".toList = ['<', '/'] := by decide
  have guard : "<\\/".toList = ['<', '\\', '/'] := by decide
  rw [sceneLiteral, Text.replaceAll, String.toList_ofList, ending, guard, Json.compact,
    String.toList_ofList]

/-- The JSON of a scene is read as what it writes. -/
theorem read?_compact (content : SceneContent) :
    Json.read? (Text.utf8 (Json.compact content.toDatum)) =
      some (content.toDatum.reread Json.rereading) := by
  have writable : content.toDatum.IsWritable (fun _ => True) Json.maxLevels :=
    content.isWritable (fun _ _ => trivial) (fun _ _ _ _ => trivial) (fun _ _ => trivial) trivial
      trivial 122
  exact Json.read?_textOf writable .compact

/-- A scene in a script is read as the same as its JSON. -/
theorem read?_sceneLiteral (content : SceneContent) :
    Json.read? (Text.utf8 (sceneLiteral content)) =
      Json.read? (Text.utf8 (Json.compact content.toDatum)) := by
  have bytes : Text.utf8 (sceneLiteral content) =
      Json.guarded (Text.utf8 (Json.compact content.toDatum)) := by
    rw [Text.utf8, toList_sceneLiteral, flatMap_replaceAfter, Json.compact, Text.utf8_ofList]
  rw [bytes, read?_compact, Json.read?_guarded (read?_compact content)]

/-! ## Names in markup -/

/-- The characters that are escaped, each with its entity. -/
def entities : List (Char × List Char) :=
  [('&', "&amp;".toList), ('<', "&lt;".toList), ('>', "&gt;".toList), ('"', "&quot;".toList),
    ('\'', "&#39;".toList)]

/-- The text that markup shows when entities are decoded from the left. `skip` counts the characters
of the last entity still to pass. -/
def unescapedAfter : (skip : Nat) → List Char → List Char
  | _, [] => []
  | skip + 1, _ :: rest => unescapedAfter skip rest
  | 0, char :: rest =>
    match entities.find? fun (_, entity) => entity.isPrefixOf (char :: rest) with
    | some (special, entity) => special :: unescapedAfter (entity.length - 1) rest
    | none => char :: unescapedAfter 0 rest

/-- The text that markup shows. -/
def unescaped (markup : String) : String := String.ofList (unescapedAfter 0 markup.toList)

/-- A character is escaped as its entity, or it has none and stays as it is. -/
theorem escapedChar_entity (char : Char) :
    (char, escapedChar char) ∈ entities ∨
      (escapedChar char = [char] ∧ char ∉ ['&', '<', '>', '"', '\'']) := by
  by_cases special : char ∈ ['&', '<', '>', '"', '\'']
  · left
    simp only [List.mem_cons, List.not_mem_nil, or_false] at special
    rcases special with rfl | rfl | rfl | rfl | rfl <;> decide
  · right
    refine ⟨?_, special⟩
    simp only [List.mem_cons, List.not_mem_nil, or_false, not_or] at special
    simp [escapedChar, special]

/-- An entity is an ampersand and characters that need no escaping. -/
theorem entity_cases {special : Char} {entity : List Char}
    (listed : (special, entity) ∈ entities) :
    ∃ letters, entity = '&' :: letters ∧
      ∀ char ∈ ['&', '<', '>', '"', '\''], char ∉ letters := by
  have checked : entities.all (fun pair => pair.2 == '&' :: pair.2.tail &&
      ['&', '<', '>', '"', '\''].all (!pair.2.tail.contains ·)) = true := by decide
  simp only [List.all_eq_true, Bool.and_eq_true, beq_iff_eq, Bool.not_eq_true',
    List.contains_eq_mem, decide_eq_false_iff_not] at checked
  obtain ⟨divided, clear⟩ := checked (special, entity) listed
  exact ⟨entity.tail, divided, clear⟩

/-- No character is left that could begin or end a tag or an attribute. -/
theorem not_mem_escaped (name : String) {char : Char} (markup : char ∈ ['<', '>', '"', '\'']) :
    char ∉ (escaped name).toList := by
  rw [escaped, String.toList_ofList]
  intro member
  obtain ⟨source, -, inside⟩ := List.mem_flatMap.mp member
  have special : char ∈ ['&', '<', '>', '"', '\''] := List.mem_cons_of_mem _ markup
  rcases escapedChar_entity source with listed | ⟨same, plain⟩
  · obtain ⟨letters, divided, clear⟩ := entity_cases listed
    rw [divided] at inside
    rcases List.mem_cons.mp inside with rfl | among
    · exact absurd markup (by decide)
    · exact clear char special among
  · rw [same, List.mem_singleton] at inside
    exact plain (inside ▸ special)

/-- Every ampersand of an escaped text begins an entity. -/
theorem exists_entity_of_ampersand {name before after : List Char}
    (divided : name.flatMap escapedChar = before ++ '&' :: after) :
    ∃ special entity, (special, entity) ∈ entities ∧ entity <+: '&' :: after := by
  induction name generalizing before with
  | nil => simp at divided
  | cons char rest ih =>
    rw [List.flatMap_cons, List.append_eq_append_iff] at divided
    rcases divided with ⟨between, rfl, behind⟩ | ⟨between, here, behind⟩
    · exact ih behind
    · cases between with
      | nil =>
        have later : rest.flatMap escapedChar = [] ++ '&' :: after := behind.symm
        exact ih later
      | cons first others =>
        obtain ⟨rfl, rfl⟩ := List.cons.inj behind
        rcases escapedChar_entity char with listed | ⟨same, plain⟩
        · refine ⟨char, escapedChar char, listed, ?_⟩
          -- an entity has no ampersand but its first character
          obtain ⟨letters, entity, clear⟩ := entity_cases listed
          have front : before = [] := by
            cases before with
            | nil => rfl
            | cons lead inner =>
              rw [entity, List.cons_append] at here
              have among : '&' ∈ letters := by
                rw [(List.cons.inj here).2]
                exact List.mem_append_right _ List.mem_cons_self
              exact absurd among (clear '&' (by decide))
          rw [here, front, List.nil_append]
          exact ⟨_, rfl⟩
        · rw [same] at here
          have ampersand : char = '&' := by
            have member : '&' ∈ [char] := here ▸ List.mem_append_right _ List.mem_cons_self
            exact (List.mem_singleton.mp member).symm
          exact absurd (ampersand ▸ List.mem_cons_self) plain

/-- The characters still to pass are passed. -/
theorem unescapedAfter_eq_drop (skip : Nat) (text : List Char) :
    unescapedAfter skip text = unescapedAfter 0 (text.drop skip) := by
  induction text generalizing skip with
  | nil => simp [unescapedAfter]
  | cons char rest ih =>
    cases skip with
    | zero => rfl
    | succ skip => rw [unescapedAfter, ih, List.drop_succ_cons]

/-- An entity is decoded as its character. -/
theorem unescapedAfter_entity {special : Char} {entity : List Char}
    (listed : (special, entity) ∈ entities) (rest : List Char) :
    unescapedAfter 0 (entity ++ rest) = special :: unescapedAfter 0 rest := by
  have found : entities.find? (fun pair => pair.2.isPrefixOf (entity ++ rest)) =
      some (special, entity) := by
    simp only [entities, List.mem_cons, Prod.mk.injEq, List.not_mem_nil, or_false] at listed
    rcases listed with ⟨rfl, rfl⟩ | ⟨rfl, rfl⟩ | ⟨rfl, rfl⟩ | ⟨rfl, rfl⟩ | ⟨rfl, rfl⟩ <;> rfl
  obtain ⟨letters, rfl, -⟩ := entity_cases listed
  rw [List.cons_append] at found ⊢
  simp only [unescapedAfter, found, List.length_cons, Nat.add_sub_cancel]
  rw [unescapedAfter_eq_drop, List.drop_left]

/-- A character other than an ampersand is shown as it is. -/
theorem unescapedAfter_cons {char : Char} (plain : char ≠ '&') (rest : List Char) :
    unescapedAfter 0 (char :: rest) = char :: unescapedAfter 0 rest := by
  have none : entities.find? (fun pair => pair.2.isPrefixOf (char :: rest)) = none := by
    rw [List.find?_eq_none]
    rintro ⟨special, entity⟩ listed
    obtain ⟨letters, rfl, -⟩ := entity_cases listed
    simp [List.isPrefixOf, plain.symm]
  simp only [unescapedAfter, none]

/-- A name in markup is shown as itself. -/
theorem unescaped_escaped (name : String) : unescaped (escaped name) = name := by
  have chars (text : List Char) : unescapedAfter 0 (text.flatMap escapedChar) = text := by
    induction text with
    | nil => rfl
    | cons char rest ih =>
      rw [List.flatMap_cons]
      rcases escapedChar_entity char with listed | ⟨same, plain⟩
      · rw [unescapedAfter_entity listed, ih]
      · have other : char ≠ '&' := by
          rintro rfl
          exact plain List.mem_cons_self
        rw [same, List.singleton_append, unescapedAfter_cons other, ih]
  rw [unescaped, escaped, String.toList_ofList, chars, String.ofList_toList]

/-! ## Texts in pages -/

/-- The scene that stands in a script holds nothing that ends the script, is read as the same as its
JSON, and is read as the scene itself exactly when each of its numbers is read back from its own
text. A name that stands in markup holds nothing that begins or ends a tag or an attribute, each
ampersand in it begins an entity, and it is shown as itself. -/
theorem texts_safe_and_lossless (record : SceneRecord) :
    (¬ "</".toList <:+: (sceneLiteral record.scene).toList ∧
      Json.read? (Text.utf8 (sceneLiteral record.scene)) =
        Json.read? (Text.utf8 (Json.compact record.scene.toDatum)) ∧
      ((Json.read? (Text.utf8 (sceneLiteral record.scene))).bind SceneContent.ofDatum? =
          some record.scene ↔
        ∀ x ∈ record.numbers, Json.ReadsBack x)) ∧
    ∀ name : String,
      (∀ char ∈ ['<', '>', '"', '\''], char ∉ (escaped name).toList) ∧
      (∀ before after, (escaped name).toList = before ++ '&' :: after →
        ∃ special entity, (special, entity) ∈ entities ∧ entity <+: '&' :: after) ∧
      unescaped (escaped name) = name := by
  refine ⟨⟨?_, read?_sceneLiteral record.scene, ?_⟩, fun name => ⟨?_, ?_, ?_⟩⟩
  · have ending : "</".toList = ['<', '/'] := by decide
    rw [← Text.occursIn_iff_infix, Bool.not_eq_true, ending, toList_sceneLiteral]
    exact not_occursIn_replaceAfter _
  · rw [read?_sceneLiteral, read?_compact, Option.bind_some,
      SceneContent.ofDatum?_reread Json.rereading_lawful]
    rfl
  · exact fun char markup => not_mem_escaped name markup
  · intro before after divided
    rw [escaped, String.toList_ofList] at divided
    exact exists_entity_of_ampersand divided
  · exact unescaped_escaped name

/-- The lantern with an object whose name would end a script. -/
def hostileLantern : SceneRecord :=
  { SceneRecord.lantern with
    scene :=
      { SceneRecord.lantern.scene with
        objects := SceneRecord.lantern.scene.objects.map fun object =>
          { object with name := "</script>\\" } } }

/-- Such a name ends no script and is read back. -/
theorem hostileLantern_safe :
    ¬ "</".toList <:+: (sceneLiteral hostileLantern.scene).toList ∧
      (Json.read? (Text.utf8 (sceneLiteral hostileLantern.scene))).bind SceneContent.ofDatum? =
        some hostileLantern.scene := by
  obtain ⟨⟨ends, -, readBack⟩, -⟩ := texts_safe_and_lossless hostileLantern
  exact ⟨ends, readBack.mpr (by decide +kernel)⟩

end ShapeScene.Page
