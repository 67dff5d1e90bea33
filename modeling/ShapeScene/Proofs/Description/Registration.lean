import ShapeScene.Proofs.Description.Extensions
import ShapeScene.Proofs.Text.Sigma

/-!
# Words that are found again

A word is put into lowercase by itself when it is added to a table, and a text as a whole when it is
searched. So an added word is found in a text exactly when its own lowercase form stands in that of
the text. This is so wherever the word stands when it keeps its form, and only then: a capital sigma
at an end of a word may have another form in a text than in the word alone.
-/

namespace ShapeScene

/-! ## One table -/

namespace Vocabulary

variable {Kind : Type}

/-- An added word is found in a text when its lowercase form stands in that of the text. -/
theorem foundIn_registered (word text : String) (kind : Kind) :
    (registered word kind).foundIn (Text.lowercase text) = true ↔
      Text.lowercaseChars word.toList <:+: Text.lowercaseChars text.toList := by
  rw [Keyword.foundIn, registered]
  simp only [Text.occursIn_iff_infix, Text.lowercase, String.toList_ofList]

/-- Something is found with a table when one of its keywords is found. -/
theorem isSome_firstFound? (table : List (Keyword Kind)) (text : String) :
    (firstFound? table text).isSome = true ↔
      ∃ keyword ∈ table, keyword.foundIn (Text.lowercase text) = true :=
  List.find?_isSome

/-- What is found with a table is one of its keywords. -/
theorem mem_of_firstFound? {table : List (Keyword Kind)} {text : String} {keyword : Keyword Kind}
    (first : firstFound? table text = some keyword) :
    keyword ∈ table ∧ keyword.foundIn (Text.lowercase text) = true := by
  rw [firstFound?] at first
  have found := List.find?_some first
  exact ⟨List.mem_of_find?_eq_some first, found⟩

/-- A material is found when one of its keywords is found. -/
theorem isSome_materialIn? (vocabulary : Vocabulary) (text : String) :
    (vocabulary.materialIn? text).isSome = true ↔
      ∃ keyword ∈ vocabulary.materials, keyword.foundIn (Text.lowercase text) = true := by
  rw [materialIn?, List.find?_isSome]
  simp only [List.any_eq_true, Bool.and_eq_true, beq_iff_eq]
  constructor
  · rintro ⟨-, -, keyword, member, -, found⟩
    exact ⟨keyword, member, found⟩
  · rintro ⟨keyword, member, found⟩
    have decided : keyword.kind ∈ MaterialKind.precedence := by cases keyword.kind <;> decide
    exact ⟨keyword.kind, decided, keyword, member, rfl, found⟩

/-- A material that is found is named by a keyword that is found. -/
theorem exists_of_materialIn? {vocabulary : Vocabulary} {text : String} {kind : MaterialKind}
    (decided : vocabulary.materialIn? text = some kind) :
    ∃ keyword ∈ vocabulary.materials, keyword.foundIn (Text.lowercase text) = true ∧
      keyword.kind = kind := by
  have named := List.find?_some decided
  simp only [List.any_eq_true, Bool.and_eq_true, beq_iff_eq] at named
  obtain ⟨keyword, member, names, found⟩ := named
  exact ⟨keyword, member, found, names⟩

end Vocabulary

/-! ## All tables -/

namespace Registration

/-- The word that is added. -/
def word : Registration → String
  | .shape word _ | .color word _ | .animation word _ | .material word _ => word

/-- What the words of the table name. -/
def Kind : Registration → Type
  | .shape _ _ => ShapeKind
  | .color _ _ => NamedColor
  | .animation _ _ => AnimationKind
  | .material _ _ => MaterialKind

/-- What the added word names. -/
def kind : (registration : Registration) → registration.Kind
  | .shape _ kind => kind
  | .color _ kind => kind
  | .animation _ kind => kind
  | .material _ kind => kind

/-- The table of a vocabulary to which the word is added. -/
def table (vocabulary : Vocabulary) :
    (registration : Registration) → List (Keyword registration.Kind)
  | .shape _ _ => vocabulary.shapes
  | .color _ _ => vocabulary.colors
  | .animation _ _ => vocabulary.animations
  | .material _ _ => vocabulary.materials

/-- What a text names according to the table of the word. -/
def kindIn? (vocabulary : Vocabulary) (text : String) :
    (registration : Registration) → Option registration.Kind
  | .shape _ _ => (vocabulary.shapeIn? text).map Keyword.kind
  | .color _ _ => (vocabulary.colorIn? text).map Keyword.kind
  | .animation _ _ => (vocabulary.animationIn? text).map Keyword.kind
  | .material _ _ => vocabulary.materialIn? text

variable (registration : Registration)

/-- An added word stands at the end of its table. -/
theorem table_register (vocabulary : Vocabulary) :
    registration.table (vocabulary.register registration) =
      registration.table vocabulary ++
        [Vocabulary.registered registration.word registration.kind] := by
  cases registration <;> rfl

/-- A text names something when a keyword of the table is found in it. -/
theorem isSome_kindIn? (vocabulary : Vocabulary) (text : String) :
    (registration.kindIn? vocabulary text).isSome = true ↔
      ∃ keyword ∈ registration.table vocabulary,
        keyword.foundIn (Text.lowercase text) = true := by
  have first {Kind : Type} (table : List (Keyword Kind)) :
      ((Vocabulary.firstFound? table text).map Keyword.kind).isSome = true ↔
        ∃ keyword ∈ table, keyword.foundIn (Text.lowercase text) = true := by
    rw [Option.isSome_map, Vocabulary.isSome_firstFound?]
  cases registration with
  | shape => exact first vocabulary.shapes
  | color => exact first vocabulary.colors
  | animation => exact first vocabulary.animations
  | material => exact vocabulary.isSome_materialIn? text

/-- What a text names is named by a keyword of the table that is found in it. -/
theorem exists_of_kindIn? {vocabulary : Vocabulary} {text : String} {kind : registration.Kind}
    (names : registration.kindIn? vocabulary text = some kind) :
    ∃ keyword ∈ registration.table vocabulary,
      keyword.foundIn (Text.lowercase text) = true ∧ keyword.kind = kind := by
  have first {Kind : Type} {table : List (Keyword Kind)} {kind : Kind}
      (names : (Vocabulary.firstFound? table text).map Keyword.kind = some kind) :
      ∃ keyword ∈ table, keyword.foundIn (Text.lowercase text) = true ∧ keyword.kind = kind := by
    obtain ⟨keyword, found, named⟩ := Option.map_eq_some_iff.mp names
    obtain ⟨member, there⟩ := Vocabulary.mem_of_firstFound? found
    exact ⟨keyword, member, there, named⟩
  cases registration with
  | shape => exact first names
  | color => exact first names
  | animation => exact first names
  | material => exact Vocabulary.exists_of_materialIn? names

/-- After a word was added, a text names something when it did before or when the lowercase form of
the word stands in that of the text. -/
theorem isSome_kindIn?_register (vocabulary : Vocabulary) (text : String) :
    (registration.kindIn? (vocabulary.register registration) text).isSome = true ↔
      (∃ keyword ∈ registration.table vocabulary,
        keyword.foundIn (Text.lowercase text) = true) ∨
      Text.lowercaseChars registration.word.toList <:+: Text.lowercaseChars text.toList := by
  simp only [isSome_kindIn?, table_register, List.mem_append, List.mem_singleton, or_and_right,
    exists_or, exists_eq_left, Vocabulary.foundIn_registered]

/-- What is found is the kind of the added word when no other keyword of the table is found. -/
theorem kindIn?_register_of_alone {vocabulary : Vocabulary} {text : String}
    (alone : ∀ keyword ∈ registration.table vocabulary,
      keyword.foundIn (Text.lowercase text) = false)
    (found : (registration.kindIn? (vocabulary.register registration) text).isSome = true) :
    registration.kindIn? (vocabulary.register registration) text = some registration.kind := by
  obtain ⟨kind, names⟩ := Option.isSome_iff_exists.mp found
  obtain ⟨keyword, member, there, rfl⟩ := registration.exists_of_kindIn? names
  rw [table_register, List.mem_append, List.mem_singleton] at member
  rcases member with old | rfl
  · rw [alone keyword old] at there
    cases there
  · exact names

/-- An added word without a capital sigma is found wherever it stands. -/
theorem found_of_not_mem (plain : 'Σ' ∉ registration.word.toList) (vocabulary : Vocabulary)
    {text : String} (stands : registration.word.toList <:+: text.toList) :
    (registration.kindIn? (vocabulary.register registration) text).isSome = true := by
  have there := Text.KeepsForm.infix (Text.keepsForm_of_not_mem plain) stands
  exact (registration.isSome_kindIn?_register vocabulary text).mpr (.inr there)

/-- An added word is found wherever it stands exactly when its capital sigmas have the same form
everywhere. In a given text it is found exactly when its own lowercase form stands in that of the
text. Where no other keyword is found, what is found is what the word names. -/
theorem found_wherever_iff :
    ((∀ (vocabulary : Vocabulary) (text : String),
        registration.word.toList <:+: text.toList →
        (registration.kindIn? (vocabulary.register registration) text).isSome = true) ↔
      Text.KeepsForm registration.word.toList) ∧
    ∀ (vocabulary : Vocabulary) (text : String),
      ((registration.kindIn? (vocabulary.register registration) text).isSome = true ↔
        (∃ keyword ∈ registration.table vocabulary,
          keyword.foundIn (Text.lowercase text) = true) ∨
        Text.lowercaseChars registration.word.toList <:+: Text.lowercaseChars text.toList) ∧
      ((∀ keyword ∈ registration.table vocabulary,
          keyword.foundIn (Text.lowercase text) = false) →
        (registration.kindIn? (vocabulary.register registration) text).isSome = true →
        registration.kindIn? (vocabulary.register registration) text =
          some registration.kind) := by
  refine ⟨?_, fun vocabulary text =>
    ⟨registration.isSome_kindIn?_register vocabulary text, kindIn?_register_of_alone registration⟩⟩
  rw [← Text.infix_lowercaseChars_iff]
  constructor
  · intro finds chars stands
    have found := finds .empty (String.ofList chars) (by rwa [String.toList_ofList])
    rw [isSome_kindIn?_register, String.toList_ofList] at found
    rcases found with ⟨keyword, member, -⟩ | there
    · cases registration <;> cases member
    · exact there
  · intro keeps vocabulary text stands
    exact (registration.isSome_kindIn?_register vocabulary text).mpr
      (.inr (keeps text.toList stands))

/-- A word that ends in a capital sigma is not found where a letter follows. -/
theorem sigma_not_found :
    "ΑΣ".toList <:+: "ΑΣΑ".toList ∧
      (Vocabulary.empty.register (.material "ΑΣ" .glass)).materialIn? "ΑΣΑ" = none :=
  ⟨⟨[], ['Α'], rfl⟩, by decide +kernel⟩

end Registration

end ShapeScene
