import Mathlib.Data.List.Forall2
import ShapeScene.Proofs.Description.Layout

/-!
# Larger vocabularies

New words stand behind the old ones of their table. What a table found before it therefore still
finds, and only materials can change: a new word may name a material of higher precedence. So a
larger vocabulary accepts every phrase that a smaller one accepts, with the same shape and the same
animation if there was one.
-/

namespace ShapeScene

/-! ## Materials by precedence -/

/-- What is first under a weaker condition is the same, or stands before. -/
theorem find?_of_imp {α : Type} [DecidableEq α] {strong weak : α → Bool}
    (weaker : ∀ value, strong value = true → weak value = true) {list : List α} {found : α}
    (first : list.find? strong = some found) :
    ∃ earlier, list.find? weak = some earlier ∧
      (earlier = found ∨ list.idxOf earlier < list.idxOf found) := by
  induction list with
  | nil => cases first
  | cons head tail ih =>
    by_cases headStrong : strong head = true
    · rw [List.find?_cons_of_pos headStrong, Option.some.injEq] at first
      exact ⟨head, List.find?_cons_of_pos (weaker head headStrong), .inl first⟩
    · rw [List.find?_cons_of_neg headStrong] at first
      have other : head ≠ found := fun same => headStrong (same ▸ List.find?_some first)
      by_cases headWeak : weak head = true
      · refine ⟨head, List.find?_cons_of_pos headWeak, .inr ?_⟩
        rw [List.idxOf_cons_self, List.idxOf_cons_ne _ other]
        exact Nat.succ_pos _
      · obtain ⟨earlier, finds, order⟩ := ih first
        have apart : head ≠ earlier := fun same => headWeak (same ▸ List.find?_some finds)
        refine ⟨earlier, by rw [List.find?_cons_of_neg headWeak, finds], order.imp_right ?_⟩
        intro before
        rw [List.idxOf_cons_ne _ apart, List.idxOf_cons_ne _ other]
        exact Nat.succ_lt_succ before

/-- Whether keywords of one material are decided before those of another. -/
def MaterialKind.Precedes (first second : MaterialKind) : Prop :=
  precedence.idxOf first < precedence.idxOf second

/-- What may become of a material when words are added: it stays, one of higher precedence takes its
place, or there was none. -/
inductive MaterialKind.Raised : (before after : Option MaterialKind) → Prop
  /-- It stays. -/
  | same (kind : Option MaterialKind) : Raised kind kind
  /-- One of higher precedence takes its place. -/
  | preceded {before after : MaterialKind} (higher : after.Precedes before) :
      Raised (some before) (some after)
  /-- There was none. -/
  | named (kind : MaterialKind) : Raised none (some kind)

/-! ## Words added -/

/-- A word that the user of a vocabulary adds to one of its tables. -/
inductive Registration where
  /-- A word for a shape. -/
  | shape (word : String) (kind : ShapeKind)
  /-- A word for a color. -/
  | color (word : String) (kind : NamedColor)
  /-- A word for an animation. -/
  | animation (word : String) (kind : AnimationKind)
  /-- A word for a material. -/
  | material (word : String) (kind : MaterialKind)
deriving DecidableEq, Repr

namespace Vocabulary

variable {smaller larger : Vocabulary}

/-- The vocabulary with one more word. -/
def register (vocabulary : Vocabulary) : Registration → Vocabulary
  | .shape word kind => vocabulary.registerShape word kind
  | .color word kind => vocabulary.registerColor word kind
  | .animation word kind => vocabulary.registerAnimation word kind
  | .material word kind => vocabulary.registerMaterial word kind

/-- The vocabulary with more words, one after the other. -/
def registerAll (vocabulary : Vocabulary) (registrations : List Registration) : Vocabulary :=
  registrations.foldl register vocabulary

/-- Whether each table of a vocabulary is the beginning of the same table of another. -/
structure Extends (smaller larger : Vocabulary) : Prop where
  /-- The words for shapes. -/
  shapes : smaller.shapes <+: larger.shapes
  /-- The words for colors. -/
  colors : smaller.colors <+: larger.colors
  /-- The words for animations. -/
  animations : smaller.animations <+: larger.animations
  /-- The words for materials. -/
  materials : smaller.materials <+: larger.materials

/-- Every vocabulary is the beginning of itself. -/
theorem Extends.refl (vocabulary : Vocabulary) : vocabulary.Extends vocabulary :=
  ⟨List.prefix_rfl, List.prefix_rfl, List.prefix_rfl, List.prefix_rfl⟩

/-- A vocabulary that is added to twice begins with the first. -/
theorem Extends.trans {largest : Vocabulary} (first : smaller.Extends larger)
    (second : larger.Extends largest) : smaller.Extends largest :=
  ⟨first.shapes.trans second.shapes, first.colors.trans second.colors,
    first.animations.trans second.animations, first.materials.trans second.materials⟩

/-- One more word stands behind all others of its table. -/
theorem extends_register (vocabulary : Vocabulary) (registration : Registration) :
    vocabulary.Extends (vocabulary.register registration) := by
  have whole := Extends.refl vocabulary
  cases registration with
  | shape word kind => exact { whole with shapes := List.prefix_append _ _ }
  | color word kind => exact { whole with colors := List.prefix_append _ _ }
  | animation word kind => exact { whole with animations := List.prefix_append _ _ }
  | material word kind => exact { whole with materials := List.prefix_append _ _ }

/-- However many words are added, they stand behind all others of their tables. -/
theorem extends_registerAll (vocabulary : Vocabulary) (registrations : List Registration) :
    vocabulary.Extends (vocabulary.registerAll registrations) := by
  induction registrations generalizing vocabulary with
  | nil => exact Extends.refl vocabulary
  | cons registration later ih =>
    exact (vocabulary.extends_register registration).trans (ih (vocabulary.register registration))

/-- Two vocabularies together begin with the first. -/
theorem extends_append (first second : Vocabulary) : first.Extends (first.append second) :=
  ⟨List.prefix_append _ _, List.prefix_append _ _, List.prefix_append _ _, List.prefix_append _ _⟩

/-! ## What is found -/

/-- A keyword that is found in a text is still found when its table grows. -/
theorem firstFound?_of_prefix {Kind : Type} {table grown : List (Keyword Kind)} {text : String}
    {keyword : Keyword Kind} (front : table <+: grown)
    (found : firstFound? table text = some keyword) : firstFound? grown text = some keyword :=
  front.find?_eq_some found

/-- A material stays or gives way to one of higher precedence. -/
theorem Extends.raised (growth : smaller.Extends larger) (text : String) :
    MaterialKind.Raised (smaller.materialIn? text) (larger.materialIn? text) := by
  cases before : smaller.materialIn? text with
  | none =>
    cases after : larger.materialIn? text with
    | none => exact .same none
    | some kind => exact .named kind
  | some kind =>
    have weaker : ∀ kind : MaterialKind,
        (smaller.materials.any fun keyword =>
          keyword.kind == kind && keyword.foundIn (Text.lowercase text)) = true →
        (larger.materials.any fun keyword =>
          keyword.kind == kind && keyword.foundIn (Text.lowercase text)) = true := by
      intro kind named
      obtain ⟨keyword, member, names⟩ := List.any_eq_true.mp named
      exact List.any_eq_true.mpr ⟨keyword, growth.materials.subset member, names⟩
    obtain ⟨earlier, finds, order⟩ := find?_of_imp weaker before
    have after : larger.materialIn? text = some earlier := finds
    rw [after]
    rcases order with rfl | higher
    · exact .same (some earlier)
    · exact .preceded higher

/-- A new word for a metal is decided before an old one for glass. -/
example : english.materialIn? "a brushed glass cube" = some .glass ∧
    (english.registerMaterial "brushed" .metallic).materialIn? "a brushed glass cube" =
      some .metallic := by
  decide +kernel

end Vocabulary

/-! ## What is read -/

/-- Whether the outcome of a phrase is kept by another one: an entity that was read is still read,
with the same shape and the same animation if it had one. -/
structure PhraseOutcome.KeptBy (before after : PhraseOutcome) : Prop where
  /-- The phrase is the same. -/
  phrase : after.phrase = before.phrase
  /-- An entity is read if one was. -/
  entity : ∀ entity, before.entity = some entity → ∃ other, after.entity = some other ∧
    other.shape = entity.shape ∧
    ∀ kind, entity.animation = some kind → other.animation = some kind

/-- Entities are not fewer when every outcome is kept. -/
theorem PhraseOutcome.length_accepted_le {before after : List PhraseOutcome}
    (kept : List.Forall₂ KeptBy before after) :
    (accepted before).length ≤ (accepted after).length := by
  induction kept with
  | nil => exact Nat.le_refl 0
  | @cons old new olds news here rest ih =>
    cases read : old.entity with
    | none =>
      have more : (accepted news).length ≤ (accepted (new :: news)).length :=
        ((List.sublist_cons_self new news).filterMap _).length_le
      rw [accepted_cons_of_none read]
      exact ih.trans more
    | some entity =>
      obtain ⟨other, readNew, -⟩ := here.entity entity read
      rw [accepted_cons_of_some read, accepted_cons_of_some readNew]
      exact Nat.succ_le_succ ih

namespace Vocabulary

variable {smaller larger : Vocabulary}

/-- A phrase that is read as an entity still is, with the same shape and animation. -/
theorem Extends.entityOf? (growth : smaller.Extends larger) {phrase : String} {entity : Entity}
    (read : smaller.entityOf? phrase = some entity) :
    ∃ other, larger.entityOf? phrase = some other ∧ other.shape = entity.shape ∧
      ∀ kind, entity.animation = some kind → other.animation = some kind := by
  obtain ⟨shape, named, rfl⟩ := Option.map_eq_some_iff.mp read
  have still := firstFound?_of_prefix growth.shapes named
  refine ⟨_, Option.map_eq_some_iff.mpr ⟨shape, still, rfl⟩, rfl, fun kind moved => ?_⟩
  obtain ⟨animation, found, rfl⟩ := Option.map_eq_some_iff.mp moved
  exact Option.map_eq_some_iff.mpr
    ⟨animation, firstFound?_of_prefix growth.animations found, rfl⟩

/-- The outcomes of phrases are kept, wherever in the row their entities stand. -/
theorem Extends.outcomesFrom (growth : smaller.Extends larger) (phrases : List String)
    (row other : Row) : List.Forall₂ PhraseOutcome.KeptBy (smaller.outcomesFrom row phrases)
      (larger.outcomesFrom other phrases) := by
  induction phrases generalizing row other with
  | nil => exact .nil
  | cons phrase later ih =>
    cases old : smaller.entityOf? phrase with
    | none =>
      -- a phrase that was skipped may be accepted now, and then the rows are no longer alike
      cases new : larger.entityOf? phrase with
      | none =>
        simp only [Vocabulary.outcomesFrom, old, new]
        exact .cons ⟨rfl, fun entity read => by cases read⟩ (ih row other)
      | some entity =>
        simp only [Vocabulary.outcomesFrom, old, new]
        exact .cons ⟨rfl, fun entity read => by cases read⟩ (ih row other.advance)
    | some entity =>
      obtain ⟨still, new, shape, animation⟩ := growth.entityOf? old
      simp only [Vocabulary.outcomesFrom, old, new]
      refine .cons ⟨rfl, fun placed read => ?_⟩ (ih row.advance other.advance)
      cases read
      exact ⟨still.placedAt other.nextPosition, rfl, shape, animation⟩

/-- Whether a vocabulary reads everything that another one reads, and reads it alike. -/
structure Conserves (larger smaller : Vocabulary) : Prop where
  /-- The shape found in a text stays. -/
  shapes : ∀ text keyword, smaller.shapeIn? text = some keyword →
    larger.shapeIn? text = some keyword
  /-- The color found in a text stays. -/
  colors : ∀ text keyword, smaller.colorIn? text = some keyword →
    larger.colorIn? text = some keyword
  /-- The animation found in a text stays. -/
  animations : ∀ text keyword, smaller.animationIn? text = some keyword →
    larger.animationIn? text = some keyword
  /-- The material found in a text stays or is raised. -/
  materials : ∀ text, MaterialKind.Raised (smaller.materialIn? text) (larger.materialIn? text)
  /-- A description has the same phrases, each with an outcome that is kept. -/
  outcomes : ∀ description, List.Forall₂ PhraseOutcome.KeptBy (smaller.explain description)
    (larger.explain description)
  /-- A description has no fewer entities. -/
  entities : ∀ description,
    (smaller.parse description).length ≤ (larger.parse description).length

/-- A vocabulary conserves each one that it begins with. -/
theorem Extends.conserves (growth : smaller.Extends larger) : larger.Conserves smaller where
  shapes _ _ := firstFound?_of_prefix growth.shapes
  colors _ _ := firstFound?_of_prefix growth.colors
  animations _ _ := firstFound?_of_prefix growth.animations
  materials := growth.raised
  outcomes description := growth.outcomesFrom (Phrase.segment description) Row.empty Row.empty
  entities description := PhraseOutcome.length_accepted_le
    (growth.outcomesFrom (Phrase.segment description) Row.empty Row.empty)

/-- Whatever words its user adds to a vocabulary, it reads all that it read before, and so does the
standard vocabulary beside the English one. -/
theorem conserves_registerAll (vocabulary : Vocabulary) (registrations : List Registration) :
    (vocabulary.registerAll registrations).Conserves vocabulary ∧ standard.Conserves english :=
  ⟨(vocabulary.extends_registerAll registrations).conserves,
    (extends_append english french).conserves⟩

end Vocabulary

end ShapeScene
