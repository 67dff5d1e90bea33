import Mathlib.Tactic.NormNum
import ShapeScene.Data.Datum

/-!
# Data that are written and read back

What a format gives back of a datum has the same shape and the same texts: integers come back in a
form of the format's own, and every other number as whatever the format reads in its place. A datum
can be written when it is made of truth values, words, numbers, texts, lists and maps under texts,
and no count in it is more than the format can say.
-/

namespace ShapeScene

/-- What a format makes of the numbers that it has written. -/
structure Rereading where
  /-- The form of an integer. -/
  form : Int → IntegerForm
  /-- What is read in place of a number. -/
  real : Binary64 → Datum

namespace Datum

mutual
/-- A datum as it is read back. -/
def reread (back : Rereading) : Datum → Datum
  | .null => .null
  | .bool value => .bool value
  | .integer _ value => .integer (back.form value) value
  | .real value => back.real value
  | .text value => .text value
  | .brokenText content => .brokenText content
  | .bytes value => .bytes value
  | .list items => .list (rereadItems back items)
  | .map entries => .map (rereadEntries back entries)
  | .extension kind payload => .extension kind payload
  | .unreadable => .unreadable

/-- The items of a list as they are read back. -/
def rereadItems (back : Rereading) : List Datum → List Datum
  | [] => []
  | item :: items => reread back item :: rereadItems back items

/-- The entries of a map as they are read back. -/
def rereadEntries (back : Rereading) : List (Datum × Datum) → List (Datum × Datum)
  | [] => []
  | (key, value) :: entries => (reread back key, reread back value) :: rereadEntries back entries
end

/-- Items are read back one by one. -/
theorem rereadItems_eq_map (back : Rereading) (items : List Datum) :
    rereadItems back items = items.map (reread back) := by
  induction items with
  | nil => rfl
  | cons item items ih => rw [rereadItems, ih, List.map_cons]

/-- Entries are read back one by one. -/
theorem rereadEntries_eq_map (back : Rereading) (entries : List (Datum × Datum)) :
    rereadEntries back entries =
      entries.map fun entry => (reread back entry.1, reread back entry.2) := by
  induction entries with
  | nil => rfl
  | cons entry entries ih => rw [rereadEntries, ih, List.map_cons]

/-- A list is read back item by item. -/
@[simp]
theorem reread_list (back : Rereading) (items : List Datum) :
    reread back (.list items) = .list (items.map (reread back)) := by
  rw [reread, rereadItems_eq_map]

/-- An object is read back field by field. -/
@[simp]
theorem reread_object (back : Rereading) (fields : List (String × Datum)) :
    reread back (.object fields) =
      .object (fields.map fun field => (field.1, reread back field.2)) := by
  simp [object, reread, rereadEntries_eq_map]

/-- Data of at most so many levels whose counts the format can say. -/
def IsWritable (fits : Nat → Prop) : (levels : Nat) → Datum → Prop
  | _, .bool _ => True
  | _, .integer _ value => -2 ^ 63 ≤ value ∧ value < 2 ^ 64
  | _, .real _ => True
  | _, .text value => fits (Text.utf8 value).length
  | levels + 1, .list items =>
    fits items.length ∧ ∀ item ∈ items, IsWritable fits levels item
  | levels + 1, .map entries =>
    fits entries.length ∧ ∀ entry ∈ entries,
      (∃ name, entry.1 = .text name ∧ fits (Text.utf8 name).length) ∧
        IsWritable fits levels entry.2
  | _, _ => False

end Datum

end ShapeScene
