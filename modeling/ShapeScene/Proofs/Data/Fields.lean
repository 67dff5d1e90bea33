import Mathlib.Tactic.NormNum
import ShapeScene.Data.Fields
import ShapeScene.Proofs.Data.Datum

/-!
# Structures read back from their fields

A structure is written as the fields of it that are there, in order. Reading them puts each value
into the slot of its name and leaves the other slots empty, so the slots come back as they were;
what is then left is to read each slot by itself.
-/

namespace ShapeScene

namespace Datum

/-- The fields that are there. -/
def present (fields : List (String × Option Datum)) : List (String × Datum) :=
  fields.filterMap fun field => field.2.map fun value => (field.1, value)

/-- Of no fields none are there. -/
@[simp]
theorem present_nil : present [] = [] := rfl

/-- A field that is there is among them. -/
@[simp]
theorem present_cons_some (name : String) (value : Datum) (fields : List (String × Option Datum)) :
    present ((name, some value) :: fields) = (name, value) :: present fields := rfl

/-- A field that may be missing is among them if it is there. -/
@[simp]
theorem present_cons_map {α : Type} (name : String) (write : α → Datum) (value : Option α)
    (fields : List (String × Option Datum)) :
    present ((name, value.map write) :: fields) =
      (value.map fun value => (name, write value)).toList ++ present fields := by
  cases value <;> rfl

/-- Fields with what is read back of each. -/
def rereadFields (back : Rereading) (fields : List (String × Option Datum)) :
    List (String × Option Datum) :=
  fields.map fun field => (field.1, field.2.map (reread back))

/-! ## Slots -/

/-- The fields that are there are read back one by one. -/
theorem map_reread_present (back : Rereading) (fields : List (String × Option Datum)) :
    (present fields).map (fun field => (field.1, reread back field.2)) =
      present (rereadFields back fields) := by
  induction fields with
  | nil => rfl
  | cons field fields ih =>
    obtain ⟨name, value⟩ := field
    cases value with
    | none => exact ih
    | some value => exact congrArg ((name, reread back value) :: ·) ih

/-- An object is read back by the fields that are there. -/
theorem reread_present (back : Rereading) (fields : List (String × Option Datum)) :
    reread back (.object (present fields)) = .object (present (rereadFields back fields)) := by
  rw [reread_object, map_reread_present]

/-- A name is found behind other names. -/
theorem positionOfText?_append {before : List String} {name : String} (new : name ∉ before)
    (after : List String) :
    positionOfText? (before ++ name :: after) name = some before.length := by
  induction before with
  | nil => simp [positionOfText?, List.findIdx?_cons]
  | cons other before ih =>
    simp only [List.mem_cons, not_or] at new
    have different : (other == name) = false := by simpa using fun same => new.1 same.symm
    have found := ih new.2
    simp only [positionOfText?] at found
    simp [positionOfText?, List.findIdx?_cons, different, found]

/-- Each field that is there fills the slot of its name. -/
theorem fillSlots_present (isIndex : IntegerForm → Bool)
    (filled fields : List (String × Option Datum))
    (distinct : ((filled ++ fields).map Prod.fst).Nodup) :
    fillSlots isIndex ((filled ++ fields).map Prod.fst)
        (filled.map Prod.snd ++ fields.map fun _ => none)
        ((present fields).map fun field => (.text field.1, field.2)) =
      some ((filled ++ fields).map Prod.snd) := by
  induction fields generalizing filled with
  | nil => simp [present, fillSlots]
  | cons field fields ih =>
    obtain ⟨name, value⟩ := field
    have next := ih (filled ++ [(name, value)]) (by simpa using distinct)
    cases value with
    | none => simpa [present] using next
    | some value =>
      have new : name ∉ filled.map Prod.fst := by
        simp only [List.map_append, List.map_cons] at distinct
        intro member
        exact (List.nodup_append.mp distinct).2.2 name member name (by simp) rfl
      have found := positionOfText?_append new (fields.map Prod.fst)
      have key : fieldOfKey? isIndex ((filled ++ (name, some value) :: fields).map Prod.fst)
          (.text name) = some (some filled.length) := by
        rw [List.length_map] at found
        simp only [fieldOfKey?, List.map_append, List.map_cons, found]
      have slot : (filled.map Prod.snd ++ none :: fields.map fun _ => none)[filled.length]? =
          some (none : Option Datum) := by
        rw [List.getElem?_append_right (by simp)]
        simp
      have set : (filled.map Prod.snd ++ none :: fields.map fun _ => none).set filled.length
          (some value) = filled.map Prod.snd ++ some value :: fields.map fun _ => none := by
        rw [List.set_append_right _ _ (by simp)]
        simp
      simp only [present, List.filterMap_cons, Option.map_some, List.map_cons, fillSlots, key,
        slot, set] at next ⊢
      simpa using next

/-- A structure that was written field by field is read field by field. -/
theorem fields?_present (isIndex : IntegerForm → Bool) (required : Nat) {names : List String}
    {fields : List (String × Option Datum)} (named : fields.map Prod.fst = names)
    (distinct : names.Nodup) :
    fields? isIndex names required (.object (present fields)) = some (fields.map Prod.snd) := by
  subst named
  have filled := fillSlots_present isIndex [] fields (by simpa using distinct)
  simpa [fields?, object, Function.comp_def] using filled

/-- A structure that was written field by field is read back field by field. -/
theorem fields?_reread (back : Rereading) (isIndex : IntegerForm → Bool) (required : Nat)
    {names : List String} {fields : List (String × Option Datum)}
    (named : fields.map Prod.fst = names) (distinct : names.Nodup) :
    fields? isIndex names required (reread back (.object (present fields))) =
      some (fields.map fun field => field.2.map (reread back)) := by
  have renamed : (rereadFields back fields).map Prod.fst = names := by
    simpa [rereadFields, Function.comp_def] using named
  rw [reread_present, fields?_present isIndex required renamed distinct]
  simp [rereadFields, Function.comp_def]

/-- A structure without fields to leave out is read back field by field. -/
theorem fieldsOf?_reread (back : Rereading) {names : List String}
    {fields : List (String × Option Datum)} (named : fields.map Prod.fst = names)
    (distinct : names.Nodup) :
    fieldsOf? names (reread back (.object (present fields))) =
      some (fields.map fun field => field.2.map (reread back)) :=
  fields?_reread back IntegerForm.isIndex names.length named distinct

/-- The tag in front of a structure's fields is taken off when all fields have values. -/
theorem tagged?_object {tag : String} (value : Datum) {fields : List (String × Datum)}
    (other : ∀ field ∈ fields, field.1 ≠ tag) :
    tagged? tag (.object ((tag, value) :: fields)) =
      if entriesReadable (fields.map fun field => (.text field.1, field.2)) then
        some (value, .object fields)
      else none := by
  have apart : ∀ entry ∈ fields.map fun field => (Datum.text field.1, field.2),
      isTagKey tag entry.1 = false := by
    intro entry member
    obtain ⟨field, among, rfl⟩ := List.mem_map.mp member
    simpa [isTagKey] using other field among
  have own : isTagKey tag (.text tag) = true := by simp [isTagKey]
  have split : ((Datum.text tag, value) :: fields.map fun field =>
      (Datum.text field.1, field.2)).partition (fun entry => isTagKey tag entry.1) =
        ([(.text tag, value)], fields.map fun field => (.text field.1, field.2)) := by
    rw [List.partition_eq_filter_filter, List.filter_cons_of_pos (by simp [own]),
      List.filter_cons_of_neg (by simp [own]), List.filter_eq_nil_iff.mpr,
      List.filter_eq_self.mpr]
    · simpa using apart
    · simpa using apart
  simp only [tagged?, object, List.map_cons, split]

/-- A structure can be written when the fields that are there can. -/
theorem isWritable_present {fits : Nat → Prop} (small : ∀ count < 32, fits count) {levels : Nat}
    {fields : List (String × Option Datum)} (few : fields.length < 32)
    (short : ∀ field ∈ fields, (Text.utf8 field.1).length < 32)
    (each : ∀ field ∈ fields, ∀ value ∈ field.2, IsWritable fits levels value) :
    IsWritable fits (levels + 1) (.object (present fields)) := by
  have count : (present fields).length ≤ fields.length := List.length_filterMap_le _ _
  refine ⟨small _ (by rw [List.length_map]; omega), fun entry member => ?_⟩
  obtain ⟨written, among, rfl⟩ := List.mem_map.mp member
  obtain ⟨field, inFields, same⟩ := List.mem_filterMap.mp among
  obtain ⟨value, there, rfl⟩ := Option.map_eq_some_iff.mp same
  exact ⟨⟨field.1, rfl, small _ (short field inFields)⟩, each field inFields value there⟩

end Datum

/-! ## Numbers that are kept -/

namespace Rereading

/-- Whether a number is read as itself after it has been written. -/
def Keeps (back : Rereading) (x : Binary64) : Prop := Datum.toReal? (back.real x) = some x

/-- No number is read as one of the bytes of a string. -/
structure Lawful (back : Rereading) : Prop where
  /-- No integer is. -/
  form : ∀ value, back.form value ≠ .byte
  /-- No other number is. -/
  real : ∀ x value, back.real x ≠ .integer .byte value

/-- A number that is kept has a value. -/
theorem Keeps.isReadable {back : Rereading} {x : Binary64} (keeps : back.Keeps x) :
    (back.real x).isReadable = true := by
  unfold Keeps at keeps
  cases datum : back.real x <;> simp_all [Datum.toReal?, Datum.isReadable]

end Rereading

namespace Datum

/-- A field that may be missing is read when its value is. -/
theorem optional_eq_some {α : Type} {read : Datum → Option α} (null : read .null = none)
    {datum : Datum} (notByte : ∀ value, datum ≠ .integer .byte value) (value : α) :
    optional read (some datum) = some (some value) ↔ read datum = some value := by
  cases datum with
  | null => simp [optional, null]
  | integer form word =>
    cases form with
    | byte => exact absurd rfl (notByte word)
    | _ => simp [optional]
  | _ => simp [optional]

/-- A field that may be missing is read back when its value is, if it is there. -/
theorem optional_map {α : Type} {read : Datum → Option α} (null : read .null = none)
    {write : α → Datum} (notByte : ∀ value word, write value ≠ .integer .byte word)
    (field : Option α) :
    optional read (field.map write) = some field ↔
      ∀ value, field = some value → read (write value) = some value := by
  cases field with
  | none => simp [optional]
  | some value => simpa using optional_eq_some null (notByte value) value

/-- A list is read back when each of its items is. -/
theorem mapM_map {α β : Type} {read : β → Option α} {write : α → β} (items : List α) :
    (items.map write).mapM read = some items ↔ ∀ item ∈ items, read (write item) = some item := by
  induction items with
  | nil => simp
  | cons item items ih =>
    rw [List.map_cons, List.mapM_cons]
    simp only [Option.bind_eq_bind, Option.pure_def, Option.bind_eq_some_iff, Option.some.injEq,
      List.cons.injEq, List.forall_mem_cons, ← ih]
    constructor
    · rintro ⟨first, read, others, reads, rfl, rfl⟩
      exact ⟨read, reads⟩
    · rintro ⟨read, reads⟩
      exact ⟨item, read, items, reads, rfl, rfl⟩

end Datum

end ShapeScene
