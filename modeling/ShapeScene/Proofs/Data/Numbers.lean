import ShapeScene.Data.Fields

/-!
# The numbers of data

A reader of structures makes no numbers up: each number of what it gives stands in the data, as
itself or as an integer that is rounded. It is enough to know this of the readers of the parts.
-/

namespace ShapeScene.Datum

/-- Whether a number stands in a datum, as itself, as an integer or as one of the bytes of a
string. -/
inductive Yields (x : Binary64) : Datum → Prop where
  /-- As itself. -/
  | real : Yields x (.real x)
  /-- As an integer. -/
  | integer {form : IntegerForm} {value : Int} (rounded : Binary64.ofInt value = x) :
    Yields x (.integer form value)
  /-- As one of the bytes of a string. -/
  | byte {content : List UInt8} {byte : Datum} (member : byte ∈ ofBytes content)
      (within : Yields x byte) : Yields x (.bytes content)
  /-- In an item of a list. -/
  | item {items : List Datum} {item : Datum} (member : item ∈ items) (within : Yields x item) :
    Yields x (.list items)
  /-- In the value of an entry. -/
  | entry {entries : List (Datum × Datum)} {entry : Datum × Datum} (member : entry ∈ entries)
      (within : Yields x entry.2) : Yields x (.map entries)

/-- Whether each number of what a reader gives stands in the datum that it reads. -/
def ReadsNumbers {α : Type} (read : Datum → Option α) (numbers : α → List Binary64) : Prop :=
  ∀ ⦃datum value⦄, read datum = some value → ∀ x ∈ numbers value, datum.Yields x

/-- A number is read from itself or from an integer. -/
theorem readsNumbers_toReal? : ReadsNumbers toReal? fun x => [x] := by
  intro datum value read x member
  obtain rfl := List.mem_singleton.mp member
  cases datum with
  | real y =>
    obtain rfl := Option.some.inj read
    exact .real
  | integer form word => exact .integer (Option.some.inj read)
  | _ => cases read

/-- The numbers of a triple stand in the list or the bytes that it is read from. -/
theorem yields_of_toTriple? {datum : Datum} {x y z number : Binary64}
    (read : toTriple? datum = some (x, y, z)) (member : number ∈ [x, y, z]) :
    datum.Yields number := by
  have within {a b c : Datum} (read : toTriple?.triple a b c = some (x, y, z)) :
      ∃ part ∈ [a, b, c], part.Yields number := by
    simp only [toTriple?.triple, Option.bind_eq_bind, Option.bind_eq_some_iff, Option.some.injEq,
      Prod.mk.injEq] at read
    obtain ⟨_, first, _, second, _, third, rfl, rfl, rfl⟩ := read
    simp only [List.mem_cons, List.not_mem_nil, or_false] at member
    rcases member with rfl | rfl | rfl
    · exact ⟨a, by simp, readsNumbers_toReal? first _ (by simp)⟩
    · exact ⟨b, by simp, readsNumbers_toReal? second _ (by simp)⟩
    · exact ⟨c, by simp, readsNumbers_toReal? third _ (by simp)⟩
  unfold toTriple? at read
  split at read
  · obtain ⟨part, inParts, inPart⟩ := within read
    exact .item inParts inPart
  · rename_i content
    split at read
    · rename_i a b c parts
      obtain ⟨part, inParts, inPart⟩ := within read
      rw [← parts, ofBytes, List.map_take] at inParts
      exact .byte (List.mem_of_mem_take inParts) inPart
    · cases read
  · cases read

/-! ## Fields -/

/-- A value that fills a slot is the value of an entry, if it was not there before. -/
theorem mem_of_fillSlots {isIndex : IntegerForm → Bool} {names : List String}
    {slots filled : List (Option Datum)} {entries : List (Datum × Datum)} {value : Datum}
    (fill : fillSlots isIndex names slots entries = some filled)
    (member : some value ∈ filled) :
    some value ∈ slots ∨ ∃ entry ∈ entries, entry.2 = value := by
  induction entries generalizing slots with
  | nil =>
    obtain rfl := Option.some.inj fill
    exact .inl member
  | cons entry entries ih =>
    obtain ⟨key, first⟩ := entry
    have later {slots : List (Option Datum)}
        (fill : fillSlots isIndex names slots entries = some filled) :
        some value ∈ slots ∨ ∃ entry ∈ (key, first) :: entries, entry.2 = value :=
      (ih fill).imp_right fun ⟨entry, among, same⟩ => ⟨entry, List.mem_cons_of_mem _ among, same⟩
    rw [fillSlots] at fill
    split at fill
    · cases fill
    · exact later fill
    · split at fill
      · rcases later fill with inSlots | inEntries
        · rcases List.mem_or_eq_of_mem_set inSlots with before | same
          · exact .inl before
          · exact .inr ⟨(key, first), List.mem_cons_self, (Option.some.inj same).symm⟩
        · exact .inr inEntries
      · cases fill

/-- What stands in a field stands in the structure. -/
theorem yields_of_fields? {isIndex : IntegerForm → Bool} {names : List String} {required : Nat}
    {datum : Datum} {slots : List (Option Datum)} {x : Binary64}
    (fields : fields? isIndex names required datum = some slots) {slot : Option Datum}
    (member : slot ∈ slots) (within : ∃ value, slot = some value ∧ value.Yields x) :
    datum.Yields x := by
  obtain ⟨value, rfl, within⟩ := within
  have padded {items : List Datum} {count : Nat}
      (member : some value ∈ items.map some ++ List.replicate count none) : value ∈ items := by
    rcases List.mem_append.mp member with there | missing
    · obtain ⟨item, among, same⟩ := List.mem_map.mp there
      rwa [← Option.some.inj same]
    · cases List.eq_of_mem_replicate missing
  cases datum with
  | map entries =>
    rcases mem_of_fillSlots fields member with empty | ⟨entry, among, rfl⟩
    · obtain ⟨name, -, same⟩ := List.mem_map.mp empty
      cases same
    · exact .entry among within
  | list items =>
    simp only [fields?] at fields
    split at fields
    · obtain rfl := Option.some.inj fields
      exact .item (padded member) within
    · cases fields
  | bytes content =>
    simp only [fields?] at fields
    split at fields
    · obtain rfl := Option.some.inj fields
      have inFront := padded member
      rw [ofBytes, List.map_take] at inFront
      exact .byte (List.mem_of_mem_take inFront) within
    · cases fields
  | _ => cases fields

/-- What stands beside a tag stands in the structure. -/
theorem yields_of_tagged? {tag : String} {datum value others : Datum} {x : Binary64}
    (tagged : tagged? tag datum = some (value, others)) (within : others.Yields x) :
    datum.Yields x := by
  cases datum with
  | map entries =>
    simp only [tagged?, List.partition_eq_filter_filter] at tagged
    split at tagged
    · rename_i parts
      split at tagged
      · obtain ⟨-, rfl⟩ := Prod.mk.inj (Option.some.inj tagged)
        cases within with
        | entry member within =>
          rw [← (Prod.mk.inj parts).2] at member
          exact .entry (List.mem_filter.mp member).1 within
      · cases tagged
    · cases tagged
  | list items =>
    cases items with
    | nil => cases tagged
    | cons first items =>
      simp only [tagged?] at tagged
      split at tagged
      · obtain ⟨-, rfl⟩ := Prod.mk.inj (Option.some.inj tagged)
        cases within with
        | item member within => exact .item (List.mem_cons_of_mem _ member) within
      · cases tagged
  | _ => cases tagged

/-- Every item of a list that is read is read from a part. -/
theorem exists_of_mem_mapM {α β : Type} {read : β → Option α} {parts : List β} {items : List α}
    (all : parts.mapM read = some items) :
    ∀ item ∈ items, ∃ part ∈ parts, read part = some item := by
  induction parts generalizing items with
  | nil =>
    obtain rfl := Option.some.inj all
    simp
  | cons part parts ih =>
    simp only [List.mapM_cons, Option.bind_eq_bind, Option.pure_def, Option.bind_eq_some_iff,
      Option.some.injEq] at all
    obtain ⟨first, firstRead, others, othersRead, rfl⟩ := all
    refine List.forall_mem_cons.mpr ⟨⟨part, List.mem_cons_self, firstRead⟩, ?_⟩
    intro item member
    obtain ⟨other, among, otherRead⟩ := ih othersRead item member
    exact ⟨other, List.mem_cons_of_mem _ among, otherRead⟩

namespace ReadsNumbers

variable {α : Type} {read : Datum → Option α} {numbers : α → List Binary64} {slot : Option Datum}
  {x : Binary64}

/-- The numbers of a field that must be there stand in it. -/
theorem needed (reads : ReadsNumbers read numbers) {value : α}
    (field : Datum.needed read slot = some value) (member : x ∈ numbers value) :
    ∃ part, slot = some part ∧ part.Yields x := by
  cases slot with
  | none => cases field
  | some part => exact ⟨part, rfl, reads field x member⟩

/-- The numbers of a field that may be missing stand in it. -/
theorem optional (reads : ReadsNumbers read numbers) {value : Option α}
    (field : Datum.optional read slot = some value) (member : x ∈ value.toList.flatMap numbers) :
    ∃ part, slot = some part ∧ part.Yields x := by
  unfold Datum.optional at field
  split at field
  · obtain rfl := Option.some.inj field
    cases member
  · obtain rfl := Option.some.inj field
    cases member
  · cases field
  · rename_i part _ _
    obtain ⟨given, partRead, rfl⟩ := Option.map_eq_some_iff.mp field
    rw [Option.toList_some, List.flatMap_singleton] at member
    exact ⟨part, rfl, reads partRead x member⟩

/-- The numbers of a list stand in its items. -/
theorem toList? (reads : ReadsNumbers read numbers) :
    ReadsNumbers (Datum.toList? read) fun items => items.flatMap numbers := by
  intro datum items all x member
  obtain ⟨item, among, inItem⟩ := List.mem_flatMap.mp member
  cases datum with
  | list parts =>
    obtain ⟨part, inParts, partRead⟩ := exists_of_mem_mapM all item among
    exact .item inParts (reads partRead x inItem)
  | bytes content =>
    obtain ⟨part, inParts, partRead⟩ := exists_of_mem_mapM all item among
    exact .byte inParts (reads partRead x inItem)
  | _ => cases all

end ReadsNumbers

end ShapeScene.Datum
