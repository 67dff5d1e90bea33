import ShapeScene.Proofs.Storage.Names

/-!
# What the folder of a store keeps

A folder that only stores have written to holds one file for each scene and each format in which the
scene was saved, and nothing else. What the operations of a store do to such a folder is said of
the scenes in it, without names of files and their contents.
-/

namespace ShapeScene

/-- The scenes that are kept in each format under each name. -/
def Stock : Type := StoreFormat → String → Option SceneRecord

namespace Stock

/-- Nothing is kept. -/
def empty : Stock := fun _ _ => none

/-- A scene is kept in a format, in place of the one of its name. -/
def put (stock : Stock) (format : StoreFormat) (record : SceneRecord) : Stock := fun other id =>
  if other = format ∧ id = record.id then some record else stock other id

/-- A scene is no longer kept in some formats. -/
def drop (stock : Stock) (id : String) (formats : List StoreFormat) : Stock := fun format other =>
  if other = id ∧ format ∈ formats then none else stock format other

/-- The scene that is found when formats are tried in order. -/
def first (stock : Stock) (id : String) (formats : List StoreFormat) : Option SceneRecord :=
  formats.findSome? fun format => stock format id

/-- Whether a scene is kept in one of some formats. -/
def keeps (stock : Stock) (id : String) (formats : List StoreFormat) : Bool :=
  formats.any fun format => (stock format id).isSome

/-- Whether a summary is read from a scene that is kept. -/
def Shows (stock : Stock) (summary : SceneSummary) : Prop :=
  ∃ format id record read, stock format id = some record ∧
    SceneRecord.ofBytes format (record.toBytes format) = .ok read ∧ summary = read.summary

/-- Whether all scenes that are kept read back. -/
def ReadsBack (stock : Stock) : Prop :=
  ∀ format id record, stock format id = some record →
    SceneRecord.ofBytes format (record.toBytes format) = .ok record

/-- Where nothing is kept, all of it reads back. -/
theorem readsBack_empty : empty.ReadsBack := by
  intro format id record kept
  cases kept

/-- Nothing changes when no format is given. -/
theorem drop_nil (stock : Stock) (id : String) : stock.drop id [] = stock := by
  funext format other
  simp [drop]

/-- Formats can be dropped one after the other. -/
theorem drop_cons (stock : Stock) (id : String) (format : StoreFormat)
    (formats : List StoreFormat) :
    stock.drop id (format :: formats) = (stock.drop id [format]).drop id formats := by
  funext other name
  by_cases same : name = id
  · by_cases here : other ∈ formats
    · simp [drop, same, here]
    · simp [drop, same, here]
  · simp [drop, same]

/-- Dropping a format in which a scene is not kept changes nothing. -/
theorem drop_of_none {stock : Stock} {id : String} {format : StoreFormat}
    (absent : stock format id = none) : stock.drop id [format] = stock := by
  funext other name
  by_cases same : name = id ∧ other ∈ [format]
  · obtain ⟨rfl, here⟩ := same
    rw [drop, if_pos ⟨rfl, here⟩, List.mem_singleton.mp here, absent]
  · rw [drop, if_neg same]

/-- A scene is found exactly when it is kept. -/
theorem isSome_first (stock : Stock) (id : String) (formats : List StoreFormat) :
    (stock.first id formats).isSome = stock.keeps id formats := by
  rw [Bool.eq_iff_iff, first, keeps, List.findSome?_isSome_iff, List.any_eq_true]

end Stock

namespace Folder

open SceneStore

/-- Whether a folder holds the files of the scenes that are kept, and nothing else. -/
structure Keeps (folder : Folder) (stock : Stock) : Prop where
  /-- A scene is kept under its own name, which is valid. -/
  named : ∀ {format id record}, stock format id = some record →
    record.id = id ∧ isValidId id = true
  /-- A scene that is kept has a file. -/
  held : ∀ {format id record}, stock format id = some record →
    folder.find? (fileName id format) = some (.file (record.toBytes format) false)
  /-- Every entry is the file of a scene. -/
  only : ∀ {entry}, entry ∈ folder → ∃ format id record, stock format id = some record ∧
    entry = (fileName id format, .file (record.toBytes format) false)
  /-- No name is used twice. -/
  distinct : (folder.map Prod.fst).Nodup

/-- An entry that is found is in the folder. -/
theorem mem_of_find? {folder : Folder} {name : String} {entry : Entry}
    (found : folder.find? name = some entry) : (name, entry) ∈ folder := by
  induction folder with
  | nil => cases found
  | cons head rest ih =>
    rw [find?] at found
    split at found
    · rename_i same
      cases found
      rw [← same]
      exact List.mem_cons_self
    · exact List.mem_cons_of_mem _ (ih found)

/-- The names of a folder after an entry was put there. -/
theorem mem_put {folder : Folder} {name : String} {new : Entry} {entry : String × Entry}
    (distinct : (folder.map Prod.fst).Nodup) (member : entry ∈ folder.put name new) :
    entry = (name, new) ∨ (entry ∈ folder ∧ entry.1 ≠ name) := by
  induction folder with
  | nil => exact .inl (List.mem_singleton.mp member)
  | cons head rest ih =>
    obtain ⟨other, old⟩ := head
    have apart := List.nodup_cons.mp distinct
    rw [put] at member
    split at member
    · rename_i same
      rcases List.mem_cons.mp member with here | behind
      · exact .inl here
      · refine .inr ⟨List.mem_cons_of_mem _ behind, ?_⟩
        intro named
        exact apart.1 (List.mem_map.mpr ⟨entry, behind, named.trans same.symm⟩)
    · rename_i different
      rcases List.mem_cons.mp member with rfl | behind
      · exact .inr ⟨List.mem_cons_self, different⟩
      · rcases ih apart.2 behind with here | ⟨there, named⟩
        · exact .inl here
        · exact .inr ⟨List.mem_cons_of_mem _ there, named⟩

/-- Putting an entry uses no name twice. -/
theorem nodup_put {folder : Folder} (distinct : (folder.map Prod.fst).Nodup) (name : String)
    (entry : Entry) : ((folder.put name entry).map Prod.fst).Nodup := by
  induction folder with
  | nil => simp [put]
  | cons head rest ih =>
    obtain ⟨other, old⟩ := head
    have apart := List.nodup_cons.mp distinct
    rw [put]
    split
    · rename_i same
      exact List.nodup_cons.mpr ⟨same ▸ apart.1, apart.2⟩
    · rename_i different
      refine List.nodup_cons.mpr ⟨?_, ih apart.2⟩
      intro member
      obtain ⟨kept, inside, named⟩ := List.mem_map.mp member
      rcases mem_put apart.2 inside with here | ⟨there, _⟩
      · exact different (named.symm.trans (congrArg Prod.fst here))
      · exact apart.1 (named ▸ List.mem_map_of_mem there)

namespace Keeps

/-- Nothing is kept in an empty folder. -/
theorem nil : Keeps [] Stock.empty where
  named := fun kept => nomatch kept
  held := fun kept => nomatch kept
  only := fun member => nomatch member
  distinct := List.nodup_nil

variable {folder : Folder} {stock : Stock}

/-- The file of a scene is there exactly when the scene is kept. -/
theorem find?_fileName (keeps : folder.Keeps stock) {id : String} (valid : isValidId id = true)
    (format : StoreFormat) :
    folder.find? (fileName id format) =
      (stock format id).map fun record => .file (record.toBytes format) false := by
  cases kept : stock format id with
  | some record => exact keeps.held kept
  | none =>
    cases found : folder.find? (fileName id format) with
    | none => rfl
    | some entry =>
      obtain ⟨other, name, record, there, same⟩ := keeps.only (mem_of_find? found)
      obtain ⟨rfl, rfl⟩ := fileName_injective valid (keeps.named there).2 (congrArg Prod.fst same)
      rw [kept] at there
      cases there

/-- The file of a scene is no link. -/
theorem find?_fileName_ne_link (keeps : folder.Keeps stock) {id : String}
    (valid : isValidId id = true) (format : StoreFormat) (target : String) :
    folder.find? (fileName id format) ≠ some (.link target) := by
  rw [keeps.find?_fileName valid]
  cases stock format id <;> simp

/-- There are neither folders nor links. -/
theorem isFlat (keeps : folder.Keeps stock) : folder.IsFlat := by
  intro name
  rw [passage?]
  cases found : folder.find? name with
  | none => rfl
  | some entry =>
    obtain ⟨_, _, _, _, same⟩ := keeps.only (mem_of_find? found)
    cases same
    rfl

/-! ## Files of scenes -/

/-- A scene can be put into the folder. -/
theorem put (keeps : folder.Keeps stock) {record : SceneRecord}
    (valid : isValidId record.id = true) (format : StoreFormat) :
    (folder.put (fileName record.id format) (.file (record.toBytes format) false)).Keeps
      (stock.put format record) where
  named := by
    intro other id kept there
    rw [Stock.put] at there
    split at there
    · rename_i same
      cases there
      exact ⟨same.2.symm, same.2 ▸ valid⟩
    · exact keeps.named there
  held := by
    intro other id kept there
    rw [Stock.put] at there
    split at there
    · rename_i same
      cases there
      rw [same.1, same.2]
      exact find?_put_self folder _ _
    · rename_i different
      rw [find?_put_of_ne, keeps.held there]
      intro same
      have names := fileName_injective (keeps.named there).2 valid same
      exact different ⟨names.2, names.1⟩
  only := by
    intro entry member
    rcases mem_put keeps.distinct member with rfl | ⟨there, different⟩
    · exact ⟨format, record.id, record, by simp [Stock.put], rfl⟩
    · obtain ⟨other, id, kept, inStock, same⟩ := keeps.only there
      refine ⟨other, id, kept, ?_, same⟩
      rw [Stock.put, if_neg, inStock]
      rintro ⟨rfl, rfl⟩
      exact different (congrArg Prod.fst same)
  distinct := nodup_put keeps.distinct _ _

/-- A scene can be erased from the folder. -/
theorem erase (keeps : folder.Keeps stock) {id : String} (valid : isValidId id = true)
    (format : StoreFormat) :
    (folder.erase (fileName id format)).Keeps (stock.drop id [format]) where
  named := by
    intro other name kept there
    rw [Stock.drop] at there
    split at there
    · cases there
    · exact keeps.named there
  held := by
    intro other name kept there
    rw [Stock.drop] at there
    split at there
    · cases there
    · rename_i different
      rw [find?_erase_of_ne, keeps.held there]
      intro same
      have names := fileName_injective (keeps.named there).2 valid same
      exact different ⟨names.1, List.mem_singleton.mpr names.2⟩
  only := by
    intro entry member
    obtain ⟨there, different⟩ := List.mem_filter.mp member
    obtain ⟨other, name, kept, inStock, same⟩ := keeps.only there
    refine ⟨other, name, kept, ?_, same⟩
    rw [Stock.drop, if_neg, inStock]
    rintro ⟨rfl, here⟩
    rw [same, List.mem_singleton.mp here] at different
    simp at different
  distinct := keeps.distinct.sublist (List.filter_sublist.map Prod.fst)

/-- Writing the file of a scene puts it into the folder. -/
theorem write (keeps : folder.Keeps stock) {id : String} (valid : isValidId id = true)
    {format : StoreFormat} (short : isTooLong (fileName id format) = false)
    (content : List UInt8) :
    folder.write (fileName id format) content =
      .ok (folder.put (fileName id format) (.file content false)) := by
  rw [Folder.write, short, keeps.find?_fileName valid]
  cases stock format id <;> rfl

/-- Removing the file of a scene erases it, when it is there. -/
theorem remove (keeps : folder.Keeps stock) {id : String} (valid : isValidId id = true)
    {format : StoreFormat} (short : isTooLong (fileName id format) = false) :
    folder.remove (fileName id format) =
      if (stock format id).isSome then .ok (folder.erase (fileName id format))
      else .error .notFound := by
  rw [Folder.remove, short, keeps.find?_fileName valid]
  cases stock format id <;> rfl

/-- Reading the file of a scene gives its bytes, when it is there. -/
theorem read (keeps : folder.Keeps stock) {id : String} (valid : isValidId id = true)
    {format : StoreFormat} (short : isTooLong (fileName id format) = false) :
    folder.read (fileName id format) =
      match stock format id with
      | some record => .ok (record.toBytes format)
      | none => .error .notFound := by
  rw [Folder.read, short, keeps.find?_fileName valid]
  cases stock format id <;> rfl

/-! ## Scenes found -/

/-- The summary of the file of a scene is that of the scene read from it. -/
theorem summaryOf?_fileName (follow : String → Except IoFailure (List UInt8)) {id : String}
    (valid : isValidId id = true) (format : StoreFormat) (content : List UInt8)
    (isProgram : Bool) (summary : SceneSummary) :
    summaryOf? follow (fileName id format, .file content isProgram) = some summary ↔
      ∃ read, SceneRecord.ofBytes format content = .ok read ∧ summary = read.summary := by
  simp only [summaryOf?, contentOf?,
    ofExtension?_fileName (ne_empty_of_isValidId valid) format, Option.bind_eq_bind,
    Option.bind_some]
  cases SceneRecord.ofBytes format content with
  | error failure => simp
  | ok read => simp [eq_comm]

/-- The summaries found in the folder are those of the scenes that are kept. -/
theorem mem_found (keeps : folder.Keeps stock) (follow : String → Except IoFailure (List UInt8))
    (summary : SceneSummary) :
    summary ∈ folder.filterMap (summaryOf? follow) ↔ stock.Shows summary := by
  rw [List.mem_filterMap]
  constructor
  · rintro ⟨entry, member, found⟩
    obtain ⟨format, id, record, kept, rfl⟩ := keeps.only member
    obtain ⟨read, readBack, shown⟩ :=
      (summaryOf?_fileName follow (keeps.named kept).2 format _ _ _).mp found
    exact ⟨format, id, record, read, kept, readBack, shown⟩
  · rintro ⟨format, id, record, read, kept, readBack, shown⟩
    exact ⟨_, mem_of_find? (keeps.held kept),
      (summaryOf?_fileName follow (keeps.named kept).2 format _ _ _).mpr ⟨read, readBack, shown⟩⟩

/-- When no scene is kept in two formats, the scenes found have different names. -/
theorem nodup_found (keeps : folder.Keeps stock) (reads : stock.ReadsBack)
    (single : ∀ {id format other record copy}, stock format id = some record →
      stock other id = some copy → format = other)
    (follow : String → Except IoFailure (List UInt8)) :
    ((folder.filterMap (summaryOf? follow)).map SceneSummary.id).Nodup := by
  have apart : folder.Pairwise fun first second => first.1 ≠ second.1 :=
    List.pairwise_map.mp keeps.distinct
  rw [List.Nodup, List.pairwise_map, List.pairwise_filterMap]
  refine apart.imp_of_mem ?_
  intro first second inFirst inSecond different summary found other foundOther same
  obtain ⟨format, id, record, kept, rfl⟩ := keeps.only inFirst
  obtain ⟨format', id', record', kept', rfl⟩ := keeps.only inSecond
  obtain ⟨read, readBack, shown⟩ :=
    (summaryOf?_fileName follow (keeps.named kept).2 format _ _ _).mp found
  obtain ⟨read', readBack', shown'⟩ :=
    (summaryOf?_fileName follow (keeps.named kept').2 format' _ _ _).mp foundOther
  rw [reads format id record kept, Except.ok.injEq] at readBack
  rw [reads format' id' record' kept', Except.ok.injEq] at readBack'
  have names : id = id' := by
    calc
      id = record.id := (keeps.named kept).1.symm
      _ = summary.id := by rw [shown, readBack]; rfl
      _ = other.id := same
      _ = record'.id := by rw [shown', readBack']; rfl
      _ = id' := (keeps.named kept').1
  subst names
  exact different (congrArg (fileName id) (single kept kept'))

end Keeps

end Folder

end ShapeScene
