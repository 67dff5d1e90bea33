import ShapeScene.Proofs.Storage.Deletion

/-!
# Confinement

A name that is not plain is refused before any file is touched. With a plain name a store touches
two names in its folder, one for each format, and no other scene has them. A saving and a loading go
on to where such a name leads when it is a link. The names that a listing takes for those of scenes
are more: whatever stands in front of the extension is not looked at.
-/

namespace ShapeScene

/-! ## Changes at one name -/

namespace Folder

variable {folder changed : Folder} {name other : String}

/-- Writing a file leaves other names as they were. -/
theorem find?_of_write {content : List UInt8} (done : folder.write name content = .ok changed)
    (different : other ≠ name) : changed.find? other = folder.find? other := by
  rw [write] at done
  split at done
  · cases done
  · split at done
    · cases done
      exact find?_put_of_ne different folder _
    · cases done
    · cases done
      exact find?_put_of_ne different folder _
    · cases done
    · split at done
      · cases done
      · cases done
        rfl

/-- Whether writing is refused is known from what is under the name. -/
theorem write_eq_error_congr {first second : Folder} (same : first.find? name = second.find? name)
    (content : List UInt8) (failure : IoFailure) :
    first.write name content = .error failure ↔ second.write name content = .error failure := by
  rw [write, write, same]
  split
  · rfl
  · split
    · simp
    · rfl
    · simp
    · rfl
    · split <;> simp

/-- What is read is known from what is under the name. -/
theorem read_congr {first second : Folder} (same : first.find? name = second.find? name) :
    first.read name = second.read name := by
  rw [read, read, same]

/-- Removing a file erases its name. -/
theorem eq_erase_of_remove (done : folder.remove name = .ok changed) :
    changed = folder.erase name := by
  rw [remove] at done
  split at done
  · cases done
  · split at done <;> cases done <;> rfl

end Folder

namespace FileTree

variable {before after : FileTree} {place : List String} {name : String}

/-- Whether two trees differ at most in what is under a name in the folder at a place. -/
def ChangesOnly (before after : FileTree) (place : List String) (name : String) : Prop :=
  ∃ folder changed, before.root.at? place = some folder ∧
    after = before.withFolderAt place changed ∧
    ∀ other, other ≠ name → changed.find? other = folder.find? other

/-- A change of a folder that succeeds replaces that folder. -/
theorem change_eq_ok {changes : Folder → Except IoFailure Folder}
    (done : before.change place changes = .ok after) :
    ∃ folder changed, before.root.at? place = some folder ∧ changes folder = .ok changed ∧
      after = before.withFolderAt place changed := by
  rw [change] at done
  split at done
  · cases done
  · rename_i folder found
    cases changed : changes folder with
    | error failure => simp [changed, Except.map] at done
    | ok entries =>
      rw [changed] at done
      cases done
      exact ⟨folder, entries, found, changed, rfl⟩

end FileTree

namespace SceneStore

variable {store : SceneStore} {tree first second after : FileTree} {place : List String}
  {id : String} {format : StoreFormat}

/-! ## Where files are -/

/-- The place to which the path of a store leads. -/
def placeIn (store : SceneStore) (tree : FileTree) : Except IoFailure (List String) :=
  tree.follow (FileTree.startOf tree.here store.root) (Path.parts store.root)

/-- Where the path of a file leads, that is the name of the file in the folder of the store. -/
theorem locate_eq_ok (valid : isValidId id = true) {destination : Destination}
    (located : tree.locate (store.path id format) = .ok destination) :
    ∃ place, store.placeIn tree = .ok place ∧
      destination = .name place (fileName id format) false := by
  rw [FileTree.locate, locateFrom_path store tree tree.here valid] at located
  split at located
  · cases located
  · split at located
    · cases located
    · rw [← placeIn] at located
      cases reached : store.placeIn tree with
      | error failure => simp [reached, Except.map] at located
      | ok place =>
        rw [reached] at located
        cases located
        exact ⟨place, rfl, rfl⟩

/-- From a folder the name of a file leads to that name in it. -/
theorem locateFrom_fileName (tree : FileTree) (place : List String) (valid : isValidId id = true)
    (short : (fileName id format).utf8ByteSize ≤ FileTree.maxPathBytes) :
    tree.locateFrom place (fileName id format) = .ok (.name place (fileName id format) false) := by
  -- The name is the path of the file for a store without a folder.
  have alone : path ⟨"", format⟩ id format = fileName id format := by
    rw [path, Path.join, if_pos]
    exact Bool.or_eq_true_iff.mpr (.inr rfl)
  have located := locateFrom_path ⟨"", format⟩ tree place valid format
  rw [alone, if_neg (by simp), if_neg (Nat.not_lt.mpr short)] at located
  exact located

/-- A path is not shorter than the name at its end. -/
theorem utf8ByteSize_fileName_le (store : SceneStore) (id : String) (format : StoreFormat) :
    (fileName id format).utf8ByteSize ≤ (store.path id format).utf8ByteSize := by
  rw [path, Path.join]
  split
  · exact Nat.le_refl _
  · split
    · rw [String.utf8ByteSize_append]
      exact Nat.le_add_left _ _
    · rw [String.utf8ByteSize_append]
      exact Nat.le_add_left _ _

/-- The file of a scene is read where the path of the store leads. -/
theorem read_path (store : SceneStore) (tree : FileTree) (valid : isValidId id = true)
    (format : StoreFormat) :
    tree.read (store.path id format) =
      if '\x00' ∈ store.root.toList then .error .nullInPath
      else if FileTree.maxPathBytes < (store.path id format).utf8ByteSize then .error .nameTooLong
      else store.placeIn tree >>= fun place => tree.readFrom place (fileName id format) := by
  rw [FileTree.read, FileTree.readFrom, locateFrom_path store tree tree.here valid, ← placeIn]
  split
  · rfl
  · split
    · rfl
    · rename_i short
      have name := Nat.le_trans (utf8ByteSize_fileName_le store id format) (Nat.not_lt.mp short)
      cases store.placeIn tree with
      | error failure => rfl
      | ok place =>
        change _ = tree.readFrom place (fileName id format)
        rw [FileTree.readFrom, locateFrom_fileName tree place valid name]
        rfl

/-! ## What is touched -/

/-- Writing the file of a scene changes only the name to which its own leads in the end. -/
theorem changesOnly_of_write (valid : isValidId id = true) {content : List UInt8}
    (done : tree.write (store.path id format) content = .ok after) :
    ∃ place, store.placeIn tree = .ok place ∧ ∃ target name,
      tree.arrive FileTree.maxLinks (.name place (fileName id format) false) =
          .ok (.name target name false) ∧
        tree.ChangesOnly after target name := by
  obtain ⟨destination, located, done⟩ := bind_eq_ok.mp done
  obtain ⟨place, reached, rfl⟩ := locate_eq_ok valid located
  obtain ⟨destination, arrived, done⟩ := bind_eq_ok.mp done
  refine ⟨place, reached, ?_⟩
  split at done
  · cases done
  · cases done
  · rename_i target name
    obtain ⟨folder, changed, found, written, same⟩ := FileTree.change_eq_ok done
    exact ⟨target, name, arrived, folder, changed, found, same,
      fun other different => Folder.find?_of_write written different⟩

/-- Removing the file of a scene changes only its own name. -/
theorem changesOnly_of_remove (valid : isValidId id = true)
    (done : tree.remove (store.path id format) = .ok after) :
    ∃ place, store.placeIn tree = .ok place ∧
      tree.ChangesOnly after place (fileName id format) := by
  obtain ⟨destination, located, done⟩ := bind_eq_ok.mp done
  obtain ⟨place, reached, rfl⟩ := locate_eq_ok valid located
  obtain ⟨smaller, removed, done⟩ := bind_eq_ok.mp done
  cases done
  obtain ⟨folder, changed, found, erased, same⟩ := FileTree.change_eq_ok removed
  refine ⟨place, reached, folder, changed, found, same, fun other different => ?_⟩
  rw [Folder.eq_erase_of_remove erased]
  exact Folder.find?_erase_of_ne different folder

/-- Saving changes nothing or only the name to which that of the file leads. -/
theorem save_changesOnly (store : SceneStore) (record : SceneRecord) (tree : FileTree)
    (valid : isValidId record.id = true) :
    (store.save record tree).2 = tree ∨
      ∃ place, store.placeIn tree = .ok place ∧ ∃ target name,
        tree.arrive FileTree.maxLinks (.name place (fileName record.id store.format) false) =
            .ok (.name target name false) ∧
          tree.ChangesOnly (store.save record tree).2 target name := by
  rw [SceneStore.save, valid, Bool.not_true, if_neg Bool.false_ne_true]
  dsimp only
  cases written : tree.write (store.path record.id store.format) (record.toBytes store.format) with
  | error failure => exact .inl rfl
  | ok after => exact .inr (changesOnly_of_write valid written)

/-- How files change when files of a scene are removed one after the other. -/
inductive Removes (store : SceneStore) (id : String) : FileTree → FileTree → Prop where
  /-- Nothing is removed. -/
  | nothing (tree : FileTree) : store.Removes id tree tree
  /-- A file in the folder of the store is removed, and then others. -/
  | file {tree next after : FileTree} (format : StoreFormat) (place : List String)
    (reached : store.placeIn tree = .ok place)
    (only : tree.ChangesOnly next place (fileName id format))
    (others : store.Removes id next after) : store.Removes id tree after

/-- Deleting in some formats removes nothing but files of the scene. -/
theorem removes_deleteScene (store : SceneStore) (valid : isValidId id = true) (deleted : Bool)
    (formats : List StoreFormat) (tree : FileTree) :
    store.Removes id tree (store.deleteScene id deleted formats tree).2 := by
  induction formats generalizing deleted tree with
  | nil => exact .nothing tree
  | cons format formats ih =>
    rw [deleteScene_cons]
    cases removed : tree.remove (store.path id format) with
    | error failure =>
      cases failure with
      | notFound => exact ih deleted tree
      | _ => exact .nothing tree
    | ok smaller =>
      obtain ⟨place, reached, only⟩ := changesOnly_of_remove valid removed
      exact .file format place reached only (ih true smaller)

/-- A scene is loaded from what is read under its names. -/
theorem readScene_congr {formats : List StoreFormat}
    (same : ∀ format ∈ formats,
      first.read (store.path id format) = second.read (store.path id format)) :
    store.readScene id first formats = store.readScene id second formats := by
  induction formats with
  | nil => rfl
  | cons format formats ih =>
    obtain ⟨head, tail⟩ := List.forall_mem_cons.mp same
    rw [readScene_cons, readScene_cons, head, ih tail]

/-- What is loaded is known from where the names of the files lead. -/
theorem load_congr (valid : isValidId id = true)
    (samePlace : store.placeIn first = store.placeIn second)
    (same : ∀ place, store.placeIn first = .ok place → ∀ format,
      first.readFrom place (fileName id format) = second.readFrom place (fileName id format)) :
    store.load id first = store.load id second := by
  rw [SceneStore.load, SceneStore.load, valid, Bool.not_true, if_neg Bool.false_ne_true]
  refine readScene_congr fun format _ => ?_
  rw [read_path store first valid, read_path store second valid, ← samePlace]
  have reads : (store.placeIn first >>= fun place => first.readFrom place (fileName id format)) =
      store.placeIn first >>= fun place => second.readFrom place (fileName id format) := by
    cases reached : store.placeIn first with
    | error failure =>
      change Except.error failure = Except.error failure
      rfl
    | ok place => exact same place reached format
  rw [reads]

/-- What is answered is known from what is under the names of the files, when they are no links. -/
theorem answers_congr {elsewhere : List String} {folder other : Folder}
    (firstThere : store.IsAt first place) (found : first.root.at? place = some folder)
    (secondThere : store.IsAt second elsewhere) (foundOther : second.root.at? elsewhere = some other)
    (plain : ∀ format target, folder.find? (fileName id format) ≠ some (.link target))
    (same : ∀ format, other.find? (fileName id format) = folder.find? (fileName id format))
    (valid : isValidId id = true) :
    (∀ record, record.id = id → (store.save record first).1 = (store.save record second).1) ∧
      store.load id first = store.load id second ∧
      (store.delete id first).1 = (store.delete id second).1 := by
  have plainOther : ∀ format target, other.find? (fileName id format) ≠ some (.link target) :=
    fun format => same format ▸ plain format
  refine ⟨?_, ?_, ?_⟩
  · rintro record rfl
    simp only [SceneStore.save, valid, Bool.not_true, Bool.false_eq_true, if_false]
    rw [firstThere.write_path found valid (plain store.format),
      secondThere.write_path foundOther valid (plainOther store.format)]
    have alike := Folder.write_eq_error_congr (same store.format) (record.toBytes store.format)
    by_cases longPath :
        FileTree.maxPathBytes < (store.path record.id store.format).utf8ByteSize
    · simp only [if_pos longPath]
    · simp only [if_neg longPath]
      cases here : folder.write (fileName record.id store.format) (record.toBytes store.format) with
      | error failure =>
        rw [(alike failure).mpr here]
        rfl
      | ok changed =>
        cases there : other.write (fileName record.id store.format)
            (record.toBytes store.format) with
        | error failure =>
          rw [(alike failure).mp there] at here
          cases here
        | ok _ => rfl
  · rw [SceneStore.load, SceneStore.load, valid, Bool.not_true, if_neg Bool.false_ne_true]
    refine readScene_congr fun format _ => ?_
    rw [firstThere.read_path found valid (plain format),
      secondThere.read_path foundOther valid (plainOther format),
      Folder.read_congr (same format)]
  · rw [firstThere.delete_eq found plain valid, secondThere.delete_eq foundOther plainOther valid,
      deletion_congr fun format _ => same format]

/-! ## Names of stored scenes -/

/-- The characters of a name are those that programs call alphanumeric, hyphen and underscore. -/
theorem isIdChar_iff (char : Char) :
    isIdChar char = true ↔ char.isAlphanum = true ∨ char = '-' ∨ char = '_' := by
  delta isIdChar Char.isAlphanum Char.isAlpha Char.isUpper Char.isLower Char.isDigit
  simp only [Char.le_def, Bool.or_eq_true, Bool.and_eq_true, decide_eq_true_eq, beq_iff_eq]
  grind

/-- The names of the file of a scene that a listing takes for one in a format. -/
theorem bind_ofExtension?_iff (name : String) (format : StoreFormat) :
    (Path.nameExtension? name).bind StoreFormat.ofExtension? = some format ↔
      ∃ stem, stem ≠ "" ∧ name = fileName stem format := by
  constructor
  · intro recognized
    obtain ⟨extension, extended, formatted⟩ := Option.bind_eq_some_iff.mp recognized
    have written : extension = format.extension := by
      rw [StoreFormat.ofExtension?] at formatted
      split at formatted
      · rename_i json
        cases formatted
        exact json
      · split at formatted
        · rename_i messagePack
          cases formatted
          exact messagePack
        · cases formatted
    rw [Path.nameExtension?] at extended
    split at extended
    · rename_i behind before split
      obtain ⟨separator, dot, together⟩ := Text.splitFirst_eq_some split
      rw [decide_eq_true_eq] at dot
      split at extended
      · cases extended
      · rename_i filled
        have tail : behind.reverse = extension.toList := by
          rw [← Option.some.inj extended, String.toList_ofList]
        refine ⟨String.ofList before.reverse, ?_, String.toList_injective ?_⟩
        · simpa using filled
        · rw [toList_fileName, String.toList_ofList, ← written, ← tail, ← dot,
            ← List.reverse_reverse name.toList, together]
          simp
    · cases extended
  · rintro ⟨stem, named, rfl⟩
    exact ofExtension?_fileName named format

/-- A listing shows the scenes in the readable files whose names have something in front of the
extension of their format. -/
theorem summaryOf?_eq_some_iff (follow : String → Except IoFailure (List UInt8)) (name : String)
    (entry : Entry) (summary : SceneSummary) :
    summaryOf? follow (name, entry) = some summary ↔
      ∃ stem format content record, stem ≠ "" ∧ name = fileName stem format ∧
        contentOf? follow entry = some content ∧
        SceneRecord.ofBytes format content = .ok record ∧ summary = record.summary := by
  simp only [summaryOf?, Option.bind_eq_bind, Option.bind_eq_some_iff]
  constructor
  · rintro ⟨content, readable, format, recognized, decoded⟩
    obtain ⟨stem, named, written⟩ :=
      (bind_ofExtension?_iff name format).mp (Option.bind_eq_some_iff.mpr recognized)
    split at decoded
    · rename_i record read
      exact ⟨stem, format, content, record, named, written, readable, read,
        (Option.some.inj decoded).symm⟩
    · cases decoded
  · rintro ⟨stem, format, content, record, named, written, readable, read, shown⟩
    have recognized := (bind_ofExtension?_iff name format).mpr ⟨stem, named, written⟩
    refine ⟨content, readable, format, Option.bind_eq_some_iff.mp recognized, ?_⟩
    rw [read, shown]

/-! ## All names -/

/-- Whether all that is asked about a name is refused, without any look at the files. -/
structure Refuses (store : SceneStore) (id : String) : Prop where
  /-- Nothing is saved. -/
  save : ∀ record tree, record.id = id → store.save record tree = (.error (invalidId id), tree)
  /-- Nothing is loaded. -/
  load : ∀ tree, store.load id tree = .error (invalidId id)
  /-- Nothing is deleted. -/
  delete : ∀ tree, store.delete id tree = (.error (invalidId id), tree)

/-- Whether what is asked about a name stays with the names of its files in the folder of the
store. -/
structure StaysWithFiles (store : SceneStore) (id : String) : Prop where
  /-- The files are directly in the folder. -/
  inside : ∀ format, Path.pieces (store.path id format) =
    Path.pieces store.root ++ [fileName id format]
  /-- No other name has them. -/
  apart : ∀ other format otherFormat, isValidId other = true →
    store.path id format = store.path other otherFormat → id = other ∧ format = otherFormat
  /-- Saving changes nothing, or only the name to which that of the file leads. -/
  save : ∀ record tree, record.id = id → (store.save record tree).2 = tree ∨
    ∃ place, store.placeIn tree = .ok place ∧ ∃ target name,
      tree.arrive FileTree.maxLinks (.name place (fileName id store.format) false) =
          .ok (.name target name false) ∧
        tree.ChangesOnly (store.save record tree).2 target name
  /-- A name that is no link leads to itself. -/
  plain : ∀ (tree : FileTree) place format,
    (∀ target, (tree.folderAt place).find? (fileName id format) ≠ some (.link target)) →
      tree.arrive FileTree.maxLinks (.name place (fileName id format) false) =
        .ok (.name place (fileName id format) false)
  /-- Deleting removes nothing but files under the names. -/
  delete : ∀ tree, store.Removes id tree (store.delete id tree).2
  /-- Loading reads nothing but that to which the names lead. -/
  load : ∀ first second, store.placeIn first = store.placeIn second →
    (∀ place, store.placeIn first = .ok place → ∀ format,
      first.readFrom place (fileName id format) = second.readFrom place (fileName id format)) →
    store.load id first = store.load id second
  /-- All answers are known from what is under the names, when they are no links. -/
  answers : ∀ {first second : FileTree} {place elsewhere : List String} {folder other : Folder},
    store.IsAt first place → first.root.at? place = some folder →
    store.IsAt second elsewhere → second.root.at? elsewhere = some other →
    (∀ format target, folder.find? (fileName id format) ≠ some (.link target)) →
    (∀ format, other.find? (fileName id format) = folder.find? (fileName id format)) →
    (∀ record, record.id = id → (store.save record first).1 = (store.save record second).1) ∧
      store.load id first = store.load id second ∧
      (store.delete id first).1 = (store.delete id second).1

/-- A name that is not valid is refused. -/
theorem refuses_of_not_isValidId (store : SceneStore) (invalid : isValidId id = false) :
    store.Refuses id where
  save := by
    rintro record tree rfl
    rw [SceneStore.save, invalid]
    rfl
  load := by
    intro tree
    rw [SceneStore.load, invalid]
    rfl
  delete := by
    intro tree
    rw [SceneStore.delete, invalid]
    rfl

/-- The path of a file tells its scene and its format. -/
theorem path_injective (store : SceneStore) {other : String} {otherFormat : StoreFormat}
    (valid : isValidId id = true) (otherValid : isValidId other = true)
    (same : store.path id format = store.path other otherFormat) :
    id = other ∧ format = otherFormat := by
  have pieces := congrArg Path.pieces same
  rw [pieces_path store valid, pieces_path store otherValid] at pieces
  have names : fileName id format = fileName other otherFormat := by
    simpa using List.append_cancel_left pieces
  exact fileName_injective valid otherValid names

/-- What is asked about a valid name stays with its files. -/
theorem staysWithFiles_of_isValidId (store : SceneStore) (valid : isValidId id = true) :
    store.StaysWithFiles id where
  inside := pieces_path store valid
  apart := fun _ _ _ otherValid same => path_injective store valid otherValid same
  save := by
    rintro record tree rfl
    exact save_changesOnly store record tree valid
  plain := fun _ _ _ noLink => FileTree.arrive_of_ne_link noLink _ _
  delete := by
    intro tree
    rw [SceneStore.delete, valid]
    exact removes_deleteScene store valid false store.format.lookupOrder tree
  load := fun _ _ samePlace same => load_congr valid samePlace same
  answers := fun firstThere found secondThere foundOther plain same =>
    answers_congr firstThere found secondThere foundOther plain same valid

/-- No name leads out of the folder of a store, except through links, and no two scenes share a file.
Names other than those of letters, digits, hyphens and underscores are refused untouched; all others
stay with their own files. A listing tells the format of a scene from its file, but also takes names
that no scene is saved under. -/
theorem names_confined (store : SceneStore) (id : String) :
    (isValidId id = true ↔
        id ≠ "" ∧ ∀ char ∈ id.toList, char.isAlphanum = true ∨ char = '-' ∨ char = '_') ∧
      (isValidId id = false → store.Refuses id) ∧
      (isValidId id = true → store.StaysWithFiles id) ∧
      (∀ name format, (Path.nameExtension? name).bind StoreFormat.ofExtension? = some format ↔
        ∃ stem, stem ≠ "" ∧ name = fileName stem format) ∧
      ∀ follow name entry summary, summaryOf? follow (name, entry) = some summary ↔
        ∃ stem format content record, stem ≠ "" ∧ name = fileName stem format ∧
          contentOf? follow entry = some content ∧
          SceneRecord.ofBytes format content = .ok record ∧ summary = record.summary := by
  refine ⟨?_, refuses_of_not_isValidId store, staysWithFiles_of_isValidId store,
    bind_ofExtension?_iff, summaryOf?_eq_some_iff⟩
  rw [isValidId_iff]
  simp only [isIdChar_iff, ne_eq, String.toList_eq_nil_iff]

/-- A listing takes a name with a blank for that of a scene in JSON, which is no name of a file of any
scene; and where the file of a scene is a link, a saving writes what the link leads to, here outside
the folder of the store. -/
theorem loose_name_and_link :
    (Path.nameExtension? "a b.json").bind StoreFormat.ofExtension? = some .json ∧
      (∀ id format, isValidId id = true → fileName id format ≠ "a b.json") ∧
      ∀ record : SceneRecord, record.id = "a" →
        (save ⟨"s", .json⟩ record ⟨[("s", .folder [("a.json", .link "../b")])], []⟩).2 =
          ⟨[("s", .folder [("a.json", .link "../b")]), ("b", .file (record.toBytes .json) false)],
            []⟩ := by
  refine ⟨by decide, ?_, ?_⟩
  · intro id format valid same
    have blank : ' ' ∈ (fileName id format).toList := by
      rw [same]
      decide
    rw [toList_fileName] at blank
    rcases List.mem_append.mp blank with inId | behind
    · exact absurd (((isValidId_iff id).mp valid).2 _ inId) (by decide)
    · revert behind
      cases format <;> decide
  · intro record named
    rw [SceneStore.save, named]
    rfl

end SceneStore

end ShapeScene
