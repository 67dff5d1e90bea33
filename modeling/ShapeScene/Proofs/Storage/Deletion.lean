import ShapeScene.Proofs.Storage.Visits

/-!
# Deletion

A store removes the file of a scene in its own format and then the one in the other format. A file
can be refused that is not missing: there is a folder under its name, or its name or its path is too
long. Refused at the first file, a store has changed nothing; refused at the second one, it answers
with an error when the first is gone already. What a deletion does is said here for every content of
the folder, so that this is seen to be the only way in which an error comes with a change.
-/

namespace ShapeScene

namespace StoreFormat

/-- The format that a store tries after its own. -/
def other : StoreFormat → StoreFormat
  | .json => .messagePack
  | .messagePack => .json

/-- Of two formats the own one is tried first. -/
theorem lookupOrder_eq (format : StoreFormat) : format.lookupOrder = [format, format.other] := by
  cases format <;> rfl

/-- What is so in both formats is so in every one. -/
theorem forall_iff (format : StoreFormat) {property : StoreFormat → Prop} :
    (∀ any, property any) ↔ property format ∧ property format.other := by
  constructor
  · exact fun all => ⟨all _, all _⟩
  · rintro ⟨own, behind⟩ any
    cases format <;> cases any <;> assumption

end StoreFormat

/-! ## Names taken out of a folder -/

namespace Folder

/-- The entries of a folder under some of its names. -/
def restrict (folder : Folder) (keeps : String → Bool) : Folder :=
  folder.filter fun entry => keeps entry.1

/-- A name that is kept has its entry, any other one has none. -/
theorem find?_restrict (folder : Folder) (keeps : String → Bool) (name : String) :
    (folder.restrict keeps).find? name = if keeps name then folder.find? name else none := by
  induction folder with
  | nil => simp [restrict, find?]
  | cons head rest ih =>
    obtain ⟨first, entry⟩ := head
    rw [restrict] at ih
    by_cases same : first = name
    · subst same
      cases kept : keeps first <;> simp_all [restrict, find?]
    · cases kept : keeps first <;> simp_all [restrict, find?]

/-- Erasing a name that is not there changes nothing. -/
theorem erase_of_find? {folder : Folder} {name : String} (absent : folder.find? name = none) :
    folder.erase name = folder := by
  induction folder with
  | nil => rfl
  | cons head rest ih =>
    rw [find?] at absent
    split at absent
    · cases absent
    · rename_i different
      rw [erase, List.filter_cons, if_pos (by simpa using different), ← erase, ih absent]

/-- The folder without the files of a scene in some formats. -/
def withoutScene (folder : Folder) (id : String) (formats : List StoreFormat) : Folder :=
  folder.restrict fun name => formats.all fun format => name != SceneStore.fileName id format

/-- Without any format nothing changes. -/
theorem withoutScene_nil (folder : Folder) (id : String) : folder.withoutScene id [] = folder := by
  simp [withoutScene, restrict]

/-- The formats can be taken out one after the other. -/
theorem withoutScene_cons (folder : Folder) (id : String) (format : StoreFormat)
    (formats : List StoreFormat) :
    folder.withoutScene id (format :: formats) =
      (folder.erase (SceneStore.fileName id format)).withoutScene id formats := by
  simp only [withoutScene, restrict, erase, List.filter_filter, List.all_cons, Bool.and_comm]

/-- The files of a scene are gone in the formats that were taken out. -/
theorem find?_withoutScene (folder : Folder) (id : String) {format : StoreFormat}
    {formats : List StoreFormat} (member : format ∈ formats) :
    (folder.withoutScene id formats).find? (SceneStore.fileName id format) = none := by
  rw [withoutScene, find?_restrict, if_neg]
  simpa using ⟨format, member, rfl⟩

/-- Other names are as they were. -/
theorem find?_withoutScene_of_ne (folder : Folder) {name id : String} {formats : List StoreFormat}
    (different : ∀ format ∈ formats, name ≠ SceneStore.fileName id format) :
    (folder.withoutScene id formats).find? name = folder.find? name := by
  rw [withoutScene, find?_restrict, if_pos]
  simpa using different

end Folder

namespace SceneStore

variable {store : SceneStore} {tree : FileTree} {place : List String} {folder : Folder}
  {id : String}

/-! ## One file -/

/-- Why the file of a scene cannot be removed from a folder, other than that it is missing. -/
def hindrance? (store : SceneStore) (folder : Folder) (id : String) (format : StoreFormat) :
    Option IoFailure :=
  if store.fits id format then
    match folder.find? (fileName id format) with
    | some (.folder _) => some .isFolder
    | _ => none
  else some .nameTooLong

/-- A file that is missing does not hinder. -/
theorem hindrance?_ne_notFound (store : SceneStore) (folder : Folder) (id : String)
    (format : StoreFormat) : store.hindrance? folder id format ≠ some .notFound := by
  rw [hindrance?]
  split
  · split <;> simp
  · simp

/-- What hinders is known from what is under the name of the file. -/
theorem hindrance?_congr {changed : Folder} {format : StoreFormat}
    (same : changed.find? (fileName id format) = folder.find? (fileName id format)) :
    store.hindrance? changed id format = store.hindrance? folder id format := by
  rw [hindrance?, hindrance?, same]

/-- A path cannot pass a file that can be removed and is no link. -/
theorem passage?_of_hindrance? {format : StoreFormat}
    (free : store.hindrance? folder id format = none)
    (plain : ∀ target, folder.find? (fileName id format) ≠ some (.link target)) :
    folder.passage? (fileName id format) = none := by
  rw [hindrance?] at free
  rw [Folder.passage?]
  split at free
  · cases found : folder.find? (fileName id format) with
    | none => rfl
    | some entry =>
      cases entry with
      | file content isProgram => rfl
      | device device => rfl
      | folder entries => simp [found] at free
      | link target => exact absurd found (plain target)
  · cases free

/-- A file is removed that is there, unless something hinders. -/
theorem IsAt.remove_eq (there : store.IsAt tree place) (found : tree.root.at? place = some folder)
    (valid : isValidId id = true) (format : StoreFormat) :
    tree.remove (store.path id format) =
      match store.hindrance? folder id format with
      | some failure => .error failure
      | none =>
        if (folder.find? (fileName id format)).isSome then
          .ok (tree.withFolderAt place (folder.erase (fileName id format)))
        else .error .notFound := by
  rw [there.remove_path found valid, hindrance?]
  by_cases longPath : FileTree.maxPathBytes < (store.path id format).utf8ByteSize
  · rw [if_pos longPath, fits_of_long longPath]
    rfl
  · rw [if_neg longPath, fits_of_short longPath, Folder.remove]
    cases Folder.isTooLong (fileName id format) with
    | true => rfl
    | false =>
      cases folder.find? (fileName id format) with
      | none => rfl
      | some entry => cases entry <;> rfl

/-! ## One file after the other -/

/-- What a deletion in some formats comes to: its answer, and the formats whose files are gone
behind it. All is read from the folder as it was before. -/
def deletion (store : SceneStore) (folder : Folder) (id : String) :
    (deleted : Bool) → List StoreFormat → Except SceneError Unit × List StoreFormat
  | deleted, [] => (if deleted then .ok () else .error (.sceneNotFound id), [])
  | deleted, format :: formats =>
    match store.hindrance? folder id format with
    | some failure => (.error (store.fileError "delete scene" id format failure), [])
    | none =>
      let later := deletion store folder id
        (deleted || (folder.find? (fileName id format)).isSome) formats
      (later.1, format :: later.2)

/-- What a deletion comes to is known from what is under the names of the files. -/
theorem deletion_congr {changed : Folder} {formats : List StoreFormat}
    (same : ∀ format ∈ formats,
      changed.find? (fileName id format) = folder.find? (fileName id format)) (deleted : Bool) :
    store.deletion changed id deleted formats = store.deletion folder id deleted formats := by
  induction formats generalizing deleted with
  | nil => rfl
  | cons format formats ih =>
    obtain ⟨head, tail⟩ := List.forall_mem_cons.mp same
    rw [deletion, deletion, hindrance?_congr head, head, ih tail]

/-- Where nothing hinders, all files are gone, and there has to be one. -/
theorem deletion_of_free (free : ∀ format, store.hindrance? folder id format = none)
    (deleted : Bool) (formats : List StoreFormat) :
    store.deletion folder id deleted formats =
      (if deleted || formats.any fun format => (folder.find? (fileName id format)).isSome then
          .ok ()
        else .error (.sceneNotFound id), formats) := by
  induction formats generalizing deleted with
  | nil => simp [deletion]
  | cons format formats ih =>
    rw [deletion, free format]
    simp only [ih]
    rw [List.any_cons, Bool.or_assoc]

/-- Deleting leaves the folder without the files that could be removed. -/
theorem IsAt.deleteScene_eq (there : store.IsAt tree place)
    (found : tree.root.at? place = some folder) (valid : isValidId id = true)
    {formats : List StoreFormat} (apart : formats.Nodup)
    (plain : ∀ format ∈ formats, ∀ target,
      folder.find? (fileName id format) ≠ some (.link target)) (deleted : Bool) :
    store.deleteScene id deleted formats tree =
      ((store.deletion folder id deleted formats).1,
        tree.withFolderAt place
          (folder.withoutScene id (store.deletion folder id deleted formats).2)) := by
  induction formats generalizing tree folder deleted with
  | nil =>
    rw [deletion, Folder.withoutScene_nil, FileTree.withFolderAt_of_at? found]
    rfl
  | cons format formats ih =>
    obtain ⟨head, tail⟩ := List.forall_mem_cons.mp plain
    obtain ⟨new, apart⟩ := List.nodup_cons.mp apart
    rw [deleteScene_cons, there.remove_eq found valid, deletion]
    cases hindered : store.hindrance? folder id format with
    | some failure =>
      have refused : failure ≠ .notFound :=
        fun missing => hindrance?_ne_notFound store folder id format (missing ▸ hindered)
      rw [Folder.withoutScene_nil, FileTree.withFolderAt_of_at? found]
      cases failure <;> first | rfl | exact absurd rfl refused
    | none =>
      simp only [Folder.withoutScene_cons]
      cases entry : folder.find? (fileName id format) with
      | none =>
        rw [Folder.erase_of_find? entry, Option.isSome_none, Bool.or_false]
        exact ih there found apart tail deleted
      | some entry =>
        -- The later files are met in a folder in which nothing but the first one is missing.
        have leads := FileTree.leadsAs_withFolderAt found
          (Folder.leadsAs_erase (passage?_of_hindrance? hindered head))
        have same : ∀ other ∈ formats,
            (folder.erase (fileName id format)).find? (fileName id other) =
              folder.find? (fileName id other) := by
          intro other member
          refine Folder.find?_erase_of_ne (fun names => ?_) folder
          exact new ((fileName_injective valid valid names).2 ▸ member)
        have plainStill : ∀ other ∈ formats, ∀ target,
            (folder.erase (fileName id format)).find? (fileName id other) ≠
              some (.link target) :=
          fun other member => same other member ▸ tail other member
        have later := ih (there.of_leadsAs leads) (Folder.at?_replaceAt found _) apart plainStill
          true
        rw [deletion_congr same, FileTree.withFolderAt_withFolderAt] at later
        rw [Option.isSome_some, Bool.or_true, if_pos rfl]
        exact later

/-! ## Both files -/

/-- Whether a deletion stops half way: the file in the own format can be removed and is there, but
the one in the other format cannot be. -/
structure HalfDeletes (store : SceneStore) (folder : Folder) (id : String) (failure : IoFailure) :
    Prop where
  /-- The name of the scene is valid. -/
  valid : isValidId id = true
  /-- Nothing hinders in the own format. -/
  free : store.hindrance? folder id store.format = none
  /-- The file in the own format is there. -/
  stored : (folder.find? (fileName id store.format)).isSome = true
  /-- Something hinders in the other format. -/
  hindered : store.hindrance? folder id store.format.other = some failure

/-- Whether a deletion goes through: nothing hinders, and a file is there. -/
structure FullyDeletes (store : SceneStore) (folder : Folder) (id : String) : Prop where
  /-- The name of the scene is valid. -/
  valid : isValidId id = true
  /-- Nothing hinders in any format. -/
  free : ∀ format, store.hindrance? folder id format = none
  /-- There is a file. -/
  stored : ∃ format, (folder.find? (fileName id format)).isSome = true

/-- A deletion that goes through succeeds and takes out both files. -/
theorem FullyDeletes.deletion (full : store.FullyDeletes folder id) :
    store.deletion folder id false store.format.lookupOrder = (.ok (), store.format.lookupOrder) := by
  obtain ⟨format, stored⟩ := full.stored
  rw [deletion_of_free full.free, if_pos]
  simpa using ⟨format, mem_lookupOrder store.format format, stored⟩

/-- A deletion that stops half way takes out the file in the own format. -/
theorem HalfDeletes.deletion {failure : IoFailure} (half : store.HalfDeletes folder id failure) :
    store.deletion folder id false store.format.lookupOrder =
      (.error (store.fileError "delete scene" id store.format.other failure), [store.format]) := by
  rw [StoreFormat.lookupOrder_eq, SceneStore.deletion, half.free, SceneStore.deletion,
    half.hindered]

/-- A deletion that neither goes through nor stops half way takes out nothing. -/
theorem deletion_of_neither (valid : isValidId id = true) (notFull : ¬ store.FullyDeletes folder id)
    (notHalf : ∀ failure, ¬ store.HalfDeletes folder id failure) :
    (∃ error, (store.deletion folder id false store.format.lookupOrder).1 = .error error) ∧
      folder.withoutScene id (store.deletion folder id false store.format.lookupOrder).2 =
        folder := by
  simp only [StoreFormat.lookupOrder_eq, SceneStore.deletion]
  cases free : store.hindrance? folder id store.format with
  | some failure => exact ⟨⟨_, rfl⟩, folder.withoutScene_nil id⟩
  | none =>
    cases stored : folder.find? (fileName id store.format) with
    | some entry =>
      cases hindered : store.hindrance? folder id store.format.other with
      | some failure => exact absurd ⟨valid, free, by rw [stored]; rfl, hindered⟩ (notHalf failure)
      | none =>
        refine absurd ⟨valid, ?_, store.format, by rw [stored]; rfl⟩ notFull
        exact (StoreFormat.forall_iff store.format).mpr ⟨free, hindered⟩
    | none =>
      have unchanged : folder.withoutScene id [store.format] = folder := by
        rw [Folder.withoutScene_cons, Folder.erase_of_find? stored, Folder.withoutScene_nil]
      cases hindered : store.hindrance? folder id store.format.other with
      | some failure => exact ⟨⟨_, rfl⟩, unchanged⟩
      | none =>
        cases behind : folder.find? (fileName id store.format.other) with
        | some entry =>
          refine absurd ⟨valid, ?_, store.format.other, by rw [behind]; rfl⟩ notFull
          exact (StoreFormat.forall_iff store.format).mpr ⟨free, hindered⟩
        | none =>
          refine ⟨⟨_, rfl⟩, ?_⟩
          rw [Folder.withoutScene_cons, Folder.erase_of_find? stored, Folder.withoutScene_cons,
            Folder.erase_of_find? behind, Folder.withoutScene_nil]

/-- A folder without a file that was there is another one. -/
theorem withFolderAt_erase_ne (found : tree.root.at? place = some folder) {name : String}
    (stored : (folder.find? name).isSome = true) :
    tree.withFolderAt place (folder.erase name) ≠ tree := by
  intro same
  have changed : (tree.withFolderAt place (folder.erase name)).root.at? place =
      some (folder.erase name) := Folder.at?_replaceAt found _
  rw [same, found, Option.some.injEq] at changed
  rw [changed, Folder.find?_erase_self] at stored
  cases stored

/-- Deleting answers as planned and takes out what is planned. -/
theorem IsAt.delete_eq (there : store.IsAt tree place) (found : tree.root.at? place = some folder)
    (plain : ∀ format target, folder.find? (fileName id format) ≠ some (.link target))
    (valid : isValidId id = true) :
    store.delete id tree =
      ((store.deletion folder id false store.format.lookupOrder).1,
        tree.withFolderAt place (folder.withoutScene id
          (store.deletion folder id false store.format.lookupOrder).2)) := by
  have order : store.format.lookupOrder.Nodup := by cases store.format <;> decide
  rw [SceneStore.delete, valid, Bool.not_true, if_neg Bool.false_ne_true]
  exact there.deleteScene_eq found valid order (fun format _ => plain format) false

/-- Deleting succeeds where it goes through. -/
theorem IsAt.delete_of_full (there : store.IsAt tree place)
    (found : tree.root.at? place = some folder)
    (plain : ∀ format target, folder.find? (fileName id format) ≠ some (.link target))
    (full : store.FullyDeletes folder id) :
    store.delete id tree =
      (.ok (), tree.withFolderAt place (folder.withoutScene id store.format.lookupOrder)) := by
  rw [there.delete_eq found plain full.valid, full.deletion]

/-- Deleting fails where it stops half way, and the file in the own format is gone. -/
theorem IsAt.delete_of_half (there : store.IsAt tree place)
    (found : tree.root.at? place = some folder)
    (plain : ∀ format target, folder.find? (fileName id format) ≠ some (.link target))
    {failure : IoFailure} (half : store.HalfDeletes folder id failure) :
    store.delete id tree =
      (.error (store.fileError "delete scene" id store.format.other failure),
        tree.withFolderAt place (folder.erase (fileName id store.format))) := by
  rw [there.delete_eq found plain half.valid, half.deletion, Folder.withoutScene_cons,
    Folder.withoutScene_nil]

/-- Deleting fails where it neither goes through nor stops half way, and nothing changes. -/
theorem IsAt.delete_of_neither (there : store.IsAt tree place)
    (found : tree.root.at? place = some folder)
    (plain : ∀ format target, folder.find? (fileName id format) ≠ some (.link target))
    (notFull : ¬ store.FullyDeletes folder id)
    (notHalf : ∀ failure, ¬ store.HalfDeletes folder id failure) :
    ∃ error, store.delete id tree = (.error error, tree) := by
  cases valid : isValidId id with
  | false =>
    refine ⟨invalidId id, ?_⟩
    rw [SceneStore.delete, valid]
    rfl
  | true =>
    obtain ⟨⟨error, answer⟩, kept⟩ := deletion_of_neither valid notFull notHalf
    refine ⟨error, ?_⟩
    rw [there.delete_eq found plain valid, answer, kept, FileTree.withFolderAt_of_at? found]

/-- A deletion is all or nothing, unless it stops half way. When it answers with an error, the files
are as they were, except that the file in the own format is gone when the one in the other format
cannot be removed; when it succeeds, which is so when nothing hinders and a file is there, neither
file is left and all else is as it was. -/
theorem delete_all_or_nothing_or_half (there : store.IsAt tree place)
    (found : tree.root.at? place = some folder)
    (plain : ∀ format target, folder.find? (fileName id format) ≠ some (.link target)) :
    (∀ error, (store.delete id tree).1 = .error error →
        ((store.delete id tree).2 = tree ↔ ∀ failure, ¬ store.HalfDeletes folder id failure)) ∧
      (∀ failure, store.HalfDeletes folder id failure →
        store.delete id tree =
          (.error (store.fileError "delete scene" id store.format.other failure),
            tree.withFolderAt place (folder.erase (fileName id store.format)))) ∧
      ((store.delete id tree).1 = .ok () ↔ store.FullyDeletes folder id) ∧
      ((store.delete id tree).1 = .ok () →
        ∃ remaining, (store.delete id tree).2 = tree.withFolderAt place remaining ∧
          (∀ format, remaining.find? (fileName id format) = none) ∧
          ∀ name, (∀ format, name ≠ fileName id format) →
            remaining.find? name = folder.find? name) := by
  have success : (store.delete id tree).1 = .ok () ↔ store.FullyDeletes folder id := by
    constructor
    · intro answer
      refine Classical.byContradiction fun notFull => ?_
      by_cases half : ∃ failure, store.HalfDeletes folder id failure
      · obtain ⟨failure, half⟩ := half
        rw [there.delete_of_half found plain half] at answer
        cases answer
      · obtain ⟨error, refused⟩ :=
          there.delete_of_neither found plain notFull (not_exists.mp half)
        rw [refused] at answer
        cases answer
    · intro full
      rw [there.delete_of_full found plain full]
  refine ⟨fun error refused => ⟨fun same failure half => ?_, fun notHalf => ?_⟩,
    fun failure half => there.delete_of_half found plain half, success, fun answer => ?_⟩
  · rw [there.delete_of_half found plain half] at same
    exact withFolderAt_erase_ne found half.stored same
  · have notFull : ¬ store.FullyDeletes folder id := by
      intro full
      rw [success.mpr full] at refused
      cases refused
    obtain ⟨error, answer⟩ := there.delete_of_neither found plain notFull notHalf
    rw [answer]
  · have full := success.mp answer
    rw [there.delete_of_full found plain full]
    refine ⟨_, rfl, fun format => ?_, fun name different => ?_⟩
    · exact folder.find?_withoutScene id (mem_lookupOrder store.format format)
    · exact folder.find?_withoutScene_of_ne fun format _ => different format

/-- A deletion also stops half way where nothing but files of scenes is in the folder: a name can be
short enough for a file in JSON and too long for one in MessagePack. -/
theorem halfDeletes_of_long (own : store.format = .json) (valid : isValidId id = true)
    (long : 248 ≤ id.utf8ByteSize ∧ id.utf8ByteSize ≤ 250)
    (path : (store.path id .json).utf8ByteSize ≤ FileTree.maxPathBytes)
    {content : List UInt8} {isProgram : Bool}
    (stored : folder.find? (fileName id .json) = some (.file content isProgram)) :
    store.HalfDeletes folder id .nameTooLong where
  valid := valid
  free := by
    have short : Folder.isTooLong (fileName id .json) = false := by
      have extension : StoreFormat.json.extension.utf8ByteSize = 4 := by decide
      rw [Folder.isTooLong, utf8ByteSize_fileName, extension, Folder.maxNameBytes,
        decide_eq_false_iff_not]
      omega
    rw [own, hindrance?, fits, short, decide_eq_true path, stored]
    rfl
  stored := by rw [own, stored]; rfl
  hindered := by
    have tooLong : Folder.isTooLong (fileName id .messagePack) = true := by
      have extension : StoreFormat.messagePack.extension.utf8ByteSize = 7 := by decide
      rw [Folder.isTooLong, utf8ByteSize_fileName, extension, Folder.maxNameBytes,
        decide_eq_true_eq]
      omega
    rw [own, StoreFormat.other, hindrance?, fits, tooLong]
    rfl

/-- A folder with a scene in JSON and a folder under the name of its file in MessagePack. -/
def halfStored : FileTree :=
  ⟨[("scenes", .folder [("a.json", .file [] false), ("a.msgpack", .folder [])])], []⟩

/-- A store deletes half of a scene, answers with an error, and leaves other files than before. -/
theorem delete_halfStored :
    (delete ⟨"scenes", .json⟩ "a" halfStored).1 =
        .error (.ioAt "delete scene" "scenes/a.msgpack" "Is a directory (os error 21)") ∧
      (delete ⟨"scenes", .json⟩ "a" halfStored).2 =
        ⟨[("scenes", .folder [("a.msgpack", .folder [])])], []⟩ ∧
      (delete ⟨"scenes", .json⟩ "a" halfStored).2 ≠ halfStored := by
  have there : IsAt ⟨"scenes", .json⟩ halfStored ["scenes"] := ⟨by rfl, by rfl⟩
  have plain : ∀ format target, Folder.find? [("a.json", .file [] false), ("a.msgpack", .folder [])]
      (fileName "a" format) ≠ some (.link target) := by
    intro format target
    cases format <;> simp [Folder.find?, fileName, StoreFormat.extension]
  have half : HalfDeletes ⟨"scenes", .json⟩ [("a.json", .file [] false), ("a.msgpack", .folder [])]
      "a" .isFolder :=
    ⟨by decide, by decide, by decide, by decide⟩
  obtain ⟨whole, halved, -, -⟩ := delete_all_or_nothing_or_half there (by rfl) plain
  have run := halved .isFolder half
  refine ⟨by rw [run]; rfl, by rw [run]; rfl, fun same => ?_⟩
  exact (whole _ (congrArg Prod.fst run)).mp same .isFolder half

end SceneStore

end ShapeScene
