import ShapeScene.Proofs.Storage.Stock

/-!
# Visits to the folder of a store

Stores are visited one after the other, each time with a request. As long as the paths of all of
them lead to one folder that nobody else touches, what is kept there after the visits is what the
requests say, whichever stores and formats they went through. This includes requests with invalid
names and those that fail since a name or a path is too long.
-/

namespace ShapeScene

/-- What is asked of a store. -/
inductive Request where
  /-- Save a scene. -/
  | save (record : SceneRecord)
  /-- Load the scene of a name. -/
  | load (id : String)
  /-- Delete the scene of a name. -/
  | delete (id : String)
  /-- List all scenes. -/
  | list

/-- What a store answers. -/
inductive Answer where
  /-- The path under which a scene was saved. -/
  | saved (result : Except SceneError String)
  /-- The scene that was loaded. -/
  | loaded (result : Except SceneError SceneRecord)
  /-- Whether a scene was deleted. -/
  | deleted (result : Except SceneError Unit)
  /-- The scenes that are there. -/
  | listed (result : Except SceneError (List SceneSummary))

/-- A request that is made of a store. -/
structure Visit where
  /-- The store. -/
  store : SceneStore
  /-- The request. -/
  request : Request

namespace SceneStore

/-- The answer to a request, and the files behind it. -/
def serve (store : SceneStore) (request : Request) (tree : FileTree) : Answer × FileTree :=
  match request with
  | .save record => (.saved (store.save record tree).1, (store.save record tree).2)
  | .load id => (.loaded (store.load id tree), tree)
  | .delete id => (.deleted (store.delete id tree).1, (store.delete id tree).2)
  | .list => (.listed (store.list tree), tree)

/-- Whether the name and the path of the file of a scene are short enough. -/
def fits (store : SceneStore) (id : String) (format : StoreFormat) : Bool :=
  !Folder.isTooLong (fileName id format) &&
    decide ((store.path id format).utf8ByteSize ≤ FileTree.maxPathBytes)

/-- Whether the names and the paths of the files of a scene are short enough in all formats. -/
def HasRoom (store : SceneStore) (id : String) : Prop := ∀ format, store.fits id format = true

/-- The formats in which a store can delete a scene. -/
def deletes (store : SceneStore) (id : String) : List StoreFormat :=
  if isValidId id then store.format.lookupOrder.takeWhile (store.fits id) else []

end SceneStore

/-- The answers to visits, and the files behind them. -/
def serveAll : List Visit → FileTree → List Answer × FileTree
  | [], tree => ([], tree)
  | visit :: visits, tree =>
    let served := visit.store.serve visit.request tree
    let rest := serveAll visits served.2
    (served.1 :: rest.1, rest.2)

namespace Stock

/-- What is kept after a visit. -/
def after (stock : Stock) (visit : Visit) : Stock :=
  match visit.request with
  | .save record =>
    if SceneStore.isValidId record.id && visit.store.fits record.id visit.store.format then
      stock.put visit.store.format record
    else stock
  | .delete id => stock.drop id (visit.store.deletes id)
  | .load _ | .list => stock

/-- What is kept after visits. -/
def afterAll (stock : Stock) (visits : List Visit) : Stock := visits.foldl after stock

/-- A scene is kept when its name is valid and short enough. -/
theorem after_save (stock : Stock) {store : SceneStore} {record : SceneRecord}
    (valid : SceneStore.isValidId record.id = true)
    (fit : store.fits record.id store.format = true) :
    stock.after ⟨store, .save record⟩ = stock.put store.format record :=
  if_pos (Bool.and_eq_true_iff.mpr ⟨valid, fit⟩)

/-- A scene is not kept when its name is invalid or too long. -/
theorem after_save_refused (stock : Stock) {store : SceneStore} {record : SceneRecord}
    (refused : (SceneStore.isValidId record.id && store.fits record.id store.format) = false) :
    stock.after ⟨store, .save record⟩ = stock :=
  if_neg (Bool.eq_false_iff.mp refused)

/-- What is kept after a visit was saved by it or was kept before. -/
theorem after_eq_some {stock : Stock} {visit : Visit} {format : StoreFormat} {id : String}
    {record : SceneRecord} (kept : stock.after visit format id = some record) :
    (visit.request = .save record ∧ format = visit.store.format) ∨
      stock format id = some record := by
  obtain ⟨store, request⟩ := visit
  cases request with
  | load other => exact .inr kept
  | list => exact .inr kept
  | save new =>
    cases accepted : SceneStore.isValidId new.id && store.fits new.id store.format with
    | true =>
      obtain ⟨valid, fit⟩ := Bool.and_eq_true_iff.mp accepted
      rw [after_save stock valid fit, put] at kept
      split at kept
      · rename_i own
        cases kept
        exact .inl ⟨rfl, own.1⟩
      · exact .inr kept
    | false =>
      rw [after_save_refused stock accepted] at kept
      exact .inr kept
  | delete other =>
    change stock.drop other (store.deletes other) format id = some record at kept
    rw [drop] at kept
    split at kept
    · cases kept
    · exact .inr kept

/-- What is kept after visits was saved by one of them or was kept before. -/
theorem afterAll_eq_some {stock : Stock} {visits : List Visit} {format : StoreFormat} {id : String}
    {record : SceneRecord} (kept : stock.afterAll visits format id = some record) :
    (∃ visit ∈ visits, visit.request = .save record ∧ format = visit.store.format) ∨
      stock format id = some record := by
  induction visits generalizing stock with
  | nil => exact .inr kept
  | cons visit visits ih =>
    rcases ih kept with ⟨other, member, saved⟩ | there
    · exact .inl ⟨other, List.mem_cons_of_mem _ member, saved⟩
    · rcases after_eq_some there with saved | before
      · exact .inl ⟨visit, List.mem_cons_self, saved⟩
      · exact .inr before

end Stock

/-- A file whose path is too long does not fit. -/
theorem SceneStore.fits_of_long {store : SceneStore} {id : String} {format : StoreFormat}
    (longPath : FileTree.maxPathBytes < (store.path id format).utf8ByteSize) :
    store.fits id format = false := by
  rw [fits, decide_eq_false (Nat.not_le.mpr longPath), Bool.and_false]

/-- A file whose path is short enough fits when its name does. -/
theorem SceneStore.fits_of_short {store : SceneStore} {id : String} {format : StoreFormat}
    (shortPath : ¬ FileTree.maxPathBytes < (store.path id format).utf8ByteSize) :
    store.fits id format = !Folder.isTooLong (fileName id format) := by
  rw [fits, decide_eq_true (Nat.not_lt.mp shortPath), Bool.and_true]

/-! ## The place of a store -/

/-- Whether the path of a store leads to a place, at its end and on the way of longer paths. -/
structure SceneStore.IsAt (store : SceneStore) (tree : FileTree) (place : List String) : Prop where
  /-- The folder of the store is at the place. -/
  root : tree.folderPlace store.root = .ok place
  /-- The names of its path lead there. -/
  through : tree.follow (FileTree.startOf tree.here store.root) (Path.parts store.root) = .ok place

/-- Whether the folder at a place keeps scenes. -/
def FileTree.Keeps (tree : FileTree) (place : List String) (stock : Stock) : Prop :=
  ∃ folder, tree.root.at? place = some folder ∧ folder.Keeps stock

/-- An empty folder keeps nothing. -/
theorem FileTree.keeps_empty {tree : FileTree} {place : List String}
    (empty : tree.root.at? place = some []) : tree.Keeps place Stock.empty :=
  ⟨[], empty, Folder.Keeps.nil⟩

namespace SceneStore

open FileTree

variable {store : SceneStore} {tree : FileTree} {place : List String} {stock : Stock}

/-- A path that leads to a folder has characters, none of them null. -/
theorem IsAt.root_chars (there : store.IsAt tree place) :
    store.root.toList ≠ [] ∧ '\x00' ∉ store.root.toList := by
  have located := there.root
  simp only [folderPlace, reach, bind_eq_ok] at located
  obtain ⟨_, ⟨_, located, _⟩, _⟩ := located
  unfold locate locateFrom at located
  split at located
  · cases located
  · rename_i clean
    split at located
    · cases located
    · rename_i filled
      exact ⟨by simpa using filled, by simpa using clean⟩

/-- The store is at its place in every tree in which paths lead the same way. -/
theorem IsAt.of_leadsAs (there : store.IsAt tree place) {changed : FileTree}
    (same : tree.LeadsAs changed) : store.IsAt changed place where
  root := same.folderPlace there.root
  through := same.here ▸ same.followLinks there.through

/-- The path of a file leads to its name at the place of the store, unless it is too long. -/
theorem IsAt.locate_path (there : store.IsAt tree place) {id : String}
    (valid : isValidId id = true) (format : StoreFormat) :
    tree.locate (store.path id format) =
      if maxPathBytes < (store.path id format).utf8ByteSize then .error .nameTooLong
      else .ok (.name place (fileName id format) false) := by
  rw [locate, locateFrom_path store tree tree.here valid, if_neg there.root_chars.2, there.through]
  rfl

/-- The folder at a place, where there is one. -/
theorem folderAt_of_at? {folder : Folder} (there : tree.root.at? place = some folder) :
    tree.folderAt place = folder := by
  rw [folderAt, there]
  rfl

/-- A file is removed from the folder of the store where its path is short enough. -/
theorem IsAt.remove_path (there : store.IsAt tree place) {folder : Folder}
    (found : tree.root.at? place = some folder) {id : String} (valid : isValidId id = true)
    (format : StoreFormat) :
    tree.remove (store.path id format) =
      if maxPathBytes < (store.path id format).utf8ByteSize then .error .nameTooLong
      else (folder.remove (fileName id format)).map (tree.withFolderAt place) := by
  have changed : tree.change place (fun folder => folder.remove (fileName id format)) =
      (folder.remove (fileName id format)).map (tree.withFolderAt place) := by
    rw [FileTree.change, found]
  rw [FileTree.remove, there.locate_path valid]
  split
  · rfl
  · change (tree.change place _ >>= _) = _
    rw [changed]
    cases folder.remove (fileName id format) <;> rfl

/-- A file that is no link is read in the folder of the store where its path is short enough. -/
theorem IsAt.read_path (there : store.IsAt tree place) {folder : Folder}
    (found : tree.root.at? place = some folder) {id : String} (valid : isValidId id = true)
    {format : StoreFormat}
    (noLink : ∀ target, folder.find? (fileName id format) ≠ some (.link target)) :
    tree.read (store.path id format) =
      if maxPathBytes < (store.path id format).utf8ByteSize then .error .nameTooLong
      else folder.read (fileName id format) := by
  rw [FileTree.read, FileTree.readFrom, ← FileTree.locate, there.locate_path valid]
  split
  · rfl
  · change (tree.arrive maxLinks _ >>= _) = _
    rw [arrive_of_ne_link (by rwa [folderAt_of_at? found])]
    change (Folder.read (tree.folderAt place) _ >>= _) = _
    rw [folderAt_of_at? found]
    cases folder.read (fileName id format) <;> rfl

/-- A file that is no link is written in the folder of the store where its path is short enough. -/
theorem IsAt.write_path (there : store.IsAt tree place) {folder : Folder}
    (found : tree.root.at? place = some folder) {id : String} (valid : isValidId id = true)
    {format : StoreFormat}
    (noLink : ∀ target, folder.find? (fileName id format) ≠ some (.link target))
    (content : List UInt8) :
    tree.write (store.path id format) content =
      if maxPathBytes < (store.path id format).utf8ByteSize then .error .nameTooLong
      else (folder.write (fileName id format) content).map (tree.withFolderAt place) := by
  rw [FileTree.write, there.locate_path valid]
  split
  · rfl
  · change (tree.arrive maxLinks _ >>= _) = _
    rw [arrive_of_ne_link (by rwa [folderAt_of_at? found])]
    change tree.change place _ = _
    rw [FileTree.change, found]

section

-- What reading and removing a file comes to is not looked into here; opening it would be slow.
attribute [local irreducible] FileTree.read FileTree.remove

/-- A scene is looked for in one format after the other. -/
theorem readScene_cons (store : SceneStore) (id : String) (tree : FileTree) (format : StoreFormat)
    (formats : List StoreFormat) :
    store.readScene id tree (format :: formats) =
      match tree.read (store.path id format) with
      | .ok content =>
        (SceneRecord.ofBytes format content).mapError fun error =>
          error.withContext ⟨some (store.path id format), ["load scene"]⟩
      | .error .notFound => store.readScene id tree formats
      | .error failure => .error (store.fileError "load scene" id format failure) := rfl

/-- The files of a scene are removed one after the other. -/
theorem deleteScene_cons (store : SceneStore) (id : String) (deleted : Bool) (format : StoreFormat)
    (formats : List StoreFormat) (tree : FileTree) :
    store.deleteScene id deleted (format :: formats) tree =
      match tree.remove (store.path id format) with
      | .ok smaller => store.deleteScene id true formats smaller
      | .error .notFound => store.deleteScene id deleted formats tree
      | .error failure => (.error (store.fileError "delete scene" id format failure), tree) := rfl

end

/-! ## One visit -/

/-- Other entries in the folder of a store leave all paths as they were. -/
theorem changed_keeps {folder changed : Folder} {next : Stock}
    (there : tree.root.at? place = some folder) (keeps : folder.Keeps stock)
    (kept : changed.Keeps next) :
    tree.LeadsAs (tree.withFolderAt place changed) ∧
      (tree.withFolderAt place changed).Keeps place next :=
  ⟨leadsAs_withFolderAt there (Folder.leadsAs_of_isFlat kept.isFlat keeps.isFlat), changed,
    Folder.at?_replaceAt there changed, kept⟩

/-- A file is written where its name and its path are short enough. -/
theorem IsAt.write (there : store.IsAt tree place) {folder : Folder}
    (found : tree.root.at? place = some folder) (keeps : folder.Keeps stock) {id : String}
    (valid : isValidId id = true) (format : StoreFormat) (content : List UInt8) :
    tree.write (store.path id format) content =
      if store.fits id format then
        .ok (tree.withFolderAt place (folder.put (fileName id format) (.file content false)))
      else .error .nameTooLong := by
  rw [there.write_path found valid (keeps.find?_fileName_ne_link valid format)]
  by_cases longPath : maxPathBytes < (store.path id format).utf8ByteSize
  · rw [if_pos longPath, fits_of_long longPath]
    rfl
  · rw [if_neg longPath, fits_of_short longPath]
    cases long : Folder.isTooLong (fileName id format) with
    | true =>
      rw [Folder.write, long]
      rfl
    | false =>
      rw [keeps.write valid long]
      rfl

/-- A scene with a valid name that is short enough is saved. -/
theorem IsAt.save (there : store.IsAt tree place) (keeps : tree.Keeps place stock)
    {record : SceneRecord} (valid : isValidId record.id = true)
    (fit : store.fits record.id store.format = true) :
    ∃ saved, store.save record tree = (.ok (store.path record.id store.format), saved) ∧
      tree.LeadsAs saved ∧ saved.Keeps place (stock.put store.format record) := by
  obtain ⟨folder, found, kept⟩ := keeps
  have written := there.write found kept valid store.format (record.toBytes store.format)
  rw [if_pos fit] at written
  refine ⟨_, ?_, changed_keeps found kept (kept.put valid store.format)⟩
  simp only [SceneStore.save, valid, Bool.not_true, Bool.false_eq_true, if_false, written]

/-- A scene whose name is invalid or too long is not saved, and nothing changes. -/
theorem IsAt.save_refused (there : store.IsAt tree place) (keeps : tree.Keeps place stock)
    {record : SceneRecord}
    (refused : (isValidId record.id && store.fits record.id store.format) = false) :
    (store.save record tree).2 = tree := by
  cases valid : isValidId record.id with
  | false => simp [SceneStore.save, valid]
  | true =>
    rw [valid, Bool.true_and] at refused
    obtain ⟨folder, found, kept⟩ := keeps
    have written := there.write found kept valid store.format (record.toBytes store.format)
    rw [refused, if_neg Bool.false_ne_true] at written
    simp [SceneStore.save, valid, written]

/-- The file of a scene is removed where its name and its path are short enough, when it is there. -/
theorem IsAt.remove (there : store.IsAt tree place) {folder : Folder}
    (found : tree.root.at? place = some folder) (keeps : folder.Keeps stock) {id : String}
    (valid : isValidId id = true) (format : StoreFormat) :
    tree.remove (store.path id format) =
      if store.fits id format then
        if (stock format id).isSome then
          .ok (tree.withFolderAt place (folder.erase (fileName id format)))
        else .error .notFound
      else .error .nameTooLong := by
  rw [there.remove_path found valid]
  by_cases longPath : maxPathBytes < (store.path id format).utf8ByteSize
  · rw [if_pos longPath, fits_of_long longPath]
    rfl
  · rw [if_neg longPath, fits_of_short longPath]
    cases long : Folder.isTooLong (fileName id format) with
    | true =>
      rw [Folder.remove, long]
      rfl
    | false =>
      rw [keeps.remove valid long]
      cases stock format id <;> rfl

/-- Deleting a scene drops the formats in front of the first one that does not fit. -/
theorem IsAt.deleteScene (there : store.IsAt tree place) (keeps : tree.Keeps place stock)
    {id : String} (valid : isValidId id = true) (deleted : Bool) (formats : List StoreFormat) :
    tree.LeadsAs (store.deleteScene id deleted formats tree).2 ∧
      (store.deleteScene id deleted formats tree).2.Keeps place
        (stock.drop id (formats.takeWhile (store.fits id))) := by
  induction formats generalizing tree stock deleted with
  | nil =>
    rw [List.takeWhile_nil, Stock.drop_nil]
    exact ⟨.refl tree, keeps⟩
  | cons format formats ih =>
    obtain ⟨folder, found, kept⟩ := keeps
    rw [deleteScene_cons, there.remove found kept valid, List.takeWhile_cons]
    cases fit : store.fits id format with
    | false =>
      simp only [Bool.false_eq_true, if_false]
      rw [Stock.drop_nil]
      exact ⟨.refl tree, folder, found, kept⟩
    | true =>
      -- The file is erased when it is there; when it is not, dropping the format changes nothing.
      simp only [if_true]
      rw [Stock.drop_cons]
      cases copy : stock format id with
      | none =>
        rw [Stock.drop_of_none copy]
        exact ih there ⟨folder, found, kept⟩ deleted
      | some record =>
        obtain ⟨leads, keptStill⟩ := changed_keeps found kept (kept.erase valid format)
        obtain ⟨leadsOn, keptOn⟩ := ih (there.of_leadsAs leads) keptStill true
        exact ⟨leads.trans leadsOn, keptOn⟩

/-- Deleting a scene drops it in the formats in which the store can do so. -/
theorem IsAt.delete (there : store.IsAt tree place) (keeps : tree.Keeps place stock)
    (id : String) :
    tree.LeadsAs (store.delete id tree).2 ∧
      (store.delete id tree).2.Keeps place (stock.drop id (store.deletes id)) := by
  rw [SceneStore.delete, deletes]
  cases valid : isValidId id with
  | false =>
    rw [if_neg Bool.false_ne_true, Stock.drop_nil]
    exact ⟨.refl tree, keeps⟩
  | true => exact there.deleteScene keeps valid false store.format.lookupOrder

/-- A visit leaves all paths as they were and keeps what the request says. -/
theorem IsAt.serve (there : store.IsAt tree place) (keeps : tree.Keeps place stock)
    (request : Request) :
    tree.LeadsAs (store.serve request tree).2 ∧
      (store.serve request tree).2.Keeps place (stock.after ⟨store, request⟩) := by
  cases request with
  | save record =>
    rw [SceneStore.serve]
    cases accepted : isValidId record.id && store.fits record.id store.format with
    | true =>
      obtain ⟨valid, fit⟩ := Bool.and_eq_true_iff.mp accepted
      obtain ⟨saved, answered, leads, kept⟩ := there.save keeps valid fit
      rw [answered, Stock.after_save stock valid fit]
      exact ⟨leads, kept⟩
    | false =>
      rw [there.save_refused keeps accepted, Stock.after_save_refused stock accepted]
      exact ⟨.refl tree, keeps⟩
  | load id => exact ⟨.refl tree, keeps⟩
  | delete id => exact there.delete keeps id
  | list => exact ⟨.refl tree, keeps⟩

/-! ## Answers -/

/-- The file of a scene for which there is room is read when it is there. -/
theorem IsAt.read (there : store.IsAt tree place) {folder : Folder}
    (found : tree.root.at? place = some folder) (keeps : folder.Keeps stock) {id : String}
    (valid : isValidId id = true) (format : StoreFormat) :
    tree.read (store.path id format) =
      if store.fits id format then
        match stock format id with
        | some record => .ok (record.toBytes format)
        | none => .error .notFound
      else .error .nameTooLong := by
  rw [there.read_path found valid (keeps.find?_fileName_ne_link valid format)]
  by_cases longPath : maxPathBytes < (store.path id format).utf8ByteSize
  · rw [if_pos longPath, fits_of_long longPath]
    rfl
  · rw [if_neg longPath, fits_of_short longPath]
    cases long : Folder.isTooLong (fileName id format) with
    | true =>
      rw [Folder.read, long]
      rfl
    | false => exact keeps.read valid long

/-- A scene is read in the first format in which it is kept. -/
theorem IsAt.readScene (there : store.IsAt tree place) (keeps : tree.Keeps place stock)
    (reads : stock.ReadsBack) {id : String} (valid : isValidId id = true)
    (room : store.HasRoom id) (formats : List StoreFormat) :
    store.readScene id tree formats =
      match stock.first id formats with
      | some record => .ok record
      | none => .error (.sceneNotFound id) := by
  obtain ⟨folder, found, kept⟩ := keeps
  induction formats with
  | nil => rfl
  | cons format formats ih =>
    rw [readScene_cons, there.read found kept valid, if_pos (room format), Stock.first,
      List.findSome?_cons]
    cases copy : stock format id with
    | none => exact ih
    | some record =>
      simp only [reads format id record copy]
      rfl

/-- A scene for which there is room is loaded in the first format in which it is kept. -/
theorem IsAt.load (there : store.IsAt tree place) (keeps : tree.Keeps place stock)
    (reads : stock.ReadsBack) {id : String} (valid : isValidId id = true)
    (room : store.HasRoom id) :
    store.load id tree =
      match stock.first id store.format.lookupOrder with
      | some record => .ok record
      | none => .error (.sceneNotFound id) := by
  rw [SceneStore.load, valid]
  exact there.readScene keeps reads valid room store.format.lookupOrder

/-- Deleting a scene for which there is room succeeds when it is kept or was removed before. -/
theorem IsAt.deleteScene_answer (there : store.IsAt tree place) (keeps : tree.Keeps place stock)
    {id : String} (valid : isValidId id = true) (room : store.HasRoom id) (deleted : Bool)
    (formats : List StoreFormat) :
    (store.deleteScene id deleted formats tree).1 =
      if deleted || stock.keeps id formats then .ok () else .error (.sceneNotFound id) := by
  induction formats generalizing tree stock deleted with
  | nil =>
    rw [Stock.keeps, List.any_nil, Bool.or_false]
    rfl
  | cons format formats ih =>
    obtain ⟨folder, found, kept⟩ := keeps
    rw [deleteScene_cons, there.remove found kept valid, if_pos (room format), Stock.keeps,
      List.any_cons]
    cases copy : stock format id with
    | none => exact ih there ⟨folder, found, kept⟩ deleted
    | some record =>
      obtain ⟨leads, keptStill⟩ := changed_keeps found kept (kept.erase valid format)
      simp only [Option.isSome_some, if_true, Bool.true_or, Bool.or_true]
      rw [ih (there.of_leadsAs leads) keptStill true]
      rfl

/-- Deleting a scene for which there is room succeeds when it is kept. -/
theorem IsAt.delete_answer (there : store.IsAt tree place) (keeps : tree.Keeps place stock)
    {id : String} (valid : isValidId id = true) (room : store.HasRoom id) :
    (store.delete id tree).1 =
      if stock.keeps id store.format.lookupOrder then .ok () else .error (.sceneNotFound id) := by
  rw [SceneStore.delete, valid]
  exact there.deleteScene_answer keeps valid room false store.format.lookupOrder

/-- A store deletes a scene for which there is room in all formats. -/
theorem HasRoom.deletes {id : String} (valid : isValidId id = true) (room : store.HasRoom id) :
    store.deletes id = store.format.lookupOrder := by
  rw [SceneStore.deletes, valid]
  cases store.format <;> simp [StoreFormat.lookupOrder, room .json, room .messagePack]

/-- Every format is in every order of lookup. -/
theorem mem_lookupOrder (format other : StoreFormat) : other ∈ format.lookupOrder := by
  cases format <;> cases other <;> decide

/-- The scenes in the folder at the place of the store are listed. -/
theorem IsAt.list (there : store.IsAt tree place) {folder : Folder}
    (found : tree.root.at? place = some folder) :
    store.list tree = .ok (summaries (tree.readFrom place) folder) := by
  rw [SceneStore.list, there.root]
  simp only [folderAt_of_at? found]

end SceneStore

/-! ## Many visits -/

/-- After visits the folder keeps what the requests say, and the stores still lead there. -/
theorem keeps_serveAll {tree : FileTree} {place : List String} {stock : Stock}
    {visits : List Visit} (there : ∀ visit ∈ visits, visit.store.IsAt tree place)
    (keeps : tree.Keeps place stock) :
    tree.LeadsAs (serveAll visits tree).2 ∧
      (serveAll visits tree).2.Keeps place (stock.afterAll visits) := by
  induction visits generalizing tree stock with
  | nil => exact ⟨.refl tree, keeps⟩
  | cons visit visits ih =>
    have here := there visit List.mem_cons_self
    obtain ⟨leads, kept⟩ := here.serve keeps visit.request
    have thereStill : ∀ other ∈ visits,
        other.store.IsAt (visit.store.serve visit.request tree).2 place :=
      fun other member => (there other (List.mem_cons_of_mem _ member)).of_leadsAs leads
    obtain ⟨leadsOn, keptOn⟩ := ih thereStill kept
    exact ⟨leads.trans leadsOn, keptOn⟩

/-! ## A new folder -/

/-- A working folder in which there is an empty folder, and nothing else. -/
def FileTree.withNewFolder : FileTree := ⟨[("scenes", .folder [])], []⟩

namespace SceneStore

/-- Stores of both formats can be at the new folder. -/
theorem isAt_new (format : StoreFormat) :
    IsAt ⟨"scenes", format⟩ (.withNewFolder) ["scenes"] := by
  cases format with
  | json => exact ⟨by rfl, by rfl⟩
  | messagePack => exact ⟨by rfl, by rfl⟩

/-- Opening a store where there is nothing makes that folder. -/
example : openAt "scenes" .json ⟨[], []⟩ = (.ok ⟨"scenes", .json⟩, .withNewFolder) := by rfl

end SceneStore

end ShapeScene
