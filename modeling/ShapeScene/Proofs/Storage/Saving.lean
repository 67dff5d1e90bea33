import ShapeScene.Proofs.Storage.Visits

/-!
# The file in which a scene is saved

A scene with a valid name is saved in a file directly in the folder of the store. What can hinder
that is the file system, which says why, but never the name.
-/

namespace ShapeScene

namespace Folder

/-- A file with a short name is written when it is new or takes the place of another one. -/
theorem exists_write {folder : Folder} {name : String} (short : isTooLong name = false)
    (file : ∀ entry, folder.find? name = some entry →
      ∃ content isProgram, entry = .file content isProgram) (content : List UInt8) :
    ∃ isProgram, folder.write name content = .ok (folder.put name (.file content isProgram)) := by
  rw [write, short, if_neg Bool.false_ne_true]
  cases found : folder.find? name with
  | none => exact ⟨false, rfl⟩
  | some entry =>
    obtain ⟨old, isProgram, rfl⟩ := file entry found
    exact ⟨isProgram, rfl⟩

end Folder

namespace SceneStore

/-- Whether a scene is saved in the file of its name, unless the file system refuses to write
that. -/
structure SavesInFile (store : SceneStore) (scene : SceneRecord) (tree : FileTree) : Prop where
  /-- The file is directly in the folder of the store. -/
  inside : Path.pieces (store.path scene.id store.format) =
    Path.pieces store.root ++ [scene.id ++ "." ++ store.format.extension]
  /-- The answer is the path of the file, which was written. -/
  written : ∀ path, (store.save scene tree).1 = .ok path →
    path = Path.join store.root (scene.id ++ "." ++ store.format.extension) ∧
      tree.write path (scene.toBytes store.format) = .ok (store.save scene tree).2
  /-- When it could not be written, the answer says so, and nothing has changed. -/
  refused : ∀ error, (store.save scene tree).1 = .error error → ∃ failure,
    tree.write (store.path scene.id store.format) (scene.toBytes store.format) = .error failure ∧
      error = .ioAt "save scene" (store.path scene.id store.format) failure.message ∧
      (store.save scene tree).2 = tree
  /-- The name is never at fault. -/
  accepted : ∀ message context,
    (store.save scene tree).1 ≠ .error ⟨.invalidArgument message, context⟩
  /-- In a folder that is there, a file that is new or takes the place of another one can be written
  when the path is short enough. -/
  saved : ∀ place folder, store.IsAt tree place → tree.root.at? place = some folder →
    (∀ entry, folder.find? (fileName scene.id store.format) = some entry →
      ∃ content isProgram, entry = .file content isProgram) →
    (store.path scene.id store.format).utf8ByteSize ≤ FileTree.maxPathBytes →
    ∃ isProgram, store.save scene tree =
      (.ok (store.path scene.id store.format),
        tree.withFolderAt place (folder.put (fileName scene.id store.format)
          (.file (scene.toBytes store.format) isProgram)))

variable (store : SceneStore) {scene : SceneRecord} (tree : FileTree)

/-- A scene with a valid name is saved when its file is written. -/
theorem save_eq (valid : isValidId scene.id = true) :
    store.save scene tree =
      match tree.write (store.path scene.id store.format) (scene.toBytes store.format) with
      | .ok written => (.ok (store.path scene.id store.format), written)
      | .error failure =>
        (.error (.ioAt "save scene" (store.path scene.id store.format) failure.message), tree) := by
  rw [save, valid]
  rfl

variable {store}

/-- A scene whose name is valid and short is saved in the file of its name. -/
theorem savesInFile_of_isValidId (valid : isValidId scene.id = true)
    (short : Folder.isTooLong (fileName scene.id store.format) = false) :
    store.SavesInFile scene tree where
  inside := pieces_path store valid store.format
  written := by
    intro path answered
    rw [save_eq store tree valid] at answered ⊢
    split at answered
    · rename_i written done
      cases answered
      rw [done]
      exact ⟨rfl, rfl⟩
    · cases answered
  refused := by
    intro error answered
    rw [save_eq store tree valid] at answered ⊢
    split at answered
    · cases answered
    · rename_i failure refused
      cases answered
      rw [refused]
      exact ⟨failure, rfl, rfl, rfl⟩
  accepted := by
    intro message context
    rw [save_eq store tree valid]
    split
    · exact nofun
    · intro same
      injection same with same
      cases same
  saved := by
    intro place folder there found file fits
    have noLink (target : String) :
        folder.find? (fileName scene.id store.format) ≠ some (.link target) := by
      intro link
      obtain ⟨content, isProgram, same⟩ := file _ link
      cases same
    obtain ⟨isProgram, done⟩ := Folder.exists_write short file (scene.toBytes store.format)
    refine ⟨isProgram, ?_⟩
    rw [save_eq store tree valid, there.write_path found valid noLink,
      if_neg (Nat.not_lt.mpr fits), done]
    rfl

end SceneStore

end ShapeScene
