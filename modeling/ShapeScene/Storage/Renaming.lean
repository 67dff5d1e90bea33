import ShapeScene.Storage.FileTree

/-!
# Other names for files

A file tree in which every name is written in another way, with the same files at the same places.
-/

namespace ShapeScene

mutual

/-- An entry with other names in it. -/
def Entry.renamed (rename : String → String) : Entry → Entry
  | .file content isProgram => .file content isProgram
  | .folder entries => .folder (Folder.renamed rename entries)
  | .link target => .link (rename target)
  | .device device => .device device

/-- The entries of a folder under other names. -/
def Folder.renamed (rename : String → String) : List (String × Entry) → List (String × Entry)
  | [] => []
  | (name, entry) :: entries =>
    (rename name, entry.renamed rename) :: Folder.renamed rename entries

end

/-- The tree with other names. -/
def FileTree.renamed (tree : FileTree) (rename : String → String) : FileTree :=
  ⟨Folder.renamed rename tree.root, tree.here.map rename⟩

end ShapeScene
