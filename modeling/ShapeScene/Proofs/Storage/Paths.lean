import ShapeScene.Proofs.Success
import ShapeScene.Storage.FileTree

/-!
# Paths lead the same way when only files change

A path is followed through folders and links; files are never on its way. So two trees in which the
same names stand for folders and for links lead every path to the same place. Replacing the entries
of a folder that holds nothing but files, by others that are nothing but files, is such a change, and
so is removing a file.
-/

namespace ShapeScene

/-! ## What a path can pass -/

namespace Entry

/-- What of an entry a path can pass: a folder, or a link with its target. -/
inductive Passage where
  /-- A folder. -/
  | folder
  /-- A link. -/
  | link (target : String)
deriving DecidableEq, Repr

/-- What of an entry a path can pass, if it can. -/
def passage? : Entry → Option Passage
  | .folder _ => some .folder
  | .link target => some (.link target)
  | .file _ _ | .device _ => none

end Entry

namespace Folder

/-- What a path can pass under a name. -/
def passage? (folder : Folder) (name : String) : Option Entry.Passage :=
  (folder.find? name).bind Entry.passage?

/-- Whether no path passes an entry of a folder. -/
def IsFlat (folder : Folder) : Prop := ∀ name, folder.passage? name = none

/-- A folder is found at the place where it was put. -/
theorem at?_replaceAt {root folder : Folder} {place : List String}
    (there : root.at? place = some folder) (changed : Folder) :
    (root.replaceAt place changed).at? place = some changed := by
  induction place generalizing root with
  | nil => rfl
  | cons name place ih =>
    rw [at?] at there
    split at there
    · rename_i inner found
      rw [replaceAt, found, at?, find?_put_self]
      exact ih there
    · cases there

/-- Putting the entry that is found under a name changes nothing. -/
theorem put_of_find? {folder : Folder} {name : String} {entry : Entry}
    (found : folder.find? name = some entry) : folder.put name entry = folder := by
  induction folder with
  | nil => cases found
  | cons head rest ih =>
    obtain ⟨other, old⟩ := head
    rw [find?] at found
    rw [put]
    split at found
    · rename_i same
      rw [if_pos same, same, Option.some.inj found]
    · rename_i different
      rw [if_neg different, ih found]

/-- Of two entries put under a name, the second one stays. -/
theorem put_put (folder : Folder) (name : String) (first second : Entry) :
    (folder.put name first).put name second = folder.put name second := by
  induction folder with
  | nil => simp [put]
  | cons head rest ih =>
    obtain ⟨other, old⟩ := head
    by_cases same : other = name <;> simp [put, same, ih]

/-- Replacing the folder at a place by itself changes nothing. -/
theorem replaceAt_of_at? {root folder : Folder} {place : List String}
    (there : root.at? place = some folder) : root.replaceAt place folder = root := by
  induction place generalizing root with
  | nil => exact (Option.some.inj there).symm
  | cons name place ih =>
    rw [at?] at there
    split at there
    · rename_i inner found
      rw [replaceAt, found]
      simp only [ih there]
      exact put_of_find? found
    · cases there

/-- Nothing is replaced behind a name that is no folder. -/
theorem replaceAt_of_ne_folder {root : Folder} {name : String}
    (noFolder : ∀ inner, root.find? name ≠ some (.folder inner)) (place : List String)
    (changed : Folder) : root.replaceAt (name :: place) changed = root := by
  rw [replaceAt]
  split
  · rename_i inner found
    exact absurd found (noFolder inner)
  · rfl

/-- Of two folders put at a place, the second one stays. -/
theorem replaceAt_replaceAt (root : Folder) (place : List String) (first second : Folder) :
    (root.replaceAt place first).replaceAt place second = root.replaceAt place second := by
  induction place generalizing root with
  | nil => rfl
  | cons name place ih =>
    by_cases folder : ∃ inner, root.find? name = some (.folder inner)
    · obtain ⟨inner, found⟩ := folder
      simp only [replaceAt, found, find?_put_self, ih, put_put]
    · have noFolder := not_exists.mp folder
      rw [replaceAt_of_ne_folder noFolder, replaceAt_of_ne_folder noFolder]

/-- What is seen of the entry under a name in the folder at a place. -/
def seenAt? {View : Type} (view : Entry → Option View) (root : Folder) (place : List String)
    (name : String) : Option View :=
  (root.at? place).bind fun folder => (folder.find? name).bind view

/-- Whether the same is seen at every place of two folders. -/
def SeenAlike {View : Type} (view : Entry → Option View) (first second : Folder) : Prop :=
  ∀ place name, first.seenAt? view place name = second.seenAt? view place name

/-- What a path can pass at a place. -/
def passageAt? (root : Folder) (place : List String) (name : String) : Option Entry.Passage :=
  (root.at? place).bind fun folder => folder.passage? name

/-- Whether paths lead the same way through two folders. -/
def LeadsAs (first second : Folder) : Prop :=
  ∀ place name, first.passageAt? place name = second.passageAt? place name

/-- In a flat folder there is no folder. -/
theorem at?_of_isFlat {folder : Folder} (flat : folder.IsFlat) (name : String)
    (names : List String) : folder.at? (name :: names) = none := by
  have none := flat name
  rw [passage?] at none
  rw [at?]
  split
  · rename_i inner found
    simp [found, Entry.passage?] at none
  · rfl

/-- Paths lead the same way through two flat folders. -/
theorem leadsAs_of_isFlat {first second : Folder} (firstFlat : first.IsFlat)
    (secondFlat : second.IsFlat) : first.LeadsAs second := by
  intro place name
  cases place with
  | nil => exact (firstFlat name).trans (secondFlat name).symm
  | cons other place =>
    rw [passageAt?, passageAt?, at?_of_isFlat firstFlat, at?_of_isFlat secondFlat]

/-- Paths lead the same way when what cannot be passed is erased. -/
theorem leadsAs_erase {folder : Folder} {name : String} (closed : folder.passage? name = none) :
    (folder.erase name).LeadsAs folder := by
  intro place last
  cases place with
  | nil =>
    rw [passageAt?, passageAt?, at?, at?, Option.bind_some, Option.bind_some]
    by_cases same : last = name
    · rw [same, closed, passage?, find?_erase_self]
      rfl
    · rw [passage?, passage?, find?_erase_of_ne same]
  | cons first place =>
    rw [passageAt?, passageAt?, at?, at?]
    by_cases same : first = name
    · rw [same, find?_erase_self]
      rw [passage?] at closed
      cases found : folder.find? name with
      | none => rfl
      | some entry => cases entry <;> simp [found, Entry.passage?] at closed ⊢
    · rw [find?_erase_of_ne same]

/-- The same is seen after a folder was replaced by one in which it is, when of a folder nothing is
seen but that it is one. -/
theorem seenAlike_replaceAt {View : Type} {view : Entry → Option View}
    (blind : ∀ inner other, view (.folder inner) = view (.folder other))
    {root folder changed : Folder} {place : List String} (there : root.at? place = some folder)
    (same : SeenAlike view changed folder) :
    SeenAlike view (root.replaceAt place changed) root := by
  induction place generalizing root with
  | nil =>
    cases there
    exact same
  | cons first place ih =>
    rw [at?] at there
    split at there
    · rename_i inner found
      have inside := ih there
      rw [replaceAt, found]
      intro names name
      cases names with
      | nil =>
        simp only [seenAt?, at?, Option.bind_some]
        by_cases same : name = first
        · rw [same, find?_put_self, found]
          exact blind _ _
        · rw [find?_put_of_ne same]
      | cons second names =>
        simp only [seenAt?, at?]
        by_cases same : second = first
        · rw [same, find?_put_self, found]
          exact inside names name
        · rw [find?_put_of_ne same]
    · cases there

/-- Paths lead the same way when a folder is replaced by one through which they do. -/
theorem leadsAs_replaceAt {root folder changed : Folder} {place : List String}
    (there : root.at? place = some folder) (same : changed.LeadsAs folder) :
    (root.replaceAt place changed).LeadsAs root :=
  seenAlike_replaceAt (fun _ _ => rfl) there same

end Folder

/-! ## Following paths -/

namespace FileTree

/-- Whether paths lead the same way in two trees. -/
structure LeadsAs (first second : FileTree) : Prop where
  /-- The working folder is the same. -/
  here : first.here = second.here
  /-- So are folders and links. -/
  root : first.root.LeadsAs second.root

variable {first second : FileTree}

/-- Paths lead the same way in a tree and itself. -/
theorem LeadsAs.refl (tree : FileTree) : tree.LeadsAs tree := ⟨rfl, fun _ _ => rfl⟩

/-- Paths lead the same way the other way round. -/
theorem LeadsAs.symm (same : first.LeadsAs second) : second.LeadsAs first :=
  ⟨same.here.symm, fun place name => (same.root place name).symm⟩

/-- Paths lead the same way in two trees when they do in both and a third. -/
theorem LeadsAs.trans {third : FileTree} (firstSame : first.LeadsAs second)
    (secondSame : second.LeadsAs third) : first.LeadsAs third :=
  ⟨firstSame.here.trans secondSame.here, fun place name =>
    (firstSame.root place name).trans (secondSame.root place name)⟩

/-- What a path can pass in the folder at a place. -/
theorem passage?_folderAt (tree : FileTree) (place : List String) (name : String) :
    (tree.folderAt place).passage? name = tree.root.passageAt? place name := by
  rw [folderAt, Folder.passageAt?]
  cases tree.root.at? place <;> rfl

/-- A name that stands for a folder does so in both trees. -/
theorem LeadsAs.find?_folder (same : first.LeadsAs second) {place : List String} {name : String}
    {inner : Folder} (found : (first.folderAt place).find? name = some (.folder inner)) :
    ∃ inner, (second.folderAt place).find? name = some (.folder inner) := by
  have passage := same.root place name
  rw [← passage?_folderAt, ← passage?_folderAt, Folder.passage?, Folder.passage?, found] at passage
  cases other : (second.folderAt place).find? name with
  | none => simp [other, Entry.passage?] at passage
  | some entry =>
    cases entry with
    | folder inner => exact ⟨inner, rfl⟩
    | _ => simp [other, Entry.passage?] at passage

/-- A name that stands for a link does so in both trees. -/
theorem LeadsAs.find?_link (same : first.LeadsAs second) {place : List String} {name : String}
    {target : String} (found : (first.folderAt place).find? name = some (.link target)) :
    (second.folderAt place).find? name = some (.link target) := by
  have passage := same.root place name
  rw [← passage?_folderAt, ← passage?_folderAt, Folder.passage?, Folder.passage?, found] at passage
  cases other : (second.folderAt place).find? name with
  | none => simp [other, Entry.passage?] at passage
  | some entry =>
    cases entry with
    | link other => simp_all [Entry.passage?]
    | _ => simp [other, Entry.passage?] at passage

/-- A name that stands for no link does so in neither tree. -/
theorem LeadsAs.find?_ne_link (same : first.LeadsAs second) {place : List String} {name : String}
    (noLink : ∀ target, (first.folderAt place).find? name ≠ some (.link target)) (target : String) :
    (second.folderAt place).find? name ≠ some (.link target) := by
  intro link
  exact noLink target (same.symm.find?_link link)

/-- Names of folders lead to the same place. -/
theorem LeadsAs.walk (same : first.LeadsAs second) {place : List String} {parts : List String}
    {walked : Walk} (goes : ∀ failure, walked ≠ .refused failure)
    (way : first.walk place parts = walked) : second.walk place parts = walked := by
  induction parts generalizing place with
  | nil => exact way
  | cons part parts ih =>
    rw [FileTree.walk] at way ⊢
    split at way
    · rw [if_pos ‹_›]
      exact ih way
    · rw [if_neg ‹_›]
      split at way
      · exact absurd way.symm (goes _)
      · rw [if_neg ‹_›]
        split at way
        · exact absurd way.symm (goes _)
        · exact absurd way.symm (goes _)
        · exact absurd way.symm (goes _)
        · rename_i found
          obtain ⟨inner, other⟩ := same.find?_folder found
          rw [other]
          exact ih way
        · rename_i found
          rw [same.find?_link found]
          exact way

/-- Names of folders and links lead to the same place. -/
theorem LeadsAs.followLinks (same : first.LeadsAs second) {links : Nat} {place parts : List String}
    {reached : List String} (way : first.followLinks links place parts = .ok reached) :
    second.followLinks links place parts = .ok reached := by
  induction links generalizing place parts with
  | zero =>
    unfold FileTree.followLinks at way ⊢
    cases walked : first.walk place parts with
    | arrived reached =>
      rw [walked] at way
      rwa [same.walk (by simp) walked]
    | refused failure => simp [walked] at way
    | link place target behind => simp [walked] at way
  | succ links ih =>
    unfold FileTree.followLinks at way ⊢
    cases walked : first.walk place parts with
    | arrived reached =>
      rw [walked] at way
      rwa [same.walk (by simp) walked]
    | refused failure => simp [walked] at way
    | link place target behind =>
      rw [walked] at way
      rw [same.walk (by simp) walked]
      exact ih way

/-- A path leads to the same place from a place. -/
theorem LeadsAs.locateFrom (same : first.LeadsAs second) {place : List String} {path : String}
    {destination : Destination} (way : first.locateFrom place path = .ok destination) :
    second.locateFrom place path = .ok destination := by
  have follow : ∀ {start parts reached}, first.follow start parts = .ok reached →
      second.follow start parts = .ok reached := same.followLinks
  unfold FileTree.locateFrom at way ⊢
  split at way
  · cases way
  split at way
  · cases way
  split at way
  · cases way
  rw [if_neg ‹_›, if_neg ‹_›, if_neg ‹_›]
  cases last : (Path.pieces path).getLast? with
  | none =>
    rw [last] at way
    exact way
  | some name =>
    simp only [last] at way ⊢
    split at way
    · rw [if_pos ‹_›]
      cases reached : first.follow (startOf place path) (Path.parts path) with
      | error failure => simp [reached, Except.map] at way
      | ok reached =>
        rw [reached] at way
        rwa [follow reached]
    · rw [if_neg ‹_›]
      cases reached : first.follow (startOf place path) (Path.parts path).dropLast with
      | error failure => simp [reached, Except.map] at way
      | ok reached =>
        rw [reached] at way
        rwa [follow reached]

/-- A path leads to the same place. -/
theorem LeadsAs.locate (same : first.LeadsAs second) {path : String} {destination : Destination}
    (way : first.locate path = .ok destination) : second.locate path = .ok destination := by
  rw [FileTree.locate, same.here] at way
  exact same.locateFrom way

/-- A name that is no link is where it leads. -/
theorem arrive_of_ne_link {tree : FileTree} {place : List String} {name : String}
    (noLink : ∀ target, (tree.folderAt place).find? name ≠ some (.link target)) (links : Nat)
    (asFolder : Bool) :
    tree.arrive links (.name place name asFolder) = .ok (.name place name asFolder) := by
  unfold FileTree.arrive
  split
  · rename_i link
    exact absurd link (noLink _)
  · rename_i link
    exact absurd link (noLink _)
  · rfl

/-- Links at the end of a path lead to the same place. -/
theorem LeadsAs.arrive (same : first.LeadsAs second) {links : Nat}
    {destination reached : Destination} (way : first.arrive links destination = .ok reached) :
    second.arrive links destination = .ok reached := by
  induction links generalizing destination with
  | zero =>
    cases destination with
    | folder place => exact way
    | name place name asFolder =>
      by_cases link : ∃ target, (first.folderAt place).find? name = some (.link target)
      · obtain ⟨target, found⟩ := link
        simp [FileTree.arrive, found] at way
      · have noLink := not_exists.mp link
        rw [arrive_of_ne_link noLink] at way
        rwa [arrive_of_ne_link (same.find?_ne_link noLink)]
  | succ links ih =>
    cases destination with
    | folder place => exact way
    | name place name asFolder =>
      by_cases link : ∃ target, (first.folderAt place).find? name = some (.link target)
      · obtain ⟨target, found⟩ := link
        unfold FileTree.arrive at way ⊢
        simp only [found, same.find?_link found] at way ⊢
        rw [bind_eq_ok] at way ⊢
        obtain ⟨behind, located, way⟩ := way
        refine ⟨behind, same.locateFrom located, ?_⟩
        cases behind with
        | folder place => exact way
        | name place name needsFolder => exact ih way
      · have noLink := not_exists.mp link
        rw [arrive_of_ne_link noLink] at way
        rwa [arrive_of_ne_link (same.find?_ne_link noLink)]

/-- A path that ends in a folder does so in both trees. -/
theorem LeadsAs.folderPlace (same : first.LeadsAs second) {path : String} {place : List String}
    (way : first.folderPlace path = .ok place) : second.folderPlace path = .ok place := by
  simp only [FileTree.folderPlace, FileTree.reach, bind_eq_ok] at way ⊢
  obtain ⟨reached, ⟨destination, located, arrived⟩, way⟩ := way
  refine ⟨reached, ⟨destination, same.locate located, same.arrive arrived⟩, ?_⟩
  cases reached with
  | folder place => exact way
  | name place name asFolder => exact same.followLinks way

/-- Nothing changes when the folder at a place is put there again. -/
theorem withFolderAt_of_at? {tree : FileTree} {place : List String} {folder : Folder}
    (there : tree.root.at? place = some folder) : tree.withFolderAt place folder = tree := by
  rw [withFolderAt, Folder.replaceAt_of_at? there]

/-- Of two folders put at a place, the second one stays. -/
theorem withFolderAt_withFolderAt (tree : FileTree) (place : List String) (first second : Folder) :
    (tree.withFolderAt place first).withFolderAt place second = tree.withFolderAt place second := by
  simp only [withFolderAt, Folder.replaceAt_replaceAt]

/-- Paths lead the same way when a folder is replaced by one through which they do. -/
theorem leadsAs_withFolderAt {tree : FileTree} {place : List String} {folder changed : Folder}
    (there : tree.root.at? place = some folder) (same : changed.LeadsAs folder) :
    tree.LeadsAs (tree.withFolderAt place changed) where
  here := rfl
  root := fun names name => (Folder.leadsAs_replaceAt there same names name).symm

end FileTree

end ShapeScene
