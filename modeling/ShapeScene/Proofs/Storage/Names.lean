import ShapeScene.Proofs.Storage.Paths
import ShapeScene.Storage.Store

/-!
# Names of scene files

A valid name has neither slashes nor dots, so the path of a scene's file is the path of its store
with one more name, and from that name the scene and the format can be told.
-/

namespace ShapeScene

namespace Text

/-- What stands behind a separator is split by itself. -/
theorem splitAt_append (separator : Char) (before behind : List Char) :
    splitAt separator (before ++ separator :: behind) =
      splitAt separator before ++ splitAt separator behind := by
  induction before with
  | nil => simp [splitAt]
  | cons char before ih =>
    rw [List.cons_append, splitAt, splitAt, ih]
    split
    · rfl
    · cases split : splitAt separator before with
      | nil =>
        cases before with
        | nil => simp [splitAt] at split
        | cons other before =>
          unfold splitAt at split
          split at split
          · cases split
          · split at split <;> cases split
      | cons part parts => rfl

/-- Characters without a separator are one part. -/
theorem splitAt_of_not_mem {separator : Char} {chars : List Char} (single : separator ∉ chars) :
    splitAt separator chars = [chars] := by
  induction chars with
  | nil => rfl
  | cons char chars ih =>
    simp only [List.mem_cons, not_or] at single
    rw [splitAt, if_neg (fun same => single.1 same.symm), ih single.2]

/-- The first character with a property ends the part in front. -/
theorem splitFirst_append {separates : Char → Bool} {before : List Char}
    (plain : ∀ char ∈ before, separates char = false) {separator : Char}
    (first : separates separator = true) (behind : List Char) :
    splitFirst separates (before ++ separator :: behind) = some (before, behind) := by
  induction before with
  | nil => simp [splitFirst, first]
  | cons char before ih =>
    obtain ⟨head, tail⟩ := List.forall_mem_cons.mp plain
    simp [splitFirst, head, ih tail]

/-- What is split is put together again, and the part in front is free of separators. -/
theorem splitFirst_eq_some {separates : Char → Bool} {chars before behind : List Char}
    (split : splitFirst separates chars = some (before, behind)) :
    ∃ separator, separates separator = true ∧ chars = before ++ separator :: behind := by
  induction chars generalizing before with
  | nil => cases split
  | cons char chars ih =>
    rw [splitFirst] at split
    split at split
    · rename_i first
      cases split
      exact ⟨char, first, rfl⟩
    · obtain ⟨⟨rest, other⟩, inside, same⟩ := Option.map_eq_some_iff.mp split
      cases same
      obtain ⟨separator, first, together⟩ := ih inside
      exact ⟨separator, first, by rw [together, List.cons_append]⟩

end Text

namespace SceneStore

/-- The characters of a valid name are neither slashes nor dots. -/
theorem isIdChar_ne {char : Char} (plain : isIdChar char = true) : char ≠ '/' ∧ char ≠ '.' := by
  constructor <;>
  · rintro rfl
    revert plain
    decide

/-- A valid name has characters, all of them plain. -/
theorem isValidId_iff (id : String) :
    isValidId id = true ↔ id.toList ≠ [] ∧ ∀ char ∈ id.toList, isIdChar char = true := by
  simp [isValidId]

/-- The characters of the name of a file. -/
theorem toList_fileName (id : String) (format : StoreFormat) :
    (fileName id format).toList = id.toList ++ '.' :: format.extension.toList := by
  simp [fileName]

/-- The length of the name of a file in bytes. -/
theorem utf8ByteSize_fileName (id : String) (format : StoreFormat) :
    (fileName id format).utf8ByteSize = id.utf8ByteSize + 1 + format.extension.utf8ByteSize := by
  rw [fileName, String.utf8ByteSize_append, String.utf8ByteSize_append]
  rfl

/-- The name of a file has no slash. -/
theorem slash_not_mem_fileName {id : String} (valid : isValidId id = true) (format : StoreFormat) :
    '/' ∉ (fileName id format).toList := by
  rw [toList_fileName]
  intro member
  rcases List.mem_append.mp member with inId | behind
  · exact (isIdChar_ne (((isValidId_iff id).mp valid).2 _ inId)).1 rfl
  · revert behind
    cases format <;> decide

/-- The name of a file has characters. -/
theorem toList_fileName_ne_nil (id : String) (format : StoreFormat) :
    (fileName id format).toList ≠ [] := by
  simp [toList_fileName]

/-- The name of a file is no path from the root. -/
theorem isAbsolute_fileName {id : String} (valid : isValidId id = true) (format : StoreFormat) :
    Path.isAbsolute (fileName id format) = false := by
  rw [Path.isAbsolute, beq_eq_false_iff_ne]
  exact fun slash => slash_not_mem_fileName valid format (List.mem_of_head? slash)

/-- The path of a file is its name behind the path of the store, with one slash in between. -/
theorem toList_path (store : SceneStore) {id : String} (valid : isValidId id = true)
    (format : StoreFormat) :
    (store.root.toList = [] ∧
        (store.path id format).toList = (fileName id format).toList) ∨
      (∃ before, store.root.toList = before ++ ['/'] ∧
        (store.path id format).toList = before ++ '/' :: (fileName id format).toList) ∨
      (store.path id format).toList = store.root.toList ++ '/' :: (fileName id format).toList := by
  rw [path, Path.join, isAbsolute_fileName valid format, Bool.false_or]
  by_cases empty : store.root.isEmpty = true
  · rw [if_pos empty]
    exact .inl ⟨by simpa using empty, rfl⟩
  · rw [if_neg empty]
    by_cases slash : Path.endsInSlash store.root = true
    · rw [if_pos slash, String.toList_append]
      rw [Path.endsInSlash, beq_iff_eq] at slash
      obtain ⟨before, root⟩ := List.getLast?_eq_some_iff.mp slash
      exact .inr (.inl ⟨before, root, by rw [root, List.append_assoc]; rfl⟩)
    · rw [if_neg slash]
      exact .inr (.inr (by simp))

/-- The pieces of the path of a file are those of the path of the store and the name. -/
theorem pieces_path (store : SceneStore) {id : String} (valid : isValidId id = true)
    (format : StoreFormat) :
    Path.pieces (store.path id format) = Path.pieces store.root ++ [fileName id format] := by
  have piece := Text.splitAt_of_not_mem (slash_not_mem_fileName valid format)
  have kept : [(fileName id format).toList].filter (fun part => !part.isEmpty) =
      [(fileName id format).toList] := by
    rw [List.filter_cons_of_pos, List.filter_nil]
    simpa using toList_fileName_ne_nil id format
  rw [Path.pieces, Path.pieces]
  rcases toList_path store valid format with ⟨root, alone⟩ | ⟨before, root, behind⟩ | behind
  · rw [alone, root, piece, kept]
    simp [Text.splitAt]
  · rw [behind, root, Text.splitAt_append, Text.splitAt_append, piece, List.filter_append, kept]
    simp [Text.splitAt]
  · rw [behind, Text.splitAt_append, piece, List.filter_append, kept]
    simp

/-- The path of a file does not end in a slash. -/
theorem endsInSlash_path (store : SceneStore) {id : String} (valid : isValidId id = true)
    (format : StoreFormat) : Path.endsInSlash (store.path id format) = false := by
  have behindSlash : ∀ before, (before ++ '/' :: (fileName id format).toList).getLast? =
      (fileName id format).toList.getLast? := by
    intro before
    obtain ⟨char, rest, chars⟩ := List.exists_cons_of_ne_nil (toList_fileName_ne_nil id format)
    rw [chars, List.getLast?_append, List.getLast?_cons_cons,
      List.getLast?_eq_some_getLast (List.cons_ne_nil char rest), Option.some_or]
  have last : (store.path id format).toList.getLast? = (fileName id format).toList.getLast? := by
    rcases toList_path store valid format with ⟨_, alone⟩ | ⟨before, _, behind⟩ | behind
    · rw [alone]
    · rw [behind, behindSlash]
    · rw [behind, behindSlash]
  rw [Path.endsInSlash, last, beq_eq_false_iff_ne]
  exact fun slash => slash_not_mem_fileName valid format (List.mem_of_getLast? slash)

/-- The path of a file starts at the root exactly when that of the store does. -/
theorem isAbsolute_path (store : SceneStore) {id : String} (valid : isValidId id = true)
    (format : StoreFormat) :
    Path.isAbsolute (store.path id format) = Path.isAbsolute store.root := by
  by_cases empty : store.root.isEmpty = true
  · rw [path, Path.join, empty, Bool.or_true, if_pos rfl, isAbsolute_fileName valid format,
      String.isEmpty_iff.mp empty]
    rfl
  · have rooted : store.root.toList ≠ [] := by simpa using empty
    obtain ⟨char, rest, chars⟩ := List.exists_cons_of_ne_nil rooted
    rw [Path.isAbsolute, Path.isAbsolute]
    rcases toList_path store valid format with ⟨root, _⟩ | ⟨before, root, behind⟩ | behind
    · exact absurd root rooted
    · rw [behind, root, List.head?_append, List.head?_append]
      rfl
    · rw [behind, chars]
      rfl

/-- The path of a file has a null character exactly when that of the store has one. -/
theorem null_mem_path_iff (store : SceneStore) {id : String} (valid : isValidId id = true)
    (format : StoreFormat) :
    '\x00' ∈ (store.path id format).toList ↔ '\x00' ∈ store.root.toList := by
  have inName : '\x00' ∉ (fileName id format).toList := by
    rw [toList_fileName]
    intro member
    rcases List.mem_append.mp member with inId | behind
    · exact absurd (((isValidId_iff id).mp valid).2 _ inId) (by decide)
    · revert behind
      cases format <;> decide
  have inPart : '\x00' ∉ '/' :: (fileName id format).toList := by
    rw [List.mem_cons, not_or]
    exact ⟨by decide, inName⟩
  rcases toList_path store valid format with ⟨root, alone⟩ | ⟨before, root, behind⟩ | behind
  · simp [alone, root, inName]
  · rw [behind, root, List.mem_append, List.mem_append, or_iff_left inPart,
      or_iff_left (by decide)]
  · rw [behind, List.mem_append, or_iff_left inPart]

/-- The extension of the name of a file tells its format, whatever stands in front. -/
theorem ofExtension?_fileName {stem : String} (named : stem ≠ "") (format : StoreFormat) :
    (Path.nameExtension? (fileName stem format)).bind StoreFormat.ofExtension? = some format := by
  have filled : stem.toList ≠ [] := by simpa using named
  have noDot : ∀ char ∈ format.extension.toList.reverse, decide (char = '.') = false := by
    have plain : format.extension.toList.reverse.all (fun char => !decide (char = '.')) = true := by
      cases format <;> decide
    simpa using plain
  have split := Text.splitFirst_append noDot (decide_eq_true rfl) stem.toList.reverse
  have extension : Path.nameExtension? (fileName stem format) = some format.extension := by
    unfold Path.nameExtension?
    rw [toList_fileName, List.reverse_append, List.reverse_cons, List.append_assoc,
      List.singleton_append, split]
    simp [filled]
  rw [extension]
  cases format <;> rfl

/-- A valid name has characters. -/
theorem ne_empty_of_isValidId {id : String} (valid : isValidId id = true) : id ≠ "" := by
  simpa using ((isValidId_iff id).mp valid).1

/-- The name of a file tells its scene and its format. -/
theorem fileName_injective {first second : String} (firstValid : isValidId first = true)
    (secondValid : isValidId second = true) {format other : StoreFormat}
    (same : fileName first format = fileName second other) : first = second ∧ format = other := by
  have formats : format = other := by
    have extension := ofExtension?_fileName (ne_empty_of_isValidId firstValid) format
    rw [same, ofExtension?_fileName (ne_empty_of_isValidId secondValid) other] at extension
    exact (Option.some.inj extension).symm
  subst formats
  have chars := congrArg String.toList same
  rw [toList_fileName, toList_fileName, List.append_left_inj] at chars
  exact ⟨String.toList_injective chars, rfl⟩

/-- The name of a file is no dot. -/
theorem fileName_ne_dots {id : String} (valid : isValidId id = true) (format : StoreFormat) :
    fileName id format ≠ "." ∧ fileName id format ≠ ".." := by
  have extension := ofExtension?_fileName (ne_empty_of_isValidId valid) format
  constructor <;>
  · intro same
    rw [same] at extension
    revert extension
    cases format <;> decide

/-- From any place the path of a file leads to its name in the folder to which that of the store
leads, unless it is no path at all. -/
theorem locateFrom_path (store : SceneStore) (tree : FileTree) (here : List String) {id : String}
    (valid : isValidId id = true) (format : StoreFormat) :
    tree.locateFrom here (store.path id format) =
      if '\x00' ∈ store.root.toList then .error .nullInPath
      else if FileTree.maxPathBytes < (store.path id format).utf8ByteSize then .error .nameTooLong
      else (tree.follow (FileTree.startOf here store.root) (Path.parts store.root)).map
        fun place => .name place (fileName id format) false := by
  have pieces := pieces_path store valid format
  have start : FileTree.startOf here (store.path id format) =
      FileTree.startOf here store.root := by
    rw [FileTree.startOf, FileTree.startOf, isAbsolute_path store valid format]
  have filled : (store.path id format).isEmpty = false := by
    cases empty : (store.path id format).isEmpty with
    | false => rfl
    | true =>
      rw [String.isEmpty_iff] at empty
      rw [empty] at pieces
      exact absurd (congrArg List.length pieces) (by simp [Path.pieces, Text.splitAt])
  obtain ⟨noDot, noDots⟩ := fileName_ne_dots valid format
  have parts : (Path.parts (store.path id format)).dropLast = Path.parts store.root := by
    rw [Path.parts, pieces, List.filter_append, List.filter_cons_of_pos (by simpa using noDot)]
    simp [Path.parts]
  have null : (store.path id format).toList.contains '\x00' = true ↔
      '\x00' ∈ store.root.toList := by
    rw [List.contains_iff_mem, null_mem_path_iff store valid format]
  rw [FileTree.locateFrom]
  by_cases foul : '\x00' ∈ store.root.toList
  · rw [if_pos (null.mpr foul), if_pos foul]
  · rw [if_neg (mt null.mp foul), if_neg foul, filled, if_neg Bool.false_ne_true]
    have named : ¬ (fileName id format = "." ∨ fileName id format = "..") :=
      not_or.mpr ⟨noDot, noDots⟩
    simp only [pieces, List.getLast?_concat, if_neg named]
    rw [parts, start, endsInSlash_path store valid format]

end SceneStore

end ShapeScene
