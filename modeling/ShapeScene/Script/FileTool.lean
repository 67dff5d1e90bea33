import ShapeScene.Script.Lines

/-!
# Tools for files

The tools that make, copy, move, link, list and remove files and folders.
-/

namespace ShapeScene.Script

/-! ## Entries -/

/-- The entry at the end of a path, which may be a link. -/
def entryAt (files : FileTree) (path : String) : Except IoFailure Entry := do
  match ← files.locate path with
  | .folder place => .ok (.folder (files.folderAt place))
  | .name place name asFolder =>
    match (files.folderAt place).find? name with
    | none => if Folder.isTooLong name then .error .nameTooLong else .error .notFound
    | some (.folder entries) => .ok (.folder entries)
    | some (.link target) =>
      if asFolder then (files.entries path).map .folder else .ok (.link target)
    | some entry => if asFolder then .error .notFolder else .ok entry

/-- The entry to which a path leads when links are followed. -/
def entryBehind (files : FileTree) (path : String) : Except IoFailure Entry := do
  match ← entryAt files path with
  | .link _ =>
    match files.entries path, files.entry? path with
    | .ok entries, _ => .ok (.folder entries)
    | _, some entry => .ok entry
    | _, none => .error .notFound
  | entry => .ok entry

/-- The files with an entry at the end of a path, in the place of what was there. -/
def putEntry (files : FileTree) (path : String) (entry : Entry) : Except IoFailure FileTree := do
  match ← files.locate path with
  | .folder _ => .error .alreadyExists
  | .name place name asFolder =>
    let isFolder := match entry with | .folder _ => true | _ => false
    if Folder.isTooLong name then .error .nameTooLong
    else if asFolder && !isFolder then .error .notFolder
    else files.change place fun folder => .ok (folder.put name entry)

/-- The files without the entry at the end of a path. -/
def eraseEntry (files : FileTree) (path : String) : FileTree :=
  match files.locate path with
  | .ok (.name place name _) => files.withFolderAt place ((files.folderAt place).erase name)
  | _ => files

/-- Whether two paths lead to the same place. -/
def isSamePlace (files : FileTree) (first second : String) : Bool :=
  match files.reach first, files.reach second with
  | .ok (.name place name _), .ok (.name otherPlace otherName _) =>
    place == otherPlace && name == otherName
  | .ok (.folder place), .ok (.folder other) => place == other
  | _, _ => false

/-- Whether an entry is a folder. -/
def isFolderEntry : Entry → Bool
  | .folder _ => true
  | _ => false

/-- A path without the slashes at its end. -/
def trimSlashes (path : String) : String :=
  let kept := (path.toList.reverse.dropWhile (· = '/')).reverse
  if kept.isEmpty && !path.isEmpty then "/" else String.ofList kept

/-- The last part of a path. -/
def lastPart (path : String) : String :=
  let chars := (trimSlashes path).toList
  let name := (chars.reverse.takeWhile (· ≠ '/')).reverse
  if name.isEmpty then trimSlashes path else String.ofList name

/-- The last part of a path, without an ending. -/
def baseName (path ending : String) : String :=
  let name := (lastPart path).toList
  if name ≠ ending.toList && ending.toList.reverse.isPrefixOf name.reverse then
    String.ofList (name.take (name.length - ending.length))
  else String.ofList name

/-- A path without its last part. -/
def folderName (path : String) : String :=
  let above := (trimSlashes path).toList.reverse.dropWhile (· ≠ '/')
  if above.isEmpty then "." else trimSlashes (String.ofList above.reverse)

/-- The path of a name in a folder. -/
def pathIn (folder name : String) : String :=
  if folder.toList.getLast? = some '/' then folder ++ name else folder ++ "/" ++ name

/-! ## Folders and empty files -/

/-- The new folders of a path from the first one, with a line about each if there is to be one. -/
def makePath (tells : Bool) : List String → Deed → Deed
  | [], deed => deed
  | path :: later, deed =>
    if path.isEmpty ∨ deed.bench.files.isFolder path then makePath tells later deed
    else
      match deed.bench.files.makeFolder path with
      | .ok files =>
        let made := deed.withFiles files
        makePath tells later
          (if tells then made.sayLine ("mkdir: created directory " ++ quoted path) else made)
      | .error failure =>
        let reason := if failure = .alreadyExists ∧ !later.isEmpty then .notFolder else failure
        deed.fail ("mkdir: cannot create directory " ++ quoted path ++ ": " ++ reason.reason)

/-- New folders, also above them if a switch asks for that. -/
def makeFolders (bench : Bench) (arguments : List String) : Deed :=
  let usage : Usage :=
    { tool := "mkdir", flags := "pv", valued := "m",
      long := [("--parents", 'p'), ("--verbose", 'v'), ("--mode", 'm')] }
  usage.with bench arguments fun switches =>
    if switches.operands.isEmpty then missingOperand bench "mkdir"
    else
      switches.operands.foldl
        (fun deed path =>
          if switches.has 'p' && !path.isEmpty then
            makePath (switches.has 'v') (Path.ancestors path).reverse deed
          else
            match deed.bench.files.makeFolder path with
            | .ok files =>
              let made := deed.withFiles files
              if switches.has 'v' then
                made.sayLine ("mkdir: created directory " ++ quoted path)
              else made
            | .error failure =>
              deed.fail
                ("mkdir: cannot create directory " ++ quoted path ++ ": " ++ failure.reason))
        (.idle bench 0)

/-- The deed after a folder with nothing in it was removed, and those above it if a switch asks for
that. -/
def removePath (withParents tells : Bool) : (isParent : Bool) → List String → Deed → Deed
  | _, [], deed => deed
  | isParent, path :: above, deed =>
    let told :=
      if tells then deed.sayLine ("rmdir: removing directory, " ++ quoted path) else deed
    let refuse (reason : String) : Deed :=
      told.fail ("rmdir: failed to remove " ++ (if isParent then "directory " else "") ++
        quoted path ++ ": " ++ reason)
    match entryAt deed.bench.files path, deed.bench.files.locate path with
    | .ok (.folder _), .ok (.folder _) => refuse IoFailure.invalidPath.reason
    | .ok (.folder []), _ =>
      let removed := told.withFiles (eraseEntry deed.bench.files path)
      if withParents then removePath withParents tells true above removed else removed
    | .ok (.folder _), _ => refuse IoFailure.notEmpty.reason
    | .ok _, _ => refuse IoFailure.notFolder.reason
    | .error failure, _ => refuse failure.reason

/-- Folders removed that have nothing in them. -/
def removeFolders (bench : Bench) (arguments : List String) : Deed :=
  let usage : Usage :=
    { tool := "rmdir", flags := "pv", long := [("--parents", 'p'), ("--verbose", 'v')] }
  usage.with bench arguments fun switches =>
    if switches.operands.isEmpty then missingOperand bench "rmdir"
    else
      switches.operands.foldl
        (fun deed path =>
          let paths := (Path.ancestors path).filter fun above => !above.isEmpty
          removePath (switches.has 'p') (switches.has 'v') false paths deed)
        (.idle bench 0)

/-- Empty files where there are none. -/
def touch (bench : Bench) (arguments : List String) : Deed :=
  let usage : Usage := { tool := "touch", flags := "acfhm", valued := "drt" }
  usage.with bench arguments fun switches =>
    if switches.operands.isEmpty then missingOperand bench "touch" "file operand"
    else
      switches.operands.foldl
        (fun deed path =>
          if switches.has 'c' || hasEntry deed.bench.files path then deed
          else
            match deed.bench.files.write path [] with
            | .ok files => deed.withFiles files
            | .error .isFolder =>
              deed.fail
                ("touch: setting times of " ++ quoted path ++ ": " ++ IoFailure.notFound.reason)
            | .error failure =>
              deed.fail ("touch: cannot touch " ++ quoted path ++ ": " ++ failure.reason))
        (.idle bench 0)

/-- Files removed, and folders too if a switch asks for that. -/
def remove (bench : Bench) (arguments : List String) : Deed :=
  let usage : Usage :=
    { tool := "rm", flags := "dfiIrRv",
      long := [("--force", 'f'), ("--recursive", 'r'), ("--dir", 'd'), ("--verbose", 'v')] }
  usage.with bench arguments fun switches =>
    let isForced := switches.has 'f'
    let isDeep := switches.has 'r' || switches.has 'R'
    if switches.operands.isEmpty && !isForced then missingOperand bench "rm"
    else
      switches.operands.foldl
        (fun deed path =>
          let files := deed.bench.files
          let refuse (reason : String) : Deed :=
            deed.fail ("rm: cannot remove " ++ quoted path ++ ": " ++ reason)
          let erased (kind : String) : Deed :=
            let after := deed.withFiles (eraseEntry files path)
            if switches.has 'v' then after.sayLine ("removed " ++ kind ++ quoted path) else after
          match entryAt files path with
          | .error failure =>
            if isForced && (failure = .notFound || failure = .notFolder) then deed
            else refuse failure.reason
          | .ok (.folder entries) =>
            if isDeep && (lastPart path = "." || lastPart path = "..") then
              deed.fail ("rm: refusing to remove '.' or '..' directory: skipping " ++ quoted path)
            else if isDeep then erased "directory "
            else if switches.has 'd' then
              if entries.isEmpty then erased "directory " else refuse IoFailure.notEmpty.reason
            else refuse IoFailure.isFolder.reason
          | .ok _ => erased "")
        (.idle bench 0)

/-! ## Copies, moves and links -/

/-- The entries of a folder with those of another one put into it, and into the folders in it. -/
def mergeFolders : (bound : Nat) → Folder → Folder → Folder
  | 0, folder, _ => folder
  | bound + 1, folder, added =>
    added.foldl
      (fun (folder : Folder) (name, entry) =>
        match folder.find? name, entry with
        | some (.folder old), .folder new => folder.put name (.folder (mergeFolders bound old new))
        | _, entry => folder.put name entry)
      folder

/-- How deep folders are copied. -/
def greatestFolderDepth : Nat := 256

/-- Where things go: each source with its target, or why they cannot go there. -/
def landings (bench : Bench) (tool : String) (switches : Switches) :
    Except Deed (List (String × String)) :=
  let files := bench.files
  let into (folder : String) (sources : List String) : List (String × String) :=
    sources.map fun source => (source, pathIn folder (lastPart source))
  let isFolder (path : String) : Bool := files.isFolder path
  match switches.value? 't', switches.operands with
  | _, [] => .error (missingOperand bench tool "file operand")
  | some folder, sources =>
    if isFolder folder then .ok (into folder sources)
    else
      let reason := if hasEntry files folder then IoFailure.notFolder else .notFound
      .error (.refused bench (tool ++ ": target directory " ++ quoted folder ++ ": " ++
        reason.reason))
  | none, [source] =>
    if tool = "ln" then .ok (into "." [source])
    else
      .error (misused bench tool
        ("missing destination file operand after " ++ quoted source))
  | none, [source, target] =>
    let isLink := (files.linkTarget? target).isSome && switches.has 'n' && tool = "ln"
    if isFolder target && !switches.has 'T' && !isLink then .ok (into target [source])
    else .ok [(source, target)]
  | none, paths =>
    let target := paths.getLast?.getD ""
    if switches.has 'T' then .error (extraOperand bench tool ((paths[2]?).getD ""))
    else if isFolder target then .ok (into target paths.dropLast)
    else
      let reason := if hasEntry files target then IoFailure.notFolder else .notFound
      .error (.refused bench (tool ++ ": target " ++ quoted target ++ ": " ++ reason.reason))

/-- The deed after something was copied. -/
def copyOne (switches : Switches) (deed : Deed) (source target : String) : Deed :=
  let files := deed.bench.files
  let refuse (message : String) : Deed := deed.fail ("cp: " ++ message)
  let isDeep := "rRa".toList.any switches.has
  let follows :=
    switches.has 'L' || !(switches.has 'P' || switches.has 'd' || isDeep)
  let told (after : Deed) : Deed :=
    if switches.has 'v' then after.sayLine (quoted source ++ " -> " ++ quoted target) else after
  let settle (made : Except IoFailure FileTree) (action : String) : Deed :=
    match made with
    | .ok files => told (deed.withFiles files)
    | .error failure => refuse (action ++ " " ++ quoted target ++ ": " ++ failure.reason)
  match (if follows then entryBehind else entryAt) files source with
  | .error failure => refuse ("cannot stat " ++ quoted source ++ ": " ++ failure.reason)
  | .ok (.folder entries) =>
    if !isDeep then refuse ("-r not specified; omitting directory " ++ quoted source)
    else
      let inner := (files.folderPlace target).toOption.getD (Path.parts target)
      match files.folderPlace source, entryBehind files target with
      | .ok place, found =>
        let above := (files.folderPlace (folderName target)).toOption.getD []
        if place.isPrefixOf (if found.isOk then inner else above) then
          refuse ("cannot copy a directory, " ++ quoted source ++ ", into itself, " ++
            quoted target)
        else
          match found with
          | .ok (.folder old) =>
            let merged := mergeFolders greatestFolderDepth old entries
            told (deed.withFiles (files.withFolderAt inner merged))
          | .ok _ =>
            refuse ("cannot overwrite non-directory " ++ quoted target ++ " with directory " ++
              quoted source)
          | .error _ =>
            settle (putEntry files target (.folder entries)) "cannot create directory"
      | .error failure, _ => refuse ("cannot stat " ++ quoted source ++ ": " ++ failure.reason)
  | .ok entry =>
    if files.isFolder target then
      refuse ("cannot overwrite directory " ++ quoted target ++ " with non-directory")
    else if switches.has 'n' && (entryAt files target).isOk then
      deed.warn ("cp: warning: behavior of -n is non-portable and may change in future; " ++
        "use --update=none instead")
    else if isSamePlace files source target then
      refuse (quoted source ++ " and " ++ quoted target ++ " are the same file")
    else if switches.has 's' then
      settle (putEntry files target (.link source)) "cannot create symbolic link"
    else
      match entry with
      | .link name =>
        settle (putEntry files target (.link name)) "cannot create symbolic link"
      | .device .null => settle (files.write target []) "cannot create regular file"
      | .device _ => deed.stuck
      | entry =>
        let (content, isProgram) :=
          match entry with
          | .file content isProgram => (content, isProgram)
          | _ => ([], false)
        let isDangling := (files.linkTarget? target).isSome && !hasEntry files target
        if isDangling then refuse ("not writing through dangling symlink " ++ quoted target)
        else
          match outputStream? target, entryBehind files target with
          | some _, _ => told ((deed.write target content).toOption.getD deed)
          | none, .ok (.device .full) =>
            refuse ("error writing " ++ quoted target ++ ": " ++ IoFailure.noSpace.reason)
          | none, .ok _ => settle (files.write target content) "cannot create regular file"
          | none, .error _ =>
            match putEntry files target (.file content isProgram) with
            | .error .notFolder =>
              refuse ("cannot create regular file " ++ quoted target ++ ": " ++
                IoFailure.notFolder.reason)
            | made => settle made "cannot create regular file"

/-- Files copied. -/
def copy (bench : Bench) (arguments : List String) : Deed :=
  let usage : Usage :=
    { tool := "cp", flags := "abdfilLHnpPrRsTuvx", valued := "tS",
      long := [("--recursive", 'r'), ("--archive", 'a'), ("--force", 'f'), ("--verbose", 'v'),
        ("--no-clobber", 'n'), ("--no-target-directory", 'T'), ("--target-directory", 't'),
        ("--dereference", 'L'), ("--no-dereference", 'P'), ("--symbolic-link", 's')] }
  usage.with bench arguments fun switches =>
    match landings bench "cp" switches with
    | .error refused => refused
    | .ok pairs =>
      pairs.foldl (fun deed pair => copyOne switches deed pair.1 pair.2) (.idle bench 0)

/-- The deed after something was moved. -/
def moveOne (switches : Switches) (deed : Deed) (source target : String) : Deed :=
  let files := deed.bench.files
  let refuse (message : String) : Deed := deed.fail ("mv: " ++ message)
  match entryAt files source with
  | .error failure => refuse ("cannot stat " ++ quoted source ++ ": " ++ failure.reason)
  | .ok entry =>
    let old := entryAt files target
    if switches.has 'n' && old.isOk then refuse ("not replacing " ++ quoted target)
    else if isFolderEntry entry && (match files.folderPlace source,
        files.folderPlace (folderName target) with
        | .ok place, .ok above => place.isPrefixOf above
        | _, _ => false) then
      refuse ("cannot move " ++ quoted source ++ " to a subdirectory of itself, " ++
        quoted target)
    else
      let isSame :=
        match files.locate source, files.locate target with
        | .ok (.name place name _), .ok (.name otherPlace otherName _) =>
          place == otherPlace && name == otherName
        | _, _ => false
      let oldIsFolder := match old with | .ok old => isFolderEntry old | .error _ => false
      if isSame then refuse (quoted source ++ " and " ++ quoted target ++ " are the same file")
      else if isFolderEntry entry && old.isOk && !oldIsFolder then
        refuse ("cannot overwrite non-directory " ++ quoted target ++ " with directory " ++
          quoted source)
      else if !isFolderEntry entry && oldIsFolder then
        refuse ("cannot overwrite directory " ++ quoted target ++ " with non-directory")
      else
        match outputStream? target, putEntry files target entry with
        | none, .ok made =>
          let after := deed.withFiles (eraseEntry made source)
          if switches.has 'v' then
            after.sayLine ("renamed " ++ quoted source ++ " -> " ++ quoted target)
          else after
        | _, .error failure =>
          refuse ("cannot move " ++ quoted source ++ " to " ++ quoted target ++ ": " ++
            failure.reason)
        | some _, .ok _ => deed

/-- Files moved. -/
def move (bench : Bench) (arguments : List String) : Deed :=
  let usage : Usage :=
    { tool := "mv", flags := "bfinTuv", valued := "tS",
      long := [("--force", 'f'), ("--verbose", 'v'), ("--no-clobber", 'n'),
        ("--no-target-directory", 'T'), ("--target-directory", 't')] }
  usage.with bench arguments fun switches =>
    match landings bench "mv" switches with
    | .error refused => refused
    | .ok pairs =>
      pairs.foldl (fun deed pair => moveOne switches deed pair.1 pair.2) (.idle bench 0)

/-- The deed after a link was made. A link that is not symbolic is a copy. -/
def linkOne (switches : Switches) (deed : Deed) (source target : String) : Deed :=
  let files := deed.bench.files
  let isSymbolic := switches.has 's'
  let kind := if isSymbolic then "symbolic" else "hard"
  let refuse (message : String) : Deed := deed.fail ("ln: " ++ message)
  let entry := if isSymbolic then .ok (.link source) else entryAt files source
  match entry with
  | .error failure => refuse ("failed to access " ++ quoted source ++ ": " ++ failure.reason)
  | .ok (.folder _) => refuse (shownName source ++ ": hard link not allowed for directory")
  | .ok entry =>
    let old := entryAt files target
    let oldIsFolder := match old with | .ok old => isFolderEntry old | .error _ => false
    let failed (reason : String) : Deed :=
      refuse ("failed to create " ++ kind ++ " link " ++ quoted target ++ reason)
    if isSymbolic && source.isEmpty then failed (" -> '': " ++ IoFailure.notFound.reason)
    else if old.isOk && switches.has 'f' && oldIsFolder then
      refuse (target ++ ": cannot overwrite directory")
    else if old.isOk && !switches.has 'f' then failed (": " ++ IoFailure.alreadyExists.reason)
    else
      match putEntry files target entry with
      | .ok made =>
        let after := deed.withFiles made
        if switches.has 'v' then
          after.sayLine (quoted target ++ (if isSymbolic then " -> " else " => ") ++
            quoted source)
        else after
      | .error failure => failed (": " ++ failure.reason)

/-- Links made. -/
def link (bench : Bench) (arguments : List String) : Deed :=
  let usage : Usage :=
    { tool := "ln", flags := "bdfFiLnPrsTv", valued := "tS",
      long := [("--symbolic", 's'), ("--force", 'f'), ("--no-dereference", 'n'),
        ("--verbose", 'v'), ("--no-target-directory", 'T'), ("--target-directory", 't')] }
  usage.with bench arguments fun switches =>
    match landings bench "ln" switches with
    | .error refused => refused
    | .ok pairs =>
      pairs.foldl (fun deed pair => linkOne switches deed pair.1 pair.2) (.idle bench 0)

/-! ## Modes -/

/-- Whether a file is a program after its mode was changed; none if a text is no mode. -/
def modeOf? (isProgram : Bool) (mode : String) : Option Bool :=
  let chars := mode.toList
  let isOctal (char : Char) : Bool := '0' ≤ char && char ≤ '7'
  if !chars.isEmpty && chars.all isOctal then
    let bits := chars.foldl (fun value char => value * 8 + Text.digitValue char) 0
    if 4095 < bits then none
    else some (bits % 2 = 1 || bits / 8 % 2 = 1 || bits / 64 % 2 = 1)
  else
    (Text.splitAt ',' chars).foldl
      (fun (answer : Option Bool) clause => do
        let isProgram ← answer
        let rest := clause.dropWhile "ugoa".toList.contains
        match rest with
        | sign :: letters =>
          if !"+-=".toList.contains sign || !letters.all "rwxXstugo".toList.contains then none
          else
            let marks := letters.contains 'x' || (letters.contains 'X' && isProgram)
            match sign with
            | '+' => some (isProgram || marks)
            | '-' => some (isProgram && !marks)
            | _ =>
              let who := clause.takeWhile "ugoa".toList.contains
              let coversAll := who.isEmpty || who.contains 'a' || who.contains 'u'
              some (marks || (isProgram && !coversAll))
        | [] => none)
      (some isProgram)

/-- The mode of files. Only whether they are programs is kept. -/
def changeMode (bench : Bench) (arguments : List String) : Deed :=
  let isModeText (argument : String) : Bool :=
    match argument.toList with
    | '-' :: letter :: _ => "rwxXst".toList.contains letter
    | _ => false
  let kept := arguments.filter fun argument =>
    isModeText argument || argument.toList.head? ≠ some '-' || argument = "-"
  match kept with
  | [] => missingOperand bench "chmod"
  | [mode] => misused bench "chmod" ("missing operand after " ++ quoted mode)
  | mode :: paths =>
    if (modeOf? false mode).isNone then misused bench "chmod" ("invalid mode: " ++ quoted mode)
    else
      paths.foldl
        (fun deed path =>
          let files := deed.bench.files
          match files.entry? path with
          | some (.file content isProgram) =>
            match files.reach path with
            | .ok (.name place name _) =>
              let entry := Entry.file content ((modeOf? isProgram mode).getD isProgram)
              deed.withFiles (files.withFolderAt place ((files.folderAt place).put name entry))
            | _ => deed
          | some _ => deed
          | none =>
            if files.isFolder path then deed
            else if (files.linkTarget? path).isSome then
              deed.fail ("chmod: cannot operate on dangling symlink " ++ quoted path)
            else
              let reason :=
                match entryAt files path with
                | .error failure => failure
                | .ok _ => .notFound
              deed.fail ("chmod: cannot access " ++ quoted path ++ ": " ++ reason.reason))
        (.idle bench 0)

/-- Files made longer or shorter. -/
def resize (bench : Bench) (arguments : List String) : Deed :=
  let usage : Usage :=
    { tool := "truncate", flags := "co", valued := "sr",
      long := [("--size", 's'), ("--no-create", 'c')] }
  usage.with bench arguments fun switches =>
    match switches.value? 's' with
    | none =>
      misused bench "truncate" "you must specify either '--size' or '--reference'"
    | some text =>
      let (sign, digits) :=
        match text.toList with
        | '+' :: digits => ('+', digits)
        | '-' :: digits => ('-', digits)
        | digits => ('=', digits)
      match count? digits with
      | none => .refused bench ("truncate: Invalid number: " ++ quoted text)
      | some size =>
        if switches.operands.isEmpty then missingOperand bench "truncate" "file operand"
        else
          switches.operands.foldl
            (fun deed path =>
              let files := deed.bench.files
              let before := ((files.read path).toOption).getD []
              let length :=
                match sign with
                | '+' => before.length + size
                | '-' => before.length - size
                | _ => size
              let content := before.take length ++ List.replicate (length - before.length) 0
              if switches.has 'c' && !hasEntry files path then deed
              else
                match files.write path content with
                | .ok files => deed.withFiles files
                | .error failure =>
                  deed.fail ("truncate: cannot open " ++ quoted path ++ " for writing: " ++
                    failure.reason))
            (.idle bench 0)

/-! ## What is there -/

/-- The mark behind a name that shows what it stands for. -/
def entryMark (entry : Entry) : String :=
  match entry with
  | .folder _ => "/"
  | .link _ => "@"
  | .file _ true => "*"
  | _ => ""

/-- The lines of a listing of folders, with those in them if they are wanted. -/
def listFolders (switches : Switches) (hasHeadings : Bool) : (bound : Nat) → (isFirst : Bool) →
    List (String × Folder) → List String
  | 0, _, _ | _, _, [] => []
  | bound + 1, isFirst, (path, folder) :: later =>
    let hidden := switches.has 'a' || switches.has 'A'
    let sorted := folder.mergeSort fun first second => first.1 ≤ second.1
    let seen := sorted.filter fun entry => hidden || entry.1.toList.head? != some '.'
    let dots : List (String × Entry) :=
      if switches.has 'a' then [(".", .folder []), ("..", .folder [])] else []
    let all := dots ++ seen
    let ordered := if switches.has 'r' then all.reverse else all
    let mark (entry : Entry) : String :=
      if switches.has 'F' then entryMark entry
      else if switches.has 'p' && isFolderEntry entry then "/"
      else ""
    let heading :=
      if !hasHeadings then []
      else if isFirst then [path ++ ":"]
      else ["", path ++ ":"]
    let within : List (String × Folder) :=
      if !switches.has 'R' then []
      else
        (if switches.has 'r' then seen.reverse else seen).filterMap fun entry =>
          match entry.2 with
          | .folder entries => some (pathIn path entry.1, entries)
          | _ => none
    heading ++ (ordered.map fun entry => entry.1 ++ mark entry.2) ++
      listFolders switches hasHeadings bound false (within ++ later)

/-- The names in folders, in the order of their characters, and the names of files. -/
def listed (bench : Bench) (arguments : List String) : Deed :=
  let usage : Usage :=
    { tool := "ls", flags := "1aAdFpRrStUcfgGhHikLlmnNoqQsuvxXCbB", valued := "ITw", status := 2,
      long := [("--all", 'a'), ("--almost-all", 'A'), ("--directory", 'd'), ("--classify", 'F'),
        ("--recursive", 'R'), ("--reverse", 'r'), ("--color", '1')] }
  usage.with bench arguments fun switches =>
    let files := bench.files
    let paths := switches.operandsOr ["."]
    let ordered := paths.mergeSort fun first second => first ≤ second
    let failed := paths.foldl
      (fun deed path =>
        match entryAt files path with
        | .ok _ => deed
        | .error failure =>
          deed.fail ("ls: cannot access " ++ quoted path ++ ": " ++ failure.reason) 2)
      (Deed.idle bench 0)
    let folderOf (path : String) : Option (String × Folder) :=
      if switches.has 'd' then none
      else ((files.entries path).toOption).map fun entries => (path, entries)
    let there := ordered.filter fun path => (entryAt files path).isOk
    let single := there.filter fun path => (folderOf path).isNone
    let folders := (if switches.has 'r' then there.reverse else there).filterMap folderOf
    let mark (path : String) : String :=
      match entryAt files path with
      | .ok entry =>
        if switches.has 'F' then entryMark entry
        else if switches.has 'p' && isFolderEntry entry then "/"
        else ""
      | .error _ => ""
    let names := (if switches.has 'r' then single.reverse else single).map fun path =>
      path ++ mark path
    let hasHeadings := 1 < paths.length || switches.has 'R'
    let lines := names ++
      listFolders switches hasHeadings (Nat.pow 2 16) names.isEmpty folders
    if switches.has 'm' then
      if lines.isEmpty then failed else failed.sayLine (Text.joinWith ", " lines)
    else failed.say (Text.rawBytes (String.join (lines.map (· ++ "\n"))))

/-- The absolute path of a place. -/
def pathOfPlace (place : List String) : String := "/" ++ Text.joinWith "/" place

/-- The absolute path to which a path leads, without links. What is at its end need not be there
unless it must be. -/
def resolvedPath (files : FileTree) (mustExist : Bool) (path : String) :
    Except IoFailure String := do
  match ← files.reach path with
  | .folder place => .ok (pathOfPlace place)
  | .name place name _ =>
    match (files.folderAt place).find? name with
    | none => if mustExist then .error .notFound else .ok (pathOfPlace (place ++ [name]))
    | some _ => .ok (pathOfPlace (place ++ [name]))

/-- The targets of links, or resolved paths. -/
def readLinks (bench : Bench) (arguments : List String) : Deed :=
  let usage : Usage :=
    { tool := "readlink", flags := "efmnqsvz",
      long := [("--canonicalize", 'f'), ("--canonicalize-existing", 'e'),
        ("--canonicalize-missing", 'm'), ("--no-newline", 'n')] }
  usage.with bench arguments fun switches =>
    if switches.operands.isEmpty then missingOperand bench "readlink"
    else
      let resolve (path : String) : Except IoFailure String :=
        if switches.has 'm' then
          .ok ((resolvedPath bench.files false path).toOption.getD
            (pathOfPlace (bench.files.here ++ Path.parts path)))
        else if switches.has 'f' || switches.has 'e' then
          resolvedPath bench.files (switches.has 'e') path
        else
          match bench.files.linkTarget? path, entryAt bench.files path with
          | some target, _ => .ok target
          | none, .ok _ => .error .invalidPath
          | none, .error failure => .error failure
      let ending := if switches.has 'n' && switches.operands.length = 1 then "" else "\n"
      switches.operands.foldl
        (fun deed path =>
          match resolve path with
          | .ok target => deed.say (Text.rawBytes (target ++ ending))
          | .error failure =>
            if switches.has 'v' then
              deed.fail ("readlink: " ++ shownName path ++ ": " ++ failure.reason)
            else deed.withStatus 1)
        (.idle bench 0)

/-- Resolved paths. -/
def resolvePaths (bench : Bench) (arguments : List String) : Deed :=
  let usage : Usage := { tool := "realpath", flags := "eLmPqsz" }
  usage.with bench arguments fun switches =>
    if switches.operands.isEmpty then missingOperand bench "realpath"
    else
      switches.operands.foldl
        (fun deed path =>
          match resolvedPath bench.files (switches.has 'e') path with
          | .ok target => deed.sayLine target
          | .error failure =>
            if switches.has 'm' then
              deed.sayLine (pathOfPlace (bench.files.here ++ Path.parts path))
            else deed.fail ("realpath: " ++ shownName path ++ ": " ++ failure.reason))
        (.idle bench 0)

/-- What a format of properties writes for an entry. -/
def describeEntry (path : String) (entry : Entry) : List Char → List Char
  | '%' :: letter :: rest =>
    let size :=
      match entry with
      | .file content _ => content.length
      | .link target => target.length
      | _ => 4096
    let text :=
      match letter, entry with
      | 'n', _ => path
      | 's', _ => toString size
      | 'F', .file [] _ => "regular empty file"
      | 'F', .file _ _ => "regular file"
      | 'F', .folder _ => "directory"
      | 'F', .link _ => "symbolic link"
      | 'F', .device _ => "character special file"
      | 'a', .file _ isProgram => if isProgram then "755" else "644"
      | 'a', .folder _ => "755"
      | 'a', .link _ => "777"
      | 'a', .device _ => "666"
      | 'A', .file _ isProgram => if isProgram then "-rwxr-xr-x" else "-rw-r--r--"
      | 'A', .folder _ => "drwxr-xr-x"
      | 'A', .link _ => "lrwxrwxrwx"
      | 'U', _ | 'G', _ => "root"
      | 'u', _ | 'g', _ => "0"
      | 'h', _ => "1"
      | '%', _ => "%"
      | _, _ => "?"
    text.toList ++ describeEntry path entry rest
  | char :: rest => char :: describeEntry path entry rest
  | [] => []

/-- Properties of files. -/
def describeFiles (bench : Bench) (arguments : List String) : Deed :=
  let usage : Usage :=
    { tool := "stat", flags := "fLt", valued := "c",
      long := [("--format", 'c'), ("--dereference", 'L')] }
  usage.with bench arguments fun switches =>
    if switches.operands.isEmpty then missingOperand bench "stat"
    else
      switches.operands.foldl
        (fun deed path =>
          match (if switches.has 'L' then entryBehind else entryAt) bench.files path with
          | .ok entry =>
            deed.sayLine (String.ofList
              (describeEntry path entry ((switches.value? 'c').getD "%n").toList))
          | .error failure =>
            deed.fail ("stat: cannot statx " ++ quoted path ++ ": " ++ failure.reason))
        (.idle bench 0)

/-- The last parts of paths. -/
def baseNames (bench : Bench) (arguments : List String) : Deed :=
  let usage : Usage :=
    { tool := "basename", flags := "az", valued := "s", permutes := false,
      long := [("--multiple", 'a'), ("--suffix", 's'), ("--zero", 'z')] }
  usage.with bench arguments fun switches =>
    let ending := if switches.has 'z' then "\x00" else "\n"
    let tell (deed : Deed) (name : String) : Deed := deed.say (Text.rawBytes (name ++ ending))
    if switches.operands.isEmpty then missingOperand bench "basename"
    else if switches.has 'a' || switches.has 's' then
      switches.operands.foldl
        (fun deed path => tell deed (baseName path ((switches.value? 's').getD "")))
        (.idle bench 0)
    else
      match switches.operands with
      | _ :: _ :: extra :: _ => extraOperand bench "basename" extra
      | path :: rest => tell (.idle bench 0) (baseName path (rest.head?.getD ""))
      | [] => missingOperand bench "basename"

/-- Paths without their last parts. -/
def folderNames (bench : Bench) (arguments : List String) : Deed :=
  let usage : Usage := { tool := "dirname", flags := "z" }
  usage.with bench arguments fun switches =>
    if switches.operands.isEmpty then missingOperand bench "dirname"
    else
      switches.operands.foldl (fun deed path => deed.sayLine (folderName path)) (.idle bench 0)

/-- A new file or folder with a name that nothing else has. -/
def makeTemporary (bench : Bench) (arguments : List String) : Deed :=
  let usage : Usage :=
    { tool := "mktemp", flags := "dqtu", valued := "p",
      long := [("--directory", 'd'), ("--dry-run", 'u'), ("--quiet", 'q'), ("--tmpdir", 'p'),
        ("--suffix", 's')] }
  usage.with bench arguments fun switches =>
    let template := switches.operands.head?.getD "tmp.XXXXXXXXXX"
    let ending := (switches.value? 's').getD ""
    let front := template.toList.reverse.dropWhile (· = 'X')
    let count := template.length - front.length
    let isPlaced := switches.operands.isEmpty || switches.has 'p' || switches.has 't'
    let folder := (switches.value? 'p').getD ((bench.setting? "TMPDIR").getD "/tmp")
    if count < 3 then .refused bench ("mktemp: too few X's in template " ++ quoted template)
    else
      let nameOf (number : Nat) : String :=
        String.ofList (front.reverse ++ Text.paddedDigits count number) ++ ending
      let pathOf (number : Nat) : String :=
        if isPlaced then pathIn folder (nameOf number) else nameOf number
      let free := ((List.range 1000).find? fun number =>
        !(entryAt bench.files (pathOf number)).isOk).getD 0
      let path := pathOf free
      let entry := if switches.has 'd' then Entry.folder [] else .file [] false
      let kind := if switches.has 'd' then "directory" else "file"
      if switches.has 'u' then (Deed.idle bench 0).sayLine path
      else
        match putEntry bench.files path entry with
        | .ok files => ((Deed.idle bench 0).withFiles files).sayLine path
        | .error failure =>
          let shown := if isPlaced then pathIn folder template else template
          .refused bench ("mktemp: failed to create " ++ kind ++ " via template " ++
            quoted shown ++ ": " ++ failure.reason)

end ShapeScene.Script
