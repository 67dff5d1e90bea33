import ShapeScene.Script.Lines

/-!
# Columns

Tools that take columns out of lines, put lines side by side, and break lines at a width.
-/

namespace ShapeScene.Script

/-! ## Taking columns -/

/-- Columns by their numbers: from one to another, or to the end. -/
structure ColumnRange where
  /-- The first column. -/
  first : Nat
  /-- The last one. -/
  last : Option Nat
deriving DecidableEq, Repr

/-- Whether a column is in one of some ranges. -/
def inColumns (ranges : List ColumnRange) (column : Nat) : Bool :=
  ranges.any fun range => range.first ≤ column && range.last.all (column ≤ ·)

/-- The range that a text describes. `isField` says how messages call the columns. -/
def columnRange (isField : Bool) (text : List Char) : Except String ColumnRange :=
  let zero :=
    if isField then "fields are numbered from 1"
    else "byte/character positions are numbered from 1"
  let number (digits : List Char) : Except String Nat :=
    if digits.all Text.isDigit then
      let value := Text.decimalValue digits
      if value = 0 then .error zero else .ok value
    else
      .error ("invalid " ++ (if isField then "field value " else "byte/character position ") ++
        quoted (String.ofList (digits.dropWhile Text.isDigit)))
  match text.span (· ≠ '-') with
  | ([], []) => .error zero
  | (digits, []) => (number digits).map fun value => ⟨value, some value⟩
  | (front, _ :: back) => do
    if front.isEmpty && back.isEmpty then .error "invalid range with no endpoint: -"
    else
      let first ← if front.isEmpty then .ok 1 else number front
      if back.isEmpty then .ok ⟨first, none⟩
      else
        let last ← number back
        if last < first then .error "invalid decreasing range" else .ok ⟨first, some last⟩

/-- The parts of a list between commas or blanks. -/
def listParts (chars : List Char) : List (List Char) :=
  chars.foldr
    (fun char parts =>
      if char = ',' ∨ char = ' ' ∨ char = '\t' then [] :: parts
      else
        match parts with
        | part :: parts => (char :: part) :: parts
        | [] => [[char]])
    [[]]

/-- The ranges of a list. -/
def columnRanges (isField : Bool) (list : String) : Except String (List ColumnRange) :=
  (listParts list.toList).mapM (columnRange isField)

/-- The columns of a line that a tool takes. -/
structure ColumnManner where
  /-- Whether a column is taken. -/
  takes : Nat → Bool
  /-- What divides fields; bytes are columns if nothing does. -/
  divider : Option UInt8
  /-- What stands between the fields that were taken. -/
  between : Option (List UInt8)
  /-- Whether lines without a divider are left out. -/
  onlyDivided : Bool

/-- Lists with another one between them. -/
def joinedBytes (between : List UInt8) (parts : List (List UInt8)) : List UInt8 :=
  between.intercalate parts

/-- Some bytes as runs of columns that are taken, with what a tool puts between runs. -/
def runsOf (takes : Nat → Bool) (content : List UInt8) : List (List UInt8) :=
  let marked := content.mapIdx fun index byte => (takes (index + 1), byte)
  let groups := marked.splitBy fun first second => first.1 == second.1
  (groups.filter fun group => (group.head?.map (·.1)).getD false).map fun group => group.map (·.2)

/-- The columns of a line. -/
def ColumnManner.columns (manner : ColumnManner) (line : List UInt8) : Option (List UInt8) :=
  match manner.divider with
  | none =>
    some (match manner.between with
      | some between => joinedBytes between (runsOf manner.takes line)
      | none => (runsOf manner.takes line).flatten)
  | some divider =>
    let fields := line.splitOn divider
    if fields.length = 1 then if manner.onlyDivided then none else some line
    else
      let taken := (fields.mapIdx fun index field => (manner.takes (index + 1), field)).filter (·.1)
      some (joinedBytes (manner.between.getD [divider]) (taken.map (·.2)))

/-- The lines of sources with some of their columns only. -/
def takeColumns (bench : Bench) (arguments : List String) : Deed :=
  let usage : Usage :=
    { tool := "cut", flags := "nszC", valued := "bcfdO",
      long := [("--bytes", 'b'), ("--characters", 'c'), ("--fields", 'f'), ("--delimiter", 'd'),
        ("--only-delimited", 's'), ("--output-delimiter", 'O'), ("--complement", 'C'),
        ("--zero-terminated", 'z')] }
  usage.with bench arguments fun switches =>
    let lists := switches.options.filter fun option => "bcf".toList.contains option.1
    let refuse (message : String) : Deed := misused bench "cut" message
    match lists, (switches.value? 'd').map Text.rawBytes with
    | [], _ => refuse "you must specify a list of bytes, characters, or fields"
    | _ :: _ :: _, _ => refuse "only one list may be specified"
    | [(letter, list)], divider =>
      let isField := letter == 'f'
      if 1 < (divider.getD []).length then refuse "the delimiter must be a single character"
      else if divider.isSome && !isField then
        refuse "an input delimiter may be specified only when operating on fields"
      else if switches.has 's' && !isField then
        refuse "suppressing non-delimited lines makes sense\n\tonly when operating on fields"
      else
        match columnRanges isField list with
        | .error message => refuse message
        | .ok ranges =>
          let ending : UInt8 := if switches.has 'z' then 0 else 10
          let manner : ColumnManner :=
            { takes := fun column => inColumns ranges column != switches.has 'C'
              divider := if isField then some (((divider.getD [9]).head?).getD 0) else none
              between := (switches.value? 'O').map Text.rawBytes
              onlyDivided := switches.has 's' }
          let shown (line : List UInt8) : List UInt8 :=
            let bare := if line.getLast? = some ending then line.dropLast else line
            ((manner.columns bare).map (· ++ [ending])).getD []
          (switches.operandsOr ["-"]).foldl
            (fun deed path =>
              match deed.read path with
              | (.ok content, after) => after.say ((linesOf content ending).flatMap shown)
              | (.error failure, after) =>
                let complaint := "cut: " ++ shownName path ++ ": " ++ failure.reason
                let failed := after.fail complaint
                if failure = .notOpen then failed.fail complaint else failed)
            (.idle bench 0)

/-! ## Lines side by side -/

/-- The dividers that a list of characters with escapes stands for; one may be empty. -/
def dividersOf : List Char → List (List UInt8)
  | [] => []
  | '\\' :: char :: rest =>
    let divider : List UInt8 :=
      match char with
      | '0' => []
      | 'n' => [10]
      | 't' => [9]
      | 'b' => [8]
      | 'f' => [12]
      | 'r' => [13]
      | 'v' => [11]
      | char => [UInt8.ofNat char.toNat]
    divider :: dividersOf rest
  | char :: rest => [UInt8.ofNat char.toNat] :: dividersOf rest

/-- Parts with dividers between them that come in turn. -/
def divided (dividers : List (List UInt8)) : (index : Nat) → List (List UInt8) → List UInt8
  | _, [] => []
  | _, [last] => last
  | index, part :: parts =>
    part ++ (dividers[index % dividers.length]?).getD [] ++ divided dividers (index + 1) parts

/-- Rows of lines that are taken from sources in turn. A source without an own list takes from the
shared one. -/
def rowsOf : (bound : Nat) → (shared : List (List UInt8)) →
    (sources : List (Option (List (List UInt8)))) → List (List (List UInt8))
  | 0, _, _ => []
  | bound + 1, shared, sources =>
    let (row, sources, shared) := sources.foldl
      (fun (row, later, shared) source =>
        match source, shared with
        | some [], _ => (row ++ [none], later ++ [some []], shared)
        | some (line :: lines), _ => (row ++ [some line], later ++ [some lines], shared)
        | none, [] => (row ++ [none], later ++ [none], [])
        | none, line :: lines => (row ++ [some line], later ++ [none], lines))
      (([], [], shared) :
        List (Option (List UInt8)) × List (Option (List (List UInt8))) × List (List UInt8))
    if row.all Option.isNone then []
    else row.map (fun line => line.getD []) :: rowsOf bound shared sources

/-- The lines of sources side by side, or those of each source in one line. -/
def pasteLines (bench : Bench) (arguments : List String) : Deed :=
  let usage : Usage :=
    { tool := "paste", flags := "sz", valued := "d",
      long := [("--serial", 's'), ("--delimiters", 'd'), ("--zero-terminated", 'z')] }
  usage.with bench arguments fun switches =>
    let ending : UInt8 := if switches.has 'z' then 0 else 10
    let given := dividersOf ((switches.value? 'd').getD "\t").toList
    let dividers := if given.isEmpty then [[]] else given
    let bare (content : List UInt8) : List (List UInt8) :=
      (linesOf content ending).map fun line =>
        if line.getLast? = some ending then line.dropLast else line
    let complaint (path : String) (failure : IoFailure) : String :=
      "paste: " ++ shownName path ++ ": " ++ failure.reason
    if switches.has 's' then
      (switches.operandsOr ["-"]).foldl
        (fun deed path =>
          match deed.read path with
          | (.ok content, after) => after.say (divided dividers 0 (bare content) ++ [ending])
          | (.error failure, after) => after.fail (complaint path failure))
        (.idle bench 0)
    else
      let paths := switches.operandsOr ["-"]
      let (sources, shared, deed) := paths.foldl
        (fun (sources, shared, deed) path =>
          if deed.status ≠ 0 then (sources, shared, deed)
          else
            match deed.read path with
            | (.ok content, after) =>
              if path = "-" then (sources ++ [none], shared ++ bare content, after)
              else (sources ++ [some (bare content)], shared, after)
            | (.error failure, after) => (sources, shared, after.fail (complaint path failure)))
        (([], [], .idle bench 0) :
          List (Option (List (List UInt8))) × List (List UInt8) × Deed)
      if deed.status ≠ 0 then deed
      else
        let bound := (sources.map fun source => (source.getD []).length).foldl (· + ·) shared.length
        let rows := rowsOf (bound + 1) shared sources
        deed.say (rows.flatMap fun row => divided dividers 0 row ++ [ending])

/-! ## Breaking lines -/

/-- The column behind a byte at a column. -/
def columnBehind (countsBytes : Bool) (column : Nat) (byte : UInt8) : Nat :=
  if countsBytes then column + 1
  else if byte = 8 then column - 1
  else if byte = 13 then 0
  else if byte = 9 then (column / 8 + 1) * 8
  else column + 1

/-- The pieces of a line that are no wider than a width. `reversed` is the piece that has begun. -/
def brokenLine (countsBytes breaksAtBlanks : Bool) (width : Nat) :
    (bound : Nat) → (column : Nat) → (reversed : List UInt8) → List UInt8 → List UInt8
  | 0, _, reversed, rest => reversed.reverse ++ rest
  | _, _, reversed, [] => reversed.reverse
  | bound + 1, column, reversed, byte :: rest =>
    let after := columnBehind countsBytes column byte
    let onward := brokenLine countsBytes breaksAtBlanks width bound
    if byte = 10 then (byte :: reversed).reverse ++ onward 0 [] rest
    else if after ≤ width ∨ reversed.isEmpty then onward after (byte :: reversed) rest
    else
      let behindBlank := reversed.takeWhile fun byte => byte != 32 && byte != 9
      if breaksAtBlanks && behindBlank.length < reversed.length then
        (reversed.drop behindBlank.length).reverse ++
          10 :: onward 0 [] (behindBlank.reverse ++ byte :: rest)
      else reversed.reverse ++ 10 :: onward 0 [] (byte :: rest)

/-- The lines of sources broken at a width. -/
def breakLines (bench : Bench) (arguments : List String) : Deed :=
  let usage : Usage :=
    { tool := "fold", flags := "bs", valued := "w",
      long := [("--bytes", 'b'), ("--spaces", 's'), ("--width", 'w')] }
  let settled := arguments.map fun argument =>
    match argument.toList with
    | '-' :: digit :: digits =>
      if (digit :: digits).all Text.isDigit then "-w" ++ String.ofList (digit :: digits)
      else argument
    | _ => argument
  usage.with bench settled fun switches =>
    let text := (switches.value? 'w').getD "80"
    match Text.readNatural? 1000000000 text.toList with
    | none => .refused bench ("fold: invalid number of columns: " ++ quoted text)
    | some 0 =>
      .refused bench ("fold: invalid number of columns: " ++ quoted text ++
        ": Numerical result out of range")
    | some width =>
      (switches.operandsOr ["-"]).foldl
        (fun deed path =>
          match deed.read path with
          | (.ok content, after) =>
            after.say (brokenLine (switches.has 'b') (switches.has 's') width
              (3 * content.length + 1) 0 [] content)
          | (.error failure, after) =>
            let complaint := "fold: " ++ shownName path ++ ": " ++ failure.reason
            let failed := after.fail complaint
            if failure = .notOpen then failed.fail complaint else failed)
        (.idle bench 0)

end ShapeScene.Script
