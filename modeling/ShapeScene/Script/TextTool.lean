import ShapeScene.Script.Lines

/-!
# Tools for text

The tools that pass on what they read: all of it, its front or back, its lines in another order,
or how much it is.
-/

namespace ShapeScene.Script

/-! ## All of it -/

/-- How a byte is shown in print. -/
def shownByte (showsTabs : Bool) (byte : UInt8) : List UInt8 :=
  let low (byte : UInt8) : List UInt8 :=
    if byte < 32 then [94, byte + 64] else if byte = 127 then [94, 63] else [byte]
  if byte = 10 then [byte]
  else if byte = 9 then if showsTabs then [94, 73] else [byte]
  else if byte < 128 then low byte
  else [77, 45] ++ low (byte - 128)

/-- How lines are shown. -/
structure LineManner where
  /-- Whether lines have numbers. -/
  hasNumbers : Bool
  /-- Whether empty lines have none. -/
  skipsEmpty : Bool
  /-- Whether empty lines follow each other only once. -/
  squeezes : Bool
  /-- Whether the end of a line is shown. -/
  showsEnds : Bool
  /-- Whether tabs are shown. -/
  showsTabs : Bool
  /-- Whether bytes that cannot be seen are shown. -/
  showsBytes : Bool
deriving DecidableEq, Repr

namespace LineManner

/-- Whether lines are shown as they are. -/
def isPlain (manner : LineManner) : Bool :=
  !(manner.hasNumbers || manner.squeezes || manner.showsEnds || manner.showsTabs ||
    manner.showsBytes)

/-- A line as it is shown; `number` is its number if it has one. -/
def shown (manner : LineManner) (number : Option Nat) (line : List UInt8) : List UInt8 :=
  let display (byte : UInt8) : List UInt8 :=
    if byte = 10 then (if manner.showsEnds then [36, 10] else [10])
    else if manner.showsBytes then shownByte manner.showsTabs byte
    else if byte = 9 && manner.showsTabs then [94, 73]
    else [byte]
  let mark := number.elim "" fun number => rightAligned 6 number ++ "\t"
  Text.rawBytes mark ++ line.flatMap display

end LineManner

/-- What was shown so far. -/
structure Shown where
  /-- The number of the last line. -/
  number : Nat := 0
  /-- The number of empty lines at the end. -/
  emptyLines : Nat := 0
  /-- Whether the last line has no end yet. -/
  isOpen : Bool := false

/-- The lines of some bytes as they are shown behind others. -/
def LineManner.showAll (manner : LineManner) : List (List UInt8) → Shown →
    List UInt8 × Shown
  | [], shown => ([], shown)
  | line :: lines, before =>
    let isEmpty := line = [10] && !before.isOpen
    let emptyLines := if isEmpty then before.emptyLines + 1 else 0
    let after := { before with emptyLines := emptyLines, isOpen := line.getLast? ≠ some 10 }
    if manner.squeezes && 2 ≤ emptyLines then showAll manner lines after
    else
      let counts := manner.hasNumbers && !(manner.skipsEmpty && isEmpty) && !before.isOpen
      let number := if counts then before.number + 1 else before.number
      let (later, last) := showAll manner lines { after with number := number }
      (manner.shown (if counts then some number else none) line ++ later, last)

/-- The bytes of paths one after another. A path that cannot be read is passed over with a message.
-/
def concatenateAll (manner : LineManner) : List String → Shown → Deed → Deed
  | [], _, deed => deed
  | path :: paths, shown, deed =>
    match deed.read path with
    | (.ok content, deed) =>
      if manner.isPlain then concatenateAll manner paths shown (deed.say content)
      else
        let (written, shown) := manner.showAll (linesOf content) shown
        concatenateAll manner paths shown (deed.say written)
    | (.error failure, deed) =>
      let failed := deed.fail ("cat: " ++ shownName path ++ ": " ++ failure.reason)
      concatenateAll manner paths shown
        (if failure = .notOpen then
          failed.fail ("cat: closing standard input: " ++ failure.reason)
        else failed)

/-- The bytes of all paths, or of the input. -/
def concatenate (bench : Bench) (arguments : List String) : Deed :=
  let usage : Usage :=
    { tool := "cat", flags := "AbeEnstTuv",
      long := [("--show-all", 'A'), ("--number-nonblank", 'b'), ("--show-ends", 'E'),
        ("--number", 'n'), ("--squeeze-blank", 's'), ("--show-tabs", 'T'),
        ("--show-nonprinting", 'v')] }
  usage.with bench arguments fun switches =>
    let anyOf (letters : String) : Bool := letters.toList.any switches.has
    let manner : LineManner :=
      { hasNumbers := anyOf "nb", skipsEmpty := switches.has 'b', squeezes := switches.has 's',
        showsEnds := anyOf "AeE", showsTabs := anyOf "AtT", showsBytes := anyOf "Aetv" }
    concatenateAll manner (switches.operandsOr ["-"]) {} (.idle bench 0)

/-- The input copied to the output and to files. -/
def copyInput (bench : Bench) (arguments : List String) : Deed :=
  let usage : Usage :=
    { tool := "tee", flags := "aip", long := [("--append", 'a'), ("--ignore-interrupts", 'i')] }
  usage.with bench arguments fun switches =>
    let (content, bench) := bench.read "-"
    let bytes := content.toOption.getD []
    let opened :=
      match content with
      | .ok _ => Deed.said bench bytes
      | .error failure => Deed.refused bench ("tee: read error: " ++ failure.reason)
    switches.operands.foldl
      (fun deed path =>
        let before :=
          if switches.has 'a' then ((deed.bench.files.read path).toOption).getD [] else []
        match deed.write path (before ++ bytes) with
        | .ok written => written
        | .error failure => deed.fail ("tee: " ++ shownName path ++ ": " ++ failure.reason))
      opened

/-! ## Front and back -/

/-- A part of lines or bytes. -/
structure Portion where
  /-- The number of lines or bytes. -/
  count : Nat := 10
  /-- Whether bytes are counted. -/
  isBytes : Bool := false
  /-- Whether the number counts from the other side, and says what is left out. -/
  isRest : Bool := false
  /-- Whether lines end in zeros. -/
  hasZeros : Bool := false
deriving DecidableEq, Repr

/-- Number of bytes that are read at once from what cannot be read again. -/
def blockSize : Nat := 8192

namespace Portion

/-- The end of a line. -/
def ending (portion : Portion) : UInt8 := if portion.hasZeros then 0 else 10

/-- The front of a source, and what is left of it. -/
def front (portion : Portion) (source : Source) : List UInt8 × Source :=
  if portion.isBytes then
    if portion.isRest then (dropLasts portion.count source.all, source.drained)
    else source.take portion.count
  else if portion.isRest then
    ((dropLasts portion.count (linesOf source.all portion.ending)).flatten, source.drained)
  else
    let taken := ((linesOf source.all portion.ending).take portion.count).flatten
    let size :=
      match source with
      | .bytes _ true => taken.length
      | _ => (taken.length + blockSize - 1) / blockSize * blockSize
    (taken, (source.take size).2)

/-- Whether the front of a source has no end. -/
def isStuckAtFront (portion : Portion) (source : Source) : Bool :=
  source.isEndless && (portion.isRest ||
    (!portion.isBytes && (linesOf source.all portion.ending).length ≤ portion.count))

/-- The back of some bytes. -/
def back (portion : Portion) (content : List UInt8) : List UInt8 :=
  if portion.isBytes then
    if portion.isRest then content.drop (portion.count - 1) else takeLast portion.count content
  else
    let lines := linesOf content portion.ending
    (if portion.isRest then lines.drop (portion.count - 1)
      else takeLast portion.count lines).flatten

end Portion

/-- The portion that the value of an option is, or none if it is no number. `mark` is the sign in
front of a number that says what is left out. -/
def Portion.ofValue? (mark : Char) (isBytes : Bool) (value : String) : Option Portion :=
  match value.toList with
  | sign :: digits =>
    if sign = mark then
      (count? digits).map fun count => { count := count, isBytes := isBytes, isRest := true }
    else if sign = '-' ∨ sign = '+' then
      (count? digits).map fun count => { count := count, isBytes := isBytes }
    else (count? (sign :: digits)).map fun count => { count := count, isBytes := isBytes }
  | [] => none

/-- The arguments with a number in the first one written as an option. -/
def withoutShortCount (mark : Char) : List String → List String
  | first :: rest =>
    match first.toList with
    | sign :: digit :: others =>
      if (sign = '-' ∨ sign = mark) ∧ Text.isDigit digit then
        let (digits, letters) := (digit :: others).span Text.isDigit
        let number := String.ofList (if sign = '-' then digits else sign :: digits)
        let unit := if letters.contains 'c' then "-c" else "-n"
        unit :: number ::
          (letters.filter "qvz".toList.contains).map (fun letter => String.ofList ['-', letter]) ++
          rest
      else first :: rest
    | _ => first :: rest
  | [] => []

/-- The name of a source in a heading. -/
def headingName (path : String) : String := if path = "-" then "standard input" else path

/-- The parts of several sources, each below a heading if there are several. -/
def portions (tool : String) (hasHeadings : Bool)
    (part : String → Deed → Except IoFailure Unit × Deed) :
    (isFirst : Bool) → List String → Deed → Deed
  | _, [], deed => deed
  | isFirst, path :: paths, deed =>
    let shown := if path = "-" then "'standard input'" else quoted path
    match deed.bench.source path with
    | .error failure =>
      portions tool hasHeadings part isFirst paths
        (deed.fail (tool ++ ": cannot open " ++ shown ++ " for reading: " ++ failure.reason))
    | .ok _ =>
      let heading := (if isFirst then "" else "\n") ++ "==> " ++ headingName path ++ " <==\n"
      let headed := if hasHeadings then deed.say (Text.rawBytes heading) else deed
      match part path headed with
      | (.ok (), after) => portions tool hasHeadings part false paths after
      | (.error .notOpen, after) =>
        let action := if tool = "tail" then "cannot fstat " else "error reading "
        portions tool hasHeadings part false paths
          ((after.fail (tool ++ ": " ++ action ++ shown ++ ": " ++ IoFailure.notOpen.reason)).fail
            (tool ++ ": -: " ++ IoFailure.notOpen.reason))
      | (.error failure, after) =>
        portions tool hasHeadings part false paths
          (after.fail (tool ++ ": error reading " ++ shown ++ ": " ++ failure.reason))

/-- The deed of a tool for the front or the back of sources. -/
def portioned (bench : Bench) (tool : String) (mark : Char) (arguments : List String)
    (part : Portion → Bool → String → Deed → Except IoFailure Unit × Deed) : Deed :=
  let usage : Usage :=
    { tool := tool, flags := "qvzfF", valued := "nc"
      long := [("--lines", 'n'), ("--bytes", 'c'), ("--quiet", 'q'), ("--silent", 'q'),
        ("--verbose", 'v'), ("--zero-terminated", 'z'), ("--follow", 'f')] }
  usage.with bench (withoutShortCount mark arguments) fun switches =>
    let wanted := switches.options.filter fun option => option.1 = 'n' || option.1 = 'c'
    let read (option : Char × String) : Option Portion :=
      Portion.ofValue? mark (option.1 = 'c') option.2
    match wanted.find? fun option => (read option).isNone with
    | some (letter, value) =>
      .refused bench (tool ++ ": invalid number of " ++
        (if letter = 'c' then "bytes" else "lines") ++ ": " ++ quoted value)
    | none =>
      let portion := ((wanted.getLast?).bind read).getD {}
      let paths := switches.operandsOr ["-"]
      let hasHeadings :=
        match switches.lastOf "qv" with
        | some letter => letter == 'v'
        | none => 1 < paths.length
      portions tool hasHeadings
        (part { portion with hasZeros := switches.has 'z' } (switches.has 'f')) true paths
        (.idle bench 0)

/-- The front of sources: ten lines, or what an option says. -/
def front (bench : Bench) (arguments : List String) : Deed :=
  portioned bench "head" '-' arguments fun portion _ path deed =>
    match deed.bench.source path with
    | .ok source =>
      let (taken, left) := portion.front source
      let after := { deed with bench := deed.bench.leave path left }.say taken
      (source.content.map fun _ => (),
        if portion.isStuckAtFront source then after.stuck else after)
    | .error failure => (.error failure, deed)

/-- The back of sources: ten lines, or what an option says. -/
def back (bench : Bench) (arguments : List String) : Deed :=
  portioned bench "tail" '+' arguments fun portion follows path deed =>
    match deed.read path with
    | (.ok content, after) =>
      let said := after.say (portion.back content)
      (.ok (), if follows then said.stuck else said)
    | (.error failure, after) => (.error failure, after)

/-! ## How much it is -/

/-- The numbers that can be asked for, by the letters of their switches. -/
def measures (content : List UInt8) : List (Char × Nat) :=
  [('l', content.count 10), ('w', wordCount content), ('m', content.length),
    ('c', content.length), ('L', lineWidth content)]

/-- The numbers of two contents taken together. -/
def addMeasures (first second : List (Char × Nat)) : List (Char × Nat) :=
  first.zipWith
    (fun left right =>
      (left.1, if left.1 = 'L' then max left.2 right.2 else left.2 + right.2))
    second

/-- What is counted of a path: its name, its numbers if it has some, and why it has none. -/
structure Counted where
  /-- The path. -/
  path : Option String
  /-- The numbers. -/
  measures : Option (List (Char × Nat))
  /-- The message. -/
  complaint : Option String

/-- The numbers of lines, words and bytes that switches ask for, or all three. -/
def counted (bench : Bench) (arguments : List String) : Deed :=
  let usage : Usage :=
    { tool := "wc", flags := "clmwL",
      long := [("--bytes", 'c'), ("--chars", 'm'), ("--lines", 'l'), ("--words", 'w'),
        ("--max-line-length", 'L')] }
  usage.with bench arguments fun switches =>
    let paths : List (Option String) :=
      if switches.operands.isEmpty then [none] else switches.operands.map some
    let asked := "lwmcL".toList.filter fun letter =>
      if switches.options.isEmpty then "lwc".toList.contains letter else switches.has letter
    let (entries, deed) := paths.foldl
      (fun (entries, deed) path =>
        let source := deed.bench.source (path.getD "-")
        let name := if path.isNone then "'standard input'" else shownName (path.getD "")
        let complaint (failure : IoFailure) : Option String :=
          some ("wc: " ++ name ++ ": " ++ failure.reason)
        match deed.read (path.getD "-") with
        | (.ok content, after) =>
          (entries ++ [(⟨path, some (measures content), none⟩ : Counted)], after)
        | (.error failure, after) =>
          let numbers := if source.isOk then some (measures []) else none
          (entries ++ [(⟨path, numbers, complaint failure⟩ : Counted)], after))
      (([] : List Counted), Deed.idle bench 0)
    let total := (entries.filterMap Counted.measures).foldl addMeasures (measures [])
    let isPlain (path : Option String) : Bool :=
      match path with
      | none => match bench.input with | .bytes _ isFile => isFile | _ => false
      | some path =>
        if path = "-" then match bench.input with | .bytes _ isFile => isFile | _ => false
        else bench.files.isFile path || !hasEntry bench.files path
    let size := ((total.find? fun entry => entry.1 == 'c').map (·.2)).getD 0
    let width :=
      if asked.length = 1 ∧ paths.length = 1 then 1
      else if paths.all isPlain then (Nat.toDigits 10 size).length
      else 7
    let line (numbers : List (Char × Nat)) (path : Option String) : String :=
      Text.joinWith " " ((numbers.filter fun entry => asked.contains entry.1).map fun entry =>
        rightAligned width entry.2) ++ path.elim "" (" " ++ ·)
    let told := entries.foldl
      (fun (deed : Deed) entry =>
        let warned := entry.complaint.elim deed deed.fail
        entry.measures.elim warned fun numbers => warned.sayLine (line numbers entry.path))
      deed
    let summed := if 1 < paths.length then told.sayLine (line total (some "total")) else told
    match bench.input, paths with
    | .closed, [none] => summed.fail ("wc: -: " ++ IoFailure.notOpen.reason)
    | _, _ => summed

/-! ## In another order -/

/-- The deed of a tool that makes something of each source on its own. -/
def eachSource (bench : Bench) (paths : List String)
    (refuse : String → IoFailure → String) (make : List UInt8 → List UInt8) : Deed :=
  paths.foldl
    (fun deed path =>
      match deed.read path with
      | (.ok content, after) => after.say (make content)
      | (.error failure, after) => after.fail (refuse path failure))
    (.idle bench 0)

/-- The lines of sources, the last one first. -/
def reversedLines (bench : Bench) (arguments : List String) : Deed :=
  let usage : Usage := { tool := "tac", flags := "br", valued := "s" }
  usage.with bench arguments fun switches =>
    let refuse (path : String) (failure : IoFailure) : String :=
      let name := if path = "-" then "'standard input'" else shownName path
      match failure with
      | .isFolder => "tac: " ++ name ++ ": read error: Invalid argument"
      | .notOpen => "tac: " ++ name ++ ": read error: " ++ failure.reason
      | failure => "tac: failed to open " ++ quoted path ++ " for reading: " ++ failure.reason
    eachSource bench (switches.operandsOr ["-"]) refuse fun content =>
      (linesOf content).reverse.flatten

/-- The lines of sources, each with its bytes backwards. -/
def reversedBytes (bench : Bench) (arguments : List String) : Deed :=
  let usage : Usage := { tool := "rev" }
  usage.with bench arguments fun switches =>
    let refuse (path : String) (failure : IoFailure) : String :=
      "rev: cannot open " ++ path ++ ": " ++ failure.reason
    eachSource bench (switches.operandsOr ["-"]) refuse fun content =>
      (linesOf content).flatMap fun line =>
        (bareLine line).reverse ++ line.drop (bareLine line).length

/-- The lines of sources with numbers. -/
def numberedLines (bench : Bench) (arguments : List String) : Deed :=
  let usage : Usage := { tool := "nl", flags := "p", valued := "bdfhilnsvw" }
  usage.with bench arguments fun switches =>
    let text (letter : Char) (default : String) : String := (switches.value? letter).getD default
    let number (letter : Char) (default : Nat) : Nat :=
      (count? (text letter "").toList).getD default
    let (content, deed) := (switches.operandsOr ["-"]).foldl
      (fun (content, deed) path =>
        match deed.read path with
        | (.ok more, after) => (content ++ more, after)
        | (.error failure, after) =>
          (content, after.fail ("nl: " ++ shownName path ++ ": " ++ failure.reason)))
      (([] : List UInt8), Deed.idle bench 0)
    let width := number 'w' 6
    let mark (value : Nat) : String :=
      match text 'n' "rn" with
      | "ln" =>
        let digits := toString value
        digits ++ String.ofList (List.replicate (width - digits.length) ' ')
      | "rz" => String.ofList (Text.paddedDigits width value)
      | _ => rightAligned width value
    let separator := text 's' "\t"
    let blanks := String.ofList (List.replicate (width + separator.length) ' ')
    let (written, _) := (linesOf content).foldl
      (fun (written, value) line =>
        let isCounted := text 'b' "t" = "a" || (text 'b' "t" ≠ "n" && !(bareLine line).isEmpty)
        if isCounted then
          (written ++ Text.rawBytes (mark value ++ separator) ++ endedLine line,
            value + number 'i' 1)
        else (written ++ Text.rawBytes blanks ++ endedLine line, value))
      (([] : List UInt8), number 'v' 1)
    deed.say written

end ShapeScene.Script
