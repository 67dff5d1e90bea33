import ShapeScene.Script.Lines
import ShapeScene.Script.Pattern

/-!
# Searching in lines

The lines of sources in which patterns occur, or in which they do not.
-/

namespace ShapeScene.Script

/-- A search. -/
structure Search where
  /-- The patterns. -/
  pattern : Pattern
  /-- Whether small and capital letters are the same. -/
  ignoresCase : Bool
  /-- Whether an occurrence must be a whole word. -/
  wantsWords : Bool
  /-- Whether an occurrence must be the whole line. -/
  wantsLines : Bool
  /-- Whether the lines without an occurrence are found. -/
  isDenied : Bool

namespace Search

/-- Whether an occurrence has no character of a word beside it. -/
def isAlone (subject : Subject) (occurrence : Occurrence) : Bool :=
  !subject.isWordBefore occurrence.start && !subject.isWordAt occurrence.finish

/-- The first occurrence from a place on that is as it must be. `bound` bounds the number of those
that are passed over. -/
def occurrence? (search : Search) (subject : Subject) : (bound place : Nat) → Option Occurrence
  | 0, _ => none
  | bound + 1, place =>
    match search.pattern.occurrence? subject place with
    | none => none
    | some occurrence =>
      let suits :=
        if search.wantsLines then
          occurrence.start == 0 && occurrence.finish == subject.chars.size
        else !search.wantsWords || isAlone subject occurrence
      if suits then some occurrence
      else occurrence? search subject bound (occurrence.start + 1)

/-- The text of a line as a subject. -/
def subjectOf (search : Search) (line : List UInt8) : Subject :=
  { chars := (Text.raw (bareLine line)).toList.toArray, ignoresCase := search.ignoresCase }

/-- The first occurrence in a line from a place on. -/
def inLine? (search : Search) (subject : Subject) (place : Nat) : Option Occurrence :=
  search.occurrence? subject (subject.chars.size + 2) place

/-- Whether a line is found. -/
def finds (search : Search) (line : List UInt8) : Bool :=
  (search.inLine? (search.subjectOf line) 0).isSome != search.isDenied

/-- The parts of a line in which patterns occur, from a place on. -/
def partsFrom (search : Search) (subject : Subject) : (bound place : Nat) → List (List Char)
  | 0, _ => []
  | bound + 1, place =>
    match search.inLine? subject place with
    | none => []
    | some occurrence =>
      if occurrence.start = occurrence.finish then
        partsFrom search subject bound (occurrence.finish + 1)
      else
        subject.between occurrence.start occurrence.finish ::
          partsFrom search subject bound occurrence.finish

end Search

/-- How found lines are shown. -/
structure FoundManner where
  /-- Whether the name of the source stands in front. -/
  hasNames : Bool
  /-- Whether the number of the line stands in front. -/
  hasNumbers : Bool
  /-- Whether only the occurrences are shown. -/
  onlyParts : Bool
  /-- The number of lines in front of a found one that are shown. -/
  before : Nat
  /-- The number of lines behind a found one that are shown. -/
  behind : Nat
deriving DecidableEq, Repr

/-- The front of a shown line. -/
def FoundManner.mark (manner : FoundManner) (name : String) (number : Nat) (sign : String) :
    List UInt8 :=
  Text.rawBytes ((if manner.hasNames then name ++ sign else "") ++
    if manner.hasNumbers then toString number ++ sign else "")

/-- The found lines of a source as they are shown. `found` are all lines with whether they are
found. -/
def FoundManner.shown (manner : FoundManner) (search : Search) (name : String)
    (found : List (List UInt8 × Bool)) : List UInt8 :=
  let all := found.toArray
  let isNear (index : Nat) : Bool :=
    (List.range (manner.behind + 1)).any (fun step =>
        step ≤ index && ((all[index - step]?).map (·.2)).getD false) ||
      (List.range (manner.before + 1)).any fun step =>
        ((all[index + step]?).map (·.2)).getD false
  let hasContext := 0 < manner.before || 0 < manner.behind
  let pieces := found.mapIdx fun index (line, isFound) =>
    if isFound then
      if manner.onlyParts then
        if search.isDenied then []
        else
          let subject := search.subjectOf line
          (search.partsFrom subject (subject.chars.size + 2) 0).flatMap fun part =>
            manner.mark name (index + 1) ":" ++ Text.rawBytes (String.ofList part ++ "\n")
      else manner.mark name (index + 1) ":" ++ endedLine line
    else if hasContext && isNear index then
      manner.mark name (index + 1) "-" ++ endedLine line
    else []
  let joined := pieces.foldl
    (fun ((written, isOpen, hasGap) : List (List UInt8) × Bool × Bool) piece =>
      if piece.isEmpty then (written, false, hasGap || isOpen)
      else if hasContext && hasGap && !isOpen then
        (piece :: Text.rawBytes "--\n" :: written, true, false)
      else (piece :: written, true, false))
    ([], false, false)
  joined.1.reverse.flatten

/-- The files in folders, in the order of their names. -/
def filesUnder (files : FileTree) : (bound : Nat) → String → List String
  | 0, path => [path]
  | bound + 1, path =>
    match files.entries path with
    | .error _ => [path]
    | .ok folder =>
      (folder.mergeSort fun first second => first.1 ≤ second.1).flatMap fun entry =>
        match entry.2 with
        | .link _ | .device _ => []
        | _ => filesUnder files bound
            (if path.toList.getLast? = some '/' then path ++ entry.1 else path ++ "/" ++ entry.1)

/-- The deed after a source was searched, with the number of lines found. -/
def searchSource (switches : Switches) (search : Search) (manner : FoundManner)
    (path : String) (deed : Deed) : Nat × Deed :=
  let name := if path = "-" then "(standard input)" else path
  match deed.read path with
  | (.error failure, after) =>
    let told :=
      if switches.has 's' then after.withStatus (max after.status 2)
      else after.fail ("grep: " ++ name ++ ": " ++ failure.reason) 2
    (0, told)
  | (.ok content, after) =>
    let marked := (linesOf content).map fun line => (line, search.finds line)
    let limit := ((switches.value? 'm').bind fun text => count? text.toList).getD marked.length
    let (limited, _) := marked.foldl
      (fun ((kept, count) : List (List UInt8 × Bool) × Nat) (line, isFound) =>
        if limit ≤ count then ((line, false) :: kept, count)
        else ((line, isFound) :: kept, if isFound then count + 1 else count))
      ([], 0)
    let found := limited.reverse
    let count := (found.filter (·.2)).length
    let mark := if manner.hasNames then name ++ ":" else ""
    let shown : Deed :=
      if switches.has 'q' then after
      else if switches.has 'l' then if count = 0 then after else after.sayLine name
      else if switches.has 'L' then if count = 0 then after.sayLine name else after
      else if switches.has 'c' then after.sayLine (mark ++ toString count)
      else if content.contains 0 && !switches.has 'a' && 0 < count then
        after.sayLine ("grep: " ++ name ++ ": binary file matches")
      else after.say (manner.shown search name found)
    (if switches.has 'L' then (if count = 0 then 1 else 0) else count, shown)

/-- The lines of sources in which patterns occur. -/
def searchLines (bench : Bench) (arguments : List String) : Deed :=
  let usage : Usage :=
    { tool := "grep", flags := "EFGPivyclLnqsowxhHraRzbUuITZ0", valued := "efmABC", status := 2,
      long := [("--extended-regexp", 'E'), ("--fixed-strings", 'F'), ("--basic-regexp", 'G'),
        ("--ignore-case", 'i'), ("--invert-match", 'v'), ("--count", 'c'),
        ("--files-with-matches", 'l'), ("--files-without-match", 'L'), ("--line-number", 'n'),
        ("--quiet", 'q'), ("--silent", 'q'), ("--no-messages", 's'), ("--only-matching", 'o'),
        ("--word-regexp", 'w'), ("--line-regexp", 'x'), ("--regexp", 'e'), ("--file", 'f'),
        ("--max-count", 'm'), ("--no-filename", 'h'), ("--with-filename", 'H'),
        ("--recursive", 'r'), ("--text", 'a'), ("--after-context", 'A'),
        ("--before-context", 'B'), ("--context", 'C'), ("--color", '0'), ("--colour", '0')] }
  let shortened := arguments.flatMap fun argument =>
    match argument.toList with
    | '-' :: digits =>
      if !digits.isEmpty && digits.all Text.isDigit then ["-C", String.ofList digits]
      else [argument]
    | _ => [argument]
  usage.with bench shortened fun switches =>
    let given := switches.options.filter fun option => option.1 == 'e' || option.1 == 'f'
    let read (option : Char × String) : Except IoFailure (List String) :=
      if option.1 = 'e' then
        .ok ((Text.splitAt '\n' option.2.toList).map String.ofList)
      else
        (bench.files.read option.2).map fun content =>
          (linesOf content).map fun line => Text.raw (bareLine line)
    let (first, paths) :=
      if given.isEmpty then (switches.operands.head?, switches.operands.tail)
      else (none, switches.operands)
    let texts : Except IoFailure (List String) := do
      let fromOptions ← given.mapM read
      .ok (fromOptions.flatten ++
        (first.map fun text => (Text.splitAt '\n' text.toList).map String.ofList).getD [])
    if given.isEmpty && first.isNone then
      .refused bench ("Usage: grep [OPTION]... PATTERNS [FILE]..." ++ advice "grep") 2
    else
      let isExtended := switches.lastOf "EFGP" == some 'E' || switches.lastOf "EFGP" == some 'P'
      let one (text : String) : Except PatternError Pattern :=
        if switches.lastOf "EFGP" = some 'F' then .ok (Pattern.literal text)
        else (Pattern.read ⟨isExtended, false⟩ text).map (·.1)
      match texts with
      | .error failure =>
        .refused bench ("grep: " ++ (switches.value? 'f').getD "" ++ ": " ++ failure.reason) 2
      | .ok texts =>
        match texts.mapM one with
        | .error error => .refused bench ("grep: " ++ error.message) 2
        | .ok patterns =>
          let joined : Pattern :=
            match patterns with
            | [] => .oneOf [] false
            | first :: others => others.foldl .either first
          let search : Search :=
            { pattern := joined, ignoresCase := switches.has 'i' || switches.has 'y',
              wantsWords := switches.has 'w', wantsLines := switches.has 'x',
              isDenied := switches.has 'v' }
          let isDeep := switches.has 'r' || switches.has 'R'
          let sources :=
            if isDeep then
              (if paths.isEmpty then ["."] else paths).flatMap (filesUnder bench.files 256)
            else if paths.isEmpty then ["-"]
            else paths
          let context (letter : Char) : Nat :=
            ((switches.value? letter).orElse fun _ => switches.value? 'C').bind
              (fun text => count? text.toList) |>.getD 0
          let manner : FoundManner :=
            { hasNames :=
                match switches.lastOf "hH" with
                | some letter => letter == 'H'
                | none => 1 < paths.length || isDeep
              hasNumbers := switches.has 'n', onlyParts := switches.has 'o',
              before := context 'B', behind := context 'A' }
          let (total, searched) := sources.foldl
            (fun (total, deed) path =>
              let (count, deed) := searchSource switches search manner path deed
              (total + count, deed))
            (0, Deed.idle bench 0)
          let status :=
            if switches.has 'q' && 0 < total then 0
            else if searched.status = 2 then 2
            else if total = 0 then 1
            else 0
          searched.withStatus status

end ShapeScene.Script
