import ShapeScene.Script.Lines

/-!
# Lines in order

Tools that sort lines and that leave out lines that are there twice. Lines are compared by keys:
parts of a line that are compared in one of several ways.
-/

namespace ShapeScene.Script

/-! ## Keys -/

/-- How keys are compared. -/
structure KeyManner where
  /-- The letter of the way of comparing numbers, months or versions, if it is one of these. -/
  kind : Option Char := none
  /-- Whether the order is turned round. -/
  isReverse : Bool := false
  /-- Whether small letters count as capital ones. -/
  foldsCase : Bool := false
  /-- Whether blanks in front do not count. -/
  skipsBlanks : Bool := false
  /-- Whether only blanks, letters and digits count. -/
  isDictionary : Bool := false
  /-- Whether only printable bytes count. -/
  onlyPrintable : Bool := false
deriving DecidableEq, Repr

/-- The manner with one more letter. -/
def KeyManner.add (manner : KeyManner) (letter : Char) : KeyManner :=
  match letter with
  | 'r' => { manner with isReverse := true }
  | 'f' => { manner with foldsCase := true }
  | 'b' => { manner with skipsBlanks := true }
  | 'd' => { manner with isDictionary := true }
  | 'i' => { manner with onlyPrintable := true }
  | letter => { manner with kind := some letter }

/-- A place in a line: a field and a byte in it. -/
structure KeyPlace where
  /-- The number of the field. -/
  field : Nat
  /-- The number of the byte; zero stands for none. -/
  byte : Nat
  /-- Whether bytes are counted behind the blanks of the field. -/
  skipsBlanks : Bool
deriving DecidableEq, Repr

/-- A part of a line by which lines are compared. -/
structure Key where
  /-- Where it begins. -/
  first : KeyPlace
  /-- Where it ends, if that is not the end of the line. -/
  last : Option KeyPlace
  /-- How it is compared, if that is said for it alone. -/
  manner : Option KeyManner
deriving DecidableEq, Repr

/-- The letters of the ways of comparing. -/
def orderLetters : List Char := "bdfghiMnrV".toList

/-- The number in front of a text that begins a part of a key. -/
def keyNumber (place : String) (chars : List Char) : Except String (Nat × List Char) :=
  let (digits, rest) := chars.span Text.isDigit
  if digits.isEmpty then
    .error ("invalid number " ++ place ++ ": invalid count at start of " ++
      quoted (String.ofList chars))
  else .ok (Text.decimalValue digits, rest)

/-- A place in a line with the letters behind it, and what is behind these. -/
def readKeyPlace (isEnd : Bool) (whole : String) (chars : List Char) :
    Except String (KeyPlace × List Char × List Char) := do
  let (field, rest) ← keyNumber (if isEnd then "after ','" else "at field start") chars
  if field = 0 then .error ("field number is zero: invalid field specification " ++ quoted whole)
  else
    let (byte, rest) ←
      match rest with
      | '.' :: rest => do
        let (byte, rest) ← keyNumber "after '.'" rest
        if byte = 0 ∧ !isEnd then
          .error ("character offset is zero: invalid field specification " ++ quoted whole)
        else .ok (byte, rest)
      | rest => .ok (if isEnd then 0 else 1, rest)
    let (letters, rest) := rest.span orderLetters.contains
    .ok (⟨field, byte, letters.contains 'b'⟩, letters, rest)

/-- The key that a text describes. -/
def readKey (text : String) : Except String Key := do
  let stray (rest : List Char) : Except String Key :=
    .error ("stray character in field spec: invalid field specification " ++
      quoted (if rest.isEmpty then text else text))
  let mannerOf (letters : List Char) : Option KeyManner :=
    if letters.isEmpty then none else some (letters.foldl KeyManner.add {})
  let (first, letters, rest) ← readKeyPlace false text text.toList
  match rest with
  | [] => .ok ⟨first, none, mannerOf letters⟩
  | ',' :: rest =>
    let (last, more, rest) ← readKeyPlace true text rest
    if rest.isEmpty then .ok ⟨first, some last, mannerOf (letters ++ more)⟩ else stray rest
  | rest => stray rest

/-! ## Parts of lines -/

/-- Whether a byte is a blank within a line. -/
def isLineSpace (byte : UInt8) : Bool := byte == 32 || byte == 9 || byte == 10

/-- What is left of a line behind some fields. The divider in front of a field that a byte divides
is left out. -/
def behindFields (divider : Option UInt8) : (count : Nat) → List UInt8 → List UInt8
  | 0, line => line
  | count + 1, line =>
    match divider with
    | some byte => behindFields divider count ((line.dropWhile (· ≠ byte)).tail)
    | none =>
      behindFields divider count
        ((line.dropWhile isLineSpace).dropWhile fun byte => !isLineSpace byte)

/-- How much of a line is in front of the end of a field. -/
def fieldEnd (divider : Option UInt8) (count : Nat) (line : List UInt8) : Nat :=
  match divider with
  | none => line.length - (behindFields none count line).length
  | some byte =>
    let start := behindFields divider (count - 1) line
    line.length - (start.dropWhile (· ≠ byte)).length

/-- The bytes of a line that a key takes. -/
def Key.part (key : Key) (divider : Option UInt8) (skipsBlanks : Bool) (line : List UInt8) :
    List UInt8 :=
  let start := behindFields divider (key.first.field - 1) line
  let start :=
    if key.first.skipsBlanks || skipsBlanks then start.dropWhile isLineSpace else start
  let start := start.drop (key.first.byte - 1)
  let offset := line.length - start.length
  match key.last with
  | none => start
  | some last =>
    let stop :=
      if last.byte = 0 then fieldEnd divider last.field line
      else
        let field := behindFields divider (last.field - 1) line
        let field := if last.skipsBlanks then field.dropWhile isLineSpace else field
        line.length - field.length + min last.byte field.length
    start.take (stop - offset)

/-! ## Comparing -/

/-- The number in front of a key: its value and the count of its decimal places. -/
def keyValue (content : List UInt8) : Int × Nat × List UInt8 :=
  let chars := content.dropWhile isLineSpace
  let (isNegative, digits) := match chars with | 45 :: rest => (true, rest) | rest => (false, rest)
  let isDigit (byte : UInt8) : Bool := 48 ≤ byte && byte ≤ 57
  let (whole, rest) := digits.span isDigit
  let (fraction, rest) :=
    match rest with
    | 46 :: rest => rest.span isDigit
    | rest => ([], rest)
  let value : Nat :=
    (whole ++ fraction).foldl (fun value byte => value * 10 + (byte.toNat - 48)) 0
  (if isNegative then -(value : Int) else value, fraction.length, rest)

/-- The order of two numbers with decimal places. -/
def compareValues (first second : Int × Nat) : Ordering :=
  compare (first.1 * (Nat.pow 10 second.2 : Nat)) (second.1 * (Nat.pow 10 first.2 : Nat))

/-- The rank of the unit behind a number. -/
def unitRank (rest : List UInt8) : Nat :=
  match rest.head? with
  | some byte => ("KMGTPEZY".toList.idxOf? (Char.ofNat byte.toNat)).elim
      (if byte = 107 then 1 else 0) (· + 1)
  | none => 0

/-- The rank of the month that a key names. -/
def monthRank (content : List UInt8) : Nat :=
  let name := ((Text.raw (content.dropWhile isLineSpace)).toUpper.toList).take 3
  let months := ["JAN", "FEB", "MAR", "APR", "MAY", "JUN", "JUL", "AUG", "SEP", "OCT", "NOV", "DEC"]
  (months.idxOf? (String.ofList name)).elim 0 (· + 1)

/-- The order of two lists of bytes. -/
def compareBytes : List UInt8 → List UInt8 → Ordering
  | [], [] => .eq
  | [], _ => .lt
  | _, [] => .gt
  | first :: firsts, second :: seconds =>
    if first < second then .lt else if second < first then .gt else compareBytes firsts seconds

/-- The order of two versions, in which runs of digits count as numbers. -/
def compareVersions : (bound : Nat) → List UInt8 → List UInt8 → Ordering
  | 0, _, _ => .eq
  | _, [], [] => .eq
  | bound + 1, first, second =>
    let isDigit (byte : UInt8) : Bool := 48 ≤ byte && byte ≤ 57
    let (text, rest) := first.span fun byte => !isDigit byte
    let (otherText, otherRest) := second.span fun byte => !isDigit byte
    match compareBytes text otherText with
    | .eq =>
      let (digits, rest) := rest.span isDigit
      let (otherDigits, otherRest) := otherRest.span isDigit
      let value (digits : List UInt8) : Nat :=
        digits.foldl (fun value byte => value * 10 + (byte.toNat - 48)) 0
      match compare (value digits) (value otherDigits) with
      | .eq => compareVersions bound rest otherRest
      | order => order
    | order => order

/-- The bytes of a key that count. -/
def KeyManner.weighed (manner : KeyManner) (content : List UInt8) : List UInt8 :=
  let counts (byte : UInt8) : Bool :=
    let char := Char.ofNat byte.toNat
    (!manner.isDictionary || char == ' ' || char == '\t' || char.isAlphanum) &&
      (!manner.onlyPrintable || (' ' ≤ char && char ≤ '~'))
  let kept := content.filter counts
  if manner.foldsCase then
    kept.map fun byte => if 97 ≤ byte ∧ byte ≤ 122 then byte - 32 else byte
  else kept

/-- The order of two keys. -/
def KeyManner.compare (manner : KeyManner) (first second : List UInt8) : Ordering :=
  let order :=
    match manner.kind with
    | some 'n' | some 'g' =>
      let (value, places, _) := keyValue first
      let (otherValue, otherPlaces, _) := keyValue second
      compareValues (value, places) (otherValue, otherPlaces)
    | some 'h' =>
      let (value, places, rest) := keyValue first
      let (otherValue, otherPlaces, otherRest) := keyValue second
      let rank (value : Int) (rest : List UInt8) : Int :=
        if value < 0 then -(unitRank rest : Int) else unitRank rest
      match Ord.compare value.sign otherValue.sign with
      | .eq =>
        match Ord.compare (rank value rest) (rank otherValue otherRest) with
        | .eq => compareValues (value, places) (otherValue, otherPlaces)
        | order => order
      | order => order
    | some 'M' => Ord.compare (monthRank first) (monthRank second)
    | some 'V' => compareVersions (first.length + second.length + 1) first second
    | _ => compareBytes (manner.weighed first) (manner.weighed second)
  if manner.isReverse then order.swap else order

/-- How lines are put in order. -/
structure LineOrder where
  /-- What divides fields, if it is no blank. -/
  divider : Option UInt8
  /-- The keys. -/
  keys : List Key
  /-- How keys are compared for which nothing else is said. -/
  manner : KeyManner
  /-- Whether lines with equal keys keep their order. -/
  isStable : Bool

/-- The order of the keys of two lines. -/
def LineOrder.compareKeys (order : LineOrder) (first second : List UInt8) : Ordering :=
  if order.keys.isEmpty then
    let part (line : List UInt8) : List UInt8 :=
      if order.manner.skipsBlanks then line.dropWhile isLineSpace else line
    order.manner.compare (part first) (part second)
  else
    order.keys.foldl
      (fun found key =>
        match found with
        | .eq =>
          let manner := key.manner.getD order.manner
          let part := key.part order.divider (key.manner.isNone && order.manner.skipsBlanks)
          manner.compare (part first) (part second)
        | found => found)
      .eq

/-- The order of two lines. -/
def LineOrder.compare (order : LineOrder) (first second : List UInt8) : Ordering :=
  match order.compareKeys first second with
  | .eq =>
    if order.isStable then .eq
    else
      let last := compareBytes first second
      if order.manner.isReverse then last.swap else last
  | found => found

/-! ## Sorting -/

/-- The lines without those that are equal to the one before. -/
def withoutRepeats (isEqual : List UInt8 → List UInt8 → Bool) :
    (last : Option (List UInt8)) → List (List UInt8) → List (List UInt8)
  | _, [] => []
  | last, line :: lines =>
    if last.any (isEqual · line) then withoutRepeats isEqual last lines
    else line :: withoutRepeats isEqual (some line) lines

/-- The first line that is out of order, with its number. -/
def firstDisorder (isBehind : List UInt8 → List UInt8 → Bool) :
    (number : Nat) → List (List UInt8) → Option (Nat × List UInt8)
  | number, first :: second :: lines =>
    if isBehind first second then some (number + 1, second)
    else firstDisorder isBehind (number + 1) (second :: lines)
  | _, _ => none

/-- The lines of sources in order. -/
def sortLines (bench : Bench) (arguments : List String) : Deed :=
  let usage : Usage :=
    { tool := "sort", flags := "bdfghiMnrVsmcCuzR", valued := "oktST", status := 2,
      long := [("--ignore-leading-blanks", 'b'), ("--dictionary-order", 'd'),
        ("--ignore-case", 'f'), ("--general-numeric-sort", 'g'), ("--human-numeric-sort", 'h'),
        ("--month-sort", 'M'), ("--numeric-sort", 'n'), ("--reverse", 'r'),
        ("--version-sort", 'V'), ("--stable", 's'), ("--merge", 'm'), ("--check", 'c'),
        ("--unique", 'u'), ("--zero-terminated", 'z'), ("--output", 'o'), ("--key", 'k'),
        ("--field-separator", 't')] }
  usage.with bench arguments fun switches =>
    let divider := (switches.value? 't').map String.toList
    match (switches.values 'k').mapM readKey, divider with
    | .error message, _ => .refused bench ("sort: " ++ message) 2
    | .ok _, some [] => .refused bench "sort: empty tab" 2
    | .ok keys, divider =>
      let byte : Option UInt8 :=
        match divider with
        | some ['\\', '0'] => some 0
        | some (char :: _) => some (UInt8.ofNat char.toNat)
        | _ => none
      if (divider.getD []).length ≠ 1 ∧ divider.isSome ∧ divider ≠ some ['\\', '0'] then
        .refused bench
          ("sort: multi-character tab " ++ quoted ((switches.value? 't').getD "")) 2
      else
        let ending : UInt8 := if switches.has 'z' then 0 else 10
        let manner := (switches.options.filter fun option =>
          orderLetters.contains option.1).foldl (fun manner option => manner.add option.1) {}
        let order : LineOrder :=
          ⟨byte, keys, manner, switches.has 's' || switches.has 'u'⟩
        let bare (content : List UInt8) : List (List UInt8) :=
          (linesOf content ending).map fun line =>
            if line.getLast? = some ending then line.dropLast else line
        let paths := switches.operandsOr ["-"]
        let (lists, deed) := paths.foldl
          (fun ((lists, deed) : List (List (List UInt8)) × Deed) path =>
            if deed.status ≠ 0 then (lists, deed)
            else
              match deed.read path with
              | (.ok content, after) => (lists ++ [bare content], after)
              | (.error failure, after) =>
                let what :=
                  match failure with
                  | .isFolder => "read failed: "
                  | .notOpen => "stat failed: "
                  | _ =>
                    if switches.has 'c' || switches.has 'C' then "open failed: "
                    else "cannot read: "
                let message := "sort: " ++ what ++ shownName path ++ ": " ++ failure.reason
                (lists, after.fail message 2))
          ([], .idle bench 0)
        if deed.status ≠ 0 then deed
        else if switches.has 'c' || switches.has 'C' then
          let isBehind (first second : List UInt8) : Bool :=
            match order.compare first second with
            | .gt => true
            | .eq => switches.has 'u'
            | .lt => false
          match firstDisorder isBehind 1 lists.flatten with
          | none => deed
          | some (number, line) =>
            if switches.has 'C' then deed.withStatus 1
            else
              deed.fail ("sort: " ++ (paths.head?.getD "-") ++ ":" ++ toString number ++
                ": disorder: " ++ Text.raw line)
        else
          let isBefore (first second : List UInt8) : Bool := order.compare first second != .gt
          let sorted :=
            if switches.has 'm' then
              lists.foldl (fun merged lines => merged.merge lines isBefore) []
            else lists.flatten.mergeSort isBefore
          let kept :=
            if switches.has 'u' then
              withoutRepeats (fun first second => order.compareKeys first second == .eq) none sorted
            else sorted
          let content := kept.flatMap fun line => line ++ [ending]
          match switches.value? 'o' with
          | none => deed.say content
          | some path =>
            match deed.write path content with
            | .ok written => written
            | .error failure =>
              deed.fail ("sort: open failed: " ++ shownName path ++ ": " ++ failure.reason) 2

/-! ## Leaving out repeats -/

/-- The groups of lines that are equal side by side. -/
def groupsOf (isEqual : List UInt8 → List UInt8 → Bool) (lines : List (List UInt8)) :
    List (List (List UInt8)) :=
  lines.foldr
    (fun line groups =>
      match groups with
      | (next :: group) :: others =>
        if isEqual line next then (line :: next :: group) :: others
        else [line] :: (next :: group) :: others
      | groups => [line] :: groups)
    []

/-- The lines of a source, one for each group of equal ones. -/
def distinctLines (bench : Bench) (arguments : List String) : Deed :=
  let usage : Usage :=
    { tool := "uniq", flags := "cduDiz", valued := "fsw",
      long := [("--count", 'c'), ("--repeated", 'd'), ("--unique", 'u'), ("--all-repeated", 'D'),
        ("--ignore-case", 'i'), ("--zero-terminated", 'z'), ("--skip-fields", 'f'),
        ("--skip-chars", 's'), ("--check-chars", 'w')] }
  usage.with bench arguments fun switches =>
    let number (letter : Char) : Option Nat :=
      (switches.value? letter).bind fun text => Text.readNatural? 1000000000 text.toList
    let ending : UInt8 := if switches.has 'z' then 0 else 10
    let weighed (line : List UInt8) : List UInt8 :=
      let behind := (behindFields none ((number 'f').getD 0) line).drop ((number 's').getD 0)
      let seen := match number 'w' with | some width => behind.take width | none => behind
      if switches.has 'i' then
        seen.map fun byte => if 97 ≤ byte ∧ byte ≤ 122 then byte - 32 else byte
      else seen
    match switches.operands with
    | _ :: _ :: extra :: _ => extraOperand bench "uniq" extra
    | operands =>
      let path := operands.head?.getD "-"
      match (Deed.idle bench 0).read path with
      | (.error failure, deed) =>
        deed.fail
          (match failure with
            | .isFolder | .notOpen =>
              "uniq: error reading " ++ quoted path ++ ": " ++ failure.reason
            | failure => "uniq: " ++ shownName path ++ ": " ++ failure.reason)
      | (.ok content, deed) =>
        let lines := (linesOf content ending).map fun line =>
          if line.getLast? = some ending then line.dropLast else line
        let groups := groupsOf (fun first second => weighed first == weighed second) lines
        let shown (group : List (List UInt8)) : List (List UInt8) :=
          let count := group.length
          if (switches.has 'D' || switches.has 'd') && count = 1 then []
          else if switches.has 'u' && 1 < count then []
          else if switches.has 'D' then group
          else
            (group.take 1).map fun line =>
              if switches.has 'c' then Text.rawBytes (rightAligned 7 count ++ " ") ++ line else line
        let written := (groups.flatMap shown).flatMap fun line => line ++ [ending]
        match operands with
        | _ :: target :: _ =>
          match deed.write target written with
          | .ok after => after
          | .error failure => deed.fail ("uniq: " ++ shownName target ++ ": " ++ failure.reason)
        | _ => deed.say written

end ShapeScene.Script
