import ShapeScene.Script.Lines

/-!
# Bytes

Tools that show bytes as numbers, copy them in blocks, compare them, and write them with letters
alone.
-/

namespace ShapeScene.Script

/-! ## Showing bytes -/

/-- How bytes are shown: the letter of a kind and how many bytes make one number. -/
structure ByteManner where
  /-- The letter of the kind. -/
  kind : Char
  /-- How many bytes are shown together. -/
  size : Nat
  /-- Whether the bytes stand as text at the end of the line, too. -/
  showsText : Bool
deriving DecidableEq, Repr

/-- The names of the bytes that are no printable characters. -/
def byteNames : List String :=
  ["nul", "soh", "stx", "etx", "eot", "enq", "ack", "bel", "bs", "ht", "nl", "vt", "ff", "cr",
    "so", "si", "dle", "dc1", "dc2", "dc3", "dc4", "nak", "syn", "etb", "can", "em", "sub", "esc",
    "fs", "gs", "rs", "us", "sp"]

/-- The number of some bytes, the least one first. -/
def bytesValue (bytes : List UInt8) : Nat :=
  bytes.foldr (fun byte value => value * 256 + byte.toNat) 0

namespace ByteManner

/-- How wide a number is shown. -/
def width (manner : ByteManner) : Nat :=
  let greatest := Nat.pow 256 manner.size
  match manner.kind with
  | 'x' => 2 * manner.size
  | 'o' => (Nat.toDigits 8 (greatest - 1)).length
  | 'u' => (Nat.toDigits 10 (greatest - 1)).length
  | 'd' => (Nat.toDigits 10 (greatest / 2)).length + 1
  | _ => 3

/-- The text of the number of some bytes. -/
def textOf (manner : ByteManner) (bytes : List UInt8) : String :=
  let padded := bytes ++ List.replicate (manner.size - bytes.length) 0
  let value := bytesValue padded
  let digits (base : Nat) : String :=
    let digits := Nat.toDigits base value
    String.ofList (List.replicate (manner.width - digits.length) '0' ++ digits)
  match manner.kind with
  | 'x' => digits 16
  | 'o' => digits 8
  | 'd' =>
    let greatest := Nat.pow 256 manner.size
    if value < greatest / 2 then toString value else "-" ++ toString (greatest - value)
  | 'c' =>
    match value with
    | 0 => "\\0"
    | 7 => "\\a"
    | 8 => "\\b"
    | 9 => "\\t"
    | 10 => "\\n"
    | 11 => "\\v"
    | 12 => "\\f"
    | 13 => "\\r"
    | value =>
      if 32 ≤ value ∧ value < 127 then String.singleton (Char.ofNat value)
      else
        let digits := Nat.toDigits 8 value
        String.ofList (List.replicate (3 - digits.length) '0' ++ digits)
  | 'a' =>
    let value := value % 128
    if value = 127 then "del"
    else (byteNames[value]?).getD (String.singleton (Char.ofNat value))
  | _ => toString value

/-- The numbers of a block, in which each has the place of as many bytes; `blockWidth` is how wide
a whole block is shown. -/
def blockText (manner : ByteManner) (blockSize blockWidth : Nat) (block : List UInt8) : String :=
  let count := blockSize / manner.size
  let padding := blockWidth - count * (manner.width + 1)
  let shown := (block.length + manner.size - 1) / manner.size
  let field (index : Nat) : String :=
    let left := count - index
    let own := padding * left / count - padding * (left - 1) / count + manner.width
    let text := manner.textOf ((block.drop (index * manner.size)).take manner.size)
    " " ++ String.ofList (List.replicate (own - text.length) ' ') ++ text
  let numbers := String.join ((List.range shown).map field)
  if manner.showsText then
    let printable (byte : UInt8) : Char :=
      if 32 ≤ byte ∧ byte < 127 then Char.ofNat byte.toNat else '.'
    numbers ++ String.ofList (List.replicate (blockWidth - numbers.length) ' ') ++ "  >" ++
      String.ofList (block.map printable) ++ "<"
  else numbers

end ByteManner

/-- The manners that a text describes. -/
def byteManners : (bound : Nat) → List Char → Except String (List ByteManner)
  | 0, _ | _, [] => .ok []
  | bound + 1, kind :: rest =>
    if !"acdoux".toList.contains kind then
      .error ("invalid character '" ++ String.singleton kind ++ "' in type string ")
    else
      let (digits, rest) := rest.span Text.isDigit
      let (letter, rest) :=
        match rest with
        | letter :: behind => if "CSIL".toList.contains letter && digits.isEmpty then
            (some letter, behind) else (none, rest)
        | [] => (none, rest)
      let size :=
        if kind = 'a' ∨ kind = 'c' then 1
        else
          match letter with
          | some 'C' => 1
          | some 'S' => 2
          | some 'I' => 4
          | some _ => 8
          | none => if digits.isEmpty then 4 else Text.decimalValue digits
      let (showsText, rest) := match rest with | 'z' :: rest => (true, rest) | rest => (false, rest)
      if !([1, 2, 4, 8].contains size) then
        .error ("this system doesn't provide a " ++ toString size ++ "-byte integral type in ")
      else (byteManners bound rest).map (⟨kind, size, showsText⟩ :: ·)

/-- The letters that stand for manners. -/
def mannerLetters : List (Char × String) :=
  [('a', "a"), ('b', "o1"), ('c', "c"), ('d', "u2"), ('h', "x2"), ('x', "x2"), ('i', "d4"),
    ('l', "d8"), ('o', "o2"), ('s', "d2")]

/-- The place of a byte as it is shown in front of a line. -/
def shownOffset (radix : Char) (offset : Nat) : String :=
  let digits (base width : Nat) : String :=
    let digits := Nat.toDigits base offset
    String.ofList (List.replicate (width - digits.length) '0' ++ digits)
  match radix with
  | 'd' => digits 10 7
  | 'x' => digits 16 6
  | 'n' => ""
  | _ => digits 8 7

/-- The lines of blocks. A block that is like the one before is shown by a star, once. -/
def blockLines (manners : List ByteManner) (radix : Char) (blockSize : Nat) (showsAll : Bool) :
    (bound : Nat) → (offset : Nat) → (last : Option (List UInt8)) → (isSkipping : Bool) →
    List UInt8 → List String
  | 0, _, _, _, _ => []
  | _, offset, _, _, [] => if radix = 'n' then [] else [shownOffset radix offset]
  | bound + 1, offset, last, isSkipping, content =>
    let block := content.take blockSize
    let rest := content.drop blockSize
    let behind := blockLines manners radix blockSize showsAll bound (offset + block.length)
    if !showsAll && last == some block && block.length == blockSize then
      if isSkipping then behind last true rest else "*" :: behind last true rest
    else
      let blockWidth := manners.foldl
        (fun width manner => max width (blockSize / manner.size * (manner.width + 1))) 0
      let lines := manners.mapIdx fun index manner =>
        let mark := shownOffset radix offset
        (if index = 0 then mark else String.ofList (List.replicate mark.length ' ')) ++
          manner.blockText blockSize blockWidth block
      lines ++ behind (some block) false rest

/-- The bytes of sources as numbers. -/
def showBytes (bench : Bench) (arguments : List String) : Deed :=
  let usage : Usage :=
    { tool := "od", flags := "abcdhilosvx", valued := "AjNt", attached := "w",
      long := [("--address-radix", 'A'), ("--skip-bytes", 'j'), ("--read-bytes", 'N'),
        ("--format", 't'), ("--output-duplicates", 'v'), ("--width", 'w')] }
  usage.with bench arguments fun switches =>
    let wanted := switches.options.filterMap fun option =>
      if option.1 = 't' then some option.2
      else (mannerLetters.find? fun entry => entry.1 == option.1).map (·.2)
    let read (text : String) : Except String (List ByteManner) :=
      (byteManners (text.length + 1) text.toList).mapError (· ++ quoted text)
    match (if wanted.isEmpty then ["o2"] else wanted).mapM read with
    | .error message => .refused bench ("od: " ++ message)
    | .ok manners =>
      let number (letter : Char) : Option Nat :=
        (switches.value? letter).bind fun text => count? text.toList
      let (content, deed) := (switches.operandsOr ["-"]).foldl
        (fun ((content, deed) : List UInt8 × Deed) path =>
          match deed.read path with
          | (.ok more, after) => (content ++ more, after)
          | (.error failure, after) =>
            let name := if path = "-" then "'standard input'" else shownName path
            let failed := after.fail ("od: " ++ name ++ ": " ++ failure.reason)
            (content,
              if failure = .notOpen then
                failed.fail ("od: standard input: " ++ failure.reason)
              else failed))
        ([], .idle bench 0)
      let skipped := (number 'j').getD 0
      if content.length < skipped then
        if deed.status = 0 then deed.fail "od: cannot skip past end of combined input" else deed
      else
        let rest := content.drop skipped
        let seen := match number 'N' with | some size => rest.take size | none => rest
        let blockSize :=
          match switches.value? 'w' with
          | some "" => 32
          | some text => (count? text.toList).getD 16
          | none => 16
        let radix := (((switches.value? 'A').map String.toList).bind List.head?).getD 'o'
        if deed.status ≠ 0 ∧ content.isEmpty ∧
            (switches.operands.all fun path => !hasEntry bench.files path && path != "-") ∧
            !switches.operands.isEmpty then deed
        else
          (blockLines manners.flatten radix (max blockSize 1) (switches.has 'v') (seen.length + 1)
            skipped none false seen).foldl Deed.sayLine deed

/-! ## Copying blocks -/

/-- The number that an operand gives: factors with units between crosses. -/
def blockNumber? (text : String) : Option Nat :=
  let factors := (text.toList.splitOn 'x').map fun factor =>
    match factor.getLast? with
    | some 'c' => count? factor.dropLast
    | some 'w' => (count? factor.dropLast).map (· * 2)
    | _ => count? factor
  factors.foldl (fun product factor => product.bind fun value => factor.map (value * ·)) (some 1)

/-- A name and a value with an equals sign between them. -/
def splitOperand? (text : String) : Option (String × String) :=
  (Text.splitFirst (· = '=') text.toList).map fun (name, value) =>
    (String.ofList name, String.ofList value)

/-- The names of operands that give sizes. -/
def sizeOperands : List String := ["bs", "ibs", "obs", "cbs"]

/-- The names of operands that give numbers of blocks. -/
def countOperands : List String := ["count", "skip", "seek", "iseek", "oseek"]

/-- The names of operands that say how blocks are copied. -/
def blockOperands : List String :=
  ["if", "of", "conv", "status", "iflag", "oflag"] ++ sizeOperands ++ countOperands

/-- The conversions of bytes in blocks. -/
def conversions : List String :=
  ["ucase", "lcase", "swab", "sync", "notrunc", "noerror", "fsync", "fdatasync", "excl", "nocreat",
    "sparse"]

/-- What is wrong with an operand. -/
def operandFault? (operand : String) : Option String :=
  match splitOperand? operand with
  | none => some ("unrecognized operand " ++ quoted operand ++ advice "dd")
  | some (name, value) =>
    let values := (value.toList.splitOn ',').map String.ofList
    if !blockOperands.contains name then
      some ("unrecognized operand " ++ quoted operand ++ advice "dd")
    else if (sizeOperands ++ countOperands).contains name then
      let isSize := sizeOperands.contains name
      match blockNumber? value with
      | none => some ("invalid number: " ++ quoted value)
      | some 0 => if isSize then some ("invalid number: " ++ quoted value) else none
      | some _ => none
    else if name = "conv" then
      (values.find? fun value => !conversions.contains value).map fun value =>
        "invalid conversion: " ++ quoted value ++ advice "dd"
    else if name = "status" ∧ !(["none", "noxfer", "progress"].contains value) then
      some ("invalid status level: " ++ quoted value ++ advice "dd")
    else none

/-- The bytes with each pair turned round. -/
def swappedPairs : List UInt8 → List UInt8
  | first :: second :: rest => second :: first :: swappedPairs rest
  | rest => rest

/-- Bytes as they are after conversions. -/
def converted (names : List String) (blockSize : Nat) (content : List UInt8) : List UInt8 :=
  let filled :=
    if names.contains "sync" then
      content ++ List.replicate
        ((blockSize - content.length % blockSize) % blockSize) 0
    else content
  let swapped := if names.contains "swab" then swappedPairs filled else filled
  swapped.map fun byte =>
    if names.contains "ucase" && 97 ≤ byte && byte ≤ 122 then byte - 32
    else if names.contains "lcase" && 65 ≤ byte && byte ≤ 90 then byte + 32
    else byte

/-- The input copied to the output in blocks. -/
def copyBlocks (bench : Bench) (arguments : List String) : Deed :=
  let operands := if arguments.head? = some "--" then arguments.tail else arguments
  match operands.findSome? operandFault? with
  | some fault => .refused bench ("dd: " ++ fault)
  | none =>
    let pairs := operands.filterMap splitOperand?
    let value? (name : String) : Option String :=
      (pairs.reverse.find? fun pair => pair.1 == name).map (·.2)
    let number (names : List String) : Option Nat :=
      (names.findSome? value?).bind blockNumber?
    let wordsOf (name : String) : List String :=
      ((pairs.filter fun pair => pair.1 == name).flatMap fun pair =>
        pair.2.toList.splitOn ',').map String.ofList
    let inputSize := (number ["bs", "ibs"]).getD 512
    let outputSize := (number ["bs", "obs"]).getD 512
    let flags := wordsOf "iflag"
    let unit (flag : String) : Nat := if flags.contains flag then 1 else inputSize
    let skipped := (number ["skip", "iseek"]).getD 0 * unit "skip_bytes"
    let limit := (number ["count"]).map fun count => count * unit "count_bytes"
    let sought := (number ["seek", "oseek"]).getD 0 *
      (if (wordsOf "oflag").contains "seek_bytes" then 1 else outputSize)
    let path := (value? "if").getD "-"
    let shown := if path = "-" then "'standard input'" else quoted path
    let start : Deed := .idle bench 0
    let taken : Except IoFailure (List UInt8 × Deed) :=
      match bench.source path with
      | .error failure => .error failure
      | .ok source =>
        match source, limit with
        | .folder, _ => .error .isFolder
        | .closed, _ => .error .notOpen
        | source, some limit =>
          let (content, left) := (source.take skipped).2.take limit
          .ok (content, { start with bench := bench.leave path left })
        | source, none =>
          .ok ((source.take skipped).2.all,
            { start with
              bench := { bench.leave path source.drained with isStuck := source.isEndless } })
    match taken with
    | .error failure =>
      let what := if hasEntry bench.files path || path = "-" then "error reading " else
        "failed to open "
      start.fail ("dd: " ++ what ++ shown ++ ": " ++ failure.reason)
    | .ok (content, deed) =>
      let names := wordsOf "conv"
      let written := converted names inputSize content
      let records (size count : Nat) : String :=
        toString (count / size) ++ "+" ++ (if count % size = 0 then "0" else "1") ++ " records "
      let report (deed : Deed) : Deed :=
        let level := value? "status"
        if level = some "none" then deed
        else
          let counted := (deed.warn (records inputSize content.length ++ "in")).warn
            (records outputSize written.length ++ "out")
          if level = some "noxfer" then counted
          else counted.warn (toString written.length ++ " bytes copied, 0 s, Infinity B/s")
      match value? "of" with
      | none => report (deed.say written)
      | some target =>
        let before := ((deed.bench.files.read target).toOption).getD []
        let isAppended := (wordsOf "oflag").contains "append"
        let offset := if isAppended then before.length else sought
        let front := before.take offset ++ List.replicate (offset - before.length) 0
        let back :=
          if names.contains "notrunc" || isAppended then before.drop (offset + written.length)
          else []
        match deed.write target (front ++ written ++ back) with
        | .ok after => report after
        | .error .noSpace =>
          report (deed.fail ("dd: error writing " ++ quoted target ++ ": " ++
            IoFailure.noSpace.reason))
        | .error failure =>
          deed.fail ("dd: failed to open " ++ quoted target ++ ": " ++ failure.reason)

/-! ## Comparing -/

/-- The first place at which two lists differ: the number of equal bytes in front of it, the number
of lines that end there, and what is behind. -/
def firstDifference : (count lines : Nat) → List UInt8 → List UInt8 →
    Nat × Nat × List UInt8 × List UInt8
  | count, lines, first :: firsts, second :: seconds =>
    if first = second then
      firstDifference (count + 1) (if first = 10 then lines + 1 else lines) firsts seconds
    else (count, lines, first :: firsts, second :: seconds)
  | count, lines, firsts, seconds => (count, lines, firsts, seconds)

/-- The verdict on whether two sources have the same bytes. -/
def compareSources (bench : Bench) (arguments : List String) : Deed :=
  let usage : Usage :=
    { tool := "cmp", flags := "sl", valued := "n", status := 2,
      long := [("--quiet", 's'), ("--silent", 's'), ("--verbose", 'l'), ("--bytes", 'n')] }
  usage.with bench arguments fun switches =>
    match switches.operands with
    | [] => .refused bench ("cmp: missing operand after 'cmp'\ncmp: Try 'cmp --help' for more" ++
        " information.") 2
    | first :: others =>
      let second := others.head?.getD "-"
      let start : Deed := .idle bench 0
      let limit := (switches.value? 'n').bind fun text => count? text.toList
      let cut (content : List UInt8) : List UInt8 :=
        match limit with | some limit => content.take limit | none => content
      let refuse (deed : Deed) (path : String) (failure : IoFailure) : Deed :=
        if switches.has 's' then deed.withStatus 2
        else deed.fail ("cmp: " ++ path ++ ": " ++ failure.reason) 2
      match start.read first with
      | (.error failure, deed) => refuse deed first failure
      | (.ok content, deed) =>
        match if first = second then (.ok content, deed) else deed.read second with
        | (.error failure, deed) => refuse deed second failure
        | (.ok other, deed) =>
          let (count, lines, rest, otherRest) := firstDifference 0 0 (cut content) (cut other)
          let octal (byte : UInt8) : String :=
            let digits := Nat.toDigits 8 byte.toNat
            String.ofList (List.replicate (3 - digits.length) ' ' ++ digits)
          let ended (path : String) (before : List UInt8) : String :=
            if before.isEmpty then "cmp: EOF on " ++ path ++ " which is empty"
            else
              let place :=
                if switches.has 'l' then ""
                else if before.getLast? = some 10 then ", line " ++ toString lines
                else ", in line " ++ toString (lines + 1)
              "cmp: EOF on " ++ path ++ " after byte " ++ toString before.length ++ place
          match rest, otherRest with
          | [], [] => deed
          | _, _ =>
            if switches.has 's' then deed.withStatus 1
            else
              let shorter :=
                if (cut content).length < (cut other).length then some (ended first (cut content))
                else if (cut other).length < (cut content).length then
                  some (ended second (cut other))
                else none
              if switches.has 'l' then
                let size := min (cut content).length (cut other).length
                let width := (Nat.toDigits 10 size).length
                let differences := (((cut content).zip (cut other)).mapIdx fun index pair =>
                  (index + 1, pair)).filter fun entry => entry.2.1 != entry.2.2
                let told := match shorter with | some text => deed.fail text | none => deed
                (differences.foldl
                  (fun (deed : Deed) entry =>
                    deed.sayLine (rightAligned width entry.1 ++ " " ++ octal entry.2.1 ++ " " ++
                      octal entry.2.2)) told).withStatus 1
              else
                match rest, otherRest with
                | _ :: _, _ :: _ =>
                  (deed.sayLine (first ++ " " ++ second ++ " differ: char " ++
                    toString (count + 1) ++ ", line " ++ toString (lines + 1))).withStatus 1
                | _, _ => deed.fail (shorter.getD "")

/-! ## Letters alone -/

/-- The letters that stand for six bits. -/
def sixBitLetters : List Char :=
  "ABCDEFGHIJKLMNOPQRSTUVWXYZabcdefghijklmnopqrstuvwxyz0123456789+/".toList

/-- Bytes written with letters alone: four for three bytes. -/
def lettered : List UInt8 → List Char
  | first :: second :: third :: rest =>
    letters 4 (first.toNat * 65536 + second.toNat * 256 + third.toNat) ++ lettered rest
  | [first, second] => letters 3 (first.toNat * 65536 + second.toNat * 256) ++ ['=']
  | [first] => letters 2 (first.toNat * 65536) ++ ['=', '=']
  | [] => []
where
  /-- The first letters of three bytes. -/
  letters (count value : Nat) : List Char :=
    ([262144, 4096, 64, 1].take count).map fun unit =>
      (sixBitLetters[value / unit % 64]?).getD 'A'

/-- The bytes that letters stand for, and whether all of the letters make sense. -/
def unlettered : List Char → List UInt8 × Bool
  | first :: second :: third :: fourth :: rest =>
    match value? first, value? second, value? third, value? fourth with
    | some a, some b, some c, some d =>
      let (behind, isSound) := unlettered rest
      (bytesOf 3 (a * 262144 + b * 4096 + c * 64 + d) ++ behind, isSound)
    | some a, some b, some c, none =>
      (bytesOf 2 (a * 262144 + b * 4096 + c * 64), fourth == '=' && rest.isEmpty)
    | some a, some b, none, none =>
      (bytesOf 1 (a * 262144 + b * 4096), third == '=' && fourth == '=' && rest.isEmpty)
    | _, _, _, _ => ([], false)
  | [] => ([], true)
  | [first, second, third] =>
    match value? first, value? second, value? third with
    | some a, some b, some c => (bytesOf 2 (a * 262144 + b * 4096 + c * 64), false)
    | _, _, _ => ([], false)
  | [first, second] =>
    match value? first, value? second with
    | some a, some b => (bytesOf 1 (a * 262144 + b * 4096), false)
    | _, _ => ([], false)
  | [_] => ([], false)
where
  /-- The six bits of a letter. -/
  value? (letter : Char) : Option Nat := sixBitLetters.idxOf? letter
  /-- The first bytes of three. -/
  bytesOf (count value : Nat) : List UInt8 :=
    ([65536, 256, 1].take count).map fun unit => UInt8.ofNat (value / unit)

/-- Lines of some characters of at most a width. -/
def inLinesOf (width : Nat) : (bound : Nat) → List Char → List Char
  | 0, chars => chars
  | _, [] => []
  | bound + 1, chars => chars.take width ++ '\n' :: inLinesOf width bound (chars.drop width)

/-- The bytes of a source written with letters, or read from them. -/
def letterBytes (bench : Bench) (arguments : List String) : Deed :=
  let usage : Usage :=
    { tool := "base64", flags := "di", valued := "w",
      long := [("--decode", 'd'), ("--ignore-garbage", 'i'), ("--wrap", 'w')] }
  usage.with bench arguments fun switches =>
    match switches.operands with
    | _ :: extra :: _ => extraOperand bench "base64" extra
    | operands =>
      let path := operands.head?.getD "-"
      match (Deed.idle bench 0).read path with
      | (.error failure, deed) =>
        deed.fail
          (match failure with
            | .isFolder | .notOpen => "base64: read error: " ++ failure.reason
            | failure => "base64: " ++ shownName path ++ ": " ++ failure.reason)
      | (.ok content, deed) =>
        if switches.has 'd' then
          let chars := (Text.raw content).toList.filter fun char =>
            char != '\n' &&
              (!switches.has 'i' || char == '=' || sixBitLetters.contains char)
          let (bytes, isSound) := unlettered chars
          if isSound then deed.say bytes else (deed.say bytes).fail "base64: invalid input"
        else
          let text := lettered content
          let width := ((switches.value? 'w').bind fun text => count? text.toList).getD 76
          deed.say (Text.rawBytes (String.ofList
            (if width = 0 then text else inLinesOf width (text.length + 1) text)))

end ShapeScene.Script
