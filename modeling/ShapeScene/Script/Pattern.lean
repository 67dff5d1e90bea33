import ShapeScene.Script.Form

/-!
# Patterns

A pattern describes texts: characters of some kinds, one after the other, in alternatives, and
repeated. Where a pattern occurs in a text, the occurrence that begins first is taken, and of those
the longest one. Main statement: an occurrence never ends before it begins (`start_le_finish`).
-/

namespace ShapeScene.Script

/-- A description of texts. -/
inductive Pattern where
  /-- Nothing. -/
  | nothing
  /-- One of some characters, or one of all others. -/
  | oneOf (ranges : List (Char × Char)) (others : Bool)
  /-- The beginning of the text, or of a line. -/
  | start
  /-- The end of the text, or of a line. -/
  | finish
  /-- The beginning or the end of the whole text. -/
  | limit (isStart : Bool)
  /-- A place where a word begins. -/
  | wordStart
  /-- A place where a word ends. -/
  | wordEnd
  /-- A place where a word begins or ends, or any other place. -/
  | wordEdge (isEdge : Bool)
  /-- A part that is remembered under a number. -/
  | group (index : Nat) (inner : Pattern)
  /-- The text of a part that was remembered. -/
  | same (index : Nat)
  /-- Two patterns, one after the other. -/
  | sequence (first second : Pattern)
  /-- One of two patterns. -/
  | either (first second : Pattern)
  /-- A pattern again and again. -/
  | repeated (inner : Pattern) (least : Nat) (most : Option Nat)
deriving DecidableEq, Repr

/-- What makes a text no pattern. -/
inductive PatternError where
  /-- A bracket is not closed. -/
  | openBracket
  /-- A parenthesis is not closed. -/
  | openParenthesis
  /-- A parenthesis is closed that was not opened. -/
  | closedParenthesis
  /-- A brace is not closed. -/
  | openBrace
  /-- Braces hold no numbers. -/
  | badBraces
  /-- The last of a range comes before its first. -/
  | badRange
  /-- A class of characters has no such name. -/
  | badClass
  /-- A backslash is the last character. -/
  | lastBackslash
  /-- A sign of repetition has nothing in front. -/
  | badRepetition
  /-- A number stands for no part. -/
  | badReference
deriving DecidableEq, Repr

/-- The wording of an error. -/
def PatternError.message : PatternError → String
  | openBracket => "Unmatched [, [^, [:, [., or [="
  | openParenthesis => "Unmatched ( or \\("
  | closedParenthesis => "Unmatched ) or \\)"
  | openBrace => "Unmatched \x7b or \\\x7b"
  | badBraces => "Invalid content of \\\x7b\\\x7d"
  | badRange => "Invalid range end"
  | badClass => "Invalid character class name"
  | lastBackslash => "Trailing backslash"
  | badRepetition => "Invalid preceding regular expression"
  | badReference => "Invalid back reference"

/-! ## Reading -/

/-- How patterns are written. -/
structure PatternManner where
  /-- Whether signs have their meaning without a backslash in front. -/
  isExtended : Bool
  /-- Whether a backslash and a letter can stand for a character that is hard to write. -/
  hasEscapes : Bool
deriving DecidableEq, Repr

/-- The ranges of the characters that words are made of. -/
def wordRanges : List (Char × Char) := [('a', 'z'), ('A', 'Z'), ('0', '9'), ('_', '_')]

/-- The pattern of one character. -/
def Pattern.char (char : Char) : Pattern := .oneOf [(char, char)] false

/-- The pattern of any character. -/
def Pattern.anyChar : Pattern := .oneOf [] true

/-- The character that a letter behind a backslash stands for. -/
def hardChar? (letter : Char) : Option Char :=
  match letter with
  | 'n' => some '\n'
  | 't' => some '\t'
  | 'r' => some '\r'
  | 'f' => some '\x0c'
  | 'v' => some '\x0b'
  | 'a' => some '\x07'
  | _ => none

/-- The items of a bracket up to the one that closes it. -/
def readItems (manner : PatternManner) : (bound : Nat) → (isFirst : Bool) → List Char →
    Except PatternError (List (Char × Char) × List Char)
  | 0, _, _ | _, _, [] => .error .openBracket
  | bound + 1, isFirst, char :: rest =>
    if char = ']' ∧ !isFirst then .ok ([], rest)
    else
      match char, rest with
      | '[', ':' :: name =>
        match splitClass? name with
        | some (ranges, behind) => do
          let (others, behind) ← readItems manner bound false behind
          .ok (ranges ++ others, behind)
        | none => .error .badClass
      | '[', mark :: item :: mark' :: ']' :: behind =>
        if mark = mark' ∧ (mark = '.' ∨ mark = '=') then do
          let (others, behind) ← readItems manner bound false behind
          .ok ((item, item) :: others, behind)
        else do
          let (others, behind) ← readItems manner bound false rest
          .ok (('[', '[') :: others, behind)
      | '\\', letter :: behind =>
        match if manner.hasEscapes then hardChar? letter else none with
        | some char => do
          let (others, behind) ← readItems manner bound false behind
          .ok ((char, char) :: others, behind)
        | none => do
          let (others, behind) ← readItems manner bound false rest
          .ok (('\\', '\\') :: others, behind)
      | _, '-' :: ']' :: _ => do
        let (others, behind) ← readItems manner bound false rest
        .ok ((char, char) :: others, behind)
      | _, '-' :: last :: behind =>
        if last < char then .error .badRange
        else do
          let (others, behind) ← readItems manner bound false behind
          .ok ((char, last) :: others, behind)
      | _, _ => do
        let (others, behind) ← readItems manner bound false rest
        .ok ((char, char) :: others, behind)

/-- The numbers between braces, and what is behind them. -/
def readBounds (isExtended : Bool) (chars : List Char) :
    Except PatternError (Nat × Option Nat × List Char) :=
  let (low, rest) := chars.span Text.isDigit
  let (isOpen, high, rest) :=
    match rest with
    | ',' :: rest =>
      let (high, rest) := rest.span Text.isDigit
      (true, high, rest)
    | rest => (false, [], rest)
  let close : List Char := if isExtended then ['\x7d'] else ['\\', '\x7d']
  if rest.isEmpty then .error .openBrace
  else if !close.isPrefixOf rest || (low.isEmpty && !isOpen) then .error .badBraces
  else
    let least := Text.decimalValue low
    let most :=
      if !isOpen then some least
      else if high.isEmpty then none
      else some (Text.decimalValue high)
    if (most.map fun most => most < least || 32767 < most).getD (32767 < least) then
      .error .badBraces
    else .ok (least, most, rest.drop close.length)

/-- What reading a part of a pattern gives: the part, the number of groups so far, and the
characters behind it. -/
abbrev PatternRead := Except PatternError (Pattern × Nat × List Char)

/-- Whether characters begin with the end of a part: that of a group, or of an alternative. -/
def endsPart (manner : PatternManner) (chars : List Char) : Bool :=
  match manner.isExtended, chars with
  | _, [] => true
  | true, char :: _ => char == '|' || char == ')'
  | false, '\\' :: char :: _ => char == '|' || char == ')'
  | false, _ => false

/-- The signs of repetition in front, around a pattern. -/
def readRepetitions (manner : PatternManner) : (bound : Nat) → Pattern → List Char →
    Except PatternError (Pattern × List Char)
  | 0, pattern, chars => .ok (pattern, chars)
  | bound + 1, pattern, chars =>
    let again (least : Nat) (most : Option Nat) (rest : List Char) :
        Except PatternError (Pattern × List Char) :=
      readRepetitions manner bound (.repeated pattern least most) rest
    let bounds (rest : List Char) : Except PatternError (Pattern × List Char) := do
      let (least, most, behind) ← readBounds manner.isExtended rest
      again least most behind
    match manner.isExtended, chars with
    | _, '*' :: rest => again 0 none rest
    | true, '+' :: rest => again 1 none rest
    | true, '?' :: rest => again 0 (some 1) rest
    | true, '\x7b' :: rest =>
      if (rest.head?.map fun char => Text.isDigit char || char == ',').getD false then bounds rest
      else .ok (pattern, chars)
    | false, '\\' :: '+' :: rest => again 1 none rest
    | false, '\\' :: '?' :: rest => again 0 (some 1) rest
    | false, '\\' :: '\x7b' :: rest => bounds rest
    | _, _ => .ok (pattern, chars)

mutual

/-- Alternatives up to the end of a group. -/
def readEither (manner : PatternManner) : (bound : Nat) → (depth groups : Nat) → List Char →
    PatternRead
  | 0, _, _, _ => .error .badRepetition
  | bound + 1, depth, groups, chars => do
    let (first, groups, behind) ← readSequence manner bound depth groups true chars
    match manner.isExtended, behind with
    | true, '|' :: rest | false, '\\' :: '|' :: rest => do
      let (second, groups, behind) ← readEither manner bound depth groups rest
      .ok (.either first second, groups, behind)
    | _, behind => .ok (first, groups, behind)

/-- Parts up to the end of an alternative. -/
def readSequence (manner : PatternManner) : (bound : Nat) → (depth groups : Nat) →
    (isFirst : Bool) → List Char → PatternRead
  | 0, _, _, _, _ => .error .badRepetition
  | bound + 1, depth, groups, isFirst, chars =>
    if endsPart manner chars then
      if manner.isExtended && depth == 0 && chars.head? == some ')' then
        .error .closedParenthesis
      else .ok (.nothing, groups, chars)
    else do
      let (part, groups, behind) ← readPart manner bound depth groups isFirst chars
      let isStart := part == .start
      let (repeated, behind) ←
        if isStart && !manner.isExtended then .ok (part, behind)
        else readRepetitions manner behind.length part behind
      let (later, groups, behind) ←
        readSequence manner bound depth groups (isStart && !manner.isExtended) behind
      .ok (if later = .nothing then repeated else .sequence repeated later, groups, behind)

/-- A single part. -/
def readPart (manner : PatternManner) : (bound : Nat) → (depth groups : Nat) →
    (isFirst : Bool) → List Char → PatternRead
  | 0, _, _, _, _ => .error .badRepetition
  | _ + 1, _, groups, _, [] => .ok (.nothing, groups, [])
  | bound + 1, depth, groups, isFirst, char :: rest =>
    let readGroup (rest : List Char) : PatternRead := do
      let (inner, total, behind) ← readEither manner bound (depth + 1) (groups + 1) rest
      match manner.isExtended, behind with
      | true, ')' :: behind | false, '\\' :: ')' :: behind =>
        .ok (.group (groups + 1) inner, total, behind)
      | _, _ => .error .openParenthesis
    let literal : PatternRead := .ok (.char char, groups, rest)
    match char, rest with
    | '[', rest => do
      let (others, items) :=
        match rest with
        | '^' :: items => (true, items)
        | items => (false, items)
      let (ranges, behind) ← readItems manner (items.length + 1) true items
      .ok (.oneOf ranges others, groups, behind)
    | '.', rest => .ok (.anyChar, groups, rest)
    | '^', rest =>
      if manner.isExtended || isFirst then .ok (.start, groups, rest) else literal
    | '$', rest =>
      if manner.isExtended || endsPart manner rest then .ok (.finish, groups, rest) else literal
    | '(', rest => if manner.isExtended then readGroup rest else literal
    | '*', rest =>
      if manner.isExtended && isFirst then .ok (.nothing, groups, rest) else literal
    | '+', rest | '?', rest =>
      if manner.isExtended && isFirst then .ok (.nothing, groups, rest) else literal
    | '\\', [] => .error .lastBackslash
    | '\\', letter :: behind =>
      match letter with
      | '(' => if manner.isExtended then .ok (.char '(', groups, behind) else readGroup behind
      | ')' =>
        if manner.isExtended then .ok (.char ')', groups, behind)
        else .error .closedParenthesis
      | '\x7b' =>
        if manner.isExtended then .ok (.char letter, groups, behind)
        else .error .badRepetition
      | 'w' => .ok (.oneOf wordRanges false, groups, behind)
      | 'W' => .ok (.oneOf wordRanges true, groups, behind)
      | 's' => .ok (.oneOf [('\t', '\r'), (' ', ' ')] false, groups, behind)
      | 'S' => .ok (.oneOf [('\t', '\r'), (' ', ' ')] true, groups, behind)
      | 'b' => .ok (.wordEdge true, groups, behind)
      | 'B' => .ok (.wordEdge false, groups, behind)
      | '<' => .ok (.wordStart, groups, behind)
      | '>' => .ok (.wordEnd, groups, behind)
      | '\x60' => .ok (.limit true, groups, behind)
      | '\'' => .ok (.limit false, groups, behind)
      | letter =>
        if '1' ≤ letter && letter ≤ '9' then
          if groups < Text.digitValue letter then .error .badReference
          else .ok (.same (Text.digitValue letter), groups, behind)
        else
          match if manner.hasEscapes then hardChar? letter else none with
          | some char => .ok (.char char, groups, behind)
          | none => .ok (.char letter, groups, behind)
    | _, _ => literal

end

/-- The pattern that a text is, and the number of its groups. -/
def Pattern.read (manner : PatternManner) (text : String) :
    Except PatternError (Pattern × Nat) := do
  let chars := text.toList
  let (pattern, groups, behind) ← readEither manner (4 * chars.length + 8) 0 0 chars
  if behind.isEmpty then .ok (pattern, groups) else .error .closedParenthesis

/-- The pattern of a text that stands for itself. -/
def Pattern.literal (text : String) : Pattern :=
  text.toList.foldr (fun char later => if later = .nothing then .char char else
    .sequence (.char char) later) .nothing

/-! ## Occurrences -/

/-- A text in which patterns are looked for. -/
structure Subject where
  /-- Its characters. -/
  chars : Array Char
  /-- Whether small and capital letters are the same. -/
  ignoresCase : Bool := false
  /-- Whether the beginnings and ends of lines count, too. -/
  hasLines : Bool := false

namespace Subject

/-- The character at a place. -/
def charAt? (subject : Subject) (place : Nat) : Option Char := subject.chars[place]?

/-- Whether a word can have the character at a place in it. -/
def isWordAt (subject : Subject) (place : Nat) : Bool :=
  ((subject.charAt? place).map (inRanges wordRanges)).getD false

/-- Whether there is a character of a word in front of a place. -/
def isWordBefore (subject : Subject) (place : Nat) : Bool :=
  place ≠ 0 && subject.isWordAt (place - 1)

/-- The characters between two places. -/
def between (subject : Subject) (start finish : Nat) : List Char :=
  (subject.chars.extract start finish).toList

end Subject

/-- The parts that are remembered, by their numbers, each with its start and its end. -/
abbrev Groups := List (Nat × Nat × Nat)

/-- A place that a match has reached. -/
structure Reach where
  /-- The place. -/
  place : Nat
  /-- What is remembered. -/
  groups : Groups
deriving DecidableEq, Repr

/-- The start and the end of a part that is remembered. -/
def Reach.group? (reach : Reach) (index : Nat) : Option (Nat × Nat) :=
  (reach.groups.find? fun entry => entry.1 == index).map (·.2)

/-- The reaches without those that come to the place of an earlier one, the farthest first. -/
def farthest (reaches : List Reach) : List Reach :=
  let distinct := reaches.foldl
    (fun (kept : List Reach) reach =>
      if kept.any fun other => other.place == reach.place then kept else reach :: kept)
    []
  distinct.reverse.mergeSort fun first second => second.place ≤ first.place

/-- All places that steps reach from some places, as often as they lead on. -/
def closure (step : Reach → List Reach) : (bound : Nat) → (found : List Reach) →
    (fresh : List Reach) → List Reach
  | 0, found, _ | _, found, [] => found
  | bound + 1, found, fresh =>
    let next := farthest (fresh.flatMap fun reach =>
      (step reach).filter fun later => reach.place < later.place)
    let new := next.filter fun later => !found.any fun reach => reach.place == later.place
    closure step bound (found ++ new) new

/-- The places that a number of steps reaches. -/
def stepsOf (step : Reach → List Reach) : (count : Nat) → List Reach → List Reach
  | 0, reaches => reaches
  | count + 1, reaches => stepsOf step count (farthest (reaches.flatMap step))

/-- The places that at most a number of steps reaches. -/
def stepsUpTo (step : Reach → List Reach) : (count : Nat) → (found : List Reach) →
    (fresh : List Reach) → List Reach
  | 0, found, _ => found
  | _, found, [] => found
  | count + 1, found, fresh =>
    let next := farthest (fresh.flatMap step)
    stepsUpTo step count (found ++ next) next

/-- The places at which a match of a pattern can end that begins at a place, the farthest first. -/
def Pattern.reaches (subject : Subject) : Pattern → Reach → List Reach
  | .nothing, reach => [reach]
  | .oneOf ranges others, reach =>
    match subject.charAt? reach.place with
    | none => []
    | some char =>
      let isIn :=
        inRanges ranges char ||
          (subject.ignoresCase && (inRanges ranges char.toLower || inRanges ranges char.toUpper))
      if isIn != others then [{ reach with place := reach.place + 1 }] else []
  | .start, reach =>
    if reach.place = 0 ∨
        (subject.hasLines ∧ subject.charAt? (reach.place - 1) = some '\n') then [reach]
    else []
  | .finish, reach =>
    if reach.place = subject.chars.size ∨
        (subject.hasLines ∧ subject.charAt? reach.place = some '\n') then [reach]
    else []
  | .limit isStart, reach =>
    if reach.place = (if isStart then 0 else subject.chars.size) then [reach] else []
  | .wordStart, reach =>
    if !subject.isWordBefore reach.place && subject.isWordAt reach.place then [reach] else []
  | .wordEnd, reach =>
    if subject.isWordBefore reach.place && !subject.isWordAt reach.place then [reach] else []
  | .wordEdge isEdge, reach =>
    if (subject.isWordBefore reach.place != subject.isWordAt reach.place) == isEdge then [reach]
    else []
  | .group index inner, reach =>
    (inner.reaches subject reach).map fun later =>
      { later with groups := (index, reach.place, later.place) :: later.groups }
  | .same index, reach =>
    match reach.group? index with
    | none => []
    | some (first, last) =>
      let wanted := subject.between first last
      let found := subject.between reach.place (reach.place + (last - first))
      let isSame :=
        if subject.ignoresCase then wanted.map Char.toLower == found.map Char.toLower
        else wanted == found
      if isSame then [{ reach with place := reach.place + (last - first) }] else []
  | .sequence first second, reach =>
    farthest ((first.reaches subject reach).flatMap (second.reaches subject))
  | .either first second, reach =>
    farthest (first.reaches subject reach ++ second.reaches subject reach)
  | .repeated inner least most, reach =>
    let step := inner.reaches subject
    let first := stepsOf step least [reach]
    match most with
    | none => farthest (closure step (subject.chars.size + 1) first first)
    | some most => farthest (stepsUpTo step (most - least) first first)

/-- An occurrence of a pattern. -/
structure Occurrence where
  /-- The place at which it begins. -/
  start : Nat
  /-- The place behind its end. -/
  finish : Nat
  /-- It does not end before it begins. -/
  start_le_finish : start ≤ finish
  /-- What is remembered. -/
  groups : Groups

/-- The longest occurrence of a pattern that begins at a place. -/
def Pattern.occurrenceAt? (pattern : Pattern) (subject : Subject) (place : Nat) :
    Option Occurrence :=
  match (pattern.reaches subject ⟨place, []⟩).head? with
  | none => none
  | some reach =>
    if ordered : place ≤ reach.place then some ⟨place, reach.place, ordered, reach.groups⟩
    else none

/-- The first occurrence of a pattern that begins at one of `count` places from a place on. -/
def Pattern.occurrenceFrom? (pattern : Pattern) (subject : Subject) : (count place : Nat) →
    Option Occurrence
  | 0, _ => none
  | count + 1, place =>
    match pattern.occurrenceAt? subject place with
    | some occurrence => some occurrence
    | none => pattern.occurrenceFrom? subject count (place + 1)

/-- The first occurrence of a pattern from a place on. -/
def Pattern.occurrence? (pattern : Pattern) (subject : Subject) (place : Nat) :
    Option Occurrence :=
  pattern.occurrenceFrom? subject (subject.chars.size + 1 - place) place

/-- Whether a pattern occurs in a text. -/
def Pattern.occursIn (pattern : Pattern) (subject : Subject) : Bool :=
  (pattern.occurrence? subject 0).isSome

end ShapeScene.Script
