import ShapeScene.Script.Syntax
import ShapeScene.Text.Search

/-!
# Tokens of scripts

A script is cut into words, operators and ends of lines. Quotes are resolved while it is cut; the
text of an expansion is kept as it stands. A document, which is the input of a command, stands in
the lines behind that of the command, up to a line that its redirection names.
-/

namespace ShapeScene.Script

/-- A token. -/
inductive Token where
  /-- A word. -/
  | word (word : Word)
  /-- An operator, by its characters. -/
  | operator (symbol : String)
  /-- The end of a line. -/
  | newline
  /-- A redirection whose word follows. -/
  | redirect (stream : Nat) (target : Target)
  /-- A redirection that is complete. -/
  | redirection (redirection : Redirection)
  /-- A document that belongs to the first redirection without one. -/
  | document (content : Word)
  /-- The end of the script. -/
  | finish
  /-- An error behind which nothing can be read. -/
  | broken (error : SyntaxError)
deriving DecidableEq, Repr

/-- A token with the number of the line on which it ends. -/
structure Placed where
  /-- The token. -/
  token : Token
  /-- The line. -/
  line : Nat
deriving DecidableEq, Repr

/-- A token in an error message. -/
def Token.shown : Token → String
  | word _ => "word"
  | operator symbol => "\"" ++ symbol ++ "\""
  | newline => "newline"
  | redirect _ _ | redirection _ | document _ => "redirection"
  | finish | broken _ => "end of file"

/-- A token as the form of a choice. -/
def Token.form : Token → Word
  | word found => found
  | _ => []

/-! ## Modes of reading -/

/-- Where words are read. -/
inductive Ground where
  /-- In a script, where blanks and operators stand between words. -/
  | script
  /-- In an expansion, where blanks and operators stand for themselves. -/
  | value
  /-- In an expansion between double quotes. -/
  | quotedValue
  /-- In a document, where quotes stand for themselves, too. -/
  | document
deriving DecidableEq, Repr

/-- The quotes between which characters stand. -/
inductive Quotes where
  /-- None. -/
  | none
  /-- Single quotes. -/
  | single
  /-- Double quotes. -/
  | double
deriving DecidableEq, Repr

/-- What has been opened and not yet closed within an expansion. -/
inductive Bracket where
  /-- A brace. -/
  | brace
  /-- A parenthesis in a script. -/
  | parenthesis
  /-- The two parentheses of a formula. -/
  | formula
  /-- A parenthesis in a formula. -/
  | group
  /-- The mark of a comment, which its line closes. -/
  | comment
  /-- The beginning of documents, which some lines close one after the other; tabs in front of such
  a line may be left out. -/
  | documents (ends : List (List Char × Bool))
  /-- A backquote. -/
  | backquote
  /-- A single quote. -/
  | single
  /-- A double quote. -/
  | double
deriving DecidableEq, Repr

/-- How characters are read. -/
inductive Mode where
  /-- As text. -/
  | text (quotes : Quotes)
  /-- As a comment. -/
  | comment
  /-- As the name of a parameter. -/
  | name (reversed : List Char) (quotes : Quotes)
  /-- As the inside of an expansion that begins on some line, with what is open in it; the last one
  is its own bracket. -/
  | inside (opened : List Bracket) (line : Nat) (reversed : List Char) (quotes : Quotes)
  /-- As a line of a document, with the lines before it. -/
  | lines (reversedLine reversed : List Char)
deriving DecidableEq, Repr

/-- How the lines of a document end. -/
structure DocumentEnd where
  /-- The line behind the last one. -/
  line : List Char
  /-- Whether expansions in the document stand for themselves. -/
  isLiteral : Bool
  /-- Whether tabs in front of lines are left out. -/
  dropsTabs : Bool
deriving DecidableEq, Repr

/-- What is known at a place between two characters. -/
structure Spot where
  /-- The number of the line. -/
  line : Nat := 1
  /-- The word that has begun. -/
  word : Option Word := none
  /-- Whether the next word ends a document, and whether tabs are left out of that. -/
  awaited : Option Bool := none
  /-- The ends of the documents that are to come. -/
  ends : List DocumentEnd := []
deriving DecidableEq, Repr

namespace Spot

/-- A character behind the word. -/
def push (spot : Spot) (char : Char) (quotes : Quotes) : Spot :=
  { spot with word := some ((spot.word.getD []).push char (quotes != .none)) }

/-- Characters behind the word. -/
def pushAll (spot : Spot) (chars : List Char) (quotes : Quotes) : Spot :=
  chars.foldl (fun spot char => spot.push char quotes) spot

/-- An expansion behind the word. -/
def expand (spot : Spot) (expansion : Expansion) (quotes : Quotes) : Spot :=
  { spot with word := some (spot.word.getD [] ++ [.expansion expansion (quotes != .none)]) }

/-- Quotes behind the word that may hold nothing. -/
def quote (spot : Spot) : Spot :=
  { spot with word := some (spot.word.getD [] ++ [.text [] true]) }

/-- The place on the next line if a character ends the line. -/
def pass (spot : Spot) (char : Char) : Spot :=
  if char = '\n' then { spot with line := spot.line + 1 } else spot

/-- The token of the word. -/
def closed (spot : Spot) : List Placed :=
  match spot.word with
  | none => []
  | some word => [⟨.word word, spot.line⟩]

/-- The place behind the word. -/
def close (spot : Spot) : Spot :=
  match spot.word, spot.awaited with
  | none, _ => spot
  | some _, none => { spot with word := none }
  | some word, some dropsTabs =>
    { spot with
      word := none
      awaited := none
      ends := spot.ends ++ [⟨word.literal, word.hasQuotes, dropsTabs⟩] }

/-- The stream that a digit in front of a redirection names. -/
def stream? (spot : Spot) : Option Nat :=
  match spot.word with
  | some [.text [digit] false] =>
    if Text.isDigit digit then some (Text.digitValue digit) else none
  | _ => none

/-- The tokens of a redirection of a stream, with that of a word in front that names no stream. -/
def redirected (spot : Spot) (stream : Nat) (target : Target) : List Placed :=
  match spot.stream? with
  | some stream => [⟨.redirect stream target, spot.line⟩]
  | none => spot.closed ++ [⟨.redirect stream target, spot.line⟩]

/-- The place behind a redirection. -/
def redirect (spot : Spot) (awaited : Option Bool) : Spot :=
  { (if spot.stream?.isSome then { spot with word := none } else spot.close) with
    awaited := awaited }

end Spot

/-! ## Expansions -/

/-- Whether a character is the whole name of a parameter. -/
def isShortName (char : Char) : Bool := Text.isDigit char || "$?#@*!-".toList.contains char

/-- The name of a parameter in front of some characters. -/
def splitName : List Char → List Char × List Char
  | [] => ([], [])
  | char :: rest =>
    if Text.isDigit char then (char :: rest).span Text.isDigit
    else if isNameStart char then (char :: rest).span isNameChar
    else if isShortName char then ([char], rest)
    else ([], char :: rest)

/-- What the characters behind the name of a parameter make of its value. -/
def treatment : List Char → Treatment
  | [] => .asIs
  | ':' :: '-' :: word => .remedy .replace true word
  | '-' :: word => .remedy .replace false word
  | ':' :: '=' :: word => .remedy .assign true word
  | '=' :: word => .remedy .assign false word
  | ':' :: '?' :: word => .remedy .complain true word
  | '?' :: word => .remedy .complain false word
  | ':' :: '+' :: word => .remedy .swap true word
  | '+' :: word => .remedy .swap false word
  | '#' :: '#' :: form => .trim false true form
  | '#' :: form => .trim false false form
  | '%' :: '%' :: form => .trim true true form
  | '%' :: form => .trim true false form
  | _ => .bad

/-- The parameter that stands between braces, and what is made of it. -/
def bracedParameter (chars : List Char) : Expansion :=
  match chars with
  | '#' :: char :: rest =>
    match splitName (char :: rest) with
    | (_ :: _, []) => .parameter (char :: rest) .length
    | _ => .parameter ['#'] (treatment (char :: rest))
  | chars =>
    match splitName chars with
    | ([], _) => .parameter chars .bad
    | (name, rest) => .parameter name (treatment rest)

/-- The script between backquotes, where a backslash takes the meaning from another one, from a
dollar sign and from a backquote. -/
def backquoted (isQuoted : Bool) : List Char → List Char
  | '\\' :: char :: rest =>
    if "$\\\x60".toList.contains char || (isQuoted && char == '"') then
      char :: backquoted isQuoted rest
    else '\\' :: char :: backquoted isQuoted rest
  | char :: rest => char :: backquoted isQuoted rest
  | [] => []

/-- The expansion with a bracket of its own around some characters. The lines between backquotes
are counted from one. -/
def Bracket.enclose (bracket : Bracket) (line : Nat) (isQuoted : Bool) (chars : List Char) :
    Expansion :=
  match bracket with
  | .brace => bracedParameter chars
  | .formula => .formula chars
  | .parenthesis => .output (some line) chars
  | _ => .output none (backquoted isQuoted chars)

/-- The error of brackets that are not closed before the end of a text, which is on some line.
`reversed` is what stands behind the first of them. -/
def unclosed (line : Nat) (isQuoted : Bool) (opened : List Bracket) (reversed : List Char) :
    SyntaxError :=
  match opened with
  | .backquote :: _ => .openBackquote line
  | .single :: _ | .double :: _ => .openQuote line
  | .brace :: outer =>
    let behind := (reversed.takeWhile (· ≠ '\x7b')).reverse.span isNameChar
    let seen := if behind.2.head? = some '\n' then line - 1 else line
    if isQuoted || outer.contains .double || outer.head?.any isOfFormula then .openQuote seen
    else .openBrace seen
  | bracket :: _ =>
    if isOfFormula bracket then .openFormula line
    else .unexpected line "end of file" (some "\")\"")
  | [] => .unexpected line "end of file" (some "\")\"")
where
  /-- Whether a bracket belongs to a formula. -/
  isOfFormula (bracket : Bracket) : Bool := bracket == .formula || bracket == .group

/-- Whether a bracket gives other characters no meaning but its end. -/
def Bracket.isBlind : Bracket → Bool
  | .single | .backquote | .comment | .documents _ => true
  | _ => false

/-- Whether a backslash is a character like others behind a bracket. -/
def Bracket.isLiteral : Bracket → Bool
  | .single | .comment | .documents _ => true
  | _ => false

/-- The ends of the documents for which a line of a script asks. -/
def documentEnds : (quote : Option Char) → List Char → List (List Char × Bool)
  | _, [] => []
  | some quote, char :: rest => documentEnds (if char = quote then none else some quote) rest
  | none, '\\' :: _ :: rest => documentEnds none rest
  | none, '<' :: '<' :: rest =>
    let dropsTabs := rest.head? == some '-'
    let word := ((if dropsTabs then rest.tail else rest).dropWhile (· = ' ')).takeWhile
      fun char => !" \t;&|()<>".toList.contains char
    (word.filter fun char => !"'\"\\".toList.contains char, dropsTabs) :: documentEnds none rest
  | none, char :: rest =>
    documentEnds (if char = '\'' ∨ char = '"' then some char else none) rest

/-- Whether a line is the end of a document. -/
def isEnd (documentEnd : List Char × Bool) (line : List Char) : Bool :=
  (if documentEnd.2 then line.dropWhile (· = '\t') else line) == documentEnd.1

/-- What is open within an expansion behind a character that is no backslash and no dollar sign;
none if the expansion is closed. `reversed` is what stands before the character, and `rest` what
stands behind it. -/
def openedAfter (opened : List Bracket) (isQuoted : Bool) (reversed : List Char) (char : Char)
    (rest : List Char) : List Bracket :=
  let isLiteral (outer : List Bracket) : Bool := outer.head?.elim isQuoted (· == .double)
  let beginsWord : Bool := reversed.head?.all " \t\n;&|()".toList.contains
  let line : List Char := (reversed.takeWhile (· ≠ '\n')).reverse
  match opened, char with
  | .comment :: outer, '\n' => outer
  | .comment :: _, _ => opened
  | .documents (documentEnd :: ends) :: outer, '\n' =>
    if !isEnd documentEnd line then opened
    else if ends.isEmpty then outer
    else .documents ends :: outer
  | .documents _ :: _, _ => opened
  | .parenthesis :: _, '\n' =>
    let ends := (documentEnds none line).filter fun documentEnd =>
      (rest.splitOn '\n').any (isEnd documentEnd)
    if ends.isEmpty then opened else .documents ends :: opened
  | .single :: outer, '\'' => outer
  | .single :: _, _ => opened
  | .backquote :: outer, '\x60' => outer
  | .backquote :: _, _ => opened
  | .double :: outer, '"' => outer
  | .brace :: outer, '\x7d' => outer
  | .parenthesis :: outer, ')' => outer
  | .parenthesis :: _, '(' => .parenthesis :: opened
  | .parenthesis :: _, '#' => if beginsWord then .comment :: opened else opened
  | .group :: outer, ')' => outer
  | .formula :: _, '(' | .group :: _, '(' => .group :: opened
  | .brace :: outer, '\'' => if isLiteral outer then opened else .single :: opened
  | .parenthesis :: _, '\'' => .single :: opened
  | _, '"' => .double :: opened
  | _, '\x60' => .backquote :: opened
  | _, _ => opened

/-- Whether a choice between forms has begun in a script, which is given backwards, and has not
ended. A parenthesis that is closed then belongs to a form. -/
def hasOpenChoice (reversed : List Char) : Bool :=
  let isBetween (char : Char) : Bool := " \t\n;&|()".toList.contains char
  let words := (reversed.reverse.splitBy fun first second => !isBetween first && !isBetween second)
  words.count "esac".toList < min (words.count "case".toList) (words.count "in".toList)

/-! ## Scanning -/

/-- The characters that are operators by themselves or twice. -/
def operatorChars : List Char := ";&|()".toList

/-- The characters from which a backslash between double quotes takes their meaning. -/
def escapable (ground : Ground) : List Char :=
  match ground with
  | .document => "$\\\x60".toList
  | .quotedValue => "$\"\\\x60\x7d".toList
  | _ => "$\"\\\x60".toList

/-- A line of a document with a reading of its tabs. -/
def DocumentEnd.lineOf (documentEnd : DocumentEnd) (reversedLine : List Char) : List Char :=
  if documentEnd.dropsTabs then reversedLine.reverse.dropWhile (· = '\t')
  else reversedLine.reverse

/-- The mode behind the end of a line. -/
def Spot.nextMode (spot : Spot) : Mode := if spot.ends.isEmpty then .text .none else .lines [] []

/-- The tokens of the characters behind a place. A document is given as one literal text. -/
def scan (ground : Ground) : Mode → Spot → List Char → List Placed
  | .text quotes, spot, [] =>
    if ground = .script && quotes != .none then [⟨.broken (.openQuote spot.line), spot.line⟩]
    else spot.closed ++ [⟨.finish, spot.line⟩]
  | .comment, spot, [] => spot.closed ++ [⟨.finish, spot.line⟩]
  | .name reversed quotes, spot, [] =>
    if ground = .script && quotes != .none then [⟨.broken (.openQuote spot.line), spot.line⟩]
    else
      (spot.expand (.parameter reversed.reverse .asIs) quotes).closed ++ [⟨.finish, spot.line⟩]
  | .inside opened _ reversed quotes, spot, [] =>
    [⟨.broken (unclosed spot.line (quotes == .double) opened reversed), spot.line⟩]
  | .lines reversedLine reversed, spot, [] =>
    let documents :=
      spot.ends.mapIdx fun index documentEnd =>
        let last := documentEnd.lineOf reversedLine
        let content :=
          if index = 0 then reversed.reverse ++ (if last = documentEnd.line then [] else last)
          else []
        (⟨.document [.text content documentEnd.isLiteral], spot.line⟩ : Placed)
    documents ++ [⟨.finish, spot.line⟩]
  | .lines reversedLine reversed, spot, char :: rest =>
    if char ≠ '\n' then scan ground (.lines (char :: reversedLine) reversed) spot rest
    else
      let later := spot.pass char
      match spot.ends with
      | [] => scan ground (.text .none) later rest
      | documentEnd :: ends =>
        let line := documentEnd.lineOf reversedLine
        if line = documentEnd.line then
          let later := { later with ends := ends }
          ⟨.document [.text reversed.reverse documentEnd.isLiteral], spot.line⟩ ::
            scan ground later.nextMode later rest
        else scan ground (.lines [] ('\n' :: (line.reverse ++ reversed))) later rest
  | .comment, spot, char :: rest =>
    if char = '\n' then
      let later := spot.close.pass char
      spot.closed ++ ⟨.newline, later.line⟩ :: scan ground later.nextMode later rest
    else scan ground .comment spot rest
  | .name reversed quotes, spot, char :: rest =>
    if (rest.head?.map isNameChar).getD false then
      scan ground (.name (char :: reversed) quotes) spot rest
    else
      scan ground (.text quotes)
        (spot.expand (.parameter (char :: reversed).reverse .asIs) quotes) rest
  | .inside opened line reversed quotes, spot, '\\' :: char :: rest =>
    if opened.head?.any Bracket.isLiteral then
      scan ground (.inside opened line ('\\' :: reversed) quotes) spot (char :: rest)
    else
      scan ground (.inside opened line (char :: '\\' :: reversed) quotes) (spot.pass char) rest
  | .inside opened line reversed quotes, spot, '$' :: '\x7b' :: rest =>
    let isBlind := opened.head?.any Bracket.isBlind
    scan ground
      (.inside (if isBlind then opened else .brace :: opened) line ('\x7b' :: '$' :: reversed)
        quotes) spot rest
  | .inside opened line reversed quotes, spot, '$' :: '(' :: '(' :: rest =>
    let isBlind := opened.head?.any Bracket.isBlind
    scan ground
      (.inside (if isBlind then opened else .formula :: opened) line
        ('(' :: '(' :: '$' :: reversed) quotes) spot rest
  | .inside opened line reversed quotes, spot, '$' :: '(' :: rest =>
    let isBlind := opened.head?.any Bracket.isBlind
    scan ground
      (.inside (if isBlind then opened else .parenthesis :: opened) line ('(' :: '$' :: reversed)
        quotes) spot rest
  | .inside opened line reversed quotes, spot, char :: rest =>
    match opened, char, rest with
    | [.formula], ')', ')' :: behind =>
      scan ground (.text quotes) (spot.expand (.formula reversed.reverse) quotes) behind
    | .formula :: outer, ')', ')' :: behind =>
      scan ground (.inside outer line (')' :: ')' :: reversed) quotes) spot behind
    | opened, char, rest =>
      let isForm := opened == [.parenthesis] && char == ')' && hasOpenChoice reversed
      let after := openedAfter opened (quotes == .double) reversed char rest
      match if isForm then opened else after with
      | [] =>
        let bracket := opened.getLastD .brace
        scan ground (.text quotes)
          (spot.expand (bracket.enclose line (quotes == .double) reversed.reverse) quotes) rest
      | opened => scan ground (.inside opened line (char :: reversed) quotes) (spot.pass char) rest
  | .text .single, spot, char :: rest =>
    if char = '\'' then scan ground (.text .none) spot rest
    else scan ground (.text .single) ((spot.push char .single).pass char) rest
  | .text .double, spot, '\\' :: char :: rest =>
    if char = '\n' then scan ground (.text .double) (spot.pass char) rest
    else
      let kept := if (escapable ground).contains char then [char] else ['\\', char]
      scan ground (.text .double) (spot.pushAll kept .double) rest
  | .text .none, spot, '\\' :: char :: rest =>
    if char = '\n' then scan ground (.text .none) (spot.pass char) rest
    else scan ground (.text .none) (spot.push char .single) rest
  | .text quotes, spot, '$' :: rest =>
    match rest with
    | [] => scan ground (.text quotes) (spot.push '$' quotes) []
    | '\x7b' :: rest => scan ground (.inside [.brace] spot.line [] quotes) spot rest
    | '(' :: '(' :: rest => scan ground (.inside [.formula] spot.line [] quotes) spot rest
    | '(' :: rest => scan ground (.inside [.parenthesis] spot.line [] quotes) spot rest
    | char :: behind =>
      if isShortName char then
        scan ground (.text quotes) (spot.expand (.parameter [char] .asIs) quotes) behind
      else if isNameStart char then
        if (behind.head?.map isNameChar).getD false then
          scan ground (.name [char] quotes) spot behind
        else scan ground (.text quotes) (spot.expand (.parameter [char] .asIs) quotes) behind
      else scan ground (.text quotes) (spot.push '$' quotes) (char :: behind)
  | .text quotes, spot, '\x60' :: rest =>
    scan ground (.inside [.backquote] spot.line [] quotes) spot rest
  | .text .double, spot, '"' :: rest =>
    match ground with
    | .document => scan ground (.text .double) (spot.push '"' .double) rest
    | .quotedValue => scan ground (.text .double) spot rest
    | _ => scan ground (.text .none) spot rest
  | .text .double, spot, char :: rest =>
    scan ground (.text .double) ((spot.push char .double).pass char) rest
  | .text .none, spot, '\'' :: rest => scan ground (.text .single) spot.quote rest
  | .text .none, spot, '"' :: rest => scan ground (.text .double) spot.quote rest
  | .text .none, spot, char :: rest =>
    if ground ≠ .script then scan ground (.text .none) (spot.push char .none) rest
    else
      match char, rest with
      | '\n', rest =>
        let later := { spot.close.pass char with awaited := none }
        spot.closed ++ ⟨.newline, later.line⟩ :: scan ground later.nextMode later rest
      | '>', '>' :: rest =>
        spot.redirected 1 .append ++ scan ground (.text .none) (spot.redirect none) rest
      | '>', '&' :: rest =>
        spot.redirected 1 .copy ++ scan ground (.text .none) (spot.redirect none) rest
      | '>', '|' :: rest =>
        spot.redirected 1 .output ++ scan ground (.text .none) (spot.redirect none) rest
      | '>', rest =>
        spot.redirected 1 .freshOutput ++ scan ground (.text .none) (spot.redirect none) rest
      | '<', '<' :: '-' :: rest =>
        spot.redirected 0 .document ++
          scan ground (.text .none) (spot.redirect (some true)) rest
      | '<', '<' :: rest =>
        spot.redirected 0 .document ++
          scan ground (.text .none) (spot.redirect (some false)) rest
      | '<', '&' :: rest =>
        spot.redirected 0 .copy ++ scan ground (.text .none) (spot.redirect none) rest
      | '<', '>' :: rest =>
        spot.redirected 0 .both ++ scan ground (.text .none) (spot.redirect none) rest
      | '<', rest =>
        spot.redirected 0 .input ++ scan ground (.text .none) (spot.redirect none) rest
      | '&', '&' :: rest =>
        spot.closed ++ ⟨.operator "&&", spot.line⟩ :: scan ground (.text .none) spot.close rest
      | '|', '|' :: rest =>
        spot.closed ++ ⟨.operator "||", spot.line⟩ :: scan ground (.text .none) spot.close rest
      | ';', ';' :: rest =>
        spot.closed ++ ⟨.operator ";;", spot.line⟩ :: scan ground (.text .none) spot.close rest
      | char, rest =>
        if char = ' ' ∨ char = '\t' then
          spot.closed ++ scan ground (.text .none) spot.close rest
        else if char = '#' ∧ spot.word.isNone then scan ground .comment spot rest
        else if operatorChars.contains char then
          spot.closed ++ ⟨.operator (String.singleton char), spot.line⟩ ::
            scan ground (.text .none) spot.close rest
        else scan ground (.text .none) (spot.push char .none) rest

/-- The one word that some characters are, which begin on some line. -/
def Word.ofChars (ground : Ground) (line : Nat) (chars : List Char) : Word :=
  let quotes := if ground = .quotedValue ∨ ground = .document then Quotes.double else .none
  match scan ground (.text quotes) { line := line, word := some [] } chars with
  | ⟨.word word, _⟩ :: _ => word
  | _ => []

/-- The word that is the text of a document on some line. -/
def documentWord (line : Nat) (content : Word) : Word :=
  if content.hasQuotes then content else Word.ofChars .document line content.literal

/-- The tokens with every document at its redirection. -/
def attachDocuments : (documents : List Word) → List Placed → List Placed
  | documents, ⟨.redirect stream .document, line⟩ :: ⟨.word _, later⟩ :: rest =>
    match documents with
    | content :: documents =>
      ⟨.redirection ⟨stream, .document, documentWord line content⟩, line⟩ ::
        attachDocuments documents rest
    | [] => ⟨.redirection ⟨stream, .document, []⟩, later⟩ :: attachDocuments [] rest
  | documents, ⟨.document _, _⟩ :: rest => attachDocuments documents rest
  | documents, placed :: rest => placed :: attachDocuments documents rest
  | _, [] => []

/-- The tokens of a script whose first line has a number. The last one is its end or an error. -/
def tokens (line : Nat) (script : List Char) : List Placed :=
  let scanned := scan .script (.text .none) { line := line } script
  let documents := scanned.filterMap fun placed =>
    match placed.token with
    | .document content => some content
    | _ => none
  attachDocuments documents scanned

end ShapeScene.Script
