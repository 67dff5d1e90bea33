import ShapeScene.Script.Form
import ShapeScene.Script.Formula
import ShapeScene.Script.Machine
import ShapeScene.Script.Token

/-!
# The texts of words

A word gets its text when its command runs. What comes from an expansion outside quotes is divided
where separators are, so one word can become many texts or none; a text with stars and the like
becomes the paths of that form, if there are any.
-/

namespace ShapeScene.Script

/-- What a script writes whose first line has a number, and the machine after it. -/
abbrev Capture := Nat → List Char → Machine → List UInt8 × Machine

/-- A character and whether it is quoted. -/
abbrev MarkedChar := Char × Bool

/-- A part of an expanded word. -/
inductive Atom where
  /-- A character that may stand for others in a form unless it is quoted. -/
  | char (char : Char) (quoted : Bool)
  /-- Quotes, which make a text even if there is nothing between them. -/
  | quotes
  /-- A blank at which the word is divided. -/
  | soft
  /-- A separator that is no blank. -/
  | hard
  /-- The end of an argument. -/
  | cut
deriving DecidableEq, Repr

/-! ## Dividing -/

/-- The separators that are blanks. -/
def isSoft (char : Char) : Bool := char == ' ' || char == '\t' || char == '\n'

/-- A character of an expansion that is divided at separators. -/
def divisible (separators : List Char) (char : Char) : Atom :=
  if !separators.contains char then .char char false
  else if isSoft char then .soft
  else .hard

/-- The atoms of the text of an expansion; `separators` divide it unless it is quoted. -/
def atomsOf (separators : List Char) (quoted : Bool) (value : List Char) : List Atom :=
  if quoted then .quotes :: value.map (.char · true) else value.map (divisible separators)

/-- The atoms of arguments, between which the word is divided. -/
def atomsOfArguments (separators : List Char) (quoted : Bool) : List String → List Atom
  | [] => []
  | [last] => atomsOf separators quoted last.toList
  | first :: later =>
    atomsOf separators quoted first.toList ++ .cut :: atomsOfArguments separators quoted later

/-- The texts between the separators of atoms. `current` is the text that has begun, reversed, and
`afterSoft` says whether the last separator was a blank: one that is no blank belongs to it. -/
def divide : (current : Option (List MarkedChar)) → (afterSoft : Bool) → List Atom →
    List (List MarkedChar)
  | current, _, [] => (current.map List.reverse).toList
  | some chars, _, .soft :: rest => chars.reverse :: divide none true rest
  | none, afterSoft, .soft :: rest => divide none afterSoft rest
  | some chars, _, .hard :: rest => chars.reverse :: divide none false rest
  | none, afterSoft, .hard :: rest =>
    if afterSoft then divide none false rest else [] :: divide none false rest
  | current, _, .cut :: rest => (current.map List.reverse).toList ++ divide none false rest
  | current, _, .quotes :: rest => divide (some (current.getD [])) false rest
  | current, _, .char char quoted :: rest =>
    divide (some ((char, quoted) :: current.getD [])) false rest

/-- The characters of atoms. -/
def charsOf (atoms : List Atom) : List MarkedChar :=
  atoms.filterMap fun atom =>
    match atom with
    | .char char quoted => some (char, quoted)
    | .soft | .hard | .cut => some (' ', false)
    | .quotes => none

/-- The text of characters. -/
def plainText (chars : List MarkedChar) : String := String.ofList (chars.map (·.1))

/-! ## Paths of a form -/

/-- The parts of characters between slashes. -/
def splitSlashes : List MarkedChar → List (List MarkedChar)
  | [] => [[]]
  | char :: rest =>
    if char.1 = '/' then [] :: splitSlashes rest
    else
      match splitSlashes rest with
      | [] => [[char]]
      | part :: parts => (char :: part) :: parts

/-- The paths behind `base` whose parts have some forms. -/
def pathsFrom (files : FileTree) : (base : String) → (forms : List (List MarkedChar)) → List String
  | base, [] => [base]
  | base, form :: forms =>
    let step (name : String) : List String :=
      let path := base ++ name
      if forms.isEmpty then [path]
      else if name.isEmpty || files.isFolder path then pathsFrom files (path ++ "/") forms
      else []
    if isForm form then
      let entries := (files.entries (if base.isEmpty then "." else base)).toOption.getD []
      let names := "." :: ".." :: entries.map (·.1)
      let showsHidden := (form.head?.map (·.1)) == some '.'
      let suits (name : String) : Bool :=
        (showsHidden || name.toList.head? != some '.') && fits (formOf form) name.toList
      (names.filter suits).flatMap step
    else
      let path := base ++ plainText form
      if forms.isEmpty && !hasEntry files path && (files.linkTarget? path).isNone then []
      else step (plainText form)

/-- The paths of a form in the order of their characters, or its text if there are none. -/
def pathsOf (files : FileTree) (form : List MarkedChar) : List String :=
  if !isForm form then [plainText form]
  else
    match pathsFrom files "" (splitSlashes form) with
    | [] => [plainText form]
    | paths => paths.mergeSort fun first second => first ≤ second

namespace Machine

/-- The characters that divide expansions. -/
def separators (machine : Machine) : List Char :=
  ((machine.valueOf? "IFS").getD " \t\n").toList

/-- The text between the arguments where they are one text. -/
def joint (machine : Machine) : String := String.ofList (machine.separators.take 1)

/-- The value of a word whose first piece is the name of the home folder, with that name replaced.
-/
def atHome (machine : Machine) : Word → Word
  | .text ('~' :: rest) false :: pieces =>
    match machine.valueOf? "HOME" with
    | some home =>
      if rest.head? = some '/' ∨ (rest.isEmpty ∧ pieces.isEmpty) then
        .text home.toList true :: .text rest false :: pieces
      else .text ('~' :: rest) false :: pieces
    | none => .text ('~' :: rest) false :: pieces
  | word => word

/-- The machine after the complaint that a parameter has no value. -/
def missParameter (machine : Machine) (name : List Char) : Machine :=
  machine.abort (String.ofList name ++ ": parameter not set")

/-- The atoms of the value of a parameter. -/
def expandValue (machine : Machine) (divided : Bool) (quoted : Bool) (name : List Char) :
    List Atom × Machine :=
  let separators := if divided then machine.separators else []
  let joined (between : String) : List Atom × Machine :=
    (atomsOf separators quoted (Text.joinWith between machine.arguments).toList, machine)
  match name, machine.parameter? name with
  | ['@'], _ =>
    if divided then (atomsOfArguments separators quoted machine.arguments, machine)
    else joined " "
  | ['*'], _ =>
    if divided && !quoted then (atomsOfArguments separators false machine.arguments, machine)
    else joined machine.joint
  | _, some value => (atomsOf separators quoted value.toList, machine)
  | _, none =>
    if machine.has 'u' then ([], machine.missParameter name)
    else (atomsOf separators quoted [], machine)

mutual

/-- The atoms of the pieces of a word. `divided` says whether expansions are divided, and
`dividesText` whether text outside quotes is, too. -/
def expandPieces (capture : Capture) : (bound : Nat) → (divided dividesText : Bool) → Word →
    Machine → List Atom × Machine
  | 0, _, _, _, machine => ([], machine.exhaust)
  | _ + 1, _, _, [], machine => ([], machine)
  | bound + 1, divided, dividesText,
      .text [] true :: .expansion (.parameter ['@'] .asIs) true :: pieces, machine =>
    expandPieces capture bound divided dividesText
      (.expansion (.parameter ['@'] .asIs) true :: pieces) machine
  | bound + 1, divided, dividesText, .text chars quoted :: pieces, machine =>
    let (later, machine) := expandPieces capture bound divided dividesText pieces machine
    (atomsOf (if dividesText then machine.separators else []) quoted chars ++ later, machine)
  | bound + 1, divided, dividesText, .expansion expansion quoted :: pieces, machine =>
    let (first, machine) := expandPart capture bound divided quoted expansion machine
    if !machine.isRunning then ([], machine)
    else
      let (later, machine) := expandPieces capture bound divided dividesText pieces machine
      (first ++ later, machine)

/-- The atoms of an expansion. -/
def expandPart (capture : Capture) : (bound : Nat) → (divided quoted : Bool) → Expansion →
    Machine → List Atom × Machine
  | 0, _, _, _, machine => ([], machine.exhaust)
  | bound + 1, divided, quoted, expansion, machine =>
    let separators := if divided then machine.separators else []
    let textOf (ground : Ground) (chars : List Char) (machine : Machine) : String × Machine :=
      let word := Word.ofChars ground machine.line chars
      let (atoms, machine) := expandPieces capture bound false false word machine
      (plainText (charsOf atoms), machine)
    match expansion with
    | .parameter name .asIs => machine.expandValue divided quoted name
    | .parameter name .length =>
      match machine.parameter? name with
      | some value => (atomsOf separators quoted (toString value.length).toList, machine)
      | none =>
        if machine.has 'u' then ([], machine.missParameter name)
        else (atomsOf separators quoted ['0'], machine)
    | .parameter name (.remedy remedy countsEmpty chars) =>
      let value := machine.parameter? name
      let isMissing := value.isNone || (countsEmpty && value == some "")
      let ground := if quoted then Ground.quotedValue else .value
      let instead : List Atom × Machine :=
        expandPieces capture bound divided (divided && !quoted)
          (machine.atHome (Word.ofChars ground machine.line chars)) machine
      match remedy, isMissing with
      | .swap, true => ([], machine)
      | .swap, false | .replace, true => instead
      | .assign, true =>
        let (text, machine) := textOf ground chars machine
        if !machine.isRunning then ([], machine)
        else if isName name then
          (atomsOf separators quoted text.toList, machine.assign (String.ofList name) text)
        else ([], machine.abort (String.ofList name ++ ": bad variable name"))
      | .complain, true =>
        let (text, machine) := textOf ground chars machine
        let reason :=
          if !chars.isEmpty then text
          else if countsEmpty then "parameter not set or null"
          else "parameter not set"
        if machine.isRunning then
          ([], machine.abort (String.ofList name ++ ": " ++ reason))
        else ([], machine)
      | _, false => machine.expandValue divided quoted name
    | .parameter name (.trim atBack isLongest chars) =>
      match machine.parameter? name with
      | none =>
        if machine.has 'u' then ([], machine.missParameter name)
        else (atomsOf separators quoted [], machine)
      | some value =>
        let word := Word.ofChars .value machine.line chars
        let (atoms, machine) := expandPieces capture bound false false word machine
        let cut := if atBack then dropBack else dropFront
        (atomsOf separators quoted (cut (formOf (charsOf atoms)) isLongest value.toList), machine)
    | .parameter _ .bad => ([], machine.abort "Bad substitution")
    | .output line script =>
      let (written, machine) := capture (line.getD 1) script machine
      let kept := (written.reverse.dropWhile (· = 10)).reverse.filter (· ≠ 0)
      (atomsOf separators quoted (Text.raw kept).toList, machine)
    | .formula chars =>
      let (formula, machine) := textOf .document chars machine
      if !machine.isRunning then ([], machine)
      else
        let valueOf (name : List Char) : List Char :=
          ((machine.valueOf? (String.ofList name)).getD "").toList
        match evaluate valueOf formula.toList with
        | .ok (value, given) =>
          (atomsOf separators quoted (toString value).toList,
            given.foldr
              (fun entry machine =>
                if machine.isRunning then machine.assign (String.ofList entry.1) (toString entry.2)
                else machine)
              machine)
        | .error error => ([], machine.abort (error.message formula))

end

/-- How deep expansions may lie in each other, and how many pieces a word may have. -/
def greatestExpansion : Nat := 4096

/-- The atoms of a word. -/
def expandWord (capture : Capture) (divided : Bool) (word : Word) (machine : Machine) :
    List Atom × Machine :=
  machine.expandPieces capture greatestExpansion divided false (machine.atHome word)

/-- The one text of a word. -/
def expand (capture : Capture) (word : Word) (machine : Machine) : String × Machine :=
  let (atoms, machine) := machine.expandWord capture false word
  (plainText (charsOf atoms), machine)

/-- The texts of words. -/
def expandAll (capture : Capture) : List Word → Machine → List String × Machine
  | [], machine => ([], machine)
  | word :: words, machine =>
    let (atoms, machine) := machine.expandWord capture true word
    if !machine.isRunning then ([], machine)
    else
      let texts := (divide none false atoms).flatMap fun text =>
        if machine.has 'f' then [plainText text] else pathsOf machine.files text
      let (later, machine) := expandAll capture words machine
      (texts ++ later, machine)

/-- The form that a word is. -/
def expandForm (capture : Capture) (word : Word) (machine : Machine) :
    List FormPart × Machine :=
  let (atoms, machine) := machine.expandWord capture false word
  (formOf (charsOf atoms), machine)

/-- The texts of words that are given to variables, in order, and the machine after each variable
got its value. -/
def assignAll (capture : Capture) : List (List Char × Word) → Machine →
    List (String × String) × Machine
  | [], machine => ([], machine)
  | (name, word) :: later, machine =>
    let (value, machine) := machine.expand capture word
    if !machine.isRunning then ([], machine)
    else
      let (others, machine) := assignAll capture later (machine.assign (String.ofList name) value)
      ((String.ofList name, value) :: others, machine)

/-! ## Redirections -/

/-- The reason for which a file cannot be opened or made, in the words of the shell. -/
def openingReason (isNew : Bool) (failure : IoFailure) : String :=
  match failure with
  | .notFound | .notFolder => if isNew then "Directory nonexistent" else "No such file"
  | failure => failure.reason

/-- The channel that is the file of a path, and the files in which it is there. Only a new file
will do if `isFresh`. -/
def openFile (files : FileTree) (path : String) (isAppended isFresh : Bool) :
    Except IoFailure (Channel × FileTree) :=
  match files.entry? path with
  | some (.device device) => .ok (.device device, files)
  | found => do
    if isFresh && (found.isSome || (files.linkTarget? path).isSome) then .error .alreadyExists
    let made ← if isAppended && found.isSome then .ok files else files.write path []
    match ← made.reach path with
    | .name place name _ => .ok (.file place name (if isAppended then none else some 0), made)
    | .folder _ => .error .isFolder

/-- The machine with a file for a stream, or the complaint. -/
def openForWriting (machine : Machine) (stream : Nat) (path : String)
    (isAppended isFresh : Bool) : Except String Machine :=
  match (outputStream? path).bind machine.descriptor? with
  | some descriptor => .ok (machine.setDescriptor stream (some descriptor))
  | none =>
    match openFile machine.files path isAppended isFresh with
    | .ok (channel, files) =>
      let opened := { machine with files := files }
      match channel with
      | .file place name (some _) => .ok ((opened.emptied place name).writeTo stream channel)
      | channel => .ok (opened.writeTo stream channel)
    | .error failure =>
      .error ("cannot create " ++ path ++ ": " ++ openingReason true failure)

/-- The machine with a source for a stream, or the complaint. -/
def openForReading (machine : Machine) (stream : Nat) (path : String) : Except String Machine :=
  if inputPaths.contains path then .ok (machine.setDescriptor stream (machine.descriptor? 0))
  else
    let file :=
      match machine.files.reach path with
      | .ok (.name place name _) => some (place, name)
      | _ => none
    match Source.ofPath machine.files path with
    | .ok source => .ok (machine.readFrom stream source file)
    | .error failure => .error ("cannot open " ++ path ++ ": " ++ openingReason false failure)

/-- The machine with a file for a stream from which the stream can be read, too. -/
def openForBoth (machine : Machine) (stream : Nat) (path : String) : Except String Machine := do
  let opened ← machine.openForWriting stream path true false
  match Source.ofPath opened.files path with
  | .ok source =>
    let (index, opened) := opened.addChannel (.source source)
    let descriptor := (opened.descriptor? stream).getD {}
    .ok (opened.setDescriptor stream (some { descriptor with reader := some index }))
  | .error failure => .error ("cannot open " ++ path ++ ": " ++ openingReason false failure)

/-- The machine after a redirection with the text of its word, or the machine after the complaint.
-/
def redirectTo (machine : Machine) (stream : Nat) (target : Target) (text : String) :
    Except Machine Machine :=
  let settle (opened : Except String Machine) : Except Machine Machine :=
    opened.mapError fun complaint => (machine.complain complaint).answer 2
  match target with
  | .input => settle (machine.openForReading stream text)
  | .output => settle (machine.openForWriting stream text false false)
  | .freshOutput => settle (machine.openForWriting stream text false (machine.has 'C'))
  | .append => settle (machine.openForWriting stream text true false)
  | .both => settle (machine.openForBoth stream text)
  | .document => .ok (machine.readFrom stream (.bytes (Text.rawBytes text)))
  | .copy =>
    match text.toList with
    | ['-'] => .ok (machine.setDescriptor stream none)
    | [digit] =>
      if Text.isDigit digit then
        match machine.descriptor? (Text.digitValue digit) with
        | some descriptor => .ok (machine.setDescriptor stream (some descriptor))
        | none => .error ((machine.complain (text ++ ": Bad file descriptor")).answer 2)
      else .error (badStream machine)
    | _ => .error (badStream machine)
where
  /-- The machine after the complaint that a stream has no number. -/
  badStream (machine : Machine) : Machine :=
    { { machine with line := machine.line + 1 }.abort "Syntax error: Bad fd number" with
      line := machine.line }

/-- The machine after redirections, or after the complaint about the first that fails. -/
def redirect (capture : Capture) : List Redirection → Machine → Except Machine Machine
  | [], machine => .ok machine
  | redirection :: later, machine =>
    let (text, machine) := machine.expand capture redirection.word
    if !machine.isRunning then .error machine
    else
      match machine.redirectTo redirection.stream redirection.target text with
      | .ok machine => redirect capture later machine
      | .error failed => .error failed

/-- The machine with the descriptors of some streams as they are in another one. -/
def withDescriptorsOf (machine before : Machine) (streams : List Nat) : Machine :=
  (streams.foldl (fun machine stream => machine.setDescriptor stream (before.descriptor? stream))
    machine).trimmed before.channels.length

/-- The machine after a command with redirections of its own, or after `refused` if one fails. -/
def withRedirections (capture : Capture) (redirections : List Redirection)
    (refused action : Machine → Machine) (machine : Machine) : Machine :=
  let streams := redirections.map Redirection.stream
  match machine.redirect capture redirections with
  | .error failed => refused (failed.withDescriptorsOf machine streams)
  | .ok ready => (if ready.isRunning then action ready else ready).withDescriptorsOf machine streams

end Machine

end ShapeScene.Script
