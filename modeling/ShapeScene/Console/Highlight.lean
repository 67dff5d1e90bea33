import ShapeScene.Description.Phrase
import ShapeScene.Description.Vocabulary

/-!
# Highlighting

A line is shown with its keywords and connectors in color. Highlighting cuts the line into runs of
letters and single other characters, and puts a style around the runs that mean something.
-/

namespace ShapeScene.Highlight

/-- The sequence that ends a style. -/
def reset : String := "\x1b[0m"

/-- The style of a class of words. -/
def classStyle : WordClass → String
  | .shape => "\x1b[1;32m"
  | .color => "\x1b[33m"
  | .animation => "\x1b[35m"
  | .material => "\x1b[36m"

/-- The style of connectors. -/
def connectorStyle : String := "\x1b[2m"

/-- The style of the name of a command. -/
def commandStyle : String := "\x1b[34m"

/-- The style of a word, if it means something. -/
def styleOf? (vocabulary : Vocabulary) (word : String) : Option String :=
  match vocabulary.classOf? word with
  | some wordClass => some (classStyle wordClass)
  | none => if Phrase.isConnector word then some connectorStyle else none

/-- Text within a style. -/
def styled (style : String) (chars : List Char) : List Char :=
  style.toList ++ chars ++ reset.toList

/-- A run of letters as it is shown; an empty run has no style. -/
def shownRun (vocabulary : Vocabulary) : (run : List Char) → List Char
  | [] => []
  | char :: letters =>
    let run := char :: letters
    match styleOf? vocabulary (String.ofList run) with
    | some style => styled style run
    | none => run

/-- The characters of a description as they are shown, after the reversed beginning of a run. -/
def shownAfter (vocabulary : Vocabulary) : (run : List Char) → List Char → List Char
  | run, [] => shownRun vocabulary run.reverse
  | run, char :: rest =>
    if Text.isAlphabetic char then shownAfter vocabulary (char :: run) rest
    else shownRun vocabulary run.reverse ++ char :: shownAfter vocabulary [] rest

/-- A line as it is shown. Of a command, the part before the first white space is styled. -/
def highlight (vocabulary : Vocabulary) (line : String) : String :=
  match line.toList with
  | ':' :: rest =>
    let chars := ':' :: rest
    String.ofList (styled commandStyle (chars.takeWhile fun char => !Text.isBlank char) ++
      chars.dropWhile fun char => !Text.isBlank char)
  | chars => String.ofList (shownAfter vocabulary [] chars)

end ShapeScene.Highlight
