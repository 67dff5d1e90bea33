import ShapeScene.Script.ByteTool
import ShapeScene.Script.ColumnTool
import ShapeScene.Script.FileTool
import ShapeScene.Script.LetterTool
import ShapeScene.Script.NumberTool
import ShapeScene.Script.OrderTool
import ShapeScene.Script.SearchTool
import ShapeScene.Script.SpeechTool
import ShapeScene.Script.StreamEditor
import ShapeScene.Script.TextTool

/-!
# Tools by name

The small programs that scripts are made of.
-/

namespace ShapeScene.Script

/-- What a tool does. -/
abbrev Tool := Bench → List String → Deed

/-- A tool that keeps its output until its end. -/
def atEnd (tool : Tool) : Tool := fun bench arguments => (tool bench arguments).buffered

/-- The tools by their names. -/
def tools : List (String × Tool) :=
  [("true", fun bench _ => .idle bench 0), ("false", fun bench _ => .idle bench 1),
    ("sync", fun bench _ => .idle bench 0),
    ("echo", echoArguments), ("printf", formatArguments), ("yes", repeatLine),
    ("test", fun bench arguments => testCondition bench "test" arguments), ("[", testBracketed),
    ("printenv", showSettings), ("pwd", tellFolder), ("id", tellUser), ("whoami", tellUserName),
    ("uname", tellSystem),
    ("cat", concatenate), ("tee", copyInput), ("head", atEnd front), ("tail", atEnd back),
    ("wc", atEnd counted), ("tac", atEnd reversedLines), ("rev", atEnd reversedBytes),
    ("nl", atEnd numberedLines), ("tr", atEnd changeLetters), ("cut", atEnd takeColumns),
    ("paste", atEnd pasteLines), ("fold", atEnd breakLines), ("sort", atEnd sortLines),
    ("uniq", atEnd distinctLines), ("od", atEnd showBytes), ("dd", copyBlocks),
    ("cmp", atEnd compareSources), ("base64", atEnd letterBytes),
    ("grep", atEnd searchLines), ("sed", atEnd StreamEditor.tool),
    ("seq", atEnd counting), ("expr", expression), ("sleep", pause),
    ("mkdir", makeFolders), ("rmdir", removeFolders), ("touch", touch), ("rm", remove),
    ("unlink", remove), ("cp", copy), ("mv", move), ("ln", link), ("chmod", changeMode),
    ("truncate", resize), ("ls", atEnd listed), ("readlink", atEnd readLinks),
    ("realpath", atEnd resolvePaths), ("stat", atEnd describeFiles), ("basename", atEnd baseNames),
    ("dirname", atEnd folderNames), ("mktemp", makeTemporary)]

/-- The tool of a name. -/
def tool? (name : String) : Option Tool :=
  (tools.find? fun entry => entry.1 == name).map (·.2)

end ShapeScene.Script
