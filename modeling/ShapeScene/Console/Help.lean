import ShapeScene.Text.Search

/-!
# Help of the console

The greeting, the summary of all commands, and the farewell.
-/

namespace ShapeScene.Console

/-- The version of the program. -/
def version : String := "0.1.0"

/-- A description in English that makes two objects. -/
def englishExample : String := "a red cube and a spinning blue sphere"

/-- A description in French that makes two objects. -/
def frenchExample : String := "un cube rouge, une sphère bleue"

/-- What is shown before the first line. -/
def greeting : String :=
  Text.joinWith "\n"
    ["\x1b[1;36mtextscene\x1b[0m v" ++ version,
      "Describe some shapes, e.g. \"" ++ englishExample ++ "\".",
      "Type :help for commands, Ctrl+D to exit.", "", ""]

/-- What is shown after the last line. -/
def farewell : String := "\nGoodbye!\n"

/-- The lines about commands. -/
def commandLines : List String :=
  ["\x1b[1mCOMMANDS:\x1b[0m",
    "    :json                  Print the last scene as JSON",
    "    :explain DESCRIPTION   Show how each phrase is matched",
    "    :entities DESCRIPTION  Print the parsed entities as JSON",
    "    :render [PATH]         Raytrace the last scene, optionally saving a PPM",
    "    :export PATH [FORMAT]  Export the last scene (json, html, ppm)",
    "    :save                  Save the last scene to the store",
    "    :list                  List stored scenes",
    "    :load ID               Load a stored scene",
    "    :delete ID             Delete a stored scene",
    "    :animate on|off        Toggle animation for new scenes",
    "    :interactive on|off    Toggle orbit controls for new scenes",
    "    :size WIDTHxHEIGHT     Set the raytracer image size",
    "    :status                Show raytracer availability",
    "    :help                  Show this help",
    "    :quit                  Exit"]

/-- The summary of all commands. -/
def help : String :=
  Text.joinWith "\n"
    (["\x1b[1mDESCRIPTIONS:\x1b[0m", "    " ++ englishExample, "    " ++ frenchExample, ""] ++
      commandLines)

end ShapeScene.Console
