import ShapeScene.Text.Search

/-!
# Help of the command line
-/

namespace ShapeScene.CommandLine

/-- The lines of the help text. -/
def helpLines : List String :=
  ["\x1b[1mtextscene\x1b[0m - Turn a sentence about shapes into a 3D scene",
    "",
    "\x1b[1mUSAGE:\x1b[0m",
    "    textscene [OPTIONS] [DESCRIPTION...]",
    "",
    "\x1b[1mARGUMENTS:\x1b[0m",
    "    [DESCRIPTION...]    Scene description; starts the REPL when omitted",
    "",
    "\x1b[1mOPTIONS:\x1b[0m",
    "    -o, --output PATH        Export the scene to PATH",
    "    -f, --format FORMAT      Export format: json, html, ppm (default: from PATH, else html)",
    "    -a, --animate            Play object animations",
    "    -i, --no-interactive     Disable orbit controls",
    "    -s, --size WxH           Raytracer image size (default: 800x600)",
    "    -v, --verbose            Debug logging",
    "    -h, --help               Print help information",
    "    -V, --version            Print version information",
    "",
    "\x1b[1mADVANCED OPTIONS:\x1b[0m",
    "    --english                English keywords only",
    "    --seed N                 Reproducible scene and object ids",
    "    --store DIR              Save generated scenes under DIR",
    "    --store-format FORMAT    Stored scene encoding: json, msgpack",
    "    --raytracer PATH         Raytracer executable",
    "    --timeout SECONDS        Raytracer time limit (default: 30)",
    "    --scene-stdin            Also send the scene to the raytracer on stdin",
    "    --status                 Print raytracer availability and exit",
    "",
    "\x1b[1mEXAMPLES:\x1b[0m",
    "    textscene                                   Start interactive REPL",
    "    textscene a red cube and a blue sphere      Print the scene as JSON",
    "    textscene -a -o scene.html a spinning torus Write a viewer page",
    "    textscene -s 320x240 -o cube.ppm a shiny cube",
    "    textscene --store data/scenes a glass cone",
    "",
    "\x1b[1mENVIRONMENT:\x1b[0m",
    "    TEXTSCENE_RAYTRACER    Raytracer executable, when --raytracer is not given",
    "    RUST_LOG               Log filter (overrides -v)"]

/-- The help text. -/
def helpText : String := Text.joinWith "\n" helpLines ++ "\n"

end ShapeScene.CommandLine
