import ShapeScene.Session.Session

/-!
# Options of the command line

Arguments are flags, options that take the argument behind them as value, and words. The words
together are a description. An option may stand anywhere, and of several values the last one
counts.
-/

namespace ShapeScene.CommandLine

/-- Arguments that stand alone. -/
inductive Flag where
  /-- Show the help text. -/
  | help
  /-- Show the version. -/
  | version
  /-- Animate scenes. -/
  | animate
  /-- Let no pointer turn scenes. -/
  | noInteractive
  /-- Log more. -/
  | verbose
  /-- Know English words only. -/
  | english
  /-- Give the raytracer the scene on standard input. -/
  | sceneOnInput
  /-- Show whether a raytracer is available. -/
  | status
deriving DecidableEq, Repr

/-- Arguments that take a value. -/
inductive ValueOption where
  /-- Where the scene is exported. -/
  | output
  /-- The format of the export. -/
  | format
  /-- The size of images. -/
  | size
  /-- The folder of the store. -/
  | store
  /-- The format of the store. -/
  | storeFormat
  /-- The path of the raytracer. -/
  | raytracer
  /-- The seed of names. -/
  | seed
  /-- The time limit of the raytracer in seconds. -/
  | timeout
deriving DecidableEq, Repr

/-- What is wrong with arguments. -/
inductive UsageError where
  /-- An option without its value. -/
  | missingValue (option : String)
  /-- An argument with a hyphen that is no option. -/
  | unknownOption (option : String)
  /-- A value that is no number. -/
  | invalidNumber (option value : String)
  /-- A value that names nothing. -/
  | invalidValue (error : SceneError)
deriving DecidableEq, Repr

/-- The wording of what is wrong. -/
def UsageError.message : UsageError → String
  | missingValue option => option ++ " requires a value"
  | unknownOption option => "unknown option: " ++ option
  | invalidNumber option value => "invalid " ++ option ++ " value: " ++ value
  | invalidValue error => error.message

/-- What arguments say. -/
structure Options where
  /-- The words, in order. -/
  words : List String := []
  /-- Whether the help text is asked for. -/
  help : Bool := false
  /-- Whether the version is asked for. -/
  version : Bool := false
  /-- Whether scenes are animated. -/
  animate : Bool := false
  /-- Whether no pointer turns scenes. -/
  noInteractive : Bool := false
  /-- Whether more is logged. -/
  verbose : Bool := false
  /-- Whether only English words are known. -/
  english : Bool := false
  /-- Whether the raytracer gets the scene on standard input. -/
  sceneOnInput : Bool := false
  /-- Whether the availability of a raytracer is asked for. -/
  status : Bool := false
  /-- Where the scene is exported. -/
  output : Option String := none
  /-- The format of the export. -/
  format : Option OutputFormat := none
  /-- The size of images. -/
  size : Option ImageSize := none
  /-- The folder of the store. -/
  store : Option String := none
  /-- The format of the store. -/
  storeFormat : Option StoreFormat := none
  /-- The path of the raytracer. -/
  raytracer : Option String := none
  /-- The seed of names. -/
  seed : Option Nat := none
  /-- The time limit of the raytracer in seconds. -/
  timeout : Option Nat := none
deriving DecidableEq, Repr

/-- The flag that an argument is. -/
def flagNamed? : String → Option Flag
  | "-h" | "--help" => some .help
  | "-V" | "--version" => some .version
  | "-a" | "--animate" => some .animate
  | "-i" | "--no-interactive" => some .noInteractive
  | "-v" | "--verbose" => some .verbose
  | "--english" => some .english
  | "--scene-stdin" => some .sceneOnInput
  | "--status" => some .status
  | _ => none

/-- The option with a value that an argument is. -/
def valueOptionNamed? : String → Option ValueOption
  | "-o" | "--output" => some .output
  | "-f" | "--format" => some .format
  | "-s" | "--size" => some .size
  | "--store" => some .store
  | "--store-format" => some .storeFormat
  | "--raytracer" => some .raytracer
  | "--seed" => some .seed
  | "--timeout" => some .timeout
  | _ => none

/-- A number below two to the power of 64. -/
def readNumber (option value : String) : Except UsageError Nat :=
  match Text.readNatural? (Nat.pow 2 64) value.toList with
  | some number => .ok number
  | none => .error (.invalidNumber option value)

namespace Options

/-- The options with a flag. -/
def withFlag (options : Options) : Flag → Options
  | .help => { options with help := true }
  | .version => { options with version := true }
  | .animate => { options with animate := true }
  | .noInteractive => { options with noInteractive := true }
  | .verbose => { options with verbose := true }
  | .english => { options with english := true }
  | .sceneOnInput => { options with sceneOnInput := true }
  | .status => { options with status := true }

/-- The options with a value. -/
def withValue (options : Options) (option : ValueOption) (value : String) :
    Except UsageError Options :=
  match option with
  | .output => .ok { options with output := some value }
  | .store => .ok { options with store := some value }
  | .raytracer => .ok { options with raytracer := some value }
  | .format =>
    match OutputFormat.parse value with
    | .ok format => .ok { options with format := some format }
    | .error error => .error (.invalidValue error)
  | .size =>
    match ImageSize.parse value with
    | .ok size => .ok { options with size := some size }
    | .error error => .error (.invalidValue error)
  | .storeFormat =>
    match StoreFormat.parse value with
    | .ok format => .ok { options with storeFormat := some format }
    | .error error => .error (.invalidValue error)
  | .seed => do .ok { options with seed := some (← readNumber "--seed" value) }
  | .timeout => do .ok { options with timeout := some (← readNumber "--timeout" value) }

/-- Whether an argument looks like an option; a hyphen alone is a word. -/
def looksLikeOption (argument : String) : Bool :=
  match argument.toList with
  | '-' :: _ :: _ => true
  | _ => false

/-- The options that arguments add to some. -/
def parseAfter : Options → List String → Except UsageError Options
  | options, [] => .ok options
  | options, argument :: arguments =>
    match flagNamed? argument with
    | some flag => parseAfter (options.withFlag flag) arguments
    | none =>
      match valueOptionNamed? argument, arguments with
      | some _, [] => .error (.missingValue argument)
      | some option, value :: arguments => do
        parseAfter (← options.withValue option value) arguments
      | none, arguments =>
        if looksLikeOption argument then .error (.unknownOption argument)
        else parseAfter { options with words := options.words ++ [argument] } arguments

/-- The options that arguments say. -/
def parse (arguments : List String) : Except UsageError Options := parseAfter {} arguments

/-- The description: the words with single spaces between them. -/
def description (options : Options) : Option String :=
  if options.words.isEmpty then none else some (Text.joinWith " " options.words)

/-- The format of an export: the one asked for, else the one that the path names, else a page. -/
def exportFormat (options : Options) : OutputFormat :=
  (options.format <|> options.output.bind OutputFormat.ofPath?).getD .html

/-- How the raytracer is found and run. -/
def raytracerSettings (options : Options) : RaytracerSettings :=
  let usual : RaytracerSettings := {}
  { usual with
    program := options.raytracer
    limit := (options.timeout.map (· * 1000)).getD usual.limit
    sceneOnInput := options.sceneOnInput }

/-- The settings of a session, where names are drawn from `ids`. -/
def sessionSettings (options : Options) (ids : IdSource) : SessionSettings where
  vocabulary := if options.english then Vocabulary.english else Vocabulary.standard
  ids := ids
  animate := options.animate
  interactive := !options.noInteractive
  size := options.size.getD ImageSize.standard
  storeRoot := options.store
  storeFormat := options.storeFormat.getD .json
  raytracer := options.raytracerSettings

end Options

end ShapeScene.CommandLine
