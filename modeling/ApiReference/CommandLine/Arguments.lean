import ApiReference.Settings.Override
import ApiReference.Text.Terminal

/-!
# Command Line Arguments

Arguments are read from left to right.  An option takes its value from the next argument, or from
its own after `=`; the short option may have it attached.  A request for help or for the version
ends the reading where it stands, and everything that is wrong before it comes first.
-/

namespace ApiReference.CommandLine

open Text

/-- An option that takes a value. -/
inductive Key where
  | config
  | address
  | level
  | format
  deriving Repr, DecidableEq

namespace Key

/-- The long name of an option. -/
def name : Key → String
  | .config => "config"
  | .address => "http-addr"
  | .level => "log-level"
  | .format => "log-format"

def all : List Key := [.config, .address, .level, .format]

def ofName? (name : List Char) : Option Key :=
  all.find? fun key ↦ key.name.toList == name

end Key

/-- Why a command line is refused. -/
inductive Misuse where
  | unexpected (argument : String)
  | missingValue (key : Key)
  | unneededValue (name : String)
  | repeated (name : String)
  | invalidValue (key : Key) (value : String)
  deriving Repr, DecidableEq

def Misuse.message : Misuse → String
  | .unexpected argument => "unexpected argument '" ++ argument ++ "' found"
  | .missingValue key => "a value is required for '--" ++ key.name ++ "' but none was supplied"
  | .unneededValue name => "unexpected value for '--" ++ name ++ "' found; no more were expected"
  | .repeated name => "the argument '--" ++ name ++ "' cannot be used multiple times"
  | .invalidValue key value => "invalid value '" ++ value ++ "' for '--" ++ key.name ++ "'"

/-- What ends the reading of a command line before its options are known. -/
inductive Stop where
  | help
  | version
  | misuse (reason : Misuse)
  deriving Repr, DecidableEq

/-- The options of a command line. -/
structure Options where
  config : Option String := none
  address : Option String := none
  level : Option String := none
  format : Option LogFormat := none
  showSettings : Bool := false
  deriving Repr, DecidableEq

namespace Options

def has (options : Options) : Key → Bool
  | .config => options.config.isSome
  | .address => options.address.isSome
  | .level => options.level.isSome
  | .format => options.format.isSome

/-- The options with the value of one, which must be suitable. -/
def assign (options : Options) (key : Key) (value : String) : Except Misuse Options :=
  match key with
  | .config =>
    if value.isEmpty then .error (.missingValue key)
    else .ok { options with config := some value }
  | .address => .ok { options with address := some value }
  | .level => .ok { options with level := some value }
  | .format =>
    match LogFormat.options.lookup value with
    | some format => .ok { options with format := some format }
    | none => .error (.invalidValue key value)

/-- The options with the value of one that has none so far. -/
def put (options : Options) (key : Key) (value : String) : Except Stop Options :=
  if options.has key then .error (.misuse (.repeated key.name))
  else (options.assign key value).mapError .misuse

end Options

/-- What is read so far: the options, the one whose value is next, and whether all is read. -/
structure Reading where
  options : Options := {}
  awaited : Option Key := none
  closed : Bool := false
  deriving Repr, DecidableEq

namespace Reading

def put (reading : Reading) (key : Key) (value : List Char) : Except Stop Reading := do
  let options ← reading.options.put key (String.ofList value)
  return { reading with options, awaited := none }

/-- Refuses what is read so far if an option still waits for its value. -/
def requireValue (reading : Reading) : Except Stop Unit :=
  match reading.awaited with
  | some key => .error (.misuse (.missingValue key))
  | none => .ok ()

/-- Reads an option that takes no value. -/
def readSwitch (reading : Reading) (name : List Char) (argument : String) : Except Stop Reading :=
  if name = "help".toList then .error .help
  else if name = "version".toList then .error .version
  else if name = "print-config".toList then
    if reading.options.showSettings then .error (.misuse (.repeated "print-config"))
    else .ok { reading with options := { reading.options with showSettings := true } }
  else .error (.misuse (.unexpected argument))

/-- Reads an option by its long name, and its value if it has one. -/
def readLong (reading : Reading) (name : List Char) (value : Option (List Char))
    (argument : String) : Except Stop Reading := do
  reading.requireValue
  match Key.ofName? name, value with
  | some key, some value => reading.put key value
  | some key, none => .ok { reading with awaited := some key }
  | none, some _ => .error (.misuse (.unneededValue (String.ofList name)))
  | none, none => reading.readSwitch name argument

def readShort (reading : Reading) (letters : List Char) (argument : String) :
    Except Stop Reading := do
  reading.requireValue
  match letters with
  | ['c'] => .ok { reading with awaited := some .config }
  | 'c' :: '=' :: value => reading.put .config value
  | 'c' :: value => reading.put .config value
  | 'h' :: _ => .error .help
  | 'V' :: _ => .error .version
  | _ => .error (.misuse (.unexpected argument))

/-- Reads an argument that is no option. -/
def readValue (reading : Reading) (argument : String) : Except Stop Reading :=
  match reading.awaited with
  | some key => reading.put key argument.toList
  | none => .error (.misuse (.unexpected argument))

def next (reading : Reading) (argument : String) : Except Stop Reading :=
  if reading.closed then .error (.misuse (.unexpected argument))
  else
    match argument.toList with
    | ['-', '-'] => .ok { reading with closed := true }
    | '-' :: '-' :: body =>
      match splitFirst '=' body with
      | some (name, value) => reading.readLong name (some value) argument
      | none => reading.readLong body none argument
    | '-' :: c :: rest => reading.readShort (c :: rest) argument
    | _ => reading.readValue argument

end Reading

namespace Options

/-- The variable that names the settings file when no option does. -/
def configVariable : String := "IAM_DOCS_CONFIG"

/-- The options of a command line.  The settings file may also be named by a variable. -/
def ofArguments (arguments : List String) (environment : Settings.Environment) :
    Except Stop Options := do
  let reading ← arguments.foldlM Reading.next {}
  reading.requireValue
  match reading.options.config, environment.lookup configVariable with
  | none, some path => reading.options.put .config path
  | _, _ => return reading.options

end Options

/-! ## Texts -/

/-- A newline and the blanks that put a continued description below its beginning. -/
def descriptionBreak : List Char :=
  '\n' :: List.replicate 33 ' '

/-- A variable's value as it stands in a description. -/
def describeValue (value : String) : String :=
  String.ofList (value.toList.flatMap fun c ↦ if c = '\n' then descriptionBreak else [c])

/-- One line of the list of options: what stands before the names, the names, and the rest. -/
def optionLine (before : String) (names : List String) (rest : String) : String :=
  before ++ ", ".intercalate (names.map Terminal.bold) ++ rest ++ "\n"

/-- The help text for a terminal, with the names in bold. -/
def styledHelp (environment : Settings.Environment) : String :=
  "IAM API reference viewer\n\n" ++
    Terminal.bold "Usage:" ++ " " ++ Terminal.bold "iam-docs" ++ " [OPTIONS]\n\n" ++
    Terminal.bold "Options:" ++ "\n" ++
    optionLine "  " ["-c", "--config"]
      (" <CONFIG>          Path to configuration file (TOML or JSON) [env: " ++
        Options.configVariable ++ "=" ++
        describeValue ((environment.lookup Options.configVariable).getD "") ++ "]") ++
    optionLine "      " ["--http-addr"]
      " <HTTP_ADDR>    Address to listen on, overrides `server.http_addr`" ++
    optionLine "      " ["--log-level"]
      " <LOG_LEVEL>    Log filter directives, overrides `logging.level`" ++
    optionLine "      " ["--log-format"]
      (" <LOG_FORMAT>  Log output format, overrides `logging.format` " ++
        "[possible values: json, pretty]") ++
    optionLine "      " ["--print-config"]
      "             Print the effective configuration as TOML and exit" ++
    optionLine "  " ["-h", "--help"] "                     Print help" ++
    optionLine "  " ["-V", "--version"] "                  Print version"

def helpText (environment : Settings.Environment) : String :=
  Terminal.plain (styledHelp environment)

def versionText (version : String) : String :=
  "iam-docs " ++ version ++ "\n"

end ApiReference.CommandLine
