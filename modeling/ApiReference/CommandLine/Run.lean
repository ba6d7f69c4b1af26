import ApiReference.CommandLine.Arguments
import ApiReference.CommandLine.Report
import ApiReference.Settings.Document
import ApiReference.Settings.Loader

/-!
# What the Program Does

The program takes its threads first and then reads its arguments.  The options are laid over the
settings of a file, and the result is validated.  It is then printed, or the log is set up and the
server starts to listen.
-/

namespace ApiReference.CommandLine

open Server

/-- What a program finds where it runs: the files, its variables, and what becomes of an attempt to
listen. -/
structure Surroundings where
  files : Files
  environment : Settings.Environment
  binding : Net.SocketAddress → Binding

/-- How the program ends, or that it goes on serving. -/
inductive Outcome where
  | informed (text : String)
  | printed (configuration : String)
  | misused (reason : Misuse)
  | failed (report : Report)
  | crashed (message : String)
  | stopped (code : Nat)
  | serving (service : Service) (address : Net.SocketAddress) (log : Logging.Log)

/-! ## Threads -/

def threadVariable : String := "TOKIO_WORKER_THREADS"

/-- The number below `2^64` that a text spells, or what is wrong with it. -/
def parseNumber (text : String) : Except String Nat :=
  match Text.decimal? text.toList with
  | some number =>
    if number < Decimal.Word.limit then .ok number
    else .error "number too large to fit in target type"
  | none =>
    .error (if text.isEmpty then "cannot parse integer from empty string"
      else "invalid digit found in string")

/-- The number of threads that the variables ask for, if they do.  It must be a positive one. -/
def threads (environment : Settings.Environment) : Except String (Option Nat) :=
  match environment.lookup threadVariable with
  | none => .ok none
  | some value =>
    match parseNumber value with
    | .error reason =>
      .error (Text.quoted threadVariable ++ " must be usize, error: " ++ reason ++ ", value: " ++
        value)
    | .ok 0 => .error (Text.quoted threadVariable ++ " cannot be set to 0")
    | .ok count => .ok (some count)

namespace Options

/-- The file of settings that is read when it is there and no other is named. -/
def defaultFile : String := "iam-docs.toml"

/-- Settings with the options over them. -/
def applyTo (options : Options) (settings : Settings) : Settings :=
  { settings with
    server := { settings.server with address := options.address.getD settings.server.address }
    logging :=
      { settings.logging with
        level := options.level.getD settings.logging.level
        format := options.format.getD settings.logging.format } }

/-- The loader after the file of settings is read. -/
def loader (options : Options) (files : Files) : Except Report Settings.Loader :=
  match options.config with
  | some path =>
    (Settings.Loader.withFile {} files path).mapError fun error ↦
      (Report.ofSettings error).within ("failed to load " ++ path)
  | none => (Settings.Loader.withOptionalFile {} files defaultFile).mapError Report.ofSettings

/-- The settings that are in effect.  Variables may be read from a file, but override nothing. -/
def settings (options : Options) (files : Files) (environment : Settings.Environment) :
    Except Report Settings := do
  let _ ← (Settings.Loader.dotenv files environment).mapError Report.ofSettings
  let loader ← options.loader files
  let settings := options.applyTo loader.settings
  settings.validate.mapError fun error ↦ (Report.ofSettings error).within "invalid configuration"
  return settings

end Options

def printSettings (settings : Settings) : Except Report String :=
  match settings.toDocument? with
  | some text => .ok text
  | none => .error ⟨Settings.tooLargeText, []⟩

/-- How the program ends with a log that is not set up.  A filter that is cut inside a character is
a crash. -/
def Outcome.ofLogging (error : Logging.Error) : Outcome :=
  match error with
  | .filter .splitCharacter => .crashed error.message
  | error => .failed ((Report.ofLogging error).within "failed to initialize logging")

/-- Sets up the log and starts to listen. -/
def start (settings : Settings) (binding : Net.SocketAddress → Binding) :
    Except Outcome (Service × Net.SocketAddress × Logging.Log) := do
  let log ← (Logging.Log.setUp {} (.ofSection settings.logging serviceName)).mapError .ofLogging
  let service ← (Service.ofSettings settings).mapError fun error ↦ .failed (.ofServer error)
  let address ← (service.listen binding).mapError fun error ↦
    .failed ((Report.ofServer error).within "server error")
  return (service, address, log)

/-- What the program does with settings that are in effect. -/
def runSettings (binding : Net.SocketAddress → Binding) (options : Options) (settings : Settings) :
    Outcome :=
  if options.showSettings then
    match printSettings settings with
    | .ok text => .printed text
    | .error report => .failed report
  else
    match start settings binding with
    | .ok (service, address, log) => .serving service address log
    | .error outcome => outcome

def runOptions (surroundings : Surroundings) (options : Options) : Outcome :=
  let loaded := Settings.Dotenv.load surroundings.files surroundings.environment
  match Settings.Dotenv.crash? loaded.2 with
  | some message => .crashed message
  | none =>
    match options.settings surroundings.files surroundings.environment with
    | .ok settings => runSettings surroundings.binding options settings
    | .error report => .failed report

def runArguments (surroundings : Surroundings) (arguments : List String) : Outcome :=
  match Options.ofArguments arguments surroundings.environment with
  | .error .help => .informed (helpText surroundings.environment)
  | .error .version => .informed (versionText serviceVersion)
  | .error (.misuse reason) => .misused reason
  | .ok options => runOptions surroundings options

/-- What the program does.  It does not come to its arguments without its threads. -/
def run (surroundings : Surroundings) (arguments : List String) : Outcome :=
  match threads surroundings.environment with
  | .error message => .crashed message
  | .ok _ => runArguments surroundings arguments

/-- Where the program is started.  The system there may end it before it comes to its arguments, as
when it gets no threads, with an exit code that depends on the variables and the arguments. -/
structure Machine extends Surroundings where
  stops? : Settings.Environment → List String → Option Nat

def Machine.run (machine : Machine) (arguments : List String) : Outcome :=
  match machine.stops? machine.environment arguments with
  | some code => .stopped code
  | none => CommandLine.run machine.toSurroundings arguments

namespace Outcome

def exitCode? : Outcome → Option Nat
  | .informed _ | .printed _ => some 0
  | .failed _ => some 1
  | .misused _ => some 2
  | .crashed _ => some 101
  | .stopped code => some code
  | .serving .. => none

/-- The configuration that the program prints, if it prints one. -/
def configuration? : Outcome → Option String
  | .printed configuration => some configuration
  | _ => none

/-- What the program prints. -/
def output : Outcome → String
  | .informed text | .printed text => text
  | _ => ""

/-- What the program prints as errors, but for the place in the program that a crash names. -/
def errors : Outcome → String
  | .misused reason => "error: " ++ reason.message ++ "\n"
  | .failed report => report.text
  | .crashed message => message ++ "\n"
  | _ => ""

end Outcome

end ApiReference.CommandLine
