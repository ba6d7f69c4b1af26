import ApiReference.CommandLine.Run
import ApiReference.Http.Line

/-!
# The Program

Runs the program on its arguments and on what it finds in its directory.  A server that starts takes
requests from standard input, one on each line, and answers them on standard output.
-/

namespace ApiReference.Main

open CommandLine Http Server

def readNode (path : String) : IO (Option Node) := do
  match ← (IO.FS.readBinFile path).toBaseIO with
  | .ok bytes => return some (.file bytes.toList)
  | .error (.noFileOrDirectory ..) => return none
  | .error _ => return some .directory

/-- The paths of the file of variables in a directory and in those above it. -/
def variablePaths (directory : Place) : List String :=
  (List.range (directory.length + 1)).map fun depth ↦
    "/" ++ "/".intercalate (Settings.Dotenv.fileName :: directory.drop depth).reverse

/-- The files that a command line may name, and those of variables. -/
def readFiles (arguments : List String) (environment : Settings.Environment) : IO Files := do
  let config := match Options.ofArguments arguments environment with
    | .ok options => options.config.toList
    | .error _ => []
  let directory := (Files.steps (toString (← IO.currentDir))).foldl Files.move []
  let paths := Options.defaultFile :: config ++ variablePaths directory
  let found ← paths.filterMapM fun path ↦ do
    return (← readNode path).map fun node ↦ (path, node)
  return Files.within directory found

/-- The variables that the program asks for. -/
def readEnvironment : IO Settings.Environment := do
  [Options.configVariable, threadVariable].filterMapM fun name ↦ do
    return (← IO.getEnv name).map fun value ↦ (name, value)

/-- Answers the requests of an input until it ends. -/
partial def answerRequests (site : Site) (started : Nat) (input output : IO.FS.Stream) :
    IO Unit := do
  let line ← input.getLine
  unless line.isEmpty do
    let uptime := ((← IO.monoMsNow) - started) / 1000
    match Request.ofLine? line with
    | some request => output.putStr (site.respond uptime request.method request.target).text
    | none => output.putStr (Response.error 400 "BAD_REQUEST" "malformed request").text
    output.flush
    answerRequests site started input output

end ApiReference.Main

open ApiReference ApiReference.Main ApiReference.CommandLine in
/-- Runs the program. -/
def main (arguments : List String) : IO UInt32 := do
  let environment ← readEnvironment
  let files ← readFiles arguments environment
  let outcome := run { files, environment, binding := fun _ ↦ .bound } arguments
  (← IO.getStdout).putStr outcome.output
  (← IO.getStderr).putStr outcome.errors
  match outcome with
  | .serving service _ _ =>
    answerRequests service.site (← IO.monoMsNow) (← IO.getStdin) (← IO.getStdout)
    return 0
  | ended => return (ended.exitCode?.getD 0).toUInt32
