import TableMigration.World.Http
import Std.Time.DateTime.Timestamp

/-!
# Main

The server's command line. It reads the options (see `CommandLine`); help and refused
command lines are answered at once. Otherwise it serves control requests given one per line
on standard input, `METHOD PATH` with an optional JSON body after another space, and answers
each on standard output with the status and then the body, if any. The clock follows the
time since start, so runs started by a request go on between requests.
-/

namespace TableMigration

/-- The help text: the summary and the options. -/
def helpText : String :=
  helpSummary ++ "\n\nOptions:\n" ++
    String.intercalate "\n" (options.map fun o =>
      "  " ++ (match o.short with | some c => "-" ++ String.singleton c ++ ", " | none => "    ") ++
        o.display)

/-- A request line: method, path, then the body. -/
def requestOf (line : String) : Option HttpRequest :=
  match line.splitOn " " with
  | method :: path :: rest =>
    some ⟨method, path, some "application/json", (" ".intercalate rest).toUTF8.toList⟩
  | _ => none

/-- An answer line: the status, then the body. -/
def responseLine (r : HttpResponse) : String :=
  toString r.status ++
    match r.body with
    | some b => " " ++ b.render
    | none => ""

/-- Serve request lines until the input ends. -/
partial def serveLines (w : World) (start : Nat) (stdin stdout : IO.FS.Stream) : IO Unit := do
  let line ← stdin.getLine
  if line.isEmpty then return
  let w := w.sleepUntil ((← IO.monoMsNow) - start)
  match requestOf line.trimAscii.toString with
  | none =>
    stdout.putStrLn "400"
    stdout.flush
    serveLines w start stdin stdout
  | some req =>
    let (r, w) := w.serve req
    stdout.putStrLn (responseLine r)
    stdout.flush
    serveLines w start stdin stdout

end TableMigration

/-- Parse the options, then serve request lines from standard input. -/
def main (args : List String) : IO UInt32 := do
  match TableMigration.ServerSettings.parse args with
  | .error .help =>
    IO.println TableMigration.helpText
    return 0
  | .error e =>
    IO.eprintln e.message
    return 2
  | .ok settings =>
    let clock ← Std.Time.Timestamp.now
    let wall : Int := clock.toMillisecondsSinceUnixEpoch.val
    let start ← IO.monoMsNow
    TableMigration.serveLines (TableMigration.World.create settings (Int64.ofInt wall)) start (← IO.getStdin) (← IO.getStdout)
    return 0
