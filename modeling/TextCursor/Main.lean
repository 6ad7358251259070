import TextCursor.Console.Logging

/-!
# Command line

Takes the settings from the environment and the lines from standard input.
-/

open TextCursor

def main : IO UInt32 := do
  let settings := Settings.ofVariables (← IO.getEnv Settings.logVariable)
    (← IO.getEnv Settings.historyVariable) (← IO.getEnv "HOME")
  let input ← (← IO.getStdin).readBinToEnd
  let outcome := Console.runLogging settings none input.toList
  IO.print outcome.output
  IO.eprint outcome.errors
  match settings.history, outcome.history with
  | some path, some text =>
    try IO.FS.writeFile path text
    catch e =>
      IO.eprint (Console.written settings.logLevel (Console.closing settings (some e.toString)))
  | _, _ => pure ()
  return outcome.code
