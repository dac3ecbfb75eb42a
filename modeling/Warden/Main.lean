import Warden.Tool
/-!
# The schema tool's command line

Reads the file its first argument names, runs the schema tool with the process environment,
prints the schemas on standard output or the report on standard error, and exits with the
tool's exit code.
-/

open Warden

/-- Reads a file, or nothing when it cannot be read. -/
def readText (path : String) : IO (Option String) := do
  try
    let text ← IO.FS.readFile path
    pure (some text)
  catch _ =>
    pure none

def main (args : List String) : IO UInt32 := do
  let strict ← IO.getEnv strictVariable
  let text ← match args with
    | path :: _ => readText path
    | [] => pure none
  let env := fun k => if k = strictVariable then strict else none
  let outcome := Tool.run args env fun p => if args.head? = some p then text else none
  match outcome.failure with
  | some f => IO.eprint f.report
  | none => IO.print outcome.stdout
  pure outcome.exitCode.toUInt32
