import Warden.Declaration.Decode
import Warden.Schema.Json
import Warden.Json.Pretty
import Warden.Text.Fields
import Warden.Text.Blank
/-!
# The schema tool

The schema tool reads a declarations file named by its first argument, builds every
declaration in order with the options of the environment, and prints the JSON array of the
schemas in the pretty layout, followed by a line break. It stops at the first problem and then
prints nothing: a missing argument, a file that cannot be read, a text that cannot be read as
declarations, or a declaration that fails to build, which it names by its type name and whose
schema error is the cause. Later arguments are ignored.
-/

namespace Warden.Tool

/-- **Why the tool stopped.** -/
inductive Failure
  | usage
  | unreadable (path : String)
  | unparsable (path : String)
  | unbuildable (typeName : String) (cause : SchemaError)
  deriving DecidableEq, Repr

/-- The message of a failure. -/
def Failure.message : Failure → String
  | .usage => "usage: staticperm-schema <declarations.json>"
  | .unreadable p => "failed to read declarations from " ++ p
  | .unparsable p => "failed to parse declarations in " ++ p
  | .unbuildable t _ => "failed to create model for type '" ++ t ++ "'"

/-- The message of the failure's cause, if it has one. -/
def Failure.cause? : Failure → Option String
  | .unbuildable _ e => some e.message
  | _ => none

/-- The lines of a text, cut at line feeds, each without the carriage return that ends it. -/
def lines (cs : List Char) : List (List Char) :=
  (Text.fields '\n' cs).map fun l => if l.getLast? = some '\r' then l.dropLast else l

/-- The first line of a text. -/
def firstLine (s : String) : String :=
  String.ofList ((lines s.toList).head?.getD [])

/-- The text after the first place where `marker` occurs, if it occurs. -/
def afterMarker (marker : List Char) : List Char → Option (List Char)
  | [] => if marker.isEmpty then some [] else none
  | c :: cs =>
    if marker.isPrefixOf (c :: cs) then some ((c :: cs).drop marker.length)
    else afterMarker marker cs

/-- The text before the first place where `marker` occurs, or all of it. -/
def beforeMarker (marker : List Char) : List Char → List Char
  | [] => []
  | c :: cs => if marker.isPrefixOf (c :: cs) then [] else c :: beforeMarker marker cs

/-- A cause as the report sets it out: four spaces before each of its lines. -/
def indented (s : String) : String :=
  String.ofList (['\n'].intercalate ((Text.fields '\n' s.toList).map fun l => [' ', ' ', ' ', ' '] ++ l))

/-- **The report the tool writes for a failure**: the message, then the cause, indented, after a
blank line and `Caused by:`. -/
def Failure.report (f : Failure) : String :=
  "Error: " ++ f.message ++
    (match f.cause? with
    | some c => "\n\nCaused by:\n" ++ indented c
    | none => "") ++ "\n"

/-- The marker before the cause in a report. -/
def causeMarker : List Char := "Caused by:".toList

/-- **The cause as the report shows it first**: between the first `Caused by:` of the report
and the next one, the first line that is not blank, trimmed. A failure without a cause shows
none. -/
def Failure.causeLine (f : Failure) : Option String :=
  match f.cause? with
  | none => none
  | some _ =>
    (afterMarker causeMarker f.report.toList).bind fun rest =>
      (((lines (beforeMarker causeMarker rest)).map Text.trimList).find? (!·.isEmpty)).map
        String.ofList

/-- **What a run of the tool shows**: its exit code, its output and why it stopped. -/
structure Outcome where
  exitCode : Nat
  stdout : String
  failure : Option Failure

/-- Builds declarations in order; the first that fails is returned with its error. -/
def buildAll (o : Options) : List Declaration → Except (Declaration × SchemaError) (List (Schema String))
  | [] => .ok []
  | d :: ds =>
    match d.build o with
    | .error e => .error (d, e)
    | .ok s => (buildAll o ds).map (s :: ·)

/-- The output of a successful run: the pretty JSON array of the schemas and a line break. -/
def printed (schemas : List (Schema String)) : String :=
  Json.render (.arr (schemas.map Schema.toJson)) ++ "\n"

/-- A run that stopped. -/
def stopped (f : Failure) : Outcome :=
  ⟨1, "", some f⟩

/-- **Runs the tool** on its arguments, an environment and a way to read files. -/
def run (args : List String) (env : String → Option String) (readFile : String → Option String) :
    Outcome :=
  match args with
  | [] => stopped .usage
  | path :: _ =>
    let options := Options.ofEnv env
    match readFile path with
    | none => stopped (.unreadable path)
    | some text =>
      match Declaration.readAll text with
      | .error _ => stopped (.unparsable path)
      | .ok ds =>
        match buildAll options ds with
        | .error (d, e) => stopped (.unbuildable d.typeName e)
        | .ok schemas => ⟨0, printed schemas, none⟩

end Warden.Tool
