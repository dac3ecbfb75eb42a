import Warden.Text.Fields
/-!
# Folders and the machine the tool reads from

A folder holds named files, folders and links; a link stands for whatever its target, an
absolute path, names. A path is read the way a Unix file system resolves it. It is cut at `/`;
an absolute path starts at the root and a relative one at the working folder. An empty part or
`.` stays where it is; `..` goes to the enclosing folder, and from the root to the root itself;
any other part enters the entry of that name, and a link is replaced by the parts of its target,
read from the root, so that a `..` after it leaves the folder the link leads to. A walk follows
at most forty links, so a cycle of links names nothing. The path names a file only if the walk
ends on a file with no part left: a part after a file, a missing name, a folder and the empty
path name nothing that can be read.

The tool runs on a machine whose working folder is `/tmp/scratch`. Beside it the machine has
`/dev/null`, an empty file; the account table `/etc/passwd`, a text of colon-separated lines; and
the links `/proc/self/cwd` to the working folder and `/proc/self/root` to the root.

Main statement: `read_file` (a file of the working folder is read by its name).
-/

namespace Warden.Tool

/-- **A file, a folder or a link** to an absolute path. -/
inductive Node
  | file (text : String)
  | folder (entries : List (String × Node))
  | link (target : String)

/-- The entry of a folder with a given name. -/
def Node.child? : Node → String → Option Node
  | .folder es, n => (es.find? fun e => e.1 == n).map Prod.snd
  | _, _ => none

/-- The number of links one walk follows at most. -/
def linkLimit : Nat := 40

/-- **Where a walk over the parts of a path ends**: at a node or at nothing, or at a link, with
the parts to read from the root next: the link's target and the parts after it. -/
inductive Walk
  | stop (found : Option Node)
  | restart (parts : List String)

/-- **Walks the parts of a path** from a node, given the folders that enclose it, nearest first,
up to the first link. -/
def Node.walk (up : List Node) (n : Node) : List String → Walk
  | [] => .stop (some n)
  | p :: ps =>
    match n with
    | .folder _ =>
      if p = "" ∨ p = "." then walk up n ps
      else if p = ".." then
        match up with
        | [] => walk [] n ps
        | u :: us => walk us u ps
      else
        match n.child? p with
        | none => .stop none
        | some (.link t) => .restart (Text.fieldsOf '/' t ++ ps)
        | some c => walk (n :: up) c ps
    | _ => .stop none

/-- **The node that parts read from a root name**, following at most `links` links. -/
def Node.resolve (root : Node) : Nat → List String → Option Node
  | links, parts =>
    match Node.walk [] root parts, links with
    | .stop found, _ => found
    | .restart _, 0 => none
    | .restart next, k + 1 => root.resolve k next

/-- **A machine**: its root folder and the absolute path of the working folder, which names a
folder and passes through no link. -/
structure Machine where
  root : Node
  work : String

/-- **The text of the file a path names** on a machine. -/
def Machine.read? (m : Machine) (path : String) : Option String :=
  if path = "" then none
  else
    let parts := Text.fieldsOf '/' path
    let start := if path.startsWith "/" then parts else Text.fieldsOf '/' m.work ++ parts
    match m.root.resolve linkLimit start with
    | some (.file t) => some t
    | _ => none

/-- The absolute path of the working folder. -/
def scratchPath : String := "/tmp/scratch"

/-- **The machine around a working folder**: `/dev/null` is an empty file, `/etc/passwd` names
the superuser, `/proc/self/cwd` leads to the working folder and `/proc/self/root` to the root. -/
def Machine.around (work : Node) : Machine where
  root := .folder [
    ("dev", .folder [("null", .file "")]),
    ("etc", .folder [("passwd", .file "root:x:0:0:root:/root:/bin/sh\n")]),
    ("proc", .folder [("self", .folder [("cwd", .link scratchPath), ("root", .link "/")])]),
    ("tmp", .folder [("scratch", work)])]
  work := scratchPath

/-! ### Laws -/

theorem read_file (name text : String) (rest : List (String × Node)) (h1 : name ≠ "")
    (h2 : name ≠ ".") (h3 : name ≠ "..") (h4 : Text.fieldsOf '/' name = [name])
    (h5 : ¬ name.startsWith "/") :
    (Machine.around (.folder ((name, .file text) :: rest))).read? name = some text := by
  have hw : Text.fieldsOf '/' scratchPath = ["", "tmp", "scratch"] := by decide +kernel
  simp [Machine.read?, Machine.around, h1, h5, h4, hw, Node.resolve, Node.walk, h2, h3,
    Node.child?]

/-- Paths through the working folder, `/dev/null` and the links of `/proc/self` are read as the
file system reads them. -/
example :
    let m := Machine.around (.folder [("declarations.json", .file "[]"), ("subdir", .folder [])])
    m.read? "subdir/../declarations.json" = some "[]" ∧ m.read? "/dev/../dev/null" = some "" ∧
      m.read? "//proc/self/cwd//declarations.json" = some "[]" ∧
      m.read? "/proc/self/root/proc/self/cwd/./subdir/../declarations.json" = some "[]" ∧
      m.read? "../scratch/declarations.json" = some "[]" ∧ m.read? "declarations.json/" = none ∧
      m.read? "declarations.json/../declarations.json" = none ∧ m.read? "/" = none ∧
      m.read? "" = none ∧ m.read? "../../../dev/null" = some "" := by
  decide +kernel

end Warden.Tool
