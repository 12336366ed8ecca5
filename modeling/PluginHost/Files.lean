import PluginHost.Failure
/-!
A small tree of files and directories, as far as the host looks at it: it reads plugin files and
appends to log files. A path is followed name by name, and every name but the last has to be that of
a directory; a file cannot have anything below it.
-/
namespace PluginHost

abbrev Path := List String

/-- Directories and files; the empty path is always a directory. What a file holds is kept as the
stretches that were written to it, the latest first. -/
structure Files where
  directories : List Path
  files : List (Path × List (List UInt8))
  deriving Inhabited

namespace Files

def names (s : String) : List String := (s.splitOn "/").filter fun n => n ≠ ""

def nameLimit : Nat := 255

def textLimit : Nat := 4095

def isDirectory (t : Files) (p : Path) : Bool := p.isEmpty || t.directories.contains p

def contents? (t : Files) (p : Path) : Option (List UInt8) :=
  (t.files.lookup p).map fun stretches => stretches.reverse.flatten

def follow (t : Files) (p : Path) (name : String) : Except FileFault Path :=
  if !t.isDirectory p then
    .error (if (t.contents? p).isSome then .notDirectory else .missing)
  else if name = "." then .ok p
  else if name = ".." then .ok p.dropLast
  else if nameLimit < name.utf8ByteSize then .error .nameTooLong
  else .ok (p ++ [name])

def locate (t : Files) (s : String) : Except FileFault Path :=
  if s.toList.contains '\x00' then .error .nulInPath
  else if textLimit < s.utf8ByteSize then .error .nameTooLong
  else if s = "" then .error .missing
  else (names s).foldlM t.follow []

def read (t : Files) (name : String) : Except FileFault (List UInt8) := do
  let p ← t.locate name
  if t.isDirectory p then throw .isDirectory
  match t.contents? p with
  | none => throw .missing
  | some bytes => if name.endsWith "/" then throw .notDirectory else return bytes

def openForWriting (t : Files) (name : String) : Except FileFault (Path × Files) := do
  let p ← t.locate name
  if t.isDirectory p then throw .isDirectory
  match t.contents? p with
  | some _ => if name.endsWith "/" then throw .notDirectory else return (p, t)
  | none =>
    if name.endsWith "/" then throw .isDirectory
    return (p, { t with files := t.files ++ [(p, [])] })

def update (t : Files) (p : Path) (f : List (List UInt8) → List (List UInt8)) : Files :=
  { t with files := t.files.map fun file => if file.1 = p then (p, f file.2) else file }

def append (t : Files) (p : Path) (bytes : List UInt8) : Files := t.update p (bytes :: ·)

def write (t : Files) (name : String) (bytes : List UInt8) : Files :=
  match t.openForWriting name with
  | .ok (p, t) => t.update p fun _ => [bytes]
  | .error _ => t

end Files

end PluginHost
