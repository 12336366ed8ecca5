import PluginHost.Failure
import PluginHost.Text.Quoted
/-!
The interface of a module: what it imports and what it exports, and the overview of both that the
host shows before any guest code runs.
-/
namespace PluginHost

structure MemoryType where
  minimum : Nat
  maximum : Option Nat
  deriving DecidableEq, Inhabited

inductive ImportKind where
  | function (signature : Signature)
  | memory (type : MemoryType)
  | other
  deriving DecidableEq, Inhabited

structure Import where
  ns : String
  name : String
  kind : ImportKind
  deriving DecidableEq, Inhabited

inductive ExportKind where
  | function (index : Nat) (signature : Signature)
  | memory (index : Nat) (type : MemoryType)
  | other
  deriving DecidableEq, Inhabited

structure Export where
  name : String
  kind : ExportKind
  deriving DecidableEq, Inhabited

structure FunctionImport where
  ns : String
  name : String
  signature : Signature
  deriving DecidableEq, Inhabited

structure FunctionExport where
  name : String
  signature : Signature
  deriving DecidableEq, Inhabited

structure MemoryEntry where
  type : MemoryType
  imported : Bool
  deriving DecidableEq, Inhabited

structure ModuleInfo where
  imports : List FunctionImport
  exports : List FunctionExport
  memories : List MemoryEntry
  /-- Qualified names of the imports that are not functions. -/
  otherImports : List String
  deriving DecidableEq, Inhabited

namespace ModuleInfo

def functionImport? (i : Import) : Option FunctionImport :=
  match i.kind with
  | .function s => some ⟨i.ns, i.name, s⟩
  | _ => none

def importedMemory? (i : Import) : Option MemoryEntry :=
  match i.kind with
  | .memory t => some ⟨t, true⟩
  | _ => none

def otherImport? (i : Import) : Option String :=
  match i.kind with
  | .function _ => none
  | _ => some (Name.qualified i.ns i.name)

def functionExport? (e : Export) : Option FunctionExport :=
  match e.kind with
  | .function _ s => some ⟨e.name, s⟩
  | _ => none

def exportedMemory? (e : Export) : Option MemoryEntry :=
  match e.kind with
  | .memory _ t => some ⟨t, false⟩
  | _ => none

def ofInterface (imports : List Import) (exports : List Export) : ModuleInfo where
  imports := imports.filterMap functionImport?
  exports := exports.filterMap functionExport?
  memories := imports.filterMap importedMemory? ++ exports.filterMap exportedMemory?
  otherImports := imports.filterMap otherImport?

def export? (i : ModuleInfo) (name : String) : Option FunctionExport :=
  i.exports.find? fun e => e.name = name

def import? (i : ModuleInfo) (ns name : String) : Option FunctionImport :=
  i.imports.find? fun f => f.ns = ns && f.name = name

def bytesExports (i : ModuleInfo) : List FunctionExport :=
  i.exports.filter fun e => e.signature.isBytes

def json (i : ModuleInfo) : String :=
  let import_ (f : FunctionImport) := Json.object
    [("namespace", Json.string f.ns), ("name", Json.string f.name), ("signature", f.signature.json)]
  let export_ (f : FunctionExport) := Json.object
    [("name", Json.string f.name), ("signature", f.signature.json)]
  let memory (m : MemoryEntry) := Json.object
    [("minimum_pages", toString m.type.minimum),
      ("maximum_pages", (m.type.maximum.map toString).getD "null"),
      ("imported", toString m.imported)]
  Json.object [("imports", Json.array (i.imports.map import_)),
    ("exports", Json.array (i.exports.map export_)),
    ("memories", Json.array (i.memories.map memory)),
    ("other_imports", Json.array (i.otherImports.map Json.string))]

def debugList (items : List String) : String := "[" ++ ", ".intercalate items ++ "]"

def debug (i : ModuleInfo) : String :=
  let import_ (f : FunctionImport) :=
    "FunctionImport \x7b namespace: " ++ Text.quoted f.ns ++ ", name: " ++ Text.quoted f.name ++
      ", signature: " ++ f.signature.debug ++ " \x7d"
  let export_ (f : FunctionExport) :=
    "FunctionExport \x7b name: " ++ Text.quoted f.name ++ ", signature: " ++ f.signature.debug ++
      " \x7d"
  let memory (m : MemoryEntry) :=
    "MemoryRequirement \x7b minimum_pages: " ++ toString m.type.minimum ++ ", maximum_pages: " ++
      (match m.type.maximum with
        | some n => "Some(" ++ toString n ++ ")"
        | none => "None") ++
      ", imported: " ++ toString m.imported ++ " \x7d"
  "ModuleInfo \x7b imports: " ++ debugList (i.imports.map import_) ++
    ", exports: " ++ debugList (i.exports.map export_) ++
    ", memories: " ++ debugList (i.memories.map memory) ++
    ", other_imports: " ++ debugList (i.otherImports.map Text.quoted) ++ " \x7d"

end ModuleInfo

end PluginHost
