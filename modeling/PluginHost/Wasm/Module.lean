import PluginHost.Wasm.Instruction
import PluginHost.Guest
/-!
A module as it is written: types, what it imports and exports, and what it defines.
-/
namespace PluginHost.Wasm

structure ModuleImport where
  ns : String
  name : String
  type : ExternType
  deriving DecidableEq, Inhabited

inductive ExportSort where
  | function
  | table
  | memory
  | global
  | tag
  deriving DecidableEq, Inhabited

structure ModuleExport where
  name : String
  sort : ExportSort
  index : Nat
  deriving DecidableEq, Inhabited

structure Global where
  type : GlobalType
  value : ConstExpr
  deriving DecidableEq, Inhabited

structure Table where
  type : TableType
  fill : Option ConstExpr
  deriving DecidableEq, Inhabited

inductive SegmentMode where
  | active (target : Nat) (offset : ConstExpr)
  | passive
  | declared
  deriving DecidableEq, Inhabited

structure ElemSegment where
  mode : SegmentMode
  type : RefType
  /-- Written as indices of functions. -/
  functions : Bool
  items : List ConstExpr
  deriving DecidableEq, Inhabited

structure DataSegment where
  mode : SegmentMode
  bytes : Bytes
  deriving DecidableEq, Inhabited

structure Body where
  locals : List (Nat × ValType)
  code : List Instr
  deriving DecidableEq, Inhabited

structure Module where
  types : Array SubType := #[]
  groups : List TypeGroup := []
  imports : List ModuleImport := []
  functions : Array Nat := #[]
  tables : List Table := []
  memories : List MemType := []
  tags : List Nat := []
  /-- Tags are announced, if only none. -/
  tagged : Bool := false
  globals : List Global := []
  exports : List ModuleExport := []
  start : Option Nat := none
  elems : List ElemSegment := []
  dataCount : Option Nat := none
  bodies : Array Body := #[]
  data : List DataSegment := []
  deriving Inhabited

namespace Module

variable (m : Module)

def funcType? (type : Nat) : Option FuncType :=
  match m.types[type]? with
  | some ⟨_, _, _, .function t⟩ => some t
  | _ => none

def importedFunctions : List Nat :=
  m.imports.filterMap fun i => match i.type with
    | .function t => some t
    | _ => none

def importedTables : List TableType :=
  m.imports.filterMap fun i => match i.type with
    | .table t => some t
    | _ => none

def importedMemories : List MemType :=
  m.imports.filterMap fun i => match i.type with
    | .memory t => some t
    | _ => none

def importedGlobals : List GlobalType :=
  m.imports.filterMap fun i => match i.type with
    | .global t => some t
    | _ => none

def importedTags : List Nat :=
  m.imports.filterMap fun i => match i.type with
    | .tag t => some t
    | _ => none

def allFunctions : List Nat := m.importedFunctions ++ m.functions.toList

def allTables : List TableType := m.importedTables ++ m.tables.map Table.type

def allMemories : List MemType := m.importedMemories ++ m.memories

def allGlobals : List GlobalType := m.importedGlobals ++ m.globals.map Global.type

def allTags : List Nat := m.importedTags ++ m.tags

end Module

end PluginHost.Wasm
