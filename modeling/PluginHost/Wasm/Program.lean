import PluginHost.Wasm.Memory
import PluginHost.Wasm.Module
/-!
A module in the form in which it runs: functions with their types and code at hand, and the steps
that make an instance.
-/
namespace PluginHost.Wasm

structure Function where
  type : FuncType
  /-- First values of the local variables behind the parameters. -/
  locals : List Value
  code : List Instr
  deriving Inhabited

structure Program where
  imports : List Import
  exports : List Export
  imported : Array FuncType
  functions : Array Function
  types : Array SubType
  memories : List MemType
  tables : List TableType
  globals : List ConstExpr
  elems : Array ElemSegment
  data : Array DataSegment
  start : Option Nat
  deriving Inhabited

namespace Program

def importKind (m : Module) : ExternType → ImportKind
  | .function t => .function ((m.funcType? t).getD ⟨[], []⟩).signature
  | .memory t => .memory ⟨t.limits.minimum, t.limits.maximum⟩
  | _ => .other

def exportKind (m : Module) (e : ModuleExport) : ExportKind :=
  match e.sort with
  | .function =>
    let type := (m.allFunctions[e.index]?).bind m.funcType?
    .function e.index (type.getD ⟨[], []⟩).signature
  | .memory =>
    match m.allMemories[e.index]? with
    | some t => .memory e.index ⟨t.limits.minimum, t.limits.maximum⟩
    | none => .other
  | _ => .other

def localValues (runs : List (Nat × ValType)) : List Value :=
  runs.flatMap fun (n, t) => List.replicate n (Value.zero t.toValueType)

def ofModule (m : Module) : Program where
  imports := m.imports.map fun i => ⟨i.ns, i.name, importKind m i.type⟩
  exports := m.exports.map fun e => ⟨e.name, exportKind m e⟩
  imported := (m.importedFunctions.map fun t => (m.funcType? t).getD ⟨[], []⟩).toArray
  functions := (m.functions.zip m.bodies).map fun (t, b) =>
    ⟨(m.funcType? t).getD ⟨[], []⟩, localValues b.locals, b.code⟩
  types := m.types
  memories := m.memories
  tables := m.tables.map Table.type
  globals := m.globals.map Global.value
  elems := m.elems.toArray
  data := m.data.toArray
  start := m.start

def functionType? (p : Program) (i : Nat) : Option FuncType :=
  if h : i < p.imported.size then some p.imported[i]
  else (p.functions[i - p.imported.size]?).map Function.type

def blockArity (p : Program) : BlockType → Nat × Nat
  | .empty => (0, 0)
  | .result _ => (0, 1)
  | .defined i =>
    match p.types[i]? with
    | some ⟨_, _, _, .function t⟩ => (t.params.length, t.results.length)
    | _ => (0, 0)

def null (h : HeapType) : Value :=
  if h = .kind .external false then .externref none else .funcref none

def constant (globals : Array Value) : List Value → ConstExpr → Value
  | v :: _, [] => v
  | [], [] => .ref
  | vs, .const v :: is => constant globals (v :: vs) is
  | vs, .refNull h :: is =>
    constant globals (null h :: vs) is
  | vs, .refFunc f :: is => constant globals (.funcref (some f) :: vs) is
  | vs, .globalGet x :: is => constant globals (globals.getD x .ref :: vs) is
  | .i32 b :: .i32 a :: vs, .intBinary _ op :: is =>
    let n := match op with
      | .add => a + b
      | .sub => a - b
      | _ => a * b
    constant globals (.i32 n :: vs) is
  | .i64 b :: .i64 a :: vs, .intBinary _ op :: is =>
    let n := match op with
      | .add => a + b
      | .sub => a - b
      | _ => a * b
    constant globals (.i64 n :: vs) is
  | vs, _ :: is => constant globals vs is

end Program

end PluginHost.Wasm
