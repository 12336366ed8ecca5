import PluginHost.Wasm.Module
/-!
A component as it is written: modules and components in it, the types of what goes in and out, and
how functions of modules become functions on data. Things are numbered by their sorts in the order
in which they come up.
-/
namespace PluginHost.Wasm.Component

inductive Primitive where
  | bool
  | s8
  | u8
  | s16
  | u16
  | s32
  | u32
  | s64
  | u64
  | f32
  | f64
  | char
  | string
  deriving DecidableEq, Inhabited

inductive DataRef where
  | primitive (type : Primitive)
  | index (type : Nat)
  deriving DecidableEq, Inhabited

structure Case where
  name : String
  payload : Option DataRef
  /-- An earlier form that this one is a special case of. -/
  refines : Option Nat
  deriving DecidableEq, Inhabited

inductive DataDef where
  | primitive (type : Primitive)
  | record (fields : List (String × DataRef))
  | variant (cases : List Case)
  | list (element : DataRef)
  | tuple (parts : List DataRef)
  | flags (names : List String)
  | enum (names : List String)
  | option (payload : DataRef)
  | result (ok error : Option DataRef)
  | own (resource : Nat)
  | borrow (resource : Nat)
  deriving DecidableEq, Inhabited

inductive ItemSort where
  | module
  | function
  | value
  | type
  | inst
  | component
  deriving DecidableEq, Inhabited

structure ItemRef where
  sort : ItemSort
  index : Nat
  deriving DecidableEq, Inhabited

inductive Bound where
  | module (type : Nat)
  | function (type : Nat)
  | value (type : DataRef)
  | equal (type : Nat)
  | resource
  | inst (type : Nat)
  | component (type : Nat)
  deriving DecidableEq, Inhabited

inductive OuterSort where
  | coreType
  | module
  | type
  | component
  deriving DecidableEq, Inhabited

inductive Synonym where
  | ofInstance (sort : ItemSort) (inst : Nat) (name : String)
  | ofModule (sort : ExportSort) (inst : Nat) (name : String)
  /-- Something of the component so many levels further out. -/
  | outer (sort : OuterSort) (levels index : Nat)
  deriving DecidableEq, Inhabited

inductive ModuleDecl where
  | takes (import_ : ModuleImport)
  | types (group : TypeGroup) (types : List SubType)
  | outer (levels index : Nat)
  | gives (name : String) (type : ExternType)
  deriving Inhabited

inductive CoreTypeDef where
  | group (group : TypeGroup) (types : List SubType)
  | module (decls : List ModuleDecl)
  deriving Inhabited

mutual

inductive TypeDef where
  | data (type : DataDef)
  | function (params : List (String × DataRef)) (results : List (Option String × DataRef))
  | component (decls : List Decl)
  | inst (decls : List Decl)
  /-- A new type of resources, by what stands for one, and what is called to drop one. -/
  | resource (representation : ValType) (drop : Option Nat)

inductive Decl where
  | coreType (type : CoreTypeDef)
  | type (type : TypeDef)
  | synonym (s : Synonym)
  | gives (name : String) (bound : Bound)
  | takes (name : String) (bound : Bound)

end

inductive CoreInstanceDef where
  | ofModule (module : Nat) (args : List (String × Nat))
  | bundle (exports : List ModuleExport)
  deriving DecidableEq, Inhabited

inductive InstanceDef where
  | ofComponent (component : Nat) (args : List (String × ItemRef))
  | bundle (exports : List (String × ItemRef))
  deriving DecidableEq, Inhabited

inductive ConversionOption where
  | encoding
  | memory (index : Nat)
  | allocator (function : Nat)
  | cleanup (function : Nat)
  deriving DecidableEq, Inhabited

inductive FunctionDef where
  | lift (function : Nat) (options : List ConversionOption) (type : Nat)
  | lower (function : Nat) (options : List ConversionOption)
  | newResource (type : Nat)
  | dropResource (type : Nat)
  | representation (type : Nat)
  | spawnThread (type : Nat)
  | threadCount
  deriving DecidableEq, Inhabited

inductive Item where
  | module (m : Module)
  | component (items : List Item)
  | coreInstance (i : CoreInstanceDef)
  | coreType (t : CoreTypeDef)
  | inst (i : InstanceDef)
  | synonym (s : Synonym)
  | type (t : TypeDef)
  | function (f : FunctionDef)
  | start (function : Nat) (args : List Nat) (results : Nat)
  | takes (name : String) (bound : Bound)
  | gives (name : String) (what : ItemRef) (bound : Option Bound)

end PluginHost.Wasm.Component
