import PluginHost.Wasm.Component.Type
/-!
How functions on data look to modules. Data becomes numbers, a form of several becomes its number
and what the largest of them needs; what is too much for parameters and results goes through memory.
-/
namespace PluginHost.Wasm.Component

def join (a b : ValType) : ValType :=
  if a = b then a
  else if (a = .i32 ∧ b = .f32) ∨ (a = .f32 ∧ b = .i32) then .i32
  else .i64

def joinAll : List ValType → List ValType → List ValType
  | [], bs => bs
  | as, [] => as
  | a :: as, b :: bs => join a b :: joinAll as bs

def Primitive.numbers : Primitive → List ValType
  | .s64 | .u64 => [.i64]
  | .f32 => [.f32]
  | .f64 => [.f64]
  | .string => [.i32, .i32]
  | _ => [.i32]

def Form.numbers (parts : List (List ValType)) : Form → List ValType
  | .record _ | .tuple => parts.flatten
  | .variant _ | .option | .result => .i32 :: parts.foldl joinAll []
  | .list => [.i32, .i32]
  | .flags names => List.replicate ((names.length + 31) / 32) .i32
  | .enum _ => [.i32]

mutual

def DataType.numbers : DataType → List ValType
  | .nothing => []
  | .primitive p => p.numbers
  | .handle .. => [.i32]
  | .composed form _ parts => form.numbers (partsNumbers parts)

def partsNumbers : List DataType → List (List ValType)
  | [] => []
  | t :: ts => t.numbers :: partsNumbers ts

end

mutual

def DataType.inMemory : DataType → Bool
  | .primitive p => p = .string
  | .composed form _ parts => form = .list || anyInMemory parts
  | _ => false

def anyInMemory : List DataType → Bool
  | [] => false
  | t :: ts => t.inMemory || anyInMemory ts

end

structure Lowered where
  type : FuncType
  memory : Bool
  allocator : Bool
  deriving DecidableEq, Inhabited

def maxParams : Nat := 16

def maxResults : Nat := 1

def upToOverflow (room : Nat) : List DataType → List DataType
  | [] => []
  | t :: ts =>
    if t.numbers.length ≤ room then t :: upToOverflow (room - t.numbers.length) ts else [t]

def FunctionType.lowered (called : Bool) (t : FunctionType) : Lowered :=
  let params := t.params.map Prod.snd
  let results := t.results.map Prod.snd
  let flatParams := params.flatMap DataType.numbers
  let flatResults := results.flatMap DataType.numbers
  let manyParams : Bool := maxParams < flatParams.length
  let manyResults : Bool := maxResults < flatResults.length
  let pointerIn := anyInMemory params
  let pointerOut := anyInMemory (upToOverflow maxResults results)
  let allocator := if called then pointerOut else pointerIn || manyParams
  { type :=
      { params := (if manyParams then [.i32] else flatParams) ++
          if called && manyResults then [.i32] else []
        results := if ¬ manyResults then flatResults else if called then [] else [.i32] }
    memory := allocator || manyParams || manyResults || (called && pointerIn)
    allocator }

end PluginHost.Wasm.Component
