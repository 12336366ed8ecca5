import PluginHost.Wasm.Binary.Component
import PluginHost.Wasm.Component.Check
import PluginHost.Wasm.Machine
/-!
The engine: the guest whose modules are written in the binary form. Octets are checked twice, so
that a malformed module can be told from one that needs a proposal the engine does not run.
-/
namespace PluginHost.Wasm

def loadModule (m : Module) : Except Failure Program :=
  match Typing.checkModule Features.all m with
  | .error f => .error (.invalidBinary f.message)
  | .ok () =>
    match Typing.checkModule Features.engine m with
    | .error f => .error (.unsupported (.feature f.message))
    | .ok () => .ok (Program.ofModule m)

/-- Accepts or refuses octets; the engine runs modules, no components. -/
def load (bytes : Bytes) : Except Failure Program :=
  match Reader.whole Binary.contents bytes with
  | .error f => .error (.invalidBinary f.message)
  | .ok (.module m) => loadModule m
  | .ok (.component items) =>
    match Component.check items with
    | .error f => .error (.invalidBinary f.message)
    | .ok () => .error (.unsupported (.feature "component model"))

def stepLimit : Nat := twoTo 62

def engine : Guest where
  Module := Program
  State := State
  Code := Code
  load := load
  imports := Program.imports
  exports := Program.exports
  start := fun p => (.empty, .making (Machine.tasks p))
  enter := fun _ depth function args => .entering function args .host ⟨[], depth, 0⟩
  step := Machine.step
  resume := Machine.resume
  answer := Machine.answer
  sizes := fun s => s.memories.toList.map Memory.size
  read := fun s memory address length =>
    ((s.memories[memory]?).map fun m => m.read address length).getD []
  write := fun s memory address bytes => s.onMemory memory fun m => m.write address bytes
  stepLimit := stepLimit

end PluginHost.Wasm
