import PluginHost.Settings
/-!
The limit on guest memory and tables. The engine asks before it creates or grows either; the limit
remembers the last memory size that it refused, so that a failing allocator can be told from any
other trap.
-/
namespace PluginHost

def maxTableElements : Nat := 10000

structure GrowthLimit where
  maxMemoryBytes : Nat
  refused : Option Nat
  deriving DecidableEq, Inhabited

namespace GrowthLimit

def ofBytes (max : Nat) : GrowthLimit := ⟨max, none⟩

def denied (l : GrowthLimit) : Bool := l.refused.isSome

def reset (l : GrowthLimit) : GrowthLimit := { l with refused := none }

def askMemory (l : GrowthLimit) (desired : Nat) (maximum : Option Nat) : Bool × GrowthLimit :=
  if desired ≤ l.maxMemoryBytes && maximum.all (desired ≤ ·) then (true, l)
  else (false, { l with refused := some desired })

def askTable (desired : Nat) (maximum : Option Nat) : Bool :=
  desired ≤ maximum.getD maxTableElements && desired ≤ maxTableElements

end GrowthLimit

end PluginHost
