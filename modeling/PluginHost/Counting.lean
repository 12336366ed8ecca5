/-!
How many numbers fit into words, and sums of counts.
-/
namespace PluginHost

abbrev twoTo (bits : Nat) : Nat := Nat.pow 2 bits

def total : List Nat → Nat
  | [] => 0
  | n :: ns => n + total ns

end PluginHost
