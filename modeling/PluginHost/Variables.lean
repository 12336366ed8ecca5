import PluginHost.Failure
/-!
The variables of a plugin: keys with values that are never empty, at most so many octets in all.
-/
namespace PluginHost

structure Variables where
  entries : List (String × List UInt8)
  bytes : Nat
  limit : Nat
  deriving DecidableEq, Inhabited

namespace Variables

def empty (limit : Nat) : Variables := ⟨[], 0, limit⟩

def entrySize (key : String) (value : List UInt8) : Nat := key.utf8ByteSize + value.length

def get? (v : Variables) (key : String) : Option (List UInt8) := v.entries.lookup key

def others (v : Variables) (key : String) : List (String × List UInt8) :=
  v.entries.filter fun e => e.1 ≠ key

def sizeOf (v : Variables) (key : String) : Nat := ((v.get? key).map (entrySize key)).getD 0

def erase (v : Variables) (key : String) : Variables :=
  { v with entries := v.others key, bytes := v.bytes - v.sizeOf key }

def overflow (key : String) (total limit : Nat) : Failure :=
  .hostFunction "var_set" ("variable `" ++ key ++ "` would grow the store to " ++ toString total ++
    " bytes (limit " ++ toString limit ++ ")")

/-- Stores a value under a key; an empty value removes the key. -/
def set (v : Variables) (key : String) (value : List UInt8) : Except Failure Variables :=
  if value.isEmpty then .ok (v.erase key)
  else
    let total := v.bytes - v.sizeOf key + entrySize key value
    if v.limit < total then .error (overflow key total v.limit)
    else .ok { v with entries := (key, value) :: v.others key, bytes := total }

def clear (v : Variables) : Variables := { v with entries := [], bytes := 0 }

end Variables

end PluginHost
