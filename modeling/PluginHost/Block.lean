/-!
Addresses and lengths of guest buffers. A pair packs into one 64-bit word, the address in the high
half; the empty buffer is the word zero.
-/
namespace PluginHost

structure Block where
  ptr : UInt32
  len : UInt32
  deriving DecidableEq, Inhabited

namespace Block

def empty : Block := ⟨0, 0⟩

def isEmpty (b : Block) : Bool := b.ptr = 0 || b.len = 0

def pack (b : Block) : UInt64 := b.ptr.toUInt64 <<< 32 ||| b.len.toUInt64

def unpack (word : UInt64) : Block := ⟨(word >>> 32).toUInt32, word.toUInt32⟩

def startsIn (b owner : Block) : Bool :=
  owner.ptr.toNat ≤ b.ptr.toNat && b.ptr.toNat < owner.ptr.toNat + owner.len.toNat

end Block

end PluginHost
