import PluginHost.Guest
/-!
Linear memory. A page is kept only up to the last octet that was ever written into it; all others
are zero. So a memory of many pages costs little until it is used.
-/
namespace PluginHost.Wasm

structure Memory where
  pages : Array ByteArray
  maximum : Option Nat
  deriving Inhabited

namespace Memory

def pageBytes : Nat := 65536

def empty (maximum : Option Nat) : Memory := ⟨#[], maximum⟩

def pageCount (m : Memory) : Nat := m.pages.size

def size (m : Memory) : Nat := m.pages.size * pageBytes

def byte (m : Memory) (address : Nat) : UInt8 :=
  match m.pages[address / pageBytes]? with
  | some page =>
    if h : address % pageBytes < page.size then page[address % pageBytes] else 0
  | none => 0

def padded : (zeros : Nat) → ByteArray → ByteArray
  | 0, page => page
  | n + 1, page => padded n (page.push 0)

def setInPage (page : ByteArray) (place : Nat) (b : UInt8) : ByteArray :=
  if h : place < page.size then page.set place b
  else (padded (place - page.size) page).push b

def setByte (m : Memory) (address : Nat) (b : UInt8) : Memory :=
  { m with pages := m.pages.modify (address / pageBytes) fun page =>
      setInPage page (address % pageBytes) b }

def read (m : Memory) (address length : Nat) : Bytes :=
  (List.range length).map fun i => m.byte (address + i)

def write (m : Memory) (address : Nat) : Bytes → Memory
  | [] => m
  | b :: bs => write (m.setByte address b) (address + 1) bs

def readNumber (m : Memory) (address : Nat) : (octets : Nat) → Nat
  | 0 => 0
  | octets + 1 => (m.byte address).toNat + 256 * readNumber m (address + 1) octets

def writeNumber (m : Memory) (address n : Nat) : (octets : Nat) → Memory
  | 0 => m
  | octets + 1 =>
    writeNumber (m.setByte address (UInt8.ofNat n)) (address + 1) (n / 256) octets

def grow (m : Memory) (delta : Nat) : Memory :=
  { m with pages := m.pages ++ Array.replicate delta ByteArray.empty }

end Memory

end PluginHost.Wasm
