import PluginHost.Counting
import PluginHost.Guest
import PluginHost.Text.Utf8
import PluginHost.Wasm.Feature
/-!
Reading the binary form of modules: octets, integers of variable length, names and lists. A reader
takes what it reads from the front of the octets and answers with the rest.
-/
namespace PluginHost.Wasm

inductive Fault where
  | ends
  | malformed (what : String)
  | invalid (rule : String)
  /-- Needs a proposal that is not allowed. -/
  | needs (feature : Feature)
  deriving DecidableEq, Inhabited

def Fault.message : Fault → String
  | .ends => "unexpected end"
  | .malformed what => "malformed " ++ what
  | .invalid rule => rule
  | .needs f => f.name ++ " support is not enabled"

abbrev Reader (α : Type) := StateT Bytes (Except Fault) α

namespace Reader

def fail (f : Fault) : Reader α := throw f

def octet : Reader UInt8 := do
  match ← get with
  | [] => throw .ends
  | b :: rest =>
    set rest
    return b

def peek : Reader UInt8 := do
  match ← get with
  | [] => throw .ends
  | b :: _ => return b

def atEnd : Reader Bool := return (← get).isEmpty

def take (n : Nat) : Reader Bytes := do
  let bytes ← get
  let front := bytes.take n
  if front.length < n then throw .ends
  set (bytes.drop n)
  return front

def unsignedFrom (bits : Nat) : (octets : Nat) → Reader Nat
  | 0 => throw (.malformed "integer")
  | octets + 1 => do
    let b := (← octet).toNat
    if b < 128 then
      if twoTo bits ≤ b then throw (.malformed "integer")
      return b
    else
      if bits ≤ 7 then throw (.malformed "integer")
      return b - 128 + 128 * (← unsignedFrom (bits - 7) octets)

def unsigned (bits : Nat) : Reader Nat := unsignedFrom bits ((bits + 6) / 7)

def u32 : Reader Nat := unsigned 32

def u64 : Reader Nat := unsigned 64

def signedFrom (bits : Nat) : (octets : Nat) → Reader Int
  | 0 => throw (.malformed "integer")
  | octets + 1 => do
    let b := (← octet).toNat
    if b < 128 then
      let v : Int := if b < 64 then b else b - 128
      let half : Int := twoTo (bits - 1)
      if bits ≤ 7 ∧ ¬ (-half ≤ v ∧ v < half) then
        throw (.malformed "integer")
      return v
    else
      if bits ≤ 7 then throw (.malformed "integer")
      return b - 128 + 128 * (← signedFrom (bits - 7) octets)

def signed (bits : Nat) : Reader Int := signedFrom bits ((bits + 6) / 7)

def fixed (octets : Nat) : Reader Nat := do
  return (← take octets).foldr (fun b n => b.toNat + 256 * n) 0

def times (p : Reader α) (done : List α) : Nat → Reader (List α)
  | 0 => return done.reverse
  | n + 1 => do times p ((← p) :: done) n

def list (most : Nat) (p : Reader α) : Reader (List α) := do
  let n ← u32
  if most < n then throw (.invalid "too many elements")
  times p [] n

def name : Reader String := do
  let n ← u32
  if 100000 < n then throw (.invalid "string size out of bounds")
  match Text.Utf8.decode (← take n) with
  | .ok s => return s
  | .error _ => throw (.malformed "UTF-8 encoding")

def whole (p : Reader α) (bytes : Bytes) : Except Fault α := do
  let (a, rest) ← p.run bytes
  if rest.isEmpty then return a else throw (.malformed "section: octets left over")

def untilEnd (p : Reader α) (done : List α) : (bound : Nat) → Reader (List α)
  | 0 => do
    if ← atEnd then return done.reverse else throw (.malformed "list")
  | bound + 1 => do
    if ← atEnd then return done.reverse
    else untilEnd p ((← p) :: done) bound

end Reader

end PluginHost.Wasm
