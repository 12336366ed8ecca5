/-!
UTF-8 read one octet at a time. `pieces` cuts any octet string into characters and ill-formed runs,
each run as long as it can be while a character could still follow. `decode` refuses the first run
and says where it stands, `decodeLossy` puts one U+FFFD in the place of each.
-/
namespace PluginHost.Text.Utf8

/-- What the octets read so far of one character ask of the next octet. -/
structure Pending where
  value : Nat
  seen : Nat
  left : Nat
  /-- Least and greatest octet that may come next. -/
  low : UInt8
  high : UInt8
  deriving DecidableEq, Inhabited

inductive Piece where
  | char (c : Char)
  /-- Octets that no character starts with, given what follows them. -/
  | bad (length : Nat)
  /-- A character that the end of the input cuts short. -/
  | short (length : Nat)
  deriving DecidableEq, Inhabited

def Piece.size : Piece → Nat
  | .char c => c.utf8Size
  | .bad n => n
  | .short n => n

def lead? (b : UInt8) : Option Pending :=
  let after (bits left : Nat) (low high : UInt8) : Option Pending :=
    some ⟨bits, 1, left, low, high⟩
  let n := b.toNat
  if 0xC2 ≤ n ∧ n ≤ 0xDF then after (n % 0x20) 1 0x80 0xBF
  else if n = 0xE0 then after 0 2 0xA0 0xBF
  else if n = 0xED then after 0xD 2 0x80 0x9F
  else if 0xE1 ≤ n ∧ n ≤ 0xEF then after (n % 0x10) 2 0x80 0xBF
  else if n = 0xF0 then after 0 3 0x90 0xBF
  else if n = 0xF4 then after 4 3 0x80 0x8F
  else if 0xF1 ≤ n ∧ n ≤ 0xF3 then after (n % 8) 3 0x80 0xBF
  else none

def start (b : UInt8) : List Piece × Option Pending :=
  if b < 0x80 then ([.char (Char.ofNat b.toNat)], none)
  else match lead? b with
    | some p => ([], some p)
    | none => ([.bad 1], none)

/-- Reads an octet inside a character; one that does not fit ends the run and starts afresh. -/
def Pending.step (p : Pending) (b : UInt8) : List Piece × Option Pending :=
  if p.low ≤ b ∧ b ≤ p.high then
    let value := p.value * 64 + b.toNat % 64
    if p.left ≤ 1 then ([.char (Char.ofNat value)], none)
    else ([], some ⟨value, p.seen + 1, p.left - 1, 0x80, 0xBF⟩)
  else
    let (ps, q) := start b
    (.bad p.seen :: ps, q)

def step (q : Option Pending) (b : UInt8) : List Piece × Option Pending :=
  match q with
  | none => start b
  | some p => p.step b

def pieces (q : Option Pending) : List UInt8 → List Piece
  | [] => match q with
    | none => []
    | some p => [.short p.seen]
  | b :: bs =>
    let (ps, q) := step q b
    ps ++ pieces q bs

structure Fault where
  index : Nat
  length : Option Nat
  deriving DecidableEq, Inhabited

def Fault.message (f : Fault) : String :=
  match f.length with
  | some n => s!"invalid utf-8 sequence of {n} bytes from index {f.index}"
  | none => s!"incomplete utf-8 byte sequence from index {f.index}"

def characters (index : Nat) : List Piece → Except Fault (List Char)
  | [] => .ok []
  | .char c :: ps => (characters (index + c.utf8Size) ps).map (c :: ·)
  | .bad n :: _ => .error ⟨index, some n⟩
  | .short _ :: _ => .error ⟨index, none⟩

def decode (bytes : List UInt8) : Except Fault String :=
  (characters 0 (pieces none bytes)).map String.ofList

def Piece.lossy : Piece → Char
  | .char c => c
  | _ => '\ufffd'

/-- Reads octets as UTF-8 with U+FFFD for each ill-formed run. -/
def decodeLossy (bytes : List UInt8) : String :=
  String.ofList ((pieces none bytes).map Piece.lossy)

def encode (s : String) : List UInt8 := s.toUTF8.toList

end PluginHost.Text.Utf8
