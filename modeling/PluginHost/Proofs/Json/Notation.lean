import PluginHost.Json.Reader
/-!
JSON texts in all the ways in which they can be written. A tree keeps every blank, every escape and
the order of members; it is written in front of a rest. What is said by a tree, however it is
written, is what can be viewed in it.
-/
namespace PluginHost.Json

abbrev Blanks := { cs : List Char // ∀ c ∈ cs, c ∈ [' ', '\n', '\t', '\r'] }

/-! ### Strings -/

structure HexDigit where
  value : Fin 16
  upper : Bool
  deriving DecidableEq

def HexDigit.written (d : HexDigit) : Char :=
  if d.upper then (Nat.digitChar d.value).toUpper else Nat.digitChar d.value

structure CodeUnit where
  first : HexDigit
  second : HexDigit
  third : HexDigit
  fourth : HexDigit
  deriving DecidableEq

namespace CodeUnit

def value (u : CodeUnit) : Nat :=
  ((u.first.value * 16 + u.second.value) * 16 + u.third.value) * 16 + u.fourth.value

def written (u : CodeUnit) : List Char :=
  [u.first.written, u.second.written, u.third.written, u.fourth.written]

def IsHigh (u : CodeUnit) : Prop := 0xD800 ≤ u.value ∧ u.value ≤ 0xDBFF

def IsLow (u : CodeUnit) : Prop := 0xDC00 ≤ u.value ∧ u.value ≤ 0xDFFF

instance (u : CodeUnit) : Decidable u.IsHigh := inferInstanceAs (Decidable (_ ∧ _))

instance (u : CodeUnit) : Decidable u.IsLow := inferInstanceAs (Decidable (_ ∧ _))

def joined (high low : CodeUnit) : Char :=
  Char.ofNat (0x10000 + 0x400 * (high.value - 0xD800) + (low.value - 0xDC00))

end CodeUnit

inductive Letter where
  | quote
  | backslash
  | slash
  | backspace
  | formFeed
  | newline
  | carriageReturn
  | tab
  deriving DecidableEq

namespace Letter

def written : Letter → Char
  | quote => '"'
  | backslash => '\\'
  | slash => '/'
  | backspace => 'b'
  | formFeed => 'f'
  | newline => 'n'
  | carriageReturn => 'r'
  | tab => 't'

def meant : Letter → Char
  | quote => '"'
  | backslash => '\\'
  | slash => '/'
  | backspace => '\x08'
  | formFeed => '\x0c'
  | newline => '\n'
  | carriageReturn => '\r'
  | tab => '\t'

end Letter

inductive Piece where
  | plain (c : Char) (h : 0x20 ≤ c.toNat ∧ c ≠ '"' ∧ c ≠ '\\')
  | letter (l : Letter)
  | unit (u : CodeUnit)

def Piece.write : Piece → List Char → List Char
  | plain c _, rest => c :: rest
  | letter l, rest => '\\' :: l.written :: rest
  | unit u, rest => '\\' :: 'u' :: (u.written ++ rest)

def writeString (ps : List Piece) (rest : List Char) : List Char :=
  '"' :: ps.foldr Piece.write ('"' :: rest)

/-- The characters that a string stands for. The two halves of a character have to meet. -/
def meant : List Piece → Option (List Char)
  | [] => some []
  | .plain c _ :: ps => (meant ps).map (c :: ·)
  | .letter l :: ps => (meant ps).map (l.meant :: ·)
  | .unit u :: ps =>
    if u.IsHigh then
      match ps with
      | .unit v :: ps => if v.IsLow then (meant ps).map (u.joined v :: ·) else none
      | _ => none
    else if u.IsLow then none
    else (meant ps).map (Char.ofNat u.value :: ·)

/-! ### Numbers -/

abbrev Digits := { ds : List Char // ds ≠ [] ∧ ∀ c ∈ ds, c.isDigit = true }

structure Exponent where
  capital : Bool
  /-- Whether a sign is written, and whether it is a minus. -/
  sign : Option Bool
  digits : Digits

def Exponent.write (e : Exponent) (rest : List Char) : List Char :=
  (if e.capital then 'E' else 'e') ::
    match e.sign with
    | none => e.digits.1 ++ rest
    | some minus => (if minus then '-' else '+') :: (e.digits.1 ++ rest)

structure Numeral where
  minus : Bool
  /-- What stands before the decimal point; it has no leading zeros. -/
  whole : Nat
  fraction : Option Digits
  exponent : Option Exponent

namespace Numeral

def writeExponent (n : Numeral) (rest : List Char) : List Char :=
  match n.exponent with
  | none => rest
  | some e => e.write rest

def writeFraction (n : Numeral) (rest : List Char) : List Char :=
  match n.fraction with
  | none => n.writeExponent rest
  | some ds => '.' :: (ds.1 ++ n.writeExponent rest)

def writeUnsigned (n : Numeral) (rest : List Char) : List Char :=
  Nat.toDigits 10 n.whole ++ n.writeFraction rest

def write (n : Numeral) (rest : List Char) : List Char :=
  if n.minus then '-' :: n.writeUnsigned rest else n.writeUnsigned rest

def natural? (n : Numeral) : Option Nat :=
  if n.minus || n.fraction.isSome || n.exponent.isSome then none else some n.whole

end Numeral

/-! ### Values -/

mutual

inductive Tree where
  | null
  | flag (b : Bool)
  | number (n : Numeral)
  | text (ps : List Piece)
  | list (inner : Blanks) (items : Items)
  | object (inner : Blanks) (members : Members)

inductive Items where
  | nil
  | cons (before : Blanks) (value : Tree) (after : Blanks) (more : Items)

inductive Members where
  | nil
  | cons (before : Blanks) (key : List Piece) (gap lead : Blanks) (value : Tree) (after : Blanks)
    (more : Members)

end

def separated (first : Bool) (rest : List Char) : List Char := if first then rest else ',' :: rest

mutual

def Tree.write : Tree → List Char → List Char
  | .null, rest => 'n' :: 'u' :: 'l' :: 'l' :: rest
  | .flag true, rest => 't' :: 'r' :: 'u' :: 'e' :: rest
  | .flag false, rest => 'f' :: 'a' :: 'l' :: 's' :: 'e' :: rest
  | .number n, rest => n.write rest
  | .text ps, rest => writeString ps rest
  | .list inner items, rest => '[' :: (inner.1 ++ items.write true (']' :: rest))
  | .object inner members, rest => '{' :: (inner.1 ++ members.write true ('}' :: rest))

def Items.write : Items → Bool → List Char → List Char
  | .nil, _, rest => rest
  | .cons before value after more, first, rest =>
    separated first (before.1 ++ value.write (after.1 ++ more.write false rest))

def Members.write : Members → Bool → List Char → List Char
  | .nil, _, rest => rest
  | .cons before key gap lead value after more, first, rest =>
    separated first (before.1 ++ writeString key
      (gap.1 ++ ':' :: (lead.1 ++ value.write (after.1 ++ more.write false rest))))

end

def Tree.document (before : Blanks) (t : Tree) (after : Blanks) : String :=
  String.ofList (before.1 ++ t.write after.1)

/-! ### What is said -/

def Items.trees : Items → List Tree
  | .nil => []
  | .cons _ value _ more => value :: more.trees

def keyOf (key : List Piece) : Option String := (meant key).map String.ofList

def Members.entries : Members → List (Option String × Tree)
  | .nil => []
  | .cons _ key _ _ value _ more => (keyOf key, value) :: more.entries

namespace Tree
variable {α β : Type}

def flag? : Tree → Option Bool
  | flag b => some b
  | _ => none

def string? : Tree → Option String
  | text ps => keyOf ps
  | _ => none

def natural? : Tree → Option Nat
  | number n => n.natural?
  | _ => none

def below? (bound : Nat) (t : Tree) : Option Nat :=
  t.natural?.bind fun n => if n < bound then some n else none

def orNull? (view : Tree → Option α) : Tree → Option (Option α)
  | null => some none
  | t => (view t).map some

def choice? (known : List (String × α)) : Tree → Option α
  | text ps => (keyOf ps).bind fun name => known.lookup name
  | object _ members =>
    match members.entries with
    | [(some name, null)] => known.lookup name
    | _ => none
  | _ => none

def list? (view : Tree → Option α) : Tree → Option (List α)
  | list _ items => items.trees.mapM view
  | _ => none

def pair? (view : Tree → Option α) (view' : Tree → Option β) : Tree → Option (α × β)
  | list _ items =>
    match items.trees with
    | [t, u] => (view t).bind fun a => (view' u).map fun b => (a, b)
    | _ => none
  | _ => none

end Tree

def valuesAt (key : String) (entries : List (Option String × Tree)) : List Tree :=
  entries.filterMap fun e => if e.1 = some key then some e.2 else none

end PluginHost.Json
