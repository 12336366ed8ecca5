import PluginHost.Json.Fault
import PluginHost.Json.Number
/-!
A reader of JSON texts that knows which value it wants and goes through the text once, so the first
problem in reading order is the one reported. A reader takes characters off the front of what is
left; loops over members and elements are bounded by the length of what is left, since each round
takes at least one character.
-/
namespace PluginHost.Json

abbrev Reader := StateT (List Char) (Except Fault)

namespace Reader

def failPeek (p : Problem) : Reader α := fun cs => .error ⟨p, cs.tail, true⟩

def failHere (p : Problem) : Reader α := fun cs => .error ⟨p, cs, true⟩

def failLater (p : Problem) : Reader α := fun cs => .error ⟨p, cs, false⟩

def place (f : Fault) : Fault := { f with placed := true }

def peek? : Reader (Option Char) := fun cs => .ok (cs.head?, cs)

def next? : Reader (Option Char) := fun cs => .ok (cs.head?, cs.tail)

def skip : Reader Unit := fun cs => .ok ((), cs.tail)

def isBlank (c : Char) : Bool := c = ' ' || c = '\n' || c = '\t' || c = '\r'

def afterBlanks? : Reader (Option Char) := fun cs =>
  let cs := cs.dropWhile isBlank
  .ok (cs.head?, cs)

def ident : List Char → Reader Unit
  | [] => pure ()
  | c :: cs => do
    match ← next? with
    | none => failHere .endInValue
    | some d => if d = c then ident cs else failHere .expectedIdent

/-! ### Strings -/

def hexDigit? (c : Char) : Option Nat :=
  if '0' ≤ c ∧ c ≤ '9' then some (c.toNat - '0'.toNat)
  else if 'a' ≤ c ∧ c ≤ 'f' then some (c.toNat - 'a'.toNat + 10)
  else if 'A' ≤ c ∧ c ≤ 'F' then some (c.toNat - 'A'.toNat + 10)
  else none

def hexEscape : Reader Nat := fun cs =>
  match cs with
  | a :: b :: c :: d :: rest =>
    match hexDigit? a, hexDigit? b, hexDigit? c, hexDigit? d with
    | some a, some b, some c, some d => .ok (((a * 16 + b) * 16 + c) * 16 + d, rest)
    | _, _, _, _ => .error ⟨.invalidEscape, rest, true⟩
  | _ =>
    if 4 ≤ octets cs then .error ⟨.invalidEscape, [], true⟩
    else .error ⟨.endInString, [], true⟩

def unicodeEscape : Reader Char := do
  let high ← hexEscape
  if 0xDC00 ≤ high ∧ high ≤ 0xDFFF then failHere .loneSurrogate
  else if high < 0xD800 ∨ 0xDBFF < high then pure (Char.ofNat high)
  else
    match ← peek? with
    | none => failHere .endInString
    | some c =>
      skip
      if c ≠ '\\' then failHere .endOfHexEscape
      else match ← peek? with
        | none => failHere .endInString
        | some c =>
          skip
          if c ≠ 'u' then failHere .endOfHexEscape
          else
            let low ← hexEscape
            if low < 0xDC00 ∨ 0xDFFF < low then failHere .loneSurrogate
            else pure (Char.ofNat ((high - 0xD800) * 0x400 + (low - 0xDC00) + 0x10000))

def letterEscape? : Char → Option Char
  | '"' => some '"'
  | '\\' => some '\\'
  | '/' => some '/'
  | 'b' => some '\x08'
  | 'f' => some '\x0c'
  | 'n' => some '\n'
  | 'r' => some '\r'
  | 't' => some '\t'
  | _ => none

def escape : Reader Char := do
  match ← next? with
  | none => failHere .endInString
  | some 'u' => unicodeEscape
  | some c =>
    match letterEscape? c with
    | some d => pure d
    | none => failHere .invalidEscape

def stringTail : Nat → List Char → Reader String
  | 0, _ => failHere .endInString
  | fuel + 1, done => do
    match ← next? with
    | none => failHere .endInString
    | some '"' => pure (String.ofList done.reverse)
    | some '\\' => do
      let c ← escape
      stringTail fuel (c :: done)
    | some c =>
      if c.toNat < 0x20 then failHere .controlCharacter else stringTail fuel (c :: done)

def stringBody : Reader String := fun cs => stringTail (cs.length + 1) [] cs

def skipStringTail : Nat → Reader Unit
  | 0 => failHere .endInString
  | fuel + 1 => do
    match ← next? with
    | none => failHere .endInString
    | some '"' => pure ()
    | some '\\' => do
      match ← next? with
      | none => failHere .endInString
      | some 'u' => do
        let _ ← hexEscape
        skipStringTail fuel
      | some c =>
        if (letterEscape? c).isSome then skipStringTail fuel else failHere .invalidEscape
    | some c => if c.toNat < 0x20 then failHere .controlCharacter else skipStringTail fuel

def skipString : Reader Unit := fun cs => skipStringTail (cs.length + 1) cs

/-! ### Numbers -/

def digits : Reader (List Char) := fun cs =>
  .ok (cs.takeWhile Char.isDigit, cs.dropWhile Char.isDigit)

/-- Appends digits to a number while it stays below `2 ^ 64`, and says how many were taken. -/
def gather (n : Nat) : List Char → Nat × Nat
  | [] => (n, 0)
  | c :: cs =>
    let m := n * 10 + (c.toNat - '0'.toNat)
    if m < UInt64.size then
      let (r, k) := gather m cs
      (r, k + 1)
    else (n, 0)

def valueOf (ds : List Char) : Nat := ds.foldl (fun n c => n * 10 + (c.toNat - '0'.toNat)) 0

def realOf (positive : Bool) (significand : Nat) (exponent : Int) : Reader Number :=
  match realOfParts? positive significand exponent with
  | some x => pure (.real x)
  | none => failHere .numberOutOfRange

def exponentPart (positive : Bool) (significand : Nat) (exponent : Int) : Reader Number := do
  skip
  let up ← do
    match ← peek? with
    | some '+' => do skip; pure true
    | some '-' => do skip; pure false
    | _ => pure true
  match ← next? with
  | none => failHere .endInValue
  | some c =>
    if c.isDigit then
      let ds ← digits
      let e : Int := valueOf (c :: ds)
      realOf positive significand (if up then exponent + e else exponent - e)
    else failHere .invalidNumber

def decimalPart (positive : Bool) (significand : Nat) (exponent : Int) : Reader Number := do
  skip
  let ds ← digits
  if ds.isEmpty then
    match ← peek? with
    | some _ => failPeek .invalidNumber
    | none => failPeek .endInValue
  else
    let (n, taken) := gather significand ds
    match ← peek? with
    | some 'e' | some 'E' => exponentPart positive n (exponent - taken)
    | _ => realOf positive n (exponent - taken)

def number (positive : Bool) : Reader Number := do
  match ← next? with
  | none => failHere .endInValue
  | some c =>
    if ¬ c.isDigit then failHere .invalidNumber
    else do
      let ds ← if c = '0' then do
          match ← peek? with
          | some d => if d.isDigit then failPeek .invalidNumber else pure []
          | none => pure []
        else digits
      let (n, taken) := gather 0 (c :: ds)
      let dropped : Int := ds.length + 1 - taken
      match ← peek? with
      | some '.' => decimalPart positive n dropped
      | some 'e' | some 'E' => exponentPart positive n dropped
      | _ =>
        if 0 < dropped then realOf positive n dropped
        else if positive then pure (.natural n)
        else if n = 0 ∨ twoTo 63 < n then pure (.real (-n.toUInt64.toFloat))
        else pure (.negative (-(n : Int)))

def foundNumber : Number → Found
  | .natural n => .integer n
  | .negative n => .integer n
  | .real x => .real x.toBits

def skipNumber : Reader Unit := do
  let exponent : Reader Unit := do
    skip
    match ← peek? with
    | some '+' | some '-' => skip
    | _ => pure ()
    match ← next? with
    | some c => if c.isDigit then do let _ ← digits else failHere .invalidNumber
    | none => failHere .invalidNumber
  match ← next? with
  | some c =>
    if ¬ c.isDigit then failHere .invalidNumber
    else if c = '0' then
      match ← peek? with
      | some d => if d.isDigit then failPeek .invalidNumber
      | none => pure ()
    else do let _ ← digits
  | none => failHere .invalidNumber
  match ← peek? with
  | some '.' => do
    skip
    let ds ← digits
    if ds.isEmpty then failPeek .invalidNumber
    match ← peek? with
    | some 'e' | some 'E' => exponent
    | _ => pure ()
  | some 'e' | some 'E' => exponent
  | _ => pure ()

/-! ### Values of no interest -/

inductive Bracket where
  | list
  | object
  deriving DecidableEq

/-- Reads over closing brackets and a comma, up to where the next value starts; none when the
outermost value has ended. `comma` says whether a comma may come first. -/
def skipClosing (fuel : Nat) (comma : Bool) (open_ : List Bracket) :
    Reader (Option (List Bracket)) :=
  match fuel with
  | 0 => failPeek .expectedValue
  | fuel + 1 =>
    match open_ with
    | [] => pure none
    | b :: bs => do
      match ← afterBlanks? with
      | none => failPeek (if b = .list then .endInList else .endInObject)
      | some c =>
        if c = ',' ∧ comma then do
          skip
          pure (some (b :: bs))
        else if (c = ']' ∧ b = .list) ∨ (c = '}' ∧ b = .object) then do
          skip
          skipClosing fuel true bs
        else if comma then
          failPeek (if b = .list then .expectedCommaOrBracket else .expectedCommaOrBrace)
        else pure (some (b :: bs))

def skipKey : Reader Unit := do
  match ← afterBlanks? with
  | some '"' => skip
  | some _ => failPeek .keyMustBeString
  | none => failPeek .endInObject
  skipString
  match ← afterBlanks? with
  | some ':' => skip
  | some _ => failPeek .expectedColon
  | none => failPeek .endInObject

def skipInside : Nat → List Bracket → Reader Unit
  | 0, _ => failPeek .expectedValue
  | fuel + 1, open_ => do
    let opened ← do
      match ← afterBlanks? with
      | none => failPeek .endInValue
      | some c =>
        if c = 'n' then do skip; ident ['u', 'l', 'l']; pure none
        else if c = 't' then do skip; ident ['r', 'u', 'e']; pure none
        else if c = 'f' then do skip; ident ['a', 'l', 's', 'e']; pure none
        else if c = '-' then do skip; skipNumber; pure none
        else if c.isDigit then do skipNumber; pure none
        else if c = '"' then do skip; skipString; pure none
        else if c = '[' then do skip; pure (some Bracket.list)
        else if c = '{' then do skip; pure (some Bracket.object)
        else failPeek .expectedValue
    let next ← match opened with
      | none => skipClosing fuel true open_
      | some b => skipClosing fuel false (b :: open_)
    match next with
    | none => pure ()
    | some open_ => do
      if open_.head? = some .object then skipKey
      skipInside fuel open_

def skipValue : Reader Unit := fun cs => skipInside (cs.length + 2) [] cs

/-! ### Values of the wrong type -/

def wrongType (expected : String) : Reader α := do
  match ← peek? with
  | some 'n' => do skip; ident ['u', 'l', 'l']; failHere (.wrongType .null expected)
  | some 't' => do skip; ident ['r', 'u', 'e']; failHere (.wrongType (.flag true) expected)
  | some 'f' => do skip; ident ['a', 'l', 's', 'e']; failHere (.wrongType (.flag false) expected)
  | some '-' => do
    skip
    let n ← number false
    failHere (.wrongType (foundNumber n) expected)
  | some '"' => do
    skip
    let s ← stringBody
    failHere (.wrongType (.text s) expected)
  | some '[' => failHere (.wrongType .sequence expected)
  | some '{' => failHere (.wrongType .map expected)
  | some c =>
    if c.isDigit then do
      let n ← number true
      failHere (.wrongType (foundNumber n) expected)
    else failPeek .expectedValue
  | none => failPeek .expectedValue

def valueStart : Reader Char := do
  match ← afterBlanks? with
  | some c => pure c
  | none => failPeek .endInValue

/-! ### Values of a type -/

def bool : Reader Bool := do
  match ← valueStart with
  | 't' => do skip; ident ['r', 'u', 'e']; pure true
  | 'f' => do skip; ident ['a', 'l', 's', 'e']; pure false
  | _ => wrongType "a boolean"

def text (expected : String) : Reader String := do
  match ← valueStart with
  | '"' => do skip; stringBody
  | _ => wrongType expected

def natural (bound : Nat) (expected : String) : Reader Nat := do
  let c ← valueStart
  let n ← if c = '-' then do skip; number false
    else if c.isDigit then number true
    else wrongType expected
  match n with
  | .natural n =>
    if n < bound then pure n else failHere (.wrongValue (.integer n) expected)
  | .negative n => failHere (.wrongValue (.integer n) expected)
  | .real x => failHere (.wrongType (.real x.toBits) expected)

def u32 : Reader Nat := natural UInt32.size "u32"

def u64 : Reader Nat := natural UInt64.size "u64"

def optional (r : Reader α) : Reader (Option α) := do
  match ← afterBlanks? with
  | some 'n' => do skip; ident ['u', 'l', 'l']; pure none
  | _ => some <$> r

def variant (known : List (String × α)) : Reader α := do
  let name ← text "variant identifier"
  match known.lookup name with
  | some a => pure a
  | none => failHere (.unknownVariant name (known.map Prod.fst))

def colon : Reader Unit := do
  match ← afterBlanks? with
  | some ':' => skip
  | some _ => failPeek .expectedColon
  | none => failPeek .endInObject

def choice (known : List (String × α)) : Reader α := do
  match ← afterBlanks? with
  | some '{' => do
    skip
    let a ← variant known
    colon
    match ← valueStart with
    | 'n' => do skip; ident ['u', 'l', 'l']
    | _ => wrongType "unit"
    match ← afterBlanks? with
    | some '}' => do skip; pure a
    | some _ => failHere .expectedValue
    | none => failHere .endInObject
  | some '"' => variant known
  | some _ => failPeek .expectedValue
  | none => failPeek .endInValue

/-! ### Lists and records -/

def moreElements (first : Bool) : Reader Bool := do
  match ← afterBlanks? with
  | none => failPeek .endInList
  | some ']' => pure false
  | some c =>
    if first then pure true
    else if c = ',' then do
      skip
      match ← afterBlanks? with
      | some ']' => failPeek .trailingComma
      | some _ => pure true
      | none => failPeek .endInValue
    else failPeek .expectedCommaOrBracket

def endList : Reader Unit := do
  match ← afterBlanks? with
  | some ']' => skip
  | some ',' => do
    skip
    match ← afterBlanks? with
    | some ']' => failPeek .trailingComma
    | _ => failPeek .trailingCharacters
  | some _ => failPeek .trailingCharacters
  | none => failPeek .endInList

def moreMembers (first : Bool) : Reader Bool := do
  match ← afterBlanks? with
  | none => failPeek .endInObject
  | some '}' => pure false
  | some c =>
    if first then if c = '"' then pure true else failPeek .keyMustBeString
    else if c = ',' then do
      skip
      match ← afterBlanks? with
      | some '"' => pure true
      | some '}' => failPeek .trailingComma
      | some _ => failPeek .keyMustBeString
      | none => failPeek .endInValue
    else failPeek .expectedCommaOrBrace

def endObject : Reader Unit := do
  match ← afterBlanks? with
  | some '}' => skip
  | some ',' => failPeek .trailingComma
  | some _ => failPeek .trailingCharacters
  | none => failPeek .endInObject

def leftAfter (r : Reader α) (cs : List Char) : List Char :=
  match r cs with
  | .ok (_, rest) => rest
  | .error f => f.rest

/-- Reads the inside of brackets and their end; a fault of the inside that has no place yet takes
the place after an attempt to read the end. -/
def closedBy (inside : Reader α) (close : Reader Unit) : Reader α := fun cs =>
  match inside cs with
  | .ok (a, rest) =>
    match close rest with
    | .ok (_, rest) => .ok (a, rest)
    | .error f => .error f
  | .error f =>
    if f.placed then .error f
    else .error { f with rest := leftAfter close f.rest, placed := true }

def elements (r : Reader α) : Nat → Bool → Reader (List α)
  | 0, _ => failPeek .endInList
  | fuel + 1, first => do
    if ← moreElements first then
      let a ← r
      let as ← elements r fuel false
      pure (a :: as)
    else pure []

def list (r : Reader α) : Reader (List α) := do
  match ← valueStart with
  | '[' => do
    skip
    closedBy (fun cs => elements r (cs.length + 1) true cs) endList
  | _ => wrongType "a sequence"

def pair (r : Reader α) (s : Reader β) : Reader (α × β) := do
  let expected := "a tuple of size 2"
  match ← valueStart with
  | '[' => do
    skip
    closedBy (do
      if ← moreElements true then
        let a ← r
        if ← moreElements false then
          let b ← s
          pure (a, b)
        else failLater (.wrongLength 1 expected)
      else failLater (.wrongLength 0 expected)) endList
  | _ => wrongType expected

structure Field (σ : Type) where
  key : String
  read : Reader (σ → σ)
  required : Bool

structure Record (σ : Type) where
  name : String
  fields : List (Field σ)
  /-- The record that fields not mentioned leave as it is. -/
  initial : σ

def Record.sized (r : Record σ) : String :=
  "struct " ++ r.name ++ " with " ++ toString r.fields.length ++ " element" ++
    (if r.fields.length = 1 then "" else "s")

def positional (r : Record σ) (index : Nat) (fields : List (Field σ)) (s : σ) : Reader σ :=
  match fields with
  | [] => pure s
  | f :: fs => do
    if ← moreElements (index = 0) then
      let change ← f.read
      positional r (index + 1) fs (change s)
    else
      match (f :: fs).findIdx? Field.required with
      | some i => failLater (.wrongLength (index + i) r.sized)
      | none => pure s

def members (r : Record σ) : Nat → Bool → List String → σ → Reader σ
  | 0, _, _, _ => failPeek .endInObject
  | fuel + 1, first, seen, s => do
    if ← moreMembers first then
      skip
      let key ← stringBody
      match r.fields.find? (·.key = key) with
      | some f =>
        if key ∈ seen then failLater (.duplicateField key)
        else do
          colon
          let change ← f.read
          members r fuel false (key :: seen) (change s)
      | none => do
        colon
        skipValue
        members r fuel false seen s
    else
      match r.fields.find? fun f => f.required && !(f.key ∈ seen) with
      | some f => failLater (.missingField f.key)
      | none => pure s

def record (r : Record σ) : Reader σ := do
  match ← valueStart with
  | '[' => do
    skip
    closedBy (positional r 0 r.fields r.initial) endList
  | '{' => do
    skip
    closedBy (fun cs => members r (cs.length + 1) true [] r.initial cs) endObject
  | _ => wrongType ("struct " ++ r.name)

def whole (r : Reader α) (s : String) : Except Fault α :=
  let body : Reader α := do
    let a ← r
    match ← afterBlanks? with
    | some _ => failPeek .trailingCharacters
    | none => pure a
  match body s.toList with
  | .ok (a, _) => .ok a
  | .error f => .error (place f)

end Reader

end PluginHost.Json
