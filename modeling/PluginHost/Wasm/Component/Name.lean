import PluginHost.Text.Blank
/-!
The names under which components take and give things. A name is a label of words in lower or upper
case, says which function of a resource something is, names an interface of a package with its
version, or says where to find what is asked for.
-/
namespace PluginHost.Wasm.Component

inductive Name where
  | label (text : String)
  | creation (resource : String)
  | method (resource function : String)
  | static (resource function : String)
  | interface (text : String)
  /-- Where to find what is asked for; nothing is given under such a name. -/
  | place (text : String)
  deriving DecidableEq, Inhabited

def sameLabel (a b : String) : Bool := a.toLower = b.toLower

def Name.clashes : Name → Name → Bool
  | .label a, .label b => sameLabel a b
  | .creation a, .creation b => sameLabel a b
  | .method r f, .method s g | .method r f, .static s g
  | .static r f, .method s g | .static r f, .static s g => r = s && f = g
  | .interface a, .interface b => a = b
  | .place a, .place b => a = b
  | _, _ => false

/-! ### Cutting texts -/

def cut (c : Char) (cs : List Char) : List Char × Option (List Char) :=
  match cs.span (· ≠ c) with
  | (front, []) => (front, none)
  | (front, _ :: rest) => (front, some rest)

def pieces (c : Char) : List Char → List (List Char)
  | [] => [[]]
  | d :: ds =>
    match pieces c ds with
    | p :: ps => if d = c then [] :: p :: ps else (d :: p) :: ps
    | [] => [[d]]

def after? (front : String) (cs : List Char) : Option (List Char) :=
  if front.toList.isPrefixOf cs then some (cs.drop front.length) else none

def before? (last : Char) (cs : List Char) : Option (List Char) :=
  if cs.getLast? = some last then some cs.dropLast else none

/-! ### Labels and versions -/

def isWord : List Char → Bool
  | [] => false
  | c :: cs =>
    (c.isLower && cs.all fun d => d.isLower || d.isDigit) ||
    (c.isUpper && cs.all fun d => d.isUpper || d.isDigit)

def isLabel (cs : List Char) : Bool := (pieces '-' cs).all isWord

def isLowerLabel (cs : List Char) : Bool := isLabel cs && cs.all fun c => ¬ c.isUpper

def isNumeral (cs : List Char) : Bool :=
  ¬ cs.isEmpty && cs.all Char.isDigit && (cs.length = 1 || cs.head? ≠ some '0')

def isNumber (cs : List Char) : Bool :=
  isNumeral cs && cs.foldl (fun n c => 10 * n + (c.toNat - '0'.toNat)) 0 < UInt64.size

def isTag (cs : List Char) : Bool := ¬ cs.isEmpty && cs.all fun c => c.isAlphanum || c = '-'

def isVersion (cs : List Char) : Bool :=
  let (front, build) := cut '+' cs
  let (core, before) := cut '-' front
  let numbers := pieces '.' core
  numbers.length = 3 && numbers.all isNumber &&
  before.all (fun b => (pieces '.' b).all fun t =>
    isTag t && (¬ t.all Char.isDigit || isNumeral t)) &&
  build.all fun b => (pieces '.' b).all isTag

def isVersionRange (cs : List Char) : Bool :=
  let below (cs : List Char) : Bool := (after? "<" cs).any isVersion
  cs = ['*'] ||
  match after? ">=" cs with
  | some rest =>
    let (low, high) := cut ' ' rest
    isVersion low && high.all below
  | none => below cs

/-! ### Packages -/

def isPath (thingNeeded : Bool) (cs : List Char) : Bool :=
  match pieces '/' cs with
  | owners :: things =>
    let owners := pieces ':' owners
    2 ≤ owners.length && owners.all isLowerLabel && things.all isLabel &&
    (¬ thingNeeded || ¬ things.isEmpty)
  | [] => false

def isPackage (thingNeeded : Bool) (cs : List Char) : Bool :=
  let (path, version) := cut '@' cs
  isPath thingNeeded path && version.all isVersion

def isQuery (cs : List Char) : Bool :=
  let (path, versions) := cut '@' cs
  isPath false path && versions.all fun v =>
    v = ['*'] || ((after? "\x7b" v).bind (before? '\x7d')).any fun range =>
      ¬ range.contains '\x7d' && isVersionRange range

/-! ### Checksums -/

def isBase64 (cs : List Char) : Bool :=
  let (digits, fill) := cs.span fun c => c.isAlphanum || c = '+' || c = '/'
  ¬ digits.isEmpty && fill.length ≤ 2 && fill.all (· = '=')

def isChecksum (cs : List Char) : Bool :=
  ["sha256-", "sha384-", "sha512-"].any fun kind =>
    (after? kind cs).any fun rest => isBase64 (cut '?' rest).1

def areChecksums (cs : List Char) : Bool :=
  let parts := (pieces ' ' (cs.map fun c => if Text.isBlank c then ' ' else c)).filter (¬ ·.isEmpty)
  ¬ parts.isEmpty && parts.all isChecksum

def isIntegrity (cs : List Char) : Bool :=
  ((after? "integrity=<" cs).bind (before? '>')).any fun sums =>
    ¬ sums.contains '>' && areChecksums sums

def bracketed (what : List Char → Bool) (cs : List Char) : Bool :=
  match (after? "<" cs).map (cut '>') with
  | some (inner, some rest) => what inner && (rest.isEmpty || (after? "," rest).any isIntegrity)
  | _ => false

/-! ### All names -/

def member? (make : String → String → Name) (cs : List Char) : Option Name :=
  match cut '.' cs with
  | (resource, some function) =>
    if isLabel resource && isLabel function then
      some (make (String.ofList resource) (String.ofList function))
    else none
  | _ => none

def Name.ofText? (text : String) : Option Name :=
  let cs := text.toList
  let place (holds : Bool) : Option Name := if holds then some (.place text) else none
  if let some rest := after? "[constructor]" cs then
    if isLabel rest then some (.creation (String.ofList rest)) else none
  else if let some rest := after? "[method]" cs then member? .method rest
  else if let some rest := after? "[static]" cs then member? .static rest
  else if let some rest := after? "unlocked-dep=" cs then
    place (((after? "<" rest).bind (before? '>')).any isQuery)
  else if let some rest := after? "locked-dep=" cs then place (bracketed (isPackage false) rest)
  else if let some rest := after? "url=" cs then
    place (bracketed (fun url => ¬ url.contains '<') rest)
  else if (after? "integrity=" cs).isSome then place (isIntegrity cs)
  else if cs.contains ':' then if isPackage true cs then some (.interface text) else none
  else if isLabel cs then some (.label text) else none

end PluginHost.Wasm.Component
