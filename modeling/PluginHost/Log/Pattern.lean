/-!
Which texts are patterns: groups and classes are closed, and what is repeated stands before the sign
of repetition. A brace would count repetitions and cannot be closed here.
-/
namespace PluginHost.Log.Pattern

/-- Where a reader of a pattern stands: the groups that are open, whether something to repeat stands
before, and the classes that are open; the last group or class may have just been opened. -/
structure State where
  groups : Nat
  repeatable : Bool
  classes : Nat
  opened : Bool
  escaped : Bool
  deriving DecidableEq, Inhabited

def State.next? (s : State) (c : Char) : Option State :=
  if s.escaped then some { s with escaped := false, repeatable := true, opened := false }
  else if c = '\\' then some { s with escaped := true }
  else if 0 < s.classes then
    match c with
    | '[' => some { s with classes := s.classes + 1, opened := true }
    | '^' => some s
    | ']' =>
      if s.opened then some { s with opened := false }
      else some { s with classes := s.classes - 1, repeatable := true }
    | _ => some { s with opened := false }
  else
    match c with
    | '[' => some { s with classes := 1, opened := true }
    | '(' => some { s with groups := s.groups + 1, repeatable := false, opened := true }
    | ')' =>
      if s.groups = 0 then none
      else some { s with groups := s.groups - 1, repeatable := true, opened := false }
    | '|' => some { s with repeatable := false, opened := false }
    | '*' => if s.repeatable then some s else none
    | '+' => if s.repeatable then some s else none
    | '?' => if s.repeatable || s.opened then some { s with opened := false } else none
    | '\x7b' => none
    | _ => some { s with repeatable := true, opened := false }

def State.isClosed (s : State) : Bool := s.groups = 0 && s.classes = 0 && !s.escaped

def isWellFormed (s : String) : Bool :=
  match s.toList.foldlM State.next? ⟨0, false, 0, false, false⟩ with
  | some state => state.isClosed
  | none => false

end PluginHost.Log.Pattern
