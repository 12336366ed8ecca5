import PluginHost.Log.Directive
/-!
Which events are logged. A filter is a list of directives; of those that apply to an event the most
particular one decides, and without one nothing passes.
-/
namespace PluginHost.Log

abbrev Filter := List Directive

namespace Filter

def atLeast (l : Level) : Filter := [.general (.from_ l)]

def ofText? (s : String) : Option Filter :=
  (((s.splitOn ",").filter fun part => part ≠ "").mapM Directive.ofText?).map fun ds =>
    ds.filter Directive.isForEvents

def for? (f : Filter) (e : Event) : Option Directive :=
  f.foldl (fun best d =>
    if !d.applies e then best
    else match best with
      | none => some d
      | some b => if d.supersedes b then some d else best) none

def passes (f : Filter) (e : Event) : Bool :=
  match f.for? e with
  | some d => d.threshold.passes e.level
  | none => false

end Filter

def Settings.filter (s : Settings) (environment : Option String) : Filter :=
  match s.level with
  | some l => Filter.atLeast l
  | none => (environment.bind Filter.ofText?).getD (Filter.atLeast .info)

end PluginHost.Log
