/-!
Looking a code point up among sorted runs of code points.
-/
namespace PluginHost.Text

/-- Whether one of the runs from index `low` up to `low + count` holds the code point, found by
halving. -/
def inRuns (runs : Array (Nat × Nat)) (code : Nat) (low : Nat) (count : Nat) : Bool :=
  if count = 0 then false
  else
    let half := count / 2
    match runs[low + half]? with
    | none => false
    | some (first, last) =>
      if code < first then inRuns runs code low half
      else if last < code then inRuns runs code (low + half + 1) (count - half - 1)
      else true
termination_by count

end PluginHost.Text
