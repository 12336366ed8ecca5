import PluginHost.Decimal.Shortest
/-!
How a floating-point number is written: the shortest digits, positional or with an exponent, always
with a mark of being no integer.
-/
namespace PluginHost.Decimal

structure Style where
  /-- Decimal exponents of the first digit that are written positionally. -/
  leastPositional : Int
  greatestPositional : Int

/-- Numbers are positional from `1e-5` up to below `1e16`; an exponent has a sign. -/
def style : Style := ⟨-5, 15⟩

def Style.write (st : Style) (d : Digits) : String :=
  let s := toString d.digits
  let lead : Int := d.exponent + (s.length : Int) - 1
  if st.leastPositional ≤ lead ∧ lead ≤ st.greatestPositional then
    if 0 ≤ d.exponent then s ++ String.ofList (List.replicate d.exponent.toNat '0') ++ ".0"
    else if 0 ≤ lead then
      String.ofList (s.toList.take (lead.toNat + 1)) ++ "." ++
        String.ofList (s.toList.drop (lead.toNat + 1))
    else "0." ++ String.ofList (List.replicate ((-lead).toNat - 1) '0') ++ s
  else
    let point := if s.length = 1 then s
      else String.ofList (s.toList.take 1) ++ "." ++ String.ofList (s.toList.drop 1)
    let sign := if lead < 0 then "-" else "+"
    point ++ "e" ++ sign ++ toString lead.natAbs

def textOfBits (bits : UInt64) : String :=
  let sign := if bits >>> 63 = 0 then "" else "-"
  match Binary.ofBits? bits with
  | none => sign ++ "0.0"
  | some b => sign ++ style.write b.shortest

end PluginHost.Decimal
