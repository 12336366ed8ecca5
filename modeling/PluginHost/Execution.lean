import PluginHost.ImportCall
/-!
Guest code runs until it returns, traps, or the host ends it. Every answer that guest code asks for
on the way comes from here: fuel and clock, growth, imported functions. An imported function may
run guest code again, with what is left of the steps.
-/
namespace PluginHost.Stage

variable {g : Guest} {H : Type}

def askMemory (s : Stage g H) (current desired : Nat) (maximum : Option Nat) :
    Bool × Stage g H :=
  let (allowed, limit) := s.store.limit.askMemory desired maximum
  let s := s.updateStore fun t => { t with limit }
  (allowed, if allowed then s else s.log (.growthRefused current desired limit.maxMemoryBytes))

def execute : (steps : Nat) → g.Code → Action g H Ending
  | 0, _, s => (.error .outOfFuel, s)
  | n + 1, code, ⟨⟨module, providers, guest, store⟩, world, deeds⟩ =>
    match g.step module code guest with
    | .next cost code guest =>
      execute n code ⟨⟨module, providers, guest, store.spend cost⟩, world, deeds⟩
    | .check elapsed code guest =>
      match store.stop? elapsed with
      | some h => (.error h, ⟨⟨module, providers, guest, store.advance elapsed⟩, world, deeds⟩)
      | none => execute n code ⟨⟨module, providers, guest, store.advance elapsed⟩, world, deeds⟩
    | .growMemory current desired maximum code guest =>
      let (allowed, s) :=
        askMemory ⟨⟨module, providers, guest, store⟩, world, deeds⟩ current desired maximum
      execute n (g.answer allowed code) s
    | .growTable desired maximum code guest =>
      execute n (g.answer (GrowthLimit.askTable desired maximum) code)
        ⟨⟨module, providers, guest, store⟩, world, deeds⟩
    | .call index args caller depth code guest =>
      match providers[index]? with
      | none =>
        (.error (.trapped (.engine "no such import")),
          ⟨⟨module, providers, guest, store⟩, world, deeds⟩)
      | some p =>
        let nested : Runner g H := fun function args s =>
          execute n (g.enter module depth function args) s
        match ImportCall.provider nested p caller args
            ⟨⟨module, providers, guest, store⟩, world, deeds⟩ with
        | (.ok results, s) => execute n (g.resume results code) s
        | (.error h, s) => (.error h, s)
    | .finished results guest => (.ok results, ⟨⟨module, providers, guest, store⟩, world, deeds⟩)
    | .trapped cause guest =>
      (.error (.trapped cause), ⟨⟨module, providers, guest, store⟩, world, deeds⟩)

def enter (function : Nat) (args : List Value) : Action g H Ending := fun s =>
  execute g.stepLimit (g.enter s.module 0 function args) s

end PluginHost.Stage
