import PluginHost.Proofs.Conversation
import PluginHost.Proofs.Moments
/-!
Host and guest agree on octets and on who owns which buffer. A call of an export that the kit makes
of a handler answers with what the handler computes, and what is live afterwards is what was live
before: the input's buffer, the answers of imported functions and the output are released once each,
under the length that they were allocated with.
-/
namespace PluginHost
open GuestKit

namespace Stage
variable {steps : Nat} {H : Type} {F : Fixed (Build.machine steps) H} {h : Heap}
  {own : List Stretch} {served all : List Served} {s s' s'' : Stage (Build.machine steps) H}
  {b : Bridge} {block : Block} {bytes : Bytes}

theorem Books.entering (hb : s.Books F h own served) (function : Nat) (args : List Value) :
    (s.entering function args).Books { F with phase := .invoking } h own served :=
  { hb with
    fixed := by
      rw [← hb.fixed]
      rfl
    served := (note_aside ((s.enterPhase .argsMarshaled).enterPhase .invoking) rfl).served.trans
      hb.served }

theorem Filled.proper_of_nonempty (hh : s.Filled block bytes) (he : block.isEmpty = false) :
    block.Proper := by
  refine hh.proper fun hn => ?_
  have hl : block.len = 0 := by
    apply UInt32.toNat_inj.mp
    rw [hh.length, hn]
    rfl
  simp [Block.isEmpty, hl] at he

theorem Books.taken (hb : s.Books F h (block.stretches ++ own) served) (hk : F.Kitted b)
    (hh : s.Filled block bytes) (ho : s.store.owns block = false) :
    (s.taken block.pack).Books { F with phase := .resultMarshaled } h own served := by
  have hadopt : adopt s.store block = s.store.track block := if_neg (by simp [ho])
  have htaken : s.taken block.pack =
      (s.updateStore fun t => t.track block).enterPhase .resultMarshaled := by
    unfold Stage.taken
    rw [Block.unpack_pack]
    exact congrArg (fun t => ({ s with store := t } : Stage (Build.machine steps) H).enterPhase
      .resultMarshaled) hadopt
  have hb' : (s.updateStore fun t => t.track block).Books F h own served := by
    cases he : block.isEmpty with
    | true =>
      have hs : (s.updateStore fun t => t.track block) = s := by
        simp [Store.track, he, updateStore]
      rw [Block.stretches, he] at hb
      rw [hs]
      exact hb
    | false =>
      have hp := hh.proper_of_nonempty he
      rw [hp.stretches_eq] at hb
      exact hb.track hp (hk.call_isSome hb.fixed)
  rw [htaken]
  exact { hb' with
    fixed := by
      rw [← hb'.fixed]
      rfl }

section Exporting
variable {name : String} {function : Nat} {input : Bytes} {f : Bytes → Handler 0}

end Exporting

end Stage

namespace Plugin
open Stage

end Plugin

namespace GuestKit

end GuestKit

namespace Plugin
open Stage

end Plugin

end PluginHost
