import PluginHost.Plugin
/-!
A handle lets many tasks share one plugin. Every request has a ticket and waits for a lock. A call
that got the lock runs to its end and keeps the lock until then, even if nobody waits for its answer
any more; a request given up before it got the lock is never run.
-/
namespace PluginHost

inductive Request where
  | call (name : String) (input : Bytes)
  | callValues (name : String) (args : List Value)
  | functionExists (name : String)
  | isClosed
  | close
  deriving DecidableEq, Inhabited

inductive Reply where
  | bytes (r : Except Failure Bytes)
  | values (r : Except Failure (List Value))
  | flag (b : Bool)
  | done

def Request.run {g : Guest} {H : Type} (r : Request) : PluginAction g H Reply := do
  match r with
  | .call name input => return .bytes (← Plugin.call name input)
  | .callValues name args => return .values (← Plugin.callValues name args)
  | .functionExists name => return .flag ((← get).1.functionExists name)
  | .isClosed => return .flag (← get).1.isClosed
  | .close =>
    Plugin.close
    return .done

structure Holder where
  ticket : Nat
  request : Request
  running : Bool
  /-- Somebody still waits for the answer. -/
  awaited : Bool
  deriving DecidableEq, Inhabited

structure Handle (g : Guest) (H : Type) where
  plugin : Plugin g H
  waiting : List (Nat × Request)
  holder : Option Holder

namespace Handle

variable {g : Guest} {H : Type}

def ofPlugin (p : Plugin g H) : Handle g H := ⟨p, [], none⟩

def ask (h : Handle g H) (ticket : Nat) (r : Request) : Handle g H :=
  { h with waiting := h.waiting ++ [(ticket, r)] }

/-- Nobody waits for the answer to a request any more. -/
def giveUp (h : Handle g H) (ticket : Nat) : Handle g H :=
  { h with
    waiting := h.waiting.filter fun w => w.1 ≠ ticket
    holder := h.holder.map fun o => if o.ticket = ticket then { o with awaited := false } else o }

/-- The lock goes to the request in a place of the queue, if it is free. -/
def grantAt (h : Handle g H) (place : Nat) : Handle g H :=
  match h.holder, h.waiting[place]? with
  | none, some (ticket, r) =>
    { h with waiting := h.waiting.eraseIdx place, holder := some ⟨ticket, r, false, true⟩ }
  | _, _ => h

def start (h : Handle g H) : Handle g H :=
  { h with holder := h.holder.map fun o => { o with running := true } }

/-- The request that runs comes to its end and lets the lock go; there is an answer to hand over
unless nobody waits for it. -/
def finish (h : Handle g H) (w : World H) : Option (Nat × Reply) × Handle g H × World H :=
  match h with
  | ⟨plugin, waiting, some ⟨ticket, request, true, awaited⟩⟩ =>
    let (reply, plugin, w) := request.run (plugin, w)
    (if awaited then some (ticket, reply) else none, ⟨plugin, waiting, none⟩, w)
  | h => (none, h, w)

def serve : (most : Nat) → Handle g H → World H → List (Nat × Reply) × Handle g H × World H
  | 0, h, w => ([], h, w)
  | n + 1, h, w =>
    let h := (h.grantAt 0).start
    if h.holder.isNone then ([], h, w)
    else
      let (answer, h, w) := h.finish w
      let (answers, h, w) := serve n h w
      (answer.toList ++ answers, h, w)

def serveAll (h : Handle g H) (rs : List Request) (w : World H) :
    List (Nat × Reply) × Handle g H × World H :=
  let h := rs.zipIdx.foldl (fun h (r, i) => h.ask i r) h
  serve rs.length h w

def debug : String := "PluginHandle \x7b .. \x7d"

end Handle

end PluginHost
