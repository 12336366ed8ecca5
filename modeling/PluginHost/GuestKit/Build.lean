import PluginHost.GuestKit.Heap
import PluginHost.GuestKit.Routine
/-!
Modules that are built with the kit: their functions are routines, which run on one memory. Memory
grows when the allocator finds no room, if the host lets it.
-/
namespace PluginHost.GuestKit

structure Build where
  imports : List Import
  exports : List Export
  /-- Octets that memory can have. -/
  maximum : Option Nat
  allocator : Allocator
  /-- Memory before the start computation. -/
  heap : Heap
  start : Routine (List Value)
  function : Nat → List Value → Routine (List Value)

namespace Build

inductive Code where
  | running (depth : Nat) (rest : Routine (List Value))
  | growing (depth octets length : Nat) (allowed : Bool) (next : Option Nat → Routine (List Value))
  | waiting (depth : Nat) (next : List Value → Routine (List Value))

def serve (b : Build) (h : Heap) (depth length : Nat)
    (next : Option Nat → Routine (List Value)) : Step Heap Code :=
  match b.allocator.place h length with
  | some p => .next 1 (.running depth (next (some p))) (h.allocated ⟨p, length⟩)
  | none => .next 1 (.running depth (next none)) h.refused

def step (b : Build) (code : Code) (h : Heap) : Step Heap Code :=
  match code with
  | .running depth rest =>
    match rest with
    | .done results => .finished results h
    | .abort => .trapped .unreachable h
    | .allocate length next =>
      match b.allocator.place h length, b.allocator.growth h length with
      | none, some octets =>
        .growMemory h.size (h.size + octets) b.maximum (.growing depth octets length false next) h
      | _, _ => b.serve h depth length next
    | .release address length next => .next 1 (.running depth next) (h.release ⟨address, length⟩)
    | .load address length next =>
      if address + length ≤ h.size then .next 1 (.running depth (next (h.read address length))) h
      else .trapped .memoryOutOfBounds h
    | .store address bytes next =>
      if address + bytes.length ≤ h.size then .next 1 (.running depth next) (h.write address bytes)
      else .trapped .memoryOutOfBounds h
    | .call index args next => .call index args .guest (depth + 1) (.waiting depth next) h
  | .growing depth octets length allowed next =>
    b.serve (if allowed then h.grown octets else h) depth length next
  | .waiting .. => .trapped .unreachable h

def resume (results : List Value) : Code → Code
  | .waiting depth next => .running depth (next results)
  | code => code

def answer (allowed : Bool) : Code → Code
  | .growing depth octets length _ next => .growing depth octets length allowed next
  | code => code

abbrev machine (stepLimit : Nat) : Guest where
  Module := Build
  State := Heap
  Code := Code
  load := fun _ => .error (.invalidBinary "no binary form")
  imports := Build.imports
  exports := Build.exports
  start := fun b => (b.heap, .running 0 b.start)
  enter := fun b depth function args => .running depth (b.function function args)
  step := step
  resume := resume
  answer := answer
  sizes := fun h => [h.size]
  read := fun h _ address length => h.read address length
  write := fun h _ address bytes => h.write address bytes
  stepLimit := stepLimit

end Build

end PluginHost.GuestKit
