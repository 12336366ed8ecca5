import PluginHost.Counting
import PluginHost.Guest
/-!
The heap of a guest: its memory and the stretches of it that are allocated. Where a stretch goes is
up to an allocator, of which nothing is known but that it never gives an octet twice and stays
inside memory.
-/
namespace PluginHost.GuestKit

structure Stretch where
  address : Nat
  length : Nat
  deriving DecidableEq, Inhabited

namespace Stretch

def stop (t : Stretch) : Nat := t.address + t.length

def Apart (t u : Stretch) : Prop := t.stop ≤ u.address ∨ u.stop ≤ t.address

end Stretch

structure Heap where
  size : Nat
  octet : Nat → UInt8
  /-- What was allocated and not yet released, the latest first. -/
  live : List Stretch
  requests : Nat
  refusals : Nat
  /-- How often something was released that was not allocated, or not under that length. -/
  strays : Nat

namespace Heap

def ofSize (size : Nat) : Heap := ⟨size, fun _ => 0, [], 0, 0, 0⟩

def read (h : Heap) (address length : Nat) : Bytes :=
  (List.range length).map fun i => h.octet (address + i)

def write (h : Heap) (address : Nat) (bytes : Bytes) : Heap :=
  let octets := bytes.toArray
  { h with octet := fun i =>
      if address ≤ i then (octets[i - address]?).getD (h.octet i) else h.octet i }

def Free (h : Heap) (t : Stretch) : Prop :=
  0 < t.address ∧ t.stop ≤ h.size ∧ t.stop ≤ UInt32.size ∧ ∀ u ∈ h.live, t.Apart u

def allocated (h : Heap) (t : Stretch) : Heap :=
  { h with live := t :: h.live, requests := h.requests + 1 }

def refused (h : Heap) : Heap :=
  { h with requests := h.requests + 1, refusals := h.refusals + 1 }

def grown (h : Heap) (octets : Nat) : Heap := { h with size := h.size + octets }

def release (h : Heap) (t : Stretch) : Heap :=
  if t ∈ h.live then { h with live := h.live.erase t } else { h with strays := h.strays + 1 }

end Heap

/-- Decides where requests go. What it decides can depend on all that was asked before. -/
structure Allocator where
  place : Heap → Nat → Option Nat
  /-- Octets that memory should grow by for so many that have no place yet. -/
  growth : Heap → Nat → Option Nat
  place_free : ∀ h n p, place h n = some p → h.Free ⟨p, n⟩

namespace Allocator

def top (ts : List Stretch) : Nat := (ts.map Stretch.stop).foldr max 16

theorem top_pos (ts : List Stretch) : 0 < top ts := by
  induction ts with
  | nil => decide
  | cons t ts ih =>
    simp only [top, List.map_cons, List.foldr_cons] at ih ⊢
    omega

theorem stop_le_top {ts : List Stretch} {t : Stretch} (ht : t ∈ ts) : t.stop ≤ top ts := by
  induction ts with
  | nil => cases ht
  | cons u ts ih =>
    simp only [top, List.map_cons, List.foldr_cons] at ih ⊢
    cases ht with
    | head => omega
    | tail _ ht =>
      have hs := ih ht
      omega

def stacked : Allocator where
  place := fun h n =>
    let p := top h.live
    if p + n ≤ h.size ∧ p + n ≤ UInt32.size then some p else none
  growth := fun _ _ => none
  place_free := by
    intro h n p hp
    dsimp only at hp
    split at hp
    · rename_i fits
      cases hp
      exact ⟨top_pos h.live, fits.1, fits.2, fun u hu => .inr (stop_le_top hu)⟩
    · cases hp

end Allocator

end PluginHost.GuestKit
