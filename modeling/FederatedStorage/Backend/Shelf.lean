import FederatedStorage.Backend.Loopback
import FederatedStorage.Backend.Remote

/-!
# The arrays at hand

All arrays that clients have been made for, each under a place that never changes. A client is a
handle on such a place. Loopback arrays of the built-in vendor are kept under their cluster's ID, so
that they outlive the cluster's registration, as a real array would.
-/

namespace FederatedStorage

open Json Text

/-- An array of either kind. -/
inductive Backend
  | loopback (array : Loopback)
  | remote (array : Remote)

/-- The vendor name of an array. -/
def Backend.vendor : Backend → String
  | .loopback _ => loopbackVendor
  | .remote _ => remoteVendor

/-- **A handle on an array.** -/
structure Client where
  place : Nat
deriving DecidableEq, Repr

/-- **The arrays at hand.** -/
structure Shelf where
  backends : List Backend
  /-- The clients of the loopback arrays that are kept, by cluster ID. -/
  kept : Keyed Client

namespace Shelf

/-- No array. -/
def empty : Shelf := ⟨[], .empty⟩

instance : Inhabited Shelf := ⟨empty⟩

/-- The array of a client. -/
def get? (s : Shelf) (c : Client) : Option Backend := s.backends[c.place]?

/-- Puts an array on the shelf. -/
def add (s : Shelf) (b : Backend) : Client × Shelf :=
  (⟨s.backends.length⟩, { s with backends := s.backends ++ [b] })

/-- Replaces the array of a client. -/
def set (s : Shelf) (c : Client) (b : Backend) : Shelf :=
  { s with backends := s.backends.set c.place b }

/-- The loopback array of a client. -/
def loopback? (s : Shelf) (c : Client) : Option Loopback :=
  match s.get? c with
  | some (.loopback a) => some a
  | _ => none

/-- The vendor name of a client. -/
def vendor (s : Shelf) (c : Client) : String := ((s.get? c).map Backend.vendor).getD ""

/-- A client, as it is shown. -/
def shownClient (s : Shelf) (c : Client) : String :=
  showRecord "VendorClient" [("vendor", quote (s.vendor c))]

end Shelf

end FederatedStorage
