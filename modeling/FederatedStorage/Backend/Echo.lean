import FederatedStorage.Failure
import FederatedStorage.Text.Utf8

/-!
# Echo streams

The stream of a connection to nobody: what is written can be read back, in order. A stream that was
shut down takes nothing more, and gives back what it still holds.

## Main statement

* `Echo.read_write`: what was written into an empty stream is read back.
-/

namespace FederatedStorage

/-- A stream and the bytes it holds. -/
structure Echo where
  held : List UInt8
  shut : Bool
deriving DecidableEq, Repr

namespace Echo

/-- An open stream that holds nothing. -/
def empty : Echo := ⟨[], false⟩

/-- **Writes** a text, unless the stream is shut down. -/
def write (e : Echo) (text : String) : Except Failure Echo :=
  if e.shut then .error (.io "stream is shut down")
  else .ok { e with held := e.held ++ Text.Utf8.write text }

/-- **Reads** up to `n` bytes. -/
def read (e : Echo) (n : Nat) : List UInt8 × Echo :=
  (e.held.take n, { e with held := e.held.drop n })

/-- Shuts the stream down. -/
def shutdown (e : Echo) : Echo := { e with shut := true }

/-- **What was written is read back.** -/
theorem read_write {text : String} {e : Echo} (h : empty.write text = .ok e) :
    e.read e.held.length = (Text.Utf8.write text, empty) := by
  simp [write, empty] at h
  subst h
  simp [read, empty]

end Echo

end FederatedStorage
