/-!
Text on its way into a file through a buffer. Pieces are held back until one comes that does not
fit in behind them.
-/
namespace BoundaryRules

structure Buffer where
  /-- What the file holds. -/
  written : String := ""
  /-- What is held back. -/
  pending : String := ""
deriving DecidableEq, Repr

namespace Buffer

/-- How many bytes may be held back. -/
def capacity : Nat := 8192

/-- All text that came in. -/
def contents (buffer : Buffer) : String := buffer.written ++ buffer.pending

/-- Sends what is held back to the file. -/
def flush (buffer : Buffer) : Buffer := { written := buffer.contents }

/-- Makes room for a number of bytes. -/
def makeRoom (buffer : Buffer) (size : Nat) : Buffer :=
  if buffer.pending.utf8ByteSize + size ≤ capacity then buffer else buffer.flush

/-- Adds a piece. One as long as the buffer goes to the file at once. -/
def add (buffer : Buffer) (piece : String) : Buffer :=
  let roomy := buffer.makeRoom piece.utf8ByteSize
  if piece.utf8ByteSize < capacity then { roomy with pending := roomy.pending ++ piece }
  else { roomy with written := roomy.written ++ piece }

theorem contents_makeRoom (buffer : Buffer) (size : Nat) :
    (buffer.makeRoom size).contents = buffer.contents := by
  unfold makeRoom
  split <;> simp [contents, flush]

/-- A piece that goes past the buffer finds nothing held back. -/
theorem pending_makeRoom (buffer : Buffer) {size : Nat} (h : capacity ≤ size) :
    (buffer.makeRoom size).pending = "" := by
  unfold makeRoom
  split
  next fits => exact String.utf8ByteSize_eq_zero_iff.1 (by omega)
  next => rfl

/-- Pieces come in one after the other, however they are held back. -/
theorem contents_add (buffer : Buffer) (piece : String) :
    (buffer.add piece).contents = buffer.contents ++ piece := by
  rw [← contents_makeRoom buffer piece.utf8ByteSize]
  unfold add
  split
  next => simp [contents, String.append_assoc]
  next h => simp [contents, pending_makeRoom buffer (Nat.le_of_not_lt h)]

end Buffer
end BoundaryRules
