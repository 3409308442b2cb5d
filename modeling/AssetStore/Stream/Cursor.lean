import AssetStore.Stream.Basic
/-!
# Flat cursors

A cursor is a byte string with a read position. Reading takes the bytes at the position, as
many as are asked for and remain, and moves past them; the position never passes the end.
-/

namespace AssetStore

/-- A byte string read from a position. -/
structure Cursor where
  data : List UInt8
  pos : Nat
  deriving DecidableEq, Repr

namespace Cursor

def ofBytes (data : List UInt8) : Cursor := ⟨data, 0⟩

def rest (c : Cursor) : List UInt8 := c.data.drop c.pos

/-- Reads up to `n` bytes from the position. -/
def read (c : Cursor) (n : Nat) : List UInt8 × Cursor :=
  let got := c.rest.take n
  (got, { c with pos := c.pos + got.length })

instance : ByteStream Cursor where
  position c := c.pos
  length c := c.data.length
  read := read
  moveTo c p := { c with pos := p }

end Cursor

end AssetStore
