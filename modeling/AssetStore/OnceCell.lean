import AssetStore.Prelude
/-!
# Cells built once

A cell holds a value that is built at most once, on first demand. It is unparsed until an
initialiser succeeds; while an initialiser runs, the cell reads as parsing; after a success it
is parsed and keeps its value for good, and later initialisers are never run. A failed
initialiser publishes nothing: its error is returned as it is and the cell is unparsed again,
so the next demand runs its own initialiser.

* `OnceCell.getOrTryInit` — the value, building it when the cell is not parsed.
* `OnceCell.state`, `OnceCell.get?` — what an observer sees.
-/

namespace AssetStore

/-- What an observer of a cell sees. -/
inductive CellState
  | unparsed
  | parsing
  | parsed
  deriving DecidableEq, Repr

namespace CellState

/-- The state in lower case, as reports write it. -/
def name : CellState → String
  | .unparsed => "unparsed"
  | .parsing => "parsing"
  | .parsed => "parsed"

/-- The state capitalised, as debugging forms write it. -/
def title : CellState → String
  | .unparsed => "Unparsed"
  | .parsing => "Parsing"
  | .parsed => "Parsed"

end CellState

/-- A value built at most once. -/
inductive OnceCell (α : Type)
  /-- Not built yet, or the last attempt failed. -/
  | unparsed
  /-- An initialiser is running. -/
  | parsing
  /-- Built and published. -/
  | parsed (value : α)
  deriving DecidableEq, Repr

namespace OnceCell

variable {α : Type}

/-- What an observer sees of the cell. -/
def state : OnceCell α → CellState
  | .unparsed => .unparsed
  | .parsing => .parsing
  | .parsed _ => .parsed

def get? : OnceCell α → Option α
  | .parsed v => some v
  | _ => none

/-- The debugging form of a cell: its state only. -/
def debugText (c : OnceCell α) : String :=
  s!"TableCell \x7b state: {c.state.title} \x7d"

/-- The published value, or the outcome of `init`, which sees the cell while it is parsing.
A success is published; a failure leaves the cell unparsed. -/
def getOrTryInit {m : Type → Type} [Monad m] {ε : Type} (c : OnceCell α)
    (init : OnceCell α → m (Except ε α)) : m (Except ε α × OnceCell α) :=
  match c with
  | .parsed v => pure (.ok v, c)
  | _ => do
    match ← init .parsing with
    | .ok v => pure (.ok v, .parsed v)
    | .error e => pure (.error e, .unparsed)

end OnceCell

end AssetStore
