import Readiness.Event
import Readiness.Text.Search

/-!
# LogSink — where tunnels write their lines

* `Lines` are the lines kept in memory, in the order in which they were written;
* `SinkBoard` holds several memory sinks; clones of a sink share its lines;
* `tracedLine` is the event that a line becomes when it goes to the event log.
-/

namespace Readiness

abbrev Lines := List String

namespace Lines

def write (lines : Lines) (line : String) : Lines := lines ++ [line]

def contains (lines : Lines) (needle : String) : Bool := lines.any (Text.occursIn needle)

end Lines

/-- Memory sinks: a handle leads to the buffer that it shares with its clones. -/
structure SinkBoard where
  -- The buffer of each handle.
  handles : List Nat
  buffers : List Lines
deriving Repr, Inhabited

namespace SinkBoard

def single : SinkBoard := ⟨[0], [[]]⟩

/-- The buffer of a handle; a handle beyond the last one is the last one. -/
def bufferOf (board : SinkBoard) (handle : Nat) : Nat :=
  board.handles.getD (min handle (board.handles.length - 1)) 0

def lines (board : SinkBoard) (handle : Nat) : Lines := board.buffers.getD (board.bufferOf handle) []

def write (board : SinkBoard) (handle : Nat) (line : String) : SinkBoard :=
  { board with buffers := board.buffers.modify (board.bufferOf handle) (·.write line) }

/-- Adds a handle to the same buffer. -/
def clone (board : SinkBoard) (handle : Nat) : SinkBoard :=
  { board with handles := board.handles ++ [board.bufferOf handle] }

/-- Adds a handle to a buffer of its own. -/
def add (board : SinkBoard) : SinkBoard :=
  ⟨board.handles ++ [board.buffers.length], board.buffers ++ [[]]⟩

end SinkBoard

def tracedLine (label line : String) : Event :=
  ⟨.info, .logSink, line, [("tunnel", .text label)]⟩

end Readiness
