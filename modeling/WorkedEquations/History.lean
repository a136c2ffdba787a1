/-
What has been solved lately: equations with their results, newest first, the
oldest dropped past a bound.
-/
import WorkedEquations.Text.BoxTable

namespace WorkedEquations

namespace History

/-- A solved equation and its answer. -/
structure Entry where
  equation : String
  result : String
deriving DecidableEq

end History

/-- A history, newest first. There is room for one entry at least, and never more entries than
room. -/
structure History where
  capacity : Nat
  entries : List History.Entry
  capacity_pos : 0 < capacity
  length_le : entries.length ≤ capacity
deriving DecidableEq

namespace History

/-- The history with nothing in it, where there is room for it; a capacity of zero counts as one. -/
def ofCapacity (capacity : Nat) : History :=
  ⟨max capacity 1, [], by omega, by simp⟩

/-- How many entries space is set aside for: a new one comes in before the oldest goes. -/
def reserve (capacity : Nat) : Nat := max capacity 1 + 1

/-- The history with nothing in it, if there is room for the entries that space is set aside for. -/
def ofCapacity? (room : Nat → Bool) (capacity : Nat) : Option History :=
  if room (reserve capacity) then some (ofCapacity capacity) else none

/-- The history with a new entry, the oldest left out if there is no room. -/
def record (h : History) (e : Entry) : History :=
  ⟨h.capacity, (e :: h.entries).take h.capacity, h.capacity_pos, by
    rw [List.length_take]; exact Nat.min_le_left _ _⟩

/-- The history with nothing in it and the same capacity. -/
def clear (h : History) : History := ⟨h.capacity, [], h.capacity_pos, Nat.zero_le _⟩

def size (h : History) : Nat := h.entries.length

/-- The newest entry. -/
def latest? (h : History) : Option Entry := h.entries.head?

/-- The history as a table with a heading. -/
def table (h : History) : String :=
  Text.BoxTable.render
    (["equation", "result"] :: h.entries.map fun e => [e.equation, e.result])

end History
end WorkedEquations
