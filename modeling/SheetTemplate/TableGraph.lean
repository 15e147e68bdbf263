import SheetTemplate.Error

/-!
# References between tables

A directed graph with a node for every table and an edge from each table to the tables it refers to.
A table that refers to itself needs no order and has no edge to itself.

Tables are written in an order in which each comes after those it refers to; of the tables that could
come next, the one declared first does. There is such an order unless references run in a cycle, and
then a depth-first search finds one.
-/

namespace SheetTemplate

/-- The tables by index, and for each the tables it refers to and those that refer to it, in ascending order. -/
structure TableGraph where
  names : List String
  precedents : List (List Nat)
  dependents : List (List Nat)
  deriving DecidableEq, Repr

/-- Adds a number to an ascending list without repetition. -/
def insertAscending (n : Nat) : List Nat → List Nat
  | [] => [n]
  | m :: rest => if n < m then n :: m :: rest else if n = m then m :: rest else m :: insertAscending n rest

namespace TableGraph

def ofNames (names : List String) : TableGraph := ⟨names, names.map fun _ => [], names.map fun _ => []⟩

def size (g : TableGraph) : Nat := g.names.length

def add (g : TableGraph) (dependent precedent : Nat) : TableGraph :=
  if dependent = precedent then g
  else { g with
    precedents := g.precedents.modify dependent (insertAscending precedent)
    dependents := g.dependents.modify precedent (insertAscending dependent) }

def precedentsOf (g : TableGraph) (t : Nat) : List Nat := (g.precedents[t]?).getD []

def dependentsOf (g : TableGraph) (t : Nat) : List Nat := (g.dependents[t]?).getD []

/-! ### Cycles -/

/-- The part of a path, nearest table first, from a table on it, closed by that table. -/
def closeAt (t : Nat) (path : List Nat) : List Nat :=
  t :: (path.takeWhile (· ≠ t)).reverse ++ [t]

/-- Enters a table from the end of a path, which lists the nearest table first. The result is a cycle,
or the visited tables with those added that the search entered. A path has no repetition, so its
length is bounded by the number of tables. -/
def visit (g : TableGraph) : Nat → List Nat → List Nat → Nat → Except (List Nat) (List Nat)
  | 0, _, visited, _ => .ok visited
  | fuel + 1, path, visited, t =>
    if path.contains t then .error (closeAt t path)
    else if visited.contains t then .ok visited
    else (g.precedentsOf t).foldlM (visit g fuel (t :: path)) (t :: visited)

/-- A cycle as a path from a table back to it, if there is one. -/
def cycle? (g : TableGraph) : Option (List Nat) :=
  match (List.range g.size).foldlM (visit g (g.size + 1) []) [] with
  | .error cycle => some cycle
  | .ok _ => none

/-! ### Write order -/

/-- Where the ordering stands: how many precedents of each table are still to be written, and the
tables that wait for none, in ascending order. -/
structure Progress where
  pending : List Nat
  ready : List Nat

def start (g : TableGraph) : Progress :=
  let pending := g.precedents.map List.length
  ⟨pending, (List.range g.size).filter fun t => pending[t]? = some 0⟩

def Progress.release (s : Progress) (t : Nat) : Progress :=
  let left := (s.pending[t]?).getD 0 - 1
  ⟨s.pending.set t left, if left = 0 then insertAscending t s.ready else s.ready⟩

/-- Writes ready tables, the first declared first, until none is left. -/
def drain (g : TableGraph) : Nat → Progress → List Nat
  | 0, _ => []
  | fuel + 1, s =>
    match s.ready with
    | [] => []
    | t :: ready => t :: drain g fuel ((g.dependentsOf t).foldl Progress.release { s with ready })

def writeOrder (g : TableGraph) : Except Error (List Nat) :=
  match g.cycle? with
  | some cycle => .error (.cyclicReference (cycle.map fun t => (g.names[t]?).getD ""))
  | none => .ok (drain g g.size g.start)

end TableGraph

end SheetTemplate
