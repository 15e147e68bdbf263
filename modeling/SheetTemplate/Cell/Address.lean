/-!
# Cell addresses

An address counts rows and columns from zero. Its A1 text writes the column in letters, the row in
decimal from one, and a dollar sign before each coordinate that stays put when a formula is applied
down a range.
-/

namespace SheetTemplate

/-- A cell of a sheet and which of its coordinates are fixed. -/
structure Address where
  row : UInt32
  column : UInt16
  rowFixed : Bool := false
  columnFixed : Bool := false
  deriving DecidableEq, Repr

namespace Address

/-- The digit letters of `n` in bijective base 26, where A is one, in front of `tail`. -/
def lettersBefore (n : Nat) (tail : List Char) : List Char :=
  if n = 0 then tail
  else lettersBefore ((n - 1) / 26) (Char.ofNat ('A'.toNat + (n - 1) % 26) :: tail)
termination_by n

/-- What holds of the capital letters holds of the letters of a number. -/
theorem forall_mem_lettersBefore {P : Char → Prop} (hletter : ∀ m < 26, P (Char.ofNat ('A'.toNat + m))) (n : Nat)
    {tail : List Char} (htail : ∀ c ∈ tail, P c) : ∀ c ∈ lettersBefore n tail, P c := by
  induction n, tail using lettersBefore.induct with
  | case1 tail => simpa [lettersBefore] using htail
  | case2 n tail hn ih =>
    rw [lettersBefore, if_neg hn]
    exact ih (List.forall_mem_cons.2 ⟨hletter _ (Nat.mod_lt _ (by decide)), htail⟩)

/-- The letters of a column: A, Z, AA, XFD. -/
def letters (column : UInt16) : String :=
  String.ofList (lettersBefore (column.toNat + 1) [])

def mark (fixed : Bool) : String := if fixed then "$" else ""

def text (a : Address) : String :=
  mark a.columnFixed ++ letters a.column ++ mark a.rowFixed ++ (a.row + 1).toNat.repr

def fixed (a : Address) : Address := { a with rowFixed := true, columnFixed := true }

end Address

end SheetTemplate
