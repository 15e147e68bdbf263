/-!
# Maps from names

A finite map listed in ascending order of names, so two maps with the same entries are equal.
-/

namespace SheetTemplate

/-- Names and their values in ascending order of names. -/
structure NameMap (α : Type) where
  entries : List (String × α)
  deriving DecidableEq, Repr

namespace NameMap

variable {α : Type}

def empty : NameMap α := ⟨[]⟩

def get? (m : NameMap α) (name : String) : Option α := m.entries.lookup name

def contains (m : NameMap α) (name : String) : Bool := (m.get? name).isSome

/-- Sets the value of a name among ordered entries. -/
def insertEntry (name : String) (value : α) : List (String × α) → List (String × α)
  | [] => [(name, value)]
  | (other, old) :: rest =>
    if name < other then (name, value) :: (other, old) :: rest
    else if name = other then (name, value) :: rest
    else (other, old) :: insertEntry name value rest

def insert (m : NameMap α) (name : String) (value : α) : NameMap α := ⟨insertEntry name value m.entries⟩

/-- Sets the values of names from left to right, so the last value of a name stays. -/
def ofList (entries : List (String × α)) : NameMap α :=
  entries.foldl (fun m entry => m.insert entry.1 entry.2) empty

end NameMap

end SheetTemplate
