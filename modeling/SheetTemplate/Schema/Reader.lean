import SheetTemplate.Json.Record
import SheetTemplate.Schema.Basic

/-!
# Reading packages

Packages as they are written in JSON. A table list may go by the name of tables or of resources, and a
reference by the name of a table or of a resource.
-/

namespace SheetTemplate

open Json

def FieldType.ofJson? : Reader FieldType := choice? (FieldType.all.map fun t => (t.name, t))

/-- A whole number of 63 bits and a sign is an integer, any other number a binary64. -/
def Value.ofJson? : Reader Value
  | .bool b => some (.boolean b)
  | .integer n => some (if n ≤ Int64.maxValue.toInt then .integer n else .number (.ofInt n))
  | .number x => some (.number x)
  | .string s => some (.string s)
  | _ => none

def Constraints.ofJson? (j : Json) : Option Constraints := do
  match ← fields? [["required"], ["unique"], ["minimum"], ["maximum"], ["minLength"], ["maxLength"], ["pattern"],
      ["enum"]] j with
  | [required, unique, minimum, maximum, minLength, maxLength, pattern, enum] => some {
      required := ← orElse false bool? required
      unique := ← orElse false bool? unique
      minimum := ← orElse none (nullable binary64?) minimum
      maximum := ← orElse none (nullable binary64?) maximum
      minLength := ← orElse none (nullable uint32?) minLength
      maxLength := ← orElse none (nullable uint32?) maxLength
      pattern := ← orElse none (nullable string?) pattern
      enum := ← orElse none (nullable (list? Value.ofJson?)) enum }
  | _ => none

def Field.ofJson? (j : Json) : Option Field := do
  match ← fields? [["name"], ["type"], ["description"], ["constraints"]] j with
  | [name, type, description, constraints] => some {
      name := ← required string? name
      type := ← required FieldType.ofJson? type
      description := ← orElse none (nullable string?) description
      constraints := ← orElse {} Constraints.ofJson? constraints }
  | _ => none

def Reference.ofJson? (j : Json) : Option Reference := do
  match ← fields? [["table", "resource"], ["fields"]] j with
  | [table, fields] => some {
      table := ← orElse none (nullable string?) table
      fields := ← required (list? string?) fields }
  | _ => none

def ForeignKey.ofJson? (j : Json) : Option ForeignKey := do
  match ← fields? [["fields"], ["reference"]] j with
  | [fields, reference] => some {
      fields := ← required (list? string?) fields
      reference := ← required Reference.ofJson? reference }
  | _ => none

def Table.ofJson? (j : Json) : Option Table := do
  match ← fields? [["name"], ["sheet"], ["fields"], ["foreignKeys"]] j with
  | [name, sheet, fields, foreignKeys] => some {
      name := ← required string? name
      sheet := ← orElse none (nullable string?) sheet
      fields := ← required (list? Field.ofJson?) fields
      foreignKeys := ← orElse [] (list? ForeignKey.ofJson?) foreignKeys }
  | _ => none

def Package.ofJson? (j : Json) : Option Package := do
  match ← fields? [["tables", "resources"]] j with
  | [tables] => some { tables := ← required (list? Table.ofJson?) tables }
  | _ => none

end SheetTemplate
