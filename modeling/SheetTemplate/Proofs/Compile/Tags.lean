import SheetTemplate.Proofs.Column.Tags
import SheetTemplate.Proofs.Compile.Agreement
import SheetTemplate.Proofs.Compile.Decision
import SheetTemplate.Proofs.Emission.Extent

/-!
# The tags of a template

Tables and the sheet of lists have different names, so no reference is taken for a list that is declared. Of all tags in a
template those are wrong that call a reference a formula while references are not validated, and no others.
-/

namespace SheetTemplate

variable {p : Package} {o : Options} {r : Resolution} {t : Template} {table : Table} {f : Field} {place : ColumnLayout}
  {res : FieldResolution} {c : Column}

theorem Package.Composes.apart [Libraries] (h : resolve p o = .ok r) (hcompile : compile p o = .ok t)
    (hc : p.Composes o r table f place res c) : ∀ check ∈ c.checks, check.directive.Apart o.enumSheet := by
  intro check hcheck
  have hresolved := resolved_of_resolve h
  have hcalls := hc.callsFor check hcheck
  generalize check.directive = d at hcalls
  cases hcalls with
  | enum hvalues hsource =>
    cases hplace : res.place? r.enumSheet with
    | none =>
      rw [hsource, hplace]
      exact trivial
    | some l =>
      obtain ⟨_, _, _, rfl⟩ := (hc.places.resolution_for hresolved).of_place? hresolved hplace
      rw [hsource, hplace]
      exact rfl
  | reference hlink hl =>
    obtain ⟨other, hother, hsheet⟩ := exists_table_of_get? h hcompile hl
    exact fun heq => hresolved.sheetName_ne hother (hsheet.symm.trans heq)
  | _ => trivial

/-- Of the checks of a column one is tagged as the rule at most, and the tags are right but for those of references which
are called a formula though they are not validated. -/
theorem tags_of_compile [Libraries] (h : compile p o = .ok t) {s : Sheet} (hs : s ∈ t.sheets) {c : Column}
    (hc : c ∈ s.columns) : (∀ check ∈ c.checks, c.Tells o s.layout.sheet (s.contextOf c) check ↔
      (check.realization.isFormula = true → check.directive.isEnforced o = true)) ∧
    ∀ (i j : Nat) (a b : CompiledCheck), c.checks[i]? = some a → c.checks[j]? = some b →
      a.realization.isValueRule = true → b.realization.isValueRule = true → i = j := by
  obtain ⟨r, hresolve⟩ := exists_resolve_of_compile h
  obtain ⟨table, f, place, res, _, hlayout, hcomposes⟩ := exists_composes hresolve h hs hc
  have hapart := hcomposes.apart hresolve h
  have hown : (o.home table).sheet ≠ o.enumSheet :=
    (resolved_of_resolve hresolve).sheetName_ne (hcomposes.places.mem hresolve).1
  have hcontext : s.contextOf c = (o.home table).contextOf place := by
    rw [Sheet.contextOf, hlayout, hcomposes.column_eq]
    rfl
  rw [hcontext, hlayout]
  rw [hcomposes.column_eq, composedColumn_eq] at hapart ⊢
  refine ⟨fun check hcheck => ?_, fun i j a b hi hj ha hb => ?_⟩
  · exact Composition.tells_column faithful_composedParts exact_composedParts
      ((Composition.forall_check_iff fun d => d.Apart o.enumSheet).1 hapart) hown hcheck
  · have hfirst := Composition.primary?_of_isValueRule exact_composedParts hi ha
    have hsecond := Composition.primary?_of_isValueRule exact_composedParts hj hb
    exact Option.some.inj (hfirst.symm.trans hsecond)

/-! ### A parent that is not checked -/

/-- References are neither offered nor validated. -/
def unvalidated : Options where
  dropdowns := false
  validateForeignKeys := false

private theorem resolve_unvalidated [Libraries] : resolve partsList unvalidated = resolve partsList unoffered := by
  rw [resolve, resolve]
  rfl

attribute [local instance] Libraries.plain in
/-- The check of a parent is called a formula, and no formula says that a parent is a part. -/
theorem parent_mistagged : ∃ t s c check, compile partsList unvalidated = .ok t ∧ s ∈ t.sheets ∧ c ∈ s.columns ∧
    check ∈ c.checks ∧ check.realization = .formula .membership ∧
    ¬c.Tells unvalidated s.layout.sheet (s.contextOf c) check := by
  have hsecond : ((compile partsList unvalidated).toOption.bind fun t => t.sheets[0]?.bind fun s =>
      s.columns[1]?.map fun c => decide (⟨.list (.foreignKey ⟨"parts", "id"⟩) (.range ⟨"parts", 0, ⟨1, 1000⟩⟩),
        .formula .membership⟩ ∈ c.checks)) = some true := by
    rw [compile, resolve_unvalidated, resolve_unoffered]
    decide +kernel
  obtain ⟨t, s, c, ht, hs, hc, hcheck⟩ := exists_column_of_decide hsecond
  refine ⟨t, s, c, _, ht, hs, hc, hcheck, rfl, fun htells => ?_⟩
  have henforced := ((tags_of_compile ht hs hc).1 _ hcheck).1 htells rfl
  cases henforced

end SheetTemplate
