import SheetTemplate.Proofs.Compile.Composed
import SheetTemplate.Proofs.Emission.Lists
import SheetTemplate.Proofs.Formula.Quotations
import SheetTemplate.Proofs.Resolution.Faults

/-!
# The values that a list accepts

A list in a rule is the declared one. A list in cells is shared by all fields of one type whose lists have the same
formulas, and of those it is the first that was entered. Formulas tell texts and truth values apart, but not a whole
number from the same number with a fraction of zero, so a numeric field may get the values of another one.
-/

namespace SheetTemplate

/-! ### Values and their formulas -/

theorem quoted_inj {s t : String} (h : Text.quoted '"' s = Text.quoted '"' t) : s = t := by
  have hs := (Text.quotes_quoted s).literals?_eq
  rw [h, (Text.quotes_quoted t).literals?_eq] at hs
  exact (List.singleton_inj.1 (Option.some.inj hs)).symm

theorem Value.eq_of_formula {type : FieldType} (hplain : type.isNumeric = false) {v w : Value}
    (hv : v.hasType type = true) (hw : w.hasType type = true) (h : v.formula.render = w.formula.render) : v = w := by
  cases type with
  | integer | number => cases hplain
  | boolean =>
    cases v <;> cases hv
    cases w <;> cases hw
    rename_i a b
    cases a <;> cases b
    · rfl
    · exact absurd h (by decide +kernel)
    · exact absurd h (by decide +kernel)
    · rfl
  | string =>
    cases v <;> cases hv
    cases w <;> cases hw
    exact congrArg Value.string (quoted_inj h)

theorem eq_of_map_eq {α β : Type} {g : α → β} {xs ys : List α} (h : xs.map g = ys.map g)
    (hinj : ∀ x ∈ xs, ∀ y ∈ ys, g x = g y → x = y) : xs = ys := by
  induction xs generalizing ys with
  | nil => exact (List.map_eq_nil_iff.1 h.symm).symm
  | cons x xs ih =>
    cases ys with
    | nil => cases h
    | cons y ys =>
      obtain ⟨hhead, htail⟩ := List.cons.inj h
      rw [hinj x List.mem_cons_self y List.mem_cons_self hhead]
      exact congrArg (y :: ·) (ih htail fun a ha b hb => hinj a (List.mem_cons_of_mem x ha) b (List.mem_cons_of_mem y hb))

/-! ### Lists in cells -/

variable {p : Package} {o : Options}

/-- What is kept of the list of a field: the list itself where a rule holds it, or else the first list that was entered
for a field of the type with the same formulas. -/
structure Package.Keeps (p : Package) (o : Options) (f : Field) (values kept : List Value) : Prop where
  formulas_eq : kept.map (·.formula.render) = values.map (·.formula.render)
  inline : o.Inlines f.type values → kept = values
  first : ¬o.Inlines f.type values → (p.lists o).find? (·.key = listKey f.type values) = some (f.type, kept)
  plain : f.type.isNumeric = false → kept = values

theorem Package.keeps_of_entry [Libraries] (hp : p.WellFormed o) {table : Table} (htable : table ∈ p.tables) {f : Field}
    (hf : f ∈ table.fields) {values : List Value} (hvalues : f.constraints.enum = some values)
    (hinlines : ¬o.Inlines f.type values) {e : EnumPool.Entry} (he : e ∈ p.entries o) (hkey : e.key = listKey f.type values) :
    p.Keeps o f values e.2 := by
  have hfirst := Package.find?_lists he
  have htype : e.1 = f.type := congrArg Prod.fst hkey
  have hformulas := EnumPool.Entry.formulas_eq hkey
  refine ⟨hformulas, fun h => absurd h hinlines, fun _ => ?_, fun hplain => ?_⟩
  · rw [← hkey, hfirst, ← htype]
  · obtain ⟨t, ht, g, hg, hgtype, hgvalues, _⟩ := Package.exists_of_mem_entries he
    have hentered := (hp.fields_sound t ht g hg).enum_typed e.2 hgvalues
    have hdeclared := (hp.fields_sound table htable f hf).enum_typed values hvalues
    rw [hgtype, htype] at hentered
    exact eq_of_map_eq hformulas fun v hv w hw => Value.eq_of_formula hplain (hentered v hv) (hdeclared w hw)

/-- The values that the list of a field accepts are known. They have the formulas of the declared values, in order, and
they are the declared values where the list is in the rule, where it was entered first of all lists with its formulas,
or where the field is not numeric. -/
theorem permissible_of_compile [Libraries] {t : Template} (h : compile p o = .ok t) {table : Table} (htable : table ∈ p.tables)
    {f : Field} (hf : f ∈ table.fields) {values : List Value} (hvalues : f.constraints.enum = some values) :
    ∃ c source kept, t.column? table.name f.name = some c ∧ c.sources .enum = [source] ∧
      t.permissibleValues? source = some kept ∧ p.Keeps o f values kept := by
  obtain ⟨r, hresolve, htemplate⟩ := compiledFrom_of_compile h
  obtain ⟨_, _, c, _, source, hcolumn, hsources, ⟨hinlines, rfl⟩ | ⟨hinlines, i, e, hi, hkey, rfl⟩⟩ :=
    htemplate.exists_source htable hf hvalues
  · exact ⟨c, _, values, hcolumn, hsources, rfl, rfl, fun _ => rfl, fun h => absurd hinlines h, fun _ => rfl⟩
  · refine ⟨c, _, e.2, hcolumn, hsources, ?_, Package.keeps_of_entry (wellFormed_of_resolve hresolve) htable hf hvalues
      hinlines (List.mem_of_getElem? hi) hkey⟩
    have hstored := listSheet?_values? htemplate.resolved.lists_fit hi
    rw [listSheet?_eq_some hi, Option.bind_some] at hstored
    change (t.enumSheet.bind fun s => if o.enumSheet = s.name then s.values? (UInt16.ofNat i) else none) = some e.2
    rw [htemplate.enumSheet_eq hi, Option.bind_some, if_pos rfl, hstored]

/-! ### Parcels -/

/-- Pieces are counted in whole numbers, and weights are declared with a fraction of zero. -/
def parcels : Package where
  tables := [{
    name := "parcels"
    fields := [
      { name := "pieces", type := .integer, constraints := { enum := some [.integer 1] } },
      { name := "weight", type := .integer, constraints := { enum := some [.number (.ofNat 1)] } }] }]

theorem parcels_wellFormed [Libraries] : parcels.WellFormed online := by
  have hwhole : (Binary64.ofNat 1).isWhole = true := by decide +kernel
  refine Package.wellFormed_singleton (by decide) (by decide +kernel) (by decide +kernel) (by decide) (by decide) nofun
    (List.forall_mem_cons.2 ⟨?_, List.forall_mem_singleton.2 ?_⟩) (by decide)
  · constructor <;> simp [Value.hasType]
  · constructor <;> simp [Value.hasType, hwhole]

attribute [local instance] Libraries.plain in
/-- The weight gets the list of the pieces, although another one is declared for it. -/
theorem parcels_share_values : ∃ t c source kept, compile parcels online = .ok t ∧ t.column? "parcels" "weight" = some c ∧
    c.sources .enum = [source] ∧ t.permissibleValues? source = some kept ∧ kept = [.integer 1] ∧
    kept ≠ [.number (.ofNat 1)] := by
  obtain ⟨r, hr⟩ := exists_resolve_of_wellFormed parcels_wellFormed
  obtain ⟨t, ht⟩ := exists_compile_of_googleSheets hr rfl rfl
  obtain ⟨c, source, kept, hcolumn, hsources, hkept, hkeeps⟩ := permissible_of_compile ht List.mem_cons_self
    (List.mem_cons_of_mem _ List.mem_cons_self) rfl
  have hfirst := hkeeps.first fun hinlines => by cases hinlines.1
  have hpieces : (parcels.lists online).find? (·.key = listKey .integer [.number (.ofNat 1)]) =
      some (.integer, [.integer 1]) := by decide +kernel
  obtain rfl : [.integer 1] = kept := congrArg Prod.snd (Option.some.inj (hpieces.symm.trans hfirst))
  exact ⟨t, c, source, _, ht, hcolumn, hsources, hkept, rfl, nofun⟩

end SheetTemplate
