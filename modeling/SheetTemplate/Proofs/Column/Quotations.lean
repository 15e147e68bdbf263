import Mathlib.Data.List.InsertIdx
import SheetTemplate.Proofs.Column.Agreement
import SheetTemplate.Proofs.Formula.Quotations

/-!
# What a column quotes

The formulas of a column quote regular expressions, the strings of a list and, where other sheets are reached through
their names only, references. What each check quotes is known from its directive, and joining checks adds nothing and
loses nothing, so the literals of a joint formula are those of its checks in their order.
-/

namespace SheetTemplate

/-! ### Lists with elements left out -/

theorem flatMap_filter_of_nil {α β : Type} {g : α → List β} {keep : α → Bool} {xs : List α}
    (h : ∀ x ∈ xs, keep x = false → g x = []) : (xs.filter keep).flatMap g = xs.flatMap g := by
  induction xs with
  | nil => rfl
  | cons x xs ih =>
    obtain ⟨hx, hxs⟩ := List.forall_mem_cons.1 h
    cases hkeep : keep x with
    | true => rw [List.filter_cons_of_pos hkeep, List.flatMap_cons, List.flatMap_cons, ih hxs]
    | false => rw [List.filter_cons_of_neg (by simp [hkeep]), List.flatMap_cons, hx hkeep, List.nil_append, ih hxs]

private theorem map_fst_filter_zipIdx {α : Type} (xs : List α) (i n : Nat) :
    ((xs.zipIdx n).filter fun x => some (n + i) ≠ some x.2).map Prod.fst = xs.eraseIdx i := by
  -- The numbers begin at `n`, which moves on with the list, while the index to leave out is counted from its head.
  induction xs generalizing i n with
  | nil => rfl
  | cons x xs ih =>
    rw [List.zipIdx_cons]
    cases i with
    | zero =>
      have hall : (xs.zipIdx (n + 1)).filter (fun x => some n ≠ some x.2) = xs.zipIdx (n + 1) := by
        refine List.filter_eq_self.2 fun y hy => ?_
        have hle := List.le_snd_of_mem_zipIdx hy
        simp only [ne_eq, Option.some.injEq, decide_not, Bool.not_eq_true', decide_eq_false_iff_not]
        omega
      rw [Nat.add_zero, List.filter_cons_of_neg (by simp), hall, List.zipIdx_map_fst, List.eraseIdx_cons_zero]
    | succ i =>
      have hnext : n + (i + 1) = n + 1 + i := by omega
      rw [List.filter_cons_of_pos (by simp), List.map_cons, hnext, ih, List.eraseIdx_cons_succ]

/-! ### Literals of formulas -/

namespace Formula

@[simp] theorem literals_literal (content : String) : (literal content).literals = [content] := by rw [literals]

@[simp] theorem literals_call (function : SheetFunction) (args : List Formula) :
    (call function args).literals = args.flatMap literals := by
  rw [literals, literalsAll_eq_flatMap]

@[simp] theorem literals_apply (function : SheetFunction) (f : Formula) : (apply function f).literals = f.literals := by
  rw [apply, literals_call, List.flatMap_singleton]

@[simp] theorem literals_compare (comparison : Comparison) (left right : Formula) :
    (compare comparison left right).literals = left.literals ++ right.literals := by rw [literals]

@[simp] theorem literals_asNumber (truth : Formula) : (asNumber truth).literals = truth.literals := by rw [literals]

theorem literals_atom {text : String} (h : Plain text) : (atom text).literals = [] := by
  rw [literals, (Text.Quotes.plain (List.all_eq_true.2 h)).literals?_eq, Option.getD_some]

@[simp] theorem literals_ofNat (n : Nat) : (ofNat n).literals = [] := literals_atom (plain_natRepr n)

@[simp] theorem literals_ofBool (b : Bool) : (ofBool b).literals = [] := by
  cases b <;> exact literals_atom (by decide)

@[simp] theorem literals_merge (function : SheetFunction) (fs : List Formula) :
    (merge function fs).literals = fs.flatMap literals := by
  match fs with
  | [] => exact literals_atom (by decide)
  | [f] => exact (List.flatMap_singleton ..).symm
  | _ :: _ :: _ => exact literals_call function _

end Formula

def Value.string? : Value → Option String
  | .string s => some s
  | _ => none

theorem Value.literals_formula (v : Value) : v.formula.literals = v.string?.toList := by
  cases v with
  | boolean b => cases b <;> exact Formula.literals_atom (by decide)
  | integer n => exact Formula.literals_atom (plain_intRepr n)
  | number x => exact Formula.literals_atom x.plain_text
  | string s => rfl

/-- The name of a sheet is quoted, but it is no literal. -/
theorem CellRange.literals_textOn (r : CellRange) (sheet : String) : (Formula.atom (r.textOn sheet)).literals = [] := by
  have hplain : ("!" ++ r.text).toList.all Scan.isPlain = true :=
    List.all_eq_true.2 (Plain.append (by decide) r.plain_text)
  have htext : (r.textOn sheet).toList = '\'' :: (Text.doubled '\'' sheet.toList ++ '\'' :: ("!" ++ r.text).toList) := by
    simp [textOn, Text.quoted]
  have hnext : ("!" ++ r.text).toList.head? ≠ some '\'' := by simp
  rw [Formula.literals, htext, Text.literals?_quote (.inr rfl) (Text.unquote?_doubled _ hnext),
    (Text.Quotes.plain hplain).literals?_eq]
  rfl

/-! ### Literals of checks -/

@[simp] theorem Check.literals_comparison (polarity : Polarity) (left right : Formula) (holds fails : Comparison)
    (message : String) :
    ((comparison left holds fails right message).form polarity).literals = left.literals ++ right.literals := by
  cases polarity <;> exact Formula.literals_compare ..

theorem Check.literals_conditions? {polarity : Polarity} {cell : String} (hcell : Plain cell) {checks : List Check}
    (hquiet : ∀ c ∈ checks, c.ignoresBlank = false → (c.form polarity).literals = []) {f : Formula}
    (hf : conditions? polarity cell checks = some f) : f.literals = checks.flatMap fun c => (c.form polarity).literals := by
  have hjoined : f.literals = (checks.filter (!·.ignoresBlank)).flatMap (fun c => (c.form polarity).literals) ++
      (checks.filter (·.ignoresBlank)).flatMap fun c => (c.form polarity).literals := by
    rw [conditions?_eq] at hf
    split at hf
    · cases hf
    cases hf
    rw [Formula.literals_merge, List.flatMap_append, List.flatMap_map]
    congr 1
    split
    · rename_i hempty
      rw [List.isEmpty_iff.1 hempty]
      rfl
    · simp [Formula.literals_atom hcell, List.flatMap_map]
  -- Checks that look at blank cells have come to stand first, but they quote nothing.
  have hlook : (checks.filter (!·.ignoresBlank)).flatMap (fun c => (c.form polarity).literals) = [] := by
    refine List.flatMap_eq_nil_iff.2 fun c hc => ?_
    obtain ⟨hc, hlooks⟩ := List.mem_filter.1 hc
    exact hquiet c hc (by simpa using hlooks)
  rw [hjoined, hlook, List.nil_append, flatMap_filter_of_nil hquiet]

theorem CellContext.PlainRefs.literals_inLiterals {ctx : CellContext} (hplain : ctx.PlainRefs) (polarity : Polarity) (values : List Value) :
    ((Check.inLiterals ctx values).form polarity).literals = values.filterMap Value.string? := by
  have hcompare : ∀ comparison, (values.map fun v => Formula.compare comparison ctx.value v.formula).flatMap
      Formula.literals = values.filterMap Value.string? := by
    intro comparison
    rw [List.flatMap_map, List.filterMap_eq_flatMap_toList]
    refine List.flatMap_congr fun v _ => ?_
    rw [Formula.literals, v.literals_formula, CellContext.value, Formula.literals_atom hplain.cell, List.nil_append]
  cases polarity with
  | valid => exact (Formula.literals_merge ..).trans (hcompare .equal)
  | invalid => exact (Formula.literals_merge ..).trans (hcompare .notEqual)

namespace Directive

def literals (p : Profile) (sheet : String) : Directive → List String
  | .pattern regex => ["^(?:" ++ regex ++ ")$"]
  | .list _ (.literal values) => values.filterMap Value.string?
  | .list _ (.range lookup) => if sheet ≠ lookup.sheet ∧ p.indirect = true then [lookup.qualified] else []
  | _ => []

variable {p : Profile} {sheet : String} {ctx : CellContext}

private theorem literals_referenceFrom (lookup : Lookup) (indirect : Bool) : (lookup.referenceFrom sheet indirect).literals =
    if sheet ≠ lookup.sheet ∧ indirect = true then [lookup.qualified] else [] := by
  unfold Lookup.referenceFrom
  by_cases hsheet : sheet = lookup.sheet
  · rw [if_pos hsheet, if_neg (fun h => h.1 hsheet)]
    exact Formula.literals_atom lookup.range.plain_text
  · cases indirect with
    | true => simp [hsheet, Formula.literals_apply, Formula.literals]
    | false =>
      rw [if_neg hsheet, if_neg Bool.false_ne_true, if_neg (fun h => Bool.false_ne_true h.2)]
      exact lookup.range.literals_textOn lookup.sheet

private theorem literals_bounds {α : Type} {low high : Option α} {atLeast atMost : α → Check} {polarity : Polarity}
    (hmin : ∀ x, ((atLeast x).form polarity).literals = []) (hmax : ∀ x, ((atMost x).form polarity).literals = []) :
    (((low.map atLeast).toList ++ (high.map atMost).toList).map (·.form polarity)).flatMap Formula.literals = [] := by
  rw [List.flatMap_map]
  exact List.flatMap_eq_nil_iff.2 fun _ => of_mem_bounds (P := fun c => (c.form polarity).literals = []) hmin hmax

/-- Both forms of a directive quote the same. References and numbers are plain, so only what may hold any character is
quoted. -/
theorem literals_forms (hplain : ctx.PlainRefs) (polarity : Polarity) (d : Directive) :
    (d.forms p sheet ctx polarity).flatMap Formula.literals = d.literals p sheet := by
  have hvalue : ctx.value.literals = [] := Formula.literals_atom hplain.cell
  have hcolumn : (Formula.atom ctx.column).literals = [] := Formula.literals_atom hplain.column
  have hrow : (Formula.atom ctx.row).literals = [] := Formula.literals_atom hplain.row
  cases d with
  | type ofField =>
    cases ofField <;> cases polarity <;> simp [forms, literals, Check.typeTest?, Check.form, hvalue]
  | required => cases polarity <;> simp [forms, literals, Check.required, Check.form, hvalue, hrow]
  | unique caseSensitive => cases caseSensitive <;> simp [forms, literals, Check.unique, hvalue, hcolumn]
  | range low high whole =>
    have hnumber : ∀ bound, (Check.number bound).literals = [] := fun bound => (Value.number bound).literals_formula
    refine literals_bounds (fun bound => ?_) (fun bound => ?_)
    · simp [Check.minimum, hvalue, hnumber]
    · simp [Check.maximum, hvalue, hnumber]
  | length low high =>
    refine literals_bounds (fun bound => ?_) (fun bound => ?_)
    · simp [Check.minLength, hvalue]
    · simp [Check.maxLength, hvalue]
  | pattern regex => cases polarity <;> simp [forms, literals, Check.pattern, Check.form, hvalue]
  | list origin source =>
    cases source with
    | literal values => rw [forms, List.flatMap_singleton, hplain.literals_inLiterals, literals]
    | range lookup =>
      cases polarity <;> simp [forms, literals, Check.inRange, Check.form, hvalue, literals_referenceFrom]

/-- What the formulas of checks quote together, for a column on a sheet: a check that is not enforced has no formula. -/
def quoted (o : Options) (sheet : String) (checks : List CompiledCheck) : List String :=
  ((checks.map (·.directive)).filter (·.isEnforced o)).flatMap (·.literals o.profile sheet)

end Directive

/-- The formulas of a column can be read, and quote what its checks are known to. -/
structure Column.Quotes (o : Options) (sheet : String) (c : Column) : Prop where
  custom (rule : Rule) (f : Formula) : c.rule = some rule → rule.kind = .custom f →
    Text.literals? 0 f.render.toList = some (Directive.quoted o sheet c.checks)
  highlight (f : Formula) : c.highlight = some f →
    Text.literals? 0 f.render.toList = some (Directive.quoted o sheet c.checks)
  companion (f : Formula) : c.companion = some f → ∃ i rule, c.rule = some rule ∧
    (∃ check, c.checks[i]? = some check ∧ rule.kind.States check.directive) ∧
    Text.literals? 0 f.render.toList = some (Directive.quoted o sheet (c.checks.eraseIdx i))

/-! ### Literals of parts -/

namespace Part

variable {o : Options} {sheet : String} {ctx : CellContext} {part : Part}

theorem Faithful.literals_checks (h : part.Faithful o sheet ctx) (hplain : ctx.PlainRefs) (polarity : Polarity) :
    part.checks.flatMap (fun c => (c.form polarity).literals) = part.directive.literals o.profile sheet := by
  rw [← Directive.literals_forms hplain polarity, ← h.forms_eq, List.flatMap_map]

theorem literals_of_isRequired (hrequired : part.isRequired = true) : part.directive.literals o.profile sheet = [] := by
  have hdirective : part.directive = .required := by simpa [Part.isRequired] using hrequired
  rw [hdirective]
  rfl

end Part

/-! ### Columns -/

namespace Composition

variable {o : Options} {sheet : String} {ctx : CellContext} {f : Field} {l : ColumnLayout} {parts : List Part}

private theorem rest_eq (primary : Option Nat) (parts : List Part) : rest primary parts =
    ((((parts.zipIdx.filter fun x => primary ≠ some x.2).map Prod.fst).filter (·.enforced)).filter
      (!·.isRequired)).flatMap (·.checks) := by
  rw [List.filter_filter, List.filter_map, List.flatMap_map, List.filter_filter, rest]
  congr 2
  funext x
  exact (Bool.and_comm ..).trans (Bool.and_assoc ..).symm

theorem rest_none (parts : List Part) :
    rest none parts = ((parts.filter (·.enforced)).filter (!·.isRequired)).flatMap (·.checks) := by
  have hall : (parts.zipIdx.filter fun x => none ≠ some x.2) = parts.zipIdx := List.filter_eq_self.2 fun _ _ => rfl
  rw [rest_eq, hall, List.zipIdx_map_fst]

theorem rest_some (i : Nat) (parts : List Part) : rest (some i) parts = rest none (parts.eraseIdx i) := by
  have herase := map_fst_filter_zipIdx parts i 0
  rw [Nat.zero_add] at herase
  rw [rest_eq, herase, rest_none]

variable (hparts : ∀ part ∈ parts, part.Faithful o sheet ctx)
include hparts

theorem literals?_of_conditions? (hplain : ctx.PlainRefs) {polarity : Polarity} {joint : Formula}
    (hjoint : Check.conditions? polarity ctx.cell (parts.flatMap (·.checks)) = some joint) :
    Text.literals? 0 joint.render.toList = some (parts.flatMap (·.directive.literals o.profile sheet)) := by
  have hlegible : ∀ c ∈ parts.flatMap (·.checks), (c.form polarity).Legible := by
    intro c hc
    obtain ⟨part, hpart, hc⟩ := List.mem_flatMap.1 hc
    exact (hparts part hpart).legible hplain hc polarity
  have hquiet : ∀ c ∈ parts.flatMap (·.checks), c.ignoresBlank = false → (c.form polarity).literals = [] := by
    intro c hc hlooks
    obtain ⟨part, hpart, hc⟩ := List.mem_flatMap.1 hc
    rw [(hparts part hpart).ignoresBlank_eq c hc, Bool.not_eq_false'] at hlooks
    have hnone := ((hparts part hpart).literals_checks hplain polarity).trans (Part.literals_of_isRequired hlooks)
    exact List.flatMap_eq_nil_iff.1 hnone c hc
  rw [(Check.legible_conditions? hplain.legible_value hlegible hjoint).literals?_eq,
    Check.literals_conditions? hplain.cell hquiet hjoint, List.flatMap_assoc,
    List.flatMap_congr fun part hpart => (hparts part hpart).literals_checks hplain polarity]

private theorem literals_enforced {checks : List CompiledCheck}
    (hsame : checks.map (·.directive) = parts.map (·.directive)) :
    (parts.filter (·.enforced)).flatMap (·.directive.literals o.profile sheet) = Directive.quoted o sheet checks := by
  have henforced : parts.filter (·.enforced) = parts.filter fun p => p.directive.isEnforced o :=
    List.filter_congr fun part hpart => (hparts part hpart).enforced_eq
  rw [Directive.quoted, hsame, List.filter_map, List.flatMap_map, henforced]
  rfl

/-- Requirements quote nothing, so it does not matter whether they are joined, and where. -/
private theorem literals_rest {required : List Part} (hrequired : ∀ part ∈ required, part.isRequired = true)
    {checks : List CompiledCheck} (hsame : checks.map (·.directive) = parts.map (·.directive)) :
    ((parts.filter (·.enforced)).filter (!·.isRequired) ++ required).flatMap (·.directive.literals o.profile sheet) =
      Directive.quoted o sheet checks := by
  have hnone : required.flatMap (·.directive.literals o.profile sheet) = [] :=
    List.flatMap_eq_nil_iff.2 fun part hpart => Part.literals_of_isRequired (hrequired part hpart)
  rw [List.flatMap_append, hnone, List.append_nil, ← literals_enforced hparts hsame]
  exact flatMap_filter_of_nil fun part _ hpart => Part.literals_of_isRequired ((Bool.not_eq_false' _).mp hpart)

private theorem literals?_highlight (hplain : ctx.PlainRefs) {g : Formula} (h : (column o ctx f l parts).highlight = some g) :
    Text.literals? 0 g.render.toList = some (Directive.quoted o sheet (column o ctx f l parts).checks) := by
  rw [← literals_enforced hparts directives_column]
  exact literals?_of_conditions? (fun part hpart => hparts part (List.mem_filter.1 hpart).1) hplain
    (conditions?_of_highlight h)

private theorem literals?_custom (hplain : ctx.PlainRefs) {rule : Rule} {g : Formula}
    (hrule : (column o ctx f l parts).rule = some rule) (hkind : rule.kind = .custom g) :
    Text.literals? 0 g.render.toList = some (Directive.quoted o sheet (column o ctx f l parts).checks) := by
  have hjoint := conditions?_of_custom hparts hrule hkind
  rw [rest_none, ← List.flatMap_append] at hjoint
  rw [← literals_rest hparts (fun part hpart => (List.mem_filter.1 hpart).2) directives_column]
  refine literals?_of_conditions? (fun part hpart => hparts part ?_) hplain hjoint
  rcases List.mem_append.1 hpart with hrest | hrequired
  · exact (List.mem_filter.1 (List.mem_filter.1 hrest).1).1
  · exact (List.mem_filter.1 hrequired).1

private theorem literals?_companion (hplain : ctx.PlainRefs) {g : Formula} (h : (column o ctx f l parts).companion = some g) :
    ∃ i rule, (column o ctx f l parts).rule = some rule ∧
      (∃ check, (column o ctx f l parts).checks[i]? = some check ∧ rule.kind.States check.directive) ∧
      Text.literals? 0 g.render.toList = some (Directive.quoted o sheet ((column o ctx f l parts).checks.eraseIdx i)) := by
  obtain ⟨hsome, hjoint⟩ := Option.ite_none_right_eq_some.1 h
  obtain ⟨i, hprimary⟩ := Option.isSome_iff_exists.1 hsome
  obtain ⟨part, hi, hnative, _⟩ := primary?_eq_some hprimary
  obtain ⟨native, hnative⟩ := Option.isSome_iff_exists.1 hnative
  obtain ⟨rule, hrule, hkind, _⟩ := rule?_of_some o ctx hi hnative
  have hstates := (hparts part (List.mem_of_getElem? hi)).states native hnative
  -- Checks stand in the order of their parts, so the rule states the check with the number of its part.
  have hget : ((column o ctx f l parts).checks.map (·.directive))[i]? = some part.directive := by
    rw [directives_column, List.getElem?_map, hi, Option.map_some]
  obtain ⟨check, hcheck, hdirective⟩ := Option.map_eq_some_iff.1 (List.getElem?_map .. ▸ hget)
  refine ⟨i, rule, by rw [column, hprimary, hrule], ⟨check, hcheck, ?_⟩, ?_⟩
  · rw [hdirective, hkind]
    exact hstates
  · have hothers : ∀ other ∈ parts.eraseIdx i, other.Faithful o sheet ctx := fun other hother =>
      hparts other (List.mem_of_mem_eraseIdx hother)
    have hsame : ((column o ctx f l parts).checks.eraseIdx i).map (·.directive) = (parts.eraseIdx i).map (·.directive) := by
      rw [← List.eraseIdx_map, directives_column, List.eraseIdx_map]
    rw [hprimary, rest_some, rest_none] at hjoint
    rw [← literals_rest hothers (fun _ hmem => absurd hmem List.not_mem_nil) hsame, List.append_nil]
    refine literals?_of_conditions? (fun other hother => hothers other ?_) hplain hjoint
    exact (List.mem_filter.1 (List.mem_filter.1 hother).1).1

theorem quotes_column (hplain : ctx.PlainRefs) : (column o ctx f l parts).Quotes o sheet where
  custom _ _ := literals?_custom hparts hplain
  highlight _ := literals?_highlight hparts hplain
  companion _ := literals?_companion hparts hplain

end Composition

end SheetTemplate
