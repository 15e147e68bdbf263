import Mathlib.Data.List.Duplicate
import SheetTemplate.Proofs.Resolution.WellFormed

/-!
# Faults of packages

Where resolution fails, its error names a place of the package and says what is wrong there. A fault is an error
together with the reason that it is right, one constructor for each kind of check, with the texts that the error
carries. No well-formed package has a fault, so a package resolves unless there is one.
-/

namespace SheetTemplate

/-- An error that is true of a package. -/
inductive Package.Fault [Libraries] (p : Package) (o : Options) : Error → Prop
  | rows (h : o.profile.maxRows.toNat < o.startRow.toNat + 1 + (max o.dataRows 1).toNat) :
    Fault p o (.tooManyRows (o.startRow.toNat + 1 + (max o.dataRows 1).toNat) o.profile.maxRows o.platform)
  | sheetName {name reason : String} (hname : name ∈ p.sheetNames o) (h : o.profile.refuseSheetName? name = some reason) :
    Fault p o (.invalidSheetName name reason)
  | tableName {name : String} (h : List.Duplicate name (p.tables.map (·.name))) : Fault p o (.duplicateTable name)
  | sheet {name : String} (hname : name ∈ p.sheetNames o)
    (h : List.Duplicate (Text.lowercase name) ((p.sheetNames o).map Text.lowercase)) : Fault p o (.duplicateSheetName name)
  | width {t : Table} (ht : t ∈ p.tables)
    (h : o.profile.maxColumns < o.startColumn.toUInt32 + UInt32.ofNat t.fields.length) :
    Fault p o (.tooManyColumns t.name (o.startColumn.toUInt32 + UInt32.ofNat t.fields.length) o.profile.maxColumns)
  | fieldName {t : Table} {name : String} (ht : t ∈ p.tables) (h : List.Duplicate name (t.fields.map (·.name))) :
    Fault p o (.duplicateField t.name name)
  | keyLengths {t : Table} {k : ForeignKey} (ht : t ∈ p.tables) (hk : k ∈ t.foreignKeys)
    (h : k.fields = [] ∨ k.fields.length ≠ k.reference.fields.length) :
    Fault p o (.invalidConstraint t.name (", ".intercalate k.fields) .foreignKey
      (k.fields.length.repr ++ " local fields but " ++ k.reference.fields.length.repr ++ " referenced fields"))
  | target {t : Table} {k : ForeignKey} (ht : t ∈ p.tables) (hk : k ∈ t.foreignKeys)
    (h : p.table? (k.reference.tableOr t.name) = none) :
    Fault p o (.unknownReference t.name ("table '" ++ k.reference.tableOr t.name ++ "'"))
  | localField {t : Table} {k : ForeignKey} {pair : String × String} (ht : t ∈ p.tables) (hk : k ∈ t.foreignKeys)
    (hpair : pair ∈ k.pairs) (h : t.field? pair.1 = none) :
    Fault p o (.unknownReference t.name ("field '" ++ pair.1 ++ "'"))
  | referencedField {t target : Table} {k : ForeignKey} {pair : String × String} (ht : t ∈ p.tables)
    (hk : k ∈ t.foreignKeys) (hpair : pair ∈ k.pairs) (htarget : p.table? (k.reference.tableOr t.name) = some target)
    (h : target.field? pair.2 = none) :
    Fault p o (.unknownReference t.name ("field '" ++ k.reference.tableOr t.name ++ "." ++ pair.2 ++ "'"))
  | fieldType {t target : Table} {k : ForeignKey} {pair : String × String} {f g : Field} (ht : t ∈ p.tables)
    (hk : k ∈ t.foreignKeys) (hpair : pair ∈ k.pairs) (htarget : p.table? (k.reference.tableOr t.name) = some target)
    (hf : t.field? pair.1 = some f) (hg : target.field? pair.2 = some g) (h : f.type ≠ g.type) :
    Fault p o (.typeMismatch t.name f.name f.type target.name g.name g.type)
  | minimum {t : Table} {f : Field} {low : Binary64} (ht : t ∈ p.tables) (hf : f ∈ t.fields)
    (hlow : f.constraints.minimum = some low) (h : low.isFinite = false) :
    Fault p o (.invalidConstraint t.name f.name .minimum (low.text ++ " is not a finite number"))
  | maximum {t : Table} {f : Field} {high : Binary64} (ht : t ∈ p.tables) (hf : f ∈ t.fields)
    (hhigh : f.constraints.maximum = some high) (h : high.isFinite = false) :
    Fault p o (.invalidConstraint t.name f.name .maximum (high.text ++ " is not a finite number"))
  | bounds {t : Table} {f : Field} {low high : Binary64} (ht : t ∈ p.tables) (hf : f ∈ t.fields)
    (hlow : f.constraints.minimum = some low) (hhigh : f.constraints.maximum = some high) (h : high.less low = true) :
    Fault p o (.conflictingConstraint t.name f.name
      ("minimum " ++ low.text ++ " is greater than maximum " ++ high.text))
  | lengths {t : Table} {f : Field} {low high : UInt32} (ht : t ∈ p.tables) (hf : f ∈ t.fields)
    (hlow : f.constraints.minLength = some low) (hhigh : f.constraints.maxLength = some high) (h : high < low) :
    Fault p o (.conflictingConstraint t.name f.name
      ("minLength " ++ low.toNat.repr ++ " is greater than maxLength " ++ high.toNat.repr))
  | pattern {t : Table} {f : Field} {regex reason : String} (ht : t ∈ p.tables) (hf : f ∈ t.fields)
    (hregex : f.constraints.pattern = some regex) (h : Libraries.patternFault? regex = some reason) :
    Fault p o (.invalidConstraint t.name f.name .pattern reason)
  | noValues {t : Table} {f : Field} (ht : t ∈ p.tables) (hf : f ∈ t.fields) (h : f.constraints.enum = some []) :
    Fault p o (.invalidConstraint t.name f.name .enum "no values")
  | value {t : Table} {f : Field} {values : List Value} {v : Value} (ht : t ∈ p.tables) (hf : f ∈ t.fields)
    (hvalues : f.constraints.enum = some values) (hv : v ∈ values) (h : v.hasType f.type = false) :
    Fault p o (.invalidConstraint t.name f.name .enum ("value " ++ v.text ++ " is not of type " ++ f.type.name))
  | lists (h : o.profile.maxColumns.toNat < ((p.lists o).map EnumPool.Entry.key).toFinset.card) :
    Fault p o (.tooManyColumns o.enumSheet (UInt32.ofNat ((p.lists o).map EnumPool.Entry.key).toFinset.card)
      o.profile.maxColumns)
  | cycle {names : List String} (h : p.ReferenceCycle names) : Fault p o (.cyclicReference names)

namespace Package

variable [Libraries] {p : Package} {o : Options}

/-! ### Faults and well-formedness -/

theorem Fault.not_wellFormed {e : Error} (h : p.Fault o e) : ¬p.WellFormed o := by
  intro hp
  cases h with
  | rows h => exact Nat.not_le.2 h hp.rows_fit
  | sheetName hname h => exact absurd (hp.sheets_allowed _ hname) (by simp [h])
  | tableName h => exact h.not_nodup hp.names_nodup
  | sheet _ h => exact h.not_nodup hp.sheets_nodup
  | width ht h => exact UInt32.not_le.2 h (hp.fields_fit _ ht)
  | fieldName ht h => exact h.not_nodup (hp.fields_nodup _ ht)
  | keyLengths ht hk h =>
    have hkey := hp.keys_sound _ ht _ hk
    exact h.elim hkey.nonempty fun hne => hne hkey.lengths_eq
  | target ht hk h =>
    obtain ⟨target, htarget, _⟩ := (hp.keys_sound _ ht _ hk).leads
    simp [h] at htarget
  | localField ht hk hpair h =>
    obtain ⟨_, _, hpairs⟩ := (hp.keys_sound _ ht _ hk).leads
    obtain ⟨f, _, hf, _⟩ := hpairs _ hpair
    simp [h] at hf
  | referencedField ht hk hpair htarget h =>
    obtain ⟨other, hother, hpairs⟩ := (hp.keys_sound _ ht _ hk).leads
    obtain rfl := Option.some.inj (htarget.symm.trans hother)
    obtain ⟨_, g, _, hg, _⟩ := hpairs _ hpair
    simp [h] at hg
  | fieldType ht hk hpair htarget hf hg h =>
    obtain ⟨other, hother, hpairs⟩ := (hp.keys_sound _ ht _ hk).leads
    obtain rfl := Option.some.inj (htarget.symm.trans hother)
    obtain ⟨f', g', hf', hg', htype⟩ := hpairs _ hpair
    obtain rfl := Option.some.inj (hf.symm.trans hf')
    obtain rfl := Option.some.inj (hg.symm.trans hg')
    exact h htype
  | minimum ht hf hlow h => exact absurd ((hp.fields_sound _ ht _ hf).minimum_finite _ hlow) (by simp [h])
  | maximum ht hf hhigh h => exact absurd ((hp.fields_sound _ ht _ hf).maximum_finite _ hhigh) (by simp [h])
  | bounds ht hf hlow hhigh h => exact absurd ((hp.fields_sound _ ht _ hf).not_less hlow hhigh) (by simp [h])
  | lengths ht hf hlow hhigh h =>
    exact absurd ((hp.fields_sound _ ht _ hf).lengths_ordered _ _ hlow hhigh) (by simpa using h)
  | pattern ht hf hregex h => exact absurd ((hp.fields_sound _ ht _ hf).pattern_valid _ hregex) (by simp [h])
  | noValues ht hf h => exact (hp.fields_sound _ ht _ hf).enum_nonempty h
  | value ht hf hvalues hv h => exact absurd ((hp.fields_sound _ ht _ hf).enum_typed _ hvalues _ hv) (by simp [h])
  | lists h => exact Nat.not_le.2 h hp.lists_fit
  | cycle h =>
    obtain ⟨a, ha⟩ := h.transGen
    exact hp.acyclic a ha

/-- No fault is the platform's, so none can be passed over. -/
theorem Fault.not_recoverable {e : Error} (h : p.Fault o e) : e.isRecoverable = false := by
  cases h <;> rfl

end Package

/-! ### Errors of the checks -/

theorem firstRepeated?_eq_some {seen : Std.HashSet String} {names : List String} {name : String}
    (h : firstRepeated? seen names = some name) : name ∈ names ∧ name ∈ seen ∨ List.Duplicate name names := by
  induction names generalizing seen with
  | nil => cases h
  | cons other rest ih =>
    rw [firstRepeated?] at h
    split at h
    · rename_i hseen
      cases h
      exact .inl ⟨List.mem_cons_self, Std.HashSet.contains_iff_mem.1 hseen⟩
    · rcases ih h with ⟨hmem, hseen⟩ | hrest
      · rcases Std.HashSet.mem_insert.1 hseen with heq | hseen
        · obtain rfl := eq_of_beq heq
          exact .inr (List.Mem.duplicate_cons_self hmem)
        · exact .inl ⟨List.mem_cons_of_mem other hmem, hseen⟩
      · exact .inr (hrest.duplicate_cons other)

section Checks

variable {p : Package} {o : Options} {e : Error}

theorem checkSheetName_eq_error {name : String} (h : checkSheetName o.profile name = .error e) :
    ∃ reason, o.profile.refuseSheetName? name = some reason ∧ e = .invalidSheetName name reason := by
  unfold checkSheetName at h
  split at h
  · rename_i reason hreason
    cases h
    exact ⟨reason, hreason, rfl⟩
  · cases h

private theorem fault_of_checkFields [Libraries] {t : Table} (ht : t ∈ p.tables) (h : checkFields o t = .error e) : p.Fault o e := by
  unfold checkFields at h
  rcases bind_eq_error.1 h with hwide | ⟨_, _, h⟩
  · obtain ⟨hmany, rfl⟩ := refuseIf_eq_error.1 hwide
    exact .width ht (of_decide_eq_true hmany)
  split at h
  · rename_i hrepeated
    cases h
    rcases firstRepeated?_eq_some hrepeated with ⟨_, hseen⟩ | hduplicate
    · exact absurd hseen Std.HashSet.not_mem_empty
    · exact .fieldName ht hduplicate
  · cases h

private theorem checkTablesAfter_eq_error {names sheets : List String} {tables : List Table}
    (h : checkTablesAfter o names sheets tables = .error e) : ∃ before t after, tables = before ++ t :: after ∧
      ((t.name ∈ names ∨ t.name ∈ before.map (·.name)) ∧ e = .duplicateTable t.name ∨
        checkSheetName o.profile t.sheetName = .error e ∨
        (Text.lowercase t.sheetName ∈ sheets ∨ Text.lowercase t.sheetName ∈ before.map (Text.lowercase ·.sheetName)) ∧
          e = .duplicateSheetName t.sheetName ∨
        checkFields o t = .error e) := by
  induction tables generalizing names sheets with
  | nil => cases h
  | cons t rest ih =>
    rw [checkTablesAfter] at h
    rcases bind_eq_error.1 h with hname | ⟨_, _, h⟩
    · obtain ⟨hseen, rfl⟩ := refuseIf_eq_error.1 hname
      exact ⟨[], t, rest, rfl, .inl ⟨.inl (by simpa using hseen), rfl⟩⟩
    rcases bind_eq_error.1 h with hallowed | ⟨_, _, h⟩
    · exact ⟨[], t, rest, rfl, .inr (.inl hallowed)⟩
    rcases bind_eq_error.1 h with hsheet | ⟨_, _, h⟩
    · obtain ⟨hseen, rfl⟩ := refuseIf_eq_error.1 hsheet
      exact ⟨[], t, rest, rfl, .inr (.inr (.inl ⟨.inl (by simpa using hseen), rfl⟩))⟩
    rcases bind_eq_error.1 h with hfields | ⟨_, _, h⟩
    · exact ⟨[], t, rest, rfl, .inr (.inr (.inr hfields))⟩
    · -- What was seen before the rest is what was seen before, and this table.
      obtain ⟨before, u, after, rfl, hu⟩ := ih h
      refine ⟨t :: before, u, after, rfl, ?_⟩
      simp only [List.map_cons, List.mem_cons] at hu ⊢
      grind

private theorem duplicate_of_mem_before {α : Type} {before after : List α} {x : α} (h : x ∈ before) :
    List.Duplicate x (before ++ x :: after) := by
  induction before with
  | nil => cases h
  | cons y before ih =>
    rcases List.mem_cons.1 h with rfl | h
    · exact List.Mem.duplicate_cons_self (by simp)
    · exact (ih h).duplicate_cons y

theorem fault_of_checkTables [Libraries] (h : checkTables o p = .error e) : p.Fault o e := by
  unfold checkTables at h
  rcases bind_eq_error.1 h with hlists | ⟨_, _, h⟩
  · obtain ⟨reason, hreason, rfl⟩ := checkSheetName_eq_error hlists
    exact .sheetName List.mem_cons_self hreason
  obtain ⟨before, t, after, htables, hcases⟩ := checkTablesAfter_eq_error h
  have ht : t ∈ p.tables := htables ▸ List.mem_append_right before List.mem_cons_self
  have hsheet : t.sheetName ∈ p.sheetNames o := List.mem_cons_of_mem _ (List.mem_map_of_mem ht)
  rcases hcases with ⟨hseen, rfl⟩ | hallowed | ⟨hseen, rfl⟩ | hfields
  · refine .tableName ?_
    rw [htables, List.map_append, List.map_cons]
    exact duplicate_of_mem_before (hseen.resolve_left List.not_mem_nil)
  · obtain ⟨reason, hreason, rfl⟩ := checkSheetName_eq_error hallowed
    exact .sheetName hsheet hreason
  · refine .sheet hsheet ?_
    rw [Package.sheetNames, htables, List.map_append, List.map_cons, List.map_cons, List.map_append, List.map_cons,
      ← List.cons_append]
    refine duplicate_of_mem_before ?_
    rw [List.map_map, List.mem_cons]
    exact hseen.imp_left List.mem_singleton.1
  · exact fault_of_checkFields ht hfields

theorem fault_of_resolveKey [Libraries] {t : Table} (ht : t ∈ p.tables) {k : ForeignKey} (hk : k ∈ t.foreignKeys)
    (h : resolveKey p t k = .error e) : p.Fault o e := by
  unfold resolveKey at h
  rcases bind_eq_error.1 h with hlengths | ⟨_, _, h⟩
  · obtain ⟨hwrong, rfl⟩ := refuseIf_eq_error.1 hlengths
    exact .keyLengths ht hk (by simpa using hwrong)
  dsimp only at h
  split at h
  · rename_i index target _ htarget
    rcases bind_eq_error.1 h with hpairs | ⟨_, _, h⟩
    · obtain ⟨pair, hpair, herror⟩ := mapM_eq_error hpairs
      unfold resolvePair at herror
      split at herror
      · rename_i hf
        cases herror
        exact .localField ht hk hpair hf
      · rename_i hg
        cases herror
        exact .referencedField ht hk hpair htarget hg
      · rename_i f g hf hg
        split at herror
        · cases herror
        · rename_i htype
          cases herror
          exact .fieldType ht hk hpair htarget hf hg htype
    · cases h
  · rename_i hnone
    cases h
    refine .target ht hk ?_
    cases htarget : p.table? (k.reference.tableOr t.name) with
    | none => rfl
    | some target =>
      cases hindex : p.tableIndex? (k.reference.tableOr t.name) with
      | none =>
        have hother := List.findIdx?_eq_none_iff.1 hindex target (List.mem_of_find?_eq_some htarget)
        exact absurd (Package.name_of_table? htarget) (by simpa using hother)
      | some index => exact (hnone index target hindex htarget).elim

private theorem checkBound_eq_error {t : Table} {f : Field} {kind : ConstraintKind} {bound : Option Binary64}
    (h : checkBound t f kind bound = .error e) : ∃ b, bound = some b ∧ b.isFinite = false ∧
      e = .invalidConstraint t.name f.name kind (b.text ++ " is not a finite number") := by
  cases bound with
  | none => cases h
  | some b =>
    obtain ⟨hinfinite, rfl⟩ := refuseIf_eq_error.1 h
    exact ⟨b, rfl, by simpa using hinfinite, rfl⟩

private theorem fault_of_checkEnum [Libraries] {t : Table} (ht : t ∈ p.tables) {f : Field} (hf : f ∈ t.fields)
    (h : checkEnum t f = .error e) : p.Fault o e := by
  unfold checkEnum at h
  split at h
  · rename_i hempty
    cases h
    exact .noValues ht hf hempty
  · rename_i values _ hvalues
    split at h
    · rename_i v hfind
      cases h
      have hwrong := List.find?_some hfind
      exact .value ht hf hvalues (List.mem_of_find?_eq_some hfind) (by simpa using hwrong)
    · cases h
  · cases h

theorem fault_of_checkConstraints [Libraries] {t : Table} (ht : t ∈ p.tables) {f : Field} (hf : f ∈ t.fields)
    (h : checkConstraints t f = .error e) : p.Fault o e := by
  unfold checkConstraints checkBounds checkLengths checkPattern at h
  rcases bind_eq_error.1 h with hminimum | ⟨_, _, h⟩
  · obtain ⟨low, hlow, hinfinite, rfl⟩ := checkBound_eq_error hminimum
    exact .minimum ht hf hlow hinfinite
  rcases bind_eq_error.1 h with hmaximum | ⟨_, _, h⟩
  · obtain ⟨high, hhigh, hinfinite, rfl⟩ := checkBound_eq_error hmaximum
    exact .maximum ht hf hhigh hinfinite
  rcases bind_eq_error.1 h with hbounds | ⟨_, _, h⟩
  · split at hbounds
    · rename_i hlow hhigh
      obtain ⟨hless, rfl⟩ := refuseIf_eq_error.1 hbounds
      exact .bounds ht hf hlow hhigh hless
    · cases hbounds
  rcases bind_eq_error.1 h with hlengths | ⟨_, _, h⟩
  · split at hlengths
    · rename_i hlow hhigh
      obtain ⟨hless, rfl⟩ := refuseIf_eq_error.1 hlengths
      exact .lengths ht hf hlow hhigh (of_decide_eq_true hless)
    · cases hlengths
  rcases bind_eq_error.1 h with hpattern | ⟨_, _, h⟩
  · split at hpattern
    · rename_i hfault
      obtain ⟨regex, hregex, hreason⟩ := Option.bind_eq_some_iff.1 hfault
      cases hpattern
      exact .pattern ht hf hregex hreason
    · cases hpattern
  · exact fault_of_checkEnum ht hf h

/-- Whatever stops the resolution of a package is a fault of the package. -/
theorem fault_of_resolve [Libraries] (h : resolve p o = .error e) : p.Fault o e := by
  rcases resolve_eq_error h with hrows | htables | hkeys | ⟨hmany, rfl⟩ | ⟨htables, keys, hkeys, horder⟩
  · unfold Options.checkRows at hrows
    dsimp only at hrows
    split at hrows
    · rename_i hmany
      cases hrows
      exact .rows hmany
    · cases hrows
  · exact fault_of_checkTables htables
  · obtain ⟨t, ht, htable⟩ := mapM_eq_error hkeys
    unfold resolveTable at htable
    rcases bind_eq_error.1 htable with hkey | ⟨_, _, htable⟩
    · obtain ⟨k, hk, hkey⟩ := mapM_eq_error hkey
      exact fault_of_resolveKey ht hk hkey
    rcases bind_eq_error.1 htable with hfield | ⟨_, _, htable⟩
    · obtain ⟨f, hf, hfield⟩ := forM_eq_error hfield
      exact fault_of_checkConstraints ht hf hfield
    · cases htable
  · rw [EnumPool.size_placeAll] at hmany ⊢
    exact .lists hmany
  · obtain ⟨names, rfl, hcycle⟩ :=
      (keysOf_of_mapM hkeys).1.cycle_of_writeOrder (checkTables_eq_ok.1 htables).2.names_nodup horder
    exact .cycle hcycle

theorem exists_resolve_of_wellFormed [Libraries] (hp : p.WellFormed o) : ∃ r, resolve p o = .ok r := by
  cases hresolve : resolve p o with
  | ok r => exact ⟨r, rfl⟩
  | error e => exact absurd hp (fault_of_resolve hresolve).not_wellFormed

end Checks

/-- Resolution succeeds on the well-formed packages and no others, and says of any other package what is wrong
with it. -/
theorem resolve_iff_wellFormed [Libraries] (p : Package) (o : Options) : ((∃ r, resolve p o = .ok r) ↔ p.WellFormed o) ∧
    ∀ e, resolve p o = .error e → p.Fault o e ∧ ¬p.WellFormed o := by
  have herror : ∀ e, resolve p o = .error e → p.Fault o e ∧ ¬p.WellFormed o := by
    intro e h
    have hfault := fault_of_resolve h
    exact ⟨hfault, hfault.not_wellFormed⟩
  exact ⟨⟨fun ⟨_, h⟩ => wellFormed_of_resolve h, exists_resolve_of_wellFormed⟩, herror⟩

/-- People belong to teams and teams have leads, so neither table can be written before the other. -/
def people : Package where
  tables := [
    { name := "people"
      fields := [{ name := "name", type := .string }, { name := "team", type := .string }]
      foreignKeys := [{ fields := ["team"], reference := { table := some "teams", fields := ["name"] } }] },
    { name := "teams"
      fields := [{ name := "name", type := .string }, { name := "lead", type := .string }]
      foreignKeys := [{ fields := ["lead"], reference := { table := some "people", fields := ["name"] } }] }]

attribute [local instance] Libraries.plain in
theorem people_cyclic : resolve people {} = .error (.cyclicReference ["people", "teams", "people"]) ∧
    people.Fault {} (.cyclicReference ["people", "teams", "people"]) ∧ ¬people.WellFormed {} := by
  have hrows : ({} : Options).checkRows = .ok () := rfl
  have hnamed : WellNamed {} [] [Text.lowercase ({} : Options).enumSheet] people.tables := by
    constructor <;> decide +kernel
  have htables : checkTables {} people = .ok () := checkTables_eq_ok.2 ⟨by decide +kernel, hnamed⟩
  have hkeys : people.tables.mapM (resolveTable people) =
      .ok [[⟨1, [("team", ⟨"teams", "name"⟩)]⟩], [⟨0, [("lead", ⟨"people", "name"⟩)]⟩]] := rfl
  have hresolve : resolve people {} = .error (.cyclicReference ["people", "teams", "people"]) := by
    rw [resolve, hrows, htables, hkeys]
    rfl
  exact ⟨hresolve, (resolve_iff_wellFormed people {}).2 _ hresolve⟩

/-! ### More fields than can be counted -/

def online : Options where
  platform := .googleSheets
  mode := .bestEffort

def wideField (n : Nat) : Field := { name := String.ofList (List.replicate n 'x'), type := .string }

/-- A table of so many fields, of which one refers to itself. -/
def wideTable (fields number : Nat) : Table where
  name := "wide"
  fields := (List.range fields).map wideField
  foreignKeys := [{ fields := [(wideField number).name], reference := { fields := [(wideField number).name] } }]

section Wide

variable {fields number : Nat}

theorem wideField_injective {i j : Nat} (h : (wideField i).name = (wideField j).name) : i = j := by
  have hletters := congrArg (fun s : String => s.toList.length) h
  simpa [wideField] using hletters

theorem length_wideTable : (wideTable fields number).fields.length = fields := by
  rw [wideTable, List.length_map, List.length_range]

theorem getElem?_wideTable (h : number < fields) : (wideTable fields number).fields[number]? = some (wideField number) := by
  rw [wideTable, List.getElem?_map, List.getElem?_range h, Option.map_some]

theorem nodup_wideTable : ((wideTable fields number).fields.map (·.name)).Nodup := by
  rw [wideTable, List.map_map]
  exact List.nodup_range.map fun i j => wideField_injective

theorem field?_wideTable (h : number < fields) :
    (wideTable fields number).field? (wideField number).name = some (wideField number) :=
  (find?_key_eq_some_iff nodup_wideTable).2 ⟨List.mem_of_getElem? (getElem?_wideTable h), rfl⟩

theorem fieldIndex?_wideTable {i : Nat} (h : (wideTable fields number).fieldIndex? (wideField number).name = some i) :
    i = number := by
  obtain ⟨hi, hname, _⟩ := List.findIdx?_eq_some_iff_getElem.1 h
  simp only [wideTable, List.getElem_map, List.getElem_range, decide_eq_true_eq] at hname
  exact wideField_injective hname

/-- The fields are not looked at one by one, so there may be any number of them. -/
theorem wide_wellFormed [Libraries] (hnumber : number < fields)
    (hfit : online.startColumn.toUInt32 + UInt32.ofNat fields ≤ online.profile.maxColumns) :
    (⟨[wideTable fields number]⟩ : Package).WellFormed online := by
  have hmatched : Matched (wideTable fields number) (wideTable fields number) ((wideField number).name, (wideField number).name) :=
    ⟨_, _, field?_wideTable hnumber, field?_wideTable hnumber, rfl⟩
  have hkey : ForeignKey.Sound ⟨[wideTable fields number]⟩ (wideTable fields number)
      { fields := [(wideField number).name], reference := { fields := [(wideField number).name] } } :=
    ⟨List.cons_ne_nil _ _, rfl, _, List.find?_cons_of_pos rfl, List.forall_mem_singleton.2 hmatched⟩
  refine Package.wellFormed_singleton (by decide) ?_ ?_ ?_ nodup_wideTable (List.forall_mem_singleton.2 ⟨hkey, rfl⟩) ?_ ?_
  · have hallowed : ∀ name ∈ ["lists", "wide"], online.profile.refuseSheetName? name = none := by decide +kernel
    exact hallowed
  · have hne : Text.lowercase "lists" ≠ Text.lowercase "wide" := by decide +kernel
    exact hne
  · rwa [length_wideTable]
  · intro f hf
    obtain ⟨i, _, rfl⟩ := List.mem_map.1 hf
    constructor <;> simp [wideField]
  · have hnone : (wideTable fields number).fields.filter (·.constraints.enum.isSome) = [] := by
      refine List.filter_eq_nil_iff.2 fun f hf => ?_
      obtain ⟨i, _, rfl⟩ := List.mem_map.1 hf
      exact Bool.false_ne_true
    rw [hnone]
    exact Nat.zero_le _

end Wide

attribute [local instance] Libraries.plain in
/-- A table of 2³² fields is counted as one without fields. It resolves, although no sheet has as many columns. -/
theorem wide_resolves : ¬∀ p o, (∃ r, resolve p o = .ok r) ↔
    p.WellFormed o ∧ ∀ t ∈ p.tables, o.startColumn.toNat + t.fields.length ≤ o.profile.maxColumns.toNat := by
  intro hiff
  have hwide : (⟨[wideTable UInt32.size 65536]⟩ : Package).WellFormed online := wide_wellFormed (by decide) (by decide)
  have hfits := ((hiff _ _).1 (exists_resolve_of_wellFormed hwide)).2 _ List.mem_cons_self
  rw [length_wideTable] at hfits
  exact absurd hfits (by decide)

end SheetTemplate
