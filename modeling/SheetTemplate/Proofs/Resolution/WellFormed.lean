import SheetTemplate.Proofs.EnumSheet.Entries
import SheetTemplate.Proofs.Resolution.References
import SheetTemplate.Proofs.Resolution.Resolved

/-!
# Well-formed packages

Resolution checks a package while it builds a graph and a pool. Whether a package is well-formed is said here
without either, of its declarations alone, and every package that resolves is.
-/

namespace SheetTemplate

/-- The constraints of a field mean something on any platform. -/
structure Field.Sound [Libraries] (f : Field) : Prop where
  minimum_finite : ∀ low, f.constraints.minimum = some low → low.isFinite = true
  maximum_finite : ∀ high, f.constraints.maximum = some high → high.isFinite = true
  bounds_ordered : ∀ s m t n, f.constraints.minimum = some (.finite s m) → f.constraints.maximum = some (.finite t n) →
    Binary64.signedUnits s m ≤ Binary64.signedUnits t n
  lengths_ordered : ∀ low high, f.constraints.minLength = some low → f.constraints.maxLength = some high → low ≤ high
  pattern_valid : ∀ regex, f.constraints.pattern = some regex → Libraries.patternFault? regex = none
  enum_nonempty : f.constraints.enum ≠ some []
  enum_typed : ∀ values, f.constraints.enum = some values → ∀ v ∈ values, v.hasType f.type = true

/-- A key joins fields of one type, in equal number and at least one, to fields of a table of the package. -/
structure ForeignKey.Sound (p : Package) (t : Table) (k : ForeignKey) : Prop where
  nonempty : k.fields ≠ []
  lengths_eq : k.fields.length = k.reference.fields.length
  leads : ∃ target, p.table? (k.reference.tableOr t.name) = some target ∧ ∀ pair ∈ k.pairs, Matched t target pair

def Package.sheetNames (p : Package) (o : Options) : List String := o.enumSheet :: p.tables.map (·.sheetName)

/-- A package that can be laid out under the options. -/
structure Package.WellFormed [Libraries] (p : Package) (o : Options) : Prop where
  rows_fit : o.startRow.toNat + 1 + (max o.dataRows 1).toNat ≤ o.profile.maxRows.toNat
  sheets_allowed : ∀ name ∈ p.sheetNames o, o.profile.refuseSheetName? name = none
  names_nodup : (p.tables.map (·.name)).Nodup
  sheets_nodup : ((p.sheetNames o).map Text.lowercase).Nodup
  fields_fit : ∀ t ∈ p.tables, o.startColumn.toUInt32 + UInt32.ofNat t.fields.length ≤ o.profile.maxColumns
  fields_nodup : ∀ t ∈ p.tables, (t.fields.map (·.name)).Nodup
  keys_sound : ∀ t ∈ p.tables, ∀ k ∈ t.foreignKeys, k.Sound p t
  fields_sound : ∀ t ∈ p.tables, ∀ f ∈ t.fields, f.Sound
  lists_fit : ((p.lists o).map EnumPool.Entry.key).toFinset.card ≤ o.profile.maxColumns.toNat
  acyclic : ∀ a, ¬Relation.TransGen p.RefersTo a a

/-- Where every key leads to its own table, no table waits for another. -/
theorem Package.not_transGen_refersTo {p : Package} (hkeys : ∀ t ∈ p.tables, ∀ k ∈ t.foreignKeys, k.reference.tableOr t.name = t.name)
    (a : String) : ¬Relation.TransGen p.RefersTo a a := by
  intro hcycle
  obtain ⟨_, ⟨hne, t, ht, hname, k, hk, hleads⟩, _⟩ := Relation.TransGen.head'_iff.1 hcycle
  exact hne (hname.symm.trans ((hkeys t ht k hk).symm.trans hleads))

/-- A package of one table. It has no more lists than fields that declare one. -/
theorem Package.wellFormed_singleton [Libraries] {t : Table} {o : Options}
    (hrows : o.startRow.toNat + 1 + (max o.dataRows 1).toNat ≤ o.profile.maxRows.toNat)
    (hallowed : ∀ name ∈ [o.enumSheet, t.sheetName], o.profile.refuseSheetName? name = none)
    (hsheets : Text.lowercase o.enumSheet ≠ Text.lowercase t.sheetName)
    (hfit : o.startColumn.toUInt32 + UInt32.ofNat t.fields.length ≤ o.profile.maxColumns)
    (hfields : (t.fields.map (·.name)).Nodup)
    (hkeys : ∀ k ∈ t.foreignKeys, k.Sound ⟨[t]⟩ t ∧ k.reference.tableOr t.name = t.name)
    (hsound : ∀ f ∈ t.fields, f.Sound)
    (hlists : (t.fields.filter (·.constraints.enum.isSome)).length ≤ o.profile.maxColumns.toNat) :
    WellFormed ⟨[t]⟩ o where
  rows_fit := hrows
  sheets_allowed := hallowed
  names_nodup := List.nodup_singleton _
  sheets_nodup := List.nodup_cons.2 ⟨mt List.mem_singleton.1 hsheets, List.nodup_singleton _⟩
  fields_fit := List.forall_mem_singleton.2 hfit
  fields_nodup := List.forall_mem_singleton.2 hfields
  keys_sound := List.forall_mem_singleton.2 fun k hk => (hkeys k hk).1
  fields_sound := List.forall_mem_singleton.2 hsound
  lists_fit := by
    have hentered : ∀ f ∈ t.fields, (EnumPool.entered? o.profile f).isSome → f.constraints.enum.isSome := by
      intro f _ hentered
      rw [EnumPool.entered?, Option.isSome_map] at hentered
      exact Option.isSome_of_isSome_filter _ _ hentered
    have hlength : (lists ⟨[t]⟩ o).length ≤ (t.fields.filter (·.constraints.enum.isSome)).length := by
      rw [lists, List.flatMap_singleton, ← List.filterMap_eq_flatMap_toList, List.length_filterMap_eq_countP,
        ← List.countP_eq_length_filter]
      exact List.countP_mono_left hentered
    have hcard := List.toFinset_card_le ((lists ⟨[t]⟩ o).map EnumPool.Entry.key)
    rw [List.length_map] at hcard
    omega
  acyclic := not_transGen_refersTo (List.forall_mem_singleton.2 fun k hk => (hkeys k hk).2)

/-! ### Constraints that pass -/

private theorem exists_of_isFinite {x : Binary64} (h : x.isFinite = true) : ∃ s m, x = .finite s m := by
  cases x with
  | finite s m => exact ⟨s, m, rfl⟩
  | nan | infinite => cases h

theorem Field.Sound.not_less [Libraries] {f : Field} (h : f.Sound) {low high : Binary64} (hlow : f.constraints.minimum = some low)
    (hhigh : f.constraints.maximum = some high) : high.less low = false := by
  obtain ⟨s, m, rfl⟩ := exists_of_isFinite (h.minimum_finite low hlow)
  obtain ⟨t, n, rfl⟩ := exists_of_isFinite (h.maximum_finite high hhigh)
  simpa [Binary64.less] using h.bounds_ordered s m t n hlow hhigh

section Constraints

variable {t : Table} {f : Field} {u : Unit}

theorem checkBound_eq_ok {kind : ConstraintKind} {bound : Option Binary64} :
    checkBound t f kind bound = .ok u ↔ ∀ b, bound = some b → b.isFinite = true := by
  cases bound with
  | none => simp [checkBound]
  | some b => simp [checkBound, refuseIf_eq_ok]

theorem checkBounds_eq_ok : checkBounds t f = .ok u ↔
    ∀ low high, f.constraints.minimum = some low → f.constraints.maximum = some high → high.less low = false := by
  unfold checkBounds
  split
  · rename_i low high hlow hhigh
    rw [refuseIf_eq_ok]
    simp [hlow, hhigh]
  · rename_i hnone
    simp only [true_iff]
    intro low high hlow hhigh
    exact absurd hhigh (hnone low high hlow)

theorem checkLengths_eq_ok : checkLengths t f = .ok u ↔
    ∀ low high, f.constraints.minLength = some low → f.constraints.maxLength = some high → low ≤ high := by
  unfold checkLengths
  split
  · rename_i low high hlow hhigh
    rw [refuseIf_eq_ok]
    simp [hlow, hhigh]
  · rename_i hnone
    simp only [true_iff]
    intro low high hlow hhigh
    exact absurd hhigh (hnone low high hlow)

theorem checkPattern_eq_ok [Libraries] : checkPattern t f = .ok u ↔
    ∀ regex, f.constraints.pattern = some regex → Libraries.patternFault? regex = none := by
  unfold checkPattern
  cases f.constraints.pattern with
  | none => simp
  | some regex =>
    simp only [Option.bind_some, Option.some.injEq, forall_eq']
    cases Libraries.patternFault? regex <;> simp

theorem checkEnum_eq_ok : checkEnum t f = .ok u ↔
    f.constraints.enum ≠ some [] ∧ ∀ values, f.constraints.enum = some values → ∀ v ∈ values, v.hasType f.type = true := by
  unfold checkEnum
  split
  · rename_i hempty
    simp [hempty]
  · rename_i values hne hvalues
    rw [hvalues]
    cases hfind : values.find? (!·.hasType f.type) with
    | some value =>
      have hmem := List.mem_of_find?_eq_some hfind
      have hbad := List.find?_some hfind
      simp only [reduceCtorEq, Option.some.injEq, forall_eq', false_iff, not_and]
      intro _ hall
      rw [hall value hmem] at hbad
      cases hbad
    | none =>
      have hall : ∀ v ∈ values, v.hasType f.type = true := by simpa using List.find?_eq_none.1 hfind
      simp only [Option.some.injEq, forall_eq', true_iff]
      exact ⟨fun heq => hne (Option.some.inj heq), hall⟩
  · rename_i hnone
    simp [hnone]

theorem checkConstraints_eq_ok [Libraries] : checkConstraints t f = .ok u ↔ f.Sound := by
  unfold checkConstraints
  simp only [bind_eq_ok, exists_and_left, exists_const, checkBound_eq_ok, checkBounds_eq_ok, checkLengths_eq_ok,
    checkPattern_eq_ok, checkEnum_eq_ok]
  constructor
  · rintro ⟨hlow, hhigh, hbounds, hlengths, hpattern, hne, htyped⟩
    refine ⟨hlow, hhigh, fun s m t n hs ht => ?_, hlengths, hpattern, hne, htyped⟩
    have hless := hbounds _ _ hs ht
    simpa [Binary64.less] using hless
  · intro h
    exact ⟨h.minimum_finite, h.maximum_finite, fun _ _ => h.not_less, h.lengths_ordered, h.pattern_valid, h.enum_nonempty,
      h.enum_typed⟩

end Constraints

/-! ### Packages that resolve -/

theorem resolveKey_sound {p : Package} {t : Table} {k : ForeignKey} {key : ResolvedKey} (h : resolveKey p t k = .ok key) :
    k.Sound p t := by
  have hleads := (resolveKey_eq_ok h).table
  unfold resolveKey at h
  simp only [bind_eq_ok, refuseIf_eq_ok, Bool.or_eq_false_iff, decide_eq_false_iff_not, ne_eq, not_not] at h
  obtain ⟨_, ⟨hnonempty, hlengths⟩, _⟩ := h
  exact ⟨fun hnil => hnonempty (by rw [hnil, List.length_nil]), hlengths, hleads⟩

variable [Libraries] {p : Package} {o : Options}

theorem keysOf_of_mapM {keys : List (List ResolvedKey)} (h : p.tables.mapM (resolveTable p) = .ok keys) :
    KeysOf p keys ∧ ∀ t ∈ p.tables, ∀ f ∈ t.fields, f.Sound := by
  have htables := mapM_eq_ok.1 h
  unfold resolveTable at htables
  simp only [bind_eq_ok, pure_eq_ok] at htables
  refine ⟨htables.imp fun t ks ⟨_, hkeys, _, _, heq⟩ => heq ▸ mapM_eq_ok.1 hkeys, fun t ht f hf => ?_⟩
  obtain ⟨_, _, _, _, _, hfields, _⟩ := exists_of_forall₂_left htables ht
  exact checkConstraints_eq_ok.1 (forM_eq_ok.1 hfields f hf)

theorem wellFormed_of_resolve {r : Resolution} (h : resolve p o = .ok r) : p.WellFormed o := by
  obtain ⟨hrows, htables, keys, hkeys, hlists, order, horder, _⟩ := resolve_eq_ok_iff.1 h
  obtain ⟨hlistSheet, hnamed⟩ := checkTables_eq_ok.1 htables
  obtain ⟨hkeysOf, hfields⟩ := keysOf_of_mapM hkeys
  exact {
    rows_fit := checkRows_eq_ok.1 hrows
    sheets_allowed := List.forall_mem_cons.2 ⟨hlistSheet, List.forall_mem_map.2 hnamed.sheets_allowed⟩
    names_nodup := hnamed.names_nodup
    sheets_nodup := by
      rw [Package.sheetNames, List.map_cons, List.map_map, List.nodup_cons]
      refine ⟨fun hmem => ?_, hnamed.sheets_nodup⟩
      obtain ⟨t, ht, heq⟩ := List.mem_map.1 hmem
      exact hnamed.sheets_new t ht (heq ▸ List.mem_cons_self)
    fields_fit := hnamed.fields_fit
    fields_nodup := hnamed.fields_nodup
    keys_sound := by
      intro t ht k hk
      obtain ⟨ks, _, hresolves⟩ := exists_of_forall₂_left hkeysOf ht
      obtain ⟨key, _, hkey⟩ := exists_of_forall₂_left hresolves hk
      exact resolveKey_sound hkey
    fields_sound := hfields
    lists_fit := EnumPool.size_placeAll p o ▸ hlists
    acyclic := hkeysOf.acyclic_of_writeOrder hnamed.names_nodup horder }

/-! ### The order of tables -/

theorem mem_before_of_refersTo {r : Resolution} (h : resolve p o = .ok r) {before after : List (Table × List FieldResolution)} {t : Table}
    {rs : List FieldResolution} (hsequence : r.sequence p = before ++ (t, rs) :: after) {u : Table} (hu : u ∈ p.tables)
    (hrefers : p.RefersTo t.name u.name) : u ∈ before.map Prod.fst := by
  obtain ⟨entries, hresolved⟩ := resolve_eq_ok h
  obtain ⟨_, _, keys, hkeys, _, order, horder, hr⟩ := resolve_eq_ok_iff.1 h
  obtain ⟨hkeysOf, _⟩ := keysOf_of_mapM hkeys
  obtain ⟨hlegal, _⟩ := TableGraph.writeOrder_eq_ok hkeysOf.wellFormed horder
  have horderEq : r.order = order := hr ▸ rfl
  obtain ⟨first, second, horderSplit, hfirst, hsecond⟩ := List.filterMap_eq_append_iff.1 hsequence
  obtain ⟨skipped, i, last, rfl, hskipped, hi, _⟩ := List.filterMap_eq_cons_iff.1 hsecond
  have hti : p.tables[i]? = some t := by
    simp only [Option.bind_eq_bind, Option.bind_eq_some_iff, Option.pure_def, Option.some.injEq, Prod.mk.injEq] at hi
    obtain ⟨_, ht, _, _, rfl, _⟩ := hi
    exact ht
  obtain ⟨j, huj⟩ := List.getElem?_of_mem hu
  obtain ⟨us, hus, _⟩ := getElem?_of_forall₂ hresolved.tables huj
  have hprecedes := (hkeysOf.precedes_iff hresolved.named.names_nodup hti huj).2 hrefers
  rw [← horderEq, horderSplit, ← List.append_assoc] at hlegal
  -- Only indices without a table are passed over, and `j` is that of `u`.
  rcases List.mem_append.1 ((hlegal.mem_of_precedes hprecedes).resolve_left List.not_mem_nil) with hj | hj
  · refine List.mem_map.2 ⟨(u, us), hfirst ▸ List.mem_filterMap.2 ⟨j, hj, ?_⟩, rfl⟩
    simp [huj, hus]
  · have hnone := hskipped j hj
    simp [huj, hus] at hnone

end SheetTemplate
