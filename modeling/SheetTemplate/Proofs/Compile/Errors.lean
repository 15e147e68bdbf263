import SheetTemplate.Proofs.Compile.Sheets
import SheetTemplate.Proofs.Resolution.WellFormed

/-!
# Errors after resolution

When a table is compiled its own columns are published, and so are those of the tables it refers to, because they
come before it. No reference of a package that resolves is left open, then, whatever else is wrong with a field.
-/

namespace SheetTemplate

variable {o : Options} {lists : Option EnumSheet} {e : Error}

/-! ### The first error -/

theorem screenField_eq_error {t : Table} {f : Field} (h : (screenField o t f).result = .error e) :
    o.mode = .strict ∧ ∃ kind ∈ f.unsupported o.profile,
      e = .unsupportedConstraint t.name f.name kind f.type o.platform := by
  unfold screenField at h
  dsimp only at h
  split at h
  · rename_i hmode herrors
    cases h
    obtain ⟨kind, hkind, heq⟩ := List.mem_map.1 (herrors ▸ List.mem_cons_self : e ∈ _)
    exact ⟨hmode, kind, hkind, heq.symm⟩
  · cases h

theorem ofLink?_eq_error {registry : Registry} {ctx : CellContext} {t : Table} {sheet : String} {f : Field} {link : Link}
    (h : Part.ofLink? o registry ctx t sheet f link = .error e) : registry.get? link.table link.field = none ∧
      e = .unknownReference t.name ("field '" ++ link.table ++ "." ++ link.field ++ "'") := by
  unfold Part.ofLink? at h
  split at h
  · cases h
  · rename_i hopen
    cases h
    exact ⟨hopen, rfl⟩

theorem checkFormula_eq_error {p : Profile} {t : Table} {f : Field} {rule : Option Rule} :
    checkFormula p t f rule = .error e ↔ ∃ r formula max, rule = some r ∧ r.kind = .custom formula ∧
      p.maxFormula = some max ∧ max < Formula.length formula ∧ e = .conflictingConstraint t.name f.name
        ("combined validation formula is " ++ formula.length.repr ++ " characters (max: " ++ max.repr ++ ")") := by
  unfold checkFormula
  split
  · rename_i formula _ _ _ _ _
    cases hmax : p.maxFormula with
    | none => simp
    | some max =>
      simp only [refuseIf_eq_error, decide_eq_true_eq]
      constructor
      · rintro ⟨hlong, rfl⟩
        exact ⟨_, formula, max, rfl, rfl, rfl, hlong, rfl⟩
      · rintro ⟨_, _, _, hrule, hkind, hmax, hlong, rfl⟩
        cases hrule
        cases hkind
        cases hmax
        exact ⟨hlong, rfl⟩
  · rename_i hother
    simp only [reduceCtorEq, false_iff]
    rintro ⟨rule, formula, _, rfl, hkind, _⟩
    exact hother formula _ _ _ _ _ (by rw [← hkind])

theorem compileSupported_eq_error {registry : Registry} {t : Table} {l : TableLayout} {f : Field} {c : ColumnLayout}
    {r : FieldResolution} (h : compileSupported o registry lists t l f c r = .error e) :
    (∃ link ∈ r.links, registry.get? link.table link.field = none ∧
      e = .unknownReference t.name ("field '" ++ link.table ++ "." ++ link.field ++ "'")) ∨
      ∃ rule, checkFormula o.profile t f rule = .error e := by
  unfold compileSupported at h
  dsimp only at h
  rcases bind_eq_error.1 h with hlinks | ⟨_, _, h⟩
  · obtain ⟨link, hlink, hopen⟩ := mapM_eq_error hlinks
    exact .inl ⟨link, hlink, ofLink?_eq_error hopen⟩
  rcases bind_eq_error.1 h with hformula | ⟨_, _, h⟩
  · exact .inr ⟨_, hformula⟩
  · cases h

/-! ### References are published -/

variable {p : Package} {r : Resolution}

theorem published_of_resolve [Libraries] (h : resolve p o = .ok r) {before after : List (Table × List FieldResolution)} {t : Table}
    {rs : List FieldResolution} (hsequence : r.sequence p = before ++ (t, rs) :: after) {res : FieldResolution}
    (hres : res ∈ rs) {link : Link} (hlink : link ∈ res.links) :
    ∃ l, (Registry.empty.publishAll ((before.map Prod.fst ++ [t]).map o.home)).get? link.table link.field = some l := by
  obtain ⟨entries, hresolved⟩ := resolve_eq_ok h
  have hwf := wellFormed_of_resolve h
  have hmem : (t, rs) ∈ r.sequence p := hsequence ▸ List.mem_append_right before List.mem_cons_self
  obtain ⟨ht, hfields⟩ := hresolved.of_mem_sequence hmem
  obtain ⟨f, _, hfor⟩ := exists_of_forall₂_right hfields hres
  rw [hfor.links_eq, List.mem_eraseDups, Table.mem_declaredLinks] at hlink
  obtain ⟨k, hk, pair, hpair, _, rfl⟩ := hlink
  obtain ⟨target, htarget, hpairs⟩ := (hwf.keys_sound t ht k hk).leads
  obtain ⟨_, g, _, hg, _⟩ := hpairs pair hpair
  have hname := Package.name_of_table? htarget
  have htargetMem := List.mem_of_find?_eq_some htarget
  have hpublished : target ∈ before.map Prod.fst ++ [t] := by
    by_cases heq : t.name = target.name
    · have hself := eq_of_key_eq hwf.names_nodup ht htargetMem heq
      exact List.mem_append_right _ (List.mem_singleton.2 hself.symm)
    · have hrefers : p.RefersTo t.name target.name := ⟨heq, t, ht, rfl, k, hk, hname.symm⟩
      exact List.mem_append_left _ (mem_before_of_refersTo h hsequence htargetMem hrefers)
  -- The tables published so far are some of the tables of the package, each once.
  have hsublist : (before.map Prod.fst ++ [t]).Sublist ((r.sequence p).map Prod.fst) := by
    rw [hsequence, List.map_append, List.map_cons]
    exact (List.Sublist.refl _).append (List.singleton_sublist.2 List.mem_cons_self)
  have hnodup : (((before.map Prod.fst ++ [t]).map o.home).map (·.table)).Nodup := by
    rw [List.map_map]
    exact ((hresolved.tables_perm.map (·.name)).nodup_iff.2 hwf.names_nodup).sublist (hsublist.map (·.name))
  have hplaces : ∀ l ∈ (before.map Prod.fst ++ [t]).map o.home, (l.columns.map (·.field)).Nodup := by
    refine List.forall_mem_map.2 fun u hu => o.nodup_home (hwf.fields_nodup u ?_)
    exact hresolved.tables_perm.mem_iff.1 (hsublist.subset hu)
  have hlookup := Registry.get?_publishAll hnodup hplaces (fun _ _ => Registry.isPublished_empty _)
    (List.mem_map_of_mem hpublished) pair.2
  rw [← hname]
  refine Option.isSome_iff_exists.1 ((congrArg Option.isSome hlookup).trans ?_)
  rw [Options.lookup?_layout, Option.isSome_map, Table.fieldIndex?, List.findIdx?_isSome, List.any_eq_true]
  exact ⟨g, List.mem_of_find?_eq_some hg, decide_eq_true (Table.name_of_field? hg)⟩

end SheetTemplate
