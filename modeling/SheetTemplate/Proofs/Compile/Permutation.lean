import SheetTemplate.Proofs.Compile.Obstacles
import SheetTemplate.Proofs.Compile.Templates
import SheetTemplate.Proofs.Resolution.Permutation

/-!
# Packages in another order

In another order of declaration the tables may be written in another order, and published in another order. Yet what a
table is compiled against is the columns of the whole package, which are the same, so the sheets are the same too.
-/

namespace SheetTemplate

variable {p p' : Package} {o : Options}

theorem registry_perm [Libraries] (hperm : p.tables.Perm p'.tables) (hnames : (p.tables.map (·.name)).Nodup) (o : Options) :
    p.registry o = p'.registry o := by
  refine Registry.publishAll_perm (hperm.map o.home) ?_ Registry.empty
  rw [List.map_map]
  exact hnames

theorem exists_compile_perm [Libraries] (hperm : p.tables.Perm p'.tables) (hunpooled : p.Unpooled o) {t : Template}
    (h : compile p o = .ok t) : ∃ t', compile p' o = .ok t' ∧ t.sheets.Perm t'.sheets ∧ t.lookups = t'.lookups ∧
      t.warnings.Perm t'.warnings := by
  obtain ⟨r, hr⟩ := exists_resolve_of_compile h
  obtain ⟨r', hr', hsequence, hlists, hlists', hwarnings⟩ := resolve_perm hperm hunpooled hr
  have hregistry := registry_perm hperm (wellFormed_of_resolve hr).names_nodup o
  obtain ⟨hsheets, _, hlookups, hskipped⟩ := steps_of_compile hr h
  rw [Resolution.steps, hlists, hregistry] at hsheets hskipped
  obtain ⟨sheets', hsheets', hsame, hsteps⟩ := Outcome.mapM_perm hsequence hsheets
  have hcompile := compile_eq_steps hr'
  rw [Resolution.steps, hlists', hsheets'] at hcompile
  refine ⟨_, hcompile, hsame, hlookups.trans hregistry, ?_⟩
  rw [hskipped]
  exact hwarnings.append hsteps

theorem sheet?_perm [Libraries] {t t' : Template} (h : compile p o = .ok t) (hsheets : t.sheets.Perm t'.sheets) {table : Table}
    (htable : table ∈ p.tables) : ∃ s, t.sheet? table.name = some s ∧ t'.sheet? table.name = some s := by
  obtain ⟨entries, r, htemplate⟩ := compile_eq_ok h
  have hmem := htemplate.tables_perm.mem_iff.2 (List.mem_map_of_mem htable)
  obtain ⟨s, hs, hname⟩ := List.mem_map.1 hmem
  have hfound : t.sheet? table.name = some s := (find?_key_eq_some_iff htemplate.tables_nodup).2 ⟨hs, hname⟩
  refine ⟨s, hfound, ?_⟩
  rw [← hfound]
  exact (find?_key_perm htemplate.tables_nodup hsheets table.name).symm

/-- The order in which tables are declared does not matter to any table. Where no list goes to the sheet of lists, a
package compiles if it does in any other order, and then every table has the same sheet, the same columns are published
and there are the same warnings. -/
theorem compile_perm [Libraries] (p p' : Package) (o : Options) (hperm : p'.tables.Perm p.tables)
    (hlists : ∀ t ∈ p.tables, ∀ f ∈ t.fields, ∀ values, f.constraints.enum = some values →
      needsEnumSheet o.profile f.type values = false) :
    ((∃ t, compile p o = .ok t) ↔ ∃ t', compile p' o = .ok t') ∧
    ∀ t t', compile p o = .ok t → compile p' o = .ok t' →
      (∀ table ∈ p.tables, ∃ s, t.sheet? table.name = some s ∧ t'.sheet? table.name = some s) ∧
      t.sheets.Perm t'.sheets ∧ t.lookups = t'.lookups ∧ t.warnings.Perm t'.warnings := by
  have hunpooled : p.Unpooled o := hlists
  refine ⟨⟨fun ⟨t, h⟩ => ?_, fun ⟨t', h'⟩ => ?_⟩, fun t t' h h' => ?_⟩
  · obtain ⟨t', h', _⟩ := exists_compile_perm hperm.symm hunpooled h
    exact ⟨t', h'⟩
  · obtain ⟨t, h, _⟩ := exists_compile_perm hperm (hunpooled.perm hperm.symm) h'
    exact ⟨t, h⟩
  · obtain ⟨other, hother, hsheets, hrest⟩ := exists_compile_perm hperm.symm hunpooled h
    obtain rfl : other = t' := Except.ok.inj (hother.symm.trans h')
    exact ⟨fun table htable => sheet?_perm h hsheets htable, hsheets, hrest⟩

attribute [local instance] Libraries.plain in
/-- Orders can be declared before the customers to whom they refer. -/
theorem orders_declared_first : ∃ t t' s, compile shop online = .ok t ∧ compile ⟨[orders, customers]⟩ online = .ok t' ∧
    t.sheet? "orders" = some s ∧ t'.sheet? "orders" = some s ∧ t.lookups = t'.lookups := by
  have hlists : ∀ t ∈ shop.tables, ∀ f ∈ t.fields, ∀ values, f.constraints.enum = some values →
      needsEnumSheet online.profile f.type values = false := by
    simp [shop, customers, orders]
  obtain ⟨hcompile, hsame⟩ := compile_perm shop ⟨[orders, customers]⟩ online (.swap customers orders []) hlists
  obtain ⟨t, ht⟩ := exists_compile_of_googleSheets resolve_shop rfl rfl
  obtain ⟨t', ht'⟩ := hcompile.1 ⟨t, ht⟩
  obtain ⟨htables, _, hlookups, _⟩ := hsame t t' ht ht'
  obtain ⟨s, hs, hs'⟩ := htables orders (List.mem_cons_of_mem _ List.mem_cons_self)
  exact ⟨t, t', s, ht, ht', hs, hs', hlookups⟩

end SheetTemplate
