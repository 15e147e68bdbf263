import SheetTemplate.Compile
import SheetTemplate.Proofs.EnumSheet.Entries
import SheetTemplate.Proofs.Layout
import SheetTemplate.Proofs.Resolution.Keys
import SheetTemplate.Proofs.Resolution.Names
import SheetTemplate.Proofs.Resolution.Steps

/-!
# Packages that resolve

What a resolution says about its package, and what of the package it vouches for, gathered in one
structure. The rest of the theory knows resolution only through it.
-/

namespace SheetTemplate

/-- The references of a field are those its table declares, each once, and its list has its column. -/
structure FieldResolution.For (o : Options) (entries : List EnumPool.Entry) (t : Table) (f : Field)
    (r : FieldResolution) : Prop where
  links_eq : r.links = (t.declaredLinks f.name).eraseDups
  placed : EnumPool.Placed o.profile entries f r.enumColumn

def listSheet? (o : Options) (entries : List EnumPool.Entry) : Option EnumSheet :=
  if entries.isEmpty then none else some ⟨o.enumSheet, entries.map Prod.snd⟩

theorem listSheet?_eq_some {o : Options} {entries : List EnumPool.Entry} {i : Nat} {e : EnumPool.Entry}
    (hi : entries[i]? = some e) : listSheet? o entries = some ⟨o.enumSheet, entries.map Prod.snd⟩ :=
  if_neg fun hempty => List.ne_nil_of_mem (List.mem_of_getElem? hi) (List.isEmpty_iff.1 hempty)

/-- Columns of the sheet of lists are counted in 16 bits, which is enough where the lists fit on a sheet. -/
theorem toNat_listColumn {o : Options} {entries : List EnumPool.Entry} (hfit : entries.length ≤ o.profile.maxColumns.toNat)
    {i : Nat} {e : EnumPool.Entry} (hi : entries[i]? = some e) : (UInt16.ofNat i).toNat = i := by
  have hmax : o.profile.maxColumns.toNat ≤ 18278 := o.platform.maxColumns_le
  have hlt : i < entries.length := (List.getElem?_eq_some_iff.1 hi).1
  have hsize : UInt16.size = 65536 := rfl
  exact UInt16.toNat_ofNat_of_lt' (by omega)

theorem listSheet?_values? {o : Options} {entries : List EnumPool.Entry} (hfit : entries.length ≤ o.profile.maxColumns.toNat)
    {i : Nat} {e : EnumPool.Entry} (hi : entries[i]? = some e) :
    (listSheet? o entries).bind (·.values? (UInt16.ofNat i)) = some e.2 := by
  rw [listSheet?_eq_some hi, Option.bind_some, EnumSheet.values?, toNat_listColumn hfit hi, List.getElem?_map, hi,
    Option.map_some]

theorem listSheet?_lookup? {o : Options} {entries : List EnumPool.Entry} (hfit : entries.length ≤ o.profile.maxColumns.toNat)
    {i : Nat} {e : EnumPool.Entry} (hi : entries[i]? = some e) : (listSheet? o entries).bind (·.lookup? (UInt16.ofNat i)) =
      some ⟨o.enumSheet, UInt16.ofNat i, ⟨0, UInt32.ofNat e.2.length⟩⟩ := by
  have hvalues := listSheet?_values? hfit hi
  rw [listSheet?_eq_some hi, Option.bind_some] at hvalues ⊢
  rw [EnumSheet.lookup?, hvalues, Option.map_some]

/-- A package that resolves, with the lists that go to the sheet of lists. -/
structure Resolved (p : Package) (o : Options) (entries : List EnumPool.Entry) (r : Resolution) : Prop where
  rows_fit : o.startRow.toNat + 1 + o.provisionedRows.toNat ≤ o.profile.maxRows.toNat
  named : WellNamed o [] [Text.lowercase o.enumSheet] p.tables
  keys : ∀ t ∈ p.tables, ∀ k ∈ t.foreignKeys, ∃ target,
    p.table? (k.reference.tableOr t.name) = some target ∧ ∀ pair ∈ k.pairs, Matched t target pair
  order : r.order.Perm (List.range p.tables.length)
  tables : List.Forall₂ (fun t rs => List.Forall₂ (FieldResolution.For o entries t) t.fields rs) p.tables r.tables
  lists_fit : entries.length ≤ o.profile.maxColumns.toNat
  enumSheet_eq : r.enumSheet = listSheet? o entries

theorem checkRows_eq_ok {o : Options} {u : Unit} :
    o.checkRows = .ok u ↔ o.startRow.toNat + 1 + o.provisionedRows.toNat ≤ o.profile.maxRows.toNat := by
  change (if _ then _ else _) = _ ↔ _
  split
  · rename_i h
    simpa using h
  · rename_i h
    simpa using h

theorem resolveTable_eq_ok [Libraries] {p : Package} {t : Table} {keys : List ResolvedKey} (h : resolveTable p t = .ok keys) :
    List.Forall₂ (fun k key => key.Resolves p t k) t.foreignKeys keys := by
  unfold resolveTable at h
  simp only [bind_eq_ok, pure_eq_ok] at h
  obtain ⟨_, hkeys, _, _, rfl⟩ := h
  exact (mapM_eq_ok.1 hkeys).imp fun _ _ => resolveKey_eq_ok

theorem EnumPool.Holds.sheet?_eq {o : Options} {pool : EnumPool} {entries : List EnumPool.Entry} (h : pool.Holds entries) :
    pool.sheet? o.enumSheet = listSheet? o entries := by
  have hempty : pool.lists.isEmpty = entries.isEmpty := by
    rw [← Array.isEmpty_toList, h.lists, List.isEmpty_map]
  rw [EnumPool.sheet?, listSheet?, hempty, h.lists]

private theorem forall₂_fields {o : Options} {entries : List EnumPool.Entry} {p : Package} {t : Table}
    {keys : List ResolvedKey} (hkeys : List.Forall₂ (fun k key => key.Resolves p t k) t.foreignKeys keys)
    {fields : List Field} {columns : List (Option UInt16)}
    (hcolumns : List.Forall₂ (EnumPool.Placed o.profile entries) fields columns) :
    List.Forall₂ (FieldResolution.For o entries t) fields ((fields.map (linksOf keys)).zipWith FieldResolution.mk columns) := by
  induction hcolumns with
  | nil => exact .nil
  | @cons f _ _ _ hplaced _ ih => exact .cons ⟨linksOf_eq hkeys f, hplaced⟩ ih

private theorem forall₂_tables {o : Options} {entries : List EnumPool.Entry} {p : Package} {tables : List Table}
    {keys : List (List ResolvedKey)} {columns : List (List (Option UInt16))}
    (hkeys : List.Forall₂ (fun t ks => List.Forall₂ (fun k key => key.Resolves p t k) t.foreignKeys ks) tables keys)
    (hcolumns : List.Forall₂ (fun t cs => List.Forall₂ (EnumPool.Placed o.profile entries) t.fields cs) tables columns) :
    List.Forall₂ (fun t rs => List.Forall₂ (FieldResolution.For o entries t) t.fields rs) tables
      ((((tables.zip keys).map fun (t, keys) => t.fields.map (linksOf keys)).zip columns).map fun (links, columns) =>
        links.zipWith FieldResolution.mk columns) := by
  induction hkeys generalizing columns with
  | nil => exact .nil
  | cons hkey _ ih =>
    cases hcolumns with
    | cons hcolumn hrest => exact .cons (forall₂_fields hkey hcolumn) (ih hrest)

theorem resolved_of_resolve [Libraries] {p : Package} {o : Options} {r : Resolution} (h : resolve p o = .ok r) :
    Resolved p o (p.entries o) r := by
  obtain ⟨hrows, htables, keys, hkeys, hfit, order, horder, rfl⟩ := resolve_eq_ok_iff.1 h
  obtain ⟨hholds, hplaced⟩ := EnumPool.holds_placeAll p o
  have hresolved := (mapM_eq_ok.1 hkeys).imp fun _ _ => resolveTable_eq_ok
  have htargets : ∀ ks ∈ keys, ∀ key ∈ ks, key.target < p.tables.length := by
    intro ks hks key hkey
    obtain ⟨t, _, hresolves⟩ := exists_of_forall₂_right hresolved hks
    obtain ⟨k, _, hk⟩ := exists_of_forall₂_right hresolves hkey
    exact hk.target_lt
  obtain ⟨hwf, hsize⟩ := wellFormed_referenceGraph (mapM_eq_ok.1 hkeys).length_eq.symm htargets
  have hperm := (TableGraph.writeOrder_eq_ok hwf horder).2
  rw [hsize] at hperm
  refine ⟨checkRows_eq_ok.1 hrows, (checkTables_eq_ok.1 htables).2, ?_, hperm, forall₂_tables hresolved hplaced,
    hholds.size_eq ▸ hfit, hholds.sheet?_eq⟩
  intro t ht k hk
  obtain ⟨ks, _, hresolves⟩ := exists_of_forall₂_left hresolved ht
  obtain ⟨key, _, hkey⟩ := exists_of_forall₂_left hresolves hk
  exact hkey.table

theorem resolve_eq_ok [Libraries] {p : Package} {o : Options} {r : Resolution} (h : resolve p o = .ok r) :
    ∃ entries, Resolved p o entries r :=
  ⟨_, resolved_of_resolve h⟩

/-! ### The sequence of tables -/

private theorem filterMap_range_getElem? {α : Type} (xs : List α) :
    (List.range xs.length).filterMap (xs[·]?) = xs := by
  induction xs with
  | nil => rfl
  | cons x xs ih =>
    rw [List.length_cons, List.range_succ_eq_map, List.filterMap_cons_some (List.getElem?_cons_zero), List.filterMap_map]
    exact congrArg (x :: ·) ih

theorem Resolved.sequence_perm {p : Package} {o : Options} {entries : List EnumPool.Entry} {r : Resolution}
    (h : Resolved p o entries r) : (r.sequence p).Perm (p.tables.zip r.tables) := by
  have hlength := h.tables.length_eq
  have hzip : (p.tables.zip r.tables).length = p.tables.length := by
    rw [List.length_zip, hlength, Nat.min_self]
  have hpick : (fun i : Nat => do return (← p.tables[i]?, ← r.tables[i]?)) = fun i => (p.tables.zip r.tables)[i]? := by
    funext i
    rw [List.zip, List.getElem?_zipWith]
    cases p.tables[i]? <;> cases r.tables[i]? <;> rfl
  rw [Resolution.sequence, hpick]
  refine (h.order.filterMap _).trans ?_
  rw [← hzip, filterMap_range_getElem?]

theorem Resolved.tables_perm {p : Package} {o : Options} {entries : List EnumPool.Entry} {r : Resolution}
    (h : Resolved p o entries r) : ((r.sequence p).map Prod.fst).Perm p.tables := by
  refine (h.sequence_perm.map Prod.fst).trans ?_
  rw [List.map_fst_zip (Nat.le_of_eq h.tables.length_eq)]

theorem Resolved.of_mem_sequence {p : Package} {o : Options} {entries : List EnumPool.Entry} {r : Resolution}
    (h : Resolved p o entries r) {t : Table} {rs : List FieldResolution} (hmem : (t, rs) ∈ r.sequence p) :
    t ∈ p.tables ∧ List.Forall₂ (FieldResolution.For o entries t) t.fields rs := by
  have hzip := h.sequence_perm.mem_iff.1 hmem
  exact ⟨(List.of_mem_zip hzip).1, List.forall₂_zip h.tables hzip⟩

end SheetTemplate
