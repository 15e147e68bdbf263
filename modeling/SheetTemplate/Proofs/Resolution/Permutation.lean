import SheetTemplate.Proofs.Resolution.Faults

/-!
# Tables in another order

Whether a package is well-formed depends on its tables and not on the order in which they are declared. Where no list
goes to the sheet of lists, that is so of everything it resolves to but the order itself: each table refers to the same
columns, and there are the same warnings.
-/

namespace SheetTemplate

variable {p p' : Package} {o : Options}

/-! ### Well-formed packages -/

section Perm

variable (hperm : p.tables.Perm p'.tables)
include hperm

theorem Package.table?_perm (hnames : (p.tables.map (·.name)).Nodup) (name : String) : p.table? name = p'.table? name :=
  find?_key_perm hnames hperm name

theorem Package.refersTo_perm {a b : String} (h : p'.RefersTo a b) : p.RefersTo a b := by
  obtain ⟨hne, t, ht, hkey⟩ := h
  exact ⟨hne, t, hperm.mem_iff.2 ht, hkey⟩

theorem Package.sheetNames_perm (o : Options) : (p.sheetNames o).Perm (p'.sheetNames o) :=
  (hperm.map Table.sheetName).cons o.enumSheet

theorem Package.lists_perm (o : Options) : (p.lists o).Perm (p'.lists o) := hperm.flatMap_right _

theorem Package.WellFormed.perm [Libraries] (h : p.WellFormed o) : p'.WellFormed o where
  rows_fit := h.rows_fit
  sheets_allowed name hname := h.sheets_allowed name ((Package.sheetNames_perm hperm o).mem_iff.2 hname)
  names_nodup := (hperm.map (·.name)).nodup_iff.1 h.names_nodup
  sheets_nodup := ((Package.sheetNames_perm hperm o).map Text.lowercase).nodup_iff.1 h.sheets_nodup
  fields_fit t ht := h.fields_fit t (hperm.mem_iff.2 ht)
  fields_nodup t ht := h.fields_nodup t (hperm.mem_iff.2 ht)
  keys_sound t ht k hk := by
    obtain ⟨hnonempty, hlengths, target, htarget, hpairs⟩ := h.keys_sound t (hperm.mem_iff.2 ht) k hk
    exact ⟨hnonempty, hlengths, target, Package.table?_perm hperm h.names_nodup _ ▸ htarget, hpairs⟩
  fields_sound t ht := h.fields_sound t (hperm.mem_iff.2 ht)
  lists_fit := by
    rw [← List.toFinset_eq_of_perm _ _ ((Package.lists_perm hperm o).map EnumPool.Entry.key)]
    exact h.lists_fit
  acyclic a ha := h.acyclic a (Relation.TransGen.mono (fun _ _ => Package.refersTo_perm hperm) a a ha)

end Perm

/-! ### No sheet of lists -/

def Package.Unpooled (p : Package) (o : Options) : Prop :=
  ∀ t ∈ p.tables, ∀ f ∈ t.fields, ∀ values, f.constraints.enum = some values →
    needsEnumSheet o.profile f.type values = false

/-- What the fields of a table refer to, none of them to a list. -/
def Table.unpooled (t : Table) : List FieldResolution := t.fields.map fun f => ⟨(t.declaredLinks f.name).eraseDups, none⟩

namespace Package.Unpooled

variable {r : Resolution}

theorem perm (h : p.Unpooled o) (hperm : p.tables.Perm p'.tables) : p'.Unpooled o :=
  fun t ht => h t (hperm.mem_iff.2 ht)

theorem pooledList?_eq_none (h : p.Unpooled o) {t : Table} (ht : t ∈ p.tables) {f : Field} (hf : f ∈ t.fields) :
    EnumPool.pooledList? o.profile f = none := by
  rw [EnumPool.pooledList?, Option.filter_eq_none_iff]
  intro values hvalues
  rw [h t ht f hf values hvalues]
  exact Bool.false_ne_true

theorem lists_eq_nil (h : p.Unpooled o) : p.lists o = [] := by
  refine List.flatMap_eq_nil_iff.2 fun t ht => List.flatMap_eq_nil_iff.2 fun f hf => ?_
  rw [EnumPool.entered?, h.pooledList?_eq_none ht hf]
  rfl

theorem enumSheet_eq_none [Libraries] (h : p.Unpooled o) (hr : resolve p o = .ok r) : r.enumSheet = none := by
  obtain ⟨_, _, _, _, _, _, _, rfl⟩ := resolve_eq_ok_iff.1 hr
  have hsize := EnumPool.size_placeAll p o
  rw [h.lists_eq_nil] at hsize
  exact if_pos (by simpa using hsize)

private theorem eq_map_of_forall₂ {α β : Type} {R : α → β → Prop} {g : α → β} {xs : List α} {ys : List β}
    (h : List.Forall₂ R xs ys) (hg : ∀ x ∈ xs, ∀ y, R x y → y = g x) : ys = xs.map g := by
  induction h with
  | nil => rfl
  | cons hxy _ ih =>
    obtain ⟨hx, hxs⟩ := List.forall_mem_cons.1 hg
    rw [List.map_cons, ← ih hxs, ← hx _ hxy]

theorem sequence_perm [Libraries] (h : p.Unpooled o) (hr : resolve p o = .ok r) :
    (r.sequence p).Perm (p.tables.map fun t => (t, t.unpooled)) := by
  obtain ⟨_, hresolved⟩ := resolve_eq_ok hr
  have hrow : ∀ x ∈ r.sequence p, x = (x.1, x.1.unpooled) := by
    rintro ⟨t, rs⟩ hx
    obtain ⟨ht, hfields⟩ := hresolved.of_mem_sequence hx
    refine congrArg (t, ·) (eq_map_of_forall₂ hfields fun f hf res hfor => ?_)
    have hplaced := hfor.placed
    rw [EnumPool.Placed, h.pooledList?_eq_none ht hf] at hplaced
    rw [← hfor.links_eq, ← hplaced]
  have hsequence : r.sequence p = ((r.sequence p).map Prod.fst).map fun t => (t, t.unpooled) := by
    rw [List.map_map]
    exact ((List.map_congr_left fun x hx => (hrow x hx).symm).trans (List.map_id _)).symm
  rw [hsequence]
  exact hresolved.tables_perm.map _

end Package.Unpooled

theorem resolve_perm [Libraries] (hperm : p.tables.Perm p'.tables) (hunpooled : p.Unpooled o) {r : Resolution}
    (h : resolve p o = .ok r) : ∃ r', resolve p' o = .ok r' ∧ (r.sequence p).Perm (r'.sequence p') ∧
      r.enumSheet = none ∧ r'.enumSheet = none ∧ r.warnings.Perm r'.warnings := by
  obtain ⟨r', h'⟩ := exists_resolve_of_wellFormed ((wellFormed_of_resolve h).perm hperm)
  have hunpooled' := hunpooled.perm hperm
  refine ⟨r', h', ?_, hunpooled.enumSheet_eq_none h, hunpooled'.enumSheet_eq_none h', ?_⟩
  · exact (hunpooled.sequence_perm h).trans ((hperm.map _).trans (hunpooled'.sequence_perm h').symm)
  · rw [warnings_of_resolve h, warnings_of_resolve h']
    exact hperm.flatMap_right _

end SheetTemplate
