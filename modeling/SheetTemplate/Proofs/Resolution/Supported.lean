import SheetTemplate.Proofs.Column.Lists
import SheetTemplate.Proofs.Resolution.WellFormed

/-!
# Packages without unsupported constraints

A constraint that the platform cannot realize has no part in resolution, apart from being checked. Without it the
package resolves to the same tables, columns and lists, and nothing that is left is unsupported.
-/

namespace SheetTemplate

def Table.supported (p : Profile) (t : Table) : Table := { t with fields := t.fields.map (·.supported p) }

def Package.supported (profile : Profile) (p : Package) : Package := ⟨p.tables.map (·.supported profile)⟩

/-! ### What is left -/

namespace Constraints

variable {keeps : ConstraintKind → Bool}

theorem declares_keep (c : Constraints) (kind : ConstraintKind) :
    (c.keep keeps).declares kind = (c.declares kind && keeps kind) := by
  cases kind with
  | required | unique | foreignKey => rfl
  | minimum | maximum | minLength | maxLength | pattern | enum =>
    simp only [declares, keep]
    split <;> simp_all

private theorem ite_ite_self {α : Type} (b : Bool) (x : Option α) :
    (if b then if b then x else none else none) = if b then x else none := by
  cases b <;> rfl

theorem keep_keep (c : Constraints) : (c.keep keeps).keep keeps = c.keep keeps := by
  simp only [keep, Bool.and_assoc, Bool.and_self, ite_ite_self]

end Constraints

namespace Field

variable (p : Profile) (f : Field)

theorem unsupported_supported : (f.supported p).unsupported p = [] := by
  refine List.filter_eq_nil_iff.2 fun kind hkind => ?_
  obtain ⟨_, hdeclared⟩ := List.mem_filter.1 hkind
  rw [supported, Constraints.declares_keep, Bool.and_eq_true] at hdeclared
  change ¬(!(p.realize f.type kind).isSupported) = true
  simpa using hdeclared.2

theorem supported_supported : (f.supported p).supported p = f.supported p :=
  congrArg (fun c => ({ f with constraints := c } : Field)) f.constraints.keep_keep

variable {f}

theorem Sound.supported [Libraries] (h : f.Sound) : (f.supported p).Sound := by
  have hkept : ∀ {α : Type} {keeps : Bool} {x : Option α} {a : α}, (if keeps then x else none) = some a → x = some a := by
    intro α keeps x a hx
    cases keeps with
    | true => exact hx
    | false => cases hx
  exact {
    minimum_finite := fun _ hlow => h.minimum_finite _ (hkept hlow)
    maximum_finite := fun _ hhigh => h.maximum_finite _ (hkept hhigh)
    bounds_ordered := fun _ _ _ _ hlow hhigh => h.bounds_ordered _ _ _ _ (hkept hlow) (hkept hhigh)
    lengths_ordered := fun _ _ hlow hhigh => h.lengths_ordered _ _ (hkept hlow) (hkept hhigh)
    pattern_valid := fun _ hregex => h.pattern_valid _ (hkept hregex)
    enum_nonempty := fun hempty => h.enum_nonempty (hkept hempty)
    enum_typed := fun _ hvalues => h.enum_typed _ (hkept hvalues) }

end Field

/-! ### Resolving what is left -/

variable {p : Package} {o : Options}

theorem Table.field?_supported (profile : Profile) (t : Table) (name : String) :
    (t.supported profile).field? name = (t.field? name).map (·.supported profile) := List.find?_map

theorem Package.table?_supported (profile : Profile) (p : Package) (name : String) :
    (p.supported profile).table? name = (p.table? name).map (·.supported profile) := List.find?_map

theorem Package.tableIndex?_supported (profile : Profile) (p : Package) (name : String) :
    (p.supported profile).tableIndex? name = p.tableIndex? name := List.findIdx?_map

private theorem resolvePair_supported (profile : Profile) (t target : Table) (name : String) (pair : String × String) :
    resolvePair (t.supported profile) (target.supported profile) name pair = resolvePair t target name pair := by
  unfold resolvePair
  rw [Table.field?_supported, Table.field?_supported]
  cases t.field? pair.1 with
  | none => rfl
  | some f => cases target.field? pair.2 <;> rfl

private theorem resolveKey_supported (profile : Profile) (p : Package) (t : Table) (k : ForeignKey) :
    resolveKey (p.supported profile) (t.supported profile) k = resolveKey p t k := by
  have hname : (t.supported profile).name = t.name := rfl
  unfold resolveKey
  rw [hname]
  dsimp only
  rw [Package.tableIndex?_supported, Package.table?_supported]
  cases p.tableIndex? (k.reference.tableOr t.name) with
  | none => rfl
  | some index =>
    cases p.table? (k.reference.tableOr t.name) with
    | none => rfl
    | some target => simp only [Option.map_some, funext (resolvePair_supported profile t target _)]

theorem resolveTable_supported [Libraries] (profile : Profile) {t : Table} {keys : List ResolvedKey} (h : resolveTable p t = .ok keys) :
    resolveTable (p.supported profile) (t.supported profile) = .ok keys := by
  unfold resolveTable at h ⊢
  simp only [bind_eq_ok, pure_eq_ok] at h ⊢
  obtain ⟨ks, hkeys, _, hfields, rfl⟩ := h
  refine ⟨ks, ?_, (), ?_, rfl⟩
  · rw [← hkeys]
    exact congrArg (List.mapM · t.foreignKeys) (funext fun k => resolveKey_supported profile p t k)
  · refine forM_eq_ok.2 (List.forall_mem_map.2 fun f hf => ?_)
    exact checkConstraints_eq_ok.2 ((checkConstraints_eq_ok.1 (forM_eq_ok.1 hfields f hf)).supported profile)

theorem checkTables_supported (profile : Profile) (o : Options) (p : Package) :
    checkTables o (p.supported profile) = checkTables o p := by
  have hfields : ∀ t, checkFields o (t.supported profile) = checkFields o t := by
    intro t
    simp only [checkFields, Table.supported, List.length_map, List.map_map]
    rfl
  have htables : ∀ names sheets tables,
      checkTablesAfter o names sheets (tables.map (Table.supported profile)) = checkTablesAfter o names sheets tables := by
    intro names sheets tables
    induction tables generalizing names sheets with
    | nil => rfl
    | cons t rest ih =>
      simp only [List.map_cons, checkTablesAfter, hfields, ih]
      rfl
  simp only [checkTables, Package.supported, htables]

theorem placeAll_supported (o : Options) (tables : List Table) :
    EnumPool.placeAll o.profile (tables.map (·.supported o.profile)) = EnumPool.placeAll o.profile tables := by
  have hplace : EnumPool.place o.profile ∘ (·.supported o.profile) = EnumPool.place o.profile := by
    funext f
    unfold EnumPool.place
    rw [Function.comp, Field.enum_supported]
    rfl
  simp only [EnumPool.placeAll, List.mapM_map]
  refine congrArg (List.mapM · tables) (funext fun t => ?_)
  rw [Function.comp, Table.supported, List.mapM_map, hplace]

/-- Nothing that resolution finds out depends on an unsupported constraint. -/
theorem resolution_supported (p : Package) (o : Options) (keys : List (List ResolvedKey)) (order : List Nat) :
    (p.supported o.profile).resolution o keys order = p.resolution o keys order := by
  have hlinks : (((p.supported o.profile).tables.zip keys).map fun x => x.1.fields.map (linksOf x.2)) =
      (p.tables.zip keys).map fun x => x.1.fields.map (linksOf x.2) := by
    rw [Package.supported, List.zip_map_left, List.map_map]
    refine List.map_congr_left fun x _ => ?_
    exact List.map_map
  have hwarnings : ((p.supported o.profile).tables.flatMap fun t => t.fields.filterMap (formulaLike? t)) =
      p.tables.flatMap fun t => t.fields.filterMap (formulaLike? t) := by
    rw [Package.supported, List.flatMap_map]
    congr 1
    funext t
    rw [Table.supported, List.filterMap_map]
    congr 1
    funext f
    rw [Function.comp, formulaLike?, formulaLike?, Field.enum_supported]
    rfl
  simp only [Package.resolution, hlinks, hwarnings]
  rw [Package.supported, placeAll_supported]

theorem resolve_supported [Libraries] {r : Resolution} (h : resolve p o = .ok r) : resolve (p.supported o.profile) o = .ok r := by
  obtain ⟨hrows, htables, keys, hkeys, hlists, order, horder, rfl⟩ := resolve_eq_ok_iff.1 h
  have hgraph : referenceGraph (p.supported o.profile) keys = referenceGraph p keys := by
    simp only [referenceGraph, Package.supported, List.map_map]
    rfl
  refine resolve_eq_ok_iff.2 ⟨hrows, (checkTables_supported _ o p).trans htables, keys, ?_, ?_, order, hgraph ▸ horder,
    resolution_supported p o keys order⟩
  · rw [mapM_eq_ok, Package.supported, List.forall₂_map_left_iff]
    exact (mapM_eq_ok.1 hkeys).imp fun _ _ => resolveTable_supported _
  · rw [Package.supported, placeAll_supported]
    exact hlists

end SheetTemplate
