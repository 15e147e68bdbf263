import SheetTemplate.Proofs.Failure

/-!
# The steps of a resolution

Resolution succeeds when each of its five checks does and fails with the error of the first that does not. The
checks are told apart here once, so what is proved about one of them need not mention the others.
-/

namespace SheetTemplate

/-- What a package resolves to, given its keys and the order of its tables. -/
def Package.resolution (p : Package) (o : Options) (keys : List (List ResolvedKey)) (order : List Nat) : Resolution :=
  let placed := EnumPool.placeAll o.profile p.tables .empty
  { order
    tables := (((p.tables.zip keys).map fun (t, keys) => t.fields.map (linksOf keys)).zip placed.1).map
      fun (links, columns) => links.zipWith FieldResolution.mk columns
    enumSheet := placed.2.sheet? o.enumSheet
    warnings := p.tables.flatMap fun t => t.fields.filterMap (formulaLike? t) }

variable [Libraries] {p : Package} {o : Options}

theorem resolve_eq (p : Package) (o : Options) : resolve p o = (do
    o.checkRows
    checkTables o p
    let keys ← p.tables.mapM (resolveTable p)
    let pooled := (EnumPool.placeAll o.profile p.tables .empty).2.lists.size
    refuseIf (o.profile.maxColumns.toNat < pooled)
      (.tooManyColumns o.enumSheet (UInt32.ofNat pooled) o.profile.maxColumns)
    let order ← (referenceGraph p keys).writeOrder
    return p.resolution o keys order) := rfl

theorem resolve_eq_ok_iff {r : Resolution} : resolve p o = .ok r ↔
    o.checkRows = .ok () ∧ checkTables o p = .ok () ∧ ∃ keys, p.tables.mapM (resolveTable p) = .ok keys ∧
      (EnumPool.placeAll o.profile p.tables .empty).2.lists.size ≤ o.profile.maxColumns.toNat ∧
      ∃ order, (referenceGraph p keys).writeOrder = .ok order ∧ p.resolution o keys order = r := by
  rw [resolve_eq]
  simp only [bind_eq_ok, refuseIf_eq_ok, pure_eq_ok, decide_eq_false_iff_not, Nat.not_lt, Unique.exists_iff,
    PUnit.default_eq_unit]

theorem warnings_of_resolve {r : Resolution} (h : resolve p o = .ok r) :
    r.warnings = p.tables.flatMap fun t => t.fields.filterMap (formulaLike? t) := by
  obtain ⟨_, _, _, _, _, _, _, rfl⟩ := resolve_eq_ok_iff.1 h
  rfl

theorem resolve_eq_error {e : Error} (h : resolve p o = .error e) :
    o.checkRows = .error e ∨ checkTables o p = .error e ∨ p.tables.mapM (resolveTable p) = .error e ∨
      (o.profile.maxColumns.toNat < (EnumPool.placeAll o.profile p.tables .empty).2.lists.size ∧
        e = .tooManyColumns o.enumSheet (UInt32.ofNat (EnumPool.placeAll o.profile p.tables .empty).2.lists.size)
          o.profile.maxColumns) ∨
      checkTables o p = .ok () ∧ ∃ keys, p.tables.mapM (resolveTable p) = .ok keys ∧
        (referenceGraph p keys).writeOrder = .error e := by
  rw [resolve_eq] at h
  rcases bind_eq_error.1 h with hrows | ⟨_, _, h⟩
  · exact .inl hrows
  rcases bind_eq_error.1 h with htables | ⟨_, htables, h⟩
  · exact .inr (.inl htables)
  rcases bind_eq_error.1 h with hkeys | ⟨keys, hkeys, h⟩
  · exact .inr (.inr (.inl hkeys))
  rcases bind_eq_error.1 h with hpool | ⟨_, _, h⟩
  · obtain ⟨hmany, rfl⟩ := refuseIf_eq_error.1 hpool
    exact .inr (.inr (.inr (.inl ⟨of_decide_eq_true hmany, rfl⟩)))
  rcases bind_eq_error.1 h with horder | ⟨_, _, h⟩
  · exact .inr (.inr (.inr (.inr ⟨htables, keys, hkeys, horder⟩)))
  · cases h

end SheetTemplate
