import SheetTemplate.Proofs.Compile.Obstacles
import SheetTemplate.Proofs.Emission.Order

/-!
# Where writing stops

A writer may fail at any call. Whatever the call was for, the calls before it have been made, it was the last to be
made, and the writer is left as that call left it. A recorder that refuses its `n`-th call then holds the `n - 1` calls
before, and one that is asked fewer than `n` times holds them all.
-/

namespace SheetTemplate

variable {ε σ : Type}

/-! ### Writing loop by loop -/

private theorem forM_flatMap {α β : Type} (f : β → EStateM ε σ Unit) (g : α → List β) (xs : List α) :
    forM (xs.flatMap g) f = forM xs fun x => forM (g x) f := by
  induction xs with
  | nil => rfl
  | cons x xs ih => rw [List.flatMap_cons, List.forM_append, ih, List.forM_cons]

/-- The calls of a template in a row are its lists, and then for each table one loop after another. -/
theorem Template.emit_eq (t : Template) (write : Writer ε σ) : t.emit write = (do
    forM t.enumSheet.toList fun lists => do
      write ⟨lists.name, .declare true⟩
      forM lists.columns.zipIdx fun (values, i) => write ⟨lists.name, .values (UInt16.ofNat i) 0 values⟩
    forM t.sheets fun s => do
      let sheet := s.layout.sheet
      write ⟨sheet, .declare false⟩
      forM s.layout.headers fun h =>
        write ⟨sheet, .header h.address h.text (h.comment.map (·.text)) s.layout.headerFormat⟩
      forM s.layout.columns fun c => write ⟨sheet, .width c.index c.width⟩
      forM s.layout.freeze.toList fun panes => write ⟨sheet, .freeze panes⟩
      forM s.layout.hidden.toList fun span => write ⟨sheet, .hide span⟩
      forM s.columns fun c => forM c.rule.toList fun rule => write ⟨sheet, .validation c.range rule⟩
      forM s.columns fun c => forM c.highlight.toList fun formula =>
        write ⟨sheet, .highlight c.range formula t.invalidFormat⟩) := by
  rw [emit, List.forM_eq_forM, calls, List.forM_append, forM_flatMap]
  congr 1
  · cases t.enumSheet with
    | none => rfl
    | some lists => simp [EnumSheet.calls, List.forM_map]
  · funext _
    congr 1
    funext s
    simp only [Sheet.calls, Sheet.actions, List.forM_map, List.forM_append, List.forM_cons, List.cons_append, List.map_cons,
      List.map_append, bind_assoc, List.map_map, Function.comp_def, List.filterMap_eq_flatMap_toList, forM_flatMap,
      Option.toList_map, List.map_flatMap]

/-! ### The call at which writing ends -/

/-- A writer with a list of the calls that were made to it, also of one that failed. -/
def Writer.watched (write : Writer ε σ) : Writer ε (σ × List Call) := fun call s =>
  match write call s.1 with
  | .ok () next => .ok () (next, s.2 ++ [call])
  | .error e next => .error e (next, s.2 ++ [call])

/-- Writing ends after the last call or at the first that fails. -/
inductive Writer.Ends (write : Writer ε σ) (s : σ) (made calls : List Call) : Prop
  | done (next : σ) (hplain : calls.forM write s = .ok () next)
    (hwatched : calls.forM write.watched (s, made) = .ok () (next, made ++ calls))
  | stopped (before after : List Call) (call : Call) (mid next : σ) (e : ε) (hcalls : calls = before ++ call :: after)
    (hbefore : before.forM write s = .ok () mid) (hcall : write call mid = .error e next)
    (hplain : calls.forM write s = .error e next)
    (hwatched : calls.forM write.watched (s, made) = .error e (next, made ++ (before ++ [call])))

theorem Writer.ends (write : Writer ε σ) (s : σ) (made calls : List Call) : write.Ends s made calls := by
  induction calls generalizing s made with
  | nil => exact .done s rfl (by rw [List.append_nil]; rfl)
  | cons call calls ih =>
    have hplain : (call :: calls).forM write s = (write call >>= fun _ => calls.forM write) s := rfl
    have hwatched : (call :: calls).forM write.watched (s, made) =
        (write.watched call >>= fun _ => calls.forM write.watched) (s, made) := rfl
    simp only [bind, EStateM.bind, watched] at hplain hwatched
    cases hcall : write call s with
    | error e next =>
      rw [hcall] at hplain hwatched
      exact .stopped [] calls call s next e rfl rfl hcall hplain hwatched
    | ok u mid =>
      -- The rest of the calls is made from the state that this call leaves, and this call stands in front of them.
      rw [hcall] at hplain hwatched
      cases ih mid (made ++ [call]) with
      | done next hrest hrestWatched =>
        refine .done next (hplain.trans hrest) (hwatched.trans (hrestWatched.trans ?_))
        rw [List.append_assoc]
        rfl
      | stopped before after last mid' next e hcalls hbefore hlast hrest hrestWatched =>
        refine .stopped (call :: before) after last mid' next e (congrArg (call :: ·) hcalls) ?_ hlast (hplain.trans hrest)
          (hwatched.trans (hrestWatched.trans ?_))
        · change (write call >>= fun _ => before.forM write) s = _
          simp only [bind, EStateM.bind, hcall]
          exact hbefore
        · rw [List.append_assoc]
          rfl

/-! ### Recorders that refuse a call -/

namespace Recorder

theorem record_eq_error {call : Call} {r r' : Recorder} {e : RefusedCall} (h : record call r = .error e r') :
    r.left = some 0 ∧ e = ⟨r.calls.length + 1⟩ ∧ r' = r := by
  obtain ⟨calls, left⟩ := r
  match left with
  | none => cases h
  | some 0 => cases h; exact ⟨rfl, rfl, rfl⟩
  | some (k + 1) => cases h

theorem forM_record_eq_ok {calls done : List Call} {k : Nat} {r : Recorder}
    (h : calls.forM record ⟨done, some k⟩ = .ok () r) :
    calls.length ≤ k ∧ r = ⟨calls.reverse ++ done, some (k - calls.length)⟩ := by
  induction calls generalizing done k with
  | nil =>
    cases h
    exact ⟨Nat.zero_le k, rfl⟩
  | cons call calls ih =>
    cases k with
    | zero => cases h
    | succ k =>
      obtain ⟨hlength, rfl⟩ := ih (show calls.forM record ⟨call :: done, some k⟩ = .ok () r from h)
      rw [List.length_cons, List.reverse_cons, List.append_assoc, Nat.add_sub_add_right]
      exact ⟨Nat.succ_le_succ hlength, rfl⟩

end Recorder

/-! ### Builds -/

variable {p : Package} {o : Options}

theorem build_of_compile_error [Libraries] {e : Error} (h : compile p o = .error e) (write : Writer ε σ) (s : σ) :
    build p o write s = .error (.compile e) s := by
  rw [build, h]
  rfl

theorem build_of_compile_ok [Libraries] {t : Template} (h : compile p o = .ok t) (write : Writer ε σ) (s : σ) :
    build p o write s = match t.emit write s with
      | .ok _ next => .ok t next
      | .error e next => .error (.write e) next := by
  rw [build, h]
  simp only [bind, EStateM.bind, EStateM.adaptExcept]
  cases t.emit write s <;> rfl

/-- Nothing is written of a package that does not compile. Of any other a recorder that refuses its `n`-th call has the
calls before, or all of them if there are fewer, and no call is made after one that is refused. -/
theorem build_stops_at_refusal [Libraries] (p : Package) (o : Options) (n : Nat) (hn : 1 ≤ n) :
    (∀ e, compile p o = .error e → ∀ (ε σ : Type) (write : Writer ε σ) (s : σ),
      build p o write s = .error (.compile e) s ∧
        build p o write.watched (s, []) = .error (.compile e) (s, [])) ∧
    ∀ t, compile p o = .ok t → ∃ all, build p o Recorder.record {} = .ok t all ∧
      (n ≤ all.toList.length → ∃ r, build p o Recorder.record { left := some (n - 1) } = .error (.write ⟨n⟩) r ∧
        build p o Recorder.record.watched ({ left := some (n - 1) }, []) = .error (.write ⟨n⟩) (r, all.toList.take n) ∧
        r.toList = all.toList.take (n - 1)) ∧
      (all.toList.length < n → ∃ r, build p o Recorder.record { left := some (n - 1) } = .ok t r ∧
        build p o Recorder.record.watched ({ left := some (n - 1) }, []) = .ok t (r, all.toList) ∧
        r.toList = all.toList) := by
  refine ⟨fun e he _ _ write s => ⟨build_of_compile_error he _ _, build_of_compile_error he _ _⟩, fun t ht => ?_⟩
  refine ⟨_, build_record_eq_ok.2 ⟨ht, rfl⟩, ?_⟩
  have hall : Recorder.toList ⟨t.calls.reverse, none⟩ = t.calls := List.reverse_reverse _
  rw [hall]
  simp only [build_of_compile_ok ht, Template.emit]
  rcases Recorder.record.ends { left := some (n - 1) } [] t.calls with
    ⟨r, hplain, hwatched⟩ | ⟨before, after, call, mid, r, e, hcalls, hbefore, hcall, hplain, hwatched⟩
  · obtain ⟨hlength, rfl⟩ := Recorder.forM_record_eq_ok hplain
    refine ⟨fun hle => by omega, fun _ => ⟨_, by rw [hplain], by rw [hwatched]; rfl, ?_⟩⟩
    simp [Recorder.toList]
  · obtain ⟨hlength, rfl⟩ := Recorder.forM_record_eq_ok hbefore
    obtain ⟨hleft, rfl, rfl⟩ := Recorder.record_eq_error hcall
    have hzero : n - 1 - before.length = 0 := Option.some.inj hleft
    have hn : n = before.length + 1 := by omega
    subst hn
    have hbeforeCalls : t.calls.take before.length = before := by rw [hcalls, List.take_left]
    have hmade : t.calls.take (before.length + 1) = before ++ [call] := by
      rw [hcalls, List.take_append, List.take_of_length_le (Nat.le_succ _), Nat.add_sub_cancel_left]
      rfl
    have hnumber : (before.reverse ++ []).length + 1 = before.length + 1 := by simp
    refine ⟨fun _ => ⟨_, by rw [hplain, hnumber], by rw [hwatched, hnumber, hmade]; rfl, ?_⟩, fun hlt => ?_⟩
    · rw [Nat.add_sub_cancel, hbeforeCalls]
      simp [Recorder.toList]
    · rw [hcalls, List.length_append, List.length_cons] at hlt
      omega

attribute [local instance] Libraries.plain in
/-- The shop takes twenty calls, so a recorder can refuse the thirteenth of them but not a hundredth. -/
theorem shop_stops_at_refusal : ∃ t all r full, compile shop online = .ok t ∧
    build shop online Recorder.record {} = .ok t all ∧ all.toList.length = 20 ∧
    build shop online Recorder.record.watched ({ left := some 12 }, []) = .error (.write ⟨13⟩) (r, all.toList.take 13) ∧
    r.toList = all.toList.take 12 ∧
    build shop online Recorder.record.watched ({ left := some 99 }, []) = .ok t (full, all.toList) ∧
    full.toList = all.toList := by
  have hcalls : (compile shop online).toOption.map (·.calls.length) = some 20 := by
    rw [compile, resolve_shop]
    decide +kernel
  obtain ⟨t, ht, hlength⟩ := Option.map_eq_some_iff.1 hcalls
  rw [toOption_eq_some] at ht
  obtain ⟨all, hall, hstops, _⟩ := (build_stops_at_refusal shop online 13 (by decide)).2 t ht
  obtain ⟨all', hall', _, hends⟩ := (build_stops_at_refusal shop online 100 (by decide)).2 t ht
  cases hall.symm.trans hall'
  rw [← (toList_of_build hall).2] at hlength
  obtain ⟨r, _, hr, hearlier⟩ := hstops (by omega)
  obtain ⟨full, _, hfull, hevery⟩ := hends (by omega)
  exact ⟨t, all, r, full, ht, hall, hlength, hr, hearlier, hfull, hevery⟩

end SheetTemplate
