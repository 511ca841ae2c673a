import ScriptSplit.Proofs.Draft
import ScriptSplit.Proofs.Drawing

namespace ScriptSplit

open Item (idents)

theorem Stmt.entryCall?_eq_some {entry : String} {x : Stmt} {c : EntryCall}
    (h : x.entryCall? entry = some c) :
    ∃ callee optional, x = .expr c.statement (.call c.call callee c.arguments optional) := by
  unfold Stmt.entryCall? at h
  split at h
  · split at h
    · cases h
      exact ⟨_, _, rfl⟩
    · cases h
  · cases h

theorem findEntry_eq_some {entry : String} {xs : List Stmt} {k : Nat} {c : EntryCall}
    (h : findEntry entry xs = some (k, c)) : ∃ x, xs[k]? = some x ∧ x.entryCall? entry = some c := by
  induction xs generalizing k with
  | nil => cases h
  | cons x xs ih =>
      unfold findEntry at h
      split at h
      · rename_i c' hc
        cases h
        exact ⟨x, rfl, hc⟩
      · obtain ⟨⟨k', c'⟩, hrest, h⟩ := Option.map_eq_some_iff.mp h
        cases h
        exact ih hrest

theorem EntryCall.argument_mem {entry : String} {c : EntryCall} {a : Expr}
    (h : c.argument entry = .ok a) : a ∈ c.arguments := by
  unfold EntryCall.argument at h
  split at h
  · cases h
  · cases h
  · rename_i e es _ heq
    cases h
    rw [heq]
    exact List.mem_cons_self

theorem Program.locate_eq_ok {entry : String} {code : Text} {p : Program} {e : EntryPoint}
    (h : p.locate entry code = .ok e) :
    ∃ c, findEntry entry p.body = some (e.index, c) ∧ c.argument entry = .ok e.argument ∧
      e.call = c.call ∧ e.others = p.body.eraseIdx e.index ∧
      (Draft.ofText code).remove c.statement.start c.statement.stop = .ok e.localsDraft ∧
      cutAround code c.call = .ok e.mainDraft := by
  unfold Program.locate at h
  split at h
  · cases h
  · rename_i k c hfind
    obtain ⟨a, ha, h⟩ := bind_eq_ok.mp h
    obtain ⟨locals, hlocals, h⟩ := bind_eq_ok.mp h
    obtain ⟨main, hmain, h⟩ := bind_eq_ok.mp h
    cases h
    exact ⟨c, hfind, mapError_eq_ok.mp ha, rfl, rfl, mapError_eq_ok.mp hlocals,
      mapError_eq_ok.mp hmain⟩

theorem cutAround_eq {code : Text} {sp : Span} {a b : Nat} (ha : sp.start = a) (hb : sp.stop = b)
    (hab : a ≤ b) (hlen : b ≤ code.length) :
    cutAround code sp =
      .ok ⟨code, Draft.deletion 0 a ++ Draft.deletion b code.length, []⟩ := by
  unfold cutAround
  rw [ha, hb]
  refine bind_eq_ok.mpr ⟨_, (Draft.remove_eq_ok (Nat.zero_le a) (Nat.le_trans hab hlen)).mpr ⟨?_, rfl⟩,
    (Draft.remove_eq_ok hlen (Nat.le_refl _)).mpr ⟨?_, ?_⟩⟩
  · simp [Draft.ofText]
  · intro e he f hf
    obtain ⟨hne, rfl⟩ := Draft.mem_deletion.mp he
    obtain ⟨_, rfl⟩ := Draft.mem_deletion.mp hf
    exact symm (Edit.compatible_of_stop_le hab (.inr (Nat.lt_of_le_of_ne hlen hne)))
  · simp [Draft.ofText]

theorem sound_cutAround {code : Text} {sp : Span} {d : Draft} (h : cutAround code sp = .ok d) :
    d.Sound := by
  obtain ⟨d₁, hbefore, hafter⟩ := bind_eq_ok.mp h
  exact ((Draft.sound_ofText code).remove hbefore).remove hafter

structure EntryCall.Placed (code : Text) (c : EntryCall) : Prop where
  statement : c.statement.Inside code.span
  call : c.call.Inside c.statement
  arguments : ∀ a ∈ c.arguments, a.span.Inside c.call

section

variable {code : Text} {t : Tree} {p : Program} {entry : String} {k : Nat} {c : EntryCall}

theorem exists_of_findEntry (hread : readScript code t = .ok p)
    (hfind : findEntry entry p.body = some (k, c)) :
    ∃ u ∈ t.subtrees, ∃ callee optional, (u.part (Source.ofText code)).reads.statement =
      .ok (.expr c.statement (.call c.call callee c.arguments optional)) := by
  obtain ⟨x, hx, hentry⟩ := findEntry_eq_some hfind
  obtain ⟨callee, optional, rfl⟩ := Stmt.entryCall?_eq_some hentry
  obtain ⟨u, hu, hstatement⟩ := exists_of_readScript hread (List.mem_of_getElem? hx)
  exact ⟨u, Tree.mem_subtrees_child hu u.mem_subtrees_self, callee, optional, hstatement⟩

theorem EntryCall.placed (hnested : t.Nested code) (hread : readScript code t = .ok p)
    (hfind : findEntry entry p.body = some (k, c)) : c.Placed code := by
  obtain ⟨u, hu, callee, optional, hstatement⟩ := exists_of_findEntry hread hfind
  have hseated := ((hnested.subtree hu).seated (Source.ofText code)).statement _ hstatement
  obtain ⟨sp, hinside, hcall⟩ := hseated.value _ _ rfl
  obtain rfl : c.call = sp := hcall.span
  exact ⟨hseated.span.trans (hnested.span_inside hu), hinside, hcall.arguments _ _ _ _ rfl⟩

theorem exists_of_argument (hread : readScript code t = .ok p)
    (hfind : findEntry entry p.body = some (k, c)) {a : Expr} (ha : a ∈ c.arguments) :
    ∃ u ∈ t.subtrees, (u.part (Source.ofText code)).reads.element = .ok a := by
  obtain ⟨u, hu, callee, optional, hstatement⟩ := exists_of_findEntry hread hfind
  rw [Tree.part_eq] at hstatement
  obtain ⟨_, hp, hexpression⟩ := Node.expression_of_statement hstatement
  obtain ⟨v, hv, rfl⟩ := Tree.mem_parts_readNode.mp hp
  rw [Tree.part_eq] at hexpression
  obtain ⟨_, hq, helements⟩ := Node.exists_of_call (Node.call_of_expression hexpression) ha
  obtain ⟨w, hw, rfl⟩ := Tree.mem_parts_readNode.mp hq
  rw [Tree.part_eq] at helements
  obtain ⟨_, hr, helement⟩ := exists_of_mapM_eq_ok helements ha
  obtain ⟨x, hx, rfl⟩ := Tree.mem_parts_readNode.mp (Node.mem_parts_of_named hr)
  refine ⟨x, ?_, helement⟩
  have hxw := Tree.mem_subtrees_child hx x.mem_subtrees_self
  have hxv := Tree.mem_subtrees_child hw hxw
  exact Tree.mem_subtrees_trans (Tree.mem_subtrees_child hv hxv) hu

theorem EntryCall.argument_draws (hnested : t.Nested code) (hapart : t.Apart)
    (hread : readScript code t = .ok p) (hfind : findEntry entry p.body = some (k, c)) {a : Expr}
    (ha : a ∈ c.arguments) (legacy : Bool) : code.Draws a.span (idents (a.outline legacy)) := by
  obtain ⟨u, hu, helement⟩ := exists_of_argument hread hfind ha
  have hspan := ((hnested.subtree hu).seated (Source.ofText code)).element a helement
  rw [hspan]
  exact (Tree.part_draws (hnested.subtree hu) (hapart.subtree hu) (Source.ofText code) legacy).element
    a helement _ (Fragment.Picks.expr legacy a)

end

end ScriptSplit
