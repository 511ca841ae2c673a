import ScriptSplit.Proofs.Assembly.Expression

namespace ScriptSplit

namespace Node

theorem perm_field {n : Node} {f : String} :
    ((n.field? f).toList ++ n.parts.eraseP fun p => p.label.field == f).Perm n.parts := by
  cases hp : n.field? f with
  | none =>
      rw [List.eraseP_of_forall_not (List.find?_eq_none.mp hp)]
      rfl
  | some p =>
      obtain ⟨hfield, before, after, hparts, hbefore⟩ := List.find?_eq_some_iff_append.mp hp
      rw [hparts, List.eraseP_append_right _ (by simpa using hbefore), List.eraseP_cons, hfield, cond_true]
      change (p :: (before ++ after)).Perm (before ++ p :: after)
      exact List.perm_middle.symm

namespace ReadAs

open Fragment (expr stmt)

variable {n : Node} {R : Label → List Fragment → Prop} (hn : n.ReadAs R)

include hn

theorem block : Ensures n.block fun b => n.Yields R [.block b] :=
  (hn.each (·.statement)).bind fun _ hss => .ok (hss.form rfl rfl trivial)

theorem declarator : Ensures n.declarator fun d => n.Yields R [.declarator d] := by
  refine (hn.required (·.pattern)).bind fun t ht => (hn.optional (·.expression)).bind fun o ho => ?_
  exact .ok ((ht.append ho).form (by decide) rfl rfl trivial)

theorem declaration : Ensures n.declaration fun v => n.Yields R [.variables v] := by
  have hkind : Ensures n.variablesKind fun _ => True := fun _ _ => trivial
  refine hkind.bind fun kind _ => (hn.among (·.declarator) ?_).bind fun ds hds => ?_
  · exact List.filter_sublist.trans List.filter_sublist
  · exact .ok (hds.form rfl rfl trivial)

theorem ambient : Ensures n.ambient fun x => n.Yields R [stmt x] := by
  unfold Node.ambient
  split
  · rename_i p ps hnamed
    have hp : p ∈ n.parts := mem_parts_of_named (hnamed ▸ List.mem_cons_self)
    split
    · exact (hn.part hp).declaration.bind fun _ hv => .ok (hv.step (.stand rfl rfl rfl trivial))
    · exact .ok (.leaf rfl rfl rfl trivial)
  · exact .ok (.leaf rfl rfl rfl trivial)

theorem expressionStatement : Ensures n.expressionStatement fun x => n.Yields R [stmt x] := by
  refine ensures_first.bind fun p hp => ?_
  split
  · exact .ok (.leaf rfl rfl rfl trivial)
  · exact (hn.part hp).expression.bind fun _ he => .ok (he.form rfl rfl trivial)

theorem ifElse : Ensures n.ifElse fun x => n.Yields R [stmt x] := by
  refine (hn.optional (·.innerStatement)).bind fun a ha => ?_
  refine (hn.required (·.condition)).bind fun t ht => (hn.required (·.statement)).bind fun c hc => ?_
  exact .ok (((ht.append hc).append ha).form (by decide) rfl rfl trivial)

theorem labeled : Ensures n.labeled fun x => n.Yields R [stmt x] := by
  unfold Node.labeled
  split
  · rename_i p hp
    have hbody : Ensures (pure p : Lift Part) fun q => q ∈ n.parts := .ok (field_eq_some hp).1
    exact hbody.bind fun _ hq => (hn.part hq).statement.bind fun _ hx => .ok (hx.form rfl rfl trivial)
  · have hlast : Ensures (n.orNoChild n.named.getLast?) fun q => q ∈ n.parts :=
      fun _ h => mem_parts_of_named (List.mem_of_getLast? (orNoChild_eq_ok.mp h))
    exact hlast.bind fun _ hq => (hn.part hq).statement.bind fun _ hx => .ok (hx.form rfl rfl trivial)

theorem ret : Ensures n.ret fun x => n.Yields R [stmt x] := by
  unfold Node.ret
  split
  · exact .ok (.leaf rfl rfl rfl trivial)
  · rename_i p ps hnamed
    have hp : p ∈ n.parts := mem_parts_of_named (hnamed ▸ List.mem_cons_self)
    exact (hn.part hp).expression.bind fun _ he => .ok (he.form rfl rfl trivial)

theorem throwing : Ensures n.throwing fun x => n.Yields R [stmt x] :=
  ensures_first.bind fun _ hp => (hn.part hp).expression.bind fun _ he => .ok (he.form rfl rfl trivial)

theorem case : Ensures n.case fun c => n.Yields R [.case c] := by
  unfold Node.case
  split
  · refine (hn.makes (·.statement) ?_).bind fun ss hss => ?_
    · exact List.Subset.trans (List.filter_subset_self _) List.eraseP_subset
    refine (hn.makesOptional (·.expression)).bind fun o ho => .ok ?_
    have hparts : n.Yields R (o.toList.map .expr ++ ss.map .stmt) := by
      refine ⟨_, .inr ?_, ho.append hss⟩
      rw [← List.map_append]
      exact ((List.filter_sublist.append_left _).map _).subperm.trans (perm_field.map _).subperm
    exact hparts.form rfl rfl trivial
  · exact (hn.each (·.statement)).bind fun _ hss => .ok (hss.form rfl rfl trivial)

theorem switch : Ensures n.switch fun x => n.Yields R [stmt x] := by
  refine (hn.listed (·.cases)).bind fun cs hcs => (hn.required (·.condition)).bind fun d hd => ?_
  exact .ok ((hd.append hcs).form (by decide) rfl rfl trivial)

theorem handler : Ensures n.handler fun h => n.Yields R [.handler h] := by
  refine (hn.optional (·.pattern)).bind fun o ho => (hn.required (·.block)).bind fun b hb => ?_
  exact .ok ((ho.append hb).form (by decide) rfl rfl trivial)

theorem tryCatch : Ensures n.tryCatch fun x => n.Yields R [stmt x] := by
  refine (hn.optional (·.handler)).bind fun h hh => (hn.optional (·.bodyBlock)).bind fun f hf => ?_
  refine (hn.required (·.block)).bind fun b hb => ?_
  exact .ok ((hb.append (hh.append hf)).form (by decide) rfl rfl trivial)

theorem whileLoop : Ensures n.whileLoop fun x => n.Yields R [stmt x] := by
  refine (hn.required (·.condition)).bind fun t ht => (hn.required (·.statement)).bind fun b hb => ?_
  exact .ok ((ht.append hb).form (by decide) rfl rfl trivial)

theorem doWhile : Ensures n.doWhile fun x => n.Yields R [stmt x] := by
  refine (hn.required (·.statement)).bind fun b hb => (hn.required (·.condition)).bind fun t ht => ?_
  exact .ok ((hb.append ht).form (by decide) rfl rfl trivial)

theorem withObject : Ensures n.withObject fun x => n.Yields R [stmt x] := by
  refine (hn.required (·.condition)).bind fun o ho => (hn.required (·.statement)).bind fun b hb => ?_
  exact .ok ((ho.append hb).form (by decide) rfl rfl trivial)

theorem head : Ensures n.head fun o => n.Yields R (o.toList.map Head.fragment) := by
  have hvariables : Ensures (do return some (Head.declare (← n.declaration)))
      fun o => n.Yields R (o.toList.map Head.fragment) := hn.declaration.bind fun _ hv => .ok hv
  unfold Node.head
  split
  · exact .ok .nil
  · exact hn.inner.bind fun _ he => .ok (he.step (.stand rfl rfl rfl trivial))
  · exact hvariables
  · exact hvariables
  · exact hn.expression.bind fun _ he => .ok (he.step (.stand rfl rfl rfl trivial))

theorem clause {f : String} : Ensures (n.clause f) fun o => n.From R [f] (o.toList.map Head.fragment) := by
  unfold Node.clause
  split
  · exact .ok .nil
  · rename_i p ps hfields
    obtain ⟨hnamed, hf⟩ := List.mem_filter.mp (hfields ▸ List.mem_cons_self : p ∈ n.fields f)
    have hp := mem_parts_of_named hnamed
    exact (hn p hp).head.mono fun _ ho => .under hp (by simpa using hf) (.part hp ho)

omit hn in
theorem test {f : String} {o : Option Head} (h : n.From R [f] (o.toList.map Head.fragment)) :
    n.From R [f] ((Node.test? o).toList.map .expr) := by
  unfold Node.test?
  split
  · exact h.step (.target _)
  · exact .nil

theorem forLoop : Ensures n.forLoop fun x => n.Yields R [stmt x] := by
  refine hn.clause.bind fun i hi => hn.clause.bind fun t ht => ?_
  refine (hn.optional (·.expression)).bind fun u hu => (hn.required (·.statement)).bind fun b hb => ?_
  exact .ok ((((hi.append (test ht)).append hu).append hb).form (by decide) rfl rfl trivial)

theorem enumerated (hloop : n.kind = "for_in_statement") :
    Ensures n.enumerated fun h => n.From R ["left", "value"] h.loopFragments := by
  refine ensures_field.bind fun l hl => ?_
  split
  · refine (hn.field hl).pattern.bind fun t ht => .ok (ht.weaken ?_)
    exact List.sublist_append_left _ _
  · rename_i k hk
    refine (hn l (field_eq_some hl).1).pattern.bind fun t ht => ?_
    refine (hn.optional (·.expression)).bind fun o ho => ?_
    have hvariables : n.From R ["left"] [.loopVariables (n.headerVariables k l t o)] :=
      .field hl (.header o hloop hk hl ht)
    have hinit : (n.headerVariables k l t o).initializers = o.toList := by cases o <;> rfl
    rw [← hinit] at ho
    exact .ok (hvariables.append ho)

theorem forEach (hloop : n.kind = "for_in_statement") : Ensures n.forEach fun x => n.Yields R [stmt x] := by
  refine (hn.enumerated hloop).bind fun h hh => ?_
  refine (hn.required (·.expression)).bind fun r hr => (hn.required (·.statement)).bind fun b hb => ?_
  split
  · exact .ok ((hh.append (hr.append hb)).form (by decide) rfl rfl trivial)
  · exact .ok ((hh.append (hr.append hb)).form (by decide) rfl rfl trivial)

theorem functionDecl : Ensures n.functionDecl fun x => n.Yields R [stmt x] := by
  refine (hn.listed (·.parameters)).bind fun ps hps => hn.functionBody.bind fun b hb => ?_
  exact .ok (((optionalIdent.append hps).append hb).form (by decide) rfl rfl trivial)

omit hn in
theorem innerIdent : Ensures n.innerIdent fun i => n.Yields R [.name i] :=
  ensures_first.bind fun _ hp => .ok (.wordOf hp .name)

omit hn in
theorem importName {i : Ident} (h : n.Yields R [.name i]) (typeOnly : Bool) :
    n.Yields R ([⟨n.span, i, typeOnly⟩].map Fragment.importName) :=
  h.form rfl rfl trivial

theorem importedAmong {ps : List Part} (hps : ps.Sublist n.parts) :
    Ensures (do return (← ps.mapM fun p => p.reads.imported).flatten)
      fun is => n.Yields R (is.map .importName) := by
  have hread : ∀ p ∈ ps, Ensures p.reads.imported fun is => n.Makes R [p.label] (is.map .importName) :=
    fun p hp => (hn p (hps.subset hp)).imported.mono fun _ his => .part (hps.subset hp) his
  refine (Makes.mapM hread).bind fun iss hiss => .ok ?_
  rw [List.map_flatten, ← List.flatMap_def]
  exact hiss.yields hps

theorem imported : Ensures n.imported fun is => n.Yields R (is.map .importName) := by
  unfold Node.imported
  split
  · exact .ok (importName (.word .name) false)
  · exact innerIdent.bind fun _ hi => .ok (importName hi false)
  · split
    · rename_i p hp
      exact .ok (importName (.wordOf (field_eq_some hp).1 .name) _)
    · exact ensures_field.bind fun p hp => .ok (importName (.wordOf (field_eq_some hp).1 .name) _)
  · exact hn.importedAmong (List.filter_sublist.trans List.filter_sublist)
  · exact hn.importedAmong (List.filter_sublist.trans List.filter_sublist)
  · exact .ok .nil

theorem importClauses {ps : List Part} (hps : ps ⊆ n.parts) :
    Ensures (Node.importClauses ps) fun c => ∃ ls, ls.Sublist (ps.map Part.label) ∧
      n.Makes R ls (c.elim (fun is => is.map .importName) (fun i => [.name i])) := by
  induction ps with
  | nil => exact .ok ⟨[], .refl _, .nil⟩
  | cons p ps ih =>
      have hp : p ∈ n.parts := hps List.mem_cons_self
      have hrest := ih fun q hq => hps (List.mem_cons_of_mem _ hq)
      unfold Node.importClauses
      split
      · refine (hn p hp).innerIdent.map fun i hi => ?_
        exact ⟨[p.label], (List.nil_sublist _).cons_cons _, .part hp hi⟩
      split
      · refine (hn p hp).imported.bind fun is his => hrest.bind fun c hc => ?_
        obtain ⟨ls, hls, hc⟩ := hc
        cases c with
        | inl more =>
            refine .ok ⟨p.label :: ls, hls.cons_cons _, ?_⟩
            rw [Sum.elim_inl, List.map_append]
            exact (Makes.part hp his).append hc
        | inr name => exact .ok ⟨ls, hls.cons _, hc⟩
      · refine hrest.bind fun c hc => ?_
        obtain ⟨ls, hls, hc⟩ := hc
        cases c with
        | inl more => exact .ok ⟨ls, hls.cons _, hc⟩
        | inr name => exact .ok ⟨ls, hls.cons _, hc⟩

theorem importStatement : Ensures n.importStatement fun x => n.Yields R [stmt x] := by
  have hparts : n.named.Sublist n.parts := List.filter_sublist
  refine (hn.importClauses hparts.subset).bind fun c hc => ?_
  obtain ⟨ls, hls, hc⟩ := hc
  have hyields : n.Yields R _ := ⟨ls, .inr (hls.trans (hparts.map _)).subperm, hc⟩
  cases c with
  | inl is => exact .ok (hyields.form rfl rfl trivial)
  | inr i => exact .ok (hyields.form rfl rfl trivial)

theorem enumMember : Ensures n.enumMember fun m => n.Yields R [.enumMember m] := by
  unfold Node.enumMember
  split
  · refine ensures_field.bind fun p _ => (hn.optional (·.expression)).bind fun o ho => ?_
    exact .ok (ho.form (by decide) rfl rfl trivial)
  · exact .ok (.leaf rfl rfl rfl trivial)

theorem enumDecl : Ensures n.enumDecl fun x => n.Yields R [stmt x] := by
  refine (hn.listed (·.enumMembers)).bind fun ms hms => ensures_field.bind fun p hp => ?_
  have hname : n.From R ["name"] [.name (n.identOf p)] := .field hp (.wordOf (field_eq_some hp).1 .name)
  exact .ok ((hname.append hms).form (by decide) rfl rfl trivial)

theorem statementForm : Ensures n.statementForm fun x => n.Yields R [stmt x] := by
  unfold Node.statementForm
  split
  case h_1 => exact hn.expressionStatement
  case h_2 | h_3 => exact hn.declaration.bind fun _ hv => .ok (hv.step (.stand rfl rfl rfl trivial))
  case h_4 => exact hn.block.bind fun _ hb => .ok (hb.step (.stand rfl rfl rfl trivial))
  case h_9 => exact hn.ifElse
  case h_10 => exact hn.labeled
  case h_11 => exact hn.ret
  case h_12 => exact hn.throwing
  case h_13 => exact hn.switch
  case h_14 => exact hn.tryCatch
  case h_15 => exact hn.whileLoop
  case h_16 => exact hn.doWhile
  case h_17 => exact hn.withObject
  case h_18 => exact hn.forLoop
  case h_19 hloop => exact hn.forEach hloop
  case h_20 | h_21 => exact hn.functionDecl
  case h_22 | h_23 => exact .ok (optionalIdent.form (by decide) rfl rfl trivial)
  case h_24 => exact hn.importStatement
  case h_25 => exact innerIdent.bind fun _ hi => .ok (hi.form rfl rfl trivial)
  case h_26 =>
    exact (hn.optional (·.statement)).bind fun _ ho => .ok (ho.form (by decide) rfl rfl trivial)
  case h_27 => exact hn.enumDecl
  all_goals exact .ok (.leaf rfl rfl rfl trivial)

theorem statement : Ensures n.statement fun x => n.Yields R [stmt x] := by
  unfold Node.statement
  split
  · exact .ok (.leaf rfl rfl rfl trivial)
  split
  · exact hn.ambient
  · exact hn.statementForm

theorem read : n.read.Gives (n.Yields R) where
  statement := hn.statement
  expression := hn.expression
  pattern := hn.pattern
  block := hn.block
  inner := hn.inner
  innerPattern := hn.innerPattern
  innerStatement := ensures_first.bind fun _ hp => (hn.part hp).statement
  innerIdent := innerIdent
  condition := hn.condition
  element := hn.element
  elements := hn.each (·.element)
  key := hn.key
  parameter := hn.parameter
  parameters := hn.parameters
  member := hn.member
  entry := hn.entry
  declarator := hn.declarator
  declaration := hn.declaration
  head := hn.head
  case := hn.case
  cases := hn.each (·.case)
  handler := hn.handler
  bodyBlock := (hn.required (·.block)).mono fun _ hb => hb.yields (by decide)
  enumMember := hn.enumMember
  enumMembers := hn.each (·.enumMember)
  imported := hn.imported

end ReadAs

end Node

namespace Tree

variable {s : Source} {R : Label → List Fragment → Prop} {Q : Node → Prop} {t : Tree}
  (step : ∀ n : Node, n.source = s → Q n → ∀ xs, n.Yields R xs → R n.label xs)
  (h : ∀ u ∈ t.subtrees, Q (u.readNode s))

include step h

/-- What passes from the parts of each node to all that is made at it holds of all that a tree is read
as. -/
theorem part_gives : (t.part s).reads.Gives (R (t.part s).label) := by
  refine part_induction (P := fun l r => r.Gives (R l)) (Q := Q) ?_ t h
  intro n hsource hn hparts
  exact (Node.ReadAs.read hparts).mono (step n hsource hn)

theorem program_yields : Ensures (t.program s) fun p => (t.readNode s).Yields R [.program p] := by
  have hparts : (t.readNode s).ReadAs R := by
    intro p hp
    obtain ⟨c, hc, rfl⟩ := mem_parts_readNode.mp hp
    exact part_gives step fun u hu => h u (mem_subtrees_child hc hu)
  exact (hparts.each (·.statement)).bind fun _ hss => .ok (hss.form rfl rfl trivial)

end Tree

end ScriptSplit
