import ScriptSplit.Proofs.Assembly.Basic

namespace ScriptSplit.Node.ReadAs

open Fragment (expr)

variable {n : Node} {R : Label → List Fragment → Prop} (hn : n.ReadAs R)

theorem optionalIdent {f : String} : n.From R [f] ((n.optionalIdent f).toList.map .name) := by
  unfold Node.optionalIdent
  cases hp : n.field? f with
  | none => exact .nil
  | some p => exact .field hp (.wordOf (field_eq_some hp).1 .name)

include hn

theorem functionBody : Ensures n.functionBody fun b => n.From R ["body"] [.block b] := by
  unfold Node.functionBody
  split
  · have hend : n.Nests → (⟨n.span.stop, n.span.stop, n.span.line, n.span.column⟩ : Span).Inside n.span :=
      fun hnests => ⟨hnests.order, Int.le_refl _, Int.le_refl _⟩
    exact .ok (.plain hend rfl rfl trivial)
  · rename_i p hp
    exact (hn.field hp).block

theorem template : Ensures n.template fun e => n.Yields R [expr e] :=
  (hn.among (·.inner) (List.filter_sublist.trans List.filter_sublist)).bind fun _ hes =>
    .ok (hes.form rfl rfl trivial)

theorem functionExpr : Ensures n.functionExpr fun e => n.Yields R [expr e] := by
  refine (hn.listed (·.parameters)).bind fun ps hps => hn.functionBody.bind fun b hb => ?_
  exact .ok (((optionalIdent.append hps).append hb).form (by decide) rfl rfl trivial)

theorem arrowBody : Ensures n.arrowBody fun b => n.From R ["body"] [b.fragment] := by
  refine ensures_field.bind fun p hp => ?_
  split
  · exact (hn.field hp).block.bind fun _ hb => .ok hb
  · exact (hn.field hp).expression.bind fun _ he => .ok he

theorem arrow : Ensures n.arrow fun e => n.Yields R [expr e] := by
  unfold Node.arrow
  split
  · rename_i p hp
    have hident : n.From R ["parameter"] [expr (.ident (n.identOf p))] :=
      .field hp (.wordOf (field_eq_some hp).1 .ident)
    have hparameter : Ensures (pure [Pattern.expr (.ident (n.identOf p))])
        fun ps => n.From R ["parameter"] (ps.map .pattern) :=
      .ok (hident.step (.stand rfl rfl rfl trivial))
    refine hparameter.bind fun ps hps => hn.arrowBody.bind fun b hb => ?_
    exact .ok ((hps.append hb).form (by decide) rfl rfl trivial)
  · refine (hn.listed (·.parameters)).bind fun ps hps => hn.arrowBody.bind fun b hb => ?_
    exact .ok ((hps.append hb).form (by decide) rfl rfl trivial)

theorem callee : Ensures n.callee fun e => n.From R ["function"] [expr e] := by
  refine ensures_field.bind fun p hp => ?_
  split
  · exact .ok (.plain (fun hnests => hnests.inside p (field_eq_some hp).1) rfl rfl trivial)
  · exact (hn.field hp).expression

theorem call : Ensures n.call fun e => n.Yields R [expr e] := by
  refine hn.callee.bind fun c hc => ?_
  split
  · exact .ok (hc.form (by decide) rfl rfl trivial)
  · rename_i p hp
    split
    · exact (hn.field hp).expression.bind fun q hq =>
        .ok ((hc.append hq).form (by decide) rfl rfl trivial)
    · exact (hn.field hp).elements.bind fun es hes =>
        .ok ((hc.append hes).form (by decide) rfl rfl trivial)

theorem newExpr : Ensures n.newExpr fun e => n.Yields R [expr e] := by
  refine (hn.required (·.expression)).bind fun c hc => (hn.listed (·.elements)).bind fun es hes => ?_
  exact .ok ((hc.append hes).form (by decide) rfl rfl trivial)

theorem memberExpr : Ensures n.memberExpr fun e => n.Yields R [expr e] := by
  refine ensures_field.bind fun p hp => (hn.required (·.expression)).bind fun o ho => ?_
  have hname : n.From R ["property"] [expr (n.memberName p)] ∧ (n.memberName p).isKey = true := by
    unfold memberName
    split
    · exact ⟨.field hp (.wordOf (field_eq_some hp).1 .privateName), rfl⟩
    · exact ⟨.field hp (.wordOf (field_eq_some hp).1 .ident), rfl⟩
  exact .ok ((ho.append hname.1).form (by decide) rfl rfl (.inr hname.2))

theorem subscript : Ensures n.subscript fun e => n.Yields R [expr e] := by
  refine (hn.required (·.expression)).bind fun o ho => (hn.required (·.expression)).bind fun i hi => ?_
  exact .ok ((ho.append hi).form (by decide) rfl rfl (.inl rfl))

theorem unary : Ensures n.unary fun e => n.Yields R [expr e] :=
  (hn.required (·.expression)).bind fun _ he => .ok (he.form (by decide) rfl rfl trivial)

theorem update : Ensures n.update fun e => n.Yields R [expr e] :=
  (hn.required (·.expression)).bind fun _ he => .ok (he.form (by decide) rfl rfl trivial)

theorem binary : Ensures n.binary fun e => n.Yields R [expr e] := by
  refine ensures_field.bind fun p hp => ?_
  have hleft : Ensures (pure (Expr.privateName (n.identOf p))) fun e => n.From R ["left"] [expr e] :=
    .ok (.field hp (.wordOf (field_eq_some hp).1 .privateName))
  split
  · refine hleft.bind fun l hl => (hn.required (·.expression)).bind fun r hr => ?_
    exact .ok ((hl.append hr).form (by decide) rfl rfl trivial)
  · refine (hn.field hp).expression.bind fun l hl => (hn.required (·.expression)).bind fun r hr => ?_
    exact .ok ((hl.append hr).form (by decide) rfl rfl trivial)

theorem assignment : Ensures n.assignment fun e => n.Yields R [expr e] := by
  refine (hn.required (·.pattern)).bind fun l hl => (hn.required (·.expression)).bind fun r hr => ?_
  exact .ok ((hl.append hr).form (by decide) rfl rfl trivial)

theorem conditional : Ensures n.conditional fun e => n.Yields R [expr e] := by
  refine (hn.required (·.expression)).bind fun t ht => ?_
  refine (hn.required (·.expression)).bind fun c hc => (hn.required (·.expression)).bind fun a ha => ?_
  exact .ok (((ht.append hc).append ha).form (by decide) rfl rfl trivial)

theorem operands {p : Part} (hp : p ∈ n.parts) : Ensures (do
      let e ← p.reads.expression
      return if p.label.kind = "sequence_expression" then Node.operands e else [e])
    fun es => n.Makes R [p.label] (es.map .expr) := by
  refine (hn p hp).expression.bind fun e he => .ok ?_
  split
  · unfold Node.operands
    split
    · exact .step (.part hp he) (.operands _ _)
    · exact .part hp he
  · exact .part hp he

theorem sequence : Ensures n.sequence fun e => n.Yields R [expr e] := by
  have hparts : n.named.Sublist n.parts := List.filter_sublist
  refine (Makes.mapM fun p hp => hn.operands (hparts.subset hp)).bind fun ess hess => .ok ?_
  have hoperands : n.Yields R (ess.flatten.map .expr) := by
    rw [List.map_flatten, ← List.flatMap_def]
    exact hess.yields hparts
  exact hoperands.form rfl rfl trivial

theorem paren : Ensures n.paren fun e => n.Yields R [expr e] :=
  ensures_firstValue.bind fun _ hp => (hn.part hp).expression.bind fun _ he =>
    .ok (he.form rfl rfl trivial)

theorem wrapped : Ensures n.wrapped fun e => n.Yields R [expr e] :=
  ensures_firstValue.bind fun _ hp => (hn.part hp).expression.bind fun _ he =>
    .ok (he.form rfl rfl trivial)

theorem await : Ensures n.await fun e => n.Yields R [expr e] :=
  ensures_first.bind fun _ hp => (hn.part hp).expression.bind fun _ he => .ok (he.form rfl rfl trivial)

theorem yield : Ensures n.yield fun e => n.Yields R [expr e] := by
  unfold Node.yield
  split
  · exact .ok (.leaf rfl rfl rfl trivial)
  · rename_i p ps hnamed
    have hp : p ∈ n.parts := mem_parts_of_named (hnamed ▸ List.mem_cons_self)
    exact (hn.part hp).expression.bind fun _ he => .ok (he.form rfl rfl trivial)

theorem expressionForm : Ensures n.expressionForm fun e => n.Yields R [expr e] := by
  unfold Node.expressionForm
  split
  case h_1 | h_2 | h_3 | h_4 => exact .ok (.word .ident)
  case h_8 => exact hn.template
  case h_9 => exact (hn.each (·.element)).bind fun _ hes => .ok (hes.form rfl rfl trivial)
  case h_10 => exact (hn.each (·.member)).bind fun _ hms => .ok (hms.form rfl rfl trivial)
  case h_11 | h_12 | h_13 => exact hn.functionExpr
  case h_14 => exact hn.arrow
  case h_15 => exact .ok (optionalIdent.form (by decide) rfl rfl trivial)
  case h_16 => exact hn.call
  case h_17 => exact hn.newExpr
  case h_18 => exact hn.memberExpr
  case h_19 => exact hn.subscript
  case h_20 => exact hn.unary
  case h_21 => exact hn.update
  case h_22 => exact hn.binary
  case h_23 | h_24 => exact hn.assignment
  case h_25 => exact hn.conditional
  case h_26 => exact hn.sequence
  case h_27 => exact hn.paren
  case h_28 => exact hn.await
  case h_29 => exact hn.yield
  all_goals exact .ok (.leaf rfl rfl rfl trivial)

theorem expression : Ensures n.expression fun e => n.Yields R [expr e] := by
  unfold Node.expression
  split
  · exact .ok (.word .literal)
  split
  · exact hn.wrapped
  split
  · exact .ok (.leaf rfl rfl rfl trivial)
  · exact hn.expressionForm

theorem inner : Ensures n.inner fun e => n.Yields R [expr e] :=
  ensures_first.bind fun _ hp => (hn.part hp).expression

theorem element : Ensures n.element fun e => n.Yields R [expr e] := by
  unfold Node.element
  split
  · exact hn.inner.bind fun _ he => .ok (he.form rfl rfl trivial)
  · exact hn.expression

theorem condition : Ensures n.condition fun e => n.Yields R [expr e] := by
  unfold Node.condition
  split
  · exact hn.inner
  · exact hn.expression

theorem key : Ensures n.key fun k => n.Yields R [expr k.1] ∧ (k.2 = true ∨ k.1.isKey = true) := by
  unfold Node.key
  split
  · exact hn.inner.bind fun _ he => .ok ⟨he, .inl rfl⟩
  · exact .ok ⟨.word .privateName, .inr rfl⟩
  · exact .ok ⟨.word .literal, .inr rfl⟩
  · exact .ok ⟨.word .literal, .inr rfl⟩
  · exact .ok ⟨.word .ident, .inr rfl⟩

theorem requiredKey {f : String} : Ensures (n.required f Reading.key)
    fun k => n.From R [f] [expr k.1] ∧ (k.2 = true ∨ k.1.isKey = true) :=
  ensures_field.bind fun _ hp => (hn.field hp).key

theorem method : Ensures n.method fun m => n.Yields R [.member m] := by
  refine hn.requiredKey.bind fun k hk => ?_
  refine (hn.listed (·.parameters)).bind fun ps hps => hn.functionBody.bind fun b hb => ?_
  exact .ok (((hk.1.append hps).append hb).form (by decide) rfl rfl hk.2)

theorem member : Ensures n.member fun m => n.Yields R [.member m] := by
  unfold Node.member
  split
  · refine hn.requiredKey.bind fun k hk => (hn.required (·.expression)).bind fun v hv => ?_
    exact .ok ((hk.1.append hv).form (by decide) rfl rfl ⟨hk.2, nofun⟩)
  · exact .ok (.step (.word .ident) (.member _))
  · exact hn.inner.bind fun _ he => .ok (he.form rfl rfl trivial)
  · exact hn.method
  · exact .ok (.leaf rfl rfl rfl trivial)

theorem innerPattern : Ensures n.innerPattern fun p => n.Yields R [.pattern p] :=
  ensures_first.bind fun _ hp => (hn.part hp).pattern

theorem pattern : Ensures n.pattern fun p => n.Yields R [.pattern p] := by
  unfold Node.pattern
  split
  · exact (hn.each (·.entry)).bind fun _ hes => .ok (hes.form rfl rfl trivial)
  · exact (hn.each (·.pattern)).bind fun ps hps => .ok (.form (by simpa using hps) rfl rfl trivial)
  · refine (hn.required (·.pattern)).bind fun t ht => (hn.required (·.expression)).bind fun v hv => ?_
    exact .ok ((ht.append hv).form (by decide) rfl rfl trivial)
  · exact hn.innerPattern.bind fun _ hp => .ok (hp.form rfl rfl trivial)
  · exact hn.expression.bind fun _ he => .ok (he.step (.stand rfl rfl rfl trivial))

omit hn in
theorem shorthandDefault {left : Part} (hleft : n.field? "left" = some left) {t : Pattern} {v : Expr}
    (ht : n.From R ["left"] [.pattern t]) (hv : n.From R ["right"] [expr v]) :
    n.From R ["left", "right"]
      [.entry (.property n.span (n.targetKey left t) (.default n.span t v) false true)] := by
  have hvalue : n.From R ["left", "right"] [.pattern (.default n.span t v)] :=
    (ht.append hv).make rfl rfl trivial
  unfold Node.targetKey
  split
  · exact hvalue.step (.entryDefault _ _)
  · have hkey : n.From R [] [expr (.unsupported (n.spanOf left) left.label.kind)] :=
      .plain (fun hnests => hnests.inside left (field_eq_some hleft).1) rfl rfl trivial
    refine (hkey.append hvalue).make rfl rfl ?_
    intro i hi
    cases hi

omit hn in
theorem refusedEntry : n.Yields R [.entry (.property n.span (.unsupported n.span n.kind)
    (.expr (.unsupported n.span n.kind)) false false)] := by
  have hkey : n.From R [] [expr (.unsupported n.span n.kind)] :=
    From.nil.make rfl rfl trivial
  have hvalue : n.From R [] [.pattern (.expr (.unsupported n.span n.kind))] :=
    hkey.step (.stand rfl rfl rfl trivial)
  exact (hkey.append hvalue).form .nil rfl rfl (.inr (.inr ⟨_, _, rfl⟩))

theorem entry : Ensures n.entry fun e => n.Yields R [.entry e] := by
  unfold Node.entry
  split
  · refine hn.requiredKey.bind fun k hk => (hn.required (·.pattern)).bind fun v hv => ?_
    exact .ok ((hk.1.append hv).form (by decide) rfl rfl (hk.2.imp_right .inl))
  · have htarget : n.Yields R [.pattern (.expr (.ident n.ident))] :=
      .step (.word .ident) (.stand rfl rfl rfl trivial)
    exact .ok (htarget.step (.entry _))
  · refine ensures_field.bind fun p hp => (hn.field hp).pattern.bind fun t ht => ?_
    exact (hn.required (·.expression)).bind fun v hv => .ok ((shorthandDefault hp ht hv).yields (by decide))
  · exact hn.innerPattern.bind fun _ hp => .ok (hp.form rfl rfl trivial)
  · exact .ok refusedEntry

theorem parameter : Ensures n.parameter fun o => n.Yields R (o.toList.map .pattern) := by
  unfold Node.parameter
  split
  · split
    · exact .ok .nil
    rename_i p hp
    split
    · exact .ok .nil
    refine (hn.field hp).pattern.bind fun t ht => (hn.optional (·.expression)).bind fun o ho => ?_
    cases o with
    | none => exact .ok (ht.yields (by decide))
    | some v => exact .ok ((ht.append ho).form (by decide) rfl rfl trivial)
  split
  · exact .ok .nil
  · exact hn.pattern.map fun _ hp => hp

theorem parameters : Ensures n.parameters fun ps => n.Yields R (ps.map .pattern) := by
  have hparts : n.named.Sublist n.parts := List.filter_sublist
  have hread : ∀ p ∈ n.named, Ensures p.reads.parameter
      fun o => n.Makes R [p.label] (o.toList.map .pattern) :=
    fun p hp => (hn p (hparts.subset hp)).parameter.mono fun _ ho => .part (hparts.subset hp) ho
  refine (Makes.mapM hread).bind fun os hos => .ok ?_
  have hlist : (os.filterMap id).map Fragment.pattern = os.flatMap fun o => o.toList.map .pattern := by
    simp [List.filterMap_eq_flatMap_toList, List.map_flatMap]
  rw [hlist]
  exact hos.yields hparts

end ScriptSplit.Node.ReadAs
