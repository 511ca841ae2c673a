import ScriptSplit.Proofs.Outcome
import ScriptSplit.Proofs.Placement
import ScriptSplit.Split

namespace ScriptSplit

structure Expr.Seated (sp : Span) (e : Expr) : Prop where
  span : e.span = sp
  arguments : ∀ c f as o, e = .call c f as o → ∀ a ∈ as, a.span.Inside c

def Declarator.target : Declarator → Pattern
  | .mk _ target _ => target

def Variables.declarators : Variables → List Declarator
  | .mk _ _ ds => ds

structure Variables.Seated (sp : Span) (v : Variables) : Prop where
  span : v.span.Inside sp
  targets : ∀ d ∈ v.declarators, d.target.span.Inside v.span

structure Stmt.Seated (sp : Span) (x : Stmt) : Prop where
  span : x.span.Inside sp
  value : ∀ s e, x = .expr s e → ∃ sp', sp'.Inside s ∧ e.Seated sp'
  declares : ∀ v, x = .declare v → v.Seated sp

structure Reading.Seated (sp : Span) (r : Reading) : Prop where
  expression : ∀ e, r.expression = .ok e → e.Seated sp
  pattern : ∀ p, r.pattern = .ok p → p.span = sp
  element : ∀ e, r.element = .ok e → e.span = sp
  elements : ∀ es, r.elements = .ok es → ∀ e ∈ es, e.span.Inside sp
  declarator : ∀ d, r.declarator = .ok d → d.target.span.Inside sp
  declaration : ∀ v, r.declaration = .ok v → v.Seated sp
  statement : ∀ x, r.statement = .ok x → x.Seated sp

namespace Node

structure Seats (n : Node) : Prop where
  nests : n.Nests
  parts : ∀ p ∈ n.parts, p.reads.Seated (n.spanOf p)

end Node

namespace Node

variable {n : Node}

theorem span_expressionForm {e : Expr} (h : n.expressionForm = .ok e) : e.span = n.span := by
  unfold expressionForm at h
  split at h
  case' h_14 => unfold arrow at h
  case' h_29 => unfold yield at h
  -- whatever parts a form is read from, what is returned stands at the span of the node
  all_goals
    repeat' first
      | (cases h; rfl)
      | (refine bind_ok_elim h ?_; clear h; intro _ _ h)
      | split at h

theorem expression_eq_ok {e : Expr} (h : n.expression = .ok e) :
    e = .literal n.span n.kind n.word ∨
    (∃ p v, n.firstValue = .ok p ∧ p.reads.expression = .ok v ∧ e = .typed n.span n.kind v) ∨
    e = .jsx n.span n.kind ∨ n.expressionForm = .ok e := by
  unfold expression at h
  split at h
  · exact .inl (Except.ok.inj h).symm
  · split at h
    · obtain ⟨p, hp, h⟩ := bind_eq_ok.mp h
      obtain ⟨v, hv, h⟩ := bind_eq_ok.mp h
      exact .inr (.inl ⟨p, v, hp, hv, (Except.ok.inj h).symm⟩)
    · split at h
      · exact .inr (.inr (.inl (Except.ok.inj h).symm))
      · exact .inr (.inr (.inr h))

theorem span_expression {e : Expr} (h : n.expression = .ok e) : e.span = n.span := by
  obtain rfl | ⟨p, v, _, _, rfl⟩ | rfl | h := expression_eq_ok h
  · rfl
  · rfl
  · rfl
  · exact span_expressionForm h

theorem span_element {e : Expr} (h : n.element = .ok e) : e.span = n.span := by
  unfold element at h
  split at h
  · obtain ⟨v, _, h⟩ := bind_eq_ok.mp h
    cases h
    rfl
  · exact span_expression h

theorem span_pattern {p : Pattern} (h : n.pattern = .ok p) : p.span = n.span := by
  unfold pattern at h
  split at h
  case h_5 =>
    obtain ⟨e, he, h⟩ := bind_eq_ok.mp h
    cases h
    exact span_expression he
  all_goals
    repeat' first
      | (cases h; rfl)
      | (refine bind_ok_elim h ?_; clear h; intro _ _ h)

theorem call_of_expression {sp : Span} {f : Expr} {as : List Expr} {o : Bool}
    (h : n.expression = .ok (.call sp f as o)) : n.call = .ok (.call sp f as o) := by
  obtain h | ⟨p, v, _, _, h⟩ | h | hform := expression_eq_ok h
  · cases h
  · cases h
  · cases h
  unfold expressionForm at hform
  split at hform
  case h_16 => exact hform
  case' h_14 => unfold arrow at hform
  case' h_29 => unfold yield at hform
  all_goals
    repeat' first
      | cases hform
      | (refine bind_ok_elim hform ?_; clear hform; intro _ _ hform)
      | split at hform

theorem field_eq_some {f : String} {p : Part} (h : n.field? f = some p) :
    p ∈ n.parts ∧ p.label.field = f :=
  ⟨List.mem_of_find?_eq_some h, by simpa using List.find?_some h⟩

theorem field_eq_ok {f : String} {p : Part} : n.field f = .ok p ↔ n.field? f = some p := by
  unfold field
  cases n.field? f <;> simp

theorem orNoChild_eq_ok {α : Type} {o : Option α} {a : α} : n.orNoChild o = .ok a ↔ o = some a := by
  cases o <;> simp [orNoChild]

theorem mem_parts_of_named {p : Part} (h : p ∈ n.named) : p ∈ n.parts := List.mem_of_mem_filter h

theorem mem_of_first {p : Part} (h : n.first = .ok p) : p ∈ n.parts :=
  mem_parts_of_named (List.mem_of_mem_head? (orNoChild_eq_ok.mp h))

theorem exists_of_call {sp : Span} {f : Expr} {as : List Expr} {o : Bool}
    (h : n.call = .ok (.call sp f as o)) {a : Expr} (ha : a ∈ as) :
    ∃ p ∈ n.parts, p.reads.elements = .ok as := by
  obtain ⟨callee, _, h⟩ := bind_eq_ok.mp h
  split at h
  · cases h
    cases ha
  · rename_i p hp
    split at h
    · obtain ⟨_, _, h⟩ := bind_eq_ok.mp h
      cases h
    · obtain ⟨es, hes, h⟩ := bind_eq_ok.mp h
      cases h
      exact ⟨p, (field_eq_some hp).1, hes⟩

theorem expression_of_statement {sp : Span} {e : Expr} (h : n.statement = .ok (.expr sp e)) :
    ∃ p ∈ n.parts, p.reads.expression = .ok e := by
  have hform : n.expressionStatement = .ok (.expr sp e) := by
    unfold statement at h
    split at h
    · cases h
    split at h
    · unfold ambient at h
      repeat' first
        | cases h
        | (refine bind_ok_elim h ?_; clear h; intro _ _ h)
        | split at h
    · unfold statementForm at h
      split at h
      case h_1 => exact h
      case' h_10 => unfold labeled at h
      case' h_11 => unfold ret at h
      all_goals
        repeat' first
          | cases h
          | (refine bind_ok_elim h ?_; clear h; intro _ _ h)
          | split at h
  obtain ⟨p, hp, hform⟩ := bind_eq_ok.mp hform
  split at hform
  · cases hform
  · obtain ⟨e', he, hform⟩ := bind_eq_ok.mp hform
    cases hform
    exact ⟨p, mem_of_first hp, he⟩

namespace Seats

variable (hn : n.Seats)

include hn

theorem elements {es : List Expr} (h : n.each Reading.element = .ok es) :
    ∀ e ∈ es, e.span.Inside n.span := by
  intro e he
  obtain ⟨p, hp, hr⟩ := exists_of_mapM_eq_ok h he
  have hmem := mem_parts_of_named hp
  rw [(hn.parts p hmem).element e hr]
  exact hn.nests.inside p hmem

theorem call {sp : Span} {f : Expr} {as : List Expr} {o : Bool} (h : n.call = .ok (.call sp f as o)) :
    ∀ a ∈ as, a.span.Inside n.span := by
  intro a ha
  obtain ⟨p, hp, hes⟩ := exists_of_call h ha
  exact ((hn.parts p hp).elements as hes a ha).trans (hn.nests.inside p hp)

theorem expression {e : Expr} (h : n.expression = .ok e) : e.Seated n.span := by
  refine ⟨span_expression h, ?_⟩
  rintro sp f as o rfl
  obtain rfl : sp = n.span := span_expression h
  exact hn.call (call_of_expression h)

theorem declarator {d : Declarator} (h : n.declarator = .ok d) : d.target.span.Inside n.span := by
  obtain ⟨target, ht, h⟩ := bind_eq_ok.mp h
  obtain ⟨init, _, h⟩ := bind_eq_ok.mp h
  cases h
  obtain ⟨p, hp, ht⟩ := bind_eq_ok.mp ht
  have hmem := (field_eq_some (field_eq_ok.mp hp)).1
  rw [Declarator.target, (hn.parts p hmem).pattern target ht]
  exact hn.nests.inside p hmem

theorem declaration {v : Variables} (h : n.declaration = .ok v) : v.Seated n.span := by
  obtain ⟨kind, _, h⟩ := bind_eq_ok.mp h
  obtain ⟨ds, hds, h⟩ := bind_eq_ok.mp h
  cases h
  refine ⟨hn.nests.span_inside, ?_⟩
  intro d hd
  obtain ⟨p, hp, hr⟩ := exists_of_mapM_eq_ok hds hd
  have hmem := mem_parts_of_named (List.mem_of_mem_filter hp)
  exact ((hn.parts p hmem).declarator d hr).trans (hn.nests.inside p hmem)

theorem ambient {x : Stmt} (h : n.ambient = .ok x) : x.Seated n.span := by
  unfold Node.ambient at h
  split at h
  · rename_i p ps hnamed
    split at h
    · obtain ⟨v, hv, h⟩ := bind_eq_ok.mp h
      cases h
      have hmem : p ∈ n.parts := mem_parts_of_named (hnamed ▸ List.mem_cons_self)
      have hseat := (hn.parts p hmem).declaration v hv
      have hspan := hseat.span.trans (hn.nests.inside p hmem)
      exact ⟨hspan, nofun, by rintro _ ⟨⟩; exact ⟨hspan, hseat.targets⟩⟩
    · cases h
      exact ⟨hn.nests.span_inside, nofun, nofun⟩
  · cases h
    exact ⟨hn.nests.span_inside, nofun, nofun⟩

theorem expressionStatement {x : Stmt} (h : n.expressionStatement = .ok x) : x.Seated n.span := by
  obtain ⟨p, hp, h⟩ := bind_eq_ok.mp h
  split at h
  · cases h
    exact ⟨hn.nests.span_inside, nofun, nofun⟩
  · obtain ⟨e, he, h⟩ := bind_eq_ok.mp h
    cases h
    have hmem := mem_of_first hp
    refine ⟨hn.nests.span_inside, ?_, nofun⟩
    rintro s e' ⟨⟩
    exact ⟨n.spanOf p, hn.nests.inside p hmem, (hn.parts p hmem).expression e he⟩

theorem statementForm {x : Stmt} (h : n.statementForm = .ok x) : x.Seated n.span := by
  unfold Node.statementForm at h
  split at h
  case h_1 => exact hn.expressionStatement h
  case h_2 | h_3 =>
    obtain ⟨v, hv, h⟩ := bind_eq_ok.mp h
    cases h
    have hseat := hn.declaration hv
    exact ⟨hseat.span, nofun, by rintro _ ⟨⟩; exact hseat⟩
  case h_4 =>
    obtain ⟨b, hb, h⟩ := bind_eq_ok.mp h
    cases h
    obtain ⟨ss, _, hb⟩ := bind_eq_ok.mp hb
    cases hb
    exact ⟨hn.nests.span_inside, nofun, nofun⟩
  case' h_10 => unfold labeled at h
  case' h_11 => unfold ret at h
  all_goals
    repeat' first
      | (cases h; exact ⟨hn.nests.span_inside, nofun, nofun⟩)
      | (refine bind_ok_elim h ?_; clear h; intro _ _ h)
      | split at h

theorem statement {x : Stmt} (h : n.statement = .ok x) : x.Seated n.span := by
  unfold Node.statement at h
  split at h
  · cases h
    exact ⟨hn.nests.span_inside, nofun, nofun⟩
  · split at h
    · exact hn.ambient h
    · exact hn.statementForm h

theorem read : n.read.Seated n.span where
  expression _ h := hn.expression h
  pattern _ h := span_pattern h
  element _ h := span_element h
  elements _ h := hn.elements h
  declarator _ h := hn.declarator h
  declaration _ h := hn.declaration h
  statement _ h := hn.statement h

end Seats

end Node

theorem Tree.Nested.seated {code : Text} {t : Tree} (h : t.Nested code) (s : Source) :
    (t.part s).reads.Seated (s.span t.label) := by
  have hread := Tree.part_induction (s := s) (P := fun l r => r.Seated (s.span l)) (Q := Node.Nests) ?_
    t (h.nests s)
  · rwa [Tree.part_eq] at hread ⊢
  · rintro n rfl hn hparts
    exact Node.Seats.read ⟨hn, hparts⟩

theorem program_of_readScript {code : Text} {t : Tree} {p : Program} (h : readScript code t = .ok p) :
    t.program (Source.ofText code) = .ok p := by
  unfold readScript at h
  simp only at h
  split at h
  · cases h
  · exact mapError_eq_ok.mp h

theorem exists_of_readScript {code : Text} {t : Tree} {p : Program} (h : readScript code t = .ok p)
    {x : Stmt} (hx : x ∈ p.body) :
    ∃ c ∈ t.children, (c.part (Source.ofText code)).reads.statement = .ok x := by
  obtain ⟨body, hbody, h⟩ := bind_eq_ok.mp (program_of_readScript h)
  cases h
  obtain ⟨q, hq, hr⟩ := exists_of_mapM_eq_ok hbody hx
  obtain ⟨c, hc, rfl⟩ := Tree.mem_parts_readNode.mp (Node.mem_parts_of_named hq)
  exact ⟨c, hc, hr⟩

end ScriptSplit
