import ScriptSplit.Proofs.Comment.Expression

namespace ScriptSplit

namespace Node.Plain

variable {n : Node} (hn : n.Plain)

include hn

omit hn in
theorem block : n.bare.block = n.block := by
  unfold Node.block
  rw [bare_each Reading.statement fun _ => rfl]
  rfl

theorem declarator : n.bare.declarator = n.declarator := by
  unfold Node.declarator
  rw [hn.required "name" Reading.pattern rfl fun _ => rfl, hn.optional "value" Reading.expression rfl fun _ => rfl]
  rfl

theorem variablesKind (h : n.label.isVariables = true) : n.bare.variablesKind = n.variablesKind := by
  unfold Node.variablesKind
  rw [bare_kind, hn.field? "kind" rfl]
  split
  · rfl
  · rename_i hkind
    have hlexical : n.kind = "lexical_declaration" := by
      simp only [Label.isVariables, Bool.or_eq_true, beq_iff_eq] at h
      exact h.resolve_right hkind
    obtain ⟨p, hp⟩ := Option.isSome_iff_exists.mp (hn.keyword hlexical)
    rw [hp]
    rfl

theorem declaration (h : n.label.isVariables = true) : n.bare.declaration = n.declaration := by
  unfold Node.declaration
  rw [hn.variablesKind h, bare_named, List.filter_map, mapM_bare (fun p => p.reads.declarator) fun _ => rfl]
  rfl

omit hn in
theorem ambient : n.bare.ambient = n.ambient := by
  unfold Node.ambient
  rw [bare_named]
  cases n.named with
  | nil => rfl
  | cons p ps =>
      simp only [List.map_cons, Part.bare]
      split <;> rfl

omit hn in
theorem expressionStatement : n.bare.expressionStatement = n.expressionStatement := by
  unfold Node.expressionStatement
  rw [bare_first]
  cases n.first <;> rfl

theorem label? : n.bare.label? = n.label? := by
  unfold Node.label?
  rw [hn.field? "label" rfl, Option.map_map]
  rfl

theorem ifElse : n.bare.ifElse = n.ifElse := by
  unfold Node.ifElse
  rw [hn.optional "alternative" Reading.innerStatement rfl fun _ => rfl, hn.required "condition" Reading.condition rfl fun _ => rfl,
    hn.required "consequence" Reading.statement rfl fun _ => rfl]
  rfl

theorem labeled : n.bare.labeled = n.labeled := by
  unfold Node.labeled
  rw [hn.field? "body" rfl, bare_named, List.getLast?_map, bare_orNoChild, hn.label?]
  cases n.field? "body" with
  | none => cases n.orNoChild n.named.getLast? <;> rfl
  | some p => rfl

omit hn in
theorem ret : n.bare.ret = n.ret := by
  unfold Node.ret
  rw [bare_named]
  cases n.named <;> rfl

omit hn in
theorem throwing : n.bare.throwing = n.throwing := by
  unfold Node.throwing
  rw [bare_first]
  cases n.first <;> rfl

/-- Taking the tested value out of a clause leaves its comments alone. -/
theorem caseBody :
    ((n.bare.parts.eraseP fun p => p.label.field == "value").filter
      fun p => p.label.named && !p.label.isComment) =
    ((n.parts.eraseP fun p => p.label.field == "value").filter
      fun p => p.label.named && !p.label.isComment).map Part.bare := by
  have hcomments := hn.comments
  clear hn
  obtain ⟨s, l, ps⟩ := n
  induction ps with
  | nil => rfl
  | cons p ps ih =>
      have ih := ih fun q hq => hcomments q (List.mem_cons_of_mem _ hq)
      simp only [Node.bare] at ih hcomments ⊢
      cases hcomment : p.label.isComment with
      | true =>
          have hfield := hcomments p List.mem_cons_self hcomment
          simp [hcomment, hfield, ih]
      | false =>
          by_cases hvalue : p.label.field = "value"
          · simp [hcomment, hvalue, List.filter_map, Function.comp_def]
          · cases hnamed : p.label.named with
            | false => simp [hcomment, hvalue, hnamed, ih]
            | true => simp [hcomment, hvalue, hnamed, ih]

theorem case : n.bare.case = n.case := by
  unfold Node.case
  rw [hn.caseBody, hn.optional "value" Reading.expression rfl fun _ => rfl, bare_each Reading.statement fun _ => rfl]
  simp only [mapM_bare (fun p => p.reads.statement) fun _ => rfl, bare_kind, bare_span]

theorem switch : n.bare.switch = n.switch := by
  unfold Node.switch
  rw [hn.listed "body" Reading.cases rfl fun _ => rfl, hn.required "value" Reading.condition rfl fun _ => rfl]
  rfl

theorem handler : n.bare.handler = n.handler := by
  unfold Node.handler
  rw [hn.optional "parameter" Reading.pattern rfl fun _ => rfl, hn.required "body" Reading.block rfl fun _ => rfl]
  rfl

theorem tryCatch : n.bare.tryCatch = n.tryCatch := by
  unfold Node.tryCatch
  rw [hn.optional "handler" Reading.handler rfl fun _ => rfl, hn.optional "finalizer" Reading.bodyBlock rfl fun _ => rfl,
    hn.required "body" Reading.block rfl fun _ => rfl]
  rfl

theorem whileLoop : n.bare.whileLoop = n.whileLoop := by
  unfold Node.whileLoop
  rw [hn.required "condition" Reading.condition rfl fun _ => rfl, hn.required "body" Reading.statement rfl fun _ => rfl]
  rfl

theorem doWhile : n.bare.doWhile = n.doWhile := by
  unfold Node.doWhile
  rw [hn.required "body" Reading.statement rfl fun _ => rfl, hn.required "condition" Reading.condition rfl fun _ => rfl]
  rfl

theorem withObject : n.bare.withObject = n.withObject := by
  unfold Node.withObject
  rw [hn.required "object" Reading.condition rfl fun _ => rfl, hn.required "body" Reading.statement rfl fun _ => rfl]
  rfl

theorem head : n.bare.head = n.head := by
  unfold Node.head
  rw [inner, hn.expression, bare_kind]
  split
  case h_3 h | h_4 h => rw [hn.declaration (by simp [Label.isVariables, show n.label.kind = _ from h])]
  all_goals rfl

omit hn in
theorem clause (f : String) : n.bare.clause f = n.clause f := by
  unfold Node.clause
  rw [bare_fields]
  cases n.fields f <;> rfl

theorem forLoop : n.bare.forLoop = n.forLoop := by
  unfold Node.forLoop
  rw [clause, clause, hn.optional "increment" Reading.expression rfl fun _ => rfl,
    hn.required "body" Reading.statement rfl fun _ => rfl]
  rfl

theorem enumerated : n.bare.enumerated = n.enumerated := by
  unfold Node.enumerated
  rw [hn.field "left" rfl, hn.field? "kind" rfl, hn.optional "value" Reading.expression rfl fun _ => rfl]
  cases n.field "left" with
  | error e => rfl
  | ok left => cases n.field? "kind" <;> rfl

theorem isOf : n.bare.isOf = n.isOf := by
  unfold Node.isOf
  rw [hn.field? "operator" rfl, bare_hasToken rfl]
  cases n.field? "operator" <;> rfl

theorem forEach : n.bare.forEach = n.forEach := by
  unfold Node.forEach
  rw [hn.enumerated, hn.required "right" Reading.expression rfl fun _ => rfl, hn.required "body" Reading.statement rfl fun _ => rfl,
    hn.isOf, bare_hasToken rfl]
  rfl

theorem functionDecl : n.bare.functionDecl = n.functionDecl := by
  unfold Node.functionDecl
  rw [hn.listed "parameters" Reading.parameters rfl fun _ => rfl, hn.functionBody, hn.optionalIdent "name" rfl,
    bare_hasToken rfl, bare_hasToken rfl]
  rfl

omit hn in
theorem innerIdent : n.bare.innerIdent = n.innerIdent := by
  unfold Node.innerIdent
  rw [bare_first]
  cases n.first <;> rfl

theorem imported : n.bare.imported = n.imported := by
  unfold Node.imported
  rw [innerIdent, hn.field? "alias" rfl, hn.field "name" rfl, bare_hasTypeToken, bare_named, List.filter_map,
    List.filter_map, mapM_bare (fun p => p.reads.imported) fun _ => rfl, mapM_bare (fun p => p.reads.imported) fun _ => rfl]
  cases n.field? "alias" <;> cases n.field "name" <;> rfl

omit hn in
theorem importClauses (ps : List Part) :
    Node.importClauses (ps.map Part.bare) = Node.importClauses ps := by
  induction ps with
  | nil => rfl
  | cons p ps ih =>
      rw [List.map_cons, Node.importClauses, Node.importClauses, ih]
      rfl

theorem importStatement : n.bare.importStatement = n.importStatement := by
  unfold Node.importStatement
  rw [hn.field? "source" rfl, bare_named, importClauses, bare_hasTypeToken, Option.map_map]
  rfl

theorem enumMember : n.bare.enumMember = n.enumMember := by
  unfold Node.enumMember
  rw [hn.field "name" rfl, hn.optional "value" Reading.expression rfl fun _ => rfl]
  cases n.field "name" <;> rfl

theorem enumDecl : n.bare.enumDecl = n.enumDecl := by
  unfold Node.enumDecl
  rw [hn.listed "body" Reading.enumMembers rfl fun _ => rfl, hn.field "name" rfl]
  cases n.field "name" <;> rfl

theorem statementForm : n.bare.statementForm = n.statementForm := by
  unfold Node.statementForm
  rw [expressionStatement, block, hn.label?, hn.ifElse, hn.labeled, ret, throwing, hn.switch,
    hn.tryCatch, hn.whileLoop, hn.doWhile, hn.withObject, hn.forLoop, hn.forEach, hn.functionDecl,
    hn.optionalIdent "name" rfl, hn.importStatement, innerIdent,
    hn.optional "declaration" Reading.statement rfl fun _ => rfl, hn.enumDecl, bare_kind]
  split
  case h_2 h | h_3 h => rw [hn.declaration (by simp [Label.isVariables, show n.label.kind = _ from h])]
  all_goals rfl

theorem statement : n.bare.statement = n.statement := by
  unfold Node.statement
  rw [ambient, hn.statementForm]
  rfl

theorem read : (Part.mk n.label n.bare.read).bare = (Part.mk n.label n.read).bare := by
  have hinner : (do let p ← n.bare.first; p.reads.statement) = (do let p ← n.first; p.reads.statement) := by
    rw [bare_first]
    cases n.first <;> rfl
  have hdeclaration : (if n.label.isVariables then n.bare.declaration else .error (.noChild n.label.kind)) =
      if n.label.isVariables then n.declaration else .error (.noChild n.label.kind) := by
    split
    · rw [hn.declaration ‹_›]
    · rfl
  simp only [Part.bare, Node.read, hn.statement, hn.expression, hn.pattern, block, inner, innerPattern,
    hinner, innerIdent, hn.condition, hn.element, bare_each Reading.element fun _ => rfl, bare_each Reading.case fun _ => rfl,
    bare_each Reading.enumMember fun _ => rfl, key, hn.parameter, parameters, hn.member,
    hn.entry, hn.declarator, hdeclaration, hn.head, hn.case, hn.handler, hn.required "body" Reading.block rfl fun _ => rfl,
    hn.enumMember, hn.imported]

end Node.Plain

namespace Tree

theorem dropComments_eq (ts : List Tree) :
    dropComments ts =
      (ts.filter fun t => t.label.kind ∉ Label.commentKinds).map withoutComments := by
  induction ts with
  | nil => rfl
  | cons t ts ih =>
      rw [dropComments, ih]
      split
      · rename_i hcomment
        rw [List.filter_cons_of_neg (by simpa using hcomment)]
      · rename_i hcomment
        rw [List.filter_cons_of_pos (by simpa using hcomment), List.map_cons]

theorem label_withoutComments : ∀ t : Tree, t.withoutComments.label = t.label
  | .node _ _ => rfl

theorem label_part (s : Source) (t : Tree) : (t.part s).label = t.label := by
  rw [part_eq]

theorem not_comment_dropComments (s : Source) (ts : List Tree) :
    ∀ p ∈ parts s (dropComments ts), p.label.isComment = false := by
  intro p hp
  rw [parts_eq_map, dropComments_eq] at hp
  obtain ⟨u, hu, rfl⟩ := List.mem_map.mp hp
  obtain ⟨t, ht, rfl⟩ := List.mem_map.mp hu
  have hkind := (List.mem_filter.mp ht).2
  rw [label_part, label_withoutComments, ← Bool.not_eq_true, Label.isComment_iff]
  exact of_decide_eq_true hkind

theorem Plain.readNode {t : Tree} (h : t.Plain) (s : Source) : (t.readNode s).Plain := by
  constructor
  · intro p hp hcomment
    obtain ⟨c, hc, rfl⟩ := mem_parts_readNode.mp hp
    rw [label_part] at hcomment ⊢
    exact (h c (mem_subtrees_child hc c.mem_subtrees_self)).1 (c.label.isComment_iff.mp hcomment)
  · intro hkind
    obtain ⟨c, hc, hfield⟩ := (h t t.mem_subtrees_self).2 hkind
    refine List.find?_isSome.mpr ⟨c.part s, mem_parts_readNode.mpr ⟨c, hc, rfl⟩, ?_⟩
    rw [label_part, hfield]
    rfl

theorem Plain.bare_part {t : Tree} (h : t.Plain) {s : Source}
    (hbare : (t.withoutComments.readNode s).bare = (t.readNode s).bare) :
    (t.withoutComments.part s).bare = (t.part s).bare := by
  have hnone : ∀ p ∈ (t.withoutComments.readNode s).parts, p.label.isComment = false := by
    obtain ⟨l, cs⟩ := t
    exact not_comment_dropComments s cs
  have hlabel : (t.withoutComments.readNode s).label = t.label := t.label_withoutComments
  have hn := h.readNode s
  have hm := hn.of_bare hbare hnone
  rw [part_eq, part_eq, label_withoutComments]
  calc (Part.mk t.label (t.withoutComments.readNode s).read).bare
      = (Part.mk t.label (t.withoutComments.readNode s).bare.read).bare := hlabel ▸ hm.read.symm
    _ = (Part.mk t.label (t.readNode s).bare.read).bare := by rw [hbare]
    _ = (Part.mk t.label (t.readNode s).read).bare := hn.read

mutual

theorem bare_withoutComments (s : Source) : ∀ t : Tree, t.Plain →
    (t.withoutComments.readNode s).bare = (t.readNode s).bare
  | .node l cs, h => by
      have hparts := bare_dropComments s cs fun t ht u hu => h u (mem_subtrees_child ht hu)
      simp only [readNode, Node.bare, withoutComments, children, hparts]
      rfl

theorem bare_dropComments (s : Source) : ∀ ts : List Tree, (∀ t ∈ ts, t.Plain) →
    ((parts s (dropComments ts)).filter fun p => !p.label.isComment).map Part.bare =
      ((parts s ts).filter fun p => !p.label.isComment).map Part.bare
  | [], _ => rfl
  | t :: ts, h => by
      have hrest := bare_dropComments s ts fun u hu => h u (List.mem_cons_of_mem _ hu)
      have hplain := h t List.mem_cons_self
      have hfirst := hplain.bare_part (bare_withoutComments s t hplain)
      rw [dropComments, parts]
      split
      · rename_i hkind
        have hcomment := t.label.isComment_iff.mpr hkind
        rw [List.filter_cons_of_neg (by simpa [label_part] using hcomment), hrest]
      · rename_i hkind
        have hcomment := mt t.label.isComment_iff.mp hkind
        rw [parts, List.filter_cons_of_pos (by simpa [label_part, label_withoutComments] using hcomment),
          List.filter_cons_of_pos (by simpa [label_part] using hcomment), List.map_cons, List.map_cons,
          hfirst, hrest]

end

/-- A tree reads as the same script without its comments, or as none for the same reason. -/
theorem program_withoutComments (code : Text) (t : Tree) (h : t.Plain) :
    t.withoutComments.program (Source.ofText code) = t.program (Source.ofText code) := by
  have hbare := bare_withoutComments (Source.ofText code) t h
  have hspan : (t.withoutComments.readNode (Source.ofText code)).span =
      (t.readNode (Source.ofText code)).span := by
    rw [← Node.bare_span, hbare, Node.bare_span]
  have hbody : (t.withoutComments.readNode (Source.ofText code)).each Reading.statement =
      (t.readNode (Source.ofText code)).each Reading.statement := by
    rw [← Node.bare_each Reading.statement fun _ => rfl, hbare, Node.bare_each Reading.statement fun _ => rfl]
  simp only [program, hspan, hbody]

end Tree

namespace Sample

def commented : Text := "#!x\n/**/let/**/a=/**/b".toList

/-- Comments before a declaration, inside it and inside its declarator. -/
def commentedTree : Tree :=
  .node ⟨"program", true, false, false, "", 0, 22, 0, 0⟩
    [.node ⟨"hash_bang_line", true, false, false, "", 0, 3, 0, 0⟩ [],
    .node ⟨"comment", true, false, false, "", 4, 8, 1, 0⟩ [],
    .node ⟨"lexical_declaration", true, false, false, "", 8, 22, 1, 4⟩
      [.node ⟨"let", false, false, false, "kind", 8, 11, 1, 4⟩ [],
      .node ⟨"comment", true, false, false, "", 11, 15, 1, 7⟩ [],
      .node ⟨"variable_declarator", true, false, false, "", 15, 22, 1, 11⟩
        [.node ⟨"identifier", true, false, false, "name", 15, 16, 1, 11⟩ [],
        .node ⟨"=", false, false, false, "", 16, 17, 1, 12⟩ [],
        .node ⟨"comment", true, false, false, "", 17, 21, 1, 13⟩ [],
        .node ⟨"identifier", true, false, false, "value", 21, 22, 1, 17⟩ []]]]

end Sample

theorem program_withoutComments_commentedTree :
    Sample.commentedTree.Plain ∧
    Sample.commentedTree.withoutComments.program (Source.ofText Sample.commented) =
      Sample.commentedTree.program (Source.ofText Sample.commented) ∧
    ∃ p, Sample.commentedTree.program (Source.ofText Sample.commented) = .ok p ∧
      p.span = ⟨0, 22, 1, 0⟩ ∧ p.body.map Stmt.span = [⟨8, 22, 2, 4⟩] := by
  have hplain : Sample.commentedTree.Plain := by decide
  refine ⟨hplain, Tree.program_withoutComments Sample.commented Sample.commentedTree hplain, ?_⟩
  have hread : (Sample.commentedTree.program (Source.ofText Sample.commented)).toOption.map
      (fun p => (p.span, p.body.map Stmt.span)) = some (⟨0, 22, 1, 0⟩, [⟨8, 22, 2, 4⟩]) := by decide +kernel
  cases hp : Sample.commentedTree.program (Source.ofText Sample.commented) with
  | error s => simp [hp, Except.toOption] at hread
  | ok p => exact ⟨p, rfl, by simpa [hp, Except.toOption] using hread⟩

end ScriptSplit
