import ScriptSplit.Proofs.Assembly.Statement
import ScriptSplit.Proofs.Naming

namespace ScriptSplit

open Item (idents)

section

variable (legacy : Bool)

theorem Pattern.idents_declare_expr (e : Expr) : idents ((Pattern.expr e).declare legacy) = [] := by
  cases e <;> simp [Pattern.declare]

theorem Pattern.idents_declare_rest (s : Span) (p : Pattern) :
    idents ((Pattern.rest s p).declare legacy) = [] := by
  rcases p with e | _ | _ | _ | _
  · cases e <;> simp [Pattern.declare]
  all_goals simp [Pattern.declare]

theorem Entry.idents_declare_rest (s : Span) (p : Pattern) :
    idents ((Entry.rest s p).declare legacy) = [] := by
  rcases p with e | _ | _ | _ | _
  · cases e <;> simp [Entry.declare]
  all_goals simp [Entry.declare]

end

namespace Fragment

/-- The identifiers that a node refers to, in each way in which names may be resolved there. -/
def refs (legacy : Bool) : Fragment → List (List Ident)
  | .expr e => [idents (e.outline legacy)]
  | .member m => [idents (m.outline legacy)]
  | .pattern p => [idents (p.declare legacy), idents (p.assign legacy)]
  | .entry e => [idents (e.declare legacy), idents (e.assign legacy)]
  | .block b => [idents (b.outline legacy)]
  | .stmt s => [idents (s.outline legacy)]
  | .case c => [idents (Case.outlines legacy [c])]
  | .handler h => [idents (h.outline legacy)]
  | .enumMember m => [idents (EnumMember.outlines legacy [m])]
  | .declarator d => [idents (Declarator.outlines legacy [d])]
  | .variables v => [idents (v.outline legacy)]
  | .loopDeclarator d => [idents (d.target.declare legacy)]
  | .loopVariables v => [v.declarators.flatMap fun d => idents (d.target.declare legacy)]
  | .program _ | .name _ | .importName _ => [[]]

/-- Identifiers that are referred to in some nodes, each node taken in one way. -/
inductive Picks (legacy : Bool) : List Fragment → List Ident → Prop
  | nil : Picks legacy [] []
  | cons {x : Fragment} {xs : List Fragment} {is js ks : List Ident} (hx : is ∈ x.refs legacy)
      (hxs : Picks legacy xs js) (hks : ks.Subperm (is ++ js)) : Picks legacy (x :: xs) ks

namespace Picks

variable {legacy : Bool} {x : Fragment} {xs ys : List Fragment} {is js : List Ident}

theorem subperm (h : Picks legacy xs js) (his : is.Subperm js) : Picks legacy xs is := by
  cases h with
  | nil => exact List.subperm_nil.mp his ▸ .nil
  | cons hx hxs hks => exact .cons hx hxs (his.trans hks)

theorem single (h : is ∈ x.refs legacy) : Picks legacy [x] is :=
  .cons h .nil (by rw [List.append_nil])

theorem append (h : Picks legacy xs is) (h' : Picks legacy ys js) : Picks legacy (xs ++ ys) (is ++ js) := by
  induction h with
  | nil => exact h'
  | cons hx _ hks ih =>
      refine .cons hx ih ?_
      rw [← List.append_assoc]
      exact hks.append (List.Subperm.refl js)

theorem of_append {xs : List Fragment} {ks : List Ident} (h : Picks legacy (xs ++ ys) ks) :
    ∃ is js, Picks legacy xs is ∧ Picks legacy ys js ∧ ks.Subperm (is ++ js) := by
  induction xs generalizing ks with
  | nil => exact ⟨[], ks, .nil, h, .refl _⟩
  | cons x xs ih =>
      cases h with
      | @cons _ _ is₀ _ _ hx hxs hks =>
          obtain ⟨is, js, his, hjs, hsub⟩ := ih hxs
          refine ⟨is₀ ++ is, js, .cons hx his (.refl _), hjs, hks.trans ?_⟩
          rw [List.append_assoc]
          exact (List.Subperm.refl is₀).append hsub

theorem of_single (h : Picks legacy [x] is) : ∃ js ∈ x.refs legacy, is.Subperm js := by
  cases h with
  | @cons _ _ js _ _ hx hnil hks =>
      cases hnil
      exact ⟨js, hx, by rwa [List.append_nil] at hks⟩

theorem replace (h : Picks legacy [x] is) (hx : ∀ js ∈ x.refs legacy, Picks legacy ys js) :
    Picks legacy ys is := by
  obtain ⟨js, hjs, hsub⟩ := h.of_single
  exact (hx js hjs).subperm hsub

theorem of_nil (h : Picks legacy [] is) : is = [] := by
  cases h
  rfl

theorem map {α : Type} {fragment : α → Fragment} {names : α → List Ident}
    (h : ∀ a, names a ∈ (fragment a).refs legacy) (as : List α) :
    Picks legacy (as.map fragment) (as.flatMap names) := by
  induction as with
  | nil => exact .nil
  | cons a as ih => exact .cons (h a) ih (.refl _)

theorem option {α : Type} {fragment : α → Fragment} {names : α → List Ident}
    (h : ∀ a, names a ∈ (fragment a).refs legacy) (o : Option α) :
    Picks legacy (o.toList.map fragment) (o.elim [] names) := by
  cases o with
  | none => exact .nil
  | some a => exact single (h a)

variable (legacy)

theorem expr (e : Expr) : Picks legacy [.expr e] (idents (e.outline legacy)) := single List.mem_cons_self

theorem key (computed : Bool) (e : Expr) :
    Picks legacy [.expr e] (idents (if computed then e.outline legacy else [])) := by
  cases computed with
  | true => exact expr legacy e
  | false => exact (expr legacy e).subperm List.nil_subperm

theorem exprs (es : List Expr) : Picks legacy (es.map .expr) (idents (Expr.outlines legacy es)) := by
  rw [Expr.idents_outlines]
  exact map (fun _ => List.mem_cons_self) es

theorem names (name : Option Ident) : Picks legacy (name.toList.map .name) [] := by
  cases name with
  | none => exact .nil
  | some i => exact single List.mem_cons_self

theorem declares (ps : List Pattern) :
    Picks legacy (ps.map .pattern) (idents (Pattern.declares legacy ps)) := by
  rw [Pattern.idents_declares]
  exact map (fun _ => List.mem_cons_self) ps

theorem block (b : Block) : Picks legacy [.block b] (idents (b.outline legacy)) :=
  single List.mem_cons_self

theorem function (name : Option Ident) (ps : List Pattern) (b : Block) :
    Picks legacy (name.toList.map .name ++ ps.map .pattern ++ [.block b])
      (idents (Pattern.declares legacy ps) ++ idents (b.outline legacy)) :=
  ((names legacy name).append (declares legacy ps)).append (block legacy b)

theorem body (b : Body) : Picks legacy [b.fragment] (idents (b.outline legacy)) := by
  cases b with
  | block b => exact block legacy b
  | expr e => exact expr legacy e

theorem declared (p : Pattern) : Picks legacy [.pattern p] (idents (p.declare legacy)) :=
  single List.mem_cons_self

theorem assigned (p : Pattern) : Picks legacy [.pattern p] (idents (p.assign legacy)) :=
  single (List.mem_cons_of_mem _ List.mem_cons_self)

theorem of_exprs {es : List Expr} {is : List Ident} (h : Picks legacy (es.map .expr) is) :
    is.Subperm (idents (Expr.outlines legacy es)) := by
  induction es generalizing is with
  | nil => exact h.of_nil ▸ .refl _
  | cons e es ih =>
      cases h with
      | cons he hes hsub =>
          obtain rfl := List.mem_singleton.mp he
          rw [Expr.outlines, Item.idents_append]
          exact hsub.trans ((List.Subperm.refl _).append (ih hes))

theorem stmt (s : Stmt) : Picks legacy [.stmt s] (idents (s.outline legacy)) := single List.mem_cons_self

end Picks

variable (legacy : Bool)

theorem picks_expr {e : Expr} (hword : (expr e).isWord = false) :
    Picks legacy e.fragments (idents (e.outline legacy)) := by
  cases e with
  | ident | privateName | literal => cases hword
  | template s es => simpa [Expr.outline] using Picks.exprs legacy es
  | tagged s tag quasi =>
      simpa [Expr.outline] using (Picks.expr legacy tag).append (Picks.expr legacy quasi)
  | spread s e | unary s op e | update s op e | paren s e | await s e | typed s kind e =>
      simpa [Expr.outline] using Picks.expr legacy e
  | array s es | sequence s es => simpa [Expr.outline] using Picks.exprs legacy es
  | object s ms =>
      rw [Expr.outline, Member.idents_outlines]
      exact .map (fun _ => List.mem_cons_self) ms
  | function s name ps b isAsync isGenerator =>
      simpa [Expr.outline] using Picks.function legacy name ps b
  | arrow s ps b isAsync =>
      simpa [Expr.outline] using (Picks.declares legacy ps).append (Picks.body legacy b)
  | classExpr s name => simpa [Expr.outline] using Picks.names legacy name
  | call s c as optional | new s c as =>
      simpa [Expr.outline] using (Picks.expr legacy c).append (Picks.exprs legacy as)
  | member s o p computed optional =>
      rw [Expr.outline, Item.idents_append]
      exact (Picks.expr legacy o).append (Picks.key legacy computed p)
  | binary s op l r => simpa [Expr.outline] using (Picks.expr legacy l).append (Picks.expr legacy r)
  | assign s op l r => simpa [Expr.outline] using (Picks.assigned legacy l).append (Picks.expr legacy r)
  | conditional s t c a =>
      simpa [Expr.outline] using
        (Picks.expr legacy t).append ((Picks.expr legacy c).append (Picks.expr legacy a))
  | yield s e delegate =>
      cases e with
      | none => simpa [Expr.outline] using Picks.nil
      | some e => simpa [Expr.outline] using Picks.expr legacy e
  | this | super | importKeyword | metaProperty | jsx | unsupported => simpa [Expr.outline] using Picks.nil

theorem picks_member {m : Member} (htidy : (member m).Tidy) :
    Picks legacy m.fragments (idents (m.outline legacy)) := by
  cases m with
  | property s key value computed isShort =>
      rw [Member.outline_property, Item.idents_append]
      refine (Picks.key legacy computed key).append ?_
      split
      · rename_i i
        obtain rfl := htidy.2 rfl
        exact Picks.expr legacy (.ident i)
      · exact Picks.expr legacy value
  | method s key ps b computed kind =>
      have h := (Picks.key legacy computed key).append
        ((Picks.declares legacy ps).append (Picks.block legacy b))
      simpa [Member.outline] using h
  | spread s e => simpa [Member.outline] using Picks.expr legacy e
  | unsupported s kind => simpa [Member.outline] using Picks.nil

theorem picks_declare (p : Pattern) : Picks legacy p.fragments (idents (p.declare legacy)) := by
  cases p with
  | expr e =>
      rw [Pattern.idents_declare_expr]
      exact (Picks.expr legacy e).subperm List.nil_subperm
  | default s p e =>
      rw [Pattern.declare, Item.idents_append]
      exact (Picks.declared legacy p).append (Picks.expr legacy e)
  | array s ps =>
      rw [Pattern.declare, Pattern.idents_declareElements]
      exact .map (fun _ => List.mem_cons_self) _
  | object s es =>
      rw [Pattern.declare, Entry.idents_declares]
      exact .map (fun _ => List.mem_cons_self) es
  | rest s p =>
      rw [Pattern.idents_declare_rest]
      exact (Picks.assigned legacy p).subperm List.nil_subperm

theorem picks_assign (p : Pattern) : Picks legacy p.fragments (idents (p.assign legacy)) := by
  cases p with
  | expr e => exact Picks.expr legacy e
  | default s p e =>
      rw [Pattern.assign, Item.idents_append]
      exact (Picks.assigned legacy p).append (Picks.expr legacy e)
  | array s ps =>
      rw [Pattern.assign, Pattern.idents_assignElements]
      exact .map (fun _ => List.mem_cons_of_mem _ List.mem_cons_self) _
  | object s es =>
      rw [Pattern.assign, Entry.idents_assigns]
      exact .map (fun _ => List.mem_cons_of_mem _ List.mem_cons_self) es
  | rest s p => exact Picks.assigned legacy p

theorem picks_declaredEntry (e : Entry) : Picks legacy e.fragments (idents (e.declare legacy)) := by
  cases e with
  | rest s p =>
      rw [Entry.idents_declare_rest]
      exact (Picks.assigned legacy p).subperm List.nil_subperm
  | property s key value computed isShort =>
      have hvalue := Picks.declared legacy value
      have hnone : Picks legacy [.pattern value] [] := hvalue.subperm List.nil_subperm
      rw [Entry.declare_property, Item.idents_append]
      refine (Picks.key legacy computed key).append ?_
      cases isShort with
      | true => cases key <;> cases value <;> first | exact hnone | exact hvalue
      | false =>
          cases value with
          | expr e => cases e <;> exact hnone
          | rest => exact hnone
          | default | array | object => exact hvalue

theorem picks_assignedEntry {e : Entry} (htidy : e.Tidy) :
    Picks legacy e.fragments (idents (e.assign legacy)) := by
  cases e with
  | rest s p => exact Picks.assigned legacy p
  | property s key value computed isShort =>
      have hvalue := Picks.assigned legacy value
      rw [Entry.assign_property, Item.idents_append]
      refine (Picks.key legacy computed key).append ?_
      cases isShort with
      | false => exact hvalue
      | true =>
          cases key with
          | ident i =>
              obtain rfl | ⟨t, e, rfl⟩ := htidy i rfl
              · exact hvalue
              · exact hvalue
          | _ => exact hvalue.subperm List.nil_subperm

theorem picks_optional (o : Option Expr) :
    Picks legacy (o.toList.map .expr) (o.elim [] fun e => idents (e.outline legacy)) :=
  .option (fun _ => List.mem_cons_self) o

theorem picks_head (h : Head) : Picks legacy [h.fragment] (idents (h.outline legacy)) := by
  cases h with
  | declare v => exact .single List.mem_cons_self
  | target p => exact Picks.assigned legacy p

theorem idents_declarator (d : Declarator) : idents (Declarator.outlines legacy [d]) =
    (d.initializer.toList.flatMap fun e => idents (e.outline legacy)) ++
      idents (d.target.declare legacy) := by
  obtain ⟨s, target, init⟩ := d
  cases init <;> simp [Declarator.outlines, Declarator.initializer, Declarator.target]

/-- An initializer in the header of an enumerating loop is counted apart from the declaration. -/
theorem picks_loopHead (h : Head) : Picks legacy h.loopFragments (idents (h.outline legacy)) := by
  cases h with
  | target p => exact Picks.assigned legacy p
  | declare v =>
      obtain ⟨s, kind, ds⟩ := v
      have hinits : Picks legacy ((ds.filterMap Declarator.initializer).map .expr)
          (ds.flatMap fun d => d.initializer.toList.flatMap fun e => idents (e.outline legacy)) := by
        rw [← List.flatMap_assoc, ← List.filterMap_eq_flatMap_toList]
        exact .map (fun _ => List.mem_cons_self) _
      have hperm : (idents (Declarator.outlines legacy ds)).Perm
          ((ds.flatMap fun d => idents (d.target.declare legacy)) ++
            ds.flatMap fun d => d.initializer.toList.flatMap fun e => idents (e.outline legacy)) := by
        simp only [Declarator.idents_outlines legacy ds, idents_declarator]
        exact (List.flatMap_append_perm ds _ _).symm.trans List.perm_append_comm
      exact ((Picks.single List.mem_cons_self).append hinits).subperm hperm.subperm

/-- What an enumerating loop runs over is resolved before its header and stands after it. -/
theorem picks_loop (h : Head) (r : Expr) (b : Stmt) :
    Picks legacy (h.loopFragments ++ [expr r, stmt b])
      (idents (r.outline legacy) ++ (idents (h.outline legacy) ++ idents (b.outline legacy))) := by
  have hall := (picks_loopHead legacy h).append ((Picks.expr legacy r).append (Picks.stmt legacy b))
  exact hall.subperm (List.perm_append_comm_assoc _ _ _).subperm

theorem picks_stmt (s : Stmt) : Picks legacy s.fragments (idents (s.outline legacy)) := by
  cases s with
  | block b => simpa [Stmt.outline] using Picks.block legacy b
  | expr s e | throw s e => simpa [Stmt.outline] using Picks.expr legacy e
  | ifElse s t c a =>
      have halternate : Picks legacy (a.toList.map .stmt) (a.elim [] fun a => idents (a.outline legacy)) :=
        .option (fun _ => List.mem_cons_self) a
      have h := (Picks.expr legacy t).append ((Picks.stmt legacy c).append halternate)
      cases a <;> simpa [Stmt.outline] using h
  | labeled s label b => simpa [Stmt.outline] using Picks.stmt legacy b
  | ret s e =>
      cases e with
      | none => simpa [Stmt.outline] using Picks.nil
      | some e => simpa [Stmt.outline] using Picks.expr legacy e
  | switch s d cs =>
      have hcases : Picks legacy (cs.map .case) (idents (Case.outlines legacy cs)) := by
        rw [Case.idents_outlines]
        exact .map (fun _ => List.mem_cons_self) cs
      simpa [Stmt.outline] using (Picks.expr legacy d).append hcases
  | tryCatch s b h f =>
      have hhandler : Picks legacy (h.toList.map .handler) (h.elim [] fun h => idents (h.outline legacy)) :=
        .option (fun _ => List.mem_cons_self) h
      have hfinalizer : Picks legacy (f.toList.map .block) (f.elim [] fun f => idents (f.outline legacy)) :=
        .option (fun _ => List.mem_cons_self) f
      have hall := (Picks.block legacy b).append (hhandler.append hfinalizer)
      cases h <;> cases f <;> simpa [Stmt.outline] using hall
  | whileLoop s t b => simpa [Stmt.outline] using (Picks.expr legacy t).append (Picks.stmt legacy b)
  | doWhile s b t => simpa [Stmt.outline] using (Picks.stmt legacy b).append (Picks.expr legacy t)
  | withObject s o b => simpa [Stmt.outline] using (Picks.expr legacy o).append (Picks.stmt legacy b)
  | forLoop s init test update b =>
      have hinit : Picks legacy (init.toList.map Head.fragment)
          (init.elim [] fun h => idents (h.outline legacy)) := by
        cases init with
        | none => exact .nil
        | some h => exact picks_head legacy h
      rw [Stmt.idents_forLoop]
      exact ((hinit.append (picks_optional legacy test)).append (picks_optional legacy update)).append
        (Picks.stmt legacy b)
  | forIn s h r b => simpa [Stmt.outline] using picks_loop legacy h r b
  | forOf s h r b isAwait => cases legacy <;> simpa [Stmt.outline] using picks_loop _ h r b
  | declare v => simpa [Stmt.outline] using Picks.single List.mem_cons_self
  | function s name ps b isAsync isGenerator =>
      simpa [Stmt.outline] using Picks.function legacy name ps b
  | classDecl s name => simpa [Stmt.outline] using Picks.names legacy name
  | imports s source names typeOnly =>
      have hnames : Picks legacy (names.map .importName) (names.flatMap fun _ => []) :=
        .map (fun _ => List.mem_cons_self) names
      simpa [Stmt.outline] using hnames.subperm List.nil_subperm
  | importAlias s name => simpa [Stmt.outline] using Picks.names legacy (some name)
  | exports s declaration =>
      have hstmt : Picks legacy (declaration.toList.map .stmt)
          (declaration.elim [] fun x => idents (x.outline legacy)) :=
        .option (fun _ => List.mem_cons_self) declaration
      simpa [Stmt.outline] using hstmt.subperm List.nil_subperm
  | enum s name ms =>
      have hmembers : Picks legacy (ms.map .enumMember) (idents (EnumMember.outlines legacy ms)) := by
        rw [EnumMember.idents_outlines]
        exact .map (fun _ => List.mem_cons_self) ms
      simpa [Stmt.outline] using (Picks.names legacy (some name)).append hmembers
  | empty | debugger | breakTo | continueTo | typeDecl | unsupported => simpa [Stmt.outline] using Picks.nil

theorem picks_stmts (ss : List Stmt) : Picks legacy (ss.map .stmt) (idents (Stmt.outlines legacy ss)) := by
  rw [Stmt.idents_outlines]
  exact .map (fun _ => List.mem_cons_self) ss

variable {legacy}

theorem picks_children : ∀ {x : Fragment} {is : List Ident}, x.isWord = false → x.Tidy →
    is ∈ x.refs legacy → Picks legacy x.children is
  | .expr e, _, hword, _, his => List.mem_singleton.mp his ▸ picks_expr legacy hword
  | .member m, _, _, htidy, his => List.mem_singleton.mp his ▸ picks_member legacy htidy
  | .pattern p, _, _, _, his => by
      obtain rfl | rfl := List.mem_pair.mp his
      · exact picks_declare legacy p
      · exact picks_assign legacy p
  | .entry e, _, _, htidy, his => by
      obtain rfl | rfl := List.mem_pair.mp his
      · exact picks_declaredEntry legacy e
      · exact picks_assignedEntry legacy htidy
  | .stmt s, _, _, _, his => List.mem_singleton.mp his ▸ picks_stmt legacy s
  | .block (.mk _ ss), _, _, _, his => by
      obtain rfl := List.mem_singleton.mp his
      simpa [Block.outline, Block.statements] using picks_stmts legacy ss
  | .case (.mk _ test ss), _, _, _, his => by
      obtain rfl := List.mem_singleton.mp his
      have hall := (picks_optional legacy test).append (picks_stmts legacy ss)
      cases test <;> simpa [Case.outlines] using hall
  | .handler (.mk _ param b), _, _, _, his => by
      obtain rfl := List.mem_singleton.mp his
      cases param with
      | none => simpa [Handler.outline] using Picks.block legacy b
      | some p =>
          have hall := (Picks.declared legacy p).append (Picks.block legacy b)
          cases legacy <;> simpa [Handler.outline] using hall
  | .enumMember (.mk _ _ init), _, _, _, his => by
      obtain rfl := List.mem_singleton.mp his
      have hinit := picks_optional legacy init
      cases init <;> simpa [EnumMember.outlines] using hinit
  | .declarator (.mk s target init), _, _, _, his => by
      obtain rfl := List.mem_singleton.mp his
      have hall := (Picks.declared legacy target).append (picks_optional legacy init)
      refine hall.subperm (List.Perm.subperm ?_)
      cases init with
      | none => simp [Declarator.outlines]
      | some e => simpa [Declarator.outlines] using List.perm_append_comm
  | .variables (.mk _ _ ds), _, _, _, his => by
      obtain rfl := List.mem_singleton.mp his
      rw [Variables.outline, Declarator.idents_outlines]
      exact .map (fun _ => List.mem_cons_self) ds
  | .loopDeclarator (.mk _ target _), _, _, _, his =>
      List.mem_singleton.mp his ▸ Picks.declared legacy target
  | .loopVariables (.mk _ _ ds), _, _, _, his =>
      List.mem_singleton.mp his ▸ .map (fun _ => List.mem_cons_self) ds
  | .program p, _, _, _, his =>
      List.mem_singleton.mp his ▸ (picks_stmts legacy p.body).subperm List.nil_subperm
  | .importName i, _, _, _, his => List.mem_singleton.mp his ▸ Picks.names legacy (some i.name)
  | .name _, _, hword, _, _ => by cases hword

end Fragment

theorem Text.Draws.subperm {t : Text} {sp : Span} {is js : List Ident} (h : t.Draws sp js)
    (hsub : is.Subperm js) : t.Draws sp is := by
  obtain ⟨ks, hperm, hks⟩ := hsub
  have hdraws := h.sublist hks
  refine ⟨fun i hi => hdraws.drawn i (hperm.mem_iff.mpr hi), ?_⟩
  exact (hperm.pairwise_iff fun h => h.symm).mp hdraws.apart

namespace Source

def Scatters (s : Source) (ls : List Label) (is : List Ident) : Prop :=
  ∃ iss, List.Forall₂ (fun l js => s.text.Draws (s.span l) js) ls iss ∧ is.Subperm iss.flatten

variable {s : Source} {ls ms : List Label} {is js : List Ident}

theorem Scatters.nil : s.Scatters [] [] := ⟨[], .nil, .refl _⟩

theorem Scatters.single {l : Label} (h : s.text.Draws (s.span l) is) : s.Scatters [l] is :=
  ⟨[is], .cons h .nil, by rw [List.flatten_singleton]⟩

theorem Scatters.append (h : s.Scatters ls is) (h' : s.Scatters ms js) :
    s.Scatters (ls ++ ms) (is ++ js) := by
  obtain ⟨iss, hls, his⟩ := h
  obtain ⟨jss, hms, hjs⟩ := h'
  refine ⟨iss ++ jss, List.rel_append hls hms, ?_⟩
  rw [List.flatten_append]
  exact his.append hjs

theorem Scatters.subperm (h : s.Scatters ls js) (his : is.Subperm js) : s.Scatters ls is := by
  obtain ⟨iss, hls, hjs⟩ := h
  exact ⟨iss, hls, his.trans hjs⟩

theorem drawn_of_mem_flatten {iss : List (List Ident)}
    (h : List.Forall₂ (fun l js => s.text.Draws (s.span l) js) ls iss) {i : Ident} (hi : i ∈ iss.flatten) :
    ∃ l ∈ ls, i.Drawn s.text (s.span l) := by
  induction h with
  | nil => cases hi
  | cons hl _ ih =>
      rcases List.mem_append.mp hi with hi | hi
      · exact ⟨_, List.mem_cons_self, hl.drawn i hi⟩
      · obtain ⟨m, hm, hdrawn⟩ := ih hi
        exact ⟨m, List.mem_cons_of_mem _ hm, hdrawn⟩

theorem Scatters.draws {sp : Span} (h : s.Scatters ls is) (hinside : ∀ l ∈ ls, (s.span l).Inside sp)
    (hapart : ls.Pairwise fun l m => (s.span l).Apart (s.span m)) : s.text.Draws sp is := by
  obtain ⟨iss, hls, his⟩ := h
  refine Text.Draws.subperm ⟨fun i hi => ?_, ?_⟩ his
  · obtain ⟨l, hl, hdrawn⟩ := drawn_of_mem_flatten hls hi
    exact ⟨hdrawn.inside.trans (hinside l hl), hdrawn.name⟩
  clear his hinside
  induction hls with
  | nil => exact .nil
  | @cons l js ls iss hl hls ih =>
      obtain ⟨hfirst, hrest⟩ := List.pairwise_cons.mp hapart
      refine List.pairwise_append.mpr ⟨hl.apart, ih hrest, fun i hi j hj => ?_⟩
      obtain ⟨m, hm, hdrawn⟩ := drawn_of_mem_flatten hls hj
      exact (hfirst m hm).inside (hl.drawn i hi).inside hdrawn.inside

def Draws (s : Source) (legacy : Bool) (l : Label) (xs : List Fragment) : Prop :=
  ∀ is, Fragment.Picks legacy xs is → s.text.Draws (s.span l) is

theorem Words.draws {legacy : Bool} {l : Label} {x : Fragment} (h : s.Words l x)
    (horder : (s.span l).start ≤ (s.span l).stop) : s.Draws legacy l [x] := by
  intro is his
  obtain ⟨js, hjs, hsub⟩ := his.of_single
  refine Text.Draws.subperm ?_ hsub
  cases h with
  | ident => exact List.mem_singleton.mp hjs ▸ draws_ident horder
  | name | privateName | literal => exact List.mem_singleton.mp hjs ▸ s.text.draws_nil _

end Source

namespace Node

open Fragment (Picks picks_children)

variable {legacy : Bool} {n : Node} {xs ys : List Fragment}

theorem Step.picks (hstep : n.Step xs ys) {is : List Ident} (h : Picks legacy ys is) :
    Picks legacy xs is := by
  cases hstep with
  | form _ hword htidy => exact h.replace fun _ => picks_children hword htidy
  | stand hchildren _ hword htidy =>
      exact h.replace fun _ hjs => hchildren ▸ picks_children hword htidy hjs
  | member i => exact h.replace (List.forall_mem_singleton.mpr (Picks.expr legacy (.ident i)))
  | entry i =>
      have hdeclared := Picks.declared legacy (.expr (.ident i))
      have hassigned := Picks.assigned legacy (.expr (.ident i))
      exact h.replace (List.forall_mem_cons.mpr ⟨hdeclared, List.forall_mem_singleton.mpr hassigned⟩)
  | entryDefault i e =>
      have hdeclared := Picks.declared legacy (.default n.span (.expr (.ident i)) e)
      have hassigned := Picks.assigned legacy (.default n.span (.expr (.ident i)) e)
      exact h.replace (List.forall_mem_cons.mpr ⟨hdeclared, List.forall_mem_singleton.mpr hassigned⟩)
  | operands s es => exact (Picks.expr legacy (.sequence s es)).subperm (Picks.of_exprs legacy h)
  | target e => exact h.replace fun _ hjs => .single (List.mem_cons_of_mem _ hjs)

theorem Makes.scatters {ls : List Label} (hn : n.Nests)
    (h : n.Makes (n.source.Draws legacy) ls xs) : ∀ is, Picks legacy xs is → n.source.Scatters ls is := by
  induction h with
  | nil =>
      intro is h
      exact h.of_nil ▸ .nil
  | append _ _ hxs hys =>
      intro is h
      obtain ⟨js, ks, hjs, hks, hsub⟩ := h.of_append
      exact ((hxs js hjs).append (hys ks hks)).subperm hsub
  | part _ h => exact fun is his => .single (h is his)
  | word h => exact fun is his => .single (h.draws hn.order is his)
  | wordOf hp h => exact fun is his => .single (h.draws (hn.inside _ hp).order is his)
  | plain _ hchildren hword htidy =>
      intro is h
      have hnone : Picks legacy [] is :=
        h.replace fun _ hjs => hchildren ▸ picks_children hword htidy hjs
      exact hnone.of_nil ▸ .nil
  | step _ hstep ih => exact fun is h => ih is (hstep.picks h)
  | header init _ _ _ h =>
      intro is hpicks
      refine .single (h is (hpicks.replace (List.forall_mem_singleton.mpr ?_)))
      simpa [headerVariables, Variables.declarators, Declarator.target] using Picks.declared legacy _

/-- The parts of a node stand inside it without overlapping, and so does what is drawn from them. -/
theorem Yields.draws (hn : n.Nests) (hs : n.Spreads)
    (h : n.Yields (n.source.Draws legacy) xs) : n.source.Draws legacy n.label xs := by
  intro is his
  obtain ⟨ls, hls, h⟩ := h
  have hscatter := h.scatters hn is his
  rcases hls with rfl | hls
  · refine hscatter.draws (fun l hl => ?_) (List.pairwise_singleton _ _)
    obtain rfl := List.mem_singleton.mp hl
    exact hn.span_inside
  refine hscatter.draws (fun l hl => ?_) ?_
  · obtain ⟨p, hp, rfl⟩ := List.mem_map.mp (hls.subset hl)
    exact hn.inside p hp
  · obtain ⟨ms, hperm, hms⟩ := hls
    have hspread : (n.parts.map Part.label).Pairwise fun l m => (n.source.span l).Apart (n.source.span m) :=
      List.pairwise_map.mpr hs
    exact (hperm.pairwise_iff fun h => h.symm).mp (hspread.sublist hms)

end Node

theorem Tree.part_draws {code : Text} {t : Tree} (hnested : t.Nested code) (hapart : t.Apart) (s : Source)
    (legacy : Bool) : (t.part s).reads.Gives (s.Draws legacy t.label) := by
  have hgives := Tree.part_gives (s := s) (t := t) (Q := fun n => n.Nests ∧ n.Spreads)
    (R := s.Draws legacy) ?_ fun u hu => ⟨hnested.nests s u hu, hapart.spreads s u hu⟩
  · rwa [Tree.part_eq] at hgives ⊢
  · rintro n rfl ⟨hnests, hspreads⟩ xs hxs
    exact hxs.draws hnests hspreads

end ScriptSplit
