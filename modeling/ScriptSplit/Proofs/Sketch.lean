import ScriptSplit.Proofs.Phrase

namespace ScriptSplit

open Parts

namespace Parts

@[simp] theorem map_snd_plain (ps : List Phrase) : (plain ps).map Prod.snd = ps := by
  simp [plain, Function.comp_def]

@[simp] theorem map_snd_within (names : List String) (parts : Parts) :
    (within names parts).map Prod.snd = parts.map Prod.snd := by
  simp [within, Function.comp_def]

@[simp] theorem map_snd_inTurn {α : Type} (names : α → List String) (phrase : α → Phrase)
    (xs : List α) : (inTurn names phrase xs).map Prod.snd = xs.map phrase := by
  apply List.ext_getElem?
  intro i
  simp [inTurn, Function.comp_def]

@[simp] theorem map_snd_computedKey (computed : Bool) (key : Expr) :
    (computedKey computed key).map Prod.snd = if computed then [.expr key] else [] :=
  map_snd_plain _

@[simp] theorem map_snd_ofFunction (params : List Pattern) (body : Phrase) :
    (ofFunction params body).map Prod.snd = params.map .declared ++ [body] := by
  simp [ofFunction]

@[simp] theorem map_snd_ofStatements (legacy : Bool) (ss : List Stmt) :
    (ofStatements legacy ss).map Prod.snd = ss.map .stmt := by
  simp [ofStatements]

end Parts

namespace Phrase

def pieces (p : Phrase) : List Phrase := (p.parts false).map Prod.snd

theorem pieces_eq (legacy : Bool) : ∀ p : Phrase, (p.parts legacy).map Prod.snd = p.pieces
  | .block b => by simp [pieces, parts]
  | .case (.mk _ test ss) => by simp [pieces, parts]
  | .handler (.mk _ none b) | .handler (.mk _ (some p) b) => by simp [pieces, parts, Handler.parts]
  | .variables (.mk _ _ ds) | .declarator (.mk _ p init) | .enumMember (.mk _ _ init) => rfl
  | .head (.declare v) | .head (.target p) => rfl
  | .expr _ | .shorthand _ | .member _ | .declared _ | .declaredEntry _ | .assigned _
  | .assignedEntry _ | .stmt _ => rfl

noncomputable def weight : Phrase → Nat
  | .expr e => sizeOf e
  | .shorthand _ => 0
  | .member m => sizeOf m
  | .declared p => sizeOf p
  | .declaredEntry e => sizeOf e
  | .assigned p => sizeOf p
  | .assignedEntry e => sizeOf e
  | .block b => sizeOf b
  | .stmt s => sizeOf s
  | .case c => sizeOf c
  | .handler h => sizeOf h
  | .variables v => sizeOf v
  | .declarator d => sizeOf d
  | .head h => sizeOf h
  | .enumMember m => sizeOf m

theorem weight_body (b : Body) : b.phrase.weight < sizeOf b := by
  cases b <;> simp [Body.phrase, weight]

theorem weight_lt : ∀ p : Phrase, ∀ q ∈ p.pieces, q.weight < p.weight
  | .expr e => by
      cases e <;> simp [pieces, parts, Expr.parts, weight, or_imp, forall_and] <;>
        grind [→ List.sizeOf_lt_of_mem, Option.some.sizeOf_spec, weight, weight_body]
  | .shorthand i => by simp [pieces, parts]
  | .member e => by
      cases e with
      | property s key value computed shorthand =>
          simp only [pieces, parts, Member.parts, List.map_append, map_snd_computedKey, List.mem_append,
            or_imp, forall_and]
          constructor
          · cases computed <;> simp [weight] <;> omega
          · split <;> simp [weight] <;> omega
      | method | spread | unsupported =>
          simp [pieces, parts, Member.parts, weight, or_imp, forall_and] <;>
            grind [→ List.sizeOf_lt_of_mem, weight]
  | .declared p => by
      cases p <;> simp [pieces, parts, Pattern.declaredParts, weight] <;>
        grind [→ List.sizeOf_lt_of_mem, Option.some.sizeOf_spec, weight]
  | .declaredEntry e => by
      cases e with
      | property s key value computed shorthand =>
          simp only [pieces, parts, Entry.declaredParts, List.map_append, map_snd_computedKey, List.mem_append,
            or_imp, forall_and]
          constructor
          · cases computed <;> simp [weight] <;> omega
          · split <;> simp [weight] <;> omega
      | rest => simp [pieces, parts, Entry.declaredParts]
  | .assigned p => by
      cases p <;> simp [pieces, parts, Pattern.assignedParts, weight] <;>
        grind [→ List.sizeOf_lt_of_mem, Option.some.sizeOf_spec, weight]
  | .assignedEntry e => by
      cases e with
      | property s key value computed shorthand =>
          simp only [pieces, parts, Entry.assignedParts, List.map_append, map_snd_computedKey, List.mem_append,
            or_imp, forall_and]
          constructor
          · cases computed <;> simp [weight] <;> omega
          · split <;> simp [weight] <;> omega
      | rest s p =>
          intro q hq
          rw [List.mem_singleton.mp hq]
          simp only [weight, Entry.rest.sizeOf_spec]
          omega
  | .stmt s => by
      cases s <;> simp [pieces, parts, Stmt.parts, weight, or_imp, forall_and] <;>
        grind [→ List.sizeOf_lt_of_mem, Option.some.sizeOf_spec, weight]
  | .handler h => by
      obtain ⟨s, _ | p, b⟩ := h <;> simp [pieces, parts, Handler.parts, weight] <;> omega
  | .block b | .case b | .variables b | .declarator b | .head b | .enumMember b => by
      cases b <;> simp [pieces, parts, Block.statements, weight, or_imp, forall_and] <;>
        grind [→ List.sizeOf_lt_of_mem, Option.some.sizeOf_spec, weight]

theorem induction {P : Phrase → Prop} (step : ∀ p, (∀ q ∈ p.pieces, P q) → P p) (p : Phrase) : P p :=
  step p fun q hq =>
    have := p.weight_lt q hq
    induction step q
termination_by p.weight

def outline (legacy : Bool) : Phrase → List Item
  | .expr e => e.outline legacy
  | .shorthand i => [.shorthand i]
  | .member m => m.outline legacy
  | .declared p => p.declare legacy
  | .declaredEntry e => e.declare legacy
  | .assigned p => p.assign legacy
  | .assignedEntry e => e.assign legacy
  | .block b => b.outline legacy
  | .stmt s => s.outline legacy
  | .case c => Case.outlines legacy [c]
  | .handler h => h.outline legacy
  | .variables v => v.outline legacy
  | .declarator d => Declarator.outlines legacy [d]
  | .head h => h.outline legacy
  | .enumMember m => EnumMember.outlines legacy [m]

end Phrase

/-- An outline in which the outlines of parts are left open. -/
inductive Sketch where
  | part (p : Phrase)
  | item (i : Item)
  | scoped (ss : List Sketch)

namespace Sketch

mutual

def items (legacy : Bool) : Sketch → List Item
  | .part p => p.outline legacy
  | .item i => [i]
  | .scoped ss => [.scoped (allItems legacy ss)]

def allItems (legacy : Bool) : List Sketch → List Item
  | [] => []
  | s :: ss => s.items legacy ++ allItems legacy ss

end

mutual

def parts : Sketch → List Phrase
  | .part p => [p]
  | .item _ => []
  | .scoped ss => allParts ss

def allParts : List Sketch → List Phrase
  | [] => []
  | s :: ss => s.parts ++ allParts ss

end

def ofParts (ps : List Phrase) : List Sketch := ps.map .part

def shadows (xs : List String) : List Sketch := xs.map fun x => .item (.shadow x)

attribute [simp] items allItems parts allParts

@[simp] theorem allItems_append (legacy : Bool) (ss ts : List Sketch) :
    allItems legacy (ss ++ ts) = allItems legacy ss ++ allItems legacy ts := by
  induction ss with
  | nil => rfl
  | cons s ss ih => simp [ih]

@[simp] theorem allItems_ofParts (legacy : Bool) (ps : List Phrase) :
    allItems legacy (ofParts ps) = ps.flatMap (Phrase.outline legacy) := by
  induction ps with
  | nil => rfl
  | cons p ps ih => simpa [ofParts] using ih

@[simp] theorem allItems_shadows (legacy : Bool) (xs : List String) :
    allItems legacy (shadows xs) = xs.map .shadow := by
  induction xs with
  | nil => rfl
  | cons x xs ih => simpa [shadows] using ih

@[simp] theorem allParts_append (ss ts : List Sketch) :
    allParts (ss ++ ts) = allParts ss ++ allParts ts := by
  induction ss with
  | nil => rfl
  | cons s ss ih => simp [ih]

@[simp] theorem allParts_ofParts (ps : List Phrase) : allParts (ofParts ps) = ps := by
  induction ps with
  | nil => rfl
  | cons p ps ih => simpa [ofParts] using ih

@[simp] theorem allParts_shadows (xs : List String) : allParts (shadows xs) = [] := by
  induction xs with
  | nil => rfl
  | cons x xs ih => simpa [shadows] using ih

end Sketch

open Sketch (ofParts shadows)

def refusing (r : Refusal) : List Sketch := [.item (.refuse r)]

def Sketch.function (name : Option Ident) (params : List Pattern) (body : Phrase) : Sketch :=
  .scoped (shadows (ownName name) ++ ofParts (params.map .declared ++ [body]))

def Expr.sketch : Expr → List Sketch
  | .ident i => [.item (.reference i)]
  | .function _ name ps b _ _ => [.function name ps (.block b)]
  | .arrow _ ps b _ => [.function none ps b.phrase]
  | .classExpr s _ => refusing (.construct .classExpr s.position)
  | .jsx s kind => refusing (.construct (.jsx kind) s.position)
  | .unsupported s kind => refusing (.construct (.other kind) s.position)
  | e => ofParts (e.parts.map Prod.snd)

def Member.sketch : Member → List Sketch
  | .method _ key ps b computed _ =>
      ofParts ((computedKey computed key).map Prod.snd) ++ [.function none ps (.block b)]
  | .unsupported s kind => refusing (.construct (.other kind) s.position)
  | m => ofParts (m.parts.map Prod.snd)

def Pattern.declaredSketch : Pattern → List Sketch
  | .expr (.ident i) => shadows [i.name]
  | .expr (.member s ..) => refusing (.construct .memberTarget s.position)
  | .expr e => refusing (.patternForm e.form e.span.position)
  | .rest _ (.expr (.ident i)) => shadows [i.name]
  | .rest s _ => refusing (.restTarget s.position)
  | p => ofParts (p.declaredParts.map Prod.snd)

def Entry.declaredValue (s : Span) (key : Expr) (value : Pattern) : Bool → List Sketch
  | true =>
      match key, value with
      | .ident _, .default s p e => ofParts [.declared (.default s p e)]
      | .ident i, _ => shadows [i.name]
      | _, _ => refusing (.propertyKey s.position)
  | false =>
      match value with
      | .expr (.ident i) => ofParts [.declared (.expr (.ident i))]
      | .expr e => refusing (.patternValue e.form e.span.position)
      | .rest s _ => refusing (.patternValue "RestElement" s.position)
      | value => ofParts [.declared value]

def Entry.declaredSketch : Entry → List Sketch
  | .property s key value computed shorthand =>
      ofParts ((computedKey computed key).map Prod.snd) ++ declaredValue s key value shorthand
  | .rest _ (.expr (.ident i)) => shadows [i.name]
  | .rest s _ => refusing (.restTarget s.position)

def Entry.assignedValue (s : Span) (key : Expr) (value : Pattern) : Bool → List Sketch
  | true =>
      match key, value with
      | .ident i, .default _ _ e => ofParts [.shorthand i, .expr e]
      | .ident i, _ => ofParts [.shorthand i]
      | _, _ => refusing (.propertyKey s.position)
  | false => ofParts [.assigned value]

def Entry.assignedSketch : Entry → List Sketch
  | .property s key value computed shorthand =>
      ofParts ((computedKey computed key).map Prod.snd) ++ assignedValue s key value shorthand
  | .rest _ p => ofParts [.assigned p]

/-- The statements of a list, with the functions among them hidden from the start. -/
def Sketch.ofStatements (ss : List Stmt) : List Sketch :=
  shadows (functionNames ss) ++ ofParts (ss.map .stmt)

def Sketch.inner (p : Phrase) : Sketch := .scoped [.part p]

def Stmt.sketch (legacy : Bool) : Stmt → List Sketch
  | .block b => [.inner (.block b)]
  | .ifElse _ t c a => .part (.expr t) :: .inner (.stmt c) :: a.toList.map fun a => .inner (.stmt a)
  | .tryCatch _ b h f =>
      .inner (.block b) ::
        (ofParts (h.toList.map .handler) ++ f.toList.map fun f => .inner (.block f))
  | .whileLoop _ t b => [.part (.expr t), .inner (.stmt b)]
  | .doWhile _ b t => [.inner (.stmt b), .part (.expr t)]
  | .withObject _ o b => [.part (.expr o), .inner (.stmt b)]
  | .forLoop _ init test update b =>
      [.scoped (ofParts (init.toList.map .head ++ test.toList.map .expr ++ update.toList.map .expr) ++
        [.inner (.stmt b)])]
  | .forIn _ h r b => [.part (.expr r), .scoped [.part (.head h), .inner (.stmt b)]]
  | .forOf _ h r b _ =>
      if legacy then [.part (.expr r), .part (.head h), .inner (.stmt b)]
      else [.part (.expr r), .scoped [.part (.head h), .inner (.stmt b)]]
  | .function _ name ps b _ _ => shadows (ownName name) ++ [.function none ps (.block b)]
  | .enum _ i ms => ofParts (ms.map .enumMember) ++ shadows [i.name]
  | .classDecl s _ => refusing (.construct .classDecl s.position)
  | .imports s .. => refusing (.construct .importStmt s.position)
  | .importAlias s _ => refusing (.construct .importStmt s.position)
  | .exports s _ => refusing (.construct .exportStmt s.position)
  | .unsupported s kind => refusing (.construct (.other kind) s.position)
  | s => ofParts (s.parts.map Prod.snd)

def Handler.sketch (legacy : Bool) : Handler → List Sketch
  | .mk _ none b => [.inner (.block b)]
  | .mk _ (some p) b =>
      if legacy then [.inner (.declared p), .inner (.block b)]
      else [.scoped [.part (.declared p), .inner (.block b)]]

def Phrase.sketch (legacy : Bool) : Phrase → List Sketch
  | .expr e => e.sketch
  | .shorthand i => [.item (.shorthand i)]
  | .member m => m.sketch
  | .declared p => p.declaredSketch
  | .declaredEntry e => e.declaredSketch
  | .assignedEntry e => e.assignedSketch
  | .block b => Sketch.ofStatements b.statements
  | .stmt s => s.sketch legacy
  | .case (.mk _ test ss) => ofParts (test.toList.map .expr) ++ [.scoped (Sketch.ofStatements ss)]
  | .handler h => h.sketch legacy
  | p => ofParts p.pieces

section Lists

variable (legacy : Bool)

theorem flatMap_of_cons {α : Type} {f : List α → List Item} {g : α → List Item} (hnil : f [] = [])
    (hcons : ∀ x xs, f (x :: xs) = g x ++ f xs) (xs : List α) : f xs = xs.flatMap g := by
  induction xs with
  | nil => exact hnil
  | cons x xs ih => rw [hcons, ih, List.flatMap_cons]

theorem Expr.outlines_eq (es : List Expr) :
    Expr.outlines legacy es = es.flatMap (Expr.outline legacy) :=
  flatMap_of_cons rfl (fun _ _ => rfl) es

theorem Member.outlines_eq (ms : List Member) :
    Member.outlines legacy ms = ms.flatMap (Member.outline legacy) :=
  flatMap_of_cons rfl (fun _ _ => rfl) ms

theorem Pattern.declares_eq (ps : List Pattern) :
    Pattern.declares legacy ps = ps.flatMap (Pattern.declare legacy) :=
  flatMap_of_cons rfl (fun _ _ => rfl) ps

theorem Entry.declares_eq (es : List Entry) :
    Entry.declares legacy es = es.flatMap (Entry.declare legacy) :=
  flatMap_of_cons rfl (fun _ _ => rfl) es

theorem Entry.assigns_eq (es : List Entry) :
    Entry.assigns legacy es = es.flatMap (Entry.assign legacy) :=
  flatMap_of_cons rfl (fun _ _ => rfl) es

theorem Stmt.outlines_eq (ss : List Stmt) :
    Stmt.outlines legacy ss = ss.flatMap (Stmt.outline legacy) :=
  flatMap_of_cons rfl (fun _ _ => rfl) ss

theorem Pattern.declareElements_eq (ps : List (Option Pattern)) :
    Pattern.declareElements legacy ps =
      (ps.filterMap id).flatMap (Pattern.declare legacy) := by
  induction ps with
  | nil => rfl
  | cons p ps ih =>
      cases p with
      | none => exact ih
      | some p =>
          change _ = (p :: ps.filterMap id).flatMap _
          rw [Pattern.declareElements, List.flatMap_cons, ih]

theorem Pattern.assignElements_eq (ps : List (Option Pattern)) :
    Pattern.assignElements legacy ps =
      (ps.filterMap id).flatMap (Pattern.assign legacy) := by
  induction ps with
  | nil => rfl
  | cons p ps ih =>
      cases p with
      | none => exact ih
      | some p =>
          change _ = (p :: ps.filterMap id).flatMap _
          rw [Pattern.assignElements, List.flatMap_cons, ih]

theorem Case.outlines_eq (cs : List Case) :
    Case.outlines legacy cs = cs.flatMap fun c => Case.outlines legacy [c] := by
  refine flatMap_of_cons rfl (fun c cs => ?_) cs
  obtain ⟨_, _ | e, ss⟩ := c <;> simp [Case.outlines]

theorem EnumMember.outlines_eq (ms : List EnumMember) :
    EnumMember.outlines legacy ms = ms.flatMap fun m => EnumMember.outlines legacy [m] := by
  refine flatMap_of_cons rfl (fun m ms => ?_) ms
  obtain ⟨_, _, _ | e⟩ := m <;> simp [EnumMember.outlines]

theorem Declarator.outlines_eq (ds : List Declarator) :
    Declarator.outlines legacy ds = ds.flatMap fun d => Declarator.outlines legacy [d] := by
  refine flatMap_of_cons rfl (fun d ds => ?_) ds
  obtain ⟨_, p, _ | e⟩ := d <;> simp [Declarator.outlines]

end Lists

namespace Phrase

variable (legacy : Bool)

theorem expr_outline_eq (e : Expr) : e.outline legacy = Sketch.allItems legacy e.sketch := by
  cases e with
  | member s o p computed optional =>
      cases computed <;> simp [Expr.outline, Expr.sketch, Expr.parts, outline]
  | yield s e delegate => cases e <;> simp [Expr.outline, Expr.sketch, Expr.parts, outline]
  | arrow s ps b isAsync =>
      cases b <;>
        simp [Expr.outline, Expr.sketch, Sketch.function, Pattern.declares_eq, Body.phrase,
          Body.outline, List.flatMap_map, outline, ownName]
  | _ =>
      simp [Expr.outline, Expr.sketch, Expr.parts, Sketch.function, refusing, Expr.outlines_eq,
        Member.outlines_eq, Pattern.declares_eq, List.flatMap_map, shadowing_eq, outline]

theorem outline_computedKey (computed : Bool) (key : Expr) :
    (if computed then key.outline legacy else []) =
      Sketch.allItems legacy (ofParts ((computedKey computed key).map Prod.snd)) := by
  cases computed <;> simp [outline]

theorem member_outline_eq (m : Member) : m.outline legacy = Sketch.allItems legacy m.sketch := by
  cases m with
  | property s key value computed shorthand =>
      rw [Member.outline_property, outline_computedKey]
      simp only [Member.sketch, Member.parts]
      split <;> simp [outline]
  | method s key ps b computed kind =>
      simp [Member.outline, Member.sketch, outline_computedKey, Sketch.function, Pattern.declares_eq,
        List.flatMap_map, outline, ownName]
  | spread s e => simp [Member.outline, Member.sketch, Member.parts, outline]
  | unsupported s kind => rfl

theorem declare_eq (p : Pattern) : p.declare legacy = Sketch.allItems legacy p.declaredSketch := by
  cases p with
  | expr e => cases e <;> rfl
  | default s p e =>
      simp [Pattern.declare, Pattern.declaredSketch, Pattern.declaredParts, ofParts, outline]
  | array s ps =>
      simp [Pattern.declare, Pattern.declaredSketch, Pattern.declaredParts,
        Pattern.declareElements_eq, List.flatMap_map, outline]
  | object s es =>
      simp [Pattern.declare, Pattern.declaredSketch, Pattern.declaredParts, Entry.declares_eq,
        List.flatMap_map, outline]
  | rest s p => cases p with
      | expr e => cases e <;> rfl
      | _ => rfl

theorem entry_declare_eq (e : Entry) : e.declare legacy = Sketch.allItems legacy e.declaredSketch := by
  cases e with
  | property s key value computed shorthand =>
      rw [Entry.declare_property, outline_computedKey, Entry.declaredSketch, Sketch.allItems_append]
      congr 1
      cases shorthand with
      | true => cases key with
          | ident i => cases value <;> simp [Entry.declaredValue, outline, Pattern.declare]
          | _ => rfl
      | false => cases value with
          | expr e => cases e <;> rfl
          | _ => simp [Entry.declaredValue, refusing, outline, Pattern.declare]
  | rest s p => cases p with
      | expr e => cases e <;> rfl
      | _ => rfl

theorem assign_eq (p : Pattern) :
    p.assign legacy = Sketch.allItems legacy (ofParts (p.assignedParts.map Prod.snd)) := by
  cases p <;>
    simp [Pattern.assign, Pattern.assignedParts, Pattern.assignElements_eq, Entry.assigns_eq,
      List.flatMap_map, outline]

theorem entry_assign_eq (e : Entry) : e.assign legacy = Sketch.allItems legacy e.assignedSketch := by
  cases e with
  | property s key value computed shorthand =>
      rw [Entry.assign_property, outline_computedKey, Entry.assignedSketch, Sketch.allItems_append]
      congr 1
      cases shorthand with
      | true => cases key with
          | ident i => cases value <;> simp [Entry.assignedValue, outline]
          | _ => rfl
      | false => simp [Entry.assignedValue, outline]
  | rest s p => simp [Entry.assign, Entry.assignedSketch, outline]

theorem outline_ofStatements (ss : List Stmt) :
    hoisted ss ++ Stmt.outlines legacy ss = Sketch.allItems legacy (Sketch.ofStatements ss) := by
  simp [Sketch.ofStatements, hoisted_eq, Stmt.outlines_eq, List.flatMap_map, outline]

theorem stmt_outline_eq (s : Stmt) : s.outline legacy = Sketch.allItems legacy (s.sketch legacy) := by
  cases s with
  | ifElse s t c a =>
      cases a <;> simp [Stmt.outline, Stmt.sketch, Sketch.inner, outline]
  | ret s e => cases e <;> simp [Stmt.outline, Stmt.sketch, Stmt.parts, outline]
  | tryCatch s b h f =>
      cases h <;> cases f <;> simp [Stmt.outline, Stmt.sketch, Sketch.inner, outline]
  | forLoop s init test update b =>
      cases init <;> cases test <;> cases update <;>
        simp [Stmt.outline, Stmt.sketch, Sketch.inner, outline]
  | forOf s h r b awaits => cases legacy <;> simp [Stmt.outline, Stmt.sketch, Sketch.inner, outline]
  | switch s d cs =>
      rw [Stmt.outline, Case.outlines_eq]
      simp [Stmt.sketch, Stmt.parts, List.flatMap_map, outline]
  | enum s i ms =>
      rw [Stmt.outline, EnumMember.outlines_eq]
      simp [Stmt.sketch, List.flatMap_map, outline]
  | _ =>
      simp [Stmt.outline, Stmt.sketch, Stmt.parts, Sketch.function, Sketch.inner, refusing,
        Pattern.declares_eq, List.flatMap_map, shadowing_eq, outline, ownName]

theorem outline_eq : ∀ p : Phrase, p.outline legacy = Sketch.allItems legacy (p.sketch legacy)
  | .expr e => expr_outline_eq legacy e
  | .shorthand i => rfl
  | .member m => member_outline_eq legacy m
  | .declared p => declare_eq legacy p
  | .declaredEntry e => entry_declare_eq legacy e
  | .assigned p => assign_eq legacy p
  | .assignedEntry e => entry_assign_eq legacy e
  | .block (.mk _ ss) => outline_ofStatements legacy ss
  | .stmt s => stmt_outline_eq legacy s
  | .case (.mk _ test ss) => by
      cases test <;> simp [outline, sketch, Case.outlines, outline_ofStatements]
  | .handler (.mk _ param b) => by
      cases param <;> cases legacy <;>
        simp [outline, sketch, Handler.sketch, Handler.outline, Sketch.inner]
  | .variables (.mk _ _ ds) => by
      rw [outline, Variables.outline, Declarator.outlines_eq]
      simp [sketch, pieces, parts, List.flatMap_map, outline]
  | .declarator (.mk _ p init) => by
      cases init <;> simp [outline, sketch, pieces, parts, Declarator.outlines]
  | .head h => by cases h <;> simp [outline, sketch, pieces, parts, Head.outline]
  | .enumMember (.mk _ _ init) => by
      cases init <;> simp [outline, sketch, pieces, parts, EnumMember.outlines]

/-- A declared entry whose value is no target: it is refused before it is met. -/
def RefusesValue : Phrase → Prop
  | .declaredEntry (.property s key value _ false) =>
      ∃ r, Entry.declaredValue s key value false = refusing r
  | _ => False

theorem allParts_sketch : ∀ p : Phrase, ¬ p.RefusesValue →
    Sketch.allParts (p.sketch legacy) = p.pieces
  | .expr e, _ => by
      cases e <;> simp [pieces, sketch, Expr.sketch, Sketch.function, refusing, parts, Expr.parts]
  | .shorthand i, _ => rfl
  | .member e, _ => by
      cases e <;> simp [pieces, sketch, Member.sketch, Sketch.function, refusing, parts, Member.parts]
  | .declared p, _ => by
      cases p with
      | expr e => cases e <;> rfl
      | rest s p => cases p with
          | expr e => cases e <;> rfl
          | _ => rfl
      | _ => simp [pieces, sketch, Pattern.declaredSketch, parts]
  | .declaredEntry (.property s key value computed isShort), h => by
      simp only [pieces, sketch, parts, Entry.declaredSketch, Entry.declaredParts,
        Sketch.allParts_append, Sketch.allParts_ofParts, List.map_append]
      congr 1
      cases isShort with
      | true => cases key with
          | ident i => cases value <;> simp [Entry.declaredValue]
          | _ => rfl
      | false => cases value with
          | expr e => cases e with
              | ident i => simp [Entry.declaredValue]
              | _ => exact absurd ⟨_, rfl⟩ h
          | rest s p => exact absurd ⟨_, rfl⟩ h
          | _ => simp [Entry.declaredValue]
  | .declaredEntry (.rest s p), _ => by
      cases p with
      | expr e => cases e <;> rfl
      | _ => rfl
  | .assigned p, _ => by simp [sketch]
  | .assignedEntry (.property s key value computed isShort), _ => by
      simp only [pieces, sketch, parts, Entry.assignedSketch, Entry.assignedParts,
        Sketch.allParts_append, Sketch.allParts_ofParts, List.map_append]
      congr 1
      cases isShort with
      | true => cases key with
          | ident i => cases value <;> simp [Entry.assignedValue]
          | _ => rfl
      | false => simp [Entry.assignedValue]
  | .assignedEntry (.rest s p), _ => by
      simp [pieces, sketch, Entry.assignedSketch, parts, Entry.assignedParts]
  | .block b, _ => by simp [pieces, sketch, Sketch.ofStatements, parts]
  | .stmt s, _ => by
      cases s with
      | ifElse s t c a =>
          cases a <;> simp [pieces, sketch, Stmt.sketch, Sketch.inner, parts, Stmt.parts]
      | tryCatch s b h f =>
          cases f <;> simp [pieces, sketch, Stmt.sketch, Sketch.inner, parts, Stmt.parts]
      | forOf s h r b isAwait =>
          cases legacy <;> simp [pieces, sketch, Stmt.sketch, Sketch.inner, parts, Stmt.parts]
      | _ =>
          simp [pieces, sketch, Stmt.sketch, Sketch.function, Sketch.inner, refusing, parts, Stmt.parts]
  | .case (.mk _ test ss), _ => by simp [pieces, sketch, Sketch.ofStatements, parts]
  | .handler (.mk _ param b), _ => by
      cases param <;> cases legacy <;>
        simp [pieces, sketch, Handler.sketch, Sketch.inner, parts, Handler.parts]
  | .variables v, _ => by simp [sketch]
  | .declarator d, _ => by simp [sketch]
  | .head h, _ => by simp [sketch]
  | .enumMember e, _ => by simp [sketch]

theorem mem_pieces_of_sketch {p q : Phrase} (hq : q ∈ Sketch.allParts (p.sketch legacy)) :
    q ∈ p.pieces := by
  by_cases h : p.RefusesValue
  · unfold RefusesValue at h
    split at h
    · obtain ⟨r, hr⟩ := h
      simp only [sketch, Entry.declaredSketch, hr, refusing] at hq
      simp only [pieces, parts, Entry.declaredParts, List.map_append, List.mem_append]
      exact .inl (by simpa using hq)
    · exact h.elim
  · exact allParts_sketch legacy p h ▸ hq

end Phrase

end ScriptSplit
