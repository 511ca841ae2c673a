import ScriptSplit.Binding
import ScriptSplit.Proofs.Seating

namespace ScriptSplit

/-- The span that many characters further on, whatever its line and column. -/
def Span.shift (d : Int) (s : Span) : Span := ⟨s.start + d, s.stop + d, 0, 0⟩

def Ident.relocate (f : Span → Span) (i : Ident) : Ident := ⟨f i.span, i.name⟩

def ImportName.relocate (f : Span → Span) (i : ImportName) : ImportName :=
  ⟨f i.span, i.name.relocate f, i.typeOnly⟩

mutual

def Expr.relocate (f : Span → Span) : Expr → Expr
  | .ident i => .ident (i.relocate f)
  | .privateName i => .privateName (i.relocate f)
  | .this s => .this (f s)
  | .super s => .super (f s)
  | .importKeyword s => .importKeyword (f s)
  | .metaProperty s owner property => .metaProperty (f s) owner property
  | .literal s kind raw => .literal (f s) kind raw
  | .template s parts => .template (f s) (Expr.relocateAll f parts)
  | .tagged s tag quasi => .tagged (f s) (tag.relocate f) (quasi.relocate f)
  | .spread s e => .spread (f s) (e.relocate f)
  | .array s es => .array (f s) (Expr.relocateAll f es)
  | .object s ms => .object (f s) (Member.relocateAll f ms)
  | .function s name ps b isAsync isGenerator =>
      .function (f s) (name.map (Ident.relocate f)) (Pattern.relocateAll f ps) (b.relocate f) isAsync
        isGenerator
  | .arrow s ps b isAsync => .arrow (f s) (Pattern.relocateAll f ps) (b.relocate f) isAsync
  | .classExpr s name => .classExpr (f s) (name.map (Ident.relocate f))
  | .call s c as optional => .call (f s) (c.relocate f) (Expr.relocateAll f as) optional
  | .new s c as => .new (f s) (c.relocate f) (Expr.relocateAll f as)
  | .member s o p computed optional =>
      .member (f s) (o.relocate f) (p.relocate f) computed optional
  | .unary s op e => .unary (f s) op (e.relocate f)
  | .update s op e => .update (f s) op (e.relocate f)
  | .binary s op l r => .binary (f s) op (l.relocate f) (r.relocate f)
  | .assign s op l r => .assign (f s) op (l.relocate f) (r.relocate f)
  | .conditional s t c a => .conditional (f s) (t.relocate f) (c.relocate f) (a.relocate f)
  | .sequence s es => .sequence (f s) (Expr.relocateAll f es)
  | .paren s e => .paren (f s) (e.relocate f)
  | .await s e => .await (f s) (e.relocate f)
  | .yield s argument delegate => .yield (f s) (Expr.relocate? f argument) delegate
  | .typed s kind e => .typed (f s) kind (e.relocate f)
  | .jsx s kind => .jsx (f s) kind
  | .unsupported s kind => .unsupported (f s) kind

def Expr.relocateAll (f : Span → Span) : List Expr → List Expr
  | [] => []
  | e :: es => e.relocate f :: Expr.relocateAll f es

def Expr.relocate? (f : Span → Span) : Option Expr → Option Expr
  | none => none
  | some e => some (e.relocate f)

def Member.relocate (f : Span → Span) : Member → Member
  | .property s key value computed shorthand =>
      .property (f s) (key.relocate f) (value.relocate f) computed shorthand
  | .method s key ps b computed kind =>
      .method (f s) (key.relocate f) (Pattern.relocateAll f ps) (b.relocate f) computed kind
  | .spread s e => .spread (f s) (e.relocate f)
  | .unsupported s kind => .unsupported (f s) kind

def Member.relocateAll (f : Span → Span) : List Member → List Member
  | [] => []
  | m :: ms => m.relocate f :: Member.relocateAll f ms

def Body.relocate (f : Span → Span) : Body → Body
  | .block b => .block (b.relocate f)
  | .expr e => .expr (e.relocate f)

def Block.relocate (f : Span → Span) : Block → Block
  | .mk s ss => .mk (f s) (Stmt.relocateAll f ss)

def Block.relocate? (f : Span → Span) : Option Block → Option Block
  | none => none
  | some b => some (b.relocate f)

def Pattern.relocate (f : Span → Span) : Pattern → Pattern
  | .expr e => .expr (e.relocate f)
  | .default s p e => .default (f s) (p.relocate f) (e.relocate f)
  | .array s ps => .array (f s) (Pattern.relocateElements f ps)
  | .object s es => .object (f s) (Entry.relocateAll f es)
  | .rest s p => .rest (f s) (p.relocate f)

def Pattern.relocateAll (f : Span → Span) : List Pattern → List Pattern
  | [] => []
  | p :: ps => p.relocate f :: Pattern.relocateAll f ps

def Pattern.relocateElements (f : Span → Span) : List (Option Pattern) → List (Option Pattern)
  | [] => []
  | p :: ps => Pattern.relocate? f p :: Pattern.relocateElements f ps

def Pattern.relocate? (f : Span → Span) : Option Pattern → Option Pattern
  | none => none
  | some p => some (p.relocate f)

def Entry.relocate (f : Span → Span) : Entry → Entry
  | .property s key value computed shorthand =>
      .property (f s) (key.relocate f) (value.relocate f) computed shorthand
  | .rest s p => .rest (f s) (p.relocate f)

def Entry.relocateAll (f : Span → Span) : List Entry → List Entry
  | [] => []
  | e :: es => e.relocate f :: Entry.relocateAll f es

def Stmt.relocate (f : Span → Span) : Stmt → Stmt
  | .block b => .block (b.relocate f)
  | .empty s => .empty (f s)
  | .debugger s => .debugger (f s)
  | .breakTo s label => .breakTo (f s) label
  | .continueTo s label => .continueTo (f s) label
  | .expr s e => .expr (f s) (e.relocate f)
  | .ifElse s t c alternate =>
      .ifElse (f s) (t.relocate f) (c.relocate f) (Stmt.relocate? f alternate)
  | .labeled s label b => .labeled (f s) label (b.relocate f)
  | .ret s argument => .ret (f s) (Expr.relocate? f argument)
  | .throw s e => .throw (f s) (e.relocate f)
  | .switch s d cs => .switch (f s) (d.relocate f) (Case.relocateAll f cs)
  | .tryCatch s b handler finalizer =>
      .tryCatch (f s) (b.relocate f) (Handler.relocate? f handler) (Block.relocate? f finalizer)
  | .whileLoop s t b => .whileLoop (f s) (t.relocate f) (b.relocate f)
  | .doWhile s b t => .doWhile (f s) (b.relocate f) (t.relocate f)
  | .withObject s o b => .withObject (f s) (o.relocate f) (b.relocate f)
  | .forLoop s init test update b =>
      .forLoop (f s) (Head.relocate? f init) (Expr.relocate? f test) (Expr.relocate? f update)
        (b.relocate f)
  | .forIn s h r b => .forIn (f s) (h.relocate f) (r.relocate f) (b.relocate f)
  | .forOf s h r b isAwait => .forOf (f s) (h.relocate f) (r.relocate f) (b.relocate f) isAwait
  | .declare v => .declare (v.relocate f)
  | .function s name ps b isAsync isGenerator =>
      .function (f s) (name.map (Ident.relocate f)) (Pattern.relocateAll f ps) (b.relocate f) isAsync
        isGenerator
  | .classDecl s name => .classDecl (f s) (name.map (Ident.relocate f))
  | .imports s source names typeOnly =>
      .imports (f s) source (names.map (ImportName.relocate f)) typeOnly
  | .importAlias s i => .importAlias (f s) (i.relocate f)
  | .exports s declaration => .exports (f s) (Stmt.relocate? f declaration)
  | .enum s i ms => .enum (f s) (i.relocate f) (EnumMember.relocateAll f ms)
  | .typeDecl s kind => .typeDecl (f s) kind
  | .unsupported s kind => .unsupported (f s) kind

def Stmt.relocateAll (f : Span → Span) : List Stmt → List Stmt
  | [] => []
  | s :: ss => s.relocate f :: Stmt.relocateAll f ss

def Stmt.relocate? (f : Span → Span) : Option Stmt → Option Stmt
  | none => none
  | some x => some (x.relocate f)

def Case.relocateAll (f : Span → Span) : List Case → List Case
  | [] => []
  | .mk s test b :: cs =>
      .mk (f s) (Expr.relocate? f test) (Stmt.relocateAll f b) :: Case.relocateAll f cs

def Handler.relocate? (f : Span → Span) : Option Handler → Option Handler
  | none => none
  | some (.mk s param b) => some (.mk (f s) (Pattern.relocate? f param) (b.relocate f))

def EnumMember.relocateAll (f : Span → Span) : List EnumMember → List EnumMember
  | [] => []
  | .mk s name init :: ms => .mk (f s) name (Expr.relocate? f init) :: EnumMember.relocateAll f ms

def Variables.relocate (f : Span → Span) : Variables → Variables
  | .mk s kind ds => .mk (f s) kind (Declarator.relocateAll f ds)

def Declarator.relocate (f : Span → Span) : Declarator → Declarator
  | .mk s p init => .mk (f s) (p.relocate f) (Expr.relocate? f init)

def Declarator.relocateAll (f : Span → Span) : List Declarator → List Declarator
  | [] => []
  | d :: ds => d.relocate f :: Declarator.relocateAll f ds

def Head.relocate (f : Span → Span) : Head → Head
  | .declare v => .declare (v.relocate f)
  | .target p => .target (p.relocate f)

def Head.relocate? (f : Span → Span) : Option Head → Option Head
  | none => none
  | some h => some (h.relocate f)

end

variable {f : Span → Span}

theorem toOption_bind {ε α β : Type} (x : Except ε α) (g : α → Except ε β) :
    (x >>= g).toOption = x.toOption.bind fun a => (g a).toOption := by
  cases x <;> rfl

/-- A refusal names the place of what is refused, so only the names found are kept. -/
theorem restName_relocate (s : Span) (p : Pattern) :
    (restName (f s) (p.relocate f)).toOption = (restName s p).toOption := by
  cases p with
  | expr e => cases e <;> rfl
  | _ => rfl

mutual

theorem Entry.names_relocate : ∀ e : Entry, (e.relocate f).names.toOption = e.names.toOption
  | .rest s p => by
      change (restName (f s) (p.relocate f) >>= _).toOption = (restName s p >>= _).toOption
      rw [toOption_bind, toOption_bind, restName_relocate]
  | .property s key value computed true => by
      cases key <;> rfl
  | .property s key value computed false => Pattern.names_relocate value

theorem Entry.allNames_relocate :
    ∀ es : List Entry, (Entry.allNames (Entry.relocateAll f es)).toOption = (Entry.allNames es).toOption
  | [] => rfl
  | e :: es => by
      simp only [Entry.relocateAll, Entry.allNames, toOption_bind, Entry.names_relocate e,
        Entry.allNames_relocate es]

theorem Pattern.names_relocate : ∀ p : Pattern, (p.relocate f).names.toOption = p.names.toOption
  | .expr e => by
      cases e <;> rfl
  | .default s p e => Pattern.names_relocate p
  | .array s ps => rfl
  | .object s es => Entry.allNames_relocate es
  | .rest s p => rfl

end

theorem Entry.keyName_relocate (e : Entry) : (e.relocate f).keyName.toOption = e.keyName.toOption := by
  cases e with
  | rest s p => exact restName_relocate s p
  | property s key value computed shorthand =>
      cases computed <;> cases key <;> rfl

theorem Entry.mapM_keyName_relocate (es : List Entry) :
    ((Entry.relocateAll f es).mapM Entry.keyName).toOption = (es.mapM Entry.keyName).toOption := by
  induction es with
  | nil => rfl
  | cons e es ih =>
      simp only [Entry.relocateAll, List.mapM_cons, toOption_bind, Entry.keyName_relocate, ih]

def Pattern.SameText (f : Span → Span) (code code' : Text) (p : Pattern) : Prop :=
  code'.slice (f p.span).start (f p.span).stop = code.slice p.span.start p.span.stop

theorem Pattern.declaredNames_relocate {code code' : Text} (legacy : Bool) (p : Pattern)
    (h : p.SameText f code code') :
    ((p.relocate f).declaredNames legacy code').toOption = (p.declaredNames legacy code).toOption := by
  cases p with
  | expr e =>
      cases e with
      | member s o p computed optional =>
          have h : code'.slice (f s).start (f s).stop = code.slice s.start s.stop := h
          simp only [Pattern.relocate, Expr.relocate, Pattern.declaredNames, h]
      | _ => rfl
  | object s es =>
      cases legacy with
      | false => simpa [Pattern.relocate, Pattern.declaredNames] using Entry.allNames_relocate es
      | true => simpa [Pattern.relocate, Pattern.declaredNames] using Entry.mapM_keyName_relocate es
  | _ => rfl

structure Extraction.Agree (x y : Extraction) : Prop where
  bindings : x.bindings = y.bindings
  refused : x.refusal.isSome = y.refusal.isSome

namespace Extraction.Agree

variable {x y z : Extraction}

theorem refl (x : Extraction) : x.Agree x := ⟨rfl, rfl⟩

theorem symm (h : x.Agree y) : y.Agree x := ⟨h.bindings.symm, h.refused.symm⟩

theorem trans (h : x.Agree y) (h' : y.Agree z) : x.Agree z :=
  ⟨h.bindings.trans h'.bindings, h.refused.trans h'.refused⟩

theorem append {x' y' : Extraction} (h : x.Agree y) (h' : x'.Agree y') :
    (x.append x').Agree (y.append y') := by
  obtain ⟨bs, r⟩ := x
  obtain ⟨cs, q⟩ := y
  obtain ⟨rfl, hr⟩ := h
  cases r <;> cases q <;> cases hr
  · exact ⟨by simp [Extraction.append, h'.bindings], h'.refused⟩
  · exact ⟨rfl, rfl⟩

end Extraction.Agree

theorem Declarator.bindings_relocate {code code' : Text} (legacy writable : Bool) (d : Declarator)
    (h : d.target.SameText f code code') :
    ((d.relocate f).bindings legacy writable code').Agree (d.bindings legacy writable code) := by
  obtain ⟨s, target, init⟩ := d
  have hnames := target.declaredNames_relocate legacy h
  simp only [Declarator.relocate, Declarator.bindings]
  cases hx : (target.relocate f).declaredNames legacy code' <;>
    cases hy : target.declaredNames legacy code <;>
      simp only [hx, hy, Except.toOption, reduceCtorEq, Option.some.injEq] at hnames
  · exact ⟨rfl, rfl⟩
  · subst hnames
    exact ⟨rfl, rfl⟩

theorem Variables.bindings_relocate {code code' : Text} (legacy writable : Bool)
    (ds : List Declarator) (h : ∀ d ∈ ds, d.target.SameText f code code') :
    (Extraction.concat ((Declarator.relocateAll f ds).map fun d => d.bindings legacy writable code')).Agree
      (Extraction.concat (ds.map fun d => d.bindings legacy writable code)) := by
  induction ds with
  | nil => exact .refl _
  | cons d ds ih =>
      exact (d.bindings_relocate legacy writable (h d List.mem_cons_self)).append
        (ih fun d hd => h d (List.mem_cons_of_mem _ hd))

theorem Stmt.bindings_relocate {code code' : Text} (entry : String) (legacy : Bool) (x : Stmt)
    (h : ∀ v, x = .declare v → ∀ d ∈ v.declarators, d.target.SameText f code code') :
    ((x.relocate f).bindings entry legacy code').Agree (x.bindings entry legacy code) := by
  cases x with
  | declare v =>
      obtain ⟨s, kind, ds⟩ := v
      exact Variables.bindings_relocate legacy _ ds (h _ rfl)
  | imports s source names typeOnly =>
      cases typeOnly with
      | true => exact .refl _
      | false =>
          refine ⟨?_, rfl⟩
          change ((names.map (ImportName.relocate f)).filter _).map _ = _
          rw [List.filter_map, List.map_map]
          rfl
  | _ => exact .refl _

end ScriptSplit
