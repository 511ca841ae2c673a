import ScriptSplit.Proofs.Seating

/-!
All nodes of a script as one tree: each with its span, its children, and whether it is spelled as the
text has it. A node that stands for another (an expression as a pattern, a block as a statement) has
it for its only child, at the same span.

The declaration in the header of an enumerating loop spans no more than its keyword and its left side.
An initializer there is a child of the loop.
-/

namespace ScriptSplit

theorem Span.Inside.refl {a b : Span} (h : a.Inside b) : a.Inside a :=
  ⟨Int.le_refl _, h.order, Int.le_refl _⟩

inductive Fragment where
  | program (p : Program)
  | name (i : Ident)
  | expr (e : Expr)
  | member (m : Member)
  | pattern (p : Pattern)
  | entry (e : Entry)
  | block (b : Block)
  | stmt (s : Stmt)
  | case (c : Case)
  | handler (h : Handler)
  | enumMember (m : EnumMember)
  | importName (i : ImportName)
  | declarator (d : Declarator)
  | variables (v : Variables)
  | loopDeclarator (d : Declarator)
  | loopVariables (v : Variables)

def Declarator.initializer : Declarator → Option Expr
  | .mk _ _ init => init

def Variables.initializers (v : Variables) : List Expr := v.declarators.filterMap Declarator.initializer

def Body.fragment : Body → Fragment
  | .block b => .block b
  | .expr e => .expr e

def Head.fragment : Head → Fragment
  | .declare v => .variables v
  | .target p => .pattern p

def Head.loopFragments : Head → List Fragment
  | .declare v => .loopVariables v :: v.initializers.map .expr
  | .target p => [.pattern p]

def Expr.fragments : Expr → List Fragment
  | .template _ es => es.map .expr
  | .tagged _ tag quasi => [.expr tag, .expr quasi]
  | .spread _ e => [.expr e]
  | .array _ es => es.map .expr
  | .object _ ms => ms.map .member
  | .function _ name ps b _ _ => name.toList.map .name ++ ps.map .pattern ++ [.block b]
  | .arrow _ ps b _ => ps.map .pattern ++ [b.fragment]
  | .classExpr _ name => name.toList.map .name
  | .call _ c as _ => .expr c :: as.map .expr
  | .new _ c as => .expr c :: as.map .expr
  | .member _ o p _ _ => [.expr o, .expr p]
  | .unary _ _ e => [.expr e]
  | .update _ _ e => [.expr e]
  | .binary _ _ l r => [.expr l, .expr r]
  | .assign _ _ l r => [.pattern l, .expr r]
  | .conditional _ t c a => [.expr t, .expr c, .expr a]
  | .sequence _ es => es.map .expr
  | .paren _ e => [.expr e]
  | .await _ e => [.expr e]
  | .yield _ e _ => e.toList.map .expr
  | .typed _ _ e => [.expr e]
  | _ => []

def Member.fragments : Member → List Fragment
  | .property _ key value _ _ => [.expr key, .expr value]
  | .method _ key ps b _ _ => .expr key :: ps.map .pattern ++ [.block b]
  | .spread _ e => [.expr e]
  | .unsupported .. => []

def Pattern.fragments : Pattern → List Fragment
  | .expr e => [.expr e]
  | .default _ p e => [.pattern p, .expr e]
  | .array _ ps => (ps.filterMap id).map .pattern
  | .object _ es => es.map .entry
  | .rest _ p => [.pattern p]

def Entry.fragments : Entry → List Fragment
  | .property _ key value _ _ => [.expr key, .pattern value]
  | .rest _ p => [.pattern p]

def Stmt.fragments : Stmt → List Fragment
  | .block b => [.block b]
  | .expr _ e => [.expr e]
  | .ifElse _ t c a => .expr t :: .stmt c :: a.toList.map .stmt
  | .labeled _ _ b => [.stmt b]
  | .ret _ e => e.toList.map .expr
  | .throw _ e => [.expr e]
  | .switch _ d cs => .expr d :: cs.map .case
  | .tryCatch _ b h f => .block b :: (h.toList.map .handler ++ f.toList.map .block)
  | .whileLoop _ t b => [.expr t, .stmt b]
  | .doWhile _ b t => [.stmt b, .expr t]
  | .withObject _ o b => [.expr o, .stmt b]
  | .forLoop _ init test update b =>
      init.toList.map Head.fragment ++ test.toList.map .expr ++ update.toList.map .expr ++ [.stmt b]
  | .forIn _ h r b => h.loopFragments ++ [.expr r, .stmt b]
  | .forOf _ h r b _ => h.loopFragments ++ [.expr r, .stmt b]
  | .declare v => [.variables v]
  | .function _ name ps b _ _ => name.toList.map .name ++ ps.map .pattern ++ [.block b]
  | .classDecl _ name => name.toList.map .name
  | .imports _ _ names _ => names.map .importName
  | .importAlias _ name => [.name name]
  | .exports _ s => s.toList.map .stmt
  | .enum _ name ms => .name name :: ms.map .enumMember
  | _ => []

def Ident.Spelled (code : Text) (i : Ident) : Prop :=
  i.name = String.ofList (code.slice i.span.start i.span.stop)

namespace Fragment

def span : Fragment → Span
  | .program p => p.span
  | .name i => i.span
  | .expr e => e.span
  | .member (.property s ..) => s
  | .member (.method s ..) => s
  | .member (.spread s _) => s
  | .member (.unsupported s _) => s
  | .pattern p => p.span
  | .entry (.property s ..) => s
  | .entry (.rest s _) => s
  | .block b => b.span
  | .stmt s => s.span
  | .case (.mk s _ _) => s
  | .handler (.mk s _ _) => s
  | .enumMember (.mk s _ _) => s
  | .importName i => i.span
  | .declarator (.mk s _ _) => s
  | .variables v => v.span
  | .loopDeclarator (.mk s _ _) => s
  | .loopVariables v => v.span

def children : Fragment → List Fragment
  | .program p => p.body.map .stmt
  | .name _ => []
  | .expr e => e.fragments
  | .member m => m.fragments
  | .pattern p => p.fragments
  | .entry e => e.fragments
  | .block b => b.statements.map .stmt
  | .stmt s => s.fragments
  | .case (.mk _ test ss) => test.toList.map .expr ++ ss.map .stmt
  | .handler (.mk _ param b) => param.toList.map .pattern ++ [.block b]
  | .enumMember (.mk _ _ init) => init.toList.map .expr
  | .importName i => [.name i.name]
  | .declarator (.mk _ target init) => .pattern target :: init.toList.map .expr
  | .variables (.mk _ _ ds) => ds.map .declarator
  | .loopDeclarator (.mk _ target _) => [.pattern target]
  | .loopVariables (.mk _ _ ds) => ds.map .loopDeclarator

attribute [simp] children Expr.fragments Member.fragments Pattern.fragments Entry.fragments
  Stmt.fragments

/-- Names and literals are what the text has at their span. -/
def Spelled (code : Text) : Fragment → Prop
  | .name i => i.Spelled code
  | .expr (.ident i) => i.Spelled code
  | .expr (.privateName i) => i.Spelled code
  | .expr (.literal s _ raw) => raw = String.ofList (code.slice s.start s.stop)
  | _ => True

inductive Includes : Fragment → Fragment → Prop
  | self (f : Fragment) : Includes f f
  | inside {f c g : Fragment} : c ∈ f.children → Includes c g → Includes f g

/-- A node that lies inside a span, with everything in it spelled as the text has it and inside its
parent. -/
structure Sits (code : Text) (sp : Span) (f : Fragment) : Prop where
  inside : f.span.Inside sp
  spelled : ∀ g, f.Includes g → g.Spelled code
  children : ∀ g, f.Includes g → ∀ c ∈ g.children, c.span.Inside g.span

variable {code : Text} {sp : Span} {f : Fragment}

theorem Sits.widen {sp' : Span} (h : f.Sits code sp) (hsp : sp.Inside sp') : f.Sits code sp' :=
  ⟨h.inside.trans hsp, h.spelled, h.children⟩

theorem Sits.self (h : f.Sits code sp) : f.Sits code f.span :=
  ⟨h.inside.refl, h.spelled, h.children⟩

theorem Sits.child {c : Fragment} (h : f.Sits code sp) (hc : c ∈ f.children) : c.Sits code sp :=
  ⟨(h.children f (.self f) c hc).trans h.inside, fun g hg => h.spelled g (.inside hc hg),
    fun g hg => h.children g (.inside hc hg)⟩

theorem sits_of_children (hinside : f.span.Inside sp) (hspelled : f.Spelled code)
    (h : ∀ c ∈ f.children, c.Sits code f.span) : f.Sits code sp := by
  refine ⟨hinside, ?_, ?_⟩
  · intro g hg
    cases hg with
    | self => exact hspelled
    | inside hc hg => exact (h _ hc).spelled g hg
  · intro g hg
    cases hg with
    | self => exact fun c hc => (h c hc).inside
    | inside hc hg => exact (h _ hc).children g hg

theorem sits_of_nil (hinside : f.span.Inside sp) (hspelled : f.Spelled code) (h : f.children = []) :
    f.Sits code sp :=
  sits_of_children hinside hspelled (h ▸ List.forall_mem_nil _)

theorem Sits.wrap {c : Fragment} (h : c.Sits code sp) (hspan : f.span = c.span)
    (hspelled : f.Spelled code) (hchildren : f.children = [c]) : f.Sits code sp := by
  refine sits_of_children (hspan ▸ h.inside) hspelled ?_
  rw [hchildren, hspan]
  exact List.forall_mem_singleton.mpr h.self

theorem Includes.trans {g h : Fragment} (hfg : f.Includes g) (hgh : g.Includes h) : f.Includes h := by
  induction hfg with
  | self => exact hgh
  | inside hc _ ih => exact .inside hc (ih hgh)

theorem Includes.span_inside {g : Fragment} (h : f.Includes g) (hself : f.span.Inside f.span)
    (hchildren : ∀ g, f.Includes g → ∀ c ∈ g.children, c.span.Inside g.span) :
    g.span.Inside f.span := by
  induction h with
  | self => exact hself
  | @inside f c g hc hg ih =>
    have hcf := hchildren f (.self f) c hc
    exact (ih hcf.refl fun g hg => hchildren g (.inside hc hg)).trans hcf

theorem Sits.nested {a d : Fragment} (h : f.Sits code sp) (ha : f.Includes a) (hd : a.Includes d) :
    d.span.Inside a.span := by
  have haf := ha.span_inside h.inside.refl h.children
  exact hd.span_inside haf.refl fun g hg => h.children g (ha.trans hg)

end Fragment

end ScriptSplit
