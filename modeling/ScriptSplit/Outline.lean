import ScriptSplit.Refusal

/-!
The outline of a piece of script is what the resolution of names meets in it, in order: occurrences
of names, names that get hidden, parts with a scope of their own, and forms that are refused.
-/

namespace ScriptSplit

inductive Item where
  | reference (name : Ident)
  | shorthand (name : Ident)
  | shadow (name : String)
  | scoped (items : List Item)
  | refuse (refusal : Refusal)

def shadowing (name : Option Ident) : List Item :=
  name.toList.map fun i => .shadow i.name

/-- Functions declared directly in a list of statements are visible in all of it. -/
def hoisted (statements : List Stmt) : List Item :=
  statements.filterMap fun
    | .function _ (some i) .. => some (.shadow i.name)
    | _ => none

mutual

/-- With `legacy`, the header of a `for`-`of` loop hides names in the enclosing scope too, and a
catch parameter is not seen by the handler's body. -/
def Expr.outline (legacy : Bool) : Expr → List Item
  | .ident i => [.reference i]
  | .privateName _ => []
  | .this _ => []
  | .super _ => []
  | .importKeyword _ => []
  | .metaProperty .. => []
  | .literal .. => []
  | .template _ parts => Expr.outlines legacy parts
  | .tagged _ tag quasi => tag.outline legacy ++ quasi.outline legacy
  | .spread _ e => e.outline legacy
  | .array _ es => Expr.outlines legacy es
  | .object _ ms => Member.outlines legacy ms
  | .function _ name ps b _ _ =>
      [.scoped (shadowing name ++ Pattern.declares legacy ps ++ b.outline legacy)]
  | .arrow _ ps b _ => [.scoped (Pattern.declares legacy ps ++ b.outline legacy)]
  | .classExpr s _ => [.refuse (.construct .classExpr s.position)]
  | .call _ c as _ => c.outline legacy ++ Expr.outlines legacy as
  | .new _ c as => c.outline legacy ++ Expr.outlines legacy as
  | .member _ o p computed _ => o.outline legacy ++ if computed then p.outline legacy else []
  | .unary _ _ e => e.outline legacy
  | .update _ _ e => e.outline legacy
  | .binary _ _ l r => l.outline legacy ++ r.outline legacy
  | .assign _ _ l r => l.assign legacy ++ r.outline legacy
  | .conditional _ t c a => t.outline legacy ++ c.outline legacy ++ a.outline legacy
  | .sequence _ es => Expr.outlines legacy es
  | .paren _ e => e.outline legacy
  | .await _ e => e.outline legacy
  | .yield _ none _ => []
  | .yield _ (some e) _ => e.outline legacy
  | .typed _ _ e => e.outline legacy
  | .jsx s kind => [.refuse (.construct (.jsx kind) s.position)]
  | .unsupported s kind => [.refuse (.construct (.other kind) s.position)]

def Expr.outlines (legacy : Bool) : List Expr → List Item
  | [] => []
  | e :: es => e.outline legacy ++ Expr.outlines legacy es

def Member.outline (legacy : Bool) : Member → List Item
  | .property _ key value computed shorthand =>
      (if computed then key.outline legacy else []) ++
        match shorthand, key with
        | true, .ident i => [.shorthand i]
        | _, _ => value.outline legacy
  | .method _ key ps b computed _ =>
      (if computed then key.outline legacy else []) ++
        [.scoped (Pattern.declares legacy ps ++ b.outline legacy)]
  | .spread _ e => e.outline legacy
  | .unsupported s kind => [.refuse (.construct (.other kind) s.position)]

def Member.outlines (legacy : Bool) : List Member → List Item
  | [] => []
  | m :: ms => m.outline legacy ++ Member.outlines legacy ms

def Body.outline (legacy : Bool) : Body → List Item
  | .block b => b.outline legacy
  | .expr e => e.outline legacy

/-- What a block holds, without the scope around it. -/
def Block.outline (legacy : Bool) : Block → List Item
  | .mk _ ss => hoisted ss ++ Stmt.outlines legacy ss

/-- What a pattern hides when it declares names. A computed key is met before its target, and a
default value after it. -/
def Pattern.declare (legacy : Bool) : Pattern → List Item
  | .expr (.ident i) => [.shadow i.name]
  | .expr (.member s ..) => [.refuse (.construct .memberTarget s.position)]
  | .expr e => [.refuse (.patternForm e.form e.span.position)]
  | .default _ p e => p.declare legacy ++ e.outline legacy
  | .array _ ps => Pattern.declareElements legacy ps
  | .object _ es => Entry.declares legacy es
  | .rest _ (.expr (.ident i)) => [.shadow i.name]
  | .rest s _ => [.refuse (.restTarget s.position)]

def Pattern.declares (legacy : Bool) : List Pattern → List Item
  | [] => []
  | p :: ps => p.declare legacy ++ Pattern.declares legacy ps

def Pattern.declareElements (legacy : Bool) : List (Option Pattern) → List Item
  | [] => []
  | none :: ps => Pattern.declareElements legacy ps
  | some p :: ps => p.declare legacy ++ Pattern.declareElements legacy ps

def Entry.declare (legacy : Bool) : Entry → List Item
  | .property s key value computed shorthand =>
      (if computed then key.outline legacy else []) ++
        if shorthand then
          match key, value with
          | .ident _, .default _ p e => p.declare legacy ++ e.outline legacy
          | .ident i, _ => [.shadow i.name]
          | _, _ => [.refuse (.propertyKey s.position)]
        else
          match value with
          | .expr (.ident i) => [.shadow i.name]
          | .expr e => [.refuse (.patternValue e.form e.span.position)]
          | .default _ p e => p.declare legacy ++ e.outline legacy
          | .array _ ps => Pattern.declareElements legacy ps
          | .object _ es => Entry.declares legacy es
          | .rest s _ => [.refuse (.patternValue "RestElement" s.position)]
  | .rest _ (.expr (.ident i)) => [.shadow i.name]
  | .rest s _ => [.refuse (.restTarget s.position)]

def Entry.declares (legacy : Bool) : List Entry → List Item
  | [] => []
  | e :: es => e.declare legacy ++ Entry.declares legacy es

/-- What is met in the target of an assignment: its names are occurrences. -/
def Pattern.assign (legacy : Bool) : Pattern → List Item
  | .expr e => e.outline legacy
  | .default _ p e => p.assign legacy ++ e.outline legacy
  | .array _ ps => Pattern.assignElements legacy ps
  | .object _ es => Entry.assigns legacy es
  | .rest _ p => p.assign legacy

def Pattern.assignElements (legacy : Bool) : List (Option Pattern) → List Item
  | [] => []
  | none :: ps => Pattern.assignElements legacy ps
  | some p :: ps => p.assign legacy ++ Pattern.assignElements legacy ps

def Entry.assign (legacy : Bool) : Entry → List Item
  | .property s key value computed shorthand =>
      (if computed then key.outline legacy else []) ++
        if shorthand then
          match key, value with
          | .ident i, .default _ _ e => .shorthand i :: e.outline legacy
          | .ident i, _ => [.shorthand i]
          | _, _ => [.refuse (.propertyKey s.position)]
        else value.assign legacy
  | .rest _ p => p.assign legacy

def Entry.assigns (legacy : Bool) : List Entry → List Item
  | [] => []
  | e :: es => e.assign legacy ++ Entry.assigns legacy es

def Stmt.outline (legacy : Bool) : Stmt → List Item
  | .block b => [.scoped (b.outline legacy)]
  | .empty _ => []
  | .debugger _ => []
  | .breakTo .. => []
  | .continueTo .. => []
  | .typeDecl .. => []
  | .expr _ e => e.outline legacy
  | .ifElse _ t c none => t.outline legacy ++ [.scoped (c.outline legacy)]
  | .ifElse _ t c (some a) =>
      t.outline legacy ++ [.scoped (c.outline legacy), .scoped (a.outline legacy)]
  | .labeled _ _ b => b.outline legacy
  | .ret _ none => []
  | .ret _ (some e) => e.outline legacy
  | .throw _ e => e.outline legacy
  | .switch _ d cs => d.outline legacy ++ Case.outlines legacy cs
  | .tryCatch _ b none none => [.scoped (b.outline legacy)]
  | .tryCatch _ b none (some f) => [.scoped (b.outline legacy), .scoped (f.outline legacy)]
  | .tryCatch _ b (some h) none => .scoped (b.outline legacy) :: h.outline legacy
  | .tryCatch _ b (some h) (some f) =>
      .scoped (b.outline legacy) :: (h.outline legacy ++ [.scoped (f.outline legacy)])
  | .whileLoop _ t b => t.outline legacy ++ [.scoped (b.outline legacy)]
  | .doWhile _ b t => .scoped (b.outline legacy) :: t.outline legacy
  | .withObject _ o b => o.outline legacy ++ [.scoped (b.outline legacy)]
  | .forLoop _ init test update b =>
      [.scoped
        ((match init with
          | none => []
          | some h => h.outline legacy) ++
        (match test with
          | none => []
          | some e => e.outline legacy) ++
        (match update with
          | none => []
          | some e => e.outline legacy) ++
        [.scoped (b.outline legacy)])]
  | .forIn _ h r b =>
      r.outline legacy ++ [.scoped (h.outline legacy ++ [.scoped (b.outline legacy)])]
  | .forOf _ h r b _ =>
      r.outline legacy ++
        if legacy then h.outline legacy ++ [.scoped (b.outline legacy)]
        else [.scoped (h.outline legacy ++ [.scoped (b.outline legacy)])]
  | .declare d => d.outline legacy
  | .function _ name ps b _ _ =>
      shadowing name ++ [.scoped (Pattern.declares legacy ps ++ b.outline legacy)]
  | .enum _ i ms => EnumMember.outlines legacy ms ++ [.shadow i.name]
  | .classDecl s _ => [.refuse (.construct .classDecl s.position)]
  | .imports s .. => [.refuse (.construct .importStmt s.position)]
  | .importAlias s _ => [.refuse (.construct .importStmt s.position)]
  | .exports s _ => [.refuse (.construct .exportStmt s.position)]
  | .unsupported s kind => [.refuse (.construct (.other kind) s.position)]

def Stmt.outlines (legacy : Bool) : List Stmt → List Item
  | [] => []
  | s :: ss => s.outline legacy ++ Stmt.outlines legacy ss

def Case.outlines (legacy : Bool) : List Case → List Item
  | [] => []
  | .mk _ none b :: cs =>
      .scoped (hoisted b ++ Stmt.outlines legacy b) :: Case.outlines legacy cs
  | .mk _ (some e) b :: cs =>
      e.outline legacy ++ .scoped (hoisted b ++ Stmt.outlines legacy b) :: Case.outlines legacy cs

def Handler.outline (legacy : Bool) : Handler → List Item
  | .mk _ none b => [.scoped (b.outline legacy)]
  | .mk _ (some p) b =>
      if legacy then [.scoped (p.declare legacy), .scoped (b.outline legacy)]
      else [.scoped (p.declare legacy ++ [.scoped (b.outline legacy)])]

def EnumMember.outlines (legacy : Bool) : List EnumMember → List Item
  | [] => []
  | .mk _ _ none :: ms => EnumMember.outlines legacy ms
  | .mk _ _ (some e) :: ms => e.outline legacy ++ EnumMember.outlines legacy ms

def Variables.outline (legacy : Bool) : Variables → List Item
  | .mk _ _ ds => Declarator.outlines legacy ds

/-- An initial value is met before the name it is for is hidden. -/
def Declarator.outlines (legacy : Bool) : List Declarator → List Item
  | [] => []
  | .mk _ p none :: ds => p.declare legacy ++ Declarator.outlines legacy ds
  | .mk _ p (some e) :: ds =>
      e.outline legacy ++ p.declare legacy ++ Declarator.outlines legacy ds

def Head.outline (legacy : Bool) : Head → List Item
  | .declare d => d.outline legacy
  | .target p => p.assign legacy

end

end ScriptSplit
