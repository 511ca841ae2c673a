import ScriptSplit.Proofs.Declared

/-!
The rule by which names are bound in a script, construct by construct: the pieces that a construct is
made of, each with the names that the construct binds there. A path leads from a piece down to an
occurrence of a name, past everything that binds names around it.
-/

namespace ScriptSplit

/-- A piece of a script in which names can occur. Patterns that declare names are told apart from
patterns that are assigned to. -/
inductive Phrase where
  | expr (e : Expr)
  | shorthand (name : Ident)
  | member (m : Member)
  | declared (p : Pattern)
  | declaredEntry (e : Entry)
  | assigned (p : Pattern)
  | assignedEntry (e : Entry)
  | block (b : Block)
  | stmt (s : Stmt)
  | case (c : Case)
  | handler (h : Handler)
  | variables (v : Variables)
  | declarator (d : Declarator)
  | head (h : Head)
  | enumMember (m : EnumMember)

abbrev Parts := List (List String × Phrase)

namespace Parts

def plain (ps : List Phrase) : Parts := ps.map fun p => ([], p)

def within (names : List String) (parts : Parts) : Parts := parts.map fun p => (names ++ p.1, p.2)

/-- Parts of which each sees the names of those before it. -/
def inTurn {α : Type} (names : α → List String) (phrase : α → Phrase) (xs : List α) : Parts :=
  xs.mapIdx fun i x => ((xs.take i).flatMap names, phrase x)

def computedKey (computed : Bool) (key : Expr) : Parts := plain (if computed then [.expr key] else [])

/-- A function's parameters are seen by those after them and by its body. -/
def ofFunction (params : List Pattern) (body : Phrase) : Parts :=
  inTurn Pattern.binds .declared params ++ [(params.flatMap Pattern.binds, body)]

/-- At each statement of a list, the functions declared anywhere in the list are bound, and whatever
the statements before it declare. -/
def ofStatements (legacy : Bool) (ss : List Stmt) : Parts :=
  within (functionNames ss) (inTurn (Stmt.declared legacy) .stmt ss)

end Parts

open Parts

def Body.phrase : Body → Phrase
  | .block b => .block b
  | .expr e => .expr e

/-- Names of members and keys are no parts unless they are computed. -/
def Expr.parts : Expr → Parts
  | .template _ es => plain (es.map .expr)
  | .tagged _ tag quasi => plain [.expr tag, .expr quasi]
  | .spread _ e => plain [.expr e]
  | .array _ es => plain (es.map .expr)
  | .object _ ms => plain (ms.map .member)
  | .function _ name ps b _ _ => within (ownName name) (ofFunction ps (.block b))
  | .arrow _ ps b _ => ofFunction ps b.phrase
  | .call _ c as _ => plain (.expr c :: as.map .expr)
  | .new _ c as => plain (.expr c :: as.map .expr)
  | .member _ o p computed _ => plain [.expr o] ++ computedKey computed p
  | .unary _ _ e => plain [.expr e]
  | .update _ _ e => plain [.expr e]
  | .binary _ _ l r => plain [.expr l, .expr r]
  | .assign _ _ l r => plain [.assigned l, .expr r]
  | .conditional _ t c a => plain [.expr t, .expr c, .expr a]
  | .sequence _ es => plain (es.map .expr)
  | .paren _ e => plain [.expr e]
  | .await _ e => plain [.expr e]
  | .yield _ e _ => plain (e.toList.map .expr)
  | .typed _ _ e => plain [.expr e]
  | _ => []

def Member.parts : Member → Parts
  | .property _ key value computed shorthand =>
      computedKey computed key ++
        match shorthand, key with
        | true, .ident i => plain [.shorthand i]
        | _, _ => plain [.expr value]
  | .method _ key ps b computed _ => computedKey computed key ++ ofFunction ps (.block b)
  | .spread _ e => plain [.expr e]
  | .unsupported .. => []

/-- The default value of a declared pattern sees the pattern's own names. -/
def Pattern.declaredParts : Pattern → Parts
  | .default _ p e => [([], .declared p), (p.binds, .expr e)]
  | .array _ ps => inTurn Pattern.binds .declared (ps.filterMap id)
  | .object _ es => inTurn Entry.binds .declaredEntry es
  | _ => []

def Entry.declaredParts : Entry → Parts
  | .property _ key value computed shorthand =>
      computedKey computed key ++
        match shorthand, key, value with
        | false, _, value => plain [.declared value]
        | true, .ident _, .default s p e => plain [.declared (.default s p e)]
        | true, _, _ => []
  | .rest .. => []

def Pattern.assignedParts : Pattern → Parts
  | .expr e => plain [.expr e]
  | .default _ p e => plain [.assigned p, .expr e]
  | .array _ ps => plain ((ps.filterMap id).map .assigned)
  | .object _ es => plain (es.map .assignedEntry)
  | .rest _ p => plain [.assigned p]

def Entry.assignedParts : Entry → Parts
  | .property _ key value computed shorthand =>
      computedKey computed key ++
        match shorthand, key, value with
        | false, _, value => plain [.assigned value]
        | true, .ident i, .default _ _ e => plain [.shorthand i, .expr e]
        | true, .ident i, _ => plain [.shorthand i]
        | true, _, _ => []
  | .rest _ p => plain [.assigned p]

/-- The header of a loop binds its names in what it governs; what an enumerating loop runs over is
seen from outside. -/
def Stmt.parts : Stmt → Parts
  | .block b => plain [.block b]
  | .expr _ e => plain [.expr e]
  | .ifElse _ t c a => plain (.expr t :: .stmt c :: a.toList.map .stmt)
  | .labeled _ _ b => plain [.stmt b]
  | .ret _ e => plain (e.toList.map .expr)
  | .throw _ e => plain [.expr e]
  | .switch _ d cs => plain (.expr d :: cs.map .case)
  | .tryCatch _ b h f => plain (.block b :: (h.toList.map .handler ++ f.toList.map .block))
  | .whileLoop _ t b => plain [.expr t, .stmt b]
  | .doWhile _ b t => plain [.stmt b, .expr t]
  | .withObject _ o b => plain [.expr o, .stmt b]
  | .forLoop _ init test update b =>
      plain (init.toList.map .head) ++ within (init.elim [] Head.binds)
        (plain (test.toList.map .expr) ++ plain (update.toList.map .expr) ++ plain [.stmt b])
  | .forIn _ h r b => [([], .expr r), ([], .head h), (h.binds, .stmt b)]
  | .forOf _ h r b _ => [([], .expr r), ([], .head h), (h.binds, .stmt b)]
  | .declare v => plain [.variables v]
  | .function _ name ps b _ _ => within (ownName name) (ofFunction ps (.block b))
  | .enum _ _ ms => plain (ms.map .enumMember)
  | _ => []

/-- With `legacy`, the body of a handler does not see its parameter. -/
def Handler.parts (legacy : Bool) : Handler → Parts
  | .mk _ none b => plain [.block b]
  | .mk _ (some p) b => [([], .declared p), (if legacy then [] else p.binds, .block b)]

namespace Phrase

def parts (legacy : Bool) : Phrase → Parts
  | .expr e => e.parts
  | .shorthand _ => []
  | .member m => m.parts
  | .declared p => p.declaredParts
  | .declaredEntry e => e.declaredParts
  | .assigned p => p.assignedParts
  | .assignedEntry e => e.assignedParts
  | .block b => ofStatements legacy b.statements
  | .stmt s => s.parts
  | .case (.mk _ test ss) => plain (test.toList.map .expr) ++ ofStatements legacy ss
  | .handler h => h.parts legacy
  | .variables (.mk _ _ ds) => inTurn Declarator.binds .declarator ds
  | .declarator (.mk _ target init) => plain (init.toList.map .expr ++ [.declared target])
  | .head (.declare v) => plain [.variables v]
  | .head (.target p) => plain [.assigned p]
  | .enumMember (.mk _ _ init) => plain (init.toList.map .expr)

def occurrence? : Phrase → Option Mutation
  | .expr (.ident i) => some ⟨.reference, i⟩
  | .shorthand i => some ⟨.shorthand, i⟩
  | _ => none

/-- The occurrence at the end of a path, with the names that are bound along it. -/
def useAt (legacy : Bool) : Phrase → List Nat → Option Use
  | p, [] => p.occurrence?.map fun m => ⟨m, []⟩
  | p, i :: path =>
      match (p.parts legacy)[i]? with
      | none => none
      | some (names, part) => (part.useAt legacy path).map (Use.under names)

end Phrase

end ScriptSplit
