import ScriptSplit.Proofs.Sketch

/-!
Everything that stands in a piece of script, whether or not names are resolved there, the forms among
it that give offence, and what keeps an offence from hiding where no name is looked for.
-/

namespace ScriptSplit

def Expr.isIdent : Expr → Bool
  | .ident _ => true
  | _ => false

def Expr.isMember : Expr → Bool
  | .member .. => true
  | _ => false

/-- Whether an expression is a key as it is written without brackets. -/
def Expr.isKey : Expr → Bool
  | .ident _ => true
  | .privateName _ => true
  | .literal .. => true
  | _ => false

def Pattern.isIdent : Pattern → Bool
  | .expr e => e.isIdent
  | _ => false

/-- Whether an entry may declare the names of a pattern. -/
def Pattern.isTarget : Pattern → Bool
  | .expr e => e.isIdent
  | .rest .. => false
  | _ => true

def Expr.constituents : Expr → List Phrase
  | .template _ es => es.map .expr
  | .tagged _ tag quasi => [.expr tag, .expr quasi]
  | .spread _ e => [.expr e]
  | .array _ es => es.map .expr
  | .object _ ms => ms.map .member
  | .function _ _ ps b _ _ => ps.map .declared ++ [.block b]
  | .arrow _ ps b _ => ps.map .declared ++ [b.phrase]
  | .call _ c as _ => .expr c :: as.map .expr
  | .new _ c as => .expr c :: as.map .expr
  | .member _ o p _ _ => [.expr o, .expr p]
  | .unary _ _ e => [.expr e]
  | .update _ _ e => [.expr e]
  | .binary _ _ l r => [.expr l, .expr r]
  | .assign _ _ l r => [.assigned l, .expr r]
  | .conditional _ t c a => [.expr t, .expr c, .expr a]
  | .sequence _ es => es.map .expr
  | .paren _ e => [.expr e]
  | .await _ e => [.expr e]
  | .yield _ e _ => e.toList.map .expr
  | .typed _ _ e => [.expr e]
  | _ => []

def Member.constituents : Member → List Phrase
  | .property _ key value _ _ => [.expr key, .expr value]
  | .method _ key ps b _ _ => .expr key :: (ps.map .declared ++ [.block b])
  | .spread _ e => [.expr e]
  | .unsupported .. => []

def Pattern.constituents (pattern : Pattern → Phrase) (entry : Entry → Phrase) : Pattern → List Phrase
  | .expr e => [.expr e]
  | .default _ p e => [pattern p, .expr e]
  | .array _ ps => (ps.filterMap id).map pattern
  | .object _ es => es.map entry
  | .rest _ p => [pattern p]

def Entry.constituents (pattern : Pattern → Phrase) : Entry → List Phrase
  | .property _ key value _ _ => [.expr key, pattern value]
  | .rest _ p => [pattern p]

def Stmt.constituents : Stmt → List Phrase
  | .block b => [.block b]
  | .expr _ e => [.expr e]
  | .ifElse _ t c a => .expr t :: .stmt c :: a.toList.map .stmt
  | .labeled _ _ b => [.stmt b]
  | .ret _ e => e.toList.map .expr
  | .throw _ e => [.expr e]
  | .switch _ d cs => .expr d :: cs.map .case
  | .tryCatch _ b h f => .block b :: (h.toList.map .handler ++ f.toList.map .block)
  | .whileLoop _ t b => [.expr t, .stmt b]
  | .doWhile _ b t => [.stmt b, .expr t]
  | .withObject _ o b => [.expr o, .stmt b]
  | .forLoop _ init test update b =>
      init.toList.map .head ++ test.toList.map .expr ++ update.toList.map .expr ++ [.stmt b]
  | .forIn _ h r b => [.head h, .expr r, .stmt b]
  | .forOf _ h r b _ => [.head h, .expr r, .stmt b]
  | .declare v => [.variables v]
  | .function _ _ ps b _ _ => ps.map .declared ++ [.block b]
  | .exports _ s => s.toList.map .stmt
  | .enum _ _ ms => ms.map .enumMember
  | _ => []

namespace Phrase

/-- What stands directly in a piece: all of its keys and targets too. -/
def constituents : Phrase → List Phrase
  | .expr e => e.constituents
  | .shorthand _ => []
  | .member m => m.constituents
  | .declared p => p.constituents .declared .declaredEntry
  | .declaredEntry e => e.constituents .declared
  | .assigned p => p.constituents .assigned .assignedEntry
  | .assignedEntry e => e.constituents .assigned
  | .block b => b.statements.map .stmt
  | .stmt s => s.constituents
  | .case (.mk _ test ss) => test.toList.map .expr ++ ss.map .stmt
  | .handler (.mk _ param b) => param.toList.map .declared ++ [.block b]
  | .variables (.mk _ _ ds) => ds.map .declarator
  | .declarator (.mk _ target init) => .declared target :: init.toList.map .expr
  | .head (.declare v) => [.variables v]
  | .head (.target p) => [.assigned p]
  | .enumMember (.mk _ _ init) => init.toList.map .expr

attribute [simp] constituents Expr.constituents Member.constituents Pattern.constituents
  Entry.constituents Stmt.constituents

inductive Includes : Phrase → Phrase → Prop
  | self (p : Phrase) : Includes p p
  | inside {p c q : Phrase} : c ∈ p.constituents → Includes c q → Includes p q

/-- A form that may not stand in an entry argument, with the category of what is said of it and the
span where it is said to be. -/
inductive Offends : Phrase → Refusal.Category → Span → Prop
  | classExpr (s : Span) (name : Option Ident) : Offends (.expr (.classExpr s name)) .construct s
  | jsx (s : Span) (kind : String) : Offends (.expr (.jsx s kind)) .construct s
  | unsupported (s : Span) (kind : String) : Offends (.expr (.unsupported s kind)) .construct s
  | unsupportedMember (s : Span) (kind : String) :
      Offends (.member (.unsupported s kind)) .construct s
  | unsupportedStmt (s : Span) (kind : String) : Offends (.stmt (.unsupported s kind)) .construct s
  | classDecl (s : Span) (name : Option Ident) : Offends (.stmt (.classDecl s name)) .construct s
  | imports (s : Span) (source : Option String) (names : List ImportName) (typeOnly : Bool) :
      Offends (.stmt (.imports s source names typeOnly)) .construct s
  | importAlias (s : Span) (name : Ident) : Offends (.stmt (.importAlias s name)) .construct s
  | exports (s : Span) (declaration : Option Stmt) :
      Offends (.stmt (.exports s declaration)) .construct s
  | memberTarget (e : Expr) (h : e.isMember = true) : Offends (.declared (.expr e)) .construct e.span
  | target (e : Expr) (hmember : e.isMember = false) (hident : e.isIdent = false) :
      Offends (.declared (.expr e)) .pattern e.span
  | rest (s : Span) (p : Pattern) (h : p.isIdent = false) : Offends (.declared (.rest s p)) .pattern s
  | restEntry (s : Span) (p : Pattern) (h : p.isIdent = false) :
      Offends (.declaredEntry (.rest s p)) .pattern s
  | declaredKey (s : Span) (key : Expr) (value : Pattern) (computed : Bool) (h : key.isIdent = false) :
      Offends (.declaredEntry (.property s key value computed true)) .pattern s
  | assignedKey (s : Span) (key : Expr) (value : Pattern) (computed : Bool) (h : key.isIdent = false) :
      Offends (.assignedEntry (.property s key value computed true)) .pattern s
  | value (s : Span) (key : Expr) (value : Pattern) (computed : Bool) (h : value.isTarget = false) :
      Offends (.declaredEntry (.property s key value computed false)) .pattern value.span

end Phrase

/-- A shorthand entry has its key for a value or for the target of one; the key of another entry is
computed or a plain one, unless the entry is only there to be refused. -/
def Entry.Tidy : Entry → Prop
  | .property _ key value _ true => ∀ i, key = .ident i →
      value = .expr (.ident i) ∨ ∃ s e, value = .default s (.expr (.ident i)) e
  | .property _ key value computed false =>
      computed = true ∨ key.isKey = true ∨ ∃ s kind, value = .expr (.unsupported s kind)
  | .rest .. => True

namespace Phrase

/-- Nothing but a plain key stands where no name is looked for. -/
def Tidy : Phrase → Prop
  | .expr (.member _ _ p computed _) => computed = true ∨ p.isKey = true
  | .member (.property _ key value computed isShort) =>
      (computed = true ∨ key.isKey = true) ∧ (isShort = true → value = key)
  | .member (.method _ key _ _ computed _) => computed = true ∨ key.isKey = true
  | .declaredEntry e => e.Tidy
  | .assignedEntry e => e.Tidy
  | _ => True

theorem Includes.trans {p q r : Phrase} (hpq : p.Includes q) (hqr : q.Includes r) : p.Includes r := by
  induction hpq with
  | self => exact hqr
  | inside hc _ ih => exact .inside hc (ih hqr)

def AllTidy (p : Phrase) : Prop := ∀ q, p.Includes q → q.Tidy

theorem allTidy_iff {p : Phrase} : p.AllTidy ↔ p.Tidy ∧ ∀ c ∈ p.constituents, c.AllTidy := by
  constructor
  · intro h
    exact ⟨h p (.self p), fun c hc q hq => h q (.inside hc hq)⟩
  · rintro ⟨hself, hinside⟩ q hq
    cases hq with
    | self => exact hself
    | inside hc hq => exact hinside _ hc q hq

end Phrase

end ScriptSplit
