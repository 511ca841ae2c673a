import ScriptSplit.Proofs.Use

namespace ScriptSplit

mutual

def Pattern.binds : Pattern → List String
  | .expr (.ident i) => [i.name]
  | .expr _ => []
  | .default _ p _ => p.binds
  | .array _ ps => Pattern.elementBinds ps
  | .object _ es => Entry.allBinds es
  | .rest _ (.expr (.ident i)) => [i.name]
  | .rest .. => []

def Pattern.elementBinds : List (Option Pattern) → List String
  | [] => []
  | none :: ps => Pattern.elementBinds ps
  | some p :: ps => p.binds ++ Pattern.elementBinds ps

def Entry.binds : Entry → List String
  | .property _ key value _ shorthand =>
      if shorthand then
        match key, value with
        | .ident _, .default _ p _ => p.binds
        | .ident i, _ => [i.name]
        | _, _ => []
      else
        match value with
        | .rest .. => []
        | value => value.binds
  | .rest _ (.expr (.ident i)) => [i.name]
  | .rest .. => []

def Entry.allBinds : List Entry → List String
  | [] => []
  | e :: es => e.binds ++ Entry.allBinds es

end

def Declarator.binds : Declarator → List String
  | .mk _ target _ => target.binds

def Variables.binds : Variables → List String
  | .mk _ _ ds => ds.flatMap Declarator.binds

def Head.binds : Head → List String
  | .declare v => v.binds
  | .target _ => []

def ownName (name : Option Ident) : List String := name.toList.map Ident.name

def functionNames (statements : List Stmt) : List String :=
  statements.flatMap fun
    | .function _ name .. => ownName name
    | _ => []

/-- The names that a statement declares around itself: with `legacy`, also those in the header of a
`for`-`of` loop. -/
def Stmt.declared (legacy : Bool) : Stmt → List String
  | .declare v => v.binds
  | .function _ name .. => ownName name
  | .enum _ name _ => [name.name]
  | .labeled _ _ body => body.declared legacy
  | .forOf _ head .. => if legacy then head.binds else []
  | _ => []

open Item (allHides allUses allHides_append allUses_append)

theorem shadowing_eq (name : Option Ident) : shadowing name = (ownName name).map .shadow := by
  cases name <;> rfl

theorem hoisted_cons (s : Stmt) (ss : List Stmt) : hoisted (s :: ss) = hoisted [s] ++ hoisted ss := by
  rw [hoisted, hoisted, hoisted, ← List.filterMap_append, List.singleton_append]

theorem hoisted_eq (ss : List Stmt) : hoisted ss = (functionNames ss).map .shadow := by
  induction ss with
  | nil => rfl
  | cons s ss ih =>
      have hs : hoisted [s] = (functionNames [s]).map .shadow := by
        cases s with
        | function s name => cases name <;> rfl
        | _ => rfl
      rw [hoisted_cons, ih, hs]
      simp [functionNames]

theorem allHides_shadows (xs : List String) : allHides (xs.map .shadow) = xs := by
  induction xs with
  | nil => rfl
  | cons x xs ih => simp [ih]

theorem allUses_shadows (xs : List String) : allUses (xs.map .shadow) = [] := by
  induction xs with
  | nil => rfl
  | cons x xs ih => simp [ih]

@[simp] theorem allHides_shadowing (name : Option Ident) : allHides (shadowing name) = ownName name := by
  rw [shadowing_eq, allHides_shadows]

@[simp] theorem allUses_shadowing (name : Option Ident) : allUses (shadowing name) = [] := by
  rw [shadowing_eq, allUses_shadows]

@[simp] theorem allHides_hoisted (ss : List Stmt) : allHides (hoisted ss) = functionNames ss := by
  rw [hoisted_eq, allHides_shadows]

@[simp] theorem allUses_hoisted (ss : List Stmt) : allUses (hoisted ss) = [] := by
  rw [hoisted_eq, allUses_shadows]

variable (legacy : Bool)

theorem Member.outline_property (s : Span) (key value : Expr) (computed shorthand : Bool) :
    (Member.property s key value computed shorthand).outline legacy =
      (if computed then key.outline legacy else []) ++
        match shorthand, key with
        | true, .ident i => [.shorthand i]
        | _, _ => value.outline legacy := by
  cases shorthand with
  | true => cases key <;> rfl
  | false => rfl

theorem Entry.assign_property (s : Span) (key : Expr) (value : Pattern) (computed shorthand : Bool) :
    (Entry.property s key value computed shorthand).assign legacy =
      (if computed then key.outline legacy else []) ++
        if shorthand then
          match key, value with
          | .ident i, .default _ _ e => .shorthand i :: e.outline legacy
          | .ident i, _ => [.shorthand i]
          | _, _ => [.refuse (.propertyKey s.position)]
        else value.assign legacy := by
  cases shorthand with
  | true =>
      cases key with
      | ident i => cases value <;> rfl
      | _ => rfl
  | false => rfl

theorem Entry.declare_property (s : Span) (key : Expr) (value : Pattern) (computed shorthand : Bool) :
    (Entry.property s key value computed shorthand).declare legacy =
      (if computed then key.outline legacy else []) ++
        if shorthand then
          match key, value with
          | .ident _, .default _ p e => p.declare legacy ++ e.outline legacy
          | .ident i, _ => [.shadow i.name]
          | _, _ => [.refuse (.propertyKey s.position)]
        else
          match value with
          | .expr (.ident i) => [.shadow i.name]
          | .expr e => [.refuse (.patternValue e.form e.span.position)]
          | .default _ p e => p.declare legacy ++ e.outline legacy
          | .array _ ps => Pattern.declareElements legacy ps
          | .object _ es => Entry.declares legacy es
          | .rest s _ => [.refuse (.patternValue "RestElement" s.position)] := by
  cases shorthand with
  | true =>
      cases key with
      | ident i => cases value <;> rfl
      | _ => rfl
  | false =>
      cases value with
      | expr e => cases e <;> rfl
      | default | array | object | rest => rfl

mutual

/-- Declarations inside an expression stand in scopes of their own. -/
@[simp] theorem Expr.allHides_outline : ∀ e : Expr, allHides (e.outline legacy) = []
  | .ident _ | .privateName _ | .this _ | .super _ | .importKeyword _ | .metaProperty .. | .literal ..
  | .function .. | .arrow .. | .classExpr .. | .jsx .. | .unsupported .. | .yield _ none _ => rfl
  | .template _ es | .array _ es | .sequence _ es => Expr.allHides_outlines es
  | .tagged _ l r | .binary _ _ l r => by
      simp [Expr.outline, Expr.allHides_outline l, Expr.allHides_outline r]
  | .spread _ e | .unary _ _ e | .update _ _ e | .paren _ e | .await _ e | .typed _ _ e
  | .yield _ (some e) _ => Expr.allHides_outline e
  | .object _ ms => Member.allHides_outlines ms
  | .call _ c as _ | .new _ c as => by
      simp [Expr.outline, Expr.allHides_outline c, Expr.allHides_outlines as]
  | .member _ o p computed _ => by
      cases computed <;> simp [Expr.outline, Expr.allHides_outline o, Expr.allHides_outline p]
  | .assign _ _ l r => by simp [Expr.outline, Pattern.allHides_assign l, Expr.allHides_outline r]
  | .conditional _ t c a => by
      simp [Expr.outline, Expr.allHides_outline t, Expr.allHides_outline c, Expr.allHides_outline a]

@[simp] theorem Expr.allHides_outlines : ∀ es : List Expr, allHides (Expr.outlines legacy es) = []
  | [] => rfl
  | e :: es => by simp [Expr.outlines, Expr.allHides_outline e, Expr.allHides_outlines es]

@[simp] theorem Member.allHides_outline : ∀ m : Member, allHides (m.outline legacy) = []
  | .property _ key value computed shorthand => by
      rw [Member.outline_property, allHides_append, List.append_eq_nil_iff]
      constructor
      · cases computed
        · rfl
        · exact Expr.allHides_outline key
      · split
        · rfl
        · exact Expr.allHides_outline value
  | .method _ key _ _ computed _ => by
      cases computed <;> simp [Member.outline, Expr.allHides_outline key]
  | .spread _ e => Expr.allHides_outline e
  | .unsupported .. => rfl

@[simp] theorem Member.allHides_outlines : ∀ ms : List Member, allHides (Member.outlines legacy ms) = []
  | [] => rfl
  | m :: ms => by simp [Member.outlines, Member.allHides_outline m, Member.allHides_outlines ms]

@[simp] theorem Pattern.allHides_assign : ∀ p : Pattern, allHides (p.assign legacy) = []
  | .expr e => Expr.allHides_outline e
  | .default _ p e => by simp [Pattern.assign, Pattern.allHides_assign p, Expr.allHides_outline e]
  | .array _ ps => Pattern.allHides_assignElements ps
  | .object _ es => Entry.allHides_assigns es
  | .rest _ p => Pattern.allHides_assign p

@[simp] theorem Pattern.allHides_assignElements :
    ∀ ps : List (Option Pattern), allHides (Pattern.assignElements legacy ps) = []
  | [] => rfl
  | none :: ps => Pattern.allHides_assignElements ps
  | some p :: ps => by
      simp [Pattern.assignElements, Pattern.allHides_assign p, Pattern.allHides_assignElements ps]

@[simp] theorem Entry.allHides_assign : ∀ e : Entry, allHides (e.assign legacy) = []
  | .property _ key value computed shorthand => by
      rw [Entry.assign_property, allHides_append, List.append_eq_nil_iff]
      constructor
      · cases computed
        · rfl
        · exact Expr.allHides_outline key
      · split
        · split
          · exact Expr.allHides_outline _
          · rfl
          · rfl
        · exact Pattern.allHides_assign value
  | .rest _ p => Pattern.allHides_assign p

@[simp] theorem Entry.allHides_assigns : ∀ es : List Entry, allHides (Entry.assigns legacy es) = []
  | [] => rfl
  | e :: es => by simp [Entry.assigns, Entry.allHides_assign e, Entry.allHides_assigns es]

end

mutual

@[simp] theorem Pattern.allHides_declare : ∀ p : Pattern, allHides (p.declare legacy) = p.binds
  | .expr e => by cases e <;> rfl
  | .default _ p e => by simp [Pattern.declare, Pattern.binds, Pattern.allHides_declare p]
  | .array _ ps => Pattern.allHides_declareElements ps
  | .object _ es => Entry.allHides_declares es
  | .rest _ (.expr e) => by cases e <;> rfl
  | .rest _ (.default ..) | .rest _ (.array ..) | .rest _ (.object ..) | .rest _ (.rest ..) => rfl

@[simp] theorem Pattern.allHides_declareElements :
    ∀ ps : List (Option Pattern), allHides (Pattern.declareElements legacy ps) = Pattern.elementBinds ps
  | [] => rfl
  | none :: ps => Pattern.allHides_declareElements ps
  | some p :: ps => by
      simp [Pattern.declareElements, Pattern.elementBinds, Pattern.allHides_declare p,
        Pattern.allHides_declareElements ps]

@[simp] theorem Entry.allHides_declare : ∀ e : Entry, allHides (e.declare legacy) = e.binds
  | .property _ key value computed shorthand => by
      have hk : allHides (if computed then key.outline legacy else []) = [] := by cases computed <;> simp
      rw [Entry.declare_property, allHides_append, hk, List.nil_append]
      cases shorthand with
      | true =>
          cases key with
          | ident i =>
              cases value with
              | default _ p e => simp [Entry.binds, Pattern.allHides_declare p]
              | expr | array | object | rest => rfl
          | _ => rfl
      | false =>
          cases value with
          | expr e => cases e <;> rfl
          | default _ p e => simp [Entry.binds, Pattern.binds, Pattern.allHides_declare p]
          | array _ ps => exact Pattern.allHides_declareElements ps
          | object _ es => exact Entry.allHides_declares es
          | rest => rfl
  | .rest _ (.expr e) => by cases e <;> rfl
  | .rest _ (.default ..) | .rest _ (.array ..) | .rest _ (.object ..) | .rest _ (.rest ..) => rfl

@[simp] theorem Entry.allHides_declares :
    ∀ es : List Entry, allHides (Entry.declares legacy es) = Entry.allBinds es
  | [] => rfl
  | e :: es => by
      simp [Entry.declares, Entry.allBinds, Entry.allHides_declare e, Entry.allHides_declares es]

end

@[simp] theorem Pattern.allHides_declares (ps : List Pattern) :
    allHides (Pattern.declares legacy ps) = ps.flatMap Pattern.binds := by
  induction ps with
  | nil => rfl
  | cons p ps ih => simp [Pattern.declares, ih]

@[simp] theorem Declarator.allHides_outlines (ds : List Declarator) :
    allHides (Declarator.outlines legacy ds) = ds.flatMap Declarator.binds := by
  induction ds with
  | nil => rfl
  | cons d ds ih =>
      obtain ⟨_, p, init⟩ := d
      cases init <;> simp [Declarator.outlines, Declarator.binds, ih]

@[simp] theorem Variables.allHides_outline (v : Variables) : allHides (v.outline legacy) = v.binds := by
  obtain ⟨_, _, ds⟩ := v
  exact Declarator.allHides_outlines legacy ds

@[simp] theorem Head.allHides_outline (h : Head) : allHides (h.outline legacy) = h.binds := by
  cases h with
  | declare v => exact Variables.allHides_outline legacy v
  | target p => exact Pattern.allHides_assign legacy p

@[simp] theorem EnumMember.allHides_outlines (ms : List EnumMember) :
    allHides (EnumMember.outlines legacy ms) = [] := by
  induction ms with
  | nil => rfl
  | cons m ms ih =>
      obtain ⟨_, _, init⟩ := m
      cases init <;> simp [EnumMember.outlines, ih]

@[simp] theorem Case.allHides_outlines (cs : List Case) : allHides (Case.outlines legacy cs) = [] := by
  induction cs with
  | nil => rfl
  | cons c cs ih =>
      obtain ⟨_, test, _⟩ := c
      cases test <;> simp [Case.outlines, ih]

@[simp] theorem Handler.allHides_outline (h : Handler) : allHides (h.outline legacy) = [] := by
  obtain ⟨_, param, _⟩ := h
  cases param <;> cases legacy <;> rfl

@[simp] theorem Stmt.allHides_outline : ∀ s : Stmt, allHides (s.outline legacy) = s.declared legacy
  | .block _ | .empty _ | .debugger _ | .breakTo .. | .continueTo .. | .typeDecl .. | .ret _ none
  | .tryCatch _ _ none none | .tryCatch _ _ none (some _) | .forLoop .. | .classDecl .. | .imports ..
  | .importAlias .. | .exports .. | .unsupported .. => rfl
  | .expr _ e | .ret _ (some e) | .throw _ e => Expr.allHides_outline legacy e
  | .ifElse _ _ _ none | .ifElse _ _ _ (some _) | .switch .. | .tryCatch _ _ (some _) none
  | .tryCatch _ _ (some _) (some _) | .whileLoop .. | .doWhile .. | .withObject .. | .forIn ..
  | .function .. | .enum .. => by simp [Stmt.outline, Stmt.declared]
  | .labeled _ _ b => Stmt.allHides_outline b
  | .forOf _ h r _ _ => by cases legacy <;> simp [Stmt.outline, Stmt.declared]
  | .declare v => Variables.allHides_outline legacy v

end ScriptSplit
