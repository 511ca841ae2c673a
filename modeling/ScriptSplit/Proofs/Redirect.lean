import ScriptSplit.Proofs.Occurrence

namespace ScriptSplit

/-- Occurrences of a piece, told by the paths to them. -/
abbrev Marks := List Nat → Bool

def Marks.into (m : Marks) (i : Nat) : Marks := fun path => m (i :: path)

def Ident.access (locals : String) (i : Ident) : Expr :=
  .paren i.span (.member i.span (.ident ⟨i.span, locals⟩) (.ident i) false false)

def Pattern.retarget : Pattern → Pattern → Pattern
  | .default s _ e, target => .default s target e
  | _, target => target

def Pattern.spelled (i : Ident) : Pattern → Pattern
  | .default s p e => .default s p e
  | _ => .expr (.ident i)

/-- An entry of an object from its new key and value; a shorthand entry that is replaced is written
out. -/
def Member.rebuild (locals : String) (marked : Bool) (s : Span) (key key' value value' : Expr)
    (computed shorthand : Bool) : Member :=
  match shorthand, key with
  | true, .ident i =>
      if marked then .property s key' (i.access locals) computed false
      else .property s key value computed true
  | _, _ => .property s key' value' computed shorthand

/-- A shorthand entry declares the name of its key, also when the key is replaced. -/
def Entry.rebuild (marked : Bool) (s : Span) (key key' : Expr) (value' : Pattern)
    (computed shorthand : Bool) : Entry :=
  match shorthand, key with
  | true, .ident i =>
      if computed && marked then
        .property s key' (value'.spelled i) true false
      else .property s key value' computed true
  | _, _ => .property s key' value' computed shorthand

def Entry.rebuildTarget (locals : String) (marked : Bool) (s : Span) (key key' : Expr)
    (value' default' : Pattern) (computed shorthand : Bool) : Entry :=
  match shorthand, key with
  | true, .ident i =>
      if marked then .property s key' (default'.retarget (.expr (i.access locals))) computed false
      else .property s key default' computed true
  | _, _ => .property s key' value' computed shorthand

mutual

/-- Replaces marked occurrences; the marks of a part are those below its place among the parts. -/
def Expr.redirect (l : String) (m : Marks) : Expr → Expr
  | .ident i => if m [] then i.access l else .ident i
  | .template s es => .template s (Expr.redirectAll l m.into es)
  | .tagged s tag quasi => .tagged s (tag.redirect l (m.into 0)) (quasi.redirect l (m.into 1))
  | .spread s e => .spread s (e.redirect l (m.into 0))
  | .array s es => .array s (Expr.redirectAll l m.into es)
  | .object s ms => .object s (Member.redirectAll l m.into ms)
  | .function s name ps b isAsync isGenerator =>
      .function s name (Pattern.redirectAll l m.into ps) (b.redirect l (m.into ps.length)) isAsync
        isGenerator
  | .arrow s ps b isAsync =>
      .arrow s (Pattern.redirectAll l m.into ps) (b.redirect l (m.into ps.length)) isAsync
  | .call s c as optional =>
      .call s (c.redirect l (m.into 0)) (Expr.redirectAll l (fun i => m.into (i + 1)) as) optional
  | .new s c as => .new s (c.redirect l (m.into 0)) (Expr.redirectAll l (fun i => m.into (i + 1)) as)
  | .member s o p computed optional =>
      .member s (o.redirect l (m.into 0)) (if computed then p.redirect l (m.into 1) else p) computed
        optional
  | .unary s op e => .unary s op (e.redirect l (m.into 0))
  | .update s op e => .update s op (e.redirect l (m.into 0))
  | .binary s op a b => .binary s op (a.redirect l (m.into 0)) (b.redirect l (m.into 1))
  | .assign s op a b => .assign s op (a.redirectTarget l (m.into 0)) (b.redirect l (m.into 1))
  | .conditional s t c a =>
      .conditional s (t.redirect l (m.into 0)) (c.redirect l (m.into 1)) (a.redirect l (m.into 2))
  | .sequence s es => .sequence s (Expr.redirectAll l m.into es)
  | .paren s e => .paren s (e.redirect l (m.into 0))
  | .await s e => .await s (e.redirect l (m.into 0))
  | .yield s e delegate => .yield s (Expr.redirect? l (m.into 0) e) delegate
  | .typed s kind e => .typed s kind (e.redirect l (m.into 0))
  | e => e

def Expr.redirectAll (l : String) (m : Nat → Marks) : List Expr → List Expr
  | [] => []
  | e :: es => e.redirect l (m 0) :: Expr.redirectAll l (fun i => m (i + 1)) es

def Expr.redirect? (l : String) (m : Marks) : Option Expr → Option Expr
  | none => none
  | some e => some (e.redirect l m)

def Member.redirect (l : String) (m : Marks) : Member → Member
  | .property s key value computed shorthand =>
      .rebuild l (m [computed.toNat]) s key (if computed then key.redirect l (m.into 0) else key)
        value (value.redirect l (m.into computed.toNat)) computed shorthand
  | .method s key ps b computed kind =>
      .method s (if computed then key.redirect l (m.into 0) else key)
        (Pattern.redirectAll l (fun i => m.into (i + computed.toNat)) ps)
        (b.redirect l (m.into (ps.length + computed.toNat))) computed kind
  | .spread s e => .spread s (e.redirect l (m.into 0))
  | .unsupported s kind => .unsupported s kind

def Member.redirectAll (l : String) (m : Nat → Marks) : List Member → List Member
  | [] => []
  | e :: es => e.redirect l (m 0) :: Member.redirectAll l (fun i => m (i + 1)) es

def Body.redirect (l : String) (m : Marks) : Body → Body
  | .block b => .block (b.redirect l m)
  | .expr e => .expr (e.redirect l m)

def Block.redirect (l : String) (m : Marks) : Block → Block
  | .mk s ss => .mk s (Stmt.redirectAll l m.into ss)

def Block.redirect? (l : String) (m : Marks) : Option Block → Option Block
  | none => none
  | some b => some (b.redirect l m)

/-- What a pattern declares is no occurrence; its computed keys and default values hold some. -/
def Pattern.redirect (l : String) (m : Marks) : Pattern → Pattern
  | .default s p e => .default s (p.redirect l (m.into 0)) (e.redirect l (m.into 1))
  | .array s ps => .array s (Pattern.redirectElements l m.into ps)
  | .object s es => .object s (Entry.redirectAll l m.into es)
  | p => p

def Pattern.redirectAll (l : String) (m : Nat → Marks) : List Pattern → List Pattern
  | [] => []
  | p :: ps => p.redirect l (m 0) :: Pattern.redirectAll l (fun i => m (i + 1)) ps

def Pattern.redirectElements (l : String) (m : Nat → Marks) :
    List (Option Pattern) → List (Option Pattern)
  | [] => []
  | none :: ps => none :: Pattern.redirectElements l m ps
  | some p :: ps => some (p.redirect l (m 0)) :: Pattern.redirectElements l (fun i => m (i + 1)) ps

def Entry.redirect (l : String) (m : Marks) : Entry → Entry
  | .property s key value computed shorthand =>
      .rebuild (m [0]) s key (if computed then key.redirect l (m.into 0) else key)
        (value.redirect l (m.into computed.toNat)) computed shorthand
  | .rest s p => .rest s p

def Entry.redirectAll (l : String) (m : Nat → Marks) : List Entry → List Entry
  | [] => []
  | e :: es => e.redirect l (m 0) :: Entry.redirectAll l (fun i => m (i + 1)) es

/-- The names of a pattern that is assigned to are occurrences. -/
def Pattern.redirectTarget (l : String) (m : Marks) : Pattern → Pattern
  | .expr e => .expr (e.redirect l (m.into 0))
  | .default s p e => .default s (p.redirectTarget l (m.into 0)) (e.redirect l (m.into 1))
  | .array s ps => .array s (Pattern.redirectTargets l m.into ps)
  | .object s es => .object s (Entry.redirectTargets l m.into es)
  | .rest s p => .rest s (p.redirectTarget l (m.into 0))

def Pattern.redirectTargets (l : String) (m : Nat → Marks) :
    List (Option Pattern) → List (Option Pattern)
  | [] => []
  | none :: ps => none :: Pattern.redirectTargets l m ps
  | some p :: ps =>
      some (p.redirectTarget l (m 0)) :: Pattern.redirectTargets l (fun i => m (i + 1)) ps

def Pattern.redirectDefault (l : String) (m : Marks) : Pattern → Pattern
  | .default s p e => .default s p (e.redirect l m)
  | p => p

def Entry.redirectTarget (l : String) (m : Marks) : Entry → Entry
  | .property s key value computed shorthand =>
      .rebuildTarget l (m [computed.toNat]) s key (if computed then key.redirect l (m.into 0) else key)
        (value.redirectTarget l (m.into computed.toNat))
        (value.redirectDefault l (m.into (computed.toNat + 1))) computed shorthand
  | .rest s p => .rest s (p.redirectTarget l (m.into 0))

def Entry.redirectTargets (l : String) (m : Nat → Marks) : List Entry → List Entry
  | [] => []
  | e :: es => e.redirectTarget l (m 0) :: Entry.redirectTargets l (fun i => m (i + 1)) es

def Stmt.redirect (l : String) (m : Marks) : Stmt → Stmt
  | .block b => .block (b.redirect l (m.into 0))
  | .expr s e => .expr s (e.redirect l (m.into 0))
  | .ifElse s t c a =>
      .ifElse s (t.redirect l (m.into 0)) (c.redirect l (m.into 1)) (Stmt.redirect? l (m.into 2) a)
  | .labeled s label b => .labeled s label (b.redirect l (m.into 0))
  | .ret s e => .ret s (Expr.redirect? l (m.into 0) e)
  | .throw s e => .throw s (e.redirect l (m.into 0))
  | .switch s d cs =>
      .switch s (d.redirect l (m.into 0)) (Case.redirectAll l (fun i => m.into (i + 1)) cs)
  | .tryCatch s b h f =>
      .tryCatch s (b.redirect l (m.into 0)) (Handler.redirect? l (m.into 1) h)
        (Block.redirect? l (m.into (h.toList.length + 1)) f)
  | .whileLoop s t b => .whileLoop s (t.redirect l (m.into 0)) (b.redirect l (m.into 1))
  | .doWhile s b t => .doWhile s (b.redirect l (m.into 0)) (t.redirect l (m.into 1))
  | .withObject s o b => .withObject s (o.redirect l (m.into 0)) (b.redirect l (m.into 1))
  | .forLoop s init test update b =>
      .forLoop s (Head.redirect? l (m.into 0) init)
        (Expr.redirect? l (m.into init.toList.length) test)
        (Expr.redirect? l (m.into (test.toList.length + init.toList.length)) update)
        (b.redirect l (m.into (update.toList.length + test.toList.length + init.toList.length)))
  | .forIn s h r b =>
      .forIn s (h.redirect l (m.into 1)) (r.redirect l (m.into 0)) (b.redirect l (m.into 2))
  | .forOf s h r b isAwait =>
      .forOf s (h.redirect l (m.into 1)) (r.redirect l (m.into 0)) (b.redirect l (m.into 2)) isAwait
  | .declare v => .declare (v.redirect l (m.into 0))
  | .function s name ps b isAsync isGenerator =>
      .function s name (Pattern.redirectAll l m.into ps) (b.redirect l (m.into ps.length)) isAsync
        isGenerator
  | .enum s i ms => .enum s i (EnumMember.redirectAll l m.into ms)
  | s => s

def Stmt.redirectAll (l : String) (m : Nat → Marks) : List Stmt → List Stmt
  | [] => []
  | s :: ss => s.redirect l (m 0) :: Stmt.redirectAll l (fun i => m (i + 1)) ss

def Stmt.redirect? (l : String) (m : Marks) : Option Stmt → Option Stmt
  | none => none
  | some s => some (s.redirect l m)

def Case.redirect (l : String) (m : Marks) : Case → Case
  | .mk s test ss =>
      .mk s (Expr.redirect? l (m.into 0) test)
        (Stmt.redirectAll l (fun i => m.into (i + test.toList.length)) ss)

def Case.redirectAll (l : String) (m : Nat → Marks) : List Case → List Case
  | [] => []
  | c :: cs => c.redirect l (m 0) :: Case.redirectAll l (fun i => m (i + 1)) cs

def Handler.redirect (l : String) (m : Marks) : Handler → Handler
  | .mk s none b => .mk s none (b.redirect l (m.into 0))
  | .mk s (some p) b => .mk s (some (p.redirect l (m.into 0))) (b.redirect l (m.into 1))

def Handler.redirect? (l : String) (m : Marks) : Option Handler → Option Handler
  | none => none
  | some h => some (h.redirect l m)

def EnumMember.redirect (l : String) (m : Marks) : EnumMember → EnumMember
  | .mk s name init => .mk s name (Expr.redirect? l (m.into 0) init)

def EnumMember.redirectAll (l : String) (m : Nat → Marks) : List EnumMember → List EnumMember
  | [] => []
  | e :: es => e.redirect l (m 0) :: EnumMember.redirectAll l (fun i => m (i + 1)) es

def Variables.redirect (l : String) (m : Marks) : Variables → Variables
  | .mk s kind ds => .mk s kind (Declarator.redirectAll l m.into ds)

def Declarator.redirect (l : String) (m : Marks) : Declarator → Declarator
  | .mk s target init =>
      .mk s (target.redirect l (m.into init.toList.length)) (Expr.redirect? l (m.into 0) init)

def Declarator.redirectAll (l : String) (m : Nat → Marks) : List Declarator → List Declarator
  | [] => []
  | d :: ds => d.redirect l (m 0) :: Declarator.redirectAll l (fun i => m (i + 1)) ds

def Head.redirect (l : String) (m : Marks) : Head → Head
  | .declare v => .declare (v.redirect l (m.into 0))
  | .target p => .target (p.redirectTarget l (m.into 0))

def Head.redirect? (l : String) (m : Marks) : Option Head → Option Head
  | none => none
  | some h => some (h.redirect l m)

end

def Phrase.redirect (l : String) (m : Marks) : Phrase → Phrase
  | .expr e => .expr (e.redirect l m)
  | .shorthand i => if m [] then .expr (i.access l) else .shorthand i
  | .member e => .member (e.redirect l m)
  | .declared p => .declared (p.redirect l m)
  | .declaredEntry e => .declaredEntry (e.redirect l m)
  | .assigned p => .assigned (p.redirectTarget l m)
  | .assignedEntry e => .assignedEntry (e.redirectTarget l m)
  | .block b => .block (b.redirect l m)
  | .stmt s => .stmt (s.redirect l m)
  | .case c => .case (c.redirect l m)
  | .handler h => .handler (h.redirect l m)
  | .variables v => .variables (v.redirect l m)
  | .declarator d => .declarator (d.redirect l m)
  | .head h => .head (h.redirect l m)
  | .enumMember e => .enumMember (e.redirect l m)

namespace Phrase

def redirectAll (l : String) (m : Nat → Marks) (ps : List Phrase) : List Phrase :=
  ps.mapIdx fun i p => p.redirect l (m i)

@[simp] theorem redirectAll_nil (l : String) (m : Nat → Marks) : redirectAll l m [] = [] := rfl

@[simp] theorem redirectAll_cons (l : String) (m : Nat → Marks) (p : Phrase) (ps : List Phrase) :
    redirectAll l m (p :: ps) = p.redirect l (m 0) :: redirectAll l (fun i => m (i + 1)) ps :=
  List.mapIdx_cons

@[simp] theorem redirectAll_append (l : String) (m : Nat → Marks) (ps qs : List Phrase) :
    redirectAll l m (ps ++ qs) = redirectAll l m ps ++ redirectAll l (fun i => m (i + ps.length)) qs :=
  List.mapIdx_append

variable (l : String) (m : Marks)

@[simp] theorem redirect_expr (e : Expr) : (Phrase.expr e).redirect l m = .expr (e.redirect l m) := rfl

@[simp] theorem redirect_member (e : Member) : (Phrase.member e).redirect l m = .member (e.redirect l m) := rfl

@[simp] theorem redirect_declared (p : Pattern) : (Phrase.declared p).redirect l m = .declared (p.redirect l m) := rfl

@[simp] theorem redirect_declaredEntry (e : Entry) : (Phrase.declaredEntry e).redirect l m = .declaredEntry (e.redirect l m) := rfl

@[simp] theorem redirect_assigned (p : Pattern) : (Phrase.assigned p).redirect l m = .assigned (p.redirectTarget l m) := rfl

@[simp] theorem redirect_assignedEntry (e : Entry) : (Phrase.assignedEntry e).redirect l m = .assignedEntry (e.redirectTarget l m) := rfl

@[simp] theorem redirect_block (b : Block) : (Phrase.block b).redirect l m = .block (b.redirect l m) := rfl

@[simp] theorem redirect_stmt (s : Stmt) : (Phrase.stmt s).redirect l m = .stmt (s.redirect l m) := rfl

@[simp] theorem redirect_case (c : Case) : (Phrase.case c).redirect l m = .case (c.redirect l m) := rfl

@[simp] theorem redirect_handler (h : Handler) : (Phrase.handler h).redirect l m = .handler (h.redirect l m) := rfl

@[simp] theorem redirect_variables (v : Variables) : (Phrase.variables v).redirect l m = .variables (v.redirect l m) := rfl

@[simp] theorem redirect_declarator (d : Declarator) : (Phrase.declarator d).redirect l m = .declarator (d.redirect l m) := rfl

@[simp] theorem redirect_head (h : Head) : (Phrase.head h).redirect l m = .head (h.redirect l m) := rfl

@[simp] theorem redirect_enumMember (e : EnumMember) : (Phrase.enumMember e).redirect l m = .enumMember (e.redirect l m) := rfl

end Phrase

section Lists

variable (l : String) (m : Nat → Marks)

theorem mapIdx_of_cons {α : Type} {f : (Nat → Marks) → List α → List α} {g : Marks → α → α}
    (hnil : ∀ m, f m [] = [])
    (hcons : ∀ m x xs, f m (x :: xs) = g (m 0) x :: f (fun i => m (i + 1)) xs) (xs : List α) :
    f m xs = xs.mapIdx fun i x => g (m i) x := by
  induction xs generalizing m with
  | nil => exact hnil m
  | cons x xs ih => rw [hcons, ih, List.mapIdx_cons]

theorem Pattern.redirectAll_eq (ps : List Pattern) :
    Pattern.redirectAll l m ps = ps.mapIdx fun i p => p.redirect l (m i) :=
  mapIdx_of_cons m (fun _ => rfl) (fun _ _ _ => rfl) ps

theorem Entry.redirectAll_eq (es : List Entry) :
    Entry.redirectAll l m es = es.mapIdx fun i e => e.redirect l (m i) :=
  mapIdx_of_cons m (fun _ => rfl) (fun _ _ _ => rfl) es

theorem Stmt.redirectAll_eq (ss : List Stmt) :
    Stmt.redirectAll l m ss = ss.mapIdx fun i s => s.redirect l (m i) :=
  mapIdx_of_cons m (fun _ => rfl) (fun _ _ _ => rfl) ss

theorem Declarator.redirectAll_eq (ds : List Declarator) :
    Declarator.redirectAll l m ds = ds.mapIdx fun i d => d.redirect l (m i) :=
  mapIdx_of_cons m (fun _ => rfl) (fun _ _ _ => rfl) ds

theorem Pattern.filterMap_redirectElements (ps : List (Option Pattern)) :
    (Pattern.redirectElements l m ps).filterMap id =
      (ps.filterMap id).mapIdx fun i p => p.redirect l (m i) := by
  induction ps generalizing m with
  | nil => rfl
  | cons p ps ih =>
      cases p with
      | none => exact ih m
      | some p =>
          change p.redirect l (m 0) :: _ = (p :: ps.filterMap id).mapIdx _
          rw [List.mapIdx_cons, ih]

theorem mapIdx_map_of_cons {α : Type} {f : (Nat → Marks) → List α → List α} {phrase : α → Phrase}
    (hnil : ∀ m, f m [] = [])
    (hcons : ∀ m x xs, (f m (x :: xs)).map phrase =
      (phrase x).redirect l (m 0) :: (f (fun i => m (i + 1)) xs).map phrase) (xs : List α) :
    (f m xs).map phrase = Phrase.redirectAll l m (xs.map phrase) := by
  induction xs generalizing m with
  | nil => rw [hnil]; rfl
  | cons x xs ih => rw [hcons, ih, List.map_cons, Phrase.redirectAll_cons]

theorem Expr.map_redirectAll (es : List Expr) :
    (Expr.redirectAll l m es).map Phrase.expr = Phrase.redirectAll l m (es.map Phrase.expr) :=
  mapIdx_map_of_cons l m (fun _ => rfl) (fun _ _ _ => rfl) es

theorem Member.map_redirectAll (es : List Member) :
    (Member.redirectAll l m es).map Phrase.member = Phrase.redirectAll l m (es.map Phrase.member) :=
  mapIdx_map_of_cons l m (fun _ => rfl) (fun _ _ _ => rfl) es

theorem Entry.map_redirectTargets (es : List Entry) :
    (Entry.redirectTargets l m es).map Phrase.assignedEntry =
      Phrase.redirectAll l m (es.map Phrase.assignedEntry) :=
  mapIdx_map_of_cons l m (fun _ => rfl) (fun _ _ _ => rfl) es

theorem Case.map_redirectAll (cs : List Case) :
    (Case.redirectAll l m cs).map Phrase.case = Phrase.redirectAll l m (cs.map Phrase.case) :=
  mapIdx_map_of_cons l m (fun _ => rfl) (fun _ _ _ => rfl) cs

theorem EnumMember.map_redirectAll (es : List EnumMember) :
    (EnumMember.redirectAll l m es).map Phrase.enumMember =
      Phrase.redirectAll l m (es.map Phrase.enumMember) :=
  mapIdx_map_of_cons l m (fun _ => rfl) (fun _ _ _ => rfl) es

theorem Pattern.map_redirectTargets (ps : List (Option Pattern)) :
    ((Pattern.redirectTargets l m ps).filterMap id).map Phrase.assigned =
      Phrase.redirectAll l m ((ps.filterMap id).map Phrase.assigned) := by
  induction ps generalizing m with
  | nil => rfl
  | cons p ps ih =>
      cases p with
      | none => exact ih m
      | some p =>
          change _ :: _ = Phrase.redirectAll l m (.assigned p :: (ps.filterMap id).map Phrase.assigned)
          rw [Phrase.redirectAll_cons, ih]
          rfl

theorem flatMap_mapIdx {α β : Type} {f : Nat → α → α} {names : α → List β}
    (h : ∀ i x, names (f i x) = names x) (xs : List α) :
    (xs.mapIdx f).flatMap names = xs.flatMap names := by
  induction xs generalizing f with
  | nil => rfl
  | cons x xs ih =>
      rw [List.mapIdx_cons, List.flatMap_cons, List.flatMap_cons, h, ih fun i => h (i + 1)]

end Lists

section Names

variable (l : String)

mutual

@[simp] theorem Pattern.binds_redirect : ∀ (m : Marks) (p : Pattern), (p.redirect l m).binds = p.binds
  | _, .expr _ | _, .rest .. => rfl
  | m, .default _ p _ => Pattern.binds_redirect (m.into 0) p
  | m, .array _ ps => Pattern.elementBinds_redirectElements m.into ps
  | m, .object _ es => Entry.allBinds_redirectAll m.into es

@[simp] theorem Pattern.elementBinds_redirectElements : ∀ (m : Nat → Marks) (ps : List (Option Pattern)),
    Pattern.elementBinds (Pattern.redirectElements l m ps) = Pattern.elementBinds ps
  | _, [] => rfl
  | m, none :: ps => Pattern.elementBinds_redirectElements m ps
  | m, some p :: ps => by
      simp only [Pattern.redirectElements, Pattern.elementBinds, Pattern.binds_redirect (m 0) p,
        Pattern.elementBinds_redirectElements (fun i => m (i + 1)) ps]

@[simp] theorem Entry.binds_redirect : ∀ (m : Marks) (e : Entry), (e.redirect l m).binds = e.binds
  | m, .property s key value computed shorthand => by
      have hvalue := Pattern.binds_redirect (m.into computed.toNat) value
      cases shorthand with
      | false =>
          cases value with
          | rest => rfl
          | _ => exact hvalue
      | true => cases key with
          | ident i =>
              cases hm : computed && m [0] with
              | true =>
                  simp only [Entry.redirect, Entry.rebuild, hm]
                  cases value with
                  | default => exact hvalue
                  | _ => rfl
              | false =>
                  simp only [Entry.redirect, Entry.rebuild, hm]
                  cases value with
                  | default => exact hvalue
                  | _ => rfl
          | _ => cases computed <;> rfl
  | _, .rest .. => rfl

@[simp] theorem Entry.allBinds_redirectAll : ∀ (m : Nat → Marks) (es : List Entry),
    Entry.allBinds (Entry.redirectAll l m es) = Entry.allBinds es
  | _, [] => rfl
  | m, e :: es => by
      simp only [Entry.redirectAll, Entry.allBinds, Entry.binds_redirect (m 0) e,
        Entry.allBinds_redirectAll (fun i => m (i + 1)) es]

end

@[simp] theorem Declarator.binds_redirect (m : Marks) (d : Declarator) :
    (d.redirect l m).binds = d.binds := by
  obtain ⟨s, target, init⟩ := d
  exact Pattern.binds_redirect l _ target

@[simp] theorem Variables.binds_redirect (m : Marks) (v : Variables) : (v.redirect l m).binds = v.binds := by
  obtain ⟨s, kind, ds⟩ := v
  simp only [Variables.redirect, Variables.binds, Declarator.redirectAll_eq]
  exact flatMap_mapIdx (fun i => Declarator.binds_redirect l (m.into i)) ds

@[simp] theorem Head.binds_redirect (m : Marks) (h : Head) : (h.redirect l m).binds = h.binds := by
  cases h with
  | declare v => exact Variables.binds_redirect l _ v
  | target p => rfl

@[simp] theorem Stmt.declared_redirect (legacy : Bool) (m : Marks) :
    ∀ s : Stmt, (s.redirect l m).declared legacy = s.declared legacy
  | .declare v => Variables.binds_redirect l _ v
  | .labeled _ _ b => Stmt.declared_redirect legacy (m.into 0) b
  | .forOf _ h _ _ _ => by simp [Stmt.redirect, Stmt.declared]
  | .block _ | .empty _ | .debugger _ | .breakTo .. | .continueTo .. | .typeDecl .. | .expr .. | .ifElse ..
  | .ret .. | .throw .. | .switch .. | .tryCatch .. | .whileLoop .. | .doWhile .. | .withObject ..
  | .forLoop .. | .forIn .. | .function .. | .enum .. | .classDecl .. | .imports .. | .importAlias ..
  | .exports .. | .unsupported .. => rfl

@[simp] theorem functionNames_redirectAll (m : Nat → Marks) (ss : List Stmt) :
    functionNames (Stmt.redirectAll l m ss) = functionNames ss := by
  rw [Stmt.redirectAll_eq]
  refine flatMap_mapIdx (fun i s => ?_) ss
  cases s <;> rfl

end Names

open Parts

namespace Parts

def redirect (l : String) (m : Nat → Marks) (parts : Parts) : Parts :=
  parts.mapIdx fun i part => (part.1, part.2.redirect l (m i))

variable (l : String) (m : Nat → Marks)

@[simp] theorem redirect_nil : redirect l m [] = [] := rfl

@[simp] theorem redirect_cons (part : List String × Phrase) (parts : Parts) :
    redirect l m (part :: parts) =
      (part.1, part.2.redirect l (m 0)) :: redirect l (fun i => m (i + 1)) parts :=
  List.mapIdx_cons

@[simp] theorem redirect_append (xs ys : Parts) :
    redirect l m (xs ++ ys) = redirect l m xs ++ redirect l (fun i => m (i + xs.length)) ys :=
  List.mapIdx_append

theorem exists_of_mem_redirect {part : List String × Phrase} {parts : Parts}
    (h : part ∈ redirect l m parts) :
    ∃ (i : Nat) (q : Phrase), parts[i]? = some (part.1, q) ∧ part.2 = q.redirect l (m i) := by
  obtain ⟨i, hi⟩ := List.getElem?_of_mem h
  rw [redirect, List.getElem?_mapIdx, Option.map_eq_some_iff] at hi
  obtain ⟨⟨names, q⟩, hq, rfl⟩ := hi
  exact ⟨i, q, hq, rfl⟩

@[simp] theorem redirect_plain (ps : List Phrase) :
    redirect l m (plain ps) = plain (Phrase.redirectAll l m ps) := by
  induction ps generalizing m with
  | nil => rfl
  | cons p ps ih =>
      have hps := ih fun i => m (i + 1)
      simp only [plain, List.map_cons, Phrase.redirectAll_cons, redirect_cons] at hps ⊢
      rw [hps]

@[simp] theorem redirect_within (names : List String) (parts : Parts) :
    redirect l m (within names parts) = within names (redirect l m parts) := by
  induction parts generalizing m with
  | nil => rfl
  | cons part parts ih =>
      have hparts := ih fun i => m (i + 1)
      simp only [within, List.map_cons, redirect_cons] at hparts ⊢
      rw [hparts]

@[simp] theorem length_plain (ps : List Phrase) : (plain ps).length = ps.length := by simp [plain]

@[simp] theorem length_inTurn {α : Type} (names : α → List String) (phrase : α → Phrase) (xs : List α) :
    (inTurn names phrase xs).length = xs.length := by
  simp [inTurn]

theorem redirect_inTurn {α : Type} {names : α → List String} {phrase : α → Phrase} {f : Nat → α → α}
    (hnames : ∀ i x, names (f i x) = names x)
    (hphrase : ∀ i x, phrase (f i x) = (phrase x).redirect l (m i)) (xs : List α) :
    inTurn names phrase (xs.mapIdx f) = redirect l m (inTurn names phrase xs) := by
  induction xs generalizing m f with
  | nil => rfl
  | cons x xs ih =>
      have hxs := ih (fun i => m (i + 1)) (fun i => hnames (i + 1)) (fun i => hphrase (i + 1))
      simp only [List.mapIdx_cons, inTurn_cons, redirect_cons, redirect_within, hnames, hphrase, hxs]

end Parts

@[simp] theorem Body.phrase_redirect (l : String) (m : Marks) (b : Body) :
    (b.redirect l m).phrase = b.phrase.redirect l m := by
  cases b <;> rfl

namespace Parts

variable (l : String) (m : Nat → Marks)

theorem redirect_ofFunction (ps : List Pattern) (body : Phrase) :
    redirect l m (ofFunction ps body) =
      ofFunction (Pattern.redirectAll l m ps) (body.redirect l (m ps.length)) := by
  have hbinds : (Pattern.redirectAll l m ps).flatMap Pattern.binds = ps.flatMap Pattern.binds := by
    rw [Pattern.redirectAll_eq]
    exact flatMap_mapIdx (fun i => Pattern.binds_redirect l (m i)) ps
  rw [ofFunction, ofFunction, redirect_append, hbinds, Pattern.redirectAll_eq,
    redirect_inTurn l m (fun i => Pattern.binds_redirect l (m i)) fun _ _ => rfl]
  simp

theorem redirect_ofStatements (legacy : Bool) (ss : List Stmt) :
    redirect l m (ofStatements legacy ss) = ofStatements legacy (Stmt.redirectAll l m ss) := by
  rw [ofStatements, ofStatements, redirect_within, functionNames_redirectAll, Stmt.redirectAll_eq,
    redirect_inTurn l m (fun i => Stmt.declared_redirect l legacy (m i)) fun _ _ => rfl]

theorem redirect_computedKey (computed : Bool) (key : Expr) :
    redirect l m (computedKey computed key) =
      computedKey computed (if computed then key.redirect l (m 0) else key) := by
  cases computed <;> rfl

@[simp] theorem length_computedKey (computed : Bool) (key : Expr) :
    (computedKey computed key).length = computed.toNat := by
  cases computed <;> rfl

end Parts

namespace Phrase

/-- Pieces that are occurrences, and entries of which the key is one, by itself or as the shorthand. -/
def isNamed : Phrase → Bool
  | .expr (.ident _) => true
  | .shorthand _ => true
  | .member (.property _ (.ident _) _ _ true) => true
  | .declaredEntry (.property _ (.ident _) _ true true) => true
  | .assignedEntry (.property _ (.ident _) _ _ true) => true
  | _ => false

variable (l : String) (m : Marks) (legacy : Bool)

theorem expr_parts_redirect (e : Expr) (h : isNamed (.expr e) = false) :
    (e.redirect l m).parts = Parts.redirect l m.into e.parts := by
  cases e with
  | ident i => cases h
  | member s o p computed optional => cases computed <;> rfl
  | yield s e delegate => cases e <;> rfl
  | _ =>
      simp [Expr.redirect, Expr.parts, Parts.redirect_ofFunction, Expr.map_redirectAll,
        Member.map_redirectAll]

theorem member_parts_redirect (e : Member) (h : isNamed (.member e) = false) :
    (e.redirect l m).parts = Parts.redirect l m.into e.parts := by
  cases e with
  | property s key value computed short =>
      cases short with
      | false => cases computed <;> rfl
      | true => cases key with
          | ident i => cases h
          | _ => cases computed <;> rfl
  | method s key ps b computed kind =>
      simp [Member.redirect, Member.parts, Parts.redirect_computedKey, Parts.redirect_ofFunction]
  | spread s e => rfl
  | unsupported s kind => rfl

theorem declaredParts_redirect (p : Pattern) :
    (p.redirect l m).declaredParts = Parts.redirect l m.into p.declaredParts := by
  cases p with
  | array s ps =>
      simp only [Pattern.redirect, Pattern.declaredParts, Pattern.filterMap_redirectElements]
      exact Parts.redirect_inTurn l m.into (fun i => Pattern.binds_redirect l (m.into i))
        (fun _ _ => rfl) _
  | object s es =>
      simp only [Pattern.redirect, Pattern.declaredParts, Entry.redirectAll_eq]
      exact Parts.redirect_inTurn l m.into (fun i => Entry.binds_redirect l (m.into i))
        (fun _ _ => rfl) _
  | default s p e => simp [Pattern.redirect, Pattern.declaredParts]
  | expr | rest => rfl

theorem assignedParts_redirect (p : Pattern) :
    (p.redirectTarget l m).assignedParts = Parts.redirect l m.into p.assignedParts := by
  cases p with
  | array s ps =>
      simp only [Pattern.redirectTarget, Pattern.assignedParts, Pattern.map_redirectTargets,
        Parts.redirect_plain]
  | _ => simp [Pattern.redirectTarget, Pattern.assignedParts, Entry.map_redirectTargets]

theorem stmt_parts_redirect (s : Stmt) : (s.redirect l m).parts = Parts.redirect l m.into s.parts := by
  cases s with
  | ifElse s t c a => cases a <;> rfl
  | ret s e => cases e <;> rfl
  | tryCatch s b h f => cases h <;> cases f <;> rfl
  | forLoop s init test update b =>
      cases init <;> cases test <;> cases update <;>
        simp [Stmt.redirect, Stmt.parts, Head.redirect?, Expr.redirect?]
  | forIn s h r b => simp [Stmt.redirect, Stmt.parts]
  | forOf s h r b isAwait => simp [Stmt.redirect, Stmt.parts]
  | _ =>
      simp [Stmt.redirect, Stmt.parts, Parts.redirect_ofFunction, Case.map_redirectAll,
        EnumMember.map_redirectAll]

theorem entry_declaredParts_redirect (e : Entry) (h : isNamed (.declaredEntry e) = false) :
    (e.redirect l m).declaredParts = Parts.redirect l m.into e.declaredParts := by
  cases e with
  | property s key value computed short =>
      cases short with
      | false => cases computed <;> rfl
      | true => cases key with
          | ident i => cases computed with
              | true => cases h
              | false => cases value <;> rfl
          | _ => cases computed <;> rfl
  | rest s p => rfl

theorem entry_assignedParts_redirect (e : Entry) (h : isNamed (.assignedEntry e) = false) :
    (e.redirectTarget l m).assignedParts = Parts.redirect l m.into e.assignedParts := by
  cases e with
  | property s key value computed short =>
      cases short with
      | false => cases computed <;> rfl
      | true => cases key with
          | ident i => cases h
          | _ => cases computed <;> rfl
  | rest s p => rfl

theorem parts_redirect : ∀ p : Phrase, p.isNamed = false →
    (p.redirect l m).parts legacy = Parts.redirect l m.into (p.parts legacy)
  | .expr e, h => expr_parts_redirect l m e h
  | .member e, h => member_parts_redirect l m e h
  | .declared p, _ => declaredParts_redirect l m p
  | .declaredEntry e, h => entry_declaredParts_redirect l m e h
  | .assigned p, _ => assignedParts_redirect l m p
  | .assignedEntry e, h => entry_assignedParts_redirect l m e h
  | .block (.mk _ ss), _ => (Parts.redirect_ofStatements l m.into legacy ss).symm
  | .stmt s, _ => stmt_parts_redirect l m s
  | .case (.mk _ test ss), _ => by
      cases test <;> simp [parts, Case.redirect, Expr.redirect?, Parts.redirect_ofStatements]
  | .handler (.mk _ param b), _ => by cases param <;> simp [parts, Handler.redirect, Handler.parts]
  | .variables (.mk _ _ ds), _ => by
      simp only [parts, redirect_variables, Variables.redirect, Declarator.redirectAll_eq]
      exact Parts.redirect_inTurn l m.into (fun i => Declarator.binds_redirect l (m.into i))
        (fun _ _ => rfl) _
  | .declarator (.mk _ target init), _ => by cases init <;> rfl
  | .head (.declare v), _ => rfl
  | .head (.target p), _ => rfl
  | .enumMember (.mk _ _ init), _ => by cases init <;> rfl

end Phrase

end ScriptSplit
