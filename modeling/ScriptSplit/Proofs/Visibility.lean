import ScriptSplit.Proofs.Rerouting
import ScriptSplit.Proofs.Sketch

namespace ScriptSplit

open Parts

namespace Phrase

/-- The names that hold along a path, with those that hold in each part that it enters. -/
def namesAlong (names : Phrase → Nat → List String) : Phrase → List Nat → List String
  | _, [] => []
  | p, i :: path =>
      match p.pieces[i]? with
      | none => []
      | some q => names p i ++ q.namesAlong names path

def ownNames : Phrase → List String
  | .expr (.function _ name ..) => ownName name
  | .stmt (.function _ name ..) => ownName name
  | _ => []

def isStatementList : Phrase → Bool
  | .block _ => true
  | .case _ => true
  | _ => false

/-- What a part declares to the parts after it: parameters, headers and patterns in any construct,
statements in a list of statements. -/
def exports (p : Phrase) : Phrase → List String
  | .declared q => q.binds
  | .declaredEntry e => e.binds
  | .declarator d => d.binds
  | .head h => h.binds
  | .stmt s => if p.isStatementList then s.declared false else []
  | _ => []

def declaredBefore (p : Phrase) (i : Nat) : List String :=
  p.ownNames ++ (p.pieces.take i).flatMap p.exports

def scopeAt : Phrase → List Nat → List String := namesAlong declaredBefore

end Phrase

namespace Parts

def Passes (exports : Phrase → List String) (parts : Parts) : Prop :=
  parts.Pairwise fun a b => ∀ x ∈ exports a.2, x ∈ b.1

variable {exports : Phrase → List String}

theorem passes_of_nil {parts : Parts} (h : ∀ part ∈ parts, exports part.2 = []) :
    Passes exports parts := by
  refine List.Pairwise.imp_of_mem ?_ (List.pairwise_of_forall fun _ _ => trivial)
  intro a b ha _ _ x hx
  rw [h a ha] at hx
  cases hx

theorem passes_append {xs ys : Parts} (hx : ∀ part ∈ xs, exports part.2 = [])
    (hy : Passes exports ys) : Passes exports (xs ++ ys) := by
  refine List.pairwise_append.mpr ⟨passes_of_nil hx, hy, ?_⟩
  intro a ha b _ x hxa
  rw [hx a ha] at hxa
  cases hxa

theorem passes_plain {ps : List Phrase} (h : ∀ p ∈ ps, exports p = []) : Passes exports (plain ps) := by
  refine passes_of_nil fun part hpart => ?_
  obtain ⟨p, hp, rfl⟩ := List.mem_map.mp hpart
  exact h p hp

theorem Passes.within {parts : Parts} (h : Passes exports parts) (names : List String) :
    Passes exports (within names parts) :=
  List.pairwise_map.mpr (h.imp fun hab x hx => List.mem_append_right _ (hab x hx))

theorem mem_of_within {names : List String} {parts : Parts} {part : List String × Phrase} {x : String}
    (hpart : part ∈ within names parts) (hx : x ∈ names) : x ∈ part.1 := by
  obtain ⟨_, _, rfl⟩ := List.mem_map.mp hpart
  exact List.mem_append_left _ hx

theorem passes_inTurn {α : Type} {names : α → List String} {phrase : α → Phrase}
    (h : ∀ x, exports (phrase x) = names x) (xs : List α) : Passes exports (inTurn names phrase xs) := by
  induction xs with
  | nil => exact .nil
  | cons x xs ih =>
      rw [inTurn_cons]
      refine .cons ?_ (ih.within _)
      intro b hb y hy
      rw [h x] at hy
      exact mem_of_within hb hy

theorem mem_inTurn {α : Type} {names : α → List String} {phrase : α → Phrase} {xs : List α}
    {part : List String × Phrase} (h : part ∈ inTurn names phrase xs) : ∃ x ∈ xs, part.2 = phrase x := by
  obtain ⟨i, hi⟩ := List.getElem?_of_mem h
  rw [inTurn, List.getElem?_mapIdx, Option.map_eq_some_iff] at hi
  obtain ⟨x, hx, rfl⟩ := hi
  exact ⟨x, List.mem_of_getElem? hx, rfl⟩

theorem passes_ofFunction (ps : List Pattern) (body : Phrase)
    (h : ∀ p : Pattern, exports (.declared p) = p.binds) : Passes exports (ofFunction ps body) := by
  refine List.pairwise_append.mpr ⟨passes_inTurn h ps, List.pairwise_singleton _ _, ?_⟩
  intro a ha b hb x hx
  obtain ⟨p, hp, hap⟩ := mem_inTurn ha
  rw [List.mem_singleton.mp hb]
  rw [hap, h p] at hx
  exact List.mem_flatMap.mpr ⟨p, hp, hx⟩

end Parts

namespace Phrase

@[simp] theorem exports_expr (p : Phrase) (e : Expr) : p.exports (.expr e) = [] := rfl

@[simp] theorem exports_block (p : Phrase) (b : Block) : p.exports (.block b) = [] := rfl

@[simp] theorem exports_handler (p : Phrase) (h : Handler) : p.exports (.handler h) = [] := rfl

@[simp] theorem exports_stmt_stmt (s s' : Stmt) : (Phrase.stmt s).exports (.stmt s') = [] := rfl

theorem exports_computedKey (p : Phrase) (computed : Bool) (key : Expr) :
    ∀ part ∈ computedKey computed key, p.exports part.2 = [] := by
  cases computed <;> simp [computedKey, plain]

theorem passes_expr (e : Expr) : Passes (Phrase.expr e).exports e.parts := by
  cases e with
  | function s name ps b isAsync isGenerator => exact (passes_ofFunction ps _ fun _ => rfl).within _
  | arrow s ps b isAsync => exact passes_ofFunction ps _ fun _ => rfl
  | member s o p computed optional =>
      refine passes_append ?_ (passes_of_nil (exports_computedKey _ computed p))
      simp [plain]
  | _ => exact passes_of_nil (by simp [Expr.parts, plain, exports])

theorem passes_member (e : Member) : Passes (Phrase.member e).exports e.parts := by
  cases e with
  | property s key value computed short =>
      refine passes_append (exports_computedKey _ computed key) ?_
      split <;> exact List.pairwise_singleton _ _
  | method s key ps b computed kind =>
      exact passes_append (exports_computedKey _ computed key) (passes_ofFunction ps _ fun _ => rfl)
  | spread | unsupported => exact passes_of_nil (by simp [Member.parts, plain, exports])

theorem passes_declared (p : Pattern) : Passes (Phrase.declared p).exports p.declaredParts := by
  cases p with
  | default s p e => exact .cons (by simp [exports]) (List.pairwise_singleton _ _)
  | array s ps => exact passes_inTurn (by intro p; rfl) _
  | object s es => exact passes_inTurn (by intro e; rfl) _
  | expr | rest => exact .nil

theorem passes_declaredEntry (e : Entry) : Passes (Phrase.declaredEntry e).exports e.declaredParts := by
  cases e with
  | property s key value computed short =>
      refine passes_append (exports_computedKey _ computed key) ?_
      split
      · exact List.pairwise_singleton _ _
      · exact List.pairwise_singleton _ _
      · exact .nil
  | rest s p => exact .nil

theorem passes_assigned (p : Pattern) : Passes (Phrase.assigned p).exports p.assignedParts := by
  cases p <;> exact passes_of_nil (by simp [Pattern.assignedParts, plain, exports])

theorem passes_assignedEntry (e : Entry) : Passes (Phrase.assignedEntry e).exports e.assignedParts := by
  cases e with
  | property s key value computed short =>
      refine passes_append (exports_computedKey _ computed key) (passes_of_nil ?_)
      split <;> simp [plain, exports]
  | rest s p => exact List.pairwise_singleton _ _

theorem passes_ofStatements {p : Phrase} (hp : p.isStatementList = true) (ss : List Stmt) :
    Passes p.exports (ofStatements false ss) :=
  (passes_inTurn (fun s => by simp [exports, hp]) ss).within _

theorem passes_loop (s : Stmt) (h : Head) (r : Expr) (b : Stmt) :
    Passes (Phrase.stmt s).exports [([], .expr r), ([], .head h), (h.binds, .stmt b)] := by
  refine .cons (by simp) (.cons ?_ (List.pairwise_singleton _ _))
  intro part hpart x hx
  rw [List.mem_singleton.mp hpart]
  exact hx

theorem passes_stmt (s : Stmt) : Passes (Phrase.stmt s).exports s.parts := by
  cases s with
  | forLoop s init test update b =>
      -- only the header declares; what it governs sees all of its names
      have hgoverned : Passes (Phrase.stmt (.forLoop s init test update b)).exports
          (plain (test.toList.map .expr) ++ plain (update.toList.map .expr) ++ plain [.stmt b]) :=
        passes_of_nil (by simp [plain, or_imp, forall_and])
      cases init with
      | none => exact hgoverned.within _
      | some h =>
          refine .cons ?_ (hgoverned.within _)
          intro part hpart x hx
          exact mem_of_within hpart hx
  | forIn s h r b => exact passes_loop _ h r b
  | forOf s h r b isAwait => exact passes_loop _ h r b
  | function s name ps b isAsync isGenerator => exact (passes_ofFunction ps _ fun _ => rfl).within _
  | tryCatch s b h f => exact passes_of_nil (by simp [Stmt.parts, plain, or_imp, forall_and])
  | _ => exact passes_of_nil (by simp [Stmt.parts, plain, exports, isStatementList])

theorem passes_parts : ∀ p : Phrase, Passes p.exports (p.parts false)
  | .expr e => passes_expr e
  | .shorthand i => .nil
  | .member e => passes_member e
  | .declared p => passes_declared p
  | .declaredEntry e => passes_declaredEntry e
  | .assigned p => passes_assigned p
  | .assignedEntry e => passes_assignedEntry e
  | .block b => passes_ofStatements rfl _
  | .stmt s => passes_stmt s
  | .case (.mk _ test ss) => passes_append (by simp [plain]) (passes_ofStatements rfl ss)
  | .handler (.mk _ none b) => List.pairwise_singleton _ _
  | .handler (.mk _ (some p) b) => .cons (by simp [exports]) (List.pairwise_singleton _ _)
  | .variables (.mk _ _ ds) => passes_inTurn (by intro d; rfl) ds
  | .declarator (.mk _ target init) => by
      cases init with
      | none => exact List.pairwise_singleton _ _
      | some e => exact .cons (by simp) (List.pairwise_singleton _ _)
  | .head (.declare v) | .head (.target p) => List.pairwise_singleton _ _
  | .enumMember (.mk _ _ init) => passes_plain (by simp)

theorem ownNames_bound (p : Phrase) : ∀ part ∈ p.parts false, ∀ x ∈ p.ownNames, x ∈ part.1 := by
  intro part hpart x hx
  unfold ownNames at hx
  split at hx
  · exact mem_of_within hpart hx
  · exact mem_of_within hpart hx
  · cases hx

theorem declaredBefore_bound {p q : Phrase} {i : Nat} {names : List String}
    (hi : (p.parts false)[i]? = some (names, q)) : ∀ x ∈ p.declaredBefore i, x ∈ names := by
  intro x hx
  rcases List.mem_append.mp hx with hx | hx
  · exact p.ownNames_bound _ (List.mem_of_getElem? hi) x hx
  · obtain ⟨r, hr, hxr⟩ := List.mem_flatMap.mp hx
    rw [pieces, ← List.map_take] at hr
    obtain ⟨part, hpart, rfl⟩ := List.mem_map.mp hr
    -- the parts are cut at the one entered, which is the first of the rest
    have hrest : (names, q) ∈ (p.parts false).drop i := by
      refine List.mem_of_getElem? (i := 0) ?_
      rw [List.getElem?_drop]
      exact hi
    have hpasses := p.passes_parts
    rw [← List.take_append_drop i (p.parts false)] at hpasses
    exact (List.pairwise_append.mp hpasses).2.2 part hpart _ hrest x hxr

theorem scopeAt_hidden {p : Phrase} {path : List Nat} {u : Use} (hu : p.useAt false path = some u) :
    ∀ x ∈ p.scopeAt path, x ∈ u.hidden := by
  induction path generalizing p u with
  | nil => simp [scopeAt, namesAlong]
  | cons i path ih =>
      unfold useAt at hu
      cases hpart : (p.parts false)[i]? with
      | none => simp [hpart] at hu
      | some part =>
          obtain ⟨names, q⟩ := part
          rw [hpart] at hu
          obtain ⟨v, hv, rfl⟩ := Option.map_eq_some_iff.mp hu
          have hpiece : p.pieces[i]? = some q := by simp [pieces, hpart]
          intro x hx
          simp only [scopeAt, namesAlong, hpiece] at hx
          rcases List.mem_append.mp hx with hx | hx
          · exact List.mem_append_left _ (declaredBefore_bound hpart x hx)
          · exact List.mem_append_right _ (ih hv x hx)

def occurrenceAt (p : Phrase) (path : List Nat) : Option Mutation := (p.useAt false path).map Use.mutation

/-- An occurrence of a name that nothing before it declares to it. -/
def UnseenAt (p : Phrase) (path : List Nat) (m : Mutation) : Prop :=
  p.occurrenceAt path = some m ∧ m.name.name ∉ p.scopeAt path

theorem FreeAt.unseenAt {p : Phrase} {names : List String} {path : List Nat} {m : Mutation}
    (h : p.FreeAt false names path m) : p.UnseenAt path m := by
  obtain ⟨hidden, hu, _, hm⟩ := h
  exact ⟨by simp [occurrenceAt, hu], fun hx => hm (scopeAt_hidden hu _ hx)⟩

end Phrase

theorem Expr.walk_unseen (names : List String) (e : Expr) :
    ∃ paths : List (List Nat), paths.Nodup ∧
      List.Forall₂ (Phrase.expr e).UnseenAt paths (e.walk false names).found := by
  obtain ⟨paths, hnodup, _, hfree⟩ := (Expr.lists false e).free names
  -- a walk that is refused stops somewhere along these paths
  have hfound : (e.walk false names).found <+: _ := Item.walks_initial (Scope.ofNames names) (e.outline false)
  refine ⟨paths.take (e.walk false names).found.length, hnodup.sublist (List.take_sublist _ _), ?_⟩
  have htake := List.forall₂_take (e.walk false names).found.length hfree
  rw [← List.prefix_iff_eq_take.mp hfound] at htake
  exact htake.imp fun path m hm => hm.unseenAt

/-- No occurrence that is rerouted, whether or not the walk is refused later, has its name declared
before it. -/
theorem Expr.reroute_unseen (names : List String) (e : Expr) :
    ∃ paths : List (List Nat), paths.Nodup ∧
      List.Forall₂ (Phrase.expr e).UnseenAt paths (e.walk false names).found ∧
      ∀ {locals : String} {d d' : Draft} {found : List Mutation},
        e.reroute ⟨locals, false⟩ names d = .ok (d', found) →
        found = (e.walk false names).found ∧
          ∃ edits, d' = { d with edits := d.edits ++ edits } ∧
            List.Forall₂ (fun path edit => ∃ m, (Phrase.expr e).UnseenAt path m ∧ m.Makes locals edit)
              paths edits := by
  obtain ⟨paths, hnodup, hfound⟩ := e.walk_unseen names
  refine ⟨paths, hnodup, hfound, ?_⟩
  intro locals d d' found h
  obtain ⟨_, rfl, hr⟩ := Expr.reroute_eq_ok h
  obtain ⟨edits, hedits, rfl⟩ := Draft.reroute_eq_ok hr
  exact ⟨rfl, edits, rfl, forall₂_comp hfound hedits⟩

theorem arrowCall_reroute_unseen :
    ∃ (d' : Draft) (paths : List (List Nat)),
      arrowCall.reroute ⟨"locals", false⟩ ["x"] (.ofText "f(x, x => x)".toList) =
        .ok (d', [⟨.reference, ⟨⟨2, 3, 1, 2⟩, "x"⟩⟩]) ∧
      List.Forall₂ (fun path edit => ∃ m, (Phrase.expr arrowCall).UnseenAt path m ∧ m.Makes "locals" edit)
        paths d'.edits ∧
      (Phrase.expr arrowCall).occurrenceAt [2, 1] = some ⟨.reference, ⟨⟨10, 11, 1, 10⟩, "x"⟩⟩ ∧
      "x" ∈ (Phrase.expr arrowCall).scopeAt [2, 1] := by
  obtain ⟨paths, _, _, hedits⟩ := Expr.reroute_unseen ["x"] arrowCall
  have h : arrowCall.reroute ⟨"locals", false⟩ ["x"] (.ofText "f(x, x => x)".toList) =
      .ok (⟨"f(x, x => x)".toList, [⟨2, 3, "(locals.x)".toList⟩], []⟩,
        [⟨.reference, ⟨⟨2, 3, 1, 2⟩, "x"⟩⟩]) := by decide
  obtain ⟨_, edits, hd, hunseen⟩ := hedits h
  exact ⟨_, paths, h, congrArg Draft.edits hd ▸ hunseen, rfl, by decide⟩

def Variables.vars : Variables → List String
  | .mk s kind ds => if kind = "var" then Variables.binds (.mk s kind ds) else []

def Head.vars : Head → List String
  | .declare v => v.vars
  | .target _ => []

mutual

/-- The names that `var` declares in a statement, at any depth short of the functions in it. -/
def Stmt.vars : Stmt → List String
  | .block b => b.vars
  | .ifElse _ _ c none => c.vars
  | .ifElse _ _ c (some a) => c.vars ++ a.vars
  | .labeled _ _ b => b.vars
  | .switch _ _ cs => Case.allVars cs
  | .tryCatch _ b h f => b.vars ++ Handler.optionVars h ++ Block.optionVars f
  | .whileLoop _ _ b => b.vars
  | .doWhile _ b _ => b.vars
  | .withObject _ _ b => b.vars
  | .forLoop _ none _ _ b => b.vars
  | .forLoop _ (some h) _ _ b => h.vars ++ b.vars
  | .forIn _ h _ b => h.vars ++ b.vars
  | .forOf _ h _ b _ => h.vars ++ b.vars
  | .declare v => v.vars
  | _ => []

def Stmt.allVars : List Stmt → List String
  | [] => []
  | s :: ss => s.vars ++ Stmt.allVars ss

def Block.vars : Block → List String
  | .mk _ ss => Stmt.allVars ss

def Block.optionVars : Option Block → List String
  | none => []
  | some b => b.vars

def Handler.optionVars : Option Handler → List String
  | none => []
  | some (.mk _ _ b) => b.vars

def Case.vars : Case → List String
  | .mk _ _ ss => Stmt.allVars ss

def Case.allVars : List Case → List String
  | [] => []
  | c :: cs => c.vars ++ Case.allVars cs

end

namespace Phrase

def vars : Phrase → List String
  | .stmt s => s.vars
  | .block b => b.vars
  | .case c => c.vars
  | .handler h => Handler.optionVars (some h)
  | .head h => h.vars
  | _ => []

/-- What the language declares to a part beyond `declaredBefore`: what `var` declares before it, however
deep; in a case, what the cases before it declare; in a member of an enumeration, the enumeration and
the members before it; and to what a loop runs over, or an initializer, the names that are being
declared. -/
def overlooked (p : Phrase) (i : Nat) : List String :=
  (p.pieces.take i).flatMap vars ++
    match p with
    | .stmt (.switch _ _ cs) => (cs.take (i - 1)).flatMap fun | .mk _ _ ss => ss.flatMap (Stmt.declared false)
    | .stmt (.enum _ name ms) => name.name :: (ms.take i).map fun | .mk _ x _ => x
    | .stmt (.forIn _ h _ _) | .stmt (.forOf _ h _ _ _) => if i = 0 then h.binds else []
    | .declarator (.mk _ target (some _)) => if i = 0 then target.binds else []
    | _ => []

def languageScopeAt : Phrase → List Nat → List String :=
  namesAlong fun p i => p.declaredBefore i ++ p.overlooked i

end Phrase

/-- The arrow function `() => { { var x; } x; switch (0) { case 0: let y; case 1: y; }
enum e { a, b = a, c = e } for (const z of z); let w = w; }`. -/
def overlookingArrow : Expr :=
  .arrow ⟨0, 122, 1, 0⟩ [] (.block (.mk ⟨6, 122, 1, 6⟩
    [.block (.mk ⟨8, 18, 1, 8⟩ [.declare (.mk ⟨10, 16, 1, 10⟩ "var"
        [.mk ⟨14, 15, 1, 14⟩ (.expr (.ident ⟨⟨14, 15, 1, 14⟩, "x"⟩)) none])]),
      .expr ⟨19, 21, 1, 19⟩ (.ident ⟨⟨19, 20, 1, 19⟩, "x"⟩),
      .switch ⟨22, 62, 1, 22⟩ (.literal ⟨30, 31, 1, 30⟩ "number" "0")
        [.mk ⟨35, 49, 1, 35⟩ (some (.literal ⟨40, 41, 1, 40⟩ "number" "0"))
          [.declare (.mk ⟨43, 49, 1, 43⟩ "let"
            [.mk ⟨47, 48, 1, 47⟩ (.expr (.ident ⟨⟨47, 48, 1, 47⟩, "y"⟩)) none])],
        .mk ⟨50, 60, 1, 50⟩ (some (.literal ⟨55, 56, 1, 55⟩ "number" "1"))
          [.expr ⟨58, 60, 1, 58⟩ (.ident ⟨⟨58, 59, 1, 58⟩, "y"⟩)]],
      .enum ⟨63, 89, 1, 63⟩ ⟨⟨68, 69, 1, 68⟩, "e"⟩
        [.mk ⟨72, 73, 1, 72⟩ "a" none,
        .mk ⟨75, 80, 1, 75⟩ "b" (some (.ident ⟨⟨79, 80, 1, 79⟩, "a"⟩)),
        .mk ⟨82, 87, 1, 82⟩ "c" (some (.ident ⟨⟨86, 87, 1, 86⟩, "e"⟩))],
      .forOf ⟨90, 109, 1, 90⟩ (.declare (.mk ⟨95, 102, 1, 95⟩ "const"
          [.mk ⟨101, 102, 1, 101⟩ (.expr (.ident ⟨⟨101, 102, 1, 101⟩, "z"⟩)) none]))
        (.ident ⟨⟨106, 107, 1, 106⟩, "z"⟩) (.empty ⟨108, 109, 1, 108⟩) false,
      .declare (.mk ⟨110, 120, 1, 110⟩ "let"
        [.mk ⟨114, 119, 1, 114⟩ (.expr (.ident ⟨⟨114, 115, 1, 114⟩, "w"⟩))
          (some (.ident ⟨⟨118, 119, 1, 118⟩, "w"⟩))])])) false

def overlookingText : Text :=
  ("() => \x7b \x7b var x; \x7d x; switch (0) \x7b case 0: let y; case 1: y; \x7d " ++
    "enum e \x7b a, b = a, c = e \x7d for (const z of z); let w = w; \x7d").toList

def overlookedMutations : List Mutation :=
  [⟨.reference, ⟨⟨19, 20, 1, 19⟩, "x"⟩⟩, ⟨.reference, ⟨⟨58, 59, 1, 58⟩, "y"⟩⟩,
    ⟨.reference, ⟨⟨79, 80, 1, 79⟩, "a"⟩⟩, ⟨.reference, ⟨⟨86, 87, 1, 86⟩, "e"⟩⟩,
    ⟨.reference, ⟨⟨106, 107, 1, 106⟩, "z"⟩⟩, ⟨.reference, ⟨⟨118, 119, 1, 118⟩, "w"⟩⟩]

theorem overlookingArrow_reroutes_locals :
    (overlookingArrow.reroute ⟨"__locals__", false⟩ ["x", "y", "a", "e", "z", "w"]
        (.ofText overlookingText)).map Prod.snd = .ok overlookedMutations ∧
      List.Forall₂ (fun path m => (Phrase.expr overlookingArrow).occurrenceAt path = some m ∧
          m.name.name ∈ (Phrase.expr overlookingArrow).languageScopeAt path)
        [[0, 1, 0], [0, 2, 2, 1, 0], [0, 3, 1, 0], [0, 3, 2, 0], [0, 4, 0], [0, 5, 0, 0, 0]]
        overlookedMutations := by
  refine ⟨by decide +kernel, ?_⟩
  decide

end ScriptSplit
