import Mathlib.Data.List.Nodup
import ScriptSplit.Proofs.Phrase

namespace ScriptSplit

open Item (allUses allHides)

def Lists (legacy : Bool) (p : Phrase) (us : List Use) : Prop :=
  ∃ paths : List (List Nat), paths.Nodup ∧ (∀ path u, p.useAt legacy path = some u → path ∈ paths) ∧
    paths.map (p.useAt legacy) = us.map some

inductive Listed (legacy : Bool) : Parts → List Use → Prop
  | nil : Listed legacy [] []
  | cons {names : List String} {p : Phrase} {parts : Parts} {us vs : List Use} :
      Lists legacy p us → Listed legacy parts vs →
      Listed legacy ((names, p) :: parts) (us.map (Use.under names) ++ vs)

variable {legacy : Bool}

namespace Listed

variable {parts parts' : Parts} {us vs : List Use}

theorem plainCons {p : Phrase} (h : Lists legacy p us) (hs : Listed legacy parts vs) :
    Listed legacy (([], p) :: parts) (us ++ vs) := by
  have hcons : Listed legacy (([], p) :: parts) (us.map (Use.under []) ++ vs) := cons h hs
  simpa using hcons

theorem single {p : Phrase} (h : Lists legacy p us) : Listed legacy [([], p)] us := by
  simpa using plainCons h nil

theorem congr (h : Listed legacy parts us) (hus : vs = us) : Listed legacy parts vs := hus ▸ h

theorem append (h : Listed legacy parts us) (h' : Listed legacy parts' vs) :
    Listed legacy (parts ++ parts') (us ++ vs) := by
  induction h with
  | nil => exact h'
  | cons hp _ ih =>
      rw [List.append_assoc]
      exact cons hp ih

theorem within (names : List String) (h : Listed legacy parts us) :
    Listed legacy (Parts.within names parts) (us.map (Use.under names)) := by
  induction h with
  | nil => exact nil
  | cons hp _ ih =>
      rw [List.map_append, List.map_map, Use.under_comp_under]
      exact cons hp ih

end Listed

theorem Parts.inTurn_cons {α : Type} (names : α → List String) (phrase : α → Phrase) (x : α)
    (xs : List α) :
    Parts.inTurn names phrase (x :: xs) =
      ([], phrase x) :: Parts.within (names x) (Parts.inTurn names phrase xs) := by
  rw [Parts.inTurn, List.mapIdx_cons]
  congr 1
  apply List.ext_getElem?
  intro i
  simp [Parts.inTurn, Parts.within, Function.comp_def]

def laterPath (path : List Nat) : List Nat := path.modifyHead (· + 1)

theorem laterPath_injective : Function.Injective laterPath := by
  intro p q h
  cases p <;> cases q <;> simp_all [laterPath]

def partUseAt (legacy : Bool) (parts : Parts) : List Nat → Option Use
  | [] => none
  | i :: path =>
      match parts[i]? with
      | none => none
      | some (names, part) => (part.useAt legacy path).map (Use.under names)

theorem partUseAt_laterPath (part : List String × Phrase) (parts : Parts) (path : List Nat) :
    partUseAt legacy (part :: parts) (laterPath path) = partUseAt legacy parts path := by
  cases path <;> simp [laterPath, partUseAt]

theorem Listed.paths {parts : Parts} {us : List Use} (h : Listed legacy parts us) :
    ∃ paths : List (List Nat), paths.Nodup ∧
      (∀ path u, partUseAt legacy parts path = some u → path ∈ paths) ∧
      paths.map (partUseAt legacy parts) = us.map some := by
  induction h with
  | nil =>
      refine ⟨[], List.nodup_nil, ?_, rfl⟩
      intro path u h
      cases path <;> simp [partUseAt] at h
  | @cons names p parts us vs hp _ ih =>
      obtain ⟨ps, hps, hcomplete, hmap⟩ := hp
      obtain ⟨qs, hqs, hcomplete', hmap'⟩ := ih
      -- paths into the first part begin with 0, and paths into the others count one part more
      refine ⟨ps.map (0 :: ·) ++ qs.map laterPath, ?_, ?_, ?_⟩
      · refine List.Nodup.append (hps.map List.cons_injective) (hqs.map laterPath_injective) ?_
        intro path h h'
        obtain ⟨q, _, rfl⟩ := List.mem_map.mp h
        obtain ⟨q', _, hq⟩ := List.mem_map.mp h'
        cases q' <;> simp [laterPath] at hq
      · intro path u h
        match path, h with
        | 0 :: path, h =>
            obtain ⟨v, hv, _⟩ := Option.map_eq_some_iff.mp h
            exact List.mem_append_left _ (List.mem_map_of_mem (hcomplete path v hv))
        | (i + 1) :: path, h =>
            refine List.mem_append_right _ (List.mem_map.mpr ⟨i :: path, hcomplete' _ u ?_, rfl⟩)
            rw [← partUseAt_laterPath]
            exact h
      · have h₀ : (fun path => partUseAt legacy ((names, p) :: parts) (0 :: path)) =
            fun path => (p.useAt legacy path).map (Use.under names) := rfl
        have h₁ : partUseAt legacy ((names, p) :: parts) ∘ laterPath = partUseAt legacy parts :=
          funext fun path => partUseAt_laterPath _ _ path
        have hu : ps.map (fun path => (p.useAt legacy path).map (Use.under names)) =
            (us.map some).map (Option.map (Use.under names)) := by
          rw [← hmap, List.map_map]
          rfl
        rw [List.map_append, List.map_map, List.map_map, h₁, hmap', List.map_append]
        congr 1
        change ps.map (fun path => (p.useAt legacy path).map (Use.under names)) = _
        rw [hu, List.map_map, List.map_map]
        rfl

namespace Lists

theorem leaf {p : Phrase} {m : Mutation} (hp : p.occurrence? = some m) (hparts : p.parts legacy = []) :
    Lists legacy p [⟨m, []⟩] := by
  refine ⟨[[]], List.nodup_singleton _, ?_, ?_⟩
  · intro path u h
    cases path with
    | nil => simp
    | cons i path => simp [Phrase.useAt, hparts] at h
  · simp [Phrase.useAt, hp]

theorem ofParts {p : Phrase} {parts : Parts} {us vs : List Use} (hp : p.occurrence? = none)
    (hparts : p.parts legacy = parts) (hus : vs = us) (h : Listed legacy parts us) :
    Lists legacy p vs := by
  subst hparts hus
  obtain ⟨paths, hnodup, hcomplete, hmap⟩ := h.paths
  have huse : partUseAt legacy (p.parts legacy) = fun path => p.useAt legacy path := by
    funext path
    cases path with
    | nil => simp [partUseAt, Phrase.useAt, hp]
    | cons i path => rfl
  rw [huse] at hcomplete hmap
  exact ⟨paths, hnodup, hcomplete, hmap⟩

theorem exists_path {p : Phrase} {us : List Use} (h : Lists legacy p us) {u : Use} (hu : u ∈ us) :
    ∃ path, p.useAt legacy path = some u := by
  obtain ⟨paths, _, _, hmap⟩ := h
  have hmem : some u ∈ paths.map (p.useAt legacy) := hmap ▸ List.mem_map_of_mem hu
  obtain ⟨path, _, hpath⟩ := List.mem_map.mp hmem
  exact ⟨path, hpath⟩

theorem mem_of_useAt {p : Phrase} {us : List Use} (h : Lists legacy p us) {path : List Nat} {u : Use}
    (hu : p.useAt legacy path = some u) : u ∈ us := by
  obtain ⟨paths, _, hcomplete, hmap⟩ := h
  have hmem : some u ∈ us.map some := hmap ▸ List.mem_map.mpr ⟨path, hcomplete path u hu, hu⟩
  obtain ⟨v, hv, hvu⟩ := List.mem_map.mp hmem
  cases hvu
  exact hv

end Lists

variable (legacy)

theorem Listed.function {ps : List Pattern} {body : Phrase} {items : List Item}
    (hps : Listed legacy (Parts.inTurn Pattern.binds .declared ps) (allUses (Pattern.declares legacy ps)))
    (hbody : Lists legacy body (allUses items)) :
    Listed legacy (Parts.ofFunction ps body) (allUses (Pattern.declares legacy ps ++ items)) := by
  rw [Item.allUses_append, Pattern.allHides_declares]
  refine hps.append ?_
  have hcons : Listed legacy [(ps.flatMap Pattern.binds, body)]
      ((allUses items).map (Use.under (ps.flatMap Pattern.binds)) ++ []) := .cons hbody .nil
  simpa using hcons

theorem Listed.statements {ss : List Stmt}
    (h : Listed legacy (Parts.inTurn (Stmt.declared legacy) .stmt ss) (allUses (Stmt.outlines legacy ss))) :
    Listed legacy (Parts.ofStatements legacy ss) (allUses (hoisted ss ++ Stmt.outlines legacy ss)) := by
  rw [Item.allUses_append, allUses_hoisted, allHides_hoisted, List.nil_append]
  exact h.within (functionNames ss)

theorem Listed.computedKey {key : Expr} (computed : Bool)
    (h : Lists legacy (.expr key) (allUses (key.outline legacy))) :
    Listed legacy (Parts.computedKey computed key)
      (allUses (if computed then key.outline legacy else [])) := by
  cases computed with
  | true => exact .single h
  | false => exact .nil

theorem Member.property_lists {key value : Expr} (s : Span) (computed shorthand : Bool)
    (hkey : Lists legacy (.expr key) (allUses (key.outline legacy)))
    (hvalue : Lists legacy (.expr value) (allUses (value.outline legacy))) :
    Lists legacy (.member (.property s key value computed shorthand))
      (allUses ((Member.property s key value computed shorthand).outline legacy)) := by
  have hk := Listed.computedKey legacy computed hkey
  have hides : allHides (if computed then key.outline legacy else []) = [] := by cases computed <;> simp
  rw [Member.outline_property, Item.allUses_append, hides, Use.under_nil, List.map_id]
  cases shorthand with
  | false => exact .ofParts rfl rfl rfl (hk.append (.single hvalue))
  | true =>
      cases key with
      | ident i => exact .ofParts rfl rfl rfl (hk.append (.single (.leaf rfl rfl)))
      | _ => exact .ofParts rfl rfl rfl (hk.append (.single hvalue))

theorem Pattern.allUses_declare_rest (s : Span) (p : Pattern) :
    allUses ((Pattern.rest s p).declare legacy) = [] := by
  cases p with
  | expr e => cases e <;> rfl
  | default | array | object | rest => rfl

theorem Entry.declare_property_lists {key : Expr} {value : Pattern} (s : Span) (computed shorthand : Bool)
    (hkey : Lists legacy (.expr key) (allUses (key.outline legacy)))
    (hvalue : Lists legacy (.declared value) (allUses (value.declare legacy))) :
    Lists legacy (.declaredEntry (.property s key value computed shorthand))
      (allUses ((Entry.property s key value computed shorthand).declare legacy)) := by
  have hk := Listed.computedKey legacy computed hkey
  have hides : allHides (if computed then key.outline legacy else []) = [] := by cases computed <;> simp
  rw [Entry.declare_property, Item.allUses_append, hides, Use.under_nil, List.map_id]
  cases shorthand with
  | false =>
      refine .ofParts rfl rfl ?_ (hk.append (.single hvalue))
      cases value with
      | expr e => cases e <;> rfl
      | default | array | object => rfl
      | rest s p =>
          rw [Pattern.allUses_declare_rest]
          rfl
  | true =>
      cases key with
      | ident i =>
          cases value with
          | default => exact .ofParts rfl rfl rfl (hk.append (.single hvalue))
          | expr | array | object | rest => exact .ofParts rfl rfl rfl (hk.append .nil)
      | _ => exact .ofParts rfl rfl rfl (hk.append .nil)

theorem Entry.assign_property_lists {key : Expr} {value : Pattern} (s : Span) (computed shorthand : Bool)
    (hkey : Lists legacy (.expr key) (allUses (key.outline legacy)))
    (hvalue : Lists legacy (.assigned value) (allUses (value.assign legacy)))
    (hdefault : ∀ s p e, value = .default s p e → Lists legacy (.expr e) (allUses (e.outline legacy))) :
    Lists legacy (.assignedEntry (.property s key value computed shorthand))
      (allUses ((Entry.property s key value computed shorthand).assign legacy)) := by
  have hk := Listed.computedKey legacy computed hkey
  have hides : allHides (if computed then key.outline legacy else []) = [] := by cases computed <;> simp
  rw [Entry.assign_property, Item.allUses_append, hides, Use.under_nil, List.map_id]
  cases shorthand with
  | false => exact .ofParts rfl rfl rfl (hk.append (.single hvalue))
  | true =>
      cases key with
      | ident i =>
          have hi : Lists legacy (.shorthand i) (allUses [.shorthand i]) := .leaf rfl rfl
          cases value with
          | default s p e =>
              exact .ofParts rfl rfl (by simp)
                (hk.append (.plainCons hi (.single (hdefault s p e rfl))))
          | expr | array | object | rest => exact .ofParts rfl rfl rfl (hk.append (.single hi))
      | _ => exact .ofParts rfl rfl rfl (hk.append .nil)

theorem Handler.lists_of {s : Span} {p : Pattern} {b : Block}
    (hp : Lists legacy (.declared p) (allUses (p.declare legacy)))
    (hb : Lists legacy (.block b) (allUses (b.outline legacy))) :
    Lists legacy (.handler (.mk s (some p) b)) (allUses ((Handler.mk s (some p) b).outline legacy)) := by
  refine .ofParts rfl rfl ?_ (.plainCons hp (.cons hb .nil))
  cases legacy <;> simp [Handler.outline]

mutual

theorem Expr.lists : ∀ e : Expr, Lists legacy (.expr e) (allUses (e.outline legacy))
  | .ident _ => .leaf rfl rfl
  | .privateName _ | .this _ | .super _ | .importKeyword _ | .metaProperty .. | .literal ..
  | .classExpr .. | .jsx .. | .unsupported .. | .yield _ none _ => .ofParts rfl rfl rfl .nil
  | .template _ es | .array _ es | .sequence _ es => .ofParts rfl rfl rfl (Expr.listed es)
  | .spread _ e | .unary _ _ e | .update _ _ e | .paren _ e | .await _ e | .typed _ _ e
  | .yield _ (some e) _ => .ofParts rfl rfl rfl (.single (Expr.lists e))
  | .tagged _ l r | .binary _ _ l r =>
      .ofParts rfl rfl (by simp [Expr.outline]) (.plainCons (Expr.lists l) (.single (Expr.lists r)))
  | .object _ ms => .ofParts rfl rfl rfl (Member.listed ms)
  | .function _ name ps b _ _ => by
      refine .ofParts rfl rfl ?_
        ((Listed.function legacy (Pattern.declares_listed ps) (Block.lists b)).within (ownName name))
      simp [Expr.outline, List.append_assoc]
  | .arrow _ ps b _ => by
      refine .ofParts rfl rfl ?_ (Listed.function legacy (Pattern.declares_listed ps) (Body.lists b))
      simp [Expr.outline]
  | .call _ c as _ | .new _ c as =>
      .ofParts rfl rfl (by simp [Expr.outline]) (.plainCons (Expr.lists c) (Expr.listed as))
  | .member _ o p computed _ =>
      .ofParts rfl rfl (by simp [Expr.outline])
        ((Listed.single (Expr.lists o)).append (.computedKey legacy computed (Expr.lists p)))
  | .assign _ _ l r =>
      .ofParts rfl rfl (by simp [Expr.outline])
        (.plainCons (Pattern.assign_lists l) (.single (Expr.lists r)))
  | .conditional _ t c a =>
      .ofParts rfl rfl (by simp [Expr.outline])
        (.plainCons (Expr.lists t) (.plainCons (Expr.lists c) (.single (Expr.lists a))))

theorem Expr.listed : ∀ es : List Expr,
    Listed legacy (Parts.plain (es.map .expr)) (allUses (Expr.outlines legacy es))
  | [] => .nil
  | e :: es => (Listed.plainCons (Expr.lists e) (Expr.listed es)).congr (by simp [Expr.outlines])

theorem Member.lists : ∀ m : Member, Lists legacy (.member m) (allUses (m.outline legacy))
  | .property s key value computed shorthand =>
      Member.property_lists legacy s computed shorthand (Expr.lists key) (Expr.lists value)
  | .method _ key ps b computed _ => by
      refine .ofParts rfl rfl ?_ ((Listed.computedKey legacy computed (Expr.lists key)).append
        (Listed.function legacy (Pattern.declares_listed ps) (Block.lists b)))
      cases computed <;> simp [Member.outline]
  | .spread _ e => .ofParts rfl rfl rfl (.single (Expr.lists e))
  | .unsupported .. => .ofParts rfl rfl rfl .nil

theorem Member.listed : ∀ ms : List Member,
    Listed legacy (Parts.plain (ms.map .member)) (allUses (Member.outlines legacy ms))
  | [] => .nil
  | m :: ms => (Listed.plainCons (Member.lists m) (Member.listed ms)).congr (by simp [Member.outlines])

theorem Body.lists : ∀ b : Body, Lists legacy b.phrase (allUses (b.outline legacy))
  | .block b => Block.lists b
  | .expr e => Expr.lists e

theorem Block.lists : ∀ b : Block, Lists legacy (.block b) (allUses (b.outline legacy))
  | .mk _ ss => .ofParts rfl rfl rfl (.statements legacy (Stmt.listed ss))

theorem Pattern.declare_lists : ∀ p : Pattern, Lists legacy (.declared p) (allUses (p.declare legacy))
  | .expr e => .ofParts rfl rfl (by cases e <;> rfl) .nil
  | .default _ p e => by
      refine .ofParts rfl rfl ?_ (.plainCons (Pattern.declare_lists p) (.cons (Expr.lists e) .nil))
      simp [Pattern.declare]
  | .array _ ps => .ofParts rfl rfl rfl (Pattern.declareElements_listed ps)
  | .object _ es => .ofParts rfl rfl rfl (Entry.declares_listed es)
  | .rest s p => .ofParts rfl rfl (Pattern.allUses_declare_rest legacy s p) .nil

theorem Pattern.declares_listed : ∀ ps : List Pattern,
    Listed legacy (Parts.inTurn Pattern.binds .declared ps) (allUses (Pattern.declares legacy ps))
  | [] => .nil
  | p :: ps => by
      rw [Parts.inTurn_cons]
      refine (Listed.plainCons (Pattern.declare_lists p)
        ((Pattern.declares_listed ps).within p.binds)).congr ?_
      simp [Pattern.declares]

theorem Pattern.declareElements_listed : ∀ ps : List (Option Pattern),
    Listed legacy (Parts.inTurn Pattern.binds .declared (ps.filterMap id))
      (allUses (Pattern.declareElements legacy ps))
  | [] => .nil
  | none :: ps => Pattern.declareElements_listed ps
  | some p :: ps => by
      change Listed legacy (Parts.inTurn Pattern.binds .declared (p :: ps.filterMap id)) _
      rw [Parts.inTurn_cons]
      refine (Listed.plainCons (Pattern.declare_lists p)
        ((Pattern.declareElements_listed ps).within p.binds)).congr ?_
      simp [Pattern.declareElements]

theorem Entry.declare_lists : ∀ e : Entry, Lists legacy (.declaredEntry e) (allUses (e.declare legacy))
  | .property s key value computed shorthand =>
      Entry.declare_property_lists legacy s computed shorthand (Expr.lists key)
        (Pattern.declare_lists value)
  | .rest _ (.expr e) => .ofParts rfl rfl (by cases e <;> rfl) .nil
  | .rest _ (.default ..) | .rest _ (.array ..) | .rest _ (.object ..) | .rest _ (.rest ..) =>
      .ofParts rfl rfl rfl .nil

theorem Entry.declares_listed : ∀ es : List Entry,
    Listed legacy (Parts.inTurn Entry.binds .declaredEntry es) (allUses (Entry.declares legacy es))
  | [] => .nil
  | e :: es => by
      rw [Parts.inTurn_cons]
      refine (Listed.plainCons (Entry.declare_lists e)
        ((Entry.declares_listed es).within e.binds)).congr ?_
      simp [Entry.declares]

theorem Pattern.assign_lists : ∀ p : Pattern, Lists legacy (.assigned p) (allUses (p.assign legacy))
  | .expr e => .ofParts rfl rfl rfl (.single (Expr.lists e))
  | .default _ p e =>
      .ofParts rfl rfl (by simp [Pattern.assign])
        (.plainCons (Pattern.assign_lists p) (.single (Expr.lists e)))
  | .array _ ps => .ofParts rfl rfl rfl (Pattern.assignElements_listed ps)
  | .object _ es => .ofParts rfl rfl rfl (Entry.assigns_listed es)
  | .rest _ p => .ofParts rfl rfl rfl (.single (Pattern.assign_lists p))

theorem Pattern.assignElements_listed : ∀ ps : List (Option Pattern),
    Listed legacy (Parts.plain ((ps.filterMap id).map .assigned))
      (allUses (Pattern.assignElements legacy ps))
  | [] => .nil
  | none :: ps => Pattern.assignElements_listed ps
  | some p :: ps =>
      (Listed.plainCons (Pattern.assign_lists p) (Pattern.assignElements_listed ps)).congr
        (by simp [Pattern.assignElements])

theorem Entry.assign_lists : ∀ e : Entry, Lists legacy (.assignedEntry e) (allUses (e.assign legacy))
  | .property s key (.default s' p e) computed shorthand =>
      Entry.assign_property_lists legacy s computed shorthand (Expr.lists key)
        (Pattern.assign_lists (.default s' p e)) (by rintro _ _ _ ⟨⟩; exact Expr.lists e)
  | .property s key (.expr t) computed shorthand =>
      Entry.assign_property_lists legacy s computed shorthand (Expr.lists key)
        (Pattern.assign_lists (.expr t)) (by simp)
  | .property s key (.array s' ps) computed shorthand =>
      Entry.assign_property_lists legacy s computed shorthand (Expr.lists key)
        (Pattern.assign_lists (.array s' ps)) (by simp)
  | .property s key (.object s' es) computed shorthand =>
      Entry.assign_property_lists legacy s computed shorthand (Expr.lists key)
        (Pattern.assign_lists (.object s' es)) (by simp)
  | .property s key (.rest s' p) computed shorthand =>
      Entry.assign_property_lists legacy s computed shorthand (Expr.lists key)
        (Pattern.assign_lists (.rest s' p)) (by simp)
  | .rest _ p => .ofParts rfl rfl rfl (.single (Pattern.assign_lists p))

theorem Entry.assigns_listed : ∀ es : List Entry,
    Listed legacy (Parts.plain (es.map .assignedEntry)) (allUses (Entry.assigns legacy es))
  | [] => .nil
  | e :: es =>
      (Listed.plainCons (Entry.assign_lists e) (Entry.assigns_listed es)).congr
        (by simp [Entry.assigns])

theorem Stmt.lists : ∀ s : Stmt, Lists legacy (.stmt s) (allUses (s.outline legacy))
  | .empty _ | .debugger _ | .breakTo .. | .continueTo .. | .typeDecl .. | .ret _ none | .classDecl ..
  | .imports .. | .importAlias .. | .exports .. | .unsupported .. => .ofParts rfl rfl rfl .nil
  | .block b => .ofParts rfl rfl (by simp [Stmt.outline]) (.single (Block.lists b))
  | .expr _ e | .ret _ (some e) | .throw _ e => .ofParts rfl rfl rfl (.single (Expr.lists e))
  | .ifElse _ t c none =>
      .ofParts rfl rfl (by simp [Stmt.outline]) (.plainCons (Expr.lists t) (.single (Stmt.lists c)))
  | .ifElse _ t c (some a) =>
      .ofParts rfl rfl (by simp [Stmt.outline])
        (.plainCons (Expr.lists t) (.plainCons (Stmt.lists c) (.single (Stmt.lists a))))
  | .labeled _ _ b => .ofParts rfl rfl rfl (.single (Stmt.lists b))
  | .switch _ d cs =>
      .ofParts rfl rfl (by simp [Stmt.outline]) (.plainCons (Expr.lists d) (Case.listed cs))
  | .tryCatch _ b none none => .ofParts rfl rfl (by simp [Stmt.outline]) (.single (Block.lists b))
  | .tryCatch _ b none (some f) =>
      .ofParts rfl rfl (by simp [Stmt.outline]) (.plainCons (Block.lists b) (.single (Block.lists f)))
  | .tryCatch _ b (some h) none =>
      .ofParts rfl rfl (by simp [Stmt.outline]) (.plainCons (Block.lists b) (.single (Handler.lists h)))
  | .tryCatch _ b (some h) (some f) =>
      .ofParts rfl rfl (by simp [Stmt.outline])
        (.plainCons (Block.lists b) (.plainCons (Handler.lists h) (.single (Block.lists f))))
  | .whileLoop _ t b =>
      .ofParts rfl rfl (by simp [Stmt.outline]) (.plainCons (Expr.lists t) (.single (Stmt.lists b)))
  | .doWhile _ b t =>
      .ofParts rfl rfl (by simp [Stmt.outline]) (.plainCons (Stmt.lists b) (.single (Expr.lists t)))
  | .withObject _ o b =>
      .ofParts rfl rfl (by simp [Stmt.outline]) (.plainCons (Expr.lists o) (.single (Stmt.lists b)))
  | .forLoop _ init test update b => by
      have hinit := Head.option_listed init
      have htest := Expr.option_listed test
      have hupdate := Expr.option_listed update
      refine .ofParts rfl rfl ?_
        (hinit.append (((htest.append hupdate).append (.single (Stmt.lists b))).within _))
      cases init <;> cases test <;> cases update <;> simp [Stmt.outline]
  | .forIn _ h r b => by
      refine .ofParts rfl rfl ?_
        (.plainCons (Expr.lists r) (.plainCons (Head.lists h) (.cons (Stmt.lists b) .nil)))
      simp [Stmt.outline]
  | .forOf _ h r b _ => by
      refine .ofParts rfl rfl ?_
        (.plainCons (Expr.lists r) (.plainCons (Head.lists h) (.cons (Stmt.lists b) .nil)))
      cases legacy <;> simp [Stmt.outline]
  | .declare v => .ofParts rfl rfl rfl (.single (Variables.lists v))
  | .function _ name ps b _ _ => by
      refine .ofParts rfl rfl ?_
        ((Listed.function legacy (Pattern.declares_listed ps) (Block.lists b)).within (ownName name))
      simp [Stmt.outline]
  | .enum _ _ ms => .ofParts rfl rfl (by simp [Stmt.outline]) (EnumMember.listed ms)

theorem Stmt.listed : ∀ ss : List Stmt,
    Listed legacy (Parts.inTurn (Stmt.declared legacy) .stmt ss) (allUses (Stmt.outlines legacy ss))
  | [] => .nil
  | s :: ss => by
      rw [Parts.inTurn_cons]
      refine (Listed.plainCons (Stmt.lists s)
        ((Stmt.listed ss).within (s.declared legacy))).congr ?_
      simp [Stmt.outlines]

theorem Case.listed : ∀ cs : List Case,
    Listed legacy (Parts.plain (cs.map .case)) (allUses (Case.outlines legacy cs))
  | [] => .nil
  | .mk s none b :: cs => by
      have hb : Lists legacy (.case (.mk s none b)) (allUses (hoisted b ++ Stmt.outlines legacy b)) :=
        .ofParts rfl rfl rfl (.statements legacy (Stmt.listed b))
      exact (Listed.plainCons hb (Case.listed cs)).congr (by simp [Case.outlines])
  | .mk s (some e) b :: cs => by
      have hb : Lists legacy (.case (.mk s (some e) b))
          (allUses (e.outline legacy) ++ allUses (hoisted b ++ Stmt.outlines legacy b)) :=
        .ofParts rfl rfl rfl (.plainCons (Expr.lists e) (.statements legacy (Stmt.listed b)))
      exact (Listed.plainCons hb (Case.listed cs)).congr (by simp [Case.outlines])

theorem Handler.lists : ∀ h : Handler, Lists legacy (.handler h) (allUses (h.outline legacy))
  | .mk _ none b => .ofParts rfl rfl (by simp [Handler.outline]) (.single (Block.lists b))
  | .mk _ (some p) b => Handler.lists_of legacy (Pattern.declare_lists p) (Block.lists b)

theorem EnumMember.listed : ∀ ms : List EnumMember,
    Listed legacy (Parts.plain (ms.map .enumMember)) (allUses (EnumMember.outlines legacy ms))
  | [] => .nil
  | .mk _ _ none :: ms =>
      (Listed.plainCons (.ofParts rfl rfl rfl .nil) (EnumMember.listed ms)).congr
        (by simp [EnumMember.outlines])
  | .mk _ _ (some e) :: ms =>
      (Listed.plainCons (.ofParts rfl rfl rfl (.single (Expr.lists e))) (EnumMember.listed ms)).congr
        (by simp [EnumMember.outlines])

theorem Variables.lists : ∀ v : Variables, Lists legacy (.variables v) (allUses (v.outline legacy))
  | .mk _ _ ds => .ofParts rfl rfl rfl (Declarator.listed ds)

theorem Declarator.listed : ∀ ds : List Declarator,
    Listed legacy (Parts.inTurn Declarator.binds .declarator ds) (allUses (Declarator.outlines legacy ds))
  | [] => .nil
  | .mk _ p none :: ds => by
      rw [Parts.inTurn_cons]
      refine (Listed.plainCons (.ofParts rfl rfl rfl (.single (Pattern.declare_lists p)))
        ((Declarator.listed ds).within p.binds)).congr ?_
      simp [Declarator.outlines]
  | .mk _ p (some e) :: ds => by
      rw [Parts.inTurn_cons]
      refine (Listed.plainCons
        (.ofParts rfl rfl rfl (.plainCons (Expr.lists e) (.single (Pattern.declare_lists p))))
        ((Declarator.listed ds).within p.binds)).congr ?_
      simp [Declarator.outlines]

theorem Head.lists : ∀ h : Head, Lists legacy (.head h) (allUses (h.outline legacy))
  | .declare v => .ofParts rfl rfl rfl (.single (Variables.lists v))
  | .target p => .ofParts rfl rfl rfl (.single (Pattern.assign_lists p))

theorem Head.option_listed : ∀ h : Option Head, Listed legacy (Parts.plain (h.toList.map .head))
      (h.elim [] fun h => allUses (h.outline legacy))
  | none => .nil
  | some h => .single (Head.lists h)

theorem Expr.option_listed : ∀ e : Option Expr, Listed legacy (Parts.plain (e.toList.map .expr))
      (e.elim [] fun e => allUses (e.outline legacy))
  | none => .nil
  | some e => .single (Expr.lists e)

end

end ScriptSplit
