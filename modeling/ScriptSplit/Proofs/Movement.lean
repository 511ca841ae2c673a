import ScriptSplit.Proofs.Declared
import ScriptSplit.Proofs.Relocation

namespace ScriptSplit

open Item (allUses)

variable {f : Span → Span}

mutual

@[simp] theorem Pattern.binds_relocate : ∀ p : Pattern, (p.relocate f).binds = p.binds
  | .expr e => by cases e <;> rfl
  | .default _ p _ => Pattern.binds_relocate p
  | .array _ ps => Pattern.elementBinds_relocate ps
  | .object _ es => Entry.allBinds_relocate es
  | .rest _ (.expr e) => by cases e <;> rfl
  | .rest _ (.default ..) | .rest _ (.array ..) | .rest _ (.object ..) | .rest _ (.rest ..) => rfl

theorem Pattern.elementBinds_relocate : ∀ ps : List (Option Pattern),
    Pattern.elementBinds (Pattern.relocateElements f ps) = Pattern.elementBinds ps
  | [] => rfl
  | none :: ps => Pattern.elementBinds_relocate ps
  | some p :: ps => by
      have hp := Pattern.binds_relocate p
      have hps := Pattern.elementBinds_relocate ps
      exact congrArg₂ (· ++ ·) hp hps

@[simp] theorem Entry.binds_relocate : ∀ e : Entry, (e.relocate f).binds = e.binds
  | .property _ key (.default _ p _) _ shorthand => by
      have hp := Pattern.binds_relocate p
      cases shorthand with
      | false => exact hp
      | true =>
          cases key with
          | ident i => exact hp
          | _ => rfl
  | .property _ key (.expr e) _ shorthand => by
      cases shorthand
      · cases e <;> rfl
      · cases key <;> rfl
  | .property _ key (.array _ ps) _ shorthand => by
      have hps := Pattern.elementBinds_relocate ps
      cases shorthand
      · exact hps
      · cases key <;> rfl
  | .property _ key (.object _ es) _ shorthand => by
      have hes := Entry.allBinds_relocate es
      cases shorthand
      · exact hes
      · cases key <;> rfl
  | .property _ key (.rest ..) _ shorthand => by
      cases shorthand
      · rfl
      · cases key <;> rfl
  | .rest _ (.expr e) => by cases e <;> rfl
  | .rest _ (.default ..) | .rest _ (.array ..) | .rest _ (.object ..) | .rest _ (.rest ..) => rfl

theorem Entry.allBinds_relocate : ∀ es : List Entry,
    Entry.allBinds (Entry.relocateAll f es) = Entry.allBinds es
  | [] => rfl
  | e :: es => by
      have he := Entry.binds_relocate e
      have hes := Entry.allBinds_relocate es
      exact congrArg₂ (· ++ ·) he hes

end

@[simp] theorem Pattern.flatMap_binds_relocate (ps : List Pattern) :
    (Pattern.relocateAll f ps).flatMap Pattern.binds = ps.flatMap Pattern.binds := by
  induction ps with
  | nil => rfl
  | cons p ps ih => simp [Pattern.relocateAll, ih]

@[simp] theorem Declarator.flatMap_binds_relocate (ds : List Declarator) :
    (Declarator.relocateAll f ds).flatMap Declarator.binds = ds.flatMap Declarator.binds := by
  induction ds with
  | nil => rfl
  | cons d ds ih =>
      obtain ⟨s, target, init⟩ := d
      simp [Declarator.relocateAll, Declarator.relocate, Declarator.binds, ih]

@[simp] theorem Variables.binds_relocate (v : Variables) : (v.relocate f).binds = v.binds := by
  obtain ⟨s, kind, ds⟩ := v
  exact Declarator.flatMap_binds_relocate ds

@[simp] theorem Head.binds_relocate (h : Head) : (h.relocate f).binds = h.binds := by
  cases h with
  | declare v => exact Variables.binds_relocate v
  | target p => rfl

@[simp] theorem ownName_relocate (name : Option Ident) :
    ownName (name.map (Ident.relocate f)) = ownName name := by
  cases name <;> rfl

@[simp] theorem functionNames_relocate (ss : List Stmt) :
    functionNames (Stmt.relocateAll f ss) = functionNames ss := by
  induction ss with
  | nil => rfl
  | cons s ss ih =>
      have hs : functionNames [s.relocate f] = functionNames [s] := by
        cases s with
        | function _ name => simp [Stmt.relocate, functionNames]
        | _ => rfl
      simp only [functionNames, List.flatMap_cons, List.flatMap_nil, List.append_nil] at hs
      simp only [functionNames, Stmt.relocateAll, List.flatMap_cons] at ih ⊢
      rw [hs, ih]

@[simp] theorem Stmt.declared_relocate (legacy : Bool) : ∀ s : Stmt,
    (s.relocate f).declared legacy = s.declared legacy
  | .declare v => Variables.binds_relocate v
  | .function _ name .. => ownName_relocate name
  | .labeled _ _ b => Stmt.declared_relocate legacy b
  | .forOf _ h .. => by simp [Stmt.relocate, Stmt.declared]
  | .enum .. | .block _ | .empty _ | .debugger _ | .breakTo .. | .continueTo .. | .typeDecl ..
  | .expr .. | .ifElse .. | .ret .. | .throw .. | .switch .. | .tryCatch .. | .whileLoop ..
  | .doWhile .. | .withObject .. | .forLoop .. | .forIn .. | .classDecl .. | .imports ..
  | .importAlias .. | .exports .. | .unsupported .. => rfl

def Mutation.relocate (f : Span → Span) (m : Mutation) : Mutation := ⟨m.form, m.name.relocate f⟩

def Use.relocate (f : Span → Span) (u : Use) : Use := ⟨u.mutation.relocate f, u.hidden⟩

@[simp] theorem Use.relocate_comp_under (xs : List String) :
    Use.relocate f ∘ Use.under xs = Use.under xs ∘ Use.relocate f := rfl

@[simp] theorem Use.under_comp_under_relocate (xs ys : List String) :
    Use.under xs ∘ Use.under ys ∘ Use.relocate f = Use.under (xs ++ ys) ∘ Use.relocate f := by
  rw [← Function.comp_assoc, Use.under_comp_under]

variable (legacy : Bool)

section

variable {legacy} {key : Expr}
  (hkey : allUses ((key.relocate f).outline legacy) = (allUses (key.outline legacy)).map (Use.relocate f))

include hkey

theorem Expr.allUses_computed_relocate (computed : Bool) :
    allUses (if computed then (key.relocate f).outline legacy else []) =
      (allUses (if computed then key.outline legacy else [])).map (Use.relocate f) := by
  cases computed
  · rfl
  · exact hkey

theorem Member.allUses_property_relocate {value : Expr} (s : Span) (computed shorthand : Bool)
    (hvalue : allUses ((value.relocate f).outline legacy) =
      (allUses (value.outline legacy)).map (Use.relocate f)) :
    allUses (((Member.property s key value computed shorthand).relocate f).outline legacy) =
      (allUses ((Member.property s key value computed shorthand).outline legacy)).map
        (Use.relocate f) := by
  have hcomputed := Expr.allUses_computed_relocate hkey computed
  have hides : ∀ e : Expr, Item.allHides (if computed then e.outline legacy else []) = [] := by
    cases computed <;> simp
  simp only [Member.relocate, Member.outline_property, Item.allUses_append, hcomputed, hides,
    List.map_append, Use.under_nil, List.map_id]
  congr 1
  cases shorthand with
  | false => exact hvalue
  | true =>
      cases key with
      | ident i => rfl
      | _ => exact hvalue

theorem Entry.allUses_declare_property_relocate {value : Pattern} (s : Span) (computed shorthand : Bool)
    (hvalue : allUses ((value.relocate f).declare legacy) =
      (allUses (value.declare legacy)).map (Use.relocate f)) :
    allUses (((Entry.property s key value computed shorthand).relocate f).declare legacy) =
      (allUses ((Entry.property s key value computed shorthand).declare legacy)).map
        (Use.relocate f) := by
  have hcomputed := Expr.allUses_computed_relocate hkey computed
  have hides : ∀ e : Expr, Item.allHides (if computed then e.outline legacy else []) = [] := by
    cases computed <;> simp
  simp only [Entry.relocate, Entry.declare_property, Item.allUses_append, hcomputed, hides,
    List.map_append, Use.under_nil, List.map_id]
  congr 1
  cases shorthand with
  | false =>
      cases value with
      | expr e => cases e <;> rfl
      | default | array | object => exact hvalue
      | rest => rfl
  | true =>
      cases key with
      | ident i =>
          cases value with
          | default => exact hvalue
          | expr | array | object | rest => rfl
      | _ => rfl

theorem Entry.allUses_assign_property_relocate {value : Pattern} (s : Span) (computed shorthand : Bool)
    (hvalue : allUses ((value.relocate f).assign legacy) =
      (allUses (value.assign legacy)).map (Use.relocate f))
    (hdefault : ∀ s p e, value = .default s p e →
      allUses ((e.relocate f).outline legacy) = (allUses (e.outline legacy)).map (Use.relocate f)) :
    allUses (((Entry.property s key value computed shorthand).relocate f).assign legacy) =
      (allUses ((Entry.property s key value computed shorthand).assign legacy)).map
        (Use.relocate f) := by
  have hcomputed := Expr.allUses_computed_relocate hkey computed
  have hides : ∀ e : Expr, Item.allHides (if computed then e.outline legacy else []) = [] := by
    cases computed <;> simp
  simp only [Entry.relocate, Entry.assign_property, Item.allUses_append, hcomputed, hides,
    List.map_append, Use.under_nil, List.map_id]
  congr 1
  cases shorthand with
  | false => exact hvalue
  | true =>
      cases key with
      | ident i =>
          cases value with
          | default s p e => exact congrArg (List.cons _) (by simpa using hdefault s p e rfl)
          | expr | array | object | rest => rfl
      | _ => rfl

end

theorem Stmt.allUses_forLoop (s : Span) (init : Option Head) (test update : Option Expr) (b : Stmt) :
    allUses ((Stmt.forLoop s init test update b).outline legacy) =
      (init.elim [] fun h => allUses (h.outline legacy)) ++
        ((test.elim [] fun e => allUses (e.outline legacy)) ++
          (update.elim [] fun e => allUses (e.outline legacy)) ++ allUses (b.outline legacy)).map
          (Use.under (init.elim [] Head.binds)) := by
  cases init <;> cases test <;> cases update <;> simp [Stmt.outline]

mutual

theorem Expr.allUses_relocate : ∀ e : Expr,
    allUses ((e.relocate f).outline legacy) = (allUses (e.outline legacy)).map (Use.relocate f)
  | .ident _ | .privateName _ | .this _ | .super _ | .importKeyword _ | .metaProperty .. | .literal ..
  | .classExpr .. | .jsx .. | .unsupported .. | .yield _ none _ => rfl
  | .template _ es | .array _ es | .sequence _ es => Expr.allUses_relocateAll es
  | .spread _ e | .unary _ _ e | .update _ _ e | .paren _ e | .await _ e | .typed _ _ e
  | .yield _ (some e) _ => Expr.allUses_relocate e
  | .tagged _ l r | .binary _ _ l r => by
      simp [Expr.relocate, Expr.outline, Expr.allUses_relocate l, Expr.allUses_relocate r]
  | .object _ ms => Member.allUses_relocateAll ms
  | .function _ name ps b _ _ => by
      simp [Expr.relocate, Expr.outline, Pattern.allUses_declares_relocate ps, Block.allUses_relocate b]
  | .arrow _ ps b _ => by
      simp [Expr.relocate, Expr.outline, Pattern.allUses_declares_relocate ps, Body.allUses_relocate b]
  | .call _ c as _ | .new _ c as => by
      simp [Expr.relocate, Expr.outline, Expr.allUses_relocate c, Expr.allUses_relocateAll as]
  | .member _ o p computed _ => by
      cases computed <;>
        simp [Expr.relocate, Expr.outline, Expr.allUses_relocate o, Expr.allUses_relocate p]
  | .assign _ _ l r => by
      simp [Expr.relocate, Expr.outline, Pattern.allUses_assign_relocate l, Expr.allUses_relocate r]
  | .conditional _ t c a => by
      simp [Expr.relocate, Expr.outline, Expr.allUses_relocate t, Expr.allUses_relocate c,
        Expr.allUses_relocate a]

theorem Expr.allUses_relocateAll : ∀ es : List Expr,
    allUses (Expr.outlines legacy (Expr.relocateAll f es)) =
      (allUses (Expr.outlines legacy es)).map (Use.relocate f)
  | [] => rfl
  | e :: es => by
      simp [Expr.relocateAll, Expr.outlines, Expr.allUses_relocate e, Expr.allUses_relocateAll es]

theorem Member.allUses_relocate : ∀ m : Member,
    allUses ((m.relocate f).outline legacy) = (allUses (m.outline legacy)).map (Use.relocate f)
  | .property s key value computed shorthand =>
      Member.allUses_property_relocate (Expr.allUses_relocate key) s computed shorthand
        (Expr.allUses_relocate value)
  | .method _ key ps b computed _ => by
      have hkey := Expr.allUses_relocate key
      cases computed <;>
        simp [Member.relocate, Member.outline, Pattern.allUses_declares_relocate ps,
          Block.allUses_relocate b, hkey]
  | .spread _ e => Expr.allUses_relocate e
  | .unsupported .. => rfl

theorem Member.allUses_relocateAll : ∀ ms : List Member,
    allUses (Member.outlines legacy (Member.relocateAll f ms)) =
      (allUses (Member.outlines legacy ms)).map (Use.relocate f)
  | [] => rfl
  | m :: ms => by
      simp [Member.relocateAll, Member.outlines, Member.allUses_relocate m,
        Member.allUses_relocateAll ms]

theorem Body.allUses_relocate : ∀ b : Body,
    allUses ((b.relocate f).outline legacy) = (allUses (b.outline legacy)).map (Use.relocate f)
  | .block b => Block.allUses_relocate b
  | .expr e => Expr.allUses_relocate e

theorem Block.allUses_relocate : ∀ b : Block,
    allUses ((b.relocate f).outline legacy) = (allUses (b.outline legacy)).map (Use.relocate f)
  | .mk _ ss => by simp [Block.relocate, Block.outline, Stmt.allUses_relocateAll ss]

theorem Pattern.allUses_declare_relocate : ∀ p : Pattern,
    allUses ((p.relocate f).declare legacy) = (allUses (p.declare legacy)).map (Use.relocate f)
  | .expr e => by cases e <;> rfl
  | .default _ p e => by
      simp [Pattern.relocate, Pattern.declare, Pattern.allUses_declare_relocate p,
        Expr.allUses_relocate e]
  | .array _ ps => Pattern.allUses_declareElements_relocate ps
  | .object _ es => Entry.allUses_declares_relocate es
  | .rest _ (.expr e) => by cases e <;> rfl
  | .rest _ (.default ..) | .rest _ (.array ..) | .rest _ (.object ..) | .rest _ (.rest ..) => rfl

theorem Pattern.allUses_declares_relocate : ∀ ps : List Pattern,
    allUses (Pattern.declares legacy (Pattern.relocateAll f ps)) =
      (allUses (Pattern.declares legacy ps)).map (Use.relocate f)
  | [] => rfl
  | p :: ps => by
      simp [Pattern.relocateAll, Pattern.declares, Pattern.allUses_declare_relocate p,
        Pattern.allUses_declares_relocate ps]

theorem Pattern.allUses_declareElements_relocate : ∀ ps : List (Option Pattern),
    allUses (Pattern.declareElements legacy (Pattern.relocateElements f ps)) =
      (allUses (Pattern.declareElements legacy ps)).map (Use.relocate f)
  | [] => rfl
  | none :: ps => Pattern.allUses_declareElements_relocate ps
  | some p :: ps => by
      simp [Pattern.relocateElements, Pattern.relocate?, Pattern.declareElements,
        Pattern.allUses_declare_relocate p, Pattern.allUses_declareElements_relocate ps]

theorem Entry.allUses_declare_relocate : ∀ e : Entry,
    allUses ((e.relocate f).declare legacy) = (allUses (e.declare legacy)).map (Use.relocate f)
  | .property s key value computed shorthand =>
      Entry.allUses_declare_property_relocate (Expr.allUses_relocate key) s computed shorthand
        (Pattern.allUses_declare_relocate value)
  | .rest _ (.expr e) => by cases e <;> rfl
  | .rest _ (.default ..) | .rest _ (.array ..) | .rest _ (.object ..) | .rest _ (.rest ..) => rfl

theorem Entry.allUses_declares_relocate : ∀ es : List Entry,
    allUses (Entry.declares legacy (Entry.relocateAll f es)) =
      (allUses (Entry.declares legacy es)).map (Use.relocate f)
  | [] => rfl
  | e :: es => by
      simp [Entry.relocateAll, Entry.declares, Entry.allUses_declare_relocate e,
        Entry.allUses_declares_relocate es]

theorem Pattern.allUses_assign_relocate : ∀ p : Pattern,
    allUses ((p.relocate f).assign legacy) = (allUses (p.assign legacy)).map (Use.relocate f)
  | .expr e => Expr.allUses_relocate e
  | .default _ p e => by
      simp [Pattern.relocate, Pattern.assign, Pattern.allUses_assign_relocate p,
        Expr.allUses_relocate e]
  | .array _ ps => Pattern.allUses_assignElements_relocate ps
  | .object _ es => Entry.allUses_assigns_relocate es
  | .rest _ p => Pattern.allUses_assign_relocate p

theorem Pattern.allUses_assignElements_relocate : ∀ ps : List (Option Pattern),
    allUses (Pattern.assignElements legacy (Pattern.relocateElements f ps)) =
      (allUses (Pattern.assignElements legacy ps)).map (Use.relocate f)
  | [] => rfl
  | none :: ps => Pattern.allUses_assignElements_relocate ps
  | some p :: ps => by
      simp [Pattern.relocateElements, Pattern.relocate?, Pattern.assignElements,
        Pattern.allUses_assign_relocate p, Pattern.allUses_assignElements_relocate ps]

theorem Entry.allUses_assign_relocate : ∀ e : Entry,
    allUses ((e.relocate f).assign legacy) = (allUses (e.assign legacy)).map (Use.relocate f)
  | .property s key (.default s' p e) computed shorthand =>
      Entry.allUses_assign_property_relocate (Expr.allUses_relocate key) s computed shorthand
        (Pattern.allUses_assign_relocate (.default s' p e))
        (by rintro _ _ _ ⟨⟩; exact Expr.allUses_relocate e)
  | .property s key (.expr t) computed shorthand =>
      Entry.allUses_assign_property_relocate (Expr.allUses_relocate key) s computed shorthand
        (Pattern.allUses_assign_relocate (.expr t)) (by simp)
  | .property s key (.array s' ps) computed shorthand =>
      Entry.allUses_assign_property_relocate (Expr.allUses_relocate key) s computed shorthand
        (Pattern.allUses_assign_relocate (.array s' ps)) (by simp)
  | .property s key (.object s' es) computed shorthand =>
      Entry.allUses_assign_property_relocate (Expr.allUses_relocate key) s computed shorthand
        (Pattern.allUses_assign_relocate (.object s' es)) (by simp)
  | .property s key (.rest s' p) computed shorthand =>
      Entry.allUses_assign_property_relocate (Expr.allUses_relocate key) s computed shorthand
        (Pattern.allUses_assign_relocate (.rest s' p)) (by simp)
  | .rest _ p => Pattern.allUses_assign_relocate p

theorem Entry.allUses_assigns_relocate : ∀ es : List Entry,
    allUses (Entry.assigns legacy (Entry.relocateAll f es)) =
      (allUses (Entry.assigns legacy es)).map (Use.relocate f)
  | [] => rfl
  | e :: es => by
      simp [Entry.relocateAll, Entry.assigns, Entry.allUses_assign_relocate e,
        Entry.allUses_assigns_relocate es]

theorem Stmt.allUses_relocate : ∀ s : Stmt,
    allUses ((s.relocate f).outline legacy) = (allUses (s.outline legacy)).map (Use.relocate f)
  | .empty _ | .debugger _ | .breakTo .. | .continueTo .. | .typeDecl .. | .ret _ none | .classDecl ..
  | .imports .. | .importAlias .. | .exports .. | .unsupported .. => rfl
  | .block b => by simp [Stmt.relocate, Stmt.outline, Block.allUses_relocate b]
  | .expr _ e | .ret _ (some e) | .throw _ e => Expr.allUses_relocate e
  | .ifElse _ t c none => by
      simp [Stmt.relocate, Stmt.relocate?, Stmt.outline, Expr.allUses_relocate t,
        Stmt.allUses_relocate c]
  | .ifElse _ t c (some a) => by
      simp [Stmt.relocate, Stmt.relocate?, Stmt.outline, Expr.allUses_relocate t,
        Stmt.allUses_relocate c, Stmt.allUses_relocate a]
  | .labeled _ _ b => Stmt.allUses_relocate b
  | .switch _ d cs => by
      simp [Stmt.relocate, Stmt.outline, Expr.allUses_relocate d, Case.allUses_relocateAll cs]
  | .tryCatch _ b none none => by
      simp [Stmt.relocate, Handler.relocate?, Block.relocate?, Stmt.outline, Block.allUses_relocate b]
  | .tryCatch _ b none (some z) => by
      simp [Stmt.relocate, Handler.relocate?, Block.relocate?, Stmt.outline, Block.allUses_relocate b,
        Block.allUses_relocate z]
  | .tryCatch _ b (some h) none => by
      obtain ⟨h', hh', huses⟩ := Handler.allUses_relocate h
      simp [Stmt.relocate, hh', Block.relocate?, Stmt.outline, Block.allUses_relocate b, huses]
  | .tryCatch _ b (some h) (some z) => by
      obtain ⟨h', hh', huses⟩ := Handler.allUses_relocate h
      simp [Stmt.relocate, hh', Block.relocate?, Stmt.outline, Block.allUses_relocate b, huses,
        Block.allUses_relocate z]
  | .whileLoop _ t b => by
      simp [Stmt.relocate, Stmt.outline, Expr.allUses_relocate t, Stmt.allUses_relocate b]
  | .doWhile _ b t => by
      simp [Stmt.relocate, Stmt.outline, Expr.allUses_relocate t, Stmt.allUses_relocate b]
  | .withObject _ o b => by
      simp [Stmt.relocate, Stmt.outline, Expr.allUses_relocate o, Stmt.allUses_relocate b]
  | .forLoop _ init test update b => by
      have hbinds : (Head.relocate? f init).elim [] Head.binds = init.elim [] Head.binds := by
        cases init with
        | none => rfl
        | some h => exact Head.binds_relocate h
      simp [Stmt.relocate, Stmt.allUses_forLoop, hbinds, Head.allUses_relocate? init,
        Expr.allUses_relocate? test, Expr.allUses_relocate? update, Stmt.allUses_relocate b]
  | .forIn _ h r b => by
      simp [Stmt.relocate, Stmt.outline, Expr.allUses_relocate r, Head.allUses_relocate h,
        Stmt.allUses_relocate b]
  | .forOf _ h r b _ => by
      have hr := Expr.allUses_relocate r
      have hh := Head.allUses_relocate h
      have hb := Stmt.allUses_relocate b
      cases legacy <;> simp [Stmt.relocate, Stmt.outline, hr, hh, hb]
  | .declare v => Variables.allUses_relocate v
  | .function _ name ps b _ _ => by
      simp [Stmt.relocate, Stmt.outline, Pattern.allUses_declares_relocate ps, Block.allUses_relocate b]
  | .enum _ _ ms => by simp [Stmt.relocate, Stmt.outline, EnumMember.allUses_relocateAll ms]

theorem Stmt.allUses_relocateAll : ∀ ss : List Stmt,
    allUses (Stmt.outlines legacy (Stmt.relocateAll f ss)) =
      (allUses (Stmt.outlines legacy ss)).map (Use.relocate f)
  | [] => rfl
  | s :: ss => by
      simp [Stmt.relocateAll, Stmt.outlines, Stmt.allUses_relocate s, Stmt.allUses_relocateAll ss]

theorem Case.allUses_relocateAll : ∀ cs : List Case,
    allUses (Case.outlines legacy (Case.relocateAll f cs)) =
      (allUses (Case.outlines legacy cs)).map (Use.relocate f)
  | [] => rfl
  | .mk _ none b :: cs => by
      simp [Case.relocateAll, Expr.relocate?, Case.outlines, Stmt.allUses_relocateAll b,
        Case.allUses_relocateAll cs]
  | .mk _ (some e) b :: cs => by
      simp [Case.relocateAll, Expr.relocate?, Case.outlines, Expr.allUses_relocate e,
        Stmt.allUses_relocateAll b, Case.allUses_relocateAll cs]

theorem Handler.allUses_relocate : ∀ h : Handler, ∃ h', Handler.relocate? f (some h) = some h' ∧
    allUses (h'.outline legacy) = (allUses (h.outline legacy)).map (Use.relocate f)
  | .mk _ none b => by
      refine ⟨_, rfl, ?_⟩
      simp [Pattern.relocate?, Handler.outline, Block.allUses_relocate b]
  | .mk _ (some p) b => by
      have hp := Pattern.allUses_declare_relocate p
      have hb := Block.allUses_relocate b
      refine ⟨_, rfl, ?_⟩
      cases legacy <;> simp [Pattern.relocate?, Handler.outline, hp, hb]

theorem EnumMember.allUses_relocateAll : ∀ ms : List EnumMember,
    allUses (EnumMember.outlines legacy (EnumMember.relocateAll f ms)) =
      (allUses (EnumMember.outlines legacy ms)).map (Use.relocate f)
  | [] => rfl
  | .mk _ _ none :: ms => EnumMember.allUses_relocateAll ms
  | .mk _ _ (some e) :: ms => by
      simp [EnumMember.relocateAll, Expr.relocate?, EnumMember.outlines, Expr.allUses_relocate e,
        EnumMember.allUses_relocateAll ms]

theorem Variables.allUses_relocate : ∀ v : Variables,
    allUses ((v.relocate f).outline legacy) = (allUses (v.outline legacy)).map (Use.relocate f)
  | .mk _ _ ds => Declarator.allUses_relocateAll ds

theorem Declarator.allUses_relocateAll : ∀ ds : List Declarator,
    allUses (Declarator.outlines legacy (Declarator.relocateAll f ds)) =
      (allUses (Declarator.outlines legacy ds)).map (Use.relocate f)
  | [] => rfl
  | .mk _ p none :: ds => by
      simp [Declarator.relocateAll, Declarator.relocate, Expr.relocate?, Declarator.outlines,
        Pattern.allUses_declare_relocate p, Declarator.allUses_relocateAll ds]
  | .mk _ p (some e) :: ds => by
      simp [Declarator.relocateAll, Declarator.relocate, Expr.relocate?, Declarator.outlines,
        Pattern.allUses_declare_relocate p, Expr.allUses_relocate e, Declarator.allUses_relocateAll ds]

theorem Head.allUses_relocate : ∀ h : Head,
    allUses ((h.relocate f).outline legacy) = (allUses (h.outline legacy)).map (Use.relocate f)
  | .declare v => Variables.allUses_relocate v
  | .target p => Pattern.allUses_assign_relocate p

theorem Head.allUses_relocate? : ∀ h : Option Head,
    ((Head.relocate? f h).elim [] fun h => allUses (h.outline legacy)) =
      (h.elim [] fun h => allUses (h.outline legacy)).map (Use.relocate f)
  | none => rfl
  | some h => Head.allUses_relocate h

theorem Expr.allUses_relocate? : ∀ e : Option Expr,
    ((Expr.relocate? f e).elim [] fun e => allUses (e.outline legacy)) =
      (e.elim [] fun e => allUses (e.outline legacy)).map (Use.relocate f)
  | none => rfl
  | some e => Expr.allUses_relocate e

end

end ScriptSplit
