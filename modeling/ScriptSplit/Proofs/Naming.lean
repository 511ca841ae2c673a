import ScriptSplit.Proofs.Declared
import ScriptSplit.Proofs.Seating

namespace ScriptSplit

def Item.idents (items : List Item) : List Ident :=
  (Item.allUses items).map fun u => u.mutation.name

namespace Item

@[simp] theorem idents_nil : idents [] = [] := rfl

@[simp] theorem idents_append (is js : List Item) : idents (is ++ js) = idents is ++ idents js := by
  simp [idents, Function.comp_def]

@[simp] theorem idents_reference (i : Ident) (is : List Item) :
    idents (.reference i :: is) = i :: idents is := by
  simp [idents]

@[simp] theorem idents_shorthand (i : Ident) (is : List Item) :
    idents (.shorthand i :: is) = i :: idents is := by
  simp [idents]

@[simp] theorem idents_shadow (x : String) (is : List Item) : idents (.shadow x :: is) = idents is := by
  simp [idents, Function.comp_def]

@[simp] theorem idents_scoped (is js : List Item) :
    idents (.scoped is :: js) = idents is ++ idents js := by
  simp [idents]

@[simp] theorem idents_refuse (r : Refusal) (is : List Item) : idents (.refuse r :: is) = idents is := by
  simp [idents]

@[simp] theorem idents_shadowing (name : Option Ident) : idents (shadowing name) = [] := by
  simp [idents]

@[simp] theorem idents_hoisted (ss : List Stmt) : idents (hoisted ss) = [] := by
  simp [idents]

theorem idents_inTurn {α : Type} {f : List α → List Item} {g : α → List Item} (hnil : f [] = [])
    (hcons : ∀ x xs, f (x :: xs) = g x ++ f xs) (xs : List α) :
    idents (f xs) = xs.flatMap fun x => idents (g x) := by
  induction xs with
  | nil => simp [hnil]
  | cons x xs ih => simp [hcons, ih]

end Item

section

open Item (idents idents_inTurn)

variable (legacy : Bool)

theorem Expr.idents_outlines : ∀ es : List Expr,
    idents (Expr.outlines legacy es) = es.flatMap fun e => idents (e.outline legacy) :=
  idents_inTurn rfl fun _ _ => by rw [Expr.outlines]

theorem Member.idents_outlines : ∀ ms : List Member,
    idents (Member.outlines legacy ms) = ms.flatMap fun m => idents (m.outline legacy) :=
  idents_inTurn rfl fun _ _ => by rw [Member.outlines]

theorem Pattern.idents_declares : ∀ ps : List Pattern,
    idents (Pattern.declares legacy ps) = ps.flatMap fun p => idents (p.declare legacy) :=
  idents_inTurn rfl fun _ _ => by rw [Pattern.declares]

theorem Pattern.idents_declareElements (ps : List (Option Pattern)) :
    idents (Pattern.declareElements legacy ps) =
      (ps.filterMap id).flatMap fun p => idents (p.declare legacy) := by
  induction ps with
  | nil => rfl
  | cons o ps ih => cases o <;> simpa [Pattern.declareElements] using ih

theorem Pattern.idents_assignElements (ps : List (Option Pattern)) :
    idents (Pattern.assignElements legacy ps) =
      (ps.filterMap id).flatMap fun p => idents (p.assign legacy) := by
  induction ps with
  | nil => rfl
  | cons o ps ih => cases o <;> simpa [Pattern.assignElements] using ih

theorem Entry.idents_declares : ∀ es : List Entry,
    idents (Entry.declares legacy es) = es.flatMap fun e => idents (e.declare legacy) :=
  idents_inTurn rfl fun _ _ => by rw [Entry.declares]

theorem Entry.idents_assigns : ∀ es : List Entry,
    idents (Entry.assigns legacy es) = es.flatMap fun e => idents (e.assign legacy) :=
  idents_inTurn rfl fun _ _ => by rw [Entry.assigns]

theorem Stmt.idents_outlines : ∀ ss : List Stmt,
    idents (Stmt.outlines legacy ss) = ss.flatMap fun s => idents (s.outline legacy) :=
  idents_inTurn rfl fun _ _ => by rw [Stmt.outlines]

theorem Case.idents_outlines : ∀ cs : List Case,
    idents (Case.outlines legacy cs) = cs.flatMap fun c => idents (Case.outlines legacy [c]) :=
  idents_inTurn rfl fun c cs => by
    obtain ⟨s, test, body⟩ := c
    cases test <;> simp [Case.outlines]

theorem EnumMember.idents_outlines : ∀ ms : List EnumMember,
    idents (EnumMember.outlines legacy ms) =
      ms.flatMap fun m => idents (EnumMember.outlines legacy [m]) :=
  idents_inTurn rfl fun m ms => by
    obtain ⟨s, name, init⟩ := m
    cases init <;> simp [EnumMember.outlines]

theorem Declarator.idents_outlines : ∀ ds : List Declarator,
    idents (Declarator.outlines legacy ds) =
      ds.flatMap fun d => idents (Declarator.outlines legacy [d]) :=
  idents_inTurn rfl fun d ds => by
    obtain ⟨s, target, init⟩ := d
    cases init <;> simp [Declarator.outlines]

theorem Stmt.idents_forLoop (s : Span) (init : Option Head) (test update : Option Expr) (b : Stmt) :
    idents ((Stmt.forLoop s init test update b).outline legacy) =
      (init.elim [] fun h => idents (h.outline legacy)) ++
        (test.elim [] fun e => idents (e.outline legacy)) ++
        (update.elim [] fun e => idents (e.outline legacy)) ++ idents (b.outline legacy) := by
  cases init <;> cases test <;> cases update <;> simp [Stmt.outline]

end

structure Ident.Drawn (t : Text) (sp : Span) (i : Ident) : Prop where
  inside : i.span.Inside sp
  name : i.name = String.ofList (t.slice i.span.start i.span.stop)

structure Text.Draws (t : Text) (sp : Span) (is : List Ident) : Prop where
  drawn : ∀ i ∈ is, i.Drawn t sp
  apart : is.Pairwise fun i j => i.span.Apart j.span

theorem Text.draws_nil (t : Text) (sp : Span) : t.Draws sp [] := ⟨by simp, .nil⟩

theorem Text.Draws.sublist {t : Text} {sp : Span} {is js : List Ident} (h : t.Draws sp js)
    (hsub : is.Sublist js) : t.Draws sp is :=
  ⟨fun i hi => h.drawn i (hsub.subset hi), h.apart.sublist hsub⟩

theorem Expr.found_sublist (legacy : Bool) (names : List String) (e : Expr) :
    ((e.walk legacy names).found.map Mutation.name).Sublist (Item.idents (e.outline legacy)) := by
  have hsub := (Item.walks_sublist (Scope.ofNames names) (e.outline legacy)).map Mutation.name
  rwa [List.map_map] at hsub

theorem Source.draws_ident {s : Source} {l : Label} (h : (s.span l).start ≤ (s.span l).stop) :
    s.text.Draws (s.span l) [s.ident l] := by
  refine ⟨?_, List.pairwise_singleton _ _⟩
  intro i hi
  obtain rfl := List.mem_singleton.mp hi
  exact ⟨⟨Int.le_refl _, h, Int.le_refl _⟩, rfl⟩

end ScriptSplit
