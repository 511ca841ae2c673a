import ScriptSplit.Proofs.Rerouting
import ScriptSplit.Settings.Basic

/-!
The name under which the locals are passed, inside an argument: an access to them is captured where
the argument binds that name itself. Nothing is where the argument does not declare it.
-/

namespace ScriptSplit

open Item (allUses)

/-- A construct on a path binds a name in the part that the path leads through. -/
def Phrase.BindsAlong (legacy : Bool) (x : String) : Phrase → List Nat → Prop
  | _, [] => False
  | p, i :: path =>
      match (p.parts legacy)[i]? with
      | none => False
      | some (names, part) => x ∈ names ∨ part.BindsAlong legacy x path

theorem Phrase.bindsAlong_iff {legacy : Bool} {x : String} {p : Phrase} {path : List Nat} {u : Use}
    (hu : p.useAt legacy path = some u) : p.BindsAlong legacy x path ↔ x ∈ u.hidden := by
  induction path generalizing p u with
  | nil =>
      obtain ⟨m, _, rfl⟩ := Option.map_eq_some_iff.mp hu
      simp [BindsAlong]
  | cons i path ih =>
      unfold useAt at hu
      unfold BindsAlong
      cases hpart : (p.parts legacy)[i]? with
      | none => simp [hpart] at hu
      | some part =>
          rw [hpart] at hu
          obtain ⟨v, hv, rfl⟩ := Option.map_eq_some_iff.mp hu
          simp [ih hv, Use.under]

mutual

def Item.declared : Item → List String
  | .shadow x => [x]
  | .scoped items => Item.allDeclared items
  | _ => []

def Item.allDeclared : List Item → List String
  | [] => []
  | i :: is => i.declared ++ Item.allDeclared is

end

namespace Item

theorem mem_declared_of_hides {i : Item} {x : String} (hx : x ∈ i.hides) : x ∈ i.declared := by
  cases i with
  | shadow y => exact hx
  | _ => cases hx

mutual

theorem mem_declared_of_hidden {u : Use} {x : String} (hx : x ∈ u.hidden) :
    ∀ i : Item, u ∈ i.uses → x ∈ i.declared
  | .reference i, hu => by
      obtain rfl := List.mem_singleton.mp hu
      cases hx
  | .shorthand i, hu => by
      obtain rfl := List.mem_singleton.mp hu
      cases hx
  | .shadow y, hu => nomatch hu
  | .scoped items, hu => mem_allDeclared_of_hidden hx items hu
  | .refuse r, hu => nomatch hu

theorem mem_allDeclared_of_hidden {u : Use} {x : String} (hx : x ∈ u.hidden) :
    ∀ is : List Item, u ∈ allUses is → x ∈ allDeclared is
  | [], hu => nomatch hu
  | i :: is, hu => by
      rcases List.mem_append.mp hu with hu | hu
      · exact List.mem_append_left _ (mem_declared_of_hidden hx i hu)
      · -- a later occurrence is hidden from by this item or by those between
        obtain ⟨v, hv, rfl⟩ := List.mem_map.mp hu
        rcases List.mem_append.mp hx with hx | hx
        · exact List.mem_append_left _ (mem_declared_of_hides hx)
        · exact List.mem_append_right _ (mem_allDeclared_of_hidden hx is hv)

end

end Item

theorem Expr.declared_of_bindsAlong {legacy : Bool} {e : Expr} {x : String} {path : List Nat} {u : Use}
    (hu : (Phrase.expr e).useAt legacy path = some u) (hx : (Phrase.expr e).BindsAlong legacy x path) :
    x ∈ Item.allDeclared (e.outline legacy) := by
  have hmem := (Expr.lists legacy e).mem_of_useAt hu
  exact Item.mem_allDeclared_of_hidden ((Phrase.bindsAlong_iff hu).mp hx) _ hmem

/-- Every free occurrence is rerouted, and no access that is written for one is captured as long as
the argument does not declare the name of the locals. -/
theorem Expr.reroute_uncaptured {locals : String} {legacy : Bool} {names : List String} {e : Expr}
    {d d' : Draft} {found : List Mutation} (h : e.reroute ⟨locals, legacy⟩ names d = .ok (d', found))
    (hlocals : locals ∉ Item.allDeclared (e.outline legacy)) :
    ∃ edits, d' = { d with edits := d.edits ++ edits } ∧
      (Phrase.expr e).ReroutedBy legacy locals names edits ∧
      ∀ path m, (Phrase.expr e).FreeAt legacy names path m →
        ¬ (Phrase.expr e).BindsAlong legacy locals path := by
  obtain ⟨⟨s, hs⟩, rfl, hr⟩ := Expr.reroute_eq_ok h
  obtain ⟨edits, hedits, rfl⟩ := Draft.reroute_eq_ok hr
  obtain ⟨paths, hnodup, hpaths, hfound⟩ := (Expr.lists legacy e).free names
  rw [← Expr.walk_found hs] at hfound
  refine ⟨edits, rfl, ⟨paths, hnodup, hpaths, forall₂_comp hfound hedits⟩, ?_⟩
  intro path m hfree hbinds
  obtain ⟨hidden, hu, _, _⟩ := hfree
  exact hlocals (Expr.declared_of_bindsAlong hu hbinds)

/-- The arrow function `(__locals__) => x`. -/
def localsArrow : Expr :=
  .arrow ⟨0, 17, 1, 0⟩ [.expr (.ident ⟨⟨1, 11, 1, 1⟩, "__locals__"⟩)]
    (.expr (.ident ⟨⟨16, 17, 1, 16⟩, "x"⟩)) false

theorem localsArrow_reroute_uncaptured :
    "locals" ∉ Item.allDeclared (localsArrow.outline false) ∧
      ∃ path m, (Phrase.expr localsArrow).FreeAt false ["x"] path m ∧
        ¬ (Phrase.expr localsArrow).BindsAlong false "locals" path := by
  have hlocals : "locals" ∉ Item.allDeclared (localsArrow.outline false) := by decide
  have hreroute : localsArrow.reroute ⟨"locals", false⟩ ["x"] (.ofText "(__locals__) => x".toList) =
      .ok (⟨"(__locals__) => x".toList, [⟨16, 17, "(locals.x)".toList⟩], []⟩,
        [⟨.reference, ⟨⟨16, 17, 1, 16⟩, "x"⟩⟩]) := by decide
  have hfree : (Phrase.expr localsArrow).FreeAt false ["x"] [1]
      ⟨.reference, ⟨⟨16, 17, 1, 16⟩, "x"⟩⟩ := ⟨["__locals__"], rfl, by decide, by decide⟩
  obtain ⟨_, _, _, huncaptured⟩ := Expr.reroute_uncaptured hreroute hlocals
  exact ⟨hlocals, [1], _, hfree, huncaptured _ _ hfree⟩

theorem localsArrow_captures :
    (Value.text "__locals__").asName = .ok "__locals__" ∧
      localsArrow.reroute ⟨"__locals__", false⟩ ["x"] (.ofText "(__locals__) => x".toList) =
        .ok (⟨"(__locals__) => x".toList, [⟨16, 17, "(__locals__.x)".toList⟩], []⟩,
          [⟨.reference, ⟨⟨16, 17, 1, 16⟩, "x"⟩⟩]) ∧
      (Phrase.expr localsArrow).FreeAt false ["x"] [1] ⟨.reference, ⟨⟨16, 17, 1, 16⟩, "x"⟩⟩ ∧
      (Phrase.expr localsArrow).BindsAlong false "__locals__" [1] := by
  refine ⟨by decide +kernel, by decide, ⟨["__locals__"], rfl, by decide, by decide⟩, ?_⟩
  exact .inl (List.mem_singleton.mpr rfl)

end ScriptSplit
