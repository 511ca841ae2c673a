import ScriptSplit.Proofs.Draft
import ScriptSplit.Proofs.Occurrence

namespace ScriptSplit

/-- An occurrence of one of some names that nothing on the path to it binds. -/
def Phrase.FreeAt (legacy : Bool) (names : List String) (p : Phrase) (path : List Nat) (m : Mutation) :
    Prop :=
  ∃ hidden, p.useAt legacy path = some ⟨m, hidden⟩ ∧ m.name.name ∈ names ∧ m.name.name ∉ hidden

def Phrase.ReroutedBy (legacy : Bool) (locals : String) (names : List String) (p : Phrase)
    (edits : List Edit) : Prop :=
  ∃ paths : List (List Nat), paths.Nodup ∧ (∀ path, path ∈ paths ↔ ∃ m, p.FreeAt legacy names path m) ∧
    List.Forall₂ (fun path edit => ∃ m, p.FreeAt legacy names path m ∧ m.Makes locals edit) paths edits

theorem Use.isFree_ofNames (names : List String) (u : Use) :
    u.isFree (Scope.ofNames names) = true ↔ u.name ∈ names ∧ u.name ∉ u.hidden := by
  simp [Use.isFree]

namespace Phrase

variable {legacy : Bool} {names : List String} {p : Phrase}

def isFreeAt (legacy : Bool) (names : List String) (p : Phrase) (path : List Nat) : Bool :=
  (p.useAt legacy path).any (Use.isFree (Scope.ofNames names))

theorem isFreeAt_iff (path : List Nat) :
    p.isFreeAt legacy names path = true ↔ ∃ m, p.FreeAt legacy names path m := by
  cases hu : p.useAt legacy path with
  | none => simp [isFreeAt, hu, FreeAt]
  | some u =>
      obtain ⟨m, hidden⟩ := u
      simp [isFreeAt, hu, FreeAt, Use.isFree_ofNames, Use.name]

theorem forall₂_freeAt {paths : List (List Nat)} {us : List Use}
    (h : List.Forall₂ (fun path u => p.useAt legacy path = some u) paths us) :
    List.Forall₂ (p.FreeAt legacy names) (paths.filter (p.isFreeAt legacy names))
      (freeUses (Scope.ofNames names) us) := by
  induction h with
  | nil => exact .nil
  | @cons path u paths us hu _ ih =>
      have hpath : p.isFreeAt legacy names path = u.isFree (Scope.ofNames names) := by
        simp [isFreeAt, hu]
      cases hfree : u.isFree (Scope.ofNames names) with
      | false => simpa [freeUses, hpath, hfree] using ih
      | true =>
          have hm := (Use.isFree_ofNames names u).mp hfree
          have hcons : List.Forall₂ (p.FreeAt legacy names)
              (path :: paths.filter (p.isFreeAt legacy names))
              (u.mutation :: freeUses (Scope.ofNames names) us) := .cons ⟨u.hidden, hu, hm⟩ ih
          simpa [freeUses, hpath, hfree] using hcons

end Phrase

theorem Lists.free {legacy : Bool} {p : Phrase} {us : List Use} (h : Lists legacy p us)
    (names : List String) :
    ∃ paths : List (List Nat), paths.Nodup ∧ (∀ path, path ∈ paths ↔ ∃ m, p.FreeAt legacy names path m) ∧
      List.Forall₂ (p.FreeAt legacy names) paths (freeUses (Scope.ofNames names) us) := by
  obtain ⟨paths, hnodup, hcomplete, hmap⟩ := h
  have hall : List.Forall₂ (fun path u => p.useAt legacy path = some u) paths us := by
    rw [← List.forall₂_eq_eq_eq] at hmap
    simpa [List.forall₂_map_left_iff, List.forall₂_map_right_iff] using hmap
  refine ⟨paths.filter (p.isFreeAt legacy names), hnodup.filter _, ?_, Phrase.forall₂_freeAt hall⟩
  intro path
  rw [List.mem_filter, Phrase.isFreeAt_iff]
  refine ⟨And.right, fun hm => ⟨?_, hm⟩⟩
  obtain ⟨m, hidden, hu, _⟩ := hm
  exact hcomplete path _ hu

theorem Expr.walk_found {legacy : Bool} {names : List String} {e : Expr} {s : Scope}
    (h : (e.walk legacy names).outcome = .ok s) :
    (e.walk legacy names).found =
      freeUses (Scope.ofNames names) (Item.allUses (e.outline legacy)) :=
  (Item.walks_free _ _ h).1

/-- The edits made are exactly those of the free occurrences, one for each path that leads to one. -/
theorem Expr.reroute_free_occurrences {locals : String} {names : List String} {e : Expr} {d d' : Draft}
    {found : List Mutation} (h : e.reroute ⟨locals, false⟩ names d = .ok (d', found)) :
    ∃ edits, d' = { d with edits := d.edits ++ edits } ∧
      (Phrase.expr e).ReroutedBy false locals names edits := by
  obtain ⟨⟨s, hs⟩, rfl, hr⟩ := Expr.reroute_eq_ok h
  obtain ⟨edits, hedits, rfl⟩ := Draft.reroute_eq_ok hr
  obtain ⟨paths, hnodup, hpaths, hfound⟩ := (Expr.lists false e).free names
  rw [← Expr.walk_found hs] at hfound
  exact ⟨edits, rfl, paths, hnodup, hpaths, forall₂_comp hfound hedits⟩

/-- The call `f(x, x => x)`. -/
def arrowCall : Expr :=
  .call ⟨0, 12, 1, 0⟩ (.ident ⟨⟨0, 1, 1, 0⟩, "f"⟩)
    [.ident ⟨⟨2, 3, 1, 2⟩, "x"⟩,
      .arrow ⟨5, 11, 1, 5⟩ [.expr (.ident ⟨⟨5, 6, 1, 5⟩, "x"⟩)]
        (.expr (.ident ⟨⟨10, 11, 1, 10⟩, "x"⟩)) false] false

theorem arrowCall_reroute_free_occurrences :
    arrowCall.reroute ⟨"locals", false⟩ ["x"] (.ofText "f(x, x => x)".toList) =
        .ok (⟨"f(x, x => x)".toList, [⟨2, 3, "(locals.x)".toList⟩], []⟩,
          [⟨.reference, ⟨⟨2, 3, 1, 2⟩, "x"⟩⟩]) ∧
      (Phrase.expr arrowCall).ReroutedBy false "locals" ["x"] [⟨2, 3, "(locals.x)".toList⟩] := by
  have hreroute : arrowCall.reroute ⟨"locals", false⟩ ["x"] (.ofText "f(x, x => x)".toList) =
      .ok (⟨"f(x, x => x)".toList, [⟨2, 3, "(locals.x)".toList⟩], []⟩,
        [⟨.reference, ⟨⟨2, 3, 1, 2⟩, "x"⟩⟩]) := by decide
  obtain ⟨edits, hd, hedits⟩ := Expr.reroute_free_occurrences hreroute
  obtain rfl : [⟨2, 3, "(locals.x)".toList⟩] = edits := congrArg Draft.edits hd
  exact ⟨hreroute, hedits⟩

end ScriptSplit
