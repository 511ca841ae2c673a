import ScriptSplit.Proofs.Conflict
import ScriptSplit.Proofs.Rerouting

namespace ScriptSplit

open Item (idents)

variable {names : List String}

def Scope.Restricts (names : List String) (s t : Scope) : Prop :=
  ∀ x, s.has x = (t.has x && names.contains x)

theorem Scope.Restricts.shadow {s t : Scope} (h : s.Restricts names t) (x : String) :
    (s.shadow x).Restricts names (t.shadow x) := by
  intro y
  rw [has_shadow, has_shadow, h y, Bool.and_right_comm]

theorem Scope.restricts_ofNames {more : List String} (h : names ⊆ more) :
    (ofNames names).Restricts names (ofNames more) := by
  intro x
  rw [has_ofNames, has_ofNames, Bool.eq_iff_iff]
  simpa using @h x

def Mutation.isOf (names : List String) (m : Mutation) : Bool := names.contains m.name.name

inductive Walk.EndsAs (names : List String) : Except Refusal Scope → Except Refusal Scope → Prop
  | refused (r : Refusal) : EndsAs names (.error r) (.error r)
  | ended {s t : Scope} : s.Restricts names t → EndsAs names (.ok s) (.ok t)

structure Walk.Restricts (names : List String) (v w : Walk) : Prop where
  found : v.found = w.found.filter (Mutation.isOf names)
  outcome : EndsAs names v.outcome w.outcome

namespace Walk

variable {s t : Scope} {v w : Walk}

theorem restricts_stay (h : s.Restricts names t) : (stay s).Restricts names (stay t) :=
  ⟨rfl, .ended h⟩

theorem restricts_note (h : s.Restricts names t) (m : Mutation) :
    (note s m).Restricts names (note t m) := by
  refine ⟨?_, .ended h⟩
  have hm : s.has m.name.name = (t.has m.name.name && m.isOf names) := h m.name.name
  unfold note
  rw [hm]
  cases t.has m.name.name with
  | false => rfl
  | true => cases hn : m.isOf names <;> simp [hn]

theorem Restricts.within (h : v.Restricts names w) (hst : s.Restricts names t) :
    (within s v).Restricts names (within t w) := by
  obtain ⟨v, vout⟩ := v
  obtain ⟨w, wout⟩ := w
  obtain ⟨hfound, hout⟩ := h
  refine ⟨hfound, ?_⟩
  cases hout with
  | refused r => exact .refused r
  | ended _ => exact .ended hst

theorem Restricts.andThen (h : v.Restricts names w) {f g : Scope → Walk}
    (hfg : ∀ s t, s.Restricts names t → (f s).Restricts names (g t)) :
    (v.andThen f).Restricts names (w.andThen g) := by
  obtain ⟨v, vout⟩ := v
  obtain ⟨w, wout⟩ := w
  obtain ⟨hfound, hout⟩ := h
  cases hout with
  | refused r => exact ⟨hfound, .refused r⟩
  | @ended s t hst =>
      obtain ⟨hnext, hend⟩ := hfg s t hst
      refine ⟨?_, hend⟩
      change v ++ (f s).found = (w ++ (g t).found).filter _
      rw [List.filter_append, ← hfound, hnext]

end Walk

mutual

theorem Item.walk_restrict : ∀ (i : Item) {s t : Scope}, s.Restricts names t →
    (i.walk s).Restricts names (i.walk t)
  | .reference i, _, _, h => Walk.restricts_note h ⟨.reference, i⟩
  | .shorthand i, _, _, h => Walk.restricts_note h ⟨.shorthand, i⟩
  | .shadow x, _, _, h => Walk.restricts_stay (h.shadow x)
  | .scoped is, _, _, h => (Item.walks_restrict is h).within h
  | .refuse r, _, _, _ => ⟨rfl, .refused r⟩

theorem Item.walks_restrict : ∀ (is : List Item) {s t : Scope}, s.Restricts names t →
    (Item.walks s is).Restricts names (Item.walks t is)
  | [], _, _, h => Walk.restricts_stay h
  | i :: is, _, _, h => (Item.walk_restrict i h).andThen fun _ _ h' => Item.walks_restrict is h'

end

theorem Expr.walk_restrict {more : List String} (h : names ⊆ more) (legacy : Bool) (e : Expr) :
    (e.walk legacy names).Restricts names (e.walk legacy more) :=
  Item.walks_restrict (e.outline legacy) (Scope.restricts_ofNames h)

theorem Mutation.Makes.eq_edit {locals : String} {m : Mutation} {e : Edit} (h : m.Makes locals e) :
    e = m.edit locals := by
  obtain ⟨start, stop, text⟩ := e
  obtain ⟨hstart, hstop, htext⟩ := h
  simp only at hstart hstop htext
  simp only [Mutation.edit, ← hstart, ← hstop, htext, Int.toNat_natCast]

theorem Draft.reroute_eq_edits {locals : String} {d d' : Draft} {ms : List Mutation}
    (h : d.reroute locals ms = .ok d') :
    d' = { d with edits := d.edits ++ ms.map (Mutation.edit locals) } := by
  obtain ⟨es, hes, rfl⟩ := Draft.reroute_eq_ok h
  have heq : ms.map (Mutation.edit locals) = es := by
    rw [← List.forall₂_eq_eq_eq, List.forall₂_map_left_iff]
    exact hes.imp fun _ _ hm => hm.eq_edit.symm
  rw [heq]

/-- The occurrences in an expression have places of their own, where a draft has room for an edit. -/
structure Expr.Spaced (legacy : Bool) (e : Expr) (d : Draft) : Prop where
  admits : ∀ path u, (Phrase.expr e).useAt legacy path = some u → d.Admits u.mutation.name.span
  apart : ∀ path path' u u', (Phrase.expr e).useAt legacy path = some u →
    (Phrase.expr e).useAt legacy path' = some u' → path ≠ path' →
    u.mutation.name.span.Apart u'.mutation.name.span

namespace Expr.Spaced

variable {legacy : Bool} {e : Expr} {d : Draft}

theorem pairwise (h : e.Spaced legacy d) :
    (idents (e.outline legacy)).Pairwise fun i j => i.span.Apart j.span := by
  obtain ⟨paths, hnodup, _, hmap⟩ := Expr.lists legacy e
  have hpaths : (paths.map ((Phrase.expr e).useAt legacy)).Pairwise fun a b =>
      ∀ u u', a = some u → b = some u' →
        u.mutation.name.span.Apart u'.mutation.name.span := by
    refine List.pairwise_map.mpr (hnodup.imp ?_)
    intro path path' hne u u' hu hu'
    exact h.apart path path' u u' hu hu' hne
  rw [hmap] at hpaths
  refine List.pairwise_map.mpr ((List.pairwise_map.mp hpaths).imp ?_)
  intro u u' hapart
  exact hapart u u' rfl rfl

theorem reroute (h : e.Spaced legacy d) (locals : String) (names : List String) :
    ∃ d', d.reroute locals (e.walk legacy names).found = .ok d' := by
  have hsublist := Expr.found_sublist legacy names e
  refine Draft.reroute_of_admits locals ?_ (h.pairwise.sublist hsublist)
  intro m hm
  have hmem := hsublist.subset (List.mem_map_of_mem hm)
  obtain ⟨u, hu, hname⟩ := List.mem_map.mp hmem
  obtain ⟨path, hpath⟩ := (Expr.lists legacy e).exists_path hu
  rw [← hname]
  exact h.admits path u hpath

theorem reroute_eq {rules : Rules} (h : e.Spaced rules.legacy d) (names : List String) :
    e.reroute rules names d =
      match (e.walk rules.legacy names).outcome with
      | .error r => .error (.refused r)
      | .ok _ =>
          .ok ({ d with edits := d.edits ++
              (e.walk rules.legacy names).found.map (Mutation.edit rules.locals) },
            (e.walk rules.legacy names).found) := by
  obtain ⟨d', hd'⟩ := h.reroute rules.locals names
  have hedits := Draft.reroute_eq_edits hd'
  cases hw : (e.walk rules.legacy names).outcome with
  | error r => simp [Expr.reroute, hd', hw]
  | ok s => simp [Expr.reroute, hd', hw, hedits]

end Expr.Spaced

/-- Fewer names are rerouted as they are among more: a rerouting fails with the same error, or it
makes those edits, in the same order, that are for its own names. -/
theorem Expr.reroute_restrict {rules : Rules} {names more : List String} {e : Expr} {d : Draft}
    (hsub : names ⊆ more) (hspaced : e.Spaced rules.legacy d) :
    (∀ stop, e.reroute rules names d = .error stop ↔ e.reroute rules more d = .error stop) ∧
    ∀ d₂ found, e.reroute rules more d = .ok (d₂, found) →
      d₂ = { d with edits := d.edits ++ found.map (Mutation.edit rules.locals) } ∧
      e.reroute rules names d =
        .ok ({ d with edits := d.edits ++
            (found.filter (Mutation.isOf names)).map (Mutation.edit rules.locals) },
          found.filter (Mutation.isOf names)) := by
  rw [hspaced.reroute_eq, hspaced.reroute_eq]
  obtain ⟨hfound, hout⟩ := Expr.walk_restrict hsub rules.legacy e
  rw [hfound]
  generalize (e.walk rules.legacy names).outcome = out at hout
  generalize (e.walk rules.legacy more).outcome = out' at hout
  cases hout with
  | refused r =>
      refine ⟨fun _ => Iff.rfl, ?_⟩
      intro d₂ found h
      cases h
  | ended _ =>
      refine ⟨?_, ?_⟩
      · intro stop
        constructor <;> intro h <;> cases h
      · intro d₂ found h
        cases h
        exact ⟨rfl, rfl⟩

theorem Draft.admits_ofText {code : Text} {sp : Span} (hstart : 0 ≤ sp.start)
    (hne : sp.start < sp.stop) (hstop : sp.stop ≤ code.length) : (ofText code).Admits sp := by
  obtain ⟨a, ha⟩ := Int.eq_ofNat_of_zero_le hstart
  obtain ⟨b, hb⟩ := Int.eq_ofNat_of_zero_le (show 0 ≤ sp.stop by omega)
  refine ⟨a, b, ha, hb, by omega, by simp only [ofText]; omega, ?_⟩
  intro text f hf
  cases hf

theorem Expr.spaced_of_pairwise {legacy : Bool} {e : Expr} {d : Draft}
    (hadmits : ∀ i ∈ idents (e.outline legacy), d.Admits i.span)
    (hapart : (idents (e.outline legacy)).Pairwise fun i j => i.span.Apart j.span) :
    e.Spaced legacy d := by
  constructor
  · intro path u hu
    exact hadmits _ (List.mem_map_of_mem ((Expr.lists legacy e).mem_of_useAt hu))
  · obtain ⟨paths, _, hcomplete, hmap⟩ := Expr.lists legacy e
    have hpaths : paths.Pairwise fun path path' => ∀ u u',
        (Phrase.expr e).useAt legacy path = some u → (Phrase.expr e).useAt legacy path' = some u' →
          u.mutation.name.span.Apart u'.mutation.name.span := by
      have huses : (paths.map ((Phrase.expr e).useAt legacy)).Pairwise fun a b => ∀ u u',
          a = some u → b = some u' → u.mutation.name.span.Apart u'.mutation.name.span := by
        rw [hmap]
        refine List.pairwise_map.mpr ((List.pairwise_map.mp hapart).imp ?_)
        rintro u u' h _ _ ⟨⟩ ⟨⟩
        exact h
      exact List.pairwise_map.mp huses
    intro path path' u u' hu hu' hne
    have hsymm : Std.Symm fun path path' => ∀ u u',
        (Phrase.expr e).useAt legacy path = some u → (Phrase.expr e).useAt legacy path' = some u' →
          u.mutation.name.span.Apart u'.mutation.name.span :=
      ⟨fun _ _ h u u' hu hu' => (h u' u hu' hu).symm⟩
    exact hpaths.forall (hcomplete path u hu) (hcomplete path' u' hu') hne u u' hu hu'

theorem arrowCall_spaced : arrowCall.Spaced false (.ofText "f(x, x => x)".toList) := by
  refine Expr.spaced_of_pairwise ?_ ?_
  · have hplaced : ∀ i ∈ idents (arrowCall.outline false),
        0 ≤ i.span.start ∧ i.span.start < i.span.stop ∧ i.span.stop ≤ 12 := by decide
    intro i hi
    obtain ⟨hstart, hne, hstop⟩ := hplaced i hi
    exact Draft.admits_ofText hstart hne hstop
  · unfold Span.Apart
    decide

theorem arrowCall_reroute_restrict :
    ["x"] ⊆ ["f", "x"] ∧ arrowCall.Spaced false (.ofText "f(x, x => x)".toList) ∧
      ∃ d₂ found, arrowCall.reroute ⟨"locals", false⟩ ["f", "x"] (.ofText "f(x, x => x)".toList) =
        .ok (d₂, found) ∧ found.map (fun m => m.name.name) = ["f", "x"] ∧
      ∃ d₁, arrowCall.reroute ⟨"locals", false⟩ ["x"] (.ofText "f(x, x => x)".toList) =
        .ok (d₁, found.filter (Mutation.isOf ["x"])) := by
  have hsub : ["x"] ⊆ ["f", "x"] := by simp
  refine ⟨hsub, arrowCall_spaced, ⟨"f(x, x => x)".toList, [⟨0, 1, "(locals.f)".toList⟩,
    ⟨2, 3, "(locals.x)".toList⟩], []⟩, [⟨.reference, ⟨⟨0, 1, 1, 0⟩, "f"⟩⟩,
    ⟨.reference, ⟨⟨2, 3, 1, 2⟩, "x"⟩⟩], by decide, by decide, ?_⟩
  have hrestrict := (@Expr.reroute_restrict ⟨"locals", false⟩ _ _ _ _ hsub arrowCall_spaced).2 _ _
    (show arrowCall.reroute ⟨"locals", false⟩ ["f", "x"] (.ofText "f(x, x => x)".toList) =
      .ok (⟨"f(x, x => x)".toList, [⟨0, 1, "(locals.f)".toList⟩, ⟨2, 3, "(locals.x)".toList⟩], []⟩,
        [⟨.reference, ⟨⟨0, 1, 1, 0⟩, "f"⟩⟩, ⟨.reference, ⟨⟨2, 3, 1, 2⟩, "x"⟩⟩]) by decide)
  exact ⟨_, hrestrict.2⟩

end ScriptSplit
