import ScriptSplit.Proofs.Occurrence
import ScriptSplit.Proofs.Replay

/-!
The edits of a split never clash, as long as the nodes of the tree do not overlap and the identifiers
in it are not empty.
-/

namespace ScriptSplit

open Item (allUses idents)

/-- A place where an edit that is not empty may be scheduled. -/
def Draft.Admits (d : Draft) (sp : Span) : Prop :=
  ∃ a b : Nat, sp.start = a ∧ sp.stop = b ∧ a < b ∧ b ≤ d.source.length ∧
    ∀ text, ∀ f ∈ d.edits, (Edit.mk a b text).Compatible f

namespace Draft

theorem Admits.replace {d : Draft} {sp : Span} (h : d.Admits sp) (text : Text) :
    ∃ d', d.replace sp.start sp.stop text = .ok d' := by
  obtain ⟨a, b, ha, hb, hab, hlen, hfree⟩ := h
  exact ⟨_, replace_eq_ok.mpr ⟨a, b, ha, hb, Nat.le_of_lt hab, hlen, hfree text, rfl⟩⟩

theorem Admits.of_replace {d d' : Draft} {sp sp' : Span} {text : Text} (h' : d.Admits sp')
    (hapart : sp.Apart sp') (hne : sp.start < sp.stop)
    (hreplace : d.replace sp.start sp.stop text = .ok d') : d'.Admits sp' := by
  obtain ⟨a, b, ha, hb, hab, hlen, _, rfl⟩ := replace_eq_ok.mp hreplace
  obtain ⟨a', b', ha', hb', hab', hlen', hfree⟩ := h'
  refine ⟨a', b', ha', hb', hab', hlen', ?_⟩
  intro text' f hf
  rcases List.mem_append.mp hf with hf | hf
  · exact hfree text' f hf
  · obtain rfl := List.mem_singleton.mp hf
    rw [Edit.compatible_iff, Edit.clashes_iff]
    unfold Span.Apart at hapart
    simp only
    omega

theorem reroute_of_admits (locals : String) {d : Draft} {ms : List Mutation}
    (hadmits : ∀ m ∈ ms, d.Admits m.name.span)
    (hapart : (ms.map Mutation.name).Pairwise fun i j => i.span.Apart j.span) :
    ∃ d', d.reroute locals ms = .ok d' := by
  induction ms generalizing d with
  | nil => exact ⟨d, rfl⟩
  | cons m ms ih =>
      obtain ⟨hm, hms⟩ := List.pairwise_cons.mp hapart
      have hfirst := hadmits m List.mem_cons_self
      obtain ⟨d₁, hd₁⟩ := hfirst.replace (m.after locals).toList
      have hne : m.name.span.start < m.name.span.stop := by
        obtain ⟨a, b, ha, hb, hab, _⟩ := hfirst
        omega
      obtain ⟨d', hd'⟩ := ih (fun m' hm' => (hadmits m' (List.mem_cons_of_mem _ hm')).of_replace
        (hm m'.name (List.mem_map_of_mem hm')) hne hd₁) hms
      exact ⟨d', reroute_cons_eq_ok.mpr ⟨d₁, hd₁, hd'⟩⟩

theorem mem_cut {c₀ c₁ n : Nat} (hlen : c₁ ≤ n) {f : Edit} (hf : f ∈ deletion 0 c₀ ++ deletion c₁ n) :
    f.start < f.stop ∧ (f.stop ≤ c₀ ∨ c₁ ≤ f.start) := by
  simp only [List.mem_append, mem_deletion] at hf
  rcases hf with ⟨_, rfl⟩ | ⟨_, rfl⟩ <;> simp only <;> omega

theorem admits_cut {code : Text} {c₀ c₁ : Nat} {sp : Span} (hlen : c₁ ≤ code.length)
    (hstart : c₀ ≤ sp.start) (hne : sp.start < sp.stop) (hstop : sp.stop ≤ c₁) :
    (Draft.mk code (deletion 0 c₀ ++ deletion c₁ code.length) []).Admits sp := by
  obtain ⟨a, ha⟩ := Int.eq_ofNat_of_zero_le (show 0 ≤ sp.start by omega)
  obtain ⟨b, hb⟩ := Int.eq_ofNat_of_zero_le (show 0 ≤ sp.stop by omega)
  refine ⟨a, b, ha, hb, by omega, by simp only; omega, ?_⟩
  intro text f hf
  have := mem_cut hlen hf
  rw [Edit.compatible_iff, Edit.clashes_iff]
  simp only
  omega

theorem wrapMain_of_inside {d : Draft} {c₀ a₀ a₁ c₁ : Nat} (locals : String) (hstart : c₀ ≤ a₀)
    (horder : a₀ ≤ a₁) (hstop : a₁ ≤ c₁) (hlen : c₁ ≤ d.source.length)
    (hd : ∀ f ∈ d.edits, f.start < f.stop ∧
      (f.stop ≤ c₀ ∨ c₁ ≤ f.start ∨ a₀ ≤ f.start ∧ f.stop ≤ a₁)) :
    ∃ d', d.wrapMain locals c₀ c₁ a₀ a₁ = .ok d' := by
  have hheader : ∀ f ∈ d.edits, (Edit.mk c₀ a₀ (mainHeader locals).toList).Compatible f := by
    intro f hf
    have := hd f hf
    rw [Edit.compatible_iff, Edit.clashes_iff]
    simp only
    omega
  refine ⟨_, bind_eq_ok.mpr ⟨_, replace_eq_ok.mpr ⟨c₀, a₀, rfl, rfl, hstart, by omega, hheader, rfl⟩,
    (remove_eq_ok hstop (by exact hlen)).mpr ⟨?_, rfl⟩⟩⟩
  intro e he f hf
  obtain ⟨hne, rfl⟩ := mem_deletion.mp he
  rw [Edit.compatible_iff, Edit.clashes_iff]
  rcases List.mem_append.mp hf with hf | hf
  · have := hd f hf
    simp only
    omega
  · obtain rfl := List.mem_singleton.mp hf
    simp only
    omega

theorem wrapMain_of_draws {code : Text} {call arg : Span} {ms : List Mutation} (locals : String)
    (hcall : call.Inside code.span) (harg : arg.Inside call)
    (hdraws : code.Draws arg (ms.map Mutation.name))
    (hne : ∀ m ∈ ms, m.name.span.start < m.name.span.stop) :
    ∃ d d₁ d', cutAround code call = .ok d ∧ d.reroute locals ms = .ok d₁ ∧
      d₁.wrapMain locals call.start call.stop arg.start arg.stop = .ok d' := by
  obtain ⟨c₀, c₁, hc₀, hc₁, hc, hlen⟩ := hcall.exists_nat
  obtain ⟨a₀, a₁, ha₀, ha₁, horder, _⟩ := (harg.trans hcall).exists_nat
  have hstart := harg.start
  have hstop := harg.stop
  have hdrawn : ∀ m ∈ ms, m.name.span.Inside arg :=
    fun m hm => (hdraws.drawn m.name (List.mem_map_of_mem hm)).inside
  have hadmits : ∀ m ∈ ms,
      (Draft.mk code (deletion 0 c₀ ++ deletion c₁ code.length) []).Admits m.name.span := by
    intro m hm
    have hinside := (hdrawn m hm).trans harg
    exact admits_cut hlen (hc₀ ▸ hinside.start) (hne m hm) (hc₁ ▸ hinside.stop)
  obtain ⟨d₁, hreroute⟩ := reroute_of_admits locals hadmits hdraws.apart
  obtain ⟨es, hes, rfl⟩ := reroute_eq_ok hreroute
  have hedits : ∀ f ∈ deletion 0 c₀ ++ deletion c₁ code.length ++ es, f.start < f.stop ∧
      (f.stop ≤ c₀ ∨ c₁ ≤ f.start ∨ a₀ ≤ f.start ∧ f.stop ≤ a₁) := by
    intro f hf
    rcases List.mem_append.mp hf with hf | hf
    · have := mem_cut hlen hf
      omega
    · obtain ⟨m, hm, hmakes⟩ := forall₂_exists_left hes hf
      have := hmakes.inside (hdrawn m hm)
      have := hne m hm
      have := hmakes.start
      have := hmakes.stop
      omega
  obtain ⟨d', hwrap⟩ := wrapMain_of_inside (d := ⟨code, _, []⟩) locals (show c₀ ≤ a₀ by omega) horder
    (show a₁ ≤ c₁ by omega) hlen hedits
  refine ⟨_, _, d', cutAround_eq hc₀ hc₁ hc hlen, hreroute, ?_⟩
  rw [hc₀, hc₁, ha₀, ha₁]
  exact hwrap

end Draft

theorem exists_path_of_argument {legacy : Bool} {s c : Span} {f : Expr} {as : List Expr} {o : Bool} {a : Expr}
    (ha : a ∈ as) {i : Ident} (hi : i ∈ idents (a.outline legacy)) :
    ∃ path u, (Phrase.stmt (.expr s (.call c f as o))).useAt legacy path = some u ∧
      u.mutation.name = i := by
  have hmem : i ∈ idents ((Stmt.expr s (.call c f as o)).outline legacy) := by
    rw [Stmt.outline, Expr.outline, Item.idents_append, Expr.idents_outlines]
    exact List.mem_append_right _ (List.mem_flatMap.mpr ⟨a, ha, hi⟩)
  obtain ⟨u, hu, rfl⟩ := List.mem_map.mp hmem
  obtain ⟨path, hpath⟩ := (Stmt.lists legacy (.expr s (.call c f as o))).exists_path hu
  exact ⟨path, u, hpath, rfl⟩

theorem found_nonempty {legacy : Bool} {entry : String} {p : Program} {k : Nat} {c : EntryCall} {a : Expr}
    (hidents : ∀ x ∈ p.body, ∀ path u, (Phrase.stmt x).useAt legacy path = some u →
      u.mutation.name.span.start < u.mutation.name.span.stop)
    (hfind : findEntry entry p.body = some (k, c)) (ha : a ∈ c.arguments) (names : List String) :
    ∀ m ∈ (a.walk legacy names).found, m.name.span.start < m.name.span.stop := by
  intro m hm
  obtain ⟨x, hx, hentry⟩ := findEntry_eq_some hfind
  obtain ⟨callee, optional, rfl⟩ := Stmt.entryCall?_eq_some hentry
  have hmem := (Expr.found_sublist legacy names a).subset (List.mem_map_of_mem hm)
  obtain ⟨path, u, hu, hname⟩ := exists_path_of_argument ha hmem
  rw [← hname]
  exact hidents _ (List.mem_of_getElem? hx) path u hu

def Refusable {α : Type} (x : Except Stop α) : Prop := ∀ s, x = .error s → ∃ r, s = .refused r

section

variable {α β : Type}

theorem refusable_of_ok {x : Except Stop α} {a : α} (h : x = .ok a) : Refusable x := by
  intro s hs
  rw [h] at hs
  cases hs

theorem refusable_refused (x : Except Refusal α) : Refusable (x.mapError .refused) := by
  intro s hs
  cases x with
  | ok a => cases hs
  | error r => exact ⟨r, (Except.error.inj hs).symm⟩

theorem Refusable.bind {x : Except Stop α} {f : α → Except Stop β} (hx : Refusable x)
    (hf : ∀ a, x = .ok a → Refusable (f a)) : Refusable (x >>= f) := by
  intro s hs
  rcases bind_eq_error.mp hs with hs | ⟨a, ha, hs⟩
  · exact hx s hs
  · exact hf a ha s hs

end

theorem Extraction.refusable (x : Extraction) : Refusable x.result := by
  intro s hs
  unfold Extraction.result at hs
  split at hs
  · rename_i r _
    exact ⟨r, (Except.error.inj hs).symm⟩
  · cases hs

theorem Program.refusable_locate {entry : String} {code : Text} {p : Program}
    (hplaced : ∀ k c, findEntry entry p.body = some (k, c) → c.Placed code) :
    Refusable (p.locate entry code) := by
  unfold Program.locate
  split
  · intro s hs
    exact ⟨_, (Except.error.inj hs).symm⟩
  · rename_i k c hfind
    have hc := hplaced k c hfind
    obtain ⟨a, b, ha, hb, hab, hlen⟩ := hc.statement.exists_nat
    obtain ⟨a', b', ha', hb', hab', hlen'⟩ := (hc.call.trans hc.statement).exists_nat
    refine (refusable_refused _).bind fun argument _ => ?_
    have hlocals := (Draft.remove_eq_ok (d := Draft.ofText code) hab hlen).mpr ⟨by simp [Draft.ofText], rfl⟩
    rw [ha, hb, hlocals, cutAround_eq ha' hb' hab' hlen']
    exact refusable_of_ok rfl

theorem refusable_finish {o : Options} {e : EntryPoint} {bs : List Binding} {d₁ d' : Draft}
    (hreroute : e.mainDraft.reroute o.localsName (e.argument.walk o.legacy (bs.map Binding.name)).found =
      .ok d₁)
    (hwrap : d₁.wrapMain o.localsName e.call.start e.call.stop e.argument.span.start
      e.argument.span.stop = .ok d') : Refusable (finish o e bs) := by
  have hwalk : Refusable (e.argument.reroute o.rules (bs.map Binding.name) e.mainDraft) := by
    intro s hs
    unfold Expr.reroute at hs
    simp only [Options.rules, hreroute] at hs
    split at hs
    · exact ⟨_, (Except.error.inj hs).symm⟩
    · cases hs
  refine hwalk.bind ?_
  rintro ⟨d, found⟩ hd
  obtain ⟨_, rfl, hd⟩ := Expr.reroute_eq_ok hd
  obtain rfl : d₁ = d := Except.ok.inj (hreroute.symm.trans hd)
  simp only [synthesize, hwrap]
  exact refusable_of_ok rfl

/-- No clash of edits comes out of a split, whatever the options: it comes to an end or to a
refusal. -/
theorem split_ok_or_refused {o : Options} {code : Text} {t : Tree} {p : Program}
    (hnested : t.Nested code) (hapart : t.Apart) (hread : readScript code t = .ok p)
    (hidents : ∀ x ∈ p.body, ∀ path u, (Phrase.stmt x).useAt o.legacy path = some u →
      u.mutation.name.span.start < u.mutation.name.span.stop) :
    (∃ m, split o code t = .ok m) ∨ ∃ r, split o code t = .error (.refused r) := by
  have hplaced : ∀ k c, findEntry o.entryName p.body = some (k, c) → c.Placed code :=
    fun k c hfind => EntryCall.placed hnested hread hfind
  have hsplit : Refusable (split o code t) := by
    rw [split_eq]
    refine Refusable.bind ?_ ?_
    · refine (refusable_of_ok hread).bind fun p' hp' => ?_
      obtain rfl : p = p' := Except.ok.inj (hread.symm.trans hp')
      refine (Program.refusable_locate hplaced).bind fun e _ => ?_
      exact (Extraction.refusable _).bind fun bs _ => refusable_of_ok rfl
    · rintro ⟨e, bs⟩ hprepare
      obtain ⟨p', hread', hlocate, _⟩ := prepare_eq_ok hprepare
      obtain rfl : p = p' := Except.ok.inj (hread.symm.trans hread')
      obtain ⟨c, hfind, hargument, hcall, _, _, hcut⟩ := Program.locate_eq_ok hlocate
      have hc := hplaced _ c hfind
      have hmem := EntryCall.argument_mem hargument
      have hdraws := (EntryCall.argument_draws hnested hapart hread hfind hmem o.legacy).sublist
        (Expr.found_sublist o.legacy (bs.map Binding.name) e.argument)
      have hne := found_nonempty hidents hfind hmem (bs.map Binding.name)
      obtain ⟨d, d₁, d', hcut', hreroute, hwrap⟩ := Draft.wrapMain_of_draws o.localsName
        (hc.call.trans hc.statement) (hc.arguments _ hmem) hdraws hne
      obtain rfl : e.mainDraft = d := Except.ok.inj (hcut.symm.trans hcut')
      rw [← hcall] at hwrap
      exact refusable_finish hreroute hwrap
  cases h : split o code t with
  | ok m => exact .inl ⟨m, rfl⟩
  | error s =>
      obtain ⟨r, rfl⟩ := hsplit s h
      exact .inr ⟨r, rfl⟩

theorem Sample.read_tree : ∃ p, readScript code tree = .ok p ∧ ∀ x ∈ p.body, ∀ path u,
    (Phrase.stmt x).useAt options.legacy path = some u →
      u.mutation.name.span.start < u.mutation.name.span.stop := by
  have h : ((readScript code tree).toOption.map fun p => decide (∀ x ∈ p.body,
      ∀ i ∈ idents (x.outline options.legacy), i.span.start < i.span.stop)) = some true := by
    decide +kernel
  cases hp : readScript code tree with
  | error s => simp [hp, Except.toOption] at h
  | ok p =>
      simp only [hp, Except.toOption, Option.map_some, Option.some.injEq, decide_eq_true_eq] at h
      refine ⟨p, rfl, ?_⟩
      intro x hx path u hu
      have hmem := (Stmt.lists options.legacy x).mem_of_useAt hu
      exact h x hx _ (List.mem_map_of_mem hmem)

theorem sample_split_ok_or_refused :
    Sample.tree.Nested Sample.code ∧ Sample.tree.Apart ∧
    ∃ p, readScript Sample.code Sample.tree = .ok p ∧
      (∀ x ∈ p.body, ∀ path u, (Phrase.stmt x).useAt Sample.options.legacy path = some u →
        u.mutation.name.span.start < u.mutation.name.span.stop) ∧
      ((∃ m, split Sample.options Sample.code Sample.tree = .ok m) ∨
        ∃ r, split Sample.options Sample.code Sample.tree = .error (.refused r)) := by
  obtain ⟨p, hread, hidents⟩ := Sample.read_tree
  exact ⟨Sample.nested_tree, Sample.apart_tree, p, hread, hidents,
    split_ok_or_refused Sample.nested_tree Sample.apart_tree hread hidents⟩

end ScriptSplit
