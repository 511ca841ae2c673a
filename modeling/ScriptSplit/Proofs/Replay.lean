import ScriptSplit.Proofs.Entry
import ScriptSplit.Proofs.Run

namespace ScriptSplit

namespace Patch

def stop (p : Patch) : Int := p.offset + p.before.length

end Patch

def splice (code : Text) (a b : Int) : List Patch → Text
  | [] => code.slice a b
  | p :: ps => code.slice a p.offset ++ p.after ++ splice code p.stop b ps

/-- Patches of different parts of a span, each of which holds what its patch replaces, and the text
that they make of the span. -/
structure Replays (code : Text) (sp : Span) (ps : List Patch) (out : Text) : Prop where
  inside : ∀ p ∈ ps, sp.start ≤ p.offset ∧ p.stop ≤ sp.stop
  before : ∀ p ∈ ps, code.slice p.offset p.stop = p.before
  disjoint : ps.Pairwise fun p q => p.stop ≤ q.offset ∨ q.stop ≤ p.offset
  text : ∃ qs, qs.Perm ps ∧ qs.Pairwise (fun p q => p.stop ≤ q.offset) ∧
    out = splice code sp.start sp.stop qs

theorem Text.length_between {t : Text} {a b : Nat} (hb : b ≤ t.length) : (t.between a b).length = b - a := by
  simp only [Text.between, List.length_take, List.length_drop]
  omega

theorem Text.slice_natCast {t : Text} {i j : Int} {a b : Nat} (hi : i = a) (hj : j = b)
    (ha : a ≤ t.length) (hb : b ≤ t.length) : t.slice i j = t.between a b := by
  rw [hi, hj, Text.slice_of_le ha hb]

def Edit.patch (code : Text) (e : Edit) : Patch := ⟨e.start, code.between e.start e.stop, e.text⟩

theorem Edit.stop_patch {code : Text} {e : Edit} (h : e.start ≤ e.stop) (hlen : e.stop ≤ code.length) :
    (e.patch code).stop = e.stop := by
  simp only [Patch.stop, Edit.patch, Text.length_between hlen]
  omega

namespace Draft

theorem weave_deletion (s : Text) (a b : Nat) (es : List Edit) :
    weave s a (deletion a b ++ es) = weave s b es := by
  unfold deletion
  split
  · rename_i h
    rw [h, List.nil_append]
  · simp [weave, Text.between_of_le]

theorem weave_cut {s : Text} {cursor a b : Nat} (hab : a ≤ b) (hb : b ≤ s.length) :
    weave s cursor (deletion a b ++ deletion b s.length) = s.between cursor a := by
  have hend : weave s b (deletion b s.length) = [] := by
    have h := weave_deletion s b s.length []
    simpa [weave] using h
  unfold deletion at hend ⊢
  by_cases h : a = b
  · subst h
    by_cases h' : a = s.length
    · rw [if_pos rfl, if_pos h', List.append_nil, weave, Text.between, h']
      exact (List.take_of_length_le (by simp)).symm
    · simp [h', weave]
  · rw [if_neg h]
    simpa [weave] using hend

theorem weave_splice {code : Text} {a b : Nat} (hab : a ≤ b) (hb : b ≤ code.length) {es : List Edit}
    (hes : ∀ e ∈ es, e.start ≤ e.stop ∧ e.stop ≤ a) {cursor : Nat} (hcursor : cursor ≤ a) :
    weave code cursor (es ++ (deletion a b ++ deletion b code.length)) =
      splice code cursor a (es.map (Edit.patch code)) := by
  induction es generalizing cursor with
  | nil =>
      rw [List.nil_append, weave_cut hab hb]
      exact (Text.slice_of_le (by omega) (by omega)).symm
  | cons e es ih =>
      obtain ⟨horder, hstop⟩ := hes e List.mem_cons_self
      have hrest := ih (fun f hf => hes f (List.mem_cons_of_mem _ hf)) hstop
      simp only [List.cons_append, weave, List.map_cons, splice]
      rw [hrest, Edit.stop_patch horder (by omega)]
      congr 2
      exact (Text.slice_of_le (by omega) (show e.start ≤ code.length by omega)).symm

theorem pairwise_deletion {R : Edit → Edit → Prop} (a b : Nat) : (deletion a b).Pairwise R := by
  unfold deletion
  split
  · exact .nil
  · exact List.pairwise_singleton _ _

theorem wrapMain_eq_ok {d d' : Draft} {locals : String} {c₀ c₁ a₀ a₁ : Nat} (hstop : a₁ ≤ c₁)
    (hlen : c₁ ≤ d.source.length) (h : d.wrapMain locals c₀ c₁ a₀ a₁ = .ok d') :
    d' = { d with
      edits := d.edits ++ [⟨c₀, a₀, (mainHeader locals).toList⟩] ++ deletion a₁ c₁ } := by
  obtain ⟨d₁, hreplace, hremove⟩ := bind_eq_ok.mp h
  obtain ⟨a, b, ha, hb, _, _, _, rfl⟩ := replace_eq_ok.mp hreplace
  obtain rfl : c₀ = a := by omega
  obtain rfl : a₀ = b := by omega
  exact ((remove_eq_ok hstop (by exact hlen)).mp hremove).2

theorem Sound.wrapMain {d d' : Draft} {locals : String} {c₀ c₁ a₀ a₁ : Int} (hd : d.Sound)
    (h : d.wrapMain locals c₀ c₁ a₀ a₁ = .ok d') : d'.Sound := by
  obtain ⟨d₁, hreplace, hremove⟩ := bind_eq_ok.mp h
  exact (hd.replace hreplace).remove hremove

section

variable {code : Text} {c₀ a₀ a₁ c₁ : Nat} {es : List Edit} (hstart : c₀ ≤ a₀) (horder : a₀ ≤ a₁)
  (hstop : a₁ ≤ c₁) (hlen : c₁ ≤ code.length)
  (hes : ∀ e ∈ es, a₀ ≤ e.start ∧ e.start ≤ e.stop ∧ e.stop ≤ a₁)

include hstart horder hstop hlen hes

omit hlen in
/-- The edits around an argument from `a₀` to `a₁` of a call from `c₀` to `c₁`, in order. -/
theorem pairwise_frame (header : Text) (n : Nat) (hsorted : es.Pairwise fun e f => e.le f = true) :
    (deletion 0 c₀ ++ ⟨c₀, a₀, header⟩ :: (es ++ (deletion a₁ c₁ ++ deletion c₁ n))).Pairwise
      fun e f => e.le f = true := by
  have htail : ∀ f ∈ deletion a₁ c₁ ++ deletion c₁ n, a₁ ≤ f.start := by
    intro f hf
    simp only [List.mem_append, mem_deletion] at hf
    rcases hf with ⟨_, rfl⟩ | ⟨_, rfl⟩
    · exact Nat.le_refl _
    · exact hstop
  have hrest : ∀ f ∈ es ++ (deletion a₁ c₁ ++ deletion c₁ n), a₀ ≤ f.start := by
    intro f hf
    rcases List.mem_append.mp hf with hf | hf
    · exact (hes f hf).1
    · exact Nat.le_trans horder (htail f hf)
  refine List.pairwise_append.mpr ⟨pairwise_deletion _ _, List.pairwise_cons.mpr
    ⟨fun f hf => Edit.le_of_stop_le hstart (hrest f hf), List.pairwise_append.mpr ⟨hsorted,
      List.pairwise_append.mpr ⟨pairwise_deletion _ _, pairwise_deletion _ _, ?_⟩, ?_⟩⟩, ?_⟩
  · intro e he f hf
    obtain ⟨_, rfl⟩ := mem_deletion.mp he
    obtain ⟨_, rfl⟩ := mem_deletion.mp hf
    exact Edit.le_of_stop_le hstop (Nat.le_refl _)
  · intro e he f hf
    obtain ⟨_, horder, hstop⟩ := hes e he
    exact Edit.le_of_stop_le horder (Nat.le_trans hstop (htail f hf))
  · intro e he f hf
    obtain ⟨_, rfl⟩ := mem_deletion.mp he
    refine Edit.le_of_stop_le (Nat.zero_le _) ?_
    rcases List.mem_cons.mp hf with rfl | hf
    · exact Nat.le_refl _
    · exact Nat.le_trans hstart (hrest f hf)

theorem render_frame (header : Text)
    (hd : Sound ⟨code, deletion 0 c₀ ++ deletion c₁ code.length ++ es ++ [⟨c₀, a₀, header⟩] ++
      deletion a₁ c₁, []⟩) :
    render ⟨code, deletion 0 c₀ ++ deletion c₁ code.length ++ es ++ [⟨c₀, a₀, header⟩] ++
      deletion a₁ c₁, []⟩ =
      header ++ splice code a₀ a₁ ((es.mergeSort Edit.le).map (Edit.patch code)) := by
  have hperm := List.mergeSort_perm es Edit.le
  have hmem : ∀ e ∈ es.mergeSort Edit.le, a₀ ≤ e.start ∧ e.start ≤ e.stop ∧ e.stop ≤ a₁ :=
    fun e he => hes e (hperm.mem_iff.mp he)
  have hsorted := pairwise_frame hstart horder hstop hmem header code.length
    (List.pairwise_mergeSort Edit.le_trans Edit.le_total es)
  -- the header was scheduled last, but it comes before the edits of the argument
  rw [hd.render_eq ?_ hsorted]
  · rw [weave_deletion, weave, weave_splice hstop hlen (fun e he => (hmem e he).2) horder]
    simp [Text.between_of_le]
  · refine List.perm_iff_count.mpr fun e => ?_
    have := hperm.count_eq e
    simp only [List.count_append, List.count_cons, List.count_nil]
    omega

end

end Draft

theorem Mutation.Makes.patch {code : Text} {sp : Span} {locals : String} {m : Mutation} {e : Edit}
    (h : m.Makes locals e) (hdrawn : m.name.Drawn code sp) (hsp : sp.Inside code.span) :
    m.patch locals = e.patch code := by
  have hstart := h.start
  have hstop := h.stop
  have hlen : e.stop ≤ code.length := by
    have := hdrawn.inside.stop
    have : sp.stop ≤ code.length := hsp.stop
    omega
  have horder := hdrawn.inside.order
  have hbefore : m.name.name.toList = code.between e.start e.stop := by
    rw [hdrawn.name, String.toList_ofList,
      Text.slice_natCast hstart.symm hstop.symm (by omega) hlen]
  simp [Mutation.patch, Edit.patch, hstart, hbefore, h.text]

theorem forall₂_makes_patch {code : Text} {sp : Span} {locals : String} {ms : List Mutation}
    {es : List Edit} (h : List.Forall₂ (Mutation.Makes locals) ms es)
    (hdrawn : ∀ m ∈ ms, m.name.Drawn code sp) (hsp : sp.Inside code.span) :
    ms.map (Mutation.patch locals) = es.map (Edit.patch code) := by
  induction h with
  | nil => rfl
  | @cons m e ms es hm _ ih =>
      have hrest := ih fun m' hm' => hdrawn m' (List.mem_cons_of_mem _ hm')
      rw [List.map_cons, List.map_cons, hm.patch (hdrawn m List.mem_cons_self) hsp, hrest]

theorem Mutation.Makes.inside {sp : Span} {locals : String} {m : Mutation} {e : Edit}
    (h : m.Makes locals e) (hsp : m.name.span.Inside sp) :
    sp.start ≤ e.start ∧ e.start ≤ e.stop ∧ e.stop ≤ sp.stop := by
  have := hsp.start
  have := hsp.order
  have := hsp.stop
  have := h.start
  have := h.stop
  omega

theorem Span.Inside.exists_nat {code : Text} {sp : Span} (h : sp.Inside code.span) :
    ∃ a b : Nat, sp.start = a ∧ sp.stop = b ∧ a ≤ b ∧ b ≤ code.length := by
  obtain ⟨hstart, horder, hstop⟩ := h
  simp only [Text.span] at hstart hstop
  obtain ⟨a, ha⟩ := Int.eq_ofNat_of_zero_le hstart
  obtain ⟨b, hb⟩ := Int.eq_ofNat_of_zero_le (Int.le_trans hstart horder)
  exact ⟨a, b, ha, hb, by omega, by omega⟩

theorem Draft.Sound.disjoint {d : Draft} (hd : d.Sound) {es : List Edit} (hes : es.Sublist d.edits) :
    (es.mergeSort Edit.le).Pairwise fun e f => e.stop ≤ f.start := by
  have hperm := List.mergeSort_perm es Edit.le
  have hcompatible : (es.mergeSort Edit.le).Pairwise Edit.Compatible :=
    (hperm.pairwise_iff symm).mpr (hd.compatible.sublist hes)
  refine ((List.pairwise_mergeSort Edit.le_trans Edit.le_total es).and hcompatible).imp_of_mem ?_
  intro e f _ hf h
  have hplaced := hd.placed f (hes.subset (hperm.mem_iff.mp hf))
  exact Edit.stop_le_of_compatible hplaced.1 h.2 h.1

theorem Draft.Sound.replays {d : Draft} (hd : d.Sound) {es : List Edit} (hes : es.Sublist d.edits)
    {sp : Span} (hinside : ∀ e ∈ es, sp.start ≤ e.start ∧ e.stop ≤ sp.stop) :
    Replays d.source sp (es.map (Edit.patch d.source))
      (splice d.source sp.start sp.stop ((es.mergeSort Edit.le).map (Edit.patch d.source))) := by
  have hperm := List.mergeSort_perm es Edit.le
  have hplaced : ∀ e ∈ es, e.start ≤ e.stop ∧ e.stop ≤ d.source.length :=
    fun e he => hd.placed e (hes.subset he)
  have hstop : ∀ e ∈ es, (e.patch d.source).stop = e.stop :=
    fun e he => Edit.stop_patch (hplaced e he).1 (hplaced e he).2
  have hsorted : ((es.mergeSort Edit.le).map (Edit.patch d.source)).Pairwise
      fun p q => p.stop ≤ q.offset := by
    rw [List.pairwise_map]
    refine (hd.disjoint hes).imp_of_mem ?_
    intro e f he _ hef
    rw [hstop e (hperm.mem_iff.mp he)]
    exact Int.ofNat_le.mpr hef
  have hpatches := hperm.map (Edit.patch d.source)
  refine ⟨?_, ?_, ?_, _, hpatches, hsorted, rfl⟩
  · intro p hp
    obtain ⟨e, he, rfl⟩ := List.mem_map.mp hp
    rw [hstop e he]
    exact hinside e he
  · intro p hp
    obtain ⟨e, he, rfl⟩ := List.mem_map.mp hp
    have := hplaced e he
    exact Text.slice_natCast rfl (hstop e he) (by omega) this.2
  · have hsymm : ∀ {p q : Patch}, p.stop ≤ q.offset ∨ q.stop ≤ p.offset →
        q.stop ≤ p.offset ∨ p.stop ≤ q.offset := Or.symm
    exact (hpatches.pairwise_iff hsymm).mp (hsorted.imp .inl)

theorem Draft.render_wrapMain {code : Text} {locals : String} {call arg : Span} {d d₁ d' : Draft}
    {ms : List Mutation} (hcall : call.Inside code.span) (harg : arg.Inside call)
    (hinside : ∀ m ∈ ms, m.name.span.Inside arg) (hcut : cutAround code call = .ok d)
    (hreroute : d.reroute locals ms = .ok d₁)
    (hwrap : d₁.wrapMain locals call.start call.stop arg.start arg.stop = .ok d') :
    ∃ es, List.Forall₂ (Mutation.Makes locals) ms es ∧ d'.source = code ∧ es.Sublist d'.edits ∧
      d'.render = (mainHeader locals).toList ++
        splice code arg.start arg.stop ((es.mergeSort Edit.le).map (Edit.patch code)) := by
  obtain ⟨c₀, c₁, hc₀, hc₁, hc, hlen⟩ := hcall.exists_nat
  obtain ⟨a₀, a₁, ha₀, ha₁, horder, _⟩ := (harg.trans hcall).exists_nat
  have hsound := ((sound_cutAround hcut).reroute hreroute).wrapMain hwrap
  obtain ⟨es, hmakes, rfl⟩ := reroute_eq_ok hreroute
  have hstart : c₀ ≤ a₀ := by
    have := harg.start
    omega
  have hstop : a₁ ≤ c₁ := by
    have := harg.stop
    omega
  have hes : ∀ f ∈ es, a₀ ≤ f.start ∧ f.start ≤ f.stop ∧ f.stop ≤ a₁ := by
    intro f hf
    obtain ⟨m, hm, hmakes⟩ := forall₂_exists_left hmakes hf
    have := hmakes.inside (hinside m hm)
    omega
  rw [cutAround_eq hc₀ hc₁ hc hlen] at hcut
  cases hcut
  rw [hc₀, hc₁, ha₀, ha₁] at hwrap
  obtain rfl := wrapMain_eq_ok hstop hlen hwrap
  have hsub : es.Sublist (deletion 0 c₀ ++ deletion c₁ code.length ++ es ++
      [⟨c₀, a₀, (mainHeader locals).toList⟩] ++ deletion a₁ c₁) :=
    (List.sublist_append_right _ es).trans
      ((List.sublist_append_left _ _).trans (List.sublist_append_left _ _))
  refine ⟨es, hmakes, rfl, hsub, ?_⟩
  rw [ha₀, ha₁]
  exact render_frame hstart horder hstop hlen hes _ hsound

theorem Draft.wrapMain_replays {code : Text} {locals : String} {call arg : Span} {d d₁ d' : Draft}
    {ms : List Mutation} (hcall : call.Inside code.span) (harg : arg.Inside call)
    (hdraws : code.Draws arg (ms.map Mutation.name)) (hcut : cutAround code call = .ok d)
    (hreroute : d.reroute locals ms = .ok d₁)
    (hwrap : d₁.wrapMain locals call.start call.stop arg.start arg.stop = .ok d') :
    ∃ body, d'.render = (mainHeader locals).toList ++ body ∧
      Replays code arg (ms.map (Mutation.patch locals)) body := by
  have hdrawn : ∀ m ∈ ms, m.name.Drawn code arg :=
    fun m hm => hdraws.drawn m.name (List.mem_map_of_mem hm)
  have hsound := ((sound_cutAround hcut).reroute hreroute).wrapMain hwrap
  obtain ⟨es, hes, rfl, hsub, hrender⟩ := render_wrapMain hcall harg (fun m hm => (hdrawn m hm).inside)
    hcut hreroute hwrap
  have hedits : ∀ f ∈ es, arg.start ≤ f.start ∧ f.stop ≤ arg.stop := by
    intro f hf
    obtain ⟨m, hm, hmakes⟩ := forall₂_exists_left hes hf
    have := hmakes.inside (hdrawn m hm).inside
    omega
  rw [forall₂_makes_patch hes hdrawn (harg.trans hcall)]
  exact ⟨_, hrender, hsound.replays hsub hedits⟩

theorem Replays.nil {code : Text} {sp : Span} {out : Text} (h : Replays code sp [] out) :
    out = code.slice sp.start sp.stop := by
  obtain ⟨qs, hperm, _, rfl⟩ := h.text
  rw [hperm.eq_nil]
  rfl

/-- The main module is the header and the text of the entry argument, in which the mutations of the
trace replace what they name; without one, the text is the argument's own. -/
theorem mainText_replays_trace {o : Options} {code : Text} {t : Tree} {m : Modules}
    (hnested : t.Nested code) (hapart : t.Apart) (h : (trySplit o code t).result = .ok m) :
    ∃ p k c a body, readScript code t = .ok p ∧ findEntry o.entryName p.body = some (k, c) ∧
      c.argument o.entryName = .ok a ∧ a.span.Inside code.span ∧
      m.mainText = ("export default (" ++ o.localsName ++ ") => ").toList ++ body ∧
      Replays code a.span (trySplit o code t).trace.patches body ∧
      ((trySplit o code t).trace.patches = [] → body = code.slice a.span.start a.span.stop) := by
  obtain ⟨e, bs, hprepare, hfinish⟩ := split_eq_ok h
  obtain ⟨p, hread, hlocate, _⟩ := prepare_eq_ok hprepare
  obtain ⟨c, hfind, hargument, hcall, _, _, hcut⟩ := Program.locate_eq_ok hlocate
  obtain ⟨d, d', found, hreroute, hwrap, rfl⟩ := finish_eq_ok hfinish
  obtain ⟨_, rfl, hreroute⟩ := Expr.reroute_eq_ok hreroute
  have hmem := EntryCall.argument_mem hargument
  have hplaced := EntryCall.placed hnested hread hfind
  have hin := hplaced.call.trans hplaced.statement
  have hdraws := (EntryCall.argument_draws hnested hapart hread hfind hmem o.legacy).sublist
    (Expr.found_sublist o.legacy (bs.map Binding.name) e.argument)
  rw [hcall] at hwrap
  obtain ⟨body, hbody, hreplays⟩ := Draft.wrapMain_replays hin (hplaced.arguments _ hmem) hdraws hcut
    hreroute hwrap
  have hreplays : Replays code e.argument.span (trySplit o code t).trace.patches body := by
    rw [patches_trySplit hprepare]
    exact hreplays
  refine ⟨p, e.index, c, e.argument, body, hread, hfind, hargument,
    (hplaced.arguments _ hmem).trans hin, hbody, hreplays, ?_⟩
  intro hnone
  rw [hnone] at hreplays
  exact hreplays.nil

namespace Sample

def node (kind field : String) (start stop : Nat) (children : List Tree) : Tree :=
  .node ⟨kind, true, false, false, field, start, stop, 0, start⟩ children

def token (kind field : String) (start stop : Nat) : Tree :=
  .node ⟨kind, false, false, false, field, start, stop, 0, start⟩ []

def code : Text := "let a; app(a)".toList

def tree : Tree :=
  node "program" "" 0 13
    [node "lexical_declaration" "" 0 6
      [token "let" "kind" 0 3, node "variable_declarator" "" 4 5 [node "identifier" "name" 4 5 []]],
    node "expression_statement" "" 7 13
      [node "call_expression" "" 7 13
        [node "identifier" "function" 7 10 [],
        node "arguments" "arguments" 10 13 [node "identifier" "" 11 12 []]]]]

def options : Options := ⟨"locals", "app", .typescript, false⟩

theorem split_bindings {o : Options} {code : Text} {t : Tree} {bs : List Binding}
    (h : (split o code t).toOption.map Modules.bindings = some bs) :
    ∃ m, split o code t = .ok m ∧ m.bindings = bs := by
  cases hm : split o code t with
  | error s => simp [hm, Except.toOption] at h
  | ok m => exact ⟨m, rfl, by simpa [hm, Except.toOption] using h⟩

theorem split_tree : ∃ m, split options code tree = .ok m ∧ m.bindings = [⟨"a", true⟩] :=
  split_bindings (by decide +kernel)

theorem nested_tree : tree.Nested code := by decide

theorem apart_tree : tree.Apart := by decide

end Sample

theorem sample_mainText_replays_trace :
    Sample.tree.Nested Sample.code ∧ Sample.tree.Apart ∧
    (trySplit Sample.options Sample.code Sample.tree).trace.patches =
      [⟨11, "a".toList, "(locals.a)".toList⟩] ∧
    ∃ m, (trySplit Sample.options Sample.code Sample.tree).result = .ok m ∧
    ∃ p k c a body, readScript Sample.code Sample.tree = .ok p ∧
      findEntry Sample.options.entryName p.body = some (k, c) ∧
      c.argument Sample.options.entryName = .ok a ∧ a.span.Inside Sample.code.span ∧
      m.mainText = ("export default (" ++ Sample.options.localsName ++ ") => ").toList ++ body ∧
      Replays Sample.code a.span
        (trySplit Sample.options Sample.code Sample.tree).trace.patches body ∧
      ((trySplit Sample.options Sample.code Sample.tree).trace.patches = [] →
        body = Sample.code.slice a.span.start a.span.stop) := by
  obtain ⟨m, hm, _⟩ := Sample.split_tree
  exact ⟨Sample.nested_tree, Sample.apart_tree, by decide +kernel, m, hm,
    mainText_replays_trace Sample.nested_tree Sample.apart_tree hm⟩

end ScriptSplit
