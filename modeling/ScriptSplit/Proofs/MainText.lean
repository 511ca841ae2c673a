import ScriptSplit.Proofs.Movement
import ScriptSplit.Proofs.Rerouting
import ScriptSplit.Proofs.Replay

namespace ScriptSplit

open Item (allUses)

theorem Text.drop_between (t : Text) {a x : Nat} (b : Nat) (hx : a ≤ x) :
    (t.between a b).drop (x - a) = t.between x b := by
  have hadd : a + (x - a) = x := by omega
  have hsub : b - a - (x - a) = b - x := by omega
  simp only [between, List.drop_take, List.drop_drop, hadd, hsub]

theorem Text.between_between (t : Text) {a b x y : Nat} (hx : a ≤ x) (hy : y ≤ b) :
    (t.between a b).between (x - a) (y - a) = t.between x y := by
  have hmin : min (y - a - (x - a)) (b - x) = y - x := by omega
  rw [between, drop_between t b hx, between, List.take_take, hmin, between]

namespace Edit

def rebase (a : Nat) (e : Edit) : Edit := ⟨e.start - a, e.stop - a, e.text⟩

theorem le_rebase {a : Nat} {e f : Edit} (he : a ≤ e.start) (he' : e.start ≤ e.stop) (hf : a ≤ f.start)
    (hf' : f.start ≤ f.stop) : (e.rebase a).le (f.rebase a) = e.le f := by
  rw [Bool.eq_iff_iff, le_iff, le_iff]
  simp only [rebase]
  omega

end Edit

theorem splice_eq_weave {code : Text} {a b : Nat} (hb : b ≤ code.length) {es : List Edit}
    (hes : ∀ e ∈ es, a ≤ e.start ∧ e.start ≤ e.stop ∧ e.stop ≤ b) {cursor : Nat} (ha : a ≤ cursor)
    (hcursor : cursor ≤ b) :
    splice code cursor b (es.map (Edit.patch code)) =
      Draft.weave (code.between a b) (cursor - a) (es.map (Edit.rebase a)) := by
  induction es generalizing cursor with
  | nil =>
      simp only [List.map_nil, splice, Draft.weave, Text.drop_between code b ha]
      exact Text.slice_of_le (by omega) hb
  | cons e es ih =>
      obtain ⟨hstart, horder, hstop⟩ := hes e List.mem_cons_self
      have hrest := ih (fun f hf => hes f (List.mem_cons_of_mem _ hf)) (by omega) hstop
      have hgap : code.slice cursor (e.patch code).offset =
          (code.between a b).between (cursor - a) (e.rebase a).start := by
        rw [Edit.rebase, Text.between_between code ha (by omega)]
        exact Text.slice_of_le (by omega) (by omega)
      have hlen : e.stop ≤ code.length := by omega
      simp only [List.map_cons, splice, Draft.weave, Edit.stop_patch horder hlen, hrest, hgap]
      rfl

theorem render_rebase {code : Text} {a b : Nat} (hab : a ≤ b) (hb : b ≤ code.length) {es : List Edit}
    (hes : ∀ e ∈ es, a ≤ e.start ∧ e.start ≤ e.stop ∧ e.stop ≤ b) :
    splice code a b ((es.mergeSort Edit.le).map (Edit.patch code)) =
      Draft.render ⟨code.between a b, es.map (Edit.rebase a), []⟩ := by
  have hmem : ∀ e ∈ es.mergeSort Edit.le, a ≤ e.start ∧ e.start ≤ e.stop ∧ e.stop ≤ b :=
    fun e he => hes e ((List.mergeSort_perm es Edit.le).mem_iff.mp he)
  have hsort : (es.mergeSort Edit.le).map (Edit.rebase a) =
      (es.map (Edit.rebase a)).mergeSort Edit.le := by
    apply List.map_mergeSort
    intro e he f hf
    obtain ⟨hstart, horder, _⟩ := hes e he
    obtain ⟨hstart', horder', _⟩ := hes f hf
    exact (Edit.le_rebase hstart horder hstart' horder').symm
  rw [splice_eq_weave hb hmem (Nat.le_refl a) hab, hsort, Nat.sub_self]
  simp [Draft.render]

theorem Mutation.Makes.rebase {locals : String} {m : Mutation} {e : Edit} (h : m.Makes locals e)
    (a : Nat) : e.rebase a = (m.relocate (Span.shift (-a))).edit locals := by
  have hstart := h.start
  have hstop := h.stop
  simp only [Edit.rebase, Mutation.edit, Mutation.relocate, Ident.relocate, Span.shift, h.text,
    Edit.mk.injEq]
  refine ⟨by omega, by omega, rfl⟩

theorem forall₂_makes_rebase {locals : String} {ms : List Mutation} {es : List Edit}
    (h : List.Forall₂ (Mutation.Makes locals) ms es) (a : Nat) :
    es.map (Edit.rebase a) =
      (ms.map (Mutation.relocate (Span.shift (-a)))).map (Mutation.edit locals) := by
  induction h with
  | nil => rfl
  | cons hm _ ih => simp only [List.map_cons, hm.rebase a, ih]

def Expr.free (legacy : Bool) (names : List String) (e : Expr) : List Mutation :=
  freeUses (Scope.ofNames names) (allUses (e.outline legacy))

theorem freeUses_relocate (f : Span → Span) (s : Scope) (us : List Use) :
    freeUses s (us.map (Use.relocate f)) = (freeUses s us).map (Mutation.relocate f) := by
  induction us with
  | nil => rfl
  | cons u us ih =>
      have hfree : (u.relocate f).isFree s = u.isFree s := rfl
      simp only [freeUses, List.map_cons, List.filter_cons, hfree] at ih ⊢
      split
      · simp only [List.map_cons, ih]
        rfl
      · exact ih

namespace Expr

theorem free_relocate (f : Span → Span) (legacy : Bool) (names : List String) (e : Expr) :
    (e.relocate f).free legacy names = (e.free legacy names).map (Mutation.relocate f) := by
  rw [free, Expr.allUses_relocate, freeUses_relocate, free]

theorem free_congr {names names' : List String} (h : ∀ x, x ∈ names ↔ x ∈ names') (legacy : Bool)
    (e : Expr) : e.free legacy names = e.free legacy names' := by
  have hfree : Use.isFree (Scope.ofNames names) = Use.isFree (Scope.ofNames names') := by
    funext u
    rw [Bool.eq_iff_iff, Use.isFree_ofNames, Use.isFree_ofNames, h]
  rw [free, free, freeUses, freeUses, hfree]

theorem span_relocate (f : Span → Span) (e : Expr) : (e.relocate f).span = f e.span := by
  cases e <;> rfl

end Expr

theorem Mutation.relocate_shift (d d' : Int) (m : Mutation) :
    (m.relocate (Span.shift d)).relocate (Span.shift d') = m.relocate (Span.shift (d + d')) := by
  simp only [Mutation.relocate, Ident.relocate, Span.shift, Int.add_assoc]

def ArgumentIs (entry : String) (code : Text) (t : Tree) (a : Expr) : Prop :=
  ∃ p k c, readScript code t = .ok p ∧ findEntry entry p.body = some (k, c) ∧
    c.argument entry = .ok a

theorem mainText_of_split {o : Options} {code : Text} {t : Tree} {a : Expr} {m : Modules}
    (hnested : t.Nested code) (hapart : t.Apart) (harg : ArgumentIs o.entryName code t a)
    (h : split o code t = .ok m) :
    m.mainText = (mainHeader o.localsName).toList ++
      Draft.render ⟨code.slice a.span.start a.span.stop,
        ((a.free o.legacy (m.bindings.map Binding.name)).map
          (Mutation.relocate (Span.shift (-a.span.start)))).map (Mutation.edit o.localsName), []⟩ := by
  obtain ⟨p, k, c, hread, hfind, hargument⟩ := harg
  obtain ⟨e, bs, hprepare, hfinish⟩ := split_eq_ok h
  obtain ⟨p', hread', hlocate, _⟩ := prepare_eq_ok hprepare
  obtain rfl : p = p' := Except.ok.inj (hread.symm.trans hread')
  obtain ⟨c', hfind', hargument', hcall, _, _, hcut⟩ := Program.locate_eq_ok hlocate
  obtain ⟨rfl, rfl⟩ : k = e.index ∧ c = c' := by simpa using hfind.symm.trans hfind'
  obtain rfl : a = e.argument := Except.ok.inj (hargument.symm.trans hargument')
  obtain ⟨d, d', found, hreroute, hwrap, rfl⟩ := finish_eq_ok hfinish
  obtain ⟨⟨s, hs⟩, rfl, hreroute⟩ := Expr.reroute_eq_ok hreroute
  have hmem := EntryCall.argument_mem hargument
  have hplaced := EntryCall.placed hnested hread hfind
  have hin := hplaced.call.trans hplaced.statement
  have hinside : ∀ m ∈ (e.argument.walk o.legacy (bs.map Binding.name)).found,
      m.name.span.Inside e.argument.span := by
    intro m hm
    have hdraws := (EntryCall.argument_draws hnested hapart hread hfind hmem o.legacy).sublist
      (Expr.found_sublist o.legacy (bs.map Binding.name) e.argument)
    exact (hdraws.drawn m.name (List.mem_map_of_mem hm)).inside
  rw [hcall] at hwrap
  obtain ⟨es, hmakes, _, _, hrender⟩ := Draft.render_wrapMain hin (hplaced.arguments _ hmem) hinside hcut
    hreroute hwrap
  obtain ⟨a₀, a₁, ha₀, ha₁, horder, hlen⟩ := ((hplaced.arguments _ hmem).trans hin).exists_nat
  have hes : ∀ f ∈ es, a₀ ≤ f.start ∧ f.start ≤ f.stop ∧ f.stop ≤ a₁ := by
    intro f hf
    obtain ⟨m, hm, hmakes⟩ := forall₂_exists_left hmakes hf
    have := hmakes.inside (hinside m hm)
    omega
  have hfree := Expr.walk_found hs
  rw [ha₀, ha₁, render_rebase horder hlen hes, forall₂_makes_rebase hmakes] at hrender
  simp only [Options.rules] at hrender hfree
  rw [hrender, hfree, ha₀, ha₁, Text.slice_of_le (Nat.le_trans horder hlen) hlen]
  rfl

/-- Two scripts with the same entry argument, wherever it stands, and with the same names of bindings
have one main module. -/
theorem main_determined_by_argument {o₁ o₂ : Options} {code₁ code₂ : Text} {t₁ t₂ : Tree} {a₁ a₂ : Expr}
    {m₁ m₂ : Modules} {d : Int} (hlocals : o₁.localsName = o₂.localsName)
    (hlegacy : o₁.legacy = o₂.legacy) (hnested₁ : t₁.Nested code₁) (hapart₁ : t₁.Apart)
    (hnested₂ : t₂.Nested code₂) (hapart₂ : t₂.Apart) (harg₁ : ArgumentIs o₁.entryName code₁ t₁ a₁)
    (harg₂ : ArgumentIs o₂.entryName code₂ t₂ a₂)
    (htext : code₁.slice a₁.span.start a₁.span.stop = code₂.slice a₂.span.start a₂.span.stop)
    (hshift : a₁.relocate (Span.shift d) = a₂.relocate (Span.shift 0))
    (hsplit₁ : split o₁ code₁ t₁ = .ok m₁) (hsplit₂ : split o₂ code₂ t₂ = .ok m₂)
    (hnames : ∀ x, x ∈ m₁.bindings.map Binding.name ↔ x ∈ m₂.bindings.map Binding.name) :
    m₁.mainText = m₂.mainText := by
  have hspan : a₁.span.start + d = a₂.span.start := by
    have h := congrArg (fun e => e.span.start) hshift
    simpa [Expr.span_relocate, Span.shift] using h
  have hfree : (a₁.free o₁.legacy (m₁.bindings.map Binding.name)).map
      (Mutation.relocate (Span.shift (-a₁.span.start))) =
      (a₂.free o₂.legacy (m₂.bindings.map Binding.name)).map
        (Mutation.relocate (Span.shift (-a₂.span.start))) := by
    have h := congrArg (fun e => ((e.free o₁.legacy (m₁.bindings.map Binding.name)).map
      (Mutation.relocate (Span.shift (-a₂.span.start))))) hshift
    simp only [Expr.free_relocate, List.map_map, Function.comp_def, Mutation.relocate_shift] at h
    simp only [hlegacy, Expr.free_congr hnames, Int.zero_add] at h ⊢
    rw [show -a₁.span.start = d + -a₂.span.start by omega, h]
  rw [mainText_of_split hnested₁ hapart₁ harg₁ hsplit₁, mainText_of_split hnested₂ hapart₂ harg₂ hsplit₂,
    hlocals, htext, hfree]

namespace Sample

def chained : Text := "let a, a; app()(a, a)".toList

def chainedTree : Tree :=
  node "program" "" 0 21
    [node "lexical_declaration" "" 0 9
      [token "let" "kind" 0 3, node "variable_declarator" "" 4 5 [node "identifier" "name" 4 5 []],
      node "variable_declarator" "" 7 8 [node "identifier" "name" 7 8 []]],
    node "expression_statement" "" 10 21
      [node "call_expression" "" 10 21
        [node "call_expression" "function" 10 15
          [node "identifier" "function" 10 13 [], node "arguments" "arguments" 13 15 []],
        node "arguments" "arguments" 15 21
          [node "identifier" "" 16 17 [], node "identifier" "" 19 20 []]]]]

def argument? (p : Program) : Option Expr :=
  (findEntry "app" p.body).bind fun f => (f.2.argument "app").toOption

theorem exists_argument {code : Text} {t : Tree} {check : Expr → Bool}
    (h : ((readScript code t).toOption.bind argument?).any check = true) :
    ∃ e, ArgumentIs "app" code t e ∧ check e = true := by
  cases hp : readScript code t with
  | error s => simp [hp, Except.toOption] at h
  | ok p =>
      cases hf : findEntry "app" p.body with
      | none => simp [hp, hf, Except.toOption, argument?] at h
      | some f =>
          obtain ⟨k, c⟩ := f
          cases ha : c.argument "app" with
          | error r => simp [hp, hf, ha, Except.toOption, argument?] at h
          | ok e =>
              have hcheck : check e = true := by
                simpa [hp, hf, ha, Except.toOption, argument?] using h
              exact ⟨e, ⟨p, k, c, hp, hf, ha⟩, hcheck⟩

def isIdent (i : Ident) : Expr → Bool
  | .ident j => j = i
  | _ => false

theorem argumentIs_ident {code : Text} {t : Tree} {i : Ident}
    (h : ((readScript code t).toOption.bind argument?).any (isIdent i) = true) :
    ArgumentIs "app" code t (.ident i) := by
  obtain ⟨e, he, hcheck⟩ := exists_argument h
  cases e with
  | ident j =>
      obtain rfl := of_decide_eq_true hcheck
      exact he
  | _ => cases hcheck

def tsxOptions : Options := { options with dialect := .tsx }

end Sample

theorem sample_main_determined_by_argument :
    Sample.tree.Nested Sample.code ∧ Sample.tree.Apart ∧
    Sample.chainedTree.Nested Sample.chained ∧ Sample.chainedTree.Apart ∧
    ∃ a₁ a₂ m₁ m₂, ArgumentIs Sample.options.entryName Sample.code Sample.tree a₁ ∧
      ArgumentIs Sample.tsxOptions.entryName Sample.chained Sample.chainedTree a₂ ∧
      Sample.code.slice a₁.span.start a₁.span.stop = Sample.chained.slice a₂.span.start a₂.span.stop ∧
      a₁.relocate (Span.shift 5) = a₂.relocate (Span.shift 0) ∧
      split Sample.options Sample.code Sample.tree = .ok m₁ ∧
      split Sample.tsxOptions Sample.chained Sample.chainedTree = .ok m₂ ∧
      m₁.bindings = [⟨"a", true⟩] ∧ m₂.bindings = [⟨"a", true⟩, ⟨"a", true⟩] ∧
      m₁.mainText = m₂.mainText := by
  have hnested : Sample.chainedTree.Nested Sample.chained := by decide
  have hapart : Sample.chainedTree.Apart := by decide
  have h₁ : ArgumentIs Sample.options.entryName Sample.code Sample.tree
      (.ident ⟨⟨11, 12, 1, 11⟩, "a"⟩) := Sample.argumentIs_ident (by decide +kernel)
  have h₂ : ArgumentIs Sample.tsxOptions.entryName Sample.chained Sample.chainedTree
      (.ident ⟨⟨16, 17, 1, 16⟩, "a"⟩) := Sample.argumentIs_ident (by decide +kernel)
  obtain ⟨m₁, hm₁, hb₁⟩ := Sample.split_tree
  obtain ⟨m₂, hm₂, hb₂⟩ : ∃ m, split Sample.tsxOptions Sample.chained Sample.chainedTree = .ok m ∧
      m.bindings = [⟨"a", true⟩, ⟨"a", true⟩] := Sample.split_bindings (by decide +kernel)
  have htext : Sample.code.slice 11 12 = Sample.chained.slice 16 17 := by decide +kernel
  have hnames : ∀ x, x ∈ m₁.bindings.map Binding.name ↔ x ∈ m₂.bindings.map Binding.name := by
    simp [hb₁, hb₂]
  refine ⟨Sample.nested_tree, Sample.apart_tree, hnested, hapart, _, _, m₁, m₂, h₁, h₂, htext, rfl, hm₁,
    hm₂, hb₁, hb₂, ?_⟩
  have hlocals : Sample.options.localsName = Sample.tsxOptions.localsName := rfl
  exact main_determined_by_argument hlocals rfl Sample.nested_tree Sample.apart_tree hnested hapart h₁ h₂
    htext (d := 5) rfl hm₁ hm₂ hnames

end ScriptSplit
