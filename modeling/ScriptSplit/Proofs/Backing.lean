import ScriptSplit.Proofs.Accessor
import ScriptSplit.Proofs.Replay
import ScriptSplit.Proofs.Rerouting

namespace ScriptSplit

def Happening.binding? : Happening → Option Binding
  | .bindingFound name writable => some ⟨name, writable⟩
  | _ => none

namespace Trace

def bindings (t : Trace) : List Binding := t.events.filterMap fun e => e.what.binding?

theorem filterMap_binding?_findings (t : Trace) :
    t.findings.filterMap Happening.binding? = t.bindings := by
  refine filterMap_findings ?_ t
  intro x hx
  cases x <;> first | rfl | cases hx

theorem mem_findings {t : Trace} {e : Event} (he : e ∈ t.events) (hmark : e.what.isMark = false) :
    e.what ∈ t.findings := by
  rw [findings, List.mem_filter, hmark]
  exact ⟨List.mem_map_of_mem he, rfl⟩

end Trace

theorem mem_of_mem_freeUses {names : List String} {us : List Use} {m : Mutation}
    (h : m ∈ freeUses (Scope.ofNames names) us) : m.name.name ∈ names := by
  obtain ⟨u, hu, rfl⟩ := List.mem_map.mp h
  have hfree := (List.mem_filter.mp hu).2
  exact ((Use.isFree_ofNames names u).mp hfree).1

theorem Expr.mem_of_mem_walk {legacy : Bool} {names : List String} {e : Expr} {s : Scope} {m : Mutation}
    (h : (e.walk legacy names).outcome = .ok s) (hm : m ∈ (e.walk legacy names).found) :
    m.name.name ∈ names := by
  rw [Expr.walk_found h] at hm
  exact mem_of_mem_freeUses hm

theorem Mutation.after_eq (locals : String) (m : Mutation) :
    (m.form.label = "Identifier" ∧ m.after locals = s!"({locals}.{m.name.name})") ∨
      (m.form.label = "Shorthand" ∧ m.after locals = s!"{m.name.name}:({locals}.{m.name.name})") := by
  unfold Mutation.after
  cases m.form with
  | reference => exact .inl ⟨rfl, rfl⟩
  | shorthand => exact .inr ⟨rfl, rfl⟩

section

variable {o : Options} {code : Text} {t : Tree} {e : EntryPoint} {bs : List Binding}

theorem bindings_trySplit (h : prepare o code t = .ok (e, bs)) :
    (trySplit o code t).trace.bindings = bs := by
  have hbindings : (bs.map Binding.happening).filterMap Happening.binding? = bs := by
    rw [List.filterMap_map]
    exact List.filterMap_some
  have hmutations : ((e.argument.walk o.legacy (bs.map Binding.name)).found.map
      (Mutation.happening o.localsName)).filterMap Happening.binding? = [] := by
    simp [Mutation.happening, Happening.binding?]
  rw [← Trace.filterMap_binding?_findings, findings_trySplit h, List.filterMap_append, hbindings,
    hmutations, List.append_nil]

theorem exists_mutation_of_event (h : prepare o code t = .ok (e, bs)) {event : Event}
    (hevent : event ∈ (trySplit o code t).trace.events) {form before after : String} {offset : Int}
    (hwhat : event.what = .mutation form before after offset) :
    ∃ m ∈ (e.argument.walk o.legacy (bs.map Binding.name)).found,
      m.happening o.localsName = .mutation form before after offset := by
  have hmark : event.what.isMark = false := by rw [hwhat]; rfl
  have hmem := Trace.mem_findings hevent hmark
  rw [findings_trySplit h, hwhat] at hmem
  rcases List.mem_append.mp hmem with hbinding | hmutation
  · obtain ⟨b, _, hb⟩ := List.mem_map.mp hbinding
    cases hb
  · exact List.mem_map.mp hmutation

end

/-- A binding that may be assigned to stands in the export with a getter and a setter, another one with
its name alone. -/
inductive Binding.StandsAs : Binding → Text → Prop
  | accessors (x : String) : StandsAs ⟨x, true⟩
      ("get " ++ x ++ "() \x7b return " ++ x ++ " \x7d,set " ++ x ++ "(v) \x7b " ++ x ++ " = v \x7d,").toList
  | shorthand (x : String) : StandsAs ⟨x, false⟩ (x ++ ",").toList

theorem Binding.standsAs_accessor (b : Binding) : b.StandsAs b.accessor.toList := by
  obtain ⟨x, writable⟩ := b
  cases writable with
  | true => exact .accessors x
  | false => exact .shorthand x

theorem render_exportLocals (d : Draft) (bs : List Binding) :
    (d.exportLocals bs).render = d.render ++ ("\n".toList ++ (localsExport bs).toList ++ "\n".toList) := by
  rw [Draft.exportLocals, Draft.render_append, String.toList_append, String.toList_append]

/-- Every access in a main module is of a binding that has its entry in the export of the locals module,
where the bindings stand in order, each once. -/
theorem accesses_backed {o : Options} {code : Text} {t : Tree} {m : Modules}
    (h : (trySplit o code t).result = .ok m) :
    (trySplit o code t).trace.bindings = m.bindings ∧
      ∃ kept sealed entries, m.localsText = kept ++ ("\n".toList ++ sealed ++ "\n".toList) ∧
        sealed = "export default Object.seal(\x7b".toList ++ (entries.flatten ++ "\x7d);".toList) ∧
        List.Forall₂ Binding.StandsAs m.bindings entries ∧
        ((∀ b ∈ m.bindings, Token.IsWord b.name) →
          Property.readExport sealed = some (m.bindings.map Binding.members).flatten) ∧
        ∀ event ∈ (trySplit o code t).trace.events, ∀ form x after offset,
          event.what = .mutation form x after offset →
            ((form = "Identifier" ∧ after = s!"({o.localsName}.{x})") ∨
              (form = "Shorthand" ∧ after = s!"{x}:({o.localsName}.{x})")) ∧
            ∃ b ∈ m.bindings, b.name = x ∧ ∃ entry ∈ entries, b.StandsAs entry := by
  obtain ⟨e, bs, hprepare, hfinish⟩ := split_eq_ok h
  obtain ⟨d, d', found, hreroute, _, rfl⟩ := finish_eq_ok hfinish
  have hstands : List.Forall₂ Binding.StandsAs bs (bs.map fun b => b.accessor.toList) := by
    rw [List.forall₂_map_right_iff, List.forall₂_same]
    exact fun b _ => b.standsAs_accessor
  refine ⟨bindings_trySplit hprepare, e.localsDraft.render, (localsExport bs).toList, _,
    render_exportLocals _ bs, toList_localsExport bs, hstands, readExport_localsExport, ?_⟩
  intro event hevent form x after offset hwhat
  obtain ⟨⟨s, hs⟩, _, _⟩ := Expr.reroute_eq_ok hreroute
  obtain ⟨m, hm, heq⟩ := exists_mutation_of_event hprepare hevent hwhat
  have hname := Expr.mem_of_mem_walk hs hm
  cases heq
  obtain ⟨b, hb, hbname⟩ := List.mem_map.mp hname
  exact ⟨m.after_eq o.localsName, b, hb, hbname, b.accessor.toList, List.mem_map_of_mem hb,
    b.standsAs_accessor⟩

namespace Sample

def pairCode : Text := "let a;const b=1;app(\x7ba,b:b\x7d)".toList

/-- Two bindings, one of which may be assigned to, and an access of each. -/
def pairTree : Tree :=
  node "program" "" 0 28
    [node "lexical_declaration" "" 0 6
      [token "let" "kind" 0 3, node "variable_declarator" "" 4 5 [node "identifier" "name" 4 5 []]],
    node "lexical_declaration" "" 6 16
      [token "const" "kind" 6 11,
      node "variable_declarator" "" 12 15
        [node "identifier" "name" 12 13 [], node "number" "value" 14 15 []]],
    node "expression_statement" "" 16 28
      [node "call_expression" "" 16 28
        [node "identifier" "function" 16 19 [],
        node "arguments" "arguments" 19 28
          [node "object" "" 20 27
            [node "shorthand_property_identifier" "" 21 22 [],
            node "pair" "" 23 26
              [node "property_identifier" "key" 23 24 [], node "identifier" "value" 25 26 []]]]]]]

def pairExport : Text :=
  "export default Object.seal(\x7bget a() \x7b return a \x7d,set a(v) \x7b a = v \x7d,b,\x7d);".toList

theorem split_pairTree : ∃ m, split options pairCode pairTree = .ok m ∧
    m.bindings = [⟨"a", true⟩, ⟨"b", false⟩] :=
  split_bindings (by decide +kernel)

end Sample

theorem sample_accesses_backed :
    ∃ m entries, (trySplit Sample.options Sample.pairCode Sample.pairTree).result = .ok m ∧
      (trySplit Sample.options Sample.pairCode Sample.pairTree).trace.bindings =
        [⟨"a", true⟩, ⟨"b", false⟩] ∧
      entries = ["get a() \x7b return a \x7d,set a(v) \x7b a = v \x7d,".toList, "b,".toList] ∧
      (∃ kept, m.localsText = kept ++ ("\n".toList ++ Sample.pairExport ++ "\n".toList)) ∧
      Property.readExport Sample.pairExport =
        some [.getter ⟨"a", "a"⟩, .setter ⟨"a", "v", "a", "v"⟩, .value "b"] ∧
      (∃ event ∈ (trySplit Sample.options Sample.pairCode Sample.pairTree).trace.events,
        event.what = .mutation "Shorthand" "a" "a:(locals.a)" 21 ∧
        ∃ b ∈ m.bindings, b.name = "a" ∧ ∃ entry ∈ entries, b.StandsAs entry) ∧
      ∃ event ∈ (trySplit Sample.options Sample.pairCode Sample.pairTree).trace.events,
        event.what = .mutation "Identifier" "b" "(locals.b)" 25 ∧
        ∃ b ∈ m.bindings, b.name = "b" ∧ ∃ entry ∈ entries, b.StandsAs entry := by
  obtain ⟨m, hm, hbindings⟩ := Sample.split_pairTree
  obtain ⟨hfound, kept, sealed, entries, htext, hsealed, hstands, hread, haccess⟩ := accesses_backed hm
  obtain ⟨a, ha, hwhata⟩ : ∃ event ∈ (trySplit Sample.options Sample.pairCode Sample.pairTree).trace.events,
      event.what = .mutation "Shorthand" "a" "a:(locals.a)" 21 := by decide +kernel
  obtain ⟨b, hb, hwhatb⟩ : ∃ event ∈ (trySplit Sample.options Sample.pairCode Sample.pairTree).trace.events,
      event.what = .mutation "Identifier" "b" "(locals.b)" 25 := by decide +kernel
  have hacca := (haccess a ha _ _ _ _ hwhata).2
  have haccb := (haccess b hb _ _ _ _ hwhatb).2
  rw [hbindings] at hstands hread
  obtain rfl : entries = ["get a() \x7b return a \x7d,set a(v) \x7b a = v \x7d,".toList, "b,".toList] := by
    cases hstands with
    | cons hfirst hrest =>
        cases hrest with
        | cons hsecond hnone =>
            cases hfirst
            cases hsecond
            cases hnone
            rfl
  subst hsealed
  exact ⟨m, _, hm, hfound.trans hbindings, rfl, ⟨kept, htext⟩, hread (by decide),
    ⟨a, ha, hwhata, hacca⟩, b, hb, hwhatb, haccb⟩

end ScriptSplit
