import ScriptSplit.Proofs.Locating
import ScriptSplit.Proofs.Nesting
import ScriptSplit.Proofs.Rejection

namespace ScriptSplit

def Refusal.Category.phases : Refusal.Category → List String
  | .parse => ["Parsing"]
  | .entryNotFound => ["Locating"]
  | .entryArgument => ["Locating"]
  | .bindingShape => ["Extraction"]
  | .pattern => ["Extraction", "Rewriting"]
  | .construct => ["Rewriting"]

theorem readScript_refused {code : Text} {t : Tree} {r : Refusal}
    (h : readScript code t = .error (.refused r)) : "Parsing" ∈ r.category.phases := by
  simp only [readScript] at h
  split at h
  · cases h
    split <;> exact List.mem_cons_self
  · cases hread : t.program (Source.ofText code) <;> simp [hread, Except.mapError] at h

theorem Program.locate_refused {entry : String} {code : Text} {p : Program} {r : Refusal}
    (h : p.locate entry code = .error (.refused r)) : "Locating" ∈ r.category.phases := by
  cases hfind : findEntry entry p.body with
  | none =>
      cases (Program.locate_of_none hfind).symm.trans h
      exact List.mem_cons_self
  | some f =>
      obtain ⟨k, c⟩ := f
      rcases c.argument_cases entry with ⟨_, harg⟩ | ⟨_, _, _, _, harg⟩ | ⟨_, _, _, _, harg⟩
      · cases (Program.locate_of_refused hfind harg).symm.trans h
        exact List.mem_cons_self
      · cases (Program.locate_of_refused hfind harg).symm.trans h
        exact List.mem_cons_self
      · exact absurd ⟨r, h, rfl⟩ (Program.not_refusedAs_of_argument hfind harg)

theorem restName_refused {s : Span} {p : Pattern} {r : Refusal} (h : restName s p = .error r) :
    "Extraction" ∈ r.category.phases := by
  unfold restName at h
  split at h
  · cases h
  · cases h
    exact List.mem_cons_self

mutual

theorem Entry.names_refused {r : Refusal} : ∀ e : Entry, e.names = .error r →
    "Extraction" ∈ r.category.phases
  | .rest s p, h => by
      rw [Entry.names] at h
      rcases bind_eq_error.mp h with h | ⟨_, _, h⟩
      · exact restName_refused h
      · cases h
  | .property s key value computed true, h => by
      cases key with
      | ident i => cases h
      | _ =>
          cases h
          exact List.mem_cons_self
  | .property _ _ value _ false, h => Pattern.names_refused value (by rwa [Entry.names] at h)

theorem Entry.allNames_refused {r : Refusal} : ∀ es : List Entry, Entry.allNames es = .error r →
    "Extraction" ∈ r.category.phases
  | [], h => by cases h
  | e :: es, h => by
      rw [Entry.allNames] at h
      rcases bind_eq_error.mp h with h | ⟨_, _, h⟩
      · exact Entry.names_refused e h
      rcases bind_eq_error.mp h with h | ⟨_, _, h⟩
      · exact Entry.allNames_refused es h
      · cases h

theorem Pattern.names_refused {r : Refusal} : ∀ p : Pattern, p.names = .error r →
    "Extraction" ∈ r.category.phases
  | .expr e, h => by
      cases e with
      | ident i => cases h
      | _ =>
          cases h
          exact List.mem_cons_self
  | .default _ p _, h => Pattern.names_refused p (by rwa [Pattern.names] at h)
  | .object _ es, h => Entry.allNames_refused es (by rwa [Pattern.names] at h)
  | .array .., h => by cases h
  | .rest s p, h => by
      cases h
      exact List.mem_cons_self

end

theorem Entry.keyName_refused {e : Entry} {r : Refusal} (h : e.keyName = .error r) :
    "Extraction" ∈ r.category.phases := by
  unfold Entry.keyName at h
  split at h
  · exact restName_refused h
  · cases h
  · cases h
    exact List.mem_cons_self

theorem mapM_eq_error {ε α β : Type} {f : α → Except ε β} {xs : List α} {e : ε}
    (h : xs.mapM f = .error e) : ∃ x ∈ xs, f x = .error e := by
  induction xs with
  | nil => cases h
  | cons x xs ih =>
      rw [List.mapM_cons] at h
      rcases bind_eq_error.mp h with h | ⟨_, _, h⟩
      · exact ⟨x, List.mem_cons_self, h⟩
      rcases bind_eq_error.mp h with h | ⟨_, _, h⟩
      · obtain ⟨y, hy, hf⟩ := ih h
        exact ⟨y, List.mem_cons_of_mem x hy, hf⟩
      · cases h

theorem Pattern.declaredNames_refused {legacy : Bool} {code : Text} {p : Pattern} {r : Refusal}
    (h : p.declaredNames legacy code = .error r) : "Extraction" ∈ r.category.phases := by
  unfold Pattern.declaredNames at h
  split at h
  · cases h
  · cases h
  · cases h
  · split at h
    · obtain ⟨e, _, he⟩ := mapM_eq_error h
      exact Entry.keyName_refused he
    · exact Entry.allNames_refused _ h
  · cases h
    exact List.mem_cons_self

theorem Extraction.refusal_concat {xs : List Extraction} {r : Refusal}
    (h : (concat xs).refusal = some r) : ∃ x ∈ xs, x.refusal = some r := by
  induction xs with
  | nil => cases h
  | cons x xs ih =>
      change (x.append (concat xs)).refusal = some r at h
      unfold append at h
      split at h
      · rename_i r' hx
        exact ⟨x, List.mem_cons_self, hx.trans h⟩
      · obtain ⟨y, hy, hr⟩ := ih h
        exact ⟨y, List.mem_cons_of_mem x hy, hr⟩

theorem Declarator.bindings_refused {legacy writable : Bool} {code : Text} {d : Declarator} {r : Refusal}
    (h : (d.bindings legacy writable code).refusal = some r) : "Extraction" ∈ r.category.phases := by
  obtain ⟨s, target, init⟩ := d
  cases hnames : target.declaredNames legacy code with
  | ok names => simp [Declarator.bindings, hnames] at h
  | error r' =>
      obtain rfl : r' = r := by simpa [Declarator.bindings, hnames] using h
      exact Pattern.declaredNames_refused hnames

theorem extract_refused {entry : String} {legacy : Bool} {code : Text} {ss : List Stmt} {r : Refusal}
    (h : (extract entry legacy code ss).refusal = some r) : "Extraction" ∈ r.category.phases := by
  obtain ⟨x, hx, hr⟩ := Extraction.refusal_concat h
  obtain ⟨s, _, rfl⟩ := List.mem_map.mp hx
  unfold Stmt.bindings at hr
  split at hr
  · obtain ⟨y, hy, hr⟩ := Extraction.refusal_concat hr
    obtain ⟨d, _, rfl⟩ := List.mem_map.mp hy
    exact Declarator.bindings_refused hr
  · cases hr
  · cases hr

theorem Expr.reroute_refused {rules : Rules} {names : List String} {e : Expr} {d : Draft} {r : Refusal}
    (h : e.reroute rules names d = .error (.refused r)) : "Rewriting" ∈ r.category.phases := by
  simp only [Expr.reroute] at h
  split at h
  · cases h
  · split at h
    · rename_i r' hwalk
      cases h
      have hend := Item.walks_endsAt (e.outline rules.legacy) (Scope.ofNames names)
      cases hrs : Item.allRefusals (e.outline rules.legacy) with
      | nil =>
          rw [hrs] at hend
          obtain ⟨s, hs⟩ := hend
          cases hs.symm.trans hwalk
      | cons r' rs =>
          rw [hrs] at hend
          obtain rfl : r' = r := Except.error.inj (Eq.trans (Eq.symm hend) hwalk)
          have hmem : r' ∈ (Phrase.expr e).refusals rules.legacy := by
            simp [Phrase.refusals, Phrase.outline, hrs]
          obtain ⟨q, sp, _, hoffends, _⟩ := Phrase.exists_offends hmem
          rcases hoffends.category with hcat | hcat <;> simp [hcat, Refusal.Category.phases]
    · cases h

theorem synthesize_not_refused {o : Options} {e : EntryPoint} {main : Draft} {bs : List Binding} {r : Refusal} :
    synthesize o e main bs ≠ .error (.refused r) := by
  intro h
  rcases bind_eq_error.mp h with h | ⟨_, _, h⟩
  · cases hwrap : main.wrapMain o.localsName e.call.start e.call.stop e.argument.span.start
      e.argument.span.stop <;> simp [hwrap, Except.mapError] at h
  · cases h

def wholePhase : String := "Hot-Swap Split"

def pipeline : List String := ["Parsing", "Locating", "Extraction", "Rewriting", "Synthesis"]

def inTurn (names : List String) : List Trace.Bracket :=
  names.flatMap fun name => [.opens (some wholePhase) name, .closes name]

/-- What a trace shows after the opening of the outermost phase: bindings in the phase that looks for
them, and mutations in the one that makes them. -/
def shown (locals : String) (stack : List String) (rest : List Trace.Bracket) (bs : List Binding)
    (ms : List Mutation) : Trace.View :=
  ⟨stack, .opens none wholePhase :: rest, bs.map (fun b => (b.happening, some "Extraction")) ++
    ms.map fun m => (m.happening locals, some "Rewriting")⟩

theorem view_bindings (v : Trace.View) (bs : List Binding) :
    v.tellAll (bs.map Binding.happening) =
      ⟨v.stack, v.brackets, v.placed ++ bs.map fun b => (b.happening, v.stack.head?)⟩ := by
  rw [v.tellAll_findings (by simp)]
  simp

theorem view_mutations (v : Trace.View) (locals : String) (ms : List Mutation) :
    v.tellAll (ms.map (Mutation.happening locals)) =
      ⟨v.stack, v.brackets, v.placed ++ ms.map fun m => (m.happening locals, v.stack.head?)⟩ := by
  rw [v.tellAll_findings (by simp)]
  simp

structure Outcome.StopsIn (x : Outcome) (locals : String) (s : Stop) (done : List String)
    (failed : String) : Prop where
  result : x.result = .error s
  view : ∃ bs ms, x.trace.view = shown locals [failed, wholePhase]
    (inTurn done ++ [.opens (some wholePhase) failed]) bs ms
  cause : ∀ r, s = .refused r → failed ∈ r.category.phases

section

variable {o : Options} {code : Text} {t : Tree}

theorem trySplit_of_writes {r : Except Stop Modules} {what : List Happening}
    (h : (splitTraced o code t).Writes r what) : (trySplit o code t).result = r ∧
      (trySplit o code t).trace.view = (Trace.View.mk [] [] []).tellAll what := by
  have htrace : (trySplit o code t).trace = Trace.empty.tellAll what :=
    congrArg Prod.snd (h Trace.empty)
  rw [htrace, Trace.view_empty_tellAll]
  exact ⟨congrArg Prod.fst (h Trace.empty), rfl⟩

theorem trySplit_stopsIn_parsing {s : Stop} (hread : readScript code t = .error s) :
    (trySplit o code t).StopsIn o.localsName s [] "Parsing" := by
  have hwrites : (splitTraced o code t).Writes (.error s) _ :=
    ((Traced.writes_lift hread).phase _ _).bind_error.phase _ _
  obtain ⟨hresult, hview⟩ := trySplit_of_writes hwrites
  refine ⟨hresult, ⟨[], [], ?_⟩, ?_⟩
  · rw [hview]
    simp [Traced.ending, shown, inTurn, wholePhase]
  · rintro r rfl
    exact readScript_refused hread

variable {p : Program} (hread : readScript code t = .ok p)

include hread

theorem trySplit_stopsIn_locating {s : Stop} (hlocate : p.locate o.entryName code = .error s) :
    (trySplit o code t).StopsIn o.localsName s ["Parsing"] "Locating" := by
  have hwrites : (splitTraced o code t).Writes (.error s) _ :=
    (((Traced.writes_lift hread).phase _ _).bind_ok
      ((Traced.writes_lift hlocate).phase _ _).bind_error).phase _ _
  obtain ⟨hresult, hview⟩ := trySplit_of_writes hwrites
  refine ⟨hresult, ⟨[], [], ?_⟩, ?_⟩
  · rw [hview]
    simp [Traced.ending, shown, inTurn, wholePhase]
  · rintro r rfl
    exact Program.locate_refused hlocate

variable {e : EntryPoint} (hlocate : p.locate o.entryName code = .ok e)

include hlocate

theorem trySplit_stopsIn_extraction {r : Refusal}
    (hextract : (extract o.entryName o.legacy code e.others).refusal = some r) :
    (trySplit o code t).StopsIn o.localsName (.refused r) ["Parsing", "Locating"] "Extraction" := by
  have hrefused : (extract o.entryName o.legacy code e.others).result = .error (.refused r) := by
    simp [Extraction.result, hextract]
  have hwrites : (splitTraced o code t).Writes (.error (.refused r)) _ :=
    (((Traced.writes_lift hread).phase _ _).bind_ok (((Traced.writes_lift hlocate).phase _ _).bind_ok
      ((hrefused ▸ writes_extractTraced o code e.others).phase _ _).bind_error)).phase _ _
  obtain ⟨hresult, hview⟩ := trySplit_of_writes hwrites
  refine ⟨hresult, ⟨(extract o.entryName o.legacy code e.others).bindings, [], ?_⟩, ?_⟩
  · rw [hview]
    simp [Traced.ending, view_bindings, shown, inTurn, wholePhase]
  · rintro _ ⟨⟩
    exact extract_refused hextract

variable {bs : List Binding} (hextract : (extract o.entryName o.legacy code e.others).result = .ok bs)

include hextract

theorem trySplit_stopsIn_rewriting {s : Stop}
    (hreroute : e.argument.reroute o.rules (bs.map Binding.name) e.mainDraft = .error s) :
    (trySplit o code t).StopsIn o.localsName s ["Parsing", "Locating", "Extraction"] "Rewriting" := by
  have hbindings := writes_extractTraced o code e.others
  have hmutations := writes_rerouteTraced o e (bs.map Binding.name)
  rw [hextract, ← Extraction.bindings_of_result hextract] at hbindings
  rw [hreroute] at hmutations
  have hwrites : (splitTraced o code t).Writes (.error s) _ :=
    (((Traced.writes_lift hread).phase _ _).bind_ok (((Traced.writes_lift hlocate).phase _ _).bind_ok
      ((hbindings.phase _ _).bind_ok (hmutations.phase _ _).bind_error))).phase _ _
  obtain ⟨hresult, hview⟩ := trySplit_of_writes hwrites
  refine ⟨hresult, ⟨bs, (e.argument.walk o.legacy (bs.map Binding.name)).found, ?_⟩, ?_⟩
  · rw [hview]
    simp [Traced.ending, view_bindings, view_mutations, shown, inTurn, wholePhase]
  · rintro r rfl
    exact Expr.reroute_refused hreroute

theorem trySplit_synthesis {main : Draft} {ms : List Mutation} {r : Except Stop Modules}
    (hreroute : e.argument.reroute o.rules (bs.map Binding.name) e.mainDraft = .ok (main, ms))
    (hsynthesize : synthesize o e main bs = r) :
    (trySplit o code t).result = r ∧ ∃ ms, (trySplit o code t).trace.view =
      match r with
      | .ok _ => shown o.localsName [] (inTurn pipeline ++ [.closes wholePhase]) bs ms
      | .error _ => shown o.localsName ["Synthesis", wholePhase]
          (inTurn pipeline.dropLast ++ [.opens (some wholePhase) "Synthesis"]) bs ms := by
  have hbindings := writes_extractTraced o code e.others
  have hmutations := writes_rerouteTraced o e (bs.map Binding.name)
  rw [hextract, ← Extraction.bindings_of_result hextract] at hbindings
  rw [hreroute] at hmutations
  have hwrites : (splitTraced o code t).Writes r _ :=
    (((Traced.writes_lift hread).phase _ _).bind_ok (((Traced.writes_lift hlocate).phase _ _).bind_ok
      ((hbindings.phase _ _).bind_ok ((hmutations.phase _ _).bind_ok
        ((Traced.writes_lift hsynthesize).phase _ _))))).phase _ _
  obtain ⟨hresult, hview⟩ := trySplit_of_writes hwrites
  refine ⟨hresult, (e.argument.walk o.legacy (bs.map Binding.name)).found, ?_⟩
  rw [hview]
  cases r <;>
    simp [Traced.ending, view_bindings, view_mutations, shown, inTurn, wholePhase, pipeline]

end

theorem trySplit_cases (o : Options) (code : Text) (t : Tree) :
    (∃ m bs ms, (trySplit o code t).result = .ok m ∧
      (trySplit o code t).trace.view =
        shown o.localsName [] (inTurn pipeline ++ [.closes wholePhase]) bs ms) ∨
    ∃ s done failed, done ++ [failed] <+: pipeline ∧
      (trySplit o code t).StopsIn o.localsName s done failed := by
  cases hread : readScript code t with
  | error s => exact .inr ⟨s, [], _, by decide, trySplit_stopsIn_parsing hread⟩
  | ok p =>
  cases hlocate : p.locate o.entryName code with
  | error s => exact .inr ⟨s, _, _, by decide, trySplit_stopsIn_locating hread hlocate⟩
  | ok e =>
  cases hrefusal : (extract o.entryName o.legacy code e.others).refusal with
  | some r => exact .inr ⟨_, _, _, by decide, trySplit_stopsIn_extraction hread hlocate hrefusal⟩
  | none =>
  have hextract : (extract o.entryName o.legacy code e.others).result =
      .ok (extract o.entryName o.legacy code e.others).bindings := by
    simp [Extraction.result, hrefusal]
  cases hreroute : e.argument.reroute o.rules
      ((extract o.entryName o.legacy code e.others).bindings.map Binding.name) e.mainDraft with
  | error s =>
      exact .inr ⟨s, _, _, by decide, trySplit_stopsIn_rewriting hread hlocate hextract hreroute⟩
  | ok d =>
  cases hsynthesize : synthesize o e d.1 (extract o.entryName o.legacy code e.others).bindings with
  | ok m =>
      obtain ⟨hresult, ms, hview⟩ := trySplit_synthesis hread hlocate hextract hreroute hsynthesize
      exact .inl ⟨m, _, ms, hresult, hview⟩
  | error s =>
      obtain ⟨hresult, ms, hview⟩ := trySplit_synthesis hread hlocate hextract hreroute hsynthesize
      refine .inr ⟨s, pipeline.dropLast, "Synthesis", by decide, hresult, ⟨_, ms, hview⟩, ?_⟩
      rintro r rfl
      exact absurd hsynthesize synthesize_not_refused

theorem openPhases_of_shown {t : Trace} {locals : String} {stack : List String}
    {rest : List Trace.Bracket} {bs : List Binding} {ms : List Mutation}
    (h : t.view = shown locals stack rest bs ms) :
    Trace.openPhases t.events = stack.reverse := by
  rw [← List.reverse_reverse (Trace.openPhases t.events)]
  exact congrArg (fun v => List.reverse v.stack) h

theorem parentPhase?_of_shown {t : Trace} {locals : String} {stack : List String}
    {rest : List Trace.Bracket} {bs : List Binding} {ms : List Mutation}
    (h : t.view = shown locals stack rest bs ms) {e : Event}
    (he : e ∈ t.events) :
    (∀ name writable, e.what = .bindingFound name writable →
      Trace.parentPhase? t.events e = some "Extraction") ∧
    ∀ form before after offset, e.what = .mutation form before after offset →
      Trace.parentPhase? t.events e = some "Rewriting" := by
  have hplaced : Trace.placed t.events = _ := congrArg Trace.View.placed h
  have hmem : e.what.isMark = false →
      (e.what, Trace.parentPhase? t.events e) ∈ Trace.placed t.events := fun hmark =>
    List.mem_map_of_mem (List.mem_filter.mpr ⟨he, by simp [hmark]⟩)
  rw [hplaced] at hmem
  constructor
  · intro name writable hwhat
    rw [hwhat] at hmem
    rcases List.mem_append.mp (hmem rfl) with hb | hm
    · obtain ⟨b, _, heq⟩ := List.mem_map.mp hb
      exact (Prod.mk.inj heq).2.symm
    · obtain ⟨m, _, heq⟩ := List.mem_map.mp hm
      cases (Prod.mk.inj heq).1
  · intro form before after offset hwhat
    rw [hwhat] at hmem
    rcases List.mem_append.mp (hmem rfl) with hb | hm
    · obtain ⟨b, _, heq⟩ := List.mem_map.mp hb
      cases (Prod.mk.inj heq).1
    · obtain ⟨m, _, heq⟩ := List.mem_map.mp hm
      exact (Prod.mk.inj heq).2.symm

theorem run_eq_ok {o : Options} {code : Text} {t : Tree} {r : Report} (h : run o code t = .ok r) :
    r.trace = (trySplit o code t).trace ∧
      ((trySplit o code t).result = .ok r.modules ∧ r.succeeded = true ∧ r.errors = [] ∨
        ∃ refusal, (trySplit o code t).result = .error (.refused refusal) ∧ r.succeeded = false ∧
          r.errors = [refusal.message] ∧ r.modules = ⟨[], [], []⟩) := by
  simp only [run] at h
  split at h
  · rename_i m hm
    cases h
    exact ⟨rfl, .inl ⟨hm, rfl, rfl⟩⟩
  · rename_i refusal hr
    cases h
    exact ⟨rfl, .inr ⟨refusal, hr, rfl, rfl, rfl⟩⟩
  · cases h

/-- A run gives both modules and a trace in which every phase has ended, or no module at all, one
message and a trace that leaves open the phase that failed. -/
theorem run_all_or_nothing {o : Options} {code : Text} {t : Tree} {r : Report}
    (h : run o code t = .ok r) :
    (r.succeeded = true ∧ r.errors = [] ∧ trySplit o code t = ⟨.ok r.modules, r.trace⟩ ∧
        Trace.openPhases r.trace.events = [] ∧
        Trace.brackets r.trace.events =
          .opens none wholePhase :: (inTurn pipeline ++ [.closes wholePhase]) ∨
      ∃ refusal done failed, trySplit o code t = ⟨.error (.refused refusal), r.trace⟩ ∧
        r.succeeded = false ∧ r.errors = [refusal.message] ∧ r.modules = ⟨[], [], []⟩ ∧
        failed ∈ refusal.category.phases ∧
        Trace.openPhases r.trace.events = [wholePhase, failed] ∧ done ++ [failed] <+: pipeline ∧
        Trace.brackets r.trace.events =
          .opens none wholePhase :: (inTurn done ++ [.opens (some wholePhase) failed])) ∧
    ∀ e ∈ r.trace.events,
      (∀ name writable, e.what = .bindingFound name writable →
        Trace.parentPhase? r.trace.events e = some "Extraction") ∧
      ∀ form before after offset, e.what = .mutation form before after offset →
        Trace.parentPhase? r.trace.events e = some "Rewriting" := by
  obtain ⟨htrace, houtcome⟩ := run_eq_ok h
  have hpair : ∀ x, (trySplit o code t).result = x → trySplit o code t = ⟨x, r.trace⟩ := by
    rintro _ rfl
    rw [htrace]
  rcases trySplit_cases o code t with ⟨m, bs, ms, hm, hview⟩ | ⟨s, done, failed, hdone, hstops⟩
  · rw [← htrace] at hview
    rcases houtcome with ⟨hresult, hsucceeded, herrors⟩ | ⟨_, hresult, _⟩
    · exact ⟨.inl ⟨hsucceeded, herrors, hpair _ hresult, openPhases_of_shown hview,
        congrArg Trace.View.brackets hview⟩, fun _ he => parentPhase?_of_shown hview he⟩
    · cases hresult.symm.trans hm
  · obtain ⟨bs, ms, hview⟩ := hstops.view
    rw [← htrace] at hview
    rcases houtcome with ⟨hresult, _⟩ | ⟨refusal, hresult, hsucceeded, herrors, hmodules⟩
    · cases hresult.symm.trans hstops.result
    · obtain rfl : s = .refused refusal := Except.error.inj (hstops.result.symm.trans hresult)
      exact ⟨.inr ⟨refusal, done, failed, hpair _ hresult, hsucceeded, herrors, hmodules,
        hstops.cause refusal rfl, openPhases_of_shown hview, hdone, congrArg Trace.View.brackets hview⟩,
        fun _ he => parentPhase?_of_shown hview he⟩

namespace Sample

def brokenCode : Text := "let a; app([a, class \x7b\x7d])".toList

def brokenTree : Tree :=
  node "program" "" 0 25
    [node "lexical_declaration" "" 0 6
      [token "let" "kind" 0 3, node "variable_declarator" "" 4 5 [node "identifier" "name" 4 5 []]],
    node "expression_statement" "" 7 25
      [node "call_expression" "" 7 25
        [node "identifier" "function" 7 10 [],
        node "arguments" "arguments" 10 25
          [node "array" "" 11 24 [node "identifier" "" 12 13 [], node "class" "" 15 23 []]]]]]

theorem exists_report {o : Options} {code : Text} {t : Tree} {check : Report → Bool}
    (h : (run o code t).toOption.any check = true) : ∃ r, run o code t = .ok r ∧ check r = true := by
  cases hr : run o code t with
  | error s => simp [hr, Except.toOption] at h
  | ok r => exact ⟨r, rfl, by simpa [hr, Except.toOption] using h⟩

def isRefusedAs (cat : Refusal.Category) : Except Stop Modules → Bool
  | .error (.refused r) => r.category = cat
  | _ => false

end Sample

theorem sample_run_all_or_nothing :
    (∃ r, run Sample.options Sample.code Sample.tree = .ok r ∧ r.succeeded = true ∧
      trySplit Sample.options Sample.code Sample.tree = ⟨.ok r.modules, r.trace⟩ ∧
      Trace.openPhases r.trace.events = []) ∧
    ∃ r, run Sample.options Sample.brokenCode Sample.brokenTree = .ok r ∧ r.succeeded = false ∧
      r.modules = ⟨[], [], []⟩ ∧ Trace.openPhases r.trace.events = [wholePhase, "Rewriting"] ∧
      ∃ e ∈ r.trace.events, e.what = .mutation "Identifier" "a" "(locals.a)" 12 ∧
        Trace.parentPhase? r.trace.events e = some "Rewriting" := by
  constructor
  · obtain ⟨r, hr, hsucceeded⟩ : ∃ r, run Sample.options Sample.code Sample.tree = .ok r ∧
        r.succeeded = true := Sample.exists_report (by decide +kernel)
    obtain ⟨⟨_, _, htry, hopen, _⟩ | ⟨_, _, _, _, hfailed, _⟩, _⟩ := run_all_or_nothing hr
    · exact ⟨r, hr, hsucceeded, htry, hopen⟩
    · rw [hsucceeded] at hfailed
      cases hfailed
  · have hrefused : Sample.isRefusedAs .construct
        (trySplit Sample.options Sample.brokenCode Sample.brokenTree).result = true := by decide +kernel
    obtain ⟨r, hr, hmutation⟩ : ∃ r, run Sample.options Sample.brokenCode Sample.brokenTree = .ok r ∧
        decide (∃ e ∈ r.trace.events, e.what = .mutation "Identifier" "a" "(locals.a)" 12) = true :=
      Sample.exists_report (by decide +kernel)
    obtain ⟨e, he, hwhat⟩ := of_decide_eq_true hmutation
    obtain ⟨⟨_, _, htry, _⟩ | ⟨refusal, _, failed, htry, hfailed, _, hmodules, hphase, hopen, _⟩,
      hparents⟩ := run_all_or_nothing hr
    · rw [htry] at hrefused
      cases hrefused
    · rw [htry] at hrefused
      have hcat : refusal.category = .construct := of_decide_eq_true hrefused
      obtain rfl : failed = "Rewriting" := by simpa [hcat, Refusal.Category.phases] using hphase
      exact ⟨r, hr, hfailed, hmodules, hopen, e, he, hwhat, (hparents e he).2 _ _ _ _ hwhat⟩

end ScriptSplit
