import ScriptSplit.Proofs.Replay
import ScriptSplit.Proofs.Sketch

namespace ScriptSplit

theorem Scope.hide_eq_self {s : Scope} {xs : List String} (h : ∀ x ∈ xs, s.has x = false) :
    s.hide xs = s := by
  induction xs with
  | nil => rfl
  | cons x xs ih =>
      have hx : s.shadow x = s := by
        have hmem : x ∉ s.names := by simpa [has] using h x List.mem_cons_self
        have hkeep : s.names.filter (· != x) = s.names := by
          refine List.filter_eq_self.mpr fun y hy => ?_
          simpa using fun hyx : y = x => hmem (hyx ▸ hy)
        rw [shadow, hkeep]
      change (s.shadow x).hide xs = s
      rw [hx]
      exact ih fun y hy => h y (List.mem_cons_of_mem x hy)

namespace Walk

theorem andThen_assoc (w : Walk) (f g : Scope → Walk) :
    (w.andThen f).andThen g = w.andThen fun s => (f s).andThen g := by
  obtain ⟨found, _ | s⟩ := w
  · rfl
  · simp only [andThen]
    split <;> simp [List.append_assoc, *]

theorem andThen_congr {w : Walk} {f g : Scope → Walk} (h : ∀ s, w.outcome = .ok s → f s = g s) :
    w.andThen f = w.andThen g := by
  obtain ⟨found, _ | s⟩ := w
  · rfl
  · simp [andThen, h s rfl]

end Walk

namespace Item

theorem walks_append (s : Scope) (is js : List Item) :
    walks s (is ++ js) = (walks s is).andThen fun s' => walks s' js := by
  induction is generalizing s with
  | nil => simp [walks, Walk.stay, Walk.andThen]
  | cons i is ih =>
      change (i.walk s).andThen (fun s' => walks s' (is ++ js)) = _
      rw [walks, Walk.andThen_assoc]
      exact Walk.andThen_congr fun s' _ => ih s'

@[simp] theorem walks_singleton (s : Scope) (i : Item) : walks s [i] = i.walk s := by
  rw [walks]
  obtain ⟨found, _ | s'⟩ := i.walk s <;> simp [walks, Walk.stay, Walk.andThen]

theorem walk_scoped {s : Scope} {is : List Item} (h : s.hide (allHides is) = s) :
    (Item.scoped is).walk s = walks s is := by
  have hfree := @walks_free s is
  rw [walk, Walk.within]
  cases hw : walks s is with
  | mk found outcome =>
      cases outcome with
      | error r => rfl
      | ok s' =>
          have hs : s' = s := (hfree (congrArg Walk.outcome hw)).2.trans h
          rw [hs]
          rfl

end Item

variable {names : List String}

def Scope.Among (names : List String) (s : Scope) : Prop := ∀ x, s.has x = true → x ∈ names

theorem Scope.Among.hide {s : Scope} (h : s.Among names) (xs : List String) :
    (s.hide xs).Among names := by
  intro x hx
  rw [has_hide, Bool.and_eq_true] at hx
  exact h x hx.1

theorem Scope.Among.hide_eq_self {s : Scope} (h : s.Among names) {xs : List String}
    (hxs : ∀ x ∈ names, x ∉ xs) : s.hide xs = s :=
  Scope.hide_eq_self fun x hx => by
    cases hs : s.has x with
    | false => rfl
    | true => exact absurd hx (hxs x (h x hs))

def Item.Alike (names : List String) (is js : List Item) : Prop :=
  ∀ s : Scope, s.Among names → Item.walks s is = Item.walks s js

namespace Item.Alike

variable {is is' js js' : List Item}

theorem refl (is : List Item) : Alike names is is := fun _ _ => rfl

theorem trans (h : Alike names is js) (h' : Alike names js js') : Alike names is js' :=
  fun s hs => (h s hs).trans (h' s hs)

theorem symm (h : Alike names is js) : Alike names js is := fun s hs => (h s hs).symm

theorem append (h : Alike names is js) (h' : Alike names is' js') :
    Alike names (is ++ is') (js ++ js') := by
  intro s hs
  rw [walks_append, walks_append, h s hs]
  refine Walk.andThen_congr fun s' hs' => ?_
  obtain ⟨_, rfl⟩ := walks_free s js hs'
  exact h' _ (hs.hide _)

theorem inScope (h : Alike names is js) : Alike names [.scoped is] [.scoped js] := by
  intro s hs
  rw [walks_singleton, walks_singleton, walk, walk, h s hs]

theorem unscoped (h : ∀ x ∈ names, x ∉ allHides is) : Alike names [.scoped is] is := by
  intro s hs
  rw [walks_singleton, walk_scoped (hs.hide_eq_self h)]

end Item.Alike

def Phrase.Alike (names : List String) (p : Phrase) : Prop :=
  Item.Alike names (p.outline true) (p.outline false)

mutual

theorem Sketch.alike : ∀ sk : Sketch, (∀ p ∈ sk.parts, p.Alike names) →
    Item.Alike names (sk.items true) (sk.items false)
  | .part p, h => h p (List.mem_singleton.mpr rfl)
  | .item i, _ => Item.Alike.refl [i]
  | .scoped ss, h => (Sketch.all_alike ss h).inScope

theorem Sketch.all_alike : ∀ ss : List Sketch, (∀ p ∈ Sketch.allParts ss, p.Alike names) →
    Item.Alike names (Sketch.allItems true ss) (Sketch.allItems false ss)
  | [], _ => Item.Alike.refl []
  | s :: ss, h =>
      (Sketch.alike s fun p hp => h p (List.mem_append_left _ hp)).append
        (Sketch.all_alike ss fun p hp => h p (List.mem_append_right _ hp))

end

namespace Phrase

inductive Contains : Phrase → Phrase → Prop
  | self (p : Phrase) : Contains p p
  | part {p q r : Phrase} : q ∈ p.pieces → Contains q r → Contains p r

/-- The names stay clear of what the legacy rules treat differently in a piece: no `for`-`of` loop
declares one of them in its header, and no handler in its parameter. -/
structure Indifferent (names : List String) (p : Phrase) : Prop where
  loops : ∀ s v r b isAwait, p.Contains (.stmt (.forOf s (.declare v) r b isAwait)) →
    ∀ x ∈ names, x ∉ v.binds
  handlers : ∀ s q b, p.Contains (.handler (.mk s (some q) b)) → ∀ x ∈ names, x ∉ q.binds

theorem Indifferent.part {p q : Phrase} (h : p.Indifferent names) (hq : q ∈ p.pieces) :
    q.Indifferent names :=
  ⟨fun s v r b w hc => h.loops s v r b w (.part hq hc), fun s r b hc => h.handlers s r b (.part hq hc)⟩

theorem alike_forOf {s : Span} {h : Head} {r : Expr} {b : Stmt} {isAwait : Bool}
    (hbinds : ∀ x ∈ names, x ∉ h.binds)
    (hr : (Phrase.expr r).Alike names) (hh : (Phrase.head h).Alike names)
    (hb : (Phrase.stmt b).Alike names) : (Phrase.stmt (.forOf s h r b isAwait)).Alike names := by
  have hbody : Item.Alike names (h.outline true ++ [.scoped (b.outline true)])
      [.scoped (h.outline false ++ [.scoped (b.outline false)])] := by
    refine (hh.append hb.inScope).trans (Item.Alike.unscoped ?_).symm
    simpa [outline] using hbinds
  simpa [Phrase.Alike, outline, Stmt.outline] using hr.append hbody

theorem alike_handler {s : Span} {p : Pattern} {b : Block} (hbinds : ∀ x ∈ names, x ∉ p.binds)
    (hp : (Phrase.declared p).Alike names) (hb : (Phrase.block b).Alike names) :
    (Phrase.handler (.mk s (some p) b)).Alike names := by
  have hparam : Item.Alike names [.scoped (p.declare true)] (p.declare false) :=
    hp.inScope.trans (Item.Alike.unscoped (by simpa [outline] using hbinds))
  have hall := (hparam.append hb.inScope).trans
    (@Item.Alike.unscoped names (p.declare false ++ [.scoped (b.outline false)])
      (by simpa using hbinds)).symm
  simpa [Phrase.Alike, outline, Handler.outline] using hall

theorem sketch_eq_or (p : Phrase) : p.sketch true = p.sketch false ∨
    (∃ s h r b isAwait, p = .stmt (.forOf s h r b isAwait)) ∨ ∃ s q b, p = .handler (.mk s (some q) b) := by
  cases p with
  | stmt s =>
      cases s with
      | forOf s h r b isAwait => exact .inr (.inl ⟨s, h, r, b, isAwait, rfl⟩)
      | _ => exact .inl rfl
  | handler h =>
      obtain ⟨s, _ | q, b⟩ := h
      · exact .inl rfl
      · exact .inr (.inr ⟨s, q, b, rfl⟩)
  | case c => cases c; exact .inl rfl
  | _ => exact .inl rfl

theorem Indifferent.alike {p : Phrase} (h : p.Indifferent names) : p.Alike names := by
  induction p using Phrase.induction with
  | step p ih =>
      have hparts : ∀ q ∈ p.pieces, q.Alike names := fun q hq => ih q hq (h.part hq)
      -- the rules differ in the scopes of two constructs, where what is declared is none of the names
      obtain hsame | ⟨s, head, r, b, isAwait, rfl⟩ | ⟨s, q, b, rfl⟩ := p.sketch_eq_or
      · unfold Phrase.Alike
        rw [outline_eq, outline_eq, hsame]
        exact Sketch.all_alike _ fun q hq => hparts q (mem_pieces_of_sketch false hq)
      · have hbinds : ∀ x ∈ names, x ∉ head.binds := by
          cases head with
          | declare v => exact h.loops s v r b isAwait (.self _)
          | target p => exact fun _ _ => List.not_mem_nil
        refine alike_forOf hbinds ?_ ?_ ?_ <;> exact hparts _ (by simp [pieces, parts, Stmt.parts])
      · refine alike_handler (h.handlers s q b (.self _)) ?_ ?_ <;>
          exact hparts _ (by simp [pieces, parts, Handler.parts])

end Phrase

theorem Scope.among_ofNames (names : List String) : (ofNames names).Among names := by
  intro x hx
  simpa using hx

theorem Expr.walk_legacy {e : Expr} (h : (Phrase.expr e).Indifferent names) :
    e.walk true names = e.walk false names :=
  h.alike _ (Scope.among_ofNames names)

theorem Expr.reroute_legacy {e : Expr} (h : (Phrase.expr e).Indifferent names) (locals : String)
    (d : Draft) : e.reroute ⟨locals, true⟩ names d = e.reroute ⟨locals, false⟩ names d := by
  simp only [Expr.reroute, Expr.walk_legacy h]

def Entry.isPlain : Entry → Bool
  | .property _ _ _ computed shorthand => !computed && shorthand
  | .rest .. => true

def Stmt.declaresPlainly : Stmt → Bool
  | .declare (.mk _ _ ds) =>
      ds.all fun
        | .mk _ (.object _ es) _ => es.all Entry.isPlain
        | _ => true
  | _ => true

theorem Entry.names_of_isPlain {e : Entry} (h : e.isPlain = true) : e.names = (fun x => [x]) <$> e.keyName := by
  cases e with
  | property s key value computed shorthand =>
      obtain ⟨rfl, rfl⟩ : computed = false ∧ shorthand = true := by simpa [isPlain] using h
      cases key <;> rfl
  | rest s p => rfl

theorem Entry.allNames_of_isPlain {es : List Entry} (h : ∀ e ∈ es, e.isPlain = true) :
    Entry.allNames es = es.mapM Entry.keyName := by
  induction es with
  | nil => rfl
  | cons e es ih =>
      rw [Entry.allNames, Entry.names_of_isPlain (h e List.mem_cons_self),
        ih fun e' he' => h e' (List.mem_cons_of_mem e he'), List.mapM_cons]
      cases e.keyName with
      | error r => rfl
      | ok x => rfl

theorem Stmt.bindings_legacy {s : Stmt} (h : s.declaresPlainly = true) (entry : String) (code : Text) :
    s.bindings entry true code = s.bindings entry false code := by
  cases s with
  | declare v =>
      obtain ⟨whole, kind, ds⟩ := v
      refine congrArg Extraction.concat (List.map_congr_left fun d hd => ?_)
      obtain ⟨inner, target, init⟩ := d
      have hnames : target.declaredNames true code = target.declaredNames false code := by
        cases target with
        | object s es =>
            have hplain := List.all_eq_true.mp (List.all_eq_true.mp h _ hd)
            exact (Entry.allNames_of_isPlain hplain).symm
        | expr e => cases e <;> rfl
        | _ => rfl
      simp only [Declarator.bindings, hnames]
  | imports s source names typeOnly => cases typeOnly <;> rfl
  | _ => rfl

theorem extract_legacy {ss : List Stmt} (h : ∀ s ∈ ss, s.declaresPlainly = true) (entry : String) (code : Text) :
    extract entry true code ss = extract entry false code ss :=
  congrArg Extraction.concat (List.map_congr_left fun s hs => Stmt.bindings_legacy (h s hs) entry code)

theorem Traced.Writes.bind_congr {α β : Type} {x : Traced α} {r : Except Stop α} {what : List Happening}
    (hx : x.Writes r what) {f g : α → Traced β} (h : ∀ a, r = .ok a → f a = g a) : x >>= f = x >>= g := by
  funext t
  have hrun : (x >>= f).run.run t = (x >>= g).run.run t := by
    rw [run_bind, run_bind, hx t]
    cases r with
    | error s => rfl
    | ok a => exact congrArg (fun y : Traced β => y.run.run (t.tellAll what)) (h a rfl)
  exact hrun

theorem splitTraced_legacy {o : Options} {code : Text} {t : Tree}
    (hplain : ∀ p e, readScript code t = .ok p → p.locate o.entryName code = .ok e →
      ∀ s ∈ e.others, s.declaresPlainly = true)
    (hsame : ∀ e bs, prepare { o with legacy := false } code t = .ok (e, bs) →
      (Phrase.expr e.argument).Indifferent (bs.map Binding.name)) :
    splitTraced { o with legacy := true } code t = splitTraced { o with legacy := false } code t := by
  unfold splitTraced
  refine congrArg (Traced.phase _ _) ?_
  refine ((Traced.writes_lift rfl).phase _ _).bind_congr fun p hp => ?_
  refine ((Traced.writes_lift rfl).phase _ _).bind_congr fun e he => ?_
  have hextract : extractTraced { o with legacy := true } code e.others =
      extractTraced { o with legacy := false } code e.others := by
    simp only [extractTraced, extract_legacy (hplain p e hp he)]
  rw [hextract]
  refine ((writes_extractTraced _ code e.others).phase _ _).bind_congr fun bs hbs => ?_
  have hprepare : prepare { o with legacy := false } code t = .ok (e, bs) := by
    simp only [prepare, hp, he, hbs, bind, Except.bind, pure, Except.pure]
  have hreroute : rerouteTraced { o with legacy := true } e (bs.map Binding.name) =
      rerouteTraced { o with legacy := false } e (bs.map Binding.name) := by
    simp only [rerouteTraced, Options.rules, Expr.walk_legacy (hsame e bs hprepare),
      Expr.reroute_legacy (hsame e bs hprepare)]
  rw [hreroute]
  rfl

/-- The legacy rules change neither what comes of a split nor its trace, where the object patterns
that the script declares bind their keys and the argument declares none of the bindings in the header
of a `for`-`of` loop or as the parameter of a handler. -/
theorem trySplit_legacy {o : Options} {code : Text} {t : Tree}
    (hplain : ∀ p e, readScript code t = .ok p → p.locate o.entryName code = .ok e →
      ∀ s ∈ e.others, s.declaresPlainly = true)
    (hsame : ∀ e bs, prepare { o with legacy := false } code t = .ok (e, bs) →
      (Phrase.expr e.argument).Indifferent (bs.map Binding.name)) :
    trySplit { o with legacy := true } code t = trySplit { o with legacy := false } code t ∧
      run { o with legacy := true } code t = run { o with legacy := false } code t := by
  have htry : trySplit { o with legacy := true } code t = trySplit { o with legacy := false } code t := by
    simp only [trySplit, splitTraced_legacy hplain hsame]
  exact ⟨htry, by simp only [run, htry]⟩

namespace Phrase

def isClear (names : List String) : Phrase → Bool
  | .stmt (.forOf _ (.declare v) ..) => names.all fun x => !v.binds.contains x
  | .handler (.mk _ (some q) _) => names.all fun x => !q.binds.contains x
  | _ => true

def isClearTo (names : List String) : Nat → Phrase → Bool
  | 0, _ => false
  | n + 1, p => p.isClear names && p.pieces.all (isClearTo names n)

theorem isClear_of_contains {p q : Phrase} (hpq : p.Contains q) :
    ∀ n, p.isClearTo names n = true → q.isClear names = true := by
  induction hpq with
  | self p =>
      intro n h
      cases n with
      | zero => cases h
      | succ n => exact (Bool.and_eq_true_iff.mp h).1
  | part hq _ ih =>
      intro n h
      cases n with
      | zero => cases h
      | succ n => exact ih n (List.all_eq_true.mp (Bool.and_eq_true_iff.mp h).2 _ hq)

theorem indifferent_of_isClearTo {p : Phrase} {n : Nat} (h : p.isClearTo names n = true) :
    p.Indifferent names := by
  constructor
  · intro s v r b isAwait hc
    simpa [isClear] using isClear_of_contains hc n h
  · intro s q b hc
    simpa [isClear] using isClear_of_contains hc n h

end Phrase

namespace Sample

def loopCode : Text := "let \x7ba\x7d = 0; app(() => \x7b for (const b of a) try \x7b\x7d catch (e) \x7b a; \x7d \x7d)".toList

def loopTree : Tree :=
  node "program" "" 0 70
    [node "lexical_declaration" "" 0 12
      [token "let" "kind" 0 3,
      node "variable_declarator" "" 4 11
        [node "object_pattern" "name" 4 7
          [node "shorthand_property_identifier_pattern" "" 5 6 []],
        node "number" "value" 10 11 []]],
    node "expression_statement" "" 13 70
      [node "call_expression" "" 13 70
        [node "identifier" "function" 13 16 [],
        node "arguments" "arguments" 16 70
          [node "arrow_function" "" 17 69
            [node "formal_parameters" "parameters" 17 19 [],
            node "statement_block" "body" 23 69
              [node "for_in_statement" "" 25 67
                [token "const" "kind" 30 35,
                node "identifier" "left" 36 37 [],
                token "of" "operator" 38 40,
                node "identifier" "right" 41 42 [],
                node "try_statement" "body" 44 67
                  [node "statement_block" "body" 48 50 [],
                  node "catch_clause" "handler" 51 67
                    [node "identifier" "parameter" 58 59 [],
                    node "statement_block" "body" 61 67
                      [node "expression_statement" "" 63 65
                        [node "identifier" "" 63 64 []]]]]]]]]]]]

theorem plain_loopTree (p : Program) (e : EntryPoint) (hp : readScript loopCode loopTree = .ok p)
    (he : p.locate options.entryName loopCode = .ok e) : ∀ s ∈ e.others, s.declaresPlainly = true := by
  have h : (match readScript loopCode loopTree with
      | .error _ => false
      | .ok p =>
          match p.locate options.entryName loopCode with
          | .error _ => false
          | .ok e => e.others.all Stmt.declaresPlainly) = true := by decide +kernel
  rw [hp] at h
  simp only [he] at h
  exact List.all_eq_true.mp h

theorem indifferent_loopTree (e : EntryPoint) (bs : List Binding)
    (h : prepare options loopCode loopTree = .ok (e, bs)) :
    (Phrase.expr e.argument).Indifferent (bs.map Binding.name) := by
  have hclear : (match prepare options loopCode loopTree with
      | .error _ => false
      | .ok (e, bs) => (Phrase.expr e.argument).isClearTo (bs.map Binding.name) 12) = true := by
    decide +kernel
  rw [h] at hclear
  exact Phrase.indifferent_of_isClearTo hclear

end Sample

theorem trySplit_legacy_loopTree :
    (∃ m, split Sample.options Sample.loopCode Sample.loopTree = .ok m ∧ m.bindings = [⟨"a", true⟩]) ∧
      trySplit { Sample.options with legacy := true } Sample.loopCode Sample.loopTree =
        trySplit { Sample.options with legacy := false } Sample.loopCode Sample.loopTree ∧
      run { Sample.options with legacy := true } Sample.loopCode Sample.loopTree =
        run { Sample.options with legacy := false } Sample.loopCode Sample.loopTree :=
  ⟨Sample.split_bindings (by decide +kernel),
    trySplit_legacy Sample.plain_loopTree Sample.indifferent_loopTree⟩

end ScriptSplit
