import ScriptSplit.Proofs.Backing

namespace ScriptSplit

mutual

inductive Pattern.Gives (x : String) : Pattern → Prop
  | name (i : Ident) : i.name = x → Pattern.Gives x (.expr (.ident i))
  | default {p : Pattern} (s : Span) (value : Expr) :
      Pattern.Gives x p → Pattern.Gives x (.default s p value)
  | entry {e : Entry} {es : List Entry} (s : Span) :
      e ∈ es → Entry.Gives x e → Pattern.Gives x (.object s es)

inductive Entry.Gives (x : String) : Entry → Prop
  | rest (s : Span) (i : Ident) : i.name = x → Entry.Gives x (.rest s (.expr (.ident i)))
  | shorthand (s : Span) (i : Ident) (value : Pattern) (computed : Bool) :
      i.name = x → Entry.Gives x (.property s (.ident i) value computed true)
  | value {p : Pattern} (s : Span) (key : Expr) (computed : Bool) :
      Pattern.Gives x p → Entry.Gives x (.property s key p computed false)

end

inductive Entry.Keyed (x : String) : Entry → Prop
  | rest (s : Span) (i : Ident) : i.name = x → Entry.Keyed x (.rest s (.expr (.ident i)))
  | key (s : Span) (i : Ident) (value : Pattern) (shorthand : Bool) :
      i.name = x → Entry.Keyed x (.property s (.ident i) value false shorthand)

/-- The names that the target of a top-level declaration gives: a member is named by its text, and an
object pattern by its keys under the legacy rules. -/
inductive Pattern.Declares (legacy : Bool) (code : Text) (x : String) : Pattern → Prop
  | name (i : Ident) : i.name = x → Pattern.Declares legacy code x (.expr (.ident i))
  | member (s : Span) (object property : Expr) (computed optional : Bool) :
      String.ofList (code.slice s.start s.stop) = x →
      Pattern.Declares legacy code x (.expr (.member s object property computed optional))
  | entry {e : Entry} {es : List Entry} (s : Span) :
      legacy = false → e ∈ es → e.Gives x → Pattern.Declares legacy code x (.object s es)
  | key {e : Entry} {es : List Entry} (s : Span) :
      legacy = true → e ∈ es → e.Keyed x → Pattern.Declares legacy code x (.object s es)

def Stmt.Declares (legacy : Bool) (code : Text) (x : String) (stmt : Stmt) : Prop :=
  ∃ s kind ds inner target init, stmt = .declare (.mk s kind ds) ∧ .mk inner target init ∈ ds ∧
    target.Declares legacy code x

def Stmt.Imports (x : String) (stmt : Stmt) : Prop :=
  ∃ s source names i, stmt = .imports s source names false ∧ i ∈ names ∧ i.typeOnly = false ∧
    i.name.name = x

section

variable {x : String}

theorem restName_eq_ok {s : Span} {p : Pattern} {y : String} (h : restName s p = .ok y) :
    ∃ i, p = .expr (.ident i) ∧ i.name = y := by
  unfold restName at h
  split at h
  · rename_i i
    exact ⟨i, rfl, Except.ok.inj h⟩
  · cases h

@[simp] theorem Pattern.gives_ident {i : Ident} : Pattern.Gives x (.expr (.ident i)) ↔ x = i.name := by
  refine ⟨?_, fun h => .name i h.symm⟩
  rintro ⟨_, rfl⟩
  rfl

@[simp] theorem Pattern.gives_default {s : Span} {p : Pattern} {value : Expr} :
    Pattern.Gives x (.default s p value) ↔ p.Gives x := by
  refine ⟨?_, .default s value⟩
  rintro ⟨⟩
  assumption

@[simp] theorem Pattern.gives_object {s : Span} {es : List Entry} :
    Pattern.Gives x (.object s es) ↔ ∃ e ∈ es, e.Gives x := by
  refine ⟨?_, fun ⟨_, he, hx⟩ => .entry s he hx⟩
  rintro ⟨⟩
  exact ⟨_, ‹_›, ‹_›⟩

@[simp] theorem Pattern.not_gives_array {s : Span} {ps : List (Option Pattern)} :
    ¬ Pattern.Gives x (.array s ps) := by
  rintro ⟨⟩

@[simp] theorem Entry.gives_rest {s : Span} {i : Ident} :
    Entry.Gives x (.rest s (.expr (.ident i))) ↔ x = i.name := by
  refine ⟨?_, fun h => .rest s i h.symm⟩
  rintro ⟨_, _, rfl⟩
  rfl

@[simp] theorem Entry.gives_shorthand {s : Span} {i : Ident} {value : Pattern} {computed : Bool} :
    Entry.Gives x (.property s (.ident i) value computed true) ↔ x = i.name := by
  refine ⟨?_, fun h => .shorthand s i value computed h.symm⟩
  rintro ⟨⟩
  exact Eq.symm ‹_›

@[simp] theorem Entry.gives_value {s : Span} {key : Expr} {value : Pattern} {computed : Bool} :
    Entry.Gives x (.property s key value computed false) ↔ value.Gives x := by
  refine ⟨?_, .value s key computed⟩
  rintro ⟨⟩
  assumption

@[simp] theorem Entry.keyed_rest {s : Span} {i : Ident} :
    Entry.Keyed x (.rest s (.expr (.ident i))) ↔ x = i.name := by
  refine ⟨?_, fun h => .rest s i h.symm⟩
  rintro ⟨_, _, rfl⟩
  rfl

@[simp] theorem Entry.keyed_property {s : Span} {i : Ident} {value : Pattern} {shorthand : Bool} :
    Entry.Keyed x (.property s (.ident i) value false shorthand) ↔ x = i.name := by
  refine ⟨?_, fun h => .key s i value shorthand h.symm⟩
  rintro ⟨⟩
  exact Eq.symm ‹_›

mutual

theorem Entry.mem_names : ∀ (e : Entry) {names : List String}, e.names = .ok names →
    (x ∈ names ↔ e.Gives x)
  | .rest s p, names, h => by
      rw [Entry.names] at h
      obtain ⟨y, hy, h⟩ := bind_eq_ok.mp h
      obtain ⟨i, rfl, rfl⟩ := restName_eq_ok hy
      cases h
      simp
  | .property s key value computed true, names, h => by
      cases key with
      | ident i =>
          cases h
          simp
      | _ => cases h
  | .property s key value computed false, names, h => by
      rw [Entry.names] at h
      rw [Pattern.mem_names value h, Entry.gives_value]

theorem Entry.mem_allNames : ∀ (es : List Entry) {names : List String}, Entry.allNames es = .ok names →
    (x ∈ names ↔ ∃ e ∈ es, e.Gives x)
  | [], names, h => by
      cases h
      simp
  | e :: es, names, h => by
      rw [Entry.allNames] at h
      obtain ⟨ys, hys, h⟩ := bind_eq_ok.mp h
      obtain ⟨zs, hzs, h⟩ := bind_eq_ok.mp h
      cases h
      rw [List.mem_append, Entry.mem_names e hys, Entry.mem_allNames es hzs]
      simp

theorem Pattern.mem_names : ∀ (p : Pattern) {names : List String}, p.names = .ok names →
    (x ∈ names ↔ p.Gives x)
  | .expr e, names, h => by
      cases e with
      | ident i =>
          cases h
          simp
      | _ => cases h
  | .default s p value, names, h => by
      rw [Pattern.names] at h
      rw [Pattern.mem_names p h, Pattern.gives_default]
  | .object s es, names, h => by
      rw [Pattern.names] at h
      rw [Entry.mem_allNames es h, Pattern.gives_object]
  | .array .., names, h => by
      cases h
      simp
  | .rest .., _, h => by cases h

end

theorem Entry.keyed_iff {e : Entry} {y : String} (h : e.keyName = .ok y) : e.Keyed x ↔ x = y := by
  unfold Entry.keyName at h
  split at h
  · obtain ⟨i, rfl, rfl⟩ := restName_eq_ok h
    exact Entry.keyed_rest
  · obtain rfl := Except.ok.inj h
    exact Entry.keyed_property
  · cases h

theorem Entry.mem_keyNames {es : List Entry} {names : List String} (h : es.mapM Entry.keyName = .ok names) :
    x ∈ names ↔ ∃ e ∈ es, e.Keyed x := by
  have hall := mapM_eq_ok h
  clear h
  induction hall with
  | nil => simp
  | cons hy _ ih => simp [ih, Entry.keyed_iff hy]

theorem Pattern.declares_object {legacy : Bool} {code : Text} {s : Span} {es : List Entry} :
    Pattern.Declares legacy code x (.object s es) ↔
      if legacy then ∃ e ∈ es, e.Keyed x else ∃ e ∈ es, e.Gives x := by
  constructor
  · rintro (_ | _ | ⟨_, hlegacy, he, hx⟩ | ⟨_, hlegacy, he, hx⟩)
    · rw [hlegacy]
      exact ⟨_, he, hx⟩
    · rw [hlegacy]
      exact ⟨_, he, hx⟩
  · cases hlegacy : legacy with
    | true => exact fun ⟨_, he, hx⟩ => .key s rfl he hx
    | false => exact fun ⟨_, he, hx⟩ => .entry s rfl he hx

theorem Pattern.mem_declaredNames {legacy : Bool} {code : Text} {p : Pattern} {names : List String}
    (h : p.declaredNames legacy code = .ok names) : x ∈ names ↔ p.Declares legacy code x := by
  unfold Pattern.declaredNames at h
  split at h
  · rename_i i
    cases h
    refine ⟨fun hx => .name i (List.mem_singleton.mp hx).symm, ?_⟩
    rintro ⟨_, rfl⟩
    exact List.mem_singleton_self _
  · cases h
    refine ⟨fun hx => .member _ _ _ _ _ (List.mem_singleton.mp hx).symm, ?_⟩
    rintro ⟨⟩
    exact List.mem_singleton.mpr (Eq.symm ‹_›)
  · cases h
    refine iff_of_false List.not_mem_nil ?_
    rintro ⟨⟩
  · rw [Pattern.declares_object]
    split at h
    · exact (Entry.mem_keyNames h).trans (by simp [*])
    · exact (Entry.mem_allNames _ h).trans (by simp [*])
  · cases h

end

namespace Extraction

theorem bindings_concat {xs : List Extraction} (h : (concat xs).refusal = .none) :
    (concat xs).bindings = xs.flatMap bindings ∧ ∀ x ∈ xs, x.refusal = .none := by
  induction xs with
  | nil => exact ⟨rfl, by simp⟩
  | cons x xs ih =>
      have hcons : concat (x :: xs) = x.append (concat xs) := rfl
      rw [hcons] at h ⊢
      cases hx : x.refusal with
      | some r => simp [append, hx] at h
      | none =>
          simp only [append, hx] at h ⊢
          obtain ⟨hbindings, hnone⟩ := ih h
          rw [hbindings]
          exact ⟨rfl, List.forall_mem_cons.mpr ⟨hx, hnone⟩⟩

end Extraction

section

variable {entry x : String} {legacy : Bool} {code : Text}

theorem Declarator.mem_bindings {d : Declarator} {writable : Bool}
    (h : (d.bindings legacy writable code).refusal = none) :
    (∃ b ∈ (d.bindings legacy writable code).bindings, b.name = x) ↔
      ∃ inner target init, d = .mk inner target init ∧ target.Declares legacy code x := by
  obtain ⟨inner, target, init⟩ := d
  cases hnames : target.declaredNames legacy code with
  | error r => simp [Declarator.bindings, hnames] at h
  | ok names =>
      simp only [Declarator.bindings, hnames, List.mem_map]
      constructor
      · rintro ⟨_, ⟨y, hy, rfl⟩, rfl⟩
        exact ⟨inner, target, init, rfl, (Pattern.mem_declaredNames hnames).mp hy⟩
      · rintro ⟨_, _, _, ⟨⟩, hx⟩
        exact ⟨_, ⟨x, (Pattern.mem_declaredNames hnames).mpr hx, rfl⟩, rfl⟩

theorem Variables.mem_bindings {s : Span} {kind : String} {ds : List Declarator}
    (h : (Stmt.bindings entry legacy code (.declare (.mk s kind ds))).refusal = none) :
    (∃ b ∈ (Stmt.bindings entry legacy code (.declare (.mk s kind ds))).bindings, b.name = x) ↔
      Stmt.Declares legacy code x (.declare (.mk s kind ds)) := by
  obtain ⟨hbindings, hnone⟩ := Extraction.bindings_concat h
  have hmem : ∀ d ∈ ds, _ := fun d hd =>
    Declarator.mem_bindings (x := x) (hnone _ (List.mem_map_of_mem hd))
  rw [List.flatMap_map] at hbindings
  simp only [Stmt.bindings, hbindings]
  constructor
  · rintro ⟨b, hb, hx⟩
    obtain ⟨d, hd, hb⟩ := List.mem_flatMap.mp hb
    obtain ⟨inner, target, init, rfl, hdeclares⟩ := (hmem d hd).mp ⟨b, hb, hx⟩
    exact ⟨s, kind, ds, inner, target, init, rfl, hd, hdeclares⟩
  · rintro ⟨_, _, _, inner, target, init, ⟨⟩, hd, hdeclares⟩
    obtain ⟨b, hb, hx⟩ := (hmem _ hd).mpr ⟨inner, target, init, rfl, hdeclares⟩
    exact ⟨b, List.mem_flatMap.mpr ⟨_, hd, hb⟩, hx⟩

theorem ImportName.mem_bindings {s : Span} {source : Option String} {names : List ImportName} :
    (∃ b ∈ (Stmt.bindings entry legacy code (.imports s source names false)).bindings, b.name = x) ↔
      x ≠ entry ∧ Stmt.Imports x (.imports s source names false) := by
  constructor
  · rintro ⟨b, hb, rfl⟩
    obtain ⟨i, hi, rfl⟩ := List.mem_map.mp hb
    obtain ⟨hi, hkept⟩ := List.mem_filter.mp hi
    obtain ⟨htype, hname⟩ : i.typeOnly = false ∧ i.name.name ≠ entry := by simpa using hkept
    exact ⟨hname, s, source, names, i, rfl, hi, htype, rfl⟩
  · rintro ⟨hname, _, _, _, i, ⟨⟩, hi, htype, rfl⟩
    exact ⟨_, List.mem_map_of_mem (List.mem_filter.mpr ⟨hi, by simp [htype, hname]⟩), rfl⟩

theorem Stmt.mem_bindings {stmt : Stmt} (h : (stmt.bindings entry legacy code).refusal = none) :
    (∃ b ∈ (stmt.bindings entry legacy code).bindings, b.name = x) ↔
      stmt.Declares legacy code x ∨ x ≠ entry ∧ stmt.Imports x := by
  cases stmt with
  | declare v =>
      obtain ⟨s, kind, ds⟩ := v
      rw [Variables.mem_bindings h, or_iff_left]
      rintro ⟨_, _, _, _, _, ⟨⟩, _⟩
  | imports s source names typeOnly =>
      cases typeOnly with
      | false =>
          rw [ImportName.mem_bindings, or_iff_right]
          rintro ⟨_, _, _, _, _, _, ⟨⟩, _⟩
      | true =>
          refine iff_of_false (fun ⟨_, hb, _⟩ => nomatch hb) ?_
          rintro (⟨_, _, _, _, _, _, ⟨⟩, _⟩ | ⟨_, _, _, _, _, ⟨⟩, _⟩)
  | _ =>
      refine iff_of_false (fun ⟨_, hb, _⟩ => nomatch hb) ?_
      rintro (⟨_, _, _, _, _, _, ⟨⟩, _⟩ | ⟨_, _, _, _, _, ⟨⟩, _⟩)

theorem mem_extract {ss : List Stmt} (h : (extract entry legacy code ss).refusal = none) :
    (∃ b ∈ (extract entry legacy code ss).bindings, b.name = x) ↔
      ∃ s ∈ ss, s.Declares legacy code x ∨ x ≠ entry ∧ s.Imports x := by
  obtain ⟨hbindings, hnone⟩ := Extraction.bindings_concat h
  have hmem : ∀ s ∈ ss, _ := fun s hs => Stmt.mem_bindings (x := x) (hnone _ (List.mem_map_of_mem hs))
  rw [List.flatMap_map] at hbindings
  simp only [extract, hbindings]
  constructor
  · rintro ⟨b, hb, hx⟩
    obtain ⟨s, hs, hb⟩ := List.mem_flatMap.mp hb
    exact ⟨s, hs, (hmem s hs).mp ⟨b, hb, hx⟩⟩
  · rintro ⟨s, hs, hx⟩
    obtain ⟨b, hb, hx⟩ := (hmem s hs).mpr hx
    exact ⟨b, List.mem_flatMap.mpr ⟨s, hs, hb⟩, hx⟩

end

theorem Expr.mem_of_mem_found {legacy : Bool} {names : List String} {e : Expr} {m : Mutation}
    (hm : m ∈ (e.walk legacy names).found) : m.name.name ∈ names :=
  mem_of_mem_freeUses ((Item.walks_initial (Scope.ofNames names) (e.outline legacy)).subset hm)

/-- The entry name is shared just when a declaration gives it, never through an import; and unless it
is, no reference to it is rerouted. -/
theorem entry_shared_iff_declared {entry : String} {legacy : Bool} {code : Text} {ss : List Stmt}
    (h : (extract entry legacy code ss).refusal = none) :
    ((∃ b ∈ (extract entry legacy code ss).bindings, b.name = entry) ↔
      ∃ s ∈ ss, s.Declares legacy code entry) ∧
    ((∀ s ∈ ss, ¬ s.Declares legacy code entry) →
      (∀ b ∈ (extract entry legacy code ss).bindings, b.name ≠ entry) ∧
      ∀ (argument : Expr),
        ∀ m ∈ (argument.walk legacy ((extract entry legacy code ss).bindings.map Binding.name)).found,
          m.name.name ≠ entry) := by
  have hshared : (∃ b ∈ (extract entry legacy code ss).bindings, b.name = entry) ↔
      ∃ s ∈ ss, s.Declares legacy code entry := by
    simpa using mem_extract (x := entry) h
  refine ⟨hshared, fun hnone => ?_⟩
  have hclear : ∀ b ∈ (extract entry legacy code ss).bindings, b.name ≠ entry := by
    intro b hb hname
    obtain ⟨s, hs, hdeclares⟩ := hshared.mp ⟨b, hb, hname⟩
    exact hnone s hs hdeclares
  refine ⟨hclear, fun argument m hm => ?_⟩
  obtain ⟨b, hb, hname⟩ := List.mem_map.mp (Expr.mem_of_mem_found hm)
  rw [← hname]
  exact hclear b hb

namespace Sample

/-- An import of `app` and `b`, and a declaration with the key `app` and the name `c`. -/
def renamed : List Stmt :=
  [.imports ⟨0, 24, 1, 0⟩ (some "a")
    [⟨⟨8, 11, 1, 8⟩, ⟨⟨8, 11, 1, 8⟩, "app"⟩, false⟩, ⟨⟨13, 14, 1, 13⟩, ⟨⟨13, 14, 1, 13⟩, "b"⟩, false⟩] false,
  .declare (.mk ⟨25, 43, 1, 25⟩ "let"
    [.mk ⟨29, 42, 1, 29⟩
      (.object ⟨29, 37, 1, 29⟩ [.property ⟨30, 36, 1, 30⟩ (.ident ⟨⟨30, 33, 1, 30⟩, "app"⟩)
        (.expr (.ident ⟨⟨35, 36, 1, 35⟩, "c"⟩)) false false])
      (some (.ident ⟨⟨41, 42, 1, 41⟩, "b"⟩))])]

def sharingCode : Text := "let app; app(app)".toList

def sharingTree : Tree :=
  node "program" "" 0 17
    [node "lexical_declaration" "" 0 8
      [token "let" "kind" 0 3, node "variable_declarator" "" 4 7 [node "identifier" "name" 4 7 []]],
    node "expression_statement" "" 9 17
      [node "call_expression" "" 9 17
        [node "identifier" "function" 9 12 [],
        node "arguments" "arguments" 12 17 [node "identifier" "" 13 16 []]]]]

end Sample

theorem sample_entry_shared_iff_declared :
    (extract "app" false [] Sample.renamed).refusal = none ∧
    (extract "app" true [] Sample.renamed).refusal = none ∧
    (∀ b ∈ (extract "app" false [] Sample.renamed).bindings, b.name ≠ "app") ∧
    (∀ m ∈ (Expr.walk false ((extract "app" false [] Sample.renamed).bindings.map Binding.name)
      (.ident ⟨⟨0, 3, 1, 0⟩, "app"⟩)).found, m.name.name ≠ "app") ∧
    ∃ s ∈ Sample.renamed, s.Declares true [] "app" := by
  have hdefault : (extract "app" false [] Sample.renamed).refusal = none := by decide +kernel
  have hlegacy : (extract "app" true [] Sample.renamed).refusal = none := by decide +kernel
  have hnone : ∀ s ∈ Sample.renamed, ¬ s.Declares false [] "app" := by
    intro s hs hdeclares
    have hshared := (entry_shared_iff_declared hdefault).1.mpr ⟨s, hs, hdeclares⟩
    revert hshared
    decide +kernel
  obtain ⟨hclear, hfound⟩ := (entry_shared_iff_declared hdefault).2 hnone
  exact ⟨hdefault, hlegacy, hclear, hfound _,
    (entry_shared_iff_declared hlegacy).1.mp ⟨⟨"app", true⟩, by decide +kernel⟩⟩

/-- A variable with the entry name is shared, and a reference to it is rerouted. -/
theorem declared_entry_is_shared :
    ∃ m, split Sample.options Sample.sharingCode Sample.sharingTree = .ok m ∧
      m.bindings = [⟨Sample.options.entryName, true⟩] ∧
      (trySplit Sample.options Sample.sharingCode Sample.sharingTree).trace.patches =
        [⟨13, "app".toList, "(locals.app)".toList⟩] := by
  obtain ⟨m, hm, hbindings⟩ : ∃ m, split Sample.options Sample.sharingCode Sample.sharingTree = .ok m ∧
      m.bindings = [⟨Sample.options.entryName, true⟩] := Sample.split_bindings (by decide +kernel)
  exact ⟨m, hm, hbindings, by decide +kernel⟩

end ScriptSplit
