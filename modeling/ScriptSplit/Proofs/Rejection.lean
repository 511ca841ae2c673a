import ScriptSplit.Proofs.MainText
import ScriptSplit.Proofs.Refused
import ScriptSplit.Proofs.Restriction
import ScriptSplit.Proofs.Tidiness

/-!
An entry argument is refused just when a form that gives offence stands somewhere in it. What is said
then does not depend on the names, on the name of the locals, or on the scoping rules.
-/

namespace ScriptSplit

theorem Expr.exists_of_isIdent {e : Expr} (h : e.isIdent = true) : ∃ i, e = .ident i := by
  cases e <;> first | exact ⟨_, rfl⟩ | cases h

theorem Pattern.exists_of_isIdent {p : Pattern} (h : p.isIdent = true) : ∃ i, p = .expr (.ident i) := by
  cases p with
  | expr e =>
      obtain ⟨i, rfl⟩ := Expr.exists_of_isIdent h
      exact ⟨i, rfl⟩
  | _ => cases h

theorem Pattern.declaredSketch_rest (s : Span) {p : Pattern} (h : p.isIdent = false) :
    (Pattern.rest s p).declaredSketch = refusing (.restTarget s.position) := by
  cases p with
  | expr e => cases e <;> first | rfl | cases h
  | _ => rfl

theorem Entry.declaredSketch_rest (s : Span) {p : Pattern} (h : p.isIdent = false) :
    (Entry.rest s p).declaredSketch = refusing (.restTarget s.position) := by
  cases p with
  | expr e => cases e <;> first | rfl | cases h
  | _ => rfl

theorem Entry.declaredValue_key (s : Span) {key : Expr} (value : Pattern) (h : key.isIdent = false) :
    declaredValue s key value true = refusing (.propertyKey s.position) := by
  cases key <;> first | rfl | cases h

theorem Entry.assignedValue_key (s : Span) {key : Expr} (value : Pattern) (h : key.isIdent = false) :
    assignedValue s key value true = refusing (.propertyKey s.position) := by
  cases key <;> first | rfl | cases h

theorem Entry.declaredValue_target (s : Span) (key : Expr) {value : Pattern}
    (h : value.isTarget = true) : declaredValue s key value false = Sketch.ofParts [.declared value] := by
  cases value with
  | expr e => cases e <;> first | rfl | cases h
  | rest s p => cases h
  | _ => rfl

theorem Entry.declaredValue_value (s : Span) (key : Expr) {value : Pattern} (h : value.isTarget = false) :
    ∃ form, declaredValue s key value false = refusing (.patternValue form value.span.position) := by
  cases value with
  | expr e => cases e <;> first | exact ⟨_, rfl⟩ | cases h
  | rest s p => exact ⟨_, rfl⟩
  | _ => cases h

namespace Phrase

variable {legacy : Bool} {p q : Phrase}

theorem offends_expr {e : Expr} {r : Refusal} (h : r ∈ Sketch.allRefusals e.sketch) :
    ∃ sp, (expr e).Offends r.category sp ∧ r.position? = some sp.position := by
  cases e with
  | classExpr s name =>
      obtain rfl : r = _ := List.mem_singleton.mp h
      exact ⟨s, .classExpr s name, rfl⟩
  | jsx s kind =>
      obtain rfl : r = _ := List.mem_singleton.mp h
      exact ⟨s, .jsx s kind, rfl⟩
  | unsupported s kind =>
      obtain rfl : r = _ := List.mem_singleton.mp h
      exact ⟨s, .unsupported s kind, rfl⟩
  | _ => simp [Expr.sketch, Sketch.function] at h

theorem offends_member {m : Member} {r : Refusal} (h : r ∈ Sketch.allRefusals m.sketch) :
    ∃ sp, (member m).Offends r.category sp ∧ r.position? = some sp.position := by
  cases m with
  | unsupported s kind =>
      obtain rfl : r = _ := List.mem_singleton.mp h
      exact ⟨s, .unsupportedMember s kind, rfl⟩
  | _ => simp [Member.sketch, Sketch.function] at h

theorem offends_stmt {x : Stmt} {r : Refusal} (h : r ∈ Sketch.allRefusals (x.sketch legacy)) :
    ∃ sp, (stmt x).Offends r.category sp ∧ r.position? = some sp.position := by
  cases x with
  | classDecl s name =>
      obtain rfl : r = _ := List.mem_singleton.mp h
      exact ⟨s, .classDecl s name, rfl⟩
  | imports s source names typeOnly =>
      obtain rfl : r = _ := List.mem_singleton.mp h
      exact ⟨s, .imports s source names typeOnly, rfl⟩
  | importAlias s name =>
      obtain rfl : r = _ := List.mem_singleton.mp h
      exact ⟨s, .importAlias s name, rfl⟩
  | exports s declaration =>
      obtain rfl : r = _ := List.mem_singleton.mp h
      exact ⟨s, .exports s declaration, rfl⟩
  | unsupported s kind =>
      obtain rfl : r = _ := List.mem_singleton.mp h
      exact ⟨s, .unsupportedStmt s kind, rfl⟩
  | ifElse s t c a => cases a <;> simp [Stmt.sketch, Sketch.inner] at h
  | tryCatch s b c f => cases f <;> simp [Stmt.sketch, Sketch.inner] at h
  | forOf s l r b isAwait => cases legacy <;> simp [Stmt.sketch, Sketch.inner] at h
  | _ => simp [Stmt.sketch, Sketch.inner, Sketch.function] at h

theorem offends_declared {p : Pattern} {r : Refusal} (h : r ∈ Sketch.allRefusals p.declaredSketch) :
    ∃ sp, (declared p).Offends r.category sp ∧ r.position? = some sp.position := by
  cases p with
  | expr e =>
      cases e with
      | ident i => simp [Pattern.declaredSketch] at h
      | member s o k computed optional =>
          obtain rfl : r = _ := List.mem_singleton.mp h
          exact ⟨s, .memberTarget _ rfl, rfl⟩
      | _ =>
          obtain rfl : r = _ := List.mem_singleton.mp h
          exact ⟨_, .target _ rfl rfl, rfl⟩
  | rest s p =>
      cases hp : p.isIdent with
      | true =>
          obtain ⟨i, rfl⟩ := Pattern.exists_of_isIdent hp
          simp [Pattern.declaredSketch] at h
      | false =>
          rw [Pattern.declaredSketch_rest s hp] at h
          obtain rfl : r = _ := List.mem_singleton.mp h
          exact ⟨s, .rest s p hp, rfl⟩
  | _ => simp [Pattern.declaredSketch] at h

theorem offends_declaredEntry {e : Entry} {r : Refusal} (h : r ∈ Sketch.allRefusals e.declaredSketch) :
    ∃ sp, (declaredEntry e).Offends r.category sp ∧ r.position? = some sp.position := by
  cases e with
  | property s key value computed isShort =>
      have h : r ∈ Sketch.allRefusals (Entry.declaredValue s key value isShort) := by
        simpa [Entry.declaredSketch] using h
      cases isShort with
      | true =>
          cases hkey : key.isIdent with
          | true =>
              obtain ⟨i, rfl⟩ := Expr.exists_of_isIdent hkey
              cases value <;> simp [Entry.declaredValue] at h
          | false =>
              rw [Entry.declaredValue_key s value hkey] at h
              obtain rfl : r = _ := List.mem_singleton.mp h
              exact ⟨s, .declaredKey s key value computed hkey, rfl⟩
      | false =>
          cases hvalue : value.isTarget with
          | true => simp [Entry.declaredValue_target s key hvalue] at h
          | false =>
              obtain ⟨form, heq⟩ := Entry.declaredValue_value s key hvalue
              rw [heq] at h
              obtain rfl : r = _ := List.mem_singleton.mp h
              exact ⟨value.span, .value s key value computed hvalue, rfl⟩
  | rest s p =>
      cases hp : p.isIdent with
      | true =>
          obtain ⟨i, rfl⟩ := Pattern.exists_of_isIdent hp
          simp [Entry.declaredSketch] at h
      | false =>
          rw [Entry.declaredSketch_rest s hp] at h
          obtain rfl : r = _ := List.mem_singleton.mp h
          exact ⟨s, .restEntry s p hp, rfl⟩

theorem offends_assignedEntry {e : Entry} {r : Refusal} (h : r ∈ Sketch.allRefusals e.assignedSketch) :
    ∃ sp, (assignedEntry e).Offends r.category sp ∧ r.position? = some sp.position := by
  cases e with
  | property s key value computed isShort =>
      have h : r ∈ Sketch.allRefusals (Entry.assignedValue s key value isShort) := by
        simpa [Entry.assignedSketch] using h
      cases isShort with
      | true =>
          cases hkey : key.isIdent with
          | true =>
              obtain ⟨i, rfl⟩ := Expr.exists_of_isIdent hkey
              cases value <;> simp [Entry.assignedValue] at h
          | false =>
              rw [Entry.assignedValue_key s value hkey] at h
              obtain rfl : r = _ := List.mem_singleton.mp h
              exact ⟨s, .assignedKey s key value computed hkey, rfl⟩
      | false => simp [Entry.assignedValue] at h
  | rest s p => simp [Entry.assignedSketch] at h

theorem offends_of_mem_sketch {r : Refusal} (h : r ∈ Sketch.allRefusals (p.sketch legacy)) :
    ∃ sp, p.Offends r.category sp ∧ r.position? = some sp.position := by
  match p with
  | .expr e => exact offends_expr h
  | .member m => exact offends_member h
  | .stmt x => exact offends_stmt h
  | .declared p => exact offends_declared h
  | .declaredEntry e => exact offends_declaredEntry h
  | .assignedEntry e => exact offends_assignedEntry h
  | .shorthand i => simp [sketch] at h
  | .handler (.mk _ param b) =>
      cases param <;> cases legacy <;> simp [sketch, Handler.sketch, Sketch.inner] at h
  | .case (.mk _ test ss) => simp [sketch, Sketch.ofStatements] at h
  | .block b => simp [sketch, Sketch.ofStatements] at h
  | .assigned _ | .variables _ | .declarator _ | .head _ | .enumMember _ => simp [sketch] at h

theorem exists_mem_sketch {cat : Refusal.Category} {sp : Span} (h : p.Offends cat sp) (legacy : Bool) :
    ∃ r, r ∈ Sketch.allRefusals (p.sketch legacy) := by
  cases h with
  | memberTarget e he => cases e <;> first | exact ⟨_, List.mem_singleton_self _⟩ | cases he
  | target e _ he => cases e <;> first | exact ⟨_, List.mem_singleton_self _⟩ | cases he
  | rest _ p hp => simp [sketch, Pattern.declaredSketch_rest sp hp, refusing]
  | restEntry _ p hp => simp [sketch, Entry.declaredSketch_rest sp hp, refusing]
  | declaredKey _ key value computed hkey =>
      simp [sketch, Entry.declaredSketch, Entry.declaredValue_key sp value hkey, refusing]
  | assignedKey _ key value computed hkey =>
      simp [sketch, Entry.assignedSketch, Entry.assignedValue_key sp value hkey, refusing]
  | value s key value computed hvalue =>
      obtain ⟨form, heq⟩ := Entry.declaredValue_value s key hvalue
      simp [sketch, Entry.declaredSketch, heq, refusing]
  | _ => exact ⟨_, List.mem_singleton_self _⟩

theorem Offends.category {cat : Refusal.Category} {sp : Span} (h : p.Offends cat sp) :
    cat = .construct ∨ cat = .pattern := by
  cases h <;> first | exact .inl rfl | exact .inr rfl

theorem includes_of_mem (h : q ∈ p.constituents) : p.Includes q := .inside h (.self q)

theorem includes_member {m : Member} (h : q ∈ m.parts.map Prod.snd) :
    (member m).Includes q ∨ ∃ i, q = .shorthand i := by
  cases m with
  | property s key value computed isShort =>
      simp only [Member.parts, List.map_append, Parts.map_snd_computedKey, List.mem_append] at h
      rcases h with h | h
      · cases computed with
        | false => cases h
        | true => exact .inl (includes_of_mem (by simp [List.mem_singleton.mp h]))
      · split at h
        · exact .inr ⟨_, List.mem_singleton.mp h⟩
        · exact .inl (includes_of_mem (by simp [List.mem_singleton.mp h]))
  | method s key ps b computed kind =>
      refine .inl (includes_of_mem ?_)
      simp only [Member.parts, List.map_append, Parts.map_snd_computedKey, Parts.map_snd_ofFunction,
        List.mem_append] at h
      cases computed <;> simp at h ⊢ <;> grind
  | spread s e => exact .inl (includes_of_mem h)
  | unsupported s kind => cases h

theorem includes_declared {p : Pattern} (h : q ∈ p.declaredParts.map Prod.snd) :
    (declared p).Includes q := by
  cases p with
  | expr e => cases h
  | rest s p => cases h
  | _ => exact includes_of_mem (by simpa [Pattern.declaredParts] using h)

theorem includes_declaredEntry {e : Entry} (h : q ∈ e.declaredParts.map Prod.snd) :
    (declaredEntry e).Includes q := by
  cases e with
  | property s key value computed isShort =>
      simp only [Entry.declaredParts, List.map_append, Parts.map_snd_computedKey, List.mem_append] at h
      rcases h with h | h
      · cases computed with
        | false => cases h
        | true => exact includes_of_mem (by simp [List.mem_singleton.mp h])
      · split at h
        · exact includes_of_mem (by simp [List.mem_singleton.mp h])
        · exact includes_of_mem (by simp [List.mem_singleton.mp h])
        · cases h
  | rest s p => cases h

theorem includes_assignedEntry {e : Entry} (h : q ∈ e.assignedParts.map Prod.snd) :
    (assignedEntry e).Includes q ∨ ∃ i, q = .shorthand i := by
  cases e with
  | property s key value computed isShort =>
      simp only [Entry.assignedParts, List.map_append, Parts.map_snd_computedKey, List.mem_append] at h
      rcases h with h | h
      · cases computed with
        | false => cases h
        | true => exact .inl (includes_of_mem (by simp [List.mem_singleton.mp h]))
      · split at h
        · exact .inl (includes_of_mem (by simp [List.mem_singleton.mp h]))
        · rename_i i t p e
          rcases List.mem_cons.mp h with h | h
          · exact .inr ⟨i, h⟩
          · -- the default value stands in the value of the entry, and so in the entry
            rw [List.mem_singleton.mp h]
            exact .inl (.inside (by simp) (includes_of_mem (p := assigned (.default t p e)) (by simp)))
        · exact .inr ⟨_, List.mem_singleton.mp h⟩
        · cases h
  | rest s p => exact .inl (includes_of_mem h)

/-- Whether all that stands in a piece is a part of it. -/
def isOpen : Phrase → Bool
  | .expr (.member ..) => false
  | .member _ => false
  | .declared _ => false
  | .declaredEntry _ => false
  | .assignedEntry _ => false
  | .stmt (.exports ..) => false
  | _ => true

theorem mem_pieces_iff : ∀ {p : Phrase}, p.isOpen = true → (q ∈ p.pieces ↔ q ∈ p.constituents)
  | .expr e, h => by
      cases e with
      | member s o k computed optional => cases h
      | _ => simp [pieces, parts, Expr.parts]
  | .stmt x, h => by
      cases x with
      | exports s declaration => cases h
      -- what a loop runs over is walked before its header
      | forIn s l r b | forOf s l r b isAwait =>
          simpa [pieces, parts, Stmt.parts] using or_left_comm
      | _ => simp [pieces, parts, Stmt.parts]
  | .assigned p, _ => by cases p <;> simp [pieces, parts, Pattern.assignedParts]
  | .handler (.mk _ param b), _ => by cases param <;> simp [pieces, parts, Handler.parts]
  | .head x, _ => by cases x <;> simp [pieces, parts]
  | .declarator (.mk _ target init), _ => by simpa [pieces, parts] using or_comm
  | .shorthand _, _ | .block _, _ | .case (.mk ..), _ | .variables (.mk ..), _
  | .enumMember (.mk ..), _ => by simp [pieces, parts]

theorem includes_of_mem_pieces (h : q ∈ p.pieces) : p.Includes q ∨ ∃ i, q = .shorthand i := by
  cases hopen : p.isOpen with
  | true => exact .inl (includes_of_mem ((mem_pieces_iff hopen).mp h))
  | false =>
      unfold isOpen at hopen
      split at hopen
      case h_1 s o k computed optional =>
        refine .inl (includes_of_mem ?_)
        cases computed with
        | false => exact List.mem_cons.mpr (.inl (List.mem_singleton.mp h))
        | true => exact h
      case h_2 m => exact includes_member h
      case h_3 p => exact .inl (includes_declared h)
      case h_4 e => exact .inl (includes_declaredEntry h)
      case h_5 e => exact includes_assignedEntry h
      case h_6 s declaration => cases h
      case h_7 => cases hopen

theorem exists_offends {r : Refusal} (h : r ∈ p.refusals legacy) :
    ∃ q sp, p.Includes q ∧ q.Offends r.category sp ∧ r.position? = some sp.position := by
  induction p using Phrase.induction with
  | step p ih =>
      rcases mem_refusals.mp h with hown | ⟨c, hc, hr⟩
      · obtain ⟨sp, hoffends, hpos⟩ := offends_of_mem_sketch hown
        exact ⟨p, sp, .self p, hoffends, hpos⟩
      · have hpiece := mem_pieces_of_sketch legacy hc
        rcases includes_of_mem_pieces hpiece with hinside | ⟨i, rfl⟩
        · obtain ⟨q, sp, hq, hoffends⟩ := ih c hpiece hr
          exact ⟨q, sp, hinside.trans hq, hoffends⟩
        · cases hr

theorem Offends.refuses {cat : Refusal.Category} {sp : Span} (h : p.Offends cat sp) (legacy : Bool) :
    p.Refuses legacy := by
  obtain ⟨r, hr⟩ := exists_mem_sketch h legacy
  exact ⟨r, mem_refusals.mpr (.inl hr)⟩

theorem not_refuses_key {e : Expr} (h : e.isKey = true) : ¬ (expr e).Refuses legacy := by
  unfold Expr.isKey at h
  split at h
  case h_4 => cases h
  all_goals
    rintro ⟨r, hr⟩
    cases hr

theorem not_refuses_ident (i : Ident) : ¬ (declared (.expr (.ident i))).Refuses legacy := by
  rintro ⟨r, hr⟩
  cases hr

theorem Refuses.of_key {e : Expr} {computed : Bool} (h : (expr e).Refuses legacy)
    (hplain : computed = true ∨ e.isKey = true) : computed = true :=
  hplain.resolve_right fun hkey => not_refuses_key hkey h

theorem refuses_member {m : Member} (htidy : (member m).Tidy) (hq : q ∈ m.constituents)
    (h : q.Refuses legacy) : (member m).Refuses legacy := by
  cases m with
  | property s key value computed isShort =>
      obtain ⟨hplain, hshort⟩ := htidy
      rcases List.mem_pair.mp hq with rfl | rfl
      · obtain rfl := h.of_key hplain
        exact h.of_piece (by simp [pieces, parts, Member.parts])
      · refine h.of_piece ?_
        simp only [pieces, parts, Member.parts, List.map_append]
        split
        · -- a shorthand that is refused would be a name
          rename_i i
          obtain rfl := hshort rfl
          exact absurd h (not_refuses_key rfl)
        · simp
  | method s key ps b computed kind =>
      rcases List.mem_cons.mp hq with rfl | hq
      · obtain rfl := h.of_key htidy
        exact h.of_piece (by simp [pieces, parts, Member.parts])
      · refine h.of_piece ?_
        simp only [pieces, parts, Member.parts, List.map_append, Parts.map_snd_ofFunction]
        exact List.mem_append_right _ hq
  | spread s e => exact h.of_piece hq
  | unsupported s kind => cases hq

theorem refuses_declared {p : Pattern} (hq : q ∈ p.constituents .declared .declaredEntry)
    (h : q.Refuses legacy) : (declared p).Refuses legacy := by
  cases p with
  | expr e =>
      obtain rfl := List.mem_singleton.mp hq
      cases hmember : e.isMember with
      | true => exact (Offends.memberTarget e hmember).refuses legacy
      | false =>
          cases hident : e.isIdent with
          | true =>
              obtain ⟨i, rfl⟩ := Expr.exists_of_isIdent hident
              exact absurd h (not_refuses_key rfl)
          | false => exact (Offends.target e hmember hident).refuses legacy
  | rest s p =>
      obtain rfl := List.mem_singleton.mp hq
      cases hp : p.isIdent with
      | true =>
          obtain ⟨i, rfl⟩ := Pattern.exists_of_isIdent hp
          exact absurd h (not_refuses_ident i)
      | false => exact (Offends.rest s p hp).refuses legacy
  | default s p e => exact h.of_piece hq
  | array s ps => exact h.of_piece (by simpa [pieces, parts, Pattern.declaredParts] using hq)
  | object s es => exact h.of_piece (by simpa [pieces, parts, Pattern.declaredParts] using hq)

theorem refuses_declaredEntry {e : Entry} (htidy : e.Tidy) (hq : q ∈ e.constituents .declared)
    (h : q.Refuses legacy) : (declaredEntry e).Refuses legacy := by
  cases e with
  | rest s p =>
      obtain rfl := List.mem_singleton.mp hq
      cases hp : p.isIdent with
      | true =>
          obtain ⟨i, rfl⟩ := Pattern.exists_of_isIdent hp
          exact absurd h (not_refuses_ident i)
      | false => exact (Offends.restEntry s p hp).refuses legacy
  | property s key value computed isShort =>
      cases isShort with
      | false =>
          rcases List.mem_pair.mp hq with rfl | rfl
          · obtain hplain | hkey | ⟨t, kind, rfl⟩ := htidy
            · obtain rfl := hplain
              exact h.of_piece (by simp [pieces, parts, Entry.declaredParts])
            · exact absurd h (not_refuses_key hkey)
            · exact (Offends.value s key _ computed rfl).refuses legacy
          · exact h.of_piece (by simp [pieces, parts, Entry.declaredParts])
      | true =>
          cases hkey : key.isIdent with
          | false => exact (Offends.declaredKey s key value computed hkey).refuses legacy
          | true =>
              obtain ⟨i, rfl⟩ := Expr.exists_of_isIdent hkey
              rcases List.mem_pair.mp hq with rfl | rfl
              · exact absurd h (not_refuses_key rfl)
              · obtain rfl | ⟨t, e, rfl⟩ := htidy i rfl
                · exact absurd h (not_refuses_ident i)
                · exact h.of_piece (by simp [pieces, parts, Entry.declaredParts])

theorem refuses_assignedEntry {e : Entry} (htidy : e.Tidy) (hq : q ∈ e.constituents .assigned)
    (h : q.Refuses legacy) : (assignedEntry e).Refuses legacy := by
  cases e with
  | rest s p => exact h.of_piece hq
  | property s key value computed isShort =>
      cases isShort with
      | false =>
          have hvalue : ∀ {q}, q = assigned value → q.Refuses legacy →
              (assignedEntry (.property s key value computed false)).Refuses legacy := by
            rintro _ rfl h
            exact h.of_piece (by simp [pieces, parts, Entry.assignedParts])
          rcases List.mem_pair.mp hq with rfl | rfl
          · obtain hplain | hkey | ⟨t, kind, rfl⟩ := htidy
            · obtain rfl := hplain
              exact h.of_piece (by simp [pieces, parts, Entry.assignedParts])
            · exact absurd h (not_refuses_key hkey)
            · refine hvalue rfl (Refuses.of_piece (q := expr (.unsupported t kind)) ?_ ?_)
              · exact (Offends.unsupported t kind).refuses legacy
              · simp [pieces, parts, Pattern.assignedParts]
          · exact hvalue rfl h
      | true =>
          cases hkey : key.isIdent with
          | false => exact (Offends.assignedKey s key value computed hkey).refuses legacy
          | true =>
              obtain ⟨i, rfl⟩ := Expr.exists_of_isIdent hkey
              rcases List.mem_pair.mp hq with rfl | rfl
              · exact absurd h (not_refuses_key rfl)
              · obtain rfl | ⟨t, e, rfl⟩ := htidy i rfl
                · obtain ⟨r, hr⟩ := h
                  cases hr
                · -- of a name and its default value, only the value can be refused
                  have he : (expr e).Refuses legacy := h
                  exact he.of_piece (by simp [pieces, parts, Entry.assignedParts])

theorem refuses_of_constituent (htidy : p.Tidy) (hq : q ∈ p.constituents) (h : q.Refuses legacy) :
    p.Refuses legacy := by
  cases hopen : p.isOpen with
  | true => exact h.of_piece ((mem_pieces_iff hopen).mpr hq)
  | false =>
      unfold isOpen at hopen
      split at hopen
      case h_1 s o k computed optional =>
        rcases List.mem_pair.mp hq with rfl | rfl
        · exact h.of_piece (by simp [pieces, parts, Expr.parts])
        · obtain rfl := h.of_key htidy
          exact h.of_piece (by simp [pieces, parts, Expr.parts])
      case h_2 m => exact refuses_member htidy hq h
      case h_3 p => exact refuses_declared hq h
      case h_4 e => exact refuses_declaredEntry htidy hq h
      case h_5 e => exact refuses_assignedEntry htidy hq h
      case h_6 s declaration => exact (Offends.exports s declaration).refuses legacy
      case h_7 => cases hopen

theorem Includes.refuses (h : p.Includes q) (htidy : p.AllTidy) (hq : q.Refuses legacy) :
    p.Refuses legacy := by
  induction h with
  | self => exact hq
  | inside hc _ ih =>
      obtain ⟨hself, hbelow⟩ := allTidy_iff.mp htidy
      exact refuses_of_constituent hself hc (ih (hbelow _ hc) hq)

theorem refuses_iff (htidy : p.AllTidy) :
    p.Refuses legacy ↔ ∃ q cat sp, p.Includes q ∧ q.Offends cat sp := by
  constructor
  · rintro ⟨r, hr⟩
    obtain ⟨q, sp, hq, hoffends, _⟩ := exists_offends hr
    exact ⟨q, r.category, sp, hq, hoffends⟩
  · rintro ⟨q, cat, sp, hq, hoffends⟩
    exact hq.refuses htidy (hoffends.refuses legacy)

theorem mutation_useAt (legacy : Bool) (p : Phrase) (path : List Nat) :
    (p.useAt legacy path).map Use.mutation = (p.useAt false path).map Use.mutation := by
  induction path generalizing p with
  | nil => rfl
  | cons i path ih =>
      have hparts : ((p.parts legacy)[i]?).map Prod.snd = ((p.parts false)[i]?).map Prod.snd := by
        rw [← List.getElem?_map, ← List.getElem?_map, pieces_eq, pieces_eq]
      simp only [useAt]
      cases hl : (p.parts legacy)[i]? <;> cases hf : (p.parts false)[i]? <;>
        simp_all [Function.comp_def]

end Phrase

namespace Expr.Spaced

variable {legacy : Bool} {e : Expr} {d : Draft}

theorem change (h : e.Spaced false d) (legacy : Bool) : e.Spaced legacy d := by
  have huse : ∀ {path u}, (Phrase.expr e).useAt legacy path = some u →
      ∃ u', (Phrase.expr e).useAt false path = some u' ∧ u'.mutation = u.mutation := by
    intro path u hu
    have hmutation := Phrase.mutation_useAt legacy (.expr e) path
    rw [hu] at hmutation
    exact Option.map_eq_some_iff.mp hmutation.symm
  constructor
  · intro path u hu
    obtain ⟨v, hv, hm⟩ := huse hu
    rw [← hm]
    exact h.admits path v hv
  · intro path path' u u' hu hu' hne
    obtain ⟨v, hv, hm⟩ := huse hu
    obtain ⟨v', hv', hm'⟩ := huse hu'
    rw [← hm, ← hm']
    exact h.apart path path' v v' hv hv' hne

theorem reroute_eq_error (h : e.Spaced false d) {rules : Rules} {names : List String} {stop : Stop} :
    e.reroute rules names d = .error stop ↔
      ∃ r, ((Phrase.expr e).refusals false).head? = some r ∧ stop = .refused r := by
  have hsame : (Phrase.expr e).refusals rules.legacy = (Phrase.expr e).refusals false := by
    cases rules.legacy with
    | false => rfl
    | true => exact Phrase.refusals_legacy _
  have hend := Item.walks_endsAt (e.outline rules.legacy) (Scope.ofNames names)
  change (e.walk rules.legacy names).EndsAt ((Phrase.expr e).refusals rules.legacy) at hend
  rw [hsame] at hend
  rw [(h.change rules.legacy).reroute_eq names]
  cases hrs : (Phrase.expr e).refusals false with
  | nil =>
      rw [hrs] at hend
      obtain ⟨s, hs⟩ := hend
      simp [hs]
  | cons r rs =>
      rw [hrs] at hend
      have hend : (e.walk rules.legacy names).outcome = .error r := hend
      simp [hend, eq_comm]

end Expr.Spaced

theorem argument_refused_exactly {entry : String} {code : Text} {t : Tree} {e : Expr} {d : Draft}
    (hargument : ArgumentIs entry code t e) (hspaced : e.Spaced false d) :
    (∀ rules names, (∃ stop, e.reroute rules names d = .error stop) ↔
      ∃ q cat sp, (Phrase.expr e).Includes q ∧ q.Offends cat sp) ∧
    (∀ rules names stop, e.reroute rules names d = .error stop →
      ∃ r q sp, stop = .refused r ∧ (r.category = .construct ∨ r.category = .pattern) ∧
        (Phrase.expr e).Includes q ∧ q.Offends r.category sp ∧ r.position? = some sp.position) ∧
    ∀ rules rules' names names' stop,
      e.reroute rules names d = .error stop ↔ e.reroute rules' names' d = .error stop := by
  obtain ⟨p, k, c, hread, hfind, he⟩ := hargument
  have htidy := EntryCall.argument_tidy hread hfind (EntryCall.argument_mem he)
  refine ⟨?_, ?_, ?_⟩
  · intro rules names
    have hrefuses : (Phrase.expr e).Refuses false ↔ _ := Phrase.refuses_iff htidy
    rw [← hrefuses]
    constructor
    · rintro ⟨stop, hstop⟩
      obtain ⟨r, hr, _⟩ := hspaced.reroute_eq_error.mp hstop
      exact ⟨r, List.mem_of_mem_head? hr⟩
    · rintro ⟨r, hr⟩
      cases hrs : (Phrase.expr e).refusals false with
      | nil => simp [hrs] at hr
      | cons r' rs => exact ⟨.refused r', hspaced.reroute_eq_error.mpr ⟨r', by simp [hrs], rfl⟩⟩
  · intro rules names stop hstop
    obtain ⟨r, hr, rfl⟩ := hspaced.reroute_eq_error.mp hstop
    obtain ⟨q, sp, hq, hoffends, hpos⟩ := Phrase.exists_offends (List.mem_of_mem_head? hr)
    exact ⟨r, q, sp, rfl, hoffends.category, hq, hoffends, hpos⟩
  · intro rules rules' names names' stop
    rw [hspaced.reroute_eq_error, hspaced.reroute_eq_error]

namespace Sample

def classCode : Text := "app(a => [a, b, class \x7b\x7d])".toList

def classTree : Tree :=
  node "program" "" 0 26
    [node "expression_statement" "" 0 26
      [node "call_expression" "" 0 26
        [node "identifier" "function" 0 3 [],
        node "arguments" "arguments" 3 26
          [node "arrow_function" "" 4 25
            [node "identifier" "parameter" 4 5 [],
            node "array" "body" 9 25
              [node "identifier" "" 10 11 [], node "identifier" "" 13 14 [],
              node "class" "" 16 24 []]]]]]]

def classArrow : Expr :=
  .arrow ⟨4, 25, 1, 4⟩ [.expr (.ident ⟨⟨4, 5, 1, 4⟩, "a"⟩)]
    (.expr (.array ⟨9, 25, 1, 9⟩ [.ident ⟨⟨10, 11, 1, 10⟩, "a"⟩, .ident ⟨⟨13, 14, 1, 13⟩, "b"⟩,
      .classExpr ⟨16, 24, 1, 16⟩ none])) false

def isClassArrow : Expr → Bool
  | .arrow s [.expr (.ident x)] (.expr (.array s' [.ident i, .ident j, .classExpr t name])) isAsync =>
      s = ⟨4, 25, 1, 4⟩ ∧ x = ⟨⟨4, 5, 1, 4⟩, "a"⟩ ∧ s' = ⟨9, 25, 1, 9⟩ ∧ i = ⟨⟨10, 11, 1, 10⟩, "a"⟩ ∧
        j = ⟨⟨13, 14, 1, 13⟩, "b"⟩ ∧ t = ⟨16, 24, 1, 16⟩ ∧ name = none ∧ isAsync = false
  | _ => false

theorem argumentIs_classArrow : ArgumentIs "app" classCode classTree classArrow := by
  have hread : ((readScript classCode classTree).toOption.bind argument?).any isClassArrow = true := by
    decide +kernel
  obtain ⟨e, he, hcheck⟩ := exists_argument hread
  unfold isClassArrow at hcheck
  split at hcheck
  · obtain ⟨rfl, rfl, rfl, rfl, rfl, rfl, rfl, rfl⟩ := of_decide_eq_true hcheck
    exact he
  · cases hcheck

theorem classArrow_spaced : classArrow.Spaced false (.ofText classCode) := by
  refine Expr.spaced_of_pairwise ?_ ?_
  · have hplaced : ∀ i ∈ Item.idents (classArrow.outline false),
        0 ≤ i.span.start ∧ i.span.start < i.span.stop ∧ i.span.stop ≤ 26 := by decide
    intro i hi
    obtain ⟨hstart, hne, hstop⟩ := hplaced i hi
    exact Draft.admits_ofText hstart hne hstop
  · unfold Span.Apart
    decide

theorem classArrow_includes :
    (Phrase.expr classArrow).Includes (.expr (.classExpr ⟨16, 24, 1, 16⟩ none)) :=
  .inside (List.mem_append_right _ List.mem_cons_self)
    (.inside (.tail _ (.tail _ List.mem_cons_self)) (.self _))

end Sample

theorem classArrow_refused_exactly :
    ArgumentIs "app" Sample.classCode Sample.classTree Sample.classArrow ∧
    Sample.classArrow.Spaced false (.ofText Sample.classCode) ∧
    (Phrase.expr Sample.classArrow).Includes (.expr (.classExpr ⟨16, 24, 1, 16⟩ none)) ∧
    ∀ rules names, Sample.classArrow.reroute rules names (.ofText Sample.classCode) =
      .error (.refused (.construct .classExpr ⟨1, 16⟩)) := by
  refine ⟨Sample.argumentIs_classArrow, Sample.classArrow_spaced, Sample.classArrow_includes, ?_⟩
  intro rules names
  have hexact := argument_refused_exactly Sample.argumentIs_classArrow Sample.classArrow_spaced
  rw [hexact.2.2 rules ⟨"locals", false⟩ names ["b"]]
  decide

end ScriptSplit
