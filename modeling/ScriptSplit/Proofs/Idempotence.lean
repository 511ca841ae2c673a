import ScriptSplit.Proofs.Redirect
import ScriptSplit.Proofs.Rerouting
import ScriptSplit.Proofs.Sketch

namespace ScriptSplit

open Parts

namespace Phrase

variable {legacy : Bool} {s : Scope} {l : String}

def marks (legacy : Bool) (s : Scope) (p : Phrase) : Marks :=
  fun path => (p.useAt legacy path).any (Use.isFree s)

@[simp] theorem marks_nil (p : Phrase) :
    p.marks legacy s [] = p.occurrence?.any fun m => s.has m.name.name := by
  rw [marks, useAt]
  cases p.occurrence? <;> simp [Use.isFree, Use.name]

theorem marks_into {p q : Phrase} {names : List String} {i : Nat}
    (h : (p.parts legacy)[i]? = some (names, q)) :
    (p.marks legacy s).into i = q.marks legacy (s.hide names) := by
  funext path
  simp only [Marks.into, marks, useAt, h, Option.any_map]
  congr 1
  funext u
  exact Use.isFree_under s names u

theorem marks_singleton {p q : Phrase} {i : Nat} {m : Mutation} (h : (p.parts legacy)[i]? = some ([], q))
    (hq : q.occurrence? = some m) : p.marks legacy s [i] = s.has m.name.name := by
  have hinto : (p.marks legacy s).into i [] = q.marks legacy s [] := by rw [marks_into h]; rfl
  rw [marks_nil, hq] at hinto
  exact hinto

theorem marks_ident {p : Phrase} {k : Nat} {i : Ident}
    (h : (p.parts legacy)[k]? = some ([], .expr (.ident i))) : p.marks legacy s [k] = s.has i.name :=
  marks_singleton h rfl

theorem marks_shorthand {p : Phrase} {k : Nat} {i : Ident}
    (h : (p.parts legacy)[k]? = some ([], .shorthand i)) : p.marks legacy s [k] = s.has i.name :=
  marks_singleton h rfl

def Quiet (legacy : Bool) (s : Scope) (p : Phrase) : Prop := ∀ path, p.marks legacy s path = false

theorem quiet_of_parts {p : Phrase} (hp : ∀ m, p.occurrence? = some m → s.has m.name.name = false)
    (hparts : ∀ part ∈ p.parts legacy, part.2.Quiet legacy (s.hide part.1)) : p.Quiet legacy s := by
  intro path
  cases path with
  | nil =>
      rw [marks_nil]
      cases ho : p.occurrence? with
      | none => rfl
      | some m => exact hp m ho
  | cons i path =>
      cases hi : (p.parts legacy)[i]? with
      | none => simp [marks, useAt, hi]
      | some part =>
          have hpart := hparts part (List.mem_of_getElem? hi) path
          rw [← marks_into hi] at hpart
          exact hpart

theorem quiet_ident {i : Ident} (h : s.has i.name = false) : (expr (.ident i)).Quiet legacy s :=
  quiet_of_parts (by rintro m ⟨⟩; exact h) (by simp [parts, Expr.parts])

theorem quiet_shorthand {i : Ident} (h : s.has i.name = false) : (shorthand i).Quiet legacy s :=
  quiet_of_parts (by rintro m ⟨⟩; exact h) (by simp [parts])

theorem quiet_access (i : Ident) (h : s.has l = false) : (expr (i.access l)).Quiet legacy s := by
  have hmember : (expr (.member i.span (.ident ⟨i.span, l⟩) (.ident i) false false)).Quiet legacy s := by
    refine quiet_of_parts (by rintro m ⟨⟩) ?_
    simpa [parts, Expr.parts, plain, computedKey] using quiet_ident h
  refine quiet_of_parts (by rintro m ⟨⟩) ?_
  simpa [parts, Expr.parts, plain, Ident.access] using hmember

theorem occurrence_redirect {p : Phrase} (h : p.isNamed = false) (m : Marks) :
    (p.redirect l m).occurrence? = none := by
  cases p with
  | expr e => cases e with
      | ident i => cases h
      | _ => rfl
  | shorthand i => cases h
  | _ => rfl

def PartsQuiet (legacy : Bool) (l : String) (s : Scope) (p : Phrase) : Prop :=
  ∀ (i : Nat) (names : List String) (q : Phrase), (p.parts legacy)[i]? = some (names, q) →
    (q.redirect l ((p.marks legacy s).into i)).Quiet legacy (s.hide names)

theorem quiet_regular {p : Phrase} (h : p.isNamed = false) (hparts : p.PartsQuiet legacy l s) :
    (p.redirect l (p.marks legacy s)).Quiet legacy s := by
  refine quiet_of_parts (by simp [occurrence_redirect h]) ?_
  rw [parts_redirect l _ legacy p h]
  intro part hpart
  obtain ⟨i, q, hq, heq⟩ := Parts.exists_of_mem_redirect l _ hpart
  rw [heq]
  exact hparts i part.1 q hq

theorem quiet_plain {ps : List Phrase} (h : ∀ p ∈ ps, p.Quiet legacy s) :
    ∀ part ∈ plain ps, part.2.Quiet legacy (s.hide part.1) := by
  intro part hpart
  obtain ⟨p, hp, rfl⟩ := List.mem_map.mp hpart
  exact h p hp

theorem quiet_keyed {computed : Bool} {key : Expr} {rest : List Phrase}
    (hkey : computed = true → (expr key).Quiet legacy s) (hrest : ∀ p ∈ rest, p.Quiet legacy s) :
    ∀ part ∈ computedKey computed key ++ plain rest, part.2.Quiet legacy (s.hide part.1) := by
  intro part hpart
  rcases List.mem_append.mp hpart with hpart | hpart
  · refine quiet_plain ?_ part hpart
    cases computed with
    | false => simp
    | true => simpa using hkey rfl
  · exact quiet_plain hrest part hpart

variable {m : Marks} {i : Ident}

theorem quiet_redirect_ident (hl : s.has l = false) (hm : m [] = s.has i.name) :
    (expr ((Expr.ident i).redirect l m)).Quiet legacy s := by
  rw [Expr.redirect, hm]
  cases hi : s.has i.name with
  | true => exact quiet_access i hl
  | false => exact quiet_ident hi

theorem quiet_redirect_shorthand (hl : s.has l = false) (hm : m [] = s.has i.name) :
    ((shorthand i).redirect l m).Quiet legacy s := by
  rw [redirect, hm]
  cases hi : s.has i.name with
  | true => exact quiet_access i hl
  | false => exact quiet_shorthand hi

theorem quiet_redirect_key {computed : Bool} (hl : s.has l = false)
    (hm : computed = true → m [0] = s.has i.name) (hc : computed = true) :
    (expr (if computed then (Expr.ident i).redirect l (m.into 0) else .ident i)).Quiet legacy s := by
  rw [if_pos hc]
  exact quiet_redirect_ident hl (hm hc)

theorem quiet_redirect_member {sp : Span} {value : Expr} {computed : Bool} (hl : s.has l = false)
    (hmark : m [computed.toNat] = s.has i.name) (hkey : computed = true → m [0] = s.has i.name) :
    ((member (.property sp (.ident i) value computed true)).redirect l m).Quiet legacy s := by
  refine quiet_of_parts (by simp [occurrence?]) ?_
  rw [redirect_member, Member.redirect, hmark]
  cases hi : s.has i.name with
  | true => exact quiet_keyed (quiet_redirect_key hl hkey) (List.forall_mem_singleton.mpr (quiet_access i hl))
  | false => exact quiet_keyed (fun _ => quiet_ident hi) (List.forall_mem_singleton.mpr (quiet_shorthand hi))

theorem quiet_redirect_declaredEntry {sp : Span} {value : Pattern} (hl : s.has l = false)
    (hmark : m [0] = s.has i.name)
    (hvalue : ∀ t p e, value = .default t p e →
      ((declared value).redirect l (m.into 1)).Quiet legacy s) :
    ((declaredEntry (.property sp (.ident i) value true true)).redirect l m).Quiet legacy s := by
  refine quiet_of_parts (by simp [occurrence?]) ?_
  rw [redirect_declaredEntry, Entry.redirect, hmark]
  cases hi : s.has i.name with
  | true =>
      refine quiet_keyed (quiet_redirect_key hl fun _ => hmark) ?_
      cases value with
      | default t p e => exact List.forall_mem_singleton.mpr (hvalue t p e rfl)
      | _ =>
          have hdeclared : (declared (.expr (.ident i))).Quiet legacy s :=
            quiet_of_parts (by simp [occurrence?]) (by simp [parts, Pattern.declaredParts])
          exact List.forall_mem_singleton.mpr hdeclared
  | false =>
      cases value with
      | default t p e =>
          exact quiet_keyed (fun _ => quiet_ident hi)
            (List.forall_mem_singleton.mpr (hvalue t p e rfl))
      | _ => exact quiet_keyed (fun _ => quiet_ident hi) (List.forall_mem_nil _)

theorem quiet_assigned {ps : List Phrase} {p : Pattern} (hp : p.assignedParts = plain ps)
    (h : ∀ q ∈ ps, q.Quiet legacy s) : (assigned p).Quiet legacy s := by
  refine quiet_of_parts (by simp [occurrence?]) ?_
  change ∀ part ∈ p.assignedParts, _
  rw [hp]
  exact quiet_plain h

theorem quiet_redirect_assignedEntry {sp : Span} {value : Pattern} {computed : Bool}
    (hl : s.has l = false) (hmark : m [computed.toNat] = s.has i.name)
    (hkey : computed = true → m [0] = s.has i.name)
    (hvalue : ∀ t p e, value = .default t p e →
      (expr (e.redirect l (m.into (computed.toNat + 1)))).Quiet legacy s) :
    ((assignedEntry (.property sp (.ident i) value computed true)).redirect l m).Quiet legacy s := by
  have haccess : (assigned (.expr (i.access l))).Quiet legacy s :=
    quiet_assigned rfl (List.forall_mem_singleton.mpr (quiet_access i hl))
  refine quiet_of_parts (by simp [occurrence?]) ?_
  rw [redirect_assignedEntry, Entry.redirectTarget, hmark]
  cases hi : s.has i.name with
  | true =>
      refine quiet_keyed (quiet_redirect_key hl hkey) ?_
      cases value with
      | default t p e =>
          have hdefault := hvalue t p e rfl
          refine List.forall_mem_singleton.mpr ?_
          exact quiet_assigned rfl (List.forall_mem_cons.mpr
            ⟨haccess, List.forall_mem_singleton.mpr hdefault⟩)
      | _ => exact List.forall_mem_singleton.mpr haccess
  | false =>
      have hshorthand : (shorthand i).Quiet legacy s := quiet_shorthand hi
      cases value with
      | default t p e =>
          have hdefault := hvalue t p e rfl
          exact quiet_keyed (fun _ => quiet_ident hi)
            (List.forall_mem_cons.mpr ⟨hshorthand, List.forall_mem_singleton.mpr hdefault⟩)
      | _ => exact quiet_keyed (fun _ => quiet_ident hi) (List.forall_mem_singleton.mpr hshorthand)

theorem quiet_named {p : Phrase} (hl : s.has l = false) (h : p.isNamed = true)
    (hparts : p.PartsQuiet legacy l s) : (p.redirect l (p.marks legacy s)).Quiet legacy s := by
  unfold isNamed at h
  split at h
  case h_1 i => exact quiet_redirect_ident hl (by simp [occurrence?])
  case h_2 i => exact quiet_redirect_shorthand hl (by simp [occurrence?])
  case h_3 sp i value computed =>
      refine quiet_redirect_member hl ?_ ?_
      · cases computed <;> exact marks_shorthand rfl
      · rintro rfl
        exact marks_ident rfl
  case h_4 sp i value =>
      refine quiet_redirect_declaredEntry hl (marks_ident rfl) ?_
      rintro t p e rfl
      exact hparts 1 [] _ rfl
  case h_5 sp i value computed =>
      refine quiet_redirect_assignedEntry hl ?_ ?_ ?_
      · cases computed <;> cases value <;> exact marks_shorthand rfl
      · rintro rfl
        cases value <;> exact marks_ident rfl
      · rintro t p e rfl
        cases computed with
        | false => exact hparts 1 [] (.expr e) rfl
        | true => exact hparts 2 [] (.expr e) rfl
  case h_6 => cases h

theorem quiet_redirect (hl : s.has l = false) (p : Phrase) :
    (p.redirect l (p.marks legacy s)).Quiet legacy s := by
  -- a part is met under fewer names than the piece, so the scope varies
  induction p using Phrase.induction generalizing s with
  | step p ih =>
      have hparts : p.PartsQuiet legacy l s := by
        intro i names q hq
        have hpiece : q ∈ p.pieces := by
          rw [← pieces_eq legacy]
          exact List.mem_map_of_mem (List.mem_of_getElem? hq)
        have hl' : (s.hide names).has l = false := by simp [Scope.has_hide, hl]
        rw [marks_into hq]
        exact ih q hpiece hl'
      cases hn : p.isNamed with
      | false => exact quiet_regular hn hparts
      | true => exact quiet_named hl hn hparts

end Phrase

mutual

def Item.isFine : Item → Bool
  | .scoped items => Item.allFine items
  | .refuse _ => false
  | _ => true

def Item.allFine : List Item → Bool
  | [] => true
  | i :: is => i.isFine && Item.allFine is

end

attribute [simp] Item.isFine Item.allFine

@[simp] theorem Item.allFine_append (is js : List Item) :
    Item.allFine (is ++ js) = (Item.allFine is && Item.allFine js) := by
  induction is with
  | nil => rfl
  | cons i is ih => simp [ih, Bool.and_assoc]

theorem Walk.isOk_andThen (w : Walk) (next : Scope → Walk) :
    (w.andThen next).outcome.isOk =
      match w.outcome with
      | .error _ => false
      | .ok s => (next s).outcome.isOk := by
  obtain ⟨found, _ | s⟩ := w <;> rfl

mutual

theorem Item.isOk_walk (s : Scope) : ∀ i : Item, (i.walk s).outcome.isOk = i.isFine
  | .reference _ | .shorthand _ | .shadow _ | .refuse _ => rfl
  | .scoped items => by
      rw [Item.walk, Item.isFine, ← Item.isOk_walks s items]
      cases h : (Item.walks s items).outcome <;> simp [Walk.within, h, Except.map, Except.isOk, Except.toBool]

theorem Item.isOk_walks (s : Scope) : ∀ is : List Item, (Item.walks s is).outcome.isOk = Item.allFine is
  | [] => rfl
  | i :: is => by
      rw [Item.walks, Walk.isOk_andThen, Item.allFine, ← Item.isOk_walk s i]
      cases (i.walk s).outcome with
      | error r => rfl
      | ok s' => exact Item.isOk_walks s' is

end

mutual

def Sketch.isFine : Sketch → Bool
  | .part _ => true
  | .item i => i.isFine
  | .scoped ss => Sketch.allFine ss

def Sketch.allFine : List Sketch → Bool
  | [] => true
  | s :: ss => s.isFine && Sketch.allFine ss

end

attribute [simp] Sketch.isFine Sketch.allFine

@[simp] theorem Sketch.allFine_append (ss ts : List Sketch) :
    Sketch.allFine (ss ++ ts) = (Sketch.allFine ss && Sketch.allFine ts) := by
  induction ss with
  | nil => rfl
  | cons s ss ih => simp [ih, Bool.and_assoc]

@[simp] theorem Sketch.allFine_ofParts (ps : List Phrase) : Sketch.allFine (Sketch.ofParts ps) = true := by
  induction ps with
  | nil => rfl
  | cons p ps ih => simpa [Sketch.ofParts] using ih

@[simp] theorem Sketch.allFine_shadows (xs : List String) : Sketch.allFine (Sketch.shadows xs) = true := by
  induction xs with
  | nil => rfl
  | cons x xs ih => simpa [Sketch.shadows] using ih

def Phrase.isFine (legacy : Bool) (p : Phrase) : Bool := Item.allFine (p.outline legacy)

variable {legacy : Bool} {l : String}

mutual

theorem Sketch.isFine_items : ∀ sk : Sketch, Item.allFine (sk.items legacy) = true ↔
    sk.isFine = true ∧ ∀ p ∈ sk.parts, p.isFine legacy = true
  | .part p => by simp [Phrase.isFine]
  | .item i => by simp
  | .scoped ss => by simpa using Sketch.allFine_allItems ss

theorem Sketch.allFine_allItems : ∀ ss : List Sketch, Item.allFine (Sketch.allItems legacy ss) = true ↔
    Sketch.allFine ss = true ∧ ∀ p ∈ Sketch.allParts ss, p.isFine legacy = true
  | [] => by simp
  | s :: ss => by
      simp only [Sketch.allItems, Item.allFine_append, Bool.and_eq_true, Sketch.isFine_items s,
        Sketch.allFine_allItems ss, Sketch.allFine, Sketch.allParts, List.mem_append, or_imp, forall_and]
      exact and_and_and_comm

end

namespace Phrase

theorem isFine_iff (p : Phrase) : p.isFine legacy = true ↔
    Sketch.allFine (p.sketch legacy) = true ∧
      ∀ q ∈ Sketch.allParts (p.sketch legacy), q.isFine legacy = true := by
  rw [isFine, outline_eq]
  exact Sketch.allFine_allItems _

theorem not_refusesValue {p : Phrase} (h : Sketch.allFine (p.sketch legacy) = true) :
    ¬ p.RefusesValue := by
  intro hr
  unfold RefusesValue at hr
  split at hr
  · obtain ⟨r, hr⟩ := hr
    simp [sketch, Entry.declaredSketch, hr, refusing] at h
  · exact hr

theorem isFine_iff_pieces (p : Phrase) : p.isFine legacy = true ↔
    Sketch.allFine (p.sketch legacy) = true ∧ ∀ q ∈ p.pieces, q.isFine legacy = true := by
  rw [isFine_iff]
  refine and_congr_right fun h => ?_
  rw [allParts_sketch legacy p (not_refusesValue h)]

@[simp] theorem isFine_function (name : Option Ident) (ps : List Pattern) (body : Phrase) :
    (Sketch.function name ps body).isFine = true := by
  simp [Sketch.function]

@[simp] theorem isFine_inner (p : Phrase) : (Sketch.inner p).isFine = true := rfl

theorem allFine_sketch_expr {e : Expr} (m : Marks) (hn : isNamed (.expr e) = false)
    (h : Sketch.allFine e.sketch = true) : Sketch.allFine (e.redirect l m).sketch = true := by
  cases e with
  | ident i => cases hn
  | classExpr | jsx | unsupported => cases h
  | _ => simp [Expr.sketch, Expr.redirect]

theorem allFine_sketch_member {e : Member} (m : Marks) (hn : isNamed (.member e) = false)
    (h : Sketch.allFine e.sketch = true) : Sketch.allFine (e.redirect l m).sketch = true := by
  cases e with
  | property s key value computed short =>
      cases short with
      | false => simp [Member.redirect, Member.rebuild, Member.sketch]
      | true => cases key with
          | ident i => cases hn
          | _ => simp [Member.redirect, Member.rebuild, Member.sketch]
  | method | spread => simp [Member.redirect, Member.sketch]
  | unsupported => exact h

theorem allFine_sketch_declared {p : Pattern} (m : Marks)
    (h : Sketch.allFine p.declaredSketch = true) : Sketch.allFine (p.redirect l m).declaredSketch = true := by
  cases p with
  | expr | rest => exact h
  | _ => simp [Pattern.declaredSketch, Pattern.redirect]

theorem allFine_declaredValue {s : Span} {key : Expr} {value : Pattern} (m : Marks)
    (h : Sketch.allFine (Entry.declaredValue s key value false) = true) (key' : Expr) :
    Sketch.allFine (Entry.declaredValue s key' (value.redirect l m) false) = true := by
  cases value with
  | expr | rest => exact h
  | _ => simp [Entry.declaredValue, Pattern.redirect]

theorem allFine_sketch_declaredEntry {e : Entry} (m : Marks) (hn : isNamed (.declaredEntry e) = false)
    (h : Sketch.allFine e.declaredSketch = true) :
    Sketch.allFine (e.redirect l m).declaredSketch = true := by
  cases e with
  | property s key value computed short =>
      simp only [Entry.declaredSketch, Sketch.allFine_append, Sketch.allFine_ofParts,
        Bool.true_and] at h
      cases short with
      | false => simpa [Entry.redirect, Entry.rebuild, Entry.declaredSketch] using allFine_declaredValue _ h _
      | true => cases key with
          | ident i => cases computed with
              | true => cases hn
              | false => cases value <;>
                  simp [Entry.redirect, Entry.rebuild, Entry.declaredSketch, Entry.declaredValue, Pattern.redirect]
          | _ => cases h
  | rest s p => exact h

theorem allFine_sketch_assignedEntry {e : Entry} (m : Marks) (hn : isNamed (.assignedEntry e) = false)
    (h : Sketch.allFine e.assignedSketch = true) :
    Sketch.allFine (e.redirectTarget l m).assignedSketch = true := by
  cases e with
  | property s key value computed short =>
      simp only [Entry.assignedSketch, Sketch.allFine_append, Sketch.allFine_ofParts,
        Bool.true_and] at h
      cases short with
      | false => simp [Entry.redirectTarget, Entry.rebuildTarget, Entry.assignedSketch, Entry.assignedValue]
      | true => cases key with
          | ident i => cases hn
          | _ => cases h
  | rest s p => simp [Entry.redirectTarget, Entry.assignedSketch]

theorem allFine_sketch_stmt {s : Stmt} (m : Marks) (h : Sketch.allFine (s.sketch legacy) = true) :
    Sketch.allFine ((s.redirect l m).sketch legacy) = true := by
  cases s with
  | classDecl | imports | importAlias | exports | unsupported => cases h
  | ifElse s t c a => cases a <;> rfl
  | tryCatch s b handler f => cases handler <;> cases f <;> rfl
  | forOf s head r b isAwait => cases legacy <;> rfl
  | _ => simp [Stmt.redirect, Stmt.sketch]

theorem allFine_sketch_redirect (m : Marks) : ∀ p : Phrase, p.isNamed = false →
    Sketch.allFine (p.sketch legacy) = true → Sketch.allFine ((p.redirect l m).sketch legacy) = true
  | .expr e, hn, h => allFine_sketch_expr m hn h
  | .member e, hn, h => allFine_sketch_member m hn h
  | .declared p, _, h => allFine_sketch_declared m h
  | .declaredEntry e, hn, h => allFine_sketch_declaredEntry m hn h
  | .assigned p, _, _ => by simp [sketch]
  | .assignedEntry e, hn, h => allFine_sketch_assignedEntry m hn h
  | .block (.mk _ ss), _, _ => by simp [sketch, Sketch.ofStatements]
  | .stmt s, _, h => allFine_sketch_stmt m h
  | .case (.mk _ test ss), _, _ => by simp [sketch, Case.redirect, Sketch.ofStatements]
  | .handler (.mk _ param b), _, _ => by cases param <;> cases legacy <;> rfl
  | .variables v, _, _ => by simp [sketch]
  | .declarator d, _, _ => by simp [sketch]
  | .head h, _, _ => by simp [sketch]
  | .enumMember e, _, _ => by simp [sketch]

theorem isFine_regular {p : Phrase} (m : Marks) (hn : p.isNamed = false)
    (h : Sketch.allFine (p.sketch legacy) = true)
    (hpieces : ∀ q ∈ p.pieces, ∀ m, (q.redirect l m).isFine legacy = true) :
    (p.redirect l m).isFine legacy = true := by
  rw [isFine_iff_pieces]
  refine ⟨allFine_sketch_redirect m p hn h, ?_⟩
  intro q hq
  rw [pieces, parts_redirect l m false p hn] at hq
  obtain ⟨part, hpart, rfl⟩ := List.mem_map.mp hq
  obtain ⟨i, q, hq, heq⟩ := Parts.exists_of_mem_redirect l _ hpart
  rw [heq]
  exact hpieces q (List.mem_map_of_mem (List.mem_of_getElem? hq)) (m.into i)

theorem isFine_redirect_ident (i : Ident) (m : Marks) :
    (expr ((Expr.ident i).redirect l m)).isFine legacy = true := by
  rw [Expr.redirect]
  cases m [] <;> rfl

theorem isFine_redirect_key (i : Ident) (m : Marks) (computed : Bool) :
    Item.allFine (if computed then
      (if computed then (Expr.ident i).redirect l (m.into 0) else .ident i).outline legacy else []) =
      true := by
  cases computed with
  | false => rfl
  | true => exact isFine_redirect_ident i (m.into 0)

theorem isFine_redirect_member (sp : Span) (i : Ident) (value : Expr) (computed : Bool) (m : Marks) :
    ((member (.property sp (.ident i) value computed true)).redirect l m).isFine legacy = true := by
  have hkey := @isFine_redirect_key legacy l i m computed
  rw [redirect_member, Member.redirect]
  cases m [computed.toNat] with
  | true =>
      change Item.allFine (Member.outline legacy (.property sp _ (i.access l) computed false)) = true
      rw [Member.outline_property, Item.allFine_append, hkey]
      rfl
  | false => cases computed <;> rfl

theorem isFine_redirect_declaredEntry (sp : Span) (i : Ident) (value : Pattern) (m : Marks)
    (hvalue : ∀ t p e, value = .default t p e → ∀ m, ((declared value).redirect l m).isFine legacy = true) :
    ((declaredEntry (.property sp (.ident i) value true true)).redirect l m).isFine legacy = true := by
  have hkey := @isFine_redirect_key legacy l i m true
  rw [redirect_declaredEntry, Entry.redirect]
  cases m [0] with
  | true =>
      change Item.allFine (Entry.declare legacy (.property ..)) = true
      rw [Entry.declare_property, Item.allFine_append, hkey]
      cases value with
      | default t p e => exact hvalue t p e rfl (m.into 1)
      | _ => rfl
  | false =>
      change Item.allFine (Entry.declare legacy (.property ..)) = true
      rw [Entry.declare_property, Item.allFine_append]
      cases value with
      | default t p e => exact hvalue t p e rfl (m.into 1)
      | _ => rfl

theorem isFine_redirect_assignedEntry (sp : Span) (i : Ident) (value : Pattern) (computed : Bool)
    (m : Marks)
    (hvalue : ∀ t p e, value = .default t p e → ∀ m, ((expr e).redirect l m).isFine legacy = true) :
    ((assignedEntry (.property sp (.ident i) value computed true)).redirect l m).isFine legacy = true := by
  have hkey := @isFine_redirect_key legacy l i m computed
  rw [redirect_assignedEntry, Entry.redirectTarget]
  cases m [computed.toNat] with
  | true =>
      change Item.allFine (Entry.assign legacy (.property ..)) = true
      rw [Entry.assign_property, Item.allFine_append, hkey]
      cases value with
      | default t p e => exact hvalue t p e rfl (m.into (computed.toNat + 1))
      | _ => rfl
  | false =>
      change Item.allFine (Entry.assign legacy (.property ..)) = true
      rw [Entry.assign_property, Item.allFine_append]
      cases value with
      | default t p e => cases computed <;> exact hvalue t p e rfl _
      | _ => cases computed <;> rfl

theorem isFine_named {p : Phrase} (m : Marks) (hn : p.isNamed = true)
    (hpieces : ∀ q ∈ p.pieces, ∀ m, (q.redirect l m).isFine legacy = true) :
    (p.redirect l m).isFine legacy = true := by
  unfold isNamed at hn
  split at hn
  case h_1 i => exact isFine_redirect_ident i m
  case h_2 i =>
      rw [redirect]
      cases m [] <;> rfl
  case h_3 sp i value computed => exact isFine_redirect_member sp i value computed m
  case h_4 sp i value =>
      refine isFine_redirect_declaredEntry sp i value m ?_
      rintro t p e rfl
      exact hpieces _ (by simp [pieces, parts, Entry.declaredParts])
  case h_5 sp i value computed =>
      refine isFine_redirect_assignedEntry sp i value computed m ?_
      rintro t p e rfl
      exact hpieces _ (by simp [pieces, parts, Entry.assignedParts])
  case h_6 => cases hn

theorem isFine_redirect (p : Phrase) : ∀ m : Marks, p.isFine legacy = true →
    (p.redirect l m).isFine legacy = true := by
  -- which occurrences are marked does not matter, so the marks of the parts need no relation to the scope
  induction p using Phrase.induction with
  | step p ih =>
      intro m h
      obtain ⟨hsketch, hparts⟩ := (isFine_iff_pieces p).mp h
      have hpieces : ∀ q ∈ p.pieces, ∀ m, (q.redirect l m).isFine legacy = true :=
        fun q hq m => ih q hq m (hparts q hq)
      cases hn : p.isNamed with
      | false => exact isFine_regular m hn hsketch hpieces
      | true => exact isFine_named m hn hpieces

end Phrase

theorem Expr.walk_of_quiet {names : List String} {e : Expr}
    (hfine : (Phrase.expr e).isFine legacy = true)
    (hquiet : (Phrase.expr e).Quiet legacy (Scope.ofNames names)) :
    ∃ s, e.walk legacy names = ⟨[], .ok s⟩ := by
  have hok : (e.walk legacy names).outcome.isOk = true := by
    rw [Expr.walk, Item.isOk_walks]
    exact hfine
  obtain ⟨s, hs⟩ : ∃ s, (e.walk legacy names).outcome = .ok s := by
    cases ho : (e.walk legacy names).outcome with
    | error r => rw [ho] at hok; cases hok
    | ok s => exact ⟨s, rfl⟩
  have hfree : ∀ u ∈ Item.allUses (e.outline legacy), ¬ u.isFree (Scope.ofNames names) = true := by
    intro u hu
    obtain ⟨path, hpath⟩ := (Expr.lists legacy e).exists_path hu
    have := hquiet path
    simpa [Phrase.marks, hpath] using this
  have hfound : (e.walk legacy names).found = [] := by
    rw [Expr.walk_found hs, freeUses, List.filter_eq_nil_iff.mpr hfree]
    rfl
  exact ⟨s, by rw [← hfound, ← hs]⟩

/-- Rerouting what has been rerouted changes nothing: in the syntax with an access in place of every
occurrence that was edited, no occurrence is edited. -/
theorem Expr.reroute_redirect {rules : Rules} {names : List String} {e : Expr} {d d' : Draft}
    {found : List Mutation} (hlocals : rules.locals ∉ names)
    (h : e.reroute rules names d = .ok (d', found)) :
    ∃ paths : List (List Nat), paths.Nodup ∧
      (∀ path, path ∈ paths ↔ ∃ m, (Phrase.expr e).FreeAt rules.legacy names path m) ∧
      List.Forall₂ ((Phrase.expr e).FreeAt rules.legacy names) paths found ∧
      ∀ d₂, (e.redirect rules.locals fun path => paths.contains path).reroute rules names d₂ =
        .ok (d₂, []) := by
  obtain ⟨⟨s, hs⟩, rfl, _⟩ := Expr.reroute_eq_ok h
  obtain ⟨paths, hnodup, hpaths, hfound⟩ := (Expr.lists rules.legacy e).free names
  rw [← Expr.walk_found hs] at hfound
  refine ⟨paths, hnodup, hpaths, hfound, fun d₂ => ?_⟩
  have hmarks : (fun path => paths.contains path) =
      (Phrase.expr e).marks rules.legacy (Scope.ofNames names) := by
    funext path
    rw [Bool.eq_iff_iff, List.contains_iff_mem, hpaths, ← Phrase.isFreeAt_iff]
    rfl
  have hfine : (Phrase.expr e).isFine rules.legacy = true := by
    have hok := Item.isOk_walks (Scope.ofNames names) (e.outline rules.legacy)
    rw [← Expr.walk, hs] at hok
    exact hok.symm
  have hl : (Scope.ofNames names).has rules.locals = false := by simpa using hlocals
  rw [hmarks]
  obtain ⟨s', hwalk⟩ := Expr.walk_of_quiet
    (Phrase.isFine_redirect (.expr e) ((Phrase.expr e).marks rules.legacy (Scope.ofNames names)) hfine)
    (Phrase.quiet_redirect hl (.expr e))
  rw [Expr.reroute, hwalk]
  rfl

/-- The call `f({x = y} = {x}, x => x)`. -/
def patternCall : Expr :=
  .call ⟨0, 24, 1, 0⟩ (.ident ⟨⟨0, 1, 1, 0⟩, "f"⟩)
    [.assign ⟨2, 15, 1, 2⟩ "="
      (.object ⟨2, 9, 1, 2⟩
        [.property ⟨3, 8, 1, 3⟩ (.ident ⟨⟨3, 4, 1, 3⟩, "x"⟩)
          (.default ⟨3, 8, 1, 3⟩ (.expr (.ident ⟨⟨3, 4, 1, 3⟩, "x"⟩)) (.ident ⟨⟨7, 8, 1, 7⟩, "y"⟩))
          false true])
      (.object ⟨12, 15, 1, 12⟩
        [.property ⟨13, 14, 1, 13⟩ (.ident ⟨⟨13, 14, 1, 13⟩, "x"⟩) (.ident ⟨⟨13, 14, 1, 13⟩, "x"⟩)
          false true]),
      .arrow ⟨17, 23, 1, 17⟩ [.expr (.ident ⟨⟨17, 18, 1, 17⟩, "x"⟩)]
        (.expr (.ident ⟨⟨22, 23, 1, 22⟩, "x"⟩)) false] false

def patternText : Text := "f(\x7bx = y\x7d = \x7bx\x7d, x => x)".toList

theorem patternCall_reroute_redirect :
    "locals" ∉ ["x", "y"] ∧ ∃ d', patternCall.reroute ⟨"locals", false⟩ ["x", "y"] (.ofText patternText) =
      .ok (d', [⟨.shorthand, ⟨⟨3, 4, 1, 3⟩, "x"⟩⟩, ⟨.reference, ⟨⟨7, 8, 1, 7⟩, "y"⟩⟩,
        ⟨.shorthand, ⟨⟨13, 14, 1, 13⟩, "x"⟩⟩]) ∧
      ∃ paths : List (List Nat), paths.length = 3 ∧
        (∀ path, path ∈ paths ↔ ∃ m, (Phrase.expr patternCall).FreeAt false ["x", "y"] path m) ∧
        ∀ d₂, (patternCall.redirect "locals" fun path => paths.contains path).reroute
          ⟨"locals", false⟩ ["x", "y"] d₂ = .ok (d₂, []) := by
  have hlocals : "locals" ∉ ["x", "y"] := by decide
  have h : patternCall.reroute ⟨"locals", false⟩ ["x", "y"] (.ofText patternText) =
      .ok (⟨patternText, [⟨3, 4, "x:(locals.x)".toList⟩, ⟨7, 8, "(locals.y)".toList⟩,
          ⟨13, 14, "x:(locals.x)".toList⟩], []⟩,
        [⟨.shorthand, ⟨⟨3, 4, 1, 3⟩, "x"⟩⟩, ⟨.reference, ⟨⟨7, 8, 1, 7⟩, "y"⟩⟩,
          ⟨.shorthand, ⟨⟨13, 14, 1, 13⟩, "x"⟩⟩]) := by decide
  obtain ⟨paths, _, hpaths, hfound, hagain⟩ :=
    @Expr.reroute_redirect ⟨"locals", false⟩ _ _ _ _ _ hlocals h
  exact ⟨hlocals, _, h, paths, hfound.length_eq, hpaths, hagain⟩

-- the syntax of `f({x: (locals.x) = (locals.y)} = {x: (locals.x)}, x => x)`
example : patternCall.redirect "locals"
    (fun path => [[1, 0, 0, 0], [1, 0, 0, 1], [1, 1, 0, 0]].contains path) =
    .call ⟨0, 24, 1, 0⟩ (.ident ⟨⟨0, 1, 1, 0⟩, "f"⟩)
      [.assign ⟨2, 15, 1, 2⟩ "="
        (.object ⟨2, 9, 1, 2⟩
          [.property ⟨3, 8, 1, 3⟩ (.ident ⟨⟨3, 4, 1, 3⟩, "x"⟩)
            (.default ⟨3, 8, 1, 3⟩ (.expr (Ident.access "locals" ⟨⟨3, 4, 1, 3⟩, "x"⟩))
              (Ident.access "locals" ⟨⟨7, 8, 1, 7⟩, "y"⟩))
            false false])
        (.object ⟨12, 15, 1, 12⟩
          [.property ⟨13, 14, 1, 13⟩ (.ident ⟨⟨13, 14, 1, 13⟩, "x"⟩)
            (Ident.access "locals" ⟨⟨13, 14, 1, 13⟩, "x"⟩) false false]),
        .arrow ⟨17, 23, 1, 17⟩ [.expr (.ident ⟨⟨17, 18, 1, 17⟩, "x"⟩)]
          (.expr (.ident ⟨⟨22, 23, 1, 22⟩, "x"⟩)) false] false := rfl

end ScriptSplit
