import Mathlib.Data.List.InsertIdx
import ScriptSplit.Proofs.HotSwap

namespace ScriptSplit

inductive Expr.Rooted (entry : String) : Expr → Prop
  | name (s : Span) : Rooted entry (.ident ⟨s, entry⟩)
  | call {callee : Expr} (s : Span) (arguments : List Expr) (optional : Bool) :
      Rooted entry callee → Rooted entry (.call s callee arguments optional)
  | member {object : Expr} (s : Span) (property : Expr) (computed optional : Bool) :
      Rooted entry object → Rooted entry (.member s object property computed optional)
  | paren {inner : Expr} (s : Span) : Rooted entry inner → Rooted entry (.paren s inner)

theorem Expr.rootedAt_iff {entry : String} {e : Expr} : e.rootedAt entry = true ↔ e.Rooted entry := by
  constructor
  · intro h
    fun_induction Expr.rootedAt entry e with
    | case1 i =>
        obtain ⟨s, name⟩ := i
        obtain rfl : name = entry := by simpa using h
        exact .name s
    | case2 s callee arguments optional ih => exact .call s arguments optional (ih h)
    | case3 s object property computed optional ih => exact .member s property computed optional (ih h)
    | case4 s inner ih => exact .paren s (ih h)
    | case5 => cases h
  · intro h
    induction h with
    | name s => simp [rootedAt]
    | call s arguments optional _ ih => simpa [rootedAt] using ih
    | member s property computed optional _ ih => simpa [rootedAt] using ih
    | paren s _ ih => simpa [rootedAt] using ih

/-- A statement that is nothing but a call whose callee is rooted at the entry name. -/
def Stmt.Enters (entry : String) (x : Stmt) (c : EntryCall) : Prop :=
  ∃ callee optional, x = .expr c.statement (.call c.call callee c.arguments optional) ∧
    callee.Rooted entry

theorem Stmt.entryCall?_iff {entry : String} {x : Stmt} {c : EntryCall} :
    x.entryCall? entry = some c ↔ x.Enters entry c := by
  constructor
  · intro h
    obtain ⟨callee, optional, rfl⟩ := Stmt.entryCall?_eq_some h
    refine ⟨callee, optional, rfl, Expr.rootedAt_iff.mp ?_⟩
    by_contra hroot
    simp [Stmt.entryCall?, hroot] at h
  · rintro ⟨callee, optional, rfl, hroot⟩
    simp [Stmt.entryCall?, Expr.rootedAt_iff.mpr hroot]

section

variable {entry : String} {xs pre post : List Stmt} {x : Stmt} {c : EntryCall}

theorem Stmt.entryCall?_eq_none : x.entryCall? entry = none ↔ ∀ c, ¬ x.Enters entry c := by
  simp only [Option.eq_none_iff_forall_not_mem, Option.mem_def, Stmt.entryCall?_iff]

theorem findEntry_eq_none : findEntry entry xs = none ↔ ∀ x ∈ xs, ∀ c, ¬ x.Enters entry c := by
  induction xs with
  | nil => simp [findEntry]
  | cons y ys ih =>
      rw [List.forall_mem_cons, ← Stmt.entryCall?_eq_none, ← ih, findEntry]
      cases y.entryCall? entry with
      | some d => simp
      | none => simp

theorem findEntry_of_first (hpre : ∀ y ∈ pre, ∀ d, ¬ y.Enters entry d) (hx : x.Enters entry c) :
    findEntry entry (pre ++ x :: post) = some (pre.length, c) := by
  induction pre with
  | nil => simp [findEntry, Stmt.entryCall?_iff.mpr hx]
  | cons y ys ih =>
      obtain ⟨hy, hys⟩ := List.forall_mem_cons.mp hpre
      simp [findEntry, Stmt.entryCall?_eq_none.mpr hy, ih hys]

end

theorem EntryCall.argument_cases (entry : String) (c : EntryCall) :
    (c.arguments = [] ∧ c.argument entry = .error (.noArgument entry c.call.position)) ∨
    (∃ s inner rest, c.arguments = .spread s inner :: rest ∧
      c.argument entry = .error (.spreadArgument s.position)) ∨
    ∃ a rest, c.arguments = a :: rest ∧ (∀ s inner, a ≠ .spread s inner) ∧ c.argument entry = .ok a := by
  unfold EntryCall.argument
  split
  · rename_i h
    exact .inl ⟨h, rfl⟩
  · rename_i s inner rest h
    exact .inr (.inl ⟨s, inner, rest, h, rfl⟩)
  · rename_i a rest hne h
    refine .inr (.inr ⟨a, rest, h, ?_, rfl⟩)
    rintro s inner rfl
    exact hne s inner rfl

theorem EntryCall.argument_eq_ok (entry : String) {c : EntryCall} {a : Expr} {rest : List Expr}
    (h : c.arguments = a :: rest) (hne : ∀ s inner, a ≠ .spread s inner) :
    c.argument entry = .ok a := by
  rcases c.argument_cases entry with ⟨hnil, _⟩ | ⟨s, inner, rest', hspread, _⟩ | ⟨b, rest', hplain, _, hb⟩
  · simp [h] at hnil
  · rw [h] at hspread
    exact absurd (List.cons.inj hspread).1 (hne s inner)
  · rw [h] at hplain
    rw [hb, (List.cons.inj hplain).1]

def RefusedAs {α : Type} (cat : Refusal.Category) (x : Except Stop α) : Prop :=
  ∃ r, x = .error (.refused r) ∧ r.category = cat

section

variable {code : Text} {sp : Span}

theorem Draft.exists_remove (h : sp.Inside code.span) :
    ∃ d, (ofText code).remove sp.start sp.stop = .ok d ∧
      d.render = code.slice 0 sp.start ++ code.slice sp.stop code.length := by
  obtain ⟨a, b, ha, hb, hab, hlen⟩ := h.exists_nat
  rw [ha, hb]
  obtain ⟨d, hd⟩ : ∃ d, (ofText code).remove a b = .ok d :=
    ⟨_, (remove_eq_ok hab hlen).mpr ⟨by simp [ofText], rfl⟩⟩
  refine ⟨d, hd, ?_⟩
  have hsound := (sound_ofText code).remove hd
  obtain ⟨_, rfl⟩ := (remove_eq_ok hab hlen).mp hd
  rw [hsound.render_eq (.refl _) (pairwise_deletion _ _)]
  have hbefore : code.slice 0 a = code.take a := by
    have h := Text.slice_of_le (Nat.zero_le code.length) (Nat.le_trans hab hlen)
    simpa [Text.between] using h
  have hafter : code.slice b code.length = code.drop b := by
    have h := Text.slice_of_le hlen (Nat.le_refl code.length)
    rw [h, Text.between]
    exact List.take_of_length_le (by simp)
  simp [ofText, weave_one_deletion, hbefore, hafter]

theorem exists_cutAround (h : sp.Inside code.span) :
    ∃ d, cutAround code sp = .ok d ∧ d.render = code.slice sp.start sp.stop := by
  obtain ⟨a, b, ha, hb, hab, hlen⟩ := h.exists_nat
  have hcut := cutAround_eq ha hb hab hlen
  refine ⟨_, hcut, ?_⟩
  have hsorted : (Draft.deletion 0 a ++ Draft.deletion b code.length).Pairwise
      fun e f => e.le f = true := by
    refine List.pairwise_append.mpr ⟨Draft.pairwise_deletion _ _, Draft.pairwise_deletion _ _, ?_⟩
    intro e he f hf
    obtain ⟨_, rfl⟩ := Draft.mem_deletion.mp he
    obtain ⟨_, rfl⟩ := Draft.mem_deletion.mp hf
    exact Edit.le_of_stop_le (Nat.zero_le a) hab
  -- the empty deletion at the end of the call lets one lemma cut both tails
  have hweave : Draft.weave code a (Draft.deletion b b ++ Draft.deletion b code.length) = code.between a b :=
    Draft.weave_cut (Nat.le_refl b) hlen
  rw [(sound_cutAround hcut).render_eq (.refl _) hsorted, Draft.weave_deletion, ha, hb,
    Text.slice_of_le (Nat.le_trans hab hlen) hlen]
  simpa [Draft.deletion] using hweave

end

section

variable {entry : String} {code : Text} {p : Program}

theorem Program.locate_of_none (h : findEntry entry p.body = none) :
    p.locate entry code = .error (.refused (.noEntry entry)) := by
  simp [Program.locate, h]

theorem Program.locate_of_refused {k : Nat} {c : EntryCall} {r : Refusal}
    (h : findEntry entry p.body = some (k, c)) (hr : c.argument entry = .error r) :
    p.locate entry code = .error (.refused r) := by
  simp only [Program.locate, h, hr]
  rfl

theorem Program.locate_of_argument {k : Nat} {c : EntryCall} {a : Expr} {d d' : Draft}
    (h : findEntry entry p.body = some (k, c)) (ha : c.argument entry = .ok a)
    (hd : (Draft.ofText code).remove c.statement.start c.statement.stop = .ok d)
    (hd' : cutAround code c.call = .ok d') :
    p.locate entry code = .ok ⟨k, c.call, a, p.body.eraseIdx k, d, d'⟩ := by
  simp only [Program.locate, h, ha, hd, hd']
  rfl

theorem Program.not_refusedAs_of_argument {k : Nat} {c : EntryCall} {a : Expr} {cat : Refusal.Category}
    (h : findEntry entry p.body = some (k, c)) (ha : c.argument entry = .ok a) :
    ¬ RefusedAs cat (p.locate entry code) := by
  rintro ⟨r, hr, _⟩
  simp only [Program.locate, h, ha] at hr
  rcases bind_eq_error.mp hr with hr | ⟨_, _, hr⟩
  · cases hr
  rcases bind_eq_error.mp hr with hr | ⟨_, _, hr⟩
  · cases hremove : (Draft.ofText code).remove c.statement.start c.statement.stop <;>
      simp [hremove, Except.mapError] at hr
  rcases bind_eq_error.mp hr with hr | ⟨_, _, hr⟩
  · cases hcut : cutAround code c.call <;> simp [hcut, Except.mapError] at hr
  · cases hr

theorem Program.refusedAs_entryNotFound : RefusedAs .entryNotFound (p.locate entry code) ↔
    ∀ x ∈ p.body, ∀ c, ¬ x.Enters entry c := by
  constructor
  · rintro ⟨r, hr, hcat⟩
    cases hfind : findEntry entry p.body with
    | none => exact findEntry_eq_none.mp hfind
    | some f =>
        obtain ⟨k, c⟩ := f
        rcases c.argument_cases entry with ⟨_, harg⟩ | ⟨s, inner, rest, _, harg⟩ | ⟨a, rest, _, _, harg⟩
        · cases (Program.locate_of_refused hfind harg).symm.trans hr
          cases hcat
        · cases (Program.locate_of_refused hfind harg).symm.trans hr
          cases hcat
        · exact absurd ⟨r, hr, hcat⟩ (Program.not_refusedAs_of_argument hfind harg)
  · intro h
    exact ⟨_, Program.locate_of_none (findEntry_eq_none.mpr h), rfl⟩

theorem Program.refusedAs_entryArgument {k : Nat} {c : EntryCall}
    (h : findEntry entry p.body = some (k, c)) : RefusedAs .entryArgument (p.locate entry code) ↔
      c.arguments = [] ∨ ∃ s inner rest, c.arguments = .spread s inner :: rest := by
  rcases c.argument_cases entry with ⟨hnil, harg⟩ | ⟨s, inner, rest, hspread, harg⟩ |
    ⟨a, rest, hplain, hne, harg⟩
  · exact iff_of_true ⟨_, Program.locate_of_refused h harg, rfl⟩ (.inl hnil)
  · exact iff_of_true ⟨_, Program.locate_of_refused h harg, rfl⟩ (.inr ⟨s, inner, rest, hspread⟩)
  · refine iff_of_false (Program.not_refusedAs_of_argument h harg) ?_
    rintro (hnil | ⟨s, inner, rest', hspread⟩)
    · simp [hplain] at hnil
    · rw [hplain] at hspread
      exact hne s inner (List.cons.inj hspread).1

end

/-- A script is taken apart at its first entry call or nowhere: without one there is no entry point,
and a first one without an argument of its own is refused, whatever comes after it. -/
theorem Program.locate_first_entry (entry : String) (code : Text) (p : Program) :
    (RefusedAs .entryNotFound (p.locate entry code) ↔ ∀ x ∈ p.body, ∀ c, ¬ x.Enters entry c) ∧
    ∀ pre x post c, p.body = pre ++ x :: post → (∀ y ∈ pre, ∀ d, ¬ y.Enters entry d) →
      x.Enters entry c →
      (RefusedAs .entryArgument (p.locate entry code) ↔
        c.arguments = [] ∨ ∃ s inner rest, c.arguments = .spread s inner :: rest) ∧
      (c.statement.Inside code.span → c.call.Inside c.statement →
        ∀ a rest, c.arguments = a :: rest → (∀ s inner, a ≠ .spread s inner) →
          ∃ e, p.locate entry code = .ok e ∧ e.index = pre.length ∧ e.call = c.call ∧
            e.argument = a ∧ e.others.insertIdx e.index x = p.body ∧
            e.localsDraft.render =
              code.slice 0 c.statement.start ++ code.slice c.statement.stop code.length ∧
            e.mainDraft.render = code.slice c.call.start c.call.stop) := by
  refine ⟨Program.refusedAs_entryNotFound, ?_⟩
  intro pre x post c hbody hpre hx
  have hfind : findEntry entry p.body = some (pre.length, c) := by
    rw [hbody]
    exact findEntry_of_first hpre hx
  refine ⟨Program.refusedAs_entryArgument hfind, ?_⟩
  intro hstatement hcall a rest hplain hne
  have harg := EntryCall.argument_eq_ok entry hplain hne
  obtain ⟨d, hd, hlocals⟩ := Draft.exists_remove hstatement
  obtain ⟨d', hd', hmain⟩ := exists_cutAround (hcall.trans hstatement)
  refine ⟨_, Program.locate_of_argument hfind harg hd hd', rfl, rfl, rfl, ?_, hlocals, hmain⟩
  have hset := List.insertIdx_eraseIdx_self (l := p.body) (n := pre.length) (by simp [hbody]) x
  exact hset.trans (by simp [hbody])

namespace Sample

def threeCode : Text := "app; (app.b)(a); app()".toList

def threeStatements : List Stmt :=
  [.expr ⟨0, 4, 1, 0⟩ (.ident ⟨⟨0, 3, 1, 0⟩, "app"⟩),
  .expr ⟨5, 16, 1, 5⟩
    (.call ⟨5, 15, 1, 5⟩
      (.paren ⟨5, 12, 1, 5⟩
        (.member ⟨6, 11, 1, 6⟩ (.ident ⟨⟨6, 9, 1, 6⟩, "app"⟩) (.ident ⟨⟨10, 11, 1, 10⟩, "b"⟩) false false))
      [.ident ⟨⟨13, 14, 1, 13⟩, "a"⟩] false),
  .expr ⟨17, 22, 1, 17⟩
    (.call ⟨17, 22, 1, 17⟩ (.ident ⟨⟨17, 20, 1, 17⟩, "app"⟩) [] false)]

def middleCall : EntryCall := ⟨⟨5, 16, 1, 5⟩, ⟨5, 15, 1, 5⟩, [.ident ⟨⟨13, 14, 1, 13⟩, "a"⟩]⟩

end Sample

theorem sample_locate_first_entry :
    Sample.middleCall.statement.Inside Sample.threeCode.span ∧
    Sample.middleCall.call.Inside Sample.middleCall.statement ∧
    ∃ e, (Program.mk ⟨0, 22, 1, 0⟩ Sample.threeStatements).locate "app" Sample.threeCode = .ok e ∧
      e.index = 1 ∧ e.call = ⟨5, 15, 1, 5⟩ ∧ e.argument = .ident ⟨⟨13, 14, 1, 13⟩, "a"⟩ ∧
      e.localsDraft.render = "app;  app()".toList ∧ e.mainDraft.render = "(app.b)(a)".toList := by
  have hstatement : Sample.middleCall.statement.Inside Sample.threeCode.span := by
    constructor <;> decide
  have hcall : Sample.middleCall.call.Inside Sample.middleCall.statement := by
    constructor <;> decide
  have hfirst : ∀ y ∈ Sample.threeStatements.take 1, ∀ d, ¬ y.Enters "app" d := by
    intro y hy
    obtain rfl := List.mem_singleton.mp hy
    exact Stmt.entryCall?_eq_none.mp rfl
  have henters : ∀ x ∈ Sample.threeStatements[1]?, x.Enters "app" Sample.middleCall := by
    rintro _ ⟨rfl⟩
    exact Stmt.entryCall?_iff.mp rfl
  obtain ⟨_, hlocate⟩ := (Program.locate_first_entry "app" Sample.threeCode
    ⟨⟨0, 22, 1, 0⟩, Sample.threeStatements⟩).2 _ _ _ _ rfl hfirst (henters _ rfl)
  obtain ⟨e, he, hindex, hspan, hargument, _, hlocals, hmain⟩ :=
    hlocate hstatement hcall _ _ rfl (by simp)
  refine ⟨hstatement, hcall, e, he, hindex, hspan, hargument, hlocals.trans ?_, hmain.trans ?_⟩
  · decide
  · decide

end ScriptSplit
