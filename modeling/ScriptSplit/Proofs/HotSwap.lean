import ScriptSplit.Proofs.Relocation
import ScriptSplit.Proofs.Replay

namespace ScriptSplit

namespace Text

theorem between_append_left {s : Text} {b : Nat} (hb : b ≤ s.length) (t : Text) (a : Nat) :
    (s ++ t).between a b = s.between a b := by
  have h : b - a - (s.length - a) = 0 := by omega
  simp [between, List.drop_append, List.take_append, h]

theorem between_append_right (s t : Text) (a b : Nat) :
    (s ++ t).between (s.length + a) (s.length + b) = t.between a b := by
  have h : s.drop (s.length + a) = [] := List.drop_eq_nil_of_le (by omega)
  simp [between, List.drop_append, Nat.add_sub_add_left, h]

variable {pre e post : Text} {sp : Span}

theorem slice_before (h : sp.Inside (pre ++ e ++ post).span) (hsp : sp.stop ≤ pre.length) (e' : Text) :
    (pre ++ e' ++ post).slice sp.start sp.stop = (pre ++ e ++ post).slice sp.start sp.stop := by
  obtain ⟨a, b, ha, hb, hab, _⟩ := h.exists_nat
  have hpre : b ≤ pre.length := by omega
  simp only [List.append_assoc]
  rw [slice_natCast ha hb (by simp; omega) (by simp; omega),
    slice_natCast ha hb (by simp; omega) (by simp; omega), between_append_left hpre,
    between_append_left hpre]

theorem slice_after (h : sp.Inside (pre ++ e ++ post).span)
    (hsp : (pre.length + e.length : Int) ≤ sp.start) (e' : Text) :
    (pre ++ e' ++ post).slice (sp.start + (e'.length - e.length)) (sp.stop + (e'.length - e.length)) =
      (pre ++ e ++ post).slice sp.start sp.stop := by
  obtain ⟨a, b, ha, hb, hab, hlen⟩ := h.exists_nat
  obtain ⟨a', rfl⟩ : ∃ a', a = (pre ++ e).length + a' := Nat.exists_eq_add_of_le (by simp; omega)
  obtain ⟨b', rfl⟩ : ∃ b', b = (pre ++ e).length + b' := Nat.exists_eq_add_of_le (by simp; omega)
  have ha' : sp.start + (e'.length - e.length) = ((pre ++ e').length + a' : Nat) := by
    simp only [List.length_append] at ha ⊢
    omega
  have hb' : sp.stop + (e'.length - e.length) = ((pre ++ e').length + b' : Nat) := by
    simp only [List.length_append] at hb ⊢
    omega
  have hpost : b' ≤ post.length := by
    simp only [List.length_append] at hlen
    omega
  rw [slice_natCast ha' hb' (by simp; omega) (by simp; omega),
    slice_natCast ha hb (by simp; omega) (by simp; omega), between_append_right,
    between_append_right]

end Text

namespace Draft

theorem weave_one_deletion (s : Text) (a b : Nat) :
    weave s 0 (deletion a b) = s.take a ++ s.drop b := by
  unfold deletion
  split
  · rename_i h
    rw [h, List.take_append_drop]
    rfl
  · simp [weave, Text.between]

theorem render_remove {pre e post : Text} {d : Draft}
    (h : (ofText (pre ++ e ++ post)).remove pre.length (pre ++ e).length = .ok d) :
    d.render = pre ++ post := by
  have hsound := (sound_ofText _).remove h
  obtain ⟨_, rfl⟩ := (remove_eq_ok (by simp) (by simp [ofText])).mp h
  rw [hsound.render_eq (.refl _) (pairwise_deletion _ _)]
  simp [ofText, weave_one_deletion]

end Draft

/-- The entry statement of the script `pre ++ e ++ post` is the piece `e` of it, and these are its
other statements. -/
def EntryIs (entry : String) (pre e post : Text) (t : Tree) (others : List Stmt) : Prop :=
  ∃ p k c, readScript (pre ++ e ++ post) t = .ok p ∧ findEntry entry p.body = some (k, c) ∧
    c.statement.start = pre.length ∧ c.statement.stop = (pre ++ e).length ∧
    others = p.body.eraseIdx k

/-- A statement before or after a piece of text, and what it is once the piece has grown by `d`
characters: the same, further on if it comes after. -/
inductive Stmt.Kept (start stop d : Int) (x y : Stmt) : Prop where
  | before (place : x.span.stop ≤ start) (same : x.relocate (Span.shift 0) = y.relocate (Span.shift 0))
  | after (place : stop ≤ x.span.start) (same : x.relocate (Span.shift d) = y.relocate (Span.shift 0))

theorem Stmt.targets_inside {code : Text} {t : Tree} {p : Program} (hnested : t.Nested code)
    (hread : readScript code t = .ok p) {x : Stmt} (hx : x ∈ p.body) :
    x.span.Inside code.span ∧
      ∀ v, x = .declare v → ∀ d ∈ v.declarators, d.target.span.Inside x.span := by
  obtain ⟨u, hu, hstatement⟩ := exists_of_readScript hread hx
  have hu := Tree.mem_subtrees_child hu u.mem_subtrees_self
  have hseated := ((hnested.subtree hu).seated (Source.ofText code)).statement x hstatement
  refine ⟨hseated.span.trans (hnested.span_inside hu), ?_⟩
  rintro v rfl
  exact (hseated.declares v rfl).targets

theorem Stmt.Kept.agree {pre e e' post : Text} {x y : Stmt}
    (h : x.Kept pre.length (pre ++ e).length (e'.length - e.length) y)
    (hspan : x.span.Inside (pre ++ e ++ post).span)
    (htargets : ∀ v, x = .declare v → ∀ d ∈ v.declarators, d.target.span.Inside x.span)
    (entry : String) (legacy : Bool) :
    (x.bindings entry legacy (pre ++ e ++ post)).Agree (y.bindings entry legacy (pre ++ e' ++ post)) := by
  -- a shift by nothing forgets lines and columns only
  have hy : ((y.relocate (Span.shift 0)).bindings entry legacy (pre ++ e' ++ post)).Agree
      (y.bindings entry legacy (pre ++ e' ++ post)) :=
    y.bindings_relocate entry legacy fun v _ d _ => by simp [Pattern.SameText, Span.shift]
  cases h with
  | before place same =>
      rw [← same] at hy
      refine .trans (.symm (x.bindings_relocate entry legacy ?_)) hy
      intro v hv d hd
      have hd := htargets v hv d hd
      simpa [Pattern.SameText, Span.shift] using
        Text.slice_before (hd.trans hspan) (Int.le_trans hd.stop place) e'
  | after place same =>
      rw [← same] at hy
      refine .trans (.symm (x.bindings_relocate entry legacy ?_)) hy
      intro v hv d hd
      have hd := htargets v hv d hd
      have hstart : (pre.length + e.length : Int) ≤ d.target.span.start := by
        have := hd.start
        simp only [List.length_append] at place
        omega
      exact Text.slice_after (hd.trans hspan) hstart e'

theorem extract_agree {pre e e' post : Text} {t : Tree} {p : Program} {xs ys : List Stmt}
    (hnested : t.Nested (pre ++ e ++ post)) (hread : readScript (pre ++ e ++ post) t = .ok p)
    (hxs : ∀ x ∈ xs, x ∈ p.body)
    (h : List.Forall₂ (Stmt.Kept pre.length (pre ++ e).length (e'.length - e.length)) xs ys)
    (entry : String) (legacy : Bool) :
    (extract entry legacy (pre ++ e ++ post) xs).Agree (extract entry legacy (pre ++ e' ++ post) ys) := by
  induction h with
  | nil => exact .refl _
  | cons h _ ih =>
      obtain ⟨hspan, htargets⟩ := Stmt.targets_inside hnested hread (hxs _ List.mem_cons_self)
      exact (h.agree hspan htargets entry legacy).append
        (ih fun x hx => hxs x (List.mem_cons_of_mem _ hx))

theorem localsText_of_split {o : Options} {pre e post : Text} {t : Tree} {others : List Stmt}
    {m : Modules} (hentry : EntryIs o.entryName pre e post t others)
    (h : split o (pre ++ e ++ post) t = .ok m) :
    m.localsText = pre ++ post ++ ("\n" ++ localsExport m.bindings ++ "\n").toList ∧
      (extract o.entryName o.legacy (pre ++ e ++ post) others).result = .ok m.bindings := by
  obtain ⟨p, k, c, hread, hfind, hstart, hstop, rfl⟩ := hentry
  obtain ⟨pt, bs, hprepare, hfinish⟩ := split_eq_ok h
  obtain ⟨p', hread', hlocate, hextract⟩ := prepare_eq_ok hprepare
  obtain rfl : p = p' := Except.ok.inj (hread.symm.trans hread')
  obtain ⟨c', hfind', _, _, hothers, hremove, _⟩ := Program.locate_eq_ok hlocate
  obtain ⟨rfl, rfl⟩ : k = pt.index ∧ c = c' := by simpa using hfind.symm.trans hfind'
  obtain ⟨_, _, _, _, _, rfl⟩ := finish_eq_ok hfinish
  rw [hstart, hstop] at hremove
  refine ⟨?_, ?_⟩
  · rw [Draft.exportLocals, Draft.render_append, Draft.render_remove hremove]
  · rw [← hothers]
    exact hextract

/-- A script whose entry statement alone is replaced keeps its locals module. -/
theorem locals_independent_of_entry {o : Options} {pre e₁ e₂ post : Text} {t₁ t₂ : Tree}
    {xs ys : List Stmt} {m₁ m₂ : Modules} (hnested : t₁.Nested (pre ++ e₁ ++ post))
    (h₁ : EntryIs o.entryName pre e₁ post t₁ xs) (h₂ : EntryIs o.entryName pre e₂ post t₂ ys)
    (hkept : List.Forall₂ (Stmt.Kept pre.length (pre ++ e₁).length (e₂.length - e₁.length)) xs ys)
    (hsplit₁ : split o (pre ++ e₁ ++ post) t₁ = .ok m₁)
    (hsplit₂ : split o (pre ++ e₂ ++ post) t₂ = .ok m₂) :
    m₁.localsText = m₂.localsText ∧ m₁.bindings = m₂.bindings := by
  obtain ⟨htext₁, hextract₁⟩ := localsText_of_split h₁ hsplit₁
  obtain ⟨htext₂, hextract₂⟩ := localsText_of_split h₂ hsplit₂
  obtain ⟨p, k, _, hread, _, _, _, rfl⟩ := h₁
  have hagree := extract_agree hnested hread (fun x hx => List.mem_of_mem_eraseIdx hx) hkept
    o.entryName o.legacy
  have hbindings : m₁.bindings = m₂.bindings := by
    rw [Extraction.bindings_of_result hextract₁, Extraction.bindings_of_result hextract₂,
      hagree.bindings]
  exact ⟨by rw [htext₁, htext₂, hbindings], hbindings⟩

namespace Sample

def pre : Text := "let a; ".toList

def post : Text := " let b".toList

def declaration (start : Nat) : Tree :=
  node "lexical_declaration" "" start (start + 5)
    [token "let" "kind" start (start + 3),
    node "variable_declarator" "" (start + 4) (start + 5)
      [node "identifier" "name" (start + 4) (start + 5) []]]

def swapTree (stop : Nat) (arguments : List Tree) : Tree :=
  node "program" "" 0 (stop + 6)
    [declaration 0,
    node "expression_statement" "" 7 stop
      [node "call_expression" "" 7 (stop - 1)
        [node "identifier" "function" 7 10 [], node "arguments" "arguments" 10 (stop - 1) arguments]],
    declaration (stop + 1)]

def letStmt (start : Int) (name : String) : Stmt :=
  .declare (.mk ⟨start, start + 5, 1, start⟩ "let"
    [.mk ⟨start + 4, start + 5, 1, start + 4⟩
      (.expr (.ident ⟨⟨start + 4, start + 5, 1, start + 4⟩, name⟩)) none])

def isLet (start : Int) (name : String) : Stmt → Bool
  | .declare (.mk s kind [.mk s' (.expr (.ident i)) none]) =>
      s = ⟨start, start + 5, 1, start⟩ ∧ kind = "let" ∧ s' = ⟨start + 4, start + 5, 1, start + 4⟩ ∧
        i = ⟨⟨start + 4, start + 5, 1, start + 4⟩, name⟩
  | _ => false

theorem eq_letStmt {start : Int} {name : String} {x : Stmt} (h : isLet start name x = true) :
    x = letStmt start name := by
  unfold isLet at h
  split at h
  · obtain ⟨rfl, rfl, rfl, rfl⟩ := of_decide_eq_true h
    rfl
  · cases h

/-- A script with the entry as its second statement, up to `stop`, and declarations around it. -/
def swaps (stop : Int) (p : Program) : Bool :=
  match findEntry "app" p.body, p.body with
  | some (1, c), [x, _, y] =>
      c.statement.start = 7 ∧ c.statement.stop = stop ∧ isLet 0 "a" x ∧ isLet (stop + 1) "b" y
  | _, _ => false

theorem entryIs_of_swaps {e : Text} {t : Tree}
    (h : (readScript (pre ++ e ++ post) t).toOption.map (swaps (pre ++ e).length) = some true) :
    EntryIs "app" pre e post t [letStmt 0 "a", letStmt ((pre ++ e).length + 1) "b"] := by
  cases hp : readScript (pre ++ e ++ post) t with
  | error s =>
      rw [hp] at h
      cases h
  | ok p =>
      obtain ⟨sp, body⟩ := p
      rw [hp] at h
      have h : swaps (pre ++ e).length ⟨sp, body⟩ = true := Option.some.inj h
      unfold swaps at h
      split at h
      · rename_i c x z y hfind hbody
        obtain ⟨hstart, hstop, hx, hy⟩ := of_decide_eq_true h
        refine ⟨_, 1, c, hp, hfind, hstart, hstop, ?_⟩
        rw [hbody, ← eq_letStmt hx, ← eq_letStmt hy]
        rfl
      · cases h

def short : Text := "app(a);".toList

def shortTree : Tree := swapTree 14 [node "identifier" "" 11 12 []]

def long : Text := "app(a, b);".toList

def longTree : Tree := swapTree 17 [node "identifier" "" 11 12 [], node "identifier" "" 14 15 []]

theorem kept :
    List.Forall₂ (Stmt.Kept pre.length (pre ++ short).length (long.length - short.length))
      [letStmt 0 "a", letStmt ((pre ++ short).length + 1) "b"]
      [letStmt 0 "a", letStmt ((pre ++ long).length + 1) "b"] := by
  have hpre : pre.length = 7 := by decide +kernel
  have hshort : short.length = 7 := by decide +kernel
  have hlong : long.length = 10 := by decide +kernel
  rw [List.length_append, List.length_append, hpre, hshort, hlong]
  exact .cons (.before (by decide) rfl) (.cons (.after (by decide) rfl) .nil)

theorem splits (code : Text) (t : Tree) (h : (split options code t).toOption.isSome = true) :
    ∃ m, split options code t = .ok m := by
  cases hm : split options code t with
  | error s =>
      rw [hm] at h
      cases h
  | ok m => exact ⟨m, rfl⟩

end Sample

theorem sample_locals_independent_of_entry :
    Sample.shortTree.Nested (Sample.pre ++ Sample.short ++ Sample.post) ∧
    ∃ xs ys m₁ m₂, EntryIs "app" Sample.pre Sample.short Sample.post Sample.shortTree xs ∧
      EntryIs "app" Sample.pre Sample.long Sample.post Sample.longTree ys ∧
      List.Forall₂ (Stmt.Kept Sample.pre.length (Sample.pre ++ Sample.short).length
        (Sample.long.length - Sample.short.length)) xs ys ∧
      split Sample.options (Sample.pre ++ Sample.short ++ Sample.post) Sample.shortTree = .ok m₁ ∧
      split Sample.options (Sample.pre ++ Sample.long ++ Sample.post) Sample.longTree = .ok m₂ ∧
      m₁.localsText = m₂.localsText ∧ m₁.bindings = m₂.bindings := by
  have hnested : Sample.shortTree.Nested (Sample.pre ++ Sample.short ++ Sample.post) := by decide
  have h₁ := Sample.entryIs_of_swaps (e := Sample.short) (t := Sample.shortTree) (by decide +kernel)
  have h₂ := Sample.entryIs_of_swaps (e := Sample.long) (t := Sample.longTree) (by decide +kernel)
  obtain ⟨m₁, hm₁⟩ := Sample.splits (Sample.pre ++ Sample.short ++ Sample.post) Sample.shortTree
    (by decide +kernel)
  obtain ⟨m₂, hm₂⟩ := Sample.splits (Sample.pre ++ Sample.long ++ Sample.post) Sample.longTree
    (by decide +kernel)
  exact ⟨hnested, _, _, m₁, m₂, h₁, h₂, Sample.kept, hm₁, hm₂,
    locals_independent_of_entry (o := Sample.options) hnested h₁ h₂ Sample.kept hm₁ hm₂⟩

end ScriptSplit
