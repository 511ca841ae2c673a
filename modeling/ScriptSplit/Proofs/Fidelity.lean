import ScriptSplit.Proofs.Assembly.Statement

namespace ScriptSplit

namespace Node

def KeywordFirst (n : Node) : Prop :=
  n.kind = "for_in_statement" → ∀ k ∈ n.field? "kind", ∀ l ∈ n.field? "left",
    (n.spanOf k).start ≤ (n.spanOf l).start

structure Settled (code : Text) (n : Node) : Prop where
  text : n.source.text = code
  nests : n.Nests
  keyword : n.KeywordFirst

namespace Settled

open Fragment (sits_of_children sits_of_nil)

variable {n : Node} {code : Text} (hn : n.Settled code) {xs ys : List Fragment}

include hn

theorem sits {x : Fragment} (hspan : x.span = n.span) (hspelled : x.Spelled code)
    (h : ∀ c ∈ x.children, c.Sits code n.span) : x.Sits code n.span :=
  sits_of_children (hspan ▸ hn.nests.span_inside) hspelled (hspan ▸ h)

theorem word {l : Label} {x : Fragment} (h : n.source.Words l x)
    (hl : (n.source.span l).Inside n.span) : x.Sits code n.span := by
  have hident : (n.source.ident l).Spelled code := by
    rw [← hn.text]
    rfl
  have hliteral : String.ofList (n.source.word l) =
      String.ofList (code.slice (n.source.span l).start (n.source.span l).stop) := by
    rw [← hn.text]
    rfl
  cases h with
  | name => exact sits_of_nil hl hident rfl
  | ident => exact sits_of_nil hl hident rfl
  | privateName => exact sits_of_nil hl hident rfl
  | literal => exact sits_of_nil hl hliteral rfl

/-- The declaration in a header runs from the keyword to the end of the left side. -/
theorem header {kind left : Part} {target : Pattern} (init : Option Expr)
    (hloop : n.kind = "for_in_statement") (hkind : n.field? "kind" = some kind)
    (hleft : n.field? "left" = some left)
    (htarget : (Fragment.pattern target).Sits code (n.spanOf left)) :
    (Fragment.loopVariables (n.headerVariables kind left target init)).Sits code n.span := by
  have hk := hn.nests.inside kind (field_eq_some hkind).1
  have hl := hn.nests.inside left (field_eq_some hleft).1
  have hfirst := hn.keyword hloop kind hkind left hleft
  refine sits_of_children ⟨hk.start, Int.le_trans hfirst hl.order, hl.stop⟩ trivial ?_
  refine List.forall_mem_singleton.mpr ?_
  refine sits_of_children ⟨hfirst, hl.order, Int.le_refl _⟩ trivial ?_
  exact List.forall_mem_singleton.mpr htarget

theorem step (hstep : n.Step xs ys) (h : ∀ x ∈ xs, x.Sits code n.span) :
    ∀ y ∈ ys, y.Sits code n.span := by
  cases hstep with
  | form hspan hword _ => exact List.forall_mem_singleton.mpr (hn.sits hspan (.of_isWord hword) h)
  | stand hchildren hspan hword _ =>
      have hchild := List.forall_mem_singleton.mp h
      exact List.forall_mem_singleton.mpr (hchild.wrap hspan (.of_isWord hword) hchildren)
  | member i =>
      have hident := List.forall_mem_singleton.mp h
      exact List.forall_mem_singleton.mpr (hn.sits rfl trivial (List.forall_mem_cons.mpr ⟨hident, h⟩))
  | entry i =>
      have hident := (List.forall_mem_singleton.mp h).child List.mem_cons_self
      exact List.forall_mem_singleton.mpr (hn.sits rfl trivial (List.forall_mem_cons.mpr ⟨hident, h⟩))
  | entryDefault i e =>
      have hident := ((List.forall_mem_singleton.mp h).child List.mem_cons_self).child List.mem_cons_self
      exact List.forall_mem_singleton.mpr (hn.sits rfl trivial (List.forall_mem_cons.mpr ⟨hident, h⟩))
  | operands s es => exact fun y hy => (List.forall_mem_singleton.mp h).child hy
  | target e =>
      have hpattern := List.forall_mem_singleton.mp h
      exact List.forall_mem_singleton.mpr (hpattern.child List.mem_cons_self)

theorem makes {ls : List Label}
    (h : n.Makes (fun l xs => ∀ x ∈ xs, x.Sits code (n.source.span l)) ls xs) :
    ∀ x ∈ xs, x.Sits code n.span := by
  induction h with
  | nil => exact List.forall_mem_nil _
  | append _ _ hxs hys => exact List.forall_mem_append.mpr ⟨hxs, hys⟩
  | part hp h => exact fun x hx => (h x hx).widen (hn.nests.inside _ hp)
  | word h => exact List.forall_mem_singleton.mpr (hn.word h hn.nests.span_inside)
  | wordOf hp h => exact List.forall_mem_singleton.mpr (hn.word h (hn.nests.inside _ hp))
  | plain hinside hchildren hword _ =>
      exact List.forall_mem_singleton.mpr (sits_of_nil (hinside hn.nests) (.of_isWord hword) hchildren)
  | step _ hstep ih => exact hn.step hstep ih
  | header init hloop hkind hleft h =>
      have htarget := List.forall_mem_singleton.mp h
      exact List.forall_mem_singleton.mpr (hn.header init hloop hkind hleft htarget)

end Settled

end Node

namespace Tree

/-- In the header of every enumerating loop the keyword does not start after the left side. -/
def KeywordsFirst (t : Tree) : Prop :=
  ∀ u ∈ t.subtrees, u.label.kind = "for_in_statement" →
    ∀ k ∈ u.children.find? fun c => c.label.field == "kind",
      ∀ l ∈ u.children.find? fun c => c.label.field == "left", k.label.startByte ≤ l.label.startByte

instance (t : Tree) : Decidable t.KeywordsFirst :=
  inferInstanceAs (Decidable (∀ u ∈ t.subtrees, _))

variable {code : Text} {t : Tree}

theorem exists_of_field {s : Source} {f : String} {p : Part} (h : (t.readNode s).field? f = some p) :
    ∃ c, t.children.find? (fun c => c.label.field == f) = some c ∧ p.label = c.label := by
  have hlabel : (fun p : Part => p.label.field == f) ∘ Tree.part s = fun c => c.label.field == f := by
    funext c
    rw [Function.comp_apply, part_eq]
  rw [Node.field?, readNode, parts_eq_map, List.find?_map, hlabel] at h
  obtain ⟨c, hc, rfl⟩ := Option.map_eq_some_iff.mp h
  exact ⟨c, hc, by rw [part_eq]⟩

theorem KeywordsFirst.keywordFirst (h : t.KeywordsFirst) (s : Source) :
    ∀ u ∈ t.subtrees, (u.readNode s).KeywordFirst := by
  intro u hu hloop k hk l hl
  obtain ⟨k', hk', hkind⟩ := exists_of_field hk
  obtain ⟨l', hl', hleft⟩ := exists_of_field hl
  have hfirst := h u hu hloop k' hk' l' hl'
  rw [← hkind, ← hleft] at hfirst
  exact s.offsets.char_mono (Int.ofNat_le.mpr hfirst)

theorem Nested.settled (h : t.Nested code) (hkeys : t.KeywordsFirst) :
    ∀ u ∈ t.subtrees, (u.readNode (Source.ofText code)).Settled code :=
  fun u hu => ⟨rfl, h.nests _ u hu, hkeys.keywordFirst _ u hu⟩

theorem Nested.program_sits (h : t.Nested code) (hkeys : t.KeywordsFirst) :
    Ensures (t.program (Source.ofText code)) fun p => (Fragment.program p).Sits code code.span := by
  have hprogram := program_yields
    (R := fun l xs => ∀ x ∈ xs, x.Sits code ((Source.ofText code).span l))
    (Q := fun n => n.Settled code) ?_ (h.settled hkeys)
  · refine hprogram.mono fun p ⟨_, _, hp⟩ => ?_
    have hroot := (h.settled hkeys t t.mem_subtrees_self).makes hp
    exact (List.forall_mem_singleton.mp hroot).widen (h.span_inside t.mem_subtrees_self)
  · intro n hsource hn xs ⟨_, _, hxs⟩
    rw [← hsource] at hxs ⊢
    exact hn.makes hxs

end Tree

/-- In a script that is read from a tree, names and literals are what the text has at their spans, and
every node lies inside all that are above it. The initializer in the header of an enumerating loop is
below the loop, not below the declaration there. -/
theorem readScript_faithful {code : Text} {t : Tree} {p : Program} (hread : readScript code t = .ok p)
    (hnested : t.Nested code) (hkeys : t.KeywordsFirst) :
    p.span.Inside code.span ∧
    (∀ f, (Fragment.program p).Includes f → f.Spelled code) ∧
    ∀ a d, (Fragment.program p).Includes a → a.Includes d → d.span.Inside a.span := by
  have hsits := hnested.program_sits hkeys p (program_of_readScript hread)
  exact ⟨hsits.inside, hsits.spelled, fun a d ha hd => hsits.nested ha hd⟩

namespace Sample

def headed : Text := "é;for (var x = 1 in o) f;".toList

/-- A loop whose header has an initializer, after a name of two bytes. -/
def headedTree : Tree :=
  .node ⟨"program", true, false, false, "", 0, 26, 0, 0⟩
    [.node ⟨"expression_statement", true, false, false, "", 0, 3, 0, 0⟩
      [.node ⟨"identifier", true, false, false, "", 0, 2, 0, 0⟩ [],
        .node ⟨";", false, false, false, "", 2, 3, 0, 2⟩ []],
    .node ⟨"for_in_statement", true, false, false, "", 3, 26, 0, 3⟩
      [.node ⟨"var", false, false, false, "kind", 8, 11, 0, 8⟩ [],
        .node ⟨"identifier", true, false, false, "left", 12, 13, 0, 12⟩ [],
        .node ⟨"number", true, false, false, "value", 16, 17, 0, 16⟩ [],
        .node ⟨"in", false, false, false, "operator", 18, 20, 0, 18⟩ [],
        .node ⟨"identifier", true, false, false, "right", 21, 22, 0, 21⟩ [],
        .node ⟨"expression_statement", true, false, false, "body", 24, 26, 0, 24⟩
          [.node ⟨"identifier", true, false, false, "", 24, 25, 0, 24⟩ [],
            .node ⟨";", false, false, false, "", 25, 26, 0, 25⟩ []]]]

def declaredHeader? : Stmt → Option Variables
  | .forIn _ (.declare v) _ _ => some v
  | _ => none

/-- Some initializer ends after the declaration that has it. -/
def initializedAfter (v : Variables) : Bool :=
  v.initializers.any fun e => decide (v.span.stop < e.span.stop)

theorem exists_declaredHeader {code : Text} {t : Tree} {check : Variables → Bool}
    (h : (((readScript code t).toOption.bind fun p => p.body.getLast?).bind declaredHeader?).any check =
      true) :
    ∃ p s v r b, readScript code t = .ok p ∧ Stmt.forIn s (.declare v) r b ∈ p.body ∧
      check v = true := by
  cases hp : readScript code t with
  | error s => simp [hp, Except.toOption] at h
  | ok p =>
      simp only [hp, Except.toOption, Option.bind_some] at h
      cases hlast : p.body.getLast? with
      | none => simp [hlast] at h
      | some x =>
          cases hx : declaredHeader? x with
          | none => simp [hlast, hx] at h
          | some v =>
              have hcheck : check v = true := by simpa [hlast, hx] using h
              unfold declaredHeader? at hx
              split at hx
              · cases hx
                exact ⟨p, _, v, _, _, rfl, List.mem_of_getLast? hlast, hcheck⟩
              · cases hx

end Sample

theorem headedTree_faithful :
    Sample.headedTree.Nested Sample.headed ∧ Sample.headedTree.KeywordsFirst ∧
    ∃ p s v r b, readScript Sample.headed Sample.headedTree = .ok p ∧
      Stmt.forIn s (.declare v) r b ∈ p.body ∧
      (∀ f, (Fragment.program p).Includes f → f.Spelled Sample.headed) ∧
      ∃ e ∈ v.initializers, e.span.Inside s ∧ ¬ e.span.Inside v.span := by
  have hnested : Sample.headedTree.Nested Sample.headed := by decide
  have hkeys : Sample.headedTree.KeywordsFirst := by decide
  have hread : (((readScript Sample.headed Sample.headedTree).toOption.bind fun p =>
      p.body.getLast?).bind Sample.declaredHeader?).any Sample.initializedAfter = true := by
    decide +kernel
  obtain ⟨p, s, v, r, b, hread, hloop, hcheck⟩ := Sample.exists_declaredHeader hread
  obtain ⟨_, hspelled, hinside⟩ := readScript_faithful hread hnested hkeys
  obtain ⟨e, he, hstop⟩ := List.any_eq_true.mp hcheck
  refine ⟨hnested, hkeys, p, s, v, r, b, hread, hloop, hspelled, e, he, ?_, fun hdeclared => ?_⟩
  · refine hinside (.stmt (.forIn s (.declare v) r b)) (.expr e) ?_ (.inside ?_ (.self _))
    · exact .inside (List.mem_map_of_mem hloop) (.self _)
    · exact List.mem_append_left _ (List.mem_cons_of_mem _ (List.mem_map_of_mem he))
  · exact Int.not_le.mpr (of_decide_eq_true hstop) hdeclared.stop

end ScriptSplit
