import ScriptSplit.Proofs.Draft

/-!
Drafts after a run of calls, some of which may be turned away: what is rendered is the source with the
accepted edits spliced in one at a time, from right to left.
-/

namespace ScriptSplit

inductive Change where
  | replace (start stop : Int) (text : Text)
  | remove (start stop : Int)
  deriving DecidableEq, Repr

inductive Call where
  | change (what : Change)
  | append (text : Text)
  deriving DecidableEq, Repr

namespace Change

def on (d : Draft) : Change → Except Conflict Draft
  | .replace start stop text => d.replace start stop text
  | .remove start stop => d.remove start stop

/-- The edit that a change asks for; to remove an empty range asks for none. -/
def edit? : Change → Option Edit
  | .replace start stop text => some ⟨start.toNat, stop.toNat, text⟩
  | .remove start stop => if start = stop then none else some ⟨start.toNat, stop.toNat, []⟩

def Fits (source : Text) : Change → Prop
  | .replace start stop _ => 0 ≤ start ∧ start ≤ stop ∧ stop ≤ source.length
  | .remove start stop => start = stop ∨ 0 ≤ start ∧ start ≤ stop ∧ stop ≤ source.length

theorem replace_eq_ok_iff {d d' : Draft} {start stop : Int} {text : Text} :
    d.replace start stop text = .ok d' ↔
      (0 ≤ start ∧ start ≤ stop ∧ stop ≤ d.source.length) ∧
        (∀ f ∈ d.edits, (Edit.mk start.toNat stop.toNat text).Compatible f) ∧
        d' = { d with edits := d.edits ++ [⟨start.toNat, stop.toNat, text⟩] } := by
  rw [Draft.replace_eq_ok]
  constructor
  · rintro ⟨a, b, rfl, rfl, hab, hb, hfree, rfl⟩
    exact ⟨by omega, by simpa using hfree, by simp⟩
  · rintro ⟨hplace, hfree, rfl⟩
    exact ⟨start.toNat, stop.toNat, by omega, by omega, by omega, by omega, hfree, rfl⟩

theorem on_eq_ok {d d' : Draft} {c : Change} :
    c.on d = .ok d' ↔ c.Fits d.source ∧ (∀ e ∈ c.edit?, ∀ f ∈ d.edits, e.Compatible f) ∧
      d' = { d with edits := d.edits ++ c.edit?.toList } := by
  cases c with
  | replace start stop text => simpa [on, Fits, edit?] using replace_eq_ok_iff
  | remove start stop =>
      by_cases h : start = stop
      · simpa [on, Fits, edit?, Draft.remove, h] using eq_comm
      · simpa [on, Fits, edit?, Draft.remove, h] using replace_eq_ok_iff

theorem sound_of_on {d d' : Draft} {c : Change} (hd : d.Sound) (h : c.on d = .ok d') : d'.Sound := by
  cases c with
  | replace start stop text => exact hd.replace h
  | remove start stop => exact hd.remove h

end Change

namespace Call

def on (d : Draft) : Call → Except Conflict Draft
  | .change c => c.on d
  | .append text => .ok (d.append text)

def edit? : Call → Option Edit
  | .change c => c.edit?
  | .append _ => none

def tail : Call → Text
  | .change _ => []
  | .append text => text

theorem eq_of_on {d d' : Draft} {c : Call} (h : c.on d = .ok d') :
    d' = ⟨d.source, d.edits ++ c.edit?.toList, d.tail ++ c.tail⟩ := by
  cases c with
  | change c =>
      obtain ⟨_, _, rfl⟩ := Change.on_eq_ok.mp h
      simp [edit?, tail]
  | append text =>
      cases h
      simp [edit?, tail, Draft.append]

theorem sound_of_on {d d' : Draft} {c : Call} (hd : d.Sound) (h : c.on d = .ok d') : d'.Sound := by
  cases c with
  | change c => exact Change.sound_of_on hd h
  | append text =>
      cases h
      exact ⟨hd.placed, hd.compatible⟩

theorem tail_of_on_error {d : Draft} {c : Call} {what : Conflict} (h : c.on d = .error what) :
    c.tail = [] := by
  cases c with
  | change c => rfl
  | append text => cases h

end Call

namespace Draft

/-- The draft after some calls; a call that is turned away leaves it as it was. -/
def after (d : Draft) : List Call → Draft
  | [] => d
  | c :: cs =>
      match c.on d with
      | .ok d' => d'.after cs
      | .error _ => d.after cs

def accepted (d : Draft) : List Call → List Call
  | [] => []
  | c :: cs =>
      match c.on d with
      | .ok d' => c :: d'.accepted cs
      | .error _ => d.accepted cs

def acceptedEdits (d : Draft) (cs : List Call) : List Edit := (d.accepted cs).filterMap Call.edit?

theorem after_eq (d : Draft) (cs : List Call) :
    d.after cs = ⟨d.source, d.edits ++ d.acceptedEdits cs, d.tail ++ cs.flatMap Call.tail⟩ := by
  induction cs generalizing d with
  | nil => simp [after, acceptedEdits, accepted]
  | cons c cs ih =>
      cases h : c.on d with
      | ok d' =>
          have hd' := Call.eq_of_on h
          have hedit : c.edit?.toList ++ d'.acceptedEdits cs = d.acceptedEdits (c :: cs) := by
            cases he : c.edit? <;> simp [acceptedEdits, accepted, h, he]
          rw [after, h]
          simp only [ih d']
          rw [← hedit, hd']
          simp
      | error what =>
          rw [after, h]
          simp only [ih d]
          simp [acceptedEdits, accepted, h, Call.tail_of_on_error h]

theorem Sound.after {d : Draft} (hd : d.Sound) (cs : List Call) : (d.after cs).Sound := by
  induction cs generalizing d with
  | nil => exact hd
  | cons c cs ih =>
      rw [Draft.after]
      split
      · rename_i d' h
        exact ih (Call.sound_of_on hd h)
      · exact ih hd

end Draft

namespace Edit

def splice (t : Text) (e : Edit) : Text := t.take e.start ++ e.text ++ t.drop e.stop

/-- Edits from right to left: an insertion comes after the range that starts where it stands. -/
def RightOf (e f : Edit) : Prop :=
  f.start < e.start ∨ f.start = e.start ∧ f.isInsertion = true ∧ e.isInsertion = false

theorem rightOf_iff {e f : Edit} : e.RightOf f ↔ f.le e = true ∧ ¬ e.le f = true := by
  rw [le_iff, le_iff]
  simp only [RightOf, isInsertion, beq_iff_eq, beq_eq_false_iff_ne]
  omega

theorem take_initial_splices {t : Text} {k : Nat} {es : List Edit} (h : ∀ e ∈ es, k ≤ e.start) :
    t.take k <+: es.foldr (fun e t => splice t e) t := by
  induction es with
  | nil => exact List.take_prefix k t
  | cons e es ih =>
      obtain ⟨he, hes⟩ := List.forall_mem_cons.mp h
      have hshort : (t.take k).length ≤ e.start := by
        rw [List.length_take]
        omega
      have htake := List.prefix_take_iff.mpr ⟨ih hes, hshort⟩
      rw [List.foldr_cons, splice, List.append_assoc]
      exact htake.trans (List.prefix_append _ _)

end Edit

namespace Draft

theorem weave_eq_splices {t : Text} {es : List Edit} {cursor : Nat}
    (horder : es.Pairwise fun e f => e.stop ≤ f.start)
    (hplaced : ∀ e ∈ es, e.start ≤ e.stop ∧ e.stop ≤ t.length) (hcursor : ∀ e ∈ es, cursor ≤ e.start) :
    weave t cursor es = (es.foldr (fun e t => Edit.splice t e) t).drop cursor := by
  induction es generalizing cursor with
  | nil => rfl
  | cons e es ih =>
      obtain ⟨hnext, hrest⟩ := List.pairwise_cons.mp horder
      obtain ⟨⟨hstart, hstop⟩, hes⟩ := List.forall_mem_cons.mp hplaced
      have hbefore : ∀ f ∈ es, e.start ≤ f.start := fun f hf => Nat.le_trans hstart (hnext f hf)
      have hlen : (t.take e.start).length = e.start := by
        rw [List.length_take]
        omega
      have hkept : (es.foldr (fun e t => Edit.splice t e) t).take e.start = t.take e.start := by
        have h := List.prefix_iff_eq_take.mp (Edit.take_initial_splices (t := t) hbefore)
        rw [hlen] at h
        exact h.symm
      have hfirst : t.between cursor e.start = (t.take e.start).drop cursor := by
        rw [List.drop_take, Text.between]
      have hcut : cursor ≤ (t.take e.start).length := by
        rw [hlen]
        exact hcursor e List.mem_cons_self
      rw [weave, ih hrest hes hnext, List.foldr_cons, Edit.splice, hkept, List.append_assoc,
        List.append_assoc, List.drop_append_of_le_length hcut, hfirst]

end Draft

/-- What a rendered text is made of: a character of the source, or the text of an edit. -/
inductive Strip where
  | kept (offset : Nat)
  | put (edit : Edit)
  deriving DecidableEq, Repr

namespace Strip

def text (source : Text) : Strip → Text
  | .kept i => source[i]?.toList
  | .put e => e.text

def edit? : Strip → Option Edit
  | .kept _ => none
  | .put e => some e

def start : Strip → Nat
  | .kept i => i
  | .put e => e.start

def stop : Strip → Nat
  | .kept i => i + 1
  | .put e => e.stop

end Strip

def Edit.Covers (e : Edit) (i : Nat) : Prop := e.start ≤ i ∧ i < e.stop

def strips (stop cursor : Nat) : List Edit → List Strip
  | [] => (List.range' cursor (stop - cursor)).map .kept
  | e :: es => (List.range' cursor (e.start - cursor)).map .kept ++ .put e :: strips stop e.stop es

theorem Text.flatMap_kept (t : Text) (cursor n : Nat) :
    ((List.range' cursor n).map Strip.kept).flatMap (Strip.text t) = (t.drop cursor).take n := by
  induction n generalizing cursor with
  | zero => simp
  | succ n ih =>
      rw [List.range'_succ, List.map_cons, List.flatMap_cons, ih]
      simp only [Strip.text]
      cases h : t[cursor]? with
      | none =>
          have hlen := List.getElem?_eq_none_iff.mp h
          simp [List.drop_eq_nil_of_le hlen, List.drop_eq_nil_of_le (Nat.le_succ_of_le hlen)]
      | some c =>
          obtain ⟨hlt, rfl⟩ := List.getElem?_eq_some_iff.mp h
          rw [List.drop_eq_getElem_cons hlt]
          rfl

theorem Draft.weave_eq_strips (t : Text) (cursor : Nat) (es : List Edit) :
    weave t cursor es = (strips t.length cursor es).flatMap (Strip.text t) := by
  induction es generalizing cursor with
  | nil =>
      rw [strips, Text.flatMap_kept, weave]
      exact (List.take_of_length_le (by simp)).symm
  | cons e es ih =>
      rw [strips, List.flatMap_append, Text.flatMap_kept, List.flatMap_cons, ← ih, weave]
      simp [Text.between, Strip.text]

theorem filterMap_edit?_strips (n cursor : Nat) (es : List Edit) :
    (strips n cursor es).filterMap Strip.edit? = es := by
  have hkept (is : List Nat) : (is.map Strip.kept).filterMap Strip.edit? = [] := by
    simp [Strip.edit?]
  induction es generalizing cursor with
  | nil => exact hkept _
  | cons e es ih => simp [strips, hkept, ih, Strip.edit?]

section

variable {n cursor : Nat} {es : List Edit} (horder : es.Pairwise fun e f => e.stop ≤ f.start)
  (hplaced : ∀ e ∈ es, e.start ≤ e.stop ∧ e.stop ≤ n) (hcursor : ∀ e ∈ es, cursor ≤ e.start)

include horder hplaced hcursor

theorem kept_mem_strips (i : Nat) :
    .kept i ∈ strips n cursor es ↔ cursor ≤ i ∧ i < n ∧ ∀ e ∈ es, ¬ e.Covers i := by
  induction es generalizing cursor with
  | nil =>
      simp only [strips, List.mem_map, List.mem_range'_1, Strip.kept.injEq, exists_eq_right,
        List.not_mem_nil, false_imp_iff, implies_true, and_true]
      omega
  | cons e es ih =>
      obtain ⟨hnext, hrest⟩ := List.pairwise_cons.mp horder
      obtain ⟨⟨hstart, hstop⟩, hes⟩ := List.forall_mem_cons.mp hplaced
      have hfirst := hcursor e List.mem_cons_self
      have hfollow := ih hrest hes hnext
      simp only [strips, List.mem_append, List.mem_cons, List.mem_map, List.mem_range'_1,
        Strip.kept.injEq, exists_eq_right, reduceCtorEq, false_or, hfollow, forall_eq_or_imp]
      unfold Edit.Covers
      constructor
      · rintro (h | ⟨h, hlt, hfree⟩)
        · refine ⟨by omega, by omega, by omega, fun f hf => ?_⟩
          have := hnext f hf
          omega
        · exact ⟨by omega, hlt, by omega, hfree⟩
      · rintro ⟨h, hlt, hcover, hfree⟩
        by_cases hi : i < e.start
        · exact .inl (by omega)
        · exact .inr ⟨by omega, hlt, hfree⟩

theorem le_start_strips : ∀ x ∈ strips n cursor es, cursor ≤ x.start := by
  induction es generalizing cursor with
  | nil =>
      simp only [strips, List.mem_map, List.mem_range'_1]
      rintro x ⟨i, hi, rfl⟩
      exact hi.1
  | cons e es ih =>
      obtain ⟨hnext, hrest⟩ := List.pairwise_cons.mp horder
      obtain ⟨⟨hstart, _⟩, hes⟩ := List.forall_mem_cons.mp hplaced
      have hfirst := hcursor e List.mem_cons_self
      simp only [strips, List.mem_append, List.mem_cons, List.mem_map, List.mem_range'_1]
      rintro x (⟨i, hi, rfl⟩ | rfl | hx)
      · exact hi.1
      · exact hfirst
      · have hafter := ih hrest hes hnext x hx
        omega

theorem pairwise_strips : (strips n cursor es).Pairwise fun x y => x.stop ≤ y.start := by
  have hkept (a m : Nat) : ((List.range' a m).map Strip.kept).Pairwise fun x y => x.stop ≤ y.start :=
    List.pairwise_map.mpr List.pairwise_lt_range'
  induction es generalizing cursor with
  | nil => exact hkept _ _
  | cons e es ih =>
      obtain ⟨hnext, hrest⟩ := List.pairwise_cons.mp horder
      obtain ⟨⟨hstart, _⟩, hes⟩ := List.forall_mem_cons.mp hplaced
      have hafter : ∀ y ∈ strips n e.stop es, e.stop ≤ y.start := le_start_strips hrest hes hnext
      refine List.pairwise_append.mpr ⟨hkept _ _, List.pairwise_cons.mpr ⟨hafter, ih hrest hes hnext⟩, ?_⟩
      -- what is kept before an edit ends where the edit starts
      intro x hx y hy
      obtain ⟨i, hi, rfl⟩ := List.mem_map.mp hx
      have hi := List.mem_range'_1.mp hi
      have hstop : (Strip.kept i).stop ≤ e.start := by
        simp only [Strip.stop]
        omega
      rcases List.mem_cons.mp hy with rfl | hy
      · exact hstop
      · have := hafter y hy
        omega

end

/-- A text that edits make of a source: they can be spliced in from right to left, and the text is
what that gives; it is made of the characters that no edit covers and of the text of each edit, all
in the order of the source. -/
structure Splices (source : Text) (edits : List Edit) (out : Text) : Prop where
  ordered : ∃ es : List Edit, es.Perm edits ∧ es.Pairwise Edit.RightOf
  spliced : ∀ es : List Edit, es.Perm edits → es.Pairwise Edit.RightOf → out = es.foldl Edit.splice source
  laid : ∃ xs : List Strip, out = xs.flatMap (Strip.text source) ∧
    xs.Pairwise (fun x y => x.stop ≤ y.start) ∧
    (∀ i, .kept i ∈ xs ↔ i < source.length ∧ ∀ e ∈ edits, ¬ e.Covers i) ∧
    (xs.filterMap Strip.edit?).Perm edits

namespace Draft.Sound

variable {d : Draft} (hd : d.Sound)

include hd

theorem stop_le_of_le {es : List Edit} (hperm : es.Perm d.edits)
    (hsorted : es.Pairwise fun e f => e.le f = true) : es.Pairwise fun e f => e.stop ≤ f.start := by
  have hcompatible : es.Pairwise Edit.Compatible := (hperm.pairwise_iff symm).mpr hd.compatible
  refine (hsorted.and hcompatible).imp_of_mem ?_
  intro e f _ hf h
  exact Edit.stop_le_of_compatible (hd.placed f (hperm.mem_iff.mp hf)).1 h.2 h.1

theorem rightOf_reverse {es : List Edit} (hperm : es.Perm d.edits)
    (hsorted : es.Pairwise fun e f => e.le f = true) : es.reverse.Pairwise Edit.RightOf := by
  have hcompatible : es.Pairwise Edit.Compatible := (hperm.pairwise_iff symm).mpr hd.compatible
  refine List.pairwise_reverse.mpr ((hsorted.and hcompatible).imp_of_mem ?_)
  intro e f he hf h
  have hplaced := fun g hg => (hd.placed g (hperm.mem_iff.mp hg)).1
  exact Edit.rightOf_iff.mpr ⟨h.1, Edit.not_le_of_compatible (hplaced e he) (hplaced f hf) h.2 h.1⟩

theorem splices : Splices d.source d.edits (weave d.source 0 (d.edits.mergeSort Edit.le)) := by
  have hplaced : ∀ {es : List Edit}, es.Perm d.edits →
      ∀ e ∈ es, e.start ≤ e.stop ∧ e.stop ≤ d.source.length :=
    fun hperm e he => hd.placed e (hperm.mem_iff.mp he)
  have hperm := List.mergeSort_perm d.edits Edit.le
  have hsorted := List.pairwise_mergeSort Edit.le_trans Edit.le_total d.edits
  have horder := hd.stop_le_of_le hperm hsorted
  refine ⟨⟨_, (List.reverse_perm _).trans hperm, hd.rightOf_reverse hperm hsorted⟩, ?_, ?_⟩
  · intro es hes hright
    have hback := (List.reverse_perm es).trans hes
    have hle : es.reverse.Pairwise fun e f => e.le f = true :=
      List.pairwise_reverse.mpr (hright.imp fun h => (Edit.rightOf_iff.mp h).1)
    rw [hd.mergeSort_eq hback hle, weave_eq_splices (hd.stop_le_of_le hback hle) (hplaced hback)
      (fun e _ => Nat.zero_le e.start), List.drop_zero, List.foldr_reverse]
  · refine ⟨strips d.source.length 0 (d.edits.mergeSort Edit.le), weave_eq_strips _ _ _,
      pairwise_strips horder (hplaced hperm) (fun e _ => Nat.zero_le e.start), ?_, ?_⟩
    · intro i
      rw [kept_mem_strips horder (hplaced hperm) (fun e _ => Nat.zero_le e.start)]
      simp [hperm.mem_iff]
    · rw [filterMap_edit?_strips]
      exact hperm

end Draft.Sound

/-- After any calls, a draft renders to the source with the accepted edits spliced in, followed by the
texts that were appended. -/
theorem Draft.render_after_calls (source : Text) (calls : List Call) :
    ∃ body, ((ofText source).after calls).render = body ++ calls.flatMap Call.tail ∧
      Splices source ((ofText source).acceptedEdits calls) body := by
  have hsplices := ((sound_ofText source).after calls).splices
  rw [after_eq] at hsplices ⊢
  exact ⟨_, rfl, hsplices⟩

-- an insertion where a range starts is spliced in after the range, and a clash changes nothing
example : (Draft.ofText "ab".toList).acceptedEdits [.change (.replace 1 2 "B".toList),
      .append "!".toList, .change (.replace 1 1 "-".toList), .change (.remove 0 2)] =
        [⟨1, 2, "B".toList⟩, ⟨1, 1, "-".toList⟩] ∧
    [Edit.mk 1 2 "B".toList, ⟨1, 1, "-".toList⟩].foldl Edit.splice "ab".toList = "a-B".toList := by
  decide

end ScriptSplit
