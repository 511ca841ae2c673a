import ScriptSplit.Proofs.Splicing

namespace ScriptSplit

namespace Draft

theorem accepted_sublist (d : Draft) (cs : List Call) : (d.accepted cs).Sublist cs := by
  induction cs generalizing d with
  | nil => exact .slnil
  | cons c cs ih =>
      rw [accepted]
      split
      · exact (ih _).cons_cons c
      · exact (ih d).cons c

def Takes (d : Draft) (cs : List Change) : Prop := d.accepted (cs.map .change) = cs.map .change

instance (d : Draft) (cs : List Change) : Decidable (d.Takes cs) :=
  inferInstanceAs (Decidable (_ = _))

theorem takes_cons {d : Draft} {c : Change} {cs : List Change} :
    d.Takes (c :: cs) ↔ ∃ d', c.on d = .ok d' ∧ d'.Takes cs := by
  unfold Takes
  rw [List.map_cons, accepted, Call.on]
  cases h : c.on d with
  | ok d' => simp
  | error what =>
      constructor
      · intro (hall : d.accepted (cs.map .change) = .change c :: cs.map .change)
        have hlen := (d.accepted_sublist (cs.map .change)).length_le
        rw [hall, List.length_cons] at hlen
        omega
      · rintro ⟨d', h', _⟩
        cases h'

theorem takes_iff {d : Draft} {cs : List Change} :
    d.Takes cs ↔ (∀ c ∈ cs, c.Fits d.source) ∧ (cs.filterMap Change.edit?).Pairwise Edit.Compatible ∧
      ∀ e ∈ cs.filterMap Change.edit?, ∀ f ∈ d.edits, e.Compatible f := by
  induction cs generalizing d with
  | nil => simp [Takes, accepted]
  | cons c cs ih =>
      have hcons : (c :: cs).filterMap Change.edit? =
          c.edit?.toList ++ cs.filterMap Change.edit? := by
        cases h : c.edit? <;> simp [h]
      rw [takes_cons, hcons, List.pairwise_append, List.forall_mem_cons, List.forall_mem_append]
      -- the edit of the first change is among those that the others must not clash with
      constructor
      · rintro ⟨d', hon, htakes⟩
        obtain ⟨hfits, hfree, rfl⟩ := Change.on_eq_ok.mp hon
        obtain ⟨hplaced, hpairwise, hclear⟩ := ih.mp htakes
        refine ⟨⟨hfits, hplaced⟩, ⟨?_, hpairwise, ?_⟩, ?_, ?_⟩
        · cases c.edit? <;> simp
        · intro e he f hf
          exact symm (hclear f hf e (List.mem_append_right _ he))
        · simpa using hfree
        · intro e he f hf
          exact hclear e he f (List.mem_append_left _ hf)
      · rintro ⟨⟨hfits, hplaced⟩, ⟨_, hpairwise, hapart⟩, hfree, hclear⟩
        refine ⟨_, Change.on_eq_ok.mpr ⟨hfits, by simpa using hfree, rfl⟩, ih.mpr ⟨hplaced, hpairwise, ?_⟩⟩
        intro e he f hf
        rcases List.mem_append.mp hf with hf | hf
        · exact hclear e he f hf
        · exact symm (hapart f hf e he)

theorem Takes.perm {source : Text} {cs cs' : List Change} (h : (ofText source).Takes cs)
    (hperm : cs.Perm cs') : (ofText source).Takes cs' := by
  obtain ⟨hfits, hpairwise, _⟩ := takes_iff.mp h
  refine takes_iff.mpr ⟨fun c hc => hfits c (hperm.mem_iff.mpr hc), ?_, ?_⟩
  · exact ((hperm.filterMap _).pairwise_iff symm).mp hpairwise
  · intro e _ f hf
    cases hf

theorem Takes.acceptedEdits {d : Draft} {cs : List Change} (h : d.Takes cs) :
    d.acceptedEdits (cs.map .change) = cs.filterMap Change.edit? := by
  unfold Takes at h
  rw [Draft.acceptedEdits, h, List.filterMap_map]
  rfl

theorem render_of_perm {d d' : Draft} (hd : d.Sound) (hsource : d.source = d'.source)
    (hedits : d.edits.Perm d'.edits) (htail : d.tail = d'.tail) : d.render = d'.render := by
  have hsorted := List.pairwise_mergeSort Edit.le_trans Edit.le_total d'.edits
  have hperm := (List.mergeSort_perm d'.edits Edit.le).trans hedits.symm
  rw [hd.render_eq hperm hsorted, hsource, htail]
  rfl

/-- Changes that are all accepted in one order are accepted in every order, and render alike; changes
of which one is turned away in some order are not all accepted in any. -/
theorem takes_in_any_order {source : Text} {cs cs' : List Change} (hperm : cs.Perm cs') :
    ((ofText source).Takes cs → (ofText source).Takes cs' ∧
      ((ofText source).after (cs'.map .change)).render =
        ((ofText source).after (cs.map .change)).render) ∧
    (¬ (ofText source).Takes cs → ¬ (ofText source).Takes cs') := by
  constructor
  · intro h
    have h' := h.perm hperm
    refine ⟨h', ?_⟩
    have hedits : ((ofText source).after (cs'.map .change)).edits.Perm
        ((ofText source).after (cs.map .change)).edits := by
      rw [after_eq, after_eq, h.acceptedEdits, h'.acceptedEdits]
      exact (hperm.symm.filterMap _).append_left _
    have htail : ∀ cs : List Change, ((cs.map Call.change).flatMap Call.tail) = [] := by
      intro cs
      simp [Call.tail]
    refine render_of_perm ((sound_ofText source).after _) ?_ hedits ?_
    · rw [after_eq, after_eq]
    · rw [after_eq, after_eq, htail, htail]
  · intro h h'
    exact h (h'.perm hperm.symm)

/-- A range, an insertion where it starts and a removal of nothing, in two orders; and two ranges that
overlap, of which the later one is turned away in either order. -/
theorem insertion_takes_in_any_order :
    [Change.replace 1 2 "B".toList, .replace 1 1 "-".toList, .remove 7 7].Perm
        [.remove 7 7, .replace 1 1 "-".toList, .replace 1 2 "B".toList] ∧
      (ofText "ab".toList).Takes [.replace 1 2 "B".toList, .replace 1 1 "-".toList, .remove 7 7] ∧
      (ofText "ab".toList).Takes [.remove 7 7, .replace 1 1 "-".toList, .replace 1 2 "B".toList] ∧
      ((ofText "ab".toList).after ([Change.replace 1 2 "B".toList, .replace 1 1 "-".toList,
          .remove 7 7].map .change)).render = "a-B".toList ∧
      ((ofText "ab".toList).after ([Change.remove 7 7, .replace 1 1 "-".toList,
          .replace 1 2 "B".toList].map .change)).render = "a-B".toList ∧
      [Change.replace 0 2 "x".toList, .remove 1 2].Perm [.remove 1 2, .replace 0 2 "x".toList] ∧
      ¬ (ofText "ab".toList).Takes [.replace 0 2 "x".toList, .remove 1 2] ∧
      ¬ (ofText "ab".toList).Takes [.remove 1 2, .replace 0 2 "x".toList] := by
  have hperm : [Change.replace 1 2 "B".toList, .replace 1 1 "-".toList, .remove 7 7].Perm
      [.remove 7 7, .replace 1 1 "-".toList, .replace 1 2 "B".toList] := by decide
  have htakes : (ofText "ab".toList).Takes
      [.replace 1 2 "B".toList, .replace 1 1 "-".toList, .remove 7 7] := by decide
  -- in the second order the edits stand as they are to be written
  have hrender : ((ofText "ab".toList).after ([Change.remove 7 7, .replace 1 1 "-".toList,
      .replace 1 2 "B".toList].map .change)).render = "a-B".toList := by
    rw [render, List.mergeSort_of_pairwise (by decide)]
    decide
  have hswap : [Change.replace 0 2 "x".toList, .remove 1 2].Perm
      [.remove 1 2, .replace 0 2 "x".toList] := by decide
  have hrefused : ¬ (ofText "ab".toList).Takes [.replace 0 2 "x".toList, .remove 1 2] := by decide
  obtain ⟨htakes', hsame⟩ := (takes_in_any_order hperm).1 htakes
  exact ⟨hperm, htakes, htakes', hsame.symm.trans hrender, hrender, hswap, hrefused,
    (takes_in_any_order hswap).2 hrefused⟩

end Draft

end ScriptSplit
