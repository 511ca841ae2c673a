import ScriptSplit.Proofs.Legacy

/-!
What is refused in a piece of script, in the order in which it is met. A walk ends at the first of it,
whatever the scope, and the scoping rules make no difference to it.
-/

namespace ScriptSplit

mutual

def Item.refusals : Item → List Refusal
  | .reference _ => []
  | .shorthand _ => []
  | .shadow _ => []
  | .scoped items => Item.allRefusals items
  | .refuse r => [r]

def Item.allRefusals : List Item → List Refusal
  | [] => []
  | i :: is => i.refusals ++ Item.allRefusals is

end

attribute [simp] Item.refusals Item.allRefusals

@[simp] theorem Item.allRefusals_append (is js : List Item) :
    Item.allRefusals (is ++ js) = Item.allRefusals is ++ Item.allRefusals js := by
  induction is with
  | nil => rfl
  | cons i is ih => simp [ih]

def Walk.EndsAt (w : Walk) : List Refusal → Prop
  | [] => ∃ s, w.outcome = .ok s
  | r :: _ => w.outcome = .error r

theorem Walk.EndsAt.within {w : Walk} {rs : List Refusal} (h : w.EndsAt rs) (s : Scope) :
    (Walk.within s w).EndsAt rs := by
  cases rs with
  | nil =>
      obtain ⟨s', hs'⟩ := h
      exact ⟨s, by rw [Walk.within, hs']; rfl⟩
  | cons r rs =>
      have h : w.outcome = .error r := h
      simp [Walk.EndsAt, Walk.within, h, Except.map]

theorem Walk.EndsAt.andThen {w : Walk} {rs rs' : List Refusal} (h : w.EndsAt rs) {next : Scope → Walk}
    (hnext : ∀ s, (next s).EndsAt rs') : (w.andThen next).EndsAt (rs ++ rs') := by
  cases rs with
  | nil =>
      obtain ⟨s, hs⟩ := h
      have hout : (w.andThen next).outcome = (next s).outcome := by rw [Walk.andThen, hs]
      have hend := hnext s
      cases rs' <;> simpa [Walk.EndsAt, hout] using hend
  | cons r rs =>
      have h : w.outcome = .error r := h
      simp [Walk.EndsAt, Walk.andThen, h]

mutual

theorem Item.walk_endsAt : ∀ (i : Item) (s : Scope), (i.walk s).EndsAt i.refusals
  | .reference _, s => ⟨s, rfl⟩
  | .shorthand _, s => ⟨s, rfl⟩
  | .shadow x, s => ⟨s.shadow x, rfl⟩
  | .scoped items, s => (Item.walks_endsAt items s).within s
  | .refuse _, _ => rfl

theorem Item.walks_endsAt : ∀ (is : List Item) (s : Scope), (Item.walks s is).EndsAt (Item.allRefusals is)
  | [], s => ⟨s, rfl⟩
  | i :: is, s => (Item.walk_endsAt i s).andThen fun s' => Item.walks_endsAt is s'

end

namespace Sketch

mutual

def refusals : Sketch → List Refusal
  | .part _ => []
  | .item i => i.refusals
  | .scoped ss => allRefusals ss

def allRefusals : List Sketch → List Refusal
  | [] => []
  | s :: ss => s.refusals ++ allRefusals ss

end

attribute [simp] refusals allRefusals

@[simp] theorem allRefusals_append (ss ts : List Sketch) :
    allRefusals (ss ++ ts) = allRefusals ss ++ allRefusals ts := by
  induction ss with
  | nil => rfl
  | cons s ss ih => simp [ih]

@[simp] theorem allRefusals_ofParts (ps : List Phrase) : allRefusals (ofParts ps) = [] := by
  induction ps with
  | nil => rfl
  | cons p ps ih => simpa [ofParts] using ih

@[simp] theorem allRefusals_shadows (xs : List String) : allRefusals (shadows xs) = [] := by
  induction xs with
  | nil => rfl
  | cons x xs ih => simpa [shadows] using ih

end Sketch

namespace Phrase

def refusals (legacy : Bool) (p : Phrase) : List Refusal := Item.allRefusals (p.outline legacy)

end Phrase

namespace Sketch

mutual

theorem mem_refusals_items {legacy : Bool} {r : Refusal} : ∀ s : Sketch,
    r ∈ Item.allRefusals (s.items legacy) ↔ r ∈ s.refusals ∨ ∃ q ∈ s.parts, r ∈ q.refusals legacy
  | .part p => by simp [Phrase.refusals]
  | .item i => by simp
  | .scoped ss => by simpa using mem_allRefusals_items ss

theorem mem_allRefusals_items {legacy : Bool} {r : Refusal} : ∀ ss : List Sketch,
    r ∈ Item.allRefusals (allItems legacy ss) ↔
      r ∈ allRefusals ss ∨ ∃ q ∈ allParts ss, r ∈ q.refusals legacy
  | [] => by simp
  | s :: ss => by
      simp only [allItems, allRefusals, allParts, Item.allRefusals_append, List.mem_append,
        mem_refusals_items s, mem_allRefusals_items ss]
      grind

end

mutual

theorem refusals_congr : ∀ s : Sketch, (∀ q ∈ s.parts, q.refusals true = q.refusals false) →
    Item.allRefusals (s.items true) = Item.allRefusals (s.items false)
  | .part p, h => h p (by simp)
  | .item _, _ => rfl
  | .scoped ss, h => by simpa using allRefusals_congr ss h

theorem allRefusals_congr : ∀ ss : List Sketch,
    (∀ q ∈ allParts ss, q.refusals true = q.refusals false) →
      Item.allRefusals (allItems true ss) = Item.allRefusals (allItems false ss)
  | [], _ => rfl
  | s :: ss, h => by
      have hs := refusals_congr s fun q hq => h q (List.mem_append_left _ hq)
      have hss := allRefusals_congr ss fun q hq => h q (List.mem_append_right _ hq)
      simp only [allItems, Item.allRefusals_append, hs, hss]

end

end Sketch

namespace Phrase

variable {legacy : Bool} {p q : Phrase}

theorem mem_refusals {r : Refusal} : r ∈ p.refusals legacy ↔
    r ∈ Sketch.allRefusals (p.sketch legacy) ∨
      ∃ q ∈ Sketch.allParts (p.sketch legacy), r ∈ q.refusals legacy := by
  rw [refusals, outline_eq]
  exact Sketch.mem_allRefusals_items _

theorem refusals_legacy (p : Phrase) : p.refusals true = p.refusals false := by
  induction p using Phrase.induction with
  | step p ih =>
      obtain hsame | ⟨s, h, r, b, isAwait, rfl⟩ | ⟨s, q, b, rfl⟩ := p.sketch_eq_or
      · unfold refusals
        rw [outline_eq, outline_eq, hsame]
        exact Sketch.allRefusals_congr _ fun q hq => ih q (mem_pieces_of_sketch false hq)
      · have hr := ih (.expr r) (by simp [pieces, parts, Stmt.parts])
        have hh := ih (.head h) (by simp [pieces, parts, Stmt.parts])
        have hb := ih (.stmt b) (by simp [pieces, parts, Stmt.parts])
        simp only [refusals, outline] at hr hh hb ⊢
        simp [Stmt.outline, hr, hh, hb]
      · have hq := ih (.declared q) (by simp [pieces, parts, Handler.parts])
        have hb := ih (.block b) (by simp [pieces, parts, Handler.parts])
        simp only [refusals, outline] at hq hb ⊢
        simp [Handler.outline, hq, hb]

def Refuses (legacy : Bool) (p : Phrase) : Prop := ∃ r, r ∈ p.refusals legacy

theorem exists_walk_iff (s : Scope) :
    (∃ s', (Item.walks s (p.outline legacy)).outcome = .ok s') ↔ ¬ p.Refuses legacy := by
  have hend : (Item.walks s (p.outline legacy)).EndsAt (p.refusals legacy) := Item.walks_endsAt _ s
  cases hrs : p.refusals legacy with
  | nil =>
      rw [hrs] at hend
      have hend : ∃ s', (Item.walks s (p.outline legacy)).outcome = .ok s' := hend
      simpa [Refuses, hrs] using hend
  | cons r rs =>
      rw [hrs] at hend
      have hend : (Item.walks s (p.outline legacy)).outcome = .error r := hend
      simp [Refuses, hrs, hend]

theorem RefusesValue.refuses (h : p.RefusesValue) (legacy : Bool) : p.Refuses legacy := by
  unfold RefusesValue at h
  split at h
  · rename_i s key value computed
    obtain ⟨r, heq⟩ := h
    exact ⟨r, mem_refusals.mpr (.inl (by simp [sketch, Entry.declaredSketch, heq, refusing]))⟩
  · cases h

theorem Refuses.of_piece (h : q.Refuses legacy) (hq : q ∈ p.pieces) : p.Refuses legacy := by
  by_cases hp : p.RefusesValue
  · exact hp.refuses legacy
  · obtain ⟨r, hr⟩ := h
    rw [← allParts_sketch legacy p hp] at hq
    exact ⟨r, mem_refusals.mpr (.inr ⟨q, hq, hr⟩)⟩

theorem not_refuses_of_pieces (hown : Sketch.allRefusals (p.sketch legacy) = [])
    (hparts : ∀ q ∈ p.pieces, ¬ q.Refuses legacy) : ¬ p.Refuses legacy := by
  rintro ⟨r, hr⟩
  rcases mem_refusals.mp hr with hr | ⟨q, hq, hr⟩
  · rw [hown] at hr
    cases hr
  · exact hparts q (mem_pieces_of_sketch legacy hq) ⟨r, hr⟩

end Phrase

end ScriptSplit
