import Mathlib.Data.List.Pairwise
import ScriptSplit.Proofs.Outcome
import ScriptSplit.Resolve

namespace ScriptSplit

namespace Edit

theorem clashes_iff (e f : Edit) : e.clashes f = true ↔
    e.start = e.stop ∧ f.start = f.stop ∧ e.start = f.start ∨
    e.start = e.stop ∧ f.start ≠ f.stop ∧ f.start < e.start ∧ e.start < f.stop ∨
    e.start ≠ e.stop ∧ f.start = f.stop ∧ e.start < f.start ∧ f.start < e.stop ∨
    e.start ≠ e.stop ∧ f.start ≠ f.stop ∧ e.start < f.stop ∧ f.start < e.stop := by
  unfold clashes
  cases he : e.isInsertion <;> cases hf : f.isInsertion <;>
    simp only [isInsertion, beq_eq_false_iff_ne, beq_iff_eq] at he hf <;> simp [he, hf]

theorem le_iff (e f : Edit) : e.le f = true ↔
    e.start < f.start ∨ e.start = f.start ∧ (e.start = e.stop ∨ f.start ≠ f.stop) := by
  simp [le, isInsertion]

theorem le_of_stop_le {e f : Edit} (he : e.start ≤ e.stop) (h : e.stop ≤ f.start) : e.le f = true := by
  rw [le_iff]
  omega

theorem le_trans (e f g : Edit) (h : e.le f = true) (h' : f.le g = true) : e.le g = true := by
  rw [le_iff] at *
  omega

theorem le_total (e f : Edit) : (e.le f || f.le e) = true := by
  rw [Bool.or_eq_true, le_iff, le_iff]
  omega

def Compatible (e f : Edit) : Prop := e.clashes f = false

instance : Std.Symm Compatible := ⟨fun e f h => by rw [Compatible, clashes_comm]; exact h⟩

theorem compatible_iff (e f : Edit) : e.Compatible f ↔ ¬ e.clashes f = true := by
  simp [Compatible]

theorem not_le_of_compatible {e f : Edit} (he : e.start ≤ e.stop) (hf : f.start ≤ f.stop)
    (h : e.Compatible f) (hef : e.le f = true) : ¬ f.le e = true := by
  rw [compatible_iff, clashes_iff] at h
  rw [le_iff] at *
  omega

theorem stop_le_of_compatible {e f : Edit} (hf : f.start ≤ f.stop) (h : e.Compatible f)
    (hef : e.le f = true) : e.stop ≤ f.start := by
  rw [compatible_iff, clashes_iff] at h
  rw [le_iff] at hef
  omega

theorem compatible_of_stop_le {e f : Edit} (h : e.stop ≤ f.start)
    (hne : e.start < e.stop ∨ f.start < f.stop) : e.Compatible f := by
  rw [compatible_iff, clashes_iff]
  omega

end Edit

namespace Draft

structure Sound (d : Draft) : Prop where
  placed : ∀ e ∈ d.edits, e.start ≤ e.stop ∧ e.stop ≤ d.source.length
  compatible : d.edits.Pairwise Edit.Compatible

theorem sound_ofText (t : Text) : (ofText t).Sound := ⟨by simp [ofText], .nil⟩

theorem replace_eq_ok {d d' : Draft} {start stop : Int} {text : Text} :
    d.replace start stop text = .ok d' ↔
      ∃ a b : Nat, start = a ∧ stop = b ∧ a ≤ b ∧ b ≤ d.source.length ∧
        (∀ f ∈ d.edits, (Edit.mk a b text).Compatible f) ∧
        d' = { d with edits := d.edits ++ [⟨a, b, text⟩] } := by
  unfold replace
  by_cases hr : 0 ≤ start ∧ start ≤ stop ∧ stop ≤ d.source.length
  · obtain ⟨a, rfl⟩ := Int.eq_ofNat_of_zero_le hr.1
    obtain ⟨b, rfl⟩ := Int.eq_ofNat_of_zero_le (show 0 ≤ stop by omega)
    rw [if_pos hr]
    simp only [Int.toNat_natCast]
    cases hf : d.edits.find? (Edit.mk a b text).clashes with
    | some f =>
        have hmem := List.mem_of_find?_eq_some hf
        have hclash : (Edit.mk a b text).clashes f = true := by simpa using List.find?_some hf
        constructor
        · intro h
          cases h
        · rintro ⟨a', b', ha, hb, _, _, hall, _⟩
          obtain rfl : a = a' := by omega
          obtain rfl : b = b' := by omega
          exact absurd hclash ((Edit.compatible_iff _ _).mp (hall f hmem))
    | none =>
        have hall : ∀ f ∈ d.edits, (Edit.mk a b text).Compatible f := fun f hf' =>
          (Edit.compatible_iff _ _).mpr (List.find?_eq_none.mp hf f hf')
        constructor
        · intro h
          exact ⟨a, b, rfl, rfl, by omega, by omega, hall, (Except.ok.inj h).symm⟩
        · rintro ⟨a', b', ha, hb, _, _, _, rfl⟩
          obtain rfl : a = a' := by omega
          obtain rfl : b = b' := by omega
          rfl
  · rw [if_neg hr]
    constructor
    · intro h
      cases h
    · rintro ⟨a, b, rfl, rfl, h, h', _⟩
      omega

theorem Sound.replace {d d' : Draft} {start stop : Int} {text : Text} (hd : d.Sound)
    (h : d.replace start stop text = .ok d') : d'.Sound := by
  obtain ⟨a, b, _, _, hab, hb, hall, rfl⟩ := replace_eq_ok.mp h
  constructor
  · intro e he
    rcases List.mem_append.mp he with he | he
    · exact hd.placed e he
    · obtain rfl := List.mem_singleton.mp he
      exact ⟨hab, hb⟩
  · refine List.pairwise_append.mpr ⟨hd.compatible, List.pairwise_singleton _ _, ?_⟩
    intro e he f hf
    obtain rfl := List.mem_singleton.mp hf
    exact symm (hall e he)

def deletion (a b : Nat) : List Edit := if a = b then [] else [⟨a, b, []⟩]

theorem mem_deletion {a b : Nat} {e : Edit} : e ∈ deletion a b ↔ a ≠ b ∧ e = ⟨a, b, []⟩ := by
  unfold deletion
  split <;> simp_all

theorem remove_eq_ok {d d' : Draft} {a b : Nat} (hab : a ≤ b) (hb : b ≤ d.source.length) :
    d.remove a b = .ok d' ↔
      (∀ e ∈ deletion a b, ∀ f ∈ d.edits, e.Compatible f) ∧
        d' = { d with edits := d.edits ++ deletion a b } := by
  unfold remove deletion
  by_cases h : a = b
  · subst h
    simpa using eq_comm
  · have h' : ¬ (a : Int) = b := by omega
    rw [if_neg h, if_neg h', replace_eq_ok]
    constructor
    · rintro ⟨a', b', ha, hb', _, _, hall, rfl⟩
      obtain rfl : a = a' := by omega
      obtain rfl : b = b' := by omega
      exact ⟨by simpa using hall, rfl⟩
    · rintro ⟨hall, rfl⟩
      exact ⟨a, b, rfl, rfl, hab, hb, by simpa using hall, rfl⟩

theorem Sound.remove {d d' : Draft} {start stop : Int} (hd : d.Sound)
    (h : d.remove start stop = .ok d') : d'.Sound := by
  unfold Draft.remove at h
  split at h
  · cases h
    exact hd
  · exact hd.replace h

theorem Sound.mergeSort_eq {d : Draft} (hd : d.Sound) {es : List Edit} (hperm : es.Perm d.edits)
    (hsorted : es.Pairwise fun e f => e.le f = true) : d.edits.mergeSort Edit.le = es := by
  have hone : ∀ e f, e ∈ es → f ∈ d.edits.mergeSort Edit.le → e.le f = true → f.le e = true → e = f := by
    intro e f he hf hef hfe
    by_contra hne
    have he := hperm.mem_iff.mp he
    have hf := (List.mergeSort_perm _ _).mem_iff.mp hf
    exact Edit.not_le_of_compatible (hd.placed e he).1 (hd.placed f hf).1
      (hd.compatible.forall he hf hne) hef hfe
  exact (List.Perm.eq_of_pairwise hone hsorted (List.pairwise_mergeSort Edit.le_trans Edit.le_total _)
    (hperm.trans (List.mergeSort_perm _ _).symm)).symm

theorem Sound.render_eq {d : Draft} (hd : d.Sound) {es : List Edit} (hperm : es.Perm d.edits)
    (hsorted : es.Pairwise fun e f => e.le f = true) : d.render = weave d.source 0 es ++ d.tail := by
  rw [render, hd.mergeSort_eq hperm hsorted]

end Draft

structure Mutation.Makes (locals : String) (m : Mutation) (e : Edit) : Prop where
  start : (e.start : Int) = m.name.span.start
  stop : (e.stop : Int) = m.name.span.stop
  text : e.text = (m.after locals).toList

def Mutation.edit (locals : String) (m : Mutation) : Edit :=
  ⟨m.name.span.start.toNat, m.name.span.stop.toNat, (m.after locals).toList⟩

namespace Draft

theorem reroute_cons_eq_ok {locals : String} {d d' : Draft} {m : Mutation} {ms : List Mutation} :
    d.reroute locals (m :: ms) = .ok d' ↔
      ∃ d₁, d.replace m.name.span.start m.name.span.stop (m.after locals).toList = .ok d₁ ∧
        d₁.reroute locals ms = .ok d' :=
  bind_eq_ok

theorem reroute_eq_ok {locals : String} {d d' : Draft} {ms : List Mutation}
    (h : d.reroute locals ms = .ok d') :
    ∃ es, List.Forall₂ (Mutation.Makes locals) ms es ∧ d' = { d with edits := d.edits ++ es } := by
  induction ms generalizing d with
  | nil =>
      cases h
      exact ⟨[], .nil, by simp⟩
  | cons m ms ih =>
      obtain ⟨d₁, hr, h⟩ := reroute_cons_eq_ok.mp h
      obtain ⟨a, b, ha, hb, _, _, _, rfl⟩ := replace_eq_ok.mp hr
      obtain ⟨es, hes, rfl⟩ := ih h
      exact ⟨⟨a, b, (m.after locals).toList⟩ :: es, .cons ⟨ha.symm, hb.symm, rfl⟩ hes, by simp⟩

theorem Sound.reroute {locals : String} {d d' : Draft} {ms : List Mutation} (hd : d.Sound)
    (h : d.reroute locals ms = .ok d') : d'.Sound := by
  induction ms generalizing d with
  | nil =>
      cases h
      exact hd
  | cons m ms ih =>
      obtain ⟨d₁, hr, h⟩ := reroute_cons_eq_ok.mp h
      exact ih (hd.replace hr) h

end Draft

theorem Expr.reroute_eq_ok {rules : Rules} {names : List String} {e : Expr} {d d' : Draft}
    {found : List Mutation} (h : e.reroute rules names d = .ok (d', found)) :
    (∃ s, (e.walk rules.legacy names).outcome = .ok s) ∧ found = (e.walk rules.legacy names).found ∧
      d.reroute rules.locals found = .ok d' := by
  unfold Expr.reroute at h
  cases hr : d.reroute rules.locals (e.walk rules.legacy names).found with
  | error c => simp [hr] at h
  | ok d₁ =>
      cases ho : (e.walk rules.legacy names).outcome with
      | error r => simp [hr, ho] at h
      | ok s =>
          simp only [hr, ho, Except.ok.injEq, Prod.mk.injEq] at h
          obtain ⟨rfl, rfl⟩ := h
          exact ⟨⟨s, rfl⟩, rfl, hr⟩

end ScriptSplit
