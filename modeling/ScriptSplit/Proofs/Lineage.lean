import Mathlib.Data.Set.Card
import ScriptSplit.Scope

/-!
What a scope of a family holds after any history of forks and shadowings, told without running it: a
name is lost to a scope if it was hidden in the scope itself, or in one that it comes from while the
two were still one.
-/

namespace ScriptSplit

namespace Scope

/-- A scope has, lists in order and counts exactly the names of a kind. -/
structure Lists (s : Scope) (kind : Set String) : Prop where
  has : ∀ x, s.has x = true ↔ x ∈ kind
  mem : ∀ x, x ∈ s.names ↔ x ∈ kind
  sorted : s.names.Pairwise (· < ·)
  size : s.size = kind.ncard

theorem mem_names {s : Scope} {x : String} : x ∈ s.names ↔ s.has x = true := by
  simp [has]

theorem sorted_insert (x : String) {ys : List String} (h : ys.Pairwise (· < ·)) :
    (insert x ys).Pairwise (· < ·) := by
  induction ys with
  | nil => exact List.pairwise_singleton _ _
  | cons y ys ih =>
      obtain ⟨hy, hys⟩ := List.pairwise_cons.mp h
      simp only [insert]
      split
      · rename_i hxy
        refine List.pairwise_cons.mpr ⟨fun z hz => ?_, h⟩
        rcases List.mem_cons.mp hz with rfl | hz
        · exact hxy
        · exact String.lt_trans hxy (hy z hz)
      · rename_i hxy
        split
        · exact h
        · rename_i hne
          have hyx : y < x := by
            by_contra hle
            exact hne (String.le_antisymm (String.not_lt.mp hle) (String.not_lt.mp hxy))
          refine List.pairwise_cons.mpr ⟨fun z hz => ?_, ih hys⟩
          rcases mem_insert.mp hz with rfl | hz
          · exact hyx
          · exact hy z hz

theorem sorted_ofNames (names : List String) : (ofNames names).names.Pairwise (· < ·) := by
  unfold ofNames
  induction names with
  | nil => exact .nil
  | cons x xs ih => exact sorted_insert x ih

theorem sorted_shadow {s : Scope} (h : s.names.Pairwise (· < ·)) (x : String) :
    (s.shadow x).names.Pairwise (· < ·) :=
  h.filter _

theorem lists_of_sorted {s : Scope} {kind : Set String} (hsorted : s.names.Pairwise (· < ·))
    (hhas : ∀ x, s.has x = true ↔ x ∈ kind) : s.Lists kind := by
  have hmem : ∀ x, x ∈ s.names ↔ x ∈ kind := fun x => mem_names.trans (hhas x)
  have hne : ∀ {x y : String}, x < y → x ≠ y := fun hlt heq => String.lt_irrefl _ (heq ▸ hlt)
  have hnodup : s.names.Nodup := hsorted.imp hne
  have hkind : kind = ↑s.names.toFinset := by
    ext x
    simp [hmem]
  refine ⟨hhas, hmem, hsorted, ?_⟩
  rw [hkind, Set.ncard_coe_finset, List.toFinset_card_of_nodup hnodup, size]

end Scope

namespace Family

inductive Act where
  | fork (i : Nat)
  | shadow (i : Nat) (x : String)
  deriving DecidableEq, Repr

def Act.on : Act → Nat
  | .fork i => i
  | .shadow i _ => i

def Act.isFork : Act → Bool
  | .fork _ => true
  | .shadow .. => false

def act (f : Family) : Act → Family
  | .fork i => f.fork i
  | .shadow i x => f.shadow i x

def after (names : List String) (acts : List Act) : Family := acts.foldl act (ofNames names)

def count (acts : List Act) : Nat := 1 + acts.countP Act.isFork

def Sound (acts : List Act) : Prop :=
  ∀ (k : Nat) (_ : k < acts.length), acts[k].on < count (acts.take k)

instance (acts : List Act) : Decidable (Sound acts) :=
  inferInstanceAs (Decidable (∀ (k : Nat) (_ : k < acts.length), acts[k].on < count (acts.take k)))

/-- Act `k` takes scope `i` from scope `p`. -/
structure Takes (acts : List Act) (k p i : Nat) : Prop where
  fork : acts[k]? = some (.fork p)
  number : i = count (acts.take k)

/-- Scope `i` after `m` acts goes back to scope `a` after `n` acts: it is that scope, or was taken
from one that goes back to it. -/
inductive GoesBack (acts : List Act) : Nat → Nat → Nat → Nat → Prop where
  | self {i m : Nat} : GoesBack acts i m i m
  | parent {i m k p a n : Nat} (earlier : k < m) (takes : Takes acts k p i)
      (line : GoesBack acts p k a n) : GoesBack acts i m a n

/-- Within the first `m` acts a name was hidden in a scope, or in one that it goes back to before the
fork that parts them. -/
def Hidden (acts : List Act) (m i : Nat) (x : String) : Prop :=
  ∃ a n, GoesBack acts i m a n ∧ ∃ k < n, acts[k]? = some (.shadow a x)

section

variable {acts : List Act} {a : Act} {m k p i n : Nat} {x : String}

theorem count_take_le (acts : List Act) (k : Nat) : count (acts.take k) ≤ count acts :=
  Nat.add_le_add_left ((List.take_sublist k acts).countP_le) 1

theorem count_append (acts : List Act) (a : Act) :
    count (acts ++ [a]) = count acts + if a.isFork then 1 else 0 := by
  simp [count, List.countP_append, List.countP_cons, Nat.add_assoc]

theorem hidden_iff : Hidden acts m i x ↔
    (∃ k < m, acts[k]? = some (.shadow i x)) ∨
      ∃ k < m, ∃ p, Takes acts k p i ∧ Hidden acts k p x := by
  constructor
  · rintro ⟨a, n, hline, hshadow⟩
    cases hline with
    | self => exact .inl hshadow
    | parent hk htakes hline => exact .inr ⟨_, hk, _, htakes, a, n, hline, hshadow⟩
  · rintro (hshadow | ⟨k, hk, p, htakes, a, n, hline, hshadow⟩)
    · exact ⟨i, m, .self, hshadow⟩
    · exact ⟨a, n, .parent hk htakes hline, hshadow⟩

theorem takes_append (hk : k < acts.length) : Takes (acts ++ [a]) k p i ↔ Takes acts k p i := by
  have hget : (acts ++ [a])[k]? = acts[k]? := List.getElem?_append_left hk
  have htake : (acts ++ [a]).take k = acts.take k := List.take_append_of_le_length hk.le
  constructor
  · rintro ⟨hfork, hnumber⟩
    exact ⟨hget ▸ hfork, htake ▸ hnumber⟩
  · rintro ⟨hfork, hnumber⟩
    exact ⟨hget.trans hfork, htake.symm ▸ hnumber⟩

theorem hidden_append (hm : m ≤ acts.length) : Hidden (acts ++ [a]) m i x ↔ Hidden acts m i x := by
  induction m using Nat.strong_induction_on generalizing i with
  | _ m ih =>
      rw [hidden_iff, hidden_iff]
      refine or_congr (exists_congr fun k => and_congr_right fun hk => ?_)
        (exists_congr fun k => and_congr_right fun hk => exists_congr fun p => ?_)
      · rw [List.getElem?_append_left (by omega)]
      · rw [takes_append (by omega), ih k hk (by omega)]

theorem hidden_concat : Hidden (acts ++ [a]) (acts.length + 1) i x ↔
    Hidden acts acts.length i x ∨ a = .shadow i x ∨
      ∃ p, a = .fork p ∧ i = count acts ∧ Hidden acts acts.length p x := by
  have hlast : (acts ++ [a])[acts.length]? = some a := by simp
  have htake : (acts ++ [a]).take acts.length = acts := List.take_left
  rw [hidden_iff, hidden_iff (m := acts.length) (i := i)]
  constructor
  · rintro (⟨k, hk, hshadow⟩ | ⟨k, hk, p, htakes, hhidden⟩)
    · rcases Nat.lt_succ_iff_lt_or_eq.mp hk with hk | rfl
      · exact .inl (.inl ⟨k, hk, by rwa [List.getElem?_append_left hk] at hshadow⟩)
      · exact .inr (.inl (Option.some.inj (hlast.symm.trans hshadow)))
    · rcases Nat.lt_succ_iff_lt_or_eq.mp hk with hk | rfl
      · exact .inl (.inr ⟨k, hk, p, (takes_append hk).mp htakes, (hidden_append hk.le).mp hhidden⟩)
      · refine .inr (.inr ⟨p, Option.some.inj (hlast.symm.trans htakes.fork), ?_, ?_⟩)
        · rw [htakes.number, htake]
        · exact (hidden_append le_rfl).mp hhidden
  · rintro ((⟨k, hk, hshadow⟩ | ⟨k, hk, p, htakes, hhidden⟩) | rfl | ⟨p, rfl, rfl, hhidden⟩)
    · exact .inl ⟨k, by omega, by rwa [List.getElem?_append_left hk]⟩
    · exact .inr ⟨k, by omega, p, (takes_append hk).mpr htakes, (hidden_append hk.le).mpr hhidden⟩
    · exact .inl ⟨acts.length, by omega, hlast⟩
    · exact .inr ⟨acts.length, by omega, p, ⟨hlast, by rw [htake]⟩, (hidden_append le_rfl).mpr hhidden⟩

namespace Sound

theorem init (h : Sound (acts ++ [a])) : Sound acts := by
  intro k hk
  have hlt := h k (by simp; omega)
  rwa [List.getElem_append_left hk, List.take_append_of_le_length hk.le] at hlt

theorem last (h : Sound (acts ++ [a])) : a.on < count acts := by
  have hlt := h acts.length (by simp)
  rwa [List.getElem_concat_length rfl, List.take_left] at hlt

theorem not_hidden (h : Sound acts) (hi : count acts ≤ i) : ¬Hidden acts acts.length i x := by
  rw [hidden_iff]
  rintro (⟨k, hk, hshadow⟩ | ⟨k, hk, p, htakes, _⟩)
  · have hlt := h k hk
    rw [(List.getElem?_eq_some_iff.mp hshadow).2, Act.on] at hlt
    exact absurd (count_take_le acts k) (by omega)
  · -- the fork that takes it is counted
    have hstep : count (acts.take (k + 1)) = count (acts.take k) + 1 := by
      rw [List.take_add_one, htakes.fork]
      exact count_append _ _
    have hnumber := htakes.number
    have hle := count_take_le acts (k + 1)
    omega

end Sound

end

section

variable (names : List String) {acts : List Act}

theorem after_append (acts : List Act) (a : Act) : after names (acts ++ [a]) = (after names acts).act a := by
  simp [after]

theorem length_after (h : Sound acts) : (after names acts).members.length = count acts := by
  induction acts using List.reverseRecOn with
  | nil => rfl
  | append_singleton acts a ih =>
      have hlen := ih h.init
      rw [after_append, count_append, ← hlen]
      cases a with
      | fork p =>
          have hp : p < (after names acts).members.length := hlen ▸ h.last
          simp [act, fork, Act.isFork, List.getElem?_eq_getElem hp]
      | shadow j y => simp [act, shadow, Act.isFork]

theorem has_after (h : Sound acts) {i : Nat} {s : Scope} (hs : (after names acts).members[i]? = some s) :
    s.names.Pairwise (· < ·) ∧ ∀ x, s.has x = true ↔ x ∈ names ∧ ¬Hidden acts acts.length i x := by
  induction acts using List.reverseRecOn generalizing i s with
  | nil =>
      obtain ⟨rfl, rfl⟩ : i = 0 ∧ Scope.ofNames names = s := by
        simpa [after, ofNames, List.getElem?_singleton] using hs
      refine ⟨Scope.sorted_ofNames names, fun x => ?_⟩
      have hnone : ¬Hidden [] 0 0 x := by
        rw [hidden_iff]
        simp
      simp [hnone]
  | append_singleton acts a ih =>
      have hlen := length_after names h.init
      rw [after_append] at hs
      cases a with
      | fork p =>
          have hp : p < (after names acts).members.length := hlen ▸ h.last
          rw [act, fork, List.getElem?_eq_getElem hp] at hs
          rcases Nat.lt_or_ge i (after names acts).members.length with hi | hi
          · rw [List.getElem?_append_left hi] at hs
            obtain ⟨hsorted, hhas⟩ := ih h.init hs
            refine ⟨hsorted, fun x => ?_⟩
            rw [hhas, List.length_append, List.length_singleton, hidden_concat]
            have hne : i ≠ count acts := by omega
            simp [hne]
          · obtain ⟨rfl, rfl⟩ : i = (after names acts).members.length ∧ (after names acts).members[p] = s := by
              rw [List.getElem?_append_right hi] at hs
              simp only [Option.toList_some, List.getElem?_singleton] at hs
              split at hs
              · exact ⟨by omega, Option.some.inj hs⟩
              · cases hs
            obtain ⟨hsorted, hhas⟩ := ih h.init (List.getElem?_eq_getElem hp)
            refine ⟨hsorted, fun x => ?_⟩
            have hnew : ¬Hidden acts acts.length (count acts) x := h.init.not_hidden le_rfl
            rw [hhas, List.length_append, List.length_singleton, hidden_concat, hlen]
            simp [hnew]
      | shadow j y =>
          rw [act, shadow, List.getElem?_modify] at hs
          obtain ⟨s₀, hs₀, rfl⟩ := Option.map_eq_some_iff.mp hs
          obtain ⟨hsorted, hhas⟩ := ih h.init hs₀
          by_cases hji : j = i
          · subst hji
            refine ⟨by simpa using Scope.sorted_shadow hsorted y, fun x => ?_⟩
            rw [List.length_append, List.length_singleton, hidden_concat]
            simp [hhas, and_assoc, @eq_comm _ y x]
          · refine ⟨by simpa [hji] using hsorted, fun x => ?_⟩
            rw [List.length_append, List.length_singleton, hidden_concat]
            simp [hhas, hji]

/-- After any history, every scope of the family lists exactly the names at the beginning that were
hidden neither in it nor, before the fork that parted them, in a scope that it comes from. -/
theorem lists_after (h : Sound acts) {i : Nat} (hi : i < count acts) :
    ∃ s, (after names acts).members[i]? = some s ∧
      s.Lists {x | x ∈ names ∧ ∀ a n, GoesBack acts i acts.length a n →
        ∀ k < n, acts[k]? ≠ some (.shadow a x)} := by
  have hlen : i < (after names acts).members.length := length_after names h ▸ hi
  have hs := List.getElem?_eq_getElem hlen
  obtain ⟨hsorted, hhas⟩ := has_after names h hs
  refine ⟨_, hs, Scope.lists_of_sorted hsorted fun x => ?_⟩
  rw [hhas]
  simp [Hidden]

end

/-- Scope 1 is taken before "a" is hidden in scope 0, scope 2 from scope 1 before "b" is hidden
there, and scope 3 from scope 0 afterwards. -/
def forkedActs : List Act :=
  [.fork 0, .shadow 0 "a", .fork 1, .shadow 1 "b", .fork 0, .shadow 2 "c"]

theorem lists_after_forkedActs : Sound forkedActs ∧ 2 < count forkedActs ∧
    ∃ s, (after ["c", "b", "a", "c"] forkedActs).members[2]? = some s ∧
      s.Lists {x | x ∈ ["c", "b", "a", "c"] ∧ ∀ a n, GoesBack forkedActs 2 forkedActs.length a n →
        ∀ k < n, forkedActs[k]? ≠ some (.shadow a x)} :=
  ⟨by decide, by decide, lists_after ["c", "b", "a", "c"] (by decide) (by decide)⟩

example : (after ["c", "b", "a", "c"] forkedActs).members.map Scope.names =
    [["b", "c"], ["a", "c"], ["a", "b"], ["b", "c"]] := by
  decide

end Family

end ScriptSplit
