import Mathlib.Data.Set.Basic
import ScriptSplit.Proofs.Nesting

/-!
The phases of a trace form a forest. Read off the events alone, every event belongs to the latest
phase that is open before it, a phase is ended at most once, and the stretches of events that two
phases cover lie one inside the other or apart.
-/

namespace ScriptSplit.Trace

def EndsAt (es : List Event) (i j : Nat) : Prop := es[j]? = some ⟨.phaseEnd, some i⟩

structure OpenBefore (es : List Event) (n i : Nat) : Prop where
  earlier : i < n
  opens : (phaseAt? es i).isSome
  unended : ∀ j < n, ¬EndsAt es i j

structure InnermostBefore (es : List Event) (n i : Nat) : Prop where
  isOpen : OpenBefore es n i
  latest : ∀ k, OpenBefore es n k → k ≤ i

/-- The events from the opening of a phase up to its end, or up to the last one if nothing ends it. -/
def extent (es : List Event) (i : Nat) : Set Nat :=
  {n | i ≤ n ∧ n < es.length ∧ ∀ j, EndsAt es i j → n ≤ j}

/-- Events belong to the innermost phase open before them, and only an open phase is ended. -/
structure Seated (es : List Event) : Prop where
  parent : ∀ (n : Nat) (e : Event), es[n]? = some e → ∀ i, e.parent = some i ↔ InnermostBefore es n i
  ends : ∀ (n : Nat) (e : Event), es[n]? = some e → e.what = .phaseEnd → ∃ i, e.parent = some i

structure WellNested (es : List Event) : Prop extends Seated es where
  once : ∀ i j k, EndsAt es i j → EndsAt es i k → j = k
  laminar : ∀ i k, (phaseAt? es i).isSome → (phaseAt? es k).isSome →
    extent es i ⊆ extent es k ∨ extent es k ⊆ extent es i ∨ ∀ n ∈ extent es i, n ∉ extent es k

section

variable {es : List Event} {e : Event} {n i j k : Nat}

theorem phaseAt?_of_endsAt (h : EndsAt es i j) : phaseAt? es j = none := by
  unfold EndsAt at h
  rw [phaseAt?, h]
  rfl

theorem openBefore_append (hn : n ≤ es.length) : OpenBefore (es ++ [e]) n i ↔ OpenBefore es n i := by
  have hends : ∀ j < n, (EndsAt (es ++ [e]) i j ↔ EndsAt es i j) := by
    intro j hj
    rw [EndsAt, List.getElem?_append_left (Nat.lt_of_lt_of_le hj hn), EndsAt]
  constructor
  · rintro ⟨hi, hopens, hunended⟩
    rw [phaseAt?_of_lt (Nat.lt_of_lt_of_le hi hn)] at hopens
    exact ⟨hi, hopens, fun j hj hend => hunended j hj ((hends j hj).mpr hend)⟩
  · rintro ⟨hi, hopens, hunended⟩
    rw [← phaseAt?_of_lt (Nat.lt_of_lt_of_le hi hn)] at hopens
    exact ⟨hi, hopens, fun j hj hend => hunended j hj ((hends j hj).mp hend)⟩

theorem innermostBefore_append (hn : n ≤ es.length) :
    InnermostBefore (es ++ [e]) n i ↔ InnermostBefore es n i := by
  constructor
  · rintro ⟨hopen, hlatest⟩
    exact ⟨(openBefore_append hn).mp hopen, fun k hk => hlatest k ((openBefore_append hn).mpr hk)⟩
  · rintro ⟨hopen, hlatest⟩
    exact ⟨(openBefore_append hn).mpr hopen, fun k hk => hlatest k ((openBefore_append hn).mp hk)⟩

theorem mem_unended_iff : i ∈ unended es ↔ OpenBefore es es.length i := by
  have hcontains : (!es.contains ⟨.phaseEnd, some i⟩) = true ↔ ∀ j < es.length, ¬EndsAt es i j := by
    rw [Bool.not_eq_true', List.contains_eq_mem, decide_eq_false_iff_not, List.mem_iff_getElem?]
    constructor
    · exact fun hnone j _ hend => hnone ⟨j, hend⟩
    · rintro hnone ⟨j, hend⟩
      exact hnone j (List.getElem?_eq_some_iff.mp hend).1 hend
  rw [unended, List.mem_filter, List.mem_range, Bool.and_eq_true, hcontains]
  exact ⟨fun ⟨hi, hopens, hunended⟩ => ⟨hi, hopens, hunended⟩,
    fun ⟨hi, hopens, hunended⟩ => ⟨hi, hopens, hunended⟩⟩

theorem pairwise_unended : (unended es).Pairwise (· < ·) := List.pairwise_lt_range.filter _

end

namespace Tracks

variable {t : Trace}

theorem mem_pending_iff (h : t.Tracks) {i : Nat} : i ∈ t.pending ↔ OpenBefore t.events t.events.length i := by
  rw [← mem_unended_iff, h.unended, List.mem_reverse]

theorem head_iff (h : t.Tracks) (i : Nat) :
    t.pending.head? = some i ↔ InnermostBefore t.events t.events.length i := by
  have hsorted : (t.pending.reverse).Pairwise (· < ·) := h.unended ▸ pairwise_unended
  rw [List.pairwise_reverse] at hsorted
  constructor
  · intro hhead
    obtain ⟨rest, hp⟩ := List.head?_eq_some_iff.mp hhead
    refine ⟨h.mem_pending_iff.mp (hp ▸ List.mem_cons_self), fun k hk => ?_⟩
    have hmem : k ∈ i :: rest := hp ▸ h.mem_pending_iff.mpr hk
    rw [hp, List.pairwise_cons] at hsorted
    rcases List.mem_cons.mp hmem with rfl | hrest
    · exact Nat.le_refl _
    · exact Nat.le_of_lt (hsorted.1 k hrest)
  · rintro ⟨hopen, hlatest⟩
    have hmem := h.mem_pending_iff.mpr hopen
    cases hp : t.pending with
    | nil => simp [hp] at hmem
    | cons k rest =>
        have hle : k ≤ i := hlatest k (h.mem_pending_iff.mp (hp ▸ List.mem_cons_self))
        rw [hp] at hmem hsorted
        rcases List.mem_cons.mp hmem with rfl | hrest
        · rfl
        · exact absurd ((List.pairwise_cons.mp hsorted).1 i hrest) (Nat.not_lt.mpr hle)

end Tracks

namespace Seated

theorem empty : Seated Trace.empty.events := ⟨nofun, nofun⟩

theorem log {t : Trace} (h : Seated t.events) (ht : t.Tracks) {what : Happening}
    (hend : what = .phaseEnd → t.pending ≠ []) : Seated (t.log what).events := by
  have hcases : ∀ n e, (t.log what).events[n]? = some e →
      t.events[n]? = some e ∧ n < t.events.length ∨ n = t.events.length ∧ e = ⟨what, t.pending.head?⟩ := by
    intro n e he
    rw [Trace.log, List.getElem?_append] at he
    split at he
    · rename_i hn
      exact .inl ⟨he, hn⟩
    · rename_i hn
      rw [List.getElem?_singleton] at he
      split at he
      · exact .inr ⟨by omega, (Option.some.inj he).symm⟩
      · cases he
  constructor
  · intro n e he i
    rcases hcases n e he with ⟨hold, hn⟩ | ⟨rfl, rfl⟩
    · rw [h.parent n e hold i]
      exact (innermostBefore_append (Nat.le_of_lt hn)).symm
    · rw [ht.head_iff i]
      exact (innermostBefore_append (Nat.le_refl _)).symm
  · intro n e he hwhat
    rcases hcases n e he with ⟨hold, _⟩ | ⟨_, rfl⟩
    · exact h.ends n e hold hwhat
    · exact ⟨_, List.head?_eq_some_head (hend hwhat)⟩

theorem tell {t : Trace} (h : Seated t.events) (ht : t.Tracks) (what : Happening) :
    Seated (t.tell what).events := by
  cases what with
  | phaseStart name detail => exact h.log ht (by simp)
  | phaseEnd =>
      change Seated t.endPhase.events
      cases hp : t.pending with
      | nil => simpa [endPhase, hp] using h
      | cons i rest =>
          have hlog : Seated (t.log .phaseEnd).events := h.log ht fun _ => by simp [hp]
          simpa [endPhase, hp] using hlog
  | bindingFound name writable => exact h.log ht (by simp)
  | mutation form before after offset => exact h.log ht (by simp)

theorem tellAll {t : Trace} (h : Seated t.events) (ht : t.Tracks) (what : List Happening) :
    Seated (t.tellAll what).events := by
  induction what generalizing t with
  | nil => exact h
  | cons x xs ih => exact ih (h.tell ht x) (ht.tell x)

variable {es : List Event} {i j k : Nat}

theorem innermost_of_endsAt (h : Seated es) (hend : EndsAt es i j) : InnermostBefore es j i :=
  (h.parent j _ hend i).mp rfl

theorem end_unique (h : Seated es) (hj : EndsAt es i j) (hk : EndsAt es i k) : j = k := by
  rcases Nat.lt_trichotomy j k with hlt | heq | hgt
  · exact absurd hj ((h.innermost_of_endsAt hk).isOpen.unended j hlt)
  · exact heq
  · exact absurd hk ((h.innermost_of_endsAt hj).isOpen.unended k hgt)

theorem extent_subset (h : Seated es) (hik : i < k) (hk : (phaseAt? es k).isSome)
    (hopen : ∀ j < k, ¬EndsAt es i j) : extent es k ⊆ extent es i := by
  rintro n ⟨hkn, hn, hbound⟩
  refine ⟨by omega, hn, fun j hj => ?_⟩
  have hinner := h.innermost_of_endsAt hj
  have hjk : k < j := by
    rcases Nat.lt_trichotomy j k with hlt | rfl | hgt
    · exact absurd hj (hopen j hlt)
    · simp [phaseAt?_of_endsAt hj] at hk
    · exact hgt
  by_contra hlt
  -- were `k` still open at the end of `i`, it and not `i` would be the innermost phase there
  have hstill : OpenBefore es j k := by
    refine ⟨hjk, hk, fun m hm hend => ?_⟩
    have := hbound m hend
    omega
  exact absurd (hinner.latest k hstill) (Nat.not_le.mpr hik)

theorem disjoint_extent (hj : EndsAt es i j) (hjk : j < k) : ∀ n ∈ extent es i, n ∉ extent es k := by
  rintro n ⟨_, _, hbound⟩ ⟨hkn, _, _⟩
  have := hbound j hj
  omega

theorem laminar_of_lt (h : Seated es) (hik : i < k) (hk : (phaseAt? es k).isSome) :
    extent es k ⊆ extent es i ∨ ∀ n ∈ extent es i, n ∉ extent es k := by
  by_cases hopen : ∀ j < k, ¬EndsAt es i j
  · exact .inl (h.extent_subset hik hk hopen)
  · push Not at hopen
    obtain ⟨j, hjk, hj⟩ := hopen
    exact .inr (disjoint_extent hj hjk)

theorem wellNested (h : Seated es) : WellNested es where
  toSeated := h
  once _ _ _ := h.end_unique
  laminar i k hi hk := by
    rcases Nat.lt_trichotomy i k with hik | rfl | hki
    · exact .inr (h.laminar_of_lt hik hk)
    · exact .inl subset_rfl
    · rcases h.laminar_of_lt hki hi with hsub | hdisj
      · exact .inl hsub
      · exact .inr (.inr fun n hi hk => hdisj n hk hi)

end Seated

def EndsNothing (es : List Event) (call : Happening) : Prop :=
  call = .phaseEnd ∧ ∀ i, ¬OpenBefore es es.length i

theorem Tracks.events_tell {t : Trace} (h : t.Tracks) (call : Happening) :
    (EndsNothing t.events call → (t.tell call).events = t.events) ∧
      (¬EndsNothing t.events call → ∃ parent, (t.tell call).events = t.events ++ [⟨call, parent⟩]) := by
  cases call with
  | phaseEnd =>
      change (_ → t.endPhase.events = _) ∧ (_ → ∃ parent, t.endPhase.events = _)
      cases hp : t.pending with
      | nil =>
          have hnone : EndsNothing t.events .phaseEnd := by
            refine ⟨rfl, fun i hi => ?_⟩
            have hmem := h.mem_pending_iff.mpr hi
            simp [hp] at hmem
          exact ⟨fun _ => by simp [Trace.endPhase, hp], fun hsome => absurd hnone hsome⟩
      | cons i rest =>
          have hopen := h.mem_pending_iff.mp (hp ▸ List.mem_cons_self)
          refine ⟨fun hnone => absurd hopen (hnone.2 i), fun _ => ⟨some i, ?_⟩⟩
          simp [Trace.endPhase, hp, Trace.log]
  | phaseStart name detail => exact ⟨fun hnone => absurd hnone.1 (by simp), fun _ => ⟨_, rfl⟩⟩
  | bindingFound name writable => exact ⟨fun hnone => absurd hnone.1 (by simp), fun _ => ⟨_, rfl⟩⟩
  | mutation form before after offset => exact ⟨fun hnone => absurd hnone.1 (by simp), fun _ => ⟨_, rfl⟩⟩

/-- Whatever is told to a fresh trace, in any order, its events are well nested; and each call adds
one event, but the end of a phase with none open adds nothing. -/
theorem wellNested_tellAll (calls : List Happening) :
    WellNested (empty.tellAll calls).events ∧
      ∀ call,
        (EndsNothing (empty.tellAll calls).events call →
          (empty.tellAll (calls ++ [call])).events = (empty.tellAll calls).events) ∧
        (¬EndsNothing (empty.tellAll calls).events call →
          ∃ parent, (empty.tellAll (calls ++ [call])).events =
            (empty.tellAll calls).events ++ [⟨call, parent⟩]) := by
  refine ⟨(Seated.empty.tellAll tracks_empty calls).wellNested, fun call => ?_⟩
  rw [tellAll_append]
  exact (tracks_empty.tellAll calls).events_tell call

-- an end before anything is open and an end too many leave no event
example : (empty.tellAll [.phaseEnd, .phaseStart "a" "", .phaseStart "b" "", .phaseEnd,
    .bindingFound "x" true, .phaseEnd, .phaseEnd]).events.map Event.parent =
      [none, some 0, some 1, some 0, some 0] := by
  decide

end ScriptSplit.Trace
