import Mathlib.Data.List.Nodup
import ScriptSplit.Proofs.Run

/-!
A trace read back from its events alone: which phases were opened, in which of them each other event
happened, and which are still open. What is read back follows a stack of names.
-/

namespace ScriptSplit

def Happening.phase? : Happening → Option String
  | .phaseStart name _ => some name
  | _ => none

namespace Trace

def phaseAt? (es : List Event) (i : Nat) : Option String := es[i]?.bind fun e => e.what.phase?

/-- The phase that an event belongs to; the phase that it ends, if it ends one. -/
def parentPhase? (es : List Event) (e : Event) : Option String := e.parent.bind (phaseAt? es)

inductive Bracket where
  | opens (inside : Option String) (name : String)
  | closes (name : String)
  deriving DecidableEq, Repr

def bracket (what : Happening) (parent : Option String) : Option Bracket :=
  match what with
  | .phaseStart name _ => some (.opens parent name)
  | .phaseEnd => parent.map .closes
  | _ => none

def brackets (es : List Event) : List Bracket :=
  es.filterMap fun e => bracket e.what (parentPhase? es e)

/-- Whatever happened but for the opening and the end of phases, with the phase it happened in. -/
def placed (es : List Event) : List (Happening × Option String) :=
  (es.filter (!·.what.isMark)).map fun e => (e.what, parentPhase? es e)

def unended (es : List Event) : List Nat :=
  (List.range es.length).filter fun i => (phaseAt? es i).isSome && !es.contains ⟨.phaseEnd, some i⟩

def openPhases (es : List Event) : List String := (unended es).filterMap (phaseAt? es)

def Grounded (es : List Event) : Prop := ∀ e ∈ es, ∀ i, e.parent = some i → i < es.length

section

variable {es : List Event} {e f : Event} {i : Nat}

theorem phaseAt?_of_lt (h : i < es.length) : phaseAt? (es ++ [e]) i = phaseAt? es i := by
  rw [phaseAt?, List.getElem?_append_left h, phaseAt?]

theorem phaseAt?_length : phaseAt? (es ++ [e]) es.length = e.what.phase? := by
  simp [phaseAt?]

theorem parentPhase?_append (h : ∀ i, f.parent = some i → i < es.length) :
    parentPhase? (es ++ [e]) f = parentPhase? es f := by
  unfold parentPhase?
  cases hf : f.parent with
  | none => rfl
  | some i => exact phaseAt?_of_lt (h i hf)

theorem brackets_append (hes : Grounded es) (he : ∀ i, e.parent = some i → i < es.length) :
    brackets (es ++ [e]) = brackets es ++ (bracket e.what (parentPhase? es e)).toList := by
  have hold : es.filterMap (fun f => bracket f.what (parentPhase? (es ++ [e]) f)) = brackets es :=
    List.filterMap_congr fun f hf => by rw [parentPhase?_append (hes f hf)]
  unfold brackets at hold ⊢
  rw [List.filterMap_append, hold, ← parentPhase?_append he]
  cases hb : bracket e.what (parentPhase? (es ++ [e]) e) <;> simp [hb]

theorem placed_append (hes : Grounded es) (he : ∀ i, e.parent = some i → i < es.length) :
    placed (es ++ [e]) =
      placed es ++ if e.what.isMark then [] else [(e.what, parentPhase? es e)] := by
  have hold : (es.filter (!·.what.isMark)).map (fun f => (f.what, parentPhase? (es ++ [e]) f)) =
      placed es :=
    List.map_congr_left fun f hf => by rw [parentPhase?_append (hes f (List.mem_of_mem_filter hf))]
  unfold placed at hold ⊢
  rw [List.filter_append, List.map_append, hold]
  cases he' : e.what.isMark <;> simp [he', parentPhase?_append he]

theorem lt_of_mem_unended (h : i ∈ unended es) : i < es.length :=
  List.mem_range.mp (List.mem_of_mem_filter h)

theorem nodup_unended : (unended es).Nodup := List.nodup_range.filter _

theorem not_contains_end (hes : Grounded es) : es.contains ⟨.phaseEnd, some es.length⟩ = false := by
  rw [List.contains_eq_mem, decide_eq_false_iff_not]
  intro hmem
  exact absurd (hes _ hmem es.length rfl) (Nat.lt_irrefl _)

theorem unended_append (hes : Grounded es) (he : ∀ i, e.parent = some i → i < es.length) :
    unended (es ++ [e]) = (unended es).filter (fun i => e ≠ ⟨.phaseEnd, some i⟩) ++
      if e.what.phase?.isSome then [es.length] else [] := by
  have hold : ∀ i ∈ List.range es.length,
      ((phaseAt? (es ++ [e]) i).isSome && !(es ++ [e]).contains ⟨.phaseEnd, some i⟩) =
        (((phaseAt? es i).isSome && !es.contains ⟨.phaseEnd, some i⟩) && decide (e ≠ ⟨.phaseEnd, some i⟩)) := by
    intro i hi
    rw [phaseAt?_of_lt (List.mem_range.mp hi)]
    by_cases hend : e = ⟨.phaseEnd, some i⟩
    · simp [hend]
    · simp [hend, Ne.symm hend]
  -- the new event itself is ended neither by an earlier event nor by itself
  have hnew : (es ++ [e]).contains ⟨.phaseEnd, some es.length⟩ = false := by
    have hself : e ≠ ⟨.phaseEnd, some es.length⟩ := by
      rintro rfl
      exact absurd (he es.length rfl) (Nat.lt_irrefl _)
    simpa [hself.symm] using not_contains_end hes
  unfold unended
  rw [List.length_append, List.length_singleton, List.range_succ, List.filter_append,
    List.filter_congr hold, ← List.filter_filter]
  congr 1
  · rw [List.filter_filter, List.filter_filter]
    exact List.filter_congr fun i _ => Bool.and_comm _ _
  · simp only [List.filter_singleton, phaseAt?_length, hnew]
    cases e.what.phase? <;> simp

end

structure Tracks (t : Trace) : Prop where
  unended : unended t.events = t.pending.reverse
  grounded : Grounded t.events

theorem tracks_empty : empty.Tracks := ⟨rfl, fun _ he => nomatch he⟩

namespace Tracks

variable {t : Trace} {what : Happening}

theorem lt_of_mem (h : t.Tracks) {i : Nat} (hi : i ∈ t.pending) : i < t.events.length :=
  lt_of_mem_unended (h.unended ▸ List.mem_reverse.mpr hi)

theorem exists_phase (h : t.Tracks) {i : Nat} (hi : i ∈ t.pending) :
    ∃ name, phaseAt? t.events i = some name := by
  have hopen : i ∈ Trace.unended t.events := h.unended ▸ List.mem_reverse.mpr hi
  exact Option.isSome_iff_exists.mp (Bool.and_eq_true_iff.mp (List.mem_filter.mp hopen).2).1

theorem head_lt (h : t.Tracks) (what : Happening) :
    ∀ i, (Event.mk what t.pending.head?).parent = some i → i < t.events.length :=
  fun _ hi => h.lt_of_mem (List.mem_of_mem_head? hi)

theorem grounded_log (h : t.Tracks) (what : Happening) : Grounded (t.log what).events := by
  intro e he i hi
  have hlen : (t.log what).events.length = t.events.length + 1 := by simp [log]
  rw [hlen]
  rcases List.mem_append.mp he with he | he
  · exact Nat.lt_succ_of_lt (h.grounded e he i hi)
  · obtain rfl := List.mem_singleton.mp he
    exact Nat.lt_succ_of_lt (h.head_lt what i hi)

theorem startPhase (h : t.Tracks) (name detail : String) : (t.startPhase name detail).Tracks := by
  refine ⟨?_, h.grounded_log _⟩
  have happend := unended_append h.grounded (h.head_lt (.phaseStart name detail))
  rw [h.unended] at happend
  refine happend.trans ?_
  simp [Happening.phase?, Trace.startPhase]

theorem finding (h : t.Tracks) (hmark : what.isMark = false) : (t.log what).Tracks := by
  refine ⟨?_, h.grounded_log _⟩
  have happend := unended_append h.grounded (h.head_lt what)
  rw [h.unended] at happend
  refine happend.trans ?_
  have hphase : what.phase? = none := by cases what <;> first | rfl | cases hmark
  have hend : what ≠ .phaseEnd := by
    rintro rfl
    cases hmark
  simp [hphase, hend, log]

theorem endPhase (h : t.Tracks) : t.endPhase.Tracks := by
  cases hp : t.pending with
  | nil => simpa [Trace.endPhase, hp] using h
  | cons i rest =>
      have hend : t.endPhase = ⟨(t.log .phaseEnd).events, rest⟩ := by simp [Trace.endPhase, hp]
      rw [hend]
      refine ⟨?_, h.grounded_log _⟩
      have happend := unended_append h.grounded (h.head_lt .phaseEnd)
      have hnodup : (i :: rest).Nodup := by
        have hnodup : (Trace.unended t.events).Nodup := nodup_unended
        rwa [h.unended, hp, List.nodup_reverse] at hnodup
      rw [h.unended] at happend
      refine happend.trans ?_
      have hrest : rest.reverse.filter (fun j => !decide (i = j)) = rest.reverse := by
        refine List.filter_eq_self.mpr fun j hj => ?_
        have hne : i ≠ j := by
          rintro rfl
          exact (List.nodup_cons.mp hnodup).1 (List.mem_reverse.mp hj)
        simpa using hne
      simpa [Happening.phase?, hp, List.filter_append] using hrest

theorem tell (h : t.Tracks) (what : Happening) : (t.tell what).Tracks := by
  cases what with
  | phaseStart name detail => exact h.startPhase name detail
  | phaseEnd => exact h.endPhase
  | bindingFound name writable => exact h.finding rfl
  | mutation form before after offset => exact h.finding rfl

theorem tellAll (h : t.Tracks) (what : List Happening) : (t.tellAll what).Tracks := by
  induction what generalizing t with
  | nil => exact h
  | cons x xs ih => exact ih (h.tell x)

theorem openPhases (h : t.Tracks) :
    openPhases t.events = (t.pending.filterMap (phaseAt? t.events)).reverse := by
  rw [Trace.openPhases, h.unended, List.filterMap_reverse]

end Tracks

/-- What a trace shows: the names of its open phases, the innermost first, how phases opened and
ended, and what happened in them. -/
structure View where
  stack : List String
  brackets : List Bracket
  placed : List (Happening × Option String)

def view (t : Trace) : View :=
  ⟨(openPhases t.events).reverse, brackets t.events, placed t.events⟩

namespace View

def tell (v : View) : Happening → View
  | .phaseStart name _ => ⟨name :: v.stack, v.brackets ++ [.opens v.stack.head? name], v.placed⟩
  | .phaseEnd =>
      ⟨v.stack.tail, v.brackets ++ (v.stack.head?.map .closes).toList, v.placed⟩
  | .bindingFound name writable =>
      { v with placed := v.placed ++ [(.bindingFound name writable, v.stack.head?)] }
  | .mutation form before after offset =>
      { v with placed := v.placed ++ [(.mutation form before after offset, v.stack.head?)] }

def tellAll (v : View) (what : List Happening) : View := what.foldl tell v

@[simp] theorem tellAll_nil (v : View) : v.tellAll [] = v := rfl

@[simp] theorem tellAll_cons (v : View) (x : Happening) (xs : List Happening) :
    v.tellAll (x :: xs) = (v.tell x).tellAll xs := rfl

@[simp] theorem tellAll_append (v : View) (xs ys : List Happening) :
    v.tellAll (xs ++ ys) = (v.tellAll xs).tellAll ys :=
  List.foldl_append

@[simp] theorem tell_phaseStart (v : View) (name detail : String) : v.tell (.phaseStart name detail) =
    ⟨name :: v.stack, v.brackets ++ [.opens v.stack.head? name], v.placed⟩ := rfl

@[simp] theorem tell_phaseEnd (v : View) : v.tell .phaseEnd =
    ⟨v.stack.tail, v.brackets ++ (v.stack.head?.map .closes).toList, v.placed⟩ := rfl

theorem tellAll_findings (v : View) {what : List Happening} (h : ∀ x ∈ what, x.isMark = false) :
    v.tellAll what =
      ⟨v.stack, v.brackets, v.placed ++ what.map fun x => (x, v.stack.head?)⟩ := by
  induction what generalizing v with
  | nil => simp
  | cons x xs ih =>
      obtain ⟨hx, hxs⟩ := List.forall_mem_cons.mp h
      have hstep : v.tell x = ⟨v.stack, v.brackets, v.placed ++ [(x, v.stack.head?)]⟩ := by
        cases x <;> first | rfl | cases hx
      rw [tellAll_cons, ih _ hxs, hstep]
      simp

end View

namespace Tracks

variable {t : Trace}

theorem stack (h : t.Tracks) : t.view.stack = t.pending.filterMap (phaseAt? t.events) := by
  rw [view, h.openPhases, List.reverse_reverse]

theorem stack_head (h : t.Tracks) (what : Happening) :
    t.view.stack.head? = parentPhase? t.events ⟨what, t.pending.head?⟩ := by
  rw [h.stack]
  cases hp : t.pending with
  | nil => rfl
  | cons i rest =>
      obtain ⟨name, hname⟩ := h.exists_phase (i := i) (by simp [hp])
      simp [parentPhase?, hname]

theorem view_log (h : t.Tracks) (what : Happening) (is : List Nat)
    (h' : Tracks ⟨(t.log what).events, is⟩) : view ⟨(t.log what).events, is⟩ =
      ⟨is.filterMap (phaseAt? (t.log what).events),
        t.view.brackets ++ (bracket what t.view.stack.head?).toList,
        t.view.placed ++ if what.isMark then [] else [(what, t.view.stack.head?)]⟩ := by
  have hstack := h'.stack
  have hbrackets := brackets_append h.grounded (h.head_lt what)
  have hplaced := placed_append h.grounded (h.head_lt what)
  rw [← h.stack_head what] at hbrackets hplaced
  have hview : ∀ v : View, v = ⟨v.stack, v.brackets, v.placed⟩ := fun _ => rfl
  rw [hview (view ⟨(t.log what).events, is⟩), hstack]
  exact congrArg₂ (View.mk _) hbrackets hplaced

theorem filterMap_log (h : t.Tracks) (what : Happening) {is : List Nat} (his : ∀ i ∈ is, i ∈ t.pending) :
    is.filterMap (phaseAt? (t.log what).events) = is.filterMap (phaseAt? t.events) :=
  List.filterMap_congr fun i hi => phaseAt?_of_lt (h.lt_of_mem (his i hi))

theorem view_finding (h : t.Tracks) {what : Happening} (hmark : what.isMark = false) :
    (t.log what).view =
      { t.view with placed := t.view.placed ++ [(what, t.view.stack.head?)] } := by
  have hbracket : bracket what t.view.stack.head? = none := by
    cases what <;> first | rfl | cases hmark
  have hview := h.view_log what t.pending (h.finding hmark)
  rw [h.filterMap_log what fun _ hi => hi, ← h.stack, hbracket, hmark] at hview
  refine hview.trans ?_
  simp

theorem view_tell (h : t.Tracks) (what : Happening) : (t.tell what).view = t.view.tell what := by
  cases what with
  | phaseStart name detail =>
      have hnew : phaseAt? (t.log (.phaseStart name detail)).events t.events.length = some name :=
        phaseAt?_length
      have hview := h.view_log _ (t.events.length :: t.pending) (h.startPhase name detail)
      rw [List.filterMap_cons, hnew, h.filterMap_log _ fun _ hi => hi, ← h.stack] at hview
      refine hview.trans ?_
      simp [bracket, View.tell]
  | phaseEnd =>
      have hstack := h.stack
      cases hp : t.pending with
      | nil =>
          rw [hp] at hstack
          have hsame : t.tell .phaseEnd = t := by simp [Trace.tell, Trace.endPhase, hp]
          have hempty : t.view.stack = [] := hstack
          have hview : ∀ v : View, v.stack = [] → v.tell .phaseEnd = v := by
            rintro ⟨_, _, _⟩ rfl
            simp [View.tell]
          rw [hsame, hview _ hempty]
      | cons i rest =>
          have hend : t.tell .phaseEnd = ⟨(t.log .phaseEnd).events, rest⟩ := by
            simp [Trace.tell, Trace.endPhase, hp]
          have hview := h.view_log .phaseEnd rest (hend ▸ h.tell .phaseEnd)
          rw [h.filterMap_log _ fun j hj => hp ▸ List.mem_cons_of_mem i hj] at hview
          obtain ⟨name, hname⟩ := h.exists_phase (i := i) (by simp [hp])
          rw [hend, hview, View.tell, hstack, hp, List.filterMap_cons, hname]
          simp [bracket]
  | bindingFound name writable => exact h.view_finding rfl
  | mutation form before after offset => exact h.view_finding rfl

theorem view_tellAll (h : t.Tracks) (what : List Happening) :
    (t.tellAll what).view = t.view.tellAll what := by
  induction what generalizing t with
  | nil => rfl
  | cons x xs ih =>
      change ((t.tell x).tellAll xs).view = (t.view.tell x).tellAll xs
      rw [ih (h.tell x), h.view_tell]

end Tracks

theorem view_empty_tellAll (what : List Happening) :
    (empty.tellAll what).view = (View.mk [] [] []).tellAll what :=
  tracks_empty.view_tellAll what

end Trace

end ScriptSplit
