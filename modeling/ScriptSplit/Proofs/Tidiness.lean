import ScriptSplit.Proofs.Assembly.Statement
import ScriptSplit.Proofs.Entry

namespace ScriptSplit

open Phrase (allTidy_iff)

namespace Fragment

/-- What a node of a script is where names are resolved: a pattern may declare names or be assigned
to. -/
def phrases : Fragment → List Phrase
  | .expr e => [.expr e]
  | .member m => [.member m]
  | .pattern p => [.declared p, .assigned p]
  | .entry e => [.declaredEntry e, .assignedEntry e]
  | .block b => [.block b]
  | .stmt s => [.stmt s]
  | .case c => [.case c]
  | .handler h => [.handler h]
  | .enumMember m => [.enumMember m]
  | .declarator d => [.declarator d]
  | .variables v => [.variables v]
  | .loopDeclarator d => [.declared d.target]
  | .loopVariables v => v.declarators.map fun d => .declared d.target
  | .program _ | .name _ | .importName _ => []

attribute [simp] phrases

def AllTidy (x : Fragment) : Prop := ∀ q ∈ x.phrases, q.AllTidy

theorem tidy_of_mem {x : Fragment} (h : x.Tidy) {q : Phrase} (hq : q ∈ x.phrases) : q.Tidy := by
  cases x <;> simp only [phrases, List.mem_cons, List.not_mem_nil, or_false] at hq
  case expr | member => exact hq ▸ h
  case entry => obtain rfl | rfl := hq <;> exact h
  case pattern => obtain rfl | rfl := hq <;> trivial
  case loopVariables =>
    obtain ⟨d, _, rfl⟩ := List.mem_map.mp hq
    trivial
  all_goals first | exact hq.elim | exact hq ▸ trivial

/-- What stands in a piece is found among the children of its node; the header of a loop is there as a
node of its own or in pieces. -/
def Holds (x : Fragment) (c : Phrase) : Prop :=
  (∃ y ∈ x.children, c ∈ y.phrases) ∨
    ∃ h, c = .head h ∧ (h.fragment ∈ x.children ∨ h.loopFragments ⊆ x.children)

theorem holds_constituents : ∀ {x : Fragment} {q : Phrase}, q ∈ x.phrases →
    (∃ y ∈ x.children, q ∈ y.phrases) ∨ ∀ c ∈ q.constituents, x.Holds c
  | .expr e, _, hq => by
      obtain rfl := List.mem_singleton.mp hq
      refine .inr fun c hc => .inl ?_
      cases e
      case arrow _ ps b _ => cases b <;> simp [Body.fragment, Body.phrase] at hc ⊢ <;> grind
      all_goals simp at hc ⊢ <;> grind
  | .member m, _, hq => by
      obtain rfl := List.mem_singleton.mp hq
      refine .inr fun c hc => .inl ?_
      cases m <;> simp at hc ⊢ <;> grind
  | .pattern p, _, hq => by
      refine .inr fun c hc => .inl ?_
      obtain rfl | rfl := List.mem_pair.mp hq <;> cases p <;> simp at hc ⊢ <;> grind
  | .entry e, _, hq => by
      refine .inr fun c hc => .inl ?_
      obtain rfl | rfl := List.mem_pair.mp hq <;> cases e <;> simp at hc ⊢ <;> grind
  | .stmt s, _, hq => by
      obtain rfl := List.mem_singleton.mp hq
      refine .inr fun c hc => ?_
      unfold Holds
      cases s <;> simp at hc ⊢ <;> grind
  | .block b, _, hq | .case b, _, hq | .handler b, _, hq | .enumMember b, _, hq
  | .declarator b, _, hq | .variables b, _, hq => by
      obtain rfl := List.mem_singleton.mp hq
      refine .inr fun c hc => .inl ?_
      cases b
      simp at hc ⊢
      grind
  | .loopDeclarator (.mk _ target _), _, hq =>
      .inl ⟨.pattern target, List.mem_cons_self, List.mem_singleton.mp hq ▸ List.mem_cons_self⟩
  | .loopVariables (.mk _ _ ds), _, hq => by
      obtain ⟨d, hd, rfl⟩ := List.mem_map.mp hq
      exact .inl ⟨.loopDeclarator d, List.mem_map_of_mem hd, List.mem_cons_self⟩
  | .program _, _, hq | .name _, _, hq | .importName _, _, hq => absurd hq List.not_mem_nil

theorem allTidy_head {h : Head} (hh : h.fragment.AllTidy) : (Phrase.head h).AllTidy := by
  refine allTidy_iff.mpr ⟨trivial, ?_⟩
  cases h with
  | declare v => exact List.forall_mem_singleton.mpr (hh (.variables v) List.mem_cons_self)
  | target p =>
      exact List.forall_mem_singleton.mpr (hh (.assigned p) (List.mem_cons_of_mem _ List.mem_cons_self))

theorem allTidy_loopHead {h : Head} (hh : ∀ c ∈ h.loopFragments, c.AllTidy) : (Phrase.head h).AllTidy := by
  cases h with
  | target p => exact allTidy_head (hh (.pattern p) List.mem_cons_self)
  | declare v =>
      obtain ⟨s, kind, ds⟩ := v
      refine allTidy_iff.mpr ⟨trivial, List.forall_mem_singleton.mpr ?_⟩
      refine allTidy_iff.mpr ⟨trivial, List.forall_mem_map.mpr fun d hd => ?_⟩
      have htarget := hh _ List.mem_cons_self (.declared d.target) (List.mem_map_of_mem hd)
      refine allTidy_iff.mpr ⟨trivial, ?_⟩
      obtain ⟨sp, target, init⟩ := d
      refine List.forall_mem_cons.mpr ⟨htarget, List.forall_mem_map.mpr fun e he => ?_⟩
      have hinit : e ∈ (Variables.mk s kind ds).initializers :=
        List.mem_filterMap.mpr ⟨_, hd, Option.mem_toList.mp he⟩
      exact hh (.expr e) (List.mem_cons_of_mem _ (List.mem_map_of_mem hinit)) _ List.mem_cons_self

theorem AllTidy.of_children {x : Fragment} (htidy : x.Tidy) (h : ∀ c ∈ x.children, c.AllTidy) :
    x.AllTidy := by
  intro q hq
  obtain ⟨y, hy, hqy⟩ | hholds := holds_constituents hq
  · exact h y hy q hqy
  refine allTidy_iff.mpr ⟨tidy_of_mem htidy hq, fun c hc => ?_⟩
  obtain ⟨y, hy, hcy⟩ | ⟨k, rfl, hchild | hchildren⟩ := hholds c hc
  · exact h y hy c hcy
  · exact allTidy_head (h _ hchild)
  · exact allTidy_loopHead fun c hc => h c (hchildren hc)

theorem AllTidy.constituent {x y : Fragment} {q : Phrase} (h : x.AllTidy) (hq : q ∈ x.phrases)
    (hy : ∀ c ∈ y.phrases, c ∈ q.constituents) : y.AllTidy :=
  fun c hc => (allTidy_iff.mp (h q hq)).2 c (hy c hc)

end Fragment

namespace Node

variable {n : Node} {xs ys : List Fragment}

theorem Step.allTidy (hstep : n.Step xs ys) (h : ∀ x ∈ xs, x.AllTidy) : ∀ y ∈ ys, y.AllTidy := by
  have hident : ∀ i, (Fragment.expr (.ident i)).AllTidy :=
    fun i => Fragment.AllTidy.of_children trivial (List.forall_mem_nil _)
  cases hstep with
  | form _ _ htidy => exact List.forall_mem_singleton.mpr (.of_children htidy h)
  | stand hchildren _ _ htidy =>
      exact List.forall_mem_singleton.mpr (.of_children htidy (hchildren ▸ h))
  | member i =>
      refine List.forall_mem_singleton.mpr (.of_children ⟨.inr rfl, fun _ => rfl⟩ ?_)
      exact List.forall_mem_cons.mpr ⟨hident i, h⟩
  | entry i =>
      refine List.forall_mem_singleton.mpr (.of_children ?_ (List.forall_mem_cons.mpr ⟨hident i, h⟩))
      rintro _ ⟨⟩
      exact .inl rfl
  | entryDefault i e =>
      refine List.forall_mem_singleton.mpr (.of_children ?_ (List.forall_mem_cons.mpr ⟨hident i, h⟩))
      rintro _ ⟨⟩
      exact .inr ⟨_, _, rfl⟩
  | operands s es =>
      have hsequence := List.forall_mem_singleton.mp h
      refine List.forall_mem_map.mpr fun e he => hsequence.constituent List.mem_cons_self ?_
      exact List.forall_mem_singleton.mpr (List.mem_map_of_mem he)
  | target e =>
      have hpattern := List.forall_mem_singleton.mp h
      refine List.forall_mem_singleton.mpr (hpattern.constituent List.mem_cons_self ?_)
      exact List.forall_mem_singleton.mpr List.mem_cons_self

theorem Makes.allTidy {ls : List Label} (h : n.Makes (fun _ xs => ∀ x ∈ xs, x.AllTidy) ls xs) :
    ∀ x ∈ xs, x.AllTidy := by
  have hword : ∀ {l : Label} {x : Fragment}, n.source.Words l x → x.AllTidy := by
    intro l x hx
    cases hx <;> exact .of_children trivial (List.forall_mem_nil _)
  induction h with
  | nil => exact List.forall_mem_nil _
  | append _ _ hxs hys => exact List.forall_mem_append.mpr ⟨hxs, hys⟩
  | part _ h => exact h
  | word h => exact List.forall_mem_singleton.mpr (hword h)
  | wordOf _ h => exact List.forall_mem_singleton.mpr (hword h)
  | plain _ hchildren _ htidy =>
      exact List.forall_mem_singleton.mpr (.of_children htidy (hchildren ▸ List.forall_mem_nil _))
  | step _ hstep ih => exact hstep.allTidy ih
  | header init _ _ _ h =>
      have htarget := List.forall_mem_singleton.mp h
      exact List.forall_mem_singleton.mpr fun q hq =>
        htarget q (List.mem_singleton.mp hq ▸ List.mem_cons_self)

end Node

theorem Tree.part_tidy (s : Source) (t : Tree) :
    (t.part s).reads.Gives fun xs => ∀ x ∈ xs, x.AllTidy :=
  Tree.part_gives (R := fun _ xs => ∀ x ∈ xs, x.AllTidy) (Q := fun _ => True)
    (fun _ _ _ _ ⟨_, _, h⟩ => h.allTidy) fun _ _ => trivial

theorem Stmt.tidy {code : Text} {t : Tree} {p : Program} {x : Stmt} (hread : readScript code t = .ok p)
    (hx : x ∈ p.body) : (Phrase.stmt x).AllTidy := by
  obtain ⟨u, _, hstatement⟩ := exists_of_readScript hread hx
  exact (Tree.part_tidy _ u).statement x hstatement _ List.mem_cons_self _ List.mem_cons_self

theorem EntryCall.argument_tidy {code : Text} {t : Tree} {p : Program} {entry : String} {k : Nat}
    {c : EntryCall} (hread : readScript code t = .ok p) (hfind : findEntry entry p.body = some (k, c))
    {a : Expr} (ha : a ∈ c.arguments) : (Phrase.expr a).AllTidy := by
  obtain ⟨x, hx, hentry⟩ := findEntry_eq_some hfind
  obtain ⟨callee, optional, rfl⟩ := Stmt.entryCall?_eq_some hentry
  have htidy := Stmt.tidy hread (List.mem_of_getElem? hx)
  intro q hq
  exact htidy q (.inside List.mem_cons_self (.inside (by simpa using .inr ha) hq))

end ScriptSplit
