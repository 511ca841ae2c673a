import Mathlib.Data.List.Pairwise
import ScriptSplit.Proofs.Encoding
import ScriptSplit.Tree.Lift

namespace ScriptSplit

namespace Span

structure Inside (a b : Span) : Prop where
  start : b.start ≤ a.start
  order : a.start ≤ a.stop
  stop : a.stop ≤ b.stop

theorem Inside.trans {a b c : Span} (hab : a.Inside b) (hbc : b.Inside c) : a.Inside c :=
  ⟨Int.le_trans hbc.start hab.start, hab.order, Int.le_trans hab.stop hbc.stop⟩

def Apart (a b : Span) : Prop :=
  a.stop ≤ b.start ∨ b.stop ≤ a.start ∨ a.stop ≤ a.start ∨ b.stop ≤ b.start

theorem Apart.symm {a b : Span} (h : a.Apart b) : b.Apart a := by
  unfold Apart at *
  omega

theorem Apart.inside {a b a' b' : Span} (h : a.Apart b) (ha : a'.Inside a) (hb : b'.Inside b) :
    a'.Apart b' := by
  have := ha.start
  have := ha.stop
  have := hb.start
  have := hb.stop
  unfold Apart at *
  omega

end Span

def Text.span (t : Text) : Span := ⟨0, t.length, 1, 0⟩

namespace Label

structure Inside (a b : Label) : Prop where
  start : b.startByte ≤ a.startByte
  order : a.startByte ≤ a.stopByte
  stop : a.stopByte ≤ b.stopByte

instance (a b : Label) : Decidable (a.Inside b) :=
  decidable_of_iff (b.startByte ≤ a.startByte ∧ a.startByte ≤ a.stopByte ∧ a.stopByte ≤ b.stopByte)
    ⟨fun h => ⟨h.1, h.2.1, h.2.2⟩, fun h => ⟨h.start, h.order, h.stop⟩⟩

def Apart (a b : Label) : Prop :=
  a.stopByte ≤ b.startByte ∨ b.stopByte ≤ a.startByte ∨ a.stopByte ≤ a.startByte ∨
    b.stopByte ≤ b.startByte

instance (a b : Label) : Decidable (a.Apart b) :=
  inferInstanceAs (Decidable (_ ∨ _))

end Label

namespace Source

variable (s : Source)

theorem span_order {l : Label} (h : l.startByte ≤ l.stopByte) : (s.span l).start ≤ (s.span l).stop :=
  s.offsets.char_mono (Int.ofNat_le.mpr h)

theorem span_inside {a b : Label} (h : a.Inside b) : (s.span a).Inside (s.span b) :=
  ⟨s.offsets.char_mono (Int.ofNat_le.mpr h.start), s.span_order h.order,
    s.offsets.char_mono (Int.ofNat_le.mpr h.stop)⟩

theorem span_apart {a b : Label} (h : a.Apart b) : (s.span a).Apart (s.span b) := by
  have hmono : ∀ {i j : Nat}, i ≤ j → s.offsets.char i ≤ s.offsets.char j := fun hij =>
    s.offsets.char_mono (Int.ofNat_le.mpr hij)
  rcases h with h | h | h | h
  · exact .inl (hmono h)
  · exact .inr (.inl (hmono h))
  · exact .inr (.inr (.inl (hmono h)))
  · exact .inr (.inr (.inr (hmono h)))

end Source

mutual

def Tree.subtrees : Tree → List Tree
  | .node l cs => .node l cs :: Tree.allSubtrees cs

def Tree.allSubtrees : List Tree → List Tree
  | [] => []
  | t :: ts => t.subtrees ++ Tree.allSubtrees ts

end

namespace Tree

/-- Every node lies in the text and inside its parent. -/
def Nested (code : Text) (t : Tree) : Prop :=
  ∀ u ∈ t.subtrees, u.label.startByte ≤ u.label.stopByte ∧ u.label.stopByte ≤ code.byteSize ∧
    ∀ c ∈ u.children, c.label.Inside u.label

/-- No two children of a node share a byte. -/
def Apart (t : Tree) : Prop :=
  ∀ u ∈ t.subtrees, u.children.Pairwise fun a b => a.label.Apart b.label

instance (code : Text) (t : Tree) : Decidable (t.Nested code) :=
  inferInstanceAs (Decidable (∀ u ∈ t.subtrees, _))

instance (t : Tree) : Decidable t.Apart :=
  inferInstanceAs (Decidable (∀ u ∈ t.subtrees, _))

theorem part_eq (s : Source) (t : Tree) : t.part s = ⟨t.label, (t.readNode s).read⟩ := by
  cases t
  rfl

theorem mem_allSubtrees {u : Tree} : ∀ {ts : List Tree},
    u ∈ allSubtrees ts ↔ ∃ t ∈ ts, u ∈ t.subtrees
  | [] => by simp [allSubtrees]
  | t :: ts => by simp [allSubtrees, mem_allSubtrees]

theorem mem_subtrees_self (t : Tree) : t ∈ t.subtrees := by
  cases t
  exact List.mem_cons_self

theorem mem_subtrees_child {t c u : Tree} (hc : c ∈ t.children) (hu : u ∈ c.subtrees) :
    u ∈ t.subtrees := by
  cases t
  exact List.mem_cons_of_mem _ (mem_allSubtrees.mpr ⟨c, hc, hu⟩)

theorem mem_parts_readNode {s : Source} {t : Tree} {p : Part} :
    p ∈ (t.readNode s).parts ↔ ∃ c ∈ t.children, c.part s = p := by
  rw [readNode, parts_eq_map, List.mem_map]

mutual

theorem mem_subtrees_trans {u v : Tree} (hv : v ∈ u.subtrees) : ∀ {t : Tree}, u ∈ t.subtrees → v ∈ t.subtrees
  | .node l cs, hu => by
      rcases List.mem_cons.mp hu with rfl | hu
      · exact hv
      · exact List.mem_cons_of_mem _ (mem_allSubtrees_trans hv hu)

theorem mem_allSubtrees_trans {u v : Tree} (hv : v ∈ u.subtrees) :
    ∀ {ts : List Tree}, u ∈ allSubtrees ts → v ∈ allSubtrees ts
  | [], hu => nomatch hu
  | t :: ts, hu => by
      rcases List.mem_append.mp hu with hu | hu
      · exact List.mem_append_left _ (mem_subtrees_trans hv hu)
      · exact List.mem_append_right _ (mem_allSubtrees_trans hv hu)

end

mutual

/-- What every node passes on from its children to itself holds of the whole tree. -/
theorem part_induction {s : Source} {P : Label → Reading → Prop} {Q : Node → Prop}
    (step : ∀ n : Node, n.source = s → Q n → (∀ p ∈ n.parts, P p.label p.reads) → P n.label n.read) :
    ∀ t : Tree, (∀ u ∈ t.subtrees, Q (u.readNode s)) → P (t.part s).label (t.part s).reads
  | .node l cs, h =>
      step (Node.mk s l (Tree.parts s cs)) rfl (h _ (mem_subtrees_self _))
        (parts_induction step cs fun u hu => h u (List.mem_cons_of_mem _ hu))

theorem parts_induction {s : Source} {P : Label → Reading → Prop} {Q : Node → Prop}
    (step : ∀ n : Node, n.source = s → Q n → (∀ p ∈ n.parts, P p.label p.reads) → P n.label n.read) :
    ∀ ts : List Tree, (∀ u ∈ allSubtrees ts, Q (u.readNode s)) →
      ∀ p ∈ Tree.parts s ts, P p.label p.reads
  | [], _, p, hp => nomatch hp
  | t :: ts, h, p, hp => by
      rcases List.mem_cons.mp hp with rfl | hp
      · exact part_induction step t fun u hu => h u (List.mem_append_left _ hu)
      · exact parts_induction step ts (fun u hu => h u (List.mem_append_right _ hu)) p hp

end

end Tree

namespace Node

structure Nests (n : Node) : Prop where
  order : n.span.start ≤ n.span.stop
  inside : ∀ p ∈ n.parts, (n.spanOf p).Inside n.span

theorem Nests.span_inside {n : Node} (h : n.Nests) : n.span.Inside n.span :=
  ⟨Int.le_refl _, h.order, Int.le_refl _⟩

def Spreads (n : Node) : Prop := n.parts.Pairwise fun p q => (n.spanOf p).Apart (n.spanOf q)

end Node

namespace Tree

theorem Nested.nests {code : Text} {t : Tree} (h : t.Nested code) (s : Source) :
    ∀ u ∈ t.subtrees, (u.readNode s).Nests := by
  intro u hu
  obtain ⟨horder, _, hinside⟩ := h u hu
  refine ⟨s.span_order horder, ?_⟩
  intro p hp
  obtain ⟨c, hc, rfl⟩ := mem_parts_readNode.mp hp
  rw [part_eq]
  exact s.span_inside (hinside c hc)

theorem Nested.span_inside {code : Text} {t u : Tree} (h : t.Nested code) (hu : u ∈ t.subtrees) :
    ((Source.ofText code).span u.label).Inside code.span := by
  obtain ⟨horder, hstop, _⟩ := h u hu
  exact ⟨Text.Offsets.char_nonneg _ (Int.natCast_nonneg _), Source.span_order _ horder,
    code.char_offsets_le (Int.ofNat_le.mpr hstop)⟩

theorem Nested.subtree {code : Text} {t u : Tree} (h : t.Nested code) (hu : u ∈ t.subtrees) :
    u.Nested code :=
  fun v hv => h v (mem_subtrees_trans hv hu)

theorem Apart.subtree {t u : Tree} (h : t.Apart) (hu : u ∈ t.subtrees) : u.Apart :=
  fun v hv => h v (mem_subtrees_trans hv hu)

theorem Apart.spreads {t : Tree} (h : t.Apart) (s : Source) :
    ∀ u ∈ t.subtrees, (u.readNode s).Spreads := by
  intro u hu
  unfold Node.Spreads
  rw [readNode, parts_eq_map, List.pairwise_map]
  refine (h u hu).imp ?_
  intro a b hab
  rw [part_eq, part_eq]
  exact s.span_apart hab

end Tree

end ScriptSplit
