import Mathlib.Data.List.Find
import ScriptSplit.Proofs.Placement

/-!
Trees without their comments, and nodes as the readings of a tree see them: without the parts that
are comments, and read as a declaration of variables only where they are one.
-/

namespace ScriptSplit

def Label.commentKinds : List String := ["comment", "html_comment", "hash_bang_line"]

theorem Label.isComment_iff (l : Label) : l.isComment = true ↔ l.kind ∈ commentKinds := by
  simp [isComment, commentKinds, or_assoc]

mutual

def Tree.withoutComments : Tree → Tree
  | .node l cs => .node l (Tree.dropComments cs)

def Tree.dropComments : List Tree → List Tree
  | [] => []
  | t :: ts =>
      if t.label.kind ∈ Label.commentKinds then Tree.dropComments ts
      else t.withoutComments :: Tree.dropComments ts

end

/-- No comment stands in a field, and a lexical declaration has its keyword in one. -/
def Tree.Plain (t : Tree) : Prop :=
  ∀ u ∈ t.subtrees, (u.label.kind ∈ Label.commentKinds → u.label.field = "") ∧
    (u.label.kind = "lexical_declaration" → ∃ c ∈ u.children, c.label.field = "kind")

instance (t : Tree) : Decidable t.Plain := inferInstanceAs (Decidable (∀ u ∈ t.subtrees, _))

/-- Only a declaration of variables is ever read as one, so that any other node may as well refuse. -/
def Part.bare (p : Part) : Part :=
  ⟨p.label, { p.reads with
    declaration :=
      if p.label.isVariables then p.reads.declaration else .error (.noChild p.label.kind) }⟩

@[simp] theorem Part.bare_label (p : Part) : p.bare.label = p.label := rfl

namespace Node

def bare (n : Node) : Node :=
  { n with parts := (n.parts.filter fun p => !p.label.isComment).map Part.bare }

structure Plain (n : Node) : Prop where
  comments : ∀ p ∈ n.parts, p.label.isComment = true → p.label.field = ""
  keyword : n.kind = "lexical_declaration" → (n.field? "kind").isSome

variable {n : Node}

@[simp] theorem bare_label : n.bare.label = n.label := rfl

@[simp] theorem bare_kind : n.bare.kind = n.kind := rfl

@[simp] theorem bare_span : n.bare.span = n.span := rfl

@[simp] theorem bare_named : n.bare.named = n.named.map Part.bare := by
  simp only [named, bare, List.filter_map, List.filter_filter]
  congr 2
  funext p
  simp

@[simp] theorem bare_fields (f : String) : n.bare.fields f = (n.fields f).map Part.bare := by
  simp only [fields, bare_named, List.filter_map]
  rfl

theorem any_bare (q : Label → Bool) (hq : ∀ l, q l = true → l.kind ∉ Label.commentKinds) :
    n.bare.parts.any (fun p => q p.label) = n.parts.any fun p => q p.label := by
  simp only [bare, List.any_map, List.any_filter]
  congr 1
  funext p
  have hp := hq p.label
  rw [← p.label.isComment_iff] at hp
  cases hq : q p.label with
  | false => simp [hq]
  | true => simpa [hq] using hp hq

theorem bare_hasToken {token : String} (h : Label.commentKinds.contains token = false) :
    n.bare.hasToken token = n.hasToken token := by
  apply any_bare fun l => !l.named && l.kind == token
  intro l hl
  simp only [Bool.and_eq_true, beq_iff_eq] at hl
  rw [hl.2]
  simpa using h

@[simp] theorem bare_hasTypeToken : n.bare.hasTypeToken = n.hasTypeToken := by
  rw [hasTypeToken, bare_hasToken rfl, bare_hasToken rfl, hasTypeToken]

@[simp] theorem bare_hasOptionalChain : n.bare.hasOptionalChain = n.hasOptionalChain := by
  apply any_bare fun l => l.kind == "optional_chain"
  intro l hl
  rw [beq_iff_eq.mp hl]
  decide

theorem bare_orNoChild (o : Option Part) :
    n.bare.orNoChild (o.map Part.bare) = Part.bare <$> n.orNoChild o := by
  cases o <;> rfl

@[simp] theorem bare_first : n.bare.first = Part.bare <$> n.first := by
  rw [first, bare_named, List.head?_map, bare_orNoChild, first]

@[simp] theorem bare_firstValue : n.bare.firstValue = Part.bare <$> n.firstValue := by
  rw [firstValue, bare_named, List.find?_map, bare_orNoChild, firstValue]
  rfl

theorem mapM_bare {α : Type} (read : Part → Lift α) (hread : ∀ p : Part, read p.bare = read p)
    (ps : List Part) :
    (ps.map Part.bare).mapM read = ps.mapM read := by
  induction ps with
  | nil => rfl
  | cons p ps ih => rw [List.map_cons, List.mapM_cons, List.mapM_cons, hread, ih]

theorem bare_each {α : Type} (read : Reading → Lift α)
    (hread : ∀ p : Part, read p.bare.reads = read p.reads) :
    n.bare.each read = n.each read := by
  rw [each, bare_named, mapM_bare _ hread n.named, each]

namespace Plain

variable (hn : n.Plain)

include hn

theorem field? (f : String) (hf : f.isEmpty = false) :
    n.bare.field? f = (n.field? f).map Part.bare := by
  have hne : f ≠ "" := by
    rintro rfl
    cases hf
  simp only [Node.field?, Node.bare, List.find?_map, List.find?_filter]
  congr 1
  apply List.find?_congr
  intro p hp
  rw [Bool.eq_iff_iff]
  cases hcomment : p.label.isComment with
  | false => simp
  | true => simp [hn.comments p hp hcomment, hne.symm]

theorem field (f : String) (hf : f.isEmpty = false) : n.bare.field f = Part.bare <$> n.field f := by
  unfold Node.field
  rw [hn.field? f hf]
  cases n.field? f <;> rfl

theorem of_bare {m : Node} (hbare : m.bare = n.bare) (hnone : ∀ p ∈ m.parts, p.label.isComment = false) :
    m.Plain := by
  constructor
  · intro p hp hcomment
    rw [hnone p hp] at hcomment
    cases hcomment
  · intro hkind
    have hsome : (m.bare.field? "kind").isSome := by
      rw [hbare, hn.field? "kind" rfl, Option.isSome_map]
      apply hn.keyword
      rw [← hkind, ← bare_kind, ← hbare, bare_kind]
    obtain ⟨p, hp, hfield⟩ := List.find?_isSome.mp hsome
    obtain ⟨q, hq, rfl⟩ := List.mem_map.mp hp
    exact List.find?_isSome.mpr ⟨q, (List.mem_filter.mp hq).1, hfield⟩

section Reads

variable (f : String) {α : Type}

theorem required (read : Reading → Lift α) (hf : f.isEmpty = false)
    (hread : ∀ p : Part, read p.bare.reads = read p.reads) :
    n.bare.required f read = n.required f read := by
  unfold Node.required
  rw [hn.field f hf]
  cases n.field f with
  | error e => rfl
  | ok p => exact hread p

theorem optional (read : Reading → Lift α) (hf : f.isEmpty = false)
    (hread : ∀ p : Part, read p.bare.reads = read p.reads) :
    n.bare.optional f read = n.optional f read := by
  unfold Node.optional
  rw [hn.field? f hf]
  cases n.field? f with
  | none => rfl
  | some p => exact congrArg (some <$> ·) (hread p)

theorem listed (read : Reading → Lift (List α)) (hf : f.isEmpty = false)
    (hread : ∀ p : Part, read p.bare.reads = read p.reads) :
    n.bare.listed f read = n.listed f read := by
  unfold Node.listed
  rw [hn.field? f hf]
  cases n.field? f with
  | none => rfl
  | some p => exact hread p

end Reads

end Plain

end Node

end ScriptSplit
