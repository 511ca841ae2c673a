import Mathlib.Data.List.Nodup
import Mathlib.Data.List.Perm.Subperm
import ScriptSplit.Proofs.Constituent
import ScriptSplit.Proofs.Fragment

/-!
How the pieces of a script are put together when a node is read: each from what the children of the node
were read as, and no child is used twice.
-/

namespace ScriptSplit

section Ensures

variable {α β : Type} {x : Lift α} {P : α → Prop}

def Ensures (x : Lift α) (P : α → Prop) : Prop := ∀ a, x = .ok a → P a

namespace Ensures

theorem ok {a : α} (h : P a) : Ensures (.ok a) P := by
  rintro _ ⟨⟩
  exact h

theorem mono {Q : α → Prop} (h : Ensures x P) (hPQ : ∀ a, P a → Q a) : Ensures x Q :=
  fun a ha => hPQ a (h a ha)

theorem bind {f : α → Lift β} {Q : β → Prop} (h : Ensures x P) (hf : ∀ a, P a → Ensures (f a) Q) :
    Ensures (x >>= f) Q := by
  intro b hb
  obtain ⟨a, ha, hb⟩ := bind_eq_ok.mp hb
  exact hf a (h a ha) b hb

theorem map {f : α → β} {Q : β → Prop} (h : Ensures x P) (hf : ∀ a, P a → Q (f a)) :
    Ensures (f <$> x) Q := by
  intro b hb
  obtain ⟨a, ha, rfl⟩ := map_eq_ok.mp hb
  exact hf a (h a ha)

end Ensures

end Ensures

structure Reading.Gives (Q : List Fragment → Prop) (r : Reading) : Prop where
  statement : Ensures r.statement fun x => Q [.stmt x]
  expression : Ensures r.expression fun e => Q [.expr e]
  pattern : Ensures r.pattern fun p => Q [.pattern p]
  block : Ensures r.block fun b => Q [.block b]
  inner : Ensures r.inner fun e => Q [.expr e]
  innerPattern : Ensures r.innerPattern fun p => Q [.pattern p]
  innerStatement : Ensures r.innerStatement fun x => Q [.stmt x]
  innerIdent : Ensures r.innerIdent fun i => Q [.name i]
  condition : Ensures r.condition fun e => Q [.expr e]
  element : Ensures r.element fun e => Q [.expr e]
  elements : Ensures r.elements fun es => Q (es.map .expr)
  key : Ensures r.key fun k => Q [.expr k.1] ∧ (k.2 = true ∨ k.1.isKey = true)
  parameter : Ensures r.parameter fun o => Q (o.toList.map .pattern)
  parameters : Ensures r.parameters fun ps => Q (ps.map .pattern)
  member : Ensures r.member fun m => Q [.member m]
  entry : Ensures r.entry fun e => Q [.entry e]
  declarator : Ensures r.declarator fun d => Q [.declarator d]
  declaration : Ensures r.declaration fun v => Q [.variables v]
  head : Ensures r.head fun o => Q (o.toList.map Head.fragment)
  case : Ensures r.case fun c => Q [.case c]
  cases : Ensures r.cases fun cs => Q (cs.map .case)
  handler : Ensures r.handler fun h => Q [.handler h]
  bodyBlock : Ensures r.bodyBlock fun b => Q [.block b]
  enumMember : Ensures r.enumMember fun m => Q [.enumMember m]
  enumMembers : Ensures r.enumMembers fun ms => Q (ms.map .enumMember)
  imported : Ensures r.imported fun is => Q (is.map .importName)

theorem Reading.Gives.mono {Q Q' : List Fragment → Prop} {r : Reading} (h : r.Gives Q)
    (hQ : ∀ xs, Q xs → Q' xs) : r.Gives Q' where
  statement := h.statement.mono fun _ => hQ _
  expression := h.expression.mono fun _ => hQ _
  pattern := h.pattern.mono fun _ => hQ _
  block := h.block.mono fun _ => hQ _
  inner := h.inner.mono fun _ => hQ _
  innerPattern := h.innerPattern.mono fun _ => hQ _
  innerStatement := h.innerStatement.mono fun _ => hQ _
  innerIdent := h.innerIdent.mono fun _ => hQ _
  condition := h.condition.mono fun _ => hQ _
  element := h.element.mono fun _ => hQ _
  elements := h.elements.mono fun _ => hQ _
  key := h.key.mono fun _ hk => ⟨hQ _ hk.1, hk.2⟩
  parameter := h.parameter.mono fun _ => hQ _
  parameters := h.parameters.mono fun _ => hQ _
  member := h.member.mono fun _ => hQ _
  entry := h.entry.mono fun _ => hQ _
  declarator := h.declarator.mono fun _ => hQ _
  declaration := h.declaration.mono fun _ => hQ _
  head := h.head.mono fun _ => hQ _
  case := h.case.mono fun _ => hQ _
  cases := h.cases.mono fun _ => hQ _
  handler := h.handler.mono fun _ => hQ _
  bodyBlock := h.bodyBlock.mono fun _ => hQ _
  enumMember := h.enumMember.mono fun _ => hQ _
  enumMembers := h.enumMembers.mono fun _ => hQ _
  imported := h.imported.mono fun _ => hQ _

namespace Fragment

def isWord : Fragment → Bool
  | .name _ => true
  | .expr (.ident _) => true
  | .expr (.privateName _) => true
  | .expr (.literal ..) => true
  | _ => false

theorem Spelled.of_isWord {code : Text} {x : Fragment} (h : x.isWord = false) : x.Spelled code := by
  unfold Spelled
  split
  case h_5 => trivial
  all_goals cases h

/-- The forms in which no names are looked for hold nothing but plain keys. -/
def Tidy : Fragment → Prop
  | .expr e => (Phrase.expr e).Tidy
  | .member m => (Phrase.member m).Tidy
  | .entry e => e.Tidy
  | _ => True

end Fragment

inductive Source.Words (s : Source) (l : Label) : Fragment → Prop
  | name : Words s l (.name (s.ident l))
  | ident : Words s l (.expr (.ident (s.ident l)))
  | privateName : Words s l (.expr (.privateName (s.ident l)))
  | literal : Words s l (.expr (.literal (s.span l) l.kind (String.ofList (s.word l))))

namespace Node

/-- What a node is read as, made of what has been made before. -/
inductive Step (n : Node) : List Fragment → List Fragment → Prop
  | form {x : Fragment} (hspan : x.span = n.span) (hword : x.isWord = false) (htidy : x.Tidy) :
      Step n x.children [x]
  | stand {x c : Fragment} (hchildren : x.children = [c]) (hspan : x.span = c.span)
      (hword : x.isWord = false) (htidy : x.Tidy) : Step n [c] [x]
  -- a shorthand has one identifier both for its key and for its value
  | member (i : Ident) :
      Step n [.expr (.ident i)] [.member (.property n.span (.ident i) (.ident i) false true)]
  | entry (i : Ident) : Step n [.pattern (.expr (.ident i))]
      [.entry (.property n.span (.ident i) (.expr (.ident i)) false true)]
  | entryDefault (i : Ident) (e : Expr) : Step n [.pattern (.default n.span (.expr (.ident i)) e)]
      [.entry (.property n.span (.ident i) (.default n.span (.expr (.ident i)) e) false true)]
  | operands (s : Span) (es : List Expr) : Step n [.expr (.sequence s es)] (es.map .expr)
  | target (e : Expr) : Step n [.pattern (.expr e)] [.expr e]

def headerVariables (n : Node) (kind left : Part) (target : Pattern) (init : Option Expr) : Variables :=
  .mk ⟨(n.spanOf kind).start, (n.spanOf left).stop, (n.spanOf kind).line, (n.spanOf kind).column⟩
    kind.label.kind [.mk (n.spanOf left) target init]

/-- Pieces that are made at a node, with the labels of the nodes whose words and readings they are made
of. A piece without names takes up no node. -/
inductive Makes (n : Node) (R : Label → List Fragment → Prop) : List Label → List Fragment → Prop
  | nil : Makes n R [] []
  | append {ls ms : List Label} {xs ys : List Fragment} (hxs : Makes n R ls xs) (hys : Makes n R ms ys) :
      Makes n R (ls ++ ms) (xs ++ ys)
  | part {p : Part} {xs : List Fragment} (hp : p ∈ n.parts) (h : R p.label xs) : Makes n R [p.label] xs
  | word {x : Fragment} (h : n.source.Words n.label x) : Makes n R [n.label] [x]
  | wordOf {p : Part} {x : Fragment} (hp : p ∈ n.parts) (h : n.source.Words p.label x) :
      Makes n R [p.label] [x]
  | plain {x : Fragment} (hinside : n.Nests → x.span.Inside n.span) (hchildren : x.children = [])
      (hword : x.isWord = false) (htidy : x.Tidy) : Makes n R [] [x]
  | step {ls : List Label} {xs ys : List Fragment} (h : Makes n R ls xs) (hstep : n.Step xs ys) :
      Makes n R ls ys
  | header {kind left : Part} {target : Pattern} (init : Option Expr)
      (hloop : n.kind = "for_in_statement") (hkind : n.field? "kind" = some kind)
      (hleft : n.field? "left" = some left) (h : R left.label [.pattern target]) :
      Makes n R [left.label] [.loopVariables (n.headerVariables kind left target init)]

/-- What a node as a whole is read as: its own word, or made of parts of it, none of them twice. -/
def Yields (n : Node) (R : Label → List Fragment → Prop) (xs : List Fragment) : Prop :=
  ∃ ls, (ls = [n.label] ∨ ls.Subperm (n.parts.map Part.label)) ∧ n.Makes R ls xs

/-- What is made of parts under some fields, of one part for a field at most. -/
def From (n : Node) (R : Label → List Fragment → Prop) (fs : List String) (xs : List Fragment) : Prop :=
  ∃ ls, (ls.map Label.field).Sublist fs ∧ ls ⊆ n.parts.map Part.label ∧ n.Makes R ls xs

variable {n : Node} {R : Label → List Fragment → Prop} {xs ys : List Fragment}

theorem Yields.step (h : n.Yields R xs) (hstep : n.Step xs ys) : n.Yields R ys := by
  obtain ⟨ls, hls, h⟩ := h
  exact ⟨ls, hls, h.step hstep⟩

theorem Yields.form {x : Fragment} (h : n.Yields R x.children) (hspan : x.span = n.span)
    (hword : x.isWord = false) (htidy : x.Tidy) : n.Yields R [x] :=
  h.step (.form hspan hword htidy)

theorem Yields.word {x : Fragment} (h : n.source.Words n.label x) : n.Yields R [x] :=
  ⟨_, .inl rfl, .word h⟩

theorem Yields.nil : n.Yields R [] := ⟨[], .inr (List.nil_subperm), .nil⟩

theorem Yields.leaf {x : Fragment} (hchildren : x.children = []) (hspan : x.span = n.span)
    (hword : x.isWord = false) (htidy : x.Tidy) : n.Yields R [x] :=
  Yields.form (hchildren ▸ .nil) hspan hword htidy

theorem Yields.part {p : Part} (hp : p ∈ n.parts) (h : R p.label xs) : n.Yields R xs :=
  ⟨_, .inr (List.singleton_subperm_iff.mpr (List.mem_map_of_mem hp)), .part hp h⟩

theorem Yields.wordOf {p : Part} {x : Fragment} (hp : p ∈ n.parts) (h : n.source.Words p.label x) :
    n.Yields R [x] :=
  ⟨_, .inr (List.singleton_subperm_iff.mpr (List.mem_map_of_mem hp)), .wordOf hp h⟩

namespace From

variable {fs gs : List String}

theorem nil : n.From R fs [] := ⟨[], List.nil_sublist _, List.nil_subset _, .nil⟩

theorem append (h : n.From R fs xs) (h' : n.From R gs ys) : n.From R (fs ++ gs) (xs ++ ys) := by
  obtain ⟨ls, hfs, hls, h⟩ := h
  obtain ⟨ms, hgs, hms, h'⟩ := h'
  refine ⟨ls ++ ms, ?_, List.append_subset.mpr ⟨hls, hms⟩, h.append h'⟩
  rw [List.map_append]
  exact hfs.append hgs

theorem weaken (h : n.From R fs xs) (hfs : fs.Sublist gs) : n.From R gs xs := by
  obtain ⟨ls, hls, h⟩ := h
  exact ⟨ls, hls.trans hfs, h⟩

theorem step (h : n.From R fs xs) (hstep : n.Step xs ys) : n.From R fs ys := by
  obtain ⟨ls, hfs, hls, h⟩ := h
  exact ⟨ls, hfs, hls, h.step hstep⟩

theorem make {x : Fragment} (h : n.From R fs x.children) (hspan : x.span = n.span)
    (hword : x.isWord = false) (htidy : x.Tidy) : n.From R fs [x] :=
  h.step (.form hspan hword htidy)

theorem plain {x : Fragment} (hinside : n.Nests → x.span.Inside n.span) (hchildren : x.children = [])
    (hword : x.isWord = false) (htidy : x.Tidy) : n.From R fs [x] :=
  ⟨[], List.nil_sublist _, List.nil_subset _, .plain hinside hchildren hword htidy⟩

theorem under {f : String} {p : Part} (hp : p ∈ n.parts) (hf : p.label.field = f)
    (h : n.Makes R [p.label] xs) : n.From R [f] xs := by
  subst hf
  exact ⟨_, List.Sublist.refl _, by simpa using ⟨p, hp, rfl⟩, h⟩

theorem field {f : String} {p : Part} (hp : n.field? f = some p) (h : n.Makes R [p.label] xs) :
    n.From R [f] xs :=
  under (field_eq_some hp).1 (field_eq_some hp).2 h

/-- Parts under different fields are different parts. -/
theorem yields (h : n.From R fs xs) (hfs : fs.Nodup) : n.Yields R xs := by
  obtain ⟨ls, hsub, hls, h⟩ := h
  have hnodup : ls.Nodup := (hfs.sublist hsub).of_map
  exact ⟨ls, .inr (hnodup.subperm hls), h⟩

theorem form {x : Fragment} (h : n.From R fs x.children) (hfs : fs.Nodup) (hspan : x.span = n.span)
    (hword : x.isWord = false) (htidy : x.Tidy) : n.Yields R [x] :=
  (h.make hspan hword htidy).yields hfs

end From

theorem Makes.yields {ps : List Part} (h : n.Makes R (ps.map Part.label) xs) (hps : ps.Sublist n.parts) :
    n.Yields R xs :=
  ⟨_, .inr (hps.map _).subperm, h⟩

theorem Makes.mapM {α : Type} {f : Part → Lift α} {fragments : α → List Fragment} {ps : List Part}
    (h : ∀ p ∈ ps, Ensures (f p) fun a => n.Makes R [p.label] (fragments a)) :
    Ensures (ps.mapM f) fun as => n.Makes R (ps.map Part.label) (as.flatMap fragments) := by
  intro as has
  have hall := mapM_eq_ok has
  clear has
  induction hall with
  | nil => exact .nil
  | @cons p a ps as ha _ ih =>
      have hrest := ih fun q hq => h q (List.mem_cons_of_mem _ hq)
      exact (h p List.mem_cons_self a ha).append hrest

theorem ensures_field {f : String} : Ensures (n.field f) fun p => n.field? f = some p :=
  fun _ h => field_eq_ok.mp h

theorem ensures_first : Ensures n.first fun p => p ∈ n.parts := fun _ h => mem_of_first h

theorem ensures_firstValue : Ensures n.firstValue fun p => p ∈ n.parts :=
  fun _ h => mem_parts_of_named (List.mem_of_find?_eq_some (orNoChild_eq_ok.mp h))

def ReadAs (n : Node) (R : Label → List Fragment → Prop) : Prop :=
  ∀ p ∈ n.parts, p.reads.Gives (R p.label)

namespace ReadAs

variable (hn : n.ReadAs R) {α : Type} {f : String} {fragment : α → Fragment}

include hn

theorem field {p : Part} (hp : n.field? f = some p) : p.reads.Gives (n.From R [f]) :=
  (hn p (field_eq_some hp).1).mono fun _ h => .field hp (.part (field_eq_some hp).1 h)

theorem part {p : Part} (hp : p ∈ n.parts) : p.reads.Gives (n.Yields R) :=
  (hn p hp).mono fun _ h => .part hp h

section Positions

variable {read : Reading → Lift α}
  (hread : ∀ {r : Reading} {Q : List Fragment → Prop}, r.Gives Q → Ensures (read r) fun a => Q [fragment a])

include hread

theorem required : Ensures (n.required f read) fun a => n.From R [f] [fragment a] :=
  ensures_field.bind fun _ hp => hread (hn.field hp)

theorem makesOptional : Ensures (n.optional f read)
    fun o => n.Makes R ((n.field? f).toList.map Part.label) (o.toList.map fragment) := by
  unfold Node.optional
  cases hp : n.field? f with
  | none => exact .ok .nil
  | some p =>
      have hmem := (field_eq_some hp).1
      exact (hread (hn p hmem)).map fun _ ha => .part hmem ha

theorem optional : Ensures (n.optional f read) fun o => n.From R [f] (o.toList.map fragment) := by
  refine (hn.makesOptional hread).mono fun o ho => ?_
  cases hp : n.field? f with
  | none =>
      rw [hp] at ho
      exact ⟨[], List.nil_sublist _, List.nil_subset _, ho⟩
  | some p =>
      rw [hp] at ho
      exact .field hp ho

theorem makes {ps : List Part} (hps : ps ⊆ n.parts) : Ensures (ps.mapM fun p => read p.reads)
    fun as => n.Makes R (ps.map Part.label) (as.map fragment) := by
  have hpart : ∀ p ∈ ps, Ensures (read p.reads) fun a => n.Makes R [p.label] [fragment a] :=
    fun p hp => (hread (hn p (hps hp))).mono fun _ ha => .part (hps hp) ha
  refine (Makes.mapM hpart).mono fun as h => ?_
  rwa [← List.map_eq_flatMap] at h

theorem among {ps : List Part} (hps : ps.Sublist n.parts) :
    Ensures (ps.mapM fun p => read p.reads) fun as => n.Yields R (as.map fragment) :=
  (hn.makes hread hps.subset).mono fun _ h => h.yields hps

theorem each : Ensures (n.each read) fun as => n.Yields R (as.map fragment) :=
  hn.among hread List.filter_sublist

end Positions

theorem listed {read : Reading → Lift (List α)}
    (hread : ∀ {r : Reading} {Q : List Fragment → Prop}, r.Gives Q →
      Ensures (read r) fun as => Q (as.map fragment)) :
    Ensures (n.listed f read) fun as => n.From R [f] (as.map fragment) := by
  unfold Node.listed
  split
  · exact .ok .nil
  · rename_i p hp
    exact hread (hn.field hp)

end ReadAs

end Node

end ScriptSplit
