import ScriptSplit.Proofs.Placement
import ScriptSplit.Split

/-!
Syntax errors are reported at the first erroneous node. The search looks only below nodes that are
flagged; where the flags tell the truth, it finds what a look at every node in order would find.
-/

namespace ScriptSplit

def Label.Wrong (l : Label) : Prop := l.kind = "ERROR" ∨ l.missing = true

instance (l : Label) : Decidable l.Wrong := inferInstanceAs (Decidable (_ ∨ _))

theorem Label.isError_eq (l : Label) : l.isError = decide l.Wrong := by
  rw [Bool.eq_iff_iff, decide_eq_true_iff]
  simp [isError, Wrong]

namespace Tree

/-- A node is flagged exactly if it is erroneous or something below it is. -/
def Flagged (t : Tree) : Prop :=
  ∀ u ∈ t.subtrees, u.label.faulty = true ↔ ∃ v ∈ u.subtrees, v.label.Wrong

instance (t : Tree) : Decidable t.Flagged :=
  inferInstanceAs (Decidable (∀ u ∈ t.subtrees, _))

def wrong? (ts : List Tree) : Option Label := (ts.find? fun u => u.label.Wrong).map label

theorem wrong?_append (ts us : List Tree) : wrong? (ts ++ us) = (wrong? ts).or (wrong? us) := by
  rw [wrong?, List.find?_append, Option.map_or, wrong?, wrong?]

theorem wrong?_eq_none {ts : List Tree} (h : ¬ ∃ v ∈ ts, v.label.Wrong) : wrong? ts = none := by
  simpa [wrong?] using h

theorem wrong?_eq_some {before after : List Tree} {bad : Tree} (hbefore : ∀ u ∈ before, ¬ u.label.Wrong)
    (hbad : bad.label.Wrong) : wrong? (before ++ bad :: after) = some bad.label := by
  have hnone : wrong? before = none := wrong?_eq_none (by simpa using hbefore)
  rw [wrong?_append, hnone]
  simp [wrong?, hbad]

mutual

theorem firstError_eq : ∀ t : Tree, t.Flagged → t.firstError = wrong? t.subtrees
  | .node l cs, h => by
      have hrest := firstErrorAmong_eq cs fun u hu => h u (List.mem_cons_of_mem _ hu)
      rw [firstError, subtrees, l.isError_eq, hrest]
      by_cases hwrong : l.Wrong
      · simp [wrong?, label, hwrong]
      · simp [wrong?, label, hwrong]

theorem firstErrorAmong_eq : ∀ ts : List Tree,
    (∀ u ∈ allSubtrees ts, u.label.faulty = true ↔ ∃ v ∈ u.subtrees, v.label.Wrong) →
      firstErrorAmong ts = wrong? (allSubtrees ts)
  | [], _ => rfl
  | t :: ts, h => by
      have hfirst := firstError_eq t fun u hu => h u (List.mem_append_left _ hu)
      have hrest := firstErrorAmong_eq ts fun u hu => h u (List.mem_append_right _ hu)
      have hflag := h t (List.mem_append_left _ t.mem_subtrees_self)
      rw [firstErrorAmong, allSubtrees, wrong?_append, hfirst, hrest]
      split
      · rfl
      · rename_i hskip
        -- what is skipped is not flagged, so nothing below it is erroneous
        have hnone : wrong? t.subtrees = none := by
          apply wrong?_eq_none
          intro hwrong
          exact hskip (by simp [hflag.mpr hwrong])
        rw [hnone, Option.none_or]

end

theorem exists_first_wrong {ts : List Tree} (h : ∃ u ∈ ts, u.label.Wrong) :
    ∃ before bad after, ts = before ++ bad :: after ∧ (∀ u ∈ before, ¬ u.label.Wrong) ∧ bad.label.Wrong := by
  induction ts with
  | nil => simp at h
  | cons t ts ih =>
      by_cases ht : t.label.Wrong
      · exact ⟨[], t, ts, rfl, nofun, ht⟩
      · obtain ⟨before, bad, after, rfl, hbefore, hbad⟩ := ih (by simpa [ht] using h)
        exact ⟨t :: before, bad, after, rfl, List.forall_mem_cons.mpr ⟨ht, hbefore⟩, hbad⟩

end Tree

structure Refusal.Reports (r : Refusal) (bad : Label) (pos : Position) : Prop where
  category : r.category = .parse
  kind : r.kind = bad.kind
  position : r.position? = some pos
  summary : r.summary =
    if bad.missing then s!"Parse error: missing '{bad.kind}'" else "Parse error: unexpected syntax"
  message : r.message = s!"{r.summary} (line {pos.line}, column {pos.column})"

theorem readScript_of_faulty (code : Text) {t : Tree} {bad : Label} (h : t.label.faulty = true)
    (hbad : t.firstError = some bad) :
    ∃ r, readScript code t = .error (.refused r) ∧
      r.Reports bad ((Source.ofText code).span bad).position := by
  unfold readScript
  rw [if_pos h, hbad, Option.getD_some]
  refine ⟨_, rfl, ?_⟩
  split
  · rename_i hmissing
    exact ⟨rfl, rfl, rfl, by rw [if_pos hmissing]; rfl, rfl⟩
  · rename_i hmissing
    exact ⟨rfl, rfl, rfl, by rw [if_neg hmissing]; rfl, rfl⟩

theorem readScript_ne_refused (code : Text) {t : Tree} (h : ¬ t.label.faulty = true) (r : Refusal) :
    readScript code t ≠ .error (.refused r) := by
  unfold readScript
  rw [if_neg h]
  cases t.program (Source.ofText code) with
  | error m => exact nofun
  | ok p => exact nofun

theorem Tree.Flagged.reports (code : Text) {t : Tree} (h : t.Flagged) {before after : List Tree} {bad : Tree}
    (hsplit : t.subtrees = before ++ bad :: after) (hbefore : ∀ u ∈ before, ¬ u.label.Wrong)
    (hbad : bad.label.Wrong) :
    ∃ r, readScript code t = .error (.refused r) ∧
      r.Reports bad.label ((Source.ofText code).span bad.label).position := by
  have hfaulty : t.label.faulty = true := by
    apply (h t t.mem_subtrees_self).mpr
    exact ⟨bad, by simp [hsplit], hbad⟩
  apply readScript_of_faulty code hfaulty
  rw [t.firstError_eq h, hsplit, Tree.wrong?_eq_some hbefore hbad]

/-- Where the flags tell the truth, a script is refused for its syntax exactly if its tree has an
erroneous node, and then for the first one in pre-order: for its kind, at its position, in its words. -/
theorem readScript_reports_first_error (code : Text) (t : Tree) (h : t.Flagged) :
    ((∃ r, r.category = .parse ∧ readScript code t = .error (.refused r)) ↔
      ∃ u ∈ t.subtrees, u.label.Wrong) ∧
    ∀ before bad after, t.subtrees = before ++ bad :: after → (∀ u ∈ before, ¬ u.label.Wrong) →
      bad.label.Wrong →
      ∃ r, readScript code t = .error (.refused r) ∧
        r.Reports bad.label ((Source.ofText code).span bad.label).position := by
  refine ⟨⟨?_, ?_⟩, fun before bad after => h.reports code⟩
  · rintro ⟨r, _, hr⟩
    by_contra hnone
    exact readScript_ne_refused code (mt (h t t.mem_subtrees_self).mp hnone) r hr
  · intro hwrong
    obtain ⟨before, bad, after, hsplit, hbefore, hbad⟩ := Tree.exists_first_wrong hwrong
    obtain ⟨r, hr, hreports⟩ := h.reports code hsplit hbefore hbad
    exact ⟨r, hreports.category, hr⟩

namespace Sample

def unfinished : Text := "é;\nf( x".toList

def missingParen : Label := ⟨")", false, true, true, "", 6, 6, 1, 2⟩

/-- A call whose arguments do not end, and after it a word that fits nowhere. -/
def unfinishedTree : Tree :=
  .node ⟨"program", true, false, true, "", 0, 8, 0, 0⟩
    [.node ⟨"expression_statement", true, false, false, "", 0, 3, 0, 0⟩
      [.node ⟨"identifier", true, false, false, "", 0, 2, 0, 0⟩ [],
        .node ⟨";", false, false, false, "", 2, 3, 0, 2⟩ []],
    .node ⟨"expression_statement", true, false, true, "", 4, 6, 1, 0⟩
      [.node ⟨"call_expression", true, false, true, "", 4, 6, 1, 0⟩
        [.node ⟨"identifier", true, false, false, "function", 4, 5, 1, 0⟩ [],
          .node ⟨"arguments", true, false, true, "arguments", 5, 6, 1, 1⟩
            [.node ⟨"(", false, false, false, "", 5, 6, 1, 1⟩ [], .node missingParen []]]],
    .node ⟨"ERROR", true, false, true, "", 7, 8, 1, 3⟩ []]

end Sample

theorem unfinishedTree_reports_first_error :
    Sample.unfinishedTree.Flagged ∧
    ∃ r, readScript Sample.unfinished Sample.unfinishedTree = .error (.refused r) ∧
      r.Reports Sample.missingParen ⟨2, 2⟩ := by
  have hflagged : Sample.unfinishedTree.Flagged := by decide
  have hpos : ((Source.ofText Sample.unfinished).span Sample.missingParen).position = ⟨2, 2⟩ := by
    decide +kernel
  obtain ⟨_, hfirst⟩ := readScript_reports_first_error Sample.unfinished Sample.unfinishedTree hflagged
  refine ⟨hflagged, hpos ▸ hfirst (Sample.unfinishedTree.subtrees.take 9) (.node Sample.missingParen [])
    (Sample.unfinishedTree.subtrees.drop 10) rfl ?_ (by decide)⟩
  decide

end ScriptSplit
