import ScriptSplit.Proofs.Declared

/-!
What a walk does to the scope that it is handed. An expression or the target of an assignment leaves
it as it was, and a statement takes from it the names that it declares around itself, and no other.
Walks hand scopes on by value; a walk that shares them by number, forks them and hides names in them
in place, finds the same and does the same to the scope at hand, and nothing to any other.
-/

namespace ScriptSplit

theorem Scope.hide_eq_filter (s : Scope) (xs : List String) : s.hide xs = ⟨s.names.filter (· ∉ xs)⟩ := by
  induction xs generalizing s with
  | nil => exact congrArg Scope.mk (List.filter_eq_self.mpr fun _ _ => by simp).symm
  | cons x xs ih =>
      change (s.shadow x).hide xs = _
      rw [ih, shadow, List.filter_filter]
      refine congrArg Scope.mk (List.filter_congr fun y _ => ?_)
      rw [Bool.eq_iff_iff]
      simp [and_comm]

/-- The occurrences found up to the end of a walk through the scopes of a family, and the family
there, or the refusal that ended it. -/
structure Visit where
  found : List Mutation
  outcome : Except Refusal Family

namespace Visit

def note (f : Family) (i : Nat) (m : Mutation) : Visit :=
  ⟨if f.members[i]?.any (·.has m.name.name) then [m] else [], .ok f⟩

def andThen (v : Visit) (next : Family → Visit) : Visit :=
  match v.outcome with
  | .error r => ⟨v.found, .error r⟩
  | .ok f => ⟨v.found ++ (next f).found, (next f).outcome⟩

end Visit

mutual

/-- Walks with scope `i` of a family at hand. A name is hidden in that scope itself, and a part with
a scope of its own is walked with a fork of it. -/
def Item.visit (f : Family) (i : Nat) : Item → Visit
  | .reference name => .note f i ⟨.reference, name⟩
  | .shorthand name => .note f i ⟨.shorthand, name⟩
  | .shadow x => ⟨[], .ok (f.shadow i x)⟩
  | .scoped items => Item.visits (f.fork i) f.members.length items
  | .refuse r => ⟨[], .error r⟩

def Item.visits (f : Family) (i : Nat) : List Item → Visit
  | [] => ⟨[], .ok f⟩
  | item :: items => (item.visit f i).andThen fun f' => Item.visits f' i items

end

/-- A visit does to scope `i` of a family what a walk does to that scope alone: the other scopes are
as they were, and those taken on the way come after them. -/
inductive Family.Follows (f : Family) (i : Nat) : Except Refusal Scope → Except Refusal Family → Prop where
  | ok {s' : Scope} {taken : List Scope} : Follows f i (.ok s') (.ok ⟨f.members.set i s' ++ taken⟩)
  | error {r : Refusal} : Follows f i (.error r) (.error r)

namespace Family

variable {f : Family} {i : Nat} {s : Scope}

theorem set_self (h : f.members[i]? = some s) : f.members.set i s = f.members := by
  obtain ⟨hi, rfl⟩ := List.getElem?_eq_some_iff.mp h
  exact List.set_getElem_self hi

theorem Follows.of_members {f' : Family} {s' : Scope} (taken : List Scope)
    (h : f'.members = f.members.set i s' ++ taken) : f.Follows i (.ok s') (.ok f') := by
  obtain ⟨_⟩ := f'
  cases h
  exact .ok

theorem follows_self (h : f.members[i]? = some s) : f.Follows i (.ok s) (.ok f) :=
  .of_members [] (by rw [set_self h, List.append_nil])

theorem members_shadow (h : f.members[i]? = some s) (x : String) :
    (f.shadow i x).members = f.members.set i (s.shadow x) := by
  apply List.ext_getElem?
  intro j
  rw [shadow, List.getElem?_modify, List.getElem?_set]
  split
  · rename_i hij
    subst hij
    obtain ⟨hi, rfl⟩ := List.getElem?_eq_some_iff.mp h
    simp [hi]
  · simp

theorem members_fork (h : f.members[i]? = some s) : (f.fork i).members = f.members ++ [s] := by
  rw [fork, h]
  rfl

theorem Follows.fork {w : Except Refusal Scope} {v : Except Refusal Family} (h : f.members[i]? = some s)
    (hv : (f.fork i).Follows f.members.length w v) : f.Follows i (w.map fun _ => s) v := by
  cases hv with
  | @ok s' taken =>
      refine .of_members (s' :: taken) ?_
      rw [members_fork h, set_self h, List.set_append_right _ _ (Nat.le_refl _)]
      simp
  | error => exact .error

theorem Follows.set {s₁ : Scope} {taken : List Scope} {w : Except Refusal Scope}
    {v : Except Refusal Family} (hi : i < f.members.length)
    (hv : Follows ⟨f.members.set i s₁ ++ taken⟩ i w v) : f.Follows i w v := by
  cases hv with
  | @ok s' taken' =>
      refine .of_members (taken ++ taken') ?_
      rw [List.set_append_left _ _ (by simpa using hi), List.set_set, List.append_assoc]
  | error => exact .error

end Family

theorem Visit.found_note {f : Family} {i : Nat} {s : Scope} (h : f.members[i]? = some s) (m : Mutation) :
    (Visit.note f i m).found = (Walk.note s m).found := by
  simp [Visit.note, Walk.note, h]

mutual

theorem Item.visit_follows : ∀ (item : Item) {f : Family} {i : Nat} {s : Scope}, f.members[i]? = some s →
    (item.visit f i).found = (item.walk s).found ∧
      f.Follows i (item.walk s).outcome (item.visit f i).outcome
  | .reference _, _, _, _, h | .shorthand _, _, _, _, h => ⟨Visit.found_note h _, Family.follows_self h⟩
  | .shadow x, f, i, s, h => by
      refine ⟨rfl, .of_members [] ?_⟩
      rw [Family.members_shadow h, List.append_nil]
  | .scoped items, f, i, s, h => by
      have hfork : (f.fork i).members[f.members.length]? = some s := by simp [Family.members_fork h]
      obtain ⟨hfound, hfollows⟩ := Item.visits_follows items hfork
      exact ⟨hfound, hfollows.fork h⟩
  | .refuse _, _, _, _, _ => ⟨rfl, .error⟩

theorem Item.visits_follows : ∀ (items : List Item) {f : Family} {i : Nat} {s : Scope},
    f.members[i]? = some s →
    (Item.visits f i items).found = (Item.walks s items).found ∧
      f.Follows i (Item.walks s items).outcome (Item.visits f i items).outcome
  | [], _, _, _, h => ⟨rfl, Family.follows_self h⟩
  | item :: items, f, i, s, h => by
      have hi : i < f.members.length := (List.getElem?_eq_some_iff.mp h).1
      obtain ⟨hfound, hfollows⟩ := item.visit_follows h
      change ((item.visit f i).andThen _).found = ((item.walk s).andThen _).found ∧
        f.Follows i ((item.walk s).andThen _).outcome ((item.visit f i).andThen _).outcome
      unfold Visit.andThen Walk.andThen
      generalize item.visit f i = v at hfound hfollows ⊢
      generalize item.walk s = w at hfound hfollows ⊢
      obtain ⟨found, outcome⟩ := v
      obtain ⟨_, outcome'⟩ := w
      subst hfound
      cases hfollows with
      | @ok s₁ taken =>
          -- the items that follow find the scope at hand as this one left it
          have hs₁ : (f.members.set i s₁ ++ taken)[i]? = some s₁ := by
            rw [List.getElem?_append_left (by simpa using hi), List.getElem?_set_self hi]
          obtain ⟨hfound, hfollows⟩ :=
            Item.visits_follows items (f := ⟨f.members.set i s₁ ++ taken⟩) hs₁
          exact ⟨congrArg _ hfound, hfollows.set hi⟩
      | error => exact ⟨rfl, .error⟩

end

/-- A walk that succeeds leaves its scope as it was after an expression or the target of an
assignment, and less the names that it declares around itself after a statement. It does so also where
scopes are shared by number. -/
theorem walks_hide_only_declared (legacy : Bool) (s : Scope) :
    (∀ (e : Expr) (s' : Scope), (Item.walks s (e.outline legacy)).outcome = .ok s' → s' = s) ∧
    (∀ (p : Pattern) (s' : Scope), (Item.walks s (p.assign legacy)).outcome = .ok s' → s' = s) ∧
    (∀ (st : Stmt) (s' : Scope), (Item.walks s (st.outline legacy)).outcome = .ok s' →
      s' = ⟨s.names.filter (· ∉ st.declared legacy)⟩) ∧
    ∀ (items : List Item) (f : Family) (i : Nat), f.members[i]? = some s →
      (Item.visits f i items).found = (Item.walks s items).found ∧
        f.Follows i (Item.walks s items).outcome (Item.visits f i items).outcome := by
  refine ⟨fun e s' h => ?_, fun p s' h => ?_, fun st s' h => ?_, fun items f i h => ?_⟩
  · rw [(Item.walks_free s _ h).2, Expr.allHides_outline, Scope.hide_nil]
  · rw [(Item.walks_free s _ h).2, Pattern.allHides_assign, Scope.hide_nil]
  · rw [(Item.walks_free s _ h).2, Stmt.allHides_outline, Scope.hide_eq_filter]
  · exact Item.visits_follows items h

namespace Sample

def somewhere : Span := ⟨0, 0, 1, 0⟩

/-- A labelled `for (const x of y) { let z; function w() {} }`. -/
def labeledLoop : Stmt :=
  .labeled somewhere "l" (.forOf somewhere
    (.declare (.mk somewhere "const" [.mk somewhere (.expr (.ident ⟨somewhere, "x"⟩)) none]))
    (.ident ⟨somewhere, "y"⟩)
    (.block (.mk somewhere
      [.declare (.mk somewhere "let" [.mk somewhere (.expr (.ident ⟨somewhere, "z"⟩)) none]),
      .function somewhere (some ⟨somewhere, "w"⟩) [] (.mk somewhere []) false false]))
    false)

end Sample

/-- Only the header shows outside, through the label, and nothing from the body. -/
theorem labeledLoop_hides_header :
    (Item.walks ⟨["w", "x", "y", "z"]⟩ (Sample.labeledLoop.outline true)).outcome = .ok ⟨["w", "y", "z"]⟩ ∧
      Scope.mk ["w", "y", "z"] =
        ⟨["w", "x", "y", "z"].filter (· ∉ Sample.labeledLoop.declared true)⟩ := by
  have hwalk : (Item.walks ⟨["w", "x", "y", "z"]⟩ (Sample.labeledLoop.outline true)).outcome =
      .ok ⟨["w", "y", "z"]⟩ := rfl
  exact ⟨hwalk, (walks_hide_only_declared true ⟨["w", "x", "y", "z"]⟩).2.2.1 _ _ hwalk⟩

end ScriptSplit
