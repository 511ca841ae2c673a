import ScriptSplit.Resolve

namespace ScriptSplit

namespace Scope

def hide (s : Scope) (xs : List String) : Scope := xs.foldl shadow s

@[simp] theorem hide_nil (s : Scope) : s.hide [] = s := rfl

@[simp] theorem hide_singleton (s : Scope) (x : String) : s.hide [x] = s.shadow x := rfl

theorem hide_append (s : Scope) (xs ys : List String) : s.hide (xs ++ ys) = (s.hide xs).hide ys :=
  List.foldl_append

theorem has_hide (s : Scope) (xs : List String) (y : String) :
    (s.hide xs).has y = (s.has y && !xs.contains y) := by
  induction xs generalizing s with
  | nil => simp
  | cons x xs ih =>
      change ((s.shadow x).hide xs).has y = _
      rw [ih, has_shadow, List.contains_cons, Bool.not_or, Bool.and_assoc]
      rfl

end Scope

structure Use where
  mutation : Mutation
  hidden : List String

namespace Use

def name (u : Use) : String := u.mutation.name.name

def under (xs : List String) (u : Use) : Use := ⟨u.mutation, xs ++ u.hidden⟩

def isFree (s : Scope) (u : Use) : Bool := s.has u.name && !u.hidden.contains u.name

@[simp] theorem mutation_under (xs : List String) (u : Use) : (u.under xs).mutation = u.mutation := rfl

@[simp] theorem under_nil : under [] = id := rfl

@[simp] theorem under_comp_under (xs ys : List String) : under xs ∘ under ys = under (xs ++ ys) := by
  funext u
  simp [under]

theorem isFree_under (s : Scope) (xs : List String) (u : Use) :
    (u.under xs).isFree s = u.isFree (s.hide xs) := by
  simp [isFree, Scope.has_hide, under, name, Bool.and_assoc]

end Use

def Item.hides : Item → List String
  | .shadow x => [x]
  | _ => []

def Item.allHides (items : List Item) : List String := items.flatMap Item.hides

mutual

def Item.uses : Item → List Use
  | .reference i => [⟨⟨.reference, i⟩, []⟩]
  | .shorthand i => [⟨⟨.shorthand, i⟩, []⟩]
  | .shadow _ => []
  | .scoped items => Item.allUses items
  | .refuse _ => []

def Item.allUses : List Item → List Use
  | [] => []
  | i :: is => i.uses ++ (Item.allUses is).map (Use.under i.hides)

end

namespace Item

@[simp] theorem allHides_nil : allHides [] = [] := rfl

@[simp] theorem allHides_cons (i : Item) (is : List Item) : allHides (i :: is) = i.hides ++ allHides is :=
  rfl

@[simp] theorem allHides_append (is js : List Item) : allHides (is ++ js) = allHides is ++ allHides js :=
  List.flatMap_append

@[simp] theorem hides_reference (i : Ident) : (Item.reference i).hides = [] := rfl

@[simp] theorem hides_shorthand (i : Ident) : (Item.shorthand i).hides = [] := rfl

@[simp] theorem hides_shadow (x : String) : (Item.shadow x).hides = [x] := rfl

@[simp] theorem hides_scoped (is : List Item) : (Item.scoped is).hides = [] := rfl

@[simp] theorem hides_refuse (r : Refusal) : (Item.refuse r).hides = [] := rfl

attribute [simp] uses allUses

@[simp] theorem allUses_append (is js : List Item) :
    allUses (is ++ js) = allUses is ++ (allUses js).map (Use.under (allHides is)) := by
  induction is with
  | nil => simp
  | cons i is ih => simp [ih]

end Item

def freeUses (s : Scope) (us : List Use) : List Mutation := (us.filter (Use.isFree s)).map Use.mutation

@[simp] theorem freeUses_append (s : Scope) (us vs : List Use) :
    freeUses s (us ++ vs) = freeUses s us ++ freeUses s vs := by
  simp [freeUses]

theorem freeUses_under (s : Scope) (xs : List String) (us : List Use) :
    freeUses s (us.map (Use.under xs)) = freeUses (s.hide xs) us := by
  induction us with
  | nil => rfl
  | cons u us ih =>
      simp only [freeUses, List.map_cons, List.filter_cons, Use.isFree_under] at ih ⊢
      split <;> simp [ih]

theorem freeUses_single (s : Scope) (m : Mutation) :
    freeUses s [⟨m, []⟩] = (Walk.note s m).found := by
  cases h : s.has m.name.name <;> simp [freeUses, Use.isFree, Use.name, Walk.note, h]

namespace Walk

theorem outcome_andThen {w : Walk} {next : Scope → Walk} {s' : Scope}
    (h : (w.andThen next).outcome = .ok s') :
    ∃ s, w.outcome = .ok s ∧ (next s).outcome = .ok s' ∧
      (w.andThen next).found = w.found ++ (next s).found := by
  unfold andThen at h ⊢
  cases hw : w.outcome with
  | error r => simp [hw] at h
  | ok s => exact ⟨s, rfl, by simpa [hw] using h, rfl⟩

theorem outcome_within {s s' : Scope} {w : Walk} (h : (within s w).outcome = .ok s') :
    s' = s ∧ ∃ s₁, w.outcome = .ok s₁ := by
  unfold within at h
  cases hw : w.outcome with
  | error r => simp [hw, Except.map] at h
  | ok s₁ =>
      simp only [hw, Except.map, Except.ok.injEq] at h
      exact ⟨h.symm, s₁, rfl⟩

end Walk

mutual

theorem Item.walk_free (s : Scope) : ∀ (i : Item) {s' : Scope}, (i.walk s).outcome = .ok s' →
    (i.walk s).found = freeUses s i.uses ∧ s' = s.hide i.hides
  | .reference i, s', h => by
      have hs : s = s' := by simpa [Item.walk, Walk.note] using h
      exact ⟨by simp [Item.walk, freeUses_single], hs.symm⟩
  | .shorthand i, s', h => by
      have hs : s = s' := by simpa [Item.walk, Walk.note] using h
      exact ⟨by simp [Item.walk, freeUses_single], hs.symm⟩
  | .shadow x, s', h => by
      have hs : s.shadow x = s' := by simpa [Item.walk, Walk.stay] using h
      exact ⟨rfl, hs.symm⟩
  | .scoped items, s', h => by
      obtain ⟨rfl, s₁, h₁⟩ := Walk.outcome_within h
      exact ⟨(Item.walks_free s' items h₁).1, rfl⟩
  | .refuse r, s', h => by simp [Item.walk] at h

theorem Item.walks_free (s : Scope) : ∀ (is : List Item) {s' : Scope},
    (Item.walks s is).outcome = .ok s' →
    (Item.walks s is).found = freeUses s (Item.allUses is) ∧ s' = s.hide (Item.allHides is)
  | [], s', h => by
      have hs : s = s' := by simpa [Item.walks, Walk.stay] using h
      exact ⟨rfl, hs.symm⟩
  | i :: is, s', h => by
      obtain ⟨s₁, h₁, h₂, hf⟩ := Walk.outcome_andThen h
      -- the items that follow are walked under the scope that this one leaves
      obtain ⟨hi, rfl⟩ := Item.walk_free s i h₁
      obtain ⟨his, rfl⟩ := Item.walks_free (s.hide i.hides) is h₂
      refine ⟨?_, (Scope.hide_append s _ _).symm⟩
      change ((i.walk s).andThen _).found = _
      rw [hf, hi, his, Item.allUses, freeUses_append, freeUses_under]

end

mutual

theorem Item.walk_initial (s : Scope) : ∀ i : Item, (i.walk s).found <+: freeUses s i.uses
  | .reference i => by
      rw [Item.uses, freeUses_single]
      exact List.prefix_rfl
  | .shorthand i => by
      rw [Item.uses, freeUses_single]
      exact List.prefix_rfl
  | .shadow x => List.nil_prefix
  | .scoped items => Item.walks_initial s items
  | .refuse r => List.nil_prefix

theorem Item.walks_initial (s : Scope) : ∀ is : List Item,
    (Item.walks s is).found <+: freeUses s (Item.allUses is)
  | [] => List.nil_prefix
  | i :: is => by
      rw [Item.allUses, freeUses_append, freeUses_under]
      change ((i.walk s).andThen fun s' => Item.walks s' is).found <+: _
      cases h : (i.walk s).outcome with
      | error r =>
          simp only [Walk.andThen, h]
          exact (Item.walk_initial s i).trans (List.prefix_append _ _)
      | ok s' =>
          obtain ⟨hi, rfl⟩ := Item.walk_free s i h
          simp only [Walk.andThen, h, hi]
          exact (List.prefix_append_right_inj _).mpr (Item.walks_initial _ is)

end

theorem Item.walks_sublist (s : Scope) (is : List Item) :
    List.Sublist (Item.walks s is).found ((Item.allUses is).map Use.mutation) :=
  (Item.walks_initial s is).sublist.trans (List.filter_sublist.map _)

end ScriptSplit
