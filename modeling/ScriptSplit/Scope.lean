import ScriptSplit.Text.Quoted

/-!
A scope is the set of names that still mean a persisted binding at a point of a script. Names only
leave a scope: a local declaration hides them.
-/

namespace ScriptSplit

/-- The names in order and without repetition. -/
structure Scope where
  names : List String
  deriving DecidableEq, Repr

namespace Scope

def insert (x : String) : List String → List String
  | [] => [x]
  | y :: ys => if x < y then x :: y :: ys else if x = y then y :: ys else y :: insert x ys

theorem mem_insert {x z : String} {ys : List String} : z ∈ insert x ys ↔ z = x ∨ z ∈ ys := by
  induction ys with
  | nil => simp [insert]
  | cons y ys ih =>
      simp only [insert]
      split
      · simp
      · split
        · rename_i h
          subst h
          simp
        · simp only [List.mem_cons, ih]
          exact or_left_comm

def ofNames (names : List String) : Scope :=
  ⟨names.foldr insert []⟩

def has (s : Scope) (x : String) : Bool := s.names.contains x

@[simp] theorem has_ofNames (names : List String) (x : String) :
    (ofNames names).has x = names.contains x := by
  have h : ∀ z, z ∈ names.foldr insert [] ↔ z ∈ names := by
    intro z
    induction names with
    | nil => simp
    | cons y ys ih => simp [mem_insert, ih]
  simp [has, ofNames, h]

def shadow (s : Scope) (x : String) : Scope := ⟨s.names.filter (· != x)⟩

@[simp] theorem has_shadow (s : Scope) (x y : String) :
    (s.shadow x).has y = (s.has y && y != x) := by
  rw [Bool.eq_iff_iff]
  simp [has, shadow]

def size (s : Scope) : Nat := s.names.length

def describe (s : Scope) : String :=
  "ScopeSnapshot([" ++ ", ".intercalate (s.names.map quoted) ++ "])"

end Scope

/-- Scopes that grew out of one: each is numbered in the order in which it was taken. -/
structure Family where
  members : List Scope
  deriving DecidableEq, Repr

namespace Family

def ofNames (names : List String) : Family := ⟨[Scope.ofNames names]⟩

/-- Takes scope `i` as it is now under the next free number. -/
def fork (f : Family) (i : Nat) : Family := ⟨f.members ++ f.members[i]?.toList⟩

def shadow (f : Family) (i : Nat) (x : String) : Family := ⟨f.members.modify i (·.shadow x)⟩

end Family

end ScriptSplit
