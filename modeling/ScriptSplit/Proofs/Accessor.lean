import Mathlib.Data.List.Forall2
import Mathlib.Logic.Function.Basic
import ScriptSplit.Emit
import ScriptSplit.Text.Blank

/-!
The export of the locals as a reader of the language takes it: the text is cut into tokens, the
tokens are read as the members of an object, and getters and setters are called on the
variables of the module. A parameter hides the variable of its name.
-/

namespace ScriptSplit

inductive Token where
  | word (w : String)
  | openParen
  | closeParen
  | openBrace
  | closeBrace
  | comma
  | equals
  | semicolon
  | dot
  deriving DecidableEq, Repr

namespace Token

def ofSign? : Char → Option Token
  | '(' => some openParen
  | ')' => some closeParen
  | '\x7b' => some openBrace
  | '\x7d' => some closeBrace
  | ',' => some comma
  | '=' => some equals
  | ';' => some semicolon
  | '.' => some dot
  | _ => none

def ofLetters (letters : Text) : List Token :=
  if letters = [] then [] else [word (String.ofList letters.reverse)]

def scan (letters : Text) : Text → List Token
  | [] => ofLetters letters
  | c :: t =>
      match ofSign? c with
      | some sign => ofLetters letters ++ sign :: scan [] t
      | none => if Text.isBlank c then ofLetters letters ++ scan [] t else scan (c :: letters) t

def isBreak (c : Char) : Bool := (ofSign? c).isSome || Text.isBlank c

/-- A text that is one word: every identifier is, whatever the letters of identifiers are. -/
def IsWord (x : String) : Prop := x.toList ≠ [] ∧ ∀ c ∈ x.toList, isBreak c = false

instance (x : String) : Decidable (IsWord x) :=
  decidable_of_iff (x.toList ≠ [] ∧ x.toList.all (fun c => !isBreak c) = true) (by simp [IsWord])

theorem scan_break {c : Char} (hc : isBreak c = true) (letters t : Text) :
    scan letters (c :: t) = ofLetters letters ++ scan [] (c :: t) := by
  unfold scan
  cases hsign : ofSign? c with
  | some sign => simp [ofLetters]
  | none =>
      have hblank : Text.isBlank c = true := by simpa [isBreak, hsign] using hc
      simp [hblank, ofLetters]

theorem scan_letters {w : Text} (hw : ∀ c ∈ w, isBreak c = false) (letters t : Text) :
    scan letters (w ++ t) = scan (w.reverse ++ letters) t := by
  induction w generalizing letters with
  | nil => rfl
  | cons c w ih =>
      have hc : ofSign? c = none ∧ Text.isBlank c = false := by
        simpa [isBreak] using hw c List.mem_cons_self
      have hrest := ih (fun d hd => hw d (List.mem_cons_of_mem _ hd)) (c :: letters)
      rw [List.cons_append, scan, hc.1]
      simp [hc.2, hrest]

theorem scan_word {x after : String} (hx : IsWord x) (hafter : after.toList.head?.any isBreak = true)
    (t : Text) :
    scan [] (x.toList ++ (after.toList ++ t)) = word x :: scan [] (after.toList ++ t) := by
  obtain ⟨c, rest, hc, hbreak⟩ : ∃ c rest, after.toList = c :: rest ∧ isBreak c = true := by
    cases h : after.toList with
    | nil => simp [h] at hafter
    | cons c rest => exact ⟨c, rest, rfl, by simpa [h] using hafter⟩
  rw [hc, List.cons_append, scan_letters hx.2, scan_break hbreak, List.append_nil]
  simp [ofLetters, hx.1]

end Token

structure Getter where
  name : String
  result : String
  deriving DecidableEq, Repr

structure Setter where
  name : String
  parameter : String
  target : String
  source : String
  deriving DecidableEq, Repr

inductive Property where
  | value (name : String)
  | getter (g : Getter)
  | setter (s : Setter)
  deriving DecidableEq, Repr

namespace Property

open Token in
def readAll : List Token → Option (List Property)
  | [closeBrace, closeParen, semicolon] => some []
  | word x :: comma :: rest => (readAll rest).map (value x :: ·)
  | word k :: word x :: openParen :: closeParen :: openBrace :: word r :: word y :: closeBrace :: comma ::
      rest =>
      if k = "get" ∧ r = "return" then (readAll rest).map (getter ⟨x, y⟩ :: ·) else none
  | word k :: word x :: openParen :: word p :: closeParen :: openBrace :: word y :: equals :: word z ::
      closeBrace :: comma :: rest =>
      if k = "set" then (readAll rest).map (setter ⟨x, p, y, z⟩ :: ·) else none
  | _ => none

def readExport (t : Text) : Option (List Property) :=
  match Token.scan [] t with
  | .word a :: .word b :: .word c :: .dot :: .word d :: .openParen :: .openBrace :: rest =>
      if a = "export" ∧ b = "default" ∧ c = "Object" ∧ d = "seal" then readAll rest else none
  | _ => none

end Property

structure Frame (V : Type) where
  parameter : Option (String × V)
  outer : String → V

namespace Frame

variable {V : Type}

def get (f : Frame V) (x : String) : V :=
  match f.parameter with
  | some (p, a) => if x = p then a else f.outer x
  | none => f.outer x

def set (f : Frame V) (x : String) (a : V) : Frame V :=
  match f.parameter with
  | some (p, b) =>
      if x = p then ⟨some (p, a), f.outer⟩ else ⟨some (p, b), Function.update f.outer x a⟩
  | none => ⟨none, Function.update f.outer x a⟩

end Frame

def Getter.call {V : Type} (g : Getter) (store : String → V) : V :=
  (Frame.mk none store).get g.result

def Setter.call {V : Type} (s : Setter) (store : String → V) (w : V) : String → V :=
  let frame := Frame.mk (some (s.parameter, w)) store
  (frame.set s.target (frame.get s.source)).outer

/-- What is set is what is got next, and no variable but `x` is changed by it. -/
def ReadsItsWrites (x : String) (g : Getter) (s : Setter) : Prop :=
  ∀ (V : Type) (store : String → V) (w : V),
    g.call (s.call store w) = w ∧ ∀ y, y ≠ x → s.call store w y = store y

namespace Setter

theorem call_of_ne {V : Type} {s : Setter} (htarget : s.target ≠ s.parameter)
    (hsource : s.source = s.parameter) (store : String → V) (w : V) :
    s.call store w = Function.update store s.target w := by
  simp [call, Frame.set, Frame.get, htarget, hsource]

theorem call_of_eq {V : Type} {s : Setter} (htarget : s.target = s.parameter) (store : String → V)
    (w : V) : s.call store w = store := by
  simp [call, Frame.set, htarget]

end Setter

namespace Binding

def getter (b : Binding) : Getter := ⟨b.name, b.name⟩

def setter (b : Binding) : Setter := ⟨b.name, "v", b.name, "v"⟩

def members (b : Binding) : List Property :=
  if b.writable then [.getter b.getter, .setter b.setter] else [.value b.name]

theorem readsItsWrites_iff (b : Binding) : ReadsItsWrites b.name b.getter b.setter ↔ b.name ≠ "v" := by
  constructor
  · intro h heq
    have hkept := Setter.call_of_eq (s := b.setter) heq (fun _ => false) true
    have hgot := (h Bool (fun _ => false) true).1
    rw [hkept] at hgot
    cases hgot
  · intro hne V store w
    rw [Setter.call_of_ne hne rfl]
    refine ⟨?_, ?_⟩
    · exact Function.update_self b.name w store
    · intro y hy
      exact Function.update_of_ne hy w store

open Token in
theorem scan_accessor {b : Binding} (hb : IsWord b.name) (t : Text) :
    scan [] (b.accessor.toList ++ t) = (if b.writable then
        [word "get", word b.name, openParen, closeParen, openBrace, word "return", word b.name, closeBrace,
          comma, word "set", word b.name, openParen, word "v", closeParen, openBrace, word b.name, equals,
          word "v", closeBrace, comma]
      else [word b.name, comma]) ++ scan [] t := by
  -- each fixed part of the text ends a word, so it is scanned apart from what follows it
  have hget : ∀ t, scan [] ("get ".toList ++ t) = word "get" :: scan [] t := fun _ => rfl
  have hreturn : ∀ t, scan [] ("() \x7b return ".toList ++ t) =
      openParen :: closeParen :: openBrace :: word "return" :: scan [] t := fun _ => rfl
  have hset : ∀ t, scan [] (" \x7d,set ".toList ++ t) =
      closeBrace :: comma :: word "set" :: scan [] t := fun _ => rfl
  have hparameter : ∀ t, scan [] ("(v) \x7b ".toList ++ t) =
      openParen :: word "v" :: closeParen :: openBrace :: scan [] t := fun _ => rfl
  have hassign : ∀ t, scan [] (" = v \x7d,".toList ++ t) =
      equals :: word "v" :: closeBrace :: comma :: scan [] t := fun _ => rfl
  have hcomma : ∀ t, scan [] (",".toList ++ t) = comma :: scan [] t := fun _ => rfl
  unfold accessor
  split
  · simp only [String.toList_append, List.append_assoc, toString]
    rw [hget, scan_word hb rfl, hreturn, scan_word hb rfl, hset, scan_word hb rfl, hparameter,
      scan_word hb rfl, hassign]
    rfl
  · simp only [String.toList_append, List.append_assoc, toString]
    rw [scan_word hb rfl, hcomma]
    rfl

theorem readAll_accessor {b : Binding} (hb : Token.IsWord b.name) (t : Text) :
    Property.readAll (Token.scan [] (b.accessor.toList ++ t)) =
      (Property.readAll (Token.scan [] t)).map (b.members ++ ·) := by
  rw [scan_accessor hb]
  unfold members
  split
  · simp [Property.readAll, getter, setter, Function.comp_def]
  · simp [Property.readAll]

end Binding

theorem readAll_entries {bs : List Binding} (hnames : ∀ b ∈ bs, Token.IsWord b.name) :
    Property.readAll (Token.scan [] ((bs.flatMap fun b => b.accessor.toList) ++ "\x7d);".toList)) =
      some (bs.map Binding.members).flatten := by
  induction bs with
  | nil => rfl
  | cons b bs ih =>
      have hrest := ih fun c hc => hnames c (List.mem_cons_of_mem _ hc)
      rw [List.flatMap_cons, List.append_assoc, Binding.readAll_accessor (hnames b List.mem_cons_self), hrest]
      rfl

theorem toList_localsExport (bs : List Binding) :
    (localsExport bs).toList = "export default Object.seal(\x7b".toList ++
      ((bs.flatMap fun b => b.accessor.toList) ++ "\x7d);".toList) := by
  unfold localsExport
  generalize "export default Object.seal(\x7b" = before, "\x7d);" = after
  simp [List.flatMap_map]

theorem readExport_localsExport {bs : List Binding} (hnames : ∀ b ∈ bs, Token.IsWord b.name) :
    Property.readExport (localsExport bs).toList = some (bs.map Binding.members).flatten := by
  have hscan : ∀ t, Property.readExport ("export default Object.seal(\x7b".toList ++ t) =
      Property.readAll (Token.scan [] t) := fun _ => rfl
  rw [toList_localsExport, hscan, readAll_entries hnames]

/-- The export can be read, binding by binding, and a write through it is read back unless the name
of the variable is that of the setter's parameter. -/
theorem writes_read_back_unless_hidden {bs : List Binding} (hnames : ∀ b ∈ bs, Token.IsWord b.name) :
    ∃ groups, Property.readExport (localsExport bs).toList = some groups.flatten ∧
      List.Forall₂ (fun b properties =>
        (b.writable = false → properties = [.value b.name]) ∧
        (b.writable = true → ∃ g s, properties = [.getter g, .setter s] ∧ g.name = b.name ∧
          s.name = b.name ∧ (ReadsItsWrites b.name g s ↔ b.name ≠ "v"))) bs groups := by
  refine ⟨bs.map Binding.members, readExport_localsExport hnames, ?_⟩
  rw [List.forall₂_map_right_iff, List.forall₂_same]
  intro b _
  refine ⟨?_, ?_⟩
  · intro hb
    simp [Binding.members, hb]
  · intro hb
    refine ⟨b.getter, b.setter, ?_, rfl, rfl, b.readsItsWrites_iff⟩
    simp [Binding.members, hb]

theorem writes_of_count_read_back :
    ∃ g s, Property.readExport (localsExport [⟨"count", true⟩]).toList = some [.getter g, .setter s] ∧
      ReadsItsWrites "count" g s := by
  have hnames : ∀ b ∈ [(⟨"count", true⟩ : Binding)], Token.IsWord b.name := by decide
  obtain ⟨groups, hread, hgroups⟩ := writes_read_back_unless_hidden hnames
  cases hgroups with
  | cons hb hnil =>
      cases hnil
      obtain ⟨g, s, rfl, _, _, hlaw⟩ := hb.2 rfl
      exact ⟨g, s, hread, hlaw.mpr (by decide)⟩

def letV : Stmt :=
  .declare (.mk ⟨0, 5, 1, 0⟩ "let" [.mk ⟨4, 5, 1, 4⟩ (.expr (.ident ⟨⟨4, 5, 1, 4⟩, "v"⟩)) none])

theorem write_of_v_lost :
    ∃ bs g s, (extract "app" false "let v".toList [letV]).bindings = bs ∧
      Property.readExport (localsExport bs).toList = some [.getter g, .setter s] ∧
      g.name = "v" ∧ s.name = "v" ∧ g.call (s.call (fun _ => 0) 1) = 0 :=
  ⟨[⟨"v", true⟩], ⟨"v", "v"⟩, ⟨"v", "v", "v", "v"⟩, by decide, by decide, rfl, rfl, by decide⟩

end ScriptSplit
