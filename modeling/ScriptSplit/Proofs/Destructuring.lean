import ScriptSplit.Proofs.Rejection

/-!
What a declared pattern binds, told twice: by the names that are shared between the modules, and by
the names that are hidden when the pattern is walked. The two agree, but for what lies under an array
pattern.
-/

namespace ScriptSplit

open Phrase (declared declaredEntry)

mutual

/-- The names that stand in a pattern as targets, from left to right, each with whether it lies under
an array pattern. -/
def Pattern.seats (inArray : Bool) : Pattern → List (String × Bool)
  | .expr (.ident i) => [(i.name, inArray)]
  | .expr _ => []
  | .default _ p _ => p.seats inArray
  | .array _ ps => Pattern.elementSeats ps
  | .object _ es => Entry.allSeats inArray es
  | .rest _ p => p.seats inArray

def Pattern.elementSeats : List (Option Pattern) → List (String × Bool)
  | [] => []
  | none :: ps => Pattern.elementSeats ps
  | some p :: ps => p.seats true ++ Pattern.elementSeats ps

def Entry.seats (inArray : Bool) : Entry → List (String × Bool)
  | .property _ _ value _ _ => value.seats inArray
  | .rest _ p => p.seats inArray

def Entry.allSeats (inArray : Bool) : List Entry → List (String × Bool)
  | [] => []
  | e :: es => e.seats inArray ++ Entry.allSeats inArray es

end

def outside (seats : List (String × Bool)) : List String :=
  (seats.filter fun n => !n.2).map Prod.fst

/-- Whether a shorthand has its key for a value or for the target of one. -/
def Entry.keepsKey (key : Expr) (value : Pattern) : Bool :=
  match key, value with
  | .ident i, .expr (.ident j) => i = j
  | .ident i, .default _ (.expr (.ident j)) _ => i = j
  | .ident _, _ => false
  | _, _ => true

mutual

def Pattern.isMatched : Pattern → Bool
  | .expr _ => true
  | .default _ p _ => p.isMatched
  | .array _ ps => Pattern.elementsMatched ps
  | .object _ es => Entry.allMatched es
  | .rest _ p => p.isMatched

def Pattern.elementsMatched : List (Option Pattern) → Bool
  | [] => true
  | none :: ps => Pattern.elementsMatched ps
  | some p :: ps => p.isMatched && Pattern.elementsMatched ps

def Entry.isMatched : Entry → Bool
  | .property _ key value _ isShort => (!isShort || Entry.keepsKey key value) && value.isMatched
  | .rest _ p => p.isMatched

def Entry.allMatched : List Entry → Bool
  | [] => true
  | e :: es => e.isMatched && Entry.allMatched es

end

mutual

def Pattern.values : Pattern → List Expr
  | .expr _ => []
  | .default _ p e => p.values ++ [e]
  | .array _ ps => Pattern.elementValues ps
  | .object _ es => Entry.allValues es
  | .rest _ p => p.values

def Pattern.elementValues : List (Option Pattern) → List Expr
  | [] => []
  | none :: ps => Pattern.elementValues ps
  | some p :: ps => p.values ++ Pattern.elementValues ps

def Entry.values : Entry → List Expr
  | .property _ key value computed _ => (if computed then [key] else []) ++ value.values
  | .rest _ p => p.values

def Entry.allValues : List Entry → List Expr
  | [] => []
  | e :: es => e.values ++ Entry.allValues es

end

mutual

def Pattern.hasArray : Pattern → Bool
  | .expr _ => false
  | .default _ p _ => p.hasArray
  | .array .. => true
  | .object _ es => Entry.anyArray es
  | .rest _ p => p.hasArray

def Entry.hasArray : Entry → Bool
  | .property _ _ value _ _ => value.hasArray
  | .rest _ p => p.hasArray

def Entry.anyArray : List Entry → Bool
  | [] => false
  | e :: es => e.hasArray || Entry.anyArray es

end

def Pattern.isMember : Pattern → Bool
  | .expr e => e.isMember
  | _ => false

section Shorthand

variable {s : Span} {key : Expr} {value : Pattern} {computed isShort legacy : Bool}

theorem Entry.keepsKey_ident {i : Ident} (h : keepsKey (.ident i) value = true) :
    value = .expr (.ident i) ∨ ∃ t e, value = .default t (.expr (.ident i)) e := by
  unfold keepsKey at h
  split at h
  · rename_i hkey
    cases hkey
    obtain rfl := of_decide_eq_true h
    exact .inl rfl
  · rename_i hkey
    cases hkey
    obtain rfl := of_decide_eq_true h
    exact .inr ⟨_, _, rfl⟩
  · cases h
  · rename_i hkey _ _
    exact absurd rfl (hkey _)

theorem Entry.names_value {names : List String}
    (hm : (Entry.property s key value computed isShort).isMatched = true)
    (h : (Entry.property s key value computed isShort).names = .ok names) : value.names = .ok names := by
  cases isShort with
  | false => exact h
  | true =>
      cases key with
      | ident i =>
          have hkeeps : keepsKey (.ident i) value = true := (Bool.and_eq_true_iff.mp hm).1
          obtain rfl | ⟨t, e, rfl⟩ := keepsKey_ident hkeeps
          · exact h
          · exact h
      | _ => cases h

theorem Pattern.isTarget_of_names {names : List String} (h : value.names = .ok names) :
    value.isTarget = true := by
  cases value with
  | expr e =>
      cases e with
      | ident i => rfl
      | _ => cases h
  | rest s p => cases h
  | _ => rfl

theorem Entry.declares_value (hm : (Entry.property s key value computed isShort).isMatched = true)
    (h : ¬ (declaredEntry (.property s key value computed isShort)).Refuses legacy) :
    ¬ (declared value).Refuses legacy ∧
      (Entry.property s key value computed isShort).binds = value.binds := by
  cases isShort with
  | false =>
      cases hvalue : value.isTarget with
      | false => exact absurd ((Phrase.Offends.value s key value computed hvalue).refuses legacy) h
      | true =>
          refine ⟨fun hv => h (hv.of_piece ?_), ?_⟩
          · simp [Phrase.pieces, Phrase.parts, Entry.declaredParts]
          · cases value <;> first | rfl | cases hvalue
  | true =>
      cases hkey : key.isIdent with
      | false => exact absurd ((Phrase.Offends.declaredKey s key value computed hkey).refuses legacy) h
      | true =>
          obtain ⟨i, rfl⟩ := Expr.exists_of_isIdent hkey
          have hkeeps : keepsKey (.ident i) value = true := (Bool.and_eq_true_iff.mp hm).1
          obtain rfl | ⟨t, e, rfl⟩ := keepsKey_ident hkeeps
          · exact ⟨Phrase.not_refuses_ident i, rfl⟩
          · refine ⟨fun hv => h (hv.of_piece ?_), rfl⟩
            simp [Phrase.pieces, Phrase.parts, Entry.declaredParts]

theorem Entry.not_refuses_property {names : List String}
    (hm : (Entry.property s key value computed isShort).isMatched = true)
    (hnames : (Entry.property s key value computed isShort).names = .ok names)
    (hkey : computed = true → ¬ (Phrase.expr key).Refuses legacy)
    (hvalue : ¬ (declared value).Refuses legacy) :
    ¬ (declaredEntry (.property s key value computed isShort)).Refuses legacy := by
  cases isShort with
  | false =>
      have htarget := Pattern.isTarget_of_names hnames
      refine Phrase.not_refuses_of_pieces ?_ ?_
      · simp [Phrase.sketch, Entry.declaredSketch, Entry.declaredValue_target s key htarget]
      · simpa [Phrase.pieces, Phrase.parts, Entry.declaredParts, or_imp, forall_and] using
          ⟨hkey, hvalue⟩
  | true =>
      cases key with
      | ident i =>
          have hkeeps : keepsKey (.ident i) value = true := (Bool.and_eq_true_iff.mp hm).1
          obtain rfl | ⟨t, e, rfl⟩ := keepsKey_ident hkeeps
          · refine Phrase.not_refuses_of_pieces ?_ ?_
            · simp [Phrase.sketch, Entry.declaredSketch, Entry.declaredValue]
            · simpa [Phrase.pieces, Phrase.parts, Entry.declaredParts] using hkey
          · refine Phrase.not_refuses_of_pieces ?_ ?_
            · simp [Phrase.sketch, Entry.declaredSketch, Entry.declaredValue]
            · simpa [Phrase.pieces, Phrase.parts, Entry.declaredParts, or_imp, forall_and] using
                ⟨hkey, hvalue⟩
      | _ => cases hnames

end Shorthand

section Walked

variable {legacy : Bool}

mutual

theorem Pattern.binds_eq : ∀ (p : Pattern) (inArray : Bool), p.isMatched = true →
    ¬ (declared p).Refuses legacy → p.binds = (p.seats inArray).map Prod.fst
  | .expr e, _, _, _ => by cases e <;> rfl
  | .default s p e, inArray, hm, h =>
      Pattern.binds_eq p inArray hm fun hp =>
        h (hp.of_piece (by simp [Phrase.pieces, Phrase.parts, Pattern.declaredParts]))
  | .array s ps, _, hm, h => by
      refine Pattern.elementBinds_eq ps hm fun p hp hr => h (hr.of_piece ?_)
      simpa [Phrase.pieces, Phrase.parts, Pattern.declaredParts] using hp
  | .object s es, inArray, hm, h => by
      refine Entry.allBinds_eq es inArray hm fun e he hr => h (hr.of_piece ?_)
      simpa [Phrase.pieces, Phrase.parts, Pattern.declaredParts] using he
  | .rest s p, _, _, h => by
      cases hp : p.isIdent with
      | false => exact absurd ((Phrase.Offends.rest s p hp).refuses legacy) h
      | true =>
          obtain ⟨i, rfl⟩ := Pattern.exists_of_isIdent hp
          rfl

theorem Pattern.elementBinds_eq : ∀ ps : List (Option Pattern), Pattern.elementsMatched ps = true →
    (∀ p, some p ∈ ps → ¬ (declared p).Refuses legacy) →
    Pattern.elementBinds ps = (Pattern.elementSeats ps).map Prod.fst
  | [], _, _ => rfl
  | none :: ps, hm, h => Pattern.elementBinds_eq ps hm fun p hp => h p (List.mem_cons_of_mem _ hp)
  | some p :: ps, hm, h => by
      obtain ⟨hp, hps⟩ := Bool.and_eq_true_iff.mp hm
      rw [Pattern.elementBinds, Pattern.elementSeats, List.map_append,
        Pattern.binds_eq p true hp (h p List.mem_cons_self),
        Pattern.elementBinds_eq ps hps fun q hq => h q (List.mem_cons_of_mem _ hq)]

theorem Entry.binds_eq : ∀ (e : Entry) (inArray : Bool), e.isMatched = true →
    ¬ (declaredEntry e).Refuses legacy → e.binds = (e.seats inArray).map Prod.fst
  | .property s key value computed isShort, inArray, hm, h => by
      obtain ⟨hvalue, hbinds⟩ := Entry.declares_value hm h
      rw [hbinds, Pattern.binds_eq value inArray (Bool.and_eq_true_iff.mp hm).2 hvalue, Entry.seats]
  | .rest s p, _, _, h => by
      cases hp : p.isIdent with
      | false => exact absurd ((Phrase.Offends.restEntry s p hp).refuses legacy) h
      | true =>
          obtain ⟨i, rfl⟩ := Pattern.exists_of_isIdent hp
          rfl

theorem Entry.allBinds_eq : ∀ (es : List Entry) (inArray : Bool), Entry.allMatched es = true →
    (∀ e ∈ es, ¬ (declaredEntry e).Refuses legacy) →
    Entry.allBinds es = (Entry.allSeats inArray es).map Prod.fst
  | [], _, _, _ => rfl
  | e :: es, inArray, hm, h => by
      obtain ⟨he, hes⟩ := Bool.and_eq_true_iff.mp hm
      rw [Entry.allBinds, Entry.allSeats, List.map_append,
        Entry.binds_eq e inArray he (h e List.mem_cons_self),
        Entry.allBinds_eq es inArray hes fun e' he' => h e' (List.mem_cons_of_mem _ he')]

end

end Walked

section Extracted

theorem outside_append (xs ys : List (String × Bool)) : outside (xs ++ ys) = outside xs ++ outside ys := by
  simp [outside]

mutual

theorem Pattern.outside_seats : ∀ p : Pattern, outside (p.seats true) = []
  | .expr e => by cases e <;> rfl
  | .default _ p _ => Pattern.outside_seats p
  | .array _ ps => Pattern.outside_elementSeats ps
  | .object _ es => Entry.outside_allSeats es
  | .rest _ p => Pattern.outside_seats p

theorem Pattern.outside_elementSeats : ∀ ps : List (Option Pattern),
    outside (Pattern.elementSeats ps) = []
  | [] => rfl
  | none :: ps => Pattern.outside_elementSeats ps
  | some p :: ps => by
      rw [Pattern.elementSeats, outside_append, Pattern.outside_seats p,
        Pattern.outside_elementSeats ps, List.append_nil]

theorem Entry.outside_seats : ∀ e : Entry, outside (e.seats true) = []
  | .property _ _ value _ _ => Pattern.outside_seats value
  | .rest _ p => Pattern.outside_seats p

theorem Entry.outside_allSeats : ∀ es : List Entry, outside (Entry.allSeats true es) = []
  | [] => rfl
  | e :: es => by
      rw [Entry.allSeats, outside_append, Entry.outside_seats e, Entry.outside_allSeats es,
        List.append_nil]

end

mutual

theorem Pattern.names_eq : ∀ (p : Pattern) {names : List String}, p.isMatched = true →
    p.names = .ok names → names = outside (p.seats false)
  | .expr e, _, _, h => by
      cases e with
      | ident i =>
          cases h
          rfl
      | _ => cases h
  | .default _ p _, _, hm, h => Pattern.names_eq p hm h
  | .array _ ps, _, _, h => by
      cases h
      exact (Pattern.outside_elementSeats ps).symm
  | .object _ es, _, hm, h => Entry.allNames_eq es hm h

theorem Entry.names_eq : ∀ (e : Entry) {names : List String}, e.isMatched = true →
    e.names = .ok names → names = outside (e.seats false)
  | .property s key value computed isShort, _, hm, h =>
      Pattern.names_eq value (Bool.and_eq_true_iff.mp hm).2 (Entry.names_value hm h)
  | .rest s p, names, _, h => by
      obtain ⟨x, hx, h⟩ := bind_eq_ok.mp h
      cases h
      unfold restName at hx
      split at hx
      · cases hx
        rfl
      · cases hx

theorem Entry.allNames_eq : ∀ (es : List Entry) {names : List String}, Entry.allMatched es = true →
    Entry.allNames es = .ok names → names = outside (Entry.allSeats false es)
  | [], _, _, h => by
      cases h
      rfl
  | e :: es, _, hm, h => by
      obtain ⟨he, hes⟩ := Bool.and_eq_true_iff.mp hm
      obtain ⟨xs, hxs, h⟩ := bind_eq_ok.mp h
      obtain ⟨ys, hys, h⟩ := bind_eq_ok.mp h
      cases h
      rw [Entry.allSeats, outside_append, ← Entry.names_eq e he hxs, ← Entry.allNames_eq es hes hys]

end

end Extracted

section Accepted

variable {legacy : Bool}

mutual

theorem Pattern.not_refuses : ∀ (p : Pattern) {names : List String}, p.isMatched = true →
    p.names = .ok names → p.hasArray = false → (∀ e ∈ p.values, ¬ (Phrase.expr e).Refuses legacy) →
    ¬ (declared p).Refuses legacy
  | .expr e, _, _, h, _, _ => by
      cases e with
      | ident i => exact Phrase.not_refuses_ident i
      | _ => cases h
  | .default s p e, _, hm, h, ha, hv => by
      have hp := Pattern.not_refuses p hm h ha fun e he => hv e (List.mem_append_left _ he)
      have he := hv e (List.mem_append_right _ List.mem_cons_self)
      refine Phrase.not_refuses_of_pieces (by simp [Phrase.sketch, Pattern.declaredSketch]) ?_
      simpa [Phrase.pieces, Phrase.parts, Pattern.declaredParts] using ⟨hp, he⟩
  | .object s es, _, hm, h, ha, hv => by
      have hes := Entry.all_not_refuses es hm h ha hv
      refine Phrase.not_refuses_of_pieces (by simp [Phrase.sketch, Pattern.declaredSketch]) ?_
      simpa [Phrase.pieces, Phrase.parts, Pattern.declaredParts] using hes

theorem Entry.not_refuses : ∀ (e : Entry) {names : List String}, e.isMatched = true →
    e.names = .ok names → e.hasArray = false → (∀ x ∈ e.values, ¬ (Phrase.expr x).Refuses legacy) →
    ¬ (declaredEntry e).Refuses legacy
  | .property s key value computed isShort, _, hm, h, ha, hv => by
      refine Entry.not_refuses_property hm h ?_ ?_
      · rintro rfl
        exact hv key (List.mem_append_left _ List.mem_cons_self)
      · exact Pattern.not_refuses value (Bool.and_eq_true_iff.mp hm).2 (Entry.names_value hm h) ha
          fun e he => hv e (List.mem_append_right _ he)
  | .rest s p, _, _, h, _, _ => by
      obtain ⟨x, hx, _⟩ := bind_eq_ok.mp h
      unfold restName at hx
      split at hx
      · rintro ⟨r, hr⟩
        cases hr
      · cases hx

theorem Entry.all_not_refuses : ∀ (es : List Entry) {names : List String}, Entry.allMatched es = true →
    Entry.allNames es = .ok names → Entry.anyArray es = false →
    (∀ x ∈ Entry.allValues es, ¬ (Phrase.expr x).Refuses legacy) →
    ∀ e ∈ es, ¬ (declaredEntry e).Refuses legacy
  | [], _, _, _, _, _ => List.forall_mem_nil _
  | e :: es, _, hm, h, ha, hv => by
      obtain ⟨he, hes⟩ := Bool.and_eq_true_iff.mp hm
      obtain ⟨hea, hesa⟩ := Bool.or_eq_false_iff.mp ha
      obtain ⟨xs, hxs, h⟩ := bind_eq_ok.mp h
      obtain ⟨ys, hys, _⟩ := bind_eq_ok.mp h
      refine List.forall_mem_cons.mpr ⟨?_, ?_⟩
      · exact Entry.not_refuses e he hxs hea fun x hx => hv x (List.mem_append_left _ hx)
      · exact Entry.all_not_refuses es hes hys hesa fun x hx => hv x (List.mem_append_right _ hx)

end

end Accepted

section Lifted

theorem Entry.keepsKey_of_tidy {key : Expr} {value : Pattern} (h : ∀ i, key = .ident i →
    value = .expr (.ident i) ∨ ∃ t e, value = .default t (.expr (.ident i)) e) :
    keepsKey key value = true := by
  cases key with
  | ident i => obtain rfl | ⟨t, e, rfl⟩ := h i rfl <;> simp [keepsKey]
  | _ => rfl

mutual

theorem Pattern.isMatched_of_tidy : ∀ p : Pattern, (declared p).AllTidy → p.isMatched = true
  | .expr _, _ => rfl
  | .default _ p _, h => Pattern.isMatched_of_tidy p ((Phrase.allTidy_iff.mp h).2 _ (by simp))
  | .array _ ps, h =>
      Pattern.elementsMatched_of_tidy ps fun p hp => (Phrase.allTidy_iff.mp h).2 _ (by simpa using hp)
  | .object _ es, h =>
      Entry.allMatched_of_tidy es fun e he => (Phrase.allTidy_iff.mp h).2 _ (by simpa using he)
  | .rest _ p, h => Pattern.isMatched_of_tidy p ((Phrase.allTidy_iff.mp h).2 _ (by simp))

theorem Pattern.elementsMatched_of_tidy : ∀ ps : List (Option Pattern),
    (∀ p, some p ∈ ps → (declared p).AllTidy) → Pattern.elementsMatched ps = true
  | [], _ => rfl
  | none :: ps, h => Pattern.elementsMatched_of_tidy ps fun p hp => h p (List.mem_cons_of_mem _ hp)
  | some p :: ps, h =>
      Bool.and_eq_true_iff.mpr ⟨Pattern.isMatched_of_tidy p (h p List.mem_cons_self),
        Pattern.elementsMatched_of_tidy ps fun q hq => h q (List.mem_cons_of_mem _ hq)⟩

theorem Entry.isMatched_of_tidy : ∀ e : Entry, (declaredEntry e).AllTidy → e.isMatched = true
  | .property _ _ value _ isShort, h => by
      obtain ⟨hself, hinside⟩ := Phrase.allTidy_iff.mp h
      refine Bool.and_eq_true_iff.mpr ⟨?_, Pattern.isMatched_of_tidy value (hinside _ (by simp))⟩
      cases isShort with
      | false => rfl
      | true => exact Entry.keepsKey_of_tidy hself
  | .rest _ p, h => Pattern.isMatched_of_tidy p ((Phrase.allTidy_iff.mp h).2 _ (by simp))

theorem Entry.allMatched_of_tidy : ∀ es : List Entry, (∀ e ∈ es, (declaredEntry e).AllTidy) →
    Entry.allMatched es = true
  | [], _ => rfl
  | e :: es, h =>
      Bool.and_eq_true_iff.mpr ⟨Entry.isMatched_of_tidy e (h e List.mem_cons_self),
        Entry.allMatched_of_tidy es fun e' he' => h e' (List.mem_cons_of_mem _ he')⟩

end

end Lifted

theorem Pattern.names_of_declaredNames {p : Pattern} {code : Text} {names : List String}
    (h : p.declaredNames false code = .ok names) (hmember : p.isMember = false) : p.names = .ok names := by
  cases p with
  | expr e =>
      cases e with
      | ident i => exact h
      | member s o k computed optional => cases hmember
      | _ => cases h
  | array s ps => exact h
  | object s es => exact h
  | default s p e => cases h
  | rest s p => cases h

theorem Pattern.extraction_agrees (legacy : Bool) (code : Text) :
    (∀ source t script x p, readScript source t = .ok script → x ∈ script.body →
      (Phrase.stmt x).Includes (declared p) → p.isMatched = true) ∧
    ∀ (p : Pattern) (names : List String), p.isMatched = true → p.declaredNames false code = .ok names →
      (∀ s s', (Item.walks s (p.declare legacy)).outcome = .ok s' →
        Item.allHides (p.declare legacy) = (p.seats false).map Prod.fst ∧
          s' = s.hide ((p.seats false).map Prod.fst) ∧ names = outside (p.seats false)) ∧
      (p.isMember = false → p.hasArray = false →
        (∀ e ∈ p.values, ∃ ns s, (e.walk legacy ns).outcome = .ok s) →
        ∀ s, ∃ s', (Item.walks s (p.declare legacy)).outcome = .ok s') := by
  refine ⟨?_, ?_⟩
  · intro source t script x p hread hx hp
    have htidy := Stmt.tidy hread hx
    exact Pattern.isMatched_of_tidy p fun q hq => htidy q (hp.trans hq)
  intro p names hm hnames
  refine ⟨?_, ?_⟩
  · intro s s' hwalk
    have hfine : ¬ (declared p).Refuses legacy := (Phrase.exists_walk_iff s).mp ⟨s', hwalk⟩
    have hmember : p.isMember = false := by
      cases p with
      | expr e =>
          rw [← Bool.not_eq_true]
          exact fun he => hfine ((Phrase.Offends.memberTarget e he).refuses legacy)
      | _ => rfl
    have hbinds := Pattern.binds_eq p false hm hfine
    refine ⟨?_, ?_, ?_⟩
    · rw [Pattern.allHides_declare, hbinds]
    · rw [(Item.walks_free s _ hwalk).2, Pattern.allHides_declare, hbinds]
    · exact Pattern.names_eq p hm (Pattern.names_of_declaredNames hnames hmember)
  · intro hmember harray hvalues s
    have hnames := Pattern.names_of_declaredNames hnames hmember
    refine (Phrase.exists_walk_iff (p := declared p) s).mpr (Pattern.not_refuses p hm hnames harray ?_)
    intro e he
    obtain ⟨ns, s', hs'⟩ := hvalues e he
    exact (Phrase.exists_walk_iff (p := .expr e) (Scope.ofNames ns)).mp ⟨s', hs'⟩

namespace Sample

def patternName (start stop : Int) (name : String) : Ident := ⟨⟨start, stop, 1, start⟩, name⟩

def patternCode : Text := "\x7be: [f], a, [k]: c, d = 1, ...r\x7d".toList

def arrayEntry : Entry :=
  .property ⟨1, 7, 1, 1⟩ (.ident (patternName 1 2 "e"))
    (.array ⟨4, 7, 1, 4⟩ [some (.expr (.ident (patternName 5 6 "f")))]) false false

/-- All entries of the pattern but the one with an array. -/
def flatEntries : List Entry :=
  [.property ⟨9, 10, 1, 9⟩ (.ident (patternName 9 10 "a")) (.expr (.ident (patternName 9 10 "a")))
    false true,
  .property ⟨12, 18, 1, 12⟩ (.ident (patternName 13 14 "k")) (.expr (.ident (patternName 17 18 "c")))
    true false,
  .property ⟨20, 25, 1, 20⟩ (.ident (patternName 20 21 "d"))
    (.default ⟨20, 25, 1, 20⟩ (.expr (.ident (patternName 20 21 "d")))
      (.literal ⟨24, 25, 1, 24⟩ "number" "1")) false true,
  .rest ⟨27, 31, 1, 27⟩ (.expr (.ident (patternName 30 31 "r")))]

def flatPattern : Pattern := .object ⟨0, 32, 1, 0⟩ flatEntries

def arrayPattern : Pattern := .object ⟨0, 32, 1, 0⟩ (arrayEntry :: flatEntries)

end Sample

theorem sample_extraction_agrees :
    Sample.arrayPattern.isMatched = true ∧
    Sample.arrayPattern.declaredNames false Sample.patternCode = .ok ["a", "c", "d", "r"] ∧
    (∃ s', (Item.walks (.ofNames ["k"]) (Sample.arrayPattern.declare false)).outcome = .ok s' ∧
      Item.allHides (Sample.arrayPattern.declare false) = ["f", "a", "c", "d", "r"] ∧
      s' = (Scope.ofNames ["k"]).hide ["f", "a", "c", "d", "r"] ∧
      ["a", "c", "d", "r"] = outside (Sample.arrayPattern.seats false)) ∧
    Sample.flatPattern.isMatched = true ∧
    Sample.flatPattern.declaredNames false Sample.patternCode = .ok ["a", "c", "d", "r"] ∧
    Sample.flatPattern.isMember = false ∧ Sample.flatPattern.hasArray = false ∧
    (∀ e ∈ Sample.flatPattern.values, ∃ ns s, (e.walk false ns).outcome = .ok s) ∧
    ∀ s, ∃ s', (Item.walks s (Sample.flatPattern.declare false)).outcome = .ok s' := by
  have hagrees := (Pattern.extraction_agrees false Sample.patternCode).2
  have hnames : Sample.arrayPattern.declaredNames false Sample.patternCode =
      .ok ["a", "c", "d", "r"] := rfl
  have hflat : Sample.flatPattern.declaredNames false Sample.patternCode =
      .ok ["a", "c", "d", "r"] := rfl
  have hvalues : ∀ e ∈ Sample.flatPattern.values, ∃ ns s, (e.walk false ns).outcome = .ok s :=
    List.forall_mem_cons.mpr ⟨⟨[], _, rfl⟩, List.forall_mem_singleton.mpr ⟨[], _, rfl⟩⟩
  have hmatched : Sample.arrayPattern.isMatched = true := by decide
  obtain ⟨hhides, hscope, hshared⟩ := (hagrees _ _ hmatched hnames).1 (.ofNames ["k"]) _ rfl
  refine ⟨hmatched, hnames, ⟨_, rfl, hhides, hscope, hshared⟩, by decide, hflat, rfl, rfl, hvalues, ?_⟩
  exact (hagrees _ _ (by decide) hflat).2 rfl rfl hvalues

end ScriptSplit
