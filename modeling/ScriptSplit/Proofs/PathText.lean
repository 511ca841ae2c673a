import ScriptSplit.Path

/-!
The text of a path reads back as that path if its names are names: not empty, not a single dot, and
without a slash. Whatever is read from a text is such a path.
-/

namespace ScriptSplit.Path

structure IsName (name : String) : Prop where
  nonempty : name ≠ ""
  notDot : name ≠ "."
  whole : '/' ∉ name.toList

def Plain (p : Path) : Prop := ∀ name ∈ p.parts, IsName name

theorem names_ne_nil (cs : List Char) : names cs ≠ [] := by
  cases cs with
  | nil => simp [names]
  | cons c cs =>
      simp only [names]
      split
      · simp
      · split <;> simp

theorem not_mem_of_mem_names {cs n : List Char} (h : n ∈ names cs) : '/' ∉ n := by
  induction cs generalizing n with
  | nil =>
      obtain rfl : n = [] := by simpa [names] using h
      simp
  | cons c cs ih =>
      simp only [names] at h
      split at h
      · rcases List.mem_cons.mp h with rfl | h
        · simp
        · exact ih h
      · rename_i hc
        split at h
        · rename_i hnil
          exact absurd hnil (names_ne_nil cs)
        · rename_i m ns hns
          rw [hns] at ih
          rcases List.mem_cons.mp h with rfl | h
          · simpa [Ne.symm hc] using ih List.mem_cons_self
          · exact ih (List.mem_cons_of_mem m h)

theorem names_of_not_mem {n : List Char} (h : '/' ∉ n) : names n = [n] := by
  induction n with
  | nil => rfl
  | cons c cs ih =>
      obtain ⟨hc, hcs⟩ : '/' ≠ c ∧ '/' ∉ cs := by simpa using h
      simp [names, Ne.symm hc, ih hcs]

theorem names_append {n : List Char} (h : '/' ∉ n) (cs : List Char) :
    names (n ++ '/' :: cs) = n :: names cs := by
  induction n with
  | nil => simp [names]
  | cons c n ih =>
      obtain ⟨hc, hn⟩ : '/' ≠ c ∧ '/' ∉ n := by simpa using h
      simp [names, Ne.symm hc, ih hn]

theorem plain_ofString (s : String) : (ofString s).Plain := by
  intro name hname
  obtain ⟨n, hn, rfl⟩ := List.mem_map.mp hname
  obtain ⟨hmem, hcounts⟩ := List.mem_filter.mp hn
  obtain ⟨hempty, hdot⟩ : n ≠ [] ∧ n ≠ ['.'] := by simpa using hcounts
  refine ⟨fun h => hempty ?_, fun h => hdot ?_, ?_⟩
  · simpa using congrArg String.toList h
  · simpa using congrArg String.toList h
  · simpa using not_mem_of_mem_names hmem

section

variable {parts : List String}

theorem names_intercalate (hparts : parts ≠ []) (h : ∀ name ∈ parts, IsName name) :
    names ("/".intercalate parts).toList = parts.map String.toList := by
  induction parts with
  | nil => exact absurd rfl hparts
  | cons name rest ih =>
      have hname := (h name List.mem_cons_self).whole
      cases rest with
      | nil => simp [names_of_not_mem hname]
      | cons next rest =>
          have hrest := ih (by simp) fun name hname => h name (List.mem_cons_of_mem _ hname)
          have htext : ("/".intercalate (name :: next :: rest)).toList =
              name.toList ++ '/' :: ("/".intercalate (next :: rest)).toList := by
            rw [String.intercalate_cons_cons]
            simp
          rw [htext, names_append hname, hrest]
          rfl

theorem filter_names (h : ∀ name ∈ parts, IsName name) :
    ((parts.map String.toList).filter fun n => n != [] && n != ['.']).map String.ofList = parts := by
  have hall : (parts.map String.toList).filter (fun n => n != [] && n != ['.']) =
      parts.map String.toList := by
    refine List.filter_eq_self.mpr fun n hn => ?_
    obtain ⟨name, hname, rfl⟩ := List.mem_map.mp hn
    obtain ⟨hempty, hdot, _⟩ := h name hname
    have hempty' : name.toList ≠ [] := fun h => hempty (String.toList_inj.mp h)
    have hdot' : name.toList ≠ ['.'] := fun h => hdot (String.toList_inj.mp h)
    simp [hempty', hdot']
  rw [hall, List.map_map]
  simp [Function.comp_def]

theorem exists_first (hparts : parts ≠ []) (h : ∀ name ∈ parts, IsName name) :
    ∃ c cs, ("/".intercalate parts).toList = c :: cs ∧ c ≠ '/' := by
  cases parts with
  | nil => exact absurd rfl hparts
  | cons name rest =>
      obtain ⟨hempty, _, hwhole⟩ := h name List.mem_cons_self
      obtain ⟨c, cs, hc⟩ := List.exists_cons_of_ne_nil fun h => hempty (String.toList_inj.mp h)
      have hslash : c ≠ '/' := by
        rintro rfl
        exact hwhole (hc ▸ List.mem_cons_self)
      cases rest with
      | nil => exact ⟨c, cs, by simpa using hc, hslash⟩
      | cons next rest =>
          refine ⟨c, cs ++ '/' :: ("/".intercalate (next :: rest)).toList, ?_, hslash⟩
          rw [String.intercalate_cons_cons, String.toList_append, String.toList_append, hc]
          simp

theorem rootOf_text (root : Root) (hparts : parts ≠ []) (h : ∀ name ∈ parts, IsName name) :
    rootOf (root.text.toList ++ ("/".intercalate parts).toList) = root := by
  obtain ⟨c, cs, htext, hc⟩ := exists_first hparts h
  rw [htext]
  cases root <;> simp [Root.text, rootOf, hc]

theorem names_root (root : Root) (cs : List Char) :
    (names (root.text.toList ++ cs)).filter (fun n => n != [] && n != ['.']) =
      (names cs).filter fun n => n != [] && n != ['.'] := by
  cases root <;> simp [Root.text, names]

end

theorem ofString_text {p : Path} (h : p.Plain) : ofString p.text = p := by
  obtain ⟨root, parts⟩ := p
  by_cases hparts : parts = []
  · subst hparts
    cases root <;> decide
  · have htext : text ⟨root, parts⟩ = root.text ++ "/".intercalate parts := by simp [text, hparts]
    rw [htext, ofString, String.toList_append, rootOf_text root hparts h, names_root,
      names_intercalate hparts h, filter_names h]

theorem Plain.join {dir p : Path} (hdir : dir.Plain) (hp : p.Plain) : (dir.join p).Plain := by
  unfold Path.join
  split
  · exact hp
  · intro name hname
    exact (List.mem_append.mp hname).elim (hdir name) (hp name)

theorem mem_of_mem_climb {up parts : List String} {name : String} (h : name ∈ climb up parts) :
    name ∈ up ∨ name ∈ parts := by
  fun_induction climb up parts with
  | case1 up => exact .inl (List.mem_reverse.mp h)
  | case2 up parts ih => exact (ih h).imp List.mem_of_mem_tail (List.mem_cons_of_mem _)
  | case3 up p parts _ ih =>
      rcases ih h with hup | hparts
      · rcases List.mem_cons.mp hup with rfl | hup
        · exact .inr List.mem_cons_self
        · exact .inl hup
      · exact .inr (List.mem_cons_of_mem _ hparts)

theorem Plain.resolve {cwd p : Path} (hcwd : cwd.Plain) (hp : p.Plain) : (cwd.resolve p).Plain := by
  intro name hname
  rcases mem_of_mem_climb hname with hnil | hparts
  · cases hnil
  · exact hcwd.join hp name hparts

end ScriptSplit.Path
