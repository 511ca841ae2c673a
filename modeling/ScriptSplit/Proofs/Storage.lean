import Mathlib.Data.List.Forall2
import ScriptSplit.Files
import ScriptSplit.Proofs.Outcome

namespace ScriptSplit.FileSystem

def look (fs : FileSystem) (p : Path) : Option Object := (fs.find p).toOption

def Leads (fs : FileSystem) (q : List String) (name : String) (r : List String) : Prop :=
  checkLength nameLimit name = .ok () ∧
    (name = ".." ∧ r = q.dropLast ∨ name ≠ ".." ∧ r = q ++ [name] ∧ fs.object? r = some .directory)

def Reaches (fs : FileSystem) (p : Path) (r : List String) : Prop :=
  ∃ names, names <+: p.parts ∧ fs.follow (fs.base p) names = .ok r

def Standing (fs : FileSystem) : Prop := ∀ q, q <+: fs.working → fs.object? q = some .directory

/-- Files may have been put at some places or taken from them; elsewhere directories may have been
made, and all else is as it was. -/
structure Differs (places : List (List String)) (fs fs' : FileSystem) : Prop where
  working : fs'.working = fs.working
  apart : ∀ q, q ∉ places →
    fs'.object? q = fs.object? q ∨ fs.object? q = none ∧ fs'.object? q = some .directory
  places : ∀ q ∈ places, fs.object? q ≠ some .directory ∧ fs'.object? q ≠ some .directory

section

variable {fs fs' : FileSystem} {p : Path} {q r : List String} {o : Object}

theorem look_of_place (h : fs.place p = .ok q) : fs.look p = fs.object? q := by
  unfold look find
  rw [h]
  cases ho : fs.object? q with
  | none => simp [bind, Except.bind, ho, Except.toOption, throw, throwThe, MonadExceptOf.throw]
  | some o => simp [bind, Except.bind, ho, Except.toOption, pure, Except.pure]

theorem look_of_error {fault : FileFault} (h : fs.place p = .error fault) : fs.look p = none := by
  unfold look find
  rw [h]
  rfl

theorem place_of_look (h : fs.look p = some o) : ∃ q, fs.place p = .ok q ∧ fs.object? q = some o := by
  cases hq : fs.place p with
  | error fault =>
      rw [look_of_error hq] at h
      cases h
  | ok q => exact ⟨q, rfl, (look_of_place hq).symm.trans h⟩

theorem ne_nil_of_object? (h : fs.object? q ≠ some .directory) : q ≠ [] := by
  rintro rfl
  exact h rfl

theorem find?_others (objects : List (List String × Object)) :
    (objects.filter fun x => x.1 != q).find? (fun x => x.1 == r) =
      if r = q then none else objects.find? fun x => x.1 == r := by
  induction objects with
  | nil => simp
  | cons x objects ih =>
      by_cases hx : x.1 = q
      · rw [List.filter_cons_of_neg (by simpa using hx), ih]
        split
        · rfl
        · rename_i hr
          rw [List.find?_cons_of_neg (by simpa [hx] using Ne.symm hr)]
      · rw [List.filter_cons_of_pos (by simpa using hx)]
        by_cases hr : x.1 = r
        · have hne : r ≠ q := fun h => hx (hr.trans h)
          rw [List.find?_cons_of_pos (by simpa using hr), if_neg hne,
            List.find?_cons_of_pos (by simpa using hr)]
        · rw [List.find?_cons_of_neg (by simpa using hr), ih, List.find?_cons_of_neg (by simpa using hr)]

theorem object?_put (hq : q ≠ []) : (fs.put q o).object? r = if r = q then some o else fs.object? r := by
  simp only [object?, put, List.find?_append, find?_others]
  by_cases hr : r = q
  · subst hr
    simp [hq]
  · simp [hr, Ne.symm hr]

theorem object?_erase (hq : q ≠ []) :
    (fs.erase q).object? r = if r = q then none else fs.object? r := by
  simp only [object?, erase, find?_others]
  by_cases hr : r = q
  · subst hr
    simp [hq]
  · simp [hr]

theorem follow_cons_eq_ok {name : String} {names : List String} {s : List String} :
    fs.follow q (name :: names) = .ok s ↔ ∃ r, fs.Leads q name r ∧ fs.follow r names = .ok s := by
  rw [follow, bind_eq_ok]
  constructor
  · rintro ⟨_, hlength, h⟩
    split at h
    · exact ⟨q.dropLast, ⟨hlength, .inl ⟨‹_›, rfl⟩⟩, h⟩
    · split at h
      · exact ⟨q ++ [name], ⟨hlength, .inr ⟨‹_›, rfl, ‹_›⟩⟩, h⟩
      · cases h
      · cases h
  · rintro ⟨r, ⟨hlength, ⟨hup, rfl⟩ | ⟨hdown, rfl, hr⟩⟩, h⟩
    · exact ⟨(), hlength, by rwa [if_pos hup]⟩
    · refine ⟨(), hlength, ?_⟩
      rw [if_neg hdown, hr]
      exact h

theorem follow_append {xs ys : List String} :
    fs.follow q (xs ++ ys) = .ok r ↔ ∃ s, fs.follow q xs = .ok s ∧ fs.follow s ys = .ok r := by
  induction xs generalizing q with
  | nil => simp [follow]
  | cons x xs ih =>
      simp only [List.cons_append, follow_cons_eq_ok, ih]
      constructor
      · rintro ⟨s, hs, t, ht, h⟩
        exact ⟨t, ⟨s, hs, ht⟩, h⟩
      · rintro ⟨t, ⟨s, hs, ht⟩, h⟩
        exact ⟨s, hs, t, ht, h⟩

theorem place_eq_ok : fs.place p = .ok q ↔ checkLength pathLimit p.text = .ok () ∧
    (p.parts = [] ∧ q = fs.base p ∨
      ∃ names last dir, p.parts = names ++ [last] ∧ fs.follow (fs.base p) names = .ok dir ∧
        checkLength nameLimit last = .ok () ∧ q = if last = ".." then dir.dropLast else dir ++ [last]) := by
  rw [place, bind_eq_ok]
  constructor
  · rintro ⟨_, hlength, h⟩
    refine ⟨hlength, ?_⟩
    split at h
    · rename_i hnone
      exact .inl ⟨List.getLast?_eq_none_iff.mp hnone, (Except.ok.inj h).symm⟩
    · rename_i last hlast
      obtain ⟨dir, hdir, h⟩ := bind_eq_ok.mp h
      obtain ⟨_, hname, h⟩ := bind_eq_ok.mp h
      obtain ⟨names, hparts⟩ := List.getLast?_eq_some_iff.mp hlast
      rw [hparts, List.dropLast_concat] at hdir
      exact .inr ⟨names, last, dir, hparts, hdir, hname, (Except.ok.inj h).symm⟩
  · rintro ⟨hlength, ⟨hnone, rfl⟩ | ⟨names, last, dir, hparts, hdir, hname, rfl⟩⟩
    · refine ⟨(), hlength, ?_⟩
      rw [hnone]
      rfl
    · refine ⟨(), hlength, ?_⟩
      rw [hparts, List.getLast?_concat, List.dropLast_concat]
      simp only [hdir, hname]
      rfl

theorem reaches_of_place (h : fs.place p = .ok q) (hq : fs.object? q = some .directory) :
    fs.Reaches p q := by
  refine ⟨p.parts, List.prefix_rfl, ?_⟩
  obtain ⟨_, ⟨hnone, rfl⟩ | ⟨names, last, dir, hparts, hdir, hname, rfl⟩⟩ := place_eq_ok.mp h
  · rw [hnone, follow]
  · rw [hparts, follow_append]
    refine ⟨dir, hdir, follow_cons_eq_ok.mpr ⟨_, ⟨hname, ?_⟩, rfl⟩⟩
    by_cases hup : last = ".."
    · exact .inl ⟨hup, if_pos hup⟩
    · rw [if_neg hup] at hq ⊢
      exact .inr ⟨hup, rfl, hq⟩

end

section

variable {places : List (List String)} {fs fs' fs'' : FileSystem} {p : Path} {q r : List String}

namespace Differs

theorem refl (fs : FileSystem) : Differs [] fs fs where
  working := rfl
  apart := fun _ _ => .inl rfl
  places := by simp

theorem directory (h : Differs places fs fs') (hq : fs.object? q = some .directory) :
    fs'.object? q = some .directory := by
  have hmem : q ∉ places := fun hmem => (h.places q hmem).1 hq
  rcases h.apart q hmem with hsame | ⟨hnone, _⟩
  · rw [hsame, hq]
  · rw [hq] at hnone
    cases hnone

theorem made (h : Differs places fs fs') (hq : fs.object? q ≠ some .directory)
    (hq' : fs'.object? q = some .directory) : fs.object? q = none := by
  have hmem : q ∉ places := fun hmem => (h.places q hmem).2 hq'
  rcases h.apart q hmem with hsame | ⟨hnone, _⟩
  · exact absurd (hsame.symm.trans hq') hq
  · exact hnone

theorem base (h : Differs places fs fs') : fs'.base p = fs.base p := by
  unfold FileSystem.base
  rw [h.working]

theorem follow (h : Differs places fs fs') {names : List String} (hr : fs.follow q names = .ok r) :
    fs'.follow q names = .ok r := by
  induction names generalizing q with
  | nil => exact hr
  | cons name names ih =>
      obtain ⟨s, ⟨hlength, hs⟩, hr⟩ := follow_cons_eq_ok.mp hr
      refine follow_cons_eq_ok.mpr ⟨s, ⟨hlength, ?_⟩, ih hr⟩
      rcases hs with hup | ⟨hdown, hs, hdir⟩
      · exact .inl hup
      · exact .inr ⟨hdown, hs, h.directory hdir⟩

theorem place (h : Differs places fs fs') (hq : fs.place p = .ok q) : fs'.place p = .ok q := by
  obtain ⟨hlength, hq⟩ := place_eq_ok.mp hq
  refine place_eq_ok.mpr ⟨hlength, ?_⟩
  rw [h.base]
  rcases hq with hq | ⟨names, last, dir, hparts, hdir, hq⟩
  · exact .inl hq
  · exact .inr ⟨names, last, dir, hparts, h.follow hdir, hq⟩

theorem follow_made (h : Differs places fs fs') {names : List String} (hr' : fs'.follow q names = .ok r)
    (hr : fs.follow q names ≠ .ok r) :
    ∃ names' s, names' <+: names ∧ fs'.follow q names' = .ok s ∧ fs.object? s = none ∧
      fs'.object? s = some .directory := by
  induction names generalizing q with
  | nil => exact absurd hr' hr
  | cons name names ih =>
      obtain ⟨s, hs, hrest⟩ := follow_cons_eq_ok.mp hr'
      -- the first name that led nowhere before is where a directory has been made
      by_cases hleads : fs.Leads q name s
      · have hrest' : fs.follow s names ≠ .ok r := fun hrest' =>
          hr (follow_cons_eq_ok.mpr ⟨s, hleads, hrest'⟩)
        obtain ⟨names', t, hnames, ht, hmade⟩ := ih hrest hrest'
        exact ⟨name :: names', t, List.cons_prefix_cons.mpr ⟨rfl, hnames⟩,
          follow_cons_eq_ok.mpr ⟨s, hs, ht⟩, hmade⟩
      · obtain ⟨hlength, hup | ⟨hdown, rfl, hdir⟩⟩ := hs
        · exact absurd ⟨hlength, .inl hup⟩ hleads
        · have hnot : fs.object? (q ++ [name]) ≠ some .directory := fun hnot =>
            hleads ⟨hlength, .inr ⟨hdown, rfl, hnot⟩⟩
          exact ⟨[name], q ++ [name], List.cons_prefix_cons.mpr ⟨rfl, List.nil_prefix⟩,
            follow_cons_eq_ok.mpr ⟨_, ⟨hlength, .inr ⟨hdown, rfl, hdir⟩⟩, rfl⟩, h.made hnot hdir, hdir⟩

theorem place_made (h : Differs places fs fs') (hq' : fs'.place p = .ok q) (hq : fs.place p ≠ .ok q) :
    ∃ r, fs'.Reaches p r ∧ fs.object? r = none ∧ fs'.object? r = some .directory := by
  obtain ⟨hlength, ⟨hnone, rfl⟩ | ⟨names, last, dir, hparts, hdir, hlast⟩⟩ := place_eq_ok.mp hq'
  · exact absurd (place_eq_ok.mpr ⟨hlength, .inl ⟨hnone, h.base⟩⟩) hq
  · have hnot : fs.follow (fs'.base p) names ≠ .ok dir := by
      intro hdir
      rw [h.base] at hdir
      exact hq (place_eq_ok.mpr ⟨hlength, .inr ⟨names, last, dir, hparts, hdir, hlast⟩⟩)
    obtain ⟨names', r, hnames, hr, hmade⟩ := h.follow_made hdir hnot
    refine ⟨r, ⟨names', hnames.trans ?_, hr⟩, hmade⟩
    rw [hparts]
    exact List.prefix_append names [last]

theorem trans {others : List (List String)} (h : Differs places fs fs')
    (hplaces : ∀ q ∈ places, fs'.object? q ≠ none) (h' : Differs others fs' fs'') :
    Differs (places ++ others) fs fs'' where
  working := h'.working.trans h.working
  apart := by
    intro q hq
    obtain ⟨hq, hq'⟩ : q ∉ places ∧ q ∉ others := by simpa using hq
    rcases h'.apart q hq' with hsame | ⟨hnone, hdir⟩
    · rw [hsame]
      exact h.apart q hq
    · rcases h.apart q hq with hsame | ⟨_, hdir'⟩
      · exact .inr ⟨hsame ▸ hnone, hdir⟩
      · rw [hdir'] at hnone
        cases hnone
  places := by
    intro q hq
    by_cases hq' : q ∈ others
    · exact ⟨fun hdir => (h'.places q hq').1 (h.directory hdir), (h'.places q hq').2⟩
    · have hq : q ∈ places := (List.mem_append.mp hq).resolve_right hq'
      refine ⟨(h.places q hq).1, ?_⟩
      rcases h'.apart q hq' with hsame | ⟨hnone, _⟩
      · rw [hsame]
        exact (h.places q hq).2
      · exact absurd hnone (hplaces q hq)

theorem file (h : Differs places fs fs') (hq : q ∉ places) {bytes : Text.Bytes}
    (hfile : fs.object? q = some (.file bytes)) : fs'.object? q = some (.file bytes) := by
  rcases h.apart q hq with hsame | ⟨hnone, _⟩
  · rw [hsame, hfile]
  · rw [hfile] at hnone
    cases hnone

end Differs

theorem put_differs (hq : fs.object? q ≠ some .directory) (bytes : Text.Bytes) :
    Differs [q] fs (fs.put q (.file bytes)) where
  working := rfl
  apart := by
    intro r hr
    rw [object?_put (ne_nil_of_object? hq), if_neg (by simpa using hr)]
    exact .inl rfl
  places := by
    intro r hr
    obtain rfl := List.mem_singleton.mp hr
    exact ⟨hq, by simp [object?_put (ne_nil_of_object? hq)]⟩

theorem erase_differs (hq : fs.object? q ≠ some .directory) : Differs [q] fs (fs.erase q) where
  working := rfl
  apart := by
    intro r hr
    rw [object?_erase (ne_nil_of_object? hq), if_neg (by simpa using hr)]
    exact .inl rfl
  places := by
    intro r hr
    obtain rfl := List.mem_singleton.mp hr
    exact ⟨hq, by simp [object?_erase (ne_nil_of_object? hq)]⟩

theorem makeDirectory_differs (h : fs.makeDirectory p = .ok fs') : Differs [] fs fs' := by
  obtain ⟨q, _, h⟩ := bind_eq_ok.mp h
  split at h
  · cases h
  · rename_i hnone
    cases h
    have hq : q ≠ [] := by
      rintro rfl
      cases hnone
    refine ⟨rfl, fun r _ => ?_, by simp⟩
    rw [object?_put hq]
    split
    · rename_i hr
      exact .inr ⟨hr ▸ hnone, rfl⟩
    · exact .inl rfl

theorem ensureDirectory_differs : Differs [] fs (fs.ensureDirectory p).1 := by
  unfold ensureDirectory
  split
  · exact makeDirectory_differs ‹_›
  · exact .refl fs
  · exact .refl fs

theorem ensureDirectories_differs (root : Path.Root) (names : List String) :
    Differs [] fs (fs.ensureDirectories root names).1 := by
  induction names with
  | nil => exact ensureDirectory_differs
  | cons name names ih =>
      rw [ensureDirectories]
      split
      · cases hrest : fs.ensureDirectories root names with
        | mk fs' result =>
            rw [hrest] at ih
            cases result with
            | error e => exact ih
            | ok _ => exact ih.trans (by simp) ensureDirectory_differs
      · exact ensureDirectory_differs

theorem makeDirectories_differs : Differs [] fs (fs.makeDirectories p).1 :=
  ensureDirectories_differs p.root p.parts.reverse

theorem openNew_eq_ok (h : fs.openNew p = (fs', .ok ())) :
    ∃ q, fs.place p = .ok q ∧ fs.object? q ≠ some .directory ∧ fs' = fs.put q (.file []) := by
  unfold openNew at h
  split at h
  · cases h
  · rename_i q hq
    split at h
    · cases h
    · rename_i hdir
      cases h
      exact ⟨q, hq, hdir, rfl⟩

theorem openNew_eq_error {e : FileError} (h : fs.openNew p = (fs', .error e)) : fs' = fs := by
  unfold openNew at h
  split at h
  · cases h
    rfl
  · split at h
    · cases h
      rfl
    · cases h

theorem write_eq_ok {bytes : Text.Bytes} (hq : fs.place p = .ok q) (h : fs.write p bytes = (fs', .ok ())) :
    fs' = fs.put q (.file bytes) := by
  unfold write at h
  simp only [hq] at h
  split at h
  · cases h
  · cases h
    rfl

theorem write_eq_error {bytes : Text.Bytes} {e : FileError} (h : fs.write p bytes = (fs', .error e)) :
    fs' = fs := by
  unfold write at h
  split at h
  · cases h
    rfl
  · split at h
    · cases h
      rfl
    · cases h

theorem put_put {o o' : Object} : (fs.put q o).put q o' = fs.put q o' := by
  simp [put, List.filter_append]

theorem remove_of_place (h : fs.place p = .ok q) : fs.remove p = fs.erase q := by
  unfold remove
  rw [h]

theorem working_remove : (fs.remove p).working = fs.working := by
  unfold remove
  split
  · rfl
  · rfl

theorem working_removed (ps : List Path) (fs : FileSystem) : (ps.foldl remove fs).working = fs.working := by
  induction ps generalizing fs with
  | nil => rfl
  | cons p ps ih =>
      rw [List.foldl_cons, ih]
      exact working_remove

theorem object?_removed {ps : List Path} {qs : List (List String)}
    (h : List.Forall₂ (fun p q => fs.place p = .ok q) ps qs)
    (hqs : ∀ q ∈ qs, fs.object? q ≠ some .directory) :
    (ps.foldl remove fs).object? r = if r ∈ qs then none else fs.object? r := by
  induction ps generalizing fs qs with
  | nil =>
      cases h
      simp
  | cons p ps ih =>
      obtain _ | @⟨_, q, _, qs, hplace, hrest⟩ := h
      obtain ⟨hq, hqs⟩ := List.forall_mem_cons.mp hqs
      have hne := ne_nil_of_object? hq
      have hkept : ∀ r ∈ qs, (fs.erase q).object? r ≠ some .directory := by
        intro r hr
        rw [object?_erase hne]
        split
        · simp
        · exact hqs r hr
      rw [List.foldl_cons, remove_of_place hplace,
        ih (hrest.imp fun _ _ => (erase_differs hq).place) hkept, object?_erase hne]
      by_cases hr : r = q
      · simp [hr]
      · simp [hr]

end

/-- What becomes of a path when directories are made and files are opened and removed again. -/
inductive Fate (fs fs' : FileSystem) (p : Path) : Prop
  | kept : fs'.look p = fs.look p → Fate fs fs' p
  | lost (bytes : Text.Bytes) : fs.look p = some (.file bytes) → fs'.look p = none → Fate fs fs' p
  | uncovered (dir : List String) : fs.look p = none → fs'.Reaches p dir → fs.object? dir = none →
      fs'.object? dir = some .directory → Fate fs fs' p

theorem Differs.fate {places : List (List String)} {fs fs' : FileSystem} (h : Differs places fs fs')
    (hgone : ∀ q ∈ places, fs'.object? q = none) (p : Path) : Fate fs fs' p := by
  cases hplace : fs.place p with
  | ok q =>
      have hlook := look_of_place hplace
      have hlook' := look_of_place (h.place hplace)
      -- the path leads to the same place, so only what is there counts
      by_cases hq : q ∈ places
      · cases hobject : fs.object? q with
        | none => exact .kept (by rw [hlook', hlook, hgone q hq, hobject])
        | some o =>
            cases o with
            | file bytes => exact .lost bytes (hlook.trans hobject) (hlook'.trans (hgone q hq))
            | directory => exact absurd hobject (h.places q hq).1
      · rcases h.apart q hq with hsame | ⟨hnone, hdir⟩
        · exact .kept (by rw [hlook', hlook, hsame])
        · exact .uncovered q (hlook.trans hnone) (reaches_of_place (h.place hplace) hdir) hnone hdir
  | error fault =>
      have hlook := look_of_error hplace
      cases hplace' : fs'.place p with
      | error fault' => exact .kept (by rw [look_of_error hplace', hlook])
      | ok q =>
          obtain ⟨r, hr, hnone, hdir⟩ := h.place_made hplace' (by simp [hplace])
          exact .uncovered r hlook hr hnone hdir

section

variable {fs : FileSystem} {p : Path} {q r : List String}

theorem follow_standing {names : List String} (hq : ∀ s, s <+: q → fs.object? s = some .directory)
    (h : fs.follow q names = .ok r) {s : List String} (hs : s <+: r) : fs.object? s = some .directory := by
  induction names generalizing q with
  | nil =>
      cases h
      exact hq s hs
  | cons name names ih =>
      obtain ⟨t, ⟨_, ⟨_, rfl⟩ | ⟨_, rfl, hdir⟩⟩, h⟩ := follow_cons_eq_ok.mp h
      · exact ih (fun s hs => hq s (hs.trans (List.dropLast_prefix q))) h
      · refine ih (fun s hs => ?_) h
        rcases List.prefix_concat_iff.mp hs with rfl | hs
        · exact hdir
        · exact hq s hs

theorem Standing.base (h : fs.Standing) (p : Path) {s : List String} (hs : s <+: fs.base p) :
    fs.object? s = some .directory := by
  unfold FileSystem.base at hs
  split at hs
  · obtain rfl := List.prefix_nil.mp hs
    rfl
  · exact h s hs

theorem checkLength_eq_ok {limit : Nat} {s : String} : checkLength limit s = .ok () ↔ s.utf8ByteSize ≤ limit := by
  unfold checkLength
  split
  · simp only [reduceCtorEq, false_iff]
    omega
  · simp only [true_iff]
    omega

theorem checkLength_text_parent {root : Path.Root} {names : List String} {last : String}
    (h : checkLength pathLimit (Path.text ⟨root, names ++ [last]⟩) = .ok ()) :
    checkLength pathLimit (Path.text ⟨root, names⟩) = .ok () := by
  rw [checkLength_eq_ok] at h ⊢
  have htext : Path.text ⟨root, names ++ [last]⟩ = root.text ++ "/".intercalate (names ++ [last]) := by
    simp [Path.text]
  rw [htext, String.utf8ByteSize_append] at h
  by_cases hnames : names = []
  · subst hnames
    cases root <;> decide
  · have htext' : Path.text ⟨root, names⟩ = root.text ++ "/".intercalate names := by
      simp [Path.text, hnames]
    rw [String.intercalate_append_of_ne_nil hnames (by simp)] at h
    rw [htext', String.utf8ByteSize_append]
    simp only [String.utf8ByteSize_append] at h
    omega

theorem place_parent (h : fs.Standing) (hq : fs.place p = .ok q) (hnot : fs.object? q ≠ some .directory) :
    ∃ dir, fs.place p.parent = .ok dir ∧ fs.object? dir = some .directory := by
  obtain ⟨hlength, ⟨_, rfl⟩ | ⟨names, last, dir, hparts, hdir, _⟩⟩ := place_eq_ok.mp hq
  · exact absurd (h.base p List.prefix_rfl) hnot
  · obtain ⟨root, parts⟩ := p
    obtain rfl : parts = names ++ [last] := hparts
    have hparent : Path.parent ⟨root, names ++ [last]⟩ = ⟨root, names⟩ := by simp [Path.parent]
    rw [hparent]
    refine ⟨dir, place_eq_ok.mpr ⟨checkLength_text_parent hlength, ?_⟩,
      follow_standing (fun s hs => h.base _ hs) hdir List.prefix_rfl⟩
    rcases List.eq_nil_or_concat' names with rfl | ⟨names, last', rfl⟩
    · exact .inl ⟨rfl, (Except.ok.inj hdir).symm⟩
    · obtain ⟨dir', hdir', hlast⟩ := follow_append.mp hdir
      obtain ⟨_, ⟨hname, hlast⟩, ⟨⟩⟩ := follow_cons_eq_ok.mp hlast
      refine .inr ⟨names, last', dir', rfl, hdir', hname, ?_⟩
      rcases hlast with ⟨hup, rfl⟩ | ⟨hdown, rfl, _⟩
      · rw [if_pos hup]
      · rw [if_neg hdown]

theorem ensureDirectory_of_directory (hq : fs.place p = .ok q) (hdir : fs.object? q = some .directory) :
    fs.makeDirectory p = .error .exists ∧ fs.ensureDirectory p = (fs, .ok ()) := by
  have hexists : fs.makeDirectory p = .error .exists := by
    simp only [makeDirectory, hq, bind, Except.bind, hdir]
    rfl
  have his : fs.isDirectory p = true := by
    simp only [isDirectory, find, hq, bind, Except.bind, hdir]
    rfl
  refine ⟨hexists, ?_⟩
  simp only [ensureDirectory, hexists, his, if_true]

theorem makeDirectories_of_directory (hq : fs.place p = .ok q) (hdir : fs.object? q = some .directory) :
    fs.makeDirectories p = (fs, .ok ()) := by
  obtain ⟨root, parts⟩ := p
  obtain ⟨hexists, hensure⟩ := ensureDirectory_of_directory hq hdir
  unfold makeDirectories
  cases hnames : parts.reverse with
  | nil =>
      obtain rfl := List.reverse_eq_nil_iff.mp hnames
      exact hensure
  | cons name names =>
      obtain rfl : parts = (name :: names).reverse := by rw [← hnames, List.reverse_reverse]
      rw [ensureDirectories, hexists]
      exact hensure

theorem openNew_of_file (h : fs.Standing) {bytes : Text.Bytes} (hfile : fs.look p = some (.file bytes)) :
    fs.makeDirectories p.parent = (fs, .ok ()) ∧ ∃ fs', fs.openNew p = (fs', .ok ()) := by
  obtain ⟨q, hq, hobject⟩ := place_of_look hfile
  obtain ⟨dir, hdir, hdirectory⟩ := place_parent h hq (by simp [hobject])
  refine ⟨makeDirectories_of_directory hdir hdirectory, ?_⟩
  simp [openNew, hq, hobject]

end

end ScriptSplit.FileSystem
