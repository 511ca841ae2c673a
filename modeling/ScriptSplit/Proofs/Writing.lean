import ScriptSplit.Proofs.Execution
import ScriptSplit.Proofs.Replay
import ScriptSplit.Proofs.Storage

/-!
What a compilation leaves at its two output paths. When it succeeds they hold the modules; when a
file cannot be written, the files opened so far are removed, whatever they held before.
-/

namespace ScriptSplit

namespace Command

open FileSystem

inductive Wrote (fs : FileSystem) (p : Path) (t : Text) : Except WriteError Unit → FileSystem → Prop
  | unopened {fs' : FileSystem} (e : FileError) : Differs [] fs fs' →
      (fs.Standing → ∀ bytes, fs.look p ≠ some (.file bytes)) → Wrote fs p t (.error ⟨e, false⟩) fs'
  | unwritten {fs' : FileSystem} {q : List String} (e : FileError) : Differs [] fs fs' →
      fs'.place p = .ok q → fs'.object? q ≠ some .directory →
      Wrote fs p t (.error ⟨e, true⟩) (fs'.put q (.file []))
  | written {fs' : FileSystem} {q : List String} : Differs [] fs fs' → fs'.place p = .ok q →
      fs'.object? q ≠ some .directory → Wrote fs p t (.ok ()) (fs'.put q (.file (Text.encode t)))

section

variable {fs fs' : FileSystem} {p : Path} {t : Text}

theorem Wrote.of_ok (h : Wrote fs p t (.ok ()) fs') :
    ∃ q, fs'.place p = .ok q ∧ fs'.object? q = some (.file (Text.encode t)) ∧ Differs [q] fs fs' := by
  cases h with
  | @written fs₁ q hgrown hplace hnot =>
      have hput := put_differs hnot (Text.encode t)
      refine ⟨q, hput.place hplace, ?_, hgrown.trans (by simp) hput⟩
      rw [object?_put (ne_nil_of_object? hnot), if_pos rfl]

theorem writeFile_wrote {r : Except Failure (Except WriteError Unit)} (h : Runs (writeFile p t) fs r fs') :
    (∃ why, r = .error (.aborted why)) ∨ ∃ w, r = .ok w ∧ Wrote fs p t w fs' := by
  obtain rfl | h := runs_guard h
  · exact .inl ⟨_, rfl⟩
  have hgrown : Differs [] fs (fs.makeDirectories p.parent).1 := makeDirectories_differs
  rcases hmake : fs.makeDirectories p.parent with ⟨fs₁, e | _⟩
  · replace h := runs_lift_bind (makeDirectories_run hmake) h
    obtain ⟨rfl, rfl⟩ := runs_pure h
    rw [hmake] at hgrown
    refine .inr ⟨_, rfl, .unopened e hgrown fun hstanding bytes hfile => ?_⟩
    rw [(openNew_of_file hstanding hfile).1] at hmake
    cases hmake
  rw [hmake] at hgrown
  replace h := runs_lift_bind (makeDirectories_run hmake) h
  obtain rfl | h := runs_guard h
  · exact .inl ⟨_, rfl⟩
  rcases hopen : fs₁.openNew p with ⟨fs₂, e | _⟩
  · replace h := runs_lift_bind (openNew_run hopen) h
    obtain ⟨rfl, rfl⟩ := runs_pure h
    obtain rfl := openNew_eq_error hopen
    refine .inr ⟨_, rfl, .unopened e hgrown fun hstanding bytes hfile => ?_⟩
    obtain ⟨hmake', fs₂, hopen'⟩ := openNew_of_file hstanding hfile
    rw [hmake'] at hmake
    cases hmake
    rw [hopen'] at hopen
    cases hopen
  obtain ⟨q, hq, hnot, rfl⟩ := openNew_eq_ok hopen
  have hplace := (put_differs hnot []).place hq
  replace h := runs_lift_bind (openNew_run hopen) h
  rcases hwrite : (fs₁.put q (.file [])).write p (Text.encode t) with ⟨fs₃, e | _⟩
  · replace h := runs_lift_bind (write_run hwrite) h
    obtain ⟨rfl, rfl⟩ := runs_pure h
    obtain rfl := write_eq_error hwrite
    exact .inr ⟨_, rfl, .unwritten e hgrown hq hnot⟩
  · replace h := runs_lift_bind (write_run hwrite) h
    obtain ⟨rfl, rfl⟩ := runs_pure h
    obtain rfl := (write_eq_ok hplace hwrite).trans put_put
    exact .inr ⟨_, rfl, .written hgrown hq hnot⟩

end

/-- How the writing of several files can go: to the end, or to the first that cannot be written. -/
inductive WroteAll : List Path → FileSystem → List (Path × Text) → Except FileError Unit → FileSystem → Prop
  | nil (opened : List Path) (fs : FileSystem) : WroteAll opened fs [] (.ok ()) fs
  | cons {opened : List Path} {fs fs₁ fs' : FileSystem} {p : Path} {t : Text} {files : List (Path × Text)}
      {w : Except FileError Unit} : Wrote fs p t (.ok ()) fs₁ → WroteAll (opened ++ [p]) fs₁ files w fs' →
      WroteAll opened fs ((p, t) :: files) w fs'
  | stop {opened : List Path} {fs fs₁ : FileSystem} {p : Path} {t : Text} {e : WriteError}
      (files : List (Path × Text)) : Wrote fs p t (.error e) fs₁ →
      WroteAll opened fs ((p, t) :: files) (.error e.error)
        ((if e.opened then opened ++ [p] else opened).foldl remove fs₁)

section

variable {fs fs' : FileSystem}

theorem removeAll_run (ps : List Path) (fs : FileSystem) :
    (removeAll ps : StateM FileSystem Unit).run fs = ((), ps.foldl remove fs) := by
  induction ps generalizing fs with
  | nil => rfl
  | cons p ps ih => exact ih (fs.remove p)

theorem writeFiles_wroteAll {files : List (Path × Text)} {opened : List Path}
    {r : Except Failure (Except FileError Unit)} (h : Runs (writeFiles opened files) fs r fs') :
    (∃ why, r = .error (.aborted why)) ∨ ∃ w, r = .ok w ∧ WroteAll opened fs files w fs' := by
  induction files generalizing opened fs with
  | nil =>
      obtain ⟨rfl, rfl⟩ := runs_pure h
      exact .inr ⟨_, rfl, .nil opened _⟩
  | cons f files ih =>
      obtain ⟨p, t⟩ := f
      rcases runs_bind h with ⟨w, fs₁, hwrite, hrest⟩ | ⟨e, hwrite, rfl⟩
      · obtain ⟨why, ⟨⟩⟩ | ⟨w, ⟨⟩, hwrote⟩ := writeFile_wrote hwrite
        cases w with
        | ok _ =>
            obtain habort | ⟨w, rfl, hall⟩ := ih hrest
            · exact .inl habort
            · exact .inr ⟨w, rfl, .cons hwrote hall⟩
        | error e =>
            replace hrest := runs_lift_bind (removeAll_run _ _) hrest
            obtain ⟨rfl, rfl⟩ := runs_pure hrest
            exact .inr ⟨_, rfl, .stop files hwrote⟩
      · obtain ⟨why, ⟨⟩⟩ | ⟨w, ⟨⟩, _⟩ := writeFile_wrote hwrite
        exact .inl ⟨why, rfl⟩

end

/-- Files that have been opened since `fs`: their places, in order, and nothing but files there. -/
structure Opened (fs : FileSystem) (paths : List Path) (places : List (List String)) (fs' : FileSystem) :
    Prop where
  differs : Differs places fs fs'
  files : ∀ q ∈ places, ∃ bytes, fs'.object? q = some (.file bytes)
  lead : List.Forall₂ (fun p q => fs'.place p = .ok q) paths places

namespace Opened

variable {fs fs' fs'' : FileSystem} {paths : List Path} {places : List (List String)} {p : Path} {q : List String}

theorem start (fs : FileSystem) : Opened fs [] [] fs := ⟨.refl fs, by simp, .nil⟩

theorem present (h : Opened fs paths places fs') (hq : q ∈ places) : fs'.object? q ≠ none := by
  obtain ⟨bytes, hfile⟩ := h.files q hq
  simp [hfile]

theorem grow (h : Opened fs paths places fs') (h' : Differs [] fs' fs'') : Opened fs paths places fs'' where
  differs := by simpa using h.differs.trans (fun _ => h.present) h'
  files := by
    intro q hq
    obtain ⟨bytes, hfile⟩ := h.files q hq
    exact ⟨bytes, h'.file List.not_mem_nil hfile⟩
  lead := h.lead.imp fun _ _ => h'.place

theorem put (h : Opened fs paths places fs') (hplace : fs'.place p = .ok q)
    (hq : fs'.object? q ≠ some .directory) (bytes : Text.Bytes) :
    Opened fs (paths ++ [p]) (places ++ [q]) (fs'.put q (.file bytes)) where
  differs := h.differs.trans (fun _ => h.present) (put_differs hq bytes)
  files := by
    intro r hr
    rw [object?_put (ne_nil_of_object? hq)]
    split
    · exact ⟨bytes, rfl⟩
    · rename_i hne
      exact h.files r ((List.mem_append.mp hr).resolve_right (by simpa using hne))
  lead := by
    have hkeep := put_differs hq bytes
    exact List.rel_append (h.lead.imp fun _ _ => hkeep.place) (.cons (hkeep.place hplace) .nil)

theorem removed (h : Opened fs paths places fs') :
    Differs places fs (paths.foldl remove fs') ∧
      ∀ q ∈ places, (paths.foldl remove fs').object? q = none := by
  have hfiles : ∀ q ∈ places, fs'.object? q ≠ some .directory := fun q hq => (h.differs.places q hq).2
  have hgone : ∀ q ∈ places, (paths.foldl remove fs').object? q = none := by
    intro q hq
    rw [object?_removed h.lead hfiles, if_pos hq]
  refine ⟨⟨?_, fun q hq => ?_, fun q hq => ?_⟩, hgone⟩
  · rw [working_removed]
    exact h.differs.working
  · rw [object?_removed h.lead hfiles, if_neg hq]
    exact h.differs.apart q hq
  · exact ⟨(h.differs.places q hq).1, by simp [hgone q hq]⟩

end Opened

/-- Each path leads to its text, unless the path of a later file leads to the same place. -/
def Holds (fs : FileSystem) : List (Path × Text) → Prop
  | [] => True
  | (p, t) :: files =>
      (∃ q, fs.place p = .ok q ∧
        ((∀ f ∈ files, fs.place f.1 ≠ .ok q) → fs.object? q = some (.file (Text.encode t)))) ∧
      Holds fs files

namespace WroteAll

variable {fs fs₁ fs' : FileSystem} {paths : List Path} {files : List (Path × Text)} {w : Except FileError Unit}

theorem gone (h : WroteAll paths fs₁ files w fs') (hw : w ≠ .ok ()) {places : List (List String)}
    (hopened : Opened fs paths places fs₁) :
    ∃ places', places ⊆ places' ∧ Differs places' fs fs' ∧ ∀ q ∈ places', fs'.object? q = none := by
  -- every file written adds its place; the one that stops the run removes what is at all of them
  induction h generalizing places with
  | nil => exact absurd rfl hw
  | cons hwrote _ ih =>
      cases hwrote with
      | written hgrown hplace hnot =>
          obtain ⟨places', hsub, hgone⟩ := ih hw ((hopened.grow hgrown).put hplace hnot _)
          exact ⟨places', (List.append_subset.mp hsub).1, hgone⟩
  | stop files hwrote =>
      cases hwrote with
      | unopened e hgrown _ => exact ⟨places, List.Subset.refl _, (hopened.grow hgrown).removed⟩
      | unwritten e hgrown hplace hnot =>
          exact ⟨places ++ [_], List.subset_append_left _ _, ((hopened.grow hgrown).put hplace hnot []).removed⟩

theorem first_gone {p : Path} {t : Text} (h : WroteAll [] fs ((p, t) :: files) w fs') (hw : w ≠ .ok ())
    (hstanding : fs.Standing) {bytes : Text.Bytes} (hfile : fs.look p = some (.file bytes)) :
    fs'.look p = none := by
  obtain ⟨r, hr, _⟩ := place_of_look hfile
  have hlost : ∃ places', r ∈ places' ∧ Differs places' fs fs' ∧ ∀ q ∈ places', fs'.object? q = none := by
    cases h with
    | cons hwrote hrest =>
        cases hwrote with
        | written hgrown hplace hnot =>
            obtain rfl := Except.ok.inj ((hgrown.place hr).symm.trans hplace)
            obtain ⟨places', hsub, hlost⟩ := hrest.gone hw (((Opened.start fs).grow hgrown).put hplace hnot _)
            exact ⟨places', hsub (by simp), hlost⟩
    | stop _ hwrote =>
        cases hwrote with
        | unopened e _ hno => exact absurd hfile (hno hstanding bytes)
        | unwritten e hgrown hplace hnot =>
            obtain rfl := Except.ok.inj ((hgrown.place hr).symm.trans hplace)
            exact ⟨[r], by simp, (((Opened.start fs).grow hgrown).put hplace hnot []).removed⟩
  obtain ⟨places', hmem, hdiffers, hgone⟩ := hlost
  rw [look_of_place (hdiffers.place hr), hgone r hmem]

theorem holds (h : WroteAll paths fs files w fs') (hw : w = .ok ()) :
    Holds fs' files ∧ ∃ places, Differs places fs fs' ∧ ∀ q ∈ places, ∃ f ∈ files, fs'.place f.1 = .ok q := by
  induction h with
  | nil opened fs => exact ⟨trivial, [], .refl fs, by simp⟩
  | stop => cases hw
  | cons hwrote _ ih =>
      obtain ⟨hholds, places, hdiffers, hplaces⟩ := ih hw
      obtain ⟨q, hplace, hfile, hwritten⟩ := hwrote.of_ok
      have hq := hdiffers.place hplace
      refine ⟨⟨⟨q, hq, fun hlater => ?_⟩, hholds⟩, q :: places, ?_, ?_⟩
      · refine hdiffers.file (fun hmem => ?_) hfile
        obtain ⟨f, hf, hplace'⟩ := hplaces q hmem
        exact hlater f hf hplace'
      · exact hwritten.trans (by simp [hfile]) hdiffers
      · rintro r (_ | ⟨_, hr⟩)
        · exact ⟨_, List.mem_cons_self, hq⟩
        · obtain ⟨f, hf, hr⟩ := hplaces r hr
          exact ⟨f, List.mem_cons_of_mem _ hf, hr⟩

end WroteAll

def outputs (s : Settings) (m : Modules) : List (Path × Text) :=
  [(s.localsOut, m.localsText), (s.mainOut, m.mainText)]

section

variable {fs fs' : FileSystem}

/-- How saving can end, if it is not given up: with the code 1 for a refusal or for a file that could
not be written, else with the code 0. -/
inductive Saved (s : Settings) (fs : FileSystem) : Except Refusal Modules → Nat → FileSystem → Prop
  | refused (e : Refusal) : Saved s fs (.error e) 1 fs
  | failed {m : Modules} {e : FileError} {fs' : FileSystem} : WroteAll [] fs (outputs s m) (.error e) fs' →
      Saved s fs (.ok m) 1 fs'
  | written {m : Modules} {fs' : FileSystem} : WroteAll [] fs (outputs s m) (.ok ()) fs' →
      Saved s fs (.ok m) 0 fs'

theorem saveModules_saved {s : Settings} {rep : Report} {r : Except Failure (Nat × LogLine)}
    (h : Runs (saveModules s rep) fs r fs') :
    (∃ why, r = .error (.aborted why)) ∨ ∃ code line, r = .ok (code, line) ∧ Saved s fs rep.result code fs' := by
  unfold saveModules at h
  cases hresult : rep.result with
  | error e =>
      rw [hresult] at h
      obtain ⟨rfl, habort | rfl⟩ := runs_say_with h
      · exact .inl habort
      · exact .inr ⟨1, _, rfl, .refused e⟩
  | ok m =>
      rw [hresult] at h
      rcases runs_bind h with ⟨w, fs₁, hfiles, hsay⟩ | ⟨e, hfiles, rfl⟩
      · obtain ⟨_, ⟨⟩⟩ | ⟨_, ⟨⟩, hwrote⟩ := writeFiles_wroteAll hfiles
        cases w with
        | error e =>
            obtain ⟨rfl, habort | rfl⟩ := runs_say_with hsay
            · exact .inl habort
            · exact .inr ⟨1, _, rfl, .failed hwrote⟩
        | ok _ =>
            obtain ⟨rfl, habort | rfl⟩ := runs_say_with hsay
            · exact .inl habort
            · exact .inr ⟨0, _, rfl, .written hwrote⟩
      · obtain ⟨why, ⟨⟩⟩ | ⟨_, ⟨⟩, _⟩ := writeFiles_wroteAll hfiles
        exact .inl ⟨why, rfl⟩

def Prepares (parse : Dialect → Text → Tree) (options : Taken) (fs : FileSystem) (s : Settings) (m : Modules) :
    Prop :=
  ∃ trace, Runs (prepare parse options) fs (.ok (s, ⟨.ok m, trace⟩)) fs

theorem compile_cases {parse : Dialect → Text → Tree} {options : Taken} {r : Except Failure Ending}
    (htrace : options.value? jsonTrace = none) (h : Runs (compile parse options) fs r fs') :
    (∃ why, r = .error (.aborted why)) ∨ (∃ line, r = .error (.failed line) ∧ fs' = fs) ∨
    ∃ s rep ending, r = .ok ending ∧ Runs (prepare parse options) fs (.ok (s, rep)) fs ∧
      Saved s fs rep.result ending.code fs' := by
  rcases runs_bind h with ⟨⟨s, rep⟩, fs₁, hprepare, hrest⟩ | ⟨e, hprepare, rfl⟩
  · obtain rfl : fs₁ = fs := (congrArg Prod.snd hprepare).symm.trans (prepare_still parse options fs)
    have hnone : (saveTraceTo ((options.value? jsonTrace).map Path.ofString) rep.trace : Filing _) = pure [] := by
      rw [htrace]
      rfl
    dsimp only at hrest
    rw [hnone, pure_bind] at hrest
    rcases runs_bind hrest with ⟨⟨code, line⟩, fs₂, hsave, hrest⟩ | ⟨e, hsave, rfl⟩
    · obtain ⟨_, ⟨⟩⟩ | ⟨_, _, ⟨⟩, hsaved⟩ := saveModules_saved hsave
      obtain ⟨rfl, rfl⟩ := runs_pure hrest
      exact .inr (.inr ⟨s, rep, _, rfl, hprepare, hsaved⟩)
    · obtain ⟨why, ⟨⟩⟩ | ⟨_, _, ⟨⟩, _⟩ := saveModules_saved hsave
      exact .inl ⟨why, rfl⟩
  · obtain rfl : fs' = fs := (congrArg Prod.snd hprepare).symm.trans (prepare_still parse options fs)
    cases e with
    | failed line => exact .inr (.inl ⟨line, rfl, rfl⟩)
    | aborted why => exact .inl ⟨why, rfl⟩

theorem perform_compile {parse : Dialect → Text → Tree} {options : Taken} {ending : Ending}
    (h : (perform parse .compile options : StateM FileSystem _).run fs = (.ok ending, fs')) :
    ∃ r, Runs (compile parse options) fs r fs' ∧
      (r = .ok ending ∨ ∃ line, r = .error (.failed line) ∧ ending.code = 1) := by
  unfold perform at h
  rcases hrun : (compile parse options : Filing Ending).run.run fs with ⟨failure | ending', fs₁⟩
  · rw [StateT.run_bind, hrun] at h
    obtain ⟨hending, rfl⟩ : failure.ending = .ok ending ∧ fs₁ = fs' := Prod.mk.inj h
    cases failure with
    | aborted why => cases hending
    | failed line =>
        refine ⟨_, hrun, .inr ⟨line, rfl, ?_⟩⟩
        obtain ⟨_, _, rfl⟩ := map_eq_ok.mp hending
        rfl
  · rw [StateT.run_bind, hrun] at h
    cases h
    exact ⟨_, hrun, .inl rfl⟩

theorem Holds.outputs {s : Settings} {m : Modules} (h : Holds fs (outputs s m)) :
    fs.look s.mainOut = some (.file (Text.encode m.mainText)) ∧
    fs.look s.localsOut = some (.file (Text.encode
      (if fs.place s.localsOut = fs.place s.mainOut then m.mainText else m.localsText))) := by
  obtain ⟨⟨q, hq, hlocals⟩, ⟨r, hr, hmain⟩, _⟩ := h
  have hmain : fs.object? r = some (.file (Text.encode m.mainText)) := hmain (by simp)
  rw [look_of_place hq, look_of_place hr, hq, hr]
  refine ⟨hmain, ?_⟩
  split
  · rename_i hsame
    rw [Except.ok.inj hsame, hmain]
  · rename_i hother
    refine hlocals fun f hf hplace => ?_
    obtain rfl := List.mem_singleton.mp hf
    exact hother (hplace.symm.trans hr)

end

/-- A compilation without a trace file that ends well leaves both modules at their paths, but for the
locals module if both paths lead to one place. One that fails has changed nothing, or a file could
not be written: then each path leads where it led before, unless it led to a file that is gone, or a
directory has been made on its way; and a file at the path of the locals module is always gone. -/
theorem compile_outputs {parse : Dialect → Text → Tree} {options : Taken} {ending : Ending}
    {fs fs' : FileSystem} (htrace : options.value? jsonTrace = none)
    (h : (perform parse .compile options : StateM FileSystem _).run fs = (.ok ending, fs')) :
    (ending.code = 0 ∧ ∃ s m, Prepares parse options fs s m ∧
      fs'.look s.mainOut = some (.file (Text.encode m.mainText)) ∧
      fs'.look s.localsOut = some (.file (Text.encode
        (if fs'.place s.localsOut = fs'.place s.mainOut then m.mainText else m.localsText)))) ∨
    (ending.code = 1 ∧ (fs' = fs ∨ ∃ s m, Prepares parse options fs s m ∧
      Fate fs fs' s.localsOut ∧ Fate fs fs' s.mainOut ∧
      (fs.Standing → ∀ bytes, fs.look s.localsOut = some (.file bytes) → fs'.look s.localsOut = none))) := by
  obtain ⟨r, hcompile, hr⟩ := perform_compile h
  rcases compile_cases htrace hcompile with ⟨why, rfl⟩ | ⟨line, rfl, rfl⟩ |
    ⟨s, ⟨result, trace⟩, _, rfl, hprepare, hsaved⟩
  · obtain ⟨⟨⟩⟩ | ⟨_, ⟨⟩, _⟩ := hr
  · obtain ⟨⟨⟩⟩ | ⟨_, _, hcode⟩ := hr
    exact .inr ⟨hcode, .inl rfl⟩
  · obtain ⟨⟨⟩⟩ | ⟨_, ⟨⟩, _⟩ := hr
    generalize ending.code = code at hsaved ⊢
    cases hsaved with
    | refused e => exact .inr ⟨rfl, .inl rfl⟩
    | failed hwrote =>
        obtain ⟨places, _, hdiffers, hgone⟩ := hwrote.gone (by simp) (Opened.start fs)
        exact .inr ⟨rfl, .inr ⟨s, _, ⟨trace, hprepare⟩, hdiffers.fate hgone _, hdiffers.fate hgone _,
          fun hstanding _ hfile => hwrote.first_gone (by simp) hstanding hfile⟩⟩
    | written hwrote => exact .inl ⟨rfl, s, _, ⟨trace, hprepare⟩, (hwrote.holds rfl).1.outputs⟩

end Command

namespace Sample

open Command

/-- An earlier locals module, and a directory where the main module belongs. -/
def occupied : FileSystem where
  objects :=
    [(["in"], .directory), (["in", "in.ts"], .file (Text.encode code)),
    (["out"], .directory), (["out", "locals.ts"], .file (Text.encode "old".toList)),
    (["out", "main.ts"], .directory)]
  working := []
  full := []

def parse (_ : Dialect) (_ : Text) : Tree := tree

theorem exists_ending {fs : FileSystem} {code : Nat} {seen : Option Object}
    (h : ((perform parse .compile .nothing : StateM FileSystem _).run fs).1.toOption.map Ending.code =
        some code ∧
      ((perform parse .compile .nothing : StateM FileSystem _).run fs).2.look Settings.default.localsOut =
        seen) :
    ∃ ending fs', (perform parse .compile .nothing : StateM FileSystem _).run fs = (.ok ending, fs') ∧
      ending.code = code ∧ fs'.look Settings.default.localsOut = seen := by
  obtain ⟨hcode, hseen⟩ := h
  rcases hrun : (perform parse .compile .nothing : StateM FileSystem _).run fs with ⟨why | ending, fs'⟩
  · simp [hrun, Except.toOption] at hcode
  · rw [hrun] at hcode hseen
    exact ⟨ending, fs', rfl, by simpa [Except.toOption] using hcode, hseen⟩

theorem compile_occupied :
    ∃ ending fs', (perform parse .compile .nothing : StateM FileSystem _).run occupied = (.ok ending, fs') ∧
      ending.code = 1 ∧ fs'.look Settings.default.localsOut = none :=
  exists_ending (by decide +kernel)

theorem standing_occupied : occupied.Standing := by
  intro q hq
  obtain rfl := List.prefix_nil.mp hq
  rfl

theorem look_occupied :
    occupied.look Settings.default.localsOut = some (.file (Text.encode "old".toList)) := by decide +kernel

end Sample

namespace Command

open FileSystem

theorem sample_compile_outputs :
    Taken.nothing.value? jsonTrace = none ∧
    ∃ ending fs', (perform Sample.parse .compile .nothing : StateM FileSystem _).run Sample.occupied =
        (.ok ending, fs') ∧ ending.code = 1 ∧
      ∃ s m, Prepares Sample.parse .nothing Sample.occupied s m ∧
        Fate Sample.occupied fs' s.localsOut ∧ Fate Sample.occupied fs' s.mainOut ∧
        ∀ bytes, Sample.occupied.look s.localsOut = some (.file bytes) → fs'.look s.localsOut = none := by
  have htrace : Taken.nothing.value? jsonTrace = none := rfl
  obtain ⟨ending, fs', hrun, hcode, hgone⟩ := Sample.compile_occupied
  refine ⟨htrace, ending, fs', hrun, hcode, ?_⟩
  obtain ⟨hzero, _⟩ | ⟨_, rfl | ⟨s, m, hprepares, hlocals, hmain, hlost⟩⟩ := compile_outputs htrace hrun
  · rw [hcode] at hzero
    cases hzero
  · rw [Sample.look_occupied] at hgone
    cases hgone
  · exact ⟨s, m, hprepares, hlocals, hmain, hlost Sample.standing_occupied⟩

/-- The main module cannot be written, and the locals module of an earlier compilation is removed. -/
theorem failed_compile_loses_locals :
    ∃ ending fs', (perform Sample.parse .compile .nothing : StateM FileSystem _).run Sample.occupied =
        (.ok ending, fs') ∧ ending.code = 1 ∧
      Sample.occupied.look Settings.default.localsOut = some (.file (Text.encode "old".toList)) ∧
      fs'.look Settings.default.localsOut = none := by
  obtain ⟨ending, fs', hrun, hcode, hgone⟩ := Sample.compile_occupied
  exact ⟨ending, fs', hrun, hcode, Sample.look_occupied, hgone⟩

end Command

end ScriptSplit
