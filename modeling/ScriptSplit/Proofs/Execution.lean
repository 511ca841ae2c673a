import ScriptSplit.Command.Run

namespace ScriptSplit.Command

abbrev Filing (α : Type) : Type := ExceptT Failure (StateM FileSystem) α

def Runs {α : Type} (x : Filing α) (fs : FileSystem) (r : Except Failure α) (fs' : FileSystem) : Prop :=
  x.run.run fs = (r, fs')

section

variable {α β : Type} {x : Filing α} {fs fs' fs'' : FileSystem} {r : Except Failure α}

theorem runs_pure {a : α} (h : Runs (pure a) fs r fs') : r = .ok a ∧ fs' = fs := by
  cases h
  exact ⟨rfl, rfl⟩

theorem runs_throw {e : Failure} (h : Runs (throw e) fs r fs') : r = .error e ∧ fs' = fs := by
  cases h
  exact ⟨rfl, rfl⟩

theorem runs_abort {why : Abort} (h : Runs (abort why) fs r fs') : r = .error (.aborted why) ∧ fs' = fs :=
  runs_throw h

theorem runs_bind {f : α → Filing β} {r : Except Failure β} (h : Runs (x >>= f) fs r fs') :
    (∃ a fs₁, Runs x fs (.ok a) fs₁ ∧ Runs (f a) fs₁ r fs') ∨ ∃ e, Runs x fs (.error e) fs' ∧ r = .error e := by
  unfold Runs at h
  rw [ExceptT.run_bind, StateT.run_bind] at h
  rcases hx : x.run.run fs with ⟨a | a, fs₁⟩
  · rw [hx] at h
    cases h
    exact .inr ⟨a, hx, rfl⟩
  · rw [hx] at h
    exact .inl ⟨a, fs₁, hx, h⟩

theorem runs_lift_bind {y : StateM FileSystem α} {f : α → Filing β} {a : α} {r : Except Failure β}
    (hy : y.run fs = (a, fs'')) (h : Runs (liftM y >>= f) fs r fs') : Runs (f a) fs'' r fs' := by
  have hrun : (liftM y >>= f : Filing β).run.run fs = (f (y.run fs).1).run.run (y.run fs).2 := rfl
  unfold Runs at h
  rw [hrun, hy] at h
  exact h

theorem makeDirectories_run {p : Path} {w : Except FileError Unit} (h : fs.makeDirectories p = (fs', w)) :
    (FileAccess.makeDirectories p : StateM FileSystem _).run fs = (w, fs') :=
  congrArg Prod.swap h

theorem openNew_run {p : Path} {w : Except FileError Unit} (h : fs.openNew p = (fs', w)) :
    (FileAccess.openNew p : StateM FileSystem _).run fs = (w, fs') :=
  congrArg Prod.swap h

theorem write_run {p : Path} {bytes : Text.Bytes} {w : Except FileError Unit}
    (h : fs.write p bytes = (fs', w)) : (FileAccess.write p bytes : StateM FileSystem _).run fs = (w, fs') :=
  congrArg Prod.swap h

theorem runs_guard {c : Prop} [Decidable c] {why : Abort}
    (h : Runs (if c then abort why >>= fun _ : PUnit => x else x) fs r fs') :
    r = .error (.aborted why) ∨ Runs x fs r fs' := by
  split at h
  · rcases runs_bind h with ⟨a, fs₁, habort, _⟩ | ⟨e, habort, rfl⟩
    · cases habort
    · cases habort
      exact .inl rfl
  · exact .inr h

theorem runs_say {line : LogLine} {r : Except Failure LogLine} (h : Runs (say line) fs r fs') :
    fs' = fs ∧ ((∃ why, r = .error (.aborted why)) ∨ r = .ok line) := by
  unfold say at h
  split at h
  · obtain ⟨rfl, rfl⟩ := runs_pure h
    exact ⟨rfl, .inr rfl⟩
  · obtain ⟨rfl, rfl⟩ := runs_abort h
    exact ⟨rfl, .inl ⟨_, rfl⟩⟩

theorem runs_say_with {line : LogLine} {code : Nat} {r : Except Failure (Nat × LogLine)}
    (h : Runs (say line >>= fun line => pure (code, line)) fs r fs') :
    fs' = fs ∧ ((∃ why, r = .error (.aborted why)) ∨ r = .ok (code, line)) := by
  rcases runs_bind h with ⟨line', fs₁, hsay, hpure⟩ | ⟨e, hsay, rfl⟩
  · obtain ⟨rfl, ⟨_, ⟨⟩⟩ | ⟨⟨⟩⟩⟩ := runs_say hsay
    obtain ⟨rfl, rfl⟩ := runs_pure hpure
    exact ⟨rfl, .inr rfl⟩
  · obtain ⟨rfl, ⟨why, ⟨⟩⟩ | ⟨⟨⟩⟩⟩ := runs_say hsay
    exact ⟨rfl, .inl ⟨why, rfl⟩⟩

end

section

variable {α β : Type}

def Still (y : StateM FileSystem α) : Prop := ∀ fs, (y.run fs).2 = fs

theorem still_pure (a : α) : Still (pure a) := fun _ => rfl

theorem still_bind {y : StateM FileSystem α} {f : α → StateM FileSystem β} (hy : Still y)
    (hf : ∀ a, Still (f a)) : Still (y >>= f) := by
  intro fs
  have hrun : (y >>= f).run fs = (f (y.run fs).1).run (y.run fs).2 := rfl
  rw [hrun, hf, hy]

theorem findProject_still (dirs : List Path) : Still (findProject dirs) := by
  induction dirs with
  | nil => exact still_pure _
  | cons dir dirs ih =>
      refine still_bind (fun _ => rfl) fun found => ?_
      rcases found with e | (_ | _)
      · exact still_pure _
      · exact ih
      · refine still_bind (fun _ => rfl) fun bytes => ?_
        cases bytes with
        | ok => exact still_pure _
        | error => exact still_pure _

theorem load_still (search : Option Path) (g : Given) : Still (Settings.load search g) := by
  refine still_bind (still_bind (fun _ => rfl) fun cwd => ?_) fun project => ?_
  · dsimp only
    split
    · exact still_pure _
    · exact findProject_still _
  · cases project with
    | error u => exact still_pure _
    | ok p =>
        dsimp only
        split
        · exact still_pure _
        · exact still_pure _

theorem still_run_bind {x : Filing α} {f : α → Filing β} (hx : Still x.run) (hf : ∀ a, Still (f a).run) :
    Still (x >>= f).run := by
  rw [ExceptT.run_bind]
  refine still_bind hx fun r => ?_
  cases r with
  | ok a => exact hf a
  | error e => exact still_pure _

theorem still_run_lift {y : StateM FileSystem α} (hy : Still y) : Still (liftM y : Filing α).run := by
  intro fs
  exact hy fs

theorem still_run_guard {c : Prop} [Decidable c] {why : Abort} {x : Filing α} (hx : Still x.run) :
    Still (if c then abort why >>= fun _ : PUnit => x else x : Filing α).run := by
  split
  · exact still_run_bind (fun _ => rfl) fun _ => hx
  · exact hx

theorem loadSettings_still (options : Taken) : Still (loadSettings options : Filing Settings).run := by
  refine still_run_guard (still_run_bind (still_run_lift (load_still _ _)) fun loaded => ?_)
  rcases loaded with (u | flaws) | s
  · exact fun _ => rfl
  · exact fun _ => rfl
  · exact fun _ => rfl

theorem readSource_still (p : Path) : Still (readSource p : Filing Text).run := by
  refine still_run_bind ?_ fun found => ?_
  · split
    · exact fun _ => rfl
    · exact still_run_lift fun _ => rfl
  · rcases found with e | (_ | _)
    · exact fun _ => rfl
    · exact fun _ => rfl
    · refine still_run_bind (still_run_lift fun _ => rfl) fun bytes => ?_
      unfold decodeSource
      split
      · exact fun _ => rfl
      · split
        · exact fun _ => rfl
        · exact fun _ => rfl

theorem prepare_still (parse : Dialect → Text → Tree) (options : Taken) :
    Still (prepare parse options : Filing (Settings × Report)).run := by
  refine still_run_bind (loadSettings_still options) fun s => ?_
  refine still_run_bind (readSource_still s.inputPath) fun code => ?_
  split
  · exact fun _ => rfl
  · exact fun _ => rfl

end

end ScriptSplit.Command
