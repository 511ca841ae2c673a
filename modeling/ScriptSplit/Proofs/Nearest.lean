import ScriptSplit.Proofs.Storage
import ScriptSplit.Settings.Project

namespace ScriptSplit

namespace Path

structure AtOrAbove (d p : Path) : Prop where
  root : d.root = p.root
  parts : d.parts <+: p.parts

theorem mem_upward {d p : Path} : d ∈ p.upward ↔ d.AtOrAbove p := by
  constructor
  · intro hd
    obtain ⟨ps, hps, rfl⟩ := List.mem_map.mp hd
    obtain ⟨k, _, rfl⟩ := List.mem_map.mp hps
    exact ⟨rfl, List.take_prefix k p.parts⟩
  · rintro ⟨hroot, hparts⟩
    obtain ⟨root, parts⟩ := d
    obtain rfl : root = p.root := hroot
    refine List.mem_map.mpr ⟨parts, List.mem_map.mpr ⟨parts.length, ?_, ?_⟩, rfl⟩
    · exact List.mem_reverse.mpr (List.mem_range.mpr (Nat.lt_succ_of_le hparts.length_le))
    · exact (List.prefix_iff_eq_take.mp hparts).symm

theorem pairwise_upward (p : Path) :
    p.upward.Pairwise fun d e => e.parts.length < d.parts.length := by
  unfold upward initials
  rw [List.pairwise_map, List.pairwise_map, List.pairwise_reverse]
  refine List.Pairwise.imp_of_mem (fun {i j} _ hj hij => ?_) List.pairwise_lt_range
  rw [List.mem_range] at hj
  simp only [List.length_take]
  omega

end Path

namespace FileSystem

def NoProject (fs : FileSystem) (start : Path) : Prop :=
  ∀ d : Path, d.AtOrAbove start → fs.isFile (d.child projectFile) = .ok false

/-- The nearest project file from `start` upward is in `dir` and holds `bytes`. -/
structure Nearest (fs : FileSystem) (start dir : Path) (bytes : Text.Bytes) : Prop where
  above : dir.AtOrAbove start
  file : fs.find (dir.child projectFile) = .ok (.file bytes)
  deeper : ∀ d : Path, d.AtOrAbove start → dir.parts.length < d.parts.length →
    fs.isFile (d.child projectFile) = .ok false

def InSight (fs : FileSystem) (start : Path) : Prop :=
  ∀ d : Path, d.AtOrAbove start → ∃ found, fs.isFile (d.child projectFile) = .ok found

variable {fs : FileSystem} {start : Path}

theorem isFile_eq_true {p : Path} : fs.isFile p = .ok true ↔ ∃ bytes, fs.find p = .ok (.file bytes) := by
  unfold isFile
  constructor
  · intro h
    split at h
    · exact ⟨_, by assumption⟩
    · cases h
    · cases h
  · rintro ⟨bytes, hfind⟩
    rw [hfind]

theorem isFile_of_find {fs' : FileSystem} {p : Path} (h : fs'.find p = fs.find p) :
    fs'.isFile p = fs.isFile p := by
  rw [isFile, h, isFile]

theorem InSight.nearest (h : fs.InSight start) :
    fs.NoProject start ∨ ∃ dir bytes, fs.Nearest start dir bytes := by
  cases hfind : start.upward.find? (fun d => (fs.isFile (d.child projectFile)).toOption == some true) with
  | none =>
      refine .inl fun d hd => ?_
      obtain ⟨found, hfound⟩ := h d hd
      have hnot := List.find?_eq_none.mp hfind d (Path.mem_upward.mpr hd)
      cases found with
      | false => exact hfound
      | true => simp [hfound, Except.toOption] at hnot
  | some dir =>
      obtain ⟨hdir, below, above, hsplit, hbelow⟩ := List.find?_eq_some_iff_append.mp hfind
      have hpairwise := start.pairwise_upward
      have hmem : dir.AtOrAbove start := Path.mem_upward.mp (by simp [hsplit])
      obtain ⟨found, hfound⟩ := h dir hmem
      obtain rfl : found = true := by simpa [hfound, Except.toOption] using hdir
      obtain ⟨bytes, hbytes⟩ := isFile_eq_true.mp hfound
      refine .inr ⟨dir, bytes, hmem, hbytes, fun d hd hlonger => ?_⟩
      -- a longer path comes before `dir` in the search
      have hd' : d ∈ below := by
        have hd' := Path.mem_upward.mpr hd
        rw [hsplit] at hd' hpairwise
        rcases List.mem_append.mp hd' with hd' | hd'
        · exact hd'
        · rcases List.mem_cons.mp hd' with rfl | hd'
          · exact absurd hlonger (Nat.lt_irrefl _)
          · have hlt := (List.pairwise_cons.mp (List.pairwise_append.mp hpairwise).2.1).1 d hd'
            omega
      obtain ⟨found, hfound⟩ := h d hd
      have hnot := hbelow d hd'
      cases found with
      | false => exact hfound
      | true => simp [hfound, Except.toOption] at hnot

theorem Nearest.unique {dir dir' : Path} {bytes bytes' : Text.Bytes} (h : fs.Nearest start dir bytes)
    (h' : fs.Nearest start dir' bytes') : dir = dir' ∧ bytes = bytes' := by
  have hle : ∀ {d e : Path} {bs cs : Text.Bytes}, fs.Nearest start d bs → fs.Nearest start e cs →
      d.parts.length ≤ e.parts.length := by
    intro d e bs cs hd he
    by_contra hlonger
    have hfalse := he.deeper d hd.above (Nat.lt_of_not_le hlonger)
    rw [isFile_eq_true.mpr ⟨bs, hd.file⟩] at hfalse
    cases hfalse
  have hparts : dir.parts = dir'.parts :=
    (List.prefix_of_prefix_length_le h.above.parts h'.above.parts (hle h h')).eq_of_length_le (hle h' h)
  obtain ⟨root, parts⟩ := dir
  obtain ⟨root', parts'⟩ := dir'
  obtain rfl : root = root' := h.above.root.trans h'.above.root.symm
  obtain rfl : parts = parts' := hparts
  have hbytes := h.file.symm.trans h'.file
  exact ⟨rfl, Object.file.inj (Except.ok.inj hbytes)⟩

theorem Nearest.of_agrees {fs' : FileSystem} {dir : Path} {bytes : Text.Bytes}
    (h : fs.Nearest start dir bytes)
    (hagree : ∀ d : Path, d.AtOrAbove start → dir.AtOrAbove d →
      fs'.find (d.child projectFile) = fs.find (d.child projectFile)) : fs'.Nearest start dir bytes := by
  have hself : dir.AtOrAbove dir := ⟨rfl, List.prefix_rfl⟩
  refine ⟨h.above, (hagree dir h.above hself).trans h.file, fun d hd hlonger => ?_⟩
  have hbelow : dir.AtOrAbove d :=
    ⟨h.above.root.trans hd.root.symm,
      List.prefix_of_prefix_length_le h.above.parts hd.parts (Nat.le_of_lt hlonger)⟩
  rw [isFile_of_find (hagree d hd hbelow)]
  exact h.deeper d hd hlonger

theorem utf8ByteSize_intercalate_le (names more : List String) (last : String) :
    ("/".intercalate (names ++ [last])).utf8ByteSize ≤
      ("/".intercalate (names ++ more ++ [last])).utf8ByteSize := by
  by_cases hmore : more = []
  · simp [hmore]
  · have hrest : (("/".intercalate (more ++ [last])).utf8ByteSize : Nat) ≥ last.utf8ByteSize := by
      rw [String.intercalate_append_of_ne_nil hmore (by simp)]
      simp only [String.utf8ByteSize_append, String.intercalate_singleton]
      omega
    rw [List.append_assoc]
    by_cases hnames : names = []
    · simpa [hnames] using hrest
    · rw [String.intercalate_append_of_ne_nil hnames (by simp),
        String.intercalate_append_of_ne_nil hnames (by simp)]
      simp only [String.utf8ByteSize_append, String.intercalate_singleton]
      omega

theorem text_child (root : Path.Root) (parts : List String) (name : String) :
    (Path.child ⟨root, parts⟩ name).text = root.text ++ "/".intercalate (parts ++ [name]) := by
  simp [Path.child, Path.text]

theorem exists_isFile_iff {p : Path} :
    (∃ found, fs.isFile p = .ok found) ↔ fs.place p ≠ .error .nameTooLong := by
  have hfind : fs.find p = .error .nameTooLong ↔ fs.place p = .error .nameTooLong := by
    unfold find
    cases fs.place p with
    | error fault => simp [bind, Except.bind]
    | ok q =>
        cases hobject : fs.object? q <;>
          simp [bind, Except.bind, hobject, throw, throwThe, MonadExceptOf.throw, pure, Except.pure]
  rw [Ne, ← hfind]
  unfold isFile
  constructor
  · rintro ⟨found, hfound⟩ htooLong
    rw [htooLong] at hfound
    cases hfound
  · intro hplace
    split
    · exact ⟨true, rfl⟩
    · exact absurd (by assumption) hplace
    · exact ⟨false, rfl⟩

theorem follow_append_error {q xs : List String} {fault : FileFault} (h : fs.follow q xs = .error fault)
    (ys : List String) : fs.follow q (xs ++ ys) = .error fault := by
  induction xs generalizing q with
  | nil => cases h
  | cons x xs ih =>
      rw [List.cons_append, follow]
      rw [follow] at h
      cases hlength : checkLength nameLimit x with
      | error fault' =>
          rw [hlength] at h
          exact h
      | ok =>
          rw [hlength] at h
          change (if x = ".." then _ else _) = _ at h
          change (if x = ".." then _ else _) = _
          split at h
          · rw [if_pos ‹_›]
            exact ih h
          · rw [if_neg ‹_›]
            split at h
            · exact ih h
            · exact h
            · exact h

theorem place_child_tooLong {root : Path.Root} {parts : List String} :
    fs.place (Path.child ⟨root, parts⟩ projectFile) = .error .nameTooLong ↔
      pathLimit < (Path.child ⟨root, parts⟩ projectFile).text.utf8ByteSize ∨
        fs.follow (fs.base ⟨root, parts⟩) parts = .error .nameTooLong := by
  have hname : checkLength nameLimit projectFile = .ok () := rfl
  have hbase : fs.base (Path.child ⟨root, parts⟩ projectFile) = fs.base ⟨root, parts⟩ := rfl
  unfold place
  by_cases hlong : pathLimit < (Path.child ⟨root, parts⟩ projectFile).text.utf8ByteSize
  · have hcheck : checkLength pathLimit (Path.child ⟨root, parts⟩ projectFile).text = .error .nameTooLong := by
      rw [checkLength, if_pos hlong]
    rw [hcheck]
    exact ⟨fun _ => .inl hlong, fun _ => rfl⟩
  · have hcheck : checkLength pathLimit (Path.child ⟨root, parts⟩ projectFile).text = .ok () := by
      rw [checkLength, if_neg hlong]
    have hlast : (Path.child ⟨root, parts⟩ projectFile).parts.getLast? = some projectFile := by
      simp [Path.child]
    have hinit : (Path.child ⟨root, parts⟩ projectFile).parts.dropLast = parts := by simp [Path.child]
    rw [hcheck, hlast, hinit, hbase]
    cases fs.follow (fs.base ⟨root, parts⟩) parts with
    | error fault => simp [bind, Except.bind, hlong]
    | ok dir => simp [bind, Except.bind, hlong, hname, pure, Except.pure]

theorem inSight_of_isFile (h : ∃ found, fs.isFile (start.child projectFile) = .ok found) :
    fs.InSight start := by
  obtain ⟨_, _⟩ := start
  rintro ⟨root, parts⟩ ⟨rfl, more, rfl⟩
  rw [exists_isFile_iff] at h ⊢
  intro htooLong
  refine h (place_child_tooLong.mpr ?_)
  rcases place_child_tooLong.mp htooLong with hlong | hfollow
  · have hle := utf8ByteSize_intercalate_le parts more projectFile
    rw [text_child, String.utf8ByteSize_append] at hlong
    refine .inl ?_
    rw [text_child, String.utf8ByteSize_append]
    dsimp only
    omega
  · exact .inr (follow_append_error hfollow more)

end FileSystem

def FileSystem.searchStart (fs : FileSystem) (search : Option Path) : Path :=
  let cwd : Path := ⟨.single, fs.working⟩
  cwd.resolve (search.getD cwd)

section

variable {fs : FileSystem}

theorem run_bind_of_run {α β : Type} {fs' : FileSystem} {x : StateM FileSystem α} {f : α → StateM FileSystem β}
    {a : α} (h : x.run fs = (a, fs')) : (x >>= f).run fs = (f a).run fs' := by
  rw [StateT.run_bind, h]
  rfl

theorem isFile_run (p : Path) :
    (FileAccess.isFile p : StateM FileSystem _).run fs = (fs.isFile p, fs) := rfl

theorem readBytes_run (p : Path) :
    (FileAccess.readBytes p : StateM FileSystem _).run fs = (fs.readBytes p, fs) := rfl

theorem findProject_skip {below : List Path} (dirs : List Path)
    (h : ∀ d ∈ below, fs.isFile (d.child projectFile) = .ok false) :
    (findProject (below ++ dirs) : StateM FileSystem _).run fs =
      (findProject dirs : StateM FileSystem _).run fs := by
  induction below with
  | nil => rfl
  | cons d below ih =>
      rw [← ih fun d hd => h d (List.mem_cons_of_mem _ hd), List.cons_append, findProject,
        run_bind_of_run (isFile_run _), h d List.mem_cons_self]

theorem findProject_file {dir : Path} {bytes : Text.Bytes} (dirs : List Path)
    (h : fs.find (dir.child projectFile) = .ok (.file bytes)) :
    (findProject (dir :: dirs) : StateM FileSystem _).run fs = (Project.ofBytes dir bytes, fs) := by
  have hfile : fs.isFile (dir.child projectFile) = .ok true := FileSystem.isFile_eq_true.mpr ⟨bytes, h⟩
  have hbytes : fs.readBytes (dir.child projectFile) = .ok bytes := by rw [FileSystem.readBytes, h]
  rw [findProject, run_bind_of_run (isFile_run _), hfile]
  dsimp only
  rw [run_bind_of_run (readBytes_run _), hbytes]
  rfl

theorem loadProject_run {search : Option Path}
    (h : (search.getD ⟨.single, fs.working⟩).hasNull = false) :
    (loadProject search : StateM FileSystem _).run fs =
      (findProject (fs.searchStart search).upward : StateM FileSystem _).run fs := by
  have hcwd : (FileAccess.workingDirectory : StateM FileSystem Path).run fs =
      (⟨.single, fs.working⟩, fs) := rfl
  rw [loadProject, run_bind_of_run hcwd]
  dsimp only
  rw [h, if_neg (by decide)]
  rfl

theorem findProject_nearest {start dir : Path} {bytes : Text.Bytes} (h : fs.Nearest start dir bytes) :
    (findProject start.upward : StateM FileSystem _).run fs = (Project.ofBytes dir bytes, fs) := by
  obtain ⟨below, above, hsplit⟩ := List.append_of_mem (Path.mem_upward.mpr h.above)
  have hpairwise := start.pairwise_upward
  rw [hsplit] at hpairwise ⊢
  rw [findProject_skip _ fun d hd => ?_, findProject_file above h.file]
  refine h.deeper d (Path.mem_upward.mp (by simp [hsplit, hd])) ?_
  exact (List.pairwise_append.mp hpairwise).2.2 d hd dir List.mem_cons_self

theorem findProject_none {start : Path} (h : fs.NoProject start) :
    (findProject start.upward : StateM FileSystem _).run fs = (.ok .empty, fs) := by
  have hskip := findProject_skip [] fun d hd => h d (Path.mem_upward.mp hd)
  rw [List.append_nil] at hskip
  exact hskip

end

end ScriptSplit
