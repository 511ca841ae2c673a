import ScriptSplit.Proofs.Nearest
import ScriptSplit.Proofs.PathText

/-!
Settings in layers: for each field the value that is given, else the entry in the table of the nearest
project, else the default. Nothing but the nearest project file is ever read, and what is given for
every field leaves it without effect.
-/

namespace ScriptSplit

def Field.isPath : Field → Bool
  | .inputPath | .localsOut | .mainOut => true
  | _ => false

def Value.isString : Value → Bool
  | .text _ => true
  | _ => false

structure Overrides where
  localsName : Option String
  entryName : Option String
  dialect : Option String
  legacyScoping : Option Bool
  inputPath : Option String
  localsOut : Option String
  mainOut : Option String
  deriving DecidableEq, Repr

namespace Overrides

def given (o : Overrides) : Given where
  localsName := o.localsName.map .text
  entryName := o.entryName.map .text
  dialect := o.dialect.map .text
  legacyScoping := o.legacyScoping.map .bool
  inputPath := o.inputPath.map .text
  localsOut := o.localsOut.map .text
  mainOut := o.mainOut.map .text

/-- An empty name is none. -/
def nameValue (given : Option String) : Option Value := (given.filter (· ≠ "")).map .text

def value (o : Overrides) : Field → Option Value
  | .localsName => nameValue o.localsName
  | .entryName => nameValue o.entryName
  | .dialect => nameValue o.dialect
  | .legacyScoping => o.legacyScoping.map .bool
  | .inputPath => o.inputPath.map .text
  | .localsOut => o.localsOut.map .text
  | .mainOut => o.mainOut.map .text

/-- The paths as they are passed on, each written anew. -/
def stored (o : Overrides) : Overrides where
  localsName := o.localsName
  entryName := o.entryName
  dialect := o.dialect
  legacyScoping := o.legacyScoping
  inputPath := o.inputPath.map fun s => (Path.ofString s).text
  localsOut := o.localsOut.map fun s => (Path.ofString s).text
  mainOut := o.mainOut.map fun s => (Path.ofString s).text

end Overrides

structure Layer where
  directory : Path
  entries : List (String × Value)

namespace Layer

/-- A path that is no path from the root is seen from the directory of the project. -/
def seen (l : Layer) : Value → Value
  | .text s => .text (l.directory.join (.ofString s)).text
  | v => v

def value (l : Layer) (f : Field) : Option Value :=
  (Value.lookup l.entries f.name).map fun v => if f.isPath then l.seen v else v

def Sound (l : Layer) : Prop :=
  ∀ f ∈ Field.all, f.isPath = true → (Value.lookup l.entries f.name).all Value.isString = true

instance (l : Layer) : Decidable l.Sound :=
  inferInstanceAs (Decidable (∀ f ∈ Field.all, f.isPath = true → _ = true))

def project : Option Layer → Project
  | none => .empty
  | some l => ⟨.table l.entries, some l.directory⟩

end Layer

def Given.ofValues (values : Field → Option Value) : Given where
  localsName := values .localsName
  entryName := values .entryName
  dialect := values .dialect
  legacyScoping := values .legacyScoping
  inputPath := values .inputPath
  localsOut := values .localsOut
  mainOut := values .mainOut

/-- What the bytes of a project file come to: nothing, where they are no TOML, or else the entries of
the program's own table, in which paths are texts. A table that is not there has no entries. -/
inductive Describes (dir : Path) (bytes : Text.Bytes) : Option Layer → Prop where
  | unparsable {t : Text} (text : Text.decode bytes = .ok t) (misread : Toml.read t = .error .misread) :
      Describes dir bytes none
  | table {t : Text} {fields tools entries : List (String × Value)} (text : Text.decode bytes = .ok t)
      (document : Toml.read t = .ok fields) (tool : entryOf fields "tool" = .table tools)
      (own : entryOf tools "ts_hotswap" = .table entries) (sound : (Layer.mk dir entries).Sound) :
      Describes dir bytes (some ⟨dir, entries⟩)

namespace FileSystem

/-- The layer under what is given: that of the nearest project file from `start` upward. -/
inductive InForce (fs : FileSystem) (start : Path) : Option Layer → Prop where
  | absent (nowhere : fs.NoProject start) : InForce fs start none
  | nearest {dir : Path} {bytes : Text.Bytes} {layer : Option Layer} (file : fs.Nearest start dir bytes)
      (describes : Describes dir bytes layer) : InForce fs start layer

/-- A search can be made: its path is one that can be asked about, in its directory a project file can be
looked for, and the nearest one is a text whose tables are tables. -/
structure Searchable (fs : FileSystem) (search : Option Path) : Prop where
  named : (search.getD ⟨.single, fs.working⟩).hasNull = false
  home : ∀ name ∈ fs.working, Path.IsName name
  visible : ∃ found, fs.isFile ((fs.searchStart search).child projectFile) = .ok found
  sound : ∀ dir bytes, fs.Nearest (fs.searchStart search) dir bytes → ∃ layer, Describes dir bytes layer

theorem Searchable.exists_inForce {fs : FileSystem} {search : Option Path} (h : fs.Searchable search) :
    ∃ layer, fs.InForce (fs.searchStart search) layer := by
  rcases (inSight_of_isFile h.visible).nearest with hnone | ⟨dir, bytes, hnear⟩
  · exact ⟨none, .absent hnone⟩
  · obtain ⟨layer, hlayer⟩ := h.sound dir bytes hnear
    exact ⟨layer, .nearest hnear hlayer⟩

end FileSystem

section Project

variable {dir : Path} {bytes : Text.Bytes} {layer : Option Layer}

theorem Describes.ofBytes (h : Describes dir bytes layer) :
    Project.ofBytes dir bytes = .ok (Layer.project layer) := by
  cases h with
  | unparsable htext hmisread =>
      simp [Project.ofBytes, htext, Except.mapError, bind, Except.bind, Project.ofText, hmisread,
        Layer.project]
  | table htext hdocument htool hown _ =>
      simp [Project.ofBytes, htext, Except.mapError, bind, Except.bind, Project.ofText, hdocument, htool,
        hown, Layer.project]

theorem Describes.sound (h : Describes dir bytes layer) : ∀ l ∈ layer, l.Sound ∧ l.directory = dir := by
  cases h with
  | unparsable => simp
  | table _ _ _ _ hsound =>
      rintro l ⟨⟩
      exact ⟨hsound, rfl⟩

theorem FileSystem.InForce.sound {fs : FileSystem} {start : Path} (h : fs.InForce start layer) :
    ∀ l ∈ layer, l.Sound := by
  cases h with
  | absent => simp
  | nearest _ hdescribes => exact fun l hl => (hdescribes.sound l hl).1

theorem loadProject_nearest {fs : FileSystem} {search : Option Path}
    (hnull : (search.getD ⟨.single, fs.working⟩).hasNull = false)
    (h : fs.Nearest (fs.searchStart search) dir bytes) :
    (loadProject search : StateM FileSystem _).run fs = (Project.ofBytes dir bytes, fs) := by
  rw [loadProject_run hnull, findProject_nearest h]

theorem loadProject_inForce {fs : FileSystem} {search : Option Path}
    (hnull : (search.getD ⟨.single, fs.working⟩).hasNull = false)
    (h : fs.InForce (fs.searchStart search) layer) :
    (loadProject search : StateM FileSystem _).run fs = (.ok (Layer.project layer), fs) := by
  cases h with
  | absent hnone => rw [loadProject_run hnull, findProject_none hnone, Layer.project]
  | nearest hnear hdescribes => rw [loadProject_nearest hnull hnear, hdescribes.ofBytes]

end Project

section Fields

variable {layer : Option Layer} {f : Field}

theorem Layer.Sound.eq_text {l : Layer} {v : Value} (h : l.Sound) (hf : f.isPath = true)
    (hv : Value.lookup l.entries f.name = some v) : ∃ s, v = .text s := by
  have hall : f ∈ Field.all := by cases f <;> decide
  have hstring := h f hall hf
  rw [hv] at hstring
  cases v with
  | text s => exact ⟨s, rfl⟩
  | _ => cases hstring

theorem Layer.value_of_isPath_false (l : Layer) (hf : f.isPath = false) :
    l.value f = Value.lookup l.entries f.name := by
  simp [value, hf]

theorem Layer.value_project (hf : f.isPath = false) :
    (Layer.project layer).value f = .ok (layer.bind (·.value f)) := by
  cases layer with
  | none => rfl
  | some l => simp [project, Project.value, l.value_of_isPath_false hf]

theorem Layer.path_project (hf : f.isPath = true) (hsound : ∀ l ∈ layer, l.Sound) :
    (Layer.project layer).path f = .ok (layer.bind (·.value f)) := by
  cases layer with
  | none => rfl
  | some l =>
      cases hv : Value.lookup l.entries f.name with
      | none => simp [project, Project.path, Project.pathValue, value, hv, bind, Except.bind, pure, Except.pure]
      | some v =>
          obtain ⟨s, rfl⟩ := (hsound l rfl).eq_text hf hv
          simp [project, Project.path, Project.pathValue, value, seen, hv, hf, pathText, bind, Except.bind,
            pure, Except.pure]

theorem layerName_project (given : Option String) (hf : f.isPath = false) :
    layerName (given.map .text) (Layer.project layer) f =
      .ok ((Overrides.nameValue given).or (layer.bind (·.value f))) := by
  cases given with
  | none => exact Layer.value_project hf
  | some s =>
      by_cases hs : s = ""
      · simpa [layerName, Value.isGiven, Overrides.nameValue, Option.filter, hs] using Layer.value_project hf
      · simp [layerName, Value.isGiven, Overrides.nameValue, Option.filter, hs]

theorem layerFlag_project (given : Option Bool) (hf : f.isPath = false) :
    layerFlag (given.map .bool) (Layer.project layer) f =
      .ok ((given.map .bool).or (layer.bind (·.value f))) := by
  cases given with
  | none => exact Layer.value_project hf
  | some b => rfl

theorem layerPath_project (given : Option String) (hf : f.isPath = true) (hsound : ∀ l ∈ layer, l.Sound) :
    layerPath (given.map .text) (Layer.project layer) f =
      .ok (((given.map fun s => (Path.ofString s).text).map .text).or (layer.bind (·.value f))) := by
  cases given with
  | none => exact Layer.path_project hf hsound
  | some s => rfl

end Fields

namespace Settings

theorem field_congr {α : Type} {f : Field} {d : α} {read : Value → Except Flaw α} {v v' : Option Value}
    (h : v.map read = v'.map read) : field f d read v = field f d read v' := by
  cases v with
  | none =>
      cases v' with
      | none => rfl
      | some v' => cases h
  | some v =>
      cases v' with
      | none => cases h
      | some v' =>
          have hread : read v = read v' := Option.some.inj h
          rw [field, field, hread]

theorem ofGiven_congr {g g' : Given} (hlocals : g.localsName = g'.localsName)
    (hentry : g.entryName = g'.entryName) (hdialect : g.dialect = g'.dialect)
    (hlegacy : g.legacyScoping = g'.legacyScoping)
    (hinput : g.inputPath.map Value.asPath = g'.inputPath.map Value.asPath)
    (hout : g.localsOut.map Value.asPath = g'.localsOut.map Value.asPath)
    (hmain : g.mainOut.map Value.asPath = g'.mainOut.map Value.asPath) : ofGiven g = ofGiven g' := by
  unfold ofGiven
  rw [hlocals, hentry, hdialect, hlegacy, field_congr hinput, field_congr hout, field_congr hmain]

end Settings

theorem asPath_stored (given : Option String) (rest : Option Value) :
    (((given.map fun s => (Path.ofString s).text).map Value.text).or rest).map Value.asPath =
      ((given.map Value.text).or rest).map Value.asPath := by
  cases given with
  | none => rfl
  | some s => simp [Value.asPath, Path.ofString_text (Path.plain_ofString s)]

def Overrides.atop (o : Overrides) (layer : Option Layer) : Given :=
  .ofValues fun f => (o.value f).or (layer.bind (·.value f))

theorem Overrides.layered_project {layer : Option Layer} (o : Overrides) (hsound : ∀ l ∈ layer, l.Sound) :
    o.given.layered (Layer.project layer) = .ok (o.stored.atop layer) := by
  unfold Given.layered Overrides.given
  rw [layerFlag_project _ rfl, layerName_project _ rfl, layerName_project _ rfl, layerName_project _ rfl,
    layerPath_project _ rfl hsound, layerPath_project _ rfl hsound, layerPath_project _ rfl hsound]
  rfl

theorem Overrides.ofGiven_stored (o : Overrides) (layer : Option Layer) :
    Settings.ofGiven (o.stored.atop layer) = Settings.ofGiven (o.atop layer) :=
  Settings.ofGiven_congr rfl rfl rfl rfl (asPath_stored _ _) (asPath_stored _ _) (asPath_stored _ _)

theorem Overrides.atop_of_full {o : Overrides} (h : ∀ f, (o.value f).isSome = true) (layer : Option Layer) :
    o.atop layer = .ofValues o.value := by
  unfold atop
  congr 1
  funext f
  obtain ⟨v, hv⟩ := Option.isSome_iff_exists.mp (h f)
  rw [hv, Option.some_or]

section Load

variable {fs fs' : FileSystem} {search : Option Path}

theorem load_of_project {p : Project} {g g' : Given}
    (hload : (loadProject search : StateM FileSystem _).run fs = (.ok p, fs)) (hg : g.layered p = .ok g') :
    (Settings.load search g : StateM FileSystem _).run fs = ((Settings.ofGiven g').mapError .flawed, fs) := by
  rw [Settings.load, run_bind_of_run hload]
  dsimp only
  rw [hg]
  rfl

theorem load_congr {r : Except Unreadable Project} (g : Given)
    (h : (loadProject search : StateM FileSystem _).run fs = (r, fs))
    (h' : (loadProject search : StateM FileSystem _).run fs' = (r, fs')) :
    ((Settings.load search g : StateM FileSystem _).run fs').1 =
      ((Settings.load search g : StateM FileSystem _).run fs).1 := by
  rw [Settings.load, run_bind_of_run h, run_bind_of_run h']
  cases r with
  | error u => rfl
  | ok p =>
      dsimp only
      cases g.layered p with
      | error u => rfl
      | ok g' => rfl

theorem load_inForce {layer : Option Layer} (hnull : (search.getD ⟨.single, fs.working⟩).hasNull = false)
    (h : fs.InForce (fs.searchStart search) layer) (o : Overrides) :
    (Settings.load search o.given : StateM FileSystem _).run fs =
      ((Settings.ofGiven (o.atop layer)).mapError .flawed, fs) := by
  rw [load_of_project (loadProject_inForce hnull h) (o.layered_project h.sound), o.ofGiven_stored]

end Load

section Paths

variable {fs : FileSystem} {start : Path}

theorem FileSystem.plain_searchStart (hhome : ∀ name ∈ fs.working, Path.IsName name) (search : Option String) :
    (fs.searchStart (search.map .ofString)).Plain := by
  have hcwd : (Path.mk .single fs.working).Plain := hhome
  refine hcwd.resolve ?_
  cases search with
  | none => exact hcwd
  | some s => exact Path.plain_ofString s

theorem FileSystem.InForce.plain {l : Layer} (h : fs.InForce start (some l)) (hstart : start.Plain) :
    l.directory.Plain := by
  cases h with
  | nearest hnear hdescribes =>
      obtain ⟨_, hdir⟩ := hdescribes.sound l rfl
      intro name hname
      rw [hdir] at hname
      exact hstart name (hnear.above.parts.subset hname)

theorem Layer.asPath_value {l : Layer} {f : Field} {s : String} (hl : l.directory.Plain)
    (hf : f.isPath = true) (hs : Value.lookup l.entries f.name = some (.text s)) :
    (l.value f).map Value.asPath = some (.ok (l.directory.join (.ofString s))) := by
  simp [value, hs, hf, seen, Value.asPath, Path.ofString_text (hl.join (Path.plain_ofString s))]

end Paths

/-- Settings are made of what is given over the layer in force over the defaults. A path of the layer
is seen from its directory. Project files above the nearest one make no difference, and where all
fields are given none does. -/
theorem Settings.load_in_layers (fs : FileSystem) (search : Option String)
    (h : fs.Searchable (search.map .ofString)) :
    (∃ layer, fs.InForce (fs.searchStart (search.map .ofString)) layer) ∧
    (∀ layer, fs.InForce (fs.searchStart (search.map .ofString)) layer → ∀ o : Overrides,
      (Settings.load (search.map .ofString) o.given : StateM FileSystem _).run fs =
        ((Settings.ofGiven (o.atop layer)).mapError .flawed, fs)) ∧
    (∀ l, fs.InForce (fs.searchStart (search.map .ofString)) (some l) → ∀ (f : Field) (s : String),
      f.isPath = true → Value.lookup l.entries f.name = some (.text s) →
        (l.value f).map Value.asPath = some (.ok (l.directory.join (.ofString s)))) ∧
    (∀ (dir : Path) (bytes : Text.Bytes) (fs' : FileSystem),
      fs.Nearest (fs.searchStart (search.map .ofString)) dir bytes → fs'.working = fs.working →
      (∀ d : Path, d.AtOrAbove (fs.searchStart (search.map .ofString)) → dir.AtOrAbove d →
        fs'.find (d.child projectFile) = fs.find (d.child projectFile)) →
      ∀ g : Given, ((Settings.load (search.map .ofString) g : StateM FileSystem _).run fs').1 =
        ((Settings.load (search.map .ofString) g : StateM FileSystem _).run fs).1) ∧
    (∀ o : Overrides, (∀ f, (o.value f).isSome = true) →
      (Settings.load (search.map .ofString) o.given : StateM FileSystem _).run fs =
        ((Settings.ofGiven (.ofValues o.value)).mapError .flawed, fs)) := by
  refine ⟨h.exists_inForce, fun layer hlayer => load_inForce h.named hlayer, ?_, ?_, ?_⟩
  · intro l hl f s hf hs
    exact Layer.asPath_value (hl.plain (FileSystem.plain_searchStart h.home search)) hf hs
  · intro dir bytes fs' hnear hworking hagree g
    have hstart : fs'.searchStart (search.map .ofString) = fs.searchStart (search.map .ofString) := by
      rw [FileSystem.searchStart, FileSystem.searchStart, hworking]
    have hnear' := hnear.of_agrees hagree
    rw [← hstart] at hnear'
    refine load_congr g (loadProject_nearest h.named hnear) (loadProject_nearest ?_ hnear')
    rw [hworking]
    exact h.named
  · intro o hfull
    obtain ⟨layer, hlayer⟩ := h.exists_inForce
    rw [load_inForce h.named hlayer, Overrides.atop_of_full hfull]

namespace Sample

def innerProject : Text := "[tool.ts_hotswap]\nentry_name=\"inner\"\ninput_path=\"x.ts\"".toList

def outerProject : Text := "[tool.ts_hotswap]\nentry_name=\"outer\"\ndialect=\"tsx\"".toList

def nestedProjects : FileSystem where
  objects :=
    [(["pyproject.toml"], .file (Text.encode outerProject)), (["a"], .directory),
    (["a", "pyproject.toml"], .file (Text.encode innerProject)), (["a", "b"], .directory)]
  working := ["a", "b"]
  full := []

def ownEntries (t : Text) : Option (List (String × Value)) :=
  match Toml.read t with
  | .ok fields =>
      match entryOf fields "tool" with
      | .table tools =>
          match entryOf tools "ts_hotswap" with
          | .table entries => some entries
          | _ => none
      | _ => none
  | .error _ => none

theorem describes_of_ownEntries {dir : Path} {bytes : Text.Bytes} {t : Text} {entries : List (String × Value)}
    (htext : Text.decode bytes = .ok t) (hown : ownEntries t = some entries)
    (hsound : (Layer.mk dir entries).Sound) : Describes dir bytes (some ⟨dir, entries⟩) := by
  unfold ownEntries at hown
  split at hown
  · rename_i fields hfields
    split at hown
    · rename_i tools htools
      split at hown
      · rename_i own hentries
        obtain rfl : own = entries := Option.some.inj hown
        exact .table htext hfields htools hentries hsound
      · cases hown
    · cases hown
  · cases hown

theorem eq_ok_of_toOption {ε α : Type} {x : Except ε α} {a : α} (h : x.toOption = some a) : x = .ok a := by
  cases x with
  | error e => cases h
  | ok b => exact congrArg Except.ok (Option.some.inj h)

theorem exists_described : ∃ entries,
    Describes ⟨.single, ["a"]⟩ (Text.encode innerProject) (some ⟨⟨.single, ["a"]⟩, entries⟩) ∧
      (Value.lookup entries "input_path").any (isText "x.ts") = true := by
  have htext : Text.decode (Text.encode innerProject) = .ok innerProject :=
    eq_ok_of_toOption (by decide +kernel)
  have htest : (ownEntries innerProject).any (fun entries =>
      decide (Layer.mk ⟨.single, ["a"]⟩ entries).Sound &&
        (Value.lookup entries "input_path").any (isText "x.ts")) = true := by decide +kernel
  cases hown : ownEntries innerProject with
  | none => simp [hown] at htest
  | some entries =>
      rw [hown, Option.any_some, Bool.and_eq_true, decide_eq_true_eq] at htest
      exact ⟨entries, describes_of_ownEntries htext hown htest.1, htest.2⟩

theorem nearest_nestedProjects : nestedProjects.Nearest (nestedProjects.searchStart none)
    ⟨.single, ["a"]⟩ (Text.encode innerProject) where
  above := ⟨rfl, by decide⟩
  file := eq_ok_of_toOption (by decide +kernel)
  deeper := by
    have htest : ∀ d ∈ (nestedProjects.searchStart none).upward, 1 < d.parts.length →
        (nestedProjects.isFile (d.child projectFile)).toOption = some false := by decide +kernel
    exact fun d hd hlonger => eq_ok_of_toOption (htest d (Path.mem_upward.mpr hd) hlonger)

theorem searchable_nestedProjects : nestedProjects.Searchable none where
  named := by decide +kernel
  home := by
    intro name hname
    rcases List.mem_cons.mp hname with rfl | hname
    · exact ⟨by decide, by decide, by decide⟩
    · obtain rfl := List.mem_singleton.mp hname
      exact ⟨by decide, by decide, by decide⟩
  visible := ⟨false, eq_ok_of_toOption (by decide +kernel)⟩
  sound := by
    intro dir bytes hnear
    obtain ⟨rfl, rfl⟩ := hnear.unique nearest_nestedProjects
    obtain ⟨entries, hdescribes, _⟩ := exists_described
    exact ⟨_, hdescribes⟩

end Sample

/-- The inner project counts, and its path is seen from its own directory. -/
theorem Settings.load_in_nestedProjects : Sample.nestedProjects.Searchable none ∧
    ∃ l : Layer, (l.value .inputPath).map Value.asPath = some (.ok ⟨.single, ["a", "x.ts"]⟩) ∧
      ∀ o : Overrides, (Settings.load none o.given : StateM FileSystem _).run Sample.nestedProjects =
        ((Settings.ofGiven (o.atop (some l))).mapError .flawed, Sample.nestedProjects) := by
  obtain ⟨_, hload, hpath, _⟩ :=
    Settings.load_in_layers Sample.nestedProjects none Sample.searchable_nestedProjects
  obtain ⟨entries, hdescribes, hinput⟩ := Sample.exists_described
  have hforce := FileSystem.InForce.nearest Sample.nearest_nestedProjects hdescribes
  refine ⟨Sample.searchable_nestedProjects, _, ?_, hload _ hforce⟩
  have hlookup : Value.lookup entries "input_path" = some (.text "x.ts") := by
    cases hv : Value.lookup entries "input_path" with
    | none => simp [hv] at hinput
    | some v =>
        cases v with
        | text s => simp_all [isText]
        | _ => simp [hv, isText] at hinput
  have hjoin : Path.join ⟨.single, ["a"]⟩ (.ofString "x.ts") = ⟨.single, ["a", "x.ts"]⟩ := by decide +kernel
  rw [hpath _ hforce .inputPath "x.ts" rfl hlookup]
  exact congrArg (some ∘ Except.ok) hjoin

namespace Sample

def overlongName : String := String.ofList (List.replicate 256 'n')

/-- There is no project file to be found from `search` upward, and still no settings are made, although
the defaults would do. -/
structure LoadsNothing (fs : FileSystem) (search : Path) : Prop where
  nowhere : ∀ d ∈ (fs.searchStart (some search)).upward, (fs.look (d.child projectFile)) = none
  defaults : (Settings.ofGiven .nothing).toOption = some Settings.default
  nothing : ((Settings.load (some search) .nothing : StateM FileSystem _).run fs).1.toOption = none

end Sample

/-- A search from a name that no directory can have ends in an error. -/
theorem Settings.load_unsearchable :
    Sample.LoadsNothing ⟨[], [], []⟩ (.ofString Sample.overlongName) ∧
      Sample.LoadsNothing ⟨[], [], []⟩ (.ofString "a\x00b") :=
  ⟨⟨by decide +kernel, by decide +kernel, by decide +kernel⟩,
    ⟨by decide +kernel, by decide +kernel, by decide +kernel⟩⟩

end ScriptSplit
