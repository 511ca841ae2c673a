import ScriptSplit.Proofs.Outcome
import ScriptSplit.Split

namespace ScriptSplit

structure Patch where
  offset : Int
  before : Text
  after : Text
  deriving DecidableEq, Repr

def Happening.patch? : Happening → Option Patch
  | .mutation _ before after offset => some ⟨offset, before.toList, after.toList⟩
  | _ => none

def Happening.isMark : Happening → Bool
  | .phaseStart .. => true
  | .phaseEnd => true
  | _ => false

@[simp] theorem Binding.isMark_happening (b : Binding) : b.happening.isMark = false := rfl

@[simp] theorem Mutation.isMark_happening (locals : String) (m : Mutation) :
    (m.happening locals).isMark = false := rfl

@[simp] theorem Happening.isMark_phaseStart (name detail : String) :
    (phaseStart name detail).isMark = true := rfl

@[simp] theorem Happening.isMark_phaseEnd : phaseEnd.isMark = true := rfl

namespace Trace

def patches (t : Trace) : List Patch := t.events.filterMap fun e => e.what.patch?

def tell (t : Trace) : Happening → Trace
  | .phaseStart name detail => t.startPhase name detail
  | .phaseEnd => t.endPhase
  | .bindingFound name writable => t.log (.bindingFound name writable)
  | .mutation form before after offset => t.log (.mutation form before after offset)

def tellAll (t : Trace) (what : List Happening) : Trace := what.foldl tell t

theorem tellAll_append (t : Trace) (xs ys : List Happening) :
    t.tellAll (xs ++ ys) = (t.tellAll xs).tellAll ys :=
  List.foldl_append

def findings (t : Trace) : List Happening := (t.events.map Event.what).filter (!·.isMark)

theorem findings_log (t : Trace) (what : Happening) :
    (t.log what).findings = t.findings ++ [what].filter (!·.isMark) := by
  simp [findings, log]

theorem findings_tell (t : Trace) (what : Happening) :
    (t.tell what).findings = t.findings ++ [what].filter (!·.isMark) := by
  cases what with
  | phaseStart name detail => exact t.findings_log (.phaseStart name detail)
  | phaseEnd =>
      -- with no phase open nothing is taken down
      change t.endPhase.findings = _
      unfold endPhase
      split
      · simp
      · exact t.findings_log .phaseEnd
  | bindingFound name writable => exact t.findings_log (.bindingFound name writable)
  | mutation form before after offset => exact t.findings_log (.mutation form before after offset)

theorem findings_tellAll (t : Trace) (what : List Happening) :
    (t.tellAll what).findings = t.findings ++ what.filter (!·.isMark) := by
  induction what generalizing t with
  | nil => simp [tellAll]
  | cons x xs ih =>
      have hstep : t.tellAll (x :: xs) = (t.tell x).tellAll xs := rfl
      rw [hstep, ih, findings_tell, List.append_assoc, ← List.filter_append, List.singleton_append]

theorem filterMap_findings {γ : Type} {view : Happening → Option γ}
    (hview : ∀ x, x.isMark = true → view x = none) (t : Trace) :
    t.findings.filterMap view = t.events.filterMap fun e => view e.what := by
  unfold findings
  rw [List.filterMap_filter, List.filterMap_map]
  refine List.filterMap_congr ?_
  intro e _
  cases he : e.what.isMark <;> simp [hview, he]

theorem filterMap_patch?_findings (t : Trace) : t.findings.filterMap Happening.patch? = t.patches := by
  refine filterMap_findings ?_ t
  intro x hx
  cases x <;> first | rfl | cases hx

end Trace

namespace Traced

variable {α β : Type}

/-- What a step comes to, and what it adds to a trace, whatever came before. -/
def Writes (x : Traced α) (r : Except Stop α) (what : List Happening) : Prop :=
  ∀ t, x.run.run t = (r, t.tellAll what)

theorem writes_lift {x r : Except Stop α} (h : x = r) : Writes (liftM x) r [] := by
  intro t
  subst h
  rfl

theorem writes_log {γ : Type} {f : γ → Happening} (hf : ∀ x t, Trace.tell t (f x) = t.log (f x))
    (xs : List γ) : Writes (log (xs.map f)) (.ok ()) (xs.map f) := by
  have hfold : ∀ t : Trace, (xs.map f).foldl Trace.log t = t.tellAll (xs.map f) := by
    induction xs with
    | nil => exact fun _ => rfl
    | cons x xs ih =>
        intro t
        rw [List.map_cons, List.foldl_cons, ih, ← hf]
        rfl
  intro t
  rw [← hfold]
  rfl

theorem run_bind (x : Traced α) (f : α → Traced β) (t : Trace) :
    (x >>= f).run.run t =
      match (x.run.run t).1 with
      | .ok a => (f a).run.run (x.run.run t).2
      | .error e => (.error e, (x.run.run t).2) := by
  change (ExceptT.bindCont f (x.run.run t).1).run (x.run.run t).2 = _
  cases (x.run.run t).1 <;> rfl

/-- A phase that fails has no end. -/
def ending (r : Except Stop α) : List Happening :=
  match r with
  | .ok _ => [.phaseEnd]
  | .error _ => []

namespace Writes

variable {x : Traced α} {f : α → Traced β} {r : Except Stop β} {xs ys : List Happening}

theorem bind_ok {a : α} (hx : Writes x (.ok a) xs) (hf : Writes (f a) r ys) :
    Writes (x >>= f) r (xs ++ ys) := by
  intro t
  rw [run_bind, hx t, Trace.tellAll_append]
  exact hf _

theorem bind_error {s : Stop} (hx : Writes x (.error s) xs) : Writes (x >>= f) (.error s) xs := by
  intro t
  rw [run_bind, hx t]

theorem phase {r : Except Stop α} (hx : Writes x r xs) (name detail : String) :
    Writes (Traced.phase name detail x) r (.phaseStart name detail :: (xs ++ ending r)) := by
  have hstart : Writes (startPhase name detail) (.ok ()) [.phaseStart name detail] := fun _ => rfl
  have hend : Writes endPhase (.ok ()) [.phaseEnd] := fun _ => rfl
  unfold Traced.phase
  refine hstart.bind_ok ?_
  cases r with
  | error s =>
      change Writes _ _ (xs ++ [])
      rw [List.append_nil]
      exact hx.bind_error
  | ok a => exact hx.bind_ok (hend.bind_ok (writes_lift rfl))

end Writes

end Traced

def Extraction.result (x : Extraction) : Except Stop (List Binding) :=
  match x.refusal with
  | some r => .error (.refused r)
  | .none => .ok x.bindings

theorem Extraction.bindings_of_result {x : Extraction} {bs : List Binding} (h : x.result = .ok bs) :
    bs = x.bindings := by
  unfold Extraction.result at h
  split at h
  · cases h
  · exact (Except.ok.inj h).symm

def Mutation.patch (locals : String) (m : Mutation) : Patch :=
  ⟨m.name.span.start, m.name.name.toList, (m.after locals).toList⟩

theorem writes_extractTraced (o : Options) (code : Text) (ss : List Stmt) :
    (extractTraced o code ss).Writes (extract o.entryName o.legacy code ss).result
      ((extract o.entryName o.legacy code ss).bindings.map Binding.happening) := by
  have hlog := Traced.writes_log (f := Binding.happening) (fun _ _ => rfl)
    (extract o.entryName o.legacy code ss).bindings
  unfold extractTraced Extraction.result
  rw [← List.append_nil (List.map _ _)]
  refine hlog.bind_ok ?_
  cases (extract o.entryName o.legacy code ss).refusal with
  | some r => exact Traced.writes_lift (x := .error (.refused r)) rfl
  | none => exact Traced.writes_lift (x := .ok _) rfl

theorem writes_rerouteTraced (o : Options) (e : EntryPoint) (names : List String) :
    (rerouteTraced o e names).Writes (Prod.fst <$> e.argument.reroute o.rules names e.mainDraft)
      ((e.argument.walk o.legacy names).found.map (Mutation.happening o.localsName)) := by
  have hlog := Traced.writes_log (f := Mutation.happening o.localsName) (fun _ _ => rfl)
    (e.argument.walk o.legacy names).found
  unfold rerouteTraced
  rw [← List.append_nil (List.map _ _)]
  refine hlog.bind_ok ?_
  cases hr : e.argument.reroute o.rules names e.mainDraft with
  | error s => exact (Traced.writes_lift rfl).bind_error
  | ok p => exact (Traced.writes_lift rfl).bind_ok (Traced.writes_lift (x := .ok p.1) rfl)

def prepare (o : Options) (code : Text) (t : Tree) : Except Stop (EntryPoint × List Binding) := do
  let p ← readScript code t
  let e ← p.locate o.entryName code
  let bs ← (extract o.entryName o.legacy code e.others).result
  return (e, bs)

def finish (o : Options) (e : EntryPoint) (bs : List Binding) : Except Stop Modules := do
  let (main, _) ← e.argument.reroute o.rules (bs.map Binding.name) e.mainDraft
  synthesize o e main bs

theorem prepare_eq_ok {o : Options} {code : Text} {t : Tree} {e : EntryPoint} {bs : List Binding}
    (h : prepare o code t = .ok (e, bs)) :
    ∃ p, readScript code t = .ok p ∧ p.locate o.entryName code = .ok e ∧
      (extract o.entryName o.legacy code e.others).result = .ok bs := by
  obtain ⟨p, hp, h⟩ := bind_eq_ok.mp h
  obtain ⟨e', he, h⟩ := bind_eq_ok.mp h
  obtain ⟨bs', hb, h⟩ := bind_eq_ok.mp h
  cases h
  exact ⟨p, hp, he, hb⟩

theorem writes_splitTraced_error {o : Options} {code : Text} {t : Tree} {s : Stop}
    (h : prepare o code t = .error s) : ∃ what, (splitTraced o code t).Writes (.error s) what := by
  rcases bind_eq_error.mp h with hp | ⟨p, hp, h⟩
  · exact ⟨_, ((Traced.writes_lift hp).phase _ _).bind_error.phase _ _⟩
  rcases bind_eq_error.mp h with he | ⟨e, he, h⟩
  · exact ⟨_, (((Traced.writes_lift hp).phase _ _).bind_ok
      ((Traced.writes_lift he).phase _ _).bind_error).phase _ _⟩
  rcases bind_eq_error.mp h with hb | ⟨bs, _, h⟩
  · have hextract := writes_extractTraced o code e.others
    rw [hb] at hextract
    exact ⟨_, (((Traced.writes_lift hp).phase _ _).bind_ok (((Traced.writes_lift he).phase _ _).bind_ok
      (hextract.phase _ _).bind_error)).phase _ _⟩
  · cases h

def finishTraced (o : Options) (e : EntryPoint) (bs : List Binding) : Traced Modules := do
  let main ← Traced.phase "Rewriting" "Entry argument" (rerouteTraced o e (bs.map Binding.name))
  Traced.phase "Synthesis" "Locals export and main header" (synthesize o e main bs)

theorem writes_finishTraced (o : Options) (e : EntryPoint) (bs : List Binding) :
    ∃ what, (finishTraced o e bs).Writes (finish o e bs) what ∧ what.filter (!·.isMark) =
      (e.argument.walk o.legacy (bs.map Binding.name)).found.map (Mutation.happening o.localsName) := by
  have hreroute := writes_rerouteTraced o e (bs.map Binding.name)
  unfold finish
  cases hr : e.argument.reroute o.rules (bs.map Binding.name) e.mainDraft with
  | error s =>
      rw [hr] at hreroute
      refine ⟨_, (hreroute.phase _ _).bind_error, ?_⟩
      simp [Traced.ending, Functor.map, Except.map]
  | ok r =>
      rw [hr] at hreroute
      refine ⟨_, (hreroute.phase _ _).bind_ok ((Traced.writes_lift rfl).phase _ _), ?_⟩
      cases synthesize o e r.1 bs <;> simp [Traced.ending, Functor.map, Except.map]

theorem writes_splitTraced_ok {o : Options} {code : Text} {t : Tree} {e : EntryPoint} {bs : List Binding}
    (h : prepare o code t = .ok (e, bs)) :
    ∃ what, (splitTraced o code t).Writes (finish o e bs) what ∧
      what.filter (!·.isMark) = bs.map Binding.happening ++
        (e.argument.walk o.legacy (bs.map Binding.name)).found.map (Mutation.happening o.localsName) := by
  obtain ⟨p, hp, he, hb⟩ := prepare_eq_ok h
  have hextract := writes_extractTraced o code e.others
  rw [hb, ← Extraction.bindings_of_result hb] at hextract
  obtain ⟨what, hfinish, hfound⟩ := writes_finishTraced o e bs
  refine ⟨_, (((Traced.writes_lift hp).phase _ _).bind_ok (((Traced.writes_lift he).phase _ _).bind_ok
    ((hextract.phase _ _).bind_ok hfinish))).phase _ _, ?_⟩
  cases finish o e bs <;> simp [Traced.ending, hfound]

theorem split_eq (o : Options) (code : Text) (t : Tree) :
    split o code t = prepare o code t >>= fun x => finish o x.1 x.2 := by
  cases h : prepare o code t with
  | error s =>
      obtain ⟨what, hwrites⟩ := writes_splitTraced_error h
      exact congrArg Prod.fst (hwrites Trace.empty)
  | ok x =>
      obtain ⟨what, hwrites, _⟩ := writes_splitTraced_ok h
      exact congrArg Prod.fst (hwrites Trace.empty)

theorem findings_trySplit {o : Options} {code : Text} {t : Tree} {e : EntryPoint} {bs : List Binding}
    (h : prepare o code t = .ok (e, bs)) :
    (trySplit o code t).trace.findings = bs.map Binding.happening ++
      (e.argument.walk o.legacy (bs.map Binding.name)).found.map (Mutation.happening o.localsName) := by
  obtain ⟨what, hwrites, hfound⟩ := writes_splitTraced_ok h
  have htrace : (trySplit o code t).trace = Trace.empty.tellAll what :=
    congrArg Prod.snd (hwrites Trace.empty)
  rw [htrace, Trace.findings_tellAll, hfound]
  rfl

theorem patches_trySplit {o : Options} {code : Text} {t : Tree} {e : EntryPoint} {bs : List Binding}
    (h : prepare o code t = .ok (e, bs)) :
    (trySplit o code t).trace.patches =
      (e.argument.walk o.legacy (bs.map Binding.name)).found.map (Mutation.patch o.localsName) := by
  have hbindings : (bs.map Binding.happening).filterMap Happening.patch? = [] := by
    simp [Binding.happening, Happening.patch?]
  rw [← Trace.filterMap_patch?_findings, findings_trySplit h, List.filterMap_append, hbindings,
    List.nil_append, List.filterMap_map]
  exact congrFun (List.filterMap_eq_map (f := Mutation.patch o.localsName)) _

theorem finish_eq_ok {o : Options} {e : EntryPoint} {bs : List Binding} {m : Modules}
    (h : finish o e bs = .ok m) :
    ∃ d d' found, e.argument.reroute o.rules (bs.map Binding.name) e.mainDraft = .ok (d, found) ∧
      d.wrapMain o.localsName e.call.start e.call.stop e.argument.span.start e.argument.span.stop =
        .ok d' ∧
      m = ⟨(e.localsDraft.exportLocals bs).render, d'.render, bs⟩ := by
  obtain ⟨⟨d, found⟩, hd, h⟩ := bind_eq_ok.mp h
  obtain ⟨d', hd', h⟩ := bind_eq_ok.mp h
  cases h
  exact ⟨d, d', found, hd, mapError_eq_ok.mp hd', rfl⟩

theorem split_eq_ok {o : Options} {code : Text} {t : Tree} {m : Modules} (h : split o code t = .ok m) :
    ∃ e bs, prepare o code t = .ok (e, bs) ∧ finish o e bs = .ok m := by
  rw [split_eq] at h
  obtain ⟨⟨e, bs⟩, hprepare, hfinish⟩ := bind_eq_ok.mp h
  exact ⟨e, bs, hprepare, hfinish⟩

end ScriptSplit
