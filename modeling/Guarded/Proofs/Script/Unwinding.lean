import Mathlib.Data.List.Induction
import Guarded.Proofs.Script.Invariant
import Guarded.Proofs.Script.Reached

set_option autoImplicit false

/-! # How an I/O fault leaves a script

No clause catches an I/O fault. The statement at which it arises is the last one to do anything:
from there on the trace holds the ends of the statements around it and nothing more, from the
innermost to the outermost, and the fault is the result of the script.

The proof is one invariant, `Unwound`: a run that ends with an I/O fault leaves a part of the log in
which there was no such fault, followed by the notes of the statements on the way up. -/

namespace Guarded.Script

/-! ## The way up -/

/-- The statements on the way up from a path: the one at the path, the one around it, and so on, by
    `dropLast`, up to the statement in the top block. -/
def Path.upward : Path → List Path
  | [] => []
  | position :: rest => (upward rest).map (position :: ·) ++ [[position]]

theorem Path.upward_concat (path : Path) (position : Position) :
    Path.upward (path ++ [position]) = (path ++ [position]) :: Path.upward path := by
  induction path with
  | nil => rfl
  | cons first rest ih =>
    simp only [List.cons_append, upward, ih, List.map_cons]

example : Path.upward [⟨.body, 0⟩, ⟨.handler 1, 2⟩] =
    [[⟨.body, 0⟩, ⟨.handler 1, 2⟩], [⟨.body, 0⟩]] := rfl

/-- What is above a statement on the way up is the way up from the statement around it. -/
theorem Path.upward_split {path inner : Path} {before after : List Path}
    (h : Path.upward path = before ++ inner :: after) : after = Path.upward inner.dropLast := by
  induction path using List.reverseRecOn generalizing before with
  | nil => simp [upward] at h
  | append_singleton path position ih =>
    rw [upward_concat] at h
    cases before with
    | nil =>
      obtain ⟨rfl, rfl⟩ := List.cons.inj h
      rw [List.dropLast_concat]
    | cons first before => exact ih (List.cons.inj h).2

/-- The notes of the statements at `paths`, which end one after another with the same fault and the
    same variables. -/
def unwinding (error : IoError) (vars : Table Int32) (paths : List Path) : List (Entry Note) :=
  paths.map fun path => .note ⟨path, .error (.io error), vars⟩

/-! ## The invariant -/

/-- No statement that has ended in this part of a log ended with a `Fault.io`. -/
def Calm (log : List (Entry Note)) : Prop :=
  ∀ note, .note note ∈ log → ∀ error, note.outcome ≠ .error (.io error)

theorem Calm.append {log more : List (Entry Note)} (h : Calm log) (h' : Calm more) :
    Calm (log ++ more) := by
  intro note hn
  rcases List.mem_append.mp hn with hn | hn
  · exact h note hn
  · exact h' note hn

theorem calm_nil : Calm [] := by
  intro note hn
  exact absurd hn List.not_mem_nil

theorem calm_events (events : List Event) : Calm (events.map .event) := by
  intro note hn
  simp at hn

/-- What a run below `path` may leave: a `Calm` log, or a calm log and then the `unwinding` up to
    the path from the statement where the fault arose. -/
structure Unwound (path : Path) {α : Type} (run : Run Note (Machine Memory) α) : Prop where
  calm : (∀ error, run.result ≠ .error (.io error)) → Calm run.log
  split : ∀ error, run.result = .error (.io error) → ∃ log way, Calm log ∧ path ++ way ≠ [] ∧
    run.log = log ++ unwinding error run.context.memory.vars ((Path.upward way).map (path ++ ·))

namespace Unwound

variable {α β : Type} {path : Path}

theorem of_calm {run : Run Note (Machine Memory) α} (h : Calm run.log)
    (hr : ∀ error, run.result ≠ .error (.io error)) : Unwound path run :=
  ⟨fun _ => h, fun error hio => absurd hio (hr error)⟩

/-- The fault of a statement that does nothing else. -/
theorem of_leaf {position : Position} {run : Run Note (Machine Memory) α} (h : run.log = []) :
    Unwound (path ++ [position]) run where
  calm := fun _ => by
    rw [h]
    exact calm_nil
  split := fun error _ => ⟨[], [], calm_nil, by simp, by rw [h]; rfl⟩

/-- A `Calm` log before a run, and another value where it has one, change nothing. -/
theorem prepend {run : Run Note (Machine Memory) α} {longer : Run Note (Machine Memory) β}
    {log : List (Entry Note)} (h : Unwound path run) (hl : Calm log)
    (hlog : longer.log = log ++ run.log) (hc : longer.context = run.context)
    (hr : ∀ fault, longer.result = .error fault ↔ run.result = .error fault) :
    Unwound path longer where
  calm := by
    intro hres
    rw [hlog]
    exact hl.append (h.calm fun error hio => hres error ((hr _).mpr hio))
  split := by
    intro error hio
    obtain ⟨more, way, hm, hne, hrun⟩ := h.split error ((hr _).mp hio)
    exact ⟨log ++ more, way, hl.append hm, hne, by rw [hlog, hrun, hc, List.append_assoc]⟩

end Unwound

/-! ## What keeps it -/

theorem unwound_bind {path : Path} {α β : Type} {first : Step α} {next : α → Step β}
    (hf : ∀ machine, Unwound path (first machine))
    (hn : ∀ value machine, Unwound path (next value machine)) (machine : Machine Memory) :
    Unwound path ((first >>= next) machine) := by
  cases h : (first machine).result with
  | ok value =>
    have hcalm : Calm (first machine).log := (hf machine).calm fun error hio => by
      rw [h] at hio
      exact absurd hio (by simp)
    rw [Action.bind_of_ok h]
    exact (hn value _).prepend hcalm rfl rfl fun _ => Iff.rfl
  | error fault =>
    rw [Action.bind_of_error h]
    refine (hf machine).prepend calm_nil rfl rfl fun other => ?_
    rw [h]
    simp only [Except.error.injEq]

/-- The note of a statement is the next one of the `unwinding`. -/
theorem unwound_noting {path : Path} (position : Position) {step : Step Flow}
    (h : ∀ machine, Unwound (path ++ [position]) (step machine)) (machine : Machine Memory) :
    Unwound path (Step.noting (path ++ [position]) step machine) := by
  rw [Step.noting_run]
  refine ⟨?_, ?_⟩
  · intro hr
    refine ((h machine).calm hr).append ?_
    intro note hn error
    obtain rfl := Entry.note.inj (List.mem_singleton.mp hn)
    exact hr error
  · intro error hio
    obtain ⟨log, way, hl, hne, hlog⟩ := (h machine).split error hio
    refine ⟨log, position :: way, hl, by simp, ?_⟩
    simp only at hio
    simp only [hlog, hio, unwinding, Path.upward, List.map_append, List.map_map, List.append_assoc]
    simp [Function.comp_def]

theorem unwound_guarded {path : Path} {α : Type} {block : Block Note (Machine Memory) α}
    (hb : ∀ machine, Unwound path (block.body machine))
    (hc : ∀ clause ∈ block.clauses, ∀ error machine, Unwound path (clause.handler error machine))
    (machine : Machine Memory) : Unwound path (block.run machine) := by
  have hbody := hb machine
  rcases block.run_cases machine with ⟨value, h, hr⟩ | ⟨error, h, hr⟩ |
    ⟨error, position, clause, h, found, hr⟩ | ⟨error, h, _, hr⟩
  · rw [hr]
    exact hbody.prepend calm_nil rfl rfl fun fault => by simp [h]
  · rw [hr]
    exact hbody.prepend calm_nil rfl rfl fun fault => by simp [h]
  · have hcalm := hbody.calm fun error hio => by simp [h] at hio
    have hlog := hcalm.append (calm_events [.exceptionThrown error, .handlerFound position])
    rw [hr]
    exact (hc clause (Clause.first?_mem found) error _).prepend hlog (by simp) rfl
      fun _ => Fault.map_eq_error_iff
  · have hcalm := hbody.calm fun error hio => by simp [h] at hio
    rw [hr]
    exact .of_calm (hcalm.append (calm_events [.exceptionThrown error, .noHandler])) (by simp)

theorem invariant_unwound :
    Invariant fun path {_} step => ∀ machine, Unwound path (step machine) where
  pure _ _ value machine := .of_calm calm_nil (by simp)
  bind hf hn := unwound_bind hf hn
  fail _ _ _ fault machine := .of_leaf rfl
  eval _ _ expr machine := by
    rw [Step.eval_run]
    exact .of_calm (calm_events _) (Fault.mapError_ne_io _)
  setVar _ _ name value machine := .of_leaf rfl
  printLine _ _ line machine := .of_leaf rfl
  noting position _ h := unwound_noting position h
  guarded hb hc := unwound_guarded hb hc

/-! ## Where a fault arises -/

theorem Calm.mono {log more : List (Entry Note)} (h : Calm more) (hsub : log ⊆ more) : Calm log :=
  fun note hn => h note (hsub hn)

/-- A list of statements that ends with a `Fault.io` has a statement that did. -/
theorem not_calm_steps {error : IoError} {caught : Option ArithError} {path : Path} {site : Site}
    (statements : List Statement) (index : Nat) (machine : Machine Memory)
    (h : (steps caught path site index statements machine).result = .error (.io error)) :
    ¬ Calm (steps caught path site index statements machine).log := by
  induction statements generalizing index machine with
  | nil =>
    rw [steps] at h
    simp at h
  | cons statement rest ih =>
    intro hcalm
    rcases steps_cons_cases caught path site index statement rest machine with
      ⟨_, hr⟩ | ⟨_, hr⟩
    · rw [hr] at h hcalm
      exact ih _ _ h (hcalm.mono (List.subset_append_right _ _))
    · rw [hr] at h hcalm
      rw [Step.noting_run] at h hcalm
      exact hcalm _ (List.mem_append_right _ List.mem_cons_self) error h

theorem not_calm_rounds {error : IoError} {caught : Option ArithError} {path : Path}
    {body : List Statement} (number count : Nat) (machine : Machine Memory)
    (h : (Step.rounds (fun number => steps caught path (.round number) 0 body) number count
      machine).result = .error (.io error)) :
    ¬ Calm (Step.rounds (fun number => steps caught path (.round number) 0 body) number count
      machine).log := by
  induction count generalizing number machine with
  | zero => simp [Step.rounds] at h
  | succ count ih =>
    intro hcalm
    rcases rounds_succ_cases (fun number => steps caught path (.round number) 0 body) number count
      machine with ⟨_, hr⟩ | ⟨_, hr⟩
    · rw [hr] at h hcalm
      exact ih _ _ h (hcalm.mono (List.subset_append_right _ _))
    · rw [hr] at h hcalm
      exact not_calm_steps body 0 machine h hcalm

/-- So does a block, in its body or in the handler that caught what the body threw. -/
theorem not_calm_block {error : IoError} {caught : Option ArithError} {path : Path}
    {body : List Statement} {clauses : List (Kind × List Statement)} {machine : Machine Memory}
    (h : ((blockAt caught path body clauses).run machine).result = .error (.io error)) :
    ¬ Calm ((blockAt caught path body clauses).run machine).log := by
  intro hcalm
  rcases blockAt_cases caught path body clauses machine with
    ⟨_, _, hr⟩ | ⟨_, ended, hr⟩ | ⟨_, _, clause, _, _, _, _, handled, hr⟩ | ⟨_, _, _, hr⟩
  · simp [hr] at h
  · rw [hr] at hcalm
    exact not_calm_steps body 0 machine ended hcalm
  · rw [hr, ← handled] at h hcalm
    refine not_calm_steps clause.2 0 _ (Fault.map_eq_error_iff.mp h) (hcalm.mono ?_)
    intro entry he
    simp [he]
  · simp [hr] at h

/-- Before the first note of a `Fault.io`, there is none but that of a statement with `isLeaf`. -/
theorem isLeaf_of_calm {error : IoError} {caught : Option ArithError} {path : Path}
    {statement : Statement} {machine : Machine Memory}
    (h : (statement.step caught path machine).result = .error (.io error))
    (hcalm : Calm (statement.step caught path machine).log) : statement.isLeaf = true := by
  cases statement with
  | loop count body =>
    rw [Statement.step] at h hcalm
    exact absurd hcalm (not_calm_rounds 0 count machine h)
  | guarded body clauses into =>
    obtain ⟨hlog, hres⟩ := step_guarded_run caught path body clauses into machine
    rw [hres, Fault.map_eq_error_iff] at h
    rw [hlog] at hcalm
    exact absurd hcalm (not_calm_block h)
  | _ => rfl

/-- A statement that fails by itself: it is `failIo`, or it prints and the sink refuses what it
    prints. -/
def FailedAt (script : Script) (memory : Memory) (sink : Sink) (path : Path) (error : IoError) :
    Prop :=
  ∃ caught holder site index statement rest machine,
    Reached script memory sink caught (.list holder site index (statement :: rest)) machine ∧
      path = holder ++ [⟨site, index⟩] ∧
      (statement = .failIo error ∨ statement.prints = true ∧ error = machine.sink.refusal)

theorem failedAt_of_calm {script : Script} {memory : Memory} {sink : Sink}
    {before after : List (Entry Note)} {note : Note} {error : IoError}
    (h : (script.answer memory sink).trace = before ++ .note note :: after)
    (hio : note.outcome = .error (.io error)) (hcalm : Calm before) :
    FailedAt script memory sink note.path error := by
  have origin := trace_accounted script memory sink before (.note note) after h
  cases origin with
  | note list hlog =>
    -- what the statement logged itself ends the calm log before its note
    have hleaf := isLeaf_of_calm hio (hcalm.mono hlog.subset)
    exact ⟨_, _, _, _, _, _, _, list, rfl, (leaf_run _ _ hleaf _).io error hio⟩

/-! ## The theorem -/

/-- A `Calm` start of a log ends before every note of an I/O fault. -/
theorem Calm.split {calm rest before after : List (Entry Note)} {note : Note} {error : IoError}
    (h : Calm calm) (hlog : calm ++ rest = before ++ .note note :: after)
    (hio : note.outcome = .error (.io error)) :
    ∃ more, before = calm ++ more ∧ rest = more ++ .note note :: after := by
  rcases List.append_eq_append_iff.mp hlog with ⟨more, hb, hr⟩ | ⟨more, hc, hr⟩
  · exact ⟨more, hb, hr⟩
  · cases more with
    | nil => exact ⟨[], by simpa using hc.symm, by simpa using hr.symm⟩
    | cons first more =>
      obtain ⟨rfl, _⟩ := List.cons.inj hr
      exact absurd hio (h note (by simp [hc]) error)

/-- A log splits in one way at its first note of an I/O fault, the one with a `Calm` log before
    it. -/
theorem Calm.unique {before after before' after' : List (Entry Note)} {note note' : Note}
    {error error' : IoError} (h : Calm before) (h' : Calm before')
    (hlog : before ++ .note note :: after = before' ++ .note note' :: after')
    (hio : note.outcome = .error (.io error)) (hio' : note'.outcome = .error (.io error')) :
    before = before' ∧ note = note' ∧ after = after' := by
  obtain ⟨more, hb, hr⟩ := h.split hlog hio'
  cases more with
  | nil =>
    obtain ⟨hn, ha⟩ := List.cons.inj hr
    exact ⟨by simpa using hb.symm, Entry.note.inj hn, ha⟩
  | cons first more =>
    obtain ⟨rfl, _⟩ := List.cons.inj hr
    exact absurd hio (h' note (by simp [hb]) error)

/-- The notes of an `unwinding`, at one of them. -/
theorem unwinding_split {error : IoError} {vars : Table Int32} {path : Path}
    {before after : List (Entry Note)} {note : Note}
    (h : unwinding error vars (Path.upward path) = before ++ .note note :: after) :
    note.outcome = .error (.io error) ∧ note.vars = vars ∧
      after = unwinding error vars (Path.upward note.path.dropLast) := by
  obtain ⟨inner, outer, hpath, _, houter⟩ := List.map_eq_append_iff.mp h
  obtain ⟨own, around, rfl, hnote, rfl⟩ := List.map_eq_cons_iff.mp houter
  obtain rfl := Entry.note.inj hnote
  exact ⟨rfl, rfl, by rw [Path.upward_split hpath, unwinding]⟩

/-- **I/O faults pass through every guard.** Once a statement has ended with a `Fault.io`, at any
    depth, nothing is left of the run but the `unwinding`: the ends of the statements around it,
    from the innermost to the outermost, with the same fault and the same variables, and no event,
    no handler and no further statement. The fault is the result of the script. And a script that
    ends with an I/O fault has one first statement that did, one that is `FailedAt` its path by
    itself. -/
theorem trace_of_io_fault (script : Script) (memory : Memory) (sink : Sink) :
    let answer := script.answer memory sink
    (∀ before note after error, answer.trace = before ++ .note note :: after →
        note.outcome = .error (.io error) →
        answer.result = .error (.io error) ∧ answer.vars = note.vars ∧
          after = unwinding error note.vars (Path.upward note.path.dropLast) ∧
          (Calm before → FailedAt script memory sink note.path error)) ∧
      ∀ error, answer.result = .error (.io error) →
        ∃! first : List (Entry Note) × Note × List (Entry Note),
          answer.trace = first.1 ++ .note first.2.1 :: first.2.2 ∧
            first.2.1.outcome = .error (.io error) ∧ Calm first.1 := by
  intro answer
  have hrun : Unwound [] (script.run memory sink) :=
    invariant_unwound.script script ⟨memory, sink⟩
  refine ⟨?_, ?_⟩
  · intro before note after error htrace hio
    -- the run is not calm, so an I/O fault is its result
    have hresult : ∃ error, answer.result = .error (.io error) := by
      by_contra hno
      exact hrun.calm (fun error hr => hno ⟨error, hr⟩) note
        (by rw [show (script.run memory sink).log = answer.trace from rfl, htrace]; simp) error hio
    obtain ⟨final, hfinal⟩ := hresult
    obtain ⟨log, way, hcalm, _, hlog⟩ := hrun.split final hfinal
    obtain ⟨more, _, hmore⟩ := hcalm.split (hlog.symm.trans htrace) hio
    simp only [List.nil_append, List.map_id'] at hmore
    obtain ⟨hout, hvars, hafter⟩ := unwinding_split hmore
    obtain rfl : final = error := by simpa [hio] using hout.symm
    refine ⟨hfinal, hvars.symm, ?_, failedAt_of_calm htrace hio⟩
    rw [hafter, hvars]
  · intro error hr
    obtain ⟨log, way, hcalm, hne, hlog⟩ := hrun.split error hr
    rw [List.nil_append] at hne
    -- the innermost statement on the way is the first that failed
    rw [← List.dropLast_concat_getLast hne] at hlog
    simp only [List.nil_append, List.map_id', Path.upward_concat, unwinding, List.map_cons] at hlog
    refine ⟨⟨log, _, _⟩, ⟨hlog, rfl, hcalm⟩, ?_⟩
    rintro ⟨before, note, after⟩ ⟨htrace, hio, hbefore⟩
    obtain ⟨rfl, rfl, rfl⟩ := hbefore.unique hcalm (htrace.symm.trans hlog) hio rfl
    rfl

end Guarded.Script
