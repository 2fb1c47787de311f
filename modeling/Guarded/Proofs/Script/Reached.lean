import Guarded.Proofs.Script.Cases

set_option autoImplicit false

/-! # What a script reaches

A script is run all at once. `Reached` tells its course step by step: which blocks, loops and lists
of statements are entered, with which error caught around them and on which machine. A fact about
all that happens in a script, such as which error enters a handler, is an invariant of `Reached`.

The log can be checked against it: `trace_accounted` finds for every entry of the log what had been
reached when the entry was made. -/

namespace Guarded.Script

/-! ## Reaching -/

/-- Something that a script is about to run: a block, what is `left` of a loop from the round
    `number` on, or what is left of a list of statements. The path is that of the block or loop. -/
inductive Item where
  | block (path : Path) (body : List Statement) (clauses : List (Kind × List Statement))
  | rounds (path : Path) (number left : Nat) (body : List Statement)
  | list (path : Path) (site : Site) (index : Nat) (statements : List Statement)

/-- What a script reaches when it starts on `memory` and `sink`, with the error that is caught
    around it and the machine on which it is about to run. -/
inductive Reached (script : Script) (memory : Memory) (sink : Sink) :
    Option ArithError → Item → Machine Memory → Prop where
  | top : Reached script memory sink none (.block [] script.body script.clauses) ⟨memory, sink⟩
  | body {caught path body clauses machine}
      (block : Reached script memory sink caught (.block path body clauses) machine) :
      Reached script memory sink caught (.list path .body 0 body) machine
  /-- A handler starts on what the body left, and with the error that the body threw. -/
  | handler {caught path body clauses machine error position clause}
      (block : Reached script memory sink caught (.block path body clauses) machine)
      (threw : (steps caught path .body 0 body machine).result = .error (.thrown error))
      (first : firstClause? error.kind clauses = some position)
      (found : clauses[position]? = some clause) :
      Reached script memory sink (some error) (.list path (.handler position) 0 clause.2)
        (steps caught path .body 0 body machine).context
  | nested {caught path site index body clauses into rest machine}
      (list : Reached script memory sink caught
        (.list path site index (.guarded body clauses into :: rest)) machine) :
      Reached script memory sink caught (.block (path ++ [⟨site, index⟩]) body clauses) machine
  | loop {caught path site index count body rest machine}
      (list : Reached script memory sink caught
        (.list path site index (.loop count body :: rest)) machine) :
      Reached script memory sink caught (.rounds (path ++ [⟨site, index⟩]) 0 count body) machine
  | round {caught path number left body machine}
      (rounds : Reached script memory sink caught (.rounds path number (left + 1) body) machine) :
      Reached script memory sink caught (.list path (.round number) 0 body) machine
  | again {caught path number left body machine}
      (rounds : Reached script memory sink caught (.rounds path number (left + 1) body) machine)
      (ended : (steps caught path (.round number) 0 body machine).result = .ok .next) :
      Reached script memory sink caught (.rounds path (number + 1) left body)
        (steps caught path (.round number) 0 body machine).context
  | next {caught path site index statement rest machine}
      (list : Reached script memory sink caught (.list path site index (statement :: rest)) machine)
      (ended : (statement.step caught (path ++ [⟨site, index⟩]) machine).result = .ok .next) :
      Reached script memory sink caught (.list path site (index + 1) rest)
        (statement.step caught (path ++ [⟨site, index⟩]) machine).context

/-! ## Where the entries of a log come from -/

/-- What was reached when an entry was made, and how the log ended `before` it. -/
inductive Origin (script : Script) (memory : Memory) (sink : Sink) (before : List (Entry Note)) :
    Entry Note → Prop where
  | note {caught path site index statement rest machine}
      (list : Reached script memory sink caught (.list path site index (statement :: rest)) machine)
      (log : (statement.step caught (path ++ [⟨site, index⟩]) machine).log <:+ before) :
      Origin script memory sink before
        (.note ⟨path ++ [⟨site, index⟩],
          (statement.step caught (path ++ [⟨site, index⟩]) machine).result,
          (statement.step caught (path ++ [⟨site, index⟩]) machine).context.memory.vars⟩)
  | zeroDivisor {caught path site index statement rest machine op dividend}
      (list : Reached script memory sink caught (.list path site index (statement :: rest)) machine)
      (log : (statement.step caught (path ++ [⟨site, index⟩]) machine).log =
        [.event (.zeroDivisor op dividend)])
      (threw : (statement.step caught (path ++ [⟨site, index⟩]) machine).result =
        .error (.thrown (.divisionByZero op))) :
      Origin script memory sink before (.event (.zeroDivisor op dividend))
  | exceptionThrown {caught path body clauses machine error}
      (block : Reached script memory sink caught (.block path body clauses) machine)
      (threw : (steps caught path .body 0 body machine).result = .error (.thrown error))
      (log : (steps caught path .body 0 body machine).log <:+ before) :
      Origin script memory sink before (.event (.exceptionThrown error))
  | handlerFound {caught path body clauses machine error position}
      (block : Reached script memory sink caught (.block path body clauses) machine)
      (threw : (steps caught path .body 0 body machine).result = .error (.thrown error))
      (first : firstClause? error.kind clauses = some position)
      (log : (steps caught path .body 0 body machine).log ++ [.event (.exceptionThrown error)] <:+
        before) :
      Origin script memory sink before (.event (.handlerFound position))
  | noHandler {caught path body clauses machine error}
      (block : Reached script memory sink caught (.block path body clauses) machine)
      (threw : (steps caught path .body 0 body machine).result = .error (.thrown error))
      (missing : firstClause? error.kind clauses = none)
      (log : (steps caught path .body 0 body machine).log ++ [.event (.exceptionThrown error)] <:+
        before) :
      Origin script memory sink before (.event .noHandler)

variable {script : Script} {memory : Memory} {sink : Sink}

/-- What comes before does not matter, as long as it ends with `before`. -/
theorem Origin.prepend {before : List (Entry Note)} {entry : Entry Note}
    (h : Origin script memory sink before entry) (log : List (Entry Note)) :
    Origin script memory sink (log ++ before) entry := by
  have longer : ∀ {log' : List (Entry Note)}, log' <:+ before → log' <:+ log ++ before :=
    fun hl => hl.trans (List.suffix_append log before)
  cases h with
  | note list hl => exact .note list (longer hl)
  | zeroDivisor list hl threw => exact .zeroDivisor list hl threw
  | exceptionThrown block threw hl => exact .exceptionThrown block threw (longer hl)
  | handlerFound block threw first hl => exact .handlerFound block threw first (longer hl)
  | noHandler block threw missing hl => exact .noHandler block threw missing (longer hl)

/-- A log of which every entry has an `Origin`. -/
def Accounted (script : Script) (memory : Memory) (sink : Sink) (log : List (Entry Note)) : Prop :=
  ∀ before entry after, log = before ++ entry :: after → Origin script memory sink before entry

namespace Accounted

theorem nil : Accounted script memory sink [] := by
  intro before entry after h
  simp at h

/-- A log goes on with an entry whose `Origin` is known. -/
theorem concat {log : List (Entry Note)} {entry : Entry Note} (h : Accounted script memory sink log)
    (he : Origin script memory sink log entry) : Accounted script memory sink (log ++ [entry]) := by
  intro before found after hsplit
  rcases List.append_eq_append_iff.mp hsplit with ⟨more, rfl, hmore⟩ | ⟨more, rfl, hmore⟩
  · cases more with
    | nil =>
      obtain ⟨rfl, _⟩ := List.cons.inj hmore
      rw [List.append_nil]
      exact he
    | cons first more => simp at hmore
  · cases more with
    | nil =>
      obtain ⟨rfl, _⟩ := List.cons.inj hmore
      rw [List.append_nil] at he
      exact he
    | cons first more =>
      obtain ⟨rfl, _⟩ := List.cons.inj hmore
      exact h before _ more rfl

theorem append {log more : List (Entry Note)} (h : Accounted script memory sink log)
    (h' : Accounted script memory sink more) : Accounted script memory sink (log ++ more) := by
  intro before entry after hsplit
  rcases List.append_eq_append_iff.mp hsplit with ⟨middle, rfl, hmiddle⟩ | ⟨middle, rfl, hmiddle⟩
  · exact (h' middle entry after hmiddle).prepend log
  · cases middle with
    | nil =>
      have := (h' [] entry after hmiddle.symm).prepend before
      rwa [List.append_nil] at this
    | cons first middle =>
      obtain ⟨rfl, _⟩ := List.cons.inj hmiddle
      exact h before _ middle rfl

end Accounted

/-! ## Every entry has an origin -/

theorem accounted_leaf {caught : Option ArithError} {path : Path} {site : Site} {index : Nat}
    {statement : Statement} {rest : List Statement} {machine : Machine Memory}
    (list : Reached script memory sink caught (.list path site index (statement :: rest)) machine)
    (h : statement.isLeaf = true) :
    Accounted script memory sink
      (statement.step caught (path ++ [⟨site, index⟩]) machine).log := by
  rcases (leaf_run caught (path ++ [⟨site, index⟩]) h machine).log with
    hlog | ⟨op, dividend, hlog, threw⟩
  · rw [hlog]
    exact .nil
  · rw [hlog]
    exact Accounted.concat .nil (.zeroDivisor list hlog threw)

theorem accounted_block {caught : Option ArithError} {path : Path} {body : List Statement}
    {clauses : List (Kind × List Statement)} {machine : Machine Memory}
    (block : Reached script memory sink caught (.block path body clauses) machine)
    (hb : Accounted script memory sink (steps caught path .body 0 body machine).log)
    (hc : ∀ clause ∈ clauses, ∀ caught path site index machine,
      Reached script memory sink caught (.list path site index clause.2) machine →
        Accounted script memory sink (steps caught path site index clause.2 machine).log) :
    Accounted script memory sink ((blockAt caught path body clauses).run machine).log := by
  rcases blockAt_cases caught path body clauses machine with
    ⟨flow, _, hr⟩ | ⟨error, _, hr⟩ |
    ⟨error, position, clause, after, threw, first, found, handled, hr⟩ | ⟨error, threw, missing, hr⟩
  · rw [hr]
    exact hb
  · rw [hr]
    exact hb
  · have hthrown := hb.concat (.exceptionThrown block threw List.suffix_rfl)
    have hfound := hthrown.concat (.handlerFound block threw first List.suffix_rfl)
    have hhandler := hc clause (List.mem_of_getElem? found) _ path (.handler position) 0 _
      (.handler block threw first found)
    rw [hr, ← handled]
    simpa using hfound.append hhandler
  · have hthrown := hb.concat (.exceptionThrown block threw List.suffix_rfl)
    have hmissing := hthrown.concat (.noHandler block threw missing List.suffix_rfl)
    rw [hr]
    simpa using hmissing

theorem accounted_rounds {caught : Option ArithError} {path : Path} {body : List Statement}
    (hb : ∀ number machine,
      Reached script memory sink caught (.list path (.round number) 0 body) machine →
        Accounted script memory sink (steps caught path (.round number) 0 body machine).log)
    (left number : Nat) (machine : Machine Memory)
    (rounds : Reached script memory sink caught (.rounds path number left body) machine) :
    Accounted script memory sink
      (Step.rounds (fun number => steps caught path (.round number) 0 body) number left
        machine).log := by
  induction left generalizing number machine with
  | zero => exact .nil
  | succ left ih =>
    have hround := hb number machine (.round rounds)
    rcases rounds_succ_cases (fun number => steps caught path (.round number) 0 body) number left
      machine with ⟨ended, hr⟩ | ⟨_, hr⟩
    · rw [hr]
      exact hround.append (ih _ _ (.again rounds ended))
    · rw [hr]
      exact hround

/-- A list is `Accounted` for whose first statement is, and whose rest. -/
theorem accounted_cons {caught : Option ArithError} {path : Path} {site : Site} {index : Nat}
    {statement : Statement} {rest : List Statement} {machine : Machine Memory}
    (list : Reached script memory sink caught (.list path site index (statement :: rest)) machine)
    (hs : Accounted script memory sink
      (statement.step caught (path ++ [⟨site, index⟩]) machine).log)
    (hr : ∀ machine, Reached script memory sink caught (.list path site (index + 1) rest) machine →
      Accounted script memory sink (steps caught path site (index + 1) rest machine).log) :
    Accounted script memory sink
      (steps caught path site index (statement :: rest) machine).log := by
  have hnoted := hs.concat (.note list List.suffix_rfl)
  rcases steps_cons_cases caught path site index statement rest machine with
    ⟨ended, hrun⟩ | ⟨_, hrun⟩
  · rw [hrun]
    -- the note leaves the context of the statement as it is
    exact hnoted.append (hr _ (.next list ended))
  · rw [hrun]
    exact hnoted

theorem accounted_steps (statements : List Statement) :
    ∀ caught path site index machine,
      Reached script memory sink caught (.list path site index statements) machine →
        Accounted script memory sink (steps caught path site index statements machine).log := by
  induction statements using Statement.induction with
  | nil =>
    intro caught path site index machine list
    rw [steps]
    exact .nil
  | leaf statement rest h ih =>
    intro caught path site index machine list
    exact accounted_cons list (accounted_leaf list h) (ih caught path site _)
  | loop count body rest hb ih =>
    intro caught path site index machine list
    refine accounted_cons list ?_ (ih caught path site _)
    rw [Statement.step]
    exact accounted_rounds (fun number => hb caught _ (.round number) 0) count 0 machine
      (.loop list)
  | guarded body clauses into rest hb hc ih =>
    intro caught path site index machine list
    refine accounted_cons list ?_ (ih caught path site _)
    -- setting the variable of the block is silent
    rw [(step_guarded_run caught _ body clauses into machine).1]
    have block := Reached.nested list
    exact accounted_block block (hb _ _ _ _ _ (.body block)) hc

/-- Every entry of the trace of a script was made at something that the script `Reached`. -/
theorem trace_accounted (script : Script) (memory : Memory) (sink : Sink) :
    Accounted script memory sink (script.answer memory sink).trace :=
  accounted_block .top (accounted_steps script.body _ _ _ _ _ (.body .top)) fun clause _ =>
    accounted_steps clause.2

end Guarded.Script
