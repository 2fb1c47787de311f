import Guarded.Proofs.Script.Invariant
import Guarded.Proofs.Script.Reached

set_option autoImplicit false

/-! # Where the log of each part stands in the trace

Every block, loop and list that a script reaches leaves its log as one piece of the trace. The paths
of its notes begin with its own path, and no note before or after the piece has such a path. So a
path tells in which piece of the trace its note is found, and what one construct leaves can be read
off the whole trace.

Main statements: `Reached.part` and, for a single statement, `Reached.noted`. -/

namespace Guarded.Script

/-! ## The paths in a log -/

/-- A log in which the path of every note has the property `P`. -/
def AllAt (P : Path → Prop) (log : List (Entry Note)) : Prop :=
  ∀ note, .note note ∈ log → P note.path

section

variable {P Q : Path → Prop} {log more : List (Entry Note)}

@[simp] theorem allAt_nil : AllAt P [] := by
  simp [AllAt]

@[simp] theorem allAt_append : AllAt P (log ++ more) ↔ AllAt P log ∧ AllAt P more := by
  simp only [AllAt, List.mem_append, or_imp, forall_and]

@[simp] theorem allAt_note {note : Note} :
    AllAt P (.note note :: log) ↔ P note.path ∧ AllAt P log := by
  simp [AllAt]

@[simp] theorem allAt_event {event : Event} : AllAt P (.event event :: log) ↔ AllAt P log := by
  simp [AllAt]

@[simp] theorem allAt_events (events : List Event) : AllAt P (events.map .event) := by
  simp [AllAt]

theorem AllAt.mono (h : AllAt P log) (hpq : ∀ path, P path → Q path) : AllAt Q log :=
  fun note hn => hpq note.path (h note hn)

end

/-- If `path` goes on with `position` and with `place` on the way to one path, they are the same. -/
theorem position_unique {path other : Path} {position place : Position}
    (h : path ++ [position] <+: other) (h' : path ++ [place] <+: other) : position = place := by
  have hsame := List.prefix_of_prefix_length_le h h' (by simp)
  simpa using hsame

/-! ## Notes below a path -/

/-- Whether `other` is the path of a statement that the one at `path` holds, directly or in
    another. -/
def Below (path other : Path) : Prop := ∃ position, path ++ [position] <+: other

theorem Below.trans_prefix {path other : Path} {position : Position}
    (h : Below (path ++ [position]) other) : path ++ [position] <+: other := by
  obtain ⟨inner, hinner⟩ := h
  exact (List.prefix_append _ _).trans hinner

theorem not_below_self (path : Path) : ¬ Below path path := by
  rintro ⟨position, h⟩
  have hlength := h.length_le
  rw [List.length_append, List.length_singleton] at hlength
  omega

theorem allAt_guarded {path : Path} {α : Type} {block : Block Note (Machine Memory) α}
    (hb : ∀ machine, AllAt (Below path) (block.body machine).log)
    (hc : ∀ clause ∈ block.clauses, ∀ error machine,
      AllAt (Below path) (clause.handler error machine).log) (machine : Machine Memory) :
    AllAt (Below path) (block.run machine).log := by
  have hbody := hb machine
  rcases block.run_cases machine with ⟨value, _, hr⟩ | ⟨error, _, hr⟩ |
    ⟨error, position, clause, _, found, hr⟩ | ⟨error, _, _, hr⟩
  · rw [hr]
    exact hbody
  · rw [hr]
    exact hbody
  · have hhandler := hc clause (Clause.first?_mem found) error (block.body machine).context
    rw [hr]
    simp [hbody, hhandler]
  · rw [hr]
    simp [hbody]

/-- What runs at a path leaves notes `Below` it and no others. -/
theorem invariant_below :
    Invariant fun path {_} step => ∀ machine, AllAt (Below path) (step machine).log where
  pure _ _ value machine := allAt_nil
  bind := by
    intro path α β first next hf hn machine
    cases h : (first machine).result with
    | ok value =>
      rw [Action.bind_of_ok h, allAt_append]
      exact ⟨hf machine, hn value _⟩
    | error fault =>
      rw [Action.bind_of_error h]
      exact hf machine
  fail _ _ _ fault machine := allAt_nil
  eval _ _ expr machine := by
    rw [Step.eval_run]
    exact allAt_events _
  setVar _ _ name value machine := allAt_nil
  printLine _ _ line machine := allAt_nil
  noting := by
    intro path position step h machine
    rw [Step.noting_run, allAt_append, allAt_note]
    refine ⟨?_, ⟨position, List.prefix_rfl⟩, allAt_nil⟩
    exact (h machine).mono fun other hother => ⟨position, hother.trans_prefix⟩
  guarded hb hc := allAt_guarded hb hc

/-! ## The positions of an item -/

/-- The path of a block or loop, or of the block or loop that holds a list. -/
def Item.path : Item → Path
  | .block path _ _ => path
  | .rounds path _ _ _ => path
  | .list path _ _ _ => path

/-- The positions, one step below `Item.path`, at which an item may run statements: all in a block,
    those of the rounds from `number` on, and those at `site` from `index` on. -/
def Item.Holds : Item → Position → Prop
  | .block _ _ _, _ => True
  | .rounds _ number _ _, position => ∃ later, number ≤ later ∧ position.site = .round later
  | .list _ site index _, position => position.site = site ∧ index ≤ position.index

/-- The paths of the statements that an item may run, and of those in them: they go on from
    `Item.path` with a position that the item `Holds`. -/
def Item.Owns (item : Item) (path : Path) : Prop :=
  ∃ position, item.Holds position ∧ item.path ++ [position] <+: path

/-- The log that an item leaves when it runs on `machine` with `caught` around it. -/
def Item.log (caught : Option ArithError) (machine : Machine Memory) : Item → List (Entry Note)
  | .block path body clauses => ((blockAt caught path body clauses).run machine).log
  | .rounds path number left body =>
    (Step.rounds (fun number => steps caught path (.round number) 0 body) number left machine).log
  | .list path site index statements => (steps caught path site index statements machine).log

/-- A path that goes on from `Item.path` with a position belongs to an item only if the item `Holds`
    the position. -/
theorem Item.Owns.holds {item : Item} {path other : Path} {position : Position}
    (h : item.Owns other) (hpath : item.path = path) (hother : path ++ [position] <+: other) :
    item.Holds position := by
  subst hpath
  obtain ⟨place, hplace, hprefix⟩ := h
  rwa [position_unique hother hprefix]

/-- What an item `Owns` is owned by the `whole`, if the two have one path and the whole `Holds`
    every position that the item does. -/
theorem Item.Owns.mono {item whole : Item} {path : Path} (h : item.Owns path)
    (hpath : item.path = whole.path)
    (hholds : ∀ position, item.Holds position → whole.Holds position) : whole.Owns path := by
  obtain ⟨position, hposition, hprefix⟩ := h
  exact ⟨position, hholds position hposition, hpath ▸ hprefix⟩

/-- A statement and its note have paths that begin with its own. -/
theorem allAt_noted (caught : Option ArithError) (path : Path) (position : Position)
    (statement : Statement) (machine : Machine Memory) :
    AllAt (path ++ [position] <+: ·)
      (Step.noting (path ++ [position]) (statement.step caught (path ++ [position]))
        machine).log := by
  have hstatement := invariant_below.statement statement caught path position machine
  rw [Step.noting_run, allAt_append, allAt_note]
  exact ⟨hstatement.mono fun other h => h.trans_prefix, List.prefix_rfl, allAt_nil⟩

theorem allAt_steps (caught : Option ArithError) (path : Path) (site : Site)
    (statements : List Statement) (index : Nat) (machine : Machine Memory) :
    AllAt (Item.list path site index statements).Owns
      (steps caught path site index statements machine).log := by
  induction statements generalizing index machine with
  | nil =>
    rw [steps]
    exact allAt_nil
  | cons statement rest ih =>
    have hfirst : AllAt (Item.list path site index (statement :: rest)).Owns
        (Step.noting (path ++ [⟨site, index⟩])
          (statement.step caught (path ++ [⟨site, index⟩])) machine).log :=
      (allAt_noted caught path ⟨site, index⟩ statement machine).mono fun other h =>
        ⟨_, ⟨rfl, Nat.le_refl index⟩, h⟩
    rcases steps_cons_cases caught path site index statement rest machine with
      ⟨_, hr⟩ | ⟨_, hr⟩
    · rw [hr, allAt_append]
      refine ⟨hfirst, (ih _ _).mono fun other h => h.mono rfl ?_⟩
      exact fun position hposition => ⟨hposition.1, Nat.le_of_succ_le hposition.2⟩
    · rw [hr]
      exact hfirst

theorem allAt_rounds (caught : Option ArithError) (path : Path) (body : List Statement)
    (left number : Nat) (machine : Machine Memory) :
    AllAt (Item.rounds path number left body).Owns
      (Step.rounds (fun number => steps caught path (.round number) 0 body) number left
        machine).log := by
  induction left generalizing number machine with
  | zero => exact allAt_nil
  | succ left ih =>
    have hround : AllAt (Item.rounds path number (left + 1) body).Owns
        (steps caught path (.round number) 0 body machine).log :=
      (allAt_steps caught path (.round number) body 0 machine).mono fun other h =>
        h.mono rfl fun position hposition => ⟨number, Nat.le_refl number, hposition.1⟩
    rcases rounds_succ_cases (fun number => steps caught path (.round number) 0 body) number left
      machine with ⟨_, hr⟩ | ⟨_, hr⟩
    · rw [hr, allAt_append]
      refine ⟨hround, (ih _ _).mono fun other h => h.mono rfl ?_⟩
      rintro position ⟨later, hlater, hsite⟩
      exact ⟨later, Nat.le_of_succ_le hlater, hsite⟩
    · rw [hr]
      exact hround

/-! ## Pieces of a log -/

/-- A `piece` of a log that holds every note whose path has the property `P`. -/
def Part (P : Path → Prop) (piece whole : List (Entry Note)) : Prop :=
  ∃ before after, whole = before ++ piece ++ after ∧
    AllAt (fun path => ¬ P path) before ∧ AllAt (fun path => ¬ P path) after

theorem Part.self {P : Path → Prop} {log : List (Entry Note)} : Part P log log :=
  ⟨[], [], by simp, allAt_nil, allAt_nil⟩

/-- A `Part` of a part. -/
theorem Part.trans {P Q : Path → Prop} {piece middle whole : List (Entry Note)}
    (h : Part P piece middle) (h' : Part Q middle whole) (hpq : ∀ path, P path → Q path) :
    Part P piece whole := by
  obtain ⟨before, after, hmiddle, hb, ha⟩ := h
  obtain ⟨before', after', hwhole, hb', ha'⟩ := h'
  have hnot : ∀ path, ¬ Q path → ¬ P path := fun path hq hp => hq (hpq path hp)
  refine ⟨before' ++ before, after ++ after', ?_, ?_, ?_⟩
  · rw [hwhole, hmiddle]
    simp only [List.append_assoc]
  · exact allAt_append.mpr ⟨hb'.mono hnot, hb⟩
  · exact allAt_append.mpr ⟨ha, ha'.mono hnot⟩

/-- A piece before `rest`, in which no note has the property. -/
theorem Part.of_append {P : Path → Prop} {piece rest : List (Entry Note)}
    (h : AllAt (fun path => ¬ P path) rest) : Part P piece (piece ++ rest) :=
  ⟨[], rest, rfl, allAt_nil, h⟩

/-- A piece after `rest`, in which no note has the property. -/
theorem Part.of_prepend {P : Path → Prop} {piece rest : List (Entry Note)}
    (h : AllAt (fun path => ¬ P path) rest) : Part P piece (rest ++ piece) :=
  ⟨rest, [], by rw [List.append_nil], h, allAt_nil⟩

/-- No path is owned by two items at one path if no position is held by both. -/
theorem Item.Owns.elim {item other : Item} {path : Path} (h : item.Owns path)
    (h' : other.Owns path) (hpath : item.path = other.path)
    (hapart : ∀ position, item.Holds position → ¬ other.Holds position) : False := by
  obtain ⟨position, hposition, hprefix⟩ := h
  exact hapart position hposition (h'.holds hpath.symm hprefix)

/-- The run of the first statement, with its note, is a `Part` of the log of a list. -/
theorem part_first (caught : Option ArithError) (path : Path) (site : Site) (index : Nat)
    (statement : Statement) (rest : List Statement) (machine : Machine Memory) :
    Part (path ++ [⟨site, index⟩] <+: ·)
      (Step.noting (path ++ [⟨site, index⟩])
        (statement.step caught (path ++ [⟨site, index⟩])) machine).log
      (steps caught path site index (statement :: rest) machine).log := by
  rcases steps_cons_cases caught path site index statement rest machine with
    ⟨_, hr⟩ | ⟨_, hr⟩
  · rw [hr]
    refine .of_append ((allAt_steps caught path site rest _ _).mono fun other h hown => ?_)
    exact Nat.not_succ_le_self index (h.holds rfl hown).2
  · rw [hr]
    exact .self

/-- What the statements in a statement left is a `Part` of what it left. -/
theorem part_statement (caught : Option ArithError) (path : Path) (position : Position)
    (statement : Statement) (machine : Machine Memory) :
    Part (Below (path ++ [position])) (statement.step caught (path ++ [position]) machine).log
      (Step.noting (path ++ [position]) (statement.step caught (path ++ [position]))
        machine).log := by
  rw [Step.noting_run]
  exact .of_append (by simp [not_below_self])

/-- The log of `rest`, after a first statement that ended with `next`, is a `Part` of the log of the
    list. -/
theorem part_rest {caught : Option ArithError} {path : Path} {site : Site} {index : Nat}
    {statement : Statement} (rest : List Statement) {machine : Machine Memory}
    (ended : (statement.step caught (path ++ [⟨site, index⟩]) machine).result = .ok .next) :
    Part (Item.list path site (index + 1) rest).Owns
      (steps caught path site (index + 1) rest
        (statement.step caught (path ++ [⟨site, index⟩]) machine).context).log
      (steps caught path site index (statement :: rest) machine).log := by
  rcases steps_cons_cases caught path site index statement rest machine with
    ⟨_, hr⟩ | ⟨hstopped, _⟩
  · rw [hr]
    refine .of_prepend ((allAt_noted caught path _ statement machine).mono fun other h hown => ?_)
    exact Nat.not_succ_le_self index (hown.holds rfl h).2
  · exact absurd ended hstopped

theorem part_body (caught : Option ArithError) (path : Path) (body : List Statement)
    (clauses : List (Kind × List Statement)) (machine : Machine Memory) :
    Part (Item.list path .body 0 body).Owns (steps caught path .body 0 body machine).log
      ((blockAt caught path body clauses).run machine).log := by
  rcases blockAt_cases caught path body clauses machine with
    ⟨_, _, hr⟩ | ⟨_, _, hr⟩ | ⟨error, position, clause, _, _, _, _, handled, hr⟩ | ⟨_, _, _, hr⟩
  · rw [hr]
    exact .self
  · rw [hr]
    exact .self
  · rw [hr, ← handled]
    refine .of_append ?_
    rw [allAt_event, allAt_event]
    refine (allAt_steps (some error) path (.handler position) clause.2 0 _).mono ?_
    intro other h hown
    exact h.elim hown rfl fun place hp hp' => by simp [hp.1, Item.Holds] at hp'
  · rw [hr]
    exact .of_append (by simp)

theorem part_handler {caught : Option ArithError} {path : Path} {body : List Statement}
    {clauses : List (Kind × List Statement)} {machine : Machine Memory} {error : ArithError}
    {position : Nat} {clause : Kind × List Statement}
    (threw : (steps caught path .body 0 body machine).result = .error (.thrown error))
    (first : firstClause? error.kind clauses = some position)
    (found : clauses[position]? = some clause) :
    Part (Item.list path (.handler position) 0 clause.2).Owns
      (steps (some error) path (.handler position) 0 clause.2
        (steps caught path .body 0 body machine).context).log
      ((blockAt caught path body clauses).run machine).log := by
  rw [blockAt_of_caught threw first found rfl, List.append_cons, List.append_cons]
  refine .of_prepend ?_
  simp only [allAt_append, allAt_event, allAt_nil, and_true]
  refine (allAt_steps caught path .body body 0 machine).mono ?_
  intro other h hown
  exact h.elim hown rfl fun place hp hp' => by simp [hp.1, Item.Holds] at hp'

theorem part_round (caught : Option ArithError) (path : Path) (number left : Nat)
    (body : List Statement) (machine : Machine Memory) :
    Part (Item.list path (.round number) 0 body).Owns
      (steps caught path (.round number) 0 body machine).log
      (Step.rounds (fun number => steps caught path (.round number) 0 body) number (left + 1)
        machine).log := by
  rcases rounds_succ_cases (fun number => steps caught path (.round number) 0 body) number left
    machine with ⟨_, hr⟩ | ⟨_, hr⟩
  · rw [hr]
    refine .of_append ((allAt_rounds caught path body left (number + 1) _).mono ?_)
    intro other h hown
    refine h.elim hown rfl ?_
    rintro place ⟨later, hlater, hsite⟩ ⟨hround, _⟩
    obtain rfl : later = number := by simpa [hsite] using hround
    exact Nat.not_succ_le_self later hlater
  · rw [hr]
    exact .self

theorem part_again {caught : Option ArithError} {path : Path} {number : Nat} (left : Nat)
    {body : List Statement} {machine : Machine Memory}
    (ended : (steps caught path (.round number) 0 body machine).result = .ok .next) :
    Part (Item.rounds path (number + 1) left body).Owns
      (Step.rounds (fun number => steps caught path (.round number) 0 body) (number + 1) left
        (steps caught path (.round number) 0 body machine).context).log
      (Step.rounds (fun number => steps caught path (.round number) 0 body) number (left + 1)
        machine).log := by
  rcases rounds_succ_cases (fun number => steps caught path (.round number) 0 body) number left
    machine with ⟨_, hr⟩ | ⟨hstopped, _⟩
  · rw [hr]
    refine .of_prepend ((allAt_steps caught path (.round number) body 0 machine).mono ?_)
    intro other h hown
    refine h.elim hown rfl ?_
    rintro place ⟨hround, _⟩ ⟨later, hlater, hsite⟩
    obtain rfl : number = later := by simpa [hround] using hsite
    exact Nat.not_succ_le_self number hlater
  · exact absurd ended hstopped

/-! ## The pieces of the trace -/

variable {script : Script} {memory : Memory} {sink : Sink}

/-- The first statement of a list, with its note, is a `Part` of a log of which the list is one. -/
theorem part_noted {caught : Option ArithError} {path : Path} {site : Site} {index : Nat}
    {statement : Statement} {rest : List Statement} {machine : Machine Memory}
    {whole : List (Entry Note)}
    (h : Part (Item.list path site index (statement :: rest)).Owns
      (steps caught path site index (statement :: rest) machine).log whole) :
    Part (path ++ [⟨site, index⟩] <+: ·)
      (Step.noting (path ++ [⟨site, index⟩])
        (statement.step caught (path ++ [⟨site, index⟩])) machine).log whole :=
  (part_first caught path site index statement rest machine).trans h fun _ hown =>
    ⟨_, ⟨rfl, Nat.le_refl index⟩, hown⟩

/-- So is the block or loop that the statement is, if `item` is the one. -/
theorem part_inside {caught : Option ArithError} {path : Path} {site : Site} {index : Nat}
    {statement : Statement} {rest : List Statement} {machine : Machine Memory}
    {whole : List (Entry Note)} (item : Item) (hitem : item.path = path ++ [⟨site, index⟩])
    (h : Part (Item.list path site index (statement :: rest)).Owns
      (steps caught path site index (statement :: rest) machine).log whole) :
    Part item.Owns (statement.step caught (path ++ [⟨site, index⟩]) machine).log whole := by
  have hbelow := (part_statement caught path ⟨site, index⟩ statement machine).trans (part_noted h)
    fun other hother => hother.trans_prefix
  refine Part.self.trans hbelow ?_
  rintro other ⟨position, _, hprefix⟩
  exact ⟨position, hitem ▸ hprefix⟩

/-- **What a script reaches leaves its log as one piece of the trace**, and no note outside the
    piece is of a statement that the item `Owns`. -/
theorem Reached.part {caught : Option ArithError} {item : Item} {machine : Machine Memory}
    (h : Reached script memory sink caught item machine) :
    Part item.Owns (item.log caught machine) (script.answer memory sink).trace := by
  -- the pieces nest as the items do: what an item owns, the item that led to it owns too
  induction h with
  | top => exact .self
  | body block ih =>
    exact (part_body _ _ _ _ _).trans ih fun other hown => hown.mono rfl fun _ _ => trivial
  | handler block threw first found ih =>
    exact (part_handler threw first found).trans ih fun other hown =>
      hown.mono rfl fun _ _ => trivial
  | @nested caught path site index body clauses into rest machine list ih =>
    have hinside := part_inside (.block (path ++ [⟨site, index⟩]) body clauses) rfl ih
    rw [(step_guarded_run caught _ body clauses into machine).1] at hinside
    exact hinside
  | @loop caught path site index count body rest machine list ih =>
    have hinside := part_inside (.rounds (path ++ [⟨site, index⟩]) 0 count body) rfl ih
    rw [Statement.step] at hinside
    exact hinside
  | round rounds ih =>
    refine (part_round _ _ _ _ _ _).trans ih fun other hown => hown.mono rfl ?_
    exact fun position hposition => ⟨_, Nat.le_refl _, hposition.1⟩
  | again rounds ended ih =>
    refine (part_again _ ended).trans ih fun other hown => hown.mono rfl ?_
    rintro position ⟨later, hlater, hsite⟩
    exact ⟨later, Nat.le_of_succ_le hlater, hsite⟩
  | next list ended ih =>
    refine (part_rest _ ended).trans ih fun other hown => hown.mono rfl ?_
    exact fun position hposition => ⟨hposition.1, Nat.le_of_succ_le hposition.2⟩

/-- The log of a statement of a list and the note after it, in the trace. -/
theorem Reached.noted {caught : Option ArithError} {path : Path} {site : Site} {index : Nat}
    {statement : Statement} {rest : List Statement} {machine : Machine Memory}
    {run : Run Note (Machine Memory) Flow}
    (list : Reached script memory sink caught (.list path site index (statement :: rest)) machine)
    (hrun : statement.step caught (path ++ [⟨site, index⟩]) machine = run) :
    ∃ before after, (script.answer memory sink).trace = before ++ run.log ++
        .note ⟨path ++ [⟨site, index⟩], run.result, run.context.memory.vars⟩ :: after ∧
      AllAt (fun other => ¬ path ++ [⟨site, index⟩] <+: other) before ∧
      AllAt (fun other => ¬ path ++ [⟨site, index⟩] <+: other) after := by
  obtain ⟨before, after, htrace, hb, ha⟩ := part_noted list.part
  rw [Step.noting_run, hrun] at htrace
  refine ⟨before, after, ?_, hb, ha⟩
  rw [htrace]
  simp only [List.append_assoc, List.singleton_append]

/-! ## One note for each path -/

/-- A log splits in one way at a note if no other note on one side of a split has its `path`. -/
theorem split_eq {path : Path} {before after before' after' : List (Entry Note)}
    {note note' : Note} (h : before ++ .note note :: after = before' ++ .note note' :: after')
    (hpath : note.path = path) (hb : AllAt (· ≠ path) before') (ha : AllAt (· ≠ path) after') :
    before = before' ∧ note = note' ∧ after = after' := by
  rcases List.append_eq_append_iff.mp h with ⟨more, rfl, hmore⟩ | ⟨more, rfl, hmore⟩
  · cases more with
    | nil =>
      obtain ⟨hnote, hafter⟩ := List.cons.inj hmore
      exact ⟨(List.append_nil before).symm, Entry.note.inj hnote, hafter⟩
    | cons first more =>
      obtain ⟨rfl, _⟩ := List.cons.inj hmore
      exact absurd hpath (hb note (by simp))
  · cases more with
    | nil =>
      obtain ⟨hnote, hafter⟩ := List.cons.inj hmore
      exact ⟨List.append_nil before', (Entry.note.inj hnote).symm, hafter.symm⟩
    | cons first more =>
      obtain ⟨rfl, rfl⟩ := List.cons.inj hmore
      exact absurd hpath (ha note (by simp))

/-- A note of the trace is the only one of its `path`. -/
theorem sole_note {before after : List (Entry Note)} {note : Note}
    (h : (script.answer memory sink).trace = before ++ .note note :: after) :
    AllAt (· ≠ note.path) before ∧ AllAt (· ≠ note.path) after := by
  have origin := trace_accounted script memory sink before (.note note) after h
  cases origin with
  | @note caught path site index statement rest machine list hlog =>
    obtain ⟨earlier, later, htrace, hb, ha⟩ := list.noted rfl
    -- the statements in the statement are below its path, all others are apart from it
    have hself := invariant_below.statement statement caught path ⟨site, index⟩ machine
    have hearlier : AllAt (· ≠ path ++ [⟨site, index⟩])
        (earlier ++ (statement.step caught (path ++ [⟨site, index⟩]) machine).log) := by
      rw [allAt_append]
      refine ⟨hb.mono ?_, hself.mono ?_⟩
      · rintro other hother rfl
        exact hother List.prefix_rfl
      · rintro other hother rfl
        exact not_below_self _ hother
    have hlater : AllAt (· ≠ path ++ [⟨site, index⟩]) later := by
      refine ha.mono ?_
      rintro other hother rfl
      exact hother List.prefix_rfl
    obtain ⟨rfl, _, rfl⟩ := split_eq (h.symm.trans htrace) rfl hearlier hlater
    exact ⟨hearlier, hlater⟩

/-- The place of a note in the trace is told by its `path`. -/
theorem note_unique {before after before' after' : List (Entry Note)} {note note' : Note}
    (h : (script.answer memory sink).trace = before ++ .note note :: after)
    (h' : (script.answer memory sink).trace = before' ++ .note note' :: after')
    (hpath : note.path = note'.path) : before = before' ∧ note = note' ∧ after = after' := by
  obtain ⟨hb, ha⟩ := sole_note h'
  exact split_eq (h.symm.trans h') hpath hb ha

/-! ## Lists from their first statement -/

/-- A list of which something is left from `index` on was reached as a whole, and what it did before
    stands in its log before what the rest leaves. -/
theorem Reached.started {caught : Option ArithError} {path : Path} {site : Site} {index : Nat}
    {statements : List Statement} {machine : Machine Memory}
    (h : Reached script memory sink caught (.list path site index statements) machine) :
    ∃ all first before, Reached script memory sink caught (.list path site 0 all) first ∧
      steps caught path site 0 all first =
        (steps caught path site index statements machine).prepend before := by
  generalize hitem : Item.list path site index statements = item at h
  induction h generalizing index statements with
  | body block =>
    cases hitem
    exact ⟨_, _, [], .body block, rfl⟩
  | handler block threw first found =>
    cases hitem
    exact ⟨_, _, [], .handler block threw first found, rfl⟩
  | round rounds =>
    cases hitem
    exact ⟨_, _, [], .round rounds, rfl⟩
  | @next caught path site index statement rest machine list ended ih =>
    cases hitem
    obtain ⟨all, first, before, hall, hrun⟩ := ih rfl
    rcases steps_cons_cases caught path site index statement rest machine with
      ⟨_, hr⟩ | ⟨hstopped, _⟩
    · refine ⟨all, first, before ++ (Step.noting (path ++ [⟨site, index⟩])
        (statement.step caught (path ++ [⟨site, index⟩])) machine).log, hall, ?_⟩
      rw [hrun, hr, Run.prepend, Run.prepend, List.append_assoc]
      rfl
    · exact absurd ended hstopped
  | _ => cases hitem

/-! ## What is around a path -/

theorem append_eq_cons_split {path outer below : Path} {last position : Position}
    (h : outer ++ [last] = path ++ position :: below) :
    outer = path ∧ last = position ∨ ∃ inner, outer = path ++ position :: inner := by
  rcases List.eq_nil_or_concat below with rfl | ⟨inner, final, rfl⟩
  · obtain ⟨houter, hlast⟩ := List.append_inj' h rfl
    exact .inl ⟨houter, (List.cons.inj hlast).1⟩
  · rw [List.concat_eq_append, ← List.cons_append, ← List.append_assoc] at h
    exact .inr ⟨inner, (List.append_inj' h rfl).1⟩

/-- Where an item is reached below a statement, the statement was reached in its list. -/
theorem Reached.around {caught : Option ArithError} {item : Item} {machine : Machine Memory}
    (h : Reached script memory sink caught item machine) {path below : Path} {position : Position}
    (hpath : item.path = path ++ position :: below) :
    ∃ caught statement rest machine, Reached script memory sink caught
      (.list path position.site position.index (statement :: rest)) machine := by
  induction h generalizing below with
  | top => simp [Item.path] at hpath
  | body block ih => exact ih hpath
  | handler block threw first found ih => exact ih hpath
  | nested list ih =>
    rcases append_eq_cons_split hpath with ⟨rfl, rfl⟩ | ⟨inner, houter⟩
    · exact ⟨_, _, _, _, list⟩
    · exact ih houter
  | loop list ih =>
    rcases append_eq_cons_split hpath with ⟨rfl, rfl⟩ | ⟨inner, houter⟩
    · exact ⟨_, _, _, _, list⟩
    · exact ih houter
  | round rounds ih => exact ih hpath
  | again rounds ended ih => exact ih hpath
  | next list ended ih => exact ih hpath

/-- A note is of a statement in a list that was `Reached`, and so are the statements around it. -/
theorem reached_of_note {note : Note} (hnote : .note note ∈ (script.answer memory sink).trace)
    {path below : Path} {position : Position} (hpath : note.path = path ++ position :: below) :
    ∃ caught statement rest machine, Reached script memory sink caught
      (.list path position.site position.index (statement :: rest)) machine := by
  obtain ⟨before, after, htrace⟩ := List.append_of_mem hnote
  have origin := trace_accounted script memory sink before (.note note) after htrace
  cases origin with
  | note list hlog =>
    rcases append_eq_cons_split hpath with ⟨rfl, rfl⟩ | ⟨inner, houter⟩
    · exact ⟨_, _, _, _, list⟩
    · exact list.around houter

end Guarded.Script
