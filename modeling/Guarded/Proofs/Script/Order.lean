import Guarded.Proofs.Script.PathText
import Guarded.Proofs.Script.Placement
import Guarded.Proofs.Script.Replay

set_option autoImplicit false

/-! # The order of execution

The notes of a trace tell in which order the statements of a script ran. No statement has two notes.
A list of statements runs from its first statement on, one after another, up to the first that does
not go on to the next. A block runs one handler at most, after its body and because of how the body
ended. And what ends a list within a block ends no list around the block, unless it is a fault: when
the body or the handler of a block ends with a value, the block goes on to the next statement.

Main statement: `trace_in_order`. -/

namespace Guarded.Script

variable {script : Script} {memory : Memory} {sink : Sink}

/-! ## Paths as they are written -/

/-- The notes of a log. -/
def notesOf (log : List (Entry Note)) : List Note := log.filterMap Entry.note?

theorem mem_notesOf {log : List (Entry Note)} {note : Note} :
    note ∈ notesOf log ↔ .note note ∈ log := by
  rw [notesOf, List.mem_filterMap]
  constructor
  · rintro ⟨entry, hentry, hsome⟩
    cases entry with
    | event event => cases hsome
    | note found =>
      obtain rfl : found = note := Option.some.inj hsome
      exact hentry
  · intro hnote
    exact ⟨.note note, hnote, rfl⟩

/-- The paths of a log, as `Path.text` writes them. -/
def writtenPaths (log : List (Entry Note)) : List String :=
  (notesOf log).map fun note => note.path.text

theorem nodup_writtenPaths {log : List (Entry Note)}
    (h : ∀ before note after, log = before ++ .note note :: after → AllAt (· ≠ note.path) after) :
    (writtenPaths log).Nodup := by
  induction log with
  | nil => exact List.nodup_nil
  | cons entry rest ih =>
    have hrest : (writtenPaths rest).Nodup := by
      refine ih fun before note after hsplit => h (entry :: before) note after ?_
      rw [hsplit, List.cons_append]
    cases entry with
    | event event => exact hrest
    | note note =>
      refine List.nodup_cons.mpr ⟨?_, hrest⟩
      intro hmem
      obtain ⟨other, hother, htext⟩ := List.mem_map.mp hmem
      exact h [] note rest rfl other (mem_notesOf.mp hother) (Path.text_injective htext)

/-! ## The statements of one list -/

/-- A list that is run from its first statement on: the body or a handler of a block at `path`, or a
    round of a loop there, as the `site` says. -/
def Executes (script : Script) (memory : Memory) (sink : Sink) (path : Path) (site : Site)
    (statements : List Statement) : Prop :=
  ∃ caught machine, Reached script memory sink caught (.list path site 0 statements) machine

/-- The index of the statement of a note, if it stands in the list at `site` of the block or loop at
    `path`. -/
def Note.indexIn? (path : Path) (site : Site) (note : Note) : Option Nat :=
  match note.path.getLast? with
  | some position =>
    if note.path = path ++ [position] ∧ position.site = site then some position.index else none
  | none => none

theorem Note.indexIn?_eq_some_iff {path : Path} {site : Site} {note : Note} {index : Nat} :
    note.indexIn? path site = some index ↔ note.path = path ++ [⟨site, index⟩] := by
  constructor
  · intro h
    unfold indexIn? at h
    split at h
    · rename_i position hlast
      split at h
      · rename_i hposition
        obtain ⟨hpath, rfl⟩ := hposition
        obtain rfl := Option.some.inj h
        exact hpath
      · cases h
    · cases h
  · intro h
    simp [indexIn?, h]

/-- The entries of a list in a log: the indices of its statements by `Note.indexIn?`, and how they
    ended. -/
def entriesOf (path : Path) (site : Site) (log : List (Entry Note)) :
    List (Nat × Except Fault Flow) :=
  (notesOf log).filterMap fun note =>
    (note.indexIn? path site).map fun index => (index, note.outcome)

theorem entriesOf_append (path : Path) (site : Site) (log more : List (Entry Note)) :
    entriesOf path site (log ++ more) = entriesOf path site log ++ entriesOf path site more := by
  simp only [entriesOf, notesOf, List.filterMap_append]

theorem entriesOf_note {path : Path} {site : Site} {index : Nat} {outcome : Except Fault Flow}
    {vars : Table Int32} :
    entriesOf path site [.note ⟨path ++ [⟨site, index⟩], outcome, vars⟩] = [(index, outcome)] := by
  have hindex : Note.indexIn? path site ⟨path ++ [⟨site, index⟩], outcome, vars⟩ = some index :=
    Note.indexIn?_eq_some_iff.mpr rfl
  simp [entriesOf, notesOf, Entry.note?, hindex]

theorem entriesOf_eq_nil {path : Path} {site : Site} {log : List (Entry Note)}
    (h : AllAt (fun other => ∀ index, other ≠ path ++ [⟨site, index⟩]) log) :
    entriesOf path site log = [] := by
  rw [entriesOf, List.filterMap_eq_nil_iff]
  intro note hnote
  rw [Option.map_eq_none_iff, Option.eq_none_iff_forall_ne_some]
  intro index hindex
  exact h note (mem_notesOf.mp hnote) index (Note.indexIn?_eq_some_iff.mp hindex)

/-- The entries of a list in the `whole` are those in its own piece. -/
theorem entriesOf_of_part {path : Path} {site : Site} {statements : List Statement}
    {piece whole : List (Entry Note)}
    (h : Part (Item.list path site 0 statements).Owns piece whole) :
    entriesOf path site whole = entriesOf path site piece := by
  obtain ⟨before, after, rfl, hb, ha⟩ := h
  have houtside : ∀ {other}, ¬ (Item.list path site 0 statements).Owns other →
      ∀ index, other ≠ path ++ [⟨site, index⟩] := by
    rintro other hother index rfl
    exact hother ⟨_, ⟨rfl, Nat.zero_le index⟩, List.prefix_rfl⟩
  rw [entriesOf_append, entriesOf_append, entriesOf_eq_nil (hb.mono fun _ => houtside),
    entriesOf_eq_nil (ha.mono fun _ => houtside), List.nil_append, List.append_nil]

/-- A statement is one entry of its list, whatever the statements in it did. -/
theorem entriesOf_noted (caught : Option ArithError) (path : Path) (site : Site) (index : Nat)
    (statement : Statement) (machine : Machine Memory) :
    entriesOf path site (Step.noting (path ++ [⟨site, index⟩])
        (statement.step caught (path ++ [⟨site, index⟩])) machine).log =
      [(index, (statement.step caught (path ++ [⟨site, index⟩]) machine).result)] := by
  have hinner := invariant_below.statement statement caught path ⟨site, index⟩ machine
  rw [Step.noting_run, entriesOf_append, entriesOf_note, entriesOf_eq_nil, List.nil_append]
  refine hinner.mono ?_
  rintro other ⟨position, hprefix⟩ place rfl
  have hlength := hprefix.length_le
  simp only [List.length_append, List.length_singleton] at hlength
  omega

/-- Entries of a list of the given `length`, from the index `start` on: no index is left out, all
    but the last went on to the next, and where some statements have no entry the last one did not
    go on. -/
structure InOrder (start length : Nat) (entries : List (Nat × Except Fault Flow)) : Prop where
  indices : entries.map Prod.fst = List.range' start entries.length
  within : entries.length ≤ length
  earlier : ∀ entry ∈ entries.dropLast, entry.2 = .ok .next
  stopped : entries.length < length →
    ∃ last, entries.getLast? = some last ∧ last.2 ≠ .ok .next

theorem InOrder.nil (start : Nat) : InOrder start 0 [] where
  indices := rfl
  within := Nat.le_refl 0
  earlier := by simp
  stopped := fun h => absurd h (Nat.lt_irrefl 0)

theorem InOrder.stop {outcome : Except Fault Flow} (h : outcome ≠ .ok .next) (start length : Nat) :
    InOrder start (length + 1) [(start, outcome)] where
  indices := rfl
  within := Nat.succ_le_succ (Nat.zero_le length)
  earlier := by simp
  stopped := fun _ => ⟨_, rfl, h⟩

theorem InOrder.cons {start length : Nat} {entries : List (Nat × Except Fault Flow)}
    (h : InOrder (start + 1) length entries) :
    InOrder start (length + 1) ((start, .ok .next) :: entries) where
  indices := by
    rw [List.map_cons, h.indices, List.length_cons, List.range'_succ]
  within := Nat.succ_le_succ h.within
  earlier := by
    intro entry hentry
    cases entries with
    | nil => simp at hentry
    | cons second rest =>
      rw [List.dropLast_cons_cons] at hentry
      rcases List.mem_cons.mp hentry with rfl | hentry
      · rfl
      · exact h.earlier entry hentry
  stopped := by
    intro hlt
    obtain ⟨last, hlast, hstop⟩ := h.stopped (Nat.lt_of_succ_lt_succ hlt)
    refine ⟨last, ?_, hstop⟩
    rw [List.getLast?_cons, hlast, Option.getD_some]

theorem inOrder_steps (caught : Option ArithError) (path : Path) (site : Site)
    (statements : List Statement) (index : Nat) (machine : Machine Memory) :
    InOrder index statements.length
      (entriesOf path site (steps caught path site index statements machine).log) := by
  induction statements generalizing index machine with
  | nil =>
    rw [steps]
    exact .nil index
  | cons statement rest ih =>
    have hfirst := entriesOf_noted caught path site index statement machine
    rcases steps_cons_cases caught path site index statement rest machine with
      ⟨ended, hr⟩ | ⟨stopped, hr⟩
    · have ended : (statement.step caught (path ++ [⟨site, index⟩]) machine).result = .ok .next :=
        ended
      rw [hr, entriesOf_append, hfirst, ended]
      exact (ih (index + 1) _).cons
    · rw [hr, hfirst]
      exact .stop stopped index rest.length

theorem Reached.inOrder {caught : Option ArithError} {path : Path} {site : Site}
    {statements : List Statement} {machine : Machine Memory}
    (list : Reached script memory sink caught (.list path site 0 statements) machine) :
    InOrder 0 statements.length (entriesOf path site (script.answer memory sink).trace) := by
  rw [entriesOf_of_part list.part]
  exact inOrder_steps caught path site statements 0 machine

/-! ## What is reached stands in the script -/

/-- Whether an item is what `statementAt?` has at the path of the item. -/
def Item.IsOf (script : Script) : Item → Prop
  | .block path body clauses => ∃ into, script.statementAt? path = some (.guarded body clauses into)
  | .rounds path _ _ body => ∃ count, script.statementAt? path = some (.loop count body)
  | .list path site index statements => Stands script path site index statements

theorem Reached.isOf {caught : Option ArithError} {item : Item} {machine : Machine Memory}
    (h : Reached script memory sink caught item machine) : item.IsOf script := by
  induction h with
  | top => exact ⟨none, rfl⟩
  | body block ih =>
    obtain ⟨into, hat⟩ := ih
    exact stands_list hat rfl
  | handler block threw first found ih =>
    obtain ⟨into, hat⟩ := ih
    exact stands_list hat (by simp [Statement.list?, found])
  | nested list ih => exact ⟨_, ih.head⟩
  | loop list ih => exact ⟨_, ih.head⟩
  | round rounds ih =>
    obtain ⟨count, hat⟩ := ih
    exact stands_list hat rfl
  | again rounds ended ih => exact ih
  | next list ended ih => exact ih.tail

theorem Reached.listed {caught : Option ArithError} {path : Path} {site : Site}
    {statements : List Statement} {machine : Machine Memory}
    (list : Reached script memory sink caught (.list path site 0 statements) machine) :
    ∃ holder, script.statementAt? path = some holder ∧ holder.list? site = some statements := by
  cases list with
  | body block =>
    obtain ⟨into, hat⟩ := block.isOf
    exact ⟨_, hat, rfl⟩
  | handler block threw first found =>
    obtain ⟨into, hat⟩ := block.isOf
    exact ⟨_, hat, by simp [Statement.list?, found]⟩
  | round rounds =>
    obtain ⟨count, hat⟩ := rounds.isOf
    exact ⟨_, hat, rfl⟩

/-! ## Handlers -/

/-- The only handler that the block at `path` enters, in a trace: it is entered at once when the
    body has ended with an error for which its clause is `firstClause?`. Before, no statement of a
    handler of the block has run; after, no statement of the block runs but those of this
    handler. -/
inductive Handled (script : Script) (trace : List (Entry Note)) (path : Path) (position : Nat) :
    Prop where
  | entered (before after : List (Entry Note)) (index : Nat) (error : ArithError)
      (vars : Table Int32) (body : List Statement) (clauses : List (Kind × List Statement))
      (into : Option String)
      (block : script.statementAt? path = some (.guarded body clauses into))
      (first : firstClause? error.kind clauses = some position)
      (log : trace = before ++ .note ⟨path ++ [⟨.body, index⟩], .error (.thrown error), vars⟩ ::
        .event (.exceptionThrown error) :: .event (.handlerFound position) :: after)
      (earlier : AllAt (fun other => ∀ clause index,
        ¬ path ++ [⟨.handler clause, index⟩] <+: other) before)
      (later : AllAt (fun other => ∀ place, path ++ [place] <+: other →
        place.site = .handler position) after)

theorem Reached.handled {caught : Option ArithError} {path : Path} {position : Nat}
    {statements : List Statement} {machine : Machine Memory}
    (list : Reached script memory sink caught (.list path (.handler position) 0 statements)
      machine) :
    Handled script (script.answer memory sink).trace path position := by
  cases list with
  | @handler caught path body clauses machine error position clause block threw first found =>
    obtain ⟨into, hat⟩ := block.isOf
    obtain ⟨before, after, htrace, hb, ha⟩ := block.part
    have hbody := allAt_steps caught path .body body 0 machine
    have hhandler := allAt_steps (some error) path (.handler position) clause.2 0
      (steps caught path .body 0 body machine).context
    generalize hrun : steps (some error) path (.handler position) 0 clause.2
      (steps caught path .body 0 body machine).context = handled at hhandler
    -- a body without statements throws nothing, so the error has a note
    have hne : body ≠ [] := by
      rintro rfl
      simp [steps] at threw
    obtain ⟨log, index, vars, _, hlog⟩ := log_of_steps caught path .body 0 hne machine
    rw [hlog, allAt_append] at hbody
    rw [Item.log, blockAt_of_caught threw first found hrun, hlog, threw, Nat.zero_add] at htrace
    refine .entered (before ++ log) (handled.log ++ after) index error vars body clauses into hat
      first (htrace.trans ?_) ?_ ?_
    · simp only [List.append_assoc, List.cons_append, List.nil_append]
    · rw [allAt_append]
      refine ⟨hb.mono ?_, hbody.1.mono ?_⟩
      · exact fun other hother place index hprefix => hother ⟨_, trivial, hprefix⟩
      · exact fun other hown place index hprefix => by simpa using (hown.holds rfl hprefix).1
    · rw [allAt_append]
      refine ⟨hhandler.mono ?_, ha.mono ?_⟩
      · exact fun other hown place hprefix => (hown.holds rfl hprefix).1
      · exact fun other hother place hprefix => absurd ⟨place, trivial, hprefix⟩ hother

/-! ## Where a block ends -/

/-- What follows the last entry of a block: the note of the block with `outcome`, and then nothing
    of the block. A script ends where its own block ends. -/
def Closes (path : Path) (outcome : Except Fault Flow) (rest : List (Entry Note)) : Prop :=
  path = [] ∧ rest = [] ∨
    ∃ vars later, rest = .note ⟨path, outcome, vars⟩ :: later ∧
      AllAt (fun other => ¬ path <+: other) later

theorem Reached.closes {caught : Option ArithError} {path : Path} {body : List Statement}
    {clauses : List (Kind × List Statement)} {machine : Machine Memory}
    {run : Run Note (Machine Memory) (Ending (Option Int32))}
    (block : Reached script memory sink caught (.block path body clauses) machine)
    (hrun : (blockAt caught path body clauses).run machine = run) :
    ∃ before after, (script.answer memory sink).trace = before ++ run.log ++ after ∧
      Closes path (run.result.map fun _ => .next) after := by
  subst hrun
  cases block with
  | top => exact ⟨[], [], (List.append_nil _).symm, .inl ⟨rfl, rfl⟩⟩
  | @nested caught path site index body clauses into rest machine list =>
    obtain ⟨before, after, htrace, _, ha⟩ := list.noted rfl
    obtain ⟨hlog, hresult⟩ :=
      step_guarded_run caught (path ++ [⟨site, index⟩]) body clauses into machine
    rw [hlog, hresult] at htrace
    exact ⟨before, _, htrace, .inr ⟨_, after, rfl, ha⟩⟩

/-- A list of a block that `Closes` the block: a handler always does, and a body does if it throws
    nothing. -/
theorem Reached.list_closes {caught : Option ArithError} {path : Path} {site : Site}
    {statements : List Statement} {machine : Machine Memory}
    {run : Run Note (Machine Memory) Flow}
    (list : Reached script memory sink caught (.list path site 0 statements) machine)
    (hrun : steps caught path site 0 statements machine = run)
    (hsite : ∀ number, site ≠ .round number)
    (hbody : site = .body → ∀ error, run.result ≠ .error (.thrown error)) :
    ∃ before after, (script.answer memory sink).trace = before ++ run.log ++ after ∧
      Closes path (run.result.map fun _ => .next) after := by
  cases list with
  | @body caught path statements clauses machine block =>
    have hcases := blockAt_cases caught path statements clauses machine
    rw [hrun] at hcases
    rcases hcases with ⟨flow, ended, hr⟩ | ⟨error, ended, hr⟩ | ⟨error, _, _, _, ended, _⟩ |
      ⟨error, ended, _⟩
    · rw [ended]
      exact block.closes hr
    · rw [ended]
      exact block.closes hr
    · exact absurd ended (hbody rfl error)
    · exact absurd ended (hbody rfl error)
  | @handler caught path body clauses machine error position clause block threw first found =>
    obtain ⟨before, after, htrace, hcloses⟩ :=
      block.closes (blockAt_of_caught threw first found hrun)
    refine ⟨before ++ (steps caught path .body 0 body machine).log ++
      [.event (.exceptionThrown error), .event (.handlerFound position)], after, ?_, ?_⟩
    · rw [htrace]
      simp only [List.append_assoc, List.cons_append, List.nil_append]
    · cases hresult : run.result <;> simpa [hresult, Except.map] using hcloses
  | round rounds => exact absurd rfl (hsite _)

/-- A statement whose outcome is not `next` is the last of its list. -/
theorem Reached.ended {caught : Option ArithError} {path : Path} {site : Site} {index : Nat}
    {statement : Statement} {rest : List Statement} {machine : Machine Memory}
    {run : Run Note (Machine Memory) Flow}
    (list : Reached script memory sink caught (.list path site index (statement :: rest)) machine)
    (hrun : statement.step caught (path ++ [⟨site, index⟩]) machine = run)
    (hstop : run.result ≠ .ok .next) :
    ∃ all first before, Reached script memory sink caught (.list path site 0 all) first ∧
      steps caught path site 0 all first =
        ⟨before ++ [.note ⟨path ++ [⟨site, index⟩], run.result, run.context.memory.vars⟩],
          run.context, run.result⟩ := by
  subst hrun
  obtain ⟨all, first, before, hall, hlist⟩ := list.started
  rcases steps_cons_cases caught path site index statement rest machine with
    ⟨ended, _⟩ | ⟨_, hr⟩
  · exact absurd ended hstop
  · refine ⟨all, first, before ++ (statement.step caught (path ++ [⟨site, index⟩]) machine).log,
      hall, ?_⟩
    rw [hlist, hr, Step.noting_run, Run.prepend, ← List.append_assoc]

/-- A statement of a block's body or handler whose outcome is not `next` ends the block, unless it
    is in the body and throws. -/
theorem closes_of_note {before after : List (Entry Note)} {note : Note}
    (htrace : (script.answer memory sink).trace = before ++ .note note :: after) {path : Path}
    {site : Site} {index : Nat} (hpath : note.path = path ++ [⟨site, index⟩])
    (hstop : note.outcome ≠ .ok .next) (hsite : ∀ number, site ≠ .round number)
    (hbody : site = .body → ∀ error, note.outcome ≠ .error (.thrown error)) :
    Closes path (note.outcome.map fun _ => .next) after := by
  have origin := trace_accounted script memory sink before (.note note) after htrace
  cases origin with
  | note list hlog =>
    obtain ⟨rfl, hposition⟩ := List.append_inj' hpath rfl
    obtain ⟨rfl, rfl⟩ := Position.mk.inj (List.cons.inj hposition).1
    obtain ⟨all, first, earlier, hall, hrun⟩ := list.ended rfl hstop
    obtain ⟨before', after', htrace', hcloses⟩ := hall.list_closes hrun hsite hbody
    rw [← List.append_assoc, List.append_assoc _ _ after', List.singleton_append] at htrace'
    obtain ⟨_, _, rfl⟩ := note_unique htrace htrace' rfl
    exact hcloses

/-- A block has no value of its own: its outcome is never `gaveBack`. -/
theorem outcome_of_guarded {before after : List (Entry Note)} {note : Note}
    (htrace : (script.answer memory sink).trace = before ++ .note note :: after)
    {body : List Statement} {clauses : List (Kind × List Statement)} {into : Option String}
    (hat : script.statementAt? note.path = some (.guarded body clauses into))
    (value : Option Int32) : note.outcome ≠ .ok (.gaveBack value) := by
  have origin := trace_accounted script memory sink before (.note note) after htrace
  cases origin with
  | @note caught path site index statement rest machine list hlog =>
    have hstands : Stands script path site index (statement :: rest) := list.isOf
    obtain rfl : statement = .guarded body clauses into :=
      Option.some.inj (hstands.head.symm.trans hat)
    rw [(step_guarded_run caught _ body clauses into machine).2]
    cases ((blockAt caught (path ++ [⟨site, index⟩]) body clauses).run machine).result <;>
      simp [Except.map]

/-! ## The theorem -/

/-- **Execution order and at most one handler.** No path is written twice. Every statement that has
    a note, and every statement around it, is in a list that was executed from its start, as
    `Executes` says. The entries of an executed list are `InOrder`: those of its first statements,
    one after another, and all but the last went on to the next; if some statement of the list has
    no entry, the last one did not go on. A handler is `Handled`: it is entered because its clause
    is the first for the error with which the body ended, after all that the body did, and it is the
    only one of its block. A block itself never ends with a value: when its body or handler does,
    the entry `Closes` the block as one that goes on to the next statement. And when its handler
    fails, the entry `Closes` the block with the same fault, and nothing of the block follows. -/
theorem trace_in_order (script : Script) (memory : Memory) (sink : Sink) :
    let trace := (script.answer memory sink).trace
    (writtenPaths trace).Nodup ∧
      (∀ note, .note note ∈ trace → ∀ path site index below,
        note.path = path ++ ⟨site, index⟩ :: below →
        ∃ statements, Executes script memory sink path site statements) ∧
      (∀ path site statements, Executes script memory sink path site statements →
        (∃ holder, script.statementAt? path = some holder ∧
          holder.list? site = some statements) ∧
          InOrder 0 statements.length (entriesOf path site trace)) ∧
      (∀ path position statements,
        Executes script memory sink path (.handler position) statements →
        Handled script trace path position) ∧
      ∀ before note after, trace = before ++ .note note :: after →
        (∀ body clauses into value,
          script.statementAt? note.path = some (.guarded body clauses into) →
          note.outcome ≠ .ok (.gaveBack value)) ∧
        (∀ path site index value, note.path = path ++ [⟨site, index⟩] →
          (∀ number, site ≠ .round number) → note.outcome = .ok (.gaveBack value) →
          Closes path (.ok .next) after) ∧
        ∀ path position index fault, note.path = path ++ [⟨.handler position, index⟩] →
          note.outcome = .error fault → Closes path (.error fault) after := by
  intro trace
  refine ⟨?_, ?_, ?_, ?_, ?_⟩
  · exact nodup_writtenPaths fun before note after htrace => (sole_note htrace).2
  · intro note hnote path site index below hpath
    obtain ⟨caught, statement, rest, machine, hlist⟩ := reached_of_note hnote hpath
    obtain ⟨all, first, _, hall, _⟩ := hlist.started
    exact ⟨all, caught, first, hall⟩
  · rintro path site statements ⟨caught, machine, hlist⟩
    exact ⟨hlist.listed, hlist.inOrder⟩
  · rintro path position statements ⟨caught, machine, hlist⟩
    exact hlist.handled
  · intro before note after htrace
    refine ⟨?_, ?_, ?_⟩
    · intro body clauses into value hat
      exact outcome_of_guarded htrace hat value
    · intro path site index value hpath hsite houtcome
      have hcloses := closes_of_note htrace hpath (by simp [houtcome]) hsite (by simp [houtcome])
      rw [houtcome] at hcloses
      exact hcloses
    · intro path position index fault hpath houtcome
      have hcloses := closes_of_note htrace hpath (by simp [houtcome]) (by simp) (by simp)
      rw [houtcome] at hcloses
      exact hcloses

end Guarded.Script
