import Mathlib.Data.List.Perm.Subperm
import Mathlib.Logic.Equiv.Basic
import Guarded.Proofs.Block.Nesting

set_option autoImplicit false

/-! # Clauses that can run

A clause is live if some error would reach it: one of a kind that it accepts and no clause before it
does. Errors are of two kinds, so however long a list of clauses is, two of them are live at most,
and the others may be deleted, or have other handlers, and nothing is different: the live clauses
take their places, and the block reports their new positions. In the same way two neighbours may
change places that accept no kind of error in common.

All of this is about the search for the first clause. `run_of_first?` carries it over to blocks: a
block reports at one place of its log which clause it found, and the position that stands there is
all that the clauses leave of where they stood. -/

namespace Guarded

variable {N C α : Type}

/-! ## Kinds of errors -/

/-- The kinds that errors have; `any` is none of them. -/
def Kind.thrown : List Kind := [.arithmetic, .outOfBounds]

theorem ArithError.kind_mem_thrown (error : ArithError) : error.kind ∈ Kind.thrown := by
  cases error <;> simp [kind, Kind.thrown]

/-! ## Keeping some of a list -/

/-- The elements of a list at the positions with `keep position`. -/
def keepAt (keep : Nat → Bool) : List α → List α
  | [] => []
  | head :: rest =>
    if keep 0 then head :: keepAt (fun position => keep (position + 1)) rest
    else keepAt (fun position => keep (position + 1)) rest

/-- How many positions before this one are kept: after `keepAt`, the new position of what stood
    here. -/
def keptBefore (keep : Nat → Bool) (position : Nat) : Nat := (List.range position).countP keep

theorem keptBefore_succ (keep : Nat → Bool) (position : Nat) :
    keptBefore keep (position + 1) =
      keptBefore (fun position => keep (position + 1)) position + if keep 0 then 1 else 0 := by
  rw [keptBefore, List.range_succ_eq_map, List.countP_cons, List.countP_map]
  rfl

theorem length_keepAt (keep : Nat → Bool) (list : List α) :
    (keepAt keep list).length = keptBefore keep list.length := by
  induction list generalizing keep with
  | nil => rfl
  | cons head rest ih =>
    rw [List.length_cons, keptBefore_succ, ← ih, keepAt]
    split <;> simp

/-! ## The search for a clause -/

namespace Clause

theorem first?_cons_of_accepts {kind : Kind} {head : Clause N C} {rest : List (Clause N C)}
    (h : head.kind.accepts kind = true) : first? kind (head :: rest) = some (0, head) := by
  rw [first?, if_pos h]

theorem first?_cons_of_refuses {kind : Kind} {head : Clause N C} {rest : List (Clause N C)}
    (h : head.kind.accepts kind = false) :
    first? kind (head :: rest) = (first? kind rest).map (Prod.map (· + 1) id) := by
  rw [first?, if_neg (by simp [h])]
  rfl

/-- The clause that `first?` finds is the first that accepts the kind, and it is found where it
    stands. -/
theorem first?_eq_some_iff {kind : Kind} {clauses : List (Clause N C)} {position : Nat}
    {clause : Clause N C} :
    first? kind clauses = some (position, clause) ↔ clauses[position]? = some clause ∧
      clause.kind.accepts kind = true ∧
        ∀ earlier ∈ clauses.take position, earlier.kind.accepts kind = false := by
  induction clauses generalizing position with
  | nil => simp [first?]
  | cons head rest ih =>
    cases h : head.kind.accepts kind with
    | true =>
      rw [first?_cons_of_accepts h]
      cases position with
      | zero =>
        simp only [Option.some.injEq, Prod.mk.injEq, true_and, List.getElem?_cons_zero,
          List.take_zero, List.not_mem_nil, false_implies, implies_true, and_true]
        exact ⟨fun same => ⟨same, same ▸ h⟩, And.left⟩
      | succ position => simp [h]
    | false =>
      rw [first?_cons_of_refuses h]
      cases position with
      | zero =>
        simp only [Option.map_eq_some_iff, List.getElem?_cons_zero, Option.some.injEq]
        constructor
        · rintro ⟨found, _, same⟩
          exact absurd (congrArg Prod.fst same) (Nat.succ_ne_zero _)
        · rintro ⟨rfl, haccepts, _⟩
          exact absurd haccepts (by simp [h])
      | succ position =>
        have hshift : (first? kind rest).map (Prod.map (· + 1) id) = some (position + 1, clause) ↔
            first? kind rest = some (position, clause) := by
          cases first? kind rest <;> simp [Prod.ext_iff]
        rw [hshift, ih]
        simp [h]

/-- Deleting clauses other than the one for the kind leaves that one, at the position that
    `keptBefore` counts. -/
theorem first?_keepAt {kind : Kind} {clauses : List (Clause N C)} {keep : Nat → Bool}
    (h : ∀ position clause, first? kind clauses = some (position, clause) → keep position = true) :
    first? kind (keepAt keep clauses) =
      (first? kind clauses).map (Prod.map (keptBefore keep) id) := by
  induction clauses generalizing keep with
  | nil => rfl
  | cons head rest ih =>
    rw [keepAt]
    cases ha : head.kind.accepts kind with
    | true =>
      have hzero : keep 0 = true := h 0 head (first?_cons_of_accepts ha)
      rw [if_pos hzero, first?_cons_of_accepts ha, first?_cons_of_accepts ha]
      rfl
    | false =>
      have hkeep : ∀ position clause, first? kind rest = some (position, clause) →
          keep (position + 1) = true := fun position clause hfound =>
        h (position + 1) clause (by rw [first?_cons_of_refuses ha, hfound]; rfl)
      have hrest := ih hkeep
      rw [first?_cons_of_refuses ha, Option.map_map]
      -- the head is not the clause for the kind, but it counts if it is kept
      cases hzero : keep 0 with
      | true =>
        rw [if_pos rfl, first?_cons_of_refuses ha, hrest, Option.map_map]
        congr 1
        funext found
        simp [Prod.map, keptBefore_succ, hzero]
      | false =>
        rw [if_neg Bool.false_ne_true, hrest]
        congr 1
        funext found
        simp [Prod.map, keptBefore_succ, hzero]

/-- Two neighbours of which one at most accepts the kind may change places, as by `Equiv.swap`. -/
theorem first?_swap {kind : Kind} (before : List (Clause N C)) {first second : Clause N C}
    (after : List (Clause N C))
    (h : ¬ (first.kind.accepts kind = true ∧ second.kind.accepts kind = true)) :
    first? kind (before ++ second :: first :: after) =
      (first? kind (before ++ first :: second :: after)).map
        (Prod.map (Equiv.swap before.length (before.length + 1)) id) := by
  rw [first?_append, first?_append]
  cases hbefore : first? kind before with
  | some found =>
    obtain ⟨position, clause⟩ := found
    have hlt : position < before.length :=
      (List.getElem?_eq_some_iff.mp (first?_eq_some_iff.mp hbefore).1).1
    simp only [Option.some_or, Option.map_some, Prod.map, id_eq]
    rw [Equiv.swap_apply_of_ne_of_ne (by omega) (by omega)]
  | none =>
    simp only [Option.none_or]
    cases hf : first.kind.accepts kind <;> cases hs : second.kind.accepts kind
    · -- neither accepts the kind, and what follows stays where it is
      simp only [first?_cons_of_refuses hf, first?_cons_of_refuses hs, Option.map_map]
      congr 1
      funext found
      simp only [Function.comp_apply, Prod.map, id_eq]
      rw [Equiv.swap_apply_of_ne_of_ne (by omega) (by omega)]
    · simp [first?_cons_of_refuses hf, first?_cons_of_accepts hs]
    · simp [first?_cons_of_accepts hf, first?_cons_of_refuses hs]
    · exact absurd ⟨hf, hs⟩ h

/-! ## Live clauses -/

/-- Whether an error can reach the clause at `position`: the clause accepts some kind in
    `Kind.thrown` that no clause before it accepts. -/
def isLive (clauses : List (Clause N C)) (position : Nat) : Bool :=
  Kind.thrown.any fun kind => clauses[position]?.any (·.kind.accepts kind) &&
    (clauses.take position).all (!·.kind.accepts kind)

/-- The clauses that are live, in their order. -/
def live (clauses : List (Clause N C)) : List (Clause N C) := keepAt (isLive clauses) clauses

/-- A clause is live if `first?` finds it for some kind of error. -/
theorem isLive_iff {clauses : List (Clause N C)} {position : Nat} :
    isLive clauses position = true ↔
      ∃ kind ∈ Kind.thrown, ∃ clause, first? kind clauses = some (position, clause) := by
  simp only [isLive, List.any_eq_true, Bool.and_eq_true, List.all_eq_true, Bool.not_eq_true',
    Option.any_eq_true, first?_eq_some_iff]
  refine exists_congr fun kind => and_congr_right fun _ => ?_
  constructor
  · rintro ⟨⟨clause, hat, haccepts⟩, hearlier⟩
    exact ⟨clause, hat, haccepts, hearlier⟩
  · rintro ⟨clause, hat, haccepts, hearlier⟩
    exact ⟨⟨clause, hat, haccepts⟩, hearlier⟩

/-- A clause is dead if those before it accept every kind in `Kind.thrown`. -/
theorem isLive_eq_false {clauses : List (Clause N C)} {position : Nat}
    (h : ∀ kind ∈ Kind.thrown, ∃ earlier ∈ clauses.take position,
      earlier.kind.accepts kind = true) : isLive clauses position = false := by
  by_contra hlive
  rw [Bool.not_eq_false] at hlive
  obtain ⟨kind, hkind, clause, hfound⟩ := isLive_iff.mp hlive
  obtain ⟨earlier, hmem, haccepts⟩ := h kind hkind
  rw [(first?_eq_some_iff.mp hfound).2.2 earlier hmem] at haccepts
  exact Bool.noConfusion haccepts

theorem mem_take_of_kind {clauses : List (Clause N C)} {earlier position : Nat} {kind : Kind}
    (hlt : earlier < position) (h : clauses[earlier]?.map (·.kind) = some kind) :
    ∃ clause ∈ clauses.take position, clause.kind = kind := by
  obtain ⟨clause, hat, rfl⟩ := Option.map_eq_some_iff.mp h
  refine ⟨clause, List.mem_of_getElem? (i := earlier) ?_, rfl⟩
  rw [List.getElem?_take_of_lt hlt, hat]

/-- There are two kinds in `Kind.thrown`, so two clauses are live at most. -/
theorem length_live_le (clauses : List (Clause N C)) : (live clauses).length ≤ 2 := by
  have hsub : (List.range clauses.length).filter (isLive clauses) ⊆
      Kind.thrown.filterMap fun kind => (first? kind clauses).map Prod.fst := by
    intro position hmem
    obtain ⟨kind, hkind, clause, hfound⟩ := isLive_iff.mp (List.mem_filter.mp hmem).2
    exact List.mem_filterMap.mpr ⟨kind, hkind, by rw [hfound]; rfl⟩
  have hnodup : ((List.range clauses.length).filter (isLive clauses)).Nodup :=
    List.nodup_range.filter _
  calc (live clauses).length
      = ((List.range clauses.length).filter (isLive clauses)).length := by
        rw [live, length_keepAt, keptBefore, List.countP_eq_length_filter]
    _ ≤ (Kind.thrown.filterMap fun kind => (first? kind clauses).map Prod.fst).length :=
        (hnodup.subperm hsub).length_le
    _ ≤ 2 := List.length_filterMap_le _ _

/-- An error finds among the `live` clauses what it finds among all. -/
theorem first?_live {kind : Kind} (h : kind ∈ Kind.thrown) (clauses : List (Clause N C)) :
    first? kind (live clauses) =
      (first? kind clauses).map (Prod.map (keptBefore (isLive clauses)) id) :=
  first?_keepAt fun _ clause hfound => isLive_iff.mpr ⟨kind, h, clause, hfound⟩

/-- Other handlers in dead clauses make no difference to `first?`. -/
theorem first?_congr {kind : Kind} (h : kind ∈ Kind.thrown) {clauses other : List (Clause N C)}
    (hkinds : other.map (·.kind) = clauses.map (·.kind))
    (hlive : ∀ position, isLive clauses position = true → other[position]? = clauses[position]?) :
    first? kind other = first? kind clauses := by
  -- whether a clause accepts a kind is not changed, at any position
  have hall : ∀ position, (∀ earlier ∈ clauses.take position,
      earlier.kind.accepts kind = false) →
        ∀ earlier ∈ other.take position, earlier.kind.accepts kind = false := by
    intro position hrefuse earlier hmem
    have hkind : earlier.kind ∈ (clauses.take position).map (·.kind) := by
      rw [List.map_take, ← hkinds, ← List.map_take]
      exact List.mem_map_of_mem hmem
    obtain ⟨clause, hclause, hsame⟩ := List.mem_map.mp hkind
    rw [← hsame]
    exact hrefuse clause hclause
  cases hfound : first? kind clauses with
  | some found =>
    obtain ⟨position, clause⟩ := found
    obtain ⟨hat, haccepts, hearlier⟩ := first?_eq_some_iff.mp hfound
    have hsame := hlive position (isLive_iff.mpr ⟨kind, h, clause, hfound⟩)
    exact first?_eq_some_iff.mpr ⟨hsame.trans hat, haccepts, hall position hearlier⟩
  | none =>
    have hlength : other.length = clauses.length := by
      simpa using congrArg List.length hkinds
    have hnone := hall clauses.length (by
      rw [List.take_length]
      exact first?_eq_none_iff.mp hfound)
    rw [← hlength, List.take_length] at hnone
    exact first?_eq_none_iff.mpr hnone

end Clause

/-! ## The log of a block -/

/-- The entry with `f position` for the position of a clause, if it tells one. -/
def Entry.renumber (f : Nat → Nat) : Entry N → Entry N
  | .event (.handlerFound position) => .event (.handlerFound (f position))
  | entry => entry

/-- The run with `Entry.renumber f` at one place of its log. -/
def Run.renumber (f : Nat → Nat) (place : Nat) (run : Run N C α) : Run N C α :=
  { run with log := run.log.modify place (Entry.renumber f) }

theorem renumber_id (entry : Entry N) : entry.renumber id = entry := by
  cases entry with
  | note note => rfl
  | event event => cases event <;> rfl

theorem Run.renumber_id (place : Nat) (run : Run N C α) : run.renumber id place = run := by
  have hid : (Entry.renumber id : Entry N → Entry N) = id := funext Guarded.renumber_id
  rw [renumber, hid, List.modify_id]

/-- The second entry after a log is the one at the place `log.length + 1`. -/
theorem modify_second (log : List (Entry N)) (first second : Entry N) (after : List (Entry N))
    (f : Entry N → Entry N) :
    (log ++ first :: second :: after).modify (log.length + 1) f =
      log ++ first :: f second :: after := by
  induction log with
  | nil => rfl
  | cons entry rest ih => simpa using ih

namespace Block

/-- Where a block tells in its log which clause it found: after the log of its body and the
    `exceptionThrown`. -/
def decisionPlace (block : Block N C α) (context : C) : Nat := (block.body context).log.length + 1

/-- Clauses among which `first?` finds the same, but at other positions, make no difference but in
    the position that the block reports. -/
theorem run_of_first? {block : Block N C α} {other : List (Clause N C)} {f : Nat → Nat}
    (h : ∀ kind ∈ Kind.thrown, Clause.first? kind other =
      (Clause.first? kind block.clauses).map (Prod.map f id)) (context : C) :
    Block.run { block with clauses := other } context =
      (block.run context).renumber f (block.decisionPlace context) := by
  -- the body is the same, so the two blocks take the same way
  rcases block.run_cases context with ⟨value, ended, hr⟩ | ⟨error, ended, hr⟩ |
    ⟨error, position, clause, ended, found, hr⟩ | ⟨error, ended, missing, hr⟩
  · have hother : Block.run { block with clauses := other } context = _ := run_of_ok ended
    rw [hother, hr, Run.renumber, decisionPlace, List.modify_eq_self (Nat.le_succ _)]
  · have hother : Block.run { block with clauses := other } context = _ := run_of_io ended
    rw [hother, hr, Run.renumber, decisionPlace, List.modify_eq_self (Nat.le_succ _)]
  · have hfirst := h error.kind error.kind_mem_thrown
    rw [found, Option.map_some] at hfirst
    have hother : Block.run { block with clauses := other } context = _ :=
      run_of_caught ended hfirst
    rw [hother, hr]
    simp only [Run.renumber, decisionPlace, modify_second, Entry.renumber, id_eq]
  · have hfirst := h error.kind error.kind_mem_thrown
    rw [missing, Option.map_none] at hfirst
    have hother : Block.run { block with clauses := other } context = _ :=
      run_of_uncaught ended hfirst
    rw [hother, hr]
    simp only [Run.renumber, decisionPlace, modify_second, Entry.renumber]

/-- The clause that a block reports by `handlerFound` is live. -/
theorem isLive_of_reported {block : Block N C α} {context : C} {position : Nat}
    (h : (block.run context).log[block.decisionPlace context]? =
      some (.event (.handlerFound position))) :
    Clause.isLive block.clauses position = true := by
  have hend : ∀ log : List (Entry N), log[log.length + 1]? = none := fun log =>
    List.getElem?_eq_none (Nat.le_succ _)
  rcases block.run_cases context with ⟨value, ended, hr⟩ | ⟨error, ended, hr⟩ |
    ⟨error, found, clause, ended, first, hr⟩ | ⟨error, ended, missing, hr⟩
  · rw [hr, decisionPlace, hend] at h
    cases h
  · rw [hr, decisionPlace, hend] at h
    cases h
  · rw [hr, decisionPlace, List.getElem?_append_right (Nat.le_succ _)] at h
    obtain rfl : found = position := by simpa using h
    exact Clause.isLive_iff.mpr ⟨error.kind, error.kind_mem_thrown, clause, first⟩
  · rw [hr, decisionPlace, List.getElem?_append_right (Nat.le_succ _)] at h
    simp at h

/-- No clause in `live` takes the error exactly when none takes it at all. -/
theorem live_refuse_iff {clauses : List (Clause N C)} {error : ArithError} :
    (∀ clause ∈ Clause.live clauses, clause.kind.accepts error.kind = false) ↔
      Clause.first? error.kind clauses = none := by
  rw [← Clause.first?_eq_none_iff, Clause.first?_live error.kind_mem_thrown, Option.map_eq_none_iff]

/-! ## The theorem -/

/-- **A list of clauses is worth its live clauses.** Two clauses are live at most. A block only ever
    reports a live one, so that dead clauses may have any handlers; a clause is dead behind one for
    `any`, and behind two for `arithmetic` and `outOfBounds`. With `Clause.live` alone a block
    leaves the same context, the same result and the same log, but for the position at its
    `decisionPlace`, which `keptBefore` gives. Neighbours that take no kind of error in common may
    change places, and the positions of the two are all that changes. The block itself lets an error
    pass, as it is and with the context that the body left, if and only if no live clause takes its
    kind. -/
theorem clauses_reduce_to_live (block : Block N C α) (context : C) :
    let clauses := block.clauses
    let place := block.decisionPlace context
    (Clause.live clauses).length ≤ 2 ∧
      (∀ position, (block.run context).log[place]? = some (.event (.handlerFound position)) →
        Clause.isLive clauses position = true) ∧
      (∀ other : List (Clause N C), other.map (·.kind) = clauses.map (·.kind) →
        (∀ position, Clause.isLive clauses position = true →
          other[position]? = clauses[position]?) →
        Block.run { block with clauses := other } context = block.run context) ∧
      (∀ first position, first < position → clauses[first]?.map (·.kind) = some .any →
        Clause.isLive clauses position = false) ∧
      (∀ first second position, first < position → second < position →
        clauses[first]?.map (·.kind) = some .arithmetic →
        clauses[second]?.map (·.kind) = some .outOfBounds →
        Clause.isLive clauses position = false) ∧
      Block.run { block with clauses := Clause.live clauses } context =
        (block.run context).renumber (keptBefore (Clause.isLive clauses)) place ∧
      (∀ before first second after, clauses = before ++ first :: second :: after →
        (∀ kind ∈ Kind.thrown,
          ¬ (first.kind.accepts kind = true ∧ second.kind.accepts kind = true)) →
        Block.run { block with clauses := before ++ second :: first :: after } context =
          (block.run context).renumber (Equiv.swap before.length (before.length + 1)) place) ∧
      ∀ error, (block.body context).result = .error (.thrown error) →
        ((∀ clause ∈ Clause.live clauses, clause.kind.accepts error.kind = false) ↔
          block.run context =
            ⟨(block.body context).log ++ [.event (.exceptionThrown error), .event .noHandler],
              (block.body context).context, .error (.thrown error)⟩) := by
  intro clauses place
  refine ⟨Clause.length_live_le clauses, fun _ => isLive_of_reported, ?_, ?_, ?_, ?_, ?_, ?_⟩
  · intro other hkinds hlive
    have hsame : ∀ kind ∈ Kind.thrown, Clause.first? kind other =
        (Clause.first? kind clauses).map (Prod.map id id) := by
      intro kind hkind
      rw [Clause.first?_congr hkind hkinds hlive, Prod.map_id, Option.map_id_fun, id_eq]
    rw [run_of_first? hsame, Run.renumber_id]
  · intro first position hlt hany
    refine Clause.isLive_eq_false fun kind _ => ?_
    obtain ⟨clause, hmem, hkind⟩ := Clause.mem_take_of_kind hlt hany
    exact ⟨clause, hmem, hkind ▸ Kind.any_accepts kind⟩
  · intro first second position hfirst hsecond harithmetic hbounds
    refine Clause.isLive_eq_false fun kind hkind => ?_
    simp only [Kind.thrown, List.mem_cons, List.not_mem_nil, or_false] at hkind
    rcases hkind with rfl | rfl
    · obtain ⟨clause, hmem, hkind⟩ := Clause.mem_take_of_kind hfirst harithmetic
      exact ⟨clause, hmem, hkind ▸ Kind.accepts_self _⟩
    · obtain ⟨clause, hmem, hkind⟩ := Clause.mem_take_of_kind hsecond hbounds
      exact ⟨clause, hmem, hkind ▸ Kind.accepts_self _⟩
  · exact run_of_first? (fun kind hkind => Clause.first?_live hkind clauses) context
  · intro before first second after hsplit happart
    refine run_of_first? (fun kind hkind => ?_) context
    rw [show block.clauses = _ from hsplit]
    exact Clause.first?_swap before after (happart kind hkind)
  · intro error ended
    rw [live_refuse_iff]
    constructor
    · exact run_of_uncaught ended
    · intro hrun
      cases found : Clause.first? error.kind clauses with
      | none => rfl
      | some pair =>
        -- a block that found a clause reports its position, not that it found none
        rw [run_of_caught ended found] at hrun
        simp at hrun

end Block

end Guarded
