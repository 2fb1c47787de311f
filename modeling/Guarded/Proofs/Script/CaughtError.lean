import Guarded.Proofs.Script.Reached

set_option autoImplicit false

/-! # Which error is caught around a statement

The error that a statement may print or throw again is told by the path of the statement: it is the
error that entered the innermost handler on the path, `Path.handler?`. What was run before in the
handler, and which errors it caught, makes no difference; nor does it matter whether the statement
stands in a block within the handler, as long as it stands in the body of that block.

A script reaches every place once at most, by `Reached.unique`, so "the error that entered the
handler" is one error. -/

namespace Guarded.Script

variable {script : Script} {memory : Memory} {sink : Sink}

/-! ## A place is reached once -/

/-- Whether two items stand at the same place: the same block, the same round of a loop, or the same
    `site` and `index` of a list. -/
def Item.SamePlace : Item → Item → Prop
  | .block path _ _, .block path' _ _ => path = path'
  | .rounds path number _ _, .rounds path' number' _ _ => path = path' ∧ number = number'
  | .list path site index _, .list path' site' index' _ =>
    path = path' ∧ site = site' ∧ index = index'
  | _, _ => False

theorem append_position_inj {path path' : Path} {position position' : Position}
    (h : path ++ [position] = path' ++ [position']) : path = path' ∧ position = position' := by
  obtain ⟨hpath, hposition⟩ := List.append_inj' h rfl
  exact ⟨hpath, (List.cons.inj hposition).1⟩

/-- What a script reaches at a place, and on which machine and with which error around it, is told
    by the place: `Reached` is a partial function of it. -/
theorem Reached.unique {caught caught' : Option ArithError} {item item' : Item}
    {machine machine' : Machine Memory} (h : Reached script memory sink caught item machine)
    (h' : Reached script memory sink caught' item' machine') (same : item.SamePlace item') :
    caught = caught' ∧ item = item' ∧ machine = machine' := by
  -- the place tells by which rule it was reached, and the place from which it was
  induction h generalizing caught' item' machine' with
  | top =>
    cases h' with
    | top => exact ⟨rfl, rfl, rfl⟩
    | nested list => simp [Item.SamePlace] at same
    | _ => exact same.elim
  | body block ih =>
    cases h' with
    | body block' =>
      obtain ⟨rfl, hitem, rfl⟩ := ih block' same.1
      cases hitem
      exact ⟨rfl, rfl, rfl⟩
    | handler block' threw first found => cases same.2.1
    | round rounds => cases same.2.1
    | next list ended => cases same.2.2
    | _ => exact same.elim
  | handler block threw first found ih =>
    cases h' with
    | body block' => cases same.2.1
    | handler block' threw' first' found' =>
      obtain ⟨rfl, hitem, rfl⟩ := ih block' same.1
      cases hitem
      obtain rfl := Fault.thrown.inj (Except.error.inj (threw.symm.trans threw'))
      obtain rfl := Option.some.inj (first.symm.trans first')
      obtain rfl := Option.some.inj (found.symm.trans found')
      exact ⟨rfl, rfl, rfl⟩
    | round rounds => cases same.2.1
    | next list ended => cases same.2.2
    | _ => exact same.elim
  | nested list ih =>
    cases h' with
    | top => simp [Item.SamePlace] at same
    | nested list' =>
      obtain ⟨hpath, hposition⟩ := append_position_inj same
      obtain ⟨hsite, hindex⟩ := Position.mk.inj hposition
      obtain ⟨rfl, hitem, rfl⟩ := ih list' ⟨hpath, hsite, hindex⟩
      cases hitem
      exact ⟨rfl, rfl, rfl⟩
    | _ => exact same.elim
  | loop list ih =>
    cases h' with
    | loop list' =>
      obtain ⟨hpath, hposition⟩ := append_position_inj same.1
      obtain ⟨hsite, hindex⟩ := Position.mk.inj hposition
      obtain ⟨rfl, hitem, rfl⟩ := ih list' ⟨hpath, hsite, hindex⟩
      cases hitem
      exact ⟨rfl, rfl, rfl⟩
    | again rounds ended => cases same.2
    | _ => exact same.elim
  | round rounds ih =>
    cases h' with
    | body block => cases same.2.1
    | handler block threw first found => cases same.2.1
    | round rounds' =>
      obtain ⟨rfl, hitem, rfl⟩ := ih rounds' ⟨same.1, Site.round.inj same.2.1⟩
      cases hitem
      exact ⟨rfl, rfl, rfl⟩
    | next list ended => cases same.2.2
    | _ => exact same.elim
  | again rounds ended ih =>
    cases h' with
    | loop list => cases same.2
    | again rounds' ended' =>
      obtain ⟨rfl, hitem, rfl⟩ := ih rounds' ⟨same.1, Nat.succ.inj same.2⟩
      cases hitem
      exact ⟨rfl, rfl, rfl⟩
    | _ => exact same.elim
  | next list ended ih =>
    cases h' with
    | body block => cases same.2.2
    | handler block threw first found => cases same.2.2
    | round rounds => cases same.2.2
    | next list' ended' =>
      obtain ⟨rfl, hitem, rfl⟩ := ih list' ⟨same.1, same.2.1, Nat.succ.inj same.2.2⟩
      cases hitem
      exact ⟨rfl, rfl, rfl⟩
    | _ => exact same.elim

/-! ## The innermost handler -/

/-- The innermost handler through which a path leads: the path of its block, and its position among
    the clauses. -/
def Path.handler? : Path → Option (Path × Nat)
  | [] => none
  | position :: rest =>
    match handler? rest with
    | some (path, clause) => some (position :: path, clause)
    | none =>
      match position.site with
      | .handler clause => some ([], clause)
      | _ => none

/-- A position with the site `handler` is in that handler; every other is in the handler around
    it. -/
theorem Path.handler?_concat (path : Path) (position : Position) :
    Path.handler? (path ++ [position]) = match position.site with
      | .handler clause => some (path, clause)
      | _ => Path.handler? path := by
  induction path with
  | nil => rfl
  | cons first rest ih =>
    rw [List.cons_append, handler?, ih]
    cases position.site with
    | handler clause => rfl
    | body => rw [handler?]
    | round number => rw [handler?]

/-- The innermost handler around the statements of an item, by `Path.handler?`. -/
def Item.handler? : Item → Option (Path × Nat)
  | .block path _ _ => Path.handler? path
  | .rounds path _ _ _ => Path.handler? path
  | .list path site index _ => Path.handler? (path ++ [⟨site, index⟩])

theorem Item.handler?_list (path : Path) (site : Site) (index : Nat)
    (statements : List Statement) :
    (Item.list path site index statements).handler? = match site with
      | .handler clause => some (path, clause)
      | _ => Path.handler? path :=
  Path.handler?_concat path ⟨site, index⟩

/-- The block at `path` is reached, its body throws `error`, and the clause at `position` is the
    first that accepts it. -/
inductive Catches (script : Script) (memory : Memory) (sink : Sink) (path : Path) (position : Nat)
    (error : ArithError) : Prop where
  | intro {caught body clauses machine}
      (block : Reached script memory sink caught (.block path body clauses) machine)
      (threw : (steps caught path .body 0 body machine).result = .error (.thrown error))
      (first : firstClause? error.kind clauses = some position)

theorem Catches.unique {path : Path} {position position' : Nat} {error error' : ArithError}
    (h : Catches script memory sink path position error)
    (h' : Catches script memory sink path position' error') : error = error' := by
  obtain ⟨block, threw, first⟩ := h
  obtain ⟨block', threw', first'⟩ := h'
  obtain ⟨rfl, hitem, rfl⟩ := block.unique block' rfl
  cases hitem
  exact Fault.thrown.inj (Except.error.inj (threw.symm.trans threw'))

/-- The error that is `caught` around something, by the innermost handler around it. -/
def CaughtIn (script : Script) (memory : Memory) (sink : Sink) (caught : Option ArithError) :
    Option (Path × Nat) → Prop
  | none => caught = none
  | some (path, position) =>
    ∃ error, caught = some error ∧ Catches script memory sink path position error

/-- **The caught error is that of the innermost handler**, by `CaughtIn`. Outside all handlers there
    is none. -/
theorem Reached.caughtIn {caught : Option ArithError} {item : Item} {machine : Machine Memory}
    (h : Reached script memory sink caught item machine) :
    CaughtIn script memory sink caught item.handler? := by
  induction h with
  | top => rfl
  | body block ih => rwa [Item.handler?_list]
  | @handler caught path body clauses machine error position clause block threw first found ih =>
    rw [Item.handler?_list]
    exact ⟨error, rfl, block, threw, first⟩
  | nested list ih => exact ih
  | loop list ih => exact ih
  | round rounds ih => rwa [Item.handler?_list]
  | again rounds ended ih => exact ih
  | next list ended ih =>
    rw [Item.handler?_list] at ih ⊢
    exact ih

/-- What is reached in a handler, and in no handler within, has the error around it for which the
    handler `Catches`. -/
theorem Reached.caught_eq {caught : Option ArithError} {item : Item} {machine : Machine Memory}
    (h : Reached script memory sink caught item machine) {path : Path} {position : Nat}
    {error : ArithError} (catches : Catches script memory sink path position error)
    (inside : item.handler? = some (path, position)) : caught = some error := by
  have hcaught := h.caughtIn
  rw [inside] at hcaught
  obtain ⟨found, rfl, hfound⟩ := hcaught
  rw [hfound.unique catches]

end Guarded.Script
