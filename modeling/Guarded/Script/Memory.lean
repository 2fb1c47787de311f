import Guarded.Arith

set_option autoImplicit false

/-! # The memory of a script

Variables and arrays by name. A `Table` keeps its names in the order in which they first appeared,
so that two tables with the same history are equal. -/

namespace Guarded.Script

/-! ## Tables -/

/-- Values by name. No name has two entries. -/
structure Table (α : Type) where
  entries : List (String × α)
  distinct : (entries.map Prod.fst).Nodup
  deriving DecidableEq, Repr

namespace Table

variable {α : Type}

/-- The table without names. -/
def empty : Table α := ⟨[], .nil⟩

/-- The entries with `name` set to `value`: in its place, or at the end if it is new. -/
def put (name : String) (value : α) : List (String × α) → List (String × α)
  | [] => [(name, value)]
  | (key, old) :: rest =>
    if key = name then (key, value) :: rest else (key, old) :: put name value rest

theorem mem_map_fst_put {entries : List (String × α)} {name other : String} {value : α} :
    other ∈ (put name value entries).map Prod.fst ↔
      other = name ∨ other ∈ entries.map Prod.fst := by
  induction entries with
  | nil => simp [put]
  | cons entry rest ih =>
    obtain ⟨key, old⟩ := entry
    by_cases hkey : key = name
    · subst hkey
      simp [put]
    · simp only [put, if_neg hkey, List.map_cons, List.mem_cons, ih]
      exact or_left_comm

theorem distinct_put {entries : List (String × α)} (h : (entries.map Prod.fst).Nodup)
    (name : String) (value : α) : ((put name value entries).map Prod.fst).Nodup := by
  induction entries with
  | nil => exact List.nodup_cons.mpr ⟨List.not_mem_nil, .nil⟩
  | cons entry rest ih =>
    obtain ⟨key, old⟩ := entry
    obtain ⟨hkey, hrest⟩ := List.nodup_cons.mp h
    by_cases hsame : key = name
    · simp only [put, if_pos hsame]
      exact h
    · simp only [put, if_neg hsame]
      refine List.nodup_cons.mpr ⟨fun hmem => ?_, ih hrest⟩
      exact (mem_map_fst_put.mp hmem).elim hsame hkey

/-- The value of `name`, if there is an entry for it. -/
def get? (table : Table α) (name : String) : Option α := table.entries.lookup name

/-- The table with `name` set to `value`. -/
def set (table : Table α) (name : String) (value : α) : Table α :=
  ⟨put name value table.entries, distinct_put table.distinct name value⟩

/-- The table in which names are set one after another. -/
def ofList (entries : List (String × α)) : Table α :=
  entries.foldl (fun table (name, value) => table.set name value) empty

theorem lookup_put_self (entries : List (String × α)) (name : String) (value : α) :
    (put name value entries).lookup name = some value := by
  induction entries with
  | nil => exact List.lookup_cons_self
  | cons entry rest ih =>
    obtain ⟨key, old⟩ := entry
    by_cases hkey : key = name
    · subst hkey
      rw [put, if_pos rfl, List.lookup_cons_self]
    · have hskip : (name == key) = false := beq_false_of_ne (Ne.symm hkey)
      rw [put, if_neg hkey, List.lookup_cons, hskip]
      exact ih

theorem lookup_put_of_ne (entries : List (String × α)) {name other : String} (h : other ≠ name)
    (value : α) : (put name value entries).lookup other = entries.lookup other := by
  have hskip : (other == name) = false := beq_false_of_ne h
  induction entries with
  | nil => rw [put, List.lookup_cons, hskip]
  | cons entry rest ih =>
    obtain ⟨key, old⟩ := entry
    by_cases hkey : key = name
    · subst hkey
      rw [put, if_pos rfl, List.lookup_cons, List.lookup_cons, hskip]
    · rw [put, if_neg hkey, List.lookup_cons, List.lookup_cons, ih]

end Table

/-! ## Memory -/

/-- What a script remembers. Its `arrays` never change. -/
structure Memory where
  vars : Table Int32
  arrays : Table (Array Int32)
  deriving DecidableEq

namespace Memory

/-- The value of a variable. One without an entry is `0`. -/
def value (memory : Memory) (name : String) : Int32 := (memory.vars.get? name).getD 0

/-- The elements of an array. One without an entry is `#[]`. -/
def array (memory : Memory) (name : String) : Array Int32 := (memory.arrays.get? name).getD #[]

/-- The memory with a variable set; the arrays stay. -/
def setVar (memory : Memory) (name : String) (value : Int32) : Memory :=
  { memory with vars := memory.vars.set name value }

end Memory

end Guarded.Script
