import Guarded.Error

set_option autoImplicit false

/-! # Faults

A computation ends early for one of two reasons: an `ArithError` was thrown, which a guarded block
may catch, or input or output failed, which no block catches. An `IoError` is a kind and a text;
this module also holds the texts of the errors that carry none of their own. -/

namespace Guarded

/-! ## I/O errors -/

/-- The kinds of I/O error. -/
inductive IoKind where
  | notFound
  | permissionDenied
  | brokenPipe
  | wouldBlock
  | invalidData
  | unexpectedEof
  | timedOut
  | writeZero
  | storageFull
  | connectionReset
  | other
  deriving DecidableEq, Repr, Inhabited

namespace IoKind

def all : List IoKind :=
  [.notFound, .permissionDenied, .brokenPipe, .wouldBlock, .invalidData, .unexpectedEof, .timedOut,
    .writeZero, .storageFull, .connectionReset, .other]

def name : IoKind → String
  | .notFound => "NotFound"
  | .permissionDenied => "PermissionDenied"
  | .brokenPipe => "BrokenPipe"
  | .wouldBlock => "WouldBlock"
  | .invalidData => "InvalidData"
  | .unexpectedEof => "UnexpectedEof"
  | .timedOut => "TimedOut"
  | .writeZero => "WriteZero"
  | .storageFull => "StorageFull"
  | .connectionReset => "ConnectionReset"
  | .other => "Other"

/-- The text of an error that has a kind and nothing more, as `IoError.ofKind` makes it. -/
def text : IoKind → String
  | .notFound => "entity not found"
  | .permissionDenied => "permission denied"
  | .brokenPipe => "broken pipe"
  | .wouldBlock => "operation would block"
  | .invalidData => "invalid data"
  | .unexpectedEof => "unexpected end of file"
  | .timedOut => "timed out"
  | .writeZero => "write zero"
  | .storageFull => "no storage space"
  | .connectionReset => "connection reset"
  | .other => "other error"

end IoKind

/-- The error numbers that the operating system hands out, by the names of their `description`. -/
inductive Errno where
  | operationNotPermitted
  | noSuchFile
  | permissionDenied
  | noSpaceLeft
  | brokenPipe
  deriving DecidableEq, Repr, Inhabited

namespace Errno

def all : List Errno :=
  [.operationNotPermitted, .noSuchFile, .permissionDenied, .noSpaceLeft, .brokenPipe]

def number : Errno → Nat
  | .operationNotPermitted => 1
  | .noSuchFile => 2
  | .permissionDenied => 13
  | .noSpaceLeft => 28
  | .brokenPipe => 32

/-- The system's description of the error. -/
def description : Errno → String
  | .operationNotPermitted => "Operation not permitted"
  | .noSuchFile => "No such file or directory"
  | .permissionDenied => "Permission denied"
  | .noSpaceLeft => "No space left on device"
  | .brokenPipe => "Broken pipe"

/-- The kind of I/O error that the number stands for: both `1` and `13` are `permissionDenied`. -/
def kind : Errno → IoKind
  | .operationNotPermitted => .permissionDenied
  | .noSuchFile => .notFound
  | .permissionDenied => .permissionDenied
  | .noSpaceLeft => .storageFull
  | .brokenPipe => .brokenPipe

/-- The error whose `number` is the given one. -/
def ofNumber? (number : Nat) : Option Errno :=
  all.find? (·.number = number)

end Errno

/-- An I/O error: its `kind` and the `text` that a user sees. -/
structure IoError where
  kind : IoKind
  text : String
  deriving DecidableEq, Repr, Inhabited

namespace IoError

def ofKind (kind : IoKind) : IoError := ⟨kind, kind.text⟩

/-- The error that the operating system reports, with a text such as `Broken pipe (os error 32)`. -/
def ofErrno (errno : Errno) : IoError :=
  ⟨errno.kind, errno.description ++ " (os error " ++ toString errno.number ++ ")"⟩

end IoError

/-! ## Faults -/

/-- Why a computation ended early: an arithmetic error was `thrown`, or input or output failed. -/
inductive Fault where
  | thrown (error : ArithError)
  | io (error : IoError)
  deriving DecidableEq, Repr, Inhabited

namespace Fault

/-- The text of the fault. A `thrown` error speaks for itself, an `io` error is introduced. -/
def message : Fault → String
  | .thrown error => error.message
  | .io error => "出力エラー: " ++ error.text

/-- The message of the fault, followed by those of its causes. A `thrown` error is the fault itself,
    the error in `io error` is the cause of its fault. -/
def chain : Fault → List String
  | .thrown error => [error.message]
  | .io error => [(Fault.io error).message, error.text]

/-- Mapping the value of a result by `f` leaves its faults as they are. -/
theorem map_eq_error_iff {α β : Type} {result : Except Fault α} {f : α → β} {fault : Fault} :
    result.map f = .error fault ↔ result = .error fault := by
  cases result <;> simp [Except.map]

@[simp] theorem mapError_ok {ε α : Type} (f : ε → Fault) (value : α) :
    (Except.ok value : Except ε α).mapError f = .ok value := rfl

@[simp] theorem mapError_error {ε α : Type} (f : ε → Fault) (error : ε) :
    (Except.error error : Except ε α).mapError f = .error (f error) := rfl

/-- What `thrown` makes of an arithmetic error is not an `io` fault. -/
theorem mapError_ne_io {α : Type} (result : Except ArithError α) (error : IoError) :
    result.mapError thrown ≠ .error (.io error) := by
  cases result <;> simp

end Fault

end Guarded
