set_option autoImplicit false

/-! # Logs

Computations that leave log entries. A logged computation is its value together with the
entries it left, in order, so what it computes and what it reports can be looked at apart.
-/

namespace CiPipeline

namespace Log

/-- How urgent an entry is, the most urgent first. -/
inductive Level where
  | error
  | warn
  | info
  | debug
  | trace
  deriving DecidableEq, Inhabited

namespace Level

/-- Levels as numbers: the larger, the more talkative. -/
def toNat : Level → Nat
  | error => 1
  | warn => 2
  | info => 3
  | debug => 4
  | trace => 5

/-- Every level. -/
def all : List Level := [error, warn, info, debug, trace]

/-- The name in filters and options. -/
def name : Level → String
  | error => "error"
  | warn => "warn"
  | info => "info"
  | debug => "debug"
  | trace => "trace"

/-- The name in log lines. -/
def label : Level → String
  | error => "ERROR"
  | warn => "WARN"
  | info => "INFO"
  | debug => "DEBUG"
  | trace => "TRACE"

end Level

/-- The value of a field of an entry. -/
inductive Value where
  | text (s : String)
  | number (n : Nat)
  | flag (b : Bool)
  deriving DecidableEq, Inhabited

/-- What is logged: the part of the program that speaks, a message and named values. -/
structure Entry where
  level : Level
  target : String
  message : String
  fields : List (String × Value)
  deriving DecidableEq, Inhabited

end Log

/-- A value with the entries that its computation left. -/
structure Logged (α : Type) where
  value : α
  log : List Log.Entry

namespace Logged

variable {α β : Type}

instance : Monad Logged where
  pure a := ⟨a, []⟩
  bind x f := ⟨(f x.value).value, x.log ++ (f x.value).log⟩

instance : LawfulMonad Logged :=
  LawfulMonad.mk' Logged (fun _ => congrArg (Logged.mk _) (List.append_nil _)) (fun _ _ => rfl)
    (fun _ _ _ => congrArg (Logged.mk _) (List.append_assoc _ _ _))

/-- Leaves one entry. -/
def emit (e : Log.Entry) : Logged Unit := ⟨(), [e]⟩

@[simp] theorem value_pure (a : α) : (pure a : Logged α).value = a := rfl

@[simp] theorem log_pure (a : α) : (pure a : Logged α).log = [] := rfl

@[simp] theorem value_bind (x : Logged α) (f : α → Logged β) :
    (x >>= f).value = (f x.value).value := rfl

@[simp] theorem log_bind (x : Logged α) (f : α → Logged β) :
    (x >>= f).log = x.log ++ (f x.value).log := rfl

@[simp] theorem log_emit (e : Log.Entry) : (emit e).log = [e] := rfl

end Logged

end CiPipeline
