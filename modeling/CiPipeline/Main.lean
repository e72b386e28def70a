import CiPipeline.CommandLine.Help

set_option autoImplicit false

/-! # The program

The file store of the operating system, and the program on top of it: log lines and
problems go to standard error, everything else to standard output.
-/

namespace CiPipeline.Host

/-- The number of an error. Some calls report it negated, in 32 bits. -/
def number (n : UInt32) : Nat :=
  if n.toNat < Nat.pow 2 31 then n.toNat else Nat.pow 2 32 - n.toNat

/-- The operating system's number for an error, and its words. -/
def cause : IO.Error → Nat × String
  | .alreadyExists _ n s | .inappropriateType _ n s | .invalidArgument _ n s
  | .permissionDenied _ n s | .resourceExhausted _ n s | .noSuchThing _ n s
  | .interrupted _ n s | .noFileOrDirectory _ n s | .otherError n s | .resourceBusy n s
  | .resourceVanished n s | .unsupportedOperation n s | .hardwareFault n s
  | .unsatisfiedConstraints n s | .illegalOperation n s | .protocolError n s
  | .timeExpired n s => (number n, s)
  | .unexpectedEof => (0, "unexpected end of file")
  | .userError s => (0, s)

/-- The storage error for an error of the operating system. -/
def storageError (e : IO.Error) : Storage.Error :=
  match cause e with
  | (2, _) => .notFound
  | (17, _) => .alreadyExists
  | (20, _) => .notADirectory
  | (21, _) => .isADirectory
  | (36, _) => .nameTooLong
  | (n, words) => .system n words

/-- Uses a path, which must be a name for the operating system. -/
def reporting {α : Type} (path : Path) (act : IO (Except Storage.Error α)) :
    IO (Except Storage.Error α) := do
  if path.text.toList.contains '\x00' then return .error .nulInName
  try act catch e => return .error (storageError e)

instance : FileStore IO where
  read path := reporting path do
    match String.fromUTF8? (← IO.FS.readBinFile path.text) with
    | some text => return .ok text
    | none => return .error .notText
  write path text := reporting path do
    IO.FS.writeFile path.text text
    return .ok ()
  makeDirectory path := reporting path do
    IO.FS.createDir path.text
    return .ok ()

/-- Shows what a run shows. -/
def present (o : CommandLine.Outcome) : IO Unit := do
  for e in o.log do IO.eprintln (e.line o.layout)
  IO.print o.output
  match o.trouble with
  | some t => for line in t.lines do IO.eprintln line
  | none => return

end CiPipeline.Host

def main (args : List String) : IO UInt32 := do
  let outcome ← CiPipeline.CommandLine.run args (← IO.getEnv "RUST_LOG")
  CiPipeline.Host.present outcome
  return outcome.exitCode.toUInt32
