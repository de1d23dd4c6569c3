import Flowchart.Files.Access

/-!
Starting programs. A program is started with arguments on a tree of files; it may be refused, and if it
runs it leaves a tree, a way it ended and what it wrote to its error stream. Nothing else is known of a
program, so that what is said of an engine holds for every program.
-/

namespace Flowchart

open Files

/-- How a program ended. -/
inductive Exit where
  | code (n : Nat)
  /-- By a signal, with or without a dump of its memory. -/
  | signal (n : Nat) (dumped : Bool)
deriving DecidableEq, Repr

def signalNames : List (Nat × Text) :=
  [(1, "HUP".toList), (2, "INT".toList), (3, "QUIT".toList), (4, "ILL".toList), (5, "TRAP".toList),
   (6, "ABRT".toList), (7, "BUS".toList), (8, "FPE".toList), (9, "KILL".toList), (10, "USR1".toList),
   (11, "SEGV".toList), (12, "USR2".toList), (13, "PIPE".toList), (14, "ALRM".toList), (15, "TERM".toList),
   (16, "STKFLT".toList), (17, "CHLD".toList), (18, "CONT".toList), (19, "STOP".toList), (20, "TSTP".toList),
   (21, "TTIN".toList), (22, "TTOU".toList), (23, "URG".toList), (24, "XCPU".toList), (25, "XFSZ".toList),
   (26, "VTALRM".toList), (27, "PROF".toList), (28, "WINCH".toList), (29, "IO".toList), (30, "PWR".toList),
   (31, "SYS".toList)]

def Exit.message : Exit → Text
  | code n => "exit status: ".toList ++ Text.decimal n
  | signal n dumped =>
    "signal: ".toList ++ Text.decimal n ++
      (match signalNames.lookup n with
      | some name => " (SIG".toList ++ name ++ [')']
      | none => []) ++
      if dumped then " (core dumped)".toList else []

/-- What is left of a program that ran: how it ended and what it wrote to its error stream. -/
structure Ended where
  exit : Exit
  errors : Bytes
deriving DecidableEq

/-- Starting a program by name with arguments on a tree of files. -/
abbrev Launch := Text → List Text → Tree → Except Fault (Ended × Tree)

end Flowchart
