import Flowchart.Number.Decimal
import Flowchart.Shell.Arithmetic
import Flowchart.Text.Octet

/-!
Formatted output. A format is a text with directives, each of which writes one argument; it is used again
as long as arguments are left. Escapes in a format or in an argument stand for single octets. Shells and
programs differ in some escapes, in how exactly they count, and in what they say of a wrong argument.
-/

namespace Flowchart.Shell

open Text

inductive Dialect where
  | shell
  | program
deriving DecidableEq, Repr

namespace Dialect

/-- The binary digits of fractions. -/
def binaryDigits : Dialect → Nat
  | shell => 53
  | program => 64

def cite (d : Dialect) (t : Text) : Text :=
  match d with
  | shell => t
  | program => '\'' :: t ++ ['\'']

/-- What is said of an argument that is no number. -/
def noNumber (d : Dialect) (t : Text) : Text :=
  d.cite t ++ match d with
    | shell => ": expected numeric value".toList
    | program => ": expected a numeric value".toList

/-- What is said of an argument that goes on behind its number. -/
def goesOn (d : Dialect) (t : Text) : Text :=
  d.cite t ++ match d with
    | shell => ": not completely converted".toList
    | program => ": value not completely converted".toList

/-- What is said of a number that is too great. -/
def outOfRange (d : Dialect) (t : Text) : Text := d.cite t ++ ": Numerical result out of range".toList

end Dialect

/-! ### Escapes -/

/-- The octet of an escape that is written as a letter. -/
def letterEscape? (c : Char) : Option Char :=
  [('a', '\x07'), ('b', '\x08'), ('e', '\x1b'), ('f', '\x0c'), ('n', '\n'), ('r', '\r'), ('t', '\t'), ('v', '\x0b'),
   ('\\', '\\')].lookup c

/-- The octet that up to three octal digits stand for, and what follows them. -/
def octalOctet (t : Text) : Char × Text :=
  let digits := (t.take 3).takeWhile isOctalDigit
  (Char.ofNat (natOfDigits 8 digits % 256), t.drop digits.length)

/-- What a backslash and the text behind it stand for: an octet and what follows, where it is known. -/
def escape? : Text → Option (Char × Text)
  | [] => none
  | c :: rest =>
    if isOctalDigit c then some (octalOctet (c :: rest)) else (letterEscape? c).map fun d => (d, rest)

/-- The octets of a character that is written with hexadecimal digits, and what follows. -/
def numbered? (most : Nat) (t : Text) : Option (Text × Text) :=
  let digits := (t.take most).takeWhile isHexDigit
  if digits = [] then none
  else
    let n := natOfDigits 16 digits
    some (if most = 2 then [Char.ofNat n] else spread [Char.ofNat n], t.drop digits.length)

/-- The octets of an escape that only programs know, and what follows. -/
def programEscape? : Text → Option (Text × Text)
  | 'x' :: rest => numbered? 2 rest
  | 'u' :: rest => numbered? 4 rest
  | 'U' :: rest => numbered? 8 rest
  | '"' :: rest => some (['"'], rest)
  | _ => none

/-- A text with escapes: the octets that it stands for, and whether it asks to write nothing more. -/
def unescape (d : Dialect) : Nat → Text → Text × Bool
  | 0, _ => ([], false)
  | _ + 1, [] => ([], false)
  | fuel + 1, '\\' :: rest =>
    let add (t : Text) (rest : Text) :=
      let (more, stops) := unescape d fuel rest
      (t ++ more, stops)
    match rest with
    | 'c' :: _ => ([], true)
    | '0' :: rest =>
      let (c, rest) := octalOctet rest
      add [c] rest
    | rest =>
      match escape? rest, if d = .program then programEscape? rest else none with
      | some (c, rest), _ => add [c] rest
      | none, some (t, rest) => add t rest
      | none, none => add ['\\'] rest
  | fuel + 1, c :: rest =>
    let (more, stops) := unescape d fuel rest
    (c :: more, stops)

/-- What is written of the arguments of an echo, with escapes. The argument `-n` before them leaves the end
of the line out. -/
def echoed (arguments : List Text) : Text :=
  let (lineEnd, arguments) := match arguments with
    | ['-', 'n'] :: more => (false, more)
    | arguments => (true, arguments)
  let t := [' '].intercalate arguments
  let (out, stops) := unescape .shell (t.length + 1) t
  out ++ if lineEnd ∧ stops = false then ['\n'] else []

/-! ### Directives -/

/-- A number in a directive: written there, or taken from the arguments. -/
inductive Amount where
  | none
  | given (n : Nat)
  | taken
deriving DecidableEq, Repr

structure Directive where
  flags : Text
  width : Amount
  precision : Amount
  kind : Char
deriving Repr

inductive Part where
  | plain (t : Text)
  | directive (d : Directive)
  /-- The format ends the output. -/
  | stop
  /-- What is none of these; nothing behind it is written. -/
  | wrong (complaint : Text)
deriving Repr

/-- The kinds of directives that write fractions. -/
def fractionKinds : List Char := ['a', 'A', 'e', 'E', 'f', 'F', 'g', 'G']

def kinds (d : Dialect) : List Char :=
  ['b', 'c', 'd', 'i', 'o', 's', 'u', 'x', 'X'] ++ fractionKinds ++ if d = .program then ['q'] else []

/-- The amount that a text starts with. -/
def amount : Text → Amount × Text
  | '*' :: rest => (.taken, rest)
  | t =>
    let digits := t.takeWhile Char.isDigit
    (if digits = [] then .none else .given (natOfDigits 10 digits), t.drop digits.length)

/-- The directive behind a percent sign, or what is wrong with it. -/
def directive (d : Dialect) (t : Text) : Except Text (Directive × Text) :=
  let isFlag := fun c : Char => "#-+ 0".toList.contains c
  let flags := t.takeWhile isFlag
  let (width, rest) := amount (t.drop flags.length)
  let (precision, rest) : Amount × Text := match rest with
    | '.' :: rest =>
      let (n, rest) := amount rest
      (if n = .none then .given 0 else n, rest)
    | rest => (.none, rest)
  let rest := if d = .program then rest.dropWhile fun c => "hlLjtz".toList.contains c else rest
  let invalid (rest : Text) : Text :=
    '%' :: t.take (t.length - rest.length) ++ match d with
      | .shell => ": invalid directive".toList
      | .program => ": invalid conversion specification".toList
  match rest with
  | [] => .error (if d = .shell then "missing format character".toList else invalid [])
  | c :: rest => if c ∈ kinds d then .ok (⟨flags, width, precision, c⟩, rest) else .error (invalid rest)

def formatParts (d : Dialect) : Nat → Text → List Part
  | 0, _ => []
  | _ + 1, [] => []
  | fuel + 1, '%' :: '%' :: rest => .plain ['%'] :: formatParts d fuel rest
  | fuel + 1, '%' :: rest =>
    match directive d rest with
    | .ok (directive, rest) => .directive directive :: formatParts d fuel rest
    | .error complaint => [.wrong complaint]
  | fuel + 1, '\\' :: rest =>
    match escape? rest, if d = .program then programEscape? rest else none with
    | some (c, rest), _ => .plain [c] :: formatParts d fuel rest
    | none, some (t, rest) => .plain t :: formatParts d fuel rest
    | none, none =>
      if d = .program ∧ rest.head? = some 'c' then [.stop] else .plain ['\\'] :: formatParts d fuel rest
  | fuel + 1, c :: rest => .plain [c] :: formatParts d fuel rest

/-! ### Writing arguments -/

/-- The number that an argument stands for, and what is to be said of it. A quote before a character makes
it the number of its first octet. -/
def numeral (d : Dialect) (t : Text) : Int × Option Text :=
  match t with
  | '\'' :: rest | '"' :: rest => ((rest.head?.map Char.toNat).getD 0, none)
  | t =>
    let start := t.dropWhile isSpace
    let (negative, digits) := match start with
      | '-' :: rest => (true, rest)
      | '+' :: rest => (false, rest)
      | rest => (false, rest)
    if t = [] then (0, none)
    else if ¬ (digits.head?.map Char.isDigit).getD false then (0, some (d.noNumber t))
    else
      let (n, rest) := Arithmetic.numberOf digits
      let n : Int := if negative then -n else n
      (n,
        if rest ≠ [] then some (d.goesOn t)
        else if n < Arithmetic.leastNumber ∨ Int.pow 2 64 ≤ n then some (d.outOfRange t)
        else none)

/-- The quantity that an argument stands for, and what is to be said of it. -/
def fraction (d : Dialect) (t : Text) : Quantity × Option Text :=
  match t with
  | '\'' :: rest | '"' :: rest => (.ofInt ((rest.head?.map Char.toNat).getD 0), none)
  | [] => (.ofInt 0, none)
  | t =>
    match Quantity.read? t with
    | none => (.ofInt 0, some (d.noNumber t))
    | some (q, rest) =>
      let q := if d = .shell then .ofBinary q.toBinary else q.rounded d.binaryDigits
      (q, if rest = [] then none else some (d.goesOn t))

/-- Puts a text into a width: to the right, or to the left if the flags say so. -/
def pad (flags : Text) (width : Nat) (t : Text) : Text :=
  let blanks := List.replicate (width - t.length) ' '
  if '-' ∈ flags then t ++ blanks else blanks ++ t

/-- A number with a sign or a mark before its digits. -/
def padNumber (flags : Text) (width : Nat) (precision : Option Nat) (mark digits : Text) : Text :=
  let digits := if precision = some 0 ∧ digits = ['0'] then [] else digits
  let digits := List.replicate (precision.getD 0 - digits.length) '0' ++ digits
  let digits :=
    if '0' ∈ flags ∧ '-' ∉ flags ∧ precision = none then
      List.replicate (width - mark.length - digits.length) '0' ++ digits
    else digits
  pad flags width (mark ++ digits)

/-- Writes a whole number with a sign. -/
def writeSigned (flags : Text) (width : Nat) (precision : Option Nat) (n : Int) : Text :=
  let mark := if n < 0 then ['-'] else if '+' ∈ flags then ['+'] else if ' ' ∈ flags then [' '] else []
  padNumber flags width precision mark (decimal n.natAbs)

/-- Writes a whole number without a sign in the base of a kind. -/
def writeUnsigned (flags : Text) (width : Nat) (precision : Option Nat) (kind : Char) (n : Nat) : Text :=
  let (mark, digits) :=
    if kind = 'o' then (([] : Text), (if '#' ∈ flags ∧ n ≠ 0 then ['0'] else []) ++ Nat.toDigits 8 n)
    else if kind = 'x' then (if '#' ∈ flags ∧ n ≠ 0 then ['0', 'x'] else [], Nat.toDigits 16 n)
    else if kind = 'X' then (if '#' ∈ flags ∧ n ≠ 0 then ['0', 'X'] else [], (Nat.toDigits 16 n).map Char.toUpper)
    else ([], decimal n)
  padNumber flags width precision mark digits

/-- Writes an argument as a directive says: what is written, what is to be said of the argument, and whether
nothing more is to be written. -/
def writeArgument (d : Dialect) (quote : Text → Text) (flags : Text) (width : Nat) (precision : Option Nat) (kind : Char)
    (argument : Text) : Text × Option Text × Bool :=
  if kind = 's' then (pad flags width (argument.take (precision.getD argument.length)), none, false)
  else if kind = 'c' then
    (pad flags width (if d = .shell ∨ argument ≠ [] then [argument.head?.getD '\x00'] else []), none, false)
  else if kind = 'q' then (pad flags width (quote argument), none, false)
  else if kind = 'b' then
    let (t, stops) := unescape d (argument.length + 1) argument
    (pad flags width (t.take (precision.getD t.length)), none, stops)
  else if fractionKinds.contains kind then
    let (q, complaint) := fraction d argument
    (q.write ⟨kind, flags, width, precision⟩, complaint, false)
  else
    let (n, complaint) := numeral d argument
    if kind == 'd' || kind == 'i' then
      let bounded := max Arithmetic.leastNumber (min Arithmetic.greatestNumber n)
      (writeSigned flags width precision bounded,
        if complaint = none ∧ n ≠ bounded then some (d.outOfRange argument) else complaint, false)
    else
      let n := if n < 0 then (n.emod (Int.pow 2 64)).toNat else min n.toNat (Nat.pow 2 64 - 1)
      (writeUnsigned flags width precision kind n, complaint, false)

/-- What a format leaves: its output, what is to be said of it, and its status. -/
structure Formatted where
  out : Text := []
  complaints : List Text := []
  status : Nat := 0
  /-- Nothing more is to be written. -/
  stops : Bool := false
deriving Repr

/-- The number for an amount, and the arguments that are left. -/
def Amount.value (d : Dialect) (arguments : List Text) : Amount → Option Int × List Text
  | none => (Option.none, arguments)
  | given n => (some n, arguments)
  | taken => (some (numeral d (arguments.head?.getD [])).1, arguments.tail)

/-- Uses a format once; gives the arguments that are left. -/
def formatOnce (d : Dialect) (quote : Text → Text) (f : Formatted) (arguments : List Text) :
    List Part → Formatted × List Text
  | [] => (f, arguments)
  | .plain t :: more => formatOnce d quote { f with out := f.out ++ t } arguments more
  | .stop :: _ => ({ f with stops := true }, [])
  | .wrong complaint :: _ =>
    ({ f with complaints := f.complaints ++ [complaint], status := 2, stops := true }, arguments)
  | .directive directive :: more =>
    let (width, arguments) := directive.width.value d arguments
    let (precision, arguments) := directive.precision.value d arguments
    let flags := if width.getD 0 < 0 then '-' :: directive.flags else directive.flags
    let precision := precision.filter (0 ≤ ·) |>.map Int.toNat
    let (t, complaint, stops) :=
      writeArgument d quote flags (width.getD 0).natAbs precision directive.kind (arguments.head?.getD [])
    let f : Formatted :=
      ⟨f.out ++ t, f.complaints ++ complaint.toList, if complaint.isSome then 1 else f.status, stops⟩
    if stops then (f, []) else formatOnce d quote f arguments.tail more

/-- Uses a format as long as arguments are left. -/
def formatAll (d : Dialect) (quote : Text → Text) (parts : List Part) (f : Formatted) :
    Nat → List Text → Formatted × List Text
  | 0, arguments => (f, arguments)
  | fuel + 1, arguments =>
    let (f, left) := formatOnce d quote f arguments parts
    if f.stops ∨ left = [] ∨ left.length = arguments.length then (f, left) else formatAll d quote parts f fuel left

/-- Writes arguments in a format; gives the arguments that the format has no use for. -/
def formatted (d : Dialect) (quote : Text → Text) (format : Text) (arguments : List Text) : Formatted × List Text :=
  formatAll d quote (formatParts d (format.length + 1) format) {} (arguments.length + 1) arguments

end Flowchart.Shell
