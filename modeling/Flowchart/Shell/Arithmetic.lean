import Flowchart.Text.Class
import Flowchart.Text.Digit

/-!
Arithmetic in scripts. Numbers have 64 bits and a sign; what does not fit wraps around. An expression is
read first and evaluated then, so that what is not needed is not evaluated.
-/

namespace Flowchart.Shell.Arithmetic

inductive Operation where
  | or | xor | and
  | equal | different
  | less | atMost | greater | atLeast
  | shiftLeft | shiftRight
  | add | subtract
  | multiply | divide | remainder
deriving DecidableEq, Repr

/-- How operations are written; where two fit the longer one stands first. -/
def operationSigns : List (String × Operation) :=
  [("<<", .shiftLeft), (">>", .shiftRight), ("<=", .atMost), (">=", .atLeast), ("==", .equal), ("!=", .different),
   ("|", .or), ("^", .xor), ("&", .and), ("<", .less), (">", .greater), ("+", .add), ("-", .subtract),
   ("*", .multiply), ("/", .divide), ("%", .remainder)]

/-- How tightly an operation binds. -/
def Operation.level : Operation → Nat
  | or => 0
  | xor => 1
  | and => 2
  | equal | different => 3
  | less | atMost | greater | atLeast => 4
  | shiftLeft | shiftRight => 5
  | add | subtract => 6
  | multiply | divide | remainder => 7

inductive Expr where
  | number (n : Int)
  | named (name : Text)
  | negative (e : Expr)
  | not (e : Expr)
  | complement (e : Expr)
  | binary (o : Operation) (e f : Expr)
  | both (e f : Expr)
  | either (e f : Expr)
  | choice (condition e f : Expr)
  | assign (o : Option Operation) (name : Text) (e : Expr)
deriving Repr

/-! ### Reading -/

inductive Token where
  | number (n : Int)
  | named (name : Text)
  | operation (o : Operation)
  | assign (o : Option Operation)
  | sign (s : String)
  | unknown
deriving DecidableEq, Repr

/-- The least and the greatest number. -/
def leastNumber : Int := -Int.pow 2 63

def greatestNumber : Int := Int.pow 2 63 - 1

/-- The number that fits a width of 64 bits and differs by a multiple of its range. -/
def wrap (n : Int) : Int := n.bmod (Nat.pow 2 64)

/-- The number that a text starts with: octal behind a zero, hexadecimal behind `0x`. -/
def numberOf (t : Text) : Nat × Text :=
  let read (base : Nat) (isDigit : Char → Bool) (t : Text) :=
    (Text.natOfDigits base (t.takeWhile isDigit), t.dropWhile isDigit)
  match t with
  | '0' :: x :: d :: rest =>
    if (x = 'x' ∨ x = 'X') ∧ Text.isHexDigit d = true then read 16 Text.isHexDigit (d :: rest)
    else read 8 Text.isOctalDigit t
  | '0' :: rest => read 8 Text.isOctalDigit ('0' :: rest)
  | t => read 10 Char.isDigit t

/-- The value of a text that is a number as a whole, with blanks and a sign before it. -/
def number? (t : Text) : Option Int :=
  let t := t.dropWhile Text.isSpace
  let (negative, digits) := match t with
    | '-' :: rest => (true, rest)
    | '+' :: rest => (false, rest)
    | t => (false, t)
  if (digits.head?.map Char.isDigit).getD false then
    let (n, rest) := numberOf digits
    if rest.all Text.isSpace then
      some (if negative then max leastNumber (-n) else min greatestNumber n)
    else none
  else none

/-- The operation that a text starts with. -/
def operation? (t : Text) : Option (Operation × Text) :=
  operationSigns.findSome? fun (sign, o) => (sign.toList.isPrefixOf? t).map fun rest => (o, rest)

def tokens : Nat → Text → List Token
  | 0, _ => []
  | _ + 1, [] => []
  | fuel + 1, c :: rest =>
    if c == ' ' || c == '\t' || c == '\n' then tokens fuel rest
    else if c.isDigit then
      let (n, rest) := numberOf (c :: rest)
      .number (min greatestNumber n) :: tokens fuel rest
    else if c.isAlpha || c == '_' then
      .named (c :: rest.takeWhile fun c => c.isAlphanum || c == '_') ::
        tokens fuel (rest.dropWhile fun c => c.isAlphanum || c == '_')
    else
      match c, rest with
      | '&', '&' :: rest => .sign "&&" :: tokens fuel rest
      | '|', '|' :: rest => .sign "||" :: tokens fuel rest
      | _, _ =>
        match operation? (c :: rest) with
        | some (o, '=' :: rest) =>
          if o.level = 3 ∨ o.level = 4 then .operation o :: tokens fuel ('=' :: rest)
          else .assign (some o) :: tokens fuel rest
        | some (o, rest) => .operation o :: tokens fuel rest
        | none =>
          if c = '=' then .assign none :: tokens fuel rest
          else if c ∈ ['(', ')', '!', '~', '?', ':'] then .sign (String.singleton c) :: tokens fuel rest
          else [.unknown]

mutual

/-- Reads an expression that may be an assignment. -/
def whole : Nat → List Token → Except String (Expr × List Token)
  | 0, _ => .error "expecting primary"
  | fuel + 1, ts =>
    match ts with
    | .named name :: .assign o :: rest => do
      let (e, rest) ← whole fuel rest
      return (.assign o name e, rest)
    | ts => chosen fuel ts

/-- Reads an expression that may be a choice. -/
def chosen : Nat → List Token → Except String (Expr × List Token)
  | 0, _ => .error "expecting primary"
  | fuel + 1, ts => do
    let (condition, rest) ← eitherOf fuel ts
    match rest with
    | .sign "?" :: rest =>
      let (e, rest) ← whole fuel rest
      match rest with
      | .sign ":" :: rest =>
        let (f, rest) ← chosen fuel rest
        return (.choice condition e f, rest)
      | _ => .error "expecting ':'"
    | rest => return (condition, rest)

/-- Reads expressions one of which has to hold. -/
def eitherOf : Nat → List Token → Except String (Expr × List Token)
  | 0, _ => .error "expecting primary"
  | fuel + 1, ts => do
    let (e, rest) ← bothOf fuel ts
    match rest with
    | .sign "||" :: rest =>
      let (f, rest) ← eitherOf fuel rest
      return (.either e f, rest)
    | rest => return (e, rest)

/-- Reads expressions all of which have to hold. -/
def bothOf : Nat → List Token → Except String (Expr × List Token)
  | 0, _ => .error "expecting primary"
  | fuel + 1, ts => do
    let (e, rest) ← primary fuel ts
    let (e, rest) ← operations 0 e fuel rest
    match rest with
    | .sign "&&" :: rest =>
      let (f, rest) ← bothOf fuel rest
      return (.both e f, rest)
    | rest => return (e, rest)

/-- Reads the operations on an expression that bind at least as tightly as a level. -/
def operations (level : Nat) (e : Expr) : Nat → List Token → Except String (Expr × List Token)
  | 0, _ => .error "expecting primary"
  | fuel + 1, ts =>
    match ts with
    | .operation o :: rest =>
      if o.level < level then .ok (e, ts)
      else do
        let (f, rest) ← primary fuel rest
        let (f, rest) ← operations (o.level + 1) f fuel rest
        operations level (.binary o e f) fuel rest
    | ts => .ok (e, ts)

/-- Reads an expression that no operation divides. -/
def primary : Nat → List Token → Except String (Expr × List Token)
  | 0, _ => .error "expecting primary"
  | fuel + 1, ts =>
    match ts with
    | .number n :: rest => .ok (.number n, rest)
    | .named name :: rest => .ok (.named name, rest)
    | .operation .add :: rest => primary fuel rest
    | .operation .subtract :: rest => do
      let (e, rest) ← primary fuel rest
      return (.negative e, rest)
    | .sign "!" :: rest => do
      let (e, rest) ← primary fuel rest
      return (.not e, rest)
    | .sign "~" :: rest => do
      let (e, rest) ← primary fuel rest
      return (.complement e, rest)
    | .sign "(" :: rest => do
      let (e, rest) ← whole fuel rest
      match rest with
      | .sign ")" :: rest => return (e, rest)
      | _ => .error "expecting ')'"
    | _ => .error "expecting primary"

end

/-- Reads an expression; nothing may follow it. -/
def read (t : Text) : Except String Expr := do
  let ts := tokens (t.length + 1) t
  let (e, rest) ← whole (8 * ts.length + 8) ts
  if rest.isEmpty then return e else .error "expecting EOF"

/-! ### Evaluating -/

/-- Why an expression has no value. -/
inductive Trouble where
  /-- The expression is wrong in the way that is told. -/
  | expression (reason : String)
  /-- The value of a variable is no number. -/
  | illegal (value : Text)
deriving DecidableEq, Repr

def ofBool (b : Bool) : Int := if b then 1 else 0

def Operation.apply (o : Operation) (a b : Int) : Except Trouble Int :=
  let shift := b.emod 64 |>.toNat
  match o with
  | or => .ok (Int64.ofInt a ||| Int64.ofInt b).toInt
  | xor => .ok (Int64.ofInt a ^^^ Int64.ofInt b).toInt
  | and => .ok (Int64.ofInt a &&& Int64.ofInt b).toInt
  | equal => .ok (ofBool (a = b))
  | different => .ok (ofBool (a ≠ b))
  | less => .ok (ofBool (a < b))
  | atMost => .ok (ofBool (a ≤ b))
  | greater => .ok (ofBool (b < a))
  | atLeast => .ok (ofBool (b ≤ a))
  | shiftLeft => .ok (wrap (a * Int.pow 2 shift))
  | shiftRight => .ok (a.fdiv (Int.pow 2 shift))
  | add => .ok (wrap (a + b))
  | subtract => .ok (wrap (a - b))
  | multiply => .ok (wrap (a * b))
  | divide => if b = 0 then .error (.expression "division by zero") else .ok (wrap (a.tdiv b))
  | remainder => if b = 0 then .error (.expression "division by zero") else .ok (wrap (a.tmod b))

/-- What has been assigned, the last first. -/
abbrev Assigned := List (Text × Int)

/-- The value of an expression, where the values of variables are texts. -/
def Expr.value (texts : Text → Text) : Expr → Assigned → Except Trouble (Int × Assigned)
  | number n, s => .ok (n, s)
  | named name, s =>
    match s.lookup name with
    | some n => .ok (n, s)
    | none =>
      let t := texts name
      if t = [] then .ok (0, s)
      else match number? t with
        | some n => .ok (n, s)
        | none => .error (.illegal t)
  | negative e, s => do
    let (a, s) ← e.value texts s
    return (wrap (-a), s)
  | not e, s => do
    let (a, s) ← e.value texts s
    return (ofBool (a = 0), s)
  | complement e, s => do
    let (a, s) ← e.value texts s
    return (-a - 1, s)
  | binary o e f, s => do
    let (a, s) ← e.value texts s
    let (b, s) ← f.value texts s
    return (← o.apply a b, s)
  | both e f, s => do
    let (a, s) ← e.value texts s
    if a = 0 then return (0, s)
    else
      let (b, s) ← f.value texts s
      return (ofBool (b ≠ 0), s)
  | either e f, s => do
    let (a, s) ← e.value texts s
    if a ≠ 0 then return (1, s)
    else
      let (b, s) ← f.value texts s
      return (ofBool (b ≠ 0), s)
  | choice condition e f, s => do
    let (a, s) ← condition.value texts s
    if a ≠ 0 then e.value texts s else f.value texts s
  | assign o name e, s => do
    let (b, s) ← e.value texts s
    match o with
    | none => return (b, (name, b) :: s)
    | some o =>
      let (a, s) ← (named name).value texts s
      let n ← o.apply a b
      return (n, (name, n) :: s)

/-- The value of a written expression, and what it assigns. -/
def evaluate (texts : Text → Text) (t : Text) : Except Trouble (Int × Assigned) :=
  match read t with
  | .error reason => .error (.expression reason)
  | .ok e => e.value texts []

end Flowchart.Shell.Arithmetic
