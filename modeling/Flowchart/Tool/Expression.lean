import Flowchart.Regex.Reader
import Flowchart.Tool.Basic

/-!
The tool that works out an expression whose parts are its arguments. Values are texts; those that are whole
numbers can be calculated with. A part that does not matter is read, but not worked out.
-/

namespace Flowchart.Tool.Expression

/-- The whole number that a value is. -/
def integer? (t : Text) : Option Int :=
  match t with
  | '-' :: rest => (natural? rest).map fun n => -n
  | t => (natural? t).map fun n => n

/-- Whether a value counts as nothing: an empty text, or a number of zeros. -/
def isNull (t : Text) : Bool :=
  match t with
  | [] => true
  | '-' :: c :: rest => (c :: rest).all (· = '0')
  | t => t.all (· = '0')

def ofBool (b : Bool) : Text := if b then ['1'] else ['0']

/-- Matches a value with an expression from its start: what the first group matches, or how much is matched. -/
def matched (t expression : Text) : Except Text Text := do
  let (r, groups) ← (Regex.read { extended := false, lenient := true } expression).mapError Regex.Fault.message
  let s := Regex.Subject.ofText t
  match r.matchAt? s 0 with
  | some m => return if groups = 0 then Text.decimal (m.stop - m.start) else m.groupText s 1
  | none => return if groups = 0 then ['0'] else []

/-- The part of a value from a place on, of some length. -/
def part (t place length : Text) : Text :=
  match integer? place, integer? length with
  | some i, some n => if 0 < i ∧ 0 < n then (t.drop (i.toNat - 1)).take n.toNat else []
  | _, _ => []

def calculated (operator : String) (a b : Text) : Except Text Text :=
  match integer? a, integer? b with
  | some m, some n =>
    match operator with
    | "+" => .ok (signedDigits (m + n))
    | "-" => .ok (signedDigits (m - n))
    | "*" => .ok (signedDigits (m * n))
    | _ =>
      if n = 0 then .error "division by zero".toList
      else .ok (signedDigits (if operator = "/" then m.tdiv n else m.tmod n))
  | _, _ => .error "non-integer argument".toList

/-- Compares two values: as numbers if both are, and as texts otherwise. -/
def compared (operator : String) (a b : Text) : Text :=
  let (less, same) : Bool × Bool := match integer? a, integer? b with
    | some m, some n => (m < n, m = n)
    | _, _ => (a ≠ b && Text.precedes a b, a = b)
  ofBool (match operator with
    | "<" => less
    | "<=" => less || same
    | ">=" => !less
    | ">" => !less && !same
    | "!=" => !same
    | _ => same)

/-- The operators, those that hold their parts together least first. -/
def operators : List (List String) :=
  [["|"], ["&"], ["<", "<=", "=", "==", "!=", ">=", ">"], ["+", "-"], ["*", "/", "%"], [":"]]

/-- Works out two values that an operator joins. -/
def combined (operator : String) (a b : Text) : Except Text Text :=
  match operator with
  | "|" => .ok (if !isNull a then a else if isNull b then ['0'] else b)
  | "&" => .ok (if isNull a || isNull b then ['0'] else a)
  | ":" => matched a b
  | "+" | "-" | "*" | "/" | "%" => calculated operator a b
  | _ => .ok (compared operator a b)

/-- Whether the right part of an operator matters. -/
def matters (operator : String) (a : Text) : Bool :=
  match operator with
  | "|" => isNull a
  | "&" => !isNull a
  | _ => true

/-- What is left of the arguments, and the one before. -/
structure Rest where
  last : Text
  more : List Text

def Rest.next (r : Rest) : Rest := ⟨r.more.head?.getD r.last, r.more.tail⟩

/-- What is said where an argument is missing. -/
def missing (r : Rest) : Text := "syntax error: missing argument after ".toList ++ quoted r.last

mutual

/-- Works out what stands at the front and is held together at least as much as a level says. -/
def expression (runs : Bool) : Nat → Nat → Rest → Except Text (Text × Rest)
  | 0, _, r => .error (missing r)
  | fuel + 1, level, r =>
    match operators[level]? with
    | none => simple runs fuel r
    | some known => do
      let (value, r) ← expression runs fuel (level + 1) r
      joined runs fuel level known value r

/-- Goes on with the operators of a level. -/
def joined (runs : Bool) : Nat → Nat → List String → Text → Rest → Except Text (Text × Rest)
  | 0, _, _, value, r => .ok (value, r)
  | fuel + 1, level, known, value, r =>
    match r.more with
    | [] => .ok (value, r)
    | argument :: _ =>
      let operator := String.ofList argument
      if known.contains operator then do
        let (right, r) ← expression (runs && matters operator value) fuel (level + 1) r.next
        let value ← if runs && (matters operator value || operator = "&") then combined operator value right else .ok value
        joined runs fuel level known value r
      else .ok (value, r)

/-- Works out a function of values, an expression between brackets, or a value. -/
def simple (runs : Bool) : Nat → Rest → Except Text (Text × Rest)
  | 0, r => .error (missing r)
  | fuel + 1, r =>
    match r.more with
    | [] => .error (missing r)
    | argument :: _ =>
      match String.ofList argument with
      | "+" =>
        let r := r.next
        match r.more with
        | [] => .error (missing r)
        | value :: _ => .ok (value, r.next)
      | "length" => do
        let (value, r) ← simple runs fuel r.next
        return (Text.decimal value.length, r)
      | "match" => do
        let (value, r) ← simple runs fuel r.next
        let (pattern, r) ← simple runs fuel r
        return (← if runs then matched value pattern else .ok value, r)
      | "index" => do
        let (value, r) ← simple runs fuel r.next
        let (set, r) ← simple runs fuel r
        return (Text.decimal (((value.findIdx? set.contains).map (· + 1)).getD 0), r)
      | "substr" => do
        let (value, r) ← simple runs fuel r.next
        let (place, r) ← simple runs fuel r
        let (length, r) ← simple runs fuel r
        return (part value place length, r)
      | "(" => do
        let (value, r) ← expression runs fuel 0 r.next
        match r.more with
        | [] => .error ("syntax error: expecting ')' after ".toList ++ quoted r.last)
        | [')'] :: _ => return (value, r.next)
        | other :: _ => .error ("syntax error: expecting ')' instead of ".toList ++ quoted other)
      | ")" => .error "syntax error: unexpected ')'".toList
      | _ => .ok (argument, r.next)

end

end Expression

/-- Works out the expression that its arguments make up and writes the value. -/
def evaluate : Service := fun c p =>
  let arguments := if c.arguments.head? = some ['-', '-'] then c.arguments.tail else c.arguments
  match arguments with
  | [] => c.refuse "missing operand".toList 2 p
  | arguments =>
    match Expression.expression true (16 * (arguments.length + 2)) 0 ⟨[], arguments⟩ with
    | .error message => c.fail message 2 p
    | .ok (value, r) =>
      match r.more with
      | [] => ends (if Expression.isNull value then 1 else 0) (p.write 1 (value ++ ['\n']))
      | extra :: _ => c.fail ("syntax error: unexpected argument ".toList ++ quoted extra) 2 p

end Flowchart.Tool
