import Flowchart.Regex.Reader
import Flowchart.Rules.Token

/-!
Reading programs of rules. A program is read to its end where that is possible, and everything that is wrong with
it is told with the number of its line. A statement that cannot be read is passed over.

Whether a name stands for a value or for a table is seen from how it is used. What a function is called with
tells it too, so that it is known only at the end.
-/

namespace Flowchart.Rules

/-- Why a part of a program cannot be read, and what is left of the program there. -/
structure ReadFault where
  /-- What is wrong, behind what has been noted before. -/
  messages : List Text
  /-- Whether nothing behind it is read. -/
  isLast : Bool
  left : Text
  parens : Nat := 0

inductive Use where
  | unknown
  | value
  | table
deriving DecidableEq, Repr

/-- A function that has been mentioned: its name, the names that are its own, what they stand for, and what it does
if that has been read. -/
structure Draft where
  name : Text
  own : List Text := []
  uses : Array Use := #[]
  body : Option Stmt := none

/-- What a call hands to a function: a name that may be a table, or a value. -/
inductive Handed where
  | name (n : Name)
  | value
deriving DecidableEq, Repr

structure FunctionCall where
  /-- The function that the call stands in, if it stands in one. -/
  scope : Option Nat
  function : Nat
  arguments : List Handed
  line : Nat

/-- How far a program has been read. -/
structure Reading where
  all : Text
  left : Text
  parens : Nat := 0
  braces : Nat := 0
  loops : Nat := 0
  /-- The function that is being read. -/
  scope : Option Nat := none
  /-- Whether a record is being dealt with. -/
  hasRecord : Bool := false
  names : Array (Text × Use)
  functions : Array Draft := #[]
  calls : List FunctionCall := []
  complaints : List Text := []

abbrev Reader := StateT Reading (Except ReadFault)

def keywords : List String :=
  ["BEGIN", "END", "break", "continue", "delete", "do", "else", "exit", "for", "function", "getline", "if", "in", "next",
   "nextfile", "print", "printf", "return", "while"]

/-- The line of what is left of a program. -/
def Reading.lineAt (r : Reading) (left : Text) : Nat :=
  1 + ((r.all.take (r.all.length - left.length)).filter (· = '\n')).length

def ofLine (line : Nat) (message : Text) : Text := "line ".toList ++ Text.decimal line ++ ": ".toList ++ message

/-- Notes what is wrong, and goes on. -/
def note (message : Text) : Reader Unit :=
  modify fun r => { r with complaints := r.complaints ++ [ofLine (r.lineAt r.left) message] }

/-- The next sign, and what follows it. A bracket that closes nothing is told and passed over. -/
def peekFrom : Nat → Reader (Token × Text)
  | 0 => return (.finish, [])
  | fuel + 1 => do
    let r ← get
    let left := overGaps (r.left.length + 1) r.left
    set { r with left }
    let fail (message : Text) : Reader (Token × Text) := throw ⟨r.complaints ++ [message], true, left, 0⟩
    match token left with
    | .error (.openText t) =>
      fail (ofLine (r.lineAt left) ("runaway string constant \"".toList ++ t.take 10 ++ " ...".toList))
    | .error (.unexpected c) =>
      fail (Text.decimal (r.lineAt left) ++ ": unexpected character '".toList ++ [c, '\''])
    | .ok (.operator s, rest) =>
      if (s = ")" ∧ r.parens = 0) ∨ (s = "\x7d" ∧ r.braces = 0) then
        note ("extra '".toList ++ s.toList ++ ['\''])
        modify fun r => { r with left := rest }
        peekFrom fuel
      else return (.operator s, rest)
    | .ok found => return found

/-- The next sign, and what follows it. -/
def peek : Reader (Token × Text) := do peekFrom ((← get).left.length + 1)

def overLines : Nat → Text → Text
  | 0, t => t
  | fuel + 1, t =>
    match overGaps (t.length + 1) t with
    | '\n' :: rest => overLines fuel rest
    | t => t

def dropLines : Reader Unit := modify fun r => { r with left := overLines (r.left.length + 1) r.left }

/-- The signs behind which a line may end. -/
def goesOn : Token → Bool
  | .newline => true
  | .operator s => ["\x7b", "\x7d", ";", ",", "&&", "||"].contains s
  | .word t => t = "do".toList || t = "else".toList
  | _ => false

/-- Takes a sign, and the ends of lines that mean nothing behind it. -/
def advance (t : Token) (rest : Text) : Reader Unit := do
  modify fun r =>
    let r := { r with left := rest }
    match t with
    | .operator "(" => { r with parens := r.parens + 1 }
    | .operator ")" => { r with parens := r.parens - 1 }
    | .operator "\x7b" => { r with braces := r.braces + 1 }
    | .operator "\x7d" => { r with braces := r.braces - 1 }
    | _ => r
  if goesOn t then dropLines

/-- A sign as it is named where it is wrong. -/
def shown (left rest : Text) : Token → Text
  | .newline => "end of line".toList
  | .finish => "end of file".toList
  | .text t => t
  | _ => left.take (left.length - rest.length)

def refuseNext {α : Type} : Reader α := do
  let (t, rest) ← peek
  let r ← get
  let name := shown r.left rest t
  let ends : Bool := match t with
    | .newline | .operator ";" | .operator "\x7d" => true
    | _ => false
  let isFinish : Bool := match t with
    | .finish => true
    | _ => false
  let lacksBracket : Bool := ends && r.parens != 0
  let message :=
    if lacksBracket then "missing ) near ".toList ++ name
    else if isFinish ∧ r.braces ≠ 0 then "missing \x7d near ".toList ++ name
    else "syntax error at or near ".toList ++ name
  throw ⟨r.complaints ++ [ofLine (r.lineAt r.left) message], isFinish, r.left, if lacksBracket then 0 else r.parens⟩

/-- Whether a sign is some operator. -/
def Token.isOperator (s : String) : Token → Bool
  | .operator o => o == s
  | _ => false

def Token.word? : Token → Option Text
  | .word t | .call t => some t
  | _ => none

/-- Takes an operator if it comes next. -/
def takes (s : String) : Reader Bool := do
  let (t, rest) ← peek
  if t.isOperator s then
    advance t rest
    return true
  else return false

/-- Takes an operator that has to come next. -/
def expect (s : String) : Reader Unit := do
  if !(← takes s) then refuseNext

/-- Takes a keyword if it comes next. -/
def takesWord (w : String) : Reader Bool := do
  let (t, rest) ← peek
  if t.word? = some w.toList then
    advance (.word w.toList) rest
    return true
  else return false

/-! ### Names -/

def isName (t : Text) : Bool :=
  !keywords.any (fun w => w.toList = t) && !builtins.any fun b => b.1.toList = t

/-- The names that the function that is being read has. -/
def Reading.own (r : Reading) : List Text :=
  ((r.scope.bind fun f => r.functions[f]?).map Draft.own).getD []

def nameOf (t : Text) : Reader Name := do
  let r ← get
  match r.own.idxOf? t with
  | some n => return .own n
  | none =>
    match r.names.findIdx? fun n => n.1 = t with
    | some n => return .shared n
    | none =>
      set { r with names := r.names.push (t, .unknown) }
      return .shared r.names.size

def Reading.useOf (r : Reading) (scope : Option Nat) : Name → Use
  | .shared n => ((r.names[n]?).map Prod.snd).getD .unknown
  | .own n => ((scope.bind fun f => r.functions[f]?).bind fun d => d.uses[n]?).getD .unknown

/-- Settles what a name stands for. -/
def Reading.setUse (r : Reading) (scope : Option Nat) (u : Use) : Name → Reading
  | .shared n => { r with names := r.names.modify n fun p => (p.1, u) }
  | .own n =>
    match scope with
    | some f => { r with functions := r.functions.modify f fun d => { d with uses := d.uses.setIfInBounds n u } }
    | none => r

def useName (t : Text) (u : Use) : Reader Name := do
  let n ← nameOf t
  let r ← get
  let known := r.useOf r.scope n
  if known = .unknown then set (r.setUse r.scope u n)
  else if known ≠ u then
    let kind := match n with
      | .own _ => "local "
      | .shared _ => ""
    note ("illegal reference to ".toList ++ kind.toList ++ (if known = .table then "array " else "variable ").toList ++ t)
  return n

def functionOf (t : Text) : Reader Nat := do
  let r ← get
  match r.functions.findIdx? fun d => d.name = t with
  | some n => return n
  | none =>
    set { r with functions := r.functions.push { name := t } }
    return r.functions.size

/-- Whether a word is the name of a function that has been mentioned. -/
def isFunction (t : Text) : Reader Bool := do
  let r ← get
  return !r.own.contains t && r.functions.any fun d => d.name = t

/-- Whether a word before a bracket is a name that stands for a value or a table. -/
def isSettled (t : Text) : Reader Bool := do
  let r ← get
  return r.own.contains t || r.names.any fun n => n.1 = t && n.2 ≠ .unknown

def Reading.complaintsOf (r : Reading) (c : FunctionCall) : List Text :=
  match r.functions[c.function]? with
  | none => []
  | some d =>
    if d.body.isNone then [ofLine (r.lineAt []) ("function ".toList ++ d.name ++ " never defined".toList)]
    else if d.own.length < c.arguments.length then
      [ofLine c.line ("too many arguments in call to ".toList ++ d.name)]
    else c.arguments.zipIdx.filterMap fun (handed, position) =>
      let theirs := r.useOf (some c.function) (.own position)
      let mine := match handed with
        | .name n => r.useOf c.scope n
        | .value => .value
      let told (a b : String) : Text := ofLine c.line ("type error in arg(".toList ++ Text.decimal (position + 1)
        ++ ") in call to ".toList ++ d.name ++ " (actual local ".toList ++ a.toList ++ " vs local ".toList ++ b.toList
        ++ [')'])
      match mine, theirs with
      | .value, .table => some (told "variable" "array")
      | .table, .value => some (told "array" "variable")
      | _, _ => none

/-- Notes a call. If the function is known, what names are handed to it stand for what its own do. -/
def Reading.settleCall (r : Reading) (c : FunctionCall) : Reading :=
  let isKnown : Bool := r.scope ≠ some c.function && (((r.functions[c.function]?).bind Draft.body).isSome)
  let r := { r with calls := r.calls ++ [c] }
  if isKnown then
    let r := c.arguments.zipIdx.foldl (fun r (handed, position) =>
      match handed with
      | .value => r
      | .name n =>
        let theirs := r.useOf (some c.function) (.own position)
        if r.useOf c.scope n = .unknown then r.setUse c.scope theirs n else r) r
    { r with complaints := r.complaints ++ r.complaintsOf c }
  else r

/-- What the names of a function stand for according to the calls before it. -/
def Reading.usesBefore (r : Reading) (function count : Nat) : Array Use :=
  r.calls.foldl (fun uses c =>
    if c.function = function then
      c.arguments.zipIdx.foldl (fun uses (handed, position) =>
        if handed = .value then uses.setIfInBounds position .value else uses) uses
    else uses) (Array.replicate count .unknown)

/-! ### Expressions -/

/-- Why an expression for texts cannot be read. -/
def regexReason : Regex.Fault → Text
  | .unmatchedBracket | .wrongClass | .wrongRange => "bad class -- [], [^] or [".toList
  | .unmatchedOpen => "missing ')'".toList
  | .nothingBefore => "missing operand".toList
  | fault => fault.message

/-- How expressions for texts are written. -/
def regexGrammar : Regex.Grammar :=
  { extended := true, strict := true, controls := true, inBrackets := true, wide := false, lenient := true }

def regexOf? (t : Text) : Except Text Regex :=
  match Regex.read regexGrammar t with
  | .ok (r, _) => .ok r
  | .error fault => .error ("regular expression compile failed (".toList ++ regexReason fault ++ ")\n".toList ++ t)

/-- The operators of a level between two expressions. -/
def operatorsOf (inPrint : Bool) : Nat → List (String × (Expr → Expr → Expr))
  | 0 => [("||", .either)]
  | 1 => [("&&", .both)]
  | 3 => [("~", .fits false), ("!~", .fits true)]
  | 4 =>
    [("==", .compare .equal), ("!=", .compare .different), ("<", .compare .less), ("<=", .compare .atMost),
     (">=", .compare .atLeast)] ++ if inPrint then [] else [(">", .compare .greater)]
  | 6 => [("+", .operate .add), ("-", .operate .subtract)]
  | 7 => [("*", .operate .multiply), ("/", .operate .divide), ("%", .operate .remainder)]
  | _ => []

def assignments : List (String × Option Operation) :=
  [("=", none), ("+=", some .add), ("-=", some .subtract), ("*=", some .multiply), ("/=", some .divide),
   ("%=", some .remainder), ("^=", some .power)]

/-- Whether an expression can start with a sign right behind another one. -/
def joins : Token → Bool
  | .number _ | .text _ => true
  | .word t | .call t => t = "getline".toList || !keywords.any fun w => w.toList = t
  | .operator s => ["$", "!", "(", "++", "--"].contains s
  | _ => false

/-- Whether a sign ends a statement. -/
def endsStatement : Token → Bool
  | .newline | .finish => true
  | .operator s => s == ";" || s == "\x7d"
  | _ => false

mutual

def expr (inPrint : Bool) : Nat → Reader Expr
  | 0 => refuseNext
  | fuel + 1 => do
    let condition ← level inPrint fuel 0
    if ← takes "?" then
      let a ← expr inPrint fuel
      expect ":"
      let b ← expr inPrint fuel
      return .choose condition a b
    else return condition
termination_by structural fuel => fuel

/-- Reads expressions of a level and the operators between them. -/
def level (inPrint : Bool) : Nat → Nat → Reader Expr
  | 0, _ => refuseNext
  | fuel + 1, 5 => joined inPrint fuel
  | fuel + 1, 8 => signed inPrint fuel
  | fuel + 1, n => do
    let first ← level inPrint fuel (n + 1)
    levelTail inPrint fuel n first
termination_by structural fuel _ => fuel

/-- Reads what follows an expression of a level. -/
def levelTail (inPrint : Bool) : Nat → Nat → Expr → Reader Expr
  | 0, _, _ => refuseNext
  | fuel + 1, n, first => do
    let (t, rest) ← peek
    if n = 2 then
      if ← takesWord "in" then
        let (t, rest) ← peek
        match t.word? with
        | some w =>
          if isName w then
            advance t rest
            let table ← useName w .table
            let keys := match first with
              | .row es => es
              | e => [e]
            levelTail inPrint fuel n (.within keys table)
          else refuseNext
        | none => refuseNext
      else return first
    else
      let found := match t with
        | .operator s => (operatorsOf inPrint n).lookup s
        | _ => none
      match found with
      | some make =>
        advance t rest
        let second ← level inPrint fuel (n + 1)
        levelTail inPrint fuel n (make first second)
      | none => return first
termination_by structural fuel _ _ => fuel

/-- Reads expressions that are joined, or an assignment. -/
def joined (inPrint : Bool) : Nat → Reader Expr
  | 0 => refuseNext
  | fuel + 1 => do
    let (start, _) ← peek
    let first ← level inPrint fuel 6
    let (t, rest) ← peek
    let operation := match t with
      | .operator s => assignments.lookup s
      | _ => none
    let assigns := match first with
      | .field _ => true
      | first => first.isTarget && !start.isOperator "("
    match operation with
    | some operation =>
      if assigns then
        advance t rest
        let value ← expr inPrint fuel
        return .assign operation first value
      else return first
    | none => joinedTail inPrint fuel first
termination_by structural fuel => fuel

/-- Reads what is joined to an expression. -/
def joinedTail (inPrint : Bool) : Nat → Expr → Reader Expr
  | 0, _ => refuseNext
  | fuel + 1, first => do
    let (t, _) ← peek
    if joins t then
      let second ← level inPrint fuel 6
      joinedTail inPrint fuel (.join first second)
    else return first
termination_by structural fuel _ => fuel

/-- Reads an expression with signs before it. -/
def signed (inPrint : Bool) : Nat → Reader Expr
  | 0 => refuseNext
  | fuel + 1 => do
    if ← takes "!" then return .not (← signed inPrint fuel)
    else if ← takes "-" then return .negative (← signed inPrint fuel)
    else if ← takes "+" then return .positive (← signed inPrint fuel)
    else pipedTail inPrint fuel (← power inPrint fuel)
termination_by structural fuel => fuel

/-- Reads what reads from a command. -/
def pipedTail (inPrint : Bool) : Nat → Expr → Reader Expr
  | 0, _ => refuseNext
  | fuel + 1, command => do
    let (t, rest) ← peek
    let r ← get
    if t.isOperator "|" then
      advance t rest
      if ← takesWord "getline" then
        let target ← maybeTarget fuel
        pipedTail inPrint fuel (.getFromCommand command target)
      else if inPrint then
        set r
        return command
      else refuseNext
    else return command
termination_by structural fuel _ => fuel

def power (inPrint : Bool) : Nat → Reader Expr
  | 0 => refuseNext
  | fuel + 1 => do
    let base ← stepped inPrint fuel
    if ← takes "^" then
      let (t, _) ← peek
      let exponent ← if t.isOperator "!" || t.isOperator "-" || t.isOperator "+" then signed inPrint fuel
        else power inPrint fuel
      return .operate .power base exponent
    else return base
termination_by structural fuel => fuel

/-- Reads an expression that may be stepped behind. -/
def stepped (inPrint : Bool) : Nat → Reader Expr
  | 0 => refuseNext
  | fuel + 1 => do
    let (start, _) ← peek
    let e ← primary inPrint fuel
    if e.isTarget && !start.isOperator "(" then
      if ← takes "++" then return .step true false e
      else if ← takes "--" then return .step false false e
      else return e
    else return e
termination_by structural fuel => fuel

/-- Reads something to assign to, if there is one. -/
def maybeTarget : Nat → Reader (Option Expr)
  | 0 => refuseNext
  | fuel + 1 => do
    let (t, _) ← peek
    match t.word? with
    | some w => if isName w then return some (← target fuel) else return none
    | none => if t.isOperator "$" then return some (← target fuel) else return none
termination_by structural fuel => fuel

def target : Nat → Reader Expr
  | 0 => refuseNext
  | fuel + 1 => do
    let (t, rest) ← peek
    if ← takes "$" then return .field (← fieldNumber fuel)
    else match t.word? with
      | some w =>
        if isName w ∧ !(← isFunction w) then
          advance t rest
          named w fuel
        else refuseNext
      | none => refuseNext
termination_by structural fuel => fuel

def fieldNumber : Nat → Reader Expr
  | 0 => refuseNext
  | fuel + 1 => do
    let (t, _) ← peek
    if t.isOperator "-" || t.isOperator "+" || t.isOperator "!" then signed false fuel else primary false fuel
termination_by structural fuel => fuel

/-- Reads what follows a name: the keys of a table, if there are any. -/
def named (w : Text) : Nat → Reader Expr
  | 0 => refuseNext
  | fuel + 1 => do
    let isCount : Bool := w = "NF".toList
    if !isCount && (← takes "[") then
      let table ← useName w .table
      let keys ← exprs fuel
      expect "]"
      return .element table keys
    else return .name (← useName w .value)
termination_by structural fuel => fuel

/-- Reads expressions with commas between them. -/
def exprs : Nat → Reader (List Expr)
  | 0 => refuseNext
  | fuel + 1 => do
    let e ← expr false fuel
    if ← takes "," then return e :: (← exprs fuel) else return [e]
termination_by structural fuel => fuel

/-- Reads what functions are handed. A name that stands alone may be a table. -/
def arguments : Nat → Reader (List (Expr × Handed))
  | 0 => refuseNext
  | fuel + 1 => do
    let (t, rest) ← peek
    let alone : Option Text := match t.word?, token (overGaps (rest.length + 1) rest) with
      | some w, .ok (next, _) => if isName w ∧ (next.isOperator "," || next.isOperator ")") then some w else none
      | _, _ => none
    let e : Expr × Handed ← match alone with
      | some w => do
        if ← isFunction w then
          advance t rest
          refuseNext
        advance t rest
        let n ← nameOf w
        pure (.name n, .name n)
      | none => do pure (← expr false fuel, .value)
    if ← takes "," then return e :: (← arguments fuel) else return [e]
termination_by structural fuel => fuel

/-- Reads the call of a function that every program knows. -/
def known (name : String) (b : Builtin) (least most : Nat) : Nat → Reader Expr
  | 0 => refuseNext
  | fuel + 1 => do
    let (t, _) ← peek
    if b = .length ∧ !t.isOperator "(" then return .builtin b []
    expect "("
    match b with
    | .split =>
      let e ← expr false fuel
      expect ","
      let (t, rest) ← peek
      match t.word? with
      | some w =>
        if !isName w then refuseNext
        advance t rest
        let table ← useName w .table
        let separator ← if ← takes "," then pure [← expr false fuel] else pure []
        expect ")"
        return .builtin b ([e, .name table] ++ separator)
      | none => refuseNext
    | .sub | .gsub =>
      let pattern ← expr false fuel
      expect ","
      let replacement ← expr false fuel
      let place ← if ← takes "," then pure [← target fuel] else pure []
      expect ")"
      return .builtin b ([pattern, replacement] ++ place)
    | .search =>
      let e ← expr false fuel
      expect ","
      let pattern ← expr false fuel
      expect ")"
      return .builtin b [e, pattern]
    | b =>
      let (t, rest) ← peek
      let alone : Option Text := match t.word?, token (overGaps (rest.length + 1) rest) with
        | some w, .ok (next, _) => if b = .length ∧ isName w ∧ next.isOperator ")" then some w else none
        | _, _ => none
      let es ← match alone with
        | some w => do
          advance t rest
          pure [Expr.name (← nameOf w)]
        | none => if t.isOperator ")" then pure [] else exprs fuel
      if es.length < least ∨ most < es.length then
        note ("wrong number of arguments in call to ".toList ++ name.toList)
      expect ")"
      return .builtin b es
termination_by structural fuel => fuel

/-- Reads an expression that has no operators outside brackets. -/
def primary (inPrint : Bool) : Nat → Reader Expr
  | 0 => refuseNext
  | fuel + 1 => do
    let (t, rest) ← peek
    match t with
    | .number x =>
      advance t rest
      return .number x
    | .text s =>
      advance t rest
      return .text s
    | .operator s =>
      if s = "/" ∨ s = "/=" then
        let r ← get
        let start := r.left.drop 1
        match expressionPart false (start.length + 1) start with
        | none =>
          let message := "runaway regular expression /".toList ++ (start.takeWhile (· ≠ '\n')).take 10 ++ " ...".toList
          throw ⟨r.complaints ++ [ofLine (r.lineAt r.left) message], true, r.left, 0⟩
        | some (t, rest) =>
          match regexOf? t with
          | .ok e =>
            advance (.text t) rest
            return .regex e
          | .error message =>
            note message
            advance (.text t) rest
            return .regex .empty
      else if s = "(" then
        advance t rest
        let es ← exprs fuel
        expect ")"
        match es with
        | [e] => return e
        | es =>
          let (t, _) ← peek
          if t.word? = some "in".toList then return .row es else refuseNext
      else if s = "$" then
        advance t rest
        return .field (← fieldNumber fuel)
      else if s = "++" ∨ s = "--" then
        advance t rest
        return .step (s = "++") true (← target fuel)
      else refuseNext
    | .word w | .call w =>
      if w = "getline".toList then
        advance t rest
        let place ← maybeTarget fuel
        if ← takes "<" then return .getFromFile (← power inPrint fuel) place
        else return .getRecord place
      else match builtins.find? fun b => b.1.toList = w with
        | some (name, b, least, most) =>
          advance t rest
          known name b least most fuel
        | none =>
          if !isName w then refuseNext
          let isCall : Bool := match t with
            | .call _ => true
            | _ => false
          let isNew : Bool := isCall && !(← isSettled w)
          if (← isFunction w) || isNew then
            advance t rest
            let f ← functionOf w
            expect "("
            let (t, _) ← peek
            let es ← if t.isOperator ")" then pure [] else arguments fuel
            let r ← get
            let c : FunctionCall := ⟨r.scope, f, es.map Prod.snd, r.lineAt r.left⟩
            set (r.settleCall c)
            expect ")"
            return .call f (es.map Prod.fst)
          else
            advance t rest
            named w fuel
    | _ => refuseNext
termination_by structural fuel => fuel

end

/-- How deep a program can be read. -/
def Reading.depth (r : Reading) : Nat := 40 * r.left.length + 200

def expression (inPrint : Bool) : Reader Expr := do expr inPrint (← get).depth

/-! ### Statements -/

def separator : Reader Unit := do
  let (t, rest) ← peek
  match t with
  | .newline | .operator ";" => advance t rest
  | .operator "\x7d" => return ()
  | _ => refuseNext

/-- Reads expressions up to the end of a list. -/
def printed : Nat → Reader (List Expr)
  | 0 => refuseNext
  | fuel + 1 => do
    let e ← expression true
    if ← takes "," then return e :: (← printed fuel) else return [e]

/-- Whether what is printed ends before a sign. -/
def endsPrint (t : Token) : Bool := endsStatement t || t.isOperator ">" || t.isOperator ">>" || t.isOperator "|"

/-- Reads values between brackets, if nothing else is printed. -/
def printedRow? : Reader (Option (List Expr)) := fun r =>
  let attempt : Reader (Option (List Expr)) := do
    expect "("
    let es ← exprs r.depth
    expect ")"
    let (t, _) ← peek
    return if 1 < es.length ∧ endsPrint t then some es else none
  match attempt r with
  | .ok (some es, after) => .ok (some es, after)
  | _ => .ok (none, r)

def outputTarget : Reader (Option (Direction × Expr)) := do
  if ← takes ">" then return some (.anew, ← expression false)
  else if ← takes ">>" then return some (.append, ← expression false)
  else if ← takes "|" then return some (.command, ← expression false)
  else return none

/-- Reads an expression between brackets, and drops the ends of lines behind it. -/
def condition : Reader Expr := do
  expect "("
  let e ← expression false
  expect ")"
  dropLines
  return e

/-- The names in the head of a loop over the keys of a table. -/
def keysLoop? : Reader (Option (Text × Text)) := fun r =>
  let attempt : Reader (Option (Text × Text)) := do
    expect "("
    let (t, rest) ← peek
    advance t rest
    let isLoop ← takesWord "in"
    let (u, rest) ← peek
    advance u rest
    expect ")"
    dropLines
    match t.word?, u.word? with
    | some a, some b => return if isLoop ∧ isName a ∧ isName b then some (a, b) else none
    | _, _ => return none
  match attempt r with
  | .ok (some found, after) => .ok (some found, after)
  | _ => .ok (none, r)

/-- Reads an expression, unless a sign comes first. -/
def orNone (s : String) : Reader (Option Expr) := do
  let (t, _) ← peek
  if t.isOperator s then return none else return some (← expression false)

/-- Drops signs up to one that ends a statement. -/
def dropStatement : Nat → Reader Unit
  | 0 => return ()
  | fuel + 1 => do
    let (t, rest) ← peek
    match t with
    | .newline | .operator ";" => advance t rest
    | .operator "\x7d" | .finish => return ()
    | t =>
      advance t rest
      dropStatement fuel

/-- Reads a statement, or notes what is wrong with it and passes over it. -/
def orPassOver (read : Reader Stmt) : Reader Stmt := fun r =>
  match read r with
  | .ok found => .ok found
  | .error fault =>
    if fault.isLast then .error fault
    else
      (do
        dropStatement (fault.left.length + 1)
        return Stmt.block [])
        { r with left := fault.left, parens := fault.parens, complaints := fault.messages }

/-- Notes what may not be said where a program is being read. -/
def noteIf (isWrong : Reading → Bool) (message : String) : Reader Unit := do
  if isWrong (← get) then note message.toList

def inLoop (read : Reader Stmt) : Reader Stmt := do
  modify fun r => { r with loops := r.loops + 1 }
  let body ← read
  modify fun r => { r with loops := r.loops - 1 }
  return body

mutual

def statement : Nat → Reader Stmt
  | 0 => refuseNext
  | fuel + 1 => do
    let (t, rest) ← peek
    match t with
    | .operator "\x7b" =>
      advance t rest
      block fuel
    | .operator ";" | .newline =>
      advance t rest
      return .block []
    | .operator "\x7d" => return .block []
    | t =>
      match t.word?.map String.ofList with
      | some "if" =>
        advance t rest
        let c ← condition
        let a ← statement fuel
        if ← takesWord "else" then return .when c a (some (← statement fuel)) else return .when c a none
      | some "while" =>
        advance t rest
        let c ← condition
        return .repeatWhile c (← inLoop (statement fuel))
      | some "do" =>
        advance (.word "do".toList) rest
        let body ← inLoop (statement fuel)
        if !(← takesWord "while") then refuseNext
        expect "("
        let c ← expression false
        expect ")"
        separator
        return .repeatUntil body c
      | some "for" =>
        advance t rest
        match ← keysLoop? with
        | some (a, b) =>
          let place ← useName a .value
          let table ← useName b .table
          return .forKeys place table (← inLoop (statement fuel))
        | none =>
          expect "("
          let start ← orNone ";"
          expect ";"
          let c ← orNone ";"
          expect ";"
          let step ← orNone ")"
          expect ")"
          dropLines
          return .loop (start.map .expr) c (step.map .expr) (← inLoop (statement fuel))
      | some "print" =>
        advance t rest
        let (t, _) ← peek
        let values ← if endsPrint t then pure [] else match ← printedRow? with
          | some es => pure es
          | none => printed fuel
        let place ← outputTarget
        separator
        return .print values place
      | some "printf" =>
        advance t rest
        let (t, _) ← peek
        let values ← if endsPrint t then pure [] else match ← printedRow? with
          | some es => pure es
          | none => do
            let (t, rest) ← peek
            let r ← get
            -- brackets may hold nothing at all
            if t.isOperator "(" then
              advance t rest
              if ← takes ")" then pure []
              else
                set r
                printed fuel
            else printed fuel
        if values.isEmpty then note "no arguments in call to printf".toList
        let place ← outputTarget
        separator
        return .format values place
      | some "next" =>
        noteIf (fun r => !r.hasRecord) "improper use of next"
        advance t rest
        separator
        return .next
      | some "nextfile" =>
        noteIf (fun r => !r.hasRecord) "improper use of nextfile"
        advance t rest
        separator
        return .nextFile
      | some "break" =>
        noteIf (fun r => r.loops = 0 && r.complaints.isEmpty) "break statement outside of loop"
        advance t rest
        separator
        return .leave
      | some "continue" =>
        noteIf (fun r => r.loops = 0 && r.complaints.isEmpty) "continue statement outside of loop"
        advance t rest
        separator
        return .continue
      | some "exit" =>
        advance t rest
        let (t, _) ← peek
        let e ← if endsStatement t then pure none else some <$> expression false
        separator
        return .exit e
      | some "return" =>
        noteIf (fun r => r.scope.isNone) "return outside function body"
        advance t rest
        let (t, _) ← peek
        let e ← if endsStatement t then pure none else some <$> expression false
        separator
        return .return e
      | some "delete" =>
        advance t rest
        let (t, rest) ← peek
        match t.word? with
        | some w =>
          if !isName w then refuseNext
          advance t rest
          let table ← useName w .table
          if ← takes "[" then
            let keys ← exprs (← get).depth
            expect "]"
            separator
            return .delete table keys
          else
            separator
            return .clear table
        | none => refuseNext
      | _ =>
        let e ← expression false
        separator
        return .expr e

/-- Reads statements up to the brace that closes them. -/
def block : Nat → Reader Stmt
  | 0 => refuseNext
  | fuel + 1 => do
    let body ← statements fuel
    return .block body

/-- Reads statements and the brace behind them. -/
def statements : Nat → Reader (List Stmt)
  | 0 => refuseNext
  | fuel + 1 => do
    let (t, rest) ← peek
    if t.isOperator "\x7d" then
      advance t rest
      -- one sign between rules means nothing
      if (← get).braces = 0 then
        if ← takes ";" then dropLines
      return []
    else
      let s ← orPassOver (statement fuel)
      return s :: (← statements fuel)

end

/-! ### Programs -/

/-- Reads statements between braces. -/
def action : Reader Stmt := do
  expect "\x7b"
  block (← get).depth

/-- Reads the names between the brackets of a function. -/
def ownNames (function : Text) : Nat → List Text → Reader (List Text)
  | 0, _ => refuseNext
  | fuel + 1, names => do
    let (t, rest) ← peek
    match t.word? with
    | some w =>
      if !isName w then refuseNext
      if w = function then
        note "function parameter cannot be the function".toList
        refuseNext
      if names.contains w then note (w ++ " is duplicated in argument list".toList)
      advance t rest
      if ← takes "," then ownNames function fuel (names ++ [w]) else return names ++ [w]
    | none => refuseNext

/-- Reads a function behind the word for it. -/
def function : Reader Unit := do
  let (t, rest) ← peek
  match t.word? with
  | none => refuseNext
  | some w =>
    if !isName w then refuseNext
    if ← isSettled w then note ("illegal reference to variable ".toList ++ w)
    let f ← functionOf w
    if (((← get).functions[f]?).bind Draft.body).isSome then note ("redefinition of ".toList ++ w)
    advance t rest
    expect "("
    let (t, _) ← peek
    let own ← if t.isOperator ")" then pure [] else ownNames w (← get).depth []
    expect ")"
    dropLines
    modify fun r =>
      { r with
        functions := r.functions.modify f fun d =>
          { d with own, uses := r.usesBefore f own.length, body := some (.block []) }
        scope := some f }
    let body ← action
    modify fun r =>
      { r with functions := r.functions.modify f fun d => { d with body := some body }, scope := none }

def programRules : Nat → Reader (List Rule)
  | 0 => refuseNext
  | fuel + 1 => do
    let (t, rest) ← peek
    let behind (pattern : Pattern) (hasRecord : Bool) : Reader (List Rule) := do
      modify fun r => { r with hasRecord }
      let body ← action
      modify fun r => { r with hasRecord := false }
      return ⟨pattern, some body⟩ :: (← programRules fuel)
    let orAlone (pattern : Pattern) : Reader (List Rule) := do
      let (t, rest) ← peek
      match t with
      | .newline | .operator ";" =>
        advance t rest
        return ⟨pattern, none⟩ :: (← programRules fuel)
      | _ => behind pattern true
    match t with
    | .finish => return []
    | .operator "\x7b" => behind .always true
    | t =>
      match t.word?.map String.ofList with
      | some "BEGIN" =>
        advance t rest
        behind .start false
      | some "END" =>
        advance t rest
        behind .finish false
      | some "function" =>
        advance t rest
        function
        programRules fuel
      | _ =>
        let e ← expression false
        if ← takes "," then orAlone (.range e (← expression false)) else orAlone (.when e)

/-- Settles which names stand for tables from what functions are called with. -/
def Reading.settle (r : Reading) : Nat → Reading
  | 0 => r
  | fuel + 1 =>
    let (r, changed) := r.calls.foldl (fun (r, changed) c =>
      c.arguments.zipIdx.foldl (fun (r, changed) (handed, position) =>
        match handed with
        | .value => (r, changed)
        | .name n =>
          let mine := r.useOf c.scope n
          let theirs := r.useOf (some c.function) (.own position)
          if theirs = .table ∧ mine = .unknown then (r.setUse c.scope .table n, true)
          else if mine = .table ∧ theirs = .unknown then (r.setUse (some c.function) .table (.own position), true)
          else (r, changed)) (r, changed)) (r, false)
    if changed then r.settle fuel else r

/-- The program that a text is, or what is wrong with it. -/
def Program.read (t : Text) : Except (List Text) Program :=
  let all := t ++ ['\n']
  let start : Reading :=
    { all, left := overLines (all.length + 1) all, names := (knownNames.map fun n => (n.toList, if ["ENVIRON", "ARGV"].contains n then Use.table else .value)).toArray }
  match programRules start.depth start with
  | .error fault =>
    .error (fault.messages.take 5)
  | .ok (found, r) =>
    let r := r.settle ((r.calls.map fun c => c.arguments.length).foldl (· + ·) 0 + 1)
    match if r.complaints.isEmpty then r.calls.reverse.flatMap r.complaintsOf else r.complaints with
    | [] =>
      .ok
        { rules := found
          functions := r.functions.map fun d =>
            { tables := d.uses.toList.map (· = .table), body := d.body.getD (.block []) }
          names := r.names.map Prod.fst }
    | complaints => .error (complaints.take 5)

end Flowchart.Rules
