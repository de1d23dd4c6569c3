import Flowchart.Tool.Lines

/-!
The tool that compares two inputs octet by octet.
-/

namespace Flowchart.Tool

open Files

/-- Says what is wrong with a call, with a hint that names the tool on its own line, and ends. -/
def Call.refuseNamed (c : Call) (message : Text) (status : Nat) (p : Process) : Exit × Process :=
  c.fail ("Try '".toList ++ c.name ++ " --help' for more information.".toList) status (c.complain message p)

/-- Runs a tool with its options; what is wrong with them is told on lines of their own. -/
def withNamedOptions (k : Known) (status : Nat) (run : Options → Service) : Service := fun c p =>
  match readOptions k false {} (c.arguments.length + 1) c.arguments with
  | .ok o => run o c p
  | .error message => c.refuseNamed message status p

inductive Difference where
  /-- They are the same. -/
  | none
  /-- The first or the second one ends, before the other does. -/
  | ends (first : Bool) (shared : Text)
  /-- The octets behind what they share differ. -/
  | at (shared : Text) (a b : Char)

/-- The first difference of two texts that share a part before. -/
def firstDifference (shared : Text) : Text → Text → Difference
  | [], [] => .none
  | [], _ :: _ => .ends true shared.reverse
  | _ :: _, [] => .ends false shared.reverse
  | a :: s, b :: t => if a = b then firstDifference (a :: shared) s t else .at shared.reverse a b

/-- An octet with marks in place of what is not printable. -/
def octetMarks (c : Char) : Text := shownOctet true c

/-- The digits of an octet, to the right. -/
def octalDigits (c : Char) : Text := right 3 (Nat.toDigits 8 c.toNat)

def compareFiles : Service :=
  withNamedOptions
    { letters := "bls", valued := "in"
      long := [("print-bytes", 'b'), ("ignore-initial", 'i'), ("verbose", 'l'), ("bytes", 'n'), ("quiet", 's'),
        ("silent", 's')] } 2 fun o c p =>
    let skips : Option Text := o.value? 'i'
    let (skipA, skipB) := match skips.map (Text.splitAt ':') with
      | some [a, b] => (some a, some b)
      | some (a :: _) => (some a, some a)
      | _ => (o.operands[2]?, o.operands[3]?)
    let wrong := [skipA, skipB].findSome? fun s => s.filter fun t => (amount? t).isNone
    match o.operands, wrong, (o.value? 'n').filter fun t => (amount? t).isNone with
    | [], _, _ => c.refuseNamed ("missing operand after ".toList ++ quoted c.name) 2 p
    | _, some t, _ => c.refuseNamed ("invalid --ignore-initial value ".toList ++ quoted t) 2 p
    | _, none, some t => c.refuseNamed ("invalid --bytes value ".toList ++ quoted t) 2 p
    | first :: more, none, none =>
      let second := more.head?.getD ['-']
      match more[3]? with
      | some extra => c.refuseNamed ("extra operand ".toList ++ quoted extra) 2 p
      | none =>
        let place (path : Text) : Option Place := (p.look path).toOption.map Prod.fst
        let number (t : Option Text) : Nat := (t.bind amount?).getD 0
        if (first = second ∨ (first ≠ ['-'] ∧ second ≠ ['-'] ∧ place first = place second))
            ∧ number skipA = number skipB ∧ (first = ['-'] ∨ (place first).isSome) then ends 0 p
        else
          let refuse (operand : Text) (fault : Fault) (p : Process) : Exit × Process :=
            if o.has 's' ∧ fault = .notFound then ends 2 p else c.fail (operand ++ told fault) 2 p
          -- both are opened before one of them is read
          let missing := [first, second].findSome? fun operand =>
            if operand = ['-'] then none
            else match p.openToRead operand with
              | .ok _ => none
              | .error fault => some (operand, fault)
          match missing with
          | some (operand, fault) => refuse operand fault p
          | none =>
            match take p first with
            | .error fault => refuse first fault p
            | .ok (p, s) =>
              match take p second with
              | .error fault => refuse second fault p
              | .ok (p, t) =>
                let most := (o.value? 'n').bind amount?
                let cut (skip : Option Text) (t : Text) : Text :=
                  let t := t.drop (number skip)
                  (most.map fun n => t.take n).getD t
                let (s, t) := (cut skipA s, cut skipB t)
                let shorter (isFirst : Bool) : Text := if isFirst then first else second
                let early (isFirst : Bool) (shared : Text) (p : Process) : Exit × Process :=
                  if o.has 's' then ends 1 p
                  else
                    let about := "EOF on ".toList ++ shorter isFirst
                    let lines := shared.count '\n'
                    let place := if shared.getLast? = some '\n' then ", line ".toList ++ Text.decimal lines
                      else ", in line ".toList ++ Text.decimal (lines + 1)
                    if shared = [] then c.fail (about ++ " which is empty".toList) 1 p
                    else c.fail (about ++ " after byte ".toList ++ Text.decimal shared.length
                      ++ if o.has 'l' then [] else place) 1 p
                if o.has 'l' ∧ !o.has 's' then
                  let width := (Text.decimal (min s.length t.length)).length
                  let rows := ((s.zip t).zipIdx 1).flatMap fun ((a, b), n) =>
                    if a = b then []
                    else if o.has 'b' then
                      right width (Text.decimal n) ++ ' ' :: octalDigits a ++ ' ' :: left 4 (octetMarks a)
                        ++ ' ' :: octalDigits b ++ ' ' :: octetMarks b ++ ['\n']
                    else right width (Text.decimal n) ++ ' ' :: octalDigits a ++ ' ' :: octalDigits b ++ ['\n']
                  let p := p.write 1 rows
                  if s.length = t.length then ends (statusOf (s = t)) p
                  else early (s.length < t.length) (if s.length < t.length then s else t) p
                else match firstDifference [] s t with
                  | .none => ends 0 p
                  | .ends isFirst shared => early isFirst shared p
                  | .at shared a b =>
                    if o.has 's' then ends 1 p
                    else
                      let unit := if o.has 'b' then ": byte ".toList else ": char ".toList
                      let values := if o.has 'b' then
                          " is ".toList ++ octalDigits a ++ ' ' :: octetMarks a ++ ' ' :: octalDigits b ++ ' ' :: octetMarks b
                        else []
                      ends 1 (p.write 1 (first ++ ' ' :: second ++ " differ".toList ++ unit
                        ++ Text.decimal (shared.length + 1) ++ ", line ".toList ++ Text.decimal (shared.count '\n' + 1)
                        ++ values ++ ['\n']))

end Flowchart.Tool
