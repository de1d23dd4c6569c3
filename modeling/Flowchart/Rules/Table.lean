import Flowchart.Rules.Value

/-!
Tables of values by key. Keys are gone through in the order of slots that their texts are put into; in a slot
the key that was used last comes first. Keys that are numbers wait in slots of their own until a text is looked
up, or the keys are gone through.
-/

namespace Flowchart.Rules

inductive Key where
  | number (n : Int)
  | text (t : Text)

def Key.toText : Key → Text
  | number n => (if n < 0 then ['-'] else []) ++ Text.decimal n.natAbs
  | text t => t

/-- The key that a value is. A whole number of 32 bits is a number. -/
def Key.ofValue (format : Float → Text) : Value → Key
  | .number x =>
    match (Binary64.ofFloat x).toInt? with
    | some n => if -Int.pow 2 31 ≤ n ∧ n < Int.pow 2 31 then .number n else .text (numberText format x)
    | none => .text (numberText format x)
  | v => .text (v.toText format)

/-- A value by the text of its key, and whether it is known by its number too. -/
structure Entry where
  key : Text
  value : Value
  isNumbered : Bool

structure Table where
  slots : Array (List Entry)
  /-- The numbers that wait. -/
  waiting : Array (List (Int × Value))
  hasTexts : Bool
  size : Nat

namespace Table

/-- How many slots there are at first. -/
def firstSlots : Nat := 64

/-- How many keys there are for each slot at most. -/
def slotLoad : Nat := 12

def empty : Table := ⟨Array.replicate firstSlots [], Array.replicate firstSlots [], false, 0⟩

/-- A number that a text is scattered by. -/
def scatter (t : Text) : UInt32 :=
  t.foldl (fun h c => (h ^^^ UInt32.ofNat c.toNat) * 0x01000193) 0x811c9dc5

def slotOf (t : Table) (key : Text) : Nat := (scatter key).toNat % t.slots.size

def waitingSlotOf (t : Table) (n : Int) : Nat := (n % t.waiting.size).toNat

/-- Puts an entry first in its slot. -/
def putFirst (t : Table) (e : Entry) : Table :=
  { t with slots := t.slots.modify (t.slotOf e.key) fun entries => e :: entries.filter fun f => f.key ≠ e.key }

/-- Doubles the slots if there are too many keys for them. -/
def widen (t : Table) : Table :=
  if t.size ≤ t.slots.size * slotLoad then t
  else
    let n := 2 * t.slots.size
    let slots := t.slots.foldl (fun slots entries => entries.foldl (fun slots e =>
      slots.modify ((scatter e.key).toNat % n) (· ++ [e])) slots) (Array.replicate n [])
    let waiting := t.waiting.foldl (fun slots entries => entries.foldl (fun slots e =>
      slots.modify (e.1 % (n : Int)).toNat (· ++ [e])) slots) (Array.replicate n [])
    { t with slots, waiting }

def settle (t : Table) : Table :=
  if t.hasTexts then t
  else
    let t' := t.waiting.foldl (fun t entries => entries.foldl (fun (t : Table) (n, value) =>
      t.putFirst ⟨(Key.number n).toText, value, true⟩) t) t
    { t' with hasTexts := true, waiting := Array.replicate t.waiting.size [] }

def entry? (t : Table) (key : Text) : Option Entry := (t.slots.getD (t.slotOf key) []).find? fun e => e.key = key

/-- The value of a text, which is used; it is made if there is none. -/
def getText (t : Table) (key : Text) (isNumbered : Bool) : Table × Value :=
  match t.entry? key with
  | some e => (t.putFirst { e with isNumbered := e.isNumbered || isNumbered }, e.value)
  | none => (({ t with size := t.size + 1 } : Table).widen.putFirst ⟨key, .unset, isNumbered⟩, .unset)

/-- The value of a key, which is used; it is made if there is none. -/
def get (t : Table) : Key → Table × Value
  | .text key => t.settle.getText key false
  | .number n =>
    if t.hasTexts then
      let key := (Key.number n).toText
      match t.entry? key with
      | some e => if e.isNumbered then (t, e.value) else t.getText key true
      | none => t.getText key true
    else
      let slot := t.waitingSlotOf n
      match (t.waiting.getD slot []).find? fun e => e.1 = n with
      | some e => ({ t with waiting := t.waiting.modify slot fun es => e :: es.filter fun f => f.1 ≠ n }, e.2)
      | none =>
        ({ t with waiting := t.waiting.modify slot fun es => (n, .unset) :: es, size := t.size + 1 }.widen, .unset)

/-- Sets the value of a key, which is used. -/
def set (t : Table) (key : Key) (value : Value) : Table :=
  let t := (t.get key).1
  match t.hasTexts, key with
  | false, .number n =>
    { t with waiting := t.waiting.modify (t.waitingSlotOf n) fun es => es.map fun e => if e.1 = n then (n, value) else e }
  | _, key =>
    let name := key.toText
    { t with slots := t.slots.modify (t.slotOf name) fun es =>
        es.map fun e => if e.key = name then { e with value } else e }

def contains (t : Table) : Key → Table × Bool
  | .text key =>
    let t := t.settle
    match t.entry? key with
    | some e => (t.putFirst e, true)
    | none => (t, false)
  | .number n =>
    if t.hasTexts then
      let key := (Key.number n).toText
      match t.entry? key with
      | some e => (if e.isNumbered then t else t.putFirst { e with isNumbered := true }, true)
      | none => (t, false)
    else
      let slot := t.waitingSlotOf n
      match (t.waiting.getD slot []).find? fun e => e.1 = n with
      | some e => ({ t with waiting := t.waiting.modify slot fun es => e :: es.filter fun f => f.1 ≠ n }, true)
      | none => (t, false)

def erase (t : Table) (key : Key) : Table :=
  let (t, found) := t.contains key
  if !found then t
  else if t.size ≤ 1 then empty
  else
    let t := { t with size := t.size - 1 }
    match t.hasTexts, key with
    | false, .number n => { t with waiting := t.waiting.modify (t.waitingSlotOf n) fun es => es.filter fun e => e.1 ≠ n }
    | _, key =>
      let name := key.toText
      { t with slots := t.slots.modify (t.slotOf name) fun es => es.filter fun e => e.key ≠ name }

/-- The keys in the order of slots. -/
def keys (t : Table) : Table × List Text :=
  let t := t.settle
  (t, t.slots.toList.flatMap fun entries => entries.map Entry.key)

/-- The table of the parts of a text by number. -/
def ofParts (parts : List Value) : Table :=
  (parts.zipIdx 1).foldl (fun t (value, n) => t.set (.number n) value) empty

end Table

end Flowchart.Rules
