import Flowchart.Dot.Token

/-!
Reading DOT documents: the statements that a document is made of, as far as this library writes them. Edges
have two ends, and what holds for all edges, ports and nested graphs are not known.
-/

namespace Flowchart.Dot

/-- The attributes up to the bracket that closes them, and the tokens behind it. -/
def attributes? : List Token → Option (List Attribute × List Token)
  | .closeBracket :: rest => some ([], rest)
  | .id name :: .equals :: .id value :: rest => (attributes? rest).map fun p => (⟨name, value⟩ :: p.1, p.2)
  | _ => none

/-- The attributes that may stand at the start of some tokens. -/
def optionalAttributes? : List Token → Option (List Attribute × List Token)
  | .openBracket :: rest => attributes? rest
  | rest => some ([], rest)

/-- The statement that some tokens start with, and the tokens behind it. -/
def statement? : List Token → Option (Statement × List Token)
  | .keyword word :: .openBracket :: rest =>
    (attributes? rest).bind fun p =>
      if word = "graph".toList then some (.graphDefaults p.1, p.2)
      else if word = "node".toList then some (.nodeDefaults p.1, p.2)
      else none
  | .id source :: .arrow :: .id target :: rest =>
    (optionalAttributes? rest).map fun p => (.edge source target p.1, p.2)
  | .id id :: rest => (optionalAttributes? rest).map fun p => (.node id p.1, p.2)
  | _ => none

theorem attributes?_length {ts rest : List Token} {as : List Attribute} (h : attributes? ts = some (as, rest)) :
    rest.length < ts.length := by
  fun_induction attributes? ts generalizing as with
  | case1 r =>
    cases h
    exact Nat.lt_succ_self _
  | case2 name value r ih =>
    obtain ⟨p, hp, hq⟩ := Option.map_eq_some_iff.1 h
    cases hq
    exact Nat.lt_trans (ih hp) (Nat.lt_add_of_pos_right (Nat.zero_lt_succ 2))
  | case3 => cases h

theorem optionalAttributes?_length {ts rest : List Token} {as : List Attribute}
    (h : optionalAttributes? ts = some (as, rest)) : rest.length ≤ ts.length := by
  unfold optionalAttributes? at h
  split at h
  · exact Nat.le_succ_of_le (Nat.le_of_lt (attributes?_length h))
  · cases h
    exact Nat.le_refl _

/-- A statement takes at least one token. -/
theorem statement?_length {ts rest : List Token} {s : Statement} (h : statement? ts = some (s, rest)) :
    rest.length < ts.length := by
  unfold statement? at h
  split at h
  · obtain ⟨p, hp, hq⟩ := Option.bind_eq_some_iff.1 h
    have shorter := attributes?_length hp
    simp only [List.length_cons]
    split at hq
    · cases hq
      omega
    · split at hq
      · cases hq
        omega
      · cases hq
  · obtain ⟨p, hp, hq⟩ := Option.map_eq_some_iff.1 h
    cases hq
    have shorter := optionalAttributes?_length hp
    simp only [List.length_cons]
    omega
  · obtain ⟨p, hp, hq⟩ := Option.map_eq_some_iff.1 h
    cases hq
    exact Nat.lt_succ_of_le (optionalAttributes?_length hp)
  · cases h

/-- The statements up to the brace that closes the document, which has to be the last token. -/
def statements? (ts : List Token) : Option (List Statement) :=
  if ts = [.closeBrace] then some []
  else match _read : statement? ts with
    | none => none
    | some (s, rest) => (statements? rest).map (s :: ·)
termination_by ts.length
decreasing_by exact statement?_length _read

theorem statements?_closeBrace : statements? [.closeBrace] = some [] := by
  rw [statements?, if_pos rfl]

theorem statements?_of_statement {ts rest : List Token} {s : Statement} (h : statement? ts = some (s, rest)) :
    statements? ts = (statements? rest).map (s :: ·) := by
  rw [statements?, if_neg fun last => by rw [last] at h; cases h]
  split <;> rename_i read <;> rw [h] at read <;> cases read
  rfl

def read? (document : Text) : Option (List Statement) :=
  (tokens? document).bind fun
    | .keyword word :: .id _ :: .openBrace :: rest => if word = "digraph".toList then statements? rest else none
    | _ => none

/-- An attribute as it is read once it is written. -/
def Attribute.settled (a : Attribute) : Attribute := ⟨Dot.settled a.name, Dot.settled a.value⟩

/-- A statement as it is read once it is written. -/
def Statement.settled : Statement → Statement
  | graphDefaults attributes => graphDefaults (attributes.map Attribute.settled)
  | nodeDefaults attributes => nodeDefaults (attributes.map Attribute.settled)
  | node id attributes => node (Dot.settled id) (attributes.map Attribute.settled)
  | edge source target attributes =>
    edge (Dot.settled source) (Dot.settled target) (attributes.map Attribute.settled)

end Flowchart.Dot
