import Flowchart.Text.Basic

/-!
Kinds of nodes. A kind is written as a word; six words are known and every other word is a kind of its
own. `ofToken` reads a word and `token` writes it, so `token_ofToken` holds for every word.
-/

namespace Flowchart.Source

/-- What a node of a flowchart stands for. -/
inductive Kind where
  | start
  | stop
  | operation
  | condition
  | inputOutput
  | subroutine
  | other (token : Text)
deriving DecidableEq, Repr

namespace Kind

def token : Kind → Text
  | start => "start".toList
  | stop => "end".toList
  | operation => "operation".toList
  | condition => "condition".toList
  | inputOutput => "inputoutput".toList
  | subroutine => "subroutine".toList
  | other t => t

/-- The kinds that have a word of their own. -/
def known : List Kind := [start, stop, operation, condition, inputOutput, subroutine]

def isKnown : Kind → Bool
  | other _ => false
  | _ => true

/-- The kind that a word stands for; upper and lower case differ. -/
def ofToken (t : Text) : Kind := (known.find? fun k => k.token = t).getD (other t)

@[simp] theorem token_ofToken (t : Text) : (ofToken t).token = t := by
  unfold ofToken
  cases h : known.find? fun k => k.token = t with
  | none => rfl
  | some k => simpa using List.find?_some h

theorem ofToken_token {k : Kind} (h : k.isKnown = true) : ofToken k.token = k := by
  cases k <;> first | rfl | simp [isKnown] at h

theorem ofToken_eq_other_iff {t u : Text} :
    ofToken t = other u ↔ t = u ∧ ∀ k ∈ known, k.token ≠ t := by
  unfold ofToken
  cases h : known.find? fun k => k.token = t with
  | none =>
    have hk := List.find?_eq_none.1 h
    simp only [Option.getD_none, other.injEq, iff_self_and]
    rintro - k hkm rfl
    exact hk k hkm (by simp)
  | some k =>
    have hm := List.mem_of_find?_eq_some h
    have ht : k.token = t := by simpa using List.find?_some h
    constructor
    · rintro hk
      simp only [Option.getD_some] at hk
      subst hk
      simp [known] at hm
    · rintro ⟨-, hne⟩
      exact absurd ht (hne k hm)

end Kind

end Flowchart.Source
