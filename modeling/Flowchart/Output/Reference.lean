import Flowchart.Text.Basic

/-!
References to resources. Any text is a reference, and its five components are told by the characters that
divide them: a scheme ends in a colon, an authority stands behind two slashes, a query starts with a question
mark and a fragment with a number sign. A reference that has a path and nothing else is resolved next to
the page it stands on.
-/

namespace Flowchart

/-- The components of a reference. -/
structure Reference where
  scheme? : Option Text
  authority? : Option Text
  path : Text
  query? : Option Text
  fragment? : Option Text
deriving DecidableEq, Repr

namespace Reference

/-- The scheme of a reference, and what follows its colon. -/
def cutScheme (t : Text) : Option Text × Text :=
  let stops := fun c : Char => c == ':' || c == '/' || c == '?' || c == '#'
  match t.takeWhile (!stops ·), t.dropWhile (!stops ·) with
  | c :: name, ':' :: rest => (some (c :: name), rest)
  | _, _ => (none, t)

/-- The authority of a reference without a scheme, and what follows it. -/
def cutAuthority : Text → Option Text × Text
  | '/' :: '/' :: rest =>
    let stops := fun c : Char => c == '/' || c == '?' || c == '#'
    (some (rest.takeWhile (!stops ·)), rest.dropWhile (!stops ·))
  | t => (none, t)

/-- The query that starts a text, and what follows it. -/
def cutQuery : Text → Option Text × Text
  | '?' :: rest => (some (rest.takeWhile (· ≠ '#')), rest.dropWhile (· ≠ '#'))
  | t => (none, t)

/-- The fragment that a text is, if it starts as one. -/
def asFragment? : Text → Option Text
  | '#' :: rest => some rest
  | _ => none

/-- The components of a text. -/
def ofText (t : Text) : Reference :=
  let (scheme?, t) := cutScheme t
  let (authority?, t) := cutAuthority t
  let stops := fun c : Char => c == '?' || c == '#'
  let path := t.takeWhile (!stops ·)
  let (query?, t) := cutQuery (t.dropWhile (!stops ·))
  { scheme?, authority?, path, query?, fragment? := asFragment? t }

end Reference

end Flowchart
