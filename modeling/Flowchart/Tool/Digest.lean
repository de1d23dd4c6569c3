import Flowchart.Digest.Md5
import Flowchart.Digest.Sha
import Flowchart.Digest.Sum
import Flowchart.Tool.Lines

/-!
Tools that write the digests or the sums of files.
-/

namespace Flowchart.Tool

open Files

/-! ### Digests -/

/-- A kind of digest: the name it is shown with, and the digest itself. -/
structure Digester where
  name : String
  digest : Bytes → Bytes

namespace Digester

open Digest

def md5 : Digester := ⟨"MD5", Md5.digest⟩
def sha1 : Digester := ⟨"SHA1", Sha.sha1⟩
def sha224 : Digester := ⟨"SHA224", Sha.sha224⟩
def sha256 : Digester := ⟨"SHA256", Sha.sha256⟩
def sha384 : Digester := ⟨"SHA384", Sha.sha384⟩
def sha512 : Digester := ⟨"SHA512", Sha.sha512⟩

/-- The digits of the digest of a content. -/
def digits (d : Digester) (t : Text) : Text := hexDigits (d.digest (Text.octets t))

end Digester

/-- A name in which line feeds and backslashes are escaped, and whether there are any. -/
def escapedName (name : Text) : Text × Bool :=
  (name.flatMap fun c => if c = '\\' then "\\\\".toList else if c = '\n' then "\\n".toList
    else if c = '\r' then "\\r".toList else [c],
   name.any fun c => c = '\\' || c = '\n' || c = '\r')

/-- The row that shows the digest of an input. -/
def digestRow (o : Options) (tagged : Bool) (d : Digester) (name digits : Text) : Text :=
  let (shown, escaped) := if o.has 'z' then (name, false) else escapedName name
  (if escaped then ['\\'] else [])
    ++ (if tagged then d.name.toList ++ " (".toList ++ shown ++ ") = ".toList ++ digits
      else digits ++ ' ' :: (if o.has 'b' ∧ o.last? "bt" = some 'b' then '*' else ' ') :: shown)
    ++ [if o.has 'z' then '\x00' else '\n']

def digests (d : Digester) : Service :=
  withOptions
    { letters := "btzτ"
      long := [("binary", 'b'), ("text", 't'), ("zero", 'z'), ("tag", 'τ')] } 1 fun o c p =>
    let step (state : Process × Bool) (operand : Text) : Process × Bool :=
      let (p, fine) := state
      match take p operand with
      | .ok (p, t) => (p.write 1 (digestRow o (o.has 'τ') d operand (d.digits t)), fine)
      | .error fault => (c.complain (unreadable operand fault) p, false)
    let (p, fine) := (inputs o.operands).foldl step (p, true)
    ends (statusOf fine) p

/-! ### Sums -/

/-- Writes a row for each input that can be read. -/
def writeSums (o : Options) (row : Text → Text) : Service := fun c p =>
  let step (state : Process × Bool) (operand : Text) : Process × Bool :=
    let (p, fine) := state
    match take p operand with
    | .ok (p, t) => (p.write 1 (row t ++ (if o.operands = [] then [] else ' ' :: operand) ++ ['\n']), fine)
    | .error fault => (c.complain (unreadable operand fault) p, false)
  let (p, fine) := (inputs o.operands).foldl step (p, true)
  ends (statusOf fine) p

/-- The cyclic sum and the size of a content. -/
def cyclicRow (t : Text) : Text := Text.decimal (Digest.Sum.cyclic (Text.octets t)) ++ ' ' :: Text.decimal t.length

/-- The turned sum and the size of a content. -/
def turnedRow (t : Text) : Text :=
  let sum := Text.decimal (Digest.Sum.turned (Text.octets t))
  List.replicate (5 - sum.length) '0' ++ sum ++ ' ' :: right 5 (Text.decimal ((t.length + 1023) / 1024))

/-- The folded sum and the size of a content. -/
def foldedRow (t : Text) : Text :=
  Text.decimal (Digest.Sum.folded (Text.octets t)) ++ ' ' :: Text.decimal ((t.length + 511) / 512)

def sums : Service :=
  withOptions { letters := "rs", long := [("sysv", 's')] } 1 fun o =>
    writeSums o (if o.last? "rs" = some 's' then foldedRow else turnedRow)

def cyclicSums : Service := withOptions { letters := "" } 1 fun o => writeSums o cyclicRow

end Flowchart.Tool
