import Flowchart.Tool.Blocks
import Flowchart.Tool.Characters
import Flowchart.Tool.Comparing
import Flowchart.Tool.Copying
import Flowchart.Tool.Digest
import Flowchart.Tool.Dump
import Flowchart.Tool.Edit
import Flowchart.Tool.Encoding
import Flowchart.Tool.Expression
import Flowchart.Tool.Layout
import Flowchart.Tool.Matching
import Flowchart.Tool.Rules
import Flowchart.Tool.Search

/-!
The tools by name, and the files that hold them. A program file holds a mark and the name of the tool that
it is; a copy of the file is the same tool.

These are the tools by which a script reads, changes and places files. There is none whose answer depends on
the machine, on the person or on the hour, and none tells when a file was written.
-/

namespace Flowchart.Tool

open Files

def tools : List (String × Service) :=
  [("[", condition), ("awk", runRules), ("base32", inDigits .base32), ("base64", inDigits .base64),
   ("basename", baseName), ("cat", concatenate), ("chmod", changeMode), ("cksum", cyclicSums), ("cmp", compareFiles),
   ("comm", common), ("cp", copy), ("cut", fields), ("dd", copyBlocks), ("dirname", directoryName), ("echo", echo),
   ("egrep", pick 'E'), ("env", withEnvironment), ("expand", expand), ("expr", evaluate), ("false", constant 1),
   ("fgrep", pick 'F'), ("find", search), ("fold", foldLines), ("grep", pick 'G'), ("head", firstLines),
   ("install", install), ("join", joins), ("kill", kill), ("link", linkPlainly), ("ln", link), ("ls", list),
   ("mawk", runRules), ("md5sum", digests .md5), ("mkdir", makeDirectories), ("mktemp", makeTemporary), ("mv", move),
   ("nl", numberLines), ("od", dump), ("paste", paste), ("printenv", environment), ("printf", format),
   ("pwd", currentDirectory), ("readlink", readLink), ("realpath", realPath), ("rev", turnedAround), ("rm", remove),
   ("rmdir", removeDirectories), ("sed", edit), ("seq", numbers), ("sha1sum", digests .sha1),
   ("sha224sum", digests .sha224), ("sha256sum", digests .sha256), ("sha384sum", digests .sha384),
   ("sha512sum", digests .sha512), ("sleep", sleep), ("sort", sorted), ("split", splitUp), ("stat", status),
   ("sum", sums), ("tac", reversed), ("tail", lastLines), ("tee", copies), ("test", condition),
   ("timeout", withinTime), ("touch", touch), ("tr", translate), ("true", constant 0), ("truncate", truncate),
   ("tsort", relationOrder), ("unexpand", unexpand), ("uniq", uniqueLines), ("unlink", removePlainly), ("wc", counts),
   ("which", which), ("xargs", withArguments), ("yes", repeats)]

/-- The names of the programs that run scripts. -/
def shells : List String := ["dash", "sh"]

/-- The mark that a program file starts with. -/
def mark : Bytes := [0x7f, 0x45, 0x4c, 0x46]

/-- The name of the tool that a program file holds. -/
def ofContent? (content : Bytes) : Option Text :=
  if mark.isPrefixOf content then some (Text.ofOctets (content.drop mark.length)) else none

/-- The files that every process finds: the tools, and the usual directories. -/
def system : Tree :=
  let down (names : List String) : Place := ⟨.root, names.map String.toList⟩
  let programs := (tools.map Prod.fst ++ shells).zipIdx 1
  let directories := [["dev"], ["etc"], ["home"], ["root"], ["tmp"], ["usr"], ["usr", "bin"], ["var"], ["var", "tmp"]]
  { Tree.empty with
    entries := programs.map (fun (name, n) => (down ["usr", "bin", name], Entry.file n))
      ++ [(down ["bin"], .link "usr/bin".toList), (down ["dev", "null"], .device .null),
          (down ["dev", "zero"], .device .zeros)]
      ++ directories.map fun names => (down names, .directory Tree.directoryMode)
    files := programs.map fun (name, n) => (n, ⟨mark ++ Text.encode name.toList, File.programMode, Tree.startTime⟩) }

end Flowchart.Tool
