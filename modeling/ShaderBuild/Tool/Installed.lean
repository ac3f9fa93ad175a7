import ShaderBuild.Tool.Arguments
import ShaderBuild.Tool.Checksum
import ShaderBuild.Tool.Columns
import ShaderBuild.Tool.Compare
import ShaderBuild.Tool.Compute
import ShaderBuild.Tool.Dump
import ShaderBuild.Tool.Edit.Run
import ShaderBuild.Tool.Find.Run
import ShaderBuild.Tool.Joining
import ShaderBuild.Tool.Listing
import ShaderBuild.Tool.Names
import ShaderBuild.Tool.Paragraph
import ShaderBuild.Tool.Precedence
import ShaderBuild.Tool.Quantity
import ShaderBuild.Tool.Record.Run
import ShaderBuild.Tool.Search
import ShaderBuild.Tool.Sequence
import ShaderBuild.Tool.Sorting
import ShaderBuild.Tool.Splitting

/-! # The installed tools

The tools by their names, and how they are kept in a file tree: as files whose content is a program
image, which says what tool it is.  `ofImage?_image` says that an image is known again. -/

namespace ShaderBuild.Tool

/-- The tools by name. -/
def tools : List (String × Routine) :=
  [("[", testTool), ("arch", statingTool "x86_64"), ("awk", Record.recordTool),
    ("b2sum", digestTool "blake2b"), ("base32", alphabetTool alphabet32),
    ("base64", alphabetTool alphabet64), ("basename", baseNameTool), ("cat", concatenateTool),
    ("chgrp", ownerTool true), ("chmod", modeTool), ("chown", ownerTool false),
    ("cksum", checksumTool), ("cmp", compareTool), ("comm", commonTool), ("cp", copyTool),
    ("csplit", contextSplitTool), ("cut", cutTool), ("date", dateTool), ("dd", blockTool),
    ("diff", diffTool), ("dir", listTool ['C', 'b']), ("dirname", dirNameTool),
    ("echo", echoTool), ("egrep", grepTool (some 'E')), ("expand", expandTool),
    ("expr", exprTool), ("factor", factorTool), ("false", endingTool 1),
    ("fgrep", grepTool (some 'F')), ("find", Find.findTool), ("fmt", Paragraph.paragraphTool),
    ("fold", foldTool), ("grep", grepTool none), ("groups", groupsTool), ("head", headTool),
    ("id", identityTool), ("install", installTool), ("join", joinTool), ("link", plainLinkTool),
    ("ln", linkTool), ("ls", listTool []), ("mawk", Record.recordTool),
    ("md5sum", digestTool "md5"), ("mkdir", makeDirTool), ("mktemp", makeTemporaryTool),
    ("mv", moveTool), ("nawk", Record.recordTool), ("nl", numberTool), ("numfmt", quantityTool),
    ("od", dumpTool), ("paste", pasteTool), ("printenv", environmentTool),
    ("printf", printfTool), ("pwd", workingDirTool), ("readlink", readLinkTool),
    ("realpath", realPathTool), ("rev", reverseTool), ("rm", removeTool),
    ("rmdir", removeDirTool), ("sed", Edit.sedTool), ("seq", sequenceTool),
    ("sha1sum", digestTool "sha1"), ("sha224sum", digestTool "sha224"),
    ("sha256sum", digestTool "sha256"), ("sha384sum", digestTool "sha384"),
    ("sha512sum", digestTool "sha512"), ("sleep", sleepTool), ("sort", sortTool),
    ("split", splitTool), ("stat", statTool), ("sum", sumTool), ("sync", endingTool 0),
    ("tac", backwardsTool), ("tail", tailTool), ("tee", teeTool), ("test", testTool),
    ("touch", touchTool), ("tr", translateTool), ("true", endingTool 0),
    ("truncate", truncateTool), ("tsort", precedenceTool), ("tty", terminalTool),
    ("uname", systemTool), ("unexpand", unexpandTool), ("uniq", uniqueTool),
    ("unlink", unlinkTool), ("users", endingTool 0), ("vdir", listTool ['l', 'b']),
    ("wc", countTool), ("who", endingTool 0), ("whoami", statingTool "root"),
    ("xargs", argumentsTool), ("yes", repeatTool)]

/-- The programs that run other programs. -/
def runners : List String :=
  ["sh", "dash", "bash", "env", "nice", "nohup", "setsid", "stdbuf", "timeout", "which"]

/-! ### Program images -/

/-- What the file of a program begins with.  It is no UTF-8, so such a file is no text. -/
def imageHead : Bytes :=
  [0x7f, 0x45, 0x4c, 0x46, 0x02, 0xff]

/-- The content of the file of a program. -/
def image (name : String) : ByteArray :=
  ⟨(imageHead ++ encode name).toArray⟩

/-- The program that the content of a file is. -/
def ofImage? (content : ByteArray) : Option String :=
  if imageHead.isPrefixOf content.data.toList then
    decode? (content.data.toList.drop imageHead.length)
  else none

/-- The installed programs and their images. -/
def programs : List (String × ByteArray) :=
  (tools.map Prod.fst ++ runners).map fun name => (name, image name)

/-- An image is known again. -/
theorem ofImage?_image (name : String) : ofImage? (image name) = some name := by
  simp [ofImage?, image, imageHead, decode?, encode, String.fromUTF8?]
  exact ⟨name.isValidUTF8, rfl⟩

end ShaderBuild.Tool
