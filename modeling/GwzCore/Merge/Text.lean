import GwzCore.Lib.Lines
import GwzCore.Lib.Yaml

/-!
# Texts of a merge record

The classes of texts the record validators accept: portable identifiers, slugs, object
ids, digests, short branch names, canonical commit messages and member paths. A text is
read as its list of characters; lengths are lengths in bytes.
-/
namespace GwzCore.Merge

/-- Nothing is left of the text once it is trimmed. -/
def isBlank (text : String) : Bool := text.toList.all Lines.isWhitespace

def isAsciiDigit (c : Char) : Bool := '0' ≤ c && c ≤ '9'

def isAsciiAlphanumeric (c : Char) : Bool :=
  isAsciiDigit c || ('a' ≤ c && c ≤ 'z') || ('A' ≤ c && c ≤ 'Z')

def isPortable (c : Char) : Bool := isAsciiAlphanumeric c || c == '_' || c == '-' || c == '.'

def isLowerHex (text : String) : Bool :=
  text.toList.all fun c => isAsciiDigit c || ('a' ≤ c && c ≤ 'f')

def isOid (text : String) : Bool :=
  (text.utf8ByteSize == 40 || text.utf8ByteSize == 64) && isLowerHex text

def isSha256 (text : String) : Bool := text.utf8ByteSize == 64 && isLowerHex text

def startsWith (text start : String) : Bool := start.toList.isPrefixOf text.toList

def endsWith (text ending : String) : Bool := ending.toList.isSuffixOf text.toList

def containsText (text part : String) : Bool :=
  text.toList.tails.any fun tail => part.toList.isPrefixOf tail

def containsAny (text : String) (chars : List Char) : Bool := text.toList.any (chars.contains ·)

def isPortableId (start value : String) : Bool :=
  startsWith value start && start.utf8ByteSize < value.utf8ByteSize && value.toList.all isPortable

def isSlug (value : String) : Bool :=
  !value.isEmpty && value != "." && value != ".." && value.toList.all isPortable

def splitSlash (text : String) : List String := (text.toList.splitOn '/').map String.ofList

def isShortBranch (branch : String) : Bool :=
  let invalidByte := branch.toList.any fun c =>
    c ≤ ' ' || c == '\x7f' || ['~', '^', ':', '?', '*', '[', '\\'].contains c
  let invalidComponent := (splitSlash branch).any fun part =>
    part.isEmpty || startsWith part "." || endsWith part ".lock"
  !(branch.isEmpty || startsWith branch "refs/" || startsWith branch "-" || endsWith branch "/"
    || endsWith branch "." || containsText branch ".." || containsText branch "@\x7b"
    || invalidByte || invalidComponent)

/-- The text before a given ending, and the empty text when it ends otherwise. -/
def stripEnding (text ending : String) : String :=
  if endsWith text ending then
    String.ofList (text.toList.take (text.toList.length - ending.toList.length))
  else ""

def commitTrailer (mergeId operationId : String) : String :=
  "\n\nGWZ-Merge-ID: " ++ mergeId ++ "\nGWZ-Operation-ID: " ++ operationId

def isCanonicalCommitMessage (mergeId operationId message : String) : Bool :=
  let body := stripEnding message (commitTrailer mergeId operationId)
  !isBlank body && !containsAny body ['\x00', '\r'] && !endsWith body "\n"

/-- The first directory names a member path may not use. -/
def reservedDirectories : List String := ["gwz.conf", ".gwz"]

/-- What is wrong with a member path, if anything. -/
def memberPathError (value : String) : Option String :=
  if isBlank value || startsWith value "/" then some "member path must be relative"
  else
    let parts := splitSlash value
    if parts.head? = some "." then some "member path must not contain '.' components"
    else if parts.contains ".." then some "member path escapes the workspace"
    else
      let names := parts.filter fun part => !part.isEmpty && part != "."
      if names.head?.any reservedDirectories.contains then
        some "member path uses a reserved GWZ prefix"
      else none

end GwzCore.Merge
