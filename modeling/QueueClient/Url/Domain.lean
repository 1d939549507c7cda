/-
# Domain names

The form of a domain name that goes into a URL: ASCII, in lower case, with labels of other
scripts in Punycode behind `xn--`.  Characters are first replaced by their plain forms and
composed; what remains must hold no character that ends a host or that no name may hold.
Labels in Punycode must be exactly what writing produces: what they stand for has to be in
plain form already.
-/
import QueueClient.Encoding.Utf8
import QueueClient.Url.Domain.Direction
import QueueClient.Url.Domain.Joining
import QueueClient.Url.Domain.MappingTable
import QueueClient.Url.Punycode

namespace QueueClient.Domain

open Text

/-- ASCII characters that no domain name may hold. -/
def isForbidden (c : Char) : Bool :=
  c.toNat ≤ 0x20 || c.toNat == 0x7f ||
    ['#', '%', '/', ':', '<', '>', '?', '@', '[', '\\', ']', '^', '|'].contains c

/-! ## Plain form -/

/-- The plain form of a character, unless it may not stand in a name. -/
def plainChar? (c : Char) : Option (List Char) :=
  if c.toNat < 128 then some [c.toLower]
  else if inRanges bannedRanges c then none
  else if inRanges droppedRanges c then some []
  else some ((replacement? mappingRules c).getD [c])

/-- The plain form of a text. -/
def plain? (cs : List Char) : Option (List Char) := do
  let cs ← cs.mapM plainChar?
  let cs := composed cs.flatten
  if cs.any isForbidden then none else some cs

/-! ## Labels -/

/-- What labels in Punycode start with. -/
def encodedMark : List Char := "xn--".toList

/-- How long a label may be that is to be written in Punycode. -/
def maxDecodedLength : Nat := 1000

/-- How long what follows the mark of a label in Punycode may be. -/
def maxEncodedLength : Nat := 2000

/-- What a label in Punycode stands for, behind its mark. -/
def decodeLabel? (code : List Char) : Option (List Char) := do
  if !code.all (·.toNat < 128) || code.isEmpty || code.getLast? == some '-' ||
      maxEncodedLength < code.length then
    none
  let label ← Punycode.decode? code
  if label.contains '.' || plain? label != some label then none else some label

/-- What a label in plain form stands for. -/
def readLabel? (label : List Char) : Option (List Char) :=
  if encodedMark.isPrefixOf label then decodeLabel? (label.drop encodedMark.length) else some label

/-- Whether a label is ASCII. -/
def isAscii (label : List Char) : Bool := label.all (·.toNat < 128)

/-- Whether a label can stand in a name: no mark first, no joiner in vain, not too long. -/
def isProper (label : List Char) : Bool :=
  !(label.head?.any (inRanges markRanges)) && joinersNeeded [] label &&
    (isAscii label || label.length ≤ maxDecodedLength)

/-- A label as ASCII. -/
def writeLabel (label : List Char) : List Char :=
  if isAscii label then label else encodedMark ++ Punycode.encode label

/-! ## Names -/

/-- The ASCII form of a domain name given by its UTF-8 bytes. -/
def toAscii? (bytes : List UInt8) : Option String := do
  let name ← plain? (← Utf8.decode? bytes).toList
  let labels ← (name.splitOn '.').mapM readLabel?
  if !labels.all isProper then none
  if labels.any (·.any turns) && !labels.all keepsDirection then none
  some (String.ofList (['.'].intercalate (labels.map writeLabel)))

end QueueClient.Domain
