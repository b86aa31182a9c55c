import IssueTracker.Text.Composition
import IssueTracker.Text.Mark
import IssueTracker.Url.Idna.Direction
import IssueTracker.Url.Idna.Joining
import IssueTracker.Url.Idna.Mapping
import IssueTracker.Url.Punycode
/-!
# Domains in ASCII

A domain may be written in any script. Its form in ASCII is found label by label: characters are
replaced by what they stand for, labels that are in ASCII form already are read, all of them are
checked, and those that are not ASCII are written in Punycode behind `xn--`.
-/

namespace IssueTracker.Url

namespace Idna

/-- Whether there are only ASCII characters. -/
def isAscii (cs : List Char) : Bool := cs.all (·.val < 0x80)

/-- What labels in ASCII form start with. -/
def asciiPrefix : List Char := ['x', 'n', '-', '-']

/-- The longest labels that are put into ASCII form and read from it. -/
def maxLengths : Nat × Nat := (1000, 2000)

/-- The characters of a domain, each replaced by what it stands for, in composed form. -/
def normalize? (cs : List Char) : Option (List Char) := (mapAll? cs).map Text.compose

/-- The label that an ASCII form stands for. It must need that form, and be as it would be if it
were written directly. -/
def readLabel? (cs : List Char) : Option (List Char) :=
  if !isAscii cs || maxLengths.2 < cs.length then none
  else
    match Punycode.decode? cs with
    | some label =>
      if isAscii label || asciiPrefix.isPrefixOf label then none
      else if normalize? label = some label then some label
      else none
    | none => none

/-- A label in its own script. -/
def toUnicode? (label : List Char) : Option (List Char) :=
  if asciiPrefix.isPrefixOf label then readLabel? (label.drop asciiPrefix.length) else some label

/-- Whether a label does not start with a mark and its joiners have an effect. -/
def isWellFormed (label : List Char) : Bool :=
  !(label.head?.any Text.isMark) && joinersFit [] label

/-- A label in ASCII. -/
def toAscii? (label : List Char) : Option (List Char) :=
  if isAscii label then some label
  else if maxLengths.1 < label.length then none
  else some (asciiPrefix ++ Punycode.encode label)

/-- The labels of a domain in their own script, if all are as they should be. -/
def labels? (domain : List Char) : Option (List (List Char)) := do
  let labels ← (Text.splitOn '.' (← normalize? domain)).mapM toUnicode?
  if labels.all isWellFormed && (!labels.any hasRightToLeft || labels.all keepsTogether) then
    some labels
  else none

end Idna

/-- Characters that no domain may contain. -/
def forbiddenInDomain (c : Char) : Bool :=
  c.val ≤ 0x20 || c.val = 0x7F ||
    ['#', '%', '/', ':', '<', '>', '?', '@', '[', '\\', ']', '^', '|'].contains c

/-- The ASCII form of a domain. -/
def domainToAscii? (domain : List Char) : Option (List Char) := do
  let labels ← (← Idna.labels? domain).mapM Idna.toAscii?
  let ascii := Text.joinWith ['.'] labels
  if ascii.any forbiddenInDomain then none else some ascii

end IssueTracker.Url
