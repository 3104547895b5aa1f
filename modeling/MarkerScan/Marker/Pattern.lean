import MarkerScan.Item.Basic
import MarkerScan.Marker.Form
import MarkerScan.Text.Character
import MarkerScan.Text.Pattern
import MarkerScan.Text.Search
/-
  MarkerScan.Marker.Pattern — comments and their metadata as patterns.

  Behind blanks, the opener and blanks again stands one of the keywords, the first group.
  Blanks, at most one colon and blanks are skipped, and the second group is the body: at
  least one character that is no line feed, as many as there are, or in a form that can be
  closed as few as possible before the closer or the end of the text.

  A priority is one of six words in any case, between two word edges, with the separator
  behind it. An assignee or a tag is a mark and the word characters right behind it. The
  text that is left is tidied with two more: a run of blanks, and a colon between blanks at
  the front.
-/

namespace MarkerScan.Marker

open Text

/-! ## The form of a comment -/

def notLineFeed (c : Char) : Bool := c != '\n'

/-- A keyword, and a word edge behind it if it ends in a word character. -/
def keywordPattern (keyword : List Char) : Pattern :=
  if inWord keyword.getLast? then .seq (.literal keyword) .edge else .literal keyword

/-- The body as a group, and what ends it. -/
def Form.bodyPattern (f : Form) : Pattern :=
  match f.closer with
  | none => .group (.seq (.one notLineFeed) (.many notLineFeed))
  | some closer => .seq (.group (.seq (.one notLineFeed) (.few notLineFeed))) (.alt (.literal closer) .finish)

/-- Blanks, at most one colon and blanks. -/
def skipPattern : Pattern := .seq (.many isBlank) (.seq (.optional (.literal [':'])) (.many isBlank))

def Form.pattern (f : Form) (keywords : List (List Char)) : Pattern :=
  .seq (.many isBlank) (.seq (.literal f.opener) (.seq (.many isBlank)
    (.seq (.group (.anyOf (keywords.map keywordPattern))) (.seq skipPattern f.bodyPattern))))

/-! ## The metadata of a body -/

/-- The words for the levels, in the order in which they are tried. -/
def priorityWords : List (List Char) :=
  ["HIGH".toList, "MEDIUM".toList, "LOW".toList, "H".toList, "M".toList, "L".toList]

def isSeparator (c : Char) : Bool := c == ':' || c == '-'

/-- Blanks, at most one `:` or `-`, and blanks. -/
def separatorPattern : Pattern := .seq (.many isBlank) (.seq (.optional (.one isSeparator)) (.many isBlank))

/-- A word for a level, the group, and its separator. -/
def priorityPattern : Pattern :=
  .seq .edge (.seq (.group (.anyOf (priorityWords.map .literal))) (.seq .edge separatorPattern))

/-- A mark and the word characters behind it, the group. -/
def markPattern (mark : Char) : Pattern := .seq (.one (· == mark)) (.group (.seq (.one isWord) (.many isWord)))

def blanksPattern : Pattern := .seq (.one isBlank) (.many isBlank)

/-- A colon and the blanks around it. -/
def colonPattern : Pattern := .seq (.many isBlank) (.seq (.one (· == ':')) (.many isBlank))

/-- The text of a body without its metadata: the patterns are taken out one after the other. -/
def cleanedByPatterns (body : List Char) : List Char :=
  let unprioritised := priorityPattern.removeFirst body
  let unassigned := (markPattern '@').replaceAll [] unprioritised
  let untagged := (markPattern '#').replaceAll [] unassigned
  let spaced := blanksPattern.replaceAll [' '] untagged
  trim (colonPattern.removeFront spaced)

end MarkerScan.Marker
