import BatchLens.Domain.Direction
import BatchLens.Domain.Joining
import BatchLens.Domain.Punycode
import BatchLens.Domain.Spelling
import BatchLens.Unicode.NormalForm

/-!
# Names of domains

The name of a domain consists of labels with dots between them. It is written in ASCII: a label
with other characters is replaced by its spelling in Punycode, with four characters in front that
mark it as such. All ways to write a name lead to the same form, and a name that is in this form
already is kept.

A label with characters outside ASCII has to be in normal form, may not begin with a mark, has
join controls only where they belong and keeps to one direction.
-/

namespace BatchLens.Domain

open Unicode

/-- What stands in front of a label in Punycode. -/
def punycodeMark : Text := ['x', 'n', '-', '-']

/-- The most characters that a label may have if some are not ASCII. -/
def longestText : Nat := 1000

/-- The most characters that a label in Punycode may have behind its mark. -/
def longestPunycode : Nat := 2000

/-- A label of a name, as it is written in ASCII, and the text that it stands for. -/
structure Label where
  written : Text
  text : Text

/-- Whether a text that is not ASCII may be a label, its directions apart. -/
def isLabelText (text : Text) : Bool :=
  text.length ≤ longestText && !text.head?.any isMark && !punycodeMark.isPrefixOf text &&
    joinControlsFit [] text

/-- The label for a text that is not in Punycode. -/
def plainLabel? (text : Text) : Option Label :=
  if text.all isAscii then some ⟨text, text⟩
  else if isLabelText text then some ⟨punycodeMark ++ Punycode.encode text, text⟩
  else none

/-- The label for a text in Punycode, which is given from behind its mark. What it stands for is
a text in normal form that cannot be written in ASCII otherwise. -/
def punycodeLabel? (written : Text) : Option Label := do
  if written.isEmpty || written.getLast? == some '-' || longestPunycode < written.length then none
  let text ← Punycode.decode? written
  if text.all isSpelled && normalForm text == text && isLabelText text then
    some ⟨punycodeMark ++ written, text⟩
  else none

/-- The label that a text spells. -/
def label? (text : Text) : Option Label :=
  if punycodeMark.isPrefixOf text then punycodeLabel? (text.drop punycodeMark.length)
  else plainLabel? text

/-- The one way to write a name that counts: the spelling of its characters in normal form. -/
def canonical? (name : Text) : Option Text :=
  (name.mapM spelling?).map fun spelled => normalForm spelled.flatten

/-- The name of a domain in ASCII. If some label has letters that run to the left, every label
has to keep to one direction. -/
def toAscii? (name : Text) : Option Text := do
  let canonical ← canonical? name
  let labels ← (Text.split '.' canonical).mapM label?
  if labels.any (hasLeftward ·.text) && !labels.all (keepsDirection ·.text) then none
  else some (Text.join '.' (labels.map (·.written)))

end BatchLens.Domain
