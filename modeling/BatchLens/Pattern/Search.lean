import BatchLens.Pattern.Basic

/-!
# Searching a text for a pattern

The matches of a pattern are found from left to right and do not overlap: a search goes on
where the whole last match ended, not where its token ended. Every match gives one token, which
is the marked part or else the whole match; empty tokens are not reported.
-/

namespace BatchLens

namespace Pattern

/-- The tokens found in the rest of a text. A match may begin at `resume` at the earliest. -/
def tokensFrom (pattern : Pattern) (previous : Option Char) (offset resume : Nat) :
    Text → List ByteRange
  | [] => []
  | c :: rest =>
      let next := offset + c.utf8Size
      if offset < resume then pattern.tokensFrom (some c) next resume rest
      else match pattern.hit? ⟨previous, offset, c :: rest⟩ with
        | none => pattern.tokensFrom (some c) next resume rest
        | some hit =>
            hit.token.getD ⟨offset, hit.place.offset⟩ ::
              pattern.tokensFrom (some c) next hit.place.offset rest

/-- The tokens of a text, from left to right. -/
def findAll (pattern : Pattern) (text : Text) : List ByteRange :=
  (pattern.tokensFrom none 0 0 text).filter fun range => range.start < range.stop

/-- The first token of a text. -/
def find? (pattern : Pattern) (text : Text) : Option ByteRange :=
  (pattern.findAll text).head?

end Pattern

end BatchLens
