import BatchLens.Batch.Grammar

/-!
# Classification of a text

`classify` partitions a text into categorised spans. A comment at the very start takes the
whole text. Otherwise the tokens of the other categories are taken up in order of precedence,
each unless it overlaps a span that was taken up before it. Variable names come last and are
never left out, so that completion and hover always find them, also inside strings.
-/

namespace BatchLens

/-- The categories whose tokens compete for the text, the strongest first. -/
def Category.byPrecedence : List Category :=
  [.string, .keyword, .operator, .parameter, .label]

namespace Classification

/-- All tokens of a category, as spans, from left to right. -/
def candidates (text : Text) (category : Category) : List Span :=
  ((Grammar.pattern category).findAll text).map (Span.ofRange category)

/-- Takes up a span unless it overlaps one that was taken up before; the latest comes first. -/
def takeUp (taken : List Span) (candidate : Span) : List Span :=
  if taken.any (·.intersects candidate) then taken else candidate :: taken

/-- The first comment, if there is one. -/
def comment? (text : Text) : Option Span :=
  (candidates text .comment).head?

/-- The spans beside and behind an optional comment. -/
def spansWith (comment : Option Span) (text : Text) : List Span :=
  let competing := Category.byPrecedence.flatMap (candidates text)
  (competing.foldl takeUp comment.toList).reverse ++ candidates text .identifier

end Classification

/-- The spans of a text. -/
def classify (text : Text) : List Span :=
  match Classification.comment? text with
  | none => Classification.spansWith none text
  | some comment =>
      if comment.start = 0 then [comment] else Classification.spansWith (some comment) text

end BatchLens
