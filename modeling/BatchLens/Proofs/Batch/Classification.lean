import BatchLens.Batch.Classification
import BatchLens.Proofs.Pattern
import BatchLens.Proofs.Place

/-!
# Where spans lie

Every span of a classified text covers some of its characters (`exists_covers_of_mem_classify`),
whatever the patterns of the categories are. So in a document both ends of a span are places on the
line that was classified (`exists_coversLine`), and all that is computed from a span, in bytes or in
units of an encoding, is computed from the three parts into which it cuts its line.
-/

namespace BatchLens

/-- A span by the characters that it covers, those in front of it and those behind it. -/
structure Span.Covers (span : Span) (text before middle behind : Text) : Prop where
  text_eq : text = before ++ middle ++ behind
  start_eq : span.start = before.byteLen
  length_eq : span.length = middle.byteLen

namespace Span.Covers

variable {span : Span} {text before middle behind : Text}

theorem stop_eq (covers : span.Covers text before middle behind) :
    span.stop = (before ++ middle).byteLen := by
  rw [Span.stop, covers.start_eq, covers.length_eq, Text.byteLen_append]

/-- The text under a span is what it covers. -/
theorem text_under (covers : span.Covers text before middle behind) : span.text text = middle := by
  rw [Span.text, Span.range, covers.start_eq, covers.stop_eq, covers.text_eq, Text.slice?_cut,
    Option.getD_some]

theorem takeBytes_start (covers : span.Covers text before middle behind) :
    Text.takeBytes span.start text = before := by
  rw [covers.start_eq, covers.text_eq, List.append_assoc, Text.takeBytes_cut]

theorem middle_ne_nil (covers : span.Covers text before middle behind)
    (nonempty : span.length ≠ 0) : middle ≠ [] := by
  rintro rfl
  exact nonempty covers.length_eq

end Span.Covers

theorem Span.covers_ofRange (category : Category) (before middle behind : Text) :
    (ofRange category ⟨before.byteLen, (before ++ middle).byteLen⟩).Covers
      (before ++ middle ++ behind) before middle behind :=
  ⟨rfl, rfl, by simp [ofRange]⟩

theorem ByteRange.IsPart.exists_covers {range : ByteRange} {text : Text} (part : range.IsPart text)
    (category : Category) :
    ∃ before middle behind, (Span.ofRange category range).Covers text before middle behind := by
  rcases part with ⟨before, middle, behind, rfl, rfl⟩
  exact ⟨before, middle, behind, Span.covers_ofRange category before middle behind⟩

namespace Classification

variable {text : Text} {span : Span}

theorem exists_covers_of_mem_candidates {category : Category}
    (isCandidate : span ∈ candidates text category) :
    ∃ before middle behind, span.Covers text before middle behind := by
  rcases List.mem_map.mp isCandidate with ⟨range, found, rfl⟩
  exact (Pattern.isPart_of_mem_findAll found).1.exists_covers category

theorem mem_takeUp {taken : List Span} {candidate : Span}
    (isTaken : span ∈ takeUp taken candidate) : span ∈ taken ∨ span = candidate := by
  rw [takeUp] at isTaken
  split at isTaken
  next => exact .inl isTaken
  next => exact (List.mem_cons.mp isTaken).symm

theorem mem_foldl_takeUp {competing taken : List Span}
    (isTaken : span ∈ competing.foldl takeUp taken) : span ∈ taken ∨ span ∈ competing := by
  induction competing generalizing taken with
  | nil => exact .inl isTaken
  | cons candidate others ih =>
      rcases ih isTaken with early | late
      · rcases mem_takeUp early with isOld | rfl
        · exact .inl isOld
        · exact .inr List.mem_cons_self
      · exact .inr (List.mem_cons_of_mem candidate late)

theorem mem_spansWith {comment : Option Span} (isSpan : span ∈ spansWith comment text) :
    comment = some span ∨ ∃ category, span ∈ candidates text category := by
  rcases List.mem_append.mp isSpan with competed | isIdentifier
  · rcases mem_foldl_takeUp (List.mem_reverse.mp competed) with isComment | isCandidate
    · exact .inl (Option.mem_toList.mp isComment)
    · rcases List.mem_flatMap.mp isCandidate with ⟨category, _, isCandidate⟩
      exact .inr ⟨category, isCandidate⟩
  · exact .inr ⟨.identifier, isIdentifier⟩

theorem mem_candidates_of_comment? (isComment : comment? text = some span) :
    span ∈ candidates text .comment :=
  List.mem_of_mem_head? isComment

end Classification

/-- Every span of a text is the token of some category. -/
theorem mem_candidates_of_mem_classify {text : Text} {span : Span}
    (isSpan : span ∈ classify text) :
    ∃ category, span ∈ Classification.candidates text category := by
  rw [classify] at isSpan
  split at isSpan
  next =>
    rcases Classification.mem_spansWith isSpan with isComment | isCandidate
    · exact absurd isComment (by simp)
    · exact isCandidate
  next comment found =>
    have isCandidate := Classification.mem_candidates_of_comment? found
    split at isSpan
    next =>
      rw [List.mem_singleton.mp isSpan]
      exact ⟨.comment, isCandidate⟩
    next =>
      rcases Classification.mem_spansWith isSpan with isComment | isOther
      · rw [← Option.some.inj isComment]
        exact ⟨.comment, isCandidate⟩
      · exact isOther

/-- Every span of a text covers some of its characters. -/
theorem exists_covers_of_mem_classify {text : Text} {span : Span} (isSpan : span ∈ classify text) :
    ∃ before middle behind, span.Covers text before middle behind := by
  rcases mem_candidates_of_mem_classify isSpan with ⟨category, isCandidate⟩
  exact Classification.exists_covers_of_mem_candidates isCandidate

namespace Document

variable {document : Document} {index : Nat} {span : Span}

/-- A span of a line of a document: the lines in front of that line, the three parts into which the
span cuts it, its break, and the lines behind. -/
structure CoversLine (document : Document) (index : Nat) (span : Span) (earlier : List Line)
    (before middle behind ending : Text) (later : List Line) : Prop where
  lines : document.lines = earlier ++ ⟨before ++ middle ++ behind, ending⟩ :: later
  index_eq : earlier.length = index
  covers : span.Covers (before ++ middle ++ behind) before middle behind

/-- Every span of a line is such a span of the document. -/
theorem exists_coversLine (isLine : index < document.lineCount)
    (isSpan : span ∈ classify (document.line index)) :
    ∃ earlier before middle behind ending later,
      document.CoversLine index span earlier before middle behind ending later := by
  rcases Line.exists_split isLine with ⟨earlier, ⟨content, ending⟩, later, lines, rfl⟩
  rw [line_of_lines lines] at isSpan
  rcases exists_covers_of_mem_classify isSpan with ⟨before, middle, behind, covers⟩
  obtain rfl : content = before ++ middle ++ behind := covers.text_eq
  exact ⟨earlier, before, middle, behind, ending, later, lines, rfl, covers⟩

section CoversLine

variable {earlier later : List Line} {before middle behind ending : Text}

theorem CoversLine.line_eq
    (covers : document.CoversLine index span earlier before middle behind ending later) :
    document.line index = before ++ middle ++ behind := by
  rw [← covers.index_eq, line_of_lines covers.lines]

theorem CoversLine.lineStart_eq
    (covers : document.CoversLine index span earlier before middle behind ending later) :
    document.lineStart index = (Line.joined earlier).byteLen := by
  rw [← covers.index_eq, lineStart_of_lines covers.lines]

theorem CoversLine.located_start
    (covers : document.CoversLine index span earlier before middle behind ending later) :
    document.Located (document.lineStart index + span.start) earlier before (middle ++ behind)
      ending later := by
  refine ⟨by simpa using covers.lines, ?_⟩
  rw [covers.lineStart_eq, covers.covers.start_eq, Text.byteLen_append]

theorem CoversLine.located_stop
    (covers : document.CoversLine index span earlier before middle behind ending later) :
    document.Located (document.lineStart index + span.stop) earlier (before ++ middle) behind
      ending later := by
  refine ⟨covers.lines, ?_⟩
  rw [covers.lineStart_eq, covers.covers.stop_eq, Text.byteLen_append (Line.joined earlier)]

end CoversLine

end Document

end BatchLens
