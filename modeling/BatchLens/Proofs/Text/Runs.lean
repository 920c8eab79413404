import Mathlib.Data.List.TakeWhile
import BatchLens.Proofs.Text.Cut

/-!
# Runs of characters

The longest run of characters that pass a test, at either end of a text, is the one run of such
characters beside which stands no further one (`takeWhile_run`, `takeEndWhile_run`).
-/

namespace BatchLens

namespace Text

variable {test : Char → Bool} {run rest : Text}

theorem dropEndWhile_append_takeEndWhile (test : Char → Bool) (text : Text) :
    dropEndWhile test text ++ takeEndWhile test text = text := by
  rw [dropEndWhile, takeEndWhile, ← List.reverse_append, List.takeWhile_append_dropWhile,
    List.reverse_reverse]

theorem not_of_mem_head?_dropWhile (test : Char → Bool) (text : Text) :
    ∀ c ∈ (text.dropWhile test).head?, test c = false := by
  intro c isFirst
  have fails := List.head?_dropWhile_not test text
  rw [isFirst] at fails
  exact fails

theorem not_of_mem_getLast?_dropEndWhile (test : Char → Bool) (text : Text) :
    ∀ c ∈ (dropEndWhile test text).getLast?, test c = false := by
  simp only [dropEndWhile, List.getLast?_reverse]
  exact not_of_mem_head?_dropWhile test text.reverse

theorem of_mem_takeEndWhile {text : Text} {c : Char} (isIn : c ∈ takeEndWhile test text) :
    test c = true :=
  List.mem_takeWhile_imp (List.mem_reverse.mp isIn)

theorem takeWhile_run (passes : ∀ c ∈ run, test c = true)
    (ends : ∀ c ∈ rest.head?, test c = false) :
    (run ++ rest).takeWhile test = run ∧ (run ++ rest).dropWhile test = rest := by
  rw [List.takeWhile_append_of_pos passes, List.dropWhile_append_of_pos passes]
  cases rest with
  | nil => simp
  | cons c others => simp [ends c rfl]

theorem takeEndWhile_run (passes : ∀ c ∈ run, test c = true)
    (ends : ∀ c ∈ rest.getLast?, test c = false) :
    takeEndWhile test (rest ++ run) = run ∧ dropEndWhile test (rest ++ run) = rest := by
  have reversed : (run.reverse ++ rest.reverse).takeWhile test = run.reverse ∧
      (run.reverse ++ rest.reverse).dropWhile test = rest.reverse := by
    apply takeWhile_run
    · simpa using passes
    · simpa using ends
  simp only [takeEndWhile, dropEndWhile, List.reverse_append, reversed, List.reverse_reverse,
    and_self]

theorem takeEndWhile_eq_nil {text : Text} (ends : ∀ c ∈ text.getLast?, test c = false) :
    takeEndWhile test text = [] := by
  have noRun : takeEndWhile test (text ++ []) = [] := (takeEndWhile_run (by simp) ends).1
  simpa using noRun

/-- Where some character fails a test, there is a last one, with a run behind it. -/
theorem exists_last_of_mem {text : Text} {c : Char} (isIn : c ∈ text) (fails : test c = false) :
    ∃ (front : Text) (last : Char) (run : Text), text = front ++ last :: run ∧
      test last = false ∧ ∀ c ∈ run, test c = true := by
  have cut := dropEndWhile_append_takeEndWhile test text
  cases isLast : (dropEndWhile test text).getLast? with
  | none =>
      rw [List.getLast?_eq_none_iff.mp isLast, List.nil_append] at cut
      rw [← cut] at isIn
      have passes := of_mem_takeEndWhile isIn
      rw [fails] at passes
      exact Bool.noConfusion passes
  | some last =>
      rcases List.getLast?_eq_some_iff.mp isLast with ⟨front, concat⟩
      refine ⟨front, last, takeEndWhile test text, ?_, ?_, fun _ => of_mem_takeEndWhile⟩
      · rw [List.append_cons, ← concat, cut]
      · exact not_of_mem_getLast?_dropEndWhile test text last isLast

end Text

end BatchLens
