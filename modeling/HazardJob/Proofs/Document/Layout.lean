import HazardJob.Proofs.Document.Run

/-! Blank lines and comments between the lines of a job file. A run passes over them and leaves the
reader as it was, in the middle of a value as well as between sections. So they may be put in wherever a
line begins or the text ends, and the document that is read is the same. -/
namespace HazardJob

namespace Text

theorem isFeed_of_free {l : List Char} (free : '\n' ∉ l) : ∀ c ∈ l, (c == '\n') = false := by
  intro c member
  rw [beq_eq_false_iff_ne]
  rintro rfl
  exact free member

/-- What stands before a line feed is a line, apart from a carriage return at its end. -/
theorem lines_append_cons {l : List Char} (free : '\n' ∉ l) (rest : List Char) :
    lines (l ++ '\n' :: rest) = dropReturn l :: lines rest := by
  rw [lines, pieces_append_cons (isFeed_of_free free) rfl, lines_go_cons l (pieces_ne_nil rest)]
  rfl

theorem lines_of_free {l : List Char} (free : '\n' ∉ l) (full : l ≠ []) : lines l = [l] := by
  rw [lines, pieces_of_free (isFeed_of_free free), lines.go]
  simp [full]

end Text

namespace Document

/-- Spaces and tabs, or these followed by a mark and anything. -/
def IsLayout (raw : List Char) : Prop := Line.blank.Form raw ∨ Line.comment.Form raw

/-- Lines with blank lines and comments put in between. -/
inductive Spaced : List (List Char) → List (List Char) → Prop
  | same (raws : List (List Char)) : Spaced raws raws
  | kept {raws more : List (List Char)} (raw : List Char) : Spaced raws more →
      Spaced (raw :: raws) (raw :: more)
  | added {raws more : List (List Char)} {raw : List Char} : IsLayout raw → Spaced raws more →
      Spaced raws (raw :: more)

/-- A text with blank lines and comments put in where its lines begin, each with a line feed or with a
carriage return and a line feed. At the end of the text one may lack them, and if the last line of the
text lacks them, it gets some that leave it the line that it is. -/
inductive Padded : List Char → List Char → Prop
  | same (s : List Char) : Padded s s
  | kept {l s t : List Char} : '\n' ∉ l → Padded s t → Padded (l ++ '\n' :: s) (l ++ '\n' :: t)
  | added {l s t : List Char} : '\n' ∉ l → IsLayout (Text.dropReturn l) → Padded s t →
      Padded s (l ++ '\n' :: t)
  | ended {l e t : List Char} : '\n' ∉ l ++ e → l ≠ [] → Text.dropReturn (l ++ e) = l →
      Padded [] t → Padded l (l ++ e ++ '\n' :: t)
  | final {l : List Char} : '\n' ∉ l → IsLayout l → Padded [] l

/-- Blank lines and comments are passed over. -/
theorem Runs.layout {p q : Progress} {raw : List Char} {more : List (List Char)}
    (layout : IsLayout raw) (runs : Runs p more q) : Runs p (raw :: more) q := by
  rcases layout with blank | comment
  · exact .line blank rfl runs
  · exact .line comment rfl runs

theorem Runs.spaced {p q : Progress} {raws more : List (List Char)} (runs : Runs p raws q)
    (spaced : Spaced raws more) : Runs p more q := by
  induction spaced generalizing p with
  | same raws => exact runs
  | kept raw _ ih =>
    cases runs with
    | line form added runs => exact .line form added (ih runs)
  | added layout _ ih => exact (ih runs).layout layout

theorem Padded.spaced {s t : List Char} (padded : Padded s t) :
    Spaced (Text.lines s) (Text.lines t) := by
  induction padded with
  | same s => exact .same _
  | kept free _ ih =>
    rw [Text.lines_append_cons free, Text.lines_append_cons free]
    exact .kept _ ih
  | added free layout _ ih =>
    rw [Text.lines_append_cons free]
    exact .added layout ih
  | ended free full returned _ ih =>
    rw [Text.lines_append_cons free, returned,
      Text.lines_of_free (fun feed => free (List.mem_append_left _ feed)) full]
    exact .kept _ ih
  | @final l free layout =>
    by_cases empty : l = []
    · rw [empty]
      exact .same _
    · rw [Text.lines_of_free free empty]
      exact .added layout (.same _)

/-- Blank lines and comments make no difference to what a text is read as, wherever they are put. -/
theorem ofText_padded {text other : String} {d : Document} (read : ofText text = .ok d)
    (padded : Padded text.toList other.toList) : ofText other = .ok d := by
  obtain ⟨q, runs, rfl⟩ := readLines_ok_iff.mp read
  exact readLines_ok_iff.mpr ⟨q, runs.spaced padded.spaced, rfl⟩

/-- A comment that looks like a header, in the middle of a value. -/
theorem ofText_padded_value :
    ofText "k = 1\n  2" = .ok ⟨[⟨"general", [("k", "1\n2")]⟩]⟩ ∧
      Padded "k = 1\n  2".toList "\t\r\nk = 1\n ;[b]\n  2\n#c".toList ∧
      ofText "\t\r\nk = 1\n ;[b]\n  2\n#c" = .ok ⟨[⟨"general", [("k", "1\n2")]⟩]⟩ := by
  have read : ofText "k = 1\n  2" = .ok ⟨[⟨"general", [("k", "1\n2")]⟩]⟩ := by decide +kernel
  have plain : "k = 1\n  2".toList = ['k', ' ', '=', ' ', '1'] ++ '\n' :: [' ', ' ', '2'] := by
    decide +kernel
  have spaced : "\t\r\nk = 1\n ;[b]\n  2\n#c".toList = ['\t', '\r'] ++ '\n' ::
      (['k', ' ', '=', ' ', '1'] ++ '\n' :: ([' ', ';', '[', 'b', ']'] ++ '\n' ::
        ([' ', ' ', '2'] ++ [] ++ '\n' :: ['#', 'c']))) := by decide +kernel
  have padded : Padded "k = 1\n  2".toList "\t\r\nk = 1\n ;[b]\n  2\n#c".toList := by
    rw [plain, spaced]
    refine .added (by decide) (.inl (.blank (by decide))) (.kept (by decide) ?_)
    refine .added (by decide) (.inr (.comment (w := [' ']) (by decide) (.inr rfl))) ?_
    refine .ended (by decide) (by decide) (by decide) ?_
    exact .final (by decide) (.inr (.comment (w := []) (by decide) (.inl rfl)))
  exact ⟨read, padded, ofText_padded read padded⟩

end Document
end HazardJob
