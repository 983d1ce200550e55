import HazardJob.Files.Tree
import HazardJob.Proofs.Text

/-! The parent of a path: the parts that the path starts with, before its last step and what stands for
no step around it. -/
namespace HazardJob

namespace Path

/-- `q` is what is left of `p` without its last parts. -/
structure Starts (q p : Path) : Prop where
  isAbsolute : q.isAbsolute = p.isAbsolute
  hops : ∃ more, more ≠ [] ∧ FileTree.hops p = FileTree.hops q ++ more
  text : q.text.toList <+: p.text.toList

theorem dropIdle_suffix (relative : Bool) (parts : List (List Char)) :
    dropIdle relative parts <:+ parts := by
  induction parts with
  | nil => exact List.suffix_refl []
  | cons part before ih =>
    rw [dropIdle]
    split
    · exact ih.trans (List.suffix_cons part before)
    · exact List.suffix_refl _

theorem head_dropIdle {relative : Bool} {parts : List (List Char)} {last : List Char}
    {before : List (List Char)} (kept : dropIdle relative parts = last :: before) : last ≠ [] := by
  induction parts with
  | nil => cases kept
  | cons part rest ih =>
    rw [dropIdle] at kept
    split at kept
    · exact ih kept
    · rename_i busy
      cases kept
      rintro rfl
      simp [isIdle] at busy

/-- The parts of a path below its root, if it has one. -/
def body (p : Path) : List Char := if p.isAbsolute then p.text.toList.drop 1 else p.text.toList

theorem toList_text (p : Path) : p.text.toList = (if p.isAbsolute then ['/'] else []) ++ p.body := by
  unfold body
  split
  · rename_i absolute
    have head : p.text.toList.head? = some '/' := by simpa [isAbsolute] using absolute
    obtain ⟨rest, text⟩ := List.head?_eq_some_iff.mp head
    rw [text]
    rfl
  · rfl

theorem hops_eq (p : Path) : FileTree.hops p = Text.fields (· == '/') p.body := by
  unfold FileTree.hops
  rw [toList_text]
  split
  · exact Text.fields_cons_separator rfl _
  · rfl

/-- A parent is made of parts that its path starts with. -/
theorem parent?_parts {p q : Path} (parent : p.parent? = some q) :
    ∃ kept last rest, last ∈ rest ∧ last ≠ [] ∧ parts p.body = kept ++ rest ∧
      q.text.toList = (if p.isAbsolute then ['/'] else []) ++ ['/'].intercalate kept := by
  have below : (if (!p.isAbsolute) = true then p.text.toList else p.text.toList.drop 1) = p.body := by
    unfold body
    cases p.isAbsolute <;> rfl
  unfold parent? at parent
  dsimp only at parent
  rw [below] at parent
  split at parent
  · cases parent
  · rename_i last before busy
    cases parent
    obtain ⟨idle, whole⟩ := dropIdle_suffix (!p.isAbsolute) (parts p.body).reverse
    obtain ⟨idle', whole'⟩ := dropIdle_suffix (!p.isAbsolute) before
    rw [busy] at whole
    refine ⟨(dropIdle (!p.isAbsolute) before).reverse, last, idle'.reverse ++ last :: idle.reverse,
      by simp, head_dropIdle busy, ?_, ?_⟩
    · have order : before.reverse = (dropIdle (!p.isAbsolute) before).reverse ++ idle'.reverse := by
        rw [← List.reverse_append, whole']
      rw [← List.reverse_reverse (parts p.body), ← whole, List.reverse_append, List.reverse_cons, order]
      simp
    · have slash : "/".toList = ['/'] := rfl
      rw [String.toList_append, Text.toList_join, slash]
      congr 1
      · cases p.isAbsolute <;> rfl
      · simp [Function.comp_def]

section Start

variable {p q : Path} {kept rest : List (List Char)} (cut : parts p.body = kept ++ rest)
  (text : q.text.toList = (if p.isAbsolute then ['/'] else []) ++ ['/'].intercalate kept)

include cut text

theorem prefix_of_parts (others : rest ≠ []) : q.text.toList <+: p.text.toList := by
  have whole : ['/'].intercalate (kept ++ rest) = p.body := by
    rw [← cut]
    exact Text.intercalate_pieces '/' p.body
  rw [text, toList_text p, ← whole]
  refine (List.prefix_append_right_inj _).mpr ?_
  cases kept with
  | nil => simp [List.intercalate_nil]
  | cons first more =>
    rw [Text.intercalate_append _ (by simp) others]
    exact List.prefix_append _ _

theorem isAbsolute_of_parts (others : rest ≠ []) : q.isAbsolute = p.isAbsolute := by
  cases own : p.isAbsolute with
  | true =>
    rw [own] at text
    simp [isAbsolute, text]
  | false =>
    refine Bool.eq_false_iff.mpr fun root => ?_
    have head : q.text.toList.head? = some '/' := by simpa [isAbsolute] using root
    obtain ⟨tail, chars⟩ := List.head?_eq_some_iff.mp head
    obtain ⟨more, longer⟩ := prefix_of_parts cut text others
    rw [isAbsolute, ← longer, chars] at own
    cases own

theorem hops_of_parts : FileTree.hops q = kept.filter (!·.isEmpty) := by
  have free : ∀ part ∈ kept, ∀ c ∈ part, (c == '/') = false := fun part member =>
    Text.pieces_free (p := (· == '/')) (s := p.body) (by
      change part ∈ parts p.body
      simp [cut, member])
  have own : Text.fields (· == '/') (['/'].intercalate kept) = kept.filter (!·.isEmpty) := by
    cases kept with
    | nil => rfl
    | cons first more => rw [Text.fields, Text.pieces_intercalate_free rfl (by simp) free]
  rw [FileTree.hops, text]
  split
  · rw [List.singleton_append, Text.fields_cons_separator rfl, own]
  · exact own

end Start

theorem parent?_starts {p q : Path} (parent : p.parent? = some q) : q.Starts p := by
  obtain ⟨kept, last, rest, inside, full, cut, text⟩ := parent?_parts parent
  have others : rest ≠ [] := List.ne_nil_of_mem inside
  refine ⟨isAbsolute_of_parts cut text others, ⟨rest.filter (!·.isEmpty), ?_, ?_⟩,
    prefix_of_parts cut text others⟩
  · exact List.ne_nil_of_mem (List.mem_filter.mpr ⟨inside, by simpa using full⟩)
  · rw [hops_eq, hops_of_parts cut text, ← List.filter_append, ← cut]
    rfl

theorem steps_of_empty {p : Path} (nothing : p.text = "") : p.steps = [] := by
  simp [steps, nothing, parts, Text.pieces, stepOf?]

end Path
end HazardJob
