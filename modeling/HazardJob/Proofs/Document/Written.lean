import HazardJob.Proofs.Document.Flatten
import HazardJob.Proofs.Document.Line

/-! Documents that are written and read back. Every entry takes one line for the first line of its
value and an indented one for each line after it; reading the lines in turn puts the entry together
again, but for the lines that read as blank or as comments. -/
namespace HazardJob

namespace Text

/-- A line without a carriage return at its end. -/
def dropReturn (line : List Char) : List Char :=
  if line.getLast? == some '\r' then line.dropLast else line

theorem lines_go_cons (part : List Char) {more : List (List Char)} (some : more ≠ []) :
    lines.go (part :: more) = dropReturn part :: lines.go more := by
  rw [lines.go]
  · rfl
  · simpa using some

/-- Lines with line feeds between them and one at the end are the lines of the text. -/
theorem lines_go (parts : List (List Char)) : lines.go (parts ++ [[]]) = parts.map dropReturn := by
  induction parts with
  | nil => rfl
  | cons part more ih => rw [List.cons_append, lines_go_cons part (by simp), ih, List.map_cons]

theorem dropReturn_append {w : List Char} (last : w.getLast? ≠ some '\r') (l : List Char) :
    dropReturn (w ++ l) = w ++ dropReturn l := by
  cases l with
  | nil => simp [dropReturn, last]
  | cons c l =>
    unfold dropReturn
    rw [List.getLast?_append_of_ne_nil w (by simp)]
    split
    · rw [List.dropLast_append_of_ne_nil (by simp)]
    · rfl

theorem dropReturn_bare {l : List Char} (bare : Bare isBlank l) : dropReturn l = l := by
  have last : l.getLast? ≠ some '\r' := fun ending => by cases bare.last '\r' ending
  simp [dropReturn, last]

/-- A carriage return at the end makes no difference to what is left after trimming. -/
theorem trim_dropReturn (s : List Char) : trim (dropReturn s) = trim s := by
  unfold dropReturn
  split
  · rename_i last
    have ending := List.dropLast_append_getLast? '\r' (beq_iff_eq.mp last)
    conv_rhs => rw [← ending]
    exact (trim_append_singleton rfl _).symm
  · rfl

end Text

namespace Document

open Reading

/-- A small letter, a digit or an underscore. -/
def isPlainKeyChar (c : Char) : Bool := c.isLower || c.isDigit || c == '_'

/-- A key in the form in which keys are read. -/
structure PlainKey (key : String) : Prop where
  inhabited : key.toList ≠ []
  plain : ∀ c ∈ key.toList, isPlainKeyChar c = true

instance (key : String) : Decidable (PlainKey key) :=
  decidable_of_iff (key.toList ≠ [] ∧ key.toList.all isPlainKeyChar = true) (by
    rw [List.all_eq_true]
    exact ⟨fun both => ⟨both.1, both.2⟩, fun plain => ⟨plain.inhabited, plain.plain⟩⟩)

/-- The lines of a value. -/
def valueLines (value : String) : List (List Char) := Text.pieces (· == '\n') value.toList

/-- A value has a first line, and its lines make it up. -/
theorem exists_valueLines (value : String) : ∃ first more, valueLines value = first :: more ∧
    ['\n'].intercalate (first :: more) = value.toList := by
  obtain ⟨first, more, cut⟩ := List.exists_cons_of_ne_nil (Text.pieces_ne_nil value.toList)
  refine ⟨first, more, cut, ?_⟩
  rw [← cut]
  exact Text.intercalate_pieces '\n' value.toList

/-- A line that stays a continuation when it is indented. -/
def Continues (line : List Char) : Prop := ∃ c ∈ line.head?, c ≠ '#' ∧ c ≠ ';'

instance (line : List Char) : Decidable (Continues line) :=
  decidable_of_iff (line.head?.any (fun c => c != '#' && c != ';') = true) (by
    rw [Option.any_eq_true]
    simp [Continues])

/-- Neither the value nor a line of it has white space at its ends, and every line after the first
continues it. -/
structure PlainValue (value : String) : Prop where
  whole : Text.Bare Text.isBlank value.toList
  bare : ∀ line ∈ valueLines value, Text.Bare Text.isBlank line
  continues : ∀ line ∈ (valueLines value).tail, Continues line

section Keys

theorem isPlainKeyChar_bounds {c : Char} (plain : isPlainKeyChar c = true) :
    97 ≤ c.toNat ∧ c.toNat ≤ 122 ∨ 48 ≤ c.toNat ∧ c.toNat ≤ 57 ∨ c.toNat = 95 := by
  simp only [isPlainKeyChar, Bool.or_eq_true, beq_iff_eq] at plain
  rcases plain with (small | digit) | rfl
  · simp only [Char.isLower, Bool.and_eq_true, decide_eq_true_eq] at small
    exact .inl small
  · have bounds : 48 ≤ c.toNat ∧ c.toNat ≤ 57 := Char.isDigit_iff_toNat.mp digit
    exact .inr (.inl bounds)
  · exact .inr (.inr rfl)

theorem isKeyChar_of_plain {c : Char} (plain : isPlainKeyChar c = true) : isKeyChar c = true := by
  have bounds := isPlainKeyChar_bounds plain
  have ascii : c.toNat < 0x80 := by omega
  simp only [isPlainKeyChar, Bool.or_eq_true] at plain
  simp only [isKeyChar, Text.isAlphanumeric, ascii, if_true, Char.isAlphanum, Char.isAlpha,
    Bool.or_eq_true]
  tauto

theorem small_of_plain {c : Char} (plain : isPlainKeyChar c = true) : Text.Small c := by
  have bounds := isPlainKeyChar_bounds plain
  have ascii : c.toNat < 0x80 := by omega
  constructor
  · have kept : c.toLower = c := by
      unfold Char.toLower
      rw [dif_neg]
      rintro ⟨low, high⟩
      have first : 65 ≤ c.toNat := low
      have last : c.toNat ≤ 90 := high
      omega
    simp only [Text.lowerChar, ascii, if_true, kept]
  · omega

theorem PlainKey.settled {key : String} (plain : PlainKey key) : SettledKey key :=
  ⟨plain.inhabited, fun c member => isKeyChar_of_plain (plain.plain c member),
    fun c member => small_of_plain (plain.plain c member)⟩

end Keys

section Values

/-- A value with the line after it that `l` makes when it is indented. -/
def addLine (value : String) (l : List Char) : String :=
  match indented l with
  | .continuation more => Progress.continueValue value more
  | _ => value

/-- What is read of a value that was written. -/
def reread (value : String) : String :=
  ((valueLines value).tail.map Text.dropReturn).foldl addLine
    (String.ofList (Text.trim ((valueLines value).headD [])))

/-- A value as it comes out of reading: no line has white space at its ends, and further lines need a
first one. -/
structure ReadValue (value : String) : Prop where
  bare : ∀ line ∈ valueLines value, Text.Bare Text.isBlank line
  started : (valueLines value).tail ≠ [] → (valueLines value).headD [] ≠ []

section Bare

variable {l : List Char} (bare : Text.Bare Text.isBlank l)

include bare

theorem dropWhile_isIndent_of_bare : l.dropWhile Text.isIndent = l :=
  Text.dropWhile_of_head fun c first => Text.isIndent_of_not_isBlank (bare.head c first)

theorem addLine_continues {value : String} (full : value ≠ "") (continues : Continues l) :
    addLine value l = value ++ "\n" ++ String.ofList l := by
  obtain ⟨c, head, plain⟩ := continues
  obtain ⟨tail, rfl⟩ := List.head?_eq_some_iff.mp head
  have other : ¬(c = '#' ∨ c = ';') := by tauto
  have trimmed : Text.trim (c :: tail) = c :: tail := bare.trimBy
  simp only [addLine, indented, dropWhile_isIndent_of_bare bare, other, if_false, trimmed]
  simp [Progress.continueValue, full]

theorem addLine_other {value : String} (other : ¬Continues l) : addLine value l = value := by
  cases l with
  | nil => rfl
  | cons c tail =>
    have sign : c = '#' ∨ c = ';' := by
      by_contra plain
      rw [not_or] at plain
      exact other ⟨c, rfl, plain⟩
    simp only [addLine, indented, dropWhile_isIndent_of_bare bare, sign, if_true]

end Bare

/-- The lines that continue a value are put back between line feeds. -/
theorem foldl_addLine {first : List Char} {more : List (List Char)}
    (started : more ≠ [] → first ≠ []) (bare : ∀ l ∈ more, Text.Bare Text.isBlank l) :
    more.foldl addLine (String.ofList first) =
      String.ofList (['\n'].intercalate (first :: more.filter (Continues ·))) := by
  induction more generalizing first with
  | nil => rw [List.filter_nil, List.intercalate_singleton]; rfl
  | cons l more ih =>
    have full : first ≠ [] := started (by simp)
    have some : String.ofList first ≠ "" := by simpa using full
    have own := bare l List.mem_cons_self
    have others := fun other member => bare other (List.mem_cons_of_mem l member)
    rw [List.foldl_cons]
    by_cases continues : Continues l
    · have grown : String.ofList first ++ "\n" ++ String.ofList l =
          String.ofList (first ++ '\n' :: l) := by
        have feed : "\n".toList = ['\n'] := rfl
        simp [← String.toList_inj, feed]
      rw [addLine_continues own some continues, grown, ih (fun _ => by simp) others,
        List.filter_cons_of_pos (by simpa using continues), List.intercalate_cons_cons,
        List.append_cons, Text.intercalate_append_head]
    · rw [addLine_other own continues, ih (fun _ => full) others,
        List.filter_cons_of_neg (by simpa using continues)]

theorem ReadValue.reread {value : String} (read : ReadValue value) {first : List Char}
    {more : List (List Char)} (cut : valueLines value = first :: more) :
    reread value = String.ofList (['\n'].intercalate (first :: more.filter (Continues ·))) := by
  obtain ⟨bare, started⟩ := read
  rw [cut] at bare started
  have kept : more.map Text.dropReturn = more := by
    conv_rhs => rw [← List.map_id more]
    exact List.map_congr_left fun l member =>
      Text.dropReturn_bare (bare l (List.mem_cons_of_mem _ member))
  have trimmed : Text.trim first = first := (bare first List.mem_cons_self).trimBy
  simp only [Document.reread, cut, List.tail_cons, List.headD_cons, kept, trimmed]
  exact foldl_addLine started fun l member => bare l (List.mem_cons_of_mem _ member)

/-- A value is read back if and only if each of its lines after the first continues it. -/
theorem ReadValue.reread_iff {value : String} (read : ReadValue value) :
    Document.reread value = value ↔ ∀ l ∈ (valueLines value).tail, Continues l := by
  obtain ⟨first, more, cut, whole⟩ := exists_valueLines value
  rw [read.reread cut, cut, List.tail_cons]
  constructor
  · intro same
    have free : ∀ part ∈ first :: more.filter (Continues ·), ∀ c ∈ part, (c == '\n') = false := by
      intro part member
      refine Text.pieces_free (p := (· == '\n')) (s := value.toList) ?_
      change part ∈ valueLines value
      rw [cut]
      exact (List.cons_sublist_cons.mpr List.filter_sublist).subset member
    have lines := Text.pieces_intercalate_free (c := '\n') (p := (· == '\n')) rfl (by simp) free
    have text : ['\n'].intercalate (first :: more.filter (Continues ·)) = value.toList := by
      rw [← same, String.toList_ofList]
    rw [text] at lines
    have rest := (List.cons.inj (cut.symm.trans lines)).2
    intro l member
    simpa using List.filter_eq_self.mp rest.symm l member
  · intro continues
    rw [List.filter_eq_self.mpr fun l member => by simpa using continues l member, whole,
      String.ofList_toList]

theorem PlainValue.read {value : String} (plain : PlainValue value) : ReadValue value := by
  refine ⟨plain.bare, fun several nothing => ?_⟩
  obtain ⟨first, more, cut, text⟩ := exists_valueLines value
  rw [cut] at several nothing
  obtain ⟨next, more, rfl⟩ := List.exists_cons_of_ne_nil several
  have empty : first = [] := nothing
  rw [List.intercalate_cons_cons, empty] at text
  have feed := plain.whole.head '\n' (by simp [← text])
  cases feed

end Values

section Entries

/-- What the lines of a value after the first are indented by. -/
def indentation : List Char := [' ', ' ', ' ', ' ']

/-- The lines of an entry, as they are read. -/
def entryLines (e : String × String) : List (List Char) :=
  (Text.pieces (· == '\n') (entryText e.1 e.2).toList).map Text.dropReturn

/-- The lines of an entry: its key with the first line of its value, and the others indented. -/
theorem pieces_entryText {key value : String} (lowered : LoweredKey key) {first : List Char}
    {more : List (List Char)} (cut : valueLines value = first :: more) :
    ∃ s, (s = first ∨ s = ' ' :: first) ∧
      Text.pieces (· == '\n') (entryText key value).toList =
        (key.toList ++ ' ' :: '=' :: s) :: more.map (indentation ++ ·) := by
  have free := lowered.free
  have valueFree : ∀ part ∈ first :: more, ∀ c ∈ part, (c == '\n') = false := fun part member =>
    Text.pieces_free (cut ▸ member)
  unfold entryText
  split
  · rename_i empty
    have nothing : value.toList = [] := by simpa using empty
    rw [valueLines, nothing] at cut
    obtain ⟨rfl, rfl⟩ := List.cons.inj cut
    refine ⟨[], .inl rfl, ?_⟩
    have sign : " =".toList = [' ', '='] := rfl
    rw [String.toList_append, List.map_nil, sign]
    refine Text.pieces_of_free fun c member => ?_
    simp only [List.mem_append, List.mem_cons, List.not_mem_nil, or_false] at member
    rcases member with inKey | rfl | rfl
    · exact free c inKey
    · rfl
    · rfl
  · refine ⟨' ' :: first, .inr rfl, ?_⟩
    have sign : " = ".toList = [' ', '=', ' '] := rfl
    have separator : "\n    ".toList = '\n' :: indentation := rfl
    have joined : (key ++ " = " ++ Text.join "\n    " ((valueLines value).map String.ofList)).toList =
        ('\n' :: indentation).intercalate ((key.toList ++ ' ' :: '=' :: ' ' :: first) :: more) := by
      rw [cut, String.toList_append, String.toList_append, Text.toList_join, sign, separator,
        List.map_map, List.append_assoc]
      simp only [Function.comp_def, String.toList_ofList, List.map_id']
      rw [show key.toList ++ ' ' :: '=' :: ' ' :: first = (key.toList ++ [' ', '=', ' ']) ++ first by
        simp, Text.intercalate_append_head, List.append_assoc]
    rw [valueLines] at joined
    rw [joined]
    refine Text.pieces_intercalate rfl ?_ fun part member c inPart => ?_
    · simp [indentation]
    · rcases List.mem_cons.mp member with rfl | later
      · simp only [List.mem_append, List.mem_cons] at inPart
        rcases inPart with inKey | rfl | rfl | rfl | inFirst
        · exact free c inKey
        · rfl
        · rfl
        · rfl
        · exact valueFree first List.mem_cons_self c inFirst
      · exact valueFree part (List.mem_cons_of_mem _ later) c inPart

/-- An entry starts with its key and the first line of its value; the other lines are indented. -/
theorem entryLines_eq {e : String × String} (lowered : LoweredKey e.1) :
    ∃ s, Text.trim s = Text.trim ((valueLines e.2).headD []) ∧
      entryLines e = (e.1.toList ++ ' ' :: '=' :: s) ::
        ((valueLines e.2).tail.map Text.dropReturn).map (indentation ++ ·) := by
  obtain ⟨first, more, cut, -⟩ := exists_valueLines e.2
  obtain ⟨s, starts, pieces⟩ := pieces_entryText lowered cut
  refine ⟨Text.dropReturn s, ?_, ?_⟩
  · rw [Text.trim_dropReturn, cut, List.headD_cons]
    rcases starts with rfl | rfl
    · rfl
    · exact Text.trim_cons_blank rfl first
  · have named : Text.dropReturn (e.1.toList ++ ' ' :: '=' :: s) =
        e.1.toList ++ ' ' :: '=' :: Text.dropReturn s := by
      rw [show e.1.toList ++ ' ' :: '=' :: s = (e.1.toList ++ [' ', '=']) ++ s by simp,
        Text.dropReturn_append (by simp)]
      simp
    have spaced (l : List Char) :
        Text.dropReturn (indentation ++ l) = indentation ++ Text.dropReturn l :=
      Text.dropReturn_append (by decide) l
    simp only [entryLines, pieces, cut, List.map_cons, List.tail_cons, List.map_map, named,
      Function.comp_def, spaced]

theorem readLines_cons {p q : Progress} {raw : List Char} {l : Line} (read : readAll line raw = .ok l)
    (added : p.add? l = some q) (number : Nat) (rest : List (List Char)) :
    readLines p number (raw :: rest) = readLines q (number + 1) rest := by
  simp only [readLines, read, added]

/-- An indented line changes nothing but the value of the entry before it. -/
theorem add?_indented (complete : List Section) (name : String) (before : List (String × String))
    (key value : String) (l : List Char) :
    Progress.add? ⟨complete, name, before ++ [(key, value)]⟩ (indented l) =
      some ⟨complete, name, before ++ [(key, addLine value l)]⟩ := by
  unfold addLine indented
  split
  · rfl
  · split
    · rfl
    · simp [Progress.add?]

theorem readLines_indented (complete : List Section) (name : String)
    (before : List (String × String)) (key value : String) (more : List (List Char)) (number : Nat)
    (rest : List (List Char)) :
    ∃ later, readLines ⟨complete, name, before ++ [(key, value)]⟩ number
        (more.map (indentation ++ ·) ++ rest) =
      readLines ⟨complete, name, before ++ [(key, more.foldl addLine value)]⟩ later rest := by
  induction more generalizing value number with
  | nil => exact ⟨number, rfl⟩
  | cons l more ih =>
    have read : readAll line (indentation ++ l) = .ok (indented l) :=
      line_indented (by simp [indentation]) (by simp [indentation, Text.isIndent]) l
    obtain ⟨later, others⟩ := ih (addLine value l) (number + 1)
    refine ⟨later, ?_⟩
    rw [List.map_cons, List.cons_append,
      readLines_cons read (add?_indented complete name before key value l), others, List.foldl_cons]

/-- An entry as it is read back. -/
def rereadEntry (e : String × String) : String × String := (e.1, reread e.2)

/-- The lines of an entry put it behind the entries before it. -/
theorem readLines_entry {e : String × String} (settled : SettledKey e.1) (p : Progress) (number : Nat)
    (rest : List (List Char)) :
    ∃ later, readLines p number (entryLines e ++ rest) =
      readLines { p with entries := p.entries ++ [rereadEntry e] } later rest := by
  obtain ⟨s, trimmed, lines⟩ := entryLines_eq settled.lowered
  obtain ⟨later, others⟩ := readLines_indented p.complete p.name p.entries e.1
    (String.ofList (Text.trim s)) ((valueLines e.2).tail.map Text.dropReturn) (number + 1) rest
  refine ⟨later, ?_⟩
  rw [lines, List.cons_append, readLines_cons (line_entry settled s) rfl, others, trimmed]
  rfl

theorem readLines_entries {entries : List (String × String)}
    (settled : ∀ e ∈ entries, SettledKey e.1) (p : Progress) (number : Nat)
    (rest : List (List Char)) :
    ∃ later, readLines p number (entries.flatMap entryLines ++ rest) =
      readLines { p with entries := p.entries ++ entries.map rereadEntry } later rest := by
  induction entries generalizing p number with
  | nil => exact ⟨number, by rw [List.map_nil, List.append_nil]; rfl⟩
  | cons e more ih =>
    rw [List.flatMap_cons, List.append_assoc]
    obtain ⟨next, here⟩ := readLines_entry (settled e List.mem_cons_self) p number
      (more.flatMap entryLines ++ rest)
    obtain ⟨later, others⟩ := ih (fun f member => settled f (List.mem_cons_of_mem _ member))
      { p with entries := p.entries ++ [rereadEntry e] } next
    refine ⟨later, ?_⟩
    rw [here, others, List.append_assoc, List.singleton_append, List.map_cons]

/-- The lines of a document: its header, and those of its entries. -/
theorem lines_write (entries : List (String × String)) :
    Text.lines (write entries).toList =
      ("[" ++ generalName ++ "]").toList :: entries.flatMap entryLines := by
  have feed : "\n".toList = ['\n'] := rfl
  have header : Text.pieces (· == '\n') ("[" ++ generalName ++ "]").toList =
      [("[" ++ generalName ++ "]").toList] := rfl
  have cut : Text.pieces (· == '\n') (write entries).toList =
      (("[" ++ generalName ++ "]").toList ::
        entries.flatMap fun e => Text.pieces (· == '\n') (entryText e.1 e.2).toList) ++ [[]] := by
    rw [write, Text.toList_join, feed, Text.pieces_join rfl (by simp)]
    simp only [List.cons_append, List.map_cons, List.map_append, List.map_map, List.flatMap_cons,
      List.flatMap_append, header, List.flatMap_map, Function.comp_def]
    rfl
  rw [Text.lines, cut, Text.lines_go, List.map_cons, List.map_flatMap]
  rfl

/-- The lines of a document after its header are read into one section. -/
theorem ofText_write_eq (entries : List (String × String)) :
    ofText (write entries) = readLines ⟨[], generalName, []⟩ 2 (entries.flatMap entryLines) := by
  have header : readAll line ("[" ++ generalName ++ "]").toList = .ok (.header generalName) := rfl
  rw [ofText, lines_write, readLines_cons header rfl]
  rfl

/-- Entries with settled keys are read back from the document that they are written to, each with what
its value is reread as. -/
theorem ofText_write_settled {entries : List (String × String)}
    (settled : ∀ e ∈ entries, SettledKey e.1) :
    ofText (write entries) =
      .ok ⟨Progress.close ⟨[], generalName, entries.map rereadEntry⟩⟩ := by
  obtain ⟨later, read⟩ := readLines_entries settled ⟨[], generalName, []⟩ 2 []
  rw [List.append_nil] at read
  rw [ofText_write_eq, read]
  rfl

/-- An entry that is read back from its text. -/
structure PlainEntry (e : String × String) : Prop where
  key : PlainKey e.1
  value : PlainValue e.2

/-- Plain entries are read back from the document that they are written to. -/
theorem ofText_write {entries : List (String × String)} (plain : ∀ e ∈ entries, PlainEntry e) :
    ofText (write entries) = .ok ⟨Progress.close ⟨[], generalName, entries⟩⟩ := by
  have kept : entries.map rereadEntry = entries := by
    conv_rhs => rw [← List.map_id entries]
    refine List.map_congr_left fun e member => ?_
    obtain ⟨-, value⟩ := plain e member
    exact Prod.ext rfl (value.read.reread_iff.mpr value.continues)
  rw [ofText_write_settled fun e member => (plain e member).key.settled, kept]

end Entries

section Flatten

theorem entries_close (entries : List (String × String)) :
    (Document.mk (Progress.close ⟨[], generalName, entries⟩)).entries = entries := by
  cases entries with
  | nil => rfl
  | cons e more => simp [Progress.close, Document.entries]

/-- Entries with distinct keys are what their document is flattened to, without a warning. -/
theorem flatten_close {entries : List (String × String)} (distinct : (entries.map (·.1)).Nodup) :
    (Document.mk (Progress.close ⟨[], generalName, entries⟩)).flatten =
      (SortedMap.ofList entries, []) := by
  rw [flatten_of_nodup (by rwa [entries_close]), entries_close]

end Flatten
end Document
end HazardJob
