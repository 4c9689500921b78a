import SqlAdapter.Dialect
import SqlAdapter.Proofs.Text.Trimmed

/-!
# Reported column types

The datatype behind a column type that a database reports is that of its first word. It does not depend on
the case of the letters, so a column that was made for a datatype is known again, whatever the case in which
its type is reported. Main statement: neither does it depend on white space and a size around the word, but
for white space other than a space between the word and a size, which is taken for a part of the word.
-/

set_option autoImplicit false

namespace SqlAdapter

namespace Datatype

variable {s t : String}

theorem reportedWord_congr (h : Text.sameIgnoringCase s t) : reportedWord s = reportedWord t := by
  have hfold : Text.fold s = Text.fold t := Text.sameIgnoringCase_iff.1 h
  rw [reportedWord, reportedWord, Text.map_toLower_trim, Text.map_toLower_trim, hfold]

theorem ofReported?_congr (h : Text.sameIgnoringCase s t) : ofReported? s = ofReported? t := by
  rw [ofReported?, ofReported?, reportedWord_congr h]

/-! ## What stands around the word -/

/-- What can stand around the word of a type: white space in front of it, behind it and at the end, and a
size. -/
structure Decoration where
  front : List Char
  gap : List Char
  /-- Nothing, or an opening parenthesis and whatever follows it. -/
  size : List Char
  back : List Char
  front_blank : Text.Blank front
  gap_blank : Text.Blank gap
  back_blank : Text.Blank back
  size_opens : size = [] ∨ size.head? = some '('

namespace Decoration

/-- The type with the word and all that stands around it. -/
def around (deco : Decoration) (word : String) : String :=
  String.ofList (deco.front ++ word.toList ++ deco.gap ++ deco.size ++ deco.back)

/-- Between the word and a size there is white space that begins with something else than a space. -/
def Clings (deco : Decoration) : Prop := deco.size ≠ [] ∧ ∃ c ∈ deco.gap.head?, c ≠ ' '

end Decoration

/-- The characters that do not end a word. -/
def inWord (c : Char) : Bool := c ≠ '(' && c ≠ ' '

theorem inWord_iff {c : Char} : inWord c = true ↔ c ≠ '(' ∧ c ≠ ' ' := by
  simp [inWord]

theorem inWord_toLower (c : Char) : inWord c.toLower = inWord c := by
  have hparenthesis : c.toLower = '(' ↔ c = '(' := Text.toLower_eq_iff (by decide)
  have hspace : c.toLower = ' ' ↔ c = ' ' := Text.toLower_eq_iff (by decide)
  simp only [inWord, ne_eq, hparenthesis, hspace]

/-- The word of a type can be taken before its case is ignored. -/
theorem reportedWord_eq (s : String) :
    reportedWord s = ((Text.trim s.toList).takeWhile inWord).map Char.toLower := by
  have hcomp : inWord ∘ Char.toLower = inWord := funext inWord_toLower
  show ((Text.trim s.toList).map Char.toLower).takeWhile inWord = _
  rw [List.takeWhile_map, hcomp]

theorem takeWhile_inWord_append {c : Char} (hc : inWord c = false) (s t : List Char) :
    (s ++ c :: t).takeWhile inWord = s.takeWhile inWord := by
  induction s with
  | nil => exact List.takeWhile_cons_of_neg (Bool.eq_false_iff.1 hc)
  | cons a s ih => rw [List.cons_append, List.takeWhile_cons, List.takeWhile_cons, ih]

theorem ofReported?_of_blank {c : Char} (hc : c ∈ reportedWord s) (hblank : Text.isBlank c = true) :
    ofReported? s = none := by
  have hsolid : ∀ w ∈ reportedWords, Text.Solid w.1.toList := by decide +kernel
  rw [ofReported?, Option.map_eq_none_iff, List.find?_eq_none]
  intro w hw heq
  rw [← of_decide_eq_true heq] at hc
  rw [hsolid w hw c hc] at hblank
  cases hblank

section Around

variable {deco : Decoration} {w : String}

/-- In front of a size, the word is read together with the white space behind it. -/
theorem reportedWord_sized (hsize : deco.size ≠ []) : reportedWord (deco.around w) =
    (((w.toList ++ deco.gap).dropWhile Text.isBlank).takeWhile inWord).map Char.toLower := by
  obtain ⟨rest, hrest⟩ := List.head?_eq_some_iff.1 (deco.size_opens.resolve_left hsize)
  rw [reportedWord_eq, Decoration.around, String.toList_ofList, hrest, List.append_assoc,
    List.append_assoc, List.append_assoc, Text.trim_append_left deco.front_blank, List.cons_append,
    ← List.append_assoc, Text.trim_append_cons (by decide), takeWhile_inWord_append rfl]

theorem reportedWord_unsized (hsize : deco.size = []) :
    reportedWord (deco.around w) = reportedWord w := by
  have hpadded : Text.Padded w.toList (deco.around w).toList := by
    refine ⟨deco.front, deco.gap ++ deco.back, ?_, deco.front_blank, ?_⟩
    · rw [Decoration.around, String.toList_ofList, hsize, List.append_nil]
      simp only [List.append_assoc]
    · exact List.forall_mem_append.2 ⟨deco.gap_blank, deco.back_blank⟩
  rw [reportedWord_eq, reportedWord_eq, hpadded.trim_eq]

theorem reportedWord_sized_nil (hsize : deco.size ≠ []) (hempty : w.toList = []) :
    reportedWord (deco.around w) = [] := by
  rw [reportedWord_sized hsize, hempty, List.nil_append, List.dropWhile_eq_nil_iff.2 deco.gap_blank]
  rfl

variable (hw : Text.Solid w.toList) (hparenthesis : '(' ∉ w.toList)
include hw hparenthesis

theorem inWord_of_mem {c : Char} (hc : c ∈ w.toList) : inWord c = true := by
  rw [inWord_iff]
  constructor
  · rintro rfl
    exact hparenthesis hc
  · rintro rfl
    exact absurd (hw ' ' hc) (by decide)

theorem reportedWord_of_solid : reportedWord w = w.toList.map Char.toLower := by
  rw [reportedWord_eq, Text.trim_of_solid hw,
    List.takeWhile_eq_self_iff.2 fun c hc => inWord_of_mem hw hparenthesis hc]

theorem reportedWord_sized_cons (hsize : deco.size ≠ []) (hne : w.toList ≠ []) :
    reportedWord (deco.around w) = (w.toList ++ deco.gap.takeWhile inWord).map Char.toLower := by
  have hfront : (w.toList ++ deco.gap).dropWhile Text.isBlank = w.toList ++ deco.gap := by
    obtain ⟨c, rest, hchars⟩ := List.exists_cons_of_ne_nil hne
    rw [hchars] at hw ⊢
    exact List.dropWhile_cons_of_neg (Bool.eq_false_iff.1 (hw c List.mem_cons_self))
  rw [reportedWord_sized hsize, hfront, List.takeWhile_append_of_pos fun c hc => inWord_of_mem hw hparenthesis hc]

theorem reportedWord_around (h : ¬deco.Clings) : reportedWord (deco.around w) = reportedWord w := by
  by_cases hsize : deco.size = []
  · exact reportedWord_unsized hsize
  · rw [reportedWord_of_solid hw hparenthesis]
    by_cases hempty : w.toList = []
    · rw [reportedWord_sized_nil hsize hempty, hempty]
      rfl
    · have hgap : deco.gap.takeWhile inWord = [] := by
        cases hgap : deco.gap with
        | nil => rfl
        | cons b gap =>
          apply List.takeWhile_cons_of_neg
          intro hb
          exact h ⟨hsize, b, by rw [hgap]; rfl, (inWord_iff.1 hb).2⟩
      rw [reportedWord_sized_cons hw hparenthesis hsize hempty, hgap, List.append_nil]

/-- White space that clings to a word makes it unknown. -/
theorem ofReported?_around_of_clings (h : deco.Clings) : ofReported? (deco.around w) = none := by
  obtain ⟨hsize, b, hb, hspace⟩ := h
  by_cases hempty : w.toList = []
  · rw [ofReported?, reportedWord_sized_nil hsize hempty]
    rfl
  · have hblank : Text.isBlank b = true := deco.gap_blank b (List.mem_of_mem_head? hb)
    have hopens : b ≠ '(' := by
      rintro rfl
      exact absurd hblank (by decide)
    have hread : b ∈ deco.gap.takeWhile inWord := by
      obtain ⟨gap, hgap⟩ := List.head?_eq_some_iff.1 hb
      rw [hgap, List.takeWhile_cons_of_pos (inWord_iff.2 ⟨hopens, hspace⟩)]
      exact List.mem_cons_self
    apply ofReported?_of_blank (c := b.toLower)
    · rw [reportedWord_sized_cons hw hparenthesis hsize hempty]
      exact List.mem_map_of_mem (List.mem_append_right _ hread)
    · rw [Text.isBlank_toLower, hblank]

end Around

end Datatype

namespace Dialect

variable {d : Dialect} {s t : String}

/-- The datatype that is read off a column which was made for a datatype. -/
def readBack (d : Dialect) : Datatype → Datatype
  | .string | .identifier | .object => .string
  | .number => .number
  | .boolean => if d = mysql then .boolean else .number
  | .date => .date
  | .time | .datetime => .datetime

theorem reverseType?_congr (h : Text.sameIgnoringCase s t) : d.reverseType? s = d.reverseType? t := by
  have hfold : Text.fold s = Text.fold t := Text.sameIgnoringCase_iff.1 h
  rw [reverseType?, reverseType?, Text.map_toLower_trim, Text.map_toLower_trim, hfold,
    Datatype.ofReported?_congr h]

theorem reverseType?_columnType (d : Dialect) (t : Datatype) :
    d.reverseType? t.columnType = some (d.readBack t) := by
  cases d <;> cases t <;> decide +kernel

theorem reverseType?_keyType (d : Dialect) : d.reverseType? d.keyType = some .string := by
  cases d <;> decide +kernel

/-- The texts for which MySQL stands alone: the word of a one-digit integer, in any case, between white
space. -/
theorem reverseType?_mysql_iff {reported : String} :
    mysql.reverseType? reported = Datatype.ofReported? reported ↔
      ¬∃ core, Text.Padded core reported.toList ∧ core.map Char.toLower = "tinyint(1)".toList := by
  rw [← Text.map_toLower_trim_eq_iff (by decide +kernel)]
  constructor
  · intro h hflag
    have hword : Datatype.reportedWord reported = "tinyint".toList := by
      rw [Datatype.reportedWord, hflag]
      decide +kernel
    rw [reverseType?, if_pos ⟨rfl, hflag⟩, Datatype.ofReported?, hword] at h
    exact absurd h (by decide +kernel)
  · intro h
    rw [reverseType?, if_neg fun hflag => h hflag.2]

/-- Around a word without white space and parentheses, neither white space nor a size matters, nor does the
case of its letters, unless white space that does not begin with a space stands in front of a size: then
the type is unknown. Only MySQL knows one type more, and it is its only difference from the others. -/
theorem reverseType?_reads_word (reported : String) :
    (∀ (word : String) (deco : Datatype.Decoration),
      Text.Solid word.toList → '(' ∉ word.toList → ')' ∉ word.toList →
      Text.sameIgnoringCase reported (deco.around word) →
      (Datatype.ofReported? reported = Datatype.ofReported? word ↔
        ¬deco.Clings ∨ Datatype.ofReported? word = none) ∧
      (deco.Clings → Datatype.ofReported? reported = none)) ∧
    (∀ d, d ≠ mysql → d.reverseType? reported = Datatype.ofReported? reported) ∧
    (mysql.reverseType? reported = Datatype.ofReported? reported ↔
      ¬∃ core, Text.Padded core reported.toList ∧ core.map Char.toLower = "tinyint(1)".toList) ∧
    ∀ core, Text.Padded core reported.toList → core.map Char.toLower = "tinyint(1)".toList →
      mysql.reverseType? reported = some .boolean := by
  refine ⟨?_, ?_, reverseType?_mysql_iff, ?_⟩
  · intro word deco hsolid hopen _ hreported
    rw [Datatype.ofReported?_congr hreported]
    by_cases h : deco.Clings
    · rw [Datatype.ofReported?_around_of_clings hsolid hopen h]
      exact ⟨⟨fun hnone => .inr hnone.symm, fun hnone => (hnone.resolve_left (· h)).symm⟩, fun _ => rfl⟩
    · rw [Datatype.ofReported?, Datatype.reportedWord_around hsolid hopen h]
      exact ⟨iff_of_true rfl (.inl h), fun hclings => absurd hclings h⟩
  · intro d hd
    rw [reverseType?, if_neg fun h => hd h.1]
  · intro core hcore hflag
    have htrim := (Text.map_toLower_trim_eq_iff (by decide +kernel)).2 ⟨core, hcore, hflag⟩
    rw [reverseType?, if_pos ⟨rfl, htrim⟩]

/-- White space of three kinds around a word with a size; a tab alone in front of the size; and a boolean of
MySQL. -/
theorem reverseType?_reads_word_int :
    Datatype.ofReported? "\u00a0Int \t(10, 2)\n" = some .number ∧
      Datatype.ofReported? "int\t(11)" = none ∧
      mysql.reverseType? "\tTinyInt(1) " = some .boolean := by
  let loose : Datatype.Decoration :=
    ⟨['\u00a0'], [' ', '\t'], "(10, 2)".toList, ['\n'], by decide, by decide, by decide, by decide⟩
  let tight : Datatype.Decoration :=
    ⟨[], ['\t'], "(11)".toList, [], by decide, by decide, by decide, by decide⟩
  have hint := fun reported deco => (reverseType?_reads_word reported).1 "int" deco
    (by decide +kernel) (by decide +kernel) (by decide +kernel)
  have hloose : ¬loose.Clings := by
    rintro ⟨-, c, ⟨⟩, hc⟩
    exact hc rfl
  refine ⟨?_, ?_, ?_⟩
  · rw [(hint _ loose (by decide +kernel)).1.2 (.inl hloose)]
    decide +kernel
  · exact (hint _ tight (by decide +kernel)).2 ⟨by decide, '\t', rfl, by decide⟩
  · exact (reverseType?_reads_word _).2.2.2 "TinyInt(1)".toList
      ⟨['\t'], [' '], by decide +kernel, by decide, by decide⟩ (by decide +kernel)

/-- With a tab in front of its size, a word that is known alone is not. -/
theorem ofReported?_misses_tabbed_size :
    let tabbed : Datatype.Decoration :=
      ⟨[], ['\t'], "(11)".toList, [], by decide, by decide, by decide, by decide⟩
    Text.sameIgnoringCase "int\t(11)" (tabbed.around "int") ∧
      Datatype.ofReported? "int" = some .number ∧ Datatype.ofReported? "int\t(11)" = none := by
  intro tabbed
  exact ⟨by decide +kernel, by decide +kernel, by decide +kernel⟩

end Dialect

end SqlAdapter
