import Mathlib.Data.List.DropRight
import SqlAdapter.Text.Ascii
import SqlAdapter.Text.Blank

/-!
# White space and case

A text that is trimmed loses the white space at its two ends and nothing else, and a text that is put in
lower case changes in none of its white space. So texts can be trimmed before their case is ignored or
after. Main statement: what a trimmed text says in some case stands in the text between white space.
-/

set_option autoImplicit false

namespace SqlAdapter.Text

/-- The text is nothing but white space. -/
def Blank (s : List Char) : Prop := ∀ c ∈ s, isBlank c = true

/-- There is no white space in the text. -/
def Solid (s : List Char) : Prop := ∀ c ∈ s, isBlank c = false

instance (s : List Char) : Decidable (Blank s) :=
  decidable_of_iff (s.all isBlank = true) List.all_eq_true

instance (s : List Char) : Decidable (Solid s) :=
  decidable_of_iff (s.any isBlank = false) (by simp [Solid])

/-- The text has nothing but white space around a part of it. -/
def Padded (core s : List Char) : Prop :=
  ∃ before after, s = before ++ core ++ after ∧ Blank before ∧ Blank after

variable {c : Char} {s t core before after word : List Char}

/-! ## The case of letters -/

theorem isBlank_eq_false (hlow : 0x20 < c.toNat) (hhigh : c.toNat < 0x85) : isBlank c = false := by
  simp only [isBlank, blankRanges, List.any_cons, List.any_nil, Bool.or_false, Bool.or_eq_false_iff,
    Bool.and_eq_false_iff, decide_eq_false_iff_not]
  omega

theorem toLower_cases (c : Char) :
    c.toLower = c ∧ ¬(65 ≤ c.toNat ∧ c.toNat ≤ 90) ∨
      c.toLower.toNat = c.toNat + 32 ∧ 65 ≤ c.toNat ∧ c.toNat ≤ 90 := by
  unfold Char.toLower
  split
  · next hc =>
    have hlow : 65 ≤ c.toNat := hc.1
    have hhigh : c.toNat ≤ 90 := hc.2
    right
    refine ⟨?_, hlow, hhigh⟩
    show (c.val + ('a'.val - 'A'.val)).toNat = c.toNat + 32
    rw [UInt32.toNat_add]
    show (c.toNat + 32) % 4294967296 = _
    omega
  · next hc =>
    left
    exact ⟨rfl, hc⟩

theorem toLower_toLower (c : Char) : c.toLower.toLower = c.toLower := by
  rcases toLower_cases c.toLower with ⟨h, -⟩ | ⟨-, hlow, hhigh⟩
  · exact h
  · -- a letter in upper case is not what became of another character
    rcases toLower_cases c with ⟨h, hc⟩ | ⟨h, hc, -⟩
    · rw [h] at hlow hhigh
      exact absurd ⟨hlow, hhigh⟩ hc
    · omega

/-- The text with the letters A to Z in lower case. -/
def lower (s : String) : String := String.ofList (fold s)

theorem sameIgnoringCase_lower (s : String) : sameIgnoringCase (lower s) s := by
  have htwice : Char.toLower ∘ Char.toLower = Char.toLower := funext toLower_toLower
  rw [sameIgnoringCase_iff, lower, fold, String.toList_ofList, fold, List.map_map, htwice]

theorem isBlank_toLower (c : Char) : isBlank c.toLower = isBlank c := by
  rcases toLower_cases c with ⟨h, -⟩ | ⟨h, hlow, hhigh⟩
  · rw [h]
  · rw [isBlank_eq_false (c := c) (by omega) (by omega), isBlank_eq_false (by omega) (by omega)]

theorem toLower_eq_iff {d : Char} (h : d.toNat < 65) : c.toLower = d ↔ c = d := by
  constructor
  · rintro rfl
    rcases toLower_cases c with ⟨hc, -⟩ | ⟨hc, hlow, -⟩
    · exact hc.symm
    · omega
  · rintro rfl
    rcases toLower_cases c with ⟨hc, -⟩ | ⟨-, hlow, -⟩
    · exact hc
    · omega

theorem trim_map {g : Char → Char} (h : ∀ c, isBlank (g c) = isBlank c) (s : List Char) :
    trim (s.map g) = (trim s).map g := by
  have hcomp : isBlank ∘ g = isBlank := funext h
  rw [trim, trim, List.dropWhile_map, hcomp, ← List.map_reverse, List.dropWhile_map, hcomp,
    List.map_reverse]

theorem map_toLower_trim (s : String) : (trim s.toList).map Char.toLower = trim (fold s) :=
  (trim_map isBlank_toLower s.toList).symm

/-! ## White space at the ends -/

theorem trim_append_left (h : Blank before) : trim (before ++ s) = trim s := by
  rw [trim, List.dropWhile_append_of_pos h, trim]

theorem trim_append_right (h : Blank after) : trim (s ++ after) = trim s := by
  by_cases hs : Blank s
  · rw [trim_of_all_blank hs, trim_of_all_blank]
    intro c hc
    exact (List.mem_append.1 hc).elim (hs c) (h c)
  · have hne : (s.dropWhile isBlank).isEmpty = false := by
      rw [List.isEmpty_eq_false_iff, Ne, List.dropWhile_eq_nil_iff]
      exact hs
    have hrev : Blank after.reverse := fun c hc => h c (List.mem_reverse.1 hc)
    rw [trim, List.dropWhile_append, hne, if_neg Bool.false_ne_true, List.reverse_append,
      List.dropWhile_append_of_pos hrev, trim]

theorem Padded.trim_eq (h : Padded core s) : trim s = trim core := by
  obtain ⟨before, after, rfl, hbefore, hafter⟩ := h
  rw [trim_append_right hafter, trim_append_left hbefore]

theorem padded_trim (s : List Char) : Padded (trim s) s := by
  refine ⟨s.takeWhile isBlank, (s.dropWhile isBlank).rtakeWhile isBlank, ?_,
    fun _ => List.mem_takeWhile_imp, fun _ => List.mem_rtakeWhile_imp⟩
  have hback : trim s ++ (s.dropWhile isBlank).rtakeWhile isBlank = s.dropWhile isBlank :=
    List.rdropWhile_append_rtakeWhile
  rw [List.append_assoc, hback, List.takeWhile_append_dropWhile]

theorem dropWhile_append_cons (hc : isBlank c = false) (s t : List Char) :
    (s ++ c :: t).dropWhile isBlank = s.dropWhile isBlank ++ c :: t := by
  have hfront : (c :: t).dropWhile isBlank = c :: t :=
    List.dropWhile_cons_of_neg (Bool.eq_false_iff.1 hc)
  rw [List.dropWhile_append, hfront]
  split
  · next hs => rw [List.isEmpty_iff.1 hs, List.nil_append]
  · rfl

/-- What stands before and behind a character that is no white space is trimmed on its own. -/
theorem trim_append_cons (hc : isBlank c = false) (s t : List Char) :
    trim (s ++ c :: t) = s.dropWhile isBlank ++ c :: t.rdropWhile isBlank := by
  rw [trim, dropWhile_append_cons hc, List.reverse_append, List.reverse_cons, List.append_assoc,
    List.singleton_append, dropWhile_append_cons hc, List.reverse_append, List.reverse_cons,
    List.reverse_reverse, List.append_assoc, List.singleton_append, List.rdropWhile]

theorem dropWhile_of_solid (h : Solid s) : s.dropWhile isBlank = s := by
  cases s with
  | nil => rfl
  | cons c s => exact dropWhile_append_cons (h c List.mem_cons_self) [] s

theorem trim_of_solid (h : Solid s) : trim s = s := by
  have hrev : Solid s.reverse := fun c hc => h c (List.mem_reverse.1 hc)
  rw [trim, dropWhile_of_solid h, dropWhile_of_solid hrev, List.reverse_reverse]

/-- What a trimmed text says in some case stands in the text between white space. -/
theorem map_toLower_trim_eq_iff (hword : Solid word) :
    (trim s).map Char.toLower = word ↔ ∃ core, Padded core s ∧ core.map Char.toLower = word := by
  constructor
  · intro h
    exact ⟨trim s, padded_trim s, h⟩
  · rintro ⟨core, hcore, rfl⟩
    have hsolid : Solid core := by
      intro c hc
      rw [← isBlank_toLower]
      exact hword _ (List.mem_map_of_mem hc)
    rw [hcore.trim_eq, trim_of_solid hsolid]

end SqlAdapter.Text
