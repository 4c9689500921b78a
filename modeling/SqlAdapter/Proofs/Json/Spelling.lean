import SqlAdapter.Json.Printer
import SqlAdapter.Json.Reader

/-!
# Texts of a document

A document without numbers is written in one way but for white space, which may stand around every item,
key, colon and comma. `Spells` says which texts these are. Main statement: every one of them is read as the
document, member by member, whatever its strings hold; the compact text and the indented one are among them.
-/

set_option autoImplicit false

namespace SqlAdapter

namespace Json

/-! ## White space -/

def IsGap (g : List Char) : Prop := ∀ c ∈ g, isGap c = true

section Gaps

variable {g r : List Char} {c : Char}

theorem isGap_nil : IsGap [] := List.forall_mem_nil _

theorem isGap_blank : IsGap [' '] := List.forall_mem_singleton.2 rfl

theorem isGap_newLine (level : Nat) : IsGap (newLine level) := by
  intro c hc
  rcases List.mem_cons.1 hc with rfl | hc
  · decide
  · rw [List.eq_of_mem_replicate hc]
    decide

theorem skipGap_append (hg : IsGap g) : skipGap (g ++ r) = skipGap r := List.dropWhile_append_of_pos hg

theorem skipGap_cons (hc : isGap c = false) : skipGap (c :: r) = c :: r :=
  List.dropWhile_cons_of_neg (by simp [hc])

end Gaps

/-! ## Strings -/

/-- How a character is read back: as a code unit where it was written in hexadecimal digits. -/
def unitOf (c : Char) : Unit16 :=
  if c.toNat < 0x20 ∧ c ∉ ['\x08', '\x0c', '\n', '\r', '\t'] then .unit c.toNat else .char c

section Strings

variable {c : Char} {s r : List Char} {us : List Unit16}

theorem hexValue?_hexDigit {n : Nat} (h : n < 16) : hexValue? (hexDigit n) = some n := by
  have hall : ∀ n < 16, hexValue? (hexDigit n) = some n := by decide
  exact hall n h

theorem codeUnit?_hexDigit {n : Nat} (h : n < 256) :
    codeUnit? '0' '0' (hexDigit (n / 16)) (hexDigit (n % 16)) = some n := by
  have hhigh : hexValue? (hexDigit (n / 16)) = some (n / 16) := hexValue?_hexDigit (by omega)
  have hlow : hexValue? (hexDigit (n % 16)) = some (n % 16) := hexValue?_hexDigit (by omega)
  have hzero : hexValue? '0' = some 0 := by decide
  simp only [codeUnit?, hhigh, hlow, hzero, Option.bind_eq_bind, Option.bind_some, Option.some.injEq]
  omega

/-- The three ways to write a character: with an escape of its own, in hexadecimal digits, as itself. -/
theorem escape_cases (c : Char) :
    (∃ e, escape c = ['\\', e] ∧ unescape? e = some c ∧ unitOf c = .char c) ∨
      (escape c = ['\\', 'u', '0', '0', hexDigit (c.toNat / 16), hexDigit (c.toNat % 16)] ∧
        c.toNat < 0x20 ∧ unitOf c = .unit c.toNat) ∨
      escape c = [c] ∧ c ≠ '"' ∧ c ≠ '\\' ∧ ¬c.toNat < 0x20 ∧ unitOf c = .char c := by
  by_cases hquote : c = '"'
  · subst hquote
    exact .inl ⟨'"', rfl, rfl, rfl⟩
  by_cases hbackslash : c = '\\'
  · subst hbackslash
    exact .inl ⟨'\\', rfl, rfl, rfl⟩
  by_cases hshort : c ∈ ['\x08', '\x0c', '\n', '\r', '\t']
  · simp only [List.mem_cons, List.not_mem_nil, or_false] at hshort
    rcases hshort with rfl | rfl | rfl | rfl | rfl
    · exact .inl ⟨'b', rfl, rfl, rfl⟩
    · exact .inl ⟨'f', rfl, rfl, rfl⟩
    · exact .inl ⟨'n', rfl, rfl, rfl⟩
    · exact .inl ⟨'r', rfl, rfl, rfl⟩
    · exact .inl ⟨'t', rfl, rfl, rfl⟩
  · have hother := hshort
    simp only [List.mem_cons, List.not_mem_nil, or_false, not_or] at hother
    by_cases hcontrol : c.toNat < 0x20
    · refine .inr (.inl ⟨?_, hcontrol, if_pos ⟨hcontrol, hshort⟩⟩)
      simp [escape, hquote, hbackslash, hother, hcontrol]
    · refine .inr (.inr ⟨?_, hquote, hbackslash, hcontrol, if_neg fun h => hcontrol h.1⟩)
      simp [escape, hquote, hbackslash, hother, hcontrol]

theorem readUnits_escape :
    readUnits (escape c ++ r) = (readUnits r).map fun p => (unitOf c :: p.1, p.2) := by
  rcases escape_cases c with ⟨e, he, hc, hunit⟩ | ⟨he, hlow, hunit⟩ | ⟨he, hquote, hbackslash, hlow, hunit⟩
  · rw [he, hunit]
    have hne : e ≠ 'u' := by
      rintro rfl
      cases hc
    show readUnits ('\\' :: e :: r) = _
    rw [readUnits, hc]
    · cases readUnits r <;> rfl
    · exact fun _ _ _ _ _ hu => absurd hu hne
  · rw [he, hunit]
    have hcode := codeUnit?_hexDigit (n := c.toNat) (by omega)
    show readUnits ('\\' :: 'u' :: '0' :: '0' :: _ :: _ :: r) = _
    rw [readUnits, hcode]
    cases readUnits r <;> rfl
  · rw [he, hunit]
    show readUnits (c :: r) = _
    rw [readUnits, if_neg (not_or.2 ⟨hlow, hbackslash⟩)]
    · cases readUnits r <;> rfl
    · exact hquote
    · exact fun _ _ _ _ _ hc => absurd hc hbackslash
    · exact fun _ _ hc => absurd hc hbackslash

theorem spell?_unitOf : spell? (unitOf c :: us) = (spell? us).map (c :: ·) := by
  unfold unitOf
  split
  · case isTrue h =>
    have hself : Char.ofNat c.toNat = c := Char.ofNat_toNat c
    have hlow : ¬0xD800 ≤ c.toNat := by omega
    have hsurrogate : ¬0xDC00 ≤ c.toNat := by omega
    cases us with
    | nil => simp [spell?, hlow, hself]
    | cons u us =>
      cases u with
      | char d => simp [spell?, hlow, hself]
      | unit n => simp [spell?, hlow, hsurrogate, hself]
  · rfl

theorem readString_stringChars (s : String) :
    readString (s.toList.flatMap escape ++ '"' :: r) = some (some s, r) := by
  have hunits : ∀ l : List Char, readUnits (l.flatMap escape ++ '"' :: r) = some (l.map unitOf, r) := by
    intro l
    induction l with
    | nil => rfl
    | cons c l ih =>
      rw [List.flatMap_cons, List.append_assoc, readUnits_escape, ih]
      rfl
  have hspell : ∀ l : List Char, spell? (l.map unitOf) = some l := by
    intro l
    induction l with
    | nil => rfl
    | cons c l ih =>
      rw [List.map_cons, spell?_unitOf, ih]
      rfl
  simp [readString, hunits, hspell]

end Strings

/-! ## Documents -/

/-- No number stands in the document. -/
inductive Numberless : Json → Prop
  | null : Numberless .null
  | bool (b : Bool) : Numberless (.bool b)
  | string (s : String) : Numberless (.string s)
  | array {items : List Json} (h : ∀ x ∈ items, Numberless x) : Numberless (.array items)
  | object {members : List (String × Json)} (h : ∀ m ∈ members, Numberless m.2) :
    Numberless (.object members)

mutual

/-- The text is one of the document. -/
inductive Spells : Json → List Char → Prop
  | null : Spells .null ['n', 'u', 'l', 'l']
  | yes : Spells (.bool true) ['t', 'r', 'u', 'e']
  | no : Spells (.bool false) ['f', 'a', 'l', 's', 'e']
  | string (s : String) : Spells (.string s) (stringChars s)
  | noItems {g : List Char} (hg : IsGap g) : Spells (.array []) ('[' :: (g ++ [']']))
  | items {x : Json} {xs : List Json} {g t u : List Char} (hg : IsGap g) (hx : Spells x t)
    (hxs : SpellsItems xs u) : Spells (.array (x :: xs)) ('[' :: (g ++ (t ++ u)))
  | noMembers {g : List Char} (hg : IsGap g) : Spells (.object []) ('\x7b' :: (g ++ ['\x7d']))
  | members {k : String} {x : Json} {ms : List (String × Json)} {g g₁ g₂ t u : List Char}
    (hg : IsGap g) (hg₁ : IsGap g₁) (hg₂ : IsGap g₂) (hx : Spells x t) (hms : SpellsMembers ms u) :
    Spells (.object ((k, x) :: ms))
      ('\x7b' :: (g ++ (stringChars k ++ (g₁ ++ ':' :: (g₂ ++ (t ++ u))))))

/-- The text is one of the items after the first, with the closing bracket. -/
inductive SpellsItems : List Json → List Char → Prop
  | close {g : List Char} (hg : IsGap g) : SpellsItems [] (g ++ [']'])
  | item {x : Json} {xs : List Json} {g g' t u : List Char} (hg : IsGap g) (hg' : IsGap g')
    (hx : Spells x t) (hxs : SpellsItems xs u) :
    SpellsItems (x :: xs) (g ++ ',' :: (g' ++ (t ++ u)))

/-- The text is one of the members after the first, with the closing brace. -/
inductive SpellsMembers : List (String × Json) → List Char → Prop
  | close {g : List Char} (hg : IsGap g) : SpellsMembers [] (g ++ ['\x7d'])
  | member {k : String} {x : Json} {ms : List (String × Json)} {g g' g₁ g₂ t u : List Char}
    (hg : IsGap g) (hg' : IsGap g') (hg₁ : IsGap g₁) (hg₂ : IsGap g₂) (hx : Spells x t)
    (hms : SpellsMembers ms u) :
    SpellsMembers ((k, x) :: ms)
      (g ++ ',' :: (g' ++ (stringChars k ++ (g₁ ++ ':' :: (g₂ ++ (t ++ u))))))

end

/-! ## Reading -/

section Reading

variable {j x : Json} {xs : List Json} {ms : List (String × Json)} {g t u r : List Char} {n : Nat}

/-- No text of a document begins like white space or like the end of an array. -/
theorem Spells.head (h : Spells j t) : ∃ c u, t = c :: u ∧ isGap c = false ∧ c ≠ ']' := by
  cases h
  all_goals exact ⟨_, _, rfl, by decide, by decide⟩

theorem SpellsItems.length_pos (h : SpellsItems xs u) : 0 < u.length := by
  cases h
  all_goals
    simp only [List.length_append, List.length_cons]
    omega

theorem SpellsMembers.length_pos (h : SpellsMembers ms u) : 0 < u.length := by
  cases h
  all_goals
    simp only [List.length_append, List.length_cons]
    omega

/-- The text is read as the value, whatever white space stands before it and whatever follows. -/
def Reads (t : List Char) (w : Written) : Prop :=
  ∀ ⦃n : Nat⦄ ⦃g r : List Char⦄, IsGap g → t.length ≤ n → readValue n (g ++ (t ++ r)) = some (w, r)

theorem readValue_gap (hg : IsGap g) : readValue n (g ++ t) = readValue n t := by
  cases n with
  | zero => rfl
  | succ n => rw [readValue, readValue, skipGap_append hg]

theorem readValue_string (s : String) :
    readValue (n + 1) (stringChars s ++ r) = some (.string (some s), r) := by
  have htext : stringChars s ++ r = '"' :: (s.toList.flatMap escape ++ '"' :: r) := by
    simp [stringChars]
  rw [htext, readValue, skipGap_cons (by decide)]
  simp only [readString_stringChars, Option.map_some]

theorem readValue_array_nil (hg : IsGap g) :
    readValue (n + 1) ('[' :: (g ++ ']' :: r)) = some (.array [], r) := by
  rw [readValue, skipGap_cons (by decide)]
  simp only [skipGap_append hg, skipGap_cons (c := ']') (by decide)]

theorem readValue_object_nil (hg : IsGap g) :
    readValue (n + 1) ('\x7b' :: (g ++ '\x7d' :: r)) = some (.object [], r) := by
  rw [readValue, skipGap_cons (by decide)]
  simp only [skipGap_append hg, skipGap_cons (c := '\x7d') (by decide)]

theorem readValue_array (hg : IsGap g) (hx : Spells x t) :
    readValue (n + 1) ('[' :: (g ++ (t ++ r))) =
      (readItems n (t ++ r)).map fun p => (.array p.1, p.2) := by
  obtain ⟨c, u, rfl, hc, hne⟩ := hx.head
  rw [readValue, skipGap_cons (by decide)]
  simp only [skipGap_append hg, List.cons_append, skipGap_cons hc]
  split
  · next heq => exact absurd (List.cons.inj heq).1 hne
  · rfl

theorem readValue_object (hg : IsGap g) (k : String) :
    readValue (n + 1) ('\x7b' :: (g ++ (stringChars k ++ r))) =
      (readMembers n (stringChars k ++ r)).map fun p => (.object p.1, p.2) := by
  rw [readValue, skipGap_cons (by decide)]
  simp only [skipGap_append hg, stringChars, List.cons_append, skipGap_cons (c := '"') (by decide)]
  rfl

-- The recursion is on the relation. The length of the text bounds the fuel: what is left of a text
-- behind its first bracket, item or member is shorter.
mutual

theorem Spells.reads {j : Json} {t : List Char} (h : Spells j t) : Reads t j.written := by
  intro n g r hg hn
  rw [readValue_gap hg]
  cases n with
  | zero =>
    obtain ⟨c, u, rfl, -⟩ := h.head
    cases hn
  | succ n =>
    match h with
    | .null => rfl
    | .yes => rfl
    | .no => rfl
    | .string s => exact readValue_string s
    | .noItems hg =>
      rw [List.cons_append, List.append_assoc]
      exact readValue_array_nil hg
    | .items hg hx hxs =>
      simp only [List.length_cons, List.length_append] at hn
      have hitems := hxs.reads hx.reads isGap_nil (n := n) (r := r) (by omega)
      rw [List.nil_append] at hitems
      simp only [List.cons_append, List.append_assoc]
      rw [readValue_array hg hx, hitems]
      rfl
    | .noMembers hg =>
      rw [List.cons_append, List.append_assoc]
      exact readValue_object_nil hg
    | .members (k := k) hg hg₁ hg₂ hx hms =>
      simp only [List.length_cons, List.length_append] at hn
      have hmembers := hms.reads k hx.reads isGap_nil hg₁ hg₂ (n := n) (r := r) (by omega)
      rw [List.nil_append] at hmembers
      simp only [List.cons_append, List.append_assoc]
      rw [readValue_object hg, hmembers]
      rfl

theorem SpellsItems.reads {xs : List Json} {u : List Char} (h : SpellsItems xs u) {w : Written}
    {t : List Char} (ht : Reads t w) {n : Nat} {g r : List Char} (hg : IsGap g)
    (hn : t.length + u.length ≤ n) :
    readItems n (g ++ (t ++ (u ++ r))) = some (w :: writtenItems xs, r) := by
  have hpos := h.length_pos
  cases n with
  | zero => omega
  | succ n =>
    rw [readItems, ht hg (by omega)]
    -- behind the item comes a comma and the next one, or the end
    match h with
    | .close hg =>
      simp only [Option.bind_eq_bind, Option.bind_some, List.append_assoc, List.singleton_append,
        skipGap_append hg, skipGap_cons (c := ']') (by decide)]
      rfl
    | .item hg hg' hx hxs =>
      simp only [List.length_cons, List.length_append] at hn
      have hrest := hxs.reads hx.reads hg' (n := n) (r := r) (by omega)
      simp only [Option.bind_eq_bind, Option.bind_some, List.append_assoc, List.cons_append,
        skipGap_append hg, skipGap_cons (c := ',') (by decide), hrest]
      rfl

theorem SpellsMembers.reads {ms : List (String × Json)} {u : List Char} (h : SpellsMembers ms u)
    (k : String) {w : Written} {t : List Char} (ht : Reads t w) {n : Nat} {g g₁ g₂ r : List Char}
    (hg : IsGap g) (hg₁ : IsGap g₁) (hg₂ : IsGap g₂) (hn : t.length + u.length ≤ n) :
    readMembers n (g ++ (stringChars k ++ (g₁ ++ ':' :: (g₂ ++ (t ++ (u ++ r)))))) =
      some ((some k, w) :: writtenMembers ms, r) := by
  have hpos := h.length_pos
  cases n with
  | zero => omega
  | succ n =>
    have hkey : stringChars k ++ (g₁ ++ ':' :: (g₂ ++ (t ++ (u ++ r)))) =
        '"' :: (k.toList.flatMap escape ++ '"' :: (g₁ ++ ':' :: (g₂ ++ (t ++ (u ++ r))))) := by
      simp [stringChars]
    rw [readMembers, skipGap_append hg, hkey, skipGap_cons (by decide)]
    simp only [readString_stringChars, Option.bind_eq_bind, Option.bind_some, skipGap_append hg₁,
      skipGap_cons (c := ':') (by decide), ht hg₂ (show t.length ≤ n by omega)]
    match h with
    | .close hg =>
      simp only [List.append_assoc, List.singleton_append, skipGap_append hg,
        skipGap_cons (c := '\x7d') (by decide)]
      rfl
    | .member (k := k') hg hg' hg₁ hg₂ hx hms =>
      simp only [List.length_cons, List.length_append] at hn
      have hrest := hms.reads k' hx.reads hg' hg₁ hg₂ (n := n) (r := r) (by omega)
      simp only [List.append_assoc, List.cons_append, skipGap_append hg,
        skipGap_cons (c := ',') (by decide), hrest, Option.bind_some]
      rfl

end

end Reading

/-! ## Printing -/

mutual

theorem spells_chars {j : Json} (h : Numberless j) : Spells j j.chars := by
  match j with
  | .null => exact .null
  | .bool true => exact .yes
  | .bool false => exact .no
  | .number n => cases h
  | .string s => exact .string s
  | .array [] => exact .noItems isGap_nil
  | .array (x :: xs) =>
    cases h with
    | array h =>
      rw [List.forall_mem_cons] at h
      exact .items isGap_nil (spells_chars h.1) (spellsItems_chars h.2)
  | .object [] => exact .noMembers isGap_nil
  | .object ((k, x) :: ms) =>
    cases h with
    | object h =>
      rw [List.forall_mem_cons] at h
      exact .members isGap_nil isGap_nil isGap_nil (spells_chars h.1) (spellsMembers_chars h.2)

theorem spellsItems_chars {xs : List Json} (h : ∀ x ∈ xs, Numberless x) :
    SpellsItems xs (itemsChars xs) := by
  match xs with
  | [] => exact .close isGap_nil
  | x :: xs =>
    rw [List.forall_mem_cons] at h
    exact .item isGap_nil isGap_nil (spells_chars h.1) (spellsItems_chars h.2)

theorem spellsMembers_chars {ms : List (String × Json)} (h : ∀ m ∈ ms, Numberless m.2) :
    SpellsMembers ms (membersChars ms) := by
  match ms with
  | [] => exact .close isGap_nil
  | (k, x) :: ms =>
    rw [List.forall_mem_cons] at h
    exact .member isGap_nil isGap_nil isGap_nil isGap_nil (spells_chars h.1) (spellsMembers_chars h.2)

end

mutual

theorem spells_prettyChars (level : Nat) {j : Json} (h : Numberless j) :
    Spells j (j.prettyChars level) := by
  match j with
  | .null => exact .null
  | .bool true => exact .yes
  | .bool false => exact .no
  | .number n => cases h
  | .string s => exact .string s
  | .array [] => exact .noItems isGap_nil
  | .array (x :: xs) =>
    cases h with
    | array h =>
      rw [List.forall_mem_cons] at h
      rw [prettyChars, List.append_assoc]
      exact .items (isGap_newLine _) (spells_prettyChars (level + 1) h.1) (spellsItems_pretty level h.2)
  | .object [] => exact .noMembers isGap_nil
  | .object ((k, x) :: ms) =>
    cases h with
    | object h =>
      rw [List.forall_mem_cons] at h
      rw [prettyChars, List.append_assoc, List.append_assoc]
      exact .members (isGap_newLine _) isGap_nil isGap_blank (spells_prettyChars (level + 1) h.1)
        (spellsMembers_pretty level h.2)

theorem spellsItems_pretty (level : Nat) {xs : List Json} (h : ∀ x ∈ xs, Numberless x) :
    SpellsItems xs (prettyItems level xs) := by
  match xs with
  | [] => exact .close (isGap_newLine _)
  | x :: xs =>
    rw [List.forall_mem_cons] at h
    rw [prettyItems, List.append_assoc]
    exact .item isGap_nil (isGap_newLine _) (spells_prettyChars (level + 1) h.1)
      (spellsItems_pretty level h.2)

theorem spellsMembers_pretty (level : Nat) {ms : List (String × Json)}
    (h : ∀ m ∈ ms, Numberless m.2) : SpellsMembers ms (prettyMembers level ms) := by
  match ms with
  | [] => exact .close (isGap_newLine _)
  | (k, x) :: ms =>
    rw [List.forall_mem_cons] at h
    rw [prettyMembers, List.append_assoc, List.append_assoc]
    exact .member isGap_nil (isGap_newLine _) isGap_nil isGap_blank
      (spells_prettyChars (level + 1) h.1) (spellsMembers_pretty level h.2)

end

/-! ## Whole texts -/

/-- The text is one of the document; white space may stand before and behind it. -/
def IsText (j : Json) (text : String) : Prop :=
  ∃ g t g', IsGap g ∧ Spells j t ∧ IsGap g' ∧ text.toList = g ++ (t ++ g')

section Texts

variable {j : Json} {text : String}

/-- A text of a document is read as the document, member by member. -/
theorem IsText.ofString? (h : IsText j text) : Written.ofString? text = some j.written := by
  obtain ⟨g, t, g', hg, ht, hg', htext⟩ := h
  have hread : readValue (2 * text.toList.length + 2) text.toList = some (j.written, g') := by
    rw [htext]
    apply ht.reads hg
    simp only [List.length_append]
    omega
  have hend : skipGap g' = [] := by
    have hskip : skipGap (g' ++ []) = [] := skipGap_append hg'
    rwa [List.append_nil] at hskip
  simp only [Written.ofString?, readWritten?, hread, hend, List.isEmpty_nil, if_true]

theorem isText_compact (h : Numberless j) : IsText j j.compact :=
  ⟨[], j.chars, [], isGap_nil, spells_chars h, isGap_nil, by simp [compact]⟩

theorem isText_pretty (h : Numberless j) : IsText j j.pretty :=
  ⟨[], j.prettyChars 0, [], isGap_nil, spells_prettyChars 0 h, isGap_nil, by simp [pretty]⟩

theorem IsText.line (h : IsText j text) : IsText j (text ++ "
") := by
  obtain ⟨g, t, g', hg, ht, hg', htext⟩ := h
  refine ⟨g, t, g' ++ ['
'], hg, ht, ?_, ?_⟩
  · intro c hc
    rcases List.mem_append.1 hc with hc | hc
    · exact hg' c hc
    · rw [List.mem_singleton.1 hc]
      decide
  · rw [String.toList_append, htext]
    simp

end Texts

end Json

end SqlAdapter
