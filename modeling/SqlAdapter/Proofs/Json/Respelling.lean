import Mathlib.Data.List.Forall2
import Mathlib.Logic.Relation
import SqlAdapter.Json.Members

/-!
# Objects written differently

An object that is read by its keys can be written in many ways: its members may stand in any order, others
may stand among them under keys that are not read, a member may be left out where it says what holds
anyway, and where the object allows it an array may give the contents in the order of the keys. A `Layout`
says what one kind of object allows, and `Respells` relates what is the same by it. Main statements: a key
is read alike in both (`SameMembers.bind_sole?`), every object whose keys can be read respells the one that
gives each key in its turn (`sameMembers_zip`), and of the keys of a faulty object one cannot be read
(`Faulty.exists_unreadable`).
-/

set_option autoImplicit false

namespace SqlAdapter.Json.Written

/-- What objects of one kind allow. -/
structure Layout where
  /-- The keys that are read, in the order in which an array gives their contents. -/
  keys : List String
  /-- Whether an array may stand for the object. -/
  positional : Bool
  /-- The members that may be left out, with the content that then holds. -/
  defaults : Members
  /-- What may stand under a key that is not read. -/
  unread : Written → Prop
  /-- The contents of a key that are the same. -/
  alike : String → Written → Written → Prop
  /-- The contents of a key that are faulty in themselves. -/
  wrong : String → Written → Prop

namespace Layout

variable {s : Layout}

/-- The members of an object; an array gives the contents of the first keys. -/
def members? (s : Layout) : Written → Option Members
  | .object ms => some ms
  | .array ws => if s.positional ∧ ws.length ≤ s.keys.length then some ((s.keys.map some).zip ws) else none
  | _ => none

theorem eq_object {w : Written} {ms : Members} (hs : s.positional = false) (h : s.members? w = some ms) :
    w = .object ms := by
  cases w with
  | object ms' => exact congrArg Written.object (Option.some.inj h)
  | array ws => simp [members?, hs] at h
  | _ => cases h

/-- The content of a key is written there, or it is the default of a key that is left out. -/
def Holds (s : Layout) (ms : Members) (k : String) (w : Written) : Prop :=
  sole? k ms = some (some w) ∨ sole? k ms = some none ∧ (some k, w) ∈ s.defaults

/-- A change of the members that does not matter. -/
inductive Step (s : Layout) : Members → Members → Prop
  | order {ms ms' : Members} (h : ms.Perm ms') : s.Step ms ms'
  | unread {k : String} {w : Written} {ms : Members} (hk : k ∉ s.keys) (hw : s.unread w) :
    s.Step ms ((some k, w) :: ms)
  | default {k : String} {w : Written} {ms : Members} (hw : (some k, w) ∈ s.defaults)
    (hk : ∀ m ∈ ms, m.1 ≠ some k) : s.Step ms ((some k, w) :: ms)
  | content {k : String} {w w' : Written} {ms : Members} (h : s.alike k w w') :
    s.Step ((some k, w) :: ms) ((some k, w') :: ms)

/-- The members differ by changes that do not matter, made or taken back one after the other. -/
def SameMembers (s : Layout) : Members → Members → Prop := Relation.EqvGen s.Step

/-- The one is another spelling of the other. -/
def Respells (s : Layout) (w w' : Written) : Prop :=
  ∃ ms ms', s.members? w = some ms ∧ s.members? w' = some ms' ∧ s.SameMembers ms ms'

/-- A member that must be there is missing, or one that is read is null, stands there twice or has a faulty
content. -/
inductive Faulty (s : Layout) (ms : Members) : Prop
  | missing {k : String} (hk : k ∈ s.keys) (hd : ∀ w, (some k, w) ∉ s.defaults)
    (h : ∀ m ∈ ms, m.1 ≠ some k)
  | null {k : String} (hk : k ∈ s.keys) (h : (some k, .null) ∈ ms)
  | twice {k : String} (hk : k ∈ s.keys) (h : 2 ≤ ms.countP fun m => m.1 = some k)
  | content {k : String} {w : Written} (hk : k ∈ s.keys) (hw : s.wrong k w) (h : (some k, w) ∈ ms)

/-- The members of the object or of the array are faulty. -/
def Spoilt (s : Layout) (w : Written) : Prop := ∃ ms, s.members? w = some ms ∧ s.Faulty ms

end Layout

/-! ## One key -/

section Sole

variable {key k : String} {w : Written} {ms : Members} {o : Option Written}

theorem sole?_of_absent (h : ∀ m ∈ ms, m.1 ≠ some key) : sole? key ms = some none := by
  have hnone : ms.filter (fun m => m.1 = some key) = [] := by simpa using h
  simp only [sole?, hnone]

theorem sole?_cons_of_ne (h : k ≠ key) : sole? key ((some k, w) :: ms) = sole? key ms := by
  simp [sole?, h]

theorem sole?_cons_self : sole? key ((some key, w) :: ms) =
    if ∀ m ∈ ms, m.1 ≠ some key then some (some w) else none := by
  split
  · next h =>
    have hnone : ms.filter (fun m => m.1 = some key) = [] := by simpa using h
    simp [sole?, hnone]
  · next h =>
    cases hsome : ms.filter (fun m => m.1 = some key) with
    | nil => exact absurd (by simpa using hsome) h
    | cons m rest => simp [sole?, hsome]

theorem sole?_of_mem (h : (some key, w) ∈ ms) : sole? key ms = none ∨ sole? key ms = some (some w) := by
  obtain ⟨l, r, rfl⟩ := List.append_of_mem h
  rw [sole?_perm List.perm_middle, sole?_cons_self]
  split
  · exact .inr rfl
  · exact .inl rfl

theorem mem_of_sole? (h : sole? key ms = some (some w)) : (some key, w) ∈ ms := by
  have hmem : (some key, w) ∈ ms.filter fun m => m.1 = some key := by
    rw [filter_of_sole? h]
    exact List.mem_singleton_self _
  exact (List.mem_filter.1 hmem).1

theorem sole?_of_twice (h : 2 ≤ ms.countP fun m => m.1 = some key) : sole? key ms = none := by
  rw [List.countP_eq_length_filter] at h
  unfold sole?
  split
  · next hnil => simp [hnil] at h
  · next hone => simp [hone] at h
  · rfl

end Sole

/-! ## What the keys say -/

section Reading

variable {α : Type} {s : Layout} {ms ms' : Members} {w w' : Written} {d : Nat}

theorem Layout.SameMembers.eq_of_step {β : Type} {f : Members → β} (h : s.SameMembers ms ms')
    (hstep : ∀ ms ms', s.Step ms ms' → f ms = f ms') : f ms = f ms' := by
  induction h with
  | rel ms ms' h => exact hstep ms ms' h
  | refl ms => rfl
  | symm ms ms' _ ih => exact ih.symm
  | trans ms ms' ms'' _ _ ih ih' => exact ih.trans ih'

variable {key : String} {f : Option Written → Option α}

/-- A change that does not matter leaves every key with what is read for it. -/
theorem Layout.Step.bind_sole? (h : s.Step ms ms') (hk : key ∈ s.keys)
    (halike : ∀ w w', s.alike key w w' → f (some w) = f (some w'))
    (hdefault : ∀ w, (some key, w) ∈ s.defaults → f (some w) = f none) :
    (sole? key ms).bind f = (sole? key ms').bind f := by
  cases h with
  | order h => rw [sole?_perm h]
  | @unread k w _ hk' hw => rw [sole?_cons_of_ne fun hkey : k = key => hk' (hkey ▸ hk)]
  | @default k w _ hw hk' =>
    by_cases hkey : k = key
    · subst hkey
      rw [sole?_of_absent hk', sole?_cons_self, if_pos hk', Option.bind_some, Option.bind_some, hdefault w hw]
    · rw [sole?_cons_of_ne hkey]
  | @content k w w' _ h =>
    by_cases hkey : k = key
    · subst hkey
      rw [sole?_cons_self, sole?_cons_self]
      split
      · exact halike w w' h
      · rfl
    · rw [sole?_cons_of_ne hkey, sole?_cons_of_ne hkey]

theorem Layout.SameMembers.bind_sole? (h : s.SameMembers ms ms') (hk : key ∈ s.keys)
    (halike : ∀ w w', s.alike key w w' → f (some w) = f (some w'))
    (hdefault : ∀ w, (some key, w) ∈ s.defaults → f (some w) = f none) :
    (sole? key ms).bind f = (sole? key ms').bind f :=
  h.eq_of_step fun _ _ hstep => hstep.bind_sole? hk halike hdefault

theorem Layout.Step.all_eq {p : Option String × Written → Bool} (h : s.Step ms ms')
    (hunread : ∀ k w, s.unread w → p (some k, w)) (hdefault : ∀ m ∈ s.defaults, p m)
    (halike : ∀ k w w', s.alike k w w' → p (some k, w) = p (some k, w')) : ms.all p = ms'.all p := by
  cases h with
  | order h => exact h.all_eq
  | unread hk hw => rw [List.all_cons, hunread _ _ hw, Bool.true_and]
  | default hw hk => rw [List.all_cons, hdefault _ hw, Bool.true_and]
  | content h => rw [List.all_cons, List.all_cons, halike _ _ _ h]

theorem Layout.SameMembers.keysDenote (h : s.SameMembers ms ms') (hdefault : ∀ m ∈ s.defaults, m.1.isSome) :
    keysDenote ms = keysDenote ms' :=
  h.eq_of_step fun _ _ hstep => hstep.all_eq (fun _ _ _ => rfl) hdefault fun _ _ _ _ => rfl

theorem required?_eq_bind {read : Written → Option α} :
    required? key read ms = (sole? key ms).bind fun o => o.bind read := rfl

theorem optional?_eq_bind {read : Written → Option α} {fallback : α} :
    optional? key read fallback ms = (sole? key ms).bind fun o => (o.map read).getD (some fallback) := by
  rw [optional?]
  exact congrArg _ (funext fun o => by cases o <;> rfl)

theorem Layout.SameMembers.required? {read : Written → Option α} (h : s.SameMembers ms ms')
    (hk : key ∈ s.keys) (halike : ∀ w w', s.alike key w w' → read w = read w')
    (hdefault : ∀ w, (some key, w) ∉ s.defaults) : required? key read ms = required? key read ms' := by
  rw [required?_eq_bind, required?_eq_bind]
  exact h.bind_sole? hk halike fun w hw => absurd hw (hdefault w)

theorem Layout.SameMembers.optional? {read : Written → Option α} {fallback : α} (h : s.SameMembers ms ms')
    (hk : key ∈ s.keys) (halike : ∀ w w', s.alike key w w' → read w = read w')
    (hdefault : ∀ w, (some key, w) ∈ s.defaults → read w = some fallback) :
    optional? key read fallback ms = optional? key read fallback ms' := by
  rw [optional?_eq_bind, optional?_eq_bind]
  exact h.bind_sole? hk halike hdefault

theorem required?_eq_some_holds {read : Written → Option α} {a : α} (h : required? key read ms = some a) :
    ∃ w, s.Holds ms key w ∧ read w = some a := by
  obtain ⟨w, hsole, hread⟩ := required?_eq_some h
  exact ⟨w, .inl hsole, hread⟩

theorem optional?_eq_some_holds {read : Written → Option α} {fallback a : α} {default : Written}
    (h : optional? key read fallback ms = some a) (hdefault : (some key, default) ∈ s.defaults)
    (hfallback : read default = some fallback) : ∃ w, s.Holds ms key w ∧ read w = some a := by
  rw [optional?_eq_bind] at h
  obtain ⟨o, hsole, h⟩ := Option.bind_eq_some_iff.1 h
  cases o with
  | none => exact ⟨default, .inr ⟨hsole, hdefault⟩, hfallback.trans h⟩
  | some w => exact ⟨w, .inl hsole, h⟩

theorem text?_eq_some_iff {t : String} : text? w = some t ↔ w = .string (some t) := by
  cases w <;> simp [text?]

theorem flag?_eq_some_iff {b : Bool} : flag? w = some b ↔ w = .bool b := by
  cases w <;> simp [flag?]

/-! ### What denotes a document -/

/-- A member that denotes one within a depth. -/
def memberDenotes (d : Nat) (m : Option String × Written) : Bool := m.1.isSome && (m.2.denotes? d).isSome

theorem isSome_membersDenote? : (membersDenote? d ms).isSome = ms.all (memberDenotes d) := by
  induction ms with
  | nil => rfl
  | cons m ms ih =>
    obtain ⟨k, w⟩ := m
    rw [membersDenote?, List.all_cons, ← ih, memberDenotes]
    cases k <;> cases w.denotes? d <;> cases membersDenote? d ms <;> rfl

theorem isSome_itemsDenote? {ws : List Written} :
    (itemsDenote? d ws).isSome = ws.all fun w => (w.denotes? d).isSome := by
  induction ws with
  | nil => rfl
  | cons w ws ih =>
    rw [itemsDenote?, List.all_cons, ← ih]
    cases w.denotes? d <;> cases itemsDenote? d ws <;> rfl

/-- An object or an array in its place denotes a document if its members do. -/
theorem isSome_denotes? (h : s.members? w = some ms) :
    (w.denotes? (d + 1)).isSome = ms.all (memberDenotes d) := by
  cases w with
  | object ms' =>
    cases h
    rw [denotes?, Option.isSome_map, isSome_membersDenote?]
  | array ws =>
    obtain ⟨⟨-, hlength⟩, h⟩ := Option.ite_none_right_eq_some.1 h
    cases h
    rw [denotes?, Option.isSome_map, isSome_itemsDenote?]
    have hcontents : ((s.keys.map some).zip ws).map Prod.snd = ws :=
      List.map_snd_zip (by simpa using hlength)
    have hmember : ∀ m ∈ (s.keys.map some).zip ws, (m.2.denotes? d).isSome = memberDenotes d m := by
      intro m hm
      obtain ⟨k, -, hk⟩ := List.mem_map.1 (List.of_mem_zip hm).1
      rw [memberDenotes, ← hk, Option.isSome_some, Bool.true_and]
    calc
      ws.all (fun w => (w.denotes? d).isSome) =
          (((s.keys.map some).zip ws).map Prod.snd).all fun w => (w.denotes? d).isSome := by
        rw [hcontents]
      _ = ((s.keys.map some).zip ws).all fun m => (m.2.denotes? d).isSome := List.all_map
      _ = ((s.keys.map some).zip ws).all (memberDenotes d) := by
        rw [Bool.eq_iff_iff, List.all_eq_true, List.all_eq_true]
        exact forall₂_congr fun m hm => by rw [hmember m hm]
  | _ => cases h

theorem Layout.Respells.isSome_denotes? (h : s.Respells w w')
    (hunread : ∀ w, s.unread w → (w.denotes? d).isSome) (hdefault : ∀ m ∈ s.defaults, memberDenotes d m)
    (halike : ∀ k w w', s.alike k w w' → (w.denotes? d).isSome = (w'.denotes? d).isSome) :
    (w.denotes? (d + 1)).isSome = (w'.denotes? (d + 1)).isSome := by
  obtain ⟨ms, ms', hms, hms', hsame⟩ := h
  rw [Written.isSome_denotes? hms, Written.isSome_denotes? hms']
  apply hsame.eq_of_step
  intro ms ms' hstep
  refine hstep.all_eq (fun k w hw => ?_) hdefault fun k w w' hw => ?_
  · rw [memberDenotes, hunread w hw]
    rfl
  · rw [memberDenotes, memberDenotes, halike k w w' hw]

end Reading

/-! ## Every key in its turn -/

namespace Layout

variable {s : Layout} {ms ms' ms'' l us : Members} {key : String}

theorem SameMembers.symm (h : s.SameMembers ms ms') : s.SameMembers ms' ms := Relation.EqvGen.symm _ _ h

theorem SameMembers.trans (h : s.SameMembers ms ms') (h' : s.SameMembers ms' ms'') :
    s.SameMembers ms ms'' :=
  Relation.EqvGen.trans _ _ _ h h'

theorem Step.sameMembers (h : s.Step ms ms') : s.SameMembers ms ms' := Relation.EqvGen.rel _ _ h

theorem Respells.symm {w w' : Written} (h : s.Respells w w') : s.Respells w' w := by
  obtain ⟨ms, ms', hms, hms', hsame⟩ := h
  exact ⟨ms', ms, hms', hms, hsame.symm⟩

theorem Respells.trans {w w' w'' : Written} (h : s.Respells w w') (h' : s.Respells w' w'') :
    s.Respells w w'' := by
  obtain ⟨ms, ms', hms, hms', hsame⟩ := h
  obtain ⟨ns', ns, hns', hns, hsame'⟩ := h'
  cases hms'.symm.trans hns'
  exact ⟨ms, ns, hms, hns, hsame.trans hsame'⟩

/-- Members under keys that are not read can be left out. -/
theorem sameMembers_append (h : ∀ m ∈ us, ∃ k, m.1 = some k ∧ k ∉ s.keys ∧ s.unread m.2) :
    s.SameMembers (l ++ us) l := by
  induction us with
  | nil =>
    rw [List.append_nil]
    exact Relation.EqvGen.refl l
  | cons m us ih =>
    obtain ⟨⟨k, hm, hk, hw⟩, hus⟩ := List.forall_mem_cons.1 h
    obtain ⟨key, w⟩ := m
    cases hm
    have hfront : s.SameMembers (l ++ (some k, w) :: us) ((some k, w) :: (l ++ us)) :=
      (Step.order List.perm_middle).sameMembers
    exact hfront.trans ((Step.unread hk hw).sameMembers.symm.trans (ih hus))

/-- The members with none of the keys. -/
def others (keys : List String) (ms : Members) : Members := ms.filter fun m => ∀ k ∈ keys, m.1 ≠ some k

theorem others_nil : others [] ms = ms := List.filter_eq_self.2 fun _ _ => decide_eq_true nofun

theorem mem_others {keys : List String} {m : Option String × Written} :
    m ∈ others keys ms ↔ m ∈ ms ∧ ∀ k ∈ keys, m.1 ≠ some k := by
  rw [others, List.mem_filter, decide_eq_true_iff]

theorem others_perm (ms : Members) {keys : List String} (hk : key ∉ keys) :
    (others keys ms).Perm (ms.filter (fun m => m.1 = some key) ++ others (key :: keys) ms) := by
  have hkey : (others keys ms).filter (fun m => m.1 = some key) = ms.filter fun m => m.1 = some key := by
    rw [others, List.filter_filter]
    refine List.filter_congr fun m _ => ?_
    rw [Bool.and_eq_left_iff_imp, decide_eq_true_iff, decide_eq_true_iff]
    rintro hm k hk' hkey
    exact hk (Option.some.inj (hm.symm.trans hkey) ▸ hk')
  have hother : (others keys ms).filter (fun m => !decide (m.1 = some key)) = others (key :: keys) ms := by
    rw [others, List.filter_filter]
    refine List.filter_congr fun m _ => ?_
    simp
  rw [← hkey, ← hother]
  exact (List.filter_append_perm _ _).symm

-- The induction is on the keys that have been brought to the front; of a key that is left out the default
-- is written out there.
theorem sameMembers_front {keys : List String} {contents : List Written} (hkeys : keys.Nodup)
    (h : List.Forall₂ (s.Holds ms) keys contents) :
    s.SameMembers ms ((keys.map some).zip contents ++ others keys ms) := by
  induction h with
  | nil =>
    rw [others_nil]
    exact Relation.EqvGen.refl ms
  | @cons k w keys contents hw _ ih =>
    obtain ⟨hk, hkeys⟩ := List.nodup_cons.1 hkeys
    refine (ih hkeys).trans ?_
    have hperm := others_perm ms hk
    rcases hw with hsole | ⟨hsole, hdefault⟩
    · rw [filter_of_sole? hsole] at hperm
      exact (Step.order ((hperm.append_left _).trans List.perm_middle)).sameMembers
    · rw [filter_of_sole? hsole] at hperm
      refine (Step.order (hperm.append_left _)).sameMembers.trans (Step.default hdefault ?_).sameMembers
      intro m hm hmk
      rcases List.mem_append.1 hm with hm | hm
      · obtain ⟨k', hk', hmk'⟩ := List.mem_map.1 (List.of_mem_zip hm).1
        exact hk (Option.some.inj (hmk.symm.trans hmk'.symm) ▸ hk')
      · exact (mem_others.1 hm).2 k List.mem_cons_self hmk

theorem sameMembers_zip {contents : List Written} (hkeys : s.keys.Nodup)
    (hcontents : List.Forall₂ (s.Holds ms) s.keys contents)
    (hrest : ∀ m ∈ ms, ∃ k, m.1 = some k ∧ (k ∉ s.keys → s.unread m.2)) :
    s.SameMembers ms ((s.keys.map some).zip contents) := by
  refine (sameMembers_front hkeys hcontents).trans (sameMembers_append fun m hm => ?_)
  obtain ⟨hm, hother⟩ := mem_others.1 hm
  obtain ⟨k, hmk, hunread⟩ := hrest m hm
  have hk : k ∉ s.keys := fun hk => hother k hk hmk
  exact ⟨k, hmk, hk, hunread hk⟩

theorem sameMembers_zip_of_denotes {contents : List Written} {d : Nat} (hms : ms.all (memberDenotes d))
    (hunread : ∀ w, (w.denotes? d).isSome → s.unread w) (hkeys : s.keys.Nodup)
    (hcontents : List.Forall₂ (s.Holds ms) s.keys contents) :
    s.SameMembers ms ((s.keys.map some).zip contents) := by
  refine sameMembers_zip hkeys hcontents fun m hm => ?_
  obtain ⟨hkey, hdenotes⟩ := Bool.and_eq_true_iff.1 (List.all_eq_true.1 hms m hm)
  obtain ⟨k, hk⟩ := Option.isSome_iff_exists.1 hkey
  exact ⟨k, hk, fun _ => hunread m.2 hdenotes⟩

theorem sameMembers_concat {k : String} {w w' : Written} (h : s.alike k w w') :
    s.SameMembers (l ++ [(some k, w)]) (l ++ [(some k, w')]) :=
  (Step.order List.perm_middle).sameMembers.trans
    ((Step.content h).sameMembers.trans (Step.order List.perm_middle.symm).sameMembers)

end Layout

/-! ## Faults -/

namespace Layout

variable {α : Type} {s : Layout} {ms : Members} {k : String} {read : Written → Option α} {fallback : α}

/-- Whatever fails on null, on faulty contents and, where the key must be there, without any fails. -/
def Unreadable (s : Layout) (ms : Members) (k : String) : Prop :=
  ∀ {α : Type} (f : Option Written → Option α), f (some .null) = none →
    ((∀ w, (some k, w) ∉ s.defaults) → f none = none) → (∀ w, s.wrong k w → f (some w) = none) →
    (sole? k ms).bind f = none

theorem Unreadable.required? (h : s.Unreadable ms k) (hnull : read .null = none)
    (hwrong : ∀ w, s.wrong k w → read w = none) : required? k read ms = none :=
  h (fun o => o.bind read) hnull (fun _ => rfl) hwrong

theorem Unreadable.optional? {default : Written} (h : s.Unreadable ms k)
    (hdefault : (some k, default) ∈ s.defaults) (hnull : read .null = none)
    (hwrong : ∀ w, s.wrong k w → read w = none) : optional? k read fallback ms = none := by
  rw [optional?_eq_bind]
  exact h _ hnull (fun hd => absurd hdefault (hd default)) hwrong

/-- One of the keys of faulty members cannot be read. -/
theorem Faulty.exists_unreadable (h : s.Faulty ms) : ∃ k ∈ s.keys, s.Unreadable ms k := by
  have hmem : ∀ {α : Type} {f : Option Written → Option α} {k : String} {w : Written},
      (some k, w) ∈ ms → f (some w) = none → (sole? k ms).bind f = none := by
    intro α f k w hm hf
    rcases sole?_of_mem hm with hsole | hsole
    · rw [hsole]
      rfl
    · rw [hsole]
      exact hf
  cases h with
  | @missing k hk hd h =>
    refine ⟨k, hk, fun f _ hnone _ => ?_⟩
    rw [sole?_of_absent h]
    exact hnone hd
  | @null k hk h => exact ⟨k, hk, fun f hnull _ _ => hmem h hnull⟩
  | @twice k hk h =>
    refine ⟨k, hk, fun f _ _ _ => ?_⟩
    rw [sole?_of_twice h]
    rfl
  | @content k w hk hw h => exact ⟨k, hk, fun f _ _ hwrong => hmem h (hwrong w hw)⟩

end Layout

end SqlAdapter.Json.Written
