import SqlAdapter.Proofs.Criteria.Grammar

/-!
# Criteria step by step

Criteria are built by steps, each of which adds a filter or sets the sort, the limit or the number of rows
to skip. A filter is joined to those before it; of the other kinds the last step counts.

Main statement: what some steps select depends only on the sequence of their filters, all of which are
kept, and on the last step of each other kind. A document selects what the steps for its parts do, in any
order.
-/

set_option autoImplicit false

namespace SqlAdapter

section Options

variable {α β : Type}

theorem iff_eq_some_of_unique {P : Option α → Prop} {o : Option α} {a : α} (h : P o)
    (hunique : ∀ o', P o' → o = o') : P (some a) ↔ o = some a :=
  ⟨hunique _, fun ha => ha ▸ h⟩

theorem eq_toList_of_perm {l : List α} {o : Option α} (h : l.Perm o.toList) : l = o.toList := by
  cases o with
  | none => exact h.eq_nil
  | some a => exact List.perm_singleton.1 h

theorem getLast?_toList (o : Option α) : o.toList.getLast? = o := by cases o <;> rfl

theorem getLast?_filterMap_concat (p : α → Option β) (l : List α) (a : α) :
    ((l ++ [a]).filterMap p).getLast? = (p a).or (l.filterMap p).getLast? := by
  rw [List.filterMap_append]
  show (l.filterMap p ++ (p a).toList).getLast? = _
  rw [List.getLast?_append, getLast?_toList]

end Options

namespace Formula

variable {α β : Type}

theorem conjunction?_toList (o : Option (Formula α)) : conjunction? o.toList = o := by cases o <;> rfl

theorem conjunction?_concat (fs : List (Formula α)) (f : Formula α) :
    conjunction? (fs ++ [f]) = conjunction? ((conjunction? fs).toList ++ [f]) := by
  cases fs with
  | nil => rfl
  | cons g gs => simp [conjunction?]

theorem map_conjunction? (g : α → β) (fs : List (Formula α)) :
    (conjunction? fs).map (map g) = conjunction? (fs.map (map g)) := by
  cases fs with
  | nil => rfl
  | cons f fs =>
    have hchain : ∀ f : Formula α, (fs.foldl and f).map g = (fs.map (map g)).foldl and (f.map g) := by
      induction fs with
      | nil => exact fun _ => rfl
      | cons f' fs ih => exact fun f => ih (.and f f')
    exact congrArg some (hchain f)

end Formula

theorem Filter.operands_conjunction? (fs : List Filter) :
    ((Formula.conjunction? fs).map operands).getD [] = fs.flatMap operands := by
  cases fs with
  | nil => rfl
  | cons f fs =>
    show operands (fs.foldl Formula.and f) = _
    rw [Formula.map_foldl operands_and List.append_assoc List.append_nil, ← flatten_eq_foldr]
    rfl

namespace Criteria

/-! ## Steps -/

inductive Step where
  | filterBy (f : Filter)
  | sortBy (s : SortSpec)
  | take (n : UInt64)
  | drop (n : UInt64)

namespace Step

def apply (c : Criteria) : Step → Criteria
  | filterBy f => c.filterBy f
  | sortBy s => c.sortBy s
  | take n => c.take n
  | drop n => c.drop n

def filter? : Step → Option Filter
  | filterBy f => some f
  | _ => none

def sort? : Step → Option SortSpec
  | sortBy s => some s
  | _ => none

def limit? : Step → Option UInt64
  | take n => some n
  | _ => none

def skip? : Step → Option UInt64
  | drop n => some n
  | _ => none

end Step

/-- The criteria that are built by some steps, the first one first. -/
def ofSteps (steps : List Step) : Criteria := steps.foldl Step.apply ∅

/-- The filters of some steps in their order. -/
def filters (steps : List Step) : List Filter := steps.filterMap Step.filter?

def lastSort (steps : List Step) : Option SortSpec := (steps.filterMap Step.sort?).getLast?

def lastLimit (steps : List Step) : Option UInt64 := (steps.filterMap Step.limit?).getLast?

def lastSkip (steps : List Step) : Option UInt64 := (steps.filterMap Step.skip?).getLast?

/-- Steps that have the same filters in the same order and agree on the last step of each other kind. -/
structure SameParts (steps steps' : List Step) : Prop where
  filters : Criteria.filters steps = Criteria.filters steps'
  sort : lastSort steps = lastSort steps'
  limit : lastLimit steps = lastLimit steps'
  skip : lastSkip steps = lastSkip steps'

/-- All filters of some steps joined by AND from left to right, and the last of each other part. -/
def joined (steps : List Step) : Criteria where
  filter := Formula.conjunction? (filters steps)
  sort := lastSort steps
  limit := lastLimit steps
  skip := lastSkip steps

section Steps

variable {steps steps' : List Step} {step : Step}

theorem filters_concat : filters (steps ++ [step]) = filters steps ++ step.filter?.toList :=
  List.filterMap_append

theorem lastSort_concat : lastSort (steps ++ [step]) = step.sort?.or (lastSort steps) :=
  getLast?_filterMap_concat ..

theorem lastLimit_concat : lastLimit (steps ++ [step]) = step.limit?.or (lastLimit steps) :=
  getLast?_filterMap_concat ..

theorem lastSkip_concat : lastSkip (steps ++ [step]) = step.skip?.or (lastSkip steps) :=
  getLast?_filterMap_concat ..

theorem filterBy_eq (c : Criteria) (f : Filter) :
    c.filterBy f = { c with filter := Formula.conjunction? (c.filter.toList ++ [f]) } := by
  rw [filterBy]
  cases c.filter <;> rfl

/-- A further step joins its filter to the others, or sets its part anew. -/
theorem joined_concat : joined (steps ++ [step]) = step.apply (joined steps) := by
  rw [joined, filters_concat, lastSort_concat, lastLimit_concat, lastSkip_concat]
  cases step with
  | filterBy f =>
    show Criteria.mk (Formula.conjunction? (filters steps ++ [f])) _ _ _ = (joined steps).filterBy f
    rw [Formula.conjunction?_concat, filterBy_eq]
    rfl
  | sortBy | take | drop =>
    show Criteria.mk (Formula.conjunction? (filters steps ++ [])) _ _ _ = _
    rw [List.append_nil]
    rfl

theorem ofSteps_eq_joined (steps : List Step) : ofSteps steps = joined steps := by
  induction steps using List.reverseRecOn with
  | nil => rfl
  | append_singleton steps step ih =>
    rw [joined_concat, ← ih]
    exact List.foldl_append

theorem SameParts.joined_eq (h : SameParts steps steps') : joined steps = joined steps' := by
  rw [joined, joined, h.filters, h.sort, h.limit, h.skip]

end Steps

/-! ## The steps of a document -/

/-- The steps that an object calls for: there is one for each part that it states. -/
def CallsFor (ms : List (String × Json)) : Step → Prop
  | .filterBy f => Filter.ofDocument (part "filter" ms) = .ok (some f)
  | .sortBy s => StatesSort (part "sort" ms) (some s)
  | .take n => StatesCount (part "limit" ms) (some n)
  | .drop n => StatesCount (part "skip" ms) (some n)

/-- All steps that an object calls for, each of them once, in any order. -/
structure Spells (ms : List (String × Json)) (steps : List Step) : Prop where
  once : steps.Nodup
  mem_iff : ∀ step, step ∈ steps ↔ CallsFor ms step

/-- The steps that set the parts of criteria one after the other. -/
def parts (c : Criteria) : List Step :=
  c.filter.toList.map .filterBy ++ c.sort.toList.map .sortBy ++ c.limit.toList.map .take ++
    c.skip.toList.map .drop

section Documents

variable {ms : List (String × Json)} {c : Criteria} {steps calls : List Step} {step : Step}

theorem nodup_parts (c : Criteria) : c.parts.Nodup := by
  obtain ⟨filter, sort, limit, skip⟩ := c
  cases filter <;> cases sort <;> cases limit <;> cases skip <;> simp [parts]

theorem filterMap_parts (c : Criteria) :
    c.parts.filterMap Step.filter? = c.filter.toList ∧ c.parts.filterMap Step.sort? = c.sort.toList ∧
      c.parts.filterMap Step.limit? = c.limit.toList ∧ c.parts.filterMap Step.skip? = c.skip.toList := by
  obtain ⟨filter, sort, limit, skip⟩ := c
  cases filter <;> cases sort <;> cases limit <;> cases skip <;> exact ⟨rfl, rfl, rfl, rfl⟩

theorem callsFor_iff (h : States ms c) : CallsFor ms step ↔ step ∈ c.parts := by
  cases step with
  | filterBy f =>
    have hmem : Step.filterBy f ∈ c.parts ↔ c.filter = some f := by simp [parts]
    rw [hmem, CallsFor, h.filter, Except.ok.injEq]
  | sortBy s =>
    have hmem : Step.sortBy s ∈ c.parts ↔ c.sort = some s := by simp [parts]
    rw [hmem]
    exact iff_eq_some_of_unique h.sort fun _ => h.sort.unique
  | take n =>
    have hmem : Step.take n ∈ c.parts ↔ c.limit = some n := by simp [parts]
    rw [hmem]
    exact iff_eq_some_of_unique h.limit fun _ => h.limit.unique
  | drop n =>
    have hmem : Step.drop n ∈ c.parts ↔ c.skip = some n := by simp [parts]
    rw [hmem]
    exact iff_eq_some_of_unique h.skip fun _ => h.skip.unique

theorem Spells.perm_parts (h : Spells ms calls) (hc : States ms c) : calls.Perm c.parts := by
  rw [List.perm_ext_iff_of_nodup h.once c.nodup_parts]
  intro step
  rw [h.mem_iff, callsFor_iff hc]

theorem spells_parts (h : States ms c) : Spells ms c.parts where
  once := c.nodup_parts
  mem_iff _ := (callsFor_iff h).symm

/-- Steps that set the parts of criteria build them, whatever their order. -/
theorem ofSteps_of_perm (h : steps.Perm c.parts) : ofSteps steps = c := by
  obtain ⟨hfilter, hsort, hlimit, hskip⟩ := c.filterMap_parts
  have hfilters := eq_toList_of_perm (hfilter ▸ h.filterMap Step.filter?)
  have hsorts := eq_toList_of_perm (hsort ▸ h.filterMap Step.sort?)
  have hlimits := eq_toList_of_perm (hlimit ▸ h.filterMap Step.limit?)
  have hskips := eq_toList_of_perm (hskip ▸ h.filterMap Step.skip?)
  rw [ofSteps_eq_joined, joined, filters, lastSort, lastLimit, lastSkip, hfilters, hsorts, hlimits,
    hskips, Formula.conjunction?_toList, getLast?_toList, getLast?_toList, getLast?_toList]

/-! ## What is selected -/

/-- A selection binds the operands of all filters and shows the conjunction of their conditions. -/
theorem shown_of_select_joined {d : Dialect} {table : String} {s : Statement}
    (h : Statement.select d table (joined steps) = .ok s) :
    s.values = (filters steps).flatMap Filter.operands ∧
      ∃ q, Sql.Command.read? d s.sql = some (.select q) ∧
        q.condition = Formula.conjunction? ((filters steps).map Filter.condition) := by
  obtain ⟨order, -, rfl⟩ := Statement.select_eq_ok_iff.1 h
  exact ⟨Filter.operands_conjunction? _, _, Sql.Command.read?_select _,
    Formula.map_conjunction? Filter.Atom.test _⟩

end Documents

/-- What steps select depends on nothing but their filters in order and the last step of each other kind.
It is what the conjunction of all the filters selects, with the values of each of them, whatever stands
between them. What a document selects is what the steps that it calls for select, whatever their order. -/
theorem ofSteps_selects :
    (∀ (d : Dialect) (table : String) (steps : List Step),
      (∀ steps', SameParts steps' steps →
        Statement.select d table (ofSteps steps') = Statement.select d table (ofSteps steps)) ∧
      Statement.select d table (ofSteps steps) = Statement.select d table
        { filter := Formula.conjunction? (filters steps), sort := lastSort steps,
          limit := lastLimit steps, skip := lastSkip steps } ∧
      ∀ s, Statement.select d table (ofSteps steps) = .ok s →
        s.values = (filters steps).flatMap Filter.operands ∧
        ∃ q, Sql.Command.read? d s.sql = some (.select q) ∧
          q.condition = Formula.conjunction? ((filters steps).map Filter.condition)) ∧
    ∀ j c, j.Ordered → ofDocument j = .ok c → ∃ ms, j = .object ms ∧ (∃ calls, Spells ms calls) ∧
      ∀ calls, Spells ms calls → ∀ steps, steps.Perm calls → ∀ d table,
        Statement.select d table (ofSteps steps) = Statement.select d table c := by
  constructor
  · intro d table steps
    refine ⟨?_, congrArg _ (ofSteps_eq_joined steps), ?_⟩
    · intro steps' h
      rw [ofSteps_eq_joined, ofSteps_eq_joined, h.joined_eq]
    · intro s h
      rw [ofSteps_eq_joined] at h
      exact shown_of_select_joined h
  · intro j c hj h
    obtain ⟨ms, rfl, hstates⟩ := ((computes_document hj).ok_iff c).1 h
    refine ⟨ms, rfl, ⟨_, spells_parts hstates⟩, ?_⟩
    intro calls hcalls steps hsteps d table
    rw [ofSteps_of_perm (hsteps.trans (hcalls.perm_parts hstates))]

/-- Three filters, the last one without an operand, among two limits and two sorts, of which the first cannot
be put in order; and a document with a null part, against its steps from the last to the first. -/
theorem ofSteps_selects_people :
    let adult : Filter := .atom (.compare "age" .gte (.int 18))
    let known : Filter := .or (.atom (.oneOf "name" [.text "Ada", .null])) (.not (.atom (.isNull "name")))
    let nobody : Filter := .atom (.oneOf "tag" [])
    let byAge := SortSpec.ordered [("age", -1)]
    let steps : List Step := [.take 3, .filterBy adult, .sortBy (.sequence [.null]), .drop 5,
      .filterBy known, .sortBy byAge, .filterBy nobody, .take 7]
    let steps' : List Step := [.sortBy byAge, .filterBy adult, .filterBy known, .take 7,
      .filterBy nobody, .drop 5]
    let members : List (String × Json) := [("age", .bool true)]
    let document : Json := .object
      [("filter", .object [("age", .ofNat 18)]), ("limit", .number (.integer (.ofUInt64 5))),
        ("skip", .null), ("sort", .object members)]
    (∀ d table, Statement.select d table (ofSteps steps) = Statement.select d table (ofSteps steps') ∧
      Statement.select d table (ofSteps steps) = Statement.select d table
        ⟨some (.and (.and adult known) nobody), some byAge, some 7, some 5⟩) ∧
    (∃ s, Statement.select .mysql "people" (ofSteps steps) = .ok s ∧
      s.values = [.int 18, .text "Ada", .null]) ∧
    ∃ c, ofDocument document = .ok c ∧ ∀ d table, Statement.select d table
      (ofSteps [.take 5, .sortBy (.keyed members), .filterBy (.atom (.compare "age" .eq (.int 18)))]) =
        Statement.select d table c := by
  intro adult known nobody byAge steps steps' members document
  obtain ⟨hsteps, hdocuments⟩ := ofSteps_selects
  refine ⟨?_, ?_, ?_⟩
  · intro d table
    obtain ⟨hsame, hjoined, -⟩ := hsteps d table steps
    exact ⟨(hsame steps' ⟨rfl, rfl, rfl, rfl⟩).symm, hjoined⟩
  · obtain ⟨-, hjoined, hvalues⟩ := hsteps .mysql "people" steps
    have horder : byAge.normalize = .ok _ := SortSpec.normalize_ordered _
    have hselect := hjoined.trans (Statement.select_eq_ok_iff.2 ⟨_, horder, rfl⟩)
    exact ⟨_, hselect, (hvalues _ hselect).1⟩
  · have hordered : document.Ordered := Json.Written.ordered_of_denotes?
      (show Json.Written.denotes? 3 document.written = some document from rfl)
    let c : Criteria := ⟨some (.atom (.compare "age" .eq (.int 18))), some (.keyed members), some 5, none⟩
    have hok : ofDocument document = .ok c := rfl
    obtain ⟨ms, hms, -, hselected⟩ := hdocuments document c hordered hok
    obtain rfl := Json.object.inj hms
    have hstates : States _ c := states_of_ofDocument (by decide +kernel) hok
    exact ⟨c, hok, hselected c.parts (spells_parts hstates) _ c.parts.reverse_perm⟩

end Criteria

end SqlAdapter
