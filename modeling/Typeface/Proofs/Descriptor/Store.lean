import Typeface.Descriptor.Store
import Typeface.Proofs.Descriptor
import Typeface.Proofs.Entries

/-!
# Stores along a run

No two slots refer to the same descriptor, whatever steps led to a store.  So a
step changes the slot that it names and no other, a step that fails changes
none, and a copy lives apart from what it was copied from.
-/

namespace Typeface.Store

/-! ## Slots that share nothing -/

/-- Every slot refers to a descriptor, and no two slots to the same one. -/
structure Separate (store : Store) : Prop where
  held : ∀ {slot place}, store.place? slot = some place → place < store.made.length
  apart : ∀ {slot other place},
    store.place? slot = some place → store.place? other = some place → slot = other

variable {store : Store} {slot other : String} {descriptor : Descriptor}

theorem place?_put_self (store : Store) (slot : String) (descriptor : Descriptor) :
    (store.put slot descriptor).place? slot = some store.made.length := by
  simp [place?, put]

theorem place?_put_of_ne (hother : other ≠ slot) :
    (store.put slot descriptor).place? other = store.place? other := by
  have hskip : (other == slot) = false := beq_false_of_ne hother
  simp only [place?, put, List.lookup_cons, hskip]
  exact Entries.lookup_without_of_ne store.places hother

theorem place?_amend (store : Store) (slot other : String) (descriptor : Descriptor) :
    (store.amend slot descriptor).place? other = store.place? other := by
  unfold amend
  split <;> rfl

theorem separate_empty : empty.Separate where
  held hplace := nomatch hplace
  apart hplace := nomatch hplace

/-- A new place is the slot's own, and the other places were there before. -/
theorem place?_put_eq_some {place : Nat}
    (hplace : (store.put slot descriptor).place? other = some place) :
    other = slot ∧ place = store.made.length ∨ other ≠ slot ∧ store.place? other = some place := by
  by_cases hother : other = slot
  · subst hother
    rw [place?_put_self, Option.some.injEq] at hplace
    exact .inl ⟨rfl, hplace.symm⟩
  · rw [place?_put_of_ne hother] at hplace
    exact .inr ⟨hother, hplace⟩

theorem separate_put (hseparate : store.Separate) (slot : String) (descriptor : Descriptor) :
    (store.put slot descriptor).Separate := by
  have hlength : (store.put slot descriptor).made.length = store.made.length + 1 := by simp [put]
  constructor
  · intro other place hplace
    rcases place?_put_eq_some hplace with ⟨_, hnew⟩ | ⟨_, hold⟩
    · omega
    · have hbound := hseparate.held hold
      omega
  · intro left right place hleft hright
    -- a place cannot be the new one and an old one, for the new one is beyond all those in use
    rcases place?_put_eq_some hleft with ⟨hleftSlot, hnew⟩ | ⟨_, hleftOld⟩
    · rcases place?_put_eq_some hright with ⟨hrightSlot, _⟩ | ⟨_, hrightOld⟩
      · rw [hleftSlot, hrightSlot]
      · have hbound := hseparate.held hrightOld
        omega
    · rcases place?_put_eq_some hright with ⟨_, hnew⟩ | ⟨_, hrightOld⟩
      · have hbound := hseparate.held hleftOld
        omega
      · exact hseparate.apart hleftOld hrightOld

theorem separate_amend (hseparate : store.Separate) (slot : String) (descriptor : Descriptor) :
    (store.amend slot descriptor).Separate := by
  have hlength : (store.amend slot descriptor).made.length = store.made.length := by
    unfold amend
    split <;> simp
  constructor
  · intro other place hplace
    rw [place?_amend] at hplace
    rw [hlength]
    exact hseparate.held hplace
  · intro left right place hleft hright
    rw [place?_amend] at hleft hright
    exact hseparate.apart hleft hright

/-! ## What a slot finds -/

theorem find_eq_ok_iff :
    store.find slot = .ok descriptor ↔
      ∃ place, store.place? slot = some place ∧ store.made[place]? = some descriptor := by
  unfold find
  cases hplace : store.place? slot with
  | none => simp [Failure.ofMishap]
  | some place =>
    cases hmade : store.made[place]? <;> simp [Failure.ofMishap, hmade]

theorem find_put_self (store : Store) (slot : String) (descriptor : Descriptor) :
    (store.put slot descriptor).find slot = .ok descriptor := by
  rw [find_eq_ok_iff]
  exact ⟨store.made.length, place?_put_self store slot descriptor, by simp [put]⟩

theorem find_put_of_ne (hseparate : store.Separate) (hother : other ≠ slot) :
    (store.put slot descriptor).find other = store.find other := by
  unfold find
  rw [place?_put_of_ne hother]
  cases hplace : store.place? other with
  | none => rfl
  | some place =>
    have hheld : place < store.made.length := hseparate.held hplace
    simp only [Option.bind_some, put, List.getElem?_append_left hheld]

theorem find_amend_self {old : Descriptor} (hfound : store.find slot = .ok old) :
    (store.amend slot descriptor).find slot = .ok descriptor := by
  obtain ⟨place, hplace, hmade⟩ := find_eq_ok_iff.mp hfound
  rw [find_eq_ok_iff]
  refine ⟨place, by rw [place?_amend, hplace], ?_⟩
  have hbound : place < store.made.length := (List.getElem?_eq_some_iff.mp hmade).1
  simp [amend, hplace, hbound]

theorem find_amend_of_ne (hseparate : store.Separate) (hother : other ≠ slot) :
    (store.amend slot descriptor).find other = store.find other := by
  unfold find
  rw [place?_amend]
  cases hplace : store.place? other with
  | none => rfl
  | some place =>
    cases hslot : store.place? slot with
    | none => simp only [amend, hslot]
    | some changed =>
      have hne : changed ≠ place := by
        rintro rfl
        exact hother (hseparate.apart hplace hslot)
      simp only [amend, hslot, Option.bind_some, List.getElem?_set_ne hne]

/-- Writing back what a slot already finds changes nothing for any slot. -/
theorem find_amend_same (hseparate : store.Separate) (hfound : store.find slot = .ok descriptor)
    (other : String) : (store.amend slot descriptor).find other = store.find other := by
  by_cases hother : other = slot
  · rw [hother, find_amend_self hfound, hfound]
  · exact find_amend_of_ne hseparate hother

/-! ## One step -/

/-- The slot whose descriptor a step replaces or changes. -/
def Step.destination? : Step → Option String
  | .make slot _ _ => some slot
  | .copy _ target => some target
  | .write slot _ _ => some slot
  | _ => none

theorem separate_assign (hseparate : store.Separate) (slot : String)
    (made : Except Failure Descriptor) (answer : Descriptor → Answer) :
    (store.assign slot made answer).2.Separate := by
  cases made with
  | ok descriptor => exact separate_put hseparate slot descriptor
  | error failure => exact hseparate

theorem separate_write (hseparate : store.Separate) (slot field : String) (given : Value) :
    (store.write slot field given).2.Separate := by
  unfold write
  split
  · exact hseparate
  · exact hseparate
  · exact separate_amend hseparate slot _

theorem separate_step (hseparate : store.Separate) (next : Step) :
    (store.step next).2.Separate := by
  cases next with
  | make slot origin arguments => exact separate_assign hseparate slot _ _
  | copy source target => exact separate_assign hseparate target _ _
  | write slot field given => exact separate_write hseparate slot field given
  | read | describe | compare | hash | roundTrip => exact hseparate

theorem find_assign_of_ne (hseparate : store.Separate) (hother : other ≠ slot)
    (made : Except Failure Descriptor) (answer : Descriptor → Answer) :
    (store.assign slot made answer).2.find other = store.find other := by
  cases made with
  | ok descriptor => exact find_put_of_ne hseparate hother
  | error failure => rfl

theorem find_write_of_ne (hseparate : store.Separate) (hother : other ≠ slot) (field : String)
    (given : Value) : (store.write slot field given).2.find other = store.find other := by
  unfold write
  split
  · rfl
  · rfl
  · exact find_amend_of_ne hseparate hother

theorem find_step_of_ne (hseparate : store.Separate) {next : Step}
    (hother : next.destination? ≠ some other) :
    (store.step next).2.find other = store.find other := by
  cases next with
  | make slot origin arguments =>
    have hne : other ≠ slot := fun heq => hother (by rw [heq]; rfl)
    exact find_assign_of_ne hseparate hne _ _
  | copy source target =>
    have hne : other ≠ target := fun heq => hother (by rw [heq]; rfl)
    exact find_assign_of_ne hseparate hne _ _
  | write slot field given =>
    have hne : other ≠ slot := fun heq => hother (by rw [heq]; rfl)
    exact find_write_of_ne hseparate hne field given
  | read | describe | compare | hash | roundTrip => rfl

theorem find_assign_refused {made : Except Failure Descriptor} {answer : Descriptor → Answer}
    {failure : Failure} (hfailure : (store.assign slot made answer).1 = .error failure) :
    (store.assign slot made answer).2.find other = store.find other := by
  cases made with
  | ok descriptor => simp [assign] at hfailure
  | error failure => rfl

theorem find_write_refused (hseparate : store.Separate) {field : String} {given : Value}
    {failure : Failure} (hfailure : (store.write slot field given).1 = .error failure) :
    (store.write slot field given).2.find other = store.find other := by
  revert hfailure
  unfold write
  split
  case h_1 => exact fun _ => rfl
  case h_2 => exact fun _ => rfl
  case h_3 descriptor field hfound hfield =>
    intro hfailure
    have hrefused : (descriptor.write field given).1 = .error failure := by
      revert hfailure
      cases hresult : (descriptor.write field given).1 <;> simp [hresult, Except.map]
    simp only [Descriptor.write_refused hrefused]
    exact find_amend_same hseparate hfound other

theorem find_step_refused (hseparate : store.Separate) {next : Step} {failure : Failure}
    (hfailure : (store.step next).1 = .error failure) (other : String) :
    (store.step next).2.find other = store.find other := by
  cases next with
  | make slot origin arguments => exact find_assign_refused hfailure
  | copy source target => exact find_assign_refused hfailure
  | write slot field given => exact find_write_refused hseparate hfailure
  | read | describe | compare | hash | roundTrip => rfl

theorem write_ok {name : String} {given : Value} {answer : Answer}
    (hok : (store.write slot name given).1 = .ok answer) :
    ∃ field old new, Descriptor.Field.ofName? name = some field ∧ store.find slot = .ok old ∧
      (store.write slot name given).2.find slot = .ok new ∧ old.Written field given new := by
  revert hok
  unfold write
  split
  case h_1 => simp
  case h_2 => simp
  case h_3 old field hfound hfield =>
    intro hok
    have hwritten : (old.write field given).1 = .ok () := by
      revert hok
      cases hresult : (old.write field given).1 <;> simp [hresult, Except.map]
    have hname : Descriptor.Field.ofName? name = some field := by
      revert hfield
      unfold fieldOf
      cases hknown : Descriptor.Field.ofName? name <;> simp [Failure.ofMishap]
    exact ⟨field, old, (old.write field given).2, hname, hfound, find_amend_self hfound,
      Descriptor.written_of_ok hwritten⟩

theorem step_copy {source target : String} {original : Descriptor}
    (hfound : store.find source = .ok original) :
    store.step (.copy source target) = (.ok (.copied original), store.put target original) := by
  simp [step, hfound, Except.bind, Descriptor.copy_eq, assign]

/-! ## Runs -/

/-- The store that steps in a row lead to. -/
def after (store : Store) (steps : List Step) : Store :=
  steps.foldl (fun known next => (known.step next).2) store

/-- A run goes on from the store that its earlier steps lead to. -/
theorem run_append (store : Store) (earlier later : List Step) :
    store.run (earlier ++ later) = store.run earlier ++ (store.after earlier).run later := by
  induction earlier generalizing store with
  | nil => rfl
  | cons next rest ih =>
    simp only [List.cons_append, run, after, List.foldl_cons]
    rw [ih]
    rfl

theorem separate_after (hseparate : store.Separate) (steps : List Step) :
    (store.after steps).Separate := by
  induction steps generalizing store with
  | nil => exact hseparate
  | cons next rest ih => exact ih (separate_step hseparate next)

theorem find_after_of_ne (hseparate : store.Separate) {steps : List Step}
    (hother : ∀ next ∈ steps, next.destination? ≠ some other) :
    (store.after steps).find other = store.find other := by
  induction steps generalizing store with
  | nil => rfl
  | cons next rest ih =>
    have hrest := ih (separate_step hseparate next) fun later hlater =>
      hother later (List.mem_cons_of_mem next hlater)
    exact hrest.trans (find_step_of_ne hseparate (hother next List.mem_cons_self))

/-! ## What a reached store and its next step keep -/

/-- A slot reads a weight and a style of their enumerations, and is bold from semi-bold on. -/
def ReadsSoundly (store : Store) (slot : String) : Prop :=
  ∃ weight ∈ Weight.all, ∃ style ∈ Style.all,
    store.read slot "weight" = .ok (.value (.weight weight)) ∧
    store.read slot "style" = .ok (.value (.style style)) ∧
    store.read slot "bold" = .ok (.value (.bool (600 ≤ weight.code)))

theorem readsSoundly_of_find (hfound : store.find slot = .ok descriptor) :
    store.ReadsSoundly slot := by
  refine ⟨descriptor.weight, Weight.mem_all _, descriptor.style, Style.mem_all _, ?_, ?_, ?_⟩
  all_goals
    simp only [read, hfound]
    rfl

structure Contract (store : Store) (next : Step) : Prop where
  sound : ∀ slot descriptor, store.find slot = .ok descriptor → store.ReadsSoundly slot
  refused : ∀ failure, (store.step next).1 = .error failure →
    ∀ slot, (store.step next).2.find slot = store.find slot
  /-- A step changes no slot but its destination. -/
  framed : ∀ slot, next.destination? ≠ some slot →
    (store.step next).2.find slot = store.find slot
  written : ∀ slot name given answer, next = .write slot name given →
    (store.step next).1 = .ok answer →
    ∃ field old new, Descriptor.Field.ofName? name = some field ∧ store.find slot = .ok old ∧
      (store.step next).2.find slot = .ok new ∧ old.Written field given new
  copied : ∀ source target original, next = .copy source target →
    store.find source = .ok original →
    (store.step next).1 = .ok (.copied original) ∧
    (store.step next).2.find target = .ok original ∧
    (original.family.sort = "str" →
      (store.step next).2.compare target (.slot source) = .ok (.compared true))
  /-- What happens later to a copy does not show in its source, nor the other way round. -/
  apart : ∀ source target later, next = .copy source target → source ≠ target →
    ((∀ step ∈ later, step.destination? ≠ some source) →
      ((store.step next).2.after later).find source = store.find source) ∧
    ((∀ step ∈ later, step.destination? ≠ some target) →
      ((store.step next).2.after later).find target = (store.step next).2.find target)

theorem compare_copy {source target : String} {original : Descriptor}
    (hseparate : store.Separate) (hfound : store.find source = .ok original)
    (hfamily : original.family.sort = "str") :
    (store.put target original).compare target (.slot source) = .ok (.compared true) := by
  have htarget : (store.put target original).find target = .ok original :=
    find_put_self store target original
  have hsource : (store.put target original).find source = .ok original := by
    by_cases hsame : source = target
    · rw [hsame, htarget]
    · rw [find_put_of_ne hseparate hsame, hfound]
  have hequal := Descriptor.equal_self_of_text hfamily
  simp [compare, valueOf, htarget, hsource, hequal, bind, Except.bind, pure, Except.pure]

/-- The last step of every run. -/
theorem run_keeps_contract (earlier : List Step) (next : Step) :
    empty.run (earlier ++ [next]) = empty.run earlier ++ [(empty.after earlier).step next] ∧
      Contract (empty.after earlier) next := by
  have hseparate : (empty.after earlier).Separate := separate_after separate_empty earlier
  refine ⟨run_append empty earlier [next], ?_⟩
  constructor
  case sound => exact fun slot descriptor hfound => readsSoundly_of_find hfound
  case refused => exact fun failure hfailure slot => find_step_refused hseparate hfailure slot
  case framed => exact fun slot hother => find_step_of_ne hseparate hother
  case written =>
    rintro slot name given answer rfl hok
    exact write_ok hok
  case copied =>
    rintro source target original rfl hfound
    rw [step_copy hfound]
    exact ⟨rfl, find_put_self _ target original, compare_copy hseparate hfound⟩
  case apart =>
    rintro source target later rfl hne
    have hnext := separate_step hseparate (.copy source target)
    refine ⟨fun hlater => ?_, fun hlater => find_after_of_ne hnext hlater⟩
    have hsource : (Step.copy source target).destination? ≠ some source := by
      simpa [Step.destination?] using hne.symm
    rw [find_after_of_ne hnext hlater, find_step_of_ne hseparate hsource]

end Typeface.Store
