import Typeface.Failure

/-!
# Failures that pass a handler

A handler for one group of faults lets every other failure through.  Raising a
fault gives a fault of its own group, as long as its message can be written.
What holds of the failures of each step holds of those of all steps in a row.
-/

namespace Typeface.Failure

variable {Content : Type}

/-- Whether an outcome is a failure that a handler for a group of faults lets through. -/
def escapes (group : Fault.Group) : Except Failure Content → Bool
  | .ok _ => false
  | .error failure => !failure.isIn group

@[simp]
theorem escapes_ok (group : Fault.Group) (content : Content) :
    escapes group (.ok content) = false := rfl

@[simp]
theorem escapes_error (group : Fault.Group) (failure : Failure) :
    escapes group (.error failure : Except Failure Content) = !failure.isIn group := rfl

theorem escapes_eq_true_iff {group : Fault.Group} {outcome : Except Failure Content} :
    escapes group outcome = true ↔
      ∃ failure, outcome = .error failure ∧ failure.isIn group = false := by
  cases outcome <;> simp

theorem raise_ne_ok (fault : Fault) (content : Content) : raise fault ≠ .ok content := by
  unfold raise
  split <;> nofun

/-- A fault is raised as itself unless its message cannot be written. -/
theorem raise_eq_fault_iff {fault : Fault} :
    (raise fault : Except Failure Content) = .error (.fault fault) ↔
      ∀ reason, fault.message ≠ .error reason := by
  cases hmessage : fault.message <;> simp [raise, hmessage]

theorem raise_of_message {fault : Fault} {shown : HostText} (hmessage : fault.message = .ok shown) :
    (raise fault : Except Failure Content) = .error (.fault fault) := by
  simp only [raise, hmessage]

theorem raise_eq_mishap_iff {fault : Fault} {mishap : Mishap} :
    (raise fault : Except Failure Content) = .error (.mishap mishap) ↔
      ∃ reason, fault.message = .error reason ∧ mishap = .ofUnwritten reason := by
  cases hmessage : fault.message <;> simp [raise, hmessage, eq_comm]

/-- The outcome is the promised one, or a mishap exactly if something cannot be put into words. -/
structure Keeps (Promised : Except Failure Content → Prop) (Unspeakable : Value.Unwritten → Prop)
    (outcome : Except Failure Content) : Prop where
  promise : ∃ promised, (∀ other, Promised other ↔ other = promised) ∧
    (outcome = promised ↔ ∀ reason, ¬ Unspeakable reason)
  mishap : ∀ mishap, outcome = .error (.mishap mishap) ↔
    ∃ reason, Unspeakable reason ∧ mishap = .ofUnwritten reason

section Keeps

variable {Promised : Except Failure Content → Prop} {Unspeakable : Value.Unwritten → Prop}

theorem keeps_ok {content : Content} (hpromised : ∀ other, Promised other ↔ other = .ok content)
    (hspeakable : ∀ reason, ¬ Unspeakable reason) : Keeps Promised Unspeakable (.ok content) := by
  constructor
  case promise => exact ⟨.ok content, hpromised, iff_of_true rfl hspeakable⟩
  case mishap =>
    refine fun mishap => iff_of_false nofun ?_
    rintro ⟨reason, hunspeakable, _⟩
    exact hspeakable reason hunspeakable

/-- A promised fault comes about unless its message cannot be written. -/
theorem keeps_raise {fault : Fault}
    (hpromised : ∀ other, Promised other ↔ other = .error (.fault fault))
    (hunspeakable : ∀ reason, Unspeakable reason ↔ fault.message = .error reason) :
    Keeps Promised Unspeakable (raise fault) := by
  constructor
  case promise =>
    refine ⟨_, hpromised, ?_⟩
    simp only [raise_eq_fault_iff, hunspeakable, ne_eq]
  case mishap =>
    simp only [raise_eq_mishap_iff, hunspeakable, implies_true]

/-- A promised content that holds what cannot be written gives way to the mishap of writing it. -/
theorem keeps_ofUnwritten {content : Content} {reason : Value.Unwritten}
    (hpromised : ∀ other, Promised other ↔ other = .ok content)
    (hunspeakable : ∀ other, Unspeakable other ↔ other = reason) :
    Keeps Promised Unspeakable (ofMishap (.ofUnwritten reason)) := by
  constructor
  case promise =>
    refine ⟨.ok content, hpromised, iff_of_false nofun ?_⟩
    intro hspeakable
    exact hspeakable reason ((hunspeakable reason).mpr rfl)
  case mishap =>
    intro mishap
    simp only [ofMishap, hunspeakable, exists_eq_left, Except.error.injEq, Failure.mishap.injEq]
    exact eq_comm

end Keeps

theorem escapes_raise {fault : Fault} {group : Fault.Group}
    (hmessage : fault.message?.isSome = true) (hgroup : fault.group = group) :
    escapes group (raise fault : Except Failure Content) = false := by
  cases hshown : fault.message with
  | ok shown => simp [raise, hshown, isIn, fault?, hgroup]
  | error reason => simp [Fault.message?, hshown, Except.toOption] at hmessage

/-- Every failure of an outcome has a property. -/
def Fails (property : Failure → Prop) (outcome : Except Failure Content) : Prop :=
  ∀ failure, outcome = .error failure → property failure

variable {property : Failure → Prop}

@[simp]
theorem fails_ok (content : Content) : Fails property (.ok content) := nofun

@[simp]
theorem fails_error {failure : Failure} :
    Fails property (.error failure : Except Failure Content) ↔ property failure := by
  simp [Fails]

theorem fails_bind {Other : Type} {first : Except Failure Content}
    {next : Content → Except Failure Other} (hfirst : Fails property first)
    (hnext : ∀ content, Fails property (next content)) : Fails property (first >>= next) := by
  cases first with
  | error failure => simpa [bind, Except.bind] using hfirst
  | ok content => exact hnext content

end Typeface.Failure
