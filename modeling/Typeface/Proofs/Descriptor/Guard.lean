import Typeface.Proofs.Descriptor

/-!
# What guarded fields take

Weight and style take a member of their own enumeration, or the item that stands
for one.  An item of the right vocabulary with any other name is not found, and
every other value is of the wrong vocabulary: of these three verdicts each value
has exactly one, whatever an item holds.  The message of a refusal shows what
the item holds, and where that cannot be written the write ends in a mishap.
-/

namespace Typeface

/-- An enumeration whose members a field takes, and their names in items. -/
structure Scale (Member : Type) where
  vocabulary : Vocabulary
  embed : Member → Value
  name : Member → String

namespace Scale

def weights : Scale Weight where
  vocabulary := .weightScale
  embed := .weight
  name := Weight.name

def styles : Scale Style where
  vocabulary := .styleKind
  embed := .style
  name := Style.name

variable {Member : Type} {scale : Scale Member} {given : Value}

/-- The item of a name in the vocabulary of the scale. -/
def item (scale : Scale Member) (name : Value) : Value :=
  .item (.vocabulary scale.vocabulary) name

/-- What a refusal calls a value: by its own vocabulary, or by its sort where it has none. -/
inductive Called (given : Value) : Value → Prop
  | own {vocabulary : Value} (howner : given.vocabularyOf? = some vocabulary)
      (hgiven : vocabulary ≠ .null) : Called given vocabulary
  | sort (howner : given.vocabularyOf? = none ∨ given.vocabularyOf? = some .null) :
      Called given (.text given.sort)

/-- What should come of a value given for a member of the scale. -/
inductive Judged (scale : Scale Member) (given : Value) : Except Failure Member → Prop
  | taken {member : Member}
      (hgiven : given = scale.embed member ∨ given = scale.item (.text (scale.name member))) :
      Judged scale given (.ok member)
  | unknown {name : Value} (hgiven : given = scale.item name)
      (hname : ∀ member, name ≠ .text (scale.name member)) :
      Judged scale given
        (.error (.fault (.fontNotFound name (.text scale.vocabulary.title))))
  | foreign {actual : Value} (hmember : ∀ member, given ≠ scale.embed member)
      (hitem : ∀ name, given ≠ scale.item name) (hactual : Called given actual) :
      Judged scale given
        (.error (.fault (.wrongVocabulary (.vocabulary scale.vocabulary) actual)))

/-- A value whose refusal cannot be put into words. -/
inductive Unspeakable (scale : Scale Member) : Value → Value.Unwritten → Prop
  | name {name : Value} {reason : Value.Unwritten} (hname : name.display = .error reason) :
      Unspeakable scale (scale.item name) reason
  | vocabulary {owner name : Value} {reason : Value.Unwritten}
      (hother : owner ≠ .vocabulary scale.vocabulary)
      (howner : (Fault.plain owner).display = .error reason) :
      Unspeakable scale (.item owner name) reason

/-! ## One verdict for each value -/

theorem Called.unique {left right : Value} (hleft : Called given left)
    (hright : Called given right) : left = right := by
  cases hleft with
  | own howner hgiven =>
    cases hright with
    | own hother _ => exact Option.some.inj (howner.symm.trans hother)
    | sort hother => simp [howner, hgiven] at hother
  | sort howner =>
    cases hright with
    | own hother hgiven => simp [hother, hgiven] at howner
    | sort _ => rfl

theorem called_actualVocabulary (given : Value) :
    Called given (Descriptor.actualVocabulary given) := by
  unfold Descriptor.actualVocabulary
  split
  case h_1 hnone => exact .sort (.inl hnone)
  case h_2 hnull => exact .sort (.inr hnull)
  case h_3 owner hnull howner =>
    refine .own howner ?_
    rintro rfl
    exact hnull rfl

/-- Members are told apart by their values and their names, and none of them is an item. -/
structure Lawful (scale : Scale Member) : Prop where
  embed_ne_item : ∀ member owner name, scale.embed member ≠ .item owner name
  eq_of_embed : ∀ left right, scale.embed left = scale.embed right → left = right
  eq_of_name : ∀ left right, scale.name left = scale.name right → left = right

theorem lawful_weights : weights.Lawful where
  embed_ne_item := nofun
  eq_of_embed _ _ := Value.weight.inj
  eq_of_name _ _ := eq_of_key_eq Weight.ofName?_name

theorem lawful_styles : styles.Lawful where
  embed_ne_item := nofun
  eq_of_embed _ _ := Value.style.inj
  eq_of_name _ _ := eq_of_key_eq Style.ofName?_name

theorem item_inj {left right : Value} (hitem : scale.item left = scale.item right) :
    left = right := by
  simpa [item] using hitem

theorem Lawful.unique_member (hlawful : scale.Lawful) {left right : Member}
    (hleft : given = scale.embed left ∨ given = scale.item (.text (scale.name left)))
    (hright : given = scale.embed right ∨ given = scale.item (.text (scale.name right))) :
    left = right := by
  rcases hleft with rfl | rfl
  · rcases hright with hsame | hitem
    · exact hlawful.eq_of_embed _ _ hsame
    · exact absurd hitem (hlawful.embed_ne_item _ _ _)
  · rcases hright with hembed | hsame
    · exact absurd hembed.symm (hlawful.embed_ne_item _ _ _)
    · exact hlawful.eq_of_name _ _ (Value.text.inj (item_inj hsame))

theorem verdict_of_taken (hlawful : scale.Lawful) {member : Member}
    (hgiven : given = scale.embed member ∨ given = scale.item (.text (scale.name member)))
    (outcome : Except Failure Member) : scale.Judged given outcome ↔ outcome = .ok member := by
  constructor
  · intro hjudged
    cases hjudged with
    | taken hother => rw [hlawful.unique_member hgiven hother]
    | unknown hitem hname =>
      rcases hgiven with rfl | rfl
      · exact absurd hitem (hlawful.embed_ne_item _ _ _)
      · exact absurd (item_inj hitem).symm (hname member)
    | foreign hmember hitem _ => exact absurd hgiven (not_or.mpr ⟨hmember member, hitem _⟩)
  · rintro rfl
    exact .taken hgiven

theorem verdict_of_unknown (hlawful : scale.Lawful) {name : Value}
    (hname : ∀ member, name ≠ .text (scale.name member)) (outcome : Except Failure Member) :
    scale.Judged (scale.item name) outcome ↔
      outcome = .error (.fault (.fontNotFound name (.text scale.vocabulary.title))) := by
  constructor
  · intro hjudged
    generalize hgiven : scale.item name = given at hjudged
    cases hjudged with
    | @taken member htaken =>
      subst hgiven
      rcases htaken with hembed | hitem
      · exact absurd hembed.symm (hlawful.embed_ne_item _ _ _)
      · exact absurd (item_inj hitem) (hname member)
    | unknown hitem _ => rw [item_inj (hgiven.trans hitem)]
    | foreign _ hitem _ => exact absurd hgiven.symm (hitem name)
  · rintro rfl
    exact .unknown rfl hname

theorem verdict_of_foreign (hmember : ∀ member, given ≠ scale.embed member)
    (hitem : ∀ name, given ≠ scale.item name) (outcome : Except Failure Member) :
    scale.Judged given outcome ↔ outcome = .error (.fault (.wrongVocabulary
      (.vocabulary scale.vocabulary) (Descriptor.actualVocabulary given))) := by
  constructor
  · intro hjudged
    cases hjudged with
    | taken hgiven => exact absurd hgiven (not_or.mpr ⟨hmember _, hitem _⟩)
    | unknown hgiven _ => exact absurd hgiven (hitem _)
    | foreign _ _ hactual => rw [hactual.unique (called_actualVocabulary given)]
  · rintro rfl
    exact .foreign hmember hitem (called_actualVocabulary given)

/-! ## Refusals and their messages -/

theorem message_fontNotFound_eq_error_iff {name : Value} {kind : String}
    {reason : Value.Unwritten} :
    (Fault.fontNotFound name (.text kind)).message = .error reason ↔
      name.display = .error reason := by
  rw [← Value.spoken_eq_error_iff]
  cases hname : name.spoken <;> simp [Fault.message, hname, bind, Except.bind, pure, Except.pure]

theorem message_wrongVocabulary_eq_error_iff {expected : Vocabulary} {actual : Value}
    {reason : Value.Unwritten} :
    (Fault.wrongVocabulary (.vocabulary expected) actual).message = .error reason ↔
      (Fault.plain actual).display = .error reason := by
  have hexpected : (Fault.plain (.vocabulary expected)).spoken = .ok expected.title :=
    Value.spoken_text expected.title
  rw [← Value.spoken_eq_error_iff]
  cases hactual : (Fault.plain actual).spoken <;>
    simp [Fault.message, hexpected, hactual, bind, Except.bind, pure, Except.pure]

theorem unspeakable_item_iff {name : Value} {reason : Value.Unwritten} :
    scale.Unspeakable (scale.item name) reason ↔ name.display = .error reason := by
  constructor
  · intro hunspeakable
    generalize hgiven : scale.item name = given at hunspeakable
    cases hunspeakable with
    | name hname =>
      cases hgiven
      exact hname
    | vocabulary hother _ =>
      cases hgiven
      exact absurd rfl hother
  · exact .name

/-- Of the values outside the scale, only items are called by anything that may have no words. -/
theorem unspeakable_foreign_iff (hitem : ∀ name, given ≠ scale.item name)
    {reason : Value.Unwritten} :
    scale.Unspeakable given reason ↔
      (Fault.plain (Descriptor.actualVocabulary given)).display = .error reason := by
  constructor
  · intro hunspeakable
    cases hunspeakable with
    | name _ => exact absurd rfl (hitem _)
    | @vocabulary owner name _ _ howner => cases owner <;> first | exact howner | cases howner
  · intro hactual
    cases given with
    | item owner name =>
      refine .vocabulary ?_ ?_
      · rintro rfl
        exact hitem name rfl
      · cases owner <;> first | exact hactual | cases hactual
    | _ => cases hactual

/-- The outcome for a value is its verdict, or a mishap where the refusal cannot be put into
words. -/
structure Answers (scale : Scale Member) (given : Value) (outcome : Except Failure Member) :
    Prop where
  verdict : ∃ verdict, (∀ other, scale.Judged given other ↔ other = verdict) ∧
    (outcome = verdict ↔ ∀ reason, ¬ scale.Unspeakable given reason)
  mishap : ∀ mishap, outcome = .error (.mishap mishap) ↔
    ∃ reason, scale.Unspeakable given reason ∧ mishap = .ofUnwritten reason

theorem answers_of_keeps {outcome : Except Failure Member}
    (hkeeps : Failure.Keeps (scale.Judged given) (scale.Unspeakable given) outcome) :
    scale.Answers given outcome :=
  ⟨hkeeps.promise, hkeeps.mishap⟩

theorem answers_taken (hlawful : scale.Lawful) {member : Member}
    (hgiven : given = scale.embed member ∨ given = scale.item (.text (scale.name member))) :
    scale.Answers given (.ok member) := by
  have hspeakable : ∀ reason, ¬ scale.Unspeakable given reason := by
    intro reason hunspeakable
    rcases hgiven with rfl | rfl
    · generalize hvalue : scale.embed member = value at hunspeakable
      cases hunspeakable with
      | name _ => exact hlawful.embed_ne_item _ _ _ hvalue
      | vocabulary _ _ => exact hlawful.embed_ne_item _ _ _ hvalue
    · rw [unspeakable_item_iff] at hunspeakable
      cases hunspeakable
  exact answers_of_keeps (Failure.keeps_ok (verdict_of_taken hlawful hgiven) hspeakable)

theorem answers_fontNotFound (hlawful : scale.Lawful) {name : Value}
    (hname : ∀ member, name ≠ .text (scale.name member)) :
    scale.Answers (scale.item name)
      (Failure.raise (.fontNotFound name (.text scale.vocabulary.title))) := by
  apply answers_of_keeps
  apply Failure.keeps_raise (verdict_of_unknown hlawful hname)
  intro reason
  rw [unspeakable_item_iff, message_fontNotFound_eq_error_iff]

theorem answers_wrongVocabulary (hmember : ∀ member, given ≠ scale.embed member)
    (hitem : ∀ name, given ≠ scale.item name) :
    scale.Answers given (Failure.raise (.wrongVocabulary (.vocabulary scale.vocabulary)
      (Descriptor.actualVocabulary given))) := by
  apply answers_of_keeps
  apply Failure.keeps_raise (verdict_of_foreign hmember hitem)
  intro reason
  rw [unspeakable_foreign_iff hitem, message_wrongVocabulary_eq_error_iff]

theorem answers_weightOf (given : Value) : weights.Answers given (Descriptor.weightOf given) := by
  unfold Descriptor.weightOf
  split
  case h_1 weight => exact answers_taken lawful_weights (.inl rfl)
  case h_2 name =>
    by_cases hknown : ∃ weight : Weight, name = .text weight.name
    · obtain ⟨weight, rfl⟩ := hknown
      rw [(Weight.ofName_eq_ok_iff _ weight).mpr rfl]
      exact answers_taken lawful_weights (.inr rfl)
    · rw [not_exists] at hknown
      rw [Weight.ofName_unknown hknown]
      exact answers_fontNotFound lawful_weights hknown
  case h_3 hweight hitem => exact answers_wrongVocabulary hweight hitem

theorem answers_styleOf (given : Value) : styles.Answers given (Descriptor.styleOf given) := by
  unfold Descriptor.styleOf
  split
  case h_1 style => exact answers_taken lawful_styles (.inl rfl)
  case h_2 name =>
    by_cases hknown : ∃ style : Style, name = .text style.name
    · obtain ⟨style, rfl⟩ := hknown
      rw [(Style.ofName_eq_ok_iff _ style).mpr rfl]
      exact answers_taken lawful_styles (.inr rfl)
    · rw [not_exists] at hknown
      rw [Style.ofName_unknown hknown]
      exact answers_fontNotFound lawful_styles hknown
  case h_3 hstyle hitem => exact answers_wrongVocabulary hstyle hitem

end Scale

namespace Descriptor

open Scale

/-- A descriptor after an assignment, which changes nothing where it fails. -/
def assigned {Member : Type} (old : Descriptor) (put : Member → Descriptor) :
    Except Failure Member → Except Failure Unit × Descriptor
  | .ok member => (.ok (), put member)
  | .error failure => (.error failure, old)

/-- Assigning a value and constructing with it come to one outcome; a constructor goes on to the
style once it has the weight.  The outcome is the verdict on the value, or a mishap exactly if a
refusal of the value cannot be put into words.  An item that names the vocabulary by a text is
refused, and the items that a descriptor shows for its weight and its style can be written back. -/
theorem guarded_write_iff (old : Descriptor) (givenWeight givenStyle : Value) :
    (∃ weightOutcome styleOutcome,
      weights.Answers givenWeight weightOutcome ∧ styles.Answers givenStyle styleOutcome ∧
      old.write .weight givenWeight =
        old.assigned (fun weight => { old with weight }) weightOutcome ∧
      old.write .style givenStyle =
        old.assigned (fun style => { old with style }) styleOutcome ∧
      ∀ family, make family givenWeight givenStyle =
        weightOutcome.bind fun weight =>
          styleOutcome.map fun style => { family, weight, style }) ∧
    (∀ name, (old.write .weight (.item (.text "WeightScale") name)).1 =
        .error (.fault (.wrongVocabulary (.vocabulary .weightScale) (.text "WeightScale"))) ∧
      (old.write .style (.item (.text "StyleKind") name)).1 =
        .error (.fault (.wrongVocabulary (.vocabulary .styleKind) (.text "StyleKind")))) ∧
    old.write .weight (old.get .weightItem) = (.ok (), old) ∧
    old.write .style (old.get .styleItem) = (.ok (), old) := by
  have hmake : ∀ family, make family givenWeight givenStyle =
      (weightOf givenWeight).bind fun weight =>
        (styleOf givenStyle).map fun style => { family, weight, style } := by
    intro family
    cases hweight : weightOf givenWeight <;> cases hstyle : styleOf givenStyle <;>
      simp only [make, hweight, hstyle] <;> rfl
  refine ⟨⟨weightOf givenWeight, styleOf givenStyle, answers_weightOf givenWeight,
    answers_styleOf givenStyle, ?_, ?_, hmake⟩, fun name => ⟨rfl, rfl⟩, ?_, ?_⟩
  · cases houtcome : weightOf givenWeight <;> simp only [write, houtcome, assigned]
  · cases houtcome : styleOf givenStyle <;> simp only [write, houtcome, assigned]
  · have hitem := (weightOf_eq_ok_iff (Item.ofWeight old.weight) old.weight).mpr (.inr rfl)
    simp only [get, write, hitem]
  · have hitem := (styleOf_eq_ok_iff (Item.ofStyle old.style) old.style).mpr (.inr rfl)
    simp only [get, write, hitem]

namespace Sample

def plain : Descriptor :=
  { family := .text "A", weight := .regular, style := .normal }

/-- An item whose vocabulary is no member of an enumeration, so that it has no text. -/
def untitled : Value :=
  .item (.text "x") (.text "y")

end Sample

/-- An unknown name that has no text is not reported as one that was not found. -/
theorem guarded_write_untitled :
    weights.Judged (weights.item Sample.untitled)
        (.error (.fault (.fontNotFound Sample.untitled (.text "WeightScale")))) ∧
      Sample.plain.write .weight (weights.item Sample.untitled) =
        (.error (.mishap .noSuchAttribute), Sample.plain) :=
  ⟨.unknown rfl nofun, rfl⟩

end Descriptor

end Typeface
