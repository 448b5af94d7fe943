import Typeface.Json.Bytes

/-!
# Decoded values

A JSON text has one of a few sorts of values, and the names in its objects are
texts.  The decoder keeps to these sorts at every depth.
-/

namespace Typeface.Json

open Typeface.Number

/-- A text, which is broken where it holds a lone surrogate. -/
def IsName (value : Value) : Prop :=
  ∃ codes, value = Value.ofCodes codes

inductive Decoded : Value → Prop
  | null : Decoded .null
  | bool (truth : Bool) : Decoded (.bool truth)
  | int (whole : Int) : Decoded (.int whole)
  | float (number : Binary64) : Decoded (.float number)
  | string {content : Value} (hcontent : IsName content) : Decoded content
  | list {items : List Value} (hitems : ∀ item ∈ items, Decoded item) : Decoded (.list items)
  | dict {entries : List (Value × Value)} (hnames : ∀ entry ∈ entries, IsName entry.1)
      (hcontents : ∀ entry ∈ entries, Decoded entry.2) : Decoded (.dict entries)

/-- A name and a value that may stand under it. -/
def DecodedEntry (entry : Value × Value) : Prop :=
  IsName entry.1 ∧ Decoded entry.2

variable {letters rest : List Char} {result : Value}

theorem isName_string (hread : string letters = .ok (result, rest)) : IsName result := by
  unfold string at hread
  split at hread
  · cases hread
    exact ⟨_, rfl⟩
  · cases hread

theorem decoded_unsignedNumber {negative : Bool}
    (hread : unsignedNumber negative letters = .ok (result, rest)) : Decoded result := by
  simp only [unsignedNumber] at hread
  split at hread
  · cases hread
  · split at hread
    · split at hread
      · cases hread
      · cases hread
        exact .int _
    · cases hread
      exact .float _

theorem decoded_number (hread : number letters = .ok (result, rest)) : Decoded result := by
  unfold number at hread
  split at hread
  · cases hread
    exact .float _
  · exact decoded_unsignedNumber hread
  · exact decoded_unsignedNumber hread

/-- Of equal names the earlier one is kept, with the later value. -/
theorem decoded_insertEntry {key content : Value} {known : List (Value × Value)}
    (hkey : IsName key) (hcontent : Decoded content)
    (hknown : ∀ entry ∈ known, DecodedEntry entry) :
    ∀ entry ∈ Value.insertEntry key content known, DecodedEntry entry := by
  induction known with
  | nil => simpa [Value.insertEntry] using ⟨hkey, hcontent⟩
  | cons first others ih =>
    rw [List.forall_mem_cons] at hknown
    unfold Value.insertEntry
    split
    · exact List.forall_mem_cons.mpr ⟨⟨hknown.1.1, hcontent⟩, hknown.2⟩
    · exact List.forall_mem_cons.mpr ⟨hknown.1, ih hknown.2⟩

theorem decoded_ofEntries {entries : List (Value × Value)}
    (hentries : ∀ entry ∈ entries, DecodedEntry entry) : Decoded (Value.ofEntries entries) := by
  have hinserted : ∀ entry ∈ entries.foldl
      (fun known entry => Value.insertEntry entry.1 entry.2 known) [], DecodedEntry entry := by
    apply List.foldlRecOn (motive := fun known => ∀ entry ∈ known, DecodedEntry entry)
    · exact nofun
    · intro known hknown entry hentry
      obtain ⟨hname, hcontent⟩ := hentries entry hentry
      exact decoded_insertEntry hname hcontent hknown
  exact .dict (fun entry hentry => (hinserted entry hentry).1)
    fun entry hentry => (hinserted entry hentry).2

/-- All that a walk of so many steps can read is decoded, however deep. -/
structure Reads (steps : Nat) : Prop where
  value : ∀ {depth letters rest result}, Json.value depth steps letters = .ok (result, rest) →
    Decoded result
  items : ∀ {depth letters rest found}, Json.items depth steps letters = .ok (found, rest) →
    ∀ item ∈ found, Decoded item
  members : ∀ {depth letters rest found}, Json.members depth steps letters = .ok (found, rest) →
    ∀ entry ∈ found, DecodedEntry entry

theorem decoded_value_succ {depth steps : Nat} (hreads : Reads steps)
    (hread : value depth (steps + 1) letters = .ok (result, rest)) : Decoded result := by
  unfold value at hread
  split at hread
  · exact .string (isName_string hread)
  · cases depth with
    | zero => cases hread
    | succ inner =>
      simp only at hread
      split at hread
      · cases hread
        exact .dict nofun nofun
      · split at hread
        · next hmembers =>
          cases hread
          exact decoded_ofEntries (hreads.members hmembers)
        · cases hread
  · cases depth with
    | zero => cases hread
    | succ inner =>
      simp only at hread
      split at hread
      · cases hread
        exact .list nofun
      · split at hread
        · next hitems =>
          cases hread
          exact .list (hreads.items hitems)
        · cases hread
  · cases hread
    exact .null
  · cases hread
    exact .bool true
  · cases hread
    exact .bool false
  · cases hread
    exact .float _
  · cases hread
    exact .float _
  · exact decoded_number hread

theorem decoded_items_succ {depth steps : Nat} {found : List Value} (hreads : Reads steps)
    (hread : items depth (steps + 1) letters = .ok (found, rest)) :
    ∀ item ∈ found, Decoded item := by
  unfold items at hread
  split at hread
  · cases hread
  · next first left hfirst =>
    split at hread
    · cases hread
      exact List.forall_mem_cons.mpr ⟨hreads.value hfirst, nofun⟩
    · split at hread
      · next hothers =>
        cases hread
        exact List.forall_mem_cons.mpr ⟨hreads.value hfirst, hreads.items hothers⟩
      · cases hread
    · cases hread

theorem decoded_members_succ {depth steps : Nat} {found : List (Value × Value)}
    (hreads : Reads steps) (hread : members depth (steps + 1) letters = .ok (found, rest)) :
    ∀ entry ∈ found, DecodedEntry entry := by
  unfold members at hread
  split at hread
  · split at hread
    · cases hread
    · next name left hname =>
      split at hread
      · split at hread
        · cases hread
        · next content left hcontent =>
          have hfirst : DecodedEntry (name, content) := ⟨isName_string hname, hreads.value hcontent⟩
          split at hread
          · cases hread
            exact List.forall_mem_cons.mpr ⟨hfirst, nofun⟩
          · split at hread
            · next hothers =>
              cases hread
              exact List.forall_mem_cons.mpr ⟨hfirst, hreads.members hothers⟩
            · cases hread
          · cases hread
      · cases hread
  · cases hread

theorem reads (steps : Nat) : Reads steps := by
  -- a value reads its items and members with one step less, and they their values
  induction steps with
  | zero => exact ⟨nofun, nofun, nofun⟩
  | succ steps ih =>
    exact ⟨decoded_value_succ ih, decoded_items_succ ih, decoded_members_succ ih⟩

theorem decoded_of_decode {depth : Nat} {text : String}
    (hdecode : decode depth text = .ok result) : Decoded result := by
  simp only [decode] at hdecode
  split at hdecode
  · cases hdecode
  · next hvalue =>
    split at hdecode
    · cases hdecode
      exact (reads _).value hvalue
    · cases hdecode

theorem decoded_of_decodeBytes {depth : Nat} {bytes : Text.Bytes}
    (hdecode : decodeBytes depth bytes = .ok result) : Decoded result :=
  decoded_of_decode hdecode

end Typeface.Json
