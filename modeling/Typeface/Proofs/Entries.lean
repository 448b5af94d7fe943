/-!
# Entries without a key

File trees and stores are lists of entries with a key.  Both take the entries
of one key out before they put a new one in, and these lemmas say what a
look-up finds afterwards.
-/

namespace Typeface.Entries

variable {Key Content : Type} [BEq Key] [LawfulBEq Key]

theorem lookup_without_self (entries : List (Key × Content)) (key : Key) :
    (entries.filter fun entry => entry.1 != key).lookup key = none := by
  rw [List.lookup_eq_none_iff]
  intro entry hentry
  have hkept := (List.mem_filter.mp hentry).2
  simpa using fun heq : key = entry.1 => by simp [heq] at hkept

theorem lookup_without_of_ne (entries : List (Key × Content)) {key other : Key}
    (hother : other ≠ key) :
    (entries.filter fun entry => entry.1 != key).lookup other = entries.lookup other := by
  induction entries with
  | nil => rfl
  | cons entry rest ih =>
    obtain ⟨first, content⟩ := entry
    by_cases hfirst : first = key
    · subst hfirst
      have hskip : (other == first) = false := beq_false_of_ne hother
      simp [List.lookup_cons, hskip, ih]
    · have hkept : (first != key) = true := by simp [hfirst]
      simp only [List.filter_cons, hkept, if_true, List.lookup_cons, ih]

theorem filter_eq_self_of_lookup_eq_none {entries : List (Key × Content)} {key : Key}
    (habsent : entries.lookup key = none) :
    (entries.filter fun entry => entry.1 != key) = entries := by
  rw [List.filter_eq_self]
  intro entry hentry
  have hne : key ≠ entry.1 := by
    simpa using List.lookup_eq_none_iff.mp habsent entry hentry
  simpa using hne.symm

end Typeface.Entries
