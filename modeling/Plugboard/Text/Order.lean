/-!
# Sorted texts

Texts in the order of their characters' code points, which is the order of their UTF-8 bytes.
-/

namespace Plugboard.Text

/-- Whether one text does not come after another. -/
def le (s t : String) : Bool := !decide (t < s)

/-- Texts in order; equal ones all stay. -/
def sort (texts : List String) : List String := texts.mergeSort le

/-- Things in the order of a text that belongs to each; those of equal text keep their order. -/
def sortOn {α : Type} (key : α → String) (xs : List α) : List α :=
  xs.mergeSort fun a b => le (key a) (key b)

/-- Sorting loses and adds nothing. -/
theorem sort_perm (texts : List String) : (sort texts).Perm texts :=
  List.mergeSort_perm texts le

end Plugboard.Text
