import Mathlib.Tactic.Common

/-!
# Texts

A text that is taken apart is the list of its characters. Whether it is among a few others
is decided by comparing characters.
-/

set_option linter.dupNamespace false

namespace LocalPlane

instance lawfulText : LawfulBEq (List Char) := inferInstance

end LocalPlane
