/-!
Sets of characters given by an inversion list: the ascending code points at which membership
changes, starting outside. A character is in the set when an odd number of them do not exceed it.
-/

namespace SqlComposer.Text

def inCodeSet : List Nat → Nat → Bool
  | [], _ => false
  | start :: rest, code => if code < start then false else !inCodeSet rest code

end SqlComposer.Text
