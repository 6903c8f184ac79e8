/-!
Unsigned decimal numerals: at most one plus sign, then one or more ASCII digits, and nothing else.
-/

namespace TopicBus.Text

def digits? : List Char → Option Nat
  | [] => none
  | cs => cs.foldlM (fun n c => if c.isDigit then some (10 * n + (c.toNat - 48)) else none) 0

def numeral? (bound : Nat) (s : String) : Option Nat :=
  let spelled := match s.toList with
    | '+' :: cs => digits? cs
    | cs => digits? cs
  spelled.filter (· < bound)

end TopicBus.Text
