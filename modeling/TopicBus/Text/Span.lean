namespace TopicBus.Text

def powerOfTen (places : Nat) : Nat := Nat.pow 10 places

/-- Decimal places of `part / powerOfTen places`, trailing zeros left out. -/
def fraction (part places : Nat) : String :=
  let padded := (Nat.toDigits 10 (powerOfTen places + part)).drop 1
  match (padded.reverse.dropWhile (· = '0')).reverse with
  | [] => ""
  | shown => "." ++ String.ofList shown

def span (micros : Nat) : String :=
  if 1000000 ≤ micros then
    toString (micros / 1000000) ++ fraction (micros % 1000000) 6 ++ "s"
  else if 1000 ≤ micros then
    toString (micros / 1000) ++ fraction (micros % 1000) 3 ++ "ms"
  else if 0 < micros then
    toString micros ++ "\u00b5s"
  else
    "0ns"

/-- `num / den` with `places` decimal places, a half rounded up. -/
def fixed (num den places : Nat) : String :=
  let unit := powerOfTen places
  let scaled := (2 * num * unit + den) / (2 * den)
  let whole := toString (scaled / unit)
  if places = 0 then whole
  else whole ++ "." ++ String.ofList ((Nat.toDigits 10 (unit + scaled % unit)).drop 1)

end TopicBus.Text
