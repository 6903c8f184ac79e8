import TopicBus.Cli.Program

namespace TopicBus.Cli

def terminal : Console IO where
  print := IO.println
  clock := IO.monoNanosNow
  pause micros := IO.sleep (UInt32.ofNat ((micros + 999) / 1000))

end TopicBus.Cli

/-- Runs the program; a run that ends without a code is told by 134. -/
def main (words : List String) : IO UInt32 := do
  let ending ← TopicBus.Cli.run TopicBus.Cli.terminal words
  if ending = .misused then
    IO.eprintln "error: the arguments do not fit, try --help"
  if let some line := ending.complaint then
    IO.eprintln line
  return ending.exitCode.getD 134
