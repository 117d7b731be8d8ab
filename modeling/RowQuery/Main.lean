import RowQuery.Command.Line

/-!
The program: it runs the command that its arguments name and prints the
output, or the message of an error.
-/

open RowQuery

/-- Gives a command its missing input, unless a terminal is there instead. -/
def provideInput (c : Command) : IO Command := do
  let input ← IO.getStdin
  if c.needsInput && !(← input.isTty) then
    return c.withInput (← input.readToEnd)
  return c

def main (args : List String) : IO UInt32 := do
  match Command.ofArguments args with
  | .error e =>
    IO.eprintln e.message
    return 2
  | .ok c =>
    match (← provideInput c).run with
    | .ok output =>
      IO.println output
      return 0
    | .error e =>
      IO.eprintln e.message
      return 1
