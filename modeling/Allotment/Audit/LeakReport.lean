/-
The report on blocks that were lent and never came back. Reports may come from
anywhere, so the sum of their sizes is a checked one.
-/

import Allotment.Outcome.Checked

namespace Allotment

/-- The blocks still on loan, in the order in which they were lent, and how many loans there
were in all. -/
structure LeakReport where
  leaks : List Block
  total : Nat
deriving DecidableEq

namespace LeakReport

/-- Everything came back. -/
def isClean (report : LeakReport) : Bool :=
  report.leaks.isEmpty

/-- How many words did not come back. -/
def leakedWords (report : LeakReport) : Except Fault Nat :=
  sumSizes (report.leaks.map (·.size))

/-- The line of one block in the report. -/
def leakLine (block : Block) : String :=
  s!"  {block.handle.text}: {block.size} words\n"

/-- The text of the report. -/
def text (report : LeakReport) : Except Fault String :=
  if report.isClean then .ok s!"no leaks ({report.total} allocations released)\n"
  else
    report.leakedWords.map fun words =>
      s!"{report.leaks.length} of {report.total} allocations leaked ({words} words)\n" ++
        String.join (report.leaks.map leakLine)

end LeakReport

end Allotment
