/-
Running commands.

* `Command.plan`: what a command does;
* `Command.paths`: the paths that a command looks at before it does anything.
-/
import Grading.Command.Grade
import Grading.Command.Key
import Grading.Command.Listing
import Grading.Command.Starter

namespace Grading

namespace Command

/-- What a command does, given what it finds. -/
def plan (around : Surroundings) (files : Files) : Command → Plan
  | .grade options => gradePlan around files options
  | .compile solution inPlace config => compilePlan around files solution inPlace config
  | .template solution output => templatePlan files solution output
  | .problems list output => problemsPlan files list output
  | .sort file => sortPlan files file
  | .init => starterPlan files

/-- The paths at which settings can be. -/
def settingsPaths (home config : Option Path) : List Path :=
  config.toList ++ localSettings :: (home.map homeSettings).toList

/-- The paths that a command looks at. -/
def paths (home : Option Path) : Command → List Path
  | .grade options => options.solution :: options.students ++ settingsPaths home options.config
  | .compile solution _ config => solution :: settingsPaths home config
  | .template solution _ => [solution]
  | .problems _ output => output.toList
  | .sort file => [file]
  | .init => localSettings :: starterFiles.map Prod.fst

end Command

end Grading
