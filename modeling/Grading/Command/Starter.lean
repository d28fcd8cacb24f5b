/-
Settings and an example to start from.

* `starterFiles`: the files that are made unless they are there;
* `starterPlan`: what making them does.
-/
import Grading.Command.Plan
import Grading.Command.Setting

namespace Grading

/-- Settings that change nothing. -/
def starterSettings : Text := Text.ofLines
  ["# answerkey configuration",
   "",
   "create_results_file = true",
   "expand_equivalents = false",
   "parallelism = 4",
   "output_dir = \"./answerkey-results\"",
   "",
   "[grading]",
   "preserve_spacing = false",
   "list_order_matters = true",
   "convert_fractions_to_decimals = true",
   "default_point_value = 1.0",
   "list_match = \"exact\""]

/-- A key that shows what keys can hold. -/
def starterKey : Text := Text.ofLines
  ["1. 23 & 92;Multiplied by 2 instead of dividing;0.0 & 17;Subtracted instead of added;0.5",
   "2. Rectangle & Parallelogram ; A rectangle is a special parallelogram ; 0.5",
   "3. 4/5 & 0.8",
   "4. (4,5) & 5,4|(5,4) ; Values are switched! ; 0.5",
   "5. 342.57 ; range 1.0 & 342.57 ; range 1.0 to 5.0 ; 0.5 ; Didn't multiply by acceleration?"]

/-- A submission for the key. -/
def starterAnswers : Text := Text.ofLines
  ["1. 23",
   "2. parallelogram",
   "3. 0.8",
   "4. (5, 4)",
   "5. 345"]

/-- The folder of the example. -/
def starterFolder : Path := "homework".toList

/-- The files of the example. -/
def starterFiles : List (Path × Text) :=
  [(starterFolder.child "Solutions_HW1.txt".toList, starterKey),
   (starterFolder.child "alice_HW1.txt".toList, starterAnswers)]

/-- What can be done next. -/
def nextSteps : Text := Text.ofLines
  ["",
   "Next steps:",
   "  1. Edit answerkey.toml to adjust grading options",
   "  2. Run: answerkey compile --solution homework/Solutions_HW1.txt",
   "  3. Run: answerkey grade --solution homework/Solutions_HW1.txt homework/alice_HW1.txt"]

/-- Makes a file unless it is there. -/
def starterActions (files : Files) (file : Path) (text : Text) : List Action :=
  if files.has file then [.printLine (file ++ " already exists, skipping.".toList)]
  else [.write none file text, .printLine ("Created ".toList ++ file)]

/-- What making the settings and the example does. -/
def starterPlan (files : Files) : Plan :=
  { actions := starterActions files localSettings starterSettings
      ++ .makeFolders starterFolder :: starterFiles.flatMap (fun f => starterActions files f.1 f.2)
      ++ [.print nextSteps] }

end Grading
