/-
What a run takes from its surroundings, and the settings that it finds there.

* `Surroundings`: the home folder, settings given from outside, and the stamps of what is made;
* `settingsFile`: the file with the settings: the one that is named, else the one in the folder of
  the run, else the one in the home folder;
* `findSettings`: the settings of a run.
-/
import Grading.Command.Error
import Grading.Record.Basic
import Grading.Settings.Toml

namespace Grading

/-- What a run takes from its surroundings. -/
structure Surroundings where
  /-- The home folder, if there is one. -/
  home : Option Path
  /-- Settings that are given from outside. -/
  overrides : Overrides
  /-- The stamp of the outcome of a batch. -/
  stamp : Stamp
  /-- The stamps of the reports in it. -/
  stamps : List Stamp
  /-- How long the grading takes, in milliseconds. -/
  duration : UInt64

/-- The file with the settings in the folder of the run. -/
def localSettings : Path := "answerkey.toml".toList

/-- The file with the settings in a home folder. -/
def homeSettings (home : Path) : Path :=
  ((home.child ".config".toList).child "answerkey".toList).child "config.toml".toList

/-- The file with the settings, if there is one. One that is named has to be there. -/
def settingsFile (files : Files) (home : Option Path) :
    Option Path → Except CommandError (Option Path)
  | some named => if files.has named then .ok (some named) else .error (.noSettings named)
  | none => .ok ((localSettings :: (home.map homeSettings).toList).find? files.has)

/-- Reads a file for a purpose. -/
def readFor (purpose : Purpose) (files : Files) (file : Path) : Except CommandError Text :=
  (files file).mapError (.noAccess purpose file)

/-- The settings that a file holds. -/
def readSettings (files : Files) (file : Path) : Except CommandError Settings := do
  match Settings.ofToml? (← readFor .readSettings files file) with
  | some settings => return settings
  | none => .error (.unreadableSettings file)

/-- The settings of a run: those of the file, with those given from outside in their place. -/
def findSettings (around : Surroundings) (files : Files) (named : Option Path) :
    Except CommandError Settings := do
  let found ← match ← settingsFile files around.home named with
    | some file => readSettings files file
    | none => pure {}
  let settings ← (found.override around.overrides).mapError .overridden
  match settings.invalid? with
  | some reason => .error (.unusable reason)
  | none => return settings

/-- The key that a file holds. -/
def readKey (files : Files) (file : Path) : Except CommandError Key := do
  return Key.ofText (← readFor .readKey files file)

end Grading
