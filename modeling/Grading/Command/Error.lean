/-
Why a command cannot be done.

* `Purpose`: what files are read and written for;
* `CommandError`: what can go wrong;
* `CommandError.message`, `CommandError.line`: how the user is told.
-/
import Grading.Files.Basic
import Grading.Numbering.Listing
import Grading.Settings.Basic

namespace Grading

/-- What a file is read or written for. -/
inductive Purpose where
  /-- To get the settings. -/
  | readSettings
  /-- To get a key. -/
  | readKey
  /-- To put a key in place of its shorthand. -/
  | writeKey
  /-- To give a student the marks. -/
  | writeGrades
  /-- To keep the outcome of a batch. -/
  | writeReport
  /-- To hand out a response file. -/
  | writeTemplate
  /-- To get lines. -/
  | readLines
  /-- To put lines back. -/
  | writeLines
deriving DecidableEq, Repr

/-- How it is told that a file cannot be read or written. -/
def Purpose.failure : Purpose → Text
  | readSettings => "failed to read config: ".toList
  | readKey => "failed to read answer key: ".toList
  | writeKey => "failed to write answer key: ".toList
  | writeGrades => "failed to write grade file to ".toList
  | writeReport => "failed to write report to ".toList
  | writeTemplate => "failed to write template: ".toList
  | readLines => "failed to read ".toList
  | writeLines => "failed to write ".toList

/-- Why a command cannot be done. -/
inductive CommandError where
  /-- There are no settings where they should be. -/
  | noSettings (file : Path)
  /-- The file with the settings cannot be read as such. -/
  | unreadableSettings (file : Path)
  /-- A setting that is given from outside is wrong. -/
  | overridden (error : OverrideError)
  /-- No run can use the settings. -/
  | unusable (reason : Text)
  /-- Nothing can be graded at a time. -/
  | noParallelism
  /-- There is no such format of reports. -/
  | unknownFormat (given : Text)
  /-- The key has no problems. -/
  | emptyKey (file : Path)
  /-- There is nothing to grade. -/
  | noSubmissions
  /-- Some submissions could not be graded. -/
  | ungraded (number : Nat)
  /-- The list of problems is wrong. -/
  | listing (error : ListingError)
  /-- The list of problems has none. -/
  | emptyListing (list : Text)
  /-- There is a file already. -/
  | alreadyThere (file : Path)
  /-- A file cannot be read or written. -/
  | noAccess (purpose : Purpose) (file : Path) (error : FileError)
  /-- A folder cannot be made, or a file cannot be written that has no name for the user. -/
  | noPlace (error : FileError)
deriving DecidableEq, Repr

/-- How the error is told. -/
def CommandError.message : CommandError → Text
  | noSettings file => "config file not found: ".toList ++ file
  | unreadableSettings file =>
    "failed to parse config: ".toList ++ file ++ ": TOML parse error".toList
  | overridden error => error.message
  | unusable reason => reason
  | noParallelism => "parallelism must be at least 1".toList
  | unknownFormat given =>
    "unknown format '".toList ++ given ++ "' (expected json, html, or all)".toList
  | emptyKey file => "answer key ".toList ++ file ++ " has no problems".toList
  | noSubmissions => "no student files to grade".toList
  | ungraded number => Decimal.digits number ++ " submission(s) could not be graded".toList
  | listing error => error.message
  | emptyListing list => "problem list '".toList ++ list ++ "' is empty".toList
  | alreadyThere file => file ++ " already exists".toList
  | noAccess purpose file error => purpose.failure ++ file ++ ": ".toList ++ error.message
  | noPlace error => error.message

/-- The line by which the user learns of the error. -/
def CommandError.line (e : CommandError) : Text := "Error: ".toList ++ e.message

end Grading
