import HttpMediation.Text.Basic
import HttpMediation.Upload.Disk

/-!
# Storage — free names for accepted files

A file keeps the name that the client gave it, with a number behind its stem when the name is taken.
The name is reserved by creating an empty file, so that nothing is ever overwritten.

* `candidate` : the name to try in each attempt.
* `reserve` : takes the first free name.
* `moveInto` : moves a staged file onto the name that it gets.
-/

namespace HttpMediation.Upload

open Text

/-- How many names are tried. -/
def maxAttempts : Nat := 1000

/-- The name to try in an attempt. -/
def candidate (name : String) (attempt : Nat) : String :=
  if attempt = 0 then name
  else
    match cutLast '.' name.toList with
    | some (stem, ext) =>
      String.ofList (stem ++ '-' :: (toString attempt).toList ++ '.' :: ext)
    | none => name ++ "-" ++ toString attempt ++ "."

/-- The error when every name is taken. -/
def noFreeName : Error := .validation "no free file name in upload directory"

/-- Takes the first free name, from an attempt on. -/
def reserveFrom (name : String) : (left : Nat) → (attempt : Nat) → Disk →
    Except Error String × Disk
  | 0, _, d => (.error noFreeName, d)
  | left + 1, attempt, d =>
    match d.create .storage (candidate name attempt) with
    | (.ok _, d) => (.ok (candidate name attempt), d)
    | (.error .alreadyExists, d) => reserveFrom name left (attempt + 1) d
    | (.error k, d) => (.error (.ofIo k), d)

/-- Takes the first free name of a file. -/
def reserve (name : String) (d : Disk) : Except Error String × Disk :=
  reserveFrom name maxAttempts 0 d

/-- Moves a staged file onto a reserved name; what cannot be renamed is copied. -/
def fill (staged target : String) (d : Disk) : Except Error String × Disk :=
  match d.rename staged target with
  | (.ok _, d) => (.ok target, d)
  | (.error _, d) =>
    match d.copy staged target with
    | (.error k, d) => (.error (.ofIo k), d.remove .storage target)
    | (.ok _, d) => (.ok target, d.remove .staging staged)

/-- Moves a staged file into the storage and answers with the name that it has there. -/
def moveInto (staged name : String) (d : Disk) : Except Error String × Disk :=
  match reserve name d with
  | (.error e, d) => (.error e, d)
  | (.ok target, d) => fill staged target d

end HttpMediation.Upload
