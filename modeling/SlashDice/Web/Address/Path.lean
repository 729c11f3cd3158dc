import SlashDice.Text.Percent
import SlashDice.Text.Pieces

/-!
# Paths of addresses

A path is made of folders with slashes between.  Steps to the same folder are left
out, and a step to the parent folder takes away the folder before it, unless that
is the letter of a drive.  A dot of a step may be written as an escape.
-/

namespace SlashDice
namespace Web

open Text

def escapedInPath : List Char := " \"#<>?`\x7b\x7d".toList

namespace Folder

def withDots : List Char → List Char
  | '%' :: '2' :: c :: rest =>
    if c = 'e' ∨ c = 'E' then '.' :: withDots rest else '%' :: withDots ('2' :: c :: rest)
  | c :: rest => c :: withDots rest
  | [] => []

def isSame (folder : List Char) : Bool :=
  withDots folder == ['.']

def isParent (folder : List Char) : Bool :=
  withDots folder == ['.', '.']

/-- What follows the letter and the mark of a drive. -/
def afterDrive? : List Char → Option (List Char)
  | letter :: mark :: rest =>
    if letter.isAlpha && (mark == ':' || mark == '|') then some rest else none
  | _ => none

def isDrive (folder : List Char) : Bool :=
  afterDrive? folder == some []

/-- Whether a folder begins with the letter of a drive that ends there. -/
def staysBefore (folder : List Char) : Bool :=
  match afterDrive? folder with
  | some rest => rest.head?.all (· == '\\')
  | none => false

def colonDrive : List Char → List Char
  | letter :: _ :: rest => letter :: ':' :: rest
  | folder => folder

end Folder

/-- The folders of a path and whether one of them was the letter of a drive at its
beginning. -/
structure Folders where
  folders : List (List Char)
  hasDrive : Bool := false
  deriving DecidableEq, Repr

namespace Folders

/-- The folders after one more that has a slash after it; they have the latest
first. -/
def enter (onDisk : Bool) (done : Folders) (folder : List Char) : Folders :=
  if Folder.isParent folder then
    match done.folders with
    | [] => done
    | last :: rest => if Folder.staysBefore last then done else { done with folders := rest }
  else if Folder.isSame folder then
    done
  else if onDisk && done.folders.isEmpty && Folder.isDrive folder then
    ⟨[Folder.colonDrive folder], true⟩
  else
    { done with folders := folder :: done.folders }

/-- The folders after the last one, which is empty after a step. -/
def finish (onDisk : Bool) (done : Folders) (folder : List Char) : Folders :=
  let entered := done.enter onDisk folder
  if Folder.isParent folder || Folder.isSame folder then
    { entered with folders := [] :: entered.folders }
  else
    entered

def resolve (onDisk : Bool) : Folders → List (List Char) → Folders
  | done, [] => done
  | done, [last] => done.finish onDisk last
  | done, folder :: rest => resolve onDisk (done.enter onDisk folder) rest

def text (done : Folders) : List Char :=
  done.folders.reverse.flatMap fun folder => '/' :: folder

end Folders

/-- The folders of the part of a path after its first slash.  A backslash may stand
for a slash. -/
def readFolders (onDisk backslashes : Bool) (path : List Char) : Folders :=
  let slashed := if backslashes then path.map fun c => if c = '\\' then '/' else c else path
  Folders.resolve onDisk ⟨[], false⟩
    ((pieces '/' slashed).map fun folder => Percent.encode escapedInPath folder)

end Web
end SlashDice
