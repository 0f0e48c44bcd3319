import FtpIntake.Calendar
import FtpIntake.Command
import FtpIntake.Tree

/-!
# Listings

What `LIST`, `NLST` and `MLSD` send for a directory: one line for each directory in it, in the order of the names.
The argument of these commands may begin with options in the style of a shell command; they are skipped, and what
follows them is the directory to list.
-/

namespace FtpIntake

open Text

namespace Listing

-- `h` is used by `decreasing_by` only, which the linter does not see.
set_option linter.unusedVariables false in
/-- Skips the words that begin with a hyphen and the white space after each of them. -/
def skipOptions (rest : List Char) : List Char :=
  if rest.head? = some '-' then
    match h : afterFirstBlank rest with
    | some remainder => skipOptions (trimStart remainder)
    | none => []
  else rest
termination_by rest.length
decreasing_by exact Nat.lt_of_le_of_lt (length_trimStart_le _) (length_lt_of_afterFirstBlank h)

/-- The directory that an argument asks for, or `none` if it holds nothing but options. -/
def target? (argument : String) : Option String :=
  let rest := skipOptions (trimStart argument.toList)
  if rest.isEmpty then none else some (String.ofList rest)

/-- Ends every line of a listing. -/
def lineEnd : List Char := ['\r', '\n']

/-- What stands before the time in a long line: a directory that everybody may use, without size. -/
def longStart : List Char := "drwxrwxrwx   1 ftp ftp            0 ".toList

/-- What stands before the time in a line of facts. -/
def factsStart : List Char := "type=dir;size=0;modify=".toList

/-- The line of one directory, with the time at which it is listed. -/
def line (form : ListingForm) (seconds : Nat) (name : String) : List Char :=
  match form with
  | .names => name.toList ++ lineEnd
  | .facts =>
    factsStart ++ (DateTime.ofSeconds seconds).compactChars ++ ';' :: ' ' :: name.toList ++ lineEnd
  | .long => longStart ++ (DateTime.ofSeconds seconds).listingChars ++ ' ' :: name.toList ++ lineEnd

/-- The names of the directories in a directory, in order. -/
def names (t : Tree) (directory : Path) : List String :=
  ((t.children directory).map Path.fileName).mergeSort fun a b => decide (a ≤ b)

/-- The listing of a directory. `clock` gives the time of each line. -/
def chars (form : ListingForm) (clock : Nat → Nat) (t : Tree) (directory : Path) : List Char :=
  ((names t directory).zipIdx.map fun (name, i) => line form (clock i) name).flatten

end Listing

end FtpIntake
