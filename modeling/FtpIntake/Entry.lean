import FtpIntake.Path

/-!
# Entries

What can be said of an entry of the namespace. Every entry is a directory: there are no files, no owners and no
stored times, so the facts are the same for all entries, and the operations that would need more are refused by
name.
-/

namespace FtpIntake

/-- An addressable place in the namespace. It need not exist. -/
structure Entry where
  path : Path
  deriving DecidableEq

namespace Entry

/-- The last name of the entry's path. -/
def name (e : Entry) : String :=
  e.path.fileName

/-- The kinds and permissions that a client may ask about. -/
structure Facts where
  directory : Bool
  file : Bool
  hidden : Bool
  readable : Bool
  writable : Bool
  removable : Bool
  links : Nat
  size : Nat

/-- Every entry is a visible, readable, writable and removable directory with one link and no content. -/
def facts (_ : Entry) : Facts where
  directory := true
  file := false
  hidden := false
  readable := true
  writable := true
  removable := true
  links := 1
  size := 0

/-- The operations that no entry supports. -/
inductive Unsupported where
  | ownerName
  | groupName
  | setLastModified
  | moveTo
  | createOutputStream
  | createInputStream
  deriving DecidableEq

/-- The name under which a refused operation is reported. -/
def Unsupported.label : Unsupported → String
  | .ownerName => "EntryHandle::owner_name"
  | .groupName => "EntryHandle::group_name"
  | .setLastModified => "EntryHandle::set_last_modified"
  | .moveTo => "EntryHandle::move_to"
  | .createOutputStream => "EntryHandle::create_output_stream"
  | .createInputStream => "EntryHandle::create_input_stream"

end Entry

end FtpIntake
