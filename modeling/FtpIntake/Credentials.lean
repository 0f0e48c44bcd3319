import FtpIntake.Fault

/-!
# Credentials

The server has one tenant: either everybody may log in under one of the anonymous names, or exactly one
configured user may. `Credentials.make` decides which from the configured name and password;
`Credentials.checkUser` and `Credentials.checkPassword` decide what `USER` and `PASS` may say.

What a configuration may hold and what a client may say are checked by different rules, and the second is the stricter
one. So there are credentials that nobody can use.
-/

namespace FtpIntake

open Text

/-- Who may log in. -/
inductive Credentials where
  | anonymous
  | user (name password : String)
  deriving DecidableEq

namespace Credentials

/-- Whether a text holds nothing but white space. -/
def isBlankText (s : String) : Bool :=
  s.toList.all isBlank

/--
The credentials of a configured name and password. Without a name access is anonymous, and a password is
ignored. A name must not be blank and needs a password that is not empty.
-/
def make : (name password : Option String) → Except ServerFault Credentials
  | none, _ => .ok .anonymous
  | some name, password =>
    if isBlankText name then .error (.credentials "username must not be blank")
    else
      match password with
      | none => .error (.credentials "a password is required when a username is configured")
      | some password =>
        if password.isEmpty then .error (.credentials "password must not be empty")
        else .ok (.user name password)

/-- Whether access is anonymous. -/
def isAnonymous : Credentials → Bool
  | .anonymous => true
  | .user _ _ => false

/-- The names of anonymous access, which are accepted in any case. -/
def anonymousNames : List String := ["anonymous", "ftp"]

/-- The most bytes that a name or a password may have. -/
def maxLength : Nat := 128

/--
Whether a name or a password is well formed: not blank, not too long, and without a line end or a null
character.
-/
def isWellFormed (s : String) : Bool :=
  !isBlankText s && s.utf8ByteSize ≤ maxLength &&
    s.toList.all fun c => c != '\r' && c != '\n' && c != '\x00'

/-- Lowers ASCII letters and leaves every other character alone. -/
def lowerCase (s : String) : List Char :=
  s.toList.map Char.toLower

/-- Whether a name belongs to somebody who may log in. -/
def knows (credentials : Credentials) (name : String) : Bool :=
  match credentials with
  | .anonymous => anonymousNames.any fun known => lowerCase known == lowerCase name
  | .user known _ => known == name

/-- Checks the name that `USER` gave. -/
def checkUser (credentials : Credentials) (name : String) : Except LoginFault Unit :=
  if !isWellFormed name then .error (.malformed "Invalid username format")
  else if credentials.knows name then .ok ()
  else .error (.unknownUser name)

/-- Checks the password that `PASS` gave for a name. Anonymous users may give any password. -/
def checkPassword (credentials : Credentials) (name password : String) : Except LoginFault Unit :=
  match credentials with
  | .anonymous => .ok ()
  | .user known secret =>
    if !isWellFormed password then .error (.malformed "Invalid password format")
    else if known != name then .error (.unknownUser name)
    else if secret == password then .ok ()
    else .error (.wrongPassword name)

end Credentials

end FtpIntake
