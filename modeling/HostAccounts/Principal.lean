import HostAccounts.Fault
import HostAccounts.Text.Blank
import HostAccounts.Text.Pieces

/-!
# Names and paths

Which texts may name an account or a group, and which may be a path on the host. Both end up inside
commands, so both keep to the portable characters.
-/

set_option autoImplicit false

namespace HostAccounts

/-- Letters and digits of the ASCII range. -/
def isAsciiAlphanumeric (c : Char) : Bool :=
  c.isAlphanum

/-! ## Names -/

/-- The number of bytes that a name may have. -/
def nameLimit : Nat := 32

/-- The characters of a name. -/
def isNameChar (c : Char) : Bool :=
  isAsciiAlphanumeric c || c == '_' || c == '-' || c == '.'

/-- The name without the dollar sign that may end it. -/
def nameBody (cs : List Char) : List Char :=
  if cs.getLast? = some '$' then cs.dropLast else cs

/-- Checks a name that stands in the given field. -/
def checkName (field name : String) : Except ArgumentDefect Unit :=
  let body := nameBody name.toList
  if Text.isBlankText name then .error (.blank field)
  else if name.utf8ByteSize > nameLimit then .error (.tooLong field nameLimit)
  else if body.isEmpty || !body.all isNameChar then .error (.notAName field name)
  else if name.toList.head? = some '-' then .error (.leadingHyphen field)
  else .ok ()

/-! ## Paths -/

/-- The number of bytes that a path may have. -/
def pathLimit : Nat := 4096

/-- The characters of a path. -/
def isPathChar (c : Char) : Bool :=
  isAsciiAlphanumeric c || "/.-_@+".toList.contains c

/-- Checks a path that stands in the given field. -/
def checkPath (field path : String) : Except ArgumentDefect Unit :=
  if path.toList.head? ≠ some '/' then .error (.relativePath field)
  else if path.utf8ByteSize > pathLimit then .error (.tooLong field pathLimit)
  else if (Text.splitOn '/' path).contains ".." then .error (.climbingPath field)
  else if !path.toList.all isPathChar then .error (.notAPath field)
  else .ok ()

/-- The path of an entry in a directory, whose trailing slashes do not count. -/
def pathIn (directory entry : String) : String :=
  Text.trimEndOf '/' directory ++ "/" ++ entry

end HostAccounts
