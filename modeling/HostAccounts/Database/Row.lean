import HostAccounts.Database.Dump

/-!
# Account and group rows

One line of the account database: seven fields between colons. The second, the password, is
shadowed; it is dropped in reading and written as `x`.

One line of the group database: four fields between colons, the last one a list of members between
commas in which empty names do not count.
-/

set_option autoImplicit false

namespace HostAccounts.Database

/-! ## Accounts -/

/-- A row of the account database. -/
structure AccountRow where
  username : String
  uid : UInt32
  gid : UInt32
  comment : String
  homeDirectory : String
  shell : String
  deriving DecidableEq, Repr

namespace AccountRow

/-- Reads a line. -/
def ofLine (line : String) : Except RowDefect AccountRow :=
  match fields 7 line with
  | .error defect => .error defect
  | .ok [username, _, uid, gid, comment, homeDirectory, shell] =>
    if username.isEmpty then .error .emptyUserName
    else do
      let uid ← readId "uid" uid
      let gid ← readId "gid" gid
      return { username, uid, gid, comment, homeDirectory, shell }
  | .ok fs => .error (.fieldCount 7 fs.length)

/-- Writes the row as a line. -/
def line (r : AccountRow) : String :=
  ":".intercalate
    [r.username, "x", toString r.uid.toNat, toString r.gid.toNat, r.comment, r.homeDirectory,
      r.shell]

/-- Reads a dump of the account database. -/
def dump (output : String) : Dump AccountRow :=
  readDump ofLine output

end AccountRow

/-! ## Groups -/

/-- A row of the group database. -/
structure GroupRow where
  groupname : String
  gid : UInt32
  members : List String
  deriving DecidableEq, Repr

namespace GroupRow

/-- Reads a line. -/
def ofLine (line : String) : Except RowDefect GroupRow :=
  match fields 4 line with
  | .error defect => .error defect
  | .ok [groupname, _, gid, members] =>
    if groupname.isEmpty then .error .emptyGroupName
    else do
      let gid ← readId "gid" gid
      return { groupname, gid, members := (Text.splitOn ',' members).filter fun m => !m.isEmpty }
  | .ok fs => .error (.fieldCount 4 fs.length)

/-- Writes the row as a line. -/
def line (r : GroupRow) : String :=
  ":".intercalate [r.groupname, "x", toString r.gid.toNat, ",".intercalate r.members]

/-- The row lists the account as a member. -/
def hasMember (r : GroupRow) (user : String) : Bool :=
  r.members.contains user

/-- Reads a dump of the group database. -/
def dump (output : String) : Dump GroupRow :=
  readDump ofLine output

/-- The names of the groups that list the account as a member. -/
def groupsOf (rows : List GroupRow) (user : String) : List String :=
  (rows.filter fun r => r.hasMember user).map GroupRow.groupname

end GroupRow

end HostAccounts.Database
