import HostAccounts.Recipe.Basic

/-!
# Public keys

The keys with which an account may log in stand in one file below its home directory, which belongs
to the account together with its directory.
-/

set_option autoImplicit false

namespace HostAccounts.Recipe

/-- The directory of the keys. -/
def keyDirectory (home : String) : String :=
  pathIn home ".ssh"

/-- The file of the keys. -/
def keyFile (home : String) : String :=
  keyDirectory home ++ "/authorized_keys"

/-- Makes the directory of the keys. -/
def keyDirectorySteps (s : Settings) (user home : String) : Plan :=
  [.run (Primitive.mkdir (keyDirectory home)),
    .run (Primitive.chown user (keyDirectory home)),
    .run (Primitive.chmod s.accounts.keyDirectoryMode (keyDirectory home))]

/-- Writes the file of the keys. -/
def keyFileSteps (s : Settings) (user home key : String) : Plan :=
  [.run (Primitive.mkdir (keyDirectory home)),
    .feed key (Primitive.tee (keyFile home)),
    .run (Primitive.chown user (keyDirectory home)),
    .run (Primitive.chmod s.accounts.keyDirectoryMode (keyDirectory home)),
    .run (Primitive.chmod s.accounts.keyFileMode (keyFile home))]

/-- Writes the keys that are supplied, one on a line, if there are any. -/
def keysSupplied (s : Settings) (user home : String) (attributes : AttributeSet) : Plan :=
  match attributes.texts AttributeName.publicKey with
  | [] => []
  | keys => keyFileSteps s user home ("\n".intercalate keys)

/-- Removes the file of the keys, if keys are named, whichever they are. -/
def keysWithdrawn (home : String) (attributes : AttributeSet) : Plan :=
  if attributes.contains AttributeName.publicKey then
    [.run (Primitive.removeFile (keyFile home))]
  else []

/-- The command that makes the directory of the keys. -/
def makeKeyDirectory (s : Settings) (user home : String) : RemoteCommand :=
  Plan.command s.elevationPolicy (keyDirectorySteps s user home)

/-- The command that removes the directory of the keys. -/
def removeKeyDirectory (s : Settings) (home : String) : RemoteCommand :=
  elevated s (Primitive.removeDirectory (keyDirectory home))

/-- The command that writes the file of the keys. -/
def setKey (s : Settings) (user home key : String) : RemoteCommand :=
  Plan.command s.elevationPolicy (keyFileSteps s user home key)

/-- The command that removes the file of the keys. -/
def removeKey (s : Settings) (home : String) : RemoteCommand :=
  elevated s (Primitive.removeFile (keyFile home))

end HostAccounts.Recipe
