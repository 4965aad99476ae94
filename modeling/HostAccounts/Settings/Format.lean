import HostAccounts.Settings.Basic

/-!
# Settings in a data format

How settings are made up of texts, truth values, numbers, lists and records, whatever format holds
these. Every field may be left out; a field that is not known does not matter.
-/

set_option autoImplicit false

namespace HostAccounts

open Diagnostics (Diagnostic Operation Overrides)

/-- How the values of a format are taken for what settings are made up of. Each reading fails for a
value of another kind. -/
structure Format (ν : Type) (m : Type → Type := Option) where
  text? : ν → m String
  flag? : ν → m Bool
  nat? : ν → m Nat
  /-- The value, unless it stands for none where there may be none. -/
  present? : ν → m (Option ν)
  items? : ν → m (List ν)
  /-- The fields of a record that are among the names. -/
  fields? : List String → ν → m (List (String × ν))
  /-- The entries of a table, by key. -/
  entries? : ν → m (List (String × ν))

namespace Format

variable {ν α : Type} {m : Type → Type} [Monad m] [MonadExceptOf Unit m] (f : Format ν m)

/-! ## Pieces -/

/-- A value that there may be none of. -/
def optional? (read : ν → m α) (v : ν) : m (Option α) := do
  match ← f.present? v with
  | some v => return some (← read v)
  | none => return none

/-- A text that there may be none of. -/
def optionalText? : ν → m (Option String) :=
  f.optional? f.text?

/-- A list of texts. -/
def texts? (v : ν) : m (List String) := do
  (← f.items? v).mapM f.text?

/-- A number below the bound. -/
def natBelow? (bound : Nat) (v : ν) : m Nat := do
  let n ← f.nat? v
  if n < bound then return n else throw ()

/-- A field, or what stands for it where it is left out. -/
def field (fields : List (String × ν)) (name : String) (read : ν → m α) (default : α) : m α :=
  match fields.lookup name with
  | some v => read v
  | none => pure default

/-! ## The parts -/

/-- The session of the administrator. -/
def connection? (v : ν) : m ConnectionSettings := do
  let fields ← f.fields? ["host", "port", "admin", "password", "key_path", "key_passphrase",
    "use_agent", "strict_host_key_checking", "connect_timeout"] v
  let d : ConnectionSettings := {}
  let port ← field fields "port" (f.natBelow? UInt16.size) d.port.toNat
  let timeout ← field fields "connect_timeout" (f.natBelow? UInt64.size) d.connectTimeout.toNat
  return {
    host := ← field fields "host" f.text? d.host
    port := .ofNat port
    admin := ← field fields "admin" f.text? d.admin
    password := ← field fields "password" f.optionalText? d.password
    keyPath := ← field fields "key_path" f.optionalText? d.keyPath
    keyPassphrase := ← field fields "key_passphrase" f.optionalText? d.keyPassphrase
    useAgent := ← field fields "use_agent" f.flag? d.useAgent
    strictHostKeyChecking :=
      ← field fields "strict_host_key_checking" f.flag? d.strictHostKeyChecking
    connectTimeout := .ofNat timeout }

/-- How to get root rights. -/
def elevation? (v : ν) : m ElevationSettings := do
  let fields ← f.fields? ["root", "sudo_password"] v
  let d : ElevationSettings := {}
  return {
    root := ← field fields "root" f.flag? d.root
    sudoPassword := ← field fields "sudo_password" f.optionalText? d.sudoPassword }

/-- What to assume for accounts. -/
def accounts? (v : ν) : m AccountSettings := do
  let fields ← f.fields? ["base_home_directory", "create_home_directory", "delete_home_directory",
    "default_shell", "disable_date", "ssh_dir_permissions", "ssh_key_permissions",
    "sudoers_directory"] v
  let d : AccountSettings := {}
  return {
    baseHomeDirectory := ← field fields "base_home_directory" f.text? d.baseHomeDirectory
    createHomeDirectory := ← field fields "create_home_directory" f.flag? d.createHomeDirectory
    deleteHomeDirectory := ← field fields "delete_home_directory" f.flag? d.deleteHomeDirectory
    defaultShell := ← field fields "default_shell" f.optionalText? d.defaultShell
    disableDate := ← field fields "disable_date" f.text? d.disableDate
    keyDirectoryMode := ← field fields "ssh_dir_permissions" f.text? d.keyDirectoryMode
    keyFileMode := ← field fields "ssh_key_permissions" f.text? d.keyFileMode
    sudoersDirectory := ← field fields "sudoers_directory" f.text? d.sudoersDirectory }

/-- The names of attributes. -/
def fieldNames? (v : ν) : m FieldNames := do
  let fields ← f.fields? ["comment", "shell", "home_directory"] v
  let d : FieldNames := {}
  return {
    comment := ← field fields "comment" f.text? d.comment
    shell := ← field fields "shell" f.text? d.shell
    homeDirectory := ← field fields "home_directory" f.text? d.homeDirectory }

/-- A diagnostic. -/
def diagnostic? (v : ν) : m Diagnostic := do
  let fields ← f.fields? ["failure", "not_found", "ignore", "confirmation"] v
  return {
    failure := ← field fields "failure" f.texts? []
    notFound := ← field fields "not_found" f.texts? []
    ignore := ← field fields "ignore" f.texts? []
    confirmation := ← field fields "confirmation" f.optionalText? none }

/-- Entries for the catalogue of diagnostics. Of two for one kind of command the later counts. -/
def diagnostics? (v : ν) : m Overrides := do
  (← f.entries? v).foldlM (fun (o : Overrides) (key, v) => do
    match Operation.ofName? key with
    | some operation => return o.insert operation (← f.diagnostic? v)
    | none => throw ()) .empty

/-- The settings. -/
def settings? (v : ν) : m Settings := do
  let fields ← f.fields? ["connection", "elevation", "accounts", "attributes", "diagnostics"] v
  return {
    connection := ← field fields "connection" f.connection? {}
    elevation := ← field fields "elevation" f.elevation? {}
    accounts := ← field fields "accounts" f.accounts? {}
    fieldNames := ← field fields "attributes" f.fieldNames? {}
    diagnostics := ← field fields "diagnostics" f.diagnostics? .empty }

end Format

end HostAccounts
