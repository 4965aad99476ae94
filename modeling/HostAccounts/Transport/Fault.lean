/-!
# Transport faults

What can go wrong between the program and the host, as seen by whoever uses a session, and as seen
by the client that keeps the connection. A client fault that means that the host turned the
credentials down is a rejection; every other one is a failure of the transport.
-/

set_option autoImplicit false

namespace HostAccounts

/-- Why a session did not answer. -/
inductive TransportFault where
  | failure (text : String)
  | rejected (text : String)
  | closed
  deriving DecidableEq, Repr

/-- The fault in words. -/
def TransportFault.message : TransportFault → String
  | failure text => "SSH transport failure: " ++ text
  | rejected text => "Authentication rejected: " ++ text
  | closed => "Session is closed"

/-- Why a client could not connect, log in or run a command. -/
inductive ClientFault where
  | addressInvalid (reason : String)
  | keyInvalid (reason : String)
  | keyRejected
  | passwordRejected
  | hostKeyRefused
  | agentUnreachable
  | agentListFailed
  | agentEmpty
  | agentRejected
  | timeout (seconds : Nat)
  | noExitStatus
  | protocol (reason : String)
  deriving DecidableEq, Repr

namespace ClientFault

/-- The fault in words. -/
def message : ClientFault → String
  | addressInvalid reason => "Unable to resolve address: " ++ reason
  | keyInvalid reason => "The key is invalid: " ++ reason
  | keyRejected => "The key was rejected by the server"
  | passwordRejected => "The password was rejected by the server"
  | hostKeyRefused => "Server host key check failed"
  | agentUnreachable => "Failed to connect to SSH agent"
  | agentListFailed => "Failed to request identities from SSH agent"
  | agentEmpty => "SSH agent has no identities"
  | agentRejected => "SSH agent authentication failed"
  | timeout seconds => s!"Connection timed out after {seconds} seconds"
  | noExitStatus => "The channel closed before the command reported an exit status"
  | protocol reason => "SSH error: " ++ reason

/-- The host turned the credentials down. -/
def isRejection : ClientFault → Bool
  | keyRejected | passwordRejected | agentRejected | agentEmpty => true
  | _ => false

/-- The fault as the user of a session sees it. -/
def toTransportFault (f : ClientFault) : TransportFault :=
  if f.isRejection then .rejected f.message else .failure f.message

end ClientFault

/-- What a command printed: its output, and behind it what it printed as errors. -/
def combinedOutput (output errors : String) : String :=
  output ++ errors

/-- How the key of a host is checked. -/
inductive HostKeyPolicy where
  /-- Not at all. -/
  | unchecked
  /-- Against the default list of known hosts, which is missing. -/
  | defaultList
  /-- Against the list of known hosts that was found. -/
  | knownHosts
  deriving DecidableEq, Repr

/-- The policy for a setting and the presence of the list of known hosts: a strict check without a
list turns every host down. -/
def HostKeyPolicy.choose (strict present : Bool) : HostKeyPolicy :=
  if !strict then unchecked else if present then knownHosts else defaultList

end HostAccounts
