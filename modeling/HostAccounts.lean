import HostAccounts.Main
import HostAccounts.Proofs.Calendar.DayByDay
import HostAccounts.Proofs.CommandLine.FilterExpression
import HostAccounts.Proofs.CommandLine.Grouping
import HostAccounts.Proofs.Diagnostics.Streams
import HostAccounts.Proofs.Provision.Agreement
import HostAccounts.Proofs.Provision.Composition
import HostAccounts.Proofs.Provision.Creation
import HostAccounts.Proofs.Provision.Enumeration
import HostAccounts.Proofs.Provision.KeyedSearch
import HostAccounts.Proofs.Provision.Membership
import HostAccounts.Proofs.Provision.Orphans
import HostAccounts.Proofs.Provision.Removal
import HostAccounts.Proofs.Provision.Revocation
import HostAccounts.Proofs.Recipe.Containment
import HostAccounts.Proofs.Recipe.Endings
import HostAccounts.Proofs.Recipe.GroupLists
import HostAccounts.Proofs.Recipe.MembershipSearch
import HostAccounts.Proofs.Recipe.NewHome
import HostAccounts.Proofs.Recipe.PasswordRecord
import HostAccounts.Proofs.Recipe.Redaction
import HostAccounts.Proofs.Recipe.RuleFile
import HostAccounts.Proofs.Recipe.Secrecy
import HostAccounts.Proofs.Recipe.StatusReport
