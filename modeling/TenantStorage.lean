import TenantStorage.Logging.Line
import TenantStorage.Settings.File
import TenantStorage.Simulation.Polling
import TenantStorage.Simulation.Step
import TenantStorage.Proofs.Program
import TenantStorage.Proofs.SortedMap
import TenantStorage.Proofs.Systems
import TenantStorage.Proofs.Memory.Passwords
import TenantStorage.Proofs.Credentials.Steps
import TenantStorage.Proofs.Credentials.Agreement
import TenantStorage.Proofs.Interleaving
import TenantStorage.Proofs.Credentials.Race
import TenantStorage.Proofs.Readiness
import TenantStorage.Proofs.Memory.Machines
import TenantStorage.Proofs.Provision.Steps
import TenantStorage.Proofs.Provision.Waiting
import TenantStorage.Proofs.Provision.Recovery
import TenantStorage.Proofs.Credentials.Unrotated
import TenantStorage.Proofs.Talk
import TenantStorage.Proofs.Credentials.HandOff
import TenantStorage.Proofs.Provision.Discipline
import TenantStorage.Proofs.Kubernetes.Server
import TenantStorage.Proofs.Kubernetes.Overwrite
import TenantStorage.Proofs.Provision.Isolation
import TenantStorage.Proofs.Provision.Tenants
import TenantStorage.Proofs.Provision.Repetition
import TenantStorage.Proofs.Json
import TenantStorage.Proofs.Octets
import TenantStorage.Proofs.Encoding
import TenantStorage.Proofs.Kubernetes.Codec
import TenantStorage.Proofs.Kubernetes.Paths
import TenantStorage.Proofs.Kubernetes.Refinement
import TenantStorage.Proofs.Memory.Histories
import TenantStorage.Proofs.Memory.Lookups
import TenantStorage.Proofs.Provision.Asks
import TenantStorage.Proofs.Provision.Histories
import TenantStorage.Proofs.Provision.Ledger
import TenantStorage.Proofs.Paired
import TenantStorage.Proofs.Memory.Hidden
import TenantStorage.Proofs.Provision.Secrecy
import TenantStorage.Proofs.Timing
import TenantStorage.Proofs.Pauses
import TenantStorage.Proofs.Provision.Arrival
import TenantStorage.Proofs.Provision.InterfaceNames
import TenantStorage.Proofs.Provision.Placement
import TenantStorage.Proofs.Provision.Submissions
import TenantStorage.Proofs.Provision.Growth
import TenantStorage.Proofs.LetterCase
import TenantStorage.Proofs.Blank
import TenantStorage.Proofs.Records
import TenantStorage.Proofs.Rest.Bodies
import TenantStorage.Proofs.Rest.Replies
import TenantStorage.Proofs.Rest.Urls
import TenantStorage.Proofs.Rest.Endpoints
import TenantStorage.Proofs.Logging.Caps
import TenantStorage.Proofs.Provision.Prefixes
import TenantStorage.Proofs.Kubernetes.Naming
import TenantStorage.Proofs.Credentials.Admission
import TenantStorage.Proofs.Generation
import TenantStorage.Proofs.Kubernetes.Authority
import TenantStorage.Proofs.Settings.Overlay
import TenantStorage.Proofs.Address
import TenantStorage.Proofs.Domain
import TenantStorage.Proofs.Percent
import TenantStorage.Proofs.Rest.AccountPaths
import TenantStorage.Proofs.Failure
import TenantStorage.Proofs.Rest.MachineRecords
