import Cuddl.Foundation.CString
import Cuddl.Foundation.Ledger
import Cuddl.Foundation.Machine
import Cuddl.Foundation.Search
import Cuddl.Kernel.Abstraction
import Cuddl.Kernel.Ioctl
import Cuddl.Kernel.Lookup
import Cuddl.Kernel.Manage
import Cuddl.Kernel.Refs
import Cuddl.Kernel.Register
import Cuddl.Kernel.System
import Cuddl.Kernel.Types
import Cuddl.Properties.Balance
import Cuddl.Properties.Exclusion
import Cuddl.Properties.Instances
import Cuddl.Properties.WildcardLookup
import Cuddl.Properties.Tokens
import Cuddl.User.Queries
import Cuddl.Properties.CleanUp
import Cuddl.Properties.FailedRequests
import Cuddl.User.Memregion
import Cuddl.Properties.Mapping
import Cuddl.Foundation.History
import Cuddl.Kernel.Janitor
import Cuddl.Properties.Decrement
import Cuddl.User.Processes
import Cuddl.Properties.ProcessTrees
import Cuddl.Properties.Pinning
import Cuddl.Properties.Releases
import Cuddl.User.Eventsrc
import Cuddl.Properties.Waiting
import Cuddl.User.Acquire
import Cuddl.Properties.Acquisition
import Cuddl.Properties.Enumeration
import Cuddl.Properties.Registry
import Cuddl.Properties.Registration
import Cuddl.User.Objects
import Cuddl.Properties.Ownership
import Cuddl.Properties.Identifiers
import Cuddl.User.ResourceID
import Cuddl.Properties.FullNames
import Cuddl.Properties.CleanUpEffect
import Cuddl.Properties.Retries
import Cuddl.Properties.NameParser
import Cuddl.Properties.NodeNames
import Cuddl.Properties.Numbering
import Cuddl.User.Arguments
import Cuddl.Properties.ClaimsByName
import Cuddl.Properties.Disclosure
import Cuddl.User.Strings
import Cuddl.Properties.StringQueries
import Cuddl.User.EventsrcSet
import Cuddl.Properties.EventSets
import Cuddl.Foundation.Packing
import Cuddl.Properties.Versions
import Cuddl.User.Version
import Cuddl.Properties.EventSetRuns
import Cuddl.Properties.PageRounding
import Cuddl.Properties.DeviceSearch
import Cuddl.User.CommitId
import Cuddl.Properties.Capabilities
import Cuddl.Foundation.Locking
import Cuddl.Kernel.Threads
import Cuddl.Properties.Serializability
import Cuddl.Kernel.Events
import Cuddl.Properties.EventDelivery
import Cuddl.Foundation.Resources
import Cuddl.Kernel.Allocation
import Cuddl.Properties.Memory
import Cuddl.Foundation.Paging
import Cuddl.Foundation.Refinement
import Cuddl.Foundation.Words
import Cuddl.Kernel.Nodes
import Cuddl.Properties.NodeRegions
import Cuddl.Properties.RegisterAccess
import Cuddl.Properties.SharedRegions
import Cuddl.Properties.SetWaits
import Cuddl.Properties.Applications
