import Omicron.Lib.SortedFinmap
import Omicron.Lib.ExceptRun
import Omicron.Lib.PrefixDecoder
import Omicron.Lib.XorLinear
import Omicron.Lib.Lagrange
import Omicron.Lib.BinarySearch
import Omicron.Lib.MaxHeap
import Omicron.Lib.ConsumingFind
import Omicron.Gfss.Gf256
import Omicron.Gfss.Polynomial
import Omicron.Gfss.Shamir
import Omicron.TrustQuorum.Types
import Omicron.TrustQuorum.Ledger
import Omicron.TrustQuorum.Crypto
import Omicron.TrustQuorum.Validators
import Omicron.TrustQuorum.Context
import Omicron.TrustQuorum.Coordinator
import Omicron.TrustQuorum.CoordinatorSpec
import Omicron.TrustQuorum.KeyShareComputer
import Omicron.TrustQuorum.RackSecretLoader
import Omicron.TrustQuorum.Node
import Omicron.TrustQuorum.NodeSpec
import Omicron.TrustQuorum.NodeRun
import Omicron.TrustQuorum.NodeEffect
import Omicron.TrustQuorum.Nexus
import Omicron.TrustQuorum.Cluster
import Omicron.TrustQuorum.ClusterInv
import Omicron.TrustQuorum.ClusterSafety
import Omicron.TrustQuorum.NexusRequests
import Omicron.Oxql.Value
import Omicron.Oxql.Point
import Omicron.Oxql.Table
import Omicron.Oxql.Ast
import Omicron.Oxql.Dnf
import Omicron.Oxql.FilterOp
import Omicron.Oxql.Limit
import Omicron.Oxql.Align
import Omicron.Oxql.Pushdown
import Omicron.Oxql.AlignRuns
import Omicron.Oxql.Delta
import Omicron.Oxql.Join
import Omicron.Oxql.GroupBy
import Omicron.Oxql.GroupBySum
import Omicron.Oximeter.Quantile
import Omicron.Native.Wire
import Omicron.Native.DataType
import Omicron.Native.Block
import Omicron.Native.TableColumns
import Omicron.Native.Packet
import Omicron.Native.TypeNames
import Omicron.Native.RoundTrip
import Omicron.UpdateEngine.StepData
import Omicron.Dns.Name
import Omicron.Dns.Store
import Omicron.Bootstore.RequestManager
import Omicron.Oximeter.Histogram
import Omicron.Oximeter.LogLinearBins
import Omicron.Planning.Clickhouse
import Omicron.Planning.MgsUpdates
import Omicron.Planning.ZonePlacement
import Omicron.Planning.ExternalIpPolicy
import Omicron.Planning.ExternalIpAllocator
import Omicron.Planning.ExternalNetworking
import Omicron.Sagas.InstanceUpdate
import Omicron.Gfss.Field
import Omicron.Gfss.Interpolation
import Omicron.Gfss.SplitCombine
