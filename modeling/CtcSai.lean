import CtcSai.GroupHardware
import CtcSai.DropTags
import CtcSai.IsolationGroup
import CtcSai.AppCfgCells
import CtcSai.CfgComments
import CtcSai.WarmbootIdsRuns
import CtcSai.BulkFold
import CtcSai.AttrDispatch
import CtcSai.AttrLoops
import CtcSai.RouteCount
import CtcSai.MaxFrame
import CtcSai.MirrorAgree
import CtcSai.MirrorRate
import CtcSai.MirrorReserve
import CtcSai.MirrorRuns
import CtcSai.RifSubsRuns
import CtcSai.RifTraverse
import CtcSai.VlanFlood
import CtcSai.UdfHardwareRuns
import CtcSai.VlanMemberRuns
import CtcSai.BridgeResourceRuns
import CtcSai.BufferRuns
import CtcSai.AclBindRuns
import CtcSai.AclObjectRuns
import CtcSai.AclLookupType
import CtcSai.NeighborRecreate
import CtcSai.NeighborRollback
import CtcSai.NatKeys
import CtcSai.McastMembers
import CtcSai.WredRuns
import CtcSai.SchedulerRegsRuns
import CtcSai.EntryKeysUnmapped
import CtcSai.Fdb
import CtcSai.VlanStats
import CtcSai.WarmbootQuery
import CtcSai.ObjectQueries
import CtcSai.ObjectTable
import CtcSai.GroupGetters
import CtcSai.LockDiscipline
import CtcSai.RouteSet
