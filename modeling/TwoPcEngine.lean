import TwoPcEngine.Protocol
import TwoPcEngine.Sql.Action
import TwoPcEngine.Db
import TwoPcEngine.Sql.Render
import TwoPcEngine.Node.Basic
import TwoPcEngine.Node.Prepare
import TwoPcEngine.Node.Store
import TwoPcEngine.Node.Audit
import TwoPcEngine.Node.Frame
import TwoPcEngine.Node.Schema
import TwoPcEngine.Coordinator.Execute
import TwoPcEngine.Cluster.Basic
import TwoPcEngine.Cluster.Election
import TwoPcEngine.Cluster.Elect
import TwoPcEngine.Cluster.Check
import TwoPcEngine.Cluster.Heartbeat
import TwoPcEngine.Cluster.Restore
import TwoPcEngine.Cluster.Persist
import TwoPcEngine.Cluster.Invariant
import TwoPcEngine.Cluster.Startup
import TwoPcEngine.Cluster.Participants
import TwoPcEngine.Cluster.Interleaved
import TwoPcEngine.Cluster.Live
import TwoPcEngine.System.World
import TwoPcEngine.System.Decision
import TwoPcEngine.System.Progress
import TwoPcEngine.System.Atomicity
import TwoPcEngine.Transport.Retry
