import LittleRed.Cluster.Rollout.Serialization
import LittleRed.Cluster.Rollout.Wedge
import LittleRed.Cluster.ReadyPods
import LittleRed.Startup.SentinelYield
import LittleRed.Startup.ClusterYield
import LittleRed.Failover.Authorization
import LittleRed.Cluster.OrphanRun
import LittleRed.Cluster.WipeRun
import LittleRed.Failover.ProbeDeath
import LittleRed.Failover.Spacing
import LittleRed.Operation.Rename
import LittleRed.Cluster.SlotRuns
import LittleRed.Cluster.ReshardRun
import LittleRed.Cluster.DanceFlip
import LittleRed.Cluster.Migration.SilentOwner
import LittleRed.Cluster.Migration.Progress
import LittleRed.Operation.Drain
import LittleRed.Operation.Preemption
import LittleRed.Replication.RecoveryRun
import LittleRed.Failover.Epochs
import LittleRed.Cluster.Rollout.Cursor
import LittleRed.Replication.NameSurvey
import LittleRed.Replication.Healing
import LittleRed.Lrctl.ClusterVerify
import LittleRed.Lrctl.Quiescence
import LittleRed.Lrctl.SentinelMasters
import LittleRed.Cluster.DanceBudget
import LittleRed.Failover.Monitor
import LittleRed.Operation.RequiresCycle
import LittleRed.Cluster.SlotTiling
import LittleRed.Cluster.MeetPaths
import LittleRed.Cluster.NodesText
import LittleRed.Lrctl.RedisExec
import LittleRed.Watch.Scope
import LittleRed.Controller.Labels
import LittleRed.Controller.Watchers
import LittleRed.Operation.Fingerprint
import LittleRed.Replication.InfoText
