import Tina.Properties.KeepAliveFraming
import Tina.Properties.AppendGate
import Tina.Properties.OutboxRecovery
import Tina.Properties.WorkIds
import Tina.Properties.Alignment
import Tina.Properties.ReplyAuthority
import Tina.Properties.Settlement
import Tina.Properties.UnaryStatus
import Tina.Properties.ClientStreamIds
import Tina.Properties.ClientQueueBound
import Tina.Properties.ClientFlowControl
import Tina.Properties.PoolLeases
import Tina.Properties.PoolFairness
import Tina.Properties.TerminalLane
import Tina.Properties.ConnectRace
import Tina.Properties.EndpointAccounting
import Tina.Properties.RpcAnswers
import Tina.Properties.RpcConnectionLaw
import Tina.Properties.Mailboxes
import Tina.Spsc.Ring
import Tina.Properties.LocalPermits
import Tina.Properties.RoundOrder
import Tina.Persistence.Snapshot
import Tina.Http.WebSocket
import Tina.Http2.FrameCodec
import Tina.Properties.RestartBudget
import Tina.Properties.TraceRetention
import Tina.Http2.GrpcTrailers
import Tina.Sim.Shrink
