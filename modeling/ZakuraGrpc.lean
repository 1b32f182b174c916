import ZakuraGrpc.Geyser.Checkpoint
import ZakuraGrpc.Geyser.MempoolView
import ZakuraGrpc.Geyser.PayloadUnion
import ZakuraGrpc.Geyser.EncodedLength
import ZakuraGrpc.Geyser.Plugin
import ZakuraGrpc.Geyser.UtxoStream
import ZakuraGrpc.Geyser.TransactionViews
import ZakuraGrpc.Geyser.EncoderFlags
import ZakuraGrpc.Geyser.TransparentTotals
import ZakuraGrpc.Geyser.RejectLists
import ZakuraGrpc.Geyser.MinHeight
import ZakuraGrpc.Geyser.Auth
import ZakuraGrpc.Geyser.TransactionIdFilter
import ZakuraGrpc.Client.DedupWindow
import ZakuraGrpc.Client.ReplayPoint
import ZakuraGrpc.Client.ParentLinks
import ZakuraGrpc.Client.Rollback
import ZakuraGrpc.Client.SkipToLive
import ZakuraGrpc.System.SpuriousGap
import ZakuraGrpc.System.Recovery
import ZakuraGrpc.System.SessionLink
import ZakuraGrpc.Geyser.FilterErrors
import ZakuraGrpc.Geyser.Keepalive
import ZakuraGrpc.System.Disconnect
import ZakuraGrpc.Geyser.ServiceHub
import ZakuraGrpc.Geyser.ServiceDelivery
import ZakuraGrpc.Geyser.StreamOrder
import ZakuraGrpc.Lib.Reaches
import ZakuraGrpc.Geyser.Progress
import ZakuraGrpc.Geyser.Readers
import ZakuraGrpc.Geyser.ReplayInfo
import ZakuraGrpc.Geyser.FilterMeaning
import ZakuraGrpc.Lib.Budget
import ZakuraGrpc.Client.Application
import ZakuraGrpc.System.Credentials
