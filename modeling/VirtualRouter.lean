import VirtualRouter.Node.Session
import VirtualRouter.MacSwitch
import VirtualRouter.Advert.Socket
import VirtualRouter.PidFile
import VirtualRouter.Settings
import VirtualRouter.Main
import VirtualRouter.Proofs.TimerDiscipline
import VirtualRouter.Proofs.HostDiscipline
import VirtualRouter.Proofs.SplitBrain
import VirtualRouter.Proofs.AdvertGrammar
import VirtualRouter.Proofs.TimerPrecision
import VirtualRouter.Proofs.LiveMaster
import VirtualRouter.Proofs.PacketCodec
import VirtualRouter.Proofs.Statistics
import VirtualRouter.Proofs.IntactAdverts
import VirtualRouter.Proofs.BoundedWaits
import VirtualRouter.Proofs.OrderlyRelease
import VirtualRouter.Proofs.FailingCalls
import VirtualRouter.Proofs.Outside
import VirtualRouter.Proofs.RejectedDatagrams
import VirtualRouter.Proofs.FinalShutdown
import VirtualRouter.Proofs.ResponderReplies
import VirtualRouter.Proofs.ResponderFailures
import VirtualRouter.Proofs.AfterRelease
import VirtualRouter.Proofs.ChecksumWords
import VirtualRouter.Proofs.Bursts
import VirtualRouter.Proofs.TimerOperations
import VirtualRouter.Proofs.RouteRoundTrip
import VirtualRouter.Proofs.ChecksumFilling
import VirtualRouter.Proofs.DumpBounds
import VirtualRouter.Proofs.DumpCuts
import VirtualRouter.Proofs.RouteRestore
import VirtualRouter.Proofs.MacSwitching
import VirtualRouter.Proofs.ArpFrames
import VirtualRouter.Proofs.OneInstance
import VirtualRouter.Proofs.SettingsShadowing
