import FtpIntake.Pipeline.Faulty
import FtpIntake.Proofs.Connection.Channel
import FtpIntake.Proofs.Pipeline.History
import FtpIntake.Proofs.Server.Conversations
import FtpIntake.Proofs.Server.Directories
import FtpIntake.Proofs.Server.Origin
import FtpIntake.Proofs.Tree.History
import FtpIntake.Proofs.Upload.Interleaving
import FtpIntake.Proofs.Delivery
import FtpIntake.Proofs.Connection.Frame
import FtpIntake.Proofs.Request
import FtpIntake.Proofs.Connection.Access
import FtpIntake.Proofs.Connection.Stranger
import FtpIntake.Proofs.Server.Stranger
import FtpIntake.Proofs.Tree.Apart
import FtpIntake.Proofs.FactorySlot
import FtpIntake.Proofs.Server.Admission
import FtpIntake.Proofs.Server.Refusal
import FtpIntake.Proofs.Server.Shutdown
import FtpIntake.Proofs.Server.Clearing
import FtpIntake.Proofs.Connection.Return
import FtpIntake.Proofs.Exchange.Walk
import FtpIntake.Proofs.Server.Parent
import FtpIntake.Proofs.Server.Ports
import FtpIntake.Proofs.Path.Ancestor
import FtpIntake.Proofs.Exchange.Attributes
import FtpIntake.Proofs.Exchange.Listing
import FtpIntake.Proofs.Reply.Reading
import FtpIntake.Proofs.Request.Normal
import FtpIntake.Proofs.Exchange.Target
import FtpIntake.Proofs.Reply.Wording
import FtpIntake.Proofs.Listing.Options
import FtpIntake.Proofs.Help
import FtpIntake.Proofs.Config
