import ToolView.Host.Dispatcher
import ToolView.Host.Renderer
import ToolView.Server.Session
import ToolView.Proofs.Bridge.Run
import ToolView.Proofs.Bridge.Lifecycle
import ToolView.Proofs.Bridge.Delivery
import ToolView.Proofs.Codec
import ToolView.Proofs.Wire
import ToolView.Proofs.Bridge.Picture
import ToolView.Proofs.Reach
import ToolView.Proofs.Bridge.Gate
import ToolView.Proofs.View.Address
import ToolView.Proofs.View.Routes
import ToolView.Proofs.Resolve
import ToolView.Proofs.Json.Written
import ToolView.Proofs.Rpc.Envelope
import ToolView.Proofs.Rpc.Stream
import ToolView.Proofs.Rpc.Framing
import ToolView.Proofs.Server.Conversation
import ToolView.Proofs.Server.Requests
import ToolView.Proofs.Protocol
import ToolView.Proofs.Bridge.Reply
import ToolView.Proofs.Server.Catalog
import ToolView.Proofs.View.Link
import ToolView.Proofs.Bridge.Page
import ToolView.Proofs.Bridge.Version
import ToolView.Proofs.Bridge.Mode
import ToolView.Proofs.Dispatch
import ToolView.Proofs.View.Loading
import ToolView.Proofs.View.Metadata
import ToolView.Proofs.View.Message
import ToolView.Proofs.Rpc.Kinds
import ToolView.Proofs.View.Spelling
import ToolView.Proofs.Server.AppTool
import ToolView.Proofs.View.Block
import ToolView.Proofs.Json.Wording
import ToolView.Proofs.Host.Settings
