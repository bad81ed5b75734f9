import Overlay.Cli.Run
import Overlay.Live.Assembly
import Overlay.Main
import Overlay.Markup.Compile
import Overlay.Proofs.Live.FailedUpdate
import Overlay.Proofs.Live.FailedBuild
import Overlay.Proofs.Element.Numbering
import Overlay.Proofs.Element.Ownership
import Overlay.Proofs.Event.Binding
import Overlay.Proofs.Event.Replay
import Overlay.Proofs.Event.Written
import Overlay.Proofs.Live.Rebuild
import Overlay.Proofs.Live.Toggling
import Overlay.Proofs.Live.Frozen
import Overlay.Proofs.Live.TopLevel
import Overlay.Proofs.Program.Selector
import Overlay.Proofs.Live.History
import Overlay.Proofs.Program.Layout
import Overlay.Proofs.Program.StyleName
import Overlay.Proofs.Program.Reading
import Overlay.Proofs.Element.Isomorphism
import Overlay.Proofs.Program.Isomorphism
import Overlay.Proofs.Style.Override
import Overlay.Proofs.Event.Writing
import Overlay.Proofs.Event.Latest
import Overlay.Proofs.Live.Refusal
import Overlay.Proofs.Element.Identifier
import Overlay.Proofs.Style.Reported
import Overlay.Proofs.Style.Isolation
import Overlay.Proofs.Style.Eligible
import Overlay.Proofs.Style.Order
import Overlay.Proofs.Style.Rendered
import Overlay.Proofs.Program.Styled
import Overlay.Proofs.Number.Overlong
import Overlay.Proofs.Style.Returns
import Overlay.Proofs.Event.Raised
import Overlay.Proofs.Number.Exact
import Overlay.Proofs.Style.Sealed
import Overlay.Proofs.Element.Attach
import Overlay.Proofs.Markup.Written
import Overlay.Proofs.Markup.FullText
import Overlay.Proofs.Markup.Visit
import Overlay.Proofs.Text.LiteralReading
import Overlay.Proofs.Style.AttributeText
import Overlay.Proofs.Style.Pixels
import Overlay.Proofs.Event.Carried
import Overlay.Proofs.Config.Outcome
