import ReactiveView.Component.Draft
import ReactiveView.Config.Reading
import ReactiveView.Session.Basic
import ReactiveView.Template.Cache
import ReactiveView.Proofs.Tracked.Depth
import ReactiveView.Proofs.Tracked.Pairing
import ReactiveView.Proofs.Render.Lockstep
import ReactiveView.Proofs.Render.PairedMethods
import ReactiveView.Proofs.Render.Reading
import ReactiveView.Proofs.Render.Run
import ReactiveView.Proofs.Render.Together
import ReactiveView.Proofs.Render.Abreast
import ReactiveView.Proofs.Render.Agreement
import ReactiveView.Proofs.Render.Incremental
import ReactiveView.Proofs.Render.Sparse
import ReactiveView.Proofs.Render.Questions
import ReactiveView.Proofs.Tracked.Flow
import ReactiveView.Proofs.Tracked.OperationFlow
import ReactiveView.Proofs.Container.Workspace
import ReactiveView.Proofs.Container.Sound
import ReactiveView.Proofs.Container.Tracking
import ReactiveView.Proofs.Container.Watching
import ReactiveView.Proofs.Render.Mirror
import ReactiveView.Proofs.Render.Shown
import ReactiveView.Proofs.Session.Places
import ReactiveView.Proofs.Session.Renderings
import ReactiveView.Proofs.Session.Runs
import ReactiveView.Proofs.Session.Children
import ReactiveView.Proofs.Session.Delivery
import ReactiveView.Proofs.Render.Tags
import ReactiveView.Proofs.Session.Events
import ReactiveView.Proofs.Session.History
import ReactiveView.Proofs.Session.Subscriptions
import ReactiveView.Proofs.Session.Discipline
import ReactiveView.Proofs.Session.Dangling
import ReactiveView.Proofs.Container.Releasing
import ReactiveView.Proofs.Session.Destruction
import ReactiveView.Proofs.Container.Notifying
import ReactiveView.Proofs.Session.Pictures
import ReactiveView.Proofs.Session.Recipients
import ReactiveView.Proofs.Render.Following
import ReactiveView.Proofs.Component.CatchingUp
import ReactiveView.Proofs.Session.Books
import ReactiveView.Proofs.Session.Careful
import ReactiveView.Proofs.Session.Freshness
import ReactiveView.Proofs.Session.NeverStale
import ReactiveView.Proofs.Component.Likeness
import ReactiveView.Proofs.Session.Separate
import ReactiveView.Proofs.Session.Independence
import ReactiveView.Proofs.Container.Accounts
import ReactiveView.Proofs.Tracked.Writing
import ReactiveView.Proofs.Component.Uniform
import ReactiveView.Proofs.Container.Confined
import ReactiveView.Proofs.Container.Parallel
import ReactiveView.Proofs.Component.Private
import ReactiveView.Proofs.Component.Resemblance
import ReactiveView.Proofs.Session.Resemblance
import ReactiveView.Proofs.Session.Exchange
import ReactiveView.Proofs.Session.FirstFault
import ReactiveView.Proofs.Session.Furnished
import ReactiveView.Proofs.Session.Declared
import ReactiveView.Proofs.Session.Commuting
import ReactiveView.Proofs.Template.Roundtrip
import ReactiveView.Proofs.Template.Balance
import ReactiveView.Proofs.Template.Standalone
import ReactiveView.Proofs.Template.Coverage
import ReactiveView.Proofs.Template.Escaping
import ReactiveView.Proofs.Template.Closing
import ReactiveView.Proofs.Template.Impossible
import ReactiveView.Proofs.Template.Memo
import ReactiveView.Proofs.Template.Position
import ReactiveView.Proofs.Container.Undisturbed
import ReactiveView.Proofs.Container.Silence
import ReactiveView.Proofs.Session.Noticed
import ReactiveView.Proofs.Session.Current
import ReactiveView.Proofs.Render.Unwritten
import ReactiveView.Proofs.Render.Markup
import ReactiveView.Proofs.Render.Limits
import ReactiveView.Proofs.Render.Overlong
import ReactiveView.Proofs.Render.Arithmetic
import ReactiveView.Proofs.Template.Naming
import ReactiveView.Proofs.Render.Naming
import ReactiveView.Proofs.Text.Utf8
import ReactiveView.Proofs.Text.FormEncoding
import ReactiveView.Proofs.Message.Params
import ReactiveView.Proofs.Json.Grammar
import ReactiveView.Proofs.Json.Meaning
import ReactiveView.Proofs.Json.Printing
import ReactiveView.Proofs.Json.Fields
import ReactiveView.Proofs.Message.Batch
import ReactiveView.Proofs.Message.Envelope
import ReactiveView.Proofs.Tracked.PlainData
import ReactiveView.Proofs.Diagnostic
