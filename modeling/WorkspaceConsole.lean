import WorkspaceConsole.App
import WorkspaceConsole.Main
import WorkspaceConsole.Proofs.Explorer.Freshness
import WorkspaceConsole.Proofs.Explorer.Window
import WorkspaceConsole.Proofs.Session.Tickets
import WorkspaceConsole.Proofs.Store.Atomic
import WorkspaceConsole.Proofs.Store.Identity
import WorkspaceConsole.Proofs.Store.Naming
import WorkspaceConsole.Proofs.App.Delivery
import WorkspaceConsole.Proofs.App.Operation
import WorkspaceConsole.Proofs.Command
import WorkspaceConsole.Proofs.Store.Evaluation
import WorkspaceConsole.Proofs.Store.Growth
import WorkspaceConsole.Proofs.Store.Application
import WorkspaceConsole.Proofs.Store.Shape
import WorkspaceConsole.Proofs.Session.Bridged
import WorkspaceConsole.Proofs.Session.Shared
import WorkspaceConsole.Proofs.FrontEnds
import WorkspaceConsole.Proofs.Settings
import WorkspaceConsole.Proofs.Session.Argument
import WorkspaceConsole.Proofs.App.Freshness
import WorkspaceConsole.Proofs.LineMode
import WorkspaceConsole.Proofs.Session.OneLine
import WorkspaceConsole.Proofs.FileId.Exhaustion
import WorkspaceConsole.Proofs.Session.Leftover
import WorkspaceConsole.Proofs.Tree.Rows
import WorkspaceConsole.Proofs.Store.Independence
import WorkspaceConsole.Proofs.Explorer.Toggle
import WorkspaceConsole.Proofs.Session.Paste
import WorkspaceConsole.Proofs.Workspace.Lookup
import WorkspaceConsole.Proofs.Workspace.Creation
import WorkspaceConsole.Proofs.Workspace.Batch
import WorkspaceConsole.Proofs.Workspace.FileEdit
import WorkspaceConsole.Proofs.Grammar
import WorkspaceConsole.Proofs.Store.HandBuilt
import WorkspaceConsole.Proofs.FileId.Spelling
import WorkspaceConsole.Proofs.Screen.Paint
import WorkspaceConsole.Proofs.Screen.Pane
import WorkspaceConsole.Proofs.Screen.Cursor
import WorkspaceConsole.Proofs.Http.Reply
import WorkspaceConsole.Proofs.Session.Output
import WorkspaceConsole.Proofs.Store.Seeding
import WorkspaceConsole.Proofs.Explorer.Overflow
