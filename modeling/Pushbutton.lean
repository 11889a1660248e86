import Pushbutton.Main
import Pushbutton.Proofs.Json.Escape
import Pushbutton.Proofs.Json.Layout
import Pushbutton.Proofs.Json.WholeNumber
import Pushbutton.Proofs.Table
import Pushbutton.Service.App
import Pushbutton.Proofs.Json.RoundTrip
import Pushbutton.Proofs.Store.Contents
import Pushbutton.Proofs.Stage.Access
import Pushbutton.Proofs.Store.Refinement
import Pushbutton.Proofs.Workflow.Record
import Pushbutton.Proofs.Run.Trace
import Pushbutton.Proofs.Workflow.SaveLoad
import Pushbutton.Proofs.Run.Invariant
import Pushbutton.Proofs.Workflow.Edit
import Pushbutton.Proofs.Workflow.FreshId
import Pushbutton.Proofs.Workflow.Refusal
import Pushbutton.Proofs.Workflow.Legible
import Pushbutton.Proofs.Service.Document
import Pushbutton.Proofs.Service.ReadBack
import Pushbutton.Proofs.Run.Overlap
import Pushbutton.Proofs.Edit.Channel
import Pushbutton.Proofs.Stage.Spared
import Pushbutton.Proofs.Service.Refused
import Pushbutton.Proofs.Terminal.Refused
import Pushbutton.Proofs.Run.Reload
import Pushbutton.Proofs.Run.Footprint
import Pushbutton.Proofs.Run.Alongside
import Pushbutton.Proofs.Run.Surface
import Pushbutton.Proofs.Workflow.Move
import Pushbutton.Proofs.Workflow.History
import Pushbutton.Proofs.Service.SendBack
import Pushbutton.Proofs.Run.Refreshed
import Pushbutton.Proofs.Terminal.Rendering
import Pushbutton.Proofs.Workflow.Alter
import Pushbutton.Proofs.Workflow.Leftover
import Pushbutton.Proofs.Run.Inert
import Pushbutton.Proofs.Run.Skipped
import Pushbutton.Proofs.Run.Composed
import Pushbutton.Proofs.Run.Recalled
import Pushbutton.Proofs.Run.LastWriter
import Pushbutton.Proofs.Service.Play
import Pushbutton.Proofs.Store.Canonical
import Pushbutton.Proofs.Run.Told
import Pushbutton.Proofs.Run.Unkept
import Pushbutton.Proofs.Json.Visible
import Pushbutton.Proofs.Log.Timestamp
import Pushbutton.Proofs.Log.Line
import Pushbutton.Proofs.Workflow.Described
import Pushbutton.Proofs.Workflow.Appended
import Pushbutton.Proofs.Settings.Origins
import Pushbutton.Proofs.Log.Setup
