import TemplateInspector.Engine.Script
import TemplateInspector.Fault
import TemplateInspector.Main
import TemplateInspector.Proofs.Controller.Debt
import TemplateInspector.Proofs.Controller.Commutation
import TemplateInspector.Proofs.Controller.Fate
import TemplateInspector.Proofs.Controller.Provenance
import TemplateInspector.Proofs.Controller.Deadline
import TemplateInspector.Proofs.Controller.SingleFlight
import TemplateInspector.Proofs.Controller.Burst
import TemplateInspector.Proofs.Controller.Fitting
import TemplateInspector.Proofs.Controller.Vocabulary
import TemplateInspector.Proofs.Engine.Lowering
import TemplateInspector.Proofs.Loop.Run
import TemplateInspector.Proofs.Loop.Rest
import TemplateInspector.Proofs.Loop.Publication
import TemplateInspector.Proofs.Registry.Validity
import TemplateInspector.Proofs.Template.Faults
import TemplateInspector.Proofs.Controller.Handover
import TemplateInspector.Proofs.Plugin.Enrollment
import TemplateInspector.Proofs.Cli.Precedence
import TemplateInspector.Proofs.Files.Resolution
import TemplateInspector.Proofs.Plugin.Whereabouts
import TemplateInspector.Proofs.Registry.Replay
import TemplateInspector.Proofs.Controller.Deselection
import TemplateInspector.Proofs.Emit.Literal
import TemplateInspector.Proofs.Plugin.Formats
import TemplateInspector.Proofs.Controller.Equipment
import TemplateInspector.Proofs.Loop.Announcement
import TemplateInspector.Proofs.Controller.Abandonment
import TemplateInspector.Proofs.Registry.Stability
import TemplateInspector.Proofs.Emit.Comments
import TemplateInspector.Proofs.Emit.Body
import TemplateInspector.Proofs.Engine.Verbatim
import TemplateInspector.Proofs.Syntax.Outline
import TemplateInspector.Proofs.Cli.Verdict
import TemplateInspector.Proofs.Emit.Layout
import TemplateInspector.Proofs.Controller.Workshop
import TemplateInspector.Proofs.Plugin.Leniency
import TemplateInspector.Proofs.Template.Hyphens
