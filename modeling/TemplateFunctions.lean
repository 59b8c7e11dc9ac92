import TemplateFunctions.Main
import TemplateFunctions.Proofs.Fault
import TemplateFunctions.Proofs.Lines
import TemplateFunctions.Proofs.Factors
import TemplateFunctions.Proofs.Enclosure
import TemplateFunctions.Proofs.Escape
import TemplateFunctions.Proofs.Literal
import TemplateFunctions.Proofs.Scaffold
import TemplateFunctions.Proofs.Places
import TemplateFunctions.Proofs.Effect
import TemplateFunctions.Proofs.Fragments
import TemplateFunctions.Proofs.Agreement
import TemplateFunctions.Proofs.Emitters
import TemplateFunctions.Proofs.Reach
import TemplateFunctions.Proofs.Checking
import TemplateFunctions.Proofs.Output
import TemplateFunctions.Proofs.History
import TemplateFunctions.Proofs.Grammar
import TemplateFunctions.Proofs.Closing
import TemplateFunctions.Proofs.Distinct
import TemplateFunctions.Proofs.Acceptance
import TemplateFunctions.Proofs.Components
import TemplateFunctions.Proofs.Discovery
import TemplateFunctions.Proofs.Dispatch
import TemplateFunctions.Proofs.Report
import TemplateFunctions.Proofs.Slices
import TemplateFunctions.Proofs.Turns
import TemplateFunctions.Proofs.Loop
