import Lineage.Display.ReportText
import Lineage.Failure.Construction
import Lineage.Script.Survey
import Lineage.Shape
import Lineage.Settings
import Lineage.Main
import Lineage.Proofs.Change
import Lineage.Proofs.Lasting
import Lineage.Proofs.Lasting.Defining
import Lineage.Proofs.Lasting.Scripting
import Lineage.Proofs.Examination
import Lineage.Proofs.Isolation
import Lineage.Proofs.Ancestry
import Lineage.Proofs.Matching
import Lineage.Proofs.Delegation
import Lineage.Proofs.Registry
import Lineage.Proofs.Announcement
import Lineage.Proofs.EntryPoints
import Lineage.Proofs.Spelling
import Lineage.Proofs.Checking
import Lineage.Proofs.EnumNotation
import Lineage.Proofs.Alternatives
import Lineage.Proofs.Steadiness
import Lineage.Proofs.Stability
import Lineage.Proofs.Naming
import Lineage.Proofs.Untenable
import Lineage.Proofs.Reporting
import Lineage.Proofs.Rereading
import Lineage.Proofs.Coherence
import Lineage.Proofs.Blame
import Lineage.Proofs.Precedence
import Lineage.Proofs.Precedence.Variables
import Lineage.Proofs.Loading
import Lineage.Proofs.ConfigFile
import Lineage.Proofs.Splitting
import Lineage.Proofs.Refusal
import Lineage.Proofs.ClassNames
import Lineage.Proofs.Inheritance
import Lineage.Proofs.Separation.Likeness
import Lineage.Proofs.Separation.Records
import Lineage.Proofs.Separation.Together
import Lineage.Proofs.Separation.Abreast
import Lineage.Proofs.Separation.Looking
import Lineage.Proofs.Separation.Using
import Lineage.Proofs.Separation.Calling
import Lineage.Proofs.Separation.Asking
import Lineage.Proofs.Separation.Defining
import Lineage.Proofs.Separation.Terms
import Lineage.Proofs.Separation.Performing
import Lineage.Proofs.Separation.Sharing
import Lineage.Proofs.EmptyNames
import Lineage.Proofs.Capabilities
import Lineage.Proofs.Equality
import Lineage.Proofs.Membership
import Lineage.Proofs.Reconfiguration
import Lineage.Proofs.Interchange
import Lineage.Proofs.Legibility
