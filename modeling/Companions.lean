import Companions.Console.FileTree
import Companions.Main
import Companions.Proofs.Assembly
import Companions.Proofs.Start.Draft
import Companions.Proofs.Start.Window
import Companions.Proofs.Execution.Documented
import Companions.Proofs.Start.Family
import Companions.Proofs.Execution.Memory
import Companions.Proofs.Execution.Rules
import Companions.Proofs.Execution.Starting
import Companions.Proofs.Execution.Showing
import Companions.Proofs.Execution.Binding
import Companions.Proofs.Contract
import Companions.Proofs.Execution.Returning
import Companions.Proofs.Delivery
import Companions.Proofs.Answering
import Companions.Proofs.Restoring
import Companions.Proofs.Overloads
import Companions.Proofs.ClassName
import Companions.Proofs.Manifest
import Companions.Proofs.Outcome
import Companions.Proofs.OrderKeys
import Companions.Proofs.Isolation
import Companions.Proofs.Defects
import Companions.Proofs.Rearrangement
import Companions.Proofs.Start.Drafting
import Companions.Proofs.Text.Blank
import Companions.Proofs.ValueType.Grammar
import Companions.Proofs.ValueType.Reading
import Companions.Proofs.ValueType.Printing
import Companions.Proofs.ValueType.Lookahead
import Companions.Proofs.ValueType.Unexpected
import Companions.Proofs.Imports
import Companions.Proofs.Placement
import Companions.Proofs.Paths
import Companions.Proofs.Confinement
import Companions.Proofs.Extensions
import Companions.Proofs.Bindings
import Companions.Proofs.Finishing
import Companions.Proofs.Constants
import Companions.Proofs.Statistics
import Companions.Proofs.Listing
import Companions.Proofs.Builtins
import Companions.Proofs.Text.Brackets
import Companions.Proofs.Source.Trees
import Companions.Proofs.Source.JavaReading
import Companions.Proofs.Source.KotlinReading
import Companions.Proofs.Source.Dialects
import Companions.Proofs.Source.JavaSpelling
import Companions.Proofs.Source.KotlinSpelling
import Companions.Proofs.Text.Casing
import Companions.Proofs.Text.Lines
import Companions.Proofs.Source.Quoted
import Companions.Proofs.Source.Pages
import Companions.Proofs.Source.OneLine
import Companions.Proofs.Source.Indentation
import Companions.Proofs.Source.Assertions
import Companions.Proofs.Source.Comment
import Companions.Proofs.Documentation
import Companions.Proofs.Start.Ring
import Companions.Proofs.Start.Enumeration
import Companions.Proofs.Selections
import Companions.Proofs.Intake
import Companions.Proofs.Grouping
import Companions.Proofs.Defaults
import Companions.Proofs.Keys
import Companions.Proofs.Absence
import Companions.Proofs.Words
import Companions.Proofs.Vocabulary
import Companions.Proofs.Source.JavaNames
import Companions.Proofs.Source.Renaming
import Companions.Proofs.Source.KotlinNames
