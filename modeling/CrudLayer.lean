import CrudLayer.Disk.Machine
import CrudLayer.Main
import CrudLayer.Proofs.Layout
import CrudLayer.Proofs.Paths
import CrudLayer.Proofs.Planning
import CrudLayer.Proofs.Operations
import CrudLayer.Proofs.Directories
import CrudLayer.Proofs.Runs
import CrudLayer.Proofs.Places
import CrudLayer.Proofs.Laying
import CrudLayer.Proofs.Staging
import CrudLayer.Proofs.Modes
import CrudLayer.Proofs.Ensuring
import CrudLayer.Proofs.RoundTrip
import CrudLayer.Proofs.Lines
import CrudLayer.Proofs.StoredNames
import CrudLayer.Proofs.Capitals
import CrudLayer.Proofs.Accepted
import CrudLayer.Proofs.MemberNames
import CrudLayer.Proofs.StoredApart
import CrudLayer.Proofs.NameForms
import CrudLayer.Proofs.SecondPass
import CrudLayer.Proofs.ReservedWords
import CrudLayer.Proofs.Filling
import CrudLayer.Proofs.Forms
import CrudLayer.Proofs.Characters
import CrudLayer.Proofs.CodeWords
import CrudLayer.Proofs.FormCharacters
import CrudLayer.Proofs.FormWords
import CrudLayer.Proofs.FileTexts
import CrudLayer.Proofs.Imports
import CrudLayer.Proofs.TypeNames
import CrudLayer.Proofs.TypesApart
import CrudLayer.Proofs.Variables
import CrudLayer.Proofs.SourceTree
import CrudLayer.Proofs.References
import CrudLayer.Proofs.Tokens
import CrudLayer.Proofs.ServiceMethods
import CrudLayer.Proofs.ClassLines
import CrudLayer.Proofs.FieldLines
import CrudLayer.Proofs.IdentityColumn
import CrudLayer.Proofs.Nesting
import CrudLayer.Proofs.Marks
import CrudLayer.Proofs.DocumentOrder
import CrudLayer.Proofs.FirstTable
import CrudLayer.Proofs.ServiceContract
import CrudLayer.Proofs.Outcomes
import CrudLayer.Proofs.TwoRuns
import CrudLayer.Proofs.Troubles
import CrudLayer.Proofs.FailedStaging
import CrudLayer.Proofs.WordNames
import CrudLayer.Proofs.NameGrammar
import CrudLayer.Proofs.CleanPrefix
import CrudLayer.Proofs.DryRun
import CrudLayer.Proofs.PackageGrammar
import CrudLayer.Proofs.ConfigChoice
import CrudLayer.Proofs.ConfigPrecedence
import CrudLayer.Proofs.ReadingLog
import CrudLayer.Proofs.JsonTexts
import CrudLayer.Proofs.InspectionTexts
import CrudLayer.Proofs.QuotedTexts
import CrudLayer.Proofs.GuardedMethods
import CrudLayer.Proofs.Verdicts
import CrudLayer.Proofs.IdentityGuards
