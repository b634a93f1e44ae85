import HelpFile.Main
import HelpFile.Writer.Session
import HelpFile.Proofs.Writing
import HelpFile.Proofs.Tag
import HelpFile.Proofs.Document
import HelpFile.Proofs.Contents
import HelpFile.Proofs.Anchors
import HelpFile.Proofs.Brackets
import HelpFile.Proofs.Nesting
import HelpFile.Proofs.Numbering
import HelpFile.Proofs.Tightness
import HelpFile.Proofs.Pruning
import HelpFile.Proofs.Spacing
import HelpFile.Proofs.Losses
import HelpFile.Proofs.Body
import HelpFile.Proofs.CodeLines
import HelpFile.Proofs.Placement
import HelpFile.Proofs.Entries
import HelpFile.Proofs.Opening
import HelpFile.Proofs.CommandLine.Classification
import HelpFile.Proofs.CommandLine.Reading
import HelpFile.Proofs.CommandLine.Precedence
import HelpFile.Proofs.FileTree
import HelpFile.Proofs.CommandLine.Outcomes
import HelpFile.Proofs.Settings.Entries
import HelpFile.Proofs.Settings.Discovery
import HelpFile.Proofs.Settings.Nearest
import HelpFile.Proofs.Settings.LastEntry
import HelpFile.Proofs.Session.Invariant
import HelpFile.Proofs.Session.Independence
import HelpFile.Proofs.Outline
import HelpFile.Proofs.Shape
import HelpFile.Proofs.Sweep
import HelpFile.Proofs.ItemLines
import HelpFile.Proofs.CodeDepth
import HelpFile.Proofs.Distinct
import HelpFile.Proofs.OneWord
import HelpFile.Proofs.Indentation
import HelpFile.Proofs.Rewind
import HelpFile.Proofs.Counters
