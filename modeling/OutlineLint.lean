import OutlineLint.Main
import OutlineLint.Proofs.Findings
import OutlineLint.Proofs.Passage
import OutlineLint.Proofs.Event
import OutlineLint.Proofs.Removal
import OutlineLint.Proofs.Draft
import OutlineLint.Proofs.Ownership
import OutlineLint.Proofs.Checker
import OutlineLint.Proofs.CommandLine
import OutlineLint.Proofs.Rendering
import OutlineLint.Proofs.Span
import OutlineLint.Proofs.PassageLines
import OutlineLint.Proofs.Json
import OutlineLint.Proofs.LineBreak
import OutlineLint.Proofs.NextSection
import OutlineLint.Proofs.ForeignEvents
import OutlineLint.Proofs.Insertion
import OutlineLint.Proofs.RoleWindow
import OutlineLint.Proofs.Session
import OutlineLint.Proofs.Fault
