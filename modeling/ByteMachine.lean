import ByteMachine.Main
import ByteMachine.Proofs.Failure
import ByteMachine.Proofs.Step
import ByteMachine.Proofs.Delivery
import ByteMachine.Proofs.Lines
import ByteMachine.Proofs.LineSink
import ByteMachine.Proofs.Resumption
import ByteMachine.Proofs.Dispatch
import ByteMachine.Proofs.Budget
import ByteMachine.Proofs.Transparency
import ByteMachine.Proofs.Reads
import ByteMachine.Proofs.Faults
import ByteMachine.Proofs.Recurrence
import ByteMachine.Proofs.Provenance
import ByteMachine.Proofs.History
import ByteMachine.Proofs.Halting
import ByteMachine.Proofs.Comparison
import ByteMachine.Proofs.Stack
import ByteMachine.Proofs.Observation
import ByteMachine.Proofs.Layout
import ByteMachine.Proofs.Encoding
import ByteMachine.Proofs.Account
import ByteMachine.Proofs.FixedCode
import ByteMachine.Proofs.Reload
import ByteMachine.Proofs.Output
import ByteMachine.Proofs.Transcript
import ByteMachine.Proofs.Truncation
import ByteMachine.Proofs.StackPointer
import ByteMachine.Proofs.Exit
import ByteMachine.Proofs.Grammar
import ByteMachine.Proofs.Rendering
import ByteMachine.Proofs.Numbers
import ByteMachine.Proofs.Residues
import ByteMachine.Proofs.SaveRestore
import ByteMachine.Proofs.Decoding
import ByteMachine.Proofs.Recognition
import ByteMachine.Proofs.Dump
import ByteMachine.Proofs.Course
import ByteMachine.Proofs.Reports
import ByteMachine.Proofs.Announcement
import ByteMachine.Proofs.Joining
import ByteMachine.Proofs.Separation
import ByteMachine.Proofs.Completion
import ByteMachine.Proofs.Assembly
import ByteMachine.Proofs.Contents
import ByteMachine.Proofs.StateTexts
