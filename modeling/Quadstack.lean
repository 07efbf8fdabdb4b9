import Quadstack.Main
import Quadstack.Machine.Session
import Quadstack.Proofs.Stack.ByteLists
import Quadstack.Proofs.Machine.ActRelation
import Quadstack.Proofs.Machine.Lockstep
import Quadstack.Proofs.Machine.Runs
import Quadstack.Proofs.Machine.Execution
import Quadstack.Proofs.Machine.LiveActs
import Quadstack.Proofs.Machine.StepBudget
import Quadstack.Proofs.Machine.SameCourse
import Quadstack.Proofs.Machine.Scripts
import Quadstack.Proofs.Machine.History
import Quadstack.Proofs.Machine.Rerun
import Quadstack.Proofs.RegisterMachine.Checked
import Quadstack.Proofs.RegisterMachine.Bank
import Quadstack.Proofs.Machine.BankClient
import Quadstack.Proofs.RegisterMachine.Machine
import Quadstack.Proofs.RegisterMachine.Safety
import Quadstack.Proofs.Machine.PartialState
import Quadstack.Proofs.Machine.Operands
import Quadstack.Proofs.Image.ListingText
import Quadstack.Proofs.Machine.Disassembly
import Quadstack.Proofs.Machine.Landing
import Quadstack.Proofs.Word.Readings
import Quadstack.Proofs.Word.ExactArithmetic
import Quadstack.Proofs.Machine.ArithmeticUnit
import Quadstack.Proofs.Machine.FlagHistory
import Quadstack.Proofs.Machine.Emissions
import Quadstack.Proofs.Text.Utf8
import Quadstack.Proofs.Image.Codec
import Quadstack.Proofs.Image.Lossless
import Quadstack.Proofs.Image.Structured
import Quadstack.Proofs.Machine.LongerProgram
import Quadstack.Proofs.Machine.Delegation
import Quadstack.Proofs.Machine.FrameRule
import Quadstack.Proofs.Machine.Replay
import Quadstack.Proofs.Machine.JournalText
import Quadstack.Proofs.Machine.Transcript
import Quadstack.Proofs.CommandLine.ReportText
import Quadstack.Proofs.CommandLine.Answers
import Quadstack.Proofs.Machine.DataMovement
import Quadstack.Proofs.Machine.ReturnAddresses
import Quadstack.Proofs.Machine.FaultPlaces
import Quadstack.Proofs.Machine.ForwardPrograms
import Quadstack.Proofs.Word.BitwiseLogic
import Quadstack.Proofs.CommandLine.Flags
import Quadstack.Proofs.Image.Patching
import Quadstack.Proofs.Machine.BuiltLiterals
