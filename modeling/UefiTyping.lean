import UefiTyping.Project.Json
import UefiTyping.Retype.Batch
import UefiTyping.TypeDatabase.Json
import UefiTyping.Proofs.Retype.Agenda
import UefiTyping.Proofs.Function.Containment
import UefiTyping.Proofs.Retype.Decision
import UefiTyping.Proofs.Retype.Justification
import UefiTyping.Proofs.Project.Run
import UefiTyping.Proofs.Project.RecordOrder
import UefiTyping.Proofs.Expr.Arithmetic
import UefiTyping.Proofs.Expr.ConstantAddress
import UefiTyping.Proofs.Expr.Meaning
import UefiTyping.Proofs.Expr.FoldedAddress
import UefiTyping.Proofs.Retype.Comparison
import UefiTyping.Proofs.Retype.DryRun
import UefiTyping.Proofs.Project.Rerun
import UefiTyping.Proofs.Project.Restriction
import UefiTyping.Proofs.Project.SkippedRecord
import UefiTyping.Proofs.Retype.Tally
import UefiTyping.Proofs.Project.BodySequence
import UefiTyping.Proofs.Project.Session
import UefiTyping.Proofs.Project.Persistence
import UefiTyping.Proofs.TypeDatabase.Persistence
import UefiTyping.Proofs.Uefi.Tables
import UefiTyping.Proofs.Retype.PointerStorage
import UefiTyping.Proofs.Project.PlainSlot
import UefiTyping.Proofs.Retype.TableLoad
import UefiTyping.Proofs.Protocol.RecordedName
import UefiTyping.Proofs.Retype.Namesake
import UefiTyping.Proofs.Retype.Redeclaration
import UefiTyping.Proofs.Project.SlotRoom
import UefiTyping.Proofs.CType.Building
import UefiTyping.Proofs.TypeDatabase.StructLayout
import UefiTyping.Proofs.CType.UnionLayout
import UefiTyping.Proofs.TypeDatabase.FieldOffset
import UefiTyping.Proofs.TypeDatabase.PointerLevels
import UefiTyping.Proofs.Program.SectionRead
import UefiTyping.Proofs.Program.FunctionRange
import UefiTyping.Proofs.Expr.NormalForm
import UefiTyping.Proofs.Service.Construction
import UefiTyping.Proofs.Retype.ArgumentAccess
import UefiTyping.Proofs.TypeDatabase.OwnLayout
import UefiTyping.Proofs.CType.ArrayDeclaration
import UefiTyping.Proofs.Function.PreOrder
import UefiTyping.Proofs.Function.StackSlots
