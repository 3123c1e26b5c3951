import NativeBridge.Call.Host
import NativeBridge.Call.Parameter
import NativeBridge.Call.Request
import NativeBridge.Call.Shape
import NativeBridge.Call.VarArgs
import NativeBridge.Class.ArrayDescriptor
import NativeBridge.Class.Basic
import NativeBridge.Class.Builtin
import NativeBridge.Class.Inventory
import NativeBridge.Class.Member
import NativeBridge.Class.Registry
import NativeBridge.Class.Symbol
import NativeBridge.CommandLine.Arguments
import NativeBridge.CommandLine.LogFilter
import NativeBridge.CommandLine.Program
import NativeBridge.Decimal.Notation
import NativeBridge.Decimal.Shortest
import NativeBridge.Environment.Basic
import NativeBridge.Environment.Call
import NativeBridge.Environment.Container
import NativeBridge.Environment.Diagnostic
import NativeBridge.Environment.Field
import NativeBridge.Environment.Interface
import NativeBridge.Greeter.Basic
import NativeBridge.Handle
import NativeBridge.Linking.Descriptor
import NativeBridge.Linking.Inspection
import NativeBridge.Linking.Library
import NativeBridge.Linking.Linkage
import NativeBridge.Linking.Location
import NativeBridge.Linking.Module
import NativeBridge.Linking.Resolution
import NativeBridge.LogRecord
import NativeBridge.Main
import NativeBridge.Memory.AddressSpace
import NativeBridge.Memory.Block
import NativeBridge.Memory.Elements
import NativeBridge.Memory.Error
import NativeBridge.Memory.Instance
import NativeBridge.Memory.Store
import NativeBridge.Pattern.Basic
import NativeBridge.Pattern.Bracket
import NativeBridge.Pattern.CharSet
import NativeBridge.Pattern.Cursor
import NativeBridge.Pattern.Escape
import NativeBridge.Pattern.Fault
import NativeBridge.Pattern.Group
import NativeBridge.Pattern.Matcher
import NativeBridge.Pattern.Meaning
import NativeBridge.Pattern.Node
import NativeBridge.Pattern.Place
import NativeBridge.Pattern.Reader
import NativeBridge.Pattern.Size
import NativeBridge.Proofs.SingleRoundTrip
import NativeBridge.Sample.Account
import NativeBridge.Sample.Library
import NativeBridge.Sample.Probe
import NativeBridge.Sample.Words
import NativeBridge.Session.Basic
import NativeBridge.Text.Blank
import NativeBridge.Text.Column
import NativeBridge.Text.Hex
import NativeBridge.Text.Letter
import NativeBridge.Text.Occurrence
import NativeBridge.Text.Printable
import NativeBridge.Text.Quoted
import NativeBridge.Text.Ranges
import NativeBridge.Text.Utf16
import NativeBridge.Text.Utf8
import NativeBridge.Value.Basic
import NativeBridge.Value.Promotion
import NativeBridge.Value.Slot
import NativeBridge.Violation
import NativeBridge.Word.Floating
import NativeBridge.Word.LittleEndian
import NativeBridge.Proofs.ArgumentPassing
import NativeBridge.Proofs.CallForms
import NativeBridge.Proofs.ModuleLocation
import NativeBridge.Proofs.ResolutionOutcome
import NativeBridge.Proofs.ResolutionHistory
import NativeBridge.Proofs.ResolutionRun
import NativeBridge.Proofs.ClassIdentity
import NativeBridge.Proofs.MethodChoice
import NativeBridge.Proofs.ElementList
import NativeBridge.Proofs.ArrayElements
import NativeBridge.Proofs.InspectionMarks
import NativeBridge.Proofs.InstanceHeader
import NativeBridge.Proofs.ResolutionFootprint
import NativeBridge.Proofs.NestedResolution
import NativeBridge.Proofs.ResolutionOrder
import NativeBridge.Proofs.Reentrancy
import NativeBridge.Proofs.InterfaceCalls
import NativeBridge.Proofs.GreeterCallbacks
import NativeBridge.Proofs.SymbolReading
import NativeBridge.Proofs.SymbolNames
import NativeBridge.Proofs.CallGuards
import NativeBridge.Proofs.SlotBytes
import NativeBridge.Proofs.InterfaceRefinement
import NativeBridge.Proofs.MethodReach
import NativeBridge.Proofs.BlockWindows
import NativeBridge.Proofs.InstanceImage
import NativeBridge.Proofs.FieldAccess
import NativeBridge.Proofs.FieldEnd
import NativeBridge.Proofs.FieldFrame
import NativeBridge.Proofs.UnresolvedMembers
import NativeBridge.Proofs.Utf8Decoding
import NativeBridge.Proofs.ImportTable
import NativeBridge.Proofs.VariadicReads
import NativeBridge.Proofs.InventoryOrder
import NativeBridge.Proofs.ArrayCreation
import NativeBridge.Proofs.LossyDecoding
import NativeBridge.Proofs.ModuleNames
import NativeBridge.Proofs.DescriptorGrammar
import NativeBridge.Proofs.StringMethods
import NativeBridge.Proofs.ForeignHandles
import NativeBridge.Proofs.UnitCount
import NativeBridge.Proofs.StringCreation
import NativeBridge.Proofs.StringHash
import NativeBridge.Proofs.SlotReading
