import ClassFormat.Access
import ClassFormat.Attribute.Basic
import ClassFormat.Attribute.Reader
import ClassFormat.Bytes.BigEndian
import ClassFormat.Bytes.Cursor
import ClassFormat.Bytes.Hex
import ClassFormat.ClassFile.Basic
import ClassFormat.ClassFile.Reader
import ClassFormat.CommandLine.Arguments
import ClassFormat.CommandLine.Folder
import ClassFormat.CommandLine.Session
import ClassFormat.Decoder
import ClassFormat.Descriptor.FieldType
import ClassFormat.Descriptor.Name
import ClassFormat.Descriptor.Signature
import ClassFormat.Fault
import ClassFormat.Instruction.Basic
import ClassFormat.Instruction.Opcode
import ClassFormat.Instruction.Reader
import ClassFormat.Journal
import ClassFormat.Listing.Contents
import ClassFormat.Listing.Outline
import ClassFormat.Listing.Palette
import ClassFormat.Main
import ClassFormat.Pool.Basic
import ClassFormat.Pool.Constant
import ClassFormat.Pool.Reader
import ClassFormat.Record
import ClassFormat.Text.CodeUnit
import ClassFormat.Text.Control
import ClassFormat.Text.Modified
import ClassFormat.Text.Printable
import ClassFormat.Text.Quoted
import ClassFormat.Walk
import ClassFormat.Proofs.Decoder.Extension
import ClassFormat.Proofs.ClassFile.Suffix
import ClassFormat.Proofs.Decoder.Law
import ClassFormat.Proofs.ClassFile.Journal
import ClassFormat.Proofs.ClassFile.Truncation
import ClassFormat.Proofs.Pool.Lookup
import ClassFormat.Proofs.ClassFile.Blame
import ClassFormat.Proofs.Decoder.Reading
import ClassFormat.Proofs.Descriptor.Grammar
import ClassFormat.Proofs.Descriptor.Package
import ClassFormat.Proofs.Instruction.Layout
import ClassFormat.Proofs.Text.RoundTrip
import ClassFormat.Proofs.RawClass.Basic
import ClassFormat.Proofs.RawClass.Pool
import ClassFormat.Proofs.RawClass.Attribute
import ClassFormat.Proofs.RawClass.RoundTrip
import ClassFormat.Proofs.Decoder.Ensures
import ClassFormat.Proofs.Instruction.CodeArray
import ClassFormat.Proofs.ClassFile.Consistency
import ClassFormat.Proofs.Pool.Slots
import ClassFormat.Proofs.ClassFile.Options
import ClassFormat.Proofs.ClassFile.Displacement
import ClassFormat.Proofs.ClassFile.Reports
import ClassFormat.Proofs.Bytes.Hex
import ClassFormat.Proofs.Listing.Disassembly
import ClassFormat.Proofs.Pool.Storage
import ClassFormat.Proofs.Walk.Windows
import ClassFormat.Proofs.Text.Grammar
import ClassFormat.Proofs.Text.OnePass
import ClassFormat.Proofs.Text.Standard
import ClassFormat.Proofs.Pool.Links
import ClassFormat.Proofs.Pool.Verification
import ClassFormat.Proofs.Text.Blame
import ClassFormat.Proofs.Instruction.Switch
import ClassFormat.Proofs.Attribute.Framing
import ClassFormat.Proofs.Attribute.Nesting
import ClassFormat.Proofs.Instruction.Search
import ClassFormat.Proofs.Listing.PoolLines
import ClassFormat.Proofs.Listing.Colour
import ClassFormat.Proofs.Listing.Writing
