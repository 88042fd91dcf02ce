import PushLang.Stack.Basic
import PushLang.Text.Blank
import PushLang.Character.Case
import PushLang.Character.Property
import PushLang.Text.Quoted
import PushLang.Binary64.Arithmetic
import PushLang.Decimal.Layout
import PushLang.Decimal.Reader
import PushLang.Atom.Text
import PushLang.Program.Tree
import PushLang.Program.Parser
import PushLang.Stack.Family
import PushLang.Random.Code
import PushLang.Machine.Step
import PushLang.Pattern.Automaton
import PushLang.Pattern.Reader
import PushLang.Machine.Active
import PushLang.Machine.Text
import PushLang.Scripted
import PushLang.Proofs.Random.Code
import PushLang.Proofs.Builtin.Rearranging
import PushLang.Proofs.Builtin.Keeping
import PushLang.Proofs.Binary64.Bits
import PushLang.Proofs.Binary64.Nearest
import PushLang.Proofs.Builtin.Control
import PushLang.Proofs.Machine.Run
import PushLang.Proofs.Binary64.Sign
import PushLang.Proofs.Guarded.Random
import PushLang.Proofs.Machine.Growth
import PushLang.Proofs.Guarded.Machine
import PushLang.Proofs.Machine.Safety
import PushLang.Proofs.Program.Leaves
import PushLang.Proofs.Program.Lexing
import PushLang.Proofs.Program.Reading
import PushLang.Proofs.Decimal.Digits
import PushLang.Proofs.Decimal.Shortest
import PushLang.Proofs.Decimal.Text
import PushLang.Proofs.Atom.Equality
import PushLang.Proofs.Program.Words
import PushLang.Proofs.Program.RoundTrip
import PushLang.Proofs.Program.Addressing
import PushLang.Proofs.Program.Grammar
import PushLang.Proofs.Guarded.Program
import PushLang.Proofs.Program.Position
import PushLang.Proofs.Program.Replacement
import PushLang.Proofs.Builtin.Loops
import PushLang.Proofs.Builtin.Parts
import PushLang.Proofs.Machine.Budget
import PushLang.Proofs.Machine.Meaning
import PushLang.Proofs.Machine.Halting
import PushLang.Proofs.Machine.Sequence
import PushLang.Proofs.Machine.Finite
import PushLang.Proofs.Machine.Standard
import PushLang.Proofs.Machine.Isolation
import PushLang.Proofs.Machine.Symbols
import PushLang.Proofs.Builtin.Items
import PushLang.Proofs.Machine.Items
import PushLang.Proofs.Machine.RandomCode
import PushLang.Proofs.Program.Flattening
import PushLang.Proofs.Machine.History
import PushLang.Proofs.Machine.Passes
import PushLang.Proofs.Machine.Registered
import PushLang.Proofs.Machine.Entries
import PushLang.Proofs.Machine.Listing
import PushLang.Proofs.Builtin.Repetition
import PushLang.Proofs.Machine.Operands
import PushLang.Proofs.Builtin.Exchange
import PushLang.Proofs.Machine.Bindings
import PushLang.Proofs.Binary64.Comparison
import PushLang.Proofs.Stack.Equality
import PushLang.Proofs.Random.Range
import PushLang.Proofs.Builtin.Routing
import PushLang.Proofs.Stack.Position
import PushLang.Proofs.Builtin.Division
