import ByteMachine.Numeral
import ByteMachine.Opcode

/-!
# Faults

The reasons for which the machine refuses to go on. The first four are about the program, the last
one is about the channel that the program writes to.
-/
namespace ByteMachine

/-- Why a program could not be loaded or an instruction could not be executed. -/
inductive Fault where
  /-- The byte at the address stands for no opcode. -/
  | illegalInstruction (byte address : UInt8)
  /-- The opcode is not an arithmetic operation. -/
  | unsupportedOperation (opcode : Opcode)
  /-- The operand names no register. -/
  | invalidRegister (index : UInt8)
  /-- The image does not fit into memory. -/
  | programTooLarge (size capacity : Nat)
  /-- The output channel refused what was written to it. -/
  | output (reason : String)
  deriving DecidableEq, Repr

/-- What is said of an image that does not fit. -/
def tooLargeMessage (size capacity : Nat) : String :=
  "program is " ++ Numeral.decimal size ++ " bytes but memory only holds " ++
    Numeral.decimal capacity

namespace Fault

/-- The fault in words. -/
def message : Fault → String
  | illegalInstruction byte address =>
    "illegal instruction 0b" ++ Numeral.binary 8 byte.toNat ++ " at address 0x" ++
      Numeral.hex 2 address.toNat
  | unsupportedOperation opcode => "unsupported ALU operation " ++ opcode.mnemonic
  | invalidRegister index =>
    "register index " ++ Numeral.decimal index.toNat ++ " is out of range"
  | programTooLarge size capacity => tooLargeMessage size capacity
  | output reason => "failed to write output: " ++ reason

end Fault

end ByteMachine
