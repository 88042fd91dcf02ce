namespace PushLang

inductive Failure where
  | unknownInstruction (name : String)
  | notAnInstructionName (found : String)
  | invalidPattern (pattern : String)
  | noActiveInstructions
  | instructionFailed (operands reason : String)
  deriving DecidableEq

def Failure.message : Failure → String
  | .unknownInstruction name => "unknown instruction \"" ++ name ++ "\" in instruction set"
  | .notAnInstructionName found =>
    "instruction list must contain instruction names only, found " ++ found
  | .invalidPattern pattern => "invalid instruction pattern '" ++ pattern ++ "'"
  | .noActiveInstructions => "no active instructions to generate random code from"
  | .instructionFailed operands reason =>
    "instruction failed for arguments " ++ operands ++ ": " ++ reason

end PushLang
